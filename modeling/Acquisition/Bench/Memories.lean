import Acquisition.Bench.Registers
import Acquisition.Sim.Eeproms
import Acquisition.Eeprom.Header
import Acquisition.Eeprom.I2cMemory
/-! Bench requests for the identification memory: header decoding, chunked I2C reads and paged SPI
writes. -/
namespace Acquisition.Bench

open Eeprom

def headerJson (h : Header) : Json :=
  .object [("signature", .string (hexBytes ⟨h.signature.toArray⟩)), ("version", .nat h.version.toNat),
    ("num_atoms", .nat h.atoms), ("length", .nat h.length)]

def eepromParse (label : Cause → String) (request : Json) : Run Json := do
  match Header.parse (← asBytes "hex" (← required request "hex")) with
  | .ok h => pure (headerJson h)
  | .error f => pure (.object (faultMembers label f))

def script (request : Json) (name : String) : Run (List Sim.Injection) := do
  (← listOr request name).mapM fun j => do
    match Sim.Injection.ofName? (← asString name j) with
    | some i => pure i
    | none => fieldRefusal name "want ok, busy or fail"

def eepromI2c (label : Cause → String) (request : Json) : Run Json := do
  let memory ← bytesOr request "memory"
  let device ← intOr request "dev_address" 0x50
  let action ← stringOr request "action" "read"
  let address ← intOr request "address" 0
  let length ← intOr request "length" 0
  let faults ← script request "faults"
  let chip : Sim.I2cEeprom := { memory, script := faults }
  let dev := device.toNat.toUInt8
  let read := i2cRead Sim.i2cEepromBus dev
  let (members, chip) ← match action with
    | "read" => pure (runOp label (read (Int.toNat (address % Nat.pow 2 32)).toUInt32 length.toNat) chip
        fun d => [("data", .string (hexBytes d))])
    | "header" => pure (runOp label (Header.read read) chip fun h => [("header", headerJson h)])
    | "verify" => pure (runOp label (Header.read read) chip fun _ => [])
    | other => refuse ("unknown action " ++ Text.quote other)
  pure (.object (members ++ [("log", .array (chip.record.toList.map Json.string))]))

def spiStep (label : Cause → String) (conn : SpiConnection Sim.SpiEeprom) (chip : Sim.SpiEeprom)
    (step : Json) : Run (Members × Sim.SpiEeprom) := do
  let chip := { chip with record := #[] }
  let (members, chip) ← match ← string step "do" with
    | "read" => do
      let address ← asWord "address" (← required step "address")
      let length ← int step "length"
      pure (runOp label (spiRead conn (address % Nat.pow 2 32).toUInt32 length.toNat) chip
        fun d => [("data", .string (hexBytes d))])
    | "write" => do
      let address ← asWord "address" (← required step "address")
      let data ← asBytes "hex" (← required step "hex")
      pure (runOp label (spiWrite conn (address % Nat.pow 2 32).toUInt32 data) chip fun _ => [])
    | "start" | "halt" => pure ([], chip)
    | other => refuse ("unknown eeprom step " ++ Text.quote other)
  pure (members ++ [("log", .array (chip.record.toList.map Json.string))], chip)

def eepromSpi (label : Cause → String) (request : Json) : Run Json := do
  let memory ← bytesOr request "memory"
  let polls ← intOr request "wip_polls" 0
  let forever ← boolOr request "wip_forever" false
  let missing ← boolOr request "no_connection" false
  let faults ← script request "faults"
  let chip := { Sim.SpiEeprom.new memory with busyPolls := polls.toNat, forever, script := faults }
  let conn : SpiConnection Sim.SpiEeprom := if missing then noCommands else .ok Sim.spiEepromCommands
  return (← stepsAnswer (spiStep label conn) chip request).1

end Acquisition.Bench
