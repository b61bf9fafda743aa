import Acquisition.Bench.Boards
import Acquisition.Bench.Memories
import Acquisition.Sim.Machine
import Acquisition.Sim.Pin
/-! Bench requests for the host's lines, serial ports and I2C bus on a simulated machine, set up
from the request's members and reported as the lines driven and the bus transactions. -/
namespace Acquisition.Bench

open Sim

def machineOf (request : Json) : Run Machine := do
  let memory ← bytesOr request "eeprom"
  let expander ← bytesOr request "expander"
  let faults ← script request "i2c_faults"
  let pattern ← bytesOr request "data_pattern"
  let replyList ← (← listOr request "reply_list").mapM (asString "reply_list")
  let replies ← match member? request "replies" with
    | some j => asReplies j
    | none => pure []
  let registers := (expander.toList ++ List.replicate (0x16 - expander.size) 0).toArray
  pure { memory, pattern, registers, script := faults,
         control := { controller with replyList, replies := replies ++ controller.replies } }

def pinsJson (m : Machine) : Json := .object (m.drives.map fun (name, log) => (name, .string log))

def transactionsJson (m : Machine) : Json := .array (m.transactions.toList.map Json.string)

def lineStep {ω : Type} (label : Cause → String) (lines : Lines ω) (drive : Bool → ω → ω)
    (state : Host.Line × ω) (step : Json) : Run (Members × (Host.Line × ω)) := do
  let (l, w) := state
  match ← string step "do" with
  | "set" => do
    let level ← boolOr step "level" false
    match (Host.Line.set lines l level).run' w with
    | (.ok l', w') => pure ([], (l', w'))
    | (.error f, w') => pure (faultMembers label f, (l, w'))
  | "readback" => pure ([("level", .bool (Host.Line.readback lines l w))], state)
  | "get" => pure ([("level", .bool (Host.Line.get lines l w))], state)
  | "drive" => do pure ([], (l, drive (← boolOr step "level" false) w))
  | other => refuse ("unknown line step " ++ Text.quote other)

def hostPin (label : Cause → String) (request : Json) : Run Json := do
  let name ← stringOr request "name" ""
  let initial ← boolOr request "initial" false
  let failing ← boolOr request "fail" false
  let drive : Bool → Pin → Pin := fun high p => { p with level := high }
  let step (state : Host.Line × Pin) (j : Json) : Run (Members × (Host.Line × Pin)) := do
    let failing ← boolOr j "fail" false
    let (members, (l, p)) ← lineStep label Pin.lines drive (state.1, { state.2 with failing }) j
    pure (members, (l, { p with failing := false }))
  match (Host.openOutput Pin.lines name).run' { name, level := initial, failing } with
  | (.error f, _) => pure (.object (faultMembers label f))
  | (.ok l, p) =>
    let (answers, _) ← runSteps step (l, { p with failing := false }) (← listOr request "steps")
    pure (.object [("steps", .array answers)])

def hostOpen (label : Cause → String) (request : Json) : Run Json := do
  let m ← machineOf request
  let name ← stringOr request "name" ""
  let input ← boolOr request "input" false
  let lines := Machine.host.toLines
  let opened := if input then Host.openInput lines name else Host.openOutput lines name
  match opened.run' m with
  | (.error f, _) => pure (.object (faultMembers label f))
  | (.ok l, m) =>
    let drive : Bool → Machine → Machine := fun high m => m.setLevel l.name high
    let (answers, (_, m)) ← runSteps (lineStep label lines drive) (l, m) (← listOr request "steps")
    pure (.object [("steps", .array answers), ("pins", pinsJson m)])

def busStep (label : Cause → String) (buses : Buses Machine) (bus : String) (m : Machine)
    (step : Json) : Run (Members × Machine) := do
  let address := (← intOr step "addr" 0x50).toNat.toUInt8
  let dataMembers (n : Nat) (r : Except Fault ByteArray) : Members :=
    match r with
    | .ok bytes => [("data", .string (hexText bytes))]
    | .error f => ("data", .string (hexText ⟨Array.replicate n 0⟩)) :: faultMembers label f
  let unit (r : Except Fault Unit) : Members :=
    match r with
    | .ok () => []
    | .error f => faultMembers label f
  match ← string step "do" with
  | "read" => do
    let n := (← int step "length").toNat
    let (r, m) := (Host.busRead buses bus address n).run' m
    pure (dataMembers n r, m)
  | "write" => do
    let (r, m) := (Host.busWrite buses bus address (← bytesOr step "hex")).run' m
    pure (unit r, m)
  | "write_read" => do
    let n := (← int step "length").toNat
    let (r, m) := (Host.busWriteRead buses bus address (← bytesOr step "hex") n).run' m
    pure (dataMembers n r, m)
  | "set_speed" => do
    let (r, m) := (Host.busSpeed buses bus (← intOr step "hz" 0).toNat).run' m
    pure (unit r, m)
  | "release" => pure ([], m)
  | "close" => pure ([], m)
  | other => refuse ("unknown i2c step " ++ Text.quote other)

def i2cGeneric (label : Cause → String) (request : Json) : Run Json := do
  let m ← machineOf request
  let buses := Machine.host.toBuses
  let name? ← (member? request "name").mapM (asString "name")
  let opened := match name? with
    | some name => Host.openI2c buses name
    | none => .ok busName
  match opened with
  | .error f => pure (.object (faultMembers label f))
  | .ok bus =>
    let (answers, m) ← runSteps (busStep label buses bus) m (← listOr request "steps")
    pure (.object [("steps", .array answers), ("i2c", transactionsJson m)])

def portStep (label : Cause → String) (ports : Ports Machine) (port : String) (m : Machine)
    (step : Json) : Run (Members × Machine) := do
  match ← string step "do" with
  | "tx" => do
    let w ← bytesOr step "hex"
    match ((Host.serial ports port).exchange w).run' m with
    | (.ok r, m) => pure ([("rx", .string (hexText r))], m)
    | (.error f, m) => pure (("rx", .string (hexText ⟨Array.replicate w.size 0⟩)) :: faultMembers label f, m)
  | "close" => pure ([], m)
  | other => refuse ("unknown spi step " ++ Text.quote other)

def boardSpi (label : Cause → String) (request : Json) : Run Json := do
  let m ← machineOf request
  let name ← stringOr request "name" ""
  let hz ← intOr request "hz" 1000000
  let ports := Machine.host.toPorts
  match (Host.openSerial ports name hz.toNat).run' m with
  | (.error f, _) => pure (.object (faultMembers label f))
  | (.ok port, m) =>
    let (answers, _) ← runSteps (portStep label ports port) m (← listOr request "steps")
    pure (.object [("steps", .array answers)])

end Acquisition.Bench
