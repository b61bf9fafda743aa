import Acquisition.Bench.Expanders
import Acquisition.Sim.Hid
/-!
Bench requests for the USB bridge over a simulated device.
-/
namespace Acquisition.Bench

def asReply (j : Json) : Run Sim.HidReply := do
  match j with
  | .string _ => pure { response := (← asBytes "replies" j).toList }
  | .object _ => do
    let response ← bytesOr j "hex"
    let receiveCount ← (member? j "read_n").mapM (asInt "read_n")
    let sendCount ← (member? j "write_n").mapM (asInt "write_n")
    let receiveFails ← boolOr j "read_error" false
    let sendFails ← boolOr j "write_error" false
    pure { response := response.toList, receiveCount := receiveCount.map (·.toNat)
           receiveFails, sendCount := sendCount.map (·.toNat), sendFails }
  | _ => fieldRefusal "replies" "want a hex string or an object"

def statusJson (s : BridgeStatus) : Json :=
  .object [("buffer_counter", .nat s.bufferCounter), ("speed_divider", .nat s.speedDivider),
    ("timeout", .nat s.timeout), ("current_address", .string s.currentAddress),
    ("last_write_requested", .nat s.lastWriteRequested), ("last_write_sent", .nat s.lastWriteSent),
    ("read_pending", .nat s.readPending)]

def modesJson (modes : List UInt8) : Json :=
  .array (modes.map fun m => .object [("value", .nat m.toNat), ("name", .string (lineModeName m))])

def bytesJson (bs : List UInt8) : Json := .array (bs.map fun b => .nat b.toNat)

def asByteList (name : String) (j : Json) : Run (List UInt8) := do
  (← asList name j).mapM fun x => do pure (← asInt name x).toNat.toUInt8

structure BridgeBench where
  device : Sim.HidDevice := {}
  lines : Array BridgeLine := #[]

def bridgeStep (label : Cause → String) (b : BridgeBench) (step : Json) : Run (Members × BridgeBench) := do
  let replies ← (← listOr step "replies").mapM asReply
  let dev : Sim.HidDevice := { b.device with replies, record := #[] }
  let hid := Sim.hidDevice
  let simple {α : Type} (op : Op Sim.HidDevice α) (members : α → Members) : Members × BridgeBench :=
    let (m, d) := runOp label op dev members
    (m, { b with device := d })
  let lineAt : Run (Nat × BridgeLine) := do
    let i ← int step "pin"
    if h : 0 ≤ i ∧ i.toNat < b.lines.size then pure (i.toNat, b.lines[i.toNat])
    else refuse ("no pin " ++ toString i)
  let (members, b) ← match ← string step "do" with
    | "write" => do
      let addr ← intOr step "addr" 0x50
      let data ← bytesOr step "hex"
      pure (simple (Bridge.writeTo hid addr.toNat.toUInt8 data) fun _ => [])
    | "read" => do
      let addr ← intOr step "addr" 0x50
      let n ← int step "length"
      pure (simple (Bridge.readFrom hid addr.toNat.toUInt8 n.toNat) fun d => [("data", .string (hexBytes d))])
    | "status" => pure (simple (Bridge.status hid) fun s => [("status", statusJson s)])
    | "release_bus" => pure (simple (Bridge.releaseBus hid) fun s => [("status", statusJson s)])
    | "release" => pure (simple (Bridge.release hid) fun _ => [])
    | "set_gpio_params" => do
      let modes ← asByteList "mode" (← required step "mode")
      let designations ← asByteList "designation" (← required step "designation")
      pure (simple (Bridge.setLineParameters hid { modes, designations }) fun _ => [])
    | "get_gpio_params" => pure (simple (Bridge.lineParameters hid) fun p =>
        [("mode", modesJson p.modes), ("designation", bytesJson p.designations)])
    | "read_gpio" => pure (simple (Bridge.readLines hid) fun v =>
        [("mode", modesJson v.modes), ("value", bytesJson v.values)])
    | "write_gpio" => do
      let line ← int step "line"
      let level ← asBool "level" (← required step "level")
      pure (simple (Bridge.writeLine hid line level) fun _ => [])
    | "pin" => do
      match BridgeLine.new (← int step "line") with
      | .ok p => pure ([("pin", .nat b.lines.size)], { b with device := dev, lines := b.lines.push p })
      | .error f => pure (faultMembers label f, { b with device := dev })
    | "pin_set" => do
      let (i, p) ← lineAt
      let level ← asBool "level" (← required step "level")
      match (BridgeLine.set hid p level).run' dev with
      | (.ok p, d) => pure ([], { b with device := d, lines := b.lines.set! i p })
      | (.error f, d) => pure (faultMembers label f, { b with device := d })
    | "pin_readback" => do
      let (_, p) ← lineAt
      pure ([("level", .bool p.level)], { b with device := dev })
    | "pin_get" => do
      let (_, p) ← lineAt
      pure (simple (BridgeLine.get hid p) fun l => [("level", .bool l)])
    | "close" => pure (simple hid.close fun _ => [("closed", .bool true)])
    | other => refuse ("unknown mcp2221 step " ++ Text.quote other)
  pure (members ++ [("requests", .array (b.device.record.toList.map Json.string))], b)

def bridge (label : Cause → String) (request : Json) : Run Json := do
  let _ ← boolOr request "verbose" false
  return (← stepsAnswer (bridgeStep label) {} request).1

def adapterOpen (label : Cause → String) (request : Json) : Run Json := do
  let _ ← intOr request "index" 0
  pure (.object ([("list", .nat 0)] ++ faultMembers label (.of .notFound "MCP2221 device not found")))

end Acquisition.Bench
