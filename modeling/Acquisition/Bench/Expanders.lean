import Acquisition.Bench.Memories
import Acquisition.Sim.ExpanderChip
import Acquisition.Expander
/-!
Bench requests for the port expander over a simulated chip.
-/
namespace Acquisition.Bench

structure ExpanderBench where
  device : Expander × Sim.ExpanderChip
  pins : Array ExpanderPin := #[]

def bankOf (index : Int) : Run Bank :=
  if index == 0 then pure .a
  else if index == 1 then pure .b
  else throw (.panic (Abort.outOfRange index 2).message)

def expanderStep (label : Cause → String) (b : ExpanderBench) (step : Json) :
    Run (Members × ExpanderBench) := do
  let faults ← script step "faults"
  let bankIndex ← intOr step "bank" 0
  let (x, chip) := b.device
  let dev : Expander × Sim.ExpanderChip := (x, { chip with script := faults, record := #[] })
  let bus := Sim.expanderBus
  let simple {α : Type} (op : Op (Expander × Sim.ExpanderChip) α) (members : α → Members) :
      Members × ExpanderBench :=
    let (m, d) := runOp label op dev members
    (m, { b with device := d })
  let pinAt : Run ExpanderPin := do
    let i ← int step "pin"
    if h : 0 ≤ i ∧ i.toNat < b.pins.size then pure b.pins[i.toNat] else refuse ("no pin " ++ toString i)
  let (members, b) ← match ← string step "do" with
    | "init" => do
      let v ← int step "value"
      pure (simple (Expander.init bus (← bankOf bankIndex) v.toNat.toUInt8) fun _ => [])
    | "pullup" => do
      let v ← int step "value"
      pure (simple (Expander.pullUp bus (← bankOf bankIndex) v.toNat.toUInt8) fun _ => [])
    | "write_port" => do
      let v ← int step "value"
      pure (simple (Expander.writePort bus (← bankOf bankIndex) v.toNat.toUInt8) fun _ => [])
    | "read_port" => do
      let bank ← bankOf bankIndex
      let (m, d) := runOp label (Expander.readPort bus bank) dev fun v => [("value", .nat v.toNat)]
      let m := if m.any (·.1 == "value") then m else m ++ [("value", .nat 0)]
      pure (m, { b with device := d })
    | "read_settings" =>
      let (m, d) := runOp label (Expander.readSettings bus) dev fun v => [("value", .nat v.toNat)]
      let m := if m.any (·.1 == "value") then m else m ++ [("value", .nat 0)]
      pure (m, { b with device := d })
    | "pin" => do
      let bit ← int step "bit"
      let bank ← if bit < 0 || bit > 7 then pure (if bankIndex == 1 then Bank.b else Bank.a)
        else bankOf bankIndex
      match (Expander.pin bus bank bit).run' dev with
      | (.ok p, d) => pure ([("pin", .nat b.pins.size)], { b with device := d, pins := b.pins.push p })
      | (.error f, d) => pure (faultMembers label f, { b with device := d })
    | "pin_set" => do
      let p ← pinAt
      let level ← asBool "level" (← required step "level")
      pure (simple (Expander.setPin bus p level) fun _ => [])
    | "pin_readback" => do
      let p ← pinAt
      pure ([("level", .bool (Expander.latched x p))], { b with device := dev })
    | "pin_get" => do
      let p ← pinAt
      pure (simple (Expander.sensePin bus p) fun l => [("level", .bool l)])
    | "poke" => do
      let reg ← int step "reg"
      let v ← int step "value"
      pure ([], { b with device := (x, { dev.2 with
        registers := dev.2.registers.setIfInBounds reg.toNat v.toNat.toUInt8 }) })
    | "bank_name" => pure ([("name", .string (if bankIndex == 1 then "B" else "A"))], { b with device := dev })
    | other => refuse ("unknown mcp23017 step " ++ Text.quote other)
  let log := b.device.2.record.toList.map Json.string
  pure (members ++ [("log", .array log)], b)

def expander (label : Cause → String) (request : Json) : Run Json := do
  let address ← intOr request "address" 0x21
  let limit ← intOr request "retry_limit" 1
  let x := Expander.new address.toNat.toUInt8 limit
  return (← stepsAnswer (expanderStep label) { device := (x, {}) } request).1

end Acquisition.Bench
