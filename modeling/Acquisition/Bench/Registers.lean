import Acquisition.Bench.Reading
import Acquisition.Sim.Lines
import Acquisition.ShiftRegister.Dms
/-! Bench requests for shift registers over simulated lines, and for the control register's output
names. -/
namespace Acquisition.Bench

open ShiftRegister

structure RegisterBench where
  wired : Wired (Array Sim.RegisterLines) := { lines := #[] }
  pins : Array Pin := #[]

def pinAt (b : RegisterBench) (step : Json) : Run (Nat × Pin) := do
  let i ← int step "pin"
  if h : 0 ≤ i ∧ i.toNat < b.pins.size then pure (i.toNat, b.pins[i.toNat])
  else refuse ("no pin " ++ toString i)

def takeRecords (lines : Array Sim.RegisterLines) : List Json × Array Sim.RegisterLines :=
  let changed := (List.range lines.size).filterMap fun i =>
    let r := (lines.getD i default).record
    if r.isEmpty then none else some (Json.object [("reg", .nat i), ("log", .string r)])
  (changed, lines.map fun l => { l with record := "" })

def wordText (w : UInt64) : Json := .string (toString w.toNat)

def registerStep (label : Cause → String) (b : RegisterBench) (step : Json) :
    Run (Members × RegisterBench) := do
  let arena := b.wired.arena
  let report {α : Type} (r : Except Fault α) (members : α → Members) : Members :=
    match r with
    | .ok a => members a
    | .error f => faultMembers label f
  let (members, b) ← match ← string step "do" with
    | "new_register" => do
      match arena.newRegister (← int step "bits") with
      | .ok (id, a) =>
        pure ([("id", .nat id)], { b with wired := { arena := a, lines := b.wired.lines.push {} } })
      | .error f => pure (faultMembers label f, b)
    | "pin" => do
      match arena.claim (← int step "reg") (← int step "bit") with
      | .ok (p, a) =>
        pure ([("pin", .nat b.pins.size)], { b with wired.arena := a, pins := b.pins.push p })
      | .error f => pure (faultMembers label f, b)
    | "free" => do pure (report (arena.free (← int step "reg")) fun w => [("free", wordText w)], b)
    | "value" => do pure (report (arena.value (← int step "reg")) fun w => [("value", wordText w)], b)
    | "set_value" => do
      let v ← word step "value"
      let (members, w) := runOp label (Wired.setValue Sim.setLine (← int step "reg") v.toUInt64) b.wired
        fun _ => []
      pure (members, { b with wired := w })
    | "pin_set" => do
      let (_, p) ← pinAt b step
      let level ← asBool "level" (← required step "level")
      let (members, w) := runOp label (Wired.setPin Sim.setLine p level) b.wired fun _ => []
      pure (members, { b with wired := w })
    | "pin_readback" | "pin_get" => do
      let (_, p) ← pinAt b step
      pure ([("level", .bool (b.wired.level p))], b)
    | "pin_release" => do
      let (i, p) ← pinAt b step
      let (p, w) := b.wired.release p
      pure ([], { b with wired := w, pins := b.pins.set! i p })
    | "pin_info" => do
      let (_, p) ← pinAt b step
      pure ([("reg", .nat p.register), ("bit", .nat p.bit)], b)
    | "fail" => do
      let reg ← int step "reg"
      let line ← match ← string step "line" with
        | "data" => pure Line.data
        | "clock" => pure Line.clock
        | "strobe" => pure Line.strobe
        | other => refuse ("unknown line " ++ Text.quote other)
      let after ← int step "after"
      if h : 0 ≤ reg ∧ reg.toNat < b.wired.lines.size then
        let l := b.wired.lines[reg.toNat]
        let c := if after ≥ 1 then some after.toNat else none
        pure ([], { b with wired.lines := b.wired.lines.set! reg.toNat (l.setCountdown line c) })
      else refuse ("no register " ++ toString reg)
    | other => refuse ("unknown shiftreg step " ++ Text.quote other)
  let (wires, lines) := takeRecords b.wired.lines
  let members := if wires.isEmpty then members else members ++ [("wires", .array wires)]
  pure (members, { b with wired.lines := lines })

def registers (label : Cause → String) (request : Json) : Run Json := do
  return (← stepsAnswer (registerStep label) {} request).1

def dmsParse (label : Cause → String) (request : Json) : Run Json := do
  match parseDmsPin (← string request "name") with
  | .ok bit => pure (.object [("bit", .nat bit)])
  | .error f => pure (.object (faultMembers label f))

def dmsName (request : Json) : Run Json := do
  pure (.object [("name", .string (dmsPinName (← int request "bit")))])

end Acquisition.Bench
