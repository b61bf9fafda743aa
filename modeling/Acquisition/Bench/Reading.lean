import Acquisition.Bench.Steps
import Acquisition.Sim.Scripted
/-!
Bench requests for the reader over a scripted sampler.
-/
namespace Acquisition.Bench

def asVector {α : Type} [Inhabited α] (name : String) (decode : Json → Run α) (j : Json) :
    Run (Vector α 4) := do
  let xs ← asList name j
  if xs.length != 4 then fieldRefusal name "want 4 values" else
  let vs ← xs.mapM decode
  pure (Vector.ofFn fun i => vs.getD i.val default)

def calibrationJson (c : Calibration) : Json :=
  .object [("mode", .int c.mode.code),
    ("offset", .array (c.offsets.toList.map Json.int)),
    ("gain", .array (c.gains.toList.map single)),
    ("transmission", .array (c.transmissions.toList.map single))]

def runOp {σ α : Type} (label : Cause → String) (op : Op σ α) (s : σ) (members : α → Members) :
    Members × σ :=
  match op.run' s with
  | (.ok a, s') => (members a, s')
  | (.error f, s') => (faultMembers label f, s')

def readerStep (label : Cause → String) (r : Reader Sim.ScriptedSampler) (step : Json) :
    Run (Members × Reader Sim.ScriptedSampler) := do
  let none' : Unit → Members := fun _ => []
  let (members, r) ← match ← string step "do" with
    | "set_mode" => do pure (runOp label (Reader.setMode (← int step "mode")) r none')
    | "set_offsets" => do
      let v ← asVector "values" (asInt "values") (← required step "values")
      pure (runOp label (Reader.setOffsets v) r none')
    | "set_gains" => do
      let v ← asVector "values" (asSingle "values") (← required step "values")
      pure (runOp label (Reader.setGains v) r none')
    | "set_transmissions" => do
      let v ← asVector "values" (asSingle "values") (← required step "values")
      pure (runOp label (Reader.setTransmissions v) r none')
    | "setup" => pure (runOp label (Reader.setup Sim.scriptedSampler) r none')
    | "start" => pure (runOp label (Reader.start Sim.scriptedSampler) r none')
    | "stop" => pure (runOp label (Reader.stop Sim.scriptedSampler) r none')
    | "read" => do
      let fail ← boolOr step "fail" false
      let frames ← (← listOr step "frames").mapM (asFrame "frames")
      let next := if fail then .error Sim.injected else .ok frames
      let r := { r with sampler.next := next }
      pure (runOp label (Reader.read Sim.scriptedSampler) r fun b => [("batch", batch b)])
    | "calibration" => pure ([("calibration", calibrationJson r.calibration)], r)
    | other => refuse ("unknown reader step " ++ Text.quote other)
  pure (members ++ [("armed", .bool r.armed), ("sampler_mode", .int r.sampler.mode.code)], r)

def reader (label : Cause → String) (request : Json) : Run Json := do
  let chunk ← intOr request "chunk_size" defaultChunkSize
  return (← stepsAnswer (readerStep label) (Reader.new {} chunk) request).1

end Acquisition.Bench
