import Acquisition.Bench.Steps
import Acquisition.Sample.Resampler
/-!
Bench requests for the resampler: batches fed in order, with resets between them.
-/
namespace Acquisition.Bench

def resamplerStep (r : Resampler) (step : Json) : Run (Members × Resampler) := do
  if ← boolOr step "reset" false then
    return ([("reset", .bool true)], r.reset)
  let input ← asBatch "batch" (← required step "batch")
  let (out, r) ← abortRun (r.resample input)
  pure ([("batch", batch out), ("len", .nat out.length)], r)

def resampling (label : Cause → String) (request : Json) : Run Json := do
  let target ← int request "target"
  let base ← int request "base"
  match Resampler.new target base with
  | .error f => pure (.object (faultMembers label f))
  | .ok r =>
    let (answer, _) ← stepsAnswer resamplerStep r request
    match answer with
    | .object members => pure (.object (members ++ [("target", .int target), ("base", .int base)]))
    | other => pure other

end Acquisition.Bench
