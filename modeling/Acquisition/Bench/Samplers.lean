import Acquisition.Bench.Reading
import Acquisition.Sample.SineSource
import Acquisition.Sim.Stream
/-! Bench requests for the streamed sampler over simulated parts and for the sine-wave stand-in. -/
namespace Acquisition.Bench

def framesJson (frames : List Frame) : Json :=
  .array (frames.map fun f => .array (f.toList.map fun v => .nat v.toNat))

def samplerStep {σ : Type} (label : Cause → String) (ops : Sampler σ) (s : σ) (step : Json) :
    Run (Members × σ) := do
  match ← string step "do" with
  | "configure" => do
    match Mode.ofCode (← int step "mode") with
    | .ok m => pure (runOp label (ops.configure m) s fun _ => [])
    | .error f => pure (faultMembers label f, s)
  | "arm" => pure (runOp label ops.arm s fun _ => [])
  | "disarm" => pure (runOp label ops.disarm s fun _ => [])
  | "read" => do
    let n ← int step "n"
    pure (runOp label (ops.readFrames n.toNat) s fun frames => [("frames", framesJson frames)])
  | other => refuse ("unknown sampler step " ++ Text.quote other)

def streamStep (label : Cause → String) (ops : Sampler Sim.StreamRig) (r : Sim.StreamRig)
    (step : Json) : Run (Members × Sim.StreamRig) := do
  let received ← bytesOr step "rx"
  let failTransfer ← boolOr step "fail" false
  let r := { r with log := #[], received, failTransfer }
  let (members, r) ← samplerStep label ops r step
  pure (members ++ [("log", .array (r.log.toList.map Json.string))], r)

def streamSampler (label : Cause → String) (request : Json) : Run Json := do
  let ready ← (member? request "ready").mapM fun j => do (← asList "ready" j).mapM (asBool "ready")
  let enableFailsAt ← match ← stringOr request "enable_fail" "" with
    | "high" => pure (some true)
    | "low" => pure (some false)
    | "" => pure none
    | other => fieldRefusal "enable_fail" ("want high or low, not " ++ Text.quote other)
  let _ ← boolOr request "verbose" false
  let rig : Sim.StreamRig := { readyLevels := ready.getD [], enableFailsAt }
  let ops := (Sim.streamParts ready.isSome).sampler
  return (← stepsAnswer (streamStep label ops) rig request).1

def sineSource (label : Cause → String) (request : Json) : Run Json := do
  let rate ← inRange "rate" 1 10000000 (← int request "rate")
  return (← stepsAnswer (samplerStep label SineSource.sampler) { rate := rate.toNat } request).1

end Acquisition.Bench
