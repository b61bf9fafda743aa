import Acquisition.Sink.Summary
import Acquisition.Effect
import Acquisition.Metrics
/-! Sinks consume delivered bursts: a fan-out hands every burst to each named sink, counting
failures against the name, and closing it joins the sinks' errors. -/
namespace Acquisition

structure Sink (σ : Type) where
  /-- Takes a burst and the count of bursts lost before it. -/
  write : Batch → UInt64 → Op σ Unit
  close : Op σ Unit

abbrev Fanout (σ : Type) := List (String × Sink σ)

namespace Fanout

variable {σ : Type}

/-- Writes a burst to every sink; the answer names the sinks that failed, in order. -/
def write (f : Fanout σ) (b : Batch) (dropped : UInt64) : Op σ (List String) :=
  f.foldlM (fun failed (name, s) => do
    match ← Op.attempt (s.write b dropped) with
    | .ok () => pure failed
    | .error _ => pure (failed ++ [name])) []

def deliver (f : Fanout σ) (b : Batch) (dropped : UInt64) : Op (σ × Option Metrics) Unit := do
  let failed ← Op.focus (·.1) (fun p s => (s, p.2)) (f.write b dropped)
  modify fun (s, m) => (s, m.map fun m => failed.foldl Metrics.sinkFailed m)

/-- Closes every sink; the errors are joined, each behind its sink's name. -/
def close (f : Fanout σ) : Op σ Unit := do
  let errors ← f.foldlM (fun errors (name, s) => do
    match ← Op.attempt s.close with
    | .ok () => pure errors
    | .error e => pure (errors ++ [e.context name])) []
  if !errors.isEmpty then throw (Fault.join errors)

end Fanout

end Acquisition
