import Acquisition.Sample.Reader
/-! A scripted sampler: it records its mode and whether it is armed, and each read hands out the
frames set for it, at most one chunk, or fails. -/
namespace Acquisition.Sim

def injected : Fault := .of .injected "injected fault"

structure ScriptedSampler where
  mode : Mode := .primary
  armed : Bool := false
  next : Except Fault (List Frame) := .ok []

def scriptedSampler : Sampler ScriptedSampler where
  configure m := modify fun s => { s with mode := m }
  arm := modify fun s => { s with armed := true }
  disarm := modify fun s => { s with armed := false }
  readFrames n := do
    match (← get).next with
    | .ok frames => pure (frames.take n)
    | .error f => throw f

end Acquisition.Sim
