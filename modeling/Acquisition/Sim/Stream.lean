import Acquisition.Sample.Stream
import Acquisition.Sim.Scripted
/-! Simulated parts of a streamed sampler: a transport with set answers, an enable line that can
fail at one level and a data-ready line, every transfer and line change logged. -/
namespace Acquisition.Sim

structure StreamRig where
  log : Array String := #[]
  received : ByteArray := .empty
  failTransfer : Bool := false
  readyLevels : List Bool := []
  enableFailsAt : Option Bool := none

def streamParts (withReady : Bool) : StreamParts StreamRig where
  transport := {
    exchange := fun w => do
      let r ← get
      set { r with log := r.log.push ("tx " ++ toString w.size) }
      if r.failTransfer then throw injected
      let bytes := (List.range w.size).map fun i => r.received.get! i
      pure ⟨bytes.toArray⟩ }
  enable level := do
    modify fun r => { r with log := r.log.push ("enable=" ++ toString level) }
    if (← get).enableFailsAt == some level then throw injected
  ready := if withReady then some (do
      let r ← get
      set { r with log := r.log.push "ready?", readyLevels := r.readyLevels.drop 1 }
      pure (r.readyLevels.headD true))
    else none

end Acquisition.Sim
