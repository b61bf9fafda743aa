import Acquisition.Sample.Reader
import Acquisition.Bus
/-! Frames streamed by the board's controller over a serial transport: four big-endian 16-bit
conversions each, gated by an enable line and an optional data-ready line. -/
namespace Acquisition

def frameBytes : Nat := 2 * sensorCount

/-- The frames of received bytes; missing bytes read as zero. -/
def framesOfBytes (bytes : ByteArray) (n : Nat) : List Frame :=
  (List.range n).map fun i =>
    Vector.ofFn fun ch =>
      let at_ := i * frameBytes + 2 * ch.val
      (bytes.get! at_).toUInt16 <<< 8 ||| (bytes.get! (at_ + 1)).toUInt16

structure StreamParts (σ : Type) where
  transport : Transport σ
  /-- Drives the enable line. -/
  enable : Bool → Op σ Unit
  /-- Samples the data-ready line, when there is one. -/
  ready : Option (Op σ Bool) := none
  /-- Polls of the ready line before a read gives up. -/
  readyPolls : Nat := 1000000

namespace StreamParts

variable {σ : Type}

def awaitReady (ready : Op σ Bool) : Nat → Op σ Unit
  | 0 => throw (.of .canceled "context canceled")
  | n + 1 => do if !(← ready) then awaitReady ready n

def sampler (p : StreamParts σ) : Sampler σ where
  configure _ := pure ()
  arm := Op.withContext "could not raise enable line" (p.enable true)
  disarm := Op.withContext "could not lower enable line" (p.enable false)
  readFrames n := do
    if n == 0 then return []
    if let some ready := p.ready then awaitReady ready p.readyPolls
    let size := n * frameBytes
    let rx ← Op.withContext "spi transfer failed" (p.transport.exchange ⟨Array.replicate size 0⟩)
    pure (framesOfBytes rx n)

end StreamParts

end Acquisition
