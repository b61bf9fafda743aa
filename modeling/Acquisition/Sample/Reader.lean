import Acquisition.Sample.Calibration
import Acquisition.Effect
/-! The reader turns frames from a sampler into calibrated batches, at most one chunk a read, arming
the sampler once on start and disarming it once on stop. -/
namespace Acquisition

def defaultChunkSize : Nat := 32

/-- What a reader needs from the hardware that produces frames. -/
structure Sampler (σ : Type) where
  configure : Mode → Op σ Unit
  arm : Op σ Unit
  disarm : Op σ Unit
  /-- At most the given number of frames. -/
  readFrames : Nat → Op σ (List Frame)

structure Reader (σ : Type) where
  sampler : σ
  calibration : Calibration := .default
  chunk : Nat := defaultChunkSize
  armed : Bool := false

namespace Reader

variable {σ : Type}

/-- A reader over a sampler in state `s`; a chunk size below one means the default. -/
def new (s : σ) (chunk : Int := defaultChunkSize) : Reader σ :=
  { sampler := s, chunk := if chunk < 1 then defaultChunkSize else chunk.toNat }

def onSampler {α : Type} (op : Op σ α) : Op (Reader σ) α :=
  Op.focus (·.sampler) (fun r s => { r with sampler := s }) op

def setMode (code : Int) : Op (Reader σ) Unit := do
  let m ← MonadExcept.ofExcept (Mode.ofCode code)
  modify fun r => { r with calibration.mode := m }

def setOffsets (offsets : Vector Int 4) : Op (Reader σ) Unit :=
  modify fun r => { r with calibration.offsets := offsets }

def setGains (gains : Vector Float32 4) : Op (Reader σ) Unit := do
  let c ← MonadExcept.ofExcept ((← get).calibration.setGains gains)
  modify fun r => { r with calibration := c }

def setTransmissions (factors : Vector Float32 4) : Op (Reader σ) Unit := do
  let c ← MonadExcept.ofExcept ((← get).calibration.setTransmissions factors)
  modify fun r => { r with calibration := c }

def setup (ops : Sampler σ) : Op (Reader σ) Unit := do
  let mode := (← get).calibration.mode
  Op.withContext "could not configure sampler" (onSampler (ops.configure mode))

def start (ops : Sampler σ) : Op (Reader σ) Unit := do
  if (← get).armed then return
  Op.withContext "could not arm sampler" (onSampler ops.arm)
  modify fun r => { r with armed := true }

def stop (ops : Sampler σ) : Op (Reader σ) Unit := do
  if !(← get).armed then return
  modify fun r => { r with armed := false }
  Op.withContext "could not disarm sampler" (onSampler ops.disarm)

def read (ops : Sampler σ) : Op (Reader σ) Batch := do
  let r ← get
  let frames ← Op.withContext "could not read frames" (onSampler (ops.readFrames r.chunk))
  pure (r.calibration.batchOf frames)

end Reader

end Acquisition
