import Acquisition.Sample.Batch
import Acquisition.Fault
/-! Rate conversion by linear interpolation, `target` outputs for every `base` inputs, carrying the
next output's position and each channel's last sample from batch to batch. -/
namespace Acquisition

structure Resampler where
  target : Nat
  base : Nat
  /-- Position of the next output sample, in `1/target` input samples, as a
  64-bit word: the arithmetic on it wraps. -/
  position : Int64 := 0
  last : Vector Float32 4 := Vector.replicate 4 0
  primed : Bool := false

namespace Resampler

/-- A resampler from `base` to `target` samples; both must be positive. -/
def new (target base : Int) : Except Fault Resampler :=
  if target < 1 || base < 1 then
    .error (.plain ("invalid resampling ratio " ++ toString target ++ "/" ++ toString base))
  else .ok { target := target.toNat, base := base.toNat }

def reset (r : Resampler) : Resampler := { r with position := 0, primed := false }

/-- The largest number of samples an output batch may reserve room for. -/
def maxReserve : Int := Nat.pow 2 46

/-- The output positions `p, p + base, …` while they are at most `limit`, the
steps wrapping as 64-bit words, with the position after the last one. Each
round runs up to the first step that wraps; `rounds` bounds their number. -/
def positionsUpTo (base limit : Int64) : Nat → Int64 → List Int64 × Int64
  | 0, p => ([], p)
  | rounds + 1, p =>
    if limit < p then ([], p)
    else
      let count := (limit.toInt - p.toInt) / base.toInt + 1
      let here := (List.range count.toNat).map fun j => p + Int64.ofNat j * base
      let next := p + Int64.ofInt count * base
      if p.toInt + count * base.toInt ≤ Int64.maxValue.toInt then (here, next)
      else
        let (more, last) := positionsUpTo base limit rounds next
        (here ++ more, last)

/-- The output sample of channel `x` at input index `idx`, remainder `rem` and
fraction `frac = rem / target`: the sample at `idx`, moved by `frac` towards the
next one. Index `-1` stands for the last sample of the previous batch. The
fraction is zero exactly when the remainder is, since a remainder of at least
one over a target below `2^63` is far above the smallest single. -/
def sampleAt (r : Resampler) (x : Array Float32) (ch : Fin 4) (idx rem : Int) (frac : Float32) :
    Except Abort Float32 := do
  let y0 ← if idx < 0 then (if r.primed then pure (r.last.get ch) else elementAt x 0) else elementAt x idx
  if rem == 0 then return y0
  let y1 ← elementAt x (idx + 1)
  return y0 + frac * (y1 - y0)

/-- One output frame at position `p`: the input index is `p` divided by the
target rounded down, and the fraction the remainder over the target. -/
def frameAt (r : Resampler) (input : Batch) (p : Int64) : Except Abort (List Float32) :=
  let t : Int := r.target
  let idx := p.toInt / t
  let rem := p.toInt - idx * t
  let frac := Float32.ofInt rem / Float32.ofNat r.target
  (List.finRange 4).mapM fun ch => r.sampleAt (input.channels.get ch) ch idx rem frac

def batchOfFrames (frames : List (List Float32)) : Batch :=
  ⟨Vector.ofFn fun ch => (frames.map fun f => f.getD ch.val 0).toArray⟩

/-- Consumes a batch and gives the output samples that became computable. The
batch reserves room for the number of samples expected, which must not exceed
`maxReserve`. -/
def resample (r : Resampler) (input : Batch) : Except Abort (Batch × Resampler) := do
  let n := input.length
  if n == 0 then return (Batch.empty, r)
  let t := Int64.ofNat r.target
  let b := Int64.ofNat r.base
  let limit := (Int64.ofNat n - 1) * t
  let estimate := (limit - r.position) / b + 1
  if estimate.toInt > maxReserve then throw (.refused "runtime error: makeslice: cap out of range")
  let (positions, after) := positionsUpTo b limit 3 r.position
  let frames ← positions.mapM (r.frameAt input)
  let last ← (List.finRange 4).mapM fun ch => elementAt (input.channels.get ch) ((n : Int) - 1)
  let next := { r with
    position := after - Int64.ofNat n * t
    last := Vector.ofFn fun ch => last.getD ch.val 0
    primed := true }
  return (batchOfFrames frames, next)

/-- Resamples each batch in turn, carrying the state from one to the next. -/
def resampleEach (r : Resampler) : List Batch → Except Abort (List Batch × Resampler)
  | [] => pure ([], r)
  | b :: bs => do
    let (out, r) ← r.resample b
    let (outs, r) ← r.resampleEach bs
    pure (out :: outs, r)

end Resampler

end Acquisition
