import Acquisition.Sample.Batch
/-! The summary of a burst: its length, the bursts lost before it, and per channel the least and
greatest sample, the mean and the root mean square in double precision. -/
namespace Acquisition

/-- The lesser of two samples; NaN wins, and of two zeros the negative one. -/
def lesserSample (a b : Float32) : Float32 :=
  if a.isNaN then a else if b.isNaN then b
  else if a == b then (if a.toBits ≥ b.toBits then a else b)
  else if a < b then a else b

/-- The greater of two samples; NaN wins, and of two zeros the positive one. -/
def greaterSample (a b : Float32) : Float32 :=
  if a.isNaN then a else if b.isNaN then b
  else if a == b then (if a.toBits ≤ b.toBits then a else b)
  else if a < b then b else a

structure ChannelSummary where
  least : Float32 := 0
  greatest : Float32 := 0
  mean : Float := 0
  rms : Float := 0

structure Summary where
  samples : Nat
  dropped : UInt64
  channels : Vector ChannelSummary 4

def ChannelSummary.ofSamples (values : Array Float32) : ChannelSummary :=
  match values.toList with
  | [] => {}
  | first :: _ =>
    let (least, greatest, sum, squares) := values.foldl
      (fun (lo, hi, s, sq) v => (lesserSample lo v, greaterSample hi v, s + v.toFloat, sq + v.toFloat * v.toFloat))
      (first, first, 0, 0)
    let n := values.size.toFloat
    { least, greatest, mean := sum / n, rms := Float.sqrt (squares / n) }

def Summary.ofBatch (b : Batch) (dropped : UInt64) : Summary :=
  { samples := b.length, dropped, channels := b.channels.map ChannelSummary.ofSamples }

end Acquisition
