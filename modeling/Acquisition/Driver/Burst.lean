import Acquisition.Sample.Batch
/-! Bursts: samples gathered until there are `size` per channel, with the batches dropped since the
last burst counted along; what is gathered at a stop may be flushed. -/
namespace Acquisition

/-- The largest count of dropped batches; counting saturates there. -/
def dropCeiling : Nat := Nat.pow 2 64 - 1

structure Burst where
  size : Nat
  gathered : Batch := .empty
  dropped : Nat := 0

namespace Burst

def countDropped (b : Burst) (n : Nat) : Burst := { b with dropped := min (b.dropped + n) dropCeiling }

/-- Adds a batch and the batches dropped before it; gives a burst to deliver,
with the drops since the last one, once the size is reached. -/
def push (b : Burst) (input : Batch) (dropped : Nat) : Option (Batch × Nat) × Burst :=
  let b := b.countDropped dropped
  if input.isEmpty then (none, b)
  else if b.gathered.isEmpty && input.length ≥ b.size then (some (input, b.dropped), { b with dropped := 0 })
  else
    let gathered := if b.gathered.isEmpty then input else b.gathered.append input
    if gathered.length < b.size then (none, { b with gathered })
    else (some (gathered, b.dropped), { b with gathered := .empty, dropped := 0 })

def flush (b : Burst) : Option (Batch × Nat) × Burst :=
  if b.gathered.isEmpty then (none, b)
  else (some (b.gathered, b.dropped), { b with gathered := .empty, dropped := 0 })

end Burst

end Acquisition
