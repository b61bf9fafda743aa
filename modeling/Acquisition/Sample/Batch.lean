/-! Batches of samples: one sequence of readings per input, as long as the first channel, appended
channel by channel. -/
namespace Acquisition

def sensorCount : Nat := 4

structure Batch where
  channels : Vector (Array Float32) 4
  deriving Inhabited

namespace Batch

def empty : Batch := ⟨Vector.replicate 4 #[]⟩

def ofChannels (cs : List (Array Float32)) : Batch :=
  ⟨Vector.ofFn fun i => cs.getD i.val #[]⟩

def length (b : Batch) : Nat := b.channels[0].size

def isEmpty (b : Batch) : Bool := b.length == 0

def append (b other : Batch) : Batch := ⟨Vector.zipWith (· ++ ·) b.channels other.channels⟩

instance : Append Batch := ⟨append⟩

def concat (bs : List Batch) : Batch := bs.foldl append empty

def toLists (b : Batch) : List (List Float32) := b.channels.toList.map (·.toList)

theorem channels_append (b c : Batch) (i : Fin 4) :
    (b ++ c).channels[i] = b.channels[i] ++ c.channels[i] := by
  show (Vector.zipWith (· ++ ·) b.channels c.channels)[i] = _
  simp

end Batch

end Acquisition
