/-! A bounded first-in first-out ring for one producer and one consumer: 64-bit read and write
counters taken modulo the capacity choose the slots, and `toList` is what it holds. -/
namespace Acquisition

structure Ring (α : Type) where
  slots : Array α
  head : UInt64
  tail : UInt64

namespace Ring

variable {α : Type} [Inhabited α]

/-- An empty ring of the given capacity; a capacity below one is refused with
the message of the refusal. -/
def new? (capacity : Int) : Except String (Ring α) :=
  if capacity < 1 then .error ("queue: invalid capacity " ++ toString capacity)
  else .ok ⟨Array.replicate capacity.toNat default, 0, 0⟩

def capacity (q : Ring α) : Nat := q.slots.size

/-- The count between a read counter and a write counter loaded after it: the
64-bit difference read as a signed word, cut down to the capacity when the
producer has refilled slots in between. -/
def countBetween (capacity : Nat) (head tail : UInt64) : Int :=
  let n := (tail - head).toInt64.toInt
  if n > capacity then capacity else n

def length (q : Ring α) : Int := countBetween q.capacity q.head q.tail

def isEmpty (q : Ring α) : Bool := q.length == 0

def slot (q : Ring α) (counter : UInt64) : Nat := (counter % q.capacity.toUInt64).toNat

def toList (q : Ring α) : List α :=
  (List.range (q.tail - q.head).toNat).map fun k => q.slots.getD (q.slot (q.head + k.toUInt64)) default

def push (q : Ring α) (v : α) : Bool × Ring α :=
  if q.tail - q.head == q.capacity.toUInt64 then (false, q)
  else (true, { q with slots := q.slots.setIfInBounds (q.slot q.tail) v, tail := q.tail + 1 })

/-- Removes the oldest element, clearing its slot. -/
def pop (q : Ring α) : Option α × Ring α :=
  if q.head == q.tail then (none, q)
  else
    let i := q.slot q.head
    (some (q.slots.getD i default), { q with slots := q.slots.setIfInBounds i default, head := q.head + 1 })

def moveOut (q : Ring α) (moved : Array α × Array α) (k : Nat) : Array α × Array α :=
  let i := q.slot (q.head + k.toUInt64)
  (moved.1.setIfInBounds k (moved.2.getD i default), moved.2.setIfInBounds i default)

/-- Moves up to `dst.size` of the oldest elements to the front of `dst`, oldest
first, clearing their slots; the rest of `dst` is left alone. Gives how many
were moved. -/
def popBatch (q : Ring α) (dst : Array α) : Nat × Array α × Ring α :=
  let count := min dst.size (q.tail - q.head).toNat
  let (dst, slots) := (List.range count).foldl q.moveOut (dst, q.slots)
  (count, dst, { q with slots, head := q.head + count.toUInt64 })

/-- Pops until nothing is left, at most `fuel` times, and counts the pops. -/
def popAll : Nat → Ring α → Nat × Ring α
  | 0, q => (0, q)
  | fuel + 1, q =>
    match q.pop with
    | (none, q') => (0, q')
    | (some _, q') => let (n, q'') := popAll fuel q'; (n + 1, q'')

def drain (q : Ring α) : Nat × Ring α := popAll (q.capacity + 1) q

end Ring

end Acquisition
