import Acquisition.Queue.Ring
/-! The ring's calls as the atomic steps of its two sides and any number of Len callers under
sequential consistency: a run is the list of steps in the order they happen. -/
namespace Acquisition.Ring

/-- Where the producer stands inside a call of Push. -/
inductive Producer (α : Type) where
  | idle
  /-- Loaded the write counter. -/
  | loaded (v : α) (tail : UInt64)
  /-- Found room; writes the slot next. -/
  | writing (v : α) (tail : UInt64)
  /-- Wrote the slot; stores the write counter next. -/
  | publishing (v : α) (tail : UInt64)

/-- Where the consumer stands inside a call of PopBatch. -/
inductive Consumer where
  | idle
  /-- Loaded the read counter, with room for `room` elements. -/
  | loaded (room : Nat) (head : UInt64)
  /-- Found `n` elements from `head` on and has moved `k` of them. -/
  | moving (head : UInt64) (n k : Nat)

/-- A step of a run: which side moves. -/
inductive Step (α : Type) where
  /-- The producer calls Push with `v`; the call loads the write counter. -/
  | push (v : α)
  /-- The producer takes the next step of its call. -/
  | produce
  /-- The consumer calls PopBatch with room for `room` elements (Pop: one); the
  call loads the read counter. -/
  | pop (room : Nat)
  /-- The consumer takes the next step of its call. -/
  | consume
  /-- Len caller `i` calls Len, loading the read counter, or, inside its call,
  loads the write counter and returns. -/
  | len (i : Nat)

/-- The ring shared by the two sides, where each side stands, and what the calls
have returned. -/
structure Shared (α : Type) where
  ring : Ring α
  producer : Producer α := .idle
  consumer : Consumer := .idle
  /-- The read counter each Len caller loaded, while inside its call. -/
  readers : Nat → Option UInt64 := fun _ => none
  /-- The values of the Push calls that returned true, in order. -/
  accepted : List α := []
  /-- The values the consumer moved out, in order. -/
  received : List α := []
  /-- What the Len calls returned, in order. -/
  lengths : List Int := []

namespace Shared

variable {α : Type} [Inhabited α]

/-- The producer's next step. -/
def produce (s : Shared α) : Shared α :=
  match s.producer with
  | .idle => s
  | .loaded v tail =>
    if tail - s.ring.head == s.ring.capacity.toUInt64 then { s with producer := .idle }
    else { s with producer := .writing v tail }
  | .writing v tail =>
    { s with ring.slots := s.ring.slots.setIfInBounds (s.ring.slot tail) v, producer := .publishing v tail }
  | .publishing v tail =>
    { s with ring.tail := tail + 1, producer := .idle, accepted := s.accepted ++ [v] }

/-- The consumer's next step. -/
def consume (s : Shared α) : Shared α :=
  match s.consumer with
  | .idle => s
  | .loaded room head =>
    let avail := s.ring.tail - head
    let n := if avail < room.toUInt64 then avail else room.toUInt64
    { s with consumer := .moving head n.toNat 0 }
  | .moving head n k =>
    if k < n then
      let i := s.ring.slot (head + k.toUInt64)
      { s with ring.slots := s.ring.slots.setIfInBounds i default, consumer := .moving head n (k + 1),
               received := s.received ++ [s.ring.slots.getD i default] }
    else if 0 < n then { s with ring.head := head + n.toUInt64, consumer := .idle }
    else { s with consumer := .idle }

/-- Len caller `i`'s next step. -/
def measure (s : Shared α) (i : Nat) : Shared α :=
  match s.readers i with
  | none => { s with readers := fun j => if j = i then some s.ring.head else s.readers j }
  | some head =>
    { s with readers := fun j => if j = i then none else s.readers j,
             lengths := s.lengths ++ [countBetween s.ring.capacity head s.ring.tail] }

/-- One step; a side asked to start a call while inside one, or to go on while
idle, stays where it is. -/
def step (s : Shared α) : Step α → Shared α
  | .push v =>
    match s.producer with
    | .idle => { s with producer := .loaded v s.ring.tail }
    | _ => s
  | .produce => s.produce
  | .pop room =>
    match s.consumer with
    | .idle => { s with consumer := .loaded room s.ring.head }
    | _ => s
  | .consume => s.consume
  | .len i => s.measure i

def run (s : Shared α) (steps : List (Step α)) : Shared α := steps.foldl step s

def start (capacity : Nat) : Shared α := { ring := ⟨Array.replicate capacity default, 0, 0⟩ }

end Shared

end Acquisition.Ring
