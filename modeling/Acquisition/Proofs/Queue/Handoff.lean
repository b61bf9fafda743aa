import Acquisition.Queue.Threads
import Acquisition.Proofs.Queue.Fifo
/-! The hand-off between the ring's producer and consumer over every interleaving, read through
unbounded counters: the invariants `Counters` and `Contents` hold at every step. -/
namespace Acquisition.Ring

variable {α : Type}

/-! ### Counters modulo `2^64` -/

theorem toNat_toUInt64_sub {m n : Nat} (le : m ≤ n) (small : n - m < 2 ^ 64) :
    (n.toUInt64 - m.toUInt64).toNat = n - m := by
  obtain ⟨d, rfl⟩ : ∃ d, n = m + d := ⟨n - m, by omega⟩
  rw [Nat.toUInt64_eq, Nat.toUInt64_eq, UInt64.ofNat_add, add_sub_cancel_left, UInt64.toNat_ofNat',
    Nat.mod_eq_of_lt (by omega)]
  omega

/-- Two counters less than the capacity apart take different slots, while the
later one is below `2^64` or the capacity divides `2^64`. -/
theorem slot_ne {q : Ring α} {i j : Nat} (fits : q.capacity < 2 ^ 64) (lt : i < j)
    (near : j < i + q.capacity) (aligned : q.capacity ∣ 2 ^ 64 ∨ j < 2 ^ 64) :
    q.slot i.toUInt64 ≠ q.slot j.toUInt64 := by
  intro same
  rw [slot_eq q fits, slot_eq q fits, Nat.toUInt64_eq, Nat.toUInt64_eq, UInt64.toNat_ofNat',
    UInt64.toNat_ofNat'] at same
  have wrapped : (i + 0) % q.capacity = (i + (j - i)) % q.capacity := by
    rw [Nat.add_zero, Nat.add_sub_cancel' lt.le]
    rcases aligned with divides | below
    · rwa [Nat.mod_mod_of_dvd _ divides, Nat.mod_mod_of_dvd _ divides] at same
    · rwa [Nat.mod_eq_of_lt (show i < 2 ^ 64 by omega), Nat.mod_eq_of_lt below] at same
  have := mod_injective (by omega) (by omega) wrapped
  omega

/-- Len's count from a read counter and a later write counter fewer than `2^63`
apart: the distance, cut down to the capacity. -/
theorem countBetween_of_lt {c : Nat} {head tail : UInt64} (small : (tail - head).toNat < 2 ^ 63) :
    0 ≤ countBetween c head tail ∧ countBetween c head tail ≤ c := by
  simp only [countBetween, toInt_toInt64_of_lt small]
  split <;> omega

/-! ### The two sides' places against the counters -/

def Consumer.moved : Consumer → Nat
  | .moving _ _ k => k
  | _ => 0

/-- The consumer's place agrees with the stored read counter `stored`, the number
`published` it stands for and the number `accepted` of values accepted: a loaded
read counter is the stored one, and a call moves no more than were accepted. -/
def Consumer.Agrees : Consumer → UInt64 → Nat → Nat → Prop
  | .idle, _, _, _ => True
  | .loaded _ head, stored, _, _ => head = stored
  | .moving head n k, stored, published, accepted => head = stored ∧ k ≤ n ∧ published + n ≤ accepted

/-- The producer's place agrees with the stored write counter `stored`: a loaded
write counter is the stored one, and a call that found room finds it still, with
`accepted` values below the `limit` the consumer has freed. -/
def Producer.Agrees : Producer α → UInt64 → Nat → Nat → Prop
  | .idle, _, _, _ => True
  | .loaded _ tail, stored, _, _ => tail = stored
  | .writing _ tail, stored, accepted, limit => tail = stored ∧ accepted < limit
  | .publishing _ tail, stored, accepted, limit => tail = stored ∧ accepted < limit

theorem Consumer.Agrees.grow {c : Consumer} {stored : UInt64} {published accepted accepted' : Nat}
    (agrees : c.Agrees stored published accepted) (le : accepted ≤ accepted') :
    c.Agrees stored published accepted' := by
  cases c with
  | idle => trivial
  | loaded => exact agrees
  | moving => exact ⟨agrees.1, agrees.2.1, by have := agrees.2.2; omega⟩

theorem Producer.Agrees.grow {p : Producer α} {stored : UInt64} {accepted limit limit' : Nat}
    (agrees : p.Agrees stored accepted limit) (le : limit ≤ limit') : p.Agrees stored accepted limit' := by
  cases p with
  | idle => trivial
  | loaded => exact agrees
  | writing => exact ⟨agrees.1, by have := agrees.2; omega⟩
  | publishing => exact ⟨agrees.1, by have := agrees.2; omega⟩

@[simp] theorem capacity_setIfInBounds (q : Ring α) (i : Nat) (v : α) :
    ({ q with slots := q.slots.setIfInBounds i v } : Ring α).capacity = q.capacity := by
  simp [capacity]

@[simp] theorem slot_setIfInBounds (q : Ring α) (i : Nat) (v : α) :
    ({ q with slots := q.slots.setIfInBounds i v } : Ring α).slot = q.slot :=
  slot_of_capacity (capacity_setIfInBounds q i v)

namespace Shared

variable {s : Shared α}

/-- The elements the consumer has moved and freed by storing the read counter:
those received, less the ones of its unfinished call. -/
def published (s : Shared α) : Nat := s.received.length - s.consumer.moved

/-- The counters of a ring of capacity `c` started empty, through any
interleaving: the write counter stores the number of values accepted, the read
counter the number published, no more than `c` lie between them, each side's
place agrees with them, and every Len caller holds a read counter stored
earlier. The capacity is a positive signed machine integer. -/
structure Counters (c : Nat) (s : Shared α) : Prop where
  capacity : s.ring.capacity = c
  positive : 0 < c
  fits : c < 2 ^ 63
  tail : s.ring.tail = s.accepted.length.toUInt64
  head : s.ring.head = s.published.toUInt64
  moved : s.consumer.moved ≤ s.received.length
  read : s.received.length ≤ s.accepted.length
  bounded : s.accepted.length ≤ s.published + c
  consumer : s.consumer.Agrees s.ring.head s.published s.accepted.length
  producer : s.producer.Agrees s.ring.tail s.accepted.length (s.published + c)
  readers : ∀ i head, s.readers i = some head → ∃ n ≤ s.published, head = n.toUInt64

theorem counters_start [Inhabited α] {c : Nat} (positive : 0 < c) (fits : c < 2 ^ 63) :
    (start c : Shared α).Counters c where
  capacity := by simp [start, capacity]
  positive := positive
  fits := fits
  tail := rfl
  head := rfl
  moved := Nat.zero_le _
  read := Nat.zero_le _
  bounded := Nat.zero_le _
  consumer := trivial
  producer := trivial
  readers := fun _ _ none => nomatch none

/-! ### What each step does -/

section Steps

variable {v : α} {tail head : UInt64} {room n k : Nat}

theorem produce_loaded (producing : s.producer = .loaded v tail) :
    s.produce = if tail - s.ring.head == s.ring.capacity.toUInt64 then { s with producer := .idle }
      else { s with producer := .writing v tail } := by
  rw [produce, producing]

theorem produce_writing (producing : s.producer = .writing v tail) :
    s.produce = { s with ring.slots := s.ring.slots.setIfInBounds (s.ring.slot tail) v,
                         producer := .publishing v tail } := by
  rw [produce, producing]

theorem produce_publishing (producing : s.producer = .publishing v tail) :
    s.produce = { s with ring.tail := tail + 1, producer := .idle, accepted := s.accepted ++ [v] } := by
  rw [produce, producing]

section Consumer

variable [Inhabited α]

theorem step_push (s : Shared α) (v : α) :
    s.step (.push v) = match s.producer with
      | .idle => { s with producer := .loaded v s.ring.tail }
      | _ => s := rfl

theorem step_pop (s : Shared α) (room : Nat) :
    s.step (.pop room) = match s.consumer with
      | .idle => { s with consumer := .loaded room s.ring.head }
      | _ => s := rfl

/-- The number of elements a PopBatch call takes: what it found, or its room if
that is less. -/
def taken (avail : UInt64) (room : Nat) : UInt64 := if avail < room.toUInt64 then avail else room.toUInt64

theorem taken_le (avail : UInt64) (room : Nat) : (taken avail room).toNat ≤ avail.toNat := by
  unfold taken
  split
  · exact Nat.le_refl _
  · rename_i more
    exact UInt64.le_iff_toNat_le.1 (UInt64.not_lt.1 more)

theorem consume_loaded (consuming : s.consumer = .loaded room head) :
    s.consume = { s with consumer := .moving head (taken (s.ring.tail - head) room).toNat 0 } := by
  rw [consume, consuming]
  rfl

theorem consume_move (consuming : s.consumer = .moving head n k) (more : k < n) :
    s.consume = { s with ring.slots := s.ring.slots.setIfInBounds (s.ring.slot (head + k.toUInt64)) default,
                         consumer := .moving head n (k + 1),
                         received := s.received ++ [s.ring.slots.getD (s.ring.slot (head + k.toUInt64)) default] } := by
  rw [consume, consuming]
  exact if_pos more

theorem consume_store (consuming : s.consumer = .moving head n k) (done : ¬ k < n) (some : 0 < n) :
    s.consume = { s with ring.head := head + n.toUInt64, consumer := .idle } := by
  rw [consume, consuming]
  simp only [if_neg done, if_pos some]

theorem consume_finish (consuming : s.consumer = .moving head n k) (done : ¬ k < n) (none : n = 0) :
    s.consume = { s with consumer := .idle } := by
  subst none
  rw [consume, consuming]
  simp only [if_neg done, Nat.lt_irrefl, if_false]

end Consumer

end Steps

/-! ### Every step keeps the counters -/

namespace Counters

variable {c : Nat} {v : α} {tail head : UInt64} {room n k : Nat}

theorem published_le (inv : s.Counters c) : s.published ≤ s.accepted.length := by
  have := inv.read
  unfold published
  omega

/-- The stored counters are as far apart as the values accepted and not yet
published. -/
theorem distance (inv : s.Counters c) :
    (s.ring.tail - s.ring.head).toNat = s.accepted.length - s.published := by
  rw [inv.tail, inv.head]
  exact toNat_toUInt64_sub inv.published_le (by have := inv.bounded; have := inv.fits; omega)

theorem toNat_capacity (inv : s.Counters c) : s.ring.capacity.toUInt64.toNat = c := by
  rw [inv.capacity, Nat.toUInt64_eq, UInt64.toNat_ofNat', Nat.mod_eq_of_lt (by have := inv.fits; omega)]

/-- A Push call that found room writes at the stored write counter, with fewer
than `c` values unpublished. -/
theorem writing_agrees (inv : s.Counters c) (producing : s.producer = .writing v tail) :
    tail = s.ring.tail ∧ s.accepted.length < s.published + c := by
  simpa [producing, Producer.Agrees] using inv.producer

theorem publishing_agrees (inv : s.Counters c) (producing : s.producer = .publishing v tail) :
    tail = s.ring.tail ∧ s.accepted.length < s.published + c := by
  simpa [producing, Producer.Agrees] using inv.producer

/-- A PopBatch call moving elements started from the stored read counter and
moves no more than were accepted. -/
theorem moving_agrees (inv : s.Counters c) (consuming : s.consumer = .moving head n k) :
    head = s.ring.head ∧ k ≤ n ∧ s.published + n ≤ s.accepted.length := by
  simpa [consuming, Consumer.Agrees] using inv.consumer

theorem received_of_moving (inv : s.Counters c) (consuming : s.consumer = .moving head n k) :
    s.published + k = s.received.length := by
  have moved : s.consumer.moved = k := by rw [consuming]; rfl
  have within := inv.moved
  unfold published
  omega

/-- The producer's check reads the stored read counter, never beyond the
consumer's: finding no room refuses, and room found stays room. -/
theorem produce (inv : s.Counters c) : s.produce.Counters c := by
  cases producing : s.producer with
  | idle =>
    rw [Shared.produce, producing]
    exact inv
  | loaded v tail =>
    have same : tail = s.ring.tail := by simpa [producing, Producer.Agrees] using inv.producer
    rw [produce_loaded producing]
    split
    · exact { inv with producer := trivial }
    · rename_i room
      have apart : s.accepted.length - s.published ≠ c := by
        intro full
        apply room
        rw [beq_iff_eq, same, ← UInt64.toNat_inj, inv.distance, inv.toNat_capacity, full]
      exact { inv with producer := ⟨same, show s.accepted.length < s.published + c by have := inv.bounded; omega⟩ }
  | writing v tail =>
    rw [produce_writing producing]
    exact { inv with
      capacity := by rw [capacity_setIfInBounds, inv.capacity]
      producer := inv.writing_agrees producing }
  | publishing v tail =>
    have agrees := inv.publishing_agrees producing
    rw [produce_publishing producing]
    have longer : (s.accepted ++ [v]).length = s.accepted.length + 1 := by simp
    exact { inv with
      tail := by rw [longer, agrees.1, inv.tail, Nat.toUInt64_eq, Nat.toUInt64_eq, UInt64.ofNat_add]; rfl
      read := by rw [longer]; exact Nat.le_succ_of_le inv.read
      bounded := by rw [longer]; exact agrees.2
      consumer := inv.consumer.grow (by rw [longer]; exact Nat.le_succ _)
      producer := trivial }

/-- A step that keeps the stored counters, the values accepted and the number
published keeps the invariant once the places it changed agree. -/
theorem keep (inv : s.Counters c) {s' : Shared α} (capacity : s'.ring.capacity = c)
    (head : s'.ring.head = s.ring.head) (tail : s'.ring.tail = s.ring.tail) (accepted : s'.accepted = s.accepted)
    (published : s'.published = s.published) (moved : s'.consumer.moved ≤ s'.received.length)
    (read : s'.received.length ≤ s.accepted.length)
    (consumer : s'.consumer.Agrees s.ring.head s.published s.accepted.length)
    (producer : s'.producer.Agrees s.ring.tail s.accepted.length (s.published + c))
    (readers : ∀ i head, s'.readers i = some head → ∃ n ≤ s.published, head = n.toUInt64) :
    s'.Counters c where
  capacity := capacity
  positive := inv.positive
  fits := inv.fits
  tail := by rw [tail, accepted, inv.tail]
  head := by rw [head, published, inv.head]
  moved := moved
  read := by rw [accepted]; exact read
  bounded := by rw [accepted, published]; exact inv.bounded
  consumer := by rw [head, published, accepted]; exact consumer
  producer := by rw [tail, accepted, published]; exact producer
  readers := by rw [published]; exact readers

theorem measure (inv : s.Counters c) (i : Nat) : (s.measure i).Counters c := by
  unfold Shared.measure
  split
  · refine inv.keep inv.capacity rfl rfl rfl rfl inv.moved inv.read inv.consumer inv.producer ?_
    intro j head reading
    by_cases same : j = i
    · simp only [same, if_true, Option.some.injEq] at reading
      exact ⟨s.published, Nat.le_refl _, reading ▸ inv.head⟩
    · simp only [same, if_false] at reading
      exact inv.readers j head reading
  · refine inv.keep inv.capacity rfl rfl rfl rfl inv.moved inv.read inv.consumer inv.producer ?_
    intro j head reading
    by_cases same : j = i
    · simp only [same, if_true, reduceCtorEq] at reading
    · simp only [same, if_false] at reading
      exact inv.readers j head reading

section Sides

variable [Inhabited α]

theorem push (inv : s.Counters c) (v : α) : (s.step (.push v)).Counters c := by
  rw [step_push]
  split
  · exact inv.keep inv.capacity rfl rfl rfl rfl inv.moved inv.read inv.consumer rfl inv.readers
  · exact inv

theorem pop (inv : s.Counters c) (room : Nat) : (s.step (.pop room)).Counters c := by
  rw [step_pop]
  split
  · rename_i idle
    have published : ({ s with consumer := .loaded room s.ring.head } : Shared α).published = s.published := by
      simp only [published, idle, Consumer.moved]
    exact inv.keep inv.capacity rfl rfl rfl published (Nat.zero_le _) inv.read rfl inv.producer inv.readers
  · exact inv

theorem move (inv : s.Counters c) (consuming : s.consumer = .moving head n k) (more : k < n) :
    s.consume.Counters c := by
  have agrees := inv.moving_agrees consuming
  have reading := inv.received_of_moving consuming
  rw [consume_move consuming more]
  refine inv.keep (by rw [capacity_setIfInBounds]; exact inv.capacity) rfl rfl rfl ?_ ?_ ?_
    ⟨agrees.1, more, agrees.2.2⟩ inv.producer inv.readers
  · show (s.received ++ [_]).length - (k + 1) = s.published
    simp only [List.length_append, List.length_singleton]
    omega
  · show k + 1 ≤ (s.received ++ [_]).length
    simp only [List.length_append, List.length_singleton]
    omega
  · simp only [List.length_append, List.length_singleton]
    omega

/-- The call ends by storing the read counter past what it moved, which
publishes those elements and frees their slots for the producer. -/
theorem store (inv : s.Counters c) (consuming : s.consumer = .moving head n k) (done : ¬ k < n)
    (some : 0 < n) : s.consume.Counters c := by
  have agrees := inv.moving_agrees consuming
  have reading := inv.received_of_moving consuming
  rw [consume_store consuming done some]
  have grown : ({ s with ring.head := head + n.toUInt64, consumer := .idle } : Shared α).published =
      s.published + n := by
    show s.received.length - 0 = s.published + n
    omega
  exact {
    capacity := inv.capacity
    positive := inv.positive
    fits := inv.fits
    tail := inv.tail
    head := by
      rw [grown, agrees.1, inv.head]
      simp only [Nat.toUInt64_eq, UInt64.ofNat_add]
    moved := Nat.zero_le _
    read := inv.read
    bounded := by
      rw [grown]
      show s.accepted.length ≤ s.published + n + c
      have := inv.bounded
      omega
    consumer := trivial
    producer := by rw [grown]; exact inv.producer.grow (by omega)
    readers := fun i stored reading => by
      obtain ⟨m, le, eq⟩ := inv.readers i stored reading
      exact ⟨m, by rw [grown]; omega, eq⟩ }

/-- The consumer's load of the write counter reads the stored one, never beyond
the producer's: it takes no more than were accepted. -/
theorem consume (inv : s.Counters c) : s.consume.Counters c := by
  cases consuming : s.consumer with
  | idle =>
    rw [Shared.consume, consuming]
    exact inv
  | loaded room head =>
    have agrees : head = s.ring.head := by simpa [consuming, Consumer.Agrees] using inv.consumer
    have found := taken_le (s.ring.tail - head) room
    rw [agrees, inv.distance] at found
    rw [consume_loaded consuming]
    have published : ({ s with consumer := .moving head (taken (s.ring.tail - head) room).toNat 0 } :
        Shared α).published = s.published := by
      simp only [published, consuming, Consumer.moved]
    refine inv.keep inv.capacity rfl rfl rfl published (Nat.zero_le _) inv.read
      ⟨agrees, Nat.zero_le _, ?_⟩ inv.producer inv.readers
    have := inv.published_le
    rw [← agrees] at found
    omega
  | moving head n k =>
    by_cases more : k < n
    · exact inv.move consuming more
    by_cases some : 0 < n
    · exact inv.store consuming more some
    -- a call that found nothing ends without storing
    have reading := inv.received_of_moving consuming
    have agrees := inv.moving_agrees consuming
    rw [consume_finish consuming more (by omega)]
    have published : ({ s with consumer := .idle } : Shared α).published = s.published := by
      show s.received.length - 0 = s.published
      omega
    exact inv.keep inv.capacity rfl rfl rfl published (Nat.zero_le _) inv.read trivial inv.producer
      inv.readers

theorem step (inv : s.Counters c) : ∀ a : Step α, (s.step a).Counters c
  | .push v => inv.push v
  | .produce => inv.produce
  | .pop room => inv.pop room
  | .consume => inv.consume
  | .len i => inv.measure i

theorem run (inv : s.Counters c) (steps : List (Step α)) : (s.run steps).Counters c := by
  induction steps generalizing s with
  | nil => exact inv
  | cons a rest ih => exact ih (inv.step a)

end Sides

end Counters

/-! ### Accepted values only grow -/

section Growth

variable [Inhabited α]

theorem accepted_prefix_step (s : Shared α) : ∀ a : Step α, s.accepted.IsPrefix (s.step a).accepted
  | .push v => by
    rw [step_push]
    split <;> exact List.prefix_refl _
  | .produce => by
    show s.accepted.IsPrefix s.produce.accepted
    cases producing : s.producer with
    | idle => rw [Shared.produce, producing]
    | loaded v tail => rw [produce_loaded producing]; split <;> exact List.prefix_refl _
    | writing v tail => rw [produce_writing producing]
    | publishing v tail => rw [produce_publishing producing]; exact List.prefix_append _ _
  | .pop room => by
    rw [step_pop]
    split <;> exact List.prefix_refl _
  | .consume => by
    show s.accepted.IsPrefix s.consume.accepted
    unfold Shared.consume
    split
    · exact List.prefix_refl _
    · exact List.prefix_refl _
    · split
      · exact List.prefix_refl _
      · split <;> exact List.prefix_refl _
  | .len i => by
    show s.accepted.IsPrefix (s.measure i).accepted
    unfold Shared.measure
    split <;> exact List.prefix_refl _

theorem accepted_prefix_run (s : Shared α) (steps : List (Step α)) :
    s.accepted.IsPrefix (s.run steps).accepted := by
  induction steps generalizing s with
  | nil => exact List.prefix_refl _
  | cons a rest ih => exact (accepted_prefix_step s a).trans (ih (s.step a))

end Growth

/-! ### Every step keeps the values where the consumer reads them -/

/-- The counters of the values held, and of the one being written, take distinct
slots: the capacity divides `2^64`, or fewer than `2^64` values were accepted. -/
def Spread (c : Nat) (s : Shared α) : Prop := c ∣ 2 ^ 64 ∨ s.accepted.length < 2 ^ 64

theorem Spread.mono {c n : Nat} {s : Shared α} (spread : Spread c s) (le : n ≤ s.accepted.length) :
    c ∣ 2 ^ 64 ∨ n < 2 ^ 64 := by
  rcases spread with divides | below
  · exact .inl divides
  · exact .inr (by omega)

theorem Spread.of_prefix {c : Nat} {s s' : Shared α} (spread : Spread c s')
    (grows : s.accepted.IsPrefix s'.accepted) : Spread c s :=
  spread.mono grows.length_le

theorem published_le_read (s : Shared α) : s.published ≤ s.received.length := Nat.sub_le _ _

/-- Within the window of counters from the published one to the next to write,
two counters take different slots. -/
theorem Counters.slot_ne {c : Nat} (inv : s.Counters c) (spread : Spread c s) {i j : Nat} (lt : i < j)
    (near : j < i + c) (below : j ≤ s.accepted.length) : s.ring.slot i.toUInt64 ≠ s.ring.slot j.toUInt64 := by
  have fits := inv.fits
  refine Ring.slot_ne (by rw [inv.capacity]; omega) lt (by rw [inv.capacity]; exact near) ?_
  rw [inv.capacity]
  exact spread.mono below

theorem Counters.slot_lt {c : Nat} (inv : s.Counters c) (counter : UInt64) :
    s.ring.slot counter < s.ring.slots.size := by
  have := inv.fits
  have := inv.positive
  exact Ring.slot_lt s.ring (by rw [inv.capacity]; omega) (by rw [inv.capacity]; omega) counter

variable [Inhabited α]

/-- Where the values are: the consumer has received the first values accepted,
in order; each value accepted and not yet received sits in the slot of its
counter; and the value whose slot is written, while its counter is not yet
stored, sits in that slot. -/
structure Contents (s : Shared α) : Prop where
  received : s.received = s.accepted.take s.received.length
  unread : ∀ j (held : j < s.accepted.length), s.received.length ≤ j →
    s.ring.slots.getD (s.ring.slot j.toUInt64) default = s.accepted[j]
  publishing : ∀ v tail, s.producer = .publishing v tail → s.ring.slots.getD (s.ring.slot tail) default = v

namespace Contents

variable {c : Nat} {v : α} {tail head : UInt64} {room n k : Nat}

theorem start (c : Nat) : (Shared.start c : Shared α).Contents where
  received := rfl
  unread := fun _ held => absurd held (Nat.not_lt_zero _)
  publishing := fun _ _ idle => nomatch idle

theorem push (held : s.Contents) (v : α) : (s.step (.push v)).Contents := by
  rw [step_push]
  split
  · exact { held with publishing := fun _ _ loaded => nomatch loaded }
  · exact held

theorem pop (held : s.Contents) (room : Nat) : (s.step (.pop room)).Contents := by
  rw [step_pop]
  split
  · exact ⟨held.received, held.unread, held.publishing⟩
  · exact held

theorem measure (held : s.Contents) (i : Nat) : (s.measure i).Contents := by
  unfold Shared.measure
  split
  · exact ⟨held.received, held.unread, held.publishing⟩
  · exact ⟨held.received, held.unread, held.publishing⟩

/-- The producer writes the slot of the next counter, which no value held
shares, and publishes the value it wrote. -/
theorem produce (inv : s.Counters c) (held : s.Contents) (spread : Spread c s) : s.produce.Contents := by
  cases producing : s.producer with
  | idle =>
    rw [Shared.produce, producing]
    exact held
  | loaded v tail =>
    rw [produce_loaded producing]
    split
    · exact { held with publishing := fun _ _ idle => nomatch idle }
    · exact { held with publishing := fun _ _ writing => nomatch writing }
  | writing v tail =>
    have agrees := inv.writing_agrees producing
    have next : tail = s.accepted.length.toUInt64 := agrees.1.trans inv.tail
    rw [produce_writing producing]
    refine ⟨held.received, fun j inside unread => ?_, fun w t publishing => ?_⟩
    · have inside : j < s.accepted.length := inside
      have unread : s.received.length ≤ j := unread
      have apart : s.ring.slot tail ≠ s.ring.slot j.toUInt64 := by
        rw [next]
        have := s.published_le_read
        exact (inv.slot_ne spread inside (by omega) (Nat.le_refl _)).symm
      simp only [slot_setIfInBounds]
      rw [getD_setIfInBounds_ne apart]
      exact held.unread j inside unread
    · obtain ⟨rfl, rfl⟩ : v = w ∧ tail = t := by simpa using publishing
      simp only [slot_setIfInBounds]
      exact getD_setIfInBounds_self (inv.slot_lt tail)
  | publishing v tail =>
    have next : tail = s.accepted.length.toUInt64 := (inv.publishing_agrees producing).1.trans inv.tail
    have written := held.publishing v tail producing
    rw [produce_publishing producing]
    refine ⟨?_, fun j inside unread => ?_, fun _ _ idle => nomatch idle⟩
    · show s.received = (s.accepted ++ [v]).take s.received.length
      rw [List.take_append_of_le_length inv.read]
      exact held.received
    · show s.ring.slots.getD (s.ring.slot j.toUInt64) default = (s.accepted ++ [v])[j]
      simp only [List.length_append, List.length_singleton] at inside
      rcases Nat.lt_or_ge j s.accepted.length with old | last
      · rw [List.getElem_append_left old]
        exact held.unread j old unread
      · obtain rfl : j = s.accepted.length := by omega
        rw [List.getElem_append_right (Nat.le_refl _)]
        simpa [← next] using written

/-- The consumer reads the oldest value not yet received from the slot of its
counter and clears that slot, which no other value held, nor the one being
published, shares. -/
theorem move (inv : s.Counters c) (held : s.Contents) (spread : Spread c s)
    (consuming : s.consumer = .moving head n k) (more : k < n) : s.consume.Contents := by
  have agrees := inv.moving_agrees consuming
  have reading := inv.received_of_moving consuming
  rw [consume_move consuming more]
  -- the counter read is the number received so far
  have counter : head + k.toUInt64 = s.received.length.toUInt64 := by
    rw [agrees.1, inv.head, ← reading]
    simp only [Nat.toUInt64_eq, UInt64.ofNat_add]
  have next : s.received.length < s.accepted.length := by omega
  have near : s.accepted.length ≤ s.received.length + c := by
    have := inv.bounded
    omega
  rw [counter]
  refine ⟨?_, fun j inside unread => ?_, fun w t publishing => ?_⟩
  · show s.received ++ [s.ring.slots.getD (s.ring.slot s.received.length.toUInt64) default] =
      s.accepted.take (s.received ++ [_]).length
    rw [held.unread _ next (Nat.le_refl _), List.length_append, List.length_singleton, List.take_add_one,
      List.getElem?_eq_getElem next, Option.toList_some, ← held.received]
  · have inside : j < s.accepted.length := inside
    have unread : s.received.length + 1 ≤ j := by simpa using unread
    have apart := inv.slot_ne spread (show s.received.length < j by omega) (by omega) inside.le
    simp only [slot_setIfInBounds]
    show (s.ring.slots.setIfInBounds _ default).getD (s.ring.slot j.toUInt64) default = s.accepted[j]
    rw [getD_setIfInBounds_ne apart]
    exact held.unread j inside (by omega)
  · have publishing : s.producer = .publishing w t := publishing
    have agrees := inv.publishing_agrees publishing
    have apart := inv.slot_ne spread next (by omega) (Nat.le_refl _)
    simp only [slot_setIfInBounds]
    show (s.ring.slots.setIfInBounds _ default).getD (s.ring.slot t) default = w
    rw [agrees.1, inv.tail, getD_setIfInBounds_ne apart]
    rw [← inv.tail, ← agrees.1]
    exact held.publishing w t publishing

theorem consume (inv : s.Counters c) (held : s.Contents) (spread : Spread c s) : s.consume.Contents := by
  cases consuming : s.consumer with
  | idle =>
    rw [Shared.consume, consuming]
    exact held
  | loaded room head =>
    rw [consume_loaded consuming]
    exact ⟨held.received, held.unread, held.publishing⟩
  | moving head n k =>
    by_cases more : k < n
    · exact held.move inv spread consuming more
    by_cases some : 0 < n
    · rw [consume_store consuming more some]
      exact ⟨held.received, held.unread, held.publishing⟩
    · rw [consume_finish consuming more (by omega)]
      exact ⟨held.received, held.unread, held.publishing⟩

theorem step (inv : s.Counters c) (held : s.Contents) (spread : Spread c s) : ∀ a : Step α, (s.step a).Contents
  | .push v => held.push v
  | .produce => held.produce inv spread
  | .pop room => held.pop room
  | .consume => held.consume inv spread
  | .len i => held.measure i

/-- Every run whose accepted values keep distinct slots keeps the values where
the consumer reads them. -/
theorem run (inv : s.Counters c) (held : s.Contents) (steps : List (Step α))
    (spread : Spread c (s.run steps)) : (s.run steps).Contents := by
  induction steps generalizing s with
  | nil => exact held
  | cons a rest ih =>
    have first : Spread c s :=
      spread.of_prefix ((accepted_prefix_step s a).trans (accepted_prefix_run (s.step a) rest))
    exact ih (inv.step a) (held.step inv first a) spread

end Contents

/-! ### What Len returns -/

omit [Inhabited α] in
/-- A Len call that loaded a read counter stored earlier returns a count in
`[0, c]` while fewer than `2^63` values were accepted. -/
theorem Counters.count_within {c : Nat} (inv : s.Counters c) (few : s.accepted.length < 2 ^ 63) {i : Nat}
    {head : UInt64} (reading : s.readers i = some head) :
    0 ≤ countBetween s.ring.capacity head s.ring.tail ∧ countBetween s.ring.capacity head s.ring.tail ≤ c := by
  obtain ⟨m, le, rfl⟩ := inv.readers i head reading
  have := inv.published_le
  rw [inv.capacity]
  apply countBetween_of_lt
  rw [inv.tail, toNat_toUInt64_sub (by omega) (by omega)]
  omega

theorem lengths_step (s : Shared α) : ∀ a : Step α, (∃ i, a = .len i) ∨ (s.step a).lengths = s.lengths
  | .push v => .inr (by rw [step_push]; split <;> rfl)
  | .produce => .inr (by
    show s.produce.lengths = s.lengths
    cases producing : s.producer with
    | idle => rw [Shared.produce, producing]
    | loaded v tail => rw [produce_loaded producing]; split <;> rfl
    | writing v tail => rw [produce_writing producing]
    | publishing v tail => rw [produce_publishing producing])
  | .pop room => .inr (by rw [step_pop]; split <;> rfl)
  | .consume => .inr (by
    show s.consume.lengths = s.lengths
    unfold Shared.consume
    split
    · rfl
    · rfl
    · split
      · rfl
      · split <;> rfl)
  | .len i => .inl ⟨i, rfl⟩

theorem lengths_within_step {c : Nat} (inv : s.Counters c) (within : ∀ n ∈ s.lengths, 0 ≤ n ∧ n ≤ c)
    (few : s.accepted.length < 2 ^ 63) (a : Step α) : ∀ n ∈ (s.step a).lengths, 0 ≤ n ∧ n ≤ c := by
  rcases lengths_step s a with ⟨i, rfl⟩ | same
  · show ∀ n ∈ (s.measure i).lengths, 0 ≤ n ∧ n ≤ c
    unfold Shared.measure
    split
    · exact within
    · rename_i head reading
      intro n mem
      rcases List.mem_append.1 mem with old | new
      · exact within n old
      · rw [List.mem_singleton.1 new]
        exact inv.count_within few reading
  · rw [same]
    exact within

theorem lengths_within_run {c : Nat} (inv : s.Counters c) (within : ∀ n ∈ s.lengths, 0 ≤ n ∧ n ≤ c)
    (steps : List (Step α)) (few : (s.run steps).accepted.length < 2 ^ 63) :
    ∀ n ∈ (s.run steps).lengths, 0 ≤ n ∧ n ≤ c := by
  induction steps generalizing s with
  | nil => exact within
  | cons a rest ih =>
    have first : s.accepted.length < 2 ^ 63 :=
      Nat.lt_of_le_of_lt ((accepted_prefix_step s a).trans (accepted_prefix_run _ rest)).length_le few
    exact ih (inv.step a) (lengths_within_step inv within first a) few

/-! ### The hand-off -/

/-- One producer, one consumer and any number of Len callers share a ring of
capacity `c` made by New, in any interleaving of their steps. While the counters
of the values held take distinct slots (`c` divides `2^64`, or fewer than `2^64`
values were accepted), the consumer has received the first values accepted, in
order and each once; every value accepted and not yet received still sits in the
slot of its counter; and a producer about to write a slot writes none of theirs.
While fewer than `2^63` values were accepted, every Len call returned a count in
`[0, c]`. -/
theorem interleaved_handoff (c : Nat) (positive : 0 < c) (fits : c < 2 ^ 63) (steps : List (Step α)) :
    let s := (start c : Shared α).run steps
    ((c ∣ 2 ^ 64 ∨ s.accepted.length < 2 ^ 64) →
      s.received.IsPrefix s.accepted ∧
      (∀ j (held : j < s.accepted.length), s.received.length ≤ j →
        s.ring.slots.getD (s.ring.slot j.toUInt64) default = s.accepted[j]) ∧
      ∀ v tail, s.producer = .writing v tail →
        ∀ j, s.received.length ≤ j → j < s.accepted.length → s.ring.slot tail ≠ s.ring.slot j.toUInt64) ∧
    (s.accepted.length < 2 ^ 63 → ∀ n ∈ s.lengths, 0 ≤ n ∧ n ≤ c) := by
  intro s
  have counters : s.Counters c := (counters_start positive fits).run steps
  refine ⟨fun spread => ?_, lengths_within_run (counters_start positive fits) (fun _ none => nomatch none) steps⟩
  have held : s.Contents := (Contents.start c).run (counters_start positive fits) steps spread
  refine ⟨held.received ▸ List.take_prefix _ _, held.unread, fun v tail writing j unread inside => ?_⟩
  -- the slot being written is that of the next counter, within the capacity of every unread one
  have agrees := counters.writing_agrees writing
  have := s.published_le_read
  rw [agrees.1, counters.tail]
  exact (counters.slot_ne spread inside (by omega) (Nat.le_refl _)).symm

theorem two_slot_handoff :
    let s := (start 2 : Shared Nat).run [.push 5, .len 0, .produce, .produce, .pop 4, .produce, .consume,
      .push 6, .produce, .produce, .produce, .len 0, .consume, .consume, .consume, .len 1, .len 1]
    0 < 2 ∧ 2 < 2 ^ 63 ∧
    ((2 ∣ 2 ^ 64 ∨ s.accepted.length < 2 ^ 64) →
      s.received.IsPrefix s.accepted ∧
      (∀ j (held : j < s.accepted.length), s.received.length ≤ j →
        s.ring.slots.getD (s.ring.slot j.toUInt64) default = s.accepted[j]) ∧
      ∀ v tail, s.producer = .writing v tail →
        ∀ j, s.received.length ≤ j → j < s.accepted.length → s.ring.slot tail ≠ s.ring.slot j.toUInt64) ∧
    (s.accepted.length < 2 ^ 63 → ∀ n ∈ s.lengths, 0 ≤ n ∧ n ≤ 2) :=
  ⟨by decide, by decide, interleaved_handoff 2 (by decide) (by decide) _⟩

/-! ### Past the wrap -/

theorem run_append (s : Shared α) (first later : List (Step α)) :
    s.run (first ++ later) = (s.run first).run later :=
  List.foldl_append

def pushThenPop (v : α) : List (Step α) :=
  [.push v, .produce, .produce, .produce, .pop 1, .consume, .consume, .consume]

/-- On an empty ring, a Push and then a Pop hand `v` over and move both counters
on by one. -/
theorem run_pushThenPop (s : Shared α) (v : α) (idle : s.producer = .idle) (waiting : s.consumer = .idle)
    (level : s.ring.head = s.ring.tail) (positive : 0 < s.ring.capacity) (fits : s.ring.capacity < 2 ^ 64) :
    s.run (pushThenPop v) = { s with ring := ⟨s.ring.slots.setIfInBounds (s.ring.slot s.ring.tail) default,
      s.ring.head + 1, s.ring.tail + 1⟩, accepted := s.accepted ++ [v], received := s.received ++ [v] } := by
  obtain ⟨⟨slots, head, tail⟩, producer, consumer, readers, accepted, received, lengths⟩ := s
  dsimp only [capacity] at idle waiting level positive fits
  subst idle waiting level
  have nonzero : (0 : UInt64) ≠ UInt64.ofNat slots.size := by
    intro zero
    have := congrArg UInt64.toNat zero
    rw [UInt64.toNat_ofNat', Nat.mod_eq_of_lt fits] at this
    simp at this
    omega
  have inside : head.toNat % (slots.size % 2 ^ 64) < slots.size := by
    rw [Nat.mod_eq_of_lt fits]
    exact Nat.mod_lt _ positive
  simp [Shared.run, pushThenPop, Shared.step, Shared.produce, Shared.consume, Ring.capacity, Ring.slot, nonzero]
  exact fun outside => absurd inside (Nat.not_lt.2 outside)

/-- `n` rounds of a Push and then a Pop on an empty ring move both counters on by
`n`, wrapping past `2^64`. -/
theorem run_rounds (v : α) : ∀ (n : Nat) (s : Shared α), s.producer = .idle → s.consumer = .idle →
    s.ring.head = s.ring.tail → 0 < s.ring.capacity → s.ring.capacity < 2 ^ 64 →
    ∃ slots : Array α, slots.size = s.ring.slots.size ∧
      s.run (List.replicate n (pushThenPop v)).flatten =
        { s with ring := ⟨slots, s.ring.head + n.toUInt64, s.ring.tail + n.toUInt64⟩,
                 accepted := s.accepted ++ List.replicate n v, received := s.received ++ List.replicate n v }
  | 0, s, _, _, _, _, _ => ⟨s.ring.slots, rfl, by simp [Shared.run]⟩
  | n + 1, s, idle, waiting, level, positive, fits => by
    obtain ⟨slots, size, rest⟩ := run_rounds v n s idle waiting level positive fits
    rw [List.replicate_succ', List.flatten_append, List.flatten_singleton, run_append, rest, run_pushThenPop]
    · refine ⟨slots.setIfInBounds (Ring.slot ⟨slots, s.ring.head + n.toUInt64, s.ring.tail + n.toUInt64⟩
        (s.ring.tail + n.toUInt64)) default, by simpa using size, ?_⟩
      have next : ∀ x : UInt64, x + n.toUInt64 + 1 = x + (n + 1).toUInt64 := fun x => by
        simp only [Nat.toUInt64_eq, UInt64.ofNat_add, add_assoc]
        rfl
      simp only [next, List.replicate_succ', List.append_assoc]
    · exact idle
    · exact waiting
    · simp [level]
    · simpa [capacity, size] using positive
    · simpa [capacity, size] using fits

/-- Pushes of `1` and `2` and then a Pop, each run to its end, on an empty ring of
three slots whose counters stand at `2^64 - 1`. -/
def overtake : List (Step Nat) :=
  [.push 1, .produce, .produce, .produce, .push 2, .produce, .produce, .produce, .pop 1, .consume, .consume, .consume]

/-- The write counter wraps to `0` after the first Push, whose slot `(2^64 - 1) % 3`
is `0` as well: the second Push overwrites the first value before it is read,
and the Pop receives `2`. -/
theorem run_overtake (s : Shared Nat) (idle : s.producer = .idle) (waiting : s.consumer = .idle)
    (last : s.ring.head = -1) (level : s.ring.tail = s.ring.head) (three : s.ring.slots.size = 3) :
    (s.run overtake).accepted = s.accepted ++ [1, 2] ∧ (s.run overtake).received = s.received ++ [2] := by
  obtain ⟨⟨slots, head, tail⟩, producer, consumer, readers, accepted, received, lengths⟩ := s
  dsimp only at idle waiting last level three
  subst idle waiting last level
  simp [Shared.run, overtake, Shared.step, Shared.produce, Shared.consume, Ring.capacity, Ring.slot, three]

/-- Past `2^64` values the hand-off fails, as no test comes near. On three slots,
after `2^64 - 1` rounds of a Push and a Pop, the values `1` and `2` are pushed
and the consumer receives `2` where `1` was accepted first. On one slot, a Len
caller that loads the read counter and then waits while `2^63` values pass
returns `-2^63`. -/
theorem wrapped_counters_break_handoff :
    (∃ steps : List (Step Nat),
      ((start 3 : Shared Nat).run steps).accepted = List.replicate (2 ^ 64 - 1) 0 ++ [1, 2] ∧
      ((start 3 : Shared Nat).run steps).received = List.replicate (2 ^ 64 - 1) 0 ++ [2] ∧
      ¬ ((start 3 : Shared Nat).run steps).received.IsPrefix ((start 3 : Shared Nat).run steps).accepted) ∧
    (∃ steps : List (Step Nat),
      ((start 1 : Shared Nat).run steps).accepted.length = 2 ^ 63 ∧
      ((start 1 : Shared Nat).run steps).lengths = [-2 ^ 63]) := by
  constructor
  · obtain ⟨slots, size, rounds⟩ := run_rounds (0 : Nat) (2 ^ 64 - 1) (start 3 : Shared Nat) rfl rfl rfl
      (by decide) (by decide)
    -- the state after the rounds, counters at 2^64 - 1
    obtain ⟨overtaken, received⟩ := run_overtake
      ((start 3 : Shared Nat).run (List.replicate (2 ^ 64 - 1) (pushThenPop 0)).flatten)
      (by rw [rounds]; rfl) (by rw [rounds]; rfl)
      (by rw [rounds]; show (0 : UInt64) + (2 ^ 64 - 1 : Nat).toUInt64 = -1; decide)
      (by rw [rounds]; rfl) (by rw [rounds]; exact size)
    refine ⟨(List.replicate (2 ^ 64 - 1) (pushThenPop 0)).flatten ++ overtake, ?_⟩
    rw [run_append, overtaken, received, rounds]
    show ([] ++ List.replicate (2 ^ 64 - 1) 0) ++ [1, 2] = _ ∧ ([] ++ List.replicate (2 ^ 64 - 1) 0) ++ [2] = _ ∧
      ¬ (([] ++ List.replicate (2 ^ 64 - 1) 0) ++ [2]).IsPrefix (([] ++ List.replicate (2 ^ 64 - 1) 0) ++ [1, 2])
    rw [List.nil_append, List.prefix_append_right_inj]
    exact ⟨rfl, rfl, by decide⟩
  · obtain ⟨slots, size, rounds⟩ := run_rounds (0 : Nat) (2 ^ 63) ((start 1 : Shared Nat).run [.len 0])
      rfl rfl rfl (by decide) (by decide)
    refine ⟨[.len 0] ++ (List.replicate (2 ^ 63) (pushThenPop 0)).flatten ++ [.len 0], ?_, ?_⟩
    · rw [run_append, run_append, rounds]
      show ([] ++ List.replicate (2 ^ 63) 0).length = 2 ^ 63
      rw [List.nil_append, List.length_replicate]
    · rw [run_append, run_append, rounds]
      show [] ++ [countBetween slots.size 0 (0 + (2 ^ 63 : Nat).toUInt64)] = [-2 ^ 63]
      rw [show slots.size = 1 from size]
      decide

end Shared

end Acquisition.Ring
