import Acquisition.Queue.Ring
import Mathlib

/-! The ring against a bounded list: while the counters do not run past `2^64`, or the capacity
divides `2^64`, each call on the ring does what it does to the list of what it holds. -/
namespace Acquisition.Ring

variable {α : Type}

/-! ### Counters and slots -/

theorem slot_eq (q : Ring α) (fits : q.capacity < 2 ^ 64) (counter : UInt64) :
    q.slot counter = counter.toNat % q.capacity := by
  rw [slot, UInt64.toNat_mod, Nat.toUInt64_eq, UInt64.toNat_ofNat', Nat.mod_eq_of_lt fits]

theorem toNat_add_offset (head : UInt64) (k : Nat) :
    (head + k.toUInt64).toNat = (head.toNat + k) % 2 ^ 64 := by
  simp only [UInt64.toNat_add, Nat.toUInt64_eq, UInt64.toNat_ofNat', Nat.add_mod_mod]

theorem tail_eq_add {head tail : UInt64} {n : Nat} (count : (tail - head).toNat = n) :
    tail = head + n.toUInt64 := by
  apply UInt64.toNat_inj.mp
  have sub := UInt64.toNat_sub tail head
  have := tail.toNat_lt_size
  have := head.toNat_lt_size
  simp only [UInt64.toNat_add, Nat.toUInt64_eq, UInt64.toNat_ofNat']
  simp only [UInt64.size] at *
  omega

theorem toNat_sub_offsets (head : UInt64) {m n : Nat} (le : m ≤ n) (small : n < 2 ^ 64) :
    (head + n.toUInt64 - (head + m.toUInt64)).toNat = n - m := by
  obtain ⟨r, rfl⟩ : ∃ r, n = m + r := ⟨n - m, (Nat.add_sub_of_le le).symm⟩
  rw [show head + (m + r).toUInt64 - (head + m.toUInt64) = r.toUInt64 by
    simp only [Nat.toUInt64_eq, UInt64.ofNat_add]; grind]
  rw [Nat.toUInt64_eq, UInt64.toNat_ofNat', Nat.mod_eq_of_lt (by omega)]
  omega

/-- The `n` counters from the read counter on meet the wrap of `2^64` only
where it does not move the slots: they stay below it, or the capacity divides
`2^64`. -/
def Aligned (q : Ring α) (n : Nat) : Prop := q.capacity ∣ 2 ^ 64 ∨ q.head.toNat + n ≤ 2 ^ 64

theorem Aligned.mono {q : Ring α} {m n : Nat} (aligned : q.Aligned n) (le : m ≤ n) :
    q.Aligned m := by
  rcases aligned with divides | below
  · exact .inl divides
  · exact .inr (by omega)

/-- Alignment carries over to a ring of the same capacity whose read counter
and count reach no further. -/
theorem Aligned.shift {q r : Ring α} {m n : Nat} (aligned : q.Aligned n) (same : r.capacity = q.capacity)
    (within : r.head.toNat + m ≤ q.head.toNat + n) : r.Aligned m := by
  rcases aligned with divides | below
  · exact .inl (same ▸ divides)
  · exact .inr (by omega)

/-- Inside an aligned window the `k`-th counter takes slot `head + k` modulo
the capacity, as if the counters never wrapped. -/
theorem slot_offset {q : Ring α} {n k : Nat} (fits : q.capacity < 2 ^ 64) (aligned : q.Aligned n)
    (inside : k < n) : q.slot (q.head + k.toUInt64) = (q.head.toNat + k) % q.capacity := by
  rw [slot_eq q fits, toNat_add_offset]
  rcases aligned with divides | below
  · exact Nat.mod_mod_of_dvd _ divides
  · rw [Nat.mod_eq_of_lt (show q.head.toNat + k < 2 ^ 64 by omega)]

theorem mod_injective {a i j c : Nat} (hi : i < c) (hj : j < c)
    (same : (a + i) % c = (a + j) % c) : i = j := by
  rcases Nat.lt_trichotomy i j with lt | eq | gt
  · have divides : c ∣ (a + j) - (a + i) := Nat.dvd_of_mod_eq_zero (Nat.sub_mod_eq_zero_of_mod_eq same.symm)
    have := Nat.eq_zero_of_dvd_of_lt divides (by omega)
    omega
  · exact eq
  · have divides : c ∣ (a + i) - (a + j) := Nat.dvd_of_mod_eq_zero (Nat.sub_mod_eq_zero_of_mod_eq same)
    have := Nat.eq_zero_of_dvd_of_lt divides (by omega)
    omega

theorem slot_offset_injective {q : Ring α} {n i j : Nat} (fits : q.capacity < 2 ^ 64)
    (aligned : q.Aligned n) (bounded : n ≤ q.capacity) (hi : i < n) (hj : j < n)
    (same : q.slot (q.head + i.toUInt64) = q.slot (q.head + j.toUInt64)) : i = j := by
  rw [slot_offset fits aligned hi, slot_offset fits aligned hj] at same
  exact mod_injective (by omega) (by omega) same

theorem slot_lt (q : Ring α) (fits : q.capacity < 2 ^ 64) (positive : 0 < q.capacity)
    (counter : UInt64) : q.slot counter < q.slots.size := by
  rw [slot_eq q fits]
  exact Nat.mod_lt _ positive

theorem slot_of_capacity {q r : Ring α} (same : r.capacity = q.capacity) : r.slot = q.slot := by
  funext counter
  simp only [slot, same]

theorem getD_setIfInBounds_ne {xs : Array α} {i j : Nat} {a d : α} (ne : i ≠ j) :
    (xs.setIfInBounds i a).getD j d = xs.getD j d := by
  simp [ne]

theorem getD_setIfInBounds_self {xs : Array α} {i : Nat} {a d : α} (inside : i < xs.size) :
    (xs.setIfInBounds i a).getD i d = a := by
  simp [inside]

theorem set_take_append_drop {xs ys : List α} {m : Nat} (inside : m < xs.length) (room : m < ys.length) :
    (xs.take m ++ ys.drop m).set m xs[m] = xs.take (m + 1) ++ ys.drop (m + 1) := by
  rw [List.set_append_right _ _ (by rw [List.length_take]; omega)]
  simp only [List.length_take, Nat.min_eq_left (Nat.le_of_lt inside), Nat.sub_self]
  rw [List.drop_eq_getElem_cons room, List.set_cons_zero, List.take_add_one,
    List.getElem?_eq_getElem inside]
  simp only [Option.toList_some, List.append_assoc, List.singleton_append]

variable [Inhabited α]

/-! ### The list a ring holds -/

/-- The ring holds `xs`, oldest first: there are `xs.length` counters from the
read counter to the write counter, no more than the capacity, they are aligned,
and the slot of the `k`-th holds `xs[k]`. The capacity is a positive signed machine integer. -/
structure Holds (q : Ring α) (xs : List α) : Prop where
  positive : 0 < q.capacity
  fits : q.capacity < 2 ^ 63
  count : (q.tail - q.head).toNat = xs.length
  bounded : xs.length ≤ q.capacity
  aligned : q.Aligned xs.length
  slots : ∀ k (inside : k < xs.length), q.slots.getD (q.slot (q.head + k.toUInt64)) default = xs[k]

namespace Holds

variable {q : Ring α} {xs : List α}

theorem fits64 (holds : q.Holds xs) : q.capacity < 2 ^ 64 := by
  have := holds.fits
  omega

theorem tail_eq (holds : q.Holds xs) : q.tail = q.head + xs.length.toUInt64 :=
  tail_eq_add holds.count

theorem toList_eq (holds : q.Holds xs) : q.toList = xs := by
  apply List.ext_getElem
  · simp [toList, holds.count]
  · intro k inside _
    simp only [toList, List.getElem_map, List.getElem_range]
    exact holds.slots k (by simpa [toList, holds.count] using inside)

end Holds

/-! ### What each call leaves alone -/

theorem pop_capacity (q : Ring α) : q.pop.2.capacity = q.capacity := by
  simp only [pop]
  split <;> simp [capacity]

theorem pop_tail (q : Ring α) : q.pop.2.tail = q.tail := by
  simp only [pop]
  split <;> rfl

theorem popAll_frame (fuel : Nat) (q : Ring α) :
    (popAll fuel q).2.capacity = q.capacity ∧ (popAll fuel q).2.tail = q.tail := by
  induction fuel generalizing q with
  | zero => exact ⟨rfl, rfl⟩
  | succ fuel ih =>
    have capacity := pop_capacity q
    have tail := pop_tail q
    rcases popped : q.pop with ⟨_ | v, q'⟩
    · rw [popped] at capacity tail
      simp only [popAll, popped]
      exact ⟨capacity, tail⟩
    · rw [popped] at capacity tail
      simp only [popAll, popped]
      obtain ⟨capacity', tail'⟩ := ih q'
      exact ⟨capacity'.trans capacity, tail'.trans tail⟩

theorem moveOut_size (q : Ring α) (ks : List Nat) (moved : Array α × Array α) :
    (ks.foldl q.moveOut moved).2.size = moved.2.size := by
  induction ks generalizing moved with
  | nil => rfl
  | cons k ks ih => simp [List.foldl_cons, ih, moveOut]

omit [Inhabited α] in
theorem push_head (q : Ring α) (v : α) : (q.push v).2.head = q.head := by
  unfold push
  split <;> rfl

omit [Inhabited α] in
theorem push_capacity (q : Ring α) (v : α) : (q.push v).2.capacity = q.capacity := by
  unfold push
  split
  · rfl
  · simp [capacity]

theorem popBatch_capacity (q : Ring α) (dst : Array α) : (q.popBatch dst).2.2.capacity = q.capacity :=
  moveOut_size _ _ _

theorem popBatch_head (q : Ring α) (dst : Array α) :
    (q.popBatch dst).2.2.head = q.head + (min dst.size (q.tail - q.head).toNat).toUInt64 := rfl

/-! ### Rings that never overfill

Without following what a ring holds: its counters stay at most the capacity
apart under every call, and draining it leaves it empty. -/

/-- The counters never stand further apart than the ring has slots, and the
slots can be counted in a word. -/
structure Bounded (q : Ring α) : Prop where
  fits : q.capacity < 2 ^ 64
  within : (q.tail - q.head).toNat ≤ q.capacity

theorem sub_eq_zero_toNat {head tail : UInt64} : (tail - head).toNat = 0 ↔ head = tail := by
  have sub := UInt64.toNat_sub tail head
  have := tail.toNat_lt_size
  have := head.toNat_lt_size
  rw [← UInt64.toNat_inj]
  simp only [UInt64.size] at *
  omega

theorem sub_succ_toNat {head tail : UInt64} (apart : head ≠ tail) :
    (tail - (head + 1)).toNat = (tail - head).toNat - 1 := by
  have h1 := UInt64.toNat_sub tail head
  have h2 := UInt64.toNat_sub tail (head + 1)
  have := tail.toNat_lt_size
  have := head.toNat_lt_size
  have ne : head.toNat ≠ tail.toNat := fun e => apart (UInt64.toNat_inj.mp e)
  simp only [UInt64.toNat_add, UInt64.toNat_one, UInt64.size] at *
  omega

theorem succ_sub_toNat {head tail : UInt64} (room : (tail - head).toNat + 1 < 2 ^ 64) :
    (tail + 1 - head).toNat = (tail - head).toNat + 1 := by
  have h1 := UInt64.toNat_sub tail head
  have h2 := UInt64.toNat_sub (tail + 1) head
  have := tail.toNat_lt_size
  have := head.toNat_lt_size
  simp only [UInt64.toNat_add, UInt64.toNat_one, UInt64.size] at *
  omega

theorem toList_eq_nil (q : Ring α) : q.toList = [] ↔ q.head = q.tail := by
  simp [toList, sub_eq_zero_toNat]

omit [Inhabited α] in
theorem push_bounded {q : Ring α} (bounded : q.Bounded) (v : α) : (q.push v).2.Bounded := by
  unfold Ring.push
  split
  · exact bounded
  · rename_i room
    have fits := bounded.fits
    have within := bounded.within
    have apart : (q.tail - q.head).toNat ≠ q.capacity := by
      intro full
      apply room
      rw [beq_iff_eq, ← UInt64.toNat_inj, full, Nat.toUInt64_eq, UInt64.toNat_ofNat', Nat.mod_eq_of_lt fits]
    refine ⟨by simpa [capacity] using fits, ?_⟩
    simp only [capacity, Array.size_setIfInBounds] at *
    rw [succ_sub_toNat (by omega)]
    omega

theorem pop_bounded {q : Ring α} (bounded : q.Bounded) : q.pop.2.Bounded := by
  unfold Ring.pop
  split
  · exact bounded
  · rename_i apart
    refine ⟨by simpa [capacity] using bounded.fits, ?_⟩
    have within := bounded.within
    simp only [capacity, Array.size_setIfInBounds, beq_iff_eq] at *
    rw [sub_succ_toNat apart]
    omega

theorem sub_add_toNat {head tail : UInt64} {k : Nat} (le : k ≤ (tail - head).toNat) :
    (tail - (head + k.toUInt64)).toNat = (tail - head).toNat - k := by
  have small : (tail - head).toNat < 2 ^ 64 := (tail - head).toNat_lt_size
  calc (tail - (head + k.toUInt64)).toNat
      = (head + (tail - head).toNat.toUInt64 - (head + k.toUInt64)).toNat := by
        rw [← @tail_eq_add head tail _ rfl]
    _ = (tail - head).toNat - k := toNat_sub_offsets head le small

theorem popBatch_bounded {q : Ring α} (bounded : q.Bounded) (dst : Array α) : (q.popBatch dst).2.2.Bounded := by
  have capacity := popBatch_capacity q dst
  refine ⟨capacity ▸ bounded.fits, ?_⟩
  rw [capacity]
  have within := bounded.within
  show (q.tail - (q.head + (min dst.size (q.tail - q.head).toNat).toUInt64)).toNat ≤ q.capacity
  rw [sub_add_toNat (Nat.min_le_right _ _)]
  omega

/-- Popping until nothing is left, with fuel for every element held, leaves
the ring empty. The induction is on the fuel, one pop a step. -/
theorem popAll_drains {fuel : Nat} {q : Ring α} (bounded : q.Bounded) (enough : (q.tail - q.head).toNat < fuel) :
    (popAll fuel q).2.Bounded ∧ (popAll fuel q).2.head = (popAll fuel q).2.tail := by
  induction fuel generalizing q with
  | zero => omega
  | succ fuel ih =>
    by_cases same : q.head = q.tail
    · have popped : q.pop = (none, q) := by simp [pop, same]
      simp only [popAll, popped]
      exact ⟨bounded, same⟩
    · have popped : q.pop = (some (q.slots.getD (q.slot q.head) default), q.pop.2) := by
        simp [pop, same]
      rw [popAll, popped]
      refine ih (pop_bounded bounded) ?_
      have held : (q.tail - q.head).toNat ≠ 0 := fun empty => same (sub_eq_zero_toNat.mp empty)
      simp only [pop, beq_iff_eq, same, if_false]
      rw [sub_succ_toNat same]
      omega

theorem drain_drains {q : Ring α} (bounded : q.Bounded) : q.drain.2.Bounded ∧ q.drain.2.toList = [] := by
  obtain ⟨bounded', same⟩ := popAll_drains bounded (Nat.lt_succ_of_le bounded.within)
  exact ⟨bounded', (toList_eq_nil _).mpr same⟩

/-! ### One call at a time -/

variable {q : Ring α} {xs : List α}

theorem push_holds (holds : q.Holds xs) (room : xs.length < q.capacity)
    (aligned : q.Aligned (xs.length + 1)) (v : α) :
    (q.push v).1 = true ∧ (q.push v).2.Holds (xs ++ [v]) := by
  have open' : (q.tail - q.head == q.capacity.toUInt64) = false := by
    simp only [beq_eq_false_iff_ne, ne_eq]
    intro full
    have count := congrArg UInt64.toNat full
    rw [holds.count, Nat.toUInt64_eq, UInt64.toNat_ofNat', Nat.mod_eq_of_lt holds.fits64] at count
    omega
  simp only [push, open', Bool.false_eq_true, if_false]
  have capacity' : ({ q with slots := q.slots.setIfInBounds (q.slot q.tail) v, tail := q.tail + 1 } : Ring α).capacity = q.capacity := by
    simp [capacity]
  refine ⟨trivial, ⟨capacity' ▸ holds.positive, capacity' ▸ holds.fits, ?_,
    by simp only [List.length_append, List.length_singleton, capacity']; omega,
    by simpa [Aligned, capacity'] using aligned, ?_⟩⟩
  · have := holds.fits
    simp only [holds.tail_eq, List.length_append, List.length_singleton]
    rw [show q.head + xs.length.toUInt64 + 1 - q.head = (xs.length + 1).toUInt64 by
      simp only [Nat.toUInt64_eq, UInt64.ofNat_add]; grind]
    simp only [Nat.toUInt64_eq, UInt64.toNat_ofNat']
    exact Nat.mod_eq_of_lt (by omega)
  · intro k inside
    rw [slot_of_capacity capacity']
    simp only [List.length_append, List.length_singleton] at inside
    rcases Nat.lt_or_ge k xs.length with old | last
    · have apart : q.slot q.tail ≠ q.slot (q.head + k.toUInt64) := by
        intro same
        rw [holds.tail_eq] at same
        have := slot_offset_injective holds.fits64 aligned (by omega) (Nat.lt_succ_self _)
          (Nat.lt_succ_of_lt old) same
        omega
      rw [getD_setIfInBounds_ne apart, List.getElem_append_left old]
      exact holds.slots k old
    · have : k = xs.length := by omega
      subst this
      rw [← holds.tail_eq, getD_setIfInBounds_self (slot_lt q holds.fits64 holds.positive _)]
      simp

theorem push_full (holds : q.Holds xs) (full : xs.length = q.capacity) (v : α) :
    q.push v = (false, q) := by
  have closed : (q.tail - q.head == q.capacity.toUInt64) = true := by
    rw [beq_iff_eq, tail_eq_add holds.count, full]
    grind
  rw [push, if_pos closed]

theorem pop_holds {x : α} (holds : q.Holds (x :: xs)) :
    q.pop.1 = some x ∧ q.pop.2.Holds xs := by
  have aligned := holds.aligned
  have nonempty : ¬(q.head == q.tail) = true := by
    rw [beq_iff_eq]
    intro same
    have count := holds.count
    rw [same, UInt64.sub_self] at count
    simp at count
  rw [pop, if_neg nonempty]
  dsimp only
  have capacity' : ({ q with slots := q.slots.setIfInBounds (q.slot q.head) default, head := q.head + 1 } : Ring α).capacity = q.capacity := by
    simp [capacity]
  have bounded := holds.bounded
  have fits := holds.fits
  simp only [List.length_cons] at bounded aligned
  have first : q.slots.getD (q.slot q.head) default = x := by
    have := holds.slots 0 (by simp)
    rwa [List.getElem_cons_zero, show q.head + (0 : Nat).toUInt64 = q.head by simp] at this
  refine ⟨by rw [first], capacity' ▸ holds.positive, capacity' ▸ holds.fits, ?_, by rw [capacity']; omega,
    ?_, ?_⟩
  · rw [holds.tail_eq, List.length_cons]
    have := toNat_sub_offsets q.head (Nat.le_add_left 1 xs.length) (by omega)
    simpa using this
  · rcases aligned with divides | below
    · exact .inl (capacity' ▸ divides)
    · refine .inr ?_
      show (q.head + 1).toNat + xs.length ≤ 2 ^ 64
      have := Nat.mod_le (q.head.toNat + 1) (2 ^ 64)
      simp only [UInt64.toNat_add, UInt64.toNat_one]
      omega
  · intro k inside
    rw [slot_of_capacity capacity']
    have shifted : q.head + 1 + k.toUInt64 = q.head + (k + 1).toUInt64 := by
      simp only [Nat.toUInt64_eq, UInt64.ofNat_add]; grind
    have apart : q.slot q.head ≠ q.slot (q.head + (k + 1).toUInt64) := by
      intro same
      have zero : q.slot q.head = q.slot (q.head + (0 : Nat).toUInt64) := by simp
      have := slot_offset_injective holds.fits64 holds.aligned holds.bounded (by simp)
        (by simp; omega) (zero.symm.trans same)
      omega
    show (q.slots.setIfInBounds (q.slot q.head) default).getD (q.slot (q.head + 1 + k.toUInt64)) default = xs[k]
    rw [shifted, getD_setIfInBounds_ne apart]
    exact holds.slots (k + 1) (by simp; omega)

theorem pop_empty (holds : q.Holds []) : q.pop = (none, q) := by
  have same : (q.head == q.tail) = true := by
    rw [beq_iff_eq, tail_eq_add holds.count]
    simp
  rw [pop, if_pos same]

/-- After moving out the first `m` elements, `dst` starts with them and the
slots of the others still hold them. The induction is on `m`, one move a step. -/
theorem moveOut_fold (holds : q.Holds xs) (dst : Array α) {m : Nat} (within : m ≤ xs.length)
    (room : m ≤ dst.size) :
    ((List.range m).foldl q.moveOut (dst, q.slots)).1.toList = xs.take m ++ dst.toList.drop m ∧
    ((List.range m).foldl q.moveOut (dst, q.slots)).2.size = q.slots.size ∧
    ∀ k, m ≤ k → ∀ (inside : k < xs.length),
      ((List.range m).foldl q.moveOut (dst, q.slots)).2.getD (q.slot (q.head + k.toUInt64)) default = xs[k] := by
  induction m with
  | zero => exact ⟨by simp, rfl, fun k _ inside => holds.slots k inside⟩
  | succ m ih =>
    obtain ⟨moved, size, rest⟩ := ih (by omega) (by omega)
    have current := rest m (Nat.le_refl m) (by omega)
    rw [List.range_succ, List.foldl_append, List.foldl_cons, List.foldl_nil]
    refine ⟨?_, ?_, ?_⟩
    · simp only [moveOut, Array.toList_setIfInBounds, current, moved]
      exact set_take_append_drop (by omega) (by simp; omega)
    · simp [moveOut, size]
    · intro k later inside
      have apart : q.slot (q.head + m.toUInt64) ≠ q.slot (q.head + k.toUInt64) := by
        intro same
        have := slot_offset_injective holds.fits64 holds.aligned holds.bounded (by omega) inside same
        omega
      simp only [moveOut]
      rw [getD_setIfInBounds_ne apart]
      exact rest k (by omega) inside

theorem popBatch_holds (holds : q.Holds xs) (dst : Array α) :
    (q.popBatch dst).1 = min dst.size xs.length ∧
    (q.popBatch dst).2.1.toList = xs.take (min dst.size xs.length) ++ dst.toList.drop (min dst.size xs.length) ∧
    (q.popBatch dst).2.2.Holds (xs.drop (min dst.size xs.length)) := by
  obtain ⟨moved, size, rest⟩ := moveOut_fold holds dst (Nat.min_le_right dst.size xs.length)
    (Nat.min_le_left _ _)
  simp only [popBatch, holds.count]
  generalize (List.range (min dst.size xs.length)).foldl q.moveOut (dst, q.slots) = out at moved size rest
  obtain ⟨dst', slots'⟩ := out
  have capacity' : ({ q with slots := slots', head := q.head + (min dst.size xs.length).toUInt64 } : Ring α).capacity = q.capacity := size
  have bounded := holds.bounded
  have fits := holds.fits
  refine ⟨trivial, moved, capacity' ▸ holds.positive, capacity' ▸ holds.fits, ?_,
    by simp only [List.length_drop, capacity']; omega, ?_, ?_⟩
  · rw [holds.tail_eq, List.length_drop]
    exact toNat_sub_offsets q.head (Nat.min_le_right _ _) (by omega)
  · rcases holds.aligned with divides | below
    · exact .inl (capacity' ▸ divides)
    · refine .inr ?_
      show (q.head + (min dst.size xs.length).toUInt64).toNat + (xs.drop (min dst.size xs.length)).length ≤ 2 ^ 64
      rw [toNat_add_offset, List.length_drop]
      have := Nat.mod_le (q.head.toNat + min dst.size xs.length) (2 ^ 64)
      omega
  · intro k inside
    rw [slot_of_capacity capacity']
    simp only [List.length_drop] at inside
    show slots'.getD (q.slot (q.head + (min dst.size xs.length).toUInt64 + k.toUInt64)) default = _
    rw [show q.head + (min dst.size xs.length).toUInt64 + k.toUInt64 = q.head + (min dst.size xs.length + k).toUInt64 by
      simp only [Nat.toUInt64_eq, UInt64.ofNat_add]; grind, List.getElem_drop]
    exact rest _ (Nat.le_add_right _ _) (by omega)

theorem popAll_holds (holds : q.Holds xs) {fuel : Nat} (enough : xs.length < fuel) :
    (popAll fuel q).1 = xs.length ∧ (popAll fuel q).2.Holds [] := by
  induction xs generalizing q fuel with
  | nil =>
    obtain ⟨fuel, rfl⟩ : ∃ f, fuel = f + 1 := ⟨fuel - 1, by omega⟩
    simp only [popAll, pop_empty holds]
    exact ⟨rfl, holds⟩
  | cons x xs ih =>
    obtain ⟨fuel, rfl⟩ : ∃ f, fuel = f + 1 := ⟨fuel - 1, by omega⟩
    obtain ⟨first, rest⟩ := pop_holds holds
    have popped : q.pop = (some x, q.pop.2) := Prod.ext first rfl
    obtain ⟨count, drained⟩ := ih rest (by simp at enough; omega)
    rw [popAll, popped]
    exact ⟨by simp [count], drained⟩

theorem drain_holds (holds : q.Holds xs) : q.drain.1 = xs.length ∧ q.drain.2.Holds [] :=
  popAll_holds holds (Nat.lt_succ_of_le holds.bounded)

theorem toInt_toInt64_of_lt {d : UInt64} (small : d.toNat < 2 ^ 63) : d.toInt64.toInt = d.toNat := by
  rw [show d.toInt64.toInt = d.toBitVec.toInt from rfl,
    BitVec.toInt_eq_toNat_of_lt (by show 2 * d.toNat < 2 ^ 64; omega)]
  rfl

theorem length_eq (holds : q.Holds xs) : q.length = xs.length := by
  have small : (q.tail - q.head).toNat < 2 ^ 63 := by
    have := holds.bounded
    have := holds.fits
    rw [holds.count]
    omega
  have := holds.bounded
  simp only [length, countBetween, toInt_toInt64_of_lt small, holds.count]
  rw [if_neg (by omega)]

theorem isEmpty_eq (holds : q.Holds xs) : q.isEmpty = xs.isEmpty := by
  cases xs with
  | nil => simp [isEmpty, length_eq holds]
  | cons x xs => simp [isEmpty, length_eq holds]; omega

/-! ### Rings whose capacity divides `2^64`

Such a ring lets its counters wrap as they like: it holds what `toList` reads
after every call, so its calls can be followed on that list alone. -/

/-- A ring that holds its `toList` and whose capacity divides `2^64`. -/
structure Exact (q : Ring α) : Prop where
  holds : q.Holds q.toList
  divides : q.capacity ∣ 2 ^ 64

theorem exact_replicate {n : Nat} (positive : 0 < n) (small : n < 2 ^ 63) (divides : n ∣ 2 ^ 64) :
    (⟨Array.replicate n default, 0, 0⟩ : Ring α).Exact := by
  have holds : (⟨Array.replicate n default, 0, 0⟩ : Ring α).Holds [] :=
    { positive := by simpa [capacity] using positive
      fits := by simpa [capacity] using small
      count := by simp
      bounded := Nat.zero_le _
      aligned := .inr (by simp)
      slots := fun _ inside => absurd inside (Nat.not_lt_zero _) }
  refine ⟨?_, by simpa [capacity] using divides⟩
  rw [holds.toList_eq]
  exact holds

theorem pop_eq_of_none (q : Ring α) (none : q.pop.1 = none) : q.pop.2 = q := by
  unfold pop at none ⊢
  split
  · rfl
  · rename_i apart
    simp [apart] at none

omit [Inhabited α] in
theorem push_eq_of_refused (q : Ring α) (v : α) (refused : (q.push v).1 = false) : (q.push v).2 = q := by
  unfold push at refused ⊢
  split
  · rfl
  · rename_i room
    simp [room] at refused

namespace Exact

variable {q : Ring α}

theorem push (exact : q.Exact) (v : α) :
    (q.push v).2.Exact ∧ (q.push v).2.toList = if (q.push v).1 then q.toList ++ [v] else q.toList := by
  rcases Nat.lt_or_ge q.toList.length q.capacity with room | full
  · obtain ⟨accepted, holds⟩ := push_holds exact.holds room (.inl exact.divides) v
    have listed := holds.toList_eq
    refine ⟨⟨?_, push_capacity q v ▸ exact.divides⟩, by rw [listed, accepted, if_pos rfl]⟩
    rw [listed]
    exact holds
  · have refused := push_full exact.holds (Nat.le_antisymm exact.holds.bounded full) v
    rw [refused]
    exact ⟨exact, rfl⟩

theorem pop (exact : q.Exact) : q.pop.2.Exact ∧ q.toList = q.pop.1.toList ++ q.pop.2.toList := by
  have holds := exact.holds
  rcases listed : q.toList with _ | ⟨x, xs⟩
  · rw [listed] at holds
    rw [pop_empty holds]
    exact ⟨exact, by simp [listed]⟩
  · rw [listed] at holds
    obtain ⟨first, rest⟩ := pop_holds holds
    refine ⟨⟨?_, pop_capacity q ▸ exact.divides⟩, by rw [first, rest.toList_eq]; rfl⟩
    rw [rest.toList_eq]
    exact rest

theorem drain (exact : q.Exact) : q.drain.2.Exact ∧ q.drain.2.toList = [] := by
  have emptied := (drain_holds exact.holds).2
  have listed := emptied.toList_eq
  refine ⟨⟨?_, ?_⟩, listed⟩
  · rw [listed]
    exact emptied
  · show (popAll (q.capacity + 1) q).2.capacity ∣ 2 ^ 64
    rw [(popAll_frame _ q).1]
    exact exact.divides

end Exact

/-! ### Runs of calls against the bounded list -/

/-- A call on the ring by the one party allowed to make it. -/
inductive Call (α : Type) where
  | push (v : α)
  | pop
  | popBatch (dst : Array α)
  | drain
  | len
  | empty
  | cap
  deriving DecidableEq

/-- What a call gives back; a batch pop gives the count and the whole of `dst`. -/
inductive Reply (α : Type) where
  | pushed (ok : Bool)
  | popped (v : Option α)
  | moved (count : Nat) (dst : Array α)
  | drained (count : Nat)
  | length (n : Int)
  | empty (yes : Bool)
  | capacity (n : Nat)
  deriving DecidableEq

def pushes : List (Call α) → Nat
  | [] => 0
  | .push _ :: calls => pushes calls + 1
  | _ :: calls => pushes calls

/-- The ring's answer to one call. -/
def answer (q : Ring α) : Call α → Reply α × Ring α
  | .push v => let (ok, q) := q.push v; (.pushed ok, q)
  | .pop => let (v, q) := q.pop; (.popped v, q)
  | .popBatch dst => let (n, dst, q) := q.popBatch dst; (.moved n dst, q)
  | .drain => let (n, q) := q.drain; (.drained n, q)
  | .len => (.length q.length, q)
  | .empty => (.empty q.isEmpty, q)
  | .cap => (.capacity q.capacity, q)

/-- The answers to calls made one after another, and the ring they leave. -/
def answerAll (q : Ring α) : List (Call α) → List (Reply α) × Ring α
  | [] => ([], q)
  | call :: calls =>
    let (r, q) := q.answer call
    let (rs, q) := q.answerAll calls
    (r :: rs, q)

/-- The bounded first-in first-out list of capacity `c`: a push appends when
there is room, a pop takes the oldest, a batch pop moves the oldest into the
front of `dst`. -/
def listAnswer (c : Nat) (xs : List α) : Call α → Reply α × List α
  | .push v => if xs.length < c then (.pushed true, xs ++ [v]) else (.pushed false, xs)
  | .pop =>
    match xs with
    | [] => (.popped none, [])
    | x :: rest => (.popped (some x), rest)
  | .popBatch dst =>
    let k := min dst.size xs.length
    (.moved k (xs.take k ++ dst.toList.drop k).toArray, xs.drop k)
  | .drain => (.drained xs.length, [])
  | .len => (.length xs.length, xs)
  | .empty => (.empty xs.isEmpty, xs)
  | .cap => (.capacity c, xs)

def listAnswerAll (c : Nat) (xs : List α) : List (Call α) → List (Reply α) × List α
  | [] => ([], xs)
  | call :: calls =>
    let (r, xs) := listAnswer c xs call
    let (rs, xs) := listAnswerAll c xs calls
    (r :: rs, xs)

/-- One call keeps the ring and the list in step: same answer, same capacity,
the ring holds the list's new contents, and the pushes still to come stay
clear of the wrap. -/
theorem answer_refines (holds : q.Holds xs) (call : Call α) (calls : List (Call α))
    (budget : q.Aligned (xs.length + pushes (call :: calls))) :
    (q.answer call).1 = (listAnswer q.capacity xs call).1 ∧
    (q.answer call).2.capacity = q.capacity ∧
    (q.answer call).2.Holds (listAnswer q.capacity xs call).2 ∧
    (q.answer call).2.Aligned ((listAnswer q.capacity xs call).2.length + pushes calls) := by
  cases call with
  | push v =>
    simp only [pushes] at budget
    by_cases room : xs.length < q.capacity
    · obtain ⟨ok, held⟩ := push_holds holds room (budget.mono (by omega)) v
      simp only [answer, listAnswer, if_pos room, ok]
      refine ⟨by trivial, push_capacity q v, held, budget.shift (push_capacity q v) (by simp [push_head]; omega)⟩
    · have full : xs.length = q.capacity := Nat.le_antisymm holds.bounded (Nat.le_of_not_lt room)
      simp only [answer, listAnswer, if_neg room, push_full holds full v]
      exact ⟨by trivial, by trivial, holds, budget.mono (by omega)⟩
  | pop =>
    simp only [pushes] at budget
    cases xs with
    | nil =>
      simp only [answer, listAnswer, pop_empty holds]
      exact ⟨by trivial, by trivial, holds, budget⟩
    | cons x xs =>
      obtain ⟨first, held⟩ := pop_holds holds
      have head' : q.pop.2.head.toNat ≤ q.head.toNat + 1 := by
        simp only [pop]
        split
        · exact Nat.le_succ _
        · simp only [UInt64.toNat_add, UInt64.toNat_one]
          exact Nat.mod_le _ _
      simp only [answer, listAnswer, first]
      refine ⟨by trivial, pop_capacity q, held, budget.shift (pop_capacity q) ?_⟩
      simp only [List.length_cons] at budget ⊢
      omega
  | popBatch dst =>
    simp only [pushes] at budget
    obtain ⟨count, moved, held⟩ := popBatch_holds holds dst
    simp only [answer, listAnswer, count]
    refine ⟨by rw [← moved, Array.toArray_toList], popBatch_capacity q dst, held,
      budget.shift (popBatch_capacity q dst) ?_⟩
    rw [popBatch_head, holds.count, toNat_add_offset, List.length_drop]
    have := Nat.mod_le (q.head.toNat + min dst.size xs.length) (2 ^ 64)
    omega
  | drain =>
    simp only [pushes] at budget
    obtain ⟨count, held⟩ := drain_holds holds
    obtain ⟨capacity', tail'⟩ := popAll_frame (q.capacity + 1) q
    simp only [answer, listAnswer, count]
    refine ⟨by trivial, capacity', held, budget.shift capacity' ?_⟩
    have same : q.drain.2.head = q.tail :=
      calc q.drain.2.head = q.drain.2.tail := by simpa using (tail_eq_add held.count).symm
        _ = q.tail := tail'
    rw [same, holds.tail_eq, toNat_add_offset, List.length_nil]
    have := Nat.mod_le (q.head.toNat + xs.length) (2 ^ 64)
    omega
  | len =>
    simp only [pushes] at budget
    simp only [answer, listAnswer, length_eq holds]
    exact ⟨by trivial, by trivial, holds, budget⟩
  | empty =>
    simp only [pushes] at budget
    simp only [answer, listAnswer, isEmpty_eq holds]
    exact ⟨by trivial, by trivial, holds, budget⟩
  | cap =>
    simp only [pushes] at budget
    exact ⟨by trivial, by trivial, holds, budget⟩

/-- A run of calls keeps the ring and the list in step. The induction is on the
calls; `answer_refines` carries the invariant across each. -/
theorem answerAll_refines (holds : q.Holds xs) (calls : List (Call α))
    (budget : q.Aligned (xs.length + pushes calls)) :
    (q.answerAll calls).1 = (listAnswerAll q.capacity xs calls).1 ∧
    (q.answerAll calls).2.toList = (listAnswerAll q.capacity xs calls).2 := by
  induction calls generalizing q xs with
  | nil => exact ⟨rfl, holds.toList_eq⟩
  | cons call calls ih =>
    obtain ⟨reply, capacity', held, budget'⟩ := answer_refines holds call calls budget
    obtain ⟨replies, final⟩ := ih held budget'
    rw [capacity'] at replies final
    simp only [answerAll, listAnswerAll]
    exact ⟨by rw [reply, replies], final⟩

theorem new_holds {c : Int} (positive : 1 ≤ c) (word : c < 2 ^ 63) :
    Holds (⟨Array.replicate c.toNat default, 0, 0⟩ : Ring α) [] where
  positive := by simp [capacity]; omega
  fits := by simp [capacity]; omega
  count := by simp
  bounded := Nat.zero_le _
  aligned := .inr (by simp)
  slots := fun _ inside => absurd inside (Nat.not_lt_zero _)

/-- A ring made with capacity `c` answers every run of calls as the bounded
list of capacity `c` that starts empty, and ends holding what the list holds,
so long as the capacity divides `2^64` or the run pushes at most `2^64` times. -/
theorem new_refines_bounded_list (c : Int) (positive : 1 ≤ c) (word : c < 2 ^ 63) (calls : List (Call α))
    (clear : c.toNat ∣ 2 ^ 64 ∨ pushes calls ≤ 2 ^ 64) :
    ∃ q : Ring α, Ring.new? c = .ok q ∧
      (q.answerAll calls).1 = (listAnswerAll c.toNat [] calls).1 ∧
      (q.answerAll calls).2.toList = (listAnswerAll c.toNat [] calls).2 := by
  refine ⟨⟨Array.replicate c.toNat default, 0, 0⟩, by rw [new?, if_neg (by omega)], ?_⟩
  have refines := answerAll_refines (new_holds positive word) calls (by
    rcases clear with divides | few
    · exact .inl (by simpa [capacity] using divides)
    · exact .inr (by simpa using few))
  simpa [capacity] using refines

theorem three_slots_refine_bounded_list :
    (1 : Int) ≤ 3 ∧ (3 : Int) < 2 ^ 63 ∧
      ((3 : Int).toNat ∣ 2 ^ 64 ∨ pushes [Call.push 1, .push 2, .push 3, .push 4, .pop, .popBatch #[7, 7], .drain] ≤ 2 ^ 64) ∧
      ∃ q : Ring Nat, Ring.new? 3 = .ok q ∧
        (q.answerAll [.push 1, .push 2, .push 3, .push 4, .pop, .popBatch #[7, 7], .drain]).1 =
          (listAnswerAll 3 [] [.push 1, .push 2, .push 3, .push 4, .pop, .popBatch #[7, 7], .drain]).1 ∧
        (q.answerAll [.push 1, .push 2, .push 3, .push 4, .pop, .popBatch #[7, 7], .drain]).2.toList =
          (listAnswerAll 3 [] [.push 1, .push 2, .push 3, .push 4, .pop, .popBatch #[7, 7], .drain]).2 :=
  ⟨by decide, by decide, .inr (by decide),
    new_refines_bounded_list 3 (by decide) (by decide) _ (.inr (by decide))⟩

/-! ### Past the wrap, a capacity of three loses an element -/

theorem answerAll_append (q : Ring α) (first later : List (Call α)) :
    q.answerAll (first ++ later) =
      ((q.answerAll first).1 ++ ((q.answerAll first).2.answerAll later).1,
        ((q.answerAll first).2.answerAll later).2) := by
  induction first generalizing q with
  | nil => rfl
  | cons call calls ih => simp [answerAll, ih]

omit [Inhabited α] in
theorem listAnswerAll_append (c : Nat) (xs : List α) (first later : List (Call α)) :
    listAnswerAll c xs (first ++ later) =
      ((listAnswerAll c xs first).1 ++ (listAnswerAll c (listAnswerAll c xs first).2 later).1,
        (listAnswerAll c (listAnswerAll c xs first).2 later).2) := by
  induction first generalizing xs with
  | nil => rfl
  | cons call calls ih => simp [listAnswerAll, ih]

def pushPopRounds (n : Nat) : List (Call Nat) := (List.replicate n [.push 0, .pop]).flatten

/-- An empty ring of three zero slots stays one after any number of rounds,
its counters moved on by the number of rounds. -/
theorem answerAll_pushPopRounds (n : Nat) (h : UInt64) :
    (⟨Array.replicate 3 0, h, h⟩ : Ring Nat).answerAll (pushPopRounds n) =
      ((List.replicate n [Reply.pushed true, .popped (some 0)]).flatten,
        ⟨Array.replicate 3 0, h + n.toUInt64, h + n.toUInt64⟩) := by
  induction n generalizing h with
  | zero => simp [pushPopRounds, answerAll]
  | succ n ih =>
    have round : (⟨Array.replicate 3 0, h, h⟩ : Ring Nat).answerAll [.push 0, .pop] =
        ([.pushed true, .popped (some 0)], ⟨Array.replicate 3 0, h + 1, h + 1⟩) := by
      have moves : (h == h + 1) = false := by simp
      simp [answerAll, answer, push, pop, capacity, moves, Array.getElem?_replicate]
      split <;> rfl
    have counters : h + 1 + n.toUInt64 = h + (n + 1).toUInt64 := by
      simp only [Nat.toUInt64_eq, UInt64.ofNat_add]; grind
    rw [pushPopRounds, List.replicate_succ, List.flatten_cons, answerAll_append, ← pushPopRounds,
      round, ih, counters]
    rfl

theorem listAnswerAll_pushPopRounds (n : Nat) :
    listAnswerAll 3 [] (pushPopRounds n) = ((List.replicate n [Reply.pushed true, .popped (some 0)]).flatten, []) := by
  induction n with
  | zero => rfl
  | succ n ih =>
    rw [pushPopRounds, List.replicate_succ, List.flatten_cons, listAnswerAll_append, ← pushPopRounds]
    simp [listAnswerAll, listAnswer, ih, List.replicate_succ]

/-- After `2^64 - 1` rounds on a ring of three, the counters `2^64 - 1` and
`2^64 ≡ 0` both fall on slot zero, so the second of two pushes overwrites the
first and the pop gives the newer element: the ring no longer behaves as the
bounded list. -/
theorem wrapped_ring_loses_oldest :
    ∃ q : Ring Nat, Ring.new? 3 = .ok q ∧
      (q.answerAll (pushPopRounds (2 ^ 64 - 1) ++ [.push 1, .push 2, .pop])).1 ≠
        (listAnswerAll 3 [] (pushPopRounds (2 ^ 64 - 1) ++ [.push 1, .push 2, .pop])).1 := by
  refine ⟨⟨Array.replicate 3 0, 0, 0⟩, rfl, ?_⟩
  rw [answerAll_append, listAnswerAll_append, answerAll_pushPopRounds, listAnswerAll_pushPopRounds]
  intro same
  have tails := List.append_cancel_left same
  have wrapped : (0 : UInt64) + (2 ^ 64 - 1 : Nat).toUInt64 = 18446744073709551615 := by decide
  rw [wrapped] at tails
  revert tails
  decide

end Acquisition.Ring
