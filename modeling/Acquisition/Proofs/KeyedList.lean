import Mathlib
/-! Lists of keyed entries kept as the program keeps an ordered map: a put replaces a key where it
stands or adds it last, and with distinct keys a lookup finds exactly the list's entries. -/
namespace Acquisition.KeyedList

variable {α β : Type} [BEq α] [LawfulBEq α] [DecidableEq α]

def put (l : List (α × β)) (k : α) (v : β) : List (α × β) :=
  if l.any (·.1 == k) then l.map (fun e => if e.1 == k then (e.1, v) else e) else l ++ [(k, v)]

theorem lookup_cons_ite (k j : α) (v : β) (rest : List (α × β)) :
    ((k, v) :: rest).lookup j = if j = k then some v else rest.lookup j := by
  by_cases asked : j = k
  · simp [asked]
  · simp [asked, List.lookup_cons, beq_eq_false_iff_ne.mpr asked]

omit [DecidableEq α] in
theorem any_key_iff (l : List (α × β)) (k : α) : l.any (·.1 == k) = true ↔ k ∈ l.map Prod.fst := by
  simp only [List.any_eq_true, beq_iff_eq, List.mem_map]

omit [DecidableEq α] in
theorem lookup_eq_none_of_absent {l : List (α × β)} {k : α} (absent : k ∉ l.map Prod.fst) :
    l.lookup k = none := by
  simp only [List.lookup_eq_none_iff, bne_iff_ne]
  intro e mem same
  exact absent (List.mem_map.mpr ⟨e, mem, same.symm⟩)

theorem lookup_replace (l : List (α × β)) (k j : α) (v : β) :
    (l.map fun e => if e.1 == k then (e.1, v) else e).lookup j =
      if j = k then (if l.any (·.1 == k) then some v else none) else l.lookup j := by
  induction l with
  | nil => simp
  | cons e rest ih =>
    obtain ⟨k', v'⟩ := e
    by_cases same : k' = k
    · subst same
      by_cases asked : j = k' <;> simp_all [lookup_cons_ite]
    · have differ : (k' == k) = false := beq_false_of_ne same
      by_cases asked : j = k
      · subst asked
        simp only [List.map_cons, differ, Bool.false_eq_true, if_false, lookup_cons_ite, Ne.symm same, ih,
          List.any_cons, Bool.false_or]
      · simp_all [lookup_cons_ite]

theorem keys_replace (l : List (α × β)) (k : α) (v : β) :
    (l.map fun e => if e.1 == k then (e.1, v) else e).map Prod.fst = l.map Prod.fst := by
  rw [List.map_map]
  apply List.map_congr_left
  rintro ⟨k', v'⟩ -
  by_cases same : k' = k <;> simp [same]

theorem lookup_put (l : List (α × β)) (k j : α) (v : β) :
    (put l k v).lookup j = if j = k then some v else l.lookup j := by
  unfold put
  split
  · next held =>
    rw [lookup_replace, held]
    rfl
  · next absent =>
    rw [List.lookup_append, lookup_cons_ite, List.lookup_nil]
    by_cases asked : j = k
    · subst asked
      rw [lookup_eq_none_of_absent (mt (any_key_iff _ _).mpr absent)]
      simp
    · simp [asked]

omit [DecidableEq α] in
theorem put_of_absent {l : List (α × β)} {k : α} (absent : k ∉ l.map Prod.fst) (v : β) :
    put l k v = l ++ [(k, v)] := by
  rw [put, if_neg (mt (any_key_iff l k).mp absent)]

theorem nodup_put {l : List (α × β)} (distinct : (l.map Prod.fst).Nodup) (k : α) (v : β) :
    ((put l k v).map Prod.fst).Nodup := by
  unfold put
  split
  · rwa [keys_replace]
  · next absent =>
    rw [List.map_append, List.map_singleton]
    exact distinct.append (List.nodup_singleton k) (by simpa [any_key_iff] using absent)

theorem lookup_eq_some_iff_mem {l : List (α × β)} (distinct : (l.map Prod.fst).Nodup) (k : α) (v : β) :
    l.lookup k = some v ↔ (k, v) ∈ l := by
  induction l with
  | nil => simp
  | cons e rest ih =>
    obtain ⟨k', v'⟩ := e
    rw [List.map_cons, List.nodup_cons] at distinct
    rw [lookup_cons_ite, List.mem_cons, ← ih distinct.2]
    by_cases same : k = k'
    · subst same
      simp [lookup_eq_none_of_absent distinct.1, eq_comm]
    · simp [same]

theorem lookup_perm {l l' : List (α × β)} (order : l'.Perm l) (distinct : (l.map Prod.fst).Nodup) (k : α) :
    l'.lookup k = l.lookup k := by
  have distinct' : (l'.map Prod.fst).Nodup := ((order.map Prod.fst).nodup_iff).2 distinct
  apply Option.ext
  intro v
  rw [lookup_eq_some_iff_mem distinct', lookup_eq_some_iff_mem distinct, order.mem_iff]

end Acquisition.KeyedList
