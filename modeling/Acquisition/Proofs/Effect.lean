import Acquisition.Effect
/-! Operations run step by step: equations that take a composed operation apart into the runs of its
parts. -/
namespace Acquisition.Op

variable {σ τ α β : Type}

theorem run'_bind (x : Op σ α) (f : α → Op σ β) (s : σ) :
    (x >>= f).run' s = match x.run' s with
      | (.ok a, s') => (f a).run' s'
      | (.error e, s') => (.error e, s') := by
  unfold run'
  rw [ExceptT.run_bind, StateT.run_bind]
  rcases StateT.run (ExceptT.run x) s with ⟨_ | a, s'⟩ <;> rfl

/-- A composed operation succeeds exactly when its first part succeeds and the
rest succeeds from where the first part left the state. -/
theorem run'_bind_ok {x : Op σ α} {f : α → Op σ β} {s s'' : σ} {b : β} :
    (x >>= f).run' s = (.ok b, s'') ↔ ∃ a s', x.run' s = (.ok a, s') ∧ (f a).run' s' = (.ok b, s'') := by
  rw [run'_bind]
  rcases x.run' s with ⟨e | a, s'⟩
  · simp
  · constructor
    · intro rest
      exact ⟨a, s', rfl, rest⟩
    · rintro ⟨a', s₁, first, rest⟩
      cases first
      exact rest

@[simp] theorem run'_pure (a : α) (s : σ) : (pure a : Op σ α).run' s = (.ok a, s) := rfl

@[simp] theorem run'_get (s : σ) : (get : Op σ σ).run' s = (.ok s, s) := rfl

@[simp] theorem run'_set (s s' : σ) : (set s' : Op σ PUnit).run' s = (.ok ⟨⟩, s') := rfl

@[simp] theorem run'_modify (f : σ → σ) (s : σ) : (modify f : Op σ PUnit).run' s = (.ok ⟨⟩, f s) := rfl

@[simp] theorem run'_throw (e : Fault) (s : σ) : (throw e : Op σ α).run' s = (.error e, s) := rfl

@[simp] theorem run'_map (f : α → β) (x : Op σ α) (s : σ) :
    (f <$> x).run' s = (f <$> (x.run' s).1, (x.run' s).2) := by
  rw [← bind_pure_comp, run'_bind]
  rcases x.run' s with ⟨_ | a, s'⟩ <;> rfl

/-- An attempt always succeeds, with the operation's result as its value and
the operation's effects kept. -/
@[simp] theorem run'_attempt (x : Op σ α) (s : σ) :
    x.attempt.run' s = (.ok (x.run' s).1, (x.run' s).2) := by
  unfold attempt run'
  simp only [tryCatch, tryCatchThe, MonadExceptOf.tryCatch, ExceptT.tryCatch, StateT.run_bind, ExceptT.map,
    ExceptT.mk, ExceptT.run]
  rcases StateT.run x s with ⟨_ | a, s'⟩ <;> rfl

@[simp] theorem run'_focus (get : τ → σ) (put : τ → σ → τ) (op : Op σ α) (t : τ) :
    (focus get put op).run' t = ((op.run' (get t)).1, put t (op.run' (get t)).2) := rfl

theorem run'_ite (p : Prop) [Decidable p] (x y : Op σ α) (s : σ) :
    (if p then x else y).run' s = if p then x.run' s else y.run' s := by
  split <;> rfl

@[simp] theorem run'_ofExcept (e : Except Fault α) (s : σ) : (MonadExcept.ofExcept e : Op σ α).run' s = (e, s) := by
  cases e <;> rfl

theorem run'_tryCatch (x : Op σ α) (handle : Fault → Op σ α) (s : σ) :
    (tryCatch x handle).run' s = match x.run' s with
      | (.ok a, s') => (.ok a, s')
      | (.error f, s') => (handle f).run' s' := by
  unfold run'
  simp only [tryCatch, tryCatchThe, MonadExceptOf.tryCatch, ExceptT.tryCatch, StateT.run_bind, ExceptT.mk,
    ExceptT.run]
  rcases StateT.run x s with ⟨_ | a, s'⟩ <;> rfl

theorem run'_withContext (ctx : String) (op : Op σ α) (s : σ) :
    (withContext ctx op).run' s = match op.run' s with
      | (.ok a, s') => (.ok a, s')
      | (.error f, s') => (.error (f.context ctx), s') := by
  unfold withContext run'
  simp only [tryCatch, tryCatchThe, MonadExceptOf.tryCatch, ExceptT.tryCatch, StateT.run_bind, ExceptT.mk,
    ExceptT.run]
  rcases StateT.run op s with ⟨_ | a, s'⟩ <;> rfl

/-- A loop whose every step yields runs its steps one after another, as long as
an invariant that each step keeps holds where it starts. -/
theorem run'_forIn_yield (xs : List α) (f : α → PUnit → Op σ (ForInStep PUnit))
    (g : σ → α → σ) (inv : σ → Prop)
    (steps : ∀ x ∈ xs, ∀ s, inv s → (f x PUnit.unit).run' s = (.ok (.yield PUnit.unit), g s x) ∧ inv (g s x))
    (s : σ) (holds : inv s) : (forIn xs PUnit.unit f).run' s = (.ok PUnit.unit, xs.foldl g s) := by
  induction xs generalizing s with
  | nil => rfl
  | cons x rest ih =>
    obtain ⟨ran, kept⟩ := steps x (.head _) s holds
    rw [List.forIn_cons, run'_bind, ran]
    exact ih (fun y member => steps y (.tail _ member)) (g s x) kept

/-- Steps that each give a result or fail without touching the state run, one
after another, as the same steps without a state. -/
theorem run'_mapM_stateless {f : α → Op σ β} (g : α → Except Fault β)
    (each : ∀ x s, (f x).run' s = (g x, s)) (xs : List α) (s : σ) :
    (xs.mapM f).run' s = (xs.mapM g, s) := by
  induction xs with
  | nil => rfl
  | cons x rest ih =>
    rw [List.mapM_cons, List.mapM_cons, run'_bind, each]
    cases g x with
    | error e => rfl
    | ok y =>
      simp only [run'_bind, ih]
      cases rest.mapM g <;> rfl

end Acquisition.Op

namespace Acquisition.Fault

/-! What an error is recognised by, through context, wrapping and joining. -/

@[simp] theorem is_context (ctx : String) (f : Fault) (c : Cause) : (f.context ctx).is c = f.is c := rfl

@[simp] theorem is_wrap (c' : Cause) (text : String) (f : Fault) (c : Cause) :
    (wrap c' text f).is c = (decide (c = c') || f.is c) := by
  simp [wrap, is]

@[simp] theorem is_of (c' : Cause) (message : String) (c : Cause) : (of c' message).is c = decide (c = c') := by
  simp [of, is]

@[simp] theorem is_join (parts : List Fault) (c : Cause) :
    (join parts).is c = decide (∃ p ∈ parts, p.is c = true) := by
  simp [join, is]

end Acquisition.Fault
