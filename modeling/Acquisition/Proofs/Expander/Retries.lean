import Mathlib
import Acquisition.Expander
import Acquisition.Proofs.Effect
/-! Retrying a transaction on a busy bus, watched through `Retrying`: at most `limit` attempts, each
busy one followed by a release, stopping at the first that settles. -/
namespace Acquisition.Expander

open Acquisition.Op

variable {σ α : Type}

/-- What an observer of a retried transaction sees. -/
inductive RetryEvent (α : Type) where
  /-- An attempt of the transaction, with its outcome. -/
  | attempt (outcome : Except Fault α)
  /-- A release of the bus. -/
  | release

def foundBusy : Except Fault α → Bool
  | .error f => f.is .busBusy
  | .ok _ => false

/-- What an observer sees of attempts with these outcomes: each attempt,
followed by a release when it found the bus busy. -/
def trail (outcomes : List (Except Fault α)) : List (RetryEvent α) :=
  outcomes.flatMap fun o => .attempt o :: if foundBusy o then [.release] else []

@[simp] theorem trail_nil : trail ([] : List (Except Fault α)) = [] := rfl

@[simp] theorem trail_cons (o : Except Fault α) (outcomes : List (Except Fault α)) :
    trail (o :: outcomes) = (.attempt o :: if foundBusy o then [.release] else []) ++ trail outcomes := rfl

namespace Retrying

def lift {β : Type} (op : Op σ β) : Op (σ × List (RetryEvent α)) β :=
  Op.focus Prod.fst (fun p s => (s, p.2)) op

def attempt (op : Op σ α) : Op (σ × List (RetryEvent α)) α := do
  let r ← lift op.attempt
  modify fun p => (p.1, p.2 ++ [.attempt r])
  MonadExcept.ofExcept r

/-- The bus, its releases added to the record; a release is recorded before
it is made, so also when it fails. -/
def bus (b : I2cBus σ) : I2cBus (σ × List (RetryEvent α)) where
  write address bytes := lift (b.write address bytes)
  read address n := lift (b.read address n)
  release := do
    modify fun p => (p.1, p.2 ++ [.release])
    lift b.release

theorem run'_attempt (op : Op σ α) (s : σ) (log : List (RetryEvent α)) :
    (attempt op).run' (s, log) = ((op.run' s).1, (op.run' s).2, log ++ [.attempt (op.run' s).1]) := by
  simp only [attempt, lift, run'_bind, run'_focus, Op.run'_attempt, run'_modify, run'_ofExcept]

theorem run'_release (b : I2cBus σ) (s : σ) (log : List (RetryEvent α)) :
    (bus b).release.run' (s, log) = ((b.release.run' s).1, (b.release.run' s).2, log ++ [.release]) := by
  simp only [bus, lift, run'_bind, run'_modify, run'_focus]

end Retrying

/-- How a run of at most `n` attempts ends, with the outcomes of the attempts
made, oldest first, and the result: at the first attempt that succeeds or fails
for another reason than a busy bus, or after `n` busy attempts with the last
busy error behind the limit. -/
inductive Retried : Nat → List (Except Fault α) → Except Fault α → Prop
  | succeeded (n : Nat) (a : α) : Retried (n + 1) [.ok a] (.ok a)
  | failed (n : Nat) (f : Fault) (other : f.is .busBusy = false) : Retried (n + 1) [.error f] (.error f)
  | exhausted (f : Fault) (busy : f.is .busBusy = true) :
      Retried 1 [.error f] (.error (f.context "retry limit reached"))
  | again {n : Nat} {outcomes : List (Except Fault α)} {r : Except Fault α} (f : Fault)
      (busy : f.is .busBusy = true) (rest : Retried (n + 1) outcomes r) :
      Retried (n + 2) (.error f :: outcomes) r

/-- Retrying, watched: the record gains exactly the trail of the attempts
made, whose outcomes end as `Retried` says; the result and the bus's state are
those of the unwatched run. -/
theorem retry_observed (b : I2cBus σ) (op : Op σ α) (n : Nat) (s : σ) (log : List (RetryEvent α)) :
    ∃ outcomes, (retry (Retrying.bus b) (Retrying.attempt op) (n + 1)).run' (s, log) =
        (((retry b op (n + 1)).run' s).1, ((retry b op (n + 1)).run' s).2, log ++ trail outcomes) ∧
      Retried (n + 1) outcomes ((retry b op (n + 1)).run' s).1 := by
  induction n generalizing s log with
  | zero =>
    simp only [retry, run'_tryCatch, Retrying.run'_attempt]
    rcases op.run' s with ⟨f | a, s'⟩
    · by_cases busy : f.is .busBusy = true
      · -- the only attempt found the bus busy: one release, then the limit
        refine ⟨[.error f], ?_, ?_⟩
        · simp [busy, run'_bind, Retrying.run'_release, foundBusy]
        · simpa [busy, run'_bind] using Retried.exhausted f busy
      · refine ⟨[.error f], ?_, ?_⟩
        · simp [busy, foundBusy]
        · simpa [busy] using Retried.failed 0 f (by simpa using busy)
    · exact ⟨[.ok a], by simp [foundBusy], .succeeded 0 a⟩
  | succ n ih =>
    rw [retry, retry, run'_tryCatch, run'_tryCatch, Retrying.run'_attempt]
    rcases op.run' s with ⟨f | a, s'⟩
    · by_cases busy : f.is .busBusy = true
      · -- a busy attempt and its release, then the remaining attempts
        obtain ⟨rest, watched, ended⟩ := ih (b.release.run' s').2 (log ++ [.attempt (.error f), .release])
        refine ⟨.error f :: rest, ?_, ?_⟩
        · simp only [busy, Bool.not_true, Bool.false_eq_true, if_false, run'_bind, Op.run'_attempt,
            Retrying.run'_release, List.append_assoc, List.singleton_append]
          simpa [foundBusy, busy] using watched
        · simp only [busy, Bool.not_true, Bool.false_eq_true, if_false, run'_bind, Op.run'_attempt]
          exact .again f busy ended
      · refine ⟨[.error f], ?_, ?_⟩
        · simp [busy, foundBusy]
        · simpa [busy] using Retried.failed (n + 1) f (by simpa using busy)
    · exact ⟨[.ok a], by simp [foundBusy], .succeeded (n + 1) a⟩

namespace Retried

variable {n : Nat} {outcomes : List (Except Fault α)} {r : Except Fault α}

theorem length_pos (h : Retried n outcomes r) : 0 < outcomes.length := by
  cases h <;> simp

theorem length_le (h : Retried n outcomes r) : outcomes.length ≤ n := by
  induction h with
  | succeeded | failed | exhausted => simp
  | again f busy rest ih => simp only [List.length_cons]; omega

theorem busy_before_last (h : Retried n outcomes r) : ∀ o ∈ outcomes.dropLast, foundBusy o = true := by
  induction h with
  | succeeded | failed | exhausted => simp
  | @again n rest r f busy later ih =>
    obtain ⟨o, os, rfl⟩ := List.exists_cons_of_ne_nil (List.ne_nil_of_length_pos later.length_pos)
    intro o' mem
    rw [List.dropLast_cons_cons, List.mem_cons] at mem
    rcases mem with rfl | earlier
    · simpa [foundBusy] using busy
    · exact ih o' earlier

theorem ok_iff (h : Retried n outcomes r) (a : α) : r = .ok a ↔ .ok a ∈ outcomes := by
  induction h with
  | succeeded => simp [eq_comm]
  | failed | exhausted => simp
  | again f busy rest ih => simp [ih]

theorem other_failure (h : Retried n outcomes r) {f : Fault} (mem : .error f ∈ outcomes)
    (other : f.is .busBusy = false) : r = .error f := by
  induction h with
  | succeeded => simp at mem
  | failed =>
    rw [List.mem_singleton, Except.error.injEq] at mem
    rw [mem]
  | exhausted g busy =>
    rw [List.mem_singleton, Except.error.injEq] at mem
    subst mem
    simp [busy] at other
  | again g busy rest ih =>
    rcases List.mem_cons.1 mem with same | later
    · cases same
      simp [busy] at other
    · exact ih later

/-- A run whose attempts all found the bus busy made all `n` of them, and
returns the last busy error behind the limit. -/
theorem exhausted_of_busy (h : Retried n outcomes r) (busy : ∀ o ∈ outcomes, foundBusy o = true) :
    outcomes.length = n ∧ ∃ f, outcomes.getLast? = some (.error f) ∧ f.is .busBusy = true ∧
      r = .error (f.context "retry limit reached") := by
  induction h with
  | succeeded => simp [foundBusy] at busy
  | failed n f other => simp [foundBusy, other] at busy
  | exhausted f busy' => exact ⟨rfl, f, rfl, busy', rfl⟩
  | again f busy' rest ih =>
    obtain ⟨length, g, last, busy_g, result⟩ := ih fun o mem => busy o (List.mem_cons_of_mem _ mem)
    refine ⟨by simp [length], g, ?_, busy_g, result⟩
    rw [List.getLast?_cons, last]
    rfl

end Retried

def readAttempt (x : Expander) (b : I2cBus σ) (reg : UInt8) : Op σ UInt8 := do
  Op.withContext "could not set I/O registry address" (b.write x.address ⟨#[reg]⟩)
  pure ((← b.read x.address 1).toList.headD 0)

theorem readRegister_eq (x : Expander) (b : I2cBus σ) (reg : UInt8) :
    x.readRegister b reg = retry b (readAttempt x b reg) x.retryLimit := rfl

/-- A register read finds the bus busy when the address write does, or when
the address write goes through and the read does. -/
theorem readAttempt_busy (x : Expander) (b : I2cBus σ) (reg : UInt8) (s : σ) :
    foundBusy ((readAttempt x b reg).run' s).1 =
      match (b.write x.address ⟨#[reg]⟩).run' s with
      | (.error f, _) => f.is .busBusy
      | (.ok (), s') => foundBusy ((b.read x.address 1).run' s').1 := by
  simp only [readAttempt, run'_bind, run'_withContext]
  rcases (b.write x.address ⟨#[reg]⟩).run' s with ⟨f | ⟨⟩, s'⟩
  · simp [foundBusy]
  · simp only [run'_pure]
    rcases (b.read x.address 1).run' s' with ⟨f | bytes, s''⟩ <;> rfl

/-- The retry loop of an expander. The limit an expander is made with is at
least one, the requested one when that is positive. Over any bus, any
transaction and any state, watched, the transaction is attempted at most
`limit` times, each busy attempt followed by one release; every attempt but
the last found the bus busy; the call succeeds exactly when an attempt did,
returns a failure for another reason as it is, and after `limit` busy
attempts returns the last busy error behind "retry limit reached", still
recognised as a busy bus. A register read retries the address write and the
read together, and is busy when either transfer is. -/
theorem retry_stops_at_settled_attempt (address : UInt8) (requested : Int) :
    let x := Expander.new address requested
    0 < x.retryLimit ∧ (0 < requested → x.retryLimit = requested.toNat) ∧
    (∀ (b : I2cBus σ) (op : Op σ α) (s : σ),
      let run := (retry b op x.retryLimit).run' s
      ∃ outcomes, (retry (Retrying.bus b) (Retrying.attempt op) x.retryLimit).run' (s, []) =
          (run.1, run.2, trail outcomes) ∧
        0 < outcomes.length ∧ outcomes.length ≤ x.retryLimit ∧
        (∀ o ∈ outcomes.dropLast, foundBusy o = true) ∧
        (∀ a, run.1 = .ok a ↔ .ok a ∈ outcomes) ∧
        (∀ f, .error f ∈ outcomes → f.is .busBusy = false → run.1 = .error f) ∧
        ((∀ o ∈ outcomes, foundBusy o = true) → outcomes.length = x.retryLimit ∧
          ∃ f, outcomes.getLast? = some (.error f) ∧ f.is .busBusy = true ∧
            run.1 = .error (f.context "retry limit reached") ∧
            (f.context "retry limit reached").is .busBusy = true)) ∧
    (∀ (b : I2cBus σ) (reg : UInt8),
      x.readRegister b reg = retry b (readAttempt x b reg) x.retryLimit ∧
      ∀ s, foundBusy ((readAttempt x b reg).run' s).1 =
        match (b.write x.address ⟨#[reg]⟩).run' s with
        | (.error f, _) => f.is .busBusy
        | (.ok (), s') => foundBusy ((b.read x.address 1).run' s').1) := by
  intro x
  have positive : 0 < x.retryLimit := by
    show 0 < (if requested > 0 then requested.toNat else 1)
    split <;> omega
  refine ⟨positive, fun given => if_pos given, fun b op s => ?_, fun b reg =>
    ⟨readRegister_eq x b reg, readAttempt_busy x b reg⟩⟩
  obtain ⟨n, limit⟩ : ∃ n, x.retryLimit = n + 1 := ⟨x.retryLimit - 1, by omega⟩
  intro run
  obtain ⟨outcomes, watched, ended⟩ := retry_observed b op n s []
  rw [← limit] at watched ended
  refine ⟨outcomes, by simpa using watched, ended.length_pos, ended.length_le, ended.busy_before_last,
    ended.ok_iff, fun f mem other => ended.other_failure mem other, fun busy => ?_⟩
  obtain ⟨length, f, last, busy_f, result⟩ := ended.exhausted_of_busy busy
  exact ⟨length, f, last, busy_f, result, by simpa using busy_f⟩

end Acquisition.Expander
