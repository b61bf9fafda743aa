import Acquisition.ShiftRegister.Arena
import Acquisition.Proofs.Effect
import Mathlib
/-! Pin claims in a shift-register arena over any sequence of calls: each register's claimed mask is
exactly the bits of the pins handed out and not yet released. -/
namespace Acquisition.ShiftRegister

/-! ### Bits of words -/

theorem testBit_toNat (x : UInt64) (i : Nat) : x.toNat.testBit i = x.toBitVec.getLsbD i := by
  rw [← UInt64.toNat_toBitVec, BitVec.testBit_toNat]

theorem testBit_or (x y : UInt64) (i : Nat) :
    (x ||| y).toNat.testBit i = (x.toNat.testBit i || y.toNat.testBit i) := by
  simp only [testBit_toNat, UInt64.toBitVec_or, BitVec.getLsbD_or]

theorem testBit_and_not (x y : UInt64) (i : Nat) :
    (x &&& ~~~y).toNat.testBit i = (x.toNat.testBit i && !y.toNat.testBit i) := by
  simp only [testBit_toNat, UInt64.toBitVec_and, UInt64.toBitVec_not, BitVec.getLsbD_and, BitVec.getLsbD_not]
  cases set : x.toBitVec.getLsbD i
  · rfl
  · simp [BitVec.lt_of_getLsbD set]

theorem testBit_and (x y : UInt64) (i : Nat) :
    (x &&& y).toNat.testBit i = (x.toNat.testBit i && y.toNat.testBit i) := by
  simp only [testBit_toNat, UInt64.toBitVec_and, BitVec.getLsbD_and]

theorem testBit_not_and (x y : UInt64) (i : Nat) :
    (~~~x &&& y).toNat.testBit i = (!x.toNat.testBit i && y.toNat.testBit i) := by
  simp only [testBit_toNat, UInt64.toBitVec_and, UInt64.toBitVec_not, BitVec.getLsbD_and, BitVec.getLsbD_not]
  cases set : y.toBitVec.getLsbD i
  · simp
  · simp [BitVec.lt_of_getLsbD set]

theorem testBit_single {b : Nat} (small : b < 64) (i : Nat) :
    ((1 : UInt64) <<< b.toUInt64).toNat.testBit i = decide (i = b) := by
  simp only [testBit_toNat, UInt64.toBitVec_shiftLeft]
  simp only [Nat.toUInt64_eq, UInt64.toBitVec_ofNat]
  by_cases same : i = b
  · subst same
    simp [small, Nat.mod_eq_of_lt small]
  · rcases Nat.lt_or_gt_of_ne same with below | above
    · simp [below, same, Nat.mod_eq_of_lt small]
    · simp [same, Nat.mod_eq_of_lt small]
      omega

theorem and_single_ne_zero (x : UInt64) {b : Nat} (small : b < 64) :
    (x &&& (1 <<< b.toUInt64) != 0) = x.toNat.testBit b := by
  have single : ((1 : UInt64) <<< b.toUInt64).toNat.testBit b = true := by
    rw [testBit_single small, decide_eq_true rfl]
  cases set : x.toNat.testBit b
  · have none : x &&& (1 <<< b.toUInt64) = 0 := by
      apply UInt64.toNat_inj.1
      apply Nat.eq_of_testBit_eq
      intro i
      rw [testBit_and, testBit_single small, UInt64.toNat_zero, Nat.zero_testBit]
      by_cases same : i = b
      · rw [same, set, Bool.false_and]
      · rw [decide_eq_false same, Bool.and_false]
    simp [none]
  · have some_bit : x &&& (1 <<< b.toUInt64) ≠ 0 := by
      intro none
      have bit := testBit_and x (1 <<< b.toUInt64) b
      rw [none, set, single, UInt64.toNat_zero, Nat.zero_testBit] at bit
      cases bit
    simp [some_bit]

theorem testBit_widthMask {width : Nat} (narrow : width ≤ 64) (i : Nat) :
    (widthMask width).toNat.testBit i = decide (i < width) := by
  unfold widthMask
  split
  · rename_i wide
    have full : (0xFFFFFFFFFFFFFFFF : UInt64).toNat = 2 ^ 64 - 1 := rfl
    rw [full, Nat.testBit_two_pow_sub_one, show width = 64 by omega]
  · rename_i narrower
    have power : ((1 : UInt64) <<< width.toUInt64).toNat = 2 ^ width := by
      rw [UInt64.toNat_shiftLeft, UInt64.toNat_one, Nat.one_shiftLeft, Nat.toUInt64_eq, UInt64.toNat_ofNat',
        Nat.mod_eq_of_lt (by omega : width < 2 ^ 64), Nat.mod_eq_of_lt (by omega : width < 64)]
      exact Nat.mod_eq_of_lt (Nat.pow_lt_pow_right (by norm_num) (by omega))
    have below : ((1 : UInt64) <<< width.toUInt64 - 1).toNat = 2 ^ width - 1 := by
      rw [UInt64.toNat_sub_of_le _ _ (UInt64.le_iff_toNat_le.2 (by rw [power]; exact Nat.one_le_two_pow)),
        power, UInt64.toNat_one]
    rw [below, Nat.testBit_two_pow_sub_one]

/-! ### The arena's operations -/

namespace Arena

def claimedBit (a : Arena) (id b : Nat) : Bool :=
  match a.registers[id]? with
  | some r => r.claimed.toNat.testBit b
  | none => false

def valueBit (a : Arena) (id b : Nat) : Bool :=
  match a.registers[id]? with
  | some r => r.value.toNat.testBit b
  | none => false

def layout (a : Arena) : List (Nat × UInt64) := a.registers.toList.map fun r => (r.width, r.claimed)

theorem layout_getElem? (a : Arena) (id : Nat) :
    a.layout[id]? = a.registers[id]?.map fun r => (r.width, r.claimed) := by
  simp [layout]

theorem claimedBit_of_layout {a a' : Arena} (same : a'.layout = a.layout) (id b : Nat) :
    a'.claimedBit id b = a.claimedBit id b := by
  have at_id := congrArg (·[id]?) same
  simp only [layout_getElem?] at at_id
  unfold claimedBit
  cases found : a.registers[id]? with
  | none => rw [found, Option.map_none, Option.map_eq_none_iff] at at_id; rw [at_id]
  | some r =>
    rw [found, Option.map_some, Option.map_eq_some_iff] at at_id
    obtain ⟨r', found', equal⟩ := at_id
    rw [found']
    exact congrArg (fun c : UInt64 => c.toNat.testBit b) (Prod.ext_iff.1 equal).2

theorem register?_of_found {a : Arena} {id : Int} {r : Register} (nonneg : 0 ≤ id)
    (found : a.registers[id.toNat]? = some r) : a.register? id = .ok r := by
  obtain ⟨inside, same⟩ := Array.getElem?_eq_some_iff.1 found
  rw [register?, dif_pos ⟨nonneg, inside⟩, same]

theorem register?_of_missing {a : Arena} {id : Int} (missing : id < 0 ∨ a.registers.size ≤ id.toNat) :
    a.register? id = .error (unknown id) := by
  rw [register?, dif_neg (by omega)]

theorem found_of_register? {a : Arena} {id : Int} {r : Register} (known : a.register? id = .ok r) :
    0 ≤ id ∧ a.registers[id.toNat]? = some r := by
  unfold register? at known
  split at known
  · rename_i inside
    cases known
    exact ⟨inside.1, Array.getElem?_eq_getElem inside.2⟩
  · cases known

theorem claim_of_missing {a : Arena} {id : Int} (missing : id < 0 ∨ a.registers.size ≤ id.toNat) (bit : Int) :
    a.claim id bit = .error (unknown id) := by
  simp only [claim, register?_of_missing missing]
  rfl

theorem claim_of_outside {a : Arena} {id : Int} {r : Register} (nonneg : 0 ≤ id)
    (found : a.registers[id.toNat]? = some r) {bit : Int} (outside : bit < 0 ∨ r.width ≤ bit) :
    a.claim id bit =
      .error (.of .bitOutOfRange ("bit out of range: bit " ++ toString bit ++ " of " ++ toString r.width)) := by
  have refused : (decide (bit < 0) || decide (bit ≥ r.width)) = true := by
    simp only [Bool.or_eq_true, decide_eq_true_eq]
    omega
  simp only [claim, register?_of_found nonneg found, bind, Except.bind, refused, if_true]
  rfl

theorem claim_of_taken {a : Arena} {id : Int} {r : Register} (nonneg : 0 ≤ id)
    (found : a.registers[id.toNat]? = some r) (narrow : r.width ≤ 64) {bit : Int} (inside : 0 ≤ bit ∧ bit < r.width)
    (taken : r.claimed.toNat.testBit bit.toNat = true) :
    a.claim id bit = .error (.of .pinInUse ("pin already in use: register " ++ toString id ++ " bit " ++ toString bit)) := by
  have accepted : (decide (bit < 0) || decide (bit ≥ r.width)) = false := by
    simp only [Bool.or_eq_false_iff, decide_eq_false_iff_not]
    omega
  have used : (r.claimed &&& 1 <<< bit.toNat.toUInt64 != 0) = true := by
    rw [and_single_ne_zero _ (by omega), taken]
  simp only [claim, register?_of_found nonneg found, bind, Except.bind, accepted, used, if_true]
  rfl

theorem claim_of_free {a : Arena} {id : Int} {r : Register} (nonneg : 0 ≤ id)
    (found : a.registers[id.toNat]? = some r) (narrow : r.width ≤ 64) {bit : Int} (inside : 0 ≤ bit ∧ bit < r.width)
    (free : r.claimed.toNat.testBit bit.toNat = false) :
    a.claim id bit = .ok ({ register := id.toNat, bit := bit.toNat },
      { registers := a.registers.set! id.toNat { r with claimed := r.claimed ||| 1 <<< bit.toNat.toUInt64 } }) := by
  have accepted : (decide (bit < 0) || decide (bit ≥ r.width)) = false := by
    simp only [Bool.or_eq_false_iff, decide_eq_false_iff_not]
    omega
  have unused : (r.claimed &&& 1 <<< bit.toNat.toUInt64 != 0) = false := by
    rw [and_single_ne_zero _ (by omega), free]
  simp only [claim, register?_of_found nonneg found, bind, Except.bind, accepted, unused]
  rfl

def widthOf (a : Arena) (id : Nat) : Option Nat := a.registers[id]?.map (·.width)

theorem widthOf_of_found {a : Arena} {id : Nat} {r : Register} (found : a.registers[id]? = some r) :
    a.widthOf id = some r.width := by
  rw [widthOf, found, Option.map_some]

theorem widthOf_of_layout {a a' : Arena} (same : a'.layout = a.layout) (id : Nat) : a'.widthOf id = a.widthOf id := by
  have at_id := congrArg (fun l => l[id]?.map Prod.fst) same
  simpa [layout_getElem?, widthOf, Option.map_map, Function.comp_def] using at_id

theorem size_of_layout {a a' : Arena} (same : a'.layout = a.layout) : a'.registers.size = a.registers.size := by
  simpa [layout] using congrArg List.length same

theorem claimedBit_set {a : Arena} {i : Nat} {r r' : Register} (found : a.registers[i]? = some r) (id b : Nat) :
    ({ registers := a.registers.set! i r' } : Arena).claimedBit id b =
      if id = i then r'.claimed.toNat.testBit b else a.claimedBit id b := by
  have inside := (Array.getElem?_eq_some_iff.1 found).1
  unfold claimedBit
  rw [Array.set!_eq_setIfInBounds, Array.getElem?_setIfInBounds]
  by_cases same : id = i
  · subst same
    simp [inside]
  · simp only [Ne.symm same, if_false, same]

theorem widthOf_set {a : Arena} {i : Nat} {r r' : Register} (found : a.registers[i]? = some r)
    (width : r'.width = r.width) (id : Nat) :
    ({ registers := a.registers.set! i r' } : Arena).widthOf id = a.widthOf id := by
  obtain ⟨inside, stored⟩ := Array.getElem?_eq_some_iff.1 found
  unfold widthOf
  rw [Array.set!_eq_setIfInBounds, Array.getElem?_setIfInBounds]
  by_cases same : id = i
  · subst same
    simp [stored, width, inside]
  · simp only [Ne.symm same, if_false]

theorem layout_set {a : Arena} {i : Nat} {r r' : Register} (found : a.registers[i]? = some r)
    (width : r'.width = r.width) (claimed : r'.claimed = r.claimed) :
    ({ registers := a.registers.set! i r' } : Arena).layout = a.layout := by
  apply List.ext_getElem?
  intro id
  obtain ⟨inside, stored⟩ := Array.getElem?_eq_some_iff.1 found
  rw [layout_getElem?, layout_getElem?, Array.set!_eq_setIfInBounds, Array.getElem?_setIfInBounds]
  by_cases same : id = i
  · subst same
    simp [stored, width, claimed, inside]
  · simp only [Ne.symm same, if_false]

theorem size_set (a : Arena) (i : Nat) (r' : Register) :
    ({ registers := a.registers.set! i r' } : Arena).registers.size = a.registers.size := by
  simp [Array.set!_eq_setIfInBounds]

theorem newRegister_of_valid {a : Arena} {width : Int} (valid : 1 ≤ width ∧ width ≤ 64) :
    a.newRegister width = .ok (a.registers.size, { registers := a.registers.push { width := width.toNat } }) := by
  have accepted : (decide (width < 1) || decide (width > (maxWidth : Int))) = false := by
    simp only [maxWidth, gt_iff_lt, Bool.or_eq_false_iff, decide_eq_false_iff_not]
    omega
  simp only [newRegister, accepted]
  rfl

theorem newRegister_ok {a a' : Arena} {width : Int} {id : Nat} (added : a.newRegister width = .ok (id, a')) :
    1 ≤ width ∧ width ≤ 64 ∧ id = a.registers.size ∧
      a' = { registers := a.registers.push { width := width.toNat } } := by
  unfold newRegister at added
  split at added
  · cases added
  · rename_i accepted
    simp only [Bool.or_eq_true, decide_eq_true_eq, maxWidth, not_or, not_lt, gt_iff_lt] at accepted
    cases added
    exact ⟨accepted.1, by omega, rfl, rfl⟩

theorem free_of_found {a : Arena} {id : Int} {r : Register} (nonneg : 0 ≤ id)
    (found : a.registers[id.toNat]? = some r) : a.free id = .ok (~~~r.claimed &&& widthMask r.width) := by
  simp only [free, register?_of_found nonneg found]
  rfl

theorem claimedBit_unclaim (a : Arena) {id bit : Nat} (small : bit < 64) (i b : Nat) :
    (a.unclaim id bit).claimedBit i b = (a.claimedBit i b && !(decide (i = id) && decide (b = bit))) := by
  unfold unclaim
  cases found : a.registers[id]? with
  | none =>
    have nothing : a.claimedBit id b = false := by rw [claimedBit, found]
    by_cases same : i = id
    · subst same
      simp [nothing]
    · simp [same]
  | some r =>
    rw [claimedBit_set found, testBit_and_not, testBit_single small]
    by_cases same : i = id
    · subst same
      simp [claimedBit, found]
    · simp [same]

theorem widthOf_unclaim (a : Arena) (id bit i : Nat) : (a.unclaim id bit).widthOf i = a.widthOf i := by
  unfold unclaim
  cases found : a.registers[id]? with
  | none => rfl
  | some r => exact widthOf_set found (by rfl) i

theorem size_unclaim (a : Arena) (id bit : Nat) : (a.unclaim id bit).registers.size = a.registers.size := by
  unfold unclaim
  cases a.registers[id]? with
  | none => rfl
  | some r => exact size_set a id _

theorem widthOf_push (a : Arena) (width : Nat) (id : Nat) :
    ({ registers := a.registers.push { width } } : Arena).widthOf id =
      if id = a.registers.size then some width else a.widthOf id := by
  unfold widthOf
  rw [Array.getElem?_push]
  split <;> rfl

theorem claimedBit_push (a : Arena) (width : Nat) (id b : Nat) :
    ({ registers := a.registers.push { width } } : Arena).claimedBit id b = a.claimedBit id b := by
  unfold claimedBit
  rw [Array.getElem?_push]
  by_cases last : id = a.registers.size
  · rw [if_pos last, Array.getElem?_eq_none (by omega)]
    simp
  · rw [if_neg last]

theorem widthOf_lt_size {a : Arena} {id w : Nat} (found : a.widthOf id = some w) : id < a.registers.size := by
  unfold widthOf at found
  rw [Option.map_eq_some_iff] at found
  obtain ⟨r, found, _⟩ := found
  exact (Array.getElem?_eq_some_iff.1 found).1

theorem claim_ok {a a' : Arena} {id bit : Int} {p : Pin}
    (narrow : ∀ i w, a.widthOf i = some w → w ≤ 64) (claimed : a.claim id bit = .ok (p, a')) :
    ∃ r, 0 ≤ id ∧ a.registers[id.toNat]? = some r ∧ 0 ≤ bit ∧ bit < r.width ∧
      r.claimed.toNat.testBit bit.toNat = false ∧ p = { register := id.toNat, bit := bit.toNat } ∧
      a' = { registers := a.registers.set! id.toNat { r with claimed := r.claimed ||| 1 <<< bit.toNat.toUInt64 } } := by
  by_cases missing : id < 0 ∨ a.registers.size ≤ id.toNat
  · rw [claim_of_missing missing] at claimed
    cases claimed
  have nonneg : 0 ≤ id := by omega
  obtain ⟨r, found⟩ : ∃ r, a.registers[id.toNat]? = some r :=
    ⟨_, Array.getElem?_eq_getElem (show id.toNat < a.registers.size by omega)⟩
  have width_le := narrow _ _ (widthOf_of_found found)
  by_cases outside : bit < 0 ∨ r.width ≤ bit
  · rw [claim_of_outside nonneg found outside] at claimed
    cases claimed
  have inside : 0 ≤ bit ∧ bit < r.width := by omega
  cases taken : r.claimed.toNat.testBit bit.toNat
  · rw [claim_of_free nonneg found width_le inside taken] at claimed
    cases claimed
    exact ⟨r, nonneg, found, inside.1, inside.2, taken, rfl, rfl⟩
  · rw [claim_of_taken nonneg found width_le inside taken] at claimed
    cases claimed

end Arena

namespace Wired

open Op

variable {σ : Type} (set : LineDriver σ)

/-- Writing drives the lines and, once the latch went through, stores the value;
the arena is left alone when a line fails. -/
theorem run'_write (id : Nat) (r : Register) (value : UInt64) (w : Wired σ) :
    (write set id r value).run' w =
      match (drive set id (transitions r.width value)).run' w.lines with
      | (.ok (), s) => (.ok (), { lines := s, arena.registers := w.arena.registers.set! id { r with value } })
      | (.error f, s) => (.error f, { w with lines := s }) := by
  simp only [write, run'_bind, onLines, run'_focus]
  rcases (drive set id (transitions r.width value)).run' w.lines with ⟨_ | ⟨⟩, s⟩ <;> rfl

theorem write_layout {id : Nat} {r : Register} (value : UInt64) {w : Wired σ}
    (found : w.arena.registers[id]? = some r) : ((write set id r value).run' w).2.arena.layout = w.arena.layout := by
  rw [run'_write]
  rcases (drive set id (transitions r.width value)).run' w.lines with ⟨_ | ⟨⟩, s⟩
  · rfl
  · exact Arena.layout_set found rfl rfl

theorem write_ok {id : Nat} {r : Register} {value : UInt64} {w w' : Wired σ}
    (wrote : (write set id r value).run' w = (.ok (), w')) :
    w'.arena = { registers := w.arena.registers.set! id { r with value } } := by
  rw [run'_write] at wrote
  rcases drove : (drive set id (transitions r.width value)).run' w.lines with ⟨_ | ⟨⟩, s⟩ <;>
    rw [drove] at wrote
  · cases wrote
  · cases wrote
    rfl

theorem run'_setValue (id : Int) (value : UInt64) (w : Wired σ) :
    (setValue set id value).run' w =
      match w.arena.register? id with
      | .ok r => (write set id.toNat r (value &&& widthMask r.width)).run' w
      | .error f => (.error f, w) := by
  simp only [setValue, run'_bind, run'_get, run'_ofExcept]
  cases w.arena.register? id <;> rfl

theorem setValue_layout (id : Int) (value : UInt64) (w : Wired σ) :
    ((setValue set id value).run' w).2.arena.layout = w.arena.layout := by
  rw [run'_setValue]
  cases known : w.arena.register? id with
  | error f => rfl
  | ok r => exact write_layout set _ (Arena.found_of_register? known).2

theorem setPin_released {p : Pin} (released : p.released = true) (level : Bool) (w : Wired σ) :
    (setPin set p level).run' w = (.error (.of .pinReleased "pin released"), w) := by
  simp only [setPin, released, if_true]
  rfl

theorem run'_setPin {p : Pin} (unreleased : p.released = false) (level : Bool) (w : Wired σ) :
    (setPin set p level).run' w =
      match w.arena.register? p.register with
      | .ok r => (write set p.register r
          (if level then r.value ||| 1 <<< p.bit.toUInt64 else r.value &&& ~~~(1 <<< p.bit.toUInt64))).run' w
      | .error f => (.error f, w) := by
  simp only [setPin, unreleased, Bool.false_eq_true, if_false, run'_bind, run'_get, run'_ofExcept]
  cases w.arena.register? p.register <;> rfl

theorem setPin_layout (p : Pin) (level : Bool) (w : Wired σ) :
    ((setPin set p level).run' w).2.arena.layout = w.arena.layout := by
  cases released : p.released
  · rw [run'_setPin set released]
    cases known : w.arena.register? p.register with
    | error f => rfl
    | ok r => exact write_layout set _ (by simpa using (Arena.found_of_register? known).2)
  · rw [setPin_released set released]

theorem setPin_valueBit {p : Pin} {level : Bool} {w w' : Wired σ} (small : p.bit < 64)
    (done : (setPin set p level).run' w = (.ok (), w')) (id b : Nat) :
    w'.arena.valueBit id b = if id = p.register ∧ b = p.bit then level else w.arena.valueBit id b := by
  cases released : p.released
  · rw [run'_setPin set released] at done
    cases known : w.arena.register? p.register with
    | error f => rw [known] at done; cases done
    | ok r =>
      rw [known] at done
      have found : w.arena.registers[p.register]? = some r := by simpa using (Arena.found_of_register? known).2
      have inside := (Array.getElem?_eq_some_iff.1 found).1
      rw [write_ok set done]
      unfold Arena.valueBit
      rw [Array.set!_eq_setIfInBounds, Array.getElem?_setIfInBounds]
      by_cases same : p.register = id
      · subst same
        simp only [if_true, inside, true_and, found]
        cases level
        · simp only [Bool.false_eq_true, if_false, testBit_and_not, testBit_single small]
          by_cases at_bit : b = p.bit <;> simp [at_bit]
        · simp only [if_true, testBit_or, testBit_single small]
          by_cases at_bit : b = p.bit <;> simp [at_bit]
      · simp [same, Ne.symm same]
  · rw [setPin_released set released] at done
    cases done

theorem release_released {p : Pin} (released : p.released = true) (w : Wired σ) : w.release p = (p, w) := by
  simp [release, released]

theorem release_unreleased {p : Pin} (unreleased : p.released = false) (w : Wired σ) :
    w.release p = ({ p with released := true }, { w with arena := w.arena.unclaim p.register p.bit }) := by
  simp [release, unreleased]

end Wired

/-! ### A program using an arena -/

/-- What a program holds while it uses an arena: the arena on its lines, the
ids of the registers it added, and the pins it was handed, in the order given. -/
structure Holder (σ : Type) where
  wired : Wired σ
  ids : List Nat := []
  pins : List Pin := []

/-- A call of a program on its arena; a pin is named by its place among those handed out. -/
inductive Call where
  | newRegister (width : Int)
  | pin (id bit : Int)
  | release (pin : Nat)
  | free (id : Int)
  | setValue (id : Int) (value : UInt64)
  | value (id : Int)
  | set (pin : Nat) (level : Bool)

def Pin.holds (p : Pin) (id b : Nat) : Bool := !p.released && p.register == id && p.bit == b

namespace Holder

variable {σ : Type} (set : LineDriver σ)

/-- What a call leaves behind: an added register's id and a claimed pin are
kept; a release replaces the pin by the released one; reading the free mask
or a value changes nothing. -/
def call (h : Holder σ) : Call → Holder σ
  | .newRegister width =>
    match h.wired.arena.newRegister width with
    | .ok (id, a) => { h with wired.arena := a, ids := h.ids ++ [id] }
    | .error _ => h
  | .pin id bit =>
    match h.wired.arena.claim id bit with
    | .ok (p, a) => { h with wired.arena := a, pins := h.pins ++ [p] }
    | .error _ => h
  | .release k =>
    match h.pins[k]? with
    | some p => { h with wired := (h.wired.release p).2, pins := h.pins.set k (h.wired.release p).1 }
    | none => h
  | .free _ | .value _ => h
  | .setValue id value => { h with wired := ((Wired.setValue set id value).run' h.wired).2 }
  | .set k level =>
    match h.pins[k]? with
    | some p => { h with wired := ((Wired.setPin set p level).run' h.wired).2 }
    | none => h

def run (h : Holder σ) (calls : List Call) : Holder σ := calls.foldl (call set) h

/-- What stays true of a program's arena: the ids it holds are those of the
registers, every width is from 1 to 64, claimed bits lie within the width, and
a bit is held by exactly one unreleased pin when it is claimed and by none
otherwise. -/
structure Sound (h : Holder σ) : Prop where
  ids : h.ids = List.range h.wired.arena.registers.size
  widths : ∀ id w, h.wired.arena.widthOf id = some w → 1 ≤ w ∧ w ≤ 64
  within : ∀ id b, h.wired.arena.claimedBit id b = true → ∃ w, h.wired.arena.widthOf id = some w ∧ b < w
  held : ∀ id b, h.pins.countP (·.holds id b) = if h.wired.arena.claimedBit id b then 1 else 0

variable {set} {h : Holder σ}

theorem Sound.holds_iff (sound : h.Sound) (id b : Nat) :
    (∃ p ∈ h.pins, p.holds id b = true) ↔ h.wired.arena.claimedBit id b = true := by
  rw [← List.countP_pos_iff, sound.held]
  split <;> simp_all

theorem Sound.unreleased (sound : h.Sound) {p : Pin} (mem : p ∈ h.pins) (unreleased : p.released = false) :
    h.wired.arena.claimedBit p.register p.bit = true ∧
      ∃ w, h.wired.arena.widthOf p.register = some w ∧ p.bit < w ∧ w ≤ 64 := by
  have claimed := (sound.holds_iff p.register p.bit).1 ⟨p, mem, by simp [Pin.holds, unreleased]⟩
  obtain ⟨w, width, below⟩ := sound.within _ _ claimed
  exact ⟨claimed, w, width, below, (sound.widths _ _ width).2⟩

theorem sound_init (lines : σ) : ({ wired := { lines } } : Holder σ).Sound where
  ids := rfl
  widths id w width := by simp [Arena.widthOf] at width
  within id b claimed := by simp [Arena.claimedBit] at claimed
  held id b := by simp [Arena.claimedBit]

theorem Sound.of_layout (sound : h.Sound) {h' : Holder σ} (ids : h'.ids = h.ids) (pins : h'.pins = h.pins)
    (layout : h'.wired.arena.layout = h.wired.arena.layout) : h'.Sound where
  ids := by rw [ids, sound.ids, Arena.size_of_layout layout]
  widths id w width := sound.widths id w (by rwa [Arena.widthOf_of_layout layout] at width)
  within id b claimed := by
    rw [Arena.claimedBit_of_layout layout] at claimed
    rw [Arena.widthOf_of_layout layout]
    exact sound.within id b claimed
  held id b := by rw [pins, Arena.claimedBit_of_layout layout, sound.held]

theorem Sound.newRegister (sound : h.Sound) {width : Int} {id : Nat} {a : Arena}
    (added : h.wired.arena.newRegister width = .ok (id, a)) :
    ({ h with wired.arena := a, ids := h.ids ++ [id] } : Holder σ).Sound := by
  obtain ⟨least, most, fresh, rfl⟩ := Arena.newRegister_ok added
  refine ⟨?_, ?_, ?_, ?_⟩
  · simp only [Array.size_push, List.range_succ, sound.ids, fresh]
  · intro i w width
    rw [Arena.widthOf_push] at width
    split at width
    · cases width
      omega
    · exact sound.widths i w width
  · intro i b claimed
    rw [Arena.claimedBit_push] at claimed
    obtain ⟨w, width, below⟩ := sound.within i b claimed
    have old := Arena.widthOf_lt_size width
    refine ⟨w, ?_, below⟩
    rw [Arena.widthOf_push, if_neg (by omega), width]
  · intro i b
    simp only [Arena.claimedBit_push]
    exact sound.held i b

theorem Sound.claim (sound : h.Sound) {id bit : Int} {p : Pin} {a : Arena}
    (claimed : h.wired.arena.claim id bit = .ok (p, a)) :
    ({ h with wired.arena := a, pins := h.pins ++ [p] } : Holder σ).Sound := by
  obtain ⟨r, nonneg, found, bit_nonneg, below, free, rfl, rfl⟩ :=
    Arena.claim_ok (fun i w width => (sound.widths i w width).2) claimed
  have narrow : r.width ≤ 64 := (sound.widths _ _ (Arena.widthOf_of_found found)).2
  -- the claimed bits are the old ones and the new pin's
  have bits : ∀ i c, (Arena.mk (h.wired.arena.registers.set! id.toNat
      { r with claimed := r.claimed ||| 1 <<< bit.toNat.toUInt64 })).claimedBit i c =
      (h.wired.arena.claimedBit i c || (decide (i = id.toNat) && decide (c = bit.toNat))) := by
    intro i c
    rw [Arena.claimedBit_set found, testBit_or, testBit_single (by omega)]
    by_cases same : i = id.toNat
    · subst same
      simp [Arena.claimedBit, found]
    · simp [same]
  refine ⟨?_, ?_, ?_, ?_⟩
  · rw [Arena.size_set]
    exact sound.ids
  · intro i w width
    dsimp only at width
    rw [Arena.widthOf_set found (by rfl)] at width
    exact sound.widths i w width
  · intro i c set_bit
    dsimp only at set_bit ⊢
    rw [Arena.widthOf_set found (by rfl)]
    rw [bits] at set_bit
    by_cases old : h.wired.arena.claimedBit i c = true
    · exact sound.within i c old
    · simp only [old, Bool.false_or, Bool.and_eq_true, decide_eq_true_eq] at set_bit
      obtain ⟨rfl, rfl⟩ := set_bit
      exact ⟨r.width, Arena.widthOf_of_found found, by omega⟩
  · intro i c
    dsimp only
    rw [List.countP_append, sound.held, bits]
    by_cases same : i = id.toNat ∧ c = bit.toNat
    · obtain ⟨rfl, rfl⟩ := same
      have unclaimed : h.wired.arena.claimedBit id.toNat bit.toNat = false := by
        simp [Arena.claimedBit, found, free]
      simp [unclaimed, Pin.holds]
    · have other : (decide (i = id.toNat) && decide (c = bit.toNat)) = false := by
        simpa using fun first => fun second => same ⟨first, second⟩
      have not_held : Pin.holds { register := id.toNat, bit := bit.toNat } i c = false := by
        simp only [Pin.holds, Bool.not_false, Bool.true_and, Bool.and_eq_false_iff, beq_eq_false_iff_ne]
        omega
      simp [other, not_held]

theorem Sound.release (sound : h.Sound) {k : Nat} {p : Pin} (found : h.pins[k]? = some p) :
    ({ h with wired := (h.wired.release p).2, pins := h.pins.set k (h.wired.release p).1 } : Holder σ).Sound := by
  obtain ⟨inside, stored⟩ := List.getElem?_eq_some_iff.1 found
  cases released : p.released
  · obtain ⟨claimed, w, width, below, narrow⟩ := sound.unreleased (stored ▸ List.getElem_mem inside) released
    rw [Wired.release_unreleased released]
    refine ⟨?_, ?_, ?_, ?_⟩
    · rw [Arena.size_unclaim]
      exact sound.ids
    · intro i w' width'
      rw [Arena.widthOf_unclaim] at width'
      exact sound.widths i w' width'
    · intro i c set_bit
      rw [Arena.claimedBit_unclaim _ (by omega), Bool.and_eq_true] at set_bit
      rw [Arena.widthOf_unclaim]
      exact sound.within i c set_bit.1
    · intro i c
      dsimp only
      rw [List.countP_set inside, sound.held, Arena.claimedBit_unclaim _ (by omega), stored]
      have gone : ({ p with released := true } : Pin).holds i c = false := by simp [Pin.holds]
      rw [gone]
      by_cases same : i = p.register ∧ c = p.bit
      · obtain ⟨rfl, rfl⟩ := same
        have here : p.holds p.register p.bit = true := by simp [Pin.holds, released]
        simp [claimed, here]
      · have not_held : p.holds i c = false := by
          simp only [Pin.holds, released, Bool.not_false, Bool.true_and, Bool.and_eq_false_iff,
            beq_eq_false_iff_ne]
          omega
        have other : (decide (i = p.register) && decide (c = p.bit)) = false := by
          simpa using fun first => fun second => same ⟨first, second⟩
        simp [not_held, other]
  · rw [Wired.release_released released, ← stored, List.set_getElem_self]
    exact sound

theorem Sound.call (sound : h.Sound) (c : Call) : (h.call set c).Sound := by
  cases c with
  | newRegister width =>
    simp only [Holder.call]
    split
    · rename_i added
      exact sound.newRegister added
    · exact sound
  | pin id bit =>
    simp only [Holder.call]
    split
    · rename_i claimed
      exact sound.claim claimed
    · exact sound
  | release k =>
    simp only [Holder.call]
    split
    · rename_i found
      exact sound.release found
    · exact sound
  | free id => exact sound
  | value id => exact sound
  | setValue id value => exact sound.of_layout rfl rfl (Wired.setValue_layout set id value h.wired)
  | set k level =>
    simp only [Holder.call]
    split
    · rename_i p _
      exact sound.of_layout rfl rfl (Wired.setPin_layout set p level h.wired)
    · exact sound

theorem Sound.run (sound : h.Sound) (calls : List Call) : (h.run set calls).Sound := by
  induction calls generalizing h with
  | nil => exact sound
  | cons c cs ih => exact ih (sound.call c)

/-! ### What a program sees -/

theorem found_of_widthOf {a : Arena} {id w : Nat} (width : a.widthOf id = some w) :
    ∃ r, a.registers[id]? = some r ∧ r.width = w := by
  unfold Arena.widthOf at width
  exact Option.map_eq_some_iff.1 width

theorem Sound.claim_inUse_iff (sound : h.Sound) (id bit : Int) :
    (∃ f, h.wired.arena.claim id bit = .error f ∧ f.is .pinInUse = true) ↔
      ∃ p ∈ h.pins, p.released = false ∧ (p.register : Int) = id ∧ (p.bit : Int) = bit := by
  constructor
  · rintro ⟨f, refused, inUse⟩
    -- of the four outcomes of a claim, only a claimed bit within the width is refused as in use
    by_cases missing : id < 0 ∨ h.wired.arena.registers.size ≤ id.toNat
    · rw [Arena.claim_of_missing missing] at refused
      cases refused
      simp [Arena.unknown, Fault.is, Fault.of] at inUse
    obtain ⟨r, found⟩ : ∃ r, h.wired.arena.registers[id.toNat]? = some r :=
      ⟨_, Array.getElem?_eq_getElem (show id.toNat < h.wired.arena.registers.size by omega)⟩
    have narrow := (sound.widths _ _ (Arena.widthOf_of_found found)).2
    by_cases outside : bit < 0 ∨ r.width ≤ bit
    · rw [Arena.claim_of_outside (by omega) found outside] at refused
      cases refused
      simp [Fault.is, Fault.of] at inUse
    cases taken : r.claimed.toNat.testBit bit.toNat
    · rw [Arena.claim_of_free (by omega) found narrow (by omega) taken] at refused
      cases refused
    · have claimed : h.wired.arena.claimedBit id.toNat bit.toNat = true := by
        simp [Arena.claimedBit, found, taken]
      obtain ⟨p, mem, holds⟩ := (sound.holds_iff _ _).2 claimed
      simp only [Pin.holds, Bool.and_eq_true, Bool.not_eq_true', beq_iff_eq] at holds
      exact ⟨p, mem, holds.1.1, by omega, by omega⟩
  · rintro ⟨p, mem, unreleased, rfl, rfl⟩
    obtain ⟨claimed, w, width, below, narrow⟩ := sound.unreleased mem unreleased
    obtain ⟨r, found, rfl⟩ := found_of_widthOf width
    have taken : r.claimed.toNat.testBit p.bit = true := by simpa [Arena.claimedBit, found] using claimed
    refine ⟨_, Arena.claim_of_taken (by omega) (by simpa using found) narrow (by omega) (by simpa using taken), ?_⟩
    simp [Fault.is, Fault.of]

theorem Sound.free_iff (sound : h.Sound) {id : Nat} {r : Register} (found : h.wired.arena.registers[id]? = some r) :
    ∃ w, h.wired.arena.free id = .ok w ∧
      ∀ b, w.toNat.testBit b = true ↔ b < r.width ∧ ¬∃ p ∈ h.pins, p.holds id b = true := by
  have narrow := (sound.widths _ _ (Arena.widthOf_of_found found)).2
  refine ⟨_, Arena.free_of_found (by omega) (by simpa using found), fun b => ?_⟩
  rw [testBit_not_and, testBit_widthMask narrow, sound.holds_iff]
  simp only [Arena.claimedBit, found, Bool.and_eq_true, Bool.not_eq_true', decide_eq_true_eq]
  constructor
  · rintro ⟨unclaimed, inside⟩
    exact ⟨inside, by simp [unclaimed]⟩
  · rintro ⟨inside, unclaimed⟩
    exact ⟨by simpa using unclaimed, inside⟩

theorem call_release_released {k : Nat} {p : Pin} (found : h.pins[k]? = some p) (released : p.released = true) :
    h.call set (.release k) = h := by
  obtain ⟨_, stored⟩ := List.getElem?_eq_some_iff.1 found
  simp only [Holder.call, found, Wired.release_released released]
  rw [← stored, List.set_getElem_self]

/-- Setting a pin that goes through changes no width or claim, and of the
values only the pin's own bit, which takes the level. -/
theorem Sound.setPin_ok (sound : h.Sound) {k : Nat} {p : Pin} {level : Bool} {w : Wired σ}
    (found : h.pins[k]? = some p) (done : (Wired.setPin set p level).run' h.wired = (.ok (), w)) :
    w.arena.layout = h.wired.arena.layout ∧
      ∀ id b, w.arena.valueBit id b = if id = p.register ∧ b = p.bit then level else h.wired.arena.valueBit id b := by
  have kept := Wired.setPin_layout set p level h.wired
  rw [done] at kept
  cases released : p.released
  · obtain ⟨_, _, _, below, narrow⟩ := sound.unreleased (List.mem_of_getElem? found) released
    exact ⟨kept, Wired.setPin_valueBit set (by omega) done⟩
  · rw [Wired.setPin_released set released] at done
    cases done

theorem Sound.claim_unknown (sound : h.Sound) {id : Int} (fresh : ∀ i ∈ h.ids, (i : Int) ≠ id) (bit : Int) :
    (∃ f, h.wired.arena.claim id bit = .error f ∧ f.is .unknownRegister = true) ∧ h.call set (.pin id bit) = h := by
  have missing : id < 0 ∨ h.wired.arena.registers.size ≤ id.toNat := by
    by_contra added
    apply fresh id.toNat (by rw [sound.ids, List.mem_range]; omega)
    omega
  have refused := Arena.claim_of_missing missing bit
  refine ⟨⟨_, refused, by simp [Arena.unknown, Fault.is, Fault.of]⟩, ?_⟩
  simp only [Holder.call, refused]

theorem claim_outside_unchanged {id : Nat} {r : Register} (found : h.wired.arena.registers[id]? = some r)
    {bit : Int} (outside : bit < 0 ∨ r.width ≤ bit) :
    (∃ f, h.wired.arena.claim id bit = .error f ∧ f.is .bitOutOfRange = true) ∧ h.call set (.pin id bit) = h := by
  have refused := Arena.claim_of_outside (Int.natCast_nonneg id) (by simpa using found) outside
  refine ⟨⟨_, refused, by simp [Fault.is, Fault.of]⟩, ?_⟩
  simp only [Holder.call, refused]

end Holder

/-- Any sequence of calls on a fresh arena: the ids handed out are those of the
registers; each register's claimed bits are exactly the bits held by pins
handed out and not released; a claim is refused as in use exactly when such a
pin holds the bit; the free mask is the register's bits no such pin holds; a
second release changes nothing; setting a released pin is refused and changes
nothing; setting a pin changes no claim and of the values only its own bit; and
a claim on a register never added or past the width is refused and changes
nothing. -/
theorem pins_account_for_claimed_bits {σ : Type} (set : LineDriver σ) (lines : σ) (calls : List Call) :
    let h := Holder.run set { wired := { lines } } calls
    h.ids = List.range h.wired.arena.registers.size ∧
    (∀ id b, h.wired.arena.claimedBit id b = true ↔ ∃ p ∈ h.pins, p.holds id b = true) ∧
    (∀ id bit : Int, (∃ f, h.wired.arena.claim id bit = .error f ∧ f.is .pinInUse = true) ↔
      ∃ p ∈ h.pins, p.released = false ∧ (p.register : Int) = id ∧ (p.bit : Int) = bit) ∧
    (∀ (id : Nat) (r : Register), h.wired.arena.registers[id]? = some r → ∃ w, h.wired.arena.free id = .ok w ∧
      ∀ b, w.toNat.testBit b = true ↔ b < r.width ∧ ¬∃ p ∈ h.pins, p.holds id b = true) ∧
    (∀ (k : Nat) (p : Pin), h.pins[k]? = some p → p.released = true → h.call set (.release k) = h) ∧
    (∀ (k : Nat) (p : Pin) (level : Bool), h.pins[k]? = some p → p.released = true →
      ∃ f, (Wired.setPin set p level).run' h.wired = (.error f, h.wired) ∧ f.is .pinReleased = true) ∧
    (∀ (k : Nat) (p : Pin) (level : Bool) (w : Wired σ), h.pins[k]? = some p →
      (Wired.setPin set p level).run' h.wired = (.ok (), w) →
      w.arena.layout = h.wired.arena.layout ∧
      ∀ id b, w.arena.valueBit id b = if id = p.register ∧ b = p.bit then level else h.wired.arena.valueBit id b) ∧
    (∀ id bit : Int, (∀ i ∈ h.ids, (i : Int) ≠ id) →
      (∃ f, h.wired.arena.claim id bit = .error f ∧ f.is .unknownRegister = true) ∧ h.call set (.pin id bit) = h) ∧
    (∀ (id : Nat) (r : Register), h.wired.arena.registers[id]? = some r → ∀ bit : Int, bit < 0 ∨ r.width ≤ bit →
      (∃ f, h.wired.arena.claim id bit = .error f ∧ f.is .bitOutOfRange = true) ∧
        h.call set (.pin id bit) = h) := by
  intro h
  have sound : h.Sound := (Holder.sound_init lines).run calls
  refine ⟨sound.ids, fun id b => (sound.holds_iff id b).symm, sound.claim_inUse_iff,
    fun id r found => sound.free_iff found, fun k p found released => Holder.call_release_released found released, ?_,
    fun k p level w found done => sound.setPin_ok found done, fun id bit fresh => sound.claim_unknown fresh bit,
    fun id r found bit outside => Holder.claim_outside_unchanged found outside⟩
  intro k p level found released
  exact ⟨_, Wired.setPin_released set released level h.wired, by simp [Fault.is, Fault.of]⟩

end Acquisition.ShiftRegister
