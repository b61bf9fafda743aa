import Acquisition.Proofs.ShiftRegister.Pins
/-! Writing a shift register line change by line change, observed through `Logged`: a write drives a
prefix of the serial protocol and stores the value exactly when every change went through. -/
namespace Acquisition.ShiftRegister

/-- The line changes that shift the bits `bit` into a register of `width`
bits: for each bit from the most significant down, the data line takes it and
the clock line goes high and low; then the strobe line goes high and low. -/
def protocol (width : Nat) (bit : Nat → Bool) : List (Line × Bool) :=
  ((List.range width).reverse.flatMap fun i => [(.data, bit i), (.clock, true), (.clock, false)]) ++
    [(.strobe, true), (.strobe, false)]

theorem length_protocol (width : Nat) (bit : Nat → Bool) : (protocol width bit).length = 3 * width + 2 := by
  simp [protocol, List.length_flatMap, Nat.mul_comm]

/-- A change asked of a line of register `register`, and whether it went through. -/
structure Change where
  register : Nat
  line : Line
  level : Bool
  done : Bool
  deriving DecidableEq, Repr

def Change.request (c : Change) : Nat × Line × Bool := (c.register, c.line, c.level)

/-- Lines together with the record of the changes asked of them, oldest first. -/
structure Logged (σ : Type) where
  lines : σ
  changes : List Change := []

variable {σ : Type}

def logged (set : LineDriver σ) : LineDriver (Logged σ) := fun id line level => do
  let r ← Op.focus (·.lines) (fun l s => { l with lines := s }) (set id line level).attempt
  modify fun l => { l with changes := l.changes ++ [⟨id, line, level, r matches .ok _⟩] }
  MonadExcept.ofExcept r

open Op

theorem run'_logged (set : LineDriver σ) (id : Nat) (line : Line) (level : Bool) (l : Logged σ) :
    (logged set id line level).run' l =
      (((set id line level).run' l.lines).1,
        { lines := ((set id line level).run' l.lines).2,
          changes := l.changes ++ [⟨id, line, level, ((set id line level).run' l.lines).1 matches .ok _⟩] }) := by
  simp only [logged, run'_bind, run'_focus, run'_attempt, run'_modify, run'_ofExcept]

/-- Driving transitions through logged lines records a prefix of them, all on
register `id`; every change recorded but the last went through, the run goes on
to the end while changes go through, and it succeeds exactly when all did. -/
theorem drive_logged (set : LineDriver σ) (id : Nat) (ts : List Transition) (l : Logged σ) :
    ∃ new, ((Wired.drive (logged set) id ts).run' l).2.changes = l.changes ++ new ∧
      new.map Change.request <+: ts.map (fun t => (id, t.line, t.level)) ∧
      (∀ c ∈ new.dropLast, c.done = true) ∧
      ((∀ c ∈ new, c.done = true) → new.length = ts.length) ∧
      (((Wired.drive (logged set) id ts).run' l).1 = .ok () ↔ ∀ c ∈ new, c.done = true) := by
  induction ts generalizing l with
  | nil => exact ⟨[], by simp [Wired.drive]⟩
  | cons t rest ih =>
    simp only [Wired.drive, run'_bind, run'_withContext, run'_logged]
    rcases setting : (set id t.line t.level).run' l.lines with ⟨f | ⟨⟩, s⟩
    · -- the change fails: it is the last one recorded, and the write fails
      refine ⟨[⟨id, t.line, t.level, false⟩], rfl, ?_, by simp, by simp, by simp⟩
      exact List.prefix_iff_eq_take.2 (by simp [Change.request])
    · -- the change goes through and the rest is driven from there
      obtain ⟨new, recorded, asked, through, whole, succeeded⟩ :=
        ih { lines := s, changes := l.changes ++ [⟨id, t.line, t.level, true⟩] }
      refine ⟨⟨id, t.line, t.level, true⟩ :: new, by simpa using recorded, ?_, ?_, ?_, ?_⟩
      · simpa [Change.request] using asked
      · intro c mem
        cases new with
        | nil => simp at mem
        | cons c' new' =>
          rw [List.dropLast_cons_cons, List.mem_cons] at mem
          rcases mem with rfl | later
          · rfl
          · exact through c later
      · intro all
        simpa using whole fun c mem => all c (List.mem_cons_of_mem _ mem)
      · simpa using succeeded

/-- What a write of the bits `bit` into register `id` of `width` bits did, as
the changes `new` it recorded show, with `ok` telling whether it succeeded: it
asked for a prefix of the protocol, all on the register's own lines; every
change but the last went through; it stopped early only after a change that
failed; and it succeeded exactly when every change went through. -/
structure Serial (id width : Nat) (bit : Nat → Bool) (new : List Change) (ok : Bool) : Prop where
  asked : new.map Change.request <+: (protocol width bit).map fun c => (id, c.1, c.2)
  through : ∀ c ∈ new.dropLast, c.done = true
  whole : (∀ c ∈ new, c.done = true) → new.length = 3 * width + 2
  succeeded : ok = true ↔ ∀ c ∈ new, c.done = true

theorem protocol_congr {width : Nat} {bit bit' : Nat → Bool} (same : ∀ i < width, bit i = bit' i) :
    protocol width bit = protocol width bit' := by
  unfold protocol
  congr 1
  apply List.flatMap_congr
  intro i mem
  rw [same i (List.mem_range.1 (List.mem_reverse.1 mem))]

theorem Serial.of_agree {id width : Nat} {bit bit' : Nat → Bool} {new : List Change} {ok : Bool}
    (serial : Serial id width bit new ok) (same : ∀ i < width, bit i = bit' i) : Serial id width bit' new ok :=
  ⟨protocol_congr same ▸ serial.asked, serial.through, serial.whole, serial.succeeded⟩

/-! ### Bits of the value written -/

theorem beq_one_eq (x : UInt64) : (x == 1) = decide (x.toNat = 1) := by
  rw [Bool.eq_iff_iff, beq_iff_eq, decide_eq_true_iff, ← UInt64.toNat_inj, UInt64.toNat_one]

theorem shiftRight_and_one (value : UInt64) {i : Nat} (small : i < 64) :
    (value >>> i.toUInt64 &&& 1 == 1) = value.toNat.testBit i := by
  have shifted : (value >>> i.toUInt64 &&& 1).toNat = value.toNat / 2 ^ i % 2 := by
    rw [UInt64.toNat_and, UInt64.toNat_shiftRight, UInt64.toNat_one, Nat.and_one_is_mod, Nat.shiftRight_eq_div_pow]
    simp [Nat.mod_eq_of_lt small]
  rw [Nat.testBit_eq_decide_div_mod_eq, ← shifted, beq_one_eq]

/-- Cutting a word to a register's width keeps its bits below the width, also
at the full width of 64 bits. -/
theorem toNat_and_widthMask (value : UInt64) {width : Nat} (narrow : width ≤ 64) :
    (value &&& widthMask width).toNat = value.toNat % 2 ^ width := by
  apply Nat.eq_of_testBit_eq
  intro i
  rw [testBit_and, testBit_widthMask narrow, Nat.testBit_mod_two_pow, Bool.and_comm]

theorem transitions_follow_protocol (width : Nat) (value : UInt64) (narrow : width ≤ 64) :
    (transitions width value).map (fun t => (t.line, t.level)) = protocol width value.toNat.testBit := by
  unfold transitions protocol
  rw [List.map_append, List.map_flatMap]
  congr 1
  apply List.flatMap_congr
  intro i mem
  have small : i < 64 := by have := List.mem_range.1 (List.mem_reverse.1 mem); omega
  simp [Transition.line, Transition.level, shiftRight_and_one value small]

/-! ### Writes -/

/-- A write of `value` into register `id` drives the protocol for its bits and
stores it, with the rest of the arena as it was, exactly when every change
went through; otherwise the arena is left alone. -/
theorem write_logged (set : LineDriver σ) (id : Nat) (r : Register) (value : UInt64) (w : Wired (Logged σ))
    (narrow : r.width ≤ 64) :
    ∃ new, ((Wired.write (logged set) id r value).run' w).2.lines.changes = w.lines.changes ++ new ∧
      Serial id r.width value.toNat.testBit new (((Wired.write (logged set) id r value).run' w).1 matches .ok _) ∧
      ((Wired.write (logged set) id r value).run' w).2.arena =
        if ∀ c ∈ new, c.done = true then { registers := w.arena.registers.set! id { r with value } } else w.arena := by
  obtain ⟨new, recorded, asked, through, whole, succeeded⟩ :=
    drive_logged set id (transitions r.width value) w.lines
  have requests : (transitions r.width value).map (fun t => (id, t.line, t.level)) =
      (protocol r.width value.toNat.testBit).map fun c => (id, c.1, c.2) := by
    rw [← transitions_follow_protocol r.width value narrow, List.map_map]
    rfl
  have count : (transitions r.width value).length = 3 * r.width + 2 := by
    rw [← List.length_map (fun t => (t.line, t.level)), transitions_follow_protocol r.width value narrow,
      length_protocol]
  rw [Wired.run'_write]
  generalize (Wired.drive (logged set) id (transitions r.width value)).run' w.lines = outcome at recorded succeeded
  obtain ⟨result, s⟩ := outcome
  refine ⟨new, ?_, ⟨requests ▸ asked, through, fun all => count ▸ whole all, ?_⟩, ?_⟩
  · cases result <;> exact recorded
  · cases result <;> simpa using succeeded
  cases result with
  | error f =>
    -- a change failed, so not all went through and the arena stays
    have failed : ¬∀ c ∈ new, c.done = true := fun all => by simpa using succeeded.2 all
    simp only [failed, if_false]
  | ok _ =>
    have all : ∀ c ∈ new, c.done = true := succeeded.1 rfl
    exact (if_pos all).symm

/-- A whole-register write drives the protocol for the value cut to the
width, whose bits below the width are the value's, and stores the cut value
only when every change went through. -/
theorem setValue_follows_protocol (set : LineDriver σ) (w : Wired (Logged σ)) {id : Nat} {r : Register}
    (found : w.arena.registers[id]? = some r) (narrow : r.width ≤ 64) (value : UInt64) :
    ∃ new stored, ((Wired.setValue (logged set) id value).run' w).2.lines.changes = w.lines.changes ++ new ∧
      Serial id r.width value.toNat.testBit new (((Wired.setValue (logged set) id value).run' w).1 matches .ok _) ∧
      stored.toNat = value.toNat % 2 ^ r.width ∧
      ((Wired.setValue (logged set) id value).run' w).2.arena =
        if ∀ c ∈ new, c.done = true then { registers := w.arena.registers.set! id { r with value := stored } }
        else w.arena := by
  have known : w.arena.register? (id : Int) = .ok r := Arena.register?_of_found (Int.natCast_nonneg id) (by simpa using found)
  obtain ⟨new, recorded, serial, stored⟩ := write_logged set id r (value &&& widthMask r.width) w narrow
  rw [Wired.run'_setValue, known]
  dsimp only
  rw [Int.toNat_natCast]
  -- the bits below the width are the value's own
  refine ⟨new, value &&& widthMask r.width, recorded, serial.of_agree fun i below => ?_,
    toNat_and_widthMask value narrow, stored⟩
  rw [testBit_and, testBit_widthMask narrow, decide_eq_true below, Bool.and_true]

theorem testBit_setBit (stored : UInt64) {b : Nat} (small : b < 64) (level : Bool) (i : Nat) :
    (if level then stored ||| 1 <<< b.toUInt64 else stored &&& ~~~(1 <<< b.toUInt64)).toNat.testBit i =
      if i = b then level else stored.toNat.testBit i := by
  cases level
  · simp only [Bool.false_eq_true, if_false, testBit_and_not, testBit_single small]
    by_cases at_bit : i = b <;> simp [at_bit]
  · simp only [if_true, testBit_or, testBit_single small]
    by_cases at_bit : i = b <;> simp [at_bit]

theorem toNat_setBit_lt {stored : UInt64} {b width : Nat} (inside : b < width) (narrow : width ≤ 64)
    (level : Bool) (fits : stored.toNat < 2 ^ width) :
    (if level then stored ||| 1 <<< b.toUInt64 else stored &&& ~~~(1 <<< b.toUInt64)).toNat < 2 ^ width := by
  -- no bit at or above the width is set when none was before
  apply Nat.lt_pow_two_of_testBit
  intro i above
  rw [testBit_setBit stored (by omega) level i, if_neg (by omega)]
  exact Nat.testBit_lt_two_pow (Nat.lt_of_lt_of_le fits (Nat.pow_le_pow_right (by omega) above))

/-- Setting an unreleased pin drives the protocol for the stored value with the
pin's bit changed, and stores that value only when every change went through;
a stored value within the width stays within it. -/
theorem setPin_follows_protocol (set : LineDriver σ) (w : Wired (Logged σ)) {p : Pin} {r : Register}
    (unreleased : p.released = false) (found : w.arena.registers[p.register]? = some r) (narrow : r.width ≤ 64)
    (inside : p.bit < r.width) (level : Bool) :
    ∃ new stored, ((Wired.setPin (logged set) p level).run' w).2.lines.changes = w.lines.changes ++ new ∧
      Serial p.register r.width (fun i => if i = p.bit then level else r.value.toNat.testBit i) new
        (((Wired.setPin (logged set) p level).run' w).1 matches .ok _) ∧
      (∀ i, stored.toNat.testBit i = if i = p.bit then level else r.value.toNat.testBit i) ∧
      (r.value.toNat < 2 ^ r.width → stored.toNat < 2 ^ r.width) ∧
      ((Wired.setPin (logged set) p level).run' w).2.arena =
        if ∀ c ∈ new, c.done = true then { registers := w.arena.registers.set! p.register { r with value := stored } }
        else w.arena := by
  have known : w.arena.register? (p.register : Int) = .ok r :=
    Arena.register?_of_found (Int.natCast_nonneg _) (by simpa using found)
  have small : p.bit < 64 := by omega
  generalize changed : (if level then r.value ||| 1 <<< p.bit.toUInt64 else r.value &&& ~~~(1 <<< p.bit.toUInt64)) =
    stored
  have bits : ∀ i, stored.toNat.testBit i = if i = p.bit then level else r.value.toNat.testBit i := fun i => by
    rw [← changed, testBit_setBit r.value small level i]
  obtain ⟨new, recorded, serial, arena⟩ := write_logged set p.register r stored w narrow
  rw [Wired.run'_setPin (logged set) unreleased, known]
  dsimp only
  rw [changed]
  refine ⟨new, stored, recorded, serial.of_agree fun i _ => bits i, bits,
    fun fits => changed ▸ toNat_setBit_lt inside narrow level fits, arena⟩

/-! ### What a program's registers hold -/

namespace Arena

def ValuesFit (a : Arena) : Prop :=
  ∀ (id : Nat) (r : Register), a.registers[id]? = some r → r.value.toNat < 2 ^ r.width

theorem ValuesFit.set {a : Arena} (fits : a.ValuesFit) {i : Nat} {r : Register}
    (small : r.value.toNat < 2 ^ r.width) : ({ registers := a.registers.set! i r } : Arena).ValuesFit := by
  intro id s found
  rw [Array.set!_eq_setIfInBounds, Array.getElem?_setIfInBounds] at found
  by_cases same : i = id
  · rw [if_pos same] at found
    split at found
    · cases found
      exact small
    · cases found
  · rw [if_neg same] at found
    exact fits id s found

theorem ValuesFit.push {a : Arena} (fits : a.ValuesFit) {r : Register} (small : r.value.toNat < 2 ^ r.width) :
    ({ registers := a.registers.push r } : Arena).ValuesFit := by
  intro id s found
  rw [Array.getElem?_push] at found
  split at found
  · cases found
    exact small
  · exact fits id s found

theorem ValuesFit.unclaim {a : Arena} (fits : a.ValuesFit) (id bit : Nat) : (a.unclaim id bit).ValuesFit := by
  unfold Arena.unclaim
  split
  · rename_i r found
    exact fits.set (fits id r found)
  · exact fits

end Arena

theorem Wired.write_fits (set : LineDriver σ) {id : Nat} {r : Register} {value : UInt64} {w : Wired σ}
    (fits : w.arena.ValuesFit) (small : value.toNat < 2 ^ r.width) :
    ((Wired.write set id r value).run' w).2.arena.ValuesFit := by
  rw [Wired.run'_write]
  rcases (Wired.drive set id (transitions r.width value)).run' w.lines with ⟨_ | ⟨⟩, s⟩
  · exact fits
  · exact fits.set small

namespace Holder

variable {set : LineDriver σ} {h : Holder σ}

/-- Every call of a program keeps each register's value within its width: a
whole-register write stores the value cut to the width, and setting a held
pin changes a bit below the width. -/
theorem Sound.call_fits (sound : h.Sound) (fits : h.wired.arena.ValuesFit) (c : Call) :
    (h.call set c).wired.arena.ValuesFit := by
  cases c with
  | newRegister width =>
    simp only [Holder.call]
    split
    · rename_i id a added
      obtain ⟨-, -, -, rfl⟩ := Arena.newRegister_ok added
      exact fits.push (by simp)
    · exact fits
  | pin id bit =>
    simp only [Holder.call]
    split
    · rename_i p a claimed
      obtain ⟨r, -, found, -, -, -, -, rfl⟩ :=
        Arena.claim_ok (fun i w width => (sound.widths i w width).2) claimed
      exact fits.set (fits _ r found)
    · exact fits
  | release k =>
    simp only [Holder.call]
    split
    · rename_i p _
      cases released : p.released
      · rw [Wired.release_unreleased released]
        exact fits.unclaim _ _
      · rw [Wired.release_released released]
        exact fits
    · exact fits
  | free _ | value _ => exact fits
  | setValue id value =>
    simp only [Holder.call]
    rw [Wired.run'_setValue]
    cases known : h.wired.arena.register? id with
    | error f => exact fits
    | ok r =>
      obtain ⟨-, found⟩ := Arena.found_of_register? known
      have narrow := (sound.widths _ _ (Arena.widthOf_of_found found)).2
      apply Wired.write_fits set fits
      rw [toNat_and_widthMask value narrow]
      exact Nat.mod_lt _ (Nat.two_pow_pos _)
  | set k level =>
    simp only [Holder.call]
    split
    · rename_i p held
      cases released : p.released
      · rw [Wired.run'_setPin set released]
        cases known : h.wired.arena.register? p.register with
        | error f => exact fits
        | ok r =>
          have found : h.wired.arena.registers[p.register]? = some r := by
            simpa using (Arena.found_of_register? known).2
          -- a held pin's bit lies below its register's width
          obtain ⟨-, w, width, below, narrow⟩ := sound.unreleased (List.mem_of_getElem? held) released
          rw [Arena.widthOf_of_found found, Option.some.injEq] at width
          apply Wired.write_fits set fits
          exact toNat_setBit_lt (width ▸ below) (width ▸ narrow) level (fits _ r found)
      · rw [Wired.setPin_released set released]
        exact fits
    · exact fits

/-- Every program keeps each register's value within its width. The induction
is on the calls, with `Sound` carried beside. -/
theorem Sound.run_fits (sound : h.Sound) (fits : h.wired.arena.ValuesFit) (calls : List Call) :
    (h.run set calls).wired.arena.ValuesFit := by
  induction calls generalizing h with
  | nil => exact fits
  | cons c cs ih => exact ih (sound.call c) (sound.call_fits fits c)

end Holder

/-- In every arena a program reaches from fresh lines, each register holds a
value within its width, so cutting it to the width leaves it as it is: setting
a pin writes the value with its bit changed cut to the width, as a
whole-register write would. -/
theorem run_values_within_width (set : LineDriver σ) (lines : σ) (calls : List Call) {id : Nat} {r : Register}
    (found : (({ wired := { lines } } : Holder σ).run set calls).wired.arena.registers[id]? = some r) :
    r.value.toNat < 2 ^ r.width ∧ r.value &&& widthMask r.width = r.value := by
  have sound : (({ wired := { lines } } : Holder σ).run set calls).Sound := (Holder.sound_init lines).run calls
  have fresh : ({ wired := { lines } } : Holder σ).wired.arena.ValuesFit := by
    intro id r found
    simp at found
  have small := (Holder.Sound.run_fits (Holder.sound_init lines) fresh calls) id r found
  have narrow := (sound.widths id r.width (Arena.widthOf_of_found found)).2
  refine ⟨small, UInt64.toNat_inj.1 ?_⟩
  rw [toNat_and_widthMask _ narrow, Nat.mod_eq_of_lt small]

/-- Writes of a shift register follow the serial protocol. Over any line
driver, take a register of at most 64 bits holding any value. A write of the
whole register with `value` asks the register's own lines, and no others, for
a prefix of the protocol for `value` cut to the width: each bit from the most
significant down on the data line with a clock pulse after it, then a strobe
pulse, `3 * width + 2` changes in all. It stops right after the first change
that fails and goes to the end otherwise; it succeeds exactly when every
change went through, and then the register holds `value` cut to the width
(`value mod 2 ^ width`) and the arena is otherwise as it was; a write that
fails leaves the arena as it was. Setting an unreleased pin of the register
does the same with the held value with the pin's bit changed, and keeps a held
value within the width. -/
theorem register_writes_follow_protocol (set : LineDriver σ) (w : Wired (Logged σ)) {id : Nat} {r : Register}
    (found : w.arena.registers[id]? = some r) (narrow : r.width ≤ 64) (value : UInt64) (p : Pin) (level : Bool) :
    (∃ new stored, ((Wired.setValue (logged set) id value).run' w).2.lines.changes = w.lines.changes ++ new ∧
      Serial id r.width value.toNat.testBit new (((Wired.setValue (logged set) id value).run' w).1 matches .ok _) ∧
      stored.toNat = value.toNat % 2 ^ r.width ∧
      ((Wired.setValue (logged set) id value).run' w).2.arena =
        if ∀ c ∈ new, c.done = true then { registers := w.arena.registers.set! id { r with value := stored } }
        else w.arena) ∧
    (p.register = id → p.released = false → p.bit < r.width →
      ∃ new stored, ((Wired.setPin (logged set) p level).run' w).2.lines.changes = w.lines.changes ++ new ∧
        Serial id r.width (fun i => if i = p.bit then level else r.value.toNat.testBit i) new
          (((Wired.setPin (logged set) p level).run' w).1 matches .ok _) ∧
        (∀ i, stored.toNat.testBit i = if i = p.bit then level else r.value.toNat.testBit i) ∧
        (r.value.toNat < 2 ^ r.width → stored.toNat < 2 ^ r.width) ∧
        ((Wired.setPin (logged set) p level).run' w).2.arena =
          if ∀ c ∈ new, c.done = true then { registers := w.arena.registers.set! id { r with value := stored } }
          else w.arena) := by
  refine ⟨setValue_follows_protocol set w found narrow value, ?_⟩
  rintro rfl unreleased inside
  exact setPin_follows_protocol set w unreleased found narrow inside level

def stuckStrobe : LineDriver Unit := fun _ line _ => if line = .strobe then throw (.plain "strobe stuck") else pure ()

def stuckWired : Wired (Logged Unit) := { arena := { registers := #[{ width := 8, value := 0x5A }] }, lines := { lines := () } }

theorem stuck_strobe_write_follows_protocol :
    stuckWired.arena.registers[0]? = some { width := 8, value := 0x5A } ∧ ({ width := 8, value := 0x5A } : Register).width ≤ 64 ∧
    (∃ new stored, ((Wired.setValue (logged stuckStrobe) (0 : Nat) 0x1FF).run' stuckWired).2.lines.changes =
        stuckWired.lines.changes ++ new ∧
      Serial 0 8 (0x1FF : UInt64).toNat.testBit new
        (((Wired.setValue (logged stuckStrobe) (0 : Nat) 0x1FF).run' stuckWired).1 matches .ok _) ∧
      stored.toNat = (0x1FF : UInt64).toNat % 2 ^ 8 ∧
      ((Wired.setValue (logged stuckStrobe) (0 : Nat) 0x1FF).run' stuckWired).2.arena =
        if ∀ c ∈ new, c.done = true then
          { registers := stuckWired.arena.registers.set! 0 { width := 8, value := stored } }
        else stuckWired.arena) ∧
    ((⟨0, 3, false⟩ : Pin).register = 0 → (⟨0, 3, false⟩ : Pin).released = false → (⟨0, 3, false⟩ : Pin).bit < 8 →
      ∃ new stored, ((Wired.setPin (logged stuckStrobe) ⟨0, 3, false⟩ true).run' stuckWired).2.lines.changes =
          stuckWired.lines.changes ++ new ∧
        Serial 0 8 (fun i => if i = 3 then true else (0x5A : UInt64).toNat.testBit i) new
          (((Wired.setPin (logged stuckStrobe) ⟨0, 3, false⟩ true).run' stuckWired).1 matches .ok _) ∧
        (∀ i, stored.toNat.testBit i = if i = 3 then true else (0x5A : UInt64).toNat.testBit i) ∧
        ((0x5A : UInt64).toNat < 2 ^ 8 → stored.toNat < 2 ^ 8) ∧
        ((Wired.setPin (logged stuckStrobe) ⟨0, 3, false⟩ true).run' stuckWired).2.arena =
          if ∀ c ∈ new, c.done = true then
            { registers := stuckWired.arena.registers.set! 0 { width := 8, value := stored } }
          else stuckWired.arena) :=
  ⟨rfl, by decide,
    @register_writes_follow_protocol Unit stuckStrobe stuckWired 0 { width := 8, value := 0x5A } rfl (by decide)
      0x1FF ⟨0, 3, false⟩ true⟩

/-- The stuck strobe stops the write right after its first change. -/
example : (((Wired.setValue (logged stuckStrobe) (0 : Nat) 0x1FF).run' stuckWired).2.lines.changes.map
    Change.done) = List.replicate 24 true ++ [false] := by decide +kernel

end Acquisition.ShiftRegister
