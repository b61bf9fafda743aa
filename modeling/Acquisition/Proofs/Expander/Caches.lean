import Mathlib
import Acquisition.Expander
import Acquisition.Proofs.Effect
import Acquisition.Proofs.Eeprom.Header
/-! The expander's copies of its registers follow the device: over any bus and any sequence of calls
from power-on the copies equal the registers, and a call that fails leaves the expander as it was.
-/

namespace Acquisition.Expander

open Acquisition.Op

/-- The output latch and the direction register of each port. -/
structure PortRegisters where
  latch : Bank → UInt8
  direction : Bank → UInt8

namespace PortRegisters

def powerOn : PortRegisters := ⟨fun _ => 0, fun _ => 0xFF⟩

/-- The registers once `value` is written into register `reg`. A register that
is neither a latch nor a direction register changes none of them. -/
def store (reg value : UInt8) (p : PortRegisters) : PortRegisters where
  latch port := if reg = port.latchRegister then value else p.latch port
  direction port := if reg = port.directionRegister then value else p.direction port

theorem ext' {p q : PortRegisters} (latch : ∀ port, p.latch port = q.latch port)
    (direction : ∀ port, p.direction port = q.direction port) : p = q := by
  cases p; cases q
  simp only [mk.injEq]
  exact ⟨funext latch, funext direction⟩

@[simp] theorem store_pullUp (bank : Bank) (value : UInt8) (p : PortRegisters) :
    p.store bank.pullUpRegister value = p := by
  apply ext' <;> intro port <;> cases bank <;> cases port <;> simp [store, Bank.pullUpRegister,
    Bank.latchRegister, Bank.directionRegister]

end PortRegisters

def cache (x : Expander) : PortRegisters :=
  ⟨fun port => x.latch.get port.index, fun port => x.direction.get port.index⟩

theorem get_set_index (v : Vector UInt8 2) (bank port : Bank) (value : UInt8) :
    (v.set bank.index value bank.index.isLt).get port.index = if bank = port then value else v.get port.index := by
  cases bank <;> cases port <;> simp [Bank.index, Vector.get_eq_getElem]

@[simp] theorem cache_setDirection (x : Expander) (bank : Bank) (value : UInt8) :
    cache { x with direction := x.direction.set bank.index value bank.index.isLt } = x.cache.store bank.directionRegister value := by
  apply PortRegisters.ext' <;> intro port <;> simp only [cache, PortRegisters.store, get_set_index] <;>
    cases bank <;> cases port <;> rfl

@[simp] theorem cache_setLatch (x : Expander) (bank : Bank) (value : UInt8) :
    cache { x with latch := x.latch.set bank.index value bank.index.isLt } = x.cache.store bank.latchRegister value := by
  apply PortRegisters.ext' <;> intro port <;> simp only [cache, PortRegisters.store, get_set_index] <;>
    cases bank <;> cases port <;> rfl

/-! ### Bits of a port -/

theorem testBit_toNat (v : UInt8) (j : Nat) : v.toNat.testBit j = v.toBitVec.getLsbD j := by
  rw [← BitVec.testBit_toNat]
  rfl

theorem testBit_bit {k : Nat} (j : Nat) (hk : k < 8) :
    ((1 : UInt8) <<< k.toUInt8).toNat.testBit j = decide (j = k) := by
  have small : k.toUInt8.toNat = k := by
    simp only [Nat.toUInt8_eq, UInt8.toNat_ofNat']
    omega
  have pow : ((1 : UInt8) <<< k.toUInt8).toNat = 2 ^ k := by
    rw [UInt8.toNat_shiftLeft, small, Nat.mod_eq_of_lt hk, UInt8.toNat_one, Nat.one_shiftLeft]
    exact Nat.mod_eq_of_lt (Nat.pow_lt_pow_right (by omega) hk)
  rw [pow, Nat.testBit_two_pow]
  exact decide_eq_decide.mpr eq_comm

theorem testBit_or_bit (v : UInt8) {k : Nat} (j : Nat) (hk : k < 8) :
    (v ||| (1 : UInt8) <<< k.toUInt8).toNat.testBit j = (decide (j = k) || v.toNat.testBit j) := by
  rw [UInt8.toNat_or, Nat.testBit_or, testBit_bit j hk, Bool.or_comm]

theorem testBit_and_not_bit (v : UInt8) {k : Nat} (j : Nat) (hk : k < 8) :
    (v &&& ~~~((1 : UInt8) <<< k.toUInt8)).toNat.testBit j = (!decide (j = k) && v.toNat.testBit j) := by
  rw [UInt8.toNat_and, Nat.testBit_and, testBit_toNat (~~~_), UInt8.toBitVec_not, BitVec.getLsbD_not,
    ← testBit_toNat, testBit_bit j hk]
  -- past the eighth bit both sides are zero; below it the complement flips the mask's bit
  by_cases outside : 8 ≤ j
  · have high : v.toNat.testBit j = false :=
      Nat.testBit_eq_false_of_lt (lt_of_lt_of_le v.toNat_lt (Nat.pow_le_pow_right (by omega) outside))
    simp [high]
  · simp only [show j < 8 by omega, decide_true, Bool.true_and]
    exact Bool.and_comm _ _

/-! ### Devices on the bus -/

section
variable {σ : Type} (bus : I2cBus σ) (view : σ → PortRegisters)

/-- `op` changes the registers by `change` when it succeeds and leaves them
alone when it fails. -/
def Commits {α : Type} (op : Op σ α) (change : PortRegisters → PortRegisters) : Prop :=
  ∀ s, match op.run' s with
    | (.ok _, s') => view s' = change (view s)
    | (.error _, s') => view s' = view s

def Keeps {α : Type} (op : Op σ α) : Prop := ∀ s, view (op.run' s).2 = view s

/-- The device at `address` whose latch and direction registers `view` reads.
A two-byte write stores its second byte into the register its first byte names
when it goes through and changes nothing when it fails; selecting a register,
reading and releasing the bus change no register. Nothing is assumed about
which transactions go through. -/
structure RegisterDevice (address : UInt8) : Prop where
  write_pair : ∀ reg value, Commits view (bus.write address ⟨#[reg, value]⟩) (PortRegisters.store reg value)
  write_select : ∀ reg, Keeps view (bus.write address ⟨#[reg]⟩)
  read : ∀ n, Keeps view (bus.read address n)
  release : Keeps view bus.release

/-- Run from `(x, s)`, `op` changes the copies and the device's registers alike
by `change` when it succeeds, keeping the address and the retry limit, and
changes neither the expander nor the registers when it fails. -/
def WritesThrough {α : Type} (op : Op (Expander × σ) α) (x : Expander) (s : σ)
    (change : PortRegisters → PortRegisters) : Prop :=
  match op.run' (x, s) with
  | (.ok _, x', s') =>
    x'.cache = change x.cache ∧ view s' = change (view s) ∧ x'.address = x.address ∧ x'.retryLimit = x.retryLimit
  | (.error _, x', s') => x' = x ∧ view s' = view s

variable {bus view}

theorem Keeps.bind {α β : Type} {op : Op σ α} {f : α → Op σ β} (first : Keeps view op)
    (rest : ∀ a, Keeps view (f a)) : Keeps view (op >>= f) := by
  intro s
  rw [run'_bind]
  have := first s
  revert this
  rcases op.run' s with ⟨_ | a, s'⟩
  · exact id
  · intro kept
    exact (rest a s').trans kept

theorem Keeps.commits {α : Type} {op : Op σ α} (keeps : Keeps view op) : Commits view op id := by
  intro s
  have := keeps s
  revert this
  rcases op.run' s with ⟨_ | _, s'⟩ <;> exact id

theorem Keeps.withContext {α : Type} {op : Op σ α} (keeps : Keeps view op) (ctx : String) :
    Keeps view (Op.withContext ctx op) := by
  intro s
  rw [run'_withContext]
  have := keeps s
  revert this
  rcases op.run' s with ⟨_ | _, s'⟩ <;> exact id

theorem keeps_pure {α : Type} (a : α) : Keeps view (pure a : Op σ α) := fun _ => rfl

theorem Commits.withContext {α : Type} {op : Op σ α} {change : PortRegisters → PortRegisters}
    (commits : Commits view op change) (ctx : String) : Commits view (Op.withContext ctx op) change := by
  intro s
  rw [run'_withContext]
  have := commits s
  revert this
  rcases op.run' s with ⟨_ | _, s'⟩ <;> exact id

/-- Retrying keeps what one attempt commits: a failed attempt and the release
after it change nothing, so the registers change at most once, by the attempt
that went through. -/
theorem Commits.retry {α : Type} {op : Op σ α} {change : PortRegisters → PortRegisters}
    (release : Keeps view bus.release)
    (commits : Commits view op change) : ∀ n, Commits view (retry bus op n) change
  | 0 => fun s => by simp [Expander.retry]
  | n + 1 => fun s => by
    have first := commits s
    rw [Expander.retry, run'_tryCatch]
    revert first
    rcases op.run' s with ⟨f | a, s'⟩
    · intro first
      dsimp only
      by_cases busy : f.is .busBusy = true
      · simp only [busy, Bool.not_true, Bool.false_eq_true, if_false, run'_bind, run'_attempt]
        have released : view (bus.release.run' s').2 = view s := (release s').trans first
        have again := Commits.retry release commits n (bus.release.run' s').2
        -- after the release, the last attempt reports the limit and the others retry
        cases n with
        | zero => simpa using released
        | succ k =>
          dsimp only
          revert again
          rw [released]
          exact id
      · simp [busy, first]
    · exact id

section
variable {address : UInt8} (device : RegisterDevice bus view address) {x : Expander}
include device

theorem writeRegister_commits (at_device : x.address = address) (reg value : UInt8) :
    Commits view (x.writeRegister bus reg value) (PortRegisters.store reg value) := by
  apply Commits.retry device.release
  rw [at_device]
  exact device.write_pair reg value

theorem readRegister_commits (at_device : x.address = address) (reg : UInt8) :
    Commits view (x.readRegister bus reg) id := by
  apply Commits.retry device.release
  apply Keeps.commits
  apply Keeps.bind
  · rw [at_device]
    exact Keeps.withContext (device.write_select reg) _
  · intro _
    apply Keeps.bind
    · rw [at_device]
      exact device.read 1
    · exact fun _ => keeps_pure _

end

/-! ### Calls of the expander -/

theorem run'_onBus {α : Type} (op : Op σ α) (x : Expander) (s : σ) :
    (Op.focus (·.2) (fun p s => (p.1, s)) op).run' (x, s) = ((op.run' s).1, (x, (op.run' s).2)) := rfl

/-- The outcome of an expander call that runs a bus operation with outcome
`inner` and, when it goes through, replaces the expander `x` by `x'`. -/
def afterBus {α β : Type} (inner : Except Fault β × σ) (x x' : Expander) (result : β → α) :
    Except Fault α × (Expander × σ) :=
  match inner with
  | (.ok b, s') => (.ok (result b), (x', s'))
  | (.error f, s') => (.error f, (x, s'))

theorem writesThrough_of_run' {α β : Type} {op : Op (Expander × σ) α} {inner : Op σ β}
    {change : PortRegisters → PortRegisters} {x x' : Expander} {s : σ} {result : β → α}
    (commits : Commits view inner change) (cache : x'.cache = change x.cache)
    (address : x'.address = x.address) (limit : x'.retryLimit = x.retryLimit)
    (runs : op.run' (x, s) = afterBus (inner.run' s) x x' result) :
    WritesThrough view op x s change := by
  unfold WritesThrough
  rw [runs]
  have := commits s
  revert this
  rcases inner.run' s with ⟨_ | _, s'⟩
  · exact fun kept => ⟨rfl, kept⟩
  · exact fun stored => ⟨cache, stored, address, limit⟩

section
variable (bus) (x : Expander) (s : σ) (bank : Bank)

theorem run'_init (d : UInt8) :
    (init bus bank d).run' (x, s) =
      afterBus ((Op.withContext ("could not initialize gpio " ++ bank.name ++ " set")
          (x.writeRegister bus bank.directionRegister d)).run' s)
        x { x with direction := x.direction.set bank.index d bank.index.isLt } id := by
  simp only [init, run'_bind, run'_get, run'_onBus]
  rcases (Op.withContext _ (x.writeRegister bus bank.directionRegister d)).run' s with ⟨_ | _, s'⟩ <;> rfl

theorem run'_pullUp (v : UInt8) :
    (pullUp bus bank v).run' (x, s) =
      afterBus ((Op.withContext ("could not set pull-up on gpio " ++ bank.name ++ " set")
          (x.writeRegister bus bank.pullUpRegister v)).run' s) x x id := by
  simp only [pullUp, run'_bind, run'_get, run'_onBus]
  rcases (Op.withContext _ (x.writeRegister bus bank.pullUpRegister v)).run' s with ⟨_ | _, s'⟩ <;> rfl

theorem run'_readPort :
    (readPort bus bank).run' (x, s) =
      afterBus ((Op.withContext ("could not read gpio " ++ bank.name ++ " set")
          (x.readRegister bus bank.portRegister)).run' s) x x id := by
  simp only [readPort, run'_bind, run'_get, run'_onBus]
  rcases (Op.withContext _ (x.readRegister bus bank.portRegister)).run' s with ⟨_ | _, s'⟩ <;> rfl

theorem run'_writePort (v : UInt8) :
    (writePort bus bank v).run' (x, s) =
      afterBus ((Op.withContext ("could not write gpio " ++ bank.name ++ " latch")
          (x.writeRegister bus bank.latchRegister v)).run' s)
        x { x with latch := x.latch.set bank.index v bank.index.isLt } id := by
  simp only [writePort, run'_bind, run'_get, run'_onBus]
  rcases (Op.withContext _ (x.writeRegister bus bank.latchRegister v)).run' s with ⟨_ | _, s'⟩ <;> rfl

theorem run'_readSettings :
    (readSettings bus).run' (x, s) =
      afterBus ((Op.withContext "could not read expander settings" (x.readRegister bus configRegister)).run' s)
        x x id := by
  simp only [readSettings, run'_bind, run'_get, run'_onBus]
  rcases (Op.withContext _ (x.readRegister bus configRegister)).run' s with ⟨_ | _, s'⟩ <;> rfl

theorem run'_pin_within {bit : Int} (within : 0 ≤ bit ∧ bit ≤ 7) :
    (pin bus bank bit).run' (x, s) =
      afterBus ((Op.withContext ("could not configure pin " ++ bank.name ++ toString bit ++ " as output")
          (x.writeRegister bus bank.directionRegister
            (x.direction.get bank.index &&& ~~~((1 : UInt8) <<< bit.toNat.toUInt8)))).run' s)
        x { x with direction :=
            x.direction.set bank.index (x.direction.get bank.index &&& ~~~((1 : UInt8) <<< bit.toNat.toUInt8)) bank.index.isLt }
        fun _ => ⟨bank, bit.toNat⟩ := by
  have accepted : (decide (bit < 0) || decide (bit > 7)) = false := by
    simp only [Bool.or_eq_false_iff, decide_eq_false_iff_not]
    omega
  simp only [pin, accepted, Bool.false_eq_true, if_false, run'_bind, run'_get, run'_onBus]
  rcases (Op.withContext _ (x.writeRegister bus bank.directionRegister _)).run' s with ⟨_ | _, s'⟩ <;> rfl

theorem run'_pin_outside {bit : Int} (outside : bit < 0 ∨ 7 < bit) :
    (pin bus bank bit).run' (x, s) = (.error (.plain ("invalid expander pin " ++ bank.name ++ toString bit)), (x, s)) := by
  have refused : (decide (bit < 0) || decide (bit > 7)) = true := by
    simp only [Bool.or_eq_true, decide_eq_true_eq]
    omega
  simp only [pin, refused, if_true, run'_bind, run'_throw]

theorem run'_setPin (p : ExpanderPin) (level : Bool) :
    (setPin bus p level).run' (x, s) =
      (writePort bus p.bank (if level then x.latch.get p.bank.index ||| (1 : UInt8) <<< p.bit.toUInt8
        else x.latch.get p.bank.index &&& ~~~((1 : UInt8) <<< p.bit.toUInt8))).run' (x, s) := by
  simp only [setPin, run'_bind, run'_get]
  rfl

end

section
variable {address : UInt8} (device : RegisterDevice bus view address) {x : Expander} (s : σ) (bank : Bank)
  (at_device : x.address = address)
include device at_device

theorem init_writesThrough (d : UInt8) :
    WritesThrough view (init bus bank d) x s (.store bank.directionRegister d) :=
  writesThrough_of_run' ((writeRegister_commits device at_device _ _).withContext _) (cache_setDirection _ _ _)
    rfl rfl (run'_init bus x s bank d)

theorem pullUp_writesThrough (v : UInt8) : WritesThrough view (pullUp bus bank v) x s id := by
  have commits := (writeRegister_commits device at_device bank.pullUpRegister v).withContext
    ("could not set pull-up on gpio " ++ bank.name ++ " set")
  rw [funext (PortRegisters.store_pullUp bank v)] at commits
  exact writesThrough_of_run' commits rfl rfl rfl (run'_pullUp bus x s bank v)

theorem readPort_writesThrough : WritesThrough view (readPort bus bank) x s id :=
  writesThrough_of_run' ((readRegister_commits device at_device _).withContext _) rfl rfl rfl
    (run'_readPort bus x s bank)

theorem writePort_writesThrough (v : UInt8) :
    WritesThrough view (writePort bus bank v) x s (.store bank.latchRegister v) :=
  writesThrough_of_run' ((writeRegister_commits device at_device _ _).withContext _) (cache_setLatch _ _ _)
    rfl rfl (run'_writePort bus x s bank v)

theorem readSettings_writesThrough : WritesThrough view (readSettings bus) x s id :=
  writesThrough_of_run' ((readRegister_commits device at_device _).withContext _) rfl rfl rfl
    (run'_readSettings bus x s)

theorem pin_writesThrough {bit : Int} (within : 0 ≤ bit ∧ bit ≤ 7) :
    WritesThrough view (pin bus bank bit) x s
      (.store bank.directionRegister (x.direction.get bank.index &&& ~~~((1 : UInt8) <<< bit.toNat.toUInt8))) :=
  writesThrough_of_run' ((writeRegister_commits device at_device _ _).withContext _) (cache_setDirection _ _ _)
    rfl rfl (run'_pin_within bus x s bank within)

theorem setPin_writesThrough (p : ExpanderPin) (level : Bool) :
    WritesThrough view (setPin bus p level) x s (.store p.bank.latchRegister
      (if level then x.latch.get p.bank.index ||| (1 : UInt8) <<< p.bit.toUInt8
        else x.latch.get p.bank.index &&& ~~~((1 : UInt8) <<< p.bit.toUInt8))) := by
  have written := writePort_writesThrough device s p.bank at_device
    (if level then x.latch.get p.bank.index ||| (1 : UInt8) <<< p.bit.toUInt8
      else x.latch.get p.bank.index &&& ~~~((1 : UInt8) <<< p.bit.toUInt8))
  unfold WritesThrough at written ⊢
  rw [run'_setPin]
  exact written

/-- Reading a line's level changes nothing: a failed read of the port falls
back to the latch copy. -/
theorem sensePin_writesThrough (p : ExpanderPin) : WritesThrough view (sensePin bus p) x s id := by
  have read := readPort_writesThrough device s p.bank at_device
  unfold WritesThrough at read ⊢
  simp only [sensePin, run'_bind, run'_attempt]
  revert read
  rcases (readPort bus p.bank).run' (x, s) with ⟨_ | _, x', s'⟩
  · rintro ⟨rfl, kept⟩
    exact ⟨rfl, kept, rfl, rfl⟩
  · exact id

end

theorem pin_outside_writesThrough (x : Expander) (s : σ) (bank : Bank) {bit : Int} (outside : bit < 0 ∨ 7 < bit)
    (change : PortRegisters → PortRegisters) : WritesThrough view (pin bus bank bit) x s change := by
  unfold WritesThrough
  rw [run'_pin_outside bus x s bank outside]
  exact ⟨rfl, rfl⟩

/-! ### Programs using an expander -/

/-- A call a program makes on an expander. -/
inductive Call where
  | init (bank : Bank) (directions : UInt8)
  | pullUp (bank : Bank) (settings : UInt8)
  | readPort (bank : Bank)
  | writePort (bank : Bank) (value : UInt8)
  | readSettings
  | pin (bank : Bank) (bit : Int)
  | setPin (pin : ExpanderPin) (level : Bool)
  | sensePin (pin : ExpanderPin)

variable (bus) in
/-- A call, its result set aside. -/
def Call.op : Call → Op (Expander × σ) Unit
  | .init bank d => Expander.init bus bank d
  | .pullUp bank v => Expander.pullUp bus bank v
  | .readPort bank => (fun _ => ()) <$> Expander.readPort bus bank
  | .writePort bank v => Expander.writePort bus bank v
  | .readSettings => (fun _ => ()) <$> Expander.readSettings bus
  | .pin bank k => (fun _ => ()) <$> Expander.pin bus bank k
  | .setPin p level => Expander.setPin bus p level
  | .sensePin p => (fun _ => ()) <$> Expander.sensePin bus p

variable (bus) in
def runCalls (calls : List Call) (st : Expander × σ) : Expander × σ :=
  calls.foldl (fun st c => ((c.op bus).run' st).2) st

theorem WritesThrough.map {α β : Type} {op : Op (Expander × σ) α} {x : Expander} {s : σ}
    {change : PortRegisters → PortRegisters} (writes : WritesThrough view op x s change) (f : α → β) :
    WritesThrough view (f <$> op) x s change := by
  unfold WritesThrough at writes ⊢
  rw [run'_map]
  revert writes
  rcases op.run' (x, s) with ⟨_ | _, x', s'⟩ <;> exact id

theorem Call.writesThrough {address : UInt8} (device : RegisterDevice bus view address) (c : Call)
    {x : Expander} (s : σ) (at_device : x.address = address) :
    ∃ change, WritesThrough view (c.op bus) x s change := by
  cases c with
  | init bank d => exact ⟨_, init_writesThrough device s bank at_device d⟩
  | pullUp bank v => exact ⟨_, pullUp_writesThrough device s bank at_device v⟩
  | readPort bank => exact ⟨_, (readPort_writesThrough device s bank at_device).map _⟩
  | writePort bank v => exact ⟨_, writePort_writesThrough device s bank at_device v⟩
  | readSettings => exact ⟨_, (readSettings_writesThrough device s at_device).map _⟩
  | pin bank k =>
    by_cases within : 0 ≤ k ∧ k ≤ 7
    · exact ⟨_, (pin_writesThrough device s bank at_device within).map _⟩
    · exact ⟨id, (pin_outside_writesThrough x s bank (by omega) id).map _⟩
  | setPin p level => exact ⟨_, setPin_writesThrough device s at_device p level⟩
  | sensePin p => exact ⟨_, (sensePin_writesThrough device s at_device p).map _⟩

variable (view) in
/-- The copies equal the device's registers, and the expander is the one at the device's address. -/
structure Mirrors (address : UInt8) (st : Expander × σ) : Prop where
  cache : st.1.cache = view st.2
  address : st.1.address = address

/-- Each call keeps the copies equal to the registers: both change by what the
call wrote through, or neither changes. -/
theorem Mirrors.call {address : UInt8} (device : RegisterDevice bus view address) {st : Expander × σ}
    (mirrors : Mirrors view address st) (c : Call) : Mirrors view address ((c.op bus).run' st).2 := by
  obtain ⟨x, s⟩ := st
  obtain ⟨change, writes⟩ := c.writesThrough device s mirrors.address
  unfold WritesThrough at writes
  revert writes
  rcases (c.op bus).run' (x, s) with ⟨_ | _, x', s'⟩
  · rintro ⟨rfl, kept⟩
    exact ⟨mirrors.cache.trans kept.symm, mirrors.address⟩
  · rintro ⟨cache, stored, same_address, -⟩
    refine ⟨?_, same_address.trans mirrors.address⟩
    rw [cache, stored, mirrors.cache]

theorem Mirrors.runCalls {address : UInt8} (device : RegisterDevice bus view address) (calls : List Call) :
    ∀ {st : Expander × σ}, Mirrors view address st → Mirrors view address (runCalls bus calls st) := by
  induction calls with
  | nil => exact id
  | cons c rest ih => exact fun mirrors => ih (mirrors.call device c)

theorem cache_new (address : UInt8) (limit : Int) : (Expander.new address limit).cache = .powerOn := by
  apply PortRegisters.ext' <;> intro port <;> cases port <;> rfl

/-! ### Failed calls -/

def FailureKeeps {α : Type} (op : Op (Expander × σ) α) (x : Expander) (s : σ) : Prop :=
  ∀ f st, op.run' (x, s) = (.error f, st) → st.1 = x

theorem failureKeeps_of_run' {α β : Type} {op : Op (Expander × σ) α} {inner : Op σ β} {x x' : Expander}
    {s : σ} {result : β → α} (runs : op.run' (x, s) = afterBus (inner.run' s) x x' result) :
    FailureKeeps op x s := by
  intro f st failed
  rw [runs] at failed
  revert failed
  rcases inner.run' s with ⟨_ | _, s'⟩
  · rintro ⟨⟩
    rfl
  · rintro ⟨⟩

theorem FailureKeeps.map {α β : Type} {op : Op (Expander × σ) α} {x : Expander} {s : σ}
    (keeps : FailureKeeps op x s) (g : α → β) : FailureKeeps (g <$> op) x s := by
  intro f st failed
  unfold FailureKeeps at keeps
  rw [run'_map] at failed
  revert failed keeps
  rcases op.run' (x, s) with ⟨_ | _, st'⟩
  · intro keeps failed
    cases failed
    exact keeps _ _ rfl
  · rintro - ⟨⟩

variable (bus) in
theorem Call.failureKeeps (c : Call) (x : Expander) (s : σ) : FailureKeeps (c.op bus) x s := by
  cases c with
  | init bank d => exact failureKeeps_of_run' (run'_init bus x s bank d)
  | pullUp bank v => exact failureKeeps_of_run' (run'_pullUp bus x s bank v)
  | readPort bank => exact (failureKeeps_of_run' (run'_readPort bus x s bank)).map _
  | writePort bank v => exact failureKeeps_of_run' (run'_writePort bus x s bank v)
  | readSettings => exact (failureKeeps_of_run' (run'_readSettings bus x s)).map _
  | pin bank k =>
    apply FailureKeeps.map
    by_cases within : 0 ≤ k ∧ k ≤ 7
    · exact failureKeeps_of_run' (run'_pin_within bus x s bank within)
    · intro f st failed
      rw [run'_pin_outside bus x s bank (by omega)] at failed
      cases failed
      rfl
  | setPin p level =>
    intro f st failed
    rw [Call.op, run'_setPin] at failed
    exact failureKeeps_of_run' (run'_writePort bus x s p.bank _) f st failed
  | sensePin p =>
    apply FailureKeeps.map
    -- reading a line never fails: a failed read of the port falls back to the latch copy
    intro f st failed
    simp only [Expander.sensePin, run'_bind, run'_attempt] at failed
    split at failed <;> simp at failed

/-! ### What the calls write -/

section
variable {address : UInt8} (device : RegisterDevice bus view address) {x : Expander} (s : σ) (bank : Bank)
  (at_device : x.address = address)
include device at_device

/-- Driving line `k` writes into the port's latch the copy with bit `k` at the
level and every other bit kept. -/
theorem setPin_writes_bit {k : Nat} (hk : k < 8) (level : Bool) :
    ∃ v : UInt8, (∀ j, v.toNat.testBit j = if j = k then level else (x.latch.get bank.index).toNat.testBit j) ∧
      WritesThrough view (setPin bus ⟨bank, k⟩ level) x s (.store bank.latchRegister v) := by
  refine ⟨_, fun j => ?_, setPin_writesThrough device s at_device ⟨bank, k⟩ level⟩
  cases level
  · rw [if_neg Bool.false_ne_true, testBit_and_not_bit _ j hk]
    by_cases at_bit : j = k <;> simp [at_bit]
  · rw [if_pos rfl, testBit_or_bit _ j hk]
    by_cases at_bit : j = k <;> simp [at_bit]

/-- Making line `k` an output writes into the port's directions the copy with
bit `k` cleared and every other bit kept, and hands out line `k` of the port. -/
theorem pin_clears_bit {k : Int} (within : 0 ≤ k ∧ k ≤ 7) :
    ∃ v : UInt8, (∀ j, v.toNat.testBit j = (!decide (j = k.toNat) && (x.direction.get bank.index).toNat.testBit j)) ∧
      WritesThrough view (pin bus bank k) x s (.store bank.directionRegister v) ∧
      ∀ p st, (pin bus bank k).run' (x, s) = (.ok p, st) → p.bank = bank ∧ p.bit = k.toNat := by
  refine ⟨_, fun j => ?_, pin_writesThrough device s bank at_device within, fun p st handed => ?_⟩
  · rw [testBit_and_not_bit _ j (by omega)]
  · rw [run'_pin_within bus x s bank within] at handed
    revert handed
    rcases (Op.withContext _ (x.writeRegister bus bank.directionRegister _)).run' s with ⟨_ | _, s'⟩
    · rintro ⟨⟩
    · rintro ⟨⟩
      exact ⟨rfl, rfl⟩

end

/-- The expander's copies follow the device. Against any bus whose device at
the expander's address changes its latch and direction registers exactly by
the register writes that go through, whichever transactions go through, find
the bus busy or fail:
* after every sequence of calls from a new expander, with any retry limit, on
  a device at power-on, each copy equals its register;
* a call that fails leaves the expander, and so both copies, as it was;
* driving line `k` of a port writes into its latch the copy with bit `k` at
  the level and the other bits kept;
* making line `k` an output writes into the port's directions the copy with
  bit `k` cleared and the other bits kept;
* a line outside `0..7` is refused with no bus transaction. -/
theorem caches_mirror_device {address : UInt8} (device : RegisterDevice bus view address) :
    (∀ (limit : Int) (s : σ) (calls : List Call), view s = .powerOn →
      (runCalls bus calls (Expander.new address limit, s)).1.cache =
        view (runCalls bus calls (Expander.new address limit, s)).2) ∧
    (∀ (c : Call) (x : Expander) (s : σ) (f : Fault) (st : Expander × σ),
      (c.op bus).run' (x, s) = (.error f, st) → st.1.latch = x.latch ∧ st.1.direction = x.direction) ∧
    (∀ (x : Expander) (s : σ) (bank : Bank) (k : Nat) (level : Bool), x.address = address → k < 8 →
      ∃ v : UInt8, (∀ j, v.toNat.testBit j = if j = k then level else (x.latch.get bank.index).toNat.testBit j) ∧
        WritesThrough view (setPin bus ⟨bank, k⟩ level) x s (.store bank.latchRegister v)) ∧
    (∀ (x : Expander) (s : σ) (bank : Bank) (k : Int), x.address = address → 0 ≤ k ∧ k ≤ 7 →
      ∃ v : UInt8, (∀ j, v.toNat.testBit j = (!decide (j = k.toNat) && (x.direction.get bank.index).toNat.testBit j)) ∧
        WritesThrough view (pin bus bank k) x s (.store bank.directionRegister v) ∧
        ∀ p st, (pin bus bank k).run' (x, s) = (.ok p, st) → p.bank = bank ∧ p.bit = k.toNat) ∧
    (∀ (x : Expander) (s : σ) (bank : Bank) (k : Int), k < 0 ∨ 7 < k →
      (pin bus bank k).run' (x, s) = (.error (.plain ("invalid expander pin " ++ bank.name ++ toString k)), (x, s))) := by
  refine ⟨fun limit s calls powered => ?_, fun c x s f st failed => ?_,
    fun x s bank k level at_device hk => setPin_writes_bit device s bank at_device hk level,
    fun x s bank k at_device within => pin_clears_bit device s bank at_device within,
    fun x s bank k outside => run'_pin_outside bus x s bank outside⟩
  · have start : Mirrors view address (Expander.new address limit, s) := ⟨(cache_new address limit).trans powered.symm, rfl⟩
    exact (Mirrors.runCalls device calls start).cache
  · have kept := c.failureKeeps bus x s f st failed
    rw [kept]
    exact ⟨rfl, rfl⟩

end

/-! ### A chip on its own bus -/

/-- An MCP23017 alone on its bus: a one-byte write selects a register, a
longer write also stores its second byte there, and a read returns the
selected register. Each transaction takes the next scripted outcome, a fault
failing it with no other effect; past the script every transaction goes
through. -/
structure RegisterChip where
  registers : UInt8 → UInt8
  selected : UInt8 := 0
  outcomes : List (Option Fault) := []

namespace RegisterChip

def transact : Op RegisterChip Unit := do
  let c ← get
  set { c with outcomes := c.outcomes.drop 1 }
  if let some f := c.outcomes.headD none then throw f

def bus : I2cBus RegisterChip where
  write _ bytes := do
    transact
    match bytes.toList with
    | [reg] => modify fun c => { c with selected := reg }
    | reg :: value :: _ => modify fun c => { c with selected := reg, registers := Function.update c.registers reg value }
    | [] => pure ()
  read _ n := do
    transact
    let c ← get
    pure ⟨Array.replicate n (c.registers c.selected)⟩
  release := pure ()

def view (c : RegisterChip) : PortRegisters :=
  ⟨fun port => c.registers port.latchRegister, fun port => c.registers port.directionRegister⟩

theorem run'_transact (c : RegisterChip) :
    transact.run' c = (match c.outcomes.headD none with
      | some f => .error f
      | none => .ok (), { c with outcomes := c.outcomes.drop 1 }) := by
  unfold transact
  rw [run'_bind, run'_get]
  dsimp only
  rw [run'_bind, run'_set]
  dsimp only
  cases c.outcomes.headD none <;> rfl

theorem keeps_transact : Keeps view transact := by
  intro c
  rw [run'_transact]
  rfl

theorem keeps_bind_transact {α : Type} {rest : Op RegisterChip α} (keeps : Keeps view rest) :
    Keeps view (transact >>= fun _ => rest) :=
  Keeps.bind keeps_transact fun _ => keeps

theorem view_update (c : RegisterChip) (reg value : UInt8) :
    view { c with selected := reg, registers := Function.update c.registers reg value } = (view c).store reg value := by
  apply PortRegisters.ext' <;> intro port <;> simp [view, PortRegisters.store, Function.update_apply, eq_comm]

/-- The chip is a register device at every address: only a two-byte write
that goes through changes a register. -/
theorem registerDevice (address : UInt8) : RegisterDevice bus view address where
  write_pair reg value c := by
    simp only [bus, ByteArray.toList_mk_toArray]
    rw [run'_bind, run'_transact]
    cases c.outcomes.headD none with
    | some f => rfl
    | none => exact view_update _ reg value
  write_select reg c := by
    simp only [bus, ByteArray.toList_mk_toArray]
    exact keeps_bind_transact (fun _ => rfl) c
  read n c := keeps_bind_transact (Keeps.bind (fun _ => rfl) fun _ => keeps_pure _) c
  release c := rfl

end RegisterChip

/-- A chip at power-on that finds the bus busy on the first transaction and
fails the third: making line 2 of port B an output takes a retry, driving it
fails, and writing port A goes through; the copies still equal the registers. -/
theorem busy_then_failing_chip_mirrors :
    RegisterDevice RegisterChip.bus RegisterChip.view 0x21 ∧
      let chip : RegisterChip := ⟨fun reg => if reg ≤ 1 then 0xFF else 0, 0, [some busBusy, none, some (.plain "nack")]⟩
      let calls : List Call := [.pin .b 2, .setPin ⟨.b, 2⟩ true, .writePort .a 0x0F]
      chip.view = .powerOn ∧
        (runCalls RegisterChip.bus calls (Expander.new 0x21 2, chip)).1.cache =
          (runCalls RegisterChip.bus calls (Expander.new 0x21 2, chip)).2.view := by
  have device := RegisterChip.registerDevice 0x21
  refine ⟨device, ?_⟩
  intro chip calls
  have powered : chip.view = .powerOn := by
    apply PortRegisters.ext' <;> intro port <;> cases port <;> rfl
  exact ⟨powered, (caches_mirror_device device).1 2 chip calls powered⟩

end Acquisition.Expander
