import Mathlib
import Acquisition.Eeprom.I2cMemory
import Acquisition.Proofs.Eeprom.Paging
/-! Chunked reads from a 24Cxx on I2C: against a memory with a 16-bit pointer the chunks read the
memory from the read's address on, the first failure ends the read, and a read past 64 KiB is
refused unless the address wraps. -/

namespace Acquisition.Eeprom

open Acquisition.Op

/-- A transaction on the memory's I2C bus. -/
inductive I2cTransaction where
  | write (device : UInt8) (bytes : List UInt8)
  | read (device : UInt8) (count : Nat)
  deriving DecidableEq, Repr

/-- A 24Cxx memory of 64 KiB: a write of two bytes or more sets its 16-bit
pointer from the first two, and a read returns the bytes from the pointer on
and moves the pointer past them. Each transaction takes the next scripted
outcome, a fault failing it with no other effect; past the script every
transaction goes through. The transactions are recorded in order, failed ones
included. -/
structure PointerChip where
  memory : Nat → UInt8
  pointer : Nat := 0
  outcomes : List (Option Fault) := []
  transactions : List I2cTransaction := []

namespace PointerChip

def passed (c : PointerChip) (t : I2cTransaction) : PointerChip :=
  { c with transactions := c.transactions ++ [t], outcomes := c.outcomes.drop 1 }

def transact (t : I2cTransaction) : Op PointerChip Unit := do
  let c ← get
  set (c.passed t)
  if let some f := c.outcomes.getD 0 none then throw f

def bus : I2cBus PointerChip where
  write device bytes := do
    transact (.write device bytes.toList)
    if 2 ≤ bytes.size then
      modify fun c => { c with pointer := (bytes.toList.getD 0 0).toNat * 256 + (bytes.toList.getD 1 0).toNat }
  read device count := do
    transact (.read device count)
    let c ← get
    set { c with pointer := (c.pointer + count) % 65536 }
    pure ⟨((List.range count).map fun k => c.memory ((c.pointer + k) % 65536)).toArray⟩
  release := pure ()

theorem run'_transact (c : PointerChip) (t : I2cTransaction) :
    (transact t).run' c = (match c.outcomes.getD 0 none with
      | some f => .error f
      | none => .ok (), c.passed t) := by
  unfold transact
  rw [run'_bind, run'_get]
  dsimp only
  rw [run'_bind, run'_set]
  dsimp only
  cases c.outcomes.getD 0 none <;> rfl

section
variable (c : PointerChip) (device : UInt8)

theorem run'_write_pass (hi lo : UInt8) (pass : c.outcomes.getD 0 none = none) :
    (bus.write device ⟨#[hi, lo]⟩).run' c =
      (.ok (), { c.passed (.write device [hi, lo]) with pointer := hi.toNat * 256 + lo.toNat }) := by
  simp only [bus, ByteArray.toList_mk_toArray]
  rw [run'_bind, run'_transact, pass]
  rfl

theorem run'_write_fail (hi lo : UInt8) {f : Fault} (fail : c.outcomes.getD 0 none = some f) :
    (bus.write device ⟨#[hi, lo]⟩).run' c = (.error f, c.passed (.write device [hi, lo])) := by
  simp only [bus, ByteArray.toList_mk_toArray]
  rw [run'_bind, run'_transact, fail]

theorem run'_read_pass (count : Nat) (pass : c.outcomes.getD 0 none = none) :
    (bus.read device count).run' c =
      (.ok ⟨((List.range count).map fun k => c.memory ((c.pointer + k) % 65536)).toArray⟩,
        { c.passed (.read device count) with pointer := (c.pointer + count) % 65536 }) := by
  simp only [bus]
  rw [run'_bind, run'_transact, pass]
  rfl

theorem run'_read_fail (count : Nat) {f : Fault} (fail : c.outcomes.getD 0 none = some f) :
    (bus.read device count).run' c = (.error f, c.passed (.read device count)) := by
  simp only [bus]
  rw [run'_bind, run'_transact, fail]

end

end PointerChip

/-! ### The plan of a read -/

/-- The transactions of the chunk at offset `off` of a read of `length` bytes
from `address`: the pointer set to the chunk's address, high byte first, and
the chunk's bytes read. -/
def chunkTransactions (device : UInt8) (address length off : Nat) : List I2cTransaction :=
  [.write device [((address + off) / 256).toUInt8, (address + off).toUInt8],
    .read device (min i2cChunk (length - off))]

def readPlan (device : UInt8) (address length : Nat) : List I2cTransaction :=
  (chunkOffsets length).flatMap (chunkTransactions device address length)

/-- The context the `i`-th transaction of a read over the chunk offsets `offs`
reports its failure in: the write of a chunk's address, or the read of its
bytes. -/
def failureContext (address : Nat) (offs : List Nat) (i : Nat) : String :=
  (if i % 2 = 0 then "could not set eeprom address " else "could not read eeprom at ") ++
    hexNumber (address + offs.getD (i / 2) 0)

theorem failureContext_cons (address off : Nat) (rest : List Nat) (i : Nat) :
    failureContext address (off :: rest) (i + 2) = failureContext address rest i := by
  simp [failureContext, Nat.add_div_right]

theorem addressBytes_of_toNat {pos : UInt32} {p : Nat} (h : pos.toNat = p) :
    (pos >>> 8).toUInt8 = (p / 256).toUInt8 ∧ pos.toUInt8 = p.toUInt8 := by
  constructor
  · apply UInt8.toNat_inj.mp
    simp [UInt32.toNat_shiftRight, Nat.shiftRight_eq_div_pow, h]
  · apply UInt8.toNat_inj.mp
    simp [h]

theorem pointer_of_addressBytes {p : Nat} (fits : p < 65536) :
    (p / 256).toUInt8.toNat * 256 + p.toUInt8.toNat = p := by
  simp only [Nat.toUInt8_eq, UInt8.toNat_ofNat']
  omega

theorem length_flatMap_chunkTransactions (device : UInt8) (address length : Nat) (offs : List Nat) :
    (offs.flatMap (chunkTransactions device address length)).length = 2 * offs.length := by
  induction offs with
  | nil => rfl
  | cons off rest ih =>
    rw [List.flatMap_cons, List.length_append, ih]
    simp [chunkTransactions]
    omega

def chunkData (memory : Nat → UInt8) (address length off : Nat) : List UInt8 :=
  (List.range (min i2cChunk (length - off))).map fun k => memory (address + (off + k))

theorem chunkData_shift (memory : Nat → UInt8) (address length off : Nat) :
    chunkData memory address length (off + i2cChunk) =
      chunkData memory (address + i2cChunk) (length - i2cChunk) off := by
  have count : length - (off + i2cChunk) = length - i2cChunk - off := by omega
  have shift : ∀ k, address + (off + i2cChunk + k) = address + i2cChunk + (off + k) := by omega
  simp only [chunkData, count, shift]

theorem chunkData_first (memory : Nat → UInt8) (address length : Nat) :
    chunkData memory address length 0 ++
        (List.range (length - i2cChunk)).map (fun k => memory (address + i2cChunk + k)) =
      (List.range length).map fun k => memory (address + k) := by
  rcases Nat.le_total length i2cChunk with short | long
  · simp [chunkData, Nat.min_eq_right short, Nat.sub_eq_zero_of_le short]
  · obtain ⟨rest, rfl⟩ := Nat.exists_eq_add_of_le long
    simp [chunkData, List.range_add, Nat.add_assoc]

theorem flatMap_chunkData_range (memory : Nat → UInt8) (n : Nat) :
    ∀ address length, length ≤ n * i2cChunk →
      (List.range n).flatMap (fun j => chunkData memory address length (j * i2cChunk)) =
        (List.range length).map fun k => memory (address + k) := by
  induction n with
  | zero =>
    intro address length short
    rw [Nat.zero_mul, Nat.le_zero] at short
    rw [short]
    rfl
  | succ n ih =>
    intro address length short
    have tail := ih (address + i2cChunk) (length - i2cChunk) (by rw [Nat.succ_mul] at short; omega)
    rw [List.range_succ_eq_map, List.flatMap_cons, List.flatMap_map, Nat.zero_mul, ← chunkData_first]
    simp only [Nat.succ_mul, chunkData_shift, tail]

/-- The chunks of a read cover its bytes, in order: a chunk of 32 bytes at a
time, the last one shorter. -/
theorem flatMap_chunkData (memory : Nat → UInt8) (address length : Nat) :
    (chunkOffsets length).flatMap (chunkData memory address length) =
      (List.range length).map fun k => memory (address + k) := by
  rw [chunkOffsets, List.flatMap_map]
  exact flatMap_chunkData_range memory _ address length (by unfold i2cChunk; omega)

/-! ### One chunk -/

section
variable (device : UInt8) (a : UInt32) (length off : Nat) (rest : List Nat) (acc : ByteArray)
  (c : PointerChip)

/-- The chip after the chunk at `off` went through: both transactions recorded
and their outcomes taken. -/
def PointerChip.afterChunk : PointerChip :=
  { c with
    pointer := (a.toNat + off + min i2cChunk (length - off)) % 65536
    outcomes := c.outcomes.drop 2
    transactions := c.transactions ++ chunkTransactions device a.toNat length off }

theorem PointerChip.afterChunk_outcome (i : Nat) :
    (c.afterChunk device a length off).outcomes.getD i none = c.outcomes.getD (i + 2) none := by
  simp [PointerChip.afterChunk, Nat.add_comm]

/-- The chunk at `off` sets the pointer to its address, high byte first, and
reads its bytes, each step behind the context of that address. -/
theorem go_cons {σ : Type} (bus : I2cBus σ) (fits : a.toNat + off < 2 ^ 32) :
    i2cRead.go bus device a length (off :: rest) acc = (do
      Op.withContext ("could not set eeprom address " ++ hexNumber (a.toNat + off))
        (bus.write device ⟨#[((a.toNat + off) / 256).toUInt8, (a.toNat + off).toUInt8]⟩)
      let chunk ← Op.withContext ("could not read eeprom at " ++ hexNumber (a.toNat + off))
        (bus.read device (min i2cChunk (length - off)))
      i2cRead.go bus device a length rest (acc ++ chunk)) := by
  have pos : (a + off.toUInt32).toNat = a.toNat + off := toNat_add_toUInt32 a fits
  obtain ⟨hi, lo⟩ := addressBytes_of_toNat pos
  rw [i2cRead.go, hi, lo, pos]

theorem run'_go_cons_pass (inRange : a.toNat + length ≤ 65536) (within : off < length)
    (first : c.outcomes.getD 0 none = none) (second : c.outcomes.getD 1 none = none) :
    (i2cRead.go PointerChip.bus device a length (off :: rest) acc).run' c =
      (i2cRead.go PointerChip.bus device a length rest
        (acc ++ ⟨(chunkData c.memory a.toNat length off).toArray⟩)).run' (c.afterChunk device a length off) := by
  rw [go_cons device a length off rest acc _ (by omega), run'_bind, run'_withContext,
    PointerChip.run'_write_pass _ _ _ _ first]
  dsimp only
  rw [run'_bind, run'_withContext, PointerChip.run'_read_pass]
  · dsimp only [PointerChip.passed]
    rw [pointer_of_addressBytes (by omega)]
    -- the chunk ends within 64 KiB, so the pointer does not wrap while it is read
    have read : ∀ k ∈ List.range (min i2cChunk (length - off)),
        c.memory ((a.toNat + off + k) % 65536) = c.memory (a.toNat + (off + k)) := by
      intro k below
      rw [List.mem_range] at below
      rw [Nat.mod_eq_of_lt (by omega), Nat.add_assoc]
    rw [List.map_congr_left read]
    simp [PointerChip.afterChunk, chunkTransactions, chunkData]
  · simpa [PointerChip.passed] using second

theorem run'_go_cons_write_fail (fits : a.toNat + off < 2 ^ 32) {f : Fault}
    (fail : c.outcomes.getD 0 none = some f) :
    (i2cRead.go PointerChip.bus device a length (off :: rest) acc).run' c =
      (.error (f.context ("could not set eeprom address " ++ hexNumber (a.toNat + off))),
        c.passed (.write device [((a.toNat + off) / 256).toUInt8, (a.toNat + off).toUInt8])) := by
  rw [go_cons device a length off rest acc _ fits, run'_bind, run'_withContext,
    PointerChip.run'_write_fail _ _ _ _ fail]

theorem run'_go_cons_read_fail (inRange : a.toNat + length ≤ 65536) (within : off < length) {f : Fault}
    (first : c.outcomes.getD 0 none = none) (fail : c.outcomes.getD 1 none = some f) :
    (i2cRead.go PointerChip.bus device a length (off :: rest) acc).run' c =
      (.error (f.context ("could not read eeprom at " ++ hexNumber (a.toNat + off))),
        { c.passed (.write device [((a.toNat + off) / 256).toUInt8, (a.toNat + off).toUInt8]) with
          pointer := a.toNat + off }.passed (.read device (min i2cChunk (length - off)))) := by
  rw [go_cons device a length off rest acc _ (by omega), run'_bind, run'_withContext,
    PointerChip.run'_write_pass _ _ _ _ first]
  dsimp only
  rw [pointer_of_addressBytes (by omega), run'_bind, run'_withContext,
    PointerChip.run'_read_fail _ _ _ (by simpa [PointerChip.passed] using fail)]

end

/-! ### A whole read -/

section
variable (device : UInt8) (a : UInt32) (length : Nat) (inRange : a.toNat + length ≤ 65536)
include inRange

/-- When every transaction goes through, the chunks append the memory from each
chunk's address on, and every transaction of the plan is made. -/
theorem run'_go_pass (offs : List Nat) (acc : ByteArray) (c : PointerChip) (within : ∀ off ∈ offs, off < length)
    (passes : ∀ i < 2 * offs.length, c.outcomes.getD i none = none) :
    ((i2cRead.go PointerChip.bus device a length offs acc).run' c).1 =
        .ok ⟨acc.data ++ (offs.flatMap (chunkData c.memory a.toNat length)).toArray⟩ ∧
      ((i2cRead.go PointerChip.bus device a length offs acc).run' c).2.transactions =
        c.transactions ++ offs.flatMap (chunkTransactions device a.toNat length) := by
  -- the chunks go one by one; each takes two outcomes off the script
  induction offs generalizing acc c with
  | nil => simp [i2cRead.go]
  | cons off rest ih =>
    rw [run'_go_cons_pass device a length off rest acc c inRange (within off (.head _))
      (passes 0 (by simp)) (passes 1 (by simp only [List.length_cons]; omega))]
    obtain ⟨data, transactions⟩ := ih (acc ++ ⟨(chunkData c.memory a.toNat length off).toArray⟩)
      (c.afterChunk device a length off) (fun off' member => within off' (.tail _ member))
      (fun i below => by rw [PointerChip.afterChunk_outcome]; exact passes (i + 2) (by simp; omega))
    refine ⟨?_, ?_⟩
    · rw [data]
      simp [PointerChip.afterChunk]
    · rw [transactions]
      simp [PointerChip.afterChunk]

/-- When the `i`-th transaction is the first to fail, the read ends with its
error, behind the context of its chunk, and nothing after it is sent. -/
theorem run'_go_fail (offs : List Nat) (acc : ByteArray) (c : PointerChip) (within : ∀ off ∈ offs, off < length)
    (i : Nat) (f : Fault) (early : i < 2 * offs.length)
    (passes : ∀ j < i, c.outcomes.getD j none = none) (fails : c.outcomes.getD i none = some f) :
    ((i2cRead.go PointerChip.bus device a length offs acc).run' c).1 =
        .error (f.context (failureContext a.toNat offs i)) ∧
      ((i2cRead.go PointerChip.bus device a length offs acc).run' c).2.transactions =
        c.transactions ++ (offs.flatMap (chunkTransactions device a.toNat length)).take (i + 1) := by
  induction offs generalizing acc c i with
  | nil => simp at early
  | cons off rest ih =>
    have first := within off (.head _)
    -- the failing transaction is the chunk's write, its read, or one of a later chunk
    rcases i with _ | _ | i
    · rw [run'_go_cons_write_fail device a length off rest acc c (by omega) fails]
      simp [PointerChip.passed, failureContext, chunkTransactions]
    · rw [run'_go_cons_read_fail device a length off rest acc c inRange first (passes 0 (by omega)) fails]
      simp [PointerChip.passed, failureContext, chunkTransactions]
    · rw [run'_go_cons_pass device a length off rest acc c inRange first (passes 0 (by omega)) (passes 1 (by omega))]
      obtain ⟨data, transactions⟩ := ih (acc ++ ⟨(chunkData c.memory a.toNat length off).toArray⟩)
        (c.afterChunk device a length off) (fun off' member => within off' (.tail _ member)) i
        (by simp at early; omega)
        (fun j below => by rw [PointerChip.afterChunk_outcome]; exact passes (j + 2) (by omega))
        (by rw [PointerChip.afterChunk_outcome]; exact fails)
      refine ⟨?_, ?_⟩
      · rw [data, failureContext_cons]
      · rw [transactions]
        simp [PointerChip.afterChunk, chunkTransactions]

end

theorem chunkOffsets_lt (length : Nat) : ∀ off ∈ chunkOffsets length, off < length := by
  intro off member
  obtain ⟨j, below, rfl⟩ := List.mem_map.1 member
  rw [List.mem_range] at below
  unfold i2cChunk at below ⊢
  omega

theorem i2cRead_refused {σ : Type} (bus : I2cBus σ) (device : UInt8) (a : UInt32) (length : Nat) (s : σ)
    (past : 65536 < (a + length.toUInt32).toNat) :
    (i2cRead bus device a length).run' s = (.error (.plain "read out of range"), s) := by
  simp only [i2cRead, gt_iff_lt, past, if_true]
  rfl

theorem run'_i2cRead {σ : Type} (bus : I2cBus σ) (device : UInt8) (a : UInt32) (length : Nat) (s : σ)
    (within : (a + length.toUInt32).toNat ≤ 65536) :
    (i2cRead bus device a length).run' s =
      (i2cRead.go bus device a length (chunkOffsets length) ByteArray.empty).run' s := by
  simp only [i2cRead, gt_iff_lt, Nat.not_lt.2 within, if_false]

/-- Against a 24Cxx that keeps a 16-bit pointer, a read within the memory sets
the pointer to each chunk's address, high byte first, and reads the chunk from
there, 32 bytes at a time; when every transaction goes through it returns the
memory from the read's address on. When a transaction fails, the read ends
with that transaction's error, behind the context of its chunk, and nothing
after it is sent. A read past 64 KiB is refused before the bus is touched.
This holds for reads that end within the 32-bit address range. -/
theorem chunked_reads_follow_the_pointer (c : PointerChip) (device : UInt8) (a : UInt32) (length : Nat)
    (unwrapped : a.toNat + length < 2 ^ 32) :
    let run := (i2cRead PointerChip.bus device a length).run' c
    let plan := readPlan device a.toNat length
    (65536 < a.toNat + length → run = (.error (.plain "read out of range"), c)) ∧
      (a.toNat + length ≤ 65536 → (∀ i < plan.length, c.outcomes.getD i none = none) →
        run.1 = .ok ⟨((List.range length).map fun k => c.memory (a.toNat + k)).toArray⟩ ∧
          run.2.transactions = c.transactions ++ plan) ∧
      (a.toNat + length ≤ 65536 → ∀ i f, i < plan.length → (∀ j < i, c.outcomes.getD j none = none) →
        c.outcomes.getD i none = some f →
        run.1 = .error (f.context (failureContext a.toNat (chunkOffsets length) i)) ∧
          run.2.transactions = c.transactions ++ plan.take (i + 1)) := by
  intro run plan
  have total : (a + length.toUInt32).toNat = a.toNat + length := toNat_add_toUInt32 a unwrapped
  have planLength : plan.length = 2 * (chunkOffsets length).length :=
    length_flatMap_chunkTransactions device a.toNat length _
  refine ⟨fun past => i2cRead_refused _ _ _ _ _ (total ▸ past), fun inRange passes => ?_,
    fun inRange i f early passes fails => ?_⟩
  · rw [show run = _ from run'_i2cRead PointerChip.bus device a length c (total ▸ inRange)]
    obtain ⟨data, transactions⟩ := run'_go_pass device a length inRange (chunkOffsets length) ByteArray.empty c
      (chunkOffsets_lt length) (planLength ▸ passes)
    refine ⟨?_, transactions⟩
    rw [data, flatMap_chunkData]
    simp
  · rw [show run = _ from run'_i2cRead PointerChip.bus device a length c (total ▸ inRange)]
    exact run'_go_fail device a length inRange (chunkOffsets length) ByteArray.empty c (chunkOffsets_lt length)
      i f (planLength ▸ early) passes fails

theorem three_chunk_read :
    let c : PointerChip := { memory := fun x => x.toUInt8 }
    let run := (i2cRead PointerChip.bus 0x50 10 70).run' c
    (10 : UInt32).toNat + 70 < 2 ^ 32 ∧
      run.1 = .ok ⟨((List.range 70).map fun k => (10 + k).toUInt8).toArray⟩ ∧
      run.2.transactions = [.write 0x50 [0, 10], .read 0x50 32, .write 0x50 [0, 42], .read 0x50 32,
        .write 0x50 [0, 74], .read 0x50 6] := by
  intro c run
  have plan : readPlan 0x50 (10 : UInt32).toNat 70 = [.write 0x50 [0, 10], .read 0x50 32,
      .write 0x50 [0, 42], .read 0x50 32, .write 0x50 [0, 74], .read 0x50 6] := by decide
  obtain ⟨-, passes, -⟩ := chunked_reads_follow_the_pointer c 0x50 10 70 (by decide)
  obtain ⟨data, transactions⟩ := passes (by decide) (fun i _ => by simp [c])
  exact ⟨by decide, data, by rw [transactions, plan]; rfl⟩

/-- At the top of the 32-bit address range the range check wraps: a read of two
bytes from `0xFFFFFFFF` is not refused, and reads the last byte of the memory
and its first. -/
theorem wrapped_read_passes_range_check :
    let c : PointerChip := { memory := fun _ => 0 }
    let run := (i2cRead PointerChip.bus 0x50 0xFFFFFFFF 2).run' c
    65536 < (0xFFFFFFFF : UInt32).toNat + 2 ∧ run.1 = .ok ⟨#[0, 0]⟩ ∧
      run.2.transactions = [.write 0x50 [0xFF, 0xFF], .read 0x50 2] := by
  intro c run
  have offsets : chunkOffsets 2 = [0] := rfl
  have ran : run = (.ok ⟨#[0, 0]⟩, { c with
      pointer := 1
      transactions := [I2cTransaction.write 0x50 [0xFF, 0xFF], I2cTransaction.read 0x50 2] }) := by
    rw [show run = _ from run'_i2cRead PointerChip.bus 0x50 0xFFFFFFFF 2 c (by decide), offsets, i2cRead.go, run'_bind, run'_withContext,
      PointerChip.run'_write_pass _ _ _ _ rfl]
    dsimp only
    rw [run'_bind, run'_withContext, PointerChip.run'_read_pass _ _ _ rfl]
    simp [i2cRead.go, PointerChip.passed, c, i2cChunk]
    decide
  rw [ran]
  exact ⟨by decide, rfl, rfl⟩

end Acquisition.Eeprom
