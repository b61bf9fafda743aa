import Mathlib
import Acquisition.Eeprom.SpiMemory
import Acquisition.Proofs.Eeprom.Header
/-! Paged writes to a 25AA1024: against the chip its datasheet describes, a write lands at its
address and nothing else changes, a read returns the memory, and both are refused past the end
unless the address wraps. -/

namespace Acquisition.Eeprom

open Op

/-! ### The chunks of a write -/

/-- `chunks` lay `data` out from `address` on: joined in order they give the
data, each starts where the bytes before it end, each is non-empty and within
one page, and each ends at a page's end or at the end of the data. -/
structure Paged (address : Nat) (data : List UInt8) (chunks : List (Nat × List UInt8)) : Prop where
  joined : chunks.flatMap Prod.snd = data
  starts : ∀ i c, chunks[i]? = some c → c.1 = address + ((chunks.take i).flatMap Prod.snd).length
  within : ∀ c ∈ chunks, c.2 ≠ [] ∧ c.1 / pageSize = (c.1 + c.2.length - 1) / pageSize
  ends : ∀ c ∈ chunks, (c.1 + c.2.length) % pageSize = 0 ∨ c.1 + c.2.length = address + data.length

theorem Paged.nil (address : Nat) : Paged address [] [] where
  joined := rfl
  starts := by simp
  within := by simp
  ends := by simp

theorem Paged.cons {address : Nat} {data chunk : List UInt8} {rest : List (Nat × List UInt8)}
    (nonempty : chunk ≠ []) (front : chunk <+: data) (inPage : address % pageSize + chunk.length ≤ pageSize)
    (full : (address + chunk.length) % pageSize = 0 ∨ chunk = data)
    (paged : Paged (address + chunk.length) (data.drop chunk.length) rest) :
    Paged address data ((address, chunk) :: rest) := by
  have shorter : chunk.length ≤ data.length := front.length_le
  have page : pageSize = 256 := rfl
  refine ⟨?_, ?_, ?_, ?_⟩
  · rw [List.flatMap_cons, paged.joined]
    exact List.prefix_iff_eq_append.1 front
  · intro i c found
    cases i with
    | zero =>
      cases found
      simp
    | succ i =>
      rw [paged.starts i c found, List.take_succ_cons, List.flatMap_cons, List.length_append]
      dsimp only
      omega
  · rintro c (_ | ⟨_, later⟩)
    · have := List.length_pos_iff.2 nonempty
      rw [page] at inPage ⊢
      exact ⟨nonempty, by dsimp only; omega⟩
    · exact paged.within c later
  · rintro c (_ | ⟨_, later⟩)
    · rcases full with boundary | whole
      · exact .inl boundary
      · exact .inr (by rw [whole])
    · rcases paged.ends c later with boundary | last
      · exact .inl boundary
      · rw [List.length_drop] at last
        exact .inr (by omega)

theorem pageChunks_paged (address : Nat) (data : List UInt8) : Paged address data (pageChunks address data) := by
  fun_induction pageChunks address data with
  | case1 address => exact Paged.nil address
  | case2 address b rest space chunk ih =>
    have room : 0 < space := by
      have : address % pageSize < pageSize := Nat.mod_lt _ (by decide)
      omega
    have length : chunk.length = min space (rest.length + 1) := by simp [chunk]
    refine Paged.cons ?_ (List.take_prefix _ _) (by omega) ?_ ?_
    · simp only [chunk, ne_eq, List.take_eq_nil_iff, reduceCtorEq, or_false]
      omega
    · by_cases fits : rest.length + 1 ≤ space
      · exact .inr (List.take_of_length_le fits)
      · left
        rw [length, Nat.min_eq_left (by omega)]
        have : address % pageSize < pageSize := Nat.mod_lt _ (by decide)
        simp only [space, pageSize] at this ⊢
        omega
    · have dropped : (b :: rest).drop chunk.length = (b :: rest).drop space := by
        rw [length]
        rcases le_total space (rest.length + 1) with short | long
        · rw [Nat.min_eq_left short]
        · rw [Nat.min_eq_right long, List.drop_eq_nil_of_le (by simp),
            List.drop_eq_nil_of_le (by simpa using long)]
      rw [dropped]
      exact ih

theorem Paged.bounds {address : Nat} {data : List UInt8} {chunks : List (Nat × List UInt8)}
    (paged : Paged address data chunks) {c : Nat × List UInt8} (member : c ∈ chunks) :
    address ≤ c.1 ∧ c.1 + c.2.length ≤ address + data.length := by
  obtain ⟨i, found⟩ := List.mem_iff_getElem?.1 member
  have before : (chunks.take (i + 1)).flatMap Prod.snd = (chunks.take i).flatMap Prod.snd ++ c.2 := by
    rw [List.take_add_one, found, List.flatMap_append]
    simp
  have whole : ((chunks.take (i + 1)).flatMap Prod.snd).length + ((chunks.drop (i + 1)).flatMap Prod.snd).length =
      data.length := by
    rw [← List.length_append, ← List.flatMap_append, List.take_append_drop, paged.joined]
  rw [before, List.length_append] at whole
  rw [paged.starts i c found]
  omega

/-! ### The chip -/

/-- A transfer on the memory's SPI bus: bytes written, or a command written
and then `count` bytes read back. -/
inductive SpiTransfer where
  | write (bytes : List UInt8)
  | read (command : List UInt8) (count : Nat)
  deriving DecidableEq, Repr

/-- A 25AA1024 as its datasheet describes it: 128 KiB addressed by the low 17
bits of a 24-bit address. A write goes through the page buffer, so past the end
of its page it goes on at the page's start; it needs the write-enable latch
and starts a write cycle that lasts `cycle` status polls, while which only the
status register answers. The transfers are recorded in order. -/
structure PagedChip where
  memory : Nat → UInt8
  cycle : Nat
  enabled : Bool := false
  busy : Nat := 0
  transfers : List SpiTransfer := []

namespace PagedChip

def address (command : List UInt8) : Nat :=
  ((command.getD 1 0).toNat * 65536 + (command.getD 2 0).toNat * 256 + (command.getD 3 0).toNat) % spiCapacity

def nextInPage (a : Nat) : Nat := a - a % pageSize + (a + 1) % pageSize

def program (memory : Nat → UInt8) (a : Nat) : List UInt8 → Nat → UInt8
  | [] => memory
  | b :: rest => program (Function.update memory a b) (nextInPage a) rest

def status (c : PagedChip) : UInt8 := (if c.busy = 0 then 0 else 1) ||| (if c.enabled then 2 else 0)

/-- A status poll's time of the write cycle passes; the latch resets as the cycle ends. -/
def tick (c : PagedChip) : PagedChip :=
  match c.busy with
  | 0 => c
  | 1 => { c with busy := 0, enabled := false }
  | n + 2 => { c with busy := n + 1 }

/-- The chip's answer to a transfer and its state after it. -/
def respond (c : PagedChip) : SpiTransfer → List UInt8 × PagedChip
  | .write bytes =>
    if c.busy ≠ 0 then ([], c)
    else if bytes = [commandWriteEnable] then ([], { c with enabled := true })
    else if bytes.headD 0 = commandWrite ∧ 4 ≤ bytes.length ∧ c.enabled = true then
      ([], { c with memory := program c.memory (address bytes) (bytes.drop 4), busy := c.cycle,
                    enabled := decide (c.cycle ≠ 0) })
    else ([], c)
  | .read command count =>
    if command = [commandStatus] then (List.replicate count c.status, c.tick)
    else if c.busy = 0 ∧ command.headD 0 = commandRead ∧ command.length = 4 then
      ((List.range count).map fun k => c.memory ((address command + k) % spiCapacity), c)
    else (List.replicate count 0, c)

/-- The chip on the bus: each transfer is recorded and answered. -/
def commands : SpiCommands PagedChip where
  readAfter command count := do
    let c ← get
    set { (c.respond (.read command.toList count)).2 with
      transfers := c.transfers ++ [SpiTransfer.read command.toList count] }
    pure ⟨(c.respond (.read command.toList count)).1.toArray⟩
  writeBytes bytes := modify fun c =>
    { (c.respond (.write bytes.toList)).2 with transfers := c.transfers ++ [.write bytes.toList] }

theorem run'_readAfter (c : PagedChip) (command : ByteArray) (count : Nat) :
    (commands.readAfter command count).run' c =
      (.ok ⟨(c.respond (.read command.toList count)).1.toArray⟩,
        { (c.respond (.read command.toList count)).2 with
          transfers := c.transfers ++ [.read command.toList count] }) := rfl

theorem run'_writeBytes (c : PagedChip) (bytes : ByteArray) :
    (commands.writeBytes bytes).run' c =
      (.ok (), { (c.respond (.write bytes.toList)).2 with transfers := c.transfers ++ [.write bytes.toList] }) := rfl

theorem status_wip (c : PagedChip) : (c.status &&& 1 == 0) = (c.busy == 0) := by
  by_cases idle : c.busy = 0 <;> cases h : c.enabled <;> simp [status, idle, h] <;> decide

/-- Waiting on a write cycle with `c.busy` polls to go takes `c.busy + 1`
status reads, the last one clear; the latch is spent if a cycle ran. -/
theorem run'_waitUntilReady (c : PagedChip) {polls : Nat} (quick : c.busy < polls) :
    (waitUntilReady commands polls).run' c =
      (.ok (), { c with busy := 0, enabled := c.enabled && c.busy == 0,
                        transfers := c.transfers ++ List.replicate (c.busy + 1) (SpiTransfer.read [commandStatus] 1) }) := by
  induction polls generalizing c with
  | zero => omega
  | succ polls ih =>
    have command : (⟨#[commandStatus]⟩ : ByteArray).toList = [commandStatus] := by
      rw [ByteArray.toList_eq_data]
    rw [waitUntilReady, run'_bind, run'_withContext, run'_readAfter, command]
    simp only [respond, if_true, ByteArray.toList_eq_data, List.replicate_one, List.headD_cons, status_wip]
    obtain ⟨memory, cycle, enabled, busy, transfers⟩ := c
    rcases busy with _ | _ | n
    · -- the cycle is over: the first read finds it clear
      simp [tick]
    · -- the last poll of the cycle resets the latch
      rw [if_neg (by simp), ih _ (by simp [tick] at quick ⊢; omega)]
      simp [tick, List.replicate_succ]
    · rw [if_neg (by simp), ih _ (by simp [tick] at quick ⊢; omega)]
      simp [tick, List.replicate_succ]

theorem address_bytes (command : UInt8) (p : Nat) (rest : List UInt8) :
    address (command :: [(p / 65536).toUInt8, (p / 256).toUInt8, p.toUInt8] ++ rest) = p % spiCapacity := by
  simp only [address, List.cons_append, List.getD_cons_succ, List.getD_cons_zero, Nat.toUInt8_eq,
    UInt8.toNat_ofNat', spiCapacity]
  omega

theorem respond_enable (c : PagedChip) (idle : c.busy = 0) :
    c.respond (.write [commandWriteEnable]) = ([], { c with enabled := true }) := by
  simp [respond, idle]

theorem respond_write (c : PagedChip) (idle : c.busy = 0) (enabled : c.enabled = true) (p : Nat)
    (chunk : List UInt8) :
    c.respond (.write ([commandWrite, (p / 65536).toUInt8, (p / 256).toUInt8, p.toUInt8] ++ chunk)) =
      ([], { c with memory := program c.memory (p % spiCapacity) chunk, busy := c.cycle,
                    enabled := decide (c.cycle ≠ 0) }) := by
  have command := address_bytes commandWrite p chunk
  simp only [List.cons_append, List.nil_append, Nat.toUInt8_eq, commandWrite] at command
  simp [respond, idle, enabled, command, commandWrite, commandWriteEnable]

theorem respond_read (c : PagedChip) (idle : c.busy = 0) (p count : Nat) :
    c.respond (.read [commandRead, (p / 65536).toUInt8, (p / 256).toUInt8, p.toUInt8] count) =
      ((List.range count).map fun k => c.memory ((p % spiCapacity + k) % spiCapacity), c) := by
  have command := address_bytes commandRead p []
  simp only [List.append_nil, Nat.toUInt8_eq, commandRead] at command
  simp [respond, idle, command, commandRead, commandStatus]

/-- The transfers of a page write of `chunk` at `p`: the write enable, the
write command with the address, and status polls until the cycle is over. -/
def pageTransfers (cycle p : Nat) (chunk : List UInt8) : List SpiTransfer :=
  [.write [commandWriteEnable], .write ([commandWrite, (p / 65536).toUInt8, (p / 256).toUInt8, p.toUInt8] ++ chunk)] ++
    List.replicate (cycle + 1) (.read [commandStatus] 1)

def afterPage (c : PagedChip) (p : Nat) (chunk : List UInt8) : PagedChip :=
  { c with memory := program c.memory (p % spiCapacity) chunk, enabled := false,
           transfers := c.transfers ++ pageTransfers c.cycle p chunk }

theorem addressBytes_toUInt32 (p : Nat) :
    addressBytes p.toUInt32 = [(p / 65536).toUInt8, (p / 256).toUInt8, p.toUInt8] := by
  simp only [addressBytes, List.cons.injEq, and_true]
  refine ⟨?_, ?_, ?_⟩ <;> apply UInt8.toNat_inj.1 <;> simp [Nat.shiftRight_eq_div_pow] <;> omega

/-- A page write to an idle chip whose cycle fits the write window enables,
writes through the page buffer and waits out the cycle. -/
theorem run'_pageWrite (c : PagedChip) (idle : c.busy = 0) (quick : c.cycle < statusPolls) (p : Nat)
    (chunk : List UInt8) : (pageWrite commands p.toUInt32 chunk).run' c = (.ok (), c.afterPage p chunk) := by
  have enable : (⟨#[commandWriteEnable]⟩ : ByteArray).toList = [commandWriteEnable] := by
    rw [ByteArray.toList_eq_data]
  have write : (⟨(commandWrite :: addressBytes p.toUInt32 ++ chunk).toArray⟩ : ByteArray).toList =
      commandWrite :: [(p / 65536).toUInt8, (p / 256).toUInt8, p.toUInt8] ++ chunk := by
    rw [ByteArray.toList_eq_data, addressBytes_toUInt32]
  rw [pageWrite, run'_bind, run'_withContext, run'_writeBytes, enable, respond_enable c idle]
  dsimp only
  rw [run'_bind, run'_writeBytes, write, respond_write]
  · dsimp only
    rw [run'_waitUntilReady _ (by simpa using quick)]
    simp [afterPage, pageTransfers, List.replicate_succ, idle]
  · exact idle
  · rfl

def overlay (memory : Nat → UInt8) (p : Nat) (data : List UInt8) (x : Nat) : UInt8 :=
  if p ≤ x ∧ x < p + data.length then data.getD (x - p) 0 else memory x

theorem overlay_nil (memory : Nat → UInt8) (p : Nat) : overlay memory p [] = memory := by
  funext x
  simp [overlay]

theorem overlay_append (memory : Nat → UInt8) (p : Nat) (front back : List UInt8) :
    overlay (overlay memory p front) (p + front.length) back = overlay memory p (front ++ back) := by
  funext x
  unfold overlay
  by_cases before : p + front.length ≤ x
  · by_cases inside : x < p + front.length + back.length
    · rw [if_pos ⟨before, inside⟩, if_pos ⟨by omega, by simp; omega⟩, List.getD_append_right _ _ _ _ (by omega)]
      congr 1
      omega
    · rw [if_neg (by omega), if_neg (by omega), if_neg (by simp; omega)]
  · rw [if_neg (by omega)]
    by_cases after : p ≤ x
    · rw [if_pos ⟨after, by omega⟩, if_pos ⟨after, by simp; omega⟩, List.getD_append _ _ _ _ (by omega)]
    · rw [if_neg (by omega), if_neg (by omega)]

theorem program_eq_overlay (memory : Nat → UInt8) (p : Nat) (data : List UInt8)
    (inPage : p % pageSize + data.length ≤ pageSize) : program memory p data = overlay memory p data := by
  induction data generalizing memory p with
  | nil => rw [program, overlay_nil]
  | cons b rest ih =>
    have page : pageSize = 256 := rfl
    simp only [page, List.length_cons] at inPage
    have single : Function.update memory p b = overlay memory p [b] := by
      funext x
      by_cases here : x = p
      · simp [overlay, here]
      · rw [Function.update_of_ne here, overlay, if_neg (by simp; omega)]
    have joined := overlay_append memory p [b] rest
    rw [List.length_singleton, List.singleton_append, ← single] at joined
    rw [program, ← joined]
    by_cases last : rest = []
    · subst last
      rw [program, overlay_nil]
    · have next : nextInPage p = p + 1 := by
        have := List.length_pos_iff.2 last
        simp only [nextInPage, page]
        omega
      rw [next, ih _ _ (by rw [page]; omega)]

/-- The page writes of a write's chunks, one after another, lay the data over
the memory and record each chunk's transfers in order. -/
theorem foldl_afterPage (c : PagedChip) (a : Nat) (data : List UInt8) (inRange : a + data.length ≤ spiCapacity) :
    let c' := (pageChunks a data).foldl (fun s x => s.afterPage x.1 x.2) c
    c'.memory = overlay c.memory a data ∧
      c'.transfers = c.transfers ++ (pageChunks a data).flatMap (fun x => pageTransfers c.cycle x.1 x.2) ∧
      c'.busy = c.busy ∧ c'.cycle = c.cycle := by
  fun_induction pageChunks a data generalizing c with
  | case1 a => simp [overlay_nil]
  | case2 a b rest space chunk ih =>
    have room : a % pageSize < pageSize := Nat.mod_lt _ (by decide)
    have length : chunk.length = min space (rest.length + 1) := by simp [chunk]
    simp only [List.length_cons] at inRange
    have inPage : a % pageSize + chunk.length ≤ pageSize := by omega
    have below : a < spiCapacity := by omega
    obtain ⟨memory, transfers, busy, cycle⟩ :=
      ih (c.afterPage a chunk) (by simp only [List.length_drop, List.length_cons]; omega)
    rw [List.foldl_cons]
    refine ⟨?_, ?_, busy, cycle⟩
    · rw [memory, afterPage, Nat.mod_eq_of_lt below, program_eq_overlay _ _ _ inPage, overlay_append,
        List.take_append_drop]
    · rw [transfers]
      simp [afterPage]

end PagedChip

theorem toNat_add_toUInt32 (a : UInt32) {n : Nat} (fits : a.toNat + n < 2 ^ 32) :
    (a + n.toUInt32).toNat = a.toNat + n := by
  rw [UInt32.toNat_add, Nat.toUInt32_eq, UInt32.toNat_ofNat', Nat.mod_eq_of_lt (show n < 2 ^ 32 by omega),
    Nat.mod_eq_of_lt fits]

theorem spiWrite_refused {σ : Type} (conn : SpiConnection σ) (a : UInt32) (data : ByteArray) (s : σ)
    (past : spiCapacity < (a + data.size.toUInt32).toNat) :
    (spiWrite conn a data).run' s = (.error (.plain "write out of range"), s) := by
  simp only [spiWrite, gt_iff_lt, past, if_true]
  rfl

theorem spiRead_refused {σ : Type} (conn : SpiConnection σ) (a : UInt32) (count : Nat) (s : σ)
    (past : spiCapacity < (a + count.toUInt32).toNat) :
    (spiRead conn a count).run' s = (.error (.plain "read out of range"), s) := by
  simp only [spiRead, gt_iff_lt, past, if_true]
  rfl

theorem run'_spiRead (c : PagedChip) (idle : c.busy = 0) (a : UInt32) (count : Nat)
    (within : (a + count.toUInt32).toNat ≤ spiCapacity) :
    (spiRead (.ok PagedChip.commands) a count).run' c =
      (.ok ⟨((List.range count).map fun k => c.memory ((a.toNat % spiCapacity + k) % spiCapacity)).toArray⟩,
        { c with transfers := c.transfers ++
          [.read [commandRead, (a.toNat / 65536).toUInt8, (a.toNat / 256).toUInt8, a.toNat.toUInt8] count] }) := by
  have command : (⟨(commandRead :: addressBytes a).toArray⟩ : ByteArray).toList =
      [commandRead, (a.toNat / 65536).toUInt8, (a.toNat / 256).toUInt8, a.toNat.toUInt8] := by
    rw [ByteArray.toList_eq_data, ← PagedChip.addressBytes_toUInt32, Nat.toUInt32_eq, UInt32.ofNat_toNat]
  simp only [spiRead, gt_iff_lt, Nat.not_lt.2 within, if_false]
  rw [run'_bind, run'_ofExcept]
  dsimp only
  rw [run'_withContext, PagedChip.run'_readAfter, command, PagedChip.respond_read c idle]

theorem run'_spiWrite (c : PagedChip) (idle : c.busy = 0) (quick : c.cycle < statusPolls) (a : UInt32)
    (data : ByteArray) (within : (a + data.size.toUInt32).toNat ≤ spiCapacity) :
    (spiWrite (.ok PagedChip.commands) a data).run' c =
      (.ok (), (pageChunks a.toNat data.toList).foldl (fun s x => s.afterPage x.1 x.2) c) := by
  simp only [spiWrite, gt_iff_lt, Nat.not_lt.2 within, if_false]
  rw [run'_bind, run'_ofExcept]
  dsimp only
  rw [run'_bind, Op.run'_forIn_yield _ _ (fun s x => s.afterPage x.1 x.2) (fun s => s.busy = 0 ∧ s.cycle = c.cycle)
    _ _ ⟨idle, rfl⟩]
  · rfl
  · rintro ⟨p, chunk⟩ - s ⟨busy, cycle⟩
    rw [run'_bind, run'_withContext, PagedChip.run'_pageWrite s busy (cycle ▸ quick)]
    exact ⟨rfl, busy, cycle⟩

/-- A write within the chip succeeds and leaves it idle: its transfers are the
page writes of chunks that lay the data out, and the memory holds the data at
its address and is unchanged elsewhere. -/
theorem spiWrite_lands (c : PagedChip) (idle : c.busy = 0) (quick : c.cycle < statusPolls) (a : UInt32)
    (data : ByteArray) (unwrapped : a.toNat + data.size < 2 ^ 32) (within : a.toNat + data.size ≤ spiCapacity) :
    let write := (spiWrite (.ok PagedChip.commands) a data).run' c
    write.1 = .ok () ∧ write.2.busy = 0 ∧
      (∃ chunks, Paged a.toNat data.toList chunks ∧
        write.2.transfers = c.transfers ++ chunks.flatMap (fun x => PagedChip.pageTransfers c.cycle x.1 x.2)) ∧
      ∀ x, write.2.memory x =
        if a.toNat ≤ x ∧ x < a.toNat + data.size then data.toList.getD (x - a.toNat) 0 else c.memory x := by
  intro write
  have ran : write = _ := run'_spiWrite c idle quick a data (toNat_add_toUInt32 a unwrapped ▸ within)
  obtain ⟨memory, transfers, busy, -⟩ :=
    PagedChip.foldl_afterPage c a.toNat data.toList (by rw [ByteArray.length_toList]; exact within)
  refine ⟨by rw [ran], by rw [ran, busy, idle], ⟨_, pageChunks_paged _ _, by rw [ran, transfers]⟩, fun x => ?_⟩
  rw [ran, memory, PagedChip.overlay, ByteArray.length_toList]

/-- A read within the chip returns the memory from its address on, with one
read command. -/
theorem spiRead_returns (c : PagedChip) (idle : c.busy = 0) (a : UInt32) (count : Nat)
    (unwrapped : a.toNat + count < 2 ^ 32) (within : a.toNat + count ≤ spiCapacity) :
    (spiRead (.ok PagedChip.commands) a count).run' c =
      (.ok ⟨((List.range count).map fun k => c.memory (a.toNat + k)).toArray⟩,
        { c with transfers := c.transfers ++
          [.read [commandRead, (a.toNat / 65536).toUInt8, (a.toNat / 256).toUInt8, a.toNat.toUInt8] count] }) := by
  rw [run'_spiRead c idle a count (toNat_add_toUInt32 a unwrapped ▸ within)]
  congr 4
  refine List.map_congr_left fun k member => ?_
  rw [List.mem_range] at member
  -- the read stays below the chip's end, so neither address wraps
  have below : a.toNat < spiCapacity := by omega
  rw [Nat.mod_eq_of_lt below, Nat.mod_eq_of_lt (by omega)]

/-- Against a 25AA1024 that is idle and ends a write cycle within the write
window, a write within the chip is cut into chunks that lay the data out page
by page; each chunk is written after a write enable, with its address, and
waited for by status polls until the cycle is over; afterwards the memory
holds the data at its address and is unchanged elsewhere. A write or a read
past the end of the chip is refused with no transfer, and a read within it
returns the memory from its address on. This holds for requests that end
within the 32-bit address range. -/
theorem paged_writes_land_in_memory (c : PagedChip) (idle : c.busy = 0) (quick : c.cycle < statusPolls)
    (a : UInt32) (data : ByteArray) (count : Nat)
    (unwrapped : a.toNat + data.size < 2 ^ 32) (unwrappedRead : a.toNat + count < 2 ^ 32) :
    let write := (spiWrite (.ok PagedChip.commands) a data).run' c
    let read := (spiRead (.ok PagedChip.commands) a count).run' c
    (write = (.error (.plain "write out of range"), c) ↔ spiCapacity < a.toNat + data.size) ∧
      (a.toNat + data.size ≤ spiCapacity → write.1 = .ok () ∧ write.2.busy = 0 ∧
        (∃ chunks, Paged a.toNat data.toList chunks ∧
          write.2.transfers = c.transfers ++ chunks.flatMap (fun x => PagedChip.pageTransfers c.cycle x.1 x.2)) ∧
        ∀ x, write.2.memory x =
          if a.toNat ≤ x ∧ x < a.toNat + data.size then data.toList.getD (x - a.toNat) 0 else c.memory x) ∧
      (read = (.error (.plain "read out of range"), c) ↔ spiCapacity < a.toNat + count) ∧
      (a.toNat + count ≤ spiCapacity → read =
        (.ok ⟨((List.range count).map fun k => c.memory (a.toNat + k)).toArray⟩,
          { c with transfers := c.transfers ++
            [.read [commandRead, (a.toNat / 65536).toUInt8, (a.toNat / 256).toUInt8, a.toNat.toUInt8] count] })) := by
  intro write read
  have sizeEq := toNat_add_toUInt32 a unwrapped
  have countEq := toNat_add_toUInt32 a unwrappedRead
  refine ⟨⟨fun refused => ?_, fun past => spiWrite_refused _ _ _ _ (sizeEq ▸ past)⟩,
    spiWrite_lands c idle quick a data unwrapped,
    ⟨fun refused => ?_, fun past => spiRead_refused _ _ _ _ (countEq ▸ past)⟩,
    spiRead_returns c idle a count unwrappedRead⟩
  -- within the chip neither request fails, so a refusal means it reached past the end
  · by_contra inside
    have accepted : write.1 = .ok () := (spiWrite_lands c idle quick a data unwrapped (Nat.le_of_not_lt inside)).1
    rw [refused] at accepted
    cases accepted
  · by_contra inside
    have accepted : read = _ := spiRead_returns c idle a count unwrappedRead (Nat.le_of_not_lt inside)
    rw [refused] at accepted
    cases accepted

/-- Ten bytes written at 250, across a page boundary, on a chip whose write
cycle lasts two polls, and a read of four bytes at the same address. -/
theorem straddling_write_lands_in_memory :
    let c : PagedChip := { memory := fun _ => 0, cycle := 2 }
    let data := (List.replicate 10 7).toByteArray
    let write := (spiWrite (.ok PagedChip.commands) 250 data).run' c
    let read := (spiRead (.ok PagedChip.commands) 250 4).run' c
    c.busy = 0 ∧ c.cycle < statusPolls ∧ (250 : UInt32).toNat + data.size < 2 ^ 32 ∧
      (250 : UInt32).toNat + 4 < 2 ^ 32 ∧
      (write = (.error (.plain "write out of range"), c) ↔ spiCapacity < (250 : UInt32).toNat + data.size) ∧
      ((250 : UInt32).toNat + data.size ≤ spiCapacity → write.1 = .ok () ∧ write.2.busy = 0 ∧
        (∃ chunks, Paged (250 : UInt32).toNat data.toList chunks ∧
          write.2.transfers = c.transfers ++ chunks.flatMap (fun x => PagedChip.pageTransfers c.cycle x.1 x.2)) ∧
        ∀ x, write.2.memory x = if (250 : UInt32).toNat ≤ x ∧ x < (250 : UInt32).toNat + data.size then
          data.toList.getD (x - (250 : UInt32).toNat) 0 else c.memory x) ∧
      (read = (.error (.plain "read out of range"), c) ↔ spiCapacity < (250 : UInt32).toNat + 4) ∧
      ((250 : UInt32).toNat + 4 ≤ spiCapacity → read =
        (.ok ⟨((List.range 4).map fun k => c.memory ((250 : UInt32).toNat + k)).toArray⟩,
          { c with transfers := c.transfers ++
            [.read [commandRead, ((250 : UInt32).toNat / 65536).toUInt8, ((250 : UInt32).toNat / 256).toUInt8,
              (250 : UInt32).toNat.toUInt8] 4] })) := by
  intro c data write read
  have size : (250 : UInt32).toNat + data.size < 2 ^ 32 := by
    rw [List.size_toByteArray, List.length_replicate]
    decide
  exact ⟨rfl, by decide, size, by decide, paged_writes_land_in_memory c rfl (by decide) 250 data 4 size (by decide)⟩

/-- At the top of the 32-bit range the range check wraps: a one-byte write at
`2^32 - 1` reaches past the end of the chip, yet it passes the check, is
written, and lands at the chip's last address. -/
theorem wrapped_write_passes_range_check :
    let c : PagedChip := { memory := fun _ => 0, cycle := 0 }
    let write := (spiWrite (.ok PagedChip.commands) 0xFFFFFFFF [0xAA].toByteArray).run' c
    spiCapacity < (0xFFFFFFFF : UInt32).toNat + [0xAA].toByteArray.size ∧ write.1 = .ok () ∧
      write.2.transfers =
        [.write [commandWriteEnable], .write [commandWrite, 0xFF, 0xFF, 0xFF, 0xAA], .read [commandStatus] 1] ∧
      write.2.memory 0x1FFFF = 0xAA := by
  intro c write
  have ran : write = _ := run'_spiWrite c rfl (by decide) 0xFFFFFFFF [0xAA].toByteArray (by decide)
  have chunks : pageChunks (0xFFFFFFFF : UInt32).toNat [0xAA].toByteArray.toList = [(0xFFFFFFFF, [0xAA])] := by
    rw [ByteArray.toList_eq_data, List.toList_data_toByteArray, pageChunks]
    simp [pageSize, pageChunks]
  rw [ran, chunks]
  refine ⟨by decide, rfl, by simp [PagedChip.afterPage, PagedChip.pageTransfers, c], ?_⟩
  simp [PagedChip.afterPage, PagedChip.program, c, spiCapacity]

end Acquisition.Eeprom
