import Mathlib
import Acquisition.Bridge
import Acquisition.Sim.Hid
import Acquisition.Proofs.Effect
import Acquisition.Proofs.Eeprom.Header
/-! The framing of the USB bridge's I2C transfers: the reports each transfer sends, read off
equations that take it apart into exchanges, and the result it gives, from any state. -/
namespace Acquisition

namespace ReportDevice

variable {σ : Type}

/-- The device with a record, kept beside its state, of every report sent. A
report is recorded as it is handed to the device, also when sending fails. -/
def recorded (dev : ReportDevice σ) : ReportDevice (σ × List ByteArray) where
  send report := do
    modify fun p => (p.1, p.2 ++ [report])
    Op.focus Prod.fst (fun p s => (s, p.2)) (dev.send report)
  receive := Op.focus Prod.fst (fun p s => (s, p.2)) dev.receive
  close := Op.focus Prod.fst (fun p s => (s, p.2)) dev.close

end ReportDevice

namespace Bridge

open Acquisition.Op

variable {σ : Type}

/-- An exchange that went through from state `s` to `s'`: the device took the
whole request, then gave a whole response echoing the request's command. -/
structure Exchanged (dev : ReportDevice σ) (request : ByteArray) (s : σ) (response : ByteArray) (s' : σ) :
    Prop where
  sent : ∃ s₁, (dev.send request).run' s = (.ok reportSize, s₁) ∧ dev.receive.run' s₁ = (.ok response, s')
  full : response.size = reportSize
  echo : byteAt response 0 = byteAt request 0

/-- An exchange, step by step: the send, its count, the receive, the
response's size and its echo. -/
theorem run'_exchange (dev : ReportDevice σ) (request : ByteArray) (s : σ) :
    (exchange dev request).run' s =
      match (dev.send request).run' s with
      | (.error f, s₁) => (.error (f.context "could not write request"), s₁)
      | (.ok n, s₁) =>
        if n ≠ reportSize then (.error (.plain ("short write: " ++ toString n)), s₁) else
        match dev.receive.run' s₁ with
        | (.error f, s₂) => (.error (f.context "could not read response"), s₂)
        | (.ok response, s₂) =>
          if response.size ≠ reportSize then (.error (.plain ("short read: " ++ toString response.size)), s₂)
          else if byteAt response 0 ≠ byteAt request 0 then
            (.error (unsupported (byteAt request 0) (byteAt response 0)), s₂)
          else (.ok response, s₂) := by
  simp only [exchange, run'_bind, run'_withContext]
  rcases (dev.send request).run' s with ⟨f | n, s₁⟩
  · rfl
  · by_cases short : n = reportSize
    · simp only [short, bne_self_eq_false, Bool.false_eq_true, if_false, ne_eq, not_true_eq_false, run'_bind,
        run'_withContext]
      rcases dev.receive.run' s₁ with ⟨f | response, s₂⟩
      · rfl
      · by_cases full : response.size = reportSize <;> by_cases echo : byteAt response 0 = byteAt request 0 <;>
          simp [full, echo]
    · simp [short]

theorem exchange_ok_iff (dev : ReportDevice σ) (request : ByteArray) (s : σ) (response : ByteArray) (s' : σ) :
    (exchange dev request).run' s = (.ok response, s') ↔ Exchanged dev request s response s' := by
  rw [run'_exchange]
  constructor
  · intro ran
    split at ran
    · cases ran
    · rename_i n s₁ sending
      split at ran
      · cases ran
      · rename_i counted
        split at ran
        · cases ran
        · rename_i r s₂ receiving
          split at ran
          · cases ran
          · split at ran
            · cases ran
            · rename_i full echo
              cases ran
              exact ⟨⟨s₁, by rw [sending, not_not.1 counted], receiving⟩, not_not.1 full, not_not.1 echo⟩
  · rintro ⟨⟨s₁, sent, received⟩, full, echo⟩
    simp [sent, received, full, echo]

@[simp] theorem recorded_send (dev : ReportDevice σ) (report : ByteArray) (s : σ) (log : List ByteArray) :
    (dev.recorded.send report).run' (s, log) = (((dev.send report).run' s).1, ((dev.send report).run' s).2, log ++ [report]) := by
  simp [ReportDevice.recorded, run'_bind]

@[simp] theorem recorded_receive (dev : ReportDevice σ) (s : σ) (log : List ByteArray) :
    dev.recorded.receive.run' (s, log) = ((dev.receive.run' s).1, (dev.receive.run' s).2, log) := rfl

theorem exchange_recorded (dev : ReportDevice σ) (request : ByteArray) (s : σ) (log : List ByteArray) :
    (exchange dev.recorded request).run' (s, log) =
      (((exchange dev request).run' s).1, ((exchange dev request).run' s).2, log ++ [request]) := by
  rw [run'_exchange, run'_exchange, recorded_send]
  rcases (dev.send request).run' s with ⟨f | n, s₁⟩
  · rfl
  · dsimp only
    split
    · rfl
    · rw [recorded_receive]
      rcases dev.receive.run' s₁ with ⟨f | response, s₂⟩
      · rfl
      · dsimp only
        split
        · rfl
        · split <;> rfl

def writeRequest (address : UInt8) (data : ByteArray) : ByteArray :=
  report ([0x90, data.size.toUInt8, (data.size / 256).toUInt8, address <<< 1] ++ data.toList)

def readRequest (address : UInt8) (n : Nat) : ByteArray :=
  report [0x91, n.toUInt8, (n / 256).toUInt8, (address <<< 1) + 1]

def fetchRequest : ByteArray := report [0x40]

/-- What a read gives for the response to its fetch: the engine's error, a
size byte that is not the count asked for, or the bytes after the header. -/
def fetched (n : Nat) (response : ByteArray) : Except Fault ByteArray :=
  if byteAt response 1 = 0x41 then .error (.plain "error reading the I2C slave data from the I2C engine")
  else if byteAt response 3 = 127 ∨ (byteAt response 3).toNat ≠ n then
    .error (.plain ("invalid data size byte; expected " ++ toString n ++ ", got " ++
      toString (byteAt response 3).toNat))
  else .ok ⟨((response.toList.drop 4).take n).toArray⟩

variable (dev : ReportDevice σ) (address : UInt8) (s : σ)

theorem writeTo_eq {data : ByteArray} (fits : data.size ≤ maxTransfer) :
    writeTo dev address data = (do
      let response ← Op.withContext ("write to " ++ shortHex address ++ " failed")
        (exchange dev (writeRequest address data))
      if byteAt response 1 == 0x01 then throw busBusy) := by
  rw [writeTo, if_neg (Nat.not_lt.2 fits)]
  rfl

theorem run'_writeTo {data : ByteArray} (fits : data.size ≤ maxTransfer) :
    (writeTo dev address data).run' s =
      match (exchange dev (writeRequest address data)).run' s with
      | (.ok response, s') => (if byteAt response 1 = 0x01 then .error busBusy else .ok (), s')
      | (.error f, s') => (.error (f.context ("write to " ++ shortHex address ++ " failed")), s') := by
  rw [writeTo_eq dev address fits, run'_bind, run'_withContext]
  rcases (exchange dev (writeRequest address data)).run' s with ⟨f | response, s'⟩
  · rfl
  · by_cases busy : byteAt response 1 = 0x01 <;> simp [busy]

theorem run'_writeTo_oversized {data : ByteArray} (big : maxTransfer < data.size) :
    (writeTo dev address data).run' s =
      (.error (.plain ("write to " ++ shortHex address ++ ": " ++ toString data.size ++
        " bytes exceed a single transfer")), s) := by
  simp [writeTo, big]

theorem readFrom_eq {n : Nat} (fits : n ≤ maxTransfer) :
    readFrom dev address n = (do
      let asked ← Op.withContext ("bus read from " ++ shortHex address ++ " failed")
        (exchange dev (readRequest address n))
      if byteAt asked 1 == 0x01 then throw busBusy
      let answer ← Op.withContext "error getting read data from adapter" (exchange dev fetchRequest)
      if byteAt answer 1 == 0x41 then
        throw (.plain "error reading the I2C slave data from the I2C engine")
      if byteAt answer 3 == 127 || (byteAt answer 3).toNat != n then
        throw (.plain ("invalid data size byte; expected " ++ toString n ++ ", got " ++
          toString (byteAt answer 3).toNat))
      pure ⟨((answer.toList.drop 4).take n).toArray⟩) := by
  rw [readFrom, if_neg (Nat.not_lt.2 fits)]
  rfl

theorem run'_readFrom {n : Nat} (fits : n ≤ maxTransfer) :
    (readFrom dev address n).run' s =
      match (exchange dev (readRequest address n)).run' s with
      | (.error f, s₁) => (.error (f.context ("bus read from " ++ shortHex address ++ " failed")), s₁)
      | (.ok asked, s₁) =>
        if byteAt asked 1 = 0x01 then (.error busBusy, s₁) else
        match (exchange dev fetchRequest).run' s₁ with
        | (.error f, s₂) => (.error (f.context "error getting read data from adapter"), s₂)
        | (.ok answer, s₂) => (fetched n answer, s₂) := by
  rw [readFrom_eq dev address fits, run'_bind, run'_withContext]
  rcases (exchange dev (readRequest address n)).run' s with ⟨f | asked, s₁⟩
  · rfl
  · by_cases busy : byteAt asked 1 = 0x01
    · simp [busy]
    · simp only [busy, beq_iff_eq, if_false, run'_bind, run'_withContext]
      rcases (exchange dev fetchRequest).run' s₁ with ⟨f | answer, s₂⟩
      · rfl
      · by_cases engine : byteAt answer 1 = 0x41
        · simp [engine, fetched]
        · by_cases size : byteAt answer 3 = 127 ∨ (byteAt answer 3).toNat ≠ n
          · simp [engine, size, fetched]
          · simp only [not_or, not_not] at size
            simp [engine, size, fetched]

theorem run'_readFrom_oversized {n : Nat} (big : maxTransfer < n) :
    (readFrom dev address n).run' s =
      (.error (.plain ("read from " ++ shortHex address ++ ": " ++ toString n ++
        " bytes exceed a single transfer")), s) := by
  simp [readFrom, big]

/-! ### The reports -/

theorem size_report (front : List UInt8) : (report front).size = reportSize := by
  simp only [report, ByteArray.size, List.size_toArray, List.length_append, List.length_take,
    List.length_replicate]
  omega

theorem toList_report (front : List UInt8) :
    (report front).toList = front.take reportSize ++ List.replicate (reportSize - front.length) 0 := by
  simp [report, ByteArray.toList_eq_data]

theorem toNat_shifted {address : UInt8} (seven : address < 128) : (address <<< 1).toNat = 2 * address.toNat := by
  have : address.toNat < 128 := seven
  simp [UInt8.toNat_shiftLeft]
  omega

/-- A write's report: the command, the length in two bytes, least
significant first, the address shifted left, the data and zeros. -/
theorem writeRequest_bytes {address : UInt8} (seven : address < 128) {data : ByteArray}
    (fits : data.size ≤ maxTransfer) :
    (writeRequest address data).toList.map UInt8.toNat =
      [0x90, data.size % 256, data.size / 256, 2 * address.toNat] ++ data.toList.map UInt8.toNat ++
        List.replicate (maxTransfer - data.size) 0 := by
  have within : data.size < 256 := by unfold maxTransfer at fits; omega
  have length : ([0x90, data.size.toUInt8, (data.size / 256).toUInt8, address <<< 1] ++ data.toList).length =
      data.size + 4 := by
    simp [ByteArray.length_toList]
  rw [writeRequest, toList_report, List.take_of_length_le (by rw [length]; unfold reportSize maxTransfer at *; omega),
    length]
  simp [toNat_shifted seven, Nat.mod_eq_of_lt within, Nat.div_eq_of_lt within, reportSize, maxTransfer]

/-- A read's request: the command, the count in two bytes, least significant
first, and the address shifted left with the read bit set. -/
theorem readRequest_bytes {address : UInt8} (seven : address < 128) {n : Nat} (fits : n ≤ maxTransfer) :
    (readRequest address n).toList.map UInt8.toNat =
      [0x91, n % 256, n / 256, 2 * address.toNat + 1] ++ List.replicate maxTransfer 0 := by
  have within : n < 256 := by unfold maxTransfer at fits; omega
  have odd : ((address <<< 1) + 1).toNat = 2 * address.toNat + 1 := by
    have : address.toNat < 128 := seven
    rw [UInt8.toNat_add, toNat_shifted seven]
    simp only [UInt8.toNat_one]
    omega
  simp [readRequest, toList_report, odd, Nat.mod_eq_of_lt within, Nat.div_eq_of_lt within, reportSize,
    maxTransfer]

theorem fetchRequest_bytes : fetchRequest.toList.map UInt8.toNat = 0x40 :: List.replicate (reportSize - 1) 0 := by
  simp [fetchRequest, toList_report, reportSize]

/-! ### What a transfer sends and returns -/

theorem writeTo_recorded {data : ByteArray} (fits : data.size ≤ maxTransfer) (log : List ByteArray) :
    (writeTo dev.recorded address data).run' (s, log) =
      (((writeTo dev address data).run' s).1, ((writeTo dev address data).run' s).2,
        log ++ [writeRequest address data]) := by
  rw [run'_writeTo dev.recorded address (s, log) fits, exchange_recorded, run'_writeTo dev address s fits]
  rcases (exchange dev (writeRequest address data)).run' s with ⟨f | response, s'⟩ <;> rfl

/-- A read that fits sends its request, and the fetch only once the request
went through and the engine was not busy. -/
theorem readFrom_recorded {n : Nat} (fits : n ≤ maxTransfer) (log : List ByteArray) :
    ∃ sent, (readFrom dev.recorded address n).run' (s, log) =
        (((readFrom dev address n).run' s).1, ((readFrom dev address n).run' s).2, log ++ sent) ∧
      sent <+: [readRequest address n, fetchRequest] ∧ sent ≠ [] ∧
      (sent.length = 2 ↔ ∃ asked s₁, Exchanged dev (readRequest address n) s asked s₁ ∧ byteAt asked 1 ≠ 0x01) := by
  rw [run'_readFrom dev.recorded address (s, log) fits, exchange_recorded, run'_readFrom dev address s fits]
  rcases asking : (exchange dev (readRequest address n)).run' s with ⟨f | asked, s₁⟩
  · refine ⟨[readRequest address n], rfl, by simp, by simp, iff_of_false (by simp) ?_⟩
    rintro ⟨asked, s₁', exchanged, -⟩
    rw [← exchange_ok_iff, asking] at exchanged
    cases exchanged
  · by_cases busy : byteAt asked 1 = 0x01
    · refine ⟨[readRequest address n], by simp [busy], by simp, by simp, iff_of_false (by simp) ?_⟩
      rintro ⟨asked', s₁', exchanged, free⟩
      rw [← exchange_ok_iff, asking] at exchanged
      cases exchanged
      exact free busy
    · refine ⟨[readRequest address n, fetchRequest], ?_, List.prefix_refl _, by simp,
        iff_of_true rfl ⟨asked, s₁, (exchange_ok_iff dev _ s asked s₁).1 asking, busy⟩⟩
      simp only [busy, if_false, exchange_recorded, List.append_assoc, List.singleton_append]
      rcases (exchange dev fetchRequest).run' s₁ with ⟨f | answer, s₂⟩ <;> rfl

/-- A write succeeds exactly when its exchange went through and the engine
was not busy. -/
theorem writeTo_ok_iff {data : ByteArray} (fits : data.size ≤ maxTransfer) :
    ((writeTo dev address data).run' s).1 = .ok () ↔
      ∃ response s', Exchanged dev (writeRequest address data) s response s' ∧ byteAt response 1 ≠ 0x01 := by
  rw [run'_writeTo dev address s fits]
  simp only [← exchange_ok_iff]
  rcases (exchange dev (writeRequest address data)).run' s with ⟨f | response, s'⟩
  · simp
  · by_cases busy : byteAt response 1 = 0x01 <;> simp [busy]

theorem writeTo_busy {data : ByteArray} (fits : data.size ≤ maxTransfer) {response : ByteArray} {s' : σ}
    (exchanged : Exchanged dev (writeRequest address data) s response s') (busy : byteAt response 1 = 0x01) :
    (writeTo dev address data).run' s = (.error busBusy, s') := by
  rw [run'_writeTo dev address s fits, (exchange_ok_iff dev _ s response s').2 exchanged]
  simp [busy]

/-- The bytes of a fetched report are handed out exactly when the engine did
not fail and the size byte is the count asked for. -/
theorem fetched_ok_iff (n : Nat) (answer bytes : ByteArray) :
    fetched n answer = .ok bytes ↔ byteAt answer 1 ≠ 0x41 ∧ byteAt answer 3 ≠ 127 ∧
      (byteAt answer 3).toNat = n ∧ bytes.toList = (answer.toList.drop 4).take n := by
  unfold fetched
  by_cases engine : byteAt answer 1 = 0x41
  · simp [engine]
  · by_cases size : byteAt answer 3 = 127 ∨ (byteAt answer 3).toNat ≠ n
    · simp only [engine, size, if_false, if_true, reduceCtorEq, false_iff]
      tauto
    · simp only [not_or, not_not] at size
      have same : (⟨((answer.toList.drop 4).take n).toArray⟩ : ByteArray) = bytes ↔
          bytes.toList = (answer.toList.drop 4).take n := by
        cases bytes
        simp only [ByteArray.toList_eq_data, ByteArray.mk.injEq, eq_comm, ← Array.toList_inj]
      simp [engine, size, same]

/-- A read succeeds exactly when both exchanges went through, the engine was
neither busy nor failed, and the size byte is the count asked for; it returns
the bytes after the fetched report's header. -/
theorem readFrom_ok_iff {n : Nat} (fits : n ≤ maxTransfer) (bytes : ByteArray) :
    ((readFrom dev address n).run' s).1 = .ok bytes ↔
      ∃ asked s₁ answer s₂, Exchanged dev (readRequest address n) s asked s₁ ∧ byteAt asked 1 ≠ 0x01 ∧
        Exchanged dev fetchRequest s₁ answer s₂ ∧ byteAt answer 1 ≠ 0x41 ∧ byteAt answer 3 ≠ 127 ∧
        (byteAt answer 3).toNat = n ∧ bytes.toList = (answer.toList.drop 4).take n := by
  rw [run'_readFrom dev address s fits]
  simp only [← exchange_ok_iff]
  rcases asking : (exchange dev (readRequest address n)).run' s with ⟨f | asked, s₁⟩
  · simp
  · by_cases busy : byteAt asked 1 = 0x01
    · simp [busy]
    · simp only [busy, if_false]
      rcases fetching : (exchange dev fetchRequest).run' s₁ with ⟨f | answer, s₂⟩
      · simp [fetching]
      · simp only [fetched_ok_iff, Prod.mk.injEq, Except.ok.injEq]
        constructor
        · rintro ⟨engine, size, count, taken⟩
          exact ⟨asked, s₁, answer, s₂, ⟨rfl, rfl⟩, busy, fetching, engine, size, count, taken⟩
        · rintro ⟨_, _, answer', s₂', ⟨rfl, rfl⟩, -, fetched', engine, size, count, taken⟩
          rw [fetching, Prod.mk.injEq, Except.ok.injEq] at fetched'
          obtain ⟨rfl, rfl⟩ := fetched'
          exact ⟨engine, size, count, taken⟩

theorem readFrom_busy {n : Nat} (fits : n ≤ maxTransfer) {asked : ByteArray} {s₁ : σ}
    (exchanged : Exchanged dev (readRequest address n) s asked s₁) (busy : byteAt asked 1 = 0x01) :
    (readFrom dev address n).run' s = (.error busBusy, s₁) := by
  rw [run'_readFrom dev address s fits, (exchange_ok_iff dev _ s asked s₁).2 exchanged]
  simp [busy]

/-! ### Framed transfers: one report per write, two per read -/

/-- What a write of `data`, at most a report's payload, to `address` does from
state `s`: it sends exactly one report, the write request of 64 bytes: the
command 0x90, the length in two bytes, least significant first, the address
shifted left, the data and zeros. It succeeds exactly when that exchange went
through and the status byte is not 0x01; a status byte of 0x01 is the busy
error. -/
structure WriteFramed (dev : ReportDevice σ) (address : UInt8) (data : ByteArray) (s : σ) : Prop where
  sends : ∀ log, (writeTo dev.recorded address data).run' (s, log) =
    (((writeTo dev address data).run' s).1, ((writeTo dev address data).run' s).2, log ++ [writeRequest address data])
  size : (writeRequest address data).size = reportSize
  bytes : (writeRequest address data).toList.map UInt8.toNat =
    [0x90, data.size % 256, data.size / 256, 2 * address.toNat] ++ data.toList.map UInt8.toNat ++
      List.replicate (maxTransfer - data.size) 0
  succeeds : ((writeTo dev address data).run' s).1 = .ok () ↔
    ∃ response s', Exchanged dev (writeRequest address data) s response s' ∧ byteAt response 1 ≠ 0x01
  busy : ∀ response s', Exchanged dev (writeRequest address data) s response s' → byteAt response 1 = 0x01 →
    (writeTo dev address data).run' s = (.error busBusy, s')

/-- What a read of `n` bytes, at most a report's payload, from `address` does
from state `s`: it sends the request (command 0x91, the count in two bytes,
least significant first, the address shifted left with the read bit set,
zeros) and then, exactly when that exchange went through and the engine was
not busy, the fetch (command 0x40, zeros). It succeeds exactly when both
exchanges went through, the first status byte is not 0x01, the second is not
0x41 and the size byte is `n` and not 127; it then returns the `n` bytes after
the fetched report's header, and otherwise returns no bytes. A first status
byte of 0x01 is the busy error. -/
structure ReadFramed (dev : ReportDevice σ) (address : UInt8) (n : Nat) (s : σ) : Prop where
  sends : ∀ log, ∃ sent, (readFrom dev.recorded address n).run' (s, log) =
      (((readFrom dev address n).run' s).1, ((readFrom dev address n).run' s).2, log ++ sent) ∧
    sent <+: [readRequest address n, fetchRequest] ∧ sent ≠ [] ∧
    (sent.length = 2 ↔ ∃ asked s₁, Exchanged dev (readRequest address n) s asked s₁ ∧ byteAt asked 1 ≠ 0x01)
  sizes : (readRequest address n).size = reportSize ∧ fetchRequest.size = reportSize
  request_bytes : (readRequest address n).toList.map UInt8.toNat =
    [0x91, n % 256, n / 256, 2 * address.toNat + 1] ++ List.replicate maxTransfer 0
  fetch_bytes : fetchRequest.toList.map UInt8.toNat = 0x40 :: List.replicate (reportSize - 1) 0
  succeeds : ∀ bytes, ((readFrom dev address n).run' s).1 = .ok bytes ↔
    ∃ asked s₁ answer s₂, Exchanged dev (readRequest address n) s asked s₁ ∧ byteAt asked 1 ≠ 0x01 ∧
      Exchanged dev fetchRequest s₁ answer s₂ ∧ byteAt answer 1 ≠ 0x41 ∧ byteAt answer 3 ≠ 127 ∧
      (byteAt answer 3).toNat = n ∧ bytes.toList = (answer.toList.drop 4).take n
  busy : ∀ asked s₁, Exchanged dev (readRequest address n) s asked s₁ → byteAt asked 1 = 0x01 →
    (readFrom dev address n).run' s = (.error busBusy, s₁)

theorem writeFramed {address : UInt8} (seven : address < 128) {data : ByteArray} (fits : data.size ≤ maxTransfer) :
    WriteFramed dev address data s :=
  ⟨writeTo_recorded dev address s fits, size_report _, writeRequest_bytes seven fits, writeTo_ok_iff dev address s fits,
    fun _ _ exchanged busy => writeTo_busy dev address s fits exchanged busy⟩

theorem readFramed {address : UInt8} (seven : address < 128) {n : Nat} (fits : n ≤ maxTransfer) :
    ReadFramed dev address n s :=
  ⟨readFrom_recorded dev address s fits, ⟨size_report _, size_report _⟩, readRequest_bytes seven fits,
    fetchRequest_bytes, readFrom_ok_iff dev address s fits,
    fun _ _ exchanged busy => readFrom_busy dev address s fits exchanged busy⟩

end Bridge

namespace BridgeLine

variable {σ : Type}

open Acquisition.Op

/-- After a Set, the line its caller holds reads back the level set when the
write went through, and the level it had otherwise. -/
theorem readback_after_set (dev : ReportDevice σ) (p : BridgeLine) (level : Bool) (s : σ) :
    let held := match ((p.set dev level).run' s).1 with
      | .ok q => q
      | .error _ => p
    held.line = p.line ∧
      held.level = match ((Bridge.writeLine dev p.line level).run' s).1 with
        | .ok () => level
        | .error _ => p.level := by
  simp only [set, run'_bind]
  rcases (Bridge.writeLine dev p.line level).run' s with ⟨f | ⟨⟩, s'⟩ <;> simp

end BridgeLine

namespace Bridge

variable {σ : Type}

/-- The framing of the bridge's I2C transfers. For every 7-bit address and
state: a write of at most 60 bytes sends exactly one 64-byte report
`[0x90, length, 0, address << 1, data, zeros]` and succeeds exactly when the
device takes and returns whole reports, the answer echoes the command and its
status byte is not 0x01, which is the busy error; a read of at most 60 bytes
sends `[0x91, count, 0, address << 1 | 1, zeros]` and then, only when that
went through and was not busy, `[0x40, zeros]`, and succeeds exactly when
both answers are whole, echo their commands, are neither busy nor an engine
failure and carry the count as size byte, returning exactly the bytes 4 to
`4 + count` of the second answer. Longer transfers are refused before any
report is sent. Every report and result is given by the transfer's own
arguments and the device's answers to it, from any state, so nothing of an
earlier exchange reaches them. A line's readback is the level of its last Set
that went through. -/
theorem bridge_transfers_are_framed (dev : ReportDevice σ) (address : UInt8) (seven : address < 128) (s : σ) :
    (∀ data : ByteArray, data.size ≤ maxTransfer → WriteFramed dev address data s) ∧
    (∀ n, n ≤ maxTransfer → ReadFramed dev address n s) ∧
    (∀ (data : ByteArray) (log : List ByteArray), maxTransfer < data.size →
      (writeTo dev.recorded address data).run' (s, log) =
        (.error (.plain ("write to " ++ shortHex address ++ ": " ++ toString data.size ++
          " bytes exceed a single transfer")), s, log)) ∧
    (∀ n (log : List ByteArray), maxTransfer < n →
      (readFrom dev.recorded address n).run' (s, log) =
        (.error (.plain ("read from " ++ shortHex address ++ ": " ++ toString n ++
          " bytes exceed a single transfer")), s, log)) ∧
    (∀ (p : BridgeLine) (level : Bool),
      let held := match ((p.set dev level).run' s).1 with
        | .ok q => q
        | .error _ => p
      held.line = p.line ∧
        held.level = match ((writeLine dev p.line level).run' s).1 with
          | .ok () => level
          | .error _ => p.level) :=
  ⟨fun _ fits => writeFramed dev s seven fits, fun _ fits => readFramed dev s seven fits,
    fun _ log big => run'_writeTo_oversized dev.recorded address (s, log) big,
    fun _ log big => run'_readFrom_oversized dev.recorded address (s, log) big,
    fun p level => BridgeLine.readback_after_set dev p level s⟩

/-- The framing at the identification memory's address, over the simulated
bridge as it starts. -/
theorem eeprom_address_transfers_are_framed :
    (0x50 : UInt8) < 128 ∧
    (∀ data : ByteArray, data.size ≤ maxTransfer → WriteFramed Sim.hidDevice 0x50 data {}) ∧
    (∀ n, n ≤ maxTransfer → ReadFramed Sim.hidDevice 0x50 n {}) ∧
    (∀ (data : ByteArray) (log : List ByteArray), maxTransfer < data.size →
      (writeTo Sim.hidDevice.recorded 0x50 data).run' ({}, log) =
        (.error (.plain ("write to " ++ shortHex 0x50 ++ ": " ++ toString data.size ++
          " bytes exceed a single transfer")), {}, log)) ∧
    (∀ n (log : List ByteArray), maxTransfer < n →
      (readFrom Sim.hidDevice.recorded 0x50 n).run' ({}, log) =
        (.error (.plain ("read from " ++ shortHex 0x50 ++ ": " ++ toString n ++
          " bytes exceed a single transfer")), {}, log)) ∧
    (∀ (p : BridgeLine) (level : Bool),
      let held := match ((p.set Sim.hidDevice level).run' {}).1 with
        | .ok q => q
        | .error _ => p
      held.line = p.line ∧
        held.level = match ((writeLine Sim.hidDevice p.line level).run' {}).1 with
          | .ok () => level
          | .error _ => p.level) :=
  ⟨by decide, bridge_transfers_are_framed Sim.hidDevice 0x50 (by decide) {}⟩

end Bridge

end Acquisition
