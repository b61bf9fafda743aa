import Mathlib
import Acquisition.Sample.Stream
import Acquisition.Proofs.Effect
import Acquisition.Proofs.Sample.Batches
/-! Reading calibrated batches: each channel has one sample per frame the sampler gave, calibrated,
a failing sampler fails the read, and only the sampler's state changes. -/

namespace Acquisition

open Op

theorem Calibration.channel_batchOf (c : Calibration) (frames : List Frame) (ch : Fin 4) (k : Nat) :
    ((c.batchOf frames).channel ch)[k]? = frames[k]?.map fun f => c.apply ch (f.get ch) := by
  simp [Calibration.batchOf, Batch.channel]

theorem Calibration.channel_batchOf_size (c : Calibration) (frames : List Frame) (ch : Fin 4) :
    ((c.batchOf frames).channel ch).size = frames.length := by
  simp [Calibration.batchOf, Batch.channel]

namespace Reader

variable {σ : Type}

theorem run'_read (ops : Sampler σ) (r : Reader σ) :
    (read ops).run' r = match (ops.readFrames r.chunk).run' r.sampler with
      | (.ok frames, s) => (.ok (r.calibration.batchOf frames), { r with sampler := s })
      | (.error f, s) => (.error (f.context "could not read frames"), { r with sampler := s }) := by
  simp only [read, run'_bind, run'_get, run'_withContext, onSampler, run'_focus]
  rcases (ops.readFrames r.chunk).run' r.sampler with ⟨_ | _, s⟩ <;> rfl

end Reader

namespace StreamParts

variable {σ : Type} (p : StreamParts σ)

/-- What a stream runs to read `n` frames: the wait for the data-ready line,
when there is one, then a transfer of as many zero bytes as `n` frames take. -/
def transfer (n : Nat) : Op σ ByteArray := do
  if let some ready := p.ready then awaitReady ready p.readyPolls
  Op.withContext "spi transfer failed" (p.transport.exchange ⟨Array.replicate (n * frameBytes) 0⟩)

theorem readFrames_eq {n : Nat} (positive : 0 < n) :
    p.sampler.readFrames n = (fun rx => framesOfBytes rx n) <$> p.transfer n := by
  have nonzero : (n == 0) = false := by simpa using Nat.pos_iff_ne_zero.mp positive
  simp only [sampler, nonzero, transfer, Bool.false_eq_true, if_false]
  cases ready : p.ready with
  | none => simp only [bind_pure_comp]
  | some line => simp only [map_bind, bind_pure_comp]

theorem length_framesOfBytes (bytes : ByteArray) (n : Nat) : (framesOfBytes bytes n).length = n := by
  simp [framesOfBytes]

theorem word_toNat (hi lo : UInt8) : (hi.toUInt16 <<< 8 ||| lo.toUInt16).toNat = hi.toNat * 256 + lo.toNat := by
  have small : hi.toNat <<< 8 < 2 ^ 16 := by
    rw [Nat.shiftLeft_eq]
    have := hi.toNat_lt
    omega
  rw [UInt16.toNat_or, UInt16.toNat_shiftLeft, UInt8.toNat_toUInt16, UInt8.toNat_toUInt16,
    show (8 : UInt16).toNat % 16 = 8 from rfl, Nat.mod_eq_of_lt small,
    ← Nat.shiftLeft_add_eq_or_of_lt (by simpa using lo.toNat_lt), Nat.shiftLeft_eq]

/-- Frame `k` of received bytes holds, for input `ch`, the big-endian word at
byte `8k + 2ch`. -/
theorem framesOfBytes_getElem? (bytes : ByteArray) (n k : Nat) (ch : Fin 4) :
    (framesOfBytes bytes n)[k]?.map (·.get ch) =
      if k < n then some (UInt16.ofNat ((bytes.get! (8 * k + 2 * ch)).toNat * 256 + (bytes.get! (8 * k + 2 * ch + 1)).toNat))
      else none := by
  have word : ∀ hi lo : UInt8, hi.toUInt16 <<< 8 ||| lo.toUInt16 = UInt16.ofNat (hi.toNat * 256 + lo.toNat) := by
    intro hi lo
    apply UInt16.toNat_inj.mp
    rw [word_toNat, UInt16.toNat_ofNat', Nat.mod_eq_of_lt (by have := hi.toNat_lt; have := lo.toNat_lt; omega)]
  have offset : k * frameBytes = 8 * k := by simp [frameBytes, sensorCount, Nat.mul_comm]
  by_cases inside : k < n
  · simp [framesOfBytes, inside, word, offset]
  · simp [framesOfBytes, inside]

end StreamParts

/-- A read returns the calibrated frames. From any reader, with any sampler:
when the sampler gives frames for the chunk it is asked for, the read returns a
batch whose channel `ch` holds at place `k` the calibrated reading of input
`ch` of frame `k`, and nothing past the last frame; when the sampler fails, the
read fails with its error behind "could not read frames". Either way only the
sampler's state changes. A reader made with chunk size `c` over a stream asks
for `c` frames, 32 when `c < 1`; when the stream's transfer receives the bytes
`R`, place `k` of channel `ch` holds, for each of those frames and only for
them, the calibrated big-endian word of bytes `8k + 2ch` and `8k + 2ch + 1`. -/
theorem reads_calibrate_frames {σ : Type} :
    (∀ (ops : Sampler σ) (r : Reader σ),
      match (ops.readFrames r.chunk).run' r.sampler, (Reader.read ops).run' r with
      | (.ok frames, s), (.ok b, r') => r' = { r with sampler := s } ∧
          ∀ ch : Fin 4, (b.channel ch).size = frames.length ∧
            ∀ k : Nat, (b.channel ch)[k]? = frames[k]?.map fun f => r.calibration.apply ch (f.get ch)
      | (.error f, s), (.error g, r') => g = f.context "could not read frames" ∧ r' = { r with sampler := s }
      | _, _ => False) ∧
    (∀ (p : StreamParts σ) (s : σ) (c : Int) (cal : Calibration) (armed : Bool),
      let n := if c < 1 then defaultChunkSize else c.toNat
      match (p.transfer n).run' s, (Reader.read p.sampler).run' { Reader.new s c with calibration := cal, armed } with
      | (.ok bytes, s'), (.ok b, r') => r' = { Reader.new s' c with calibration := cal, armed } ∧
          ∀ ch : Fin 4, (b.channel ch).size = n ∧ ∀ k : Nat, (b.channel ch)[k]? =
            if k < n then
              some (cal.apply ch (UInt16.ofNat ((bytes.get! (8 * k + 2 * ch)).toNat * 256 +
                (bytes.get! (8 * k + 2 * ch + 1)).toNat)))
            else none
      | (.error f, s'), (.error g, r') =>
        g = f.context "could not read frames" ∧ r' = { Reader.new s' c with calibration := cal, armed }
      | _, _ => False) := by
  refine ⟨fun ops r => ?_, fun p s c cal armed => ?_⟩
  · rw [Reader.run'_read]
    rcases (ops.readFrames r.chunk).run' r.sampler with ⟨f | frames, s⟩
    · exact ⟨rfl, rfl⟩
    · exact ⟨rfl, fun ch => ⟨Calibration.channel_batchOf_size _ _ ch, Calibration.channel_batchOf _ _ ch⟩⟩
  · intro n
    -- a reader made with any chunk size asks for at least one frame
    have positive : 0 < n := by
      simp only [n]
      split
      · decide
      · omega
    have chunk : ({ Reader.new s c with calibration := cal, armed } : Reader σ).chunk = n := rfl
    have sampler : ({ Reader.new s c with calibration := cal, armed } : Reader σ).sampler = s := rfl
    rw [Reader.run'_read, chunk, sampler, StreamParts.readFrames_eq p positive, run'_map]
    rcases (p.transfer n).run' s with ⟨f | bytes, s'⟩
    · exact ⟨rfl, rfl⟩
    · refine ⟨rfl, fun ch => ⟨?_, fun k => ?_⟩⟩
      · rw [Calibration.channel_batchOf_size]
        exact StreamParts.length_framesOfBytes bytes n
      calc _ = ((framesOfBytes bytes n)[k]?.map (·.get ch)).map (cal.apply ch) := by
            rw [Calibration.channel_batchOf, Option.map_map]
            rfl
        _ = _ := by
            rw [StreamParts.framesOfBytes_getElem?]
            split <;> rfl

end Acquisition
