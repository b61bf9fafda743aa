import Acquisition.Proofs.Driver.Calls
/-! Changes of a driver's configuration are all or nothing: each takes effect whole or fails and
leaves the driver as it was, and an idle driver takes every valid change. -/
namespace Acquisition

open Op

namespace Calibration

theorem reciprocals_of_nonzero {what : String} {vs : Vector Float32 4}
    (nonzero : ∀ i : Fin 4, (vs.get i == 0) = false) : reciprocals what vs = .ok (vs.map (1 / ·)) := by
  have none_zero : (List.finRange 4).find? (fun i => vs.get i == 0) = none :=
    List.find?_eq_none.2 fun i _ => by rw [nonzero i]; exact Bool.false_ne_true
  rw [reciprocals, none_zero]

theorem reciprocals_of_zero (what : String) {vs : Vector Float32 4} (zero : ∃ i : Fin 4, (vs.get i == 0) = true) :
    ∃ f, reciprocals what vs = .error f := by
  obtain ⟨i, at_i⟩ := zero
  cases found : (List.finRange 4).find? (fun i => vs.get i == 0) with
  | none =>
    have := List.find?_eq_none.1 found i (List.mem_finRange i)
    rw [at_i] at this
    exact absurd rfl this
  | some j => exact ⟨_, by rw [reciprocals, found]⟩

theorem setGains_of_nonzero (c : Calibration) {gains : Vector Float32 4}
    (nonzero : ∀ i : Fin 4, (gains.get i == 0) = false) : c.setGains gains = .ok { c with gains := gains.map (1 / ·) } := by
  rw [setGains, reciprocals_of_nonzero nonzero]
  rfl

theorem setTransmissions_of_nonzero (c : Calibration) {factors : Vector Float32 4}
    (nonzero : ∀ i : Fin 4, (factors.get i == 0) = false) :
    c.setTransmissions factors = .ok { c with transmissions := factors.map (1 / ·) } := by
  rw [setTransmissions, reciprocals_of_nonzero nonzero]
  rfl

theorem setGains_of_zero (c : Calibration) {gains : Vector Float32 4} (zero : ∃ i : Fin 4, (gains.get i == 0) = true) :
    ∃ f, c.setGains gains = .error f := by
  obtain ⟨f, refused⟩ := reciprocals_of_zero "gain" zero
  exact ⟨f, by rw [setGains, refused]; rfl⟩

theorem setTransmissions_of_zero (c : Calibration) {factors : Vector Float32 4}
    (zero : ∃ i : Fin 4, (factors.get i == 0) = true) : ∃ f, c.setTransmissions factors = .error f := by
  obtain ⟨f, refused⟩ := reciprocals_of_zero "transmission" zero
  exact ⟨f, by rw [setTransmissions, refused]; rfl⟩

end Calibration

namespace Reader

variable {σ : Type}

theorem run'_setMode (code : Int) (r : Reader σ) :
    (setMode code).run' r = match Mode.ofCode code with
      | .ok m => (.ok (), { r with calibration.mode := m })
      | .error f => (.error f, r) := by
  simp only [setMode, run'_bind, run'_ofExcept]
  cases Mode.ofCode code <;> rfl

theorem run'_setGains (gains : Vector Float32 4) (r : Reader σ) :
    (setGains gains).run' r = match r.calibration.setGains gains with
      | .ok c => (.ok (), { r with calibration := c })
      | .error f => (.error f, r) := by
  simp only [setGains, run'_bind, run'_get, run'_ofExcept]
  cases r.calibration.setGains gains <;> rfl

theorem run'_setTransmissions (factors : Vector Float32 4) (r : Reader σ) :
    (setTransmissions factors).run' r = match r.calibration.setTransmissions factors with
      | .ok c => (.ok (), { r with calibration := c })
      | .error f => (.error f, r) := by
  simp only [setTransmissions, run'_bind, run'_get, run'_ofExcept]
  cases r.calibration.setTransmissions factors <;> rfl

end Reader

namespace Driver

variable {ω : Type}

namespace Setting

/-- Whether an idle driver takes the change: a rate in `1..48000`, a burst
size of at least zero, the code of one of the three modes, and factors none of
which equals zero as single-precision numbers compare, so that `-0` counts as
zero. Offsets and callbacks are always taken. -/
def Valid : Setting → Prop
  | .sampleRate rate => 1 ≤ rate ∧ rate ≤ baseSampleRate
  | .burstSize n => 0 ≤ n
  | .mode code => 0 ≤ code ∧ code ≤ 2
  | .gains values | .transmissions values => ∀ i : Fin 4, (values.get i == 0) = false
  | .offsets _ | .buttonCallback _ | .overflowCallback _ => True

instance : (c : Setting) → Decidable c.Valid
  | .sampleRate rate => inferInstanceAs (Decidable (1 ≤ rate ∧ rate ≤ baseSampleRate))
  | .burstSize n => inferInstanceAs (Decidable (0 ≤ n))
  | .mode code => inferInstanceAs (Decidable (0 ≤ code ∧ code ≤ 2))
  | .gains values | .transmissions values => inferInstanceAs (Decidable (∀ i : Fin 4, (values.get i == 0) = false))
  | .offsets _ | .buttonCallback _ | .overflowCallback _ => inferInstanceAs (Decidable True)

/-- The driver once an idle driver took the change. A rate other than the
native one comes with a fresh resampler from it to the native rate; gains and
transmission factors are kept as their reciprocals. -/
def applyTo (d : Driver ω) : Setting → Driver ω
  | .sampleRate rate =>
    { d with rate := rate.toNat,
             resampler := if rate = baseSampleRate then none else some { target := rate.toNat, base := baseSampleRate } }
  | .burstSize n => { d with burstSize := n.toNat }
  | .mode code => { d with reader.calibration.mode := (Mode.ofCode? code).getD d.reader.calibration.mode }
  | .offsets values => { d with reader.calibration.offsets := values }
  | .gains values => { d with reader.calibration.gains := values.map (1 / ·) }
  | .transmissions values => { d with reader.calibration.transmissions := values.map (1 / ·) }
  | .buttonCallback registered => { d with buttonHandler := registered }
  | .overflowCallback registered => { d with overflowHandler := registered }

end Setting

theorem resampler_new_of_pos {rate : Int} (positive : 1 ≤ rate) :
    Resampler.new rate baseSampleRate = .ok { target := rate.toNat, base := baseSampleRate } := by
  have native : baseSampleRate = 48000 := rfl
  have accepted : (decide (rate < 1) || decide ((baseSampleRate : Int) < 1)) = false := by
    simp only [Bool.or_eq_false_iff, decide_eq_false_iff_not]
    omega
  rw [Resampler.new, accepted]
  rfl

theorem mode_ofCode_of_valid {code : Int} (valid : 0 ≤ code ∧ code ≤ 2) :
    ∃ m, Mode.ofCode code = .ok m ∧ Mode.ofCode? code = some m := by
  have cases : code = 0 ∨ code = 1 ∨ code = 2 := by omega
  rcases cases with rfl | rfl | rfl <;> exact ⟨_, rfl, rfl⟩

theorem mode_ofCode_of_invalid {code : Int} (invalid : ¬(0 ≤ code ∧ code ≤ 2)) :
    Mode.ofCode code = .error (.of .invalidMode ("invalid mode: " ++ toString code)) := by
  have none : Mode.ofCode? code = none := by
    unfold Mode.ofCode?
    split
    all_goals first | rfl | omega
  rw [Mode.ofCode, none]

/-- An idle driver takes a valid change whole, and refuses an invalid one
leaving everything as it was. -/
theorem change_idle (c : Setting) {d : Driver ω} (idle : d.active = false) :
    (c.Valid → c.change.run' d = (.ok (), c.applyTo d)) ∧ (¬c.Valid → ∃ f, c.change.run' d = (.error f, d)) := by
  cases c with
  | sampleRate rate =>
    by_cases valid : 1 ≤ rate ∧ rate ≤ baseSampleRate
    · have accepted : (decide (rate < 1) || decide (rate > (baseSampleRate : Int))) = false := by
        simp only [Bool.or_eq_false_iff, decide_eq_false_iff_not]
        omega
      refine ⟨fun _ => ?_, fun invalid => absurd valid invalid⟩
      simp only [Setting.change, setSampleRate, run'_configure, run'_ite, idle, accepted, Bool.false_eq_true,
        if_false]
      -- the native rate needs no resampler; any other gets a fresh one
      by_cases native : rate = baseSampleRate
      · simp [native, Setting.applyTo]
      · simp [native, resampler_new_of_pos valid.1, Setting.applyTo]
    · have refused : (decide (rate < 1) || decide (rate > (baseSampleRate : Int))) = true := by
        simp only [Bool.or_eq_true, decide_eq_true_eq]
        omega
      refine ⟨fun valid' => absurd valid' valid, fun _ => ⟨invalidSampleRate rate, ?_⟩⟩
      simp [Setting.change, setSampleRate, refused]
  | burstSize n =>
    by_cases valid : 0 ≤ n
    · refine ⟨fun _ => ?_, fun invalid => absurd valid invalid⟩
      simp [Setting.change, setBurstSize, run'_configure, idle, Int.not_lt.2 valid, Setting.applyTo]
    · refine ⟨fun valid' => absurd valid' valid, fun _ => ⟨invalidBurstSize n, ?_⟩⟩
      simp [Setting.change, setBurstSize, Int.not_le.1 valid]
  | mode code =>
    by_cases valid : 0 ≤ code ∧ code ≤ 2
    · obtain ⟨m, parsed, found⟩ := mode_ofCode_of_valid valid
      refine ⟨fun _ => ?_, fun invalid => absurd valid invalid⟩
      simp [Setting.change, setMode, run'_configure, idle, run'_onReader, Reader.run'_setMode, parsed, found,
        Setting.applyTo]
    · refine ⟨fun valid' => absurd valid' valid, fun _ => ⟨.of .invalidMode ("invalid mode: " ++ toString code), ?_⟩⟩
      simp [Setting.change, setMode, run'_configure, idle, run'_onReader, Reader.run'_setMode,
        mode_ofCode_of_invalid valid]
  | offsets values =>
    refine ⟨fun _ => ?_, fun invalid => absurd trivial invalid⟩
    simp [Setting.change, setOffsets, run'_configure, idle, run'_onReader, Reader.setOffsets, Setting.applyTo]
  | gains values =>
    by_cases valid : ∀ i : Fin 4, (values.get i == 0) = false
    · refine ⟨fun _ => ?_, fun invalid => absurd valid invalid⟩
      simp [Setting.change, setGains, run'_configure, idle, run'_onReader, Reader.run'_setGains,
        Calibration.setGains_of_nonzero _ valid, Setting.applyTo]
    · obtain ⟨f, refused⟩ := d.reader.calibration.setGains_of_zero (by simpa using valid)
      refine ⟨fun valid' => absurd valid' valid, fun _ => ⟨f, ?_⟩⟩
      simp [Setting.change, setGains, run'_configure, idle, run'_onReader, Reader.run'_setGains, refused]
  | transmissions values =>
    by_cases valid : ∀ i : Fin 4, (values.get i == 0) = false
    · refine ⟨fun _ => ?_, fun invalid => absurd valid invalid⟩
      simp [Setting.change, setTransmissions, run'_configure, idle, run'_onReader, Reader.run'_setTransmissions,
        Calibration.setTransmissions_of_nonzero _ valid, Setting.applyTo]
    · obtain ⟨f, refused⟩ := d.reader.calibration.setTransmissions_of_zero (by simpa using valid)
      refine ⟨fun valid' => absurd valid' valid, fun _ => ⟨f, ?_⟩⟩
      simp [Setting.change, setTransmissions, run'_configure, idle, run'_onReader, Reader.run'_setTransmissions,
        refused]
  | buttonCallback registered =>
    refine ⟨fun _ => ?_, fun invalid => absurd trivial invalid⟩
    simp [Setting.change, watchButton, run'_configure, idle, Setting.applyTo]
  | overflowCallback registered =>
    refine ⟨fun _ => ?_, fun invalid => absurd trivial invalid⟩
    simp [Setting.change, watchOverflow, run'_configure, idle, Setting.applyTo]

/-- A change that fails leaves the whole driver as it was, whether a session
runs or not. -/
theorem change_failed_unchanged (c : Setting) (d : Driver ω) {f : Fault} (failed : (c.change.run' d).1 = .error f) :
    (c.change.run' d).2 = d := by
  cases active : d.active
  · obtain ⟨taken, refused⟩ := change_idle c active
    by_cases valid : c.Valid
    · rw [taken valid] at failed
      cases failed
    · obtain ⟨f', same⟩ := refused valid
      rw [same]
  · rw [change_active c active]

/-- Configuration changes are all or nothing. From any driver, a change of
the rate, the burst size, the mode, the offsets, the gains or the transmission
factors, or a registration of the button or overflow callback, that fails
leaves the whole driver as it was. While a session runs every change fails,
with the error of an out-of-range rate or burst size and `sessionActive`
otherwise. An idle driver takes a valid change whole, as `applyTo` says: a
rate of its own with a fresh resampler to the native rate, none at the native
rate, the reciprocals of gains and transmission factors; and it refuses an
invalid one, such as factors with a zero among them. -/
theorem failed_changes_leave_driver_unchanged (c : Setting) (d : Driver ω) :
    (∀ f, (c.change.run' d).1 = .error f → (c.change.run' d).2 = d) ∧
      (d.active = true → (c.change.run' d).1 = .error (c.refusal.getD sessionActive)) ∧
      (d.active = false → (c.Valid → c.change.run' d = (.ok (), c.applyTo d)) ∧
        (¬c.Valid → ∃ f, c.change.run' d = (.error f, d))) :=
  ⟨fun _ failed => change_failed_unchanged c d failed, fun active => by rw [change_active c active],
    fun idle => change_idle c idle⟩

example : ¬(Setting.gains ⟨#[1, -0, 1, 1], rfl⟩).Valid := by decide

end Driver

end Acquisition
