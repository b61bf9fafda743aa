import Mathlib
import Acquisition.Config.Apply
import Acquisition.Proofs.Driver.Configuration
/-! Validation and the driver accept the same settings: a valid configuration is taken whole by an
idle driver, and while a session runs nothing changes. -/

namespace Acquisition

open Op Driver

namespace Config

def settings (c : Config) (mode : Mode) : List Setting :=
  [.sampleRate c.sampleRate, .burstSize c.burstSize, .mode mode.code, .offsets c.offsets,
    .gains c.gains, .transmissions c.transmissions]

theorem apply_eq {ω : Type} (c : Config) :
    @apply ω c = MonadExcept.ofExcept (Mode.parse c.mode) >>= fun mode =>
      Op.withContext "could not apply configuration" ((c.settings mode).forM Setting.change) := by
  simp only [apply, settings, List.forM, Setting.change, bind_pure_unit]

/-! ### What validation guarantees -/

theorem violations_eq_nil {c : Config} (valid : c.validate = .ok ()) : c.violations = [] := by
  unfold validate at valid
  split at valid
  · assumption
  · cases valid

theorem getD_toList {n : Nat} (v : Vector Float32 n) (i : Fin n) (d : Float32) : v.toList.getD i d = v.get i := by
  rw [List.getD_eq_getElem _ _ (by simp), Vector.getElem_toList, Vector.get_eq_getElem]

/-- A configuration that passes validation has a rate in `1..48000`, a burst
size of at least zero, a mode's name, and no factor equal to zero. -/
theorem accepted_of_validate {c : Config} (valid : c.validate = .ok ()) :
    (1 ≤ c.sampleRate ∧ c.sampleRate ≤ baseSampleRate) ∧ 0 ≤ c.burstSize ∧ (∃ m, Mode.parse c.mode = .ok m) ∧
      (∀ i : Fin 4, (c.gains.get i == 0) = false) ∧ (∀ i : Fin 4, (c.transmissions.get i == 0) = false) := by
  have none_broken := violations_eq_nil valid
  simp only [violations, List.append_eq_nil_iff, List.flatMap_eq_nil_iff, List.mem_range] at none_broken
  obtain ⟨⟨⟨⟨⟨⟨⟨-, rate⟩, burst⟩, mode⟩, factors⟩, -⟩, -⟩, -⟩ := none_broken
  refine ⟨?_, ?_, ?_, fun i => ?_, fun i => ?_⟩
  · split at rate
    · cases rate
    · simp only [Bool.or_eq_true, decide_eq_true_eq, not_or] at *
      omega
  · split at burst
    · cases burst
    · simp_all
  · split at mode
    · exact ⟨_, ‹_›⟩
    · cases mode
  -- each input contributes a rule for its gain and one for its transmission factor
  all_goals
    obtain ⟨gain, transmission⟩ := factors i.val (by simp [sensorCount])
    rw [getD_toList c.gains i, getD_toList c.transmissions i] at *
  · cases zero : (c.gains.get i == 0)
    · rfl
    · simp [zero] at gain
  · cases zero : (c.transmissions.get i == 0)
    · rfl
    · simp [zero] at transmission

/-- Every change `apply` pushes for a configuration that passes validation is
one an idle driver takes: validation refuses every argument a change would. -/
theorem settings_valid_of_validate {c : Config} (valid : c.validate = .ok ()) {m : Mode}
    (parsed : Mode.parse c.mode = .ok m) : ∀ s ∈ c.settings m, s.Valid := by
  obtain ⟨rate, burst, -, gains, transmissions⟩ := accepted_of_validate valid
  have code : 0 ≤ m.code ∧ m.code ≤ 2 := by cases m <;> decide
  simp only [settings, List.mem_cons, List.not_mem_nil, or_false]
  rintro s (rfl | rfl | rfl | rfl | rfl | rfl)
  · exact rate
  · exact burst
  · exact code
  · trivial
  · exact gains
  · exact transmissions

/-! ### Pushing the changes -/

theorem applyTo_active {ω : Type} (s : Setting) (d : Driver ω) : (s.applyTo d).active = d.active := by
  cases s <;> rfl

theorem run'_forM_idle {ω : Type} (ss : List Setting) (valid : ∀ s ∈ ss, s.Valid) :
    ∀ {d : Driver ω}, d.active = false → (ss.forM Setting.change).run' d = (.ok (), ss.foldl Setting.applyTo d) := by
  induction ss with
  | nil => exact fun _ => rfl
  | cons s rest ih =>
    intro d idle
    have taken := (change_idle s idle).1 (valid s List.mem_cons_self)
    rw [List.forM, run'_bind, taken]
    exact ih (fun s' mem => valid s' (List.mem_cons_of_mem s mem)) ((applyTo_active s d).trans idle)

/-- While a session runs, the first change with an argument in range is refused
and nothing changes. -/
theorem run'_forM_active {ω : Type} {s : Setting} (rest : List Setting) (in_range : s.refusal = none)
    {d : Driver ω} (active : d.active = true) : ((s :: rest).forM Setting.change).run' d = (.error sessionActive, d) := by
  rw [List.forM, run'_bind, change_active s active, in_range]
  rfl

/-- The driver once it took the changes of a configuration with a rate of at
most the native one. -/
theorem foldl_settings {ω : Type} (c : Config) (m : Mode) (d : Driver ω) (at_most : c.sampleRate ≤ baseSampleRate) :
    (c.settings m).foldl Setting.applyTo d =
      { d with rate := c.sampleRate.toNat,
               resampler := if c.sampleRate < baseSampleRate then
                 some { target := c.sampleRate.toNat, base := baseSampleRate } else none,
               burstSize := c.burstSize.toNat,
               reader.calibration := { mode := m, offsets := c.offsets, gains := c.gains.map (1 / ·),
                                       transmissions := c.transmissions.map (1 / ·) } } := by
  simp only [settings, List.foldl, Setting.applyTo, Mode.ofCode_code, Option.getD_some]
  -- a rate of at most the native one is below it exactly when it is not the native rate
  by_cases native : c.sampleRate = baseSampleRate
  · simp [native]
  · simp [native, lt_of_le_of_ne at_most native]

/-- A configuration that passes validation always applies. Validation refuses
the mode's name and every argument that a change of `apply` refuses. An idle
driver takes the configuration whole: its rate, with a fresh resampler to the
native rate exactly when the rate is below it, its burst size, the mode of its
name, its offsets, and the reciprocals of its gains and transmission factors,
everything else unchanged. A driver with a running session refuses the rate,
the first change, with `sessionActive`, and nothing changes. -/
theorem validated_config_applies (c : Config) (valid : c.validate = .ok ()) :
    (∃ m, Mode.parse c.mode = .ok m ∧ ∀ s ∈ c.settings m, s.Valid) ∧
    (∀ (ω : Type) (d : Driver ω) (m : Mode), d.active = false → Mode.parse c.mode = .ok m →
      c.apply.run' d =
        (.ok (), { d with rate := c.sampleRate.toNat,
                          resampler := if c.sampleRate < baseSampleRate then
                            some { target := c.sampleRate.toNat, base := baseSampleRate } else none,
                          burstSize := c.burstSize.toNat,
                          reader.calibration := { mode := m, offsets := c.offsets, gains := c.gains.map (1 / ·),
                                                  transmissions := c.transmissions.map (1 / ·) } })) ∧
    (∀ (ω : Type) (d : Driver ω), d.active = true →
      c.apply.run' d = (.error (sessionActive.context "could not apply configuration"), d)) := by
  obtain ⟨rate, -, ⟨m, parsed⟩, -⟩ := accepted_of_validate valid
  have rate_in_range : (Setting.sampleRate c.sampleRate).refusal = none := by
    have accepted : (decide (c.sampleRate < 1) || decide (c.sampleRate > (baseSampleRate : Int))) = false := by
      simp only [Bool.or_eq_false_iff, decide_eq_false_iff_not]
      omega
    simp only [Setting.refusal, accepted, Bool.false_eq_true, if_false]
  refine ⟨⟨m, parsed, settings_valid_of_validate valid parsed⟩, fun ω d m' idle parsed' => ?_, fun ω d active => ?_⟩
  · rw [apply_eq, run'_bind, run'_ofExcept, parsed']
    dsimp only
    rw [run'_withContext, run'_forM_idle _ (settings_valid_of_validate valid parsed') idle,
      foldl_settings c m' d rate.2]
  · rw [apply_eq, run'_bind, run'_ofExcept, parsed]
    dsimp only
    rw [run'_withContext, settings, run'_forM_active _ rate_in_range active]

/-- A configuration at 8 kHz with gains of 2 passes validation, and an idle
driver takes it at 8 kHz with a resampler and the default burst size. -/
theorem resampling_config_applies :
    let c : Config := { sampleRate := 8000, gains := ⟨#[2, 2, 2, 2], rfl⟩ }
    c.validate = .ok () ∧
      let d := (c.apply.run' ({ options := {}, reader := { sampler := () } } : Driver Unit)).2
      d.rate = 8000 ∧ d.resampler = some { target := 8000, base := baseSampleRate } ∧ d.burstSize = 4800 := by
  intro c
  have valid : c.validate = .ok () := by
    unfold c
    rfl
  refine ⟨valid, ?_⟩
  intro d
  have applied := (validated_config_applies c valid).2.1 Unit { options := {}, reader := { sampler := () } } .primary
    rfl rfl
  simp only [d, applied]
  exact ⟨rfl, rfl, rfl⟩

end Config

end Acquisition
