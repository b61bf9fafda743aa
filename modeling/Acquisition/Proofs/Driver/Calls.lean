import Acquisition.Proofs.Driver.Pipeline
import Acquisition.Driver.Threads
import Mathlib
/-! What the driver's calls do to the driver, read off the operations they are built from: a failed
Start, the end of a Stop, and a change of configuration. -/
namespace Acquisition

open Op

namespace Fault

/-- An error that does not carry the driver's own conditions of a refused Start
or Stop. -/
def Foreign (f : Fault) : Prop := f.is .alreadyStarted = false ∧ f.is .notStarted = false

end Fault

@[simp] theorem foreign_context (ctx : String) (f : Fault) : (f.context ctx).Foreign ↔ f.Foreign := Iff.rfl

def Op.Foreign {σ α : Type} (op : Op σ α) : Prop := ∀ s f s', op.run' s = (.error f, s') → f.Foreign

theorem Op.Foreign.focus {σ τ α : Type} {op : Op σ α} (foreign : op.Foreign) (get : τ → σ) (put : τ → σ → τ) :
    (Op.focus get put op).Foreign := by
  intro t f t' failed
  simp only [run'_focus, Prod.mk.injEq] at failed
  exact foreign _ _ _ (Prod.ext failed.1 rfl)

/-- Devices whose errors never read as the driver's refusals: the condition a
caller tests to tell a refused Start or Stop from a failed one. -/
structure Devices.Foreign {ω : Type} (dev : Devices ω) : Prop where
  lock : dev.lock.Foreign
  unlock : dev.unlock.Foreign
  configure : ∀ m, (dev.sampler.configure m).Foreign
  arm : dev.sampler.arm.Foreign
  disarm : dev.sampler.disarm.Foreign

namespace Reader

variable {σ : Type}

theorem run'_onSampler {α : Type} (op : Op σ α) (r : Reader σ) :
    (onSampler op).run' r = ((op.run' r.sampler).1, { r with sampler := (op.run' r.sampler).2 }) := rfl

theorem run'_setup (ops : Sampler σ) (r : Reader σ) :
    (setup ops).run' r =
      match (ops.configure r.calibration.mode).run' r.sampler with
      | (.ok a, s) => (.ok a, { r with sampler := s })
      | (.error f, s) => (.error (f.context "could not configure sampler"), { r with sampler := s }) := by
  simp only [setup, run'_bind, run'_get, run'_withContext, run'_onSampler]
  rcases (ops.configure r.calibration.mode).run' r.sampler with ⟨f | a, s⟩ <;> rfl

theorem run'_start (ops : Sampler σ) (r : Reader σ) :
    (start ops).run' r =
      if r.armed then (.ok (), r)
      else match ops.arm.run' r.sampler with
        | (.ok (), s) => (.ok (), { r with sampler := s, armed := true })
        | (.error f, s) => (.error (f.context "could not arm sampler"), { r with sampler := s }) := by
  unfold start
  cases armed : r.armed
  · simp only [run'_bind, run'_get, armed, Bool.false_eq_true, if_false, run'_withContext, run'_onSampler,
      run'_modify]
    rcases ops.arm.run' r.sampler with ⟨f | ⟨⟩, s⟩ <;> rfl
  · simp [run'_bind, armed]

theorem run'_stop (ops : Sampler σ) (r : Reader σ) :
    (stop ops).run' r =
      if r.armed then
        match ops.disarm.run' r.sampler with
        | (.ok (), s) => (.ok (), { r with sampler := s, armed := false })
        | (.error f, s) => (.error (f.context "could not disarm sampler"), { r with sampler := s, armed := false })
      else (.ok (), r) := by
  unfold stop
  cases armed : r.armed
  · simp [run'_bind, armed]
  · simp only [run'_bind, run'_get, armed, Bool.not_true, Bool.false_eq_true, if_false, run'_modify,
      run'_withContext, run'_onSampler, if_true]
    rcases ops.disarm.run' r.sampler with ⟨f | ⟨⟩, s⟩ <;> rfl

theorem stop_foreign {ops : Sampler σ} (foreign : ops.disarm.Foreign) : (stop ops).Foreign := by
  intro r f r' failed
  rw [run'_stop] at failed
  split at failed
  · rcases disarmed : ops.disarm.run' r.sampler with ⟨_ | ⟨⟩, s⟩
    · simp only [disarmed, Prod.mk.injEq, Except.error.injEq] at failed
      obtain ⟨rfl, -⟩ := failed
      simpa using foreign _ _ _ disarmed
    · simp [disarmed] at failed
  · cases failed

theorem read_frame (ops : Sampler σ) (r : Reader σ) :
    ((read ops).run' r).2 = { r with sampler := ((read ops).run' r).2.sampler } := by
  simp only [read, run'_bind, run'_get, run'_withContext, run'_onSampler]
  rcases (ops.readFrames r.chunk).run' r.sampler with ⟨f | frames, s⟩ <;> rfl

end Reader

namespace Driver

variable {ω : Type}

theorem run'_onReader {α : Type} (op : Op (Reader ω) α) (d : Driver ω) :
    (onReader op).run' d = ((op.run' d.reader).1, { d with reader := (op.run' d.reader).2 }) := rfl

theorem run'_onDevices {α : Type} (op : Op ω α) (d : Driver ω) :
    (onDevices op).run' d =
      ((op.run' d.world).1, { d with reader.sampler := (op.run' d.world).2 }) := rfl

/-- What an aborted Start leaves behind: the reader stopped, the device's lock
released and the session's handle given back. -/
def abandon (dev : Devices ω) (h : Handle) (d : Driver ω) : Driver ω :=
  ((releaseHandle h).run' ((onDevices dev.unlock).run' ((onReader (Reader.stop dev.sampler)).run' d).2).2).2

/-- Start step by step: refused while a session runs or the registry is busy;
otherwise the registry's new session `h` is given back unless locking the
device, setting up and arming the sampler all succeed. -/
theorem run'_start (dev : Devices ω) (d : Driver ω) :
    (start dev).run' d =
      if d.active then (.error alreadyStarted, d) else
      match d.registry.acquire d.options.device d.options.device with
      | .error f => (.error (Fault.wrap .alreadyStarted "session already started" f), d)
      | .ok (h, registry) =>
        match (onDevices dev.lock).run' { d with registry } with
        | (.error f, d₁) => (.error (Fault.wrap .deviceLocked "could not lock device" f), ((releaseHandle h).run' d₁).2)
        | (.ok (), d₁) =>
          match (onReader (Reader.setup dev.sampler)).run' ((onDevices dev.verify).run' d₁).2 with
          | (.error f, d₂) => (.error (f.context "could not set up record source"), abandon dev h d₂)
          | (.ok (), d₂) =>
            match (onReader (Reader.start dev.sampler)).run' d₂ with
            | (.error f, d₃) => (.error (f.context "could not start record source"), abandon dev h d₃)
            | (.ok (), d₃) =>
              (.ok (), { d₃ with resampler := d₃.resampler.map Resampler.reset, session := some h,
                                 burst := { size := d₃.burstSize }, dropped := 0, pendingEvents := [],
                                 metrics := d₃.metrics.sessionStarted }) := by
  unfold start
  by_cases active : d.active
  · simp [run'_bind, active]
  simp only [run'_bind, run'_get, active, Bool.false_eq_true, if_false]
  rcases d.registry.acquire d.options.device d.options.device with f | ⟨h, registry⟩
  · rfl
  simp only [run'_bind, run'_set, run'_pure, run'_attempt]
  rcases (onDevices dev.lock).run' { d with registry } with ⟨f | ⟨⟩, d₁⟩
  · simp [run'_bind, run'_releaseHandle]
  simp only [run'_bind, run'_attempt]
  rcases (onReader (Reader.setup dev.sampler)).run' ((onDevices dev.verify).run' d₁).2 with ⟨f | ⟨⟩, d₂⟩
  · simp only [abandon, run'_bind, run'_attempt, run'_releaseHandle, run'_throw]
  simp only [run'_bind, run'_attempt]
  rcases (onReader (Reader.start dev.sampler)).run' d₂ with ⟨f | ⟨⟩, d₃⟩
  · simp only [abandon, run'_bind, run'_attempt, run'_releaseHandle, run'_throw]
  simp only [run'_modify]

/-- An aborted Start, like the end of a Stop, leaves the reader disarmed, the
devices as the sampler's disarming and the lock's release leave them, and the
handle given back to the registry. -/
theorem abandon_eq (dev : Devices ω) (h : Handle) (d : Driver ω) :
    ∃ world, abandon dev h d =
      { d with reader := { d.reader with sampler := world, armed := false },
               registry := match d.registry.release (some h) with
                 | .ok registry => registry
                 | .error _ => d.registry } := by
  simp only [abandon, run'_releaseHandle, run'_onDevices, run'_onReader, Reader.run'_stop]
  split
  · split <;> exact ⟨_, rfl⟩
  · rename_i disarmed
    simp only [Bool.not_eq_true] at disarmed
    obtain ⟨options, ⟨sampler, calibration, chunk, armed⟩⟩ := d
    subst disarmed
    exact ⟨_, rfl⟩

def Registry.next (r : Registry) (device : String) : Handle := ⟨r.issued, device, device⟩

theorem Registry.acquire_free {r : Registry} {device owner : String} (free : r.active = none) :
    r.acquire device owner =
      .ok (⟨r.issued, device, owner⟩, { active := some ⟨r.issued, device, owner⟩, issued := r.issued + 1 }) := by
  simp [Registry.acquire, free]

theorem Registry.acquire_busy {r : Registry} {device owner : String} {h : Handle} (busy : r.active = some h) :
    r.acquire device owner = .error (.of .sessionBusy ("another session is active: " ++ h.describe)) := by
  simp [Registry.acquire, busy]

theorem Registry.release_active (r : Registry) (h : Handle) (holds : r.active = some h) :
    r.release (some h) = .ok { r with active := none } := by
  simp [Registry.release, holds]

/-- A Start that succeeds found no session and a free registry. It registered a
session for its device, armed the reader and set up the session; besides, only
the devices changed. -/
theorem start_success {dev : Devices ω} {d d' : Driver ω} (started : (start dev).run' d = (.ok (), d')) :
    d.active = false ∧ d.registry.active = none ∧ ∃ world,
      d' = { d with reader := { d.reader with sampler := world, armed := true },
                    registry := { active := some ⟨d.registry.issued, d.options.device, d.options.device⟩,
                                  issued := d.registry.issued + 1 },
                    resampler := d.resampler.map Resampler.reset,
                    session := some ⟨d.registry.issued, d.options.device, d.options.device⟩,
                    burst := { size := d.burstSize }, dropped := 0, pendingEvents := [],
                    metrics := d.metrics.sessionStarted } := by
  rw [run'_start] at started
  split at started
  · cases started
  rename_i idle
  cases busy : d.registry.active with
  | some h => simp [Registry.acquire_busy busy] at started
  | none =>
    rw [Registry.acquire_free busy] at started
    refine ⟨by simpa using idle, rfl, ?_⟩
    simp only [run'_onDevices, run'_onReader, Reader.run'_setup, Reader.run'_start, world] at started
    -- follow the device calls one by one; every failure ends in an error
    rcases locked : dev.lock.run' d.reader.sampler with ⟨_ | ⟨⟩, w₁⟩
    · simp [locked] at started
    rcases verified : dev.verify.run' w₁ with ⟨_, w₂⟩
    rcases configured : (dev.sampler.configure d.reader.calibration.mode).run' w₂ with ⟨_ | ⟨⟩, w₃⟩
    · simp [locked, verified, configured] at started
    cases armed : d.reader.armed
    · rcases arming : dev.sampler.arm.run' w₃ with ⟨_ | ⟨⟩, w₄⟩
      · simp [locked, verified, configured, armed, arming] at started
      · simp [locked, verified, configured, armed, arming] at started
        subst started
        exact ⟨w₄, rfl⟩
    · simp [locked, verified, configured, armed] at started
      subst started
      exact ⟨w₃, rfl⟩

/-- A Start that fails changes, besides the devices, only the registry's count
of sessions: whichever step failed, the session it registered is given back,
and a reader disarmed on entry is disarmed again. -/
theorem start_failure {dev : Devices ω} {d d' : Driver ω} {f : Fault}
    (failed : (start dev).run' d = (.error f, d')) (disarmed : d.active = true ∨ d.reader.armed = false) :
    d' = { d with reader := { d.reader with sampler := d'.world },
                  registry := { d.registry with issued := d'.registry.issued } } := by
  rw [run'_start] at failed
  split at failed
  · cases failed
    rfl
  rename_i idle
  have armed : d.reader.armed = false := by simpa [idle] using disarmed
  cases busy : d.registry.active with
  | some h =>
    simp only [Registry.acquire_busy busy, Prod.mk.injEq] at failed
    obtain ⟨-, rfl⟩ := failed
    rfl
  | none =>
    rw [Registry.acquire_free busy] at failed
    simp only [run'_onDevices, run'_onReader, Reader.run'_setup, Reader.run'_start, world] at failed
    -- every way out gives the new session back, which leaves the registry as it was but for its count
    rcases locked : dev.lock.run' d.reader.sampler with ⟨_ | ⟨⟩, w₁⟩
    · simp [locked, run'_releaseHandle, Registry.release_active] at failed
      obtain ⟨-, rfl⟩ := failed
      simp [world, busy]
    rcases verified : dev.verify.run' w₁ with ⟨_, w₂⟩
    rcases configured : (dev.sampler.configure d.reader.calibration.mode).run' w₂ with ⟨_ | ⟨⟩, w₃⟩
    · simp [locked, verified, configured, abandon, run'_releaseHandle, run'_onDevices, run'_onReader,
        Reader.run'_stop, armed, Registry.release_active] at failed
      obtain ⟨-, rfl⟩ := failed
      simp [world, busy, armed]
    rcases arming : dev.sampler.arm.run' w₃ with ⟨_ | ⟨⟩, w₄⟩
    · simp [locked, verified, configured, armed, arming, abandon, run'_releaseHandle, run'_onDevices,
        run'_onReader, Reader.run'_stop, Registry.release_active] at failed
      obtain ⟨-, rfl⟩ := failed
      simp [world, busy, armed]
    · simp [locked, verified, configured, armed, arming] at failed

/-- Whatever the reader's state, a Start that fails leaves the driver without
the session it registered. -/
theorem start_error_session {dev : Devices ω} {d d' : Driver ω} {f : Fault}
    (failed : (start dev).run' d = (.error f, d')) : d'.session = d.session := by
  rw [run'_start] at failed
  split at failed
  · cases failed
    rfl
  split at failed
  · cases failed
    rfl
  rename_i h registry _
  simp only [run'_onDevices, run'_onReader, Reader.run'_setup, Reader.run'_start, world] at failed
  rcases locked : dev.lock.run' d.reader.sampler with ⟨_ | ⟨⟩, w₁⟩
  · simp [locked, run'_releaseHandle] at failed
    obtain ⟨-, rfl⟩ := failed
    split <;> rfl
  rcases verified : dev.verify.run' w₁ with ⟨_, w₂⟩
  rcases configured : (dev.sampler.configure d.reader.calibration.mode).run' w₂ with ⟨_ | ⟨⟩, w₃⟩
  · simp [locked, verified, configured] at failed
    obtain ⟨-, rfl⟩ := failed
    obtain ⟨_, abandoned⟩ := abandon_eq dev h _
    rw [abandoned]
  cases armed : d.reader.armed
  · rcases arming : dev.sampler.arm.run' w₃ with ⟨_ | ⟨⟩, w₄⟩
    · simp [locked, verified, configured, armed, arming] at failed
      obtain ⟨-, rfl⟩ := failed
      obtain ⟨_, abandoned⟩ := abandon_eq dev h _
      rw [abandoned]
    · simp [locked, verified, configured, armed, arming] at failed
  · simp [locked, verified, configured, armed] at failed

/-- Start reports `alreadyStarted` exactly when it finds a session running or
the registry busy; its other failures are those of the devices. -/
theorem start_refused {dev : Devices ω} (foreign : dev.Foreign) {d d' : Driver ω} {f : Fault}
    (failed : (start dev).run' d = (.error f, d')) : f.is .alreadyStarted = (d.active || d.registry.busy) := by
  rw [run'_start] at failed
  split at failed
  · rename_i active
    cases failed
    simp [alreadyStarted, active]
  rename_i idle
  simp only [Bool.not_eq_true] at idle
  cases busy : d.registry.active with
  | some h =>
    simp only [Registry.acquire_busy busy, Prod.mk.injEq, Except.error.injEq] at failed
    obtain ⟨rfl, -⟩ := failed
    simp [Registry.busy, busy]
  | none =>
    rw [Registry.acquire_free busy] at failed
    simp only [run'_onDevices, run'_onReader, Reader.run'_setup, Reader.run'_start, world] at failed
    have free : (d.active || d.registry.busy) = false := by simp [idle, Registry.busy, busy]
    rw [free]
    rcases locked : dev.lock.run' d.reader.sampler with ⟨_ | ⟨⟩, w₁⟩
    · simp [locked] at failed
      obtain ⟨rfl, -⟩ := failed
      simp [(foreign.lock _ _ _ locked).1]
    rcases verified : dev.verify.run' w₁ with ⟨_, w₂⟩
    rcases configured : (dev.sampler.configure d.reader.calibration.mode).run' w₂ with ⟨_ | ⟨⟩, w₃⟩
    · simp [locked, verified, configured] at failed
      obtain ⟨rfl, -⟩ := failed
      simp [(foreign.configure _ _ _ _ configured).1]
    cases armed : d.reader.armed
    · rcases arming : dev.sampler.arm.run' w₃ with ⟨_ | ⟨⟩, w₄⟩
      · simp [locked, verified, configured, armed, arming] at failed
        obtain ⟨rfl, -⟩ := failed
        simp [(foreign.arm _ _ _ arming).1]
      · simp [locked, verified, configured, armed, arming] at failed
    · simp [locked, verified, configured, armed] at failed

/-- Start goes on whatever the board's identity check reports: a check with the
same effect on the devices, failing or not, gives the same Start. -/
theorem start_ignores_verify (dev : Devices ω) (verify : Op ω Unit)
    (same : ∀ w, (verify.run' w).2 = (dev.verify.run' w).2) (d : Driver ω) :
    (start { dev with verify }).run' d = (start dev).run' d := by
  simp only [run'_start, run'_onDevices, abandon, same]

theorem teardown_state (dev : Devices ω) (h : Handle) (d : Driver ω) :
    ((teardown dev h).run' d).2 =
      { abandon dev h d with session := none, metrics := (abandon dev h d).metrics.sessionStopped } := by
  simp only [teardown, run'_bind, run'_attempt, run'_modify, run'_releaseHandle, abandon, run'_ite, run'_throw,
    run'_pure, apply_ite Prod.snd, ite_self]

theorem teardown_foreign {dev : Devices ω} (foreign : dev.Foreign) (h : Handle) : (teardown dev h).Foreign := by
  intro d f d' failed
  have disarm : (onReader (ω := ω) (Reader.stop dev.sampler)).Foreign :=
    (Reader.stop_foreign foreign.disarm).focus _ _
  have unlock : (onDevices (ω := ω) dev.unlock).Foreign := by
    unfold onDevices onReader Reader.onSampler
    exact (foreign.unlock.focus _ _).focus _ _
  -- the errors joined are those of disarming and of unlocking, each foreign
  rcases disarmed : (onReader (Reader.stop dev.sampler)).run' d with ⟨e₁ | ⟨⟩, d₁⟩ <;>
  rcases unlocked : (onDevices dev.unlock).run' d₁ with ⟨e₂ | ⟨⟩, d₂⟩ <;>
  simp only [teardown, run'_bind, run'_attempt, disarmed, unlocked, run'_releaseHandle, run'_modify, run'_ite,
    run'_throw, run'_pure] at failed <;>
  simp at failed <;>
  obtain ⟨rfl, -⟩ := failed
  · have := disarm _ _ _ disarmed
    have := unlock _ _ _ unlocked
    simp_all [Fault.Foreign]
  · have := disarm _ _ _ disarmed
    simp_all [Fault.Foreign]
  · have := unlock _ _ _ unlocked
    simp_all [Fault.Foreign]

/-! ### Changes of configuration -/

theorem run'_configure (change : Op (Driver ω) Unit) (d : Driver ω) :
    (configure change).run' d = if d.active then (.error sessionActive, d) else change.run' d := by
  unfold configure
  cases active : d.active <;> simp [run'_bind, active]

/-- `d'` is `d` with another configuration: the rate and the resampler, the
burst size, the calibration and the callbacks. -/
structure Reconfigured (d d' : Driver ω) : Prop where
  eq : d' = { d with rate := d'.rate, resampler := d'.resampler, burstSize := d'.burstSize,
                     reader := { d.reader with calibration := d'.reader.calibration },
                     buttonHandler := d'.buttonHandler, overflowHandler := d'.overflowHandler }

theorem change_reconfigures (c : Setting) (d : Driver ω) : Reconfigured d (c.change.run' d).2 := by
  cases c with
  | sampleRate rate =>
    simp only [Setting.change, setSampleRate, run'_bind, run'_configure, run'_ite, run'_throw]
    repeat' split
    all_goals exact ⟨rfl⟩
  | mode code =>
    simp only [Setting.change, setMode, run'_configure, run'_onReader, Reader.setMode, run'_bind, run'_ofExcept]
    split
    · exact ⟨rfl⟩
    · cases Mode.ofCode code <;> exact ⟨rfl⟩
  | gains values =>
    simp only [Setting.change, setGains, run'_configure, run'_onReader, Reader.setGains, run'_bind, run'_get,
      run'_ofExcept]
    split
    · exact ⟨rfl⟩
    · cases d.reader.calibration.setGains values <;> exact ⟨rfl⟩
  | transmissions values =>
    simp only [Setting.change, setTransmissions, run'_configure, run'_onReader, Reader.setTransmissions, run'_bind,
      run'_get, run'_ofExcept]
    split
    · exact ⟨rfl⟩
    · cases d.reader.calibration.setTransmissions values <;> exact ⟨rfl⟩
  | burstSize n | offsets values | buttonCallback registered | overflowCallback registered =>
    simp only [Setting.change, setBurstSize, setOffsets, watchButton, watchOverflow, run'_bind, run'_configure,
      run'_ite, run'_throw]
    repeat' split
    all_goals exact ⟨rfl⟩

def Setting.refusal : Setting → Option Fault
  | .sampleRate rate => if rate < 1 || rate > baseSampleRate then some (invalidSampleRate rate) else none
  | .burstSize n => if n < 0 then some (invalidBurstSize n) else none
  | _ => none

/-- While a session runs a change is refused and changes nothing; it reports
`sessionActive` unless its argument is out of range. -/
theorem change_active (c : Setting) {d : Driver ω} (active : d.active = true) :
    c.change.run' d = (.error (c.refusal.getD sessionActive), d) := by
  cases c <;> simp only [Setting.change, setSampleRate, setBurstSize, setMode, setOffsets, setGains,
    setTransmissions, watchButton, watchOverflow, run'_bind, run'_configure, run'_ite, run'_throw, active,
    if_true, Setting.refusal, Option.getD_none]
  -- the rate and the burst size are checked before the lock is taken
  all_goals split <;> simp_all

/-! ### The session's loops

What the fetcher, the poller and the control thread do to the driver leaves
the session, the registry, the reader and the options alone. -/

@[simp] theorem enqueue_frame (d : Driver ω) (b : Batch) :
    (d.enqueue b).session = d.session ∧ (d.enqueue b).registry = d.registry ∧
      (d.enqueue b).reader = d.reader ∧ (d.enqueue b).options = d.options := by
  unfold enqueue
  split <;> exact ⟨rfl, rfl, rfl, rfl⟩

@[simp] theorem dispatchEvents_frame (d : Driver ω) :
    d.dispatchEvents.session = d.session ∧ d.dispatchEvents.registry = d.registry ∧
      d.dispatchEvents.reader = d.reader ∧ d.dispatchEvents.options = d.options := by
  rw [dispatchEvents_eq]
  exact ⟨rfl, rfl, rfl, rfl⟩

@[simp] theorem takeRead_frame (d : Driver ω) (r : Except Fault Batch) :
    (d.takeRead r).session = d.session ∧ (d.takeRead r).registry = d.registry ∧
      (d.takeRead r).reader = d.reader ∧ (d.takeRead r).options = d.options := by
  unfold takeRead
  split
  · exact ⟨rfl, rfl, rfl, rfl⟩
  · split <;> simp

@[simp] theorem finishPoller_frame (d : Driver ω) :
    d.finishPoller.session = d.session ∧ d.finishPoller.registry = d.registry ∧
      d.finishPoller.reader = d.reader ∧ d.finishPoller.options = d.options := by
  unfold finishPoller
  repeat' split
  all_goals exact ⟨rfl, rfl, rfl, rfl⟩

@[simp] theorem queueEvents_frame (d : Driver ω) (events : List Event) :
    (d.queueEvents events).session = d.session ∧ (d.queueEvents events).registry = d.registry ∧
      (d.queueEvents events).reader = d.reader ∧ (d.queueEvents events).options = d.options := by
  unfold queueEvents
  -- each event queued or counted as dropped changes the queue or the metrics only
  induction events.filter (·.button) generalizing d with
  | nil => exact ⟨rfl, rfl, rfl, rfl⟩
  | cons e rest ih =>
    simp only [List.foldl_cons]
    split
    · exact ih _
    · exact ih _

/-- A cycle of the poller takes from the record queue; besides, it changes the
burst, the resampler, the metrics and the callbacks' records. -/
theorem pollOnce_frame {d d' : Driver ω} {busy : Bool} (polled : d.pollOnce = .ok (busy, d')) :
    d'.session = d.session ∧ d'.registry = d.registry ∧ d'.reader = d.reader ∧ d'.options = d.options ∧
      d'.records = (d.records.popBatch (Array.replicate popSize default)).2.2 := by
  unfold pollOnce at polled
  generalize d.records.popBatch (Array.replicate popSize default) = taking at polled ⊢
  obtain ⟨n, dst, records⟩ := taking
  obtain ⟨overflows, reported⟩ := reportDrops_eq { d with records, dropped := 0 } d.dropped
  simp only [reported] at polled
  split at polled
  · cases polled
    exact ⟨rfl, rfl, rfl, rfl, rfl⟩
  split at polled
  · cases polled
    exact ⟨rfl, rfl, rfl, rfl, rfl⟩
  rcases transformed : transform (dst.toList.take n) d.resampler with _ | ⟨out, resampler⟩
  · simp [transformed] at polled
  · simp only [transformed, bind, Except.bind, pure, Except.pure, Except.ok.injEq, Prod.mk.injEq] at polled
    obtain ⟨-, rfl⟩ := polled
    rw [gather_eq]
    exact ⟨rfl, rfl, rfl, rfl, rfl⟩

/-! ### Stop under concurrency -/

/-- A Stop goes on only with a session that no other Stop is ending and that
the registry holds for the device. -/
theorem stopRefusal_none {d : Driver ω} {stopping : Bool} (accepted : stopRefusal d stopping = none) :
    ∃ h, d.session = some h ∧ stopping = false ∧ d.registry.activeOn d.options.device = some h := by
  unfold stopRefusal at accepted
  split at accepted
  · cases accepted
  · rename_i h held
    refine ⟨h, held, ?_⟩
    split at accepted
    · cases accepted
    · rename_i first
      split at accepted
      · exact ⟨by simpa using first, by assumption⟩
      · cases accepted

end Driver

end Acquisition
