import Acquisition.Driver.Basic
import Acquisition.Proofs.Effect
/-! What the steps of a session change: a read calibrates its frames, a Start that succeeds leaves
all but the devices and the registry, and a Stop ends in the drained driver. -/
namespace Acquisition

open Op

namespace Reader

variable {σ : Type}

/-- A successful read is the calibration of the frames the sampler gave for
one chunk. -/
theorem read_ok {ops : Sampler σ} {r r' : Reader σ} {b : Batch} (done : (read ops).run' r = (.ok b, r')) :
    ∃ frames, ((ops.readFrames r.chunk).run' r.sampler).1 = .ok frames ∧ b = r.calibration.batchOf frames := by
  simp only [read, run'_bind_ok, run'_get, Prod.mk.injEq] at done
  obtain ⟨_, _, ⟨⟨⟩, ⟨⟩⟩, frames, s, fetched, done⟩ := done
  rw [run'_withContext, onSampler, run'_focus] at fetched
  simp only [run'_pure, Prod.mk.injEq, Except.ok.injEq] at done
  refine ⟨frames, ?_, done.1.symm⟩
  revert fetched
  rcases (ops.readFrames r.chunk).run' r.sampler with ⟨_ | got, s'⟩
  · simp
  · simp only [Prod.mk.injEq, Except.ok.injEq, and_imp]
    exact fun same _ => same

end Reader

namespace Driver

variable {ω : Type}

def buttonStates (events : List Event) : Array (Bool × Int) :=
  (events.map fun e => (e.counter.tmod 2 == 1, e.counter)).toArray

theorem foldl_dispatchEvent (events : List Event) (d : Driver ω) :
    events.foldl dispatchEvent d =
      { d with metrics.buttonEvents := d.metrics.buttonEvents + events.length
               outbox.buttons := if d.buttonHandler then d.outbox.buttons ++ buttonStates events
                 else d.outbox.buttons } := by
  induction events generalizing d with
  | nil => simp [buttonStates]
  | cons e events ih =>
    rw [List.foldl_cons, ih]
    have counted : d.metrics.buttonEvents + 1 + events.length = d.metrics.buttonEvents + (events.length + 1) := by
      omega
    by_cases handler : d.buttonHandler
    · have pushed : d.outbox.buttons.push (e.counter.tmod 2 == 1, e.counter) ++ buttonStates events =
          d.outbox.buttons ++ buttonStates (e :: events) := by
        apply Array.toList_inj.1
        simp [buttonStates]
      simp only [dispatchEvent, handler, Metrics.buttonEvent, ↓reduceIte, List.length_cons, pushed, counted]
    · simp only [dispatchEvent, handler, Metrics.buttonEvent, Bool.false_eq_true, ↓reduceIte, List.length_cons,
        counted]

/-- Handing out the waiting button events counts each of them and, with a
button callback registered, passes each to it in order; the events are gone. -/
theorem dispatchEvents_eq (d : Driver ω) :
    d.dispatchEvents =
      { d with pendingEvents := []
               metrics.buttonEvents := d.metrics.buttonEvents + d.pendingEvents.length
               outbox.buttons := if d.buttonHandler then d.outbox.buttons ++ buttonStates d.pendingEvents
                 else d.outbox.buttons } := by
  rw [dispatchEvents, foldl_dispatchEvent]

/-- A start that succeeds found no session running. It leaves the driver as it
was but for the devices and the registry, and sets up the session: the
resampler reset, a fresh burst, no drops and no waiting events. -/
theorem start_ok {dev : Devices ω} {d₀ d : Driver ω} (started : (start dev).run' d₀ = (.ok (), d)) :
    d₀.active = false ∧ ∃ (h : Handle) (reader : Reader ω) (registry : Registry),
      registry.activeOn d₀.options.device = some h ∧
      d = { d₀ with reader, registry, resampler := d₀.resampler.map Resampler.reset, session := some h,
                    burst := { size := d₀.burstSize }, dropped := 0, pendingEvents := [],
                    metrics := d₀.metrics.sessionStarted } := by
  unfold start at started
  simp only [run'_bind_ok, run'_get] at started
  obtain ⟨_, _, ⟨⟩, started⟩ := started
  split at started
  · simp at started
  rename_i idle
  split at started
  · rename_i h registry acquired
    simp only [run'_bind_ok, run'_set, run'_pure, run'_attempt] at started
    obtain ⟨_, _, ⟨⟩, _, _, ⟨⟩, _, _, ⟨⟩, started⟩ := started
    -- each attempt that fails undoes what was done and throws; only the path
    -- where all succeed reaches the final update
    split at started
    · simp [run'_bind_ok] at started
    simp only [run'_bind_ok, run'_attempt] at started
    obtain ⟨_, _, ⟨⟩, _, _, ⟨⟩, started⟩ := started
    split at started
    · simp [run'_bind_ok] at started
    simp only [run'_bind_ok, run'_attempt] at started
    obtain ⟨_, _, ⟨⟩, started⟩ := started
    split at started
    · simp [run'_bind_ok] at started
    simp only [run'_modify, Prod.mk.injEq] at started
    obtain ⟨-, rfl⟩ := started
    -- the registry took the session on a free slot, for the driver's own device
    have held : registry.activeOn d₀.options.device = some h := by
      unfold Registry.acquire at acquired
      split at acquired
      · cases acquired
      · cases acquired
        simp [Registry.activeOn]
    exact ⟨by simpa using idle, h, _, registry, held, rfl⟩
  · simp at started

/-- Giving up a handle changes only the registry: the handle's session ends
if it is the active one. -/
theorem run'_releaseHandle (h : Handle) (d : Driver ω) :
    (releaseHandle h).run' d =
      (.ok (), { d with registry := match d.registry.release (some h) with
                                    | .ok registry => registry
                                    | .error _ => d.registry }) := by
  unfold releaseHandle
  rw [run'_modify]
  cases d.registry.release (some h) <;> rfl

/-! ### The guard of Stop -/

theorem stopRefusal_of_idle {d : Driver ω} (idle : d.session = none) (stopping : Bool) :
    stopRefusal d stopping = some notStarted := by
  simp [stopRefusal, idle]

theorem stopRefusal_of_stopping (d : Driver ω) : stopRefusal d true = some notStarted := by
  unfold stopRefusal
  split <;> rfl

theorem stopRefusal_of_registered {d : Driver ω} {h : Handle} (running : d.session = some h)
    (held : d.registry.activeOn d.options.device = some h) : stopRefusal d false = none := by
  simp [stopRefusal, running, held]

theorem stopRefusal_of_held {d : Driver ω} {h : Handle} (running : d.session = some h)
    (held : d.registry.active = some h) (owned : h.device = d.options.device) : stopRefusal d false = none :=
  stopRefusal_of_registered running (by simp [Registry.activeOn, held, owned])

theorem stopRefusal_congr {d d' : Driver ω} (session : d'.session = d.session) (registry : d'.registry = d.registry)
    (options : d'.options = d.options) (stopping : Bool) : stopRefusal d' stopping = stopRefusal d stopping := by
  unfold stopRefusal
  rw [session, registry, options]

theorem run'_stop_of_refused (dev : Devices ω) {d : Driver ω} {f : Fault} (refused : stopRefusal d false = some f) :
    (stop dev).run' d = (.error f, d) := by
  unfold stop
  rw [run'_bind, run'_get]
  cases running : d.session <;> simp [refused, running]

theorem run'_stop_of_accepted (dev : Devices ω) {d : Driver ω} {h : Handle} (running : d.session = some h)
    (accepted : stopRefusal d false = none) :
    (stop dev).run' d = (teardown dev h).run' d.finishPoller.drainQueues := by
  unfold stop
  rw [run'_bind, run'_get]
  simp only [running, accepted]
  rw [run'_bind, run'_set]

/-- Stop, with or without errors to report, ends in the driver as the poller
and the queues left it, with the session closed; only the devices and the
registry differ besides. -/
theorem stop_state (dev : Devices ω) {d : Driver ω} {h : Handle} (running : d.session = some h)
    (accepted : stopRefusal d false = none) :
    ∃ (reader : Reader ω) (registry : Registry), ((stop dev).run' d).2 =
      { d.finishPoller.drainQueues with
        reader, registry, session := none, metrics := d.finishPoller.drainQueues.metrics.sessionStopped } := by
  simp only [run'_stop_of_accepted dev running accepted, teardown, run'_bind, run'_attempt, run'_releaseHandle,
    run'_modify]
  -- the errors collected decide only whether the result is a failure
  rw [apply_ite (fun op : Op (Driver ω) Unit => (op.run' _).2), run'_throw, run'_pure, ite_self]
  exact ⟨_, _, rfl⟩

end Driver

end Acquisition
