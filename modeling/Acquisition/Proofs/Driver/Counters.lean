import Acquisition.Proofs.Driver.Discipline
import Mathlib
/-! The session's counters count what the pipeline does: a `CounterView` is kept along every run by
`CounterView.Accounts`, each step adding exactly the happenings it brings about. -/
namespace Acquisition

namespace LabelCounts

theorem lookup_map_bump (counts : LabelCounts) (label other : String) (n : Nat) :
    (counts.map fun (l, c) => if l == label then (l, c + n) else (l, c)).lookup other =
      (counts.lookup other).map fun c => if label = other then c + n else c := by
  induction counts with
  | nil => rfl
  | cons x rest ih =>
    obtain ⟨l, c⟩ := x
    have head : (if l == label then (l, c + n) else (l, c)) = (l, if l = label then c + n else c) := by
      split <;> simp_all
    simp only [List.map_cons, head, List.lookup_cons]
    cases found : other == l
    · exact ih
    · rw [beq_iff_eq] at found
      subst found
      by_cases same : other = label
      · simp [same]
      · simp [same, Ne.symm same]

theorem count_bump (counts : LabelCounts) (label other : String) :
    (counts.bump label).count other = counts.count other + if label = other then 1 else 0 := by
  unfold bump count
  split
  · rename_i present
    rw [lookup_map_bump]
    by_cases same : label = other
    · subst same
      obtain ⟨c, found⟩ : ∃ c, counts.lookup label = some c := by
        apply Option.isSome_iff_exists.1
        apply List.lookup_isSome_iff.2
        obtain ⟨p, mem, named⟩ := List.any_eq_true.1 present
        exact ⟨p, mem, by rw [beq_iff_eq] at named ⊢; exact named.symm⟩
      simp [found]
    · cases counts.lookup other <;> simp [same]
  · rename_i absent
    rw [List.lookup_append]
    by_cases same : label = other
    · subst same
      have missing : counts.lookup label = none := by
        apply List.lookup_eq_none_iff.2
        intro p mem
        have other : p.1 ≠ label := fun named => absent (List.any_eq_true.2 ⟨p, mem, by simp [named]⟩)
        exact bne_iff_ne.2 (Ne.symm other)
      simp [missing]
    · have other_ne : (other == label) = false := beq_eq_false_iff_ne.2 (Ne.symm same)
      cases counts.lookup other <;> simp [List.lookup_cons, other_ne, same]

end LabelCounts

namespace Metrics

theorem settingsRequests_count (m : Metrics) (direction : String) (failed : Bool) (label : String) :
    (m.settingsRequest direction failed).settingsRequests.count label =
      m.settingsRequests.count label + if direction = label then 1 else 0 :=
  LabelCounts.count_bump _ _ _

theorem settingsErrors_count (m : Metrics) (direction : String) (failed : Bool) (label : String) :
    (m.settingsRequest direction failed).settingsErrors.count label =
      m.settingsErrors.count label + if failed ∧ direction = label then 1 else 0 := by
  cases failed <;> simp [settingsRequest, LabelCounts.count_bump]

end Metrics

@[simp] theorem Direction.name_inj {a b : Direction} : a.name = b.name ↔ a = b := by
  cases a <;> cases b <;> simp [Direction.name]

namespace Driver

variable {ω : Type}

/-! ### What the driver's operations count -/

theorem enqueue_counts (d : Driver ω) (b : Batch) :
    (d.enqueue b).metrics = (if (d.records.push b).1 then d.metrics else d.metrics.batchDropped) ∧
      (d.enqueue b).outbox = d.outbox := by
  unfold enqueue
  rcases d.records.push b with ⟨_ | _, records⟩ <;> exact ⟨rfl, rfl⟩

/-- Queueing a report counts as dropped the button events beyond the room left
in the event queue. -/
theorem queueEvents_counts (d : Driver ω) (events : List Event) :
    (d.queueEvents events).metrics = { d.metrics with eventsDropped := d.metrics.eventsDropped +
        ((events.filter (·.button)).length - (eventCapacity - d.pendingEvents.length)) } ∧
      (d.queueEvents events).outbox = d.outbox := by
  unfold queueEvents
  generalize events.filter (·.button) = buttons
  induction buttons generalizing d with
  | nil => exact ⟨by simp, rfl⟩
  | cons e rest ih =>
    rw [List.foldl_cons]
    split
    · next room =>
      obtain ⟨counted, kept⟩ := ih { d with pendingEvents := d.pendingEvents ++ [e] }
      refine ⟨?_, kept⟩
      rw [counted]
      simp only [List.length_append, List.length_cons, List.length_nil]
      congr 2
      omega
    · next full =>
      obtain ⟨counted, kept⟩ := ih { d with metrics := d.metrics.eventDropped }
      refine ⟨?_, kept⟩
      rw [counted]
      simp only [Metrics.eventDropped, List.length_cons]
      congr 1
      omega

def HandsOut (d d' : Driver ω) (ready : Option (Batch × Nat)) : Prop :=
  d'.metrics = ready.elim d.metrics (fun r => d.metrics.delivered r.1.length) ∧
    d'.outbox.deliveries.toList = d.outbox.deliveries.toList ++ ready.toList

theorem pollOnce_handsOut {d d' : Driver ω} {busy : Bool} (polled : d.pollOnce = .ok (busy, d')) :
    ∃ ready, HandsOut d d' ready := by
  unfold pollOnce at polled
  generalize d.records.popBatch (Array.replicate popSize default) = taking at polled
  obtain ⟨n, dst, records⟩ := taking
  obtain ⟨overflows, reported⟩ := reportDrops_eq { d with records, dropped := 0 } d.dropped
  simp only [reported] at polled
  split at polled
  · cases polled
    exact ⟨none, rfl, by simp⟩
  split at polled
  · cases polled
    exact ⟨none, rfl, by simp⟩
  rcases transformed : transform (dst.toList.take n) d.resampler with _ | ⟨out, resampler⟩
  · simp [transformed] at polled
  · simp only [transformed, bind, Except.bind, pure, Except.pure, Except.ok.injEq, Prod.mk.injEq] at polled
    obtain ⟨-, rfl⟩ := polled
    rw [gather_eq]
    exact ⟨_, rfl, by simp⟩

theorem finishPoller_handsOut (d : Driver ω) : ∃ ready, HandsOut d d.finishPoller ready := by
  unfold finishPoller
  split
  · split
    · rename_i batch k _ _
      exact ⟨some (batch, k), rfl, by simp [deliver]⟩
    · exact ⟨none, rfl, by simp⟩
  · exact ⟨none, rfl, by simp⟩

theorem start_error_eq {dev : Devices ω} {d d' : Driver ω} {f : Fault} (failed : (start dev).run' d = (.error f, d')) :
    ∃ (reader : Reader ω) (registry : Registry), d' = { d with reader, registry } := by
  rw [run'_start] at failed
  split at failed
  · cases failed
    exact ⟨d.reader, d.registry, rfl⟩
  split at failed
  · cases failed
    exact ⟨d.reader, d.registry, rfl⟩
  rename_i h registry _
  -- each device call that runs changes the reader only, and every way out gives the handle back
  split at failed
  · rename_i d₁ locked
    cases (Prod.mk.inj (run'_onDevices dev.lock _ ▸ locked)).2
    cases failed
    rw [run'_releaseHandle]
    exact ⟨_, _, rfl⟩
  rename_i d₁ locked
  cases (Prod.mk.inj (run'_onDevices dev.lock _ ▸ locked)).2
  split at failed
  · rename_i d₂ setUp
    cases (Prod.mk.inj (run'_onReader _ _ ▸ setUp)).2
    cases failed
    obtain ⟨world, abandoned⟩ := abandon_eq dev h _
    rw [abandoned]
    exact ⟨_, _, rfl⟩
  rename_i d₂ setUp
  cases (Prod.mk.inj (run'_onReader _ _ ▸ setUp)).2
  split at failed
  · rename_i d₃ armed
    cases (Prod.mk.inj (run'_onReader _ _ ▸ armed)).2
    cases failed
    obtain ⟨world, abandoned⟩ := abandon_eq dev h _
    rw [abandoned]
    exact ⟨_, _, rfl⟩
  · cases failed

/-! ### Happenings and what the counters show -/

def Fetcher.held : Fetcher → Nat
  | .pushing _ => 1
  | _ => 0

/-- What a step of a session's pipeline brings about that a counter counts. -/
inductive Happening where
  /-- A read gave a batch with samples. -/
  | read
  /-- A read failed while the session's context was live. -/
  | failed
  /-- The record queue refused a batch. -/
  | refused
  /-- The fetcher handed out a button event. -/
  | dispatched
  /-- The event queue refused a button event. -/
  | dropped
  deriving DecidableEq

/-- What a state shows of its counting: the counters, the batches the fetcher
holds, and the records of what was delivered, of the requests the board served
with its replies, and of the sessions opened. -/
structure CounterView where
  metrics : Metrics
  held : Nat
  deliveries : List (Batch × Nat)
  served : List (Request × Reply)
  opened : Nat

def Shared.counterView (s : Shared ω) : CounterView :=
  ⟨s.driver.metrics, s.fetcher.held, s.driver.outbox.deliveries.toList, s.served, s.opened⟩

namespace CounterView

/-- The counters of `v'` count, above those of `v`, the happenings `log` and
what was recorded since: each delivery with its samples, each request served
by its direction and whether it failed, and each session opened. -/
structure Accounts (v v' : CounterView) (log : List Happening) : Prop where
  read : v'.metrics.batchesRead + v'.held = v.metrics.batchesRead + v.held + log.count .read
  failed : v'.metrics.readErrors = v.metrics.readErrors + log.count .failed
  refused : v'.metrics.batchesDropped = v.metrics.batchesDropped + log.count .refused
  dispatched : v'.metrics.buttonEvents = v.metrics.buttonEvents + log.count .dispatched
  dropped : v'.metrics.eventsDropped = v.metrics.eventsDropped + log.count .dropped
  delivered : ∃ new, v'.deliveries = v.deliveries ++ new ∧
    v'.metrics.deliveries = v.metrics.deliveries + new.length ∧
    v'.metrics.samplesDelivered = v.metrics.samplesDelivered + (new.map fun x => x.1.length).sum
  served : ∃ asked, v'.served = v.served ++ asked ∧ ∀ dir : Direction,
    v'.metrics.settingsRequests.count dir.name =
      v.metrics.settingsRequests.count dir.name + asked.countP (·.1.direction == dir) ∧
    v'.metrics.settingsErrors.count dir.name =
      v.metrics.settingsErrors.count dir.name + asked.countP fun x => x.1.direction == dir && x.2.error.isSome
  sessions : v'.metrics.sessions + v.opened = v.metrics.sessions + v'.opened

namespace Accounts

variable {v v' v'' : CounterView} {log log' : List Happening}

theorem refl (v : CounterView) : Accounts v v [] :=
  ⟨by simp, by simp, by simp, by simp, by simp, ⟨[], by simp⟩, ⟨[], by simp⟩, rfl⟩

theorem of_eq (same : v' = v) : Accounts v v' [] := same ▸ refl v

theorem trans (first : Accounts v v' log) (second : Accounts v' v'' log') : Accounts v v'' (log ++ log') := by
  obtain ⟨read₁, failed₁, refused₁, dispatched₁, dropped₁, ⟨new₁, out₁, deliveries₁, samples₁⟩,
    ⟨asked₁, served₁, requests₁⟩, sessions₁⟩ := first
  obtain ⟨read₂, failed₂, refused₂, dispatched₂, dropped₂, ⟨new₂, out₂, deliveries₂, samples₂⟩,
    ⟨asked₂, served₂, requests₂⟩, sessions₂⟩ := second
  refine ⟨?_, ?_, ?_, ?_, ?_, ⟨new₁ ++ new₂, ?_, ?_, ?_⟩, ⟨asked₁ ++ asked₂, ?_, fun dir => ?_⟩, by omega⟩
  · simp only [List.count_append]; omega
  · simp only [List.count_append]; omega
  · simp only [List.count_append]; omega
  · simp only [List.count_append]; omega
  · simp only [List.count_append]; omega
  · rw [out₂, out₁, List.append_assoc]
  · simp only [List.length_append]; omega
  · simp only [List.map_append, List.sum_append]; omega
  · rw [served₂, served₁, List.append_assoc]
  · obtain ⟨requested₁, errors₁⟩ := requests₁ dir
    obtain ⟨requested₂, errors₂⟩ := requests₂ dir
    simp only [List.countP_append]
    omega

/-! What each recorder counts. -/

theorem failedRead (after : v' = { v with metrics := v.metrics.readFailed }) : Accounts v v' [.failed] := by
  subst after
  refine ⟨?_, ?_, ?_, ?_, ?_, ⟨[], ?_⟩, ⟨[], ?_⟩, ?_⟩ <;> simp [Metrics.readFailed]

theorem readBatch (after : v' = { v with held := v.held + 1 }) : Accounts v v' [.read] := by
  subst after
  refine ⟨?_, ?_, ?_, ?_, ?_, ⟨[], ?_⟩, ⟨[], ?_⟩, ?_⟩ <;> simp
  omega

/-- The push of the batch the fetcher holds counts it as read, and as dropped
when the record queue refuses it. -/
theorem pushed (accepted : Bool) (holding : v.held = 1)
    (after : v' = { v with metrics := if accepted then v.metrics.batchRead else v.metrics.batchRead.batchDropped,
                           held := 0 }) :
    Accounts v v' (if accepted then [] else [.refused]) := by
  subst after
  cases accepted <;>
    refine ⟨?_, ?_, ?_, ?_, ?_, ⟨[], ?_⟩, ⟨[], ?_⟩, ?_⟩ <;> simp [Metrics.batchRead, Metrics.batchDropped, holding]

theorem dispatchedEvents (k : Nat)
    (after : v' = { v with metrics := { v.metrics with buttonEvents := v.metrics.buttonEvents + k } }) :
    Accounts v v' (List.replicate k .dispatched) := by
  subst after
  refine ⟨?_, ?_, ?_, ?_, ?_, ⟨[], ?_⟩, ⟨[], ?_⟩, ?_⟩ <;> simp [List.count_replicate]

theorem droppedEvents (k : Nat)
    (after : v' = { v with metrics := { v.metrics with eventsDropped := v.metrics.eventsDropped + k } }) :
    Accounts v v' (List.replicate k .dropped) := by
  subst after
  refine ⟨?_, ?_, ?_, ?_, ?_, ⟨[], ?_⟩, ⟨[], ?_⟩, ?_⟩ <;> simp [List.count_replicate]

theorem handedOut (ready : Option (Batch × Nat))
    (after : v' = { v with metrics := ready.elim v.metrics fun r => v.metrics.delivered r.1.length,
                           deliveries := v.deliveries ++ ready.toList }) :
    Accounts v v' [] := by
  subst after
  refine ⟨?_, ?_, ?_, ?_, ?_, ⟨ready.toList, rfl, ?_, ?_⟩, ⟨[], ?_⟩, ?_⟩ <;>
    cases ready <;> simp [Metrics.delivered]

/-- A request the board served is recorded with its reply and counted by its
direction, as failed when the reply carries an error. -/
theorem answered (r : Request) (reply : Reply)
    (after : v' = { v with metrics := v.metrics.settingsRequest r.direction.name reply.error.isSome,
                           served := v.served ++ [(r, reply)] }) :
    Accounts v v' [] := by
  subst after
  refine ⟨rfl, rfl, rfl, rfl, rfl, ⟨[], by simp, rfl, rfl⟩, ⟨[(r, reply)], rfl, fun dir => ⟨?_, ?_⟩⟩, rfl⟩ <;>
    simp [Metrics.settingsRequests_count, Metrics.settingsErrors_count, and_comm]

theorem opened (after : v' = { v with metrics := v.metrics.sessionStarted, opened := v.opened + 1 }) :
    Accounts v v' [] := by
  subst after
  refine ⟨?_, ?_, ?_, ?_, ?_, ⟨[], ?_⟩, ⟨[], ?_⟩, ?_⟩ <;> simp [Metrics.sessionStarted]
  omega

theorem stopped (after : v' = { v with metrics := v.metrics.sessionStopped }) : Accounts v v' [] := by
  subst after
  refine ⟨?_, ?_, ?_, ?_, ?_, ⟨[], ?_⟩, ⟨[], ?_⟩, ?_⟩ <;> simp [Metrics.sessionStopped]

end Accounts

end CounterView

namespace Shared

open CounterView

/-- What one step from `s` brings about that a counter counts. A read counts by
what it gave: a batch with samples, or a failure while the session's context is
live; a push by the record queue's answer; handing the waiting button events
out by their number; queueing a report by the button events beyond the room
left in the event queue. -/
def happened (dev : Devices ω) (s : Shared ω) : Action → List Happening
  | .fetch =>
    match s.fetcher with
    | .reading =>
      if !s.work then []
      else match ((Reader.read dev.sampler).run' s.driver.reader).1 with
        | .ok b => if b.isEmpty then [] else [.read]
        | .error _ => if s.cancelled then [] else [.failed]
    | .pushing b => if (s.driver.records.push b).1 then [] else [.refused]
    | .dispatching => List.replicate s.driver.pendingEvents.length .dispatched
    | .exited => []
  | .control =>
    match s.controller with
    | .queueing events =>
      List.replicate ((events.filter (·.button)).length - (eventCapacity - s.driver.pendingEvents.length)) .dropped
    | _ => []
  | _ => []

def happenings (dev : Devices ω) : Shared ω → List Action → List Happening
  | _, [] => []
  | s, a :: rest => s.happened dev a ++ happenings dev (s.step dev a) rest

theorem accounts_fetch (dev : Devices ω) (s : Shared ω) :
    s.counterView.Accounts (s.fetch dev).counterView (s.happened dev .fetch) := by
  unfold Shared.fetch happened
  cases hf : s.fetcher with
  | exited => exact .of_eq rfl
  | reading =>
    cases work : s.work
    · exact .of_eq (by simp [counterView, hf, Fetcher.held])
    rcases read : (Reader.read dev.sampler).run' s.driver.reader with ⟨_ | b, reader⟩
    · cases cancelled : s.cancelled
      · exact .failedRead (by simp [counterView, hf, takeRead])
      · exact .of_eq (by simp [counterView, hf, Fetcher.held])
    · dsimp only
      cases empty : b.isEmpty
      · exact .readBatch (by simp [counterView, hf, Fetcher.held])
      · exact .of_eq (by simp [counterView, hf, Fetcher.held])
  | pushing b =>
    obtain ⟨counted, kept⟩ := enqueue_counts { s.driver with metrics := s.driver.metrics.batchRead } b
    exact .pushed _ (by simp [counterView, hf, Fetcher.held])
      (by simp [counterView, counted, kept, Fetcher.held])
  | dispatching =>
    exact .dispatchedEvents _ (by simp [counterView, hf, dispatchEvents_eq, Fetcher.held])

theorem accounts_poll (s : Shared ω) : s.counterView.Accounts s.poll.counterView [] := by
  unfold Shared.poll
  cases hp : s.poller with
  | exited | crashed | polling => exact .of_eq rfl
  | popping =>
    dsimp only
    rcases polled : s.driver.pollOnce with _ | ⟨busy, d⟩
    · exact .of_eq rfl
    · obtain ⟨ready, counted, delivered⟩ := pollOnce_handsOut polled
      exact .handedOut ready (by simp [counterView, counted, delivered])
  | flushing =>
    obtain ⟨ready, counted, delivered⟩ := finishPoller_handsOut s.driver
    exact .handedOut ready (by simp [counterView, counted, delivered])

theorem accounts_serve (dev : Devices ω) (s : Shared ω) (step : Serving) :
    s.counterView.Accounts (s.serve dev step).2.counterView [] := by
  cases step with
  | popping =>
    simp only [Shared.serve]
    rcases s.requests.pop with ⟨_ | r, q⟩ <;> exact .of_eq rfl
  | answering r => exact .answered r _ rfl
  | replying resp => exact .of_eq rfl

theorem accounts_control (dev : Devices ω) (s : Shared ω) :
    s.counterView.Accounts (s.control dev).counterView (s.happened dev .control) := by
  unfold Shared.control happened
  cases hc : s.controller with
  | exited => exact .of_eq rfl
  | looping =>
    dsimp only
    split <;> exact .of_eq rfl
  | queueing events =>
    obtain ⟨counted, kept⟩ := queueEvents_counts s.driver events
    exact .droppedEvents _ (by simp [counterView, counted, kept])
  | serving step =>
    dsimp only
    have served := accounts_serve dev s step
    rcases h : s.serve dev step with ⟨_ | next, s'⟩ <;> rw [h] at served <;> exact served

theorem accounts_begin (dev : Devices ω) (s : Shared ω) (i : Nat) (c : Call) :
    s.counterView.Accounts (s.begin dev i c).counterView [] := by
  cases c with
  | start =>
    simp only [Shared.begin]
    split
    · exact .of_eq rfl
    rcases started : (start dev).run' s.driver with ⟨_ | ⟨⟩, d⟩
    · obtain ⟨reader, registry, rfl⟩ := start_error_eq started
      exact .of_eq rfl
    · obtain ⟨-, -, -, rfl⟩ := start_success started
      exact .opened rfl
  | stop close =>
    simp only [Shared.begin]
    split
    · exact .of_eq rfl
    · split <;> exact .of_eq rfl
  | configure c =>
    simp only [Shared.begin]
    split
    · exact .of_eq rfl
    · have reconfigured := (change_reconfigures c s.driver).eq
      exact .of_eq (by simp [counterView, setCaller, congrArg Driver.metrics reconfigured,
        congrArg Driver.outbox reconfigured])
  | query q =>
    simp only [Shared.begin]
    split <;> exact .of_eq rfl
  | settings direction payload =>
    simp only [Shared.begin]
    split <;> exact .of_eq rfl

theorem accounts_tearDown (dev : Devices ω) (s : Shared ω) (i : Nat) (close : Bool) :
    s.counterView.Accounts (s.tearDown dev i close).counterView [] := by
  unfold Shared.tearDown
  split
  · exact .of_eq rfl
  rename_i h _
  obtain ⟨world, abandoned⟩ := abandon_eq dev h s.driver
  exact .stopped (by simp [counterView, setCaller, teardown_state, abandoned])

theorem accounts_resume (dev : Devices ω) {s : Shared ω} (sound : s.Sound) (i : Nat) (quit : Option Expiry) :
    s.counterView.Accounts (s.resume dev i quit).counterView [] := by
  cases hc : s.callers i with
  | calling c =>
    simp only [Shared.resume, hc]
    exact accounts_begin dev s i c
  | launching =>
    simp only [Shared.resume, hc]
    -- a Start launches the threads once the last session's have ended, so
    -- the fetcher it restarts holds no batch
    have exited : s.fetcher = .exited := by
      have ended := (sound.launching i (by rw [hc]; rfl)).2
      cases hf : s.fetcher <;> simp_all [Shared.joined]
    exact .of_eq (by simp [counterView, setCaller, exited, Fetcher.held])
  | tearingDown close =>
    simp only [Shared.resume, hc]
    split
    · exact .of_eq rfl
    · exact accounts_tearDown dev s i close
  | serving r queued step =>
    simp only [Shared.resume, hc]
    have served := accounts_serve dev s step
    rcases h : s.serve dev step with ⟨_ | next, s'⟩ <;> rw [h] at served <;> exact served
  | idle | returned _ | announcing | cancelling _ | joining _ | clearing _ | awaiting _ | draining _ | offering _
    | stalled _ | sleeping _ _ | waiting _ | collecting _ =>
    -- these move callers, locks, flags and the settings queues, and a Stop's
    -- draining empties the queues of batches and events: nothing counted
    simp only [Shared.resume, hc]
    repeat' split
    all_goals exact .of_eq rfl

theorem accounts_step (dev : Devices ω) {s : Shared ω} (sound : s.Sound) (a : Action) :
    s.counterView.Accounts (s.step dev a).counterView (s.happened dev a) := by
  cases a with
  | call i c =>
    simp only [Shared.step]
    split <;> exact .of_eq rfl
  | resume i quit => exact accounts_resume dev sound i quit
  | fetch => exact accounts_fetch dev s
  | poll => exact accounts_poll s
  | control => exact accounts_control dev s

theorem accounts_run (dev : Devices ω) {s : Shared ω} (sound : s.Sound) (actions : List Action) :
    s.counterView.Accounts (s.run dev actions).counterView (s.happenings dev actions) := by
  induction actions generalizing s with
  | nil => exact .refl _
  | cons a rest ih => exact (accounts_step dev sound a).trans (ih (sound.step dev a))

end Shared

/-- Over any run of a driver at rest, each counter grows by exactly what it
counts: batches read by the reads that gave samples, less the batch the fetcher
holds unpushed; read errors by the reads that failed while the session's
context was live; dropped batches by the record queue's refusals; button events
by those the fetcher handed out; dropped events by the event queue's refusals;
deliveries and delivered samples by the bursts handed to the data callback;
settings requests and errors, by direction, by the requests the board served
and those whose reply carried an error; sessions by the sessions opened. -/
theorem counters_count_the_pipeline (dev : Devices ω) (d : Driver ω) (actions : List Action) :
    let e := (Shared.init d).run dev actions
    let log := (Shared.init d).happenings dev actions
    e.driver.metrics.batchesRead + e.fetcher.held = d.metrics.batchesRead + log.count .read ∧
    e.driver.metrics.readErrors = d.metrics.readErrors + log.count .failed ∧
    e.driver.metrics.batchesDropped = d.metrics.batchesDropped + log.count .refused ∧
    e.driver.metrics.buttonEvents = d.metrics.buttonEvents + log.count .dispatched ∧
    e.driver.metrics.eventsDropped = d.metrics.eventsDropped + log.count .dropped ∧
    (∃ new, e.driver.outbox.deliveries.toList = d.outbox.deliveries.toList ++ new ∧
      e.driver.metrics.deliveries = d.metrics.deliveries + new.length ∧
      e.driver.metrics.samplesDelivered = d.metrics.samplesDelivered + (new.map fun x => x.1.length).sum) ∧
    (∀ dir : Direction,
      e.driver.metrics.settingsRequests.count dir.name =
        d.metrics.settingsRequests.count dir.name + e.served.countP (·.1.direction == dir) ∧
      e.driver.metrics.settingsErrors.count dir.name =
        d.metrics.settingsErrors.count dir.name + e.served.countP fun x => x.1.direction == dir && x.2.error.isSome) ∧
    e.driver.metrics.sessions = d.metrics.sessions + e.opened := by
  intro e log
  obtain ⟨read, failed, refused, dispatched, dropped, delivered, ⟨asked, served, requests⟩, sessions⟩ :=
    Shared.accounts_run dev (Shared.Sound.init d) actions
  -- the driver at rest has served no request and opened no session
  have asked_all : e.served = asked := served
  refine ⟨read, failed, refused, dispatched, dropped, delivered, fun dir => asked_all ▸ requests dir, sessions⟩

end Driver

end Acquisition
