import Acquisition.Proofs.Driver.Discipline
import Acquisition.Proofs.Driver.Pipeline
import Acquisition.Proofs.Queue.Fifo
import Mathlib
/-! Every session ends in exactly one teardown: while a Stop is under way every other call but a
settings call returns at once, and its last section ends the session once. -/
namespace Acquisition

variable {ω : Type}

/-- Devices whose lock, configuration and arming always succeed. -/
structure Devices.Compliant (dev : Devices ω) : Prop where
  lock : ∀ w, (dev.lock.run' w).1 = .ok ()
  configure : ∀ m w, ((dev.sampler.configure m).run' w).1 = .ok ()
  arm : ∀ w, (dev.sampler.arm.run' w).1 = .ok ()

namespace Driver

/-! ### Calls made while a Stop is under way -/

/-- What a call made while a Stop is under way returns at its first step; a
settings call goes on as at any other time. -/
def Call.whileStopping (d : Driver ω) : Call → Option Outcome
  | .start => some (.done (.error alreadyStarted))
  | .stop close => some (.done (if close then .ok () else .error notStarted))
  | .configure c => some (.done (.error (c.refusal.getD sessionActive)))
  | .query q => some (.answered (q.read d))
  | .settings _ _ => none

/-- On a driver with no session and a free registry, a Start succeeds when the
devices do. -/
theorem start_ok_of_free {dev : Devices ω} (compliant : dev.Compliant) {d : Driver ω}
    (idle : d.active = false) (free : d.registry.busy = false) : ((start dev).run' d).1 = .ok () := by
  have none : d.registry.active = none := by simpa [Registry.busy] using free
  rw [run'_start, if_neg (by simp [idle]), Registry.acquire_free none]
  simp only [run'_onDevices, run'_onReader, Reader.run'_setup, Reader.run'_start, world]
  -- each device call succeeds, so every match takes its success branch
  rcases locked : dev.lock.run' d.reader.sampler with ⟨_ | ⟨⟩, w₁⟩
  · simpa [locked] using compliant.lock d.reader.sampler
  rcases verified : dev.verify.run' w₁ with ⟨_, w₂⟩
  rcases configured : (dev.sampler.configure d.reader.calibration.mode).run' w₂ with ⟨_ | ⟨⟩, w₃⟩
  · simpa [configured] using compliant.configure d.reader.calibration.mode w₂
  cases armed : d.reader.armed
  · rcases arming : dev.sampler.arm.run' w₃ with ⟨_ | ⟨⟩, w₄⟩
    · simpa [arming] using compliant.arm w₃
    · simp [verified, configured, arming]
  · simp [verified, configured]

/-! ### What the bookkeeping of sessions reads -/

/-- What the bookkeeping of sessions reads of a driver: its session, the
registry and whether the reader is armed. -/
structure Lease where
  session : Option Handle
  registry : Registry
  armed : Bool

/-- What a Stop empties: the record queue, the button events waiting and the
count of dropped batches. -/
structure Backlog where
  records : Ring Batch
  events : List Event
  dropped : UInt64

def lease (d : Driver ω) : Lease := ⟨d.session, d.registry, d.reader.armed⟩

def backlog (d : Driver ω) : Backlog := ⟨d.records, d.pendingEvents, d.dropped⟩

/-! The session's loops keep the lease, and move the record queue by a push or
a batch of pops at most. -/

@[simp] theorem lease_enqueue (d : Driver ω) (b : Batch) : (d.enqueue b).lease = d.lease := by
  simp [lease]

@[simp] theorem lease_dispatchEvents (d : Driver ω) : d.dispatchEvents.lease = d.lease := by
  simp [lease]

@[simp] theorem lease_takeRead (d : Driver ω) (r : Except Fault Batch) : (d.takeRead r).lease = d.lease := by
  simp [lease]

@[simp] theorem lease_finishPoller (d : Driver ω) : d.finishPoller.lease = d.lease := by
  simp [lease]

@[simp] theorem lease_queueEvents (d : Driver ω) (events : List Event) : (d.queueEvents events).lease = d.lease := by
  simp [lease]

theorem records_enqueue (d : Driver ω) (b : Batch) : (d.enqueue b).records = (d.records.push b).2 := by
  unfold enqueue
  rcases pushed : d.records.push b with ⟨_ | _, q⟩
  · -- a refused push leaves the queue as it was
    have refused := Ring.push_eq_of_refused d.records b (by rw [pushed])
    rw [pushed] at refused
    exact refused.symm
  · rfl

@[simp] theorem records_dispatchEvents (d : Driver ω) : d.dispatchEvents.records = d.records := by
  rw [dispatchEvents_eq]

@[simp] theorem records_finishPoller (d : Driver ω) : d.finishPoller.records = d.records := by
  unfold finishPoller
  repeat' split
  all_goals rfl

@[simp] theorem records_queueEvents (d : Driver ω) (events : List Event) :
    (d.queueEvents events).records = d.records := by
  unfold queueEvents
  induction events.filter (·.button) generalizing d with
  | nil => rfl
  | cons e rest ih =>
    simp only [List.foldl_cons]
    split
    · exact ih _
    · exact ih _

theorem records_of_backlog {d d' : Driver ω} (same : d'.backlog = d.backlog) : d'.records = d.records :=
  congrArg Backlog.records same

theorem events_of_backlog {d d' : Driver ω} (same : d'.backlog = d.backlog) : d'.pendingEvents = d.pendingEvents :=
  congrArg Backlog.events same

theorem dropped_of_backlog {d d' : Driver ω} (same : d'.backlog = d.backlog) : d'.dropped = d.dropped :=
  congrArg Backlog.dropped same

namespace Caller

def ended : Caller → Bool
  | .returned _ => true
  | _ => false

def closing : Caller → Bool
  | .tearingDown _ => true
  | _ => false

theorem joined_of_closing {c : Caller} (closing : c.closing) : c.role.joined := by
  cases c <;> simp_all [Caller.closing, role]

/-- How a step that leaves the sessions alone may move a caller: never out of
a returned call, never into a Stop's last section, and never into or out of a
Stop's sections. -/
def Shifts (c c' : Caller) : Prop :=
  c' = c ∨ (c.ended = false ∧ c'.closing = false ∧ c'.role.stop = c.role.stop)

theorem Shifts.refl (c : Caller) : c.Shifts c := .inl rfl

end Caller

namespace Shared

/-! ### The window of a Stop -/

theorem Sound.owner_of_stopping {s : Shared ω} (sound : s.Sound) (stopping : s.stopping = true) :
    s.owner = none := by
  cases owner : s.owner with
  | none => rfl
  | some i =>
    have := (sound.ownerActive i ((sound.lock i).mp owner)).2
    simp_all

theorem Sound.active_of_stopping {s : Shared ω} (sound : s.Sound) (stopping : s.stopping = true) :
    s.driver.active = true := by
  obtain ⟨i, stop⟩ := sound.stopping.mp stopping
  exact sound.stopActive i stop

/-- While a Stop is under way, every call but a settings call returns at its
first step as `whileStopping` says, and changes nothing else. -/
theorem begin_while_stopping (dev : Devices ω) {s : Shared ω} (sound : s.Sound) (stopping : s.stopping = true)
    (i : Nat) {c : Call} {o : Outcome} (outcome : c.whileStopping s.driver = some o) :
    s.begin dev i c = s.setCaller i (.returned o) := by
  have free := sound.owner_of_stopping stopping
  have active := sound.active_of_stopping stopping
  cases c with
  | start =>
    simp only [Call.whileStopping, Option.some.injEq] at outcome
    subst outcome
    simp only [begin, free, Option.isSome_none, run'_start, active]
    rfl
  | stop close =>
    simp only [Call.whileStopping, Option.some.injEq] at outcome
    subst outcome
    -- a session that is being stopped is no session to stop
    have refused : stopRefusal s.driver s.stopping = some notStarted := by
      rw [stopping]
      exact stopRefusal_of_stopping _
    cases close <;> simp [begin, free, refused, excuse, notStarted]
  | configure c =>
    simp only [Call.whileStopping, Option.some.injEq] at outcome
    subst outcome
    simp only [begin, free, Option.isSome_none, change_active c active]
    rfl
  | query q =>
    simp only [Call.whileStopping, Option.some.injEq] at outcome
    subst outcome
    simp [begin, free]
  | settings direction payload => cases outcome

/-! ### The ways a step moves the bookkeeping of sessions -/

/-- A step that leaves the bookkeeping of sessions alone. The session's loops
may move batches and events, but not once a Stop is in its last section. -/
structure Frame (s s' : Shared ω) : Prop where
  lease : s'.driver.lease = s.driver.lease
  opened : s'.opened = s.opened
  closedBy : s'.closedBy = s.closedBy
  stopping : s'.stopping = s.stopping
  bounded : s.driver.records.Bounded → s'.driver.records.Bounded
  backlog : (∃ i, (s.callers i).closing) → s'.driver.backlog = s.driver.backlog
  callers : ∀ i, (s.callers i).Shifts (s'.callers i)

namespace Frame

theorem refl (s : Shared ω) : Frame s s :=
  ⟨rfl, rfl, rfl, rfl, id, fun _ => rfl, fun _ => .refl _⟩

theorem of_callers {s s' : Shared ω} (callers : ∀ i, (s.callers i).Shifts (s'.callers i))
    (lease : s'.driver.lease = s.driver.lease) (backlog : s'.driver.backlog = s.driver.backlog)
    (opened : s'.opened = s.opened) (closedBy : s'.closedBy = s.closedBy) (stopping : s'.stopping = s.stopping) :
    Frame s s' where
  lease := lease
  opened := opened
  closedBy := closedBy
  stopping := stopping
  bounded := by
    rw [records_of_backlog backlog]
    exact id
  backlog _ := backlog
  callers := callers

/-- A step of one of the session's loops, which runs only while no Stop has
joined them. -/
theorem of_loop {s s' : Shared ω} (sound : s.Sound) (live : s.joined = false) (callers : s'.callers = s.callers)
    (lease : s'.driver.lease = s.driver.lease) (bounded : s.driver.records.Bounded → s'.driver.records.Bounded)
    (opened : s'.opened = s.opened) (closedBy : s'.closedBy = s.closedBy) (stopping : s'.stopping = s.stopping) :
    Frame s s' where
  lease := lease
  opened := opened
  closedBy := closedBy
  stopping := stopping
  bounded := bounded
  backlog := by
    rintro ⟨i, closing⟩
    have := (sound.alive live).2 i
    simp [Caller.joined_of_closing closing] at this
  callers i := by rw [callers]; exact .refl _

theorem of_same {s s' : Shared ω} (callers : s'.callers = s.callers) (lease : s'.driver.lease = s.driver.lease)
    (backlog : s'.driver.backlog = s.driver.backlog) (opened : s'.opened = s.opened)
    (closedBy : s'.closedBy = s.closedBy) (stopping : s'.stopping = s.stopping) : Frame s s' :=
  of_callers (fun i => by rw [callers]; exact .refl _) lease backlog opened closedBy stopping

end Frame

theorem shifts_setCaller {s t : Shared ω} (same : t.callers = s.callers) {i : Nat} {c : Caller}
    (shifts : (s.callers i).Shifts c) (j : Nat) : (s.callers j).Shifts ((t.setCaller i c).callers j) := by
  simp only [setCaller]
  split
  · subst_vars
    exact shifts
  · rw [same]
    exact .refl _

/-- A caller moves to `c`, perhaps taking or giving back a lock; nothing the
bookkeeping reads changes. -/
theorem Frame.move {s s' : Shared ω} {i : Nat} {c : Caller} (shifts : (s.callers i).Shifts c)
    (callers : s'.callers = (s.setCaller i c).callers) (driver : s'.driver = s.driver) (opened : s'.opened = s.opened)
    (closedBy : s'.closedBy = s.closedBy) (stopping : s'.stopping = s.stopping) : Frame s s' :=
  .of_callers (fun j => callers ▸ shifts_setCaller rfl shifts j) (by rw [driver]) (by rw [driver]) opened closedBy
    stopping

theorem Frame.setCaller {s t : Shared ω} (frame : Frame s t) (same : t.callers = s.callers) {i : Nat} {c : Caller}
    (shifts : (s.callers i).Shifts c) : Frame s (t.setCaller i c) where
  lease := frame.lease
  opened := frame.opened
  closedBy := frame.closedBy
  stopping := frame.stopping
  bounded := frame.bounded
  backlog := frame.backlog
  callers := shifts_setCaller same shifts

/-- The ways a step moves the bookkeeping of sessions. -/
inductive Turn (dev : Devices ω) (s : Shared ω) : Shared ω → Prop where
  /-- Nothing the bookkeeping reads changes. -/
  | quiet {s' : Shared ω} (frame : Frame s s') : Turn dev s s'
  /-- A Start opens a session; it keeps the driver's lock. -/
  | launch {i : Nat} {d : Driver ω} (hc : s.callers i = .calling .start)
      (started : (start dev).run' s.driver = (.ok (), d)) :
      Turn dev s { s.setCaller i .announcing with
        driver := d, owner := some i, work := true, cancelled := false, opened := s.opened + 1 }
  /-- A Start fails. -/
  | refuse {i : Nat} {f : Fault} {d : Driver ω} (hc : s.callers i = .calling .start)
      (failed : (start dev).run' s.driver = (.error f, d)) :
      Turn dev s { s.setCaller i (.returned (.done (.error f))) with driver := d }
  /-- A Stop finds a session to end and raises the flag. -/
  | raise {i : Nat} {close : Bool} (hc : s.callers i = .calling (.stop close))
      (accepted : stopRefusal s.driver s.stopping = none) :
      Turn dev s { s.setCaller i (.cancelling close) with stopping := true, work := false }
  /-- A Stop empties the queues. -/
  | drain {i : Nat} {close : Bool} (hc : s.callers i = .draining close) :
      Turn dev s { s.setCaller i (.tearingDown close) with
        driver := s.driver.drainQueues, requests := s.requests.drain.2, responses := s.responses.drain.2,
        settingsOwner := none }
  /-- A Stop ends the session and lowers the flag. -/
  | finish {i : Nat} {close : Bool} {h : Handle} {r : Except Fault Unit} {d : Driver ω}
      (hc : s.callers i = .tearingDown close) (session : s.driver.session = some h)
      (ended : (teardown dev h).run' s.driver = (r, d)) :
      Turn dev s { s.setCaller i (.returned (.done (if close then excuse r else r))) with
        driver := d, stopping := false, closedBy := s.closedBy ++ [i] }

/-- Serving the request queue touches no caller and nothing the bookkeeping
of sessions reads. -/
theorem serve_quiet (dev : Devices ω) (s : Shared ω) (step : Serving) :
    (s.serve dev step).2.callers = s.callers ∧ Frame s (s.serve dev step).2 := by
  unfold Shared.serve
  split
  · split <;> exact ⟨rfl, .of_same rfl rfl rfl rfl rfl rfl⟩
  · exact ⟨rfl, .of_same rfl rfl rfl rfl rfl rfl⟩
  · exact ⟨rfl, .of_same rfl rfl rfl rfl rfl rfl⟩

theorem turn_begin (dev : Devices ω) {s : Shared ω} {i : Nat} {c : Call} (hc : s.callers i = .calling c) :
    Turn dev s (s.begin dev i c) := by
  have returns : ∀ o, (s.callers i).Shifts (.returned o) := fun o => by rw [hc]; exact .inr ⟨rfl, rfl, rfl⟩
  cases c with
  | start =>
    simp only [begin]
    split
    · exact .quiet (.refl s)
    rcases started : (start dev).run' s.driver with ⟨f | ⟨⟩, d⟩
    · exact .refuse hc started
    · exact .launch hc started
  | stop close =>
    simp only [begin]
    split
    · exact .quiet (.refl s)
    rcases refusal : stopRefusal s.driver s.stopping with _ | f
    · exact .raise hc refusal
    · exact .quiet (.move (returns _) rfl rfl rfl rfl rfl)
  | configure c =>
    simp only [begin]
    split
    · exact .quiet (.refl s)
    -- a change of configuration touches neither the session nor the queues
    have eq := (change_reconfigures c s.driver).eq
    rcases changed : c.change.run' s.driver with ⟨r, d⟩
    rw [changed] at eq
    exact .quiet (.of_callers (shifts_setCaller rfl (returns _)) (by rw [eq]; rfl) (by rw [eq]; rfl) rfl rfl rfl)
  | query q =>
    simp only [begin]
    split
    · exact .quiet (.refl s)
    · exact .quiet (.move (returns _) rfl rfl rfl rfl rfl)
  | settings direction payload =>
    simp only [begin]
    split
    · exact .quiet (.refl s)
    · exact .quiet (.move (by rw [hc]; exact .inr ⟨rfl, rfl, rfl⟩) rfl rfl rfl rfl rfl)

theorem turn_resume (dev : Devices ω) (s : Shared ω) (i : Nat) (quit : Option Expiry) :
    Turn dev s (s.resume dev i quit) := by
  cases hc : s.callers i with
  | idle | returned _ =>
    simp only [Shared.resume, hc]
    exact .quiet (.refl s)
  | calling c =>
    simp only [Shared.resume, hc]
    exact turn_begin dev hc
  | announcing | awaiting _ | joining _ =>
    simp only [Shared.resume, hc]
    split
    all_goals first
      | exact .quiet (.refl s)
      | exact .quiet (.move (by rw [hc]; exact .inr ⟨rfl, rfl, rfl⟩) rfl rfl rfl rfl rfl)
  | launching | cancelling _ | clearing _ =>
    simp only [Shared.resume, hc]
    exact .quiet (.move (by rw [hc]; exact .inr ⟨rfl, rfl, rfl⟩) rfl rfl rfl rfl rfl)
  | stalled r | waiting r =>
    simp only [Shared.resume, hc]
    split <;> exact .quiet (.move (by rw [hc]; exact .inr ⟨rfl, rfl, rfl⟩) rfl rfl rfl rfl rfl)
  | draining close =>
    simp only [Shared.resume, hc]
    exact .drain hc
  | tearingDown close =>
    simp only [Shared.resume, hc]
    split
    · exact .quiet (.refl s)
    rcases session : s.driver.session with _ | h
    · simp only [Shared.tearDown, session]
      exact .quiet (.refl s)
    · rcases ended : (teardown dev h).run' s.driver with ⟨r, d⟩
      simp only [Shared.tearDown, session, ended]
      exact .finish hc session ended
  | offering r =>
    simp only [Shared.resume, hc]
    split <;> exact .quiet (.move (by rw [hc]; exact .inr ⟨rfl, rfl, rfl⟩) rfl rfl rfl rfl rfl)
  | sleeping r queued =>
    simp only [Shared.resume, hc]
    cases quit with
    | some e => exact .quiet (.move (by rw [hc]; exact .inr ⟨rfl, rfl, rfl⟩) rfl rfl rfl rfl rfl)
    | none => exact .quiet (.move (by rw [hc]; cases queued <;> exact .inr ⟨rfl, rfl, rfl⟩) rfl rfl rfl rfl rfl)
  | collecting r =>
    simp only [Shared.resume, hc]
    split
    · exact .quiet (.move (by rw [hc]; exact .inr ⟨rfl, rfl, rfl⟩) rfl rfl rfl rfl rfl)
    · split
      · exact .quiet (.move (by rw [hc]; exact .inr ⟨rfl, rfl, rfl⟩) rfl rfl rfl rfl rfl)
      · exact .quiet (.move (by rw [hc]; exact .inr ⟨rfl, rfl, rfl⟩) rfl rfl rfl rfl rfl)
  | serving r queued step =>
    simp only [Shared.resume, hc]
    obtain ⟨callers, frame⟩ := serve_quiet dev s step
    split
    · rename_i next s' served
      rw [served] at callers frame
      exact .quiet (frame.setCaller callers (by rw [hc]; exact .inr ⟨rfl, rfl, rfl⟩))
    · rename_i s' served
      rw [served] at callers frame
      exact .quiet (frame.setCaller callers (by rw [hc]; cases queued <;> exact .inr ⟨rfl, rfl, rfl⟩))

/-! The session's loops run only while no Stop has joined them, so they never
move the queues under a Stop's last section. -/

theorem turn_fetch (dev : Devices ω) {s : Shared ω} (sound : s.Sound) : Turn dev s (s.fetch dev) := by
  unfold Shared.fetch
  cases hf : s.fetcher with
  | exited => exact .quiet (.refl s)
  | reading =>
    have live : s.joined = false := by simp [joined, hf]
    dsimp only
    split
    · exact .quiet (.of_loop sound live rfl rfl id rfl rfl rfl)
    rcases read : (Reader.read dev.sampler).run' s.driver.reader with ⟨r, reader⟩
    -- a read moves the devices only
    have armed : reader.armed = s.driver.reader.armed := by
      have moved := Reader.read_frame dev.sampler s.driver.reader
      rw [read] at moved
      exact (congrArg Reader.armed moved :)
    have kept : { s.driver with reader }.lease = s.driver.lease := by simp [lease, armed]
    dsimp only
    split
    · split
      · exact .quiet (.of_loop sound live rfl kept id rfl rfl rfl)
      · exact .quiet (.of_loop sound live rfl (by rw [lease_takeRead, kept]) id rfl rfl rfl)
    · exact .quiet (.of_loop sound live rfl kept id rfl rfl rfl)
  | pushing b =>
    have live : s.joined = false := by simp [joined, hf]
    refine .quiet (.of_loop sound live rfl (by simp [lease]) (fun bounded => ?_) rfl rfl rfl)
    rw [records_enqueue]
    exact Ring.push_bounded bounded b
  | dispatching =>
    have live : s.joined = false := by simp [joined, hf]
    exact .quiet (.of_loop sound live rfl (by simp) (by simp) rfl rfl rfl)

theorem turn_poll (dev : Devices ω) {s : Shared ω} (sound : s.Sound) : Turn dev s s.poll := by
  unfold Shared.poll
  cases hp : s.poller with
  | exited | crashed => exact .quiet (.refl s)
  | polling => exact .quiet (.of_loop sound (by simp [joined, hp]) rfl rfl id rfl rfl rfl)
  | popping =>
    have live : s.joined = false := by simp [joined, hp]
    dsimp only
    rcases polled : s.driver.pollOnce with _ | ⟨busy, d⟩
    · exact .quiet (.of_loop sound live rfl rfl id rfl rfl rfl)
    · obtain ⟨session, registry, reader, -, records⟩ := pollOnce_frame polled
      refine .quiet (.of_loop sound live rfl (by simp [lease, session, registry, reader]) (fun bounded => ?_)
        rfl rfl rfl)
      rw [records]
      exact Ring.popBatch_bounded bounded _
  | flushing => exact .quiet (.of_loop sound (by simp [joined, hp]) rfl (by simp) (by simp) rfl rfl rfl)

theorem turn_control (dev : Devices ω) {s : Shared ω} (sound : s.Sound) : Turn dev s (s.control dev) := by
  unfold Shared.control
  cases hc : s.controller with
  | exited => exact .quiet (.refl s)
  | looping =>
    have live : s.joined = false := by simp [joined, hc]
    dsimp only
    split
    · exact .quiet (.of_loop sound live rfl rfl id rfl rfl rfl)
    · exact .quiet (.of_loop sound live rfl rfl id rfl rfl rfl)
  | queueing events =>
    exact .quiet (.of_loop sound (by simp [joined, hc]) rfl (by simp) (by simp) rfl rfl rfl)
  | serving step =>
    obtain ⟨callers, frame⟩ := serve_quiet dev s step
    dsimp only
    rcases served : s.serve dev step with ⟨_ | next, s'⟩
    all_goals
      rw [served] at callers frame
      exact .quiet ⟨frame.lease, frame.opened, frame.closedBy, frame.stopping, frame.bounded, frame.backlog,
        fun i => by rw [show s'.callers = s.callers from callers]; exact .refl _⟩

theorem turn_step (dev : Devices ω) {s : Shared ω} (sound : s.Sound) (a : Action) : Turn dev s (s.step dev a) := by
  cases a with
  | call i c =>
    simp only [Shared.step]
    split
    · rename_i idle
      have hc : s.callers i = .idle := by
        revert idle
        cases s.callers i <;> simp
      exact .quiet (.move (by rw [hc]; exact .inr ⟨rfl, rfl, rfl⟩) rfl rfl rfl rfl rfl)
    · exact .quiet (.refl s)
  | resume i quit => exact turn_resume dev s i quit
  | fetch => exact turn_fetch dev sound
  | poll => exact turn_poll dev sound
  | control => exact turn_control dev sound

/-! ### The invariant of the bookkeeping -/

/-- The end of a Stop leaves no session and the reader disarmed, gives back a
handle the registry held, and leaves the queues as they were. -/
theorem teardown_ends {dev : Devices ω} {h : Handle} {d d' : Driver ω} {r : Except Fault Unit}
    (ended : (teardown dev h).run' d = (r, d')) (held : d.registry.active = some h) :
    d'.session = none ∧ d'.registry.active = none ∧ d'.reader.armed = false ∧ d'.backlog = d.backlog := by
  have state := teardown_state dev h d
  rw [ended] at state
  obtain ⟨world, abandoned⟩ := abandon_eq dev h d
  rw [abandoned, Registry.release_active _ _ held] at state
  subst state
  exact ⟨rfl, rfl, rfl, rfl⟩

/-- The invariant of the bookkeeping of sessions. -/
structure Tenure (s : Shared ω) : Prop where
  /-- Every session opened has been ended by one Stop, but the one still active. -/
  count : s.opened = s.closedBy.length + if s.driver.active then 1 else 0
  /-- The Stops that ended a session have returned. -/
  closers : ∀ i ∈ s.closedBy, ∃ r, s.callers i = .returned (.done r)
  /-- No Stop ended two sessions. -/
  once : s.closedBy.Nodup
  /-- The registry holds the driver's session and no other. -/
  registered : s.driver.registry.active = s.driver.session
  /-- The reader is armed exactly while a session is active. -/
  armed : s.driver.reader.armed = s.driver.active
  bounded : s.driver.records.Bounded
  /-- A Stop in its last section finds the queues empty. -/
  drained : ∀ i, (s.callers i).closing →
    s.driver.records.toList = [] ∧ s.driver.pendingEvents = [] ∧ s.driver.dropped = 0

theorem closers_setCaller {s : Shared ω} (closers : ∀ j ∈ s.closedBy, ∃ r, s.callers j = .returned (.done r))
    {i : Nat} (live : (s.callers i).ended = false) (c : Caller) :
    ∀ j ∈ s.closedBy, ∃ r, (s.setCaller i c).callers j = .returned (.done r) := by
  intro j mem
  obtain ⟨r, hj⟩ := closers j mem
  have other : j ≠ i := by
    rintro rfl
    simp [hj, Caller.ended] at live
  exact ⟨r, by simp [setCaller, other, hj]⟩

theorem closing_setCaller {s : Shared ω} {i : Nat} {c : Caller} (open' : c.closing = false) {j : Nat}
    (closing : ((s.setCaller i c).callers j).closing) : (s.callers j).closing := by
  by_cases same : j = i
  · simp [setCaller, same, open'] at closing
  · simpa [setCaller, same] using closing

namespace Tenure

variable {dev : Devices ω} {s : Shared ω}

theorem quiet {s' : Shared ω} (tenure : s.Tenure) (frame : Frame s s') : s'.Tenure := by
  have session : s'.driver.session = s.driver.session := congrArg Lease.session frame.lease
  have registry : s'.driver.registry = s.driver.registry := congrArg Lease.registry frame.lease
  have armed : s'.driver.reader.armed = s.driver.reader.armed := congrArg Lease.armed frame.lease
  have active : s'.driver.active = s.driver.active := by simp [Driver.active, session]
  -- a returned caller stays, and no caller newly reaches a Stop's last section
  have kept : ∀ j o, s.callers j = .returned o → s'.callers j = .returned o := by
    intro j o hj
    rcases frame.callers j with same | ⟨live, -, -⟩
    · rw [same, hj]
    · simp [hj, Caller.ended] at live
  have closing : ∀ j, (s'.callers j).closing → (s.callers j).closing := by
    intro j hj
    rcases frame.callers j with same | ⟨-, open', -⟩
    · rwa [← same]
    · simp [open'] at hj
  refine ⟨?_, ?_, ?_, ?_, ?_, frame.bounded tenure.bounded, ?_⟩
  · rw [frame.opened, frame.closedBy, active]
    exact tenure.count
  · intro j mem
    obtain ⟨r, hj⟩ := tenure.closers j (frame.closedBy ▸ mem)
    exact ⟨r, kept j _ hj⟩
  · rw [frame.closedBy]
    exact tenure.once
  · rw [registry, session]
    exact tenure.registered
  · rw [armed, active]
    exact tenure.armed
  · intro j hj
    have before := closing j hj
    have backlog := frame.backlog ⟨j, before⟩
    rw [records_of_backlog backlog, events_of_backlog backlog, dropped_of_backlog backlog]
    exact tenure.drained j before

/-- A Start that opens a session counts it; the session is registered and the
reader armed. -/
theorem launch (tenure : s.Tenure) {i : Nat} {d : Driver ω} (hc : s.callers i = .calling .start)
    (started : (start dev).run' s.driver = (.ok (), d)) :
    { s.setCaller i .announcing with
        driver := d, owner := some i, work := true, cancelled := false, opened := s.opened + 1 }.Tenure := by
  obtain ⟨idle, -, world, rfl⟩ := start_success started
  have count := tenure.count
  rw [idle] at count
  refine ⟨?_, closers_setCaller tenure.closers (by rw [hc]; rfl) _, tenure.once, rfl, rfl, tenure.bounded, ?_⟩
  · simp [Driver.active, count, setCaller]
  · intro j closing
    exact ⟨(tenure.drained j (closing_setCaller rfl closing)).1, rfl, rfl⟩

/-- A Start that fails gives back what it took: the registry holds what it
held, and the reader is as armed as before. -/
theorem refuse (tenure : s.Tenure) {i : Nat} {f : Fault} {d : Driver ω} (hc : s.callers i = .calling .start)
    (failed : (start dev).run' s.driver = (.error f, d)) :
    { s.setCaller i (.returned (.done (.error f))) with driver := d }.Tenure := by
  have disarmed : s.driver.active = true ∨ s.driver.reader.armed = false := by
    cases active : s.driver.active
    · exact .inr (tenure.armed.trans active)
    · exact .inl rfl
  have eq := start_failure failed disarmed
  have session : d.session = s.driver.session := by rw [eq]
  have registered : d.registry.active = s.driver.registry.active := by rw [eq]
  have armed : d.reader.armed = s.driver.reader.armed := by rw [eq]
  have backlog : d.backlog = s.driver.backlog := by rw [eq]; rfl
  have active : d.active = s.driver.active := by simp [Driver.active, session]
  refine ⟨?_, closers_setCaller tenure.closers (by rw [hc]; rfl) _, tenure.once, ?_, ?_, ?_, ?_⟩
  · show s.opened = s.closedBy.length + if d.active then 1 else 0
    rw [active]
    exact tenure.count
  · show d.registry.active = d.session
    rw [registered, session]
    exact tenure.registered
  · show d.reader.armed = d.active
    rw [armed, active]
    exact tenure.armed
  · show d.records.Bounded
    rw [records_of_backlog backlog]
    exact tenure.bounded
  · intro j closing
    show d.records.toList = [] ∧ d.pendingEvents = [] ∧ d.dropped = 0
    rw [records_of_backlog backlog, events_of_backlog backlog, dropped_of_backlog backlog]
    exact tenure.drained j (closing_setCaller rfl closing)

theorem raise (tenure : s.Tenure) {i : Nat} {close : Bool} (hc : s.callers i = .calling (.stop close)) :
    { s.setCaller i (.cancelling close) with stopping := true, work := false }.Tenure :=
  ⟨tenure.count, closers_setCaller tenure.closers (by rw [hc]; rfl) _, tenure.once, tenure.registered,
    tenure.armed, tenure.bounded, fun j closing => tenure.drained j (closing_setCaller rfl closing)⟩

theorem drain (tenure : s.Tenure) {i : Nat} {close : Bool} (hc : s.callers i = .draining close) :
    { s.setCaller i (.tearingDown close) with
        driver := s.driver.drainQueues, requests := s.requests.drain.2, responses := s.responses.drain.2,
        settingsOwner := none }.Tenure := by
  obtain ⟨bounded, drained⟩ := Ring.drain_drains tenure.bounded
  exact ⟨tenure.count, closers_setCaller tenure.closers (by rw [hc]; rfl) _, tenure.once, tenure.registered,
    tenure.armed, bounded, fun _ _ => ⟨drained, rfl, rfl⟩⟩

/-- A Stop ends the session it found: the registry is free, the reader
disarmed, and the Stop is counted once. -/
theorem finish (tenure : s.Tenure) {i : Nat} {close : Bool} {h : Handle} {r : Except Fault Unit} {d : Driver ω}
    (hc : s.callers i = .tearingDown close) (session : s.driver.session = some h)
    (ended : (teardown dev h).run' s.driver = (r, d)) :
    { s.setCaller i (.returned (.done (if close then excuse r else r))) with
        driver := d, stopping := false, closedBy := s.closedBy ++ [i] }.Tenure := by
  obtain ⟨none, free, disarmed, backlog⟩ := teardown_ends ended (tenure.registered.trans session)
  have count := tenure.count
  have active : s.driver.active = true := by simp [Driver.active, session]
  rw [active] at count
  -- the Stop is in its last section, so it has not returned and has ended no session yet
  have fresh : i ∉ s.closedBy := by
    intro mem
    obtain ⟨_, hi⟩ := tenure.closers i mem
    rw [hc] at hi
    cases hi
  refine ⟨?_, ?_, ?_, ?_, ?_, ?_, ?_⟩
  · show s.opened = (s.closedBy ++ [i]).length + if d.active then 1 else 0
    simp [Driver.active, none, count]
  · intro j mem
    rcases List.mem_append.mp mem with old | new
    · exact closers_setCaller tenure.closers (by rw [hc]; rfl) _ j old
    · rw [List.mem_singleton.mp new]
      exact ⟨if close then excuse r else r, by simp [setCaller]⟩
  · refine List.nodup_append.mpr ⟨tenure.once, List.nodup_singleton i, fun a mem b single => ?_⟩
    rw [List.mem_singleton.mp single]
    rintro rfl
    exact fresh mem
  · show d.registry.active = d.session
    rw [free, none]
  · show d.reader.armed = d.active
    simp [Driver.active, none, disarmed]
  · show d.records.Bounded
    rw [records_of_backlog backlog]
    exact tenure.bounded
  · intro j closing
    show d.records.toList = [] ∧ d.pendingEvents = [] ∧ d.dropped = 0
    rw [records_of_backlog backlog, events_of_backlog backlog, dropped_of_backlog backlog]
    exact tenure.drained j (closing_setCaller rfl closing)

theorem turn {s' : Shared ω} (tenure : s.Tenure) (turn : Turn dev s s') : s'.Tenure := by
  cases turn with
  | quiet frame => exact tenure.quiet frame
  | launch hc started => exact tenure.launch hc started
  | refuse hc failed => exact tenure.refuse hc failed
  | raise hc accepted => exact tenure.raise hc
  | drain hc => exact tenure.drain hc
  | finish hc session ended => exact tenure.finish hc session ended

theorem init {d : Driver ω} (idle : d.session = none) (free : d.registry.active = none)
    (disarmed : d.reader.armed = false) (bounded : d.records.Bounded) : (init d).Tenure where
  count := by simp [Shared.init, Driver.active, idle]
  closers := by simp [Shared.init]
  once := List.nodup_nil
  registered := free.trans idle.symm
  armed := by simp [Shared.init, Driver.active, idle, disarmed]
  bounded := bounded
  drained := by simp [Shared.init, Caller.closing]

theorem run (tenure : s.Tenure) (sound : s.Sound) (actions : List Action) : (s.run dev actions).Tenure := by
  induction actions generalizing s with
  | nil => exact tenure
  | cons a rest ih => exact ih (tenure.turn (turn_step dev sound a)) (sound.step dev a)

end Tenure

/-! ### The stopping flag -/

theorem stop_setCaller {s : Shared ω} {i j : Nat} {c : Caller} (stop : (s.callers i).role.stop)
    (keeps : (s.callers j).role.stop → c.role.stop) : ((s.setCaller j c).callers i).role.stop := by
  by_cases same : i = j
  · subst same
    simpa [setCaller] using keeps stop
  · simpa [setCaller, same] using stop

namespace Turn

variable {dev : Devices ω} {s s' : Shared ω}

theorem raises (turn : Turn dev s s') (low : s.stopping = false) (high : s'.stopping = true) :
    ∃ i close, s.callers i = .calling (.stop close) ∧ s'.callers i = .cancelling close := by
  cases turn with
  | quiet frame =>
    rw [frame.stopping, low] at high
    cases high
  | raise hc accepted => exact ⟨_, _, hc, by simp [setCaller]⟩
  | launch hc started | refuse hc failed | drain hc => simp [setCaller, low] at high
  | finish hc session ended => cases high

theorem keeps_stop (turn : Turn dev s s') {i : Nat} (stop : (s.callers i).role.stop) (high : s'.stopping = true) :
    (s'.callers i).role.stop := by
  cases turn with
  | quiet frame =>
    rcases frame.callers i with same | ⟨-, -, role⟩
    · rw [same]
      exact stop
    · rw [role]
      exact stop
  -- the caller that moves was making a call, in no section of a Stop, or stays in its sections
  | launch hc started => exact stop_setCaller stop (by rw [hc]; nofun)
  | refuse hc failed => exact stop_setCaller stop (by rw [hc]; nofun)
  | raise hc accepted => exact stop_setCaller stop (by rw [hc]; nofun)
  | drain hc => exact stop_setCaller stop fun _ => rfl
  | finish hc session ended => cases high

/-- The step that ends a session is the last step of the Stop in its last
section: it runs the teardown of the session's handle and lowers the flag. -/
theorem closer (turn : Turn dev s s') (changed : s'.closedBy ≠ s.closedBy) :
    ∃ i close h r, s.callers i = .tearingDown close ∧ s.driver.session = some h ∧
      (teardown dev h).run' s.driver = (r, s'.driver) ∧ s'.closedBy = s.closedBy ++ [i] ∧
      s'.stopping = false ∧ s'.callers i = .returned (.done (if close then excuse r else r)) := by
  cases turn with
  | quiet frame => exact absurd frame.closedBy changed
  | launch hc started | refuse hc failed | raise hc accepted | drain hc => exact absurd rfl changed
  | finish hc session ended => exact ⟨_, _, _, _, hc, session, ended, rfl, rfl, by simp [setCaller]⟩

theorem closes_iff (turn : Turn dev s s') (sound : s.Sound) :
    s'.closedBy ≠ s.closedBy ↔ s.stopping = true ∧ s'.stopping = false := by
  constructor
  · intro changed
    obtain ⟨i, close, -, -, hc, -, -, -, lowered, -⟩ := turn.closer changed
    have stop : (s.callers i).role.stop := by rw [hc]; rfl
    exact ⟨sound.stopping.mpr ⟨i, stop⟩, lowered⟩
  · rintro ⟨high, low⟩
    cases turn with
    | quiet frame =>
      rw [frame.stopping, high] at low
      cases low
    | launch hc started | refuse hc failed | drain hc => simp [setCaller, high] at low
    | raise hc accepted => cases low
    | finish hc session ended => simp

/-- After a Stop ended the session the driver is idle, its queues are empty
and the registry is free. -/
theorem idle_after (turn : Turn dev s s') (tenure : s.Tenure) (changed : s'.closedBy ≠ s.closedBy) :
    s'.driver.active = false ∧ s'.driver.registry.busy = false ∧
      s'.driver.records.toList = [] ∧ s'.driver.pendingEvents = [] ∧ s'.driver.dropped = 0 := by
  obtain ⟨i, close, h, r, hc, session, ended, -⟩ := turn.closer changed
  obtain ⟨none, free, -, backlog⟩ := teardown_ends ended (tenure.registered.trans session)
  -- the queues were empty when the Stop reached its last section, and the teardown leaves them
  have drained := tenure.drained i (by rw [hc]; rfl)
  rw [records_of_backlog backlog, events_of_backlog backlog, dropped_of_backlog backlog]
  exact ⟨by simp [Driver.active, none], by simp [Registry.busy, free], drained⟩

end Turn

/-- A driver as made has no session, a free registry, a disarmed reader and an
empty record queue. -/
theorem new_tenure (options : DriverOptions) (world : ω) (chunk : Int) :
    (init (Driver.new options world chunk)).Tenure := by
  refine Tenure.init rfl rfl rfl ⟨?_, by simp [Driver.new]⟩
  simp [Driver.new, Ring.capacity, recordQueueSize, baseSampleRate, defaultChunkSize]

/-- Each session is torn down exactly once, whatever calls race with the
teardown. In every run from a driver as made, and for every next step:
every session opened has been ended by one Stop, the one still active apart,
and no Stop ended two; while a Stop is under way the session is active, that
Stop is the only one in its sections, and every call but a settings call
returns at its first step as `whileStopping` says, changing nothing else; only
a Stop entering its sections raises the flag, and it stays in them while the
flag is raised; the flag falls exactly when a session ends, by the last section
of that Stop, which runs the teardown of the session's handle and leaves the
driver idle, its queues empty and the registry free, so that a Start with
cooperating devices succeeds. -/
theorem sessions_end_in_one_teardown (dev : Devices ω) (options : DriverOptions) (world : ω) (chunk : Int)
    (actions : List Action) (a : Action) :
    let s := (init (Driver.new options world chunk)).run dev actions
    let s' := s.step dev a
    (s.opened = s.closedBy.length + (if s.driver.active then 1 else 0) ∧ s.closedBy.Nodup) ∧
    (s.stopping = true →
      s.driver.active = true ∧ (∃ i, (s.callers i).role.stop ∧ ∀ j, (s.callers j).role.stop → j = i) ∧
      ∀ j c o quit, s.callers j = .calling c → c.whileStopping s.driver = some o →
        s.step dev (.resume j quit) = s.setCaller j (.returned o)) ∧
    (s.stopping = false → s'.stopping = true →
      ∃ i close, s.callers i = .calling (.stop close) ∧ s'.callers i = .cancelling close) ∧
    (∀ i, (s.callers i).role.stop → s'.stopping = true → (s'.callers i).role.stop) ∧
    (s'.closedBy ≠ s.closedBy ↔ s.stopping = true ∧ s'.stopping = false) ∧
    (s'.closedBy ≠ s.closedBy → ∃ i close h r, s.callers i = .tearingDown close ∧ s.driver.session = some h ∧
      (teardown dev h).run' s.driver = (r, s'.driver) ∧ s'.closedBy = s.closedBy ++ [i] ∧
      s'.driver.active = false ∧ s'.driver.registry.busy = false ∧
      s'.driver.records.toList = [] ∧ s'.driver.pendingEvents = [] ∧ s'.driver.dropped = 0 ∧
      ∀ dev' : Devices ω, dev'.Compliant → ((start dev').run' s'.driver).1 = .ok ()) := by
  intro s s'
  have sound : s.Sound := (Sound.init _).run dev actions
  have tenure : s.Tenure := (new_tenure options world chunk).run (Sound.init _) actions
  have turn := turn_step dev sound a
  refine ⟨⟨tenure.count, tenure.once⟩, fun stopping => ⟨sound.active_of_stopping stopping, ?_, ?_⟩,
    fun low high => turn.raises low high, fun i stop high => turn.keeps_stop stop high, turn.closes_iff sound,
    fun changed => ?_⟩
  · obtain ⟨i, stop⟩ := sound.stopping.mp stopping
    exact ⟨i, stop, fun j other => sound.oneStop j i other stop⟩
  · intro j c o quit hc outcome
    simp only [Shared.step, Shared.resume, hc]
    exact begin_while_stopping dev sound stopping j outcome
  · obtain ⟨i, close, h, r, hc, session, ended, closedBy, -⟩ := turn.closer changed
    obtain ⟨idle, free, records, events, dropped⟩ := turn.idle_after tenure changed
    exact ⟨i, close, h, r, hc, session, ended, closedBy, idle, free, records, events, dropped,
      fun _ compliant => start_ok_of_free compliant idle free⟩

/-- A change of rate to 0 made while a Stop is under way returns the rate's
error, not that a session is active: the argument is checked before the lock. -/
theorem zero_rate_while_stopping_is_invalid :
    let s := (init (Driver.new {} ())).run steadyDevices
      [.call 0 .start, .resume 0 none, .resume 0 none, .resume 0 none, .call 1 (.stop false), .resume 1 none,
        .call 2 (.configure (.sampleRate 0))]
    s.stopping = true ∧ s.callers 1 = .cancelling false ∧ s.driver.active = true ∧
      (s.step steadyDevices (.resume 2 none)).callers 2 = .returned (.done (.error (invalidSampleRate 0))) ∧
      (invalidSampleRate 0).is .sessionActive = false :=
  ⟨rfl, rfl, rfl, rfl, rfl⟩

end Shared

end Driver

end Acquisition
