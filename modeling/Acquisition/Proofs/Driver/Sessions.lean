import Acquisition.Proofs.Driver.Teardown
import Acquisition.Driver.Fleet
/-! Sessions of drivers sharing one registry: each call is read once as a `Move` of the bookkeeping,
from which the invariant `Fleet.Books` follows, with at most one driver active. -/
namespace Acquisition

open Op

variable {ω : Type}

/-- Counts of a locker's calls: the locks that succeeded and every unlock. -/
structure Tally where
  locks : Nat := 0
  unlocks : Nat := 0

def keepTally {α : Type} (op : Op ω α) : Op (ω × Tally) α := Op.focus Prod.fst (fun p w => (w, p.2)) op

theorem run'_keepTally {α : Type} (op : Op ω α) (p : ω × Tally) :
    (keepTally op).run' p = ((op.run' p.1).1, ((op.run' p.1).2, p.2)) := rfl

namespace Devices

/-- The same devices, counting the locks that succeed and every unlock. -/
def counted (dev : Devices ω) : Devices (ω × Tally) where
  sampler :=
    { configure := fun mode => keepTally (dev.sampler.configure mode)
      arm := keepTally dev.sampler.arm
      disarm := keepTally dev.sampler.disarm
      readFrames := fun n => keepTally (dev.sampler.readFrames n) }
  reply := fun direction request p =>
    let (reply, w) := (dev.reply direction request).run p.1
    pure (reply, (w, p.2))
  readEvents := fun p =>
    let (report, w) := dev.readEvents.run p.1
    pure (report, (w, p.2))
  latency := dev.latency
  lock := ExceptT.mk fun p =>
    match dev.lock.run' p.1 with
    | (.ok (), w) => pure (.ok (), (w, { p.2 with locks := p.2.locks + 1 }))
    | (.error f, w) => pure (.error f, (w, p.2))
  unlock := ExceptT.mk fun p =>
    let (r, w) := dev.unlock.run' p.1
    pure (r, (w, { p.2 with unlocks := p.2.unlocks + 1 }))
  verify := keepTally dev.verify

variable (dev : Devices ω)

@[simp] theorem counted_configure (mode : Mode) :
    dev.counted.sampler.configure mode = keepTally (dev.sampler.configure mode) := rfl

@[simp] theorem counted_arm : dev.counted.sampler.arm = keepTally dev.sampler.arm := rfl

@[simp] theorem counted_disarm : dev.counted.sampler.disarm = keepTally dev.sampler.disarm := rfl

@[simp] theorem counted_readFrames (n : Nat) :
    dev.counted.sampler.readFrames n = keepTally (dev.sampler.readFrames n) := rfl

@[simp] theorem run_counted_readEvents (p : ω × Tally) :
    dev.counted.readEvents.run p = ((dev.readEvents.run p.1).1, ((dev.readEvents.run p.1).2, p.2)) := rfl

@[simp] theorem counted_verify : dev.counted.verify = keepTally dev.verify := rfl

theorem run'_counted_lock (p : ω × Tally) :
    dev.counted.lock.run' p =
      match dev.lock.run' p.1 with
      | (.ok (), w) => (.ok (), (w, { p.2 with locks := p.2.locks + 1 }))
      | (.error f, w) => (.error f, (w, p.2)) := by
  simp only [counted, Op.run', ExceptT.run_mk, StateT.run]
  split <;> rfl

theorem run'_counted_unlock (p : ω × Tally) :
    dev.counted.unlock.run' p =
      ((dev.unlock.run' p.1).1, ((dev.unlock.run' p.1).2, { p.2 with unlocks := p.2.unlocks + 1 })) := rfl

theorem Foreign.counted {dev : Devices ω} (foreign : dev.Foreign) : dev.counted.Foreign where
  lock p f p' failed := by
    rw [run'_counted_lock] at failed
    rcases locked : dev.lock.run' p.1 with ⟨_ | ⟨⟩, w⟩ <;> rw [locked] at failed
    · cases failed
      exact foreign.lock _ _ _ locked
    · cases failed
  unlock p f p' failed := by
    rw [run'_counted_unlock, Prod.mk.injEq] at failed
    exact foreign.unlock _ _ _ (Prod.ext failed.1 rfl)
  configure mode p f p' failed := by
    rw [counted_configure, run'_keepTally, Prod.mk.injEq] at failed
    exact foreign.configure mode _ _ _ (Prod.ext failed.1 rfl)
  arm p f p' failed := by
    rw [counted_arm, run'_keepTally, Prod.mk.injEq] at failed
    exact foreign.arm _ _ _ (Prod.ext failed.1 rfl)
  disarm p f p' failed := by
    rw [counted_disarm, run'_keepTally, Prod.mk.injEq] at failed
    exact foreign.disarm _ _ _ (Prod.ext failed.1 rfl)

end Devices

namespace Driver

/-! ### The locker's calls in a Start and a Stop

The tally is `d.world.2`. Only the lock and the unlock move it; every other
device call keeps it. -/

variable (dev : Devices ω) (d : Driver (ω × Tally))

theorem tally_lock :
    ((onDevices dev.counted.lock).run' d).2.world.2 =
      { d.world.2 with locks := d.world.2.locks + if ((onDevices dev.counted.lock).run' d).1.isOk then 1 else 0 } := by
  simp only [run'_onDevices, Devices.run'_counted_lock, world]
  rcases dev.lock.run' d.reader.sampler.1 with ⟨_ | ⟨⟩, w⟩ <;> rfl

theorem tally_unlock :
    ((onDevices dev.counted.unlock).run' d).2.world.2 = { d.world.2 with unlocks := d.world.2.unlocks + 1 } := rfl

theorem tally_keep {α : Type} (op : Op ω α) : ((onDevices (keepTally op)).run' d).2.world.2 = d.world.2 := rfl

theorem tally_setup : ((onReader (Reader.setup dev.counted.sampler)).run' d).2.world.2 = d.world.2 := by
  simp only [run'_onReader, Reader.run'_setup, Devices.counted_configure, run'_keepTally, world]
  rcases (dev.sampler.configure d.reader.calibration.mode).run' d.reader.sampler.1 with ⟨_ | _, w⟩ <;> rfl

theorem tally_arm : ((onReader (Reader.start dev.counted.sampler)).run' d).2.world.2 = d.world.2 := by
  simp only [run'_onReader, Reader.run'_start, Devices.counted_arm, run'_keepTally, world]
  split
  · rfl
  · rcases dev.sampler.arm.run' d.reader.sampler.1 with ⟨_ | ⟨⟩, w⟩ <;> rfl

theorem tally_disarm : ((onReader (Reader.stop dev.counted.sampler)).run' d).2.world.2 = d.world.2 := by
  simp only [run'_onReader, Reader.run'_stop, Devices.counted_disarm, run'_keepTally, world]
  split
  · rcases dev.sampler.disarm.run' d.reader.sampler.1 with ⟨_ | ⟨⟩, w⟩ <;> rfl
  · rfl

theorem tally_abandon (h : Handle) :
    (abandon dev.counted h d).world.2 = { d.world.2 with unlocks := d.world.2.unlocks + 1 } := by
  rw [abandon, run'_releaseHandle]
  show ((onDevices dev.counted.unlock).run' _).2.world.2 = _
  rw [tally_unlock, tally_disarm]

theorem tally_teardown (h : Handle) :
    ((teardown dev.counted h).run' d).2.world.2 = { d.world.2 with unlocks := d.world.2.unlocks + 1 } := by
  rw [teardown_state]
  exact tally_abandon dev d h

/-- A Start takes the lock once more than it gives it back when it succeeds,
and as often when it fails. -/
theorem start_tally {r : Except Fault Unit} {d' : Driver (ω × Tally)} (started : (start dev.counted).run' d = (r, d')) :
    ∃ n, d'.world.2 = { locks := d.world.2.locks + n + (if r.isOk then 1 else 0), unlocks := d.world.2.unlocks + n } := by
  rw [run'_start] at started
  split at started
  · cases started
    exact ⟨0, rfl⟩
  split at started
  · cases started
    exact ⟨0, rfl⟩
  rename_i h registry _
  have lock := tally_lock dev { d with registry }
  split at started
  · -- a refused lock is not counted, and the handle is given back
    rename_i f d₁ locked
    rw [locked] at lock
    cases started
    exact ⟨0, by rw [run'_releaseHandle]; exact lock⟩
  -- from here the lock is counted, and every way out but success unlocks once
  rename_i d₁ locked
  rw [locked] at lock
  -- the board's identity check leaves the tally alone
  have setup : ((onReader (Reader.setup dev.counted.sampler)).run' ((onDevices dev.counted.verify).run' d₁).2).2.world.2 =
      d₁.world.2 :=
    (tally_setup dev _).trans (tally_keep d₁ dev.verify)
  split at started
  · rename_i f d₂ set
    rw [set] at setup
    cases started
    exact ⟨1, by rw [tally_abandon, setup, lock]; rfl⟩
  rename_i d₂ set
  rw [set] at setup
  have arm := tally_arm dev d₂
  split at started
  · rename_i f d₃ armed
    rw [armed] at arm
    cases started
    exact ⟨1, by rw [tally_abandon, arm, setup, lock]; rfl⟩
  · rename_i d₃ armed
    rw [armed] at arm
    cases started
    exact ⟨0, by show d₃.world.2 = _; rw [arm, setup, lock]; rfl⟩

/-! ### Stop and Close -/

section

variable {σ : Type}

theorem run'_close (dev : Devices σ) (d : Driver σ) :
    (close dev).run' d = (excuse ((stop dev).run' d).1, ((stop dev).run' d).2) := by
  unfold close
  rw [run'_tryCatch]
  rcases (stop dev).run' d with ⟨f | ⟨⟩, d'⟩
  · simp only [excuse]
    split <;> rfl
  · rfl

end

/-! ### The bookkeeping of one driver -/

/-- What a driver's bookkeeping of sessions keeps between calls: the lock taken
once more than given back while a session is active and as often otherwise,
the reader armed exactly while a session is active, the queues empty and no
drops counted while none is, the session's handle for the driver's own device,
and a record queue within its capacity. -/
structure Settled (d : Driver (ω × Tally)) : Prop where
  balanced : d.world.2.locks = d.world.2.unlocks + if d.active then 1 else 0
  armed : d.reader.armed = d.active
  drained : d.active = false → d.records.toList = [] ∧ d.pendingEvents = [] ∧ d.dropped = 0
  owned : ∀ h, d.session = some h → h.device = d.options.device
  bounded : d.records.Bounded

/-- How a call moves the bookkeeping of sessions. -/
inductive Move {σ : Type} (d d' : Driver σ) : Prop where
  /-- The session and the registry's active handle stay. -/
  | stays (session : d'.session = d.session) (registry : d'.registry.active = d.registry.active)
  /-- A session opens on a free registry, which then holds its handle. -/
  | opens (idle : d.session = none) (free : d.registry.active = none) (h : Handle)
      (session : d'.session = some h) (registry : d'.registry.active = some h)
  /-- The session ends, and the registry is free. -/
  | ends (active : d.active = true) (session : d'.session = none) (registry : d'.registry.active = none)

variable {d d' : Driver (ω × Tally)}

/-- The bookkeeping reads only the tally's balance, the session, the arming, the
options, and the queues while no session is active. -/
theorem Settled.keep (settled : d.Settled)
    (tally : d'.world.2.locks + d.world.2.unlocks = d.world.2.locks + d'.world.2.unlocks) (session : d'.session = d.session)
    (armed : d'.reader.armed = d.reader.armed) (options : d'.options = d.options)
    (backlog : d.active = false → d'.backlog = d.backlog) (bounded : d'.records.Bounded) : d'.Settled := by
  have active : d'.active = d.active := by simp [Driver.active, session]
  refine ⟨?_, ?_, fun idle => ?_, fun h held => ?_, bounded⟩
  · have balanced := settled.balanced
    rw [active]
    omega
  · rw [armed, active]
    exact settled.armed
  · have same := backlog (active ▸ idle)
    rw [records_of_backlog same, events_of_backlog same, dropped_of_backlog same]
    exact settled.drained (active ▸ idle)
  · rw [options]
    exact settled.owned h (session ▸ held)

theorem Settled.with_registry (settled : d.Settled) (r : Registry) : { d with registry := r }.Settled :=
  ⟨settled.balanced, settled.armed, settled.drained, settled.owned, settled.bounded⟩

/-- An idle driver's reader is disarmed: what a failed Start needs to give back
exactly what it took. -/
theorem Settled.disarmed (settled : d.Settled) : d.active = true ∨ d.reader.armed = false := by
  cases active : d.active
  · exact .inr (settled.armed.trans active)
  · exact .inl rfl

theorem Settled.stay (settled : d.Settled) : Move d d ∧ d.Settled := ⟨.stays rfl rfl, settled⟩

variable (dev : Devices ω)

/-- A Start opens a session on a free registry, with the lock taken and the
reader armed, or leaves the bookkeeping as it was. -/
theorem Settled.after_start (settled : d.Settled) :
    Move d ((start dev.counted).run' d).2 ∧ ((start dev.counted).run' d).2.Settled := by
  rcases started : (start dev.counted).run' d with ⟨f | ⟨⟩, d'⟩
  · obtain ⟨n, tally⟩ := start_tally dev d started
    have eq := start_failure started settled.disarmed
    have session : d'.session = d.session := by rw [eq]
    refine ⟨.stays session (by rw [eq]), settled.keep ?_ session (by rw [eq]) (by rw [eq]) (fun _ => by rw [eq]; rfl)
      (by rw [eq]; exact settled.bounded)⟩
    rw [tally]
    simp only [Except.isOk, Except.toBool, Bool.false_eq_true, if_false]
    omega
  · obtain ⟨n, tally⟩ := start_tally dev d started
    obtain ⟨idle, free, world, rfl⟩ := start_success started
    have balanced := settled.balanced
    rw [idle] at balanced
    refine ⟨.opens (by simpa [Driver.active] using idle) free _ rfl rfl, ⟨?_, rfl, ?_, ?_, settled.bounded⟩⟩
    · rw [tally]
      simp only [Except.isOk, Except.toBool, if_true, Bool.false_eq_true, if_false, Driver.active,
        Option.isSome_some] at balanced ⊢
      omega
    · intro idle'
      simp [Driver.active] at idle'
    · intro h held
      cases held
      rfl

/-- A Stop ends the session the registry holds, with one unlock, the reader
disarmed and the queues emptied; with no session it changes nothing. -/
theorem Settled.after_stop (settled : d.Settled) (registered : ∀ h, d.session = some h → d.registry.active = some h) :
    Move d ((stop dev.counted).run' d).2 ∧ ((stop dev.counted).run' d).2.Settled := by
  cases session : d.session with
  | none =>
    rw [run'_stop_of_refused _ (stopRefusal_of_idle session false)]
    exact settled.stay
  | some h =>
    rw [run'_stop_of_accepted _ session (stopRefusal_of_held session (registered h session) (settled.owned h session))]
    have active : d.active = true := by simp [Driver.active, session]
    have held : d.finishPoller.drainQueues.registry.active = some h := by
      rw [← registered h session, drainQueues, (finishPoller_frame d).2.1]
    rcases ended : (teardown dev.counted h).run' d.finishPoller.drainQueues with ⟨r, d'⟩
    obtain ⟨none, free, disarmed, backlog⟩ := Shared.teardown_ends ended held
    have tally := tally_teardown dev d.finishPoller.drainQueues h
    rw [ended] at tally
    obtain ⟨bounded, drained⟩ := Ring.drain_drains settled.bounded
    have inactive : d'.active = false := by simp [Driver.active, none]
    have records : d'.records = d.records.drain.2 := by
      rw [records_of_backlog backlog, drainQueues, records_finishPoller]
    refine ⟨.ends active none free, ⟨?_, by rw [disarmed, inactive], fun _ => ?_, fun h' held' => ?_, ?_⟩⟩
    · -- the one unlock balances the lock the session took
      have balanced := settled.balanced
      have world : d.finishPoller.drainQueues.world = d.world := by
        rw [world, drainQueues, (finishPoller_frame d).2.2.1]
        rfl
      rw [tally, world, inactive]
      rw [active] at balanced
      simp only [Bool.false_eq_true, ↓reduceIte] at balanced ⊢
      omega
    · exact ⟨records ▸ drained, events_of_backlog backlog, dropped_of_backlog backlog⟩
    · rw [none] at held'
      cases held'
    · rw [records]
      exact bounded

theorem Settled.after_close (settled : d.Settled) (registered : ∀ h, d.session = some h → d.registry.active = some h) :
    Move d ((close dev.counted).run' d).2 ∧ ((close dev.counted).run' d).2.Settled := by
  rw [run'_close]
  exact settled.after_stop dev registered

theorem Settled.after_change (settled : d.Settled) (c : Setting) :
    Move d (c.change.run' d).2 ∧ (c.change.run' d).2.Settled := by
  obtain ⟨eq⟩ := change_reconfigures c d
  have session : (c.change.run' d).2.session = d.session := by rw [eq]
  refine ⟨.stays session (by rw [eq]), settled.keep ?_ session (by rw [eq]) (by rw [eq]) (fun _ => by rw [eq]; rfl)
    (by rw [eq]; exact settled.bounded)⟩
  rw [eq]
  rfl

/-- A pass of a session loop that keeps the session, the registry, the reader's
arming, the tally and the options, and leaves the record queue within its
capacity, keeps the bookkeeping of an active driver. -/
theorem Settled.pass (settled : d.Settled) (active : d.active = true) (session : d'.session = d.session)
    (registry : d'.registry = d.registry) (armed : d'.reader.armed = d.reader.armed) (tally : d'.world.2 = d.world.2)
    (options : d'.options = d.options) (bounded : d'.records.Bounded) : Move d d' ∧ d'.Settled :=
  ⟨.stays session (by rw [registry]),
    settled.keep (by rw [tally, Nat.add_comm]) session armed options (fun idle => absurd active (by simp [idle])) bounded⟩

theorem Settled.whileActive {pass : Driver (ω × Tally) → Driver (ω × Tally)} (settled : d.Settled)
    (moves : d.active = true → Move d (pass d) ∧ (pass d).Settled) :
    Move d (Fleet.whileActive pass d) ∧ (Fleet.whileActive pass d).Settled := by
  unfold Fleet.whileActive
  split
  · exact moves ‹_›
  · exact settled.stay

theorem tally_read (r : Reader (ω × Tally)) : ((Reader.read dev.counted.sampler).run' r).2.sampler.2 = r.sampler.2 := by
  simp only [Reader.read, run'_bind, run'_get, run'_withContext, Reader.run'_onSampler, Devices.counted_readFrames,
    run'_keepTally]
  rcases (dev.sampler.readFrames r.chunk).run' r.sampler.1 with ⟨_ | _, w⟩ <;> rfl

theorem bounded_takeRead {σ : Type} {d : Driver σ} (bounded : d.records.Bounded) (r : Except Fault Batch) :
    (d.takeRead r).records.Bounded := by
  unfold takeRead
  split
  · exact bounded
  · rw [records_dispatchEvents]
    split
    · exact bounded
    · rw [records_enqueue]
      exact Ring.push_bounded bounded _

theorem Settled.fetch (settled : d.Settled) (active : d.active = true) :
    Move d (Driver.fetch dev.counted d) ∧ (Driver.fetch dev.counted d).Settled := by
  unfold Driver.fetch
  rcases read : (Reader.read dev.counted.sampler).run' d.reader with ⟨r, reader⟩
  dsimp only
  have armed : reader.armed = d.reader.armed := by
    have moved := Reader.read_frame dev.counted.sampler d.reader
    rw [read] at moved
    exact (congrArg Reader.armed moved :)
  have tally : reader.sampler.2 = d.reader.sampler.2 := by
    have kept := tally_read dev d.reader
    rwa [read] at kept
  obtain ⟨session, registry, reader', options⟩ := takeRead_frame { d with reader } r
  exact settled.pass active session registry (by rw [reader']; exact armed) (by rw [world, reader']; exact tally)
    options (bounded_takeRead (d := { d with reader }) settled.bounded r)

theorem Settled.poll (settled : d.Settled) (active : d.active = true) :
    Move d (Fleet.pollPass d) ∧ (Fleet.pollPass d).Settled := by
  unfold Fleet.pollPass
  split
  · rename_i busy d' polled
    obtain ⟨session, registry, reader, options, records⟩ := pollOnce_frame polled
    exact settled.pass active session registry (by rw [reader]) (by rw [world, reader]; rfl) options
      (records ▸ Ring.popBatch_bounded settled.bounded _)
  · exact settled.stay

theorem Settled.control (settled : d.Settled) (active : d.active = true) :
    Move d (Driver.control dev.counted d) ∧ (Driver.control dev.counted d).Settled := by
  unfold Driver.control
  rw [Devices.run_counted_readEvents]
  obtain ⟨session, registry, reader, options⟩ := queueEvents_frame
    { d with reader.sampler := ((dev.readEvents.run d.world.1).2, d.world.2) } (dev.readEvents.run d.world.1).1.events
  exact settled.pass active session registry (by rw [reader]) (by rw [world, reader]) options
    (by rw [records_queueEvents]; exact settled.bounded)

/-! ### What Start and Stop return -/

section

variable {σ : Type}

/-- A Start on a driver with a session, or on a busy registry, is refused as
already started and changes nothing. -/
theorem start_busy (dev : Devices σ) {d : Driver σ} (busy : (d.active || d.registry.busy) = true) :
    ∃ f, (start dev).run' d = (.error f, d) ∧ f.is .alreadyStarted = true := by
  rw [run'_start]
  by_cases active : d.active = true
  · exact ⟨alreadyStarted, by simp [active], by simp [alreadyStarted]⟩
  · have held : d.registry.active.isSome = true := by simpa [active, Registry.busy] using busy
    obtain ⟨h, held⟩ := Option.isSome_iff_exists.mp held
    exact ⟨.wrap .alreadyStarted "session already started" (.of .sessionBusy ("another session is active: " ++ h.describe)),
      by simp [active, Registry.acquire_busy held], by simp⟩

/-- With devices whose errors are their own, Stop reports that no session was
started exactly when the driver has none, once the registry holds the session
for the driver's device. -/
theorem stop_not_started_iff {dev : Devices σ} (foreign : dev.Foreign) {d : Driver σ}
    (registered : ∀ h, d.session = some h → d.registry.active = some h)
    (owned : ∀ h, d.session = some h → h.device = d.options.device) :
    (∃ f, ((stop dev).run' d).1 = .error f ∧ f.is .notStarted = true) ↔ d.active = false := by
  cases session : d.session with
  | none =>
    rw [run'_stop_of_refused _ (stopRefusal_of_idle session false)]
    simp [active, session, notStarted]
  | some h =>
    rw [run'_stop_of_accepted _ session (stopRefusal_of_held session (registered h session) (owned h session))]
    simp only [active, session, Option.isSome_some, Bool.true_eq_false, iff_false, not_exists, not_and]
    intro f failed
    -- the end of a Stop fails only as the devices do
    have own := teardown_foreign foreign h _ f _ (Prod.ext failed rfl)
    rw [own.2]
    decide

/-- A Stop that no other Stop precedes goes on exactly while the driver has a
session, once the registry holds the session for the driver's device. -/
theorem stopRefusal_none_iff {d : Driver σ} (registered : ∀ h, d.session = some h → d.registry.active = some h)
    (owned : ∀ h, d.session = some h → h.device = d.options.device) :
    stopRefusal d false = none ↔ d.active = true := by
  cases session : d.session with
  | none => simp [active, session, stopRefusal_of_idle session]
  | some h => simp [active, session, stopRefusal_of_held session (registered h session) (owned h session)]

end

/-! ### The fleet -/

namespace Fleet

section

variable {σ : Type} {f : Fleet σ} {k : Nat} {d d' : Driver σ}

theorem member?_eq_some : f.member? k = some d ↔ ∃ e, f.drivers[k]? = some e ∧ d = { e with registry := f.registry } := by
  simp only [member?, Option.map_eq_some_iff]
  exact exists_congr fun e => and_congr_right fun _ => eq_comm

/-- After a call of driver `k`, driver `k` is what the call left and the others
are as they were. -/
theorem drivers_commit (member : f.member? k = some d) (j : Nat) :
    (f.commit k d').drivers[j]? = if j = k then some d' else f.drivers[j]? := by
  obtain ⟨e, at_k, -⟩ := member?_eq_some.mp member
  obtain ⟨inside, -⟩ := Array.getElem?_eq_some_iff.mp at_k
  by_cases same : j = k
  · subst same
    simp [commit, inside]
  · simp [commit, same, Ne.symm same]

end

/-- The bookkeeping of a fleet's sessions between calls: every driver settled,
a driver's session the one the registry holds, and at most one driver active. -/
structure Books (f : Fleet (ω × Tally)) : Prop where
  settled : ∀ (k : Nat) (d : Driver (ω × Tally)), f.drivers[k]? = some d → d.Settled
  registered : ∀ (k : Nat) (d : Driver (ω × Tally)) h, f.drivers[k]? = some d → d.session = some h →
    f.registry.active = some h
  single : ∀ (k j : Nat) (d e : Driver (ω × Tally)), f.drivers[k]? = some d → f.drivers[j]? = some e →
    d.active = true → e.active = true → k = j

variable {f : Fleet (ω × Tally)} {k : Nat} {d d' : Driver (ω × Tally)}

theorem Books.member (books : f.Books) (member : f.member? k = some d) :
    d.Settled ∧ ∀ h, d.session = some h → d.registry.active = some h := by
  obtain ⟨e, at_k, rfl⟩ := member?_eq_some.mp member
  exact ⟨(books.settled k e at_k).with_registry f.registry, (books.registered k e · at_k)⟩

/-- After a call that opens no session, at most one driver is active, as before:
each active driver was active already. -/
theorem Books.single_commit (books : f.Books) (member : f.member? k = some d)
    (keeps : d'.active = true → d.active = true) {j i : Nat} {e₁ e₂ : Driver (ω × Tally)}
    (at_j : (f.commit k d').drivers[j]? = some e₁) (at_i : (f.commit k d').drivers[i]? = some e₂)
    (active₁ : e₁.active = true) (active₂ : e₂.active = true) : j = i := by
  obtain ⟨e, at_k, rfl⟩ := member?_eq_some.mp member
  have before : ∀ (j : Nat) (e' : Driver (ω × Tally)), (f.commit k d').drivers[j]? = some e' → e'.active = true →
      ∃ e : Driver (ω × Tally), f.drivers[j]? = some e ∧ e.active = true := by
    intro j e' at_j active
    rw [drivers_commit member] at at_j
    split at at_j
    · subst j
      cases at_j
      exact ⟨e, at_k, keeps active⟩
    · exact ⟨e', at_j, active⟩
  obtain ⟨x, at_j', ax⟩ := before j e₁ at_j active₁
  obtain ⟨y, at_i', ay⟩ := before i e₂ at_i active₂
  exact books.single j i x y at_j' at_i' ax ay

theorem Books.commit (books : f.Books) (member : f.member? k = some d) (move : Move d d') (settled : d'.Settled) :
    (f.commit k d').Books := by
  obtain ⟨e, at_k, rfl⟩ := member?_eq_some.mp member
  refine ⟨fun j e' at_j => ?_, fun j e' h at_j held => ?_, fun j i e₁ e₂ at_j at_i a₁ a₂ => ?_⟩
  · rw [drivers_commit member] at at_j
    split at at_j
    · cases at_j
      exact settled
    · exact books.settled j e' at_j
  · show d'.registry.active = some h
    rw [drivers_commit member] at at_j
    cases move with
    | stays session registry =>
      rw [registry]
      split at at_j
      · cases at_j
        exact books.registered k e h at_k (session ▸ held)
      · exact books.registered j e' h at_j held
    | opens idle free h₀ session registry =>
      split at at_j
      · cases at_j
        rw [session] at held
        rw [registry, held]
      · -- the registry was free, so no other driver had a session
        have before := books.registered j e' h at_j held
        rw [show f.registry.active = none from free] at before
        cases before
    | ends active session registry =>
      split at at_j
      · cases at_j
        rw [session] at held
        cases held
      · -- the driver that ended its session was the only one active
        rename_i other
        exact absurd (books.single j k e' e at_j at_k (by simp [Driver.active, held]) active) other
  · cases move with
    | stays session registry =>
      exact books.single_commit member (by simp [Driver.active, session]) at_j at_i a₁ a₂
    | opens idle free h₀ session registry =>
      -- only the driver that opened a session is active
      have only : ∀ i e', (f.commit k d').drivers[i]? = some e' → e'.active = true → i = k := by
        intro i e' at_i active
        rw [drivers_commit member] at at_i
        split at at_i
        · assumption
        · obtain ⟨h', held⟩ := Option.isSome_iff_exists.mp active
          have before := books.registered i e' h' at_i held
          rw [show f.registry.active = none from free] at before
          cases before
      exact (only j e₁ at_j a₁).trans (only i e₂ at_i a₂).symm
    | ends active session registry =>
      exact books.single_commit member (by simp [Driver.active, session]) at_j at_i a₁ a₂

theorem Books.update (books : f.Books) {change : Driver (ω × Tally) → Driver (ω × Tally)}
    (moves : ∀ d, f.member? k = some d → Move d (change d) ∧ (change d).Settled) : (f.update k change).Books := by
  unfold Fleet.update
  split
  · rename_i d member
    obtain ⟨move, settled⟩ := moves d member
    exact books.commit member move settled
  · exact books

theorem Books.step (books : f.Books) (dev : Nat → Devices ω) (event : Event) :
    (f.step (fun k => (dev k).counted) event).Books := by
  cases event with
  | start k => exact books.update fun d member => (books.member member).1.after_start (dev k)
  | stop k close =>
    refine books.update fun d member => ?_
    obtain ⟨settled, registered⟩ := books.member member
    cases close
    · exact settled.after_stop (dev k) registered
    · exact settled.after_close (dev k) registered
  | configure k c => exact books.update fun d member => (books.member member).1.after_change c
  | fetch k => exact books.update fun d member => (books.member member).1.whileActive ((books.member member).1.fetch (dev k))
  | poll k => exact books.update fun d member => (books.member member).1.whileActive (books.member member).1.poll
  | control k =>
    exact books.update fun d member => (books.member member).1.whileActive ((books.member member).1.control (dev k))

theorem Books.run (books : f.Books) (dev : Nat → Devices ω) (events : List Event) :
    (f.run (fun k => (dev k).counted) events).Books := by
  induction events generalizing f with
  | nil => exact books
  | cons event rest ih => exact ih (books.step dev event)

/-- The drivers `configs` describes, each new, with its devices in the state
given and no call of its locker counted yet, sharing a free registry. -/
def fresh (configs : List (DriverOptions × ω × Int)) : Fleet (ω × Tally) :=
  { drivers := (configs.map fun (options, world, chunk) => Driver.new options (world, ({} : Tally)) chunk).toArray }

theorem books_fresh (configs : List (DriverOptions × ω × Int)) : (fresh configs).Books := by
  have new : ∀ (k : Nat) d, (fresh configs).drivers[k]? = some d → ∃ options world chunk, d = Driver.new options (world, ({} : Tally)) chunk := by
    intro k d at_k
    simp only [fresh, List.getElem?_toArray, List.getElem?_map, Option.map_eq_some_iff] at at_k
    obtain ⟨⟨options, world, chunk⟩, -, rfl⟩ := at_k
    exact ⟨options, world, chunk, rfl⟩
  refine ⟨fun k d at_k => ?_, fun k d h at_k held => ?_, fun k j d e at_k _ active _ => ?_⟩
  · obtain ⟨options, world, chunk, rfl⟩ := new k d at_k
    refine ⟨rfl, rfl, fun _ => ⟨?_, rfl, rfl⟩, (fun h held => by cases held), ⟨?_, ?_⟩⟩
    · exact (Ring.toList_eq_nil _).mpr rfl
    · simp [Driver.new, Ring.capacity, recordQueueSize, baseSampleRate, defaultChunkSize]
    · simp [Driver.new]
  · obtain ⟨options, world, chunk, rfl⟩ := new k d at_k
    cases held
  · obtain ⟨options, world, chunk, rfl⟩ := new k d at_k
    cases active

end Fleet

/-- Drivers sharing one registry of sessions, each with its own reader and
locker, the locker's calls counted: whatever Starts, Stops, Closes, changes of
configuration and passes of the session loops run, with any device call
failing, between calls every driver is active exactly while the registry holds
its handle, and no other driver is active then; its successful locks outnumber
its unlocks by one while it is active and by none otherwise; its reader is
armed exactly while it is active; and while it is not, its queues are empty and
no drop is counted. A Start is refused as already started exactly while the
driver is active or the registry busy; one that fails leaves the driver and
the registry as they were but for the devices and the registry's count of
sessions, and as many unlocks as successful locks; the board's identity check
never changes what Start does. With no other Stop under way, a Stop reports
that no session was started exactly while the driver is not active, and the
registry's check never refuses an active driver. -/
theorem shared_registry_keeps_sessions_consistent (dev : Nat → Devices ω) (foreign : ∀ k, (dev k).Foreign)
    (configs : List (DriverOptions × ω × Int)) (events : List Fleet.Event) :
    let f := (Fleet.fresh configs).run (fun k => (dev k).counted) events
    ∀ k d, f.member? k = some d →
      (d.active = true ↔ ∃ h, d.session = some h ∧ f.registry.active = some h) ∧
      (∀ j e, f.member? j = some e → d.active = true → e.active = true → j = k) ∧
      d.world.2.locks = d.world.2.unlocks + (if d.active then 1 else 0) ∧
      d.reader.armed = d.active ∧
      (d.active = false → d.records.toList = [] ∧ d.pendingEvents = [] ∧ d.dropped = 0) ∧
      ((∃ e, ((start (dev k).counted).run' d).1 = .error e ∧ e.is .alreadyStarted = true) ↔
        d.active = true ∨ f.registry.busy = true) ∧
      (∀ e, ((start (dev k).counted).run' d).1 = .error e →
        let d' := ((start (dev k).counted).run' d).2
        d' = { d with reader := { d.reader with sampler := d'.world },
                      registry := { f.registry with issued := d'.registry.issued } } ∧
          d'.world.2.locks + d.world.2.unlocks = d.world.2.locks + d'.world.2.unlocks) ∧
      (∀ verify : Op ω Unit, (∀ w, (verify.run' w).2 = ((dev k).verify.run' w).2) →
        (start { dev k with verify }.counted).run' d = (start (dev k).counted).run' d) ∧
      ((∃ e, ((stop (dev k).counted).run' d).1 = .error e ∧ e.is .notStarted = true) ↔ d.active = false) ∧
      (stopRefusal d false = none ↔ d.active = true) := by
  intro f k d member
  have books : f.Books := (Fleet.books_fresh configs).run dev events
  obtain ⟨settled, registered⟩ := books.member member
  obtain ⟨e, at_k, rfl⟩ := Fleet.member?_eq_some.mp member
  refine ⟨⟨fun active => ?_, fun ⟨h, held, _⟩ => by dsimp only at held ⊢; simp [active, held]⟩, fun j e' at_j active active' => ?_,
    settled.balanced, settled.armed, settled.drained, ⟨fun ⟨f', failed, refused⟩ => ?_, fun busy => ?_⟩,
    fun f' failed => ?_, fun verify same => ?_, stop_not_started_iff (foreign k).counted registered settled.owned,
    stopRefusal_none_iff registered settled.owned⟩
  · obtain ⟨h, held⟩ := Option.isSome_iff_exists.mp active
    exact ⟨h, held, registered h held⟩
  · obtain ⟨e'', at_j', rfl⟩ := Fleet.member?_eq_some.mp at_j
    exact books.single j k e'' e at_j' at_k active' active
  · have reason := start_refused (foreign k).counted
      (Prod.ext failed rfl : (start (dev k).counted).run' _ = (.error f', ((start (dev k).counted).run' _).2))
    rw [refused] at reason
    simpa [Registry.busy] using reason.symm
  · obtain ⟨f', refused, is⟩ := start_busy (dev k).counted (by simpa using busy)
    exact ⟨f', by rw [refused], is⟩
  · have started : (start (dev k).counted).run' _ = (.error f', ((start (dev k).counted).run' _).2) :=
      Prod.ext failed rfl
    obtain ⟨n, tally⟩ := start_tally (dev k) _ started
    refine ⟨start_failure started settled.disarmed, ?_⟩
    rw [tally]
    simp only [Except.isOk, Except.toBool, Bool.false_eq_true, if_false]
    omega
  · exact start_ignores_verify (dev k).counted (keepTally verify) (fun w => by simp [run'_keepTally, same]) _

/-- Two drivers on steady devices: the first starts, the second is refused,
the first reads and stops, the second starts, and the first is reconfigured. -/
theorem steady_fleet_keeps_sessions_consistent :
    (∀ _ : Nat, steadyDevices.Foreign) ∧
    let f := (Fleet.fresh [({}, (), 100), ({}, (), 100)]).run (fun _ => steadyDevices.counted)
      [.start 0, .start 1, .fetch 0, .poll 0, .stop 0 false, .start 1, .configure 0 (.burstSize 5)]
    ∀ k d, f.member? k = some d →
      (d.active = true ↔ ∃ h, d.session = some h ∧ f.registry.active = some h) ∧
      (∀ j e, f.member? j = some e → d.active = true → e.active = true → j = k) ∧
      d.world.2.locks = d.world.2.unlocks + (if d.active then 1 else 0) ∧
      d.reader.armed = d.active ∧
      (d.active = false → d.records.toList = [] ∧ d.pendingEvents = [] ∧ d.dropped = 0) ∧
      ((∃ e, ((start steadyDevices.counted).run' d).1 = .error e ∧ e.is .alreadyStarted = true) ↔
        d.active = true ∨ f.registry.busy = true) ∧
      (∀ e, ((start steadyDevices.counted).run' d).1 = .error e →
        let d' := ((start steadyDevices.counted).run' d).2
        d' = { d with reader := { d.reader with sampler := d'.world },
                      registry := { f.registry with issued := d'.registry.issued } } ∧
          d'.world.2.locks + d.world.2.unlocks = d.world.2.locks + d'.world.2.unlocks) ∧
      (∀ verify : Op Unit Unit, (∀ w, (verify.run' w).2 = (steadyDevices.verify.run' w).2) →
        (start { steadyDevices with verify }.counted).run' d = (start steadyDevices.counted).run' d) ∧
      ((∃ e, ((stop steadyDevices.counted).run' d).1 = .error e ∧ e.is .notStarted = true) ↔ d.active = false) ∧
      (stopRefusal d false = none ↔ d.active = true) :=
  -- none of the steady devices' calls fails
  have foreign : steadyDevices.Foreign :=
    ⟨fun _ _ _ failed => by simp [steadyDevices] at failed, fun _ _ _ failed => by simp [steadyDevices] at failed,
      fun _ _ _ _ failed => by simp [steadyDevices] at failed, fun _ _ _ failed => by simp [steadyDevices] at failed,
      fun _ _ _ failed => by simp [steadyDevices] at failed⟩
  ⟨fun _ => foreign, shared_registry_keeps_sessions_consistent (fun _ => steadyDevices) (fun _ => foreign) _ _⟩

end Driver

end Acquisition
