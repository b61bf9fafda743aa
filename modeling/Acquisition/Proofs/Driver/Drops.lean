import Acquisition.Proofs.Driver.Pipeline
/-! Drop accounting over a session: each poller cycle takes the refusals since the previous one,
saturated, the overflow callback hears every count but zero, and each burst reports the counts since
the last. -/
namespace Acquisition

namespace Driver

variable {ω : Type}

/-- What a task shows of the drop count: a batch with samples that the full
record queue refused, or a poller cycle with the count it swapped out and
whether it handed a burst to the data callback. -/
inductive Drop where
  | refused
  | cycle (swapped : Nat) (handed : Bool)
  deriving DecidableEq, Repr

namespace Drop

def swaps : List Drop → List Nat
  | [] => []
  | refused :: rest => swaps rest
  | cycle n _ :: rest => n :: swaps rest

def cycles : List Drop → List (Nat × Bool)
  | [] => []
  | refused :: rest => cycles rest
  | cycle n handed :: rest => (n, handed) :: cycles rest

/-- What each cycle ought to swap out: the batches refused since the previous
cycle, `pending` of them before the first, saturated at the ceiling. -/
def counted (pending : Nat) : List Drop → List Nat
  | [] => []
  | refused :: rest => counted (pending + 1) rest
  | cycle _ _ :: rest => min pending dropCeiling :: counted 0 rest

end Drop

/-- What an iteration of the fetcher from `d` shows: a refusal when it read a
batch with samples and the record queue was full. -/
def fetchDrops (dev : Devices ω) (d : Driver ω) : List Drop :=
  match ((Reader.read dev.sampler).run' d.reader).1 with
  | .ok b => if !b.isEmpty && !(d.records.push b).1 then [.refused] else []
  | .error _ => []

/-- One task from `d`, with what it showed of the drop count; a poller cycle
may abort. -/
def dropTask (dev : Devices ω) (d : Driver ω) : Task → Except Abort (Driver ω × List Drop)
  | .fetch => .ok (d.fetch dev, fetchDrops dev d)
  | .poll => do
    let (_, d') ← d.pollOnce
    pure (d', [.cycle d.dropped.toNat (d.outbox.deliveries.size < d'.outbox.deliveries.size)])

/-- The tasks from `d` in order, with what each showed of the drop count; a
poller cycle that aborts ends the run at the driver before it. -/
def dropRun (dev : Devices ω) : Driver ω → List Task → Driver ω × List Drop
  | d, [] => (d, [])
  | d, task :: rest =>
    match dropTask dev d task with
    | .ok (d', shown) => ((dropRun dev d' rest).1, shown ++ (dropRun dev d' rest).2)
    | .error _ => (d, [])

theorem dropRun_cons (dev : Devices ω) {d d' : Driver ω} {task : Task} {shown : List Drop}
    (stepped : dropTask dev d task = .ok (d', shown)) (rest : List Task) :
    dropRun dev d (task :: rest) = ((dropRun dev d' rest).1, shown ++ (dropRun dev d' rest).2) := by
  rw [dropRun, stepped]

theorem dropRun_abort (dev : Devices ω) {d : Driver ω} {task : Task} {e : Abort}
    (aborted : dropTask dev d task = .error e) (rest : List Task) : dropRun dev d (task :: rest) = (d, []) := by
  rw [dropRun, aborted]

/-- What a run from `d` to `d'` that showed `trace` accounts for, from a
counter holding the `pending` refusals since the last cycle and a burst holding
the `owed` drops since the last burst, both saturated. -/
structure Accounted (pending owed : Nat) (d d' : Driver ω) (trace : List Drop) : Prop where
  /-- Each cycle swaps out the refusals since the previous one, and the counter
  holds those since the last. -/
  swapped : Drop.swaps trace ++ [d'.dropped.toNat] = Drop.counted pending (trace ++ [.cycle 0 false])
  /-- The overflow callback hears each swapped count that is not zero. -/
  told : d'.outbox.overflows.toList =
    d.outbox.overflows.toList ++ (if d.overflowHandler then (Drop.swaps trace).filter (· ≠ 0) else [])
  /-- Each burst reports the counts swapped since the previous one, and the
  burst holds those since the last. -/
  reported : d'.outbox.deliveries.toList.map Prod.snd ++ [d'.burst.dropped] =
    d.outbox.deliveries.toList.map Prod.snd ++ Burst.reports owed (Drop.cycles trace ++ [(0, true)])

theorem Accounted.stop {pending owed : Nat} {d : Driver ω} (counter : d.dropped.toNat = min pending dropCeiling)
    (gathered : d.burst.dropped = min owed dropCeiling) : Accounted pending owed d d [] where
  swapped := by simp [Drop.swaps, Drop.counted, counter]
  told := by simp [Drop.swaps]
  reported := by simp [Drop.cycles, Burst.reports, gathered]

/-! ### One step of the count -/

theorem toNat_countRefusal {v : UInt64} {pending : Nat} (counts : v.toNat = min pending dropCeiling) :
    (if v == dropCeiling.toUInt64 then v else v + 1).toNat = min (pending + 1) dropCeiling := by
  have ceiling : dropCeiling = 2 ^ 64 - 1 := rfl
  have top : (dropCeiling.toUInt64).toNat = dropCeiling := by rw [ceiling]; rfl
  have bounded := UInt64.toNat_lt v
  by_cases full : v = dropCeiling.toUInt64
  · -- saturated: the count of refusals is at least the ceiling
    rw [if_pos (beq_iff_eq.2 full)]
    rw [full, top] at counts ⊢
    omega
  · rw [if_neg (by simpa using full)]
    have below : v.toNat < dropCeiling := by
      have differ : v.toNat ≠ dropCeiling := fun same => full (UInt64.toNat_inj.1 (by rw [same, top]))
      omega
    rw [UInt64.toNat_add, UInt64.toNat_one, Nat.mod_eq_of_lt (by omega)]
    omega

/-- An iteration of the fetcher leaves the burst and the callbacks' records
alone, and counts on the drop counter the refusal it shows, if any. -/
theorem fetch_drops (dev : Devices ω) (d : Driver ω) :
    (d.fetch dev).burst = d.burst ∧ (d.fetch dev).outbox.overflows = d.outbox.overflows ∧
      (d.fetch dev).outbox.deliveries = d.outbox.deliveries ∧ (d.fetch dev).overflowHandler = d.overflowHandler ∧
      ((fetchDrops dev d = [.refused] ∧
          (d.fetch dev).dropped = if d.dropped == dropCeiling.toUInt64 then d.dropped else d.dropped + 1) ∨
        (fetchDrops dev d = [] ∧ (d.fetch dev).dropped = d.dropped)) := by
  unfold fetch fetchDrops
  rcases (Reader.read dev.sampler).run' d.reader with ⟨_ | b, reader⟩
  · exact ⟨rfl, rfl, rfl, rfl, .inr ⟨rfl, rfl⟩⟩
  dsimp only [takeRead]
  rw [dispatchEvents_eq]
  by_cases nothing : b.isEmpty
  · simp [nothing]
  simp only [nothing, Bool.false_eq_true, if_false, Bool.not_false, Bool.true_and]
  -- the batch is queued, or refused and counted
  unfold enqueue
  rcases pushed : d.records.push b with ⟨_ | _, records⟩
  · exact ⟨rfl, rfl, rfl, rfl, .inl ⟨by simp, rfl⟩⟩
  · exact ⟨rfl, rfl, rfl, rfl, .inr ⟨by simp, rfl⟩⟩

/-- A cycle of the poller that does not abort swaps the drop counter to zero,
tells the overflow callback of what it took, and counts that into the burst
with a call that may hand out a burst. -/
theorem pollOnce_drops {d d' : Driver ω} {busy : Bool} (polled : d.pollOnce = .ok (busy, d'))
    (bounded : d.burst.dropped ≤ dropCeiling) :
    d'.dropped = 0 ∧ d'.overflowHandler = d.overflowHandler ∧
      d'.outbox.overflows = (d.reportDrops d.dropped).outbox.overflows ∧
      ∃ c : Burst.Call, c.drops = d.dropped.toNat ∧ d'.burst = (d.burst.apply c).2 ∧
        d'.outbox.deliveries = d.outbox.deliveries ++ (d.burst.apply c).1.toList.toArray := by
  unfold pollOnce at polled
  generalize d.records.popBatch (Array.replicate popSize default) = taking at polled
  obtain ⟨n, dst, records⟩ := taking
  obtain ⟨overflows, reported⟩ := reportDrops_eq { d with records, dropped := 0 } d.dropped
  have same_report : (d.reportDrops d.dropped).outbox.overflows = overflows := by
    rw [← show ({ d with records, dropped := 0 }.reportDrops d.dropped).outbox.overflows = overflows by rw [reported]]
    by_cases told : (decide (d.dropped > 0) && d.overflowHandler) = true <;> simp [reportDrops, told]
  simp only [reported] at polled
  split at polled
  · -- nothing queued and nothing dropped: the burst counts no drops
    rename_i idle
    cases polled
    have none : d.dropped = 0 := by simpa using (Bool.and_eq_true_iff.1 idle).2
    have kept : d.burst.countDropped 0 = d.burst := by
      simp only [Burst.countDropped, Nat.add_zero, Nat.min_eq_left bounded]
    refine ⟨rfl, rfl, ?_, .countDropped 0, by simp [Burst.Call.drops, none], by simp [Burst.apply, kept], by simp [Burst.apply]⟩
    simp [reportDrops, none]
  split at polled
  · -- drops and no batch: the burst counts them
    cases polled
    exact ⟨rfl, rfl, same_report.symm, .countDropped d.dropped.toNat, rfl, rfl, by simp [Burst.apply]⟩
  -- batches taken: their output joins the burst with the drops
  rcases transformed : transform (dst.toList.take n) d.resampler with _ | ⟨out, resampler⟩
  · simp [transformed, bind, Except.bind] at polled
  · simp only [transformed, bind, Except.bind, pure, Except.pure, Except.ok.injEq, Prod.mk.injEq] at polled
    obtain ⟨-, rfl⟩ := polled
    rw [gather_eq]
    exact ⟨rfl, rfl, same_report.symm, .push out d.dropped.toNat, rfl, rfl, rfl⟩

theorem reportDrops_overflows (d : Driver ω) (v : UInt64) :
    (d.reportDrops v).outbox.overflows.toList =
      d.outbox.overflows.toList ++ (if d.overflowHandler then [v.toNat].filter (· ≠ 0) else []) := by
  cases handler : d.overflowHandler
  · simp [reportDrops, handler]
  by_cases none : v = 0
  · simp [reportDrops, handler, none]
  · have positive : 0 < v := UInt64.pos_iff_ne_zero.2 none
    have nonzero : v.toNat ≠ 0 := fun zero => none (UInt64.toNat_inj.1 zero)
    simp [reportDrops, handler, positive, nonzero]

theorem size_lt_append (a : Array (Batch × Nat)) (o : Option (Batch × Nat)) :
    decide (a.size < (a ++ o.toList.toArray).size) = o.isSome := by
  cases o <;> simp

/-- A poller cycle that swapped out `d.dropped` and told the overflow callback
of it, followed by a run that accounts for its drops from a cleared counter,
accounts for the cycle's count too; `reported` says how the cycle's count
joined the deliveries or the burst. -/
theorem Accounted.cycle {pending owed owed' : Nat} {d d' d'' : Driver ω} {trace : List Drop} {handed : Bool}
    (swapped : d.dropped.toNat = min pending dropCeiling)
    (heard : d'.outbox.overflows.toList = d.outbox.overflows.toList ++
      (if d.overflowHandler then [d.dropped.toNat].filter (· ≠ 0) else []))
    (handler : d'.overflowHandler = d.overflowHandler)
    (reported : ∀ rest, d'.outbox.deliveries.toList.map Prod.snd ++ Burst.reports owed' rest =
      d.outbox.deliveries.toList.map Prod.snd ++ Burst.reports owed ((d.dropped.toNat, handed) :: rest))
    (next : Accounted 0 owed' d' d'' trace) :
    Accounted pending owed d d'' ([.cycle d.dropped.toNat handed] ++ trace) where
  swapped := by simp [Drop.swaps, Drop.counted, swapped, next.swapped]
  told := by
    rw [next.told, heard, handler, List.append_assoc]
    cases d.overflowHandler
    · simp
    · simp only [if_true, ← List.filter_append, List.singleton_append, Drop.swaps]
  reported := by
    rw [next.reported, reported]
    rfl

/-- A fetcher iteration that showed a refusal, one more pending on the
counter, or nothing, and left the callbacks' records alone, followed by a run
that accounts for its drops, accounts for the iteration too. -/
theorem Accounted.fetch {pending pending' owed : Nat} {d d' d'' : Driver ω} {shown trace : List Drop}
    (shows : shown = [.refused] ∧ pending' = pending + 1 ∨ shown = [] ∧ pending' = pending)
    (overflows : d'.outbox.overflows = d.outbox.overflows) (deliveries : d'.outbox.deliveries = d.outbox.deliveries)
    (handler : d'.overflowHandler = d.overflowHandler) (next : Accounted pending' owed d' d'' trace) :
    Accounted pending owed d d'' (shown ++ trace) := by
  rcases shows with ⟨rfl, rfl⟩ | ⟨rfl, rfl⟩
  · exact ⟨by simpa [Drop.swaps, Drop.counted] using next.swapped,
      by rw [next.told, overflows, handler]; simp [Drop.swaps],
      by rw [next.reported, deliveries]; simp [Drop.cycles]⟩
  · rw [List.nil_append]
    exact ⟨next.swapped, by rw [next.told, overflows, handler], by rw [next.reported, deliveries]⟩

/-- Flushing the burst when the poller ends tells the overflow callback
nothing, and hands out at most one more burst, which reports the drops the
burst held. -/
theorem finishPoller_reports (d : Driver ω) :
    d.finishPoller.outbox.overflows = d.outbox.overflows ∧
      (d.finishPoller.outbox.deliveries = d.outbox.deliveries ∨
        d.finishPoller.outbox.deliveries.toList.map Prod.snd =
          d.outbox.deliveries.toList.map Prod.snd ++ [d.burst.dropped]) := by
  unfold finishPoller
  split
  · by_cases empty : d.burst.gathered.isEmpty
    · simp [Burst.flush, empty]
    · simp [Burst.flush, empty, deliver]
  · exact ⟨rfl, .inl rfl⟩

/-! ### A run -/

/-- Along any run the drop counts are accounted for. The induction is on the
tasks, the refusals pending on the counter and the drops owed by the burst
carried from each task to the next. -/
theorem dropRun_accounted (dev : Devices ω) (tasks : List Task) {d : Driver ω} {pending owed : Nat}
    (counter : d.dropped.toNat = min pending dropCeiling) (gathered : d.burst.dropped = min owed dropCeiling) :
    Accounted pending owed d (dropRun dev d tasks).1 (dropRun dev d tasks).2 := by
  induction tasks generalizing d pending owed with
  | nil => exact Accounted.stop counter gathered
  | cons task rest ih =>
    cases task with
    | fetch =>
      obtain ⟨burst, overflows, deliveries, handler, step⟩ := fetch_drops dev d
      rw [dropRun_cons dev (rfl : dropTask dev d .fetch = .ok (d.fetch dev, fetchDrops dev d))]
      rcases step with ⟨refusal, counted⟩ | ⟨quiet, same⟩
      · -- a refusal: one more pending on the counter
        exact Accounted.fetch (.inl ⟨refusal, rfl⟩) overflows deliveries handler
          (ih (by rw [counted]; exact toNat_countRefusal counter) (by rw [burst]; exact gathered))
      · exact Accounted.fetch (.inr ⟨quiet, rfl⟩) overflows deliveries handler
          (ih (by rw [same]; exact counter) (by rw [burst]; exact gathered))
    | poll =>
      cases polled : d.pollOnce with
      | error e =>
        rw [dropRun_abort dev (by simp [dropTask, polled, bind, Except.bind] : dropTask dev d .poll = .error e)]
        exact Accounted.stop counter gathered
      | ok result =>
        obtain ⟨busy, d'⟩ := result
        have stepped : dropTask dev d .poll =
            .ok (d', [.cycle d.dropped.toNat (d.outbox.deliveries.size < d'.outbox.deliveries.size)]) := by
          simp only [dropTask, polled]
          rfl
        rw [dropRun_cons dev stepped]
        obtain ⟨zeroed, handler, overflows, c, drops, burst, deliveries⟩ :=
          pollOnce_drops polled (by rw [gathered]; exact Nat.min_le_right _ _)
        obtain ⟨reported, carried⟩ := Burst.apply_dropped gathered c
        have swapped : d.dropped.toNat = min pending dropCeiling := counter
        have cleared : d'.dropped.toNat = min 0 dropCeiling := by simp [zeroed]
        -- the overflow callback heard this cycle's count if it was not zero
        have heard : d'.outbox.overflows.toList = d.outbox.overflows.toList ++
            (if d.overflowHandler then [d.dropped.toNat].filter (· ≠ 0) else []) := by
          rw [overflows, reportDrops_overflows]
        have flag : decide (d.outbox.deliveries.size < d'.outbox.deliveries.size) = (d.burst.apply c).1.isSome := by
          simp only [deliveries, size_lt_append]
        rw [flag]
        cases handed : (d.burst.apply c).1 with
        | none =>
          -- no burst handed out: the count stays owed
          refine Accounted.cycle swapped heard handler (fun rest => ?_)
            (ih cleared (by rw [burst, carried handed, drops]))
          simp [deliveries, handed, Burst.reports]
        | some out =>
          -- a burst handed out with every count owed
          obtain ⟨count, restarted⟩ := reported out (by rw [handed]; rfl)
          refine Accounted.cycle swapped heard handler (fun rest => ?_)
            (ih cleared (show d'.burst.dropped = min 0 dropCeiling by simp [burst, restarted]))
          simp [deliveries, handed, Burst.reports, count, drops]

/-- Drop accounting over a session. Along any run of fetcher iterations and
poller cycles from a started driver, each cycle swaps out the batches refused
since the previous cycle, saturated at `2^64 - 1`, and the counter holds those
since the last; the overflow callback, if set, hears exactly the swapped counts
that are not zero, in order; the data callback receives with each burst the
saturated sum of the counts swapped since the previous burst, cycles that took
no batch or whose batches gave no samples included, and the burst holds the sum
since the last; and what the final flush hands out keeps to the same sums. -/
theorem drops_reach_callbacks_once (dev : Devices ω) {d₀ d d' : Driver ω} {trace : List Drop}
    (started : (start dev).run' d₀ = (.ok (), d)) (tasks : List Task) (ran : dropRun dev d tasks = (d', trace)) :
    Drop.swaps trace ++ [d'.dropped.toNat] = Drop.counted 0 (trace ++ [.cycle 0 false]) ∧
      d'.outbox.overflows.toList = d₀.outbox.overflows.toList ++
        (if d₀.overflowHandler then (Drop.swaps trace).filter (· ≠ 0) else []) ∧
      d'.outbox.deliveries.toList.map Prod.snd ++ [d'.burst.dropped] =
        d₀.outbox.deliveries.toList.map Prod.snd ++ Burst.reports 0 (Drop.cycles trace ++ [(0, true)]) ∧
      d'.finishPoller.outbox.overflows = d'.outbox.overflows ∧
      d'.finishPoller.outbox.deliveries.toList.map Prod.snd <+:
        d₀.outbox.deliveries.toList.map Prod.snd ++ Burst.reports 0 (Drop.cycles trace ++ [(0, true)]) := by
  obtain ⟨-, h, reader, registry, -, begun⟩ := start_ok started
  -- a started session clears the counter and the burst, and keeps the callbacks' records
  have cleared : d.dropped.toNat = min 0 dropCeiling := by simp [begun]
  have empty : d.burst.dropped = min 0 dropCeiling := by simp [begun]
  have outbox : d.outbox = d₀.outbox := by rw [begun]
  have handler : d.overflowHandler = d₀.overflowHandler := by rw [begun]
  have accounted : Accounted 0 0 d (dropRun dev d tasks).1 (dropRun dev d tasks).2 :=
    dropRun_accounted dev tasks cleared empty
  rw [ran] at accounted
  obtain ⟨swapped, told, reported⟩ := accounted
  rw [outbox, handler] at told
  rw [outbox] at reported
  obtain ⟨finished, flushed⟩ := finishPoller_reports d'
  refine ⟨swapped, told, reported, finished, ?_⟩
  rw [← reported]
  rcases flushed with kept | handed
  · rw [kept]
    exact List.prefix_append _ _
  · rw [handed]

/-- A session on the steady board: it starts, and the drop counts of a run of
two fetches and two cycles are accounted for. -/
theorem steady_session_reaches_callbacks_once :
    let d₀ : Driver Unit := Driver.new {} ()
    let d := ((start steadyDevices).run' d₀).2
    let run := dropRun steadyDevices d [.fetch, .poll, .fetch, .poll]
    (start steadyDevices).run' d₀ = (.ok (), d) ∧
      Drop.swaps run.2 ++ [run.1.dropped.toNat] = Drop.counted 0 (run.2 ++ [.cycle 0 false]) ∧
      run.1.outbox.overflows.toList = d₀.outbox.overflows.toList ++
        (if d₀.overflowHandler then (Drop.swaps run.2).filter (· ≠ 0) else []) ∧
      run.1.outbox.deliveries.toList.map Prod.snd ++ [run.1.burst.dropped] =
        d₀.outbox.deliveries.toList.map Prod.snd ++ Burst.reports 0 (Drop.cycles run.2 ++ [(0, true)]) ∧
      run.1.finishPoller.outbox.overflows = run.1.outbox.overflows ∧
      run.1.finishPoller.outbox.deliveries.toList.map Prod.snd <+:
        d₀.outbox.deliveries.toList.map Prod.snd ++ Burst.reports 0 (Drop.cycles run.2 ++ [(0, true)]) := by
  intro d₀ d run
  have started : (start steadyDevices).run' d₀ = (.ok (), d) := Prod.ext rfl rfl
  exact ⟨started, @drops_reach_callbacks_once Unit steadyDevices d₀ d run.1 run.2 started
    [.fetch, .poll, .fetch, .poll] (Prod.mk.eta : (run.1, run.2) = run).symm⟩

end Driver

end Acquisition
