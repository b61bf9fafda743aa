import Acquisition.Proofs.Driver.Lifecycle
import Acquisition.Proofs.Driver.Bursts
import Acquisition.Proofs.Queue.Fifo
import Acquisition.Proofs.Sample.Reference
/-! The acquisition pipeline conserves samples: over any interleaving of fetcher and poller, the
invariant `Conserves` ties the driver to a `Ledger` of the batches read, pushed and taken. -/
namespace Acquisition

namespace Calibration

theorem batchOf_length (c : Calibration) (frames : List Frame) :
    (c.batchOf frames).length = frames.length := by
  simp [batchOf, Batch.length]

theorem batchOf_uniform (c : Calibration) (frames : List Frame) : (c.batchOf frames).Uniform := by
  intro ch
  simp [batchOf, Batch.length]

end Calibration

namespace Driver

variable {ω : Type}

/-- A step of a running session: an iteration of the fetcher or a cycle of the poller. -/
inductive Task where
  | fetch
  | poll
  deriving DecidableEq, Repr

/-- What a session has passed along, oldest first: the batches read that hold
samples, those of them pushed on the record queue, and those the poller took. -/
structure Ledger where
  read : List Batch := []
  pushed : List Batch := []
  popped : List Batch := []

namespace Ledger

def queued (l : Ledger) : List Batch := l.pushed.drop l.popped.length

/-- The ledger after an iteration of the fetcher from `d`: a batch with
samples is read, and pushed if the record queue takes it. -/
def fetched (l : Ledger) (dev : Devices ω) (d : Driver ω) : Ledger :=
  match ((Reader.read dev.sampler).run' d.reader).1 with
  | .ok b =>
    if b.isEmpty then l
    else { l with read := l.read ++ [b], pushed := if (d.records.push b).1 then l.pushed ++ [b] else l.pushed }
  | .error _ => l

def polled (l : Ledger) (d : Driver ω) : Ledger :=
  let (n, taken, _) := d.records.popBatch (Array.replicate popSize default)
  { l with popped := l.popped ++ taken.toList.take n }

/-- Taking the first `n` queued batches keeps the batches taken a prefix of
those pushed, and leaves the rest queued. -/
theorem take_queued (l : Ledger) (taken : l.popped.IsPrefix l.pushed) (n : Nat) :
    (l.popped ++ l.queued.take n).IsPrefix l.pushed ∧
      ({ l with popped := l.popped ++ l.queued.take n } : Ledger).queued = l.queued.drop n := by
  obtain ⟨rest, whole⟩ := taken
  have queued : l.queued = rest := by
    rw [queued, ← whole, List.drop_left]
  rw [queued]
  refine ⟨⟨rest.drop n, by rw [List.append_assoc, List.take_append_drop, whole]⟩, ?_⟩
  show l.pushed.drop (l.popped ++ rest.take n).length = rest.drop n
  rw [← whole, List.length_append, ← List.drop_drop, List.drop_left, List.length_take]
  rcases Nat.le_total n rest.length with within | beyond
  · rw [Nat.min_eq_left within]
  · rw [Nat.min_eq_right beyond, List.drop_length, List.drop_eq_nil_of_le beyond]

end Ledger

/-- One task from a driver and its ledger; a poller cycle may abort. -/
def runTask (dev : Devices ω) : Driver ω × Ledger → Task → Except Abort (Driver ω × Ledger)
  | (d, l), .fetch => .ok (d.fetch dev, l.fetched dev d)
  | (d, l), .poll => do
    let (_, d') ← d.pollOnce
    pure (d', l.polled d)

def runTasks (dev : Devices ω) (tasks : List Task) (start : Driver ω × Ledger) :
    Except Abort (Driver ω × Ledger) :=
  tasks.foldlM (runTask dev) start

theorem runTask_poll (dev : Devices ω) {d d' : Driver ω} {l : Ledger} {busy : Bool}
    (polled : d.pollOnce = .ok (busy, d')) : runTask dev (d, l) .poll = .ok (d', l.polled d) := by
  simp only [runTask, polled]
  rfl

/-- What the poller has put out, `out`, against the batches it took, `taken`,
for a session that began with resampler `first` and now has `current`: the same
samples without a resampler; with one, the reference resampling of them channel
by channel, the resampler carrying all it has seen. -/
def Streams : Option Resampler → Option Resampler → Batch → Batch → Prop
  | none, current, out, taken => current = none ∧ out = taken
  | some first, current, out, taken => ∃ r, current = some r ∧ r.target = first.target ∧
      r.base = first.base ∧ r.Carries taken ∧ ∀ ch : Fin 4, (out.channel ch).toList =
        (List.range (Resampler.outputCount first.target first.base taken.length)).map
          (Resampler.referenceSample first.target first.base (taken.channel ch))

/-- The parts of a driver that samples pass through besides the record queue,
and the counts of batches read and dropped. -/
def samples (d : Driver ω) :
    Batch × Option Resampler × Array (Batch × Nat) × Nat × Nat × Option Handle × Registry × DriverOptions :=
  (d.burst.gathered, d.resampler, d.outbox.deliveries, d.metrics.batchesRead, d.metrics.batchesDropped,
    d.session, d.registry, d.options)

/-- The invariant of a running session that began as `s`, with ledger `l`. -/
structure Conserves (s d : Driver ω) (l : Ledger) : Prop where
  taken : l.popped.IsPrefix l.pushed
  queued : d.records.Holds l.queued
  kept : l.pushed.Sublist l.read
  read : d.metrics.batchesRead = s.metrics.batchesRead + l.read.length
  dropped : d.metrics.batchesDropped + l.pushed.length = s.metrics.batchesDropped + l.read.length
  uniform : ∀ b ∈ l.read, b.Uniform
  small : s.resampler.isSome → ∀ b ∈ l.read, b.length ≤ 2 ^ 46
  gathered : d.burst.gathered.Uniform
  session : d.session = s.session
  registry : d.registry = s.registry
  options : d.options = s.options
  delivered : ∃ new, d.outbox.deliveries.toList = s.outbox.deliveries.toList ++ new ∧
    Streams s.resampler d.resampler (Batch.concat (new.map Prod.fst) ++ d.burst.gathered) (Batch.concat l.popped)

/-- A batch of at most `2^46` frames fits the position
arithmetic of any resampler the driver sets up. -/
theorem fits_of_small {rs : Resampler} (rate : 1 ≤ rs.target ∧ rs.target ≤ rs.base ∧ rs.base = baseSampleRate)
    {n : Nat} (small : n ≤ 2 ^ 46) : Resampler.Fits rs.target rs.base n := by
  obtain ⟨-, down, native⟩ := rate
  have scaled : n * rs.target ≤ 2 ^ 46 * rs.base := Nat.mul_le_mul small down
  rw [native, baseSampleRate] at scaled ⊢
  constructor <;> omega

/-- A poller cycle's conversion keeps the streams: without a resampler it joins
the batches; with one it resamples each in turn, and the outputs carry on the
reference over all the batches taken. The output has channels of equal length. -/
theorem transform_streams {first current : Option Resampler} {out taken : Batch} {batches : List Batch}
    (streams : Streams first current out taken)
    (rates : ∀ rs ∈ first, 1 ≤ rs.target ∧ rs.target ≤ rs.base ∧ rs.base = baseSampleRate)
    (uniform : ∀ b ∈ batches, b.Uniform) (small : first.isSome → ∀ b ∈ batches, b.length ≤ 2 ^ 46) :
    ∃ more next, transform batches current = .ok (more, next) ∧ more.Uniform ∧
      Streams first next (out ++ more) (taken ++ Batch.concat batches) := by
  cases first with
  | none =>
    obtain ⟨rfl, rfl⟩ := streams
    exact ⟨Batch.concat batches, none, rfl, Batch.Uniform.concat uniform, rfl, rfl⟩
  | some rs =>
    obtain ⟨r, rfl, target, base, carries, chans⟩ := streams
    have rate := rates rs rfl
    have each : ∀ b ∈ batches, b.Uniform ∧ Resampler.Fits r.target r.base b.length := fun b mem =>
      ⟨uniform b mem, target ▸ base ▸ fits_of_small rate (small rfl b mem)⟩
    obtain ⟨outs, next, run, next_target, next_base, carries_next, uniforms, joined⟩ :=
      Resampler.resampleEach_carries batches carries (by omega) (by omega) each
    refine ⟨Batch.concat outs, some next, ?_, Batch.Uniform.concat uniforms, next, rfl,
      next_target.trans target, next_base.trans base, carries_next, fun ch => ?_⟩
    · simp only [transform, run]
      rfl
    -- the reference's samples for what was taken, then those the new batches complete
    have more : Resampler.outputCount r.target r.base taken.length ≤
        Resampler.outputCount r.target r.base (taken ++ Batch.concat batches).length :=
      Resampler.outputCount_mono (by rw [Batch.length_append]; omega)
    have counted : Resampler.outputCount r.target r.base taken.length ≤
        Resampler.outputCount r.target r.base (taken.channel ch).size :=
      Nat.le_of_eq (by rw [carries.uniform ch])
    rw [Batch.channel_append, Array.toList_append, chans ch, Batch.channels_concat, joined ch,
      Batch.channel_append, ← target, ← base, List.range_eq_range', List.range_eq_range']
    have joined_refs := @Resampler.map_range'_reference _ _ (by omega) (by omega) _
      ((Batch.concat batches).channel ch) _ _ _ (Nat.zero_le _) more counted
    simpa only [Nat.sub_zero] using joined_refs

theorem reportDrops_eq (d : Driver ω) (dropped : UInt64) :
    ∃ overflows, d.reportDrops dropped = { d with outbox.overflows := overflows } := by
  unfold reportDrops
  split
  · exact ⟨_, rfl⟩
  · exact ⟨d.outbox.overflows, rfl⟩

theorem counts_handOut (m : Metrics) (ready : Option (Batch × Nat)) :
    (ready.elim m fun ready => m.delivered ready.1.length).batchesRead = m.batchesRead ∧
      (ready.elim m fun ready => m.delivered ready.1.length).batchesDropped = m.batchesDropped := by
  cases ready <;> exact ⟨rfl, rfl⟩

/-- Gathering a cycle's output changes the burst, hands out what the burst
gives out and counts that delivery; nothing else changes. -/
theorem gather_eq (d : Driver ω) (out : Batch) (dropped : Nat) :
    d.gather out dropped =
      { d with
        burst := (d.burst.push out dropped).2
        metrics := (d.burst.push out dropped).1.elim d.metrics fun ready => d.metrics.delivered ready.1.length
        outbox.deliveries := d.outbox.deliveries ++ (d.burst.push out dropped).1.toList.toArray } := by
  unfold gather
  split
  · rename_i batch k burst pushed
    rw [pushed]
    rfl
  · rename_i burst pushed
    rw [pushed]
    simp

namespace Conserves

variable {s d d' : Driver ω} {l : Ledger}

theorem congr (inv : Conserves s d l) (same : d'.samples = d.samples) (holds : d'.records.Holds l.queued) :
    Conserves s d' l := by
  simp only [samples, Prod.mk.injEq] at same
  obtain ⟨gathered, resampler, deliveries, read, dropped, session, registry, options⟩ := same
  refine ⟨inv.taken, holds, inv.kept, read ▸ inv.read, dropped ▸ inv.dropped, inv.uniform, inv.small,
    gathered ▸ inv.gathered, session ▸ inv.session, registry ▸ inv.registry, options ▸ inv.options, ?_⟩
  rw [deliveries, gathered, resampler]
  exact inv.delivered

/-- A session that begins with an empty queue and nothing gathered, and whose
resampler carries nothing, keeps the invariant with an empty ledger. -/
theorem init (idle : s.records.Holds []) (fresh : s.burst.gathered = Batch.empty)
    (carries : ∀ r ∈ s.resampler, r.Carries Batch.empty) (uniform : s.burst.gathered.Uniform) :
    Conserves s s {} := by
  refine ⟨List.prefix_refl _, idle, List.Sublist.refl _, rfl, rfl, (fun _ none => nomatch none),
    (fun _ _ none => nomatch none), uniform, rfl, rfl, rfl, [], by simp, ?_⟩
  rw [fresh]
  cases resampling : s.resampler with
  | none => exact ⟨rfl, Batch.append_empty _⟩
  | some r =>
    refine ⟨r, rfl, rfl, rfl, carries r resampling, fun ch => ?_⟩
    rw [Batch.append_empty]
    simp [Batch.concat, Batch.empty, Resampler.outputCount, Batch.length]

/-- The fetcher's hand-over of a batch read with samples keeps the invariant:
the batch is pushed when the queue has room and counted as dropped otherwise.
The queue's room for later pushes shrinks by at most the batch pushed. -/
theorem enqueue {b : Batch} (inv : Conserves s d l) (uniform : b.Uniform)
    (small : s.resampler.isSome → b.length ≤ 2 ^ 46) {m : Nat} (room : d.records.Aligned (l.queued.length + 1 + m)) :
    Conserves s ({ d with metrics := d.metrics.batchRead }.enqueue b)
        { l with read := l.read ++ [b], pushed := if (d.records.push b).1 then l.pushed ++ [b] else l.pushed } ∧
      ({ d with metrics := d.metrics.batchRead }.enqueue b).records.Aligned
        ({ l with read := l.read ++ [b], pushed := if (d.records.push b).1 then l.pushed ++ [b] else l.pushed }.queued.length + m) := by
  have within : l.popped.length ≤ l.pushed.length := inv.taken.length_le
  have read_more : ∀ x ∈ l.read ++ [b], x.Uniform ∧ (s.resampler.isSome → x.length ≤ 2 ^ 46) := by
    intro x mem
    rcases List.mem_append.1 mem with earlier | now
    · exact ⟨inv.uniform x earlier, fun resampling => inv.small resampling x earlier⟩
    · rw [List.mem_singleton.1 now]
      exact ⟨uniform, small⟩
  rcases Nat.lt_or_ge l.queued.length d.records.capacity with open_slot | full
  · -- the queue takes the batch
    obtain ⟨accepted, holds⟩ := Ring.push_holds inv.queued open_slot (room.mono (by omega)) b
    have pushed : d.records.push b = (true, (d.records.push b).2) := Prod.ext accepted rfl
    have queued : (l.pushed ++ [b]).drop l.popped.length = l.queued ++ [b] :=
      List.drop_append_of_le_length within
    dsimp only [Driver.enqueue]
    rw [pushed, if_pos rfl]
    refine ⟨⟨inv.taken.trans (List.prefix_append _ _), ?_, inv.kept.append (List.Sublist.refl _), ?_, ?_,
      fun x mem => (read_more x mem).1, fun resampling x mem => (read_more x mem).2 resampling, inv.gathered,
      inv.session, inv.registry, inv.options, inv.delivered⟩, ?_⟩
    · simpa only [Ledger.queued, queued] using holds
    · simp only [Metrics.batchRead, List.length_append, List.length_singleton, inv.read]
      omega
    · simp only [Metrics.batchRead, List.length_append, List.length_singleton]
      have := inv.dropped
      omega
    · simp only [Ledger.queued, queued, List.length_append, List.length_singleton]
      exact room.shift (Ring.push_capacity _ _) (by rw [Ring.push_head]; exact Nat.le_refl _)
  · -- the queue is full: the batch is dropped and counted
    have bounded := inv.queued.bounded
    have refused := Ring.push_full inv.queued (by omega) b
    dsimp only [Driver.enqueue]
    rw [refused, if_neg Bool.false_ne_true]
    refine ⟨⟨inv.taken, inv.queued, inv.kept.trans (List.sublist_append_left _ _), ?_, ?_,
      fun x mem => (read_more x mem).1, fun resampling x mem => (read_more x mem).2 resampling, inv.gathered,
      inv.session, inv.registry, inv.options, inv.delivered⟩, room.mono (by simp only [Ledger.queued]; omega)⟩
    · simp only [Metrics.batchDropped, Metrics.batchRead, List.length_append, List.length_singleton, inv.read]
      omega
    · simp only [Metrics.batchDropped, Metrics.batchRead, List.length_append, List.length_singleton]
      have := inv.dropped
      omega

/-- An iteration of the fetcher keeps the invariant: a failed or empty read
changes nothing the invariant looks at, and a read with samples is handed over. -/
theorem fetch (inv : Conserves s d l) (dev : Devices ω)
    (reads : s.resampler.isSome → ∀ n σ frames σ', (dev.sampler.readFrames n).run' σ = (.ok frames, σ') →
      frames.length ≤ 2 ^ 46)
    {m : Nat} (room : d.records.Aligned (l.queued.length + 1 + m)) :
    Conserves s (d.fetch dev) (l.fetched dev d) ∧
      (d.fetch dev).records.Aligned ((l.fetched dev d).queued.length + m) := by
  unfold Driver.fetch Ledger.fetched
  rcases got : (Reader.read dev.sampler).run' d.reader with ⟨_ | b, reader⟩
  · -- a failed read is only counted
    dsimp only
    exact ⟨inv.congr rfl inv.queued, room.mono (by omega)⟩
  dsimp only [takeRead]
  have moved : Conserves s { d with reader } l := inv.congr rfl inv.queued
  by_cases nothing : b.isEmpty
  · -- an empty read is skipped
    rw [if_pos nothing, if_pos nothing]
    have handed := dispatchEvents_eq { d with reader }
    exact ⟨moved.congr (by rw [handed]; rfl) (by rw [handed]; exact inv.queued),
      by rw [handed]; exact room.mono (by omega)⟩
  obtain ⟨frames, fetched, rfl⟩ := Reader.read_ok got
  rw [if_neg nothing, if_neg nothing]
  have small : s.resampler.isSome → (d.reader.calibration.batchOf frames).length ≤ 2 ^ 46 := by
    intro resampling
    rw [Calibration.batchOf_length]
    exact reads resampling _ _ _ _ (Prod.ext fetched rfl)
  obtain ⟨queued, room'⟩ := moved.enqueue (Calibration.batchOf_uniform _ _) small room
  have handed := dispatchEvents_eq ({ { d with reader } with metrics := d.metrics.batchRead }.enqueue
    (d.reader.calibration.batchOf frames))
  exact ⟨queued.congr (by rw [handed]; rfl) (by rw [handed]; exact queued.queued), by rw [handed]; exact room'⟩

/-- A cycle of the poller does not abort and keeps the invariant: it takes the
oldest queued batches, at most `popSize` of them, converts them and gathers what
they give into the burst. The queue's room for later pushes does not shrink. -/
theorem poll (inv : Conserves s d l)
    (rates : ∀ rs ∈ s.resampler, 1 ≤ rs.target ∧ rs.target ≤ rs.base ∧ rs.base = baseSampleRate)
    {m : Nat} (room : d.records.Aligned (l.queued.length + 1 + m)) :
    ∃ busy d', d.pollOnce = .ok (busy, d') ∧ Conserves s d' (l.polled d) ∧
      d'.records.Aligned ((l.polled d).queued.length + m) := by
  obtain ⟨count, moved, holds⟩ := Ring.popBatch_holds inv.queued (Array.replicate popSize default)
  have head := Ring.popBatch_head d.records (Array.replicate popSize default)
  have capacity := Ring.popBatch_capacity d.records (Array.replicate popSize default)
  unfold pollOnce Ledger.polled
  generalize d.records.popBatch (Array.replicate popSize default) = taking at count moved holds head capacity ⊢
  obtain ⟨n, dst, records⟩ := taking
  dsimp only at count moved holds head capacity ⊢
  rw [← count] at moved holds
  rw [inv.queued.count, ← count] at head
  obtain ⟨overflows, reported⟩ := reportDrops_eq { d with records, dropped := 0 } d.dropped
  rw [reported]
  -- the cycle takes the first `n` queued batches
  have within : n ≤ l.queued.length := by rw [count]; exact Nat.min_le_right _ _
  have taken_list : dst.toList.take n = l.queued.take n := by
    rw [moved]
    exact List.take_left' (by rw [List.length_take]; omega)
  obtain ⟨prefix_taken, queued_after⟩ := Ledger.take_queued l inv.taken n
  rw [taken_list]
  have room_after : records.Aligned ((l.queued.drop n).length + m) := by
    refine room.shift capacity ?_
    rw [head, Ring.toNat_add_offset, List.length_drop]
    have := Nat.mod_le (d.records.head.toNat + n) (2 ^ 64)
    omega
  by_cases zero : n = 0
  · -- nothing queued: at most the drops are reported
    subst zero
    rw [List.take_zero, List.append_nil]
    rw [List.drop_zero] at holds room_after
    split
    · exact ⟨false, _, rfl, inv.congr rfl holds, room_after⟩
    · exact ⟨true, _, rfl, inv.congr rfl holds, room_after⟩
  -- batches queued: they are converted and gathered into the burst
  have busy : (n == 0) = false := beq_false_of_ne zero
  simp only [busy, Bool.false_and, Bool.false_eq_true, ↓reduceIte]
  obtain ⟨new, deliveries, streams⟩ := inv.delivered
  have taken_read : ∀ b ∈ l.queued.take n, b ∈ l.read := fun b mem =>
    inv.kept.subset (List.mem_of_mem_drop (List.mem_of_mem_take mem))
  obtain ⟨more, next, transformed, uniform_more, streams_next⟩ := transform_streams streams rates
    (fun b mem => inv.uniform b (taken_read b mem)) (fun resampling b mem => inv.small resampling b (taken_read b mem))
  rw [transformed]
  refine ⟨true, _, rfl, ?_, ?_⟩
  · rw [gather_eq]
    obtain ⟨handed, gathered_more⟩ := Burst.push_conserves inv.gathered uniform_more d.dropped.toNat
    obtain ⟨same_read, same_dropped⟩ := counts_handOut d.metrics (d.burst.push more d.dropped.toNat).1
    refine ⟨prefix_taken, queued_after ▸ holds, inv.kept, same_read.trans inv.read,
      same_dropped ▸ inv.dropped, inv.uniform, inv.small, gathered_more, inv.session, inv.registry, inv.options,
      new ++ (d.burst.push more d.dropped.toNat).1.toList, ?_, ?_⟩
    · simp only [Array.toList_append, deliveries, List.append_assoc]
    · show Streams s.resampler next
        (Batch.concat ((new ++ (d.burst.push more d.dropped.toNat).1.toList).map Prod.fst) ++
          (d.burst.push more d.dropped.toNat).2.gathered) (Batch.concat (l.popped ++ l.queued.take n))
      rw [List.map_append, Batch.concat_append, Batch.append_assoc, handed, ← Batch.append_assoc,
        Batch.concat_append]
      exact streams_next
  · rw [gather_eq]
    exact queued_after ▸ room_after

/-- The poller's last act keeps the invariant; with the option to flush set,
nothing stays gathered. -/
theorem finish (inv : Conserves s d l) :
    Conserves s d.finishPoller l ∧ (d.options.flushOnStop = true → d.finishPoller.burst.gathered = Batch.empty) := by
  unfold finishPoller
  split
  · rename_i flushing
    obtain ⟨new, deliveries, streams⟩ := inv.delivered
    have conserved := Burst.flush_conserves inv.gathered
    split
    · -- a flush hands out what was gathered as one more delivery
      rename_i batch k burst flushed
      rw [flushed, Option.toList_some, List.map_cons, List.map_nil, Batch.concat_singleton] at conserved
      obtain ⟨handed, emptied⟩ := conserved
      refine ⟨⟨inv.taken, inv.queued, inv.kept, inv.read, inv.dropped, inv.uniform, inv.small,
        emptied ▸ Batch.uniform_empty, inv.session, inv.registry, inv.options, new ++ [(batch, k)], ?_, ?_⟩, fun _ => emptied⟩
      · simp only [deliver, Array.toList_push, deliveries, List.append_assoc]
      · show Streams s.resampler d.resampler (Batch.concat ((new ++ [(batch, k)]).map Prod.fst) ++ burst.gathered)
          (Batch.concat l.popped)
        rw [List.map_append, Batch.concat_append, List.map_cons, List.map_nil, Batch.concat_singleton,
          Batch.append_assoc, handed]
        exact streams
    · -- nothing was gathered
      rename_i burst flushed
      rw [flushed] at conserved
      obtain ⟨kept, emptied⟩ := conserved
      have same : burst.gathered = d.burst.gathered := (Batch.empty_append _).symm.trans kept
      refine ⟨⟨inv.taken, inv.queued, inv.kept, inv.read, inv.dropped, inv.uniform, inv.small,
        same ▸ inv.gathered, inv.session, inv.registry, inv.options, new, deliveries, ?_⟩, fun _ => emptied⟩
      show Streams s.resampler d.resampler (Batch.concat (new.map Prod.fst) ++ burst.gathered) (Batch.concat l.popped)
      rw [same]
      exact streams
  · rename_i kept
    exact ⟨inv, fun flushing => absurd flushing kept⟩

end Conserves

/-- Every interleaving of fetcher iterations and poller cycles runs to its end
without aborting and keeps the invariant, so long as the record queue's counters
have room for every task left. The induction is on the tasks; the room left is
what each step hands to the next. -/
theorem runTasks_conserves (dev : Devices ω) {s : Driver ω}
    (rates : ∀ rs ∈ s.resampler, 1 ≤ rs.target ∧ rs.target ≤ rs.base ∧ rs.base = baseSampleRate)
    (reads : s.resampler.isSome → ∀ n σ frames σ', (dev.sampler.readFrames n).run' σ = (.ok frames, σ') →
      frames.length ≤ 2 ^ 46)
    (tasks : List Task) {d : Driver ω} {l : Ledger} (inv : Conserves s d l)
    (room : d.records.Aligned (l.queued.length + tasks.length)) :
    ∃ d' l', runTasks dev tasks (d, l) = .ok (d', l') ∧ Conserves s d' l' := by
  induction tasks generalizing d l with
  | nil => exact ⟨d, l, rfl, inv⟩
  | cons task tasks ih =>
    have room_next : d.records.Aligned (l.queued.length + 1 + tasks.length) := by
      simpa only [List.length_cons, Nat.add_assoc, Nat.add_comm 1] using room
    cases task with
    | fetch =>
      obtain ⟨fetched, room_after⟩ := inv.fetch dev reads room_next
      exact ih fetched room_after
    | poll =>
      obtain ⟨busy, d', polled, inv', room_after⟩ := inv.poll rates room_next
      obtain ⟨d'', l', ran, inv''⟩ := ih inv' room_after
      refine ⟨d'', l', ?_, inv''⟩
      rw [runTasks, List.foldlM_cons, runTask_poll dev polled]
      exact ran

/-- A session conserves what it reads. Start a session on a driver whose record
queue is empty, run any interleaving of fetcher iterations and poller cycles,
and stop. Then no poller cycle aborts, and:
* every batch read with samples is pushed on the record queue or counted as
  dropped, once, in read order;
* the poller took a prefix of the pushed batches, each once, in order, and the
  stop drains the rest;
* the bursts handed to the data callback, joined channel by channel and
  followed by what stays gathered, are the batches taken, joined; with a
  resampler they are the reference resampling of them. With the option to flush
  set, nothing stays gathered.
The record queue's counters must not pass `2^64` in the run, and with a
resampler every read is at most `2^46` frames, the most a slice of frames holds. -/
theorem session_conserves_samples (dev : Devices ω) (d₀ d : Driver ω) (tasks : List Task)
    (idle : d₀.records.Holds [])
    (unwrapped : d₀.records.head.toNat + tasks.length ≤ 2 ^ 64)
    (rates : ∀ rs ∈ d₀.resampler, 1 ≤ rs.target ∧ rs.target ≤ rs.base ∧ rs.base = baseSampleRate)
    (reads : d₀.resampler.isSome → ∀ n σ frames σ', (dev.sampler.readFrames n).run' σ = (.ok frames, σ') →
      frames.length ≤ 2 ^ 46)
    (started : (start dev).run' d₀ = (.ok (), d)) :
    ∃ d' l e, runTasks dev tasks (d, {}) = .ok (d', l) ∧ ((stop dev).run' d').2 = e ∧
      l.pushed.Sublist l.read ∧
      e.metrics.batchesRead = d₀.metrics.batchesRead + l.read.length ∧
      e.metrics.batchesDropped + l.pushed.length = d₀.metrics.batchesDropped + l.read.length ∧
      l.popped ++ d'.records.toList = l.pushed ∧ d'.records.drain.1 = d'.records.toList.length ∧
      e.records.toList = [] ∧
      ∃ new, e.outbox.deliveries.toList = d₀.outbox.deliveries.toList ++ new ∧
        (d₀.options.flushOnStop = true → e.burst.gathered = Batch.empty) ∧
        ∀ ch : Fin 4, (Batch.concat (new.map Prod.fst) ++ e.burst.gathered).channel ch =
          match d₀.resampler with
          | none => (Batch.concat l.popped).channel ch
          | some rs => Resampler.reference rs.target rs.base ((Batch.concat l.popped).channel ch) := by
  obtain ⟨-, h, reader, registry, held, begun_at⟩ := start_ok started
  -- the session begins with the queue as it was, nothing gathered and the resampler reset
  have carries : ∀ r ∈ d₀.resampler.map Resampler.reset, r.Carries Batch.empty := by
    intro r fresh
    obtain ⟨rs, -, rfl⟩ := Option.map_eq_some_iff.1 fresh
    exact (Resampler.carries_fresh (.inr ⟨rs, rfl, rfl, rfl⟩)).1
  have rates_reset : ∀ rs ∈ d₀.resampler.map Resampler.reset,
      1 ≤ rs.target ∧ rs.target ≤ rs.base ∧ rs.base = baseSampleRate := by
    intro r fresh
    obtain ⟨rs, made, rfl⟩ := Option.map_eq_some_iff.1 fresh
    exact rates rs made
  have reads_reset : (d₀.resampler.map Resampler.reset).isSome → ∀ n σ frames σ',
      (dev.sampler.readFrames n).run' σ = (.ok frames, σ') → frames.length ≤ 2 ^ 46 := by
    rw [Option.isSome_map]
    exact reads
  have begun : Conserves d d {} := by
    rw [begun_at]
    exact Conserves.init idle rfl carries Batch.uniform_empty
  subst begun_at
  obtain ⟨d', l, ran, inv⟩ := runTasks_conserves dev rates_reset reads_reset tasks begun
    (.inr (by simpa [Ledger.queued] using unwrapped))
  -- the tasks keep the session, the registry and the options, so the Stop goes on
  have accepted : stopRefusal d' false = none :=
    stopRefusal_of_registered (inv.session.trans rfl) (by rw [inv.registry, inv.options]; exact held)
  obtain ⟨reader', registry', stopped⟩ := stop_state dev (inv.session.trans rfl) accepted
  obtain ⟨finished, flushed⟩ := inv.finish
  obtain ⟨drained, emptied⟩ := Ring.drain_holds finished.queued
  obtain ⟨new, deliveries, streams⟩ := finished.delivered
  refine ⟨d', l, _, ran, stopped, inv.kept, finished.read, finished.dropped, ?_,
    by rw [inv.queued.toList_eq]; exact (Ring.drain_holds inv.queued).1, emptied.toList_eq, new, deliveries,
    fun flushing => flushed (inv.options.trans rfl ▸ flushing), fun ch => ?_⟩
  · rw [inv.queued.toList_eq]
    exact List.prefix_iff_eq_append.1 inv.taken
  -- the stream equation read per channel; with a resampler it is the reference
  show (Batch.concat (new.map Prod.fst) ++ d'.finishPoller.burst.gathered).channel ch = _
  cases resampling : d₀.resampler with
  | none =>
    rw [resampling] at streams
    rw [streams.2]
  | some rs =>
    rw [resampling] at streams
    obtain ⟨r, -, -, -, carried, chans⟩ := streams
    apply Array.toList_inj.1
    dsimp only
    rw [chans ch, Resampler.reference, List.toList_toArray, carried.uniform ch]
    rfl

/-- A board whose sampler serves two frames of mid-scale readings per read and
which answers every request and raises no events. -/
def steadyDevices : Devices Unit where
  sampler :=
    { configure := fun _ => pure ()
      arm := pure ()
      disarm := pure ()
      readFrames := fun n => pure (List.replicate (min n 2) (Vector.replicate 4 32768)) }
  reply := fun _ _ => pure { payload := "" }
  readEvents := pure { events := [] }
  lock := pure ()
  unlock := pure ()

theorem halved_session_conserves_samples :
    let d₀ : Driver Unit := { Driver.new {} () with resampler := some { target := 24000, base := 48000 } }
    let d := ((start steadyDevices).run' d₀).2
    let tasks := [Task.fetch, .poll, .fetch]
    d₀.records.Holds [] ∧ d₀.records.head.toNat + tasks.length ≤ 2 ^ 64 ∧
    (∀ rs ∈ d₀.resampler, 1 ≤ rs.target ∧ rs.target ≤ rs.base ∧ rs.base = baseSampleRate) ∧
    (d₀.resampler.isSome → ∀ n σ frames σ', (steadyDevices.sampler.readFrames n).run' σ = (.ok frames, σ') →
      frames.length ≤ 2 ^ 46) ∧
    (start steadyDevices).run' d₀ = (.ok (), d) ∧
    ∃ d' l e, runTasks steadyDevices tasks (d, {}) = .ok (d', l) ∧ ((stop steadyDevices).run' d').2 = e ∧
      l.pushed.Sublist l.read ∧
      e.metrics.batchesRead = d₀.metrics.batchesRead + l.read.length ∧
      e.metrics.batchesDropped + l.pushed.length = d₀.metrics.batchesDropped + l.read.length ∧
      l.popped ++ d'.records.toList = l.pushed ∧ d'.records.drain.1 = d'.records.toList.length ∧
      e.records.toList = [] ∧
      ∃ new, e.outbox.deliveries.toList = d₀.outbox.deliveries.toList ++ new ∧
        (d₀.options.flushOnStop = true → e.burst.gathered = Batch.empty) ∧
        ∀ ch : Fin 4, (Batch.concat (new.map Prod.fst) ++ e.burst.gathered).channel ch =
          match d₀.resampler with
          | none => (Batch.concat l.popped).channel ch
          | some rs => Resampler.reference rs.target rs.base ((Batch.concat l.popped).channel ch) := by
  intro d₀ d tasks
  have idle : d₀.records.Holds [] := @Ring.new_holds Batch _ 3000 (by decide) (by decide)
  have unwrapped : d₀.records.head.toNat + tasks.length ≤ 2 ^ 64 := by decide
  have rates : ∀ rs ∈ d₀.resampler, 1 ≤ rs.target ∧ rs.target ≤ rs.base ∧ rs.base = baseSampleRate := by
    simp [d₀, baseSampleRate]
  have reads : d₀.resampler.isSome → ∀ n σ frames σ',
      (steadyDevices.sampler.readFrames n).run' σ = (.ok frames, σ') → frames.length ≤ 2 ^ 46 := by
    intro _ n σ frames σ' read
    simp only [steadyDevices, Op.run'_pure, Prod.mk.injEq, Except.ok.injEq] at read
    rw [← read.1, List.length_replicate]
    omega
  have started : (start steadyDevices).run' d₀ = (.ok (), d) := Prod.ext rfl rfl
  exact ⟨idle, unwrapped, rates, reads, started,
    session_conserves_samples steadyDevices d₀ d tasks idle unwrapped rates reads started⟩

end Driver

end Acquisition
