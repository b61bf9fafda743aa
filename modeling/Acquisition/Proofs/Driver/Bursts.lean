import Acquisition.Driver.Burst
import Acquisition.Proofs.Sample.Batches
/-! Bursts over any sequence of calls: what they hand out, then what is gathered, is every batch fed
in order, and each burst reports the drops since the previous one, saturated. -/
namespace Acquisition

namespace Burst

/-- Adding a batch to a burst loses and reorders nothing: what it hands out,
followed by what stays gathered, is what was gathered followed by the batch. -/
theorem push_conserves {b : Burst} {input : Batch} (gathered : b.gathered.Uniform) (uniform : input.Uniform)
    (dropped : Nat) :
    Batch.concat ((b.push input dropped).1.toList.map Prod.fst) ++ (b.push input dropped).2.gathered =
      b.gathered ++ input ∧ (b.push input dropped).2.gathered.Uniform := by
  -- the drops are counted first; the gathered samples are those of the counted burst
  dsimp only [push]
  generalize counted : b.countDropped dropped = c
  have same : c.gathered = b.gathered := counted ▸ rfl
  rw [← same] at gathered ⊢
  have joined : (if c.gathered.isEmpty then input else c.gathered.append input) = c.gathered ++ input := by
    split
    · rename_i none
      rw [Batch.eq_empty_of_isEmpty gathered none, Batch.empty_append]
    · rfl
  split
  · -- an empty batch changes nothing
    rename_i nothing
    rw [Batch.eq_empty_of_isEmpty uniform nothing, Batch.append_empty]
    exact ⟨Batch.empty_append _, gathered⟩
  split
  · -- nothing gathered and the batch is large enough: it goes out as it is
    rename_i nothing direct
    have none : c.gathered = Batch.empty :=
      Batch.eq_empty_of_isEmpty gathered ((Bool.and_eq_true_iff).1 direct).1
    rw [Option.toList_some, List.map_cons, List.map_nil, Batch.concat_singleton, none, Batch.append_empty,
      Batch.empty_append]
    exact ⟨rfl, Batch.uniform_empty⟩
  · -- the batch joins what is gathered, which goes out once it is large enough
    rw [joined]
    split
    · exact ⟨Batch.empty_append _, gathered.append uniform⟩
    · rw [Option.toList_some, List.map_cons, List.map_nil, Batch.concat_singleton, Batch.append_empty]
      exact ⟨rfl, Batch.uniform_empty⟩

theorem flush_conserves {b : Burst} (gathered : b.gathered.Uniform) :
    Batch.concat (b.flush.1.toList.map Prod.fst) ++ b.flush.2.gathered = b.gathered ∧
      b.flush.2.gathered = Batch.empty := by
  unfold flush
  split
  · rename_i none
    exact ⟨Batch.empty_append _, Batch.eq_empty_of_isEmpty gathered none⟩
  · rw [Option.toList_some, List.map_cons, List.map_nil, Batch.concat_singleton, Batch.append_empty]
    exact ⟨rfl, rfl⟩

/-- A call on a burst. -/
inductive Call where
  /-- A batch, with the batches dropped before it. -/
  | push (input : Batch) (dropped : Nat)
  /-- Dropped batches and no samples. -/
  | countDropped (dropped : Nat)
  /-- Hands out what is gathered. -/
  | flush

namespace Call

def input : Call → Batch
  | push input _ => input
  | countDropped _ | flush => Batch.empty

def drops : Call → Nat
  | push _ dropped | countDropped dropped => dropped
  | flush => 0

end Call

def apply (b : Burst) : Call → Option (Batch × Nat) × Burst
  | .push input dropped => b.push input dropped
  | .countDropped dropped => (none, b.countDropped dropped)
  | .flush => b.flush

def outputs (b : Burst) : List Call → List (Option (Batch × Nat))
  | [] => []
  | c :: cs => (b.apply c).1 :: outputs (b.apply c).2 cs

def after (b : Burst) (calls : List Call) : Burst := calls.foldl (fun b c => (b.apply c).2) b

/-- The drop counts the bursts handed out report, from each call's drops and
whether it handed out a burst: the drops passed since the previous burst, with
`owed` before the first, saturated at the ceiling. -/
def reports (owed : Nat) : List (Nat × Bool) → List Nat
  | [] => []
  | (dropped, true) :: rest => min (owed + dropped) dropCeiling :: reports 0 rest
  | (dropped, false) :: rest => reports (owed + dropped) rest

/-- What a burst gathers between calls: four channels of one length, and
nothing or fewer samples than the size. -/
structure Sound (b : Burst) : Prop where
  uniform : b.gathered.Uniform
  short : b.gathered = Batch.empty ∨ b.gathered.length < b.size

@[simp] theorem countDropped_gathered (b : Burst) (n : Nat) : (b.countDropped n).gathered = b.gathered := rfl

@[simp] theorem countDropped_size (b : Burst) (n : Nat) : (b.countDropped n).size = b.size := rfl

theorem apply_size (b : Burst) (c : Call) : (b.apply c).2.size = b.size := by
  cases c with
  | push input dropped =>
    simp only [apply, push]
    split_ifs <;> rfl
  | countDropped dropped => rfl
  | flush =>
    simp only [apply, flush]
    split_ifs <;> rfl

theorem apply_conserves {b : Burst} {c : Call} (gathered : b.gathered.Uniform) (uniform : c.input.Uniform) :
    Batch.concat ((b.apply c).1.toList.map Prod.fst) ++ (b.apply c).2.gathered = b.gathered ++ c.input ∧
      (b.apply c).2.gathered.Uniform := by
  cases c with
  | push input dropped => exact push_conserves gathered uniform dropped
  | countDropped dropped =>
    refine ⟨?_, gathered⟩
    simp only [apply, Option.toList_none, List.map_nil, countDropped_gathered, Call.input]
    rw [Batch.append_empty]
    exact Batch.empty_append _
  | flush =>
    obtain ⟨handed, emptied⟩ := flush_conserves gathered
    refine ⟨?_, ?_⟩
    · simp only [apply, Call.input, Batch.append_empty]
      exact handed
    · simp only [apply, emptied]
      exact Batch.uniform_empty

theorem length_pos {b : Batch} (nonempty : ¬b.isEmpty = true) : 0 < b.length := by
  simp only [Batch.isEmpty, beq_iff_eq] at nonempty
  omega

/-- A burst that a batch completes has at least `size` samples, and a burst
handed out is never empty. -/
theorem apply_handsOut_large {b : Burst} {c : Call} {out : Batch × Nat} (handed : (b.apply c).1 = some out) :
    0 < out.1.length ∧ (c ≠ .flush → b.size ≤ out.1.length) := by
  cases c with
  | push input dropped =>
    simp only [apply, push] at handed
    split_ifs at handed with nothing direct alone small small <;> cases handed
    · -- nothing gathered and the batch alone reaches the size
      have large := of_decide_eq_true ((Bool.and_eq_true_iff).1 direct).2
      exact ⟨length_pos nothing, fun _ => large⟩
    · exact ⟨length_pos nothing, fun _ => Nat.le_of_not_lt small⟩
    · -- the batch joined what was gathered
      have joined : ((b.countDropped dropped).gathered.append input).length =
          (b.countDropped dropped).gathered.length + input.length := Batch.length_append _ _
      have positive := length_pos nothing
      refine ⟨?_, fun _ => Nat.le_of_not_lt small⟩
      dsimp only
      omega
  | countDropped dropped => cases handed
  | flush =>
    simp only [apply, flush] at handed
    split_ifs at handed with nothing
    cases handed
    exact ⟨length_pos nothing, fun not_flush => absurd rfl not_flush⟩

theorem apply_short {b : Burst} {c : Call} (short : b.gathered = Batch.empty ∨ b.gathered.length < b.size) :
    (b.apply c).2.gathered = Batch.empty ∨ (b.apply c).2.gathered.length < (b.apply c).2.size := by
  rw [apply_size]
  cases c with
  | push input dropped =>
    simp only [apply, push]
    split_ifs with nothing direct alone small small
    · exact short
    · exact short
    · exact .inr small
    · exact .inl rfl
    · exact .inr small
    · exact .inl rfl
  | countDropped dropped => exact short
  | flush =>
    simp only [apply, flush]
    split_ifs
    · exact short
    · exact .inl rfl

theorem Sound.apply {b : Burst} (sound : b.Sound) {c : Call} (uniform : c.input.Uniform) : (b.apply c).2.Sound :=
  ⟨(apply_conserves sound.uniform uniform).2, apply_short sound.short⟩

theorem min_saturate (owed n : Nat) : min (min owed dropCeiling + n) dropCeiling = min (owed + n) dropCeiling := by
  omega

/-- A call that hands out a burst reports the drops owed with its own, and
starts the count afresh; any other call adds its drops to the count. -/
theorem apply_dropped {b : Burst} {owed : Nat} (owes : b.dropped = min owed dropCeiling) (c : Call) :
    (∀ out ∈ (b.apply c).1, out.2 = min (owed + c.drops) dropCeiling ∧ (b.apply c).2.dropped = 0) ∧
      ((b.apply c).1 = none → (b.apply c).2.dropped = min (owed + c.drops) dropCeiling) := by
  have counted : (b.countDropped c.drops).dropped = min (owed + c.drops) dropCeiling := by
    simp only [countDropped, owes, min_saturate]
  cases c with
  | push input dropped =>
    simp only [Call.drops] at counted ⊢
    simp only [apply, push]
    split_ifs <;> simpa using counted
  | countDropped dropped =>
    simp only [Call.drops] at counted ⊢
    simpa [apply] using counted
  | flush =>
    simp only [apply, flush, Call.drops, Nat.add_zero]
    split_ifs <;> simpa using owes

@[simp] theorem outputs_nil (b : Burst) : b.outputs [] = [] := rfl

@[simp] theorem outputs_cons (b : Burst) (c : Call) (cs : List Call) :
    b.outputs (c :: cs) = (b.apply c).1 :: (b.apply c).2.outputs cs := rfl

@[simp] theorem after_nil (b : Burst) : b.after [] = b := rfl

@[simp] theorem after_cons (b : Burst) (c : Call) (cs : List Call) :
    b.after (c :: cs) = (b.apply c).2.after cs := rfl

theorem after_size (b : Burst) (calls : List Call) : (b.after calls).size = b.size := by
  induction calls generalizing b with
  | nil => rfl
  | cons c cs ih => rw [after_cons, ih, apply_size]

theorem reduceOption_cons {α : Type} (o : Option α) (os : List (Option α)) :
    (o :: os).reduceOption = o.toList ++ os.reduceOption := by
  cases o <;> simp [List.reduceOption_cons_of_some, List.reduceOption_cons_of_none]

theorem Sound.after {b : Burst} (sound : b.Sound) {calls : List Call} (uniform : ∀ c ∈ calls, c.input.Uniform) :
    (b.after calls).Sound := by
  induction calls generalizing b with
  | nil => exact sound
  | cons c cs ih =>
    exact ih (sound.apply (uniform c List.mem_cons_self)) fun c' mem => uniform c' (List.mem_cons_of_mem c mem)

/-- The bursts handed out, followed by what is gathered, are what was gathered
followed by every batch fed. -/
theorem outputs_conserve {b : Burst} (gathered : b.gathered.Uniform) {calls : List Call}
    (uniform : ∀ c ∈ calls, c.input.Uniform) :
    Batch.concat ((b.outputs calls).reduceOption.map Prod.fst) ++ (b.after calls).gathered =
      b.gathered ++ Batch.concat (calls.map Call.input) := by
  induction calls generalizing b with
  | nil => simp [Batch.concat, Batch.empty_append, Batch.append_empty]
  | cons c cs ih =>
    obtain ⟨handed, gathered'⟩ := apply_conserves gathered (uniform c List.mem_cons_self)
    have rest := ih gathered' fun c' mem => uniform c' (List.mem_cons_of_mem c mem)
    calc Batch.concat ((b.outputs (c :: cs)).reduceOption.map Prod.fst) ++ (b.after (c :: cs)).gathered
        = Batch.concat ((b.apply c).1.toList.map Prod.fst) ++
            (Batch.concat (((b.apply c).2.outputs cs).reduceOption.map Prod.fst) ++
              ((b.apply c).2.after cs).gathered) := by
          rw [outputs_cons, after_cons, reduceOption_cons, List.map_append, Batch.concat_append,
            Batch.append_assoc]
      _ = Batch.concat ((b.apply c).1.toList.map Prod.fst) ++ (b.apply c).2.gathered ++
            Batch.concat (cs.map Call.input) := by
          rw [rest, Batch.append_assoc]
      _ = b.gathered ++ Batch.concat ((c :: cs).map Call.input) := by
          rw [handed, List.map_cons, Batch.append_concat_cons]

/-- Every burst handed out has samples, and one that a batch completes has at
least `size` of them. -/
theorem outputs_large (b : Burst) (calls : List Call) :
    ∀ p ∈ calls.zip (b.outputs calls), ∀ out ∈ p.2, 0 < out.1.length ∧ (p.1 ≠ .flush → b.size ≤ out.1.length) := by
  induction calls generalizing b with
  | nil => simp
  | cons c cs ih =>
    rintro p (first | ⟨_, later⟩) out handed
    · exact apply_handsOut_large handed
    · rw [← apply_size b c]
      exact ih (b.apply c).2 p later out handed

theorem outputs_report {b : Burst} {owed : Nat} (owes : b.dropped = min owed dropCeiling) (calls : List Call) :
    (b.outputs calls).reduceOption.map Prod.snd =
      reports owed ((calls.map Call.drops).zip ((b.outputs calls).map Option.isSome)) := by
  induction calls generalizing b owed with
  | nil => rfl
  | cons c cs ih =>
    obtain ⟨reported, carried⟩ := apply_dropped owes c
    rw [outputs_cons, reduceOption_cons, List.map_append, List.map_cons, List.map_cons, List.zip_cons_cons]
    cases handed : (b.apply c).1 with
    | none =>
      rw [Option.toList_none, List.map_nil, List.nil_append, Option.isSome_none, reports]
      exact ih (carried handed)
    | some out =>
      obtain ⟨count, restarted⟩ := reported out (by rw [handed]; rfl)
      rw [Option.toList_some, List.map_cons, List.map_nil, List.singleton_append, Option.isSome_some, reports, count]
      exact congrArg _ (ih (show _ = min 0 dropCeiling by simpa using restarted))

/-- Any sequence of calls on a fresh burst of size `size`, each batch with four
channels of one length: the bursts handed out, followed by what is still
gathered, are all the batches fed, in order; a burst handed out is never empty,
and one that a batch completes has at least `size` samples; what is gathered
is nothing or short of `size`; and each burst reports the drops passed since
the previous one, saturated at `2^64 - 1`. -/
theorem burst_calls_conserve_samples_and_drops (size : Nat) (calls : List Call)
    (uniform : ∀ c ∈ calls, c.input.Uniform) :
    Batch.concat ((({ size } : Burst).outputs calls).reduceOption.map Prod.fst) ++
        (({ size } : Burst).after calls).gathered = Batch.concat (calls.map Call.input) ∧
      (∀ p ∈ calls.zip (({ size } : Burst).outputs calls), ∀ out ∈ p.2,
        0 < out.1.length ∧ (p.1 ≠ .flush → size ≤ out.1.length)) ∧
      ((({ size } : Burst).after calls).gathered = Batch.empty ∨
        (({ size } : Burst).after calls).gathered.length < size) ∧
      (({ size } : Burst).outputs calls).reduceOption.map Prod.snd =
        reports 0 ((calls.map Call.drops).zip ((({ size } : Burst).outputs calls).map Option.isSome)) := by
  have fresh : ({ size } : Burst).Sound := ⟨Batch.uniform_empty, .inl rfl⟩
  have last := fresh.after uniform
  refine ⟨?_, outputs_large _ calls, ?_, @outputs_report _ 0 rfl calls⟩
  · rw [outputs_conserve Batch.uniform_empty uniform]
    exact Batch.empty_append _
  · have short := last.short
    rwa [after_size] at short

/-- One sample per channel with a drop before it, drops alone, a sample with
none, a sample with five, and a flush. -/
def Call.sampleRun : List Call :=
  let one : Batch := .ofChannels [#[1], #[2], #[3], #[4]]
  [.push one 1, .countDropped 2, .push one 0, .push one 5, .flush]

/-- On a burst of two, the first two samples go out together with the three
drops before them, and the flush hands out the third with the five after. -/
theorem burst_of_two_conserves_samples_and_drops :
    (∀ c ∈ Call.sampleRun, c.input.Uniform) ∧
      Batch.concat ((({ size := 2 } : Burst).outputs Call.sampleRun).reduceOption.map Prod.fst) ++
          (({ size := 2 } : Burst).after Call.sampleRun).gathered = Batch.concat (Call.sampleRun.map Call.input) ∧
        (∀ p ∈ Call.sampleRun.zip (({ size := 2 } : Burst).outputs Call.sampleRun), ∀ out ∈ p.2,
          0 < out.1.length ∧ (p.1 ≠ .flush → 2 ≤ out.1.length)) ∧
        ((({ size := 2 } : Burst).after Call.sampleRun).gathered = Batch.empty ∨
          (({ size := 2 } : Burst).after Call.sampleRun).gathered.length < 2) ∧
        (({ size := 2 } : Burst).outputs Call.sampleRun).reduceOption.map Prod.snd =
          reports 0 ((Call.sampleRun.map Call.drops).zip
            ((({ size := 2 } : Burst).outputs Call.sampleRun).map Option.isSome)) :=
  ⟨by decide, burst_calls_conserve_samples_and_drops 2 _ (by decide)⟩

example : (({ size := 2 } : Burst).outputs Call.sampleRun).reduceOption.map Prod.snd = [3, 5] := by decide +kernel

end Burst

end Acquisition
