import Acquisition.Proofs.Sample.Reference
/-! Bounds of the resampler's arithmetic: from `new` with rates below `2^31`, on batches below
`2^31` samples, the position stays `Bounded` and every word a call computes is the integer it stands
for. -/
namespace Acquisition

namespace Resampler

/-- The states a resampler reaches from `new` with both rates in
`1 .. 2^31 - 1`, by resets and by calls on batches whose channels have one
length below `2^31`. -/
inductive Reachable : Resampler → Prop
  | new {target base : Int} {r : Resampler} (rate : 1 ≤ target ∧ target < 2 ^ 31)
      (step : 1 ≤ base ∧ base < 2 ^ 31) (made : Resampler.new target base = .ok r) : Reachable r
  | reset {r : Resampler} : Reachable r → Reachable r.reset
  | resample {r r' : Resampler} {input out : Batch} : Reachable r → input.Uniform →
      input.length < 2 ^ 31 → r.resample input = .ok (out, r') → Reachable r'

/-- What holds between calls: the rates, and the position of the next output
sample less than one input sample back and at most `base - target` ahead,
back only once a batch has set the carried samples. -/
structure Bounded (r : Resampler) : Prop where
  rate : 0 < r.target ∧ r.target < 2 ^ 31
  step : 0 < r.base ∧ r.base < 2 ^ 31
  above : -(r.target : Int) < r.position.toInt
  below : r.position.toInt ≤ max 0 ((r.base : Int) - r.target)
  primed : r.position.toInt < 0 → r.primed = true

/-- What the output sample at position `p` reads of a batch of `n` samples: its
index, `p` over the target rounded down, is `-1`, the sample carried from the
previous batch, only once a batch has set it, and is otherwise within the
batch; where the remainder is not zero the next index is within the batch too. -/
def Reads (r : Resampler) (n : Nat) (p : Int64) : Prop :=
  let idx := p.toInt / r.target
  (idx = -1 ∧ r.primed = true ∨ 0 ≤ idx ∧ idx ≤ n - 1) ∧ (p.toInt - idx * r.target ≠ 0 → idx + 1 ≤ n - 1)

/-! The words a call on `n` input samples computes, as it computes them. -/

def limitWord (r : Resampler) (n : Nat) : Int64 := (Int64.ofNat n - 1) * Int64.ofNat r.target

def estimateWord (r : Resampler) (n : Nat) : Int64 := (r.limitWord n - r.position) / Int64.ofNat r.base + 1

def positionWords (r : Resampler) (n : Nat) : List Int64 × Int64 :=
  positionsUpTo (Int64.ofNat r.base) (r.limitWord n) 3 r.position

/-- How many output positions lie from the carried one, `base` apart, up to
that of the last of `n` input samples. -/
def positionCount (r : Resampler) (n : Nat) : Nat :=
  ((((n : Int) - 1) * r.target - r.position.toInt) / r.base + 1).toNat

/-! ### Starting afresh -/

theorem Bounded.of_new {target base : Int} {r : Resampler} (rate : 1 ≤ target ∧ target < 2 ^ 31)
    (step : 1 ≤ base ∧ base < 2 ^ 31) (made : Resampler.new target base = .ok r) : r.Bounded := by
  unfold Resampler.new at made
  rw [if_neg (by simp only [Bool.or_eq_true, decide_eq_true_eq]; omega)] at made
  cases made
  refine ⟨?_, ?_, ?_, by simp, by simp⟩ <;> simp only [Int64.toInt_zero] <;> omega

theorem Bounded.reset {r : Resampler} (bounded : r.Bounded) : r.reset.Bounded := by
  have positive := bounded.rate.1
  exact ⟨bounded.rate, bounded.step, by simp only [Resampler.reset, Int64.toInt_zero]; omega,
    by simp [Resampler.reset], by simp [Resampler.reset]⟩

/-! ### The words of one call -/

/-- Floor division by a positive `t` of a value in `(-t, m t]`: the quotient
is in `[-1, m]`, below `m` when the remainder is not zero, and `-1` only for a
negative value. -/
theorem ediv_within {p t m : Int} (positive : 0 < t) (lo : -t < p) (hi : p ≤ m * t) :
    -1 ≤ p / t ∧ p / t ≤ m ∧ (p - p / t * t ≠ 0 → p / t + 1 ≤ m) ∧ (p / t = -1 → p < 0) := by
  have below := Int.ediv_mul_le p (Int.ne_of_gt positive)
  have upper := Int.ediv_le_of_le_mul positive hi
  refine ⟨(Int.le_ediv_iff_mul_le positive).2 (by omega), upper, fun inexact => ?_, fun back => ?_⟩
  · rcases Int.lt_or_eq_of_le upper with lower | top
    · omega
    · -- at the top index the position is the last sample's, with no remainder
      rw [top] at below inexact
      omega
  · have := (Int.ediv_lt_iff_lt_mul positive).1 (show p / t < 0 by omega)
    omega

section Words

variable {r : Resampler} {n : Nat}

theorem Bounded.product_lt (bounded : r.Bounded) (short : n < 2 ^ 31) : n * r.target < 2 ^ 62 :=
  calc n * r.target < 2 ^ 31 * 2 ^ 31 := Nat.mul_lt_mul'' short bounded.rate.2
    _ = 2 ^ 62 := by norm_num

theorem Bounded.last_within (bounded : r.Bounded) (nonempty : 0 < n) (short : n < 2 ^ 31) :
    0 ≤ ((n : Int) - 1) * r.target ∧ ((n : Int) - 1) * r.target + r.target = n * r.target ∧
      (n : Int) * r.target < 2 ^ 62 :=
  ⟨Int.mul_nonneg (by omega) (by omega), by ring, by exact_mod_cast bounded.product_lt short⟩

theorem Bounded.toInt_base (bounded : r.Bounded) : (Int64.ofNat r.base).toInt = r.base :=
  Int64.toInt_ofNat_of_lt (by have := bounded.step.2; omega)

theorem Bounded.toInt_limitWord (bounded : r.Bounded) (nonempty : 0 < n) (short : n < 2 ^ 31) :
    (r.limitWord n).toInt = ((n : Int) - 1) * r.target := by
  have product := bounded.product_lt short
  rw [limitWord, toInt_limit bounded.rate.1 nonempty (by omega), Nat.cast_mul, Nat.cast_sub nonempty]
  rfl

/-- The output positions of a call are the carried one and those `base` on
from it up to the last input sample, each word the integer it stands for; the
position after them is past the last input sample by at most `base`. -/
theorem Bounded.positionWords_eq (bounded : r.Bounded) (nonempty : 0 < n) (short : n < 2 ^ 31) :
    ∃ after : Int64,
      r.positionWords n =
        ((List.range (r.positionCount n)).map (fun k => r.position + Int64.ofNat k * Int64.ofNat r.base), after) ∧
      (∀ k < r.positionCount n,
        (r.position + Int64.ofNat k * Int64.ofNat r.base).toInt = r.position.toInt + k * r.base) ∧
      after.toInt = r.position.toInt + r.positionCount n * r.base ∧
      ((n : Int) - 1) * r.target < after.toInt ∧ after.toInt ≤ ((n : Int) - 1) * r.target + r.base := by
  have limit := bounded.toInt_limitWord nonempty short
  have rate := bounded.toInt_base
  obtain ⟨last, wide, product⟩ := bounded.last_within nonempty short
  have step := bounded.step
  have target := bounded.rate
  have above := bounded.above
  have below := bounded.below
  have positive : 0 < (Int64.ofNat r.base).toInt := by rw [rate]; omega
  have fits : (r.limitWord n).toInt + (Int64.ofNat r.base).toInt < 2 ^ 63 := by rw [limit, rate]; omega
  have span : (r.limitWord n).toInt - r.position.toInt + (Int64.ofNat r.base).toInt < 2 ^ 63 := by
    rw [limit, rate]; omega
  have count : (((r.limitWord n).toInt - r.position.toInt) / (Int64.ofNat r.base).toInt + 1).toNat =
      r.positionCount n := by
    rw [limit, rate]
    rfl
  by_cases reached : r.position.toInt ≤ (r.limitWord n).toInt
  · -- the carried position is a position of this batch: one round gives them all
    have whole := positionsUpTo_of_le 2 positive fits reached
    have least := Int.ediv_nonneg (by omega : 0 ≤ (r.limitWord n).toInt - r.position.toInt) (Int.le_of_lt positive)
    have lower := Int.ediv_mul_le ((r.limitWord n).toInt - r.position.toInt) (Int.ne_of_gt positive)
    have upper := Int.lt_ediv_add_one_mul_self ((r.limitWord n).toInt - r.position.toInt) positive
    have counted : (r.positionCount n : Int) =
        ((r.limitWord n).toInt - r.position.toInt) / (Int64.ofNat r.base).toInt + 1 := by
      rw [← count, Int.toNat_of_nonneg (by omega)]
    refine ⟨_, by rw [positionWords, whole, count], fun k within => ?_, ?_, ?_⟩
    · rw [toInt_position positive span (by rw [count]; exact within), rate]
    · rw [toInt_after positive fits span reached, ← counted, rate]
    · -- the position after is one step past the last one at most the limit
      rw [toInt_after positive fits span reached, Int.add_mul, Int.one_mul]
      rw [Int.add_mul, Int.one_mul] at upper
      rw [limit, rate] at lower upper ⊢
      omega
  · -- the carried position is past this batch: no position, and it stays
    have short_of : (r.limitWord n).toInt - r.position.toInt < 0 := by omega
    have back := Int.ediv_neg_of_neg_of_pos short_of positive
    have none : r.positionCount n = 0 := by
      rw [← count]
      omega
    refine ⟨r.position, by rw [positionWords, positionsUpTo_of_lt 2 (by omega), none]; rfl,
      fun k within => by omega, by rw [none]; simp, ?_, ?_⟩
    · rw [limit] at reached
      omega
    · omega

theorem Bounded.reads (bounded : r.Bounded) (nonempty : 0 < n) (short : n < 2 ^ 31) {k : Nat}
    (within : k < r.positionCount n) : r.Reads n (r.position + Int64.ofNat k * Int64.ofNat r.base) := by
  obtain ⟨-, -, exact, -, -⟩ := bounded.positionWords_eq nonempty short
  have target := bounded.rate
  have step := bounded.step
  -- the position is at most that of the last input sample
  have reach : (k : Int) ≤ (((n : Int) - 1) * r.target - r.position.toInt) / r.base := by
    unfold positionCount at within
    omega
  have upto := (Int.le_ediv_iff_mul_le (by omega : (0 : Int) < r.base)).1 reach
  have ahead : 0 ≤ (k : Int) * r.base := Int.mul_nonneg (by omega) (by omega)
  obtain ⟨least, most, next, back⟩ := ediv_within (show (0 : Int) < r.target by omega)
    (show -(r.target : Int) < r.position.toInt + k * r.base by have := bounded.above; omega)
    (show r.position.toInt + k * r.base ≤ ((n : Int) - 1) * r.target by omega)
  simp only [Reads, exact k within]
  refine ⟨?_, next⟩
  by_cases carried : (r.position.toInt + k * r.base) / r.target = -1
  · -- index `-1` only for a negative position, so only from a negative carried one
    exact .inl ⟨carried, bounded.primed (by have := back carried; omega)⟩
  · exact .inr ⟨by omega, most⟩

/-- The room a call reserves is the integer count, with the division rounded
towards zero as the word division does. -/
theorem Bounded.toInt_estimateWord (bounded : r.Bounded) (nonempty : 0 < n) (short : n < 2 ^ 31) :
    (r.estimateWord n).toInt = (((n : Int) - 1) * r.target - r.position.toInt).tdiv r.base + 1 := by
  have limit := bounded.toInt_limitWord nonempty short
  obtain ⟨last, wide, product⟩ := bounded.last_within nonempty short
  have target := bounded.rate
  have step := bounded.step
  have above := bounded.above
  have below := bounded.below
  have gap : (r.limitWord n - r.position).toInt = ((n : Int) - 1) * r.target - r.position.toInt := by
    rw [toInt_sub_exact] <;> rw [limit] <;> omega
  have quotient := tdiv_range (show (0 : Int) < r.base by omega) (show (0 : Int) < 2 ^ 62 by norm_num)
    (show -(r.base : Int) ≤ ((n : Int) - 1) * r.target - r.position.toInt by omega)
    (show ((n : Int) - 1) * r.target - r.position.toInt < 2 ^ 62 * r.base by omega)
  -- the word division rounds as `tdiv` does unless the dividend is the least word
  have least : r.limitWord n - r.position ≠ Int64.minValue := by
    intro same
    have := congrArg Int64.toInt same
    rw [gap, Int64.toInt_minValue] at this
    omega
  have divided : ((r.limitWord n - r.position) / Int64.ofNat r.base).toInt =
      (((n : Int) - 1) * r.target - r.position.toInt).tdiv r.base := by
    rw [Int64.toInt_div_of_ne_left _ _ least, gap, bounded.toInt_base]
  have one : (1 : Int64).toInt = 1 := rfl
  rw [estimateWord, toInt_add_exact] <;> rw [divided, one] <;> omega

end Words

/-! ### Reading the input -/

theorem mapM_ok_of_forall {α β ε : Type} {f : α → Except ε β} :
    ∀ xs : List α, (∀ x ∈ xs, ∃ y, f x = .ok y) → ∃ ys, xs.mapM f = .ok ys
  | [], _ => ⟨[], rfl⟩
  | x :: xs, each => by
    obtain ⟨y, first⟩ := each x List.mem_cons_self
    obtain ⟨ys, rest⟩ := mapM_ok_of_forall xs fun z mem => each z (List.mem_cons_of_mem x mem)
    exact ⟨y :: ys, by rw [List.mapM_cons, first, rest]; rfl⟩

theorem elementAt_ok {x : Array Float32} {i : Int} (lo : 0 ≤ i) (hi : i < x.size) : ∃ v, elementAt x i = .ok v :=
  ⟨_, dif_pos ⟨lo, by omega⟩⟩

theorem sampleAt_ok {r : Resampler} {x : Array Float32} {ch : Fin 4} {idx rem : Int} {frac : Float32}
    (first : idx = -1 ∧ r.primed = true ∨ 0 ≤ idx ∧ idx < x.size)
    (second : rem ≠ 0 → 0 ≤ idx + 1 ∧ idx + 1 < x.size) : ∃ v, r.sampleAt x ch idx rem frac = .ok v := by
  unfold sampleAt
  by_cases exact : rem = 0
  · rcases first with ⟨rfl, primed⟩ | ⟨lo, hi⟩
    · simp [primed, exact, pure, Except.pure, bind, Except.bind]
    · obtain ⟨y, got⟩ := elementAt_ok lo hi
      simp [show ¬idx < 0 by omega, got, exact, pure, Except.pure, bind, Except.bind]
  · -- an inexact position reads the next sample too
    obtain ⟨z, next⟩ := elementAt_ok (second exact).1 (second exact).2
    rcases first with ⟨rfl, primed⟩ | ⟨lo, hi⟩
    · rw [show (-1 : Int) + 1 = 0 by rfl] at next
      simp [primed, exact, next, pure, Except.pure, bind, Except.bind]
    · obtain ⟨y, got⟩ := elementAt_ok lo hi
      simp [show ¬idx < 0 by omega, got, exact, next, pure, Except.pure, bind, Except.bind]

theorem frameAt_ok {r : Resampler} {input : Batch} (uniform : input.Uniform) {p : Int64}
    (reads : r.Reads input.length p) : ∃ frame, r.frameAt input p = .ok frame := by
  obtain ⟨first, second⟩ := reads
  unfold frameAt
  refine mapM_ok_of_forall _ fun ch _ => sampleAt_ok ?_ ?_
  · rw [Batch.channels_get, uniform ch]
    rcases first with carried | ⟨lo, hi⟩
    · exact .inl carried
    · exact .inr ⟨lo, by omega⟩
  · intro inexact
    rw [Batch.channels_get, uniform ch]
    have := second inexact
    rcases first with ⟨back, -⟩ | ⟨lo, -⟩ <;> omega

/-! ### One call -/

section Call

variable {r : Resampler} {input : Batch}

theorem resample_of_empty (empty : input.length = 0) : r.resample input = .ok (Batch.empty, r) := by
  unfold resample
  simp [empty]
  rfl

/-- A call on a batch of fewer than `2^31` samples from a bounded state refuses
exactly when the room it would reserve is out of range, and otherwise gives
the frames and carries on from the position after the last, `n` samples
back. -/
theorem Bounded.resample_cases (bounded : r.Bounded) (uniform : input.Uniform) (nonempty : 0 < input.length)
    (short : input.length < 2 ^ 31) :
    (maxReserve < (r.estimateWord input.length).toInt ∧
        r.resample input = .error (.refused "runtime error: makeslice: cap out of range")) ∨
      ((r.estimateWord input.length).toInt ≤ maxReserve ∧ ∃ out last,
        r.resample input = .ok (out, { r with
          position := (r.positionWords input.length).2 - Int64.ofNat input.length * Int64.ofNat r.target,
          last, primed := true })) := by
  obtain ⟨after, positions, -, -, -⟩ := bounded.positionWords_eq nonempty short
  obtain ⟨frames, computed⟩ : ∃ frames,
      ((r.positionWords input.length).1).mapM (r.frameAt input) = .ok frames := by
    refine mapM_ok_of_forall _ fun p mem => ?_
    rw [positions] at mem
    obtain ⟨k, within, rfl⟩ := List.mem_map.1 mem
    exact frameAt_ok uniform (bounded.reads nonempty short (List.mem_range.1 within))
  -- the words of the call, named
  have limit : (Int64.ofNat input.length - 1) * Int64.ofNat r.target = r.limitWord input.length := rfl
  have estimate : (r.limitWord input.length - r.position) / Int64.ofNat r.base + 1 =
      r.estimateWord input.length := rfl
  have placed : positionsUpTo (Int64.ofNat r.base) (r.limitWord input.length) 3 r.position =
      r.positionWords input.length := rfl
  unfold resample
  simp only [beq_iff_eq, Nat.pos_iff_ne_zero.1 nonempty, if_false, limit, estimate, placed, gt_iff_lt]
  by_cases refused : maxReserve < (r.estimateWord input.length).toInt
  · exact .inl ⟨refused, by rw [if_pos refused]; rfl⟩
  · rw [if_neg refused, computed, lasts_of_uniform uniform nonempty]
    exact .inr ⟨Int.not_lt.1 refused, _, _, rfl⟩

/-- A call keeps the bounds, and carries on from the position after its last
output position, `n` input samples back, as an integer. -/
theorem Bounded.resample (bounded : r.Bounded) (uniform : input.Uniform) (short : input.length < 2 ^ 31)
    {out : Batch} {r' : Resampler} (resampled : r.resample input = .ok (out, r')) :
    r'.Bounded ∧
      (0 < input.length → r'.position.toInt = (r.positionWords input.length).2.toInt - input.length * r.target) := by
  rcases Nat.eq_zero_or_pos input.length with empty | nonempty
  · rw [resample_of_empty empty] at resampled
    cases resampled
    exact ⟨bounded, fun nonempty => absurd empty (by omega)⟩
  obtain ⟨after, positions, -, -, past, within⟩ := bounded.positionWords_eq nonempty short
  rcases bounded.resample_cases uniform nonempty short with ⟨-, refused⟩ | ⟨-, made, last, called⟩
  · rw [refused] at resampled
    cases resampled
  rw [called] at resampled
  cases resampled
  obtain ⟨last, wide, product⟩ := bounded.last_within nonempty short
  have target := bounded.rate
  have step := bounded.step
  have whole : (Int64.ofNat input.length * Int64.ofNat r.target).toInt = input.length * r.target := by
    have count : (Int64.ofNat input.length).toInt = input.length := Int64.toInt_ofNat_of_lt (by omega)
    have rate : (Int64.ofNat r.target).toInt = r.target := Int64.toInt_ofNat_of_lt (by omega)
    rw [toInt_mul_exact] <;> rw [count, rate] <;> omega
  have moved : (after - Int64.ofNat input.length * Int64.ofNat r.target).toInt =
      after.toInt - input.length * r.target := by
    rw [toInt_sub_exact] <;> rw [whole] <;> omega
  rw [positions]
  refine ⟨⟨target, step, ?_, ?_, fun _ => rfl⟩, fun _ => moved⟩
  · -- past the last input sample: less than one sample back
    show -(r.target : Int) < (after - Int64.ofNat input.length * Int64.ofNat r.target).toInt
    omega
  · -- at most one step past it: at most `base - target` ahead
    show (after - Int64.ofNat input.length * Int64.ofNat r.target).toInt ≤ max 0 ((r.base : Int) - r.target)
    omega

/-- Every reachable state is bounded. The induction is on how it was reached:
`new` and `reset` start at position zero, and each call keeps the bounds. -/
theorem Reachable.bounded {r : Resampler} (reachable : r.Reachable) : r.Bounded := by
  induction reachable with
  | new rate step made => exact Bounded.of_new rate step made
  | reset _ bounded => exact bounded.reset
  | resample _ uniform short resampled bounded => exact (bounded.resample uniform short resampled).1

/-- The resampler never reads out of range and its words never wrap. In every
state reachable from `new` with both rates below `2^31`, through resets and
calls on batches of fewer than `2^31` samples a channel, the carried position
is in `(-target, max 0 (base - target)]`. A call on such a batch computes the
position of its last input sample, the room it reserves, its output positions,
the one after them and the position it carries on as the integers they stand
for; every output position reads within the batch, or the carried sample once a
batch has set it; and the call aborts only with the refusal of room out of
range, and does exactly when the room asked exceeds `maxReserve`. -/
theorem resampler_reads_within_range {r : Resampler} (reachable : r.Reachable) {input : Batch}
    (uniform : input.Uniform) (short : input.length < 2 ^ 31) :
    -(r.target : Int) < r.position.toInt ∧ r.position.toInt ≤ max 0 ((r.base : Int) - r.target) ∧
      (0 < input.length →
        (r.limitWord input.length).toInt = ((input.length : Int) - 1) * r.target ∧
        (r.estimateWord input.length).toInt =
          (((input.length : Int) - 1) * r.target - r.position.toInt).tdiv r.base + 1 ∧
        (r.positionWords input.length).1.map Int64.toInt =
          (List.range (r.positionCount input.length)).map (fun k : Nat => r.position.toInt + k * r.base) ∧
        (r.positionWords input.length).2.toInt = r.position.toInt + r.positionCount input.length * r.base ∧
        ∀ p ∈ (r.positionWords input.length).1, r.Reads input.length p) ∧
      (∀ e, r.resample input = .error e →
        e = .refused "runtime error: makeslice: cap out of range" ∧
          maxReserve < (r.estimateWord input.length).toInt) ∧
      ((r.estimateWord input.length).toInt ≤ maxReserve → ∃ out r', r.resample input = .ok (out, r')) ∧
      (∀ out r', r.resample input = .ok (out, r') → 0 < input.length →
        r'.position.toInt = (r.positionWords input.length).2.toInt - input.length * r.target) := by
  have bounded := reachable.bounded
  refine ⟨bounded.above, bounded.below, fun nonempty => ?_, fun e failed => ?_, fun room => ?_,
    fun out r' resampled => (bounded.resample uniform short resampled).2⟩
  · obtain ⟨after, positions, exact, moved, -, -⟩ := bounded.positionWords_eq nonempty short
    refine ⟨bounded.toInt_limitWord nonempty short, bounded.toInt_estimateWord nonempty short, ?_, ?_, ?_⟩
    · rw [positions, List.map_map]
      exact List.map_congr_left fun k mem => exact k (List.mem_range.1 mem)
    · rw [positions]
      exact moved
    · intro p mem
      rw [positions] at mem
      obtain ⟨k, within, rfl⟩ := List.mem_map.1 mem
      exact bounded.reads nonempty short (List.mem_range.1 within)
  · -- an abort is the refusal of room: no index is out of range
    rcases Nat.eq_zero_or_pos input.length with empty | nonempty
    · rw [resample_of_empty empty] at failed
      cases failed
    rcases bounded.resample_cases uniform nonempty short with ⟨refused, called⟩ | ⟨-, out, last, called⟩
    · rw [called] at failed
      cases failed
      exact ⟨rfl, refused⟩
    · rw [called] at failed
      cases failed
  · rcases Nat.eq_zero_or_pos input.length with empty | nonempty
    · exact ⟨_, _, resample_of_empty empty⟩
    rcases bounded.resample_cases uniform nonempty short with ⟨refused, -⟩ | ⟨-, out, last, called⟩
    · exact absurd room (Int.not_le.2 refused)
    · exact ⟨_, _, called⟩

/-- A fresh resampler giving three samples for every two, on a batch of two
samples a channel. -/
theorem fresh_three_halves_reads_within_range :
    let r : Resampler := { target := 3, base := 2 }
    let input := Batch.ofChannels [#[1, 2], #[1, 2], #[1, 2], #[1, 2]]
    r.Reachable ∧ input.Uniform ∧ input.length < 2 ^ 31 ∧
      -(r.target : Int) < r.position.toInt ∧ r.position.toInt ≤ max 0 ((r.base : Int) - r.target) ∧
        (0 < input.length →
          (r.limitWord input.length).toInt = ((input.length : Int) - 1) * r.target ∧
          (r.estimateWord input.length).toInt =
            (((input.length : Int) - 1) * r.target - r.position.toInt).tdiv r.base + 1 ∧
          (r.positionWords input.length).1.map Int64.toInt =
            (List.range (r.positionCount input.length)).map (fun k : Nat => r.position.toInt + k * r.base) ∧
          (r.positionWords input.length).2.toInt = r.position.toInt + r.positionCount input.length * r.base ∧
          ∀ p ∈ (r.positionWords input.length).1, r.Reads input.length p) ∧
        (∀ e, r.resample input = .error e →
          e = .refused "runtime error: makeslice: cap out of range" ∧
            maxReserve < (r.estimateWord input.length).toInt) ∧
        ((r.estimateWord input.length).toInt ≤ maxReserve → ∃ out r', r.resample input = .ok (out, r')) ∧
        (∀ out r', r.resample input = .ok (out, r') → 0 < input.length →
          r'.position.toInt = (r.positionWords input.length).2.toInt - input.length * r.target) := by
  intro r input
  have reachable : r.Reachable := @Reachable.new 3 2 r ⟨by decide, by decide⟩ ⟨by decide, by decide⟩ rfl
  have uniform : input.Uniform := by decide
  have short : input.length < 2 ^ 31 := by decide
  exact ⟨reachable, uniform, short, resampler_reads_within_range reachable uniform short⟩

end Call

end Resampler

end Acquisition
