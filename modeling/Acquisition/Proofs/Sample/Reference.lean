import Acquisition.Sample.Resampler
import Acquisition.Proofs.Sample.Batches
/-! The streaming resampler against the whole-stream reference: one call keeps the invariant
`Carries` and gives the samples the batch makes computable, so a run gives the reference whatever
the split. -/
namespace Acquisition

namespace Resampler

/-- How many samples the reference gives for `n` input samples: one for each
position `j * base` up to that of the last input sample, `(n - 1) * target`. -/
def outputCount (target base n : Nat) : Nat := if n = 0 then 0 else (n - 1) * target / base + 1

/-- Sample `j` of the reference over the channel `x`. It lies at `j * base` in
units of `1 / target` input samples: input index `i` and remainder `r` of that
position divided by `target`, moved from `x[i]` towards `x[i + 1]` by
`r / target`. The fraction `r / target` in single precision vanishes exactly
when `r` does, so the test is on `r`. -/
def referenceSample (target base : Nat) (x : Array Float32) (j : Nat) : Float32 :=
  let i := j * base / target
  let r := j * base % target
  if r = 0 then x.getD i 0
  else x.getD i 0 + Float32.ofNat r / Float32.ofNat target * (x.getD (i + 1) 0 - x.getD i 0)

def reference (target base : Nat) (x : Array Float32) : Array Float32 :=
  ((List.range (outputCount target base x.size)).map (referenceSample target base x)).toArray

theorem size_reference (target base : Nat) (x : Array Float32) :
    (reference target base x).size = outputCount target base x.size := by
  simp [reference]

section Counting

variable {target base : Nat}

/-- A reference sample reads input `i`, and input `i + 1` when it interpolates,
both within the input it was counted for. -/
theorem reads_within (positive : 0 < target) (step : 0 < base) {n j : Nat}
    (counted : j < outputCount target base n) :
    j * base / target < n ∧ (j * base % target ≠ 0 → j * base / target + 1 < n) := by
  unfold outputCount at counted
  split at counted
  · omega
  have upto : j * base ≤ (n - 1) * target :=
    (Nat.le_div_iff_mul_le step).1 (by omega)
  have below : j * base / target ≤ (n - 1) * target / target := Nat.div_le_div_right upto
  rw [Nat.mul_div_cancel _ positive] at below
  refine ⟨by omega, fun inexact => ?_⟩
  have short : j * base < (n - 1) * target := by
    refine Nat.lt_of_le_of_ne upto fun same => inexact ?_
    rw [same, Nat.mul_mod_left]
  have := (Nat.div_lt_iff_lt_mul positive).2 short
  omega

theorem getD_append_left {x y : Array Float32} {i : Nat} (inside : i < x.size) :
    (x ++ y).getD i 0 = x.getD i 0 := by
  simp [Array.getElem?_append_left inside]

/-- A reference sample already counted for a prefix of the input reads only that
prefix, so later input leaves it alone. -/
theorem referenceSample_append (positive : 0 < target) (step : 0 < base) {x y : Array Float32}
    {j : Nat} (counted : j < outputCount target base x.size) :
    referenceSample target base (x ++ y) j = referenceSample target base x j := by
  obtain ⟨first, second⟩ := reads_within positive step counted
  unfold referenceSample
  by_cases exact : j * base % target = 0
  · simp only [exact, if_true, getD_append_left first]
  · simp only [exact, if_false, getD_append_left first, getD_append_left (second exact)]

theorem outputCount_mono {m n : Nat} (le : m ≤ n) : outputCount target base m ≤ outputCount target base n := by
  unfold outputCount
  split
  · exact Nat.zero_le _
  · have : (m - 1) * target / base ≤ (n - 1) * target / base :=
      Nat.div_le_div_right (Nat.mul_le_mul_right target (Nat.sub_le_sub_right le 1))
    split <;> omega

/-- The position of the next reference sample after `n` input samples, relative
to the input that follows, in `1 / target` input samples. -/
def positionAfter (target base n : Nat) : Int := outputCount target base n * base - n * target

theorem positionAfter_zero : positionAfter target base 0 = 0 := by
  simp [positionAfter, outputCount]

/-- The next sample lies less than one input sample back, and at most `base`
ahead. -/
theorem positionAfter_bounds (positive : 0 < target) (step : 0 < base) (n : Nat) :
    -(target : Int) < positionAfter target base n ∧ positionAfter target base n ≤ base := by
  unfold positionAfter
  rcases Nat.eq_zero_or_pos n with rfl | nonempty
  · simp [outputCount]
    omega
  · have count : outputCount target base n = (n - 1) * target / base + 1 := if_neg (by omega)
    have split := Nat.div_add_mod' ((n - 1) * target) base
    have rest := Nat.mod_lt ((n - 1) * target) step
    have whole : (n - 1) * target + target = n * target := by
      rw [← Nat.succ_mul]
      congr 1
      omega
    have lead : outputCount target base n * base = (n - 1) * target / base * base + base := by
      rw [count, Nat.succ_mul]
    rw [← Int.natCast_mul, ← Int.natCast_mul]
    omega
variable (target) in
/-- Counted from the position after `seen` input samples, the positions up to
that of the last of `n` more input samples, `(n - 1) * target`, are the
reference's samples for the longer input past those for `seen`. -/
theorem outputCount_add (step : 0 < base) (seen : Nat) {n : Nat} (nonempty : 0 < n) :
    (outputCount target base seen : Int) +
        ((((n - 1) * target : Nat) - positionAfter target base seen) / base + 1) =
      outputCount target base (seen + n) := by
  have whole : (seen + n - 1) * target = seen * target + (n - 1) * target := by
    rw [← Nat.add_mul]
    congr 1
    omega
  have gap : (((n - 1) * target : Nat) : Int) - positionAfter target base seen =
      (((seen + n - 1) * target : Nat) : Int) - outputCount target base seen * base := by
    unfold positionAfter
    rw [whole]
    push_cast
    omega
  have count : outputCount target base (seen + n) = (seen + n - 1) * target / base + 1 :=
    if_neg (by omega)
  rw [gap, Int.sub_mul_ediv_right _ _ (by omega), count]
  push_cast
  omega

/-- When the next position is already past `n` more input samples, they add no
sample to the reference. -/
theorem outputCount_add_of_lt (step : 0 < base) {seen n : Nat} (nonempty : 0 < n)
    (past : (((n - 1) * target : Nat) : Int) < positionAfter target base seen) :
    outputCount target base (seen + n) = outputCount target base seen := by
  have whole : (seen + n - 1) * target = seen * target + (n - 1) * target := by
    rw [← Nat.add_mul]
    congr 1
    omega
  have short : (seen + n - 1) * target < outputCount target base seen * base := by
    unfold positionAfter at past
    rw [whole]
    rw [← Int.natCast_mul, ← Int.natCast_mul] at past
    omega
  have below := (Nat.div_lt_iff_lt_mul step).2 short
  have more : outputCount target base seen ≤ outputCount target base (seen + n) :=
    outputCount_mono (Nat.le_add_right seen n)
  have count : outputCount target base (seen + n) = (seen + n - 1) * target / base + 1 :=
    if_neg (by omega)
  omega

/-- A sample counted after those for `seen` input samples reads no input before
the last of them. -/
theorem reads_after (positive : 0 < target) (step : 0 < base) {seen j : Nat}
    (later : outputCount target base seen ≤ j) : seen ≤ j * base / target + 1 := by
  rcases Nat.eq_zero_or_pos seen with rfl | nonempty
  · exact Nat.zero_le _
  unfold outputCount at later
  rw [if_neg (by omega)] at later
  have past : (seen - 1) * target < j * base := (Nat.div_lt_iff_lt_mul step).1 (by omega)
  have := (Nat.le_div_iff_mul_le positive).2 (Nat.le_of_lt past)
  omega

variable (base) in
/-- Position `j * base - seen * target` splits into input index and remainder as
position `j * base` does, the index moved back by `seen`. -/
theorem position_divmod (positive : 0 < target) (j seen : Nat) :
    (((j * base : Nat) : Int) - ((seen * target : Nat) : Int)) / target =
        ((j * base / target : Nat) : Int) - seen ∧
      ((j * base : Nat) : Int) - ((seen * target : Nat) : Int) -
          (((j * base / target : Nat) : Int) - seen) * target = ((j * base % target : Nat) : Int) := by
  have whole : ((j * base / target * target : Nat) : Int) + ((j * base % target : Nat) : Int) =
      ((j * base : Nat) : Int) := by exact_mod_cast Nat.div_add_mod' (j * base) target
  constructor
  · rw [Int.natCast_mul seen, Int.sub_mul_ediv_right _ _ (by omega), Int.natCast_ediv]
  · rw [Int.sub_mul]
    push_cast at whole ⊢
    omega

/-- Samples counted for a prefix of the input, followed by the later ones of the
longer input, are the samples of the longer input. -/
theorem map_range'_reference (positive : 0 < target) (step : 0 < base) {x y : Array Float32}
    {first middle last : Nat} (le_middle : first ≤ middle) (le_last : middle ≤ last)
    (counted : middle ≤ outputCount target base x.size) :
    (List.range' first (middle - first)).map (referenceSample target base x) ++
        (List.range' middle (last - middle)).map (referenceSample target base (x ++ y)) =
      (List.range' first (last - first)).map (referenceSample target base (x ++ y)) := by
  have earlier : (List.range' first (middle - first)).map (referenceSample target base x) =
      (List.range' first (middle - first)).map (referenceSample target base (x ++ y)) :=
    List.map_congr_left fun j mem =>
      (referenceSample_append positive step (by have := List.mem_range'_1.1 mem; omega)).symm
  have joined := @List.range'_append_1 first (middle - first) (last - middle)
  rw [Nat.add_sub_cancel' le_middle, show middle - first + (last - middle) = last - first by omega] at joined
  rw [earlier, ← List.map_append, joined]

end Counting

section Sampling

theorem getD_append_right {x y : Array Float32} {k : Nat} (beyond : x.size ≤ k) :
    (x ++ y).getD k 0 = y.getD (k - x.size) 0 := by
  simp [Array.getElem?_append_right beyond]

theorem elementAt_natCast {xs : Array Float32} {k : Nat} (inside : k < xs.size) :
    elementAt xs (k : Int) = .ok (xs.getD k 0) := by
  simp [elementAt, inside]

theorem vector_get {α : Type} {n : Nat} (v : Vector α n) (i : Fin n) : v.get i = getElem v i i.isLt := rfl

theorem mapM_ok {α β ε : Type} {f : α → Except ε β} {g : α → β} :
    ∀ xs : List α, (∀ x ∈ xs, f x = .ok (g x)) → xs.mapM f = .ok (xs.map g)
  | [], _ => rfl
  | x :: xs, each => by
    rw [List.mapM_cons, each x List.mem_cons_self,
      mapM_ok xs fun y mem => each y (List.mem_cons_of_mem x mem)]
    rfl

/-- One output sample of channel `x`, which follows the channel `xs` already
consumed: at index `i` of the joined channel it reads sample `i` (the carried
last sample when `i` is the last of `xs`) and, for a nonzero remainder, sample
`i + 1`. -/
theorem sampleAt_append {r : Resampler} {xs x : Array Float32} {ch : Fin 4} {i rem : Nat}
    (carried : i < xs.size → r.primed = true ∧ r.last.get ch = xs.getD i 0)
    (from_last : xs.size ≤ i + 1) (inside : i < xs.size + x.size)
    (next : rem ≠ 0 → i + 1 < xs.size + x.size) :
    r.sampleAt x ch ((i : Int) - xs.size) rem (Float32.ofInt rem / Float32.ofNat r.target) =
      .ok (if rem = 0 then (xs ++ x).getD i 0
        else (xs ++ x).getD i 0 + Float32.ofNat rem / Float32.ofNat r.target *
          ((xs ++ x).getD (i + 1) 0 - (xs ++ x).getD i 0)) := by
  have whole : Float32.ofInt (rem : Int) = Float32.ofNat rem := rfl
  have second : rem ≠ 0 → elementAt x ((i : Int) - xs.size + 1) = .ok ((xs ++ x).getD (i + 1) 0) :=
    fun inexact => by
      rw [show (i : Int) - xs.size + 1 = ((i + 1 - xs.size : Nat) : Int) by omega,
        elementAt_natCast (by have := next inexact; omega), getD_append_right (by omega)]
  have test : rem ≠ 0 → ((rem : Int) == 0) = false := fun inexact => beq_false_of_ne (by omega)
  unfold sampleAt
  by_cases before : i < xs.size
  · -- the sample before this batch is the carried one
    obtain ⟨primed, last⟩ := carried before
    have back : (i : Int) - xs.size < 0 := by omega
    by_cases exact : rem = 0
    · simp only [back, primed, last, exact, getD_append_left before, ↓reduceIte]
      rfl
    · simp only [back, primed, last, exact, second exact, whole, getD_append_left before, test exact,
        ↓reduceIte, Bool.false_eq_true]
      rfl
  · have ahead : ¬ (i : Int) - xs.size < 0 := by omega
    have first : elementAt x ((i : Int) - xs.size) = .ok ((xs ++ x).getD i 0) := by
      rw [show (i : Int) - xs.size = ((i - xs.size : Nat) : Int) by omega,
        elementAt_natCast (by omega), getD_append_right (by omega)]
    by_cases exact : rem = 0
    · simp only [ahead, first, exact, ↓reduceIte]
      rfl
    · simp only [ahead, exact, first, second exact, whole, test exact, ↓reduceIte, Bool.false_eq_true]
      rfl

end Sampling

section Words

/-! The position arithmetic is on 64-bit words; where no intermediate value
leaves the signed range, each operation is the integer one. -/

theorem toInt_add_exact {a b : Int64} (lo : -2 ^ 63 ≤ a.toInt + b.toInt)
    (hi : a.toInt + b.toInt < 2 ^ 63) : (a + b).toInt = a.toInt + b.toInt := by
  rw [Int64.toInt_add]
  exact Int.bmod_eq_of_le (by omega) (by omega)

theorem toInt_sub_exact {a b : Int64} (lo : -2 ^ 63 ≤ a.toInt - b.toInt)
    (hi : a.toInt - b.toInt < 2 ^ 63) : (a - b).toInt = a.toInt - b.toInt := by
  rw [Int64.toInt_sub]
  exact Int.bmod_eq_of_le (by omega) (by omega)

theorem toInt_mul_exact {a b : Int64} (lo : -2 ^ 63 ≤ a.toInt * b.toInt)
    (hi : a.toInt * b.toInt < 2 ^ 63) : (a * b).toInt = a.toInt * b.toInt := by
  rw [Int64.toInt_mul]
  exact Int.bmod_eq_of_le (by omega) (by omega)

theorem tdiv_range {a b c : Int} (positive : 0 < b) (bounded : 0 < c) (lo : -b ≤ a) (hi : a < c * b) :
    -1 ≤ a.tdiv b ∧ a.tdiv b < c := by
  by_cases sign : 0 ≤ a
  · rw [Int.tdiv_eq_ediv_of_nonneg sign]
    exact ⟨by have := Int.ediv_nonneg sign (Int.le_of_lt positive); omega,
      (Int.ediv_lt_iff_lt_mul positive).2 hi⟩
  · have flip : a.tdiv b = -((-a) / b) := by
      rw [← Int.tdiv_eq_ediv_of_nonneg (by omega), Int.neg_tdiv, Int.neg_neg]
    have small : -a / b < 2 := (Int.ediv_lt_iff_lt_mul positive).2 (by omega)
    have some := Int.ediv_nonneg (by omega : 0 ≤ -a) (Int.le_of_lt positive)
    omega

variable {step limit p : Int64}

theorem positionsUpTo_of_lt (rounds : Nat) (past : limit.toInt < p.toInt) :
    positionsUpTo step limit (rounds + 1) p = ([], p) := by
  simp only [positionsUpTo, Int64.lt_iff_toInt_lt, past, if_true]

/-- When the step after the last position up to `limit` stays in the signed
range, one round gives every position. -/
theorem positionsUpTo_of_le (rounds : Nat) (positive : 0 < step.toInt)
    (fits : limit.toInt + step.toInt < 2 ^ 63) (reached : p.toInt ≤ limit.toInt) :
    positionsUpTo step limit (rounds + 1) p =
      ((List.range ((limit.toInt - p.toInt) / step.toInt + 1).toNat).map
          (fun j => p + Int64.ofNat j * step),
        p + Int64.ofInt ((limit.toInt - p.toInt) / step.toInt + 1) * step) := by
  have within : p.toInt + ((limit.toInt - p.toInt) / step.toInt + 1) * step.toInt ≤
      Int64.maxValue.toInt := by
    have := Int.ediv_mul_le (limit.toInt - p.toInt) (Int.ne_of_gt positive)
    rw [Int64.toInt_maxValue, Int.add_mul]
    omega
  simp only [positionsUpTo]
  rw [if_neg (by rw [Int64.lt_iff_toInt_lt]; omega), if_pos within]

theorem toInt_position {k : Nat} (positive : 0 < step.toInt)
    (span : limit.toInt - p.toInt + step.toInt < 2 ^ 63)
    (counted : k < ((limit.toInt - p.toInt) / step.toInt + 1).toNat) :
    (p + Int64.ofNat k * step).toInt = p.toInt + k * step.toInt := by
  have upto : (k : Int) * step.toInt ≤ limit.toInt - p.toInt :=
    (Int.le_ediv_iff_mul_le positive).1 (by omega)
  have grows : (k : Int) * 1 ≤ k * step.toInt := Int.mul_le_mul_of_nonneg_left (by omega) (by omega)
  have word : (Int64.ofNat k).toInt = k := Int64.toInt_ofNat_of_lt (by omega)
  have product : (Int64.ofNat k * step).toInt = k * step.toInt := by
    rw [toInt_mul_exact] <;> rw [word] <;> omega
  have low := Int64.le_toInt p
  have high := Int64.toInt_lt limit
  rw [toInt_add_exact] <;> rw [product] <;> omega

/-- The position after a round is as many steps on from its first as the round
has positions. -/
theorem toInt_after (positive : 0 < step.toInt) (fits : limit.toInt + step.toInt < 2 ^ 63)
    (span : limit.toInt - p.toInt + step.toInt < 2 ^ 63) (reached : p.toInt ≤ limit.toInt) :
    (p + Int64.ofInt ((limit.toInt - p.toInt) / step.toInt + 1) * step).toInt =
      p.toInt + ((limit.toInt - p.toInt) / step.toInt + 1) * step.toInt := by
  have below := Int.ediv_mul_le (limit.toInt - p.toInt) (Int.ne_of_gt positive)
  have some := Int.ediv_nonneg (by omega : 0 ≤ limit.toInt - p.toInt) (Int.le_of_lt positive)
  generalize (limit.toInt - p.toInt) / step.toInt = q at *
  have grows : (q + 1) * 1 ≤ (q + 1) * step.toInt :=
    Int.mul_le_mul_of_nonneg_left (by omega) (by omega)
  have expand : (q + 1) * step.toInt = q * step.toInt + step.toInt := by
    rw [Int.add_mul, Int.one_mul]
  have word : (Int64.ofInt (q + 1)).toInt = q + 1 := Int64.toInt_ofInt_of_le (by omega) (by omega)
  have product : (Int64.ofInt (q + 1) * step).toInt = (q + 1) * step.toInt := by
    rw [toInt_mul_exact] <;> rw [word] <;> omega
  have low := Int64.le_toInt p
  have high := Int64.toInt_lt limit
  rw [toInt_add_exact] <;> rw [product] <;> omega

end Words

/-- The batch lengths for which the position arithmetic of one call stays within
signed 64-bit words and the room reserved for its output within `maxReserve`. -/
def Fits (target base n : Nat) : Prop := n * target + base < 2 ^ 63 ∧ n * target ≤ base * 2 ^ 46

instance (target base n : Nat) : Decidable (Fits target base n) :=
  inferInstanceAs (Decidable (_ ∧ _))

/-- The position of the last input sample of a batch, as the word the resampler
computes. -/
theorem toInt_limit {n target : Nat} (positive : 0 < target) (nonempty : 0 < n)
    (fits : n * target < 2 ^ 63) :
    ((Int64.ofNat n - 1) * Int64.ofNat target).toInt = (((n - 1) * target : Nat) : Int) := by
  have grows : target ≤ n * target := Nat.le_mul_of_pos_left target nonempty
  have many : n ≤ n * target := Nat.le_mul_of_pos_right n positive
  have shrink : (n - 1) * target ≤ n * target := Nat.mul_le_mul_right target (Nat.sub_le n 1)
  have count : (Int64.ofNat n).toInt = n := Int64.toInt_ofNat_of_lt (by omega)
  have rate : (Int64.ofNat target).toInt = target := Int64.toInt_ofNat_of_lt (by omega)
  have before : (Int64.ofNat n - 1).toInt = ((n - 1 : Nat) : Int) := by
    rw [toInt_sub_exact] <;> rw [count] <;> simp <;> omega
  rw [toInt_mul_exact] <;> rw [before, rate] <;> push_cast <;> omega

section Streaming

/-- What the resampler carries after consuming `seen`, as the reference reads
it: the position of the next reference sample, and the last input sample of
each channel. -/
structure Carries (r : Resampler) (seen : Batch) : Prop where
  uniform : seen.Uniform
  position : r.position.toInt = positionAfter r.target r.base seen.length
  last : 0 < seen.length → r.primed = true ∧
    ∀ ch : Fin 4, r.last.get ch = (seen.channel ch).getD (seen.length - 1) 0

variable {r : Resampler} {seen input : Batch}

/-- The frame at the position of reference sample `j`, which lies between those
already given for `seen` and the last one `input` makes computable, is that
sample of every channel of the joined stream. -/
theorem frameAt_eq (carries : r.Carries seen) (positive : 0 < r.target) (step : 0 < r.base)
    (uniform : input.Uniform) {p : Int64} {j : Nat}
    (position : p.toInt = ((j * r.base : Nat) : Int) - ((seen.length * r.target : Nat) : Int))
    (later : outputCount r.target r.base seen.length ≤ j)
    (counted : j < outputCount r.target r.base (seen.length + input.length)) :
    r.frameAt input p =
      .ok ((List.finRange 4).map fun ch => referenceSample r.target r.base ((seen ++ input).channel ch) j) := by
  obtain ⟨index, remainder⟩ := position_divmod r.base positive j seen.length
  obtain ⟨inside, next⟩ := reads_within positive step counted
  have from_last := reads_after positive step later
  unfold frameAt
  simp only [position, index, remainder]
  refine mapM_ok _ fun ch _ => ?_
  have size := carries.uniform ch
  rw [Batch.channels_get, Batch.channel_append, referenceSample, ← size]
  refine sampleAt_append (fun before => ?_) (by rw [size]; exact from_last) (by rw [size, uniform ch]; exact inside)
    (fun inexact => by rw [size, uniform ch]; exact next inexact)
  rw [size] at before
  obtain ⟨primed, last⟩ := carries.last (Nat.lt_of_le_of_lt (Nat.zero_le _) before)
  refine ⟨primed, ?_⟩
  rw [last ch]
  congr 1
  generalize j * r.base / r.target = i at before from_last ⊢
  omega

theorem estimate_le (carries : r.Carries seen) (positive : 0 < r.target) (step : 0 < r.base)
    {n : Nat} (nonempty : 0 < n) (fits : Fits r.target r.base n) :
    (((Int64.ofNat n - 1) * Int64.ofNat r.target - r.position) / Int64.ofNat r.base + 1).toInt ≤
      maxReserve := by
  obtain ⟨small, room⟩ := fits
  have limit := toInt_limit positive nonempty (by omega)
  have rate : (Int64.ofNat r.base).toInt = r.base := Int64.toInt_ofNat_of_lt (by omega)
  have whole : (n - 1) * r.target + r.target = n * r.target := by
    rw [← Nat.succ_mul]
    congr 1
    omega
  obtain ⟨above, below⟩ := positionAfter_bounds positive step seen.length
  rw [← carries.position] at above below
  have gap : ((Int64.ofNat n - 1) * Int64.ofNat r.target - r.position).toInt =
      (((n - 1) * r.target : Nat) : Int) - r.position.toInt := by
    rw [toInt_sub_exact] <;> rw [limit] <;> omega
  have quotient : -1 ≤ ((((n - 1) * r.target : Nat) : Int) - r.position.toInt).tdiv r.base ∧
      ((((n - 1) * r.target : Nat) : Int) - r.position.toInt).tdiv r.base < 2 ^ 46 :=
    tdiv_range (by omega) (by omega) (by omega) (by omega)
  have least : (Int64.ofNat n - 1) * Int64.ofNat r.target - r.position ≠ Int64.minValue := by
    intro same
    have := congrArg Int64.toInt same
    rw [gap, Int64.toInt_minValue] at this
    omega
  have divided : (((Int64.ofNat n - 1) * Int64.ofNat r.target - r.position) / Int64.ofNat r.base).toInt =
      ((((n - 1) * r.target : Nat) : Int) - r.position.toInt).tdiv r.base := by
    rw [Int64.toInt_div_of_ne_left _ _ least, gap, rate]
  have one : (1 : Int64).toInt = 1 := rfl
  have reserve : maxReserve = 2 ^ 46 := rfl
  rw [toInt_add_exact] <;> rw [divided, one] <;> omega

/-- The positions one batch of `n` samples makes computable: as many as the
reference adds for the longer input, `base` apart from the carried position. -/
theorem positions_of_carries (carries : r.Carries seen) (positive : 0 < r.target) (step : 0 < r.base)
    {n : Nat} (nonempty : 0 < n) (fits : Fits r.target r.base n) :
    ∃ after : Int64,
      positionsUpTo (Int64.ofNat r.base) ((Int64.ofNat n - 1) * Int64.ofNat r.target) 3 r.position =
        ((List.range (outputCount r.target r.base (seen.length + n) -
            outputCount r.target r.base seen.length)).map
          (fun k => r.position + Int64.ofNat k * Int64.ofNat r.base), after) ∧
      (∀ k < outputCount r.target r.base (seen.length + n) - outputCount r.target r.base seen.length,
        (r.position + Int64.ofNat k * Int64.ofNat r.base).toInt =
          positionAfter r.target r.base seen.length + k * r.base) ∧
      after.toInt = positionAfter r.target r.base seen.length +
        ((outputCount r.target r.base (seen.length + n) - outputCount r.target r.base seen.length : Nat) : Int) *
          r.base := by
  obtain ⟨small, room⟩ := fits
  have limit := toInt_limit positive nonempty (by omega)
  have rate : (Int64.ofNat r.base).toInt = r.base := Int64.toInt_ofNat_of_lt (by omega)
  have whole : (n - 1) * r.target + r.target = n * r.target := by
    rw [← Nat.succ_mul]
    congr 1
    omega
  have more : outputCount r.target r.base seen.length ≤ outputCount r.target r.base (seen.length + n) :=
    outputCount_mono (Nat.le_add_right _ _)
  obtain ⟨above, below⟩ := positionAfter_bounds positive step seen.length
  have count := outputCount_add r.target step seen.length nonempty
  rw [← carries.position] at above below count
  have span : ((Int64.ofNat n - 1) * Int64.ofNat r.target).toInt - r.position.toInt +
      (Int64.ofNat r.base).toInt < 2 ^ 63 := by
    rw [limit, rate]
    omega
  by_cases reached : r.position.toInt ≤ (((n - 1) * r.target : Nat) : Int)
  · have rounds : ((((n - 1) * r.target : Nat) : Int) - r.position.toInt) / r.base + 1 =
        ((outputCount r.target r.base (seen.length + n) - outputCount r.target r.base seen.length : Nat) : Int) := by
      omega
    refine ⟨r.position + Int64.ofInt ((outputCount r.target r.base (seen.length + n) -
      outputCount r.target r.base seen.length : Nat) : Int) * Int64.ofNat r.base, ?_, fun k counted => ?_, ?_⟩
    · rw [positionsUpTo_of_le 2 (by omega) (by omega) (by omega), limit, rate, rounds, Int.toNat_natCast]
    · rw [toInt_position (by omega) span (by rw [limit, rate, rounds, Int.toNat_natCast]; exact counted),
        rate, carries.position]
    · have after := toInt_after (by omega) (by rw [limit, rate]; omega) span (by rw [limit]; omega)
      rw [limit, rate, rounds, carries.position] at after
      exact after
  · have same := outputCount_add_of_lt step nonempty (by rw [← carries.position]; omega)
    rw [same, Nat.sub_self]
    refine ⟨r.position, ?_, fun k counted => absurd counted (Nat.not_lt_zero k),
      by simp [carries.position]⟩
    rw [positionsUpTo_of_lt 2 (by rw [limit]; omega)]
    rfl

theorem frames_of_carries (carries : r.Carries seen) (positive : 0 < r.target) (step : 0 < r.base)
    (uniform : input.Uniform) {K : Nat}
    (counted : outputCount r.target r.base seen.length + K ≤
      outputCount r.target r.base (seen.length + input.length))
    (placed : ∀ k < K, (r.position + Int64.ofNat k * Int64.ofNat r.base).toInt =
      positionAfter r.target r.base seen.length + k * r.base) :
    ((List.range K).map fun k => r.position + Int64.ofNat k * Int64.ofNat r.base).mapM (r.frameAt input) =
      .ok ((List.range K).map fun k => (List.finRange 4).map fun ch =>
        referenceSample r.target r.base ((seen ++ input).channel ch) (outputCount r.target r.base seen.length + k)) := by
  rw [List.mapM_map]
  refine mapM_ok _ fun k mem => ?_
  have inside := List.mem_range.1 mem
  refine frameAt_eq carries positive step uniform ?_ (Nat.le_add_right _ _) (by omega)
  dsimp only
  rw [placed k inside]
  unfold positionAfter
  push_cast
  rw [Int.add_mul]
  omega

theorem channels_batchOfFrames (frames : List (List Float32)) (ch : Fin 4) :
    ((batchOfFrames frames).channel ch).toList = frames.map fun f => f.getD ch 0 := by
  simp [batchOfFrames]

theorem lasts_of_uniform (uniform : input.Uniform) (nonempty : 0 < input.length) :
    (List.finRange 4).mapM (fun ch => elementAt (input.channels.get ch) ((input.length : Int) - 1)) =
      .ok ((List.finRange 4).map fun ch => (input.channel ch).getD (input.length - 1) 0) := by
  refine mapM_ok _ fun ch _ => ?_
  rw [Batch.channels_get, show (input.length : Int) - 1 = ((input.length - 1 : Nat) : Int) by omega,
    elementAt_natCast (by rw [uniform ch]; omega)]

/-- The position carried to the next batch is the reference's for the longer
input. -/
theorem toInt_next (positive : 0 < r.target) (step : 0 < r.base)
    {n : Nat} (nonempty : 0 < n) (fits : Fits r.target r.base n) {after : Int64}
    (moved : after.toInt = positionAfter r.target r.base seen.length +
      ((outputCount r.target r.base (seen.length + n) - outputCount r.target r.base seen.length : Nat) : Int) *
        r.base) :
    (after - Int64.ofNat n * Int64.ofNat r.target).toInt = positionAfter r.target r.base (seen.length + n) := by
  obtain ⟨small, room⟩ := fits
  have many : n ≤ n * r.target := Nat.le_mul_of_pos_right n positive
  have grows : r.target ≤ n * r.target := Nat.le_mul_of_pos_left r.target nonempty
  have more : outputCount r.target r.base seen.length ≤ outputCount r.target r.base (seen.length + n) :=
    outputCount_mono (Nat.le_add_right _ _)
  have whole : (Int64.ofNat n * Int64.ofNat r.target).toInt = ((n * r.target : Nat) : Int) := by
    rw [toInt_mul_exact] <;> rw [Int64.toInt_ofNat_of_lt (by omega), Int64.toInt_ofNat_of_lt (by omega)] <;>
      push_cast <;> omega
  have target := positionAfter_bounds positive step (seen.length + n)
  have shift : positionAfter r.target r.base (seen.length + n) = after.toInt - ((n * r.target : Nat) : Int) := by
    rw [moved, Int.ofNat_sub more]
    unfold positionAfter
    push_cast
    rw [Int.sub_mul, Int.add_mul]
    omega
  rw [toInt_sub_exact] <;> rw [whole] <;> omega

/-- One batch: the resampler gives the reference's samples the batch makes
computable and carries on for the longer input. -/
theorem resample_carries (carries : r.Carries seen) (positive : 0 < r.target) (step : 0 < r.base)
    (uniform : input.Uniform) (fits : Fits r.target r.base input.length) :
    ∃ out r', r.resample input = .ok (out, r') ∧ r'.target = r.target ∧ r'.base = r.base ∧
      r'.Carries (seen ++ input) ∧
      ∀ ch : Fin 4, (out.channel ch).toList =
        (List.range' (outputCount r.target r.base seen.length)
          (outputCount r.target r.base (seen.length + input.length) -
            outputCount r.target r.base seen.length)).map
          (referenceSample r.target r.base ((seen ++ input).channel ch)) := by
  rcases Nat.eq_zero_or_pos input.length with empty | nonempty
  · -- an empty batch gives nothing and changes nothing
    have none : ∀ ch : Fin 4, input.channel ch = #[] := fun ch =>
      Array.eq_empty_of_size_eq_zero (by rw [uniform ch]; exact empty)
    refine ⟨Batch.empty, r, ?_, rfl, rfl, ⟨carries.uniform.append uniform, ?_, fun nonempty => ?_⟩,
      fun ch => ?_⟩
    · unfold resample
      simp [empty]
      rfl
    · rw [Batch.length_append, empty, Nat.add_zero]
      exact carries.position
    · rw [Batch.length_append, empty, Nat.add_zero] at nonempty ⊢
      obtain ⟨primed, last⟩ := carries.last nonempty
      refine ⟨primed, fun ch => ?_⟩
      rw [last ch, Batch.channel_append, none ch, Array.append_empty]
    · rw [empty, Nat.add_zero, Nat.sub_self]
      simp [Batch.empty]
  obtain ⟨after, positions, placed, moved⟩ := positions_of_carries carries positive step nonempty fits
  have frames := frames_of_carries carries positive step uniform (Nat.le_of_eq (Nat.add_sub_of_le
    (outputCount_mono (Nat.le_add_right _ _)))) placed
  have estimate := estimate_le carries positive step nonempty fits
  unfold resample
  simp only [beq_iff_eq, Nat.pos_iff_ne_zero.1 nonempty, if_false, positions, gt_iff_lt,
    Int.not_lt.2 estimate, frames, lasts_of_uniform uniform nonempty]
  refine ⟨_, _, rfl, rfl, rfl, ⟨carries.uniform.append uniform, ?_, fun _ => ⟨rfl, fun ch => ?_⟩⟩, fun ch => ?_⟩
  · rw [Batch.length_append]
    exact toInt_next positive step nonempty fits moved
  · have size := carries.uniform ch
    rw [Batch.length_append, Batch.channel_append, getD_append_right (by omega), size,
      show seen.length + input.length - 1 - seen.length = input.length - 1 by omega, vector_get]
    simp
  · rw [channels_batchOfFrames, List.range'_eq_map_range, List.map_map, List.map_map]
    simp

/-- A batch whose channels hold the reference's samples `first, first + 1, …`
has channels of equal length. -/
theorem uniform_of_channels {out : Batch} {first count : Nat} {sample : Fin 4 → Nat → Float32}
    (chans : ∀ ch : Fin 4, (out.channel ch).toList = (List.range' first count).map (sample ch)) :
    out.Uniform := by
  intro ch
  have here := congrArg List.length (chans ch)
  have zero := congrArg List.length (chans 0)
  simp only [Array.length_toList, List.length_map, List.length_range'] at here zero
  exact here.trans zero.symm

/-- A run over any list of batches, from a state that carries `seen`: the
outputs, joined, are the reference's samples past those for `seen`, over the
whole input. The induction is on the batches; the invariant `Carries` is what
each call hands to the next. -/
theorem resampleEach_carries :
    ∀ (batches : List Batch) {r : Resampler} {seen : Batch}, r.Carries seen → 0 < r.target → 0 < r.base →
      (∀ b ∈ batches, b.Uniform ∧ Fits r.target r.base b.length) →
      ∃ outs r', r.resampleEach batches = .ok (outs, r') ∧ r'.target = r.target ∧ r'.base = r.base ∧
        r'.Carries (seen ++ Batch.concat batches) ∧ (∀ out ∈ outs, out.Uniform) ∧
        ∀ ch : Fin 4, (outs.flatMap fun out => (out.channel ch).toList) =
          (List.range' (outputCount r.target r.base seen.length)
            (outputCount r.target r.base (seen ++ Batch.concat batches).length -
              outputCount r.target r.base seen.length)).map
            (referenceSample r.target r.base ((seen ++ Batch.concat batches).channel ch))
  | [], r, seen, carries, _, _, _ => by
    refine ⟨[], r, rfl, rfl, rfl, ?_, by simp, fun ch => ?_⟩
    · rw [Batch.concat, List.foldl_nil, Batch.append_empty]
      exact carries
    · rw [Batch.concat, List.foldl_nil, Batch.append_empty, Nat.sub_self]
      rfl
  | b :: bs, r, seen, carries, positive, step, each => by
    obtain ⟨uniform, fits⟩ := each b List.mem_cons_self
    obtain ⟨out, next, run, target, base, carries_next, chans⟩ :=
      resample_carries carries positive step uniform fits
    obtain ⟨outs, last, rest, last_target, last_base, carries_last, uniforms, joined⟩ :=
      resampleEach_carries bs carries_next (target ▸ positive) (base ▸ step) fun c mem =>
        target ▸ base ▸ each c (List.mem_cons_of_mem b mem)
    rw [target, base] at joined
    refine ⟨out :: outs, last, ?_, last_target.trans target, last_base.trans base, ?_, ?_, fun ch => ?_⟩
    · simp only [resampleEach, run, bind, Except.bind, rest]
      rfl
    · rw [Batch.append_concat_cons]
      exact carries_last
    · intro o mem
      rcases List.mem_cons.1 mem with rfl | later
      · exact uniform_of_channels chans
      · exact uniforms o later
    · have grown := Batch.length_append seen b
      have size := (carries.uniform.append uniform) ch
      have more : outputCount r.target r.base seen.length ≤ outputCount r.target r.base (seen ++ b).length :=
        outputCount_mono (by omega)
      have most : outputCount r.target r.base (seen ++ b).length ≤
          outputCount r.target r.base (seen ++ b ++ Batch.concat bs).length :=
        outputCount_mono (by rw [Batch.length_append (seen ++ b)]; omega)
      rw [List.flatMap_cons, chans ch, joined ch, Batch.append_concat_cons, ← grown, Batch.channel_append _ (Batch.concat bs)]
      exact map_range'_reference positive step more most (Nat.le_of_eq (by rw [size]))

theorem carries_fresh {target base : Nat} {r : Resampler}
    (start : Resampler.new target base = .ok r ∨
      ∃ used : Resampler, used.target = target ∧ used.base = base ∧ r = used.reset) :
    r.Carries Batch.empty ∧ r.target = target ∧ r.base = base := by
  have nothing : Resampler.Carries { r with position := 0, primed := false } Batch.empty :=
    ⟨Batch.uniform_empty, by simp [Batch.length, Batch.empty, positionAfter_zero], fun none => by
      simp [Batch.length, Batch.empty] at none⟩
  rcases start with made | ⟨used, same_target, same_base, rfl⟩
  · unfold Resampler.new at made
    split at made
    · cases made
    · cases made
      exact ⟨nothing, by simp, by simp⟩
  · exact ⟨nothing, same_target, same_base⟩

/-- The streaming resampler gives the whole-stream reference, whatever the split
of the stream into batches: started by `new` or `reset`, fed any list of batches
whose channels have equal lengths, the outputs joined channel by channel are the
reference over the inputs joined channel by channel, and every output has
channels of equal length. This holds when no batch makes the position arithmetic
leave its 64-bit words or ask for more room than `maxReserve` (`Fits`). -/
theorem resample_stream_eq_reference (target base : Nat) (r : Resampler) (batches : List Batch)
    (start : Resampler.new target base = .ok r ∨
      ∃ used : Resampler, used.target = target ∧ used.base = base ∧ r = used.reset)
    (positive : 1 ≤ target) (step : 1 ≤ base)
    (uniform : ∀ b ∈ batches, b.Uniform) (fits : ∀ b ∈ batches, Fits target base b.length) :
    ∃ outs r', r.resampleEach batches = .ok (outs, r') ∧ (∀ out ∈ outs, out.Uniform) ∧
      ∀ ch : Fin 4, (Batch.concat outs).channel ch = reference target base ((Batch.concat batches).channel ch) := by
  obtain ⟨carries, rfl, rfl⟩ := carries_fresh start
  obtain ⟨outs, last, run, -, -, carries_last, uniforms, chans⟩ :=
    resampleEach_carries batches carries positive step fun b mem => ⟨uniform b mem, fits b mem⟩
  refine ⟨outs, last, run, uniforms, fun ch => Array.toList_inj.1 ?_⟩
  rw [Batch.empty_append] at carries_last chans
  rw [Batch.channels_concat, chans ch, reference, List.toList_toArray, carries_last.uniform ch]
  simp [Batch.length, Batch.empty, outputCount, List.range_eq_range']

theorem three_halves_split_matches_reference :
    Resampler.new 3 2 = .ok { target := 3, base := 2 } ∧
    (∀ b ∈ [Batch.ofChannels (List.replicate 4 #[0, 1]), Batch.empty, Batch.ofChannels (List.replicate 4 #[2])],
      b.Uniform) ∧
    (∀ b ∈ [Batch.ofChannels (List.replicate 4 #[0, 1]), Batch.empty, Batch.ofChannels (List.replicate 4 #[2])],
      Fits 3 2 b.length) ∧
    ∃ outs r', ({ target := 3, base := 2 } : Resampler).resampleEach
        [Batch.ofChannels (List.replicate 4 #[0, 1]), Batch.empty, Batch.ofChannels (List.replicate 4 #[2])] =
          .ok (outs, r') ∧ (∀ out ∈ outs, out.Uniform) ∧
      ∀ ch : Fin 4, (Batch.concat outs).channel ch = reference 3 2 ((Batch.concat
        [Batch.ofChannels (List.replicate 4 #[0, 1]), Batch.empty, Batch.ofChannels (List.replicate 4 #[2])]).channel ch) :=
  ⟨rfl, by decide, by decide, resample_stream_eq_reference 3 2 _ _ (.inl rfl) (by decide) (by decide)
    (by decide) (by decide)⟩

/-- Without `Fits` the stream is lost: at `target = base = 2^62` the position of
the last sample of a three-sample batch, `2 * 2^62`, wraps to a negative word, and
the resampler gives nothing where the reference gives three samples. -/
theorem wrapped_limit_loses_samples :
    ∃ r outs r', Resampler.new (2 ^ 62) (2 ^ 62) = .ok r ∧
      r.resampleEach [Batch.ofChannels (List.replicate 4 #[1, 2, 3])] = .ok (outs, r') ∧
      ((Batch.concat outs).channel 0).size = 0 ∧
      (reference (2 ^ 62) (2 ^ 62)
        ((Batch.concat [Batch.ofChannels (List.replicate 4 #[1, 2, 3])]).channel 0)).size = 3 := by
  refine ⟨_, _, _, rfl, rfl, ?_, ?_⟩
  · rw [← Array.length_toList, Batch.channels_concat]
    simp [batchOfFrames]
  · rw [size_reference, ← Array.length_toList, Batch.channels_concat]
    simp [Batch.ofChannels, outputCount]

end Streaming

end Resampler

end Acquisition
