/-! Shortest decimal digits of a binary floating-point value `m · 2^q`: the fewest significant
digits in the interval of reals that round to it, the nearer of two, an exact tie to even. Exact
natural arithmetic. -/
namespace Acquisition.Decimal

/-- A binary interchange format: the width of its fraction and of its exponent. -/
structure BinaryFormat where
  fractionBits : Nat
  exponentBits : Nat

def BinaryFormat.bias (f : BinaryFormat) : Nat := Nat.pow 2 (f.exponentBits - 1) - 1

def single : BinaryFormat := ⟨23, 8⟩

def double : BinaryFormat := ⟨52, 11⟩

/-- What a bit pattern stands for. A finite value is `(-1)^negative · m · 2^q`. -/
inductive Binary where
  | nan
  | infinity (negative : Bool)
  | finite (negative : Bool) (m : Nat) (q : Int) (narrowBelow : Bool)

/-- Splits a bit pattern of format `f` into sign, significand and exponent.
`narrowBelow` marks a power of two above the smallest normal exponent: the next
value below it is nearer than the next value above. -/
def BinaryFormat.decode (f : BinaryFormat) (bits : Nat) : Binary :=
  let fraction := bits % Nat.pow 2 f.fractionBits
  let biased := bits / Nat.pow 2 f.fractionBits % Nat.pow 2 f.exponentBits
  let negative := bits / Nat.pow 2 (f.fractionBits + f.exponentBits) % 2 == 1
  if biased == Nat.pow 2 f.exponentBits - 1 then
    if fraction == 0 then .infinity negative else .nan
  else if biased == 0 then
    .finite negative fraction (1 - (f.bias : Int) - f.fractionBits) false
  else
    .finite negative (fraction + Nat.pow 2 f.fractionBits)
      ((biased : Int) - f.bias - f.fractionBits) (fraction == 0 && biased > 1)

/-- Digits and the place of the decimal point: the value is `0.d₁d₂… · 10^point`.
No digit list ends in zero; zero has no digits. -/
structure Digits where
  digits : List Nat
  point : Int
  deriving BEq, Repr

def compareScaled (d : Nat) (k : Int) (n : Nat) (e : Int) : Ordering :=
  let left := d * Nat.pow 10 k.toNat * Nat.pow 2 (-e).toNat
  let right := n * Nat.pow 2 e.toNat * Nat.pow 10 (-k).toNat
  compare left right

def log10 (n : Nat) : Nat := (Nat.toDigits 10 n).length - 1

/-- `⌊log₁₀ (m · 2^q)⌋` for `m > 0`. -/
def decimalExponent (m : Nat) (q : Int) : Int :=
  let p := m * Nat.pow 2 q.toNat
  let r := Nat.pow 2 (-q).toNat
  if r ≤ p then log10 (p / r)
  else -((log10 ((r - 1) / p) : Int) + 1)

def gridFloor (m : Nat) (q : Int) (k : Int) : Nat :=
  m * Nat.pow 2 q.toNat * Nat.pow 10 (-k).toNat / (Nat.pow 2 (-q).toNat * Nat.pow 10 k.toNat)

def Digits.ofNat (n : Nat) (point : Int) : Digits :=
  let ds := (Nat.toDigits 10 n).map (fun c => c.toNat - 48)
  ⟨(ds.reverse.dropWhile (· == 0)).reverse, point + (ds.length : Int)⟩

/-- The candidate on the grid `10^k` chosen for `m · 2^q`, if one lies in its
interval. The interval's ends are `(4m ± 2) · 2^(q-2)`, or `(4m - 1) · 2^(q-2)`
below a narrow power of two; they belong to it when `m` is even. -/
def pickOnGrid (m : Nat) (q : Int) (narrowBelow : Bool) (k : Int) : Option Nat :=
  let inclusive := m % 2 == 0
  let low := if narrowBelow then 4 * m - 1 else 4 * m - 2
  let high := 4 * m + 2
  let inside (d : Nat) : Bool :=
    let aboveLow := compareScaled d k low (q - 2)
    let belowHigh := compareScaled d k high (q - 2)
    (aboveLow == .gt || (inclusive && aboveLow == .eq)) &&
      (belowHigh == .lt || (inclusive && belowHigh == .eq))
  let lo := gridFloor m q k
  let hi := lo + 1
  match inside lo, inside hi with
  | true, true =>
    -- distances to the value, scaled by the same positive factor
    let below := compareScaled (2 * lo + 1) k (4 * m) (q - 1)
    match below with
    | .gt => some lo
    | .lt => some hi
    | .eq => if lo % 2 == 0 then some lo else some hi
  | true, false => some lo
  | false, true => some hi
  | false, false => none

/-- The shortest digits of `m · 2^q`, for `m > 0`. -/
def shortest (m : Nat) (q : Int) (narrowBelow : Bool) : Digits :=
  let e := decimalExponent m q
  let rec search : Nat → Nat → Digits
    | 0, _ => Digits.ofNat (gridFloor m q (e - 24)) (e - 24)
    | fuel + 1, n =>
      let k := e - (n : Int) + 1
      match pickOnGrid m q narrowBelow k with
      | some d => Digits.ofNat d k
      | none => search fuel (n + 1)
  search 24 1

end Acquisition.Decimal
