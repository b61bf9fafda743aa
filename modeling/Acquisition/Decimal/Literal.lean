/-! Reading decimal literals as JSON writes numbers, into a sign, a natural number of digits and a
power of ten. -/
namespace Acquisition.Decimal

/-- A decimal literal's value: `(-1)^negative · mantissa · 10^exponent`. -/
structure Literal where
  negative : Bool
  mantissa : Nat
  exponent : Int
  deriving BEq, Repr

def digitsValue (ds : List Char) : Nat := ds.foldl (fun n c => n * 10 + (c.toNat - 48)) 0

def spanDigits (cs : List Char) : List Char × List Char :=
  (cs.takeWhile Char.isDigit, cs.dropWhile Char.isDigit)

/-- Reads a decimal literal; the whole text must be one. -/
def Literal.read? (s : String) : Option Literal :=
  let cs := s.toList
  let (negative, cs) := match cs with
    | '-' :: rest => (true, rest)
    | _ => (false, cs)
  let (whole, cs) := spanDigits cs
  if whole.isEmpty then none else
  let (fraction, cs) := match cs with
    | '.' :: rest => spanDigits rest
    | _ => ([], cs)
  let exponent? : Option Int := match cs with
    | [] => some 0
    | e :: rest =>
      if e == 'e' || e == 'E' then
        let (sign, rest) := match rest with
          | '+' :: r => (1, r)
          | '-' :: r => (-1, r)
          | r => (1, r)
        let (ds, after) := spanDigits rest
        if ds.isEmpty || !after.isEmpty then none else some (sign * (digitsValue ds : Int))
      else none
  match exponent? with
  | none => none
  | some e => some ⟨negative, digitsValue (whole ++ fraction), e - fraction.length⟩

/-- The integer a literal stands for, if it has no fractional part. -/
def Literal.toInt? (l : Literal) : Option Int :=
  let magnitude : Option Nat :=
    if l.mantissa == 0 then some 0
    else if l.exponent ≥ 0 then
      if l.exponent > 40 then none else some (l.mantissa * Nat.pow 10 l.exponent.toNat)
    else if l.mantissa % Nat.pow 10 (-l.exponent).toNat == 0 then some (l.mantissa / Nat.pow 10 (-l.exponent).toNat)
    else none
  magnitude.map fun m => if l.negative then -(m : Int) else m

def digitCount (n : Nat) : Nat := (Nat.toDigits 10 n).length

/-- The nearest single-precision value; beyond the range it is infinite. -/
def Literal.toFloat32 (l : Literal) : Float32 :=
  let size := (digitCount l.mantissa : Int) + l.exponent
  let magnitude : Float32 :=
    if l.mantissa == 0 || size < -60 then 0
    else if size > 60 then Float32.ofBits 0x7F800000
    else if l.exponent ≥ 0 then Float32.ofScientific l.mantissa false l.exponent.toNat
    else Float32.ofScientific l.mantissa true (-l.exponent).toNat
  if l.negative then -magnitude else magnitude

/-- The nearest double-precision value; beyond the range it is infinite. -/
def Literal.toFloat (l : Literal) : Float :=
  let size := (digitCount l.mantissa : Int) + l.exponent
  let magnitude : Float :=
    if l.mantissa == 0 || size < -400 then 0
    else if size > 400 then Float.ofBits 0x7FF0000000000000
    else if l.exponent ≥ 0 then Float.ofScientific l.mantissa false l.exponent.toNat
    else Float.ofScientific l.mantissa true (-l.exponent).toNat
  if l.negative then -magnitude else magnitude

end Acquisition.Decimal
