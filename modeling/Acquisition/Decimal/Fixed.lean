import Acquisition.Decimal.Shortest
/-! Decimal text with a fixed number of places: the exact value rounded half to even, the sign of a
negative value kept at zero. -/
namespace Acquisition.Decimal

def roundHalfEven (n d : Nat) : Nat :=
  let q := n / d
  let r := n % d
  if 2 * r > d || (2 * r == d && q % 2 == 1) then q + 1 else q

/-- The digits of `n` with a point before the last `places` of them. -/
def withPoint (n places : Nat) : String :=
  let ds := Nat.toDigits 10 n
  let ds := List.replicate (places + 1 - ds.length) '0' ++ ds
  let whole := String.ofList (ds.take (ds.length - places))
  if places == 0 then whole else whole ++ "." ++ String.ofList (ds.drop (ds.length - places))

/-- The fixed-point text of a value of format `f` given by its bits. -/
def fixedBits (f : BinaryFormat) (bits places : Nat) : String :=
  match f.decode bits with
  | .nan => "NaN"
  | .infinity negative => if negative then "-Inf" else "+Inf"
  | .finite negative m q _ =>
    let scaled :=
      if q ≥ 0 then m * Nat.pow 2 q.toNat * Nat.pow 10 places
      else roundHalfEven (m * Nat.pow 10 places) (Nat.pow 2 (-q).toNat)
    (if negative then "-" else "") ++ withPoint scaled places

def padLeft (width : Nat) (s : String) : String :=
  String.ofList (List.replicate (width - s.length) ' ') ++ s

end Acquisition.Decimal

def Float.fixedText (x : Float) (places : Nat) : String :=
  Acquisition.Decimal.fixedBits Acquisition.Decimal.double x.toBits.toNat places
