import Acquisition.Decimal.Shortest
/-! Writing a number from its shortest digits; a layout decides which exponents are positional and
how the exponent is written. -/
namespace Acquisition.Decimal

/-- How digits are laid out as text. -/
structure Layout where
  /-- The decimal exponents written positionally, both ends included. -/
  plainFrom : Int
  plainTo : Int
  /-- The scientific form writes at least this many exponent digits. -/
  exponentWidth : Nat
  /-- The same for negative exponents. -/
  negativeExponentWidth : Nat := exponentWidth
  nanText : String
  infinityText : String
  negativeInfinityText : String

/-- The general layout: positional for decimal exponents from -4 to 5, else
scientific with a signed exponent of at least two digits, as in `1e+06`. -/
def Layout.general : Layout where
  plainFrom := -4
  plainTo := 5
  exponentWidth := 2
  nanText := "NaN"
  infinityText := "+Inf"
  negativeInfinityText := "-Inf"

/-- The layout of numbers in JSON documents: positional for decimal exponents
from -6 to 20, else scientific with a signed exponent, `1e+21` and `1e-7`.
JSON has no text for NaN or the infinities; these fields are never used there. -/
def Layout.json : Layout where
  plainFrom := -6
  plainTo := 20
  exponentWidth := 2
  negativeExponentWidth := 1
  nanText := "NaN"
  infinityText := "+Inf"
  negativeInfinityText := "-Inf"

def digitText (ds : List Nat) : String := String.ofList (ds.map fun d => Char.ofNat (48 + d))

/-- Positional text of `0.d₁d₂… · 10^point`. -/
def positional (d : Digits) : String :=
  let n := d.digits.length
  if d.point ≤ 0 then
    let zeros := String.ofList (List.replicate (-d.point).toNat '0')
    if n == 0 then "0" else "0." ++ zeros ++ digitText d.digits
  else
    let p := d.point.toNat
    let whole := digitText (d.digits.take p) ++ String.ofList (List.replicate (p - n) '0')
    if n ≤ p then whole else whole ++ "." ++ digitText (d.digits.drop p)

/-- Scientific text `d₁.d₂…e±xx`, the exponent at least `width` digits, or
`negativeWidth` digits when it is negative. -/
def scientific (width negativeWidth : Nat) (d : Digits) : String :=
  let e := d.point - 1
  let mantissa := match d.digits with
    | [] => "0"
    | [a] => digitText [a]
    | a :: rest => digitText [a] ++ "." ++ digitText rest
  let expDigits := toString e.natAbs
  let w := if e < 0 then negativeWidth else width
  let padded := String.ofList (List.replicate (w - expDigits.length) '0') ++ expDigits
  mantissa ++ "e" ++ (if e < 0 then "-" else "+") ++ padded

/-- The text of a value given by its sign and digits. -/
def Layout.writeDigits (l : Layout) (negative : Bool) (d : Digits) : String :=
  let e := d.point - 1
  let body :=
    if d.digits.isEmpty then "0"
    else if l.plainFrom ≤ e && e ≤ l.plainTo then positional d
    else scientific l.exponentWidth l.negativeExponentWidth d
  (if negative then "-" else "") ++ body

/-- The text of a binary value of format `f` given by its bits. -/
def Layout.writeBits (l : Layout) (f : BinaryFormat) (bits : Nat) : String :=
  match f.decode bits with
  | .nan => l.nanText
  | .infinity true => l.negativeInfinityText
  | .infinity false => l.infinityText
  | .finite negative m q narrow =>
    if m == 0 then l.writeDigits negative ⟨[], 0⟩
    else l.writeDigits negative (shortest m q narrow)

end Acquisition.Decimal

def Float32.shortText (x : Float32) : String :=
  Acquisition.Decimal.Layout.general.writeBits Acquisition.Decimal.single x.toBits.toNat

def Float.shortText (x : Float) : String :=
  Acquisition.Decimal.Layout.general.writeBits Acquisition.Decimal.double x.toBits.toNat
