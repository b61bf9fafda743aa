/-! The sine of a double by octant reduction and minimax polynomials, so that the test signals are
the same on every platform. -/
namespace Acquisition.Wave

def quarterPiHigh : Float := 7.85398125648498535156e-1
def quarterPiMiddle : Float := 3.77489470793079817668e-8
def quarterPiLow : Float := 2.69515142907905952645e-15

def octantsPerRadian : Float := 1.2732395447351628

def reductionLimit : Float := 536870912

def sineCoefficients : List Float :=
  [1.58962301576546568060e-10, -2.50507477628578072866e-8, 2.75573136213857245213e-6,
    -1.98412698295895385996e-4, 8.33333333332211858878e-3, -1.66666666666666307295e-1]

def cosineCoefficients : List Float :=
  [-1.13585365213876817300e-11, 2.08757008419747316778e-9, -2.75573141792967388112e-7,
    2.48015872888517045348e-5, -1.38888888888730564116e-3, 4.16666666666665929218e-2]

def horner (z : Float) : List Float → Float
  | [] => 0
  | c :: cs => cs.foldl (fun acc d => acc * z + d) c

def sineNear (z : Float) : Float :=
  let zz := z * z
  z + z * zz * horner zz sineCoefficients

def cosineNear (z : Float) : Float :=
  let zz := z * z
  1.0 - 0.5 * zz + zz * zz * horner zz cosineCoefficients

/-- The sine of `x`; a zero or a NaN is its own sine and an infinity has none. -/
def sine (x : Float) : Float :=
  if x == 0 || x.isNaN then x
  else if x.isInf then 0 / 0
  else
    let negative := x < 0
    let a := if negative then -x else x
    if a ≥ reductionLimit then Float.sin x
    else
      let whole := (a * octantsPerRadian).toUInt64
      -- the nearest even octant maps the zeros of the sine to the origin
      let even := if whole % 2 == 1 then whole + 1 else whole
      let y := even.toFloat
      let octant := even % 8
      let z := ((a - y * quarterPiHigh) - y * quarterPiMiddle) - y * quarterPiLow
      let (negative, octant) := if octant > 3 then (!negative, octant - 4) else (negative, octant)
      let value := if octant == 1 || octant == 2 then cosineNear z else sineNear z
      if negative then -value else value

end Acquisition.Wave
