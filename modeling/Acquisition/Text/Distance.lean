import Acquisition.Text.Case
/-! The edit distance of two byte strings, computed a row at a time. -/
namespace Acquisition.Text

/-- The row of distances after one more byte `a` of the first string, the
`i`-th, from the row before it. -/
def nextRow (t : List UInt8) (a : UInt8) (i : Nat) (before : List Nat) : List Nat :=
  let cells := t.zip (before.zip before.tail)
  (cells.foldl (fun (row : List Nat) (b, diagonal, above) =>
    let left := row.headD 0
    (if a == b then diagonal else min (min above left) diagonal + 1) :: row) [i]).reverse

def editDistance (s t : List UInt8) : Nat :=
  let rows := (s.zip (List.range' 1 s.length)).foldl (fun row (a, i) => nextRow t a i row)
    (List.range (t.length + 1))
  rows.getLastD 0

def textDistance (s t : String) : Nat :=
  editDistance (lowerCase s).toUTF8.toList (lowerCase t).toUTF8.toList

end Acquisition.Text
