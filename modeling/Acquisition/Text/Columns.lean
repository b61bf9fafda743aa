/-! Text laid out in columns by elastic tabs: the cells of a column block are padded with blanks to
the widest plus the padding; a line's last cell stays as it is. -/
namespace Acquisition.Text

/-- How columns are laid out. -/
structure Columns where
  /-- The least width of a column, padding included. -/
  minWidth : Nat
  /-- Blanks added after the widest cell of a column block. -/
  padding : Nat

namespace Columns

def hasCell (column : Nat) (cells : List String) : Bool := column + 1 < cells.length

/-- A line with its tab-ended cells padded to the widths of their columns. -/
def render (widths : List Nat) (cells : List String) : String :=
  String.join (cells.zipIdx.map fun (cell, j) =>
    match widths[j]? with
    | some w => if j + 1 < cells.length then cell.pushn ' ' (w - cell.length) else cell
    | none => cell)

def blockWidth (c : Columns) (column : Nat) (block : List (List String)) : Nat :=
  block.foldl (fun w cells => max w ((cells.getD column "").length + c.padding)) c.minWidth

/-- Lays out lines whose columns before `widths.length` are fixed, splitting
them into blocks by the next column; `fuel` bounds the number of columns. -/
def layout (c : Columns) : Nat → List Nat → List (List String) → List String
  | _, _, [] => []
  | 0, widths, lines => lines.map (render widths)
  | fuel + 1, widths, cells :: more =>
    let column := widths.length
    if hasCell column cells then
      let block := cells :: more.takeWhile (hasCell column)
      let rest := more.dropWhile (hasCell column)
      have : rest.length < more.length + 1 := Nat.lt_succ_of_le (List.dropWhile_suffix _).length_le
      layout c fuel (widths ++ [c.blockWidth column block]) block ++ layout c (fuel + 1) widths rest
    else render widths cells :: layout c (fuel + 1) widths more
termination_by fuel _ lines => (fuel, lines.length)

def format (c : Columns) (text : String) : String :=
  let lines := (text.splitOn "\n").map (·.splitOn "\t")
  let columns := lines.foldl (fun m cells => max m cells.length) 0
  "\n".intercalate (c.layout columns [] lines)

end Columns

end Acquisition.Text
