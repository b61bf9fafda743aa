import Acquisition.Text.Graphic
import Acquisition.Text.Utf8
/-! Quoted text as error messages show it: between double quotes, a quote and a backslash escaped,
graphic characters as they are, every other character as a short escape or in hexadecimal. -/
namespace Acquisition.Text

def hexPadded (width n : Nat) : String :=
  let digits := Nat.toDigits 16 n
  String.ofList (List.replicate (width - digits.length) '0' ++ digits)

/-- The escaped form of a character that is not written as itself. -/
def escapeCode (c : Char) : String :=
  match c with
  | '\x07' => "\\a"
  | '\x08' => "\\b"
  | '\x0c' => "\\f"
  | '\n' => "\\n"
  | '\r' => "\\r"
  | '\t' => "\\t"
  | '\x0b' => "\\v"
  | c =>
    if c.toNat < 32 || c.toNat == 127 then "\\x" ++ hexPadded 2 c.toNat
    else if c.toNat < 0x10000 then "\\u" ++ hexPadded 4 c.toNat
    else "\\U" ++ hexPadded 8 c.toNat

def quoteChar (delimiter c : Char) : String :=
  if c == delimiter || c == '\\' then "\\" ++ c.toString
  else if isGraphic c then c.toString
  else escapeCode c

def quote (s : String) : String :=
  "\"" ++ s.foldl (fun acc c => acc ++ quoteChar '"' c) "" ++ "\""

/-- Bytes between double quotes: each character they encode written as
`quote` writes it, and each byte that encodes none as its hexadecimal escape. -/
def quoteBytes (bs : List UInt8) : String :=
  "\"" ++ String.join ((pieces bs).map fun
    | .char c => quoteChar '"' c
    | .stray b => "\\x" ++ hexPadded 2 b.toNat) ++ "\""

end Acquisition.Text
