import Acquisition.Text.Yaml.Token
/-! The state of a YAML scanner and its moves over the input's characters, read in chunks of 512
bytes that are refused whole when they hold a control character. -/
namespace Acquisition.Text.Yaml

def lineSeparator : Char := Char.ofNat 0x2028
def paragraphSeparator : Char := Char.ofNat 0x2029
def byteOrderMark : Char := Char.ofNat 0xFEFF

def endChar : Char := Char.ofNat 0

def isBreakChar (c : Char) : Bool :=
  c == '\r' || c == '\n' || c == Char.ofNat 0x85 || c == lineSeparator || c == paragraphSeparator

def isBlankChar (c : Char) : Bool := c == ' ' || c == '\t'

def isBreakzChar (c : Char) : Bool := isBreakChar c || c == endChar

def isBlankzChar (c : Char) : Bool := isBlankChar c || isBreakzChar c

/-- Letters and digits of ASCII, `_` and `-`: the characters of anchor names,
tag handles and directive names. -/
def isWordChar (c : Char) : Bool := c.isAlphanum || c == '_' || c == '-'

def isHexChar (c : Char) : Bool := c.isDigit || ('a' ≤ c && c ≤ 'f') || ('A' ≤ c && c ≤ 'F')

def hexValue (c : Char) : Nat :=
  if c.isDigit then c.toNat - 48
  else if 'a' ≤ c && c ≤ 'f' then c.toNat - 87
  else c.toNat - 55

def isStreamChar (c : Char) : Bool :=
  let n := c.toNat
  n == 0x9 || n == 0xA || n == 0xD || (0x20 ≤ n && n ≤ 0x7E) || n == 0x85 ||
    (0xA0 ≤ n && n ≤ 0xD7FF) || (0xE000 ≤ n && n ≤ 0xFFFD) || 0x10000 ≤ n

/-- The number of characters decoded before the chunk that holds the first
character a stream may not hold, `none` when there is no such character. The
input is read 512 bytes at a time, after `skipped` bytes of a byte order mark
in the first read; a character cut by the end of a read is carried over to the
next, which then reads that many bytes fewer. -/
def readableLength (cs : List Char) (skipped : Nat) : Option Nat :=
  let ends := (cs.foldl (fun (acc : List Nat × Nat) c =>
    let e := acc.2 + c.utf8Size
    (e :: acc.1, e)) ([], skipped)).1.reverse
  let total := ends.getLast?.getD skipped
  match (cs.zip ends).find? (fun (c, _) => !isStreamChar c) with
  | none => none
  | some (_, bad) =>
    let boundary (r : Nat) : Nat := (ends.filter (· ≤ r)).getLast?.getD skipped
    let rec before (previous read : Nat) : Nat → Nat
      | 0 => previous
      | fuel + 1 =>
        if bad ≤ read then previous
        else before read (min total (read + 512 - (read - boundary read))) fuel
    let decoded := before 0 (min 512 total) (total + 1)
    some (ends.countP (· ≤ decoded))

/-- A key that the token at `tokenNumber` may start: a token that could be a
key is only known to be one when the `:` after it comes. A required key
stands where a block mapping needs one. -/
structure SimpleKey where
  possible : Bool := false
  required : Bool := false
  tokenNumber : Nat := 0
  mark : Mark := {}
  deriving Inhabited

structure Scanner where
  input : Array Char
  /-- Characters that can be read before the reader refuses a chunk. -/
  readable : Option Nat := none
  mark : Mark := {}
  /-- Line breaks passed since the last character that is not a blank. -/
  newlines : Nat := 0
  tokens : Array Token := #[]
  /-- The number of tokens handed on; the next one is `tokens[head]`. -/
  head : Nat := 0
  /-- Whether the token at `head` has been made ready since it was last handed on. -/
  available : Bool := false
  started : Bool := false
  /-- Whether the stream's end has been handed on. -/
  ended : Bool := false
  indent : Int := -1
  indents : List Int := []
  simpleKeyAllowed : Bool := false
  /-- The possible key of each flow level, the block level first. -/
  simpleKeys : Array SimpleKey := #[]
  /-- The flow level whose possible key each token number starts. -/
  keyLevels : List (Nat × Nat) := []
  flowLevel : Nat := 0

namespace Scanner

/-- A scanner at the start of a text; a leading byte order mark is dropped. -/
def ofText (text : String) : Scanner :=
  let cs := text.toList
  let (cs, skipped) := match cs with
    | c :: rest => if c == byteOrderMark then (rest, 3) else (cs, 0)
    | [] => (cs, 0)
  { input := cs.toArray, readable := readableLength cs skipped }

def ch (s : Scanner) (k : Nat) : Char := s.input.getD (s.mark.index + k) endChar

def problemAt (s : Scanner) (context : Mark) (problem : String) : Problem :=
  { stage := .scanning, problem, problemMark := s.mark, contextMark := context }

def readerProblem : Problem := { stage := .reading, problem := "control characters are not allowed" }

def ensure (s : Scanner) (n : Nat) : Except Problem Scanner :=
  match s.readable with
  | some limit => if s.mark.index + n > limit then .error readerProblem else .ok s
  | none => .ok s

def skip (s : Scanner) : Scanner :=
  { s with mark := { s.mark with index := s.mark.index + 1, column := s.mark.column + 1 },
           newlines := if isBlankChar (s.ch 0) then s.newlines else 0 }

def skipN (s : Scanner) : Nat → Scanner
  | 0 => s
  | n + 1 => s.skip.skipN n

/-- Moves past one line break; a carriage return and a line feed count as one. -/
def skipLine (s : Scanner) : Scanner :=
  if s.ch 0 == '\r' && s.ch 1 == '\n' then
    { s with mark := { index := s.mark.index + 2, line := s.mark.line + 1, column := 0 },
             newlines := s.newlines + 1 }
  else if isBreakChar (s.ch 0) then
    { s with mark := { index := s.mark.index + 1, line := s.mark.line + 1, column := 0 },
             newlines := s.newlines + 1 }
  else s

/-- Moves past one line break, with the text it stands for in a scalar: a line
feed for a carriage return, a line feed or a next-line character, and the
character itself for a line or paragraph separator. -/
def readLine (s : Scanner) : Scanner × String :=
  let c := s.ch 0
  let next (width : Nat) : Scanner :=
    { s with mark := { index := s.mark.index + width, line := s.mark.line + 1, column := 0 } }
  if c == '\r' && s.ch 1 == '\n' then (next 2, "\n")
  else if c == '\r' || c == '\n' || c == Char.ofNat 0x85 then (next 1, "\n")
  else if c == lineSeparator || c == paragraphSeparator then (next 1, c.toString)
  else (s, "")

def push (s : Scanner) (t : Token) : Scanner := { s with tokens := s.tokens.push t }

def insertAt (s : Scanner) (n : Nat) (t : Token) : Scanner :=
  { s with tokens := s.tokens.insertIdxIfInBounds n t }

def atDocumentMarker (s : Scanner) (c : Char) : Bool :=
  s.mark.column == 0 && s.ch 0 == c && s.ch 1 == c && s.ch 2 == c && isBlankzChar (s.ch 3)

def atDocumentIndicator (s : Scanner) : Bool := s.atDocumentMarker '-' || s.atDocumentMarker '.'

def skipBlanks (s : Scanner) : Nat → Except Problem Scanner
  | 0 => pure s
  | n + 1 => do
    if isBlankChar (s.ch 0) then skipBlanks (← s.skip.ensure 1) n else pure s

/-- The characters up to the end of the line. -/
def restOfLine (s : Scanner) (text : String) : Nat → Except Problem (Scanner × String)
  | 0 => pure (s, text)
  | n + 1 => do
    if isBreakzChar (s.ch 0) then return (s, text)
    let text := text.push (s.ch 0)
    let s ← s.skip.ensure 1
    restOfLine s text n

end Scanner

end Acquisition.Text.Yaml
