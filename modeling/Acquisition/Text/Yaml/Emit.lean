import Acquisition.Text.Yaml.Resolve
import Acquisition.Text.Yaml.Scanner.Basic
/-! Writing values as block-style YAML indented by four columns: a string plain when it reads back
as itself, quoted when it would read as another scalar, a literal block when it holds a line feed.
-/
namespace Acquisition.Text.Yaml

/-- A value to be written. `plain` is text that is always written as it is
(numbers, booleans, durations); `text` is a string, quoted as it needs. -/
inductive Value where
  | plain (text : String)
  | text (s : String)
  | sequence (items : List Value)
  | mapping (entries : List (String × Value))

inductive Style where
  | plain
  | singleQuoted
  | doubleQuoted
  | literal
  deriving BEq

def isWritable (c : Char) : Bool :=
  let n := c.toNat
  n == 0xA || (0x20 ≤ n && n ≤ 0x7E) || (0xA0 ≤ n && n ≤ 0xD7FF) ||
    (0xE000 ≤ n && n ≤ 0xFFFD && n != 0xFEFF)

def isBreakOrEnd (c : Option Char) : Bool :=
  match c with
  | none => true
  | some c => isBlankChar c || isBreakChar c || c == Char.ofNat 0

/-- What the characters of a scalar allow. -/
structure Allowed where
  multiline : Bool
  flowPlain : Bool
  blockPlain : Bool
  singleQuoted : Bool
  block : Bool

/-- Flags gathered over the characters of a scalar. -/
structure Marks where
  blockIndicators : Bool := false
  flowIndicators : Bool := false
  lineBreaks : Bool := false
  special : Bool := false
  tabs : Bool := false
  leadingSpace : Bool := false
  leadingBreak : Bool := false
  trailingSpace : Bool := false
  trailingBreak : Bool := false
  breakSpace : Bool := false
  spaceBreak : Bool := false
  precededByWhitespace : Bool := true
  previousSpace : Bool := false
  previousBreak : Bool := false

/-- The marks of the character at position `i`, followed by `next`. -/
def Marks.step (m : Marks) (i : Nat) (c : Char) (next : Option Char) : Marks :=
  let followedByWhitespace := match next with
    | none => true
    | some d => isBlankChar d
  let last := next.isNone
  let m :=
    if i == 0 then
      if ['#', ',', '[', ']', '\x7b', '\x7d', '&', '*', '!', '|', '>', '\'', '"', '%', '@', '\x60'].contains c then { m with flowIndicators := true, blockIndicators := true }
      else if c == '?' || c == ':' then
        { m with flowIndicators := true, blockIndicators := m.blockIndicators || followedByWhitespace }
      else if c == '-' && followedByWhitespace then { m with flowIndicators := true, blockIndicators := true }
      else m
    else
      if [',', '?', '[', ']', '\x7b', '\x7d'].contains c then { m with flowIndicators := true }
      else if c == ':' then
        { m with flowIndicators := true, blockIndicators := m.blockIndicators || followedByWhitespace }
      else if c == '#' && m.precededByWhitespace then
        { m with flowIndicators := true, blockIndicators := true }
      else m
  let m := if c == '\t' then { m with tabs := true }
    else if !isWritable c then { m with special := true } else m
  let m :=
    if c == ' ' then
      { m with leadingSpace := m.leadingSpace || i == 0, trailingSpace := m.trailingSpace || last,
               breakSpace := m.breakSpace || m.previousBreak, previousSpace := true, previousBreak := false }
    else if isBreakChar c then
      { m with lineBreaks := true, leadingBreak := m.leadingBreak || i == 0,
               trailingBreak := m.trailingBreak || last, spaceBreak := m.spaceBreak || m.previousSpace,
               previousSpace := false, previousBreak := true }
    else { m with previousSpace := false, previousBreak := false }
  { m with precededByWhitespace := isBreakOrEnd (some c) }

/-- The marks of a whole scalar. -/
def marksOf (cs : List Char) : Marks :=
  let rec go (m : Marks) (i : Nat) : List Char → Marks
    | [] => m
    | c :: rest => go (m.step i c rest.head?) (i + 1) rest
  let start : Marks := match cs with
    | '-' :: '-' :: '-' :: _ | '.' :: '.' :: '.' :: _ => { blockIndicators := true, flowIndicators := true }
    | _ => {}
  go start 0 cs

/-- The styles the text of a scalar allows. -/
def allowed (s : String) : Allowed :=
  if s.isEmpty then ⟨false, false, true, true, false⟩
  else
    let m := marksOf s.toList
    let edges := m.leadingSpace || m.leadingBreak || m.trailingSpace || m.trailingBreak
    let mixed := m.spaceBreak || m.tabs || m.special
    { multiline := m.lineBreaks
      flowPlain := !(edges || m.breakSpace || mixed || m.lineBreaks || m.flowIndicators)
      blockPlain := !(edges || m.breakSpace || mixed || m.lineBreaks || m.blockIndicators)
      singleQuoted := !(m.breakSpace || mixed)
      block := !(m.trailingSpace || m.spaceBreak || m.special) }

/-- Whether a text has the sexagesimal shape `1:30` or `-2_0:05:59.5` of old YAML floats. -/
def isSexagesimal (s : String) : Bool :=
  let cs := s.toList
  let cs := match cs with
    | '+' :: rest | '-' :: rest => rest
    | _ => cs
  match cs with
  | d :: rest =>
    if !d.isDigit then false else
    let rest := rest.dropWhile fun c => c.isDigit || c == '_'
    -- one or more groups `:` followed by one or two digits, the first of them at most 5
    let rec groups (seen : Bool) : Nat → List Char → Bool
      | 0, _ => false
      | fuel + 1, ':' :: a :: b :: more =>
        if a.isDigit && b.isDigit && a ≤ '5' then groups true fuel more
        else if a.isDigit then groups true fuel (b :: more)
        else false
      | _ + 1, [':', a] => a.isDigit
      | _ + 1, '.' :: more => seen && more.all fun c => c.isDigit || c == '_'
      | _ + 1, [] => seen
      | _ + 1, _ => false
    groups false (rest.length + 1) rest
  | [] => false

def isOldBoolean (s : String) : Bool :=
  ["y", "Y", "yes", "Yes", "YES", "on", "On", "ON",
   "n", "N", "no", "No", "NO", "off", "Off", "OFF"].contains s

def requestedStyle (s : String) : Style :=
  if s.contains '\n' then .literal
  else if (resolvePlain s).1 == "!!str" && !isSexagesimal s && !isOldBoolean s then .plain
  else .doubleQuoted

/-- The style a scalar is written in, in block context, as a key or not. -/
def chooseStyle (requested : Style) (s : String) (key : Bool) : Style :=
  let a := allowed s
  let style := if key && a.multiline then .doubleQuoted else requested
  let style :=
    if style == .plain && (!a.blockPlain || (s.isEmpty && key)) then .singleQuoted else style
  let style := if style == .singleQuoted && !a.singleQuoted then .doubleQuoted else style
  if style == .literal && (!a.block || key) then .doubleQuoted else style

/-- The state of the text being written. -/
structure Pen where
  out : String := ""
  column : Nat := 0
  whitespace : Bool := true
  indention : Bool := true

namespace Pen

def put (p : Pen) (c : Char) : Pen := { p with out := p.out.push c, column := p.column + 1 }

def newline (p : Pen) : Pen := { p with out := p.out.push '\n', column := 0, indention := true }

/-- Writes a line break character: a line feed starts a new line, another
break is kept as it is and also ends the line. -/
def lineBreak (p : Pen) (c : Char) : Pen :=
  if c == '\n' then p.newline
  else { p with out := p.out.push c, column := 0, indention := true }

def indentTo (p : Pen) (indent : Nat) : Pen :=
  let p := if !p.indention || p.column > indent || (p.column == indent && !p.whitespace) then p.newline else p
  let p := (List.replicate (indent - p.column) ' ').foldl put p
  { p with whitespace := true }

def indicator (p : Pen) (s : String) (needWhitespace isWhitespace isIndention : Bool) : Pen :=
  let p := if needWhitespace && !p.whitespace then p.put ' ' else p
  let p := s.foldl put p
  { p with whitespace := isWhitespace, indention := p.indention && isIndention }

def hexDigit (n : Nat) : Char := if n < 10 then Char.ofNat (48 + n) else Char.ofNat (55 + n)

/-- The escape of a character in double quotes, without its backslash. -/
def escapeOf (c : Char) : String :=
  match c.toNat with
  | 0x00 => "0" | 0x07 => "a" | 0x08 => "b" | 0x09 => "t" | 0x0A => "n" | 0x0B => "v"
  | 0x0C => "f" | 0x0D => "r" | 0x1B => "e" | 0x22 => "\"" | 0x5C => "\\" | 0x85 => "N"
  | 0xA0 => "_" | 0x2028 => "L" | 0x2029 => "P"
  | n =>
    let (mark, width) := if n ≤ 0xFF then ('x', 2) else if n ≤ 0xFFFF then ('u', 4) else ('U', 8)
    String.ofList (mark :: (List.range width).reverse.map fun k => hexDigit (n / Nat.pow 16 k % 16))

def plainScalar (p : Pen) (indent : Nat) (s : String) : Pen :=
  let p := if !s.isEmpty && !p.whitespace then p.put ' ' else p
  let (p, _) := s.foldl (fun (p, breaks) c =>
    if c == ' ' then (p.put c, breaks)
    else if isBreakChar c then
      let p := if !breaks && c == '\n' then p.newline else p
      (p.lineBreak c, true)
    else
      let p := if breaks then p.indentTo indent else p
      ({ p.put c with indention := false }, false)) (p, false)
  { p with whitespace := false, indention := false }

def singleQuoted (p : Pen) (indent : Nat) (s : String) : Pen :=
  let p := p.indicator "'" true false false
  let (p, _) := s.foldl (fun (p, breaks) c =>
    if c == ' ' then (p.put c, breaks)
    else if isBreakChar c then
      let p := if !breaks && c == '\n' then p.newline else p
      (p.lineBreak c, true)
    else
      let p := if breaks then p.indentTo indent else p
      let p := if c == '\'' then p.put '\'' else p
      ({ p.put c with indention := false }, false)) (p, false)
  let p := p.indicator "'" false false false
  { p with whitespace := false, indention := false }

def doubleQuoted (p : Pen) (s : String) : Pen :=
  let p := p.indicator "\"" true false false
  let p := s.foldl (fun p c =>
    if !isWritable c || c == Char.ofNat 0xFEFF || isBreakChar c || c == '"' || c == '\\' then
      (escapeOf c).foldl put (p.put '\\')
    else p.put c) p
  let p := p.indicator "\"" false false false
  { p with whitespace := false, indention := false }

/-- The header hints of a block scalar: an indentation digit when the text
starts with a space or a break, and how its final line breaks are kept. -/
def blockHints (s : String) : String :=
  let cs := s.toList
  let indentHint := match cs.head? with
    | some c => if c == ' ' || isBreakChar c then "4" else ""
    | none => ""
  let chomp := match cs.reverse with
    | [] => "-"
    | last :: before =>
      if !isBreakChar last then "-"
      else match before with
        | [] => "+"
        | prev :: _ => if isBreakChar prev then "+" else ""
  indentHint ++ chomp

def literal (p : Pen) (indent : Nat) (s : String) : Pen :=
  let p := p.indicator "|" true false false
  let p := p.indicator (blockHints s) false false false
  let p := { p with whitespace := true }
  let (p, _) := s.foldl (fun (p, breaks) c =>
    if isBreakChar c then (p.lineBreak c, true)
    else
      let p := if breaks then p.indentTo indent else p
      ({ p.put c with indention := false }, false)) (p, true)
  p

/-- Writes a scalar whose continuation lines, if any, are indented to `indent`. -/
def scalar (p : Pen) (indent : Nat) (requested : Style) (s : String) (key : Bool) : Pen :=
  match chooseStyle requested s key with
  | .plain => p.plainScalar indent s
  | .singleQuoted => p.singleQuoted indent s
  | .doubleQuoted => p.doubleQuoted s
  | .literal => p.literal indent s

end Pen

/-- The indentation of what is nested in a node at `indent`; an item of a
sequence is nested past its dash. -/
def nestedIndent (indent : Nat) (inSequence : Bool) : Nat :=
  if inSequence then indent + 2 else 4 * ((indent + 4) / 4)

mutual

/-- Writes a value that follows a key or a dash; the node sits at `indent`. -/
def Value.writeAt (p : Pen) (indent : Nat) (inSequence : Bool) : Value → Pen
  | .plain text => p.scalar (nestedIndent indent inSequence) .plain text false
  | .text s => p.scalar (nestedIndent indent inSequence) (requestedStyle s) s false
  | .sequence [] => (p.indicator "[" true true false).indicator "]" false false false
  | .sequence items => writeItems p (nestedIndent indent inSequence) items
  | .mapping [] => (p.indicator "\x7b" true true false).indicator "\x7d" false false false
  | .mapping entries => writeEntries p (nestedIndent indent inSequence) entries

def writeItems (p : Pen) (indent : Nat) : List Value → Pen
  | [] => p
  | v :: rest =>
    let p := (p.indentTo indent).indicator "-" true false true
    writeItems (Value.writeAt p indent true v) indent rest

def writeEntries (p : Pen) (indent : Nat) : List (String × Value) → Pen
  | [] => p
  | (k, v) :: rest =>
    let p := (p.indentTo indent).scalar indent (requestedStyle k) k true
    let p := p.indicator ":" false false false
    writeEntries (Value.writeAt p indent false v) indent rest

end

def Value.document (entries : List (String × Value)) : String :=
  let p := writeEntries {} 0 entries
  (p.indentTo 0).out

end Acquisition.Text.Yaml
