import Acquisition.Text.Yaml.Scanner.Basic
/-! Reading the scalars of a YAML stream: plain, quoted, and literal or folded blocks, with their
line folding and escapes. -/
namespace Acquisition.Text.Yaml

/-- The text between two lines of a flow or plain scalar, from the first line
break and the breaks of the empty lines after it. -/
def foldLines (leading trailing : String) : String :=
  if leading.startsWith "\n" then (if trailing.isEmpty then " " else trailing) else leading ++ trailing

/-- A scalar being read: its text, and what was read after its last character
and is not written yet, blanks or line breaks. -/
structure Pending where
  text : String := ""
  whitespaces : String := ""
  leadingBreak : String := ""
  trailingBreaks : String := ""
  /-- Whether a line break was read after the last character. -/
  leadingBlanks : Bool := false

/-- Writes what was read after the last character, before the next one. -/
def Pending.flush (p : Pending) : Pending :=
  if p.leadingBlanks then
    { p with text := p.text ++ foldLines p.leadingBreak p.trailingBreaks, leadingBreak := "",
             trailingBreaks := "", leadingBlanks := false }
  else { p with text := p.text ++ p.whitespaces, whitespaces := "" }

def Pending.blank (p : Pending) (c : Char) : Pending :=
  if p.leadingBlanks then p else { p with whitespaces := p.whitespaces.push c }

def Pending.lineBreak (p : Pending) (b : String) : Pending :=
  if p.leadingBlanks then { p with trailingBreaks := p.trailingBreaks ++ b }
  else { p with whitespaces := "", leadingBreak := b, leadingBlanks := true }

namespace Scanner

def endsPlain (s : Scanner) : Bool :=
  let c := s.ch 0
  (c == ':' && isBlankzChar (s.ch 1)) ||
    (s.flowLevel > 0 && (c == ',' || c == '?' || c == '[' || c == ']' || c == '\x7b' || c == '\x7d'))

/-- The characters of a plain scalar up to a blank, a line break or its end;
`stop` is the place after its last character. -/
def plainChars (s : Scanner) (p : Pending) (stop : Mark) : Nat → Except Problem (Scanner × Pending × Mark)
  | 0 => pure (s, p, stop)
  | n + 1 => do
    if isBlankzChar (s.ch 0) || s.endsPlain then return (s, p, stop)
    let p := if p.leadingBlanks || !p.whitespaces.isEmpty then p.flush else p
    let p := { p with text := p.text.push (s.ch 0) }
    let s := s.skip
    let s ← s.ensure 2
    plainChars s p s.mark n

/-- The blanks and line breaks after a stretch of a plain scalar. A tab in the
indentation of a continuation line is refused. -/
def plainBlanks (s : Scanner) (p : Pending) (indent : Int) (start : Mark) :
    Nat → Except Problem (Scanner × Pending)
  | 0 => pure (s, p)
  | n + 1 => do
    let c := s.ch 0
    if isBlankChar c then
      if p.leadingBlanks && (s.mark.column : Int) < indent && c == '\t' then
        throw (s.problemAt start "found a tab character that violates indentation")
      let s ← s.skip.ensure 1
      plainBlanks s (p.blank c) indent start n
    else if isBreakChar c then
      let s ← s.ensure 2
      let (s, b) := s.readLine
      let s ← s.ensure 1
      plainBlanks s (p.lineBreak b) indent start n
    else pure (s, p)

/-- The stretches of a plain scalar and the gaps between them. -/
def plainStretches (s : Scanner) (p : Pending) (stop : Mark) (indent : Int) (start : Mark) :
    Nat → Except Problem (Scanner × Pending × Mark)
  | 0 => pure (s, p, stop)
  | n + 1 => do
    let s ← s.ensure 4
    if s.atDocumentIndicator || s.ch 0 == '#' then return (s, p, stop)
    let (s, p, stop) ← plainChars s p stop n
    if !(isBlankChar (s.ch 0) || isBreakChar (s.ch 0)) then return (s, p, stop)
    let s ← s.ensure 1
    let (s, p) ← plainBlanks s p indent start n
    if s.flowLevel == 0 && (s.mark.column : Int) < indent then return (s, p, stop)
    plainStretches s p stop indent start n

/-- A plain scalar. A key may follow it on the next line. -/
def scanPlain (s : Scanner) (fuel : Nat) : Except Problem (Scanner × Token) := do
  let start := s.mark
  let (s, p, stop) ← plainStretches s {} start (s.indent + 1) start fuel
  let s := if p.leadingBlanks then { s with simpleKeyAllowed := true } else s
  pure (s, ⟨.scalar p.text .plain, start, stop⟩)

/-- The character a one-letter escape of a double-quoted scalar stands for. -/
def escapeChar : Char → Option Char
  | '0' => some (Char.ofNat 0)
  | 'a' => some (Char.ofNat 7)
  | 'b' => some (Char.ofNat 8)
  | 't' => some '\t'
  | '\t' => some '\t'
  | 'n' => some '\n'
  | 'v' => some (Char.ofNat 11)
  | 'f' => some (Char.ofNat 12)
  | 'r' => some '\r'
  | 'e' => some (Char.ofNat 27)
  | ' ' => some ' '
  | '"' => some '"'
  | '\'' => some '\''
  | '\\' => some '\\'
  | 'N' => some (Char.ofNat 0x85)
  | '_' => some (Char.ofNat 0xA0)
  | 'L' => some lineSeparator
  | 'P' => some paragraphSeparator
  | _ => none

/-- The number of hexadecimal digits after an escape that gives a code point. -/
def codeWidth : Char → Nat
  | 'x' => 2
  | 'u' => 4
  | 'U' => 8
  | _ => 0

def hexAhead (s : Scanner) (n : Nat) : Option Nat :=
  (List.range n).foldlM (fun v k => if isHexChar (s.ch k) then some (v * 16 + hexValue (s.ch k)) else none) 0

/-- An escape sequence of a double-quoted scalar, its backslash ahead. -/
def escape (s : Scanner) (start : Mark) (text : String) : Except Problem (Scanner × String) := do
  let e := s.ch 1
  match escapeChar e with
  | some c => pure (s.skipN 2, text.push c)
  | none =>
    let width := codeWidth e
    if width == 0 then throw (s.problemAt start "found unknown escape character")
    let s := s.skipN 2
    let s ← s.ensure width
    match s.hexAhead width with
    | none => throw (s.problemAt start "did not find expected hexdecimal number")
    | some v =>
      if (0xD800 ≤ v && v ≤ 0xDFFF) || v > 0x10FFFF then
        throw (s.problemAt start "found invalid Unicode character escape code")
      pure (s.skipN width, text.push (Char.ofNat v))

/-- The characters of a quoted scalar up to a blank, a line break or its
closing quote, and whether an escaped line break ended them. -/
def quotedChars (s : Scanner) (single : Bool) (start : Mark) (text : String) :
    Nat → Except Problem (Scanner × String × Bool)
  | 0 => pure (s, text, false)
  | n + 1 => do
    let c := s.ch 0
    if isBlankzChar c then return (s, text, false)
    if single && c == '\'' && s.ch 1 == '\'' then
      let s ← s.skipN 2 |>.ensure 2
      return (← quotedChars s single start (text.push '\'') n)
    if (single && c == '\'') || (!single && c == '"') then return (s, text, false)
    if !single && c == '\\' && isBreakChar (s.ch 1) then
      let s ← s.ensure 3
      return (s.skip.skipLine, text, true)
    let (s, text) ← if !single && c == '\\' then escape s start text else pure (s.skip, text.push c)
    let s ← s.ensure 2
    quotedChars s single start text n

/-- The blanks and line breaks inside a quoted scalar. -/
def quotedBlanks (s : Scanner) (p : Pending) : Nat → Except Problem (Scanner × Pending)
  | 0 => pure (s, p)
  | n + 1 => do
    let c := s.ch 0
    if isBlankChar c then
      let s ← s.skip.ensure 1
      quotedBlanks s (p.blank c) n
    else if isBreakChar c then
      let s ← s.ensure 2
      let (s, b) := s.readLine
      let s ← s.ensure 1
      quotedBlanks s (p.lineBreak b) n
    else pure (s, p)

/-- The rest of a quoted scalar, up to its closing quote. -/
def quotedLines (s : Scanner) (single : Bool) (start : Mark) (text : String) :
    Nat → Except Problem (Scanner × String)
  | 0 => pure (s, text)
  | n + 1 => do
    let s ← s.ensure 4
    if s.atDocumentIndicator then throw (s.problemAt start "found unexpected document indicator")
    if s.ch 0 == endChar then throw (s.problemAt start "found unexpected end of stream")
    let (s, text, escapedBreak) ← quotedChars s single start text n
    let s ← s.ensure 1
    if (single && s.ch 0 == '\'') || (!single && s.ch 0 == '"') then return (s, text)
    let (s, p) ← quotedBlanks s { text, leadingBlanks := escapedBreak } n
    let text := if p.leadingBlanks then p.text ++ foldLines p.leadingBreak p.trailingBreaks
      else p.text ++ p.whitespaces
    quotedLines s single start text n

/-- A single- or double-quoted scalar. -/
def scanQuoted (s : Scanner) (single : Bool) (fuel : Nat) : Except Problem (Scanner × Token) := do
  let start := s.mark
  let (s, text) ← quotedLines s.skip single start "" fuel
  let s := s.skip
  pure (s, ⟨.scalar text (if single then .singleQuoted else .doubleQuoted), start, s.mark⟩)

/-- Passes spaces of indentation, moving no further than column `indent` when it is known. -/
def indentSpaces (s : Scanner) (indent : Nat) : Nat → Except Problem Scanner
  | 0 => pure s
  | n + 1 => do
    if (indent == 0 || s.mark.column < indent) && s.ch 0 == ' ' then
      let s ← s.skip.ensure 1
      indentSpaces s indent n
    else pure s

/-- Passes the indentation and the empty lines before a line of a block
scalar, collecting their line breaks. An unknown indentation (zero) is fixed
from the deepest of these lines, and is at least one past the enclosing
block's. -/
def blockBreaks (s : Scanner) (indent : Nat) (start : Mark) (breaks : String) (deepest : Nat) :
    Nat → Except Problem (Scanner × Nat × String)
  | 0 => pure (s, indent, breaks)
  | n + 1 => do
    let s ← s.ensure 1
    let s ← s.indentSpaces indent n
    let deepest := max deepest s.mark.column
    if (indent == 0 || s.mark.column < indent) && s.ch 0 == '\t' then
      throw (s.problemAt start "found a tab character where an indentation space is expected")
    if isBreakChar (s.ch 0) then
      let s ← s.ensure 2
      let (s, b) := s.readLine
      blockBreaks s indent start (breaks ++ b) deepest n
    else
      let indent := if indent == 0 then max 1 (max (deepest : Int) (s.indent + 1)).toNat else indent
      pure (s, indent, breaks)

/-- The lines of a block scalar at its indentation. `leading` is the break
that ended the last line and `trailing` the breaks of the empty lines after
it. A folded scalar joins two lines with a blank when neither of them starts
with a blank and no empty line comes between them. -/
def blockLines (s : Scanner) (literal : Bool) (indent : Nat) (start : Mark)
    (text leading trailing : String) (leadingBlank : Bool) :
    Nat → Except Problem (Scanner × String × String × String)
  | 0 => pure (s, text, leading, trailing)
  | n + 1 => do
    if !(s.mark.column == indent && s.ch 0 != endChar) then return (s, text, leading, trailing)
    let trailingBlank := isBlankChar (s.ch 0)
    let text :=
      if !literal && !leadingBlank && !trailingBlank && leading.startsWith "\n" then
        (if trailing.isEmpty then text.push ' ' else text)
      else text ++ leading
    let text := text ++ trailing
    let leadingBlank := isBlankChar (s.ch 0)
    let (s, text) ← s.restOfLine text n
    let s ← s.ensure 2
    let (s, leading) := s.readLine
    let (s, _, trailing) ← s.blockBreaks indent start "" 0 n
    blockLines s literal indent start text leading trailing leadingBlank n

def chompingAhead (s : Scanner) : Option Int :=
  if s.ch 0 == '+' then some 1 else if s.ch 0 == '-' then some (-1) else none

/-- An indentation indicator ahead; zero is refused. -/
def indentationAhead (s : Scanner) (start : Mark) : Except Problem (Option Nat) :=
  let c := s.ch 0
  if c == '0' then .error (s.problemAt start "found an indentation indicator equal to 0")
  else if c.isDigit then .ok (some (c.toNat - 48))
  else .ok none

/-- The header of a block scalar after its `|` or `>`: a chomping and an
indentation indicator in either order. -/
def blockHeader (s : Scanner) (start : Mark) : Except Problem (Scanner × Int × Nat) := do
  let s ← s.ensure 1
  match s.chompingAhead with
  | some chomping =>
    let s ← s.skip.ensure 1
    match ← s.indentationAhead start with
    | some increment => pure (s.skip, chomping, increment)
    | none => pure (s, chomping, 0)
  | none =>
    match ← s.indentationAhead start with
    | some increment =>
      let s ← s.skip.ensure 1
      match s.chompingAhead with
      | some chomping => pure (s.skip, chomping, increment)
      | none => pure (s, 0, increment)
    | none => pure (s, 0, 0)

/-- A literal (`|`) or folded (`>`) block scalar. -/
def scanBlockScalar (s : Scanner) (literal : Bool) (fuel : Nat) : Except Problem (Scanner × Token) := do
  let start := s.mark
  let (s, chomping, increment) ← blockHeader s.skip start
  let s ← s.ensure 1
  let s ← s.skipBlanks fuel
  let s ← if s.ch 0 == '#' then (·.1) <$> s.restOfLine "" fuel else pure s
  if !isBreakzChar (s.ch 0) then throw (s.problemAt start "did not find expected comment or line break")
  let s ← if isBreakChar (s.ch 0) then (·.skipLine) <$> s.ensure 2 else pure s
  let indent : Nat :=
    if increment > 0 then (if s.indent ≥ 0 then s.indent.toNat + increment else increment) else 0
  let (s, indent, trailing) ← s.blockBreaks indent start "" 0 fuel
  let s ← s.ensure 1
  let (s, text, leading, trailing) ← s.blockLines literal indent start "" "" trailing false fuel
  let text := if chomping != -1 then text ++ leading else text
  let text := if chomping == 1 then text ++ trailing else text
  pure (s, ⟨.scalar text (if literal then .literal else .folded), start, s.mark⟩)

end Scanner

end Acquisition.Text.Yaml
