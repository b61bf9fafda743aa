import Acquisition.Text.Yaml.Scanner.Scalar
import Acquisition.Text.Yaml.Scanner.Property
/-! Cutting a YAML stream into tokens as the parser asks for them: blocks from indentation, and
simple keys known only when their `:` comes, so a token is handed on once it can no longer become
one. -/
namespace Acquisition.Text.Yaml

namespace Scanner

def keyAt (s : Scanner) (level : Nat) : SimpleKey := s.simpleKeys.getD level {}

def setKey (s : Scanner) (level : Nat) (k : SimpleKey) : Scanner :=
  { s with simpleKeys := s.simpleKeys.modify level fun _ => k }

def forgetOwner (s : Scanner) (number : Nat) : Scanner :=
  { s with keyLevels := s.keyLevels.filter (·.1 != number) }

/-- The possible key of the current flow level is dropped; a required one
cannot be. -/
def removeSimpleKey (s : Scanner) : Except Problem Scanner := do
  let level := s.simpleKeys.size - 1
  let k := s.keyAt level
  if k.possible then
    if k.required then throw (s.problemAt k.mark "could not find expected ':'")
    pure ((s.setKey level { k with possible := false }).forgetOwner k.tokenNumber)
  else pure s

/-- Notes that the next token may be a key. It is required where a block
mapping at this column needs one. -/
def saveSimpleKey (s : Scanner) : Except Problem Scanner := do
  if !s.simpleKeyAllowed then return s
  let required := s.flowLevel == 0 && s.indent == (s.mark.column : Int)
  let key : SimpleKey := { possible := true, required, tokenNumber := s.tokens.size, mark := s.mark }
  let s ← s.removeSimpleKey
  let level := s.simpleKeys.size - 1
  let s := (s.setKey level key).forgetOwner key.tokenNumber
  pure { s with keyLevels := (key.tokenNumber, level) :: s.keyLevels }

/-- Whether the key of `level` is still possible. A key left on an earlier
line or more than 1024 characters back is not; if it was required, that is an
error. -/
def checkKey (s : Scanner) (level : Nat) : Except Problem (Bool × Scanner) := do
  let k := s.keyAt level
  if !k.possible then return (false, s)
  if k.mark.line < s.mark.line || k.mark.index + 1024 < s.mark.index then
    if k.required then throw (s.problemAt k.mark "could not find expected ':'")
    return (false, s.setKey level { k with possible := false })
  pure (true, s)

def increaseFlowLevel (s : Scanner) : Except Problem Scanner := do
  let s := { s with simpleKeys := s.simpleKeys.push { mark := s.mark }, flowLevel := s.flowLevel + 1 }
  if s.flowLevel > 10000 then throw (s.problemAt s.mark "exceeded max depth of 10000")
  pure s

def decreaseFlowLevel (s : Scanner) : Scanner :=
  if s.flowLevel == 0 then s else
  let k := s.keyAt (s.simpleKeys.size - 1)
  { s.forgetOwner k.tokenNumber with flowLevel := s.flowLevel - 1, simpleKeys := s.simpleKeys.pop }

/-- Opens a block at `column` when it lies deeper than the current one, with
its start token put before the token numbered `number`, or last. -/
def rollIndent (s : Scanner) (column : Nat) (number : Option Nat) (kind : TokenKind) (mark : Mark) :
    Except Problem Scanner := do
  if s.flowLevel > 0 || s.indent ≥ (column : Int) then return s
  let s := { s with indents := s.indent :: s.indents, indent := column }
  if s.indents.length > 10000 then
    throw (s.problemAt (s.keyAt (s.simpleKeys.size - 1)).mark "exceeded max depth of 10000")
  let token : Token := { kind, start := mark, stop := mark }
  pure (match number with
    | some n => s.insertAt n token
    | none => s.push token)

/-- Closes the blocks deeper than `column`; their end tokens stand just before `at`. -/
def unrollIndent (s : Scanner) (column : Int) (at_ : Mark) : Scanner :=
  if s.flowLevel > 0 then s else
  let mark := { at_ with index := at_.index - 1 }
  let rec close (s : Scanner) : List Int → Scanner
    | [] => s
    | i :: rest =>
      if s.indent > column then close { s.push ⟨.blockEnd, mark, mark⟩ with indent := i, indents := rest } rest
      else s
  close s s.indents

/-- Passes spaces, and tabs where they cannot be taken for indentation. -/
def skipSpaces (s : Scanner) : Nat → Except Problem Scanner
  | 0 => pure s
  | n + 1 => do
    if s.ch 0 == ' ' || ((s.flowLevel > 0 || !s.simpleKeyAllowed) && s.ch 0 == '\t') then
      skipSpaces (← s.skip.ensure 1) n
    else pure s

/-- Moves to the end of the comment whose `#` stands at `seen`, passing the
blanks and line breaks before it. -/
def passComment (s : Scanner) (seen : Nat) : Nat → Except Problem Scanner
  | 0 => pure s
  | n + 1 => do
    let s ← s.ensure 1
    if isBreakzChar (s.ch 0) then
      if s.mark.index ≥ seen then return s
      let s ← s.ensure 2
      passComment s.skipLine seen n
    else passComment s.skip seen n

/-- How far ahead, from `k` on, a `#` comes after nothing but blanks and line
breaks, looking at most 512 characters ahead. -/
def commentAhead (s : Scanner) (k : Nat) : Nat → Except Problem (Option Nat)
  | 0 => pure none
  | n + 1 => do
    if k ≥ 512 then return none
    let _ ← s.ensure (k + 1)
    let c := s.ch k
    if isBlankChar c || isBreakChar c then s.commentAhead (k + 1) n
    else if c == '#' then pure (some k)
    else pure none

/-- Passes a comment and the comments on the lines after it, up to the end of
the last one. -/
def skipComments (s : Scanner) (first : Nat) : Nat → Except Problem Scanner
  | 0 => pure s
  | n + 1 => do
    match ← s.commentAhead first 512 with
    | none => pure s
    | some k => skipComments (← s.passComment (s.mark.index + k) n) 1 n

/-- Passes blanks, comments and line breaks up to the next token. A line
break in block context lets a key start. -/
def skipToToken (s : Scanner) : Nat → Except Problem Scanner
  | 0 => pure s
  | n + 1 => do
    let s ← s.ensure 1
    let s := if s.mark.column == 0 && s.ch 0 == byteOrderMark then s.skip else s
    let s ← s.ensure 1
    let s ← s.skipSpaces n
    let s ← if s.ch 0 == '#' then s.skipComments 0 n else pure s
    if !isBreakChar (s.ch 0) then return s
    let s ← s.ensure 2
    let s := s.skipLine
    skipToToken (if s.flowLevel == 0 then { s with simpleKeyAllowed := true } else s) n

/-- Passes blanks and a comment after a token on its line. -/
def skipLineComment (s : Scanner) (fuel : Nat) : Except Problem Scanner := do
  if s.newlines > 0 then return s
  let rec firstNonBlank (k : Nat) : Nat → Except Problem (Option Nat)
    | 0 => pure none
    | n + 1 => do
      if k ≥ 512 then return none
      let _ ← s.ensure (k + 1)
      if isBlankChar (s.ch k) then firstNonBlank (k + 1) n else pure (some k)
  match ← firstNonBlank 0 512 with
  | some k => if s.ch k == '#' then s.passComment (s.mark.index + k) fuel else pure s
  | none => pure s

def fetchStreamStart (s : Scanner) : Scanner :=
  { s with indent := -1, simpleKeys := #[{}], keyLevels := [], simpleKeyAllowed := true,
           started := true }.push ⟨.streamStart, s.mark, s.mark⟩

def fetchStreamEnd (s : Scanner) : Except Problem Scanner := do
  let s := if s.mark.column != 0 then { s with mark := { s.mark with column := 0, line := s.mark.line + 1 } }
    else s
  let s := s.unrollIndent (-1) s.mark
  let s ← s.removeSimpleKey
  pure ({ s with simpleKeyAllowed := false }.push ⟨.streamEnd, s.mark, s.mark⟩)

/-- A token that ends the blocks: a directive or a document marker. -/
def fetchBoundary (s : Scanner) (scan : Scanner → Except Problem (Scanner × Token)) :
    Except Problem Scanner := do
  let s := s.unrollIndent (-1) s.mark
  let s ← s.removeSimpleKey
  let (s, t) ← scan { s with simpleKeyAllowed := false }
  pure (s.push t)

def marker (s : Scanner) (kind : TokenKind) : Except Problem (Scanner × Token) :=
  let start := s.mark
  let s := s.skipN 3
  .ok (s, ⟨kind, start, s.mark⟩)

def indicator (s : Scanner) (kind : TokenKind) : Scanner :=
  let start := s.mark
  let s := s.skip
  s.push ⟨kind, start, s.mark⟩

def fetchFlowCollectionStart (s : Scanner) (kind : TokenKind) : Except Problem Scanner := do
  let s ← s.saveSimpleKey
  let s ← s.increaseFlowLevel
  pure ({ s with simpleKeyAllowed := true }.indicator kind)

def fetchFlowCollectionEnd (s : Scanner) (kind : TokenKind) : Except Problem Scanner := do
  let s ← s.removeSimpleKey
  pure ({ s.decreaseFlowLevel with simpleKeyAllowed := false }.indicator kind)

def fetchFlowEntry (s : Scanner) : Except Problem Scanner := do
  let s ← s.removeSimpleKey
  pure ({ s with simpleKeyAllowed := true }.indicator .flowEntry)

/-- A `-` entry; in block context it may open a sequence. -/
def fetchBlockEntry (s : Scanner) : Except Problem Scanner := do
  let s ← if s.flowLevel == 0 then do
      if !s.simpleKeyAllowed then
        throw (s.problemAt s.mark "block sequence entries are not allowed in this context")
      s.rollIndent s.mark.column none .blockSequenceStart s.mark
    else pure s
  let s ← s.removeSimpleKey
  pure ({ s with simpleKeyAllowed := true }.indicator .blockEntry)

/-- A `?` key indicator; in block context it may open a mapping. -/
def fetchKey (s : Scanner) : Except Problem Scanner := do
  let s ← if s.flowLevel == 0 then do
      if !s.simpleKeyAllowed then throw (s.problemAt s.mark "mapping keys are not allowed in this context")
      s.rollIndent s.mark.column none .blockMappingStart s.mark
    else pure s
  let s ← s.removeSimpleKey
  pure ({ s with simpleKeyAllowed := s.flowLevel == 0 }.indicator .key)

/-- A `:` value indicator. When a possible key precedes it, the key's token
is put in front of that key, with the mapping start it may open. -/
def fetchValue (s : Scanner) : Except Problem Scanner := do
  let level := s.simpleKeys.size - 1
  let (valid, s) ← s.checkKey level
  let s ← if valid then do
      let k := s.keyAt level
      let s := s.insertAt k.tokenNumber ⟨.key, k.mark, k.mark⟩
      let s ← s.rollIndent k.mark.column (some k.tokenNumber) .blockMappingStart k.mark
      let s := (s.setKey level { k with possible := false }).forgetOwner k.tokenNumber
      pure { s with simpleKeyAllowed := false }
    else do
      let s ← if s.flowLevel == 0 then do
          if !s.simpleKeyAllowed then
            throw (s.problemAt s.mark "mapping values are not allowed in this context")
          s.rollIndent s.mark.column none .blockMappingStart s.mark
        else pure s
      pure { s with simpleKeyAllowed := s.flowLevel == 0 }
  pure (s.indicator .value)

/-- A token that may be a key: a collection start, an anchor, an alias, a tag
or a scalar other than a block scalar. -/
def fetchKeyCandidate (s : Scanner) (scan : Scanner → Except Problem (Scanner × Token)) :
    Except Problem Scanner := do
  let s ← s.saveSimpleKey
  let (s, t) ← scan { s with simpleKeyAllowed := false }
  pure (s.push t)

def fetchBlockScalar (s : Scanner) (literal : Bool) (fuel : Nat) : Except Problem Scanner := do
  let s ← s.removeSimpleKey
  let (s, t) ← { s with simpleKeyAllowed := true }.scanBlockScalar literal fuel
  pure (s.push t)

/-- Whether a plain scalar can start with the character ahead. -/
def startsPlain (s : Scanner) : Bool :=
  let c := s.ch 0
  !(isBlankzChar c || "-?:,[]#&*!|>'\"%@".contains c || c == '\x7b' || c == '\x7d' || c == '\x60') ||
    (c == '-' && !isBlankChar (s.ch 1)) ||
    (s.flowLevel == 0 && (c == '?' || c == ':') && !isBlankzChar (s.ch 1))

/-- The token that starts at the character ahead. -/
def fetchIndicated (s : Scanner) (fuel : Nat) : Except Problem Scanner := do
  let c := s.ch 0
  if c == '[' then s.fetchFlowCollectionStart .flowSequenceStart
  else if c == '\x7b' then s.fetchFlowCollectionStart .flowMappingStart
  else if c == ']' then s.fetchFlowCollectionEnd .flowSequenceEnd
  else if c == '\x7d' then s.fetchFlowCollectionEnd .flowMappingEnd
  else if c == ',' then s.fetchFlowEntry
  else if c == '-' && isBlankzChar (s.ch 1) then s.fetchBlockEntry
  else if c == '?' && (s.flowLevel > 0 || isBlankzChar (s.ch 1)) then s.fetchKey
  else if c == ':' && (s.flowLevel > 0 || isBlankzChar (s.ch 1)) then s.fetchValue
  else if c == '*' then s.fetchKeyCandidate (·.scanAnchor true fuel)
  else if c == '&' then s.fetchKeyCandidate (·.scanAnchor false fuel)
  else if c == '!' then s.fetchKeyCandidate (·.scanTag fuel)
  else if c == '|' && s.flowLevel == 0 then s.fetchBlockScalar true fuel
  else if c == '>' && s.flowLevel == 0 then s.fetchBlockScalar false fuel
  else if c == '\'' then s.fetchKeyCandidate (·.scanQuoted true fuel)
  else if c == '"' then s.fetchKeyCandidate (·.scanQuoted false fuel)
  else if s.startsPlain then s.fetchKeyCandidate (·.scanPlain fuel)
  else throw (s.problemAt s.mark "found character that cannot start any token")

/-- Reads the next token, or several when a key or the end of blocks is found. -/
def fetchNext (s : Scanner) (fuel : Nat) : Except Problem Scanner := do
  let s ← s.ensure 1
  if !s.started then return s.fetchStreamStart
  let scanMark := s.mark
  let s ← s.skipToToken fuel
  let s := s.unrollIndent s.mark.column scanMark
  let s ← s.ensure 4
  if s.ch 0 == endChar then return (← s.fetchStreamEnd)
  if s.mark.column == 0 && s.ch 0 == '%' then return (← s.fetchBoundary (·.scanDirective fuel))
  if s.atDocumentMarker '-' then return (← s.fetchBoundary (·.marker .documentStart))
  if s.atDocumentMarker '.' then return (← s.fetchBoundary (·.marker .documentEnd))
  let s ← s.fetchIndicated fuel
  -- a comment after the token on its line belongs to it, save after a `-`
  match s.tokens.back? with
  | some t => if t.kind == .blockEntry then pure s else s.skipLineComment fuel
  | none => s.skipLineComment fuel

/-- Fetches tokens until the one at `head` is ready: two more follow it, and it
cannot become a key any more. -/
def fetchMore (s : Scanner) (fuel : Nat) : Nat → Except Problem Scanner
  | 0 => pure { s with available := true }
  | n + 1 => do
    if s.head + 2 < s.tokens.size then
      match s.keyLevels.lookup s.head with
      | none => return { s with available := true }
      | some level =>
        let (valid, s') ← s.checkKey level
        if !valid then return { s' with available := true }
        fetchMore (← s'.fetchNext fuel) fuel n
    else fetchMore (← s.fetchNext fuel) fuel n

def fuel (s : Scanner) : Nat := s.input.size + 16

def peek (s : Scanner) : Except Problem (Token × Scanner) := do
  let s ← if s.available then pure s else s.fetchMore s.fuel s.fuel
  pure (s.tokens.getD s.head ⟨.streamEnd, s.mark, s.mark⟩, s)

/-- Hands on the token at `head`. -/
def advance (s : Scanner) : Scanner :=
  let ended := match s.tokens[s.head]? with
    | some t => t.kind == .streamEnd
    | none => true
  { s with available := false, head := s.head + 1, ended,
           keyLevels := s.keyLevels.filter (·.1 > s.head) }

end Scanner

end Acquisition.Text.Yaml
