import Acquisition.Text.Yaml.Scanner
/-! The events of a YAML stream in the order they are written, produced one at a time from the
scanner's tokens, with tag handles replaced by the prefixes `%TAG` directives give. -/
namespace Acquisition.Text.Yaml

inductive Event where
  | streamStart
  | streamEnd
  | documentStart
  | documentEnd
  | alias (name : String) (start : Mark)
  | scalar (anchor : Option String) (tag : String) (value : String) (style : ScalarStyle) (start : Mark)
  | sequenceStart (anchor : Option String) (tag : String) (start : Mark)
  | sequenceEnd
  | mappingStart (anchor : Option String) (tag : String) (start : Mark)
  | mappingEnd
  deriving Inhabited

/-- Where a parser stands in the grammar of a stream. -/
inductive ParseState where
  | streamStart
  | implicitDocumentStart
  | documentStart
  | documentContent
  | documentEnd
  | blockNode
  | blockSequenceFirstEntry
  | blockSequenceEntry
  | indentlessSequenceEntry
  | blockMappingFirstKey
  | blockMappingKey
  | blockMappingValue
  | flowSequenceFirstEntry
  | flowSequenceEntry
  | flowSequenceEntryMappingKey
  | flowSequenceEntryMappingValue
  | flowSequenceEntryMappingEnd
  | flowMappingFirstKey
  | flowMappingKey
  | flowMappingValue
  | flowMappingEmptyValue
  | finished
  deriving BEq, Inhabited

structure Parser where
  scanner : Scanner
  state : ParseState := .streamStart
  /-- The states to return to after the nodes being read. -/
  states : List ParseState := []
  /-- The starts of the collections being read. -/
  marks : List Mark := []
  /-- Tag handles and the prefixes they stand for in the current document. -/
  tagDirectives : List (String × String) := []

def defaultTagDirectives : List (String × String) := [("!", "!"), ("!!", "tag:yaml.org,2002:")]

namespace Parser

def ofText (text : String) : Parser := { scanner := Scanner.ofText text }

def peek (p : Parser) : Except Problem (Token × Parser) := do
  let (t, s) ← p.scanner.peek
  pure (t, { p with scanner := s })

def advance (p : Parser) : Parser := { p with scanner := p.scanner.advance }

def problem (problem : String) (at_ : Mark) (context : Mark := {}) : Problem :=
  { stage := .parsing, problem, problemMark := at_, contextMark := context }

def pop (p : Parser) : Parser :=
  match p.states with
  | s :: rest => { p with state := s, states := rest }
  | [] => { p with state := .finished }

def popMark (p : Parser) : Parser × Mark :=
  match p.marks with
  | m :: rest => ({ p with marks := rest }, m)
  | [] => (p, {})

def openCollection (p : Parser) : Except Problem Parser := do
  let (t, p) ← p.peek
  pure { p.advance with marks := t.start :: p.marks }

def saving (p : Parser) (state : ParseState) : Parser := { p with states := state :: p.states }

def goTo (p : Parser) (state : ParseState) : Parser := { p with state }

def emptyScalar (mark : Mark) : Event := .scalar none "" "" .plain mark

/-- The full tag of a tag token, by the directives in force. -/
def fullTag (p : Parser) (handle suffix : String) (tagMark start : Mark) : Except Problem String :=
  if handle.isEmpty then .ok suffix
  else match p.tagDirectives.lookup handle with
    | some pfx => .ok (pfx ++ suffix)
    | none => .error (problem "found undefined tag handle" tagMark start)

/-- The properties of a node: an anchor and a tag in either order, with the
token after them and the place of the tag. -/
def properties (p : Parser) (t : Token) :
    Except Problem (Option String × Option (String × String) × Mark × Token × Parser) := do
  match t.kind with
  | .anchor a =>
    let (t2, p) ← p.advance.peek
    match t2.kind with
    | .tag h s =>
      let (t3, p) ← p.advance.peek
      pure (some a, some (h, s), t2.start, t3, p)
    | _ => pure (some a, none, t.start, t2, p)
  | .tag h s =>
    let (t2, p) ← p.advance.peek
    match t2.kind with
    | .anchor a =>
      let (t3, p) ← p.advance.peek
      pure (some a, some (h, s), t.start, t3, p)
    | _ => pure (none, some (h, s), t.start, t2, p)
  | _ => pure (none, none, t.start, t, p)

/-- A node: an alias, a scalar, or the start of a collection. In block
context block collections may start, and an indentless sequence where
`indentless` allows one. A node with properties and no content is an empty
scalar. -/
def parseNode (p : Parser) (block indentless : Bool) : Except Problem (Event × Parser) := do
  let (t, p) ← p.peek
  if let .alias name := t.kind then return (.alias name t.start, p.pop.advance)
  let start := t.start
  let (anchor, tagToken, tagMark, t, p) ← p.properties t
  let tag ← match tagToken with
    | some (handle, suffix) => p.fullTag handle suffix tagMark start
    | none => pure ""
  if indentless && t.kind == .blockEntry then
    return (.sequenceStart anchor tag start, p.goTo .indentlessSequenceEntry)
  match t.kind with
  | .scalar value style => return (.scalar anchor tag value style start, p.pop.advance)
  | .flowSequenceStart => return (.sequenceStart anchor tag start, p.goTo .flowSequenceFirstEntry)
  | .flowMappingStart => return (.mappingStart anchor tag start, p.goTo .flowMappingFirstKey)
  | .blockSequenceStart =>
    if block then return (.sequenceStart anchor tag start, p.goTo .blockSequenceFirstEntry)
  | .blockMappingStart =>
    if block then return (.mappingStart anchor tag start, p.goTo .blockMappingFirstKey)
  | _ => pure ()
  if anchor.isSome || !tag.isEmpty then return (.scalar anchor tag "" .plain start, p.pop)
  throw (problem "did not find expected node content" t.start start)

def blockSequenceEntry (p : Parser) (first : Bool) : Except Problem (Event × Parser) := do
  let p ← if first then p.openCollection else pure p
  let (t, p) ← p.peek
  match t.kind with
  | .blockEntry =>
    let (next, p) ← p.advance.peek
    if next.kind != .blockEntry && next.kind != .blockEnd then
      (p.saving .blockSequenceEntry).parseNode true false
    else pure (emptyScalar t.stop, p.goTo .blockSequenceEntry)
  | .blockEnd => pure (.sequenceEnd, (p.pop.popMark).1.advance)
  | _ => throw (problem "did not find expected '-' indicator" t.start (p.popMark).2)

/-- An entry of a sequence whose `-` stand in the column of the key it is the value of. -/
def indentlessSequenceEntry (p : Parser) : Except Problem (Event × Parser) := do
  let (t, p) ← p.peek
  if t.kind != .blockEntry then return (.sequenceEnd, p.pop)
  let (next, p) ← p.advance.peek
  if next.kind != .blockEntry && next.kind != .key && next.kind != .value && next.kind != .blockEnd then
    (p.saving .indentlessSequenceEntry).parseNode true false
  else pure (emptyScalar t.stop, p.goTo .indentlessSequenceEntry)

def blockMappingKey (p : Parser) (first : Bool) : Except Problem (Event × Parser) := do
  let p ← if first then p.openCollection else pure p
  let (t, p) ← p.peek
  match t.kind with
  | .key =>
    let (next, p) ← p.advance.peek
    if next.kind != .key && next.kind != .value && next.kind != .blockEnd then
      (p.saving .blockMappingValue).parseNode true true
    else pure (emptyScalar t.stop, p.goTo .blockMappingValue)
  | .blockEnd => pure (.mappingEnd, (p.pop.popMark).1.advance)
  | _ => throw (problem "did not find expected key" t.start (p.popMark).2)

def blockMappingValue (p : Parser) : Except Problem (Event × Parser) := do
  let (t, p) ← p.peek
  if t.kind != .value then return (emptyScalar t.start, p.goTo .blockMappingKey)
  let (next, p) ← p.advance.peek
  if next.kind != .key && next.kind != .value && next.kind != .blockEnd then
    (p.saving .blockMappingKey).parseNode true true
  else pure (emptyScalar t.stop, p.goTo .blockMappingKey)

def flowSequenceEntry (p : Parser) (first : Bool) : Except Problem (Event × Parser) := do
  let p ← if first then p.openCollection else pure p
  let (t, p) ← p.peek
  let (t, p) ←
    if t.kind != .flowSequenceEnd && !first then
      if t.kind == .flowEntry then p.advance.peek
      else throw (problem "did not find expected ',' or ']'" t.start (p.popMark).2)
    else pure (t, p)
  if t.kind == .flowSequenceEnd then return (.sequenceEnd, (p.pop.popMark).1.advance)
  if t.kind == .key then return (.mappingStart none "" t.start, p.advance.goTo .flowSequenceEntryMappingKey)
  (p.saving .flowSequenceEntry).parseNode false false

/-- The key of a single pair written as an entry of a flow sequence. The
token after a key left out is passed over. -/
def flowSequenceEntryMappingKey (p : Parser) : Except Problem (Event × Parser) := do
  let (t, p) ← p.peek
  if t.kind != .value && t.kind != .flowEntry && t.kind != .flowSequenceEnd then
    (p.saving .flowSequenceEntryMappingValue).parseNode false false
  else pure (emptyScalar t.stop, p.advance.goTo .flowSequenceEntryMappingValue)

def flowSequenceEntryMappingValue (p : Parser) : Except Problem (Event × Parser) := do
  let (t, p) ← p.peek
  if t.kind == .value then
    let (next, p) ← p.advance.peek
    if next.kind != .flowEntry && next.kind != .flowSequenceEnd then
      return (← (p.saving .flowSequenceEntryMappingEnd).parseNode false false)
    return (emptyScalar t.start, p.goTo .flowSequenceEntryMappingEnd)
  pure (emptyScalar t.start, p.goTo .flowSequenceEntryMappingEnd)

def flowSequenceEntryMappingEnd (p : Parser) : Except Problem (Event × Parser) := do
  let (_, p) ← p.peek
  pure (.mappingEnd, p.goTo .flowSequenceEntry)

def flowMappingKey (p : Parser) (first : Bool) : Except Problem (Event × Parser) := do
  let p ← if first then p.openCollection else pure p
  let (t, p) ← p.peek
  let (t, p) ←
    if t.kind != .flowMappingEnd && !first then
      if t.kind == .flowEntry then p.advance.peek
      else throw (problem "did not find expected ',' or '\x7d'" t.start (p.popMark).2)
    else pure (t, p)
  if t.kind == .flowMappingEnd then return (.mappingEnd, (p.pop.popMark).1.advance)
  if t.kind == .key then
    let (next, p) ← p.advance.peek
    if next.kind != .value && next.kind != .flowEntry && next.kind != .flowMappingEnd then
      (p.saving .flowMappingValue).parseNode false false
    else pure (emptyScalar next.start, p.goTo .flowMappingValue)
  else (p.saving .flowMappingEmptyValue).parseNode false false

def flowMappingValue (p : Parser) (empty : Bool) : Except Problem (Event × Parser) := do
  let (t, p) ← p.peek
  if empty then return (emptyScalar t.start, p.goTo .flowMappingKey)
  if t.kind == .value then
    let (next, p) ← p.advance.peek
    if next.kind != .flowEntry && next.kind != .flowMappingEnd then
      return (← (p.saving .flowMappingKey).parseNode false false)
    return (emptyScalar next.start, p.goTo .flowMappingKey)
  pure (emptyScalar t.start, p.goTo .flowMappingKey)

def isDirective (k : TokenKind) : Bool :=
  match k with
  | .versionDirective .. | .tagDirective .. => true
  | _ => false

/-- Reads the directives before a document, then completes the tag handles
with the standard ones. A second `%YAML`, a version other than 1.1 and a
handle given twice are refused. -/
def processDirectives (p : Parser) (version : Bool) : Nat → Except Problem Parser
  | 0 => pure p
  | n + 1 => do
    let (t, p) ← p.peek
    match t.kind with
    | .versionDirective major minor =>
      if version then throw (problem "found duplicate %YAML directive" t.start)
      if major != 1 || minor != 1 then throw (problem "found incompatible YAML document" t.start)
      processDirectives p.advance true n
    | .tagDirective handle pfx =>
      if p.tagDirectives.any (·.1 == handle) then throw (problem "found duplicate %TAG directive" t.start)
      processDirectives { p.advance with tagDirectives := p.tagDirectives ++ [(handle, pfx)] } version n
    | _ =>
      let missing := defaultTagDirectives.filter fun (h, _) => !p.tagDirectives.any (·.1 == h)
      pure { p with tagDirectives := p.tagDirectives ++ missing }

/-- Passes the `...` markers before a document. -/
def skipDocumentEnds (p : Parser) : Nat → Except Problem (Token × Parser)
  | 0 => p.peek
  | n + 1 => do
    let (t, p) ← p.peek
    if t.kind == .documentEnd then skipDocumentEnds p.advance n else pure (t, p)

/-- The start of a document, or the end of the stream. The first document may
be implicit: content without a `---` before it. -/
def documentStart (p : Parser) (implicit : Bool) : Except Problem (Event × Parser) := do
  let fuel := p.scanner.fuel
  let (t, p) ← if implicit then p.peek else p.skipDocumentEnds fuel
  if implicit && !(isDirective t.kind || t.kind == .documentStart || t.kind == .streamEnd) then
    let p ← p.processDirectives false fuel
    return (.documentStart, (p.saving .documentEnd).goTo .blockNode)
  if t.kind == .streamEnd then return (.streamEnd, p.advance.goTo .finished)
  let p ← p.processDirectives false fuel
  let (t, p) ← p.peek
  if t.kind != .documentStart then throw (problem "did not find expected <document start>" t.start)
  pure (.documentStart, (p.saving .documentEnd).advance.goTo .documentContent)

def documentContent (p : Parser) : Except Problem (Event × Parser) := do
  let (t, p) ← p.peek
  if isDirective t.kind || t.kind == .documentStart || t.kind == .documentEnd || t.kind == .streamEnd then
    pure (emptyScalar t.start, p.pop)
  else p.parseNode true false

def documentEnd (p : Parser) : Except Problem (Event × Parser) := do
  let (t, p) ← p.peek
  let p := if t.kind == .documentEnd then p.advance else p
  pure (.documentEnd, { p with tagDirectives := [], state := .documentStart })

/-- The next event of the stream. -/
def next (p : Parser) : Except Problem (Event × Parser) :=
  match p.state with
  | .streamStart => do
    let (_, p) ← p.peek
    pure (.streamStart, p.advance.goTo .implicitDocumentStart)
  | .implicitDocumentStart => p.documentStart true
  | .documentStart => p.documentStart false
  | .documentContent => p.documentContent
  | .documentEnd => p.documentEnd
  | .blockNode => p.parseNode true false
  | .blockSequenceFirstEntry => p.blockSequenceEntry true
  | .blockSequenceEntry => p.blockSequenceEntry false
  | .indentlessSequenceEntry => p.indentlessSequenceEntry
  | .blockMappingFirstKey => p.blockMappingKey true
  | .blockMappingKey => p.blockMappingKey false
  | .blockMappingValue => p.blockMappingValue
  | .flowSequenceFirstEntry => p.flowSequenceEntry true
  | .flowSequenceEntry => p.flowSequenceEntry false
  | .flowSequenceEntryMappingKey => p.flowSequenceEntryMappingKey
  | .flowSequenceEntryMappingValue => p.flowSequenceEntryMappingValue
  | .flowSequenceEntryMappingEnd => p.flowSequenceEntryMappingEnd
  | .flowMappingFirstKey => p.flowMappingKey true
  | .flowMappingKey => p.flowMappingKey false
  | .flowMappingValue => p.flowMappingValue false
  | .flowMappingEmptyValue => p.flowMappingValue true
  | .finished => pure (.streamEnd, p)

end Parser

end Acquisition.Text.Yaml
