/-! The tokens of a YAML character stream, with the marks where they start and stop, and the
problems met while reading one, whose messages name a line. -/
namespace Acquisition.Text.Yaml

/-- A place in the input: the characters before it, and its zero-based line and column. -/
structure Mark where
  index : Nat := 0
  line : Nat := 0
  column : Nat := 0
  deriving Repr, Inhabited, BEq

inductive ScalarStyle where
  | plain
  | singleQuoted
  | doubleQuoted
  | literal
  | folded
  deriving Repr, BEq, Inhabited

inductive TokenKind where
  | streamStart
  | streamEnd
  | versionDirective (major minor : Nat)
  | tagDirective (handle pfx : String)
  | documentStart
  | documentEnd
  | blockSequenceStart
  | blockMappingStart
  | blockEnd
  | flowSequenceStart
  | flowSequenceEnd
  | flowMappingStart
  | flowMappingEnd
  | blockEntry
  | flowEntry
  | key
  | value
  | alias (name : String)
  | anchor (name : String)
  | tag (handle suffix : String)
  | scalar (text : String) (style : ScalarStyle)
  deriving Repr, BEq, Inhabited

structure Token where
  kind : TokenKind
  start : Mark
  stop : Mark
  deriving Repr, Inhabited

/-- The stage of reading that met a problem. -/
inductive Stage where
  /-- Decoding the characters of the input. -/
  | reading
  /-- Cutting the characters into tokens. -/
  | scanning
  /-- Arranging the tokens into nodes. -/
  | parsing
  deriving BEq, Repr, Inhabited

/-- A failure while reading a stream: what went wrong, where, and the place of
the construct being read, if any. -/
structure Problem where
  stage : Stage
  problem : String
  problemMark : Mark := {}
  contextMark : Mark := {}
  deriving Repr, Inhabited

/-- The text of a problem: its line, when it has one, and what went wrong. -/
def Problem.message (p : Problem) : String :=
  let bump := if p.stage == .scanning then 1 else 0
  let line :=
    if p.contextMark.line != 0 then p.contextMark.line + bump
    else if p.problemMark.line != 0 then p.problemMark.line + bump
    else 0
  (if line != 0 then "line " ++ toString line ++ ": " else "") ++ p.problem

end Acquisition.Text.Yaml
