import Acquisition.Text.Yaml.Event
import Acquisition.Text.Yaml.Resolve
/-! YAML documents as graphs of nodes in one array, composed from the events of a stream's first
document; every node gets a tag, explicit or resolved, and the line where it starts. -/
namespace Acquisition.Text.Yaml

inductive Node where
  | scalar (value : String) (style : ScalarStyle) (tag : String) (line : Nat)
  | sequence (items : Array Nat) (tag : String) (line : Nat)
  | mapping (pairs : Array (Nat × Nat)) (tag : String) (line : Nat)
  | alias (name : String) (target : Nat) (line : Nat)
  deriving Inhabited

namespace Node

def line : Node → Nat
  | .scalar _ _ _ l | .sequence _ _ l | .mapping _ _ l | .alias _ _ l => l

def tag : Node → String
  | .scalar _ _ t _ | .sequence _ t _ | .mapping _ t _ => t
  | .alias .. => ""

def value : Node → String
  | .scalar v _ _ _ => v
  | .alias name _ _ => name
  | _ => ""

/-- The kind of a node, as a number: scalars, sequences, mappings, aliases. -/
def kind : Node → Nat
  | .scalar .. => 0
  | .sequence .. => 1
  | .mapping .. => 2
  | .alias .. => 3

end Node

/-- The nodes of a document, and the place of its root. -/
structure Document where
  nodes : Array Node
  root : Nat

def Document.node (d : Document) (i : Nat) : Node := d.nodes.getD i default

/-- Why a document could not be read: a problem of its text, or a failure to compose it. -/
inductive ReadError where
  | problem (p : Problem)
  | failure (message : String)

def ReadError.message : ReadError → String
  | .problem p => p.message
  | .failure m => m

/-- The tag of a scalar: an explicit one other than `!`, else the one its style or text gives. -/
def scalarTag (explicit : String) (style : ScalarStyle) (value : String) : String :=
  if explicit != "" && explicit != "!" then shortTag explicit
  else if style != .plain then "!!str"
  else if value == "<<" then "!!merge"
  else (resolvePlain value).1

def collectionTag (explicit standard : String) : String :=
  if explicit != "" && explicit != "!" then shortTag explicit else standard

/-- A document being composed: the parser, the event looked at and not yet
taken, the nodes so far and the anchors given. -/
structure Composer where
  parser : Parser
  pending : Option Event := none
  nodes : Array Node := #[]
  anchors : List (String × Nat) := []

namespace Composer

def peek (c : Composer) : Except ReadError (Event × Composer) :=
  match c.pending with
  | some e => .ok (e, c)
  | none =>
    match c.parser.next with
    | .ok (e, p) => .ok (e, { c with parser := p, pending := some e })
    | .error p => .error (.problem p)

def take (c : Composer) : Composer := { c with pending := none }

def add (c : Composer) (n : Node) : Nat × Composer := (c.nodes.size, { c with nodes := c.nodes.push n })

def set (c : Composer) (i : Nat) (n : Node) : Composer := { c with nodes := c.nodes.modify i fun _ => n }

def remember (c : Composer) (anchor : Option String) (i : Nat) : Composer :=
  match anchor with
  | some a => { c with anchors := (a, i) :: c.anchors.filter (·.1 != a) }
  | none => c

def isSequenceEnd : Event → Bool
  | .sequenceEnd => true
  | _ => false

def isMappingEnd : Event → Bool
  | .mappingEnd => true
  | _ => false

mutual

/-- Composes the node whose first event comes next. -/
def node (c : Composer) : Nat → Except ReadError (Nat × Composer)
  | 0 => .error (.failure "document nested too deeply")
  | fuel + 1 => do
    let (e, c) ← c.peek
    match e with
    | .scalar anchor tag value style start =>
      let (i, c) := c.add (.scalar value style (scalarTag tag style value) (start.line + 1))
      pure (i, (c.remember anchor i).take)
    | .alias name start =>
      match c.anchors.lookup name with
      | some target =>
        let (i, c) := c.add (.alias name target (start.line + 1))
        pure (i, c.take)
      | none => throw (.failure ("unknown anchor '" ++ name ++ "' referenced"))
    | .sequenceStart anchor tag start =>
      let tag := collectionTag tag "!!seq"
      let (i, c) := c.add (.sequence #[] tag (start.line + 1))
      let (items, c) ← items (c.remember anchor i).take #[] fuel
      pure (i, (c.set i (.sequence items tag (start.line + 1))).take)
    | .mappingStart anchor tag start =>
      let tag := collectionTag tag "!!map"
      let (i, c) := c.add (.mapping #[] tag (start.line + 1))
      let (pairs, c) ← pairs (c.remember anchor i).take #[] fuel
      pure (i, (c.set i (.mapping pairs tag (start.line + 1))).take)
    | _ => throw (.failure "unexpected event")

/-- Composes the items of a sequence up to its end, which is left to take. -/
def items (c : Composer) (acc : Array Nat) : Nat → Except ReadError (Array Nat × Composer)
  | 0 => pure (acc, c)
  | fuel + 1 => do
    let (e, c) ← c.peek
    if isSequenceEnd e then return (acc, c)
    let (i, c) ← node c fuel
    items c (acc.push i) fuel

/-- Composes the keys and values of a mapping up to its end, which is left to take. -/
def pairs (c : Composer) (acc : Array (Nat × Nat)) : Nat → Except ReadError (Array (Nat × Nat) × Composer)
  | 0 => pure (acc, c)
  | fuel + 1 => do
    let (e, c) ← c.peek
    if isMappingEnd e then return (acc, c)
    let (k, c) ← node c fuel
    let (v, c) ← node c fuel
    pairs c (acc.push (k, v)) fuel

end

end Composer

/-- The first document of a stream: `none` for a stream without documents.
The stream is read up to the end of that document. -/
def readDocument (text : String) : Except ReadError (Option Document) := do
  let c : Composer := { parser := Parser.ofText text }
  let fuel := 16 * (text.length + 8)
  let (_, c) ← c.peek
  let (e, c) ← c.take.peek
  match e with
  | .documentStart =>
    let (root, c) ← Composer.node c.take fuel
    let _ ← c.peek
    pure (some { nodes := c.nodes, root })
  | _ => pure none

end Acquisition.Text.Yaml
