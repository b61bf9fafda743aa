import Acquisition.Text.Yaml.Document
import Acquisition.Text.Base64
import Acquisition.Text.Quoted
import Acquisition.Text.Utf8
import Acquisition.Duration
/-! Reading typed values out of a YAML document: one pass over the current values reports every
mismatch with its line, a few problems stop it at once, and `<<` merges mappings into a record. -/
namespace Acquisition.Text.Yaml

/-- What reading has gathered so far: the mismatches, the aliases being read,
the number of nodes read in all and through aliases, and the keys already
used by the mapping that a merge fills. -/
structure DecodeState where
  mismatches : Array String := #[]
  active : List Nat := []
  aliasDepth : Nat := 0
  decodeCount : Nat := 0
  aliasCount : Nat := 0
  merged : Option (List String) := none

abbrev Decoding := ExceptT String (StateM DecodeState)

/-- The share of reads that may go through aliases: almost all of a small
document, less and less of a large one. -/
def allowedAliasRatio (decodes : Nat) : Float :=
  if decodes ≤ 400000 then 0.99
  else if decodes ≥ 4000000 then 0.10
  else 0.99 - 0.89 * (Float.ofNat (decodes - 400000) / 3600000.0)

/-- Counts the read of one node, refusing a document whose aliases expand too far. -/
def countDecode : Decoding Unit := do
  modify fun s => { s with
    decodeCount := s.decodeCount + 1
    aliasCount := if s.aliasDepth > 0 then s.aliasCount + 1 else s.aliasCount }
  let s ← get
  if s.aliasCount > 100 && s.decodeCount > 1000 &&
      Float.ofNat s.aliasCount / Float.ofNat s.decodeCount > allowedAliasRatio s.decodeCount then
    throw "document contains excessive aliasing"

/-- Reads through the alias at `i` named `name`; an alias may not be met again
while its own value is read. -/
def throughAlias {β : Type} (i : Nat) (name : String) (inner : Decoding β) : Decoding β := do
  if (← get).active.contains i then throw ("anchor '" ++ name ++ "' value contains itself")
  modify fun s => { s with active := i :: s.active, aliasDepth := s.aliasDepth + 1 }
  let r ← inner
  modify fun s => { s with active := s.active.erase i, aliasDepth := s.aliasDepth - 1 }
  pure r

/-- One read of node `i`: counted, and through an alias to its target by
`again`, else by `body`. -/
def readStep {β : Type} (doc : Document) (i : Nat) (again : Nat → Decoding β) (body : Decoding β) :
    Decoding β := do
  countDecode
  match doc.node i with
  | .alias name target _ => throughAlias i name (again target)
  | _ => body

/-- Reports that a node does not fit type `typeName`; a scalar's text is
shown, cut to seven bytes when it is longer than ten. -/
def mismatch (n : Node) (typeName : String) : Decoding Unit :=
  let tag := n.tag
  let shown :=
    if tag == "!!seq" || tag == "!!map" then ""
    else
      let bytes := n.value.toUTF8
      if bytes.size > 10 then " \x60" ++ decodeLossy (bytes.extract 0 7).toList ++ "...\x60"
      else " \x60" ++ n.value ++ "\x60"
  modify fun s => { s with
    mismatches := s.mismatches.push ("line " ++ toString n.line ++ ": cannot unmarshal " ++ tag ++ shown ++
      " into " ++ typeName) }

def report (message : String) : Decoding Unit :=
  modify fun s => { s with mismatches := s.mismatches.push message }

/-- Reports each key that repeats an earlier one of the same mapping, of the
same kind and text; true if there is one. -/
def repeatedKeys (doc : Document) (pairs : Array (Nat × Nat)) : Decoding Bool := do
  let keys := pairs.toList.map fun (k, _) => doc.node k
  let rec reports : List Node → List String
    | [] => []
    | k :: rest =>
      (rest.filter fun later => later.kind == k.kind && later.value == k.value).map (fun later =>
        "line " ++ toString later.line ++ ": mapping key " ++ quote later.value ++
          " already defined at line " ++ toString k.line) ++ reports rest
  let found := reports keys
  found.forM report
  pure !found.isEmpty

/-- What a scalar stands for with its resolved tag, `none` for null. A
string-tagged scalar is its text; another is resolved, its explicit tag
agreeing with its text, and a `!!binary` one stands for the text its base64
encodes. -/
def scalarValue (n : Node) : Decoding (Option (String × Resolved)) := do
  if n.tag == "!!str" then return some ("!!str", .str n.value)
  match resolve n.tag n.value with
  | .error message => throw message
  | .ok (tag, r) =>
    if tag == "!!binary" then
      match Base64.decode? n.value with
      | some bytes => pure (some ("!!binary", .str (decodeLossy bytes)))
      | none => throw "!!binary value contains invalid base64 data"
    else match r with
      | .null => pure none
      | r => pure (some (tag, r))

/-- How values of one type are read from nodes. `body` reads a node that is
not an alias over the current value, given the fuel that bounds the nesting
below it, and tells whether the node gave a value. -/
structure Decoder (α : Type) where
  /-- The type's name in mismatch reports. -/
  typeName : String
  body : Document → Nat → Nat → α → Decoding (α × Bool)

def Decoder.read {α : Type} (d : Decoder α) (doc : Document) : Nat → Nat → α → Decoding (α × Bool)
  | 0, _, current => pure (current, false)
  | fuel + 1, i, current =>
    readStep doc i (fun target => d.read doc fuel target current) (d.body doc fuel i current)

/-- Reads a node that gives no value of type `typeName`: a null scalar gives
nothing, anything else is a mismatch. -/
def refuse {α : Type} (typeName : String) (doc : Document) (i : Nat) (current : α) : Decoding (α × Bool) := do
  let n := doc.node i
  match n with
  | .scalar .. =>
    match ← scalarValue n with
    | some _ => mismatch n typeName
    | none => pure ()
  | .mapping pairs _ _ =>
    unless (← repeatedKeys doc pairs) do mismatch n typeName
  | _ => mismatch n typeName
  pure (current, false)

/-- A decoder of a kind that only scalars give: `convert` says what a scalar,
resolved to a tag and a value, gives, if anything. -/
def scalarDecoder {α : Type} (typeName : String) (convert : Node → String → Resolved → Option α) :
    Decoder α where
  typeName := typeName
  body doc _ i current := do
    let n := doc.node i
    match n with
    | .scalar .. =>
      match ← scalarValue n with
      | none => pure (current, false)
      | some (tag, r) =>
        match convert n tag r with
        | some v => pure (v, true)
        | none => do mismatch n typeName; pure (current, false)
    | _ => refuse typeName doc i current

def text : Decoder String := scalarDecoder "string" fun n tag r =>
  match tag, r with
  | "!!binary", .str s => some s
  | _, _ => some n.value

/-- The truncation of a double to a signed 64-bit integer; out of range it is -2^63. -/
def truncateToInt64 (x : Float) : Int :=
  if x ≥ 9223372036854775808.0 || x < -9223372036854775808.0 then -9223372036854775808
  else x.toInt64.toInt

/-- Signed 64-bit integers; a float is truncated when it is at most 2^63. -/
def int64 (typeName : String) : Decoder Int := scalarDecoder typeName fun _ _ r =>
  match r with
  | .int v => some v
  | .float x => if x ≤ 9223372036854775808.0 then some (truncateToInt64 x) else none
  | _ => none

/-- Bytes: integers from 0 to 255, or a float whose truncation is one. -/
def byte : Decoder UInt8 := scalarDecoder "uint8" fun _ _ r =>
  match r with
  | .int v => if 0 ≤ v && v ≤ 255 then some v.toNat.toUInt8 else none
  | .float x => if -1 < x && x < 256 then some (truncateToInt64 x).toNat.toUInt8 else none
  | _ => none

/-- Booleans: `true` and `false`, and the words `yes`, `on`, `no`, `off`, `y`, `n` of old YAML. -/
def bool : Decoder Bool := scalarDecoder "bool" fun _ _ r =>
  match r with
  | .bool b => some b
  | .str s =>
    if ["y", "Y", "yes", "Yes", "YES", "on", "On", "ON"].contains s then some true
    else if ["n", "N", "no", "No", "NO", "off", "Off", "OFF"].contains s then some false
    else none
  | _ => none

/-- Single-precision floats, from any number by way of a double. -/
def single : Decoder Float32 := scalarDecoder "float32" fun _ _ r =>
  match r with
  | .int v => some (Float.ofInt v).toFloat32
  | .uint v => some (Float.ofNat v).toFloat32
  | .float x => some x.toFloat32
  | _ => none

def duration : Decoder Int := scalarDecoder "time.Duration" fun _ _ r =>
  match r with
  | .str s => (Duration.read? s).toOption
  | _ => none

/-- An array of exactly `n` elements. Each item is read over `zero`, and the
items that give a value fill the array from the front; the places after them
keep their values. -/
def array {α : Type} (n : Nat) (elem : Decoder α) (zero : α) : Decoder (Vector α n) where
  typeName := "[" ++ toString n ++ "]" ++ elem.typeName
  body doc fuel i current := do
    match doc.node i with
    | .sequence items _ _ =>
      if items.size != n then
        throw ("invalid array: want " ++ toString n ++ " elements but got " ++ toString items.size)
      let (v, _) ← items.foldlM (fun (v, j) item => do
        let (x, good) ← elem.read doc fuel item zero
        pure (if good then (v.setIfInBounds j x, j + 1) else (v, j))) (current, 0)
      pure (v, true)
    | _ => refuse ("[" ++ toString n ++ "]" ++ elem.typeName) doc i current

/-- A value that may be absent. A node tagged null makes it absent when it
is a scalar and is a mismatch otherwise; any other node is read over the
present value, or over `zero`, and makes the value present. -/
def optional {α : Type} (d : Decoder α) (zero : α) : Decoder (Option α) where
  typeName := "*" ++ d.typeName
  body doc fuel i current := do
    let n := doc.node i
    if n.tag == "!!null" then
      match n with
      | .scalar .. =>
        match ← scalarValue n with
        | none => pure (none, true)
        | some _ => do mismatch n ("*" ++ d.typeName); pure (current, false)
      | _ => refuse ("*" ++ d.typeName) doc i current
    else
      let (v, good) ← d.body doc fuel i (current.getD zero)
      pure (some v, good)

/-- A field of a record: its key and how a node is read into the record,
given the fuel that bounds the nesting. -/
structure Field (α : Type) where
  key : String
  read : Document → Nat → Nat → α → Decoding α

/-- The field `key` read by `d` through `get` and `set`. -/
def Field.of {α β : Type} (key : String) (d : Decoder β) (get : α → β) (set : α → β → α) : Field α where
  key := key
  read doc fuel i r := do
    let (v, _) ← d.read doc fuel i (get r)
    pure (set r v)

def isMergeKey (n : Node) : Bool :=
  match n with
  | .scalar v _ tag _ => v == "<<" && tag == "!!merge"
  | _ => false

/-- The text a key stands for when it is a string: a scalar that resolves to
text or to a timestamp, read through aliases. -/
def keyText (doc : Document) : Nat → Nat → Decoding (Option String)
  | 0, _ => pure none
  | fuel + 1, i => readStep doc i (keyText doc fuel) do
    let n := doc.node i
    match n with
    | .scalar .. =>
      match ← scalarValue n with
      | some (_, .str s) => pure (some s)
      | some (_, .timestamp) => pure (some n.value)
      | _ => pure none
    | _ => pure none

/-- Merges the value `source` of the merge key of a mapping with keys `pairs`
into the record `r`, reading each mapping with `again`. Unless a merge is
already under way, the keys of the mapping itself are the ones taken. -/
def mergeInto {α : Type} (again : Nat → α → Decoding (α × Bool)) (doc : Document) (fuel : Nat)
    (pairs : Array (Nat × Nat)) (source : Nat) (r : α) : Decoding α := do
  let saved := (← get).merged
  if saved.isNone then
    let names ← pairs.foldlM (fun names (k, _) => do
      match ← keyText doc fuel k with
      | some s => pure (s :: names)
      | none => pure names) []
    modify fun s => { s with merged := some names }
  let refused : Decoding α := throw "map merge requires map or sequence of maps as the value"
  let isMapping (j : Nat) : Bool :=
    match doc.node j with
    | .mapping .. => true
    | _ => false
  let r ← match doc.node source with
    | .mapping .. => Prod.fst <$> again source r
    | .alias _ target _ => if isMapping target then Prod.fst <$> again source r else refused
    | .sequence items _ _ =>
      items.foldlM (fun r j =>
        match doc.node j with
        | .alias _ target _ => if isMapping target then Prod.fst <$> again j r else refused
        | .mapping .. => Prod.fst <$> again j r
        | _ => refused) r
    | _ => refused
  modify fun s => { s with merged := saved }
  pure r

/-- Reads the keys and values `pairs` of a mapping into a record of type
`typeName`, and then the mappings its merge key gives. A key taken by the
merge under way is passed over. -/
def recordPairs {α : Type} (typeName : String) (fields : List (Field α)) (again : Nat → α → Decoding (α × Bool))
    (doc : Document) (fuel : Nat) (pairs : Array (Nat × Nat)) (r : α) : Decoding α := do
  let taken := (← get).merged
  modify fun s => { s with merged := none }
  let (r, taken, _, source) ← pairs.foldlM (fun (r, taken, done, source) (k, v) => do
    let key := doc.node k
    if isMergeKey key then return (r, taken, done, some v)
    let (name, named) ← text.read doc fuel k ""
    if !named then return (r, taken, done, source)
    match taken with
    | some names => if names.contains name then return (r, taken, done, source)
    | none => pure ()
    let taken := taken.map (name :: ·)
    match fields.find? (·.key == name) with
    | some f =>
      if done.contains name then
        report ("line " ++ toString key.line ++ ": field " ++ name ++ " already set in type " ++ typeName)
        return (r, taken, done, source)
      let r ← f.read doc fuel v r
      pure (r, taken, name :: done, source)
    | none => pure (r, taken, done, source)) (r, taken, ([] : List String), (none : Option Nat))
  modify fun s => { s with merged := taken }
  match source with
  | some m => mergeInto again doc fuel pairs m r
  | none => pure r

/-- Reads a node that is not an alias into a record; `again` reads a node into it once more. -/
def recordBody {α : Type} (typeName : String) (fields : List (Field α)) (again : Nat → α → Decoding (α × Bool))
    (doc : Document) (fuel i : Nat) (r : α) : Decoding (α × Bool) := do
  match doc.node i with
  | .mapping pairs _ _ =>
    if (← repeatedKeys doc pairs) then return (r, false)
    pure (← recordPairs typeName fields again doc fuel pairs r, true)
  | _ => refuse typeName doc i r

/-- Reads node `i` into a record, through aliases. -/
def recordRead {α : Type} (typeName : String) (fields : List (Field α)) (doc : Document) :
    Nat → Nat → α → Decoding (α × Bool)
  | 0, _, r => pure (r, false)
  | fuel + 1, i, r =>
    readStep doc i (fun target => recordRead typeName fields doc fuel target r)
      (recordBody typeName fields (recordRead typeName fields doc fuel) doc fuel i r)

/-- A record read from a mapping, field by field; unknown keys are passed over. -/
def record {α : Type} (typeName : String) (fields : List (Field α)) : Decoder α where
  typeName := typeName
  body doc fuel i r := recordBody typeName fields (recordRead typeName fields doc fuel) doc fuel i r

/-- Reads a document over an initial value. A problem of the document's text
or a fatal one of reading is the error; otherwise the mismatches are, listed
one per line, if there are any. -/
def unmarshal {α : Type} (d : Decoder α) (source : String) (initial : α) : Except String α :=
  match readDocument source with
  | .error e => .error ("yaml: " ++ e.message)
  | .ok none => .ok initial
  | .ok (some doc) =>
    let fuel := (doc.nodes.size + 1) * (doc.nodes.size + 1) + 8
    match ((d.read doc fuel doc.root initial).run).run { decodeCount := 1 } with
    | (.error message, _) => .error ("yaml: " ++ message)
    | (.ok (v, _), s) =>
      if s.mismatches.isEmpty then .ok v
      else .error ("yaml: unmarshal errors:\n  " ++ "\n  ".intercalate s.mismatches.toList)

end Acquisition.Text.Yaml
