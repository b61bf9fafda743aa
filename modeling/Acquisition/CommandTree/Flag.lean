import Acquisition.Text.Integer
/-! Flags of a command tree: a long name and an optional shorthand, switches and text flags, mixed
with other words in any order until `--`. Help lists them sorted, usages aligned. -/
namespace Acquisition.CommandTree

/-- What a flag holds. -/
inductive Kind where
  | switch
  | text
  deriving DecidableEq, Repr

structure Flag where
  name : String
  shorthand : Option Char := none
  usage : String
  kind : Kind := .text
  /-- The value before any is given, as text. -/
  default : String := ""
  deriving Repr

namespace Flag

def implied (f : Flag) : String :=
  match f.kind with
  | .switch => "true"
  | .text => ""

def defaultIsEmpty (f : Flag) : Bool :=
  match f.kind with
  | .switch => f.default == "false"
  | .text => f.default.isEmpty

def displayName (f : Flag) : String :=
  match f.shorthand with
  | some c => "-" ++ c.toString ++ ", --" ++ f.name
  | none => "--" ++ f.name

/-- Checks a value given for the flag. A switch takes a truth value only and
keeps it as `true` or `false`; a text flag keeps any text. -/
def accept (f : Flag) (value : String) : Except String String :=
  match f.kind with
  | .text => .ok value
  | .switch =>
    match Text.parseBool value with
    | .ok b => .ok (toString b)
    | .error e =>
      .error ("invalid argument " ++ Text.quote value ++ " for " ++ Text.quote f.displayName ++
        " flag: " ++ e.message "ParseBool" value)

/-- The name of the flag's value and its usage as the listing shows them. A
word of the usage between backquotes names the value, and loses its quotes; a
text flag's value is otherwise called `string`, and a switch has none. -/
def valueAndUsage (f : Flag) : String × String :=
  match f.usage.splitOn "\x60" with
  | before :: name :: after@(_ :: _) => (name, before ++ name ++ "\x60".intercalate after)
  | _ => (match f.kind with
    | .switch => ""
    | .text => "string", f.usage)

/-- The two parts of the flag's line in a listing: the names with the value,
and the usage with the default. -/
def listingParts (f : Flag) : String × String :=
  let names := match f.shorthand with
    | some c => "  -" ++ c.toString ++ ", --" ++ f.name
    | none => "      --" ++ f.name
  let (value, usage) := f.valueAndUsage
  let left := if value.isEmpty then names else names ++ " " ++ value
  let shown := if f.defaultIsEmpty then ""
    else match f.kind with
      | .text => " (default " ++ Text.quote f.default ++ ")"
      | .switch => " (default " ++ f.default ++ ")"
  (left, usage ++ shown)

end Flag

def sortFlags (flags : List Flag) : List Flag :=
  flags.mergeSort fun a b => decide (a.name ≤ b.name)

/-- The listing of some flags: one line each, sorted by name, the usages one
space after the longest names. A line break in a usage is followed by an
indent to the usage column. -/
def flagListing (flags : List Flag) : String :=
  let parts := (sortFlags flags).map Flag.listingParts
  let width := parts.foldl (fun m (left, _) => max m (left.utf8ByteSize + 1)) 0
  let indent := "\n".pushn ' ' (width + 2)
  String.join (parts.map fun (left, right) =>
    left ++ " " ++ "".pushn ' ' (width - left.utf8ByteSize) ++ " " ++
      indent.intercalate (right.splitOn "\n") ++ "\n")

def findLong (flags : List Flag) (name : String) : Option Flag :=
  flags.find? (·.name == name)

def findShort (flags : List Flag) (c : Char) : Option Flag :=
  flags.find? (·.shorthand == some c)

def longNeedsNoValue (flags : List Flag) (name : String) : Bool :=
  match findLong flags name with
  | some f => !f.implied.isEmpty
  | none => false

/-- Whether the flag whose shorthand starts `name` needs no value. -/
def shortNeedsNoValue (flags : List Flag) (name : String) : Bool :=
  match name.toList with
  | c :: _ =>
    match findShort flags c with
    | some f => !f.implied.isEmpty
    | none => false
  | [] => false

/-- Why reading the flags stopped. -/
inductive Stop where
  /-- Help was asked for by a name that is no flag. -/
  | help
  | error (message : String)
  deriving DecidableEq, Repr

/-- The flags read from some words, and the words that are not flags. -/
structure Parsed where
  /-- The values given, the latest first. -/
  values : List (String × String) := []
  args : List String := []
  deriving Repr

def Parsed.value (p : Parsed) (f : Flag) : String :=
  match p.values.lookup f.name with
  | some v => v
  | none => f.default

def Parsed.give (p : Parsed) (f : Flag) (value : String) : Except Stop Parsed :=
  match f.accept value with
  | .ok v => .ok { p with values := (f.name, v) :: p.values }
  | .error e => .error (.error e)

/-- A character as a quoted letter in a message. A letter outside ASCII stands
for the first byte of its encoding, read as a character of its own. -/
def quoteLetter (c : Char) : String :=
  let c := if c.toNat < 128 then c else
    match c.toString.toUTF8.toList with
    | b :: _ => Char.ofNat b.toNat
    | [] => c
  "'" ++ Text.quoteChar '\'' c ++ "'"

/-- Reads a group of shorthands after one dash; `rest` are the words after the
group. The result is the words left and the values read. -/
def readShorthands (flags : List Flag) : List Char → List String → Parsed →
    Except Stop (List String × Parsed)
  | [], rest, p => .ok (rest, p)
  | group@(c :: more), rest, p =>
    if (String.ofList group).startsWith "test." then .ok (rest, p)
    else
      match (if c.toNat < 128 then findShort flags c else none) with
      | none =>
        if c == 'h' then .error .help
        else .error (.error ("unknown shorthand flag: " ++ quoteLetter c ++ " in -" ++ String.ofList group))
      | some f =>
        match more with
        | '=' :: value@(_ :: _) => do pure (rest, ← p.give f (String.ofList value))
        | _ =>
          if !f.implied.isEmpty then do
            readShorthands flags more rest (← p.give f f.implied)
          else if !more.isEmpty then do pure (rest, ← p.give f (String.ofList more))
          else
            match rest with
            | value :: after => do pure (after, ← p.give f value)
            | [] => .error (.error ("flag needs an argument: " ++ quoteLetter c ++ " in -" ++ String.ofList group))

/-- Reads one word of the form `--name`, `--name=value` or `--name value`. -/
def readLong (flags : List Flag) (word : String) (rest : List String) (p : Parsed) :
    Except Stop (List String × Parsed) :=
  let body := (word.drop 2).toString
  if body.startsWith "-" || body.startsWith "=" then .error (.error ("bad flag syntax: " ++ word))
  else
    let (name, value?) := match body.splitOn "=" with
      | name :: value@(_ :: _) => (name, some ("=".intercalate value))
      | _ => (body, none)
    match findLong flags name with
    | none =>
      if name == "help" then .error .help else .error (.error ("unknown flag: --" ++ name))
    | some f =>
      match value? with
      | some v => do pure (rest, ← p.give f v)
      | none =>
        if !f.implied.isEmpty then do pure (rest, ← p.give f f.implied)
        else
          match rest with
          | v :: after => do pure (after, ← p.give f v)
          | [] => .error (.error ("flag needs an argument: " ++ word))

/-- Reads the flags among some words; `fuel` bounds the words read. -/
def readWords (flags : List Flag) : Nat → List String → Parsed → Except Stop Parsed
  | 0, words, p => .ok { p with args := p.args ++ words }
  | _ + 1, [], p => .ok p
  | fuel + 1, word :: rest, p =>
    if word == "--" then .ok { p with args := p.args ++ rest }
    else if word.length < 2 || !word.startsWith "-" then
      readWords flags fuel rest { p with args := p.args ++ [word] }
    else if word.startsWith "--" then do
      let (rest, p) ← readLong flags word rest p
      readWords flags fuel rest p
    else do
      let (rest, p) ← readShorthands flags (word.toList.drop 1) rest p
      readWords flags fuel rest p

def parse (flags : List Flag) (words : List String) : Except Stop Parsed :=
  readWords flags words.length words {}

end Acquisition.CommandTree
