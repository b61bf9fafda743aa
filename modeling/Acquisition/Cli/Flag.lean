import Acquisition.Text.Integer
import Acquisition.Text.Quoted
import Acquisition.Duration
/-! Command-line flags: one or more names, with one or two dashes, before the arguments, `--` ending
them. Values come after `=` or as the next word; booleans only after `=`. Integers read in their
prefix's base. -/
namespace Acquisition.Cli

/-- The value of a flag. -/
inductive FlagValue where
  | bool (b : Bool)
  | string (s : String)
  | int (n : Int)
  | uint (n : Nat)
  /-- A duration in nanoseconds. -/
  | duration (ns : Int)
  deriving Inhabited

structure Flag where
  /-- The name, then the aliases. -/
  names : List String
  usage : String := ""
  /-- The value when the flag is not given; its constructor is the flag's kind. -/
  default : FlagValue
  /-- The environment variable that may also set the flag. -/
  envVar : Option String := none
  required : Bool := false
  /-- Whether the help text leaves the default out. -/
  hideDefault : Bool := false

namespace Flag

def name (f : Flag) : String := f.names.headD ""

def isBool (f : Flag) : Bool :=
  match f.default with
  | .bool _ => true
  | _ => false

/-- The default as the help text shows it; empty when there is nothing to show. -/
def defaultText (f : Flag) : String :=
  match f.default with
  | .bool b => toString b
  | .string s => if s.isEmpty then "" else Text.quote s
  | .int n => toString n
  | .uint n => toString n
  | .duration ns => Duration.text ns

/-- The flag's line in a help text: its names, a tab, and what it does. -/
def helpLine (f : Flag) : String :=
  let placeholder := if f.isBool then "" else " value"
  let names := ", ".intercalate (f.names.map fun n => (if n.length == 1 then "-" else "--") ++ n ++ placeholder)
  let shown := if f.hideDefault || f.defaultText.isEmpty then "" else " (default: " ++ f.defaultText ++ ")"
  let env := match f.envVar with
    | some v => " [$" ++ v ++ "]"
    | none => ""
  names ++ "\t" ++ (f.usage ++ shown).trimAscii.copy ++ env

/-- Reads a value of the flag's kind, or says why it cannot be one. -/
def read (f : Flag) (text : String) : Except String FlagValue :=
  let numeric (e : Text.IntError) : String := match e with
    | .malformed => "parse error"
    | .range => "value out of range"
  match f.default with
  | .bool _ =>
    match Text.parseBool text with
    | .ok b => .ok (.bool b)
    | .error _ => .error "parse error"
  | .string _ => .ok (.string text)
  | .int _ =>
    match Text.parseSigned text with
    | .ok n => .ok (.int n)
    | .error e => .error (numeric e)
  | .uint _ =>
    match Text.parseUnsigned text with
    | .ok n => .ok (.uint n)
    | .error e => .error (numeric e)
  | .duration _ =>
    match Duration.read? text with
    | .ok ns => .ok (.duration ns)
    | .error _ => .error "parse error"

end Flag

def helpFlag : Flag := { names := ["help", "h"], usage := "show help", default := .bool false, hideDefault := true }

def versionFlag : Flag :=
  { names := ["version", "v"], usage := "print the version", default := .bool false, hideDefault := true }

/-- The flags given on a command line: each with the name it was given by and
its value, in the order given. -/
abbrev Given := List (Nat × String × FlagValue)

def findFlag (flags : List Flag) (name : String) : Option (Nat × Flag) :=
  flags.zipIdx.find? (fun (f, _) => f.names.contains name) |>.map fun (f, i) => (i, f)

/-- Splits a flag word after its dashes at its first `=` past the first character. -/
def splitValue (body : String) : String × Option String :=
  match body.toList with
  | [] => ("", none)
  | c :: rest =>
    match rest.findIdx? (· == '=') with
    | some k => (String.ofList (c :: rest.take k), some (String.ofList (rest.drop (k + 1))))
    | none => (body, none)

/-- How reading the flags at the front of some words ended: the flags given,
in order, the words left, and the error that stopped the reading, if one did.
After an error the words left are those after the word in error and the value
it took. -/
structure Reading where
  given : Given
  rest : List String
  error : Option String := none

/-- Reads the flags at the front of the words; `given` holds those read so far, the last first. -/
def readFlags (flags : List Flag) : List String → Given → Reading
  | [], given => ⟨given.reverse, [], none⟩
  | word :: rest, given =>
    let stop (left : List String) (why : String) : Reading := ⟨given.reverse, left, some why⟩
    match word.toList with
    | '-' :: '-' :: [] => ⟨given.reverse, rest, none⟩
    | '-' :: c :: more =>
      let body := if c == '-' then String.ofList more else String.ofList (c :: more)
      match body.toList with
      | [] => stop (word :: rest) ("bad flag syntax: " ++ word)
      | first :: _ =>
        if first == '-' || first == '=' then stop (word :: rest) ("bad flag syntax: " ++ word) else
        let (name, value?) := splitValue body
        match findFlag flags name with
        | none =>
          if name == "help" || name == "h" then stop rest "flag: help requested"
          else stop rest ("flag provided but not defined: -" ++ name)
        | some (i, f) =>
          if f.isBool then
            match value? with
            | some v =>
              match f.read v with
              | .ok x => readFlags flags rest ((i, name, x) :: given)
              | .error why => stop rest ("invalid boolean value " ++ Text.quote v ++ " for -" ++ name ++ ": " ++ why)
            | none => readFlags flags rest ((i, name, .bool true) :: given)
          else
            let invalid (v : String) (why : String) : String :=
              "invalid value " ++ Text.quote v ++ " for flag -" ++ name ++ ": " ++ why
            match value? with
            | some v =>
              match f.read v with
              | .ok x => readFlags flags rest ((i, name, x) :: given)
              | .error why => stop rest (invalid v why)
            | none =>
              match rest with
              | v :: after =>
                match f.read v with
                | .ok x => readFlags flags after ((i, name, x) :: given)
                | .error why => stop after (invalid v why)
              | [] => stop [] ("flag needs an argument: -" ++ name)
    | _ => ⟨given.reverse, word :: rest, none⟩

/-- Refuses a flag given by two of its names. -/
def checkForms (flags : List Flag) (given : Given) : Except String Unit :=
  flags.zipIdx.forM fun (f, i) => do
    let used := f.names.filter fun n => given.any fun (j, m, _) => j == i && m == n
    match used with
    | first :: second :: _ => throw ("Cannot use two forms of the same flag: " ++ second ++ " " ++ first)
    | _ => pure ()

/-- The flags of a command line and the words after them. -/
def parse (flags : List Flag) (words : List String) : Except String (Given × List String) :=
  let reading := readFlags flags words []
  match reading.error with
  | some why => .error why
  | none => do
    checkForms flags reading.given
    pure (reading.given, reading.rest)

end Acquisition.Cli
