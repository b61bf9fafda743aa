/-! JSON documents whose numbers keep their literal text, written compactly with members in the
order given. -/
namespace Acquisition

/-- A JSON value; numbers are kept as their literal text. -/
inductive Json where
  | null
  | bool (value : Bool)
  | number (literal : String)
  | string (value : String)
  | array (items : List Json)
  | object (members : List (String × Json))
  deriving Inhabited

namespace Json

def int (n : Int) : Json := .number (toString n)

def nat (n : Nat) : Json := .number (toString n)

def hexDigit (n : Nat) : Char :=
  if n < 10 then Char.ofNat (48 + n) else Char.ofNat (87 + n)

def unicodeEscape (n : Nat) : String :=
  "\\u" ++ String.ofList [hexDigit (n / 4096 % 16), hexDigit (n / 256 % 16),
    hexDigit (n / 16 % 16), hexDigit (n % 16)]

/-- How one character of a string is written. Quote and backslash take a
backslash; the five common controls have their short escapes; other controls,
the two line separators of Unicode and, when `markup` is set, the three
characters of HTML markup take a six-character escape. -/
def escapeChar (markup : Bool) (c : Char) : String :=
  match c with
  | '"' => "\\\""
  | '\\' => "\\\\"
  | '\n' => "\\n"
  | '\r' => "\\r"
  | '\t' => "\\t"
  | '\x08' => "\\b"
  | '\x0c' => "\\f"
  | c =>
    if c.toNat < 32 || c.toNat == 0x2028 || c.toNat == 0x2029 then unicodeEscape c.toNat
    else if markup && (c == '<' || c == '>' || c == '&') then unicodeEscape c.toNat
    else c.toString

def quote (markup : Bool) (s : String) : String :=
  "\"" ++ s.foldl (fun acc c => acc ++ escapeChar markup c) "" ++ "\""

mutual
/-- The compact text of a value. -/
def write (markup : Bool) : Json → String
  | .null => "null"
  | .bool true => "true"
  | .bool false => "false"
  | .number literal => literal
  | .string s => quote markup s
  | .array items => "[" ++ writeItems markup items ++ "]"
  | .object members => "\x7b" ++ writeMembers markup members ++ "\x7d"

def writeItems (markup : Bool) : List Json → String
  | [] => ""
  | [x] => write markup x
  | x :: rest => write markup x ++ "," ++ writeItems markup rest

def writeMembers (markup : Bool) : List (String × Json) → String
  | [] => ""
  | [(k, v)] => quote markup k ++ ":" ++ write markup v
  | (k, v) :: rest => quote markup k ++ ":" ++ write markup v ++ "," ++ writeMembers markup rest
end

def field? (j : Json) (name : String) : Option Json :=
  match j with
  | .object members => members.lookup name
  | _ => none

/-- Members with one entry per name, the last value given for it, kept where the
name was first given. -/
def lastWins (members : List (String × Json)) : List (String × Json) :=
  members.foldl (fun acc (k, v) =>
    if acc.any (·.1 == k) then acc.map fun (k', v') => if k' == k then (k', v) else (k', v')
    else acc ++ [(k, v)]) []

/-- The value of a member as a map would hold it: the last one of that name. -/
def member? (j : Json) (name : String) : Option Json :=
  match j with
  | .object members => (lastWins members).lookup name
  | _ => none

mutual
/-- The value with every object reduced to one member per name, sorted by name:
the form a map of names gives when it is written out. -/
def sorted : Json → Json
  | .array items => .array (sortedItems items)
  | .object members =>
    .object ((lastWins (sortedMembers members)).mergeSort fun a b => a.1 ≤ b.1)
  | j => j

def sortedItems : List Json → List Json
  | [] => []
  | x :: rest => sorted x :: sortedItems rest

def sortedMembers : List (String × Json) → List (String × Json)
  | [] => []
  | (k, v) :: rest => (k, sorted v) :: sortedMembers rest
end

end Json

end Acquisition
