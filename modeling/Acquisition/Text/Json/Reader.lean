import Acquisition.Text.Json
import Acquisition.Text.Quoted
/-! Reading the first JSON value of a text with a pushdown scanner, one step per character, stopping
as soon as the value is complete. -/
namespace Acquisition.Json

/-- Where in the grammar an unexpected character was met. -/
inductive Place where
  | valueStart
  | keyStart
  | afterKey
  | afterMember
  | afterItem
  | inString
  | inNumber
  | inLiteral (word : String) (expected : Char)
  deriving Inhabited, BEq

/-- Why a text holds no JSON value. -/
inductive ReadError where
  | empty
  | truncated
  | unexpected (c : Char) (place : Place)
  /-- An escape sequence that is not one: its bytes from the backslash, six
  at most for a hexadecimal escape and two for any other. -/
  | badEscape (sequence : List UInt8)
  deriving Inhabited, BEq

def charLiteral (c : Char) : String :=
  if c == '\'' then "'\\''"
  else if c == '"' then "'\"'"
  else "'" ++ Text.quoteChar '"' c ++ "'"

def Place.describe : Place → String
  | .valueStart => "looking for beginning of value"
  | .keyStart => "looking for beginning of object key string"
  | .afterKey => "after object key"
  | .afterMember => "after object key:value pair"
  | .afterItem => "after array element"
  | .inString => "in string"
  | .inNumber => "in numeric literal"
  | .inLiteral word expected => "in literal " ++ word ++ " (expecting " ++ charLiteral expected ++ ")"

/-- Whether bytes can be shown as they are between backquotes: they are
well-formed, and hold no backquote, replacement character, space or character
that is not graphic. -/
def showsPlain (sequence : List UInt8) : Bool :=
  (Text.pieces sequence).all fun
    | .char c => c != '\x60' && c != Text.replacement && c != ' ' && Text.isGraphic c
    | .stray _ => false

def ReadError.message : ReadError → String
  | .empty => "EOF"
  | .truncated => "unexpected EOF"
  | .unexpected c place => "invalid character " ++ charLiteral c ++ " " ++ place.describe
  | .badEscape sequence =>
    "invalid escape sequence " ++
      (if showsPlain sequence then "\x60" ++ Text.decodeLossy sequence ++ "\x60"
       else Text.quoteBytes sequence) ++ " in string"

/-- An open container; the items read so far are kept newest first. -/
inductive Open where
  | array (items : List Json)
  | object (members : List (String × Json))
  | member (members : List (String × Json)) (key : String)

/-- The part of a string literal in progress. -/
inductive TextMode where
  | plain
  | escape
  | hex (left : Nat)
  deriving BEq

/-- The part of a number in progress. -/
inductive NumberPhase where
  | sign
  | zero
  | digits
  | point
  | fraction
  | exponent
  | exponentSign
  | exponentDigits
  deriving BEq

def NumberPhase.complete : NumberPhase → Bool
  | .zero | .digits | .fraction | .exponentDigits => true
  | _ => false

/-- What the scanner expects next. -/
inductive Lex where
  | value
  | valueOrClose
  | keyOrClose
  | key
  | colon
  | next
  | text (raw : List Char) (mode : TextMode) (isKey : Bool)
  | number (raw : List Char) (phase : NumberPhase)
  | word (rest : List Char) (word : String) (result : Json)

inductive Scan where
  | going (lex : Lex) (stack : List Open)
  | done (value : Json)
  | failed (error : ReadError)

def isBlank (c : Char) : Bool := c == ' ' || c == '\t' || c == '\n' || c == '\r'

def isHexDigit (c : Char) : Bool :=
  c.isDigit || ('a' ≤ c && c ≤ 'f') || ('A' ≤ c && c ≤ 'F')

def hexValue (c : Char) : Nat :=
  if c.isDigit then c.toNat - 48
  else if 'a' ≤ c && c ≤ 'f' then c.toNat - 87
  else c.toNat - 55

def hexValue4 (a b c d : Char) : Nat :=
  ((hexValue a * 16 + hexValue b) * 16 + hexValue c) * 16 + hexValue d

def unitChar (unit : Nat) : Char :=
  if 0xD800 ≤ unit && unit < 0xE000 then '\ufffd' else Char.ofNat unit

/-- The characters of a string literal's body with its escapes resolved; the
scanner has checked that every escape is well formed. `high` is a leading
surrogate escape waiting for its partner: with it the pair is one character,
and a surrogate escape without its partner is the replacement character. -/
def unescapeFrom (high : Option Nat) : List Char → List Char
  | '\\' :: 'u' :: a :: b :: c :: d :: rest =>
    let unit := hexValue4 a b c d
    let lead := 0xD800 ≤ unit && unit < 0xDC00
    match high with
    | some h =>
      if 0xDC00 ≤ unit && unit < 0xE000 then
        Char.ofNat (0x10000 + (h - 0xD800) * 0x400 + (unit - 0xDC00)) :: unescapeFrom none rest
      else if lead then '\ufffd' :: unescapeFrom (some unit) rest
      else '\ufffd' :: unitChar unit :: unescapeFrom none rest
    | none =>
      if lead then unescapeFrom (some unit) rest else unitChar unit :: unescapeFrom none rest
  | '\\' :: c :: rest =>
    let d := match c with
      | 'b' => '\x08'
      | 'f' => '\x0c'
      | 'n' => '\n'
      | 'r' => '\r'
      | 't' => '\t'
      | c => c
    (if high.isSome then ['\ufffd'] else []) ++ d :: unescapeFrom none rest
  | c :: rest => (if high.isSome then ['\ufffd'] else []) ++ c :: unescapeFrom none rest
  | [] => if high.isSome then ['\ufffd'] else []

def unescape (body : List Char) : List Char := unescapeFrom none body

/-- A complete value meets the stack: it becomes the result at the top, an
item of an array, or the value of a member. -/
def settle (v : Json) : List Open → Scan
  | [] => .done v
  | .array items :: stack => .going .next (.array (v :: items) :: stack)
  | .member members key :: stack => .going .next (.object ((key, v) :: members) :: stack)
  | .object members :: stack => .going .next (.object members :: stack)

/-- The start of a value. -/
def begin (stack : List Open) (c : Char) : Scan :=
  match c with
  | '{' => .going .keyOrClose (.object [] :: stack)
  | '[' => .going .valueOrClose (.array [] :: stack)
  | '"' => .going (.text [] .plain false) stack
  | '-' => .going (.number ['-'] .sign) stack
  | '0' => .going (.number ['0'] .zero) stack
  | 't' => .going (.word ['r', 'u', 'e'] "true" (.bool true)) stack
  | 'f' => .going (.word ['a', 'l', 's', 'e'] "false" (.bool false)) stack
  | 'n' => .going (.word ['u', 'l', 'l'] "null" .null) stack
  | c =>
    if c.isDigit then .going (.number [c] .digits) stack
    else if isBlank c then .going .value stack
    else .failed (.unexpected c .valueStart)

/-- What may follow a complete value inside a container. -/
def afterValue (stack : List Open) (c : Char) : Scan :=
  if isBlank c then .going .next stack else
  match stack, c with
  | .array _ :: _, ',' => .going .value stack
  | .array items :: rest, ']' => settle (.array items.reverse) rest
  | .array _ :: _, c => .failed (.unexpected c .afterItem)
  | .object _ :: _, ',' => .going .key stack
  | .object members :: rest, '}' => settle (.object members.reverse) rest
  | _, c => .failed (.unexpected c .afterMember)

/-- A number continues with `c`, or ends before it. -/
def numberStep (raw : List Char) (phase : NumberPhase) (stack : List Open) (c : Char) : Scan :=
  let go (p : NumberPhase) := Scan.going (.number (c :: raw) p) stack
  match phase with
  | .sign => if c == '0' then go .zero else if c.isDigit then go .digits
      else .failed (.unexpected c .inNumber)
  | .point => if c.isDigit then go .fraction else .failed (.unexpected c .inNumber)
  | .exponent => if c == '+' || c == '-' then go .exponentSign
      else if c.isDigit then go .exponentDigits
      else .failed (.unexpected c .inNumber)
  | .exponentSign => if c.isDigit then go .exponentDigits else .failed (.unexpected c .inNumber)
  | .digits => if c.isDigit then go .digits else if c == '.' then go .point
      else if c == 'e' || c == 'E' then go .exponent else finish
  | .zero => if c == '.' then go .point else if c == 'e' || c == 'E' then go .exponent else finish
  | .fraction => if c.isDigit then go .fraction else if c == 'e' || c == 'E' then go .exponent
      else finish
  | .exponentDigits => if c.isDigit then go .exponentDigits else finish
where
  finish : Scan :=
    match settle (.number (String.ofList raw.reverse)) stack with
    | .going .next stack' => afterValue stack' c
    | s => s

def isHexByte (b : UInt8) : Bool :=
  (48 ≤ b && b ≤ 57) || (65 ≤ b && b ≤ 70) || (97 ≤ b && b ≤ 102)

/-- The step after the backslash of an escape, at `c` with `rest` after it.
A hexadecimal escape needs four hexadecimal digits: when the text ends before
four bytes follow and those there are digits, the text is truncated; otherwise
the escape's first six bytes are refused. Any other escape is a single
character from a fixed set. -/
def escapeStep (raw : List Char) (isKey : Bool) (stack : List Open) (c : Char) (rest : List Char) : Scan :=
  if c == 'u' then
    let after := (String.ofList (rest.take 4)).toUTF8.toList.take 4
    if after.all isHexByte then .going (.text (c :: raw) (.hex 4) isKey) stack
    else .failed (.badEscape ([0x5C, 0x75] ++ after))
  else if "bfnrt\\/\"".contains c then .going (.text (c :: raw) .plain isKey) stack
  else .failed (.badEscape (0x5C :: c.toString.toUTF8.toList.take 1))

/-- One character read in the state `lex` over the open containers `stack`,
with the characters after it. -/
def advance (lex : Lex) (stack : List Open) (c : Char) (rest : List Char) : Scan :=
  match lex with
  | .value => begin stack c
  | .valueOrClose =>
    match c, stack with
    | ']', _ :: rest => settle (.array []) rest
    | c, _ => if isBlank c then .going .valueOrClose stack else begin stack c
  | .keyOrClose =>
    match c, stack with
    | '}', _ :: rest => settle (.object []) rest
    | '"', _ => .going (.text [] .plain true) stack
    | c, _ => if isBlank c then .going .keyOrClose stack else .failed (.unexpected c .keyStart)
  | .key =>
    if c == '"' then .going (.text [] .plain true) stack
    else if isBlank c then .going .key stack
    else .failed (.unexpected c .keyStart)
  | .colon =>
    if c == ':' then .going .value stack
    else if isBlank c then .going .colon stack
    else .failed (.unexpected c .afterKey)
  | .next => afterValue stack c
  | .text raw .plain isKey =>
    if c == '"' then
      let body := String.ofList (unescape raw.reverse)
      if isKey then
        match stack with
        | .object members :: rest => .going .colon (.member members body :: rest)
        | _ => .going .colon stack
      else settle (.string body) stack
    else if c == '\\' then .going (.text (c :: raw) .escape isKey) stack
    else if c.toNat < 32 then .failed (.unexpected c .inString)
    else .going (.text (c :: raw) .plain isKey) stack
  | .text raw .escape isKey => escapeStep raw isKey stack c rest
  | .text raw (.hex left) isKey =>
    .going (.text (c :: raw) (if left ≤ 1 then .plain else .hex (left - 1)) isKey) stack
  | .number raw phase => numberStep raw phase stack c
  | .word [] _ result => settle result stack
  | .word (e :: rest) word result =>
    if c == e then
      if rest.isEmpty then settle result stack else .going (.word rest word result) stack
    else .failed (.unexpected c (.inLiteral word e))

def Scan.run : Scan → List Char → Scan
  | .going lex stack, c :: rest => Scan.run (advance lex stack c rest) rest
  | s, _ => s

/-- The outcome once the text has ended. A number at the top ends with the text. -/
def Scan.close : Scan → Except ReadError Json
  | .done v => .ok v
  | .failed e => .error e
  | .going .value [] => .error .empty
  | .going (.number raw phase) [] =>
    if phase.complete then .ok (.number (String.ofList raw.reverse)) else .error .truncated
  | .going _ _ => .error .truncated

def read (s : String) : Except ReadError Json :=
  (Scan.run (.going .value []) s.toList).close

end Acquisition.Json
