import Acquisition.Text.Quoted
/-! Reading decimal integers: an optional sign and digits only, a value outside the requested width
a range error, anything else a syntax error. -/
namespace Acquisition.Text

inductive IntError where
  | malformed
  | range
  deriving DecidableEq, Repr

def IntError.message (routine input : String) : IntError → String
  | .malformed => "strconv." ++ routine ++ ": parsing " ++ quote input ++ ": invalid syntax"
  | .range => "strconv." ++ routine ++ ": parsing " ++ quote input ++ ": value out of range"

def digitsOf? (cs : List Char) : Option Nat :=
  if cs.isEmpty || !cs.all Char.isDigit then none
  else some (cs.foldl (fun n c => n * 10 + (c.toNat - 48)) 0)

/-- A signed decimal integer that fits in `bits` bits. -/
def readInt (s : String) (bits : Nat := 64) : Except IntError Int :=
  let (negative, body) := match s.toList with
    | '-' :: rest => (true, rest)
    | '+' :: rest => (false, rest)
    | cs => (false, cs)
  match digitsOf? body with
  | none => .error .malformed
  | some n =>
    let v : Int := if negative then -(n : Int) else n
    if v < -(Nat.pow 2 (bits - 1) : Int) || v ≥ (Nat.pow 2 (bits - 1) : Int) then .error .range else .ok v

/-- The value of digits in a base, if every one of them is a digit of it. -/
def digitsInBase? (base : Nat) (cs : List Char) : Option Nat :=
  if cs.isEmpty then none else
  cs.foldlM (fun n c =>
    let d := if c.isDigit then c.toNat - 48
      else if 'a' ≤ c && c ≤ 'z' then c.toNat - 87
      else if 'A' ≤ c && c ≤ 'Z' then c.toNat - 55 else 99
    if d < base then some (n * base + d) else none) 0

/-- A magnitude whose base is told by its prefix: `0x` hexadecimal, `0o` or a
leading `0` octal, `0b` binary, else decimal. -/
def prefixedMagnitude? (cs : List Char) : Option Nat :=
  match cs with
  | '0' :: 'x' :: ds | '0' :: 'X' :: ds => digitsInBase? 16 ds
  | '0' :: 'o' :: ds | '0' :: 'O' :: ds => digitsInBase? 8 ds
  | '0' :: 'b' :: ds | '0' :: 'B' :: ds => digitsInBase? 2 ds
  | '0' :: ds@(_ :: _) => digitsInBase? 8 ds
  | ds => digitsInBase? 10 ds

/-- A signed integer of 64 bits, its base told by its prefix. -/
def readPrefixedInt? (s : String) : Option Int :=
  let (negative, body) := match s.toList with
    | '-' :: rest => (true, rest)
    | '+' :: rest => (false, rest)
    | cs => (false, cs)
  match prefixedMagnitude? body with
  | none => none
  | some n =>
    let v : Int := if negative then -(n : Int) else n
    if v < -(Nat.pow 2 63 : Int) || v ≥ (Nat.pow 2 63 : Int) then none else some v

/-- An unsigned integer of 64 bits, its base told by its prefix; no sign is allowed. -/
def readPrefixedNat? (s : String) : Option Nat :=
  match prefixedMagnitude? s.toList with
  | some n => if n < Nat.pow 2 64 then some n else none
  | none => none

def readNat (s : String) (bits : Nat := 64) : Except IntError Nat :=
  match digitsOf? s.toList with
  | none => .error .malformed
  | some n => if n ≥ Nat.pow 2 bits then .error .range else .ok n

def digitValue (c : Char) : Nat :=
  if c.isDigit then c.toNat - 48
  else if 'a' ≤ c && c ≤ 'z' then c.toNat - 87
  else if 'A' ≤ c && c ≤ 'Z' then c.toNat - 55 else 36

/-- The base a prefix announces (`0b`, `0o`, `0x`, or a bare leading `0` for
octal), and the digits after it. Without a prefix the base is ten. -/
def basePrefix (cs : List Char) : Nat × List Char :=
  match cs with
  | '0' :: p :: d :: rest =>
    if p == 'b' || p == 'B' then (2, d :: rest)
    else if p == 'o' || p == 'O' then (8, d :: rest)
    else if p == 'x' || p == 'X' then (16, d :: rest)
    else (8, p :: d :: rest)
  | '0' :: rest => (8, rest)
  | cs => (10, cs)

/-- Whether the underscores of a number stand only between digits, or between
a base prefix and a digit. -/
def underscoresFit (cs : List Char) : Bool :=
  let cs := match cs with
    | '-' :: rest | '+' :: rest => rest
    | cs => cs
  let (start, hex, body) := match cs with
    | '0' :: p :: rest =>
      if p == 'b' || p == 'B' || p == 'o' || p == 'O' then ('0', false, rest)
      else if p == 'x' || p == 'X' then ('0', true, rest)
      else ('^', false, cs)
    | cs => ('^', false, cs)
  let last := body.foldl (fun (saw : Option Char) c =>
    saw.bind fun saw =>
      if c.isDigit || (hex && ((('a' ≤ c && c ≤ 'f')) || ('A' ≤ c && c ≤ 'F'))) then some '0'
      else if c == '_' then (if saw == '0' then some '_' else none)
      else if saw == '_' then none
      else some '!') (some start)
  match last with
  | some c => c != '_'
  | none => false

/-- An unsigned integer below `2 ^ bits`, its base told by its prefix and its
digits possibly grouped by underscores. A value too large is a range error
as soon as it overflows, before any later bad digit is seen. -/
def parseUnsigned (s : String) (bits : Nat := 64) : Except IntError Nat :=
  if s.isEmpty then .error .malformed else
  let (base, digits) := basePrefix s.toList
  let bound := Nat.pow 2 bits
  let step (acc : Except IntError (Nat × Bool)) (c : Char) : Except IntError (Nat × Bool) := do
    let (n, underscores) ← acc
    if c == '_' then return (n, true)
    let d := digitValue c
    if d ≥ base then throw .malformed
    if n * base + d ≥ bound then throw .range
    return (n * base + d, underscores)
  match digits.foldl step (.ok (0, false)) with
  | .error e => .error e
  | .ok (n, underscores) => if underscores && !underscoresFit s.toList then .error .malformed else .ok n

/-- A signed integer that fits in `bits` bits, read like an unsigned one after
an optional sign. -/
def parseSigned (s : String) (bits : Nat := 64) : Except IntError Int :=
  if s.isEmpty then .error .malformed else
  let (negative, body) := match s.toList with
    | '-' :: rest => (true, String.ofList rest)
    | '+' :: rest => (false, String.ofList rest)
    | _ => (false, s)
  let limit := Nat.pow 2 (bits - 1)
  match parseUnsigned body bits with
  | .error .malformed => .error .malformed
  | .error .range => .error .range
  | .ok n =>
    if !negative && n ≥ limit then .error .range
    else if negative && n > limit then .error .range
    else .ok (if negative then -(n : Int) else n)

/-- An unsigned integer below `2 ^ bits` written in `base`, without a prefix
or underscores. A value too large is a range error as soon as it overflows. -/
def parseUnsignedIn (base : Nat) (s : String) (bits : Nat := 64) : Except IntError Nat :=
  if s.isEmpty then .error .malformed else
  s.toList.foldl (fun acc c => do
    let n ← acc
    let d := digitValue c
    if d ≥ base then throw .malformed
    if n * base + d ≥ Nat.pow 2 bits then throw .range
    pure (n * base + d)) (.ok 0)

/-- A signed integer that fits in `bits` bits written in `base`, after an optional sign. -/
def parseSignedIn (base : Nat) (s : String) (bits : Nat := 64) : Except IntError Int :=
  if s.isEmpty then .error .malformed else
  let (negative, body) := match s.toList with
    | '-' :: rest => (true, String.ofList rest)
    | '+' :: rest => (false, String.ofList rest)
    | _ => (false, s)
  let limit := Nat.pow 2 (bits - 1)
  match parseUnsignedIn base body bits with
  | .error e => .error e
  | .ok n =>
    if !negative && n ≥ limit then .error .range
    else if negative && n > limit then .error .range
    else .ok (if negative then -(n : Int) else n)

/-- A truth value: `1`, `t`, `T`, `TRUE`, `true`, `True` or their false counterparts. -/
def parseBool (s : String) : Except IntError Bool :=
  if ["1", "t", "T", "TRUE", "true", "True"].contains s then .ok true
  else if ["0", "f", "F", "FALSE", "false", "False"].contains s then .ok false
  else .error .malformed

end Acquisition.Text
