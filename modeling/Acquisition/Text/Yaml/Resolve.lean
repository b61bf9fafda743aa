import Acquisition.Text.Integer
import Acquisition.Decimal.Literal
/-! What the text of a YAML scalar stands for: null, booleans, integers in the base their prefix
tells, floats and timestamps, else strings; an explicit core tag must agree with the text. -/
namespace Acquisition.Text.Yaml

def standardTagPrefix : String := "tag:yaml.org,2002:"

def shortTag (tag : String) : String :=
  if tag.startsWith standardTagPrefix then "!!" ++ String.ofList (tag.toList.drop standardTagPrefix.length)
  else tag

/-- What a scalar's text stands for once its tag is known. -/
inductive Resolved where
  | null
  | bool (b : Bool)
  /-- An integer of the signed 64-bit range. -/
  | int (v : Int)
  /-- An integer beyond the signed 64-bit range, below 2^64. -/
  | uint (v : Nat)
  | float (v : Float)
  | timestamp
  | str (s : String)
  deriving Inhabited

def isResolvableTag (tag : String) : Bool :=
  ["", "!!str", "!!bool", "!!int", "!!float", "!!null", "!!timestamp"].contains tag

/-- The scalars that stand for themselves whatever follows their first character. -/
def fixedScalar? (text : String) : Option (String × Resolved) :=
  match text with
  | "true" | "True" | "TRUE" => some ("!!bool", .bool true)
  | "false" | "False" | "FALSE" => some ("!!bool", .bool false)
  | "" | "~" | "null" | "Null" | "NULL" => some ("!!null", .null)
  | ".nan" | ".NaN" | ".NAN" => some ("!!float", .float (0 / 0))
  | ".inf" | ".Inf" | ".INF" | "+.inf" | "+.Inf" | "+.INF" => some ("!!float", .float (1 / 0))
  | "-.inf" | "-.Inf" | "-.INF" => some ("!!float", .float (-1 / 0))
  | _ => none

/-- What the first character of a text lets it be: `S` a signed number, `D` a
number, `M` a fixed scalar, `.` a float or fixed scalar; `none` a string. -/
def hint (text : String) : Option Char :=
  match text.toList with
  | [] => some 'N'
  | c :: _ =>
    if c == '+' || c == '-' then some 'S'
    else if c.isDigit then some 'D'
    else if "yYnNtTfFoO~".contains c then some 'M'
    else if c == '.' then some '.'
    else none

/-- A decimal float: an optional sign, digits with an optional point and an
optional exponent, underscores allowed between digits. A value too large for
a double is refused. -/
def readFloat? (s : String) : Option Float :=
  let cs := s.toList
  let (negative, rest) := match cs with
    | '-' :: r => (true, r)
    | '+' :: r => (false, r)
    | _ => (false, cs)
  -- the digits of the mantissa, the count after the point, whether a point and an underscore came
  let rec mantissa (acc : List Char) (after : Nat) (dot underscore : Bool) :
      List Char → List Char × Nat × Bool × List Char
    | [] => (acc, after, underscore, [])
    | c :: more =>
      if c == '_' then mantissa acc after dot true more
      else if c == '.' then (if dot then (acc, after, underscore, c :: more) else mantissa acc after true underscore more)
      else if c.isDigit then mantissa (c :: acc) (if dot then after + 1 else after) dot underscore more
      else (acc, after, underscore, c :: more)
  let (digits, after, _, rest) := mantissa [] 0 false false rest
  if digits.isEmpty then none else
  let exponent? : Option Int := match rest with
    | [] => some 0
    | e :: more =>
      if e != 'e' && e != 'E' then none else
      let (sign, more) := match more with
        | '+' :: r => (1, r)
        | '-' :: r => (-1, r)
        | r => (1, r)
      match more with
      | d :: _ =>
        if !d.isDigit || !more.all (fun c => c.isDigit || c == '_') then none
        else some (sign * (Decimal.digitsValue (more.filter Char.isDigit) : Int))
      | [] => none
  match exponent? with
  | none => none
  | some e =>
    if cs.contains '_' && !underscoresFit cs then none else
    let v := (Decimal.Literal.mk negative (Decimal.digitsValue digits.reverse) (e - after)).toFloat
    if v.isInf then none else some v

/-- Whether a text has the shape of a YAML float: a sign, digits with an
optional point or a point and digits, and an optional exponent. -/
def hasFloatShape (s : String) : Bool :=
  let cs := match s.toList with
    | '-' :: r | '+' :: r => r
    | cs => cs
  let (whole, cs) := Decimal.spanDigits cs
  let (fractionOk, cs) := match cs with
    | '.' :: r => let (f, r) := Decimal.spanDigits r; (!whole.isEmpty || !f.isEmpty, r)
    | r => (!whole.isEmpty, r)
  fractionOk && match cs with
    | [] => true
    | e :: r =>
      (e == 'e' || e == 'E') &&
        let r := match r with
          | '-' :: r | '+' :: r => r
          | r => r
        !r.isEmpty && r.all Char.isDigit

/-- The days of a month of a year of the Gregorian calendar. -/
def daysInMonth (year month : Nat) : Nat :=
  if month == 2 then
    if year % 4 == 0 && (year % 100 != 0 || year % 400 == 0) then 29 else 28
  else if month == 4 || month == 6 || month == 9 || month == 11 then 30
  else 31

/-- One or two digits at the front. -/
def smallNumber (cs : List Char) : Option (Nat × List Char) :=
  match cs with
  | a :: b :: rest =>
    if !a.isDigit then none
    else if b.isDigit then some ((a.toNat - 48) * 10 + (b.toNat - 48), rest)
    else some (a.toNat - 48, b :: rest)
  | [a] => if a.isDigit then some (a.toNat - 48, []) else none
  | [] => none

/-- The fields of a timestamp layout. -/
inductive LayoutPart where
  /-- A character that must come; a blank stands for one or more blanks. -/
  | literal (c : Char)
  | year
  | month
  | day
  | hour
  | minute
  | second
  /-- An optional fraction of a second: a point or comma and digits. -/
  | fraction
  /-- `Z`, or a sign and `hh:mm`. -/
  | zone

/-- Reads a text by a layout, giving the year, month and day read. -/
def readLayout : List LayoutPart → List Char → Nat × Nat × Nat → Option (Nat × Nat × Nat)
  | [], [], date => some date
  | [], _ :: _, _ => none
  | f :: fs, cs, (y, mo, d) =>
    match f with
    | .literal ' ' =>
      match cs with
      | c :: _ => if c != ' ' then none else readLayout fs (cs.dropWhile (· == ' ')) (y, mo, d)
      | [] => readLayout fs [] (y, mo, d)
    | .literal c =>
      match cs with
      | c' :: rest => if c == c' then readLayout fs rest (y, mo, d) else none
      | [] => none
    | .year =>
      let ds := cs.take 4
      if ds.length == 4 && ds.all Char.isDigit then readLayout fs (cs.drop 4) (Decimal.digitsValue ds, mo, d)
      else none
    | .month => (smallNumber cs).bind fun (m, rest) =>
      if 1 ≤ m && m ≤ 12 then readLayout fs rest (y, m, d) else none
    | .day => (smallNumber cs).bind fun (v, rest) => readLayout fs rest (y, mo, v)
    | .hour => (smallNumber cs).bind fun (v, rest) => if v < 24 then readLayout fs rest (y, mo, d) else none
    | .minute => (smallNumber cs).bind fun (v, rest) => if v < 60 then readLayout fs rest (y, mo, d) else none
    | .second => (smallNumber cs).bind fun (v, rest) => if v < 60 then readLayout fs rest (y, mo, d) else none
    | .fraction =>
      match cs with
      | p :: c :: rest =>
        if (p == '.' || p == ',') && c.isDigit then readLayout fs (rest.dropWhile Char.isDigit) (y, mo, d)
        else readLayout fs cs (y, mo, d)
      | _ => readLayout fs cs (y, mo, d)
    | .zone =>
      match cs with
      | 'Z' :: rest => readLayout fs rest (y, mo, d)
      | sign :: h1 :: h2 :: ':' :: m1 :: m2 :: rest =>
        if (sign == '+' || sign == '-') && h1.isDigit && h2.isDigit && m1.isDigit && m2.isDigit &&
            Decimal.digitsValue [h1, h2] ≤ 24 && Decimal.digitsValue [m1, m2] ≤ 60 then
          readLayout fs rest (y, mo, d)
        else none
      | _ => none

/-- The layouts of timestamps: a date and a time with a zone, joined by `T`
or `t`; a date and a time without a zone, joined by blanks; a date alone. -/
def timestampLayouts : List (List LayoutPart) :=
  let date := [LayoutPart.year, .literal '-', .month, .literal '-', .day]
  let time := [LayoutPart.hour, .literal ':', .minute, .literal ':', .second, .fraction]
  [date ++ [.literal 'T'] ++ time ++ [.zone], date ++ [.literal 't'] ++ time ++ [.zone],
   date ++ [.literal ' '] ++ time, date]

/-- Whether a text is a timestamp: four digits and `-` first, then a layout
read through, with a day that the month has. -/
def isTimestamp (s : String) : Bool :=
  let cs := s.toList
  let year := cs.takeWhile Char.isDigit
  year.length == 4 && cs.getD 4 ' ' == '-' &&
    timestampLayouts.any fun layout =>
      match readLayout layout cs (0, 1, 1) with
      | some (y, m, d) => 1 ≤ d && d ≤ daysInMonth y m
      | none => false

/-- An integer read from a number of base `base`, signed or not. -/
def integerIn (base : Nat) (text : String) : Option Resolved :=
  match parseSignedIn base text with
  | .ok v => some (.int v)
  | .error _ =>
    match parseUnsignedIn base text with
    | .ok v => some (.uint v)
    | .error _ => none

/-- What a number-like text stands for: a timestamp (when `dates` allows), an
integer, a float, or a binary or octal integer written with `0b` or `0o`. -/
def resolveNumber (dates : Bool) (text : String) : String × Resolved :=
  if dates && isTimestamp text then ("!!timestamp", .timestamp) else
  let plain := String.ofList (text.toList.filter (· != '_'))
  match parseSigned plain with
  | .ok v => ("!!int", .int v)
  | .error _ =>
  match parseUnsigned plain with
  | .ok v => ("!!int", .uint v)
  | .error _ =>
  match (if hasFloatShape plain then readFloat? plain else none) with
  | some v => ("!!float", .float v)
  | none =>
  let digits := String.ofList (plain.toList.drop 2)
  let negated := "-" ++ String.ofList (plain.toList.drop 3)
  let binary :=
    if plain.startsWith "0b" then integerIn 2 digits
    else if plain.startsWith "-0b" then (parseSignedIn 2 negated).toOption.map .int
    else none
  let octal :=
    if plain.startsWith "0o" then integerIn 8 digits
    else if plain.startsWith "-0o" then (parseSignedIn 8 negated).toOption.map .int
    else none
  match binary.orElse fun _ => octal with
  | some r => ("!!int", r)
  | none => ("!!str", .str text)

/-- The tag and value of a scalar's text under a resolvable tag other than `!!str`. -/
def resolveText (tag text : String) : String × Resolved :=
  match hint text with
  | none => ("!!str", .str text)
  | some h =>
    match fixedScalar? text with
    | some r => r
    | none =>
      if h == '.' then
        match readFloat? text with
        | some v => ("!!float", .float v)
        | none => ("!!str", .str text)
      else if h == 'D' || h == 'S' then resolveNumber (tag == "" || tag == "!!timestamp") text
      else ("!!str", .str text)

def resolvePlain (text : String) : String × Resolved := resolveText "" text

/-- The tag and value of a scalar with tag `tag` (empty for none). A tag that
is not resolvable keeps the text; one of the core schema must agree with the
text, an integer standing also for a float; anything is a string. -/
def resolve (tag text : String) : Except String (String × Resolved) :=
  let tag := shortTag tag
  if !isResolvableTag tag then .ok (tag, .str text) else
  let (found, value) := if tag == "!!str" then ("!!str", .str text) else resolveText tag text
  if tag == "" || tag == found || tag == "!!str" then .ok (found, value)
  else match tag, value with
    | "!!float", .int v => .ok ("!!float", .float (Float.ofInt v))
    | _, _ => .error ("cannot decode " ++ found ++ " \x60" ++ text ++ "\x60 as a " ++ tag)

end Acquisition.Text.Yaml
