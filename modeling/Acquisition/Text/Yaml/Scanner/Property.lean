import Acquisition.Text.Yaml.Scanner.Basic
import Acquisition.Text.Utf8
/-! Reading the anchors, aliases, tags and directives of a YAML stream. -/
namespace Acquisition.Text.Yaml

namespace Scanner

/-- Reads word characters. -/
def takeWord (s : Scanner) (acc : String) : Nat → Except Problem (Scanner × String)
  | 0 => pure (s, acc)
  | n + 1 => do
    if isWordChar (s.ch 0) then
      let acc := acc.push (s.ch 0)
      let s ← s.skip.ensure 1
      takeWord s acc n
    else pure (s, acc)

/-- An anchor (`&name`) or an alias (`*name`). The name must be followed by a
blank, a line break or one of `?:,]}%@` and the backquote. -/
def scanAnchor (s : Scanner) (isAlias : Bool) (fuel : Nat) : Except Problem (Scanner × Token) := do
  let start := s.mark
  let s ← s.skip.ensure 1
  let (s, name) ← s.takeWord "" fuel
  let stop := s.mark
  let c := s.ch 0
  if name.isEmpty || !(isBlankzChar c || c == '?' || c == ':' || c == ',' || c == ']' || c == '\x7d' ||
      c == '%' || c == '@' || c == '\x60') then
    throw (s.problemAt start "did not find expected alphabetic or numeric character")
  pure (s, ⟨if isAlias then .alias name else .anchor name, start, stop⟩)

def isUriChar (verbatim : Bool) (c : Char) : Bool :=
  isWordChar c || ";/?:@&=+$.%!~*'()".contains c || (verbatim && (c == ',' || c == '[' || c == ']'))

def sequenceLength (b : Nat) : Nat :=
  if b < 0x80 then 1 else if b / 32 == 6 then 2 else if b / 16 == 14 then 3 else if b / 8 == 30 then 4 else 0

/-- The bytes of escapes `%XY` that make one UTF-8 sequence; `left` is the
number of bytes still to read, and 1024 before the first. -/
def uriEscapes (s : Scanner) (start : Mark) (acc : Array UInt8) (left : Nat) :
    Nat → Except Problem (Scanner × Array UInt8)
  | 0 => pure (s, acc)
  | n + 1 => do
    if left == 0 then return (s, acc)
    let s ← s.ensure 3
    if !(s.ch 0 == '%' && isHexChar (s.ch 1) && isHexChar (s.ch 2)) then
      throw (s.problemAt start "did not find URI escaped octet")
    let octet := hexValue (s.ch 1) * 16 + hexValue (s.ch 2)
    let left ←
      if left == 1024 then
        let width := sequenceLength octet
        if width == 0 then throw (s.problemAt start "found an incorrect leading UTF-8 octet")
        pure width
      else if octet / 64 != 2 then throw (s.problemAt start "found an incorrect trailing UTF-8 octet")
      else pure left
    uriEscapes (s.skipN 3) start (acc.push octet.toUInt8) (left - 1) n

/-- The URI characters ahead, as bytes; whether any were read. -/
def uriChars (s : Scanner) (verbatim : Bool) (start : Mark) (acc : Array UInt8) (read : Bool) :
    Nat → Except Problem (Scanner × Array UInt8 × Bool)
  | 0 => pure (s, acc, read)
  | n + 1 => do
    let c := s.ch 0
    if !isUriChar verbatim c then return (s, acc, read)
    let (s, acc) ←
      if c == '%' then uriEscapes s start acc 1024 n
      else pure (s.skip, acc ++ (String.utf8EncodeChar c).toArray)
    let s ← s.ensure 1
    uriChars s verbatim start acc true n

/-- The URI of a tag, after the characters of `head` but its first. -/
def scanTagUri (s : Scanner) (verbatim : Bool) (head : String) (start : Mark) (fuel : Nat) :
    Except Problem (Scanner × String) := do
  let acc := (String.ofList (head.toList.drop 1)).toUTF8.toList.toArray
  let s ← s.ensure 1
  let (s, acc, read) ← s.uriChars verbatim start acc false fuel
  if !read && head.isEmpty then throw (s.problemAt start "did not find expected tag URI")
  pure (s, decodeLossy acc.toList)

/-- A tag handle: `!`, then word characters, then `!` if there is one. In a
directive the handle must be `!` or end with `!`. -/
def scanTagHandle (s : Scanner) (directive : Bool) (start : Mark) (fuel : Nat) :
    Except Problem (Scanner × String) := do
  let s ← s.ensure 1
  if s.ch 0 != '!' then throw (s.problemAt start "did not find expected '!'")
  let s ← s.skip.ensure 1
  let (s, word) ← s.takeWord "" fuel
  let handle := "!" ++ word
  if s.ch 0 == '!' then pure (s.skip, handle ++ "!")
  else if directive && handle != "!" then throw (s.problemAt start "did not find expected '!'")
  else pure (s, handle)

/-- A tag, with its handle and suffix: a verbatim tag has no handle, and the
non-specific tag `!` has no handle and the suffix `!`. It must be followed by
a blank or a line break, or by `,` inside a flow collection. -/
def scanTag (s : Scanner) (fuel : Nat) : Except Problem (Scanner × Token) := do
  let start := s.mark
  let s ← s.ensure 2
  let (s, handle, suffix) ←
    if s.ch 1 == '<' then do
      let (s, suffix) ← (s.skipN 2).scanTagUri true "" start fuel
      if s.ch 0 != '>' then throw (s.problemAt start "did not find the expected '>'")
      pure (s.skip, "", suffix)
    else do
      let (s, handle) ← s.scanTagHandle false start fuel
      if handle.length > 1 && handle.endsWith "!" then
        let (s, suffix) ← s.scanTagUri false "" start fuel
        pure (s, handle, suffix)
      else
        let (s, suffix) ← s.scanTagUri false handle start fuel
        pure (if suffix.isEmpty then (s, "", "!") else (s, "!", suffix))
  let s ← s.ensure 1
  if !isBlankzChar (s.ch 0) && (s.flowLevel == 0 || s.ch 0 != ',') then
    throw (s.problemAt start "did not find expected whitespace or line break")
  pure (s, ⟨.tag handle suffix, start, s.mark⟩)

/-- A number of a `%YAML` version: one or two digits. -/
def versionNumber (s : Scanner) (start : Mark) (value length : Nat) : Nat → Except Problem (Scanner × Nat)
  | 0 => pure (s, value)
  | n + 1 => do
    let c := s.ch 0
    if c.isDigit then
      if length + 1 > 2 then throw (s.problemAt start "found extremely long version number")
      let s ← s.skip.ensure 1
      versionNumber s start (value * 10 + (c.toNat - 48)) (length + 1) n
    else if length == 0 then throw (s.problemAt start "did not find expected version number")
    else pure (s, value)

/-- The value of a `%YAML` directive: blanks, then `major.minor`. -/
def versionValue (s : Scanner) (start : Mark) (fuel : Nat) : Except Problem (Scanner × Nat × Nat) := do
  let s ← s.ensure 1
  let s ← s.skipBlanks fuel
  let (s, major) ← s.versionNumber start 0 0 fuel
  if s.ch 0 != '.' then throw (s.problemAt start "did not find expected digit or '.' character")
  let s ← s.skip.ensure 1
  let (s, minor) ← s.versionNumber start 0 0 fuel
  pure (s, major, minor)

/-- The value of a `%TAG` directive: a handle and a prefix, each after blanks. -/
def tagDirectiveValue (s : Scanner) (start : Mark) (fuel : Nat) : Except Problem (Scanner × String × String) := do
  let s ← s.ensure 1
  let s ← s.skipBlanks fuel
  let (s, handle) ← s.scanTagHandle true start fuel
  let s ← s.ensure 1
  if !isBlankChar (s.ch 0) then throw (s.problemAt start "did not find expected whitespace")
  let s ← s.skipBlanks fuel
  let (s, pfx) ← s.scanTagUri true "" start fuel
  let s ← s.ensure 1
  if !isBlankzChar (s.ch 0) then throw (s.problemAt start "did not find expected whitespace or line break")
  pure (s, handle, pfx)

/-- A directive line: `%YAML` or `%TAG` with its value, then an optional
comment and the end of the line. -/
def scanDirective (s : Scanner) (fuel : Nat) : Except Problem (Scanner × Token) := do
  let start := s.mark
  let s ← s.skip.ensure 1
  let (s, name) ← s.takeWord "" fuel
  if name.isEmpty then throw (s.problemAt start "could not find expected directive name")
  if !isBlankzChar (s.ch 0) then throw (s.problemAt start "found unexpected non-alphabetical character")
  let (s, kind) ←
    if name == "YAML" then do
      let (s, major, minor) ← s.versionValue start fuel
      pure (s, TokenKind.versionDirective major minor)
    else if name == "TAG" then do
      let (s, handle, pfx) ← s.tagDirectiveValue start fuel
      pure (s, TokenKind.tagDirective handle pfx)
    else throw (s.problemAt start "found unknown directive name")
  let stop := s.mark
  let s ← s.ensure 1
  let s ← s.skipBlanks fuel
  let s ← if s.ch 0 == '#' then (·.1) <$> s.restOfLine "" fuel else pure s
  if !isBreakzChar (s.ch 0) then throw (s.problemAt start "did not find expected comment or line break")
  let s ← if isBreakChar (s.ch 0) then (·.skipLine) <$> s.ensure 2 else pure s
  pure (s, ⟨kind, start, stop⟩)

end Scanner

end Acquisition.Text.Yaml
