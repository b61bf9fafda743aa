/-! Durations in nanoseconds as text such as `1h30m`, `1.5s` or `250µs`: signed numbers with
fractions and units, within a signed 64-bit count. -/
namespace Acquisition.Duration

def limit : Nat := Nat.pow 2 63

/-- Nanoseconds per unit. -/
def unitValue? : String → Option Nat
  | "ns" => some 1
  | "us" | "µs" | "μs" => some 1000
  | "ms" => some 1000000
  | "s" => some 1000000000
  | "m" => some 60000000000
  | "h" => some 3600000000000
  | _ => none

def lowerHex (n : Nat) : Char := if n < 10 then Char.ofNat (48 + n) else Char.ofNat (87 + n)

/-- A text between double quotes as duration errors show it: quotes and
backslashes escaped, and each byte of a control or non-ASCII character as `\xhh`. -/
def quote (s : String) : String :=
  let body := s.toList.foldl (fun acc c =>
    if c.toNat < 32 || c.toNat ≥ 128 then
      (String.toUTF8 c.toString).foldl (fun a b =>
        a ++ "\\x" ++ (lowerHex (b.toNat / 16)).toString ++ (lowerHex (b.toNat % 16)).toString) acc
    else if c == '"' || c == '\\' then acc ++ "\\" ++ c.toString
    else acc.push c) ""
  "\"" ++ body ++ "\""

/-- Leading decimal digits as a number; `none` once it passes 2^63. -/
def leadingInt (cs : List Char) : Option (Nat × List Char) :=
  let ds := cs.takeWhile Char.isDigit
  let value := ds.foldl (fun acc c => acc.bind fun x =>
    if x > limit / 10 then none
    else
      let y := x * 10 + (c.toNat - 48)
      if y > limit then none else some y) (some 0)
  value.map fun v => (v, cs.drop ds.length)

/-- Leading fraction digits as a number and its scale; digits beyond the
precision of a 64-bit count are skipped. -/
def leadingFraction (cs : List Char) : Nat × Float × List Char :=
  let ds := cs.takeWhile Char.isDigit
  let (x, scale, _) := ds.foldl (fun (x, scale, overflow) c =>
    if overflow then (x, scale, true)
    else if x > (limit - 1) / 10 then (x, scale, true)
    else
      let y := x * 10 + (c.toNat - 48)
      if y > limit then (x, scale, true) else (y, scale * 10, false)) ((0 : Nat), (1 : Float), false)
  (x, scale, cs.drop ds.length)

/-- Reads the numbers with units that make up a duration, adding them to `total`. -/
def readTerms (orig : String) : Nat → List Char → Nat → Except String Nat
  | 0, _, total => .ok total
  | _, [], total => .ok total
  | fuel + 1, c :: rest, total => do
    let invalid := "time: invalid duration " ++ quote orig
    let cs := c :: rest
    if !(c == '.' || c.isDigit) then throw invalid
    let some (v, afterWhole) := leadingInt cs | throw invalid
    let pre := afterWhole.length != cs.length
    let (f, scale, afterFraction, post) := match afterWhole with
      | '.' :: r => let (f, scale, r') := leadingFraction r; (f, scale, r', r'.length != r.length)
      | _ => (0, 1, afterWhole, false)
    if !pre && !post then throw invalid
    let unitChars := afterFraction.takeWhile fun c => !(c == '.' || c.isDigit)
    if unitChars.isEmpty then throw ("time: missing unit in duration " ++ quote orig)
    let u := String.ofList unitChars
    let some unit := unitValue? u
      | throw ("time: unknown unit " ++ quote u ++ " in duration " ++ quote orig)
    if v > limit / unit then throw invalid
    let v := v * unit
    let v := if f > 0 then v + (f.toFloat * (unit.toFloat / scale)).toUInt64.toNat else v
    if v > limit then throw invalid
    let total := total + v
    if total > limit then throw invalid
    readTerms orig fuel (afterFraction.drop unitChars.length) total

/-- The duration a text denotes, in nanoseconds, or why it denotes none. -/
def read? (s : String) : Except String Int := do
  let (negative, body) := match s.toList with
    | '-' :: rest => (true, rest)
    | '+' :: rest => (false, rest)
    | cs => (false, cs)
  if body == ['0'] then return 0
  if body.isEmpty then throw ("time: invalid duration " ++ quote s)
  let total ← readTerms s (body.length + 1) body 0
  if negative then return -(total : Int)
  if total > limit - 1 then throw ("time: invalid duration " ++ quote s)
  return total

/-- The last `places` digits of `v` as a fraction without trailing zeros, and the part above them. -/
def fraction (v places : Nat) : String × Nat :=
  let low := v % Nat.pow 10 places
  let digits := (Nat.toDigits 10 low)
  let padded := List.replicate (places - digits.length) '0' ++ digits
  let trimmed := (padded.reverse.dropWhile (· == '0')).reverse
  (if low == 0 then "" else "." ++ String.ofList trimmed, v / Nat.pow 10 places)

/-- The text of a duration: `1h30m0s`, `1.5s`, `20ms`, `250µs`, `7ns` or `0s`. -/
def text (d : Int) : String :=
  let u := d.natAbs
  let body :=
    if u == 0 then "0s"
    else if u < 1000000000 then
      let (places, unit) :=
        if u < 1000 then (0, "ns") else if u < 1000000 then (3, "µs") else (6, "ms")
      let (frac, whole) := fraction u places
      toString whole ++ frac ++ unit
    else
      let (frac, seconds) := fraction u 9
      let minutes := seconds / 60
      let hours := minutes / 60
      let tail := toString (seconds % 60) ++ frac ++ "s"
      if minutes == 0 then tail
      else if hours == 0 then toString (minutes % 60) ++ "m" ++ tail
      else toString hours ++ "h" ++ toString (minutes % 60) ++ "m" ++ tail
  (if d < 0 then "-" else "") ++ body

end Acquisition.Duration
