import Acquisition.Bench.Request
import Acquisition.Fault
import Acquisition.Decimal.Notation
/-! Answers of the bench: floats in their shortest form, `NaN` and `±Inf` as texts, a batch as its
four channels. An error adds `error` and `message`, with session ids, process numbers and ports
masked. -/
namespace Acquisition.Bench

def single (x : Float32) : Json :=
  let text := x.shortText
  if x.isNaN || x.isInf then .string text else .number text

def double (x : Float) : Json :=
  let text := x.shortText
  if x.isNaN || x.isInf then .string text else .number text

def batch (b : Batch) : Json :=
  .array (b.channels.toList.map fun c => .array (c.toList.map single))

def hexText (bs : ByteArray) : String :=
  bs.foldl (fun acc b => acc ++ Text.hexPadded 2 b.toNat) ""

def isLowerHex (c : Char) : Bool := c.isDigit || ('a' ≤ c && c ≤ 'f')

/-- Whether a list starts with a session identifier: hexadecimal groups of
8, 4, 4, 4 and 12 digits joined by dashes. -/
def startsWithIdentifier (cs : List Char) : Bool :=
  let groups := [8, 4, 4, 4, 12]
  let rec go : List Nat → List Char → Bool
    | [], _ => true
    | [n], cs => (cs.take n).length == n && (cs.take n).all isLowerHex
    | n :: rest, cs =>
      (cs.take n).length == n && (cs.take n).all isLowerHex && (cs.drop n).head? == some '-' &&
        go rest (cs.drop (n + 1))
  go groups cs

def maskNumberAfter (pattern replacement : List Char) : List Char → List Char
  | [] => []
  | c :: rest =>
    if (c :: rest).take pattern.length == pattern then
      match ((c :: rest).drop pattern.length).takeWhile Char.isDigit with
      | [] => c :: maskNumberAfter pattern replacement rest
      | _ :: ds =>
        pattern ++ replacement ++
          maskNumberAfter pattern replacement ((c :: rest).drop (pattern.length + (ds.length + 1)))
    else c :: maskNumberAfter pattern replacement rest
termination_by cs => cs.length
decreasing_by all_goals simp only [List.length_cons, List.length_drop]; omega

def maskIdentifiers : List Char → List Char
  | [] => []
  | c :: rest =>
    if startsWithIdentifier (c :: rest) then "<uuid>".toList ++ maskIdentifiers ((c :: rest).drop 36)
    else c :: maskIdentifiers rest
termination_by cs => cs.length
decreasing_by all_goals simp only [List.length_cons, List.length_drop]; omega

def mask (message : String) : String :=
  let cs := maskIdentifiers message.toList
  let cs := maskNumberAfter "(pid ".toList "<pid>".toList cs
  String.ofList (maskNumberAfter "127.0.0.1:".toList "<port>".toList cs)

def faultMembers (label : Cause → String) (f : Fault) : List (String × Json) :=
  let kind := match f.cause? with
    | some c => label c
    | none => if f.settings then "driver.SettingsError" else "error"
  [("error", .string kind), ("message", .string (mask f.message))]

def withFault (label : Cause → String) (members : List (String × Json)) :
    Option Fault → List (String × Json)
  | none => members
  | some f => members ++ faultMembers label f

def abortRun {α : Type} : Except Abort α → Run α
  | .ok a => pure a
  | .error e => throw (.panic e.message)

def render : Run Json → Json
  | .ok j => j
  | .error (.badInput m) => .object [("error", .string "bad_input"), ("message", .string m)]
  | .error (.panic m) => .object [("error", .string "panic"), ("message", .string (mask m))]

end Acquisition.Bench
