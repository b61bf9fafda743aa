import Acquisition.Text.Json
import Acquisition.Text.Quoted
import Acquisition.Decimal.Literal
import Acquisition.Sample.Batch
/-! Requests to the bench: JSON objects whose members are read here. Integers may be decimal
strings, words hexadecimal strings, single-precision values `NaN` or `±Inf`, bytes hexadecimal text.
-/
namespace Acquisition.Bench

/-- Why a request gets no ordinary answer. -/
inductive Refusal where
  /-- The request itself is unusable. -/
  | badInput (message : String)
  /-- The library stopped the request with an unrecoverable condition. -/
  | panic (message : String)

abbrev Run := Except Refusal

def refuse {α : Type} (message : String) : Run α := throw (.badInput message)

def fieldRefusal {α : Type} (name message : String) : Run α :=
  refuse ("field " ++ Text.quote name ++ ": " ++ message)

def member? (j : Json) (name : String) : Option Json :=
  match j.field? name with
  | some .null => none
  | v => v

def required (j : Json) (name : String) : Run Json :=
  match member? j name with
  | some v => pure v
  | none => refuse ("missing field " ++ Text.quote name)

def decimalInt? (s : String) : Option Int :=
  match s.toList with
  | '-' :: ds => if !ds.isEmpty && ds.all Char.isDigit then some (-(Decimal.digitsValue ds : Int)) else none
  | '+' :: ds => if !ds.isEmpty && ds.all Char.isDigit then some (Decimal.digitsValue ds) else none
  | ds => if !ds.isEmpty && ds.all Char.isDigit then some (Decimal.digitsValue ds) else none

def hexDigitValue? (c : Char) : Option Nat :=
  if c.isDigit then some (c.toNat - 48)
  else if 'a' ≤ c && c ≤ 'f' then some (c.toNat - 87)
  else if 'A' ≤ c && c ≤ 'F' then some (c.toNat - 55)
  else none

def hexValue? (ds : List Char) : Option Nat :=
  if ds.isEmpty then none else
  ds.foldl (fun acc c => acc.bind fun n => (hexDigitValue? c).map (n * 16 + ·)) (some 0)

def asInt? : Json → Option Int
  | .number lit => (Decimal.Literal.read? lit).bind (·.toInt?)
  | .string s => decimalInt? s
  | _ => none

def asInt (name : String) (j : Json) : Run Int :=
  match asInt? j with
  | some n => pure n
  | none => fieldRefusal name "want an integer"

def int (j : Json) (name : String) : Run Int := do asInt name (← required j name)

def intOr (j : Json) (name : String) (fallback : Int) : Run Int :=
  match member? j name with
  | some v => asInt name v
  | none => pure fallback

def inRange (name : String) (lo hi : Int) (n : Int) : Run Int :=
  if lo ≤ n && n ≤ hi then pure n
  else fieldRefusal name ("value " ++ toString n ++ " out of " ++ toString lo ++ ".." ++ toString hi)

def asWord (name : String) (j : Json) : Run Nat :=
  let value? : Option Int := match j with
    | .string s =>
      match s.toList with
      | '0' :: 'x' :: ds => (hexValue? ds).map Int.ofNat
      | '0' :: 'X' :: ds => (hexValue? ds).map Int.ofNat
      | _ => decimalInt? s
    | j => asInt? j
  match value? with
  | some n => if 0 ≤ n && n < Nat.pow 2 64 then pure n.toNat else fieldRefusal name "out of range"
  | none => fieldRefusal name "want an unsigned integer"

def word (j : Json) (name : String) : Run Nat := do asWord name (← required j name)

def asBool (name : String) : Json → Run Bool
  | .bool b => pure b
  | _ => fieldRefusal name "want a boolean"

def boolOr (j : Json) (name : String) (fallback : Bool) : Run Bool :=
  match member? j name with
  | some v => asBool name v
  | none => pure fallback

def asString (name : String) : Json → Run String
  | .string s => pure s
  | _ => fieldRefusal name "want a string"

def string (j : Json) (name : String) : Run String := do asString name (← required j name)

def stringOr (j : Json) (name : String) (fallback : String) : Run String :=
  match member? j name with
  | some v => asString name v
  | none => pure fallback

def asList (name : String) : Json → Run (List Json)
  | .array xs => pure xs
  | _ => fieldRefusal name "want a list"

def listOr (j : Json) (name : String) : Run (List Json) :=
  match member? j name with
  | some v => asList name v
  | none => pure []

def asSingle (name : String) : Json → Run Float32
  | .number lit =>
    match Decimal.Literal.read? lit with
    | some l => pure l.toFloat32
    | none => fieldRefusal name "want a number"
  | .string "NaN" => pure (Float32.ofBits 0x7FC00000)
  | .string "Inf" => pure (Float32.ofBits 0x7F800000)
  | .string "+Inf" => pure (Float32.ofBits 0x7F800000)
  | .string "-Inf" => pure (Float32.ofBits 0xFF800000)
  | _ => fieldRefusal name "want a number"

def asDouble (name : String) : Json → Run Float
  | .number lit =>
    match Decimal.Literal.read? lit with
    | some l => pure l.toFloat
    | none => fieldRefusal name "want a number"
  | .string "NaN" => pure (Float.ofBits 0x7FF8000000000000)
  | .string "Inf" => pure (Float.ofBits 0x7FF0000000000000)
  | .string "+Inf" => pure (Float.ofBits 0x7FF0000000000000)
  | .string "-Inf" => pure (Float.ofBits 0xFFF0000000000000)
  | _ => fieldRefusal name "want a number"

def asBytes (name : String) (j : Json) : Run ByteArray := do
  let s ← asString name j
  let ds := s.toList.filter (· != ' ')
  if ds.length % 2 != 0 then fieldRefusal name "odd number of hex digits" else
  let rec pairs : List Char → Option (List UInt8)
    | a :: b :: rest => do
      let hi ← hexDigitValue? a
      let lo ← hexDigitValue? b
      let tail ← pairs rest
      pure ((hi * 16 + lo).toUInt8 :: tail)
    | _ => some []
  match pairs ds with
  | some bs => pure ⟨bs.toArray⟩
  | none => fieldRefusal name "invalid hex"

def bytesOr (j : Json) (name : String) : Run ByteArray :=
  match member? j name with
  | some v => asBytes name v
  | none => pure ByteArray.empty

def asBatch (name : String) (j : Json) : Run Batch := do
  let channels ← asList name j
  if channels.length > 4 then fieldRefusal name "more than 4 channels" else
  let cs ← channels.mapM fun c => do
    let xs ← asList name c
    let vs ← xs.mapM (asSingle name)
    pure vs.toArray
  pure (Batch.ofChannels cs)

def asFrame (name : String) (j : Json) : Run (Vector UInt16 4) := do
  let xs ← asList name j
  if xs.length != 4 then fieldRefusal name "a frame has 4 values" else
  let vs ← xs.mapM fun x => do
    let n ← asInt name x
    if 0 ≤ n && n ≤ 65535 then pure n.toNat.toUInt16
    else fieldRefusal name ("raw value " ++ toString n ++ " out of 0..65535")
  pure (Vector.ofFn fun i => vs.getD i.val 0)

def steps (j : Json) : Run (List (String × Json)) := do
  let xs ← listOr j "steps"
  xs.mapM fun s => do pure (← string s "do", s)

end Acquisition.Bench
