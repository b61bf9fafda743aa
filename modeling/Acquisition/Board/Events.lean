import Acquisition.Text.Json.Reader
import Acquisition.Text.Integer
import Acquisition.Text.Blank
import Acquisition.Fault
/-! Event reports of the firmware, JSON objects such as `{"Button":true,"ButtonStateCnt":3}`; a
report without a boolean `Button` has no event, an empty one none at all. -/
namespace Acquisition

/-- A button or error event reported by the firmware. -/
structure Event where
  button : Bool
  counter : Int
  deriving DecidableEq, Repr

/-- Reads the first JSON value of a settings or event text as an object. -/
def readObject (text : String) : Except String (List (String × Json)) :=
  match Json.read text with
  | .error e => .error e.message
  | .ok (.object members) => .ok (Json.lastWins members)
  | .ok _ => .error "not an object"

/-- The integer of a member, read as a 64-bit decimal number. -/
def integerMember (members : List (String × Json)) (key : String) : Except String Int :=
  match members.lookup key with
  | none => .error ("key '" ++ key ++ "' not found")
  | some (.number literal) =>
    match Text.readInt literal with
    | .ok n => .ok n
    | .error e => .error (e.message "ParseInt" literal)
  | some _ => .error "not a number"

def parseEvents (data : String) : Except Fault (List Event) :=
  let data := Text.trimWhite data
  if data.isEmpty then .ok [] else
  match readObject data with
  | .error e => .error (.plain ("invalid event report " ++ Text.quote data ++ ": " ++ e))
  | .ok members =>
    match members.lookup "Button" with
    | some (.bool button) =>
      match integerMember members "ButtonStateCnt" with
      | .ok counter => .ok [{ button, counter }]
      | .error e => .error (.plain ("button event without counter: " ++ e))
    | _ => .ok []

end Acquisition
