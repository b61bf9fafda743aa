import Acquisition.Fault
import Acquisition.Text.Quoted
/-! Measurement modes of the inputs: a numeric code and a name, codes outside the three modes named
by their number. -/
namespace Acquisition

inductive Mode where
  | primary
  | norm
  | digital
  deriving DecidableEq, Repr, Inhabited

namespace Mode

def code : Mode → Int
  | .primary => 0
  | .norm => 1
  | .digital => 2

def ofCode? : Int → Option Mode
  | 0 => some .primary
  | 1 => some .norm
  | 2 => some .digital
  | _ => none

def name : Mode → String
  | .primary => "primary"
  | .norm => "norm"
  | .digital => "digital"

def ofCode (code : Int) : Except Fault Mode :=
  match ofCode? code with
  | some m => .ok m
  | none => .error (.of .invalidMode ("invalid mode: " ++ toString code))

def describe (code : Int) : String :=
  match ofCode? code with
  | some m => m.name
  | none => "mode(" ++ toString code ++ ")"

/-- The mode of a name, which must be spelled exactly. -/
def parse (name : String) : Except Fault Mode :=
  match name with
  | "primary" => .ok .primary
  | "norm" => .ok .norm
  | "digital" => .ok .digital
  | _ => .error (.of .invalidMode ("invalid mode: " ++ Text.quote name))

theorem ofCode_code (m : Mode) : ofCode? m.code = some m := by
  cases m <;> rfl

theorem parse_name (m : Mode) : parse m.name = .ok m := by
  cases m <;> rfl

end Mode

end Acquisition
