import Acquisition.Fault
import Acquisition.Text.Integer
/-! The outputs of the board's 16-bit strain-gauge control register, named by their names or bit
numbers. -/
namespace Acquisition.ShiftRegister

def dmsWidth : Nat := 16

def dmsNames : List String :=
  ["iepe1", "iepe2", "iepe3", "iepe4", "ub1", "ub2", "ub3", "ub4",
   "qspi-cs0", "qspi-cs1", "qspi-cs2", "qspi-cs3", "spi-ch0", "spi-ch1", "spi-ch2", "dac"]

/-- The bit of an output given by name or by a bit number below 16. -/
def parseDmsPin (name : String) : Except Fault Nat :=
  match dmsNames.idxOf? name with
  | some bit => .ok bit
  | none =>
    match Text.readInt name with
    | .ok n => if 0 ≤ n && n < dmsWidth then .ok n.toNat else refused
    | .error _ => refused
where
  refused := .error (.of .bitOutOfRange ("bit out of range: " ++ Text.quote name))

def dmsPinName (bit : Int) : String :=
  if 0 ≤ bit then (dmsNames[bit.toNat]?).getD ("bit" ++ toString bit) else "bit" ++ toString bit

end Acquisition.ShiftRegister
