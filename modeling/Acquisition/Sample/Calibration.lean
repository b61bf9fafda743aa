import Acquisition.Sample.Batch
import Acquisition.Sample.Mode
/-! Calibration of a reading: the offset taken away, then multiplied by the gain and the
transmission factor, kept as reciprocals, in single precision. -/
namespace Acquisition

abbrev Frame := Vector UInt16 4

structure Calibration where
  mode : Mode
  offsets : Vector Int 4
  /-- Reciprocals of the gains. -/
  gains : Vector Float32 4
  /-- Reciprocals of the transmission factors. -/
  transmissions : Vector Float32 4

namespace Calibration

/-- Raw counts unchanged: no offset, unit factors. -/
def default : Calibration where
  mode := .primary
  offsets := Vector.replicate 4 0
  gains := Vector.replicate 4 1
  transmissions := Vector.replicate 4 1

instance : Inhabited Calibration := ⟨default⟩

def apply (c : Calibration) (i : Fin 4) (raw : UInt16) : Float32 :=
  (raw.toNat.toFloat32 - Float32.ofInt (c.offsets.get i)) * c.gains.get i * c.transmissions.get i

/-- Reciprocals of four factors; a zero factor is refused, naming its input from one. -/
def reciprocals (what : String) (vs : Vector Float32 4) : Except Fault (Vector Float32 4) :=
  match (List.finRange 4).find? (fun i => vs.get i == 0) with
  | some i => .error (.plain (what ++ ": sensor " ++ toString (i.val + 1) ++ ": value must not be zero"))
  | none => .ok (vs.map (1 / ·))

def setGains (c : Calibration) (gains : Vector Float32 4) : Except Fault Calibration :=
  (reciprocals "gain" gains).map fun g => { c with gains := g }

def setTransmissions (c : Calibration) (factors : Vector Float32 4) : Except Fault Calibration :=
  (reciprocals "transmission" factors).map fun t => { c with transmissions := t }

def batchOf (c : Calibration) (frames : List Frame) : Batch :=
  ⟨Vector.ofFn fun i => (frames.map fun f => c.apply i (f.get i)).toArray⟩

end Calibration

end Acquisition
