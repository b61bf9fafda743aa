import Acquisition.Sim.Injection
import Acquisition.Sim.Eeproms
/-! A simulated port expander on I2C: registers 0x00 to 0x15, zero at first, selected and written by
one- and two-byte writes; every transaction and release is recorded. -/
namespace Acquisition.Sim

structure ExpanderChip where
  registers : Array UInt8 := Array.replicate 0x16 0
  selected : Nat := 0
  script : List Injection := []
  record : Array String := #[]

def ExpanderChip.transaction : Op ExpanderChip Unit := do
  let (outcome, rest) := nextOutcome (← get).script
  modify fun m => { m with script := rest }
  if let some f := outcome then throw f

def expanderBus : I2cBus ExpanderChip where
  write device data := do
    modify fun m => { m with record := m.record.push ("w " ++ byteText device ++ " " ++ hexBytes data) }
    ExpanderChip.transaction
    match data.toList with
    | [reg] => modify fun m => { m with selected := reg.toNat }
    | reg :: value :: _ =>
      modify fun m => { m with selected := reg.toNat, registers := m.registers.setIfInBounds reg.toNat value }
    | [] => pure ()
  read device n := do
    modify fun m => { m with record := m.record.push ("r " ++ byteText device ++ " " ++ toString n) }
    ExpanderChip.transaction
    let m ← get
    pure ⟨Array.replicate n (m.registers.getD m.selected 0)⟩
  release := modify fun m => { m with record := m.record.push "release" }

end Acquisition.Sim
