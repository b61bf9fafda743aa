import Acquisition.Sim.Injection
import Acquisition.Eeprom.SpiMemory
/-! Simulated memories: an I2C memory with a 16-bit pointer, and a 128 KiB SPI memory whose status
register reports a write in progress for a set number of polls. Both record every transaction. -/
namespace Acquisition.Sim

structure I2cEeprom where
  memory : ByteArray
  pointer : Nat := 0
  script : List Injection := []
  record : Array String := #[]

def byteText (b : UInt8) : String := (if b < 16 then "0" else "") ++ String.ofList (Nat.toDigits 16 b.toNat)

def I2cEeprom.transaction : Op I2cEeprom Unit := do
  let (outcome, rest) := nextOutcome (← get).script
  modify fun m => { m with script := rest }
  if let some f := outcome then throw f

def i2cEepromBus : I2cBus I2cEeprom where
  write device data := do
    modify fun m => { m with record := m.record.push ("w " ++ byteText device ++ " " ++ hexBytes data) }
    I2cEeprom.transaction
    if data.size ≥ 2 then
      modify fun m => { m with pointer := data[0]!.toNat * 256 + data[1]!.toNat }
  read device n := do
    modify fun m => { m with record := m.record.push ("r " ++ byteText device ++ " " ++ toString n) }
    I2cEeprom.transaction
    let m ← get
    let bytes := (List.range n).map fun k => m.memory.toList.getD (m.pointer + k) 0xff
    set { m with pointer := m.pointer + n }
    pure ⟨bytes.toArray⟩
  release := pure ()

structure SpiEeprom where
  memory : Array UInt8
  busyPolls : Nat := 0
  /-- Polls that still report a write in progress. -/
  pending : Nat := 0
  forever : Bool := false
  script : List Injection := []
  record : Array String := #[]

def SpiEeprom.new (contents : ByteArray) : SpiEeprom :=
  { memory := (contents.toList.take Eeprom.spiCapacity ++
      List.replicate (Eeprom.spiCapacity - contents.size) 0).toArray }

def SpiEeprom.transaction : Op SpiEeprom Unit := do
  let (outcome, rest) := nextOutcome (← get).script
  modify fun m => { m with script := rest }
  if let some f := outcome then throw f

def commandAddress (cmd : List UInt8) : Nat :=
  (cmd.getD 1 0).toNat * 65536 + (cmd.getD 2 0).toNat * 256 + (cmd.getD 3 0).toNat

def spiEepromCommands : Eeprom.SpiCommands SpiEeprom where
  readAfter cmd n := do
    if cmd.toList.headD 0 == Eeprom.commandStatus then
      let m ← get
      if !m.forever then set { m with record := m.record.push "rdsr" }
      let m ← get
      if m.forever then return ⟨#[1]⟩
      if m.pending > 0 then
        set { m with pending := m.pending - 1 }
        return ⟨#[1]⟩
      return ⟨#[0]⟩
    modify fun m => { m with record := m.record.push ("cmd " ++ hexBytes cmd ++ " read " ++ toString n) }
    SpiEeprom.transaction
    let m ← get
    let start := commandAddress cmd.toList
    pure ⟨((List.range n).map fun k => m.memory.getD ((start + k) % Eeprom.spiCapacity) 0).toArray⟩
  writeBytes data := do
    modify fun m => { m with record := m.record.push ("write " ++ hexBytes data) }
    SpiEeprom.transaction
    let bytes := data.toList
    if bytes.headD 0 == Eeprom.commandWrite then
      let start := commandAddress bytes
      modify fun m =>
        let memory := (bytes.drop 4).zipIdx.foldl
          (fun mem (b, k) => mem.set! ((start + k) % Eeprom.spiCapacity) b) m.memory
        { m with memory, pending := m.busyPolls }

end Acquisition.Sim
