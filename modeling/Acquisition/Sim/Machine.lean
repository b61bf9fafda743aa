import Acquisition.Host
import Acquisition.Sim.Mcu
import Acquisition.Sim.Injection
import Acquisition.Sim.Eeproms
/-! A simulated host machine: lines with `GPIO25` resting high, a data port answering a byte
pattern, a control port with a board controller, and one I2C bus `I2C1` with a memory at 0x50 and an
expander at 0x21. -/
namespace Acquisition.Sim

def memoryAddress : UInt8 := 0x50

def expanderAddress : UInt8 := 0x21

def dataPort : String := "/dev/spidev0.0"

def controlPort : String := "/dev/spidev0.1"

def deadPort : String := "/dev/spidev9.9"

def busName : String := "I2C1"

def controller : Mcu := { chunk := 32, pad := 0xFF, replies := [("je<", "{}\n")] }

structure Machine where
  /-- Levels set on lines, overriding their resting levels. -/
  levels : List (String × Bool) := []
  /-- Each driven line with its levels in order, lines in the order first driven. -/
  drives : List (String × String) := []
  pattern : ByteArray := .empty
  control : Mcu := controller
  memory : ByteArray := .empty
  memoryPointer : Nat := 0
  registers : Array UInt8 := Array.replicate 0x16 0
  selected : Nat := 0
  script : List Injection := []
  transactions : Array String := #[]

namespace Machine

def lineNames : List String := ["GPIO5", "GPIO6", "GPIO13", "GPIO12", "GPIO25"]

def restingLevel (name : String) : Bool := name == "GPIO25"

def level (name : String) (m : Machine) : Bool :=
  (m.levels.lookup name).getD (restingLevel name)

def setLevel (name : String) (high : Bool) (m : Machine) : Machine :=
  { m with levels := (name, high) :: m.levels.filter (·.1 != name) }

def levelDigit (high : Bool) : String := if high then "1" else "0"

def logDrive (name : String) (high : Bool) : List (String × String) → List (String × String)
  | [] => [(name, levelDigit high)]
  | (n, log) :: rest =>
    if n == name then (n, log ++ levelDigit high) :: rest else (n, log) :: logDrive name high rest

def drive (name : String) (high : Bool) (m : Machine) : Machine :=
  { m.setLevel name high with drives := logDrive name high m.drives }

def port? (name : String) : Option String :=
  if name == dataPort || name == "SPI0.0" || name == "0" || name == "" then some dataPort
  else if name == controlPort || name == "SPI0.1" || name == "1" then some controlPort
  else if name == deadPort || name == "99" then some deadPort
  else none

def bus? (name : String) : Option String :=
  if name == busName || name == "/dev/i2c-1" || name == "1" || name == "" then some busName
  else none

def repeatPattern (pattern : ByteArray) (n : Nat) : ByteArray :=
  ⟨((List.range n).map fun k => if pattern.size = 0 then 0 else pattern.toList.getD (k % pattern.size) 0).toArray⟩

def exchange (port : String) (w : ByteArray) : Op Machine ByteArray :=
  if port == controlPort then
    Op.focus (·.control) (fun m c => { m with control := c }) (mcuTransport.exchange w)
  else do pure (repeatPattern (← get).pattern w.size)

def noDevice (address : UInt8) : Fault :=
  .of .injected ("injected fault: no device at 0x" ++ byteText address)

def memoryTransfer (w : ByteArray) (n : Nat) : StateM Machine ByteArray := do
  let m ← get
  let m := match w.toList with
    | hi :: lo :: _ => { m with memoryPointer := hi.toNat * 256 + lo.toNat }
    | _ => m
  let bytes := (List.range n).map fun k => m.memory.toList.getD (m.memoryPointer + k) 0xFF
  set { m with memoryPointer := m.memoryPointer + n }
  pure ⟨bytes.toArray⟩

/-- The expander: the first byte selects a register, a second stores into it, and
reads return the registers from the selected one on. -/
def expanderTransfer (w : ByteArray) (n : Nat) : StateM Machine ByteArray := do
  let m ← get
  let m := match w.toList with
    | [reg] => { m with selected := reg.toNat }
    | reg :: value :: _ =>
      { m with selected := reg.toNat, registers := m.registers.setIfInBounds reg.toNat value }
    | [] => m
  set m
  pure ⟨((List.range n).map fun k => m.registers.getD (m.selected + k) 0).toArray⟩

def transfer (address : UInt8) (w : ByteArray) (n : Nat) : Op Machine ByteArray := do
  let m ← get
  let entry := byteText address ++ " w=" ++ hexBytes w ++ " r=" ++ toString n
  let (outcome, rest) := nextOutcome m.script
  set { m with transactions := m.transactions.push entry, script := rest }
  if let some f := outcome then throw f
  if address == memoryAddress then memoryTransfer w n
  else if address == expanderAddress then expanderTransfer w n
  else throw (noDevice address)

def host : Host Machine where
  findLine name := if lineNames.contains name then some name else none
  out name high := modify (drive name high)
  level := level
  openPort name := match port? name with
    | some p => .ok p
    | none => .error (.plain ("spireg: can't open unknown port: " ++ Text.quote name))
  connect port _ :=
    if port == deadPort then throw (.of .injected ("injected fault: cannot connect " ++ deadPort))
    else pure ()
  exchange := exchange
  openBus name := match bus? name with
    | some b => .ok b
    | none => .error (.plain ("i2creg: can't open unknown bus: " ++ Text.quote name))
  transfer _ := transfer
  setSpeed _ hz := if hz == 0 then throw (.of .injected "injected fault: invalid speed") else pure ()

end Machine

end Acquisition.Sim
