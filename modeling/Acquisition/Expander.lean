import Acquisition.Bus
/-! The MCP23017 port expander: two 8-bit ports on I2C, with copies of the latches and directions
changed only after the device took the write, and retries while the bus is busy. -/
namespace Acquisition

inductive Bank where
  | a
  | b
  deriving DecidableEq, Repr, Inhabited

namespace Bank

def name : Bank → String
  | .a => "A"
  | .b => "B"

def index : Bank → Fin 2
  | .a => 0
  | .b => 1

def directionRegister : Bank → UInt8
  | .a => 0x00
  | .b => 0x01

def pullUpRegister : Bank → UInt8
  | .a => 0x0C
  | .b => 0x0D

def portRegister : Bank → UInt8
  | .a => 0x12
  | .b => 0x13

def latchRegister : Bank → UInt8
  | .a => 0x14
  | .b => 0x15

end Bank

def configRegister : UInt8 := 0x0A

def defaultExpanderAddress : UInt8 := 0x21

structure Expander where
  address : UInt8 := defaultExpanderAddress
  retryLimit : Nat := 1
  latch : Vector UInt8 2 := Vector.replicate 2 0
  direction : Vector UInt8 2 := Vector.replicate 2 0xFF

/-- An output line of the expander. -/
structure ExpanderPin where
  bank : Bank
  bit : Nat
  deriving Inhabited

namespace Expander

variable {σ : Type}

/-- An expander at `address` with a retry limit; a limit below one keeps the default of one. -/
def new (address : UInt8) (limit : Int := 1) : Expander :=
  { address, retryLimit := if limit > 0 then limit.toNat else 1 }

/-- Runs `op` at most `limit` times, again only while it finds the bus busy;
the bus is released after every busy attempt. When every attempt found the bus
busy, the last error is reported as the retry limit being reached. -/
def retry {α : Type} (bus : I2cBus σ) (op : Op σ α) : Nat → Op σ α
  | 0 => throw (.plain "retry limit reached: %!w(<nil>)")
  | n + 1 => tryCatch op fun f => do
      if !f.is .busBusy then throw f
      let _ ← Op.attempt bus.release
      match n with
      | 0 => throw (f.context "retry limit reached")
      | k + 1 => retry bus op (k + 1)

def writeRegister (x : Expander) (bus : I2cBus σ) (reg value : UInt8) : Op σ Unit :=
  retry bus (bus.write x.address ⟨#[reg, value]⟩) x.retryLimit

/-- Reads one register: its address is written, then one byte is read; a busy
bus in either transaction repeats both. -/
def readRegister (x : Expander) (bus : I2cBus σ) (reg : UInt8) : Op σ UInt8 :=
  retry bus (do
    Op.withContext "could not set I/O registry address" (bus.write x.address ⟨#[reg]⟩)
    pure ((← bus.read x.address 1).toList.headD 0)) x.retryLimit

/-- Sets the direction of a port's lines (1 for input, 0 for output). -/
def init (bus : I2cBus σ) (bank : Bank) (directions : UInt8) : Op (Expander × σ) Unit := do
  let (x, _) ← get
  Op.focus (·.2) (fun p s => (p.1, s))
    (Op.withContext ("could not initialize gpio " ++ bank.name ++ " set")
      (x.writeRegister bus bank.directionRegister directions))
  modify fun (x, s) => ({ x with direction := x.direction.set bank.index directions }, s)

/-- Sets the pull-up resistors of a port. -/
def pullUp (bus : I2cBus σ) (bank : Bank) (settings : UInt8) : Op (Expander × σ) Unit := do
  let (x, _) ← get
  Op.focus (·.2) (fun p s => (p.1, s))
    (Op.withContext ("could not set pull-up on gpio " ++ bank.name ++ " set")
      (x.writeRegister bus bank.pullUpRegister settings))

def readPort (bus : I2cBus σ) (bank : Bank) : Op (Expander × σ) UInt8 := do
  let (x, _) ← get
  Op.focus (·.2) (fun p s => (p.1, s))
    (Op.withContext ("could not read gpio " ++ bank.name ++ " set") (x.readRegister bus bank.portRegister))

/-- Drives a port's output latch. -/
def writePort (bus : I2cBus σ) (bank : Bank) (value : UInt8) : Op (Expander × σ) Unit := do
  let (x, _) ← get
  Op.focus (·.2) (fun p s => (p.1, s))
    (Op.withContext ("could not write gpio " ++ bank.name ++ " latch")
      (x.writeRegister bus bank.latchRegister value))
  modify fun (x, s) => ({ x with latch := x.latch.set bank.index value }, s)

def readSettings (bus : I2cBus σ) : Op (Expander × σ) UInt8 := do
  let (x, _) ← get
  Op.focus (·.2) (fun p s => (p.1, s))
    (Op.withContext "could not read expander settings" (x.readRegister bus configRegister))

/-- Makes line `bit` of a port an output and hands it out. -/
def pin (bus : I2cBus σ) (bank : Bank) (bit : Int) : Op (Expander × σ) ExpanderPin := do
  if bit < 0 || bit > 7 then throw (.plain ("invalid expander pin " ++ bank.name ++ toString bit))
  let (x, _) ← get
  let dir := x.direction[bank.index] &&& ~~~((1 : UInt8) <<< bit.toNat.toUInt8)
  Op.focus (·.2) (fun p s => (p.1, s))
    (Op.withContext ("could not configure pin " ++ bank.name ++ toString bit ++ " as output")
      (x.writeRegister bus bank.directionRegister dir))
  modify fun (x, s) => ({ x with direction := x.direction.set bank.index dir }, s)
  pure ⟨bank, bit.toNat⟩

/-- Drives one output line: the port's latch is written with only that bit changed. -/
def setPin (bus : I2cBus σ) (p : ExpanderPin) (level : Bool) : Op (Expander × σ) Unit := do
  let (x, _) ← get
  let m : UInt8 := (1 : UInt8) <<< p.bit.toUInt8
  let v := x.latch[p.bank.index]
  writePort bus p.bank (if level then v ||| m else v &&& ~~~m)

def latched (x : Expander) (p : ExpanderPin) : Bool :=
  (x.latch[p.bank.index] >>> p.bit.toUInt8) &&& 1 == 1

/-- The level read from the port; when the read fails, the level last driven. -/
def sensePin (bus : I2cBus σ) (p : ExpanderPin) : Op (Expander × σ) Bool := do
  match ← Op.attempt (readPort bus p.bank) with
  | .ok v => pure ((v >>> p.bit.toUInt8) &&& 1 == 1)
  | .error _ => pure (latched (← get).1 p)

end Expander

end Acquisition
