import Acquisition.Bus
import Acquisition.Text.Quoted
/-! The host's devices by name: lines, SPI ports and I2C buses, with the library's messages around
what they report. A line opened for output is driven low. -/
namespace Acquisition

/-- The general-purpose lines of a host, their states kept in `ω`. -/
structure Lines (ω : Type) where
  /-- The line of a name, if the host has one. -/
  findLine : String → Option String
  /-- Drives a line. -/
  out : String → Bool → Op ω Unit
  /-- The level seen on a line. -/
  level : String → ω → Bool

/-- The serial ports of a host. -/
structure Ports (ω : Type) where
  /-- The serial port of a name, or why there is none. -/
  openPort : String → Except Fault String
  /-- Connects to an open port at a clock in Hz. -/
  connect : String → Nat → Op ω Unit
  /-- Sends bytes on a port and receives as many. -/
  exchange : String → ByteArray → Op ω ByteArray

/-- The I2C buses of a host. -/
structure Buses (ω : Type) where
  /-- The I2C bus of a name, or why there is none. -/
  openBus : String → Except Fault String
  /-- One transaction with the device at an address: the bytes written, and how many to read. -/
  transfer : String → UInt8 → ByteArray → Nat → Op ω ByteArray
  setSpeed : String → Nat → Op ω Unit

/-- What the host offers, its devices' states kept in `ω`. -/
structure Host (ω : Type) extends Lines ω, Ports ω, Buses ω

namespace Host

variable {ω : Type}

/-- A line that the program drives, with the level it last drove. -/
structure Line where
  name : String
  input : Bool := false
  driven : Bool := false

def Line.set (h : Lines ω) (l : Line) (level : Bool) : Op ω Line := do
  if l.input then throw (.plain (l.name ++ " is an input"))
  Op.withContext ("could not set " ++ l.name) (h.out l.name level)
  pure { l with driven := level }

def Line.readback (h : Lines ω) (l : Line) (w : ω) : Bool :=
  if l.input then h.level l.name w else l.driven

def Line.get (h : Lines ω) (l : Line) (w : ω) : Bool := h.level l.name w

def openOutput (h : Lines ω) (name : String) : Op ω Line := do
  let some found := h.findLine name | throw (.plain ("unknown gpio " ++ name))
  Line.set h { name := found } false

def openInput (h : Lines ω) (name : String) : Op ω Line := do
  let some found := h.findLine name | throw (.plain ("unknown gpio " ++ name))
  pure { name := found, input := true }

/-- The line as the library's output lines are used. -/
def Line.output (h : Lines ω) : OutputLine (ω × Line) where
  set level := ExceptT.mk fun (w, l) =>
    let (r, w') := (Line.set h l level).run' w
    match r with
    | .ok l' => (.ok (), (w', l'))
    | .error f => (.error f, (w', l))
  readback s := Line.readback h s.2 s.1
  get s := Line.get h s.2 s.1

/-- Opens a serial port at a clock in Hz. -/
def openSerial (h : Ports ω) (name : String) (speed : Nat) : Op ω String := do
  let port ← match h.openPort name with
    | .ok p => pure p
    | .error f => throw (f.context ("could not open spi port " ++ name))
  Op.withContext ("could not connect to spi port " ++ name) (h.connect port speed)
  pure port

def serial (h : Ports ω) (port : String) : Transport ω where
  exchange w := h.exchange port w

def openI2c (h : Buses ω) (name : String) : Except Fault String :=
  match h.openBus name with
  | .ok b => .ok b
  | .error f => .error (f.context "could not open i2c bus")

/-- A frequency as text with its SI prefix: `0Hz`, `400kHz`, `1.5MHz`. -/
def frequencyText (hz : Nat) : String :=
  let scaled (unit : Nat) (unitName : String) : String :=
    let whole := hz / unit
    let rest := hz % unit
    let digits := (Nat.toDigits 10 (rest + unit)).drop 1
    let trimmed := (digits.reverse.dropWhile (· == '0')).reverse
    toString whole ++ (if trimmed.isEmpty then "" else "." ++ String.ofList trimmed) ++ unitName ++ "Hz"
  if hz ≥ 1000000000 then scaled 1000000000 "G"
  else if hz ≥ 1000000 then scaled 1000000 "M"
  else if hz ≥ 1000 then scaled 1000 "k"
  else toString hz ++ "Hz"

def shortHex (b : UInt8) : String := String.ofList (Nat.toDigits 16 b.toNat)

def busRead (h : Buses ω) (bus : String) (address : UInt8) (n : Nat) : Op ω ByteArray :=
  Op.withContext ("could not read from i2c bus " ++ shortHex address) (h.transfer bus address .empty n)

def busWrite (h : Buses ω) (bus : String) (address : UInt8) (data : ByteArray) : Op ω Unit := do
  let _ ← Op.withContext ("could not write to i2c bus " ++ shortHex address) (h.transfer bus address data 0)

def busWriteRead (h : Buses ω) (bus : String) (address : UInt8) (data : ByteArray) (n : Nat) : Op ω ByteArray :=
  Op.withContext ("could not transfer on i2c bus " ++ shortHex address) (h.transfer bus address data n)

def busSpeed (h : Buses ω) (bus : String) (hz : Nat) : Op ω Unit :=
  Op.withContext ("could not set i2c speed to " ++ frequencyText hz) (h.setSpeed bus hz)

def i2c (h : Buses ω) (bus : String) : I2cBus ω where
  write address data := busWrite h bus address data
  read address n := busRead h bus address n
  release := pure ()

end Host

end Acquisition
