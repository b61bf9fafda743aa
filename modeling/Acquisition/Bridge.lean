import Acquisition.Bus
/-! The MCP2221 USB bridge to I2C and four lines: each command one 64-byte report each way, the
reply echoing the command. A write carries at most 60 bytes; a read is asked for, then fetched. -/
namespace Acquisition

def reportSize : Nat := 64

def maxTransfer : Nat := 60

def lineCount : Nat := 4

/-- A device that moves whole reports. -/
structure ReportDevice (σ : Type) where
  /-- Sends a report and tells how many bytes went out. -/
  send : ByteArray → Op σ Nat
  /-- Receives a report. -/
  receive : Op σ ByteArray
  close : Op σ Unit

def report (front : List UInt8) : ByteArray :=
  ⟨(front.take reportSize ++ List.replicate (reportSize - front.length) 0).toArray⟩

def byteAt (b : ByteArray) (i : Nat) : UInt8 := b.toList.getD i 0

def shortHex (b : UInt8) : String := String.ofList (Nat.toDigits 16 b.toNat)

/-- The engine's state as reported by the status command. -/
structure BridgeStatus where
  bufferCounter : Nat
  speedDivider : Nat
  timeout : Nat
  currentAddress : String
  lastWriteRequested : Nat
  lastWriteSent : Nat
  readPending : Nat

def BridgeStatus.ofReport (r : ByteArray) : BridgeStatus where
  bufferCounter := (byteAt r 13).toNat
  speedDivider := (byteAt r 14).toNat
  timeout := (byteAt r 15).toNat
  readPending := (byteAt r 25).toNat
  currentAddress := hexBytes ⟨#[byteAt r 16, byteAt r 17]⟩
  lastWriteRequested := (byteAt r 9).toNat + 256 * (byteAt r 10).toNat
  lastWriteSent := (byteAt r 11).toNat + 256 * (byteAt r 12).toNat

def lineModeName (mode : UInt8) : String :=
  if mode == 0x08 then "INPUT" else if mode == 0x00 then "OUTPUT" else "NOOP"

/-- Modes and designations of the four lines. -/
structure LineParameters where
  modes : List UInt8
  designations : List UInt8

/-- Levels and modes of the four lines. -/
structure LineValues where
  modes : List UInt8
  values : List UInt8

namespace Bridge

variable {σ : Type}

def unsupported (request response : UInt8) : Fault :=
  .of .commandUnsupported ("unsupported command: response to " ++ hexNumber request.toNat ++
    " echoes " ++ hexNumber response.toNat)

/-- Sends a request and receives its response, which must echo the command. -/
def exchange (dev : ReportDevice σ) (request : ByteArray) : Op σ ByteArray := do
  let n ← Op.withContext "could not write request" (dev.send request)
  if n != reportSize then throw (.plain ("short write: " ++ toString n))
  let response ← Op.withContext "could not read response" dev.receive
  if response.size != reportSize then throw (.plain ("short read: " ++ toString response.size))
  if byteAt response 0 != byteAt request 0 then throw (unsupported (byteAt request 0) (byteAt response 0))
  pure response

/-- Writes bytes to the device at a 7-bit address. -/
def writeTo (dev : ReportDevice σ) (address : UInt8) (data : ByteArray) : Op σ Unit := do
  if data.size > maxTransfer then
    throw (.plain ("write to " ++ shortHex address ++ ": " ++ toString data.size ++
      " bytes exceed a single transfer"))
  let n := data.size
  let request := report ([0x90, n.toUInt8, (n / 256).toUInt8, address <<< 1] ++ data.toList)
  let response ← Op.withContext ("write to " ++ shortHex address ++ " failed") (exchange dev request)
  if byteAt response 1 == 0x01 then throw busBusy

/-- Reads bytes from the device at a 7-bit address. -/
def readFrom (dev : ReportDevice σ) (address : UInt8) (n : Nat) : Op σ ByteArray := do
  if n > maxTransfer then
    throw (.plain ("read from " ++ shortHex address ++ ": " ++ toString n ++
      " bytes exceed a single transfer"))
  let request := report [0x91, n.toUInt8, (n / 256).toUInt8, (address <<< 1) + 1]
  let response ← Op.withContext ("bus read from " ++ shortHex address ++ " failed") (exchange dev request)
  if byteAt response 1 == 0x01 then throw busBusy
  let response ← Op.withContext "error getting read data from adapter" (exchange dev (report [0x40]))
  if byteAt response 1 == 0x41 then
    throw (.plain "error reading the I2C slave data from the I2C engine")
  let size := byteAt response 3
  if size == 127 || size.toNat != n then
    throw (.plain ("invalid data size byte; expected " ++ toString n ++ ", got " ++ toString size.toNat))
  pure ⟨((response.toList.drop 4).take n).toArray⟩

def status (dev : ReportDevice σ) : Op σ BridgeStatus := do
  let response ← Op.withContext "status request failed" (exchange dev (report [0x10]))
  pure (BridgeStatus.ofReport response)

def releaseBus (dev : ReportDevice σ) : Op σ BridgeStatus := do
  let response ← Op.withContext "cancel transfer request failed" (exchange dev (report [0x10, 0, 0x10]))
  pure (BridgeStatus.ofReport response)

def release (dev : ReportDevice σ) : Op σ Unit := do
  let _ ← releaseBus dev

def bus (dev : ReportDevice σ) : I2cBus σ where
  write := writeTo dev
  read := readFrom dev
  release := release dev

/-- Configures the four lines: each takes its designation combined with its mode. -/
def setLineParameters (dev : ReportDevice σ) (p : LineParameters) : Op σ Unit := do
  let lines := (List.range lineCount).map fun i => p.designations.getD i 0 ||| p.modes.getD i 0
  let response ← Op.withContext "set GP parameters command write failed"
    (exchange dev (report ([0x60, 0, 0, 0, 0, 0, 0, 0x80] ++ lines)))
  if byteAt response 1 != 0 then throw (.of .commandFailed "command failed")

def lineParameters (dev : ReportDevice σ) : Op σ LineParameters := do
  let response ← Op.withContext "get GP parameters command write failed" (exchange dev (report [0x61]))
  if byteAt response 1 != 0 then throw (.of .commandUnsupported "unsupported command")
  let raw := (List.range lineCount).map fun i => byteAt response (22 + i)
  pure { modes := raw.map (· &&& 0x08), designations := raw.map (· &&& 0x07) }

def readLines (dev : ReportDevice σ) : Op σ LineValues := do
  let response ← Op.withContext "read GPIO values command write failed" (exchange dev (report [0x51]))
  if byteAt response 1 != 0 then throw (.of .commandFailed "command failed")
  let values := (List.range lineCount).map fun i => byteAt response (2 + 2 * i)
  let modes : List UInt8 := (List.range lineCount).map fun i =>
    let dir := byteAt response (3 + 2 * i)
    if dir == 0xEF then (0xEF : UInt8) else dir <<< 3
  pure { modes, values }

/-- Drives a line as an output. -/
def writeLine (dev : ReportDevice σ) (line : Int) (level : Bool) : Op σ Unit := do
  if line < 0 || line ≥ lineCount then throw (.plain ("invalid gpio line " ++ toString line))
  let off := 2 + 4 * line.toNat
  let front := List.replicate off 0 ++ [1, if level then 1 else 0, 1, 0]
  let request := report (0x50 :: front.drop 1)
  let response ← Op.withContext "set GPIO value command write failed" (exchange dev request)
  if byteAt response 1 != 0 || byteAt response off == 0xEE then
    throw (.of .commandFailed ("command failed: GP" ++ toString line ++
      " is not configured for GPIO operation"))

end Bridge

/-- A line of the bridge with the level last driven on it. -/
structure BridgeLine where
  line : Nat
  level : Bool := false

namespace BridgeLine

variable {σ : Type}

def new (line : Int) : Except Fault BridgeLine :=
  if line < 0 || line ≥ lineCount then .error (.plain ("invalid gpio line " ++ toString line))
  else .ok { line := line.toNat }

def set (dev : ReportDevice σ) (p : BridgeLine) (level : Bool) : Op σ BridgeLine := do
  Bridge.writeLine dev p.line level
  pure { p with level }

/-- The level read from the line; when the read fails, the level last driven. -/
def get (dev : ReportDevice σ) (p : BridgeLine) : Op σ Bool := do
  match ← Op.attempt (Bridge.readLines dev) with
  | .ok v => pure (v.values.getD p.line 0 != 0)
  | .error _ => pure p.level

end BridgeLine

end Acquisition
