import Acquisition.Text.Case
import Acquisition.Tool.Invocation
/-! The board's identification memory from the command line: its header checked, a range dumped, or
bytes written after a confirmation. Only the host's I2C bus answers here. -/
namespace Acquisition.Tool

/-- A memory that can be read. -/
structure Memory where
  read : UInt32 → Nat → Op World ByteArray

/-- Reaches the memory of an SPI platform; both known platforms lack the device here. -/
def spiMemory (inv : Invocation) : Except Fault Memory :=
  let platform := inv.string "platform"
  if platform == "raspi" || platform == "nanopi" then
    .error (.plain ("SPI device start error: open /dev/spidev" ++ toString (inv.int "spi-bus") ++ "." ++
      toString (inv.int "spi-chip") ++ ": no such file or directory"))
  else .error (.plain ("unknown platform " ++ Text.quote platform))

/-- The memory the source flags select. -/
def openMemory (inv : Invocation) : Except Fault Memory :=
  match inv.string "source" with
  | "i2c" => do
    let bus ← Host.openI2c World.host.toBuses (inv.string "bus")
    let address := (inv.uint "address").toUInt8
    pure { read := fun at_ n => Eeprom.i2cRead (Host.i2c World.host.toBuses bus) address at_ n }
  | "mcp2221" => .error bridgeMissing
  | "spi" => spiMemory inv
  | other => .error (.plain ("unknown source " ++ Text.quote other))

/-- `eeprom header`: the header read and checked. -/
def memoryHeader (inv : Invocation) : Act Unit := do
  let memory ← Act.check "could not open memory" (openMemory inv)
  let h ← Act.orExit "" (Eeprom.Header.read memory.read)
  Act.say ("💾 signature " ++ Text.decodeLossy h.signature ++ " version " ++ toString h.version.toNat ++
    " atoms " ++ toString h.atoms ++ " length " ++ toString h.length)

def dumpChar (b : UInt8) : Char := if b < 32 || b > 126 then '.' else Char.ofNat b.toNat

/-- The classic dump of bytes: lines of sixteen, the offset, the bytes in two
groups of eight, and their printable characters between bars. -/
def hexDump (bytes : ByteArray) : String :=
  let rows := (List.range ((bytes.size + 15) / 16)).map fun r =>
    let row := (bytes.toList.drop (16 * r)).take 16
    let cells := String.join ((List.range 16).map fun i =>
      (match row[i]? with
        | some b => Text.hexPadded 2 b.toNat ++ " "
        | none => "   ") ++ (if i == 7 then " " else ""))
    Text.hexPadded 8 (16 * r) ++ "  " ++ cells ++ " |" ++ String.ofList (row.map dumpChar) ++ "|\n"
  String.join rows

/-- `eeprom read`: a range of the memory dumped. -/
def memoryRead (inv : Invocation) : Act Unit := do
  let length := inv.int "length"
  if length ≤ 0 || length > 4096 then Act.exit ("length out of range: " ++ toString length)
  let memory ← Act.check "could not open memory" (openMemory inv)
  let bytes ← Act.orExit "" (memory.read (inv.uint "at").toUInt32 length.toNat)
  Act.say (hexDump bytes)

/-- Asks a yes-or-no question on the terminal; anything but yes is no. -/
def confirm : Act (Option Bool) := do
  match ← Act.readLine with
  | none => pure none
  | some answer => pure (some (Text.lowerCase (Text.trimWhite answer) == "y"))

/-- `eeprom write`: bytes written into the SPI memory, once confirmed. -/
def memoryWrite (inv : Invocation) : Act Unit := do
  let data ← match decodeHex (inv.string "data") with
    | .ok bytes => pure bytes
    | .error e => Act.exit ("invalid data hex string: " ++ e)
  if inv.string "source" != "spi" then Act.exit "writing is only supported for the spi source"
  if !inv.bool "yes" then
    if (← confirm) != some true then Act.exit "aborted"
  let _ ← Act.check "could not open memory" (spiMemory inv)
  Act.say ("... wrote " ++ toString data.size ++ " bytes at " ++ hexWithPrefix (inv.uint "at") 5)

end Acquisition.Tool
