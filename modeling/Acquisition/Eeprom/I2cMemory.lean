import Acquisition.Bus
/-! A 24Cxx memory on I2C: 16-bit addresses, reads in chunks of at most 32 bytes, each after a write
of its address. Reads past 64 KiB are refused; addresses are 32-bit words. -/
namespace Acquisition.Eeprom

def defaultI2cAddress : UInt8 := 0x50

def i2cChunk : Nat := 32

def chunkOffsets (length : Nat) : List Nat :=
  (List.range ((length + i2cChunk - 1) / i2cChunk)).map (· * i2cChunk)

/-- Reads `length` bytes from `address` of the memory at `device`. -/
def i2cRead {σ : Type} (bus : I2cBus σ) (device : UInt8) (address : UInt32) (length : Nat) :
    Op σ ByteArray := do
  if (address + length.toUInt32).toNat > 65536 then throw (.plain "read out of range")
  let rec go : List Nat → ByteArray → Op σ ByteArray
    | [], acc => pure acc
    | off :: rest, acc => do
      let pos := address + off.toUInt32
      Op.withContext ("could not set eeprom address " ++ hexNumber pos.toNat)
        (bus.write device ⟨#[(pos >>> 8).toUInt8, pos.toUInt8]⟩)
      let chunk ← Op.withContext ("could not read eeprom at " ++ hexNumber pos.toNat)
        (bus.read device (min i2cChunk (length - off)))
      go rest (acc ++ chunk)
  go (chunkOffsets length) ByteArray.empty

end Acquisition.Eeprom
