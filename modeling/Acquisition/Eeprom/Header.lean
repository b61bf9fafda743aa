import Acquisition.Bus
/-! The header of the identification memory: 12 bytes with signature `R-Pi`, version 1, the atom
count and total length little-endian. -/
namespace Acquisition.Eeprom

def headerSize : Nat := 12

def formatVersion : UInt8 := 1

def hatSignature : List UInt8 := [0x52, 0x2D, 0x50, 0x69]

structure Header where
  signature : List UInt8
  version : UInt8
  atoms : Nat
  length : Nat
  deriving Repr, BEq

def littleEndian (bs : List UInt8) : Nat := bs.foldr (fun b acc => acc * 256 + b.toNat) 0

/-- Decodes and checks the first twelve bytes. -/
def Header.parse (b : ByteArray) : Except Fault Header :=
  if b.size < headerSize then
    .error (.of .badLength ("invalid eeprom length: header has " ++ toString b.size ++ " bytes"))
  else
    let bs := b.toList
    let h : Header := {
      signature := bs.take 4
      version := bs.getD 4 0
      atoms := littleEndian ((bs.drop 6).take 2)
      length := littleEndian ((bs.drop 8).take 4) }
    if h.signature != hatSignature then
      .error (.of .badSignature ("invalid eeprom signature: " ++ hexSpaced h.signature))
    else if h.version != formatVersion then
      .error (.of .badVersion ("unsupported eeprom format version: " ++ toString h.version.toNat))
    else if h.length < headerSize then
      .error (.of .badLength ("invalid eeprom length: " ++ toString h.length))
    else .ok h

def Header.read {σ : Type} (read : UInt32 → Nat → Op σ ByteArray) : Op σ Header := do
  let b ← Op.withContext "could not read eeprom header" (read 0 headerSize)
  MonadExcept.ofExcept (Header.parse b)

end Acquisition.Eeprom
