import Acquisition.Effect
/-! The buses and lines the library talks to: I2C by 7-bit address, full-duplex serial transports,
and output lines that read back what was driven. -/
namespace Acquisition

def busBusy : Fault := .of .busBusy "I2C engine is busy (command not completed)"

structure I2cBus (σ : Type) where
  /-- Writes the bytes to the device at the address. -/
  write : UInt8 → ByteArray → Op σ Unit
  /-- Reads the given number of bytes from the device at the address. -/
  read : UInt8 → Nat → Op σ ByteArray
  /-- Lets go of a bus that is stuck. -/
  release : Op σ Unit

structure Transport (σ : Type) where
  /-- Sends the bytes and receives as many. -/
  exchange : ByteArray → Op σ ByteArray

structure OutputLine (σ : Type) where
  set : Bool → Op σ Unit
  /-- The level last driven. -/
  readback : σ → Bool
  /-- The level observed on the line. -/
  get : σ → Bool

def hexNumber (n : Nat) : String := "0x" ++ String.ofList (Nat.toDigits 16 n)

def hexBytes (bs : ByteArray) : String :=
  bs.foldl (fun acc b => acc ++ (if b < 16 then "0" else "") ++ String.ofList (Nat.toDigits 16 b.toNat)) ""

def hexSpaced (bs : List UInt8) : String :=
  " ".intercalate (bs.map fun b => (if b < 16 then "0" else "") ++ String.ofList (Nat.toDigits 16 b.toNat))

end Acquisition
