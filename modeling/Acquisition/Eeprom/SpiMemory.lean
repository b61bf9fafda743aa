import Acquisition.Bus
/-! A 25AA1024 memory on SPI: 128 KiB, 24-bit addresses, writes split at 256-byte pages, each
enabled, written and polled until done. Transfers past the end are refused. -/
namespace Acquisition.Eeprom

def commandRead : UInt8 := 0x03
def commandWrite : UInt8 := 0x02
def commandWriteEnable : UInt8 := 0x06
def commandStatus : UInt8 := 0x05

def pageSize : Nat := 256
def spiCapacity : Nat := 131072

/-- Status polls that fit in the write window: 10 ms polled every 0.5 ms. -/
def statusPolls : Nat := 20

/-- The two kinds of exchange the memory uses. -/
structure SpiCommands (σ : Type) where
  /-- Sends a command and then reads the given number of bytes. -/
  readAfter : ByteArray → Nat → Op σ ByteArray
  writeBytes : ByteArray → Op σ Unit

abbrev SpiConnection (σ : Type) := Except Fault (SpiCommands σ)

def noCommands {σ : Type} : SpiConnection σ :=
  .error (.plain "spi connection does not support required operations")

def addressBytes (address : UInt32) : List UInt8 :=
  [(address >>> 16).toUInt8, (address >>> 8).toUInt8, address.toUInt8]

def spiRead {σ : Type} (conn : SpiConnection σ) (address : UInt32) (length : Nat) : Op σ ByteArray := do
  if (address + length.toUInt32).toNat > spiCapacity then throw (.plain "read out of range")
  let ops ← MonadExcept.ofExcept conn
  Op.withContext ("could not read eeprom at " ++ hexNumber address.toNat)
    (ops.readAfter ⟨(commandRead :: addressBytes address).toArray⟩ length)

/-- Polls the status register until the write in progress has finished. -/
def waitUntilReady {σ : Type} (ops : SpiCommands σ) : Nat → Op σ Unit
  | 0 => throw ((Fault.of .deadlineExceeded "context deadline exceeded").context
      "timeout waiting for write completion")
  | polls + 1 => do
    let status ← Op.withContext "read status" (ops.readAfter ⟨#[commandStatus]⟩ 1)
    if status.toList.headD 0 &&& 1 == 0 then return
    waitUntilReady ops polls

def pageWrite {σ : Type} (ops : SpiCommands σ) (address : UInt32) (chunk : List UInt8) : Op σ Unit := do
  Op.withContext "write enable" (ops.writeBytes ⟨#[commandWriteEnable]⟩)
  ops.writeBytes ⟨(commandWrite :: addressBytes address ++ chunk).toArray⟩
  waitUntilReady ops statusPolls

/-- The chunks of a write of `data` at `address`: each ends at a page boundary
or at the end of the data. -/
def pageChunks (address : Nat) : List UInt8 → List (Nat × List UInt8)
  | [] => []
  | b :: rest =>
    let space := pageSize - address % pageSize
    let chunk := (b :: rest).take space
    (address, chunk) :: pageChunks (address + chunk.length) ((b :: rest).drop space)
termination_by data => data.length
decreasing_by
  have h : address % pageSize < pageSize := Nat.mod_lt _ (by decide)
  simp only [List.length_drop, List.length_cons]
  omega

def spiWrite {σ : Type} (conn : SpiConnection σ) (address : UInt32) (data : ByteArray) : Op σ Unit := do
  if (address + data.size.toUInt32).toNat > spiCapacity then throw (.plain "write out of range")
  let ops ← MonadExcept.ofExcept conn
  for (pos, chunk) in pageChunks address.toNat data.toList do
    Op.withContext ("could not write page at " ++ hexNumber (pos % Nat.pow 2 32))
      (pageWrite ops pos.toUInt32 chunk)

end Acquisition.Eeprom
