import Acquisition.Board.Basic
import Acquisition.Bus
import Acquisition.Text.Duration
import Acquisition.Text.Utf8
/-! The firmware over a full-duplex serial transport: request lines `js<`, `js>` and `je<`, answers
clocked out in 32-byte chunks with idle bytes skipped, up to a line end. The received bytes wait in
a `ByteQueue`. -/
namespace Acquisition

def linkChunk : Nat := 32

def rxCapacity : Nat := 4096

/-- The longest line accepted: as many bytes as the receive queue holds. -/
def maxLineSize : Nat := rxCapacity

/-- A queue of bytes, as the link uses one for what it received. -/
structure ByteQueue (β : Type) where
  /-- Drops every byte queued. -/
  reset : β → β
  /-- Adds a byte behind the others, or fails. -/
  writeByte : UInt8 → β → Except Fault β
  /-- Takes the oldest byte, or fails. -/
  readByte : β → Except Fault (UInt8 × β)
  /-- The number of bytes queued. -/
  length : β → Nat

/-- The bytes held by a buffer of fixed size, oldest first. -/
structure ByteRing where
  bytes : List UInt8 := []

/-- The queue of a buffer of `size` bytes: writing to it when it is full, or
reading from it when it is empty, fails. -/
def ByteRing.queue (size : Nat) : ByteQueue ByteRing where
  reset _ := {}
  writeByte b r :=
    if r.bytes.length < size then .ok ⟨r.bytes ++ [b]⟩ else .error (.plain "ringbuffer is full")
  readByte r :=
    match r.bytes with
    | b :: rest => .ok (b, ⟨rest⟩)
    | [] => .error (.plain "ringbuffer is empty")
  length r := r.bytes.length

def rxRing : ByteQueue ByteRing := ByteRing.queue rxCapacity

structure Link where
  /-- Time between polls, in nanoseconds. -/
  pollInterval : Nat := 1000000
  /-- Time allowed for a response, in nanoseconds. -/
  timeout : Nat := 500000000

/-- What a link keeps between polls: the bytes received and not read yet, and
the line read so far. -/
structure Receiver (β : Type) where
  queue : β
  line : Array UInt8 := #[]

/-- A transport's state beside the receiving end of a link over it. -/
structure Linked (σ β : Type) where
  port : σ
  rx : Receiver β

namespace Link

variable {σ β : Type}

def polls (l : Link) : Nat := l.timeout / max l.pollInterval 1 + 1

def onPort {α : Type} (op : Op σ α) : Op (Linked σ β) α :=
  Op.focus (·.port) (fun s p => { s with port := p }) op

/-- Queues the bytes of a chunk that are not idle (0x00, 0xFF), in order. -/
def store (q : ByteQueue β) : List UInt8 → Op (Linked σ β) Unit
  | [] => pure ()
  | b :: rest =>
    if b == 0 || b == 0xFF then store q rest
    else do
      let s ← get
      match q.writeByte b s.rx.queue with
      | .ok queue => do
        set { s with rx := { s.rx with queue } }
        store q rest
      | .error f => throw (f.context "receive buffer")

/-- Reads queued bytes into the line until it ends or the queue is empty; a line
ending in a carriage return loses it. Each pass reads one byte, so the bytes
queued when it starts bound the passes. -/
def readLine (q : ByteQueue β) : Nat → Op (Linked σ β) (Option (Array UInt8))
  | 0 => pure none
  | n + 1 => do
    let s ← get
    if q.length s.rx.queue = 0 then pure none
    else
      match q.readByte s.rx.queue with
      | .error f => throw (f.context "receive buffer")
      | .ok (b, queue) =>
        if b == 10 then do
          set { s with rx := { s.rx with queue } }
          pure (some (if s.rx.line.back? == some 13 then s.rx.line.pop else s.rx.line))
        else if s.rx.line.size == maxLineSize then do
          set { s with rx := { s.rx with queue } }
          throw (.of .overflow "response too long")
        else do
          set { s with rx := { queue, line := s.rx.line.push b } }
          readLine q n

/-- Clocks one chunk out of the firmware and queues it; `some` with the line
once one is complete. -/
def receive (q : ByteQueue β) (t : Transport σ) : Op (Linked σ β) (Option (Array UInt8)) := do
  let chunk ← onPort (Op.withContext "could not read response" (t.exchange ⟨Array.replicate linkChunk 0⟩))
  store q chunk.data.toList
  readLine q (q.length (← get).rx.queue)

/-- Polls until a line is complete, at most `n` times. -/
def awaitLine (q : ByteQueue β) (t : Transport σ) : Nat → Op (Linked σ β) (Option (Array UInt8))
  | 0 => pure none
  | n + 1 => do
    match ← receive q t with
    | some line => pure (some line)
    | none => awaitLine q t n

/-- Sends a command line and waits for the answer line. -/
def exchange (l : Link) (q : ByteQueue β) (t : Transport σ) (command : String) :
    Op (Linked σ β) String := do
  -- what is left over belongs to an abandoned exchange
  modify fun s => { s with rx := { queue := q.reset s.rx.queue } }
  let out := command.toUTF8.toList ++ [10]
  let _ ← onPort (Op.withContext "could not send command" (t.exchange ⟨out.toArray⟩))
  match (← awaitLine q t l.polls).map Array.toList with
  | none => throw (.of .timeout ("no response from firmware after " ++ Text.durationText l.timeout))
  | some (33 :: message) => throw (.of .firmware ("firmware error: " ++ Text.decodeLossy message))
  | some line => pure (Text.decodeLossy line)

def getSettings (l : Link) (q : ByteQueue β) (t : Transport σ) (request : String) :
    Op (Linked σ β) String :=
  Op.withContext "get settings" (l.exchange q t ("js<" ++ request))

def setSettings (l : Link) (q : ByteQueue β) (t : Transport σ) (request : String) :
    Op (Linked σ β) String :=
  Op.withContext "set settings" (l.exchange q t ("js>" ++ request))

def readEvents (l : Link) (q : ByteQueue β) (t : Transport σ) : Op (Linked σ β) (List Event) :=
  Op.withContext "read events" do
    let report ← l.exchange q t "je<"
    MonadExcept.ofExcept (parseEvents report)

def board (l : Link) (q : ByteQueue β) (t : Transport σ) : Board (Linked σ β) where
  getSettings := l.getSettings q t
  setSettings := l.setSettings q t
  readEvents := l.readEvents q t

end Link

end Acquisition
