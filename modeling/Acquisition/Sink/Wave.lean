import Acquisition.Sink.Basic
import Acquisition.FileTable
/-! Recording bursts into a four-channel RIFF WAVE file of 16, 24 or 32-bit PCM; the header goes out
with the first frames and closing writes its sizes. -/
namespace Acquisition

def littleEndianBytes (width : Nat) (v : Int) : List UInt8 :=
  (List.range width).map fun i => ((v % Nat.pow 2 (8 * width)).toNat / Nat.pow 2 (8 * i) % 256).toUInt8

/-- The bytes of a file after writing `bytes` at `offset`; a gap before it reads as zeros. -/
def patchBytes (file : ByteArray) (offset : Nat) (bytes : List UInt8) : ByteArray :=
  let padded := file.toList ++ List.replicate (offset - file.size) 0
  let before := padded.take offset
  let after := padded.drop (offset + bytes.length)
  ⟨(before ++ bytes ++ after).toArray⟩

def chunkName (s : String) : List UInt8 := s.toUTF8.toList

structure WaveFile where
  rate : Int
  depth : Nat
  scale : Float32 := 1
  bytes : ByteArray := .empty
  frames : Nat := 0
  /-- Where the size of the sample chunk goes, once the chunk has begun. -/
  dataSizeAt : Option Nat := none

namespace WaveFile

def channelCount : Nat := 4

def blockAlign (w : WaveFile) : Nat := channelCount * w.depth / 8

/-- The header before the samples, with placeholder sizes. -/
def header (w : WaveFile) : List UInt8 :=
  chunkName "RIFF" ++ littleEndianBytes 4 42 ++ chunkName "WAVE" ++ chunkName "fmt " ++
  littleEndianBytes 4 16 ++ littleEndianBytes 2 1 ++ littleEndianBytes 2 channelCount ++
  littleEndianBytes 4 w.rate ++ littleEndianBytes 4 (w.rate * w.blockAlign) ++
  littleEndianBytes 2 w.blockAlign ++ littleEndianBytes 2 w.depth ++
  chunkName "data" ++ littleEndianBytes 4 42

def limit (w : WaveFile) : Float := (Nat.pow 2 (w.depth - 1) - 1 : Nat).toFloat

/-- A sample as an integer of the depth: scaled, rounded half away from zero, held in range. -/
def quantize (w : WaveFile) (v : Float32) : Int :=
  let x := (v * w.scale).toFloat.round
  let x := if x > w.limit then w.limit else x
  let x := if x < -w.limit - 1 then -w.limit - 1 else x
  if x < 0 then -((-x).toUInt64.toNat : Int) else (x.toUInt64.toNat : Int)

/-- A new file; only 16, 24 and 32 bits per sample are written. -/
def create (files : FileTable) (path : String) (rate : Int) (depth : Nat) (scale : Float32) :
    Except Fault WaveFile :=
  if depth != 16 && depth != 24 && depth != 32 then
    .error (.plain ("unsupported wav bit depth " ++ toString depth))
  else match files.openError? path with
    | some e => .error (.plain ("could not create wav file: open " ++ path ++ ": " ++ e))
    | none => .ok { rate, depth, scale }

/-- Appends the frames of a burst; a burst whose channels are shorter than the first aborts. -/
def write (w : WaveFile) (b : Batch) : Except Abort WaveFile := do
  let n := b.length
  if n == 0 then return w
  let frames ← (List.range n).mapM fun (i : Nat) =>
    (List.finRange 4).mapM fun ch => elementAt (b.channels.get ch) (Int.ofNat i)
  let samples := frames.flatten.flatMap fun v => littleEndianBytes (w.depth / 8) (w.quantize v)
  let (start, dataSizeAt) := match w.dataSizeAt with
    | some at_ => (w.bytes, some at_)
    | none => (w.bytes ++ ByteArray.mk w.header.toArray, some (w.bytes.size + w.header.length - 4))
  pure { w with bytes := start ++ ByteArray.mk samples.toArray, frames := w.frames + n, dataSizeAt }

/-- The finished file: the sizes written into the header. -/
def close (w : WaveFile) : ByteArray :=
  let total := patchBytes w.bytes 4 (littleEndianBytes 4 ((w.bytes.size : Int) - 8))
  match w.dataSizeAt with
  | some at_ => patchBytes total at_ (littleEndianBytes 4 (w.blockAlign * w.frames))
  | none => total

end WaveFile

end Acquisition
