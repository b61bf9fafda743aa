import Acquisition.Sample.Reader
import Acquisition.Wave.Sine
/-! A stand-in for the board: four sine waves around the middle of the 16-bit range, frames numbered
from the last arming, a read while disarmed failing. -/
namespace Acquisition

def sineFrequencies : Vector Float 4 := #v[50, 120, 440, 1000]

def sineAmplitude : Float := 12000

structure SineSource where
  /-- Frames per second. -/
  rate : Nat
  mode : Mode := .primary
  armed : Bool := false
  /-- Frames handed out since the last arming. -/
  produced : Nat := 0

namespace SineSource

def frameAt (rate k : Nat) : Frame :=
  let t := k.toFloat / rate.toFloat
  Vector.ofFn fun ch =>
    (32768 + sineAmplitude * Wave.sine (2 * 3.141592653589793 * sineFrequencies.get ch * t)).toUInt16

def sampler : Sampler SineSource where
  configure m := modify fun s => { s with mode := m }
  arm := modify fun s => { s with armed := true, produced := 0 }
  disarm := modify fun s => { s with armed := false }
  readFrames n := do
    let s ← get
    if !s.armed then throw (Fault.plain "simulator is not armed")
    set { s with produced := s.produced + n }
    pure ((List.range n).map fun i => frameAt s.rate (s.produced + i))

end SineSource

end Acquisition
