import Acquisition.Host
import Acquisition.Sim.Scripted
/-! A simulated line on its own: it holds a level, and refuses every drive while it is failing. -/
namespace Acquisition.Sim

structure Pin where
  name : String
  level : Bool := false
  failing : Bool := false

def Pin.lines : Lines Pin where
  findLine name := some name
  out _ high := do
    let p ← get
    if p.failing then throw injected
    set { p with level := high }
  level _ p := p.level

end Acquisition.Sim
