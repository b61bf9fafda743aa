import Acquisition.ShiftRegister.Arena
import Acquisition.Sim.Scripted
/-! Simulated register lines that record the levels they are set to, and can be told to refuse the
`n`-th following change. -/
namespace Acquisition.Sim

open ShiftRegister

/-- The three lines of one register: a record of changes and pending refusals. -/
structure RegisterLines where
  record : String := ""
  data : Option Nat := none
  clock : Option Nat := none
  strobe : Option Nat := none
  deriving Inhabited

def RegisterLines.countdown (l : RegisterLines) : Line → Option Nat
  | .data => l.data
  | .clock => l.clock
  | .strobe => l.strobe

def RegisterLines.setCountdown (l : RegisterLines) (line : Line) (c : Option Nat) : RegisterLines :=
  match line with
  | .data => { l with data := c }
  | .clock => { l with clock := c }
  | .strobe => { l with strobe := c }

def lineLetter : Line → String
  | .data => "d"
  | .clock => "c"
  | .strobe => "s"

def setLine : LineDriver (Array RegisterLines) := fun id line level => do
  let lines ← get
  let l := lines.getD id default
  match l.countdown line with
  | some 1 =>
    set (lines.set! id (l.setCountdown line none))
    throw injected
  | some (k + 2) =>
    let l := l.setCountdown line (some (k + 1))
    set (lines.set! id { l with record := l.record ++ lineLetter line ++ (if level then "1" else "0") })
  | _ =>
    set (lines.set! id { l with record := l.record ++ lineLetter line ++ (if level then "1" else "0") })

end Acquisition.Sim
