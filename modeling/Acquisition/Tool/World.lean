import Acquisition.Sim.Machine
import Acquisition.FileTable
import Acquisition.Board.Store
import Acquisition.Sample.SineSource
import Acquisition.Driver.Options
import Acquisition.Board.Link
/-! What the command-line tool runs against: the machine, the working directory's files, the
simulated board, the terminal's input and two output streams. -/
namespace Acquisition.Tool

structure World where
  machine : Sim.Machine := {}
  files : FileTable := {}
  /-- The board kept in memory, for simulated runs. -/
  board : SettingsStore := {}
  /-- The signal generator, for simulated runs. -/
  generator : SineSource := { rate := baseSampleRate }
  /-- The receiving end of the link to the board's firmware. -/
  control : Receiver ByteRing := { queue := {} }
  /-- The descriptor of the device's lock file, while the tool holds the lock. -/
  lockFile : Option Nat := none
  /-- Time since the tool started, in nanoseconds. -/
  clock : Nat := 0
  /-- When the signal generator was last armed. -/
  armedAt : Nat := 0
  /-- What is left of the terminal's input. -/
  input : List Char := []
  stdout : String := ""
  errors : String := ""
  /-- Where the home directory's files live, relative to the working directory. -/
  home : String := "."

/-- How a command stops early. -/
inductive Stop where
  /-- An exit with a code and a message for the error stream. -/
  | exit (code : Nat) (message : String)
  /-- A failure reported nowhere. -/
  | failure (message : String)

abbrev Act := ExceptT Stop (StateM World)

namespace Act

variable {α : Type}

def exit (message : String) : Act α := throw (.exit 1 message)

def print (text : String) : Act Unit := modify fun w => { w with stdout := w.stdout ++ text }

def say (line : String) : Act Unit := print (line ++ "\n")

def printError (text : String) : Act Unit := modify fun w => { w with errors := w.errors ++ text }

def attempt (op : Op World α) : Act (Except Fault α) := do
  let (r, w) := op.run' (← get)
  set w
  pure r

/-- Runs an operation on the world; its failure exits with the message `context: error`. -/
def orExit (context : String) (op : Op World α) : Act α := do
  match ← attempt op with
  | .ok a => pure a
  | .error f => exit (if context.isEmpty then f.message else context ++ ": " ++ f.message)

/-- The result of a step that may fail; a failure exits with the message `context: error`. -/
def check (context : String) (r : Except Fault α) : Act α :=
  match r with
  | .ok a => pure a
  | .error f => exit (if context.isEmpty then f.message else context ++ ": " ++ f.message)

/-- Reads a line of the terminal's input; `none` at the end of the input, where
a line without its newline is lost. -/
def readLine : Act (Option String) := do
  let w ← get
  let line := w.input.takeWhile (· != '\n')
  let rest := w.input.drop (line.length + 1)
  if line.length < w.input.length then
    set { w with input := rest }
    pure (some (String.ofList line))
  else
    set { w with input := [] }
    pure none

end Act

namespace World

def onMachine {α : Type} (op : Op Sim.Machine α) : Op World α :=
  Op.focus (·.machine) (fun w m => { w with machine := m }) op

def onFiles {α : Type} (op : Op FileTable α) : Op World α :=
  Op.focus (·.files) (fun w t => { w with files := t }) op

def onBoard {α : Type} (op : Op SettingsStore α) : Op World α :=
  Op.focus (·.board) (fun w b => { w with board := b }) op

def onGenerator {α : Type} (op : Op SineSource α) : Op World α :=
  Op.focus (·.generator) (fun w g => { w with generator := g }) op

def onLink {α : Type} (op : Op (Linked World ByteRing) α) : Op World α :=
  Op.focus (fun w => ⟨w, w.control⟩) (fun _ s => { s.port with control := s.rx }) op

/-- The machine's host devices, seen from the world. -/
def host : Host World where
  findLine := Sim.Machine.host.findLine
  out name level := onMachine (Sim.Machine.host.out name level)
  level name w := Sim.Machine.host.level name w.machine
  openPort := Sim.Machine.host.openPort
  connect port hz := onMachine (Sim.Machine.host.connect port hz)
  exchange port bytes := onMachine (Sim.Machine.host.exchange port bytes)
  openBus := Sim.Machine.host.openBus
  transfer bus address w n := onMachine (Sim.Machine.host.transfer bus address w n)
  setSpeed bus hz := onMachine (Sim.Machine.host.setSpeed bus hz)

end World

end Acquisition.Tool
