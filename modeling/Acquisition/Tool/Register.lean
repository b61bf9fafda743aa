import Acquisition.Text.Case
import Acquisition.Tool.Invocation
import Acquisition.ShiftRegister.Arena
import Acquisition.ShiftRegister.Dms
import Acquisition.Expander
/-! The strain-gauge control register from the command line, its last value kept in a state file
beside the device's lock; a change rewrites the register and then sets each output named. -/
namespace Acquisition.Tool

open ShiftRegister

def cutAt (s : String) (sep : Char) : Option (String × String) :=
  match s.toList.span (· != sep) with
  | (before, _ :: after) => some (String.ofList before, String.ofList after)
  | (_, []) => none

/-- One argument `name=level`: the output it names, in any case, and its level. -/
def parseLevel (arg : String) : Except String (Nat × Bool) :=
  match cutAt arg '=' with
  | some (name, raw) => do
    let bit ← (parseDmsPin (Text.lowerCase name)).mapError (·.message)
    let level ← (Text.parseBool raw).mapError fun e =>
      "invalid level for " ++ name ++ ": " ++ e.message "ParseBool" raw
    pure (bit, level)
  | none => throw ("expected <name>=<0|1>, got " ++ Text.quote arg)

/-- The levels with output `bit` at `level`: in its place if named before, else last. -/
def putLevel (levels : List (Nat × Bool)) (bit : Nat) (level : Bool) : List (Nat × Bool) :=
  if levels.any (·.1 == bit) then levels.map (fun (b, l) => if b == bit then (b, level) else (b, l))
  else levels ++ [(bit, level)]

/-- The outputs and levels named on the command line, in the order first
named, each with the level given last. -/
def parseLevels (args : List String) : Except String (List (Nat × Bool)) :=
  args.foldlM (fun levels arg => do
    let (bit, level) ← parseLevel arg
    pure (putLevel levels bit level)) []

def statePath (c : Config) : String := Text.joinPath [c.lockDirectory, c.device ++ ".dms"]

/-- The value last written, zero when none was. -/
def loadState (path : String) : Act UInt64 := do
  let files := (← get).files
  match files.read? path with
  | some text =>
    match Text.parseUnsigned (Text.trimWhite text) with
    | .ok v => pure v.toUInt64
    | .error e => Act.exit ("corrupt register state " ++ path ++ ": " ++ e.message "ParseUint" (Text.trimWhite text))
  | none =>
    match files.readFailure? path with
    | some .missing | none => pure 0
    | some failure => Act.exit ("could not read register state: " ++ failure.message path)

def saveState (path : String) (value : UInt64) : Act Unit := do
  let files := (← get).files
  match files.openError? path with
  | some reason => Act.exit ("could not save register state: open " ++ path ++ ": " ++ reason)
  | none => modify fun w => { w with files := files.write path (hexWithPrefix value.toNat ++ "\n") }

def levelWord (high : Bool) : String := if high then "high" else "low"

/-- An operation on the register and its lines, the lines' own state `ρ` kept beside the world. -/
def onRegister {ρ β : Type} (extra : ρ) (arena : Arena) (op : Op (Wired (ρ × World)) β) :
    Act (Except Fault β × ρ × Arena) := do
  let (r, wired) := op.run' { arena, lines := (extra, ← get) }
  set wired.lines.2
  pure (r, wired.lines.1, wired.arena)

/-- Sets one output of register `id` through a pin of its own, prints the
level read back, and gives the pin back. -/
def setOutput {ρ : Type} (set : LineDriver (ρ × World)) (id : Nat) : ρ × Arena → Nat × Bool → Act (ρ × Arena)
  | (extra, arena), (bit, level) => do
    let (pin, arena) ← Act.check "" (arena.claim id bit)
    let (r, extra, arena) ← onRegister extra arena (Wired.setPin set pin level)
    let _ ← Act.check ("could not set " ++ dmsPinName bit) r
    let high := match arena.value id with
      | .ok v => v >>> bit.toUInt64 &&& 1 == 1
      | .error _ => false
    Act.say ("📌 " ++ dmsPinName bit ++ " " ++ levelWord high)
    pure (extra, arena.unclaim id bit)

/-- Restores the register, sets each named output and saves the result. -/
def driveRegister {ρ : Type} (set : LineDriver (ρ × World)) (extra : ρ) (value : UInt64)
    (levels : List (Nat × Bool)) (path : String) : Act Unit := do
  let (id, arena) ← match Arena.newRegister {} dmsWidth with
    | .ok r => pure r
    | .error f => Act.exit f.message
  let (r, extra, arena) ← onRegister extra arena (Wired.setValue set id value)
  let _ ← Act.check "could not restore register" r
  let (_, arena) ← levels.foldlM (setOutput set id) (extra, arena)
  let value ← Act.check "" (arena.value id)
  saveState path value

def hostLines (lineName : Line → String) : LineDriver (Unit × World) := fun _ l level =>
  Op.focus (·.2) (fun p w => (p.1, w))
    (Op.withContext ("could not set " ++ lineName l) (World.host.out (lineName l) level))

def expanderBus (name : String) : Except Fault String :=
  if name == "mcp2221" then .error bridgeMissing else Host.openI2c World.host.toBuses name

/-- `shiftreg set`. -/
def registerSet (inv : Invocation) : Act Unit := do
  let args := inv.args
  if args.isEmpty then Act.exit "expected at least 1 argument"
  let levels ← match parseLevels args with
    | .ok ls => pure ls
    | .error e => Act.exit e
  let c ← inv.config
  let path := statePath c
  let value ← if inv.bool "reset" then pure 0 else loadState path
  let lines := inv.string "lines"
  if lines == "host" then
    let h := World.host
    let names := [inv.string "data", inv.string "clock", inv.string "strobe"]
    let opened ← Act.attempt (names.mapM fun n => Host.openOutput h.toLines n)
    let pins ← Act.check "could not open register lines" opened
    let lineName (l : Line) : String := match l with
      | .data => (pins[0]?.map (·.name)).getD ""
      | .clock => (pins[1]?.map (·.name)).getD ""
      | .strobe => (pins[2]?.map (·.name)).getD ""
    driveRegister (hostLines lineName) () value levels path
  else if lines == "expander" then
    let bus ← Act.check "could not open register lines" (expanderBus (inv.string "expander-bus"))
    let i2c := Host.i2c World.host.toBuses bus
    let x := Expander.new (inv.uint "expander-address").toUInt8 3
    let w ← get
    let opened := ((List.range 3).mapM fun (i : Nat) => Expander.pin i2c .a (i : Int)).run' (x, w)
    let (pins, (x, w)) := opened
    set w
    let pins ← Act.check "could not open register lines" pins
    let pinOf (l : Line) : ExpanderPin := match l with
      | .data => pins.getD 0 default
      | .clock => pins.getD 1 default
      | .strobe => pins.getD 2 default
    let set : LineDriver (Expander × World) := fun _ l level => Expander.setPin i2c (pinOf l) level
    driveRegister set x value levels path
  else Act.exit ("could not open register lines: unknown lines " ++ Text.quote lines)

/-- `shiftreg get`: the value last written, output by output. -/
def registerGet (inv : Invocation) : Act Unit := do
  let c ← inv.config
  let value ← loadState (statePath c)
  Act.say ("register " ++ hexWithPrefix value.toNat 4)
  for bit in (List.range dmsWidth).reverse do
    let name := dmsPinName bit
    Act.say ("  " ++ name.pushn ' ' (9 - name.length) ++ " " ++ levelWord (value >>> bit.toUInt64 &&& 1 == 1))

end Acquisition.Tool
