import Acquisition.Tool.Invocation
/-! Board settings from the command line: one request, or an interactive session of `get` and `set`
lines whose history is kept in a file in the home directory. -/
namespace Acquisition.Tool

/-- Sends one settings request to the board through an idle driver; a blank request is refused. -/
def exchangeSettings (dev : Devices World) (options : DriverOptions) (set : Bool) (request : String) :
    Act (Except Fault String) := do
  let request := Text.trimWhite request
  if request.isEmpty then return .error (.plain "empty request")
  let driver := Driver.new options (← get)
  let ((payload, fault), driver) := (Driver.settings dev (if set then .set else .get) request).run driver
  MonadState.set driver.world
  pure (match fault with
    | some f => .error f
    | none => .ok payload)

def settingsStation (inv : Invocation) : Act (Devices World × DriverOptions) := do
  let c ← inv.config
  let station ← Act.orExit "could not open board" (Station.ofConfig (inv.bool "simulate") c)
  pure (station.devices (deviceLock c), c.driverOptions.1)

/-- `settings get` and `settings set`: one request, its answer printed. -/
def settingsOnce (inv : Invocation) (set : Bool) : Act Unit := do
  let args := inv.args
  if args.length != 1 then Act.exit ("expected 1 argument, got " ++ toString args.length)
  let (dev, options) ← settingsStation inv
  match ← exchangeSettings dev options set (args.headD "") with
  | .ok answer => Act.say answer
  | .error f => Act.exit f.message

def historyName : String := ".timeswipe_history"

/-- The entries of a history file: its lines ended by a newline, trimmed, without the empty ones. -/
def historyEntries (text : String) : List String :=
  (((text.splitOn "\n").dropLast).map Text.trimWhite).filter (!·.isEmpty)

/-- Runs one line of a session: the answer, or why there is none. -/
def shellLine (dev : Devices World) (options : DriverOptions) (line : String) : Act (Except Fault String) :=
  let (verb, request) := match line.splitOn " " with
    | v :: rest => (v, " ".intercalate rest)
    | [] => ("", "")
  match verb with
  | "get" => exchangeSettings dev options false request
  | "set" => exchangeSettings dev options true request
  | other => pure (.error (.plain ("unknown command " ++ Text.quote other ++ " (use get, set or exit)")))

/-- Reads and runs the session's lines; `last` is the history's last entry and
`fuel` bounds the lines read. -/
def shellLoop (dev : Devices World) (options : DriverOptions) (path : String) :
    Nat → Option String → Act Unit
  | 0, _ => pure ()
  | fuel + 1, last => do
    let some line ← Act.readLine | pure ()
    let saved := !line.isEmpty && last != some line
    if saved then
      modify fun w => { w with files := w.files.write path (((w.files.read? path).getD "") ++ line ++ "\n") }
    let last := if saved then some line else last
    let command := Text.trimWhite line
    if command.isEmpty then shellLoop dev options path fuel last
    else if command == "exit" || command == "quit" then pure ()
    else
      match ← shellLine dev options command with
      | .ok answer => Act.say answer; shellLoop dev options path fuel last
      | .error f => Act.printError ("ERROR: " ++ f.message ++ "\n"); shellLoop dev options path fuel last

/-- `settings shell`: an interactive session over the board. -/
def settingsShell (inv : Invocation) : Act Unit := do
  let (dev, options) ← settingsStation inv
  let w ← get
  let path := Text.joinPath [w.home, historyName]
  let existing := (w.files.read? path).getD ""
  set { w with files := w.files.write path existing }
  shellLoop dev options path (w.input.length + 1) (historyEntries existing).getLast?

end Acquisition.Tool
