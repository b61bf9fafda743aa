import Acquisition.Cli.Command
/-! Running an application on a command line up to its action: each command reads its flags and
passes the rest to the subcommand named next; help, version, usage errors and completions are
answered on the way. -/
namespace Acquisition.Cli

/-- A command reached on the way, with what it read. -/
structure Frame (α : Type) where
  command : Command α
  helpName : String
  flags : List Flag
  given : Given
  args : List String

/-- The commands reached. -/
structure Context (α : Type) where
  /-- The frames of the commands reached, the last one first. -/
  frames : List (Frame α)

namespace Context

variable {α : Type}

def owner? (ctx : Context α) (name : String) : Option (Frame α × Nat × Flag) :=
  ctx.frames.findSome? fun fr => (findFlag fr.flags name).map fun (i, f) => (fr, i, f)

def value? (ctx : Context α) (name : String) : Option FlagValue :=
  (ctx.owner? name).map fun (fr, i, f) =>
    ((fr.given.reverse.find? (·.1 == i)).map (·.2.2)).getD f.default

def isSet (ctx : Context α) (name : String) : Bool :=
  match ctx.owner? name with
  | some (fr, i, _) => fr.given.any (·.1 == i)
  | none => false

def bool (ctx : Context α) (name : String) : Bool :=
  match ctx.value? name with
  | some (.bool b) => b
  | _ => false

def string (ctx : Context α) (name : String) : String :=
  match ctx.value? name with
  | some (.string s) => s
  | _ => ""

def int (ctx : Context α) (name : String) : Int :=
  match ctx.value? name with
  | some (.int n) => n
  | _ => 0

def uint (ctx : Context α) (name : String) : Nat :=
  match ctx.value? name with
  | some (.uint n) => n
  | _ => 0

def duration (ctx : Context α) (name : String) : Int :=
  match ctx.value? name with
  | some (.duration ns) => ns
  | _ => 0

def args (ctx : Context α) : List String :=
  match ctx.frames with
  | fr :: _ => fr.args
  | [] => []

end Context

/-- What running an application comes to. -/
inductive Outcome (α : Type) where
  /-- The application ends having written to standard output and to the error stream. -/
  | done (stdout errors : String) (code : Nat)
  /-- The action of the command reached runs. -/
  | run (action : α) (ctx : Context α)

/-- A help text that was asked for, or the name of a command there is none for. -/
inductive Shown where
  | text (help : String)
  | noTopic (name : String)

namespace App

variable {α : Type}

/-- The help of the command named `name` among the subcommands of the command
reached; a command offering none looks among the application's commands. The
help command keeps the name it has under the root. -/
def topicHelp (a : App α) (target : Frame α) (root : Bool) (name : String) : Shown :=
  let (pool, base) :=
    if root || target.command.offered.isEmpty then (a.commands ++ [Command.help], a.name)
    else (target.command.offered, target.helpName)
  match Command.find? pool name with
  | some c =>
    let helpName := if c.showsHelp then a.name ++ " " ++ c.name else base ++ " " ++ c.name
    .text (commandHelp helpName c (c.flags ++ [helpFlag]) c.listed)
  | none => .noTopic name

/-- What the help action shows for the commands reached: the help of the
command named by the first argument, else that of the command reached (its
parent's, when it is the help command itself). -/
def helpAction (a : App α) (ctx : Context α) : Shown :=
  match ctx.frames with
  | [] => .text a.help
  | fr :: parents =>
    let target := if fr.command.showsHelp then parents else ctx.frames
    match target with
    | [] => .text a.help
    | t :: above =>
      match fr.args.head? with
      | some first =>
        if first.isEmpty then (if above.isEmpty then .text a.help else .text (commandHelp t.helpName t.command t.flags t.command.listed))
        else a.topicHelp t above.isEmpty first
      | none => if above.isEmpty then .text a.help else .text (commandHelp t.helpName t.command t.flags t.command.listed)

def showHelp (s : Shown) (code : Nat) : Outcome α :=
  match s with
  | .text help => .done help "" code
  | .noTopic name => .done "" ("No help topic for '" ++ name ++ "'\n") 3

def completionRequest : String := "--generate-bash-completion"

def flagStem (word : String) : String :=
  let once := if word.startsWith "-" then (word.drop 1).toString else word
  if once.startsWith "-" then (once.drop 1).toString else once

def dashed (name : String) : String := (if name.length == 1 then "-" else "--") ++ name

/-- What a shell completing `line` is offered, one per line. When the word
before the request starts with a dash, it is a flag being typed: the names of
the flags that extend it and that the line does not hold yet, written with
their dashes; after two dashes only the long names. Otherwise the names of the
subcommands. -/
def offers (line : List String) (flags : List Flag) (subcommands : List (Command α)) : String :=
  let typed := if line.length ≥ 2 then line.getD (line.length - 2) "" else ""
  if typed.startsWith "-" then
    let stem := flagStem typed
    let names := (flags.flatMap (·.names)).filter fun n =>
      !(typed.startsWith "--" && n.length == 1) && n.startsWith stem && stem != n &&
        !line.contains (dashed n)
    String.join (names.map fun n => dashed n ++ "\n")
  else String.join ((subcommands.flatMap Command.names).map (· ++ "\n"))

/-- Runs `cmd`, reached through `ctx`, on the words after its name. When a
shell asks what may follow the command line `line`, flags that cannot be read
are passed over, and the command whose words name no subcommand answers. -/
def visit (a : App α) : Nat → Context α → Command α → String → Bool → Option (List String) →
    List String → Outcome α
  | 0, _, _, _, _, _, _ => .done "" "" 1
  | fuel + 1, ctx, cmd, helpName, root, line, words =>
    let flags := if root then a.globalFlags else cmd.readFlags
    let parsed : Except String (Given × List String) := match line with
      | some _ => let reading := readFlags flags words []; .ok (reading.given, reading.rest)
      | none => parse flags words
    match parsed with
    | .error e =>
      let help := if root then a.help
        else if cmd.hideHelp then ""
        else commandHelp helpName cmd (cmd.flags ++ [helpFlag]) cmd.offered
      .done ("Incorrect Usage: " ++ e ++ "\n\n" ++ help) "" 1
    | .ok (given, rest) =>
      let ctx : Context α := ⟨{ command := cmd, helpName, flags, given, args := rest } :: ctx.frames⟩
      let subcommands := if root then a.commands ++ [Command.help] else cmd.offered
      let next := rest.head?.bind (Command.find? subcommands)
      let own : Outcome α := match cmd.action with
        | some act => .run act ctx
        | none => showHelp (a.helpAction ctx) 0
      match line, next with
      | some l, none => .done (offers l flags subcommands) "" 0
      | _, _ =>
        if ctx.bool "help" then showHelp (a.helpAction ctx) 0
        else if root && ctx.bool "version" then .done a.versionText "" 0
        else if flags.any (fun f => f.required && !ctx.isSet f.name) then
          match a.helpAction ctx with
          | .text help => .done help "" 1
          | .noTopic _ => .done "" "" 1
        else
          match next with
          | some sub => a.visit fuel ctx sub (helpName ++ " " ++ sub.name) false line (rest.drop 1)
          | none => own

/-- Runs the application on the words after the program's name. A last word
asking for completions, on a line without `--`, makes it answer what may
follow the words before it. -/
def dispatch (a : App α) (words : List String) : Outcome α :=
  let completing := words.getLast? == some completionRequest && !words.contains "--"
  let line := if completing then some words else none
  let words := if completing then words.dropLast else words
  a.visit (words.length + 1) ⟨[]⟩ a.root a.name true line words

end App

end Acquisition.Cli
