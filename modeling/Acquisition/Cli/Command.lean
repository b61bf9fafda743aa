import Acquisition.Cli.Flag
import Acquisition.Text.Columns
/-! Commands of a command-line application as a tree under a root with the global flags; every
command but `help` has a `help` subcommand and `--help`. Help texts align their listings in one
column. -/
namespace Acquisition.Cli

structure Command (α : Type) where
  name : String
  aliases : List String := []
  usage : String := ""
  /-- How the arguments are written in the usage line. -/
  argsUsage : String := ""
  flags : List Flag := []
  subcommands : List (Command α) := []
  /-- What the command does; a command without an action shows its help. -/
  action : Option α := none
  /-- Whether the command has no `--help` flag. -/
  hideHelp : Bool := false
  /-- Whether the command is the help command, which shows the help of another. -/
  showsHelp : Bool := false

structure App (α : Type) where
  name : String
  usage : String
  version : String
  flags : List Flag
  commands : List (Command α)

namespace Command

variable {α : Type}

def names (c : Command α) : List String := c.name :: c.aliases

def hasName (c : Command α) (n : String) : Bool := c.names.contains n

def help : Command α :=
  { name := "help", aliases := ["h"], usage := "Shows a list of commands or help for one command",
    argsUsage := "[command]", hideHelp := true, showsHelp := true }

/-- The subcommands as they are offered: with `help` after them unless the
command hides its help. -/
def offered (c : Command α) : List (Command α) :=
  if c.hideHelp then c.subcommands else c.subcommands ++ [help]

/-- The subcommands a help text lists: none for a command without subcommands
of its own, else those offered. -/
def listed (c : Command α) : List (Command α) :=
  if c.subcommands.isEmpty then [] else c.offered

def readFlags (c : Command α) : List Flag := if c.hideHelp then c.flags else c.flags ++ [helpFlag]

def find? (cs : List (Command α)) (n : String) : Option (Command α) := cs.find? (·.hasName n)

end Command

def commandList {α : Type} (cs : List (Command α)) : String :=
  let names := cs.map fun c => ", ".intercalate c.names
  let width := names.foldl (fun w n => max w n.length) 0 + 2
  String.join ((cs.zip names).map fun (c, n) => "\n   " ++ n.pushn ' ' (width - n.length) ++ c.usage)

def flagList (flags : List Flag) : String := String.join (flags.map fun f => "\n   " ++ f.helpLine)

def nameLine (helpName usage : String) : String :=
  "NAME:\n   " ++ helpName ++ (if usage.isEmpty then "" else " - " ++ usage)

def layoutHelp (text : String) : String := Text.Columns.format ⟨1, 2⟩ text

/-- The help of a command called `helpName`, with the flags and the subcommands it shows. -/
def commandHelp {α : Type} (helpName : String) (c : Command α) (flags : List Flag)
    (subcommands : List (Command α)) : String :=
  let usage := helpName ++ (if flags.isEmpty then "" else " [command options]") ++
    (if c.argsUsage.isEmpty then "" else " " ++ c.argsUsage)
  let commands := if subcommands.isEmpty then "" else "\n\nCOMMANDS:" ++ commandList subcommands
  let options := if flags.isEmpty then "" else "\n\nOPTIONS:" ++ flagList flags
  layoutHelp (nameLine helpName c.usage ++ "\n\nUSAGE:\n   " ++ usage ++ commands ++ options ++ "\n")

namespace App

variable {α : Type}

def globalFlags (a : App α) : List Flag := a.flags ++ [helpFlag, versionFlag]

def root (a : App α) : Command α := { name := a.name, usage := a.usage, subcommands := a.commands }

/-- The application's own help. -/
def help (a : App α) : String :=
  let commands := a.commands ++ [Command.help]
  layoutHelp (nameLine a.name a.usage ++
    "\n\nUSAGE:\n   " ++ a.name ++ " [global options]" ++
    (if commands.isEmpty then "" else " command [command options]") ++
    (if a.version.isEmpty then "" else "\n\nVERSION:\n   " ++ a.version) ++
    "\n\nCOMMANDS:" ++ commandList commands ++
    "\n\nGLOBAL OPTIONS:" ++ flagList a.globalFlags ++ "\n")

def versionText (a : App α) : String := a.name ++ " version " ++ a.version ++ "\n"

end App

end Acquisition.Cli
