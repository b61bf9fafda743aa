import Acquisition.CommandTree.Flag
/-! A tree of commands, each named by its use line's first word, with aliases, an action or
subcommands, and its own or persistent flags. A `Place` is a command with its ancestors, nearest
first. -/
namespace Acquisition.CommandTree

/-- The shells a completion script can be written for. -/
inductive Shell where
  | bash
  | zsh
  | fish
  | powershell
  deriving DecidableEq, Repr

/-- What a command does when it is run. -/
inductive Role (α : Type) where
  /-- Nothing: it only groups its subcommands, and running it shows its help. -/
  | group
  | run (action : α)
  /-- Shows the help of the command the words after it name. -/
  | help
  /-- Stands for the completion script of a shell; running it writes nothing. -/
  | script (shell : Shell)

structure Command (α : Type) where
  use : String
  short : String := ""
  long : String := ""
  /-- The identifier of the group its parent lists it in; empty for none. -/
  group : String := ""
  aliases : List String := []
  flags : List Flag := []
  persistent : List Flag := []
  role : Role α := .group
  /-- Whether words other than flags are refused. Otherwise a root with
  subcommands refuses a word that names none of them, and other commands take
  any words. -/
  noArgs : Bool := false
  hidden : Bool := false
  /-- Whether the use line mentions the flags. -/
  flagsInUseLine : Bool := true
  /-- The groups subcommands are listed in: identifier and title, in order. -/
  groups : List (String × String) := []
  subcommands : List (Command α) := []

namespace Command

variable {α : Type}

theorem sizeOf_lt_of_mem {c s : Command α} (h : s ∈ c.subcommands) : sizeOf s < sizeOf c := by
  cases c
  have := List.sizeOf_lt_of_mem h
  simp only [Command.mk.sizeOf_spec]
  simp only at this
  omega

def name (c : Command α) : String := (c.use.splitOn " ").headD ""

def runnable (c : Command α) : Bool :=
  match c.role with
  | .group => false
  | _ => true

def isHelp (c : Command α) : Bool :=
  match c.role with
  | .help => true
  | _ => false

/-- Whether the command is offered in listings and suggestions: not hidden, not
the help command, and runnable or with a subcommand offered. -/
def available (c : Command α) : Bool :=
  !c.hidden && !c.isHelp && (c.runnable || c.subcommands.attach.any fun ⟨s, _⟩ => s.available)
termination_by sizeOf c
decreasing_by exact sizeOf_lt_of_mem ‹_›

def hasAvailableSubcommands (c : Command α) : Bool := c.subcommands.any (·.available)

/-- Whether the command is only a topic of help: not runnable, not hidden, and
with nothing below it but such topics. -/
def helpTopic (c : Command α) : Bool :=
  !c.runnable && !c.hidden && c.subcommands.attach.all fun ⟨s, _⟩ => s.helpTopic
termination_by sizeOf c
decreasing_by exact sizeOf_lt_of_mem ‹_›

def answersTo (c : Command α) (word : String) : Bool := c.name == word || c.aliases.contains word

def nameWidth (c : Command α) : Nat :=
  c.subcommands.foldl (fun m s => max m s.name.utf8ByteSize) 11

def sortedSubcommands (c : Command α) : List (Command α) :=
  c.subcommands.mergeSort fun a b => decide (a.name ≤ b.name)

end Command

def distinctFlags (flags : List Flag) : List Flag :=
  flags.foldl (fun kept f => if kept.any (·.name == f.name) then kept else kept ++ [f]) []

def helpFlag (name : String) : Flag :=
  { name := "help", shorthand := some 'h', kind := .switch, default := "false",
    usage := "help for " ++ (if name.isEmpty then "this command" else name) }

/-- A command with its ancestors, nearest first. -/
structure Place (α : Type) where
  command : Command α
  ancestors : List (Command α) := []

namespace Place

variable {α : Type}

def path (p : Place α) : String :=
  " ".intercalate ((p.command :: p.ancestors).reverse.map Command.name)

def isRoot (p : Place α) : Bool := p.ancestors.isEmpty

def enter (p : Place α) (s : Command α) : Place α := ⟨s, p.command :: p.ancestors⟩

def inherited (p : Place α) : List Flag := distinctFlags (p.ancestors.flatMap (·.persistent))

/-- The flags the command reads. The help switch is there once the command
runs or shows its help. -/
def flags (p : Place α) (withHelp : Bool) : List Flag :=
  let own := distinctFlags (p.command.flags ++ p.command.persistent ++ p.inherited)
  if withHelp && !own.any (·.name == "help") then own ++ [helpFlag p.command.name] else own

def localFlags (p : Place α) : List Flag :=
  let own := distinctFlags (p.command.flags ++ p.command.persistent)
  if own.any (·.name == "help") || p.inherited.any (·.name == "help") then own
  else own ++ [helpFlag p.command.name]

def globalFlags (p : Place α) : List Flag :=
  p.inherited.filter fun f => !p.localFlags.any (·.name == f.name)

/-- The use line: the path of the parent, the use of the command and, if it
has flags and its use does not mention them, a mention of them. -/
def useLine (p : Place α) : String :=
  let line := match p.ancestors with
    | [] => p.command.use
    | parent :: above => (Place.mk parent above).path ++ " " ++ p.command.use
  if p.command.flagsInUseLine && !(p.flags true).isEmpty && (line.splitOn "[flags]").length ≤ 1 then
    line ++ " [flags]"
  else line

end Place

end Acquisition.CommandTree
