import Acquisition.CommandTree.Help
import Acquisition.CommandTree.Completion
import Acquisition.Text.Distance
/-! Running a command tree on a command line: the words lead down the tree to a command, which reads
its flags and runs, or shows help. Errors are returned, with suggestions for a misspelt subcommand.
-/
namespace Acquisition.CommandTree

variable {α : Type}

/-- Whether a word is a flag that takes the next word as its value, for the
flags known. -/
def takesNextWord (flags : List Flag) (word : String) : Bool :=
  (word.startsWith "--" && !word.contains '=' && !longNeedsNoValue flags (word.drop 2).toString) ||
  (word.startsWith "-" && !word.contains '=' && word.utf8ByteSize == 2 &&
    !shortNeedsNoValue flags (word.drop 1).toString)

def namesCommand (word : String) : Bool := !word.isEmpty && !word.startsWith "-"

/-- The words that may name subcommands: the words before `--` that are not
flags or the values of flags. A flag needing a value as one of the last two
words ends them. -/
def commandWords (flags : List Flag) : List String → List String
  | [] => []
  | [word] => if word != "--" && !takesNextWord flags word && namesCommand word then [word] else []
  | word :: rest@(_ :: more) =>
    if word == "--" then []
    else if takesNextWord flags word then
      if more.isEmpty then [] else commandWords flags more
    else if namesCommand word then word :: commandWords flags rest
    else commandWords flags rest

/-- The words without the first one equal to `name` among those that are not
flags or the values of flags. -/
def withoutWord (flags : List Flag) (name : String) : List String → List String
  | [] => []
  | word :: rest =>
    if word == "--" then word :: rest
    else if takesNextWord flags word then
      match rest with
      | value :: more => word :: value :: withoutWord flags name more
      | [] => [word]
    else if !word.startsWith "-" && word == name then rest
    else word :: withoutWord flags name rest

/-- Follows the words down the tree from a place; `fuel` bounds the levels. -/
def descend : Nat → Place α → List String → Place α × List String
  | 0, p, words => (p, words)
  | fuel + 1, p, words =>
    let flags := p.flags false
    match commandWords flags words with
    | [] => (p, words)
    | next :: _ =>
      match p.command.subcommands.find? (·.answersTo next) with
      | some s => descend fuel (p.enter s) (withoutWord flags next words)
      | none => (p, words)

def suggestions (c : Command α) (word : String) : List String :=
  (c.subcommands.filter fun s =>
    s.available && (Text.textDistance word s.name ≤ 2 || (Text.lowerCase s.name).startsWith (Text.lowerCase word))).map
    Command.name

def unknownCommand (p : Place α) (word : String) : String :=
  let close := suggestions p.command word
  "unknown command " ++ Text.quote word ++ " for " ++ Text.quote p.path ++
    (if close.isEmpty then "" else "\n\nDid you mean this?\n" ++ String.join (close.map fun s => "\t" ++ s ++ "\n"))

/-- Finds the command some words name from the root, with the words left for it. -/
def locate (root : Command α) (words : List String) : Except String (Place α × List String) :=
  let (p, rest) := descend (words.length + 1) ⟨root, []⟩ words
  if p.command.noArgs || p.command.subcommands.isEmpty || !p.isRoot then .ok (p, rest)
  else
    match commandWords (p.flags false) rest with
    | word :: _ => .error (unknownCommand p word)
    | [] => .ok (p, rest)

/-- Whether a word can be shown between backquotes: it holds no backquote and
no control character but the tab. -/
def backquotable (word : String) : Bool :=
  word.all fun c => c != '\x60' && c.toNat != 127 && c.toNat != 0xFEFF && (c.toNat ≥ 32 || c == '\t')

def quoteWords (words : List String) : String :=
  "[" ++ " ".intercalate (words.map fun w =>
    if backquotable w then "\x60" ++ w ++ "\x60" else Text.quote w) ++ "]"

def helpOutput (root : Command α) (words : List String) : String :=
  match locate root words with
  | .ok (p, _) => p.help
  | .error _ => "Unknown help topic " ++ quoteWords words ++ "\n" ++ (Place.mk root []).usage

/-- The command reached, with the flags read for it. -/
structure Call where
  path : String
  flags : List Flag
  parsed : Parsed

namespace Call

def value (c : Call) (name : String) : String :=
  match findLong c.flags name with
  | some f => c.parsed.value f
  | none => ""

def switch (c : Call) (name : String) : Bool := c.value name == "true"

def args (c : Call) : List String := c.parsed.args

end Call

/-- How running a tree ends. -/
inductive Outcome (α : Type) where
  /-- Text was written, and nothing failed. -/
  | shown (out : String)
  | failed (message : String)
  /-- A command's action is to run. -/
  | run (action : α) (call : Call)

/-- What a runnable command at a place does for a call. -/
def perform (root : Command α) (p : Place α) (call : Call) : Outcome α :=
  match p.command.role with
  | .run action => .run action call
  | .help => .shown (helpOutput root call.args)
  | .script _ => .shown ""
  | .group => .shown p.help

/-- Runs the command at a place on the words left for it. -/
def runAt (root : Command α) (p : Place α) (words : List String) : Outcome α :=
  let flags := p.flags true
  match parse flags words with
  | .error .help => .shown p.help
  | .error (.error message) => .failed message
  | .ok parsed =>
    let call : Call := ⟨p.path, flags, parsed⟩
    if call.switch "help" || !p.command.runnable then .shown p.help
    else
      match parsed.args with
      | word :: _ =>
        if p.command.noArgs then .failed ("unknown command " ++ Text.quote word ++ " for " ++ Text.quote p.path)
        else perform root p call
      | [] => perform root p call

/-- Runs a tree, given the help and completion commands, on the words of a command line. -/
def execute (root : Command α) (words : List String) : Outcome α :=
  let root := withDefaults root
  match locate root words with
  | .error message => .failed message
  | .ok (p, rest) => runAt root p rest

end Acquisition.CommandTree
