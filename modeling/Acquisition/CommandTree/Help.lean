import Acquisition.CommandTree.Command
import Acquisition.Text.Blank
/-! The help of a command: its description, use line, aliases, subcommands by group, own and
inherited flags, and help topics. -/
namespace Acquisition.CommandTree

variable {α : Type}

def trimEnd (s : String) : String :=
  String.ofList (s.toList.reverse.dropWhile Text.isWhite).reverse

def padName (width : Nat) (name : String) : String := name.pushn ' ' (width - name.length)

namespace Place

def listed (s : Command α) : Bool := s.available || s.name == "help"

def commandLines (width : Nat) (subcommands : List (Command α)) : String :=
  String.join (subcommands.map fun s => "\n  " ++ padName width s.name ++ " " ++ s.short)

/-- The usage of a command. -/
def usage (p : Place α) : String :=
  let c := p.command
  let subs := c.sortedSubcommands.filter listed
  let width := c.nameWidth
  let offered := c.hasAvailableSubcommands
  let uses := "Usage:" ++ (if c.runnable then "\n  " ++ p.useLine else "") ++
    (if offered then "\n  " ++ p.path ++ " [command]" else "")
  let aliases := if c.aliases.isEmpty then ""
    else "\n\nAliases:\n  " ++ ", ".intercalate (c.name :: c.aliases)
  let listing :=
    if !offered then ""
    else if c.groups.isEmpty then "\n\nAvailable Commands:" ++ commandLines width subs
    else
      let grouped := String.join (c.groups.map fun (id, title) =>
        "\n\n" ++ title ++ commandLines width (subs.filter (·.group == id)))
      let loose := subs.filter (·.group.isEmpty)
      grouped ++ (if loose.isEmpty then "" else "\n\nAdditional Commands:" ++ commandLines width loose)
  let own := if p.localFlags.isEmpty then ""
    else "\n\nFlags:\n" ++ trimEnd (flagListing p.localFlags)
  let global := if p.globalFlags.isEmpty then ""
    else "\n\nGlobal Flags:\n" ++ trimEnd (flagListing p.globalFlags)
  let topics := c.sortedSubcommands.filter Command.helpTopic
  let topicWidth := c.subcommands.foldl (fun m s => max m ((p.enter s).path.length)) 11
  let topicLines := if topics.isEmpty then ""
    else "\n\nAdditional help topics:" ++ String.join (topics.map fun s =>
      "\n  " ++ padName topicWidth (p.enter s).path ++ " " ++ s.short)
  let more := if offered then "\n\nUse \"" ++ p.path ++ " [command] --help\" for more information about a command."
    else ""
  uses ++ aliases ++ listing ++ own ++ global ++ topicLines ++ more ++ "\n"

/-- The help of a command: its long description, or else its short one, then
its usage if it runs or has subcommands. -/
def help (p : Place α) : String :=
  let c := p.command
  let about := if !c.long.isEmpty then c.long else c.short
  let header := if about.isEmpty then "" else trimEnd about ++ "\n\n"
  header ++ (if c.runnable || !c.subcommands.isEmpty then p.usage else "")

end Place

end Acquisition.CommandTree
