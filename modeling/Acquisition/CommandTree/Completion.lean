import Acquisition.CommandTree.Command
/-! The `help` and `completion` commands every tree with subcommands gets, their texts naming the
root. -/
namespace Acquisition.CommandTree

variable {α : Type}

/-- The help command of a tree whose root is named `root`. -/
def helpCommand (root : String) : Command α where
  use := "help [command]"
  short := "Help about any command"
  long := "Help provides help for any command in the application.\nSimply type " ++ root ++
    " help [path to command] for full details."
  role := .help

def noDescriptionsFlag : Flag :=
  { name := "no-descriptions", usage := "disable completion descriptions", kind := .switch, default := "false" }

def Shell.name : Shell → String
  | .bash => "bash"
  | .zsh => "zsh"
  | .fish => "fish"
  | .powershell => "powershell"

def Shell.instructions (root : String) : Shell → String
  | .bash => "Generate the autocompletion script for the bash shell.

This script depends on the 'bash-completion' package.
If it is not installed already, you can install it via your OS's package manager.

To load completions in your current shell session:

\tsource <(" ++ root ++ " completion bash)

To load completions for every new session, execute once:

#### Linux:

\t" ++ root ++ " completion bash > /etc/bash_completion.d/" ++ root ++ "

#### macOS:

\t" ++ root ++ " completion bash > $(brew --prefix)/etc/bash_completion.d/" ++ root ++ "

You will need to start a new shell for this setup to take effect.
"
  | .zsh => "Generate the autocompletion script for the zsh shell.

If shell completion is not already enabled in your environment you will need
to enable it.  You can execute the following once:

\techo \"autoload -U compinit; compinit\" >> ~/.zshrc

To load completions in your current shell session:

\tsource <(" ++ root ++ " completion zsh)

To load completions for every new session, execute once:

#### Linux:

\t" ++ root ++ " completion zsh > \"$\x7bfpath[1]\x7d/_" ++ root ++ "\"

#### macOS:

\t" ++ root ++ " completion zsh > $(brew --prefix)/share/zsh/site-functions/_" ++ root ++ "

You will need to start a new shell for this setup to take effect.
"
  | .fish => "Generate the autocompletion script for the fish shell.

To load completions in your current shell session:

\t" ++ root ++ " completion fish | source

To load completions for every new session, execute once:

\t" ++ root ++ " completion fish > ~/.config/fish/completions/" ++ root ++ ".fish

You will need to start a new shell for this setup to take effect.
"
  | .powershell => "Generate the autocompletion script for powershell.

To load completions in your current shell session:

\t" ++ root ++ " completion powershell | Out-String | Invoke-Expression

To load completions for every new session, add the output of the above command
to your powershell profile.
"

/-- The command of one shell's completion script, with the instructions for installing it. -/
def scriptCommand (root : String) (shell : Shell) : Command α where
  use := shell.name
  short := "Generate the autocompletion script for " ++ shell.name
  long := shell.instructions root
  noArgs := true
  flagsInUseLine := false
  flags := [noDescriptionsFlag]
  role := .script shell

/-- The completion command of a tree whose root is named `root`. -/
def completionCommand (root : String) : Command α where
  use := "completion"
  short := "Generate the autocompletion script for the specified shell"
  long := "Generate the autocompletion script for " ++ root ++
    " for the specified shell.\nSee each sub-command's help for details on how to use the generated script.\n"
  noArgs := true
  subcommands := [.bash, .zsh, .fish, .powershell].map (scriptCommand root)

/-- A root with the help and completion commands after its own, if it has subcommands. -/
def withDefaults (root : Command α) : Command α :=
  if root.subcommands.isEmpty then root
  else
    let subs := root.subcommands.filter (!·.isHelp) ++ [helpCommand root.name]
    let subs := if subs.any (·.answersTo "completion") then subs else subs ++ [completionCommand root.name]
    { root with subcommands := subs }

end Acquisition.CommandTree
