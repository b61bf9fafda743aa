import Acquisition.CommandTree.Execute
/-! The developer tool's commands: building and cross-compiling the command-line program, and
running the unit tests, the linters and the tests against a board. -/
namespace Acquisition.Workshop

open CommandTree

/-- What a command of the tool does. -/
inductive Task where
  | build
  | cross
  | test
  | integration
  | lint
  deriving DecidableEq, Repr

def hostSystem : String := "linux"

def hostArch : String := "amd64"

def hardwareVariable : String := "TIMESWIPE_HW"

def textFlag (name usage : String) (default : String := "") : Flag :=
  { name, usage, default }

def switchFlag (name usage : String) : Flag :=
  { name, usage, kind := .switch, default := "false" }

def buildCommand : Command Task where
  use := "build"
  short := "Build the timeswipe cli"
  group := "build"
  flags := [switchFlag "no-cache" "do not use cache when building the app",
    textFlag "version" "version of the cli" "latest",
    textFlag "os" "os to build for" hostSystem,
    textFlag "arch" "arch to build for" hostArch,
    textFlag "cross-os" "os to cross-compile for",
    textFlag "cross-arch" "arch to cross-compile for"]
  role := .run .build

def crossCommand : Command Task where
  use := "cross"
  short := "Cross-compile the timeswipe cli for linux/arm64 and linux/arm"
  group := "build"
  flags := [textFlag "version" "version of the cli" "latest"]
  role := .run .cross

def testCommand : Command Task where
  use := "test"
  short := "Run unit tests (driver, queues, resampler, board link)"
  group := "check"
  role := .run .test

def integrationCommand : Command Task where
  use := "integration-test"
  short := "Run integration tests against a mounted board"
  long := "Runs the integration test suite. " ++ hardwareVariable ++ "=1 must be set to confirm a board is attached."
  group := "check"
  role := .run .integration

def lintCommand : Command Task where
  use := "lint"
  short := "Run linters"
  group := "check"
  role := .run .lint

/-- The tool's root command. -/
def tool : Command Task where
  use := "dev"
  short := "developer tooling for the timeswipe driver"
  long := "Builds the timeswipe cli for the host or the Raspberry Pi and runs unit, hardware and lint checks"
  persistent := [switchFlag "debug" "enable debug logging", switchFlag "no-color" "disable colored output"]
  groups := [("build", "Build:"), ("check", "Checks:")]
  subcommands := [buildCommand, crossCommand, testCommand, integrationCommand, lintCommand]

end Acquisition.Workshop
