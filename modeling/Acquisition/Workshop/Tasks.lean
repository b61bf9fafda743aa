import Acquisition.Workshop.Commands
/-! What the developer tool's tasks reach on a machine with no repository, no container daemon and
no programs on the search path. -/
namespace Acquisition.Workshop

open CommandTree

/-- The environment the tool runs in: the value of the hardware variable, if set. -/
structure Environment where
  hardware : Option String := none

def compile : Except String Unit := .error "could not open git repo: repository does not exist"

def compileInContainer : Except String Unit :=
  .error ("could not get docker info: failed to connect to the docker API at unix:///var/run/docker.sock; " ++
    "check if the path is correct and if the daemon is running: dial unix /var/run/docker.sock: " ++
    "connect: no such file or directory")

/-- Runs a program with arguments; no program is found on the empty search path. -/
def runProgram (words : List String) : Except String Unit :=
  let program := words.headD ""
  .error ("failed to run \"" ++ " ".intercalate words ++ ": exec: " ++ Text.quote program ++
    ": executable file not found in $PATH\"")

def unitTests : List String :=
  ["go", "run", "gotest.tools/gotestsum@v1.12.0", "--no-summary=skipped", "--junitfile", "./coverage.xml",
    "--format", "short", "./..."]

def boardTests : List String :=
  ["go", "run", "gotest.tools/gotestsum@v1.12.0", "--no-summary=skipped", "--junitfile", "./coverage.xml",
    "--format", "short", "--", "-tags=integration", "./..."]

def linters : List String :=
  ["go", "run", "github.com/golangci/golangci-lint/cmd/golangci-lint@latest", "run", "./..."]

def within (context : String) : Except String Unit → Except String Unit
  | .error e => .error (context ++ ": " ++ e)
  | .ok () => .ok ()

/-- `build`: for the host platform, or for a cross platform given in full, in
place; for any other platform in a container. -/
def buildProgram (call : Call) : Except String Unit :=
  if call.value "os" == hostSystem && call.value "arch" == hostArch then compile
  else compileInContainer

/-- `cross`: a build in place for each board architecture, the first failure ending it. -/
def crossCompile : Except String Unit :=
  ["arm64", "arm"].forM fun arch => within ("could not build for linux/" ++ arch) compile

/-- Runs a task of the tool. -/
def Task.perform (env : Environment) (call : Call) : Task → Except String Unit
  | .build => buildProgram call
  | .cross => crossCompile
  | .test => within "failed to run tests" (runProgram unitTests)
  | .lint => within "failed to run linting" (runProgram linters)
  | .integration =>
    if (env.hardware.getD "").isEmpty then .error (hardwareVariable ++ " is not set; refusing to drive hardware")
    else within "failed to run integration testing" (runProgram boardTests)

/-- What a run of the tool writes, and its error if it failed. -/
structure Answer where
  out : String := ""
  error : Option String := none

/-- Runs the tool on the words of a command line. -/
def runTool (env : Environment) (words : List String) : Answer :=
  match execute tool words with
  | .shown out => { out }
  | .failed message => { error := some message }
  | .run task call =>
    match task.perform env call with
    | .ok () => {}
    | .error message => { error := some message }

end Acquisition.Workshop
