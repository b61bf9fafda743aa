import Acquisition.Tool.Settings
import Acquisition.Tool.Memory
import Acquisition.Tool.Expansion
import Acquisition.Tool.Bridge
import Acquisition.Tool.Record
/-! A run of the command-line tool: help, version and usage errors answered at once, otherwise the
command's action, with exit code 0, its own code, or 1 for any other failure. -/
namespace Acquisition.Tool

/-- The action of a verb. -/
def Verb.perform : Verb → Invocation → Act Unit
  | .record => Tool.record
  | .settingsGet => fun inv => Tool.settingsOnce inv false
  | .settingsSet => fun inv => Tool.settingsOnce inv true
  | .settingsShell => Tool.settingsShell
  | .memoryHeader => Tool.memoryHeader
  | .memoryRead => Tool.memoryRead
  | .memoryWrite => Tool.memoryWrite
  | .registerSet => Tool.registerSet
  | .registerGet => Tool.registerGet
  | .expanderStatus => Tool.expanderStatus
  | .expanderRead => Tool.expanderRead
  | .expanderPull => Tool.expanderPull
  | .bridgeList => Tool.bridgeList
  | .bridgeStatus => Tool.bridgeAccess
  | .bridgeRelease => Tool.bridgeAccess

/-- Runs the tool on the words after its name: the exit code and the world after the run. -/
def run (words : List String) (w : World) : Nat × World :=
  match app.dispatch words with
  | .done out err code => (code, { w with stdout := w.stdout ++ out, errors := w.errors ++ err })
  | .run verb inv =>
    match (verb.perform inv).run w with
    | (.ok (), w) => (0, w)
    | (.error (.exit code message), w) =>
      (code, if message.isEmpty then w else { w with errors := w.errors ++ message ++ "\n" })
    | (.error (.failure _), w) => (1, w)

end Acquisition.Tool
