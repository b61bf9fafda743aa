import Acquisition.Bench.Hosts
import Acquisition.Tool.Run
/-! Bench requests that run the command-line tool on the simulated machine from `args`, `config`,
`files` and `stdin`, answering with the exit code, the output streams, the devices touched and the
files asked for. -/
namespace Acquisition.Bench

def replaceAll (text pattern replacement : String) : String :=
  replacement.intercalate (text.splitOn pattern)

def brokerAddress (listening : Bool) : String :=
  if listening then "tcp://127.0.0.1:<port>" else "tcp://127.0.0.1:1"

def terminal (request : Json) : Run Json := do
  let args ← (← listOr request "args").mapM (asString "args")
  let machine ← machineOf request
  let broker ← boolOr request "broker" false
  let config ← (member? request "config").mapM (asString "config")
  let given ← match member? request "files" with
    | some (.object members) => members.mapM fun (k, v) => do pure (k, ← asString "files" v)
    | some _ => fieldRefusal "files" "want an object"
    | none => pure []
  let reads ← (← listOr request "read_files").mapM (asString "read_files")
  let stdin ← stringOr request "stdin" ""
  let showControl ← boolOr request "show_control" false
  let files := given.foldl (fun t (k, v) => t.write k v) ({} : FileTable)
  let files := match config with
    | some text => files.write "config.yaml" (replaceAll text "$\x7bBROKER\x7d" (brokerAddress broker))
    | none => files
  let (code, w) := Tool.run args { machine, files, input := stdin.toList }
  let readBack : List (String × Json) :=
    reads.map fun name => (name, match w.files.read? name with
      | some text => .string text
      | none => .null)
  let base : List (String × Json) := [("code", .nat code), ("stdout", .string w.stdout),
    ("errors", .string w.errors), ("pins", pinsJson w.machine), ("i2c", transactionsJson w.machine)]
  let filesMember := if member? request "read_files" |>.isSome then [("files", Json.object readBack)] else []
  let controlMember := if showControl then
      [("control", Json.array (w.machine.control.commands.toList.map Json.string))] else []
  pure (.object (base ++ filesMember ++ controlMember))

end Acquisition.Bench
