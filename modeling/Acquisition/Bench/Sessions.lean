import Acquisition.Bench.Reading
import Acquisition.Session.Registry
import Acquisition.Session.LockFile
/-! Bench requests for the session registry and for lock files in a working directory with an empty
`locks`. -/
namespace Acquisition.Bench

def handleMembers (h : Handle) : Members :=
  [("handle", .nat h.serial), ("device", .string h.device), ("owner", .string h.owner)]

structure RegistryBench where
  registry : Registry := {}
  handles : Array Handle := #[]

def registryStep (label : Cause → String) (b : RegistryBench) (step : Json) :
    Run (Members × RegistryBench) := do
  match ← string step "do" with
  | "acquire" => do
    match b.registry.acquire (← stringOr step "device" "") (← stringOr step "owner" "") with
    | .ok (h, registry) => pure (handleMembers h, { registry, handles := b.handles.push h })
    | .error f => pure (faultMembers label f, b)
  | "release" => do
    let h ← match member? step "handle" with
      | none => pure none
      | some j => do
        let i ← asInt "handle" j
        match b.handles[i.toNat]? with
        | some h => if i < 0 then refuse ("no handle " ++ toString i) else pure (some h)
        | none => refuse ("no handle " ++ toString i)
    match b.registry.release h with
    | .ok registry => pure ([], { b with registry })
    | .error f => pure (faultMembers label f, b)
  | "active" => do
    match b.registry.activeOn (← stringOr step "device" "") with
    | some h => pure ([("ok", .bool true), ("handle", .nat h.serial)], b)
    | none => pure ([("ok", .bool false)], b)
  | "busy" => pure ([("busy", .bool b.registry.busy)], b)
  | other => refuse ("unknown registry step " ++ Text.quote other)

def registry (label : Cause → String) (request : Json) : Run Json := do
  return (← stepsAnswer (registryStep label) {} request).1

def benchPid : Nat := 4242

def maskPid (text : String) : String := text.replace (toString benchPid) "<pid>"

structure LockBench where
  files : FileTable := { directories := ["locks"], pid := benchPid }
  locks : Array PidFile := #[]

def LockBench.call (label : Cause → String) (b : LockBench) (i : Nat) (p : PidFile) (c : LockCall) :
    Members × LockBench :=
  match (p.call c).run' b.files with
  | (.ok p, files) => ([], { b with files, locks := b.locks.set! i p })
  | (.error f, files) => (faultMembers label f, { b with files })

def lockStep (label : Cause → String) (b : LockBench) (step : Json) : Run (Members × LockBench) := do
  let lockAt : Run (Nat × PidFile) := do
    let i ← int step "i"
    match b.locks[i.toNat]? with
    | some p => if i < 0 then refuse ("no lock " ++ toString i) else pure (i.toNat, p)
    | none => refuse ("no lock " ++ toString i)
  match ← string step "do" with
  | "new" => do
    let l := PidFile.new (← stringOr step "dir" "locks") (← string step "name")
    pure ([("i", .nat b.locks.size), ("path", .string l.path)], { b with locks := b.locks.push l })
  | "lock" => do let (i, p) ← lockAt; pure (b.call label i p .lock)
  | "unlock" => do let (i, p) ← lockAt; pure (b.call label i p .unlock)
  | "locked" => do pure ([("locked", .bool (← lockAt).2.locked)], b)
  | "read" => do
    match b.files.read? (← lockAt).2.path with
    | some text => pure ([("exists", .bool true), ("content", .string (maskPid text))], b)
    | none => pure ([("exists", .bool false)], b)
  | other => refuse ("unknown pidfile step " ++ Text.quote other)

def lockFiles (label : Cause → String) (request : Json) : Run Json := do
  return (← stepsAnswer (lockStep label) {} request).1

end Acquisition.Bench
