import Acquisition.Session.LockFile
/-! Instances of one lock file taking the steps of their calls in any interleaving, beside another
program that may put a new file at the lock's path. -/
namespace Acquisition

/-- A step of a run. -/
inductive LockStep where
  /-- Instance `i` is called; while a call is in progress the step does nothing. -/
  | call (i : Nat) (c : LockCall)
  /-- Instance `i` takes the next step of its call. -/
  | advance (i : Nat)
  /-- Another program puts a new file with `text` at the lock's path. -/
  | replace (text : String)
  deriving DecidableEq, Repr

/-- Instances of the lock at `path`, the machine's files, and what the calls
returned, in order, with the instance that made each. -/
structure Contention where
  path : String
  files : FileTable
  instances : Nat → PidFile
  returned : List (Nat × Except Fault Unit) := []

namespace Contention

def start (path : String) (files : FileTable) : Contention :=
  { path, files, instances := fun _ => { path } }

def setInstance (s : Contention) (i : Nat) (p : PidFile) : Contention :=
  { s with instances := fun j => if j = i then p else s.instances j }

def step (s : Contention) : LockStep → Contention
  | .call i c =>
    if (s.instances i).stage = .idle then
      match (s.instances i).begin c with
      | none => { s with returned := s.returned ++ [(i, .ok ())] }
      | some p => s.setInstance i p
    else s
  | .advance i =>
    let (p, files, result) := (s.instances i).advance s.files
    { s.setInstance i p with files, returned := s.returned ++ result.toList.map ((i, ·)) }
  | .replace text => { s with files := s.files.create s.path text }

def run (s : Contention) (steps : List LockStep) : Contention := steps.foldl step s

end Contention

end Acquisition
