import Acquisition.FileTable
import Acquisition.Text.Path
import Acquisition.Text.Integer
import Acquisition.Text.Blank
/-! Lock files `<name>.pid` held through the file's exclusive flock, the holder's process id written
in it; a call is taken one system call at a time so that instances can interleave. -/
namespace Acquisition

/-- Where a call on a lock file stands, between two system calls. -/
inductive LockStage where
  | idle
  /-- Locking: opens the file at the path next. -/
  | opening
  /-- Opened the file on the descriptor: takes its flock next. -/
  | flocking (fd : Nat)
  /-- The flock is held elsewhere: reads the holder's pid and closes next. -/
  | refused (fd : Nat)
  /-- Holds the flock: checks next that the path still links the file. -/
  | checking (fd : Nat)
  /-- Holds the flock of the file at the path: empties it next. -/
  | truncating (fd : Nat)
  /-- Writes its pid into the file next, and keeps the descriptor. -/
  | writing (fd : Nat)
  /-- Unlocking, the descriptor forgotten: empties the file next. -/
  | clearing (fd : Nat)
  /-- Lets go of the flock next. -/
  | releasing (fd : Nat)
  /-- Closes the descriptor next. -/
  | closing (fd : Nat)
  deriving DecidableEq, Repr

/-- One instance of a lock file: its path, the descriptor of the file it holds
locked, and where its call in progress stands. -/
structure PidFile where
  path : String
  file : Option Nat := none
  stage : LockStage := .idle
  deriving DecidableEq, Repr

/-- A call on a lock file. -/
inductive LockCall where
  | lock
  | unlock
  deriving DecidableEq, Repr

namespace PidFile

def new (dir name : String) : PidFile := { path := Text.joinPath [dir, name ++ ".pid"] }

def locked (p : PidFile) : Bool := p.file.isSome

/-- The process id written in a lock file, zero if none can be read. -/
def holderPid (text : String) : Int :=
  match Text.readInt (Text.trimWhite (String.ofList (text.toList.take 32))) with
  | .ok n => n
  | .error _ => 0

def heldFault (path : String) (pid : Int) : Fault :=
  .of .lockHeld ("lock is held by another process: " ++ path ++ " (pid " ++ toString pid ++ ")")

/-- Starts a call; `none` when it returns at once, with success. Locking a lock
already held and unlocking one not held return at once; unlocking forgets the
descriptor before it closes it. -/
def begin (p : PidFile) : LockCall → Option PidFile
  | .lock =>
    match p.file with
    | some _ => none
    | none => some { p with stage := .opening }
  | .unlock =>
    match p.file with
    | none => none
    | some fd => some { p with file := none, stage := .clearing fd }

/-- The next step of the call in progress, one system call; `some` with the
call's result when it returns. -/
def advance (p : PidFile) (t : FileTable) : PidFile × FileTable × Option (Except Fault Unit) :=
  match p.stage with
  | .idle => (p, t, none)
  | .opening =>
    match t.openFile p.path with
    | .error e => ({ p with stage := .idle }, t, some (.error (.plain ("could not open lock file: " ++ e))))
    | .ok (fd, t) => ({ p with stage := .flocking fd }, t, none)
  | .flocking fd =>
    match t.flock fd with
    | some t => ({ p with stage := .checking fd }, t, none)
    | none => ({ p with stage := .refused fd }, t, none)
  | .refused fd =>
    ({ p with stage := .idle }, t.close fd, some (.error (heldFault p.path (holderPid (t.readAt fd)))))
  | .checking fd =>
    -- a file replaced at the path since it was opened is let go, and the path opened again
    if (t.descriptors fd).isSome && t.link p.path == t.descriptors fd then
      ({ p with stage := .truncating fd }, t, none)
    else ({ p with stage := .opening }, t.close fd, none)
  | .truncating fd => ({ p with stage := .writing fd }, t.truncate fd, none)
  | .writing fd =>
    ({ p with file := some fd, stage := .idle }, t.writeAt fd (toString t.pid ++ "\n"), some (.ok ()))
  | .clearing fd => ({ p with stage := .releasing fd }, t.truncate fd, none)
  | .releasing fd => ({ p with stage := .closing fd }, t.unflock fd, none)
  | .closing fd => ({ p with stage := .idle }, t.close fd, some (.ok ()))

/-- Takes the steps of the call in progress until it returns, at most `n` of them. -/
def settle (p : PidFile) : Nat → Op FileTable PidFile
  | 0 => pure p
  | n + 1 => do
    let (p, t, result) := p.advance (← get)
    set t
    match result with
    | some (.ok ()) => pure p
    | some (.error f) => throw f
    | none => p.settle n

def callSteps : Nat := 5

def call (p : PidFile) (c : LockCall) : Op FileTable PidFile :=
  match p.begin c with
  | none => pure p
  | some p => p.settle callSteps

def lock (p : PidFile) : Op FileTable PidFile := p.call .lock

def unlock (p : PidFile) : Op FileTable PidFile := p.call .unlock

end PidFile

end Acquisition
