import Acquisition.Driver.Threads
/-! The drivers of one process: each with its own devices, all sharing the process's registry of
sessions between calls. -/
namespace Acquisition

namespace Driver

variable {ω : Type}

/-- The drivers of one process and the registry of sessions they share. -/
structure Fleet (ω : Type) where
  drivers : Array (Driver ω)
  registry : Registry := {}

namespace Fleet

def member? (f : Fleet ω) (k : Nat) : Option (Driver ω) :=
  f.drivers[k]?.map fun d => { d with registry := f.registry }

def commit (f : Fleet ω) (k : Nat) (d : Driver ω) : Fleet ω :=
  { drivers := f.drivers.set! k d, registry := d.registry }

/-- What the process does next: a call of a driver, run to its end, or a pass
of one of an active driver's session loops. -/
inductive Event where
  | start (k : Nat)
  /-- Stop, or Close (`close`). -/
  | stop (k : Nat) (close : Bool)
  | configure (k : Nat) (c : Setting)
  | fetch (k : Nat)
  | poll (k : Nat)
  | control (k : Nat)

def update (f : Fleet ω) (k : Nat) (change : Driver ω → Driver ω) : Fleet ω :=
  match f.member? k with
  | some d => f.commit k (change d)
  | none => f

/-- A pass of the poller. A cycle that aborts ends the process, and is left out. -/
def pollPass (d : Driver ω) : Driver ω :=
  match d.pollOnce with
  | .ok (_, d') => d'
  | .error _ => d

def whileActive (pass : Driver ω → Driver ω) (d : Driver ω) : Driver ω :=
  if d.active then pass d else d

def step (devices : Nat → Devices ω) (f : Fleet ω) : Event → Fleet ω
  | .start k => f.update k fun d => ((start (devices k)).run' d).2
  | .stop k close => f.update k fun d => ((if close then Driver.close (devices k) else stop (devices k)).run' d).2
  | .configure k c => f.update k fun d => (c.change.run' d).2
  | .fetch k => f.update k (whileActive (Driver.fetch (devices k)))
  | .poll k => f.update k (whileActive pollPass)
  | .control k => f.update k (whileActive (Driver.control (devices k)))

def run (devices : Nat → Devices ω) (f : Fleet ω) (events : List Event) : Fleet ω := events.foldl (step devices) f

end Fleet

end Driver

end Acquisition
