import Acquisition.Fault
/-! Operations on simulated hardware: they read and change a state and may fail with a `Fault`,
keeping what they changed before failing. -/
namespace Acquisition

/-- An operation on a state `σ` that may fail; effects stay when it fails. -/
abbrev Op (σ : Type) := ExceptT Fault (StateM σ)

namespace Op

variable {σ τ α : Type}

def run' (op : Op σ α) (s : σ) : Except Fault α × σ := (ExceptT.run op).run s

def focus (get : τ → σ) (put : τ → σ → τ) (op : Op σ α) : Op τ α :=
  ExceptT.mk fun t =>
    let (r, s) := run' op (get t)
    (r, put t s)

def fail (f : Fault) : Op σ α := throw f

def withContext (ctx : String) (op : Op σ α) : Op σ α :=
  tryCatch op fun f => throw (f.context ctx)

/-- The result of an operation as a value, so that a caller can go on after a failure. -/
def attempt (op : Op σ α) : Op σ (Except Fault α) :=
  tryCatch (op.map Except.ok) fun f => pure (.error f)

end Op

end Acquisition
