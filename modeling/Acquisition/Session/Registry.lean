import Acquisition.Fault
/-! The sessions of a process: at most one is active at a time, whatever its device, known by a
handle only its owner holds; releasing with another handle fails and changes nothing. -/
namespace Acquisition

/-- The identifier of the `n`-th session: an RFC 4122 layout whose last group counts sessions. -/
def sessionId (serial : Nat) : String :=
  let hex := String.ofList (Nat.toDigits 16 serial)
  "00000000-0000-4000-8000-" ++ String.ofList (List.replicate (12 - hex.length) '0') ++ hex

structure Handle where
  /-- The number of sessions acquired before this one. -/
  serial : Nat
  device : String
  owner : String
  deriving DecidableEq, Repr

def Handle.describe (h : Handle) : String := sessionId h.serial ++ "@" ++ h.device

structure Registry where
  active : Option Handle := none
  /-- Sessions acquired so far. -/
  issued : Nat := 0

namespace Registry

def acquire (r : Registry) (device owner : String) : Except Fault (Handle × Registry) :=
  match r.active with
  | some h => .error (.of .sessionBusy ("another session is active: " ++ h.describe))
  | none =>
    let h : Handle := { serial := r.issued, device, owner }
    .ok (h, { active := some h, issued := r.issued + 1 })

def release (r : Registry) (h : Option Handle) : Except Fault Registry :=
  if h.isSome && h == r.active then .ok { r with active := none }
  else .error (.of .notOwner "handle is not the active session")

def activeOn (r : Registry) (device : String) : Option Handle :=
  r.active.filter (·.device == device)

def busy (r : Registry) : Bool := r.active.isSome

end Registry

end Acquisition
