import Acquisition.Bus
import Acquisition.Sim.Scripted
/-! Scripted outcomes of bus transactions: each takes the next one, through, busy or an injected
fault, and goes through once the script is used up. -/
namespace Acquisition.Sim

inductive Injection where
  | pass
  | busy
  | fail
  deriving DecidableEq, Repr, Inhabited

def Injection.ofName? : String → Option Injection
  | "ok" => some .pass
  | "busy" => some .busy
  | "fail" => some .fail
  | _ => none

def Injection.fault? : Injection → Option Fault
  | .pass => none
  | .busy => some busBusy
  | .fail => some injected

def nextOutcome : List Injection → Option Fault × List Injection
  | [] => (none, [])
  | i :: rest => (i.fault?, rest)

end Acquisition.Sim
