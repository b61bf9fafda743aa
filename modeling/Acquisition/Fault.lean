/-! Errors as values: a message and the conditions it was built from, kept through context and
joins; the first declared names it. -/
namespace Acquisition

/-- The conditions an error can be recognised by, most significant first. -/
inductive Cause where
  | invalidConfig
  | invalidSampleRate
  | invalidBurstSize
  | alreadyStarted
  | notStarted
  | sessionActive
  | deviceLocked
  | sessionBusy
  | notOwner
  | lockHeld
  | invalidMode
  | unknownRegister
  | bitOutOfRange
  | pinInUse
  | pinReleased
  | badSignature
  | badVersion
  | badLength
  | firmware
  | timeout
  | overflow
  | commandUnsupported
  | commandFailed
  | notFound
  | busBusy
  | deadlineExceeded
  | canceled
  | injected
  deriving DecidableEq, Repr, Inhabited

/-- The rank of a cause: a smaller rank is more significant. -/
def Cause.rank : Cause → Nat
  | .invalidConfig => 0
  | .invalidSampleRate => 1
  | .invalidBurstSize => 2
  | .alreadyStarted => 3
  | .notStarted => 4
  | .sessionActive => 5
  | .deviceLocked => 6
  | .sessionBusy => 7
  | .notOwner => 8
  | .lockHeld => 9
  | .invalidMode => 10
  | .unknownRegister => 11
  | .bitOutOfRange => 12
  | .pinInUse => 13
  | .pinReleased => 14
  | .badSignature => 15
  | .badVersion => 16
  | .badLength => 17
  | .firmware => 18
  | .timeout => 19
  | .overflow => 20
  | .commandUnsupported => 21
  | .commandFailed => 22
  | .notFound => 23
  | .busBusy => 24
  | .deadlineExceeded => 25
  | .canceled => 26
  | .injected => 27

/-- An error value. `settings` marks a settings request that the board refused. -/
structure Fault where
  message : String
  causes : List Cause := []
  settings : Bool := false
  deriving Inhabited

namespace Fault

def of (cause : Cause) (message : String) : Fault := { message, causes := [cause] }

def plain (message : String) : Fault := { message }

def context (ctx : String) (f : Fault) : Fault := { f with message := ctx ++ ": " ++ f.message }

/-- The error `f` as the reason of a condition of its own: `text: message`,
recognised by `c` and by every condition of `f`. -/
def wrap (c : Cause) (text : String) (f : Fault) : Fault :=
  { f with message := text ++ ": " ++ f.message, causes := c :: f.causes }

/-- Several errors as one; the messages stand on lines of their own. -/
def join (parts : List Fault) : Fault where
  message := "\n".intercalate (parts.map (·.message))
  causes := parts.flatMap (·.causes)
  settings := parts.any (·.settings)

def is (f : Fault) (c : Cause) : Bool := f.causes.contains c

def cause? (f : Fault) : Option Cause :=
  f.causes.foldl (fun best c => match best with
    | none => some c
    | some b => if c.rank < b.rank then some c else some b) none

end Fault

end Acquisition

namespace Acquisition

/-- A broken precondition that ends the whole computation rather than failing
one operation. -/
inductive Abort where
  /-- A read at `index` of a sequence of `length` elements. -/
  | outOfRange (index : Int) (length : Nat)
  /-- A refused argument, with the text that explains it. -/
  | refused (text : String)
  deriving Inhabited

def Abort.message : Abort → String
  | .outOfRange i n =>
    "runtime error: index out of range [" ++ toString i ++ "]" ++
      (if i < 0 then "" else " with length " ++ toString n)
  | .refused text => text

def elementAt {α : Type} (xs : Array α) (i : Int) : Except Abort α :=
  if h : 0 ≤ i ∧ i.toNat < xs.size then .ok xs[i.toNat] else .error (.outOfRange i xs.size)

end Acquisition
