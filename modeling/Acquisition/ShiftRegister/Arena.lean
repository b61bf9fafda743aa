import Acquisition.Effect
/-! Serial-in parallel-out shift registers, each on its own data, clock and strobe lines, written
most significant bit first and latched; an arena hands out output pins and records the bits they
hold. -/
namespace Acquisition.ShiftRegister

def maxWidth : Nat := 64

inductive Line where
  | data
  | clock
  | strobe
  deriving DecidableEq, Repr

/-- One change of a line while a value is written. -/
inductive Transition where
  /-- The data line takes bit `bit` of the value. -/
  | shift (bit : Nat) (level : Bool)
  /-- The clock edge that shifts bit `bit` in. -/
  | clock (bit : Nat) (level : Bool)
  /-- The strobe edge that latches the register. -/
  | latch (level : Bool)
  deriving DecidableEq, Repr

def Transition.line : Transition → Line
  | .shift .. => .data
  | .clock .. => .clock
  | .latch _ => .strobe

def Transition.level : Transition → Bool
  | .shift _ l | .clock _ l | .latch l => l

def Transition.context : Transition → String
  | .shift .. => "could not set data line"
  | .clock bit _ => "could not clock bit " ++ toString bit
  | .latch _ => "could not latch register"

def transitions (width : Nat) (value : UInt64) : List Transition :=
  ((List.range width).reverse.flatMap fun i =>
    [.shift i (value >>> i.toUInt64 &&& 1 == 1), .clock i true, .clock i false]) ++
  [.latch true, .latch false]

def widthMask (width : Nat) : UInt64 :=
  if width ≥ 64 then 0xFFFFFFFFFFFFFFFF else (1 <<< width.toUInt64) - 1

structure Register where
  width : Nat
  value : UInt64 := 0
  /-- The bits held by pins. -/
  claimed : UInt64 := 0
  deriving Inhabited

/-- A pin handed out by an arena: one bit of one register. -/
structure Pin where
  register : Nat
  bit : Nat
  released : Bool := false
  deriving Inhabited

structure Arena where
  registers : Array Register := #[]
  deriving Inhabited

/-- An arena beside the lines it drives; `σ` is the state of the lines. -/
structure Wired (σ : Type) where
  arena : Arena := {}
  lines : σ

abbrev LineDriver (σ : Type) := Nat → Line → Bool → Op σ Unit

namespace Arena

def unknown (id : Int) : Fault := .of .unknownRegister ("unknown register: " ++ toString id)

def register? (a : Arena) (id : Int) : Except Fault Register :=
  if h : 0 ≤ id ∧ id.toNat < a.registers.size then .ok a.registers[id.toNat] else .error (unknown id)

/-- Adds a register of `width` bits; widths from 1 to 64 are allowed. -/
def newRegister (a : Arena) (width : Int) : Except Fault (Nat × Arena) :=
  if width < 1 || width > maxWidth then
    .error (.of .bitOutOfRange ("bit out of range: register width " ++ toString width))
  else .ok (a.registers.size, { registers := a.registers.push { width := width.toNat } })

/-- Claims bit `bit` of register `id`. -/
def claim (a : Arena) (id : Int) (bit : Int) : Except Fault (Pin × Arena) := do
  let r ← a.register? id
  if bit < 0 || bit ≥ r.width then
    throw (.of .bitOutOfRange ("bit out of range: bit " ++ toString bit ++ " of " ++ toString r.width))
  let m : UInt64 := 1 <<< bit.toNat.toUInt64
  if r.claimed &&& m != 0 then
    throw (.of .pinInUse ("pin already in use: register " ++ toString id ++ " bit " ++ toString bit))
  let r' := { r with claimed := r.claimed ||| m }
  pure ({ register := id.toNat, bit := bit.toNat }, { registers := a.registers.set! id.toNat r' })

def free (a : Arena) (id : Int) : Except Fault UInt64 := do
  let r ← a.register? id
  pure (~~~r.claimed &&& widthMask r.width)

def value (a : Arena) (id : Int) : Except Fault UInt64 := do pure (← a.register? id).value

def unclaim (a : Arena) (id bit : Nat) : Arena :=
  match a.registers[id]? with
  | some r => { registers := a.registers.set! id { r with claimed := r.claimed &&& ~~~(1 <<< bit.toUInt64) } }
  | none => a

end Arena

namespace Wired

variable {σ : Type}

/-- Drives the transitions in order and stops at the first that fails. -/
def drive (set : LineDriver σ) (id : Nat) : List Transition → Op σ Unit
  | [] => pure ()
  | t :: rest => do
    Op.withContext t.context (set id t.line t.level)
    drive set id rest

def onLines {α : Type} (op : Op σ α) : Op (Wired σ) α :=
  Op.focus (·.lines) (fun w s => { w with lines := s }) op

/-- Writes `value` to register `id` and records it once the latch went through. -/
def write (set : LineDriver σ) (id : Nat) (r : Register) (value : UInt64) : Op (Wired σ) Unit := do
  onLines (drive set id (transitions r.width value))
  modify fun w => { w with arena.registers := w.arena.registers.set! id { r with value } }

def setValue (set : LineDriver σ) (id : Int) (value : UInt64) : Op (Wired σ) Unit := do
  let r ← MonadExcept.ofExcept ((← get).arena.register? id)
  write set id.toNat r (value &&& widthMask r.width)

/-- Sets one pin's output and rewrites its register. -/
def setPin (set : LineDriver σ) (p : Pin) (level : Bool) : Op (Wired σ) Unit := do
  if p.released then throw (.of .pinReleased "pin released")
  let r ← MonadExcept.ofExcept ((← get).arena.register? p.register)
  let m : UInt64 := 1 <<< p.bit.toUInt64
  write set p.register r (if level then r.value ||| m else r.value &&& ~~~m)

def level (w : Wired σ) (p : Pin) : Bool :=
  match w.arena.register? p.register with
  | .ok r => r.value >>> p.bit.toUInt64 &&& 1 == 1
  | .error _ => false

def release (w : Wired σ) (p : Pin) : Pin × Wired σ :=
  if p.released then (p, w)
  else ({ p with released := true }, { w with arena := w.arena.unclaim p.register p.bit })

end Wired

end Acquisition.ShiftRegister
