import Acquisition.Tool.Register
/-! The port expander from the command line: its configuration register, both ports read as inputs,
or a port's pull-ups set, retried three times on a busy bus. -/
namespace Acquisition.Tool

def withExpander (inv : Invocation) (action : I2cBus World → Expander → Act Unit) : Act Unit := do
  let bus ← Act.check "could not open bus" (expanderBus (inv.string "bus"))
  action (Host.i2c World.host.toBuses bus) (Expander.new (inv.uint "address").toUInt8 3)

/-- An operation on the expander beside the world; the expander's new state is dropped. -/
def onExpander {β : Type} (x : Expander) (op : Op (Expander × World) β) : Act (Except Fault β) := do
  let (r, (_, w)) := op.run' (x, ← get)
  set w
  pure r

def expanderStatus (inv : Invocation) : Act Unit :=
  withExpander inv fun bus x => do
    let v ← Act.check "could not read settings" (← onExpander x (Expander.readSettings bus))
    Act.say ("IOCON content: " ++ upperHexWithPrefix v.toNat)

/-- `expander read`: each port made all inputs and read. -/
def expanderRead (inv : Invocation) : Act Unit :=
  withExpander inv fun bus x => do
    for bank in [Bank.a, Bank.b] do
      let _ ← Act.check "could not initialize gpio" (← onExpander x (Expander.init bus bank 0xFF))
      let v ← Act.check ("could not read gpio " ++ bank.name) (← onExpander x (Expander.readPort bus bank))
      Act.say ("I/O " ++ bank.name ++ ": " ++ upperHexWithPrefix v.toNat)

def bankOfWord? (s : String) : Option Bank :=
  if s == "A" || s == "a" then some .a else if s == "B" || s == "b" then some .b else none

/-- `expander pull`: a bank's pull-ups set from a one-byte mask. -/
def expanderPull (inv : Invocation) : Act Unit := do
  let args := inv.args
  if args.length != 2 then Act.exit ("expected 2 arguments, got " ++ toString args.length)
  let word := args.headD ""
  let some bank := bankOfWord? word | Act.exit ("unknown bank " ++ Text.quote word)
  let maskText := args.getD 1 ""
  let mask ← match decodeHex maskText with
    | .ok bytes => if bytes.size == 1 then pure bytes[0]! else Act.exit ("could not decode mask " ++ Text.quote maskText)
    | .error _ => Act.exit ("could not decode mask " ++ Text.quote maskText)
  withExpander inv fun bus x => do
    let _ ← Act.check "could not write pull up settings" (← onExpander x (Expander.pullUp bus bank mask))
    Act.say ("Wrote GPPU" ++ bank.name ++ " content: " ++ upperHexWithPrefix mask.toNat)

end Acquisition.Tool
