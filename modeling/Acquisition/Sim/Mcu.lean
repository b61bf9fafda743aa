import Acquisition.Bus
import Acquisition.Sim.Scripted
import Acquisition.Text.Utf8
/-! A simulated board controller behind a serial transport: a command answered from scripted replies
or `!unknown command`, clocked out a few bytes a transfer among padding bytes. -/
namespace Acquisition.Sim

structure Mcu where
  replyList : List String := []
  replies : List (String × String) := []
  pending : List UInt8 := []
  idleLeft : Nat := 0
  delay : Nat := 0
  chunk : Nat := 5
  pad : UInt8 := 0xFF
  failAt : Option Nat := none
  transfers : Nat := 0
  commands : Array String := #[]

def commandText (bytes : List UInt8) : String :=
  let trimmed := ((bytes.dropWhile (· == 0)).reverse.dropWhile (· == 0)).reverse
  let body := if trimmed.getLast? == some 10 then trimmed.dropLast else trimmed
  Text.decodeLossy body

def mcuTransport : Transport Mcu where
  exchange w := do
    let m ← get
    let m := { m with transfers := m.transfers + 1 }
    set m
    if m.failAt == some m.transfers then throw injected
    let padding := List.replicate w.size m.pad
    if w.toList.any (· != 0) then
      let command := commandText w.toList
      let (reply, rest) := match m.replyList with
        | r :: rest => (r, rest)
        | [] => ((m.replies.lookup command).getD "!unknown command\n", [])
      set { m with
        replyList := rest, pending := reply.toUTF8.toList, idleLeft := m.delay
        commands := m.commands.push command }
      pure ⟨padding.toArray⟩
    else if m.idleLeft > 0 then
      set { m with idleLeft := m.idleLeft - 1 }
      pure ⟨padding.toArray⟩
    else
      let out := m.pending.take (min m.chunk w.size)
      set { m with pending := m.pending.drop out.length }
      pure ⟨(out ++ padding.drop out.length).toArray⟩

end Acquisition.Sim
