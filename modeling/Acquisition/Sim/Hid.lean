import Acquisition.Bridge
import Acquisition.Sim.Scripted
/-! A simulated USB bridge: every report sent takes the next scripted reply, or an echo of its
command followed by zeros, and is recorded. -/
namespace Acquisition.Sim

structure HidReply where
  response : List UInt8 := []
  receiveCount : Option Nat := none
  receiveFails : Bool := false
  sendCount : Option Nat := none
  sendFails : Bool := false

structure HidDevice where
  replies : List HidReply := []
  current : HidReply := {}
  record : Array String := #[]
  closed : Bool := false

def trimmedHex (bs : ByteArray) : String :=
  hexBytes ⟨(bs.toList.reverse.dropWhile (· == 0)).reverse.toArray⟩

def hidDevice : ReportDevice HidDevice where
  send request := do
    let d ← get
    let (reply, rest) := match d.replies with
      | r :: rest => (r, rest)
      | [] => ({ response := [byteAt request 0] }, [])
    set { d with replies := rest, current := reply, record := d.record.push (trimmedHex request) }
    if reply.sendFails then throw injected
    pure (reply.sendCount.getD reportSize)
  receive := do
    let reply := (← get).current
    if reply.receiveFails then throw injected
    let r := report reply.response
    pure ⟨(r.toList.take (reply.receiveCount.getD reportSize)).toArray⟩
  close := modify fun d => { d with closed := true }

end Acquisition.Sim
