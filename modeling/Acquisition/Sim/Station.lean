import Acquisition.Driver.Basic
import Acquisition.Board.Store
import Acquisition.Sim.Stream
import Acquisition.Sim.Scripted
/-! A simulated station for a driver: a sampler serving a queue of reads, a board kept in memory or
one that refuses every request, and a lock that can be made to fail. -/
namespace Acquisition.Sim

structure Station where
  /-- Reads still to serve: frames, or `none` for a read that fails. -/
  feed : List (Option (List Frame)) := []
  /-- The streamed sampler, when the station uses one instead of the feed. -/
  stream : Option StreamRig := none
  board : SettingsStore := {}
  /-- The text of every settings refusal, when the board refuses. -/
  refusal : Option String := none
  eventsFail : Bool := false
  locked : Bool := false
  lockFails : Bool := false
  unlockFails : Bool := false

namespace Station

def streamOps : Sampler StreamRig := (streamParts false).sampler

def onStream {α : Type} (op : Op StreamRig α) : Op Station α :=
  Op.focus (fun s => s.stream.getD {}) (fun s r => { s with stream := some r }) op

def sampler : Sampler Station where
  configure m := do if (← get).stream.isSome then onStream (streamOps.configure m)
  arm := do if (← get).stream.isSome then onStream streamOps.arm
  disarm := do if (← get).stream.isSome then onStream streamOps.disarm
  readFrames n := do
    let s ← get
    if s.stream.isSome then onStream (streamOps.readFrames n)
    else match s.feed with
      | [] => pure []
      | next :: rest => do
        set { s with feed := rest }
        match next with
        | some frames => pure frames
        | none => throw injected

def onBoard {α : Type} (op : Op SettingsStore α) : Op Station α :=
  Op.focus (·.board) (fun s b => { s with board := b }) op

def devices : Devices Station where
  sampler := sampler
  reply direction request := do
    match (← get).refusal with
    | some text => pure { payload := request, error := some text }
    | none =>
      let s ← get
      let (reply, board) := (SettingsStore.board.reply direction request).run s.board
      set { s with board }
      pure reply
  readEvents := EventReport.of do
    if (← get).eventsFail then throw injected
    onBoard SettingsStore.takeEvents
  lock := do
    let s ← get
    if s.lockFails then throw injected
    set { s with locked := true }
  unlock := do
    let s ← get
    if s.unlockFails then throw injected
    set { s with locked := false }

def devicesWithLatency (slow : Nat) : Devices Station :=
  { devices with latency := fun request => if slow > 0 && (request.splitOn "slow").length > 1 then slow else 0 }

end Station

end Acquisition.Sim
