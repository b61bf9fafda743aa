import Acquisition.Bench.Bridges
import Acquisition.Board.Store
import Acquisition.Board.Link
import Acquisition.Sim.Mcu
/-! Bench requests for the board: event reports, the board kept in memory, and a simulated
controller's firmware. -/
namespace Acquisition.Bench

def eventsJson (events : List Event) : Json :=
  .array (events.map fun e => .object [("button", .bool e.button), ("counter", .int e.counter)])

def boardEvents (label : Cause → String) (request : Json) : Run Json := do
  match parseEvents (← string request "data") with
  | .ok events => pure (.object [("events", eventsJson events)])
  | .error f => pure (.object (faultMembers label f))

def settingsMembers (label : Cause → String) : Except Fault String → Members
  | .ok response => [("response", .string response)]
  | .error f => faultMembers label f ++ [("response", .string "")]

def eventMembers (label : Cause → String) : Except Fault (List Event) → Members
  | .ok events => [("events", eventsJson events)]
  | .error f => faultMembers label f

def boardStep {σ : Type} (label : Cause → String) (b : Board σ) (s : σ) (step : Json) :
    Run (Option (Members × σ)) := do
  match ← string step "do" with
  | "set" => do
    let (r, s) := (b.setSettings (← string step "request")).run' s
    pure (some (settingsMembers label r, s))
  | "get" => do
    let (r, s) := (b.getSettings (← string step "request")).run' s
    pure (some (settingsMembers label r, s))
  | "events" =>
    let (r, s) := b.readEvents.run' s
    pure (some (eventMembers label r, s))
  | _ => pure none

def memoryStep (label : Cause → String) (s : SettingsStore) (step : Json) :
    Run (Members × SettingsStore) := do
  match ← boardStep label SettingsStore.board s step with
  | some result => pure result
  | none =>
    match ← string step "do" with
    | "press" => pure ([], s.press)
    | other => refuse ("unknown board_memory step " ++ Text.quote other)

def boardMemory (label : Cause → String) (request : Json) : Run Json := do
  return (← stepsAnswer (memoryStep label) {} request).1

def linkStep (label : Cause → String) (l : Link) (s : Linked Sim.Mcu ByteRing) (step : Json) :
    Run (Members × Linked Sim.Mcu ByteRing) := do
  let s := { s with port.commands := #[] }
  match ← boardStep label (l.board rxRing Sim.mcuTransport) s step with
  | some (members, s) =>
    pure (members ++ [("commands", .array (s.port.commands.toList.map Json.string))], s)
  | none => refuse ("unknown board_link step " ++ Text.quote (← string step "do"))

def asReplies (j : Json) : Run (List (String × String)) := do
  match j with
  | .object members => Json.lastWins members |>.mapM fun (k, v) => do pure (k, ← asString "replies" v)
  | _ => fieldRefusal "replies" "want an object"

def boardLink (label : Cause → String) (request : Json) : Run Json := do
  let replyList ← (← listOr request "reply_list").mapM (asString "reply_list")
  let replies ← match member? request "replies" with
    | some j => asReplies j
    | none => pure []
  let chunk ← intOr request "chunk" 5
  let delay ← intOr request "delay" 0
  let pad ← intOr request "pad" 255
  let failAt ← (member? request "fail_tx").mapM (asInt "fail_tx")
  let timeout ← intOr request "timeout_ms" 200
  let _ ← boolOr request "verbose" false
  let mcu : Sim.Mcu := { replyList, replies, chunk := chunk.toNat, delay := delay.toNat,
                         pad := pad.toNat.toUInt8, failAt := failAt.map Int.toNat }
  let link : Link := { pollInterval := 1000, timeout := timeout.toNat * 1000000 }
  return (← stepsAnswer (linkStep label link) { port := mcu, rx := { queue := {} } } request).1

end Acquisition.Bench
