import Acquisition.Bench.Reading
import Acquisition.Metrics
/-! Bench requests for the session metrics: calls on the metrics, or on none, and the series
gathered at the end. -/
namespace Acquisition.Bench

def seriesJson (m : Metrics) : Json :=
  .object (m.series.map fun (k, v) => (k, double v.toFloat))

def metricsCall (m : Metrics) (call : Json) : Run Metrics := do
  let absent ← boolOr call "nil" false
  let next ← match ← string call "do" with
    | "session_started" => pure m.sessionStarted
    | "session_stopped" => pure m.sessionStopped
    | "batch_read" => pure m.batchRead
    | "read_failed" => pure m.readFailed
    | "batch_dropped" => pure m.batchDropped
    | "button_event" => pure m.buttonEvent
    | "event_dropped" => pure m.eventDropped
    | "delivered" => do
      let n ← int call "n"
      if n < 0 && !absent then throw (.panic counterDecrease.message)
      pure (m.delivered n.toNat)
    | "settings_request" => do
      pure (m.settingsRequest (← stringOr call "direction" "") (← boolOr call "failed" false))
    | "sink_failed" => do pure (m.sinkFailed (← stringOr call "sink" ""))
    | other => refuse ("unknown metrics call " ++ Text.quote other)
  pure (if absent then m else next)

def telemetry (label : Cause → String) (request : Json) : Run Json := do
  let calls ← listOr request "calls"
  let twice ← boolOr request "register_twice" false
  let exporter ← match Exporter.register {} with
    | .ok e => pure e
    | .error f => refuse f.message
  let m ← calls.foldlM metricsCall {}
  let second := if twice then
      match exporter.register with
      | .ok _ => []
      | .error f => [("second", Json.object (faultMembers label f))]
    else []
  pure (.object ([("values", seriesJson m)] ++ second))

end Acquisition.Bench
