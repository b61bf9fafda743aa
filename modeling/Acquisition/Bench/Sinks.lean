import Acquisition.Bench.Telemetry
import Acquisition.Sink.Console
import Acquisition.Sink.Wave
import Acquisition.Sink.Mqtt
import Acquisition.Sim.Scripted
/-! Bench requests for the sinks: summaries, console lines, WAVE files, fan-outs and an unreachable
broker. -/
namespace Acquisition.Bench

def channelSummaryJson (c : ChannelSummary) : Json :=
  .object [("min", single c.least), ("max", single c.greatest), ("mean", double c.mean),
    ("rms", double c.rms)]

def summaryJson (s : Summary) : Json :=
  .object [("samples", .nat s.samples), ("dropped", .nat s.dropped.toNat),
    ("channels", .array (s.channels.toList.map channelSummaryJson))]

def asWrite (j : Json) : Run (Batch × UInt64) := do
  let b ← asBatch "batch" (← required j "batch")
  let dropped ← match member? j "dropped" with
    | some d => asWord "dropped" d
    | none => pure 0
  pure (b, dropped.toUInt64)

def summarize (request : Json) : Run Json := do
  let (b, dropped) ← asWrite request
  pure (summaryJson (Summary.ofBatch b dropped))

def console (request : Json) : Run Json := do
  let (b, dropped) ← asWrite request
  pure (.object [("text", .string (Summary.ofBatch b dropped).consoleLine)])

def wave (label : Cause → String) (request : Json) : Run Json := do
  let rate ← intOr request "rate" 48000
  let depth ← intOr request "depth" 16
  let scale ← match member? request "scale" with
    | some j => asSingle "scale" j
    | none => pure 1
  let bursts ← (← listOr request "bursts").mapM (asBatch "bursts")
  let path ← stringOr request "path" "out.wav"
  match WaveFile.create {} path rate depth.toNat scale with
  | .error f => pure (.object (faultMembers label f))
  | .ok w =>
    if depth < 0 then pure (.object (faultMembers label (.plain ("unsupported wav bit depth " ++ toString depth)))) else
    let w ← bursts.foldlM (fun w b => abortRun (w.write b)) w
    let writes : Json := if bursts.isEmpty then .null else .array (bursts.map fun _ => .null)
    pure (.object [("frames", .nat w.frames), ("writes", writes), ("file", .string (hexText w.close))])

/-- What a sink of the fan-out bench has taken in. -/
inductive Intake where
  | text (written : String)
  | record (writes : Array (Nat × UInt64))

def Intake.toJson : Intake → Json
  | .text t => .string t
  | .record ws => .array (ws.toList.map fun (n, d) => .object [("len", .nat n), ("dropped", .nat d.toNat)])

def recordingSink (failWrite failClose : Bool) : Sink Intake where
  write b dropped := do
    modify fun
      | .record ws => .record (ws.push (b.length, dropped))
      | other => other
    if failWrite then throw Sim.injected
  close := if failClose then throw Sim.injected else pure ()

def textSink : Sink Intake where
  write b dropped := modify fun
    | .text t => .text (t ++ (Summary.ofBatch b dropped).consoleLine)
    | other => other
  close := pure ()

def slotSink (i : Nat) (s : Sink Intake) : Sink (Array Intake) where
  write b dropped := Op.focus (fun a => a.getD i (.record #[])) (fun a x => a.set! i x) (s.write b dropped)
  close := Op.focus (fun a => a.getD i (.record #[])) (fun a x => a.set! i x) s.close

def fanout (label : Cause → String) (request : Json) : Run Json := do
  let specs ← (← listOr request "sinks").mapM fun j => do
    let name ← string j "name"
    let kind ← stringOr j "kind" "fake"
    let failWrite ← boolOr j "fail_write" false
    let failClose ← boolOr j "fail_close" false
    match kind with
    | "fake" => pure (name, Intake.record #[], recordingSink failWrite failClose)
    | "console" => pure (name, Intake.text "", textSink)
    | other => fieldRefusal "kind" ("unknown sink kind " ++ Text.quote other)
  let writes ← (← listOr request "writes").mapM asWrite
  let absent ← boolOr request "nil_metrics" false
  let sinks : Fanout (Array Intake) := specs.zipIdx.map fun ((name, _, s), i) => (name, slotSink i s)
  let start : Array Intake × Option Metrics :=
    (specs.toArray.map (·.2.1), if absent then none else some {})
  let delivered := writes.foldl (fun st (b, d) => ((Fanout.deliver sinks b d).run' st).2) start
  let (intakes, metrics) := delivered
  let (closed, intakes) := (Fanout.close sinks).run' intakes
  let closeMembers := match closed with
    | .ok () => []
    | .error f => [("close", Json.object (faultMembers label f))]
  let errors := (metrics.map (·.sinkErrors)).getD []
  pure (.object ([("len", .nat sinks.length), ("received", .array (intakes.toList.map Intake.toJson)),
    ("sink_errors", .object (errors.map fun (n, c) => (n, double c.toFloat)))] ++ closeMembers))

def unreachableBroker : Broker Unit where
  connect s :=
    let hostPort := match s.server.splitOn "://" with
      | [_, rest] => rest
      | _ => s.server
    throw (.plain ("network Error : dial tcp " ++ hostPort ++ ": connect: network is unreachable"))
  publish _ _ _ := pure false
  disconnect := pure ()

def mqtt (label : Cause → String) (request : Json) : Run Json := do
  let _ ← stringOr request "broker" ""
  let settings : MqttSettings := {
    server := "tcp://127.0.0.1:1883"
    clientId := ← stringOr request "client_id" ""
    topic := ← stringOr request "topic" ""
    username := ← stringOr request "username" ""
    password := ← stringOr request "password" ""
    timeout := (← intOr request "timeout_ms" 0) * 1000000 }
  let writes ← (← listOr request "writes").mapM asWrite
  match (unreachableBroker.open settings).run' () with
  | (.error f, _) => pure (.object (faultMembers label f))
  | (.ok s, _) =>
    let sink := mqttSink unreachableBroker s
    let results := writes.map fun (b, d) => match (sink.write b d).run' () with
      | (.ok (), _) => Json.null
      | (.error f, _) => .object (faultMembers label f)
    pure (.object [("writes", if writes.isEmpty then .null else .array results)])

end Acquisition.Bench
