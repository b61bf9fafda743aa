import Acquisition.Sink.Basic
import Acquisition.Text.Json
import Acquisition.Decimal.Notation
/-! Publishing burst summaries to an MQTT broker as JSON objects on one topic; a summary with a NaN
or an infinity is not published, and unset settings take the defaults. -/
namespace Acquisition

def jsonSingle (x : Float32) : Except Fault Json :=
  if x.isNaN || x.isInf then .error (.plain ("json: unsupported value: " ++ x.shortText))
  else .ok (.number (Decimal.Layout.json.writeBits Decimal.single x.toBits.toNat))

def jsonDouble (x : Float) : Except Fault Json :=
  if x.isNaN || x.isInf then .error (.plain ("json: unsupported value: " ++ x.shortText))
  else .ok (.number (Decimal.Layout.json.writeBits Decimal.double x.toBits.toNat))

def ChannelSummary.toJson? (c : ChannelSummary) : Except Fault Json := do
  pure (.object [("min", ← jsonSingle c.least), ("max", ← jsonSingle c.greatest),
    ("mean", ← jsonDouble c.mean), ("rms", ← jsonDouble c.rms)])

def Summary.toJson? (s : Summary) : Except Fault Json := do
  let channels ← s.channels.toList.mapM ChannelSummary.toJson?
  pure (.object [("samples", .nat s.samples), ("dropped", .nat s.dropped.toNat),
    ("channels", .array channels)])

def defaultMqttServer : String := "tcp://localhost:1883"
def defaultMqttClientId : String := "timeswipe"
def defaultMqttTopic : String := "timeswipe/bursts"

structure MqttSettings where
  server : String := ""
  clientId : String := ""
  topic : String := ""
  username : String := ""
  password : String := ""
  /-- How long a publish waits for its acknowledgement, in nanoseconds; zero means one second. -/
  timeout : Int := 0

/-- The settings with each unset one replaced by its default. -/
def MqttSettings.resolved (s : MqttSettings) : MqttSettings :=
  { s with
    server := if s.server.isEmpty then defaultMqttServer else s.server
    clientId := if s.clientId.isEmpty then defaultMqttClientId else s.clientId
    topic := if s.topic.isEmpty then defaultMqttTopic else s.topic
    timeout := if s.timeout == 0 then 1000000000 else s.timeout }

/-- The broker connection as the sink uses it. -/
structure Broker (σ : Type) where
  connect : MqttSettings → Op σ Unit
  /-- Publishes a payload on a topic; the answer tells whether it was acknowledged in time. -/
  publish : String → String → Nat → Op σ Bool
  disconnect : Op σ Unit

variable {σ : Type}

def Broker.open (b : Broker σ) (s : MqttSettings) : Op σ MqttSettings := do
  let s := s.resolved
  Op.withContext "mqtt connect" (b.connect s)
  pure s

/-- A sink publishing to a connected broker with resolved settings. -/
def mqttSink (b : Broker σ) (s : MqttSettings) : Sink σ where
  write batch dropped := do
    let payload ← MonadExcept.ofExcept (Summary.ofBatch batch dropped).toJson?
    if !(← b.publish s.topic (payload.write true) s.timeout.toNat) then
      throw (.plain ("mqtt publish to " ++ s.topic ++ " timed out"))
  close := b.disconnect

end Acquisition
