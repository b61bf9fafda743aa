import Acquisition.Config.Basic
import Acquisition.Text.Yaml.Decode
import Acquisition.Text.Yaml.Emit
import Acquisition.Decimal.Notation
import Acquisition.FileTable
/-! Configuration files: a YAML mapping read over the defaults, unknown keys passed over, then
validated. Saving writes every setting, the optional sections only when present. -/
namespace Acquisition

open Text.Yaml

namespace Config

def spiDecoder : Decoder SpiSettings := record "config.SPI" [
  .of "port" text (·.port) fun s v => { s with port := v },
  .of "speed" (int64 "int64") (·.speed) fun s v => { s with speed := v },
  .of "enable_pin" text (·.enablePin) fun s v => { s with enablePin := v },
  .of "data_ready_pin" text (·.dataReadyPin) fun s v => { s with dataReadyPin := v },
  .of "board_port" text (·.boardPort) fun s v => { s with boardPort := v },
  .of "board_speed" (int64 "int64") (·.boardSpeed) fun s v => { s with boardSpeed := v }]

def eepromDecoder : Decoder EepromSettings := record "config.EEPROM" [
  .of "bus" text (·.bus) fun s v => { s with bus := v },
  .of "address" byte (·.address) fun s v => { s with address := v }]

def waveDecoder : Decoder WaveSettings := record "config.WAV" [
  .of "path" text (·.path) fun s v => { s with path := v },
  .of "bit_depth" (int64 "int") (·.bitDepth) fun s v => { s with bitDepth := v },
  .of "scale" single (·.scale) fun s v => { s with scale := v }]

def mqttDecoder : Decoder MqttSettings := record "config.MQTT" [
  .of "server" text (·.server) fun s v => { s with server := v },
  .of "client_id" text (·.clientId) fun s v => { s with clientId := v },
  .of "topic" text (·.topic) fun s v => { s with topic := v },
  .of "username" text (·.username) fun s v => { s with username := v },
  .of "password" text (·.password) fun s v => { s with password := v },
  .of "timeout" duration (·.timeout) fun s v => { s with timeout := v }]

def sinksDecoder : Decoder SinkSettings := record "config.Sinks" [
  .of "console" bool (·.console) fun s v => { s with console := v },
  .of "wav" (optional waveDecoder {}) (·.wave) fun s v => { s with wave := v },
  .of "mqtt" (optional mqttDecoder {}) (·.mqtt) fun s v => { s with mqtt := v }]

def decoder : Decoder Config := record "config.Config" [
  .of "device" text (·.device) fun c v => { c with device := v },
  .of "lock_dir" text (·.lockDirectory) fun c v => { c with lockDirectory := v },
  .of "sample_rate" (int64 "int") (·.sampleRate) fun c v => { c with sampleRate := v },
  .of "burst_size" (int64 "int") (·.burstSize) fun c v => { c with burstSize := v },
  .of "mode" text (·.mode) fun c v => { c with mode := v },
  .of "offsets" (array sensorCount (int64 "int") 0) (·.offsets) fun c v => { c with offsets := v },
  .of "gains" (array sensorCount single 0) (·.gains) fun c v => { c with gains := v },
  .of "transmissions" (array sensorCount single 0) (·.transmissions) fun c v => { c with transmissions := v },
  .of "poll_interval" duration (·.pollInterval) fun c v => { c with pollInterval := v },
  .of "control_interval" duration (·.controlInterval) fun c v => { c with controlInterval := v },
  .of "settings_interval" duration (·.settingsInterval) fun c v => { c with settingsInterval := v },
  .of "settings_timeout" duration (·.settingsTimeout) fun c v => { c with settingsTimeout := v },
  .of "flush_on_stop" bool (·.flushOnStop) fun c v => { c with flushOnStop := v },
  .of "spi" spiDecoder (·.spi) fun c v => { c with spi := v },
  .of "eeprom" eepromDecoder (·.eeprom) fun c v => { c with eeprom := v },
  .of "sinks" sinksDecoder (·.sinks) fun c v => { c with sinks := v },
  .of "metrics_listen" text (·.metricsAddress) fun c v => { c with metricsAddress := v }]

/-- The configuration a file's text describes, read over the defaults and validated. -/
def ofText (path source : String) : Except Fault Config := do
  let c ← match unmarshal decoder source {} with
    | .ok c => pure c
    | .error message => throw (Fault.plain ("could not parse config " ++ path ++ ": " ++ message))
  c.validate
  pure c

/-- Loads the configuration file at `path`. -/
def load (files : FileTable) (path : String) : Except Fault Config :=
  match files.read? path with
  | some source => ofText path source
  | none =>
    let failure := (files.readFailure? path).getD .missing
    .error (.plain ("could not read config: " ++ failure.message path))

def integerValue (n : Int) : Value := .plain (toString n)

def singleValue (x : Float32) : Value :=
  .plain (match x.shortText with
    | "NaN" => ".nan"
    | "+Inf" => ".inf"
    | "-Inf" => "-.inf"
    | s => s)

def flagValue (b : Bool) : Value := .plain (if b then "true" else "false")

def durationValue (d : Int) : Value := .text (Duration.text d)

/-- The sections and settings of a configuration, in the order they are written. -/
def toValue (c : Config) : List (String × Value) :=
  let sinks : List (String × Value) :=
    [("console", flagValue c.sinks.console)] ++
    (match c.sinks.wave with
      | some w => [("wav", .mapping [("path", .text w.path), ("bit_depth", integerValue w.bitDepth),
                                     ("scale", singleValue w.scale)])]
      | none => []) ++
    (match c.sinks.mqtt with
      | some m => [("mqtt", .mapping [("server", .text m.server), ("client_id", .text m.clientId),
                                      ("topic", .text m.topic), ("username", .text m.username),
                                      ("password", .text m.password), ("timeout", durationValue m.timeout)])]
      | none => [])
  [("device", .text c.device), ("lock_dir", .text c.lockDirectory),
   ("sample_rate", integerValue c.sampleRate), ("burst_size", integerValue c.burstSize), ("mode", .text c.mode),
   ("offsets", .sequence (c.offsets.toList.map integerValue)),
   ("gains", .sequence (c.gains.toList.map singleValue)),
   ("transmissions", .sequence (c.transmissions.toList.map singleValue)),
   ("poll_interval", durationValue c.pollInterval), ("control_interval", durationValue c.controlInterval),
   ("settings_interval", durationValue c.settingsInterval), ("settings_timeout", durationValue c.settingsTimeout),
   ("flush_on_stop", flagValue c.flushOnStop),
   ("spi", .mapping [("port", .text c.spi.port), ("speed", integerValue c.spi.speed),
                     ("enable_pin", .text c.spi.enablePin), ("data_ready_pin", .text c.spi.dataReadyPin),
                     ("board_port", .text c.spi.boardPort), ("board_speed", integerValue c.spi.boardSpeed)]),
   ("eeprom", .mapping [("bus", .text c.eeprom.bus), ("address", integerValue c.eeprom.address.toNat)]),
   ("sinks", .mapping sinks),
   ("metrics_listen", .text c.metricsAddress)]

def toText (c : Config) : String := Value.document c.toValue

def save (c : Config) (files : FileTable) (path : String) : Except Fault FileTable :=
  match files.openError? path with
  | some reason => .error (.plain ("open " ++ path ++ ": " ++ reason))
  | none => .ok (files.write path c.toText)

end Config

end Acquisition
