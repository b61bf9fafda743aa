import Acquisition.Bench.Answer
import Acquisition.Bench.Steps
import Acquisition.Config.File
/-! Bench requests for configuration files: the defaults, a loaded file, the driver settings it
gives and its saved text. -/
namespace Acquisition.Bench

def factorsJson (xs : Vector Float32 sensorCount) : Json := .array (xs.toList.map single)

def configJson (c : Config) : Json :=
  let sinks : Members :=
    [("console", .bool c.sinks.console)] ++
    (match c.sinks.wave with
      | some w => [("wav", .object [("path", .string w.path), ("bit_depth", .int w.bitDepth),
                                    ("scale", single w.scale)])]
      | none => []) ++
    (match c.sinks.mqtt with
      | some m => [("mqtt", .object [("server", .string m.server), ("client_id", .string m.clientId),
                                     ("topic", .string m.topic), ("username", .string m.username),
                                     ("password", .string m.password), ("timeout", .int m.timeout)])]
      | none => [])
  .object [
    ("device", .string c.device), ("lock_dir", .string c.lockDirectory),
    ("sample_rate", .int c.sampleRate), ("burst_size", .int c.burstSize), ("mode", .string c.mode),
    ("offsets", .array (c.offsets.toList.map Json.int)),
    ("gains", factorsJson c.gains), ("transmissions", factorsJson c.transmissions),
    ("poll_interval", .int c.pollInterval), ("control_interval", .int c.controlInterval),
    ("settings_interval", .int c.settingsInterval), ("settings_timeout", .int c.settingsTimeout),
    ("flush_on_stop", .bool c.flushOnStop),
    ("spi", .object [("port", .string c.spi.port), ("speed", .int c.spi.speed),
                     ("enable_pin", .string c.spi.enablePin), ("data_ready_pin", .string c.spi.dataReadyPin),
                     ("board_port", .string c.spi.boardPort), ("board_speed", .int c.spi.boardSpeed)]),
    ("eeprom", .object [("bus", .string c.eeprom.bus), ("address", .nat c.eeprom.address.toNat)]),
    ("sinks", .object sinks),
    ("metrics_listen", .string c.metricsAddress)]

def driverOptionsJson (c : Config) : Json :=
  let (o, count) := c.driverOptions
  .object [("count", .nat count), ("device", .string o.device), ("poll_interval", .int o.pollInterval),
           ("control_interval", .int o.controlInterval), ("settings_interval", .int o.settingsInterval),
           ("settings_timeout", .int o.settingsTimeout), ("flush_on_stop", .bool o.flushOnStop),
           ("lock_path", .string c.lockPath)]

def config (label : Cause → String) (request : Json) : Run Json := do
  if ← boolOr request "default" false then
    let c : Config := {}
    let problem := match c.validate with
      | .ok () => none
      | .error f => some f
    return .object (withFault label [("config", configJson c)] problem)
  let (files, path) ←
    if ← boolOr request "missing" false then pure ({}, "missing.yaml")
    else do
      let source ← stringOr request "yaml" ""
      pure (({} : FileTable).write "config.yaml" source, "config.yaml")
  match Config.load files path with
  | .error f => pure (.object (faultMembers label f))
  | .ok c =>
    let members : Members := [("config", configJson c), ("driver_opts", driverOptionsJson c)]
    if ← boolOr request "save" false then
      let target ← stringOr request "save_path" "saved.yaml"
      match c.save files target with
      | .error f => pure (.object (faultMembers label f))
      | .ok files => pure (.object (members ++ [("saved", .string ((files.read? target).getD ""))]))
    else pure (.object members)

end Acquisition.Bench
