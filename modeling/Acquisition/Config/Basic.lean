import Acquisition.Driver.Options
import Acquisition.Sample.Batch
import Acquisition.Sample.Mode
import Acquisition.Eeprom.I2cMemory
import Acquisition.Sink.Mqtt
import Acquisition.Text.Path
/-! The settings of an acquisition, their defaults and their validation, which refuses a
configuration with every rule it breaks, one per line. Durations are in nanoseconds. -/
namespace Acquisition

def defaultLockDirectory : String := "/var/lock"

/-- The buses that carry samples and settings. -/
structure SpiSettings where
  port : String := "/dev/spidev0.0"
  /-- The clock of the sample bus in Hz. -/
  speed : Int := 20000000
  enablePin : String := "GPIO12"
  dataReadyPin : String := ""
  boardPort : String := "/dev/spidev0.1"
  boardSpeed : Int := 1000000

/-- The memory holding the board's identity; an empty bus skips reading it. -/
structure EepromSettings where
  bus : String := ""
  address : UInt8 := Eeprom.defaultI2cAddress

/-- A sound file that receives the bursts. -/
structure WaveSettings where
  path : String := ""
  bitDepth : Int := 0
  scale : Float32 := 0

/-- Where the bursts go: the console, a sound file, a message broker. -/
structure SinkSettings where
  console : Bool := true
  wave : Option WaveSettings := none
  mqtt : Option MqttSettings := none

def unitCalibration : Vector Float32 sensorCount := Vector.replicate sensorCount 1

structure Config where
  device : String := defaultDevice
  lockDirectory : String := defaultLockDirectory
  sampleRate : Int := baseSampleRate
  burstSize : Int := baseSampleRate / 10
  mode : String := "primary"
  offsets : Vector Int sensorCount := Vector.replicate sensorCount 0
  gains : Vector Float32 sensorCount := unitCalibration
  transmissions : Vector Float32 sensorCount := unitCalibration
  pollInterval : Int := defaultPollInterval
  controlInterval : Int := defaultControlInterval
  settingsInterval : Int := defaultSettingsInterval
  settingsTimeout : Int := 0
  flushOnStop : Bool := true
  spi : SpiSettings := {}
  eeprom : EepromSettings := {}
  sinks : SinkSettings := {}
  metricsAddress : String := ""

namespace Config

/-- The rules a configuration breaks, in the order they are checked. -/
def violations (c : Config) : List Fault :=
  let rule (broken : Bool) (message : String) : List Fault := if broken then [.plain message] else []
  let modeFault := match Mode.parse c.mode with
    | .ok _ => []
    | .error f => [f]
  let calibration := (List.range sensorCount).flatMap fun i =>
    rule (c.gains.toList.getD i 1 == 0) ("gain " ++ toString (i + 1) ++ " is zero") ++
    rule (c.transmissions.toList.getD i 1 == 0) ("transmission " ++ toString (i + 1) ++ " is zero")
  rule c.device.isEmpty "device is empty" ++
  rule (c.sampleRate < 1 || c.sampleRate > baseSampleRate)
    ("sample_rate " ++ toString c.sampleRate ++ " outside 1.." ++ toString baseSampleRate) ++
  rule (c.burstSize < 0) ("burst_size " ++ toString c.burstSize ++ " is negative") ++
  modeFault ++ calibration ++
  rule (c.pollInterval ≤ 0 || c.controlInterval ≤ 0 || c.settingsInterval ≤ 0) "intervals must be positive" ++
  rule (c.settingsTimeout < 0) "settings_timeout is negative" ++
  rule (match c.sinks.wave with | some w => w.path.isEmpty | none => false) "wav sink needs a path"

/-- Checks every rule; a refusal lists the broken ones. -/
def validate (c : Config) : Except Fault Unit :=
  match c.violations with
  | [] => .ok ()
  | faults => .error (Fault.context "invalid configuration" { Fault.join faults with
      causes := .invalidConfig :: (Fault.join faults).causes })

def lockPath (c : Config) : String := Text.joinPath [c.lockDirectory, c.device ++ ".pid"]

/-- The driver settings a configuration gives, and how many of them it sets:
six always, and the settings timeout only when it is positive. -/
def driverOptions (c : Config) : DriverOptions × Nat :=
  ({ device := c.device
     pollInterval := c.pollInterval
     controlInterval := c.controlInterval
     settingsInterval := c.settingsInterval
     settingsTimeout := if c.settingsTimeout > 0 then c.settingsTimeout else 0
     flushOnStop := c.flushOnStop },
   if c.settingsTimeout > 0 then 7 else 6)

end Config

end Acquisition
