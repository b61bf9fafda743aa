/-! The options of a driver: its device, its loops' intervals, the settings timeout and whether a
stop flushes. Durations in nanoseconds. -/
namespace Acquisition

/-- The native rate of the board's converters, in samples per second. -/
def baseSampleRate : Nat := 48000

def defaultDevice : String := "timeswipe"

def defaultPollInterval : Int := 1000000

def defaultControlInterval : Int := 20000000

def defaultSettingsInterval : Int := 100000000

structure DriverOptions where
  device : String := defaultDevice
  pollInterval : Int := defaultPollInterval
  controlInterval : Int := defaultControlInterval
  settingsInterval : Int := defaultSettingsInterval
  /-- How long a settings request waits for its answer; zero waits without bound. -/
  settingsTimeout : Int := 0
  flushOnStop : Bool := true
  verbose : Bool := false
  deriving Repr

end Acquisition
