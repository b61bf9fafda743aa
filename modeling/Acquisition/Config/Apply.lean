import Acquisition.Config.Basic
import Acquisition.Driver.Basic
/-! Applying a configuration to a driver: rate, burst size, mode and calibration, stopping at the
first the driver refuses. -/
namespace Acquisition

namespace Config

/-- Pushes the acquisition settings of `c` into the driver. -/
def apply {ω : Type} (c : Config) : Op (Driver ω) Unit := do
  let mode ← MonadExcept.ofExcept (Mode.parse c.mode)
  Op.withContext "could not apply configuration" do
    Driver.setSampleRate c.sampleRate
    Driver.setBurstSize c.burstSize
    Driver.setMode mode.code
    Driver.setOffsets c.offsets
    Driver.setGains c.gains
    Driver.setTransmissions c.transmissions

def options (c : Config) : DriverOptions := c.driverOptions.1

end Config

end Acquisition
