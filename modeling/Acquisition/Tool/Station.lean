import Acquisition.Tool.World
import Acquisition.Config.Basic
import Acquisition.Driver.Basic
import Acquisition.Board.Link
import Acquisition.Board.Store
import Acquisition.Sample.Stream
import Acquisition.Eeprom.Header
import Acquisition.Session.LockFile
/-! The acquisition station the tool works with: a simulated one, or the board's hardware through
the host, opened up to the first device that cannot be. -/
namespace Acquisition.Tool

/-- The hardware of a mounted board, as opened. -/
structure Wiring where
  dataPort : String
  enable : Host.Line
  ready : Option Host.Line := none
  controlPort : String
  /-- The bus and address of the identification memory. -/
  memory : Option (String × UInt8) := none

inductive Station where
  | simulated
  | wired (w : Wiring)

namespace Station

/-- Opens the station a configuration describes, or the simulated one. -/
def ofConfig (simulate : Bool) (c : Config) : Op World Station := do
  if simulate then return .simulated
  let h := World.host
  let dataPort ← Op.withContext "could not open data port"
    (Host.openSerial h.toPorts c.spi.port c.spi.speed.toNat)
  let enable ← Op.withContext "could not open enable pin" (Host.openOutput h.toLines c.spi.enablePin)
  let ready ← if c.spi.dataReadyPin.isEmpty then pure none else
    some <$> Op.withContext "could not open data ready pin" (Host.openInput h.toLines c.spi.dataReadyPin)
  let controlPort ← Op.withContext "could not open control port"
    (Host.openSerial h.toPorts c.spi.boardPort c.spi.boardSpeed.toNat)
  let memory ← if c.eeprom.bus.isEmpty then pure none else
    match Host.openI2c h.toBuses c.eeprom.bus with
    | .ok bus => pure (some (bus, c.eeprom.address))
    | .error f => throw (f.context "could not open eeprom bus")
  pure (.wired { dataPort, enable, ready, controlPort, memory })

/-- The signal generator, which has as many frames ready as its rate gives for
the time since it was armed. -/
def generator : Sampler World where
  configure m := World.onGenerator (SineSource.sampler.configure m)
  arm := do
    modify fun w => { w with armedAt := w.clock }
    World.onGenerator SineSource.sampler.arm
  disarm := World.onGenerator SineSource.sampler.disarm
  readFrames n := do
    let w ← get
    if !w.generator.armed then throw (.plain "simulator is not armed")
    let due := (w.clock - w.armedAt) * w.generator.rate / 1000000000 - w.generator.produced
    if due == 0 then return []
    World.onGenerator (SineSource.sampler.readFrames (min n due))

/-- The sampler of a mounted board: frames streamed over the sample port. -/
def streamed (wiring : Wiring) : Sampler World :=
  let h := World.host
  StreamParts.sampler {
    transport := Host.serial h.toPorts wiring.dataPort
    enable := fun level => do let _ ← Host.Line.set h.toLines wiring.enable level
    ready := wiring.ready.map fun line => do pure (Host.Line.get h.toLines line (← get))
    readyPolls := 1 }

/-- The board behind the control port. -/
def link (wiring : Wiring) : Board World :=
  let b := Link.board {} rxRing (Host.serial World.host.toPorts wiring.controlPort)
  { getSettings := fun r => World.onLink (b.getSettings r)
    setSettings := fun r => World.onLink (b.setSettings r)
    readEvents := World.onLink b.readEvents }

def memoryBoard : Board World where
  getSettings r := World.onBoard (SettingsStore.getSettings r)
  setSettings r := World.onBoard (SettingsStore.setSettings r)
  readEvents := World.onBoard SettingsStore.takeEvents

def board : Station → Board World
  | .simulated => memoryBoard
  | .wired wiring => link wiring

/-- Reads the identification memory's header, when the station has one. -/
def verify : Station → Op World Unit
  | .simulated => pure ()
  | .wired wiring =>
    match wiring.memory with
    | none => pure ()
    | some (bus, address) => do
      let _ ← Eeprom.Header.read fun at_ n => Eeprom.i2cRead (Host.i2c World.host.toBuses bus) address at_ n

def lockCall (lock : PidFile) (c : LockCall) : Op World Unit := do
  let p ← World.onFiles ({ lock with file := (← get).lockFile }.call c)
  modify fun w => { w with lockFile := p.file }

/-- The devices a driver works with at the station; the device's lock is `lock`. -/
def devices (s : Station) (lock : PidFile) : Devices World :=
  let b := s.board
  { sampler := match s with
      | .simulated => generator
      | .wired wiring => streamed wiring
    reply := Board.reply b
    readEvents := EventReport.of b.readEvents
    lock := lockCall lock .lock
    unlock := lockCall lock .unlock
    verify := s.verify }

end Station

end Acquisition.Tool
