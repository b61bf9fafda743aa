import Acquisition.Tool.Invocation
import Acquisition.Config.Apply
import Acquisition.Sink.Console
import Acquisition.Sink.Wave
import Acquisition.Sink.Mqtt
/-! Recording from the command line: the configuration checked and applied, the sinks opened, and a
session played in steps of one millisecond for the requested time. -/
namespace Acquisition.Tool

/-- The configuration with the record command's flags over it. -/
def recordSettings (inv : Invocation) (c : Config) : Config :=
  let c := if inv.isSet "rate" then { c with sampleRate := inv.int "rate" } else c
  let c := if inv.isSet "burst" then { c with burstSize := inv.int "burst" } else c
  let c := if inv.isSet "mode" then { c with mode := inv.string "mode" } else c
  let c := if inv.isSet "wav" then { c with sinks.wave := some { path := inv.string "wav" } } else c
  let c := if inv.bool "quiet" then { c with sinks.console := false } else c
  if inv.isSet "metrics" then { c with metricsAddress := inv.string "metrics" } else c

def stepLength : Nat := 1000000

def readsPerStep : Nat := 2

def onDriver {β : Type} (d : Driver World) (op : Op (Driver World) β) : Act (Except Fault β × Driver World) := do
  let (r, d) := op.run' { d with reader.sampler := ← get }
  set d.world
  pure (r, d)

/-- A broker that cannot be reached: the host has no network. -/
def unreachable (s : MqttSettings) : Fault :=
  let hostPort := match s.server.splitOn "://" with
    | [_, rest] => rest
    | _ => s.server
  .plain ("mqtt connect: network Error : dial tcp " ++ hostPort ++ ": connect: network is unreachable")

def printingSink : Sink World where
  write b dropped := modify fun w => { w with stdout := w.stdout ++ (Summary.ofBatch b dropped).consoleLine }
  close := pure ()

def silentSink : Sink World where
  write _ _ := pure ()
  close := pure ()

/-- Opens the configured sinks, in order: console, sound file, broker. -/
def openSinks (c : Config) (rate : Nat) : Act (Fanout World) := do
  let console : Fanout World := if c.sinks.console then [("console", printingSink)] else []
  let wave ← match c.sinks.wave with
    | none => pure []
    | some ws =>
      let depth := if ws.bitDepth != 0 then ws.bitDepth.toNat else 16
      let scale := if ws.scale != 0 then ws.scale else 1
      match WaveFile.create (← get).files ws.path rate depth scale with
      | .error f => Act.exit f.message
      | .ok _ =>
        modify fun w => { w with files := w.files.write ws.path "" }
        pure [("wav", silentSink)]
  let broker ← match c.sinks.mqtt with
    | none => pure []
    | some ms => Act.exit (unreachable ms.resolved).message
  pure (console ++ wave ++ broker)

/-- Hands what the driver delivered to the sinks and prints the button changes. -/
def dispatchOutbox (sinks : Fanout World) (d : Driver World) : Act (Driver World) := do
  for (b, dropped) in d.outbox.deliveries do
    let _ ← Act.attempt (sinks.write b dropped.toUInt64)
  for (pressed, counter) in d.outbox.buttons do
    Act.say ("🔘 button " ++ (if pressed then "high" else "low") ++ " (press " ++ toString counter ++ ")")
  pure { d with outbox := {} }

/-- Runs the session's steps from `step` on; `left` steps remain. -/
def runSteps (dev : Devices World) (sinks : Fanout World) (interval : Nat) :
    Nat → Nat → Driver World → Act (Driver World)
  | 0, _, d => pure d
  | left + 1, step, d => do
    let now := step * stepLength
    modify fun w => { w with clock := now }
    let d := { d with reader.sampler := ← get }
    let d := if interval > 0 && now % interval == 0 then Driver.control dev d else d
    let d ← (List.range readsPerStep).foldlM (fun d _ =>
      match (Driver.fetch dev d).pollOnce with
      | .ok (_, d) => pure d
      | .error a => throw (.failure a.message)) d
    set d.world
    let d ← dispatchOutbox sinks d
    runSteps dev sinks interval left (step + 1) d

/-- `record`. -/
def record (inv : Invocation) : Act Unit := do
  let c := recordSettings inv (← inv.config)
  if let .error f := c.validate then Act.exit f.message
  let station ← Act.orExit "could not open board" (Station.ofConfig (inv.bool "simulate") c)
  let dev := station.devices (deviceLock c)
  let d := Driver.new c.driverOptions.1 (← get)
  let (r, d) ← onDriver d (Config.apply c)
  let _ ← Act.check "" r
  let sinks ← openSinks c d.rate
  let (_, d) ← onDriver d (do Driver.watchButton true; Driver.watchOverflow true)
  let (r, d) ← onDriver d (Driver.start dev)
  let _ ← Act.check "could not start acquisition" r
  Act.say ("⏺ recording at " ++ toString d.rate ++ " Hz, burst " ++ toString d.burstSize)
  let duration := (inv.duration "duration").toNat
  let steps := (duration + stepLength - 1) / stepLength
  let d ← runSteps dev sinks c.controlInterval.toNat steps 0 d
  modify fun w => { w with clock := duration }
  let (r, d) ← onDriver d (Driver.stop dev)
  let _ ← dispatchOutbox sinks d
  let _ ← Act.check "could not stop acquisition" r
  Act.say "🏁 done"
  let _ ← Act.attempt sinks.close

end Acquisition.Tool
