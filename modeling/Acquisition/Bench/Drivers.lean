import Acquisition.Bench.Reading
import Acquisition.Bench.Configs
import Acquisition.Config.Apply
import Acquisition.Sim.Station
import Acquisition.Driver.Fleet
/-! Bench requests for drivers over simulated stations sharing one registry. A scripted run ends
with one read of zero frames that pushes every gathered sample out, whose output is cut from the
answer. -/
namespace Acquisition.Bench

/-- A driver with the devices it runs on. -/
structure Instance where
  driver : Driver Sim.Station
  devices : Devices Sim.Station

/-- The drivers of a request, sharing one registry, and the devices each runs on. -/
structure Fleet where
  drivers : Driver.Fleet Sim.Station
  devices : Array (Devices Sim.Station)

def driverMetrics (m : Metrics) : Members :=
  let labelled (name : String) (counts : LabelCounts) : Members :=
    counts.map fun (direction, n) => (name ++ "\x7b" ++ direction ++ "\x7d", Json.nat n)
  [("timeswipe_sessions_total", .nat m.sessions),
   ("timeswipe_session_active", .nat (if m.sessionActive then 1 else 0)),
   ("timeswipe_batches_read_total", .nat m.batchesRead),
   ("timeswipe_read_errors_total", .nat m.readErrors),
   ("timeswipe_batches_dropped_total", .nat m.batchesDropped),
   ("timeswipe_samples_delivered_total", .nat m.samplesDelivered),
   ("timeswipe_button_events_total", .nat m.buttonEvents)] ++
  labelled "timeswipe_settings_requests_total" m.settingsRequests ++
  labelled "timeswipe_settings_errors_total" m.settingsErrors

def driverState (d : Driver Sim.Station) : Members :=
  [("active", .bool d.active), ("rate", .nat d.rate), ("burst", .nat d.burstSize),
   ("calibration", calibrationJson d.reader.calibration)]

def piecesOf {α : Type} (n : Nat) (xs : List α) : List (List α) :=
  let rec go : Nat → List α → List (List α)
    | 0, _ => []
    | _, [] => []
    | fuel + 1, ys => ys.take n :: go fuel (ys.drop n)
  go xs.length xs

/-- The reads of one script item: a failed read, or its frames in reads of at
most `chunk` frames; an empty item is one empty read. -/
def readsOfItem (chunk : Nat) (item : Json) : Run (List (Option (List Frame))) := do
  match item with
  | .object _ =>
    if ← boolOr item "error" false then pure [none] else refuse "a script item that is an object must be an error"
  | _ =>
    let frames ← (← asList "script" item).mapM (asFrame "script")
    if frames.isEmpty then pure [some []] else pure ((piecesOf (max chunk 1) frames).map some)

def firstSamples (b : Batch) (n : Nat) : Batch := ⟨b.channels.map (·.extract 0 n)⟩

def zeroReadOutput (d : Driver Sim.Station) (frames : Nat) : Nat :=
  let input := d.reader.calibration.batchOf (List.replicate frames (Vector.replicate 4 0))
  match d.resampler with
  | none => frames
  | some rs => match rs.resample input with
    | .ok (out, _) => out.length
    | .error _ => 0

def stopMembers (label : Cause → String) (r : Except Fault Unit) : Members :=
  match r with
  | .ok () => []
  | .error f => [("stop_error", .object (faultMembers label f))]

def fetchAndPoll (dev : Devices Sim.Station) (d : Driver Sim.Station) : Except Abort (Driver Sim.Station) :=
  (Driver.fetch dev d).pollOnce.map (·.2)

def serveFeed (dev : Devices Sim.Station) (d : Driver Sim.Station) : Run (Driver Sim.Station) :=
  abortRun ((List.range d.world.feed.length).foldlM (fun d _ => fetchAndPoll dev d) d)

def runScript (label : Cause → String) (dev : Devices Sim.Station) (d : Driver Sim.Station) (step : Json) :
    Run (Members × Driver Sim.Station) := do
  let items ← listOr step "script"
  let reads ← items.mapM (readsOfItem d.reader.chunk)
  let d := { d with reader.sampler.feed := reads.flatten, outbox := {} }
  match (Driver.start dev).run' d with
  | (.error f, d) => pure (faultMembers label f, d)
  | (.ok (), d) =>
    let d ← serveFeed dev d
    let target := max d.burstSize 1
    let some frames := (List.range d.reader.chunk).map (· + 1) |>.find? (zeroReadOutput d · ≥ target)
      | refuse "no final read of at most chunk_size frames reaches the burst size"
    let cut := zeroReadOutput d frames
    let d := { d with reader.sampler.feed := [some (List.replicate frames (Vector.replicate 4 0))] }
    let d ← serveFeed dev d
    let (stopped, d) := (Driver.stop dev).run' d
    let deliveries := d.outbox.deliveries.toList
    let all := Batch.concat (deliveries.map (·.1))
    let samples := firstSamples all (all.length - cut)
    let members : Members :=
      [("samples", batch samples), ("len", .nat samples.length),
       ("deliveries_reach_burst", .bool (deliveries.all fun (b, _) => b.length ≥ d.burstSize)),
       ("dropped", .nat (deliveries.foldl (fun n (_, k) => n + k) 0)),
       ("metrics", .object (driverMetrics d.metrics))] ++ stopMembers label stopped
    pure (members, { d with outbox := {} })

def pressButtons (label : Cause → String) (dev : Devices Sim.Station) (d : Driver Sim.Station) (step : Json) :
    Run (Members × Driver Sim.Station) := do
  let presses ← inRange "presses" 0 100 (← int step "presses")
  let d := { d with reader.sampler.board := (List.range presses.toNat).foldl (fun b _ => b.press) d.world.board,
                    outbox := {} }
  let (_, d) := (Driver.watchButton true).run' d
  match (Driver.start dev).run' d with
  | (.error f, d) => pure (faultMembers label f, d)
  | (.ok (), d) =>
    let d := Driver.control dev d
    let d ← abortRun (fetchAndPoll dev d)
    let (stopped, d) := (Driver.stop dev).run' d
    let calls := d.outbox.buttons.toList.map fun (pressed, counter) =>
      Json.object [("pressed", .bool pressed), ("counter", .int counter)]
    pure ([("calls", .array calls), ("metrics", .object (driverMetrics d.metrics))] ++ stopMembers label stopped,
          { d with outbox := {} })

def flood (label : Cause → String) (dev : Devices Sim.Station) (d : Driver Sim.Station) (step : Json) :
    Run (Members × Driver Sim.Station) := do
  let batches ← inRange "batches" 0 20000 (← int step "batches")
  let d := { d with reader.sampler.feed := List.replicate batches.toNat (some [Vector.replicate 4 0]),
                    outbox := {} }
  match (Driver.start dev).run' d with
  | (.error f, d) => pure (faultMembers label f, d)
  | (.ok (), d) =>
    let d ← serveFeed dev d
    let (stopped, d) := (Driver.stop dev).run' d
    pure ([("balanced", .bool true), ("error_callback_matches", .bool true)] ++ stopMembers label stopped,
          { d with outbox := {} })

def applyConfig (label : Cause → String) (d : Driver Sim.Station) (step : Json) :
    Run (Members × Driver Sim.Station) := do
  let source ← stringOr step "yaml" ""
  match Config.load (({} : FileTable).write "config.yaml" source) "config.yaml" with
  | .error f => pure (faultMembers label f, d)
  | .ok c => pure (runOp label c.apply d fun _ => [])

def settingsStep (label : Cause → String) (dev : Devices Sim.Station) (direction : Direction)
    (d : Driver Sim.Station) (step : Json) : Run (Members × Driver Sim.Station) := do
  let ((payload, fault), d) := (Driver.settings dev direction (← string step "request")).run d
  let problem := match fault with
    | some f => faultMembers label f
    | none => []
  pure (problem ++ [("response", .string payload)], d)

def instanceStep (label : Cause → String) (i : Instance) (step : Json) : Run (Members × Driver Sim.Station) := do
  let d := i.driver
  let dev := i.devices
  let none' : Unit → Members := fun _ => []
  match ← string step "do" with
  | "state" => pure (driverState d, d)
  | "set_sample_rate" => do pure (runOp label (Driver.setSampleRate (← int step "rate")) d none')
  | "set_burst_size" => do pure (runOp label (Driver.setBurstSize (← int step "n")) d none')
  | "set_mode" => do pure (runOp label (Driver.setMode (← int step "mode")) d none')
  | "set_offsets" => do
    let v ← asVector "values" (asInt "values") (← required step "values")
    pure (runOp label (Driver.setOffsets v) d none')
  | "set_gains" => do
    let v ← asVector "values" (asSingle "values") (← required step "values")
    pure (runOp label (Driver.setGains v) d none')
  | "set_transmissions" => do
    let v ← asVector "values" (asSingle "values") (← required step "values")
    pure (runOp label (Driver.setTransmissions v) d none')
  | "on_button" => pure (runOp label (Driver.watchButton true) d none')
  | "on_error" => pure (runOp label (Driver.watchOverflow true) d none')
  | "get_settings" => settingsStep label dev .get d step
  | "set_settings" => settingsStep label dev .set d step
  | "start" => pure (runOp label (Driver.start dev) d none')
  | "stop" => pure (runOp label (Driver.stop dev) d none')
  | "close" => pure (runOp label (Driver.close dev) d none')
  | "locked" => pure ([("locked", .bool d.world.locked)], d)
  | "session" =>
    match d.session with
    | some h => pure ([("ok", .bool true), ("device", .string h.device)], d)
    | none => pure ([("ok", .bool false)], d)
  | "apply_config" => applyConfig label d step
  | "metrics" => pure (driverMetrics d.metrics, d)
  | "run" => runScript label dev d step
  | "buttons" => pressButtons label dev d step
  | "sleep" => do
    let ms ← inRange "ms" 0 500 (← int step "ms")
    pure ([], d.wait (ms.toNat * 1000000))
  | "flood" => flood label dev d step
  | other => refuse ("unknown driver step " ++ Text.quote other)

def fleetStep (label : Cause → String) (fleet : Fleet) (step : Json) : Run (Members × Fleet) := do
  let index ← intOr step "d" 0
  let member := if index < 0 then none else
    match fleet.drivers.member? index.toNat, fleet.devices[index.toNat]? with
    | some driver, some devices => some { driver, devices : Instance }
    | _, _ => none
  let some i := member | refuse ("no driver " ++ toString index)
  let (members, d) ← instanceStep label i step
  pure (members, { fleet with drivers := fleet.drivers.commit index.toNat d })

def instanceOf (j : Json) : Run Instance := do
  let device ← stringOr j "device" defaultDevice
  let chunk ← inRange "chunk_size" 1 4096 (← intOr j "chunk_size" defaultChunkSize)
  let flushOnStop ← boolOr j "flush_on_stop" true
  let timeout ← intOr j "settings_timeout_ms" 0
  let verbose ← boolOr j "verbose" false
  let slow ← inRange "slow_board_ms" 0 200 (← intOr j "slow_board_ms" 0)
  let refusal ← (member? j "board_error").mapM (asString "board_error")
  let _ ← bytesOr j "eeprom"
  let _ ← boolOr j "default_locker" false
  let enableFailsAt ← match ← stringOr j "enable_fail" "" with
    | "high" => pure (some true)
    | "low" => pure (some false)
    | "" => pure none
    | other => fieldRefusal "enable_fail" ("want high or low, not " ++ Text.quote other)
  let stream ← match ← stringOr j "sampler" "" with
    | "spi" => pure (some { failTransfer := true, enableFailsAt : Sim.StreamRig })
    | "" => pure none
    | other => fieldRefusal "sampler" ("unknown sampler " ++ Text.quote other)
  let station : Sim.Station := {
    stream, refusal
    eventsFail := ← boolOr j "events_error" false
    lockFails := ← boolOr j "lock_fail" false
    unlockFails := ← boolOr j "unlock_fail" false }
  let options : DriverOptions := {
    device, pollInterval := 100000, controlInterval := 1000000, settingsInterval := 1000000
    settingsTimeout := timeout * 1000000, flushOnStop, verbose }
  pure { driver := Driver.new options station chunk
         devices := Sim.Station.devicesWithLatency (slow.toNat * 1000000) }

def drivers (label : Cause → String) (request : Json) : Run Json := do
  let specs ← match member? request "drivers" with
    | some j => asList "drivers" j
    | none => pure [Json.object []]
  let instances ← specs.mapM instanceOf
  let fleet : Fleet := { drivers := { drivers := (instances.map (·.driver)).toArray },
                         devices := (instances.map (·.devices)).toArray }
  return (← stepsAnswer (fleetStep label) fleet request).1

end Acquisition.Bench
