import Acquisition.Driver.Options
import Acquisition.Driver.Burst
import Acquisition.Sample.Reader
import Acquisition.Sample.Resampler
import Acquisition.Session.Registry
import Acquisition.Metrics
import Acquisition.Board.Basic
import Acquisition.Text.Quoted
import Acquisition.Queue.Ring
/-! The driver of one acquisition device, one call at a time: the next session's configuration,
refused while a session runs, and the session's record queue, bursts, button events and callback
outbox. -/
namespace Acquisition

/-- Which way a settings request goes. -/
inductive Direction where
  | get
  | set
  deriving DecidableEq

def Direction.name : Direction → String
  | .get => "get"
  | .set => "set"

/-- A board's reply to a settings request: the payload, which a board may give
together with an error, and the error's text. An empty error text is no error
to the caller, though the request counts as failed. -/
structure Reply where
  payload : String
  error : Option String := none

/-- A board's answer to a request for its events: the events, which a board
may give together with an error, and the error. -/
structure EventReport where
  events : List Event
  error : Option Fault := none

def EventReport.of {ω : Type} (read : Op ω (List Event)) : StateM ω EventReport := do
  match ← read.run with
  | .ok events => pure { events }
  | .error f => pure { events := [], error := some f }

/-- The devices a driver works with, their states kept together in `ω`. -/
structure Devices (ω : Type) where
  sampler : Sampler ω
  reply : Direction → String → StateM ω Reply
  readEvents : StateM ω EventReport
  /-- How long the board takes over a settings request, in nanoseconds. -/
  latency : String → Nat := fun _ => 0
  lock : Op ω Unit
  unlock : Op ω Unit
  /-- Checks the board's identity before a session; a failure only warns. -/
  verify : Op ω Unit := pure ()

/-- The replies of a board whose refusals carry no payload. -/
def Board.reply {ω : Type} (b : Board ω) (d : Direction) (request : String) : StateM ω Reply := do
  let answer := match d with
    | .get => b.getSettings request
    | .set => b.setSettings request
  match ← answer.run with
  | .ok payload => pure { payload }
  | .error f => pure { payload := "", error := some f.message }

/-- What the driver handed to its callbacks, oldest first. -/
structure Outbox where
  /-- Bursts with the number of batches dropped since the previous one. -/
  deliveries : Array (Batch × Nat) := #[]
  /-- Button states and press counters. -/
  buttons : Array (Bool × Int) := #[]
  /-- Counts of dropped batches reported to the error callback. -/
  overflows : Array Nat := #[]

/-- The most button events waiting to be handed out; later ones are dropped. -/
def eventCapacity : Nat := 128

def recordQueueSize : Nat := baseSampleRate / defaultChunkSize * 2

def popSize : Nat := 4096

structure Driver (ω : Type) where
  options : DriverOptions
  /-- The reader, which also holds the devices' states. -/
  reader : Reader ω
  rate : Nat := baseSampleRate
  resampler : Option Resampler := none
  burstSize : Nat := 0
  session : Option Handle := none
  buttonHandler : Bool := false
  overflowHandler : Bool := false
  registry : Registry := {}
  metrics : Metrics := {}
  burst : Burst := { size := 0 }
  /-- Batches read and not yet taken by the poller. -/
  records : Ring Batch := ⟨Array.replicate recordQueueSize default, 0, 0⟩
  /-- Batches dropped on a full record queue since the poller last looked;
  the count saturates. -/
  dropped : UInt64 := 0
  pendingEvents : List Event := []
  outbox : Outbox := {}
  /-- Time passed, in nanoseconds, as settings requests and waits take it. -/
  clock : Nat := 0
  /-- When the board is done with the settings request it is working on. -/
  boardBusyUntil : Nat := 0

namespace Driver

variable {ω α : Type}

def new (options : DriverOptions) (world : ω) (chunk : Int := defaultChunkSize) : Driver ω :=
  { options, reader := Reader.new world chunk }

def invalidSampleRate (rate : Int) : Fault :=
  .of .invalidSampleRate ("invalid sample rate: " ++ toString rate ++ " (allowed 1.." ++
    toString baseSampleRate ++ ")")

def invalidBurstSize (n : Int) : Fault := .of .invalidBurstSize ("invalid burst size: " ++ toString n)

def sessionActive : Fault := .of .sessionActive "not allowed while a session is active"

def alreadyStarted : Fault := .of .alreadyStarted "session already started"

def notStarted : Fault := .of .notStarted "session not started"

def world (d : Driver ω) : ω := d.reader.sampler

def active (d : Driver ω) : Bool := d.session.isSome

def onReader (op : Op (Reader ω) α) : Op (Driver ω) α :=
  Op.focus (·.reader) (fun d r => { d with reader := r }) op

def onDevices (op : Op ω α) : Op (Driver ω) α :=
  onReader (Reader.onSampler op)

def configure (change : Op (Driver ω) Unit) : Op (Driver ω) Unit := do
  if (← get).active then throw sessionActive
  change

/-- Sets the delivered rate; the native rate needs no conversion. -/
def setSampleRate (rate : Int) : Op (Driver ω) Unit := do
  if rate < 1 || rate > baseSampleRate then throw (invalidSampleRate rate)
  configure do
    if rate == baseSampleRate then
      modify fun d => { d with resampler := none, rate := rate.toNat }
    else
      match Resampler.new rate baseSampleRate with
      | .ok rs => modify fun d => { d with resampler := some rs, rate := rate.toNat }
      | .error f => throw (f.context "could not create resampler")

/-- Sets the least number of samples per channel in a delivery; zero delivers every batch. -/
def setBurstSize (n : Int) : Op (Driver ω) Unit := do
  if n < 0 then throw (invalidBurstSize n)
  configure (modify fun d => { d with burstSize := n.toNat })

def setMode (code : Int) : Op (Driver ω) Unit := configure (onReader (Reader.setMode code))

def setOffsets (offsets : Vector Int 4) : Op (Driver ω) Unit := configure (onReader (Reader.setOffsets offsets))

def setGains (gains : Vector Float32 4) : Op (Driver ω) Unit := configure (onReader (Reader.setGains gains))

def setTransmissions (factors : Vector Float32 4) : Op (Driver ω) Unit :=
  configure (onReader (Reader.setTransmissions factors))

/-- Registers the button callback, or with `registered` false clears it. -/
def watchButton (registered : Bool) : Op (Driver ω) Unit :=
  configure (modify fun d => { d with buttonHandler := registered })

/-- Registers the callback told about dropped batches, or with `registered` false clears it. -/
def watchOverflow (registered : Bool) : Op (Driver ω) Unit :=
  configure (modify fun d => { d with overflowHandler := registered })

/-- Gives up a session handle; a handle the registry does not know changes nothing. -/
def releaseHandle (h : Handle) : Op (Driver ω) Unit :=
  modify fun d => match d.registry.release (some h) with
    | .ok registry => { d with registry }
    | .error _ => d

def deliver (d : Driver ω) (batch : Batch) (dropped : Nat) : Driver ω :=
  { d with metrics := d.metrics.delivered batch.length
           outbox.deliveries := d.outbox.deliveries.push (batch, dropped) }

/-- Hands one button event to the button callback; an odd counter means pressed. -/
def dispatchEvent (d : Driver ω) (e : Event) : Driver ω :=
  let d := { d with metrics := d.metrics.buttonEvent }
  if d.buttonHandler then { d with outbox.buttons := d.outbox.buttons.push (e.counter.tmod 2 == 1, e.counter) }
  else d

def dispatchEvents (d : Driver ω) : Driver ω :=
  d.pendingEvents.foldl dispatchEvent { d with pendingEvents := [] }

/-- The fetcher's hand-over of a batch: pushed on the record queue, or
counted as dropped when the queue is full. -/
def enqueue (d : Driver ω) (b : Batch) : Driver ω :=
  match d.records.push b with
  | (true, records) => { d with records }
  | (false, _) =>
    { d with metrics := d.metrics.batchDropped
             dropped := if d.dropped == dropCeiling.toUInt64 then d.dropped else d.dropped + 1 }

/-- What the fetcher does with the result of one read: a failed read is
counted; a batch with samples is counted and queued, and then the waiting
button events are handed out. -/
def takeRead (d : Driver ω) : Except Fault Batch → Driver ω
  | .error _ => { d with metrics := d.metrics.readFailed }
  | .ok b => (if b.isEmpty then d else { d with metrics := d.metrics.batchRead }.enqueue b).dispatchEvents

def fetch (dev : Devices ω) (d : Driver ω) : Driver ω :=
  let (r, reader) := (Reader.read dev.sampler).run' d.reader
  { d with reader }.takeRead r

/-- The batches of one poller cycle at the delivered rate, joined in order:
each is resampled in turn when a resampler is installed. -/
def transform (batches : List Batch) : Option Resampler → Except Abort (Batch × Option Resampler)
  | none => pure (Batch.concat batches, none)
  | some rs => do
    let (outs, rs) ← rs.resampleEach batches
    pure (Batch.concat outs, some rs)

def reportDrops (d : Driver ω) (dropped : UInt64) : Driver ω :=
  if dropped > 0 && d.overflowHandler then { d with outbox.overflows := d.outbox.overflows.push dropped.toNat }
  else d

/-- Adds a cycle's output and the drops before it to the burst, and delivers
what the burst gives out. -/
def gather (d : Driver ω) (out : Batch) (dropped : Nat) : Driver ω :=
  match d.burst.push out dropped with
  | (some (batch, k), burst) => { d with burst }.deliver batch k
  | (none, burst) => { d with burst }

/-- One cycle of the poller: it takes up to `popSize` queued batches and the
drop count, reports the drops, and gathers what the batches give into the
burst, which is delivered once it is full. Reports whether there was work. -/
def pollOnce (d : Driver ω) : Except Abort (Bool × Driver ω) := do
  let (n, popped, records) := d.records.popBatch (Array.replicate popSize default)
  let dropped := d.dropped
  let d := { d with records, dropped := 0 }
  if n == 0 && dropped == 0 then return (false, d)
  let d := d.reportDrops dropped
  if n == 0 then return (true, { d with burst := d.burst.countDropped dropped.toNat })
  let (out, resampler) ← transform (popped.toList.take n) d.resampler
  return (true, { d with resampler }.gather out dropped.toNat)

/-- The poller's last act once the session ends: what is gathered is
delivered when the options say so. -/
def finishPoller (d : Driver ω) : Driver ω :=
  if d.options.flushOnStop then
    match d.burst.flush with
    | (some (batch, dropped), burst) => { d with burst }.deliver batch dropped
    | (none, burst) => { d with burst }
  else d

def drainQueues (d : Driver ω) : Driver ω :=
  { d with records := d.records.drain.2, pendingEvents := [], dropped := 0 }

/-- The button events among those a board reported, queued for the fetcher up
to the queue's capacity; the others are counted as dropped. -/
def queueEvents (d : Driver ω) (events : List Event) : Driver ω :=
  (events.filter (·.button)).foldl (fun d e =>
    if d.pendingEvents.length < eventCapacity then { d with pendingEvents := d.pendingEvents ++ [e] }
    else { d with metrics := d.metrics.eventDropped }) d

/-- One pass of the control loop: the board's button events are queued for the
fetcher, up to the queue's capacity, also those reported with an error. -/
def control (dev : Devices ω) (d : Driver ω) : Driver ω :=
  let (report, world) := dev.readEvents.run d.world
  { d with reader.sampler := world }.queueEvents report.events

/-- Opens a session: registers it, takes the device's lock, configures and
arms the sampler. A failure after the registration undoes what was done. -/
def start (dev : Devices ω) : Op (Driver ω) Unit := do
  let d ← get
  if d.active then throw alreadyStarted
  let h ← match d.registry.acquire d.options.device d.options.device with
    | .ok (h, registry) => do set { d with registry }; pure h
    | .error f => throw (Fault.wrap .alreadyStarted "session already started" f)
  if let .error f ← (onDevices dev.lock).attempt then
    releaseHandle h
    throw (Fault.wrap .deviceLocked "could not lock device" f)
  let _ ← (onDevices dev.verify).attempt
  let abort (f : Fault) : Op (Driver ω) Unit := do
    let _ ← (onReader (Reader.stop dev.sampler)).attempt
    let _ ← (onDevices dev.unlock).attempt
    releaseHandle h
    throw f
  if let .error f ← (onReader (Reader.setup dev.sampler)).attempt then
    abort (f.context "could not set up record source")
  if let .error f ← (onReader (Reader.start dev.sampler)).attempt then
    abort (f.context "could not start record source")
  modify fun d => { d with resampler := d.resampler.map Resampler.reset, session := some h,
                           burst := { size := d.burstSize }, dropped := 0, pendingEvents := [],
                           metrics := d.metrics.sessionStarted }

def unregistered (h : Handle) : Fault :=
  .of .notStarted ("session not started: session " ++ h.describe ++ " is not registered")

/-- Why a Stop finds nothing to stop, under the driver's lock: no session, one
that is being stopped already, or one that the registry does not hold for this
device. -/
def stopRefusal (d : Driver ω) (stopping : Bool) : Option Fault :=
  match d.session with
  | none => some notStarted
  | some h =>
    if stopping then some notStarted
    else if d.registry.activeOn d.options.device = some h then none
    else some (unregistered h)

/-- The end of a Stop, under the driver's lock: the sampler is disarmed, the
device's lock released and the session deregistered. The errors of disarming
and unlocking are reported together. -/
def teardown (dev : Devices ω) (h : Handle) : Op (Driver ω) Unit := do
  let disarmed ← (onReader (Reader.stop dev.sampler)).attempt
  let unlocked ← (onDevices dev.unlock).attempt
  releaseHandle h
  modify fun d => { d with session := none, metrics := d.metrics.sessionStopped }
  let errors := (match disarmed with | .error f => [f] | .ok _ => []) ++
    (match unlocked with | .error f => [f.context "could not release device lock"] | .ok _ => [])
  if !errors.isEmpty then throw ((Fault.join errors).context "session stopped with errors")

/-- Ends the session when `stopRefusal` lets the Stop go on: what is gathered
is flushed when the options say so, the queues are emptied and the session is
torn down. -/
def stop (dev : Devices ω) : Op (Driver ω) Unit := do
  let d ← get
  -- called on its own, a Stop finds no other Stop under way
  match d.session, stopRefusal d false with
  | some h, none =>
    set d.finishPoller.drainQueues
    teardown dev h
  | _, refusal => throw (refusal.getD notStarted)

def close (dev : Devices ω) : Op (Driver ω) Unit :=
  tryCatch (stop dev) fun f => if f.is .notStarted then pure () else throw f

/-- What a settings call returns once its request is answered: the payload, and
the board's refusal when the answer carries an error text. -/
def settingsAnswer (direction : Direction) (request payload error : String) : String × Option Fault :=
  if error.isEmpty then (payload, none)
  else (payload, some { message := direction.name ++ " settings " ++ Text.quote request ++ " failed: " ++ error,
                        settings := true })

/-- A settings request: served by the caller when no session runs and by the
control loop otherwise. With a settings timeout, a caller waiting on the
control loop gives up once the timeout passes; the board still carries the
request out. The payload comes back also with a board's error. -/
def settings (dev : Devices ω) (direction : Direction) (request : String) :
    StateM (Driver ω) (String × Option Fault) := do
  let d ← get
  let running := d.active
  let begin := if running then max d.clock d.boardBusyUntil else d.clock
  let finish := begin + dev.latency request
  let (reply, world) := (dev.reply direction request).run d.world
  let d := { d with reader.sampler := world
                    metrics := d.metrics.settingsRequest direction.name reply.error.isSome
                    boardBusyUntil := if running then finish else d.boardBusyUntil }
  let timeout := d.options.settingsTimeout
  if running && timeout > 0 && (finish - d.clock : Int) ≥ timeout then
    set { d with clock := d.clock + timeout.toNat }
    return ("", some (.of .deadlineExceeded
      ("no response to " ++ direction.name ++ " settings request: context deadline exceeded")))
  set { d with clock := finish }
  -- a board's error without text reads as no error
  return settingsAnswer direction request reply.payload (reply.error.getD "")

def wait (ns : Nat) (d : Driver ω) : Driver ω := { d with clock := d.clock + ns }

end Driver

end Acquisition
