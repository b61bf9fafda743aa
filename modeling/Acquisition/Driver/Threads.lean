import Acquisition.Driver.Basic
/-! The driver under concurrency: callers, the fetcher, the poller and the control thread, each
access to shared state one step, each critical section of a lock and each queue operation atomic. -/
namespace Acquisition

def requestQueueSize : Nat := 1024

/-- The most answers waiting for settings callers; later ones are dropped. -/
def responseQueueSize : Nat := 1024

instance : Inhabited Direction := ⟨.get⟩

namespace Driver

variable {ω : Type}

/-- A settings request, made by the `ticket`-th settings call of the driver.
The driver counts its calls in a 64-bit word, so it tells requests apart by
`seq`, the ticket modulo `2^64`. -/
structure Request where
  ticket : Nat
  direction : Direction
  payload : String
  deriving Inhabited

def Request.seq (r : Request) : UInt64 := r.ticket.toUInt64

/-- The board's answer to a request as it waits for the caller: the payload and
the text of the board's error, empty when there was none. -/
structure Response where
  ticket : Nat
  payload : String
  error : String
  deriving Inhabited

def Response.seq (r : Response) : UInt64 := r.ticket.toUInt64

def Response.of (r : Request) (reply : Reply) : Response :=
  { ticket := r.ticket, payload := reply.payload, error := reply.error.getD "" }

/-- What Close returns for what Stop returned: a Stop of no session is no error. -/
def excuse : Except Fault Unit → Except Fault Unit
  | .error f => if f.is .notStarted then .ok () else .error f
  | .ok () => .ok ()

/-- A change of configuration. -/
inductive Setting where
  | sampleRate (rate : Int)
  | burstSize (n : Int)
  | mode (code : Int)
  | offsets (values : Vector Int 4)
  | gains (values : Vector Float32 4)
  | transmissions (values : Vector Float32 4)
  | buttonCallback (registered : Bool)
  | overflowCallback (registered : Bool)

def Setting.change : Setting → Op (Driver ω) Unit
  | .sampleRate rate => setSampleRate rate
  | .burstSize n => setBurstSize n
  | .mode code => setMode code
  | .offsets values => setOffsets values
  | .gains values => setGains values
  | .transmissions values => setTransmissions values
  | .buttonCallback registered => watchButton registered
  | .overflowCallback registered => watchOverflow registered

/-- What an accessor reads under the driver's lock. -/
inductive Query where
  | active
  | session
  | sampleRate
  | burstSize
  | calibration

inductive Answer where
  | active (running : Bool)
  | session (h : Option Handle)
  | sampleRate (rate : Nat)
  | burstSize (n : Nat)
  | calibration (c : Calibration)

def Query.read (d : Driver ω) : Query → Answer
  | .active => .active d.active
  | .session => .session d.session
  | .sampleRate => .sampleRate d.rate
  | .burstSize => .burstSize d.burstSize
  | .calibration => .calibration d.reader.calibration

/-- A call of the driver's API. -/
inductive Call where
  | start
  /-- Stop, or Close (`close`), which takes a Stop of no session for success. -/
  | stop (close : Bool)
  | configure (s : Setting)
  | query (q : Query)
  | settings (direction : Direction) (payload : String)

/-- What a call returned. -/
inductive Outcome where
  | done (r : Except Fault Unit)
  | answered (a : Answer)
  /-- A settings call with its request: the payload and the error. -/
  | settled (r : Request) (payload : String) (fault : Option Fault)

/-- How a caller's context ends. -/
inductive Expiry where
  | deadline
  | canceled

def Expiry.fault (what : String) : Expiry → Fault
  | .deadline => .of .deadlineExceeded (what ++ ": context deadline exceeded")
  | .canceled => .of .canceled (what ++ ": context canceled")

/-- The steps of serving the request queue until it is empty. -/
inductive Serving where
  /-- Pops the next request. -/
  | popping
  /-- Passes a request to the board. -/
  | answering (r : Request)
  /-- Pushes the board's response; a full queue drops it. -/
  | replying (resp : Response)

inductive Fetcher where
  | exited
  /-- At the head of its loop: reads a batch while the session works. -/
  | reading
  /-- Pushes a batch with samples on the record queue. -/
  | pushing (b : Batch)
  /-- Hands the waiting button events out. -/
  | dispatching

inductive Poller where
  | exited
  /-- At the head of its loop. -/
  | polling
  /-- Takes the queued batches and gathers them. -/
  | popping
  /-- Delivers what is gathered as it ends. -/
  | flushing
  /-- Stopped by a broken precondition: the program has panicked. -/
  | crashed
  deriving DecidableEq

inductive Controller where
  | exited
  /-- At the head of its loop: reads the board's events while the session works. -/
  | looping
  /-- Queues the button events the board reported. -/
  | queueing (events : List Event)
  | serving (step : Serving)

/-- Where a caller stands in its call. -/
inductive Caller where
  /-- No call has been made. -/
  | idle
  /-- Made the call and has taken no step of it. -/
  | calling (c : Call)
  /-- A Start that opened the session: it holds the driver's lock and marks the
  session running, under the settings lock. -/
  | announcing
  /-- A Start that launches the threads and returns. -/
  | launching
  /-- A Stop that marked the session stopping; it cancels the session's context. -/
  | cancelling (close : Bool)
  /-- Waits for the threads to end. -/
  | joining (close : Bool)
  /-- Marks the session no longer running. -/
  | clearing (close : Bool)
  /-- Waits for the settings lock. -/
  | awaiting (close : Bool)
  /-- Empties the queues under the settings lock. -/
  | draining (close : Bool)
  /-- Ends the session under the driver's lock. -/
  | tearingDown (close : Bool)
  /-- A settings caller pushing its request; it holds the settings lock until it returns. -/
  | offering (r : Request)
  /-- Found the request queue full. -/
  | stalled (r : Request)
  /-- Sleeps before trying again; `queued` once the request is on the queue. -/
  | sleeping (r : Request) (queued : Bool)
  /-- Has queued the request; serves the queue itself unless the session runs. -/
  | waiting (r : Request)
  /-- Pops answers until its own comes. -/
  | collecting (r : Request)
  /-- Serves the request queue itself, no session running. -/
  | serving (r : Request) (queued : Bool) (step : Serving)
  | returned (o : Outcome)

/-- A driver shared by its callers and its session's threads. -/
structure Shared (ω : Type) where
  driver : Driver ω
  stopping : Bool := false
  /-- The session's loops go on while this holds. -/
  work : Bool := false
  /-- The session's context has been cancelled. -/
  cancelled : Bool := false
  /-- Who serves the request queue: the control thread while this holds. -/
  running : Bool := false
  requests : Ring Request := ⟨Array.replicate requestQueueSize default, 0, 0⟩
  responses : Ring Response := ⟨Array.replicate responseQueueSize default, 0, 0⟩
  /-- Settings calls made so far. -/
  tickets : Nat := 0
  fetcher : Fetcher := .exited
  poller : Poller := .exited
  controller : Controller := .exited
  callers : Nat → Caller := fun _ => .idle
  /-- The caller holding the driver's lock between its steps: a Start launching a session. -/
  owner : Option Nat := none
  /-- The caller holding the settings lock. -/
  settingsOwner : Option Nat := none
  /-- The requests passed to the board with its replies, oldest first. -/
  served : List (Request × Reply) := []
  /-- Sessions opened so far. -/
  opened : Nat := 0
  /-- The callers that ended a session, in order. -/
  closedBy : List Nat := []

/-- A step of a run: a new call, or the next step of a caller or a thread. -/
inductive Action where
  /-- Caller `i` makes call `c`. -/
  | call (i : Nat) (c : Call)
  /-- Caller `i` takes its next step; a sleeping settings caller gives up when
  `quit` says how its context ended. -/
  | resume (i : Nat) (quit : Option Expiry)
  | fetch
  | poll
  | control

namespace Shared

def init (d : Driver ω) : Shared ω := { driver := d }

def setCaller (s : Shared ω) (i : Nat) (c : Caller) : Shared ω :=
  { s with callers := fun j => if j = i then c else s.callers j }

def joined (s : Shared ω) : Bool :=
  s.fetcher matches .exited && s.poller == .exited && s.controller matches .exited

/-- One step of serving the request queue: the next step, or `none` once the
queue is empty. The board's answer is recorded with its request. -/
def serve (dev : Devices ω) (s : Shared ω) : Serving → Option Serving × Shared ω
  | .popping =>
    match s.requests.pop with
    | (none, q) => (none, { s with requests := q })
    | (some r, q) => (some (.answering r), { s with requests := q })
  | .answering r =>
    let (reply, world) := (dev.reply r.direction r.payload).run s.driver.world
    (some (.replying (.of r reply)),
      { s with driver.reader.sampler := world
               driver.metrics := s.driver.metrics.settingsRequest r.direction.name reply.error.isSome
               served := s.served ++ [(r, reply)] })
  | .replying resp => (some .popping, { s with responses := (s.responses.push resp).2 })

/-- The first step of a call. The driver's calls wait for its lock and the
settings calls for the settings lock. -/
def begin (dev : Devices ω) (s : Shared ω) (i : Nat) : Call → Shared ω
  | .start =>
    if s.owner.isSome then s
    else match (start dev).run' s.driver with
      | (.error f, d) => { s.setCaller i (.returned (.done (.error f))) with driver := d }
      | (.ok (), d) =>
        { s.setCaller i .announcing with driver := d, owner := some i, work := true, cancelled := false,
                                          opened := s.opened + 1 }
  | .stop close =>
    if s.owner.isSome then s
    else match stopRefusal s.driver s.stopping with
      | some f => s.setCaller i (.returned (.done (if close then excuse (.error f) else .error f)))
      | none => { s.setCaller i (.cancelling close) with stopping := true, work := false }
  | .configure c =>
    if s.owner.isSome then s
    else
      let (r, d) := c.change.run' s.driver
      { s.setCaller i (.returned (.done r)) with driver := d }
  | .query q => if s.owner.isSome then s else s.setCaller i (.returned (.answered (q.read s.driver)))
  | .settings direction payload =>
    if s.settingsOwner.isSome then s
    else { s.setCaller i (.offering { ticket := s.tickets + 1, direction, payload }) with
             tickets := s.tickets + 1, settingsOwner := some i }

/-- The end of a Stop: the session is torn down under the driver's lock. -/
def tearDown (dev : Devices ω) (s : Shared ω) (i : Nat) (close : Bool) : Shared ω :=
  match s.driver.session with
  | none => s
  | some h =>
    let (r, d) := (teardown dev h).run' s.driver
    { s.setCaller i (.returned (.done (if close then excuse r else r))) with
        driver := d, stopping := false, closedBy := s.closedBy ++ [i] }

/-- Caller `i`'s next step. -/
def resume (dev : Devices ω) (s : Shared ω) (i : Nat) (quit : Option Expiry) : Shared ω :=
  match s.callers i with
  | .idle => s
  | .returned _ => s
  | .calling c => s.begin dev i c
  | .announcing => if s.settingsOwner.isSome then s else { s.setCaller i .launching with running := true }
  | .launching =>
    { s.setCaller i (.returned (.done (.ok ()))) with
        fetcher := .reading, poller := .polling, controller := .looping, owner := none }
  | .cancelling close => { s.setCaller i (.joining close) with cancelled := true }
  | .joining close => if s.joined then s.setCaller i (.clearing close) else s
  | .clearing close => { s.setCaller i (.awaiting close) with running := false }
  | .awaiting close =>
    if s.settingsOwner.isSome then s else { s.setCaller i (.draining close) with settingsOwner := some i }
  | .draining close =>
    { s.setCaller i (.tearingDown close) with
        driver := s.driver.drainQueues, requests := s.requests.drain.2, responses := s.responses.drain.2,
        settingsOwner := none }
  | .tearingDown close => if s.owner.isSome then s else s.tearDown dev i close
  | .offering r =>
    match s.requests.push r with
    | (true, q) => { s.setCaller i (.waiting r) with requests := q }
    | (false, q) => { s.setCaller i (.stalled r) with requests := q }
  | .stalled r => s.setCaller i (if s.running then .sleeping r false else .serving r false .popping)
  | .sleeping r queued =>
    match quit with
    | some e =>
      let what := (if queued then "no response to " else "could not queue ") ++ r.direction.name ++
        " settings request"
      { s.setCaller i (.returned (.settled r "" (some (e.fault what)))) with settingsOwner := none }
    | none => s.setCaller i (if queued then .waiting r else .offering r)
  | .waiting r => s.setCaller i (if s.running then .collecting r else .serving r true .popping)
  | .collecting r =>
    match s.responses.pop with
    | (none, q) => { s.setCaller i (.sleeping r true) with responses := q }
    | (some resp, q) =>
      if resp.seq != r.seq then { s.setCaller i (.collecting r) with responses := q }
      else
        let (payload, fault) := settingsAnswer r.direction r.payload resp.payload resp.error
        { s.setCaller i (.returned (.settled r payload fault)) with responses := q, settingsOwner := none }
  | .serving r queued step =>
    match s.serve dev step with
    | (some next, s') => s'.setCaller i (.serving r queued next)
    | (none, s') => s'.setCaller i (if queued then .collecting r else .offering r)

/-- The fetcher's next step. A failed read ends it once the context is
cancelled and is counted otherwise. -/
def fetch (dev : Devices ω) (s : Shared ω) : Shared ω :=
  match s.fetcher with
  | .exited => s
  | .reading =>
    if !s.work then { s with fetcher := .exited }
    else
      let (r, reader) := (Reader.read dev.sampler).run' s.driver.reader
      let s := { s with driver.reader := reader }
      match r with
      | .error _ => if s.cancelled then { s with fetcher := .exited } else { s with driver := s.driver.takeRead r }
      | .ok b => { s with fetcher := if b.isEmpty then .dispatching else .pushing b }
  | .pushing b => { s with driver := { s.driver with metrics := s.driver.metrics.batchRead }.enqueue b,
                           fetcher := .dispatching }
  | .dispatching => { s with driver := s.driver.dispatchEvents, fetcher := .reading }

/-- The poller's next step; a cycle that breaks a precondition panics. -/
def poll (s : Shared ω) : Shared ω :=
  match s.poller with
  | .exited => s
  | .crashed => s
  | .polling => { s with poller := if s.work then .popping else .flushing }
  | .popping =>
    match s.driver.pollOnce with
    | .ok (_, d) => { s with driver := d, poller := .polling }
    | .error _ => { s with poller := .crashed }
  | .flushing => { s with driver := s.driver.finishPoller, poller := .exited }

/-- The control thread's next step. -/
def control (dev : Devices ω) (s : Shared ω) : Shared ω :=
  match s.controller with
  | .exited => s
  | .looping =>
    if !s.work then { s with controller := .exited }
    else
      let (report, world) := dev.readEvents.run s.driver.world
      { s with driver.reader.sampler := world, controller := .queueing report.events }
  | .queueing events => { s with driver := s.driver.queueEvents events, controller := .serving .popping }
  | .serving step =>
    match s.serve dev step with
    | (some next, s') => { s' with controller := .serving next }
    | (none, s') => { s' with controller := .looping }

def step (dev : Devices ω) (s : Shared ω) : Action → Shared ω
  | .call i c => if s.callers i matches .idle then s.setCaller i (.calling c) else s
  | .resume i quit => s.resume dev i quit
  | .fetch => s.fetch dev
  | .poll => s.poll
  | .control => s.control dev

def run (dev : Devices ω) (s : Shared ω) (actions : List Action) : Shared ω := actions.foldl (step dev) s

end Shared

end Driver

end Acquisition
