import Mathlib
import Acquisition.Proofs.Driver.Calls
/-! Button events over a session: the driver behaves as a queue of 128 events over the board's
reports, the callback hearing each event it took once and in order, with the state read off the
counter's parity. -/
namespace Acquisition

namespace Driver

variable {ω : Type}

/-- An iteration of a session's loop that moves button events: a pass of the
control loop, or an iteration of the fetcher. -/
inductive EventLoop where
  | control
  | fetch
  deriving DecidableEq, Repr

def EventLoop.next (dev : Devices ω) (d : Driver ω) : EventLoop → Driver ω
  | .control => d.control dev
  | .fetch => d.fetch dev

/-- What an iteration shows of the button events: the events of a report the
control loop got from the board, with an error or not, or a hand-out by a
fetcher whose read succeeded. A fetch whose read failed shows nothing. -/
inductive Sighting where
  | report (events : List Event)
  | handOut
  deriving DecidableEq, Repr

namespace Sighting

/-- The button events of a report that a queue holding `waiting` events takes:
in report order, as many as it has room for. -/
def admitted (waiting : Nat) (events : List Event) : List Event :=
  (events.filter (·.button)).take (eventCapacity - waiting)

/-- A queue of button events run over the sightings from `waiting`: the events
it hands out, in order, and those still waiting at the end. -/
def queue : List Event → List Sighting → List Event × List Event
  | waiting, [] => ([], waiting)
  | waiting, report events :: rest => queue (waiting ++ admitted waiting.length events) rest
  | waiting, handOut :: rest => (waiting ++ (queue [] rest).1, (queue [] rest).2)

def reported : List Sighting → List Event
  | [] => []
  | report events :: rest => events ++ reported rest
  | handOut :: rest => reported rest

/-- The queue hands out and keeps only what it was given and the button
events reported, each at most once and in order. -/
theorem queue_sublist (waiting : List Event) (sightings : List Sighting) :
    ((queue waiting sightings).1 ++ (queue waiting sightings).2).Sublist
      (waiting ++ (reported sightings).filter (·.button)) := by
  induction sightings generalizing waiting with
  | nil => simp [queue, reported]
  | cons s rest ih =>
    cases s with
    | report events =>
      -- a report adds a prefix of its button events behind those waiting
      have taken : (admitted waiting.length events).Sublist (events.filter (·.button)) := List.take_sublist _ _
      rw [queue, reported, List.filter_append, ← List.append_assoc]
      exact (ih _).trans (List.Sublist.append (List.Sublist.append_left taken waiting) (List.Sublist.refl _))
    | handOut =>
      rw [queue, reported, List.append_assoc]
      simpa using List.Sublist.append_left (ih []) waiting

/-- Running the queue over two stretches of sightings runs it over the first,
then over the second from what waits. -/
theorem queue_append (waiting : List Event) (first second : List Sighting) :
    queue waiting (first ++ second) =
      ((queue waiting first).1 ++ (queue (queue waiting first).2 second).1,
        (queue (queue waiting first).2 second).2) := by
  induction first generalizing waiting with
  | nil => simp [queue]
  | cons s rest ih =>
    cases s with
    | report events => simp only [List.cons_append, queue, ih]
    | handOut => simp only [List.cons_append, queue, ih, List.append_assoc]

end Sighting

theorem buttonStates_append (first second : List Event) :
    buttonStates (first ++ second) = buttonStates first ++ buttonStates second := by
  simp [buttonStates]

/-- The state handed to the callback is pressed exactly for a positive odd
counter: the remainder truncates towards zero, so it is `-1` for a negative
odd one. -/
theorem tmod_two_eq_one (c : Int) : (c.tmod 2 == 1) = decide (0 < c ∧ Odd c) := by
  rw [Bool.eq_iff_iff, beq_iff_eq, decide_eq_true_eq, Int.odd_iff, Int.tmod_eq_emod]
  split <;> omega

theorem toList_buttonStates (events : List Event) :
    (buttonStates events).toList = events.map fun e => (decide (0 < e.counter ∧ Odd e.counter), e.counter) := by
  simp [buttonStates, tmod_two_eq_one]

/-- What of the driver the button events pass through: the event queue, the
callback's record, whether a callback is registered, and the session. -/
structure EventView where
  pending : List Event
  buttons : Array (Bool × Int)
  handler : Bool
  session : Option Handle

def eventView (d : Driver ω) : EventView := ⟨d.pendingEvents, d.outbox.buttons, d.buttonHandler, d.session⟩

namespace EventView

/-- The view once the queue ran over the sightings: what it handed out is on
the callback's record, if a callback is registered, and what it holds waits. -/
def run (v : EventView) (sightings : List Sighting) : EventView :=
  { v with
    pending := (Sighting.queue v.pending sightings).2
    buttons := if v.handler then v.buttons ++ buttonStates (Sighting.queue v.pending sightings).1 else v.buttons }

theorem run_nil (v : EventView) : v.run [] = v := by
  cases v with
  | mk pending buttons handler session => cases handler <;> simp [run, Sighting.queue, buttonStates]

theorem run_append (v : EventView) (first second : List Sighting) :
    (v.run first).run second = v.run (first ++ second) := by
  cases v with
  | mk pending buttons handler session =>
    cases handler <;> simp [run, Sighting.queue_append, buttonStates_append, Array.append_assoc]

end EventView

/-- What an iteration from `d` shows of the button events. -/
def sighting (dev : Devices ω) (d : Driver ω) : EventLoop → List Sighting
  | .control => [.report (dev.readEvents.run d.world).1.events]
  | .fetch =>
    match ((Reader.read dev.sampler).run' d.reader).1 with
    | .ok _ => [.handOut]
    | .error _ => []

def eventRun (dev : Devices ω) : Driver ω → List EventLoop → Driver ω × List Sighting
  | d, [] => (d, [])
  | d, loop :: rest =>
    ((eventRun dev (loop.next dev d) rest).1, sighting dev d loop ++ (eventRun dev (loop.next dev d) rest).2)

/-! ### One iteration -/

/-- Queueing a report appends the button events there is room for, in report
order; the rest are counted as dropped. -/
theorem queueEvents_view (d : Driver ω) (events : List Event) :
    (d.queueEvents events).eventView = d.eventView.run [.report events] := by
  have queued : (d.queueEvents events).eventView =
      { d.eventView with pending := d.pendingEvents ++ Sighting.admitted d.pendingEvents.length events } := by
    unfold queueEvents Sighting.admitted
    induction events.filter (·.button) generalizing d with
    | nil => simp [eventView]
    | cons e rest ih =>
      rw [List.foldl_cons]
      split
      · next room =>
        -- `e` takes one place of the room left
        obtain ⟨k, left⟩ : ∃ k, eventCapacity - d.pendingEvents.length = k + 1 :=
          ⟨eventCapacity - d.pendingEvents.length - 1, by omega⟩
        have after : eventCapacity - (d.pendingEvents.length + 1) = k := by omega
        rw [ih, left, List.take_succ_cons]
        simp [eventView, after]
      · next full =>
        rw [ih, Nat.sub_eq_zero_of_le (Nat.le_of_not_lt full)]
        simp [eventView]
  rw [queued]
  cases handler : d.buttonHandler <;> simp [EventView.run, Sighting.queue, eventView, handler, buttonStates]

theorem dispatchEvents_view (d : Driver ω) : d.dispatchEvents.eventView = d.eventView.run [.handOut] := by
  rw [dispatchEvents_eq]
  cases handler : d.buttonHandler <;> simp [EventView.run, Sighting.queue, eventView, handler, buttonStates]

theorem enqueue_view (d : Driver ω) (b : Batch) : (d.enqueue b).eventView = d.eventView := by
  unfold enqueue
  split <;> rfl

/-- An iteration moves the button events as what it shows says: a pass of the
control loop queues the report it got, a fetcher iteration whose read
succeeded hands the waiting events out, and one whose read failed leaves
them. -/
theorem next_view (dev : Devices ω) (d : Driver ω) (loop : EventLoop) :
    (loop.next dev d).eventView = d.eventView.run (sighting dev d loop) := by
  cases loop with
  | control =>
    simp only [EventLoop.next, sighting, control]
    exact queueEvents_view _ _
  | fetch =>
    simp only [EventLoop.next, sighting, fetch]
    rcases (Reader.read dev.sampler).run' d.reader with ⟨_ | b, reader⟩
    · exact (EventView.run_nil _).symm
    · dsimp only [takeRead]
      rw [dispatchEvents_view]
      split
      · rfl
      · rw [enqueue_view]
        rfl

/-! ### A run -/

/-- Over any run of control passes and fetcher iterations, the driver's queue
and the callback's record are those of the queue run over what the iterations
showed. -/
theorem eventRun_view (dev : Devices ω) (loops : List EventLoop) (d : Driver ω) :
    (eventRun dev d loops).1.eventView = d.eventView.run (eventRun dev d loops).2 := by
  -- each iteration moves the view as its sightings say, so the run moves it as all of them
  induction loops generalizing d with
  | nil => exact (EventView.run_nil _).symm
  | cons loop rest ih =>
    rw [eventRun, ih, next_view, EventView.run_append]

theorem stopRefusal_next (dev : Devices ω) (d : Driver ω) (loop : EventLoop) (stopping : Bool) :
    stopRefusal (loop.next dev d) stopping = stopRefusal d stopping := by
  cases loop with
  | control =>
    simp only [EventLoop.next, control]
    obtain ⟨session, registry, -, options⟩ :=
      queueEvents_frame { d with reader.sampler := (dev.readEvents.run d.world).2 } (dev.readEvents.run d.world).1.events
    exact stopRefusal_congr session registry options stopping
  | fetch =>
    simp only [EventLoop.next, fetch]
    obtain ⟨session, registry, -, options⟩ :=
      takeRead_frame { d with reader := ((Reader.read dev.sampler).run' d.reader).2 }
        ((Reader.read dev.sampler).run' d.reader).1
    exact stopRefusal_congr session registry options stopping

theorem stopRefusal_eventRun (dev : Devices ω) (loops : List EventLoop) (d : Driver ω) (stopping : Bool) :
    stopRefusal (eventRun dev d loops).1 stopping = stopRefusal d stopping := by
  induction loops generalizing d with
  | nil => rfl
  | cons loop rest ih =>
    simp only [eventRun]
    rw [ih, stopRefusal_next]

theorem finishPoller_buttons (d : Driver ω) : d.finishPoller.outbox.buttons = d.outbox.buttons := by
  unfold finishPoller
  repeat' split
  all_goals rfl

theorem stop_drops_waiting_events (dev : Devices ω) {d : Driver ω} {h : Handle} (running : d.session = some h)
    (accepted : stopRefusal d false = none) :
    ((stop dev).run' d).2.outbox.buttons = d.outbox.buttons ∧ ((stop dev).run' d).2.pendingEvents = [] := by
  obtain ⟨reader, registry, closed⟩ := stop_state dev running accepted
  rw [closed]
  exact ⟨finishPoller_buttons d, rfl⟩

/-- Over a session, with any interleaving of control passes and fetcher
iterations and whatever the board reports, the button callback, if one is
registered, hears exactly the events that a queue of 128 run over the reports
and the hand-outs hands out: button events only, each once and in report order,
without those the full queue refused and those still waiting when Stop empties
the queue. Each call passes the event's counter, with the button pressed
exactly when the counter is positive and odd. -/
theorem button_events_reach_callback_in_order (dev : Devices ω) {d₀ d : Driver ω}
    (started : (start dev).run' d₀ = (.ok (), d)) (loops : List EventLoop) :
    let run := eventRun dev d loops
    let queued := Sighting.queue [] run.2
    let stopped := ((stop dev).run' run.1).2
    (queued.1 ++ queued.2).Sublist ((Sighting.reported run.2).filter (·.button)) ∧
      run.1.pendingEvents = queued.2 ∧
      stopped.outbox.buttons.toList = d₀.outbox.buttons.toList ++
        (if d₀.buttonHandler then queued.1.map fun e => (decide (0 < e.counter ∧ Odd e.counter), e.counter)
          else []) ∧
      stopped.pendingEvents = [] := by
  dsimp only
  obtain ⟨-, h, reader, registry, held, begun⟩ := start_ok started
  -- the session starts with no waiting events and keeps the callback's record
  have fresh : d.eventView = { d₀.eventView with pending := [], session := some h } := by
    rw [begun]
    rfl
  have view := eventRun_view dev loops d
  rw [fresh] at view
  have pending := congrArg EventView.pending view
  have buttons := congrArg EventView.buttons view
  have session := congrArg EventView.session view
  simp only [EventView.run, eventView] at pending buttons session
  -- the loops leave the session where the registry holds it, so the Stop goes on
  have accepted : stopRefusal (eventRun dev d loops).1 false = none := by
    rw [stopRefusal_eventRun, begun]
    exact stopRefusal_of_registered rfl held
  obtain ⟨heard, drained⟩ := stop_drops_waiting_events dev session accepted
  refine ⟨by simpa using Sighting.queue_sublist [] (eventRun dev d loops).2, pending, ?_, drained⟩
  rw [heard, buttons]
  by_cases handler : d₀.buttonHandler = true
  · simp only [handler, if_true, Array.toList_append, toList_buttonStates]
  · simp only [handler, Bool.false_eq_true, if_false, List.append_nil]

/-- The steady board, reporting a press, an event that is not a button event,
and a release at every request. -/
def pressingDevices : Devices Unit :=
  { steadyDevices with readEvents := pure { events := [⟨true, 1⟩, ⟨false, 0⟩, ⟨true, 2⟩] } }

/-- A session on the pressing board with a button callback: it starts, and the
callback hears what the queue hands out over two control passes around a fetch. -/
theorem pressing_session_reaches_callback :
    let d₀ : Driver Unit := { Driver.new {} () with buttonHandler := true }
    let d := ((start pressingDevices).run' d₀).2
    (start pressingDevices).run' d₀ = (.ok (), d) ∧
      let run := eventRun pressingDevices d [.control, .fetch, .control]
      let queued := Sighting.queue [] run.2
      let stopped := ((stop pressingDevices).run' run.1).2
      (queued.1 ++ queued.2).Sublist ((Sighting.reported run.2).filter (·.button)) ∧
        run.1.pendingEvents = queued.2 ∧
        stopped.outbox.buttons.toList = d₀.outbox.buttons.toList ++
          (if d₀.buttonHandler then queued.1.map fun e => (decide (0 < e.counter ∧ Odd e.counter), e.counter)
            else []) ∧
        stopped.pendingEvents = [] := by
  intro d₀ d
  have started : (start pressingDevices).run' d₀ = (.ok (), d) := Prod.ext rfl rfl
  exact ⟨started, button_events_reach_callback_in_order pressingDevices started [.control, .fetch, .control]⟩

/-- The steady board, reporting a button event whose press counter is `-1` at
every request. -/
def negativeCounterDevices : Devices Unit := { steadyDevices with readEvents := pure { events := [⟨true, -1⟩] } }

/-- An odd press counter is not always a press: a button event with counter
`-1`, queued by a control pass and handed out by a fetch, reaches the callback
as released. -/
theorem odd_negative_counter_reads_released :
    let d₀ : Driver Unit := { Driver.new {} () with buttonHandler := true }
    let d := ((start negativeCounterDevices).run' d₀).2
    Odd (-1 : Int) ∧ (eventRun negativeCounterDevices d [.control, .fetch]).1.outbox.buttons = #[(false, -1)] := by
  intro d₀ d
  refine ⟨⟨-1, by norm_num⟩, ?_⟩
  have shown : (eventRun negativeCounterDevices d [.control, .fetch]).2 = [.report [⟨true, -1⟩], .handOut] := rfl
  have fresh : d.eventView = { pending := [], buttons := #[], handler := true, session := d.session } := rfl
  have view := congrArg EventView.buttons (eventRun_view negativeCounterDevices [.control, .fetch] d)
  rw [shown, fresh] at view
  simp only [eventView] at view
  rw [view]
  decide

end Driver

end Acquisition
