import Acquisition.Proofs.Driver.Exchange
import Mathlib
/-! Settings replies under concurrency: no request reaches the board twice, and a settings call that
returns answers from the board's reply to its own request. -/
namespace Acquisition.Driver

variable {ω : Type}

namespace Shared

variable {dev : Devices ω} {s : Shared ω}

theorem exchange_setCaller (s : Shared ω) (i : Nat) (c : Caller) :
    (s.setCaller i c).exchange = s.exchange.set (.caller i) c.trace := by
  simp only [exchange, setCaller, Exchange.set, Exchange.mk.injEq, and_true]
  funext q
  cases q with
  | caller j => by_cases same : j = i <;> simp [same]
  | _ => simp

theorem exchange_controller (s : Shared ω) (c : Controller) :
    { s with controller := c }.exchange = s.exchange.set .controller c.trace := by
  simp only [exchange, Exchange.set, Exchange.mk.injEq, and_true]
  funext q
  cases q <;> simp

/-- Two shared drivers whose parties show the same traces, with the same
queues, record and count, have the same exchange. -/
theorem exchange_congr {t : Shared ω} (callers : ∀ j, (t.callers j).trace = (s.callers j).trace)
    (controller : t.controller.trace = s.controller.trace) (requests : t.requests = s.requests)
    (responses : t.responses = s.responses) (served : t.served = s.served) (tickets : t.tickets = s.tickets) :
    t.exchange = s.exchange := by
  simp only [exchange, requests, responses, served, tickets, Exchange.mk.injEq, and_true]
  funext q
  cases q <;> simp [callers, controller]

theorem trace_caller {i : Nat} {c : Caller} (hc : s.callers i = c) : s.exchange.trace (.caller i) = c.trace := by
  rw [← hc]
  rfl

theorem stay_of_trace {i : Nat} {c : Caller} (same : c.trace = (s.callers i).trace) :
    Exchange.Moves dev s.exchange (s.setCaller i c).exchange :=
  (Exchange.Moves.stay _).of_eq (by rw [exchange_setCaller, same]; exact (Exchange.set_eq_self rfl).symm)

theorem controller_of_joined (joined : s.joined = true) : s.controller = .exited := by
  simp only [Shared.joined, Bool.and_eq_true] at joined
  obtain ⟨-, ended⟩ := joined
  cases h : s.controller <;> simp_all

theorem moves_begin {i : Nat} {c : Call} (calling : s.callers i = .calling c) :
    Exchange.Moves dev s.exchange (s.begin dev i c).exchange := by
  have quiet : ∀ c' : Caller, c'.trace = {} → Exchange.Moves dev s.exchange (s.setCaller i c').exchange :=
    fun c' quiet => stay_of_trace (by rw [quiet, calling]; rfl)
  cases c with
  | start =>
    simp only [begin]
    split
    · exact .stay _
    · split
      · exact quiet _ rfl
      · exact quiet _ rfl
  | stop close =>
    simp only [begin]
    split
    · exact .stay _
    · split
      · exact quiet _ rfl
      · exact quiet _ rfl
  | configure c =>
    simp only [begin]
    split
    · exact .stay _
    · exact quiet _ rfl
  | query q =>
    simp only [begin]
    split
    · exact .stay _
    · exact quiet _ rfl
  | settings direction payload =>
    simp only [begin]
    split
    · exact .stay _
    · refine (Exchange.Moves.issue _ (.caller i) { ticket := s.tickets + 1, direction, payload } rfl).of_eq ?_
      rw [show ({ request? := some { ticket := s.tickets + 1, direction, payload }, unsent := true } : Trace) =
        (Caller.offering { ticket := s.tickets + 1, direction, payload }).trace from rfl, ← exchange_setCaller]
      rfl

/-- One step of serving the request queue by party `p`, whose trace shows the
serving step over what else it carries. -/
theorem moves_serve (p : Party) {step : Serving} {a : Option Request} {b : Bool}
    (serving : s.exchange.trace p = { step.trace with request? := a, unsent := b }) :
    Exchange.Moves dev s.exchange ((s.serve dev step).2.exchange.set p
      { ((s.serve dev step).1.map Serving.trace).getD {} with request? := a, unsent := b }) := by
  cases step with
  | popping =>
    rcases popped : s.requests.pop with ⟨_ | x, q⟩
    · -- nothing queued: the queue and the party are as they were
      have same : q = s.requests := by
        have := Ring.pop_eq_of_none s.requests (by rw [popped])
        rwa [popped] at this
      simp only [serve, popped, same, Option.map_none, Option.getD_none]
      refine (Exchange.Moves.stay _).of_eq ?_
      rw [show ({ ({} : Trace) with request? := a, unsent := b } : Trace) = s.exchange.trace p from serving.symm]
      exact (Exchange.set_eq_self rfl).symm
    · simp only [serve, popped, Option.map_some, Option.getD_some]
      refine (Exchange.Moves.take _ p x (by rw [serving]; rfl) (by show s.requests.pop.1 = _; rw [popped])).of_eq ?_
      rw [serving]
      show { s.exchange.set p _ with requests := s.requests.pop.2 } = _
      rw [popped]
      rfl
  | answering x =>
    simp only [serve]
    exact (Exchange.Moves.answer _ p x s.driver.world (by rw [serving]; rfl)).of_eq (by rw [serving]; rfl)
  | replying resp =>
    simp only [serve]
    exact (Exchange.Moves.reply _ p resp (by rw [serving]; rfl)).of_eq (by rw [serving]; rfl)

theorem moves_resume (sound : s.Sound) (i : Nat) (quit : Option Expiry) :
    Exchange.Moves dev s.exchange (s.resume dev i quit).exchange := by
  have carried : ∀ r, (s.callers i).trace.request? = some r → (s.exchange.trace (.caller i)).request? = some r :=
    fun _ held => held
  cases hc : s.callers i with
  | idle | returned _ =>
    simp only [Shared.resume, hc]
    exact .stay _
  | calling c =>
    simp only [Shared.resume, hc]
    exact moves_begin hc
  | announcing =>
    simp only [Shared.resume, hc]
    split
    · exact .stay _
    · exact stay_of_trace (by rw [hc]; rfl)
  | launching =>
    simp only [Shared.resume, hc]
    -- a Start launching its session finds the threads of the last one ended
    have exited := controller_of_joined (sound.launching i (by rw [hc]; rfl)).2
    have moves : Exchange.Moves dev s.exchange (s.setCaller i (.returned (.done (.ok ())))).exchange :=
      stay_of_trace (by rw [hc]; rfl)
    refine moves.of_eq (Eq.symm ?_)
    refine exchange_congr (fun _ => rfl) ?_ rfl rfl rfl rfl
    show Controller.looping.trace = s.controller.trace
    rw [exited]
    rfl
  | cancelling close | clearing close =>
    simp only [Shared.resume, hc]
    exact stay_of_trace (by rw [hc]; rfl)
  | joining close =>
    simp only [Shared.resume, hc]
    split
    · exact stay_of_trace (by rw [hc]; rfl)
    · exact .stay _
  | awaiting close =>
    simp only [Shared.resume, hc]
    split
    · exact .stay _
    · exact stay_of_trace (by rw [hc]; rfl)
  | tearingDown close =>
    simp only [Shared.resume, hc]
    split
    · exact .stay _
    · simp only [tearDown]
      split
      · exact .stay _
      · exact stay_of_trace (by rw [hc]; rfl)
  | draining close =>
    simp only [Shared.resume, hc]
    change Exchange.Moves dev s.exchange { (s.setCaller i (.tearingDown close)).exchange with requests := _, responses := _ }
    rw [exchange_setCaller, show (Caller.tearingDown close).trace = s.exchange.trace (.caller i) by
      show _ = (s.callers i).trace
      rw [hc]; rfl, Exchange.set_eq_self rfl]
    exact .drain _
  | offering r =>
    simp only [Shared.resume, hc]
    have offering : s.exchange.trace (.caller i) = { request? := some r, unsent := true } := trace_caller hc
    have moves : Exchange.Moves dev s.exchange _ := Exchange.Moves.offer s.exchange (.caller i) r offering
    rw [show s.exchange.requests = s.requests from rfl] at moves
    rcases pushed : s.requests.push r with ⟨_ | _, q⟩
    · -- the queue is full: the caller stalls with its request
      simp only [pushed] at moves ⊢
      refine moves.of_eq ?_
      show _ = { (s.setCaller i (.stalled r)).exchange with requests := q }
      rw [exchange_setCaller, offering]
      rfl
    · simp only [pushed] at moves ⊢
      refine moves.of_eq ?_
      show _ = { (s.setCaller i (.waiting r)).exchange with requests := q }
      rw [exchange_setCaller]
      rfl
  | stalled r =>
    simp only [Shared.resume, hc]
    exact stay_of_trace (by rw [hc]; split <;> rfl)
  | sleeping r queued =>
    cases quit with
    | some e =>
      simp only [Shared.resume, hc]
      exact (Exchange.Moves.giveUp _ (.caller i) r e _ (by rw [trace_caller hc]; rfl)).of_eq (by
          show _ = (s.setCaller i _).exchange
          rw [exchange_setCaller]
          rfl)
    | none =>
      simp only [Shared.resume, hc]
      exact stay_of_trace (by rw [hc]; cases queued <;> rfl)
  | waiting r =>
    simp only [Shared.resume, hc]
    exact stay_of_trace (by rw [hc]; split <;> rfl)
  | collecting r =>
    simp only [Shared.resume, hc]
    have collecting : s.exchange.trace (.caller i) = { request? := some r } := trace_caller hc
    rcases popped : s.responses.pop with ⟨_ | resp, q⟩
    · -- nothing queued: the caller sleeps before it looks again
      have same : q = s.responses := by
        have := Ring.pop_eq_of_none s.responses (by rw [popped])
        rwa [popped] at this
      simp only
      refine (Exchange.Moves.stay _).of_eq ?_
      show _ = { (s.setCaller i (.sleeping r true)).exchange with responses := q }
      rw [exchange_setCaller, same, Exchange.set_eq_self (by rw [collecting]; rfl)]
      rfl
    · simp only
      split
      · -- another request's response is dropped
        refine (Exchange.Moves.discard _).of_eq ?_
        show _ = { (s.setCaller i (.collecting r)).exchange with responses := q }
        rw [exchange_setCaller, Exchange.set_eq_self (by rw [collecting]; rfl),
          show s.exchange.responses = s.responses from rfl, popped]
      · rename_i own
        have own : resp.seq = r.seq := by simpa using own
        refine (Exchange.Moves.collect _ (.caller i) r resp collecting
          (by show s.responses.pop.1 = _; rw [popped]) own).of_eq ?_
        show _ = { (s.setCaller i _).exchange with responses := q }
        rw [exchange_setCaller, show s.exchange.responses = s.responses from rfl, popped]
        rfl
  | serving r queued step =>
    simp only [Shared.resume, hc]
    have moves : Exchange.Moves dev s.exchange _ := moves_serve (.caller i)
      (show s.exchange.trace (.caller i) = { step.trace with request? := some r, unsent := !queued } from
        trace_caller hc)
    rcases served : s.serve dev step with ⟨_ | next, s'⟩
    · -- the queue is empty: the caller goes back to its own request
      rw [served] at moves
      refine moves.of_eq ?_
      rw [exchange_setCaller]
      cases queued <;> rfl
    · rw [served] at moves
      refine moves.of_eq ?_
      rw [exchange_setCaller]
      rfl

theorem exchange_fetch (dev : Devices ω) (s : Shared ω) : (s.fetch dev).exchange = s.exchange := by
  simp only [fetch]
  split <;> (try dsimp only) <;> (repeat' split) <;> rfl

theorem exchange_poll (s : Shared ω) : s.poll.exchange = s.exchange := by
  simp only [poll]
  repeat' split
  all_goals rfl

theorem moves_control (dev : Devices ω) (s : Shared ω) : Exchange.Moves dev s.exchange (s.control dev).exchange := by
  -- the positions outside serving carry nothing the invariant reads
  have quiet : ∀ {c : Controller}, c.trace = {} → s.controller.trace = {} → { s with controller := c }.exchange = s.exchange :=
    fun same same' => exchange_congr (fun _ => rfl) (same.trans same'.symm) rfl rfl rfl rfl
  cases hc : s.controller with
  | exited =>
    simp only [control, hc]
    exact .stay _
  | looping =>
    simp only [control, hc]
    split
    · exact (Exchange.Moves.stay _).of_eq (quiet rfl (by rw [hc]; rfl)).symm
    · refine (Exchange.Moves.stay _).of_eq (Eq.symm ?_)
      exact exchange_congr (fun _ => rfl) (by rw [hc]; rfl) rfl rfl rfl rfl
  | queueing events =>
    simp only [control, hc]
    refine (Exchange.Moves.stay _).of_eq (Eq.symm ?_)
    exact exchange_congr (fun _ => rfl) (by rw [hc]; rfl) rfl rfl rfl rfl
  | serving step =>
    simp only [control, hc]
    have moves : Exchange.Moves dev s.exchange _ := moves_serve .controller
      (show s.exchange.trace .controller = { step.trace with request? := none, unsent := false } by
        show s.controller.trace = _
        rw [hc, Serving.trace_frame]
        rfl)
    rcases served : s.serve dev step with ⟨_ | next, s'⟩
    · rw [served] at moves
      simp only
      refine moves.of_eq ?_
      rw [exchange_controller s' .looping]
      rfl
    · rw [served] at moves
      simp only
      refine moves.of_eq ?_
      rw [exchange_controller s' (.serving next)]
      simp only [Option.map_some, Option.getD_some, Serving.trace_frame]
      rfl

theorem moves_step (dev : Devices ω) (sound : s.Sound) (a : Action) :
    Exchange.Moves dev s.exchange (s.step dev a).exchange := by
  cases a with
  | call i c =>
    simp only [step]
    split
    · rename_i idle
      exact stay_of_trace (by rw [idle]; rfl)
    · exact .stay _
  | resume i quit => exact moves_resume sound i quit
  | fetch => exact (Exchange.Moves.stay _).of_eq (exchange_fetch dev s).symm
  | poll => exact (Exchange.Moves.stay _).of_eq (exchange_poll s).symm
  | control => exact moves_control dev s

theorem run_concat (dev : Devices ω) (s : Shared ω) (actions : List Action) (a : Action) :
    s.run dev (actions ++ [a]) = (s.run dev actions).step dev a := by
  simp [run]

theorem matched_init (dev : Devices ω) (d : Driver ω) : (init d).exchange.Matched dev := by
  have quiet : ∀ p, (init d).exchange.trace p = {} := by
    intro p
    cases p <;> rfl
  have empty : ∀ {α : Type} [Inhabited α] (n : Nat), (⟨Array.replicate n default, 0, 0⟩ : Ring α).toList = [] := by
    simp [Ring.toList]
  have requests : (init d).exchange.requests.toList = [] := empty _
  have responses : (init d).exchange.responses.toList = [] := empty _
  have served : (init d).exchange.served = [] := rfl
  have nothing : ∀ r, ¬(init d).exchange.Mentions r := by
    rintro r (⟨p, held | held⟩ | queued | recorded)
    · simp [quiet] at held
    · simp [quiet] at held
    · simp [requests] at queued
    · simp [served] at recorded
  refine ⟨Ring.exact_replicate (by decide) (by decide) (by decide),
    Ring.exact_replicate (by decide) (by decide) (by decide),
    fun r held => absurd held (nothing r), fun r _ held => absurd held (nothing r),
    fun p _ r _ held => by simp [quiet] at held, by simp [Exchange.sent, requests, served],
    fun p r held => by simp [quiet] at held, fun p r held => by simp [quiet] at held, ?_,
    fun e held => by simp [served] at held, fun p r _ _ held => by simp [quiet] at held⟩
  rintro resp (queued | ⟨p, held⟩)
  · simp [responses] at queued
  · simp [quiet] at held

/-- The run lemma: every run keeps the settings invariant while it makes fewer
than `2^64` settings calls. The induction is on the run, one step at the end. -/
theorem matched_run (dev : Devices ω) (d : Driver ω) (actions : List Action)
    (unwrapped : ((init d).run dev actions).tickets < 2 ^ 64) :
    ((init d).run dev actions).exchange.Matched dev := by
  induction actions using List.reverseRecOn with
  | nil => exact matched_init dev d
  | append_singleton actions a ih =>
    rw [run_concat] at unwrapped ⊢
    have moves := moves_step dev ((Sound.init d).run dev actions) a
    -- the calls made before the last step are fewer still
    have earlier : ((init d).run dev actions).tickets < 2 ^ 64 := lt_of_le_of_lt moves.tickets_le unwrapped
    exact (ih earlier).moves moves earlier

theorem tickets_run_le (dev : Devices ω) (d : Driver ω) (actions : List Action) :
    ((init d).run dev actions).tickets ≤ actions.length := by
  induction actions using List.reverseRecOn with
  | nil => exact Nat.le_refl 0
  | append_singleton actions a ih =>
    rw [run_concat, List.length_append, List.length_singleton]
    exact le_trans (moves_step dev ((Sound.init d).run dev actions) a).tickets_le_succ (Nat.succ_le_succ ih)

/-- Settings replies reach the call that asked. In every run with fewer than
`2^64` settings calls: no request is passed to the board twice; every reply
recorded is the board's answer to its request's direction and payload; and a
settings call that returns without its context ending returns what
`settingsAnswer` reads from the board's reply to its own request. -/
theorem settings_calls_return_their_own_replies (dev : Devices ω) (d : Driver ω) (actions : List Action)
    (unwrapped : ((init d).run dev actions).tickets < 2 ^ 64) :
    let s := (init d).run dev actions
    (s.served.map (·.1.ticket)).Nodup ∧
    (∀ e ∈ s.served, ∃ w, ((dev.reply e.1.direction e.1.payload).run w).1 = e.2) ∧
    ∀ i r payload fault, s.callers i = .returned (.settled r payload fault) →
      (∃ (e : Expiry) (what : String), fault = some (e.fault what)) ∨
      ∃ reply, (r, reply) ∈ s.served ∧
        (payload, fault) = settingsAnswer r.direction r.payload reply.payload (reply.error.getD "") := by
  intro s
  have m := matched_run dev d actions unwrapped
  refine ⟨?_, m.board, fun i r payload fault settled => ?_⟩
  · have once := m.once
    simp only [Exchange.sent, List.map_append, List.map_map] at once
    exact (List.nodup_append.1 once).2.1
  · have trace : s.exchange.trace (.caller i) = { request? := some r, settled? := some (payload, fault) } := by
      show (s.callers i).trace = _
      rw [settled]
      rfl
    exact m.answered (.caller i) r payload fault (by rw [trace]) (by rw [trace])

/-- A get of the settings served by its own caller, no session running. -/
theorem inline_get_returns_its_reply :
    let actions := Action.call 0 (.settings .get "x") :: List.replicate 8 (.resume 0 none)
    let s := (init (Driver.new {} ())).run steadyDevices actions
    s.tickets < 2 ^ 64 ∧
    (s.served.map (·.1.ticket)).Nodup ∧
    (∀ e ∈ s.served, ∃ w, ((steadyDevices.reply e.1.direction e.1.payload).run w).1 = e.2) ∧
    ∀ i r payload fault, s.callers i = .returned (.settled r payload fault) →
      (∃ (e : Expiry) (what : String), fault = some (e.fault what)) ∨
      ∃ reply, (r, reply) ∈ s.served ∧
        (payload, fault) = settingsAnswer r.direction r.payload reply.payload (reply.error.getD "") := by
  have short : (Action.call 0 (.settings .get "x") :: List.replicate 8 (.resume 0 none)).length < 2 ^ 64 := by
    simp
  have unwrapped := lt_of_le_of_lt (tickets_run_le steadyDevices (Driver.new {} ()) _) short
  exact ⟨unwrapped, settings_calls_return_their_own_replies steadyDevices (Driver.new {} ()) _ unwrapped⟩

end Shared

end Acquisition.Driver
