import Acquisition.Proofs.Driver.Discipline
import Acquisition.Proofs.Queue.Fifo
import Mathlib
/-! The settings exchange of a shared driver: `Exchange.Moves` lists how one step can change it, and
every move keeps the invariant `Exchange.Matched` while fewer than `2^64` calls are made. -/
namespace Acquisition.Driver

/-- What the settings invariant reads off a party's position: the request it
carries and whether it has yet to queue it, the request it is passing to the
board or the response it is queueing, and the answer it returned. -/
structure Trace where
  request? : Option Request := none
  unsent : Bool := false
  answering? : Option Request := none
  replying? : Option Response := none
  settled? : Option (String × Option Fault) := none

def Serving.trace : Serving → Trace
  | .popping => {}
  | .answering r => { answering? := some r }
  | .replying resp => { replying? := some resp }

namespace Caller

def trace : Caller → Trace
  | .offering r | .stalled r => { request? := some r, unsent := true }
  | .sleeping r queued => { request? := some r, unsent := !queued }
  | .waiting r | .collecting r => { request? := some r }
  | .serving r queued step => { step.trace with request? := some r, unsent := !queued }
  | .returned (.settled r payload fault) => { request? := some r, settled? := some (payload, fault) }
  | _ => {}

end Caller

def Controller.trace : Controller → Trace
  | .serving step => step.trace
  | _ => {}

theorem Serving.trace_frame (step : Serving) : { step.trace with request? := none, unsent := false } = step.trace := by
  cases step <;> rfl

/-- What the settings invariant reads of a shared driver: every party's trace,
the two queues, the requests passed to the board with its replies, and the
count of settings calls. -/
structure Exchange where
  trace : Party → Trace
  requests : Ring Request
  responses : Ring Response
  served : List (Request × Reply)
  tickets : Nat

variable {ω : Type}

def Shared.exchange (s : Shared ω) : Exchange where
  trace
    | .controller => s.controller.trace
    | .caller i => (s.callers i).trace
    | _ => {}
  requests := s.requests
  responses := s.responses
  served := s.served
  tickets := s.tickets

namespace Exchange

def set (L : Exchange) (p : Party) (t : Trace) : Exchange := { L with trace := Function.update L.trace p t }

@[simp] theorem set_trace (L : Exchange) (p p' : Party) (t : Trace) :
    (L.set p t).trace p' = if p' = p then t else L.trace p' :=
  Function.update_apply L.trace p t p'

@[simp] theorem set_requests (L : Exchange) (p : Party) (t : Trace) : (L.set p t).requests = L.requests := rfl
@[simp] theorem set_responses (L : Exchange) (p : Party) (t : Trace) : (L.set p t).responses = L.responses := rfl
@[simp] theorem set_served (L : Exchange) (p : Party) (t : Trace) : (L.set p t).served = L.served := rfl
@[simp] theorem set_tickets (L : Exchange) (p : Party) (t : Trace) : (L.set p t).tickets = L.tickets := rfl

/-- A request the exchange holds anywhere: carried or passed to the board by a
party, queued, or answered. -/
def Mentions (L : Exchange) (r : Request) : Prop :=
  (∃ p, (L.trace p).request? = some r ∨ (L.trace p).answering? = some r) ∨
    r ∈ L.requests.toList ∨ r ∈ L.served.map Prod.fst

def sent (L : Exchange) : List Nat := (L.requests.toList ++ L.served.map Prod.fst).map Request.ticket

/-- What a settings call may return for request `r`: the error of its ended
context, or the board's reply to `r` read by `settingsAnswer`. -/
def Answers (L : Exchange) (r : Request) (payload : String) (fault : Option Fault) : Prop :=
  (∃ (e : Expiry) (what : String), fault = some (e.fault what)) ∨
    ∃ reply, (r, reply) ∈ L.served ∧
      (payload, fault) = settingsAnswer r.direction r.payload reply.payload (reply.error.getD "")

/-- The settings invariant. Tickets name requests: every request held was made
by one of the calls so far and is the only one with its ticket, and the
callers' requests are their own. A request reaches the board's side once: the
queue and the record of the board's replies never share a ticket, a request
being passed to the board is in neither and with one party, and a request not
yet queued is nowhere on that side. Every response waiting or being queued is
the board's reply to a recorded request, and every call that returned has its
answer. -/
structure Matched (dev : Devices ω) (L : Exchange) : Prop where
  requests : L.requests.Exact
  responses : L.responses.Exact
  issued : ∀ r, L.Mentions r → r.ticket ≤ L.tickets
  coherent : ∀ r r', L.Mentions r → L.Mentions r' → r.ticket = r'.ticket → r = r'
  owned : ∀ p p' r r', (L.trace p).request? = some r → (L.trace p').request? = some r' →
    r.ticket = r'.ticket → p = p'
  once : L.sent.Nodup
  answering : ∀ p r, (L.trace p).answering? = some r → r.ticket ∉ L.sent ∧
    ∀ p' r', (L.trace p').answering? = some r' → r.ticket = r'.ticket → p = p'
  unsent : ∀ p r, (L.trace p).request? = some r → (L.trace p).unsent = true → r.ticket ∉ L.sent ∧
    ∀ p' r', (L.trace p').answering? = some r' → r'.ticket ≠ r.ticket
  replies : ∀ resp, (resp ∈ L.responses.toList ∨ ∃ p, (L.trace p).replying? = some resp) →
    ∃ e ∈ L.served, resp = Response.of e.1 e.2
  board : ∀ e ∈ L.served, ∃ w, ((dev.reply e.1.direction e.1.payload).run w).1 = e.2
  answered : ∀ p r payload fault, (L.trace p).request? = some r → (L.trace p).settled? = some (payload, fault) →
    L.Answers r payload fault

variable {dev : Devices ω} {L : Exchange}

theorem Matched.sent_le (m : L.Matched dev) {t : Nat} (mem : t ∈ L.sent) : t ≤ L.tickets := by
  obtain ⟨r, held, rfl⟩ := List.mem_map.1 mem
  rcases List.mem_append.1 held with queued | served
  · exact m.issued r (.inr (.inl queued))
  · exact m.issued r (.inr (.inr served))

theorem set_eq_self {p : Party} {t : Trace} (same : t = L.trace p) : L.set p t = L := by
  simp [set, same]

theorem set_view {β : Type} (f : Trace → β) {p : Party} {t : Trace} (same : f t = f (L.trace p)) (q : Party) :
    f ((L.set p t).trace q) = f (L.trace q) := by
  rw [set_trace]
  split
  · subst q
    exact same
  · rfl

theorem set_some {β : Type} (f : Trace → Option β) {p : Party} {t : Trace} {q : Party} {y : β} :
    f ((L.set p t).trace q) = some y ↔ (q = p ∧ f t = some y) ∨ (q ≠ p ∧ f (L.trace q) = some y) := by
  rw [set_trace]
  split
  · subst q
    simp
  · simp [*]

theorem set_sub {β : Type} (f : Trace → Option β) {p : Party} {t : Trace} (quiet : f t = none) {q : Party} {y : β}
    (held : f ((L.set p t).trace q) = some y) : q ≠ p ∧ f (L.trace q) = some y := by
  rcases (set_some f).1 held with ⟨-, new⟩ | old
  · rw [quiet] at new
    cases new
  · exact old

theorem Answers.mono {L' : Exchange} {r : Request} {payload : String} {fault : Option Fault}
    (answers : L.Answers r payload fault) (more : L.served ⊆ L'.served) : L'.Answers r payload fault := by
  rcases answers with ended | ⟨reply, served, read⟩
  · exact .inl ended
  · exact .inr ⟨reply, more served, read⟩

/-- An exchange whose parties, queue and record hold only what another one
holds mentions only what the other mentions. -/
theorem Mentions.of_covered {L' : Exchange} {r : Request} (held : L'.Mentions r)
    (covered : ∀ q x, ((L'.trace q).request? = some x ∨ (L'.trace q).answering? = some x) → L.Mentions x)
    (queued : ∀ x ∈ L'.requests.toList, L.Mentions x) (served : ∀ x ∈ L'.served.map Prod.fst, L.Mentions x) :
    L.Mentions r := by
  rcases held with ⟨q, carried⟩ | inQueue | inRecord
  · exact covered q r carried
  · exact queued r inQueue
  · exact served r inRecord

theorem Matched.owned_of_carried (m : L.Matched dev) {L' : Exchange}
    (carried : ∀ q, (L'.trace q).request? = (L.trace q).request?) :
    ∀ p p' r r', (L'.trace p).request? = some r → (L'.trace p').request? = some r' → r.ticket = r'.ticket →
      p = p' := by
  intro q q' x y hq hq'
  rw [carried] at hq hq'
  exact m.owned q q' x y hq hq'

/-- The answers returned stay answers while every party carries the same
request and shows the same answer, and the record of replies only grows. -/
theorem Matched.answered_of_settled (m : L.Matched dev) {L' : Exchange}
    (carried : ∀ q, (L'.trace q).request? = (L.trace q).request?)
    (settled : ∀ q, (L'.trace q).settled? = (L.trace q).settled?) (more : L.served ⊆ L'.served) :
    ∀ p r payload fault, (L'.trace p).request? = some r → (L'.trace p).settled? = some (payload, fault) →
      L'.Answers r payload fault := by
  intro q x payload fault hq hs
  rw [carried] at hq
  rw [settled] at hs
  exact (m.answered q x payload fault hq hs).mono more

/-- A settings caller's push: an accepted request joins the queue, a refused
one stays with its caller. -/
theorem Matched.offer (m : L.Matched dev) {p : Party} {r : Request}
    (offering : L.trace p = { request? := some r, unsent := true }) :
    ({ L.set p (if (L.requests.push r).1 then { request? := some r } else L.trace p) with
        requests := (L.requests.push r).2 } : Exchange).Matched dev := by
  obtain ⟨exact, listed⟩ := m.requests.push r
  cases accepted : (L.requests.push r).1 with
  | false =>
    -- a full queue takes nothing
    rw [if_neg Bool.false_ne_true, set_eq_self rfl, Ring.push_eq_of_refused _ _ accepted]
    exact m
  | true =>
    rw [accepted, if_pos rfl] at listed
    rw [if_pos rfl]
    set L' : Exchange := { L.set p { request? := some r } with requests := (L.requests.push r).2 }
    have view : ∀ {β : Type} (f : Trace → β), f { request? := some r } = f (L.trace p) →
        ∀ q, f (L'.trace q) = f (L.trace q) := fun f same => set_view f same
    have carried := view Trace.request? (by rw [offering])
    have passing := view Trace.answering? (by rw [offering])
    have replying := view Trace.replying? (by rw [offering])
    have settled := view Trace.settled? (by rw [offering])
    have unsent : ∀ q, (L'.trace q).unsent = true → q ≠ p ∧ (L.trace q).unsent = true := by
      intro q un
      simp only [L', set_trace] at un
      split at un
      · cases un
      · exact ⟨‹_›, un⟩
    obtain ⟨fresh, apart⟩ := m.unsent p r (by rw [offering]) (by rw [offering])
    have sent : L'.sent = L.requests.toList.map Request.ticket ++
        r.ticket :: (L.served.map Prod.fst).map Request.ticket := by
      simp [L', Exchange.sent, listed]
    have sent_old : L.sent = L.requests.toList.map Request.ticket ++ (L.served.map Prod.fst).map Request.ticket := by
      simp [Exchange.sent]
    have mem : ∀ t, t ∈ L'.sent ↔ t = r.ticket ∨ t ∈ L.sent := by
      intro t
      rw [sent, sent_old]
      simp only [List.mem_append, List.mem_cons]
      tauto
    have covered : ∀ z, L'.Mentions z → L.Mentions z := fun z held => by
      refine held.of_covered (fun q x held => ?_) (fun x queued => ?_) (fun x inRecord => .inr (.inr inRecord))
      · rw [carried, passing] at held
        exact .inl ⟨q, held⟩
      · simp only [L', listed, List.mem_append, List.mem_singleton] at queued
        rcases queued with old | rfl
        · exact .inr (.inl old)
        · exact .inl ⟨p, .inl (by rw [offering])⟩
    refine ⟨exact, m.responses, fun z held => m.issued z (covered z held),
      fun z z' held held' => m.coherent z z' (covered z held) (covered z' held'), m.owned_of_carried carried, ?_, ?_,
      ?_, ?_, m.board, m.answered_of_settled carried settled (List.Subset.refl _)⟩
    · rw [sent]
      exact List.nodup_middle.2 (List.nodup_cons.2 ⟨by rwa [← sent_old], sent_old ▸ m.once⟩)
    · intro q x hq
      rw [passing] at hq
      obtain ⟨out, alone⟩ := m.answering q x hq
      refine ⟨?_, fun q' y hq' => alone q' y (by rwa [passing] at hq')⟩
      rw [mem]
      rintro (same | old)
      · exact apart q x hq same
      · exact out old
    · intro q y hq un
      obtain ⟨other, un⟩ := unsent q un
      rw [carried] at hq
      obtain ⟨out, far⟩ := m.unsent q y hq un
      refine ⟨?_, fun q' y' hq' => far q' y' (by rwa [passing] at hq')⟩
      rw [mem]
      rintro (same | old)
      · exact other (m.owned q p y r hq (by rw [offering]) same)
      · exact out old
    · intro resp held
      rcases held with queued | ⟨q, hq⟩
      · exact m.replies resp (.inl queued)
      · rw [replying] at hq
        exact m.replies resp (.inr ⟨q, hq⟩)

/-- A settings call that made a request carries it, with the next ticket, from
a position that carried nothing it keeps. -/
theorem Matched.issue (m : L.Matched dev) {p : Party} {r : Request} (fresh : r.ticket = L.tickets + 1) :
    ({ L.set p { request? := some r, unsent := true } with tickets := L.tickets + 1 } : Exchange).Matched dev := by
  set L' : Exchange := { L.set p { request? := some r, unsent := true } with tickets := L.tickets + 1 }
  -- every request held before has a smaller ticket
  have older : ∀ x, L.Mentions x → x.ticket < r.ticket := fun x held => by
    have := m.issued x held
    omega
  have passing : ∀ {q y}, (L'.trace q).answering? = some y → q ≠ p ∧ (L.trace q).answering? = some y :=
    set_sub Trace.answering? rfl
  have carried : ∀ {q y}, (L'.trace q).request? = some y → (q = p ∧ y = r) ∨ (q ≠ p ∧ (L.trace q).request? = some y) := by
    intro q y held
    rcases (set_some Trace.request?).1 held with ⟨here, new⟩ | old
    · exact .inl ⟨here, (Option.some.inj new).symm⟩
    · exact .inr old
  -- what the exchange holds now is the new request or what it held before
  have split : ∀ z, L'.Mentions z → z = r ∨ L.Mentions z := fun z held => by
    rcases held with ⟨q, held | held⟩ | queued | inRecord
    · rcases carried held with ⟨-, rfl⟩ | ⟨-, old⟩
      · exact .inl rfl
      · exact .inr (.inl ⟨q, .inl old⟩)
    · exact .inr (.inl ⟨q, .inr (passing held).2⟩)
    · exact .inr (.inr (.inl queued))
    · exact .inr (.inr (.inr inRecord))
  refine ⟨m.requests, m.responses, ?_, ?_, ?_, m.once, ?_, ?_, ?_, m.board, ?_⟩
  · intro x held
    rcases split x held with rfl | old
    · exact fresh.le
    · exact Nat.le_succ_of_le (m.issued x old)
  · intro x y hx hy same
    rcases split x hx with rfl | old <;> rcases split y hy with rfl | old'
    · rfl
    · exact absurd same (older y old').ne'
    · exact absurd same (older x old).ne
    · exact m.coherent x y old old' same
  · intro q q' x y hq hq' same
    rcases carried hq with ⟨rfl, rfl⟩ | ⟨other, old⟩ <;> rcases carried hq' with ⟨rfl, rfl⟩ | ⟨other', old'⟩
    · rfl
    · exact absurd same (older y (.inl ⟨q', .inl old'⟩)).ne'
    · exact absurd same (older x (.inl ⟨q, .inl old⟩)).ne
    · exact m.owned q q' x y old old' same
  · intro q x hq
    obtain ⟨-, old⟩ := passing hq
    obtain ⟨out, alone⟩ := m.answering q x old
    exact ⟨out, fun q' y hq' => alone q' y (passing hq').2⟩
  · intro q y hq un
    rcases carried hq with ⟨rfl, rfl⟩ | ⟨other, old⟩
    · -- the new request is on no queue and with no party passing it to the board
      refine ⟨fun sent => absurd (m.sent_le sent) (by omega), fun q' y' hq' => ?_⟩
      exact (older y' (.inl ⟨q', .inr (passing hq').2⟩)).ne
    · have un' : (L.trace q).unsent = true := by simpa [L', set_trace, other] using un
      obtain ⟨out, far⟩ := m.unsent q y old un'
      exact ⟨out, fun q' y' hq' => far q' y' (passing hq').2⟩
  · intro resp held
    rcases held with queued | ⟨q, hq⟩
    · exact m.replies resp (.inl queued)
    · exact m.replies resp (.inr ⟨q, (set_sub Trace.replying? rfl hq).2⟩)
  · intro q x payload fault hq settled
    obtain ⟨-, old⟩ := set_sub Trace.settled? rfl settled
    rcases carried hq with ⟨rfl, rfl⟩ | ⟨-, hq⟩
    · simp [L', set_trace] at settled
    · exact m.answered q x payload fault hq old

/-- Taking requests or responses off their queues without passing them on
keeps the invariant: a stale answer discarded, the queues emptied by a Stop. -/
theorem Matched.shrink (m : L.Matched dev) {requests : Ring Request} {responses : Ring Response}
    (exact : requests.Exact) (exact' : responses.Exact)
    (fewer : requests.toList.Sublist L.requests.toList) (fewer' : responses.toList.Sublist L.responses.toList) :
    ({ L with requests, responses } : Exchange).Matched dev := by
  set L' : Exchange := { L with requests, responses }
  have sent : L'.sent.Sublist L.sent := (fewer.append (List.Sublist.refl _)).map _
  have covered : ∀ z, L'.Mentions z → L.Mentions z := fun z held =>
    held.of_covered (fun q x held => .inl ⟨q, held⟩) (fun x queued => .inr (.inl (fewer.subset queued)))
      (fun x inRecord => .inr (.inr inRecord))
  refine ⟨exact, exact', fun z held => m.issued z (covered z held),
    fun z z' held held' => m.coherent z z' (covered z held) (covered z' held'), m.owned, m.once.sublist sent,
    ?_, ?_, ?_, m.board, m.answered⟩
  · intro q x hq
    obtain ⟨out, alone⟩ := m.answering q x hq
    exact ⟨fun inside => out (sent.subset inside), alone⟩
  · intro q y hq un
    obtain ⟨out, far⟩ := m.unsent q y hq un
    exact ⟨fun inside => out (sent.subset inside), far⟩
  · intro resp held
    rcases held with queued | replying
    · exact m.replies resp (.inl (fewer'.subset queued))
    · exact m.replies resp (.inr replying)

theorem Matched.settle (m : L.Matched dev) {p : Party} {r : Request} {payload : String} {fault : Option Fault}
    (carrying : (L.trace p).request? = some r) (answers : L.Answers r payload fault) :
    (L.set p { request? := some r, settled? := some (payload, fault) }).Matched dev := by
  set L' := L.set p { request? := some r, settled? := some (payload, fault) }
  have carried : ∀ q, (L'.trace q).request? = (L.trace q).request? := set_view Trace.request? carrying.symm
  have passing : ∀ {q y}, (L'.trace q).answering? = some y → (L.trace q).answering? = some y :=
    fun held => (set_sub Trace.answering? rfl held).2
  have covered : ∀ z, L'.Mentions z → L.Mentions z := fun z held =>
    held.of_covered (fun q x held => .inl ⟨q, held.imp (fun h => (carried q).symm.trans h) passing⟩)
      (fun x queued => .inr (.inl queued)) (fun x inRecord => .inr (.inr inRecord))
  refine ⟨m.requests, m.responses, fun z held => m.issued z (covered z held),
    fun z z' held held' => m.coherent z z' (covered z held) (covered z' held'), m.owned_of_carried carried, m.once,
    ?_, ?_, ?_, m.board, ?_⟩
  · intro q x hq
    obtain ⟨out, alone⟩ := m.answering q x (passing hq)
    exact ⟨out, fun q' y hq' => alone q' y (passing hq')⟩
  · intro q y hq un
    rw [carried] at hq
    have un' : q ≠ p ∧ (L.trace q).unsent = true := by
      simp only [L', set_trace] at un
      split at un
      · cases un
      · exact ⟨‹_›, un⟩
    obtain ⟨out, far⟩ := m.unsent q y hq un'.2
    exact ⟨out, fun q' y' hq' => far q' y' (passing hq')⟩
  · intro resp held
    rcases held with queued | ⟨q, hq⟩
    · exact m.replies resp (.inl queued)
    · exact m.replies resp (.inr ⟨q, (set_sub Trace.replying? rfl hq).2⟩)
  · intro q x payload' fault' hq settled
    rw [carried] at hq
    rcases (set_some Trace.settled?).1 settled with ⟨rfl, new⟩ | ⟨-, old⟩
    · rw [carrying] at hq
      cases hq
      cases new
      exact answers
    · exact m.answered q x payload' fault' hq old

theorem Matched.take (m : L.Matched dev) {p : Party} {x : Request} (idle : (L.trace p).answering? = none)
    (popped : L.requests.pop.1 = some x) :
    ({ L.set p { L.trace p with answering? := some x } with requests := L.requests.pop.2 } : Exchange).Matched dev := by
  set L' : Exchange := { L.set p { L.trace p with answering? := some x } with requests := L.requests.pop.2 }
  obtain ⟨exact, split⟩ := m.requests.pop
  rw [popped] at split
  have sent : L.sent = x.ticket :: L'.sent := by
    simp [L', Exchange.sent, split]
  have once := m.once
  rw [sent] at once
  obtain ⟨fresh, once⟩ := List.nodup_cons.1 once
  have view : ∀ {β : Type} (f : Trace → β), f { L.trace p with answering? := some x } = f (L.trace p) →
      ∀ q, f (L'.trace q) = f (L.trace q) := fun f same => set_view f same
  have carried := view Trace.request? rfl
  have unsent := view Trace.unsent rfl
  have replying := view Trace.replying? rfl
  have settled := view Trace.settled? rfl
  -- the party passing `x` is the only one, and the others pass requests the queue did not hold
  have passing : ∀ {q y}, (L'.trace q).answering? = some y →
      (q = p ∧ y = x) ∨ (q ≠ p ∧ (L.trace q).answering? = some y) := by
    intro q y held
    rcases (set_some Trace.answering?).1 held with ⟨here, new⟩ | old
    · exact .inl ⟨here, (Option.some.inj new).symm⟩
    · exact .inr old
  have queued : x.ticket ∈ L.sent := by
    rw [sent]
    exact List.mem_cons_self
  have covered : ∀ z, L'.Mentions z → L.Mentions z := fun z held => by
    refine held.of_covered (fun q y held => ?_) (fun y rest => ?_) (fun y inRecord => .inr (.inr inRecord))
    · rcases held with held | held
      · exact .inl ⟨q, .inl ((carried q).symm.trans held)⟩
      · rcases passing held with ⟨-, rfl⟩ | ⟨-, old⟩
        · exact .inr (.inl (by rw [split]; exact List.mem_cons_self))
        · exact .inl ⟨q, .inr old⟩
    · exact .inr (.inl (by rw [split]; exact List.mem_cons_of_mem _ rest))
  refine ⟨exact, m.responses, fun z held => m.issued z (covered z held),
    fun z z' held held' => m.coherent z z' (covered z held) (covered z' held'), m.owned_of_carried carried, once,
    ?_, ?_, ?_, m.board, m.answered_of_settled carried settled (List.Subset.refl _)⟩
  · intro q y hq
    rcases passing hq with ⟨rfl, rfl⟩ | ⟨other, old⟩
    · refine ⟨fresh, fun q' y' hq' same => ?_⟩
      rcases passing hq' with ⟨rfl, -⟩ | ⟨-, old'⟩
      · rfl
      · exact absurd (same ▸ queued) (m.answering q' y' old').1
    · obtain ⟨out, alone⟩ := m.answering q y old
      refine ⟨fun inside => out (sent ▸ List.mem_cons_of_mem _ inside), fun q' y' hq' same => ?_⟩
      rcases passing hq' with ⟨rfl, rfl⟩ | ⟨-, old'⟩
      · exact absurd (same ▸ queued) out
      · exact alone q' y' old' same
  · intro q y hq un
    rw [carried] at hq
    rw [unsent] at un
    obtain ⟨out, far⟩ := m.unsent q y hq un
    refine ⟨fun inside => out (sent ▸ List.mem_cons_of_mem _ inside), fun q' y' hq' same => ?_⟩
    rcases passing hq' with ⟨-, rfl⟩ | ⟨-, old'⟩
    · exact out (same ▸ queued)
    · exact far q' y' old' same
  · intro resp held
    rcases held with queued | ⟨q, hq⟩
    · exact m.replies resp (.inl queued)
    · rw [replying] at hq
      exact m.replies resp (.inr ⟨q, hq⟩)

/-- The board answers the request a party passes to it, and the party goes on
to queue the response. -/
theorem Matched.answer (m : L.Matched dev) {p : Party} {x : Request} (passing : (L.trace p).answering? = some x)
    (w : ω) :
    ({ L.set p { L.trace p with
          answering? := none, replying? := some (Response.of x ((dev.reply x.direction x.payload).run w).1) } with
        served := L.served ++ [(x, ((dev.reply x.direction x.payload).run w).1)] } : Exchange).Matched dev := by
  set reply := ((dev.reply x.direction x.payload).run w).1
  set L' : Exchange := { L.set p { L.trace p with answering? := none, replying? := some (Response.of x reply) } with
    served := L.served ++ [(x, reply)] }
  obtain ⟨fresh, alone⟩ := m.answering p x passing
  have sent : L'.sent = L.sent ++ [x.ticket] := by
    simp [L', Exchange.sent]
  have view : ∀ {β : Type} (f : Trace → β),
      f { L.trace p with answering? := none, replying? := some (Response.of x reply) } = f (L.trace p) →
      ∀ q, f (L'.trace q) = f (L.trace q) := fun f same => set_view f same
  have carried := view Trace.request? rfl
  have unsent := view Trace.unsent rfl
  have settled := view Trace.settled? rfl
  have stopped : ∀ {q y}, (L'.trace q).answering? = some y → q ≠ p ∧ (L.trace q).answering? = some y :=
    set_sub Trace.answering? rfl
  have more : L.served ⊆ L'.served := List.subset_append_left _ _
  have covered : ∀ z, L'.Mentions z → L.Mentions z := fun z held => by
    refine held.of_covered (fun q y held => ?_) (fun y queued => .inr (.inl queued)) (fun y inRecord => ?_)
    · rcases held with held | held
      · exact .inl ⟨q, .inl ((carried q).symm.trans held)⟩
      · exact .inl ⟨q, .inr (stopped held).2⟩
    · simp only [L', List.map_append, List.mem_append, List.map_cons, List.map_nil, List.mem_singleton] at inRecord
      rcases inRecord with old | rfl
      · exact .inr (.inr old)
      · exact .inl ⟨p, .inr passing⟩
  refine ⟨m.requests, m.responses, fun z held => m.issued z (covered z held),
    fun z z' held held' => m.coherent z z' (covered z held) (covered z' held'), m.owned_of_carried carried, ?_, ?_,
    ?_, ?_, ?_, m.answered_of_settled carried settled more⟩
  · rw [sent]
    exact m.once.append (List.nodup_singleton _) (List.disjoint_singleton.2 fresh)
  · intro q y hq
    obtain ⟨other, old⟩ := stopped hq
    obtain ⟨out, alone'⟩ := m.answering q y old
    refine ⟨?_, fun q' y' hq' => alone' q' y' (stopped hq').2⟩
    rw [sent, List.mem_append, List.mem_singleton]
    rintro (inside | same)
    · exact out inside
    · exact other (alone q y old same.symm).symm
  · intro q y hq un
    rw [carried] at hq
    rw [unsent] at un
    obtain ⟨out, far⟩ := m.unsent q y hq un
    refine ⟨?_, fun q' y' hq' => far q' y' (stopped hq').2⟩
    rw [sent, List.mem_append, List.mem_singleton]
    rintro (inside | same)
    · exact out inside
    · exact far p x passing same.symm
  · intro resp held
    rcases held with queued | ⟨q, hq⟩
    · obtain ⟨e, recorded, rfl⟩ := m.replies resp (.inl queued)
      exact ⟨e, more recorded, rfl⟩
    · rcases (set_some Trace.replying?).1 hq with ⟨-, new⟩ | ⟨-, old⟩
      · cases new
        exact ⟨(x, reply), List.mem_append_right _ (List.mem_singleton_self _), rfl⟩
      · obtain ⟨e, recorded, rfl⟩ := m.replies resp (.inr ⟨q, old⟩)
        exact ⟨e, more recorded, rfl⟩
  · intro e recorded
    rcases List.mem_append.1 recorded with old | new
    · exact m.board e old
    · rw [List.mem_singleton] at new
      subst new
      exact ⟨w, rfl⟩

theorem Matched.reply (m : L.Matched dev) {p : Party} {resp : Response} (replying : (L.trace p).replying? = some resp) :
    ({ L.set p { L.trace p with replying? := none } with responses := (L.responses.push resp).2 } :
      Exchange).Matched dev := by
  set L' : Exchange := { L.set p { L.trace p with replying? := none } with responses := (L.responses.push resp).2 }
  obtain ⟨exact, listed⟩ := m.responses.push resp
  have queued : ∀ z ∈ L'.responses.toList, z ∈ L.responses.toList ∨ z = resp := by
    intro z held
    simp only [L', listed] at held
    split at held
    · simpa using held
    · exact .inl held
  have view : ∀ {β : Type} (f : Trace → β), f { L.trace p with replying? := none } = f (L.trace p) →
      ∀ q, f (L'.trace q) = f (L.trace q) := fun f same => set_view f same
  have carried := view Trace.request? rfl
  have passing := view Trace.answering? rfl
  have unsent := view Trace.unsent rfl
  have settled := view Trace.settled? rfl
  have covered : ∀ z, L'.Mentions z → L.Mentions z := fun z held =>
    held.of_covered (fun q y held => .inl ⟨q, by rwa [carried, passing] at held⟩)
      (fun y queued => .inr (.inl queued)) (fun y inRecord => .inr (.inr inRecord))
  refine ⟨m.requests, exact, fun z held => m.issued z (covered z held),
    fun z z' held held' => m.coherent z z' (covered z held) (covered z' held'), m.owned_of_carried carried, m.once,
    ?_, ?_, ?_, m.board, m.answered_of_settled carried settled (List.Subset.refl _)⟩
  · intro q y hq
    rw [passing] at hq
    obtain ⟨out, alone⟩ := m.answering q y hq
    exact ⟨out, fun q' y' hq' => alone q' y' (by rwa [passing] at hq')⟩
  · intro q y hq un
    rw [carried] at hq
    rw [unsent] at un
    obtain ⟨out, far⟩ := m.unsent q y hq un
    exact ⟨out, fun q' y' hq' => far q' y' (by rwa [passing] at hq')⟩
  · intro z held
    rcases held with inQueue | ⟨q, hq⟩
    · rcases queued z inQueue with old | rfl
      · exact m.replies z (.inl old)
      · exact m.replies z (.inr ⟨p, replying⟩)
    · exact m.replies z (.inr ⟨q, (set_sub Trace.replying? rfl hq).2⟩)

/-- How one step of a run can change what the settings invariant reads. -/
inductive Moves (dev : Devices ω) : Exchange → Exchange → Prop
  | stay (L : Exchange) : Moves dev L L
  /-- A settings call makes its request. -/
  | issue (L : Exchange) (p : Party) (r : Request) (fresh : r.ticket = L.tickets + 1) :
    Moves dev L { L.set p { request? := some r, unsent := true } with tickets := L.tickets + 1 }
  /-- It pushes the request. -/
  | offer (L : Exchange) (p : Party) (r : Request) (offering : L.trace p = { request? := some r, unsent := true }) :
    Moves dev L { L.set p (if (L.requests.push r).1 then { request? := some r } else L.trace p) with
      requests := (L.requests.push r).2 }
  /-- It drops a response to another request. -/
  | discard (L : Exchange) : Moves dev L { L with responses := L.responses.pop.2 }
  /-- It takes the response to its own request and returns what it says. -/
  | collect (L : Exchange) (p : Party) (r : Request) (resp : Response)
    (collecting : L.trace p = { request? := some r }) (popped : L.responses.pop.1 = some resp)
    (own : resp.seq = r.seq) :
    Moves dev L { L.set p
        { request? := some r, settled? := some (settingsAnswer r.direction r.payload resp.payload resp.error) } with
      responses := L.responses.pop.2 }
  /-- It gives up as its context ends. -/
  | giveUp (L : Exchange) (p : Party) (r : Request) (e : Expiry) (what : String)
    (carrying : (L.trace p).request? = some r) :
    Moves dev L (L.set p { request? := some r, settled? := some ("", some (e.fault what)) })
  /-- A Stop empties both queues. -/
  | drain (L : Exchange) : Moves dev L { L with requests := L.requests.drain.2, responses := L.responses.drain.2 }
  /-- The party serving the queue takes a request, -/
  | take (L : Exchange) (p : Party) (x : Request) (idle : (L.trace p).answering? = none)
    (popped : L.requests.pop.1 = some x) :
    Moves dev L { L.set p { L.trace p with answering? := some x } with requests := L.requests.pop.2 }
  /-- passes it to the board, -/
  | answer (L : Exchange) (p : Party) (x : Request) (w : ω) (passing : (L.trace p).answering? = some x) :
    Moves dev L { L.set p { L.trace p with
        answering? := none, replying? := some (Response.of x ((dev.reply x.direction x.payload).run w).1) } with
      served := L.served ++ [(x, ((dev.reply x.direction x.payload).run w).1)] }
  /-- and queues the board's response. -/
  | reply (L : Exchange) (p : Party) (resp : Response) (replying : (L.trace p).replying? = some resp) :
    Moves dev L { L.set p { L.trace p with replying? := none } with responses := (L.responses.push resp).2 }

theorem Moves.of_eq {L' L'' : Exchange} (moves : Moves dev L L') (same : L' = L'') : Moves dev L L'' :=
  same ▸ moves

theorem Moves.tickets_le {L' : Exchange} (moves : Moves dev L L') : L.tickets ≤ L'.tickets := by
  cases moves with
  | issue => exact Nat.le_succ _
  | _ => exact Nat.le_refl _

theorem Moves.tickets_le_succ {L' : Exchange} (moves : Moves dev L L') : L'.tickets ≤ L.tickets + 1 := by
  cases moves with
  | issue => exact Nat.le_refl _
  | _ => exact Nat.le_succ _

/-- A settings caller takes a response off the queue only when its ticket is
its own request's; below `2^64` calls the two tickets are then one, so the
response is the board's reply to that very request. -/
theorem Matched.collect (m : L.Matched dev) {p : Party} {r : Request} {resp : Response}
    (collecting : L.trace p = { request? := some r }) (popped : L.responses.pop.1 = some resp)
    (own : resp.seq = r.seq) (small : L.tickets < 2 ^ 64) :
    L.Answers r (settingsAnswer r.direction r.payload resp.payload resp.error).1
      (settingsAnswer r.direction r.payload resp.payload resp.error).2 := by
  have queued : resp ∈ L.responses.toList := by
    rw [(m.responses.pop).2, popped]
    exact List.mem_append_left _ (List.mem_singleton_self _)
  obtain ⟨e, recorded, rfl⟩ := m.replies resp (.inl queued)
  have mine : L.Mentions r := .inl ⟨p, .inl (by rw [collecting])⟩
  have theirs : L.Mentions e.1 := .inr (.inr (List.mem_map_of_mem recorded))
  -- both tickets are below 2^64, so equal sequence numbers mean equal tickets
  have same : e.1.ticket = r.ticket := by
    have below := m.issued e.1 theirs
    have below' := m.issued r mine
    simp only [Response.seq, Response.of, Request.seq, Nat.toUInt64_eq] at own
    have := congrArg UInt64.toNat own
    simp only [UInt64.toNat_ofNat'] at this
    rwa [Nat.mod_eq_of_lt (by omega), Nat.mod_eq_of_lt (by omega)] at this
  obtain rfl := m.coherent e.1 r theirs mine same
  exact .inr ⟨e.2, recorded, rfl⟩

theorem Matched.moves (m : L.Matched dev) {L' : Exchange} (moves : Moves dev L L') (small : L.tickets < 2 ^ 64) :
    L'.Matched dev := by
  cases moves with
  | stay => exact m
  | issue p r fresh => exact m.issue fresh
  | offer p r offering => exact m.offer offering
  | discard =>
    obtain ⟨exact, split⟩ := m.responses.pop
    exact m.shrink m.requests exact (List.Sublist.refl _) (split ▸ List.sublist_append_right _ _)
  | collect p r resp collecting popped own =>
    have carrying : (L.trace p).request? = some r := by rw [collecting]
    have settled := m.settle carrying (m.collect collecting popped own small)
    obtain ⟨exact, split⟩ := m.responses.pop
    exact settled.shrink m.requests exact (List.Sublist.refl _) (split ▸ List.sublist_append_right _ _)
  | giveUp p r e what carrying => exact m.settle carrying (.inl ⟨e, what, rfl⟩)
  | drain =>
    obtain ⟨exact, emptied⟩ := m.requests.drain
    obtain ⟨exact', emptied'⟩ := m.responses.drain
    exact m.shrink exact exact' (emptied ▸ List.nil_sublist _) (emptied' ▸ List.nil_sublist _)
  | take p x idle popped => exact m.take idle popped
  | answer p x w passing => exact m.answer passing w
  | reply p resp replying => exact m.reply replying

end Exchange

end Acquisition.Driver
