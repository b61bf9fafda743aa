import Acquisition.Proofs.Driver.Calls
import Mathlib
/-! The driver's locks and the positions of its callers and threads, and the discipline of its four
queues that follows: no two parties are ever inside pushes, or inside pops, of one queue. -/
namespace Acquisition.Driver

/-- What the invariant reads off a caller's position: the locks it holds
between its steps and how far its Start or Stop has come. -/
structure Role where
  lock : Bool := false
  settings : Bool := false
  stop : Bool := false
  joined : Bool := false
  cleared : Bool := false
  inline : Bool := false
  announcing : Bool := false
  launching : Bool := false
  deriving DecidableEq

namespace Caller

def role : Caller → Role
  | .announcing => { lock := true, announcing := true }
  | .launching => { lock := true, launching := true }
  | .cancelling _ | .joining _ => { stop := true }
  | .clearing _ => { stop := true, joined := true }
  | .awaiting _ | .tearingDown _ => { stop := true, joined := true, cleared := true }
  | .draining _ => { settings := true, stop := true, joined := true, cleared := true }
  | .offering _ | .stalled _ | .sleeping _ _ | .waiting _ | .collecting _ => { settings := true }
  | .serving _ _ _ => { settings := true, inline := true }
  | .idle | .calling _ | .returned _ => {}

@[simp] theorem role_idle : idle.role = {} := rfl
@[simp] theorem role_returned (o : Outcome) : (returned o).role = {} := rfl
@[simp] theorem role_announcing : announcing.role = { lock := true, announcing := true } := rfl
@[simp] theorem role_launching : launching.role = { lock := true, launching := true } := rfl
@[simp] theorem role_cancelling (close : Bool) : (cancelling close).role = { stop := true } := rfl
@[simp] theorem role_clearing (close : Bool) : (clearing close).role = { stop := true, joined := true } := rfl
@[simp] theorem role_awaiting (close : Bool) :
    (awaiting close).role = { stop := true, joined := true, cleared := true } := rfl
@[simp] theorem role_draining (close : Bool) :
    (draining close).role = { settings := true, stop := true, joined := true, cleared := true } := rfl
@[simp] theorem role_tearingDown (close : Bool) :
    (tearingDown close).role = { stop := true, joined := true, cleared := true } := rfl
@[simp] theorem role_offering (r : Request) : (offering r).role = { settings := true } := rfl
@[simp] theorem role_serving (r : Request) (queued : Bool) (step : Serving) :
    (serving r queued step).role = { settings := true, inline := true } := rfl

/-! How the parts of a role go together. -/

@[grind →] theorem stop_of_joined {c : Caller} (joined : c.role.joined) : c.role.stop := by
  cases c <;> simp_all [role]

@[grind →] theorem joined_of_cleared {c : Caller} (cleared : c.role.cleared) : c.role.joined := by
  cases c <;> simp_all [role]

@[grind →] theorem lock_of_announcing {c : Caller} (announcing : c.role.announcing) : c.role.lock := by
  cases c <;> simp_all [role]

@[grind →] theorem lock_of_launching {c : Caller} (launching : c.role.launching) : c.role.lock := by
  cases c <;> simp_all [role]

@[grind →] theorem settings_of_inline {c : Caller} (inline : c.role.inline) : c.role.settings := by
  cases c <;> simp_all [role]

end Caller

/-- The driver's four queues: batches read, button events, settings requests
and their answers. -/
inductive Queue where
  | records
  | events
  | requests
  | responses
  deriving DecidableEq

/-- Who touches the queues: the session's threads and the callers. -/
inductive Party where
  | fetcher
  | poller
  | controller
  | caller (i : Nat)
  deriving DecidableEq

namespace Caller

/-- The queue a caller is about to push on: its request, or an answer it
serves itself. -/
def pushes : Caller → Queue → Bool
  | .offering _, .requests => true
  | .serving _ _ (.replying _), .responses => true
  | _, _ => false

/-- The queues a caller is about to pop from; a Stop drains all four. -/
def pops : Caller → Queue → Bool
  | .draining _, _ => true
  | .serving _ _ .popping, .requests => true
  | .collecting _, .responses => true
  | _, _ => false

@[simp] theorem pushes_records (c : Caller) : c.pushes .records = false := by
  cases c <;> simp [pushes]

@[simp] theorem pushes_events (c : Caller) : c.pushes .events = false := by
  cases c <;> simp [pushes]

theorem settings_of_pushes {c : Caller} {q : Queue} (pushing : c.pushes q) : c.role.settings := by
  cases c <;> cases q <;> simp_all [pushes, role]

theorem inline_of_pushes_responses {c : Caller} (pushing : c.pushes .responses) : c.role.inline := by
  cases c <;> simp_all [pushes, role]

theorem settings_of_pops {c : Caller} {q : Queue} (popping : c.pops q) (settled : q = .requests ∨ q = .responses) :
    c.role.settings := by
  cases c <;> cases q <;> simp_all [pops, role]

theorem joined_of_pops {c : Caller} {q : Queue} (popping : c.pops q) (session : q = .records ∨ q = .events) :
    c.role.joined := by
  cases c <;> cases q <;> simp_all [pops, role]

theorem idle_of_pops_requests {c : Caller} (popping : c.pops .requests) : c.role.inline ∨ c.role.cleared := by
  cases c <;> simp_all [pops, role]

end Caller

namespace Shared

variable {ω : Type}

/-- The invariant of the locks and positions. -/
structure Sound (s : Shared ω) : Prop where
  /-- Between steps the driver's lock is held by a Start that opened a session. -/
  lock : ∀ i, s.owner = some i ↔ (s.callers i).role.lock
  settings : ∀ i, s.settingsOwner = some i ↔ (s.callers i).role.settings
  oneStop : ∀ i j, (s.callers i).role.stop → (s.callers j).role.stop → i = j
  stopping : s.stopping ↔ ∃ i, (s.callers i).role.stop
  stopActive : ∀ i, (s.callers i).role.stop → s.driver.active
  ownerActive : ∀ i, (s.callers i).role.lock → s.driver.active ∧ s.stopping = false
  /-- Goroutines run only while the session is marked running and no Stop has joined them. -/
  alive : s.joined = false → s.running ∧ ∀ i, (s.callers i).role.joined = false
  running : s.running → s.driver.active ∧ ∀ i, (s.callers i).role.announcing = false ∧
    (s.callers i).role.cleared = false
  launching : ∀ i, (s.callers i).role.launching → s.running ∧ s.joined
  announcing : ∀ i, (s.callers i).role.announcing → s.running = false ∧ s.joined
  /-- A caller serves the request queue itself only while no session runs. -/
  inline : ∀ i, (s.callers i).role.inline → s.running = false

theorem Sound.init (d : Driver ω) : (init d).Sound := by
  constructor <;> simp [Shared.init, Caller.role, joined]

/-- A step that keeps every role, the locks' owners, the flags and whether a
session is active, and that ends threads at most, keeps the invariant. -/
theorem Sound.moved {s s' : Shared ω} (sound : s.Sound) (roles : ∀ j, (s'.callers j).role = (s.callers j).role)
    (owner : s'.owner = s.owner) (settingsOwner : s'.settingsOwner = s.settingsOwner)
    (stopping : s'.stopping = s.stopping) (running : s'.running = s.running)
    (active : s'.driver.active = s.driver.active) (joined : s.joined = true → s'.joined = true) : s'.Sound where
  lock i := by rw [owner, roles]; exact sound.lock i
  settings i := by rw [settingsOwner, roles]; exact sound.settings i
  oneStop i j := by rw [roles, roles]; exact sound.oneStop i j
  stopping := by simp only [stopping, roles]; exact sound.stopping
  stopActive i := by rw [roles, active]; exact sound.stopActive i
  ownerActive i := by rw [roles, active, stopping]; exact sound.ownerActive i
  alive exited := by
    have : s.joined = false := by cases h : s.joined <;> simp_all
    simp only [running, roles]
    exact sound.alive this
  running run := by
    simp only [active, roles]
    exact sound.running (running ▸ run)
  launching i := by
    rw [roles, running]
    exact fun launching => (sound.launching i launching).imp_right joined
  announcing i := by
    rw [roles, running]
    exact fun announcing => (sound.announcing i announcing).imp_right joined
  inline i := by rw [roles, running]; exact sound.inline i

theorem roles_setCaller {s : Shared ω} {i : Nat} {c : Caller} (same : c.role = (s.callers i).role) (j : Nat) :
    ((s.setCaller i c).callers j).role = (s.callers j).role := by
  simp only [setCaller]
  split <;> simp_all

theorem Sound.retarget {s : Shared ω} (sound : s.Sound) {i : Nat} {c : Caller} (same : c.role = (s.callers i).role) :
    (s.setCaller i c).Sound :=
  sound.moved (roles_setCaller same) rfl rfl rfl rfl rfl id

/-- A call that returns at once, having changed the driver but not whether a
session is active. -/
theorem Sound.settle {s : Shared ω} (sound : s.Sound) {i : Nat} (hc : (s.callers i).role = {}) (o : Outcome)
    {d : Driver ω} (same : d.active = s.driver.active) : { s.setCaller i (.returned o) with driver := d }.Sound :=
  sound.moved (roles_setCaller (by rw [hc]; rfl)) rfl rfl rfl rfl same id

/-! The steps that move a lock or a flag. Each is checked field by field
against the invariant before it; the bookkeeping over the other callers is
routine and left to `grind`. -/

theorem Sound.release {s : Shared ω} (sound : s.Sound) {i : Nat} (role : (s.callers i).role = { settings := true })
    {c : Caller} (idle : c.role = {}) : { s.setCaller i c with settingsOwner := none }.Sound := by
  obtain ⟨lock, settings, oneStop, stopping, stopActive, ownerActive, alive, running, launching, announcing,
    inline⟩ := sound
  constructor <;> simp only [setCaller, joined, apply_ite Caller.role] at * <;> grind -ring -linarith

/-- A Start that holds the driver's lock marks the session running once the
settings lock is free. -/
theorem Sound.announce {s : Shared ω} (sound : s.Sound) {i : Nat} (hc : s.callers i = .announcing)
    (free : s.settingsOwner = none) : { s.setCaller i .launching with running := true }.Sound := by
  have role : (s.callers i).role = { lock := true, announcing := true } := by rw [hc]; rfl
  clear hc
  obtain ⟨lock, settings, oneStop, stopping, stopActive, ownerActive, alive, running, launching, announcing,
    inline⟩ := sound
  constructor <;> simp only [setCaller, joined, apply_ite Caller.role, Caller.role_launching] at * <;> grind -ring -linarith

theorem Sound.launch {s : Shared ω} (sound : s.Sound) {i : Nat} (hc : s.callers i = .launching) (o : Outcome) :
    { s.setCaller i (.returned o) with fetcher := .reading, poller := .polling, controller := .looping,
                                       owner := none }.Sound := by
  have role : (s.callers i).role = { lock := true, launching := true } := by rw [hc]; rfl
  clear hc
  obtain ⟨lock, settings, oneStop, stopping, stopActive, ownerActive, alive, running, launching, announcing,
    inline⟩ := sound
  constructor <;> simp only [setCaller, joined, apply_ite Caller.role, Caller.role_returned] at * <;> grind -ring -linarith

theorem Sound.join {s : Shared ω} (sound : s.Sound) {i : Nat} {close : Bool} (hc : s.callers i = .joining close)
    (ended : s.joined = true) : (s.setCaller i (.clearing close)).Sound := by
  have role : (s.callers i).role = { stop := true } := by rw [hc]; rfl
  clear hc
  obtain ⟨lock, settings, oneStop, stopping, stopActive, ownerActive, alive, running, launching, announcing,
    inline⟩ := sound
  constructor <;> simp only [setCaller, joined, apply_ite Caller.role, Caller.role_clearing] at * <;> grind -ring -linarith

theorem Sound.clear {s : Shared ω} (sound : s.Sound) {i : Nat} {close : Bool} (hc : s.callers i = .clearing close) :
    { s.setCaller i (.awaiting close) with running := false }.Sound := by
  have role : (s.callers i).role = { stop := true, joined := true } := by rw [hc]; rfl
  clear hc
  obtain ⟨lock, settings, oneStop, stopping, stopActive, ownerActive, alive, running, launching, announcing,
    inline⟩ := sound
  constructor <;> simp only [setCaller, joined, apply_ite Caller.role, Caller.role_awaiting] at * <;> grind -ring -linarith

theorem Sound.await {s : Shared ω} (sound : s.Sound) {i : Nat} {close : Bool} (hc : s.callers i = .awaiting close)
    (free : s.settingsOwner = none) : { s.setCaller i (.draining close) with settingsOwner := some i }.Sound := by
  have role : (s.callers i).role = { stop := true, joined := true, cleared := true } := by rw [hc]; rfl
  clear hc
  obtain ⟨lock, settings, oneStop, stopping, stopActive, ownerActive, alive, running, launching, announcing,
    inline⟩ := sound
  constructor <;> simp only [setCaller, joined, apply_ite Caller.role, Caller.role_draining] at * <;> grind -ring -linarith

theorem Sound.drain {s : Shared ω} (sound : s.Sound) {i : Nat} {close : Bool} (hc : s.callers i = .draining close) :
    { s.setCaller i (.tearingDown close) with
        driver := s.driver.drainQueues, requests := s.requests.drain.2, responses := s.responses.drain.2,
        settingsOwner := none }.Sound := by
  have role : (s.callers i).role = { settings := true, stop := true, joined := true, cleared := true } := by
    rw [hc]; rfl
  clear hc
  obtain ⟨lock, settings, oneStop, stopping, stopActive, ownerActive, alive, running, launching, announcing,
    inline⟩ := sound
  constructor <;> simp only [setCaller, joined, apply_ite Caller.role, Caller.role_tearingDown, drainQueues, Driver.active] at * <;>
    grind -ring -linarith

theorem Sound.tearDown (dev : Devices ω) {s : Shared ω} (sound : s.Sound) {i : Nat} {close : Bool}
    (hc : s.callers i = .tearingDown close) (free : s.owner = none) : (s.tearDown dev i close).Sound := by
  unfold Shared.tearDown
  split
  · exact sound
  rename_i h _
  have closed : ((teardown dev h).run' s.driver).2.active = false := by
    simp [teardown_state, Driver.active]
  have role : (s.callers i).role = { stop := true, joined := true, cleared := true } := by rw [hc]; rfl
  clear hc
  obtain ⟨lock, settings, oneStop, stopping, stopActive, ownerActive, alive, running, launching, announcing,
    inline⟩ := sound
  constructor <;> simp only [setCaller, joined, apply_ite Caller.role, Caller.role_returned] at * <;> grind -ring -linarith

theorem Sound.enterInline {s : Shared ω} (sound : s.Sound) {i : Nat} (role : (s.callers i).role = { settings := true })
    (idle : s.running = false) (r : Request) (queued : Bool) :
    (s.setCaller i (.serving r queued .popping)).Sound := by
  obtain ⟨lock, settings, oneStop, stopping, stopActive, ownerActive, alive, running, launching, announcing,
    inline⟩ := sound
  constructor <;> simp only [setCaller, joined, apply_ite Caller.role, Caller.role_serving] at * <;> grind -ring -linarith

theorem Sound.leaveInline {s : Shared ω} (sound : s.Sound) {i : Nat}
    (role : (s.callers i).role = { settings := true, inline := true }) {c : Caller}
    (waits : c.role = { settings := true }) : (s.setCaller i c).Sound := by
  obtain ⟨lock, settings, oneStop, stopping, stopActive, ownerActive, alive, running, launching, announcing,
    inline⟩ := sound
  constructor <;> simp only [setCaller, joined, apply_ite Caller.role] at * <;> grind -ring -linarith

theorem Sound.open {s : Shared ω} (sound : s.Sound) {i : Nat} (hc : (s.callers i).role = {})
    (free : s.owner = none) (idle : s.driver.active = false) {d : Driver ω} (opened : d.active = true) :
    { s.setCaller i .announcing with driver := d, owner := some i, work := true, cancelled := false,
                                     opened := s.opened + 1 }.Sound := by
  obtain ⟨lock, settings, oneStop, stopping, stopActive, ownerActive, alive, running, launching, announcing,
    inline⟩ := sound
  constructor <;> simp only [setCaller, joined, apply_ite Caller.role, Caller.role_announcing] at * <;> grind -ring -linarith

theorem Sound.startStop {s : Shared ω} (sound : s.Sound) {i : Nat} (hc : (s.callers i).role = {})
    (free : s.owner = none) (active : s.driver.active = true) (first : s.stopping = false) (close : Bool) :
    { s.setCaller i (.cancelling close) with stopping := true, work := false }.Sound := by
  obtain ⟨lock, settings, oneStop, stopping, stopActive, ownerActive, alive, running, launching, announcing,
    inline⟩ := sound
  constructor <;> simp only [setCaller, joined, apply_ite Caller.role, Caller.role_cancelling] at * <;> grind -ring -linarith

theorem Sound.acquire {s : Shared ω} (sound : s.Sound) {i : Nat} (hc : (s.callers i).role = {})
    (free : s.settingsOwner = none) (r : Request) (tickets : Nat) :
    { s.setCaller i (.offering r) with tickets, settingsOwner := some i }.Sound := by
  obtain ⟨lock, settings, oneStop, stopping, stopActive, ownerActive, alive, running, launching, announcing,
    inline⟩ := sound
  constructor <;> simp only [setCaller, joined, apply_ite Caller.role, Caller.role_offering] at * <;> grind -ring -linarith

/-! ### Every step -/

theorem Sound.begin (dev : Devices ω) {s : Shared ω} (sound : s.Sound) {i : Nat} (hc : (s.callers i).role = {})
    (c : Call) : (s.begin dev i c).Sound := by
  cases c with
  | start =>
    simp only [Shared.begin]
    split
    · exact sound
    rename_i taken
    rcases started : (start dev).run' s.driver with ⟨_ | ⟨⟩, d⟩
    · exact sound.settle hc _ (by rw [Driver.active, Driver.active, start_error_session started])
    · obtain ⟨idle, -, -, rfl⟩ := start_success started
      exact sound.open hc (by simpa using taken) idle (by simp [Driver.active])
  | stop close =>
    simp only [Shared.begin]
    split
    · exact sound
    rename_i taken
    rcases refusal : stopRefusal s.driver s.stopping with _ | f
    · obtain ⟨h, held, first, -⟩ := stopRefusal_none refusal
      exact sound.startStop hc (by simpa using taken) (by simp [Driver.active, held]) first close
    · exact sound.retarget (by rw [hc]; rfl)
  | configure c =>
    simp only [Shared.begin]
    split
    · exact sound
    have same := congrArg Driver.session (change_reconfigures c s.driver).eq
    exact sound.settle hc _ (by rw [Driver.active, Driver.active, same])
  | query q =>
    simp only [Shared.begin]
    split
    · exact sound
    · exact sound.retarget (by rw [hc]; rfl)
  | settings direction payload =>
    simp only [Shared.begin]
    split
    · exact sound
    · rename_i taken
      exact sound.acquire hc (by simpa using taken) _ _

/-- Serving the request queue touches the queues, the board and the record of
what it served. -/
theorem serve_frame (dev : Devices ω) (s : Shared ω) (step : Serving) :
    (s.serve dev step).2.callers = s.callers ∧ (s.serve dev step).2.owner = s.owner ∧
      (s.serve dev step).2.settingsOwner = s.settingsOwner ∧ (s.serve dev step).2.stopping = s.stopping ∧
      (s.serve dev step).2.running = s.running ∧ (s.serve dev step).2.driver.session = s.driver.session ∧
      (s.serve dev step).2.joined = s.joined := by
  unfold Shared.serve
  split
  · split <;> exact ⟨rfl, rfl, rfl, rfl, rfl, rfl, rfl⟩
  · exact ⟨rfl, rfl, rfl, rfl, rfl, rfl, rfl⟩
  · exact ⟨rfl, rfl, rfl, rfl, rfl, rfl, rfl⟩

theorem Sound.serve (dev : Devices ω) {s : Shared ω} (sound : s.Sound) (step : Serving) :
    (s.serve dev step).2.Sound := by
  obtain ⟨callers, owner, settingsOwner, stopping, running, session, joined⟩ := serve_frame dev s step
  exact sound.moved (fun j => by rw [callers]) owner settingsOwner stopping running
    (by rw [Driver.active, Driver.active, session]) (fun ended => joined ▸ ended)

theorem Sound.resume (dev : Devices ω) {s : Shared ω} (sound : s.Sound) (i : Nat) (quit : Option Expiry) :
    (s.resume dev i quit).Sound := by
  cases hc : s.callers i with
  | idle | returned _ =>
    simp only [Shared.resume, hc]
    exact sound
  | calling c =>
    simp only [Shared.resume, hc]
    exact sound.begin dev (by rw [hc]; rfl) c
  | announcing =>
    simp only [Shared.resume, hc]
    split
    · exact sound
    · rename_i free
      exact sound.announce hc (by simpa using free)
  | launching =>
    simp only [Shared.resume, hc]
    exact sound.launch hc _
  | cancelling close =>
    simp only [Shared.resume, hc]
    exact sound.moved (roles_setCaller (by rw [hc]; rfl)) rfl rfl rfl rfl rfl id
  | joining close =>
    simp only [Shared.resume, hc]
    split
    · exact sound.join hc ‹_›
    · exact sound
  | clearing close =>
    simp only [Shared.resume, hc]
    exact sound.clear hc
  | awaiting close =>
    simp only [Shared.resume, hc]
    split
    · exact sound
    · rename_i free
      exact sound.await hc (by simpa using free)
  | draining close =>
    simp only [Shared.resume, hc]
    exact sound.drain hc
  | tearingDown close =>
    simp only [Shared.resume, hc]
    split
    · exact sound
    · rename_i free
      exact sound.tearDown dev hc (by simpa using free)
  | offering r =>
    simp only [Shared.resume, hc]
    split <;> exact sound.moved (roles_setCaller (by rw [hc]; rfl)) rfl rfl rfl rfl rfl id
  | stalled r =>
    simp only [Shared.resume, hc]
    cases running : s.running
    · exact sound.enterInline (by rw [hc]; rfl) running r false
    · exact sound.retarget (by rw [hc]; rfl)
  | sleeping r queued =>
    simp only [Shared.resume, hc]
    cases quit with
    | some e => exact sound.release (by rw [hc]; rfl) rfl
    | none => exact sound.retarget (by cases queued <;> simp [hc, Caller.role])
  | waiting r =>
    simp only [Shared.resume, hc]
    cases running : s.running
    · exact sound.enterInline (by rw [hc]; rfl) running r true
    · exact sound.retarget (by rw [hc]; rfl)
  | collecting r =>
    simp only [Shared.resume, hc]
    split
    · exact sound.moved (roles_setCaller (by rw [hc]; rfl)) rfl rfl rfl rfl rfl id
    · split
      · exact sound.moved (roles_setCaller (by rw [hc])) rfl rfl rfl rfl rfl id
      · -- the caller's own answer: it returns and gives the settings lock back
        rename_i resp q _ _
        have kept : { s with responses := q }.Sound := sound.moved (fun _ => rfl) rfl rfl rfl rfl rfl id
        exact kept.release (by show (s.callers i).role = _; rw [hc]; rfl) rfl
  | serving r queued step =>
    simp only [Shared.resume, hc]
    have served := sound.serve dev step
    have same : (s.serve dev step).2.callers i = .serving r queued step := by
      rw [(serve_frame dev s step).1, hc]
    split
    · rename_i next s' result
      have served' : s'.Sound := by rw [result] at served; exact served
      have same' : s'.callers i = .serving r queued step := by rw [result] at same; exact same
      exact served'.retarget (by rw [same']; rfl)
    · rename_i s' result
      have served' : s'.Sound := by rw [result] at served; exact served
      have same' : s'.callers i = .serving r queued step := by rw [result] at same; exact same
      exact served'.leaveInline (by rw [same']; rfl) (by split <;> rfl)

/-! The threads touch no caller, lock or flag, and whether a session is
active; each does nothing once it has exited, so they end only while not yet
joined. -/

theorem Sound.fetch (dev : Devices ω) {s : Shared ω} (sound : s.Sound) : (s.fetch dev).Sound := by
  unfold Shared.fetch
  cases hf : s.fetcher
  · exact sound
  all_goals
    have live : s.joined = false := by simp [joined, hf]
    dsimp only
    repeat' split
    all_goals exact sound.moved (fun _ => rfl) rfl rfl rfl rfl (by simp [Driver.active]) (by simp [live])

theorem Sound.poll {s : Shared ω} (sound : s.Sound) : s.poll.Sound := by
  unfold Shared.poll
  cases hp : s.poller with
  | exited | crashed => exact sound
  | polling | flushing =>
    exact sound.moved (fun _ => rfl) rfl rfl rfl rfl (by simp [Driver.active]) (by simp [joined, hp])
  | popping =>
    rcases polled : s.driver.pollOnce with _ | ⟨busy, d⟩
    · exact sound.moved (fun _ => rfl) rfl rfl rfl rfl rfl (by simp [joined, hp])
    · exact sound.moved (fun _ => rfl) rfl rfl rfl rfl (by simp [Driver.active, (pollOnce_frame polled).1])
        (by simp [joined, hp])

theorem Sound.control (dev : Devices ω) {s : Shared ω} (sound : s.Sound) : (s.control dev).Sound := by
  unfold Shared.control
  cases hc : s.controller with
  | exited => exact sound
  | looping =>
    dsimp only
    split
    · exact sound.moved (fun _ => rfl) rfl rfl rfl rfl rfl (by simp [joined, hc])
    · exact sound.moved (fun _ => rfl) rfl rfl rfl rfl rfl (by simp [joined, hc])
  | queueing events =>
    exact sound.moved (fun _ => rfl) rfl rfl rfl rfl (by simp [Driver.active]) (by simp [joined, hc])
  | serving step =>
    obtain ⟨callers, owner, settingsOwner, stopping, running, session, -⟩ := serve_frame dev s step
    dsimp only
    rcases served : s.serve dev step with ⟨_ | next, s'⟩
    all_goals
      rw [served] at callers owner settingsOwner stopping running session
      exact sound.moved (fun j => by rw [← callers]) owner settingsOwner stopping running
        (by rw [Driver.active, Driver.active, ← session]) (by simp [joined, hc])

theorem Sound.step (dev : Devices ω) {s : Shared ω} (sound : s.Sound) (a : Action) : (s.step dev a).Sound := by
  cases a with
  | call i c =>
    simp only [Shared.step]
    split
    · rename_i idle
      exact sound.retarget (by simp [idle, Caller.role])
    · exact sound
  | resume i quit => exact sound.resume dev i quit
  | fetch => exact sound.fetch dev
  | poll => exact sound.poll
  | control => exact sound.control dev

theorem Sound.run (dev : Devices ω) {s : Shared ω} (sound : s.Sound) (actions : List Action) :
    (s.run dev actions).Sound := by
  induction actions generalizing s with
  | nil => exact sound
  | cons a rest ih => exact ih (sound.step dev a)

/-! ### The queue discipline -/

/-- Whether `p` is inside a push on queue `q`: it has taken the step that
leads to the push and not yet the push. -/
def pushing (s : Shared ω) (q : Queue) : Party → Bool
  | .fetcher => q == .records && (s.fetcher matches .pushing _)
  | .poller => false
  | .controller =>
    (q == .events && (s.controller matches .queueing _)) ||
      (q == .responses && (s.controller matches .serving (.replying _)))
  | .caller i => (s.callers i).pushes q

/-- Whether `p` is inside a pop, a batch pop or a drain of queue `q`. -/
def popping (s : Shared ω) (q : Queue) : Party → Bool
  | .fetcher => q == .events && (s.fetcher matches .dispatching)
  | .poller => q == .records && (s.poller matches .popping)
  | .controller => q == .requests && (s.controller matches .serving .popping)
  | .caller i => (s.callers i).pops q

theorem Sound.running_of_controller {s : Shared ω} (sound : s.Sound) (live : s.controller ≠ .exited) :
    s.running := by
  have : s.joined = false := by
    simp only [joined, Bool.and_eq_false_iff]
    right
    cases h : s.controller <;> simp_all
  exact (sound.alive this).1

theorem Sound.exited_of_joined {s : Shared ω} (sound : s.Sound) {i : Nat} (joined : (s.callers i).role.joined) :
    s.fetcher = .exited ∧ s.poller = .exited ∧ s.controller = .exited := by
  have ended : s.joined = true := by
    cases h : s.joined
    · simp [(sound.alive h).2 i] at joined
    · rfl
  simp only [Shared.joined, Bool.and_eq_true, beq_iff_eq] at ended
  obtain ⟨⟨fetcher, poller⟩, controller⟩ := ended
  refine ⟨?_, poller, ?_⟩
  · revert fetcher; cases s.fetcher <;> simp
  · revert controller; cases s.controller <;> simp

theorem Sound.idle_of_cleared {s : Shared ω} (sound : s.Sound) {i : Nat} (cleared : (s.callers i).role.cleared) :
    s.running = false := by
  cases h : s.running
  · rfl
  · simp [((sound.running h).2 i).2] at cleared

theorem Sound.same_of_settings {s : Shared ω} (sound : s.Sound) {i j : Nat} (held : (s.callers i).role.settings)
    (held' : (s.callers j).role.settings) : i = j := by
  have := ((sound.settings i).mpr held).symm.trans ((sound.settings j).mpr held')
  simpa using this

/-! Who is inside each queue's operations. -/

theorem Sound.pushing_records {s : Shared ω} {p : Party} (pushes : s.pushing .records p) : p = .fetcher := by
  cases p <;> simp_all [pushing]

theorem Sound.pushing_events {s : Shared ω} {p : Party} (pushes : s.pushing .events p) : p = .controller := by
  cases p <;> simp_all [pushing]

theorem Sound.pushing_requests {s : Shared ω} (sound : s.Sound) {p : Party} (pushes : s.pushing .requests p) :
    ∃ i, p = .caller i ∧ s.settingsOwner = some i := by
  cases p with
  | caller i => exact ⟨i, rfl, (sound.settings i).mpr (Caller.settings_of_pushes pushes)⟩
  | _ => simp [pushing] at pushes

theorem Sound.pushing_responses {s : Shared ω} (sound : s.Sound) {p : Party} (pushes : s.pushing .responses p) :
    (p = .controller ∧ s.running) ∨ ∃ i, p = .caller i ∧ s.settingsOwner = some i ∧ s.running = false := by
  cases p with
  | controller =>
    refine .inl ⟨rfl, sound.running_of_controller ?_⟩
    intro exited
    simp [pushing, exited] at pushes
  | caller i =>
    exact .inr ⟨i, rfl, (sound.settings i).mpr (Caller.settings_of_pushes pushes),
      sound.inline i (Caller.inline_of_pushes_responses pushes)⟩
  | _ => simp [pushing] at pushes

theorem Sound.popping_records {s : Shared ω} (sound : s.Sound) {p : Party} (pops : s.popping .records p) :
    p = .poller ∨ ∃ i, p = .caller i ∧ s.fetcher = .exited ∧ s.poller = .exited := by
  cases p with
  | poller => exact .inl rfl
  | caller i =>
    obtain ⟨fetcher, poller, -⟩ := sound.exited_of_joined (Caller.joined_of_pops pops (.inl rfl))
    exact .inr ⟨i, rfl, fetcher, poller⟩
  | _ => simp [popping] at pops

theorem Sound.popping_events {s : Shared ω} (sound : s.Sound) {p : Party} (pops : s.popping .events p) :
    p = .fetcher ∨ ∃ i, p = .caller i ∧ s.fetcher = .exited ∧ s.controller = .exited := by
  cases p with
  | fetcher => exact .inl rfl
  | caller i =>
    obtain ⟨fetcher, -, controller⟩ := sound.exited_of_joined (Caller.joined_of_pops pops (.inr rfl))
    exact .inr ⟨i, rfl, fetcher, controller⟩
  | _ => simp [popping] at pops

theorem Sound.popping_requests {s : Shared ω} (sound : s.Sound) {p : Party} (pops : s.popping .requests p) :
    (p = .controller ∧ s.running) ∨ ∃ i, p = .caller i ∧ s.settingsOwner = some i ∧ s.running = false := by
  cases p with
  | controller =>
    refine .inl ⟨rfl, sound.running_of_controller ?_⟩
    intro exited
    simp [popping, exited] at pops
  | caller i =>
    refine .inr ⟨i, rfl, (sound.settings i).mpr (Caller.settings_of_pops pops (.inl rfl)), ?_⟩
    rcases Caller.idle_of_pops_requests pops with inline | cleared
    · exact sound.inline i inline
    · exact sound.idle_of_cleared cleared
  | _ => simp [popping] at pops

theorem Sound.popping_responses {s : Shared ω} (sound : s.Sound) {p : Party} (pops : s.popping .responses p) :
    ∃ i, p = .caller i ∧ s.settingsOwner = some i := by
  cases p with
  | caller i => exact ⟨i, rfl, (sound.settings i).mpr (Caller.settings_of_pops pops (.inr rfl))⟩
  | _ => simp [popping] at pops

theorem Sound.onePusher {s : Shared ω} (sound : s.Sound) {q : Queue} {p p' : Party}
    (pushes : s.pushing q p) (pushes' : s.pushing q p') : p = p' := by
  cases q with
  | records => rw [Sound.pushing_records pushes, Sound.pushing_records pushes']
  | events => rw [Sound.pushing_events pushes, Sound.pushing_events pushes']
  | requests =>
    obtain ⟨i, rfl, owner⟩ := sound.pushing_requests pushes
    obtain ⟨j, rfl, owner'⟩ := sound.pushing_requests pushes'
    rw [Option.some_inj.mp (owner.symm.trans owner')]
  | responses =>
    -- the control thread answers while the session runs, a caller only while none does
    rcases sound.pushing_responses pushes with ⟨rfl, running⟩ | ⟨i, rfl, owner, idle⟩ <;>
    rcases sound.pushing_responses pushes' with ⟨rfl, running'⟩ | ⟨j, rfl, owner', idle'⟩
    · rfl
    · simp_all
    · simp_all
    · rw [Option.some_inj.mp (owner.symm.trans owner')]

theorem Sound.onePopper {s : Shared ω} (sound : s.Sound) {q : Queue} {p p' : Party}
    (pops : s.popping q p) (pops' : s.popping q p') : p = p' := by
  -- two callers inside pops are two Stops draining, or two holders of the settings lock
  have callers : ∀ i j, s.popping q (.caller i) → s.popping q (.caller j) → i = j := by
    intro i j popsI popsJ
    cases q with
    | records | events =>
      have joined := Caller.joined_of_pops popsI (by simp)
      have joined' := Caller.joined_of_pops popsJ (by simp)
      exact sound.oneStop i j (Caller.stop_of_joined joined) (Caller.stop_of_joined joined')
    | requests | responses =>
      exact sound.same_of_settings (Caller.settings_of_pops popsI (by simp))
        (Caller.settings_of_pops popsJ (by simp))
  cases q with
  | records =>
    rcases sound.popping_records pops with rfl | ⟨i, rfl, -, exited⟩ <;>
    rcases sound.popping_records pops' with rfl | ⟨j, rfl, -, exited'⟩
    · rfl
    · simp [popping, exited'] at pops
    · simp [popping, exited] at pops'
    · rw [callers i j pops pops']
  | events =>
    rcases sound.popping_events pops with rfl | ⟨i, rfl, exited, -⟩ <;>
    rcases sound.popping_events pops' with rfl | ⟨j, rfl, exited', -⟩
    · rfl
    · simp [popping, exited'] at pops
    · simp [popping, exited] at pops'
    · rw [callers i j pops pops']
  | requests =>
    rcases sound.popping_requests pops with ⟨rfl, running⟩ | ⟨i, rfl, -, idle⟩ <;>
    rcases sound.popping_requests pops' with ⟨rfl, running'⟩ | ⟨j, rfl, -, idle'⟩
    · rfl
    · simp_all
    · simp_all
    · rw [callers i j pops pops']
  | responses =>
    obtain ⟨i, rfl, -⟩ := sound.popping_responses pops
    obtain ⟨j, rfl, -⟩ := sound.popping_responses pops'
    rw [callers i j pops pops']

/-- The discipline the driver keeps on its queues: at most one party inside
pushes and one inside pops of each queue, and which parties those are. -/
structure Disciplined (s : Shared ω) : Prop where
  onePusher : ∀ q p p', s.pushing q p → s.pushing q p' → p = p'
  onePopper : ∀ q p p', s.popping q p → s.popping q p' → p = p'
  /-- The fetcher pushes batches; the poller takes them, or a Stop drains them
  once both have ended. -/
  records : (∀ p, s.pushing .records p → p = .fetcher) ∧
    ∀ p, s.popping .records p → p = .poller ∨ ∃ i, p = .caller i ∧ s.fetcher = .exited ∧ s.poller = .exited
  /-- The control thread queues button events; the fetcher hands them out,
  or a Stop drains them once both have ended. -/
  events : (∀ p, s.pushing .events p → p = .controller) ∧
    ∀ p, s.popping .events p → p = .fetcher ∨ ∃ i, p = .caller i ∧ s.fetcher = .exited ∧ s.controller = .exited
  /-- The caller holding the settings lock pushes requests. The control
  thread takes them while the session runs; otherwise the holder of the
  settings lock does, the caller itself or a Stop draining. -/
  requests : (∀ p, s.pushing .requests p → ∃ i, p = .caller i ∧ s.settingsOwner = some i) ∧
    ∀ p, s.popping .requests p →
      (p = .controller ∧ s.running) ∨ ∃ i, p = .caller i ∧ s.settingsOwner = some i ∧ s.running = false
  /-- Answers go the other way. -/
  responses : (∀ p, s.pushing .responses p →
      (p = .controller ∧ s.running) ∨ ∃ i, p = .caller i ∧ s.settingsOwner = some i ∧ s.running = false) ∧
    ∀ p, s.popping .responses p → ∃ i, p = .caller i ∧ s.settingsOwner = some i

theorem Sound.disciplined {s : Shared ω} (sound : s.Sound) : s.Disciplined where
  onePusher _ _ _ := sound.onePusher
  onePopper _ _ _ := sound.onePopper
  records := ⟨fun _ => Sound.pushing_records, fun _ => sound.popping_records⟩
  events := ⟨fun _ => Sound.pushing_events, fun _ => sound.popping_events⟩
  requests := ⟨fun _ => sound.pushing_requests, fun _ => sound.popping_requests⟩
  responses := ⟨fun _ => sound.pushing_responses, fun _ => sound.popping_responses⟩

/-- Whatever the interleaving of the threads and the callers' steps, the
driver keeps the single-producer, single-consumer discipline on its four
queues. -/
theorem queues_single_producer_single_consumer (dev : Devices ω) (d : Driver ω) (actions : List Action) :
    ((init d).run dev actions).Disciplined :=
  ((Sound.init d).run dev actions).disciplined

end Shared

end Acquisition.Driver
