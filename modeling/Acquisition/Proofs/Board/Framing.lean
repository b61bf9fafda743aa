import Acquisition.Board.Link
import Acquisition.Proofs.Effect
import Mathlib
/-! Framing of the firmware's answers: whatever the chunks, idle bytes and leftovers of an earlier
exchange, an exchange answers with the response's first line, as a firmware error after `!` and as
an overflow past `maxLineSize`. -/
namespace Acquisition

variable {σ β : Type}

/-- The laws of a first-in first-out queue of `capacity` bytes, read through
`contents`, the bytes it holds oldest first. -/
structure ByteQueue.Fifo (q : ByteQueue β) (capacity : Nat) (contents : β → List UInt8) : Prop where
  reset : ∀ r, contents (q.reset r) = []
  write : ∀ r b, (contents r).length < capacity →
    ∃ r', q.writeByte b r = .ok r' ∧ contents r' = contents r ++ [b]
  read : ∀ r b rest, contents r = b :: rest → ∃ r', q.readByte r = .ok (b, r') ∧ contents r' = rest
  length : ∀ r, q.length r = (contents r).length

theorem ByteRing.queue_fifo (size : Nat) : (ByteRing.queue size).Fifo size ByteRing.bytes where
  reset _ := rfl
  write r b fits := ⟨⟨r.bytes ++ [b]⟩, by simp [ByteRing.queue, fits], rfl⟩
  read r b rest held := ⟨⟨rest⟩, by simp [ByteRing.queue, held], rfl⟩
  length _ := rfl

/-- Polled by a link from state `s`, the transport answers with the chunks in
turn, each as long as the poll. -/
inductive Transport.Answers (t : Transport σ) : σ → List (List UInt8) → Prop
  | nil (s : σ) : Answers t s []
  | cons {s s' : σ} {chunk : List UInt8} {rest : List (List UInt8)} :
      chunk.length = linkChunk →
      (t.exchange ⟨Array.replicate linkChunk 0⟩).run' s = (.ok ⟨chunk.toArray⟩, s') →
      Answers t s' rest → Answers t s (chunk :: rest)

/-- A transport that answers each transfer with the next of its replies, and
with nothing once they have run out. -/
def Transport.scripted : Transport (List (List UInt8)) where
  exchange _ := do
    match ← get with
    | reply :: rest => set rest; pure ⟨reply.toArray⟩
    | [] => pure ByteArray.empty

namespace Link

def payload (bytes : List UInt8) : List UInt8 := bytes.filter fun b => !(b == 0 || b == 0xFF)

def trimReturn (line : List UInt8) : List UInt8 :=
  if line.getLast? = some 13 then line.dropLast else line

/-- The first line of a response, less one closing carriage return; `none` when
more than `maxLineSize` bytes come before its first newline. -/
def firstLine (response : List UInt8) : Option (List UInt8) :=
  let line := response.takeWhile (· != 10)
  if maxLineSize < line.length then none else some (trimReturn line)

/-- What an exchange answers to a response with its idle bytes removed. -/
def answer (response : List UInt8) : Except Fault String :=
  match firstLine response with
  | none => .error (.of .overflow "response too long")
  | some (33 :: message) => .error (.of .firmware ("firmware error: " ++ Text.decodeLossy message))
  | some line => .ok (Text.decodeLossy line)

@[simp] theorem payload_nil : payload [] = [] := rfl

theorem payload_cons (b : UInt8) (rest : List UInt8) :
    payload (b :: rest) = if (b == 0 || b == 0xFF) = true then payload rest else b :: payload rest := by
  simp only [payload, List.filter_cons]
  cases (b == 0 || b == 0xFF) <;> rfl

theorem payload_append (xs ys : List UInt8) : payload (xs ++ ys) = payload xs ++ payload ys :=
  List.filter_append ..

theorem length_payload_le (bytes : List UInt8) : (payload bytes).length ≤ bytes.length :=
  List.length_filter_le ..

/-! ### Reading bytes into the line -/

/-- Where reading bytes into a line stops. -/
inductive Scan where
  | line (bytes : List UInt8)
  | overflow
  /-- Every byte read, none of them a newline: the line so far. -/
  | more (line : List UInt8)

/-- Reads bytes into `line` one at a time, as the link reads its queue. -/
def scan (line : List UInt8) : List UInt8 → Scan
  | [] => .more line
  | b :: rest =>
    if b = 10 then .line (trimReturn line)
    else if line.length = maxLineSize then .overflow
    else scan (line ++ [b]) rest

def Scan.report : Scan → Except Fault (Option (List UInt8))
  | .line bytes => .ok (some bytes)
  | .overflow => .error (.of .overflow "response too long")
  | .more _ => .ok none

/-- A read of bytes split in two is a read of the first part and, if it has
not stopped, a read of the second. -/
theorem scan_append (line xs ys : List UInt8) :
    scan line (xs ++ ys) = match scan line xs with
      | .more line' => scan line' ys
      | stopped => stopped := by
  induction xs generalizing line with
  | nil => rfl
  | cons b rest ih =>
    simp only [List.cons_append, scan]
    split_ifs
    · rfl
    · rfl
    · exact ih (line ++ [b])

theorem scan_append_of_stopped {line xs : List UInt8} (ys : List UInt8)
    (stopped : ∀ line', scan line xs ≠ .more line') : scan line (xs ++ ys) = scan line xs := by
  rw [scan_append]
  split
  · exact absurd ‹_› (stopped _)
  · rfl

theorem Scan.report_ne_none {stop : Scan} (stopped : ∀ line, stop ≠ .more line) :
    stop.report ≠ .ok none := by
  cases stop with
  | line bytes => simp [report]
  | overflow => simp [report]
  | more line => exact absurd rfl (stopped line)

/-- Where a read stops, in closed form: at an overflow when the line grows past
`maxLineSize` before the first newline, at the line when a newline comes. -/
theorem scan_eq (line response : List UInt8) (fits : line.length ≤ maxLineSize) :
    scan line response =
      if maxLineSize < (line ++ response.takeWhile (· != 10)).length then .overflow
      else if 10 ∈ response then .line (trimReturn (line ++ response.takeWhile (· != 10)))
      else .more (line ++ response.takeWhile (· != 10)) := by
  induction response generalizing line with
  | nil => simp [scan, Nat.not_lt.mpr fits]
  | cons b rest ih =>
    by_cases newline : b = 10
    · subst newline
      simp [scan, Nat.not_lt.mpr fits]
    · have kept : (b :: rest).takeWhile (· != 10) = b :: rest.takeWhile (· != 10) := by
        simp [newline]
      by_cases full : line.length = maxLineSize
      · have past : maxLineSize < (line ++ (b :: rest).takeWhile (· != 10)).length := by
          simp only [kept, List.length_append, List.length_cons]
          omega
        simp only [scan, newline, full, if_false, if_true, past]
      · rw [scan, if_neg newline, if_neg full, ih (line ++ [b]) (by simp; omega), kept]
        simp [Ne.symm newline]

/-- A whole response, read into an empty line, stops where its first line
stops, provided it holds a newline or more bytes than a line may. -/
theorem scan_response (response : List UInt8)
    (ends : 10 ∈ response ∨ maxLineSize < response.length) :
    scan [] response = match firstLine response with
      | some line => .line line
      | none => .overflow := by
  rw [scan_eq [] response (Nat.zero_le _), firstLine]
  simp only [List.nil_append]
  by_cases long : maxLineSize < (response.takeWhile (· != 10)).length
  · simp [long]
  · have newline : 10 ∈ response := by
      rcases ends with newline | short
      · exact newline
      · by_contra absent
        have whole : response.takeWhile (· != 10) = response :=
          List.takeWhile_eq_self_iff.mpr fun x mem => by
            have : x ≠ 10 := fun same => absent (same ▸ mem)
            simpa using this
        rw [whole] at long
        exact long short
    simp [long, newline]

/-! ### One poll -/

section Poll

variable {q : ByteQueue β} {capacity : Nat} {contents : β → List UInt8}

/-- Where a read of the queue leaves the link: the result the stop reports,
and while no line is complete, nothing queued, the line read so far, and the
transport at `port`. -/
structure Settles (contents : β → List UInt8) (port : σ) (stop : Scan)
    (run : Except Fault (Option (Array UInt8)) × Linked σ β) : Prop where
  result : Option.map Array.toList <$> run.1 = stop.report
  waiting : ∀ line, stop = .more line →
    run.2.port = port ∧ contents run.2.rx.queue = [] ∧ run.2.rx.line = line.toArray

theorem trimReturn_toList (line : Array UInt8) :
    (if line.back? = some 13 then line.pop else line).toList = trimReturn line.toList := by
  rw [trimReturn, ← Array.getLast?_toList]
  split <;> simp_all

theorem settles_idle (s : Linked σ β) (empty : contents s.rx.queue = []) :
    Settles contents s.port (scan s.rx.line.toList (contents s.rx.queue)) (.ok none, s) := by
  rw [empty]
  exact ⟨rfl, fun line stop => by cases stop; simp [empty]⟩

/-- Reading the queue reads its bytes into the line as `scan` does, when the
passes allowed cover the bytes queued. -/
theorem readLine_run (fifo : q.Fifo capacity contents) (n : Nat) (s : Linked σ β)
    (fuel : (contents s.rx.queue).length ≤ n) :
    Settles contents s.port (scan s.rx.line.toList (contents s.rx.queue)) ((readLine q n).run' s) := by
  induction n generalizing s with
  | zero =>
    have empty : contents s.rx.queue = [] := List.eq_nil_of_length_eq_zero (by omega)
    exact settles_idle s empty
  | succ n ih =>
    rcases held : contents s.rx.queue with _ | ⟨b, rest⟩
    · have idle := settles_idle s held
      rw [held] at idle
      simpa [readLine, Op.run'_bind, fifo.length, held] using idle
    · obtain ⟨queue, read, left⟩ := fifo.read _ _ _ held
      have queued : q.length s.rx.queue ≠ 0 := by simp [fifo.length, held]
      by_cases newline : b = 10
      · subst newline
        refine ⟨?_, fun line stop => by simp [scan] at stop⟩
        simp [readLine, Op.run'_bind, queued, read, scan, trimReturn_toList, Scan.report]
      · by_cases full : s.rx.line.size = maxLineSize
        · refine ⟨?_, fun line stop => by simp [scan, newline, full] at stop⟩
          simp [readLine, Op.run'_bind, queued, read, scan, newline, full, Scan.report]
        · -- the byte joins the line, and the rest is read as before
          have next := ih { s with rx := { queue, line := s.rx.line.push b } }
            (by simp only [left]; simp [held] at fuel; omega)
          simp only [left, Array.toList_push] at next
          have step : (readLine q (n + 1)).run' s =
              (readLine q n).run' { s with rx := { queue, line := s.rx.line.push b } } := by
            simp [readLine, Op.run'_bind, queued, read, newline, full]
          rw [step]
          simpa [scan, newline, full] using next

theorem store_run (fifo : q.Fifo capacity contents) (bytes : List UInt8) (s : Linked σ β)
    (fits : (contents s.rx.queue).length + (payload bytes).length ≤ capacity) :
    ∃ queue, (store q bytes).run' s = (.ok (), { s with rx := { s.rx with queue } }) ∧
      contents queue = contents s.rx.queue ++ payload bytes := by
  induction bytes generalizing s with
  | nil => exact ⟨s.rx.queue, rfl, by simp⟩
  | cons b rest ih =>
    by_cases idle : (b == 0 || b == 0xFF) = true
    · rw [payload_cons, if_pos idle] at fits ⊢
      simpa [store, idle] using ih s fits
    · rw [payload_cons, if_neg idle] at fits ⊢
      obtain ⟨queue, wrote, grown⟩ := fifo.write s.rx.queue b (by simp at fits; omega)
      obtain ⟨queue', stored, added⟩ := ih { s with rx := { s.rx with queue } }
        (by simp only [grown, List.length_append, List.length_cons, List.length_nil] at fits ⊢; omega)
      refine ⟨queue', ?_, by simp [added, grown]⟩
      simp only [Bool.not_eq_true] at idle
      simpa [store, idle, Op.run'_bind, wrote] using stored

/-- One poll clocks a chunk out of the transport and reads its bytes that are
not idle into the line, the queue being empty before. -/
theorem receive_run (fifo : q.Fifo rxCapacity contents) (t : Transport σ) {s : Linked σ β}
    {chunk : List UInt8} {port : σ} (empty : contents s.rx.queue = [])
    (size : chunk.length = linkChunk)
    (answered : (t.exchange ⟨Array.replicate linkChunk 0⟩).run' s.port = (.ok ⟨chunk.toArray⟩, port)) :
    Settles contents port (scan s.rx.line.toList (payload chunk)) ((receive q t).run' s) := by
  have fits : (contents s.rx.queue).length + (payload chunk).length ≤ rxCapacity := by
    have := length_payload_le chunk
    simp only [empty, List.length_nil, size, linkChunk, rxCapacity] at this ⊢
    omega
  obtain ⟨queue, stored, added⟩ := store_run fifo chunk.toArray.toList { s with port } (by simpa using fits)
  simp only [empty, List.nil_append] at added
  have read := readLine_run fifo (payload chunk).length { s with port, rx := { s.rx with queue } }
    (by simp [added])
  simp only [added] at read
  have step : (receive q t).run' s =
      (readLine q (payload chunk).length).run' { s with port, rx := { s.rx with queue } } := by
    simp [receive, onPort, Op.run'_bind, Op.run'_withContext, answered, stored, fifo.length, added]
  rw [step]
  exact read

end Poll

/-! ### The exchange -/

section Exchange

variable {q : ByteQueue β} {contents : β → List UInt8}

theorem awaitLine_succ (t : Transport σ) (n : Nat) (s : Linked σ β) :
    (awaitLine q t (n + 1)).run' s = match (receive q t).run' s with
      | (.ok none, s') => (awaitLine q t n).run' s'
      | done => done := by
  simp only [awaitLine, Op.run'_bind]
  rcases (receive q t).run' s with ⟨_ | _ | a, s'⟩ <;> rfl

/-- Polling until a line is complete reads the chunks the transport answers
with as one response, when a line completes within them and within the polls. -/
theorem awaitLine_run (fifo : q.Fifo rxCapacity contents) (t : Transport σ)
    (chunks : List (List UInt8)) (n : Nat) (s : Linked σ β)
    (answered : t.Answers s.port chunks) (inTime : chunks.length ≤ n)
    (empty : contents s.rx.queue = [])
    (stops : ∀ line, scan s.rx.line.toList (payload chunks.flatten) ≠ .more line) :
    Option.map Array.toList <$> ((awaitLine q t n).run' s).1 =
      (scan s.rx.line.toList (payload chunks.flatten)).report := by
  induction chunks generalizing n s with
  | nil => exact absurd rfl (stops s.rx.line.toList)
  | cons chunk rest ih =>
    cases answered with
    | cons size polled later =>
    obtain ⟨n, rfl⟩ : ∃ m, n = m + 1 := ⟨n - 1, by simp at inTime; omega⟩
    have poll := receive_run fifo t empty size polled
    rw [List.flatten_cons, payload_append] at stops ⊢
    rw [awaitLine_succ]
    by_cases waiting : ∃ line, scan s.rx.line.toList (payload chunk) = .more line
    · -- the chunk ends no line: the next poll goes on from the line read so far
      obtain ⟨line, stopped⟩ := waiting
      simp only [scan_append, stopped] at poll stops ⊢
      obtain ⟨port, queued, read⟩ := poll.waiting line rfl
      have polled_none : (receive q t).run' s = (.ok none, ((receive q t).run' s).2) := by
        have got := poll.result
        rcases result : (receive q t).run' s with ⟨_ | _ | a, s'⟩ <;> simp_all [Scan.report]
      have read_back : ((receive q t).run' s).2.rx.line.toList = line := by simp [read]
      rw [polled_none]
      have next := ih n _ (port ▸ later) (by simpa using inTime) queued (read_back ▸ stops)
      rwa [read_back] at next
    · -- the chunk ends the line or overflows it: the poll's result is the wait's
      have stopped : ∀ line, scan s.rx.line.toList (payload chunk) ≠ .more line :=
        fun line more => waiting ⟨line, more⟩
      rw [scan_append_of_stopped _ stopped]
      have got := poll.result
      rcases result : (receive q t).run' s with ⟨r, s'⟩
      rw [result] at got
      rcases r with e | _ | a
      · exact got
      · exact absurd (by simpa using got.symm) (Scan.report_ne_none stopped)
      · exact got

/-- An exchange answers with the first line of the response, its idle bytes
removed, whatever the chunks it came in and whatever the link held before. -/
theorem exchange_answers_first_line (l : Link) (q : ByteQueue β) (contents : β → List UInt8)
    (fifo : q.Fifo rxCapacity contents) (t : Transport σ) (command : String) (s : Linked σ β)
    (echo : ByteArray) (port : σ) (chunks : List (List UInt8))
    (sent : (t.exchange ⟨(command.toUTF8.toList ++ [10]).toArray⟩).run' s.port = (.ok echo, port))
    (answered : t.Answers port chunks) (inTime : chunks.length ≤ l.polls)
    (ends : 10 ∈ payload chunks.flatten ∨ maxLineSize < (payload chunks.flatten).length) :
    ((l.exchange q t command).run' s).1 = answer (payload chunks.flatten) := by
  -- the wait starts from an empty queue and an empty line, whatever the link held
  let start : Linked σ β := ⟨port, { queue := q.reset s.rx.queue }⟩
  have stops : ∀ line, scan start.rx.line.toList (payload chunks.flatten) ≠ .more line := by
    intro line
    rw [show start.rx.line.toList = [] from rfl, scan_response _ ends]
    split <;> simp
  have awaited := awaitLine_run fifo t chunks l.polls start answered inTime (fifo.reset _) stops
  rw [show start.rx.line.toList = [] from rfl, scan_response _ ends] at awaited
  simp only [exchange, Op.run'_bind, Op.run'_modify, onPort, Op.run'_focus, Op.run'_withContext, sent]
  rcases result : (awaitLine q t l.polls).run' start with ⟨r, s'⟩
  rw [result] at awaited
  unfold answer
  rcases line : firstLine (payload chunks.flatten) with _ | bytes
  · rw [line] at awaited
    rcases r with e | _ | a <;> simp [Scan.report] at awaited
    simp [awaited]
  · rw [line] at awaited
    rcases r with e | _ | a <;> simp [Scan.report] at awaited
    subst awaited
    -- both sides read the same line the same way
    simp only [Option.map_some]
    generalize a.toList = bytes
    split <;> simp_all

/-- A line split over two chunks among idle bytes, after an exchange that left
bytes in the queue and the line. -/
theorem exchange_answers_split_line :
    ((exchange {} rxRing Transport.scripted "js<").run'
      ⟨[[0, 0, 0, 0], List.replicate 30 0 ++ [111, 0xFF], [107, 13, 10] ++ List.replicate 29 0xFF],
        ⟨⟨[65, 10]⟩, #[66]⟩⟩).1 = .ok (Text.decodeLossy [111, 107]) :=
  (exchange_answers_first_line {} rxRing ByteRing.bytes (ByteRing.queue_fifo rxCapacity)
    Transport.scripted "js<" _ ⟨#[0, 0, 0, 0]⟩ _ _ rfl
    (.cons rfl rfl (.cons rfl rfl (.nil _))) (by decide) (by decide)).trans rfl

end Exchange

end Link

end Acquisition
