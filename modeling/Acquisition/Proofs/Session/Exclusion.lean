import Acquisition.Session.Contention
import Mathlib
/-! Exclusion by lock files over every interleaving of any number of instances: at most one holds
the lock, a holder's file holds its pid, and a contender meanwhile is refused. -/
namespace Acquisition

namespace FileTable

variable {t t' : FileTable} {fd d : Nat} {path : String}

def Owns (t : FileTable) (fd : Nat) : Prop := ∃ inode, t.descriptors fd = some inode ∧ t.flocks inode = some fd

/-- A table where every flock is held by an open descriptor of its file, and
no descriptor at or past the count opened is open. -/
structure Consistent (t : FileTable) : Prop where
  held : ∀ inode fd, t.flocks inode = some fd → t.descriptors fd = some inode
  fresh : ∀ fd, t.opened ≤ fd → t.descriptors fd = none

/-! ### The effect of each call on the table -/

@[simp] theorem setText_descriptors (i : Nat) (x : String) : (t.setText i x).descriptors = t.descriptors := rfl
@[simp] theorem setText_flocks (i : Nat) (x : String) : (t.setText i x).flocks = t.flocks := rfl
@[simp] theorem setText_opened (i : Nat) (x : String) : (t.setText i x).opened = t.opened := rfl
@[simp] theorem setText_link (i : Nat) (x : String) : (t.setText i x).link path = t.link path := rfl
@[simp] theorem setText_pid (i : Nat) (x : String) : (t.setText i x).pid = t.pid := rfl
@[simp] theorem setText_texts (i j : Nat) (x : String) :
    (t.setText i x).texts j = if j = i then x else t.texts j := rfl

@[simp] theorem create_descriptors (x : String) : (t.create path x).descriptors = t.descriptors := rfl
@[simp] theorem create_flocks (x : String) : (t.create path x).flocks = t.flocks := rfl
@[simp] theorem create_opened (x : String) : (t.create path x).opened = t.opened := rfl
@[simp] theorem create_pid (x : String) : (t.create path x).pid = t.pid := rfl

theorem create_links (x : String) :
    (t.create path x).links = fun p => if p = Text.cleanPath path then some t.inodes else t.links p := rfl

@[simp] theorem truncate_descriptors : (t.truncate fd).descriptors = t.descriptors := by
  unfold truncate; split <;> rfl
@[simp] theorem truncate_flocks : (t.truncate fd).flocks = t.flocks := by
  unfold truncate; split <;> rfl
@[simp] theorem truncate_opened : (t.truncate fd).opened = t.opened := by
  unfold truncate; split <;> rfl
@[simp] theorem truncate_link : (t.truncate fd).link path = t.link path := by
  unfold truncate; split <;> rfl
@[simp] theorem truncate_pid : (t.truncate fd).pid = t.pid := by
  unfold truncate; split <;> rfl

@[simp] theorem writeAt_descriptors (x : String) : (t.writeAt fd x).descriptors = t.descriptors := by
  unfold writeAt; split <;> rfl
@[simp] theorem writeAt_flocks (x : String) : (t.writeAt fd x).flocks = t.flocks := by
  unfold writeAt; split <;> rfl
@[simp] theorem writeAt_opened (x : String) : (t.writeAt fd x).opened = t.opened := by
  unfold writeAt; split <;> rfl
@[simp] theorem writeAt_link (x : String) : (t.writeAt fd x).link path = t.link path := by
  unfold writeAt; split <;> rfl
@[simp] theorem writeAt_pid (x : String) : (t.writeAt fd x).pid = t.pid := by
  unfold writeAt; split <;> rfl

@[simp] theorem unflock_descriptors : (t.unflock fd).descriptors = t.descriptors := by
  unfold unflock; split <;> (try split) <;> rfl
@[simp] theorem unflock_opened : (t.unflock fd).opened = t.opened := by
  unfold unflock; split <;> (try split) <;> rfl
@[simp] theorem unflock_link : (t.unflock fd).link path = t.link path := by
  unfold unflock; split <;> (try split) <;> rfl
@[simp] theorem unflock_read? : (t.unflock fd).read? path = t.read? path := by
  unfold unflock; split <;> (try split) <;> rfl
@[simp] theorem unflock_pid : (t.unflock fd).pid = t.pid := by
  unfold unflock; split <;> (try split) <;> rfl

@[simp] theorem close_descriptors : (t.close fd).descriptors d = if d = fd then none else t.descriptors d := rfl
@[simp] theorem close_opened : (t.close fd).opened = t.opened := by simp [close]
@[simp] theorem close_link : (t.close fd).link path = t.link path := by
  simp only [close, link]; exact unflock_link
@[simp] theorem close_read? : (t.close fd).read? path = t.read? path := by
  simp only [close, read?, link]; exact unflock_read?
@[simp] theorem close_pid : (t.close fd).pid = t.pid := by simp [close]

theorem unflock_flocks (inode : Nat) :
    (t.unflock fd).flocks inode =
      if t.descriptors fd = some inode ∧ t.flocks inode = some fd then none else t.flocks inode := by
  simp only [unflock]
  split <;> (try split) <;> grind

theorem close_flocks (inode : Nat) :
    (t.close fd).flocks inode =
      if t.descriptors fd = some inode ∧ t.flocks inode = some fd then none else t.flocks inode :=
  unflock_flocks inode

/-! ### Opening a file -/

/-- Opening a file gives the next descriptor, on the file the path links, made
empty if there was none; paths already linked stay so, with their text. -/
theorem openFile_ok (ok : t.openFile path = .ok (fd, t')) :
    fd = t.opened ∧ t'.opened = t.opened + 1 ∧ t'.flocks = t.flocks ∧ t'.pid = t.pid ∧
      (∀ d, t'.descriptors d = if d = fd then t'.link path else t.descriptors d) ∧
      (t'.link path).isSome ∧ (∀ p, t.link p ≠ none → t'.link p = t.link p) ∧
      (t.link path ≠ none → t'.read? path = t.read? path) := by
  unfold openFile at ok
  split at ok
  · cases ok
  · simp only [link] at *
    rcases linked : t.links (Text.cleanPath path) with _ | inode <;>
      simp only [linked, Except.ok.injEq, Prod.mk.injEq] at ok <;> obtain ⟨rfl, rfl⟩ := ok
    · refine ⟨rfl, rfl, rfl, rfl, fun d => ?_, by simp [create_links], fun p linked' => ?_, by simp⟩
      · split <;> simp_all [create_links]
      · simp only [create_links]
        rw [if_neg]
        exact fun same => linked' (by rw [same]; exact linked)
    · exact ⟨rfl, rfl, rfl, rfl, fun d => by split <;> simp_all, by simp [linked],
        fun _ _ => rfl, fun _ => rfl⟩

/-! ### Taking a flock -/

/-- A flock taken is held by the descriptor, on the file it has open, which no
other descriptor held. -/
theorem flock_ok (ok : t.flock fd = some t') :
    ∃ inode, t.descriptors fd = some inode ∧ (t.flocks inode = none ∨ t.flocks inode = some fd) ∧
      t' = { t with flocks := fun j => if j = inode then some fd else t.flocks j } := by
  unfold flock at ok
  rcases opened : t.descriptors fd with _ | inode <;> simp only [opened] at ok
  · cases ok
  · refine ⟨inode, rfl, ?_⟩
    rcases held : t.flocks inode with _ | holder <;> simp only [held] at ok
    · exact ⟨.inl rfl, (Option.some.inj ok).symm⟩
    · by_cases same : holder = fd
      · subst same
        simp only [if_true, Option.some.injEq] at ok
        subst ok
        refine ⟨.inr rfl, ?_⟩
        cases t
        simp only [FileTable.mk.injEq, true_and, and_true]
        funext j
        split <;> simp_all
      · simp [same] at ok

theorem owns_of_flock (ok : t.flock fd = some t') : t'.Owns fd := by
  obtain ⟨inode, opened, -, rfl⟩ := flock_ok ok
  exact ⟨inode, opened, by simp⟩

/-! ### What a call leaves alone -/

/-- What a call on descriptor `fd` leaves as it was: every other descriptor
and the flock it holds, every path already linked, and the process id. -/
structure Frame (t t' : FileTable) (fd : Nat) : Prop where
  descriptors : ∀ d, d ≠ fd → t'.descriptors d = t.descriptors d
  owns : ∀ d, d ≠ fd → t.Owns d → t'.Owns d
  links : ∀ p, t.link p ≠ none → t'.link p = t.link p
  pid : t'.pid = t.pid

theorem Frame.refl (t : FileTable) (fd : Nat) : Frame t t fd :=
  ⟨fun _ _ => rfl, fun _ _ owns => owns, fun _ _ => rfl, rfl⟩

theorem Frame.of_texts (descriptors : t'.descriptors = t.descriptors) (flocks : t'.flocks = t.flocks)
    (links : ∀ p, t'.link p = t.link p) (pid : t'.pid = t.pid) : Frame t t' fd :=
  ⟨fun d _ => by rw [descriptors], fun d _ owns => by rwa [Owns, descriptors, flocks],
    fun p _ => links p, pid⟩

theorem frame_truncate : Frame t (t.truncate fd) fd := .of_texts (by simp) (by simp) (fun _ => by simp) (by simp)

theorem frame_writeAt (x : String) : Frame t (t.writeAt fd x) fd :=
  .of_texts (by simp) (by simp) (fun _ => by simp) (by simp)

theorem frame_openFile (ok : t.openFile path = .ok (fd, t')) : Frame t t' fd := by
  obtain ⟨-, -, flocks, pid, descriptors, -, links, -⟩ := openFile_ok ok
  refine ⟨fun d other => by rw [descriptors, if_neg other], fun d other ⟨inode, opened, held⟩ => ?_, links, pid⟩
  exact ⟨inode, by rw [descriptors, if_neg other, opened], by rw [flocks, held]⟩

theorem frame_flock (ok : t.flock fd = some t') : Frame t t' fd := by
  obtain ⟨inode, opened, free, rfl⟩ := flock_ok ok
  refine ⟨fun _ _ => rfl, fun d other ⟨j, opened', held⟩ => ⟨j, opened', ?_⟩, fun _ _ => rfl, rfl⟩
  -- the file another descriptor holds is not the one the flock was taken on
  have : j ≠ inode := by
    rintro rfl
    rcases free with free | free <;> rw [free] at held <;> simp_all
  simp [this, held]

theorem frame_unflock : Frame t (t.unflock fd) fd := by
  refine ⟨fun _ _ => by simp, fun d other ⟨j, opened, held⟩ => ⟨j, by simp [opened], ?_⟩,
    fun _ _ => by simp, by simp⟩
  rw [unflock_flocks, if_neg (fun ⟨_, mine⟩ => other (Option.some.inj (held.symm.trans mine))), held]

theorem frame_close : Frame t (t.close fd) fd := by
  refine ⟨fun d other => by simp [other], fun d other ⟨j, opened, held⟩ => ⟨j, by simp [other, opened], ?_⟩,
    fun _ _ => by simp, by simp⟩
  rw [close_flocks, if_neg (fun ⟨_, mine⟩ => other (Option.some.inj (held.symm.trans mine))), held]

/-! ### Consistency -/

theorem Consistent.of_texts (c : t.Consistent) (descriptors : t'.descriptors = t.descriptors)
    (flocks : t'.flocks = t.flocks) (opened : t'.opened = t.opened) : t'.Consistent :=
  ⟨fun inode fd held => by rw [descriptors]; exact c.held inode fd (by rwa [flocks] at held),
    fun fd past => by rw [descriptors]; exact c.fresh fd (by rwa [opened] at past)⟩

theorem Consistent.open_lt (c : t.Consistent) (opened : t.descriptors fd ≠ none) : fd < t.opened := by
  by_contra past
  exact opened (c.fresh fd (Nat.le_of_not_lt past))

theorem Consistent.openFile (c : t.Consistent) (ok : t.openFile path = .ok (fd, t')) : t'.Consistent := by
  obtain ⟨rfl, count, flocks, -, descriptors, -⟩ := openFile_ok ok
  refine ⟨fun inode d held => ?_, fun d past => ?_⟩
  · rw [flocks] at held
    have opened := c.held inode d held
    have : d ≠ t.opened := (c.open_lt (by simp [opened])).ne
    rw [descriptors, if_neg this, opened]
  · rw [count] at past
    rw [descriptors, if_neg (by omega)]
    exact c.fresh d (by omega)

theorem Consistent.flock (c : t.Consistent) (ok : t.flock fd = some t') : t'.Consistent := by
  obtain ⟨inode, opened, -, rfl⟩ := flock_ok ok
  refine ⟨fun j d held => ?_, c.fresh⟩
  by_cases same : j = inode
  · subst same
    simp only [if_true, Option.some.injEq] at held
    rw [← held]
    exact opened
  · simp only [same, if_false] at held
    exact c.held j d held

theorem Consistent.unflock (c : t.Consistent) : (t.unflock fd).Consistent := by
  refine ⟨fun j d held => ?_, fun d past => by simpa using c.fresh d (by simpa using past)⟩
  rw [unflock_flocks] at held
  split at held
  · cases held
  · simpa using c.held j d held

theorem Consistent.close (c : t.Consistent) : (t.close fd).Consistent := by
  refine ⟨fun j d held => ?_, fun d past => ?_⟩
  · rw [close_flocks] at held
    split at held
    · cases held
    · have opened := c.held j d held
      -- a flock the closed descriptor held is let go with it
      have : d ≠ fd := fun same => by subst same; simp_all
      simp [this, opened]
  · simp only [close_descriptors]
    split
    · rfl
    · exact c.fresh d (by simpa using past)

theorem Consistent.truncate (c : t.Consistent) : (t.truncate fd).Consistent :=
  c.of_texts (by simp) (by simp) (by simp)

theorem Consistent.writeAt (c : t.Consistent) (x : String) : (t.writeAt fd x).Consistent :=
  c.of_texts (by simp) (by simp) (by simp)

theorem Consistent.create (c : t.Consistent) (x : String) : (t.create path x).Consistent :=
  c.of_texts rfl rfl rfl

theorem owns_truncate : (t.truncate fd).Owns d ↔ t.Owns d := by simp [Owns]

theorem owns_writeAt (x : String) : (t.writeAt fd x).Owns d ↔ t.Owns d := by simp [Owns]

end FileTable

namespace PidFile

variable {p : PidFile} {t : FileTable} {fd d : Nat}

/-- The descriptor an instance has open: the one its call in progress works
on, or the one it keeps. -/
def descriptor (p : PidFile) : Option Nat :=
  match p.stage with
  | .idle | .opening => p.file
  | .flocking fd | .refused fd | .checking fd | .truncating fd | .writing fd
  | .clearing fd | .releasing fd | .closing fd => some fd

/-- The descriptor through which an instance holds the flock of its file. -/
def holding (p : PidFile) : Option Nat :=
  match p.stage with
  | .idle | .opening => p.file
  | .checking fd | .truncating fd | .writing fd | .clearing fd | .releasing fd => some fd
  | .flocking _ | .refused _ | .closing _ => none

/-- The descriptor the next step works on: a new one when it opens the file. -/
def stepFd (p : PidFile) (t : FileTable) : Nat :=
  match p.stage with
  | .idle => p.file.getD t.opened
  | .opening => t.opened
  | .flocking fd | .refused fd | .checking fd | .truncating fd | .writing fd
  | .clearing fd | .releasing fd | .closing fd => fd

theorem descriptor_of_holding (holds : p.holding = some fd) : p.descriptor = some fd := by
  unfold holding at holds
  unfold descriptor
  split at holds <;> simp_all

/-- An instance against the file table: it keeps a descriptor only while no
call is in progress, the descriptor it has open is open, and it holds the flock
it should. -/
structure Fits (t : FileTable) (p : PidFile) : Prop where
  tidy : p.file = none ∨ p.stage = .idle
  opened : ∀ fd, p.descriptor = some fd → t.descriptors fd ≠ none
  owns : ∀ fd, p.holding = some fd → t.Owns fd

theorem Fits.frame {t' : FileTable} (fits : p.Fits t) (frame : t.Frame t' fd)
    (apart : ∀ d, p.descriptor = some d → d ≠ fd) : p.Fits t' :=
  ⟨fits.tidy, fun d has => by rw [frame.descriptors d (apart d has)]; exact fits.opened d has,
    fun d holds => frame.owns d (apart d (descriptor_of_holding holds)) (fits.owns d holds)⟩

theorem Fits.of_texts {t' : FileTable} (fits : p.Fits t) (descriptors : t'.descriptors = t.descriptors)
    (flocks : t'.flocks = t.flocks) : p.Fits t' :=
  ⟨fits.tidy, fun d has => by rw [descriptors]; exact fits.opened d has,
    fun d holds => by rw [FileTable.Owns, descriptors, flocks]; exact fits.owns d holds⟩

/-! ### One step of a call -/

@[simp] theorem advance_path : (p.advance t).1.path = p.path := by
  unfold advance
  split <;> (try split) <;> rfl

/-- The descriptor an instance has open after a step: the one it had, still on
the same file, or, after opening, a new one on the file the path links. -/
theorem advance_descriptor (fits : p.Fits t) (has : (p.advance t).1.descriptor = some d) :
    (p.descriptor = some d ∧ (p.advance t).2.1.descriptors d = t.descriptors d) ∨
      (p.stage = .opening ∧ d = t.opened ∧ (p.advance t).2.1.descriptors d = (p.advance t).2.1.link p.path ∧
        ((p.advance t).2.1.link p.path).isSome) := by
  -- a call in progress keeps no descriptor but the one in its stage
  have free : p.stage ≠ .idle → p.file = none := fits.tidy.resolve_right
  cases stage : p.stage with
  | idle => simp only [advance, stage] at has ⊢; exact .inl ⟨has, trivial⟩
  | opening =>
    simp only [advance, stage] at has ⊢
    rcases opened : t.openFile p.path with e | ⟨fd, t'⟩ <;> simp only [opened] at has ⊢
    · simp [descriptor, free (by simp [stage])] at has
    · obtain ⟨rfl, -, -, -, descriptors, linked, -⟩ := FileTable.openFile_ok opened
      simp only [descriptor, Option.some.injEq] at has
      subst has
      exact .inr ⟨trivial, rfl, by simp [descriptors], linked⟩
  | flocking fd =>
    simp only [advance, stage] at has ⊢
    rcases took : t.flock fd with _ | t' <;> simp only [took] at has ⊢ <;>
      simp only [descriptor, Option.some.injEq] at has <;> subst has
    · exact .inl ⟨by simp [descriptor, stage], trivial⟩
    · obtain ⟨_, _, _, rfl⟩ := FileTable.flock_ok took
      exact .inl ⟨by simp [descriptor, stage], rfl⟩
  | refused fd => simp [advance, stage, descriptor, free (by simp [stage])] at has
  | checking fd =>
    simp only [advance, stage] at has ⊢
    split at has <;> simp only [descriptor, free (by simp [stage]), Option.some.injEq, reduceCtorEq] at has
    subst has
    simp_all [descriptor]
  | truncating fd | writing fd | clearing fd | releasing fd =>
    simp only [advance, stage, descriptor, Option.some.injEq] at has ⊢
    subst has
    exact .inl ⟨rfl, by simp⟩
  | closing fd => simp [advance, stage, descriptor, free (by simp [stage])] at has

/-- After a step, an instance holds the flock of its file through the
descriptor it should. -/
theorem advance_owns (fits : p.Fits t) (holds : (p.advance t).1.holding = some d) :
    (p.advance t).2.1.Owns d := by
  have free : p.stage ≠ .idle → p.file = none := fits.tidy.resolve_right
  cases stage : p.stage with
  | idle =>
    simp only [advance, stage] at holds ⊢
    exact fits.owns d holds
  | opening =>
    simp only [advance, stage] at holds ⊢
    split at holds <;> simp [holding, free (by simp [stage])] at holds
  | flocking fd =>
    simp only [advance, stage] at holds ⊢
    rcases took : t.flock fd with _ | t' <;> simp only [took] at holds ⊢ <;> simp [holding] at holds
    subst holds
    exact FileTable.owns_of_flock took
  | checking fd =>
    simp only [advance, stage] at holds ⊢
    by_cases linked : ((t.descriptors fd).isSome && t.link p.path == t.descriptors fd) = true
    · simp only [linked, if_true, holding, Option.some.injEq] at holds ⊢
      subst holds
      exact fits.owns _ (by simp [holding, stage])
    · simp [linked, holding, free (by simp [stage])] at holds
  | truncating fd | clearing fd =>
    simp only [advance, stage, holding, Option.some.injEq] at holds ⊢
    subst holds
    exact FileTable.owns_truncate.mpr (fits.owns _ (by simp [holding, stage]))
  | writing fd =>
    simp only [advance, stage, holding, Option.some.injEq] at holds ⊢
    subst holds
    exact (FileTable.owns_writeAt _).mpr (fits.owns _ (by simp [holding, stage]))
  | refused fd | releasing fd | closing fd =>
    simp [advance, stage, holding, free (by simp [stage])] at holds

/-- A step is a call on the descriptor it works on, and leaves the rest of the
table alone. -/
theorem advance_frame : t.Frame (p.advance t).2.1 (p.stepFd t) := by
  cases stage : p.stage with
  | idle => simpa [advance, stage] using FileTable.Frame.refl t _
  | opening =>
    simp only [advance, stepFd, stage]
    rcases opened : t.openFile p.path with e | ⟨fd, t'⟩
    · exact FileTable.Frame.refl t _
    · obtain ⟨rfl, -⟩ := FileTable.openFile_ok opened
      exact FileTable.frame_openFile opened
  | flocking fd =>
    simp only [advance, stepFd, stage]
    rcases took : t.flock fd with _ | t'
    · exact FileTable.Frame.refl t _
    · exact FileTable.frame_flock took
  | refused fd | closing fd => simpa [advance, stepFd, stage] using FileTable.frame_close
  | checking fd =>
    simp only [advance, stepFd, stage]
    split
    · exact FileTable.Frame.refl t _
    · exact FileTable.frame_close
  | truncating fd | clearing fd => simpa [advance, stepFd, stage] using FileTable.frame_truncate
  | writing fd => simpa [advance, stepFd, stage] using FileTable.frame_writeAt _
  | releasing fd => simpa [advance, stepFd, stage] using FileTable.frame_unflock

theorem consistent_advance (c : t.Consistent) : (p.advance t).2.1.Consistent := by
  cases stage : p.stage with
  | idle => simpa [advance, stage] using c
  | opening =>
    simp only [advance, stage]
    rcases opened : t.openFile p.path with e | ⟨fd, t'⟩
    · exact c
    · exact c.openFile opened
  | flocking fd =>
    simp only [advance, stage]
    rcases took : t.flock fd with _ | t'
    · exact c
    · exact c.flock took
  | refused fd | closing fd => simpa [advance, stage] using c.close
  | checking fd =>
    simp only [advance, stage]
    split
    · exact c
    · exact c.close
  | truncating fd | clearing fd => simpa [advance, stage] using c.truncate
  | writing fd => simpa [advance, stage] using c.writeAt _
  | releasing fd => simpa [advance, stage] using c.unflock

theorem advance_tidy (fits : p.Fits t) :
    (p.advance t).1.file = none ∨ (p.advance t).1.stage = .idle := by
  have free : p.stage ≠ .idle → p.file = none := fits.tidy.resolve_right
  cases stage : p.stage with
  | idle => simp [advance, stage]
  | opening | flocking _ | checking _ =>
    simp only [advance, stage]
    split <;> simp [free (by simp [stage])]
  | refused _ | writing _ | closing _ => simp [advance, stage]
  | truncating _ | clearing _ | releasing _ => simp [advance, stage, free (by simp [stage])]

theorem Fits.advance (fits : p.Fits t) : (p.advance t).1.Fits (p.advance t).2.1 := by
  refine ⟨advance_tidy fits, fun d has => ?_, fun d holds => advance_owns fits holds⟩
  rcases advance_descriptor fits has with ⟨had, same⟩ | ⟨-, -, linked, some⟩
  · rw [same]
    exact fits.opened d had
  · rw [linked]
    simpa [Option.isSome_iff_ne_none] using some

/-- The descriptor a step works on is the instance's own, or the next one the
table gives out. -/
theorem stepFd_cases (p : PidFile) (t : FileTable) :
    p.descriptor = some (p.stepFd t) ∨ p.stepFd t = t.opened := by
  cases stage : p.stage <;> simp [stepFd, descriptor, stage]
  cases p.file <;> simp

/-- A call starts by opening the file, or, unlocking, by forgetting the
descriptor it will close. -/
theorem begin_cases {c : LockCall} {p' : PidFile} (begun : p.begin c = some p') :
    (p.file = none ∧ p' = { p with stage := .opening }) ∨
      ∃ fd, p.file = some fd ∧ p' = { p with file := none, stage := .clearing fd } := by
  cases c <;> rcases file : p.file with _ | fd <;> simp [begin, file] at begun
  · exact .inl ⟨rfl, begun.symm⟩
  · exact .inr ⟨fd, rfl, begun.symm⟩

theorem Fits.begin {c : LockCall} {p' : PidFile} (fits : p.Fits t) (idle : p.stage = .idle)
    (begun : p.begin c = some p') : p'.Fits t := by
  rcases begin_cases begun with ⟨file, rfl⟩ | ⟨fd, file, rfl⟩
  · exact ⟨.inl file, fun _ has => by simp_all [descriptor], fun _ holds => by simp_all [holding]⟩
  · refine ⟨.inl rfl, fun d has => fits.opened d ?_, fun d holds => fits.owns d ?_⟩ <;>
      simp_all [descriptor, holding]

theorem begin_descriptor {c : LockCall} {p' : PidFile} (idle : p.stage = .idle)
    (begun : p.begin c = some p') : p'.descriptor = none ∨ p'.descriptor = p.descriptor := by
  rcases begin_cases begun with ⟨file, rfl⟩ | ⟨fd, file, rfl⟩
  · simp [descriptor, file]
  · simp [descriptor, idle, file]

/-- The text at the lock's path after a step, while the instance's descriptor
is on the file the path links: emptied by a truncation, written by the pid. -/
theorem read?_advance (known : t.link p.path ≠ none)
    (linked : ∀ fd, p.descriptor = some fd → t.descriptors fd = t.link p.path) :
    (p.advance t).2.1.read? p.path =
      match p.stage with
      | .truncating _ | .clearing _ => some ""
      | .writing _ => (t.read? p.path).map fun text =>
          String.ofList ((toString t.pid ++ "\n").toList ++ text.toList.drop (toString t.pid ++ "\n").length)
      | _ => t.read? p.path := by
  cases stage : p.stage with
  | idle => simp [advance, stage]
  | opening =>
    simp only [advance, stage]
    rcases opened : t.openFile p.path with e | ⟨fd, t'⟩
    · rfl
    · exact (FileTable.openFile_ok opened).2.2.2.2.2.2.2 known
  | flocking fd =>
    simp only [advance, stage]
    rcases took : t.flock fd with _ | t'
    · rfl
    · obtain ⟨_, _, _, rfl⟩ := FileTable.flock_ok took
      rfl
  | refused fd | closing fd | releasing fd => simp [advance, stage]
  | checking fd =>
    simp only [advance, stage]
    split <;> simp
  | truncating fd | clearing fd | writing fd =>
    -- the descriptor is on the file the path links
    obtain ⟨inode, at_path⟩ := Option.ne_none_iff_exists'.mp known
    have on : t.descriptors fd = some inode := by rw [linked fd (by simp [descriptor, stage]), at_path]
    simp [advance, stage, FileTable.truncate, FileTable.writeAt, on, at_path, FileTable.read?]

theorem holding_of_locked (fits : p.Fits t) (locked : p.locked = true) :
    ∃ fd, p.file = some fd ∧ p.holding = some fd := by
  obtain ⟨fd, file⟩ := Option.isSome_iff_exists.mp locked
  have idle : p.stage = .idle := fits.tidy.resolve_left (by simp [file])
  exact ⟨fd, file, by simp [holding, idle, file]⟩

/-- An instance holds the lock after a step only if it held it, or has just
written its pid. -/
theorem advance_locked (fits : p.Fits t) (locked : (p.advance t).1.locked = true) :
    p.stage = .idle ∨ ∃ fd, p.stage = .writing fd := by
  have free : p.stage ≠ .idle → p.file = none := fits.tidy.resolve_right
  cases stage : p.stage with
  | idle => exact .inl rfl
  | writing fd => exact .inr ⟨fd, rfl⟩
  | opening | flocking _ | checking _ =>
    simp only [advance, stage] at locked
    split at locked <;> simp [PidFile.locked, free (by simp [stage])] at locked
  | refused _ | truncating _ | clearing _ | releasing _ | closing _ =>
    simp [advance, stage, PidFile.locked, free (by simp [stage])] at locked

/-- An instance comes to write its pid, or to let the lock go, only from
emptying the file. -/
theorem advance_emptying (emptying : (p.advance t).1.stage = .writing fd ∨ (p.advance t).1.stage = .releasing fd) :
    p.stage = .truncating fd ∨ p.stage = .clearing fd := by
  cases stage : p.stage with
  | truncating fd' | clearing fd' => simp_all [advance]
  | opening | flocking _ | checking _ =>
    simp only [advance, stage] at emptying
    split at emptying <;> simp at emptying
  | idle | refused _ | writing _ | releasing _ | closing _ => simp_all [advance]

end PidFile

def LockStep.replaces : LockStep → Bool
  | .replace _ => true
  | _ => false

namespace Contention

variable {s : Contention} {i j : Nat} {fd d : Nat}

@[simp] theorem setInstance_same (s : Contention) (i : Nat) (p : PidFile) :
    (s.setInstance i p).instances i = p := by simp [setInstance]

theorem setInstance_other (s : Contention) {i j : Nat} (p : PidFile) (other : j ≠ i) :
    (s.setInstance i p).instances j = s.instances j := by simp [setInstance, other]

@[simp] theorem setInstance_files (s : Contention) (i : Nat) (p : PidFile) :
    (s.setInstance i p).files = s.files := rfl

@[simp] theorem setInstance_path (s : Contention) (i : Nat) (p : PidFile) :
    (s.setInstance i p).path = s.path := rfl

theorem step_advance (s : Contention) (i : Nat) :
    s.step (.advance i) =
      { s.setInstance i ((s.instances i).advance s.files).1 with
        files := ((s.instances i).advance s.files).2.1
        returned := s.returned ++ ((s.instances i).advance s.files).2.2.toList.map ((i, ·)) } := rfl

/-- Every instance of the lock fits the file table, and no two have one
descriptor open. -/
structure Held (s : Contention) : Prop where
  consistent : s.files.Consistent
  paths : ∀ i, (s.instances i).path = s.path
  fits : ∀ i, (s.instances i).Fits s.files
  distinct : ∀ i j fd, (s.instances i).descriptor = some fd → (s.instances j).descriptor = some fd → i = j

theorem held_start {path : String} {files : FileTable} (consistent : files.Consistent) :
    (start path files).Held :=
  ⟨consistent, fun _ => rfl, fun _ => ⟨.inl rfl, fun _ has => by simp [start, PidFile.descriptor] at has,
    fun _ holds => by simp [start, PidFile.holding] at holds⟩,
    fun _ _ _ has => by simp [start, PidFile.descriptor] at has⟩

theorem Held.apart (h : s.Held) (other : j ≠ i) (has : (s.instances j).descriptor = some d) :
    d ≠ (s.instances i).stepFd s.files := by
  rintro rfl
  rcases PidFile.stepFd_cases (s.instances i) s.files with own | fresh
  · exact other (h.distinct j i _ has own)
  · have := h.consistent.open_lt ((h.fits j).opened _ has)
    omega

theorem Held.descriptor_advance (h : s.Held) (has : ((s.instances i).advance s.files).1.descriptor = some d) :
    (s.instances i).descriptor = some d ∨ d = s.files.opened := by
  rcases PidFile.advance_descriptor (h.fits i) has with ⟨had, -⟩ | ⟨-, fresh, -⟩
  · exact .inl had
  · exact .inr fresh

theorem Held.advance (h : s.Held) (i : Nat) : (s.step (.advance i)).Held := by
  rw [step_advance]
  refine ⟨PidFile.consistent_advance h.consistent, fun j => ?_, fun j => ?_, fun j k fd hj hk => ?_⟩
  · by_cases same : j = i
    · subst same; simp [h.paths]
    · simp [setInstance_other _ _ same, h.paths]
  · by_cases same : j = i
    · subst same; simpa using (h.fits j).advance
    · simp only [setInstance_other _ _ same]
      exact (h.fits j).frame PidFile.advance_frame fun d has => h.apart same has
  · -- a descriptor the step gives out is new, and any other is where it was
    have stepped : ∀ l, ((s.instances i).advance s.files).1.descriptor = some fd →
        (s.instances l).descriptor = some fd → i = l := by
      intro l has hl
      rcases h.descriptor_advance has with had | fresh
      · exact h.distinct _ _ _ had hl
      · have := h.consistent.open_lt ((h.fits l).opened _ hl); omega
    by_cases ji : j = i <;> by_cases ki : k = i
    · rw [ji, ki]
    · subst ji
      simp only [setInstance_same] at hj
      simp only [setInstance_other _ _ ki] at hk
      exact stepped k hj hk
    · subst ki
      simp only [setInstance_same] at hk
      simp only [setInstance_other _ _ ji] at hj
      exact (stepped j hk hj).symm
    · simp only [setInstance_other _ _ ji, setInstance_other _ _ ki] at hj hk
      exact h.distinct _ _ _ hj hk

/-- A call starts only on an idle instance; one that returns at once only
records its success, and any other changes only the instance. -/
theorem step_call (s : Contention) (i : Nat) (c : LockCall) :
    s.step (.call i c) =
      if (s.instances i).stage = .idle then
        match (s.instances i).begin c with
        | none => { s with returned := s.returned ++ [(i, .ok ())] }
        | some p => s.setInstance i p
      else s := rfl

theorem Held.call (h : s.Held) (i : Nat) (c : LockCall) : (s.step (.call i c)).Held := by
  rw [step_call]
  by_cases idle : (s.instances i).stage = .idle
  · rw [if_pos idle]
    rcases begun : (s.instances i).begin c with _ | p'
    · exact { h with }
    · refine ⟨h.consistent, fun j => ?_, fun j => ?_, fun j k fd hj hk => ?_⟩
      · by_cases same : j = i
        · subst same
          rcases PidFile.begin_cases begun with ⟨-, rfl⟩ | ⟨-, -, rfl⟩ <;> simp [h.paths]
        · simp [setInstance_other _ _ same, h.paths]
      · by_cases same : j = i
        · subst same; simpa using (h.fits j).begin idle begun
        · simpa [setInstance_other _ _ same] using h.fits j
      · -- the call keeps the descriptor it had, or has none
        have was : ∀ k, ((s.setInstance i p').instances k).descriptor = some fd →
            (s.instances k).descriptor = some fd := by
          intro k has
          by_cases same : k = i
          · subst same
            simp only [setInstance_same] at has
            rcases PidFile.begin_descriptor idle begun with none | kept
            · simp [none] at has
            · rwa [← kept]
          · rwa [setInstance_other _ _ same] at has
        exact h.distinct j k fd (was j hj) (was k hk)
  · rwa [if_neg idle]

theorem Held.replace (h : s.Held) (text : String) : (s.step (.replace text)).Held :=
  ⟨h.consistent.create text, h.paths, fun i => (h.fits i).of_texts rfl rfl, h.distinct⟩

theorem Held.step (h : s.Held) : ∀ a, (s.step a).Held
  | .call i c => h.call i c
  | .advance i => h.advance i
  | .replace text => h.replace text

theorem Held.run (h : s.Held) (steps : List LockStep) : (s.run steps).Held := by
  induction steps generalizing s with
  | nil => exact h
  | cons a rest ih => exact ih (h.step a)

/-- The instances of a lock whose file nobody else replaced: every descriptor
they have open is on the file the path links, a holder's file holds its pid,
and the file is empty while a holder is about to write it or to let it go. -/
structure Sound (s : Contention) : Prop extends Held s where
  linked : ∀ i fd, (s.instances i).descriptor = some fd → s.files.descriptors fd = s.files.link s.path
  written : ∀ i, (s.instances i).locked = true → s.files.read? s.path = some (toString s.files.pid ++ "\n")
  emptied : ∀ i fd, (s.instances i).stage = .writing fd ∨ (s.instances i).stage = .releasing fd →
    s.files.read? s.path = some ""

theorem sound_start {path : String} {files : FileTable} (consistent : files.Consistent) :
    (start path files).Sound :=
  ⟨held_start consistent, fun _ _ has => by simp [start, PidFile.descriptor] at has,
    fun _ locked => by simp [start, PidFile.locked] at locked, fun _ _ stage => by simp [start] at stage⟩

theorem Sound.known (h : s.Sound) (has : (s.instances i).descriptor = some fd) : s.files.link s.path ≠ none := by
  rw [← h.linked i fd has]
  exact (h.fits i).opened fd has

/-- Two instances that hold the flock are one: both hold it on the file the
path links, through descriptors that are then the same. -/
theorem Sound.holder_unique (h : s.Sound) {a b : Nat} (holds : (s.instances i).holding = some a)
    (holds' : (s.instances j).holding = some b) : i = j := by
  obtain ⟨A, onA, heldA⟩ := (h.fits i).owns a holds
  obtain ⟨B, onB, heldB⟩ := (h.fits j).owns b holds'
  have has := PidFile.descriptor_of_holding holds
  have has' := PidFile.descriptor_of_holding holds'
  have same : A = B := Option.some.inj (by rw [← onA, ← onB, h.linked i a has, h.linked j b has'])
  subst same
  obtain rfl : a = b := Option.some.inj (heldA.symm.trans heldB)
  exact h.distinct i j a has has'

/-- While another instance holds the lock, a step leaves the text at the path
alone: only a holder empties or writes it. -/
theorem Sound.read?_advance_other (h : s.Sound) (other : j ≠ i) {b : Nat}
    (holds : (s.instances j).holding = some b) :
    ((s.instances i).advance s.files).2.1.read? s.path = s.files.read? s.path := by
  have known := h.known (PidFile.descriptor_of_holding holds)
  have step := PidFile.read?_advance (p := s.instances i) (by rwa [h.paths])
    (fun fd has => by rw [h.paths]; exact h.linked i fd has)
  rw [h.paths] at step
  rw [step]
  cases stage : (s.instances i).stage <;> first
    | rfl
    | exact absurd (h.holder_unique holds (by rw [PidFile.holding, stage])) other

/-- The text at the path after a step of an instance that works on its own
descriptor, which is on the file the path links. -/
theorem Sound.read?_advance (h : s.Sound) (has : (s.instances i).descriptor = some fd) :
    ((s.instances i).advance s.files).2.1.read? s.path =
      match (s.instances i).stage with
      | .truncating _ | .clearing _ => some ""
      | .writing _ => (s.files.read? s.path).map fun text =>
          String.ofList ((toString s.files.pid ++ "\n").toList ++
            text.toList.drop (toString s.files.pid ++ "\n").length)
      | _ => s.files.read? s.path := by
  have step := PidFile.read?_advance (p := s.instances i) (by rw [h.paths]; exact h.known has)
    (fun fd has => by rw [h.paths]; exact h.linked i fd has)
  rwa [h.paths] at step

theorem Sound.advance (h : s.Sound) (i : Nat) : (s.step (.advance i)).Sound := by
  have held := h.toHeld.advance i
  rw [step_advance] at held ⊢
  have frame := PidFile.advance_frame (p := s.instances i) (t := s.files)
  refine ⟨held, fun j fd has => ?_, fun j locked => ?_, fun j fd stage => ?_⟩ <;>
    dsimp only [setInstance_path] at *
  · by_cases same : j = i
    · subst same
      simp only [setInstance_same] at has
      rcases PidFile.advance_descriptor (h.fits j) has with ⟨had, kept⟩ | ⟨-, -, linked, -⟩
      · rw [kept, h.linked j fd had, frame.links _ (h.known had)]
      · rw [linked, h.paths]
    · rw [setInstance_other _ _ same] at has
      rw [frame.descriptors fd (h.apart same has), h.linked j fd has, frame.links _ (h.known has)]
  · rw [frame.pid]
    by_cases same : j = i
    · subst same
      simp only [setInstance_same] at locked
      rcases PidFile.advance_locked (h.fits j) locked with idle | ⟨fd, writing⟩
      · -- an idle instance takes no step
        have still : (s.instances j).advance s.files = (s.instances j, s.files, none) := by
          simp [PidFile.advance, idle]
        rw [still] at locked ⊢
        exact h.written j locked
      · -- the pid is written over the emptied file
        have step := h.read?_advance (by simp [PidFile.descriptor, writing] :
          (s.instances j).descriptor = some fd)
        simp only [writing, h.emptied j fd (.inl writing), Option.map_some] at step
        rw [step]
        simp only [String.toList_empty, List.drop_nil, List.append_nil, String.ofList_toList]
    · rw [setInstance_other _ _ same] at locked
      obtain ⟨b, -, holds⟩ := PidFile.holding_of_locked (h.fits j) locked
      rw [h.read?_advance_other same holds]
      exact h.written j locked
  · by_cases same : j = i
    · subst same
      simp only [setInstance_same] at stage
      rcases PidFile.advance_emptying stage with emptying | emptying <;>
        have step := h.read?_advance (by simp [PidFile.descriptor, emptying] :
          (s.instances j).descriptor = some fd) <;>
        simpa only [emptying] using step
    · rw [setInstance_other _ _ same] at stage
      have holds : (s.instances j).holding = some fd := by
        rcases stage with writing | releasing <;> simp [PidFile.holding, *]
      rw [h.read?_advance_other same holds]
      exact h.emptied j fd stage

theorem Sound.call (h : s.Sound) (i : Nat) (c : LockCall) : (s.step (.call i c)).Sound := by
  have held := h.toHeld.call i c
  rw [step_call] at held ⊢
  by_cases idle : (s.instances i).stage = .idle
  · simp only [if_pos idle] at held ⊢
    rcases begun : (s.instances i).begin c with _ | p'
    · simp only [begun] at held ⊢
      exact { h with }
    · simp only [begun] at held ⊢
      -- the call opens nothing yet, or keeps the descriptor it will close
      have started := PidFile.begin_cases begun
      refine ⟨held, fun j fd has => ?_, fun j locked => ?_, fun j fd stage => ?_⟩ <;>
        dsimp only [setInstance_path, setInstance_files] at *
      · by_cases same : j = i
        · subst same
          simp only [setInstance_same] at has
          rcases PidFile.begin_descriptor idle begun with none | kept
          · simp [none] at has
          · exact h.linked j fd (kept ▸ has)
        · exact h.linked j fd (by rwa [setInstance_other _ _ same] at has)
      · by_cases same : j = i
        · subst same
          simp only [setInstance_same] at locked
          rcases started with ⟨file, rfl⟩ | ⟨fd, -, rfl⟩ <;> simp_all [PidFile.locked]
        · exact h.written j (by rwa [setInstance_other _ _ same] at locked)
      · by_cases same : j = i
        · subst same
          simp only [setInstance_same] at stage
          rcases started with ⟨-, rfl⟩ | ⟨fd, -, rfl⟩ <;> simp at stage
        · exact h.emptied j fd (by rwa [setInstance_other _ _ same] at stage)
  · simp only [if_neg idle] at held ⊢
    exact h

theorem Sound.step (h : s.Sound) : ∀ a, a.replaces = false → (s.step a).Sound
  | .call i c, _ => h.call i c
  | .advance i, _ => h.advance i

theorem Sound.run (h : s.Sound) (steps : List LockStep) (own : ∀ a ∈ steps, a.replaces = false) :
    (s.run steps).Sound := by
  induction steps generalizing s with
  | nil => exact h
  | cons a rest ih =>
    exact ih (h.step a (own a (by simp))) fun b mem => own b (by simp [mem])

/-! ### What the calls do -/

@[simp] theorem step_path (s : Contention) (a : LockStep) : (s.step a).path = s.path := by
  cases a with
  | call i c => rw [step_call]; split <;> (try split) <;> rfl
  | advance i => rfl
  | replace text => rfl

theorem run_path (s : Contention) (steps : List LockStep) : (s.run steps).path = s.path := by
  induction steps generalizing s with
  | nil => rfl
  | cons a rest ih => rw [run, List.foldl_cons, ← run, ih, step_path]

/-- A step of anything but an instance leaves that instance alone while its
call is in progress. -/
theorem step_busy (busy : (s.instances i).stage ≠ .idle) {a : LockStep} (other : a ≠ .advance i) :
    (s.step a).instances i = s.instances i := by
  cases a with
  | call j c =>
    rw [step_call]
    by_cases same : i = j
    · subst same; simp [busy]
    · split
      · split
        · rfl
        · exact setInstance_other _ _ same
      · rfl
  | advance j =>
    rw [step_advance]
    exact setInstance_other _ _ (fun same => other (by rw [same]))
  | replace text => rfl

theorem run_busy (busy : (s.instances i).stage ≠ .idle) (rest : List LockStep)
    (others : ∀ a ∈ rest, a ≠ .advance i) : (s.run rest).instances i = s.instances i := by
  induction rest generalizing s with
  | nil => rfl
  | cons a rest ih =>
    have kept := step_busy busy (others a (by simp))
    rw [run, List.foldl_cons, ← run, ih (by rwa [kept]) fun b mem => others b (by simp [mem]), kept]

theorem Held.lock_holder (h : s.Held) (locked : (s.instances i).locked = true) :
    s.step (.call i .lock) = { s with returned := s.returned ++ [(i, .ok ())] } := by
  obtain ⟨fd, file, -⟩ := PidFile.holding_of_locked (h.fits i) locked
  have idle := (h.fits i).tidy.resolve_left (by simp [file])
  simp [step_call, idle, PidFile.begin, file]

/-- Unlocking an idle instance that does not hold the lock returns at once and
changes nothing. -/
theorem unlock_free (free : (s.instances i).locked = false) (idle : (s.instances i).stage = .idle) :
    s.step (.call i .unlock) = { s with returned := s.returned ++ [(i, .ok ())] } := by
  have file : (s.instances i).file = none := by simpa [PidFile.locked] using free
  simp [step_call, idle, PidFile.begin, file]

/-- A refused call returns at its next step, failing with the pid read from
the file as the lock's holder. -/
theorem refused_returns (refused : (s.instances i).stage = .refused fd) :
    ∃ pid, (s.step (.advance i)).returned =
      s.returned ++ [(i, .error (PidFile.heldFault (s.instances i).path pid))] :=
  ⟨PidFile.holderPid (s.files.readAt fd), by simp [step_advance, PidFile.advance, refused]⟩

/-- A flock step taken while another instance holds the lock is refused: both
descriptors are on the file the path links, whose flock the holder has. -/
theorem Sound.flock_refused (h : s.Sound) (other : i ≠ j) (locked : (s.instances j).locked = true)
    (flocking : (s.instances i).stage = .flocking fd) :
    ((s.step (.advance i)).instances i).stage = .refused fd := by
  obtain ⟨b, -, holds⟩ := PidFile.holding_of_locked (h.fits j) locked
  obtain ⟨inode, onB, held⟩ := (h.fits j).owns b holds
  have has : (s.instances i).descriptor = some fd := by simp [PidFile.descriptor, flocking]
  have on : s.files.descriptors fd = some inode := by
    rw [h.linked i fd has, ← h.linked j b (PidFile.descriptor_of_holding holds), onB]
  have distinct : b ≠ fd := fun same => other (h.distinct i j fd has (same ▸ PidFile.descriptor_of_holding holds))
  have refused : s.files.flock fd = none := by simp [FileTable.flock, on, held, distinct]
  simp [step_advance, PidFile.advance, flocking, refused]

/-- The check after the flock: the call goes on holding the flock of the file
the path links, or lets its file go and opens the path again. -/
theorem Held.check (h : s.Held) (checking : (s.instances i).stage = .checking fd) :
    (s.files.link s.path = s.files.descriptors fd →
      ((s.step (.advance i)).instances i).stage = .truncating fd ∧
        ∃ inode, (s.step (.advance i)).files.link s.path = some inode ∧
          (s.step (.advance i)).files.descriptors fd = some inode ∧
          (s.step (.advance i)).files.flocks inode = some fd) ∧
    (s.files.link s.path ≠ s.files.descriptors fd →
      ((s.step (.advance i)).instances i).stage = .opening ∧ (s.step (.advance i)).files.descriptors fd = none) := by
  have opened : s.files.descriptors fd ≠ none := (h.fits i).opened fd (by simp [PidFile.descriptor, checking])
  obtain ⟨inode, on, held⟩ := (h.fits i).owns fd (by simp [PidFile.holding, checking])
  have path := h.paths i
  refine ⟨fun same => ?_, fun moved => ?_⟩
  · have go : ((s.files.descriptors fd).isSome && s.files.link (s.instances i).path == s.files.descriptors fd) = true := by
      simp [on, path, same]
    simp only [step_advance, PidFile.advance, checking, go, if_true, setInstance_same]
    exact ⟨trivial, inode, by rw [same, on], on, held⟩
  · have stop : ((s.files.descriptors fd).isSome && s.files.link (s.instances i).path == s.files.descriptors fd) = false := by
      simp [path, moved]
    simp [step_advance, PidFile.advance, checking, stop]

end Contention

/-- Instances of one lock file, their calls' system calls interleaved in any
order. While nobody else replaces the file, at most one instance holds the
lock, a contender's flock step meanwhile is refused and stays so until its
call returns, a holder's file holds its pid, and the file is empty when a
holder lets the lock go. Locking through the holder, and unlocking an idle
instance that does not hold the lock, return at once and change nothing; a
refused call fails with the holder's pid. Whatever else happens at the path,
a lock call goes on past its check only holding the flock of the file the path
links, and otherwise lets its file go and opens the path again. -/
theorem lock_file_excludes_other_instances (path : String) (files : FileTable) (consistent : files.Consistent)
    (steps : List LockStep) :
    let s := (Contention.start path files).run steps
    ((∀ a ∈ steps, a.replaces = false) →
      (∀ i j, (s.instances i).locked = true → (s.instances j).locked = true → i = j) ∧
      (∀ i j fd, i ≠ j → (s.instances j).locked = true → (s.instances i).stage = .flocking fd →
        ∀ rest : List LockStep, (∀ a ∈ rest, a ≠ .advance i) →
          (((s.step (.advance i)).run rest).instances i).stage = .refused fd) ∧
      (∀ i, (s.instances i).locked = true → s.files.read? path = some (toString s.files.pid ++ "\n")) ∧
      (∀ i fd, (s.instances i).stage = .releasing fd → s.files.read? path = some "")) ∧
    (∀ i, (s.instances i).locked = true → s.step (.call i .lock) = { s with returned := s.returned ++ [(i, .ok ())] }) ∧
    (∀ i, (s.instances i).locked = false → (s.instances i).stage = .idle →
      s.step (.call i .unlock) = { s with returned := s.returned ++ [(i, .ok ())] }) ∧
    (∀ i fd, (s.instances i).stage = .refused fd →
      ∃ pid, (s.step (.advance i)).returned = s.returned ++ [(i, .error (PidFile.heldFault path pid))]) ∧
    (∀ i fd, (s.instances i).stage = .checking fd →
      (s.files.link path = s.files.descriptors fd →
        ((s.step (.advance i)).instances i).stage = .truncating fd ∧
          ∃ inode, (s.step (.advance i)).files.link path = some inode ∧
            (s.step (.advance i)).files.descriptors fd = some inode ∧
            (s.step (.advance i)).files.flocks inode = some fd) ∧
      (s.files.link path ≠ s.files.descriptors fd →
        ((s.step (.advance i)).instances i).stage = .opening ∧ (s.step (.advance i)).files.descriptors fd = none)) := by
  intro s
  have held : s.Held := (Contention.held_start consistent).run steps
  have path : s.path = path := Contention.run_path _ _
  refine ⟨fun own => ?_, fun i => held.lock_holder, fun i => Contention.unlock_free,
    fun i fd refused => ?_, fun i fd checking => ?_⟩
  · have sound : s.Sound := (Contention.sound_start consistent).run steps own
    refine ⟨fun i j li lj => ?_, fun i j fd other locked flocking rest others => ?_,
      fun i locked => ?_, fun i fd releasing => ?_⟩
    · obtain ⟨a, -, hi⟩ := PidFile.holding_of_locked (sound.fits i) li
      obtain ⟨b, -, hj⟩ := PidFile.holding_of_locked (sound.fits j) lj
      exact sound.holder_unique hi hj
    · -- the refused call waits for its own next step
      have refused := sound.flock_refused other locked flocking
      rw [Contention.run_busy (by rw [refused]; simp) rest others, refused]
    · rw [← path]
      exact sound.written i locked
    · rw [← path]
      exact sound.emptied i fd (.inr releasing)
  · obtain ⟨pid, returned⟩ := Contention.refused_returns refused
    exact ⟨pid, by rw [returned, held.paths i, path]⟩
  · rw [← path]
    exact held.check checking

/-- Two instances of `locks/a.pid` on a machine that has opened nothing: the
first locks, the second opens the file and is refused at its flock step. -/
theorem second_instance_is_refused :
    FileTable.Consistent { directories := ["locks"], pid := 4242 } ∧
    let s := (Contention.start "locks/a.pid" { directories := ["locks"], pid := 4242 }).run
      [.call 0 .lock, .advance 0, .advance 0, .advance 0, .advance 0, .advance 0, .call 1 .lock, .advance 1]
    (((∀ a ∈ [LockStep.call 0 .lock, .advance 0, .advance 0, .advance 0, .advance 0, .advance 0,
          .call 1 .lock, .advance 1], a.replaces = false) →
      (∀ i j, (s.instances i).locked = true → (s.instances j).locked = true → i = j) ∧
      (∀ i j fd, i ≠ j → (s.instances j).locked = true → (s.instances i).stage = .flocking fd →
        ∀ rest : List LockStep, (∀ a ∈ rest, a ≠ .advance i) →
          (((s.step (.advance i)).run rest).instances i).stage = .refused fd) ∧
      (∀ i, (s.instances i).locked = true → s.files.read? "locks/a.pid" = some (toString s.files.pid ++ "\n")) ∧
      (∀ i fd, (s.instances i).stage = .releasing fd → s.files.read? "locks/a.pid" = some "")) ∧
    (∀ i, (s.instances i).locked = true → s.step (.call i .lock) = { s with returned := s.returned ++ [(i, .ok ())] }) ∧
    (∀ i, (s.instances i).locked = false → (s.instances i).stage = .idle →
      s.step (.call i .unlock) = { s with returned := s.returned ++ [(i, .ok ())] }) ∧
    (∀ i fd, (s.instances i).stage = .refused fd →
      ∃ pid, (s.step (.advance i)).returned = s.returned ++ [(i, .error (PidFile.heldFault "locks/a.pid" pid))]) ∧
    (∀ i fd, (s.instances i).stage = .checking fd →
      (s.files.link "locks/a.pid" = s.files.descriptors fd →
        ((s.step (.advance i)).instances i).stage = .truncating fd ∧
          ∃ inode, (s.step (.advance i)).files.link "locks/a.pid" = some inode ∧
            (s.step (.advance i)).files.descriptors fd = some inode ∧
            (s.step (.advance i)).files.flocks inode = some fd) ∧
      (s.files.link "locks/a.pid" ≠ s.files.descriptors fd →
        ((s.step (.advance i)).instances i).stage = .opening ∧ (s.step (.advance i)).files.descriptors fd = none))) :=
  have unopened : FileTable.Consistent { directories := ["locks"], pid := 4242 } :=
    ⟨fun _ _ held => by simp at held, fun _ _ => rfl⟩
  ⟨unopened, lock_file_excludes_other_instances "locks/a.pid" _ unopened _⟩

end Acquisition
