import Mathlib
import Acquisition.Tool.Register
import Acquisition.Proofs.ShiftRegister.Serial
import Acquisition.Proofs.KeyedList
/-! Setting outputs of the strain-gauge control register from the command line, over every argument
list, saved value and order of the levels. -/

namespace Acquisition.Tool.Act

/-! ### Running actions -/

variable {α β : Type}

theorem run_bind (x : Act α) (f : α → Act β) (w : World) :
    (x >>= f).run w = match x.run w with
      | (.ok a, w') => (f a).run w'
      | (.error e, w') => (.error e, w') := by
  show StateT.run (ExceptT.run (x >>= f)) w = match StateT.run (ExceptT.run x) w with
      | (.ok a, w') => StateT.run (ExceptT.run (f a)) w'
      | (.error e, w') => (.error e, w')
  rw [ExceptT.run_bind, StateT.run_bind]
  rcases StateT.run (ExceptT.run x) w with ⟨_ | a, w'⟩ <;> rfl

@[simp] theorem run_pure (a : α) (w : World) : (pure a : Act α).run w = (.ok a, w) := rfl

@[simp] theorem run_get (w : World) : (get : Act World).run w = (.ok w, w) := rfl

@[simp] theorem run_modify (f : World → World) (w : World) : (modify f : Act PUnit).run w = (.ok ⟨⟩, f w) := rfl

@[simp] theorem run_exit (message : String) (w : World) : (exit message : Act α).run w = (.error (.exit 1 message), w) :=
  rfl

@[simp] theorem run_say (line : String) (w : World) :
    (say line).run w = (.ok (), { w with stdout := w.stdout ++ (line ++ "\n") }) := rfl

@[simp] theorem check_ok (context : String) (a : α) : check context (.ok a) = pure a := rfl

end Acquisition.Tool.Act

namespace Acquisition.FileTable

theorem read?_write (t : FileTable) (path text : String) : (t.write path text).read? path = some text := by
  unfold write
  cases linked : t.link path with
  | some inode =>
    have same : (t.setText inode text).link path = t.link path := rfl
    rw [read?, same, linked, Option.map_some]
    simp [setText]
  | none => simp [read?, create, setText, link]

end Acquisition.FileTable

namespace Acquisition.Tool

open ShiftRegister Op KeyedList

/-! ### Reading the arguments -/

theorem cutAt_eq_some {s before after : String} {sep : Char} :
    cutAt s sep = some (before, after) ↔
      s.toList = before.toList ++ sep :: after.toList ∧ sep ∉ before.toList := by
  unfold cutAt
  rw [List.span_eq_takeWhile_dropWhile]
  constructor
  · intro cut
    split at cut
    · rename_i taken c rest split
      simp only [Prod.mk.injEq] at split cut
      obtain ⟨rfl, dropped⟩ := split
      obtain ⟨rfl, rfl⟩ := cut
      -- the first character not taken is the separator itself
      have stop := List.head_dropWhile_not (· != sep) (l := s.toList) (by simp [dropped])
      simp only [dropped, List.head_cons, bne_eq_false_iff_eq] at stop
      subst stop
      refine ⟨by simpa [dropped] using (List.takeWhile_append_dropWhile (p := (· != c)) (l := s.toList)).symm, ?_⟩
      intro mem
      have kept := List.mem_takeWhile_imp (by simpa using mem)
      simp at kept
    · cases cut
  · rintro ⟨whole, absent⟩
    have kept : ∀ a ∈ before.toList, (a != sep) = true := fun a mem => by
      simpa using ne_of_mem_of_not_mem mem absent
    simp [whole, List.takeWhile_append_of_pos kept, List.dropWhile_append_of_pos kept]

theorem cutAt_eq_some_iff {s before after : String} :
    cutAt s '=' = some (before, after) ↔ s = before ++ "=" ++ after ∧ '=' ∉ before.toList := by
  rw [cutAt_eq_some, ← String.toList_inj]
  simp

theorem readInt_dmsName : ∀ n ∈ dmsNames, (Text.readInt n).toOption = none := by decide

theorem nodup_dmsNames : dmsNames.Nodup := by decide

theorem parseDmsPin_eq_ok {name : String} {bit : Nat} :
    parseDmsPin name = .ok bit ↔
      bit < dmsWidth ∧ (dmsNames[bit]? = some name ∨ Text.readInt name = .ok (bit : Int)) := by
  unfold parseDmsPin
  cases found : dmsNames.idxOf? name with
  | some i =>
    obtain ⟨inside, named, -⟩ := List.idxOf?_eq_some_iff.1 found
    have mem : name ∈ dmsNames := named ▸ List.getElem_mem inside
    -- no name of an output reads as a number
    have notInt : Text.readInt name ≠ .ok (bit : Int) := fun read => by
      simpa [read, Except.toOption] using readInt_dmsName name mem
    simp only [Except.ok.injEq]
    constructor
    · rintro rfl
      exact ⟨inside, .inl (List.getElem?_eq_some_iff.2 ⟨inside, named⟩)⟩
    · rintro ⟨small, named' | read⟩
      · obtain ⟨small', named'⟩ := List.getElem?_eq_some_iff.1 named'
        exact (List.Nodup.getElem_inj_iff nodup_dmsNames).1 (named.trans named'.symm)
      · exact absurd read notInt
  | none =>
    have unnamed : dmsNames[bit]? ≠ some name := fun named =>
      List.idxOf?_eq_none_iff.1 found (List.mem_of_getElem? named)
    simp only [unnamed, false_or]
    cases read : Text.readInt name with
    | error e => simp [parseDmsPin.refused]
    | ok n =>
      simp only [Except.ok.injEq]
      by_cases range : 0 ≤ n ∧ n < dmsWidth
      · simp only [range, decide_true, Bool.and_self, if_true, Except.ok.injEq]
        omega
      · have refusedRange : (decide (0 ≤ n) && decide (n < (dmsWidth : Int))) = false := by
          simpa using range
        simp only [refusedRange, Bool.false_eq_true, if_false, parseDmsPin.refused, reduceCtorEq, false_iff]
        omega

/-- An argument that sets an output: `name=level`, with no `=` in the name;
the name, in any case, is an output's name or its bit number, and the level a
truth value. -/
def Setting (arg : String) (bit : Nat) (level : Bool) : Prop :=
  ∃ name raw, arg = name ++ "=" ++ raw ∧ '=' ∉ name.toList ∧
    bit < dmsWidth ∧
    (dmsNames[bit]? = some (Text.lowerCase name) ∨ Text.readInt (Text.lowerCase name) = .ok (bit : Int)) ∧
    Text.parseBool raw = .ok level

theorem Setting.bit_lt {arg : String} {bit : Nat} {level : Bool} (setting : Setting arg bit level) :
    bit < dmsWidth := by
  obtain ⟨_, _, _, _, small, _⟩ := setting
  exact small

theorem parseLevel_eq_ok {arg : String} {s : Nat × Bool} : parseLevel arg = .ok s ↔ Setting arg s.1 s.2 := by
  unfold parseLevel
  constructor
  · intro read
    split at read
    · rename_i name raw cut
      obtain ⟨whole, absent⟩ := cutAt_eq_some_iff.1 cut
      cases pin : parseDmsPin (Text.lowerCase name) <;> cases truth : Text.parseBool raw <;>
        simp [pin, truth, Except.mapError, bind, Except.bind, pure, Except.pure] at read
      subst read
      obtain ⟨small, named⟩ := parseDmsPin_eq_ok.1 pin
      exact ⟨name, raw, whole, absent, small, named, truth⟩
    · cases read
  · rintro ⟨name, raw, whole, absent, small, named, truth⟩
    rw [cutAt_eq_some_iff.2 ⟨whole, absent⟩]
    dsimp only
    rw [parseDmsPin_eq_ok.2 ⟨small, named⟩, truth]
    rfl

/-! ### One level per output, the last one given -/

theorem putLevel_eq_put (levels : List (Nat × Bool)) (bit : Nat) (level : Bool) :
    putLevel levels bit level = put levels bit level := rfl

theorem lookup_putLevel (levels : List (Nat × Bool)) (bit k : Nat) (level : Bool) :
    (putLevel levels bit level).lookup k = if k = bit then some level else levels.lookup k := by
  rw [putLevel_eq_put]
  exact lookup_put levels bit k level

theorem nodup_putLevel {levels : List (Nat × Bool)} (distinct : (levels.map Prod.fst).Nodup) (bit : Nat)
    (level : Bool) : ((putLevel levels bit level).map Prod.fst).Nodup := by
  rw [putLevel_eq_put]
  exact nodup_put distinct bit level

/-- The levels kept from a sequence of readings: for each output, the last
reading of it, else what was kept before. -/
theorem lookup_foldl_putLevel (settings : List (Nat × Bool)) (init : List (Nat × Bool)) (k : Nat) :
    (settings.foldl (fun ls s => putLevel ls s.1 s.2) init).lookup k =
      (settings.reverse.lookup k).or (init.lookup k) := by
  induction settings generalizing init with
  | nil => simp
  | cons s rest ih =>
    obtain ⟨b, l⟩ := s
    rw [List.foldl_cons, ih, lookup_putLevel, List.reverse_cons, List.lookup_append, Option.or_assoc,
      lookup_cons_ite, List.lookup_nil]
    by_cases asked : k = b <;> simp [asked]

theorem nodup_foldl_putLevel (settings : List (Nat × Bool)) {init : List (Nat × Bool)}
    (distinct : (init.map Prod.fst).Nodup) :
    ((settings.foldl (fun ls s => putLevel ls s.1 s.2) init).map Prod.fst).Nodup := by
  induction settings generalizing init with
  | nil => exact distinct
  | cons s rest ih => exact ih (nodup_putLevel distinct s.1 s.2)

theorem foldlM_putLevel (args : List String) (init : List (Nat × Bool)) :
    args.foldlM (fun levels arg => do
        let (bit, level) ← parseLevel arg
        pure (putLevel levels bit level)) init =
      (args.mapM parseLevel).map (·.foldl (fun ls s => putLevel ls s.1 s.2) init) := by
  induction args generalizing init with
  | nil => rfl
  | cons arg rest ih =>
    rw [List.foldlM_cons, List.mapM_cons]
    cases parseLevel arg with
    | error e => rfl
    | ok s =>
      change rest.foldlM _ (putLevel init s.1 s.2) = _
      rw [ih]
      cases rest.mapM parseLevel <;> rfl

theorem mapM_eq_ok_iff {α β ε : Type} (f : α → Except ε β) (xs : List α) (ys : List β) :
    xs.mapM f = .ok ys ↔ List.Forall₂ (fun x y => f x = .ok y) xs ys := by
  induction xs generalizing ys with
  | nil => cases ys <;> simp [pure, Except.pure]
  | cons x rest ih =>
    rw [List.mapM_cons]
    cases fx : f x with
    | error e => cases ys <;> simp [bind, Except.bind, fx]
    | ok y =>
      cases rs : rest.mapM f with
      | error e => cases ys <;> simp [bind, Except.bind, ← ih, rs, fx]
      | ok ys' => cases ys <;> simp [bind, Except.bind, pure, Except.pure, ← ih, rs, fx]

theorem mapM_ok_exists {α β ε : Type} (f : α → Except ε β) (xs : List α) :
    (∃ ys, xs.mapM f = .ok ys) ↔ ∀ x ∈ xs, ∃ y, f x = .ok y := by
  induction xs with
  | nil => simp [pure, Except.pure]
  | cons x rest ih =>
    rw [List.mapM_cons, List.forall_mem_cons, ← ih]
    cases f x <;> cases rest.mapM f <;> simp [bind, Except.bind, pure, Except.pure]

theorem parseLevels_eq_ok {args : List String} {levels : List (Nat × Bool)} :
    parseLevels args = .ok levels ↔
      ∃ settings : List (Nat × Bool), List.Forall₂ (fun arg s => Setting arg s.1 s.2) args settings ∧
        settings.foldl (fun ls s => putLevel ls s.1 s.2) [] = levels := by
  have each : ∀ settings, args.mapM parseLevel = .ok settings ↔
      List.Forall₂ (fun arg s => Setting arg s.1 s.2) args settings := fun settings => by
    simp only [mapM_eq_ok_iff, parseLevel_eq_ok]
  unfold parseLevels
  rw [foldlM_putLevel]
  cases reads : args.mapM parseLevel with
  | error e =>
    refine iff_of_false (by rintro ⟨⟩) ?_
    rintro ⟨settings, all, -⟩
    rw [← each, reads] at all
    cases all
  | ok settings =>
    constructor
    · rintro ⟨⟩
      exact ⟨settings, (each settings).1 reads, rfl⟩
    · rintro ⟨settings', all', rfl⟩
      rw [← each, reads, Except.ok.injEq] at all'
      rw [all']
      rfl

theorem parseLevels_accepts (args : List String) :
    (∃ levels, parseLevels args = .ok levels) ↔ ∀ arg ∈ args, ∃ bit level, Setting arg bit level := by
  have each : ∀ arg, (∃ s, parseLevel arg = .ok s) ↔ ∃ bit level, Setting arg bit level := fun arg => by
    simp only [Prod.exists, parseLevel_eq_ok]
  simp only [← each, ← mapM_ok_exists, parseLevels, foldlM_putLevel]
  cases args.mapM parseLevel <;> simp [Except.map]

theorem parseLevels_keeps_last {args : List String} {levels : List (Nat × Bool)}
    (read : parseLevels args = .ok levels) :
    ∃ settings : List (Nat × Bool), List.Forall₂ (fun arg s => Setting arg s.1 s.2) args settings ∧
      (levels.map Prod.fst).Nodup ∧ ∀ bit, levels.lookup bit = settings.reverse.lookup bit := by
  obtain ⟨settings, all, rfl⟩ := parseLevels_eq_ok.1 read
  refine ⟨settings, all, nodup_foldl_putLevel settings List.nodup_nil, fun bit => ?_⟩
  rw [lookup_foldl_putLevel, List.lookup_nil, Option.or_none]

theorem settings_bits_lt {args : List String} {settings : List (Nat × Bool)}
    (all : List.Forall₂ (fun arg s => Setting arg s.1 s.2) args settings) : ∀ s ∈ settings, s.1 < dmsWidth := by
  induction all with
  | nil => simp
  | cons setting _ ih =>
    rintro s (_ | ⟨_, mem⟩)
    · exact setting.bit_lt
    · exact ih s mem

theorem parseLevels_bits_lt {args : List String} {levels : List (Nat × Bool)}
    (read : parseLevels args = .ok levels) : ∀ o ∈ levels, o.1 < dmsWidth := by
  obtain ⟨settings, all, -, last⟩ := parseLevels_keeps_last read
  intro o mem
  have named : (settings.reverse.lookup o.1).isSome := by
    rw [← last, List.lookup_isSome_iff]
    exact ⟨o, mem, beq_self_eq_true _⟩
  obtain ⟨s, given, same⟩ := List.lookup_isSome_iff.1 named
  rw [beq_iff_eq.1 same]
  exact settings_bits_lt all s (List.mem_reverse.1 given)

/-! ### The saved value -/

theorem mem_toDigits_hex (n : Nat) : ∀ c ∈ Nat.toDigits 16 n, ∃ d < 16, c = Nat.digitChar d := by
  induction n using Nat.strong_induction_on with
  | _ n ih =>
    rw [Nat.toDigits_eq_if (by decide)]
    split
    · rename_i small
      simp only [List.mem_singleton]
      rintro c rfl
      exact ⟨n, small, rfl⟩
    · simp only [List.mem_append, List.mem_singleton]
      rintro c (inner | rfl)
      · exact ih (n / 16) (by omega) c inner
      · exact ⟨n % 16, Nat.mod_lt n (by decide), rfl⟩

theorem digitValue_digitChar : ∀ d < 16, Text.digitValue (Nat.digitChar d) = d := by decide

theorem isWhite_digitChar : ∀ d < 16, Text.isWhite (Nat.digitChar d) = false := by decide

theorem digitChar_ne_underscore : ∀ d < 16, (Nat.digitChar d == '_') = false := by decide

/-- Reading base-16 digits left to right, each step taking a digit onto the
value so far, gives back the number the digits were written from. -/
theorem foldl_toDigits_hex {ε : Type} (step : Except ε (Nat × Bool) → Char → Except ε (Nat × Bool))
    (stepDigit : ∀ n d, d < 16 → n * 16 + d < 2 ^ 64 →
      step (.ok (n, false)) (Nat.digitChar d) = .ok (n * 16 + d, false))
    (n : Nat) (fits : n < 2 ^ 64) : (Nat.toDigits 16 n).foldl step (.ok (0, false)) = .ok (n, false) := by
  induction n using Nat.strong_induction_on with
  | _ n ih =>
    rw [Nat.toDigits_eq_if (by decide)]
    split
    · rename_i small
      simpa using stepDigit 0 n small (by omega)
    · rw [List.foldl_append, ih (n / 16) (by omega) (by omega), List.foldl_cons, List.foldl_nil,
        stepDigit _ _ (Nat.mod_lt n (by decide)) (by omega), Nat.div_add_mod']

theorem toList_hexWithPrefix (n : Nat) : (hexWithPrefix n).toList = '0' :: 'x' :: Nat.toDigits 16 n := by
  have long : 1 - (Nat.toDigits 16 n).length = 0 := by
    have := @Nat.length_toDigits_pos 16 n
    omega
  simp [hexWithPrefix, Text.hexPadded, long]

theorem parseUnsigned_hexWithPrefix {n : Nat} (fits : n < 2 ^ 64) :
    Text.parseUnsigned (hexWithPrefix n) = .ok n := by
  obtain ⟨d, ds, digits⟩ : ∃ d ds, Nat.toDigits 16 n = d :: ds := List.exists_cons_of_ne_nil Nat.toDigits_ne_nil
  have hex : Text.basePrefix ('0' :: 'x' :: d :: ds) = (16, d :: ds) := rfl
  have nonempty : (hexWithPrefix n).isEmpty = false := by
    simp [← String.toList_eq_nil_iff, toList_hexWithPrefix]
  unfold Text.parseUnsigned
  simp only [nonempty, Bool.false_eq_true, if_false, toList_hexWithPrefix, digits, hex]
  rw [← digits, foldl_toDigits_hex _ ?_ n fits]
  · rfl
  · intro m e small fits'
    have below : ¬ Nat.pow 2 64 ≤ m * 16 + e := by
      show ¬ 2 ^ 64 ≤ m * 16 + e
      omega
    simp [digitChar_ne_underscore e small, digitValue_digitChar e small, small, below, bind, Except.bind,
      pure, Except.pure]

theorem trimWhite_hexWithPrefix_line (n : Nat) : Text.trimWhite (hexWithPrefix n ++ "\n") = hexWithPrefix n := by
  obtain ⟨d, ds, digits⟩ : ∃ d ds, (Nat.toDigits 16 n).reverse = d :: ds :=
    List.exists_cons_of_ne_nil (by simp)
  -- the last digit, where trimming from the end stops
  have last : Text.isWhite d = false := by
    have mem : d ∈ Nat.toDigits 16 n := List.mem_reverse.1 (digits ▸ List.mem_cons_self)
    obtain ⟨e, small, rfl⟩ := mem_toDigits_hex n d mem
    exact isWhite_digitChar e small
  have ends : (Nat.toDigits 16 n) = (d :: ds).reverse := by rw [← digits, List.reverse_reverse]
  have newline : "\n".toList = ['\n'] := rfl
  have zero : Text.isWhite '0' = false := by decide
  have blank : Text.isWhite '\n' = true := by decide
  rw [← String.toList_inj]
  simp only [Text.trimWhite, String.toList_ofList, String.toList_append, toList_hexWithPrefix, ends]
  simp [newline, zero, blank, last]

theorem splitOnAux_slash_skip (s : String) (b i : String.Pos.Raw) (r : List String) (more : i.atEnd s = false)
    (other : (i.get s == '/') = false) :
    s.splitOnAux "/" b i 0 r = s.splitOnAux "/" b (i.next s) 0 r := by
  rw [String.splitOnAux]
  have slash : (0 : String.Pos.Raw).get "/" = '/' := by decide
  simp [more, slash, other]

theorem splitOnAux_slash_end (s : String) (b i : String.Pos.Raw) (r : List String) (done : i.atEnd s = true) :
    s.splitOnAux "/" b i 0 r = (b.extract s i :: r).reverse := by
  rw [String.splitOnAux]
  simp [done]

section State

variable {path : String} {w : World}

theorem openError?_of_plain (plain : path.splitOn "/" = [path]) (named : path.isEmpty = false)
    (file : w.files.isDirectory path = false) : w.files.openError? path = none := by
  simp [FileTable.openError?, plain, named, file]

theorem run_saveState_of_writable (writable : w.files.openError? path = none) (v : UInt64) :
    (saveState path v).run w = (.ok (), { w with files := w.files.write path (hexWithPrefix v.toNat ++ "\n") }) := by
  simp only [saveState, Act.run_bind, Act.run_get, writable, Act.run_modify]

theorem run_saveState_of_blocked {reason : String} (blocked : w.files.openError? path = some reason) (v : UInt64) :
    (saveState path v).run w =
      (.error (.exit 1 ("could not save register state: open " ++ path ++ ": " ++ reason)), w) := by
  simp only [saveState, Act.run_bind, Act.run_get, blocked, Act.run_exit]

theorem run_loadState_of_missing (missing : w.files.readFailure? path = some .missing) :
    (loadState path).run w = (.ok 0, w) := by
  have absent : w.files.read? path = none := by
    unfold FileTable.readFailure? at missing
    cases read : w.files.read? path with
    | none => rfl
    | some text => simp [read] at missing
  simp only [loadState, Act.run_bind, Act.run_get, absent, missing, Act.run_pure]

theorem run_loadState_of_saved {v : UInt64} (saved : w.files.read? path = some (hexWithPrefix v.toNat ++ "\n")) :
    (loadState path).run w = (.ok v, w) := by
  simp only [loadState, Act.run_bind, Act.run_get, saved, trimWhite_hexWithPrefix_line,
    parseUnsigned_hexWithPrefix v.toNat_lt, Act.run_pure, UInt64.ofNat_toNat]

theorem load_after_save (writable : w.files.openError? path = none) (v : UInt64) :
    (do saveState path v; loadState path).run w =
      (.ok v, { w with files := w.files.write path (hexWithPrefix v.toNat ++ "\n") }) := by
  rw [Act.run_bind, run_saveState_of_writable writable]
  exact run_loadState_of_saved (FileTable.read?_write _ _ _)

end State

/-! ### Driving the register -/

variable {ρ β : Type}

theorem run_onRegister (extra : ρ) (arena : Arena) (op : Op (Wired (ρ × World)) β) (w : World) :
    (onRegister extra arena op).run w =
      (.ok ((op.run' { arena, lines := (extra, w) }).1, (op.run' { arena, lines := (extra, w) }).2.lines.1,
        (op.run' { arena, lines := (extra, w) }).2.arena), (op.run' { arena, lines := (extra, w) }).2.lines.2) :=
  rfl

/-- A line driver under which every change of a line goes through and no file changes. -/
structure Reliable (set : LineDriver (ρ × World)) : Prop where
  succeeds : ∀ id line level st, ((set id line level).run' st).1 = .ok ()
  keepsFiles : ∀ id line level st, ((set id line level).run' st).2.2.files = st.2.files

theorem reliable_hostLines (lineName : Line → String) : Reliable (hostLines lineName) where
  succeeds _ _ _ _ := rfl
  keepsFiles _ _ _ _ := rfl

variable {set : LineDriver (ρ × World)}

theorem Reliable.drive (reliable : Reliable set) (id : Nat) (ts : List Transition) (st : ρ × World) :
    ∃ st', (Wired.drive set id ts).run' st = (.ok (), st') ∧ st'.2.files = st.2.files := by
  induction ts generalizing st with
  | nil => exact ⟨st, rfl, rfl⟩
  | cons t rest ih =>
    rw [Wired.drive, run'_bind, run'_withContext]
    rcases changed : (set id t.line t.level).run' st with ⟨r, st₁⟩
    have done : r = .ok () := by simpa [changed] using reliable.succeeds id t.line t.level st
    have kept : st₁.2.files = st.2.files := by simpa [changed] using reliable.keepsFiles id t.line t.level st
    subst done
    obtain ⟨st', drove, kept'⟩ := ih st₁
    exact ⟨st', drove, kept'.trans kept⟩

theorem Reliable.write (reliable : Reliable set) (id : Nat) (r : Register) (value : UInt64)
    (w : Wired (ρ × World)) :
    ∃ st, (Wired.write set id r value).run' w =
        (.ok (), { lines := st, arena.registers := w.arena.registers.set! id { r with value } }) ∧
      st.2.files = w.lines.2.files := by
  obtain ⟨st, drove, kept⟩ := reliable.drive id (transitions r.width value) w.lines
  exact ⟨st, by rw [Wired.run'_write, drove], kept⟩

def dmsArena (v : UInt64) : Arena := { registers := #[{ width := dmsWidth, value := v }] }

theorem newRegister_dms : Arena.newRegister {} dmsWidth = .ok (0, dmsArena 0) := rfl

theorem widthMask_dms : widthMask dmsWidth = 0xFFFF := rfl

theorem Reliable.run_restore (reliable : Reliable set) (extra : ρ) (v value : UInt64) (w : World) :
    ∃ extra' w', (onRegister extra (dmsArena v) (Wired.setValue set ((0 : Nat) : Int) value)).run w =
        (.ok (.ok (), extra', dmsArena (value &&& widthMask dmsWidth)), w') ∧ w'.files = w.files := by
  obtain ⟨st, wrote, kept⟩ := reliable.write 0 { width := dmsWidth, value := v } (value &&& widthMask dmsWidth)
    { arena := dmsArena v, lines := (extra, w) }
  refine ⟨st.1, st.2, ?_, kept⟩
  have found : (dmsArena v).register? ((0 : Nat) : Int) = .ok { width := dmsWidth, value := v } := rfl
  rw [run_onRegister, Wired.run'_setValue]
  dsimp only
  rw [found]
  dsimp only
  rw [show ((0 : Nat) : Int).toNat = 0 from rfl, wrote]
  rfl

theorem Reliable.run_setOutput (reliable : Reliable set) {bit : Nat} (small : bit < dmsWidth) (level : Bool)
    (extra : ρ) (v : UInt64) (w : World) :
    ∃ extra' w', (setOutput set 0 (extra, dmsArena v) (bit, level)).run w =
        (.ok (extra', dmsArena (if level then v ||| 1 <<< bit.toUInt64 else v &&& ~~~(1 <<< bit.toUInt64))), w') ∧
      w'.files = w.files := by
  let held : Register := { width := dmsWidth, value := v, claimed := (0 : UInt64) ||| 1 <<< bit.toUInt64 }
  have claimed : (dmsArena v).claim ((0 : Nat) : Int) (bit : Int) =
      .ok ({ register := 0, bit }, { registers := #[held] }) := by
    have inside : (0 : Int) ≤ bit ∧ (bit : Int) < ({ width := dmsWidth, value := v } : Register).width := by
      simp only [dmsWidth] at small ⊢
      omega
    rw [Arena.claim_of_free (r := { width := dmsWidth, value := v }) (by omega) rfl (by simp [dmsWidth]) inside
      (by simp)]
    rfl
  obtain ⟨st, wrote, kept⟩ := reliable.write 0 held
    (if level then v ||| 1 <<< bit.toUInt64 else v &&& ~~~(1 <<< bit.toUInt64))
    { arena := { registers := #[held] }, lines := (extra, w) }
  have found : ({ registers := #[held] } : Arena).register? ((0 : Nat) : Int) = .ok held := rfl
  have pinSet : (Wired.setPin set { register := 0, bit } level).run'
      { arena := { registers := #[held] }, lines := (extra, w) } =
      (.ok (), { lines := st, arena.registers := #[{ held with
        value := if level then v ||| 1 <<< bit.toUInt64 else v &&& ~~~(1 <<< bit.toUInt64) }] }) := by
    rw [Wired.run'_setPin set (p := { register := 0, bit }) rfl, found]
    exact wrote
  -- giving the pin back leaves no bit claimed
  have released : ((0 : UInt64) ||| 1 <<< bit.toUInt64) &&& ~~~(1 <<< bit.toUInt64) = 0 := by simp
  have unclaimed : ({ registers := #[{ held with
      value := if level then v ||| 1 <<< bit.toUInt64 else v &&& ~~~(1 <<< bit.toUInt64) }] } : Arena).unclaim 0 bit =
      dmsArena (if level then v ||| 1 <<< bit.toUInt64 else v &&& ~~~(1 <<< bit.toUInt64)) := by
    show ({ registers := #[{ held with
      value := if level then v ||| 1 <<< bit.toUInt64 else v &&& ~~~(1 <<< bit.toUInt64),
      claimed := held.claimed &&& ~~~(1 <<< bit.toUInt64) }] } : Arena) = _
    rw [show held.claimed &&& ~~~(1 <<< bit.toUInt64) = 0 from released]
    rfl
  unfold Tool.setOutput
  simp only [Act.run_bind, claimed, Act.check_ok, Act.run_pure, run_onRegister, pinSet, Act.run_say, unclaimed]
  exact ⟨st.1, _, rfl, kept⟩

theorem getD_lookup_reverse_cons (b i : Nat) (l : Bool) (rest : List (Nat × Bool)) (before : Nat → Bool) :
    (rest.reverse.lookup i).getD (if i = b then l else before i) =
      (((b, l) :: rest).reverse.lookup i).getD (before i) := by
  rw [List.reverse_cons, List.lookup_append, lookup_cons_ite, List.lookup_nil]
  cases rest.reverse.lookup i with
  | some x => rfl
  | none => by_cases at_bit : i = b <;> simp [at_bit]

/-- Setting outputs one after another writes each level into its bit, the last
level given for a bit winning. -/
theorem Reliable.run_setOutputs (reliable : Reliable set) (levels : List (Nat × Bool))
    (bits : ∀ o ∈ levels, o.1 < dmsWidth) (extra : ρ) (v : UInt64) (w : World) :
    ∃ extra' v' w', (levels.foldlM (setOutput set 0) (extra, dmsArena v)).run w = (.ok (extra', dmsArena v'), w') ∧
      w'.files = w.files ∧ ∀ i, v'.toNat.testBit i = (levels.reverse.lookup i).getD (v.toNat.testBit i) := by
  -- induction on the levels, the value so far generalized; each step is `run_setOutput`
  induction levels generalizing extra v w with
  | nil => exact ⟨extra, v, w, rfl, rfl, fun i => rfl⟩
  | cons o rest ih =>
    obtain ⟨b, l⟩ := o
    have small : b < dmsWidth := bits (b, l) List.mem_cons_self
    obtain ⟨extra₁, w₁, stepped, kept₁⟩ := reliable.run_setOutput small l extra v w
    obtain ⟨extra', v', w', ran, kept', levels'⟩ :=
      ih (fun o mem => bits o (List.mem_cons_of_mem _ mem)) extra₁ _ w₁
    refine ⟨extra', v', w', ?_, kept'.trans kept₁, fun i => ?_⟩
    · rw [List.foldlM_cons, Act.run_bind, stepped]
      exact ran
    · rw [levels' i, testBit_setBit v (by simp only [dmsWidth] at small; omega) l i, getD_lookup_reverse_cons]

/-- With every line change going through, the register is restored from the
saved value cut to sixteen bits, each named output takes the level given last
for it, and the result is what is saved. -/
theorem Reliable.run_driveRegister (reliable : Reliable set) (extra : ρ) (s : UInt64) {levels : List (Nat × Bool)}
    (bits : ∀ o ∈ levels, o.1 < dmsWidth) (path : String) (w : World) :
    ∃ v w', (driveRegister set extra s levels path).run w = (saveState path v).run w' ∧ w'.files = w.files ∧
      ∀ i, v.toNat.testBit i = (levels.reverse.lookup i).getD ((s &&& 0xFFFF).toNat.testBit i) := by
  obtain ⟨extra₁, w₁, restored, kept₁⟩ := reliable.run_restore extra 0 s w
  obtain ⟨extra', v, w', ran, kept', levels'⟩ :=
    reliable.run_setOutputs levels bits extra₁ (s &&& widthMask dmsWidth) w₁
  refine ⟨v, w', ?_, kept'.trans kept₁, fun i => by rw [levels', widthMask_dms]⟩
  unfold Tool.driveRegister
  simp only [newRegister_dms, Act.run_bind, Act.run_pure, restored, Act.check_ok, ran]
  rfl

theorem files_saveState (path : String) (v : UInt64) (w : World) :
    ((saveState path v).run w).2.files = match w.files.openError? path with
      | none => w.files.write path (hexWithPrefix v.toNat ++ "\n")
      | some _ => w.files := by
  cases blocked : w.files.openError? path with
  | none => rw [run_saveState_of_writable blocked]
  | some reason => rw [run_saveState_of_blocked blocked]

/-- With the state file writable, the value saved is the restored value with
each named output at the level given last, and it loads back. -/
theorem Reliable.saves_last_levels (reliable : Reliable set) (extra : ρ) (s : UInt64) {levels : List (Nat × Bool)}
    (bits : ∀ o ∈ levels, o.1 < dmsWidth) {path : String} {w : World} (writable : w.files.openError? path = none) :
    ∃ v w', (driveRegister set extra s levels path).run w = (.ok (), w') ∧
      w'.files = w.files.write path (hexWithPrefix v.toNat ++ "\n") ∧
      (∀ i, v.toNat.testBit i = (levels.reverse.lookup i).getD ((s &&& 0xFFFF).toNat.testBit i)) ∧
      (loadState path).run w' = (.ok v, w') := by
  obtain ⟨v, w₁, ran, kept, levels'⟩ := reliable.run_driveRegister extra s bits path w
  rw [← kept] at writable
  refine ⟨v, _, by rw [ran, run_saveState_of_writable writable], by rw [kept], levels', ?_⟩
  exact run_loadState_of_saved (FileTable.read?_write _ _ _)

theorem Reliable.files_driveRegister (reliable : Reliable set) (extra : ρ) (s : UInt64)
    {levels levels' : List (Nat × Bool)} (bits : ∀ o ∈ levels, o.1 < dmsWidth) (bits' : ∀ o ∈ levels', o.1 < dmsWidth)
    (same : ∀ i, levels'.reverse.lookup i = levels.reverse.lookup i) (path : String) (w : World) :
    ((driveRegister set extra s levels' path).run w).2.files = ((driveRegister set extra s levels path).run w).2.files := by
  obtain ⟨v, w₁, ran, kept, value⟩ := reliable.run_driveRegister extra s bits path w
  obtain ⟨v', w₁', ran', kept', value'⟩ := reliable.run_driveRegister extra s bits' path w
  have equal : v' = v := by
    apply UInt64.toNat_inj.1
    apply Nat.eq_of_testBit_eq
    intro i
    rw [value, value', same]
  rw [ran, ran', files_saveState, files_saveState, equal, kept, kept']

theorem Reliable.files_driveRegister_perm (reliable : Reliable set) (extra : ρ) (s : UInt64)
    {levels order : List (Nat × Bool)} (bits : ∀ o ∈ levels, o.1 < dmsWidth) (distinct : (levels.map Prod.fst).Nodup)
    (reordered : order.Perm levels) (path : String) (w : World) :
    ((driveRegister set extra s order path).run w).2.files = ((driveRegister set extra s levels path).run w).2.files := by
  have distinct' : (levels.reverse.map Prod.fst).Nodup := by rwa [List.map_reverse, List.nodup_reverse]
  have reversed : order.reverse.Perm levels.reverse :=
    (List.reverse_perm order).trans (reordered.trans (List.reverse_perm levels).symm)
  exact reliable.files_driveRegister extra s bits (fun o mem => bits o (reordered.subset mem))
    (lookup_perm reversed distinct') path w

/-! ### The command -/

theorem run_registerSet_of_empty {inv : Invocation} (empty : inv.args = []) (w : World) :
    (registerSet inv).run w = (.error (.exit 1 "expected at least 1 argument"), w) := by
  unfold registerSet
  simp [empty]
  rfl

theorem run_registerSet_of_refused {inv : Invocation} {e : String} (given : inv.args ≠ [])
    (refused : parseLevels inv.args = .error e) (w : World) :
    (registerSet inv).run w = (.error (.exit 1 e), w) := by
  unfold registerSet
  simp [given, refused]
  rfl

/-- The command that sets outputs of the control register. An argument list
is accepted exactly when each argument sets an output; an empty list, or one
with an argument that sets none, stops the command before anything is read or
driven. For an accepted list, with every line change going through (host lines
always do) and the state file writable, the register is restored from any
saved value cut to sixteen bits, each named output takes the level given last
for it, whatever the order of the levels, and the result is saved and loads
back. A missing state file reads as zero, every value saved loads back as
itself, and a state file that cannot be written stops the command. -/
theorem register_set_saves_last_levels :
    (∀ args : List String,
      (∃ levels, parseLevels args = .ok levels) ↔ ∀ arg ∈ args, ∃ bit level, Setting arg bit level) ∧
    (∀ (inv : Invocation) (w : World), inv.args = [] →
      (registerSet inv).run w = (.error (.exit 1 "expected at least 1 argument"), w)) ∧
    (∀ (inv : Invocation) (w : World) (e : String), inv.args ≠ [] → parseLevels inv.args = .error e →
      (registerSet inv).run w = (.error (.exit 1 e), w)) ∧
    (∀ lineName : Line → String, Reliable (hostLines lineName)) ∧
    (∀ {ρ : Type} (set : LineDriver (ρ × World)), Reliable set →
      ∀ (extra : ρ) (s : UInt64) (args : List String) (levels : List (Nat × Bool)) (path : String) (w : World),
        parseLevels args = .ok levels → w.files.openError? path = none →
        ∃ (settings : List (Nat × Bool)) (v : UInt64) (w' : World),
          List.Forall₂ (fun arg o => Setting arg o.1 o.2) args settings ∧
          (driveRegister set extra s levels path).run w = (.ok (), w') ∧
          w'.files = w.files.write path (hexWithPrefix v.toNat ++ "\n") ∧
          (∀ i, v.toNat.testBit i = (settings.reverse.lookup i).getD ((s &&& 0xFFFF).toNat.testBit i)) ∧
          (loadState path).run w' = (.ok v, w') ∧
          ∀ order : List (Nat × Bool), order.Perm levels →
            ((driveRegister set extra s order path).run w).2.files = w'.files) ∧
    (∀ (path : String) (w : World), w.files.readFailure? path = some .missing →
      (loadState path).run w = (.ok 0, w)) ∧
    (∀ (path : String) (w : World) (v : UInt64), w.files.openError? path = none →
      (do saveState path v; loadState path).run w =
        (.ok v, { w with files := w.files.write path (hexWithPrefix v.toNat ++ "\n") })) ∧
    (∀ (path reason : String) (w : World) (v : UInt64), w.files.openError? path = some reason →
      (saveState path v).run w =
        (.error (.exit 1 ("could not save register state: open " ++ path ++ ": " ++ reason)), w)) := by
  refine ⟨parseLevels_accepts, fun _ w empty => run_registerSet_of_empty empty w,
    fun _ w _ given refused => run_registerSet_of_refused given refused w, reliable_hostLines, ?_,
    fun _ _ missing => run_loadState_of_missing missing, fun _ _ v writable => load_after_save writable v,
    fun _ _ _ v blocked => run_saveState_of_blocked blocked v⟩
  intro ρ set reliable extra s args levels path w read writable
  obtain ⟨settings, all, distinct, last⟩ := parseLevels_keeps_last read
  have bits := parseLevels_bits_lt read
  obtain ⟨v, w', ran, saved, value, loaded⟩ := reliable.saves_last_levels extra s bits writable
  -- one entry per output: the first-named order reads each bit as the last reading does
  have first : ∀ i, levels.reverse.lookup i = settings.reverse.lookup i := fun i => by
    rw [lookup_perm (List.reverse_perm levels) distinct, last]
  refine ⟨settings, v, w', all, ran, saved, fun i => by rw [value, first], loaded, fun order reordered => ?_⟩
  rw [reliable.files_driveRegister_perm extra s bits distinct reordered path w, ran]

/-- On host lines, `dac` named twice and `IEPE1` once, over a saved value with
bits beyond sixteen, into a state file that can be written. -/
theorem host_lines_save_last_dac_level :
    let name : Line → String := fun l => match l with | .data => "GPIO5" | .clock => "GPIO6" | .strobe => "GPIO13"
    let args := ["dac=1", "IEPE1=true", "dac=0"]
    let levels := [(15, false), (0, true)]
    Reliable (hostLines name) ∧ parseLevels args = .ok levels ∧ ({} : World).files.openError? "timeswipe.dms" = none ∧
      ∃ (settings : List (Nat × Bool)) (v : UInt64) (w' : World),
        List.Forall₂ (fun arg o => Setting arg o.1 o.2) args settings ∧
        (driveRegister (hostLines name) () 0x18002 levels "timeswipe.dms").run {} = (.ok (), w') ∧
        w'.files = ({} : World).files.write "timeswipe.dms" (hexWithPrefix v.toNat ++ "\n") ∧
        (∀ i, v.toNat.testBit i = (settings.reverse.lookup i).getD (((0x18002 : UInt64) &&& 0xFFFF).toNat.testBit i)) ∧
        (loadState "timeswipe.dms").run w' = (.ok v, w') ∧
        ∀ order : List (Nat × Bool), order.Perm levels →
          ((driveRegister (hostLines name) () 0x18002 order "timeswipe.dms").run {}).2.files = w'.files := by
  intro name args levels
  have reliable : Reliable (hostLines name) := register_set_saves_last_levels.2.2.2.1 name
  have parsed : parseLevels args = .ok levels := by decide +kernel
  have plain : "timeswipe.dms".splitOn "/" = ["timeswipe.dms"] := by
    rw [String.splitOn, if_neg (by decide)]
    simp (disch := decide) only [splitOnAux_slash_skip, splitOnAux_slash_end]
    decide
  have writable : ({} : World).files.openError? "timeswipe.dms" = none := openError?_of_plain plain rfl rfl
  exact ⟨reliable, parsed, writable,
    register_set_saves_last_levels.2.2.2.2.1 (hostLines name) reliable () 0x18002 args levels "timeswipe.dms" {}
      parsed writable⟩

/-- An empty argument list is accepted by the reading of levels, yet the
command refuses it: it stops with an error and saves nothing. -/
theorem empty_arguments_save_nothing :
    parseLevels [] = .ok [] ∧
      (registerSet { frames := [] }).run {} = (.error (.exit 1 "expected at least 1 argument"), {}) :=
  ⟨rfl, run_registerSet_of_empty rfl {}⟩

end Acquisition.Tool
