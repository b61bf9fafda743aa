import Mathlib
import Acquisition.Board.Store
import Acquisition.Proofs.Effect
import Acquisition.Proofs.KeyedList
/-! Settings of a board kept in memory: after any set and get requests, failed ones included, the
store holds for every name its value in the latest set request that gave it. -/

namespace Acquisition.Json

theorem lastWins_concat (xs : List (String × Json)) (k : String) (v : Json) :
    lastWins (xs ++ [(k, v)]) = KeyedList.put (lastWins xs) k v := by
  simp only [lastWins, List.foldl_append, List.foldl_cons, List.foldl_nil]
  rfl

theorem lookup_lastWins_concat (xs : List (String × Json)) (k j : String) (v : Json) :
    (lastWins (xs ++ [(k, v)])).lookup j = if j = k then some v else (lastWins xs).lookup j := by
  rw [lastWins_concat, KeyedList.lookup_put]

theorem nodup_keys_lastWins (xs : List (String × Json)) : ((lastWins xs).map Prod.fst).Nodup := by
  induction xs using List.reverseRecOn with
  | nil => simp [lastWins]
  | append_singleton xs p ih =>
    obtain ⟨k, v⟩ := p
    rw [lastWins_concat]
    exact KeyedList.nodup_put ih k v

theorem lastWins_of_nodup {l : List (String × Json)} (distinct : (l.map Prod.fst).Nodup) : lastWins l = l := by
  induction l using List.reverseRecOn with
  | nil => rfl
  | append_singleton l p ih =>
    obtain ⟨k, v⟩ := p
    rw [List.map_append, List.map_singleton] at distinct
    have absent : k ∉ l.map Prod.fst := fun mem =>
      (List.nodup_append.mp distinct).2.2 k mem k (List.mem_singleton_self k) rfl
    rw [lastWins_concat, ih (List.nodup_append.mp distinct).1, KeyedList.put_of_absent absent]

theorem lastWins_lastWins (xs : List (String × Json)) : lastWins (lastWins xs) = lastWins xs :=
  lastWins_of_nodup (nodup_keys_lastWins xs)

theorem lookup_lastWins_append (xs ys : List (String × Json)) (j : String) :
    (lastWins (xs ++ ys)).lookup j = ((lastWins ys).lookup j).or ((lastWins xs).lookup j) := by
  induction ys using List.reverseRecOn with
  | nil => simp [lastWins]
  | append_singleton ys p ih =>
    obtain ⟨k, v⟩ := p
    rw [← List.append_assoc, lookup_lastWins_concat, lookup_lastWins_concat, ih]
    by_cases asked : j = k <;> simp [asked]

end Acquisition.Json

namespace Acquisition

open Op

namespace SettingsStore

/-- The members of a request that reads as an object give each name the last
value the object gives it. -/
theorem decode_eq_ok {request : String} {members : List (String × Json)} (read : decode request = .ok members) :
    ∃ raw, members = Json.lastWins raw := by
  unfold decode readObject at read
  split at read
  · next object =>
    cases read
    split at object <;> cases object
    exact ⟨_, rfl⟩
  · cases read

theorem run'_setSettings (request : String) (s : SettingsStore) :
    (setSettings request).run' s = match decode request with
      | .ok members => (.ok (encode members), { s with values := Json.lastWins (s.values ++ members) })
      | .error f => (.error f, s) := by
  simp only [setSettings, run'_bind, run'_ofExcept]
  cases decode request <;> rfl

def stored (values : List (String × Json)) (m : String × Json) : Except Fault (String × Json) :=
  match values.lookup m.1 with
  | some v => .ok (m.1, v)
  | none => .error (.plain ("unknown setting " ++ Text.quote m.1))

theorem run'_getSettings (request : String) (s : SettingsStore) :
    (getSettings request).run' s = match decode request with
      | .ok members => (encode <$> members.mapM (stored s.values), s)
      | .error f => (.error f, s) := by
  simp only [getSettings, run'_bind, run'_ofExcept]
  cases decode request with
  | error f => rfl
  | ok members =>
    simp only [run'_get]
    rw [run'_mapM_stateless (stored s.values) fun m t => by unfold stored; cases s.values.lookup m.1 <;> rfl]
    cases members.mapM (stored s.values) <;> rfl

/-- A get answers with the stored value of every requested name, in the order
requested, or refuses a requested name that has none. -/
theorem mapM_stored {values : List (String × Json)} {known : String → Option Json}
    (agrees : ∀ k, values.lookup k = known k) (members : List (String × Json)) :
    match members.mapM (stored values) with
    | .ok found => members.mapM (fun m => (known m.1).map (m.1, ·)) = some found
    | .error f => ∃ m ∈ members, known m.1 = none ∧ f = .plain ("unknown setting " ++ Text.quote m.1) := by
  induction members with
  | nil => rfl
  | cons m rest ih =>
    rw [List.mapM_cons, List.mapM_cons]
    cases present : known m.1 with
    | none =>
      have refused : stored values m = .error (.plain ("unknown setting " ++ Text.quote m.1)) := by
        simp [stored, agrees, present]
      rw [refused]
      exact ⟨m, List.mem_cons_self, present, rfl⟩
    | some v =>
      have found : stored values m = .ok (m.1, v) := by simp [stored, agrees, present]
      rw [found]
      revert ih
      cases rest.mapM (stored values) with
      | error f =>
        rintro ⟨m', mem, absent, rfl⟩
        exact ⟨m', List.mem_cons_of_mem m mem, absent, rfl⟩
      | ok found =>
        intro rest_found
        change List.mapM _ rest = some found at rest_found
        change (some (m.1, v) >>= fun a => List.mapM _ rest >>= fun as => pure (a :: as)) =
          some ((m.1, v) :: found)
        rw [rest_found]
        rfl

/-- A call on the settings. -/
inductive Call
  | set (request : String)
  | get (request : String)

namespace Call

def request : Call → String
  | set r => r
  | get r => r

def op : Call → Op SettingsStore String
  | set r => setSettings r
  | get r => getSettings r

/-- The members a call stores: those of a set request that reads as an object. -/
def stores : Call → List (List (String × Json))
  | set r => match decode r with
    | .ok members => [members]
    | .error _ => []
  | get _ => []

end Call

/-- The store after calls made one after another, each on the store the one
before it left, failed calls included. -/
def afterCalls (calls : List Call) (s : SettingsStore) : SettingsStore :=
  calls.foldl (fun s c => (c.op.run' s).2) s

def setRequests (calls : List Call) : List (List (String × Json)) :=
  calls.flatMap Call.stores

def latest (requests : List (List (String × Json))) (k : String) : Option Json :=
  requests.reverse.findSome? (·.lookup k)

theorem latest_concat (requests : List (List (String × Json))) (members : List (String × Json)) (k : String) :
    latest (requests ++ [members]) k = (members.lookup k).or (latest requests k) := by
  simp only [latest, List.reverse_append, List.reverse_singleton, List.singleton_append, List.findSome?_cons]
  cases members.lookup k <;> rfl

/-- The store gives each name once, with its value in the latest of `requests`
that gave it. -/
structure Remembers (requests : List (List (String × Json))) (s : SettingsStore) : Prop where
  distinct : (s.values.map Prod.fst).Nodup
  lookup : ∀ k, s.values.lookup k = latest requests k

theorem remembers_empty : Remembers [] {} := ⟨List.nodup_nil, fun _ => rfl⟩

theorem Remembers.merge {requests : List (List (String × Json))} {s : SettingsStore} {request : String}
    {members : List (String × Json)} (remembers : Remembers requests s) (read : decode request = .ok members) :
    Remembers (requests ++ [members]) { s with values := Json.lastWins (s.values ++ members) } := by
  obtain ⟨raw, rfl⟩ := decode_eq_ok read
  refine ⟨Json.nodup_keys_lastWins _, fun k => ?_⟩
  -- the store and the request each give a name once, so each stays as it is
  -- before the two are merged
  rw [Json.lookup_lastWins_append, Json.lastWins_lastWins, Json.lastWins_of_nodup remembers.distinct,
    remembers.lookup, latest_concat]

theorem Remembers.call {requests : List (List (String × Json))} {s : SettingsStore} (remembers : Remembers requests s) :
    ∀ c : Call, Remembers (requests ++ c.stores) (c.op.run' s).2
  | .set r => by
    simp only [Call.op, Call.stores, run'_setSettings]
    cases read : decode r with
    | error f => simpa using remembers
    | ok members => exact remembers.merge read
  | .get r => by
    simp only [Call.op, Call.stores, run'_getSettings]
    cases decode r <;> simpa using remembers

theorem Remembers.afterCalls {requests : List (List (String × Json))} {s : SettingsStore}
    (remembers : Remembers requests s) (calls : List Call) :
    Remembers (requests ++ setRequests calls) (afterCalls calls s) := by
  induction calls generalizing requests s with
  | nil => simpa [setRequests, SettingsStore.afterCalls] using remembers
  | cons c rest ih =>
    have step := ih (remembers.call c)
    rwa [List.append_assoc] at step

/-- The settings of a board kept in memory follow the last writer. After any
calls, set and get requests in any order and failed ones included, the store
holds for each name its value in the latest set request that gave it, among
those that read as objects. Then a request that does not read as an object is
refused with the reason and changes nothing. A set request that reads as one
answers with its members written out, and afterwards each name it gives has
the request's value and every other name keeps its own. A get request that
reads as one changes nothing; it answers when every name it asks for was set
before, with each such name paired with its latest value in the order asked,
and otherwise refuses one of the names never set, naming it. -/
theorem settings_follow_last_writer (before : List Call) (c : Call) :
    let s := afterCalls before {}
    let known := latest (setRequests before)
    (∀ k, s.values.lookup k = known k) ∧
    match c, decode c.request with
    | _, .error f => c.op.run' s = (.error f, s)
    | .set _, .ok members =>
      (c.op.run' s).1 = .ok (encode members) ∧
        ∀ k, (c.op.run' s).2.values.lookup k = (members.lookup k).or (known k)
    | .get _, .ok members =>
      (c.op.run' s).2 = s ∧
        match (c.op.run' s).1 with
        | .ok text => ∃ found, members.mapM (fun m => (known m.1).map (m.1, ·)) = some found ∧ text = encode found
        | .error f => ∃ m ∈ members, known m.1 = none ∧ f = .plain ("unknown setting " ++ Text.quote m.1) := by
  intro s known
  have remembers : Remembers (setRequests before) s := by simpa using remembers_empty.afterCalls before
  refine ⟨remembers.lookup, ?_⟩
  cases c with
  | set r =>
    simp only [Call.request, Call.op, run'_setSettings]
    cases read : decode r with
    | error f => rfl
    | ok members => exact ⟨rfl, fun k => ((remembers.merge read).lookup k).trans (latest_concat _ _ _)⟩
  | get r =>
    simp only [Call.request, Call.op, run'_getSettings]
    cases read : decode r with
    | error f => rfl
    | ok members =>
      refine ⟨rfl, ?_⟩
      dsimp only
      have answer := mapM_stored remembers.lookup members
      revert answer
      cases members.mapM (stored s.values) with
      | error f => exact id
      | ok found => exact fun found_all => ⟨found, found_all, rfl⟩

/-- A request is read up to the end of its first JSON value: an object followed
by other text reads as that object, and a set request stores its members. -/
theorem trailing_text_is_not_read :
    decode "\x7b\"a\":1\x7d junk" = .ok [("a", .number "1")] ∧
      ((Call.set "\x7b\"a\":1\x7d junk").op.run' {}).2.values = [("a", .number "1")] :=
  ⟨rfl, rfl⟩

end SettingsStore

end Acquisition
