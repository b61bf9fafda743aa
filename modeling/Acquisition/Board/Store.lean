import Acquisition.Board.Basic
/-! A board kept in memory, its settings one JSON object: a set merges a request's members, a get
answers the stored values of its names. Button presses are reported once as events. -/
namespace Acquisition

structure SettingsStore where
  values : List (String × Json) := []
  events : List Event := []
  presses : Nat := 0

namespace SettingsStore

def decode (request : String) : Except Fault (List (String × Json)) :=
  match readObject request with
  | .ok members => .ok members
  | .error e => .error (.plain ("invalid settings request: " ++ e))

def encode (members : List (String × Json)) : String := (Json.sorted (.object members)).write true

def setSettings (request : String) : Op SettingsStore String := do
  let members ← MonadExcept.ofExcept (decode request)
  modify fun s => { s with values := Json.lastWins (s.values ++ members) }
  pure (encode members)

def getSettings (request : String) : Op SettingsStore String := do
  let members ← MonadExcept.ofExcept (decode request)
  let s ← MonadState.get
  let found ← members.mapM fun (k, _) =>
    match s.values.lookup k with
    | some v => pure (k, v)
    | none => throw (Fault.plain ("unknown setting " ++ Text.quote k))
  pure (encode found)

def press (s : SettingsStore) : SettingsStore :=
  { s with presses := s.presses + 1, events := s.events ++ [{ button := true, counter := s.presses + 1 }] }

def takeEvents : Op SettingsStore (List Event) := do
  let s ← MonadState.get
  MonadState.set { s with events := [] }
  pure s.events

def board : Board SettingsStore where
  getSettings := getSettings
  setSettings := setSettings
  readEvents := takeEvents

end SettingsStore

end Acquisition
