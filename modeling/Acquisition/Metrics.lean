import Acquisition.Fault
import Acquisition.Text.Quoted
/-! Counters of an acquisition session as metric series: counters, a gauge of the active session,
labelled counters and a histogram of delivery sizes. -/
namespace Acquisition

abbrev LabelCounts := List (String × Nat)

def LabelCounts.bump (counts : LabelCounts) (label : String) (n : Nat := 1) : LabelCounts :=
  if counts.any (·.1 == label) then counts.map fun (l, c) => if l == label then (l, c + n) else (l, c)
  else counts ++ [(label, n)]

def LabelCounts.count (counts : LabelCounts) (label : String) : Nat := (counts.lookup label).getD 0

structure Histogram where
  bounds : List Nat
  /-- For each bound, the observations at or below it. -/
  atOrBelow : List Nat
  count : Nat := 0
  sum : Nat := 0

namespace Histogram

def exponential (start factor count : Nat) : Histogram :=
  let bounds := (List.range count).map fun i => start * Nat.pow factor i
  { bounds, atOrBelow := bounds.map fun _ => 0 }

def observe (h : Histogram) (x : Nat) : Histogram :=
  { h with atOrBelow := (h.bounds.zip h.atOrBelow).map fun (b, c) => if x ≤ b then c + 1 else c
           count := h.count + 1, sum := h.sum + x }

end Histogram

def counterDecrease : Abort := .refused "counter cannot decrease in value"

structure Metrics where
  sessionActive : Bool := false
  sessions : Nat := 0
  batchesRead : Nat := 0
  readErrors : Nat := 0
  batchesDropped : Nat := 0
  deliveries : Nat := 0
  samplesDelivered : Nat := 0
  buttonEvents : Nat := 0
  eventsDropped : Nat := 0
  settingsRequests : LabelCounts := []
  settingsErrors : LabelCounts := []
  sinkErrors : LabelCounts := []
  deliverySize : Histogram := Histogram.exponential 32 2 12

namespace Metrics

def sessionStarted (m : Metrics) : Metrics := { m with sessions := m.sessions + 1, sessionActive := true }
def sessionStopped (m : Metrics) : Metrics := { m with sessionActive := false }
def batchRead (m : Metrics) : Metrics := { m with batchesRead := m.batchesRead + 1 }
def readFailed (m : Metrics) : Metrics := { m with readErrors := m.readErrors + 1 }
def batchDropped (m : Metrics) : Metrics := { m with batchesDropped := m.batchesDropped + 1 }
def buttonEvent (m : Metrics) : Metrics := { m with buttonEvents := m.buttonEvents + 1 }
def eventDropped (m : Metrics) : Metrics := { m with eventsDropped := m.eventsDropped + 1 }

def delivered (m : Metrics) (n : Nat) : Metrics :=
  { m with deliveries := m.deliveries + 1, samplesDelivered := m.samplesDelivered + n
           deliverySize := m.deliverySize.observe n }

def settingsRequest (m : Metrics) (direction : String) (failed : Bool) : Metrics :=
  { m with settingsRequests := m.settingsRequests.bump direction
           settingsErrors := if failed then m.settingsErrors.bump direction else m.settingsErrors }

def sinkFailed (m : Metrics) (sink : String) : Metrics :=
  { m with sinkErrors := m.sinkErrors.bump sink }

/-- The name of every metric family, as it is registered. -/
def familyNames : List String :=
  ["timeswipe_session_active", "timeswipe_sessions_total", "timeswipe_batches_read_total",
    "timeswipe_read_errors_total", "timeswipe_batches_dropped_total", "timeswipe_deliveries_total",
    "timeswipe_samples_delivered_total", "timeswipe_button_events_total",
    "timeswipe_events_dropped_total", "timeswipe_settings_requests_total",
    "timeswipe_settings_errors_total", "timeswipe_sink_errors_total", "timeswipe_delivery_samples"]

def labelled (name label : String) (counts : LabelCounts) : List (String × Nat) :=
  counts.map fun (v, c) => (name ++ "\x7b" ++ label ++ "=" ++ Text.quote v ++ "\x7d", c)

/-- Every series with its value. -/
def series (m : Metrics) : List (String × Nat) :=
  [("timeswipe_session_active", if m.sessionActive then 1 else 0),
    ("timeswipe_sessions_total", m.sessions),
    ("timeswipe_batches_read_total", m.batchesRead),
    ("timeswipe_read_errors_total", m.readErrors),
    ("timeswipe_batches_dropped_total", m.batchesDropped),
    ("timeswipe_deliveries_total", m.deliveries),
    ("timeswipe_samples_delivered_total", m.samplesDelivered),
    ("timeswipe_button_events_total", m.buttonEvents),
    ("timeswipe_events_dropped_total", m.eventsDropped)] ++
  labelled "timeswipe_settings_requests_total" "direction" m.settingsRequests ++
  labelled "timeswipe_settings_errors_total" "direction" m.settingsErrors ++
  labelled "timeswipe_sink_errors_total" "sink" m.sinkErrors ++
  (m.deliverySize.bounds.zip m.deliverySize.atOrBelow).map (fun (b, c) =>
    ("timeswipe_delivery_samples_bucket\x7ble=\"" ++ toString b ++ "\"\x7d", c)) ++
  [("timeswipe_delivery_samples_count", m.deliverySize.count),
    ("timeswipe_delivery_samples_sum", m.deliverySize.sum)]

end Metrics

/-- The metric families registered with one exporter. -/
structure Exporter where
  families : List String := []

/-- Registers the session metrics; a second registration of the same families fails. -/
def Exporter.register (e : Exporter) : Except Fault Exporter :=
  if Metrics.familyNames.any e.families.contains then
    .error (.plain "failed to register timeswipe metrics: duplicate metrics collector registration attempted")
  else .ok { families := e.families ++ Metrics.familyNames }

end Acquisition
