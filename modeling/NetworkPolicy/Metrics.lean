import NetworkPolicy.Api.Route
import NetworkPolicy.Tally

/-!
# Metrics

What the server counts, and the text in which it shows the counts.

* `Metrics.Event` — what is counted: answered requests, access checks, store operations.
* `Metrics` — the counts, with `Metrics.record`.
* `Metrics.lines` — the exposition.  How long things took is not part of it: the lines that would
  hold a sum of durations or the content of a bucket name their series and hold no value.
-/

namespace NetworkPolicy

/-- How an access check ended. -/
inductive AccessOutcome where
  | authorized
  | denied
  | failed
  deriving DecidableEq, Repr

def AccessOutcome.name : AccessOutcome → String
  | .authorized => "authorized"
  | .denied => "denied"
  | .failed => "failed"

/-- A use of the store that is timed. -/
inductive StoreUse where
  | create
  | delete
  | list
  | tags
  | listTagged
  | createSelf
  deriving DecidableEq, Repr

/-- The name of a use of the store. -/
def StoreUse.name : StoreUse → String
  | .create => "create"
  | .delete => "delete"
  | .list => "list"
  | .tags => "tags"
  | .listTagged => "list_tagged"
  | .createSelf => "create_self"

/-- What has been counted. -/
structure Metrics where
  /-- Answers by route and status. -/
  requests : Tally (Route × Http.Status)
  /-- Timed requests by route. -/
  requestTimes : Tally Route
  access : Tally AccessOutcome
  storeUses : Tally StoreUse
  deriving Repr

namespace Metrics

def empty : Metrics := ⟨[], [], [], []⟩

/-- Something that is counted. -/
inductive Event where
  | answered (route : Route) (status : Http.Status)
  | access (outcome : AccessOutcome)
  | storeUse (use : StoreUse)
  deriving DecidableEq, Repr

def record (m : Metrics) : Event → Metrics
  | .answered route status =>
    { m with
      requests := m.requests.add (route, status)
      requestTimes := m.requestTimes.add route }
  | .access outcome => { m with access := m.access.add outcome }
  | .storeUse use => { m with storeUses := m.storeUses.add use }

/-! ## The exposition -/

/-- The labels of a series, in their order. -/
abbrev Labels := List (String × String)

/-- The text of a series: its name and its labels. -/
def series (name : String) (labels : Labels) : String :=
  let label (entry : String × String) : String := s!"{entry.1}=\"{entry.2}\""
  String.join [name, "\x7b", ",".intercalate (labels.map label), "\x7d"]

/-- The upper bounds of the buckets. -/
def bucketBounds : List String :=
  ["0.001", "0.005", "0.01", "0.05", "0.1", "0.5", "1.0", "5.0", "+Inf"]

/-- The lines that describe a family; times have a unit. -/
def describe (name kind help : String) (isTime : Bool) : List String :=
  [s!"# HELP {name} {help}.", s!"# TYPE {name} {kind}"] ++
    (if isTime then [s!"# UNIT {name} seconds"] else [])

def counterLine (name : String) (labels : Labels) (n : Nat) : String :=
  let shown := series (name ++ "_total") labels
  s!"{shown} {n}"

/-- The lines of a histogram: the sum and the buckets without values, and the count. -/
def histogramLines (name : String) (labels : Labels) (n : Nat) : List String :=
  let counted := series (name ++ "_count") labels
  [series (name ++ "_sum") labels, s!"{counted} {n}"] ++
    bucketBounds.map fun bound => series (name ++ "_bucket") (("le", bound) :: labels)

def routeLabels (route : Route) : Labels :=
  [("server", route.api.name), ("route", route.name)]

def lines (m : Metrics) : List String :=
  let time := "http_request_duration_seconds"
  let storeTime := "store_operation_duration_seconds"
  describe "http_requests" "counter" "Total number of HTTP requests handled by the server" false ++
    (m.requests.map fun ((route, status), n) =>
      counterLine "http_requests" (routeLabels route ++ [("status", toString status.code)]) n) ++
    describe time "histogram" "Histogram of HTTP request latency (seconds)" true ++
    (m.requestTimes.flatMap fun (route, n) => histogramLines time (routeLabels route) n) ++
    describe "check_access" "counter" "Total number of access checks by outcome" false ++
    (m.access.map fun (outcome, n) => counterLine "check_access" [("outcome", outcome.name)] n) ++
    describe storeTime "histogram" "Histogram of policy store operation latency (seconds)" true ++
    (m.storeUses.flatMap fun (use, n) => histogramLines storeTime [("operation", use.name)] n) ++
    ["# EOF"]

end Metrics

end NetworkPolicy
