import Mathlib.Tactic.Common
import NetworkPolicy.Proofs.Server.Bookkeeping
import NetworkPolicy.Proofs.Server.Runs

/-!
# What the counters say about a run

The metrics of a server are sums over its whole run, and they are related to each other and to the
requests that were answered.  `Metrics.AgreesWith` says how: every request that takes a route is
counted once as a request, once as a timed request and, by the answer it got, once or not at all
under each of the other counters.

One visit adds the events that are booked for its route (`Route.books_answer`), and a visit without
a route adds none; so the relation is kept by every visit, whatever the world and the store are.

* `taken`, `answeredWith` — how often a transcript has a route, and how often with certain answers.
* `Metrics.AgreesWith` — the relation, kept by one visit in `agreesWith_visit`.
* `Server.metrics_agree` — the metrics after any run.
-/

namespace NetworkPolicy

/-! ## Sums of counts -/

namespace Tally

variable {α : Type} [DecidableEq α]

/-- The sum of the counts of the things with a property. -/
def total (p : α → Bool) (t : Tally α) : Nat :=
  ((t.filter fun entry => p entry.1).map Prod.snd).sum

lemma total_add (p : α → Bool) (thing : α) (t : Tally α) :
    total p (add thing t) = total p t + if p thing then 1 else 0 := by
  induction t with
  | nil => by_cases hp : p thing <;> simp [add, total, hp]
  | cons entry rest ih =>
      obtain ⟨other, n⟩ := entry
      by_cases hother : other = thing
      · subst hother
        by_cases hp : p other
        · simp [add, total, hp]
          omega
        · simp [add, total, hp]
      · unfold total at ih ⊢
        by_cases hp : p other
        · simp [add, hother, hp, ih]
          omega
        · simp [add, hother, hp, ih]

lemma count_add (thing other : α) (t : Tally α) :
    count thing (add other t) = count thing t + if other = thing then 1 else 0 := by
  by_cases h : other = thing
  · rw [if_pos h, h, count_add_self]
  · rw [if_neg h, count_add_of_ne h]
    rfl

end Tally

namespace Metrics

/-- The route of an answer. -/
def Event.route? : Event → Option Route
  | .answered route _ => some route
  | .access _ | .storeUse _ => none

/-- A number that is read off the metrics and goes up by one with certain events counts them. -/
lemma foldl_record (read : Metrics → Nat) {p : Event → Bool}
    (hread : ∀ m event, read (m.record event) = read m + if p event then 1 else 0)
    (events : List Event) : ∀ m, read (events.foldl record m) = read m + events.countP p := by
  induction events with
  | nil => exact fun m => rfl
  | cons event events ih =>
      intro m
      rw [List.foldl_cons, ih, hread, List.countP_cons]
      omega

variable (events : List Event) (m : Metrics)

lemma total_requests_foldl (route : Route) :
    (events.foldl record m).requests.total (·.1 = route)
      = m.requests.total (·.1 = route) + events.countP (·.route? = some route) :=
  foldl_record (fun m => m.requests.total (·.1 = route)) (fun m event => by
    cases event with
    | answered other status => simp [record, Event.route?, Tally.total_add]
    | access outcome => rfl
    | storeUse use => rfl) events m

lemma count_requestTimes_foldl (route : Route) :
    (events.foldl record m).requestTimes.count route
      = m.requestTimes.count route + events.countP (·.route? = some route) :=
  foldl_record (fun m => m.requestTimes.count route) (fun m event => by
    cases event with
    | answered other status => simp [record, Event.route?, Tally.count_add]
    | access outcome => rfl
    | storeUse use => rfl) events m

lemma count_access_foldl (outcome : AccessOutcome) :
    (events.foldl record m).access.count outcome
      = m.access.count outcome + events.count (.access outcome) :=
  foldl_record (fun m => m.access.count outcome) (fun m event => by
    cases event with
    | answered route status => rfl
    | access other => simp [record, Tally.count_add]
    | storeUse use => rfl) events m

lemma count_storeUses_foldl (use : StoreUse) :
    (events.foldl record m).storeUses.count use
      = m.storeUses.count use + events.count (.storeUse use) :=
  foldl_record (fun m => m.storeUses.count use) (fun m event => by
    cases event with
    | answered route status => rfl
    | access outcome => rfl
    | storeUse other => simp [record, Tally.count_add]) events m

end Metrics

/-! ## The events of a visit -/

/-- The uses of the store that can be told from the answers: a route whose requests make them, and
the codes of the answers to the requests that did.  A batch that cannot be checked and one that
cannot be created are both answered 500, so the creations of batches cannot be told. -/
def StoreUse.answers? : StoreUse → Option (Route × List Nat)
  | .create => none
  | .delete => some (.deletePolicies, [200])
  | .list => some (.listPolicies, [200, 500])
  | .tags => some (.listTags, [200])
  | .listTagged => some (.listTaggedPolicies, [200])
  | .createSelf => some (.createSelfPolicy, [200, 500])

namespace Route.Counts

variable {route : Route} {earlier : List Metrics.Event} {status : Http.Status}

/-- Of the answers none is counted before the last event. -/
lemma countP_route?_append (h : route.Counts earlier status) (other : Route) :
    (earlier ++ [Metrics.Event.answered route status]).countP (·.route? = some other)
      = if route = other then 1 else 0 := by
  have hearlier : earlier.countP (·.route? = some other) = 0 := by cases h <;> rfl
  rw [List.countP_append, hearlier, List.countP_singleton, Nat.zero_add]
  simp [Metrics.Event.route?]

/-- Whoever is authorized goes on to use the store, and nobody else creates or deletes. -/
lemma count_authorized (h : route.Counts earlier status) :
    earlier.count (.access .authorized)
      = earlier.count (.storeUse .create) + earlier.count (.storeUse .delete) := by
  cases h <;> rfl

/-- A check that does not end in a denial is answered 200 or 500, and a denial is not. -/
lemma count_checked (h : route.Counts earlier status) :
    earlier.count (.access .authorized) + earlier.count (.access .failed)
      = (if route = .createPolicies ∧ status.code ∈ [200, 500] then 1 else 0)
        + (if route = .deletePolicies ∧ status.code ∈ [200, 500] then 1 else 0) := by
  cases h with
  | refused hcode => simp [hcode]
  | denied hroute => rcases hroute with rfl | rfl <;> rfl
  | undecided hroute => rcases hroute with rfl | rfl <;> rfl
  | created hcode | connected hcode | listed hcode => simp [hcode]
  | deleted | tags | listedTagged => rfl

lemma count_storeUse (h : route.Counts earlier status) {use : StoreUse} {other : Route}
    {codes : List Nat} (huse : use.answers? = some (other, codes)) :
    earlier.count (.storeUse use) = if route = other ∧ status.code ∈ codes then 1 else 0 := by
  have hcodes : codes ⊆ [200, 500] := by
    cases use <;> cases huse <;> decide
  cases h with
  | refused hcode =>
      rw [if_neg fun hsame => hcode (hcodes hsame.2)]
      rfl
  | denied hroute => rcases hroute with rfl | rfl <;> cases use <;> cases huse <;> rfl
  | undecided hroute => rcases hroute with rfl | rfl <;> cases use <;> cases huse <;> rfl
  | created hcode | listed hcode | connected hcode =>
      cases use <;> cases huse <;> simp_all
  | deleted | tags | listedTagged => cases use <;> cases huse <;> rfl

end Route.Counts

/-! ## Transcripts -/

instance (v : Visit) (route : Route) : Decidable (v.Takes route) :=
  inferInstanceAs (Decidable (_ = _))

/-- How many requests of a transcript take a route. -/
def taken (route : Route) (transcript : List (Visit × Http.Response)) : Nat :=
  transcript.countP fun entry => entry.1.Takes route

/-- How many requests of a transcript take a route and are answered with one of the codes. -/
def answeredWith (route : Route) (codes : List Nat) (transcript : List (Visit × Http.Response)) :
    Nat :=
  transcript.countP fun entry => entry.1.Takes route ∧ entry.2.status.code ∈ codes

/-- The counts agree with a transcript, and with each other. -/
structure Metrics.AgreesWith (m : Metrics) (transcript : List (Visit × Http.Response)) : Prop where
  /-- The counts of the answers of a route, over all statuses. -/
  requests : ∀ route, m.requests.total (·.1 = route) = taken route transcript
  /-- Each of these answers is timed. -/
  requestTimes : ∀ route, m.requestTimes.count route = taken route transcript
  /-- Whoever is authorized goes on to create or to delete. -/
  authorized : m.access.count .authorized = m.storeUses.count .create + m.storeUses.count .delete
  /-- The checks that were not denied. -/
  checked : m.access.count .authorized + m.access.count .failed
    = answeredWith .createPolicies [200, 500] transcript
      + answeredWith .deletePolicies [200, 500] transcript
  /-- The uses of the store, as far as they can be told from the answers. -/
  storeUses : ∀ use route codes, use.answers? = some (route, codes) →
    m.storeUses.count use = answeredWith route codes transcript

section

variable {v : Visit} {route : Route} {response : Http.Response} {m : Metrics}
  {transcript : List (Visit × Http.Response)}

lemma taken_append (v : Visit) (response : Http.Response) (route : Route) :
    taken route (transcript ++ [(v, response)])
      = taken route transcript + if v.Takes route then 1 else 0 := by
  rw [taken, List.countP_append, List.countP_singleton]
  simp only [decide_eq_true_eq]
  rfl

lemma answeredWith_append (v : Visit) (response : Http.Response) (route : Route)
    (codes : List Nat) :
    answeredWith route codes (transcript ++ [(v, response)])
      = answeredWith route codes transcript
        + if v.Takes route ∧ response.status.code ∈ codes then 1 else 0 := by
  rw [answeredWith, List.countP_append, List.countP_singleton]
  simp only [decide_eq_true_eq]
  rfl

lemma Metrics.AgreesWith.empty : Metrics.empty.AgreesWith [] where
  requests _ := rfl
  requestTimes _ := rfl
  authorized := rfl
  checked := rfl
  storeUses _ _ _ _ := rfl

/-- A request that takes a route, with what is counted for it. -/
lemma Metrics.AgreesWith.answered (h : m.AgreesWith transcript) (hroute : v.Takes route)
    {earlier : List Metrics.Event} (hcounts : route.Counts earlier response.status) :
    ((earlier ++ [Event.answered route response.status]).foldl record m).AgreesWith
      (transcript ++ [(v, response)]) where
  requests other := by
    rw [total_requests_foldl, hcounts.countP_route?_append, taken_append, h.requests]
    simp only [hroute.iff_eq]
  requestTimes other := by
    rw [count_requestTimes_foldl, hcounts.countP_route?_append, taken_append, h.requestTimes]
    simp only [hroute.iff_eq]
  authorized := by
    have hnew := hcounts.count_authorized
    have hold := h.authorized
    simp only [List.foldl_append, List.foldl_cons, List.foldl_nil, record, count_access_foldl,
      count_storeUses_foldl]
    omega
  checked := by
    have hnew := hcounts.count_checked
    have hold := h.checked
    simp only [List.foldl_append, List.foldl_cons, List.foldl_nil, record, count_access_foldl,
      answeredWith_append, hroute.iff_eq]
    omega
  storeUses use other codes huse := by
    have hnew := hcounts.count_storeUse huse
    have hold := h.storeUses use other codes huse
    simp only [List.foldl_append, List.foldl_cons, List.foldl_nil, record, count_storeUses_foldl,
      answeredWith_append, hroute.iff_eq]
    omega

/-- A request without a route is not counted. -/
lemma Metrics.AgreesWith.unanswered (h : m.AgreesWith transcript)
    (hnone : ∀ route, ¬ v.Takes route) : m.AgreesWith (transcript ++ [(v, response)]) where
  requests route := by
    rw [taken_append, if_neg (hnone route)]
    exact h.requests route
  requestTimes route := by
    rw [taken_append, if_neg (hnone route)]
    exact h.requestTimes route
  authorized := h.authorized
  checked := by
    rw [answeredWith_append, answeredWith_append, if_neg fun h => hnone _ h.1,
      if_neg fun h => hnone _ h.1]
    exact h.checked
  storeUses use route codes huse := by
    rw [answeredWith_append, if_neg fun h => hnone _ h.1]
    exact h.storeUses use route codes huse

end

/-! ## Runs -/

/-- The metrics after a program has run are those before with the events that it books. -/
lemma Program.Books.exec {α : Type} {p : Program Step.Answer α}
    {P : List Metrics.Event → α → Prop} (hp : p.Books P) (world : World) : ∀ s : Server,
    ∃ events, P events (p.exec world s).1 ∧
      (p.exec world s).2.metrics = events.foldl Metrics.record s.metrics := by
  induction p generalizing P with
  | done a => exact fun s => ⟨[], hp, rfl⟩
  | step op next ih =>
      intro s
      rw [exec_step]
      cases op with
      | record event =>
          obtain ⟨events, hevents, hmetrics⟩ := ih () hp (s.step world (.record event)).2
          exact ⟨event :: events, hevents, hmetrics⟩
      | lookup q => exact ih (world q) (hp (world q)) s
      | store op =>
          obtain ⟨events, hevents, hmetrics⟩ := ih _ (hp _) (s.step world (.store op)).2
          have hstep : (s.step world (.store op)).2.metrics = s.metrics := by cases op <;> rfl
          exact ⟨events, hevents, hstep ▸ hmetrics⟩

namespace Server

variable {s : Server}

lemma agreesWith_visit {transcript : List (Visit × Http.Response)}
    (h : s.metrics.AgreesWith transcript) (v : Visit) :
    (s.visit v).2.metrics.AgreesWith (transcript ++ [(v, (s.visit v).1)]) := by
  cases hroute : Route.find? v.api v.request with
  | some route =>
      obtain ⟨events, ⟨earlier, rfl, hcounts⟩, hmetrics⟩ :=
        (Route.books_answer s.bodyLimit v.request route).exec v.world { s with ready := v.ready }
      rw [visit_eq_exec s hroute, hmetrics]
      exact h.answered hroute hcounts
  | none =>
      rw [visit_of_find?_eq_none s hroute]
      exact h.unanswered (Visit.not_takes hroute)

/-- **The metrics after any run.**  On a server that has counted nothing before, the counts agree
with the transcript of the run and with each other, and neither a request without a route nor a
request to the admin service is counted. -/
theorem metrics_agree (hs : s.metrics = .empty) (visits : List Visit) :
    (s.after visits).metrics.AgreesWith (s.transcript visits) ∧
      ∀ v : Visit, v.api = .admin ∨ Route.find? v.api v.request = none →
        ((s.after visits).visit v).2.metrics = (s.after visits).metrics := by
  constructor
  · induction visits using List.reverseRecOn with
    | nil =>
        rw [after_nil, hs]
        exact .empty
    | append_singleton visits v ih =>
        rw [after_append, transcript_append]
        exact agreesWith_visit ih v
  · intro v hv
    have hnone : Route.find? v.api v.request = none := by
      rcases hv with hadmin | hnone
      · exact Option.eq_none_iff_forall_ne_some.mpr fun route hroute =>
          Visit.Takes.api_ne_admin hroute hadmin
      · exact hnone
    rw [visit_of_find?_eq_none _ hnone]

theorem metrics_agree_after_unloop :
    small.metrics = .empty ∧
      (small.after [loopVisit, unloopVisit]).metrics.storeUses = [(.createSelf, 1), (.delete, 1)] ∧
      (small.after [loopVisit, unloopVisit]).metrics.AgreesWith
        (small.transcript [loopVisit, unloopVisit]) ∧
      ((small.after [loopVisit, unloopVisit]).visit { loopVisit with api := .admin }).2.metrics
        = (small.after [loopVisit, unloopVisit]).metrics :=
  ⟨rfl, by cbv, (metrics_agree rfl _).1, (metrics_agree rfl _).2 _ (.inl rfl)⟩

end Server

end NetworkPolicy
