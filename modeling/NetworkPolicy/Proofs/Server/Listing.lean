import Mathlib.Tactic.Common
import NetworkPolicy.Proofs.Access.Visibility
import NetworkPolicy.Proofs.Server.Admission
import NetworkPolicy.Proofs.Server.Runs

/-!
# What a caller is shown of the store

A listing of policies selects by the ids of its query, lets the guard filter what has been selected,
and counts what is left.  In a steady world all of this comes to one condition on each stored
policy: it is asked for (`External.AsksFor`), and the caller may see it (`External.MaySee`).

The answer is therefore a function of what the caller may see: stores that agree on that are listed
alike, whatever else is in them.
-/

namespace NetworkPolicy

namespace External

/-- The query asks for the policy: it gives no ids, or one of them is an app of the policy. -/
def AsksFor : Option (List String) → Policy → Prop
  | none, _ => True
  | some ids, p => p.source ∈ ids ∨ p.destination.id ∈ ids

/-- The caller is an administrator, or both apps of the policy lie in spaces of the caller. -/
def MaySee (world : World) (token : String) (home : String → Option String) (caller : Claims)
    (p : Policy) : Prop :=
  caller.hasScope Claims.adminScope = true ∨ world.Reveals token home caller.userId p

instance (ids : Option (List String)) (p : Policy) : Decidable (AsksFor ids p) :=
  match ids with
  | none => .isTrue trivial
  | some ids => inferInstanceAs (Decidable (p.source ∈ ids ∨ p.destination.id ∈ ids))

instance (world : World) (token : String) (home : String → Option String) (caller : Claims)
    (p : Policy) : Decidable (MaySee world token home caller p) :=
  inferInstanceAs (Decidable (_ ∨ _))

end External

open External

lemma Store.selected_eq_filter (s : Store) (ids : Option (List String)) :
    s.selected ids = s.all.filter fun p => AsksFor ids p := by
  cases ids with
  | none => exact (List.filter_eq_self.mpr fun p _ => decide_eq_true trivial).symm
  | some ids =>
      refine List.filter_congr fun p _ => ?_
      rw [Bool.eq_iff_iff, decide_eq_true_eq]
      simp [AsksFor, Policy.appIds]

namespace Server

variable {s : Server} {v : Visit} {bearer token : String} {caller : Claims}
  {ids : Option (List String)} {home : String → Option String}

/-- The answer to a listing in a steady world. -/
lemma visit_listPolicies (hs : s.showsTags = true) (hroute : v.Takes .listPolicies)
    (hcaller : Admitted v.world v.request bearer caller)
    (hquery : Http.queryIds v.request.query = .ok ids) (hworld : v.world.Steady token home) :
    (s.visit v).1 = policyList ((s.store.selected ids).filter fun p =>
      MaySee v.world token home caller p) := by
  obtain ⟨metrics, hvisit⟩ := visit_of_takes hs hroute
  rw [hvisit, Route.handle, accesses_listPolicies, callerIn_of_admitted hcaller, hquery]
  show Route.respond (((selection ids).bind _).onStore s.store).1 = _
  rw [onStore_selection_bind, Guard.visible_of_steady hworld]
  rfl

/-- **A listing is exact.**  In a steady world a caller who may write is answered with those stored
policies, each once and in the order of the store, that the query asks for and that the caller may
see, and with their number.  Two stores that hold the same policies for the caller to see, in the
same order, are answered the same. -/
theorem listing_exact (hs : s.showsTags = true) (hstore : s.store.Reachable)
    (hroute : v.Takes .listPolicies) (hcaller : Admitted v.world v.request bearer caller)
    (hquery : Http.queryIds v.request.query = .ok ids) (hworld : v.world.Steady token home) :
    (∃ listed : List Policy,
      listed = s.store.all.filter
        (fun p => AsksFor ids p ∧ MaySee v.world token home caller p) ∧
      listed.Nodup ∧
      (s.visit v).1 = ⟨.ok, .json (.object [("total_policies", .number listed.length),
        ("policies", Wire.policiesJson listed)])⟩) ∧
    ∀ s' : Server, s'.showsTags = true →
      s'.store.all.filter (fun p => MaySee v.world token home caller p)
        = s.store.all.filter (fun p => MaySee v.world token home caller p) →
      (s'.visit v).1 = (s.visit v).1 := by
  refine ⟨⟨_, rfl, hstore.distinct.all.filter _, ?_⟩, fun s' hs' hsame => ?_⟩
  · have hboth : s.store.all.filter
          (fun p => AsksFor ids p ∧ MaySee v.world token home caller p)
        = (s.store.selected ids).filter fun p => MaySee v.world token home caller p := by
      rw [Store.selected_eq_filter, List.filter_filter]
      refine List.filter_congr fun p _ => ?_
      rw [Bool.decide_and, Bool.and_comm]
    rw [hboth]
    exact visit_listPolicies hs hroute hcaller hquery hworld
  · rw [visit_listPolicies hs hroute hcaller hquery hworld,
      visit_listPolicies hs' hroute hcaller hquery hworld, Store.selected_eq_filter,
      Store.selected_eq_filter, List.filter_comm, hsame, List.filter_comm]

/-! ### A policy of another space -/

/-- Two apps in two spaces, of which the developer is a member of the first. -/
def sharedPlatform : Platform where
  serviceToken := .ok "service-token"
  apps := [("a", "space-1"), ("b", "space-2")]
  spaceGuids := none
  appSpaces := none
  spaces := [("space-1", .ok (some ⟨"one", "org"⟩)), ("space-2", .ok (some ⟨"two", "org"⟩))]
  memberFaults := []
  members := [("dev", ⟨"one", "org"⟩)]
  tokens := [("dev", .ok Guard.developer)]

/-- The app `b` may reach `a` on port 443. -/
def across : Policy := ⟨"b", ⟨"a", .tcp, ⟨443, 443, some 443, by decide, by decide, rfl⟩⟩⟩

/-- The server after one batch has been created. -/
def holding (batch : List Policy) : Server :=
  { small with store := (small.store.perform (.create batch)).2 }

/-- The developer asks for the policies of the app `a`. -/
def developerVisit : Visit where
  api := .external
  request :=
    ⟨"GET", "/networking/v0/external/policies", some "id=a", [("authorization", "Bearer dev")],
      .ofBytes []⟩
  world := sharedPlatform.answer
  ready := true

/-- Both policies are stored and asked for.  The developer sees one of them, and could not tell if
the other were not there. -/
theorem listing_exact_developer :
    (holding [across, loop]).store.all = [across, loop] ∧
    ((holding [across, loop]).visit developerVisit).1
      = ⟨.ok, .json (.object [("total_policies", .number 1),
          ("policies", Wire.policiesJson [loop])])⟩ ∧
    ((holding [loop]).visit developerVisit).1
      = ((holding [across, loop]).visit developerVisit).1 := by
  have hbears : Bears developerVisit.request "dev" :=
    ⟨"Bearer dev", by cbv, by decide, .inl rfl⟩
  have hcaller : Admitted developerVisit.world developerVisit.request "dev" Guard.developer :=
    ⟨hbears, rfl, .inr (by decide)⟩
  have hspaces : ∀ entry ∈ sharedPlatform.spaces, ∃ found, entry.2 = Except.ok found := by
    simp [sharedPlatform]
  have hworld : developerVisit.world.Steady "service-token" _ :=
    Platform.steady (p := sharedPlatform) rfl rfl (by decide) hspaces rfl
  have hall : (holding [across, loop]).store.all = [across, loop] := by cbv
  have hstore : (holding [across, loop]).store.Reachable := .perform _ (.new _)
  have hquery : Http.queryIds developerVisit.request.query = .ok (some ["a"]) := by cbv
  obtain ⟨⟨listed, hlisted, -, hanswer⟩, hsame⟩ :=
    listing_exact (s := holding [across, loop]) rfl hstore (by cbv) hcaller hquery hworld
  have hshown : listed = [loop] := by
    rw [hlisted, hall]
    decide
  have hother : (holding [loop]).store.all = [loop] := by cbv
  refine ⟨hall, ?_, hsame (holding [loop]) rfl ?_⟩
  · rw [hanswer, hshown]
    rfl
  · rw [hall, hother]
    decide

end Server

end NetworkPolicy
