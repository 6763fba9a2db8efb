import Mathlib.Tactic.Common
import NetworkPolicy.Proofs.Access.Scopes
import NetworkPolicy.Proofs.Server.Listing

/-!
# What more scopes make of a request

A request that is answered 200 is answered 200 as well when its caller holds more scopes.  It then
does the same to the store and gets the same response, unless it asks for the policies that the
caller may see: of these there may be more, but none is missing and none has changed its place.

Every decision of a handler is passed again with more scopes (`callerIn_of_extends`,
`batchIn_of_extends`), and once it is, the accesses to the store are the same
(`Route.accesses_of_extends`).
-/

namespace NetworkPolicy

open Handler

variable {world wider : World} {limit : Nat} {r : Http.Request}

namespace External

lemma callerIn_of_extends (hworld : world.Extends wider) {allowed : List String} {claims : Claims}
    (h : callerIn world r allowed = .ok claims) :
    ∃ more, callerIn wider r allowed = .ok more ∧ claims.Extends more := by
  obtain ⟨hscope, token, htoken, hclaims⟩ := callerIn_eq_ok_iff.mp h
  obtain ⟨more, hmore, hextends⟩ := hworld.claims token claims hclaims
  exact ⟨more, callerIn_eq_ok_iff.mpr ⟨hextends.hasAnyScope hscope, token, htoken, hmore⟩, hextends⟩

lemma batchIn_of_extends (hworld : world.Extends wider) {batch : List Policy}
    (h : batchIn world limit r = .ok batch) : batchIn wider limit r = .ok batch := by
  obtain ⟨hbody, hvalid, hmanage⟩ := batchIn_eq_ok_iff.mp h
  obtain ⟨claims, hcaller, hcheck⟩ := mayManage_iff.mp hmanage
  obtain ⟨more, hmore, hextends⟩ := callerIn_of_extends hworld hcaller
  have hgranted := Guard.check_of_extends hworld hextends (authorizeIn_eq_ok_iff.mp hcheck)
  exact batchIn_eq_ok_iff.mpr ⟨hbody, hvalid,
    mayManage_iff.mpr ⟨more, hmore, authorizeIn_eq_ok_iff.mpr hgranted⟩⟩

/-- A listing that is answered is answered again, with at least the policies that it had. -/
lemma onStore_listPolicies_of_extends (hworld : world.Extends wider) {s : Store}
    {response : Http.Response}
    (h : ((accesses world (listPolicies r)).onStore s).1 = .ok response) :
    ∃ fewer shown : List Policy, fewer.Sublist shown ∧
      (accesses world (listPolicies r)).onStore s = (.ok (policyList fewer), s) ∧
      (accesses wider (listPolicies r)).onStore s = (.ok (policyList shown), s) := by
  rw [accesses_listPolicies] at h ⊢
  rw [accesses_listPolicies]
  cases hcaller : callerIn world r writeScopes with
  | error e =>
      rw [hcaller] at h
      cases h
  | ok claims =>
      obtain ⟨more, hmore, hextends⟩ := callerIn_of_extends hworld hcaller
      rw [hcaller] at h
      rw [hmore]
      cases hids : Http.queryIds r.query with
      | error e =>
          rw [hids] at h
          cases h
      | ok ids =>
          rw [hids] at h
          simp only [onStore_selection_bind, Program.onStore] at h ⊢
          cases hfewer : (Guard.visible (s.selected ids) claims).evalIn world with
          | error cause =>
              rw [hfewer] at h
              cases h
          | ok fewer =>
              obtain ⟨shown, hshown, hsublist⟩ :=
                Guard.visible_of_extends hworld hextends hfewer
              rw [hshown]
              exact ⟨fewer, shown, hsublist, rfl, rfl⟩

end External

/-- Any other request that is answered leads to the same accesses. -/
lemma Route.accesses_of_extends (hworld : world.Extends wider) {route : Route}
    (hroute : route ≠ .listPolicies) {s : Store} {response : Http.Response}
    (h : ((accesses world (route.handle limit r)).onStore s).1 = .ok response) :
    accesses wider (route.handle limit r) = accesses world (route.handle limit r) := by
  cases route with
  | createPolicies =>
      rw [handle, External.accesses_createPolicies] at h ⊢
      rw [External.accesses_createPolicies]
      cases hbatch : External.batchIn world limit r with
      | error e =>
          rw [hbatch] at h
          cases h
      | ok batch => rw [External.batchIn_of_extends hworld hbatch]
  | deletePolicies =>
      rw [handle, External.accesses_deletePolicies] at h ⊢
      rw [External.accesses_deletePolicies]
      cases hbatch : External.batchIn world limit r with
      | error e =>
          rw [hbatch] at h
          cases h
      | ok batch => rw [External.batchIn_of_extends hworld hbatch]
  | listPolicies => exact absurd rfl hroute
  | listTags =>
      rw [handle, External.accesses_listTags] at h ⊢
      rw [External.accesses_listTags]
      cases hcaller : External.callerIn world r External.adminScopes with
      | error e =>
          rw [hcaller] at h
          cases h
      | ok claims =>
          obtain ⟨more, hmore, -⟩ := External.callerIn_of_extends hworld hcaller
          rw [hmore]
  | listTaggedPolicies =>
      rw [handle, Internal.accesses_listTaggedPolicies, Internal.accesses_listTaggedPolicies]
  | createSelfPolicy =>
      rw [handle, Internal.accesses_createSelfPolicy, Internal.accesses_createSelfPolicy]

lemma Route.exists_ok_of_respond {result : Except ApiError Http.Response}
    (h : (respond result).status = .ok) : ∃ response, result = .ok response := by
  cases result with
  | ok response => exact ⟨response, rfl⟩
  | error e => exact absurd h e.status_ne_ok

namespace Server

/-- Nobody is asked about a request without a route. -/
lemma visit_congr_world (s : Server) {v : Visit} (hroute : Route.find? v.api v.request = none)
    (world : World) : s.visit { v with world } = s.visit v := by
  unfold visit serve Api.answer
  simp only [hroute]
  rfl

/-- **Authority grows with the scopes.**  If a request is answered 200, then it is answered 200 with
the same effect on the store in any world that differs in nothing but that the bearers of verified
tokens hold more scopes.  The response is the same too, unless policies are listed: then those that
were listed are listed again, in the same order, among perhaps some others. -/
theorem visit_of_extends {s : Server} (hs : s.showsTags = true) {v : Visit} {wider : World}
    (hworld : v.world.Extends wider) (hok : (s.visit v).1.status = .ok) :
    (s.visit { v with world := wider }).1.status = .ok ∧
      (s.visit { v with world := wider }).2.store = (s.visit v).2.store ∧
      (¬ v.Takes .listPolicies → (s.visit { v with world := wider }).1 = (s.visit v).1) ∧
      (v.Takes .listPolicies → ∃ fewer shown : List Policy, fewer.Sublist shown ∧
        (s.visit v).1 = External.policyList fewer ∧
        (s.visit { v with world := wider }).1 = External.policyList shown) := by
  cases hroute : Route.find? v.api v.request with
  | none =>
      rw [visit_congr_world s hroute wider]
      exact ⟨hok, rfl, fun _ => rfl, fun hlist => absurd hlist (Visit.not_takes hroute _)⟩
  | some route =>
      have hfirst := visit_eq_onStore hs hroute
      have hsecond := visit_eq_onStore hs (v := { v with world := wider }) hroute
      rw [Route.onStore_answer] at hfirst hsecond
      obtain ⟨response, hresponse⟩ := Route.exists_ok_of_respond
        ((congrArg (fun outcome => outcome.1.status) hfirst).symm.trans hok)
      by_cases hlist : route = .listPolicies
      · subst hlist
        obtain ⟨fewer, shown, hsublist, hfewer, hshown⟩ :=
          External.onStore_listPolicies_of_extends hworld hresponse
        rw [Route.handle, hfewer] at hfirst
        rw [Route.handle, hshown] at hsecond
        obtain ⟨hfirst, hstore⟩ := Prod.ext_iff.mp hfirst
        obtain ⟨hsecond, hstore'⟩ := Prod.ext_iff.mp hsecond
        exact ⟨congrArg Http.Response.status hsecond, hstore'.trans hstore.symm,
          fun hother => absurd hroute hother, fun _ => ⟨fewer, shown, hsublist, hfirst, hsecond⟩⟩
      · rw [Route.accesses_of_extends hworld hlist hresponse, ← hfirst] at hsecond
        obtain ⟨hsame, hstore⟩ := Prod.ext_iff.mp hsecond
        exact ⟨(congrArg Http.Response.status hsame).trans hok, hstore, fun _ => hsame,
          fun htakes => absurd (Visit.Takes.unique hroute htakes) hlist⟩

/-! ### A developer who becomes an administrator -/

/-- The developer with both scopes. -/
def promotedDeveloper : Claims := ⟨[Claims.writeScope, Claims.adminScope], "dev", "Dev"⟩

/-- The shared platform after the promotion. -/
def promotedPlatform : Platform :=
  { sharedPlatform with tokens := [("dev", .ok promotedDeveloper)] }

lemma extends_promotedPlatform :
    World.Extends sharedPlatform.answer promotedPlatform.answer where
  ofGuard := by
    intro q hq
    cases q with
    | checkToken token => exact absurd rfl (hq token)
    | _ => rfl
  claims := by
    intro token claims hclaims
    by_cases htoken : token = "dev"
    · subst htoken
      cases hclaims
      exact ⟨promotedDeveloper, rfl, rfl, rfl, by decide⟩
    · have hlookup : List.lookup token sharedPlatform.tokens = none :=
        List.lookup_eq_none_iff.mpr fun entry hentry => by
          rw [List.mem_singleton.mp hentry]
          exact bne_iff_ne.mpr htoken
      rw [Platform.answer, hlookup] at hclaims
      cases hclaims

/-- Without the promotion only one of the two policies is listed. -/
theorem visit_of_extends_promoted :
    (holding [across, loop]).showsTags = true ∧
    developerVisit.world.Extends promotedPlatform.answer ∧
    ((holding [across, loop]).visit developerVisit).1 = External.policyList [loop] ∧
    ((holding [across, loop]).visit { developerVisit with world := promotedPlatform.answer }).1
      = External.policyList [across, loop] ∧
    ∃ fewer shown : List Policy, fewer.Sublist shown ∧
      ((holding [across, loop]).visit developerVisit).1 = External.policyList fewer ∧
      ((holding [across, loop]).visit { developerVisit with world := promotedPlatform.answer }).1
        = External.policyList shown := by
  have hfirst : ((holding [across, loop]).visit developerVisit).1
      = External.policyList [loop] := by cbv
  have hsecond : ((holding [across, loop]).visit
      { developerVisit with world := promotedPlatform.answer }).1
      = External.policyList [across, loop] := by cbv
  have hok : ((holding [across, loop]).visit developerVisit).1.status = .ok := by
    rw [hfirst]
    rfl
  have hwider := visit_of_extends (s := holding [across, loop]) rfl extends_promotedPlatform hok
  exact ⟨rfl, extends_promotedPlatform, hfirst, hsecond, hwider.2.2.2 (by cbv)⟩

end Server

end NetworkPolicy
