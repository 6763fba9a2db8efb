import Mathlib
import NetworkPolicy.Access.Platform
import NetworkPolicy.Proofs.Server.Handlers
import NetworkPolicy.Proofs.Store.Contents

/-!
# Runs of the server

A run is a list of visits: requests to any of the three services, each with the world that its
lookups are answered from, which may be a different one for every visit.  The transcript of a run
lists the visits with their responses.

`visit_effect` says everything that one visit can do to the store, as one of the cases of
`Visit.Effect`; what holds of whole runs follows by induction over the list of visits and cases on
the effect.  Where every operation of the store keeps a property, `store_after_induction` is that
induction.
-/

namespace NetworkPolicy

/-- A request to one of the services, with what surrounds it while it is served. -/
structure Visit where
  api : Api
  request : Http.Request
  /-- How the collaborators answer meanwhile. -/
  world : World
  /-- Whether the server counts as ready by then. -/
  ready : Bool

namespace Server

/-- The response to a visit, and the server after it. -/
def visit (s : Server) (v : Visit) : Http.Response × Server :=
  serve (m := Id) v.world { s with ready := v.ready } v.api v.request

/-- The server after a run. -/
def after (s : Server) (visits : List Visit) : Server := visits.foldl (fun s v => (s.visit v).2) s

/-- The visits of a run with their responses. -/
def transcript : Server → List Visit → List (Visit × Http.Response)
  | _, [] => []
  | s, v :: visits => (v, (s.visit v).1) :: (s.visit v).2.transcript visits

@[simp] lemma after_nil (s : Server) : s.after [] = s := rfl

@[simp] lemma after_cons (s : Server) (v : Visit) (visits : List Visit) :
    s.after (v :: visits) = (s.visit v).2.after visits := rfl

lemma after_append (s : Server) (earlier later : List Visit) :
    s.after (earlier ++ later) = (s.after earlier).after later := List.foldl_append

@[simp] lemma transcript_nil (s : Server) : s.transcript [] = [] := rfl

@[simp] lemma transcript_cons (s : Server) (v : Visit) (visits : List Visit) :
    s.transcript (v :: visits) = (v, (s.visit v).1) :: (s.visit v).2.transcript visits := rfl

lemma transcript_append (earlier later : List Visit) : ∀ s : Server,
    s.transcript (earlier ++ later)
      = s.transcript earlier ++ (s.after earlier).transcript later := by
  induction earlier with
  | nil =>
      intro s
      rfl
  | cons v earlier ih =>
      intro s
      rw [List.cons_append, transcript_cons, ih, transcript_cons, after_cons, List.cons_append]

end Server

/-! ## The effect of a visit -/

namespace Visit

/-- The request takes a route. -/
def Takes (v : Visit) (route : Route) : Prop := Route.find? v.api v.request = some route

lemma Takes.api_eq {v : Visit} {route : Route} (h : v.Takes route) : v.api = route.api := by
  have hmatch := List.find?_some h
  simp only [Route.matchesRequest, Bool.and_eq_true, decide_eq_true_eq] at hmatch
  exact hmatch.1.1.symm

lemma Takes.method_eq {v : Visit} {route : Route} (h : v.Takes route) :
    v.request.method = route.method := by
  have hmatch := List.find?_some h
  simp only [Route.matchesRequest, Bool.and_eq_true, decide_eq_true_eq] at hmatch
  exact hmatch.1.2.symm

lemma Takes.api_ne_admin {v : Visit} {route : Route} (h : v.Takes route) : v.api ≠ .admin := by
  rw [h.api_eq]
  cases route <;> decide

lemma Takes.unique {v : Visit} {route route' : Route} (h : v.Takes route) (h' : v.Takes route') :
    route = route' := Option.some.inj (h.symm.trans h')

lemma Takes.iff_eq {v : Visit} {route : Route} (h : v.Takes route) {other : Route} :
    v.Takes other ↔ route = other :=
  ⟨h.unique, fun hsame => hsame ▸ h⟩

lemma not_takes {v : Visit} (hnone : Route.find? v.api v.request = none) (route : Route) :
    ¬ v.Takes route :=
  Option.eq_none_iff_forall_ne_some.mp hnone route

/-- What a visit can do to a store, and how it is then answered: a batch is created, a batch is
deleted, an app is let reach itself, or nothing is changed. -/
inductive Effect (limit : Nat) (v : Visit) (s : Store) : Http.Response → Store → Prop where
  | created {batch : List Policy} (hroute : v.Takes .createPolicies)
      (hbody : v.request.body.decode External.policiesRequest limit = .ok batch)
      (hcaller : External.MayManage v.world v.request batch)
      (hroom : s.hasRoomFor batch = true) : Effect limit v s External.done (s.add batch)
  | deleted {batch : List Policy} (hroute : v.Takes .deletePolicies)
      (hbody : v.request.body.decode External.policiesRequest limit = .ok batch)
      (hcaller : External.MayManage v.world v.request batch) :
      Effect limit v s External.done (s.delete batch)
  | connected {p : Policy} {tag : String} (hroute : v.Takes .createSelfPolicy)
      (hbody : Internal.selfPolicyIn limit v.request = .ok p) (hroom : s.hasRoomFor [p] = true)
      (htag : Internal.tagOf? (s.add [p]).tags p.source = some tag) :
      Effect limit v s (Internal.tagAnswer tag) (s.add [p])
  | idle {response : Http.Response}
      (hidle : ∀ route, v.Takes route → route.method = "POST" → response.status ≠ .ok) :
      Effect limit v s response s

/-- A visit performs one operation on the store, as far as that is left changed. -/
lemma Effect.exists_perform {limit : Nat} {v : Visit} {s s' : Store} {response : Http.Response}
    (h : v.Effect limit s response s') : ∃ op : Store.Operation, s' = (s.perform op).2 := by
  cases h with
  | @created batch hroute hbody hcaller hroom =>
      exact ⟨.create batch, (congrArg Prod.snd (Store.perform_create_of_room hroom)).symm⟩
  | @deleted batch hroute hbody hcaller => exact ⟨.delete batch, rfl⟩
  | @connected p tag hroute hbody hroom htag =>
      exact ⟨.create [p], (congrArg Prod.snd (Store.perform_create_of_room hroom)).symm⟩
  | idle hidle => exact ⟨.all, rfl⟩

end Visit

lemma ApiError.status_ne_ok (e : ApiError) : e.response.status ≠ .ok := by
  intro (h : e.status = .ok)
  cases e with
  | auth cause => cases cause <;> cases h
  | body cause => cases cause <;> cases h
  | _ => cases h

namespace Server

/-- A request that takes a route is answered by a run of that route's program. -/
lemma visit_eq_exec (s : Server) {v : Visit} {route : Route} (hroute : v.Takes route) :
    s.visit v
      = (route.answer s.bodyLimit v.request).exec v.world { s with ready := v.ready } := by
  unfold visit serve Api.answer
  rw [if_neg hroute.api_ne_admin, hroute]
  rfl

/-- A request without a route leaves the server as it is. -/
lemma visit_of_find?_eq_none (s : Server) {v : Visit}
    (hroute : Route.find? v.api v.request = none) :
    (s.visit v).2 = { s with ready := v.ready } := by
  unfold visit serve
  split
  case isTrue hadmin => rfl
  case isFalse hadmin =>
    rw [Api.answer, hroute]
    rfl

/-- The response and the store are those of the accesses alone. -/
lemma visit_eq_onStore {s : Server} (hs : s.showsTags = true) {v : Visit} {route : Route}
    (hroute : v.Takes route) : ((s.visit v).1, (s.visit v).2.store)
      = ((route.answer s.bodyLimit v.request).accesses v.world).onStore s.store := by
  obtain ⟨metrics, hexec⟩ := Program.exec_eq_onStore v.world (route.answer s.bodyLimit v.request)
    (s := { s with ready := v.ready }) hs
  rw [visit_eq_exec s hroute, hexec]

/-- What a handler makes of the store, together with its response. -/
lemma visit_of_takes {s : Server} (hs : s.showsTags = true) {v : Visit} {route : Route}
    (hroute : v.Takes route) : ∃ metrics, s.visit v
      = (Route.respond ((Handler.accesses v.world (route.handle s.bodyLimit v.request)).onStore
            s.store).1,
          { s with
            store := ((Handler.accesses v.world (route.handle s.bodyLimit v.request)).onStore
              s.store).2
            ready := v.ready
            metrics }) := by
  obtain ⟨metrics, hexec⟩ := Program.exec_eq_onStore v.world (route.answer s.bodyLimit v.request)
    (s := { s with ready := v.ready }) hs
  rw [Route.onStore_answer] at hexec
  exact ⟨metrics, (visit_eq_exec s hroute).trans hexec⟩

end Server

open Handler in
/-- **One case for each handler.**  Whatever a handler is asked for, what it makes of the store is
one of the effects of a visit. -/
theorem effect_of_takes (limit : Nat) (s : Store) {v : Visit} {route : Route}
    (hroute : v.Takes route) : v.Effect limit s
      (Route.respond ((accesses v.world (route.handle limit v.request)).onStore s).1)
      ((accesses v.world (route.handle limit v.request)).onStore s).2 := by
  have herror : ∀ e : ApiError, v.Effect limit s e.response s :=
    fun e => .idle fun _ _ _ => e.status_ne_ok
  have hread : route.method ≠ "POST" → ∀ response, v.Effect limit s response s :=
    fun hmethod _ => .idle fun _ hroute' hpost => absurd (hroute.unique hroute' ▸ hpost) hmethod
  cases route with
  | createPolicies =>
      rw [Route.handle, External.accesses_createPolicies]
      cases h : External.batchIn v.world limit v.request with
      | error e => exact herror e
      | ok batch =>
          obtain ⟨hbody, -, hcaller⟩ := External.batchIn_eq_ok_iff.mp h
          cases hroom : s.hasRoomFor batch with
          | true =>
              simp only [Program.onStore, Store.perform_create_of_room hroom]
              exact .created hroute hbody hcaller hroom
          | false =>
              simp only [Program.onStore, Store.perform_create_of_full hroom]
              exact herror _
  | deletePolicies =>
      rw [Route.handle, External.accesses_deletePolicies]
      cases h : External.batchIn v.world limit v.request with
      | error e => exact herror e
      | ok batch =>
          obtain ⟨hbody, -, hcaller⟩ := External.batchIn_eq_ok_iff.mp h
          exact .deleted hroute hbody hcaller
  | listPolicies =>
      rw [Route.handle, External.accesses_listPolicies]
      cases External.callerIn v.world v.request External.writeScopes with
      | error e => exact herror e
      | ok caller =>
          cases Http.queryIds v.request.query with
          | error e => exact herror _
          | ok ids =>
              rw [onStore_selection_bind]
              exact hread (by decide) _
  | listTags =>
      rw [Route.handle, External.accesses_listTags]
      cases External.callerIn v.world v.request External.adminScopes with
      | error e => exact herror e
      | ok caller => exact hread (by decide) _
  | listTaggedPolicies =>
      rw [Route.handle, Internal.accesses_listTaggedPolicies]
      cases Http.queryIds v.request.query with
      | error e => exact herror _
      | ok ids =>
          rw [onStore_selection_bind]
          exact hread (by decide) _
  | createSelfPolicy =>
      rw [Route.handle]
      cases h : Internal.selfPolicyIn limit v.request with
      | error e =>
          rw [Internal.onStore_createSelfPolicy_of_error v.world h]
          exact herror e
      | ok p =>
          cases hroom : s.hasRoomFor [p] with
          | true =>
              obtain ⟨tag, htag, honStore⟩ :=
                Internal.onStore_createSelfPolicy_of_room v.world h hroom
              rw [honStore]
              exact .connected hroute h hroom htag
          | false =>
              rw [Internal.onStore_createSelfPolicy_of_full v.world h hroom]
              exact herror _

namespace Server

/-- What a request changes of a server that shows tags: its store, by the effect of the visit. -/
theorem visit_effect {s : Server} (hs : s.showsTags = true) (v : Visit) :
    v.Effect s.bodyLimit s.store (s.visit v).1 (s.visit v).2.store ∧
      (s.visit v).2.bodyLimit = s.bodyLimit ∧ (s.visit v).2.showsTags = true := by
  cases hroute : Route.find? v.api v.request with
  | some route =>
      obtain ⟨metrics, hvisit⟩ := visit_of_takes hs hroute
      rw [hvisit]
      exact ⟨effect_of_takes s.bodyLimit s.store hroute, rfl, hs⟩
  | none =>
      rw [visit_of_find?_eq_none s hroute]
      exact ⟨.idle fun route htakes => absurd htakes (Visit.not_takes hroute route), rfl, hs⟩

lemma after_setup {s : Server} (hs : s.showsTags = true) (visits : List Visit) :
    (s.after visits).bodyLimit = s.bodyLimit ∧ (s.after visits).showsTags = true := by
  induction visits using List.reverseRecOn with
  | nil => exact ⟨rfl, hs⟩
  | append_singleton visits v ih =>
      rw [after_append]
      obtain ⟨-, hlimit, hshows⟩ := visit_effect ih.2 v
      exact ⟨hlimit.trans ih.1, hshows⟩

/-- What holds of the first store and is kept by every operation holds of the last store. -/
lemma store_after_induction {P : Store → Prop} {s : Server} (hs : s.showsTags = true)
    (hstart : P s.store) (hperform : ∀ (t : Store) (op : Store.Operation), P t → P (t.perform op).2)
    (visits : List Visit) : P (s.after visits).store := by
  induction visits using List.reverseRecOn with
  | nil => exact hstart
  | append_singleton visits v ih =>
      obtain ⟨heffect, -⟩ := visit_effect (after_setup hs visits).2 v
      obtain ⟨op, hop⟩ := heffect.exists_perform
      rw [after_append, after_cons, after_nil, hop]
      exact hperform _ op ih

/-- Along a run no tag is taken away. -/
lemma extends_after {s : Server} (hs : s.showsTags = true) (visits : List Visit) :
    s.store.Extends (s.after visits).store :=
  store_after_induction hs (.refl s.store)
    (fun t op h => h.trans (Store.extends_perform t op)) visits

lemma reachable_after {s : Server} (hs : s.showsTags = true) (hstore : s.store.Reachable)
    (visits : List Visit) : (s.after visits).store.Reachable :=
  store_after_induction hs hstore (fun _ op h => h.perform op) visits

/-- Whatever is in a transcript was answered at some moment of the run. -/
lemma exists_split_of_mem_transcript {v : Visit} {response : Http.Response} (visits : List Visit) :
    ∀ {s : Server}, (v, response) ∈ s.transcript visits → ∃ earlier later,
      visits = earlier ++ v :: later ∧ response = ((s.after earlier).visit v).1 := by
  induction visits with
  | nil =>
      intro s h
      cases h
  | cons first visits ih =>
      intro s h
      rw [transcript_cons] at h
      rcases List.mem_cons.mp h with h | h
      · cases h
        exact ⟨[], visits, rfl, rfl⟩
      · obtain ⟨earlier, later, rfl, hresponse⟩ := ih h
        exact ⟨first :: earlier, later, rfl, hresponse⟩

/-! ## A run of two requests -/

/-- A server with tags of one byte. -/
def small : Server := new ⟨1, by decide, by decide⟩ 1000 true

/-- The app `a` may reach itself on port 90. -/
def loop : Policy := ⟨"a", ⟨"a", .tcp, ⟨90, 90, some 90, by decide, by decide, rfl⟩⟩⟩

/-- A platform that knows no apps, and the token of an administrator. -/
def adminPlatform : Platform where
  serviceToken := .error "unavailable"
  apps := []
  spaceGuids := none
  appSpaces := none
  spaces := []
  memberFaults := []
  members := []
  tokens := [("root", .ok ⟨[Claims.adminScope], "admin", "Admin"⟩)]

/-- The app `a` asks to reach itself on port 90. -/
def loopVisit : Visit where
  api := .internal
  request :=
    ⟨"POST", "/networking/v0/internal/create-self-policy", none, [],
      .ofBytes (Utf8.bytes "\x7b\"id\":\"a\",\"port\":90\x7d".toList)⟩
  world := adminPlatform.answer
  ready := true

/-- An administrator deletes the policy again. -/
def unloopVisit : Visit where
  api := .external
  request :=
    ⟨"POST", "/networking/v0/external/policies/delete", none, [("authorization", "Bearer root")],
      .ofBytes (Utf8.bytes ("\x7b\"policies\":[\x7b\"source\":\x7b\"id\":\"a\"\x7d,".toList ++
        "\"destination\":\x7b\"id\":\"a\",\"protocol\":\"tcp\",\"port\":90\x7d\x7d]\x7d".toList))⟩
  world := adminPlatform.answer
  ready := true

lemma all_after_loop : (small.after [loopVisit]).store.all = [loop] := by cbv

lemma all_after_unloop : (small.after [loopVisit, unloopVisit]).store.all = [] := by cbv

end Server

end NetworkPolicy
