import Mathlib.Tactic.Common
import NetworkPolicy.Proofs.Server.Interleaving
import NetworkPolicy.Proofs.Server.Runs

/-!
# Linearizability of the handlers

Two handlers look at the store twice: the listing for the agents reads policies and then tags, and
an app that asks to reach itself stores its policy and then reads its tag.  Nothing is locked in
between.  Both are still decided by their first look (`decided_answer`), because the tags that they
go on to read are there by then and never change: `taggedPolicyList_of_extends` for the listing,
`Store.tagOf?_of_extends` for the tag of an app.  The other handlers look at the store at most once.

Which operations a request performs is written down route by route in `Inquiry.operations`, and
`Inquiry.accesses_eq_operations` says that its handler performs these and no others.

So `Server.requests_linearizable` holds of any number of requests in flight and any interleaving.
-/

namespace NetworkPolicy

open Handler

/-! ## What each request does to the store -/

/-- A request that takes a route, with the world that answers its lookups. -/
structure Inquiry where
  route : Route
  request : Http.Request
  world : World

namespace Inquiry

/-- What is done once a decision is made.  An error is answered without the store. -/
def served {α : Type} (decision : Except ApiError α)
    (use : α → Program Store.Operation.Answer Http.Response) :
    Program Store.Operation.Answer Http.Response :=
  match decision with
  | .ok a => use a
  | .error e => .done e.response

lemma served_done (result : Except ApiError Http.Response) :
    served result .done = .done (Route.respond result) := by
  cases result with
  | ok response => rfl
  | error e => rfl

/-- The operations on the store that a request performs once it is to be served, each of them on its
own, and the response that follows from their answers. -/
def operations (limit : Nat) (q : Inquiry) : Program Store.Operation.Answer Http.Response :=
  match q.route with
  | .createPolicies =>
      served (External.batchIn q.world limit q.request) fun batch =>
        .step (.create batch) fun (answer : Except StoreError Unit) =>
          served (answer.mapError ApiError.store) fun () => .done External.done
  | .deletePolicies =>
      served (External.batchIn q.world limit q.request) fun batch =>
        .step (.delete batch) fun _ => .done External.done
  | .listPolicies =>
      served (External.callerIn q.world q.request External.writeScopes) fun caller =>
        served ((Http.queryIds q.request.query).mapError ApiError.query) fun ids =>
          (selection ids).bind fun policies =>
            served (((Guard.visible policies caller).evalIn q.world).mapError ApiError.access)
              fun seen => .done (External.policyList seen)
  | .listTags =>
      served (External.callerIn q.world q.request External.adminScopes) fun _ =>
        .step .tags fun tags => .done (External.tagList tags)
  | .listTaggedPolicies =>
      served ((Http.queryIds q.request.query).mapError ApiError.query) fun ids =>
        (selection ids).bind fun policies =>
          .step .tags fun tags => .done (Internal.taggedPolicyList policies tags)
  | .createSelfPolicy =>
      served (Internal.selfPolicyIn limit q.request) fun p =>
        .step (.create [p]) fun (answer : Except StoreError Unit) =>
          served (answer.mapError ApiError.store) fun () =>
            .step .tags fun tags =>
              served (Internal.showTag p.source (Internal.tagOf? tags p.source)) .done

/-- The accesses of a handler are these operations. -/
lemma accesses_eq_operations (limit : Nat) (q : Inquiry) :
    (q.route.answer limit q.request).accesses q.world = q.operations limit := by
  obtain ⟨route, r, world⟩ := q
  rw [Route.accesses_answer]
  cases route with
  | createPolicies =>
      rw [Route.handle, External.accesses_createPolicies]
      dsimp only [operations]
      cases External.batchIn world limit r with
      | error e => rfl
      | ok batch =>
          refine congrArg (Program.step _) (funext fun (answer : Except StoreError Unit) => ?_)
          cases answer with
          | error cause => rfl
          | ok _ => rfl
  | deletePolicies =>
      rw [Route.handle, External.accesses_deletePolicies]
      dsimp only [operations]
      cases External.batchIn world limit r with
      | error e => rfl
      | ok batch => rfl
  | listPolicies =>
      rw [Route.handle, External.accesses_listPolicies]
      dsimp only [operations]
      cases External.callerIn world r External.writeScopes with
      | error e => rfl
      | ok caller =>
          cases Http.queryIds r.query with
          | error e => rfl
          | ok ids =>
              refine (Program.bind_assoc ..).trans (congrArg _ (funext fun policies => ?_))
              cases (Guard.visible policies caller).evalIn world with
              | error cause => rfl
              | ok seen => rfl
  | listTags =>
      rw [Route.handle, External.accesses_listTags]
      dsimp only [operations]
      cases External.callerIn world r External.adminScopes with
      | error e => rfl
      | ok caller => rfl
  | listTaggedPolicies =>
      rw [Route.handle, Internal.accesses_listTaggedPolicies]
      dsimp only [operations]
      cases Http.queryIds r.query with
      | error e => rfl
      | ok ids => exact Program.bind_assoc ..
  | createSelfPolicy =>
      rw [Route.handle, Internal.accesses_createSelfPolicy]
      dsimp only [operations]
      cases Internal.selfPolicyIn limit r with
      | error e => rfl
      | ok p =>
          refine congrArg (Program.step _) (funext fun (answer : Except StoreError Unit) => ?_)
          cases answer with
          | error cause => rfl
          | ok _ =>
              exact congrArg (Program.step _) (funext fun _ => (served_done _).symm)

end Inquiry

/-! ## Handlers are decided by their first operation -/

/-- Policies whose apps have tags are listed with the same tags ever after. -/
lemma taggedPolicyList_of_extends {s t : Store} (hst : s.Extends t) {policies : List Policy}
    (htagged : ∀ p ∈ policies, ∀ id ∈ p.appIds, id ∈ s.tagged) :
    Internal.taggedPolicyList policies t.tags = Internal.taggedPolicyList policies s.tags := by
  have hshow : policies.map (Internal.taggedPolicyJson (Internal.tagTable t.tags))
      = policies.map (Internal.taggedPolicyJson (Internal.tagTable s.tags)) := by
    refine List.map_congr_left fun p hp => ?_
    have hsource := Store.getElem?_tagTable_of_extends hst (htagged p hp _ p.source_mem_appIds)
    have hdestination :=
      Store.getElem?_tagTable_of_extends hst (htagged p hp _ p.destination_mem_appIds)
    simp only [Internal.taggedPolicyJson, Internal.tagMember, hsource, hdestination]
  rw [Internal.taggedPolicyList, Internal.taggedPolicyList, hshow]

section Decided

open Inquiry

variable {α : Type} {use : α → Program Store.Operation.Answer Http.Response}

lemma decided_served {decision : Except ApiError α} (h : ∀ a, Decided (use a)) :
    Decided (served decision use) := by
  cases decision with
  | ok a => exact h a
  | error e => trivial

lemma exists_settled_served {decision : Except ApiError α} {s : Store}
    (h : ∀ a, ∃ response, Settled response s (use a)) :
    ∃ response, Settled response s (served decision use) := by
  cases decision with
  | ok a => exact h a
  | error e => exact ⟨_, rfl⟩

lemma settled_served_done {result : Except ApiError Http.Response} {response : Http.Response}
    {s : Store} : Settled response s (served result .done) ↔ Route.respond result = response := by
  rw [served_done, Settled]

lemma decided_selection_bind {ids : Option (List String)}
    {f : List Policy → Program Store.Operation.Answer Http.Response}
    (h : ∀ s : Store, s.Reachable → ∃ response, Settled response s (f (s.selected ids))) :
    Decided ((selection ids).bind f) := by
  cases ids with
  | none => exact h
  | some ids => exact h

/-- Every handler looks at the store at most once, or goes on to read tags that do not change. -/
lemma decided_answer (world : World) (limit : Nat) (r : Http.Request) (route : Route) :
    Decided ((route.answer limit r).accesses world) := by
  rw [accesses_eq_operations limit ⟨route, r, world⟩]
  cases route with
  | createPolicies =>
      exact decided_served fun batch s _ => exists_settled_served fun _ => ⟨_, rfl⟩
  | deletePolicies => exact decided_served fun batch s _ => ⟨_, rfl⟩
  | listPolicies =>
      exact decided_served fun caller => decided_served fun ids =>
        decided_selection_bind fun s _ => exists_settled_served fun _ => ⟨_, rfl⟩
  | listTags => exact decided_served fun _ s _ => ⟨_, rfl⟩
  | listTaggedPolicies =>
      refine decided_served fun ids => decided_selection_bind fun s hs => ?_
      have htagged : ∀ p ∈ s.selected ids, ∀ id ∈ p.appIds, id ∈ s.tagged :=
        fun p hp => hs.allTagged p (Store.mem_all_of_mem_selected hp)
      exact ⟨_, fun t hst => taggedPolicyList_of_extends hst htagged⟩
  | createSelfPolicy =>
      refine decided_served fun p s _ => ?_
      cases hroom : s.hasRoomFor [p] with
      | true =>
          rw [Store.perform_create_of_room hroom]
          refine ⟨Route.respond (Internal.showTag p.source
            (Internal.tagOf? (s.add [p]).tags p.source)), fun t hst => ?_⟩
          have htag := Store.tagOf?_of_extends hst
            (Store.mem_tagged_add_of_mem s [p] List.mem_cons_self List.mem_cons_self)
          exact settled_served_done.mpr
            (congrArg (fun tag? => Route.respond (Internal.showTag p.source tag?)) htag)
      | false =>
          rw [Store.perform_create_of_full hroom]
          exact ⟨_, rfl⟩

end Decided

/-! ## What the two handlers answer in a single go -/

lemma listTaggedPolicies_onStore (world : World) (limit : Nat) (r : Http.Request) (s : Store) :
    ((Route.listTaggedPolicies.answer limit r).accesses world).onStore s
      = (match Http.queryIds r.query with
          | .ok ids => Internal.taggedPolicyList (s.selected ids) s.tags
          | .error e => (ApiError.query e).response, s) := by
  rw [Inquiry.accesses_eq_operations limit ⟨.listTaggedPolicies, r, world⟩]
  dsimp only [Inquiry.operations]
  cases Http.queryIds r.query with
  | error e => rfl
  | ok ids => exact onStore_selection_bind ids _ s

section CreateSelfPolicy

variable {world : World} {limit : Nat} {r : Http.Request}

/-- Once the body is accepted, the policy is created first. -/
lemma createSelfPolicy_accesses_of_ok (world : World) {p : Policy}
    (h : Internal.selfPolicyIn limit r = .ok p) :
    ∃ next, (Route.createSelfPolicy.answer limit r).accesses world
      = .step (.create [p]) next := by
  rw [Inquiry.accesses_eq_operations limit ⟨.createSelfPolicy, r, world⟩]
  dsimp only [Inquiry.operations]
  rw [h]
  exact ⟨_, rfl⟩

/-- A body that is not accepted is the fault of the request. -/
lemma selfPolicyIn_status_ne {e : ApiError} (h : Internal.selfPolicyIn limit r = .error e) :
    e.status ≠ .internalServerError := by
  intro hstatus
  unfold Internal.selfPolicyIn at h
  cases hbody : r.body.decode Internal.selfPolicyRequest limit with
  | error cause =>
      rw [hbody] at h
      cases h
      cases cause <;> cases hstatus
  | ok request =>
      rw [hbody] at h
      change (Internal.selfPolicy request.1 request.2).mapError ApiError.validation = .error e at h
      cases hp : Internal.selfPolicy request.1 request.2 with
      | error cause =>
          rw [hp] at h
          cases h
          cases hstatus
      | ok p =>
          rw [hp] at h
          cases h

end CreateSelfPolicy

namespace ApiError

lemma response_inj {e e' : ApiError} (h : e.response = e'.response) :
    e.status = e'.status ∧ e.message = e'.message := by
  simp only [response, Http.Response.error, Http.Response.mk.injEq, Http.Payload.json.injEq,
    Json.object.injEq, List.cons.injEq, Prod.mk.injEq, Json.string.injEq, true_and, and_true] at h
  exact h

/-- The two errors have the same status, but their texts differ in the first letter. -/
lemma store_message_ne_missingTag (cause : StoreError) (id : String) :
    (store cause).message ≠ (missingTag id).message := by
  intro h
  have htexts : "database create failed: " ++ cause.message = "no tag found for " ++ id := h
  have hfirst := congrArg (fun text => text.toList.head?) htexts
  simp only [String.toList_append, List.head?_append] at hfirst
  have hletters : some 'd' = some 'n' := hfirst
  exact absurd hletters (by decide)

end ApiError

/-- Served in a single go, an app that asks to reach itself is never told that its tag is missing,
and if it is answered 200 it is told the tag that it has once its policy is stored. -/
lemma createSelfPolicy_onStore {world : World} {limit : Nat} {r : Http.Request} {s s' : Store}
    {response : Http.Response}
    (h : ((Route.createSelfPolicy.answer limit r).accesses world).onStore s = (response, s')) :
    (∀ id, response ≠ (ApiError.missingTag id).response) ∧
      (response.status = .ok → ∃ p tag, Internal.selfPolicyIn limit r = .ok p ∧
        Internal.tagOf? s'.tags p.source = some tag ∧ response = Internal.tagAnswer tag) := by
  rw [Route.onStore_answer, Route.handle] at h
  cases hbody : Internal.selfPolicyIn limit r with
  | error e =>
      rw [Internal.onStore_createSelfPolicy_of_error world hbody] at h
      cases h
      exact ⟨fun id hresponse => selfPolicyIn_status_ne hbody (ApiError.response_inj hresponse).1,
        fun hok => absurd hok e.status_ne_ok⟩
  | ok p =>
      cases hroom : s.hasRoomFor [p] with
      | true =>
          obtain ⟨tag, htag, honStore⟩ :=
            Internal.onStore_createSelfPolicy_of_room world hbody hroom
          rw [honStore] at h
          cases h
          refine ⟨fun id hresponse => ?_, fun _ => ⟨p, tag, rfl, htag, rfl⟩⟩
          exact ApiError.status_ne_ok _ (congrArg Http.Response.status hresponse).symm
      | false =>
          rw [Internal.onStore_createSelfPolicy_of_full world hbody hroom] at h
          cases h
          refine ⟨fun id hresponse => ?_, fun hok => absurd hok (ApiError.status_ne_ok _)⟩
          exact ApiError.store_message_ne_missingTag _ id (ApiError.response_inj hresponse).2

/-! ## Requests in flight -/

namespace Server

variable {ι : Type} [DecidableEq ι]

/-- A server that has received requests and begun with none of them. -/
def receive (s : Server) (inquiries : ι → Inquiry) : System ι where
  server := s
  tasks i :=
    ⟨(inquiries i).world, (inquiries i).route.answer s.bodyLimit (inquiries i).request⟩

omit [DecidableEq ι] in
lemma receive_accesses (s : Server) (inquiries : ι → Inquiry) {i : ι} {route : Route}
    (h : (inquiries i).route = route) : ((s.receive inquiries).tasks i).accesses
      = (route.answer s.bodyLimit (inquiries i).request).accesses (inquiries i).world := by
  subst h
  rfl

/-- Before a request is answered, the answer is counted. -/
lemma response?_answer (world : World) (limit : Nat) (r : Http.Request) (route : Route) :
    (Task.mk world (route.answer limit r)).response? = none := by
  have hcounted : ∀ p : Program Step.Answer (Except ApiError Http.Response),
      (Task.mk world (p.bind fun result => .step
        (.record (.answered route (Route.respond result).status)) fun _ =>
          .done (Route.respond result))).response? = none := by
    intro p
    cases p with
    | done result => rfl
    | step op next => rfl
  exact hcounted (route.handle limit r).run

omit [DecidableEq ι] in
lemma receive_fresh {s : Server} (hshows : s.showsTags = true) (hs : s.store.Reachable)
    (inquiries : ι → Inquiry) : (s.receive inquiries).Fresh where
  showsTags := hshows
  reachable := hs
  decided := fun _ => decided_answer ..
  unanswered := fun _ => response?_answer ..

/-- What requests do to the store, what a schedule of their steps has in common with serving the
same requests one after the other, each at the moment of its turn, and what follows for the two
handlers that look at the store twice. -/
structure Linearizable (inquiries : ι → Inquiry) (start : System ι) (schedule : List ι) : Prop where
  /-- What the requests have before them at the store are the operations of their routes. -/
  operations : ∀ i, (start.tasks i).accesses = (inquiries i).operations start.server.bodyLimit
  /-- Both lead to the same store. -/
  store_eq : (start.interleave schedule).server.store
    = (start.serially (start.order schedule)).server.store
  /-- Whoever has been answered got the same response. -/
  response_eq : ∀ i response, ((start.interleave schedule).tasks i).response? = some response →
    ((start.serially (start.order schedule)).tasks i).response? = some response
  /-- A listing for the agents shows the policies that were stored and the tags that were given at
  the moment of its turn, and every policy in it with the tags of both its apps. -/
  listing : ∀ i response, (inquiries i).route = .listTaggedPolicies →
    ((start.interleave schedule).tasks i).response? = some response → response.status = .ok →
    ∃ earlier later ids, schedule = earlier ++ i :: later ∧
      Http.queryIds (inquiries i).request.query = .ok ids ∧
      response = Internal.taggedPolicyList
        ((start.interleave earlier).server.store.selected ids)
        (start.interleave earlier).server.store.tags ∧
      ∀ p ∈ (start.interleave earlier).server.store.selected ids, ∀ id ∈ p.appIds, ∃ tag,
        (Internal.tagTable (start.interleave earlier).server.store.tags)[id]? = some tag ∧
        Internal.tagOf? (start.interleave earlier).server.store.tags id = some tag
  /-- An app that asks to reach itself is never told that its tag is missing, and if it is answered
  200 it is told the tag that it had right after its own policy was created. -/
  connecting : ∀ i response, (inquiries i).route = .createSelfPolicy →
    ((start.interleave schedule).tasks i).response? = some response →
    (∀ id, response ≠ (ApiError.missingTag id).response) ∧
      (response.status = .ok → ∃ earlier later p tag, schedule = earlier ++ i :: later ∧
        Internal.selfPolicyIn start.server.bodyLimit (inquiries i).request = .ok p ∧
        ((start.interleave earlier).tasks i).operation? = some (.create [p]) ∧
        Internal.tagOf? (start.interleave (earlier ++ [i])).server.store.tags p.source = some tag ∧
        response = Internal.tagAnswer tag)

/-- **The handlers are linearizable.**  Any number of requests are served over a store that
operations have led to from an empty one, each of them by the operations of its route, and their
steps are interleaved in any order.  The store is then that of the serial execution in which every
request is served in a single go, at the moment at which it first uses the store, and every request
that has been answered got the response that it gets there.  In particular the listing for the
agents never shows a policy without its tags, and an app that asks to reach itself learns the tag
that it had right after its own policy was created, whatever happened before it looked. -/
theorem requests_linearizable (s : Server) (hs : s.store.Reachable) (inquiries : ι → Inquiry)
    (schedule : List ι) :
    Linearizable inquiries (receive { s with showsTags := true } inquiries) schedule := by
  have hfresh := receive_fresh (s := { s with showsTags := true }) rfl hs inquiries
  have hlinear := System.linearized hfresh schedule
  refine ⟨fun i => Inquiry.accesses_eq_operations .., hlinear.store_eq,
    fun i response hresponse => ?_, fun i response hroute hresponse hok => ?_,
    fun i response hroute hresponse => ?_⟩
  · by_cases hi : i ∈ System.order (receive { s with showsTags := true } inquiries) schedule
    · obtain ⟨response', hserial, hsettled⟩ := hlinear.settled i hi
      rw [Task.accesses_of_response hresponse] at hsettled
      obtain rfl : response = response' := hsettled
      exact hserial
    · cases (hlinear.waiting i hi).2.2.symm.trans hresponse
  · obtain ⟨earlier, later, hschedule, -, -, honStore⟩ :=
      System.exists_turn_of_response hfresh schedule hresponse
    rw [receive_accesses _ _ hroute, listTaggedPolicies_onStore] at honStore
    have hshown : _ = response := congrArg Prod.fst honStore
    cases hids : Http.queryIds (inquiries i).request.query with
    | error e =>
        rw [hids] at hshown
        subst hshown
        exact absurd hok (ApiError.status_ne_ok (.query e))
    | ok ids =>
        rw [hids] at hshown
        refine ⟨earlier, later, ids, hschedule, rfl, hshown.symm, fun p hp id hid => ?_⟩
        have hreached := (System.linearized hfresh earlier).reachable
        have htagged := hreached.allTagged p (Store.mem_all_of_mem_selected hp) id hid
        obtain ⟨tag, htag⟩ :=
          Option.isSome_iff_exists.mp ((Store.tagOf?_tags_isSome ..).mpr htagged)
        exact ⟨tag, (hreached.distinct.getElem?_tagTable id).trans htag, htag⟩
  · obtain ⟨earlier, later, hschedule, hfirst, haccesses, honStore⟩ :=
      System.exists_turn_of_response hfresh schedule hresponse
    rw [receive_accesses _ _ hroute] at haccesses honStore
    obtain ⟨hmissing, htold⟩ := createSelfPolicy_onStore honStore
    refine ⟨hmissing, fun hok => ?_⟩
    obtain ⟨p, tag, hbody, htag, hanswer⟩ := htold hok
    obtain ⟨next, hnext⟩ := createSelfPolicy_accesses_of_ok (inquiries i).world hbody
    exact ⟨earlier, later, p, tag, hschedule, hbody,
      Task.operation_of_turn (haccesses.trans hnext)
        (System.linearized hfresh earlier).showsTags hfirst.1, htag, hanswer⟩

/-! ### A deletion between two looks -/

/-- The requests of the small run, the deletion under `true`. -/
def loopInquiries : Bool → Inquiry
  | false => ⟨.createSelfPolicy, loopVisit.request, adminPlatform.answer⟩
  | true => ⟨.deletePolicies, unloopVisit.request, adminPlatform.answer⟩

/-- The app stores its policy, all of the deletion follows, and then the app reads its tag. -/
def loopSchedule : List Bool := [false, true, true, true, true, true, false, false, false]

/-- The policy is gone when the app learns its tag, just as if both had been served in turn. -/
theorem requests_linearizable_loop :
    small.store.Reachable ∧
    ((small.receive loopInquiries).interleave loopSchedule).server.store.all = [] ∧
    (((small.receive loopInquiries).interleave loopSchedule).tasks false).response?
      = some (Internal.tagAnswer "01") ∧
    (small.receive loopInquiries).order loopSchedule = [false, true] ∧
    (((small.receive loopInquiries).serially [false, true]).tasks false).response?
      = some (Internal.tagAnswer "01") := by
  have hreachable : small.store.Reachable := .new _
  have hanswered : (((small.receive loopInquiries).interleave loopSchedule).tasks false).response?
      = some (Internal.tagAnswer "01") := by cbv
  have horder : (small.receive loopInquiries).order loopSchedule = [false, true] := by cbv
  have hserial := (requests_linearizable small hreachable loopInquiries loopSchedule).response_eq
    false _ hanswered
  refine ⟨hreachable, by cbv, hanswered, horder, ?_⟩
  rw [← horder]
  exact hserial

end Server

end NetworkPolicy
