import Mathlib.Tactic.Common
import NetworkPolicy.Proofs.Server.Stages
import NetworkPolicy.Proofs.Store.Capacity
import NetworkPolicy.Proofs.Wire.RoundTrip

/-!
# Listings as requests

A listing of all policies is a body that both services for writing accept: its `policies` are read
as the stored policies in their order, and what else stands in it — the number of policies, the
tags of apps — is skipped.  This holds of the listing of the external service, if its caller is an
administrator, and of the one with tags of the internal service.

**Reading.**  `External.policiesRequest_eq` reads such a body; `Internal.recovers_taggedPolicyJson`
reads a policy that is written with tags.

**Runs.**  Only policies that name both of their apps are ever stored (`Server.allNamed_after`), so
a batch of all of them is valid.

**Resubmission.**  An administrator who sends a listing back to be deleted empties the store, and
one who sends it to a new server with tags of the same width stores the same policies in the same
order there: `Server.listing_resubmits`.
-/

namespace NetworkPolicy

open External

/-! ## Reading listings -/

namespace External

/-- What else a listing holds besides its policies is skipped. -/
lemma policiesRequest_eq {items : Json} {policies : List Policy} (count : Nat)
    (h : Wire.policies items.draft = .ok policies) :
    policiesRequest (Json.object [("total_policies", .number count), ("policies", items)]).draft
      = .ok policies := by
  have hreads : Wire.Fields.Reads (.cons "policies" none Wire.policies .nil)
      (Wire.drafts [("policies", items)]) (policies, ()) := .field h .nil
  have hrecord : Wire.Record ["policies"] (Wire.drafts [("policies", items)])
      (Json.object [("total_policies", .number count), ("policies", items)]).draft :=
    .among (.swap _ _ []) (by simp)
  rw [policiesRequest, hreads.record_eq (List.nodup_singleton _) hrecord (Json.isComplete_draft _)]
  rfl

end External

namespace Internal

lemma key_of_mem_tagMember {table : Std.HashMap String String} {id : String}
    {member : String × Json} (h : member ∈ tagMember table id) : member.1 = "tag" := by
  obtain ⟨tag, -, rfl⟩ := Option.map_eq_some_iff.mp (Option.mem_toList.mp h)
  rfl

/-- A policy is read from what is written for it with the tags of its apps. -/
lemma recovers_taggedPolicyJson (table : Std.HashMap String String) :
    Wire.Recovers Wire.policy (taggedPolicyJson table) := by
  intro p
  refine Wire.policy_eq (Wire.source_eq p.source fun member h => ?_)
    (Wire.destination_eq p.destination fun member h => ?_)
  · rw [key_of_mem_tagMember h]
    decide
  · rw [key_of_mem_tagMember h]
    decide

end Internal

/-! ## Whole listings -/

/-- The token of the request is verified, and its claims hold the administrator's scope. -/
def External.FromAdmin (world : World) (r : Http.Request) : Prop :=
  ∃ (token : String) (claims : Claims), Bears r token ∧
    world (.checkToken token) = Except.ok claims ∧ claims.isAdmin = true

/-- An administrator is a caller who may write. -/
lemma External.FromAdmin.exists_admitted {world : World} {r : Http.Request}
    (h : FromAdmin world r) : ∃ (token : String) (claims : Claims),
      Admitted world r token claims ∧ claims.isAdmin = true := by
  obtain ⟨token, claims, hbears, hverified, hadmin⟩ := h
  exact ⟨token, claims, ⟨hbears, hverified, .inl hadmin⟩, hadmin⟩

/-- The request asks for all policies: of the external service, where it is an administrator's, or
of the internal one. -/
inductive Visit.ListsAll (v : Visit) : Prop where
  | plain (hroute : v.Takes .listPolicies) (hcaller : FromAdmin v.world v.request)
      (hquery : Http.queryIds v.request.query = .ok none)
  | tagged (hroute : v.Takes .listTaggedPolicies)
      (hquery : Http.queryIds v.request.query = .ok none)

/-- An administrator's request for the route with the bytes as its body, in chunks of any sizes. -/
structure Visit.Posts (v : Visit) (route : Route) (bytes : List UInt8) : Prop where
  takes : v.Takes route
  caller : FromAdmin v.world v.request
  bytes : v.request.body.bytes = bytes
  failure : v.request.body.failure = none

/-- The bytes of a response. -/
def Http.Response.bytes (r : Http.Response) : List UInt8 := Utf8.bytes r.payload.body.toList

namespace Server

variable {s : Server} {v : Visit}

/-- A listing of all policies changes nothing, and is answered with an object whose `policies` are
read as those of the store. -/
lemma visit_of_listsAll (hs : s.showsTags = true) (h : v.ListsAll) :
    (s.visit v).2.store = s.store ∧ ∃ items, Wire.policies items.draft = .ok s.store.all ∧
      (s.visit v).1 = ⟨.ok, .json (.object [("total_policies", .number s.store.all.length),
        ("policies", items)])⟩ := by
  cases h with
  | plain hroute hcaller hquery =>
      obtain ⟨token, claims, hadmitted, hadmin⟩ := hcaller.exists_admitted
      obtain ⟨metrics, hvisit⟩ := visit_of_takes hs hroute
      rw [hvisit, Route.handle, accesses_listPolicies, callerIn_of_admitted hadmitted, hquery]
      refine ⟨rfl, Wire.policiesJson s.store.all, Wire.recovers_policies _, ?_⟩
      show Route.respond (((selection none).bind _).onStore s.store).1 = _
      rw [onStore_selection_bind, Guard.visible_of_isAdmin _ _ hadmin]
      rfl
  | tagged hroute hquery =>
      obtain ⟨metrics, hvisit⟩ := visit_of_takes hs hroute
      rw [hvisit, Route.handle, Internal.accesses_listTaggedPolicies, hquery]
      exact ⟨rfl, .array (s.store.all.map
          (Internal.taggedPolicyJson (Internal.tagTable s.store.tags))),
        (Internal.recovers_taggedPolicyJson _).list _, rfl⟩

/-- As a text and as bytes, the listing is a request with the policies of the store. -/
lemma decode_of_listsAll (hs : s.showsTags = true) (h : v.ListsAll) :
    Wire.decode policiesRequest (Document.ofText (s.visit v).1.payload.body) = .ok s.store.all ∧
      Wire.decode policiesRequest (Document.ofBytes (s.visit v).1.bytes) = .ok s.store.all := by
  obtain ⟨-, items, hitems, hshown⟩ := visit_of_listsAll hs h
  have htext : Wire.decode policiesRequest (Document.ofText (s.visit v).1.payload.body)
      = .ok s.store.all := by
    rw [hshown, Http.Payload.body, Document.ofText_render, Wire.decode, policiesRequest_eq _ hitems]
    rfl
  exact ⟨htext, by rw [Http.Response.bytes, Document.ofBytes_bytes, htext]⟩

end Server

/-! ## Stored policies are valid -/

/-- Every stored policy names both of its apps. -/
def Store.AllNamed (s : Store) : Prop := ∀ p ∈ s.all, p.source ≠ "" ∧ p.destination.id ≠ ""

lemma Store.AllNamed.add {s : Store} {batch : List Policy} (h : s.AllNamed)
    (hbatch : ∀ p ∈ batch, p.source ≠ "" ∧ p.destination.id ≠ "") : (s.add batch).AllNamed :=
  fun p hp => ((Store.mem_all_add ..).mp hp).elim (h p) (hbatch p)

lemma Store.AllNamed.delete {s : Store} (h : s.AllNamed) (batch : List Policy) :
    (s.delete batch).AllNamed := fun p hp => h p ((Store.mem_all_delete ..).mp hp).1

/-- Unless its policies can be stored, a batch leaves the store as it is. -/
lemma Store.AllNamed.perform_create {s : Store} {batch : List Policy} (h : s.AllNamed)
    (hbatch : ∀ p ∈ batch, p.source ≠ "" ∧ p.destination.id ≠ "") :
    (s.perform (.create batch)).2.AllNamed := by
  cases hroom : s.hasRoomFor batch with
  | true =>
      rw [Store.perform_create_of_room hroom]
      exact h.add hbatch
  | false =>
      rw [Store.perform_create_of_full hroom]
      exact h

namespace Server

variable {s : Server} {v : Visit}

/-- A request to create policies is carried out only with a valid batch. -/
lemma allNamed_visit_of_takes (hs : s.showsTags = true) (hroute : v.Takes .createPolicies)
    (h : s.store.AllNamed) : (s.visit v).2.store.AllNamed := by
  obtain ⟨metrics, hvisit⟩ := visit_of_takes hs hroute
  rw [hvisit, Route.handle, accesses_createPolicies]
  cases hbatch : batchIn v.world s.bodyLimit v.request with
  | error e => exact h
  | ok batch =>
      obtain ⟨-, hvalid, -⟩ := batchIn_eq_ok_iff.mp hbatch
      exact h.perform_create (validatePolicies_eq_ok_iff.mp hvalid).2

lemma allNamed_visit (hs : s.showsTags = true) (h : s.store.AllNamed) (v : Visit) :
    (s.visit v).2.store.AllNamed := by
  by_cases hcreates : v.Takes .createPolicies
  · exact allNamed_visit_of_takes hs hcreates h
  · obtain ⟨heffect, -⟩ := visit_effect hs v
    generalize (s.visit v).1 = response, (s.visit v).2.store = t at heffect ⊢
    cases heffect with
    | created hroute => exact absurd hroute hcreates
    | deleted => exact h.delete _
    | @connected p tag hroute hbody =>
        obtain ⟨port, -, hself⟩ := Internal.selfPolicyIn_eq_ok_iff.mp hbody
        obtain ⟨hid, -, hdestination, -⟩ := Internal.selfPolicy_eq_ok_iff.mp hself
        exact h.add (List.forall_mem_singleton.mpr ⟨hid, hdestination.symm ▸ hid⟩)
    | idle => exact h

/-- Along a run only policies that name both of their apps are stored. -/
lemma allNamed_after (hs : s.showsTags = true) (h : s.store.AllNamed) (visits : List Visit) :
    (s.after visits).store.AllNamed := by
  induction visits using List.reverseRecOn with
  | nil => exact h
  | append_singleton visits v ih =>
      rw [after_append]
      exact allNamed_visit (after_setup hs visits).2 ih v

/-! ## Posting a batch -/

variable {batch : List Policy} {bytes : List UInt8}

/-- A valid batch of an administrator is carried out. -/
lemma batchIn_of_posts {route : Route} {limit : Nat} (h : v.Posts route bytes)
    (hdecode : Wire.decode policiesRequest (Document.ofBytes bytes) = .ok batch)
    (hsize : bytes.length ≤ limit) (hbatch : Named batch) :
    batchIn v.world limit v.request = .ok batch := by
  obtain ⟨token, claims, hadmitted, hadmin⟩ := h.caller.exists_admitted
  have hspells : External.Spells limit v.request batch :=
    ⟨by rwa [h.bytes], h.failure, by rwa [h.bytes]⟩
  rw [batchIn_of_named hadmitted hspells hbatch,
    authorizeIn_eq_ok_iff.mpr (Guard.check_of_isAdmin v.world batch hadmin)]
  rfl

lemma visit_of_posts_deletion (hs : s.showsTags = true) (h : v.Posts .deletePolicies bytes)
    (hdecode : Wire.decode policiesRequest (Document.ofBytes bytes) = .ok batch)
    (hsize : bytes.length ≤ s.bodyLimit) (hbatch : Named batch) :
    (s.visit v).1 = External.done ∧ (s.visit v).2.store = s.store.delete batch := by
  obtain ⟨metrics, hvisit⟩ := visit_of_takes hs h.takes
  rw [hvisit, Route.handle, accesses_deletePolicies, batchIn_of_posts h hdecode hsize hbatch]
  exact ⟨rfl, rfl⟩

lemma visit_of_posts_creation (hs : s.showsTags = true) (h : v.Posts .createPolicies bytes)
    (hdecode : Wire.decode policiesRequest (Document.ofBytes bytes) = .ok batch)
    (hsize : bytes.length ≤ s.bodyLimit) (hbatch : Named batch)
    (hroom : s.store.hasRoomFor batch = true) :
    (s.visit v).1 = External.done ∧ (s.visit v).2.store = s.store.add batch := by
  obtain ⟨metrics, hvisit⟩ := visit_of_takes hs h.takes
  rw [hvisit, Route.handle, accesses_createPolicies, batchIn_of_posts h hdecode hsize hbatch]
  constructor
  · simp only [Program.onStore, Store.perform_create_of_room hroom]
    rfl
  · exact congrArg Prod.snd (Store.perform_create_of_room hroom)

/-! ## Resubmission -/

/-- **Listings can be replayed.**  Of a server that has been reached from an empty one and holds
policies, a listing of all of them, plain for an administrator or with tags, is answered 200 with a
body that is read as a request with exactly the stored policies, in their order.  An administrator
who posts that body to be deleted gets 200, and no policy is left while the tags stay; one who
posts it to be created on a new server with tags of the same width gets 200, and that server then
holds the same policies in the same order. -/
theorem listing_resubmits {width : TagWidth} {limit : Nat} {ready : Bool} {visits : List Visit}
    (hs : (new width limit ready).after visits = s) (hstored : s.store.all ≠ [])
    (hlists : v.ListsAll) :
    (s.visit v).1.status = .ok ∧
    Wire.decode policiesRequest (Document.ofText (s.visit v).1.payload.body) = .ok s.store.all ∧
    Wire.decode policiesRequest (Document.ofBytes (s.visit v).1.bytes) = .ok s.store.all ∧
    (∀ post : Visit, post.Posts .deletePolicies (s.visit v).1.bytes →
      (s.visit v).1.bytes.length ≤ limit →
        ((s.visit v).2.visit post).1 = ⟨.ok, .json (.object [])⟩ ∧
        ((s.visit v).2.visit post).2.store.all = [] ∧
        ((s.visit v).2.visit post).2.store.tags = s.store.tags) ∧
    ∀ (limit' : Nat) (ready' : Bool) (post : Visit),
      post.Posts .createPolicies (s.visit v).1.bytes → (s.visit v).1.bytes.length ≤ limit' →
        ((new width limit' ready').visit post).1 = ⟨.ok, .json (.object [])⟩ ∧
        ((new width limit' ready').visit post).2.store.all = s.store.all := by
  subst hs
  have hnew : (new width limit ready).showsTags = true := rfl
  have hreachable := reachable_after hnew (.new width) visits
  have hwidth : ((new width limit ready).after visits).store.width = width :=
    (extends_after hnew visits).width
  have hnamed : Named ((new width limit ready).after visits).store.all :=
    ⟨hstored, allNamed_after hnew (fun p hp => absurd hp List.not_mem_nil) visits⟩
  obtain ⟨hlimit, hshows⟩ := after_setup hnew visits
  generalize (new width limit ready).after visits = s at *
  obtain ⟨hkept, items, -, hshown⟩ := visit_of_listsAll hshows hlists
  obtain ⟨htext, hbytes⟩ := decode_of_listsAll hshows hlists
  refine ⟨congrArg Http.Response.status hshown, htext, hbytes, fun post hposts hsize => ?_,
    fun limit' ready' post hposts hsize => ?_⟩
  · obtain ⟨-, hlimit', hshows'⟩ := visit_effect hshows v
    obtain ⟨hanswer, hstore⟩ := visit_of_posts_deletion hshows' hposts hbytes
      (by rwa [hlimit', hlimit]) hnamed
    rw [hanswer, hstore, hkept]
    exact ⟨rfl, s.store.all_delete_all, s.store.tags_delete _⟩
  · have hroom : (Store.new width).hasRoomFor s.store.all = true :=
      hwidth ▸ hreachable.hasRoomFor_new
    obtain ⟨hanswer, hstore⟩ := visit_of_posts_creation (s := new width limit' ready') rfl hposts
      hbytes hsize hnamed hroom
    rw [hanswer, hstore]
    exact ⟨rfl, hreachable.all_add_new width⟩

/-! ### A listing of one policy -/

/-- An agent asks for all policies with their tags. -/
def wholeListing : Visit where
  api := .internal
  request := ⟨"GET", "/networking/v0/internal/policies", some "ids=b", [], .ofBytes []⟩
  world := adminPlatform.answer
  ready := true

/-- An administrator posts the bytes in two chunks. -/
def adminPost (route : Route) (bytes : List UInt8) : Visit where
  api := .external
  request :=
    ⟨"POST", route.path, none, [("authorization", "Bearer root")],
      ⟨[bytes.take 9, bytes.drop 9], none⟩⟩
  world := adminPlatform.answer
  ready := true

lemma adminPost_posts {route : Route} (hroute : route = .createPolicies ∨ route = .deletePolicies)
    (bytes : List UInt8) : (adminPost route bytes).Posts route bytes where
  takes := by
    rcases hroute with rfl | rfl
    · cbv
    · cbv
  caller := ⟨"root", _, ⟨"Bearer root", by cbv, by decide, .inl rfl⟩, rfl, by decide⟩
  bytes := by simp [adminPost, Http.Body.bytes]
  failure := rfl

/-- What the agent is answered once the app `a` may reach itself. -/
def loopListing : List UInt8 := ((small.after [loopVisit]).visit wholeListing).1.bytes

lemma loopListing_eq : loopListing = (Internal.taggedPolicyList [loop] [⟨"a", "01"⟩]).bytes := by
  have hanswer : ((small.after [loopVisit]).visit wholeListing).1
      = Internal.taggedPolicyList [loop] [⟨"a", "01"⟩] := by cbv
  rw [loopListing, hanswer]

/-- The listing is posted as it is, tag and all: the policy is deleted, and on a new server it is
stored again. -/
theorem listing_resubmits_loop :
    (small.after [loopVisit]).store.all ≠ [] ∧ wholeListing.ListsAll ∧ loopListing.length ≤ 1000 ∧
    Wire.decode policiesRequest (Document.ofBytes loopListing) = .ok [loop] ∧
    (((small.after [loopVisit]).visit wholeListing).2.visit
        (adminPost .deletePolicies loopListing)).2.store.all = [] ∧
    ((new ⟨1, by decide, by decide⟩ 1000 false).visit
        (adminPost .createPolicies loopListing)).2.store.all = [loop] := by
  have hstored : (small.after [loopVisit]).store.all ≠ [] := by
    rw [all_after_loop]
    exact List.cons_ne_nil _ _
  have hlists : wholeListing.ListsAll := .tagged (by cbv) (by cbv)
  have hsize : loopListing.length ≤ 1000 := by
    rw [loopListing_eq]
    cbv
  obtain ⟨-, -, hdecode, hdelete, hcreate⟩ :=
    listing_resubmits (s := small.after [loopVisit]) rfl hstored hlists
  rw [all_after_loop] at hdecode hcreate
  refine ⟨hstored, hlists, hsize, hdecode, ?_, ?_⟩
  · exact (hdelete _ (adminPost_posts (.inr rfl) loopListing) hsize).2.1
  · exact (hcreate 1000 false _ (adminPost_posts (.inl rfl) loopListing) hsize).2

end Server

end NetworkPolicy
