import Mathlib.Tactic.Common
import NetworkPolicy.Proofs.Server.Runs
import NetworkPolicy.Proofs.Text.Hex

/-!
# Tags identify apps

Three answers tell a client the tag of an app: the listing of tags, the listing for the agents,
which shows a tag at both ends of a policy, and the answer to an app that asks to reach itself.
They come from different places, at different moments of a run.

**Reading answers.**  `Visit.reports` reads the pairs of an app and a tag off an answer, from the
members of its JSON value and without the server's state.

**One answer.**  `mem_reports` says that whatever is reported is the tag of the app in the store
that the visit leaves behind, and `ends_of_listTaggedPolicies` that every entry for the agents shows
both of its tags.

**Whole runs.**  Stores only grow, so all reports of a run agree with the last store.  There an app
has one tag, and a tag is the number of one app: `reported_tags_identify`.
-/

namespace NetworkPolicy

/-! ## Reading answers -/

namespace Json

/-- The first member of an object that has the given key. -/
def member? (key : String) : Json → Option Json
  | .object members => members.lookup key
  | _ => none

def text? : Json → Option String
  | .string s => some s
  | _ => none

/-- The items of an array. -/
def items : Json → List Json
  | .array items => items
  | _ => []

/-- The app that an object names as its `id`, with the `tag` beside it. -/
def tag? (v : Json) : Option Tag := do
  return ⟨← (← v.member? "id").text?, ← (← v.member? "tag").text?⟩

/-- The two ends of a listed policy, each with its tag if it shows one. -/
def ends (entry : Json) : List (Option Tag) :=
  [(entry.member? "source").bind tag?, (entry.member? "destination").bind tag?]

end Json

/-- A member of the object that a response carries. -/
def Http.Response.member? (response : Http.Response) (key : String) : Option Json :=
  match response.payload with
  | .json value => value.member? key
  | _ => none

/-- The items of a listing, which is a member of the object that a response carries. -/
def Http.Response.listed (response : Http.Response) (key : String) : List Json :=
  ((response.member? key).map Json.items).getD []

/-- The apps whose tags an answer reports, with these tags.  The answer to an app that asks to reach
itself holds a tag alone; the app is the one that the request names. -/
def Visit.reports (limit : Nat) (v : Visit) (response : Http.Response) : List Tag :=
  match Route.find? v.api v.request with
  | some .listTags => (response.listed "tags").filterMap Json.tag?
  | some .listTaggedPolicies =>
    (response.listed "policies").flatMap fun entry => entry.ends.filterMap id
  | some .createSelfPolicy =>
    match v.request.body.decode Internal.selfPolicyRequest limit,
        (response.member? "tag").bind Json.text? with
    | .ok (id, _), some tag => [⟨id, tag⟩]
    | _, _ => []
  | _ => []

/-! ### What the answers hold -/

lemma listed_tagList (tags : List Tag) :
    ((External.tagList tags).listed "tags").filterMap Json.tag? = tags := by
  show (tags.map fun tag =>
    Json.object [("id", .string tag.id), ("tag", .string tag.tag)]).filterMap Json.tag? = tags
  rw [List.filterMap_map]
  exact List.filterMap_some

lemma listed_taggedPolicyList (policies : List Policy) (tags : List Tag) :
    (Internal.taggedPolicyList policies tags).listed "policies"
      = policies.map (Internal.taggedPolicyJson (Internal.tagTable tags)) := rfl

/-- A policy whose apps both have tags is listed with these tags at its ends. -/
lemma ends_taggedPolicyJson {table : Std.HashMap String String} {p : Policy}
    {source destination : String} (hsource : table[p.source]? = some source)
    (hdestination : table[p.destination.id]? = some destination) :
    (Internal.taggedPolicyJson table p).ends
      = [some ⟨p.source, source⟩, some ⟨p.destination.id, destination⟩] := by
  rw [Internal.taggedPolicyJson, Internal.tagMember, Internal.tagMember, hsource, hdestination]
  rfl

/-- An answer that is an error reports no tags. -/
lemma reports_error (limit : Nat) (v : Visit) (e : ApiError) : v.reports limit e.response = [] := by
  unfold Visit.reports
  split
  case h_1 => rfl
  case h_2 => rfl
  case h_3 =>
    split
    case h_1 h =>
      cases h
    case h_2 => rfl
  case h_4 => rfl

/-! ## One answer -/

namespace Server

variable {s : Server} {v : Visit}

/-- Tags are listed in full, or the request is refused. -/
lemma visit_listTags (hs : s.showsTags = true) (hroute : v.Takes .listTags) :
    (s.visit v).2.store = s.store ∧ ((s.visit v).1 = External.tagList s.store.tags ∨
      ∃ e : ApiError, (s.visit v).1 = e.response) := by
  obtain ⟨metrics, hvisit⟩ := visit_of_takes hs hroute
  rw [hvisit, Route.handle, External.accesses_listTags]
  cases External.callerIn v.world v.request External.adminScopes with
  | error e => exact ⟨rfl, .inr ⟨e, rfl⟩⟩
  | ok caller => exact ⟨rfl, .inl rfl⟩

/-- The selected policies are listed with the tags of the store, or the request is refused. -/
lemma visit_listTaggedPolicies (hs : s.showsTags = true) (hroute : v.Takes .listTaggedPolicies) :
    (s.visit v).2.store = s.store ∧
      ((∃ ids, (s.visit v).1
          = Internal.taggedPolicyList (s.store.selected ids) s.store.tags) ∨
        ∃ e : ApiError, (s.visit v).1 = e.response) := by
  obtain ⟨metrics, hvisit⟩ := visit_of_takes hs hroute
  rw [hvisit, Route.handle, Internal.accesses_listTaggedPolicies]
  cases Http.queryIds v.request.query with
  | error e => exact ⟨rfl, .inr ⟨.query e, rfl⟩⟩
  | ok ids =>
      rw [onStore_selection_bind]
      exact ⟨rfl, .inl ⟨ids, rfl⟩⟩

/-- An app that asks to reach itself is told the tag that it has by then, or is refused. -/
lemma visit_createSelfPolicy (hs : s.showsTags = true) (hroute : v.Takes .createSelfPolicy) :
    (∃ p tag, Internal.selfPolicyIn s.bodyLimit v.request = .ok p ∧
        Internal.tagOf? (s.visit v).2.store.tags p.source = some tag ∧
        (s.visit v).1 = Internal.tagAnswer tag) ∨
      ∃ e : ApiError, (s.visit v).1 = e.response := by
  obtain ⟨metrics, hvisit⟩ := visit_of_takes hs hroute
  rw [hvisit, Route.handle]
  cases h : Internal.selfPolicyIn s.bodyLimit v.request with
  | error e =>
      rw [Internal.onStore_createSelfPolicy_of_error v.world h]
      exact .inr ⟨e, rfl⟩
  | ok p =>
      cases hroom : s.store.hasRoomFor [p] with
      | true =>
          obtain ⟨tag, htag, honStore⟩ := Internal.onStore_createSelfPolicy_of_room v.world h hroom
          rw [honStore]
          exact .inl ⟨p, tag, rfl, htag, rfl⟩
      | false =>
          rw [Internal.onStore_createSelfPolicy_of_full v.world h hroom]
          exact .inr ⟨_, rfl⟩

/-- Every entry of a listing for the agents shows at both ends the tag of the app there. -/
lemma ends_of_listTaggedPolicies (hs : s.showsTags = true) (hstore : s.store.Reachable)
    (hroute : v.Takes .listTaggedPolicies) {entry : Json}
    (hentry : entry ∈ (s.visit v).1.listed "policies") :
    ∃ source destination : Tag, entry.ends = [some source, some destination] ∧
      Internal.tagOf? s.store.tags source.id = some source.tag ∧
      Internal.tagOf? s.store.tags destination.id = some destination.tag := by
  obtain ⟨-, ⟨ids, hanswer⟩ | ⟨e, hanswer⟩⟩ := visit_listTaggedPolicies hs hroute
  · rw [hanswer, listed_taggedPolicyList] at hentry
    obtain ⟨p, hp, rfl⟩ := List.mem_map.mp hentry
    have hstored := Store.mem_all_of_mem_selected hp
    obtain ⟨source, hsource⟩ := Option.isSome_iff_exists.mp
      ((Store.tagOf?_tags_isSome ..).mpr (hstore.allTagged p hstored _ p.source_mem_appIds))
    obtain ⟨destination, hdestination⟩ := Option.isSome_iff_exists.mp
      ((Store.tagOf?_tags_isSome ..).mpr (hstore.allTagged p hstored _ p.destination_mem_appIds))
    have htable := hstore.distinct.getElem?_tagTable
    exact ⟨_, _, ends_taggedPolicyJson ((htable _).trans hsource) ((htable _).trans hdestination),
      hsource, hdestination⟩
  · rw [hanswer] at hentry
    cases hentry

/-- What an answer reports as the tag of an app is the tag of that app in the store. -/
lemma mem_reports (hs : s.showsTags = true) (hstore : s.store.Reachable) {t : Tag}
    (ht : t ∈ v.reports s.bodyLimit (s.visit v).1) :
    Internal.tagOf? (s.visit v).2.store.tags t.id = some t.tag := by
  cases hroute : Route.find? v.api v.request with
  | none =>
      rw [Visit.reports, hroute] at ht
      cases ht
  | some route =>
      cases route with
      | listTags =>
          obtain ⟨hsame, hanswer | ⟨e, hanswer⟩⟩ := visit_listTags hs hroute
          · rw [Visit.reports, hroute, hanswer] at ht
            rw [hsame]
            exact hstore.distinct.tagOf?_of_mem ((listed_tagList s.store.tags) ▸ ht)
          · rw [hanswer, reports_error] at ht
            cases ht
      | listTaggedPolicies =>
          obtain ⟨hsame, -⟩ := visit_listTaggedPolicies hs hroute
          rw [Visit.reports, hroute] at ht
          obtain ⟨entry, hentry, ht⟩ := List.mem_flatMap.mp ht
          obtain ⟨source, destination, hends, hsource, hdestination⟩ :=
            ends_of_listTaggedPolicies hs hstore hroute hentry
          rw [hends] at ht
          rw [hsame]
          rcases List.mem_cons.mp ht with rfl | ht
          · exact hsource
          · obtain rfl := List.mem_singleton.mp ht
            exact hdestination
      | createSelfPolicy =>
          obtain ⟨p, tag, hbody, htag, hanswer⟩ | ⟨e, hanswer⟩ := visit_createSelfPolicy hs hroute
          · obtain ⟨port, hdecode, -⟩ := Internal.selfPolicyIn_eq_ok_iff.mp hbody
            rw [Visit.reports, hroute, hanswer, hdecode] at ht
            obtain rfl := List.mem_singleton.mp ht
            exact htag
          · rw [hanswer, reports_error] at ht
            cases ht
      | createPolicies | deletePolicies | listPolicies =>
          rw [Visit.reports, hroute] at ht
          cases ht

/-! ## Whole runs -/

/-- Whatever a run has reported as the tag of an app is its tag in the last store. -/
lemma mem_reports_transcript (hs : s.showsTags = true) (hstore : s.store.Reachable)
    {visits : List Visit} {a : Visit × Http.Response} (ha : a ∈ s.transcript visits) {t : Tag}
    (ht : t ∈ a.1.reports s.bodyLimit a.2) :
    Internal.tagOf? (s.after visits).store.tags t.id = some t.tag := by
  obtain ⟨earlier, later, hsplit, hanswer⟩ := exists_split_of_mem_transcript visits ha
  obtain ⟨hlimit, hshows⟩ := after_setup hs earlier
  have hthen : Internal.tagOf? ((s.after earlier).visit a.1).2.store.tags t.id = some t.tag := by
    refine mem_reports hshows (reachable_after hs hstore earlier) ?_
    rw [hlimit, ← hanswer]
    exact ht
  have htagged : t.id ∈ ((s.after earlier).visit a.1).2.store.tagged :=
    (Store.tagOf?_tags_isSome ..).mp (Option.isSome_iff_exists.mpr ⟨t.tag, hthen⟩)
  have hgrown := extends_after (visit_effect hshows a.1).2.2 later
  rw [hsplit, after_append, after_cons, Store.tagOf?_of_extends hgrown htagged]
  exact hthen

/-- The answers in a transcript are those of visits to stores that operations have led to. -/
lemma mem_transcript_cases (hs : s.showsTags = true) (hstore : s.store.Reachable)
    {visits : List Visit} {a : Visit × Http.Response} (ha : a ∈ s.transcript visits) :
    ∃ t : Server, t.showsTags = true ∧ t.bodyLimit = s.bodyLimit ∧ t.store.Reachable ∧
      a.2 = (t.visit a.1).1 := by
  obtain ⟨earlier, later, -, hanswer⟩ := exists_split_of_mem_transcript visits ha
  obtain ⟨hlimit, hshows⟩ := after_setup hs earlier
  exact ⟨s.after earlier, hshows, hlimit, reachable_after hs hstore earlier, hanswer⟩

/-- **Tags identify apps, in all answers of a run.**  Whatever happens between two answers of a run
that began with an empty store, they report the same tag exactly where they report the same app.
Every entry of a listing for the agents shows a tag at both of its ends, every item of a listing of
tags is an app with its tag, and an app that is let reach itself is told one. -/
theorem reported_tags_identify (width : TagWidth) (limit : Nat) (ready : Bool)
    (visits : List Visit) :
    (∀ a ∈ (new width limit ready).transcript visits,
      ∀ b ∈ (new width limit ready).transcript visits,
      ∀ t ∈ a.1.reports limit a.2, ∀ u ∈ b.1.reports limit b.2, t.id = u.id ↔ t.tag = u.tag) ∧
    ∀ a ∈ (new width limit ready).transcript visits,
      (a.1.Takes .listTaggedPolicies → ∀ entry ∈ a.2.listed "policies",
        ∃ source destination : Tag, entry.ends = [some source, some destination]) ∧
      (a.1.Takes .listTags → ∀ item ∈ a.2.listed "tags", item.tag?.isSome) ∧
      (a.1.Takes .createSelfPolicy → a.2.status = .ok → ∃ t, a.1.reports limit a.2 = [t]) := by
  have hshows : (new width limit ready).showsTags = true := rfl
  have hempty : (new width limit ready).store.Reachable := .new width
  constructor
  · intro a ha b hb t ht u hu
    have hlast := mem_reports_transcript hshows hempty ha ht
    have hlast' := mem_reports_transcript hshows hempty hb hu
    constructor
    · intro hid
      rw [hid] at hlast
      exact Option.some.inj (hlast.symm.trans hlast')
    · intro htag
      rw [htag] at hlast
      exact Store.tagOf?_inj hlast hlast'
  · intro a ha
    obtain ⟨s, hs, hlimit, hstore, hanswer⟩ := mem_transcript_cases hshows hempty ha
    change s.bodyLimit = limit at hlimit
    rw [hanswer]
    refine ⟨fun hroute entry hentry => ?_, fun hroute item hitem => ?_, fun hroute hok => ?_⟩
    · obtain ⟨source, destination, hends, -⟩ :=
        ends_of_listTaggedPolicies hs hstore hroute hentry
      exact ⟨source, destination, hends⟩
    · obtain ⟨-, hlisted | ⟨e, hrefused⟩⟩ := visit_listTags hs hroute
      · rw [hlisted] at hitem
        obtain ⟨t, -, rfl⟩ := List.mem_map.mp hitem
        rfl
      · rw [hrefused] at hitem
        cases hitem
    · obtain ⟨p, tag, hbody, -, htold⟩ | ⟨e, hrefused⟩ := visit_createSelfPolicy hs hroute
      · obtain ⟨port, hdecode, -⟩ := Internal.selfPolicyIn_eq_ok_iff.mp hbody
        rw [hlimit] at hdecode
        refine ⟨⟨p.source, tag⟩, ?_⟩
        rw [Visit.reports, hroute, htold, hdecode]
        rfl
      · rw [hrefused] at hok
        exact absurd hok e.status_ne_ok

/-! ### A tag that outlives its policies -/

/-- An administrator asks for all tags. -/
def tagsVisit : Visit where
  api := .external
  request :=
    ⟨"GET", "/networking/v0/external/tags", none, [("authorization", "Bearer root")], .ofBytes []⟩
  world := adminPlatform.answer
  ready := true

/-- An agent asks for all policies. -/
def agentVisit : Visit where
  api := .internal
  request := ⟨"GET", "/networking/v0/internal/policies", none, [], .ofBytes []⟩
  world := adminPlatform.answer
  ready := true

/-- The app `a` is let reach itself, an agent sees its policy, the policy is deleted, and the tag is
still listed: what the app was told agrees with that. -/
theorem reported_tags_identify_loop :
    ∃ told still : Tag,
      loopVisit.reports 1000 (small.visit loopVisit).1 = [told] ∧
      tagsVisit.reports 1000
        ((small.after [loopVisit, agentVisit, unloopVisit]).visit tagsVisit).1 = [still] ∧
      (told.id = still.id ↔ told.tag = still.tag) ∧
      (((small.after [loopVisit]).visit agentVisit).1.listed "policies").length = 1 ∧
      ∀ entry ∈ ((small.after [loopVisit]).visit agentVisit).1.listed "policies",
        ∃ source destination : Tag, entry.ends = [some source, some destination] := by
  have h := reported_tags_identify ⟨1, by decide, by decide⟩ 1000 true
    [loopVisit, agentVisit, unloopVisit, tagsVisit]
  have htold : loopVisit.reports 1000 (small.visit loopVisit).1 = [⟨"a", "01"⟩] := by cbv
  have hstill : tagsVisit.reports 1000
      ((small.after [loopVisit, agentVisit, unloopVisit]).visit tagsVisit).1
        = [⟨"a", "01"⟩] := by cbv
  refine ⟨⟨"a", "01"⟩, ⟨"a", "01"⟩, htold, hstill, ?_, by cbv, ?_⟩
  · refine h.1 (loopVisit, (small.visit loopVisit).1) List.mem_cons_self
      (tagsVisit, ((small.after [loopVisit, agentVisit, unloopVisit]).visit tagsVisit).1) ?_ _ ?_ _
      ?_
    · exact .tail _ (.tail _ (.tail _ (.head _)))
    · rw [htold]
      exact List.mem_cons_self
    · rw [hstill]
      exact List.mem_cons_self
  · exact (h.2 (agentVisit, ((small.after [loopVisit]).visit agentVisit).1)
      (.tail _ (.head _))).1 (by cbv)

end Server

end NetworkPolicy
