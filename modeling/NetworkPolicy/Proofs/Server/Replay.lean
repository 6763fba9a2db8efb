import Mathlib.Tactic.Common
import NetworkPolicy.Proofs.Server.Runs
import NetworkPolicy.Proofs.Store.History

/-!
# The store is the effect of the accepted requests

A request is accepted when it asks for a change of the store and is answered 200.  This file shows
that nothing else ever touches the store: the accepted changes of a transcript, applied one after
the other to an empty store, give the store of the server, and every one of them succeeds there as
it did in the run.

* `Visit.accepted` — the change of a request that was accepted, as its body spells it.
* `acceptedChanges` — those of a transcript, which `Store.replay` applies one after the other.
* `store_eq_replay` — the store after a run, what all other requests leave alone, and what holds
  right after a change.
-/

namespace NetworkPolicy

/-! ## Accepted changes -/

namespace Visit

/-- The change that a request asks for. -/
def change? (limit : Nat) (v : Visit) : Option Store.Change :=
  match Route.find? v.api v.request with
  | some .createPolicies =>
    (v.request.body.decode External.policiesRequest limit).toOption.map .create
  | some .deletePolicies =>
    (v.request.body.decode External.policiesRequest limit).toOption.map .delete
  | some .createSelfPolicy =>
    (Internal.selfPolicyIn limit v.request).toOption.map fun p => .create [p]
  | _ => none

/-- The change of a request that is answered 200. -/
def accepted (limit : Nat) (v : Visit) (response : Http.Response) : Option Store.Change :=
  if response.status = .ok then v.change? limit else none

variable {limit : Nat} {v : Visit} {s s' : Store} {response : Http.Response}

lemma accepted_of_ok (hok : response.status = .ok) : v.accepted limit response = v.change? limit :=
  if_pos hok

lemma accepted_of_ne (hne : response.status ≠ .ok) : v.accepted limit response = none :=
  if_neg hne

/-- A request that takes no route for changes asks for none. -/
lemma change?_eq_none (hroute : ∀ route, v.Takes route → route.method ≠ "POST") :
    v.change? limit = none := by
  unfold change?
  cases h : Route.find? v.api v.request with
  | none => rfl
  | some route =>
      have hget : route.method ≠ "POST" := hroute route h
      cases route with
      | createPolicies => exact absurd rfl hget
      | deletePolicies => exact absurd rfl hget
      | createSelfPolicy => exact absurd rfl hget
      | _ => rfl

/-- The effect of a visit is the accepted change, or none. -/
lemma Effect.change (h : v.Effect limit s response s') :
    (v.accepted limit response = none ∧ s' = s) ∨
      ∃ c, v.accepted limit response = some c ∧ s.change c = .ok s' := by
  cases h with
  | @created batch hroute hbody hcaller hroom =>
      refine .inr ⟨.create batch, ?_, Store.create_eq_ok_iff.mpr ⟨hroom, rfl⟩⟩
      rw [accepted_of_ok rfl, change?, hroute, hbody]
      rfl
  | @deleted batch hroute hbody hcaller =>
      refine .inr ⟨.delete batch, ?_, rfl⟩
      rw [accepted_of_ok rfl, change?, hroute, hbody]
      rfl
  | @connected p tag hroute hbody hroom htag =>
      refine .inr ⟨.create [p], ?_, Store.create_eq_ok_iff.mpr ⟨hroom, rfl⟩⟩
      rw [accepted_of_ok rfl, change?, hroute, hbody]
      rfl
  | idle hidle =>
      refine .inl ⟨?_, rfl⟩
      by_cases hok : response.status = .ok
      · rw [accepted_of_ok hok]
        exact change?_eq_none fun route hroute hpost => hidle route hroute hpost hok
      · exact accepted_of_ne hok

/-- A request to change the store that is answered 200 is accepted, with a change to apply. -/
lemma Effect.accepted_isSome (h : v.Effect limit s response s') (hok : response.status = .ok)
    {route : Route} (hroute : v.Takes route) (hpost : route.method = "POST") :
    (v.accepted limit response).isSome := by
  rw [accepted_of_ok hok, change?]
  cases h with
  | created hroute' hbody =>
      rw [hroute', hbody]
      rfl
  | deleted hroute' hbody =>
      rw [hroute', hbody]
      rfl
  | connected hroute' hbody =>
      rw [hroute', hbody]
      rfl
  | idle hidle => exact absurd hok (hidle route hroute hpost)

/-- What may be relied on when a visit has been answered, whichever request it was. -/
structure Accounted (limit : Nat) (v : Visit) (before : Store) (response : Http.Response)
    (after : Store) : Prop where
  /-- Requests for a change are accepted when they are answered 200. -/
  accepted : ∀ route, v.Takes route → route.method = "POST" → response.status = .ok →
    (v.accepted limit response).isSome
  /-- Whatever is not accepted changes nothing. -/
  unchanged : v.accepted limit response = none → after = before
  /-- That is so for admin requests, requests without a route, readers and failures. -/
  idle : v.api = .admin ∨ Route.find? v.api v.request = none ∨ v.request.method = "GET" ∨
    v.request.method = "HEAD" ∨ response.status ≠ .ok → v.accepted limit response = none
  /-- After a batch has been created its policies are stored, and their apps have tags. -/
  created : ∀ batch, v.accepted limit response = some (.create batch) → ∀ p ∈ batch,
    p ∈ after.all ∧ ∀ id ∈ p.appIds, (Internal.tagOf? after.tags id).isSome
  /-- After a batch has been deleted none of its policies is stored. -/
  deleted : ∀ batch, v.accepted limit response = some (.delete batch) → ∀ p ∈ batch, p ∉ after.all

lemma Effect.accounted (h : v.Effect limit s response s') : v.Accounted limit s response s' where
  accepted := fun route hroute hpost hok => h.accepted_isSome hok hroute hpost
  unchanged := by
    intro hnone
    rcases h.change with ⟨-, hsame⟩ | ⟨c, hsome, -⟩
    · exact hsame
    · cases hnone.symm.trans hsome
  idle := by
    intro hidle
    by_cases hok : response.status = .ok
    · rw [accepted_of_ok hok]
      refine change?_eq_none fun route hroute hpost => ?_
      rcases hidle with hadmin | hnone | hget | hhead | hne
      · exact absurd hadmin hroute.api_ne_admin
      · cases hnone.symm.trans hroute
      · exact absurd (hget.symm.trans (hroute.method_eq.trans hpost)) (by decide)
      · exact absurd (hhead.symm.trans (hroute.method_eq.trans hpost)) (by decide)
      · exact hne hok
    · exact accepted_of_ne hok
  created := by
    intro batch hsome p hp
    rcases h.change with ⟨hnone, -⟩ | ⟨c, hsome', hchange⟩
    · cases hnone.symm.trans hsome
    · cases hsome.symm.trans hsome'
      obtain ⟨-, rfl⟩ := Store.create_eq_ok_iff.mp hchange
      exact ⟨(Store.mem_all_add ..).mpr (.inr hp), fun id hid => s.tagOf?_add_isSome batch hp hid⟩
  deleted := by
    intro batch hsome p hp
    rcases h.change with ⟨hnone, -⟩ | ⟨c, hsome', hchange⟩
    · cases hnone.symm.trans hsome
    · cases hsome.symm.trans hsome'
      cases hchange
      rw [Store.mem_all_delete]
      exact fun hmem => hmem.2 hp

end Visit

/-! ## Whole runs -/

/-- The accepted changes of a transcript, in order. -/
def acceptedChanges (limit : Nat) (transcript : List (Visit × Http.Response)) : List Store.Change :=
  transcript.filterMap fun entry => entry.1.accepted limit entry.2

lemma acceptedChanges_cons (limit : Nat) (v : Visit) (response : Http.Response)
    (transcript : List (Visit × Http.Response)) :
    acceptedChanges limit ((v, response) :: transcript)
      = (v.accepted limit response).toList ++ acceptedChanges limit transcript := by
  unfold acceptedChanges
  rw [List.filterMap_cons]
  cases v.accepted limit response with
  | none => rfl
  | some c => rfl

namespace Server

lemma replay_acceptedChanges (visits : List Visit) : ∀ {s : Server}, s.showsTags = true →
    s.store.replay (acceptedChanges s.bodyLimit (s.transcript visits))
      = .ok (s.after visits).store := by
  induction visits with
  | nil =>
      intro s _
      rfl
  | cons v visits ih =>
      intro s hs
      obtain ⟨heffect, hlimit, hshows⟩ := visit_effect hs v
      have hrest := ih hshows
      rw [hlimit] at hrest
      rw [transcript_cons, after_cons, acceptedChanges_cons]
      rcases heffect.change with ⟨hnone, hsame⟩ | ⟨c, hsome, hchange⟩
      · rw [hnone, ← hsame]
        exact hrest
      · rw [hsome, Option.toList_some, List.singleton_append, Store.replay, List.foldlM_cons,
          hchange]
        exact hrest

/-- **The store is the effect of the accepted requests.**  After any run from an empty store, the
accepted changes of the run, applied in their order to an empty store, all succeed and give the
store of the server.  And whatever is visited next is accounted for: a request that is not accepted
leaves the store as it is, which includes every request to the admin service, without a route, that
reads, or that is answered by anything but 200; after a batch has been created, all of it is stored
and tagged; after one has been deleted, none of it is stored. -/
theorem store_eq_replay (width : TagWidth) (limit : Nat) (ready : Bool) (visits : List Visit) :
    (Store.new width).replay (acceptedChanges limit ((new width limit ready).transcript visits))
      = .ok ((new width limit ready).after visits).store ∧
    ∀ v : Visit, v.Accounted limit ((new width limit ready).after visits).store
      (((new width limit ready).after visits).visit v).1
      (((new width limit ready).after visits).visit v).2.store := by
  refine ⟨replay_acceptedChanges (s := new width limit ready) visits rfl, fun v => ?_⟩
  obtain ⟨hlimit, hshows⟩ := after_setup (s := new width limit ready) rfl visits
  obtain ⟨heffect, -⟩ := visit_effect hshows v
  rw [hlimit] at heffect
  exact heffect.accounted

/-- The two requests of the small run are accepted, and their changes lead to its store. -/
theorem store_eq_replay_loop :
    acceptedChanges 1000 (small.transcript [loopVisit, unloopVisit])
      = [.create [loop], .delete [loop]] ∧
    (Store.new ⟨1, by decide, by decide⟩).replay [.create [loop], .delete [loop]]
      = .ok (small.after [loopVisit, unloopVisit]).store := by
  have hchanges : acceptedChanges 1000 (small.transcript [loopVisit, unloopVisit])
      = [.create [loop], .delete [loop]] := by cbv
  refine ⟨hchanges, ?_⟩
  rw [← hchanges]
  exact (store_eq_replay ⟨1, by decide, by decide⟩ 1000 true [loopVisit, unloopVisit]).1

end Server

end NetworkPolicy
