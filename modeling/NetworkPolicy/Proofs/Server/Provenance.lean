import Mathlib.Tactic.Common
import NetworkPolicy.Proofs.Server.Runs

/-!
# Where stored policies come from

A policy gets into the store in two ways only: a caller who may manage the whole batch lists it in
the body of a request to create policies, or an app asks on the internal service to reach itself
(`Visit.Puts`).  It leaves the store in one way only: a caller who may manage the whole batch lists
it in the body of a request to delete policies (`Visit.Deletes`).  In all cases the answer is 200.

* `Visit.Effect.mem_iff` — what one visit does to the presence of a policy.
* `stored_iff_put_and_kept` — which policies a server holds after a run that began with an empty
  store, and how they disappear.
-/

namespace NetworkPolicy

namespace Visit

variable {limit : Nat} {v : Visit} {p : Policy}

/-- The request asks for the policy to be stored, and may. -/
inductive Puts (limit : Nat) (v : Visit) (p : Policy) : Prop where
  /-- The policy is one of a batch that the caller may manage. -/
  | listed {batch : List Policy} (hapi : v.api = .external) (hroute : v.Takes .createPolicies)
      (hbody : v.request.body.decode External.policiesRequest limit = .ok batch)
      (hmem : p ∈ batch) (hcaller : External.MayManage v.world v.request batch)
  /-- The policy lets an app reach itself, over TCP and on the one port that is asked for. -/
  | itself {port : UInt16} (hapi : v.api = .internal) (hroute : v.Takes .createSelfPolicy)
      (hbody : v.request.body.decode Internal.selfPolicyRequest limit = .ok (p.source, some port))
      (hdestination : p.destination.id = p.source) (hprotocol : p.destination.protocol = .tcp)
      (hfirst : p.destination.range.first = port) (hlast : p.destination.range.last = port)

/-- The request is one to delete policies, and the policy is in its body. -/
def ListsForDeletion (limit : Nat) (v : Visit) (p : Policy) : Prop :=
  v.Takes .deletePolicies ∧
    ∃ batch, v.request.body.decode External.policiesRequest limit = .ok batch ∧ p ∈ batch

/-- The request lists the policy in a batch to be deleted that the caller may manage. -/
def Deletes (limit : Nat) (v : Visit) (p : Policy) : Prop :=
  v.api = .external ∧ v.Takes .deletePolicies ∧
    ∃ batch, v.request.body.decode External.policiesRequest limit = .ok batch ∧ p ∈ batch ∧
      External.MayManage v.world v.request batch

/-! ## One visit -/

lemma puts_iff_of_created {batch : List Policy} (hroute : v.Takes .createPolicies)
    (hbody : v.request.body.decode External.policiesRequest limit = .ok batch)
    (hcaller : External.MayManage v.world v.request batch) : v.Puts limit p ↔ p ∈ batch := by
  constructor
  · rintro (⟨-, -, hbody', hmem, -⟩ | ⟨-, hroute', -⟩)
    · cases hbody.symm.trans hbody'
      exact hmem
    · cases hroute.unique hroute'
  · exact fun hmem => .listed hroute.api_eq hroute hbody hmem hcaller

lemma puts_iff_of_connected {p' : Policy} (hroute : v.Takes .createSelfPolicy)
    (hbody : Internal.selfPolicyIn limit v.request = .ok p') : v.Puts limit p ↔ p = p' := by
  obtain ⟨port, hdecode, hself⟩ := Internal.selfPolicyIn_eq_ok_iff.mp hbody
  obtain ⟨hid, -, hdestination, hprotocol, hport, hlast⟩ :=
    Internal.selfPolicy_eq_ok_iff.mp hself
  constructor
  · rintro (⟨-, hroute', -⟩ | ⟨-, -, hdecode', hdestination', hprotocol', hfirst', hlast'⟩)
    · cases hroute.unique hroute'
    · obtain ⟨hsource, hport'⟩ := Prod.mk.inj (Except.ok.inj (hdecode.symm.trans hdecode'))
      have hself' : Internal.selfPolicy p'.source port = .ok p :=
        Internal.selfPolicy_eq_ok_iff.mpr ⟨hid, hsource.symm, hdestination'.trans hsource.symm,
          hprotocol', hport'.trans (congrArg some hfirst'.symm), hlast'.trans hfirst'.symm⟩
      exact Except.ok.inj (hself'.symm.trans hself)
  · rintro rfl
    exact .itself hroute.api_eq hroute (hport ▸ hdecode) hdestination hprotocol rfl hlast

/-- After a visit a policy is stored if it has just been put there, or if it was stored and has not
just been deleted; in both cases by a request that was answered 200. -/
lemma Effect.mem_iff {s s' : Store} {response : Http.Response}
    (h : v.Effect limit s response s') : p ∈ s'.all ↔
      (response.status = .ok ∧ v.Puts limit p) ∨
        (p ∈ s.all ∧ ¬ (response.status = .ok ∧ v.ListsForDeletion limit p)) := by
  cases h with
  | created hroute hbody hcaller hroom =>
      have hkeep : ¬ v.ListsForDeletion limit p := fun ⟨hroute', _⟩ => by
        cases hroute.unique hroute'
      have hok : External.done.status = .ok := rfl
      rw [Store.mem_all_add, puts_iff_of_created hroute hbody hcaller]
      simp only [hok, hkeep, and_false, not_false_eq_true, and_true, true_and, or_comm]
  | @deleted batch hroute hbody hcaller =>
      have hput : ¬ v.Puts limit p := by
        rintro (⟨-, hroute', -⟩ | ⟨-, hroute', -⟩)
        · cases hroute.unique hroute'
        · cases hroute.unique hroute'
      have hlists : v.ListsForDeletion limit p ↔ p ∈ batch := by
        constructor
        · rintro ⟨-, batch', hbody', hmem⟩
          cases hbody.symm.trans hbody'
          exact hmem
        · exact fun hmem => ⟨hroute, batch, hbody, hmem⟩
      have hok : External.done.status = .ok := rfl
      rw [Store.mem_all_delete, hlists]
      simp only [hok, hput, and_false, true_and, false_or]
  | @connected p' tag hroute hbody hroom htag =>
      have hkeep : ¬ v.ListsForDeletion limit p := fun ⟨hroute', _⟩ => by
        cases hroute.unique hroute'
      have hok : (Internal.tagAnswer tag).status = .ok := rfl
      rw [Store.mem_all_add, puts_iff_of_connected hroute hbody, List.mem_singleton]
      simp only [hok, hkeep, and_false, not_false_eq_true, and_true, true_and, or_comm]
  | idle hidle =>
      have hput : ¬ (response.status = .ok ∧ v.Puts limit p) := by
        rintro ⟨hok, ⟨-, hroute, -⟩ | ⟨-, hroute, -⟩⟩
        · exact hidle _ hroute rfl hok
        · exact hidle _ hroute rfl hok
      have hkeep : ¬ (response.status = .ok ∧ v.ListsForDeletion limit p) :=
        fun ⟨hok, hroute, _⟩ => hidle _ hroute rfl hok
      simp only [hput, hkeep, not_false_eq_true, and_true, false_or]

/-- A deletion that is answered 200 was the caller's to make. -/
lemma Effect.deletes {s s' : Store} {response : Http.Response} (h : v.Effect limit s response s')
    (hok : response.status = .ok) (hlists : v.ListsForDeletion limit p) : v.Deletes limit p := by
  obtain ⟨hroute, batch, hbody, hmem⟩ := hlists
  refine ⟨hroute.api_eq, hroute, batch, hbody, hmem, ?_⟩
  cases h with
  | created hroute' => cases hroute.unique hroute'
  | deleted hroute' hbody' hcaller =>
      cases hbody.symm.trans hbody'
      exact hcaller
  | connected hroute' => cases hroute.unique hroute'
  | idle hidle => exact absurd hok (hidle _ hroute rfl)

end Visit

/-! ## Whole runs -/

/-- Some request of the transcript puts the policy and is answered 200, and of the later ones that
are answered 200 none puts it again or lists it for deletion. -/
def PutAndKept (limit : Nat) (transcript : List (Visit × Http.Response)) (p : Policy) : Prop :=
  ∃ before v response later, transcript = before ++ (v, response) :: later ∧
    response.status = .ok ∧ v.Puts limit p ∧
    ∀ entry ∈ later, entry.2.status = .ok →
      ¬ entry.1.Puts limit p ∧ ¬ entry.1.ListsForDeletion limit p

lemma putAndKept_concat {limit : Nat} {transcript : List (Visit × Http.Response)} {v : Visit}
    {response : Http.Response} {p : Policy} :
    PutAndKept limit (transcript ++ [(v, response)]) p ↔
      (response.status = .ok ∧ v.Puts limit p) ∨
        (PutAndKept limit transcript p ∧ ¬ (response.status = .ok ∧ v.Puts limit p) ∧
          ¬ (response.status = .ok ∧ v.ListsForDeletion limit p)) := by
  constructor
  · rintro ⟨before, w, response', later, hsplit, hok, hputs, hlater⟩
    rcases List.eq_nil_or_concat' later with rfl | ⟨later, last, rfl⟩
    · obtain ⟨-, hlast⟩ := List.append_inj' hsplit rfl
      cases hlast
      exact .inl ⟨hok, hputs⟩
    · rw [← List.cons_append, ← List.append_assoc] at hsplit
      obtain ⟨hinit, hlast⟩ := List.append_inj' hsplit rfl
      cases hlast
      have hkept := hlater (v, response) (List.mem_append_right _ List.mem_cons_self)
      refine .inr ⟨⟨before, w, response', later, hinit, hok, hputs, fun entry hentry => ?_⟩,
        fun h => (hkept h.1).1 h.2, fun h => (hkept h.1).2 h.2⟩
      exact hlater entry (List.mem_append_left _ hentry)
  · rintro (⟨hok, hputs⟩ | ⟨⟨before, w, response', later, rfl, hok, hputs, hlater⟩, hput, hlist⟩)
    · refine ⟨transcript, v, response, [], rfl, hok, hputs, fun entry hentry => ?_⟩
      cases hentry
    · refine ⟨before, w, response', later ++ [(v, response)], by simp, hok, hputs, ?_⟩
      intro entry hentry
      rcases List.mem_append.mp hentry with hentry | hentry
      · exact hlater entry hentry
      · obtain rfl := List.mem_singleton.mp hentry
        exact fun hok' => ⟨fun h => hput ⟨hok', h⟩, fun h => hlist ⟨hok', h⟩⟩

namespace Server

variable {s : Server} {p : Policy}

/-- Over an empty store, the policies after a run are those that were put and kept. -/
lemma mem_after_iff (hs : s.showsTags = true) (hempty : s.store.all = []) (visits : List Visit) :
    p ∈ (s.after visits).store.all ↔ PutAndKept s.bodyLimit (s.transcript visits) p := by
  induction visits using List.reverseRecOn with
  | nil =>
      rw [after_nil, hempty, transcript_nil]
      constructor
      · intro h
        cases h
      · rintro ⟨before, v, response, later, h, -⟩
        cases before <;> cases h
  | append_singleton visits v ih =>
      obtain ⟨hlimit, hshows⟩ := after_setup hs visits
      obtain ⟨heffect, -⟩ := visit_effect hshows v
      rw [hlimit] at heffect
      rw [after_append, after_cons, after_nil, heffect.mem_iff, ih, transcript_append,
        transcript_cons, transcript_nil, putAndKept_concat]
      tauto

/-- A policy that disappears during a run is deleted by one of its requests. -/
lemma exists_deletes (visits : List Visit) : ∀ {s : Server}, s.showsTags = true →
    p ∈ s.store.all → p ∉ (s.after visits).store.all →
    ∃ v response, (v, response) ∈ s.transcript visits ∧ response.status = .ok ∧
      v.Deletes s.bodyLimit p := by
  induction visits with
  | nil =>
      intro s _ hmem hgone
      exact absurd hmem hgone
  | cons v visits ih =>
      intro s hs hmem hgone
      obtain ⟨heffect, hlimit, hshows⟩ := visit_effect hs v
      by_cases hmem' : p ∈ (s.visit v).2.store.all
      · obtain ⟨w, response, hw, hok, hdeletes⟩ := ih hshows hmem' hgone
        exact ⟨w, response, List.mem_cons_of_mem _ hw, hok, hlimit ▸ hdeletes⟩
      · have hlisted : (s.visit v).1.status = .ok ∧ v.ListsForDeletion s.bodyLimit p := by
          by_contra hkept
          exact hmem' (heffect.mem_iff.mpr (.inr ⟨hmem, hkept⟩))
        exact ⟨v, _, List.mem_cons_self, hlisted.1, heffect.deletes hlisted.1 hlisted.2⟩

/-- **Nothing is stored or removed without authority.**  After any run from an empty store, a policy
is stored exactly when some request that was answered 200 put it, and no later one that was answered
200 put it again or listed it for deletion: that request lists it in a batch that its caller may
manage, or is the one in which the app of the policy asks to reach itself.  And a policy that is
stored at one moment of the run and not at a later one was in between listed for deletion, in a
batch that the caller may manage, by a request that was answered 200. -/
theorem stored_iff_put_and_kept (width : TagWidth) (limit : Nat) (ready : Bool)
    (visits : List Visit) (p : Policy) :
    (p ∈ ((new width limit ready).after visits).store.all ↔
      PutAndKept limit ((new width limit ready).transcript visits) p) ∧
    ∀ earlier later, visits = earlier ++ later →
      p ∈ ((new width limit ready).after earlier).store.all →
      p ∉ ((new width limit ready).after visits).store.all →
      ∃ v response, (v, response) ∈ ((new width limit ready).after earlier).transcript later ∧
        response.status = .ok ∧ v.Deletes limit p := by
  refine ⟨mem_after_iff rfl rfl visits, ?_⟩
  rintro earlier later rfl hmem hgone
  obtain ⟨hlimit, hshows⟩ := after_setup (s := new width limit ready) rfl earlier
  rw [after_append] at hgone
  have hdeletes := exists_deletes later hshows hmem hgone
  rwa [hlimit] at hdeletes

/-- The policy of the first request is stored after it, and the second request has deleted it. -/
theorem stored_iff_put_and_kept_loop :
    loop ∈ (small.after [loopVisit]).store.all ∧
    loop ∉ (small.after [loopVisit, unloopVisit]).store.all ∧
    PutAndKept 1000 (small.transcript [loopVisit]) loop ∧
    ∃ v response, (v, response) ∈ (small.after [loopVisit]).transcript [unloopVisit] ∧
      response.status = .ok ∧ v.Deletes 1000 loop := by
  have hstored : loop ∈ (small.after [loopVisit]).store.all := by
    rw [all_after_loop]
    exact List.mem_cons_self
  have hgone : loop ∉ (small.after [loopVisit, unloopVisit]).store.all := by
    rw [all_after_unloop]
    exact List.not_mem_nil
  exact ⟨hstored, hgone, (stored_iff_put_and_kept ..).1.mp hstored,
    (stored_iff_put_and_kept ..).2 [loopVisit] [unloopVisit] rfl hstored hgone⟩

end Server

end NetworkPolicy
