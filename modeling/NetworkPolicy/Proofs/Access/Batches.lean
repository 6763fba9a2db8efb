import Mathlib.Tactic.Common
import NetworkPolicy.Proofs.Access.Agreement

/-!
# Batches and their parts

The guard decides about a batch as a whole: it looks all apps up at once and stops at the first
thing that is missing.  For two batches and the one composed of them it therefore asks for other
apps, meets their spaces in another order, and may stop elsewhere with another denial or another
error.  What composes is the grant.

This rests on the lookup of the apps.  It may fail altogether, but where it answers, it has to
answer for each app on its own (`World.AnswersApart`): a lookup that refused long lists, say, would
grant the parts and fail on the whole.

* `World.Grants` — the caller is granted a batch.
* `grants_or_never` — a grant is a condition on each app of the batch, or there are no grants.
* `grants_compose` — hence a batch is granted exactly when its parts are.
-/

namespace NetworkPolicy

/-- The lookup of apps always fails, or it always answers, and the spaces that come back for a list
of apps are those of each of its apps. -/
def World.AnswersApart (world : World) (token : String) : Prop :=
  (∀ apps, ∃ cause, world (.spaceGuids token apps) = Except.error cause) ∨
  ∃ liesIn : String → String → Prop, ∀ apps, ∃ guids : List String,
    world (.spaceGuids token apps) = Except.ok guids ∧
      ∀ guid, guid ∈ guids ↔ ∃ app ∈ apps, liesIn app guid

/-- The tables of a platform answer for each app on its own. -/
lemma Platform.answersApart {p : Platform} (hguids : p.spaceGuids = none) (token : String) :
    World.AnswersApart p.answer token := by
  refine .inr ⟨fun app guid => (app, guid) ∈ p.apps, fun apps => ?_⟩
  refine ⟨(p.entries apps).map Prod.snd, ?_, fun guid => ?_⟩
  · rw [answer, hguids]
    rfl
  · simp only [List.mem_map, Prod.exists, exists_eq_right, mem_entries]

/-- The guard grants the batch to the caller. -/
def World.Grants (world : World) (caller : Claims) (batch : List Policy) : Prop :=
  (Guard.check batch caller).evalIn world = .ok true

instance (world : World) (caller : Claims) (batch : List Policy) :
    Decidable (world.Grants caller batch) :=
  inferInstanceAs (Decidable (_ = _))

lemma appIdsOf_subset {a b : List Policy} (h : a ⊆ b) : appIdsOf a ⊆ appIdsOf b := by
  intro app happ
  obtain ⟨p, hp, hnamed⟩ := List.mem_flatMap.mp happ
  exact List.mem_flatMap.mpr ⟨p, h hp, hnamed⟩

namespace Guard

variable {world : World} {caller : Claims}

/-- Where the lookup of apps answers for each app on its own, a grant is a condition on each app of
the batch: its spaces admit the caller. -/
lemma grants_iff_of_answers {token : String} {liesIn : String → String → Prop}
    (hcaller : caller.isAdmin = false) (htoken : world .serviceToken = Except.ok token)
    (hlies : ∀ apps, ∃ guids : List String, world (.spaceGuids token apps) = Except.ok guids ∧
      ∀ guid, guid ∈ guids ↔ ∃ app ∈ apps, liesIn app guid) (batch : List Policy) :
    world.Grants caller batch ↔ ∀ app ∈ appIdsOf batch, ∀ guid, liesIn app guid →
      world.Admits token caller.userId guid := by
  obtain ⟨guids, hguids, hmem⟩ := hlies (appsOf batch)
  rw [World.Grants, check_eq_true_iff hcaller]
  constructor
  · rintro ⟨token', guids', htoken', hguids', hadmits⟩ app happ guid hguid
    obtain rfl : token = token' := Except.ok.inj (htoken.symm.trans htoken')
    obtain rfl : guids = guids' := Except.ok.inj (hguids.symm.trans hguids')
    exact hadmits guid ((hmem guid).mpr ⟨app, (mem_appsOf ..).mpr happ, hguid⟩)
  · intro hadmits
    refine ⟨token, guids, htoken, hguids, fun guid hguid => ?_⟩
    obtain ⟨app, happ, hlies⟩ := (hmem guid).mp hguid
    exact hadmits app ((mem_appsOf ..).mp happ) guid hlies

/-- A grant is a condition on each app of the batch, unless nothing is granted at all. -/
lemma grants_or_never
    (hworld : ∀ token : String, world .serviceToken = Except.ok token → world.AnswersApart token)
    (caller : Claims) :
    (∀ batch, ¬ world.Grants caller batch) ∨
    ∃ good : String → Prop,
      ∀ batch, world.Grants caller batch ↔ ∀ app ∈ appIdsOf batch, good app := by
  cases hcaller : caller.isAdmin with
  | true =>
      refine .inr ⟨fun _ => True, fun batch => ?_⟩
      exact iff_of_true (check_of_isAdmin world batch hcaller) fun _ _ => trivial
  | false =>
      cases hservice : (world .serviceToken : Except LookupFault String) with
      | error cause =>
          refine .inl fun batch hgranted => ?_
          obtain ⟨token, _, htoken, -⟩ := (check_eq_true_iff hcaller batch).mp hgranted
          cases hservice.symm.trans htoken
      | ok token =>
          -- one condition for all batches, since the token is the same for all of them
          obtain hfails | ⟨liesIn, hlies⟩ := hworld token hservice
          · refine .inl fun batch hgranted => ?_
            obtain ⟨token', guids, htoken, hguids, -⟩ :=
              (check_eq_true_iff hcaller batch).mp hgranted
            obtain rfl : token = token' := Except.ok.inj (hservice.symm.trans htoken)
            obtain ⟨cause, hcause⟩ := hfails (appsOf batch)
            cases hcause.symm.trans hguids
          · exact .inr ⟨_, grants_iff_of_answers hcaller hservice hlies⟩

/-- **A batch is granted exactly when its parts are.**  In a world whose lookup of apps always fails
or answers for each app on its own, a batch composed of two is granted to a caller exactly when each
of the two is.  Neither the order of the policies nor their number matters, and a batch that is not
granted, be it denied or undecided, is not granted with more policies either. -/
theorem grants_compose
    (hworld : ∀ token : String, world .serviceToken = Except.ok token → world.AnswersApart token)
    (caller : Claims) :
    (∀ a b, world.Grants caller (a ++ b) ↔ world.Grants caller a ∧ world.Grants caller b) ∧
    (∀ a b, (∀ p, p ∈ a ↔ p ∈ b) → (world.Grants caller a ↔ world.Grants caller b)) ∧
    ∀ a b, a ⊆ b → ¬ world.Grants caller a → ¬ world.Grants caller b := by
  obtain hnever | ⟨good, hgood⟩ := grants_or_never hworld caller
  · exact ⟨fun a b => iff_of_false (hnever _) fun h => hnever a h.1,
      fun a b _ => iff_of_false (hnever a) (hnever b), fun _ b _ _ => hnever b⟩
  · have hmono : ∀ {a b : List Policy}, a ⊆ b → world.Grants caller b → world.Grants caller a :=
      fun hab hb => (hgood _).mpr fun app happ =>
        (hgood _).mp hb app (appIdsOf_subset hab happ)
    refine ⟨fun a b => ?_, fun a b hab => ?_, fun a b hab => mt (hmono hab)⟩
    · rw [hgood, hgood, hgood, appIdsOf_append, List.forall_mem_append]
    · exact ⟨hmono fun p => (hab p).mpr, hmono fun p => (hab p).mp⟩

/-- The developer may connect the apps of their own space, and no batch that also connects an app of
another space is granted to them. -/
theorem grants_compose_developer :
    (∀ token : String, (pairedPlatform.answer .serviceToken : Except LookupFault String)
      = .ok token → World.AnswersApart pairedPlatform.answer token) ∧
    World.Grants pairedPlatform.answer developer [connection "web" "api"] ∧
    ¬ World.Grants pairedPlatform.answer developer [connection "web" "db"] ∧
    ¬ World.Grants pairedPlatform.answer developer
      ([connection "web" "api"] ++ [connection "web" "db"]) := by
  have hapart := fun (token : String)
      (_ : (pairedPlatform.answer .serviceToken : Except LookupFault String) = .ok token) =>
    Platform.answersApart (p := pairedPlatform) rfl token
  have hrefused : ¬ World.Grants pairedPlatform.answer developer [connection "web" "db"] := by
    decide
  obtain ⟨hparts, -, -⟩ := grants_compose hapart developer
  exact ⟨hapart, by decide, hrefused, fun hwhole => hrefused ((hparts _ _).mp hwhole).2⟩

end Guard

end NetworkPolicy
