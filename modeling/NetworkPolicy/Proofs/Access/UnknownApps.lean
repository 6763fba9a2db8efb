import Mathlib.Tactic.Common
import NetworkPolicy.Access.Platform
import NetworkPolicy.Proofs.Access.Decision

/-!
# Apps that nobody knows

The lookup that answers for a batch says which spaces came back, not which app each of them
belongs to, and leaves out the apps that it does not know.  So a grant says that the spaces of the
*known* apps admit the caller, and says nothing about the others: they do not count at all.

A listing reads the same platform through pairs of an app and its space, and hides whatever names
an app without a pair.  The two agree exactly on the batches whose apps are all known.

* `World.Resolves` — both lookups of some apps answer from one relation between apps and guids.
* `grant_covers_known_apps` — when a batch is granted, when the grant covers every app of it, and
  what the caller then sees of it.
* `unknown_app_granted` — a batch that is granted although one of its apps is unknown.
-/

namespace NetworkPolicy

/-- The lookups of the given apps answer from one relation between apps and the guids of their
spaces.  Of an app that lies in no space nothing comes back. -/
structure World.Resolves (world : World) (apps : List String)
    (liesIn : String → String → Prop) : Prop where
  spaceGuids : ∀ {token : String} {guids : List String},
    world (.spaceGuids token apps) = Except.ok guids →
      ∀ guid, guid ∈ guids ↔ ∃ app ∈ apps, liesIn app guid
  appSpaces : ∀ {token : String} {pairs : List (String × String)},
    world (.appSpaces token apps) = Except.ok pairs →
      ∀ app guid, (app, guid) ∈ pairs ↔ app ∈ apps ∧ liesIn app guid

lemma Platform.mem_entries {p : Platform} {apps : List String} {app guid : String} :
    (app, guid) ∈ p.entries apps ↔ app ∈ apps ∧ (app, guid) ∈ p.apps := by
  simp only [entries, List.mem_flatMap, List.mem_filter, decide_eq_true_eq]
  constructor
  · rintro ⟨_, happ, hentry, rfl⟩
    exact ⟨happ, hentry⟩
  · rintro ⟨happ, hentry⟩
    exact ⟨app, happ, hentry, rfl⟩

/-- The tables of a platform are such a relation, unless an answer is laid down apart from them. -/
lemma Platform.resolves {p : Platform} (hguids : p.spaceGuids = none) (hpairs : p.appSpaces = none)
    (apps : List String) :
    World.Resolves p.answer apps fun app guid => (app, guid) ∈ p.apps where
  spaceGuids := by
    intro token guids h guid
    simp only [answer, hguids, Option.getD_none, Except.mapError] at h
    cases h
    rw [List.mem_map]
    constructor
    · rintro ⟨⟨app, _⟩, hentry, rfl⟩
      exact ⟨app, mem_entries.mp hentry⟩
    · rintro ⟨app, hentry⟩
      exact ⟨(app, guid), mem_entries.mpr hentry, rfl⟩
  appSpaces := by
    intro token pairs h app guid
    simp only [answer, hpairs, Option.getD_none, Except.mapError] at h
    cases h
    exact mem_entries

namespace Guard

variable {world : World} {liesIn : String → String → Prop} {caller : Claims} {batch : List Policy}

@[simp] lemma mem_appsOf (app : String) (batch : List Policy) :
    app ∈ appsOf batch ↔ app ∈ appIdsOf batch := List.mem_eraseDups

/-- A grant, in terms of the relation: all spaces of the known apps admit the caller. -/
lemma check_eq_true_iff_of_resolves (hcaller : caller.isAdmin = false)
    (hworld : world.Resolves (appsOf batch) liesIn) :
    (check batch caller).evalIn world = .ok true
      ↔ ∃ (token : String) (guids : List String), world .serviceToken = Except.ok token ∧
          world (.spaceGuids token (appsOf batch)) = Except.ok guids ∧
          ∀ app ∈ appIdsOf batch, ∀ guid, liesIn app guid →
            world.Admits token caller.userId guid := by
  rw [check_eq_true_iff hcaller]
  refine exists_congr fun token => exists_congr fun guids => and_congr_right' ?_
  refine and_congr_right fun hguids => ?_
  constructor
  · intro h app happ guid hlies
    exact h guid ((hworld.spaceGuids hguids guid).mpr ⟨app, (mem_appsOf ..).mpr happ, hlies⟩)
  · intro h guid hguid
    obtain ⟨app, happ, hlies⟩ := (hworld.spaceGuids hguids guid).mp hguid
    exact h app ((mem_appsOf ..).mp happ) guid hlies

/-- Of a batch whose known apps all lie in spaces that admit the caller, the policies are seen whose
apps are known. -/
lemma visible_of_resolves (hcaller : caller.isAdmin = false)
    (hworld : world.Resolves (appsOf batch) liesIn) {token : String}
    {pairs : List (String × String)} (htoken : world .serviceToken = Except.ok token)
    (hpairs : world (.appSpaces token (appsOf batch)) = Except.ok pairs)
    (hadmits : ∀ app ∈ appIdsOf batch, ∀ guid, liesIn app guid →
      world.Admits token caller.userId guid) :
    ∃ keep : Policy → Bool, (visible batch caller).evalIn world = .ok (batch.filter keep) ∧
      ∀ p ∈ batch, (keep p = true ↔ ∀ app ∈ p.appIds, ∃ guid, liesIn app guid) := by
  have hall : ∀ entry ∈ pairs, world.Admits token caller.userId entry.2 := by
    intro entry hentry
    obtain ⟨happ, hlies⟩ := (hworld.appSpaces hpairs entry.1 entry.2).mp hentry
    exact hadmits entry.1 ((mem_appsOf ..).mp happ) entry.2 hlies
  refine ⟨_, visible_of_admits hcaller htoken hpairs hall, fun p hp => ?_⟩
  rw [List.all_eq_true]
  refine forall₂_congr fun app happ => ?_
  have hnamed : app ∈ appsOf batch :=
    (mem_appsOf ..).mpr (List.mem_flatMap.mpr ⟨p, hp, happ⟩)
  rw [decide_eq_true_eq, List.mem_map]
  constructor
  · rintro ⟨entry, hentry, rfl⟩
    exact ⟨entry.2, ((hworld.appSpaces hpairs entry.1 entry.2).mp hentry).2⟩
  · rintro ⟨guid, hlies⟩
    exact ⟨(app, guid), (hworld.appSpaces hpairs app guid).mpr ⟨hnamed, hlies⟩, rfl⟩

/-- **A grant covers the known apps and no others.**  Without the rights of an administrator a
batch is granted exactly when the apps can be looked up and every space of every app that is known
admits the caller.  Such a grant says of *every* app of the batch that it lies in a space that
admits the caller exactly when every app is known; and what the caller then sees of the batch are
the policies whose apps are known, hence all of it under the same condition. -/
theorem grant_covers_known_apps (hcaller : caller.isAdmin = false)
    (hworld : world.Resolves (appsOf batch) liesIn) :
    ((check batch caller).evalIn world = .ok true
      ↔ ∃ (token : String) (guids : List String), world .serviceToken = Except.ok token ∧
          world (.spaceGuids token (appsOf batch)) = Except.ok guids ∧
          ∀ app ∈ appIdsOf batch, ∀ guid, liesIn app guid →
            world.Admits token caller.userId guid) ∧
    ∀ token : String, world .serviceToken = Except.ok token →
      (check batch caller).evalIn world = .ok true →
      ((∀ app ∈ appIdsOf batch, ∃ guid, liesIn app guid ∧
            world.Admits token caller.userId guid)
          ↔ ∀ app ∈ appIdsOf batch, ∃ guid, liesIn app guid) ∧
      ∀ pairs : List (String × String),
        world (.appSpaces token (appsOf batch)) = Except.ok pairs →
          ∃ seen, (visible batch caller).evalIn world = .ok seen ∧
            (∀ p, p ∈ seen ↔ p ∈ batch ∧ ∀ app ∈ p.appIds, ∃ guid, liesIn app guid) ∧
            (seen = batch ↔ ∀ app ∈ appIdsOf batch, ∃ guid, liesIn app guid) := by
  refine ⟨check_eq_true_iff_of_resolves hcaller hworld, fun token htoken hgranted => ?_⟩
  obtain ⟨token', guids, htoken', -, hadmits⟩ :=
    (check_eq_true_iff_of_resolves hcaller hworld).mp hgranted
  obtain rfl : token = token' := Except.ok.inj (htoken.symm.trans htoken')
  refine ⟨⟨fun h app happ => ?_, fun h app happ => ?_⟩, fun pairs hpairs => ?_⟩
  · obtain ⟨guid, hlies, -⟩ := h app happ
    exact ⟨guid, hlies⟩
  · obtain ⟨guid, hlies⟩ := h app happ
    exact ⟨guid, hlies, hadmits app happ guid hlies⟩
  · obtain ⟨keep, hseen, hkeep⟩ := visible_of_resolves hcaller hworld htoken hpairs hadmits
    refine ⟨batch.filter keep, hseen, fun p => ?_, ?_⟩
    · rw [List.mem_filter]
      exact and_congr_right (hkeep p)
    · rw [List.filter_eq_self, appIdsOf, List.forall_mem_flatMap]
      exact forall₂_congr hkeep

/-! ## A platform that knows one app -/

/-- The app `web` lies in a space with the member `dev`; no other app is known. -/
def sparsePlatform : Platform where
  serviceToken := .ok "service-token"
  apps := [("web", "space-1")]
  spaceGuids := none
  appSpaces := none
  spaces := [("space-1", .ok (some ⟨"one", "org"⟩))]
  memberFaults := []
  members := [("dev", ⟨"one", "org"⟩)]
  tokens := []

/-- A developer who may manage the policies between apps of their own spaces. -/
def developer : Claims := ⟨[Claims.writeScope], "dev", "Dev"⟩

/-- A connection to the known app from one that cannot be found. -/
def straySource : Policy := ⟨"lost", ⟨"web", .tcp, ⟨80, 80, some 80, by decide, by decide, rfl⟩⟩⟩

/-- The batch is granted although `lost` lies in no space, and the developer never sees it. -/
theorem unknown_app_granted :
    developer.isAdmin = false ∧ [straySource] ≠ [] ∧
    World.Resolves sparsePlatform.answer (appsOf [straySource])
      (fun app guid => (app, guid) ∈ sparsePlatform.apps) ∧
    (check [straySource] developer).evalIn sparsePlatform.answer = .ok true ∧
    "lost" ∈ appIdsOf [straySource] ∧ (∀ guid, ("lost", guid) ∉ sparsePlatform.apps) ∧
    (visible [straySource] developer).evalIn sparsePlatform.answer = .ok [] := by
  refine ⟨by decide, by decide, Platform.resolves rfl rfl _, by decide, by decide, ?_, by decide⟩
  intro guid h
  simp [sparsePlatform] at h

/-- The grant of `straySource`, with all that it rests on. -/
theorem grant_covers_known_apps_stray :
    developer.isAdmin = false ∧
    (sparsePlatform.answer .serviceToken = Except.ok "service-token") ∧
    (check [straySource] developer).evalIn sparsePlatform.answer = .ok true ∧
    ¬ ∀ app ∈ appIdsOf [straySource], ∃ guid, (app, guid) ∈ sparsePlatform.apps ∧
      World.Admits sparsePlatform.answer "service-token" "dev" guid := by
  have hworld := Platform.resolves (p := sparsePlatform) rfl rfl (appsOf [straySource])
  have hcaller : developer.isAdmin = false := rfl
  have h := grant_covers_known_apps hcaller hworld
  refine ⟨rfl, rfl, by decide, fun hall => ?_⟩
  have hknown := ((h.2 "service-token" rfl (by decide)).1).mp hall
  obtain ⟨guid, hguid⟩ := hknown "lost" (by decide)
  simp [sparsePlatform] at hguid

end Guard

end NetworkPolicy
