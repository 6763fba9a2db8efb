import Mathlib.Tactic.Common
import NetworkPolicy.Access.Remote
import NetworkPolicy.Proofs.Access.Visibility

/-!
# Seeing and managing

A listing judges all of its policies at once.  It looks up pairs of an app and its space, skips the
spaces that do not exist, and decides by the pairs and the spaces that are left.  Managing is
decided for one batch at a time, by the guids alone, and the first space that is missing decides.
The two ways are written apart from each other; they agree on every policy whose apps are known to
lie in one space each.

* `World.Unfailing` — no lookup that the guard may make fails.
* `visible_eq_filter_check` — the listing keeps what the caller may manage alone.
* `Remote.resolves` — over the network both lookups of apps read the same page, so they answer from
  one relation.
-/

namespace NetworkPolicy

/-- The guard gets its token, and with it an answer to every lookup. -/
structure World.Unfailing (world : World) (token : String) : Prop where
  serviceToken : world .serviceToken = Except.ok token
  spaceGuids : ∀ apps, ∃ guids, world (.spaceGuids token apps) = Except.ok guids
  appSpaces : ∀ apps, ∃ pairs, world (.appSpaces token apps) = Except.ok pairs
  space : ∀ guid, ∃ found, world (.space token guid) = Except.ok found
  userSpace : ∀ user space, ∃ found, world (.userSpace token user space) = Except.ok found

namespace Guard

variable {world : World} {token : String} {liesIn : String → String → Prop} {caller : Claims}

/-- In an unfailing world a batch is granted when all spaces of its apps admit the caller. -/
lemma check_eq_true_iff_of_unfailing (hcaller : caller.isAdmin = false)
    (hworld : world.Unfailing token) {batch : List Policy}
    (hlies : world.Resolves (appsOf batch) liesIn) :
    (check batch caller).evalIn world = .ok true
      ↔ ∀ app ∈ appIdsOf batch, ∀ guid, liesIn app guid →
          world.Admits token caller.userId guid := by
  rw [check_eq_true_iff_of_resolves hcaller hlies]
  constructor
  · rintro ⟨token', guids, htoken, -, hadmits⟩
    obtain rfl : token = token' := Except.ok.inj (hworld.serviceToken.symm.trans htoken)
    exact hadmits
  · intro hadmits
    obtain ⟨guids, hguids⟩ := hworld.spaceGuids (appsOf batch)
    exact ⟨token, guids, hworld.serviceToken, hguids, hadmits⟩

/-- Both apps of the policy lie in one space each, and so the pairs tell whether these spaces admit
the caller. -/
lemma all_admitted_iff {pairs : List (String × String)} {p : Policy}
    (hpairs : ∀ app ∈ p.appIds, ∀ guid, (app, guid) ∈ pairs ↔ liesIn app guid)
    (hhome : ∀ app ∈ p.appIds, ∃! guid, liesIn app guid) :
    (p.appIds.all fun app => (spaceOf? pairs app).any fun guid =>
        world.Admits token caller.userId guid) = true
      ↔ ∀ app ∈ p.appIds, ∀ guid, liesIn app guid → world.Admits token caller.userId guid := by
  rw [List.all_eq_true]
  refine forall₂_congr fun app happ => ?_
  obtain ⟨home, hlies, honly⟩ := hhome app happ
  have hspace : spaceOf? pairs app = some home := by
    refine @spaceOf?_eq (fun _ => some home) pairs app fun guid => ?_
    rw [hpairs app happ, Option.some_inj]
    exact ⟨fun h => (honly guid h).symm, fun h => h ▸ hlies⟩
  rw [hspace, Option.any_some, decide_eq_true_eq]
  constructor
  · intro hadmits guid hguid
    rwa [honly guid hguid]
  · exact fun h => h home hlies

/-- **A caller sees what they may manage.**  In a world where no lookup fails and both lookups of
apps answer from one relation, which gives each app of the list exactly one space, the listing
succeeds.  It keeps, in their order and as often as they are there, the policies of which the caller
would be granted the batch of that policy alone. -/
theorem visible_eq_filter_check (hworld : world.Unfailing token)
    (hlies : ∀ apps, world.Resolves apps liesIn) (policies : List Policy)
    (hhome : ∀ app ∈ appIdsOf policies, ∃! guid, liesIn app guid) (caller : Claims) :
    (visible policies caller).evalIn world
      = .ok (policies.filter fun p => (check [p] caller).evalIn world = .ok true) := by
  cases hcaller : caller.isAdmin with
  | true =>
      have hall : ∀ p ∈ policies, decide ((check [p] caller).evalIn world = .ok true) = true := by
        intro p _
        rw [decide_eq_true_eq, check, hcaller]
        rfl
      rw [List.filter_eq_self.mpr hall, visible, hcaller]
      rfl
  | false =>
      obtain ⟨(pairs : List (String × String)), hpairs⟩ := hworld.appSpaces (appsOf policies)
      have hanswers : ∀ entry ∈ pairs, world.Answers token caller.userId entry.2 := by
        intro entry _
        obtain ⟨found, hfound⟩ := hworld.space entry.2
        exact ⟨found, hfound, fun space _ => hworld.userSpace caller.userId space⟩
      rw [visible_of_answers hcaller hworld.serviceToken hpairs hanswers]
      refine congrArg Except.ok (List.filter_congr fun p hp => ?_)
      -- an app of the policy is one of the list, so it has been looked up
      have hnamed : ∀ app ∈ p.appIds, app ∈ appIdsOf policies :=
        fun app happ => List.mem_flatMap.mpr ⟨p, hp, happ⟩
      have hfound : ∀ app ∈ p.appIds, ∀ guid, (app, guid) ∈ pairs ↔ liesIn app guid := by
        intro app happ guid
        rw [(hlies _).appSpaces hpairs]
        exact and_iff_right ((mem_appsOf ..).mpr (hnamed app happ))
      have halone : appIdsOf [p] = p.appIds := List.append_nil _
      rw [Bool.eq_iff_iff, decide_eq_true_eq,
        all_admitted_iff hfound fun app happ => hhome app (hnamed app happ),
        check_eq_true_iff_of_unfailing hcaller hworld (hlies _), halone]

/-! ## A platform with two spaces -/

/-- Of the apps two lie in a space with the member `dev`, and one lies in another space. -/
def pairedPlatform : Platform where
  serviceToken := .ok "service-token"
  apps := [("web", "space-1"), ("db", "space-2"), ("api", "space-1")]
  spaceGuids := none
  appSpaces := none
  spaces := [("space-1", .ok (some ⟨"one", "org"⟩)), ("space-2", .ok (some ⟨"two", "org"⟩))]
  memberFaults := []
  members := [("dev", ⟨"one", "org"⟩)]
  tokens := []

/-- A connection on port 8080. -/
def connection (source target : String) : Policy :=
  ⟨source, ⟨target, .tcp, ⟨8080, 8080, some 8080, by decide, by decide, rfl⟩⟩⟩

/-- The developer sees the policies within their own space, one of them twice, and those are the
policies that they may manage. -/
theorem visible_eq_filter_check_developer :
    World.Unfailing pairedPlatform.answer "service-token" ∧
    (∀ apps, World.Resolves pairedPlatform.answer apps
      fun app guid => (app, guid) ∈ pairedPlatform.apps) ∧
    (∀ app ∈ appIdsOf [connection "web" "api", connection "web" "db", connection "web" "api"],
      ∃! guid, (app, guid) ∈ pairedPlatform.apps) ∧
    (visible [connection "web" "api", connection "web" "db", connection "web" "api"]
        developer).evalIn pairedPlatform.answer
      = .ok [connection "web" "api", connection "web" "api"] := by
  have hspaces : ∀ entry ∈ pairedPlatform.spaces, ∃ found, entry.2 = Except.ok found := by
    simp [pairedPlatform]
  have hsteady := Platform.steady (p := pairedPlatform) rfl rfl (by decide) hspaces rfl
  have hworld : World.Unfailing pairedPlatform.answer "service-token" :=
    ⟨rfl, fun apps => ⟨_, rfl⟩, fun apps => ⟨_, rfl⟩, hsteady.space, hsteady.userSpace⟩
  have hlies := Platform.resolves (p := pairedPlatform) rfl rfl
  have hhome : ∀ app ∈ appIdsOf
      [connection "web" "api", connection "web" "db", connection "web" "api"],
      ∃! guid, (app, guid) ∈ pairedPlatform.apps := by
    simp [appIdsOf, Policy.appIds, connection, pairedPlatform, ExistsUnique]
  refine ⟨hworld, hlies, hhome, ?_⟩
  rw [visible_eq_filter_check hworld hlies _ hhome developer]
  decide

end Guard

/-! ## The network -/

namespace Remote

/-- How lookups are answered over a network in which a call is always replied to alike. -/
def world (r : Remote) (exchange : Call → Option Reply) : World := r.answer (m := Id) exchange

variable (r : Remote) (exchange : Call → Option Reply)

/-- A page of apps is read for guids as it is read for pairs, except that the apps are left out. -/
lemma readOrFail_spaceGuids (token : String) (apps : List String) (reply : Option Reply) :
    readOrFail (.spaceGuids token apps) reply
      = Except.map (List.map Prod.snd) (readOrFail (.appSpaces token apps) reply) := by
  cases reply with
  | none => rfl
  | some reply => rfl

/-- The two lookups of apps make the same call, so they read the same page. -/
lemma world_spaceGuids (token : String) (apps : List String) :
    r.world exchange (.spaceGuids token apps)
      = Except.map (List.map Prod.snd) (r.world exchange (.appSpaces token apps)) := by
  have hanswer : ∀ q : Lookup,
      r.world exchange q = readOrFail q ((r.call? q).bind exchange) := by
    intro q
    unfold world answer
    cases r.call? q with
    | none => rfl
    | some call => rfl
  rw [hanswer, hanswer, readOrFail_spaceGuids]
  rfl

/-- So both answer from one relation as soon as the pages do. -/
lemma resolves {liesIn : String → String → Prop} {apps : List String}
    (hpages : ∀ {token : String} {pairs : List (String × String)},
      r.world exchange (.appSpaces token apps) = Except.ok pairs →
        ∀ app guid, (app, guid) ∈ pairs ↔ app ∈ apps ∧ liesIn app guid) :
    World.Resolves (r.world exchange) apps liesIn where
  appSpaces := hpages
  spaceGuids := by
    intro token guids h guid
    rw [world_spaceGuids] at h
    obtain ⟨(pairs : List (String × String)), hpairs, rfl⟩ := map_eq_ok_iff.mp h
    rw [List.mem_map]
    constructor
    · rintro ⟨⟨app, _⟩, hentry, rfl⟩
      exact ⟨app, (hpages hpairs app _).mp hentry⟩
    · rintro ⟨app, happ⟩
      exact ⟨(app, guid), (hpages hpairs app guid).mpr happ, rfl⟩

end Remote

end NetworkPolicy
