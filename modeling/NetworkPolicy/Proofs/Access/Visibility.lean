import Mathlib.Data.List.Nodup
import Mathlib.Tactic.Common
import NetworkPolicy.Proofs.Access.UnknownApps

/-!
# What a listing shows in a steady world

A listing judges all of its policies at once: it looks up each app once and each space once, and
then decides by the pairs and the guids that came back.  In a world where no lookup fails and no app
has two spaces, this comes to judging each policy alone.

* `World.Steady` — such a world, with the space of each known app; `Platform.steady` — the tables of
  a platform make one.
* `World.Reveals` — how a policy is judged alone.
* `Guard.visible_of_steady` — the listing.
-/

namespace NetworkPolicy

/-- No lookup fails, and `home` tells the space of each known app, of which there is only one.  The
lookup of some apps may return pairs of other apps too. -/
structure World.Steady (world : World) (token : String) (home : String → Option String) :
    Prop where
  serviceToken : world .serviceToken = Except.ok token
  appSpaces : ∀ apps, ∃ pairs : List (String × String),
    world (.appSpaces token apps) = Except.ok pairs ∧
    ∀ app ∈ apps, ∀ guid, (app, guid) ∈ pairs ↔ home app = some guid
  space : ∀ guid, ∃ found, world (.space token guid) = Except.ok found
  userSpace : ∀ user space, ∃ found, world (.userSpace token user space) = Except.ok found

/-- Both apps of the policy are known, and the space of each exists and has the user as a member. -/
def World.Reveals (world : World) (token : String) (home : String → Option String) (user : String)
    (p : Policy) : Prop :=
  ∀ app ∈ p.appIds, ∃ guid, home app = some guid ∧ world.Admits token user guid

section Steady

variable {world : World} {token user : String} {home : String → Option String}

lemma World.Steady.answers (h : world.Steady token home) (user guid : String) :
    world.Answers token user guid := by
  obtain ⟨found, hfound⟩ := h.space guid
  exact ⟨found, hfound, fun space _ => h.userSpace user space⟩

lemma World.reveals_iff {p : Policy} : world.Reveals token home user p
    ↔ (p.appIds.all fun app => (home app).any fun guid => world.Admits token user guid) = true := by
  rw [List.all_eq_true]
  refine forall₂_congr fun app _ => ?_
  cases home app with
  | none => simp
  | some guid => simp

instance (p : Policy) : Decidable (world.Reveals token home user p) :=
  decidable_of_iff _ World.reveals_iff.symm

namespace Guard

/-- Where an app has only one pair, that pair tells its space. -/
lemma spaceOf?_eq {pairs : List (String × String)} {app : String}
    (hpairs : ∀ guid, (app, guid) ∈ pairs ↔ home app = some guid) :
    spaceOf? pairs app = home app := by
  cases h : spaceOf? pairs app with
  | none =>
      symm
      rw [Option.eq_none_iff_forall_ne_some]
      exact fun guid hguid => spaceOf?_eq_none_iff.mp h guid ((hpairs guid).mpr hguid)
  | some guid => exact ((hpairs guid).mp (mem_of_spaceOf? h)).symm

/-- **A listing judges every policy as if it were alone.**  In a steady world it succeeds, and it
keeps, in their order and as often as they are there, the policies that the world reveals to the
caller; of an administrator nothing is kept back. -/
theorem visible_of_steady (hworld : world.Steady token home) (policies : List Policy)
    (caller : Claims) : (visible policies caller).evalIn world = .ok (policies.filter fun p =>
      caller.isAdmin = true ∨ world.Reveals token home caller.userId p) := by
  cases hcaller : caller.isAdmin with
  | true =>
      have hall : policies.filter (fun p =>
          true = true ∨ world.Reveals token home caller.userId p) = policies := by simp
      rw [hall, visible, hcaller]
      rfl
  | false =>
      obtain ⟨pairs, happs, hpairs⟩ := hworld.appSpaces (appsOf policies)
      rw [visible_of_answers hcaller hworld.serviceToken happs fun entry _ =>
        hworld.answers caller.userId entry.2]
      refine congrArg Except.ok (List.filter_congr fun p hp => ?_)
      have hhome : ∀ app ∈ p.appIds, spaceOf? pairs app = home app := fun app happ =>
        spaceOf?_eq (hpairs app ((mem_appsOf ..).mpr (List.mem_flatMap.mpr ⟨p, hp, happ⟩)))
      rw [Bool.eq_iff_iff, decide_eq_true_eq, or_iff_right Bool.false_ne_true, World.reveals_iff,
        List.all_eq_true, List.all_eq_true]
      refine forall₂_congr fun app happ => ?_
      rw [hhome app happ]

end Guard

end Steady

/-! ## Tables without failures -/

/-- Where no key occurs twice, what is found under a key is what is paired with it. -/
lemma lookup_eq_some_iff_mem {pairs : List (String × String)} (hpairs : (pairs.map Prod.fst).Nodup)
    {key value : String} : pairs.lookup key = some value ↔ (key, value) ∈ pairs := by
  refine ⟨Guard.mem_of_lookup_eq_some, fun hmem => ?_⟩
  obtain ⟨before, later, rfl⟩ := List.append_of_mem hmem
  refine List.lookup_eq_some_iff.mpr ⟨before, later, rfl, fun entry hentry => ?_⟩
  rw [List.map_append, List.nodup_append] at hpairs
  rw [bne_iff_ne]
  exact (hpairs.2.2 entry.1 (List.mem_map_of_mem hentry) key List.mem_cons_self).symm

/-- The tables of a platform make a steady world, unless there is a failure among them or an app has
two spaces. -/
lemma Platform.steady {p : Platform} {token : String} (htoken : p.serviceToken = .ok token)
    (hpairs : p.appSpaces = none) (happs : (p.apps.map Prod.fst).Nodup)
    (hspaces : ∀ entry ∈ p.spaces, ∃ found, entry.2 = Except.ok found)
    (hmembers : p.memberFaults = []) :
    World.Steady p.answer token fun app => List.lookup app p.apps where
  serviceToken := by
    show p.serviceToken.mapError LookupFault.other = _
    rw [htoken]
    rfl
  appSpaces := by
    intro apps
    refine ⟨p.entries apps, ?_, fun app happ guid => ?_⟩
    · show (p.appSpaces.getD (.ok (p.entries apps))).mapError LookupFault.other = _
      rw [hpairs]
      rfl
    · rw [mem_entries, lookup_eq_some_iff_mem happs]
      exact and_iff_right happ
  space := by
    intro guid
    show ∃ found, ((p.spaces.lookup guid).getD (.ok none)).mapError LookupFault.other = .ok found
    cases h : p.spaces.lookup guid with
    | none => exact ⟨none, rfl⟩
    | some answer =>
        obtain ⟨found, hfound⟩ := hspaces _ (Guard.mem_of_lookup_eq_some h)
        change answer = .ok found at hfound
        rw [hfound]
        exact ⟨found, rfl⟩
  userSpace := by
    intro user space
    refine ⟨if p.members.contains (user, space) then some space else none, ?_⟩
    rw [answer, hmembers]
    rfl

end NetworkPolicy
