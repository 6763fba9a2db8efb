import Mathlib.Data.List.Forall2
import Mathlib.Tactic.Common
import NetworkPolicy.Access.Guard
import NetworkPolicy.Proofs.Except

/-!
# What the guard decides in a world

A world answers every lookup.  Run against one, a guarded action is a chain of computations that
may fail: `evalIn` carries `pure` and `>>=` of actions over to those of `Except` (`evalIn_bind`),
and a lookup over to its answer (`evalIn_look`).  The loops of the guard thereby become recursions
over lists of guids.

* `World.Admits` — the space of a guid exists and the user is a member of it; `World.Answers` — the
  lookups about it do not fail.
* `check_eq_true_iff` — a batch is granted to a caller who is no administrator exactly when the
  service token and the lookup of the apps are answered and every space that came back admits the
  caller.
* `visible_of_answers` — when no lookup fails, a policy is listed exactly when the spaces that came
  back for its apps admit the caller.
-/

namespace NetworkPolicy

/-- How the collaborators answer every lookup while one request is served. -/
abbrev World := (q : Lookup) → q.Answer

/-- The space of the guid exists, and the user is a member of it. -/
def World.Admits (world : World) (token user guid : String) : Prop :=
  ∃ space, world (.space token guid) = Except.ok (some space) ∧
    ∃ found, world (.userSpace token user space) = Except.ok (some found)

/-- Neither the lookup of the space fails nor, if it exists, that of the user's membership in it. -/
def World.Answers (world : World) (token user guid : String) : Prop :=
  ∃ found, world (.space token guid) = Except.ok found ∧ ∀ space, found = some space →
    ∃ member, world (.userSpace token user space) = Except.ok member

lemma World.Admits.answers {world : World} {token user guid : String}
    (h : world.Admits token user guid) : world.Answers token user guid := by
  obtain ⟨space, hspace, found, hfound⟩ := h
  refine ⟨some space, hspace, fun space' hsame => ?_⟩
  cases hsame
  exact ⟨some found, hfound⟩

/-- `World.Admits` as a computation. -/
def World.admits (world : World) (token user guid : String) : Bool :=
  match (world (.space token guid) : Except LookupFault (Option Space)) with
  | .ok (some space) =>
    match (world (.userSpace token user space) : Except LookupFault (Option Space)) with
    | .ok (some _) => true
    | _ => false
  | _ => false

lemma World.admits_eq_true_iff {world : World} {token user guid : String} :
    world.admits token user guid = true ↔ world.Admits token user guid := by
  unfold admits Admits
  split
  case h_1 space hspace =>
    split
    case h_1 found hfound => exact iff_of_true rfl ⟨space, hspace, found, hfound⟩
    case h_2 hnone =>
      refine iff_of_false nofun ?_
      rintro ⟨space', hspace', found, hfound⟩
      cases hspace.symm.trans hspace'
      exact hnone found hfound
  case h_2 hnone =>
    refine iff_of_false nofun ?_
    rintro ⟨space, hspace, -⟩
    exact hnone space hspace

instance (world : World) (token user guid : String) : Decidable (world.Admits token user guid) :=
  decidable_of_iff _ World.admits_eq_true_iff

lemma Program.eval_bind {Op α β : Type} {Answer : Op → Type} (answer : (op : Op) → Answer op)
    (p : Program Answer α) (f : α → Program Answer β) :
    (p.bind f).eval answer = (f (p.eval answer)).eval answer := by
  rw [eval, runM_bind]
  rfl

namespace Guard

variable {α β : Type}

/-- What an action comes to in a world. -/
def Action.evalIn (world : World) (action : Action α) : Except AccessError α :=
  action.run.eval world

/-! ## Actions as chains -/

@[simp] lemma evalIn_pure (world : World) (a : α) : Action.evalIn world (pure a) = .ok a := rfl

@[simp] lemma evalIn_look (world : World) (q : Lookup) (wrap : LookupFault → AccessError) :
    (look q wrap).evalIn world = (world q).mapError wrap := rfl

@[simp] lemma evalIn_bind (world : World) (x : Action α) (f : α → Action β) :
    Action.evalIn world (x >>= f) = Action.evalIn world x >>= fun a => (f a).evalIn world := by
  have hrun : Action.evalIn world (x >>= f)
      = (ExceptT.bindCont f (x.evalIn world)).eval world :=
    Program.eval_bind world x.run (ExceptT.bindCont f)
  rw [hrun]
  cases x.evalIn world with
  | ok a => rfl
  | error e => rfl

/-- An action that begins with a lookup ends well exactly when the lookup is answered and what
follows ends well. -/
lemma evalIn_look_bind_eq_ok_iff {world : World} {q : Lookup} {wrap : LookupFault → AccessError}
    {f : q.Value → Action β} {b : β} :
    Action.evalIn world (look q wrap >>= f) = .ok b
      ↔ ∃ v, world q = Except.ok v ∧ (f v).evalIn world = .ok b := by
  rw [evalIn_bind, evalIn_look, bind_eq_ok_iff]
  exact exists_congr fun v => and_congr_left' (mapError_eq_ok_iff (x := world q))

/-! ## The loops -/

/-- The spaces are fetched exactly when every guid has one, and they come back in the order of the
guids. -/
lemma fetchSpaces_eq_some_iff (world : World) (token : String) :
    ∀ (guids : List String) (spaces : List (String × Space)),
      (fetchSpaces token guids).evalIn world = .ok (some spaces)
        ↔ List.Forall₂ (fun guid entry => entry.1 = guid ∧
            world (.space token guid) = Except.ok (some entry.2)) guids spaces
  | [], spaces => by
      rw [fetchSpaces, evalIn_pure]
      simp [List.forall₂_nil_left_iff, eq_comm]
  | guid :: guids, spaces => by
      rw [fetchSpaces, evalIn_look_bind_eq_ok_iff, List.forall₂_cons_left_iff]
      constructor
      · rintro ⟨found, hfound, hrest⟩
        cases found with
        | none => cases hrest
        | some space =>
            obtain ⟨fetched, hfetched, hspaces⟩ :=
              bind_eq_ok_iff.mp ((evalIn_bind ..).symm.trans hrest)
            cases fetched with
            | none => cases hspaces
            | some rest =>
                cases hspaces
                exact ⟨(guid, space), rest, ⟨rfl, hfound⟩,
                  (fetchSpaces_eq_some_iff world token guids rest).mp hfetched, rfl⟩
      · rintro ⟨entry, rest, ⟨rfl, hfound⟩, hrest, rfl⟩
        refine ⟨some entry.2, hfound, ?_⟩
        have hfetched := (fetchSpaces_eq_some_iff world token guids rest).mpr hrest
        simp only [evalIn_bind, hfetched]
        rfl

lemma isMemberOfAll_eq_true_iff (world : World) (token user : String) :
    ∀ spaces : List (String × Space),
      (isMemberOfAll token user spaces).evalIn world = .ok true
        ↔ ∀ entry ∈ spaces, ∃ found, world (.userSpace token user entry.2) = Except.ok (some found)
  | [] => by
      rw [isMemberOfAll, evalIn_pure]
      simp
  | (guid, space) :: spaces => by
      rw [isMemberOfAll, evalIn_look_bind_eq_ok_iff, List.forall_mem_cons,
        ← isMemberOfAll_eq_true_iff world token user spaces]
      constructor
      · rintro ⟨found, hfound, hrest⟩
        cases found with
        | none => cases hrest
        | some found => exact ⟨⟨found, hfound⟩, hrest⟩
      · rintro ⟨⟨found, hfound⟩, hrest⟩
        exact ⟨some found, hfound, hrest⟩

/-- When no lookup fails, the spaces are kept that admit the user, in their order. -/
lemma memberSpaces_of_answers {world : World} {token user : String} :
    ∀ guids : List String, (∀ guid ∈ guids, world.Answers token user guid) →
      (memberSpaces token user guids).evalIn world
        = .ok (guids.filter fun guid => world.Admits token user guid)
  | [], _ => rfl
  | guid :: guids, h => by
      obtain ⟨⟨found, hspace, hmember⟩, hrest⟩ := List.forall_mem_cons.mp h
      have ih := memberSpaces_of_answers guids hrest
      rw [memberSpaces, evalIn_look_bind_eq_ok_iff]
      refine ⟨found, hspace, ?_⟩
      cases found with
      | none =>
          have hout : ¬ world.Admits token user guid := by
            rintro ⟨space, hspace', -⟩
            cases hspace.symm.trans hspace'
          rw [List.filter_cons_of_neg (by simpa using hout)]
          exact ih
      | some space =>
          obtain ⟨member, hfound⟩ := hmember space rfl
          show Action.evalIn world (look (.userSpace token user space) (.space guid) >>= _) = _
          rw [evalIn_look_bind_eq_ok_iff]
          refine ⟨member, hfound, ?_⟩
          cases member with
          | none =>
              have hout : ¬ world.Admits token user guid := by
                rintro ⟨space', hspace', found, hfound'⟩
                cases hspace.symm.trans hspace'
                cases hfound.symm.trans hfound'
              rw [List.filter_cons_of_neg (by simpa using hout)]
              exact ih
          | some found =>
              have hin : world.Admits token user guid := ⟨space, hspace, found, hfound⟩
              show Action.evalIn world (memberSpaces token user guids >>= _) = _
              rw [List.filter_cons_of_pos (by simpa using hin), evalIn_bind, ih]
              rfl

/-! ## The decisions -/

/-- The guard grants everything to an administrator. -/
lemma check_of_isAdmin (world : World) (batch : List Policy) {caller : Claims}
    (hcaller : caller.isAdmin = true) : (check batch caller).evalIn world = .ok true := by
  rw [check, hcaller]
  rfl

/-- For any other caller it looks up its token, the guids and the spaces, and then the
memberships. -/
lemma check_of_isAdmin_eq_false {caller : Claims} (hcaller : caller.isAdmin = false)
    (batch : List Policy) : check batch caller = (look .serviceToken .serviceToken >>= fun token =>
      look (.spaceGuids token (appsOf batch)) .spaceGuids >>= fun guids =>
        fetchSpaces token (List.eraseDups guids) >>= fun found =>
          found.elim (return false) (isMemberOfAll token caller.userId)) := by
  rw [check, hcaller]
  refine bind_congr fun token => bind_congr fun guids => bind_congr fun found => ?_
  cases found with
  | none => rfl
  | some spaces => rfl

/-- A list has a list of partners that all have a property exactly when each of its members has
such a partner. -/
lemma exists_forall₂_iff {R : α → β → Prop} {P : β → Prop} : ∀ {l : List α},
    (∃ l', List.Forall₂ R l l' ∧ ∀ b ∈ l', P b) ↔ ∀ a ∈ l, ∃ b, R a b ∧ P b
  | [] => by simp [List.forall₂_nil_left_iff]
  | a :: l => by
      rw [List.forall_mem_cons, ← exists_forall₂_iff]
      constructor
      · rintro ⟨_, hR, hP⟩
        cases hR with
        | cons hab hrest =>
            obtain ⟨hb, hl⟩ := List.forall_mem_cons.mp hP
            exact ⟨⟨_, hab, hb⟩, _, hrest, hl⟩
      · rintro ⟨⟨b, hab, hb⟩, l', hrest, hl⟩
        exact ⟨b :: l', .cons hab hrest, List.forall_mem_cons.mpr ⟨hb, hl⟩⟩

/-- Without the rights of an administrator, a batch is granted exactly when the server gets its
token, the apps of the batch are looked up, and every space that came back admits the caller. -/
theorem check_eq_true_iff {world : World} {caller : Claims} (hcaller : caller.isAdmin = false)
    (batch : List Policy) :
    (check batch caller).evalIn world = .ok true
      ↔ ∃ (token : String) (guids : List String), world .serviceToken = Except.ok token ∧
          world (.spaceGuids token (appsOf batch)) = Except.ok guids ∧
          ∀ guid ∈ guids, world.Admits token caller.userId guid := by
  rw [check_of_isAdmin_eq_false hcaller, evalIn_look_bind_eq_ok_iff]
  refine exists_congr fun (token : String) => ?_
  rw [evalIn_look_bind_eq_ok_iff, ← exists_and_left]
  refine exists_congr fun (guids : List String) => and_congr_right' (and_congr_right' ?_)
  have hadmits : (∀ guid ∈ guids, world.Admits token caller.userId guid)
      ↔ ∀ guid ∈ guids.eraseDups, ∃ entry : String × Space,
          (entry.1 = guid ∧ world (.space token guid) = Except.ok (some entry.2)) ∧
          ∃ found, world (.userSpace token caller.userId entry.2) = Except.ok (some found) := by
    refine forall_congr' fun guid => imp_congr List.mem_eraseDups.symm ?_
    constructor
    · rintro ⟨space, hspace, hfound⟩
      exact ⟨(guid, space), ⟨rfl, hspace⟩, hfound⟩
    · rintro ⟨entry, ⟨-, hspace⟩, hfound⟩
      exact ⟨entry.2, hspace, hfound⟩
  rw [hadmits, ← exists_forall₂_iff, evalIn_bind, bind_eq_ok_iff]
  constructor
  · rintro ⟨fetched, hfetched, hmember⟩
    cases fetched with
    | none => cases hmember
    | some spaces =>
        exact ⟨spaces, (fetchSpaces_eq_some_iff ..).mp hfetched,
          (isMemberOfAll_eq_true_iff ..).mp hmember⟩
  · rintro ⟨spaces, hfetched, hmember⟩
    exact ⟨some spaces, (fetchSpaces_eq_some_iff ..).mpr hfetched,
      (isMemberOfAll_eq_true_iff ..).mpr hmember⟩

/-! ## The spaces of apps -/

lemma mem_of_lookup_eq_some {pairs : List (String × α)} {key : String} {value : α}
    (h : pairs.lookup key = some value) : (key, value) ∈ pairs := by
  obtain ⟨before, later, rfl, -⟩ := List.lookup_eq_some_iff.mp h
  exact List.mem_append_right _ List.mem_cons_self

lemma mem_of_spaceOf? {appSpaces : List (String × String)} {app guid : String}
    (h : spaceOf? appSpaces app = some guid) : (app, guid) ∈ appSpaces :=
  List.mem_reverse.mp (mem_of_lookup_eq_some h)

lemma spaceOf?_eq_none_iff {appSpaces : List (String × String)} {app : String} :
    spaceOf? appSpaces app = none ↔ ∀ guid, (app, guid) ∉ appSpaces := by
  rw [spaceOf?, List.lookup_eq_none_iff]
  constructor
  · intro h guid hmem
    simpa using h _ (List.mem_reverse.mpr hmem)
  · rintro h ⟨app', guid⟩ hmem
    rw [bne_iff_ne]
    rintro rfl
    exact h guid (List.mem_reverse.mp hmem)

/-! ## The listing -/

/-- Nothing is kept back from an administrator. -/
lemma visible_of_isAdmin (world : World) (policies : List Policy) {caller : Claims}
    (hcaller : caller.isAdmin = true) : (visible policies caller).evalIn world = .ok policies := by
  rw [visible, hcaller]
  rfl

/-- For any other caller the guard looks up its token, the spaces of the apps, and the memberships
in them. -/
lemma visible_of_isAdmin_eq_false {caller : Claims} (hcaller : caller.isAdmin = false)
    {policies : List Policy} (hpolicies : policies ≠ []) :
    visible policies caller = (look .serviceToken .serviceToken >>= fun token =>
      look (.appSpaces token (appsOf policies)) .spaceGuids >>= fun appSpaces =>
        memberSpaces token caller.userId (List.eraseDups (List.map Prod.snd appSpaces)) >>=
          fun spaces => return policies.filter (isWithin appSpaces spaces)) := by
  rw [visible, hcaller, List.isEmpty_eq_false_iff.mpr hpolicies]
  rfl

/-- When no lookup fails, a listing keeps the policies of whose apps each has a space that admits
the caller. -/
theorem visible_of_answers {world : World} {caller : Claims} (hcaller : caller.isAdmin = false)
    {policies : List Policy} {token : String} {appSpaces : List (String × String)}
    (htoken : world .serviceToken = Except.ok token)
    (happs : world (.appSpaces token (appsOf policies)) = Except.ok appSpaces)
    (hanswers : ∀ entry ∈ appSpaces, world.Answers token caller.userId entry.2) :
    (visible policies caller).evalIn world = .ok (policies.filter fun p =>
      p.appIds.all fun app => (spaceOf? appSpaces app).any fun guid =>
        world.Admits token caller.userId guid) := by
  by_cases hempty : policies = []
  · rw [hempty, visible, hcaller]
    rfl
  have hall : ∀ guid ∈ (appSpaces.map Prod.snd).eraseDups,
      world.Answers token caller.userId guid := by
    intro guid hguid
    obtain ⟨entry, hentry, rfl⟩ := List.mem_map.mp (List.mem_eraseDups.mp hguid)
    exact hanswers entry hentry
  rw [visible_of_isAdmin_eq_false hcaller hempty, evalIn_look_bind_eq_ok_iff]
  refine ⟨token, htoken, ?_⟩
  rw [evalIn_look_bind_eq_ok_iff]
  refine ⟨appSpaces, happs, ?_⟩
  rw [evalIn_bind, memberSpaces_of_answers _ hall]
  refine congrArg Except.ok (List.filter_congr fun p _ => ?_)
  -- The space of an app is one of those whose membership was asked for.
  refine congrArg (List.all p.appIds) (funext fun app => ?_)
  cases h : spaceOf? appSpaces app with
  | none => rfl
  | some guid =>
      have hguid : guid ∈ (appSpaces.map Prod.snd).eraseDups :=
        List.mem_eraseDups.mpr (List.mem_map_of_mem (mem_of_spaceOf? h))
      rw [Option.any_some, Option.any_some, List.contains_eq_mem, decide_eq_decide, List.mem_filter,
        decide_eq_true_eq]
      exact and_iff_right hguid

/-- When every space of the looked-up apps admits the caller, a listing keeps the policies whose
apps have all been found. -/
theorem visible_of_admits {world : World} {caller : Claims} (hcaller : caller.isAdmin = false)
    {policies : List Policy} {token : String} {appSpaces : List (String × String)}
    (htoken : world .serviceToken = Except.ok token)
    (happs : world (.appSpaces token (appsOf policies)) = Except.ok appSpaces)
    (hadmits : ∀ entry ∈ appSpaces, world.Admits token caller.userId entry.2) :
    (visible policies caller).evalIn world
      = .ok (policies.filter fun p => p.appIds.all (· ∈ appSpaces.map Prod.fst)) := by
  rw [visible_of_answers hcaller htoken happs fun entry hentry => (hadmits entry hentry).answers]
  refine congrArg Except.ok (List.filter_congr fun p _ => ?_)
  refine congrArg (List.all p.appIds) (funext fun app => ?_)
  cases h : spaceOf? appSpaces app with
  | none =>
      rw [Option.any_none, eq_comm, decide_eq_false_iff_not]
      rintro hmem
      obtain ⟨entry, hentry, rfl⟩ := List.mem_map.mp hmem
      exact spaceOf?_eq_none_iff.mp h entry.2 hentry
  | some guid =>
      have hentry := mem_of_spaceOf? h
      rw [Option.any_some, decide_eq_decide]
      exact iff_of_true (hadmits _ hentry) (List.mem_map_of_mem hentry)

end Guard
end NetworkPolicy
