import Mathlib.Tactic.Common
import NetworkPolicy.Proofs.Access.UnknownApps

/-!
# Which lookup decides

The lookups about a batch may fail, find nothing, or help, in any mixture.  One of them decides:
the first that does not help.  The order is that of the guard, which asks for *all* spaces before
it asks for the first membership.  A space that is missing or cannot be fetched therefore decides
even if the caller is no member of a space that comes before it.

* `FirstNot` — the first of a list without a property.
* `Guard.Verdict` — the decision for every mixture, one rule for each kind of lookup that can
  decide; `Verdict.sound` and `exists_verdict` say that the guard follows the rules and that there
  is one for every world.
* `Guard.check_eq_iff_verdict` — both together.
-/

namespace NetworkPolicy

/-! ## The first without a property -/

/-- `a` is the first of the list that does not have the property. -/
def FirstNot {α : Type} (P : α → Prop) (l : List α) (a : α) : Prop :=
  ∃ before later, l = before ++ a :: later ∧ (∀ b ∈ before, P b) ∧ ¬ P a

lemma forall_or_exists_firstNot {α : Type} (P : α → Prop) (l : List α) :
    (∀ a ∈ l, P a) ∨ ∃ a, FirstNot P l a := by
  classical
  cases h : l.find? fun a => ¬ P a with
  | none =>
      refine .inl fun a ha => ?_
      simpa using List.find?_eq_none.mp h a ha
  | some a =>
      obtain ⟨ha, before, later, hl, hbefore⟩ := List.find?_eq_some_iff_append.mp h
      refine .inr ⟨a, before, later, hl, fun b hb => ?_, by simpa using ha⟩
      simpa using hbefore b hb

/-- The space of the guid exists. -/
def World.Finds (world : World) (token guid : String) : Prop :=
  ∃ space, world (.space token guid) = Except.ok (some space)

namespace Guard

variable {world : World} {batch : List Policy} {caller : Claims} {token user guid : String}
  {guids : List String}

/-! ## The rules -/

/-- The caller is no administrator, the server has got its token, and `guids` are the distinct guids
that the lookup of the batch's apps has returned, in the order in which they first came. -/
structure Located (world : World) (batch : List Policy) (caller : Claims) (token : String)
    (guids : List String) : Prop where
  isAdmin : caller.isAdmin = false
  serviceToken : world .serviceToken = Except.ok token
  spaceGuids : ∃ found : List String,
    world (.spaceGuids token (appsOf batch)) = Except.ok found ∧ found.eraseDups = guids

/-- How a batch is decided, by the first lookup that does not help. -/
inductive Verdict (world : World) (batch : List Policy) (caller : Claims) :
    Except AccessError Bool → Prop where
  | admin (hcaller : caller.isAdmin = true) : Verdict world batch caller (.ok true)
  | serviceToken {cause : LookupFault} (hcaller : caller.isAdmin = false)
      (htoken : world .serviceToken = Except.error cause) :
      Verdict world batch caller (.error (.serviceToken cause))
  | spaceGuids {token : String} {cause : LookupFault} (hcaller : caller.isAdmin = false)
      (htoken : world .serviceToken = Except.ok token)
      (hguids : world (.spaceGuids token (appsOf batch)) = Except.error cause) :
      Verdict world batch caller (.error (.spaceGuids cause))
  /-- The first space that is not found does not exist. -/
  | missing {token guid : String} {guids : List String}
      (hlocated : Located world batch caller token guids)
      (hfirst : FirstNot (world.Finds token) guids guid)
      (hspace : world (.space token guid) = Except.ok none) :
      Verdict world batch caller (.ok false)
  /-- The first space that is not found cannot be fetched. -/
  | unfetched {token guid : String} {guids : List String} {cause : LookupFault}
      (hlocated : Located world batch caller token guids)
      (hfirst : FirstNot (world.Finds token) guids guid)
      (hspace : world (.space token guid) = Except.error cause) :
      Verdict world batch caller (.error (.space guid cause))
  /-- All spaces are found, and the first that does not admit the caller has no such member. -/
  | stranger {token guid : String} {guids : List String} {space : Space}
      (hlocated : Located world batch caller token guids)
      (hfound : ∀ guid ∈ guids, world.Finds token guid)
      (hfirst : FirstNot (world.Admits token caller.userId) guids guid)
      (hspace : world (.space token guid) = Except.ok (some space))
      (hmember : world (.userSpace token caller.userId space) = Except.ok none) :
      Verdict world batch caller (.ok false)
  /-- All spaces are found, and the first that does not admit the caller cannot tell its members. -/
  | untold {token guid : String} {guids : List String} {space : Space} {cause : LookupFault}
      (hlocated : Located world batch caller token guids)
      (hfound : ∀ guid ∈ guids, world.Finds token guid)
      (hfirst : FirstNot (world.Admits token caller.userId) guids guid)
      (hspace : world (.space token guid) = Except.ok (some space))
      (hmember : world (.userSpace token caller.userId space) = Except.error cause) :
      Verdict world batch caller (.error (.space guid cause))
  | granted {token : String} {guids : List String}
      (hlocated : Located world batch caller token guids)
      (hadmits : ∀ guid ∈ guids, world.Admits token caller.userId guid) :
      Verdict world batch caller (.ok true)

/-! ## The loops -/

/-- One round of fetching spaces. -/
lemma evalIn_fetchSpaces_cons (world : World) (token guid : String) (guids : List String) :
    (fetchSpaces token (guid :: guids)).evalIn world
      = match (world (.space token guid) : Except LookupFault (Option Space)) with
        | .error cause => .error (.space guid cause)
        | .ok none => .ok none
        | .ok (some space) =>
          ((fetchSpaces token guids).evalIn world).map (Option.map ((guid, space) :: ·)) := by
  rw [fetchSpaces, evalIn_bind, evalIn_look]
  rcases (world (.space token guid) : Except LookupFault (Option Space)) with cause | _ | space
  · rfl
  · rfl
  · refine (evalIn_bind ..).trans ?_
    rcases (fetchSpaces token guids).evalIn world with e | _ | spaces
    · rfl
    · rfl
    · rfl

/-- One round of asking for memberships. -/
lemma evalIn_isMemberOfAll_cons (world : World) (token user guid : String) (space : Space)
    (spaces : List (String × Space)) :
    (isMemberOfAll token user ((guid, space) :: spaces)).evalIn world
      = match (world (.userSpace token user space) : Except LookupFault (Option Space)) with
        | .error cause => .error (.space guid cause)
        | .ok none => .ok false
        | .ok (some _) => (isMemberOfAll token user spaces).evalIn world := by
  rw [isMemberOfAll, evalIn_bind, evalIn_look]
  rcases (world (.userSpace token user space) : Except LookupFault (Option Space))
    with cause | _ | found
  · rfl
  · rfl
  · rfl

/-- The first space that is not found ends the fetching, as if it were the only one. -/
lemma fetchSpaces_of_firstNot (hfirst : FirstNot (world.Finds token) guids guid) :
    (fetchSpaces token guids).evalIn world = (fetchSpaces token [guid]).evalIn world := by
  obtain ⟨before, later, rfl, hbefore, hnot⟩ := hfirst
  have hstop : (fetchSpaces token (guid :: later)).evalIn world
        = (fetchSpaces token [guid]).evalIn world ∧
      ∀ spaces, (fetchSpaces token [guid]).evalIn world ≠ .ok (some spaces) := by
    rw [evalIn_fetchSpaces_cons, evalIn_fetchSpaces_cons]
    rcases h : (world (.space token guid) : Except LookupFault (Option Space)) with cause | _ | sp
    · exact ⟨rfl, nofun⟩
    · exact ⟨rfl, nofun⟩
    · exact absurd ⟨sp, h⟩ hnot
  rw [← hstop.1]
  clear hnot
  induction before with
  | nil => rfl
  | cons found before ih =>
      obtain ⟨⟨space, hspace⟩, hothers⟩ := List.forall_mem_cons.mp hbefore
      rw [List.cons_append, evalIn_fetchSpaces_cons, hspace, ih hothers, hstop.1]
      -- what has been fetched before is dropped, as nothing is put behind it
      rcases h : (fetchSpaces token [guid]).evalIn world with e | _ | spaces
      · rfl
      · rfl
      · exact absurd h (hstop.2 spaces)

/-- Spaces that have the user as a member do not matter if others follow. -/
lemma isMemberOfAll_append {before : List (String × Space)} (later : List (String × Space))
    (hbefore : ∀ entry ∈ before,
      ∃ found, world (.userSpace token user entry.2) = Except.ok (some found)) :
    (isMemberOfAll token user (before ++ later)).evalIn world
      = (isMemberOfAll token user later).evalIn world := by
  induction before with
  | nil => rfl
  | cons entry before ih =>
      obtain ⟨⟨found, hfound⟩, hothers⟩ := List.forall_mem_cons.mp hbefore
      rw [List.cons_append, evalIn_isMemberOfAll_cons, hfound]
      exact ih hothers

/-- The first space without the user as a member ends the asking, as if it were the only one. -/
lemma isMemberOfAll_of_not {before : List (String × Space)} {space : Space}
    (later : List (String × Space))
    (hbefore : ∀ entry ∈ before,
      ∃ found, world (.userSpace token user entry.2) = Except.ok (some found))
    (hnot : ¬ ∃ found, world (.userSpace token user space) = Except.ok (some found)) :
    (isMemberOfAll token user (before ++ (guid, space) :: later)).evalIn world
      = (isMemberOfAll token user [(guid, space)]).evalIn world := by
  rw [isMemberOfAll_append _ hbefore, evalIn_isMemberOfAll_cons, evalIn_isMemberOfAll_cons]
  rcases h : (world (.userSpace token user space) : Except LookupFault (Option Space))
    with cause | _ | found
  · rfl
  · rfl
  · exact absurd ⟨found, h⟩ hnot

/-! ## The guard -/

/-- What is left to decide when the guids are known. -/
lemma evalIn_check_of_located (h : Located world batch caller token guids) :
    (check batch caller).evalIn world
      = (fetchSpaces token guids).evalIn world >>= fun found =>
          (found.elim (return false) (isMemberOfAll token caller.userId)).evalIn world := by
  obtain ⟨found, hfound, rfl⟩ := h.spaceGuids
  rw [check_of_isAdmin_eq_false h.isAdmin, evalIn_bind, evalIn_look, h.serviceToken]
  refine (evalIn_bind ..).trans ?_
  rw [evalIn_look, hfound]
  exact evalIn_bind ..

/-- When all spaces are found, the first that does not admit the caller decides. -/
lemma evalIn_check_of_firstNot_admits {space : Space}
    (hlocated : Located world batch caller token guids)
    (hfound : ∀ guid ∈ guids, world.Finds token guid)
    (hfirst : FirstNot (world.Admits token caller.userId) guids guid)
    (hspace : world (.space token guid) = Except.ok (some space)) :
    (check batch caller).evalIn world
      = (isMemberOfAll token caller.userId [(guid, space)]).evalIn world := by
  obtain ⟨before, later, rfl, hbefore, hnot⟩ := hfirst
  -- the spaces before the deciding one come with memberships, those behind it without
  obtain ⟨earlier, hearlier, hmembers⟩ := (exists_forall₂_iff
    (R := fun guid entry => entry.1 = guid ∧ world (.space token guid) = Except.ok (some entry.2))
    (P := fun entry : String × Space =>
      ∃ found, world (.userSpace token caller.userId entry.2) = Except.ok (some found))).mpr
    fun guid hguid => by
      obtain ⟨space, hspace, hmember⟩ := hbefore guid hguid
      exact ⟨(guid, space), ⟨rfl, hspace⟩, hmember⟩
  obtain ⟨others, hothers, -⟩ := (exists_forall₂_iff
    (R := fun guid entry => entry.1 = guid ∧ world (.space token guid) = Except.ok (some entry.2))
    (P := fun _ : String × Space => True)).mpr fun guid (hguid : guid ∈ later) => by
      obtain ⟨space, hspace⟩ :=
        hfound guid (List.mem_append_right _ (List.mem_cons_of_mem _ hguid))
      exact ⟨(guid, space), ⟨rfl, hspace⟩, trivial⟩
  have hspaces := (fetchSpaces_eq_some_iff world token (before ++ guid :: later)
    (earlier ++ (guid, space) :: others)).mpr
    (List.rel_append hearlier (.cons ⟨rfl, hspace⟩ hothers))
  rw [evalIn_check_of_located hlocated, hspaces]
  exact isMemberOfAll_of_not others hmembers fun hmember => hnot ⟨space, hspace, hmember⟩

lemma Verdict.sound {result : Except AccessError Bool} (h : Verdict world batch caller result) :
    (check batch caller).evalIn world = result := by
  cases h with
  | admin hcaller => exact check_of_isAdmin world batch hcaller
  | serviceToken hcaller htoken =>
      rw [check_of_isAdmin_eq_false hcaller, evalIn_bind, evalIn_look, htoken]
      rfl
  | spaceGuids hcaller htoken hguids =>
      rw [check_of_isAdmin_eq_false hcaller, evalIn_bind, evalIn_look, htoken]
      refine (evalIn_bind ..).trans ?_
      rw [evalIn_look, hguids]
      rfl
  | missing hlocated hfirst hspace =>
      rw [evalIn_check_of_located hlocated, fetchSpaces_of_firstNot hfirst,
        evalIn_fetchSpaces_cons, hspace]
      rfl
  | unfetched hlocated hfirst hspace =>
      rw [evalIn_check_of_located hlocated, fetchSpaces_of_firstNot hfirst,
        evalIn_fetchSpaces_cons, hspace]
      rfl
  | stranger hlocated hfound hfirst hspace hmember =>
      rw [evalIn_check_of_firstNot_admits hlocated hfound hfirst hspace,
        evalIn_isMemberOfAll_cons, hmember]
  | untold hlocated hfound hfirst hspace hmember =>
      rw [evalIn_check_of_firstNot_admits hlocated hfound hfirst hspace,
        evalIn_isMemberOfAll_cons, hmember]
  | granted hlocated hadmits =>
      obtain ⟨found, hfound, rfl⟩ := hlocated.spaceGuids
      exact (check_eq_true_iff hlocated.isAdmin batch).mpr ⟨_, _, hlocated.serviceToken, hfound,
        fun guid hguid => hadmits guid (List.mem_eraseDups.mpr hguid)⟩

/-- Of every batch something is decided, in every world. -/
lemma exists_verdict (world : World) (batch : List Policy) (caller : Claims) :
    ∃ result, Verdict world batch caller result := by
  cases hcaller : caller.isAdmin with
  | true => exact ⟨_, .admin hcaller⟩
  | false =>
      rcases htoken : (world .serviceToken : Except LookupFault String) with cause | token
      · exact ⟨_, .serviceToken hcaller htoken⟩
      rcases hguids : (world (.spaceGuids token (appsOf batch)) : Except LookupFault (List String))
        with cause | found
      · exact ⟨_, .spaceGuids hcaller htoken hguids⟩
      have hlocated : Located world batch caller token found.eraseDups :=
        ⟨hcaller, htoken, found, hguids, rfl⟩
      rcases forall_or_exists_firstNot (world.Finds token) found.eraseDups with
        hfound | ⟨guid, hfirst⟩
      swap
      · obtain ⟨-, -, -, -, hnot⟩ := id hfirst
        rcases hspace : (world (.space token guid) : Except LookupFault (Option Space))
          with cause | _ | space
        · exact ⟨_, .unfetched hlocated hfirst hspace⟩
        · exact ⟨_, .missing hlocated hfirst hspace⟩
        · exact absurd ⟨space, hspace⟩ hnot
      rcases forall_or_exists_firstNot (world.Admits token caller.userId) found.eraseDups with
        hadmits | ⟨guid, hfirst⟩
      · exact ⟨_, .granted hlocated hadmits⟩
      · obtain ⟨before, later, hsplit, -, hnot⟩ := id hfirst
        obtain ⟨space, hspace⟩ := hfound guid (hsplit ▸ List.mem_append_right _ List.mem_cons_self)
        rcases hmember : (world (.userSpace token caller.userId space) :
          Except LookupFault (Option Space)) with cause | _ | member
        · exact ⟨_, .untold hlocated hfound hfirst hspace hmember⟩
        · exact ⟨_, .stranger hlocated hfound hfirst hspace hmember⟩
        · exact absurd ⟨space, hspace, member, hmember⟩ hnot

/-- **The first lookup that does not help decides.**  For every caller, every batch and every world
the guard comes to the one verdict that the rules give. -/
theorem check_eq_iff_verdict (world : World) (batch : List Policy) (caller : Claims)
    (result : Except AccessError Bool) :
    (check batch caller).evalIn world = result ↔ Verdict world batch caller result := by
  refine ⟨?_, Verdict.sound⟩
  rintro rfl
  obtain ⟨result, hverdict⟩ := exists_verdict world batch caller
  rwa [hverdict.sound]

/-- The members of the first space cannot be told, but the second space does not exist. -/
example : (check [straySource] developer).evalIn (Platform.answer { sparsePlatform with
    apps := [("lost", "space-1"), ("web", "gone")]
    memberFaults := [("one", "unavailable")] }) = .ok false := by decide

end Guard

end NetworkPolicy
