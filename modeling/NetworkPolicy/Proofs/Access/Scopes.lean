import Mathlib.Tactic.Common
import NetworkPolicy.Proofs.Access.Questions

/-!
# What more scopes let a user do

Two worlds are compared that differ in what is said of the bearer of a token: in the second world
the same user may hold more scopes (`World.Extends`).

Scopes matter to the guard only in that they make an administrator, and an administrator is granted
everything without a lookup.  So either the guard goes through the same lookups in both worlds, or
nothing is refused in the second: what was granted is granted again (`check_of_extends`), and what
was listed is listed again, in the same order, perhaps among other policies (`visible_of_extends`).
-/

namespace NetworkPolicy

/-- `more` is about the same user as `claims` and holds at least the same scopes. -/
structure Claims.Extends (claims more : Claims) : Prop where
  userId : more.userId = claims.userId
  userName : more.userName = claims.userName
  scopes : claims.scopes ⊆ more.scopes

/-- `wider` answers as `world` does, except that the claims of a verified token may be extended. -/
structure World.Extends (world wider : World) : Prop where
  ofGuard : ∀ q, Guard.OfGuard q → wider q = world q
  claims : ∀ (token : String) (claims : Claims), world (.checkToken token) = Except.ok claims →
    ∃ more : Claims, wider (.checkToken token) = Except.ok more ∧ claims.Extends more

variable {world wider : World} {claims more : Claims}

namespace Claims

lemma Extends.hasScope (h : claims.Extends more) {scope : String}
    (hscope : claims.hasScope scope = true) : more.hasScope scope = true :=
  List.contains_iff_mem.mpr (h.scopes (List.contains_iff_mem.mp hscope))

lemma Extends.hasAnyScope (h : claims.Extends more) {allowed : List String}
    (hscope : claims.hasAnyScope allowed = true) : more.hasAnyScope allowed = true := by
  obtain ⟨scope, hallowed, hheld⟩ := List.any_eq_true.mp hscope
  exact List.any_eq_true.mpr ⟨scope, hallowed, h.hasScope hheld⟩

/-- Without more scopes making an administrator, both are administrators or neither is. -/
lemma Extends.isAdmin_eq (h : claims.Extends more) (hmore : more.isAdmin = false) :
    claims.isAdmin = more.isAdmin := by
  cases hadmin : claims.isAdmin with
  | true => exact (h.hasScope hadmin).symm
  | false => exact hmore.symm

end Claims

namespace Guard

/-- Of the caller the guard knows whether they are an administrator, and their user id. -/
lemma check_congr (hadmin : claims.isAdmin = more.isAdmin) (huser : claims.userId = more.userId)
    (batch : List Policy) : check batch claims = check batch more := by
  unfold check
  rw [hadmin, huser]

lemma visible_congr (hadmin : claims.isAdmin = more.isAdmin) (huser : claims.userId = more.userId)
    (policies : List Policy) : visible policies claims = visible policies more := by
  unfold visible
  rw [hadmin, huser]

lemma Action.Asks.evalIn_of_extends {α : Type} {action : Action α} (h : action.Asks OfGuard)
    (hworld : world.Extends wider) : action.evalIn wider = action.evalIn world :=
  Program.Asks.eval_congr h hworld.ofGuard

/-- With more scopes a batch is granted again. -/
lemma check_of_extends (hworld : world.Extends wider) (hclaims : claims.Extends more)
    {batch : List Policy} (h : (check batch claims).evalIn world = .ok true) :
    (check batch more).evalIn wider = .ok true := by
  cases hmore : more.isAdmin with
  | true => exact check_of_isAdmin wider batch hmore
  | false =>
      rw [(asks_check batch more).evalIn_of_extends hworld,
        ← check_congr (hclaims.isAdmin_eq hmore) hclaims.userId.symm batch]
      exact h

/-- A listing leaves policies out, and keeps the order of the others. -/
lemma sublist_of_visible {policies shown : List Policy}
    (h : (visible policies claims).evalIn world = .ok shown) : shown.Sublist policies := by
  cases hadmin : claims.isAdmin with
  | true =>
      rw [visible_of_isAdmin world policies hadmin] at h
      cases h
      exact .refl policies
  | false =>
      by_cases hempty : policies = []
      · rw [hempty, visible, hadmin] at h
        cases h
        exact List.nil_sublist policies
      · rw [visible_of_isAdmin_eq_false hadmin hempty, evalIn_look_bind_eq_ok_iff] at h
        obtain ⟨token, -, h⟩ := h
        rw [evalIn_look_bind_eq_ok_iff] at h
        obtain ⟨appSpaces, -, h⟩ := h
        rw [evalIn_bind, bind_eq_ok_iff] at h
        obtain ⟨spaces, -, ⟨⟩⟩ := h
        exact List.filter_sublist

/-- With more scopes whatever was listed is listed again, perhaps with other policies between. -/
lemma visible_of_extends (hworld : world.Extends wider) (hclaims : claims.Extends more)
    {policies fewer : List Policy} (h : (visible policies claims).evalIn world = .ok fewer) :
    ∃ shown, (visible policies more).evalIn wider = .ok shown ∧ fewer.Sublist shown := by
  cases hmore : more.isAdmin with
  | true => exact ⟨policies, visible_of_isAdmin wider policies hmore, sublist_of_visible h⟩
  | false =>
      refine ⟨fewer, ?_, .refl fewer⟩
      rw [(asks_visible policies more).evalIn_of_extends hworld,
        ← visible_congr (hclaims.isAdmin_eq hmore) hclaims.userId.symm policies]
      exact h

end Guard

end NetworkPolicy
