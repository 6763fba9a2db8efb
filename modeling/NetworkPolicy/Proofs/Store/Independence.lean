import Mathlib.Tactic.Common
import NetworkPolicy.Proofs.Store.Meaning
import NetworkPolicy.Proofs.Store.Repetition
import NetworkPolicy.Proofs.Store.TagLookup

/-!
# Writes that do not depend on each other

A creation and a deletion that have no policy in common commute (`writes_commute`).  They may name
the same apps: a deletion takes no tag away, so the creation finds the same room and gives the same
tags before it as after it.  And the order of what is listed does not show which came first, because
a deletion keeps the order of what it leaves and a creation appends behind it.

A creation of policies that are not there yet is undone by their deletion, up to their tags.
-/

namespace NetworkPolicy.Store

variable {s : Store} {a b : List Policy}

/-- A deletion leaves the tags, and with them the room. -/
@[simp] lemma newIds_delete (s : Store) (b a : List Policy) :
    (s.delete b).newIds a = s.newIds a := by
  rw [newIds_eq, newIds_eq, tagged_delete]

@[simp] lemma hasRoomFor_delete (s : Store) (b a : List Policy) :
    (s.delete b).hasRoomFor a = s.hasRoomFor a := by
  rw [Bool.eq_iff_iff, hasRoomFor_iff, hasRoomFor_iff, newIds_delete, tagged_delete, width_delete]

/-- What a creation appends is not touched by the deletion of other policies. -/
lemma delete_add (hab : ∀ p ∈ a, p ∉ b) : (s.add a).delete b = (s.delete b).add a := by
  refine eq_of_contents ?_ ?_ ?_
  · rw [width_delete, width_add, width_add, width_delete]
  · have hnew : a.filter (· ∉ (s.delete b).all) = a.filter (· ∉ s.all) := by
      refine List.filter_congr fun p hp => ?_
      rw [Bool.eq_iff_iff, decide_eq_true_eq, decide_eq_true_eq, mem_all_delete,
        and_iff_left (hab p hp)]
    have hkept : (a.filter (· ∉ s.all)).eraseDups.filter (· ∉ b)
        = (a.filter (· ∉ s.all)).eraseDups := by
      refine List.filter_eq_self.mpr fun p hp => decide_eq_true (hab p ?_)
      exact List.mem_of_mem_filter (List.mem_eraseDups.mp hp)
    rw [all_delete (s.add a), all_add, List.filter_append, hkept, all_add, hnew, all_delete]
  · rw [tagged_delete, tagged_add, tagged_add, newIds_delete, tagged_delete]

/-- The deletion of policies that have just been created, and were not there before, leaves the
others as they were. -/
lemma all_delete_add (ha : ∀ p ∈ a, p ∉ s.all) : ((s.add a).delete a).all = s.all := by
  have hothers : s.all.filter (· ∉ a) = s.all :=
    List.filter_eq_self.mpr fun p hp => decide_eq_true fun hpa => ha p hpa hp
  have hgone : (a.filter (· ∉ s.all)).eraseDups.filter (· ∉ a) = [] := by
    refine List.filter_eq_nil_iff.mpr fun p hp => ?_
    have hpa : p ∈ a := List.mem_of_mem_filter (List.mem_eraseDups.mp hp)
    simpa using hpa
  rw [all_delete, all_add, List.filter_append, hothers, hgone, List.append_nil]

/-- The answer to a creation, and what it does, are the same before and after the deletion of other
policies. -/
lemma perform_create_delete (hab : ∀ p ∈ a, p ∉ b) :
    (s.delete b).perform (.create a)
      = ((s.perform (.create a)).1, (s.perform (.create a)).2.delete b) := by
  cases hroom : s.hasRoomFor a with
  | true =>
      have hlater : (s.delete b).hasRoomFor a = true := by rw [hasRoomFor_delete, hroom]
      rw [perform_create_of_room hroom, perform_create_of_room hlater, delete_add hab]
      rfl
  | false =>
      have hlater : (s.delete b).hasRoomFor a = false := by rw [hasRoomFor_delete, hroom]
      rw [perform_create_of_full hroom, perform_create_of_full hlater, width_delete]
      rfl

lemma all_delete_perform_create (ha : ∀ p ∈ a, p ∉ s.all) :
    ((s.perform (.create a)).2.delete a).all = s.all := by
  cases hroom : s.hasRoomFor a with
  | true =>
      rw [perform_create_of_room hroom]
      exact all_delete_add ha
  | false =>
      rw [perform_create_of_full hroom, all_delete]
      exact List.filter_eq_self.mpr fun p hp => decide_eq_true fun hpa => ha p hpa hp

/-- **Writes to different policies commute.**  A creation and a deletion without a common policy
lead to the same store in either order, with the same policies in the same order and the same tags,
and the creation is answered alike, whether it succeeds or finds too few tags.  If none of the
policies that are created was stored, then to create and to delete them gives back all policies in
their order, and the tags as they were with perhaps some behind them. -/
theorem writes_commute (s : Store) (a b : List Policy) :
    ((∀ p ∈ a, p ∉ b) →
      ((s.perform (.delete b)).2.perform (.create a)).1 = (s.perform (.create a)).1 ∧
      ((s.perform (.delete b)).2.perform (.create a)).2
        = ((s.perform (.create a)).2.perform (.delete b)).2) ∧
    ((∀ p ∈ a, p ∉ s.all) →
      ((s.perform (.create a)).2.perform (.delete a)).2.all = s.all ∧
      s.tags <+: ((s.perform (.create a)).2.perform (.delete a)).2.tags) := by
  refine ⟨fun hab => ?_, fun ha => ⟨all_delete_perform_create ha, ?_⟩⟩
  · have hboth := perform_create_delete (s := s) hab
    have hanswer := congrArg Prod.fst hboth
    have hstore := congrArg Prod.snd hboth
    exact ⟨hanswer, hstore⟩
  · obtain ⟨added, hadded, -⟩ :=
      tags_of_extends ((extends_perform s (.create a)).trans (extends_perform _ (.delete a)))
    exact ⟨added, hadded.symm⟩

/-! ## Two writes that share an app -/

/-- A connection to a cache, from the app that may also connect to the database. -/
def toCache : Policy := ⟨"web", ⟨"cache", .tcp, ⟨6379, 6379, some 6379, by decide, by decide, rfl⟩⟩⟩

/-- One connection is permitted while another of the same app is withdrawn: the order does not
matter, and the permission can be taken back. -/
theorem writes_commute_web :
    toCache ∉ [databaseAccess] ∧ toCache ∉ databaseStore.all ∧
    ((databaseStore.perform (.delete [databaseAccess])).2.perform (.create [toCache])).2
      = ((databaseStore.perform (.create [toCache])).2.perform (.delete [databaseAccess])).2 ∧
    ((databaseStore.perform (.create [toCache])).2.perform (.delete [toCache])).2.all
      = [databaseAccess] := by
  have hother : toCache ∉ [databaseAccess] := by decide
  have hnew : toCache ∉ databaseStore.all := all_databaseStore ▸ hother
  obtain ⟨hcommute, hrestore⟩ := writes_commute databaseStore [toCache] [databaseAccess]
  obtain ⟨-, hsame⟩ := hcommute (List.forall_mem_singleton.mpr hother)
  obtain ⟨hback, -⟩ := hrestore (List.forall_mem_singleton.mpr hnew)
  exact ⟨hother, hnew, hsame, hback.trans all_databaseStore⟩

end NetworkPolicy.Store
