import Mathlib.Tactic.Common
import NetworkPolicy.Proofs.Except
import NetworkPolicy.Proofs.Store.History
import NetworkPolicy.Proofs.Store.Repetition

/-!
# Batches that are split

A batch may be handed in as a whole or in parts.  The whole is decided about at once, before any of
its apps has a tag, while the second part finds the tags that the first has been given.  That the
outcome is the same rests on two things: first occurrences split over a list that is put together of
two (`append_new_append`), so both ways ask for the same tags in the same order; and tags are only
ever added, so the room for the whole is the room for each part when its turn comes
(`hasRoomFor_append`).

* `split_batches` — a whole and its two parts, created and deleted.
* `Reachable.replay_create` — any number of parts, created one after the other.
-/

namespace NetworkPolicy.Store

variable {s : Store}

lemma hasRoomFor_iff_length (batch : List Policy) :
    s.hasRoomFor batch = true ↔ (s.add batch).tagged.length ≤ s.width.capacity := by
  rw [hasRoomFor_iff, tagged_add, List.length_append]

/-! ## Two parts -/

lemma add_append (s : Store) (a b : List Policy) : s.add (a ++ b) = (s.add a).add b := by
  refine eq_of_contents ?_ ?_ ?_
  · rw [width_add, width_add, width_add]
  · rw [all_add, all_add (s.add a), all_add, append_new_append]
  · rw [tagged_add, tagged_add (s.add a), newIds_eq, newIds_eq, tagged_add, newIds_eq,
      appIdsOf_append, append_new_append]

/-- There is room for a batch exactly if there is room for its first part, and then for the
second. -/
lemma hasRoomFor_append (s : Store) (a b : List Policy) :
    s.hasRoomFor (a ++ b) = (s.hasRoomFor a && (s.add a).hasRoomFor b) := by
  rw [Bool.eq_iff_iff, Bool.and_eq_true, hasRoomFor_iff_length, hasRoomFor_iff_length,
    hasRoomFor_iff_length, add_append, width_add]
  -- the tags of the first part are among those of the whole
  have hfewer : (s.add a).tagged.length ≤ ((s.add a).add b).tagged.length := by
    rw [tagged_add (s.add a), List.length_append]
    exact Nat.le_add_right ..
  exact ⟨fun h => ⟨hfewer.trans h, h⟩, And.right⟩

lemma create_append (s : Store) (a b : List Policy) :
    s.create (a ++ b) = s.create a >>= fun t => t.create b := by
  cases hfirst : s.hasRoomFor a with
  | false =>
      have hwhole : s.hasRoomFor (a ++ b) = false := by
        rw [hasRoomFor_append, hfirst, Bool.false_and]
      simp only [create, hfirst, hwhole, Bool.false_eq_true, if_false]
      rfl
  | true =>
      have hwhole : s.hasRoomFor (a ++ b) = (s.add a).hasRoomFor b := by
        rw [hasRoomFor_append, hfirst, Bool.true_and]
      have hcreated : s.create a = .ok (s.add a) := create_eq_ok_iff.mpr ⟨hfirst, rfl⟩
      rw [hcreated, create, hwhole, add_append]
      show _ = (s.add a).create b
      rw [create, width_add]

lemma delete_append (s : Store) (a b : List Policy) :
    s.delete (a ++ b) = (s.delete a).delete b := List.foldl_append

lemma delete_comm (s : Store) (a b : List Policy) :
    (s.delete a).delete b = (s.delete b).delete a := by
  refine eq_of_contents ?_ ?_ ?_
  · simp only [width_delete]
  · rw [all_delete (s.delete a), all_delete, all_delete (s.delete b), all_delete, List.filter_comm]
  · simp only [tagged_delete]

/-- **A batch can be split.**  To create a batch succeeds exactly if to create its first part and
then its second one does, and leads to the same store, so to the same policies in the same order
and to the same tags; and it is refused exactly if one of the parts is, for the same cause.  To
delete a batch is to delete its parts, in either order. -/
theorem split_batches (s : Store) (a b : List Policy) :
    (∀ t, s.create (a ++ b) = .ok t ↔ ∃ r, s.create a = .ok r ∧ r.create b = .ok t) ∧
    (∀ e, s.create (a ++ b) = .error e
      ↔ s.create a = .error e ∨ ∃ r, s.create a = .ok r ∧ r.create b = .error e) ∧
    s.delete (a ++ b) = (s.delete a).delete b ∧
    s.delete (a ++ b) = (s.delete b).delete a := by
  refine ⟨fun t => ?_, fun e => ?_, delete_append s a b, ?_⟩
  · rw [create_append, bind_eq_ok_iff]
  · rw [create_append, bind_eq_error_iff]
  · rw [delete_append, delete_comm]

/-! ## Any number of parts -/

lemma create_nil (hs : s.tagged.length ≤ s.width.capacity) : s.create [] = .ok s := by
  have hnone : s.newIds [] = [] := by
    rw [newIds_eq]
    rfl
  have hadd : s.add [] = s := by
    rw [add, hnone]
    rfl
  rw [create_eq_ok_iff, hasRoomFor_iff_length, hadd]
  exact ⟨hs, rfl⟩

/-- However a batch is split, to create the parts one after the other is to create the whole. -/
theorem Reachable.replay_create (parts : List (List Policy)) : ∀ {s : Store}, s.Reachable →
    s.replay (parts.map .create) = s.create parts.flatten := by
  induction parts with
  | nil => exact fun hs => (create_nil hs.length_tagged_le).symm
  | cons part parts ih =>
      intro s hs
      rw [List.flatten_cons, create_append, replay, List.map_cons, List.foldlM_cons]
      show s.create part >>= (fun t => t.replay (parts.map .create)) = _
      cases hpart : s.create part with
      | error e => rfl
      | ok t =>
          obtain ⟨hroom, rfl⟩ := create_eq_ok_iff.mp hpart
          have hreached : (s.add part).Reachable := by
            have hperformed := hs.perform (.create part)
            rwa [perform_create_of_room hroom] at hperformed
          exact ih hreached

end NetworkPolicy.Store
