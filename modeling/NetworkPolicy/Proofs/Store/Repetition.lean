import Mathlib.Tactic.Common
import NetworkPolicy.Proofs.Store.Capacity

/-!
# Operations that are performed twice

An operation that is performed twice in a row does the second time what it did the first time, and
nothing is left to be changed (`perform_perform`).  For a creation the reason is that it leaves none
of the apps of its batch without a tag: the test for room is then about no apps at all, and passes
even if the first creation took the last tag (`hasRoomFor_add`).
-/

namespace NetworkPolicy.Store

variable {s t : Store} {batch : List Policy}

/-- A store is known by its width, its policies and its tagged apps: the indexes and the texts of
the tags follow from these. -/
lemma eq_of_contents (hwidth : s.width = t.width) (hall : s.all = t.all)
    (htagged : s.tagged = t.tagged) : s = t := by
  have htags : s.tags = t.tags := by rw [tags_eq_mapIdx, tags_eq_mapIdx, hwidth, htagged]
  obtain ⟨width, policies, policyIndex, allocated, positions, hindex, hpositions, _⟩ := s
  obtain ⟨width', policies', policyIndex', allocated', positions', hindex', hpositions', _⟩ := t
  obtain rfl : width = width' := hwidth
  obtain rfl : policies = policies' := Array.toList_inj.mp hall
  obtain rfl : allocated = allocated' := Array.toList_inj.mp htags
  obtain rfl : positions = positions' := hpositions.trans hpositions'.symm
  obtain rfl : policyIndex = policyIndex' :=
    Std.ExtHashMap.ext_mem_unit fun p => (hindex p).trans (hindex' p).symm
  rfl

/-- Once a batch has been created, all its apps have tags. -/
lemma newIds_add (s : Store) (batch : List Policy) : (s.add batch).newIds batch = [] := by
  have hnone : (appIdsOf batch).filter (· ∉ (s.add batch).tagged) = [] := by
    rw [List.filter_eq_nil_iff]
    intro id hid
    simp [hid]
  rw [newIds_eq, hnone, List.eraseDups_nil]

/-- There is room to create a batch again, whether or not there is a tag left. -/
lemma hasRoomFor_add (h : s.hasRoomFor batch = true) : (s.add batch).hasRoomFor batch = true := by
  rw [hasRoomFor_iff] at h ⊢
  rw [newIds_add, width_add, tagged_add, List.length_append]
  exact h

lemma add_add (s : Store) (batch : List Policy) : (s.add batch).add batch = s.add batch := by
  refine eq_of_contents (width_add ..) ?_ ?_
  · have hnone : batch.filter (· ∉ (s.add batch).all) = [] := by
      rw [List.filter_eq_nil_iff]
      intro p hp
      simp [hp]
    rw [all_add (s.add batch), hnone, List.eraseDups_nil, List.append_nil]
  · rw [tagged_add (s.add batch), newIds_add, List.append_nil]

lemma delete_delete (s : Store) (batch : List Policy) :
    (s.delete batch).delete batch = s.delete batch := by
  refine eq_of_contents (width_delete ..) ?_ (tagged_delete ..)
  rw [all_delete (s.delete batch), all_delete, List.filter_filter]
  simp only [Bool.and_self]

/-- **Operations are idempotent.**  The second time an operation is answered like the first time,
and leaves the store as it is. -/
theorem perform_perform (s : Store) (op : Operation) :
    (s.perform op).2.perform op = s.perform op := by
  cases op with
  | create batch =>
      cases hroom : s.hasRoomFor batch with
      | true =>
          rw [perform_create_of_room hroom, perform_create_of_room (hasRoomFor_add hroom), add_add]
      | false => rw [perform_create_of_full hroom, perform_create_of_full hroom]
  | delete batch => exact congrArg (Prod.mk ()) (delete_delete s batch)
  | all | byGuids _ | tags => rfl

end NetworkPolicy.Store
