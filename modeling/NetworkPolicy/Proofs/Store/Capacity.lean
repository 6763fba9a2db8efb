import Mathlib.Data.List.Perm.Subperm
import Mathlib.Tactic.Common
import NetworkPolicy.Proofs.Store.Contents

/-!
# Room for tags

No operation gives away more tags than there are (`Reachable.length_tagged_le`).  The apps of stored
policies have tags, so a store of the same width that is still empty has room for all of these
policies (`Reachable.hasRoomFor_new`), and holds them in the same order once they have been created
there (`Reachable.all_add_new`).
-/

namespace NetworkPolicy

namespace Store

variable {s : Store} {batch : List Policy}

lemma newIds_new (width : TagWidth) (batch : List Policy) :
    (new width).newIds batch = (appIdsOf batch).eraseDups := by
  simp [newIds_eq]

/-- A batch is given tags only if there are enough of them left. -/
lemma length_tagged_perform_le (op : Operation) (hs : s.tagged.length ≤ s.width.capacity) :
    (s.perform op).2.tagged.length ≤ (s.perform op).2.width.capacity := by
  rcases s.perform_cases op with ⟨batch, -, hroom, h⟩ | ⟨batch, -, h⟩ | h
  · rw [h, width_add, tagged_add, List.length_append]
    exact hasRoomFor_iff.mp hroom
  · rw [h, tagged_delete, width_delete]
    exact hs
  · rw [h]
    exact hs

lemma Reachable.length_tagged_le (hs : s.Reachable) : s.tagged.length ≤ s.width.capacity := by
  induction hs with
  | new width => exact (tagged_new width).symm ▸ Nat.zero_le _
  | perform op _ ih => exact length_tagged_perform_le op ih

/-- The stored policies name no more apps than have tags. -/
lemma Reachable.hasRoomFor_new (hs : s.Reachable) :
    (Store.new s.width).hasRoomFor s.all = true := by
  have htagged : (appIdsOf s.all).eraseDups ⊆ s.tagged := by
    intro id hid
    obtain ⟨p, hp, happ⟩ := List.mem_flatMap.mp (List.mem_eraseDups.mp hid)
    exact hs.allTagged p hp id happ
  rw [hasRoomFor_iff, newIds_new, tagged_new, width_new, List.length_nil, Nat.zero_add]
  exact ((nodup_eraseDups _).subperm htagged).length_le.trans hs.length_tagged_le

/-- No policy is stored twice, so each of them is new to an empty store. -/
lemma Reachable.all_add_new (hs : s.Reachable) (width : TagWidth) :
    ((Store.new width).add s.all).all = s.all := by
  have hnew : s.all.filter (· ∉ (Store.new width).all) = s.all :=
    List.filter_eq_self.mpr fun p _ => decide_eq_true List.not_mem_nil
  rw [all_add, hnew, all_new, List.nil_append, eraseDups_eq_self_of_nodup hs.distinct.all]

/-- To delete all that is stored leaves nothing. -/
lemma all_delete_all (s : Store) : (s.delete s.all).all = [] := by
  rw [all_delete, List.filter_eq_nil_iff]
  exact fun p hp => by simpa using hp

end Store

end NetworkPolicy
