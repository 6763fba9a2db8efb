import Mathlib.Data.List.Induction
import Mathlib.Data.List.Nodup
import Mathlib.Tactic.Common

/-!
# First occurrences

`List.eraseDups` keeps the first occurrence of each value, in order.  The guard looks apps and
spaces up in that order, and the store numbers its apps and keeps its policies in it.

* `firstSeen_eraseDups` — each value once, all of them, and in the order in which they first
  appear.
* `eraseDups_eq_self_of_nodup` — a list without repetitions is its own first occurrences.
* `foldl_insert_eq_append` — inserting values one by one, each unless it is already there, appends
  the first occurrences of the new ones.
* `append_new_append` — to append the new values of two lists at once is to append those of the one
  and then those of the other.
-/

namespace NetworkPolicy

variable {α : Type} [DecidableEq α]

/-- Inserting the values of `batch` at the end, each unless it is already there, appends the first
occurrences of those that were not there before. -/
lemma foldl_insert_eq_append (batch : List α) : ∀ l : List α,
    batch.foldl (fun l a => if a ∈ l then l else l ++ [a]) l
      = l ++ (batch.filter (· ∉ l)).eraseDups := by
  induction batch with
  | nil => simp
  | cons a batch ih =>
      intro l
      rw [List.foldl_cons]
      by_cases h : a ∈ l
      · rw [if_pos h, ih, List.filter_cons_of_neg (by simpa using h)]
      · have hfilter : batch.filter (· ∉ l ++ [a])
            = (batch.filter (· ∉ l)).filter fun b => !b == a := by
          rw [List.filter_filter]
          refine List.filter_congr fun b _ => ?_
          by_cases hb : b = a
          · simp [hb]
          · simp [hb]
        rw [if_neg h, ih, hfilter, List.filter_cons_of_pos (by simpa using h),
          List.eraseDups_cons, List.append_assoc, List.singleton_append]

/-- The new values of two lists are those of the first, and those of the second that are still new
then. -/
lemma append_new_append (l a b : List α) :
    l ++ ((a ++ b).filter (· ∉ l)).eraseDups
      = l ++ (a.filter (· ∉ l)).eraseDups ++
          (b.filter (· ∉ l ++ (a.filter (· ∉ l)).eraseDups)).eraseDups := by
  rw [← foldl_insert_eq_append (a ++ b), List.foldl_append, foldl_insert_eq_append a,
    foldl_insert_eq_append b]

/-- First occurrences are distinct. -/
lemma nodup_eraseDups : ∀ l : List α, l.eraseDups.Nodup
  | [] => by
      rw [List.eraseDups_nil]
      exact List.nodup_nil
  | a :: l => by
      rw [List.eraseDups_cons, List.nodup_cons, List.mem_eraseDups, List.mem_filter]
      have hlength : (l.filter fun b => !b == a).length ≤ l.length := List.length_filter_le ..
      exact ⟨fun h => by simp at h, nodup_eraseDups _⟩
termination_by l => l.length
decreasing_by simpa using Nat.lt_succ_of_le hlength

/-- A value at the end is a first occurrence if it has not occurred before. -/
lemma eraseDups_concat (values : List α) (a : α) :
    (values ++ [a]).eraseDups
      = if a ∈ values then values.eraseDups else values.eraseDups ++ [a] := by
  rw [List.eraseDups_append, List.removeAll]
  by_cases ha : a ∈ values
  · rw [if_pos ha, List.filter_cons_of_neg (by simpa using ha), List.filter_nil,
      List.eraseDups_nil, List.append_nil]
  · rw [if_neg ha, List.filter_cons_of_pos (by simpa using ha), List.filter_nil,
      List.eraseDups_cons, List.filter_nil, List.eraseDups_nil]

/-- The values of a list, each once, in the order in which they first appear in it. -/
structure FirstSeen (values found : List α) : Prop where
  nodup : found.Nodup
  mem_iff : ∀ a, a ∈ found ↔ a ∈ values
  ordered : found.Pairwise fun a b => values.idxOf a < values.idxOf b

theorem firstSeen_eraseDups (values : List α) : FirstSeen values values.eraseDups where
  nodup := nodup_eraseDups values
  mem_iff := fun _ => List.mem_eraseDups
  ordered := by
    -- A value that comes last moves no other, and is behind all of them if it is new.
    induction values using List.reverseRecOn with
    | nil => exact List.Pairwise.nil
    | append_singleton values a ih =>
        have hkept : ∀ b ∈ values.eraseDups, (values ++ [a]).idxOf b = values.idxOf b :=
          fun b hb => List.idxOf_append_of_mem (List.mem_eraseDups.mp hb)
        have hbefore : values.eraseDups.Pairwise fun b c =>
            (values ++ [a]).idxOf b < (values ++ [a]).idxOf c := by
          refine ih.imp_of_mem fun {b c} hb hc h => ?_
          rwa [hkept b hb, hkept c hc]
        rw [eraseDups_concat]
        split
        case isTrue => exact hbefore
        case isFalse ha =>
          refine List.pairwise_append.mpr ⟨hbefore, List.pairwise_singleton _ _, ?_⟩
          intro b hb c hc
          obtain rfl := List.mem_singleton.mp hc
          calc (values ++ [c]).idxOf b = values.idxOf b := hkept b hb
            _ < values.length := List.idxOf_lt_length_of_mem (List.mem_eraseDups.mp hb)
            _ ≤ (values ++ [c]).idxOf c := by
                rw [List.idxOf_append_of_notMem ha]
                exact Nat.le_add_right _ _

/-- A list without repetitions stays so when the first occurrences of new values are appended. -/
lemma nodup_append_new {l : List α} (hl : l.Nodup) (batch : List α) :
    (l ++ (batch.filter (· ∉ l)).eraseDups).Nodup := by
  refine List.nodup_append.mpr ⟨hl, nodup_eraseDups _, fun a ha b hb hab => ?_⟩
  have hnew := List.of_mem_filter (List.mem_eraseDups.mp hb)
  rw [decide_eq_true_eq] at hnew
  exact hnew (hab ▸ ha)

/-- A list without repetitions consists of first occurrences. -/
lemma eraseDups_eq_self_of_nodup {l : List α} (h : l.Nodup) :
    l.eraseDups = l := by
  induction l with
  | nil => exact List.eraseDups_nil
  | cons a l ih =>
      obtain ⟨ha, hl⟩ := List.nodup_cons.mp h
      have hothers : l.filter (fun b => !b == a) = l := by
        refine List.filter_eq_self.mpr fun b hb => ?_
        have hne : b ≠ a := fun hba => ha (hba ▸ hb)
        simp [hne]
      rw [List.eraseDups_cons, hothers, ih hl]

end NetworkPolicy
