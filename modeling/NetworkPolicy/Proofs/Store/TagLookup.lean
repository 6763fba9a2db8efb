import Mathlib.Tactic.Common
import NetworkPolicy.Api.Internal
import NetworkPolicy.Proofs.Store.Contents
import NetworkPolicy.Proofs.Text.Hex

/-!
# Finding the tag of an app

The tag of an app is found in three ways.  An app that asks to reach itself gets the first tag that
the list of tags has for it (`Internal.tagOf?`), the listing for the agents makes a table of the
list and takes what is in the table (`Internal.tagTable`), and the store keeps a map to the places
of the tags (`Store.positions`).  Of several tags of one app these would not find the same.  No app
has several: `Distinct.getElem?_tagTable` and `getElem?_positions`.

An app keeps its tag, whichever way it is looked for: `tagOf?_of_extends`,
`getElem?_tagTable_of_extends`.
-/

namespace NetworkPolicy

/-! ## Tables -/

namespace Internal

variable {tags more : List Tag} {id : String}

lemma tagTable_concat (tags : List Tag) (tag : Tag) :
    tagTable (tags ++ [tag]) = (tagTable tags).insert tag.id tag.tag := List.foldl_concat ..

/-- Where no app is twice, its tag in the table is its first one in the list. -/
lemma getElem?_tagTable (h : (tags.map Tag.id).Nodup) (id : String) :
    (tagTable tags)[id]? = tagOf? tags id := by
  induction tags using List.reverseRecOn with
  | nil => exact Std.HashMap.getElem?_empty
  | append_singleton tags tag ih =>
      rw [List.map_append, List.map_singleton, List.nodup_append] at h
      obtain ⟨htags, -, hnew⟩ := h
      rw [tagTable_concat, Std.HashMap.getElem?_insert, ih htags, tagOf?, tagOf?,
        List.find?_append]
      by_cases hid : tag.id = id
      · have hnone : tags.find? (·.id = id) = none := by
          rw [List.find?_eq_none]
          intro t ht hsame
          exact hnew t.id (List.mem_map_of_mem ht) tag.id List.mem_cons_self
            ((of_decide_eq_true hsame).trans hid.symm)
        simp [hid, hnone]
      · simp [hid]

/-- Tags of other apps do not matter, also if they come later. -/
lemma getElem?_tagTable_append (h : id ∉ more.map Tag.id) :
    (tagTable (tags ++ more))[id]? = (tagTable tags)[id]? := by
  induction more using List.reverseRecOn with
  | nil => rw [List.append_nil]
  | append_singleton more tag ih =>
      rw [List.map_append, List.map_singleton, List.mem_append, List.mem_singleton, not_or] at h
      have hother : (tag.id == id) = false := beq_eq_false_iff_ne.mpr (Ne.symm h.2)
      rw [← List.append_assoc, tagTable_concat, Std.HashMap.getElem?_insert, hother, ih h.1]
      rfl

end Internal

/-! ## Tags of a store -/

/-- Where no key is twice, its place is its first one. -/
lemma getElem?_positionsOf {keys : List String} (h : keys.Nodup) (key : String) :
    (positionsOf keys)[key]? = keys.idxOf? key := by
  induction keys using List.reverseRecOn with
  | nil =>
      rw [positionsOf, List.zipIdx_nil, Std.ExtHashMap.ofList_nil, Std.ExtHashMap.getElem?_empty,
        List.idxOf?_nil]
  | append_singleton keys last ih =>
      rw [List.nodup_append] at h
      obtain ⟨hkeys, -, hnew⟩ := h
      rw [positionsOf_concat, Std.ExtHashMap.getElem?_insert, ih hkeys]
      unfold List.idxOf?
      rw [List.findIdx?_append]
      by_cases hlast : last = key
      · have hnone : keys.findIdx? (· == key) = none := by
          rw [List.findIdx?_eq_none_iff]
          intro k hk
          exact beq_eq_false_iff_ne.mpr fun hsame =>
            hnew k hk last List.mem_cons_self (hsame.trans hlast.symm)
        simp [hlast, hnone]
      · simp [hlast]

namespace Store

variable {s t : Store} {id : String}

/-- The map of the store gives the place of an app, if no app has two. -/
lemma getElem?_positions (hs : s.tagged.Nodup) (id : String) :
    s.positions[id]? = s.tagged.idxOf? id := by
  rw [s.positions_eq, ← tags, map_id_tags]
  exact getElem?_positionsOf hs id

/-- The number of an app's tag is its position among the tagged apps. -/
lemma tagOf?_tags (s : Store) (id : String) :
    Internal.tagOf? s.tags id = (s.tagged.idxOf? id).map fun i => s.width.format (i + 1) := by
  rw [Internal.tagOf?, tags_eq_mapIdx]
  -- the positions shift by one under `cons`, so the induction is over all numberings
  generalize s.tagged = ids
  suffices h : ∀ number : ℕ → String,
      ((ids.mapIdx fun i id => Tag.mk id (number i)).find? (·.id = id)).map Tag.tag
        = (ids.idxOf? id).map number from h fun i => s.width.format (i + 1)
  induction ids with
  | nil => intro number; rfl
  | cons a ids ih =>
      intro number
      rw [List.mapIdx_cons, List.find?_cons, List.idxOf?_cons]
      by_cases ha : a = id
      · simp [ha]
      · simp only [ha, decide_false, beq_iff_eq, if_false, Option.map_map]
        exact ih fun i => number (i + 1)

lemma tagOf?_tags_isSome (s : Store) (id : String) :
    (Internal.tagOf? s.tags id).isSome ↔ id ∈ s.tagged := by
  rw [tagOf?_tags, Option.isSome_map, List.isSome_idxOf?]

/-- The apps of a batch have tags once it has been created. -/
lemma tagOf?_add_isSome (s : Store) (batch : List Policy) {p : Policy} (hp : p ∈ batch)
    (hid : id ∈ p.appIds) : (Internal.tagOf? (s.add batch).tags id).isSome :=
  (tagOf?_tags_isSome ..).mpr (mem_tagged_add_of_mem s batch hp hid)

/-- Two apps never have the same tag. -/
lemma tagOf?_inj {id' tag : String} (h : Internal.tagOf? s.tags id = some tag)
    (h' : Internal.tagOf? s.tags id' = some tag) : id = id' := by
  rw [tagOf?_tags] at h h'
  obtain ⟨i, hi, hitag⟩ := Option.map_eq_some_iff.mp h
  obtain ⟨j, hj, hjtag⟩ := Option.map_eq_some_iff.mp h'
  have hij : i = j := Nat.succ.inj (s.width.format_injective (hitag.trans hjtag.symm))
  subst hij
  obtain ⟨_, hid, -⟩ := List.idxOf?_eq_some_iff.mp hi
  obtain ⟨_, hid', -⟩ := List.idxOf?_eq_some_iff.mp hj
  exact hid.symm.trans hid'

/-! ### Stores in which no app is tagged twice -/

section Distinct

variable (hs : s.Distinct)

include hs

/-- The table of the listing agrees with a search. -/
lemma Distinct.getElem?_tagTable (id : String) :
    (Internal.tagTable s.tags)[id]? = Internal.tagOf? s.tags id :=
  Internal.getElem?_tagTable (s.map_id_tags ▸ hs.tagged) id

/-- The listing of tags agrees with a search. -/
lemma Distinct.tagOf?_of_mem {t : Tag} (ht : t ∈ s.tags) :
    Internal.tagOf? s.tags t.id = some t.tag := by
  rw [tags_eq_mapIdx] at ht
  obtain ⟨i, hi, rfl⟩ := List.mem_mapIdx.mp ht
  have hfirst : s.tagged.idxOf? s.tagged[i] = some i := by
    rw [List.idxOf?_eq_some_iff]
    refine ⟨hi, rfl, fun j hj hsame => ?_⟩
    have hij : j = i := hs.tagged.getElem_inj_iff.mp hsame
    exact absurd hij (Nat.ne_of_lt hj)
  rw [tagOf?_tags, hfirst]
  rfl

end Distinct

/-! ### Stores that grow -/

/-- An app that has a tag keeps it. -/
lemma tagOf?_of_extends (hst : s.Extends t) (hid : id ∈ s.tagged) :
    Internal.tagOf? t.tags id = Internal.tagOf? s.tags id := by
  obtain ⟨i, hi⟩ := Option.isSome_iff_exists.mp (List.isSome_idxOf?.mpr hid)
  have hi' : t.tagged.idxOf? id = some i := hst.tagged.findIdx?_eq_some hi
  rw [tagOf?_tags, tagOf?_tags, hi, hi', hst.width]

/-- The tags that are added belong to other apps. -/
lemma tags_of_extends (hst : s.Extends t) :
    ∃ more, t.tags = s.tags ++ more ∧ ∀ tag ∈ more, tag.id ∉ s.tagged := by
  obtain ⟨more, hmore, hnew⟩ := hst.grown
  obtain ⟨added, hadded⟩ : s.tags <+: t.tags := by
    rw [tags_eq_mapIdx, tags_eq_mapIdx, hmore, List.mapIdx_append, hst.width]
    exact List.prefix_append _ _
  have hids := congrArg (List.map Tag.id) hadded
  rw [List.map_append, map_id_tags, map_id_tags, hmore] at hids
  refine ⟨added, hadded.symm, fun tag htag => hnew _ ?_⟩
  rw [← List.append_cancel_left hids]
  exact List.mem_map_of_mem htag

lemma getElem?_tagTable_of_extends (hst : s.Extends t) (hid : id ∈ s.tagged) :
    (Internal.tagTable t.tags)[id]? = (Internal.tagTable s.tags)[id]? := by
  obtain ⟨more, hmore, hnew⟩ := tags_of_extends hst
  rw [hmore]
  refine Internal.getElem?_tagTable_append fun h => ?_
  obtain ⟨tag, htag, rfl⟩ := List.mem_map.mp h
  exact hnew tag htag hid

end Store

end NetworkPolicy
