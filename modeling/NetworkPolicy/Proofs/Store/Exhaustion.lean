import Mathlib.Algebra.Group.Nat.Defs
import Mathlib.Data.Finset.Card
import Mathlib.Data.Finset.Dedup
import Mathlib.Data.Finset.Image
import Mathlib.Tactic.Common
import NetworkPolicy.Proofs.Store.Capacity

/-!
# Running out of tags

A creation is refused when there are too few tags for its apps.  Before anything is written, the
store counts the apps of the batch that have no tag yet, each of them once.  This count and the
number of tags given away come to the number of distinct apps that either have a tag or are named by
the batch (`card_involved`), whatever repetitions there are; so the test for room is a test of a
cardinality (`hasRoomFor_iff_card`).

* `Store.involved` — the apps that have tags or are named by a batch.
* `Reachable.create_of_card` — a creation fails exactly if these are more than there are tags, and
  then nothing has changed.
-/

namespace NetworkPolicy

/-- With a width of `n` bytes there are as many tags as there are numbers of `n` bytes, without
zero. -/
lemma TagWidth.capacity_eq (w : TagWidth) : w.capacity = 256 ^ w.bytes - 1 := by
  rw [capacity, Nat.one_shiftLeft, Nat.pow_mul]

namespace Store

variable {s : Store} {batch : List Policy}

/-- The apps that have tags or are named by the batch. -/
def involved (s : Store) (batch : List Policy) : Finset String :=
  (s.tags.map Tag.id ++ appIdsOf batch).toFinset

lemma mem_involved {id : String} :
    id ∈ s.involved batch ↔ id ∈ s.tagged ∨ id ∈ appIdsOf batch := by
  rw [involved, List.mem_toFinset, List.mem_append, map_id_tags]

/-- Once a batch has been created, the apps that have tags are those that were involved. -/
lemma involved_eq_toFinset (s : Store) (batch : List Policy) :
    s.involved batch = (s.tagged ++ s.newIds batch).toFinset := by
  ext id
  rw [mem_involved, List.mem_toFinset, ← tagged_add, mem_tagged_add]

/-- The tags given away and those that the batch asks for are as many as the apps involved. -/
lemma card_involved (htagged : s.tagged.Nodup) (batch : List Policy) :
    (s.involved batch).card = s.tagged.length + (s.newIds batch).length := by
  have hdistinct : (s.tagged ++ s.newIds batch).Nodup := by
    rw [newIds_eq]
    exact nodup_append_new htagged (appIdsOf batch)
  rw [involved_eq_toFinset, List.toFinset_card_of_nodup hdistinct, List.length_append]

lemma hasRoomFor_iff_card (htagged : s.tagged.Nodup) (batch : List Policy) :
    s.hasRoomFor batch = true ↔ (s.involved batch).card ≤ 256 ^ s.width.bytes - 1 := by
  rw [hasRoomFor_iff, card_involved htagged, TagWidth.capacity_eq]

/-- A batch that names only apps with tags involves no others. -/
lemma involved_of_tagged (h : ∀ id ∈ appIdsOf batch, id ∈ s.tags.map Tag.id) :
    s.involved batch = s.tagged.toFinset := by
  ext id
  rw [mem_involved, List.mem_toFinset, or_iff_left_of_imp fun hid => map_id_tags s ▸ h id hid]

/-! ## Creations -/

/-- **A creation fails exactly when it runs out of tags, and then it changes nothing.**  In a
reachable store with tags of `n` bytes, creating a batch is refused exactly if the distinct apps
that have tags or are named by the batch are more than `256 ^ n - 1`, and then the store is the one
before, for everything that is asked of it and done with it later.  Otherwise the creation succeeds,
and it has given away one tag for each of these apps.  In particular a batch succeeds that names
only apps with tags, also when no tag is left. -/
theorem Reachable.create_of_card (hs : s.Reachable) (batch : List Policy) :
    ((s.perform (.create batch)).1 = Except.error (.tagsExhausted (256 ^ s.width.bytes - 1))
      ↔ 256 ^ s.width.bytes - 1 < (s.involved batch).card) ∧
    (256 ^ s.width.bytes - 1 < (s.involved batch).card → (s.perform (.create batch)).2 = s) ∧
    ((s.involved batch).card ≤ 256 ^ s.width.bytes - 1 →
      (s.perform (.create batch)).1 = Except.ok () ∧
      (s.perform (.create batch)).2.tags.length = (s.involved batch).card) ∧
    ((∀ id ∈ appIdsOf batch, id ∈ s.tags.map Tag.id) →
      (s.perform (.create batch)).1 = Except.ok ()) := by
  have hroom := hasRoomFor_iff_card hs.distinct.tagged batch
  have hok : (s.involved batch).card ≤ 256 ^ s.width.bytes - 1 →
      (s.perform (.create batch)).1 = Except.ok () := fun hcard => by
    rw [perform_create_of_room (hroom.mpr hcard)]
  refine ⟨?_, fun hcard => ?_, fun hcard => ⟨hok hcard, ?_⟩, fun htagged => hok ?_⟩
  · rw [← not_le, ← hroom, Bool.not_eq_true]
    cases h : s.hasRoomFor batch with
    | true =>
        rw [perform_create_of_room h]
        exact iff_of_false nofun nofun
    | false =>
        rw [perform_create_of_full h, TagWidth.capacity_eq]
        exact iff_of_true rfl rfl
  · have hfull : s.hasRoomFor batch = false :=
      Bool.eq_false_iff.mpr (mt hroom.mp (not_le.mpr hcard))
    rw [perform_create_of_full hfull]
  · rw [perform_create_of_room (hroom.mpr hcard), length_tags, tagged_add, List.length_append,
      card_involved hs.distinct.tagged]
  · -- nothing is asked for that has not been given away already
    rw [involved_of_tagged htagged, List.toFinset_card_of_nodup hs.distinct.tagged,
      ← TagWidth.capacity_eq]
    exact hs.length_tagged_le

/-! ## A store without a tag left -/

/-- One of many apps, which differ in the lengths of their names. -/
def numberedApp (n : ℕ) : String := String.ofList (List.replicate n 'a')

lemma numberedApp_injective : Function.Injective numberedApp := by
  intro m n h
  simpa using congrArg List.length (String.ofList_injective h)

/-- Connections of each of `n` apps to itself. -/
def selfConnections (n : ℕ) : List Policy :=
  (List.range n).map fun i =>
    ⟨numberedApp i, ⟨numberedApp i, .tcp, ⟨9000, 9000, some 9000, by decide, by decide, rfl⟩⟩⟩

lemma toFinset_selfConnections (n : ℕ) :
    (appIdsOf (selfConnections n)).toFinset = (Finset.range n).image numberedApp := by
  ext id
  simp [appIdsOf, selfConnections, Policy.appIds, eq_comm]

lemma card_selfConnections (n : ℕ) : (appIdsOf (selfConnections n)).toFinset.card = n := by
  rw [toFinset_selfConnections, Finset.card_image_of_injective _ numberedApp_injective,
    Finset.card_range]

lemma card_involved_new (width : TagWidth) (n : ℕ) :
    ((new width).involved (selfConnections n)).card = n := by
  have hnone : (new width).tags.map Tag.id = [] := rfl
  rw [involved, hnone, List.nil_append, card_selfConnections]

/-- A store of which `n` tags have been asked for. -/
def filledStore (width : TagWidth) (n : ℕ) : Store :=
  ((new width).perform (.create (selfConnections n))).2

section Filled

variable {width : TagWidth} {n : ℕ}

lemma reachable_filledStore (width : TagWidth) (n : ℕ) : (filledStore width n).Reachable :=
  (Reachable.new width).perform _

lemma filledStore_eq (h : n ≤ 256 ^ width.bytes - 1) :
    filledStore width n = (new width).add (selfConnections n) := by
  have hcard := (card_involved_new width n).trans_le h
  have hroom := (hasRoomFor_iff_card (Reachable.new width).distinct.tagged _).mpr hcard
  rw [filledStore, perform_create_of_room hroom]

lemma width_filledStore (h : n ≤ 256 ^ width.bytes - 1) : (filledStore width n).width = width := by
  rw [filledStore_eq h, width_add, width_new]

lemma tagged_of_mem_filledStore (h : n ≤ 256 ^ width.bytes - 1) :
    ∀ id ∈ appIdsOf (selfConnections n), id ∈ (filledStore width n).tags.map Tag.id := by
  intro id hid
  rw [map_id_tags, filledStore_eq h, mem_tagged_add]
  exact .inr hid

lemma le_card_involved (s : Store) (n : ℕ) : n ≤ (s.involved (selfConnections n)).card := by
  have hnamed : (appIdsOf (selfConnections n)).toFinset ⊆ s.involved (selfConnections n) :=
    fun _ hid => mem_involved.mpr (.inr (List.mem_toFinset.mp hid))
  exact (card_selfConnections n).ge.trans (Finset.card_le_card hnamed)

end Filled

/-- When all 255 tags of one byte have been given away, a creation succeeds for the apps that have
them, and fails for one app more. -/
theorem create_of_card_filledStore : ∃ width : TagWidth, width.bytes = 1 ∧
    (filledStore width 255).Reachable ∧
    ((filledStore width 255).perform (.create (selfConnections 255))).1 = Except.ok () ∧
    ((filledStore width 255).perform (.create (selfConnections 256))).1
      = Except.error (.tagsExhausted 255) ∧
    ((filledStore width 255).perform (.create (selfConnections 256))).2
      = filledStore width 255 := by
  obtain ⟨width, hbytes⟩ : ∃ width : TagWidth, width.bytes = 1 := ⟨⟨1, by decide, by decide⟩, rfl⟩
  have hfits : 255 ≤ 256 ^ width.bytes - 1 := by rw [hbytes]; decide
  have hmore : 256 ^ (filledStore width 255).width.bytes - 1
      < ((filledStore width 255).involved (selfConnections 256)).card := by
    rw [width_filledStore hfits, hbytes]
    exact le_card_involved (filledStore width 255) 256
  have hreached := reachable_filledStore width 255
  obtain ⟨-, -, -, hagain⟩ := hreached.create_of_card (selfConnections 255)
  obtain ⟨hfails, hsame, -, -⟩ := hreached.create_of_card (selfConnections 256)
  have herror := hfails.mpr hmore
  rw [width_filledStore hfits, hbytes] at herror
  exact ⟨width, hbytes, hreached, hagain (tagged_of_mem_filledStore hfits), herror, hsame hmore⟩

end Store

end NetworkPolicy
