import Mathlib.Data.Fintype.EquivFin
import NetworkPolicy.Proofs.Store.Exhaustion
import NetworkPolicy.Proofs.Store.History
import NetworkPolicy.Proofs.Text.Hex

/-!
# The texts of tags

A tag is written in two hexadecimal digits for each byte of its width.  The formatter takes this
count as a minimum only; that no text is longer is due to the store, which gives away no number that
needs more digits, however many creations there have been (`Reachable.length_tagged_le`).  So the
texts have one length, and their order is the order of their numbers.

* `Reachable.tag_texts` — length, digits, value and order of the tags of a reachable store, the last
  one that it can give away, and the test for room in words of 64 bits (`FitsWords`).
-/

namespace NetworkPolicy

namespace TagWidth

/-- The text whose digits are all `f`. -/
def lastText (w : TagWidth) : String := String.ofList (List.replicate (2 * w.bytes) 'f')

variable {w : TagWidth} {n : ℕ}

lemma capacity_pos (w : TagWidth) : 0 < w.capacity := by
  have hbase : 256 ^ 1 ≤ 256 ^ w.bytes := Nat.pow_le_pow_right (by decide) w.pos
  rw [capacity_eq]
  omega

/-- The numbers of tags are those that two digits for each byte can show. -/
lemma capacity_eq_pred_pow (w : TagWidth) : w.capacity = 16 ^ (2 * w.bytes) - 1 := by
  rw [capacity_eq, Nat.pow_mul]

lemma lt_pow_of_le_capacity (h : n ≤ w.capacity) : n < 16 ^ (2 * w.bytes) := by
  have hpos : 0 < 16 ^ (2 * w.bytes) := Nat.pow_pos (by decide)
  rw [capacity_eq_pred_pow] at h
  omega

lemma toList_format (h : n ≤ w.capacity) :
    (w.format n).toList = Hex.lastDigits (2 * w.bytes) n := by
  have hwidth : 0 < 2 * w.bytes := Nat.mul_pos (by decide) w.pos
  rw [format, String.toList_ofList, Hex.fixed_eq_lastDigits hwidth (lt_pow_of_le_capacity h)]

lemma format_capacity (w : TagWidth) : w.format w.capacity = w.lastText := by
  rw [← String.toList_inj, toList_format (Nat.le_refl _), lastText, String.toList_ofList,
    capacity_eq_pred_pow, Hex.lastDigits_pred_pow]

lemma format_lt_format_iff {m : ℕ} (hm : m ≤ w.capacity) (hn : n ≤ w.capacity) :
    w.format m < w.format n ↔ m < n := by
  rw [String.lt_iff, toList_format hm, toList_format hn]
  have hsmaller : ∀ {k l : ℕ}, l ≤ w.capacity → k < l →
      Hex.lastDigits (2 * w.bytes) k < Hex.lastDigits (2 * w.bytes) l :=
    fun hl hkl => Hex.lastDigits_lt _ hkl (lt_pow_of_le_capacity hl)
  constructor
  · intro h
    by_contra hge
    rcases (Nat.le_of_not_lt hge).lt_or_eq with hlt | rfl
    · exact List.lt_asymm h (hsmaller hm hlt)
    · exact List.lt_irrefl _ h
  · exact hsmaller hn

end TagWidth

namespace Store

variable {s : Store}

/-! ## Numbers that are given away -/

lemma getElem_tags (i : ℕ) (h : i < s.tags.length) : s.tags[i].tag = s.width.format (i + 1) := by
  simp only [tags_eq_mapIdx, List.getElem_mapIdx]

lemma Reachable.length_tags_le (hs : s.Reachable) : s.tags.length ≤ s.width.capacity := by
  rw [length_tags]
  exact hs.length_tagged_le

lemma Reachable.after (hs : s.Reachable) (ops : List Operation) : (s.after ops).Reachable := by
  induction ops using List.reverseRecOn with
  | nil => exact hs
  | append_singleton ops op ih =>
      rw [after_concat]
      exact ih.perform op

lemma extends_after (s : Store) (ops : List Operation) : s.Extends (s.after ops) := by
  induction ops using List.reverseRecOn with
  | nil => exact .refl s
  | append_singleton ops op ih =>
      rw [after_concat]
      exact ih.trans (extends_perform _ op)

/-- When the last number has been given away, the tags do not change any more. -/
lemma Reachable.tags_after_of_full (hs : s.Reachable) (hfull : s.tags.length = s.width.capacity)
    (ops : List Operation) : (s.after ops).tags = s.tags := by
  have hextends := extends_after s ops
  have hlength : (s.after ops).tagged.length ≤ s.tagged.length := by
    rw [← length_tags s, hfull, ← hextends.width]
    exact (hs.after ops).length_tagged_le
  rw [tags_eq_mapIdx, tags_eq_mapIdx, hextends.width,
    ← hextends.tagged.eq_of_length_le hlength]

/-- The last of all tags is all `f`. -/
lemma getLast?_tags_of_full (hfull : s.tags.length = s.width.capacity) :
    s.tags.getLast?.map Tag.tag = some s.width.lastText := by
  have hpos := s.width.capacity_pos
  have hlast : s.tags.length - 1 < s.tags.length := by omega
  have hnumber : s.tags.length - 1 + 1 = s.width.capacity := by omega
  rw [List.getLast?_eq_getElem?, List.getElem?_eq_getElem hlast, Option.map_some, getElem_tags,
    hnumber, TagWidth.format_capacity]

/-- A connection of an app to a port of its own. -/
def loopback (app : String) : Policy :=
  ⟨app, ⟨app, .tcp, ⟨9090, 9090, some 9090, by decide, by decide, rfl⟩⟩⟩

lemma toFinset_loopbacks (apps : Finset String) :
    (appIdsOf (apps.toList.map loopback)).toFinset = apps := by
  ext id
  simp [appIdsOf, loopback, Policy.appIds]

/-- Whatever has been given away already, one creation can ask for all the rest. -/
lemma Reachable.exists_filling (hs : s.Reachable) :
    ∃ batch, (s.perform (.create batch)).2.tags.length = s.width.capacity := by
  have : Infinite String := .of_injective numberedApp numberedApp_injective
  have hgiven : s.tagged.toFinset.card ≤ s.width.capacity := by
    rw [List.toFinset_card_of_nodup hs.distinct.tagged]
    exact hs.length_tagged_le
  obtain ⟨apps, happs, hcard⟩ := Infinite.exists_superset_card_eq _ _ hgiven
  have hinvolved : s.involved (apps.toList.map loopback) = apps := by
    rw [involved, map_id_tags, List.toFinset_append, toFinset_loopbacks,
      Finset.union_eq_right.mpr happs]
  have hroom : s.hasRoomFor (apps.toList.map loopback) = true := by
    rw [hasRoomFor_iff_card hs.distinct.tagged, hinvolved, hcard, TagWidth.capacity_eq]
  refine ⟨apps.toList.map loopback, ?_⟩
  rw [perform_create_of_room hroom, length_tags, tagged_add, List.length_append,
    ← card_involved hs.distinct.tagged, hinvolved, hcard]

end Store

/-! ## Words of 64 bits -/

namespace TagWidth

/-- The number of tags, computed in words of 64 bits. -/
def capacityWord (w : TagWidth) : UInt64 := (1 <<< UInt64.ofNat (8 * w.bytes)) - 1

lemma toNat_power (w : TagWidth) :
    ((1 : UInt64) <<< UInt64.ofNat (8 * w.bytes)).toNat = 2 ^ (8 * w.bytes) := by
  have hbytes := w.le_four
  have hshift : (UInt64.ofNat (8 * w.bytes)).toNat = 8 * w.bytes :=
    UInt64.toNat_ofNat_of_lt' (show 8 * w.bytes < 2 ^ 64 by omega)
  have hpower : 2 ^ (8 * w.bytes) < 2 ^ 64 := Nat.pow_lt_pow_right (by decide) (by omega)
  rw [UInt64.toNat_shiftLeft, hshift, Nat.mod_eq_of_lt (show 8 * w.bytes < 64 by omega)]
  show 1 <<< (8 * w.bytes) % 2 ^ 64 = _
  rw [Nat.one_shiftLeft, Nat.mod_eq_of_lt hpower]

lemma toNat_capacityWord (w : TagWidth) : w.capacityWord.toNat = w.capacity := by
  have hone : (1 : UInt64) ≤ 1 <<< UInt64.ofNat (8 * w.bytes) := by
    rw [UInt64.le_iff_toNat_le, toNat_power]
    exact Nat.one_le_two_pow
  rw [capacityWord, UInt64.toNat_sub_of_le _ _ hone, toNat_power, capacity, Nat.one_shiftLeft]
  rfl

lemma capacity_lt (w : TagWidth) : w.capacity < 2 ^ 32 := by
  have hpower : 2 ^ (8 * w.bytes) ≤ 2 ^ 32 :=
    Nat.pow_le_pow_right (by decide) (by have hbytes := w.le_four; omega)
  rw [capacity, Nat.one_shiftLeft]
  omega

end TagWidth

namespace Store

variable {s : Store} {batch : List Policy}

/-- The test for room can be made in words of 64 bits: the shift is by less than their length and
loses no bit, the difference does not borrow, the lengths are words, and their sum does not
overflow. -/
structure FitsWords (s : Store) (batch : List Policy) : Prop where
  shift : 8 * s.width.bytes < 64
  power : ((1 : UInt64) <<< UInt64.ofNat (8 * s.width.bytes)).toNat = 2 ^ (8 * s.width.bytes)
  capacity : s.width.capacityWord.toNat = s.width.capacity
  given : (UInt64.ofNat s.tags.length).toNat = s.tags.length
  wanted : (UInt64.ofNat (s.newIds batch).length).toNat = (s.newIds batch).length
  sum : (UInt64.ofNat s.tags.length + UInt64.ofNat (s.newIds batch).length).toNat
    = s.tags.length + (s.newIds batch).length
  test : UInt64.ofNat s.tags.length + UInt64.ofNat (s.newIds batch).length ≤ s.width.capacityWord
    ↔ s.hasRoomFor batch = true

/-- A batch asks for no more tags than it names apps. -/
lemma length_newIds_le (s : Store) (batch : List Policy) :
    (s.newIds batch).length ≤ 2 * batch.length := by
  have hnamed : s.newIds batch ⊆ appIdsOf batch := fun id hid => by
    rw [newIds_eq, List.mem_eraseDups] at hid
    exact List.mem_of_mem_filter hid
  have hdistinct : (s.newIds batch).Nodup := newIds_eq s batch ▸ nodup_eraseDups _
  have hlength : (appIdsOf batch).length = 2 * batch.length := by
    simp [appIdsOf, Policy.appIds, List.length_flatMap, Nat.mul_comm]
  exact hlength ▸ (hdistinct.subperm hnamed).length_le

lemma fitsWords_of_length_lt (hgiven : s.tags.length ≤ s.width.capacity)
    (hbatch : batch.length < 2 ^ 62) : s.FitsWords batch := by
  have hwanted := s.length_newIds_le batch
  have hcapacity := s.width.capacity_lt
  have hgivenWord : (UInt64.ofNat s.tags.length).toNat = s.tags.length :=
    UInt64.toNat_ofNat_of_lt' (show _ < 2 ^ 64 by omega)
  have hwantedWord : (UInt64.ofNat (s.newIds batch).length).toNat = (s.newIds batch).length :=
    UInt64.toNat_ofNat_of_lt' (show _ < 2 ^ 64 by omega)
  have hsum : (UInt64.ofNat s.tags.length + UInt64.ofNat (s.newIds batch).length).toNat
      = s.tags.length + (s.newIds batch).length := by
    rw [UInt64.toNat_add, hgivenWord, hwantedWord, Nat.mod_eq_of_lt (by omega)]
  refine ⟨?_, s.width.toNat_power, s.width.toNat_capacityWord, hgivenWord, hwantedWord, hsum, ?_⟩
  · have hbytes := s.width.le_four
    omega
  · rw [UInt64.le_iff_toNat_le, hsum, s.width.toNat_capacityWord, hasRoomFor_iff, length_tags]

/-! ## Main statement -/

/-- **Tags are their positions, in digits of one count.**  In every reachable store with tags of `n`
bytes, the tag at position `i`, counted from zero, is a text of `2 * n` lower-case hexadecimal
digits that spells `i + 1`.  So none of the tags is zero, no two are alike, and they are ordered as
they were given away.  One of them is all `f` exactly if it is the last: every store can come to
give it away, and from then on its tags do not change.  The test for room does not leave the words
of 64 bits, for any batch that fits into a memory with addresses of 64 bits: a policy takes more
than two bytes, so it has fewer than `2 ^ 62` of them. -/
theorem Reachable.tag_texts (hs : s.Reachable) :
    (∀ (i : ℕ) (h : i < s.tags.length),
      s.tags[i].tag.toList.length = 2 * s.width.bytes ∧
      (∀ c ∈ s.tags[i].tag.toList, c ∈ Hex.lowerDigits) ∧
      Hex.number s.tags[i].tag.toList = i + 1) ∧
    (∀ tag ∈ s.tags.map Tag.tag, Hex.number tag.toList ≠ 0) ∧
    (s.tags.map Tag.tag).Nodup ∧
    (∀ (i j : ℕ) (hi : i < s.tags.length) (hj : j < s.tags.length),
      s.tags[i].tag < s.tags[j].tag ↔ i < j) ∧
    (∀ (i : ℕ) (h : i < s.tags.length),
      s.tags[i].tag = s.width.lastText ↔ i + 1 = 256 ^ s.width.bytes - 1) ∧
    (∃ batch, (s.perform (.create batch)).2.tags.getLast?.map Tag.tag = some s.width.lastText) ∧
    (s.width.lastText ∈ s.tags.map Tag.tag → ∀ ops, (s.after ops).tags = s.tags) ∧
    ∀ batch : List Policy, batch.length < 2 ^ 62 → s.FitsWords batch := by
  have hnumber : ∀ i < s.tags.length, i + 1 ≤ s.width.capacity :=
    fun i hi => Nat.le_trans hi hs.length_tags_le
  have hspells : ∀ (i : ℕ) (h : i < s.tags.length), Hex.number s.tags[i].tag.toList = i + 1 := by
    intro i hi
    rw [getElem_tags, TagWidth.format, String.toList_ofList, Hex.number_fixed]
  have hordered : ∀ (i j : ℕ) (hi : i < s.tags.length) (hj : j < s.tags.length),
      s.tags[i].tag < s.tags[j].tag ↔ i < j := by
    intro i j hi hj
    rw [getElem_tags, getElem_tags, TagWidth.format_lt_format_iff (hnumber i hi) (hnumber j hj),
      Nat.succ_lt_succ_iff]
  have hlast : ∀ (i : ℕ) (h : i < s.tags.length),
      s.tags[i].tag = s.width.lastText ↔ i + 1 = 256 ^ s.width.bytes - 1 := by
    intro i hi
    rw [getElem_tags, ← TagWidth.format_capacity, ← TagWidth.capacity_eq]
    exact ⟨s.width.format_injective, congrArg s.width.format⟩
  refine ⟨fun i hi => ⟨?_, fun c hc => ?_, hspells i hi⟩, ?_, ?_, hordered, hlast, ?_, ?_,
    fun batch hbatch => fitsWords_of_length_lt hs.length_tags_le hbatch⟩
  · rw [getElem_tags, TagWidth.toList_format (hnumber i hi), Hex.length_lastDigits]
  · rw [getElem_tags, TagWidth.toList_format (hnumber i hi)] at hc
    exact Hex.mem_lowerDigits_of_mem hc
  · intro tag htag
    obtain ⟨i, hi, rfl⟩ := List.getElem_of_mem htag
    rw [List.length_map] at hi
    rw [List.getElem_map, hspells i hi]
    exact Nat.succ_ne_zero i
  · refine List.pairwise_iff_getElem.mpr fun i j hi hj hij hsame => ?_
    rw [List.getElem_map, List.getElem_map] at hsame
    rw [List.length_map] at hi hj
    have hlt := (hordered i j hi hj).mpr hij
    rw [hsame] at hlt
    exact String.lt_irrefl _ hlt
  · obtain ⟨batch, hfull⟩ := hs.exists_filling
    have hwidth := (extends_perform s (.create batch)).width
    refine ⟨batch, ?_⟩
    rw [getLast?_tags_of_full (hwidth ▸ hfull), hwidth]
  · intro hmem
    obtain ⟨i, hi, htag⟩ := List.getElem_of_mem hmem
    rw [List.length_map] at hi
    rw [List.getElem_map, hlast i hi, ← TagWidth.capacity_eq] at htag
    exact hs.tags_after_of_full (Nat.le_antisymm hs.length_tags_le (htag ▸ hi))

/-- When all tags of one byte have been given away, the last of them is `ff`, the tenth has the
value ten, and no creation changes them any more. -/
theorem tag_texts_filledStore : ∃ width : TagWidth, width.bytes = 1 ∧
    (filledStore width 255).Reachable ∧
    (filledStore width 255).tags[254]?.map Tag.tag = some "ff" ∧
    (filledStore width 255).tags[9]?.map (fun tag => Hex.number tag.tag.toList) = some 10 ∧
    ((filledStore width 255).after [.create (selfConnections 256)]).tags
      = (filledStore width 255).tags ∧
    (selfConnections 256).length < 2 ^ 62 ∧
    (filledStore width 255).FitsWords (selfConnections 256) := by
  obtain ⟨width, hbytes⟩ : ∃ width : TagWidth, width.bytes = 1 := ⟨⟨1, by decide, by decide⟩, rfl⟩
  have hreached := reachable_filledStore width 255
  have hfits : 255 ≤ 256 ^ width.bytes - 1 := by rw [hbytes]; decide
  have hlength : (filledStore width 255).tags.length = 255 := by
    rw [length_tags, filledStore_eq hfits, tagged_add, List.length_append,
      ← card_involved (Reachable.new width).distinct.tagged, card_involved_new]
  have hlastIndex : 254 < (filledStore width 255).tags.length := by omega
  have htenthIndex : 9 < (filledStore width 255).tags.length := by omega
  obtain ⟨hdigits, -, -, -, hlast, -, hdone, hwords⟩ := hreached.tag_texts
  have htext : (filledStore width 255).width.lastText = "ff" := by
    rw [width_filledStore hfits, TagWidth.lastText, hbytes]
    rfl
  have hff : (filledStore width 255).tags[254].tag = "ff" := by
    rw [← htext, hlast 254 hlastIndex, width_filledStore hfits, hbytes]
    rfl
  have hbatch : (selfConnections 256).length < 2 ^ 62 := by
    rw [selfConnections, List.length_map, List.length_range]
    decide
  refine ⟨width, hbytes, hreached, ?_, ?_, hdone ?_ _, hbatch, hwords _ hbatch⟩
  · rw [List.getElem?_eq_getElem hlastIndex, Option.map_some, hff]
  · rw [List.getElem?_eq_getElem htenthIndex, Option.map_some, (hdigits 9 htenthIndex).2.2]
  · rw [htext, ← hff]
    exact List.mem_map_of_mem (List.getElem_mem _)

end Store

end NetworkPolicy
