import Mathlib.Data.List.Basic
import Mathlib.Data.List.Infix
import Mathlib.Tactic.Common
import NetworkPolicy.Proofs.FirstOccurrences
import NetworkPolicy.Store

/-!
# What a store holds

A store is known by three things: the width of its tags, the list of its policies (`Store.all`) and
the list of the apps that have tags (`Store.tagged`).  Every operation is described by what it does
to these, and nothing outside this file looks at the arrays and the hash indexes behind them.

**Indexes.**  A store decides by its indexes.  `policyIndex_contains` and `positions_contains` say
that they hold what the lists hold, so each step can be followed on the lists: a policy that is put
in or taken out (`all_addPolicy`, `all_removePolicy`), and an app that is noted to need a tag
(`tagged_append_newIds`).

**Contents.**  By induction over the batch, `all_add` and `tagged_add` say what creating it appends,
and `all_delete` what deleting it leaves.

**Growth.**  Tags are never taken away or changed, and no app is given a second one: `Extends`
relates a store to those that come after it.

**Reachable stores.**  Both apps of a stored policy have tags (`Reachable.allTagged`), and neither a
policy nor a tagged app is there twice (`Reachable.distinct`).
-/

namespace NetworkPolicy

lemma mem_positionsOf (keys : List String) (key : String) :
    key ∈ positionsOf keys ↔ key ∈ keys := by
  rw [positionsOf, Std.ExtHashMap.mem_ofList, List.zipIdx_map_fst, List.contains_iff_mem]

@[simp] lemma Policy.source_mem_appIds (p : Policy) : p.source ∈ p.appIds := List.mem_cons_self

@[simp] lemma Policy.destination_mem_appIds (p : Policy) : p.destination.id ∈ p.appIds :=
  List.mem_cons_of_mem _ List.mem_cons_self

namespace Store

variable (s : Store) (batch : List Policy)

/-! ## Contents -/

/-- The apps that have tags, in the order of their tags. -/
def tagged : List String := s.ids.toList

lemma map_id_tags : s.tags.map Tag.id = s.tagged := by
  rw [tagged, ids, Array.toList_map, tags]

lemma length_tags : s.tags.length = s.tagged.length := by
  rw [← map_id_tags, List.length_map]

/-- The texts that were made when the tags were given away are those of their places. -/
lemma tags_eq_mapIdx : s.tags = s.tagged.mapIdx fun i id => ⟨id, s.width.format (i + 1)⟩ := by
  rw [← map_id_tags]
  refine List.ext_getElem ?_ fun i hi _ => ?_
  · rw [List.length_mapIdx, List.length_map]
  · have htext : s.tags[i].tag = s.width.format (i + 1) := s.tag_eq i (Array.length_toList ▸ hi)
    rw [List.getElem_mapIdx, List.getElem_map, ← htext]

/-! ### Indexes -/

@[simp] lemma policyIndex_contains (p : Policy) :
    s.policyIndex.contains p = decide (p ∈ s.all) := by
  rw [Bool.eq_iff_iff, Std.ExtHashMap.contains_iff_mem, s.mem_policyIndex, decide_eq_true_eq, all,
    Array.mem_toList_iff]

@[simp] lemma positions_contains (id : String) :
    s.positions.contains id = decide (id ∈ s.tagged) := by
  rw [Bool.eq_iff_iff, Std.ExtHashMap.contains_iff_mem, s.positions_eq, mem_positionsOf,
    decide_eq_true_eq, ← map_id_tags, tags]

@[simp] lemma all_new (width : TagWidth) : (new width).all = [] := rfl

@[simp] lemma tagged_new (width : TagWidth) : (new width).tagged = [] :=
  (map_id_tags (new width)).symm

@[simp] lemma width_new (width : TagWidth) : (new width).width = width := rfl

/-- What no step of a loop changes is as it was when the loop has ended. -/
lemma foldl_keeps {α β : Type} {view : Store → β} {step : Store → α → Store}
    (hstep : ∀ s a, view (step s a) = view s) (l : List α) :
    ∀ s : Store, view (l.foldl step s) = view s := by
  induction l with
  | nil => exact fun _ => rfl
  | cons a l ih =>
      intro s
      rw [List.foldl_cons, ih, hstep]

/-! ### Tags -/

@[simp] lemma all_allocate (id : String) : (s.allocate id).all = s.all := rfl

@[simp] lemma tagged_allocate (id : String) : (s.allocate id).tagged = s.tagged ++ [id] := by
  have htags : (s.allocate id).tags = s.tags ++ [⟨id, s.width.format (s.allocated.size + 1)⟩] :=
    Array.toList_push
  rw [← map_id_tags, htags, List.map_append, map_id_tags, List.map_singleton]

@[simp] lemma width_allocate (id : String) : (s.allocate id).width = s.width := rfl

lemma tagged_foldl_allocate (ids : List String) :
    ∀ s : Store, (ids.foldl allocate s).tagged = s.tagged ++ ids := by
  induction ids with
  | nil => simp
  | cons id ids ih =>
      intro s
      rw [List.foldl_cons, ih, tagged_allocate, List.append_assoc, List.singleton_append]

/-! ### Policies -/

lemma all_addPolicy (p : Policy) :
    (s.addPolicy p).all = if p ∈ s.all then s.all else s.all ++ [p] := by
  by_cases h : p ∈ s.all
  · rw [addPolicy, policyIndex_contains, decide_eq_true h, if_pos rfl, if_pos h]
  · rw [addPolicy, policyIndex_contains, decide_eq_false h, if_neg Bool.false_ne_true, if_neg h]
    exact Array.toList_push

@[simp] lemma tagged_addPolicy (p : Policy) : (s.addPolicy p).tagged = s.tagged := by
  unfold addPolicy
  split
  · rfl
  · rfl

@[simp] lemma width_addPolicy (p : Policy) : (s.addPolicy p).width = s.width := by
  unfold addPolicy
  split
  · rfl
  · rfl

lemma all_foldl_addPolicy (batch : List Policy) : ∀ s : Store, (batch.foldl addPolicy s).all
    = batch.foldl (fun l p => if p ∈ l then l else l ++ [p]) s.all := by
  induction batch with
  | nil => exact fun _ => rfl
  | cons p batch ih =>
      intro s
      rw [List.foldl_cons, ih, all_addPolicy, List.foldl_cons]

/-- A policy that is taken out leaves the others in their order.  If the index does not hold it, it
is not in the list either. -/
lemma all_removePolicy (p : Policy) : (s.removePolicy p).all = s.all.filter (· ≠ p) := by
  by_cases h : p ∈ s.all
  · rw [removePolicy, policyIndex_contains, decide_eq_true h, if_pos rfl]
    exact Array.toList_filter
  · rw [removePolicy, policyIndex_contains, decide_eq_false h, if_neg Bool.false_ne_true, eq_comm,
      List.filter_eq_self]
    exact fun q hq => decide_eq_true fun hqp => h (hqp ▸ hq)

@[simp] lemma tagged_removePolicy (p : Policy) : (s.removePolicy p).tagged = s.tagged := by
  unfold removePolicy
  split
  · rfl
  · rfl

@[simp] lemma width_removePolicy (p : Policy) : (s.removePolicy p).width = s.width := by
  unfold removePolicy
  split
  · rfl
  · rfl

lemma all_foldl_removePolicy (batch : List Policy) :
    ∀ s : Store, (batch.foldl removePolicy s).all = s.all.filter (· ∉ batch) := by
  induction batch with
  | nil => simp
  | cons p batch ih =>
      intro s
      rw [List.foldl_cons, ih, all_removePolicy, List.filter_filter]
      refine List.filter_congr fun q _ => ?_
      rw [Bool.eq_iff_iff, Bool.and_eq_true, decide_eq_true_eq, decide_eq_true_eq,
        decide_eq_true_eq, List.mem_cons, not_or, and_comm]

/-! ### Batches -/

/-- The apps that have tags and those that are found to need one form one list, which an app is put
behind unless it is in it. -/
lemma tagged_append_newIds :
    s.tagged ++ s.newIds batch
      = (appIdsOf batch).foldl (fun l id => if id ∈ l then l else l ++ [id]) s.tagged := by
  suffices h : ∀ ids found : List String,
      s.tagged ++ ids.foldl (fun found id =>
          if s.positions.contains id || found.contains id then found else found ++ [id]) found
        = ids.foldl (fun l id => if id ∈ l then l else l ++ [id]) (s.tagged ++ found) by
    have hnone := h (appIdsOf batch) []
    rwa [List.append_nil] at hnone
  intro ids
  induction ids with
  | nil => exact fun _ => rfl
  | cons id ids ih =>
      intro found
      have hknown : (s.positions.contains id || found.contains id) = true
          ↔ id ∈ s.tagged ++ found := by
        rw [positions_contains, Bool.or_eq_true, decide_eq_true_eq, List.contains_iff_mem,
          List.mem_append]
      rw [List.foldl_cons, List.foldl_cons, ih]
      by_cases h : id ∈ s.tagged ++ found
      · rw [if_pos h, if_pos (hknown.mpr h)]
      · rw [if_neg h, if_neg (mt hknown.mp h), List.append_assoc]

/-- What is found to need a tag are the first occurrences of the apps that have none. -/
lemma newIds_eq : s.newIds batch = ((appIdsOf batch).filter (· ∉ s.tagged)).eraseDups := by
  have h := s.tagged_append_newIds batch
  rw [foldl_insert_eq_append] at h
  exact List.append_cancel_left h

/-- Creating a batch appends the policies that were not stored, each once. -/
lemma all_add : (s.add batch).all = s.all ++ (batch.filter (· ∉ s.all)).eraseDups := by
  rw [add, all_foldl_addPolicy, foldl_keeps all_allocate, foldl_insert_eq_append]

/-- Creating a batch gives tags to the apps that had none. -/
lemma tagged_add : (s.add batch).tagged = s.tagged ++ s.newIds batch := by
  rw [add, foldl_keeps tagged_addPolicy, tagged_foldl_allocate]

@[simp] lemma width_add : (s.add batch).width = s.width := by
  rw [add, foldl_keeps width_addPolicy, foldl_keeps width_allocate]

@[simp] lemma mem_all_add (p : Policy) : p ∈ (s.add batch).all ↔ p ∈ s.all ∨ p ∈ batch := by
  rw [all_add, List.mem_append, List.mem_eraseDups, List.mem_filter, decide_eq_true_eq]
  tauto

@[simp] lemma mem_tagged_add (id : String) :
    id ∈ (s.add batch).tagged ↔ id ∈ s.tagged ∨ id ∈ appIdsOf batch := by
  rw [tagged_add, newIds_eq, List.mem_append, List.mem_eraseDups, List.mem_filter,
    decide_eq_true_eq]
  tauto

lemma mem_tagged_add_of_mem {p : Policy} (hp : p ∈ batch) {id : String} (hid : id ∈ p.appIds) :
    id ∈ (s.add batch).tagged :=
  (mem_tagged_add ..).mpr (.inr (List.mem_flatMap.mpr ⟨p, hp, hid⟩))

/-- Deleting a batch keeps the other policies in their order. -/
lemma all_delete : (s.delete batch).all = s.all.filter (· ∉ batch) :=
  all_foldl_removePolicy batch s

@[simp] lemma tagged_delete : (s.delete batch).tagged = s.tagged :=
  foldl_keeps tagged_removePolicy batch s

@[simp] lemma width_delete : (s.delete batch).width = s.width :=
  foldl_keeps width_removePolicy batch s

/-- A deletion leaves the tags. -/
@[simp] lemma tags_delete : (s.delete batch).tags = s.tags := by
  rw [tags_eq_mapIdx, tags_eq_mapIdx, tagged_delete, width_delete]

@[simp] lemma mem_all_delete (p : Policy) :
    p ∈ (s.delete batch).all ↔ p ∈ s.all ∧ p ∉ batch := by
  rw [all_delete, List.mem_filter, decide_eq_true_eq]

/-! ## Operations -/

lemma create_eq_ok_iff {s s' : Store} {batch : List Policy} :
    s.create batch = .ok s' ↔ s.hasRoomFor batch = true ∧ s.add batch = s' := by
  unfold create
  split
  case isTrue h => simp [h]
  case isFalse h => simp [h]

lemma hasRoomFor_iff {s : Store} {batch : List Policy} : s.hasRoomFor batch = true
    ↔ s.tagged.length + (s.newIds batch).length ≤ s.width.capacity := by
  rw [hasRoomFor, decide_eq_true_eq, ← length_tags]
  rfl

lemma perform_create_of_room {s : Store} {batch : List Policy} (h : s.hasRoomFor batch = true) :
    s.perform (.create batch) = (Except.ok (), s.add batch) := by
  rw [perform, create, if_pos h]
  rfl

lemma perform_create_of_full {s : Store} {batch : List Policy} (h : s.hasRoomFor batch = false) :
    s.perform (.create batch) = (Except.error (.tagsExhausted s.width.capacity), s) := by
  rw [perform, create, if_neg (Bool.eq_false_iff.mp h)]
  rfl

/-- All that an operation can do to a store. -/
lemma perform_cases (s : Store) (op : Operation) :
    (∃ batch, op = .create batch ∧ s.hasRoomFor batch = true ∧ (s.perform op).2 = s.add batch) ∨
      (∃ batch, op = .delete batch ∧ (s.perform op).2 = s.delete batch) ∨
      (s.perform op).2 = s := by
  cases op with
  | create batch =>
      cases h : s.hasRoomFor batch with
      | true => exact .inl ⟨batch, rfl, h, congrArg Prod.snd (perform_create_of_room h)⟩
      | false => exact .inr (.inr (congrArg Prod.snd (perform_create_of_full h)))
  | delete batch => exact .inr (.inl ⟨batch, rfl, rfl⟩)
  | all => exact .inr (.inr rfl)
  | byGuids guids => exact .inr (.inr rfl)
  | tags => exact .inr (.inr rfl)

/-! ## Growth -/

/-- `t` has the tags of `s`, and behind them perhaps more of the same width, for other apps. -/
structure Extends (s t : Store) : Prop where
  width : t.width = s.width
  grown : ∃ more, t.tagged = s.tagged ++ more ∧ ∀ id ∈ more, id ∉ s.tagged

variable {s} {t u : Store}

lemma Extends.tagged (h : s.Extends t) : s.tagged <+: t.tagged := by
  obtain ⟨more, hmore, -⟩ := h.grown
  exact ⟨more, hmore.symm⟩

lemma Extends.of_eq (hwidth : t.width = s.width) (htagged : t.tagged = s.tagged) : s.Extends t :=
  ⟨hwidth, [], by rw [htagged, List.append_nil], nofun⟩

lemma Extends.refl (s : Store) : s.Extends s := .of_eq rfl rfl

lemma Extends.trans (hst : s.Extends t) (htu : t.Extends u) : s.Extends u := by
  obtain ⟨more, htagged, hnew⟩ := hst.grown
  obtain ⟨more', htagged', hnew'⟩ := htu.grown
  refine ⟨htu.width.trans hst.width, more ++ more', ?_, fun id hid => ?_⟩
  · rw [htagged', htagged, List.append_assoc]
  · rcases List.mem_append.mp hid with hid | hid
    · exact hnew id hid
    · exact fun h => hnew' id hid (hst.tagged.mem h)

/-- No operation takes a tag away or gives an app a second one. -/
lemma extends_perform (s : Store) (op : Operation) : s.Extends (s.perform op).2 := by
  rcases s.perform_cases op with ⟨batch, -, -, h⟩ | ⟨batch, -, h⟩ | h
  · rw [h]
    refine ⟨width_add s batch, s.newIds batch, tagged_add s batch, fun id hid => ?_⟩
    rw [newIds_eq, List.mem_eraseDups, List.mem_filter, decide_eq_true_eq] at hid
    exact hid.2
  · rw [h]
    exact .of_eq (width_delete s batch) (tagged_delete s batch)
  · rw [h]
    exact .refl s

/-! ## Reachable stores -/

/-- The stores that operations lead to from an empty one. -/
inductive Reachable : Store → Prop where
  | new (width : TagWidth) : Reachable (.new width)
  | perform {s : Store} (op : Operation) (hs : Reachable s) : Reachable (s.perform op).2

/-- Both apps of every stored policy have tags. -/
def AllTagged (s : Store) : Prop := ∀ p ∈ s.all, ∀ id ∈ p.appIds, id ∈ s.tagged

lemma AllTagged.perform (hs : s.AllTagged) (op : Operation) : (s.perform op).2.AllTagged := by
  rcases s.perform_cases op with ⟨batch, -, -, h⟩ | ⟨batch, -, h⟩ | h
  · rw [h]
    intro p hp id hid
    rcases (mem_all_add ..).mp hp with hp | hp
    · exact (mem_tagged_add ..).mpr (.inl (hs p hp id hid))
    · exact mem_tagged_add_of_mem s batch hp hid
  · rw [h]
    intro p hp id hid
    rw [tagged_delete]
    exact hs p ((mem_all_delete ..).mp hp).1 id hid
  · rw [h]
    exact hs

lemma Reachable.allTagged (hs : s.Reachable) : s.AllTagged := by
  induction hs with
  | new width =>
      intro p hp
      cases hp
  | perform op _ ih => exact ih.perform op

/-- No policy is stored twice, and no app is tagged twice. -/
structure Distinct (s : Store) : Prop where
  all : s.all.Nodup
  tagged : s.tagged.Nodup

lemma Distinct.perform (hs : s.Distinct) (op : Operation) : (s.perform op).2.Distinct := by
  rcases s.perform_cases op with ⟨batch, -, -, h⟩ | ⟨batch, -, h⟩ | h
  · rw [h]
    constructor
    · rw [all_add]
      exact nodup_append_new hs.all batch
    · rw [tagged_add, newIds_eq]
      exact nodup_append_new hs.tagged (appIdsOf batch)
  · rw [h]
    constructor
    · rw [all_delete]
      exact hs.all.filter _
    · rw [tagged_delete]
      exact hs.tagged
  · rw [h]
    exact hs

lemma Reachable.distinct (hs : s.Reachable) : s.Distinct := by
  induction hs with
  | new width => exact ⟨List.nodup_nil, (tagged_new width).symm ▸ List.nodup_nil⟩
  | perform op _ ih => exact ih.perform op

end Store

end NetworkPolicy
