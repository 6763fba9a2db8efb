import Mathlib.Tactic.Common
import NetworkPolicy.Proofs.Store.TagLookup

/-!
# What a store holds, read off its history

A store keeps its policies and its tags in arrays and decides by hash indexes what is already there.
Seen from outside, none of that matters: the history of a store is the list of the changes that
were made to it, and everything that can be read from the store is a function of that list.

**Changes.**  `Store.change` applies one, `Store.replay` several.

**Histories.**  `Store.after` performs operations of any kind, and `Store.history` notes the changes
among them: creations that were answered with success, and deletions.

**The plain model.**  Policies are `Change.applyTo` a list, change by change; tagged apps are the
first occurrences among the apps that were named.  `contents_eq_history` says that this is what
the store shows at every moment.
-/

namespace NetworkPolicy

namespace Store

/-! ## Changes -/

/-- A change of a store. -/
inductive Change where
  | create (batch : List Policy)
  | delete (batch : List Policy)

/-- The store after a change. -/
def change (s : Store) : Change → Except StoreError Store
  | .create batch => s.create batch
  | .delete batch => .ok (s.delete batch)

/-- The operation that makes a change. -/
def Change.operation : Change → Operation
  | .create batch => .create batch
  | .delete batch => .delete batch

/-- The store after some changes, if none of them fails. -/
def replay (s : Store) (changes : List Change) : Except StoreError Store := changes.foldlM change s

/-! ## Histories -/

/-- The change that an operation has made, by its answer.  A creation that fails has made none, and
neither has an operation that only reads. -/
def Operation.made : (op : Operation) → op.Answer → Option Change
  | .create batch, answer =>
    match (answer : Except StoreError Unit) with
    | .ok () => some (.create batch)
    | .error _ => none
  | .delete batch, _ => some (.delete batch)
  | .all, _ | .byGuids _, _ | .tags, _ => none

/-- The store after some operations. -/
def after (s : Store) (ops : List Operation) : Store := ops.foldl (fun s op => (s.perform op).2) s

/-- The changes that some operations make, in order. -/
def history : Store → List Operation → List Change
  | _, [] => []
  | s, op :: ops => (op.made (s.perform op).1).toList ++ (s.perform op).2.history ops

lemma after_concat (s : Store) (ops : List Operation) (op : Operation) :
    s.after (ops ++ [op]) = ((s.after ops).perform op).2 := by
  rw [after, List.foldl_append]
  rfl

lemma history_concat (ops : List Operation) (op : Operation) : ∀ s : Store,
    s.history (ops ++ [op]) = s.history ops ++ (op.made ((s.after ops).perform op).1).toList := by
  induction ops with
  | nil =>
      intro s
      rw [List.nil_append, history, history, history, List.append_nil, List.nil_append]
      rfl
  | cons first ops ih =>
      intro s
      rw [List.cons_append, history, ih, history, List.append_assoc]
      rfl

/-! ## The plain model -/

/-- The apps that a change asks to be tagged, in order and with repetitions. -/
def Change.appIds : Change → List String
  | .create batch => appIdsOf batch
  | .delete _ => []

/-- What a change makes of a list of policies: a creation appends the policies of its batch that are
not in the list, in the order of their first occurrences, and a deletion takes those of its batch
out. -/
def Change.applyTo (policies : List Policy) : Change → List Policy
  | .create batch => policies ++ (batch.filter (· ∉ policies)).eraseDups
  | .delete batch => policies.filter (· ∉ batch)

/-- The apps that changes ask to be tagged, each once, in the order of their first occurrences. -/
def appsNamed (changes : List Change) : List String := (changes.flatMap Change.appIds).eraseDups

/-- The policies that changes leave behind. -/
def policiesLeft (changes : List Change) : List Policy := changes.foldl Change.applyTo []

lemma policiesLeft_concat (changes : List Change) (c : Change) :
    policiesLeft (changes ++ [c]) = c.applyTo (policiesLeft changes) := by
  rw [policiesLeft, List.foldl_append]
  rfl

lemma appsNamed_append_delete (changes : List Change) (batch : List Policy) :
    appsNamed (changes ++ [.delete batch]) = appsNamed changes := by
  simp only [appsNamed, List.flatMap_append, List.flatMap_cons, List.flatMap_nil, Change.appIds,
    List.append_nil]

/-- The apps of one more batch come after those named before, as far as they are new. -/
lemma appsNamed_append_create (changes : List Change) (batch : List Policy) :
    appsNamed (changes ++ [.create batch])
      = appsNamed changes ++ ((appIdsOf batch).filter (· ∉ appsNamed changes)).eraseDups := by
  have hnew : (appIdsOf batch).removeAll (changes.flatMap Change.appIds)
      = (appIdsOf batch).filter (· ∉ appsNamed changes) := by
    unfold List.removeAll
    refine List.filter_congr fun id _ => ?_
    rw [appsNamed, Bool.eq_iff_iff, Bool.not_eq_true', decide_eq_true_eq, List.mem_eraseDups,
      ← Bool.not_eq_true, List.elem_iff]
  rw [appsNamed, List.flatMap_append, List.eraseDups_append, List.flatMap_cons, List.flatMap_nil,
    List.append_nil, Change.appIds, hnew]
  rfl

/-! ## The store and the model -/

/-- The store shows what the plain model makes of some changes. -/
structure Shows (s : Store) (changes : List Change) : Prop where
  tagged : s.tagged = appsNamed changes
  all : s.all = policiesLeft changes

/-- Whatever an operation does to the store, the change that it makes does to the model. -/
lemma Shows.perform {s : Store} {changes : List Change} (h : s.Shows changes) (op : Operation) :
    (s.perform op).2.Shows (changes ++ (op.made (s.perform op).1).toList) := by
  cases op with
  | create batch =>
      cases hroom : s.hasRoomFor batch with
      | true =>
          rw [perform_create_of_room hroom]
          show (s.add batch).Shows (changes ++ [.create batch])
          constructor
          · rw [tagged_add, newIds_eq, h.tagged, appsNamed_append_create]
          · rw [all_add, h.all, policiesLeft_concat]
            rfl
      | false =>
          rw [perform_create_of_full hroom]
          show s.Shows (changes ++ [])
          rw [List.append_nil]
          exact h
  | delete batch =>
      show (s.delete batch).Shows (changes ++ [.delete batch])
      constructor
      · rw [tagged_delete, h.tagged, appsNamed_append_delete]
      · rw [all_delete, h.all, policiesLeft_concat]
        rfl
  | all | byGuids guids | tags =>
      show s.Shows (changes ++ [])
      rw [List.append_nil]
      exact h

lemma shows_history (width : TagWidth) (ops : List Operation) :
    ((new width).after ops).Shows ((new width).history ops) := by
  induction ops using List.reverseRecOn with
  | nil => exact ⟨tagged_new width, rfl⟩
  | append_singleton ops op ih =>
      rw [after_concat, history_concat]
      exact ih.perform op

lemma width_after (width : TagWidth) (ops : List Operation) :
    ((new width).after ops).width = width := by
  induction ops using List.reverseRecOn with
  | nil => rfl
  | append_singleton ops op ih =>
      rw [after_concat]
      exact (extends_perform _ op).width.trans ih

/-- There is room for a batch as long as the apps named so far and those of the batch, each counted
once, are no more than there are tags. -/
lemma Shows.hasRoomFor_iff {s : Store} {changes : List Change} (h : s.Shows changes)
    (batch : List Policy) :
    s.hasRoomFor batch = true
      ↔ (appsNamed (changes ++ [.create batch])).length ≤ s.width.capacity := by
  rw [Store.hasRoomFor_iff, newIds_eq, h.tagged, appsNamed_append_create, List.length_append]

/-- **A store is its history.**  Whatever operations are performed on an empty store, the tagged
apps are the first occurrences among the apps of the batches that were created, in order, each
policy's source before its destination, and the app at position `i` has the tag of `i + 1`.  The
policies are those that the changes leave of an empty list, and a selection by apps picks from
them those whose source or destination is asked for.  The indexes by which all this is decided are
in step with it: the one holds these policies, the other one the places of these apps.  The next
creation succeeds exactly when there are tags enough for all the apps named by then. -/
theorem contents_eq_history (width : TagWidth) (ops : List Operation) :
    ((new width).after ops).tags
      = (appsNamed ((new width).history ops)).mapIdx (fun i id => ⟨id, width.format (i + 1)⟩) ∧
    ((new width).after ops).all = policiesLeft ((new width).history ops) ∧
    (∀ guids : List String, ((new width).after ops).byGuids guids
      = (policiesLeft ((new width).history ops)).filter
          fun p => p.source ∈ guids ∨ p.destination.id ∈ guids) ∧
    (∀ p : Policy, p ∈ ((new width).after ops).policyIndex
      ↔ p ∈ policiesLeft ((new width).history ops)) ∧
    (∀ id : String, ((new width).after ops).positions[id]?
      = (appsNamed ((new width).history ops)).idxOf? id) ∧
    ∀ batch : List Policy, (((new width).after ops).perform (.create batch)).1 = Except.ok ()
      ↔ (appsNamed ((new width).history ops ++ [.create batch])).length ≤ width.capacity := by
  have hshows := shows_history width ops
  refine ⟨?_, hshows.all, fun guids => ?_, fun p => ?_, fun id => ?_, fun batch => ?_⟩
  · rw [tags_eq_mapIdx, hshows.tagged, width_after]
  · rw [byGuids, hshows.all]
    refine List.filter_congr fun p _ => ?_
    simp [Policy.appIds]
  · rw [mem_policyIndex, ← Array.mem_toList_iff, ← all, hshows.all]
  · have htagged : ((new width).after ops).tagged.Nodup := by
      rw [hshows.tagged]
      exact nodup_eraseDups _
    rw [getElem?_positions htagged, hshows.tagged]
  · have hroom := hshows.hasRoomFor_iff batch
    rw [width_after] at hroom
    rw [← hroom]
    cases h : ((new width).after ops).hasRoomFor batch with
    | true =>
        rw [perform_create_of_room h]
        exact iff_of_true rfl rfl
    | false =>
        rw [perform_create_of_full h]
        refine iff_of_false (fun hcreated => ?_) Bool.false_ne_true
        cases hcreated

end Store

end NetworkPolicy
