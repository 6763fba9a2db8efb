import NetworkPolicy.Policy
import NetworkPolicy.Text.Hex
import Std.Data.ExtHashMap

/-!
# The policy store

Policies in the order of their arrival, none of them twice, and the apps that have been given a
tag.  The tag of an app is its number, counted from one in the order in which the apps were first
named, in hexadecimal digits of a fixed width; the width bounds how many apps can have one.

There is a hash index beside the list of the policies and another one beside the list of the tags.
What is already there is decided by the indexes alone; that they are in step with the lists is part
of what a store is.

* `TagWidth` — how many bytes a tag has, from one to four.
* `Store` — the state, with what ties its indexes to its lists.
* `Store.create`, `Store.delete`, `Store.all`, `Store.byGuids`, `Store.tags` — the operations.
* `Store.Operation` — the same as data, with `Store.perform`.
-/

namespace NetworkPolicy

/-! ## Tags -/

/-- The width of tags in bytes. -/
structure TagWidth where
  bytes : Nat
  pos : 1 ≤ bytes := by omega
  le_four : bytes ≤ 4 := by omega
  deriving DecidableEq, Repr

namespace TagWidth

/-- The width of `n` bytes, if tags may be that wide. -/
def ofNat? (n : Nat) : Option TagWidth :=
  if h : 1 ≤ n ∧ n ≤ 4 then some ⟨n, h.1, h.2⟩ else none

/-- How many tags there are.  Zero is none of them. -/
def capacity (w : TagWidth) : Nat := 1 <<< (8 * w.bytes) - 1

/-- The text of the tag with the given number. -/
def format (w : TagWidth) (n : Nat) : String := String.ofList (Hex.fixed (2 * w.bytes) n)

end TagWidth

/-- An app and its tag. -/
structure Tag where
  id : String
  tag : String
  deriving DecidableEq, Repr

/-- Why policies cannot be stored. -/
inductive StoreError where
  /-- Every one of the `capacity` tags has been given away. -/
  | tagsExhausted (capacity : Nat)
  deriving DecidableEq, Repr

def StoreError.message : StoreError → String
  | .tagsExhausted capacity => s!"all {capacity} tags are allocated"

/-! ## The state -/

/-- Keys are told apart by their texts; no order of texts is needed for that. -/
instance equivBEqString : EquivBEq String := instEquivBEqOfLawfulBEq

/-- Where each of some keys stands in their list.  Of several places it is the last. -/
def positionsOf (keys : List String) : Std.ExtHashMap String Nat := .ofList keys.zipIdx

theorem positionsOf_concat (keys : List String) (key : String) :
    positionsOf (keys ++ [key]) = (positionsOf keys).insert key keys.length := by
  simp only [positionsOf, Std.ExtHashMap.ofList_eq_insertMany_empty, List.zipIdx_append,
    List.zipIdx_singleton, Std.ExtHashMap.insertMany_append,
    Std.ExtHashMap.insertMany_list_singleton, Nat.zero_add]

/-- Stored policies and tags that have been given away. -/
structure Store where
  width : TagWidth
  /-- The policies in the order of their arrival. -/
  policies : Array Policy
  /-- The same policies, to be found by their hashes. -/
  policyIndex : Std.ExtHashMap Policy Unit
  /-- The tags in the order in which they were given away. -/
  allocated : Array Tag
  /-- Where the tag of an app is among them. -/
  positions : Std.ExtHashMap String Nat
  mem_policyIndex : ∀ p, p ∈ policyIndex ↔ p ∈ policies
  positions_eq : positions = positionsOf (allocated.toList.map Tag.id)
  tag_eq : ∀ i (h : i < allocated.size), allocated[i].tag = width.format (i + 1)

namespace Store

/-- A store that nothing has been put into. -/
def new (width : TagWidth) : Store where
  width
  policies := #[]
  policyIndex := ∅
  allocated := #[]
  positions := ∅
  mem_policyIndex := by simp
  positions_eq := by simp [positionsOf]
  tag_eq := nofun

/-- The apps in the order of their tags. -/
def ids (s : Store) : Array String := s.allocated.map Tag.id

/-- Gives an app the next tag. -/
def allocate (s : Store) (id : String) : Store :=
  let ⟨width, policies, policyIndex, allocated, positions,
    mem_policyIndex, positions_eq, tag_eq⟩ := s
  { width, policies, policyIndex, mem_policyIndex
    allocated := allocated.push ⟨id, width.format (allocated.size + 1)⟩
    positions := positions.insert id allocated.size
    positions_eq := by
      rw [positions_eq, Array.toList_push, List.map_append, List.map_singleton, positionsOf_concat,
        List.length_map, Array.length_toList]
    tag_eq := by
      intro i h
      rw [Array.getElem_push]
      split
      case isTrue hi => exact tag_eq i hi
      case isFalse hi =>
        rw [Array.size_push] at h
        obtain rfl : i = allocated.size := by omega
        rfl }

/-- Puts a policy at the end, unless it is already stored. -/
def addPolicy (s : Store) (p : Policy) : Store :=
  if s.policyIndex.contains p then s
  else
    let ⟨width, policies, policyIndex, allocated, positions,
      mem_policyIndex, positions_eq, tag_eq⟩ := s
    { width, allocated, positions, positions_eq, tag_eq
      policies := policies.push p
      policyIndex := policyIndex.insert p ()
      mem_policyIndex := by
        intro q
        rw [Std.ExtHashMap.mem_insert, mem_policyIndex, Array.mem_push, beq_iff_eq, eq_comm,
          or_comm] }

/-- Takes a policy out, if it is stored. -/
def removePolicy (s : Store) (p : Policy) : Store :=
  if s.policyIndex.contains p then
    let ⟨width, policies, policyIndex, allocated, positions,
      mem_policyIndex, positions_eq, tag_eq⟩ := s
    { width, allocated, positions, positions_eq, tag_eq
      policies := policies.filter (· ≠ p)
      policyIndex := policyIndex.erase p
      mem_policyIndex := by
        intro q
        rw [Std.ExtHashMap.mem_erase, mem_policyIndex, Array.mem_filter, beq_eq_false_iff_ne,
          decide_eq_true_eq, ne_comm, and_comm] }
  else s

/-- The apps of a batch that have no tag yet, each once, in the order in which they first
appear. -/
def newIds (s : Store) (batch : List Policy) : List String :=
  (appIdsOf batch).foldl (fun found id =>
    if s.positions.contains id || found.contains id then found else found ++ [id]) []

/-! ## Operations -/

/-- Whether there are enough tags for the apps of a batch that have none. -/
def hasRoomFor (s : Store) (batch : List Policy) : Bool :=
  s.allocated.size + (s.newIds batch).length ≤ s.width.capacity

/-- A store with the policies of a batch in it, and with a tag for every app of the batch. -/
def add (s : Store) (batch : List Policy) : Store :=
  batch.foldl addPolicy ((s.newIds batch).foldl allocate s)

/-- Stores a batch and gives a tag to every app of it that has none.  If there are too few tags
left, nothing changes. -/
@[inline] def create (s : Store) (batch : List Policy) : Except StoreError Store :=
  if s.hasRoomFor batch then .ok (s.add batch) else .error (.tagsExhausted s.width.capacity)

/-- Removes the policies of a batch.  Tags are kept. -/
def delete (s : Store) (batch : List Policy) : Store := batch.foldl removePolicy s

def all (s : Store) : List Policy := s.policies.toList

/-- The policies whose source or destination is one of `guids`. -/
def byGuids (s : Store) (guids : List String) : List Policy :=
  s.all.filter fun p => p.appIds.any guids.contains

def tags (s : Store) : List Tag := s.allocated.toList

/-! ## Operations as data -/

/-- An operation on a store. -/
inductive Operation where
  | create (batch : List Policy)
  | delete (batch : List Policy)
  | all
  | byGuids (guids : List String)
  | tags
  deriving DecidableEq, Repr

def Operation.Answer : Operation → Type
  | .create _ => Except StoreError Unit
  | .delete _ => Unit
  | .all => List Policy
  | .byGuids _ => List Policy
  | .tags => List Tag

def perform (s : Store) : (op : Operation) → op.Answer × Store
  | .create batch =>
    match s.create batch with
    | .ok s' => (.ok (), s')
    | .error e => (.error e, s)
  | .delete batch => ((), s.delete batch)
  | .all => (s.all, s)
  | .byGuids guids => (s.byGuids guids, s)
  | .tags => (s.tags, s)

end Store

end NetworkPolicy
