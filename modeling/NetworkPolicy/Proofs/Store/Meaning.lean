import Mathlib.Tactic.Common
import NetworkPolicy.Proofs.Store.Exhaustion
import NetworkPolicy.Proofs.Wire.Spelling

/-!
# Stored policies by their meaning

A store finds a policy again by comparing it as a whole.  That this is enough, and that nothing is
stored twice or missed by a deletion because it was spelled in another way, is due to the
reconciliation: it leaves nothing of the spelling in a policy, so policies that mean the same are
the same.

* `Reachable.unique_by_meaning` — no meaning is stored twice, the apps of each stored policy have
  one tag each, and a policy is found again in whichever spelling it comes.
-/

namespace NetworkPolicy.Store

variable {s : Store}

lemma Distinct.map_meaning (hs : s.Distinct) : (s.all.map Policy.meaning).Nodup :=
  hs.all.map Policy.meaning_injective

@[simp] lemma meaning_mem_map {p : Policy} {policies : List Policy} :
    p.meaning ∈ policies.map Policy.meaning ↔ p ∈ policies :=
  List.mem_map_of_injective Policy.meaning_injective

/-- A policy that is stored still is when it has been created again. -/
lemma mem_all_perform_create {p : Policy} (hp : p ∈ s.all) (batch : List Policy) :
    p ∈ (s.perform (.create batch)).2.all := by
  rcases s.perform_cases (.create batch) with ⟨_, -, -, h⟩ | ⟨_, ⟨⟩, -⟩ | h
  · rw [h]
    exact (mem_all_add ..).mpr (.inl hp)
  · rw [h]
    exact hp

/-- **A store keeps each meaning once and its apps tagged.**  In every reachable store no two
policies have the same apps, protocol, first and last port, and each app of each policy has one tag.
To compare policies with the ports that are shown beside their ranges is to compare what they mean.
Whatever spelling says what a stored policy means, a policy of this meaning is made of it, by
construction as well as from its text.  To create such a policy again, among others or alone, adds
no second entry, and to delete it removes the one there is. -/
theorem Reachable.unique_by_meaning (hs : s.Reachable) :
    (s.all.map Policy.meaning).Nodup ∧
    (∀ p ∈ s.all, ∀ id ∈ p.appIds, (s.tags.map Tag.id).count id = 1) ∧
    (∀ p q : Policy, p.spelling = q.spelling ↔ p.meaning = q.meaning) ∧
    ∀ m ∈ s.all.map Policy.meaning,
      (∀ w : Spelling, w.Says m → ∃ p : Policy, p.meaning = m ∧ w.policy? = .ok p ∧
        Wire.decode Wire.policy (.ofText w.json.render) = .ok p) ∧
      ∀ batch : List Policy, m ∈ batch.map Policy.meaning →
        ((s.perform (.create batch)).2.all.map Policy.meaning).count m = 1 ∧
        m ∉ (s.perform (.delete batch)).2.all.map Policy.meaning := by
  refine ⟨hs.distinct.map_meaning, fun p hp id hid => ?_,
    fun _ _ => Policy.spelling_eq_iff_meaning_eq, fun m hm => ?_⟩
  · rw [map_id_tags]
    exact List.count_eq_one_of_mem hs.distinct.tagged (hs.allTagged p hp id hid)
  · obtain ⟨p, hp, rfl⟩ := List.mem_map.mp hm
    refine ⟨fun w hsays => ?_, fun batch hbatch => ⟨?_, ?_⟩⟩
    · have hmake : w.policy? = .ok p := Spelling.policy?_eq_ok_iff.mpr hsays
      refine ⟨p, rfl, hmake, ?_⟩
      rw [Wire.decode_spelling, hmake]
      rfl
    · have hafter := hs.perform (.create batch)
      exact List.count_eq_one_of_mem hafter.distinct.map_meaning
        (meaning_mem_map.mpr (mem_all_perform_create hp batch))
    · rw [meaning_mem_map] at hbatch ⊢
      exact fun h => ((mem_all_delete ..).mp h).2 hbatch

/-! ## Two spellings -/

/-- A connection to a database, written with its port. -/
def withPort : Spelling := ⟨"web", "db", .tcp, some 5432, none⟩

/-- The same connection, written with a range. -/
def withRange : Spelling := ⟨"web", "db", .tcp, none, some ⟨5432, 5432⟩⟩

/-- The connection. -/
def databaseAccess : Policy :=
  ⟨"web", ⟨"db", .tcp, ⟨5432, 5432, some 5432, by decide, by decide, rfl⟩⟩⟩

/-- A store that holds the connection. -/
def databaseStore : Store := ((new { bytes := 3 }).perform (.create [databaseAccess])).2

lemma all_databaseStore : databaseStore.all = [databaseAccess] := by
  have hroom : (new { bytes := 3 }).hasRoomFor [databaseAccess] = true := by
    rw [hasRoomFor_iff, newIds_new, tagged_new]
    decide
  rw [databaseStore, perform_create_of_room hroom, all_add]
  decide

lemma mem_databaseStore : databaseAccess ∈ databaseStore.all :=
  all_databaseStore ▸ List.mem_cons_self

/-- What has been stored in one spelling is deleted in another. -/
theorem unique_by_meaning_database :
    databaseStore.Reachable ∧ databaseAccess ∈ databaseStore.all ∧
    withPort.policy? = .ok databaseAccess ∧ withRange.Says databaseAccess.meaning ∧
    (databaseStore.tags.map Tag.id).count "web" = 1 ∧
    ∃ p, withRange.policy? = .ok p ∧
      databaseAccess.meaning ∉ (databaseStore.perform (.delete [p])).2.all.map Policy.meaning := by
  have hstore : databaseStore.Reachable := (Reachable.new _).perform _
  have hsays : withRange.Says databaseAccess.meaning := ⟨rfl, rfl, rfl, .range _⟩
  obtain ⟨-, htagged, -, hfound⟩ := hstore.unique_by_meaning
  obtain ⟨hspelled, hdeleted⟩ := hfound _ (List.mem_map_of_mem mem_databaseStore)
  obtain ⟨p, hmeaning, hmake, -⟩ := hspelled withRange hsays
  have hbatch : databaseAccess.meaning ∈ [p].map Policy.meaning :=
    List.mem_singleton.mpr hmeaning.symm
  exact ⟨hstore, mem_databaseStore, Spelling.policy?_eq_ok_iff.mpr ⟨rfl, rfl, rfl, .port 5432⟩,
    hsays, htagged _ mem_databaseStore "web" List.mem_cons_self, p, hmake,
    (hdeleted [p] hbatch).2⟩

end NetworkPolicy.Store
