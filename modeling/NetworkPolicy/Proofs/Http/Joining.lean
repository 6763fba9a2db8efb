import Mathlib.Tactic.Common
import NetworkPolicy.Access.Remote
import NetworkPolicy.Proofs.Text.Ends

/-!
# Joining addresses

Between the two parts of a joined address there is one slash, whatever slashes the parts have where
they meet, and it does not matter in which order three parts are joined (`join_parts`).

The one case in which the slash that joins can be removed again is a middle part of nothing but
slashes (`exists_replicate_or_core`): then both orders leave a single slash, and otherwise the
middle part has a character that no removal gets beyond.

* `Remote.call?_slashes` — the requests to the collaborators do not depend on the slashes at the
  end of the addresses that are configured.
-/

namespace NetworkPolicy

namespace Url

open Text (Run BeginsWithout EndsWithout)

/-- A number of slashes. -/
def slashes (n : ℕ) : String := String.ofList (List.replicate n '/')

lemma toList_slashes (n : ℕ) : (slashes n).toList = List.replicate n '/' := String.toList_ofList

/-! ## Runs of slashes -/

section Runs

variable {s t : List Char}

lemma run_slash_iff : Run (· = '/') s ↔ ∃ n, s = List.replicate n '/' := by
  simp only [Run, decide_eq_true_eq]
  constructor
  · exact fun h => ⟨s.length, List.eq_replicate_iff.mpr ⟨rfl, h⟩⟩
  · rintro ⟨n, rfl⟩ c hc
    exact (List.mem_replicate.mp hc).2

lemma exists_run_slash_iff {holds : List Char → Prop} :
    (∃ run, Run (· = '/') run ∧ holds run) ↔ ∃ n, holds (List.replicate n '/') := by
  simp only [run_slash_iff]
  constructor
  · rintro ⟨_, ⟨n, rfl⟩, h⟩
    exact ⟨n, h⟩
  · rintro ⟨n, h⟩
    exact ⟨_, ⟨n, rfl⟩, h⟩

lemma dropSlashes_eq_iff : dropSlashes s = t ↔
    BeginsWithout (· = '/') t ∧ ∃ n, s = List.replicate n '/' ++ t := by
  rw [dropSlashes, Text.dropWhile_eq_iff, exists_run_slash_iff]

lemma dropSlashesEnd_eq_iff : dropSlashesEnd s = t ↔
    EndsWithout (· = '/') t ∧ ∃ n, s = t ++ List.replicate n '/' := by
  show Text.dropEnd (· = '/') s = t ↔ _
  rw [Text.dropEnd_eq_iff, exists_run_slash_iff]

lemma dropSlashes_spec (s : List Char) : BeginsWithout (· = '/') (dropSlashes s) ∧
    ∃ n, s = List.replicate n '/' ++ dropSlashes s :=
  dropSlashes_eq_iff.mp rfl

lemma dropSlashesEnd_spec (s : List Char) : EndsWithout (· = '/') (dropSlashesEnd s) ∧
    ∃ n, s = dropSlashesEnd s ++ List.replicate n '/' :=
  dropSlashesEnd_eq_iff.mp rfl

/-- A text is nothing but slashes, or has a core that no removal of slashes gets beyond. -/
lemma exists_replicate_or_core (s : List Char) : (∃ n, s = List.replicate n '/') ∨
    ∃ k core l, core ≠ [] ∧ BeginsWithout (· = '/') core ∧ EndsWithout (· = '/') core ∧
      s = List.replicate k '/' ++ core ++ List.replicate l '/' := by
  obtain ⟨hbegins, k, hs⟩ := dropSlashes_spec s
  obtain ⟨hends, l, hrest⟩ := dropSlashesEnd_spec (dropSlashes s)
  by_cases hcore : dropSlashesEnd (dropSlashes s) = []
  · left
    rw [hs, hrest, hcore, List.nil_append, List.replicate_append_replicate]
    exact ⟨k + l, rfl⟩
  · right
    rw [hrest, Text.beginsWithout_append hcore] at hbegins
    refine ⟨k, _, l, hcore, hbegins, hends, ?_⟩
    rw [List.append_assoc, ← hrest, ← hs]

end Runs

/-! ## Joining -/

lemma toList_join (base path : String) : (join base path).toList
    = dropSlashesEnd base.toList ++ '/' :: dropSlashes path.toList := String.toList_ofList

lemma join_congr {base base' path path' : String}
    (hbase : dropSlashesEnd base.toList = dropSlashesEnd base'.toList)
    (hpath : dropSlashes path.toList = dropSlashes path'.toList) :
    join base path = join base' path' := by
  rw [join, join, hbase, hpath]

lemma dropSlashesEnd_append_slashes (base : String) (n : ℕ) :
    dropSlashesEnd (base ++ slashes n).toList = dropSlashesEnd base.toList := by
  rw [String.toList_append, toList_slashes, dropSlashesEnd, dropSlashes, List.reverse_append,
    List.reverse_replicate, List.dropWhile_append_of_pos (run_slash_iff.mpr ⟨n, rfl⟩)]
  rfl

lemma dropSlashes_slashes_append (path : String) (n : ℕ) :
    dropSlashes (slashes n ++ path).toList = dropSlashes path.toList := by
  rw [String.toList_append, toList_slashes, dropSlashes,
    List.dropWhile_append_of_pos (run_slash_iff.mpr ⟨n, rfl⟩)]
  rfl

/-- Three parts are joined to the same address from the left and from the right. -/
lemma join_assoc (a b c : String) : join (join a b) c = join a (join b c) := by
  obtain ⟨hbase, -⟩ := dropSlashesEnd_spec a.toList
  obtain ⟨hpath, -⟩ := dropSlashes_spec c.toList
  rw [← String.toList_inj, toList_join, toList_join, toList_join, toList_join]
  generalize dropSlashesEnd a.toList = base at hbase ⊢
  generalize dropSlashes c.toList = path at hpath ⊢
  rcases exists_replicate_or_core b.toList with ⟨n, hb⟩ | ⟨k, core, l, hcore, hbegins, hends, hb⟩
  · have hnothing : dropSlashes b.toList = [] :=
      dropSlashes_eq_iff.mpr ⟨Text.beginsWithout_nil, n, by rw [hb, List.append_nil]⟩
    have hnothingEnd : dropSlashesEnd b.toList = [] :=
      dropSlashesEnd_eq_iff.mpr ⟨Text.endsWithout_nil, n, by rw [hb, List.nil_append]⟩
    have hleft : dropSlashesEnd (base ++ ['/']) = base :=
      dropSlashesEnd_eq_iff.mpr ⟨hbase, 1, rfl⟩
    have hright : dropSlashes ([] ++ '/' :: path) = path :=
      dropSlashes_eq_iff.mpr ⟨hpath, 1, rfl⟩
    rw [hnothing, hnothingEnd, hleft, hright]
  · have hback : dropSlashes b.toList = core ++ List.replicate l '/' := dropSlashes_eq_iff.mpr
      ⟨(Text.beginsWithout_append hcore).mpr hbegins, k, by rw [hb, List.append_assoc]⟩
    have hfront : dropSlashesEnd b.toList = List.replicate k '/' ++ core :=
      dropSlashesEnd_eq_iff.mpr ⟨(Text.endsWithout_append hcore).mpr hends, l, hb⟩
    have hleft : dropSlashesEnd (base ++ '/' :: (core ++ List.replicate l '/'))
        = base ++ '/' :: core := by
      refine dropSlashesEnd_eq_iff.mpr ⟨?_, l, by simp⟩
      rw [List.append_cons]
      exact (Text.endsWithout_append hcore).mpr hends
    have hright : dropSlashes (List.replicate k '/' ++ core ++ '/' :: path)
        = core ++ '/' :: path :=
      dropSlashes_eq_iff.mpr
        ⟨(Text.beginsWithout_append hcore).mpr hbegins, k, List.append_assoc ..⟩
    rw [hback, hfront, hleft, hright, List.append_assoc, List.cons_append]

/-- **Joining does not see how many slashes meet, nor in which order parts are joined.**  Slashes at
the end of the base and at the front of the path change nothing; three parts are joined to the same
address from the left and from the right; and a joined address is the base without the slashes at
its end, one slash, and the path without the slashes at its front. -/
theorem join_parts (a b c : String) (m n : ℕ) :
    join (a ++ slashes m) (slashes n ++ b) = join a b ∧
    join (join a b) c = join a (join b c) ∧
    ∃ base path : String,
      ((∃ k, a = base ++ slashes k) ∧ base.toList.getLast? ≠ some '/') ∧
      ((∃ l, b = slashes l ++ path) ∧ path.toList.head? ≠ some '/') ∧
      join a b = base ++ "/" ++ path := by
  refine ⟨join_congr (dropSlashesEnd_append_slashes a m) (dropSlashes_slashes_append b n),
    join_assoc a b c, ?_⟩
  obtain ⟨hbase, k, ha⟩ := dropSlashesEnd_spec a.toList
  obtain ⟨hpath, l, hb⟩ := dropSlashes_spec b.toList
  refine ⟨String.ofList (dropSlashesEnd a.toList), String.ofList (dropSlashes b.toList),
    ⟨⟨k, ?_⟩, ?_⟩, ⟨⟨l, ?_⟩, ?_⟩, ?_⟩
  · rw [← String.toList_inj, String.toList_append, String.toList_ofList, toList_slashes, ← ha]
  · rw [String.toList_ofList]
    exact fun hlast => absurd (hbase '/' hlast) (by decide)
  · rw [← String.toList_inj, String.toList_append, String.toList_ofList, toList_slashes, ← hb]
  · rw [String.toList_ofList]
    exact fun hhead => absurd (hpath '/' hhead) (by decide)
  · rw [← String.toList_inj, toList_join]
    simp

/-- Parts of nothing but slashes, and empty ones. -/
example : join (join "//" "") "///" = "/" ∧ join "//" (join "" "///") = "/" := by decide

end Url

/-! ## Addresses of the collaborators -/

namespace Remote

/-- Requests do not depend on the slashes at the end of the configured addresses. -/
theorem call?_slashes (r : Remote) (m n : ℕ) (q : Lookup) :
    ({ r with
      identityUrl := r.identityUrl ++ Url.slashes m
      directoryUrl := r.directoryUrl ++ Url.slashes n } : Remote).call? q = r.call? q := by
  have hjoin : ∀ (base path : String) (k : ℕ),
      Url.join (base ++ Url.slashes k) path = Url.join base path :=
    fun base path k => Url.join_congr (Url.dropSlashesEnd_append_slashes base k) rfl
  cases q <;> simp [call?, formCall?, directoryCall?, directoryAddress, hjoin]

end Remote

end NetworkPolicy
