import Mathlib.Data.List.TakeWhile
import Mathlib.Tactic.Common
import NetworkPolicy.Text.Blank

/-!
# Runs at the ends of a text

What is removed from an end of a text is a run of characters of one kind, and what is left has no
such character at that end.  These two facts determine what is left: at the front
(`dropWhile_eq_iff`), at the end (`dropEnd_eq_iff`) and at both (`dropEnd_dropWhile_eq_iff`), which
for blanks is `trim_eq_iff`.  So what a removal yields is read off how a text is put together, and
not off how it is scanned.
-/

namespace NetworkPolicy.Text

/-- All characters of the text are of one kind. -/
def Run (p : Char → Bool) (s : List Char) : Prop := ∀ c ∈ s, p c = true

/-- There is no character of a kind at the front of the text. -/
def BeginsWithout (p : Char → Bool) (s : List Char) : Prop := ∀ c ∈ s.head?, p c = false

/-- There is no character of a kind at the end of the text. -/
def EndsWithout (p : Char → Bool) (s : List Char) : Prop := ∀ c ∈ s.getLast?, p c = false

instance (p : Char → Bool) (s : List Char) : Decidable (Run p s) :=
  decidable_of_iff (s.all p = true) List.all_eq_true

instance (p : Char → Bool) (s : List Char) : Decidable (BeginsWithout p s) :=
  decidable_of_iff ((s.head?.all fun c => !p c) = true)
    (by rw [BeginsWithout]; cases s.head? <;> simp)

instance (p : Char → Bool) (s : List Char) : Decidable (EndsWithout p s) :=
  decidable_of_iff ((s.getLast?.all fun c => !p c) = true)
    (by rw [EndsWithout]; cases s.getLast? <;> simp)

section Ends

variable {p : Char → Bool} {s t : List Char}

lemma run_nil : Run p [] := fun _ hc => absurd hc List.not_mem_nil

lemma run_append : Run p (s ++ t) ↔ Run p s ∧ Run p t := List.forall_mem_append

lemma run_reverse : Run p s.reverse ↔ Run p s := by simp [Run]

lemma beginsWithout_nil : BeginsWithout p [] := fun c hc => absurd hc (Option.not_mem_none c)

lemma endsWithout_nil : EndsWithout p [] := fun c hc => absurd hc (Option.not_mem_none c)

lemma beginsWithout_reverse : BeginsWithout p s.reverse ↔ EndsWithout p s := by
  rw [BeginsWithout, List.head?_reverse, EndsWithout]

lemma beginsWithout_append (hs : s ≠ []) : BeginsWithout p (s ++ t) ↔ BeginsWithout p s := by
  rw [BeginsWithout, BeginsWithout, List.head?_append, List.head?_eq_some_head hs, Option.some_or]

lemma endsWithout_append (ht : t ≠ []) : EndsWithout p (s ++ t) ↔ EndsWithout p t := by
  rw [EndsWithout, EndsWithout, List.getLast?_append, List.getLast?_eq_some_getLast ht,
    Option.some_or]

/-- What is left of a text when a run is removed from its front. -/
lemma dropWhile_eq_iff :
    s.dropWhile p = t ↔ BeginsWithout p t ∧ ∃ run, Run p run ∧ s = run ++ t := by
  constructor
  · rintro rfl
    refine ⟨fun c hc => ?_, s.takeWhile p, fun c hc => List.mem_takeWhile_imp hc,
      List.takeWhile_append_dropWhile.symm⟩
    have hstop := List.head?_dropWhile_not p s
    rw [Option.mem_def.mp hc] at hstop
    exact hstop
  · rintro ⟨hbegins, run, hrun, rfl⟩
    rw [List.dropWhile_append_of_pos hrun]
    cases t with
    | nil => rfl
    | cons c t => exact List.dropWhile_cons_of_neg (Bool.eq_false_iff.mp (hbegins c rfl))

/-- What is left of a text when a run is removed from its end. -/
lemma dropEnd_eq_iff : dropEnd p s = t ↔ EndsWithout p t ∧ ∃ run, Run p run ∧ s = t ++ run := by
  rw [dropEnd, List.reverse_eq_iff, dropWhile_eq_iff, beginsWithout_reverse]
  refine and_congr_right fun _ => ⟨?_, ?_⟩
  · rintro ⟨run, hrun, hs⟩
    refine ⟨run.reverse, run_reverse.mpr hrun, ?_⟩
    rw [← List.reverse_reverse s, hs, List.reverse_append, List.reverse_reverse]
  · rintro ⟨run, hrun, rfl⟩
    exact ⟨run.reverse, run_reverse.mpr hrun, List.reverse_append⟩

/-- What is left of a text when runs are removed from both ends. -/
lemma dropEnd_dropWhile_eq_iff : dropEnd p (s.dropWhile p) = t ↔
    (BeginsWithout p t ∧ EndsWithout p t) ∧
      ∃ left right, Run p left ∧ Run p right ∧ s = left ++ t ++ right := by
  constructor
  · intro h
    obtain ⟨hends, right, hright, hrest⟩ := dropEnd_eq_iff.mp h
    obtain ⟨hbegins, left, hleft, hs⟩ := dropWhile_eq_iff.mp (Eq.refl (s.dropWhile p))
    rw [hrest] at hbegins hs
    refine ⟨⟨?_, hends⟩, left, right, hleft, hright, hs.trans (List.append_assoc ..).symm⟩
    by_cases ht : t = []
    · exact ht ▸ beginsWithout_nil
    · exact (beginsWithout_append ht).mp hbegins
  · rintro ⟨⟨hbegins, hends⟩, left, right, hleft, hright, rfl⟩
    by_cases ht : t = []
    · -- Nothing is left, and all of it is gone when the front has been removed.
      subst ht
      have hall : (left ++ [] ++ right).dropWhile p = [] := dropWhile_eq_iff.mpr
        ⟨beginsWithout_nil, left ++ [] ++ right,
          run_append.mpr ⟨run_append.mpr ⟨hleft, run_nil⟩, hright⟩, (List.append_nil _).symm⟩
      rw [hall]
      rfl
    · have hfront : (left ++ t ++ right).dropWhile p = t ++ right := dropWhile_eq_iff.mpr
        ⟨(beginsWithout_append ht).mpr hbegins, left, hleft, List.append_assoc ..⟩
      rw [hfront]
      exact dropEnd_eq_iff.mpr ⟨hends, right, hright, rfl⟩

end Ends

/-! ## Blanks -/

/-- The text consists of blanks, if of anything. -/
def Blank (s : List Char) : Prop := Run isBlank s

/-- There is no blank at either end of the text. -/
def Trimmed (s : List Char) : Prop := BeginsWithout isBlank s ∧ EndsWithout isBlank s

instance (s : List Char) : Decidable (Blank s) := inferInstanceAs (Decidable (Run isBlank s))

instance (s : List Char) : Decidable (Trimmed s) :=
  inferInstanceAs (Decidable (BeginsWithout isBlank s ∧ EndsWithout isBlank s))

/-- What is left of a text without the blanks around it. -/
lemma trim_eq_iff {s t : List Char} : trim s = t ↔
    Trimmed t ∧ ∃ left right, Blank left ∧ Blank right ∧ s = left ++ t ++ right :=
  dropEnd_dropWhile_eq_iff

lemma trim_spec (s : List Char) : Trimmed (trim s) ∧
    ∃ left right, Blank left ∧ Blank right ∧ s = left ++ trim s ++ right :=
  trim_eq_iff.mp rfl

section Blanks

variable {left right blanks : List Char}

lemma trim_of_blank (h : Blank blanks) : trim blanks = [] :=
  trim_eq_iff.mpr ⟨⟨beginsWithout_nil, endsWithout_nil⟩, blanks, [], h, run_nil, by simp⟩

lemma trim_append_left (s : List Char) (h : Blank left) : trim (left ++ s) = trim s := by
  obtain ⟨htrimmed, front, back, hfront, hback, hs⟩ := trim_spec s
  exact trim_eq_iff.mpr
    ⟨htrimmed, left ++ front, back, run_append.mpr ⟨h, hfront⟩, hback, by simp [← hs]⟩

lemma trim_append_right (s : List Char) (h : Blank right) : trim (s ++ right) = trim s := by
  obtain ⟨htrimmed, front, back, hfront, hback, hs⟩ := trim_spec s
  exact trim_eq_iff.mpr ⟨htrimmed, front, back ++ right, hfront, run_append.mpr ⟨hback, h⟩,
    by rw [← List.append_assoc, ← hs]⟩

end Blanks

end NetworkPolicy.Text
