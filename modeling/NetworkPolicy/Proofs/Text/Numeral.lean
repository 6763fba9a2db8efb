import Mathlib.Tactic.Common
import NetworkPolicy.Proofs.Except
import NetworkPolicy.Proofs.Text.Ends
import NetworkPolicy.Text.Numeral

/-!
# The number that a numeral spells

A numeral is a plus sign, which may be left out, and decimal digits behind it, as many as there are
(`SpellsNumber`).  It is read as the number that its digits spell, exactly if this number is within
the bound (`readBounded_eq_ok_iff`).  The reader stops at the first digit that leads beyond the
bound; nothing is lost by that, as further digits never make a number smaller (`le_ofDigitChars`).
-/

namespace NetworkPolicy.Text

/-! ## Digits -/

lemma digit?_eq (c : Char) :
    digit? c = if c.isDigit then some (c.toNat - '0'.toNat) else none := by
  have hbounds : ('0' ≤ c ∧ c ≤ '9') ↔ c.isDigit = true := by
    rw [Char.isDigit, Bool.and_eq_true, decide_eq_true_eq, decide_eq_true_eq]
    rfl
  simp only [digit?, hbounds]
  rfl

lemma isDigit_eq (c : Char) : isDigit c = c.isDigit := by
  rw [isDigit, digit?_eq]
  cases c.isDigit <;> rfl

lemma toNat_of_isDigit {c : Char} (h : c.isDigit = true) : 48 ≤ c.toNat ∧ c.toNat ≤ 57 := by
  rw [Char.isDigit, Bool.and_eq_true, decide_eq_true_eq, decide_eq_true_eq] at h
  exact h

/-- At least one decimal digit, and nothing else. -/
def Digits (s : List Char) : Prop := s ≠ [] ∧ Run Char.isDigit s

instance (s : List Char) : Decidable (Digits s) :=
  inferInstanceAs (Decidable (s ≠ [] ∧ Run Char.isDigit s))

section Reading

variable {bound n v : ℕ} {digits : List Char}

lemma le_ofDigitChars (n : ℕ) (digits : List Char) : n ≤ Nat.ofDigitChars 10 digits n := by
  induction digits generalizing n with
  | nil => exact Nat.le_refl n
  | cons c digits ih =>
      rw [Nat.ofDigitChars_cons]
      exact Nat.le_trans (by omega) (ih _)

lemma appendDigit_eq_ok_iff {c : Char} : appendDigit bound n c = .ok v ↔
    c.isDigit = true ∧ v = 10 * n + (c.toNat - '0'.toNat) ∧ v ≤ bound := by
  rw [appendDigit, digit?_eq, Nat.mul_comm n]
  cases c.isDigit with
  | false => simp
  | true =>
      by_cases hfits : 10 * n + (c.toNat - '0'.toNat) ≤ bound
      · simp only [if_true, if_pos hfits, Except.ok.injEq, true_and]
        constructor
        · rintro rfl
          exact ⟨rfl, hfits⟩
        · exact fun h => h.1.symm
      · simp only [if_true, if_neg hfits, reduceCtorEq, true_and, false_iff]
        rintro ⟨rfl, h⟩
        exact hfits h

/-- Digits behind the value `n` are read as the number that all of them spell. -/
lemma foldlM_appendDigit (hn : n ≤ bound) : digits.foldlM (appendDigit bound) n = .ok v ↔
    (∀ c ∈ digits, c.isDigit = true) ∧ Nat.ofDigitChars 10 digits n = v ∧ v ≤ bound := by
  induction digits generalizing n with
  | nil =>
      simp only [List.foldlM_nil, List.not_mem_nil, false_implies, implies_true, true_and]
      constructor
      · rintro ⟨⟩
        exact ⟨rfl, hn⟩
      · rintro ⟨rfl, -⟩
        rfl
  | cons c digits ih =>
      simp only [List.foldlM_cons, bind_eq_ok_iff, appendDigit_eq_ok_iff, List.forall_mem_cons,
        Nat.ofDigitChars_cons]
      constructor
      · rintro ⟨next, ⟨hc, rfl, hnext⟩, hrest⟩
        obtain ⟨hdigits, hvalue, hv⟩ := (ih hnext).mp hrest
        exact ⟨⟨hc, hdigits⟩, hvalue, hv⟩
      · rintro ⟨⟨hc, hdigits⟩, hvalue, hv⟩
        have hnext : 10 * n + (c.toNat - '0'.toNat) ≤ bound :=
          Nat.le_trans (le_ofDigitChars _ digits) (hvalue ▸ hv)
        exact ⟨_, ⟨hc, rfl, hnext⟩, (ih hnext).mpr ⟨hdigits, hvalue, hv⟩⟩

lemma readDigits_eq_ok_iff : readDigits bound digits = .ok v ↔
    (∀ c ∈ digits, c.isDigit = true) ∧ Nat.ofDigitChars 10 digits 0 = v ∧ v ≤ bound :=
  foldlM_appendDigit (Nat.zero_le bound)

end Reading

/-! ## Numerals -/

/-- The text is a numeral, and the number is what its digits spell. -/
inductive SpellsNumber : List Char → ℕ → Prop where
  | plain {digits : List Char} (h : Digits digits) :
      SpellsNumber digits (Nat.ofDigitChars 10 digits 0)
  | signed {digits : List Char} (h : Digits digits) :
      SpellsNumber ('+' :: digits) (Nat.ofDigitChars 10 digits 0)

section Numerals

variable {bound v : ℕ} {s digits : List Char}

lemma readBounded_signed (h : digits ≠ []) :
    readBounded bound ('+' :: digits) = readDigits bound digits := by
  rw [readBounded.eq_def]
  split
  case h_1 heq => cases heq
  case h_2 heq => exact absurd (List.cons.inj heq).2 h
  case h_3 heq => rw [(List.cons.inj heq).2]
  case h_4 hsign => exact absurd rfl (hsign digits)

lemma readBounded_plain (h : s ≠ []) (hsign : s.head? ≠ some '+') :
    readBounded bound s = readDigits bound s := by
  rw [readBounded.eq_def]
  split
  case h_1 => exact absurd rfl h
  case h_2 => exact absurd rfl hsign
  case h_3 => exact absurd rfl hsign
  case h_4 => rfl

/-- A text is read within a bound exactly if it is a numeral of a number within the bound. -/
lemma readBounded_eq_ok_iff : readBounded bound s = .ok v ↔ SpellsNumber s v ∧ v ≤ bound := by
  constructor
  · intro h
    cases s with
    | nil => cases h
    | cons c digits =>
        by_cases hc : c = '+'
        · subst hc
          by_cases hdigits : digits = []
          · subst hdigits
            cases h
          · rw [readBounded_signed hdigits, readDigits_eq_ok_iff] at h
            obtain ⟨hall, rfl, hv⟩ := h
            exact ⟨.signed ⟨hdigits, hall⟩, hv⟩
        · have hsign : (c :: digits).head? ≠ some '+' := fun hhead => hc (Option.some.inj hhead)
          rw [readBounded_plain (List.cons_ne_nil c digits) hsign, readDigits_eq_ok_iff] at h
          obtain ⟨hall, rfl, hv⟩ := h
          exact ⟨.plain ⟨List.cons_ne_nil c digits, hall⟩, hv⟩
  · rintro ⟨⟨h⟩ | ⟨h⟩, hv⟩
    · have hsign : s.head? ≠ some '+' :=
        fun hhead => absurd (h.2 '+' (List.mem_of_mem_head? hhead)) (by decide)
      rw [readBounded_plain h.1 hsign, readDigits_eq_ok_iff]
      exact ⟨h.2, rfl, hv⟩
    · rw [readBounded_signed h.1, readDigits_eq_ok_iff]
      exact ⟨h.2, rfl, hv⟩

lemma SpellsNumber.unique {w : ℕ} (hv : SpellsNumber s v) (hw : SpellsNumber s w) : v = w := by
  have hread : readBounded (max v w) s = .ok v :=
    readBounded_eq_ok_iff.mpr ⟨hv, Nat.le_max_left v w⟩
  rw [readBounded_eq_ok_iff.mpr ⟨hw, Nat.le_max_right v w⟩] at hread
  exact (Except.ok.inj hread).symm

lemma SpellsNumber.exists_digits (h : SpellsNumber s v) :
    ∃ sign digits, (sign = [] ∨ sign = ['+']) ∧ Digits digits ∧ s = sign ++ digits := by
  cases h with
  | plain h => exact ⟨[], _, .inl rfl, h, rfl⟩
  | signed h => exact ⟨['+'], _, .inr rfl, h, rfl⟩

lemma SpellsNumber.ne_nil (h : SpellsNumber s v) : s ≠ [] := by
  cases h with
  | plain h => exact h.1
  | signed => exact List.cons_ne_nil _ _

lemma SpellsNumber.mem_cases (h : SpellsNumber s v) {c : Char} (hc : c ∈ s) :
    c = '+' ∨ c.isDigit = true := by
  cases h with
  | plain h => exact .inr (h.2 c hc)
  | signed h => exact (List.mem_cons.mp hc).imp_right (h.2 c)

lemma SpellsNumber.isDigit_of_getLast? (h : SpellsNumber s v) {c : Char} (hc : c ∈ s.getLast?) :
    c.isDigit = true := by
  cases h with
  | plain h => exact h.2 c (List.mem_of_mem_getLast? hc)
  | signed h =>
      rw [List.getLast?_cons_of_ne_nil h.1] at hc
      exact h.2 c (List.mem_of_mem_getLast? hc)

end Numerals

end NetworkPolicy.Text
