import Mathlib.Data.List.TakeWhile
import Mathlib.Tactic.Common
import Mathlib.Tactic.FinCases
import Mathlib.Tactic.IntervalCases
import NetworkPolicy.Json.Number
import NetworkPolicy.Json.Value
import NetworkPolicy.Proofs.Json.Scanning

/-!
# Numerals and strings that are written

A count is written in decimal digits, and a string between quotation marks with some of its
characters escaped.  Both are tokens of the grammar.

* `numeral_toDigits` — the digits of a count are a numeral; `ofLexeme_toDigits` — it stands for the
  count, as long as this fits into sixty-four bits.
* `lexeme_renderString` — a string that is written is a token that spells it, for every text.
-/

namespace NetworkPolicy

/-! ## Numerals -/

section Numerals

open Text

lemma isDigit_of_char {c : Char} (h : c.isDigit = true) : isDigit c = true := by
  rw [Char.isDigit, Bool.and_eq_true, decide_eq_true_eq, decide_eq_true_eq] at h
  rw [isDigit, digit?, if_pos ⟨h.1, h.2⟩]
  rfl

lemma isDigit_of_mem_toDigits {n : Nat} {c : Char} (h : c ∈ Nat.toDigits 10 n) :
    isDigit c = true :=
  isDigit_of_char (Nat.isDigit_of_mem_toDigits (by decide) (by decide) h)

lemma digit?_digitChar {d : Nat} (h : d < 10) : digit? d.digitChar = some d := by
  interval_cases d <;> rfl

/-- The digits of a number other than zero do not begin with a zero. -/
lemma exists_toDigits_eq_cons {n : Nat} (hpos : 0 < n) :
    ∃ first others, Nat.toDigits 10 n = first :: others ∧ first ≠ '0' := by
  induction n using Nat.strong_induction_on with
  | _ n ih =>
      by_cases hsmall : n < 10
      · rw [Nat.toDigits_of_lt_base hsmall]
        refine ⟨n.digitChar, [], rfl, ?_⟩
        interval_cases n <;> decide
      · obtain ⟨first, others, hdigits, hfirst⟩ := ih (n / 10) (by omega) (by omega)
        rw [Nat.toDigits_of_base_le (by decide) (by omega), hdigits]
        exact ⟨first, _, List.cons_append .., hfirst⟩

lemma numeral_toDigits (n : Nat) : Token.Numeral (Nat.toDigits 10 n) := by
  have hwhole : Token.Whole (Nat.toDigits 10 n) := by
    rcases Nat.eq_zero_or_pos n with rfl | hpos
    · exact .zero
    · obtain ⟨first, others, hdigits, hfirst⟩ := exists_toDigits_eq_cons hpos
      rw [hdigits]
      exact .digits hfirst ⟨List.cons_ne_nil _ _, hdigits ▸ fun _ => isDigit_of_mem_toDigits⟩
  have hnumeral := Token.Numeral.parts List.mem_cons_self hwhole .none .none
  simpa using hnumeral

namespace Number

/-- Digits that fit into sixty-four bits are added up without loss. -/
lemma foldl_wholeDigit_toDigits {n : Nat} (h : n ≤ maxWord) :
    ((Nat.toDigits 10 n).filterMap digit?).foldl Scaled.wholeDigit ⟨0, 0, false⟩
      = ⟨n, 0, false⟩ := by
  induction n using Nat.strong_induction_on with
  | _ n ih =>
      by_cases hsmall : n < 10
      · rw [Nat.toDigits_of_lt_base hsmall]
        interval_cases n <;> rfl
      · have hlast : n % 10 < 10 := Nat.mod_lt n (by decide)
        have hsum : n / 10 * 10 + n % 10 = n := Nat.div_add_mod' n 10
        rw [Nat.toDigits_of_base_le (by decide) (by omega), List.filterMap_append,
          List.foldl_append, ih (n / 10) (by omega) (by omega),
          List.filterMap_cons_some (digit?_digitChar hlast), List.filterMap_nil, List.foldl_cons,
          List.foldl_nil, Scaled.wholeDigit, hsum]
        simp [h]

/-- The digits of a count stand for the count. -/
lemma ofLexeme_toDigits {n : Nat} (h : n ≤ maxWord) :
    ofLexeme (Nat.toDigits 10 n) = .integer n := by
  have hdigits : ∀ c ∈ Nat.toDigits 10 n, isDigit c = true := fun _ => isDigit_of_mem_toDigits
  have hsign : (Nat.toDigits 10 n).head? ≠ some '-' :=
    fun hhead => absurd (hdigits '-' (List.mem_of_mem_head? hhead)) (by decide)
  have htaken : takeDigits (Nat.toDigits 10 n) = ((Nat.toDigits 10 n).filterMap digit?, []) := by
    rw [takeDigits, List.takeWhile_eq_self_iff.mpr hdigits, List.dropWhile_eq_nil_iff.mpr hdigits]
  simp only [ofLexeme, hsign, if_false, htaken, foldl_wholeDigit_toDigits h, decide_false]
  rfl

end Number

end Numerals

/-! ## Strings -/

namespace Token

/-- The piece that an escaped character is read as: a code unit if there is no shorter way to
write it. -/
def Piece.ofChar (c : Char) : Piece :=
  if c.toNat < 0x20 ∧ c ∉ ['\x08', '\x0c', '\n', '\r', '\t'] then .unit c.toNat
  else .symbol (some c)

/-- The longest escape of a control names its code unit. -/
lemma number_code {n : Nat} (h : n < 0x20) :
    Hex.number ['0', '0', Hex.lowerDigit (n / 16), Hex.lowerDigit (n % 16)] = n := by
  have hvalue : 16 * (n / 16) + n % 16 = n := Nat.div_add_mod n 16
  calc Hex.number ['0', '0', Hex.lowerDigit (n / 16), Hex.lowerDigit (n % 16)]
      = 16 * (Hex.value? (Hex.lowerDigit (n / 16))).getD 0
          + (Hex.value? (Hex.lowerDigit (n % 16))).getD 0 := by simp [Hex.number, Hex.value?]
    _ = n := by
        rw [Hex.value?_lowerDigit (by omega), Hex.value?_lowerDigit (by omega), Option.getD_some,
          Option.getD_some, hvalue]

/-- However a character is escaped, it is one piece of a string. -/
lemma Body.escape {body : List Char} {pieces : List Piece} (h : Body body pieces) (c : Char) :
    Body (Json.escape c ++ body) (.ofChar c :: pieces) := by
  by_cases hshort : c ∈ ['"', '\\', '\x08', '\x0c', '\n', '\r', '\t']
  · fin_cases hshort <;> exact .letter (by decide) h
  · simp only [List.mem_cons, List.not_mem_nil, or_false, not_or] at hshort
    simp only [Json.escape, Piece.ofChar, hshort, if_false]
    split
    case isTrue hcontrol =>
      have hsome : ∀ {d : Nat}, d < 16 → (Hex.value? (Hex.lowerDigit d)).isSome := fun hd => by
        rw [Hex.value?_lowerDigit hd, Option.isSome_some]
      have hdigits : ∀ d ∈ ['0', '0', Hex.lowerDigit (c.toNat / 16), Hex.lowerDigit (c.toNat % 16)],
          (Hex.value? d).isSome := by
        simp only [List.forall_mem_cons]
        exact ⟨rfl, rfl, hsome (by omega), hsome (by omega), List.forall_mem_nil _⟩
      have hcode := Body.code rfl hdigits h
      rw [number_code hcontrol] at hcode
      simpa [hcontrol, hshort] using hcode
    case isFalse hplain =>
      rw [if_neg fun h => hplain h.1]
      exact .plain hshort.1 hshort.2.1 (Nat.not_lt.mp hplain) h

lemma body_escapes (chars : List Char) :
    Body (chars.flatMap Json.escape) (chars.map Piece.ofChar) := by
  induction chars with
  | nil => exact .nil
  | cons c chars ih =>
      rw [List.flatMap_cons, List.map_cons]
      exact ih.escape c

lemma means_map_ofChar (chars : List Char) : Means (chars.map Piece.ofChar) chars := by
  induction chars with
  | nil => exact .nil
  | cons c chars ih =>
      rw [List.map_cons, Piece.ofChar]
      split
      case isTrue => exact .unit ih
      case isFalse => exact .symbol ih

/-- **A string that is written is one token that spells it.** -/
theorem lexeme_renderString (text : String) :
    Lexeme (Json.renderString text) (.string (some text)) := by
  have hmeans := means_map_ofChar text.toList
  refine .string (body_escapes text.toList) fun s => ?_
  rw [Option.some_inj]
  exact ⟨fun h => h ▸ hmeans, fun h => String.toList_inj.mp (hmeans.unique h)⟩

end Token

end NetworkPolicy
