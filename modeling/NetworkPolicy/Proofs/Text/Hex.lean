import Mathlib.Data.List.Induction
import Mathlib.Data.List.Lex
import Mathlib.Tactic.Common
import Mathlib.Tactic.IntervalCases
import NetworkPolicy.Store

/-!
# Reading hexadecimal digits

`Hex.number` is the number that a list of digits spells.  A number in digits of a fixed count is
spelled by them (`number_fixed`), also where it needs more of them, so the text of a tag determines
the number of the tag (`TagWidth.format_injective`).

A number that needs no more digits than the count has exactly that many (`fixed_eq_lastDigits`), and
such texts are ordered like their numbers (`lastDigits_lt`).
-/

namespace NetworkPolicy

namespace Hex

/-- The number that digits spell, the most significant first. -/
def number (digits : List Char) : Nat :=
  digits.foldl (fun n c => 16 * n + (value? c).getD 0) 0

lemma number_concat (digits : List Char) (c : Char) :
    number (digits ++ [c]) = 16 * number digits + (value? c).getD 0 := by
  rw [number, List.foldl_append]
  rfl

lemma value?_lt {c : Char} {n : Nat} (h : value? c = some n) : n < 16 := by
  have hbounds : ∀ {a b : Char}, a ≤ c ∧ c ≤ b → a.toNat ≤ c.toNat ∧ c.toNat ≤ b.toNat := id
  unfold value? at h
  split at h
  case isTrue hdigit =>
    have hrange : 48 ≤ c.toNat ∧ c.toNat ≤ 57 := hbounds hdigit
    cases h
    omega
  case isFalse =>
  split at h
  case isTrue hlower =>
    have hrange : 97 ≤ c.toNat ∧ c.toNat ≤ 102 := hbounds hlower
    cases h
    omega
  case isFalse =>
  split at h
  case isTrue hupper =>
    have hrange : 65 ≤ c.toNat ∧ c.toNat ≤ 70 := hbounds hupper
    cases h
    omega
  case isFalse => cases h

lemma number_lt (digits : List Char) : number digits < 16 ^ digits.length := by
  induction digits using List.reverseRecOn with
  | nil => decide
  | append_singleton digits c ih =>
      have hdigit : (value? c).getD 0 < 16 := by
        cases hc : value? c with
        | none => decide
        | some n => exact value?_lt hc
      rw [number_concat, List.length_append, List.length_singleton, Nat.pow_succ]
      omega

lemma value?_lowerDigit {n : Nat} (h : n < 16) : value? (lowerDigit n) = some n := by
  interval_cases n <;> decide

/-- Of a number that is too long for the digits the last ones are kept. -/
lemma number_lastDigits (width : Nat) :
    ∀ n : Nat, number (lastDigits width n) = n % 16 ^ width := by
  induction width with
  | zero =>
      intro n
      rw [Nat.pow_zero, Nat.mod_one]
      rfl
  | succ width ih =>
      intro n
      have hdigit : n % 16 < 16 := Nat.mod_lt n (by decide)
      have hsplit : n % 16 ^ (width + 1) = n % 16 + 16 * (n / 16 % 16 ^ width) := by
        rw [Nat.pow_succ, Nat.mul_comm, Nat.mod_mul]
      rw [lastDigits, number_concat, ih, value?_lowerDigit hdigit, Option.getD_some, hsplit,
        Nat.add_comm]

/-- A number is spelled in full by as many digits as are counted for it. -/
lemma lt_pow_digitCount (fuel : Nat) : ∀ n ≤ fuel, n < 16 ^ digitCount fuel n := by
  induction fuel with
  | zero =>
      intro n hn
      obtain rfl : n = 0 := Nat.le_zero.mp hn
      decide
  | succ fuel ih =>
      intro n hn
      rw [digitCount]
      by_cases hsmall : n < 16
      · rw [if_pos hsmall]
        exact hsmall
      · rw [if_neg hsmall, Nat.pow_succ]
        have hrest : n / 16 < 16 ^ digitCount fuel (n / 16) := ih (n / 16) (by omega)
        omega

/-- A number in digits of a fixed count reads back. -/
lemma number_fixed (width n : Nat) : number (fixed width n) = n := by
  have hshort : n < 16 ^ digitCount n n := lt_pow_digitCount n n (Nat.le_refl n)
  have hlong : 16 ^ digitCount n n ≤ 16 ^ max width (digitCount n n) :=
    Nat.pow_le_pow_right (by decide) (Nat.le_max_right width (digitCount n n))
  rw [fixed, number_lastDigits, Nat.mod_eq_of_lt (Nat.lt_of_lt_of_le hshort hlong)]

/-! ## Texts of one length -/

/-- The digits that are written. -/
def lowerDigits : List Char :=
  ['0', '1', '2', '3', '4', '5', '6', '7', '8', '9', 'a', 'b', 'c', 'd', 'e', 'f']

lemma lowerDigit_mem {n : Nat} (h : n < 16) : lowerDigit n ∈ lowerDigits := by
  interval_cases n <;> decide

lemma lowerDigit_lt {m n : Nat} (h : m < n) (hn : n < 16) : lowerDigit m < lowerDigit n := by
  have hall : ∀ n < 16, ∀ m < n, lowerDigit m < lowerDigit n := by decide
  exact hall n hn m h

@[simp] lemma length_lastDigits (width : Nat) : ∀ n : Nat, (lastDigits width n).length = width := by
  induction width with
  | zero => exact fun _ => rfl
  | succ width ih =>
      intro n
      rw [lastDigits, List.length_append, ih, List.length_singleton]

lemma mem_lowerDigits_of_mem {c : Char} {width : Nat} : ∀ {n : Nat},
    c ∈ lastDigits width n → c ∈ lowerDigits := by
  induction width with
  | zero => exact fun h => absurd h List.not_mem_nil
  | succ width ih =>
      intro n h
      rw [lastDigits, List.mem_append, List.mem_singleton] at h
      rcases h with h | rfl
      · exact ih h
      · exact lowerDigit_mem (Nat.mod_lt n (by decide))

/-- A number of few digits is not counted to have more of them. -/
lemma digitCount_le {width : Nat} (hwidth : 0 < width) (fuel : Nat) : ∀ {n : Nat},
    n < 16 ^ width → digitCount fuel n ≤ width := by
  induction fuel generalizing width with
  | zero => exact fun _ => hwidth
  | succ fuel ih =>
      intro n hn
      rw [digitCount]
      split
      case isTrue => exact hwidth
      case isFalse hlarge =>
        obtain ⟨rest, rfl⟩ : ∃ rest, width = rest + 1 := ⟨width - 1, by omega⟩
        have hquotient : n / 16 < 16 ^ rest := by
          rw [Nat.pow_succ] at hn
          omega
        have hrest : 0 < rest := by
          by_contra hzero
          obtain rfl : rest = 0 := by omega
          omega
        exact Nat.succ_le_succ (ih hrest hquotient)

/-- The count is the length, as long as the number fits. -/
lemma fixed_eq_lastDigits {width n : Nat} (hwidth : 0 < width) (hn : n < 16 ^ width) :
    fixed width n = lastDigits width n := by
  rw [fixed, Nat.max_eq_left (digitCount_le hwidth n hn)]

/-- A difference between texts of one length is not made up for by what comes behind. -/
lemma append_lt_append {l l' : List Char} (h : l < l') (hlength : l.length = l'.length)
    (back back' : List Char) : l ++ back < l' ++ back' := by
  induction h with
  | nil => simp at hlength
  | cons _ ih => exact .cons (ih (Nat.succ.inj hlength))
  | rel hdigit => exact .rel hdigit

/-- Of two numbers of one length the smaller comes first in the order of texts. -/
lemma lastDigits_lt (width : Nat) : ∀ {m n : Nat}, m < n → n < 16 ^ width →
    lastDigits width m < lastDigits width n := by
  induction width with
  | zero =>
      intro m n hmn hn
      rw [Nat.pow_zero] at hn
      omega
  | succ width ih =>
      intro m n hmn hn
      rw [lastDigits, lastDigits]
      rw [Nat.pow_succ] at hn
      rcases Nat.lt_or_ge (m / 16) (n / 16) with hfront | hfront
      · have hlt := ih hfront (show n / 16 < 16 ^ width by omega)
        exact append_lt_append hlt (by rw [length_lastDigits, length_lastDigits]) _ _
      · have hsame : m / 16 = n / 16 := by omega
        have hlast : m % 16 < n % 16 := by omega
        rw [hsame]
        exact List.Lex.append_left _ (.rel (lowerDigit_lt hlast (Nat.mod_lt n (by decide)))) _

/-- The greatest number of a length is all `f`. -/
lemma lastDigits_pred_pow (width : Nat) :
    lastDigits width (16 ^ width - 1) = List.replicate width 'f' := by
  induction width with
  | zero => rfl
  | succ width ih =>
      have hpos : 0 < 16 ^ width := Nat.pow_pos (by decide)
      have hfront : (16 ^ (width + 1) - 1) / 16 = 16 ^ width - 1 := by
        rw [Nat.pow_succ]
        omega
      have hlast : (16 ^ (width + 1) - 1) % 16 = 15 := by
        rw [Nat.pow_succ]
        omega
      rw [lastDigits, hfront, hlast, ih, List.replicate_succ']
      rfl

end Hex

namespace TagWidth

/-- Tags with the same text have the same number. -/
lemma format_injective (width : TagWidth) {m n : Nat} (h : width.format m = width.format n) :
    m = n := by
  have hdigits : Hex.fixed (2 * width.bytes) m = Hex.fixed (2 * width.bytes) n :=
    String.ofList_injective h
  have hnumber := congrArg Hex.number hdigits
  rwa [Hex.number_fixed, Hex.number_fixed] at hnumber

end TagWidth

end NetworkPolicy
