import Mathlib.Tactic.Common
import Mathlib.Tactic.IntervalCases
import NetworkPolicy.Text.Utf8

/-!
# Reading back what is encoded

The bytes of a text are read as its characters again, without a gap (`symbols_bytes`).  A character
is encoded as a first byte that carries its leading bits and up to three more with six bits each;
`first_double` and its companions say what the machine makes of a first byte, `step_owed` and
`step_tail` what it makes of the others.
-/

namespace NetworkPolicy.Utf8

/-! ## First bytes -/

lemma toNat_byte {n : Nat} (h : n < 256) : (UInt8.ofNat n).toNat = n :=
  UInt8.toNat_ofNat_of_lt' h

lemma first_single {n : Nat} (h : n ≤ 0x7F) :
    first (UInt8.ofNat n) = (some (some (Char.ofNat n)), .between) := by
  have hbyte : (UInt8.ofNat n).toNat = n := toNat_byte (by omega)
  have hlow : UInt8.ofNat n < 0x80 := by
    rw [UInt8.lt_iff_toNat_lt, hbyte]
    exact Nat.lt_succ_of_le h
  rw [first, if_pos hlow, hbyte]

lemma first_double {n : Nat} (hlow : 2 ≤ n) (hhigh : n < 32) :
    first (UInt8.ofNat (n + 0xC0)) = (none, .within 0 0x80 0xBF n) := by
  interval_cases n <;> rfl

/-- After the least first byte overlong forms are ruled out, and after `0xED` the surrogates. -/
lemma first_triple {n : Nat} (h : n < 16) :
    first (UInt8.ofNat (n + 0xE0))
      = (none, .within 1 (if n = 0 then 0xA0 else 0x80) (if n = 13 then 0x9F else 0xBF) n) := by
  interval_cases n <;> rfl

/-- After the least first byte overlong forms are ruled out, and after the greatest what lies beyond
the last character. -/
lemma first_quadruple {n : Nat} (h : n < 5) :
    first (UInt8.ofNat (n + 0xF0))
      = (none, .within 2 (if n = 0 then 0x90 else 0x80) (if n = 4 then 0x8F else 0xBF) n) := by
  interval_cases n <;> rfl

variable {read : List Symbol}

lemma step_single {n : Nat} (h : n ≤ 0x7F) :
    step (read, .between) (UInt8.ofNat n) = (some (Char.ofNat n) :: read, .between) := by
  rw [step, begin, first_single h]

lemma step_first {b : UInt8} {state : State} (h : first b = (none, state)) :
    step (read, .between) b = (read, state) := by
  rw [step, begin, h]

/-! ## Continuation bytes -/

section Continuation

variable {low high : UInt8} {value n : Nat}

lemma between_iff (h : n < 64) : low ≤ UInt8.ofNat (n + 0x80) ∧ UInt8.ofNat (n + 0x80) ≤ high
    ↔ low.toNat ≤ n + 0x80 ∧ n + 0x80 ≤ high.toNat := by
  rw [UInt8.le_iff_toNat_le, UInt8.le_iff_toNat_le, toNat_byte (by omega)]

lemma bits_eq (h : n < 64) : (UInt8.ofNat (n + 0x80)).toNat % 64 = n := by
  rw [toNat_byte (by omega)]
  omega

lemma step_owed {more : Nat} (h : n < 64) (hlow : low.toNat ≤ n + 0x80)
    (hhigh : n + 0x80 ≤ high.toNat) :
    step (read, .within (more + 1) low high value) (UInt8.ofNat (n + 0x80))
      = (read, .within more 0x80 0xBF (value * 64 + n)) := by
  simp only [step, if_pos ((between_iff h).mpr ⟨hlow, hhigh⟩), bits_eq h]

/-- A continuation byte between the widest bounds. -/
lemma step_tail (h : n < 64) :
    step (read, .within 0 0x80 0xBF value) (UInt8.ofNat (n + 0x80))
      = (some (Char.ofNat (value * 64 + n)) :: read, .between) := by
  have hbounds : (0x80 : UInt8) ≤ UInt8.ofNat (n + 0x80) ∧ UInt8.ofNat (n + 0x80) ≤ 0xBF :=
    (between_iff h).mpr ⟨Nat.le_add_left 0x80 n, show n + 0x80 ≤ 0xBF by omega⟩
  simp only [step, if_pos hbounds, bits_eq h]

end Continuation

/-! ## Characters and texts -/

lemma foldl_step_double {n : Nat} (hlow : 0x7F < n) (hhigh : n ≤ 0x7FF) :
    [UInt8.ofNat (n / 64 + 0xC0), UInt8.ofNat (n % 64 + 0x80)].foldl step (read, .between)
      = (some (Char.ofNat n) :: read, .between) := by
  have hsum : n / 64 * 64 + n % 64 = n := Nat.div_add_mod' n 64
  rw [List.foldl_cons, step_first (first_double (by omega) (by omega)), List.foldl_cons,
    step_tail (by omega), hsum, List.foldl_nil]

lemma foldl_step_triple {n : Nat} (hlow : 0x7FF < n) (hhigh : n ≤ 0xFFFF)
    (hvalid : n < 0xD800 ∨ 0xDFFF < n) :
    [UInt8.ofNat (n / 4096 + 0xE0), UInt8.ofNat (n / 64 % 64 + 0x80),
        UInt8.ofNat (n % 64 + 0x80)].foldl step (read, .between)
      = (some (Char.ofNat n) :: read, .between) := by
  have hsum : (n / 4096 * 64 + n / 64 % 64) * 64 + n % 64 = n := by omega
  rw [List.foldl_cons, step_first (first_triple (by omega)), List.foldl_cons,
    step_owed (by omega) ?least ?greatest, List.foldl_cons, step_tail (by omega), hsum,
    List.foldl_nil]
  case least =>
    split
    · show 0xA0 ≤ n / 64 % 64 + 0x80
      omega
    · exact Nat.le_add_left 0x80 _
  case greatest =>
    split
    · show n / 64 % 64 + 0x80 ≤ 0x9F
      omega
    · show n / 64 % 64 + 0x80 ≤ 0xBF
      omega

lemma foldl_step_quadruple {n : Nat} (hlow : 0xFFFF < n) (hhigh : n < 0x110000) :
    [UInt8.ofNat (n / 262144 + 0xF0), UInt8.ofNat (n / 4096 % 64 + 0x80),
        UInt8.ofNat (n / 64 % 64 + 0x80), UInt8.ofNat (n % 64 + 0x80)].foldl step (read, .between)
      = (some (Char.ofNat n) :: read, .between) := by
  have hsum : ((n / 262144 * 64 + n / 4096 % 64) * 64 + n / 64 % 64) * 64 + n % 64 = n := by omega
  rw [List.foldl_cons, step_first (first_quadruple (by omega)), List.foldl_cons,
    step_owed (by omega) ?least ?greatest, List.foldl_cons,
    step_owed (by omega) (Nat.le_add_left 0x80 _) (show n / 64 % 64 + 0x80 ≤ 0xBF by omega),
    List.foldl_cons, step_tail (by omega), hsum, List.foldl_nil]
  case least =>
    split
    · show 0x90 ≤ n / 4096 % 64 + 0x80
      omega
    · exact Nat.le_add_left 0x80 _
  case greatest =>
    split
    · show n / 4096 % 64 + 0x80 ≤ 0x8F
      omega
    · show n / 4096 % 64 + 0x80 ≤ 0xBF
      omega

/-- The bytes of a character are read as that character. -/
lemma foldl_step_utf8EncodeChar (c : Char) (read : List Symbol) :
    (String.utf8EncodeChar c).foldl step (read, .between) = (some c :: read, .between) := by
  have hvalid : c.toNat < 0xD800 ∨ 0xDFFF < c.toNat ∧ c.toNat < 0x110000 := c.valid
  have hval : c.val.toNat = c.toNat := rfl
  have hchar : Char.ofNat c.toNat = c := Char.ofNat_toNat c
  simp only [String.utf8EncodeChar, hval]
  -- the modulus of the first byte never cuts anything off
  split
  case isTrue h => rw [List.foldl_cons, step_single h, hchar, List.foldl_nil]
  case isFalse h₁ =>
  split
  case isTrue h₂ =>
    rw [Nat.mod_eq_of_lt (show c.toNat / 64 < 0x20 by omega),
      foldl_step_double (by omega) h₂, hchar]
  case isFalse h₂ =>
  split
  case isTrue h₃ =>
    rw [Nat.mod_eq_of_lt (show c.toNat / 4096 < 0x10 by omega),
      foldl_step_triple (by omega) h₃ (by omega), hchar]
  case isFalse h₃ =>
    rw [Nat.mod_eq_of_lt (show c.toNat / 262144 < 0x08 by omega),
      foldl_step_quadruple (by omega) (by omega), hchar]

lemma foldl_step_bytes (s : List Char) : ∀ read : List Symbol,
    (bytes s).foldl step (read, .between) = ((s.map some).reverse ++ read, .between) := by
  induction s with
  | nil => exact fun _ => rfl
  | cons c s ih =>
      intro read
      rw [bytes, List.flatMap_cons, List.foldl_append, foldl_step_utf8EncodeChar, ← bytes, ih,
        List.map_cons, List.reverse_cons, List.append_assoc, List.singleton_append]

/-- **The bytes of a text spell the text.** -/
theorem symbols_bytes (s : List Char) : symbols (bytes s) = s.map some := by
  rw [symbols, foldl_step_bytes, finish, List.append_nil, List.reverse_reverse]

end NetworkPolicy.Utf8
