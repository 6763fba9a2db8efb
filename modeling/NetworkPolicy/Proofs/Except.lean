import Mathlib.Tactic.Common

/-!
# Results that may be errors

A chain of computations in `Except` ends well exactly when each of them does, and it ends with the
error of the first that does not.  The lemmas below take such a chain apart from its end: they are
stated for `= .ok _` and `= .error _`, so that a hypothesis about the whole chain becomes one about
its links.
-/

namespace NetworkPolicy

variable {ε ε' α β : Type}

/-! ## Ending well -/

lemma bind_eq_ok_iff {x : Except ε α} {f : α → Except ε β} {b : β} :
    x >>= f = .ok b ↔ ∃ a, x = .ok a ∧ f a = .ok b := by
  cases x with
  | ok a =>
      show f a = .ok b ↔ _
      simp
  | error e =>
      show Except.error e = .ok b ↔ _
      simp

lemma mapError_eq_ok_iff {wrap : ε → ε'} {x : Except ε α} {a : α} :
    x.mapError wrap = .ok a ↔ x = .ok a := by
  cases x with
  | ok a' => simp [Except.mapError]
  | error e => simp [Except.mapError]

lemma map_eq_ok_iff {f : α → β} {x : Except ε α} {b : β} :
    x.map f = .ok b ↔ ∃ a, x = .ok a ∧ f a = b := by
  cases x with
  | ok a => simp [Except.map]
  | error e => simp [Except.map]

/-! ## Ending with an error -/

lemma bind_eq_error_iff {x : Except ε α} {f : α → Except ε β} {e : ε} :
    x >>= f = .error e ↔ x = .error e ∨ ∃ a, x = .ok a ∧ f a = .error e := by
  cases x with
  | ok a =>
      show f a = .error e ↔ _
      simp
  | error e' =>
      show Except.error e' = .error e ↔ _
      simp

lemma map_eq_error_iff {f : α → β} {x : Except ε α} {e : ε} :
    x.map f = .error e ↔ x = .error e := by
  cases x with
  | ok a => simp [Except.map]
  | error e' => simp [Except.map]

end NetworkPolicy
