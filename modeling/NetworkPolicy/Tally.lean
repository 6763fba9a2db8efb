/-!
# Tallies

How often each of several things has happened.

* `Tally` — things with their counts; one that never happened has no entry.
* `Tally.add` — one more occurrence.
* `Tally.count` — the count of a thing, zero without an entry.
-/

namespace NetworkPolicy

/-- Things with the number of their occurrences, in the order in which they first happened. -/
abbrev Tally (α : Type) := List (α × Nat)

namespace Tally

variable {α : Type} [DecidableEq α]

def add (thing : α) : Tally α → Tally α
  | [] => [(thing, 1)]
  | (other, n) :: rest =>
    if other = thing then (other, n + 1) :: rest else (other, n) :: add thing rest

def count (thing : α) : Tally α → Nat
  | [] => 0
  | (other, n) :: rest => if other = thing then n else count thing rest

@[simp] theorem count_add_self (thing : α) (t : Tally α) :
    count thing (add thing t) = count thing t + 1 := by
  induction t with
  | nil => simp [add, count]
  | cons entry rest ih => by_cases h : entry.1 = thing <;> simp [add, count, h, ih]

@[simp] theorem count_add_of_ne {thing other : α} (h : other ≠ thing) (t : Tally α) :
    count thing (add other t) = count thing t := by
  induction t with
  | nil => simp [add, count, h]
  | cons entry rest ih =>
    by_cases h' : entry.1 = other
    · simp [add, count, h', h]
    · simp [add, count, h', ih]

end Tally

end NetworkPolicy
