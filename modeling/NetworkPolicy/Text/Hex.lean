/-!
# Hexadecimal digits

* `lowerDigit`, `upperDigit` — the digit that shows a value below sixteen.
* `value?` — the value of a digit of either case.
* `shortest` — a number without leading zeros.
* `fixed` — a number in at least a given count of digits.
-/

namespace NetworkPolicy.Hex

/-- The lower-case digit of a value below sixteen. -/
def lowerDigit (n : Nat) : Char :=
  if n < 10 then Char.ofNat (48 + n) else Char.ofNat (87 + n)

/-- The upper-case digit of a value below sixteen. -/
def upperDigit (n : Nat) : Char :=
  if n < 10 then Char.ofNat (48 + n) else Char.ofNat (55 + n)

/-- The value of a digit of either case. -/
def value? (c : Char) : Option Nat :=
  if '0' ≤ c ∧ c ≤ '9' then some (c.toNat - 48)
  else if 'a' ≤ c ∧ c ≤ 'f' then some (c.toNat - 87)
  else if 'A' ≤ c ∧ c ≤ 'F' then some (c.toNat - 55)
  else none

/-- The last `width` digits of a number, most significant first. -/
def lastDigits : (width : Nat) → Nat → List Char
  | 0, _ => []
  | width + 1, n => lastDigits width (n / 16) ++ [lowerDigit (n % 16)]

/-- How many digits a number needs, at least one; `fuel` bounds the count. -/
def digitCount : (fuel : Nat) → Nat → Nat
  | 0, _ => 1
  | fuel + 1, n => if n < 16 then 1 else digitCount fuel (n / 16) + 1

/-- A number without leading zeros. -/
def shortest (n : Nat) : List Char :=
  lastDigits (digitCount n n) n

/-- A number in at least `width` digits: zeros are put before a number that needs fewer, and a
number that needs more is not cut. -/
def fixed (width n : Nat) : List Char :=
  lastDigits (max width (digitCount n n)) n

end NetworkPolicy.Hex
