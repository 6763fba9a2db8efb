/-!
# Whole numbers of bounded size

Decimal numerals as settings and durations write them: ASCII digits after an optional plus sign,
read from the left and refused at the first character that makes the numeral wrong.

* `digit?` — the value of a decimal digit.
* `NumeralFault` — why a text is no such numeral.
* `readBounded` — the value of a numeral that is at most a bound.
-/

namespace NetworkPolicy.Text

/-- The value of an ASCII decimal digit. -/
def digit? (c : Char) : Option Nat :=
  if '0' ≤ c ∧ c ≤ '9' then some (c.toNat - 48) else none

/-- Whether a character is an ASCII decimal digit. -/
def isDigit (c : Char) : Bool := (digit? c).isSome

/-- Why a text is not a numeral within its bound. -/
inductive NumeralFault where
  /-- There is no text at all. -/
  | empty
  /-- A character stands where a digit has to. -/
  | notDigit
  /-- The value goes beyond the bound. -/
  | tooLarge
  deriving DecidableEq, Repr

def NumeralFault.message : NumeralFault → String
  | .empty => "cannot parse integer from empty string"
  | .notDigit => "invalid digit found in string"
  | .tooLarge => "number too large to fit in target type"

/-- One more digit at the end of the value `n`. -/
def appendDigit (bound n : Nat) (c : Char) : Except NumeralFault Nat :=
  match digit? c with
  | none => .error .notDigit
  | some d => if n * 10 + d ≤ bound then .ok (n * 10 + d) else .error .tooLarge

/-- The value of a run of digits; of no digits at all, `0`. -/
def readDigits (bound : Nat) (digits : List Char) : Except NumeralFault Nat :=
  digits.foldlM (appendDigit bound) 0

/-- The value of a numeral of at most `bound`, which may begin with a plus sign. -/
def readBounded (bound : Nat) : List Char → Except NumeralFault Nat
  | [] => .error .empty
  | ['+'] => .error .notDigit
  | '+' :: digits => readDigits bound digits
  | digits => readDigits bound digits

/-- The greatest unsigned number of 64 bits. -/
def maxWord : Nat := 1 <<< 64 - 1

end NetworkPolicy.Text
