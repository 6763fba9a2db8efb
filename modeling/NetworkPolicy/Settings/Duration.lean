import NetworkPolicy.Text.Blank
import NetworkPolicy.Text.Numeral

/-!
# Durations

A duration is written as a numeral and a unit right behind it, with blanks around both at most.
The unit may be left out of zero.

* `Duration.Unit` — the units, with the milliseconds that each stands for.
* `DurationFault` — why a text is no duration.
* `Duration.parse` — the milliseconds of a duration, which have to fit into sixty-four bits.
-/

namespace NetworkPolicy

/-- Why a text is no duration. -/
inductive DurationFault where
  /-- There is no digit in the text. -/
  | noNumeral (text : String)
  /-- What stands up to the last digit is no numeral. -/
  | numeral (cause : Text.NumeralFault)
  | unknownUnit (unit : String)
  /-- There are too many milliseconds in the duration. -/
  | tooLong (text : String)
  deriving DecidableEq, Repr

def DurationFault.message : DurationFault → String
  | .noNumeral text => s!"{text} does not contain a timeout duration value"
  | .numeral cause => cause.message
  | .unknownUnit unit =>
    s!"invalid duration unit {unit} (expected one of 'ms', 's', 'm', 'h' or 'd')"
  | .tooLong text => s!"timeout value {text} overflows when converted to 'ms'"

namespace Duration

/-- The units of durations. -/
inductive Unit where
  | millisecond
  | second
  | minute
  | hour
  | day
  deriving DecidableEq, Repr

namespace Unit

def ofName? : List Char → Option Unit
  | ['m', 's'] => some .millisecond
  | ['s'] => some .second
  | ['m'] => some .minute
  | ['h'] => some .hour
  | ['d'] => some .day
  | _ => none

def milliseconds : Unit → Nat
  | .millisecond => 1
  | .second => 1000
  | .minute => 60 * 1000
  | .hour => 60 * 60 * 1000
  | .day => 24 * 60 * 60 * 1000

end Unit

/-- How many milliseconds an abbreviation behind the value `n` stands for. -/
def factor? (n : Nat) (unit : List Char) : Option Nat :=
  if unit = [] ∧ n = 0 then some 0 else (Unit.ofName? unit).map Unit.milliseconds

/-- A text up to its last decimal digit, and the rest of it. -/
def splitNumeral (s : List Char) : List Char × List Char :=
  let isUnit (c : Char) : Bool := !Text.isDigit c
  (Text.dropEnd isUnit s, (s.reverse.takeWhile isUnit).reverse)

/-- The milliseconds of a duration without blanks around it. -/
def parseTrimmed (s : List Char) : Except DurationFault Nat := do
  let (numeral, unit) := splitNumeral s
  if numeral.isEmpty then throw (.noNumeral (String.ofList s))
  let n ← (Text.readBounded Text.maxWord numeral).mapError .numeral
  match factor? n unit with
  | none => throw (.unknownUnit (String.ofList unit))
  | some factor =>
    if n * factor ≤ Text.maxWord then return n * factor
    else throw (.tooLong (String.ofList s))

def parse (text : String) : Except DurationFault Nat := parseTrimmed (Text.trim text.toList)

end Duration

end NetworkPolicy
