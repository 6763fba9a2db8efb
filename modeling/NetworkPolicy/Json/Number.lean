import NetworkPolicy.Decimal.Shortest
import NetworkPolicy.Text.Numeral

/-!
# What numerals stand for

A numeral with neither point nor exponent is an integer as long as it fits into sixty-four bits;
every other numeral, and `-0`, is a real number in double precision.

A real number is computed from the digits that fit into sixty-four bits and a power of ten, in one
multiplication or division, so it may miss the nearest double by a little.  A numeral whose value
goes beyond the greatest double stands for no number.

* `Number.ofLexeme` — what a numeral stands for.
* `Number.show?` — how a fault message shows it.
-/

namespace NetworkPolicy

/-- What a numeral stands for. -/
inductive Number where
  | integer (n : Int)
  | real (x : Float)
  /-- The value is too great for a double. -/
  | excess
  deriving Repr

namespace Number

open Text (isDigit digit? maxWord)

/-! ## Digits and powers of ten -/

/-- A value `significand · 10^exponent`; `full` once a digit has been left out. -/
structure Scaled where
  significand : Nat
  exponent : Int
  full : Bool
  deriving Repr

/-- One more digit of the whole part; a digit that no longer fits counts as a power of ten. -/
def Scaled.wholeDigit (s : Scaled) (d : Nat) : Scaled :=
  if !s.full && s.significand * 10 + d ≤ maxWord then
    { s with significand := s.significand * 10 + d }
  else { s with exponent := s.exponent + 1, full := true }

/-- One more digit of the fraction; digits from the first that no longer fits are left out. -/
def Scaled.fractionDigit (s : Scaled) (d : Nat) : Scaled :=
  if !s.full && s.significand * 10 + d ≤ maxWord then
    { s with significand := s.significand * 10 + d, exponent := s.exponent - 1 }
  else { s with full := true }

/-- The values of the digits at the front of a text, and the rest of the text. -/
def takeDigits (s : List Char) : List Nat × List Char :=
  ((s.takeWhile isDigit).filterMap digit?, s.dropWhile isDigit)

def power (e : Nat) : Float := Float.ofScientific 1 false e

/-- The double next to `x · 10^exponent` that one operation per 308 places gives; `none` beyond
the greatest double. -/
def scale : (fuel : Nat) → (x : Float) → (exponent : Int) → Option Float
  | 0, x, _ => some x
  | fuel + 1, x, exponent =>
    if exponent.natAbs ≤ 308 then
      if 0 ≤ exponent then
        let y := x * power exponent.natAbs
        if y.isInf then none else some y
      else some (x / power exponent.natAbs)
    else if x == 0 then some x
    else if 0 ≤ exponent then none
    else scale fuel (x / power 308) (exponent + 308)

/-- The greatest exponent that is looked at digit by digit. -/
def maxExponent : Nat := 1 <<< 31 - 1

/-- The number of a scaled value with the exponent written behind it. -/
def ofScaled (negative : Bool) (s : Scaled) (minus : Bool) (digits : List Nat) : Number :=
  let written := digits.foldl (fun n d => min (n * 10 + d) (maxExponent + 1)) 0
  let sign (x : Float) : Float := if negative then -x else x
  if maxExponent < written then
    if s.significand ≠ 0 && !minus then .excess else .real (sign 0)
  else
    let exponent := if minus then s.exponent - written else s.exponent + written
    match scale 4 s.significand.toUInt64.toFloat exponent with
    | some x => .real (sign x)
    | none => .excess

/-- An integer, or the real number it becomes when it does not fit into sixty-four bits. -/
def ofWhole (negative : Bool) (s : Scaled) : Number :=
  if s.full then ofScaled negative s false []
  else if negative then
    if s.significand = 0 ∨ 1 <<< 63 < s.significand then ofScaled true s false []
    else .integer (-s.significand)
  else .integer s.significand

/-- The exponent behind the letter: whether it is negative, and its digits. -/
def takeExponent : List Char → Bool × List Nat
  | '-' :: s => (true, (takeDigits s).1)
  | '+' :: s => (false, (takeDigits s).1)
  | s => (false, (takeDigits s).1)

/-- What a numeral of the JSON grammar stands for. -/
def ofLexeme (lexeme : List Char) : Number :=
  let negative := lexeme.head? = some '-'
  let (digits, rest) := takeDigits (if negative then lexeme.tail else lexeme)
  let whole := digits.foldl Scaled.wholeDigit ⟨0, 0, false⟩
  match rest with
  | [] => ofWhole negative whole
  | '.' :: rest =>
    let (digits, rest) := takeDigits rest
    let scaled := digits.foldl Scaled.fractionDigit { whole with full := false }
    let (minus, digits) := takeExponent rest.tail
    ofScaled negative scaled minus digits
  | _ :: rest =>
    let (minus, digits) := takeExponent rest
    ofScaled negative whole minus digits

/-! ## Showing a real number -/

/-- Digits with a decimal point, or with a signed exponent if the point would be far away:
positional from `10^-5` on and below `10^16`, always with a point. -/
def layout (digits : List Char) (exponent : Int) : List Char :=
  let count : Int := digits.length
  let point := count + exponent
  if 0 ≤ exponent ∧ point ≤ 16 then
    digits ++ List.replicate exponent.toNat '0' ++ ['.', '0']
  else if 0 < point ∧ point ≤ 16 then
    digits.take point.toNat ++ '.' :: digits.drop point.toNat
  else if -5 < point ∧ point ≤ 0 then
    '0' :: '.' :: List.replicate (-point).toNat '0' ++ digits
  else
    let e := point - 1
    let shown := (if e < 0 then '-' else '+') :: Nat.toDigits 10 e.natAbs
    match digits with
    | [] => []
    | [d] => d :: 'e' :: shown
    | d :: rest => d :: '.' :: rest ++ 'e' :: shown

/-- The shortest text that reads back as a finite double. -/
def showReal (x : Float) : String :=
  let bits := x.toBits.toNat
  let sign := if 1 <<< 63 ≤ bits then ['-'] else []
  let positive := bits % (1 <<< 63)
  if positive = 0 then String.ofList (sign ++ ['0', '.', '0'])
  else
    let (digits, exponent) := (Decimal.Binary.ofBits positive).shortest
    String.ofList (sign ++ layout (Nat.toDigits 10 digits) exponent)

end Number

end NetworkPolicy
