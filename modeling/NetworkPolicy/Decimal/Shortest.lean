/-!
# Shortest decimals of binary fractions

A positive number `m · 2^q` that is stored with a limited significand stands for every real number
that rounds to it.  Among the decimals in that interval this module finds those with the fewest
digits, and of two such the nearer one.

* `Binary` — the number, and whether the gap below it is half of the gap above.
* `Binary.shortest` — the digits, as a natural number, and the power of ten they are multiplied by.

All comparisons are made in natural numbers after both sides have been brought to one denominator.
-/

namespace NetworkPolicy.Decimal

/-- The number `m · 2^q`.  `narrow` says that the next smaller number is half as far away as the
next greater one. -/
structure Binary where
  m : Nat
  q : Int
  narrow : Bool
  deriving Repr

/-- A fraction of natural numbers. -/
structure Ratio where
  num : Nat
  den : Nat
  deriving Repr

namespace Ratio

/-- `r ≤ s`. -/
def le (r s : Ratio) : Bool := r.num * s.den ≤ s.num * r.den

/-- `r < s`. -/
def lt (r s : Ratio) : Bool := r.num * s.den < s.num * r.den

/-- `n · b^e`. -/
def scaled (n b : Nat) (e : Int) : Ratio :=
  if 0 ≤ e then ⟨n * b.pow e.toNat, 1⟩ else ⟨n, b.pow (-e).toNat⟩

/-- The greatest natural number that is not above `r / 10^e`. -/
def floorAt (r : Ratio) (e : Int) : Nat :=
  if 0 ≤ e then r.num / (r.den * Nat.pow 10 e.toNat)
  else r.num * Nat.pow 10 (-e).toNat / r.den

def distance (r s : Ratio) : Ratio :=
  let a := r.num * s.den
  let b := s.num * r.den
  ⟨(a - b) + (b - a), r.den * s.den⟩

end Ratio

/-- How many decimal places a fraction below one begins with that are zero. -/
def leadingZeros : (fuel : Nat) → Ratio → Int
  | 0, _ => 0
  | fuel + 1, r => if r.num * 10 < r.den then leadingZeros fuel ⟨r.num * 10, r.den⟩ + 1 else 0

/-- The power of ten just above a positive fraction. -/
def magnitude (r : Ratio) : Int :=
  if r.den ≤ r.num then (Nat.toDigits 10 (r.num / r.den)).length
  else -leadingZeros r.den r

namespace Binary

/-- The number itself. -/
def value (b : Binary) : Ratio := Ratio.scaled (4 * b.m) 2 (b.q - 2)

/-- The lower end of the interval of numbers that round to it. -/
def lower (b : Binary) : Ratio :=
  Ratio.scaled (if b.narrow then 4 * b.m - 1 else 4 * b.m - 2) 2 (b.q - 2)

/-- The upper end of that interval. -/
def upper (b : Binary) : Ratio := Ratio.scaled (4 * b.m + 2) 2 (b.q - 2)

/-- Whether `r` rounds to the number; the ends do if the significand is even. -/
def admits (b : Binary) (r : Ratio) : Bool :=
  if b.m % 2 = 0 then b.lower.le r && r.le b.upper else b.lower.lt r && r.lt b.upper

/-- The multiple of `10^e` that rounds to the number and is nearest to it, if there is one. -/
def onGrid (b : Binary) (e : Int) : Option Nat :=
  let below := b.value.floorAt e
  let candidate (n : Nat) := Ratio.scaled n 10 e
  let near := b.admits (candidate below)
  let far := b.admits (candidate (below + 1))
  if near && far then
    let down := (candidate below).distance b.value
    let up := (candidate (below + 1)).distance b.value
    some (if down.lt up || (down.le up && below % 2 == 0) then below else below + 1)
  else if near then some below
  else if far then some (below + 1)
  else none

/-- The coarsest grid of powers of ten, from `10^e` down, that holds a decimal for the number. -/
def search (b : Binary) : (fuel : Nat) → (e : Int) → Nat × Int
  | 0, e => (b.value.floorAt e, e)
  | fuel + 1, e =>
    match b.onGrid e with
    | some n => (n, e)
    | none => search b fuel (e - 1)

/-- The digits of the shortest decimal and the power of ten they are multiplied by. -/
def shortest (b : Binary) : Nat × Int :=
  b.search 20 (magnitude b.value)

end Binary

/-- The number that the bits of a positive finite double stand for. -/
def Binary.ofBits (bits : Nat) : Binary :=
  let field : Nat := bits % (1 <<< 52)
  let exponent : Nat := bits / (1 <<< 52) % (1 <<< 11)
  if exponent = 0 then ⟨field, -1074, false⟩
  else ⟨field + 1 <<< 52, Int.ofNat exponent - 1075, field == 0 && 1 < exponent⟩

end NetworkPolicy.Decimal
