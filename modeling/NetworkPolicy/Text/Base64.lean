/-!
# Base64

Bytes in groups of six bits, four characters to a quantum of three bytes.

* `encode` — the text of a list of bytes, padded to whole quanta.
* `decode?` — the bytes of a text.  The padding may be left out, and bits left over at the end do
  not count; a text with a wrong character or wrong padding has no bytes.
-/

namespace NetworkPolicy.Base64

def character (n : Nat) : Char :=
  if n < 26 then Char.ofNat (65 + n)
  else if n < 52 then Char.ofNat (71 + n)
  else if n < 62 then Char.ofNat (n - 4)
  else if n = 62 then '+' else '/'

def value? (c : Char) : Option Nat :=
  if 'A' ≤ c ∧ c ≤ 'Z' then some (c.toNat - 65)
  else if 'a' ≤ c ∧ c ≤ 'z' then some (c.toNat - 71)
  else if '0' ≤ c ∧ c ≤ '9' then some (c.toNat + 4)
  else if c = '+' then some 62
  else if c = '/' then some 63
  else none

/-- The padded text of a list of bytes. -/
def encode : List UInt8 → List Char
  | [] => []
  | [a] =>
    let n := a.toNat * 16
    [character (n / 64), character (n % 64), '=', '=']
  | [a, b] =>
    let n := (a.toNat * 256 + b.toNat) * 4
    [character (n / 4096), character (n / 64 % 64), character (n % 64), '=']
  | a :: b :: c :: rest =>
    let n := (a.toNat * 256 + b.toNat) * 256 + c.toNat
    character (n / 262144) :: character (n / 4096 % 64) :: character (n / 64 % 64) ::
      character (n % 64) :: encode rest

/-- The byte in a quantum of two characters. -/
def byte? (a b : Char) : Option (List UInt8) := do
  let n := (← value? a) * 64 + (← value? b)
  return [UInt8.ofNat (n / 16)]

/-- The two bytes in a quantum of three characters. -/
def twoBytes? (a b c : Char) : Option (List UInt8) := do
  let n := ((← value? a) * 64 + (← value? b)) * 64 + (← value? c)
  return [UInt8.ofNat (n / 1024), UInt8.ofNat (n / 4)]

/-- The bytes of a text.  Only the last quantum may be short. -/
def decode? : List Char → Option (List UInt8)
  | [] => some []
  | [a, b] => byte? a b
  | [a, b, '=', '='] => byte? a b
  | [a, b, c] => twoBytes? a b c
  | [a, b, c, '='] => twoBytes? a b c
  | a :: b :: c :: d :: rest => do
    let n := (((← value? a) * 64 + (← value? b)) * 64 + (← value? c)) * 64 + (← value? d)
    let bytes ← decode? rest
    return UInt8.ofNat (n / 65536) :: UInt8.ofNat (n / 256) :: UInt8.ofNat n :: bytes
  | _ => none

end NetworkPolicy.Base64
