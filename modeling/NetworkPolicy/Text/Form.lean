import NetworkPolicy.Text.Hex
import NetworkPolicy.Text.Utf8

/-!
# Form encoding

Pairs of texts as forms and queries carry them.  A text is written byte by byte: letters, digits and
`* - . _` as themselves, the space as `+`, every other byte as `%` and two digits.

* `encode`, `encodePairs` — writing.
* `pairs` — reading: `&` parts pairs, the first `=` parts a name from its value, empty parts are
  skipped, a `%` without two digits stands for itself.
-/

namespace NetworkPolicy.Form

/-! ## Writing -/

def isLiteral (b : UInt8) : Bool :=
  (0x30 ≤ b && b ≤ 0x39) || (0x41 ≤ b && b ≤ 0x5A) || (0x61 ≤ b && b ≤ 0x7A) ||
    b == 0x2A || b == 0x2D || b == 0x2E || b == 0x5F

/-- `%` and the two digits of a byte. -/
def percent (b : UInt8) : List Char :=
  ['%', Hex.upperDigit (b.toNat / 16), Hex.upperDigit (b.toNat % 16)]

def encodeByte (b : UInt8) : List Char :=
  if isLiteral b then [Char.ofNat b.toNat]
  else if b = 0x20 then ['+']
  else percent b

def encode (s : List Char) : List Char :=
  (Utf8.bytes s).flatMap encodeByte

/-- A pair of texts with `=` between them. -/
def encodePair (pair : String × String) : List Char :=
  encode pair.1.toList ++ '=' :: encode pair.2.toList

/-- Pairs with `&` between them. -/
def encodePairs (pairs : List (String × String)) : String :=
  String.ofList (['&'].intercalate (pairs.map encodePair))

/-! ## Reading -/

/-- The value of a byte that is a hexadecimal digit. -/
def hexValue? (b : UInt8) : Option Nat :=
  Hex.value? (Char.ofNat b.toNat)

/-- The bytes that `%` and two digits stand for; a `%` without them stands for itself. -/
def percentDecode : List UInt8 → List UInt8
  | 0x25 :: high :: low :: rest =>
    match hexValue? high, hexValue? low with
    | some h, some l => UInt8.ofNat (h * 16 + l) :: percentDecode rest
    | _, _ => 0x25 :: percentDecode (high :: low :: rest)
  | b :: rest => b :: percentDecode rest
  | [] => []

/-- One text of a form: `+` is the space, and bytes that spell no character are replaced. -/
def decode (encoded : List UInt8) : String :=
  Utf8.lossy (percentDecode (encoded.map fun b => if b = 0x2B then 0x20 else b))

/-- A list cut at each occurrence of `separator`, which is left out. -/
def splitAt {α : Type} [DecidableEq α] (separator : α) : List α → List (List α)
  | [] => [[]]
  | x :: rest =>
    match splitAt separator rest with
    | [] => [[x]]
    | part :: parts => if x = separator then [] :: part :: parts else (x :: part) :: parts

/-- A name and its value: the text before the first `=` and the text after it. -/
def pair (encoded : List UInt8) : String × String :=
  (decode (encoded.takeWhile (· ≠ 0x3D)), decode ((encoded.dropWhile (· ≠ 0x3D)).drop 1))

/-- The pairs of a query or a form. -/
def pairs (query : String) : List (String × String) :=
  ((splitAt 0x26 (Utf8.bytes query.toList)).filter (· ≠ [])).map pair

end NetworkPolicy.Form
