/-!
# Tagged elements

The encoding of certificates: an element is a tag, a length, and as many bytes.

* `Der.element?` — the first element of a list of bytes.
* `Der.Reader` — readers that take elements from the front; `expect` takes one of a given tag and
  `within` reads the inside of one to its end.
* `Der.elements` — the insides of elements of one tag that fill a list of bytes.
-/

namespace NetworkPolicy.Der

/-! ## Elements -/

/-- An element and what follows it. -/
structure Element where
  tag : UInt8
  value : List UInt8
  rest : List UInt8
  deriving DecidableEq, Repr

/-- Every element is shorter than this. -/
def sizeLimit : Nat := 0xFFFF

/-- A length and what follows it.  A length is written in as few bytes as possible. -/
def length? : List UInt8 → Option (Nat × List UInt8)
  | 0x81 :: a :: rest => if 0x80 ≤ a then some (a.toNat, rest) else none
  | 0x82 :: a :: b :: rest => if 0 < a then some (a.toNat * 256 + b.toNat, rest) else none
  | a :: rest => if a < 0x80 then some (a.toNat, rest) else none
  | [] => none

/-- The first element.  Tags that need more than one byte are refused. -/
def element? : List UInt8 → Option Element
  | [] => none
  | tag :: bytes => do
    let (length, bytes) ← length? bytes
    if tag &&& 31 ≠ 31 ∧ length < sizeLimit ∧ length ≤ bytes.length then
      some ⟨tag, bytes.take length, bytes.drop length⟩
    else none

/-! ## Readers -/

/-- A reader that takes bytes from the front of a list. -/
abbrev Reader (α : Type) := StateT (List UInt8) Option α

def booleanTag : UInt8 := 0x01

def integerTag : UInt8 := 0x02

def bitsTag : UInt8 := 0x03

def octetsTag : UInt8 := 0x04

def identifierTag : UInt8 := 0x06

def sequenceTag : UInt8 := 0x30

/-- The tag of the optional part with the given number. -/
def partTag (n : UInt8) : UInt8 := 0xA0 + n

/-- The inside of the next element, which has to have the given tag. -/
def expect (tag : UInt8) : Reader (List UInt8) := fun bytes => do
  let e ← element? bytes
  if e.tag = tag then some (e.value, e.rest) else none

/-- What a reader reads when it reads all of the bytes. -/
def readAll {α : Type} (bytes : List UInt8) (r : Reader α) : Option α := do
  let (a, rest) ← r.run bytes
  if rest.isEmpty then some a else none

/-- Reads the inside of the next element to its end. -/
def within {α : Type} (tag : UInt8) (r : Reader α) : Reader α := do
  let value ← expect tag
  StateT.lift (readAll value r)

/-- Whether the next byte is a given one. -/
def startsWith (b : UInt8) : Reader Bool := fun bytes => some (bytes.head? = some b, bytes)

def isOver : Reader Bool := fun bytes => some (bytes.isEmpty, bytes)

/-- The insides of the elements, all of the given tag, that fill a list of bytes; `fuel` bounds
their number. -/
def elementsUpTo (tag : UInt8) : (fuel : Nat) → List UInt8 → Option (List (List UInt8))
  | _, [] => some []
  | 0, _ => none
  | fuel + 1, bytes => do
    let (value, rest) ← expect tag bytes
    return value :: (← elementsUpTo tag fuel rest)

/-- The insides of the elements, all of the given tag, that are left. -/
def elements (tag : UInt8) : Reader (List (List UInt8)) := fun bytes =>
  (elementsUpTo tag bytes.length bytes).map (·, [])

end NetworkPolicy.Der
