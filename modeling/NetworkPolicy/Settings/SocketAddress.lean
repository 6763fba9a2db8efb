import NetworkPolicy.Text.Form
import NetworkPolicy.Text.Numeral

/-!
# Addresses to listen on

An address of either version of the protocol, and the number of a port.

* `SocketAddress.parse?` — reading `1.2.3.4:80` and `[::1]:80`.  A part of an address of version 4
  has no leading zeros, a number of a port may have some.  An address of version 6 may leave out one
  run of zero groups, may end with an address of version 4, and may name a scope behind `%`.
* `SocketAddress.render` — the text of an address: the longest run of at least two zero groups is
  left out, the first one of several such runs.
-/

namespace NetworkPolicy

/-- An address with a port. -/
inductive SocketAddress where
  | v4 (octets : Vector UInt8 4) (port : UInt16)
  | v6 (groups : Vector UInt16 8) (scope : UInt32) (port : UInt16)
  deriving DecidableEq, Repr

namespace SocketAddress

open Text (isDigit)

/-! ## Reading -/

/-- The value of at least one and at most `width` hexadecimal digits. -/
def hexNumeral? (width : Nat) (s : List Char) : Option Nat :=
  if s.isEmpty || width < s.length then none
  else s.foldlM (fun n c => (Hex.value? c).map (n * 16 + ·)) 0

/-- The value of decimal digits, at least one of them, up to a bound. -/
def numeral? (bound : Nat) (s : List Char) : Option Nat :=
  if !s.isEmpty && s.all isDigit then (Text.readDigits bound s).toOption else none

def exactly? {α : Type} (n : Nat) (values : List α) : Option (Vector α n) :=
  if h : values.length = n then some ⟨values.toArray, by simpa using h⟩ else none

/-- An octet: at most three digits and no zero in front of others. -/
def octet? (s : List Char) : Option UInt8 :=
  if s.length ≤ 3 && (s.head? ≠ some '0' || s.length = 1) then (numeral? 255 s).map UInt8.ofNat
  else none

/-- The octets of an address of version 4. -/
def octets? (s : List Char) : Option (Vector UInt8 4) := do
  exactly? 4 (← (Form.splitAt '.' s).mapM octet?)

/-- A group of an address of version 6. -/
def group? (s : List Char) : Option UInt16 := (hexNumeral? 4 s).map UInt16.ofNat

def joinOctets (high low : UInt8) : UInt16 := UInt16.ofNat (high.toNat * 256 + low.toNat)

/-- The two groups that the octets of an address of version 4 make. -/
def groupsOfOctets (octets : Vector UInt8 4) : List UInt16 :=
  [joinOctets octets[0] octets[1], joinOctets octets[2] octets[3]]

/-- The groups between colons; the last part may be an address of version 4. -/
def groupsOfParts? : List (List Char) → Option (List UInt16)
  | [] => some []
  | [part] => (group? part).map ([·]) <|> (octets? part).map groupsOfOctets
  | part :: parts => do
    let group ← group? part
    return group :: (← groupsOfParts? parts)

/-- The groups of a text without `::`; of no text, none. -/
def groupsOf? (s : List Char) : Option (List UInt16) :=
  if s.isEmpty then some [] else groupsOfParts? (Form.splitAt ':' s)

/-- The texts before and behind the first `::`. -/
def splitGap? : List Char → Option (List Char × List Char)
  | ':' :: ':' :: rest => some ([], rest)
  | c :: rest => (splitGap? rest).map fun (before, behind) => (c :: before, behind)
  | [] => none

/-- The groups of an address of version 6.  `::` stands for at least one group, and an address of
version 4 cannot stand before it. -/
def groups? (s : List Char) : Option (Vector UInt16 8) :=
  match splitGap? s with
  | none => do exactly? 8 (← groupsOf? s)
  | some (before, behind) => do
    let front ← groupsOf? before
    let back ← groupsOf? behind
    let count := front.length + back.length
    if before.contains '.' || 7 < count then none
    else exactly? 8 (front ++ List.replicate (8 - count) 0 ++ back)

def port? : List Char → Option UInt16
  | ':' :: digits => (numeral? 65535 digits).map UInt16.ofNat
  | _ => none

/-- The scope behind `%`, zero if there is none. -/
def scope? : List Char → Option UInt32
  | [] => some 0
  | _ :: digits => (numeral? (1 <<< 32 - 1) digits).map UInt32.ofNat

def parse? (text : String) : Option SocketAddress :=
  match text.toList with
  | '[' :: s => do
    let inside := s.takeWhile (· ≠ ']')
    let groups ← groups? (inside.takeWhile (· ≠ '%'))
    let scope ← scope? (inside.dropWhile (· ≠ '%'))
    return .v6 groups scope (← port? ((s.dropWhile (· ≠ ']')).drop 1))
  | s => do
    return .v4 (← octets? (s.takeWhile (· ≠ ':'))) (← port? (s.dropWhile (· ≠ ':')))

/-! ## Writing -/

def decimal (n : Nat) : List Char := Nat.toDigits 10 n

/-- The length of the run of zero groups at the front. -/
def zeroRun (groups : List UInt16) : Nat := (groups.takeWhile (· = 0)).length

/-- The place and the length of the longest run of zero groups, the first one of several, in groups
of which the first one is at `place`. -/
def longestRun (place : Nat) : List UInt16 → Nat × Nat
  | [] => (place, 0)
  | group :: groups =>
    let here := zeroRun (group :: groups)
    let later := longestRun (place + 1) groups
    if later.2 ≤ here then (place, here) else later

def renderGroups (groups : List UInt16) : List Char :=
  [':'].intercalate (groups.map fun group => Hex.shortest group.toNat)

def renderOctets (octets : List Nat) : List Char :=
  ['.'].intercalate (octets.map decimal)

/-- Groups without the longest run of at least two that are zero. -/
def renderCompressed (groups : List UInt16) : List Char :=
  let (start, length) := longestRun 0 groups
  if 1 < length then
    renderGroups (groups.take start) ++ [':', ':'] ++ renderGroups (groups.drop (start + length))
  else renderGroups groups

/-- An address of version 6.  One that stands for an address of version 4 shows it. -/
def renderAddress : List UInt16 → List Char
  | [0, 0, 0, 0, 0, 0xFFFF, high, low] =>
    "::ffff:".toList ++
      renderOctets [high.toNat / 256, high.toNat % 256, low.toNat / 256, low.toNat % 256]
  | groups => renderCompressed groups

def render : SocketAddress → String
  | .v4 octets port =>
    String.ofList (renderOctets (octets.toList.map UInt8.toNat) ++ ':' :: decimal port.toNat)
  | .v6 groups scope port =>
    let scope := if scope = 0 then [] else '%' :: decimal scope.toNat
    String.ofList ('[' :: renderAddress groups.toList ++ scope ++ ']' :: ':' :: decimal port.toNat)

end SocketAddress

end NetworkPolicy
