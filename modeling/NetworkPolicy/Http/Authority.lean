import NetworkPolicy.Settings.SocketAddress

/-!
# Where requests are sent

What stands between the scheme and the path of an address: the name of a user and a password, if
requests are to be sent with them, a host, and perhaps the number of a port.

* `Authority.parse?` — reading `name:password@host:80`.
* `Authority.text` — the host and the port as a request names them.

A host is an address of version 6 in brackets, an address of version 4, or a name.  An address has
one text, however it was written: a part of an address of version 4 may be octal or hexadecimal, and
the last part stands for all that are left out behind it.  A name is written in lower case, and the
bytes that it was written with stand for their characters.  Labels beyond ASCII stay as they are.
-/

namespace NetworkPolicy

/-- A host and a port, and what to be known by there. -/
structure Authority where
  /-- The name of a user and the password. -/
  credentials : Option (String × String)
  host : String
  /-- The port, unless it is the one that the scheme stands for. -/
  port : Option UInt16
  deriving DecidableEq, Repr

namespace Authority

open Text (isDigit)

/-! ## Hosts -/

/-- Whether a character is a control or lies beyond ASCII. -/
def isHidden (c : Char) : Bool := c.toNat < 0x20 || 0x7E < c.toNat

/-- Whether a character belongs to no name of a host. -/
def isForeign (c : Char) : Bool :=
  (isHidden c && c.toNat < 0x80) || [' ', '"', '#', '%', '/', ':', '<', '>', '?', '@', '[', '\\',
    ']', '^', '\x60', '\x7b', '|', '\x7d', '\uFFFD'].contains c

/-- The value of digits in the given base. -/
def numeral? (base : Nat) (digits : List Char) : Option Nat :=
  digits.foldlM (fun n c => do
    let digit ← Hex.value? c
    if digit < base then some (n * base + digit) else none) 0

/-- A part of an address of version 4: hexadecimal behind `0x`, octal behind another zero. -/
def part? : List Char → Option Nat
  | [] => none
  | '0' :: 'x' :: digits => numeral? 16 digits
  | '0' :: c :: digits => numeral? 8 (c :: digits)
  | digits => numeral? 10 digits

/-- What the dots of a name part.  A dot at its end parts nothing. -/
def labels (name : List Char) : List (List Char) :=
  let parts := Form.splitAt '.' name
  if parts.getLast? = some [] then parts.dropLast else parts

/-- Whether a name is the text of an address of version 4, a right or a wrong one. -/
def endsInNumber (name : List Char) : Bool :=
  match (labels name).getLast? with
  | some part => (!part.isEmpty && part.all isDigit) || (part? part).isSome
  | none => false

/-- The octets of an address of version 4.  The last part fills those that are left. -/
def octets? (name : List Char) : Option (List Nat) := do
  let parts ← (labels name).mapM part?
  let last ← parts.getLast?
  let front := parts.dropLast
  let left := 4 - front.length
  if parts.length ≤ 4 && front.all (· < 256) && last < 1 <<< (8 * left) then
    return front ++ (List.range left).reverse.map fun i => (last >>> (8 * i)) % 256
  else none

/-- The text of a host, if it can be connected to. -/
def host? : List Char → Option (List Char)
  | '[' :: s => do
    if s.getLast? = some ']' then
      let groups ← SocketAddress.groups? s.dropLast
      return '[' :: SocketAddress.renderCompressed groups.toList ++ [']']
    else none
  | s =>
    let name := (Utf8.lossy (Form.percentDecode (Utf8.bytes s))).toList.map Char.toLower
    if name.isEmpty || name.any isForeign then none
    else if endsInNumber name then (octets? name).map SocketAddress.renderOctets
    else some name

/-! ## Reading -/

/-- The port that a scheme stands for. -/
def defaultPort (secure : Bool) : UInt16 := if secure then 443 else 80

/-- The port behind a colon; without digits it is the one of the scheme. -/
def port? (secure : Bool) (s : List Char) : Option (Option UInt16) :=
  let digits := s.drop 1
  if digits.isEmpty then some none
  else (SocketAddress.numeral? 65535 digits).map fun n =>
    if UInt16.ofNat n = defaultPort secure then none else some (.ofNat n)

/-- A host and what follows it, which begins with a colon that is in no brackets. -/
def splitPort (inBrackets : Bool) : List Char → List Char × List Char
  | [] => ([], [])
  | c :: s =>
    if c = ':' && !inBrackets then ([], c :: s)
    else
      let (host, port) := splitPort (c = '[' || (inBrackets && c ≠ ']')) s
      (c :: host, port)

/-- The name and the password before the host, unless both are empty. -/
def credentials? (s : List Char) : Option (String × String) := do
  let decode (s : List Char) : Option String := Utf8.text? (Form.percentDecode (Utf8.bytes s))
  let name ← decode (s.takeWhile (· ≠ ':'))
  let password := (decode ((s.dropWhile (· ≠ ':')).drop 1)).getD ""
  if name.isEmpty && password.isEmpty then none else return (name, password)

/-- The authority that a text spells.  The last `@` is in front of the host. -/
def parse? (secure : Bool) (s : List Char) : Option Authority := do
  let user := ((s.reverse.dropWhile (· ≠ '@')).drop 1).reverse
  let (host, port) := splitPort false ((s.reverse.takeWhile (· ≠ '@')).reverse)
  return {
    credentials := credentials? user
    host := String.ofList (← host? host)
    port := ← port? secure port }

/-! ## Writing -/

/-- The host and the port as a request names them. -/
def text (a : Authority) : String :=
  match a.port with
  | some port => a.host ++ ":" ++ toString port
  | none => a.host

end Authority

end NetworkPolicy
