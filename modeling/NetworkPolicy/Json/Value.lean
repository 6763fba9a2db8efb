import NetworkPolicy.Text.Hex

/-!
# JSON values

The values that this library writes, and their compact text.

* `Json` — a value; numbers are counts and ports, so they are natural numbers.
* `Json.render` — its text, without white space, members in the order given.
-/

namespace NetworkPolicy

/-- A JSON value that can be written. -/
inductive Json where
  | null
  | bool (b : Bool)
  | number (n : Nat)
  | string (s : String)
  | array (items : List Json)
  | object (members : List (String × Json))
  deriving Repr

namespace Json

/-- One character of a string: quotation mark, backslash and the controls are escaped, the rest
stands for itself. -/
def escape (c : Char) : List Char :=
  if c = '"' then ['\\', '"']
  else if c = '\\' then ['\\', '\\']
  else if c = '\x08' then ['\\', 'b']
  else if c = '\x0c' then ['\\', 'f']
  else if c = '\n' then ['\\', 'n']
  else if c = '\r' then ['\\', 'r']
  else if c = '\t' then ['\\', 't']
  else if c.toNat < 0x20 then
    ['\\', 'u', '0', '0', Hex.lowerDigit (c.toNat / 16), Hex.lowerDigit (c.toNat % 16)]
  else [c]

def renderString (s : String) : List Char :=
  '"' :: s.toList.flatMap escape ++ ['"']

mutual
def renderChars : Json → List Char
  | .null => ['n', 'u', 'l', 'l']
  | .bool true => ['t', 'r', 'u', 'e']
  | .bool false => ['f', 'a', 'l', 's', 'e']
  | .number n => Nat.toDigits 10 n
  | .string s => renderString s
  | .array [] => ['[', ']']
  | .array (item :: items) => '[' :: renderChars item ++ renderItems items
  | .object [] => ['{', '}']
  | .object ((key, value) :: members) =>
    '{' :: renderString key ++ ':' :: renderChars value ++ renderMembers members

/-- The items of an array after the first one, and the closing bracket. -/
def renderItems : List Json → List Char
  | [] => [']']
  | item :: items => ',' :: renderChars item ++ renderItems items

/-- The members of an object after the first one, and the closing brace. -/
def renderMembers : List (String × Json) → List Char
  | [] => ['}']
  | (key, value) :: members =>
    ',' :: renderString key ++ ':' :: renderChars value ++ renderMembers members
end

def render (v : Json) : String :=
  String.ofList v.renderChars

end Json

end NetworkPolicy
