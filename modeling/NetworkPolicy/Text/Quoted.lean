import NetworkPolicy.Text.Hex
import NetworkPolicy.Text.Shown

/-!
# Quoted text

How a fault message shows a piece of text that it found: between quotation marks, with escapes for
the marks themselves, for the backslash, and for every character that would not be seen.

* `escape` — one character as it stands in a quoted text.
* `quoted` — a whole text.
-/

namespace NetworkPolicy.Text

/-- One character of a quoted text: itself, a backslash and a letter for the usual controls, or its
code point between braces. -/
def escape (c : Char) : List Char :=
  if c = '\x00' then ['\\', '0']
  else if c = '\t' then ['\\', 't']
  else if c = '\n' then ['\\', 'n']
  else if c = '\r' then ['\\', 'r']
  else if c = '"' then ['\\', '"']
  else if c = '\\' then ['\\', '\\']
  else if isShown c then [c]
  else ['\\', 'u', '{'] ++ Hex.shortest c.toNat ++ ['}']

def quoted (s : String) : String :=
  String.ofList ('"' :: s.toList.flatMap escape ++ ['"'])

end NetworkPolicy.Text
