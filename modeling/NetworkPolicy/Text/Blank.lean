/-!
# Blank characters

White space in the sense of the Unicode property, and its removal from both ends of a text.

* `isBlank` — the property.
* `trim` — a text without the blanks around it.
-/

namespace NetworkPolicy.Text

/-- White space of every script: the five ASCII controls, the space, the line and paragraph
separators, and the spaces of fixed or variable width. -/
def isBlank (c : Char) : Bool :=
  let n := c.toNat
  (0x09 ≤ n && n ≤ 0x0D) || n == 0x20 || n == 0x85 || n == 0xA0 || n == 0x1680 ||
    (0x2000 ≤ n && n ≤ 0x200A) || n == 0x2028 || n == 0x2029 || n == 0x202F || n == 0x205F ||
    n == 0x3000

/-- A text without the characters at its end that satisfy `p`. -/
def dropEnd (p : Char → Bool) (s : List Char) : List Char :=
  (s.reverse.dropWhile p).reverse

/-- A text without the blanks at its two ends. -/
def trim (s : List Char) : List Char :=
  dropEnd isBlank (s.dropWhile isBlank)

end NetworkPolicy.Text
