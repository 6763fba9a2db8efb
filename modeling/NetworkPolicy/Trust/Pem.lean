import NetworkPolicy.Text.Base64
import NetworkPolicy.Text.Form

/-!
# Bundles of encoded objects

A bundle is a text of lines.  Objects stand between a line that begins one and a line that ends it,
in base64 with blanks anywhere; other lines say nothing.

* `Pem.Label` — what an object is said to be.
* `Pem.sections?` — the objects of the kinds that are known, in their order; none if one of them is
  left open or is no base64, or if a beginning is malformed.
-/

namespace NetworkPolicy.Pem

/-! ## Lines -/

abbrev Label := List Char

def certificate : Label := "CERTIFICATE".toList

/-- The labels of the objects that are decoded.  Objects with other labels are skipped unread. -/
def knownLabels : List Label :=
  certificate :: ["PUBLIC KEY", "RSA PRIVATE KEY", "PRIVATE KEY", "EC PRIVATE KEY", "X509 CRL",
    "CERTIFICATE REQUEST", "ECHCONFIG"].map String.toList

/-- A line as it matters to the reading of a bundle. -/
inductive Line where
  /-- The beginning of an object. -/
  | opening (label : Label)
  /-- A beginning that does not end with five dashes. -/
  | badOpening
  /-- Any other line. -/
  | other (text : List Char)
  deriving DecidableEq, Repr

/-- What a line is.  Blanks among the dashes at the end of a beginning do not count. -/
def Line.ofText (s : List Char) : Line :=
  let opening := "-----BEGIN ".toList
  if opening.isPrefixOf s then
    let ending := s.reverse.takeWhile fun c => c = '-' || c = ' '
    if ending.count '-' = 5 then
      let rest := s.reverse.drop (ending.length - (ending.reverse.takeWhile (· = ' ')).length)
      .opening (rest.reverse.drop opening.length)
    else .badOpening
  else .other s

def isClosing (label : Label) (s : List Char) : Bool :=
  ("-----END ".toList ++ label ++ "-----".toList).isPrefixOf s

def lines (s : List Char) : List (List Char) :=
  Form.splitAt '\n' (s.map fun c => if c = '\r' then '\n' else c)

/-! ## Objects -/

/-- How far a bundle has been read: the objects, newest first, the label of the one that is open,
and the lines collected for the next one. -/
structure Reader where
  objects : List (Label × List UInt8)
  label : Option Label
  body : List (List Char)
  deriving DecidableEq, Repr

/-- Whether a character may stand anywhere in a content and says nothing: a space, or a control
from the tab to the carriage return. -/
def isSilent (c : Char) : Bool := c = ' ' || ('\t' ≤ c && c ≤ '\r')

/-- The content of an object, of which the lines are given newest first. -/
def content? (body : List (List Char)) : Option (List UInt8) :=
  Base64.decode? (body.reverse.flatten.filter (!isSilent ·))

namespace Reader

/-- Ends the open object. -/
def close (r : Reader) (label : Label) : Option Reader :=
  if knownLabels.contains label then do
    let content ← content? r.body
    return ⟨(label, content) :: r.objects, none, []⟩
  else some ⟨r.objects, none, []⟩

/-- One line.  A beginning inside an object gives it another label. -/
def step (r : Reader) (line : List Char) : Option Reader :=
  match Line.ofText line, r.label with
  | .opening label, _ => some { r with label := some label }
  | .badOpening, _ => none
  | .other _, none => some r
  | .other s, some label =>
    if isClosing label s then r.close label else some { r with body := s :: r.body }

end Reader

/-- The objects of a bundle with their labels. -/
def sections? (bytes : List UInt8) : Option (List (Label × List UInt8)) := do
  let r ← (lines (bytes.map fun b => Char.ofNat b.toNat)).foldlM Reader.step ⟨[], none, []⟩
  if r.label.isNone then some r.objects.reverse else none

end NetworkPolicy.Pem
