import NetworkPolicy.Text.Alphanumeric
import NetworkPolicy.Text.Blank
import NetworkPolicy.Text.Form
import NetworkPolicy.Text.Numeral

/-!
# Filters of the log

A filter is a list of directives with commas between them.  A directive is a level, or a target that
a span may follow, and a level behind `=`.  The span may ask for a field between braces, in which
any text will do.

* `LogFilter.Part` — the part of a directive that is being read; `step` goes on by a character.
* `LogFilter.isValid` — whether a text is a filter.
-/

namespace NetworkPolicy.LogFilter

/-! ## Levels -/

/-- Whether a text names a level, in letters of either case or as a number from zero to five.  No
text at all stands for every level. -/
def isLevel (s : List Char) : Bool :=
  ["", "off", "error", "warn", "info", "debug", "trace"].contains
    (String.ofList (s.map Char.toLower))
    || (Text.readBounded 5 s).toBool

/-! ## Directives -/

/-- The part of a directive that is being read. -/
inductive Part where
  | start
  /-- A target, or a level that stands alone. -/
  | target
  /-- The name of a span, between brackets. -/
  | span
  /-- The field of a span, between braces; `isEmpty` as long as nothing of it has been read. -/
  | field (isEmpty : Bool)
  /-- Behind the field. -/
  | fieldEnd
  /-- Behind a span. -/
  | spanEnd
  /-- A level behind `=`, newest character first. -/
  | level (text : List Char)
  deriving DecidableEq, Repr

/-- Whether a target may begin with a character. -/
def isTargetStart (c : Char) : Bool :=
  c = '-' || c = ':' || c = '_' || Text.isAlphanumeric c

def step : Part → Char → Option Part
  | .start, c => if c = '[' then some .span else if isTargetStart c then some .target else none
  | .target, c => some (if c = '=' then .level [] else if c = '[' then .span else .target)
  | .span, c => some (if c = ']' then .spanEnd else if c = '{' then .field true else .span)
  | .field isEmpty, c =>
    if c ≠ '}' then some (.field false) else if isEmpty then none else some .fieldEnd
  | .fieldEnd, c => if c = ']' then some .spanEnd else none
  | .spanEnd, c => if c = '=' then some (.level []) else none
  | .level text, c => some (.level (c :: text))

/-- Whether a directive may end in a part.  A level that is read to the end of the directive cannot
have blanks around it, and neither can the directive then. -/
def mayEnd (hasBlanks : Bool) : Part → Bool
  | .target | .spanEnd => true
  | .level text => !hasBlanks && isLevel text.reverse
  | _ => false

def isDirective (s : List Char) : Bool :=
  let trimmed := Text.trim s
  match trimmed.foldlM step .start with
  | some part => mayEnd (trimmed ≠ s) part
  | none => false

/-- Whether a text is a filter.  Directives without text are skipped. -/
def isValid (text : String) : Bool :=
  ((Form.splitAt ',' text.toList).filter (· ≠ [])).all isDirective

end NetworkPolicy.LogFilter
