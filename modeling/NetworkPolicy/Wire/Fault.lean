import NetworkPolicy.Json.Number
import NetworkPolicy.Ports
import NetworkPolicy.Text.Quoted

/-!
# Faults of a text that is read

Why a JSON text does not spell the value that was wanted: the first cause in the order of the text.

* `Found`, `Wanted` — the two sides of a value of the wrong type.
* `Fault` — the causes, with their wording in `Fault.message`.
-/

namespace NetworkPolicy.Wire

/-- A value that was found where another was wanted. -/
inductive Found where
  | null
  | bool (b : Bool)
  | integer (n : Int)
  /-- A real number, as it is shown. -/
  | real (shown : String)
  | text (s : String)
  | sequence
  | map
  deriving DecidableEq, Repr

/-- The wording of a value that was found. -/
def Found.message : Found → String
  | .null => "null"
  | .bool true => "boolean `true`"
  | .bool false => "boolean `false`"
  | .integer n => s!"integer `{n}`"
  | .real shown => s!"floating point `{shown}`"
  | .text s => s!"string {Text.quoted s}"
  | .sequence => "sequence"
  | .map => "map"

/-- What was wanted. -/
inductive Wanted where
  | port
  | text
  | sequence
  /-- Nothing: the name alone says everything. -/
  | unit
  /-- A record of the given name. -/
  | record (name : String)
  deriving DecidableEq, Repr

def Wanted.message : Wanted → String
  | .port => "u16"
  | .text => "a string"
  | .sequence => "a sequence"
  | .unit => "unit"
  | .record name => s!"struct {name}"

/-- Why a text does not spell the value that was wanted. -/
inductive Fault where
  /-- The text is no JSON text, or something follows the value. -/
  | malformed
  | wrongType (found : Found) (wanted : Wanted)
  /-- An integer that the wanted type does not hold. -/
  | outOfRange (n : Int) (wanted : Wanted)
  /-- A record written as an array of only `count` fields. -/
  | wrongLength (count : Nat) (record : String) (fields : Nat)
  | missingField (name : String)
  | duplicateField (name : String)
  /-- A name that is no protocol. -/
  | unknownProtocol (name : String)
  /-- A destination that is refused. -/
  | invalid (cause : ValidationError)
  deriving DecidableEq, Repr

def Fault.message : Fault → String
  | .malformed => "malformed JSON"
  | .wrongType found wanted => s!"invalid type: {found.message}, expected {wanted.message}"
  | .outOfRange n wanted => s!"invalid value: integer `{n}`, expected {wanted.message}"
  | .wrongLength count record fields =>
    let elements := if fields = 1 then "1 element" else s!"{fields} elements"
    s!"invalid length {count}, expected struct {record} with {elements}"
  | .missingField name => s!"missing field `{name}`"
  | .duplicateField name => s!"duplicate field `{name}`"
  | .unknownProtocol name => s!"unknown variant `{name}`, expected `tcp` or `udp`"
  | .invalid cause => cause.message

end NetworkPolicy.Wire
