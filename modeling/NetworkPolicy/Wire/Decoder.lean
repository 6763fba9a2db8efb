import NetworkPolicy.Json.Draft
import NetworkPolicy.Wire.Fault

/-!
# Reading values out of drafts

A decoder goes through a draft in the order of the text and stops at the first fault.

* `port`, `text`, `list`, `optional` — decoders of parts.
* `Fields` — the fields of a record; `record` reads them from an object, in any order and among
  other members, or from an array of the fields in their order.
* `decode` — the value of a whole document.
-/

namespace NetworkPolicy.Wire

abbrev Decoder (α : Type) := Draft → Except Fault α

/-! ## Parts -/

/-- A number that was found where another value was wanted. -/
def foundNumber (lexeme : List Char) : Except Fault Found :=
  match Number.ofLexeme lexeme with
  | .integer n => .ok (.integer n)
  | .real x => .ok (.real (Number.showReal x))
  | .excess => .error .malformed

/-- What a draft shows itself to be.  Of a container no more than its opening bracket is looked
at. -/
def found : Draft → Except Fault Found
  | .null => .ok .null
  | .bool b => .ok (.bool b)
  | .number lexeme => foundNumber lexeme
  | .string (some s) => .ok (.text s)
  | .string none => .error .malformed
  | .array _ _ => .ok .sequence
  | .object _ _ => .ok .map
  | .fault => .error .malformed

/-- The refusal of a draft that is not what was wanted. -/
def refuse {α : Type} (wanted : Wanted) (draft : Draft) : Except Fault α := do
  .error (.wrongType (← found draft) wanted)

def port : Decoder UInt16
  | .number lexeme =>
    match Number.ofLexeme lexeme with
    | .integer n =>
      if 0 ≤ n ∧ n < 65536 then .ok (UInt16.ofNat n.toNat) else .error (.outOfRange n .port)
    | _ => refuse .port (.number lexeme)
  | draft => refuse .port draft

def text : Decoder String
  | .string (some s) => .ok s
  | draft => refuse .text draft

def list {α : Type} (item : Decoder α) : Decoder (List α)
  | .array items closed => do
    let values ← items.mapM item
    if closed then .ok values else .error .malformed
  | draft => refuse .sequence draft

def optional {α : Type} (value : Decoder α) : Decoder (Option α)
  | .null => .ok none
  | draft => some <$> value draft

/-- Null in the place of a value that says nothing. -/
def unit : Decoder Unit
  | .null => .ok ()
  | draft => refuse .unit draft

/-! ## Records -/

/-- The fields of a record in their order: `σ` has a slot for each field that is filled when the
field has been read, and `α` is the record.  `absent` is the value of a field that may be left
out. -/
inductive Fields : (σ α : Type) → Type 1 where
  | nil : Fields Unit Unit
  | cons {α σ β : Type} (name : String) (absent : Option α) (read : Decoder α)
    (rest : Fields σ β) : Fields (Option α × σ) (α × β)

namespace Fields

def blank : {σ α : Type} → Fields σ α → σ
  | _, _, .nil => ()
  | _, _, .cons _ _ _ rest => (none, rest.blank)

def count : {σ α : Type} → Fields σ α → Nat
  | _, _, .nil => 0
  | _, _, .cons _ _ _ rest => rest.count + 1

/-- Reads a member into its slot.  A slot that is full is a fault; there is no answer for a key
that is not the name of a field. -/
def put : {σ α : Type} → Fields σ α → String → Draft → σ → Option (Except Fault σ)
  | _, _, .nil, _, _, _ => none
  | _, _, .cons name _ read rest, key, value, (slot, slots) =>
    if key = name then
      match slot with
      | some _ => some (.error (.duplicateField name))
      | none => some ((read value).map fun v => (some v, slots))
    else (rest.put key value slots).map fun result => result.map fun slots => (slot, slots)

/-- The record, when the object is over.  The first field without a value is missing. -/
def finish : {σ α : Type} → Fields σ α → σ → Except Fault α
  | _, _, .nil, () => .ok ()
  | _, _, .cons name absent _ rest, (slot, slots) =>
    match slot.or absent with
    | none => .error (.missingField name)
    | some v => (rest.finish slots).map fun r => (v, r)

/-- The record that an array of fields spells.  `refusal n` is the fault of an array that ends
after `n` fields. -/
def ofItems (refusal : Nat → Fault) : {σ α : Type} → Fields σ α → (read : Nat) →
    List Draft → (closed : Bool) → Except Fault α
  | _, _, .nil, _, [], true => .ok ()
  | _, _, .nil, _, _, _ => .error .malformed
  | _, _, .cons _ _ _ _, _, [], false => .error .malformed
  | _, _, .cons _ absent _ rest, n, [], true =>
    match absent with
    | none => .error (refusal n)
    | some v => (rest.ofItems refusal (n + 1) [] true).map fun r => (v, r)
  | _, _, .cons _ _ read rest, n, item :: items, closed => do
    let v ← read item
    let r ← rest.ofItems refusal (n + 1) items closed
    return (v, r)

/-- Reads one member of an object.  Of a member that is no field only the syntax matters. -/
def member {σ α : Type} (fields : Fields σ α) (slots : σ) (entry : Option String × Draft) :
    Except Fault σ :=
  match entry with
  | (none, _) => .error .malformed
  | (some key, value) =>
    match fields.put key value slots with
    | some result => result
    | none => if value.isComplete then .ok slots else .error .malformed

def ofMembers {σ α : Type} (fields : Fields σ α) (members : List (Option String × Draft))
    (closed : Bool) : Except Fault α := do
  let slots ← members.foldlM fields.member fields.blank
  if closed then fields.finish slots else .error .malformed

end Fields

/-- A record, as an object or as an array. -/
def record {σ α : Type} (name : String) (fields : Fields σ α) : Decoder α
  | .object members closed => fields.ofMembers members closed
  | .array items closed =>
    fields.ofItems (fun n => .wrongLength n name fields.count) 0 items closed
  | draft => refuse (.record name) draft

/-! ## Documents -/

/-- The value of a document after which nothing follows. -/
def decode {α : Type} (read : Decoder α) (document : Document) : Except Fault α := do
  let v ← read document.root
  if document.clean then .ok v else .error .malformed

end NetworkPolicy.Wire
