import NetworkPolicy.Json.Token

/-!
# Drafts of JSON values

What a text says up to its first fault.  A draft is a JSON value in which containers may have been
left open and values may be missing, so that a reader who goes through it in the order of the text
meets the same fault first as one who reads the text itself.

* `Draft` — the value so far; `isComplete` says that nothing is missing in it.
* `Document` — the draft of a whole text, and whether anything stands after it.
* `Document.ofSymbols`, `Document.ofText`, `Document.ofBytes` — reading.
-/

namespace NetworkPolicy

open Utf8 (Symbol)

/-- A JSON value as far as it could be read.  `closed` says whether a container was read to its
closing bracket.  A string without content, as a value or a key, is one that spells no text. -/
inductive Draft where
  | null
  | bool (b : Bool)
  | number (lexeme : List Char)
  | string (content : Option String)
  | array (items : List Draft) (closed : Bool)
  | object (members : List (Option String × Draft)) (closed : Bool)
  /-- Nothing could be read. -/
  | fault
  deriving Repr

namespace Draft

mutual
def isComplete : Draft → Bool
  | .fault => false
  | .array items closed => closed && allComplete items
  | .object members closed => closed && allMembersComplete members
  | _ => true

def allComplete : List Draft → Bool
  | [] => true
  | item :: items => item.isComplete && allComplete items

/-- Whether nothing is missing in any value of an object. -/
def allMembersComplete : List (Option String × Draft) → Bool
  | [] => true
  | (_, value) :: members => value.isComplete && allMembersComplete members
end

/-- The draft of a token that is a whole value. -/
def ofToken? : Token → Option Draft
  | .null => some .null
  | .bool b => some (.bool b)
  | .number lexeme => some (.number lexeme)
  | .string content => some (.string content)
  | _ => none

end Draft

/-! ## Building -/

/-- A container that is being read.  Its parts are newest first. -/
inductive Frame where
  | array (items : List Draft)
  | object (members : List (Option String × Draft))
  /-- An object of which a key has been read whose value is still to come. -/
  | member (members : List (Option String × Draft)) (key : Option String)
  deriving Repr

/-- What may come next in the innermost container. -/
inductive Stage where
  | value
  /-- A value or the closing bracket, right after the opening one. -/
  | firstItem
  /-- A key or the closing brace, right after the opening one. -/
  | firstKey
  | key
  | colon
  /-- A comma or the closing bracket. -/
  | next
  deriving DecidableEq, Repr

/-- The state of the reading of a value. -/
inductive Builder where
  | reading (stage : Stage) (frames : List Frame)
  /-- The value has been read; `clean` as long as nothing follows. -/
  | over (root : Draft) (clean : Bool)
  deriving Repr

namespace Builder

/-- The draft that is left when the reading stops inside `frames`, with the draft of what was being
read in the innermost of them, if anything was. -/
def abandon (inner : Option Draft) : List Frame → Draft
  | [] => inner.getD .fault
  | .array items :: frames =>
    abandon (some (.array (inner.toList ++ items).reverse false)) frames
  | .object members :: frames => abandon (some (.object members.reverse false)) frames
  | .member members key :: frames =>
    abandon (some (.object ((key, inner.getD .fault) :: members).reverse false)) frames

/-- The reading stops. -/
def stop (frames : List Frame) : Builder :=
  .over (abandon none frames) false

/-- A value has been read in the innermost frame. -/
def accept (v : Draft) : List Frame → Builder
  | [] => .over v true
  | .array items :: frames => .reading .next (.array (v :: items) :: frames)
  | .member members key :: frames => .reading .next (.object ((key, v) :: members) :: frames)
  | frames => stop frames

def takeValue (token : Token) (frames : List Frame) : Builder :=
  match token with
  | .openArray => .reading .firstItem (.array [] :: frames)
  | .openObject => .reading .firstKey (.object [] :: frames)
  | token =>
    match Draft.ofToken? token with
    | some v => accept v frames
    | none => stop frames

/-- A token in a key's place.  Only a string is a key. -/
def takeKey (token : Token) : List Frame → Builder
  | .object members :: frames =>
    match token with
    | .string content => .reading .colon (.member members content :: frames)
    | _ => stop (.object members :: frames)
  | frames => stop frames

/-- A token after a value inside a container. -/
def takeNext (token : Token) : List Frame → Builder
  | .array items :: frames =>
    match token with
    | .comma => .reading .value (.array items :: frames)
    | .closeArray => accept (.array items.reverse true) frames
    | _ => stop (.array items :: frames)
  | .object members :: frames =>
    match token with
    | .comma => .reading .key (.object members :: frames)
    | .closeObject => accept (.object members.reverse true) frames
    | _ => stop (.object members :: frames)
  | frames => stop frames

def step : Builder → Token → Builder
  | .reading .value frames, token => takeValue token frames
  | .reading .firstItem frames, .closeArray => takeNext .closeArray frames
  | .reading .firstItem frames, token => takeValue token frames
  | .reading .firstKey frames, .closeObject => takeNext .closeObject frames
  | .reading .firstKey frames, token => takeKey token frames
  | .reading .key frames, token => takeKey token frames
  | .reading .colon frames, .colon => .reading .value frames
  | .reading .colon frames, _ => stop frames
  | .reading .next frames, token => takeNext token frames
  | .over root _, _ => .over root false

end Builder

/-- What a whole text says: the draft of its value, and whether nothing stands after it. -/
structure Document where
  root : Draft
  clean : Bool
  deriving Repr

namespace Document

/-- The document that is left when the tokens are over. -/
def ofBuilder : Builder → Document
  | .over root clean => ⟨root, clean⟩
  | .reading _ frames => ⟨Builder.abandon none frames, false⟩

def ofTokens (tokens : List Token) : Document :=
  ofBuilder (tokens.foldl Builder.step (.reading .value []))

def ofSymbols (symbols : List Symbol) : Document :=
  ofTokens (Token.scan symbols)

def ofText (text : String) : Document :=
  ofSymbols (text.toList.map some)

def ofBytes (bytes : List UInt8) : Document :=
  ofSymbols (Utf8.symbols bytes)

end Document

end NetworkPolicy
