/-!
# UTF-8

Bytes are read by a machine that takes one byte at a time.  Its state says how many continuation
bytes are still owed and between which bounds the next one has to lie, so that overlong forms and
surrogates are refused at the first byte that rules them out.

Bytes that spell no character do not stop the reading: each longest run of bytes that begins a
sequence and cannot be continued becomes one *gap*, written `none`.

* `bytes` — the bytes of a text.
* `symbols` — what a list of bytes spells: characters and gaps.
* `lossy` — the same, with the replacement character in every gap.
* `text?` — the text without gaps that they spell.
-/

namespace NetworkPolicy.Utf8

/-- A character, or a run of bytes that spells none. -/
abbrev Symbol := Option Char

def bytes (s : List Char) : List UInt8 :=
  s.flatMap String.utf8EncodeChar

/-- Where the machine stands between two bytes. -/
inductive State where
  /-- No character has been begun. -/
  | between
  /-- The next byte has to lie from `low` to `high`, and `more` continuation bytes follow it;
  `value` holds the bits read so far. -/
  | within (more : Nat) (low high : UInt8) (value : Nat)
  deriving DecidableEq, Repr

/-- What the first byte of a sequence says: a symbol that is complete, or what is owed. -/
def first (b : UInt8) : Option Symbol × State :=
  if b < 0x80 then (some (some (Char.ofNat b.toNat)), .between)
  else if b < 0xC2 then (some none, .between)
  else if b < 0xE0 then (none, .within 0 0x80 0xBF (b.toNat % 32))
  else if b = 0xE0 then (none, .within 1 0xA0 0xBF 0)
  else if b = 0xED then (none, .within 1 0x80 0x9F 13)
  else if b < 0xF0 then (none, .within 1 0x80 0xBF (b.toNat % 16))
  else if b = 0xF0 then (none, .within 2 0x90 0xBF 0)
  else if b < 0xF4 then (none, .within 2 0x80 0xBF (b.toNat % 8))
  else if b = 0xF4 then (none, .within 2 0x80 0x8F 4)
  else (some none, .between)

/-- The machine: the symbols read so far, newest first, and its state. -/
abbrev Machine := List Symbol × State

/-- A byte that begins a sequence, or is a gap of its own. -/
def begin (read : List Symbol) (b : UInt8) : Machine :=
  match first b with
  | (some symbol, state) => (symbol :: read, state)
  | (none, state) => (read, state)

/-- One byte.  A byte that cannot continue a sequence closes it as a gap and begins anew. -/
def step : Machine → UInt8 → Machine
  | (read, .between), b => begin read b
  | (read, .within more low high value), b =>
    if low ≤ b ∧ b ≤ high then
      let value := value * 64 + b.toNat % 64
      match more with
      | 0 => (some (Char.ofNat value) :: read, .between)
      | more + 1 => (read, .within more 0x80 0xBF value)
    else begin (none :: read) b

/-- The symbols read when the bytes are over: a sequence that still owes bytes is a gap. -/
def finish : Machine → List Symbol
  | (read, .between) => read.reverse
  | (read, .within ..) => (none :: read).reverse

def symbols (bytes : List UInt8) : List Symbol :=
  finish (bytes.foldl step ([], .between))

/-- The text that bytes spell, with the replacement character in every gap. -/
def lossy (bytes : List UInt8) : String :=
  String.ofList ((symbols bytes).map (·.getD '\uFFFD'))

/-- The text that bytes spell, unless there is a gap in it. -/
def text? (bytes : List UInt8) : Option String := ((symbols bytes).mapM id).map String.ofList

end NetworkPolicy.Utf8
