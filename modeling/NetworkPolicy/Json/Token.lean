import NetworkPolicy.Text.Hex
import NetworkPolicy.Text.Numeral
import NetworkPolicy.Text.Utf8

/-!
# Tokens of a JSON text

A text is cut into tokens by a machine that takes one symbol at a time, so that whatever was read
before a fault is there in full and nothing after it is looked at.

* `Token` — brackets, separators, words, numerals, strings; `fault` ends the list where the text
  stops being a sequence of tokens.
* `Token.scan` — the tokens of a list of symbols.

A string token keeps whether its content spells a text: escapes may name half of a surrogate pair,
and bytes may spell no character.  Both are noticed only by a reader that wants the text.
-/

namespace NetworkPolicy

open Utf8 (Symbol)
open Text (isDigit)

/-- A token of a JSON text. -/
inductive Token where
  | openArray
  | closeArray
  | openObject
  | closeObject
  | comma
  | colon
  | null
  | bool (b : Bool)
  /-- A numeral, as it is written. -/
  | number (lexeme : List Char)
  /-- A string, and its text if it spells one. -/
  | string (content : Option String)
  /-- No token can be made of what follows. -/
  | fault
  deriving DecidableEq, Repr

namespace Token

/-! ## Strings -/

/-- A part of a string: a symbol, or a code unit given by an escape. -/
inductive Piece where
  | symbol (s : Symbol)
  | unit (code : Nat)
  deriving DecidableEq, Repr

/-- Whether a code unit is the first half of a surrogate pair. -/
def isHighHalf (n : Nat) : Bool := 0xD800 ≤ n && n < 0xDC00

/-- Whether a code unit is the second half of a surrogate pair. -/
def isLowHalf (n : Nat) : Bool := 0xDC00 ≤ n && n < 0xE000

def joinHalves (high low : Nat) : Nat :=
  0x10000 + (high - 0xD800) * 0x400 + (low - 0xDC00)

/-- The text that pieces spell after `read` (newest first); none where a symbol is missing or a
half of a surrogate pair stands alone. -/
def spell (read : List Char) : List Piece → Option String
  | [] => some (String.ofList read.reverse)
  | .symbol none :: _ => none
  | .symbol (some c) :: pieces => spell (c :: read) pieces
  | .unit high :: .unit low :: pieces =>
    if isHighHalf high then
      if isLowHalf low then spell (Char.ofNat (joinHalves high low) :: read) pieces else none
    else if isLowHalf high then none
    else spell (Char.ofNat high :: read) (.unit low :: pieces)
  | .unit code :: pieces =>
    if isHighHalf code || isLowHalf code then none else spell (Char.ofNat code :: read) pieces

def escaped? : Char → Option Char
  | '"' => some '"'
  | '\\' => some '\\'
  | '/' => some '/'
  | 'b' => some '\x08'
  | 'f' => some '\x0c'
  | 'n' => some '\n'
  | 'r' => some '\r'
  | 't' => some '\t'
  | _ => none

/-! ## Numerals -/

/-- How far a numeral has been read. -/
inductive NumeralPart where
  /-- The minus sign; a digit has to follow. -/
  | sign
  /-- A whole part that is `0`. -/
  | zero
  /-- A whole part that begins with another digit. -/
  | whole
  /-- The point; a digit has to follow. -/
  | point
  | fraction
  /-- The exponent's letter; a sign or a digit has to follow. -/
  | mark
  /-- The exponent's sign; a digit has to follow. -/
  | markSign
  | exponent
  deriving DecidableEq, Repr

/-- Whether the numeral may end here. -/
def NumeralPart.isComplete : NumeralPart → Bool
  | .zero | .whole | .fraction | .exponent => true
  | _ => false

def NumeralPart.start? (c : Char) : Option NumeralPart :=
  if c = '-' then some .sign
  else if c = '0' then some .zero
  else if isDigit c then some .whole
  else none

/-- The part that a character leads to, if the numeral goes on with it. -/
def NumeralPart.next? : NumeralPart → Char → Option NumeralPart
  | .sign, c => if c = '0' then some .zero else if isDigit c then some .whole else none
  | .zero, c => if c = '.' then some .point else if c = 'e' ∨ c = 'E' then some .mark else none
  | .whole, c =>
    if isDigit c then some .whole
    else if c = '.' then some .point
    else if c = 'e' ∨ c = 'E' then some .mark
    else none
  | .point, c => if isDigit c then some .fraction else none
  | .fraction, c =>
    if isDigit c then some .fraction else if c = 'e' ∨ c = 'E' then some .mark else none
  | .mark, c =>
    if c = '+' ∨ c = '-' then some .markSign else if isDigit c then some .exponent else none
  | .markSign, c => if isDigit c then some .exponent else none
  | .exponent, c => if isDigit c then some .exponent else none

/-! ## The machine -/

/-- What the machine is in the middle of.  Collected parts are newest first. -/
inductive Mode where
  | between
  /-- A word of which `rest` is still to come. -/
  | word (rest : List Char) (token : Token)
  | text (pieces : List Piece)
  /-- After the backslash of an escape. -/
  | escape (pieces : List Piece)
  /-- In an escape by code unit of which `missing + 1` digits are still to come. -/
  | code (pieces : List Piece) (missing value : Nat)
  | numeral (part : NumeralPart) (lexeme : List Char)
  /-- After a fault. -/
  | lost
  deriving DecidableEq, Repr

/-- The machine: the tokens read so far, newest first, and what it is in the middle of. -/
structure Scanner where
  tokens : List Token
  mode : Mode
  deriving DecidableEq, Repr

namespace Scanner

def start : Scanner := ⟨[], .between⟩

def push (tokens : List Token) (token : Token) : Scanner := ⟨token :: tokens, .between⟩

/-- The end of the reading. -/
def fail (tokens : List Token) : Scanner := ⟨.fault :: tokens, .lost⟩

/-- A character between two tokens. -/
def begin (tokens : List Token) (c : Char) : Scanner :=
  match c with
  | ' ' | '\t' | '\n' | '\r' => ⟨tokens, .between⟩
  | '[' => push tokens .openArray
  | ']' => push tokens .closeArray
  | '{' => push tokens .openObject
  | '}' => push tokens .closeObject
  | ',' => push tokens .comma
  | ':' => push tokens .colon
  | 'n' => ⟨tokens, .word ['u', 'l', 'l'] .null⟩
  | 't' => ⟨tokens, .word ['r', 'u', 'e'] (.bool true)⟩
  | 'f' => ⟨tokens, .word ['a', 'l', 's', 'e'] (.bool false)⟩
  | '"' => ⟨tokens, .text []⟩
  | c =>
    match NumeralPart.start? c with
    | some part => ⟨tokens, .numeral part [c]⟩
    | none => fail tokens

def step : Scanner → Symbol → Scanner
  | ⟨tokens, .between⟩, some c => begin tokens c
  | ⟨tokens, .between⟩, none => fail tokens
  | ⟨tokens, .word [] _⟩, _ => fail tokens
  | ⟨tokens, .word (d :: rest) token⟩, s =>
    if s = some d then
      match rest with
      | [] => push tokens token
      | _ => ⟨tokens, .word rest token⟩
    else fail tokens
  | ⟨tokens, .text pieces⟩, none => ⟨tokens, .text (.symbol none :: pieces)⟩
  | ⟨tokens, .text pieces⟩, some c =>
    if c = '"' then push tokens (.string (spell [] pieces.reverse))
    else if c = '\\' then ⟨tokens, .escape pieces⟩
    else if c.toNat < 0x20 then fail tokens
    else ⟨tokens, .text (.symbol (some c) :: pieces)⟩
  | ⟨tokens, .escape _⟩, none => fail tokens
  | ⟨tokens, .escape pieces⟩, some c =>
    if c = 'u' then ⟨tokens, .code pieces 3 0⟩
    else match escaped? c with
      | some d => ⟨tokens, .text (.symbol (some d) :: pieces)⟩
      | none => fail tokens
  | ⟨tokens, .code _ _ _⟩, none => fail tokens
  | ⟨tokens, .code pieces missing value⟩, some c =>
    match Hex.value? c, missing with
    | none, _ => fail tokens
    | some d, 0 => ⟨tokens, .text (.unit (value * 16 + d) :: pieces)⟩
    | some d, missing + 1 => ⟨tokens, .code pieces missing (value * 16 + d)⟩
  | ⟨tokens, .numeral part lexeme⟩, none =>
    if part.isComplete then fail (.number lexeme.reverse :: tokens) else fail tokens
  | ⟨tokens, .numeral part lexeme⟩, some c =>
    match part.next? c with
    | some part => ⟨tokens, .numeral part (c :: lexeme)⟩
    | none =>
      if part.isComplete ∧ ¬(part = .zero ∧ isDigit c) then
        begin (.number lexeme.reverse :: tokens) c
      else fail tokens
  | ⟨tokens, .lost⟩, _ => ⟨tokens, .lost⟩

/-- The tokens when the text is over: one that has only been begun is a fault. -/
def finish : Scanner → List Token
  | ⟨tokens, .between⟩ => tokens.reverse
  | ⟨tokens, .lost⟩ => tokens.reverse
  | ⟨tokens, .numeral part lexeme⟩ =>
    if part.isComplete then (.number lexeme.reverse :: tokens).reverse
    else (.fault :: tokens).reverse
  | ⟨tokens, _⟩ => (.fault :: tokens).reverse

end Scanner

/-- The tokens of a text, up to the first fault. -/
def scan (symbols : List Symbol) : List Token :=
  (symbols.foldl Scanner.step Scanner.start).finish

end Token

end NetworkPolicy
