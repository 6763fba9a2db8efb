import Mathlib.Tactic.Common
import NetworkPolicy.Json.Draft
import NetworkPolicy.Proofs.Text.Hex

/-!
# The grammar of JSON texts

A JSON text is the sequence of the tokens of its value, each of them spelled in one of its ways,
with blanks between them.  Nothing here reads a text: this is what the reader is held against.

* `Token.Numeral` — the numerals.
* `Token.Body`, `Token.Means` — what may stand between the quotation marks of a string, and the text
  that it means, if any: an escape may name half of a surrogate pair.
* `Token.Lexeme`, `Token.Spells` — a token and a sequence of tokens in characters.
* `Draft.tokens`, `Draft.SpelledBy` — the tokens of a value, and the texts that spell it.
-/

namespace NetworkPolicy

namespace Token

/-! ## Numerals -/

/-- One digit or more. -/
def Digits (chars : List Char) : Prop := chars ≠ [] ∧ ∀ c ∈ chars, Text.isDigit c = true

/-- The whole part of a numeral.  No zero stands in front of other digits. -/
inductive Whole : List Char → Prop where
  | zero : Whole ['0']
  | digits {first : Char} {others : List Char} (hfirst : first ≠ '0')
      (h : Digits (first :: others)) : Whole (first :: others)

/-- The fraction of a numeral, with its point. -/
inductive Fraction : List Char → Prop where
  | none : Fraction []
  | digits {chars : List Char} (h : Digits chars) : Fraction ('.' :: chars)

/-- The exponent of a numeral, with its letter. -/
inductive Exponent : List Char → Prop where
  | none : Exponent []
  | digits {mark : Char} {sign chars : List Char} (hmark : mark ∈ ['e', 'E'])
      (hsign : sign ∈ [[], ['+'], ['-']]) (h : Digits chars) : Exponent (mark :: (sign ++ chars))

/-- A numeral. -/
inductive Numeral : List Char → Prop where
  | parts {sign whole fraction exponent : List Char} (hsign : sign ∈ [[], ['-']])
      (hwhole : Whole whole) (hfraction : Fraction fraction) (hexponent : Exponent exponent) :
      Numeral (sign ++ (whole ++ (fraction ++ exponent)))

/-! ## Strings -/

/-- The letters that may follow a backslash, and the characters that they name so. -/
def letterEscapes : List (Char × Char) :=
  [('"', '"'), ('\\', '\\'), ('/', '/'), ('b', '\x08'), ('f', '\x0c'), ('n', '\n'), ('r', '\r'),
    ('t', '\t')]

/-- The inside of a string, and its parts: characters, and code units of four hexadecimal digits. -/
inductive Body : List Char → List Piece → Prop where
  | nil : Body [] []
  | plain {c : Char} {body : List Char} {pieces : List Piece} (hquote : c ≠ '"')
      (hbackslash : c ≠ '\\') (hcontrol : 0x20 ≤ c.toNat) (h : Body body pieces) :
      Body (c :: body) (.symbol (some c) :: pieces)
  | letter {letter c : Char} {body : List Char} {pieces : List Piece}
      (hletter : (letter, c) ∈ letterEscapes) (h : Body body pieces) :
      Body ('\\' :: letter :: body) (.symbol (some c) :: pieces)
  | code {digits body : List Char} {pieces : List Piece} (hlength : digits.length = 4)
      (hdigits : ∀ d ∈ digits, (Hex.value? d).isSome) (h : Body body pieces) :
      Body ('\\' :: 'u' :: (digits ++ body)) (.unit (Hex.number digits) :: pieces)

/-- The text that the parts of a string mean.  A character beyond `0xFFFF` is a pair of code
units, of which neither is a character. -/
inductive Means : List Piece → List Char → Prop where
  | nil : Means [] []
  | symbol {c : Char} {pieces : List Piece} {text : List Char} (h : Means pieces text) :
      Means (.symbol (some c) :: pieces) (c :: text)
  | unit {c : Char} {pieces : List Piece} {text : List Char} (h : Means pieces text) :
      Means (.unit c.toNat :: pieces) (c :: text)
  | pair {high low : Nat} {c : Char} {pieces : List Piece} {text : List Char}
      (hhigh : 0xD800 ≤ high ∧ high < 0xDC00) (hlow : 0xDC00 ≤ low ∧ low < 0xE000)
      (hc : c.toNat = 0x10000 + (high - 0xD800) * 0x400 + (low - 0xDC00))
      (h : Means pieces text) : Means (.unit high :: .unit low :: pieces) (c :: text)

/-! ## Tokens -/

/-- The characters of a token. -/
inductive Lexeme : List Char → Token → Prop where
  | openArray : Lexeme ['['] .openArray
  | closeArray : Lexeme [']'] .closeArray
  | openObject : Lexeme ['{'] .openObject
  | closeObject : Lexeme ['}'] .closeObject
  | comma : Lexeme [','] .comma
  | colon : Lexeme [':'] .colon
  | null : Lexeme ['n', 'u', 'l', 'l'] .null
  | true : Lexeme ['t', 'r', 'u', 'e'] (.bool true)
  | false : Lexeme ['f', 'a', 'l', 's', 'e'] (.bool false)
  | number {chars : List Char} (h : Numeral chars) : Lexeme chars (.number chars)
  | string {body : List Char} {pieces : List Piece} {content : Option String}
      (hbody : Body body pieces) (hcontent : ∀ s, content = some s ↔ Means pieces s.toList) :
      Lexeme ('"' :: (body ++ ['"'])) (.string content)

/-- White space that means nothing. -/
def blanks : List Char := [' ', '\t', '\n', '\r']

/-- The characters of a sequence of tokens, with blanks before, between and behind them. -/
inductive Spells : List Char → List Token → Prop where
  | nil {blank : List Char} (hblank : ∀ c ∈ blank, c ∈ blanks) : Spells blank []
  | cons {blank chars rest : List Char} {token : Token} {tokens : List Token}
      (hblank : ∀ c ∈ blank, c ∈ blanks) (hlexeme : Lexeme chars token)
      (h : Spells rest tokens) : Spells (blank ++ (chars ++ rest)) (token :: tokens)

end Token

/-! ## Values -/

namespace Draft

mutual
/-- The tokens of a value. -/
def tokens : Draft → List Token
  | .null => [.null]
  | .bool b => [.bool b]
  | .number lexeme => [.number lexeme]
  | .string content => [.string content]
  | .array [] _ => [.openArray, .closeArray]
  | .array (item :: items) _ => .openArray :: (item.tokens ++ itemTokens items)
  | .object [] _ => [.openObject, .closeObject]
  | .object ((key, value) :: members) _ =>
    .openObject :: .string key :: .colon :: (value.tokens ++ memberTokens members)
  | .fault => [.fault]

/-- The tokens of the items of an array after the first one, and its closing bracket. -/
def itemTokens : List Draft → List Token
  | [] => [.closeArray]
  | item :: items => .comma :: (item.tokens ++ itemTokens items)

/-- The tokens of the members of an object after the first one, and its closing brace. -/
def memberTokens : List (Option String × Draft) → List Token
  | [] => [.closeObject]
  | (key, value) :: members =>
    .comma :: .string key :: .colon :: (value.tokens ++ memberTokens members)
end

/-- The text is a JSON text of the value, in which nothing is missing. -/
structure SpelledBy (d : Draft) (text : List Char) : Prop where
  complete : d.isComplete = true
  tokens : Token.Spells text d.tokens

end Draft

end NetworkPolicy
