import Mathlib.Tactic.Common
import NetworkPolicy.Json.Draft
import NetworkPolicy.Proofs.Json.Lexemes
import NetworkPolicy.Proofs.Text.Utf8

/-!
# Reading what is spelled

A text that spells a value is read as that value, with nothing missing and nothing after it, in
whichever way it is spelled (`Document.ofText_of_spelled`).  What is written for a JSON value is one
of its spellings (`Json.spelledBy_render`), so it is read back (`Document.ofText_render`); it
is the same whether the text itself is read or its bytes (`Document.ofBytes_bytes`).

* `Json.draft` — what is read of a value that is written.
* `Builder.foldl_tokens` — the builder makes a value of its tokens, wherever a value may stand.
-/

namespace NetworkPolicy

namespace Json

mutual
/-- The draft of a value, in which nothing is missing. -/
def draft : Json → Draft
  | .null => .null
  | .bool b => .bool b
  | .number n => .number (Nat.toDigits 10 n)
  | .string s => .string (some s)
  | .array items => .array (itemDrafts items) true
  | .object members => .object (memberDrafts members) true

def itemDrafts : List Json → List Draft
  | [] => []
  | item :: items => item.draft :: itemDrafts items

def memberDrafts : List (String × Json) → List (Option String × Draft)
  | [] => []
  | (key, value) :: members => (some key, value.draft) :: memberDrafts members
end

mutual
lemma isComplete_draft : ∀ v : Json, v.draft.isComplete = true
  | .null => rfl
  | .bool _ => rfl
  | .number _ => rfl
  | .string _ => rfl
  | .array items => by rw [draft, Draft.isComplete, allComplete_itemDrafts items, Bool.and_self]
  | .object members => by
      rw [draft, Draft.isComplete, allMembersComplete_memberDrafts members, Bool.and_self]

lemma allComplete_itemDrafts : ∀ items : List Json, Draft.allComplete (itemDrafts items) = true
  | [] => rfl
  | item :: items => by
      rw [itemDrafts, Draft.allComplete, isComplete_draft item, allComplete_itemDrafts items,
        Bool.and_self]

lemma allMembersComplete_memberDrafts : ∀ members : List (String × Json),
    Draft.allMembersComplete (memberDrafts members) = true
  | [] => rfl
  | (_, value) :: members => by
      rw [memberDrafts, Draft.allMembersComplete, isComplete_draft value,
        allMembersComplete_memberDrafts members, Bool.and_self]
end

/-! ## Writing -/

section Written

open Token (Spells Lexeme)

variable {rest : List Char} {ts : List Token}

/-- A token without blanks in front of it. -/
lemma spells_cons {chars : List Char} {token : Token} (hlexeme : Lexeme chars token)
    (h : Spells rest ts) : Spells (chars ++ rest) (token :: ts) :=
  .cons (List.forall_mem_nil _) hlexeme h

/-- The key of a member and the colon behind it. -/
lemma spells_key (key : String) (h : Spells rest ts) :
    Spells (renderString key ++ ':' :: rest) (.string (some key) :: .colon :: ts) :=
  spells_cons (Token.lexeme_renderString key) (spells_cons .colon h)

mutual
/-- A value that is written stands for its tokens, whatever comes behind it. -/
lemma spells_renderChars : ∀ (v : Json) {rest : List Char} {ts : List Token}, Spells rest ts →
    Spells (v.renderChars ++ rest) (v.draft.tokens ++ ts)
  | .null, _, _, h => spells_cons .null h
  | .bool true, _, _, h => spells_cons .true h
  | .bool false, _, _, h => spells_cons .false h
  | .number n, _, _, h => spells_cons (.number (numeral_toDigits n)) h
  | .string s, _, _, h => spells_cons (Token.lexeme_renderString s) h
  | .array [], rest, ts, h =>
      show Spells (['['] ++ ([']'] ++ rest)) (.openArray :: .closeArray :: ts) from
        spells_cons .openArray (spells_cons .closeArray h)
  | .array (item :: items), rest, ts, h => by
      have hitem := spells_renderChars item (spells_renderItems items h)
      rw [renderChars, draft, itemDrafts, Draft.tokens]
      simpa using spells_cons .openArray hitem
  | .object [], rest, ts, h =>
      show Spells (['\x7b'] ++ (['\x7d'] ++ rest)) (.openObject :: .closeObject :: ts) from
        spells_cons .openObject (spells_cons .closeObject h)
  | .object ((key, value) :: members), rest, ts, h => by
      have hvalue := spells_renderChars value (spells_renderMembers members h)
      rw [renderChars, draft, memberDrafts, Draft.tokens]
      simpa using spells_cons .openObject (spells_key key hvalue)

lemma spells_renderItems : ∀ (items : List Json) {rest : List Char} {ts : List Token},
    Spells rest ts →
      Spells (renderItems items ++ rest) (Draft.itemTokens (itemDrafts items) ++ ts)
  | [], _, _, h => spells_cons .closeArray h
  | item :: items, rest, ts, h => by
      have hitem := spells_renderChars item (spells_renderItems items h)
      rw [renderItems, itemDrafts, Draft.itemTokens]
      simpa using spells_cons .comma hitem

lemma spells_renderMembers : ∀ (members : List (String × Json)) {rest : List Char}
    {ts : List Token}, Spells rest ts →
      Spells (renderMembers members ++ rest) (Draft.memberTokens (memberDrafts members) ++ ts)
  | [], _, _, h => spells_cons .closeObject h
  | (key, value) :: members, rest, ts, h => by
      have hvalue := spells_renderChars value (spells_renderMembers members h)
      rw [renderMembers, memberDrafts, Draft.memberTokens]
      simpa using spells_cons .comma (spells_key key hvalue)
end

/-- What is written for a value spells it. -/
lemma spelledBy_render (v : Json) : v.draft.SpelledBy v.render.toList where
  complete := v.isComplete_draft
  tokens := by
    rw [render, String.toList_ofList]
    simpa using spells_renderChars v (.nil (List.forall_mem_nil _))

end Written

end Json

/-! ## The builder -/

namespace Builder

open Draft (itemTokens memberTokens allComplete allMembersComplete)

variable {frames : List Frame} {d : Draft}

/-- The first token of a value closes nothing, so an array that may still be empty is read as one
that has items. -/
lemma foldl_tokens_firstItem :
    d.tokens.foldl step (.reading .firstItem frames)
      = d.tokens.foldl step (.reading .value frames) := by
  cases d with
  | null | bool _ | number _ | string _ | fault => rfl
  | array items closed => cases items <;> rfl
  | object members closed => rcases members with _ | ⟨⟨key, value⟩, members⟩ <;> rfl

mutual
/-- The tokens of a value in which nothing is missing are read as that value, wherever a value may
stand. -/
lemma foldl_tokens : ∀ (d : Draft) (frames : List Frame), d.isComplete = true →
    d.tokens.foldl step (.reading .value frames) = accept d frames
  | .null, _, _ | .bool _, _, _ | .number _, _, _ | .string _, _, _ => rfl
  | .array [] closed, frames, h => by
      obtain ⟨rfl, -⟩ := Bool.and_eq_true_iff.mp h
      rfl
  | .array (item :: items) closed, frames, h => by
      obtain ⟨rfl, hall⟩ := Bool.and_eq_true_iff.mp h
      obtain ⟨hitem, hitems⟩ := Bool.and_eq_true_iff.mp hall
      have hopen : step (.reading .value frames) .openArray
          = .reading .firstItem (.array [] :: frames) := rfl
      have haccept : accept item (.array [] :: frames)
          = .reading .next (.array [item] :: frames) := rfl
      rw [Draft.tokens, List.foldl_cons, hopen, List.foldl_append, foldl_tokens_firstItem,
        foldl_tokens item _ hitem, haccept, foldl_itemTokens items _ _ hitems]
      rfl
  | .object [] closed, frames, h => by
      obtain ⟨rfl, -⟩ := Bool.and_eq_true_iff.mp h
      rfl
  | .object ((key, value) :: members) closed, frames, h => by
      obtain ⟨rfl, hall⟩ := Bool.and_eq_true_iff.mp h
      obtain ⟨hvalue, hmembers⟩ := Bool.and_eq_true_iff.mp hall
      have hopen : step (step (step (.reading .value frames) .openObject)
          (.string key)) .colon = .reading .value (.member [] key :: frames) := rfl
      have haccept : accept value (.member [] key :: frames)
          = .reading .next (.object [(key, value)] :: frames) := rfl
      rw [Draft.tokens, List.foldl_cons, List.foldl_cons, List.foldl_cons, hopen,
        List.foldl_append, foldl_tokens value _ hvalue, haccept,
        foldl_memberTokens members _ _ hmembers]
      rfl

lemma foldl_itemTokens : ∀ (items : List Draft) (read : List Draft) (frames : List Frame),
    allComplete items = true →
      (itemTokens items).foldl step (.reading .next (.array read :: frames))
        = accept (.array (read.reverse ++ items) true) frames
  | [], read, frames, _ => by
      rw [List.append_nil]
      rfl
  | item :: items, read, frames, h => by
      obtain ⟨hitem, hitems⟩ := Bool.and_eq_true_iff.mp h
      have hcomma : step (.reading .next (.array read :: frames)) .comma
          = .reading .value (.array read :: frames) := rfl
      have haccept : accept item (.array read :: frames)
          = .reading .next (.array (item :: read) :: frames) := rfl
      rw [itemTokens, List.foldl_cons, hcomma, List.foldl_append, foldl_tokens item _ hitem,
        haccept, foldl_itemTokens items _ _ hitems, reverse_cons_append]

lemma foldl_memberTokens : ∀ (members read : List (Option String × Draft)) (frames : List Frame),
    allMembersComplete members = true →
      (memberTokens members).foldl step (.reading .next (.object read :: frames))
        = accept (.object (read.reverse ++ members) true) frames
  | [], read, frames, _ => by
      rw [List.append_nil]
      rfl
  | (key, value) :: members, read, frames, h => by
      obtain ⟨hvalue, hmembers⟩ := Bool.and_eq_true_iff.mp h
      have hcomma : step (step (step (.reading .next (.object read :: frames)) .comma)
          (.string key)) .colon = .reading .value (.member read key :: frames) := rfl
      have haccept : accept value (.member read key :: frames)
          = .reading .next (.object ((key, value) :: read) :: frames) := rfl
      rw [memberTokens, List.foldl_cons, List.foldl_cons, List.foldl_cons, hcomma,
        List.foldl_append, foldl_tokens value _ hvalue, haccept,
        foldl_memberTokens members _ _ hmembers, reverse_cons_append]
end

end Builder

/-! ## Documents -/

namespace Document

/-- **A text is read as the value that it spells**, whatever the value and whichever the spelling:
blanks, escapes, numerals of any size, containers within containers. -/
theorem ofText_of_spelled {d : Draft} {text : String} (h : d.SpelledBy text.toList) :
    ofText text = ⟨d, true⟩ := by
  have hbuilt : d.tokens.foldl Builder.step (.reading .value []) = .over d true :=
    Builder.foldl_tokens d [] h.complete
  rw [ofText, ofSymbols, h.scan_eq, ofTokens, hbuilt, ofBuilder]

/-- **What is written is read back in full.** -/
theorem ofText_render (v : Json) : ofText v.render = ⟨v.draft, true⟩ :=
  ofText_of_spelled v.spelledBy_render

/-- A text and its bytes are the same document. -/
lemma ofBytes_bytes (text : String) : ofBytes (Utf8.bytes text.toList) = ofText text := by
  rw [ofBytes, Utf8.symbols_bytes, ofText]

end Document

end NetworkPolicy
