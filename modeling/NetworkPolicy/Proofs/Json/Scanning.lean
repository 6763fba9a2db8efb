import Mathlib.Data.List.Chain
import Mathlib.Tactic.Common
import Mathlib.Tactic.FinCases
import Mathlib.Tactic.IntervalCases
import NetworkPolicy.Proofs.Json.Grammar

/-!
# Scanning what is spelled

The scanner finds the tokens of a text, in whichever of their ways they are spelled and whatever
blanks stand between them (`Token.scan_of_spells`).

A numeral is over only when something else has come after it, so after a token the scanner need not
be between two tokens: it has *settled* on its tokens if any blank or bracket brings it there.  This
is enough, because next to each token that is no bracket, comma or colon there is one that is
(`Token.Separated`).
-/

namespace NetworkPolicy

/-- What has been read is kept newest first, so the next of it comes behind the others. -/
lemma reverse_cons_append {τ : Type} (next : τ) (read rest : List τ) :
    (next :: read).reverse ++ rest = read.reverse ++ next :: rest := by
  rw [List.reverse_cons, List.append_assoc, List.singleton_append]

namespace Token

open Text (isDigit)

/-! ## Runs of the scanner -/

namespace Scanner

/-- The machine after some characters. -/
def run (s : Scanner) (chars : List Char) : Scanner := (chars.map some).foldl step s

variable {s : Scanner} {tokens : List Token}

@[simp] lemma run_nil : s.run [] = s := rfl

@[simp] lemma run_cons (c : Char) (chars : List Char) :
    s.run (c :: chars) = (s.step (some c)).run chars := rfl

lemma run_append (front back : List Char) : s.run (front ++ back) = (s.run front).run back := by
  rw [run, List.map_append, List.foldl_append]
  rfl

end Scanner

/-! ## Numerals -/

lemma isDigit_iff_mem {c : Char} :
    isDigit c = true ↔ c ∈ ['0', '1', '2', '3', '4', '5', '6', '7', '8', '9'] := by
  constructor
  · intro h
    have hbounds : '0' ≤ c ∧ c ≤ '9' := by
      by_contra hnot
      rw [isDigit, Text.digit?, if_neg hnot] at h
      cases h
    have hlow : 48 ≤ c.toNat := hbounds.1
    have hhigh : c.toNat ≤ 57 := hbounds.2
    obtain ⟨n, hn⟩ : ∃ n, c.toNat = n := ⟨_, rfl⟩
    have hc : c = Char.ofNat n := by rw [← hn, Char.ofNat_toNat]
    rw [hn] at hlow hhigh
    interval_cases n <;> (rw [hc]; decide)
  · intro h
    fin_cases h <;> rfl

namespace Scanner

variable {tokens : List Token}

/-- Where digits may go on they are read. -/
lemma run_digits {part : NumeralPart} (hpart : part ∈ [.whole, .fraction, .exponent])
    (digits : List Char) : ∀ {lexeme : List Char}, (∀ c ∈ digits, isDigit c = true) →
      (⟨tokens, .numeral part lexeme⟩ : Scanner).run digits
        = ⟨tokens, .numeral part (digits.reverse ++ lexeme)⟩ := by
  induction digits with
  | nil => exact fun _ => rfl
  | cons c digits ih =>
      intro lexeme h
      obtain ⟨hc, hdigits⟩ := List.forall_mem_cons.mp h
      have hnext : part.next? c = some part := by
        fin_cases hpart <;> simp [NumeralPart.next?, hc]
      have hstep : step ⟨tokens, .numeral part lexeme⟩ (some c)
          = ⟨tokens, .numeral part (c :: lexeme)⟩ := by simp only [step, hnext]
      rw [run_cons, hstep, ih hdigits, reverse_cons_append]

/-- The first digit that has to follow a point, an exponent's letter or its sign. -/
lemma run_first_digits (part next : NumeralPart)
    (hpart : (part, next) ∈ [(.point, .fraction), (.mark, .exponent), (.markSign, .exponent)])
    {digits : List Char} (h : Digits digits) (lexeme : List Char) :
    (⟨tokens, .numeral part lexeme⟩ : Scanner).run digits
      = ⟨tokens, .numeral next (digits.reverse ++ lexeme)⟩ := by
  obtain ⟨hne, hdigits⟩ := h
  cases digits with
  | nil => exact absurd rfl hne
  | cons c digits =>
      obtain ⟨hc, hrest⟩ := List.forall_mem_cons.mp hdigits
      have hsign : ¬(c = '+' ∨ c = '-') := by
        rintro (rfl | rfl) <;> cases hc
      have hnext : part.next? c = some next := by
        fin_cases hpart <;> simp [NumeralPart.next?, hc, hsign]
      have hstep : step ⟨tokens, .numeral part lexeme⟩ (some c)
          = ⟨tokens, .numeral next (c :: lexeme)⟩ := by simp only [step, hnext]
      have hmore : next ∈ [NumeralPart.whole, .fraction, .exponent] := by
        fin_cases hpart <;> decide
      rw [run_cons, hstep, run_digits hmore digits hrest, reverse_cons_append]

/-- The whole part, at the front of a numeral or behind its sign. -/
lemma run_whole {s : Scanner} {lexeme whole : List Char}
    (hzero : s.step (some '0') = ⟨tokens, .numeral .zero ('0' :: lexeme)⟩)
    (hdigit : ∀ c, c ≠ '0' → isDigit c = true →
      s.step (some c) = ⟨tokens, .numeral .whole (c :: lexeme)⟩) (h : Whole whole) :
    ∃ part ∈ [NumeralPart.zero, .whole],
      s.run whole = ⟨tokens, .numeral part (whole.reverse ++ lexeme)⟩ := by
  cases h with
  | zero => exact ⟨.zero, by decide, hzero⟩
  | digits hfirst h =>
      obtain ⟨hc, hrest⟩ := List.forall_mem_cons.mp h.2
      refine ⟨.whole, by decide, ?_⟩
      rw [run_cons, hdigit _ hfirst hc, run_digits (by decide) _ hrest, reverse_cons_append]

lemma run_fraction {part : NumeralPart} (hpart : part ∈ [.zero, .whole]) {fraction : List Char}
    (h : Fraction fraction) (lexeme : List Char) :
    ∃ next ∈ [NumeralPart.zero, .whole, .fraction],
      (⟨tokens, .numeral part lexeme⟩ : Scanner).run fraction
        = ⟨tokens, .numeral next (fraction.reverse ++ lexeme)⟩ := by
  cases h with
  | none => exact ⟨part, by fin_cases hpart <;> decide, rfl⟩
  | digits h =>
      have hpoint : step ⟨tokens, .numeral part lexeme⟩ (some '.')
          = ⟨tokens, .numeral .point ('.' :: lexeme)⟩ := by fin_cases hpart <;> rfl
      refine ⟨.fraction, by decide, ?_⟩
      rw [run_cons, hpoint, run_first_digits .point .fraction (by decide) h, reverse_cons_append]

lemma run_exponent {part : NumeralPart} (hpart : part ∈ [.zero, .whole, .fraction])
    {exponent : List Char} (h : Exponent exponent) (lexeme : List Char) :
    ∃ next : NumeralPart, next.isComplete = true ∧
      (⟨tokens, .numeral part lexeme⟩ : Scanner).run exponent
        = ⟨tokens, .numeral next (exponent.reverse ++ lexeme)⟩ := by
  cases h with
  | none => exact ⟨part, by fin_cases hpart <;> rfl, rfl⟩
  | @digits mark sign digits hmark hsign h =>
      have hletter : step ⟨tokens, .numeral part lexeme⟩ (some mark)
          = ⟨tokens, .numeral .mark (mark :: lexeme)⟩ := by
        fin_cases hpart <;> fin_cases hmark <;> rfl
      have hrest : (⟨tokens, .numeral .mark (mark :: lexeme)⟩ : Scanner).run (sign ++ digits)
          = ⟨tokens, .numeral .exponent (digits.reverse ++ (sign.reverse ++ mark :: lexeme))⟩ := by
        rw [run_append]
        fin_cases hsign
        · exact run_first_digits .mark .exponent (by decide) h _
        · exact run_first_digits .markSign .exponent (by decide) h _
        · exact run_first_digits .markSign .exponent (by decide) h _
      refine ⟨.exponent, rfl, ?_⟩
      rw [run_cons, hletter, hrest, List.reverse_cons, List.reverse_append, List.append_assoc,
        List.append_assoc, List.singleton_append]

/-- A numeral is read as a whole, and may end where it ends. -/
lemma run_numeral {chars : List Char} (h : Numeral chars) (tokens : List Token) :
    ∃ part : NumeralPart, part.isComplete = true ∧
      (⟨tokens, .between⟩ : Scanner).run chars = ⟨tokens, .numeral part chars.reverse⟩ := by
  obtain @⟨sign, whole, fraction, exponent, hsign, hwhole, hfraction, hexponent⟩ := h
  have hfront : ∃ part ∈ [NumeralPart.zero, .whole],
      (⟨tokens, .between⟩ : Scanner).run (sign ++ whole)
        = ⟨tokens, .numeral part (whole.reverse ++ sign.reverse)⟩ := by
    rw [run_append]
    fin_cases hsign
    · refine run_whole rfl (fun c hc hdigit => ?_) hwhole
      rw [isDigit_iff_mem] at hdigit
      fin_cases hdigit
      · exact absurd rfl hc
      all_goals rfl
    · refine run_whole rfl (fun c hc hdigit => ?_) hwhole
      show step ⟨tokens, .numeral .sign ['-']⟩ (some c) = _
      simp only [step, NumeralPart.next?, if_neg hc, if_pos hdigit]
      rfl
  obtain ⟨part, hpart, hrun⟩ := hfront
  obtain ⟨part', hpart', hrun'⟩ := run_fraction hpart hfraction (whole.reverse ++ sign.reverse)
  obtain ⟨last, hlast, hrun''⟩ :=
    run_exponent hpart' hexponent (fraction.reverse ++ (whole.reverse ++ sign.reverse))
  refine ⟨last, hlast, ?_⟩
  rw [← List.append_assoc, run_append, hrun, run_append, hrun', hrun'']
  simp only [List.reverse_append, List.append_assoc]

end Scanner

/-! ## Strings -/

namespace Scanner

variable {tokens : List Token}

/-- The digits of a code unit. -/
lemma run_code (digits : List Char) : ∀ {pieces : List Piece} {missing value : Nat},
    digits.length = missing + 1 → (∀ d ∈ digits, (Hex.value? d).isSome) →
      (⟨tokens, .code pieces missing value⟩ : Scanner).run digits
        = ⟨tokens, .text (.unit (digits.foldl (fun n d => 16 * n + (Hex.value? d).getD 0) value)
            :: pieces)⟩ := by
  induction digits with
  | nil => exact fun h => absurd h (Nat.succ_ne_zero _).symm
  | cons d digits ih =>
      intro pieces missing value hlength hdigits
      obtain ⟨hd, hrest⟩ := List.forall_mem_cons.mp hdigits
      obtain ⟨n, hn⟩ := Option.isSome_iff_exists.mp hd
      rw [List.length_cons, Nat.succ_inj] at hlength
      cases missing with
      | zero =>
          obtain rfl : digits = [] := List.length_eq_zero_iff.mp hlength
          simp [step, hn, Nat.mul_comm]
      | succ missing =>
          have hstep : step ⟨tokens, .code pieces (missing + 1) value⟩ (some d)
              = ⟨tokens, .code pieces missing (16 * value + n)⟩ := by
            simp only [step, hn, Nat.mul_comm]
          rw [run_cons, hstep, ih hlength hrest, List.foldl_cons, hn, Option.getD_some]

lemma run_body {body : List Char} {pieces : List Piece} (h : Body body pieces) :
    ∀ read : List Piece, (⟨tokens, .text read⟩ : Scanner).run body
      = ⟨tokens, .text (pieces.reverse ++ read)⟩ := by
  induction h with
  | nil => exact fun _ => rfl
  | @plain c body pieces hquote hbackslash hcontrol _ ih =>
      intro read
      have hstep : step ⟨tokens, .text read⟩ (some c)
          = ⟨tokens, .text (.symbol (some c) :: read)⟩ := by
        simp only [step, if_neg hquote, if_neg hbackslash, if_neg (Nat.not_lt.mpr hcontrol)]
      rw [run_cons, hstep, ih, reverse_cons_append]
  | @letter letter c body pieces hletter _ ih =>
      intro read
      have hstep : step (step ⟨tokens, .text read⟩ (some '\\')) (some letter)
          = ⟨tokens, .text (.symbol (some c) :: read)⟩ := by
        fin_cases hletter <;> rfl
      rw [run_cons, run_cons, hstep, ih, reverse_cons_append]
  | @code digits body pieces hlength hdigits _ ih =>
      intro read
      have hopen : step (step ⟨tokens, .text read⟩ (some '\\')) (some 'u')
          = ⟨tokens, .code read 3 0⟩ := rfl
      rw [run_cons, run_cons, hopen, run_append, run_code digits hlength hdigits, ih,
        reverse_cons_append]
      rfl

end Scanner

/-! ### What the pieces mean -/

/-- A code unit of four digits has sixteen bits. -/
lemma Body.unit_lt {body : List Char} {pieces : List Piece} (h : Body body pieces) :
    ∀ n, .unit n ∈ pieces → n < 0x10000 := by
  induction h with
  | nil => exact fun _ h => absurd h List.not_mem_nil
  | plain _ _ _ _ ih | letter _ _ ih =>
      intro n hn
      rcases List.mem_cons.mp hn with hn | hn
      · cases hn
      · exact ih n hn
  | @code digits body pieces hlength hdigits _ ih =>
      intro n hn
      rcases List.mem_cons.mp hn with hn | hn
      · cases hn
        have hlt := Hex.number_lt digits
        rwa [hlength] at hlt
      · exact ih n hn

lemma toNat_ofNat_of_isValidChar {n : Nat} (h : n.isValidChar) : (Char.ofNat n).toNat = n := by
  rw [Char.ofNat, dif_pos h]
  rfl

/-- A code unit that is no half of a surrogate pair is a character. -/
lemma toNat_ofNat_of_not_half {n : Nat} (hn : n < 0x10000) (hhigh : ¬isHighHalf n = true)
    (hlow : ¬isLowHalf n = true) : (Char.ofNat n).toNat = n := by
  have hvalid : n.isValidChar := by
    simp only [isHighHalf, isLowHalf, Bool.and_eq_true, decide_eq_true_eq] at hhigh hlow
    simp only [Nat.isValidChar]
    omega
  exact toNat_ofNat_of_isValidChar hvalid

/-- No character is half of a surrogate pair. -/
lemma not_half_toNat (c : Char) : isHighHalf c.toNat = false ∧ isLowHalf c.toNat = false := by
  have hvalid : c.toNat < 0xD800 ∨ 0xDFFF < c.toNat ∧ c.toNat < 0x110000 := c.valid
  simp only [isHighHalf, isLowHalf, Bool.and_eq_false_iff, decide_eq_false_iff_not]
  omega

lemma spell_unit (c : Char) (read : List Char) (pieces : List Piece) :
    spell read (.unit c.toNat :: pieces) = spell (c :: read) pieces := by
  obtain ⟨hhigh, hlow⟩ := not_half_toNat c
  rcases pieces with _ | ⟨_ | _, _⟩ <;> simp [spell, hhigh, hlow, Char.ofNat_toNat]

lemma spell_of_means {pieces : List Piece} {text : List Char} (h : Means pieces text) :
    ∀ read : List Char, spell read pieces = some (String.ofList (read.reverse ++ text)) := by
  induction h with
  | nil =>
      intro read
      rw [List.append_nil]
      rfl
  | symbol _ ih =>
      intro read
      rw [spell, ih, reverse_cons_append]
  | unit _ ih =>
      intro read
      rw [spell_unit, ih, reverse_cons_append]
  | @pair high low c pieces text hhigh hlow hc _ ih =>
      intro read
      have hhigh' : isHighHalf high = true := by simpa [isHighHalf] using hhigh
      have hlow' : isLowHalf low = true := by simpa [isLowHalf] using hlow
      have hjoined : joinHalves high low = c.toNat := hc.symm
      rw [spell, if_pos hhigh', if_pos hlow', hjoined, Char.ofNat_toNat, ih, reverse_cons_append]

/-- Code units of sixteen bits that spell a text mean it. -/
lemma means_of_spell (pieces : List Piece) (read : List Char) {s : String}
    (hsmall : ∀ n, .unit n ∈ pieces → n < 0x10000) (h : spell read pieces = some s) :
    ∃ text, Means pieces text ∧ s = String.ofList (read.reverse ++ text) := by
  fun_induction spell read pieces with
  | case1 read =>
      refine ⟨[], .nil, ?_⟩
      rw [List.append_nil]
      exact (Option.some_inj.mp h).symm
  | case2 | case5 | case6 | case8 => cases h
  | case3 read c pieces ih =>
      obtain ⟨text, hmeans, hs⟩ := ih (fun n hn => hsmall n (List.mem_cons_of_mem _ hn)) h
      exact ⟨c :: text, .symbol hmeans, by rw [hs, reverse_cons_append]⟩
  | case4 read high low pieces hhigh hlow ih =>
      obtain ⟨text, hmeans, hs⟩ := ih
        (fun n hn => hsmall n (List.mem_cons_of_mem _ (List.mem_cons_of_mem _ hn))) h
      simp only [isHighHalf, isLowHalf, Bool.and_eq_true, decide_eq_true_eq] at hhigh hlow
      have hvalid : (joinHalves high low).isValidChar := by
        unfold joinHalves Nat.isValidChar
        omega
      have hjoined : (Char.ofNat (joinHalves high low)).toNat
          = 0x10000 + (high - 0xD800) * 0x400 + (low - 0xDC00) := by
        rw [toNat_ofNat_of_isValidChar hvalid]
        rfl
      refine ⟨Char.ofNat (joinHalves high low) :: text, .pair hhigh hlow hjoined hmeans, ?_⟩
      rw [hs, reverse_cons_append]
  | case7 read code low pieces hhigh hlow ih =>
      obtain ⟨text, hmeans, hs⟩ := ih (fun n hn => hsmall n (List.mem_cons_of_mem _ hn)) h
      have hcode := toNat_ofNat_of_not_half (hsmall code List.mem_cons_self) hhigh hlow
      refine ⟨Char.ofNat code :: text, ?_, by rw [hs, reverse_cons_append]⟩
      have hunit := Means.unit (c := Char.ofNat code) hmeans
      rwa [hcode] at hunit
  | case9 read code pieces _ hhalf ih =>
      obtain ⟨text, hmeans, hs⟩ := ih (fun n hn => hsmall n (List.mem_cons_of_mem _ hn)) h
      rw [Bool.or_eq_true, not_or] at hhalf
      have hcode := toNat_ofNat_of_not_half (hsmall code List.mem_cons_self) hhalf.1 hhalf.2
      refine ⟨Char.ofNat code :: text, ?_, by rw [hs, reverse_cons_append]⟩
      have hunit := Means.unit (c := Char.ofNat code) hmeans
      rwa [hcode] at hunit

/-- Pieces mean at most one text. -/
lemma Means.unique {pieces : List Piece} {text text' : List Char} (h : Means pieces text)
    (h' : Means pieces text') : text = text' := by
  have hspelled := (spell_of_means h []).symm.trans (spell_of_means h' [])
  exact String.ofList_injective (by simpa using hspelled)

/-- The content of a string is the text that its pieces mean, if they mean any. -/
lemma spell_eq {body : List Char} {pieces : List Piece} (hbody : Body body pieces)
    {content : Option String} (hcontent : ∀ s, content = some s ↔ Means pieces s.toList) :
    spell [] pieces = content := by
  refine Option.ext fun s => ?_
  rw [hcontent]
  constructor
  · intro h
    obtain ⟨text, hmeans, rfl⟩ := means_of_spell pieces [] hbody.unit_lt h
    rwa [List.reverse_nil, List.nil_append, String.toList_ofList]
  · intro h
    rw [spell_of_means h, List.reverse_nil, List.nil_append, String.ofList_toList]

/-! ## Tokens -/

/-- The tokens that are no values. -/
def isMark : Token → Bool
  | .openArray | .closeArray | .openObject | .closeObject | .comma | .colon => true
  | _ => false

/-- Of two tokens next to each other one is no value. -/
def Separated (tokens : List Token) : Prop :=
  tokens.IsChain fun first second => first.isMark = true ∨ second.isMark = true

namespace Scanner

/-- The machine has read the tokens, newest first.  It may still be in a numeral, but then the
numeral may end where it is. -/
inductive Settled : Scanner → List Token → Prop where
  | between {tokens : List Token} : Settled ⟨tokens, .between⟩ tokens
  | numeral {tokens : List Token} {part : NumeralPart} {lexeme : List Char}
      (hpart : part.isComplete = true) :
      Settled ⟨tokens, .numeral part lexeme⟩ (.number lexeme.reverse :: tokens)

variable {s : Scanner} {earlier : List Token}

lemma Settled.finish_eq (h : s.Settled earlier) : s.finish = earlier.reverse := by
  cases h with
  | between => rfl
  | numeral hpart => rw [finish, if_pos hpart]

/-- A blank, a bracket, a comma or a colon is read as if the machine were between two tokens. -/
lemma Settled.step_eq (h : s.Settled earlier) {c : Char}
    (hc : c ∈ blanks ++ ['[', ']', '{', '}', ',', ':']) : s.step (some c) = begin earlier c := by
  cases h with
  | between => rfl
  | @numeral _ part _ hpart =>
      have hover : part.next? c = none := by
        fin_cases hc <;> cases part <;> rfl
      have hends : part.isComplete = true ∧ ¬(part = .zero ∧ isDigit c = true) := by
        refine ⟨hpart, fun h => ?_⟩
        have hdigit := h.2
        fin_cases hc <;> cases hdigit
      simp only [step, hover, if_pos hends]

lemma Settled.run_blank {blank : List Char} (hblank : ∀ c ∈ blank, c ∈ blanks) :
    ∀ {s : Scanner}, s.Settled earlier → (s.run blank).Settled earlier := by
  induction blank with
  | nil => exact fun h => h
  | cons c blank ih =>
      intro s h
      obtain ⟨hc, hrest⟩ := List.forall_mem_cons.mp hblank
      have hbegin : begin earlier c = ⟨earlier, .between⟩ := by fin_cases hc <;> rfl
      rw [run_cons, h.step_eq (List.mem_append_left _ hc), hbegin]
      exact ih hrest .between

/-- A token that is no value may follow any other. -/
lemma Settled.run_mark (h : s.Settled earlier) {chars : List Char} {token : Token}
    (hlexeme : Lexeme chars token) (hmark : token.isMark = true) :
    s.run chars = ⟨token :: earlier, .between⟩ := by
  cases hlexeme with
  | openArray | closeArray | openObject | closeObject | comma | colon =>
      rw [run_cons, h.step_eq (by decide)]
      rfl
  | null | true | false | number _ | string _ _ => cases hmark

/-- Between two tokens any token may begin. -/
lemma settled_run_lexeme {chars : List Char} {token : Token} (h : Lexeme chars token)
    (earlier : List Token) :
    ((⟨earlier, .between⟩ : Scanner).run chars).Settled (token :: earlier) := by
  cases h with
  | openArray | closeArray | openObject | closeObject | comma | colon => exact .between
  | null | true | false => exact .between
  | number h =>
      obtain ⟨part, hpart, hrun⟩ := run_numeral h earlier
      have hsettled : Settled ⟨earlier, .numeral part chars.reverse⟩
          (.number chars.reverse.reverse :: earlier) := .numeral hpart
      rw [List.reverse_reverse] at hsettled
      rw [hrun]
      exact hsettled
  | string hbody hcontent =>
      have hopened : step ⟨earlier, .between⟩ (some '"') = ⟨earlier, .text []⟩ := rfl
      rw [run_cons, hopened, run_append, run_body hbody, List.append_nil, run_cons, run_nil]
      simp only [step, if_true, List.reverse_reverse, spell_eq hbody hcontent]
      exact .between

/-- The tokens of a text are read one after the other. -/
lemma settled_run {chars : List Char} {tokens : List Token} (h : Spells chars tokens) :
    ∀ {s : Scanner} {earlier : List Token}, s.Settled earlier →
      Separated (earlier.head?.toList ++ tokens) →
        (s.run chars).Settled (tokens.reverse ++ earlier) := by
  induction h with
  | nil hblank => exact fun hs _ => hs.run_blank hblank
  | @cons blank chars rest token tokens hblank hlexeme _ ih =>
      intro s earlier hs hseparated
      have hblanks := hs.run_blank hblank
      have htoken : ((s.run blank).run chars).Settled (token :: earlier) := by
        generalize s.run blank = t at hblanks
        cases hmark : token.isMark with
        | true =>
            rw [hblanks.run_mark hlexeme hmark]
            exact .between
        | false =>
            -- a value does not follow a numeral
            cases hblanks with
            | between => exact settled_run_lexeme hlexeme earlier
            | numeral _ =>
                rcases (List.isChain_cons_cons.mp hseparated).1 with hvalue | hvalue
                · cases hvalue
                · rw [hmark] at hvalue
                  cases hvalue
      have hrest : Separated ((token :: earlier).head?.toList ++ tokens) := by
        cases earlier with
        | nil => exact hseparated
        | cons _ _ => exact (List.isChain_cons_cons.mp hseparated).2
      rw [run_append, run_append, reverse_cons_append]
      exact ih htoken hrest

end Scanner

/-- **The tokens of a text are found**, in whichever way they are spelled. -/
theorem scan_of_spells {chars : List Char} {tokens : List Token} (h : Spells chars tokens)
    (hseparated : Separated tokens) : scan (chars.map some) = tokens := by
  have hstart : Scanner.start.Settled [] := .between
  have hfinish := (Scanner.settled_run h hstart hseparated).finish_eq
  rwa [List.append_nil, List.reverse_reverse] at hfinish

end Token

/-! ## Values -/

namespace Draft

open Token (Separated)

variable {token : Token} {tokens rest : List Token}

lemma separated_cons_mark (h : token.isMark = true) :
    Separated (token :: tokens) ↔ Separated tokens := by
  rw [Separated, List.isChain_cons]
  exact and_iff_right fun _ _ => .inl h

/-- A value may stand in front of a mark, and alone. -/
lemma separated_cons_value (hmark : ∀ next ∈ tokens.head?, next.isMark = true)
    (h : Separated tokens) : Separated (token :: tokens) := by
  rw [Separated, List.isChain_cons]
  exact ⟨fun next hnext => .inr (hmark next hnext), h⟩

lemma isMark_head_itemTokens (items : List Draft) :
    ∀ next ∈ (itemTokens items ++ rest).head?, next.isMark = true := by
  cases items <;> simp [itemTokens, Token.isMark]

lemma isMark_head_memberTokens (members : List (Option String × Draft)) :
    ∀ next ∈ (memberTokens members ++ rest).head?, next.isMark = true := by
  cases members <;> simp [memberTokens, Token.isMark]

mutual
lemma separated_tokens : ∀ (d : Draft) {rest : List Token},
    (∀ next ∈ rest.head?, next.isMark = true) → Separated rest → Separated (d.tokens ++ rest)
  | .null, _, hmark, h | .bool _, _, hmark, h | .number _, _, hmark, h | .string _, _, hmark, h
  | .fault, _, hmark, h => separated_cons_value hmark h
  | .array [] _, _, _, h | .object [] _, _, _, h =>
      (separated_cons_mark rfl).mpr ((separated_cons_mark rfl).mpr h)
  | .array (item :: items) _, rest, _, h => by
      rw [tokens, List.cons_append, List.append_assoc, separated_cons_mark rfl]
      exact separated_tokens item (isMark_head_itemTokens items) (separated_itemTokens items h)
  | .object ((key, value) :: members) _, rest, _, h => by
      have hvalue : Separated (value.tokens ++ (memberTokens members ++ rest)) :=
        separated_tokens value (isMark_head_memberTokens members) (separated_memberTokens members h)
      rw [tokens, List.cons_append, List.cons_append, List.cons_append, List.append_assoc,
        separated_cons_mark rfl]
      exact separated_cons_value (by simp [Token.isMark]) ((separated_cons_mark rfl).mpr hvalue)

lemma separated_itemTokens : ∀ (items : List Draft) {rest : List Token},
    Separated rest → Separated (itemTokens items ++ rest)
  | [], _, h => (separated_cons_mark rfl).mpr h
  | item :: items, rest, h => by
      rw [itemTokens, List.cons_append, List.append_assoc, separated_cons_mark rfl]
      exact separated_tokens item (isMark_head_itemTokens items) (separated_itemTokens items h)

lemma separated_memberTokens : ∀ (members : List (Option String × Draft)) {rest : List Token},
    Separated rest → Separated (memberTokens members ++ rest)
  | [], _, h => (separated_cons_mark rfl).mpr h
  | (key, value) :: members, rest, h => by
      have hvalue : Separated (value.tokens ++ (memberTokens members ++ rest)) :=
        separated_tokens value (isMark_head_memberTokens members) (separated_memberTokens members h)
      rw [memberTokens, List.cons_append, List.cons_append, List.cons_append, List.append_assoc,
        separated_cons_mark rfl]
      exact separated_cons_value (by simp [Token.isMark]) ((separated_cons_mark rfl).mpr hvalue)
end

/-- **The tokens of a value are found in each of its texts.** -/
theorem SpelledBy.scan_eq {d : Draft} {text : List Char} (h : d.SpelledBy text) :
    Token.scan (text.map some) = d.tokens := by
  have hseparated : Separated (d.tokens ++ []) := separated_tokens d nofun .nil
  rw [List.append_nil] at hseparated
  exact Token.scan_of_spells h.tokens hseparated

end Draft

end NetworkPolicy
