import Mathlib.Algebra.Group.Nat.Defs
import Mathlib.Data.List.DropRight
import Mathlib.Tactic.Common
import NetworkPolicy.Proofs.Text.Ends
import NetworkPolicy.Proofs.Text.Numeral
import NetworkPolicy.Settings.Duration

/-!
# The texts of durations

A duration is a numeral and a unit right behind it, or a numeral of zero alone, with blanks around
both at most (`Spells`, `IsTextOf`).  Every such text is read as its exact number of milliseconds,
if that fits into sixty-four bits, and nothing else is read (`parse_iff_spelled`).

A text is cut behind its last digit, wherever that is, so what stands in front of it may be anything
at all.  That nothing malformed gets through is due to the numeral, which has to be all of that
(`parseTrimmed_eq_ok_iff`); `Malformed` lists how a text can fail.
-/

namespace NetworkPolicy.Duration

open Text (Blank Run EndsWithout SpellsNumber)

/-! ## The grammar -/

/-- The units, with the milliseconds that each stands for. -/
def unitFactors : List (String × ℕ) :=
  [("ms", 1), ("s", 1000), ("m", 60000), ("h", 3600000), ("d", 86400000)]

/-- The text is a duration of that many milliseconds. -/
inductive Spells : List Char → ℕ → Prop where
  /-- A numeral with a unit.  Neither the number nor the milliseconds exceed sixty-four bits. -/
  | amount {numeral : List Char} {v factor : ℕ} {name : String} (hnumeral : SpellsNumber numeral v)
      (hunit : (name, factor) ∈ unitFactors) (hword : v ≤ 2 ^ 64 - 1)
      (hfits : v * factor ≤ 2 ^ 64 - 1) : Spells (numeral ++ name.toList) (v * factor)
  /-- Zero needs no unit. -/
  | zero {numeral : List Char} (hnumeral : SpellsNumber numeral 0) : Spells numeral 0

/-- The text is a duration with blanks around it. -/
def IsTextOf (text : String) (ms : ℕ) : Prop :=
  ∃ left core right, Blank left ∧ Blank right ∧ text.toList = left ++ core ++ right ∧ Spells core ms

/-- The letters of the units. -/
def letters : List Char := ['m', 's', 'h', 'd']

/-- Ways in which a text without blanks around it is no duration. -/
inductive Malformed : List Char → Prop where
  /-- A character that is in no duration: a minus sign, a blank, a digit of another script. -/
  | foreign {s : List Char} {c : Char} (hc : c ∈ s) (hdigit : c.isDigit = false) (hsign : c ≠ '+')
      (hletter : c ∉ letters) : Malformed s
  /-- A sign that is not at the front. -/
  | sign {front back : List Char} (hfront : front ≠ []) : Malformed (front ++ '+' :: back)
  /-- A digit behind a letter: several amounts, or digits behind the unit. -/
  | digitBehind {front middle back : List Char} {c d : Char} (hc : c ∈ letters)
      (hd : d.isDigit = true) : Malformed (front ++ c :: (middle ++ d :: back))
  /-- A number other than zero alone. -/
  | bare {s : List Char} {v : ℕ} (hnumeral : SpellsNumber s v) (hv : v ≠ 0) : Malformed s

/-! ## Cutting -/

/-- Whether a character is not a digit. -/
def isUnit (c : Char) : Bool := !Text.isDigit c

lemma isUnit_eq (c : Char) : isUnit c = !c.isDigit := by rw [isUnit, Text.isDigit_eq]

section Cutting

variable {s numeral unit : List Char}

/-- A text is cut into what ends with a digit and what has none. -/
lemma splitNumeral_eq_iff : splitNumeral s = (numeral, unit) ↔
    s = numeral ++ unit ∧ EndsWithout isUnit numeral ∧ Run isUnit unit := by
  have hwhole : Text.dropEnd isUnit s ++ (s.reverse.takeWhile isUnit).reverse = s :=
    List.rdropWhile_append_rtakeWhile
  show (Text.dropEnd isUnit s, (s.reverse.takeWhile isUnit).reverse) = (numeral, unit) ↔ _
  rw [Prod.mk.injEq, Text.dropEnd_eq_iff]
  constructor
  · rintro ⟨⟨hends, run, hrun, hs⟩, hunit⟩
    rw [hunit, Text.dropEnd_eq_iff.mpr ⟨hends, run, hrun, hs⟩] at hwhole
    refine ⟨hwhole.symm, hends, ?_⟩
    rwa [List.append_cancel_left (hwhole.trans hs)]
  · rintro ⟨hs, hends, hrun⟩
    rw [Text.dropEnd_eq_iff.mpr ⟨hends, unit, hrun, hs⟩, hs] at hwhole
    exact ⟨⟨hends, unit, hrun, hs⟩, hs ▸ List.append_cancel_left hwhole⟩

lemma endsWithout_isUnit_iff :
    EndsWithout isUnit numeral ↔ ∀ c ∈ numeral.getLast?, c.isDigit = true := by
  simp only [EndsWithout, isUnit_eq, Bool.not_eq_false']

lemma run_isUnit_iff : Run isUnit unit ↔ ∀ c ∈ unit, c.isDigit = false := by
  simp only [Run, isUnit_eq, Bool.not_eq_true']

/-- A text has no digit, or it is cut behind its last one. -/
lemma exists_lastDigit (s : List Char) : (∀ c ∈ s, c.isDigit = false) ∨
    ∃ front digit unit, s = front ++ digit :: unit ∧ digit.isDigit = true ∧
      splitNumeral s = (front ++ [digit], unit) := by
  obtain ⟨numeral, unit, hcut⟩ : ∃ numeral unit, splitNumeral s = (numeral, unit) := ⟨_, _, rfl⟩
  obtain ⟨hs, hends, hrun⟩ := splitNumeral_eq_iff.mp hcut
  rcases List.eq_nil_or_concat numeral with rfl | ⟨front, digit, rfl⟩
  · left
    rw [hs]
    exact run_isUnit_iff.mp hrun
  · right
    refine ⟨front, digit, unit, by simp [hs], ?_, by simp [hcut]⟩
    exact endsWithout_isUnit_iff.mp hends digit (by simp)

end Cutting

/-! ## Units -/

lemma isDigit_of_mem_letters {c : Char} (h : c ∈ letters) : c.isDigit = false := by
  have hall : (letters.all fun c => !c.isDigit) = true := by decide
  simpa using List.all_eq_true.mp hall c h

lemma unitName {name : String} {factor : ℕ} (h : (name, factor) ∈ unitFactors) :
    name.toList ≠ [] ∧ name.toList ⊆ letters := by
  have hall : ∀ entry ∈ unitFactors, entry.1.toList ≠ [] ∧ entry.1.toList ⊆ letters := by decide
  exact hall (name, factor) h

lemma ofName?_eq_some_iff {unit : List Char} {factor : ℕ} :
    (Unit.ofName? unit).map Unit.milliseconds = some factor ↔
      ∃ name : String, (name, factor) ∈ unitFactors ∧ unit = name.toList := by
  constructor
  · intro h
    obtain ⟨u, hname, rfl⟩ := Option.map_eq_some_iff.mp h
    unfold Unit.ofName? at hname
    split at hname
    case h_1 => cases hname; exact ⟨"ms", by decide, rfl⟩
    case h_2 => cases hname; exact ⟨"s", by decide, rfl⟩
    case h_3 => cases hname; exact ⟨"m", by decide, rfl⟩
    case h_4 => cases hname; exact ⟨"h", by decide, rfl⟩
    case h_5 => cases hname; exact ⟨"d", by decide, rfl⟩
    case h_6 => cases hname
  · rintro ⟨name, hmem, rfl⟩
    have hall : ∀ entry ∈ unitFactors,
        (Unit.ofName? entry.1.toList).map Unit.milliseconds = some entry.2 := by decide
    exact hall (name, factor) hmem

lemma factor?_eq_some_iff {n factor : ℕ} {unit : List Char} : factor? n unit = some factor ↔
    (unit = [] ∧ n = 0 ∧ factor = 0) ∨
      ∃ name : String, (name, factor) ∈ unitFactors ∧ unit = name.toList := by
  by_cases hbare : unit = [] ∧ n = 0
  · obtain ⟨rfl, rfl⟩ := hbare
    have hfactor : factor? 0 [] = some 0 := rfl
    rw [hfactor, Option.some.injEq]
    constructor
    · rintro rfl
      exact .inl ⟨rfl, rfl, rfl⟩
    · rintro (⟨-, -, rfl⟩ | ⟨name, hmem, hnil⟩)
      · rfl
      · exact absurd hnil.symm (unitName hmem).1
  · rw [factor?, if_neg hbare, ofName?_eq_some_iff, ← and_assoc, or_iff_right]
    exact fun h => hbare h.1

/-! ## Texts of the grammar -/

section Grammar

variable {s : List Char} {ms : ℕ}

/-- A duration is a sign, digits and letters, each in front of the next. -/
lemma Spells.exists_parts (h : Spells s ms) : ∃ sign digits unit,
    (sign = [] ∨ sign = ['+']) ∧ Text.Digits digits ∧ unit ⊆ letters ∧
      s = sign ++ digits ++ unit := by
  cases h with
  | amount hnumeral hunit =>
      obtain ⟨sign, digits, hsign, hdigits, rfl⟩ := hnumeral.exists_digits
      exact ⟨sign, digits, _, hsign, hdigits, (unitName hunit).2, rfl⟩
  | zero hnumeral =>
      obtain ⟨sign, digits, hsign, hdigits, rfl⟩ := hnumeral.exists_digits
      exact ⟨sign, digits, [], hsign, hdigits, by simp, by simp⟩

lemma Spells.mem_cases (h : Spells s ms) {c : Char} (hc : c ∈ s) :
    c = '+' ∨ c.isDigit = true ∨ c ∈ letters := by
  obtain ⟨sign, digits, unit, hsign, hdigits, hunit, rfl⟩ := h.exists_parts
  rcases List.mem_append.mp hc with hc | hc
  · rcases List.mem_append.mp hc with hc | hc
    · rcases hsign with rfl | rfl
      · cases hc
      · exact .inl (List.mem_singleton.mp hc)
    · exact .inr (.inl (hdigits.2 c hc))
  · exact .inr (.inr (hunit hc))

lemma isBlank_of_isDigit {c : Char} (h : c.isDigit = true) : Text.isBlank c = false := by
  obtain ⟨hlow, hhigh⟩ := Text.toNat_of_isDigit h
  simp only [Text.isBlank, Bool.or_eq_false_iff, Bool.and_eq_false_imp, decide_eq_true_eq,
    decide_eq_false_iff_not, beq_eq_false_iff_ne]
  omega

lemma Spells.trimmed (h : Spells s ms) : Text.Trimmed s := by
  have hblank : ∀ c ∈ s, Text.isBlank c = false := by
    intro c hc
    rcases h.mem_cases hc with rfl | hdigit | hletter
    · decide
    · exact isBlank_of_isDigit hdigit
    · have hall : (letters.all fun c => !Text.isBlank c) = true := by decide
      simpa using List.all_eq_true.mp hall c hletter
  exact ⟨fun c hc => hblank c (List.mem_of_mem_head? hc),
    fun c hc => hblank c (List.mem_of_mem_getLast? hc)⟩

/-- There is at most one sign, and it stands at the front. -/
lemma Spells.eq_nil_of_sign {front back : List Char} (h : Spells (front ++ '+' :: back) ms) :
    front = [] := by
  obtain ⟨sign, digits, unit, hsign, hdigits, hunit, hs⟩ := h.exists_parts
  have hrest : '+' ∉ digits ++ unit := by
    intro hmem
    rcases List.mem_append.mp hmem with hmem | hmem
    · exact absurd (hdigits.2 '+' hmem) (by decide)
    · exact absurd (hunit hmem) (by decide)
  rw [List.append_assoc] at hs
  cases front with
  | nil => rfl
  | cons c front =>
      refine absurd ?_ hrest
      rcases hsign with rfl | rfl
      · rw [List.nil_append] at hs
        exact hs ▸ List.mem_append_right (c :: front) List.mem_cons_self
      · rw [List.cons_append, List.cons_append, List.cons.injEq, List.nil_append] at hs
        exact hs.2 ▸ List.mem_append_right front List.mem_cons_self

/-- No digit stands behind a letter. -/
lemma Spells.pairwise (h : Spells s ms) :
    s.Pairwise fun c d => c ∈ letters → d.isDigit = false := by
  have hdigit : ∀ c : Char, c.isDigit = true → c ∉ letters := by
    intro c hc hmem
    rw [isDigit_of_mem_letters hmem] at hc
    cases hc
  obtain ⟨sign, digits, unit, hsign, hdigits, hunit, rfl⟩ := h.exists_parts
  have hfront : ∀ c ∈ sign ++ digits, c ∉ letters := by
    intro c hc
    rcases List.mem_append.mp hc with hc | hc
    · rcases hsign with rfl | rfl
      · cases hc
      · rw [List.mem_singleton.mp hc]
        decide
    · exact hdigit c (hdigits.2 c hc)
  refine List.pairwise_append.mpr ⟨?_, ?_, fun c hc d _ hmem => absurd hmem (hfront c hc)⟩
  · exact List.pairwise_of_forall_mem_list fun c hc d _ hmem => absurd hmem (hfront c hc)
  · exact List.pairwise_of_forall_mem_list fun c _ d hd _ => isDigit_of_mem_letters (hunit hd)

/-- A duration is not malformed. -/
lemma Malformed.not_spells (hs : Malformed s) : ¬Spells s ms := by
  intro h
  cases hs with
  | foreign hc hdigit hsign hletter =>
      rcases h.mem_cases hc with rfl | hc | hc
      · exact hsign rfl
      · exact absurd hc (by simp [hdigit])
      · exact hletter hc
  | sign hfront => exact hfront h.eq_nil_of_sign
  | digitBehind hc hd =>
      have hbehind := List.pairwise_cons.mp (List.pairwise_append.mp h.pairwise).2.1
      have hnone := hbehind.1 _ (List.mem_append_right _ List.mem_cons_self) hc
      exact absurd hd (by simp [hnone])
  | bare hnumeral hv =>
      cases h with
      | amount _ hunit =>
          obtain ⟨hname, hletters⟩ := unitName hunit
          obtain ⟨c, hc⟩ := List.exists_mem_of_ne_nil _ hname
          have hletter := hletters hc
          rcases hnumeral.mem_cases (List.mem_append_right _ hc) with rfl | hdigit
          · exact absurd hletter (by decide)
          · exact absurd hdigit (by simp [isDigit_of_mem_letters hletter])
      | zero hzero => exact hv (hnumeral.unique hzero)

end Grammar

/-! ## Reading -/

section Reading

variable {s : List Char} {text : String} {ms : ℕ}

lemma maxWord_eq : Text.maxWord = 2 ^ 64 - 1 := rfl

/-- The milliseconds of a numeral that has been read and the unit behind it. -/
def scaled (s unit : List Char) (n : ℕ) : Except DurationFault ℕ :=
  match factor? n unit with
  | none => .error (.unknownUnit (String.ofList unit))
  | some factor => if n * factor ≤ Text.maxWord then .ok (n * factor)
      else .error (.tooLong (String.ofList s))

lemma scaled_eq_ok_iff {unit : List Char} {n : ℕ} : scaled s unit n = .ok ms ↔
    ∃ factor, factor? n unit = some factor ∧ n * factor ≤ Text.maxWord ∧ ms = n * factor := by
  unfold scaled
  cases factor? n unit with
  | none => simp
  | some factor =>
      by_cases hfits : n * factor ≤ Text.maxWord
      · simp [hfits, eq_comm]
      · simp [hfits]

lemma parseTrimmed_eq {numeral unit : List Char} (hcut : splitNumeral s = (numeral, unit)) :
    parseTrimmed s = if numeral = [] then .error (.noNumeral (String.ofList s))
      else (Text.readBounded Text.maxWord numeral).mapError .numeral >>= scaled s unit := by
  rw [parseTrimmed, hcut]
  cases numeral with
  | nil => rfl
  | cons c numeral => rfl

/-- All that is in front of the cut has to be a numeral. -/
lemma parseTrimmed_eq_ok_iff_exists : parseTrimmed s = .ok ms ↔
    ∃ numeral unit n factor, splitNumeral s = (numeral, unit) ∧ SpellsNumber numeral n ∧
      factor? n unit = some factor ∧ n ≤ Text.maxWord ∧ n * factor ≤ Text.maxWord ∧
      ms = n * factor := by
  constructor
  · intro h
    obtain ⟨numeral, unit, hcut⟩ : ∃ numeral unit, splitNumeral s = (numeral, unit) :=
      ⟨_, _, rfl⟩
    rw [parseTrimmed_eq hcut] at h
    split at h
    case isTrue => cases h
    case isFalse =>
      obtain ⟨n, hread, hscaled⟩ := bind_eq_ok_iff.mp h
      obtain ⟨hnumeral, hword⟩ := Text.readBounded_eq_ok_iff.mp (mapError_eq_ok_iff.mp hread)
      obtain ⟨factor, hfactor, hfits, hms⟩ := scaled_eq_ok_iff.mp hscaled
      exact ⟨numeral, unit, n, factor, hcut, hnumeral, hfactor, hword, hfits, hms⟩
  · rintro ⟨numeral, unit, n, factor, hcut, hnumeral, hfactor, hword, hfits, hms⟩
    rw [parseTrimmed_eq hcut, if_neg hnumeral.ne_nil, bind_eq_ok_iff]
    exact ⟨n, mapError_eq_ok_iff.mpr (Text.readBounded_eq_ok_iff.mpr ⟨hnumeral, hword⟩),
      scaled_eq_ok_iff.mpr ⟨factor, hfactor, hfits, hms⟩⟩

/-- A text is read exactly if it is a duration. -/
lemma parseTrimmed_eq_ok_iff : parseTrimmed s = .ok ms ↔ Spells s ms := by
  rw [parseTrimmed_eq_ok_iff_exists, maxWord_eq]
  constructor
  · rintro ⟨numeral, unit, n, factor, hcut, hnumeral, hfactor, hword, hfits, rfl⟩
    obtain ⟨rfl, -, -⟩ := splitNumeral_eq_iff.mp hcut
    rcases factor?_eq_some_iff.mp hfactor with ⟨rfl, rfl, rfl⟩ | ⟨name, hunit, rfl⟩
    · rw [List.append_nil]
      exact .zero hnumeral
    · exact .amount hnumeral hunit hword hfits
  · have hends : ∀ {numeral : List Char} {n : ℕ}, SpellsNumber numeral n →
        EndsWithout isUnit numeral :=
      fun hnumeral => endsWithout_isUnit_iff.mpr fun _ => hnumeral.isDigit_of_getLast?
    rintro (⟨hnumeral, hunit, hword, hfits⟩ | hnumeral)
    · have hrun : Run isUnit _ := run_isUnit_iff.mpr fun c hc =>
        isDigit_of_mem_letters ((unitName hunit).2 hc)
      exact ⟨_, _, _, _, splitNumeral_eq_iff.mpr ⟨rfl, hends hnumeral, hrun⟩, hnumeral,
        factor?_eq_some_iff.mpr (.inr ⟨_, hunit, rfl⟩), hword, hfits, rfl⟩
    · have hcut : splitNumeral s = (s, []) := splitNumeral_eq_iff.mpr
        ⟨(List.append_nil s).symm, hends hnumeral, Text.run_nil⟩
      exact ⟨s, [], 0, 0, hcut, hnumeral, rfl, Nat.zero_le _, Nat.zero_le _, rfl⟩

lemma parse_eq_ok_iff : parse text = .ok ms ↔ IsTextOf text ms := by
  rw [parse, parseTrimmed_eq_ok_iff]
  constructor
  · intro h
    obtain ⟨-, left, right, hleft, hright, htext⟩ := Text.trim_spec text.toList
    exact ⟨left, _, right, hleft, hright, htext, h⟩
  · rintro ⟨left, core, right, hleft, hright, htext, h⟩
    rwa [Text.trim_eq_iff.mpr ⟨h.trimmed, left, right, hleft, hright, htext⟩]

lemma parse_eq_error_iff :
    (∃ fault, parse text = .error fault) ↔ ∀ ms, ¬IsTextOf text ms := by
  simp only [← parse_eq_ok_iff]
  cases parse text with
  | ok ms => simp
  | error fault => simp

lemma Spells.le_maxWord (h : Spells s ms) : ms ≤ 2 ^ 64 - 1 := by
  cases h with
  | amount _ _ _ hfits => exact hfits
  | zero => exact Nat.zero_le _

/-- A text without digits is refused before it is cut. -/
lemma parseTrimmed_of_noDigit (h : ∀ c ∈ s, c.isDigit = false) :
    parseTrimmed s = .error (.noNumeral (String.ofList s)) := by
  have hcut : splitNumeral s = ([], s) :=
    splitNumeral_eq_iff.mpr ⟨rfl, Text.endsWithout_nil, run_isUnit_iff.mpr h⟩
  rw [parseTrimmed_eq hcut, if_pos rfl]

end Reading

/-- One byte behind the beginning of a digit the next character begins. -/
lemma isValid_behind_digit {front unit : List Char} {digit : Char} (h : digit.isDigit = true) :
    String.Pos.Raw.IsValid (String.ofList (front ++ digit :: unit))
      ⟨(String.ofList front).utf8ByteSize + 1⟩ := by
  have hascii : digit.toNat ≤ 127 := Nat.le_trans (Text.toNat_of_isDigit h).2 (by decide)
  have hsize : digit.utf8Size = 1 := Char.utf8Size_eq_one_iff.mpr hascii
  refine String.Pos.Raw.isValid_iff_exists_append.mpr
    ⟨String.ofList front ++ String.singleton digit, String.ofList unit, ?_, ?_⟩
  · rw [String.ofList_append, String.ofList_cons, String.append_assoc]
  · rw [String.rawEndPos, String.utf8ByteSize_append, String.utf8ByteSize_singleton, hsize]

/-- **Exactly the durations are read, with their exact milliseconds.**

A text is read as a number of milliseconds exactly if it is a duration of that many, with blanks
around it at most; every other text is an error, and nothing that is read exceeds sixty-four bits.
In particular all that is malformed is an error.  The text between the blanks either has no digit,
which is an error at once, or it is cut behind its last digit: there, one byte behind the beginning
of the digit, a character begins or the text ends, whatever other characters it holds. -/
theorem parse_iff_spelled (text : String) :
    (∀ ms, parse text = .ok ms ↔ IsTextOf text ms) ∧
    ((∃ fault, parse text = .error fault) ↔ ∀ ms, ¬IsTextOf text ms) ∧
    (∀ ms, parse text = .ok ms → ms ≤ 2 ^ 64 - 1) ∧
    (Malformed (Text.trim text.toList) → ∃ fault, parse text = .error fault) ∧
    ((∀ c ∈ Text.trim text.toList, c.isDigit = false) ∧
        parse text = .error (.noNumeral (String.ofList (Text.trim text.toList))) ∨
      ∃ front digit unit, Text.trim text.toList = front ++ digit :: unit ∧ digit.isDigit = true ∧
        splitNumeral (Text.trim text.toList) = (front ++ [digit], unit) ∧
        String.Pos.Raw.IsValid (String.ofList (Text.trim text.toList))
          ⟨(String.ofList front).utf8ByteSize + 1⟩) := by
  refine ⟨fun ms => parse_eq_ok_iff, parse_eq_error_iff, fun ms h => ?_, fun h => ?_, ?_⟩
  · exact (parseTrimmed_eq_ok_iff.mp h).le_maxWord
  · rw [parse_eq_error_iff]
    intro ms htext
    exact h.not_spells (parseTrimmed_eq_ok_iff.mp (parse_eq_ok_iff.mpr htext))
  · rcases exists_lastDigit (Text.trim text.toList) with
      hnone | ⟨front, digit, unit, hs, hdigit, hcut⟩
    · exact .inl ⟨hnone, parseTrimmed_of_noDigit hnone⟩
    · refine .inr ⟨front, digit, unit, hs, hdigit, hcut, ?_⟩
      rw [hs]
      exact isValid_behind_digit hdigit

/-- A signed duration between blanks is read; two amounts, and digits of another script, are not. -/
theorem parse_iff_spelled_signed :
    parse "\u2003+005s\n" = .ok 5000 ∧ (5000 : ℕ) ≤ 2 ^ 64 - 1 ∧
    Malformed (Text.trim "1h30m".toList) ∧ (∃ fault, parse "1h30m" = .error fault) ∧
    Malformed (Text.trim "٣s".toList) ∧ ∃ fault, parse "٣s" = .error fault := by
  have hsigned : IsTextOf "\u2003+005s\n" 5000 := by
    have hnumeral : SpellsNumber ['+', '0', '0', '5'] 5 := .signed ⟨by decide, by decide⟩
    have hcore : Spells (['+', '0', '0', '5'] ++ "s".toList) (5 * 1000) :=
      .amount hnumeral (by decide) (by decide) (by decide)
    exact ⟨['\u2003'], _, ['\n'], by decide, by decide, by decide, hcore⟩
  have hamounts : Malformed (Text.trim "1h30m".toList) :=
    @Malformed.digitBehind ['1'] [] ['0', 'm'] 'h' '3' (by decide) (by decide)
  have hforeign : Malformed (Text.trim "٣s".toList) :=
    @Malformed.foreign _ '٣' (by decide) (by decide) (by decide) (by decide)
  obtain ⟨hread, -, hfits, -⟩ := parse_iff_spelled "\u2003+005s\n"
  have hvalue := (hread 5000).mpr hsigned
  obtain ⟨-, -, -, hrefused, -⟩ := parse_iff_spelled "1h30m"
  obtain ⟨-, -, -, hrefused', -⟩ := parse_iff_spelled "٣s"
  exact ⟨hvalue, hfits 5000 hvalue, hamounts, hrefused hamounts, hforeign, hrefused' hforeign⟩

end NetworkPolicy.Duration
