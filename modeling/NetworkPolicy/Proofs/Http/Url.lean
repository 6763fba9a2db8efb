import Mathlib.Data.List.TakeWhile
import Mathlib.Tactic.Common
import NetworkPolicy.Http.Url
import NetworkPolicy.Proofs.Text.Form

/-!
# Addresses with a query

An address that a question mark and form-encoded pairs are put behind is read as the same address
with these pairs as its query: nothing of the pairs reaches the host or the path, and nothing of
them is lost (`parse?_append_query`).

What is put behind an address is a tail of `Plain` characters.  Each search that reading consists
of either ends in front of such a tail or does not get as far, so each step of reading an address
with a tail is that step for the address alone, with the tail still behind it.
-/

namespace NetworkPolicy.Url

/-! ## Searches that end in front of a tail -/

section Search

variable {α : Type} {p : α → Bool} {x : α} {s t : List α}

lemma stops_cons (hp : p x = false) : ∀ y ∈ (x :: t).head?, p y = false := by
  intro y hy
  cases hy
  exact hp

lemma takeWhile_append_of_stop (ht : ∀ x ∈ t.head?, p x = false) :
    (s ++ t).takeWhile p = s.takeWhile p := by
  have hstop : t.takeWhile p = [] := by
    cases t with
    | nil => rfl
    | cons x t => exact List.takeWhile_cons_of_neg (Bool.eq_false_iff.mp (ht x rfl))
  rw [List.takeWhile_append, hstop]
  split
  case isTrue hall => rw [List.append_nil, (List.takeWhile_prefix p).eq_of_length hall]
  case isFalse => rfl

lemma dropWhile_append_of_stop (ht : ∀ x ∈ t.head?, p x = false) :
    (s ++ t).dropWhile p = s.dropWhile p ++ t := by
  have hstop : t.dropWhile p = t := by
    cases t with
    | nil => rfl
    | cons x t => exact List.dropWhile_cons_of_neg (Bool.eq_false_iff.mp (ht x rfl))
  rw [List.dropWhile_append, hstop]
  split
  case isTrue hnone => rw [List.isEmpty_iff.mp hnone, List.nil_append]
  case isFalse => rfl

lemma takeWhile_append_of_mem (hx : x ∈ s) (hp : p x = false) :
    (s ++ t).takeWhile p = s.takeWhile p := by
  obtain ⟨front, back, rfl⟩ := List.append_of_mem hx
  rw [List.append_assoc, List.cons_append, takeWhile_append_of_stop (stops_cons hp),
    takeWhile_append_of_stop (stops_cons hp)]

lemma dropWhile_append_of_mem (hx : x ∈ s) (hp : p x = false) :
    (s ++ t).dropWhile p = s.dropWhile p ++ t := by
  obtain ⟨front, back, rfl⟩ := List.append_of_mem hx
  rw [List.append_assoc, List.cons_append, dropWhile_append_of_stop (stops_cons hp),
    dropWhile_append_of_stop (stops_cons hp), List.append_assoc, List.cons_append]

lemma takeWhile_ne_of_notMem [DecidableEq α] (hx : x ∉ s) : s.takeWhile (· ≠ x) = s := by
  rw [List.takeWhile_eq_self_iff]
  intro y hy
  exact decide_eq_true fun h => hx (h ▸ hy)

lemma dropWhile_ne_of_notMem [DecidableEq α] (hx : x ∉ s) : s.dropWhile (· ≠ x) = [] := by
  rw [List.dropWhile_eq_nil_iff]
  intro y hy
  exact decide_eq_true fun h => hx (h ▸ hy)

end Search

/-! ## Texts that stand in an address as they are -/

/-- Whether a character is neither cut from an address, nor written otherwise in a query, nor ends
the scheme or the query. -/
def isPlain (c : Char) : Bool :=
  0x20 < c.toNat && c ≠ '#' && c ≠ ':' && !hiddenInQuery c

/-- A text all of whose characters are plain. -/
def Plain (s : List Char) : Prop := ∀ c ∈ s, isPlain c = true

lemma plain_encodePairs (entries : List (String × String)) :
    Plain (Form.encodePairs entries).toList := by
  have hall : ('&' :: '=' :: Form.alphabet).all isPlain = true := by decide
  exact fun c hc => List.all_eq_true.mp hall c (Form.mem_encodePairs hc)

/-- Whether a character surrounds an address without being part of it. -/
def isEdge (c : Char) : Bool := c.toNat ≤ 0x20

/-- Whether a character is not left out wherever it is. -/
def isKept (c : Char) : Bool := c ≠ '\t' && c ≠ '\n' && c ≠ '\r'

section Plain

variable {c : Char} {s t : List Char}

lemma isPlain_iff : isPlain c = true ↔
    0x20 < c.toNat ∧ c ≠ '#' ∧ c ≠ ':' ∧ hiddenInQuery c = false := by
  simp only [isPlain, Bool.and_eq_true, decide_eq_true_eq, Bool.not_eq_true', and_assoc]

lemma isEdge_of_isPlain (h : isPlain c = true) : isEdge c = false :=
  decide_eq_false (Nat.not_le.mpr (isPlain_iff.mp h).1)

lemma isKept_of_isPlain (h : isPlain c = true) : isKept c = true := by
  have hc := (isPlain_iff.mp h).1
  have hne : ∀ d : Char, d.toNat ≤ 0x20 → c ≠ d := by
    rintro _ hd rfl
    exact absurd hc (Nat.not_lt.mpr hd)
  simp only [isKept, Bool.and_eq_true, decide_eq_true_eq]
  exact ⟨⟨hne _ (by decide), hne _ (by decide)⟩, hne _ (by decide)⟩

lemma Plain.stops {q : Char → Bool} (ht : Plain t) (hq : ∀ c, isPlain c = true → q c = false) :
    ∀ c ∈ t.head?, q c = false :=
  fun c hc => hq c (ht c (List.mem_of_mem_head? hc))

lemma Plain.encode_eq (ht : Plain t) : encode hiddenInQuery t = t := by
  induction t with
  | nil => rfl
  | cons c t ih =>
      have hc := (isPlain_iff.mp (ht c List.mem_cons_self)).2.2.2
      have htail : encode hiddenInQuery t = t := ih fun d hd => ht d (List.mem_cons_of_mem c hd)
      rw [encode, List.flatMap_cons, hc, ← encode, htail]
      rfl

/-! ## Cleaning -/

/-- A text without what precedes an address in it and without what is left out anywhere. -/
def front (s : List Char) : List Char := (s.dropWhile isEdge).filter isKept

lemma clean_eq (s : List Char) :
    clean s = (((s.dropWhile isEdge).reverse.dropWhile isEdge).reverse).filter isKept := rfl

lemma mem_of_mem_front (h : c ∈ front s) : c ∈ s :=
  (List.dropWhile_sublist _).mem (List.mem_filter.mp h).1

/-- Nothing is cut from the end of a text that ends with a plain character. -/
lemma clean_of_getLast? (h : ∃ c ∈ s.getLast?, isPlain c = true) : clean s = front s := by
  obtain ⟨c, hlast, hc⟩ := h
  obtain ⟨s, rfl⟩ := List.getLast?_eq_some_iff.mp hlast
  rw [clean_eq, front, dropWhile_append_of_stop (stops_cons (isEdge_of_isPlain hc)),
    List.reverse_append, List.reverse_singleton, List.singleton_append,
    List.dropWhile_cons_of_neg (Bool.eq_false_iff.mp (isEdge_of_isPlain hc)), List.reverse_cons,
    List.reverse_reverse]

lemma front_append (ht : Plain t) : front (s ++ t) = front s ++ t := by
  rw [front, front, dropWhile_append_of_stop (ht.stops fun c => isEdge_of_isPlain),
    List.filter_append]
  congr 1
  exact List.filter_eq_self.mpr fun c hc => isKept_of_isPlain (ht c hc)

end Plain

/-! ## Reading -/

/-- A backslash of an address is a slash. -/
def slash (c : Char) : Char := if c = '\\' then '/' else c

lemma eq_or_eq_of_slash (c : Char) : slash c = c ∨ slash c = '/' := by
  unfold slash
  split
  case isTrue => exact .inr rfl
  case isFalse => exact .inl rfl

lemma notMem_map_slash {c : Char} {s : List Char} (hslash : c ≠ '/') (h : c ∉ s) :
    c ∉ s.map slash := by
  intro hmem
  obtain ⟨d, hd, rfl⟩ := List.mem_map.mp hmem
  rcases eq_or_eq_of_slash d with hsame | hsame
  · exact h (hsame.symm ▸ hd)
  · exact hslash hsame

lemma colon_mem_map_slash {s : List Char} (h : ':' ∈ s) : ':' ∈ s.map slash :=
  List.mem_map.mpr ⟨':', h, rfl⟩

/-- What an address says behind its scheme: a host, a path and perhaps a query. -/
def located? (secure : Bool) (s : List Char) : Option Url := do
  let authority := s.takeWhile fun c => c ≠ '/' && c ≠ '?'
  let s := s.drop authority.length
  return {
    secure
    authority := ← Authority.parse? secure authority
    segments := segmentsOf (s.takeWhile (· ≠ '?'))
    query :=
      if s.contains '?' then some (encode hiddenInQuery ((s.dropWhile (· ≠ '?')).drop 1))
      else none }

/-- What follows the scheme of an address. -/
def afterScheme (s : List Char) : List Char := dropSlashes ((s.dropWhile (· ≠ ':')).drop 1)

lemma parse?_eq (text : String) {s : List Char} (hs : (clean text.toList).takeWhile (· ≠ '#') = s) :
    parse? text = (secureScheme? (s.takeWhile (· ≠ ':'))).bind fun secure =>
      located? secure
        (afterScheme ((s.takeWhile (· ≠ '?')).map slash ++ s.dropWhile (· ≠ '?'))) := by
  subst hs
  rfl

lemma mem_of_mem_dropSlashes {c : Char} {s : List Char} (h : c ∈ dropSlashes s) : c ∈ s :=
  (List.dropWhile_sublist _).mem h

lemma mem_of_mem_afterScheme {c : Char} {s : List Char} (h : c ∈ afterScheme s) : c ∈ s :=
  (List.dropWhile_sublist _).mem (List.mem_of_mem_drop (mem_of_mem_dropSlashes h))

lemma afterScheme_of_notMem {s : List Char} (h : ':' ∉ s) : afterScheme s = [] := by
  rw [afterScheme, dropWhile_ne_of_notMem h]
  rfl

lemma located?_nil (secure : Bool) : located? secure [] = none := rfl

/-- What comes behind an address, and the query that it is: nothing, or a question mark and plain
characters. -/
inductive Tail : List Char → Option (List Char) → Prop
  | absent : Tail [] none
  | query {query : List Char} (hquery : Plain query) : Tail ('?' :: query) (some query)

section Tail

variable {s t : List Char} {query : Option (List Char)}

lemma Tail.plain (ht : Tail t query) : Plain t := by
  cases ht with
  | absent => exact fun c hc => absurd hc List.not_mem_nil
  | query hquery => exact List.forall_mem_cons.mpr ⟨by decide, hquery⟩

lemma Tail.notMem (ht : Tail t query) : '#' ∉ t ∧ ':' ∉ t :=
  ⟨fun h => (isPlain_iff.mp (ht.plain _ h)).2.1 rfl,
    fun h => (isPlain_iff.mp (ht.plain _ h)).2.2.1 rfl⟩

/-- A search that a question mark ends does not get into a tail. -/
lemma Tail.stops {p : Char → Bool} (ht : Tail t query) (hp : p '?' = false) :
    ∀ c ∈ t.head?, p c = false := by
  cases ht with
  | absent => exact fun c hc => absurd hc (Option.not_mem_none c)
  | query => exact stops_cons hp

lemma Tail.slashed (ht : Tail t query) (hs : '?' ∉ s) :
    ((s ++ t).takeWhile (· ≠ '?')).map slash ++ (s ++ t).dropWhile (· ≠ '?')
      = s.map slash ++ t := by
  have hstop := @Tail.stops t query (· ≠ '?') ht rfl
  rw [takeWhile_append_of_stop hstop, dropWhile_append_of_stop hstop, takeWhile_ne_of_notMem hs,
    dropWhile_ne_of_notMem hs, List.nil_append]

lemma Tail.afterScheme (ht : Tail t query) (hcolon : ':' ∈ s) :
    afterScheme (s ++ t) = Url.afterScheme s ++ t := by
  have hne : s.dropWhile (· ≠ ':') ≠ [] := by
    intro hnil
    exact absurd (List.dropWhile_eq_nil_iff.mp hnil ':' hcolon) (by decide)
  rw [Url.afterScheme, Url.afterScheme, dropWhile_append_of_mem hcolon (by decide),
    List.drop_append_of_le_length (List.length_pos_iff.mpr hne), dropSlashes,
    dropWhile_append_of_stop (ht.stops (by decide)), dropSlashes]

lemma Tail.query_eq (ht : Tail t query) (hs : '?' ∉ s) :
    (if (s ++ t).contains '?' then
      some (encode hiddenInQuery (((s ++ t).dropWhile (· ≠ '?')).drop 1))
    else none) = query := by
  rw [dropWhile_append_of_stop (@Tail.stops t query (· ≠ '?') ht rfl), dropWhile_ne_of_notMem hs,
    List.nil_append]
  cases ht with
  | absent =>
      rw [List.append_nil, List.contains_eq_mem, decide_eq_false hs]
      rfl
  | query hquery =>
      rw [if_pos (List.contains_iff_mem.mpr (List.mem_append_right _ List.mem_cons_self)),
        List.drop_one, List.tail_cons, hquery.encode_eq]

/-- A tail is the query, and nothing else is read of it. -/
lemma Tail.located? (ht : Tail t query) (hs : '?' ∉ s) (secure : Bool) :
    located? secure (s ++ t) = (located? secure s).map fun url => { url with query } := by
  have hauthority : (s ++ t).takeWhile (fun c => c ≠ '/' && c ≠ '?')
      = s.takeWhile fun c => c ≠ '/' && c ≠ '?' := takeWhile_append_of_stop (ht.stops rfl)
  have hlength : (s.takeWhile fun c => c ≠ '/' && c ≠ '?').length ≤ s.length :=
    (List.takeWhile_prefix _).length_le
  rw [Url.located?, Url.located?, hauthority, List.drop_append_of_le_length hlength]
  generalize hpath : s.drop (s.takeWhile fun c => c ≠ '/' && c ≠ '?').length = path
  have hmark : '?' ∉ path := fun h => hs (List.mem_of_mem_drop (hpath ▸ h))
  have hstop := @Tail.stops t query (· ≠ '?') ht rfl
  cases Authority.parse? secure (s.takeWhile fun c => c ≠ '/' && c ≠ '?') with
  | none => rfl
  | some authority =>
      simp only [takeWhile_append_of_stop hstop, ht.query_eq hmark, Option.bind_eq_bind,
        Option.bind_some, Option.pure_def, Option.map_some]

end Tail

/-- What is read of an address with a tail: what the address names, and the tail as its query. -/
lemma parse?_of_clean {text : String} {s t : List Char} {query : Option (List Char)}
    (hclean : clean text.toList = s ++ t) (hs : '?' ∉ s ∧ '#' ∉ s) (ht : Tail t query) :
    parse? text = (secureScheme? (s.takeWhile (· ≠ ':'))).bind fun secure =>
      (located? secure (afterScheme (s.map slash))).map fun url => { url with query } := by
  obtain ⟨hhash, hcolons⟩ := ht.notMem
  have hwhole : (clean text.toList).takeWhile (· ≠ '#') = s ++ t := by
    rw [hclean]
    exact takeWhile_ne_of_notMem fun h => (List.mem_append.mp h).elim hs.2 hhash
  rw [parse?_eq text hwhole, ht.slashed hs.1]
  by_cases hcolon : ':' ∈ s
  · have hmark : '?' ∉ afterScheme (s.map slash) :=
      fun h => notMem_map_slash (by decide) hs.1 (mem_of_mem_afterScheme h)
    rw [takeWhile_append_of_mem hcolon (by decide), ht.afterScheme (colon_mem_map_slash hcolon)]
    exact congrArg _ (funext fun secure => ht.located? hmark secure)
  · -- Without a colon there is nothing behind a scheme, with the tail and without it.
    have hslashed : ':' ∉ s.map slash := notMem_map_slash (by decide) hcolon
    have hnone : ':' ∉ s.map slash ++ t := fun h => (List.mem_append.mp h).elim hslashed hcolons
    rw [afterScheme_of_notMem hslashed, afterScheme_of_notMem hnone]
    simp only [located?_nil, Option.map_none, Option.bind_fun_none]

/-! ## Putting a query behind an address -/

/-- Whether a text can stand in front of a query: it has no query and no fragment of its own. -/
def Bare (text : String) : Prop := '?' ∉ text.toList ∧ '#' ∉ text.toList

/-- Whether an address ends with a character that belongs to it. -/
def Ends (address : String) : Prop := ∃ c ∈ address.toList.getLast?, isPlain c = true

/-- **A query is put behind an address and nowhere else.**  An address with a question mark and
plain characters behind it is read as the address, with these characters as its query. -/
theorem parse?_append_query {address query : String} (haddress : Bare address)
    (hends : Ends address) (hquery : Plain query.toList) :
    parse? (address ++ "?" ++ query)
      = (parse? address).map fun url => { url with query := some query.toList } := by
  have hfront : '?' ∉ front address.toList ∧ '#' ∉ front address.toList :=
    ⟨fun h => haddress.1 (mem_of_mem_front h), fun h => haddress.2 (mem_of_mem_front h)⟩
  have htail : Tail ('?' :: query.toList) (some query.toList) := .query hquery
  have htext : (address ++ "?" ++ query).toList = address.toList ++ '?' :: query.toList := by
    rw [String.toList_append, String.toList_append, List.append_assoc]
    rfl
  have hclean : clean address.toList = front address.toList ++ [] := by
    rw [clean_of_getLast? hends, List.append_nil]
  have hcleaned : clean (address ++ "?" ++ query).toList
      = front address.toList ++ '?' :: query.toList := by
    rw [htext, clean_of_getLast?, front_append htail.plain]
    have hne : '?' :: query.toList ≠ [] := List.cons_ne_nil _ _
    refine ⟨('?' :: query.toList).getLast hne, ?_, htail.plain _ (List.getLast_mem hne)⟩
    rw [List.getLast?_append, List.getLast?_eq_some_getLast hne, Option.some_or, Option.mem_some]
  rw [parse?_of_clean hcleaned hfront htail, parse?_of_clean hclean hfront .absent,
    Option.map_bind]
  simp only [Function.comp_def, Option.map_map]

/-! ## Joining -/

lemma bare_join {base path : String} (hbase : Bare base) (hpath : Bare path) :
    Bare (join base path) := by
  have hmem : ∀ c, c ≠ '/' → c ∈ (join base path).toList → c ∈ base.toList ∨ c ∈ path.toList := by
    intro c hc h
    rw [join, String.toList_ofList, List.mem_append, List.mem_cons] at h
    rcases h with h | h | h
    · exact .inl (List.mem_reverse.mp (mem_of_mem_dropSlashes (List.mem_reverse.mp h)))
    · exact absurd h hc
    · exact .inr (mem_of_mem_dropSlashes h)
  exact ⟨fun h => (hmem _ (by decide) h).elim hbase.1 hpath.1,
    fun h => (hmem _ (by decide) h).elim hbase.2 hpath.2⟩

lemma ends_join {path : String} (base : String)
    (h : ∃ c ∈ path.toList.getLast?, c ≠ '/' ∧ isPlain c = true) : Ends (join base path) := by
  obtain ⟨c, hlast, hslash, hc⟩ := h
  obtain ⟨shorter, hpath⟩ := List.getLast?_eq_some_iff.mp hlast
  have hdropped : dropSlashes path.toList = dropSlashes shorter ++ [c] := by
    rw [hpath]
    exact dropWhile_append_of_stop (stops_cons (decide_eq_false hslash))
  refine ⟨c, ?_, hc⟩
  rw [join, String.toList_ofList, hdropped, ← List.cons_append, ← List.append_assoc,
    List.getLast?_concat, Option.mem_some]

end NetworkPolicy.Url
