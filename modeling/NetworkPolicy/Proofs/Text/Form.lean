import Mathlib.Tactic.Common
import Mathlib.Tactic.IntervalCases
import NetworkPolicy.Proofs.Text.Utf8
import NetworkPolicy.Text.Form

/-!
# Reading back what is form-encoded

Pairs of any texts are read back from their form encoding (`pairs_encodePairs`).  There are two
halves to it.  A text is read back from its bytes, one at a time (`percentDecode_encodeByte`), and
the encoded texts consist of a few characters only (`alphabet`), none of which parts pairs or
names from values, so what is put together is cut again in the same places.

Cutting is the library's `List.splitOn` (`splitAt_eq_splitOn`).  `splitAt_intercalate` says what is
cut of parts with the separator between them when the separator may be in the parts as well.
-/

namespace NetworkPolicy.Form

/-! ## Cutting -/

lemma intercalate_concat_append {α : Type} (separator : α) (parts : List (List α))
    (last back : List α) : [separator].intercalate (parts ++ [last]) ++ back
      = [separator].intercalate (parts ++ [last ++ back]) := by
  induction parts with
  | nil => simp
  | cons part parts ih =>
      rw [List.cons_append, List.cons_append, List.intercalate_cons_of_ne_nil (by simp),
        List.intercalate_cons_of_ne_nil (by simp), List.append_assoc, ih]

section Cutting

variable {α : Type} [DecidableEq α] {separator : α}

lemma splitAt_eq_splitOn (s : List α) : splitAt separator s = s.splitOn separator := by
  induction s with
  | nil => rfl
  | cons x s ih =>
      rw [splitAt, ih, List.splitOn_cons_eq_if_modifyHead]
      cases hrest : s.splitOn separator with
      | nil => exact absurd hrest (List.splitOn_ne_nil separator s)
      | cons part parts => by_cases hx : x = separator <;> simp [hx]

/-- Parts with a separator between them are cut between them and wherever it is in them. -/
lemma splitAt_intercalate {parts : List (List α)} (hparts : parts ≠ []) :
    splitAt separator ([separator].intercalate parts) = parts.flatMap (splitAt separator) := by
  induction parts with
  | nil => exact absurd rfl hparts
  | cons part parts ih =>
      by_cases hrest : parts = []
      · subst hrest
        rw [List.intercalate_singleton, List.flatMap_singleton]
      · rw [List.intercalate_cons_of_ne_nil hrest, List.append_assoc, List.singleton_append,
          List.flatMap_cons, ← ih hrest]
        simp only [splitAt_eq_splitOn, List.splitOn_append_cons_self]

lemma splitAt_of_notMem {s : List α} (h : separator ∉ s) : splitAt separator s = [s] := by
  rw [splitAt_eq_splitOn, List.splitOn_eq_singleton h]

/-- There is no separator left in what has been cut. -/
lemma notMem_of_mem_splitAt {s part : List α} (h : part ∈ splitAt separator s) :
    separator ∉ part := by
  induction s generalizing part with
  | nil => exact List.mem_singleton.mp h ▸ List.not_mem_nil
  | cons x s ih =>
      rw [splitAt] at h
      cases hrest : splitAt separator s with
      | nil => exact absurd (splitAt_eq_splitOn s ▸ hrest) (List.splitOn_ne_nil separator s)
      | cons first parts =>
          rw [hrest] at h ih
          by_cases hx : x = separator
          · simp only [if_pos hx] at h
            rcases List.mem_cons.mp h with rfl | h
            · exact List.not_mem_nil
            · exact ih h
          · simp only [if_neg hx] at h
            rcases List.mem_cons.mp h with rfl | h
            · rintro (_ | ⟨_, hfirst⟩)
              · exact hx rfl
              · exact ih List.mem_cons_self hfirst
            · exact ih (List.mem_cons_of_mem first h)

/-- Put together again, what has been cut is what it was. -/
lemma intercalate_splitAt (s : List α) : [separator].intercalate (splitAt separator s) = s := by
  rw [splitAt_eq_splitOn, List.intercalate_splitOn]

lemma splitAt_ne_nil (s : List α) : splitAt separator s ≠ [] :=
  splitAt_eq_splitOn s ▸ List.splitOn_ne_nil separator s

/-- What is put in front without a separator belongs to the first part. -/
lemma splitAt_append_front {front s : List α} (h : separator ∉ front) :
    splitAt separator (front ++ s) = (splitAt separator s).modifyHead (front ++ ·) := by
  induction front with
  | nil => cases hparts : splitAt separator s <;> simp [hparts]
  | cons x front ih =>
      obtain ⟨hx, hfront⟩ := not_or.mp (mt List.mem_cons.mpr h)
      rw [List.cons_append, splitAt, ih hfront]
      cases hparts : splitAt separator s with
      | nil => exact absurd hparts (splitAt_ne_nil s)
      | cons part parts => simp [Ne.symm hx]

/-- What is put behind without a separator belongs to the last part. -/
lemma splitAt_append_back {s last back : List α} {parts : List (List α)}
    (hparts : splitAt separator s = parts ++ [last]) (hback : separator ∉ back) :
    splitAt separator (s ++ back) = parts ++ [last ++ back] := by
  have hwhole : s ++ back = [separator].intercalate (parts ++ [last ++ back]) := by
    rw [← intercalate_concat_append, ← hparts, intercalate_splitAt]
  have hfree : ∀ part ∈ parts ++ [last], separator ∉ part := by
    rw [← hparts]
    exact fun part => notMem_of_mem_splitAt
  obtain ⟨hfront, hlast⟩ := List.forall_mem_append.mp hfree
  have hlast' : separator ∉ last ++ back :=
    fun hmem => (List.mem_append.mp hmem).elim (hlast last List.mem_cons_self) hback
  rw [hwhole, splitAt_eq_splitOn]
  exact List.splitOn_intercalate separator
    (List.forall_mem_append.mpr ⟨hfront, List.forall_mem_singleton.mpr hlast'⟩) (by simp)

end Cutting

lemma flatMap_intercalate {α β : Type} (f : α → List β) (separator : α) (parts : List (List α)) :
    ([separator].intercalate parts).flatMap f
      = (f separator).intercalate (parts.map (List.flatMap f)) := by
  induction parts with
  | nil => rfl
  | cons part parts ih =>
      by_cases hrest : parts = []
      · subst hrest
        rw [List.map_singleton, List.intercalate_singleton, List.intercalate_singleton]
      · rw [List.intercalate_cons_of_ne_nil hrest, List.map_cons,
          List.intercalate_cons_of_ne_nil (mt List.map_eq_nil_iff.mp hrest), List.flatMap_append,
          List.flatMap_append, List.flatMap_singleton, ih]

lemma eq_or_exists_mem_of_mem_intercalate {α : Type} {separator x : α} {parts : List (List α)}
    (h : x ∈ [separator].intercalate parts) : x = separator ∨ ∃ part ∈ parts, x ∈ part := by
  induction parts with
  | nil => exact absurd h List.not_mem_nil
  | cons part parts ih =>
      by_cases hrest : parts = []
      · subst hrest
        rw [List.intercalate_singleton] at h
        exact .inr ⟨part, List.mem_cons_self, h⟩
      · rw [List.intercalate_cons_of_ne_nil hrest, List.mem_append, List.mem_append,
          List.mem_singleton] at h
        rcases h with (hx | hx) | hx
        · exact .inr ⟨part, List.mem_cons_self, hx⟩
        · exact .inl hx
        · refine (ih hx).imp_right fun ⟨other, hother, hx⟩ => ?_
          exact ⟨other, List.mem_cons_of_mem part hother, hx⟩

/-! ## The characters of an encoded text -/

/-- The characters that encoded texts are made of. -/
def alphabet : List Char :=
  "0123456789ABCDEFGHIJKLMNOPQRSTUVWXYZabcdefghijklmnopqrstuvwxyz*-._+%".toList

lemma literal_mem_alphabet {b : UInt8} (h : isLiteral b = true) :
    Char.ofNat b.toNat ∈ alphabet := by
  have hall : ∀ n < 256, isLiteral (UInt8.ofNat n) = true → Char.ofNat n ∈ alphabet := by
    decide +kernel
  have hb := hall b.toNat (UInt8.toNat_lt b)
  rw [UInt8.ofNat_toNat] at hb
  exact hb h

lemma digits_lt (b : UInt8) : b.toNat / 16 < 16 ∧ b.toNat % 16 < 16 := by
  have hb : b.toNat < 256 := UInt8.toNat_lt b
  omega

lemma upperDigit_mem_alphabet {n : Nat} (h : n < 16) : Hex.upperDigit n ∈ alphabet := by
  interval_cases n <;> decide

lemma mem_alphabet_of_encodeByte {b : UInt8} {c : Char} (h : c ∈ encodeByte b) :
    c ∈ alphabet := by
  obtain ⟨hhigh, hlow⟩ := digits_lt b
  unfold encodeByte at h
  split at h
  case isTrue hliteral =>
    rw [List.mem_singleton.mp h]
    exact literal_mem_alphabet hliteral
  case isFalse =>
  split at h
  case isTrue =>
    rw [List.mem_singleton.mp h]
    decide
  case isFalse =>
    simp only [percent, List.mem_cons, List.not_mem_nil, or_false] at h
    rcases h with rfl | rfl | rfl
    · decide
    · exact upperDigit_mem_alphabet hhigh
    · exact upperDigit_mem_alphabet hlow

lemma mem_alphabet_of_encode {s : List Char} {c : Char} (h : c ∈ encode s) : c ∈ alphabet := by
  obtain ⟨b, -, hc⟩ := List.mem_flatMap.mp h
  exact mem_alphabet_of_encodeByte hc

lemma utf8EncodeChar_of_ascii {c : Char} (h : c.toNat < 0x80) :
    String.utf8EncodeChar c = [UInt8.ofNat c.toNat] := by
  have hlow : c.val.toNat ≤ 0x7F := Nat.le_of_lt_succ h
  simp only [String.utf8EncodeChar, if_pos hlow]
  rfl

/-- The byte of an ASCII character. -/
def byte (c : Char) : UInt8 := UInt8.ofNat c.toNat

lemma bytes_of_ascii {s : List Char} (h : ∀ c ∈ s, c.toNat < 0x80) :
    Utf8.bytes s = s.map byte := by
  induction s with
  | nil => rfl
  | cons c s ih =>
      have hrest := ih fun d hd => h d (List.mem_cons_of_mem c hd)
      rw [Utf8.bytes, List.flatMap_cons, utf8EncodeChar_of_ascii (h c List.mem_cons_self),
        ← Utf8.bytes, hrest]
      rfl

/-- A property of all characters of the alphabet is found by going through them. -/
lemma forall_mem_alphabet {p : Char → Prop} [DecidablePred p]
    (h : (alphabet.all fun c => p c) = true) : ∀ c ∈ alphabet, p c :=
  fun c hc => of_decide_eq_true (List.all_eq_true.mp h c hc)

lemma ascii_of_mem_alphabet : ∀ c ∈ alphabet, c.toNat < 0x80 :=
  forall_mem_alphabet (by decide)

lemma bytes_encode (s : List Char) : Utf8.bytes (encode s) = (encode s).map byte :=
  bytes_of_ascii fun c hc => ascii_of_mem_alphabet c (mem_alphabet_of_encode hc)

/-- The bytes that part pairs, and names from values, are not among those of an encoded text. -/
lemma notMem_bytes_encode (s : List Char) :
    0x26 ∉ Utf8.bytes (encode s) ∧ 0x3D ∉ Utf8.bytes (encode s) := by
  have hall : ∀ c ∈ alphabet, byte c ≠ 0x26 ∧ byte c ≠ 0x3D :=
    forall_mem_alphabet (by decide)
  have hcode : ∀ c ∈ encode s, byte c ≠ 0x26 ∧ byte c ≠ 0x3D :=
    fun c hc => hall c (mem_alphabet_of_encode hc)
  rw [bytes_encode]
  constructor
  · intro h
    obtain ⟨c, hc, hbyte⟩ := List.mem_map.mp h
    exact (hcode c hc).1 hbyte
  · intro h
    obtain ⟨c, hc, hbyte⟩ := List.mem_map.mp h
    exact (hcode c hc).2 hbyte

/-! ## Texts -/

lemma percentDecode_cons_of_ne {b : UInt8} (h : b ≠ 0x25) (rest : List UInt8) :
    percentDecode (b :: rest) = b :: percentDecode rest := by
  rw [percentDecode.eq_def]
  split
  case h_1 heq => exact absurd (List.cons.inj heq).1 h
  case h_2 heq =>
    cases heq
    rfl
  case h_3 heq => cases heq

lemma hexValue?_upperDigit {n : Nat} (h : n < 16) :
    hexValue? (byte (Hex.upperDigit n)) = some n := by
  interval_cases n <;> decide

lemma percentDecode_percent (b : UInt8) (rest : List UInt8) :
    percentDecode ((percent b).map byte ++ rest) = b :: percentDecode rest := by
  obtain ⟨hhigh, hlow⟩ := digits_lt b
  have hb : UInt8.ofNat (b.toNat / 16 * 16 + b.toNat % 16) = b := by
    rw [Nat.div_add_mod', UInt8.ofNat_toNat]
  show percentDecode (0x25 :: byte (Hex.upperDigit (b.toNat / 16)) ::
    byte (Hex.upperDigit (b.toNat % 16)) :: rest) = _
  rw [percentDecode, hexValue?_upperDigit hhigh, hexValue?_upperDigit hlow]
  simp only [hb]

/-- The byte that a byte of a form stands for when it is not part of an escape. -/
def spaced (b : UInt8) : UInt8 := if b = 0x2B then 0x20 else b

lemma spaced_upperDigit {n : Nat} (h : n < 16) :
    spaced (byte (Hex.upperDigit n)) = byte (Hex.upperDigit n) := by
  interval_cases n <;> decide

/-- One byte is read back from what is written for it. -/
lemma percentDecode_encodeByte (b : UInt8) (rest : List UInt8) :
    percentDecode ((encodeByte b).map (spaced ∘ byte) ++ rest) = b :: percentDecode rest := by
  unfold encodeByte
  split
  case isTrue hliteral =>
    have hall : ∀ n < 256, isLiteral (UInt8.ofNat n) = true →
        spaced (byte (Char.ofNat n)) = UInt8.ofNat n ∧ UInt8.ofNat n ≠ 0x25 := by decide +kernel
    have hb := hall b.toNat (UInt8.toNat_lt b)
    rw [UInt8.ofNat_toNat] at hb
    obtain ⟨hbyte, hne⟩ := hb hliteral
    show percentDecode (spaced (byte (Char.ofNat b.toNat)) :: rest) = _
    rw [hbyte, percentDecode_cons_of_ne hne]
  case isFalse =>
  split
  case isTrue hspace =>
    rw [hspace]
    exact percentDecode_cons_of_ne (by decide) rest
  case isFalse =>
    obtain ⟨hhigh, hlow⟩ := digits_lt b
    have hspaced : (percent b).map (spaced ∘ byte) = (percent b).map byte := by
      simp only [percent, List.map_cons, List.map_nil, Function.comp_apply,
        spaced_upperDigit hhigh, spaced_upperDigit hlow]
      rfl
    rw [hspaced, percentDecode_percent]

/-- The bytes of a text are read back from what is written for it. -/
lemma percentDecode_encode (s : List Char) (rest : List UInt8) :
    percentDecode ((encode s).map (spaced ∘ byte) ++ rest)
      = Utf8.bytes s ++ percentDecode rest := by
  rw [encode]
  induction Utf8.bytes s with
  | nil => rfl
  | cons b bs ih =>
      rw [List.flatMap_cons, List.map_append, List.append_assoc, percentDecode_encodeByte, ih,
        List.cons_append]

lemma percentDecode_map_encode (s : List Char) :
    percentDecode ((encode s).map (spaced ∘ byte)) = Utf8.bytes s := by
  simpa [percentDecode] using percentDecode_encode s []

/-- Bytes that are those of a text when their escapes are resolved are read as the text. -/
lemma decode_of_percentDecode {encoded : List UInt8} {s : List Char}
    (h : percentDecode (encoded.map spaced) = Utf8.bytes s) : decode encoded = String.ofList s := by
  show Utf8.lossy (percentDecode (encoded.map spaced)) = _
  rw [h, Utf8.lossy, Utf8.symbols_bytes, List.map_map]
  exact congrArg String.ofList (List.map_id s)

/-- A text is read back from what is written for it. -/
lemma decode_encode (s : List Char) : decode (Utf8.bytes (encode s)) = String.ofList s := by
  refine decode_of_percentDecode ?_
  rw [bytes_encode, List.map_map, percentDecode_map_encode]

/-! ## Pairs -/

lemma bytes_append (s t : List Char) : Utf8.bytes (s ++ t) = Utf8.bytes s ++ Utf8.bytes t :=
  List.flatMap_append

lemma bytes_encodePair (entry : String × String) : Utf8.bytes (encodePair entry)
    = Utf8.bytes (encode entry.1.toList) ++ 0x3D :: Utf8.bytes (encode entry.2.toList) := by
  rw [encodePair, bytes_append]
  rfl

/-- A name and its value are read back from what is written for them. -/
lemma pair_encodePair (entry : String × String) :
    pair (Utf8.bytes (encodePair entry)) = entry := by
  have hname : ∀ b ∈ Utf8.bytes (encode entry.1.toList), decide (b ≠ 0x3D) = true := by
    intro b hb
    refine decide_eq_true fun hsame => (notMem_bytes_encode entry.1.toList).2 ?_
    exact hsame ▸ hb
  rw [bytes_encodePair, pair, List.takeWhile_append_of_pos hname,
    List.dropWhile_append_of_pos hname]
  show (decode (Utf8.bytes (encode entry.1.toList) ++ []),
    decode (Utf8.bytes (encode entry.2.toList))) = entry
  rw [List.append_nil, decode_encode, decode_encode, String.ofList_toList, String.ofList_toList]

lemma notMem_bytes_encodePair (entry : String × String) :
    0x26 ∉ Utf8.bytes (encodePair entry) := by
  rw [bytes_encodePair, List.mem_append, List.mem_cons]
  rintro (h | h | h)
  · exact (notMem_bytes_encode _).1 h
  · exact absurd h (by decide)
  · exact (notMem_bytes_encode _).1 h

lemma bytes_encodePair_ne_nil (entry : String × String) :
    Utf8.bytes (encodePair entry) ≠ [] := by
  rw [bytes_encodePair]
  exact List.append_ne_nil_of_right_ne_nil _ (List.cons_ne_nil _ _)

/-- **Pairs of any texts are read back from their form encoding.** -/
theorem pairs_encodePairs (entries : List (String × String)) :
    pairs (encodePairs entries) = entries := by
  cases entries with
  | nil => rfl
  | cons entry entries =>
      let parts := ((entry :: entries).map encodePair).map Utf8.bytes
      have hbytes : Utf8.bytes (encodePairs (entry :: entries)).toList
          = [0x26].intercalate parts := by
        rw [encodePairs, String.toList_ofList, Utf8.bytes, flatMap_intercalate]
        rfl
      have hparts : ∀ part ∈ parts, ∃ entry, part = Utf8.bytes (encodePair entry) := by
        intro part hpart
        obtain ⟨_, hcode, rfl⟩ := List.mem_map.mp hpart
        obtain ⟨entry, -, rfl⟩ := List.mem_map.mp hcode
        exact ⟨entry, rfl⟩
      have hcut : splitAt 0x26 ([0x26].intercalate parts) = parts := by
        rw [splitAt_eq_splitOn]
        refine List.splitOn_intercalate 0x26 (fun part hpart => ?_) (List.cons_ne_nil _ _)
        obtain ⟨entry, rfl⟩ := hparts part hpart
        exact notMem_bytes_encodePair entry
      have hfull : parts.filter (· ≠ []) = parts := by
        refine List.filter_eq_self.mpr fun part hpart => ?_
        obtain ⟨entry, rfl⟩ := hparts part hpart
        exact decide_eq_true (bytes_encodePair_ne_nil entry)
      have hread : (pair ∘ Utf8.bytes) ∘ encodePair = id := funext pair_encodePair
      rw [pairs, hbytes, hcut, hfull, List.map_map, List.map_map, hread, List.map_id]

/-- Pairs with separators and escapes in their texts, a name that is empty, and a name given
twice. -/
example : pairs (encodePairs [("a&b", "=%26+ é"), ("", ""), ("a&b", "#;")])
    = [("a&b", "=%26+ é"), ("", ""), ("a&b", "#;")] := by cbv

/-- The pairs of several queries with `&` between them. -/
lemma pairs_intercalate (queries : List String) :
    pairs ("&".intercalate queries) = queries.flatMap pairs := by
  cases queries with
  | nil => rfl
  | cons query queries =>
      have hbytes : Utf8.bytes ("&".intercalate (query :: queries)).toList
          = [0x26].intercalate ((query :: queries).map fun query => Utf8.bytes query.toList) := by
        rw [String.toList_intercalate, Utf8.bytes]
        show ([('&' : Char)].intercalate ((query :: queries).map String.toList)).flatMap _ = _
        rw [flatMap_intercalate, List.map_map]
        rfl
      rw [pairs, hbytes, splitAt_intercalate (by simp), List.flatMap_map, List.filter_flatMap,
        List.map_flatMap]
      rfl

lemma encodePairs_injective : Function.Injective encodePairs :=
  Function.LeftInverse.injective pairs_encodePairs

/-- Between the encoded texts there is nothing but what parts them. -/
lemma mem_encodePairs {entries : List (String × String)} {c : Char}
    (h : c ∈ (encodePairs entries).toList) : c ∈ '&' :: '=' :: alphabet := by
  rw [encodePairs, String.toList_ofList] at h
  rcases eq_or_exists_mem_of_mem_intercalate h with rfl | ⟨part, hpart, hc⟩
  · exact List.mem_cons_self
  · obtain ⟨entry, -, rfl⟩ := List.mem_map.mp hpart
    rw [encodePair, List.mem_append, List.mem_cons] at hc
    rcases hc with hc | rfl | hc
    · exact .tail _ (.tail _ (mem_alphabet_of_encode hc))
    · exact .tail _ List.mem_cons_self
    · exact .tail _ (.tail _ (mem_alphabet_of_encode hc))

end NetworkPolicy.Form
