import Mathlib.Data.List.Basic
import Mathlib.Tactic.Common
import NetworkPolicy.Http.Query
import NetworkPolicy.Proofs.Text.Ends
import NetworkPolicy.Proofs.Text.Form

/-!
# The ids that a query lists

The value of the parameter `id` is a list of items with commas between them.  Blanks around an item
and items of nothing but blanks do not count, and what remains is a list of ids: texts that are not
empty, hold no comma and have no blank at either end (`IsId`).  Each list of ids is listed by a
query, and only lists of ids are (`ids_normal_form`).

* `splitIds_intercalate` — items are read one by one, so that laws about lists are laws about items.
* `Padded` — items with blanks around them, and with empty items among them.
* `queryIds_congr` — a query is read by its parameters `id` only.
-/

namespace NetworkPolicy.Http

open Text (Blank Trimmed)

/-! ## Ids and items -/

/-- The text can be an id of a list: it is not empty and has no comma and no blank at its ends. -/
structure IsId (id : String) : Prop where
  ne_empty : id ≠ ""
  noComma : ',' ∉ id.toList
  trimmed : Trimmed id.toList

/-- Items with blanks around them, and with items of nothing but blanks among them. -/
inductive Padded : List String → List String → Prop where
  | nil : Padded [] []
  | gap {items padded : List String} {blanks : List Char} (hblanks : Blank blanks)
      (h : Padded items padded) : Padded items (String.ofList blanks :: padded)
  | item {items padded : List String} {left right : List Char} (item : String) (hleft : Blank left)
      (hright : Blank right) (h : Padded items padded) :
      Padded (item :: items) ((String.ofList left ++ item ++ String.ofList right) :: padded)

instance (id : String) : Decidable (IsId id) :=
  decidable_of_iff (id ≠ "" ∧ ',' ∉ id.toList ∧ Trimmed id.toList)
    ⟨fun h => ⟨h.1, h.2.1, h.2.2⟩, fun h => ⟨h.1, h.2, h.3⟩⟩

section Items

variable {id : String} {left right blanks : List Char}

lemma comma_notMem (h : Blank blanks) : ',' ∉ blanks :=
  fun hmem => absurd (h ',' hmem) (by decide)

lemma splitIds_eq (value : String) : splitIds value
    = (((Form.splitAt ',' value.toList).map Text.trim).filter (· ≠ [])).map String.ofList := rfl

/-- Items are read one by one. -/
lemma splitIds_intercalate (items : List String) :
    splitIds (",".intercalate items) = items.flatMap splitIds := by
  cases items with
  | nil => rfl
  | cons item items =>
      rw [splitIds_eq, String.toList_intercalate]
      show (((Form.splitAt ',' ([','].intercalate ((item :: items).map String.toList))).map
        Text.trim).filter (· ≠ [])).map String.ofList = _
      rw [Form.splitAt_intercalate (by simp), List.flatMap_map, List.map_flatMap,
        List.filter_flatMap, List.map_flatMap]
      rfl

lemma splitIds_of_isId (h : IsId id) : splitIds id = [id] := by
  have htrim : Text.trim id.toList = id.toList :=
    Text.trim_eq_iff.mpr ⟨h.trimmed, [], [], Text.run_nil, Text.run_nil, by simp⟩
  have hne : id.toList ≠ [] := by simpa using h.ne_empty
  rw [splitIds_eq, Form.splitAt_of_notMem h.noComma]
  simp [htrim, hne]

lemma splitIds_of_blank (h : Blank blanks) : splitIds (String.ofList blanks) = [] := by
  rw [splitIds_eq, String.toList_ofList, Form.splitAt_of_notMem (comma_notMem h)]
  simp [Text.trim_of_blank h]

/-- Whatever is read is an id. -/
lemma isId_of_mem_splitIds {value : String} (h : id ∈ splitIds value) : IsId id := by
  obtain ⟨text, htext, rfl⟩ := List.mem_map.mp h
  obtain ⟨hmem, hne⟩ := List.mem_filter.mp htext
  obtain ⟨part, hpart, rfl⟩ := List.mem_map.mp hmem
  obtain ⟨htrimmed, left, right, -, -, hwhole⟩ := Text.trim_spec part
  refine ⟨by simpa using hne, ?_, by rwa [String.toList_ofList]⟩
  rw [String.toList_ofList]
  intro hcomma
  refine Form.notMem_of_mem_splitAt hpart ?_
  rw [hwhole]
  exact List.mem_append_left _ (List.mem_append_right _ hcomma)

/-! ## Padding -/

/-- Blanks around a text belong to its first and its last item, where they do not count. -/
lemma splitIds_pad (value : String) (hleft : Blank left) (hright : Blank right) :
    splitIds (String.ofList left ++ value ++ String.ofList right) = splitIds value := by
  have hfront : ∀ s : List Char, (Form.splitAt ',' (left ++ s)).map Text.trim
      = (Form.splitAt ',' s).map Text.trim := by
    intro s
    rw [Form.splitAt_append_front (comma_notMem hleft)]
    cases Form.splitAt ',' s with
    | nil => rfl
    | cons part parts => simp [Text.trim_append_left part hleft]
  have hback : ∀ s : List Char, (Form.splitAt ',' (s ++ right)).map Text.trim
      = (Form.splitAt ',' s).map Text.trim := by
    intro s
    rcases List.eq_nil_or_concat (Form.splitAt ',' s) with hnil | ⟨parts, last, hparts⟩
    · exact absurd hnil (Form.splitAt_ne_nil s)
    · rw [List.concat_eq_append] at hparts
      rw [Form.splitAt_append_back hparts (comma_notMem hright), hparts]
      simp [Text.trim_append_right last hright]
  rw [splitIds_eq, splitIds_eq, String.toList_append, String.toList_append, String.toList_ofList,
    String.toList_ofList, hback, hfront]

/-- The ids of padded items are the ids of the items. -/
lemma Padded.flatMap_splitIds {items padded : List String} (h : Padded items padded) :
    padded.flatMap splitIds = items.flatMap splitIds := by
  induction h with
  | nil => rfl
  | gap hblanks _ ih => rw [List.flatMap_cons, splitIds_of_blank hblanks, List.nil_append, ih]
  | item item hleft hright _ ih =>
      rw [List.flatMap_cons, List.flatMap_cons, splitIds_pad item hleft hright, ih]

end Items

/-! ## Parameters -/

/-- The parameters of a query that are named `id`. -/
def idParameters (query : String) : List (String × String) :=
  (Form.pairs query).filter (·.1 = "id")

/-- Whether there is a parameter named `id` in a query or a part of one. -/
def namesId (part : String) : Bool := (Form.pairs part).any (·.1 = "id")

/-- The parameter that lists items: the items with commas between them, form-encoded. -/
def idParameter (items : List String) : String :=
  "id=" ++ String.ofList (Form.encode (",".intercalate items).toList)

/-- The parameter that lists items one by one: the form-encoded items with commas between them. -/
def idParameterOfEach (items : List String) : String :=
  "id=" ++ ",".intercalate (items.map fun item => String.ofList (Form.encode item.toList))

section Parameters

variable {query other value : String} {ids : List String}

lemma queryIds_eq (query : Option String) : queryIds query
    = match idParameters (query.getD "") with
      | [] => .ok none
      | [entry] => .ok (some (splitIds entry.2))
      | _ => .error .duplicateId := rfl

/-- A query is read by its parameters `id` only. -/
lemma queryIds_congr (h : idParameters query = idParameters other) :
    queryIds (some query) = queryIds (some other) := by
  rw [queryIds_eq, queryIds_eq]
  simp only [Option.getD_some, h]

lemma queryIds_of_singleton {name : String} (h : idParameters query = [(name, value)]) :
    queryIds (some query) = .ok (some (splitIds value)) := by
  rw [queryIds_eq]
  simp only [Option.getD_some, h]

lemma exists_of_queryIds {query : Option String} (h : queryIds query = .ok (some ids)) :
    ∃ value, ids = splitIds value := by
  rw [queryIds_eq] at h
  split at h
  case h_1 => cases h
  case h_2 entry _ =>
    cases h
    exact ⟨entry.2, rfl⟩
  case h_3 => cases h

lemma queryIds_of_two_le (h : 2 ≤ (idParameters query).length) :
    queryIds (some query) = .error .duplicateId := by
  rw [queryIds_eq]
  simp only [Option.getD_some]
  split
  case h_1 hnil => exact absurd h (by simp [hnil])
  case h_2 hone => exact absurd h (by simp [hone])
  case h_3 => rfl

/-! ### Parts of a query -/

lemma idParameters_intercalate (parts : List String) :
    idParameters ("&".intercalate parts) = parts.flatMap idParameters := by
  rw [idParameters, Form.pairs_intercalate, List.filter_flatMap]
  rfl

lemma idParameters_eq_nil_iff {part : String} : idParameters part = [] ↔ namesId part = false := by
  rw [idParameters, namesId, List.filter_eq_nil_iff, List.any_eq_false]

/-- The parts of a query without a parameter `id` do not count. -/
lemma flatMap_idParameters (parts : List String) :
    (parts.filter namesId).flatMap idParameters = parts.flatMap idParameters := by
  induction parts with
  | nil => rfl
  | cons part parts ih =>
      cases hpart : namesId part with
      | false =>
          rw [List.filter_cons_of_neg (by simp [hpart]), List.flatMap_cons,
            idParameters_eq_nil_iff.mpr hpart, List.nil_append, ih]
      | true =>
          rw [List.filter_cons_of_pos hpart, List.flatMap_cons, List.flatMap_cons, ih]

lemma length_filter_namesId_le (parts : List String) :
    (parts.filter namesId).length ≤ (parts.flatMap idParameters).length := by
  induction parts with
  | nil => exact Nat.le_refl 0
  | cons part parts ih =>
      rw [List.flatMap_cons, List.length_append]
      cases hpart : namesId part with
      | false =>
          rw [List.filter_cons_of_neg (by simp [hpart])]
          omega
      | true =>
          have hpos : 0 < (idParameters part).length := by
            refine List.length_pos_iff.mpr fun hnil => ?_
            rw [idParameters_eq_nil_iff.mp hnil] at hpart
            cases hpart
          rw [List.filter_cons_of_pos hpart, List.length_cons]
          omega

/-! ### Texts of a parameter -/

/-- The parameters of a text that begins as the parameter `id` does. -/
lemma pairs_id {part : List UInt8} {parts : List (List UInt8)}
    (h : Form.splitAt 0x26 (Utf8.bytes value.toList) = part :: parts) :
    Form.pairs ("id=" ++ value)
      = ("id", Form.decode part) :: (parts.filter (· ≠ [])).map Form.pair := by
  have hname : Form.splitAt 0x26 (Utf8.bytes ("id=" ++ value).toList)
      = ([0x69, 0x64, 0x3D] ++ part) :: parts := by
    have hbytes : Utf8.bytes ("id=" ++ value).toList
        = [0x69, 0x64, 0x3D] ++ Utf8.bytes value.toList := by
      rw [String.toList_append, Form.bytes_append]
      rfl
    rw [hbytes, Form.splitAt_append_front (by decide), h]
    rfl
  have hpair : Form.pair ([0x69, 0x64, 0x3D] ++ part) = ("id", Form.decode part) := by
    show (Form.decode [0x69, 0x64], Form.decode part) = _
    have hid : Form.decode [0x69, 0x64] = "id" := by decide
    rw [hid]
  rw [Form.pairs, hname, List.filter_cons_of_pos (by simp), List.map_cons, hpair]

lemma namesId_id (value : String) : namesId ("id=" ++ value) = true := by
  cases h : Form.splitAt 0x26 (Utf8.bytes value.toList) with
  | nil => exact absurd h (Form.splitAt_ne_nil _)
  | cons part parts => simp [namesId, pairs_id h]

/-- An encoded parameter names `id` exactly if that is its name. -/
lemma namesId_encodePairs (name value : String) :
    namesId (Form.encodePairs [(name, value)]) = decide (name = "id") := by
  rw [namesId, Form.pairs_encodePairs, List.any_cons, List.any_nil, Bool.or_false]

lemma idParameters_id (h : 0x26 ∉ Utf8.bytes value.toList) :
    idParameters ("id=" ++ value) = [("id", Form.decode (Utf8.bytes value.toList))] := by
  rw [idParameters, pairs_id (Form.splitAt_of_notMem h)]
  rfl

lemma idParameters_idParameter (items : List String) :
    idParameters (idParameter items) = [("id", ",".intercalate items)] := by
  have hfree := (Form.notMem_bytes_encode (",".intercalate items).toList).1
  rw [idParameter, idParameters_id (by rwa [String.toList_ofList]), String.toList_ofList,
    Form.decode_encode, String.ofList_toList]

/-! ### Commas -/

/-- Items that are encoded one by one, with commas between them. -/
def eachEncoded (items : List String) : List Char :=
  [','].intercalate (items.map fun item => Form.encode item.toList)

lemma ascii_of_mem_eachEncoded {items : List String} {c : Char} (h : c ∈ eachEncoded items) :
    c = ',' ∨ c ∈ Form.alphabet := by
  refine (Form.eq_or_exists_mem_of_mem_intercalate h).imp_right ?_
  rintro ⟨part, hpart, hc⟩
  obtain ⟨item, -, rfl⟩ := List.mem_map.mp hpart
  exact Form.mem_alphabet_of_encode hc

lemma bytes_eachEncoded (items : List String) :
    Utf8.bytes (eachEncoded items) = (eachEncoded items).map Form.byte := by
  refine Form.bytes_of_ascii fun c hc => ?_
  rcases ascii_of_mem_eachEncoded hc with rfl | hc
  · decide
  · exact Form.ascii_of_mem_alphabet c hc

/-- A comma stands for itself, so it does not matter whether it is encoded. -/
lemma percentDecode_eachEncoded (items : List String) :
    Form.percentDecode ((eachEncoded items).map (Form.spaced ∘ Form.byte))
      = Utf8.bytes ([','].intercalate (items.map String.toList)) := by
  induction items with
  | nil => rfl
  | cons item items ih =>
      by_cases hrest : items = []
      · subst hrest
        simpa [eachEncoded] using Form.percentDecode_map_encode item.toList
      · have hcode : eachEncoded (item :: items)
            = Form.encode item.toList ++ ',' :: eachEncoded items := by
          rw [eachEncoded, List.map_cons, List.intercalate_cons_of_ne_nil (by simpa using hrest)]
          simp [eachEncoded]
        have hcomma : (Form.spaced ∘ Form.byte) ',' = 0x2C := by decide
        rw [hcode, List.map_append, List.map_cons, Form.percentDecode_encode, hcomma,
          Form.percentDecode_cons_of_ne (by decide), ih, List.map_cons,
          List.intercalate_cons_of_ne_nil (by simpa using hrest), Form.bytes_append,
          Form.bytes_append, List.append_assoc]
        rfl

lemma idParameters_idParameterOfEach (items : List String) :
    idParameters (idParameterOfEach items) = [("id", ",".intercalate items)] := by
  have hcode : (",".intercalate (items.map fun item =>
      String.ofList (Form.encode item.toList))).toList = eachEncoded items := by
    rw [String.toList_intercalate, List.map_map]
    simp [eachEncoded, Function.comp_def]
  have hfree : 0x26 ∉ Utf8.bytes (eachEncoded items) := by
    have hall : ∀ c ∈ Form.alphabet, Form.byte c ≠ 0x26 := Form.forall_mem_alphabet (by decide)
    rw [bytes_eachEncoded]
    intro hmem
    obtain ⟨c, hc, hbyte⟩ := List.mem_map.mp hmem
    rcases ascii_of_mem_eachEncoded hc with rfl | hc
    · exact absurd hbyte (by decide)
    · exact hall c hc hbyte
  have hdecode : Form.decode (Utf8.bytes (eachEncoded items)) = ",".intercalate items := by
    have hread : Form.decode (Utf8.bytes (eachEncoded items))
        = String.ofList ([','].intercalate (items.map String.toList)) := by
      refine Form.decode_of_percentDecode ?_
      rw [bytes_eachEncoded, List.map_map, percentDecode_eachEncoded]
    rw [hread, ← String.toList_inj, String.toList_ofList, String.toList_intercalate]
    rfl
  rw [idParameterOfEach, idParameters_id (by rwa [hcode]), hcode, hdecode]

end Parameters

/-! ## Lists -/

lemma queryIds_idParameter (items : List String) :
    queryIds (some (idParameter items)) = .ok (some (items.flatMap splitIds)) := by
  rw [queryIds_of_singleton (idParameters_idParameter items), splitIds_intercalate]

lemma flatMap_splitIds {ids : List String} (h : ∀ id ∈ ids, IsId id) :
    ids.flatMap splitIds = ids :=
  calc ids.flatMap splitIds
      _ = ids.flatMap fun id => [id] := List.flatMap_congr fun id hid => splitIds_of_isId (h id hid)
      _ = ids := List.flatMap_singleton' ids

lemma queryIds_of_isId {ids : List String} (h : ∀ id ∈ ids, IsId id) :
    queryIds (some (idParameter ids)) = .ok (some ids) := by
  rw [queryIds_idParameter, flatMap_splitIds h]

/-- **Lists of ids are the normal form of what queries list.**

Each list of ids, with repetitions or empty, is listed by its own parameter.  What any query lists
is such a list, so its own parameter lists it again.  Blanks around items and items of nothing but
blanks do not count, nor does it matter whether the commas are encoded, nor do the parts of a query
that name no parameter `id`, wherever they stand.  Two parts that name one are an error.  What names
one is every encoded parameter of that name and none of another, and every text that begins as the
parameter does. -/
theorem ids_normal_form :
    (∀ ids : List String, (∀ id ∈ ids, IsId id) →
      queryIds (some (idParameter ids)) = .ok (some ids)) ∧
    (∀ (query : Option String) (ids : List String), queryIds query = .ok (some ids) →
      (∀ id ∈ ids, IsId id) ∧ queryIds (some (idParameter ids)) = .ok (some ids)) ∧
    (∀ items padded : List String, Padded items padded →
      queryIds (some (idParameter padded)) = queryIds (some (idParameter items))) ∧
    (∀ items : List String,
      queryIds (some (idParameterOfEach items)) = queryIds (some (idParameter items))) ∧
    (∀ parts : List String, queryIds (some ("&".intercalate parts))
      = queryIds (some ("&".intercalate (parts.filter namesId)))) ∧
    (∀ parts : List String, 2 ≤ (parts.filter namesId).length →
      queryIds (some ("&".intercalate parts)) = .error .duplicateId) ∧
    (∀ name value : String, namesId (Form.encodePairs [(name, value)]) = decide (name = "id")) ∧
    ∀ value : String, namesId ("id=" ++ value) = true := by
  refine ⟨fun ids => queryIds_of_isId, fun query ids h => ?_, fun items padded h => ?_,
    fun items => ?_, fun parts => ?_, fun parts h => ?_, namesId_encodePairs, namesId_id⟩
  · obtain ⟨value, rfl⟩ := exists_of_queryIds h
    have hids : ∀ id ∈ splitIds value, IsId id := fun id => isId_of_mem_splitIds
    exact ⟨hids, queryIds_of_isId hids⟩
  · rw [queryIds_idParameter, queryIds_idParameter, h.flatMap_splitIds]
  · refine queryIds_congr ?_
    rw [idParameters_idParameterOfEach, idParameters_idParameter]
  · refine queryIds_congr ?_
    rw [idParameters_intercalate, idParameters_intercalate, flatMap_idParameters]
  · refine queryIds_of_two_le ?_
    rw [idParameters_intercalate]
    exact Nat.le_trans h (length_filter_namesId_le parts)

/-- Ids with characters that part parameters, and one of them twice. -/
def reservedIds : List String := ["a&id=b", "é +%", "a&id=b"]

/-- The ids are listed as they are, a query with gaps lists its ids, and two parameters of which one
has its name encoded are an error. -/
theorem ids_normal_form_reserved :
    (∀ id ∈ reservedIds, IsId id) ∧
    queryIds (some (idParameter reservedIds)) = .ok (some reservedIds) ∧
    queryIds (some "x=1&id=+a%2C,b%20") = .ok (some ["a", "b"]) ∧
    queryIds (some (idParameter ["a", "b"])) = .ok (some ["a", "b"]) ∧
    Padded ["a", "b"] ["\u00A0a", "", "b "] ∧
    queryIds (some (idParameter ["\u00A0a", "", "b "])) = queryIds (some (idParameter ["a", "b"])) ∧
    2 ≤ (["id=a", "x", "%69d"].filter namesId).length ∧
    queryIds (some ("&".intercalate ["id=a", "x", "%69d"])) = .error .duplicateId := by
  obtain ⟨hlisted, hnormal, hpadded, -, -, htwice, -⟩ := ids_normal_form
  have hids : ∀ id ∈ reservedIds, IsId id := by decide
  have hread : queryIds (some "x=1&id=+a%2C,b%20") = .ok (some ["a", "b"]) := by decide
  have hlast : Padded ["b"] ["b "] := @Padded.item [] [] [] [' '] "b" (by decide) (by decide) .nil
  have hpad : Padded ["a", "b"] ["\u00A0a", "", "b "] :=
    @Padded.item _ _ ['\u00A0'] [] "a" (by decide) (by decide)
      (@Padded.gap _ _ [] (by decide) hlast)
  have hparts : 2 ≤ (["id=a", "x", "%69d"].filter namesId).length := by decide
  exact ⟨hids, hlisted _ hids, hread, (hnormal _ _ hread).2, hpad, hpadded _ _ hpad, hparts,
    htwice _ hparts⟩

end NetworkPolicy.Http
