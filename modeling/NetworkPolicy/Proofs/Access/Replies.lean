import Mathlib.Tactic.Common
import NetworkPolicy.Access.Remote
import NetworkPolicy.Proofs.Except

/-!
# What replies mean

The server believes a reply only if its status is a success and its body spells what was asked for.
Of the lookups of the guard only two have an answer that denies something: a space is not there if
the status is 404, and a user is no member if the page that comes back holds no space.  Everything
else is a failure of the lookup, and so is the absence of any reply.

* `Remote.Spells` — a reply that spells a value; `Remote.Refused` — one that spells none, and why.
* `Remote.Failed` — every way in which a lookup can fail (`readOrFail_eq_error_iff`).
* `readOrFail_token_eq_ok_iff` and its companions — every way in which one can be answered.
-/

namespace NetworkPolicy

namespace Remote

variable {α : Type}

/-- The reply has a status of success, and its body spells the value. -/
structure Spells (decoder : Wire.Decoder α) (reply : Reply) (value : α) : Prop where
  success : 200 ≤ reply.status ∧ reply.status < 300
  body : Wire.decode decoder (Document.ofBytes reply.body) = .ok value

/-- Why a reply spells no value: its status is not one of success, or its body cannot be decoded. -/
inductive Refused (decoder : Wire.Decoder α) (reply : Reply) : LookupFault → Prop where
  | status (hstatus : ¬ (200 ≤ reply.status ∧ reply.status < 300)) :
      Refused decoder reply (.status reply.status (Utf8.lossy reply.body))
  | undecodable {fault : Wire.Fault} (hstatus : 200 ≤ reply.status ∧ reply.status < 300)
      (hbody : Wire.decode decoder (Document.ofBytes reply.body) = .error fault) :
      Refused decoder reply (.undecodable fault)

/-- The lookup fails with the reply that has come, or because none has. -/
inductive Failed : Lookup → Option Reply → LookupFault → Prop where
  | unsent {q : Lookup} : Failed q none .unsent
  | serviceToken {reply : Reply} {cause : LookupFault} (h : Refused Wire.token reply cause) :
      Failed .serviceToken (some reply) cause
  | checkToken {token : String} {reply : Reply} {cause : LookupFault}
      (h : Refused Wire.claims reply cause) : Failed (.checkToken token) (some reply) cause
  | spaceGuids {token : String} {apps : List String} {reply : Reply} {cause : LookupFault}
      (h : Refused Wire.apps reply cause) : Failed (.spaceGuids token apps) (some reply) cause
  | appSpaces {token : String} {apps : List String} {reply : Reply} {cause : LookupFault}
      (h : Refused Wire.apps reply cause) : Failed (.appSpaces token apps) (some reply) cause
  | space {token guid : String} {reply : Reply} {cause : LookupFault} (hthere : reply.status ≠ 404)
      (h : Refused Wire.spaceResource reply cause) : Failed (.space token guid) (some reply) cause
  | userSpace {token user : String} {space : Space} {reply : Reply} {cause : LookupFault}
      (h : Refused Wire.spacePage reply cause) :
      Failed (.userSpace token user space) (some reply) cause
  | severalSpaces {token user : String} {space first second : Space} {others : List Space}
      {reply : Reply} (h : Spells Wire.spacePage reply (first :: second :: others)) :
      Failed (.userSpace token user space) (some reply) .severalSpaces

/-! ## Decoding -/

variable {decoder : Wire.Decoder α} {reply : Reply}

lemma decode_eq_ok_iff {value : α} :
    decode decoder reply = .ok value ↔ Spells decoder reply value := by
  unfold decode
  split
  case isTrue hstatus =>
    rw [mapError_eq_ok_iff]
    exact ⟨fun h => ⟨hstatus, h⟩, fun h => h.body⟩
  case isFalse hstatus => exact iff_of_false nofun fun h => hstatus h.success

lemma decode_eq_error_iff {cause : LookupFault} :
    decode decoder reply = .error cause ↔ Refused decoder reply cause := by
  unfold decode
  split
  case isTrue hstatus =>
    constructor
    · intro h
      cases hbody : Wire.decode decoder (Document.ofBytes reply.body) with
      | ok value =>
          rw [hbody] at h
          cases h
      | error fault =>
          rw [hbody] at h
          cases h
          exact .undecodable hstatus hbody
    · intro h
      cases h with
      | status hfailure => exact absurd hstatus hfailure
      | undecodable _ hbody =>
          rw [hbody]
          rfl
  case isFalse hstatus =>
    constructor
    · intro h
      cases h
      exact .status hstatus
    · intro h
      cases h with
      | status _ => rfl
      | undecodable hsuccess _ => exact absurd hsuccess hstatus

/-- A reply that spells something has not been refused. -/
lemma Spells.not_refused {value : α} {cause : LookupFault} (h : Spells decoder reply value) :
    ¬ Refused decoder reply cause := by
  intro hrefused
  cases (decode_eq_ok_iff.mpr h).symm.trans (decode_eq_error_iff.mpr hrefused)

/-! ## Answers -/

section Answers

variable {token user guid : String} {apps : List String} {space : Space} {sent : Option Reply}

/-- A lookup is answered by a value only if a reply has come and has been read so. -/
lemma readOrFail_eq_ok_iff {q : Lookup} {value : q.Value} :
    readOrFail q sent = Except.ok value
      ↔ ∃ reply, sent = some reply ∧ read q reply = Except.ok value := by
  cases sent with
  | none => exact iff_of_false nofun fun ⟨reply, hsent, _⟩ => nomatch hsent
  | some reply =>
      constructor
      · exact fun h => ⟨reply, rfl, h⟩
      · rintro ⟨_, ⟨⟩, h⟩
        exact h

lemma readOrFail_token_eq_ok_iff : readOrFail .serviceToken sent = Except.ok token
    ↔ ∃ reply, sent = some reply ∧ Spells Wire.token reply token := by
  refine readOrFail_eq_ok_iff.trans (exists_congr fun reply => and_congr_right' ?_)
  exact decode_eq_ok_iff

lemma readOrFail_guids_eq_ok_iff {guids : List String} :
    readOrFail (.spaceGuids token apps) sent = Except.ok guids ↔ ∃ reply, sent = some reply ∧
      ∃ pairs, Spells Wire.apps reply pairs ∧ pairs.map Prod.snd = guids := by
  refine readOrFail_eq_ok_iff.trans (exists_congr fun reply => and_congr_right' ?_)
  refine map_eq_ok_iff.trans ?_
  exact exists_congr fun pairs => and_congr_left' decode_eq_ok_iff

/-- A space does not exist if the status is 404, and only then. -/
lemma readOrFail_space_eq_none_iff : readOrFail (.space token guid) sent = Except.ok none
    ↔ ∃ reply, sent = some reply ∧ reply.status = 404 := by
  refine readOrFail_eq_ok_iff.trans (exists_congr fun reply => and_congr_right' ?_)
  show (if reply.status = 404 then Except.ok none
    else (decode Wire.spaceResource reply).map some) = Except.ok none ↔ _
  split
  case isTrue h => exact iff_of_true rfl h
  case isFalse h =>
    rw [map_eq_ok_iff]
    exact iff_of_false (fun ⟨found, _, hfound⟩ => nomatch hfound) h

lemma readOrFail_space_eq_some_iff : readOrFail (.space token guid) sent = Except.ok (some space)
    ↔ ∃ reply, sent = some reply ∧ Spells Wire.spaceResource reply space := by
  refine readOrFail_eq_ok_iff.trans (exists_congr fun reply => and_congr_right' ?_)
  show (if reply.status = 404 then Except.ok none
    else (decode Wire.spaceResource reply).map some) = Except.ok (some space) ↔ _
  split
  case isTrue h =>
    refine iff_of_false nofun fun hspells => ?_
    have hsuccess := hspells.success
    omega
  case isFalse h =>
    rw [map_eq_ok_iff]
    constructor
    · rintro ⟨found, hfound, ⟨⟩⟩
      exact decode_eq_ok_iff.mp hfound
    · exact fun hspells => ⟨space, decode_eq_ok_iff.mpr hspells, rfl⟩

lemma onlySpace_eq_none_iff {page : List Space} : onlySpace page = .ok none ↔ page = [] := by
  match page with
  | [] => exact iff_of_true rfl rfl
  | [found] => exact iff_of_false nofun nofun
  | _ :: _ :: _ => exact iff_of_false nofun nofun

lemma onlySpace_eq_some_iff {page : List Space} {found : Space} :
    onlySpace page = .ok (some found) ↔ page = [found] := by
  match page with
  | [] => exact iff_of_false nofun nofun
  | [_] => simp [onlySpace]
  | _ :: _ :: _ => exact iff_of_false nofun nofun

/-- A user is no member if the page that comes back is empty, and only then. -/
lemma readOrFail_userSpace_eq_none_iff :
    readOrFail (.userSpace token user space) sent = Except.ok none
      ↔ ∃ reply, sent = some reply ∧ Spells Wire.spacePage reply [] := by
  refine readOrFail_eq_ok_iff.trans (exists_congr fun reply => and_congr_right' ?_)
  refine bind_eq_ok_iff.trans ?_
  simp only [decode_eq_ok_iff, onlySpace_eq_none_iff, exists_eq_right]

/-- A user is a member if one space comes back, and only then. -/
lemma readOrFail_userSpace_eq_some_iff {found : Space} :
    readOrFail (.userSpace token user space) sent = Except.ok (some found)
      ↔ ∃ reply, sent = some reply ∧ Spells Wire.spacePage reply [found] := by
  refine readOrFail_eq_ok_iff.trans (exists_congr fun reply => and_congr_right' ?_)
  refine bind_eq_ok_iff.trans ?_
  simp only [decode_eq_ok_iff, onlySpace_eq_some_iff, exists_eq_right]

lemma onlySpace_eq_error_iff {page : List Space} {cause : LookupFault} :
    onlySpace page = .error cause
      ↔ cause = .severalSpaces ∧ ∃ first second others, page = first :: second :: others := by
  match page with
  | [] => exact iff_of_false nofun nofun
  | [_] => exact iff_of_false nofun nofun
  | first :: second :: others =>
      constructor
      · rintro ⟨⟩
        exact ⟨rfl, first, second, others, rfl⟩
      · rintro ⟨rfl, -⟩
        rfl

/-- A page that holds several spaces fails the lookup, as an unreadable one does. -/
lemma read_userSpace_eq_error_iff {reply : Reply} {cause : LookupFault} :
    read (.userSpace token user space) reply = Except.error cause
      ↔ Refused Wire.spacePage reply cause ∨ cause = .severalSpaces ∧
          ∃ first second others, Spells Wire.spacePage reply (first :: second :: others) := by
  refine bind_eq_error_iff.trans (or_congr decode_eq_error_iff ?_)
  simp only [decode_eq_ok_iff, onlySpace_eq_error_iff]
  constructor
  · rintro ⟨page, hpage, rfl, first, second, others, rfl⟩
    exact ⟨rfl, first, second, others, hpage⟩
  · rintro ⟨rfl, first, second, others, hpage⟩
    exact ⟨_, hpage, rfl, first, second, others, rfl⟩

/-- The lookup of a space does not fail if the status is 404. -/
lemma read_space_eq_error_iff {reply : Reply} {cause : LookupFault} :
    read (.space token guid) reply = Except.error cause
      ↔ reply.status ≠ 404 ∧ Refused Wire.spaceResource reply cause := by
  show (if reply.status = 404 then Except.ok none
    else (decode Wire.spaceResource reply).map some) = Except.error cause ↔ _
  split
  case isTrue h => exact iff_of_false nofun fun hrefused => hrefused.1 h
  case isFalse h =>
    rw [map_eq_error_iff, decode_eq_error_iff]
    exact (and_iff_right h).symm

/-- A lookup fails in the ways of `Failed`, and in no other. -/
theorem readOrFail_eq_error_iff {q : Lookup} {cause : LookupFault} :
    readOrFail q sent = Except.error cause ↔ Failed q sent cause := by
  cases sent with
  | none =>
      constructor
      · rintro ⟨⟩
        exact .unsent
      · rintro ⟨⟩
        rfl
  | some reply =>
      cases q with
      | serviceToken =>
          refine decode_eq_error_iff.trans ⟨.serviceToken, ?_⟩
          rintro ⟨⟩
          assumption
      | checkToken token =>
          refine decode_eq_error_iff.trans ⟨.checkToken, ?_⟩
          rintro ⟨⟩
          assumption
      | spaceGuids token apps =>
          refine map_eq_error_iff.trans (decode_eq_error_iff.trans ⟨.spaceGuids, ?_⟩)
          rintro ⟨⟩
          assumption
      | appSpaces token apps =>
          refine decode_eq_error_iff.trans ⟨.appSpaces, ?_⟩
          rintro ⟨⟩
          assumption
      | space token guid =>
          refine read_space_eq_error_iff.trans ⟨fun h => .space h.1 h.2, ?_⟩
          rintro ⟨⟩
          exact ⟨‹_›, ‹_›⟩
      | userSpace token user space =>
          refine read_userSpace_eq_error_iff.trans ⟨?_, ?_⟩
          · rintro (h | ⟨rfl, first, second, others, h⟩)
            · exact .userSpace h
            · exact .severalSpaces h
          · intro h
            cases h with
            | userSpace h => exact .inl h
            | severalSpaces h => exact .inr ⟨rfl, _, _, _, h⟩

end Answers

end Remote

end NetworkPolicy
