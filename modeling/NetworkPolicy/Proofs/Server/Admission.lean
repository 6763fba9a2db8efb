import Mathlib.Tactic.Common
import NetworkPolicy.Proofs.Http.BodyReader
import NetworkPolicy.Proofs.Server.Handlers

/-!
# What the external service asks of a request

Before a request is served, its caller has to be known and, if it is to change policies, its body
has to spell a batch that names its apps.  This file says each of these conditions without the
handlers and ties it to the decision that they make.

* `External.Bears`, `External.BearsNothing` — whether there is a token, and which.
* `External.Admitted` — a caller who may write (`callerIn_of_admitted`).
* `External.Spells` — a body that spells a batch (`decode_of_spells`).
* `External.Named` — a batch that names its apps (`validatePolicies_eq_ok_iff`).
-/

namespace NetworkPolicy

namespace External

/-! ## Conditions -/

/-- `token` is a header value without the one `Bearer` that may stand in front of it. -/
def TokenOf (value token : String) : Prop :=
  value = "Bearer " ++ token ∨ value = "bearer " ++ token ∨
    value = token ∧ ∀ rest, value ≠ "Bearer " ++ rest ∧ value ≠ "bearer " ++ rest

/-- The first `Authorization` header of the request is text and holds the token. -/
def Bears (r : Http.Request) (token : String) : Prop :=
  ∃ value, r.header? "authorization" = some value ∧ isHeaderText value = true ∧ TokenOf value token

/-- The first `Authorization` header of the request is missing, or it is not text. -/
def BearsNothing (r : Http.Request) : Prop :=
  ∀ value, r.header? "authorization" = some value → isHeaderText value = false

/-- The token of the request is verified, and its claims hold a scope that lets the caller write. -/
structure Admitted (world : World) (r : Http.Request) (token : String) (claims : Claims) :
    Prop where
  bears : Bears r token
  verified : world (.checkToken token) = Except.ok claims
  scope : claims.hasScope Claims.adminScope = true ∨ claims.hasScope Claims.writeScope = true

/-- The body of the request is within the limit, can be read, and spells the batch. -/
structure Spells (limit : Nat) (r : Http.Request) (batch : List Policy) : Prop where
  size : r.body.bytes.length ≤ limit
  readable : r.body.failure = none
  decodes : Wire.decode policiesRequest (Document.ofBytes r.body.bytes) = .ok batch

/-- There is a policy in the batch, and every one of them names both of its apps. -/
def Named (batch : List Policy) : Prop :=
  batch ≠ [] ∧ ∀ p ∈ batch, p.source ≠ "" ∧ p.destination.id ≠ ""

/-! ## Decisions of the handlers -/

variable {world : World} {limit : Nat} {r : Http.Request}

lemma isPrefixOf_eq_true_iff {front value : String} :
    front.toList.isPrefixOf value.toList = true ↔ ∃ rest, value = front ++ rest := by
  rw [List.isPrefixOf_iff_prefix]
  constructor
  · rintro ⟨rest, hrest⟩
    refine ⟨String.ofList rest, String.toList_injective ?_⟩
    rw [String.toList_append, String.toList_ofList, hrest]
  · rintro ⟨rest, rfl⟩
    exact ⟨rest.toList, String.toList_append.symm⟩

lemma bearerToken_append {front token : String} (hfront : front = "Bearer " ∨ front = "bearer ") :
    bearerToken (front ++ token) = token := by
  have hprefix : ("Bearer ".toList.isPrefixOf (front ++ token).toList ||
      "bearer ".toList.isPrefixOf (front ++ token).toList) = true := by
    rw [Bool.or_eq_true, isPrefixOf_eq_true_iff, isPrefixOf_eq_true_iff]
    rcases hfront with rfl | rfl
    · exact .inl ⟨token, rfl⟩
    · exact .inr ⟨token, rfl⟩
  have hlength : front.toList.length = 7 := by
    rcases hfront with rfl | rfl
    · decide
    · decide
  rw [bearerToken, if_pos hprefix, String.toList_append, List.drop_left' hlength,
    String.ofList_toList]

/-- The token that is read off a header value is the value less one `Bearer`. -/
lemma tokenOf_bearerToken (value : String) : TokenOf value (bearerToken value) := by
  by_cases hupper : ∃ rest, value = "Bearer " ++ rest
  · obtain ⟨rest, rfl⟩ := hupper
    rw [bearerToken_append (.inl rfl)]
    exact .inl rfl
  · by_cases hlower : ∃ rest, value = "bearer " ++ rest
    · obtain ⟨rest, rfl⟩ := hlower
      rw [bearerToken_append (.inr rfl)]
      exact .inr (.inl rfl)
    · have hplain : bearerToken value = value := by
        have hprefix : ¬ ("Bearer ".toList.isPrefixOf value.toList ||
            "bearer ".toList.isPrefixOf value.toList) = true := by
          rw [Bool.or_eq_true, isPrefixOf_eq_true_iff, isPrefixOf_eq_true_iff]
          exact fun h => h.elim hupper hlower
        rw [bearerToken, if_neg hprefix]
      exact .inr (.inr ⟨hplain.symm, fun rest =>
        ⟨fun h => hupper ⟨rest, h⟩, fun h => hlower ⟨rest, h⟩⟩⟩)

lemma eq_bearerToken_of_tokenOf {value token : String} (h : TokenOf value token) :
    bearerToken value = token := by
  rcases h with rfl | rfl | ⟨rfl, hplain⟩
  · exact bearerToken_append (.inl rfl)
  · exact bearerToken_append (.inr rfl)
  · rcases tokenOf_bearerToken value with h | h | ⟨h, -⟩
    · exact absurd h (hplain _).1
    · exact absurd h (hplain _).2
    · exact h.symm

lemma requestToken_of_bears {token : String} (h : Bears r token) : requestToken r = .ok token := by
  obtain ⟨value, hheader, htext, htoken⟩ := h
  rw [requestToken, hheader]
  show (if isHeaderText value = true then Except.ok (bearerToken value) else _) = _
  rw [if_pos htext, eq_bearerToken_of_tokenOf htoken]

lemma requestToken_of_bearsNothing (h : BearsNothing r) :
    requestToken r = .error .missingHeader := by
  unfold requestToken
  cases hheader : r.header? "authorization" with
  | none => rfl
  | some value =>
      show (if isHeaderText value = true then Except.ok (bearerToken value) else _) = _
      rw [h value hheader]
      rfl

lemma bears_or_bearsNothing (r : Http.Request) : (∃ token, Bears r token) ∨ BearsNothing r := by
  cases hheader : r.header? "authorization" with
  | none =>
      refine .inr fun value h => ?_
      cases hheader.symm.trans h
  | some value =>
      cases htext : isHeaderText value with
      | true => exact .inl ⟨bearerToken value, value, hheader, htext, tokenOf_bearerToken value⟩
      | false =>
          refine .inr fun value' h => ?_
          cases hheader.symm.trans h
          exact htext

lemma callerIn_of_bearsNothing (world : World) (allowed : List String) (h : BearsNothing r) :
    callerIn world r allowed = .error (.auth .missingHeader) := by
  rw [callerIn, requestToken_of_bearsNothing h]
  rfl

lemma callerIn_of_unverified {token : String} {cause : LookupFault} (allowed : List String)
    (hbears : Bears r token) (hcheck : world (.checkToken token) = Except.error cause) :
    callerIn world r allowed = .error (.auth (.unverified cause)) := by
  rw [callerIn, requestToken_of_bears hbears]
  show (Except.mapError (ApiError.auth ∘ AuthError.unverified) (world (.checkToken token)) >>= _)
    = _
  rw [hcheck]
  rfl

lemma callerIn_of_verified {token : String} {claims : Claims} (allowed : List String)
    (hbears : Bears r token) (hcheck : world (.checkToken token) = Except.ok claims) :
    callerIn world r allowed = if claims.hasAnyScope allowed then .ok claims
      else .error (.auth (.scope claims.scopes allowed)) := by
  rw [callerIn, requestToken_of_bears hbears]
  show (Except.mapError (ApiError.auth ∘ AuthError.unverified) (world (.checkToken token)) >>= _)
    = _
  rw [hcheck]
  rfl

lemma hasAnyScope_writeScopes (claims : Claims) : claims.hasAnyScope writeScopes
    = (claims.hasScope Claims.adminScope || claims.hasScope Claims.writeScope) := by
  simp [Claims.hasAnyScope, writeScopes]

lemma callerIn_of_admitted {token : String} {claims : Claims}
    (h : Admitted world r token claims) : callerIn world r writeScopes = .ok claims := by
  rw [callerIn_of_verified writeScopes h.bears h.verified, hasAnyScope_writeScopes,
    if_pos ((Bool.or_eq_true _ _).mpr h.scope)]

lemma decode_of_spells {batch : List Policy} (h : Spells limit r batch) :
    r.body.decode policiesRequest limit = .ok batch := by
  rw [Http.Body.decode_of_readable h.size h.readable, h.decodes]
  rfl

lemma forM_validate_eq_ok_iff (batch : List Policy) :
    batch.forM Policy.validate = .ok () ↔ ∀ p ∈ batch, p.source ≠ "" ∧ p.destination.id ≠ "" := by
  induction batch with
  | nil => exact iff_of_true rfl (fun p hp => absurd hp List.not_mem_nil)
  | cons p batch ih =>
      show (p.validate >>= fun _ => batch.forM Policy.validate) = .ok () ↔ _
      rw [bind_eq_ok_iff, List.forall_mem_cons, ← ih, ← Internal.validate_eq_ok_iff]
      exact ⟨fun ⟨(), hp, hbatch⟩ => ⟨hp, hbatch⟩, fun ⟨hp, hbatch⟩ => ⟨(), hp, hbatch⟩⟩

/-- A batch is valid when it is not empty and names all of its apps. -/
lemma validatePolicies_eq_ok_iff {batch : List Policy} :
    validatePolicies batch = .ok () ↔ Named batch := by
  unfold validatePolicies Named
  cases batch with
  | nil => exact iff_of_false nofun fun h => h.1 rfl
  | cons p batch =>
      show (p :: batch).forM Policy.validate = .ok () ↔ _
      rw [forM_validate_eq_ok_iff]
      exact ⟨fun h => ⟨List.cons_ne_nil p batch, h⟩, fun h => h.2⟩

end External

end NetworkPolicy
