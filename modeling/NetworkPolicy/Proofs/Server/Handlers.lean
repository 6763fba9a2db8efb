import Mathlib.Tactic.Common
import NetworkPolicy.Proofs.Except
import NetworkPolicy.Proofs.Ports
import NetworkPolicy.Proofs.Server.Accesses
import NetworkPolicy.Proofs.Store.TagLookup

/-!
# The accesses of every handler

Each handler first decides, without the store, whether the request is to be served at all.  For the
external service that decision is `External.callerIn` (who asks) and `External.batchIn` (the batch
that the caller may carry out); for the internal service it is `Internal.selfPolicyIn`.  Once it is
made, a handler accesses the store at most twice: the lemmas `accesses_*` write this down, one for
each handler.

**What a good decision says.**  `External.batchIn_eq_ok_iff` takes the decision about a batch apart
into its stages, and `External.MayManage` names the one that is about rights.
`Internal.selfPolicyIn_eq_ok_iff` describes the policy of a request in which an app asks to reach
itself.
-/

namespace NetworkPolicy

open Handler

/-! ## Decisions of the external service -/

namespace External

variable {world : World} {limit : Nat} {r : Http.Request}

/-- The claims of the caller, who has to hold one of the scopes in `allowed`. -/
def callerIn (world : World) (r : Http.Request) (allowed : List String) :
    Except ApiError Claims := do
  let token ← (requestToken r).mapError .auth
  let claims : Claims ← (world (.checkToken token)).mapError (.auth ∘ .unverified)
  if claims.hasAnyScope allowed then return claims
  else throw (.auth (.scope claims.scopes allowed))

/-- Whether the guard lets the caller go on. -/
def authorizeIn (world : World) (batch : List Policy) (caller : Claims) : Except ApiError Unit :=
  match (Guard.check batch caller).evalIn world with
  | .ok true => .ok ()
  | .ok false => .error .denied
  | .error cause => .error (.access cause)

/-- The batch of a request that its caller may carry out. -/
def batchIn (world : World) (limit : Nat) (r : Http.Request) : Except ApiError (List Policy) := do
  let caller ← callerIn world r writeScopes
  let batch ← (r.body.decode policiesRequest limit).mapError .body
  (validatePolicies batch).mapError .validation
  authorizeIn world batch caller
  return batch

/-- The verified claims of the request hold the administrator's scope, or they hold the scope for
writing and the guard grants the whole batch. -/
def MayManage (world : World) (r : Http.Request) (batch : List Policy) : Prop :=
  ∃ (token : String) (claims : Claims), requestToken r = .ok token ∧
    world (.checkToken token) = Except.ok claims ∧
    (claims.hasScope Claims.adminScope = true ∨ claims.hasScope Claims.writeScope = true ∧
      (Guard.check batch claims).evalIn world = .ok true)

lemma callerIn_eq_ok_iff {allowed : List String} {claims : Claims} :
    callerIn world r allowed = .ok claims ↔ claims.hasAnyScope allowed = true ∧
      ∃ token, requestToken r = .ok token ∧ world (.checkToken token) = Except.ok claims := by
  unfold callerIn
  simp only [bind_eq_ok_iff]
  constructor
  · rintro ⟨token, htoken, found, hfound, hscope⟩
    split at hscope
    case isTrue h =>
      cases hscope
      exact ⟨h, token, mapError_eq_ok_iff.mp htoken,
        (mapError_eq_ok_iff (x := world (.checkToken token))).mp hfound⟩
    case isFalse h => cases hscope
  · rintro ⟨hscope, token, htoken, hclaims⟩
    exact ⟨token, mapError_eq_ok_iff.mpr htoken, claims,
      (mapError_eq_ok_iff (x := world (.checkToken token))).mpr hclaims, if_pos hscope⟩

lemma authorizeIn_eq_ok_iff {batch : List Policy} {caller : Claims} :
    authorizeIn world batch caller = .ok ()
      ↔ (Guard.check batch caller).evalIn world = .ok true := by
  unfold authorizeIn
  split
  case h_1 h => exact iff_of_true rfl h
  case h_2 h => simp [h]
  case h_3 h => simp [h]

lemma mayManage_iff {batch : List Policy} :
    MayManage world r batch ↔ ∃ claims, callerIn world r writeScopes = .ok claims ∧
      authorizeIn world batch claims = .ok () := by
  simp only [callerIn_eq_ok_iff, authorizeIn_eq_ok_iff]
  constructor
  · rintro ⟨token, claims, htoken, hclaims, hadmin | ⟨hwrite, hcheck⟩⟩
    · refine ⟨claims, ⟨?_, token, htoken, hclaims⟩,
        Guard.check_of_isAdmin world batch hadmin⟩
      simp [Claims.hasAnyScope, writeScopes, hadmin]
    · refine ⟨claims, ⟨?_, token, htoken, hclaims⟩, hcheck⟩
      simp [Claims.hasAnyScope, writeScopes, hwrite]
  · rintro ⟨claims, ⟨hscope, token, htoken, hclaims⟩, hcheck⟩
    refine ⟨token, claims, htoken, hclaims, ?_⟩
    simp only [Claims.hasAnyScope, writeScopes, List.any_cons, List.any_nil, Bool.or_false,
      Bool.or_eq_true] at hscope
    exact hscope.imp_right fun hwrite => ⟨hwrite, hcheck⟩

/-- A batch is carried out when it is spelled by the body, names its apps, and is the caller's to
manage. -/
lemma batchIn_eq_ok_iff {batch : List Policy} :
    batchIn world limit r = .ok batch ↔ r.body.decode policiesRequest limit = .ok batch ∧
      validatePolicies batch = .ok () ∧ MayManage world r batch := by
  unfold batchIn
  simp only [bind_eq_ok_iff, mapError_eq_ok_iff, mayManage_iff]
  constructor
  · rintro ⟨caller, hcaller, decoded, hbody, ⟨⟩, hvalid, ⟨⟩, hcheck, hbatch⟩
    cases hbatch
    exact ⟨hbody, hvalid, caller, hcaller, hcheck⟩
  · rintro ⟨hbody, hvalid, caller, hcaller, hcheck⟩
    exact ⟨caller, hcaller, batch, hbody, (), hvalid, (), hcheck, rfl⟩

end External

/-! ## Decisions of the internal service -/

namespace Internal

variable {limit : Nat} {r : Http.Request}

/-- The policy of a request in which an app asks to reach itself. -/
def selfPolicyIn (limit : Nat) (r : Http.Request) : Except ApiError Policy := do
  let (id, port) ← (r.body.decode selfPolicyRequest limit).mapError .body
  (selfPolicy id port).mapError .validation

lemma validate_eq_ok_iff {p : Policy} :
    p.validate = .ok () ↔ p.source ≠ "" ∧ p.destination.id ≠ "" := by
  unfold Policy.validate
  by_cases hsource : p.source = ""
  · simp [hsource]
  · by_cases hid : p.destination.id = ""
    · simp [hsource, hid]
    · simp [hsource, hid]

/-- An app that is named and asks for one port gets the policy from itself to itself. -/
lemma selfPolicy_eq_ok_iff {id : String} {port : Option UInt16} {p : Policy} :
    selfPolicy id port = .ok p ↔ id ≠ "" ∧ p.source = id ∧ p.destination.id = id ∧
      p.destination.protocol = .tcp ∧ port = some p.destination.range.first ∧
      p.destination.range.last = p.destination.range.first := by
  unfold selfPolicy Destination.make
  simp only [bind_eq_ok_iff, reconcile_none_eq_ok_iff]
  constructor
  · rintro ⟨d, ⟨range, ⟨hport, hlast⟩, hd⟩, ⟨⟩, hvalid, hp⟩
    cases hd
    cases hp
    exact ⟨(validate_eq_ok_iff.mp hvalid).1, rfl, rfl, rfl, hport, hlast⟩
  · obtain ⟨source, destination, protocol, range⟩ := p
    rintro ⟨hid, ⟨⟩, ⟨⟩, ⟨⟩, hport, hlast⟩
    exact ⟨_, ⟨range, ⟨hport, hlast⟩, rfl⟩, (), validate_eq_ok_iff.mpr ⟨hid, hid⟩, rfl⟩

lemma selfPolicyIn_eq_ok_iff {p : Policy} :
    selfPolicyIn limit r = .ok p ↔ ∃ port,
      r.body.decode selfPolicyRequest limit = .ok (p.source, port) ∧
        selfPolicy p.source port = .ok p := by
  unfold selfPolicyIn
  simp only [bind_eq_ok_iff, mapError_eq_ok_iff]
  constructor
  · rintro ⟨⟨id, port⟩, hbody, hp⟩
    obtain ⟨-, rfl, -⟩ := selfPolicy_eq_ok_iff.mp hp
    exact ⟨port, hbody, hp⟩
  · rintro ⟨port, hbody, hp⟩
    exact ⟨_, hbody, hp⟩

end Internal

/-! ## Accesses -/

/-- The access that reads the policies to be listed. -/
def selection : Option (List String) → Program Store.Operation.Answer (List Policy)
  | some ids => .step (.byGuids ids) .done
  | none => .step .all .done

/-- The policies that it reads. -/
def Store.selected (s : Store) : Option (List String) → List Policy
  | some ids => s.byGuids ids
  | none => s.all

lemma Store.mem_all_of_mem_selected {s : Store} {ids : Option (List String)} {p : Policy}
    (hp : p ∈ s.selected ids) : p ∈ s.all := by
  cases ids with
  | none => exact hp
  | some ids => exact (List.mem_filter.mp hp).1

lemma onStore_selection_bind {α : Type} (ids : Option (List String))
    (f : List Policy → Program Store.Operation.Answer α) (s : Store) :
    ((selection ids).bind f).onStore s = (f (s.selected ids)).onStore s := by
  cases ids with
  | none => rfl
  | some ids => rfl

namespace External

variable (world : World) (limit : Nat) (r : Http.Request)

lemma accesses_authenticate (allowed : List String) :
    accesses world (authenticate r allowed) = .done (callerIn world r allowed) := by
  refine accesses_bind_done (accesses_require ..) fun token => ?_
  refine (accesses_bind_ok (accesses_lookup world (.checkToken token)) _).trans ?_
  refine accesses_bind_done (accesses_require ..) fun claims => ?_
  split
  case isTrue h => rfl
  case isFalse h => rfl

lemma accesses_authorize (batch : List Policy) (caller : Claims) :
    accesses world (authorize batch caller) = .done (authorizeIn world batch caller) := by
  unfold authorize authorizeIn
  rw [accesses_bind_ok (accesses_guarded ..)]
  rcases (Guard.check batch caller).evalIn world with cause | _ | _
  · exact accesses_bind_ok (accesses_record ..) _
  · exact accesses_bind_ok (accesses_record ..) _
  · exact accesses_record ..

lemma accesses_acceptedBatch :
    accesses world (acceptedBatch limit r) = .done (batchIn world limit r) :=
  accesses_bind_done (accesses_authenticate ..) fun caller =>
    accesses_bind_done (accesses_require ..) fun batch =>
      accesses_bind_done (accesses_require ..) fun _ =>
        accesses_bind_done (accesses_authorize world batch caller) fun _ => accesses_pure ..

lemma accesses_createPolicies :
    accesses world (createPolicies limit r) = match batchIn world limit r with
      | .ok batch => .step (.create batch) fun (answer : Except StoreError Unit) =>
          .done ((answer.mapError ApiError.store).map fun () => done)
      | .error e => .done (.error e) := by
  refine (accesses_bind_of_done (accesses_acceptedBatch world limit r) _).trans ?_
  cases batchIn world limit r with
  | error e => rfl
  | ok batch =>
      refine congrArg (Program.step _) (funext fun (answer : Except StoreError Unit) => ?_)
      cases answer with
      | error e => rfl
      | ok _ => rfl

lemma accesses_deletePolicies :
    accesses world (deletePolicies limit r) = match batchIn world limit r with
      | .ok batch => .step (.delete batch) fun _ => .done (.ok done)
      | .error e => .done (.error e) := by
  refine (accesses_bind_of_done (accesses_acceptedBatch world limit r) _).trans ?_
  cases batchIn world limit r with
  | error e => rfl
  | ok batch => rfl

lemma accesses_listPolicies :
    accesses world (listPolicies r) = match callerIn world r writeScopes with
      | .ok caller => match Http.queryIds r.query with
        | .ok ids => (selection ids).bind fun policies =>
            .done ((((Guard.visible policies caller).evalIn world).mapError ApiError.access).map
              policyList)
        | .error e => .done (.error (.query e))
      | .error e => .done (.error e) := by
  refine (accesses_bind_of_done (accesses_authenticate world r writeScopes) _).trans ?_
  cases callerIn world r writeScopes with
  | error e => rfl
  | ok caller =>
      have hshow : ∀ policies : List Policy,
          accesses world (ofProgram (guarded (Guard.visible policies caller)) >>= fun seen =>
              require .access seen >>= fun seen => pure (policyList seen))
            = .done ((((Guard.visible policies caller).evalIn world).mapError ApiError.access).map
                policyList) := by
        intro policies
        refine (accesses_bind_ok (accesses_guarded ..) _).trans ?_
        refine (accesses_bind_of_done (accesses_require ..) _).trans ?_
        cases (Guard.visible policies caller).evalIn world with
        | error cause => rfl
        | ok seen => rfl
      refine (accesses_bind_of_done (accesses_require ..) _).trans ?_
      cases Http.queryIds r.query with
      | error e => rfl
      | ok ids =>
          cases ids with
          | none => exact (accesses_bind ..).trans (congrArg (Program.step _) (funext hshow))
          | some ids => exact (accesses_bind ..).trans (congrArg (Program.step _) (funext hshow))

lemma accesses_listTags :
    accesses world (listTags r) = match callerIn world r adminScopes with
      | .ok _ => .step .tags fun tags => .done (.ok (tagList tags))
      | .error e => .done (.error e) := by
  refine (accesses_bind_of_done (accesses_authenticate world r adminScopes) _).trans ?_
  cases callerIn world r adminScopes with
  | error e => rfl
  | ok caller => rfl

end External

namespace Internal

variable (world : World) (limit : Nat) (r : Http.Request)

lemma accesses_listTaggedPolicies :
    accesses world (listTaggedPolicies r) = match Http.queryIds r.query with
      | .ok ids => (selection ids).bind fun policies =>
          .step .tags fun tags => .done (.ok (taggedPolicyList policies tags))
      | .error e => .done (.error (.query e)) := by
  refine (accesses_bind_of_done (accesses_require ..) _).trans ?_
  cases Http.queryIds r.query with
  | error e => rfl
  | ok ids =>
      cases ids with
      | none => rfl
      | some ids => rfl

/-- The answer to an app that may reach itself from now on. -/
def tagAnswer (tag : String) : Http.Response := ⟨.ok, .json (.object [("tag", .string tag)])⟩

/-- What such an app is answered when its tag has been looked up. -/
def showTag (id : String) : Option String → Except ApiError Http.Response
  | some tag => .ok (tagAnswer tag)
  | none => .error (.missingTag id)

lemma accesses_createSelfPolicy :
    accesses world (createSelfPolicy limit r) = match selfPolicyIn limit r with
      | .ok p => .step (.create [p]) fun (answer : Except StoreError Unit) => match answer with
        | .ok () => .step .tags fun tags => .done (showTag p.source (tagOf? tags p.source))
        | .error cause => .done (.error (.store cause))
      | .error e => .done (.error e) := by
  unfold createSelfPolicy selfPolicyIn readBody
  refine (accesses_bind_of_done (accesses_require ..) _).trans ?_
  cases r.body.decode selfPolicyRequest limit with
  | error e => rfl
  | ok request =>
      obtain ⟨id, port⟩ := request
      refine (accesses_bind_of_done (accesses_require ..) _).trans ?_
      show resume world _ ((selfPolicy id port).mapError ApiError.validation)
        = match (selfPolicy id port).mapError ApiError.validation with
          | .ok p => _
          | .error e => _
      cases h : selfPolicy id port with
      | error e => rfl
      | ok p =>
          obtain ⟨-, rfl, -⟩ := selfPolicy_eq_ok_iff.mp h
          refine (accesses_bind ..).trans ?_
          refine congrArg (Program.step _) (funext fun (answer : Except StoreError Unit) => ?_)
          cases answer with
          | error cause => rfl
          | ok _ =>
              refine congrArg (Program.step _) (funext fun (tags : List Tag) => ?_)
              show accesses world (match tagOf? tags p.source with
                | some tag => pure (tagAnswer tag)
                | none => throw (.missingTag p.source)) = _
              cases tagOf? tags p.source with
              | none => rfl
              | some tag => rfl

variable {limit : Nat} {r : Http.Request} {s : Store} {p : Policy}

/-- With room for its policy the app is shown the tag that it has by then. -/
lemma onStore_createSelfPolicy_of_room (h : selfPolicyIn limit r = .ok p)
    (hroom : s.hasRoomFor [p] = true) :
    ∃ tag, tagOf? (s.add [p]).tags p.source = some tag ∧
      (accesses world (createSelfPolicy limit r)).onStore s = (.ok (tagAnswer tag), s.add [p]) := by
  obtain ⟨tag, htag⟩ := Option.isSome_iff_exists.mp
    (s.tagOf?_add_isSome [p] List.mem_cons_self p.source_mem_appIds)
  refine ⟨tag, htag, ?_⟩
  rw [accesses_createSelfPolicy, h]
  simp only [Program.onStore, Store.perform_create_of_room hroom]
  show (showTag p.source (tagOf? (s.add [p]).tags p.source), s.add [p]) = _
  rw [htag]
  rfl

lemma onStore_createSelfPolicy_of_full (h : selfPolicyIn limit r = .ok p)
    (hroom : s.hasRoomFor [p] = false) :
    (accesses world (createSelfPolicy limit r)).onStore s
      = (.error (.store (.tagsExhausted s.width.capacity)), s) := by
  rw [accesses_createSelfPolicy, h]
  simp only [Program.onStore, Store.perform_create_of_full hroom]

lemma onStore_createSelfPolicy_of_error {e : ApiError} (h : selfPolicyIn limit r = .error e) :
    (accesses world (createSelfPolicy limit r)).onStore s = (.error e, s) := by
  rw [accesses_createSelfPolicy, h]
  rfl

end Internal

/-! ## Answers -/

/-- An answer accesses the store as its handler does. -/
lemma Route.accesses_answer (world : World) (limit : Nat) (r : Http.Request) (route : Route) :
    (route.answer limit r).accesses world
      = (accesses world (route.handle limit r)).bind fun result => .done (respond result) :=
  Program.accesses_bind world (route.handle limit r).run _

lemma Route.onStore_answer (world : World) (limit : Nat) (r : Http.Request) (route : Route)
    (s : Store) : ((route.answer limit r).accesses world).onStore s
      = (respond ((accesses world (route.handle limit r)).onStore s).1,
          ((accesses world (route.handle limit r)).onStore s).2) := by
  rw [accesses_answer, Program.onStore_bind]
  rfl

end NetworkPolicy
