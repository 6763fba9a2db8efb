import Mathlib.Tactic.Common
import NetworkPolicy.Proofs.Access.Questions
import NetworkPolicy.Proofs.Server.Reached
import NetworkPolicy.Proofs.Server.Runs
import NetworkPolicy.Proofs.Store.History

/-!
# Where a request to change policies stops

A request to create or to delete policies passes seven stages (`WriteStage`), each of which may
refuse it.  `Ruling` spells out what it means to be refused at a stage: all stages before it are
passed, it is not, and the answer and everything that has been reached by then are given.

**The handlers.**  Every request gets a ruling (`exists_ruling`), and whatever a ruling says of a
request is what the handlers do (`Ruling.sound`).

**The server.**  So the first stage that fails decides, and nothing behind it is reached:
`write_stops_at_first_failure`.
-/

namespace NetworkPolicy

open Handler

/-! ## Stages -/

/-- The stages of a request to create or to delete policies, in their order. -/
inductive WriteStage where
  /-- There is a token. -/
  | header
  /-- The token is verified. -/
  | token
  /-- The claims hold a scope for writing. -/
  | scopes
  /-- The body spells a batch. -/
  | body
  /-- The batch names its apps. -/
  | batch
  /-- The guard lets the caller manage the batch. -/
  | access
  /-- The store carries the change out. -/
  | store
  deriving DecidableEq, Repr

/-- The status codes of the answers to requests that stop at a stage, or that pass all of them. -/
def WriteStage.codes : Option WriteStage → List Nat
  | some .header => [401]
  | some .token | some .scopes => [403]
  | some .body => [413, 400]
  | some .batch => [400]
  | some .access => [403, 500]
  | some .store => [500]
  | none => [200]

/-- What a request that takes the route does with its batch, if it is one to change policies. -/
def Route.write? : Route → Option (List Policy → Store.Change)
  | .createPolicies => some .create
  | .deletePolicies => some .delete
  | .listPolicies | .listTags | .listTaggedPolicies | .createSelfPolicy => none

open External in
/-- The stage at which a request to change policies stops, if any, the status code of the answer and
the answer itself, and the lookups and store operations that the request reaches. -/
inductive Ruling (world : World) (limit : Nat) (r : Http.Request) (s : Store)
    (change : List Policy → Store.Change) :
    Option WriteStage → Nat → Http.Response → List Step → Prop where
  | unidentified (hheader : BearsNothing r) :
      Ruling world limit r s change (some .header) 401 (ApiError.auth .missingHeader).response []
  | unverified {token : String} {cause : LookupFault} (hbears : Bears r token)
      (hcheck : world (.checkToken token) = Except.error cause) :
      Ruling world limit r s change (some .token) 403 (ApiError.auth (.unverified cause)).response
        [.lookup (.checkToken token)]
  | unscoped {token : String} {claims : Claims} (hbears : Bears r token)
      (hcheck : world (.checkToken token) = Except.ok claims)
      (hadmin : claims.hasScope Claims.adminScope = false)
      (hwrite : claims.hasScope Claims.writeScope = false) :
      Ruling world limit r s change (some .scopes) 403
        (ApiError.auth (.scope claims.scopes writeScopes)).response [.lookup (.checkToken token)]
  | oversized {token : String} {claims : Claims} (hcaller : Admitted world r token claims)
      (hsize : limit < r.body.bytes.length) :
      Ruling world limit r s change (some .body) 413 (ApiError.body (.tooLarge limit)).response
        [.lookup (.checkToken token)]
  | unreadable {token : String} {claims : Claims} {cause : String}
      (hcaller : Admitted world r token claims) (hsize : r.body.bytes.length ≤ limit)
      (hfailure : r.body.failure = some cause) :
      Ruling world limit r s change (some .body) 400 (ApiError.body (.unreadable cause)).response
        [.lookup (.checkToken token)]
  | undecodable {token : String} {claims : Claims} {fault : Wire.Fault}
      (hcaller : Admitted world r token claims) (hsize : r.body.bytes.length ≤ limit)
      (hfailure : r.body.failure = none)
      (hdecode : Wire.decode policiesRequest (Document.ofBytes r.body.bytes) = .error fault) :
      Ruling world limit r s change (some .body) 400 (ApiError.body (.undecodable fault)).response
        [.lookup (.checkToken token)]
  | unnamed {token : String} {claims : Claims} {batch : List Policy} {cause : ValidationError}
      (hcaller : Admitted world r token claims) (hbody : Spells limit r batch)
      (hbatch : ¬ Named batch) (hcause : validatePolicies batch = .error cause) :
      Ruling world limit r s change (some .batch) 400 (ApiError.validation cause).response
        [.lookup (.checkToken token)]
  | denied {token : String} {claims : Claims} {batch : List Policy}
      (hcaller : Admitted world r token claims) (hbody : Spells limit r batch)
      (hbatch : Named batch) (hguard : (Guard.check batch claims).evalIn world = .ok false) :
      Ruling world limit r s change (some .access) 403 ApiError.denied.response
        (.lookup (.checkToken token) :: ((Guard.check batch claims).run.trace world).map .lookup)
  | undecided {token : String} {claims : Claims} {batch : List Policy} {cause : AccessError}
      (hcaller : Admitted world r token claims) (hbody : Spells limit r batch)
      (hbatch : Named batch) (hguard : (Guard.check batch claims).evalIn world = .error cause) :
      Ruling world limit r s change (some .access) 500 (ApiError.access cause).response
        (.lookup (.checkToken token) :: ((Guard.check batch claims).run.trace world).map .lookup)
  | exhausted {token : String} {claims : Claims} {batch : List Policy} {cause : StoreError}
      (hcaller : Admitted world r token claims) (hbody : Spells limit r batch)
      (hbatch : Named batch) (hguard : (Guard.check batch claims).evalIn world = .ok true)
      (hstore : s.change (change batch) = .error cause) :
      Ruling world limit r s change (some .store) 500 (ApiError.store cause).response
        (.lookup (.checkToken token) :: ((Guard.check batch claims).run.trace world).map .lookup ++
          [.store (change batch).operation])
  | done {token : String} {claims : Claims} {batch : List Policy} {s' : Store}
      (hcaller : Admitted world r token claims) (hbody : Spells limit r batch)
      (hbatch : Named batch) (hguard : (Guard.check batch claims).evalIn world = .ok true)
      (hstore : s.change (change batch) = .ok s') :
      Ruling world limit r s change none 200 ⟨.ok, .json (.object [])⟩
        (.lookup (.checkToken token) :: ((Guard.check batch claims).run.trace world).map .lookup ++
          [.store (change batch).operation])

/-! ## Rulings and the server -/

section Answers

variable {world : World} {limit : Nat} {r : Http.Request} {s : Store} {route : Route}
  {change : List Policy → Store.Change}

open External

/-- The answer of a route, and what it reaches. -/
def Route.outcome (world : World) (limit : Nat) (r : Http.Request) (route : Route) (s : Store) :
    Http.Response × List Step :=
  (Route.respond ((accesses world (route.handle limit r)).onStore s).1,
    reached world (route.handle limit r) s)

/-- Without a batch to carry out, the answer is the error, and the store is not asked. -/
lemma outcome_of_error (hroute : route.write? = some change) {e : ApiError}
    (hbatch : batchIn world limit r = .error e) :
    route.outcome world limit r s = (e.response, reached world (acceptedBatch limit r) s) := by
  have hstart := accesses_acceptedBatch world limit r
  rw [hbatch] at hstart
  cases route with
  | createPolicies =>
      rw [Route.outcome, Route.handle, accesses_createPolicies, hbatch, createPolicies,
        reached_bind_of_done hstart]
      exact congrArg _ (List.append_nil _)
  | deletePolicies =>
      rw [Route.outcome, Route.handle, accesses_deletePolicies, hbatch, deletePolicies,
        reached_bind_of_done hstart]
      exact congrArg _ (List.append_nil _)
  | listPolicies | listTags | listTaggedPolicies | createSelfPolicy => cases hroute

/-- A batch that is to be carried out is the last thing that is reached. -/
lemma outcome_of_batch (hroute : route.write? = some change) {batch : List Policy}
    (hbatch : batchIn world limit r = .ok batch) :
    route.outcome world limit r s
      = (match s.change (change batch) with
          | .ok _ => External.done
          | .error cause => (ApiError.store cause).response,
        reached world (acceptedBatch limit r) s ++ [.store (change batch).operation]) := by
  have hstart := accesses_acceptedBatch world limit r
  rw [hbatch] at hstart
  cases route with
  | createPolicies =>
      cases hroute
      rw [Route.outcome, Route.handle, accesses_createPolicies, hbatch, createPolicies,
        reached_bind_of_done hstart]
      have hanswer : (s.perform (.create batch)).1 = (s.create batch).map fun _ => () := by
        rw [Store.perform]
        cases s.create batch with
        | ok s' => rfl
        | error cause => rfl
      refine Prod.ext ?_ ?_
      · show Route.respond (((s.perform (.create batch)).1.mapError ApiError.store).map _) = _
        rw [hanswer]
        show _ = match s.create batch with
          | .ok _ => External.done
          | .error cause => (ApiError.store cause).response
        cases s.create batch with
        | ok s' => rfl
        | error cause => rfl
      · refine congrArg (reached world (acceptedBatch limit r) s ++ ·) ?_
        have hrest : ∀ (answer : Except StoreError Unit) (s' : Store), reached world
            (require ApiError.store answer >>= fun _ => pure External.done) s' = [] := by
          intro answer s'
          cases answer with
          | ok _ => rfl
          | error cause => rfl
        refine congrArg (Step.store (.create batch) :: ·) ?_
        exact hrest (s.perform (.create batch)).1 (s.perform (.create batch)).2
  | deletePolicies =>
      cases hroute
      rw [Route.outcome, Route.handle, accesses_deletePolicies, hbatch, deletePolicies,
        reached_bind_of_done hstart]
      rfl
  | listPolicies | listTags | listTaggedPolicies | createSelfPolicy => cases hroute

/-- The stage at which the handlers raise an error. -/
def ApiError.stage : ApiError → WriteStage
  | .auth .missingHeader => .header
  | .auth (.unverified _) => .token
  | .auth (.scope ..) => .scopes
  | .body _ => .body
  | .validation _ | .query _ => .batch
  | .denied | .access _ => .access
  | .store _ | .missingTag _ => .store

/-- The stage at which the handlers stop. -/
def stopIn (world : World) (limit : Nat) (r : Http.Request) (s : Store)
    (change : List Policy → Store.Change) : Option WriteStage :=
  match batchIn world limit r with
  | .error e => some e.stage
  | .ok batch =>
    match s.change (change batch) with
    | .ok _ => none
    | .error _ => some .store

/-- The decision about a batch once the caller is admitted. -/
lemma batchIn_of_admitted {token : String} {claims : Claims}
    (hcaller : Admitted world r token claims) : batchIn world limit r = (do
      let batch ← (r.body.decode policiesRequest limit).mapError .body
      (validatePolicies batch).mapError .validation
      authorizeIn world batch claims
      return batch) := by
  rw [batchIn, callerIn_of_admitted hcaller]
  rfl

lemma reached_of_admitted {token : String} {claims : Claims}
    (hcaller : Admitted world r token claims) (s : Store) :
    reached world (acceptedBatch limit r) s
      = .lookup (.checkToken token) :: reachedByBatch world limit r claims := by
  rw [reached_acceptedBatch, reached_authenticate_of_bears world hcaller.bears,
    callerIn_of_admitted hcaller]
  rfl

/-- A caller who is not admitted stops the request, before the body is looked at. -/
lemma stops_of_refused (limit : Nat) (s : Store) (hroute : route.write? = some change)
    {e : ApiError} (hcaller : callerIn world r writeScopes = .error e) :
    stopIn world limit r s change = some e.stage ∧ route.outcome world limit r s
      = (e.response, reached world (authenticate r writeScopes) s) := by
  have hbatch : batchIn world limit r = .error e := by
    rw [batchIn, hcaller]
    rfl
  rw [stopIn, outcome_of_error hroute hbatch, hbatch, reached_acceptedBatch, hcaller,
    List.append_nil]
  exact ⟨rfl, rfl⟩

/-- A body that does not spell a batch stops the request, before the guard is asked. -/
lemma stops_of_undecoded (hroute : route.write? = some change) {token : String} {claims : Claims}
    {fault : Http.BodyFault} (hcaller : Admitted world r token claims)
    (hbody : r.body.decode policiesRequest limit = .error fault) :
    stopIn world limit r s change = some .body ∧ route.outcome world limit r s
      = ((ApiError.body fault).response, [.lookup (.checkToken token)]) := by
  have hbatch : batchIn world limit r = .error (.body fault) := by
    rw [batchIn_of_admitted hcaller, hbody]
    rfl
  rw [stopIn, outcome_of_error hroute hbatch, hbatch, reached_of_admitted hcaller, reachedByBatch,
    hbody]
  exact ⟨rfl, rfl⟩

/-- Once a batch names its apps, the guard is asked about it. -/
lemma batchIn_of_named {token : String} {claims : Claims} {batch : List Policy}
    (hcaller : Admitted world r token claims) (hbody : Spells limit r batch)
    (hbatch : Named batch) :
    batchIn world limit r = (authorizeIn world batch claims).map fun () => batch := by
  rw [batchIn_of_admitted hcaller, decode_of_spells hbody]
  show ((validatePolicies batch).mapError ApiError.validation >>= _) = _
  rw [validatePolicies_eq_ok_iff.mpr hbatch]
  rfl

lemma reached_of_named {token : String} {claims : Claims} {batch : List Policy}
    (hcaller : Admitted world r token claims) (hbody : Spells limit r batch)
    (hbatch : Named batch) (s : Store) :
    reached world (acceptedBatch limit r) s = .lookup (.checkToken token) ::
      ((Guard.check batch claims).run.trace world).map .lookup := by
  rw [reached_of_admitted hcaller, reachedByBatch_of_valid claims (decode_of_spells hbody)
    (validatePolicies_eq_ok_iff.mpr hbatch)]

/-- What a ruling says of a request is what the handlers do. -/
theorem Ruling.sound (hroute : route.write? = some change) {stop : Option WriteStage} {code : Nat}
    {response : Http.Response} {steps : List Step}
    (h : Ruling world limit r s change stop code response steps) :
    stopIn world limit r s change = stop ∧ route.outcome world limit r s = (response, steps) := by
  cases h with
  | unidentified hheader =>
      have hstop := stops_of_refused limit s hroute
        (callerIn_of_bearsNothing world writeScopes hheader)
      rw [reached_authenticate, requestToken_of_bearsNothing hheader] at hstop
      exact hstop
  | unverified hbears hcheck =>
      have hstop := stops_of_refused limit s hroute
        (callerIn_of_unverified writeScopes hbears hcheck)
      rw [reached_authenticate_of_bears world hbears] at hstop
      exact hstop
  | @unscoped token claims hbears hcheck hadmin hwrite =>
      have hcaller : callerIn world r writeScopes
          = .error (.auth (.scope claims.scopes writeScopes)) := by
        rw [callerIn_of_verified writeScopes hbears hcheck, hasAnyScope_writeScopes, hadmin, hwrite]
        rfl
      have hstop := stops_of_refused limit s hroute hcaller
      rw [reached_authenticate_of_bears world hbears] at hstop
      exact hstop
  | oversized hcaller hsize =>
      exact stops_of_undecoded hroute hcaller (Http.Body.decode_of_tooLarge hsize)
  | unreadable hcaller hsize hfailure =>
      exact stops_of_undecoded hroute hcaller (Http.Body.decode_of_unreadable hsize hfailure)
  | undecodable hcaller hsize hfailure hdecode =>
      refine stops_of_undecoded hroute hcaller ?_
      rw [Http.Body.decode_of_readable hsize hfailure, hdecode]
      rfl
  | @unnamed token claims batch cause hcaller hbody hbatch hcause =>
      have herror : batchIn world limit r = .error (.validation cause) := by
        rw [batchIn_of_admitted hcaller, decode_of_spells hbody]
        show ((validatePolicies batch).mapError ApiError.validation >>= _) = _
        rw [hcause]
        rfl
      rw [stopIn, outcome_of_error hroute herror, herror, reached_of_admitted hcaller,
        reachedByBatch_of_invalid claims (decode_of_spells hbody) hcause]
      exact ⟨rfl, rfl⟩
  | denied hcaller hbody hbatch hguard =>
      have herror : batchIn world limit r = .error .denied := by
        rw [batchIn_of_named hcaller hbody hbatch, authorizeIn, hguard]
        rfl
      rw [stopIn, outcome_of_error hroute herror, herror, reached_of_named hcaller hbody hbatch]
      exact ⟨rfl, rfl⟩
  | @undecided token claims batch cause hcaller hbody hbatch hguard =>
      have herror : batchIn world limit r = .error (.access cause) := by
        rw [batchIn_of_named hcaller hbody hbatch, authorizeIn, hguard]
        rfl
      rw [stopIn, outcome_of_error hroute herror, herror, reached_of_named hcaller hbody hbatch]
      exact ⟨rfl, rfl⟩
  | @exhausted token claims batch cause hcaller hbody hbatch hguard hstore =>
      have hok : batchIn world limit r = .ok batch := by
        rw [batchIn_of_named hcaller hbody hbatch, authorizeIn, hguard]
        rfl
      rw [stopIn, outcome_of_batch hroute hok, hok, reached_of_named hcaller hbody hbatch]
      dsimp only
      rw [hstore]
      exact ⟨rfl, rfl⟩
  | @done token claims batch s' hcaller hbody hbatch hguard hstore =>
      have hok : batchIn world limit r = .ok batch := by
        rw [batchIn_of_named hcaller hbody hbatch, authorizeIn, hguard]
        rfl
      rw [stopIn, outcome_of_batch hroute hok, hok, reached_of_named hcaller hbody hbatch]
      dsimp only
      rw [hstore]
      exact ⟨rfl, rfl⟩

lemma Ruling.code_mem {stop : Option WriteStage} {code : Nat} {response : Http.Response}
    {steps : List Step} (h : Ruling world limit r s change stop code response steps) :
    response.status.code = code ∧ code ∈ WriteStage.codes stop := by
  cases h with
  | _ => exact ⟨rfl, by decide⟩

/-- Every request stops at some stage or passes all of them. -/
theorem exists_ruling (world : World) (limit : Nat) (r : Http.Request) (s : Store)
    (change : List Policy → Store.Change) :
    ∃ stop code response steps, Ruling world limit r s change stop code response steps := by
  rcases bears_or_bearsNothing r with ⟨token, hbears⟩ | hheader
  swap
  · exact ⟨_, _, _, _, .unidentified hheader⟩
  cases hcheck : (world (.checkToken token) : Except LookupFault Claims) with
  | error cause => exact ⟨_, _, _, _, .unverified hbears hcheck⟩
  | ok claims =>
      cases hscopes : claims.hasScope Claims.adminScope || claims.hasScope Claims.writeScope with
      | false =>
          obtain ⟨hadmin, hwrite⟩ := Bool.or_eq_false_iff.mp hscopes
          exact ⟨_, _, _, _, .unscoped hbears hcheck hadmin hwrite⟩
      | true =>
          have hcaller : Admitted world r token claims :=
            ⟨hbears, hcheck, (Bool.or_eq_true _ _).mp hscopes⟩
          rcases Nat.lt_or_ge limit r.body.bytes.length with hsize | hsize
          · exact ⟨_, _, _, _, .oversized hcaller hsize⟩
          cases hfailure : r.body.failure with
          | some cause => exact ⟨_, _, _, _, .unreadable hcaller hsize hfailure⟩
          | none =>
              cases hdecode : Wire.decode policiesRequest (Document.ofBytes r.body.bytes) with
              | error fault => exact ⟨_, _, _, _, .undecodable hcaller hsize hfailure hdecode⟩
              | ok batch =>
                  have hbody : Spells limit r batch := ⟨hsize, hfailure, hdecode⟩
                  cases hvalid : validatePolicies batch with
                  | error cause =>
                      have hbatch : ¬ Named batch := by
                        rw [← validatePolicies_eq_ok_iff, hvalid]
                        exact nofun
                      exact ⟨_, _, _, _, .unnamed hcaller hbody hbatch hvalid⟩
                  | ok _ =>
                      have hbatch : Named batch := validatePolicies_eq_ok_iff.mp hvalid
                      cases hguard : (Guard.check batch claims).evalIn world with
                      | error cause => exact ⟨_, _, _, _, .undecided hcaller hbody hbatch hguard⟩
                      | ok granted =>
                          cases granted with
                          | false => exact ⟨_, _, _, _, .denied hcaller hbody hbatch hguard⟩
                          | true =>
                              cases hstore : s.change (change batch) with
                              | error cause =>
                                  exact ⟨_, _, _, _, .exhausted hcaller hbody hbatch hguard hstore⟩
                              | ok s' =>
                                  exact ⟨_, _, _, _, .done hcaller hbody hbatch hguard hstore⟩

/-- The one lookup that verifies a token comes before everything else, and the store after
everything else. -/
lemma Ruling.steps_cases {stop : Option WriteStage} {code : Nat} {response : Http.Response}
    {steps : List Step} (h : Ruling world limit r s change stop code response steps) :
    (stop = some .header ∧ steps = []) ∨
      stop ≠ some .header ∧ ∃ token rest, Bears r token ∧
        steps = .lookup (.checkToken token) :: rest ∧
        (∀ token', .lookup (.checkToken token') ∉ rest) ∧
        ∀ op, .store op ∈ rest → stop = some .store ∨ stop = none := by
  have hlookups : ∀ (batch : List Policy) (claims : Claims) (step : Step),
      step ∈ ((Guard.check batch claims).run.trace world).map Step.lookup →
        (∀ token', step ≠ .lookup (.checkToken token')) ∧ ∀ op, step ≠ .store op := by
    intro batch claims step hstep
    obtain ⟨q, hq, rfl⟩ := List.mem_map.mp hstep
    have hguard := (Guard.asks_check batch claims).of_mem_trace world hq
    exact ⟨fun token' h => hguard token' (Step.lookup.inj h), fun op => nofun⟩
  cases h with
  | unidentified hheader => exact .inl ⟨rfl, rfl⟩
  | unverified hbears hcheck | unscoped hbears hcheck hadmin hwrite =>
      exact .inr ⟨nofun, _, [], hbears, rfl, fun _ => List.not_mem_nil,
        fun _ h => absurd h List.not_mem_nil⟩
  | oversized hcaller hsize | unreadable hcaller hsize hfailure
  | undecodable hcaller hsize hfailure hdecode | unnamed hcaller hbody hbatch hcause =>
      exact .inr ⟨nofun, _, [], hcaller.bears, rfl, fun _ => List.not_mem_nil,
        fun _ h => absurd h List.not_mem_nil⟩
  | denied hcaller hbody hbatch hguard | undecided hcaller hbody hbatch hguard =>
      refine .inr ⟨nofun, _, _, hcaller.bears, rfl, fun token' h => ?_, fun op h => ?_⟩
      · exact (hlookups _ _ _ h).1 token' rfl
      · exact absurd rfl ((hlookups _ _ _ h).2 op)
  | exhausted hcaller hbody hbatch hguard hstore =>
      refine .inr ⟨nofun, _, _, hcaller.bears, List.cons_append, fun token' h => ?_,
        fun op _ => .inl rfl⟩
      rcases List.mem_append.mp h with h | h
      · exact (hlookups _ _ _ h).1 token' rfl
      · cases List.mem_singleton.mp h
  | done hcaller hbody hbatch hguard hstore =>
      refine .inr ⟨nofun, _, _, hcaller.bears, List.cons_append, fun token' h => ?_,
        fun op _ => .inr rfl⟩
      rcases List.mem_append.mp h with h | h
      · exact (hlookups _ _ _ h).1 token' rfl
      · cases List.mem_singleton.mp h

/-- Up to the scopes, the body of the request plays no part. -/
lemma Ruling.of_refused {stop : Option WriteStage} {code : Nat} {response : Http.Response}
    {steps : List Step} (h : Ruling world limit r s change stop code response steps)
    (hstop : stop ∈ [some .header, some .token, some .scopes]) (body : Http.Body) :
    Ruling world limit { r with body } s change stop code response steps := by
  cases h with
  | unidentified hheader => exact .unidentified hheader
  | unverified hbears hcheck => exact .unverified hbears hcheck
  | unscoped hbears hcheck hadmin hwrite => exact .unscoped hbears hcheck hadmin hwrite
  | _ => simp at hstop

end Answers

namespace Server

/-- The lookups and the store operations that a visit reaches. -/
def reached (s : Server) (v : Visit) : List Step :=
  (v.api.answer s.bodyLimit v.request).reached v.world s.store

lemma outcome_of_takes {s : Server} (hs : s.showsTags = true) {v : Visit} {route : Route}
    (hroute : v.Takes route) :
    route.outcome v.world s.bodyLimit v.request s.store = ((s.visit v).1, s.reached v) := by
  obtain ⟨metrics, hvisit⟩ := visit_of_takes hs hroute
  have hanswer : v.api.answer s.bodyLimit v.request = route.answer s.bodyLimit v.request := by
    rw [Api.answer, hroute]
  rw [hvisit, reached, hanswer, Route.reached_answer, Route.outcome]

/-- **The first stage that fails decides.**  A request to create or to delete policies stops at the
first of the seven stages that it does not pass, or passes all of them: of all rulings exactly one
applies to it, and the answer and what has been reached by then are as it says.  Every status
belongs to certain stages only; the token is verified first of all and only once; the store is
not asked before all other stages are passed; and as long as the caller is not known to hold a
scope for writing, another body makes no difference. -/
theorem write_stops_at_first_failure {s : Server} (hs : s.showsTags = true) {v : Visit}
    {route : Route} {change : List Policy → Store.Change} (hroute : v.Takes route)
    (hwrite : route.write? = some change) :
    ∃ stop : Option WriteStage,
      (∀ stop' code response steps,
        Ruling v.world s.bodyLimit v.request s.store change stop' code response steps ↔
          stop' = stop ∧ code = (s.visit v).1.status.code ∧ response = (s.visit v).1 ∧
            steps = s.reached v) ∧
      (s.visit v).1.status.code ∈ WriteStage.codes stop ∧
      ((stop = some .header ∧ s.reached v = []) ∨
        stop ≠ some .header ∧ ∃ token rest, External.Bears v.request token ∧
          s.reached v = .lookup (.checkToken token) :: rest ∧
          (∀ token', .lookup (.checkToken token') ∉ rest) ∧
          ∀ op, .store op ∈ rest → stop = some .store ∨ stop = none) ∧
      (stop ∈ [some .header, some .token, some .scopes] → ∀ body : Http.Body,
        (s.visit { v with request := { v.request with body } }).1 = (s.visit v).1 ∧
          s.reached { v with request := { v.request with body } } = s.reached v) := by
  obtain ⟨stop, code, response, steps, hruling⟩ :=
    exists_ruling v.world s.bodyLimit v.request s.store change
  obtain ⟨hstop, houtcome⟩ := hruling.sound hwrite
  obtain ⟨rfl, rfl⟩ := Prod.mk.inj ((outcome_of_takes hs hroute).symm.trans houtcome)
  obtain ⟨rfl, hcode⟩ := hruling.code_mem
  refine ⟨stop, fun stop' code' response' steps' => ⟨fun h => ?_, ?_⟩, hcode, hruling.steps_cases,
    fun hrefused body => ?_⟩
  · obtain ⟨hstop', houtcome'⟩ := h.sound hwrite
    obtain ⟨hresponse', hsteps'⟩ := Prod.mk.inj ((outcome_of_takes hs hroute).symm.trans houtcome')
    refine ⟨hstop'.symm.trans hstop, ?_, hresponse'.symm, hsteps'.symm⟩
    rw [hresponse']
    exact h.code_mem.1.symm
  · rintro ⟨rfl, rfl, rfl, rfl⟩
    exact hruling
  · have hroute' : Visit.Takes { v with request := { v.request with body } } route := hroute
    obtain ⟨-, houtcome'⟩ := (hruling.of_refused hrefused body).sound hwrite
    exact Prod.mk.inj ((outcome_of_takes hs hroute').symm.trans houtcome')

/-! ### A request with several faults -/

/-- A reader asks for policies to be created, with a body that is not even JSON. -/
def readerVisit : Visit where
  api := .external
  request :=
    ⟨"POST", "/networking/v0/external/policies", none, [("authorization", "bearer reader")],
      .ofBytes [0x7B]⟩
  world := Platform.answer { adminPlatform with
    tokens := [("reader", .ok ⟨["network.read"], "reader", "Reader"⟩)] }
  ready := true

/-- Where no body is short enough, the request is still refused for its scopes: the faults of its
body are not found. -/
theorem write_stops_at_first_failure_reader :
    Visit.Takes readerVisit .createPolicies ∧ Route.createPolicies.write? = some .create ∧
    readerVisit.request.body.bytes.length = 1 ∧
    (visit { small with bodyLimit := 0 } readerVisit).1.status.code = 403 ∧
    reached { small with bodyLimit := 0 } readerVisit = [.lookup (.checkToken "reader")] := by
  have hroute : Visit.Takes readerVisit .createPolicies := by cbv
  have hbears : External.Bears readerVisit.request "reader" :=
    ⟨"bearer reader", by cbv, by decide, .inr (.inl rfl)⟩
  obtain ⟨stop, hruling, -⟩ :=
    write_stops_at_first_failure (s := { small with bodyLimit := 0 }) rfl hroute rfl
  have hcheck : readerVisit.world (.checkToken "reader")
      = Except.ok (⟨["network.read"], "reader", "Reader"⟩ : Claims) := rfl
  have hunscoped := (hruling _ _ _ _).mp (.unscoped hbears hcheck (by decide) (by decide))
  exact ⟨hroute, rfl, rfl, hunscoped.2.1.symm, hunscoped.2.2.2.symm⟩

end Server

end NetworkPolicy
