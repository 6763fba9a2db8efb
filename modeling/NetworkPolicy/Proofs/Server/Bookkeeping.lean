import Mathlib.Tactic.Common
import NetworkPolicy.Server

/-!
# What a request is counted as

A handler counts as it goes: how access was decided, and each use of the store.  Which events it
records depends on the answers to its lookups and its accesses, and so does the answer to the
request; but the two go together.  `Program.Books` says so of a program for *all* answers to its
steps at once, so nothing has to be known about the world or about the store.

* `Handler.Refuses` — the handlers that count nothing and fail for reasons that lie with the
  request.  What a handler does before it decides about access or uses the store is of that kind.
* `Route.Counts` — what may be counted for a request that takes a route, with the status of the
  answer: `Route.books_handle` goes through the handlers, and `Route.books_answer` adds the answer
  itself.
-/

namespace NetworkPolicy

open Handler

variable {α β : Type}

/-! ## Programs that record events -/

namespace Program

/-- Whatever its steps are answered, the events that the program records and its result have the
property. -/
def Books : Program Step.Answer α → (List Metrics.Event → α → Prop) → Prop
  | .done a, P => P [] a
  | .step (.record event) next, P => (next ()).Books fun events => P (event :: events)
  | .step (.lookup q) next, P => ∀ answer : q.Answer, (next answer).Books P
  | .step (.store op) next, P => ∀ answer : op.Answer, (next answer).Books P

/-- What a program books is carried on to the one that goes on from its result. -/
lemma Books.bind {p : Program Step.Answer α} {f : α → Program Step.Answer β}
    {P : List Metrics.Event → α → Prop} {Q : List Metrics.Event → β → Prop} (hp : p.Books P)
    (hf : ∀ events a, P events a → (f a).Books fun later => Q (events ++ later)) :
    (p.bind f).Books Q := by
  induction p generalizing P Q with
  | done a => exact hf [] a hp
  | step op next ih =>
      cases op with
      | record event => exact ih () hp fun events a h => hf (event :: events) a h
      | lookup q => exact fun answer => ih answer (hp answer) hf
      | store op => exact fun answer => ih answer (hp answer) hf

end Program

/-! ## Handlers that refuse -/

/-- The reason for not serving a request lies with the request. -/
def ApiError.IsRefusal (e : ApiError) : Prop := e.response.status.code ∉ [200, 500]

lemma AuthError.isRefusal (cause : AuthError) : (ApiError.auth cause).IsRefusal := by
  cases cause with
  | missingHeader => exact (by decide : 401 ∉ [200, 500])
  | unverified _ | scope _ _ => exact (by decide : 403 ∉ [200, 500])

lemma Http.BodyFault.isRefusal (cause : Http.BodyFault) : (ApiError.body cause).IsRefusal := by
  cases cause with
  | tooLarge _ => exact (by decide : 413 ∉ [200, 500])
  | unreadable _ | undecodable _ => exact (by decide : 400 ∉ [200, 500])

lemma ValidationError.isRefusal (cause : ValidationError) :
    (ApiError.validation cause).IsRefusal := (by decide : 400 ∉ [200, 500])

lemma Http.QueryFault.isRefusal (cause : Http.QueryFault) : (ApiError.query cause).IsRefusal :=
  (by decide : 400 ∉ [200, 500])

namespace Handler

/-- Whatever its steps are answered, the events that the handler records and its result have the
property. -/
def Books (h : Handler α) (P : List Metrics.Event → Except ApiError α → Prop) : Prop :=
  Program.Books h.run P

lemma Books.bind {h : Handler α} {f : α → Handler β}
    {P : List Metrics.Event → Except ApiError α → Prop}
    {Q : List Metrics.Event → Except ApiError β → Prop} (hh : h.Books P)
    (hf : ∀ events a, P events (.ok a) → (f a).Books fun later => Q (events ++ later))
    (herror : ∀ events e, P events (.error e) → Q events (.error e)) : (h >>= f).Books Q := by
  refine Program.Books.bind hh fun events result hresult => ?_
  cases result with
  | ok a => exact hf events a hresult
  | error e =>
      show Q (events ++ []) (.error e)
      rw [List.append_nil]
      exact herror events e hresult

/-- The handler counts nothing, and its errors are refusals. -/
def Refuses (h : Handler α) : Prop :=
  h.Books fun events result => events = [] ∧ ∀ e, result = .error e → e.IsRefusal

lemma Refuses.bind_books {h : Handler α} {f : α → Handler β}
    {Q : List Metrics.Event → Except ApiError β → Prop} (hh : h.Refuses)
    (hrefused : ∀ e : ApiError, e.IsRefusal → Q [] (.error e)) (hf : ∀ a, (f a).Books Q) :
    (h >>= f).Books Q := by
  refine Books.bind hh (fun events a => ?_) fun events e => ?_
  · rintro ⟨rfl, -⟩
    exact hf a
  · rintro ⟨rfl, he⟩
    exact hrefused e (he e rfl)

lemma Refuses.bind {h : Handler α} {f : α → Handler β} (hh : h.Refuses)
    (hf : ∀ a, (f a).Refuses) : (h >>= f).Refuses := by
  refine hh.bind_books (fun e he => ⟨rfl, ?_⟩) hf
  rintro _ ⟨⟩
  exact he

lemma refuses_pure (a : α) : (pure a : Handler α).Refuses := ⟨rfl, nofun⟩

lemma refuses_throw {e : ApiError} (he : e.IsRefusal) : (throw e : Handler α).Refuses := by
  refine ⟨rfl, ?_⟩
  rintro _ ⟨⟩
  exact he

lemma refuses_lookup (q : Lookup) : (lookup q).Refuses := fun _ => ⟨rfl, nofun⟩

lemma refuses_require {ε : Type} {wrap : ε → ApiError} (hwrap : ∀ cause, (wrap cause).IsRefusal)
    (result : Except ε α) : (require wrap result).Refuses := by
  cases result with
  | ok a => exact refuses_pure a
  | error cause => exact refuses_throw (hwrap cause)

/-! ### Handlers that count -/

/-- Nothing is counted for the lookups of the guard. -/
lemma books_guarded_bind (action : Guard.Action α) {f : Except AccessError α → Handler β}
    {Q : List Metrics.Event → Except ApiError β → Prop} (hf : ∀ result, (f result).Books Q) :
    (ofProgram (guarded action) >>= f).Books Q := by
  have hquiet : (guarded action).Books fun events _ => events = [] := by
    unfold guarded
    induction action.run with
    | done a => rfl
    | step q next ih => exact fun answer => ih answer
  have hguarded : (ofProgram (guarded action)).Books
      fun events result => events = [] ∧ ∃ decision, result = .ok decision := by
    refine Program.Books.bind hquiet fun events decision => ?_
    rintro rfl
    exact ⟨rfl, decision, rfl⟩
  refine hguarded.bind (fun events decision => ?_) fun events e => ?_
  · rintro ⟨rfl, -⟩
    exact hf decision
  · rintro ⟨-, _, ⟨⟩⟩

lemma books_store (op : Store.Operation) : (store op).Books fun events _ => events = [] :=
  fun _ => rfl

/-- A use of the store is counted whatever comes out of it. -/
lemma books_timed_bind {use : StoreUse} {p : Program Step.Answer α}
    (hquiet : p.Books fun events _ => events = []) {f : α → Handler β}
    {Q : List Metrics.Event → Except ApiError β → Prop}
    (hf : ∀ a, (f a).Books fun later => Q (.storeUse use :: later)) :
    (timed use p >>= f).Books Q := by
  have hcounted : (p.bind fun a => .step (.record (.storeUse use)) fun _ => .done a).Books
      fun events _ => events = [.storeUse use] := by
    refine Program.Books.bind hquiet fun events a => ?_
    rintro rfl
    rfl
  have htimed : (timed use p).Books
      fun events result => events = [.storeUse use] ∧ ∃ a, result = .ok a := by
    refine Program.Books.bind hcounted fun events a => ?_
    rintro rfl
    exact ⟨rfl, a, rfl⟩
  refine htimed.bind (fun events a => ?_) fun events e => ?_
  · rintro ⟨rfl, -⟩
    exact hf a
  · rintro ⟨-, _, ⟨⟩⟩

end Handler

/-! ## The handlers -/

namespace Route

/-- The requests whose callers have to be let manage a batch. -/
def IsWrite (route : Route) : Prop := route = .createPolicies ∨ route = .deletePolicies

/-- What may be counted for a request that takes a route, before its answer is, and the status of
the answer. -/
inductive Counts : Route → List Metrics.Event → Http.Status → Prop where
  /-- A request that is refused before access is decided and the store is used. -/
  | refused {route : Route} {status : Http.Status} (hcode : status.code ∉ [200, 500]) :
      Counts route [] status
  | denied {route : Route} (hroute : route.IsWrite) : Counts route [.access .denied] .forbidden
  | undecided {route : Route} (hroute : route.IsWrite) :
      Counts route [.access .failed] .internalServerError
  | created {status : Http.Status} (hcode : status.code ∈ [200, 500]) :
      Counts .createPolicies [.access .authorized, .storeUse .create] status
  | deleted : Counts .deletePolicies [.access .authorized, .storeUse .delete] .ok
  | listed {status : Http.Status} (hcode : status.code ∈ [200, 500]) :
      Counts .listPolicies [.storeUse .list] status
  | tags : Counts .listTags [.storeUse .tags] .ok
  | listedTagged : Counts .listTaggedPolicies [.storeUse .listTagged] .ok
  | connected {status : Http.Status} (hcode : status.code ∈ [200, 500]) :
      Counts .createSelfPolicy [.storeUse .createSelf] status

/-- A result with what has been counted for it, as `Counts` has it. -/
def Settles (route : Route) (events : List Metrics.Event)
    (result : Except ApiError Http.Response) : Prop :=
  route.Counts events (respond result).status

lemma settles_of_isRefusal (route : Route) {e : ApiError} (he : e.IsRefusal) :
    route.Settles [] (.error e) := .refused he

end Route

namespace External

lemma refuses_authenticate (r : Http.Request) (allowed : List String) :
    (authenticate r allowed).Refuses := by
  refine (refuses_require AuthError.isRefusal _).bind fun token => ?_
  refine (refuses_lookup _).bind fun answer => ?_
  refine (refuses_require (fun cause => AuthError.isRefusal (.unverified cause)) _).bind ?_
  intro claims
  split
  case isTrue h => exact refuses_pure claims
  case isFalse h => exact refuses_throw (AuthError.isRefusal _)

/-- How access is decided is counted once. -/
lemma books_authorize (batch : List Policy) (caller : Claims) :
    (authorize batch caller).Books fun events result =>
      (events = [.access .authorized] ∧ result = .ok ()) ∨
        (events = [.access .denied] ∧ result = .error .denied) ∨
        ∃ cause, events = [.access .failed] ∧ result = .error (.access cause) := by
  refine books_guarded_bind _ fun decision => ?_
  rcases decision with cause | _ | _
  · exact .inr (.inr ⟨cause, rfl, rfl⟩)
  · exact .inr (.inl ⟨rfl, rfl⟩)
  · exact .inl ⟨rfl, rfl⟩

/-- A batch that is accepted has been counted as authorized. -/
lemma books_acceptedBatch_bind {route : Route} (hroute : route.IsWrite) (limit : Nat)
    (r : Http.Request) {f : List Policy → Handler Http.Response}
    (hf : ∀ batch, (f batch).Books fun later => route.Settles (.access .authorized :: later)) :
    (acceptedBatch limit r >>= f).Books route.Settles := by
  have hrefused := fun e : ApiError => route.settles_of_isRefusal (e := e)
  unfold acceptedBatch
  simp only [bind_assoc]
  refine (refuses_authenticate r writeScopes).bind_books hrefused fun caller => ?_
  refine (refuses_require Http.BodyFault.isRefusal _).bind_books hrefused fun batch => ?_
  refine (refuses_require ValidationError.isRefusal _).bind_books hrefused fun _ => ?_
  refine (books_authorize batch caller).bind (fun events _ h => ?_) fun events e h => ?_
  · obtain ⟨rfl, -⟩ | ⟨-, ⟨⟩⟩ | ⟨_, -, ⟨⟩⟩ := h
    exact hf batch
  · obtain ⟨-, ⟨⟩⟩ | ⟨rfl, ⟨⟩⟩ | ⟨_, rfl, ⟨⟩⟩ := h
    · exact .denied hroute
    · exact .undecided hroute

lemma books_createPolicies (limit : Nat) (r : Http.Request) :
    (createPolicies limit r).Books Route.createPolicies.Settles := by
  refine books_acceptedBatch_bind (.inl rfl) limit r fun batch => ?_
  refine books_timed_bind (books_store _) fun answer => ?_
  rcases answer with cause | _
  · exact .created (by decide : 500 ∈ [200, 500])
  · exact .created (by decide : 200 ∈ [200, 500])

lemma books_deletePolicies (limit : Nat) (r : Http.Request) :
    (deletePolicies limit r).Books Route.deletePolicies.Settles := by
  refine books_acceptedBatch_bind (.inr rfl) limit r fun batch => ?_
  refine books_timed_bind (books_store _) fun _ => ?_
  exact Route.Counts.deleted

lemma books_listPolicies (r : Http.Request) :
    (listPolicies r).Books Route.listPolicies.Settles := by
  have hrefused := fun e : ApiError => Route.listPolicies.settles_of_isRefusal (e := e)
  have hshow : ∀ (caller : Claims) (policies : List Policy),
      (ofProgram (guarded (Guard.visible policies caller)) >>= fun seen =>
        require .access seen >>= fun seen => pure (policyList seen)).Books
        fun later => Route.listPolicies.Settles (.storeUse .list :: later) := by
    intro caller policies
    refine books_guarded_bind _ fun seen => ?_
    rcases seen with cause | seen
    · exact .listed (by decide : 500 ∈ [200, 500])
    · exact .listed (by decide : 200 ∈ [200, 500])
  refine (refuses_authenticate r writeScopes).bind_books hrefused fun caller => ?_
  refine (refuses_require Http.QueryFault.isRefusal _).bind_books hrefused fun ids => ?_
  cases ids with
  | none => exact books_timed_bind (books_store _) (hshow caller)
  | some ids => exact books_timed_bind (books_store _) (hshow caller)

lemma books_listTags (r : Http.Request) : (listTags r).Books Route.listTags.Settles := by
  refine (refuses_authenticate r adminScopes).bind_books
    (fun _ => Route.listTags.settles_of_isRefusal) fun _ => ?_
  refine books_timed_bind (books_store _) fun _ => ?_
  exact Route.Counts.tags

end External

namespace Internal

lemma books_listTaggedPolicies (r : Http.Request) :
    (listTaggedPolicies r).Books Route.listTaggedPolicies.Settles := by
  refine (refuses_require Http.QueryFault.isRefusal _).bind_books
    (fun _ => Route.listTaggedPolicies.settles_of_isRefusal) fun ids => ?_
  have hquiet : (listWithTags ids).Books fun events _ => events = [] := by
    cases ids with
    | none => exact fun _ _ => rfl
    | some ids => exact fun _ _ => rfl
  refine books_timed_bind hquiet fun _ => ?_
  exact Route.Counts.listedTagged

lemma books_createSelfPolicy (limit : Nat) (r : Http.Request) :
    (createSelfPolicy limit r).Books Route.createSelfPolicy.Settles := by
  have hrefused := fun e : ApiError => Route.createSelfPolicy.settles_of_isRefusal (e := e)
  refine (refuses_require Http.BodyFault.isRefusal _).bind_books hrefused fun ⟨id, port⟩ => ?_
  refine (refuses_require ValidationError.isRefusal _).bind_books hrefused fun p => ?_
  have hquiet : (createAndListTags p).Books fun events _ => events = [] := by
    rintro (cause | _)
    · rfl
    · exact fun _ => rfl
  refine books_timed_bind hquiet fun result => ?_
  rcases result with cause | tags
  · exact Route.Counts.connected (by decide : 500 ∈ [200, 500])
  · have htags : (require ApiError.store (.ok tags) : Handler (List Tag)) = pure tags := rfl
    rw [htags, pure_bind]
    cases tagOf? tags id with
    | some tag => exact Route.Counts.connected (by decide : 200 ∈ [200, 500])
    | none => exact Route.Counts.connected (by decide : 500 ∈ [200, 500])

end Internal

namespace Route

/-- Whatever its steps are answered, a handler counts what goes with its result. -/
theorem books_handle (limit : Nat) (r : Http.Request) (route : Route) :
    (route.handle limit r).Books route.Settles := by
  cases route with
  | createPolicies => exact External.books_createPolicies limit r
  | deletePolicies => exact External.books_deletePolicies limit r
  | listPolicies => exact External.books_listPolicies r
  | listTags => exact External.books_listTags r
  | listTaggedPolicies => exact Internal.books_listTaggedPolicies r
  | createSelfPolicy => exact Internal.books_createSelfPolicy limit r

/-- The answer itself is counted last. -/
theorem books_answer (limit : Nat) (r : Http.Request) (route : Route) :
    (route.answer limit r).Books fun events response => ∃ earlier,
      events = earlier ++ [.answered route response.status] ∧
        route.Counts earlier response.status := by
  refine Program.Books.bind (books_handle limit r route) fun events result hresult => ?_
  exact ⟨events, rfl, hresult⟩

end Route

end NetworkPolicy
