import Mathlib.Tactic.Common
import NetworkPolicy.Proofs.Server.Conservation
import NetworkPolicy.Proofs.Server.Stages

/-!
# Requests and the chunks of their bodies

A body arrives in chunks that are counted against the limit one after the other.  What is made of
it depends on its bytes and its end alone (`Body.read_eq`), so a request whose body is cut in
another way is served by the same program (`Api.answer_congr`), and whoever runs that program sees
no difference.

A request is refused for the size of its body only if that is too large: `Handler.SparesSize` says
of a handler, for all answers to its steps, that it does not.
-/

namespace NetworkPolicy

/-! ## Bodies with the same bytes -/

namespace Http.Body

variable {α : Type} {decoder : Wire.Decoder α} {limit : Nat} {body other : Body}

lemma decode_congr (hbytes : other.bytes = body.bytes) (hfailure : other.failure = body.failure) :
    other.decode decoder limit = body.decode decoder limit := by
  rw [decode, decode, read_eq, read_eq, hbytes, hfailure]

/-- Bytes that are there in full can only be refused for what they spell. -/
lemma eq_undecodable_of_readable (hsize : body.bytes.length ≤ limit)
    (hfailure : body.failure = none) {fault : BodyFault}
    (h : body.decode decoder limit = .error fault) :
    ∃ cause, fault = .undecodable cause := by
  rw [decode_of_readable hsize hfailure] at h
  cases hdecode : Wire.decode decoder (Document.ofBytes body.bytes) with
  | ok value => cases hdecode ▸ h
  | error cause =>
      cases hdecode ▸ h
      exact ⟨cause, rfl⟩

lemma decode_eq_tooLarge_iff {n : Nat} : body.decode decoder limit = .error (.tooLarge n)
    ↔ n = limit ∧ limit < body.bytes.length := by
  constructor
  · intro h
    have hlarge : limit < body.bytes.length := by
      refine Nat.not_le.mp fun hsize => ?_
      cases hfailure : body.failure with
      | some cause => cases (decode_of_unreadable hsize hfailure).symm.trans h
      | none => obtain ⟨_, ⟨⟩⟩ := eq_undecodable_of_readable hsize hfailure h
    cases (decode_of_tooLarge hlarge).symm.trans h
    exact ⟨rfl, hlarge⟩
  · rintro ⟨rfl, hlarge⟩
    exact decode_of_tooLarge hlarge

lemma decode_eq_unreadable_iff {cause : String} :
    body.decode decoder limit = .error (.unreadable cause)
      ↔ body.bytes.length ≤ limit ∧ body.failure = some cause := by
  constructor
  · intro h
    have hsize : body.bytes.length ≤ limit := by
      refine Nat.not_lt.mp fun hlarge => ?_
      cases (decode_of_tooLarge hlarge).symm.trans h
    cases hfailure : body.failure with
    | some cause' =>
        cases (decode_of_unreadable hsize hfailure).symm.trans h
        exact ⟨hsize, rfl⟩
    | none => obtain ⟨_, ⟨⟩⟩ := eq_undecodable_of_readable hsize hfailure h
  · exact fun ⟨hsize, hfailure⟩ => decode_of_unreadable hsize hfailure

end Http.Body

/-! ## Handlers -/

section Congruence

variable {body other : Http.Body}

lemma External.acceptedBatch_congr (hbytes : other.bytes = body.bytes)
    (hfailure : other.failure = body.failure) (limit : Nat) (r : Http.Request) :
    External.acceptedBatch limit { r with body := other }
      = External.acceptedBatch limit { r with body := body } := by
  unfold External.acceptedBatch Handler.readBody
  rw [Http.Body.decode_congr hbytes hfailure]
  rfl

lemma Route.handle_congr (hbytes : other.bytes = body.bytes)
    (hfailure : other.failure = body.failure) (limit : Nat) (r : Http.Request) (route : Route) :
    route.handle limit { r with body := other } = route.handle limit { r with body := body } := by
  cases route with
  | createPolicies =>
      exact congrArg (· >>= _) (External.acceptedBatch_congr hbytes hfailure limit r)
  | deletePolicies =>
      exact congrArg (· >>= _) (External.acceptedBatch_congr hbytes hfailure limit r)
  | createSelfPolicy =>
      unfold Route.handle Internal.createSelfPolicy Handler.readBody
      rw [Http.Body.decode_congr hbytes hfailure]
  | listPolicies | listTags | listTaggedPolicies => rfl

/-- The program that serves a request does not depend on the chunks of its body. -/
lemma Api.answer_congr (hbytes : other.bytes = body.bytes)
    (hfailure : other.failure = body.failure) (limit : Nat) (api : Api) (r : Http.Request) :
    api.answer limit { r with body := other } = api.answer limit { r with body := body } := by
  unfold Api.answer Route.answer
  simp only [Route.handle_congr hbytes hfailure]
  rfl

end Congruence

/-! ## Refusals for the size of a body -/

namespace Handler

variable {α β : Type} {P : α → Prop} {Q : β → Prop}

/-- Whatever its steps are answered, the handler ends with a result that has the property, or with
an error that does not refuse the request for the size of its body. -/
def SparesSize (h : Handler α) (P : α → Prop) : Prop :=
  h.Books fun _ result => match result with
    | .ok a => P a
    | .error e => e.status ≠ .payloadTooLarge

lemma SparesSize.bind {h : Handler α} {f : α → Handler β} (hh : h.SparesSize P)
    (hf : ∀ a, (f a).SparesSize Q) : (h >>= f).SparesSize Q :=
  Books.bind hh (fun _ a _ => hf a) fun _ _ he => he

lemma sparesSize_pure {a : α} (ha : P a) : (pure a : Handler α).SparesSize P := ha

lemma sparesSize_throw {e : ApiError} (he : e.status ≠ .payloadTooLarge) :
    (throw e : Handler α).SparesSize P := he

lemma sparesSize_require {ε : Type} {wrap : ε → ApiError} {result : Except ε α}
    (h : ∀ cause, result = .error cause → (wrap cause).status ≠ .payloadTooLarge) :
    (require wrap result).SparesSize fun _ => True := by
  cases result with
  | ok a => exact sparesSize_pure trivial
  | error cause => exact sparesSize_throw (h cause rfl)

/-- A program of steps has no refusals. -/
lemma sparesSize_ofProgram (p : Program Step.Answer α) :
    (ofProgram p).SparesSize fun _ => True := by
  have hany : p.Books fun _ _ => True := by
    induction p with
    | done a => trivial
    | step op next ih =>
        cases op with
        | lookup q => exact ih
        | store op => exact ih
        | record event => exact ih ()
  exact Program.Books.bind hany fun _ _ _ => trivial

lemma sparesSize_readBody {limit : Nat} {r : Http.Request} {decoder : Wire.Decoder α}
    (hsize : r.body.bytes.length ≤ limit) :
    (readBody decoder limit r).SparesSize fun _ => True := by
  refine sparesSize_require fun fault hfault => ?_
  cases fault with
  | tooLarge n => exact absurd (Http.Body.decode_eq_tooLarge_iff.mp hfault).2 (Nat.not_lt.mpr hsize)
  | unreadable cause | undecodable cause => nofun

end Handler

section Fitting

open Handler

variable {limit : Nat} {r : Http.Request}

namespace External

lemma authError_status_ne (cause : AuthError) :
    (ApiError.auth cause).status ≠ .payloadTooLarge := by
  cases cause with
  | missingHeader | unverified _ | scope _ _ => nofun

lemma sparesSize_authenticate (r : Http.Request) (allowed : List String) :
    (authenticate r allowed).SparesSize fun _ => True := by
  refine (sparesSize_require fun cause _ => authError_status_ne cause).bind fun token => ?_
  refine (sparesSize_ofProgram _).bind fun answer => ?_
  refine (sparesSize_require fun cause _ => authError_status_ne (.unverified cause)).bind ?_
  intro claims
  split
  case isTrue h => exact sparesSize_pure trivial
  case isFalse h => exact sparesSize_throw (authError_status_ne _)

lemma sparesSize_authorize (batch : List Policy) (caller : Claims) :
    (authorize batch caller).SparesSize fun _ => True := by
  refine (sparesSize_ofProgram _).bind fun decision => ?_
  rcases decision with cause | _ | _
  · exact (sparesSize_ofProgram _).bind fun _ => sparesSize_throw (by nofun)
  · exact (sparesSize_ofProgram _).bind fun _ => sparesSize_throw (by nofun)
  · exact sparesSize_ofProgram _

lemma sparesSize_acceptedBatch (hsize : r.body.bytes.length ≤ limit) :
    (acceptedBatch limit r).SparesSize fun _ => True := by
  refine (sparesSize_authenticate r writeScopes).bind fun caller => ?_
  refine (sparesSize_readBody hsize).bind fun batch => ?_
  refine (sparesSize_require fun _ _ => by nofun).bind fun _ => ?_
  exact (sparesSize_authorize batch caller).bind fun _ => sparesSize_pure trivial

end External

/-- A handler of a request whose body fits into the limit does not refuse it for its size. -/
lemma Route.sparesSize_handle (hsize : r.body.bytes.length ≤ limit) (route : Route) :
    (route.handle limit r).SparesSize fun response => response.status ≠ .payloadTooLarge := by
  cases route with
  | createPolicies =>
      refine (External.sparesSize_acceptedBatch hsize).bind fun batch => ?_
      refine (sparesSize_ofProgram _).bind fun answer => ?_
      exact (sparesSize_require fun _ _ => by nofun).bind fun _ => sparesSize_pure (by nofun)
  | deletePolicies =>
      refine (External.sparesSize_acceptedBatch hsize).bind fun batch => ?_
      exact (sparesSize_ofProgram _).bind fun _ => sparesSize_pure (by nofun)
  | listPolicies =>
      refine (External.sparesSize_authenticate r _).bind fun caller => ?_
      refine (sparesSize_require fun _ _ => by nofun).bind fun ids => ?_
      have hshow : ∀ policies : List Policy,
          (ofProgram (guarded (Guard.visible policies caller)) >>= fun seen =>
            require .access seen >>= fun seen => pure (External.policyList seen)).SparesSize
            fun response => response.status ≠ .payloadTooLarge :=
        fun policies => (sparesSize_ofProgram _).bind fun seen =>
          (sparesSize_require fun _ _ => by nofun).bind fun _ => sparesSize_pure (by nofun)
      cases ids with
      | none => exact (sparesSize_ofProgram _).bind hshow
      | some ids => exact (sparesSize_ofProgram _).bind hshow
  | listTags =>
      refine (External.sparesSize_authenticate r _).bind fun _ => ?_
      exact (sparesSize_ofProgram _).bind fun _ => sparesSize_pure (by nofun)
  | listTaggedPolicies =>
      refine (sparesSize_require fun _ _ => by nofun).bind fun ids => ?_
      exact (sparesSize_ofProgram _).bind fun _ => sparesSize_pure (by nofun)
  | createSelfPolicy =>
      refine (sparesSize_readBody hsize).bind fun ⟨id, port⟩ => ?_
      refine (sparesSize_require fun _ _ => by nofun).bind fun p => ?_
      refine (sparesSize_ofProgram _).bind fun result => ?_
      refine (sparesSize_require fun _ _ => by nofun).bind fun tags => ?_
      cases Internal.tagOf? tags id with
      | some tag => exact sparesSize_pure (by nofun)
      | none => exact sparesSize_throw (by nofun)

end Fitting

/-! ## Visits -/

/-- The visit with another body in its request. -/
def Visit.withBody (v : Visit) (body : Http.Body) : Visit :=
  { v with request := { v.request with body } }

namespace Server

/-- The admin service does not look at bodies. -/
lemma administer_status_ne (s : Server) (r : Http.Request) :
    (s.administer r).status ≠ .payloadTooLarge := by
  unfold administer
  split
  case isTrue h =>
    split
    · split
      · nofun
      · nofun
    · nofun
    · nofun
    · nofun
  case isFalse h =>
    split
    · nofun
    · nofun

/-- A body that fits into the limit is not refused for its size, whatever the request is. -/
lemma visit_status_ne {s : Server} {v : Visit}
    (hsize : v.request.body.bytes.length ≤ s.bodyLimit) :
    (s.visit v).1.status ≠ .payloadTooLarge := by
  cases hroute : Route.find? v.api v.request with
  | some route =>
      have hanswer : (route.answer s.bodyLimit v.request).Books
          fun _ response => response.status ≠ .payloadTooLarge := by
        refine Program.Books.bind (Route.sparesSize_handle hsize route) fun _ result hresult => ?_
        cases result with
        | ok response => exact hresult
        | error e => exact hresult
      obtain ⟨_, hstatus, -⟩ := hanswer.exec v.world { s with ready := v.ready }
      rw [visit_eq_exec s hroute]
      exact hstatus
  | none =>
      unfold visit serve
      split
      case isTrue hadmin => exact administer_status_ne _ v.request
      case isFalse hadmin =>
        rw [Api.answer, hroute]
        intro h
        cases h

/-- **A body is read as its bytes.**  It is refused as too large exactly if it has more bytes than
the limit, else as unreadable exactly if the reading fails, and else what counts is what its bytes
spell.  Hence the chunks of a body make no difference to a visit: the same bytes with the same end
get the same answer, reach the same lookups and the same operations on the store, and leave the
same server, also if the lookups are answered in any other way.  A body of no more bytes than the
limit is not refused for its size, whatever else may be wrong with the request. -/
theorem visit_of_bytes (limit : Nat) (body : Http.Body) :
    (∀ (α : Type) (decoder : Wire.Decoder α),
      (∀ n, body.decode decoder limit = .error (.tooLarge n)
        ↔ n = limit ∧ limit < body.bytes.length) ∧
      (∀ cause, body.decode decoder limit = .error (.unreadable cause)
        ↔ body.bytes.length ≤ limit ∧ body.failure = some cause) ∧
      (body.bytes.length ≤ limit → body.failure = none → body.decode decoder limit
        = (Wire.decode decoder (Document.ofBytes body.bytes)).mapError .undecodable)) ∧
    (∀ other : Http.Body, other.bytes = body.bytes → other.failure = body.failure →
      (∀ (s : Server) (v : Visit), s.visit (v.withBody other) = s.visit (v.withBody body) ∧
        s.reached (v.withBody other) = s.reached (v.withBody body)) ∧
      ∀ (m : Type → Type) [Monad m] (ask : (q : Lookup) → m q.Answer) (s : Server) (api : Api)
        (r : Http.Request),
        s.serve ask api { r with body := other } = s.serve ask api { r with body := body }) ∧
    ∀ (s : Server) (v : Visit), body.bytes.length ≤ s.bodyLimit →
      (s.visit (v.withBody body)).1.status ≠ .payloadTooLarge := by
  refine ⟨fun α decoder => ⟨fun n => Http.Body.decode_eq_tooLarge_iff,
    fun cause => Http.Body.decode_eq_unreadable_iff, Http.Body.decode_of_readable⟩,
    fun other hbytes hfailure => ?_, fun s v hsize => visit_status_ne hsize⟩
  have hserve : ∀ (m : Type → Type) [Monad m] (ask : (q : Lookup) → m q.Answer) (s : Server)
      (api : Api) (r : Http.Request),
      s.serve ask api { r with body := other } = s.serve ask api { r with body := body } := by
    intro m _ ask s api r
    unfold serve
    rw [Api.answer_congr hbytes hfailure]
    rfl
  refine ⟨fun s v => ⟨hserve Id v.world { s with ready := v.ready } v.api v.request, ?_⟩, hserve⟩
  exact congrArg (fun p => Program.reached v.world p s.store)
    (Api.answer_congr hbytes hfailure s.bodyLimit v.api v.request)

/-! ### A body that comes byte by byte -/

/-- The body of `loopVisit` in chunks of one byte, with an empty one behind them. -/
def scattered : Http.Body := ⟨loopVisit.request.body.bytes.map ([·]) ++ [[]], none⟩

/-- The app is let reach itself as if its body had come in one piece, and the limit may be as low as
the number of bytes. -/
theorem visit_of_bytes_scattered :
    scattered.chunks.length = 21 ∧ scattered.bytes.length = 20 ∧
    small.visit (loopVisit.withBody scattered) = small.visit loopVisit ∧
    (small.visit loopVisit).1.status = .ok ∧
    (visit { small with bodyLimit := 20 } (loopVisit.withBody scattered)).1.status
      ≠ .payloadTooLarge := by
  have hbytes : scattered.bytes = loopVisit.request.body.bytes := by cbv
  have hlength : scattered.bytes.length = 20 := by cbv
  obtain ⟨-, hchunks, -⟩ := visit_of_bytes 1000 loopVisit.request.body
  obtain ⟨-, -, hfits⟩ := visit_of_bytes 20 scattered
  exact ⟨by cbv, hlength, ((hchunks scattered hbytes rfl).1 small loopVisit).1, by cbv,
    hfits { small with bodyLimit := 20 } loopVisit (Nat.le_of_eq hlength)⟩

end Server

end NetworkPolicy
