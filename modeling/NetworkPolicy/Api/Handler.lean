import NetworkPolicy.Access.Guard
import NetworkPolicy.Http.BodyReader
import NetworkPolicy.Http.Query
import NetworkPolicy.Metrics
import NetworkPolicy.Store

/-!
# Handlers

A handler is a program whose steps are lookups at the collaborators, operations on the store, each
of them atomic, and events that are counted.  It ends with a response or with an error that makes
one.

* `Step` — the steps, with `Step.Answer` as the type of what each of them answers.
* `ApiError` — why a request is not served, with its wording and its status.
* `Handler` — the programs, with the steps they are made of.
-/

namespace NetworkPolicy

/-! ## Steps -/

/-- A step of a handler. -/
inductive Step where
  | lookup (q : Lookup)
  | store (op : Store.Operation)
  | record (event : Metrics.Event)
  deriving DecidableEq, Repr

def Step.Answer : Step → Type
  | .lookup q => q.Answer
  | .store op => op.Answer
  | .record _ => Unit

/-! ## Errors -/

/-- Why a caller is not let in. -/
inductive AuthError where
  | missingHeader
  /-- The token could not be verified. -/
  | unverified (cause : LookupFault)
  /-- The caller holds none of the scopes that are allowed. -/
  | scope (provided allowed : List String)
  deriving DecidableEq, Repr

def AuthError.message : AuthError → String
  | .missingHeader => "missing authorization header"
  | .unverified cause => s!"failed to verify token with uaa: {cause.message}"
  | .scope provided allowed =>
    let provided := " ".intercalate provided
    let allowed := " ".intercalate allowed
    s!"provided scopes [{provided}] do not include allowed scopes [{allowed}]"

/-- The status of the answer to an authentication error. -/
def AuthError.status : AuthError → Http.Status
  | .missingHeader => .unauthorized
  | .unverified _ => .forbidden
  | .scope .. => .forbidden

/-- Why a request is not served. -/
inductive ApiError where
  | auth (cause : AuthError)
  | body (cause : Http.BodyFault)
  | validation (cause : ValidationError)
  | query (cause : Http.QueryFault)
  /-- The caller may not manage the policies. -/
  | denied
  | access (cause : AccessError)
  | store (cause : StoreError)
  /-- An app has no tag although it was just given one. -/
  | missingTag (id : String)
  deriving DecidableEq, Repr

namespace ApiError

def message : ApiError → String
  | .auth cause => cause.message
  | .body cause => cause.message
  | .validation cause => cause.message
  | .query cause => s!"invalid query: {cause.message}"
  | .denied => "one or more applications cannot be found or accessed"
  | .access cause => s!"checking access failed: {cause.message}"
  | .store cause => s!"database create failed: {cause.message}"
  | .missingTag id => s!"no tag found for {id}"

/-- The status of the answer to an error. -/
def status : ApiError → Http.Status
  | .auth cause => cause.status
  | .body cause => cause.status
  | .validation _ => .badRequest
  | .query _ => .badRequest
  | .denied => .forbidden
  | .access _ => .internalServerError
  | .store _ => .internalServerError
  | .missingTag _ => .internalServerError

/-- The answer to a request that is not served. -/
def response (e : ApiError) : Http.Response := .error e.status e.message

end ApiError

/-! ## Handlers -/

/-- A program of steps that may end in an error. -/
abbrev Handler (α : Type) := ExceptT ApiError (Program Step.Answer) α

namespace Handler

def ofProgram {α : Type} (p : Program Step.Answer α) : Handler α :=
  ExceptT.mk (p.bind fun a => .done (.ok a))

/-- A result that has been computed, or the error that it means. -/
def require {ε α : Type} (wrap : ε → ApiError) (result : Except ε α) : Handler α :=
  ExceptT.mk (.done (result.mapError wrap))

def lookup (q : Lookup) : Handler q.Answer := ofProgram (.step (.lookup q) .done)

def record (event : Metrics.Event) : Handler Unit := ofProgram (.step (.record event) .done)

def store (op : Store.Operation) : Program Step.Answer op.Answer := .step (.store op) .done

/-- Uses the store and counts the use, whatever comes out of it. -/
def timed {α : Type} (use : StoreUse) (p : Program Step.Answer α) : Handler α :=
  ofProgram (p.bind fun a => .step (.record (.storeUse use)) fun _ => .done a)

/-- A guarded action with its lookups as steps. -/
def guarded {α : Type} (action : Guard.Action α) : Program Step.Answer (Except AccessError α) :=
  action.run.runM fun q => .step (.lookup q) .done

def readBody {α : Type} (decoder : Wire.Decoder α) (limit : Nat) (r : Http.Request) : Handler α :=
  require .body (r.body.decode decoder limit)

end Handler

end NetworkPolicy
