import NetworkPolicy.Api.Handler
import NetworkPolicy.Wire.Form

/-!
# The external service

Operators and developers create, delete and list policies, and operators list tags.  Each request
is decided by the first of these that fails: the token, its scopes, the body, the batch itself,
access to its apps, and the store.

* `External.authenticate`, `External.authorize` — who the caller is, and whether a batch is theirs.
* `External.createPolicies`, `External.deletePolicies`, `External.listPolicies`,
  `External.listTags` — the handlers.
-/

namespace NetworkPolicy.External

open Handler

/-! ## Callers -/

/-- The scopes that let a caller manage and list policies. -/
def writeScopes : List String := [Claims.adminScope, Claims.writeScope]

/-- The scopes that let a caller list tags. -/
def adminScopes : List String := [Claims.adminScope]

/-- Whether a header value is text: printable ASCII and tabs. -/
def isHeaderText (value : String) : Bool :=
  value.toList.all fun c => c = '\t' || (0x20 ≤ c.toNat && c.toNat < 0x7F)

/-- The token of a header value: one `Bearer` with a space is removed from its front. -/
def bearerToken (value : String) : String :=
  if "Bearer ".toList.isPrefixOf value.toList || "bearer ".toList.isPrefixOf value.toList then
    String.ofList (value.toList.drop 7)
  else value

def requestToken (r : Http.Request) : Except AuthError String :=
  match r.header? "authorization" with
  | some value => if isHeaderText value then .ok (bearerToken value) else .error .missingHeader
  | none => .error .missingHeader

/-- The claims of a caller who holds one of the scopes in `allowed`. -/
def authenticate (r : Http.Request) (allowed : List String) : Handler Claims := do
  let token ← require .auth (requestToken r)
  let claims : Claims ← require (.auth ∘ .unverified) (← lookup (.checkToken token))
  if claims.hasAnyScope allowed then return claims
  else throw (.auth (.scope claims.scopes allowed))

/-- Lets a caller go on who may manage all of the policies, and counts how that was decided. -/
def authorize (policies : List Policy) (caller : Claims) : Handler Unit := do
  match ← ofProgram (guarded (Guard.check policies caller)) with
  | .ok true => record (.access .authorized)
  | .ok false =>
    record (.access .denied)
    throw .denied
  | .error cause =>
    record (.access .failed)
    throw (.access cause)

/-! ## Bodies -/

/-- The policies of a request to create or delete some. -/
def policiesRequest : Wire.Decoder (List Policy) := fun draft => do
  let (policies, ()) ← Wire.record "PoliciesRequest"
    (Wire.Fields.cons "policies" none Wire.policies .nil) draft
  return policies

/-- The answer to a batch that has been carried out. -/
def done : Http.Response := ⟨.ok, .json (.object [])⟩

def policyList (policies : List Policy) : Http.Response :=
  ⟨.ok, .json (.object [("total_policies", .number policies.length),
    ("policies", Wire.policiesJson policies)])⟩

def tagList (tags : List Tag) : Http.Response :=
  let item (tag : Tag) : Json := .object [("id", .string tag.id), ("tag", .string tag.tag)]
  ⟨.ok, .json (.object [("tags", .array (tags.map item))])⟩

/-! ## Handlers -/

/-- The batch of a request that its caller may carry out. -/
def acceptedBatch (limit : Nat) (r : Http.Request) : Handler (List Policy) := do
  let caller ← authenticate r writeScopes
  let policies ← readBody policiesRequest limit r
  require .validation (validatePolicies policies)
  authorize policies caller
  return policies

def createPolicies (limit : Nat) (r : Http.Request) : Handler Http.Response := do
  let policies ← acceptedBatch limit r
  require .store (← timed .create (store (.create policies)))
  return done

def deletePolicies (limit : Nat) (r : Http.Request) : Handler Http.Response := do
  let policies ← acceptedBatch limit r
  let () ← timed .delete (store (.delete policies))
  return done

/-- Lists the policies that the caller may see. -/
def listPolicies (r : Http.Request) : Handler Http.Response := do
  let caller ← authenticate r writeScopes
  let policies ← match ← require .query (Http.queryIds r.query) with
    | some ids => timed .list (store (.byGuids ids))
    | none => timed .list (store .all)
  let policies ← require .access (← ofProgram (guarded (Guard.visible policies caller)))
  return policyList policies

def listTags (r : Http.Request) : Handler Http.Response := do
  let _ ← authenticate r adminScopes
  let tags ← timed .tags (store .tags)
  return tagList tags

end NetworkPolicy.External
