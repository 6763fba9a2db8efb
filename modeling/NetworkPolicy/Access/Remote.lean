import NetworkPolicy.Access.Lookup
import NetworkPolicy.Http.Url
import NetworkPolicy.Text.Base64
import NetworkPolicy.Wire.Resource

/-!
# Lookups over the network

How the identity provider and the platform's directory are asked, and how their replies are read.

* `Remote` — where they are, and the name and the secret that the identity provider knows this
  server by.
* `Remote.call?` — the request that a lookup makes, if one can be made.
* `Remote.read` — what a reply to it means.
* `Remote.answer` — both, with the exchange left to whoever runs it.
-/

namespace NetworkPolicy

/-- A request to a collaborator. -/
structure Call where
  method : String
  url : Url
  authorization : String
  /-- The content type of the body, if there is a body. -/
  contentType : Option String
  body : String
  deriving DecidableEq, Repr

def Call.accept : String := "application/json"

/-- A reply to a call. -/
structure Reply where
  status : Nat
  body : List UInt8
  deriving DecidableEq, Repr

/-- Where the collaborators are and how this server is known to them. -/
structure Remote where
  identityUrl : String
  clientName : String
  clientSecret : String
  directoryUrl : String
  deriving DecidableEq, Repr

namespace Remote

/-! ## Asking -/

/-- The credentials of a name and a password. -/
def basicCredentials (name password : String) : String :=
  String.ofList ("Basic ".toList ++
    Base64.encode (Utf8.bytes (name.toList ++ ':' :: password.toList)))

/-- The call that sends a form to the identity provider. -/
def formCall? (r : Remote) (path : String) (form : List (String × String)) : Option Call := do
  return {
    method := "POST"
    url := ← Url.parse? (Url.join r.identityUrl path)
    authorization := basicCredentials r.clientName r.clientSecret
    contentType := some "application/x-www-form-urlencoded"
    body := Form.encodePairs form }

/-- The address of a question to the directory. -/
def directoryAddress (r : Remote) (path : String) (query : List (String × String)) : String :=
  let address := Url.join r.directoryUrl path
  if query.isEmpty then address else address ++ "?" ++ Form.encodePairs query

/-- Whether a token can be the value of a header: of the controls it may hold only tabs. -/
def isHeaderToken (token : String) : Bool :=
  token.toList.all fun c => c = '\t' || (0x20 ≤ c.toNat && c.toNat ≠ 0x7F)

/-- The call that puts a question to the directory. -/
def directoryCall? (r : Remote) (token path : String) (query : List (String × String)) :
    Option Call := do
  let url ← Url.parse? (r.directoryAddress path query)
  if isHeaderToken token then
    return ⟨"GET", url, "Bearer " ++ token, none, ""⟩
  else none

/-- How many apps a page may hold at most. -/
def pageSize : Nat := 5000

def appsQuery (apps : List String) : List (String × String) :=
  [("guids", ",".intercalate apps), ("per_page", toString pageSize)]

/-- The query for a space among those of a user. -/
def membershipQuery (space : Space) : List (String × String) :=
  [("q", "name:" ++ space.name), ("q", "organization_guid:" ++ space.orgGuid)]

/-- The form that asks for the claims of a token. -/
def tokenForm (token : String) : List (String × String) := [("token", token)]

def call? (r : Remote) : Lookup → Option Call
  | .serviceToken => r.formCall? "/oauth/token" [("grant_type", "client_credentials")]
  | .checkToken token => r.formCall? "/check_token" (tokenForm token)
  | .spaceGuids token apps => r.directoryCall? token "/v3/apps" (appsQuery apps)
  | .appSpaces token apps => r.directoryCall? token "/v3/apps" (appsQuery apps)
  | .space token guid => r.directoryCall? token ("/v2/spaces/" ++ guid) []
  | .userSpace token user space =>
    r.directoryCall? token ("/v2/users/" ++ user ++ "/spaces") (membershipQuery space)

/-! ## Reading replies -/

/-- What a reply spells.  A status other than success is a fault, whatever the body. -/
def decode {α : Type} (decoder : Wire.Decoder α) (reply : Reply) : Except LookupFault α :=
  if 200 ≤ reply.status ∧ reply.status < 300 then
    (Wire.decode decoder (Document.ofBytes reply.body)).mapError .undecodable
  else .error (.status reply.status (Utf8.lossy reply.body))

/-- The space of a page that may hold one at most. -/
def onlySpace : List Space → Except LookupFault (Option Space)
  | [] => .ok none
  | [space] => .ok (some space)
  | _ => .error .severalSpaces

/-- What a reply to a lookup means. -/
def read : (q : Lookup) → Reply → q.Answer
  | .serviceToken, reply => decode Wire.token reply
  | .checkToken _, reply => decode Wire.claims reply
  | .spaceGuids .., reply => (decode Wire.apps reply).map fun apps => apps.map Prod.snd
  | .appSpaces .., reply => decode Wire.apps reply
  | .space .., reply =>
    if reply.status = 404 then .ok none else (decode Wire.spaceResource reply).map some
  | .userSpace .., reply => do onlySpace (← decode Wire.spacePage reply)

/-- The answer to a lookup of which a call may have been made and a reply may have come. -/
def readOrFail (q : Lookup) : Option Reply → q.Answer
  | some reply => read q reply
  | none => .error .unsent

def answer {m : Type → Type} [Monad m] (r : Remote) (exchange : Call → m (Option Reply))
    (q : Lookup) : m q.Answer :=
  match r.call? q with
  | some call => do return readOrFail q (← exchange call)
  | none => return readOrFail q none

end Remote

end NetworkPolicy
