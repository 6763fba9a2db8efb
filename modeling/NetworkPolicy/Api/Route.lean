import NetworkPolicy.Http.Message

/-!
# Routes

* `Api` — the three services.
* `Route` — what can be asked of the external and the internal one.
* `Route.find?` — the route of a request: method and path have to match, but for slashes at the end
  of the path.
-/

namespace NetworkPolicy

/-- The services that listen for requests. -/
inductive Api where
  /-- For operators and developers. -/
  | external
  /-- For the agents that enforce policies. -/
  | internal
  /-- For readiness, liveness and metrics. -/
  | admin
  deriving DecidableEq, Repr

def Api.name : Api → String
  | .external => "external"
  | .internal => "internal"
  | .admin => "admin"

/-- What can be asked of the external and the internal service. -/
inductive Route where
  | createPolicies
  | deletePolicies
  | listPolicies
  | listTags
  | listTaggedPolicies
  | createSelfPolicy
  deriving DecidableEq, Repr

namespace Route

def all : List Route :=
  [createPolicies, deletePolicies, listPolicies, listTags, listTaggedPolicies, createSelfPolicy]

def api : Route → Api
  | .createPolicies | .deletePolicies | .listPolicies | .listTags => .external
  | .listTaggedPolicies | .createSelfPolicy => .internal

def name : Route → String
  | .createPolicies => "create_policies"
  | .deletePolicies => "delete_policies"
  | .listPolicies => "list_policies"
  | .listTags => "list_tags"
  | .listTaggedPolicies => "list_tagged_policies"
  | .createSelfPolicy => "create_self_policy"

def method : Route → String
  | .createPolicies | .deletePolicies | .createSelfPolicy => "POST"
  | .listPolicies | .listTags | .listTaggedPolicies => "GET"

def path : Route → String
  | .createPolicies | .listPolicies => "/networking/v0/external/policies"
  | .deletePolicies => "/networking/v0/external/policies/delete"
  | .listTags => "/networking/v0/external/tags"
  | .listTaggedPolicies => "/networking/v0/internal/policies"
  | .createSelfPolicy => "/networking/v0/internal/create-self-policy"

/-- A path without the slashes at its end. -/
def withoutSlashes (path : String) : String :=
  String.ofList (path.toList.reverse.dropWhile (· = '/')).reverse

/-- Whether a request to a service takes a route. -/
def matchesRequest (api : Api) (r : Http.Request) (route : Route) : Bool :=
  route.api = api && route.method = r.method && route.path = withoutSlashes r.path

/-- The route of a request to a service. -/
def find? (api : Api) (r : Http.Request) : Option Route := all.find? (matchesRequest api r)

end Route

end NetworkPolicy
