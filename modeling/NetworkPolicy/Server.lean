import NetworkPolicy.Api.External
import NetworkPolicy.Api.Internal

/-!
# The server

Three services over one store and one set of metrics.

* `Server` — the state.
* `Route.answer`, `Api.answer` — the whole answer to a request that takes a route, and to any
  request to the external or the internal service, as programs of steps.
* `Server.serve` — the response to any request and the state after it, with lookups answered in any
  monad.
-/

namespace NetworkPolicy

/-- The state of the server and what it was set up with. -/
structure Server where
  store : Store
  metrics : Metrics
  ready : Bool
  /-- How many bytes the body of a request may have. -/
  bodyLimit : Nat
  /-- Whether the services can read tags; if not, they find none. -/
  showsTags : Bool := true

namespace Route

def handle (limit : Nat) (r : Http.Request) : Route → Handler Http.Response
  | .createPolicies => External.createPolicies limit r
  | .deletePolicies => External.deletePolicies limit r
  | .listPolicies => External.listPolicies r
  | .listTags => External.listTags r
  | .listTaggedPolicies => Internal.listTaggedPolicies r
  | .createSelfPolicy => Internal.createSelfPolicy limit r

/-- The response of a handler, whether it ends well or not. -/
def respond : Except ApiError Http.Response → Http.Response
  | .ok response => response
  | .error e => e.response

/-- Answers a request that takes the route, and counts the answer. -/
def answer (limit : Nat) (r : Http.Request) (route : Route) :
    Program Step.Answer Http.Response := do
  let response := respond (← (route.handle limit r).run)
  .step (.record (.answered route response.status)) fun _ => return response

end Route

/-- Answers a request to the external or the internal service. -/
def Api.answer (limit : Nat) (api : Api) (r : Http.Request) :
    Program Step.Answer Http.Response :=
  match Route.find? api r with
  | none => return .notFound
  | some route => route.answer limit r

namespace Server

variable {m : Type → Type} [Monad m]

def new (width : TagWidth) (bodyLimit : Nat) (ready : Bool) : Server where
  store := .new width
  metrics := .empty
  ready
  bodyLimit

def operate (s : Server) (op : Store.Operation) : op.Answer × Server :=
  let (answer, store) := s.store.perform op
  (answer, { s with store })

/-- Carries out a step; lookups are answered by `ask`. -/
def perform (ask : (q : Lookup) → m q.Answer) : (step : Step) → StateT Server m step.Answer
  | .lookup q => fun s => do return (← ask q, s)
  | .store .tags => fun s => return (if s.showsTags then s.store.tags else [], s)
  | .store op => fun s => return s.operate op
  | .record event => fun s => return ((), { s with metrics := s.metrics.record event })

def administer (s : Server) (r : Http.Request) : Http.Response :=
  if r.method = "GET" ∨ r.method = "HEAD" then
    match r.path with
    | "/ready" =>
      if s.ready then ⟨.ok, .text "ready\n"⟩ else ⟨.internalServerError, .text "not ready\n"⟩
    | "/live" => ⟨.ok, .text "live\n"⟩
    | "/metrics" => ⟨.ok, .metrics s.metrics.lines⟩
    | _ => .notFound
  else if r.path = "/ready" ∨ r.path = "/live" ∨ r.path = "/metrics" then
    .empty .methodNotAllowed
  else .notFound

/-- The response to a request to one of the services, and the server after it. -/
def serve (ask : (q : Lookup) → m q.Answer) (s : Server) (api : Api) (r : Http.Request) :
    m (Http.Response × Server) :=
  if api = .admin then return (s.administer r, s)
  else ((api.answer s.bodyLimit r).runM (perform ask)).run s

end Server

end NetworkPolicy
