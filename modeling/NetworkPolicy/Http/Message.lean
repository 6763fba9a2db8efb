import NetworkPolicy.Http.Status
import NetworkPolicy.Json.Value

/-!
# Requests and responses

* `Http.Body` — the body of a request: chunks of bytes that are read one after the other, and the
  failure that the reading may end with.
* `Http.Request`, with `Request.splitTarget` for the path and the query of a target.
* `Http.Response` — a status and a payload, which determines the content type.
-/

namespace NetworkPolicy.Http

/-! ## Requests -/

/-- The body of a request as it arrives. -/
structure Body where
  chunks : List (List UInt8)
  /-- The text of the failure that the reading ends with after the last chunk. -/
  failure : Option String
  deriving DecidableEq, Repr

def Body.ofBytes (bytes : List UInt8) : Body := ⟨[bytes], none⟩

/-- A request. -/
structure Request where
  method : String
  path : String
  query : Option String
  headers : List (String × String)
  body : Body
  deriving DecidableEq, Repr

namespace Request

/-- The path and the query of a target.  A fragment belongs to neither. -/
def splitTarget (target : String) : String × Option String :=
  let chars := target.toList.takeWhile (· ≠ '#')
  let path := String.ofList (chars.takeWhile (· ≠ '?'))
  match chars.dropWhile (· ≠ '?') with
  | [] => (path, none)
  | _ :: query => (path, some (String.ofList query))

/-- The first value of the header with the given lower-case name. -/
def header? (r : Request) (name : String) : Option String :=
  (r.headers.find? fun entry => entry.1.toLower = name).map Prod.snd

end Request

/-! ## Responses -/

/-- What a response carries. -/
inductive Payload where
  | empty
  | json (value : Json)
  | text (s : String)
  /-- Metrics, a line each. -/
  | metrics (lines : List String)

/-- A response. -/
structure Response where
  status : Status
  payload : Payload

namespace Payload

def contentType? : Payload → Option String
  | .empty => none
  | .json _ => some "application/json"
  | .text _ => some "text/plain"
  | .metrics _ => some "text/plain"

def body : Payload → String
  | .empty => ""
  | .json value => value.render
  | .text s => s
  | .metrics lines => String.join (lines.map (· ++ "\n"))

end Payload

namespace Response

/-- A response without content. -/
def empty (status : Status) : Response := ⟨status, .empty⟩

/-- The answer to a request for which there is no route. -/
def notFound : Response := empty .notFound

def error (status : Status) (message : String) : Response :=
  ⟨status, .json (.object [("error", .string message)])⟩

end Response

end NetworkPolicy.Http
