import NetworkPolicy.Http.Message
import NetworkPolicy.Wire.Decoder

/-!
# Reading bodies

A body is read chunk by chunk against an allowance of bytes and decoded when it is there in full.

* `Http.Body.read` — the bytes of a body.
* `Http.Body.decode` — the value that they spell.
-/

namespace NetworkPolicy.Http

/-- Why a body is refused. -/
inductive BodyFault where
  /-- There are more bytes than `limit`. -/
  | tooLarge (limit : Nat)
  /-- The reading failed. -/
  | unreadable (cause : String)
  | undecodable (fault : Wire.Fault)
  deriving DecidableEq, Repr

namespace BodyFault

def message : BodyFault → String
  | .tooLarge limit => s!"request body exceeds {limit} bytes"
  | .unreadable cause => s!"failed reading request body: {cause}"
  | .undecodable fault => s!"invalid values passed to API: {fault.message}"

/-- The status of the answer to a refused body. -/
def status : BodyFault → Status
  | .tooLarge _ => .payloadTooLarge
  | .unreadable _ => .badRequest
  | .undecodable _ => .badRequest

end BodyFault

namespace Body

/-- Reads chunks of which `allowance` bytes are still allowed. -/
def readChunks (limit : Nat) (failure : Option String) :
    (allowance : Nat) → List (List UInt8) → Except BodyFault (List UInt8)
  | _, [] =>
    match failure with
    | none => .ok []
    | some cause => .error (.unreadable cause)
  | allowance, chunk :: chunks =>
    if chunk.length ≤ allowance then
      (readChunks limit failure (allowance - chunk.length) chunks).map (chunk ++ ·)
    else .error (.tooLarge limit)

/-- The bytes of a body that has at most `limit` of them. -/
def read (limit : Nat) (body : Body) : Except BodyFault (List UInt8) :=
  readChunks limit body.failure limit body.chunks

def decode {α : Type} (decoder : Wire.Decoder α) (limit : Nat) (body : Body) :
    Except BodyFault α := do
  let bytes ← body.read limit
  (Wire.decode decoder (Document.ofBytes bytes)).mapError .undecodable

end Body

end NetworkPolicy.Http
