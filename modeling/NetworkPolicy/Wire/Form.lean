import NetworkPolicy.Caller
import NetworkPolicy.Json.Value
import NetworkPolicy.Policy
import NetworkPolicy.Wire.Decoder

/-!
# The wire form of policies, claims and spaces

Each type has its decoder and, where the program writes it, its JSON value; fields are written in
the order in which they are declared.  A destination is reconciled as soon as it has been read, and
its canonical range is always written, the single port only where there is one.
-/

namespace NetworkPolicy.Wire

/-! ## Ports and protocols -/

def portsFields :=
  Fields.cons "start" none port (.cons "end" none port .nil)

def ports : Decoder Ports := fun draft => do
  let (first, last, ()) ← record "Ports" portsFields draft
  return ⟨first, last⟩

def portJson (port : UInt16) : Json := .number port.toNat

/-- The JSON value of a pair of ports. -/
def portsJson (ports : Ports) : Json :=
  .object [("start", portJson ports.first), ("end", portJson ports.last)]

def protocolOfName (name : String) : Except Fault Protocol :=
  match Protocol.ofName? name with
  | some protocol => .ok protocol
  | none => .error (.unknownProtocol name)

/-- A protocol: its name, or an object whose one key is its name and whose value is null.  A value
of any other kind is a fault of syntax. -/
def protocol : Decoder Protocol
  | .string (some name) => protocolOfName name
  | .object ((some name, value) :: others) closed => do
    let protocol ← protocolOfName name
    unit value
    if others.isEmpty && closed then .ok protocol else .error .malformed
  | _ => .error .malformed

/-! ## Policies -/

def destinationFields :=
  Fields.cons "id" none text (.cons "protocol" none protocol
    (.cons "port" (some none) (optional port) (.cons "ports" (some none) (optional ports) .nil)))

def destination : Decoder Destination := fun draft => do
  let (id, protocol, port, ports, ()) ← record "RawDestination" destinationFields draft
  (Destination.make id protocol port ports).mapError .invalid

def destinationJson (d : Destination) : Json :=
  .object ([("id", .string d.id), ("protocol", .string d.protocol.name)] ++
    (d.port?.map fun port => ("port", portJson port)).toList ++
    [("ports", portsJson d.range.ports)])

def source : Decoder String := fun draft => do
  let (id, ()) ← record "Source" (Fields.cons "id" none text .nil) draft
  return id

def policyFields :=
  Fields.cons "source" none source (.cons "destination" none destination .nil)

def policy : Decoder Policy := fun draft => do
  let (source, destination, ()) ← record "Policy" policyFields draft
  return ⟨source, destination⟩

def policyJson (p : Policy) : Json :=
  .object [("source", .object [("id", .string p.source)]),
    ("destination", destinationJson p.destination)]

def policies : Decoder (List Policy) := list policy

/-- The JSON value of a list of policies. -/
def policiesJson (policies : List Policy) : Json := .array (policies.map policyJson)

/-! ## Claims and spaces -/

/-- The fields of claims; each of them may be left out. -/
def claimsFields :=
  Fields.cons "scope" (some []) (list text)
    (.cons "user_id" (some "") text (.cons "user_name" (some "") text .nil))

def claims : Decoder Claims := fun draft => do
  let (scopes, userId, userName, ()) ← record "TokenClaims" claimsFields draft
  return ⟨scopes, userId, userName⟩

def claimsJson (c : Claims) : Json :=
  .object [("scope", .array (c.scopes.map .string)), ("user_id", .string c.userId),
    ("user_name", .string c.userName)]

def spaceFields :=
  Fields.cons "name" none text (.cons "org_guid" none text .nil)

def space : Decoder Space := fun draft => do
  let (name, orgGuid, ()) ← record "Space" spaceFields draft
  return ⟨name, orgGuid⟩

def spaceJson (s : Space) : Json :=
  .object [("name", .string s.name), ("org_guid", .string s.orgGuid)]

end NetworkPolicy.Wire
