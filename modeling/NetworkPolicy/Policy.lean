import NetworkPolicy.Ports

/-!
# Policies

A policy permits connections from a source app to a range of ports of a destination app.  Two
policies that say the same are equal, because a destination keeps no spelling of its ports but the
canonical one.

* `Destination`, `Policy` — with `Destination.make` as the one way in from what is written.
* `Policy.validate`, `validatePolicies` — whether both apps are named.
-/

namespace NetworkPolicy

/-- The transport protocol of a connection. -/
inductive Protocol where
  | tcp
  | udp
  deriving DecidableEq, Repr, Hashable

def Protocol.name : Protocol → String
  | .tcp => "tcp"
  | .udp => "udp"

def Protocol.ofName? : String → Option Protocol
  | "tcp" => some .tcp
  | "udp" => some .udp
  | _ => none

/-- The receiving end of a policy. -/
structure Destination where
  id : String
  protocol : Protocol
  range : PortRange
  deriving DecidableEq, Repr, Hashable

namespace Destination

/-- A destination from what is written for it. -/
def make (id : String) (protocol : Protocol) (port : Option UInt16) (ports : Option Ports) :
    Except ValidationError Destination := do
  return ⟨id, protocol, ← reconcile port ports⟩

def ofPort (id : String) (protocol : Protocol) (port : UInt16) :
    Except ValidationError Destination :=
  make id protocol (some port) none

def ofPorts (id : String) (protocol : Protocol) (ports : Ports) :
    Except ValidationError Destination :=
  make id protocol none (some ports)

/-- The port of a destination that covers exactly one. -/
def port? (d : Destination) : Option UInt16 := d.range.single?

end Destination

/-- A permitted connection from the app `source` to a destination. -/
structure Policy where
  source : String
  destination : Destination
  deriving DecidableEq, Repr, Hashable

namespace Policy

/-- The two apps of a policy, source first. -/
def appIds (p : Policy) : List String := [p.source, p.destination.id]

/-- Whether a policy names both of its apps. -/
def validate (p : Policy) : Except ValidationError Unit :=
  if p.source.isEmpty then .error .missingSourceId
  else if p.destination.id.isEmpty then .error .missingDestinationId
  else .ok ()

end Policy

/-- Whether a batch holds a policy, and every policy of it names both of its apps. -/
def validatePolicies (policies : List Policy) : Except ValidationError Unit :=
  if policies.isEmpty then .error .noPolicies else policies.forM Policy.validate

/-- The apps that a batch names, in order and with repetitions. -/
def appIdsOf (policies : List Policy) : List String := policies.flatMap Policy.appIds

theorem appIdsOf_append (a b : List Policy) : appIdsOf (a ++ b) = appIdsOf a ++ appIdsOf b :=
  List.flatMap_append

end NetworkPolicy
