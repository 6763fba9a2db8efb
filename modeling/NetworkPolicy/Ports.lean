/-!
# Ports of a destination

A destination may be written with a single port, with a range of ports, or with both.  Whatever the
spelling, one canonical range comes out of it, or the first thing that is wrong with it.

* `Ports` — two ports as they are written, with no promise about them.
* `PortRange` — a range of ports that may be connected to, with its port if it has no other.
* `reconcile` — the canonical range of a spelling.
-/

namespace NetworkPolicy

/-- Two ports as they are written: the first and the last one of a range. -/
structure Ports where
  first : UInt16
  last : UInt16
  deriving DecidableEq, Repr

def Ports.single (port : UInt16) : Ports := ⟨port, port⟩

def Ports.isSingle (ports : Ports) : Bool := ports.first == ports.last

/-- The port of a range that covers exactly one. -/
def Ports.single? (ports : Ports) : Option UInt16 :=
  if ports.isSingle then some ports.first else none

/-- A nonempty range of ports, none of them zero.  The port of a range that has no other is kept
beside it. -/
structure PortRange where
  first : UInt16
  last : UInt16
  single? : Option UInt16
  first_pos : 0 < first
  first_le_last : first ≤ last
  single?_eq : single? = Ports.single? ⟨first, last⟩
  deriving DecidableEq, Repr

instance : Hashable PortRange where
  hash range := mixHash (hash range.single?) (mixHash (hash range.first) (hash range.last))

def PortRange.ports (range : PortRange) : Ports := ⟨range.first, range.last⟩

/-- Why a destination or a policy is refused. -/
inductive ValidationError where
  /-- The port and the range do not describe the same single port. -/
  | portMismatch
  /-- Neither a port nor a range is given. -/
  | missingPort
  | invalidPort (port : UInt16)
  | invalidRange (first last : UInt16)
  | missingSourceId
  | missingDestinationId
  | noPolicies
  deriving DecidableEq, Repr

def ValidationError.message : ValidationError → String
  | .portMismatch => "ports and port mismatch"
  | .missingPort => "destination must specify a port or a port range"
  | .invalidPort port => s!"invalid port {port.toNat}: ports must be between 1 and 65535"
  | .invalidRange first last =>
    s!"invalid port range {first.toNat}-{last.toNat}: start must not be greater than end"
  | .missingSourceId => "missing source id"
  | .missingDestinationId => "missing destination id"
  | .noPolicies => "missing policies"

/-- The range between two ports.  A zero at the lower end is reported first, then one at the upper
end, then an order that is reversed. -/
def Ports.toRange (ports : Ports) : Except ValidationError PortRange :=
  if h₁ : 0 < ports.first then
    if 0 < ports.last then
      if h₂ : ports.first ≤ ports.last then
        .ok ⟨ports.first, ports.last, ports.single?, h₁, h₂, rfl⟩
      else .error (.invalidRange ports.first ports.last)
    else .error (.invalidPort ports.last)
  else .error (.invalidPort ports.first)

/-- The two ports that a spelling describes, before it is known whether they make a range. -/
def spelledPorts : Option UInt16 → Option Ports → Except ValidationError Ports
  | none, none => .error .missingPort
  | some port, none => .ok (.single port)
  | none, some ports => .ok ports
  | some port, some ports =>
    if ports.first = port ∧ ports.last = port then .ok ports else .error .portMismatch

/-- The canonical range of a destination that is written with `port` and `ports`. -/
def reconcile (port : Option UInt16) (ports : Option Ports) : Except ValidationError PortRange := do
  (← spelledPorts port ports).toRange

end NetworkPolicy
