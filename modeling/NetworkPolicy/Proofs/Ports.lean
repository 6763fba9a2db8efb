import Mathlib.Tactic.Common
import NetworkPolicy.Policy
import NetworkPolicy.Proofs.Except

/-!
# The canonical range of a spelling

The ports of a destination may be written as a port, as a range, or as a range of one port with that
port beside it (`SpellsPorts`).  A spelling is accepted exactly if the ports that it describes are
the two ends of a range, and then it is reconciled to that range (`reconcile_eq_ok_iff`).  The port
that is kept beside a range is derived from its ends (`Ports.single?_eq_some_iff`), so it makes no
difference between ranges (`PortRange.ports_injective`).  What is kept then depends on the ports
alone and not on the spelling, and a range is the canonical one of its own ends, also when its port
is written beside them (`reconcile_written`).
-/

namespace NetworkPolicy

/-- The ways to write the ports of a destination. -/
inductive SpellsPorts : Option UInt16 → Option Ports → Ports → Prop where
  | port (port : UInt16) : SpellsPorts (some port) none (.single port)
  | range (ports : Ports) : SpellsPorts none (some ports) ports
  | both (port : UInt16) : SpellsPorts (some port) (some (.single port)) (.single port)

variable {port : Option UInt16} {ports : Option Ports} {range : PortRange}

lemma spelledPorts_eq_ok_iff {spelled : Ports} :
    spelledPorts port ports = .ok spelled ↔ SpellsPorts port ports spelled := by
  constructor
  · intro h
    cases port with
    | none =>
        cases ports with
        | none => cases h
        | some ports =>
            cases h
            exact .range _
    | some port =>
        cases ports with
        | none =>
            cases h
            exact .port port
        | some ports =>
            by_cases hsame : ports.first = port ∧ ports.last = port
            · have hsingle : ports = .single port := congrArg₂ Ports.mk hsame.1 hsame.2
              rw [spelledPorts, if_pos hsame, hsingle] at h
              cases h
              rw [hsingle]
              exact .both port
            · rw [spelledPorts, if_neg hsame] at h
              cases h
  · rintro (port | ports | port)
    · rfl
    · rfl
    · exact if_pos ⟨rfl, rfl⟩

lemma Ports.single?_eq_some_iff {ports : Ports} {p : UInt16} :
    ports.single? = some p ↔ p = ports.first ∧ ports.first = ports.last := by
  by_cases h : ports.first = ports.last
  · rw [single?, isSingle, beq_iff_eq.mpr h, if_pos rfl, Option.some.injEq, eq_comm, and_iff_left h]
  · rw [single?, isSingle, beq_eq_false_iff_ne.mpr h, if_neg Bool.false_ne_true]
    exact iff_of_false nofun fun hp => h hp.2

/-- The ends of a range leave no choice of the port beside it. -/
lemma PortRange.ports_injective : Function.Injective PortRange.ports := by
  rintro ⟨first, last, _, _, _, rfl⟩ ⟨first', last', _, _, _, rfl⟩ h
  obtain ⟨rfl, rfl⟩ : first = first' ∧ last = last' := Ports.mk.inj h
  rfl

lemma toRange_eq_ok_iff {ports : Ports} : ports.toRange = .ok range ↔ range.ports = ports := by
  unfold Ports.toRange
  constructor
  · intro h
    split at h
    case isTrue h₁ =>
      split at h
      case isTrue h₂ =>
        split at h
        case isTrue h₃ =>
          cases h
          rfl
        case isFalse h₃ => cases h
      case isFalse h₂ => cases h
    case isFalse h₁ => cases h
  · rintro rfl
    obtain ⟨first, last, _, hfirst, hle, rfl⟩ := range
    have hlast : 0 < last := UInt16.lt_of_lt_of_le hfirst hle
    simp [PortRange.ports, hfirst, hlast, hle]

/-- A spelling is reconciled to the range whose ends it describes. -/
lemma reconcile_eq_ok_iff :
    reconcile port ports = .ok range ↔ SpellsPorts port ports range.ports := by
  unfold reconcile
  rw [bind_eq_ok_iff]
  constructor
  · rintro ⟨spelled, hspelled, hrange⟩
    rw [toRange_eq_ok_iff.mp hrange]
    exact spelledPorts_eq_ok_iff.mp hspelled
  · exact fun h => ⟨range.ports, spelledPorts_eq_ok_iff.mpr h, toRange_eq_ok_iff.mpr rfl⟩

lemma reconcile_none_eq_ok_iff :
    reconcile port none = .ok range ↔ port = some range.first ∧ range.last = range.first := by
  rw [reconcile_eq_ok_iff]
  constructor
  · generalize hports : range.ports = spelled
    rintro ⟨⟩
    have hfirst : range.first = _ := congrArg Ports.first hports
    have hlast : range.last = _ := congrArg Ports.last hports
    exact ⟨congrArg some hfirst.symm, hlast.trans hfirst.symm⟩
  · rintro ⟨rfl, hlast⟩
    rw [PortRange.ports, hlast]
    exact .port range.first

/-- The spelling that is written for a range is reconciled to it. -/
lemma reconcile_written (range : PortRange) :
    reconcile range.single? (some range.ports) = .ok range := by
  rw [reconcile_eq_ok_iff]
  cases h : range.single? with
  | none => exact .range range.ports
  | some p =>
      have hport : Ports.single? range.ports = some p := range.single?_eq.symm.trans h
      obtain ⟨rfl, hsame⟩ := Ports.single?_eq_some_iff.mp hport
      have hsingle : range.ports = .single range.ports.first := congrArg (Ports.mk _) hsame.symm
      rw [hsingle]
      exact .both _

lemma Destination.make_eq_ok_iff {id : String} {protocol : Protocol} {d : Destination} :
    make id protocol port ports = .ok d
      ↔ d.id = id ∧ d.protocol = protocol ∧ SpellsPorts port ports d.range.ports := by
  unfold make
  simp only [bind_eq_ok_iff, reconcile_eq_ok_iff]
  constructor
  · rintro ⟨range, hrange, ⟨⟩⟩
    exact ⟨rfl, rfl, hrange⟩
  · rintro ⟨rfl, rfl, hrange⟩
    exact ⟨d.range, hrange, rfl⟩

lemma Destination.make_written (d : Destination) :
    make d.id d.protocol d.port? (some d.range.ports) = .ok d := by
  rw [make, Destination.port?, reconcile_written]
  rfl

end NetworkPolicy
