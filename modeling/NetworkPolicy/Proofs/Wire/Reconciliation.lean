import Mathlib.Order.WellFounded
import Mathlib.Tactic.Common
import NetworkPolicy.Proofs.Ports
import NetworkPolicy.Wire.Form

/-!
# Canonical ports on every path

Reconciliation is described twice here without its own case analysis: by the ports that are given
(`givenPorts`), which it keeps when it succeeds, and by the faults that they have (`HasFault`).
Several faults can be there at once, so they are ranked, and the error is that of the first one
(`reconcile_eq_error_iff`).

Every way to a destination goes through reconciliation (`Destination.Obtained`), by a constructor
or by being read, so what comes out has one form, whatever was written: `reconcile_canonical`.
-/

namespace NetworkPolicy

/-! ## What is given -/

/-- The ports that are given: the range if there is one, and else the port as a range. -/
def givenPorts (port : Option UInt16) (ports : Option Ports) : Option Ports :=
  ports.or (port.map .single)

/-- What may be wrong with the ports of a destination. -/
inductive PortsFault where
  /-- Neither a port nor a range is given. -/
  | missing
  /-- Both are given, and the range does not both begin and end at the port. -/
  | mismatch
  /-- The range begins at zero. -/
  | firstZero
  /-- The range ends at zero. -/
  | lastZero
  /-- The range ends before it begins. -/
  | reversed
  deriving DecidableEq, Repr

/-- The place of a fault in the order in which faults are reported. -/
def PortsFault.rank : PortsFault → Nat
  | .missing => 0
  | .mismatch => 1
  | .firstZero => 2
  | .lastZero => 3
  | .reversed => 4

/-- A fault that is there, alone or among others, and the error that reports it. -/
inductive HasFault (port : Option UInt16) (ports : Option Ports) :
    PortsFault → ValidationError → Prop where
  | missing (hport : port = none) (hports : ports = none) :
      HasFault port ports .missing .missingPort
  | mismatch {p : UInt16} {w : Ports} (hport : port = some p) (hports : ports = some w)
      (h : ¬ (w.first = p ∧ w.last = p)) : HasFault port ports .mismatch .portMismatch
  | firstZero {w : Ports} (hgiven : givenPorts port ports = some w) (h : w.first = 0) :
      HasFault port ports .firstZero (.invalidPort 0)
  | lastZero {w : Ports} (hgiven : givenPorts port ports = some w) (h : w.last = 0) :
      HasFault port ports .lastZero (.invalidPort 0)
  | reversed {w : Ports} (hgiven : givenPorts port ports = some w) (h : w.last < w.first) :
      HasFault port ports .reversed (.invalidRange w.first w.last)

/-- The error is the one of the first fault that is there. -/
def ReportsFirst (port : Option UInt16) (ports : Option Ports) (e : ValidationError) : Prop :=
  ∃ fault, HasFault port ports fault e ∧
    ∀ other e', HasFault port ports other e' → fault.rank ≤ other.rank

variable {port : Option UInt16} {ports : Option Ports} {range : PortRange}

lemma SpellsPorts.given {w : Ports} (h : SpellsPorts port ports w) :
    givenPorts port ports = some w := by
  cases h with
  | port p => rfl
  | range w => rfl
  | both p => rfl

/-- Ports are spelled if they are given and no port beside them says otherwise. -/
lemma spellsPorts_iff {w : Ports} : SpellsPorts port ports w ↔
    givenPorts port ports = some w ∧ ∀ p ∈ port, ∀ w' ∈ ports, w'.first = p ∧ w'.last = p := by
  constructor
  · intro h
    refine ⟨h.given, ?_⟩
    cases h with
    | port p => exact fun _ _ _ hw => nomatch hw
    | range w => exact fun _ hp => nomatch hp
    | both p =>
        rintro _ ⟨⟩ _ ⟨⟩
        exact ⟨rfl, rfl⟩
  · rintro ⟨hgiven, hsame⟩
    cases port with
    | none =>
        cases ports with
        | none => cases hgiven
        | some w' =>
            cases hgiven
            exact .range w
    | some p =>
        cases ports with
        | none =>
            cases hgiven
            exact .port p
        | some w' =>
            cases hgiven
            have hsingle : w = .single p :=
              congrArg₂ Ports.mk (hsame p rfl w rfl).1 (hsame p rfl w rfl).2
            rw [hsingle]
            exact .both p

/-! ## Success -/

lemma exists_range_ports_iff {w : Ports} :
    (∃ range : PortRange, range.ports = w) ↔ 1 ≤ w.first ∧ w.first ≤ w.last := by
  constructor
  · rintro ⟨range, rfl⟩
    exact ⟨UInt16.lt_iff_toNat_lt.mp range.first_pos, range.first_le_last⟩
  · rintro ⟨hfirst, hle⟩
    exact ⟨⟨w.first, w.last, w.single?, UInt16.lt_iff_toNat_lt.mpr hfirst, hle, rfl⟩, rfl⟩

lemma exists_reconcile_eq_ok_iff : (∃ range, reconcile port ports = .ok range) ↔
    (port.isSome ∨ ports.isSome) ∧ (∀ p ∈ port, ∀ w ∈ ports, w.first = p ∧ w.last = p) ∧
      ∀ w ∈ givenPorts port ports, 1 ≤ w.first ∧ w.first ≤ w.last := by
  have hgiven : (port.isSome ∨ ports.isSome) ↔ ∃ w, givenPorts port ports = some w := by
    cases port <;> cases ports <;> simp [givenPorts]
  simp only [reconcile_eq_ok_iff, spellsPorts_iff, hgiven]
  constructor
  · rintro ⟨range, hrange, hsame⟩
    refine ⟨⟨_, hrange⟩, hsame, fun w hw => ?_⟩
    exact exists_range_ports_iff.mp ⟨range, Option.some.inj (hrange.symm.trans hw)⟩
  · rintro ⟨⟨w, hw⟩, hsame, hvalid⟩
    obtain ⟨range, rfl⟩ := exists_range_ports_iff.mpr (hvalid w hw)
    exact ⟨range, hw, hsame⟩

/-- A port and a range in the form in which they are kept. -/
structure Canonical (port : Option UInt16) (ports : Ports) : Prop where
  first_pos : 1 ≤ ports.first
  first_le_last : ports.first ≤ ports.last
  /-- There is a port exactly if the range has no other. -/
  port_eq_some_iff : ∀ p, port = some p ↔ p = ports.first ∧ ports.first = ports.last

lemma PortRange.canonical (range : PortRange) : Canonical range.single? range.ports := by
  obtain ⟨hfirst, hle⟩ := exists_range_ports_iff.mp ⟨range, rfl⟩
  refine ⟨hfirst, hle, fun p => ?_⟩
  rw [range.single?_eq]
  exact Ports.single?_eq_some_iff

/-- The port that is kept beside a range spells the range alone. -/
lemma reconcile_single {p : UInt16} (h : range.single? = some p) :
    reconcile (some p) none = .ok range := by
  obtain ⟨rfl, hsame⟩ := (range.canonical.port_eq_some_iff p).mp h
  exact reconcile_none_eq_ok_iff.mpr ⟨rfl, hsame.symm⟩

/-! ## Errors -/

lemma reconcile_of_spells {w : Ports} (hw : SpellsPorts port ports w) :
    reconcile port ports = w.toRange := by
  rw [reconcile, spelledPorts_eq_ok_iff.mpr hw]
  rfl

lemma toRange_of_first_zero {w : Ports} (h : w.first = 0) :
    w.toRange = .error (.invalidPort 0) := by
  have hzero : ¬ 0 < w.first := fun hpos => UInt16.pos_iff_ne_zero.mp hpos h
  rw [Ports.toRange, dif_neg hzero, h]

lemma toRange_of_last_zero {w : Ports} (hfirst : w.first ≠ 0) (h : w.last = 0) :
    w.toRange = .error (.invalidPort 0) := by
  have hzero : ¬ 0 < w.last := fun hpos => UInt16.pos_iff_ne_zero.mp hpos h
  rw [Ports.toRange, dif_pos (UInt16.pos_iff_ne_zero.mpr hfirst), if_neg hzero, h]

lemma toRange_of_reversed {w : Ports} (hfirst : w.first ≠ 0) (hlast : w.last ≠ 0)
    (h : w.last < w.first) : w.toRange = .error (.invalidRange w.first w.last) := by
  rw [Ports.toRange, dif_pos (UInt16.pos_iff_ne_zero.mpr hfirst),
    if_pos (UInt16.pos_iff_ne_zero.mpr hlast), dif_neg (UInt16.not_le.mpr h)]

/-- Ports that are given are spelled unless the range and the port beside it differ. -/
lemma spells_of_given {w : Ports} (hgiven : givenPorts port ports = some w)
    (hsame : ∀ e, ¬ HasFault port ports .mismatch e) : SpellsPorts port ports w := by
  refine spellsPorts_iff.mpr ⟨hgiven, fun p hp w' hw' => ?_⟩
  exact not_not.mp fun hother => hsame _ (.mismatch hp hw' hother)

/-- The first fault that is there decides. -/
lemma ReportsFirst.reconcile_eq {e : ValidationError} (h : ReportsFirst port ports e) :
    reconcile port ports = .error e := by
  obtain ⟨fault, hfault, hleast⟩ := h
  have hearlier : ∀ other e', other.rank < fault.rank → ¬ HasFault port ports other e' :=
    fun other e' hlt hother => Nat.not_lt.mpr (hleast other e' hother) hlt
  cases hfault with
  | missing hport hports =>
      subst hport hports
      rfl
  | mismatch hport hports hother =>
      subst hport hports
      rw [reconcile, spelledPorts, if_neg hother]
      rfl
  | @firstZero w hgiven hfirst =>
      have hw := spells_of_given hgiven fun e => hearlier .mismatch e (by decide)
      rw [reconcile_of_spells hw, toRange_of_first_zero hfirst]
  | @lastZero w hgiven hlast =>
      have hw := spells_of_given hgiven fun e => hearlier .mismatch e (by decide)
      have hfirst : w.first ≠ 0 := fun h => hearlier .firstZero _ (by decide) (.firstZero hgiven h)
      rw [reconcile_of_spells hw, toRange_of_last_zero hfirst hlast]
  | @reversed w hgiven hlt =>
      have hw := spells_of_given hgiven fun e => hearlier .mismatch e (by decide)
      have hfirst : w.first ≠ 0 := fun h => hearlier .firstZero _ (by decide) (.firstZero hgiven h)
      have hlast : w.last ≠ 0 := fun h => hearlier .lastZero _ (by decide) (.lastZero hgiven h)
      rw [reconcile_of_spells hw, toRange_of_reversed hfirst hlast hlt]

/-- Without a fault there is a range. -/
lemma exists_range_of_faultless (h : ∀ fault e, ¬ HasFault port ports fault e) :
    ∃ range, reconcile port ports = .ok range := by
  refine exists_reconcile_eq_ok_iff.mpr ⟨?_, fun p hp w hw => ?_, fun w hw => ⟨?_, ?_⟩⟩
  · by_contra hnone
    obtain ⟨hport, hports⟩ := not_or.mp hnone
    exact h _ _ (.missing (Option.not_isSome_iff_eq_none.mp hport)
      (Option.not_isSome_iff_eq_none.mp hports))
  · exact not_not.mp fun hother => h _ _ (.mismatch hp hw hother)
  · have hfirst : w.first ≠ 0 := fun hzero => h _ _ (.firstZero hw hzero)
    exact UInt16.pos_iff_ne_zero.mpr hfirst
  · exact UInt16.not_lt.mp fun hlt => h _ _ (.reversed hw hlt)

/-- Of the faults that are there, one is the first. -/
lemma exists_reportsFirst {fault : PortsFault} {e : ValidationError}
    (h : HasFault port ports fault e) : ∃ e', ReportsFirst port ports e' := by
  let rank (entry : PortsFault × ValidationError) : Nat := entry.1.rank
  obtain ⟨⟨first, e'⟩, hfirst, hleast⟩ := (measure rank).wf.has_min
    {entry | HasFault port ports entry.1 entry.2} ⟨(fault, e), h⟩
  exact ⟨e', first, hfirst, fun other e'' hother => Nat.not_lt.mp (hleast (other, e'') hother)⟩

lemma reconcile_eq_error_iff {e : ValidationError} :
    reconcile port ports = .error e ↔ ReportsFirst port ports e := by
  refine ⟨fun herror => ?_, ReportsFirst.reconcile_eq⟩
  obtain ⟨fault, e', hfault⟩ : ∃ fault e', HasFault port ports fault e' := by
    by_contra hnone
    obtain ⟨range, hrange⟩ := exists_range_of_faultless fun fault e' h => hnone ⟨fault, e', h⟩
    cases herror.symm.trans hrange
  obtain ⟨e'', hfirst⟩ := exists_reportsFirst hfault
  obtain rfl : e = e'' := Except.error.inj (herror.symm.trans hfirst.reconcile_eq)
  exact hfirst

/-! ## Destinations -/

/-- The ways to a destination, with the port and the range that are written for it: it is
constructed, or it is read from a record. -/
inductive Destination.Obtained :
    Option UInt16 → Option Ports → Destination → Prop where
  | make {id : String} {protocol : Protocol} {port : Option UInt16} {ports : Option Ports}
      {d : Destination} (h : Destination.make id protocol port ports = .ok d) :
      Obtained port ports d
  | ofPort {id : String} {protocol : Protocol} {port : UInt16} {d : Destination}
      (h : Destination.ofPort id protocol port = .ok d) : Obtained (some port) none d
  | ofPorts {id : String} {protocol : Protocol} {ports : Ports} {d : Destination}
      (h : Destination.ofPorts id protocol ports = .ok d) : Obtained none (some ports) d
  | read {id : String} {protocol : Protocol} {port : Option UInt16} {ports : Option Ports}
      {draft : Draft} {d : Destination}
      (hrecord : Wire.record "RawDestination" Wire.destinationFields draft
        = .ok (id, protocol, port, ports, ()))
      (h : Wire.destination draft = .ok d) : Obtained port ports d

namespace Destination

lemma reconcile_of_make {id : String} {protocol : Protocol} {d : Destination}
    (h : make id protocol port ports = .ok d) : reconcile port ports = .ok d.range :=
  reconcile_eq_ok_iff.mpr (make_eq_ok_iff.mp h).2.2

/-- Every way to a destination goes through reconciliation. -/
lemma Obtained.reconcile_eq {d : Destination} (h : Obtained port ports d) :
    reconcile port ports = .ok d.range := by
  cases h with
  | make h | ofPort h | ofPorts h => exact reconcile_of_make h
  | read hrecord h =>
      rw [Wire.destination, hrecord] at h
      exact reconcile_of_make (mapError_eq_ok_iff.mp h)

lemma exists_obtained_of_read {draft : Draft} {d : Destination}
    (h : Wire.destination draft = .ok d) : ∃ port ports, Obtained port ports d := by
  obtain ⟨⟨id, protocol, port, ports, ⟨⟩⟩, hrecord, -⟩ := bind_eq_ok_iff.mp h
  exact ⟨port, ports, .read hrecord h⟩

lemma eq_iff {d d' : Destination} : d = d' ↔ d.id = d'.id ∧ d.protocol = d'.protocol ∧
    d.range.first = d'.range.first ∧ d.range.last = d'.range.last := by
  obtain ⟨id, protocol, range⟩ := d
  obtain ⟨id', protocol', range'⟩ := d'
  rw [Destination.mk.injEq, ← PortRange.ports_injective.eq_iff, PortRange.ports, PortRange.ports,
    Ports.mk.injEq]

/-- To compare destinations with the ports that are shown beside their ranges is to compare
them. -/
lemma shown_eq_iff {d d' : Destination} : (d.id, d.protocol, d.port?, d.range.ports)
    = (d'.id, d'.protocol, d'.port?, d'.range.ports) ↔ d = d' := by
  constructor
  · intro h
    obtain ⟨hid, hrest⟩ := Prod.mk.inj h
    obtain ⟨hprotocol, hrest⟩ := Prod.mk.inj hrest
    obtain ⟨-, hports⟩ := Prod.mk.inj hrest
    exact eq_iff.mpr ⟨hid, hprotocol, Ports.mk.inj hports⟩
  · rintro rfl
    rfl

end Destination

/-- **Reconciliation yields one form on every path.**  It succeeds exactly if something is given,
a port beside a range is both of its ends, and the range neither begins at zero nor ends before it
begins; it then keeps the range that is given, and whichever way the result is written again, it
comes back.  Otherwise the error is that of the first fault that is there.  Every destination is
obtained of what is written for it by reconciliation, so its port and its range are canonical, and
destinations are the same, also in the ports that are shown of them, if their ids, their protocols
and the ends of their ranges are. -/
theorem reconcile_canonical (port : Option UInt16) (ports : Option Ports) :
    ((∃ range, reconcile port ports = .ok range) ↔
      (port.isSome ∨ ports.isSome) ∧ (∀ p ∈ port, ∀ w ∈ ports, w.first = p ∧ w.last = p) ∧
        ∀ w ∈ givenPorts port ports, 1 ≤ w.first ∧ w.first ≤ w.last) ∧
    (∀ range, reconcile port ports = .ok range →
      givenPorts port ports = some range.ports ∧ Canonical range.single? range.ports ∧
      reconcile range.single? (some range.ports) = .ok range ∧
      reconcile none (some range.ports) = .ok range ∧
      ∀ p, range.single? = some p → reconcile (some p) none = .ok range) ∧
    (∀ e, reconcile port ports = .error e ↔ ReportsFirst port ports e) ∧
    (∀ d, Destination.Obtained port ports d → reconcile port ports = .ok d.range) ∧
    (∀ draft d, Wire.destination draft = .ok d →
      ∃ port ports, Destination.Obtained port ports d) ∧
    (∀ d : Destination, Canonical d.port? d.range.ports) ∧
    ∀ d d' : Destination,
      (d = d' ↔ d.id = d'.id ∧ d.protocol = d'.protocol ∧ d.range.first = d'.range.first ∧
        d.range.last = d'.range.last) ∧
      ((d.id, d.protocol, d.port?, d.range.ports) = (d'.id, d'.protocol, d'.port?, d'.range.ports)
        ↔ d = d') := by
  refine ⟨exists_reconcile_eq_ok_iff, fun range hrange => ?_, fun e => reconcile_eq_error_iff,
    fun d => Destination.Obtained.reconcile_eq, fun draft d => Destination.exists_obtained_of_read,
    fun d => d.range.canonical, fun d d' => ⟨Destination.eq_iff, Destination.shown_eq_iff⟩⟩
  have hgiven := (reconcile_eq_ok_iff.mp hrange).given
  have halone : reconcile none (some range.ports) = .ok range :=
    reconcile_eq_ok_iff.mpr (.range range.ports)
  exact ⟨hgiven, range.canonical, reconcile_written range, halone, fun p => reconcile_single⟩

/-- A range that ends at zero and so before it begins: the zero is reported.  A range of one port is
kept with that port, which spells it alone. -/
theorem reconcile_canonical_zero :
    HasFault none (some ⟨5, 0⟩) .lastZero (.invalidPort 0) ∧
    HasFault none (some ⟨5, 0⟩) .reversed (.invalidRange 5 0) ∧
    ReportsFirst none (some ⟨5, 0⟩) (.invalidPort 0) ∧
    ∃ range, reconcile none (some ⟨80, 80⟩) = .ok range ∧ range.single? = some 80 ∧
      reconcile (some 80) none = .ok range := by
  obtain ⟨-, -, hfirst, -⟩ := reconcile_canonical none (some ⟨5, 0⟩)
  obtain ⟨hsuccess, hagain, -⟩ := reconcile_canonical none (some ⟨80, 80⟩)
  have hwell : ∀ w ∈ givenPorts none (some ⟨80, 80⟩), 1 ≤ w.first ∧ w.first ≤ w.last := by
    intro w hw
    cases Option.mem_some.mp hw
    exact ⟨by decide, by decide⟩
  obtain ⟨range, hrange⟩ := hsuccess.mpr ⟨.inr rfl, by nofun, hwell⟩
  obtain ⟨hgiven, hcanonical, -, -, hsingle⟩ := hagain range hrange
  have hports : (⟨80, 80⟩ : Ports) = range.ports := Option.some.inj hgiven
  have hport : range.single? = some 80 := (hcanonical.port_eq_some_iff 80).mpr (hports ▸ ⟨rfl, rfl⟩)
  exact ⟨.lastZero rfl rfl, @HasFault.reversed _ _ ⟨5, 0⟩ rfl (by decide), (hfirst _).mp rfl, range,
    hrange, hport, hsingle 80 hport⟩

end NetworkPolicy
