import Mathlib.Tactic.Common
import NetworkPolicy.Proofs.Ports
import NetworkPolicy.Proofs.Wire.RoundTrip

/-!
# Spellings of a policy

What a policy means is which app it lets connect to which app, over which protocol and to which
ports (`Policy.meaning`).  A policy can be spelled in more than one way, because the ports can be
(`SpellsPorts`): in a spelling the port and the range are still beside each other, each of them
there or not.

A spelling becomes a policy by a constructor (`Spelling.policy?`) or by being read from its text;
both come to the same (`decode_spelling`).  They accept a spelling exactly if it says what some
policy means, and then the policy is the one that means it (`Spelling.policy?_eq_ok_iff`).  No two
policies mean the same (`Policy.meaning_injective`).

Of all its spellings one is shown of a policy and written for it, the canonical one
(`Policy.spelling`).  It has a port beside the range, so policies that mean the same could still
differ there; they do not, because the port that is kept is always the one that the range stands
for (`Policy.spelling_eq_iff_meaning_eq`).
-/

namespace NetworkPolicy

/-! ## Meanings -/

/-- What a policy means: its two apps, its protocol, and its first and its last port. -/
structure Meaning where
  source : String
  target : String
  protocol : Protocol
  first : UInt16
  last : UInt16
  deriving DecidableEq

namespace Policy

def meaning (p : Policy) : Meaning where
  source := p.source
  target := p.destination.id
  protocol := p.destination.protocol
  first := p.destination.range.first
  last := p.destination.range.last

/-- Policies that mean the same are the same. -/
lemma meaning_injective : Function.Injective meaning := by
  rintro ⟨source, target, protocol, range⟩ ⟨source', target', protocol', range'⟩ h
  obtain ⟨rfl, rfl, rfl, hfirst, hlast⟩ := Meaning.mk.inj h
  obtain rfl : range = range' := PortRange.ports_injective (congrArg₂ Ports.mk hfirst hlast)
  rfl

end Policy

/-! ## Spellings -/

/-- A policy as it is written, before its port and its ports are reconciled. -/
structure Spelling where
  source : String
  target : String
  protocol : Protocol
  port : Option UInt16
  ports : Option Ports

namespace Spelling

/-- The spelling has the apps and the protocol of the meaning, and describes its ports. -/
structure Says (w : Spelling) (m : Meaning) : Prop where
  source : w.source = m.source
  target : w.target = m.target
  protocol : w.protocol = m.protocol
  ports : SpellsPorts w.port w.ports ⟨m.first, m.last⟩

/-- The policy that is made of a spelling. -/
def policy? (w : Spelling) : Except ValidationError Policy :=
  (Destination.make w.target w.protocol w.port w.ports).map (Policy.mk w.source)

/-- A spelling makes the policy that means what it says. -/
lemma policy?_eq_ok_iff {w : Spelling} {p : Policy} : w.policy? = .ok p ↔ w.Says p.meaning := by
  rw [policy?, map_eq_ok_iff]
  constructor
  · rintro ⟨d, hmake, rfl⟩
    obtain ⟨hid, hprotocol, hports⟩ := Destination.make_eq_ok_iff.mp hmake
    exact ⟨rfl, hid.symm, hprotocol.symm, hports⟩
  · rintro ⟨hsource, htarget, hprotocol, hports⟩
    have hmake := Destination.make_eq_ok_iff.mpr ⟨htarget.symm, hprotocol.symm, hports⟩
    refine ⟨p.destination, hmake, ?_⟩
    rw [hsource]
    rfl

/-- What is written for the destination, with the port and the ports only as far as they are
there. -/
def destinationJson (w : Spelling) : Json :=
  .object ([("id", .string w.target), ("protocol", .string w.protocol.name)] ++
    (w.port.map fun port => ("port", Wire.portJson port)).toList ++
    (w.ports.map fun ports => ("ports", Wire.portsJson ports)).toList)

/-- The JSON value of a spelling. -/
def json (w : Spelling) : Json :=
  .object [("source", .object [("id", .string w.source)]), ("destination", w.destinationJson)]

end Spelling

namespace Policy

/-- The canonical spelling: the range, and beside it the port if there is no other. -/
def spelling (p : Policy) : Spelling where
  source := p.source
  target := p.destination.id
  protocol := p.destination.protocol
  port := p.destination.port?
  ports := some p.destination.range.ports

lemma says_spelling (p : Policy) : p.spelling.Says p.meaning where
  source := rfl
  target := rfl
  protocol := rfl
  ports := reconcile_eq_ok_iff.mp (reconcile_written p.destination.range)

lemma policy?_spelling (p : Policy) : p.spelling.policy? = .ok p :=
  Spelling.policy?_eq_ok_iff.mpr p.says_spelling

/-- Two policies agree in their ranges and in the ports beside them exactly if they mean the
same. -/
lemma spelling_eq_iff_meaning_eq {p q : Policy} :
    p.spelling = q.spelling ↔ p.meaning = q.meaning := by
  rw [meaning_injective.eq_iff]
  constructor
  · intro h
    exact Except.ok.inj (p.policy?_spelling.symm.trans (h ▸ q.policy?_spelling))
  · exact congrArg spelling

end Policy

namespace Wire

/-- A policy is read from its source and its destination, and refused with its destination. -/
lemma policy_written {origin target : Json} {id : String}
    (hsource : source origin.draft = .ok id) :
    policy (Json.object [("source", origin), ("destination", target)]).draft
      = (destination target.draft).map (Policy.mk id) := by
  cases htarget : destination target.draft with
  | ok d => exact policy_eq hsource htarget
  | error fault =>
      have hfirst : policyFields.member policyFields.blank (some "source", origin.draft)
          = .ok (some id, none, ()) := by
        simp only [policyFields, Fields.member, Fields.put, Fields.blank, if_true, hsource]
        rfl
      have hsecond : policyFields.member (some id, none, ()) (some "destination", target.draft)
          = .error fault := by
        simp only [policyFields, Fields.member, Fields.put, if_true, htarget]
        rfl
      have hslots : (Json.memberDrafts [("source", origin), ("destination", target)]).foldlM
          policyFields.member policyFields.blank = .error fault := by
        simp only [Json.memberDrafts, List.foldlM_cons, hfirst]
        exact congrArg (· >>= _) hsecond
      rw [policy, Json.draft, record, Fields.ofMembers, hslots]
      rfl

/-- To read the text of a spelling is to construct its policy. -/
lemma decode_spelling (w : Spelling) :
    decode policy (.ofText w.json.render) = w.policy?.mapError .invalid := by
  have hsource : source (Json.object [("id", .string w.source)]).draft = .ok w.source :=
    source_eq w.source fun _ h => absurd h List.not_mem_nil
  have hdestination : destination w.destinationJson.draft
      = (Destination.make w.target w.protocol w.port w.ports).mapError .invalid :=
    destination_written w.target w.protocol w.port w.ports fun _ (h : _ ∈ []) =>
      absurd h List.not_mem_nil
  rw [Document.ofText_render, decode, Spelling.json, policy_written hsource, hdestination,
    Spelling.policy?]
  cases Destination.make w.target w.protocol w.port w.ports with
  | ok d => rfl
  | error cause => rfl

end Wire

end NetworkPolicy
