import Mathlib.Tactic.Common
import NetworkPolicy.Proofs.Wire.Records
import NetworkPolicy.Wire.Form

/-!
# The forms of a policy

The ways to write each part of a policy, told without the reader, and what they are read as.  A
policy, its source, its destination and the pair of its ports are records; a port is a numeral; a
protocol is its name; the port and the ports may be null where they need not be there.

* `SpellsDestination` — the forms of a destination; `destination_of_spelled` — it is reconciled as
  soon as it has been read, so whether it is accepted does not depend on the form.
* `policy_of_record` — a policy is read from its source and its destination.
* `SpellsOptional.written` — what is written only as far as it is there.
-/

namespace NetworkPolicy

lemma Protocol.ofName?_name (protocol : Protocol) : ofName? protocol.name = some protocol := by
  cases protocol <;> rfl

namespace Wire

open Fields (Reads)

/-! ## The forms of the parts -/

/-- A port in decimal digits. -/
inductive SpellsPort (port : UInt16) : Draft → Prop where
  | digits : SpellsPort port (.number (Nat.toDigits 10 port.toNat))

/-- The two ends of a range. -/
inductive SpellsPair (ports : Ports) : Draft → Prop where
  | record {first last d : Draft} (hfirst : SpellsPort ports.first first)
      (hlast : SpellsPort ports.last last)
      (h : Record ["start", "end"] [("start", first), ("end", last)] d) : SpellsPair ports d

/-- The name of a protocol, alone or as the one key of an object. -/
inductive SpellsProtocol (protocol : Protocol) : Draft → Prop where
  | name : SpellsProtocol protocol (.string (some protocol.name))
  | key : SpellsProtocol protocol (.object [(some protocol.name, .null)] true)

/-- A field that need not be there. -/
inductive SpellsOptional {α : Type} (spells : α → Draft → Prop) (name : String) :
    Option α → List (String × Draft) → Prop where
  | omitted : SpellsOptional spells name none []
  | null : SpellsOptional spells name none [(name, .null)]
  | value {v : α} {d : Draft} (h : spells v d) : SpellsOptional spells name (some v) [(name, d)]

inductive SpellsSource (id : String) : Draft → Prop where
  | record {d : Draft} (h : Record ["id"] [("id", .string (some id))] d) : SpellsSource id d

/-- A destination with its port and its ports, whether they can be reconciled or not. -/
inductive SpellsDestination (id : String) (protocol : Protocol) (port : Option UInt16)
    (ports : Option Ports) : Draft → Prop where
  | record {name d : Draft} {single range : List (String × Draft)}
      (hprotocol : SpellsProtocol protocol name)
      (hport : SpellsOptional SpellsPort "port" port single)
      (hports : SpellsOptional SpellsPair "ports" ports range)
      (h : Record ["id", "protocol", "port", "ports"]
        ([("id", .string (some id)), ("protocol", name)] ++ single ++ range) d) :
      SpellsDestination id protocol port ports d

/-! ## Reading them -/

section Reading

variable {d : Draft}

lemma port_of_spelled {p : UInt16} (h : SpellsPort p d) : port d = .ok p := by
  obtain ⟨⟩ := h
  have hlt := p.toNat_lt
  have hword : p.toNat ≤ Text.maxWord := (Nat.le_of_lt hlt).trans (by decide)
  have hrange : (0 : Int) ≤ p.toNat ∧ (p.toNat : Int) < 65536 := by omega
  rw [port, Number.ofLexeme_toDigits hword]
  simp only [if_pos hrange, Int.toNat_natCast, UInt16.ofNat_toNat]

lemma ports_of_spelled {p : Ports} (h : SpellsPair p d) (hcomplete : d.isComplete = true) :
    ports d = .ok p := by
  obtain ⟨hfirst, hlast, hrecord⟩ := h
  have hreads : Reads portsFields _ (p.first, p.last, ()) :=
    .field (port_of_spelled hfirst) (.field (port_of_spelled hlast) .nil)
  rw [ports, hreads.record_eq (by decide) hrecord hcomplete]
  rfl

lemma protocol_of_spelled {p : Protocol} (h : SpellsProtocol p d) : protocol d = .ok p := by
  cases h with
  | name => rw [protocol, protocolOfName, p.ofName?_name]
  | key =>
      simp only [protocol, protocolOfName, p.ofName?_name]
      rfl

/-- A field that need not be there is read as what is there. -/
lemma reads_optional {α σ β : Type} {name : String} {read : Decoder α} {rest : Fields σ β}
    {spells : α → Draft → Prop} {v : Option α} {given more : List (String × Draft)} {r : β}
    (hvalue : ∀ {v d}, spells v d → d.isComplete = true → d ≠ .null ∧ read d = .ok v)
    (h : SpellsOptional spells name v given)
    (hcomplete : ∀ field ∈ given, field.2.isComplete = true)
    (hrest : Reads rest more r) :
    Reads (.cons name (some none) (optional read) rest) (given ++ more) (v, r) := by
  cases h with
  | omitted => exact .absent hrest
  | null => exact .field rfl hrest
  | value h =>
      obtain ⟨hnull, hread⟩ := hvalue h (hcomplete _ List.mem_cons_self)
      exact .field (by rw [optional_of_ne_null hnull, hread]; rfl) hrest

lemma source_of_spelled {id : String} (h : SpellsSource id d) (hcomplete : d.isComplete = true) :
    source d = .ok id := by
  obtain ⟨hrecord⟩ := h
  have hreads : Reads (.cons "id" none text .nil) [("id", .string (some id))] (id, ()) :=
    .field rfl .nil
  rw [source, hreads.record_eq (List.nodup_singleton _) hrecord hcomplete]
  rfl

/-- A destination is reconciled as soon as it has been read, whichever way it is written. -/
lemma destination_of_spelled {id : String} {protocol : Protocol} {port : Option UInt16}
    {ports : Option Ports} (h : SpellsDestination id protocol port ports d)
    (hcomplete : d.isComplete = true) :
    destination d = (Destination.make id protocol port ports).mapError .invalid := by
  obtain @⟨name, d, single, range, hprotocol, hport, hports, hrecord⟩ := h
  have hgiven := hrecord.isComplete_of_mem hcomplete
  have hrange : Reads (.cons "ports" (some none) (optional Wire.ports) .nil) (range ++ [])
      (ports, ()) := by
    refine reads_optional (fun h hcomplete => ⟨?_, ports_of_spelled h hcomplete⟩) hports
      (fun field hfield => hgiven field (List.mem_append_right _ hfield)) .nil
    rintro rfl
    obtain ⟨-, -, ⟨⟩⟩ := h
  have hsingle : Reads (.cons "port" (some none) (optional Wire.port)
      (.cons "ports" (some none) (optional Wire.ports) .nil)) (single ++ (range ++ []))
      (port, ports, ()) := by
    refine reads_optional (fun h _ => ⟨?_, port_of_spelled h⟩) hport (fun field hfield =>
      hgiven field (List.mem_append_left _ (List.mem_append_right _ hfield))) hrange
    rintro rfl
    cases h
  rw [List.append_nil] at hsingle
  rw [List.append_assoc] at hrecord
  have hreads : Reads destinationFields
      (("id", .string (some id)) :: ("protocol", name) :: (single ++ range))
      (id, protocol, port, ports, ()) :=
    .field rfl (.field (protocol_of_spelled hprotocol) hsingle)
  rw [destination, hreads.record_eq (by decide) hrecord hcomplete]
  rfl

/-- A policy is read from its source and its destination. -/
lemma policy_of_record {p : Policy} {origin target : Draft}
    (h : Record ["source", "destination"] [("source", origin), ("destination", target)] d)
    (hcomplete : d.isComplete = true) (hsource : source origin = .ok p.source)
    (hdestination : destination target = .ok p.destination) : policy d = .ok p := by
  have hreads : Reads policyFields _ (p.source, p.destination, ()) :=
    .field hsource (.field hdestination .nil)
  rw [policy, hreads.record_eq (by decide) h hcomplete]
  rfl

end Reading

/-! ## Writing -/

/-- A field that is written only as far as it is there. -/
lemma SpellsOptional.written {α : Type} {spells : α → Draft → Prop} {write : α → Json}
    (hwrite : ∀ v, spells v (write v).draft) (name : String) (v : Option α) :
    SpellsOptional spells name v (drafts (v.map fun v => (name, write v)).toList) := by
  cases v with
  | none => exact .omitted
  | some v => exact .value (hwrite v)

lemma spellsPair_written (ports : Ports) : SpellsPair ports (portsJson ports).draft :=
  .record .digits .digits
    (@Record.written _ [("start", portJson ports.first), ("end", portJson ports.last)])

end Wire

end NetworkPolicy
