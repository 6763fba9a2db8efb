import Mathlib.Tactic.Common
import NetworkPolicy.Proofs.Ports
import NetworkPolicy.Proofs.Wire.Forms

/-!
# The wire form is reversible

A policy, a list of policies, claims and a space are each read back from what is written for them,
whatever characters their texts hold.  A destination is written with its canonical range and, only
where this covers one port, with that port as well; both spellings are reconciled to the same range
(`reconcile_written`).

The text that is written for the value of a document is the *normal form* of the document
(`normalForm`): it says the same, and it is its own normal form.

* `RoundTrips` — what this means of a decoder and a writer; `wire_round_trips` — it holds of all
  four.
-/

namespace NetworkPolicy.Wire

open Fields (Reads)

/-! ## Values that are read back -/

/-- What is written for a destination is one of its forms.  Members that are no fields may stand
behind its id. -/
lemma destination_written (id : String) (protocol : Protocol) (port : Option UInt16)
    (ports : Option Ports) {extra : List (String × Json)}
    (hextra : ∀ member ∈ extra, member.1 ∉ destinationFields.names) :
    destination (Json.object ([("id", .string id)] ++ extra ++
      [("protocol", .string protocol.name)] ++
      (port.map fun port => ("port", portJson port)).toList ++
      (ports.map fun ports => ("ports", portsJson ports)).toList)).draft
      = (Destination.make id protocol port ports).mapError .invalid := by
  have hport : SpellsOptional SpellsPort "port" port
      (drafts (port.map fun port => ("port", portJson port)).toList) :=
    .written (fun _ => .digits) "port" port
  have hports : SpellsOptional SpellsPair "ports" ports
      (drafts (ports.map fun ports => ("ports", portsJson ports)).toList) :=
    .written spellsPair_written "ports" ports
  refine destination_of_spelled (.record .name hport hports ?_) (Json.isComplete_draft _)
  generalize (port.map fun port => ("port", portJson port)).toList = single
  generalize (ports.map fun ports => ("ports", portsJson ports)).toList = range
  have hrecord : Record destinationFields.names
      (drafts ([("id", .string id), ("protocol", .string protocol.name)] ++ single ++ range))
      (Json.object ([("id", .string id)] ++ extra ++ [("protocol", .string protocol.name)] ++
        single ++ range)).draft := by
    refine .among ?_ hextra
    simpa using @List.perm_append_comm _ extra
      (("protocol", .string protocol.name) :: (single ++ range))
  rw [drafts_append, drafts_append] at hrecord
  exact hrecord

/-- A destination is read from its canonical range, also if there are members behind its id that
are no fields. -/
lemma destination_eq (d : Destination) {extra : List (String × Json)}
    (hextra : ∀ member ∈ extra, member.1 ∉ destinationFields.names) :
    destination (Json.object ([("id", .string d.id)] ++ extra ++
      [("protocol", .string d.protocol.name)] ++
      (d.port?.map fun port => ("port", portJson port)).toList ++
      [("ports", portsJson d.range.ports)])).draft = .ok d := by
  have hread := destination_written d.id d.protocol d.port? (some d.range.ports) hextra
  rw [d.make_written] at hread
  exact hread

lemma source_eq (id : String) {extra : List (String × Json)}
    (hextra : ∀ member ∈ extra, member.1 ≠ "id") :
    source (Json.object (("id", .string id) :: extra)).draft = .ok id := by
  have hrecord : Record ["id"] (drafts [("id", .string id)])
      (Json.object (("id", .string id) :: extra)).draft := .among (.refl _) (by simpa using hextra)
  exact source_of_spelled (.record hrecord) (Json.isComplete_draft _)

lemma policy_eq {p : Policy} {origin target : Json} (hsource : source origin.draft = .ok p.source)
    (hdestination : destination target.draft = .ok p.destination) :
    policy (Json.object [("source", origin), ("destination", target)]).draft = .ok p :=
  policy_of_record (@Record.written _ [("source", origin), ("destination", target)])
    (Json.isComplete_draft _) hsource hdestination

lemma recovers_policy : Recovers policy policyJson := fun p =>
  policy_eq (source_eq p.source fun _ h => absurd h List.not_mem_nil)
    (destination_eq p.destination fun _ h => absurd h List.not_mem_nil)

lemma recovers_policies : Recovers policies policiesJson := recovers_policy.list

lemma recovers_claims : Recovers claims claimsJson := by
  intro c
  have hreads : Reads claimsFields (drafts [("scope", .array (c.scopes.map .string)),
      ("user_id", .string c.userId), ("user_name", .string c.userName)])
      (c.scopes, c.userId, c.userName, ()) :=
    .field (recovers_text.list c.scopes)
      (.field (recovers_text c.userId) (.field (recovers_text c.userName) .nil))
  rw [claims, claimsJson, hreads.object_eq (by decide)]
  rfl

lemma recovers_space : Recovers space spaceJson := by
  intro s
  have hreads : Reads spaceFields
      (drafts [("name", .string s.name), ("org_guid", .string s.orgGuid)])
      (s.name, s.orgGuid, ()) :=
    .field (recovers_text s.name) (.field (recovers_text s.orgGuid) .nil)
  rw [space, spaceJson, hreads.object_eq (by decide)]
  rfl

/-! ## Texts and bytes -/

variable {α : Type} {read : Decoder α} {write : α → Json}

/-- The text that is written for the value of a document. -/
def normalForm (read : Decoder α) (write : α → Json) (document : Document) : Except Fault String :=
  (decode read document).map fun v => (write v).render

/-- What is written is read back, and what is written for a document says the same as the document
and is its own normal form. -/
structure RoundTrips (read : Decoder α) (write : α → Json) : Prop where
  text : ∀ v, decode read (.ofText (write v).render) = .ok v
  bytes : ∀ v, decode read (.ofBytes (Utf8.bytes (write v).render.toList)) = .ok v
  same : ∀ document, (normalForm read write document).bind (fun t => decode read (.ofText t))
    = decode read document
  canonical : ∀ document,
    (normalForm read write document).bind (fun t => normalForm read write (.ofText t))
      = normalForm read write document

lemma Recovers.roundTrips (h : Recovers read write) : RoundTrips read write := by
  have htext : ∀ v, decode read (.ofText (write v).render) = .ok v := by
    intro v
    rw [Document.ofText_render, decode, h v]
    rfl
  refine ⟨htext, fun v => ?_, fun document => ?_, fun document => ?_⟩
  · rw [Document.ofBytes_bytes, htext]
  · unfold normalForm
    cases decode read document with
    | error fault => rfl
    | ok v => exact htext v
  · unfold normalForm
    cases decode read document with
    | error fault => rfl
    | ok v =>
        show (decode read (.ofText (write v).render)).map _ = _
        rw [htext]

/-- **The wire form is reversible.**  Every policy, every list of policies, all claims and every
space are read back from their text and from its bytes.  Whatever text or bytes a value has been
read from, what is written for it says the same and is written alike once more. -/
theorem wire_round_trips :
    RoundTrips policy policyJson ∧ RoundTrips policies policiesJson ∧
      RoundTrips claims claimsJson ∧ RoundTrips space spaceJson :=
  ⟨recovers_policy.roundTrips, recovers_policies.roundTrips, recovers_claims.roundTrips,
    recovers_space.roundTrips⟩

/-- Members in another order, blanks, a single port and an escape that is not needed. -/
example : normalForm policy policyJson (.ofText
      ("\x7b\"destination\": \x7b\"port\": 80, \"protocol\": \"tcp\", \"id\": \"\\u0062\"\x7d," ++
        " \"source\": [\"a\"]\x7d"))
    = .ok ("\x7b\"source\":\x7b\"id\":\"a\"\x7d,\"destination\":\x7b\"id\":\"b\"," ++
        "\"protocol\":\"tcp\",\"port\":80,\"ports\":\x7b\"start\":80,\"end\":80\x7d\x7d\x7d") := by
  cbv

end NetworkPolicy.Wire
