import Mathlib.Tactic.Common
import NetworkPolicy.Proofs.Wire.Spelling

/-!
# The texts of a policy

A spelling of a policy becomes a text in many ways.  Blanks and escapes are the grammar's; the
policy, its source, its destination and the pair of ports are records, so each of them may be an
object with its members in any order and among others, or an array; the port and the ports may be
null where they need not be there (`SpellsPolicy`).

Whichever way is taken, the text is read as the policy that means what the spelling says, and two
texts are read alike exactly if they mean the same (`texts_read_by_meaning`).  A text in which a
known key stands twice in one of these objects is refused (`RepeatsKey`).
-/

namespace NetworkPolicy.Wire

/-! ## Texts -/

/-- A policy, whether its port and its ports can be reconciled or not. -/
inductive SpellsPolicy (w : Spelling) : Draft → Prop where
  | record {origin target d : Draft} (hsource : SpellsSource w.source origin)
      (hdestination : SpellsDestination w.target w.protocol w.port w.ports target)
      (h : Record ["source", "destination"] [("source", origin), ("destination", target)] d) :
      SpellsPolicy w d

/-- The text spells a policy, in one way or another. -/
def IsTextOf (m : Meaning) (text : String) : Prop :=
  ∃ (w : Spelling) (d : Draft), w.Says m ∧ SpellsPolicy w d ∧ d.SpelledBy text.toList

/-- One of the objects of a policy has a known key twice. -/
inductive RepeatsKey (d : Draft) : Prop where
  | policy (h : Repeats ["source", "destination"] d) : RepeatsKey d
  | source {origin : Draft} (horigin : Holds ["source", "destination"] "source" origin d)
      (h : Repeats ["id"] origin) : RepeatsKey d
  | destination {target : Draft} (htarget : Holds ["source", "destination"] "destination" target d)
      (h : Repeats ["id", "protocol", "port", "ports"] target) : RepeatsKey d
  | protocol {target protocol : Draft}
      (htarget : Holds ["source", "destination"] "destination" target d)
      (hprotocol : Holds ["id", "protocol", "port", "ports"] "protocol" protocol target)
      (h : Repeats ["tcp", "udp"] protocol) : RepeatsKey d
  | ports {target ports : Draft}
      (htarget : Holds ["source", "destination"] "destination" target d)
      (hports : Holds ["id", "protocol", "port", "ports"] "ports" ports target)
      (h : Repeats ["start", "end"] ports) : RepeatsKey d

/-! ## Refusing -/

section Refusing

variable {d : Draft}

/-- A protocol has one key. -/
lemma rejects_protocol (h : Repeats ["tcp", "udp"] d) : Rejects protocol d := by
  refine rejects_of_forall_ne_ok fun p hread => ?_
  obtain @⟨members, closed, name, -, htwice⟩ := h
  match members with
  | [] => cases hread
  | (none, _) :: _ => cases hread
  | (some key, value) :: [] =>
      have hone := List.length_filter_le (fun entry => entry.1 = some name) [(some key, value)]
      exact absurd htwice (Nat.not_lt.mpr hone)
  | (some key, value) :: other :: others =>
      simp only [protocol, bind_eq_ok_iff] at hread
      obtain ⟨_, -, _, -, hlast⟩ := hread
      cases hlast

lemma rejects_ports (h : Repeats ["start", "end"] d) : Rejects (optional ports) d := by
  obtain ⟨fault, hfault⟩ : Rejects ports d :=
    (Fields.rejects_of_repeats portsFields h "Ports").bind _
  have hnull : d ≠ .null := by
    rintro rfl
    cases h
  refine ⟨fault, ?_⟩
  rw [optional_of_ne_null hnull, hfault]
  rfl

lemma rejects_destination {key : String} {value : Draft}
    (hvalue : Holds ["id", "protocol", "port", "ports"] key value d)
    (h : Fields.Refuses destinationFields key value) : Rejects destination d :=
  (h.rejects (by decide) hvalue "RawDestination").bind _

lemma rejects_policy {key : String} {value : Draft}
    (hvalue : Holds ["source", "destination"] key value d)
    (h : Fields.Refuses policyFields key value) : Rejects policy d :=
  (h.rejects (by decide) hvalue "Policy").bind _

/-- A policy is refused if one of its objects has a known key twice. -/
lemma rejects_of_repeatsKey (h : RepeatsKey d) : Rejects policy d := by
  cases h with
  | policy h => exact (Fields.rejects_of_repeats policyFields h "Policy").bind _
  | source horigin h =>
      exact rejects_policy horigin
        (.first ((Fields.rejects_of_repeats (.cons "id" none text .nil) h "Source").bind _))
  | destination htarget h =>
      exact rejects_policy htarget
        (.later (.first ((Fields.rejects_of_repeats destinationFields h "RawDestination").bind _)))
  | protocol htarget hprotocol h =>
      exact rejects_policy htarget
        (.later (.first (rejects_destination hprotocol (.later (.first (rejects_protocol h))))))
  | ports htarget hports h =>
      exact rejects_policy htarget
        (.later (.first (rejects_destination hports
          (.later (.later (.later (.first (rejects_ports h))))))))

end Refusing

/-! ## Reading -/

/-- A spelling is read as the policy that means what it says, whichever way it is written. -/
lemma policy_of_spelled {w : Spelling} {d : Draft} {p : Policy} (h : SpellsPolicy w d)
    (hcomplete : d.isComplete = true) (hmeaning : w.Says p.meaning) : policy d = .ok p := by
  obtain ⟨hsource, hdestination, hrecord⟩ := h
  have hgiven := hrecord.isComplete_of_mem hcomplete
  have horigin := source_of_spelled hsource (hgiven ("source", _) List.mem_cons_self)
  have htarget := destination_of_spelled hdestination
    (hgiven ("destination", _) (List.mem_cons_of_mem _ List.mem_cons_self))
  have hmake := Destination.make_eq_ok_iff.mpr
    ⟨hmeaning.target.symm, hmeaning.protocol.symm, hmeaning.ports⟩
  rw [hmeaning.source] at horigin
  rw [hmake] at htarget
  exact policy_of_record hrecord hcomplete horigin htarget

/-- Each text of a policy is read as the policy. -/
lemma decode_of_isTextOf {p : Policy} {text : String} (h : IsTextOf p.meaning text) :
    decode policy (.ofText text) = .ok p := by
  obtain ⟨w, d, hmeaning, hspells, htext⟩ := h
  rw [Document.ofText_of_spelled htext, decode, policy_of_spelled hspells htext.complete hmeaning]
  rfl

/-- Policies are the same if their apps, their protocols and their ranges are. -/
lemma policy_eq_iff {p q : Policy} :
    p = q ↔ p.source = q.source ∧ p.destination.id = q.destination.id ∧
      p.destination.protocol = q.destination.protocol ∧
      p.destination.range = q.destination.range := by
  obtain ⟨source, id, protocol, range⟩ := p
  obtain ⟨source', id', protocol', range'⟩ := q
  simp only [Policy.mk.injEq, Destination.mk.injEq]

/-- **The spelling of a policy does not matter.**  Each of its texts is read as the policy, and two
texts are read alike exactly if they have the same source, the same destination, the same protocol
and the same ports.  Where a known key stands twice in one of the objects, the text is refused. -/
theorem texts_read_by_meaning :
    (∀ (p : Policy) (text : String), IsTextOf p.meaning text →
      decode policy (.ofText text) = .ok p) ∧
    (∀ (p q : Policy) (text other : String),
      IsTextOf p.meaning text → IsTextOf q.meaning other →
        (decode policy (.ofText text) = decode policy (.ofText other) ↔
          p.source = q.source ∧ p.destination.id = q.destination.id ∧
            p.destination.protocol = q.destination.protocol ∧
            p.destination.range = q.destination.range)) ∧
    (∀ (text : String) (d : Draft), d.SpelledBy text.toList → RepeatsKey d →
      ∃ fault, decode policy (.ofText text) = .error fault) := by
  refine ⟨fun p text => decode_of_isTextOf, fun p q text other htext hother => ?_,
    fun text d htext hrepeats => ?_⟩
  · rw [decode_of_isTextOf htext, decode_of_isTextOf hother, Except.ok.injEq, policy_eq_iff]
  · obtain ⟨fault, hfault⟩ := rejects_of_repeatsKey hrepeats
    refine ⟨fault, ?_⟩
    rw [Document.ofText_of_spelled htext, decode, hfault]
    rfl

/-! ## Three texts -/

/-- A connection to a server. -/
def toServer : Policy := ⟨"a", ⟨"b", .tcp, ⟨8443, 8443, some 8443, by decide, by decide, rfl⟩⟩⟩

/-- The ports of the connection, the last one first. -/
def serverPorts : Json :=
  .object [("end", .number 8443), ("step", .array [.null]), ("start", .number 8443)]

/-- The connection as objects within each other, with members in another order and among others. -/
def serverObjects : Json :=
  .object [("destination", .object [("ports", serverPorts), ("id", .string "b"),
      ("protocol", .string "tcp"), ("port", .null)]),
    ("note", .object [("source", .null), ("source", .null)]),
    ("source", .object [("id", .string "a")])]

/-- The connection as arrays within each other.  The last field of one is left out. -/
def serverArrays : Json :=
  .array [.array [.string "a"], .array [.string "b", .string "tcp", .number 8443]]

/-- A source with the same id twice. -/
def serverTwice : Json :=
  .object [("source", .object [("id", .string "a"), ("id", .string "a")]),
    ("destination", .array [.string "b", .string "tcp", .number 8443])]

lemma isTextOf_serverObjects : IsTextOf toServer.meaning serverObjects.render := by
  let w : Spelling := ⟨"a", "b", .tcp, none, some ⟨8443, 8443⟩⟩
  have hsource : SpellsSource w.source (Json.object [("id", .string "a")]).draft :=
    .record (@Record.written _ [("id", .string "a")])
  have hports : SpellsPair ⟨8443, 8443⟩ serverPorts.draft :=
    .record .digits .digits (@Record.among _ [("start", .number 8443), ("end", .number 8443)]
      [("step", .array [.null])] _ (@List.perm_append_comm _ [_, _] [_]) (by decide))
  have hdestination : SpellsDestination w.target w.protocol w.port w.ports
      (Json.object [("ports", serverPorts), ("id", .string "b"), ("protocol", .string "tcp"),
        ("port", .null)]).draft :=
    .record .name .null (.value hports) (@Record.among _ [("id", .string "b"),
      ("protocol", .string "tcp"), ("port", .null), ("ports", serverPorts)] [] _
      (@List.perm_append_comm _ [_] [_, _, _]) (by decide))
  refine ⟨w, _, ⟨rfl, rfl, rfl, .range _⟩, ?_, serverObjects.spelledBy_render⟩
  exact .record hsource hdestination (@Record.among _ [("source", _), ("destination", _)]
    [("note", _)] _ (@List.perm_append_comm _ [_, _] [_]) (by decide))

lemma isTextOf_serverArrays : IsTextOf toServer.meaning serverArrays.render := by
  let w : Spelling := ⟨"a", "b", .tcp, some 8443, none⟩
  have hsource : SpellsSource w.source (Json.array [.string "a"]).draft :=
    .record (@Record.array _ [("id", _)] (by decide))
  have hdestination : SpellsDestination w.target w.protocol w.port w.ports
      (Json.array [.string "b", .string "tcp", .number 8443]).draft :=
    .record .name (.value .digits) .omitted
      (@Record.array _ [("id", _), ("protocol", _), ("port", _)] (by decide))
  exact ⟨w, _, ⟨rfl, rfl, rfl, .port 8443⟩, .record hsource hdestination
    (@Record.array _ [("source", _), ("destination", _)] (by decide)),
    serverArrays.spelledBy_render⟩

lemma repeatsKey_serverTwice : RepeatsKey serverTwice.draft :=
  .source (.member List.mem_cons_self) (.object List.mem_cons_self (by decide))

/-- The connection is read from its objects and from its arrays alike, but not with two ids. -/
theorem texts_read_by_meaning_server :
    IsTextOf toServer.meaning serverObjects.render ∧
    IsTextOf toServer.meaning serverArrays.render ∧
    serverTwice.draft.SpelledBy serverTwice.render.toList ∧ RepeatsKey serverTwice.draft ∧
    decode policy (.ofText serverObjects.render) = .ok toServer ∧
    decode policy (.ofText serverObjects.render) = decode policy (.ofText serverArrays.render) ∧
    ∃ fault, decode policy (.ofText serverTwice.render) = .error fault := by
  obtain ⟨hread, halike, hrefused⟩ := texts_read_by_meaning
  have hobjects := isTextOf_serverObjects
  have harrays := isTextOf_serverArrays
  have htwice := serverTwice.spelledBy_render
  exact ⟨hobjects, harrays, htwice, repeatsKey_serverTwice, hread toServer _ hobjects,
    (halike toServer toServer _ _ hobjects harrays).mpr ⟨rfl, rfl, rfl, rfl⟩,
    hrefused _ _ htwice repeatsKey_serverTwice⟩

end NetworkPolicy.Wire
