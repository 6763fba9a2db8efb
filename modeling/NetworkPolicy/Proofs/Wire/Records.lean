import Mathlib.Data.List.Nodup
import Mathlib.Tactic.Common
import NetworkPolicy.Proofs.Except
import NetworkPolicy.Proofs.Json.Reading
import NetworkPolicy.Wire.Decoder

/-!
# Reading records

A record is an object that has its fields as members, in any order and among members that are no
fields, or an array of its fields in their order (`Record`).  Fields that may be left out can be
missing (`Fields.Reads`).

* `Fields.foldlM_member_cons` — the members of one field are read apart from all others, so their
  order does not matter.
* `Fields.Reads.record_eq` — a record is read from what is given for its fields.
* `Fields.rejects_of_repeats`, `Fields.Refuses.rejects` — it is refused if a key names a field
  twice, and if the value of a field is refused.
* `Recovers` — a decoder that reads every value from what is written for it, with text and lists.
-/

namespace NetworkPolicy.Wire

/-- The draft is refused. -/
def Rejects {α : Type} (read : Decoder α) (d : Draft) : Prop := ∃ fault, read d = .error fault

lemma rejects_of_forall_ne_ok {α : Type} {read : Decoder α} {d : Draft}
    (h : ∀ v, read d ≠ .ok v) : Rejects read d := by
  cases hread : read d with
  | ok v => exact absurd hread (h v)
  | error fault => exact ⟨fault, hread⟩

/-- What is made of a value is not made where the value is refused. -/
lemma Rejects.bind {α β : Type} {read : Decoder α} {d : Draft} (h : Rejects read d)
    (f : α → Except Fault β) : Rejects (fun d => read d >>= f) d := by
  obtain ⟨fault, hfault⟩ := h
  exact ⟨fault, bind_eq_error_iff.mpr (.inl hfault)⟩

/-! ## Records -/

/-- Members of an object.  Their keys are texts. -/
def entries (given : List (String × Draft)) : List (Option String × Draft) :=
  given.map fun (name, value) => (some name, value)

/-- The draft gives some of the fields of a record. -/
inductive Record (names : List String) (given : List (String × Draft)) : Draft → Prop where
  | object {members : List (Option String × Draft)} {extra : List (String × Draft)}
      (hmembers : members.Perm (entries (given ++ extra)))
      (hextra : ∀ member ∈ extra, member.1 ∉ names) : Record names given (.object members true)
  | array (hgiven : given.map Prod.fst <+: names) :
      Record names given (.array (given.map Prod.snd) true)

/-- The draft has the value in the place of the field. -/
inductive Holds (names : List String) (name : String) (value : Draft) : Draft → Prop where
  | member {members : List (Option String × Draft)} {closed : Bool}
      (h : (some name, value) ∈ members) : Holds names name value (.object members closed)
  | item {items : List Draft} {closed : Bool} (h : (name, value) ∈ names.zip items) :
      Holds names name value (.array items closed)

/-- The draft is an object in which a key names one of the fields more than once. -/
inductive Repeats (names : List String) : Draft → Prop where
  | object {members : List (Option String × Draft)} {closed : Bool} {name : String}
      (hname : name ∈ names) (h : 1 < (members.filter fun member => member.1 = some name).length) :
      Repeats names (.object members closed)

lemma forall_isComplete_of_allComplete {items : List Draft} (h : Draft.allComplete items = true) :
    ∀ item ∈ items, item.isComplete = true := by
  induction items with
  | nil => exact List.forall_mem_nil _
  | cons item items ih =>
      obtain ⟨hitem, hitems⟩ := Bool.and_eq_true_iff.mp h
      exact List.forall_mem_cons.mpr ⟨hitem, ih hitems⟩

lemma forall_isComplete_of_allMembersComplete {members : List (Option String × Draft)}
    (h : Draft.allMembersComplete members = true) :
    ∀ member ∈ members, member.2.isComplete = true := by
  induction members with
  | nil => exact List.forall_mem_nil _
  | cons member members ih =>
      obtain ⟨hmember, hmembers⟩ := Bool.and_eq_true_iff.mp h
      exact List.forall_mem_cons.mpr ⟨hmember, ih hmembers⟩

/-- Nothing is missing in the fields of a record in which nothing is missing. -/
lemma Record.isComplete_of_mem {names : List String} {given : List (String × Draft)} {d : Draft}
    (h : Record names given d) (hcomplete : d.isComplete = true) :
    ∀ field ∈ given, field.2.isComplete = true := by
  intro field hfield
  cases h with
  | @object members extra hmembers hextra =>
      have hentry : (some field.1, field.2) ∈ members :=
        hmembers.mem_iff.mpr (List.mem_map_of_mem (List.mem_append_left _ hfield))
      exact forall_isComplete_of_allMembersComplete hcomplete _ hentry
  | array hgiven =>
      exact forall_isComplete_of_allComplete hcomplete _ (List.mem_map_of_mem hfield)

/-- What is read of members that are written. -/
def drafts (members : List (String × Json)) : List (String × Draft) :=
  members.map fun (name, value) => (name, value.draft)

lemma drafts_append (front back : List (String × Json)) :
    drafts (front ++ back) = drafts front ++ drafts back := List.map_append

lemma memberDrafts_eq (members : List (String × Json)) :
    Json.memberDrafts members = entries (drafts members) := by
  induction members with
  | nil => rfl
  | cons member members ih =>
      rw [Json.memberDrafts, ih]
      rfl

/-- An object that is written for the fields of a record, with others among them. -/
lemma Record.among {names : List String} {given extra members : List (String × Json)}
    (hmembers : members.Perm (given ++ extra)) (hextra : ∀ member ∈ extra, member.1 ∉ names) :
    Record names (drafts given) (Json.object members).draft := by
  have hdrafts : (drafts members).Perm (drafts given ++ drafts extra) := by
    rw [← drafts_append]
    exact hmembers.map _
  rw [Json.draft, memberDrafts_eq]
  exact .object (hdrafts.map _) (List.forall_mem_map.mpr hextra)

lemma Record.written {names : List String} {given : List (String × Json)} :
    Record names (drafts given) (Json.object given).draft :=
  .among (by rw [List.append_nil]) (List.forall_mem_nil _)

namespace Fields

/-- The names of the fields. -/
def names : {σ α : Type} → Fields σ α → List String
  | _, _, .nil => []
  | _, _, .cons name _ _ rest => name :: rest.names

/-- What is given for fields, in their order, is read as the record.  The other fields may be left
out. -/
inductive Reads : {σ α : Type} → Fields σ α → List (String × Draft) → α → Prop where
  | nil : Reads .nil [] ()
  | field {α σ β : Type} {name : String} {absent : Option α} {read : Decoder α} {rest : Fields σ β}
      {value : Draft} {v : α} {given : List (String × Draft)} {r : β} (hread : read value = .ok v)
      (hrest : Reads rest given r) :
      Reads (.cons name absent read rest) ((name, value) :: given) (v, r)
  | absent {α σ β : Type} {name : String} {v : α} {read : Decoder α} {rest : Fields σ β}
      {given : List (String × Draft)} {r : β} (hrest : Reads rest given r) :
      Reads (.cons name (some v) read rest) given (v, r)

lemma Reads.sublist_names {σ α : Type} {fields : Fields σ α} {given : List (String × Draft)} {r : α}
    (h : Reads fields given r) : (given.map Prod.fst).Sublist fields.names := by
  induction h with
  | nil => exact .slnil
  | field _ _ ih => exact ih.cons_cons _
  | absent _ ih => exact ih.cons _

/-! ### Members -/

section Members

variable {α σ β : Type} {name : String} {absent : Option α} {read : Decoder α} {rest : Fields σ β}
  {members : List (Option String × Draft)}

/-- Reads the value of a field into its slot. -/
def fill (name : String) (read : Decoder α) (slot : Option α) (entry : Option String × Draft) :
    Except Fault (Option α) :=
  match slot with
  | some _ => .error (.duplicateField name)
  | none => (read entry.2).map some

lemma member_cons_self (slot : Option α) (slots : σ) {entry : Option String × Draft}
    (h : entry.1 = some name) :
    (cons name absent read rest).member (slot, slots) entry
      = (fill name read slot entry).map fun slot => (slot, slots) := by
  obtain ⟨key, value⟩ := entry
  cases h
  cases slot with
  | some v => simp only [member, put, if_true, fill, Except.map]
  | none =>
      simp only [member, put, if_true, fill]
      cases read value <;> rfl

/-- A member with another key leaves the slot of the first field as it is. -/
lemma member_cons_of_ne (slot : Option α) (slots : σ) {entry : Option String × Draft}
    (h : entry.1 ≠ some name) :
    (cons name absent read rest).member (slot, slots) entry
      = (rest.member slots entry).map fun slots => (slot, slots) := by
  obtain ⟨_ | key, value⟩ := entry
  · rfl
  · have hkey : key ≠ name := fun heq => h (congrArg some heq)
    simp only [member, put, if_neg hkey]
    cases rest.put key value slots with
    | some result => rfl
    | none =>
        simp only [Option.map_none]
        split <;> rfl

/-- The members of a field are read into its slot, and apart from them all others are read into the
other slots. -/
lemma foldlM_member_cons (members : List (Option String × Draft)) :
    ∀ {slot slot' : Option α} {slots slots' : σ},
      members.foldlM (cons name absent read rest).member (slot, slots) = .ok (slot', slots')
        ↔ (members.filter fun member => member.1 = some name).foldlM (fill name read) slot
            = .ok slot' ∧
          (members.filter fun member => member.1 ≠ some name).foldlM rest.member slots
            = .ok slots' := by
  induction members with
  | nil =>
      intro slot slot' slots slots'
      show Except.ok (slot, slots) = _ ↔ Except.ok slot = _ ∧ Except.ok slots = _
      simp
  | cons entry members ih =>
      intro slot slot' slots slots'
      by_cases hentry : entry.1 = some name
      · rw [List.filter_cons_of_pos (by simpa using hentry),
          List.filter_cons_of_neg (by simpa using hentry),
          List.foldlM_cons, List.foldlM_cons, member_cons_self slot slots hentry, bind_eq_ok_iff,
          bind_eq_ok_iff]
        simp only [map_eq_ok_iff]
        constructor
        · rintro ⟨_, ⟨filled, hfilled, rfl⟩, hrest⟩
          obtain ⟨hslot, hslots⟩ := ih.mp hrest
          exact ⟨⟨filled, hfilled, hslot⟩, hslots⟩
        · rintro ⟨⟨filled, hfilled, hslot⟩, hslots⟩
          exact ⟨_, ⟨filled, hfilled, rfl⟩, ih.mpr ⟨hslot, hslots⟩⟩
      · rw [List.filter_cons_of_neg (by simpa using hentry),
          List.filter_cons_of_pos (by simpa using hentry),
          List.foldlM_cons, List.foldlM_cons, member_cons_of_ne slot slots hentry, bind_eq_ok_iff,
          bind_eq_ok_iff]
        simp only [map_eq_ok_iff]
        constructor
        · rintro ⟨_, ⟨read, hread, rfl⟩, hrest⟩
          obtain ⟨hslot, hslots⟩ := ih.mp hrest
          exact ⟨hslot, read, hread, hslots⟩
        · rintro ⟨hslot, read, hread, hslots⟩
          exact ⟨_, ⟨read, hread, rfl⟩, ih.mpr ⟨hslot, hslots⟩⟩

/-- Members that are no fields are skipped, as long as nothing is missing in them. -/
lemma foldlM_member_nil (hmembers : ∀ member ∈ members,
      member.1.isSome ∧ member.2.isComplete = true) :
    members.foldlM Fields.nil.member () = .ok () := by
  induction members with
  | nil => rfl
  | cons entry members ih =>
      obtain ⟨⟨hkey, hvalue⟩, hrest⟩ := List.forall_mem_cons.mp hmembers
      obtain ⟨key, value⟩ := entry
      obtain ⟨key, rfl⟩ := Option.isSome_iff_exists.mp hkey
      have hskipped : Fields.nil.member () (some key, value) = .ok () := if_pos hvalue
      rw [List.foldlM_cons, hskipped]
      exact ih hrest

end Members

/-! ### Reading -/

section Reading

variable {σ α : Type} {fields : Fields σ α} {given : List (String × Draft)} {r : α}

/-- Among members in any order those with one key and the others are found apart. -/
lemma filter_key {name : String} (values : List Draft) {others : List (String × Draft)}
    {members : List (Option String × Draft)} (hothers : ∀ member ∈ others, member.1 ≠ name)
    (h : members.Perm (entries (values.map (name, ·) ++ others))) :
    (members.filter fun entry => entry.1 = some name).Perm (entries (values.map (name, ·))) ∧
      (members.filter fun entry => entry.1 ≠ some name).Perm (entries others) := by
  have hkey : ∀ entry ∈ entries (values.map (name, ·)), entry.1 = some name := by simp [entries]
  have hne : ∀ entry ∈ entries others, entry.1 ≠ some name :=
    List.forall_mem_map.mpr fun member hmember heq =>
      hothers member hmember (Option.some_inj.mp heq)
  have hfront : (entries (values.map (name, ·))).filter (fun entry => entry.1 = some name)
      = entries (values.map (name, ·)) := List.filter_eq_self.mpr (by simpa using hkey)
  have hfront' : (entries (values.map (name, ·))).filter (fun entry => entry.1 ≠ some name) = [] :=
    List.filter_eq_nil_iff.mpr (by simpa using hkey)
  have hback : (entries others).filter (fun entry => entry.1 = some name) = [] :=
    List.filter_eq_nil_iff.mpr (by simpa using hne)
  have hback' : (entries others).filter (fun entry => entry.1 ≠ some name) = entries others :=
    List.filter_eq_self.mpr (by simpa using hne)
  rw [entries, List.map_append] at h
  constructor
  · have hnamed := h.filter fun entry => entry.1 = some name
    rwa [List.filter_append, ← entries, ← entries, hfront, hback, List.append_nil] at hnamed
  · have hrest := h.filter fun entry => entry.1 ≠ some name
    rwa [List.filter_append, ← entries, ← entries, hfront', hback', List.nil_append] at hrest

/-- A name that is none of the further fields is no key of theirs. -/
lemma Reads.ne_of_mem (h : Reads fields given r) {name : String} (hname : name ∉ fields.names)
    {extra : List (String × Draft)} (hextra : ∀ member ∈ extra, member.1 ∉ name :: fields.names) :
    ∀ member ∈ given ++ extra, member.1 ≠ name := by
  rintro member hmember rfl
  rcases List.mem_append.mp hmember with hgiven | hgiven
  · exact hname (h.sublist_names.subset (List.mem_map_of_mem hgiven))
  · exact hextra member hgiven List.mem_cons_self

/-- The slots that the members fill make the record. -/
lemma Reads.exists_slots (h : Reads fields given r) (hnames : fields.names.Nodup)
    {extra : List (String × Draft)} (hcomplete : ∀ member ∈ extra, member.2.isComplete = true) :
    ∀ {members : List (Option String × Draft)}, members.Perm (entries (given ++ extra)) →
      (∀ member ∈ extra, member.1 ∉ fields.names) →
        ∃ slots, members.foldlM fields.member fields.blank = .ok slots ∧
          fields.finish slots = .ok r := by
  induction h with
  | nil =>
      intro members hmembers _
      refine ⟨(), foldlM_member_nil fun member hmember => ?_, rfl⟩
      obtain ⟨entry, hentry, rfl⟩ := List.mem_map.mp (hmembers.mem_iff.mp hmember)
      exact ⟨rfl, hcomplete entry hentry⟩
  | @field _ _ _ name absent read rest value v given r hread hrest ih =>
      intro members hmembers hextra
      obtain ⟨hname, hnames⟩ := List.nodup_cons.mp hnames
      obtain ⟨hfirst, hothers⟩ := filter_key [value] (hrest.ne_of_mem hname hextra)
        hmembers
      obtain ⟨slots, hslots, hfinish⟩ := ih hnames hothers fun member hmember hmem =>
        hextra member hmember (List.mem_cons_of_mem _ hmem)
      have hfilled : (members.filter fun member => member.1 = some name).foldlM (fill name read)
          none = .ok (some v) := by
        rw [List.perm_singleton.mp hfirst]
        simp [fill, hread, Except.map]
      refine ⟨(some v, slots), (foldlM_member_cons members).mpr ⟨hfilled, hslots⟩, ?_⟩
      rw [finish, Option.some_or, hfinish]
      rfl
  | @absent _ _ _ name v read rest given r hrest ih =>
      intro members hmembers hextra
      obtain ⟨hname, hnames⟩ := List.nodup_cons.mp hnames
      obtain ⟨hfirst, hothers⟩ := filter_key [] (hrest.ne_of_mem hname hextra) hmembers
      obtain ⟨slots, hslots, hfinish⟩ := ih hnames hothers fun member hmember hmem =>
        hextra member hmember (List.mem_cons_of_mem _ hmem)
      have hfilled : (members.filter fun member => member.1 = some name).foldlM (fill name read)
          none = .ok none := by
        rw [List.perm_nil.mp hfirst]
        rfl
      refine ⟨(none, slots), (foldlM_member_cons members).mpr ⟨hfilled, hslots⟩, ?_⟩
      rw [finish, Option.none_or, hfinish]
      rfl

/-- The array of the fields in their order, up to the last one that is there. -/
lemma Reads.ofItems_eq (h : Reads fields given r) (hnames : fields.names.Nodup)
    (hgiven : given.map Prod.fst <+: fields.names) (refusal : Nat → Fault) :
    ∀ n, fields.ofItems refusal n (given.map Prod.snd) true = .ok r := by
  induction h with
  | nil => exact fun _ => rfl
  | @field _ _ _ name absent read rest value v given r hread hrest ih =>
      intro n
      have hrest' := ih (List.nodup_cons.mp hnames).2 (List.cons_prefix_cons.mp hgiven).2 (n + 1)
      simp only [List.map_cons, ofItems, hread, hrest']
      rfl
  | @absent _ _ _ name v read rest given r hrest ih =>
      intro n
      obtain ⟨hname, hnames⟩ := List.nodup_cons.mp hnames
      cases given with
      | nil =>
          have hrest' := ih hnames List.nil_prefix (n + 1)
          rw [List.map_nil] at hrest'
          simp only [List.map_nil, ofItems, hrest']
          rfl
      | cons entry given =>
          -- what comes first is a later field, so this one has been left out in front of it
          have hfirst : entry.1 = name := (List.cons_prefix_cons.mp hgiven).1
          exact absurd (hrest.sublist_names.subset (hfirst ▸ List.mem_cons_self)) hname

/-- **A record is read from what is given for its fields**, in whichever way it is written. -/
theorem Reads.record_eq (h : Reads fields given r) (hnames : fields.names.Nodup) {d : Draft}
    (hd : Record fields.names given d) (hcomplete : d.isComplete = true) (name : String) :
    record name fields d = .ok r := by
  cases hd with
  | @object members extra hmembers hextra =>
      have hextra' : ∀ member ∈ extra, member.2.isComplete = true := by
        intro member hmember
        have hentry : (some member.1, member.2) ∈ members :=
          hmembers.mem_iff.mpr (List.mem_map_of_mem (List.mem_append_right _ hmember))
        exact forall_isComplete_of_allMembersComplete hcomplete _ hentry
      obtain ⟨slots, hslots, hfinish⟩ := h.exists_slots hnames hextra' hmembers hextra
      rw [record, ofMembers, hslots]
      exact hfinish
  | array hgiven => exact h.ofItems_eq hnames hgiven _ 0

/-- An object that is written is read as the record of its fields. -/
lemma Reads.object_eq {given : List (String × Json)} (h : Reads fields (drafts given) r)
    (hnames : fields.names.Nodup) (name : String) :
    record name fields (Json.object given).draft = .ok r :=
  h.record_eq hnames .written (Json.isComplete_draft _) name

end Reading

/-! ### Refusing -/

section Refusing

variable {σ α : Type} {fields : Fields σ α} {key : String} {value d : Draft}

/-- The value is refused in the place of the field. -/
inductive Refuses : {σ α : Type} → Fields σ α → String → Draft → Prop where
  | first {α σ β : Type} {name : String} {absent : Option α} {read : Decoder α} {rest : Fields σ β}
      {value : Draft} (hread : Rejects read value) :
      Refuses (.cons name absent read rest) name value
  | later {α σ β : Type} {name key : String} {absent : Option α} {read : Decoder α}
      {rest : Fields σ β} {value : Draft} (hrest : Refuses rest key value) :
      Refuses (.cons name absent read rest) key value

lemma Refuses.mem_names (h : Refuses fields key value) : key ∈ fields.names := by
  induction h with
  | first _ => exact List.mem_cons_self
  | later _ ih => exact List.mem_cons_of_mem _ ih

/-- A slot is filled once. -/
lemma foldlM_fill_ne_ok {name : String} {read : Decoder α} :
    ∀ {named : List (Option String × Draft)}, 1 < named.length →
      ∀ slot slot', named.foldlM (fill name read) slot ≠ .ok slot'
  | first :: second :: named, _, slot, slot' => by
      intro hread
      rw [List.foldlM_cons, bind_eq_ok_iff] at hread
      obtain ⟨filled, hfirst, hread⟩ := hread
      rw [List.foldlM_cons, bind_eq_ok_iff] at hread
      obtain ⟨_, hsecond, -⟩ := hread
      cases slot with
      | some _ => cases hfirst
      | none =>
          obtain ⟨v, -, rfl⟩ := map_eq_ok_iff.mp hfirst
          cases hsecond

/-- The members are not read if two of them have the name of one field. -/
lemma foldlM_member_ne_ok {members : List (Option String × Draft)} (hkey : key ∈ fields.names)
    (h : 1 < (members.filter fun entry => entry.1 = some key).length) :
    ∀ slots slots', members.foldlM fields.member slots ≠ .ok slots' := by
  induction fields generalizing members with
  | nil => exact absurd hkey List.not_mem_nil
  | cons name absent read rest ih =>
      rintro ⟨slot, slots⟩ ⟨slot', slots'⟩ hread
      obtain ⟨hnamed, hothers⟩ := (foldlM_member_cons members).mp hread
      by_cases heq : key = name
      · subst heq
        exact foldlM_fill_ne_ok h slot slot' hnamed
      · have hrest : key ∈ rest.names := (List.mem_cons.mp hkey).resolve_left heq
        have hsame : ((members.filter fun entry => entry.1 ≠ some name).filter
            fun entry => entry.1 = some key) = members.filter fun entry => entry.1 = some key := by
          rw [List.filter_filter]
          refine List.filter_congr fun entry _ => ?_
          simp only [Bool.and_eq_left_iff_imp, decide_eq_true_eq]
          rintro hentry hname
          exact heq (Option.some_inj.mp (hentry.symm.trans hname))
        exact ih hrest (hsame ▸ h) slots slots' hothers

/-- An object is refused if one of its keys names a field twice. -/
theorem rejects_of_repeats (fields : Fields σ α) (h : Repeats fields.names d) (name : String) :
    Rejects (record name fields) d := by
  obtain ⟨hkey, hrepeated⟩ := h
  refine rejects_of_forall_ne_ok fun r hread => ?_
  rw [record, ofMembers, bind_eq_ok_iff] at hread
  obtain ⟨slots, hslots, -⟩ := hread
  exact foldlM_member_ne_ok hkey hrepeated _ _ hslots

lemma Refuses.member_ne_ok (h : Refuses fields key value) (hnames : fields.names.Nodup) :
    ∀ slots slots', fields.member slots (some key, value) ≠ .ok slots' := by
  induction h with
  | first hread =>
      rintro ⟨slot, slots⟩ slots' hmember
      rw [member_cons_self slot slots rfl, map_eq_ok_iff] at hmember
      obtain ⟨filled, hfilled, -⟩ := hmember
      obtain ⟨fault, hfault⟩ := hread
      cases slot with
      | some _ => cases hfilled
      | none =>
          simp only [fill, hfault] at hfilled
          cases hfilled
  | @later _ _ _ name key absent read rest value hrest ih =>
      rintro ⟨slot, slots⟩ slots' hmember
      obtain ⟨hname, hnames⟩ := List.nodup_cons.mp hnames
      have hne : some key ≠ some name := fun heq => hname (Option.some_inj.mp heq ▸ hrest.mem_names)
      rw [member_cons_of_ne slot slots hne, map_eq_ok_iff] at hmember
      obtain ⟨read, hread, -⟩ := hmember
      exact ih hnames _ _ hread

lemma Refuses.ofItems_ne_ok (h : Refuses fields key value) (hnames : fields.names.Nodup)
    {refusal : Nat → Fault} {closed : Bool} :
    ∀ {items : List Draft}, (key, value) ∈ fields.names.zip items →
      ∀ n r, fields.ofItems refusal n items closed ≠ .ok r := by
  induction h with
  | @first _ _ _ name absent read rest value hread =>
      intro items hitem n r hitems
      obtain ⟨hname, -⟩ := List.nodup_cons.mp hnames
      cases items with
      | nil => exact absurd hitem List.not_mem_nil
      | cons item items =>
          rcases List.mem_cons.mp hitem with hitem | hitem
          · cases hitem
            obtain ⟨fault, hfault⟩ := hread
            rw [ofItems, hfault] at hitems
            cases hitems
          · exact hname (List.of_mem_zip hitem).1
  | @later _ _ _ name key absent read rest value hrest ih =>
      intro items hitem n r hitems
      obtain ⟨hname, hnames⟩ := List.nodup_cons.mp hnames
      cases items with
      | nil => exact absurd hitem List.not_mem_nil
      | cons item items =>
          rcases List.mem_cons.mp hitem with hitem | hitem
          · cases hitem
            exact hname hrest.mem_names
          · simp only [ofItems, bind_eq_ok_iff] at hitems
            obtain ⟨v, -, r, hr, -⟩ := hitems
            exact ih hnames hitem _ _ hr

/-- A record is refused if the value of a field is refused. -/
theorem Refuses.rejects (h : Refuses fields key value) (hnames : fields.names.Nodup)
    (hvalue : Holds fields.names key value d) (name : String) :
    Rejects (record name fields) d := by
  refine rejects_of_forall_ne_ok fun r hread => ?_
  cases hvalue with
  | @member members closed hmember =>
      rw [record, ofMembers, bind_eq_ok_iff] at hread
      obtain ⟨slots, hslots, -⟩ := hread
      obtain ⟨front, back, rfl⟩ := List.append_of_mem hmember
      rw [List.foldlM_append, bind_eq_ok_iff] at hslots
      obtain ⟨before, -, hslots⟩ := hslots
      rw [List.foldlM_cons, bind_eq_ok_iff] at hslots
      obtain ⟨_, hentry, -⟩ := hslots
      exact h.member_ne_ok hnames _ _ hentry
  | item hitem => exact h.ofItems_ne_ok hnames hitem 0 r hread

end Refusing

end Fields

/-! ## Parts -/

variable {α : Type}

/-- A field that may be left out reads as it is what is no null. -/
lemma optional_of_ne_null {read : Decoder α} {d : Draft} (h : d ≠ .null) :
    optional read d = (read d).map some := by
  unfold optional
  split
  case h_1 => exact absurd rfl h
  case h_2 => rfl

/-- What is written for a value is read as that value. -/
def Recovers (read : Decoder α) (write : α → Json) : Prop := ∀ v, read (write v).draft = .ok v

lemma recovers_text : Recovers text .string := fun _ => rfl

lemma Recovers.list {item : Decoder α} {write : α → Json} (h : Recovers item write) :
    Recovers (list item) fun values => .array (values.map write) := by
  intro values
  have hitems : (Json.itemDrafts (values.map write)).mapM item = .ok values := by
    induction values with
    | nil => rfl
    | cons v values ih =>
        rw [List.map_cons, Json.itemDrafts, List.mapM_cons, h v, ih]
        rfl
  simp only [Json.draft, Wire.list, hitems]
  rfl

end NetworkPolicy.Wire
