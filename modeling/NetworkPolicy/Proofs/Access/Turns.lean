import Mathlib.Tactic.Common
import NetworkPolicy.Proofs.Access.Exchanges
import NetworkPolicy.Proofs.Access.Replies

/-!
# Lookups and their replies

Over the network a lookup is a call and its reply.  A call may not come about, it may break off, and
the reply may have any status and any body; the same call may even be replied to differently when it
is made again.  What is made of all this is read off *turns*: the lookups that a program makes, each
with the reply that came.

* `Remote.converse` — runs a program of lookups and keeps its turns; `fst_converse` says that this
  does not change the run.
* `Turn.exchange` — what a turn comes to: the lookup and its answer, with the reply forgotten.
* `Program.Course` — the turns that a program can take and how it then ends, without the network
  that made them.  Every run is such a course (`course_converse`), and turns are a course exactly if
  their exchanges are a log (`course_iff_logs`).
* `Guard.Action.Course` — the same for programs that may end in an access error.
-/

namespace NetworkPolicy

variable {σ α β : Type}

/-! ## Turns -/

/-- A lookup, and the reply to it if one came. -/
structure Turn where
  lookup : Lookup
  reply : Option Reply

namespace Turn

/-- What the turn comes to: the lookup, and the answer that is read from the reply. -/
def exchange (turn : Turn) : Exchange := ⟨turn.lookup, Remote.readOrFail turn.lookup turn.reply⟩

lemma exchange_eq_iff {turn : Turn} {q : Lookup} {answer : q.Answer} :
    turn.exchange = ⟨q, answer⟩
      ↔ ∃ reply, turn = ⟨q, reply⟩ ∧ Remote.readOrFail q reply = answer := by
  constructor
  · obtain ⟨lookup, reply⟩ := turn
    intro h
    cases h
    exact ⟨reply, rfl, rfl⟩
  · rintro ⟨reply, rfl, rfl⟩
    rfl

/-- Turns that come to an exchange for each entry of a list, one by one. -/
lemma forall₂_of_map_exchange {R : α → Turn → Prop} {f : α → Exchange}
    (hR : ∀ entry turn, turn.exchange = f entry → R entry turn) {entries : List α}
    {turns : List Turn} (h : turns.map exchange = entries.map f) :
    List.Forall₂ R entries turns := by
  have hsame : List.Forall₂ (· = ·) (entries.map f) (turns.map exchange) := by
    rw [List.forall₂_eq_eq_eq, h]
  rw [List.forall₂_map_left_iff, List.forall₂_map_right_iff] at hsame
  exact hsame.imp fun entry turn heq => hR entry turn heq.symm

end Turn

namespace Remote

/-- The reply to a lookup.  None comes if no call can be made of the lookup, or if the call breaks
off. -/
def reply? (r : Remote) (upstream : Call → StateM σ (Option Reply)) (q : Lookup) :
    StateM σ (Option Reply) :=
  match r.call? q with
  | some call => upstream call
  | none => return none

/-- The result of a program of lookups that are made over the network, and its turns. -/
def converse (r : Remote) (upstream : Call → StateM σ (Option Reply)) :
    Program Lookup.Answer α → StateM σ (α × List Turn)
  | .done a => return (a, [])
  | .step q next => do
    let reply ← r.reply? upstream q
    let (a, later) ← converse r upstream (next (readOrFail q reply))
    return (a, ⟨q, reply⟩ :: later)

variable (r : Remote) (upstream : Call → StateM σ (Option Reply))

lemma answer_eq_reply? (q : Lookup) :
    r.answer upstream q = readOrFail q <$> r.reply? upstream q := by
  unfold answer reply?
  cases r.call? q with
  | some call => rfl
  | none => rfl

/-- To keep the turns of a program does not change what it does. -/
lemma fst_converse (p : Program Lookup.Answer α) :
    Prod.fst <$> r.converse upstream p = p.runM (r.answer upstream) := by
  induction p with
  | done a => rfl
  | step q next ih =>
      simp only [converse, Program.runM, answer_eq_reply?, map_bind, map_pure, bind_map_left, ← ih]
      rfl

end Remote

namespace Program

open Remote

/-- The program can take the turns, and then it ends with the result. -/
def Course : Program Lookup.Answer α → List Turn → α → Prop
  | .done a, turns, b => turns = [] ∧ a = b
  | .step q next, turns, b => ∃ reply later, turns = ⟨q, reply⟩ :: later ∧
      (next (readOrFail q reply)).Course later b

/-- Turns are a course exactly if their exchanges are a log. -/
lemma course_iff_logs {p : Program Lookup.Answer α} {a : α} :
    ∀ {turns : List Turn}, p.Course turns a ↔ p.Logs (turns.map Turn.exchange) a := by
  induction p with
  | done b =>
      intro turns
      constructor
      · rintro ⟨rfl, rfl⟩
        exact .done b
      · intro h
        generalize hlog : turns.map Turn.exchange = log at h
        cases h
        exact ⟨List.map_eq_nil_iff.mp hlog, rfl⟩
  | step q next ih =>
      intro turns
      constructor
      · rintro ⟨reply, later, rfl, h⟩
        exact .step (readOrFail q reply) ((ih _).mp h)
      · intro h
        -- the log has to be a variable before its first exchange can be read off
        generalize hlog : turns.map Turn.exchange = log at h
        obtain _ | ⟨answer, h⟩ := h
        obtain ⟨turn, later, rfl, hturn, rfl⟩ := List.map_eq_cons_iff.mp hlog
        obtain ⟨reply, rfl, rfl⟩ := Turn.exchange_eq_iff.mp hturn
        exact ⟨reply, later, rfl, (ih _).mpr h⟩

/-- Whatever the network does, a run is one of the courses that the program can take. -/
lemma course_converse (p : Program Lookup.Answer α) (r : Remote)
    (upstream : Call → StateM σ (Option Reply)) : ∀ start : σ,
    p.Course ((r.converse upstream p).run start).1.2 ((r.converse upstream p).run start).1.1 := by
  induction p with
  | done a => exact fun _ => ⟨rfl, rfl⟩
  | step q next ih =>
      intro start
      exact ⟨_, _, rfl, ih _ _⟩

end Program

namespace Guard

open Remote

/-- The action can take the turns, and then it ends with the result. -/
def Action.Course (action : Action α) (turns : List Turn) (result : Except AccessError α) : Prop :=
  action.run.Course turns result

lemma course_pure {a : α} {turns : List Turn} {result : Except AccessError α} :
    Action.Course (pure a) turns result ↔ turns = [] ∧ .ok a = result := Iff.rfl

/-- After an error an action takes no more turns. -/
lemma course_action_bind {x : Action α} {f : α → Action β} {turns : List Turn}
    {result : Except AccessError β} (h : Action.Course (x >>= f) turns result) :
    (∃ earlier later a, turns = earlier ++ later ∧ x.Course earlier (.ok a) ∧
        (f a).Course later result) ∨
      ∃ e, x.Course turns (.error e) ∧ result = .error e := by
  obtain ⟨_, _, a, hlog, hx, hf⟩ | ⟨e, hx, rfl⟩ :=
    logs_action_bind.mp (Program.course_iff_logs.mp h)
  · obtain ⟨earlier, later, rfl, rfl, rfl⟩ := List.map_eq_append_iff.mp hlog
    exact .inl ⟨earlier, later, a, rfl, Program.course_iff_logs.mpr hx,
      Program.course_iff_logs.mpr hf⟩
  · exact .inr ⟨e, Program.course_iff_logs.mpr hx, rfl⟩

/-- An action that begins with a lookup goes on with its answer, or ends with its failure. -/
lemma course_look_bind {q : Lookup} {wrap : LookupFault → AccessError} {f : q.Value → Action β}
    {turns : List Turn} {result : Except AccessError β}
    (h : Action.Course (look q wrap >>= f) turns result) :
    ∃ reply later, turns = ⟨q, reply⟩ :: later ∧
      ((∃ v, readOrFail q reply = Except.ok v ∧ (f v).Course later result) ∨
        ∃ cause, Failed q reply cause ∧ later = [] ∧ result = .error (wrap cause)) := by
  obtain ⟨v, _, hlog, hlater⟩ | ⟨cause, hlog, rfl⟩ :=
    logs_look_bind.mp (Program.course_iff_logs.mp h)
  · obtain ⟨turn, later, rfl, hturn, rfl⟩ := List.map_eq_cons_iff.mp hlog
    obtain ⟨reply, rfl, hread⟩ := Turn.exchange_eq_iff.mp hturn
    exact ⟨reply, later, rfl, .inl ⟨v, hread, Program.course_iff_logs.mpr hlater⟩⟩
  · obtain ⟨turn, rfl, hturn⟩ := List.map_eq_singleton_iff.mp hlog
    obtain ⟨reply, rfl, hread⟩ := Turn.exchange_eq_iff.mp hturn
    exact ⟨reply, [], rfl, .inr ⟨cause, readOrFail_eq_error_iff.mp hread, rfl, rfl⟩⟩

end Guard

end NetworkPolicy
