import Mathlib.Control.Traversable.Instances
import Mathlib.Tactic.Common
import NetworkPolicy.Proofs.Access.Decision

/-!
# Lookups and their answers

Whoever runs a program of lookups sees a log: each lookup with the answer that it got.  The same
lookup may be answered differently when it is made again, and answers may depend on all that
happened before; so a log says more than the lookups and a table of answers do.

* `Program.logged` — runs a program and keeps the log; `fst_logged` says that this does not change
  the run, and `logged_world` that where answers are fixed the log is the trace of the program.
* `Program.Logs` — the logs that a program can have and how it then ends, without whoever answered.
  Every run has such a log (`logs_logged`), and the log of a composed program is the logs of its
  parts (`logs_bind`).
* `Guard.Action.Logs` — the same for programs that may end in an access error.
-/

namespace NetworkPolicy

variable {σ α β : Type}

/-- A lookup and what it was answered. -/
structure Exchange where
  lookup : Lookup
  answer : lookup.Answer

namespace Exchange

/-- The lookup could not be answered. -/
def Fails (e : Exchange) : Prop := ∃ cause, e.answer = Except.error cause

lemma not_fails_ok {q : Lookup} {v : q.Value} : ¬ Fails ⟨q, Except.ok v⟩ :=
  fun ⟨_, h⟩ => nomatch h

/-- The answer is that a space does not exist, or that the user is no member of it. -/
inductive Denies : Exchange → Prop where
  | missing {token guid : String} : Denies ⟨.space token guid, Except.ok none⟩
  | stranger {token user : String} {space : Space} :
      Denies ⟨.userSpace token user space, Except.ok none⟩

lemma not_denies_serviceToken {answer : Lookup.serviceToken.Answer} :
    ¬ Denies ⟨.serviceToken, answer⟩ := by
  rintro ⟨⟩

lemma not_denies_spaceGuids {token : String} {apps : List String}
    {answer : (Lookup.spaceGuids token apps).Answer} :
    ¬ Denies ⟨.spaceGuids token apps, answer⟩ := by
  rintro ⟨⟩

end Exchange

namespace Program

/-- The result of a program of lookups, and its log. -/
def logged (ask : (q : Lookup) → StateM σ q.Answer) :
    Program Lookup.Answer α → StateM σ (α × List Exchange)
  | .done a => return (a, [])
  | .step q next => do
    let answer ← ask q
    let (a, later) ← (next answer).logged ask
    return (a, ⟨q, answer⟩ :: later)

/-- To keep a log does not change what a program does. -/
lemma fst_logged (p : Program Lookup.Answer α) (ask : (q : Lookup) → StateM σ q.Answer) :
    Prod.fst <$> p.logged ask = p.runM ask := by
  induction p with
  | done a => rfl
  | step q next ih =>
      simp only [logged, runM, map_bind, map_pure, ← ih]
      rfl

/-- Where every lookup has a fixed answer, the log is the trace with these answers. -/
lemma logged_world (p : Program Lookup.Answer α) (world : World) (s : σ) :
    (p.logged fun q => (pure (world q) : StateM σ q.Answer)).run s
      = ((p.eval world, (p.trace world).map fun q => ⟨q, world q⟩), s) := by
  induction p with
  | done a => rfl
  | step q next ih =>
      rw [logged, pure_bind, StateT.run_bind, ih]
      rfl

/-- The program can have the log, and then it ends with the result. -/
inductive Logs : Program Lookup.Answer α → List Exchange → α → Prop where
  | done (a : α) : Logs (.done a) [] a
  | step {q : Lookup} {next : q.Answer → Program Lookup.Answer α} {later : List Exchange} {a : α}
      (answer : q.Answer) (h : Logs (next answer) later a) :
      Logs (.step q next) (⟨q, answer⟩ :: later) a

lemma logs_bind {p : Program Lookup.Answer α} {f : α → Program Lookup.Answer β} {b : β} :
    ∀ {log : List Exchange}, (p.bind f).Logs log b ↔ ∃ earlier later a,
      log = earlier ++ later ∧ p.Logs earlier a ∧ (f a).Logs later b := by
  induction p with
  | done a =>
      intro log
      constructor
      · exact fun h => ⟨[], log, a, rfl, .done a, h⟩
      · rintro ⟨_, later, _, rfl, ⟨⟩, h⟩
        exact h
  | step q next ih =>
      intro log
      constructor
      · rintro (_ | ⟨answer, h⟩)
        obtain ⟨earlier, later, a, rfl, hp, hf⟩ := (ih answer).mp h
        exact ⟨_, later, a, rfl, .step answer hp, hf⟩
      · rintro ⟨_, later, a, rfl, _ | ⟨answer, hp⟩, hf⟩
        exact .step answer ((ih answer).mpr ⟨_, later, a, rfl, hp, hf⟩)

/-- Whoever answers, the log of a run is one that the program can have. -/
lemma logs_logged (p : Program Lookup.Answer α) (ask : (q : Lookup) → StateM σ q.Answer) :
    ∀ start : σ, p.Logs ((p.logged ask).run' start).2 ((p.logged ask).run' start).1 := by
  induction p with
  | done a => exact fun _ => .done a
  | step q next ih =>
      intro start
      exact .step _ (ih _ _)

end Program

namespace Guard

/-- The action can have the log, and then it ends with the result. -/
def Action.Logs (action : Action α) (log : List Exchange) (result : Except AccessError α) : Prop :=
  action.run.Logs log result

lemma logs_pure {a : α} {log : List Exchange} {result : Except AccessError α} :
    Action.Logs (pure a) log result ↔ log = [] ∧ .ok a = result := by
  constructor
  · rintro ⟨⟩
    exact ⟨rfl, rfl⟩
  · rintro ⟨rfl, rfl⟩
    exact .done _

/-- After an error an action makes no more lookups. -/
lemma logs_action_bind {x : Action α} {f : α → Action β} {log : List Exchange}
    {result : Except AccessError β} :
    Action.Logs (x >>= f) log result
      ↔ (∃ earlier later a, log = earlier ++ later ∧ x.Logs earlier (.ok a) ∧
          (f a).Logs later result) ∨
        ∃ e, x.Logs log (.error e) ∧ result = .error e := by
  refine (Program.logs_bind (p := x.run) (f := ExceptT.bindCont f)).trans ?_
  constructor
  · rintro ⟨earlier, later, e | a, rfl, hx, hf⟩
    · obtain ⟨⟩ := hf
      exact .inr ⟨e, by rwa [List.append_nil], rfl⟩
    · exact .inl ⟨earlier, later, a, rfl, hx, hf⟩
  · rintro (⟨earlier, later, a, rfl, hx, hf⟩ | ⟨e, hx, rfl⟩)
    · exact ⟨earlier, later, .ok a, rfl, hx, hf⟩
    · exact ⟨log, [], .error e, (List.append_nil log).symm, hx, .done _⟩

/-- An action that begins with a lookup goes on with its answer, or ends with its failure. -/
lemma logs_look_bind {q : Lookup} {wrap : LookupFault → AccessError} {f : q.Value → Action β}
    {log : List Exchange} {result : Except AccessError β} :
    Action.Logs (look q wrap >>= f) log result
      ↔ (∃ v later, log = ⟨q, Except.ok v⟩ :: later ∧ (f v).Logs later result) ∨
        ∃ cause, log = [⟨q, Except.error cause⟩] ∧ result = .error (wrap cause) := by
  constructor
  · rintro (_ | ⟨cause | v, h⟩)
    · obtain ⟨⟩ := h
      exact .inr ⟨cause, rfl, rfl⟩
    · exact .inl ⟨v, _, rfl, h⟩
  · rintro (⟨v, later, rfl, h⟩ | ⟨cause, rfl, rfl⟩)
    · exact .step (Except.ok v) h
    · exact .step (Except.error cause) (.done _)

/-! ## The loops -/

section Loops

variable {token user : String}

/-- A space that was found, as an exchange. -/
def foundSpace (token : String) (entry : String × Space) : Exchange :=
  ⟨.space token entry.1, Except.ok (some entry.2)⟩

/-- A membership that was found, as an exchange. -/
def foundMember (token user : String) (entry : (String × Space) × Space) : Exchange :=
  ⟨.userSpace token user entry.1.2, Except.ok (some entry.2)⟩

/-- Behind a space that was found the other spaces are fetched, and it is put in front of them. -/
lemma logs_fetchSpaces_rest {guid : String} {guids : List String} {space : Space}
    {log : List Exchange} {result : Except AccessError (Option (List (String × Space)))}
    (h : Action.Logs (fetchSpaces token guids >>= fun found => match found with
      | none => pure none
      | some spaces => pure (some ((guid, space) :: spaces))) log result) :
    ∃ others, (fetchSpaces token guids).Logs log others ∧
      result = others.map (Option.map ((guid, space) :: ·)) := by
  obtain ⟨earlier, later, others, rfl, hothers, hlast⟩ | ⟨e, hothers, rfl⟩ := logs_action_bind.mp h
  · cases others with
    | none =>
        obtain ⟨rfl, rfl⟩ := logs_pure.mp hlast
        exact ⟨_, by rwa [List.append_nil], rfl⟩
    | some spaces =>
        obtain ⟨rfl, rfl⟩ := logs_pure.mp hlast
        exact ⟨_, by rwa [List.append_nil], rfl⟩
  · exact ⟨_, hothers, rfl⟩

/-- The spaces of the guids are fetched one after the other, until one of them does not exist or
cannot be fetched. -/
lemma logs_fetchSpaces : ∀ {guids : List String} {log : List Exchange}
    {result : Except AccessError (Option (List (String × Space)))},
    (fetchSpaces token guids).Logs log result → ∃ spaces : List (String × Space),
      (spaces.map Prod.fst = guids ∧ log = spaces.map (foundSpace token) ∧
        result = .ok (some spaces)) ∨
      ∃ guid later, ∃ answer : Except LookupFault (Option Space),
        guids = spaces.map Prod.fst ++ guid :: later ∧
        log = spaces.map (foundSpace token) ++ [⟨.space token guid, answer⟩] ∧
        (answer = .ok none ∧ result = .ok none ∨
          ∃ cause, answer = .error cause ∧ result = .error (.space guid cause))
  | [], log, result, h => by
      obtain ⟨rfl, rfl⟩ := logs_pure.mp h
      exact ⟨[], .inl ⟨rfl, rfl, rfl⟩⟩
  | guid :: guids, log, result, h => by
      obtain ⟨found, rest, rfl, hrest⟩ | ⟨cause, rfl, rfl⟩ := logs_look_bind.mp h
      · cases found with
        | none =>
            obtain ⟨rfl, rfl⟩ := logs_pure.mp hrest
            exact ⟨[], .inr ⟨guid, guids, _, rfl, rfl, .inl ⟨rfl, rfl⟩⟩⟩
        | some space =>
            obtain ⟨others, hothers, rfl⟩ := logs_fetchSpaces_rest hrest
            obtain ⟨spaces, ⟨rfl, rfl, rfl⟩ |
              ⟨stop, later, answer, rfl, rfl, ⟨rfl, rfl⟩ | ⟨cause, rfl, rfl⟩⟩⟩ :=
              logs_fetchSpaces hothers
            · exact ⟨(guid, space) :: spaces, .inl ⟨rfl, rfl, rfl⟩⟩
            · exact ⟨(guid, space) :: spaces, .inr ⟨stop, later, _, rfl, rfl, .inl ⟨rfl, rfl⟩⟩⟩
            · exact ⟨(guid, space) :: spaces,
                .inr ⟨stop, later, _, rfl, rfl, .inr ⟨cause, rfl, rfl⟩⟩⟩
      · exact ⟨[], .inr ⟨guid, guids, _, rfl, rfl, .inr ⟨cause, rfl, rfl⟩⟩⟩

/-- The memberships are asked for one after the other, until the user is no member of a space or one
of them cannot be told. -/
lemma logs_isMemberOfAll : ∀ {spaces : List (String × Space)} {log : List Exchange}
    {result : Except AccessError Bool},
    (isMemberOfAll token user spaces).Logs log result →
    ∃ joined : List ((String × Space) × Space),
      (joined.map Prod.fst = spaces ∧ log = joined.map (foundMember token user) ∧
        result = .ok true) ∨
      ∃ guid space later, ∃ answer : Except LookupFault (Option Space),
        spaces = joined.map Prod.fst ++ (guid, space) :: later ∧
        log = joined.map (foundMember token user) ++ [⟨.userSpace token user space, answer⟩] ∧
        (answer = .ok none ∧ result = .ok false ∨
          ∃ cause, answer = .error cause ∧ result = .error (.space guid cause))
  | [], log, result, h => by
      obtain ⟨rfl, rfl⟩ := logs_pure.mp h
      exact ⟨[], .inl ⟨rfl, rfl, rfl⟩⟩
  | (guid, space) :: spaces, log, result, h => by
      obtain ⟨found, rest, rfl, hrest⟩ | ⟨cause, rfl, rfl⟩ := logs_look_bind.mp h
      · cases found with
        | none =>
            obtain ⟨rfl, rfl⟩ := logs_pure.mp hrest
            exact ⟨[], .inr ⟨guid, space, spaces, _, rfl, rfl, .inl ⟨rfl, rfl⟩⟩⟩
        | some found =>
            obtain ⟨joined, ⟨rfl, rfl, rfl⟩ | ⟨stop, stopSpace, later, answer, rfl, rfl, hstop⟩⟩ :=
              logs_isMemberOfAll hrest
            · exact ⟨((guid, space), found) :: joined, .inl ⟨rfl, rfl, rfl⟩⟩
            · exact ⟨((guid, space), found) :: joined,
                .inr ⟨stop, stopSpace, later, answer, rfl, rfl, hstop⟩⟩
      · exact ⟨[], .inr ⟨guid, space, spaces, _, rfl, rfl, .inr ⟨cause, rfl, rfl⟩⟩⟩

end Loops

end Guard

end NetworkPolicy
