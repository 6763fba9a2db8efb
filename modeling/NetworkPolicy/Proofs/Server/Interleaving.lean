import Mathlib.Logic.Function.Basic
import Mathlib.Tactic.Common
import NetworkPolicy.Proofs.Server.Accesses
import NetworkPolicy.Proofs.Store.Contents

/-!
# Requests in flight

Several requests are served over one server, and their steps are interleaved in any order.  A
request takes its turn when it first operates on the store, or, if it never does, when it is
answered.  The serial execution of a schedule serves the same requests one after the other, each of
them in a single go, in the order in which they take their turns.

Whether the two can be told apart depends on what a request does after its turn.  It is `Settled`
when it only reads tags from then on, and its response is the same whatever operations fall in
between; a program of accesses is `Decided` when it is settled as soon as its first operation has
been performed.

* `linearized` — if all requests are decided by their first operation, the interleaved execution
  leaves the store of the serial one, and answers every request as the serial one does.
-/

namespace NetworkPolicy

/-! ## Settled and decided programs -/

section Settled

variable {response : Http.Response} {s t : Store}
  {p : Program Store.Operation.Answer Http.Response}

/-- From the store `s` on, the program does nothing but read tags, and it ends with the response
whatever store extending `s` it finds. -/
def Settled (response : Http.Response) :
    Store → Program Store.Operation.Answer Http.Response → Prop
  | _, .done r => r = response
  | s, .step .tags next => ∀ t, s.Extends t → Settled response t (next t.tags)
  | _, .step _ _ => False

/-- Wherever the first operation is performed, the program is settled right after it. -/
def Decided : Program Store.Operation.Answer Http.Response → Prop
  | .done _ => True
  | .step op next => ∀ s : Store, s.Reachable →
      ∃ response, Settled response (s.perform op).2 (next (s.perform op).1)

lemma Settled.mono (h : Settled response s p) (hst : s.Extends t) : Settled response t p := by
  cases p with
  | done r => exact h
  | step op next =>
      cases op with
      | tags => exact fun u htu => h u (hst.trans htu)
      | _ => exact h

lemma Settled.onStore (h : Settled response s p) : p.onStore s = (response, s) := by
  induction p with
  | done r =>
      obtain rfl : r = response := h
      rfl
  | step op next ih =>
      cases op with
      | tags => exact ih _ (h s (.refl s))
      | _ => exact h.elim

/-- The next operation of a settled program reads tags. -/
lemma Settled.perform {op : Store.Operation}
    {next : op.Answer → Program Store.Operation.Answer Http.Response}
    (h : Settled response s (.step op next)) :
    (s.perform op).2 = s ∧ Settled response s (next (s.perform op).1) := by
  cases op with
  | tags => exact ⟨rfl, h s (.refl s)⟩
  | _ => exact h.elim

end Settled

/-! ## Tasks -/

/-- A request that is being served: the world that answers its lookups, and what is left to do. -/
structure Task where
  world : World
  rest : Program Step.Answer Http.Response

namespace Task

variable (t : Task) {s : Server}

/-- The response, once there is one. -/
def response? : Option Http.Response :=
  match t.rest with
  | .done response => some response
  | .step .. => none

/-- The operation on the store that comes next, if the next step is one. -/
def operation? : Option Store.Operation :=
  match t.rest with
  | .step (.store op) _ => some op
  | _ => none

/-- The accesses to the store that are left. -/
def accesses : Program Store.Operation.Answer Http.Response := t.rest.accesses t.world

/-- The task and the server after the next step. -/
def advance (s : Server) : Task × Server :=
  match t.rest with
  | .done _ => (t, s)
  | .step op next => (⟨t.world, next (s.step t.world op).1⟩, (s.step t.world op).2)

/-- The task and the server after all steps. -/
def complete (s : Server) : Task × Server :=
  (⟨t.world, .done (t.rest.exec t.world s).1⟩, (t.rest.exec t.world s).2)

/-- With the next step the request first uses the store or, if it has not yet been answered, gets
its response. -/
def takesTurn (s : Server) : Bool :=
  t.operation?.isSome || (t.response?.isNone && (t.advance s).1.response?.isSome)

variable {t}

lemma accesses_of_response {response : Http.Response} (h : t.response? = some response) :
    t.accesses = .done response := by
  obtain ⟨world, rest⟩ := t
  cases rest with
  | done r =>
      cases h
      rfl
  | step op next => cases h

/-- A step that is no operation leaves the accesses and the store as they are. -/
lemma advance_of_none (h : t.operation? = none) (s : Server) :
    (t.advance s).1.accesses = t.accesses ∧ (t.advance s).2.store = s.store ∧
      (t.advance s).2.showsTags = s.showsTags := by
  obtain ⟨world, rest⟩ := t
  cases rest with
  | done r => exact ⟨rfl, rfl, rfl⟩
  | step op next =>
      cases op with
      | lookup q => exact ⟨rfl, rfl, rfl⟩
      | record event => exact ⟨rfl, rfl, rfl⟩
      | store op => cases h

/-- An operation is the first of the accesses that are left. -/
lemma advance_of_operation {op : Store.Operation} (h : t.operation? = some op)
    (hs : s.showsTags = true) :
    ∃ next, t.accesses = .step op next ∧ (t.advance s).1.accesses = next (s.store.perform op).1 ∧
      (t.advance s).2.store = (s.store.perform op).2 ∧ (t.advance s).2.showsTags = true := by
  obtain ⟨world, rest⟩ := t
  cases rest with
  | done r => cases h
  | step step next =>
      cases step with
      | lookup q => cases h
      | record event => cases h
      | store op' =>
          cases h
          have hadvance : (⟨world, .step (.store op) next⟩ : Task).advance s
              = (⟨world, next (s.step world (.store op)).1⟩, (s.step world (.store op)).2) := rfl
          rw [hadvance, Server.step_store world hs]
          exact ⟨fun answer => (next answer).accesses world, rfl, rfl, rfl, hs⟩

lemma complete_eq_onStore (hs : s.showsTags = true) :
    (t.complete s).1.response? = some (t.accesses.onStore s.store).1 ∧
      (t.complete s).2.store = (t.accesses.onStore s.store).2 ∧
      (t.complete s).2.showsTags = true := by
  obtain ⟨metrics, hexec⟩ := Program.exec_eq_onStore t.world t.rest hs
  unfold complete
  rw [hexec]
  exact ⟨rfl, rfl, hs⟩

/-! ### One step of a task -/

/-- No step takes a tag away, and each leads to a store that operations lead to. -/
lemma advance_frame (hs : s.showsTags = true) (hreached : s.store.Reachable) :
    s.store.Extends (t.advance s).2.store ∧ (t.advance s).2.store.Reachable ∧
      (t.advance s).2.showsTags = true := by
  cases h : t.operation? with
  | none =>
      obtain ⟨-, hstore, hshows⟩ := advance_of_none h s
      rw [hstore, hshows]
      exact ⟨.refl _, hreached, hs⟩
  | some op =>
      obtain ⟨next, -, -, hstore, hshows⟩ := advance_of_operation h hs
      rw [hstore]
      exact ⟨Store.extends_perform s.store op, hreached.perform op, hshows⟩

/-- Before its turn a task leaves the store and what it will do there as they are. -/
lemma advance_of_waiting (hturn : t.takesTurn s = false) (hnone : t.response? = none) :
    (t.advance s).1.accesses = t.accesses ∧ (t.advance s).1.response? = none ∧
      (t.advance s).2.store = s.store := by
  simp only [takesTurn, hnone, Option.isNone_none, Bool.true_and, Bool.or_eq_false_iff,
    Option.isSome_eq_false_iff, Option.isNone_iff_eq_none] at hturn
  obtain ⟨haccesses, hstore, -⟩ := advance_of_none hturn.1 s
  exact ⟨haccesses, hturn.2, hstore⟩

/-- In its turn a decided task does to the store what it does there in a single go, and it is
settled with the same response. -/
lemma advance_of_turn (hs : s.showsTags = true) (hreached : s.store.Reachable)
    (hdecided : Decided t.accesses) (hturn : t.takesTurn s = true) :
    ∃ response, t.accesses.onStore s.store = (response, (t.advance s).2.store) ∧
      Settled response (t.advance s).2.store (t.advance s).1.accesses := by
  cases h : t.operation? with
  | none =>
      obtain ⟨haccesses, hstore, -⟩ := advance_of_none h s
      simp only [takesTurn, h, Option.isSome_none, Bool.false_or, Bool.and_eq_true] at hturn
      obtain ⟨response, hresponse⟩ := Option.isSome_iff_exists.mp hturn.2
      have hdone := accesses_of_response hresponse
      refine ⟨response, ?_, ?_⟩
      · rw [← haccesses, hdone, hstore]
        rfl
      · rw [hdone]
        rfl
  | some op =>
      obtain ⟨next, haccesses, hnext, hstore, -⟩ := advance_of_operation h hs
      rw [haccesses] at hdecided
      obtain ⟨response, hsettled⟩ := hdecided s.store hreached
      rw [haccesses, hnext, hstore]
      exact ⟨response, hsettled.onStore, hsettled⟩

/-- A task that is to operate on the store does so in its turn. -/
lemma operation_of_turn {op : Store.Operation}
    {next : op.Answer → Program Store.Operation.Answer Http.Response}
    (haccesses : t.accesses = .step op next) (hs : s.showsTags = true)
    (hturn : t.takesTurn s = true) : t.operation? = some op := by
  cases h : t.operation? with
  | none =>
      simp only [takesTurn, h, Option.isSome_none, Bool.false_or, Bool.and_eq_true] at hturn
      obtain ⟨response, hresponse⟩ := Option.isSome_iff_exists.mp hturn.2
      have hdone := accesses_of_response hresponse
      rw [(advance_of_none h s).1, haccesses] at hdone
      cases hdone
  | some op' =>
      obtain ⟨next', haccesses', -⟩ := advance_of_operation h hs
      cases haccesses.symm.trans haccesses'
      rfl

/-- After its turn a task leaves the store as it is and stays settled. -/
lemma advance_of_settled {response : Http.Response} (hs : s.showsTags = true)
    (hsettled : Settled response s.store t.accesses) :
    (t.advance s).2.store = s.store ∧ Settled response s.store (t.advance s).1.accesses := by
  cases h : t.operation? with
  | none =>
      obtain ⟨haccesses, hstore, -⟩ := advance_of_none h s
      rw [haccesses]
      exact ⟨hstore, hsettled⟩
  | some op =>
      obtain ⟨next, haccesses, hnext, hstore, -⟩ := advance_of_operation h hs
      rw [haccesses] at hsettled
      rw [hnext, hstore]
      exact hsettled.perform

end Task

/-! ## Systems -/

/-- Requests in flight over one server. -/
structure System (ι : Type) where
  server : Server
  tasks : ι → Task

namespace System

variable {ι : Type} [DecidableEq ι]

/-- The system after the next step of a request. -/
def advance (sys : System ι) (i : ι) : System ι where
  server := ((sys.tasks i).advance sys.server).2
  tasks := Function.update sys.tasks i ((sys.tasks i).advance sys.server).1

/-- The system after all steps of a request. -/
def complete (sys : System ι) (i : ι) : System ι where
  server := ((sys.tasks i).complete sys.server).2
  tasks := Function.update sys.tasks i ((sys.tasks i).complete sys.server).1

/-- The steps of the requests in the order of a schedule. -/
def interleave (sys : System ι) (schedule : List ι) : System ι := schedule.foldl advance sys

/-- Whole requests, one after the other. -/
def serially (sys : System ι) (order : List ι) : System ι := order.foldl complete sys

/-- The requests of the steps with which a turn is taken. -/
def turns : System ι → List ι → List ι
  | _, [] => []
  | sys, i :: schedule =>
    if (sys.tasks i).takesTurn sys.server then i :: (sys.advance i).turns schedule
    else (sys.advance i).turns schedule

/-- The order in which the requests of a schedule first take their turns. -/
def order (sys : System ι) (schedule : List ι) : List ι := (sys.turns schedule).eraseDups

@[simp] lemma advance_tasks_self (sys : System ι) (i : ι) :
    (sys.advance i).tasks i = ((sys.tasks i).advance sys.server).1 := Function.update_self ..

@[simp] lemma advance_tasks_of_ne (sys : System ι) {i j : ι} (h : j ≠ i) :
    (sys.advance i).tasks j = sys.tasks j := Function.update_of_ne h ..

@[simp] lemma complete_tasks_self (sys : System ι) (i : ι) :
    (sys.complete i).tasks i = ((sys.tasks i).complete sys.server).1 := Function.update_self ..

@[simp] lemma complete_tasks_of_ne (sys : System ι) {i j : ι} (h : j ≠ i) :
    (sys.complete i).tasks j = sys.tasks j := Function.update_of_ne h ..

lemma interleave_append (sys : System ι) (earlier later : List ι) :
    sys.interleave (earlier ++ later) = (sys.interleave earlier).interleave later :=
  List.foldl_append

lemma serially_append (sys : System ι) (earlier later : List ι) :
    sys.serially (earlier ++ later) = (sys.serially earlier).serially later :=
  List.foldl_append

lemma turns_append (earlier later : List ι) : ∀ sys : System ι,
    sys.turns (earlier ++ later)
      = sys.turns earlier ++ (sys.interleave earlier).turns later := by
  induction earlier with
  | nil =>
      intro sys
      rfl
  | cons i earlier ih =>
      intro sys
      have hrest := ih (sys.advance i)
      rw [List.cons_append, turns, turns]
      split
      case isTrue h => rw [hrest, List.cons_append]; rfl
      case isFalse h => exact hrest

/-- The step takes the first turn of its request. -/
def TakesFirstTurn (sys : System ι) (schedule : List ι) (i : ι) : Prop :=
  ((sys.interleave schedule).tasks i).takesTurn (sys.interleave schedule).server = true ∧
    i ∉ sys.order schedule

lemma order_concat_of_first {sys : System ι} {schedule : List ι} {i : ι}
    (h : sys.TakesFirstTurn schedule i) :
    sys.order (schedule ++ [i]) = sys.order schedule ++ [i] := by
  obtain ⟨hturn, hfirst⟩ := h
  rw [order, List.mem_eraseDups] at hfirst
  rw [order, turns_append, List.eraseDups_append, turns, turns, if_pos hturn, order]
  simp [List.removeAll, List.eraseDups_cons, hfirst]

lemma order_concat_of_not {sys : System ι} {schedule : List ι} {i : ι}
    (h : ¬ sys.TakesFirstTurn schedule i) : sys.order (schedule ++ [i]) = sys.order schedule := by
  rw [TakesFirstTurn, order, List.mem_eraseDups, not_and_not_right] at h
  rw [order, turns_append, List.eraseDups_append, turns, turns, order]
  split
  case isTrue hturn => simp [List.removeAll, h hturn]
  case isFalse hturn => simp [List.removeAll]

/-! ## The simulation -/

/-- What is asked of a system in which no request has been begun with. -/
structure Fresh (start : System ι) : Prop where
  showsTags : start.server.showsTags = true
  reachable : start.server.store.Reachable
  decided : ∀ i, Decided (start.tasks i).accesses
  unanswered : ∀ i, (start.tasks i).response? = none

/-- How an interleaved execution and the serial one hang together when the requests in `order` have
taken their turns. -/
structure Linearized (start : System ι) (order : List ι) (live serial : System ι) : Prop where
  store_eq : live.server.store = serial.server.store
  reachable : live.server.store.Reachable
  showsTags : live.server.showsTags = true
  serial_showsTags : serial.server.showsTags = true
  /-- The others still have everything before them. -/
  waiting : ∀ i ∉ order, serial.tasks i = start.tasks i ∧
    (live.tasks i).accesses = (start.tasks i).accesses ∧ (live.tasks i).response? = none
  /-- They themselves are settled with the response that they have in the serial execution. -/
  settled : ∀ i ∈ order, ∃ response, (serial.tasks i).response? = some response ∧
    Settled response live.server.store (live.tasks i).accesses

variable {start live serial : System ι} {order : List ι} {i : ι}

/-- A step that takes no first turn leaves the store as it is, and its request as waiting or as
settled as it was. -/
lemma Linearized.advance_self (h : Linearized start order live serial)
    (hlate : (live.tasks i).takesTurn live.server = true → i ∈ order) :
    (live.advance i).server.store = live.server.store ∧
      (i ∉ order → ((live.advance i).tasks i).accesses = (start.tasks i).accesses ∧
        ((live.advance i).tasks i).response? = none) ∧
      (i ∈ order → ∃ response, (serial.tasks i).response? = some response ∧
        Settled response live.server.store ((live.advance i).tasks i).accesses) := by
  rw [advance_tasks_self]
  by_cases hi : i ∈ order
  · obtain ⟨response, hresponse, hsettled⟩ := h.settled i hi
    obtain ⟨hstore, hsettled'⟩ := Task.advance_of_settled h.showsTags hsettled
    exact ⟨hstore, fun hnot => absurd hi hnot, fun _ => ⟨response, hresponse, hsettled'⟩⟩
  · have hturn : (live.tasks i).takesTurn live.server = false :=
      Bool.eq_false_iff.mpr fun hturn => hi (hlate hturn)
    obtain ⟨-, haccesses, hnone⟩ := h.waiting i hi
    obtain ⟨haccesses', hnone', hstore⟩ := Task.advance_of_waiting hturn hnone
    exact ⟨hstore, fun _ => ⟨haccesses'.trans haccesses, hnone'⟩, fun hmem => absurd hmem hi⟩

/-- Such a step is not seen in the serial execution. -/
lemma Linearized.advance (h : Linearized start order live serial)
    (hlate : (live.tasks i).takesTurn live.server = true → i ∈ order) :
    Linearized start order (live.advance i) serial := by
  obtain ⟨-, hreached, hshows⟩ := Task.advance_frame (t := live.tasks i) h.showsTags h.reachable
  obtain ⟨hstore, hwaiting, hsettled⟩ := h.advance_self hlate
  refine ⟨hstore.trans h.store_eq, hreached, hshows, h.serial_showsTags, fun j hj => ?_,
    fun j hj => ?_⟩
  · by_cases hji : j = i
    · subst hji
      exact ⟨(h.waiting j hj).1, hwaiting hj⟩
    · rw [advance_tasks_of_ne live hji]
      exact h.waiting j hj
  · rw [hstore]
    by_cases hji : j = i
    · subst hji
      exact hsettled hj
    · rw [advance_tasks_of_ne live hji]
      exact h.settled j hj

/-- A first turn is a whole request in the serial execution. -/
lemma Linearized.complete (h : Linearized start order live serial)
    (hdecided : Decided (start.tasks i).accesses)
    (hturn : (live.tasks i).takesTurn live.server = true) (hfirst : i ∉ order) :
    Linearized start (order ++ [i]) (live.advance i) (serial.complete i) := by
  obtain ⟨hserial, haccesses, -⟩ := h.waiting i hfirst
  obtain ⟨hextends, hreached, hshows⟩ :=
    Task.advance_frame (t := live.tasks i) h.showsTags h.reachable
  obtain ⟨response, honStore, hsettled⟩ :=
    Task.advance_of_turn h.showsTags h.reachable (haccesses ▸ hdecided) hturn
  obtain ⟨hresponse, hstore, hshows'⟩ :=
    Task.complete_eq_onStore (t := serial.tasks i) h.serial_showsTags
  have hgo : (serial.tasks i).accesses.onStore serial.server.store
      = (response, (live.advance i).server.store) := by
    rw [hserial, ← haccesses, ← h.store_eq]
    exact honStore
  rw [hgo] at hresponse hstore
  refine ⟨hstore.symm, hreached, hshows, hshows', fun j hj => ?_, fun j hj => ?_⟩
  · rw [List.mem_append, List.mem_singleton, not_or] at hj
    rw [advance_tasks_of_ne live hj.2, complete_tasks_of_ne serial hj.2]
    exact h.waiting j hj.1
  · by_cases hji : j = i
    · subst hji
      rw [advance_tasks_self, complete_tasks_self]
      exact ⟨response, hresponse, hsettled⟩
    · have hmem : j ∈ order := by simpa [hji] using hj
      obtain ⟨response', hresponse', hsettled'⟩ := h.settled j hmem
      rw [advance_tasks_of_ne live hji, complete_tasks_of_ne serial hji]
      exact ⟨response', hresponse', hsettled'.mono hextends⟩

/-- **One go is as good as many steps.**  However the steps of decided requests are interleaved, the
system corresponds to the one in which the requests that have taken their turns were served one
after the other. -/
theorem linearized (hstart : start.Fresh) (schedule : List ι) :
    Linearized start (start.order schedule) (start.interleave schedule)
      (start.serially (start.order schedule)) := by
  induction schedule using List.reverseRecOn with
  | nil =>
      exact ⟨rfl, hstart.reachable, hstart.showsTags, hstart.showsTags,
        fun i _ => ⟨rfl, rfl, hstart.unanswered i⟩, fun i hi => nomatch hi⟩
  | append_singleton schedule i ih =>
      rw [interleave_append]
      by_cases hfirst : start.TakesFirstTurn schedule i
      · rw [order_concat_of_first hfirst, serially_append]
        exact ih.complete (hstart.decided i) hfirst.1 hfirst.2
      · rw [order_concat_of_not hfirst]
        rw [TakesFirstTurn, not_and_not_right] at hfirst
        exact ih.advance hfirst

/-! ## Turns -/

/-- A request that is in the order took its first turn in one of the steps. -/
lemma exists_firstTurn (start : System ι) (schedule : List ι) (hi : i ∈ start.order schedule) :
    ∃ earlier later, schedule = earlier ++ i :: later ∧ start.TakesFirstTurn earlier i := by
  induction schedule using List.reverseRecOn with
  | nil => exact nomatch hi
  | append_singleton schedule j ih =>
      have hearlier : i ∈ start.order schedule →
          ∃ earlier later, schedule ++ [j] = earlier ++ i :: later ∧
            start.TakesFirstTurn earlier i := by
        intro hi
        obtain ⟨earlier, later, rfl, hfirst⟩ := ih hi
        exact ⟨earlier, later ++ [j], by simp, hfirst⟩
      by_cases hfirst : start.TakesFirstTurn schedule j
      · rw [order_concat_of_first hfirst, List.mem_append, List.mem_singleton] at hi
        rcases hi with hi | rfl
        · exact hearlier hi
        · exact ⟨schedule, [], rfl, hfirst⟩
      · rw [order_concat_of_not hfirst] at hi
        exact hearlier hi

/-- Whatever else happens, a settled request stays settled. -/
lemma settled_interleave {response : Http.Response} (later : List ι) : ∀ sys : System ι,
    sys.server.showsTags = true → sys.server.store.Reachable →
    Settled response sys.server.store (sys.tasks i).accesses →
    Settled response (sys.interleave later).server.store
      ((sys.interleave later).tasks i).accesses := by
  induction later with
  | nil =>
      intro sys _ _ hsettled
      exact hsettled
  | cons j later ih =>
      intro sys hshows hreached hsettled
      obtain ⟨hextends, hreached', hshows'⟩ := Task.advance_frame (t := sys.tasks j) hshows hreached
      refine ih (sys.advance j) hshows' hreached' ?_
      by_cases hij : i = j
      · subst hij
        obtain ⟨hstore, hsettled'⟩ := Task.advance_of_settled hshows hsettled
        rw [advance_tasks_self]
        exact hsettled'.mono hextends
      · rw [advance_tasks_of_ne sys hij]
        exact hsettled.mono hextends

/-- A request that has been answered got the response that it would have got in a single go at the
moment of its turn, and did to the store what it would have done then. -/
lemma exists_turn_of_response (hstart : start.Fresh) (schedule : List ι)
    {response : Http.Response}
    (hresponse : ((start.interleave schedule).tasks i).response? = some response) :
    ∃ earlier later, schedule = earlier ++ i :: later ∧ start.TakesFirstTurn earlier i ∧
      ((start.interleave earlier).tasks i).accesses = (start.tasks i).accesses ∧
      (start.tasks i).accesses.onStore (start.interleave earlier).server.store
        = (response, (start.interleave (earlier ++ [i])).server.store) := by
  have hturn : i ∈ start.order schedule := by
    by_contra hwaiting
    cases ((linearized hstart schedule).waiting i hwaiting).2.2.symm.trans hresponse
  obtain ⟨earlier, later, rfl, hfirst⟩ := exists_firstTurn start schedule hturn
  refine ⟨earlier, later, rfl, hfirst, ?_⟩
  have hearlier := linearized hstart earlier
  obtain ⟨-, haccesses, -⟩ := hearlier.waiting i hfirst.2
  obtain ⟨response', honStore, hsettled⟩ := Task.advance_of_turn hearlier.showsTags
    hearlier.reachable (haccesses ▸ hstart.decided i) hfirst.1
  obtain ⟨-, hreached, hshows⟩ := Task.advance_frame
    (t := (start.interleave earlier).tasks i) hearlier.showsTags hearlier.reachable
  have hlater := settled_interleave later ((start.interleave earlier).advance i) hshows
    hreached (by rw [advance_tasks_self]; exact hsettled)
  have hsame : ((start.interleave earlier).advance i).interleave later
      = start.interleave (earlier ++ i :: later) :=
    (interleave_append start earlier (i :: later)).symm
  rw [hsame, Task.accesses_of_response hresponse] at hlater
  obtain rfl : response = response' := hlater
  rw [interleave_append, ← haccesses]
  exact ⟨rfl, honStore⟩

end System

end NetworkPolicy
