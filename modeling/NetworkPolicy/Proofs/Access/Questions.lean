import Mathlib.Tactic.Common
import NetworkPolicy.Proofs.Access.Decision

/-!
# Which lookups an action may make

`Program.Asks P` says of a program that whatever the answers are, it asks only for operations with
the property `P`.  It passes to composed programs, so for the guard it is read off the definitions,
and it bounds what can be found in a trace (`Program.Asks.of_mem_trace`) and what the result can
depend on (`Program.Asks.eval_congr`).

* `asks_check`, `asks_visible` — to decide about a batch or a listing, the guard never has a token
  verified.
-/

namespace NetworkPolicy

namespace Program

variable {Op : Type} {Answer : Op → Type} {α β : Type} {P : Op → Prop}

/-- Every operation that the program may come to, whatever it has been answered before, has the
property. -/
def Asks (P : Op → Prop) : Program Answer α → Prop
  | .done _ => True
  | .step op next => P op ∧ ∀ answer, (next answer).Asks P

lemma Asks.bind {p : Program Answer α} {f : α → Program Answer β} (hp : p.Asks P)
    (hf : ∀ a, (f a).Asks P) : (p.bind f).Asks P := by
  induction p with
  | done a => exact hf a
  | step op next ih => exact ⟨hp.1, fun answer => ih answer (hp.2 answer)⟩

lemma Asks.of_mem_trace {p : Program Answer α} (hp : p.Asks P) (answer : (op : Op) → Answer op)
    {op : Op} (h : op ∈ p.trace answer) : P op := by
  induction p with
  | done a => cases h
  | step first next ih =>
      rcases List.mem_cons.mp h with rfl | h
      · exact hp.1
      · exact ih (answer first) (hp.2 (answer first)) h

/-- Answers to other operations make no difference to the result. -/
lemma Asks.eval_congr {p : Program Answer α} (hp : p.Asks P)
    {answer answer' : (op : Op) → Answer op} (h : ∀ op, P op → answer op = answer' op) :
    p.eval answer = p.eval answer' := by
  induction p with
  | done a => rfl
  | step op next ih =>
      show (next (answer op)).eval answer = (next (answer' op)).eval answer'
      rw [← h op hp.1]
      exact ih (answer op) (hp.2 (answer op))

end Program

namespace Guard

variable {α β : Type} {P : Lookup → Prop}

/-- The action makes only lookups with the property. -/
def Action.Asks (P : Lookup → Prop) (action : Action α) : Prop := action.run.Asks P

lemma asks_pure (a : α) : Action.Asks P (pure a) := trivial

lemma asks_look {q : Lookup} (hq : P q) (wrap : LookupFault → AccessError) :
    (look q wrap).Asks P := ⟨hq, fun _ => trivial⟩

lemma Action.Asks.bind {x : Action α} {f : α → Action β} (hx : x.Asks P) (hf : ∀ a, (f a).Asks P) :
    Action.Asks P (x >>= f) := by
  refine Program.Asks.bind hx fun result => ?_
  cases result with
  | ok a => exact hf a
  | error e => trivial

/-- The lookup does not verify a caller's token. -/
def OfGuard (q : Lookup) : Prop := ∀ token, q ≠ .checkToken token

lemma asks_fetchSpaces (token : String) : ∀ guids, (fetchSpaces token guids).Asks OfGuard
  | [] => asks_pure _
  | guid :: guids => by
      refine (asks_look (fun _ => nofun) _).bind fun found => ?_
      cases found with
      | none => exact asks_pure _
      | some space =>
          refine (asks_fetchSpaces token guids).bind fun spaces => ?_
          cases spaces with
          | none => exact asks_pure _
          | some spaces => exact asks_pure _

lemma asks_isMemberOfAll (token user : String) :
    ∀ spaces, (isMemberOfAll token user spaces).Asks OfGuard
  | [] => asks_pure _
  | (guid, space) :: spaces => by
      refine (asks_look (fun _ => nofun) _).bind fun found => ?_
      cases found with
      | none => exact asks_pure _
      | some _ => exact asks_isMemberOfAll token user spaces

lemma asks_check (batch : List Policy) (caller : Claims) : (check batch caller).Asks OfGuard := by
  unfold check
  cases caller.isAdmin with
  | true => exact asks_pure _
  | false =>
      refine (asks_look (fun _ => nofun) _).bind fun token => ?_
      refine (asks_look (fun _ => nofun) _).bind fun guids => ?_
      refine (asks_fetchSpaces token _).bind fun spaces => ?_
      cases spaces with
      | none => exact asks_pure _
      | some spaces => exact asks_isMemberOfAll token caller.userId spaces

lemma asks_memberSpaces (token user : String) :
    ∀ guids, (memberSpaces token user guids).Asks OfGuard
  | [] => asks_pure _
  | guid :: guids => by
      refine (asks_look (fun _ => nofun) _).bind fun found => ?_
      cases found with
      | none => exact asks_memberSpaces token user guids
      | some space =>
          refine (asks_look (fun _ => nofun) _).bind fun member => ?_
          cases member with
          | none => exact asks_memberSpaces token user guids
          | some _ => exact (asks_memberSpaces token user guids).bind fun _ => asks_pure _

lemma asks_visible (policies : List Policy) (caller : Claims) :
    (visible policies caller).Asks OfGuard := by
  unfold visible
  cases caller.isAdmin || policies.isEmpty with
  | true => exact asks_pure _
  | false =>
      refine (asks_look (fun _ => nofun) _).bind fun token => ?_
      refine (asks_look (fun _ => nofun) _).bind fun appSpaces => ?_
      exact (asks_memberSpaces token caller.userId _).bind fun _ => asks_pure _

end Guard

end NetworkPolicy
