import Mathlib.Tactic.Common
import NetworkPolicy.Proofs.Server.Linearizability
import NetworkPolicy.Proofs.Store.Repetition

/-!
# Requests that are sent again

A client that has lost a response may send its request again: if nothing has changed meanwhile, it
is answered as it was, and the store stays as it is.

A handler is decided by its first operation on the store (`decided_answer`), and an operation that
is performed twice is answered twice the same (`Store.perform_perform`); so the second run of the
handler takes the turns that the first one took.
-/

namespace NetworkPolicy

/-- A program that is decided by its first operation does nothing new when it is run again. -/
lemma Decided.onStore_onStore {p : Program Store.Operation.Answer Http.Response} (h : Decided p)
    {s : Store} (hs : s.Reachable) : p.onStore (p.onStore s).2 = p.onStore s := by
  cases p with
  | done response => rfl
  | step op next =>
      obtain ⟨response, hsettled⟩ := h s hs
      have hfirst : (Program.step op next).onStore s = (response, (s.perform op).2) :=
        hsettled.onStore
      rw [hfirst]
      show (next ((s.perform op).2.perform op).1).onStore ((s.perform op).2.perform op).2 = _
      rw [Store.perform_perform]
      exact hsettled.onStore

namespace Server

/-- **Requests can be sent again.**  Whatever was asked and however it was answered, the same
request with the same answers of the collaborators gets the same response once more, and the store
is left as the first request left it. -/
theorem visit_visit {s : Server} (hs : s.showsTags = true) (hstore : s.store.Reachable)
    (v : Visit) :
    ((s.visit v).2.visit v).1 = (s.visit v).1 ∧
      ((s.visit v).2.visit v).2.store = (s.visit v).2.store := by
  cases hroute : Route.find? v.api v.request with
  | some route =>
      obtain ⟨-, hlimit, hshows⟩ := visit_effect hs v
      have hfirst := visit_eq_onStore hs hroute
      have hsecond := visit_eq_onStore hshows hroute
      have hbetween : (s.visit v).2.store
          = (((route.answer s.bodyLimit v.request).accesses v.world).onStore s.store).2 :=
        congrArg Prod.snd hfirst
      have hagain := (decided_answer v.world s.bodyLimit v.request route).onStore_onStore
        hstore
      rw [hlimit, hbetween, hagain, ← hfirst] at hsecond
      exact Prod.ext_iff.mp hsecond
  | none =>
      rw [visit_of_find?_eq_none s hroute]
      exact ⟨rfl, congrArg store (visit_of_find?_eq_none s hroute)⟩

/-- An administrator creates the policy of the app `a`, which is twice in the batch. -/
def doubleVisit : Visit where
  api := .external
  request :=
    ⟨"POST", "/networking/v0/external/policies", none, [("authorization", "Bearer root")],
      .ofBytes (Utf8.bytes ("\x7b\"policies\":[\x7b\"source\":\x7b\"id\":\"a\"\x7d,".toList ++
        "\"destination\":\x7b\"id\":\"a\",\"protocol\":\"tcp\",\"port\":90\x7d\x7d,".toList ++
        "\x7b\"source\":\x7b\"id\":\"a\"\x7d,".toList ++
        "\"destination\":\x7b\"id\":\"a\",\"protocol\":\"tcp\",\"port\":90\x7d\x7d]\x7d".toList))⟩
  world := adminPlatform.answer
  ready := true

theorem visit_visit_double :
    small.showsTags = true ∧ small.store.Reachable ∧ (small.visit doubleVisit).1.status = .ok ∧
      (small.visit doubleVisit).2.store.all = [loop] ∧
      ((small.visit doubleVisit).2.visit doubleVisit).1 = (small.visit doubleVisit).1 ∧
      ((small.visit doubleVisit).2.visit doubleVisit).2.store
        = (small.visit doubleVisit).2.store := by
  have hagain := visit_visit (s := small) rfl (.new _) doubleVisit
  exact ⟨rfl, .new _, by cbv, by cbv, hagain⟩

end Server

end NetworkPolicy
