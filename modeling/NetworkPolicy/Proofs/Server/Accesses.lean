import Mathlib.Tactic.Common
import NetworkPolicy.Proofs.Access.Decision
import NetworkPolicy.Server

/-!
# What a request does to the store

Of the steps of a handler only the operations on the store have an effect that other requests can
see in their answers: lookups are answered by the world, and events are only counted.
`Program.accesses` keeps the operations and drops the rest.  What remains is a short program, whose
run on a store alone gives the response and the store that the server ends with
(`exec_eq_onStore`).

The second half computes the accesses of handlers: `accesses_bind` and one lemma for each of the
steps that handlers are made of.
-/

namespace NetworkPolicy

variable {α β : Type}

/-! ## Steps of a server -/

namespace Server

/-- Carries out one step for a request whose lookups are answered by the world. -/
def step (world : World) (s : Server) (op : Step) : op.Answer × Server :=
  (perform (m := Id) world op).run s

lemma step_store (world : World) {s : Server} (hs : s.showsTags = true) (op : Store.Operation) :
    s.step world (.store op)
      = ((s.store.perform op).1, { s with store := (s.store.perform op).2 }) := by
  cases op with
  | tags =>
      show ((if s.showsTags then s.store.tags else [] : List Tag), s) = (s.store.tags, s)
      rw [if_pos hs]
  | create batch => rfl
  | delete batch => rfl
  | all => rfl
  | byGuids guids => rfl

end Server

/-! ## Programs of steps -/

namespace Program

/-- The result of a program of steps, and the server after it. -/
def exec (world : World) (p : Program Step.Answer α) (s : Server) : α × Server :=
  (p.runM (Server.perform (m := Id) world)).run s

lemma exec_step (world : World) (op : Step) (next : op.Answer → Program Step.Answer α)
    (s : Server) :
    (step op next).exec world s = (next (s.step world op).1).exec world (s.step world op).2 := rfl

/-- The accesses to the store that are left of a program when its lookups are answered by the world
and events are dropped. -/
def accesses (world : World) : Program Step.Answer α → Program Store.Operation.Answer α
  | .done a => .done a
  | .step (.lookup q) next => (next (world q)).accesses world
  | .step (.store op) next => .step op fun answer => (next answer).accesses world
  | .step (.record _) next => (next ()).accesses world

lemma accesses_bind (world : World) (p : Program Step.Answer α)
    (f : α → Program Step.Answer β) :
    (p.bind f).accesses world = (p.accesses world).bind fun a => (f a).accesses world := by
  induction p with
  | done a => rfl
  | step op next ih =>
      cases op with
      | lookup q => exact ih (world q)
      | store op => exact congrArg (step op) (funext ih)
      | record event => exact ih ()

/-- The result of a program of store operations, and the store after it. -/
def onStore : Program Store.Operation.Answer α → Store → α × Store
  | .done a, s => (a, s)
  | .step op next, s => (next (s.perform op).1).onStore (s.perform op).2

lemma onStore_bind (p : Program Store.Operation.Answer α)
    (f : α → Program Store.Operation.Answer β) : ∀ s : Store,
    (p.bind f).onStore s = (f (p.onStore s).1).onStore (p.onStore s).2 := by
  induction p with
  | done a =>
      intro s
      rfl
  | step op next ih =>
      intro s
      exact ih _ _

/-- On the store a program does what its accesses do, and they decide its result. -/
theorem exec_eq_onStore (world : World) (p : Program Step.Answer α) : ∀ {s : Server},
    s.showsTags = true → ∃ metrics, p.exec world s
      = (((p.accesses world).onStore s.store).1,
          { s with store := ((p.accesses world).onStore s.store).2, metrics }) := by
  induction p with
  | done a =>
      intro s _
      exact ⟨s.metrics, rfl⟩
  | step op next ih =>
      intro s hs
      rw [exec_step]
      cases op with
      | lookup q => exact ih (world q) hs
      | record event => exact ih () hs
      | store op =>
          rw [Server.step_store world hs op]
          exact ih _ hs

end Program

/-! ## Handlers -/

namespace Handler

/-- The accesses to the store that are left of a handler in a world. -/
def accesses (world : World) (h : Handler α) : Program Store.Operation.Answer (Except ApiError α) :=
  Program.accesses world h.run

@[simp] lemma accesses_pure (world : World) (a : α) :
    accesses world (pure a : Handler α) = .done (.ok a) := rfl

@[simp] lemma accesses_require {ε : Type} (world : World) (wrap : ε → ApiError)
    (result : Except ε α) :
    accesses world (require wrap result) = .done (result.mapError wrap) := rfl

@[simp] lemma accesses_lookup (world : World) (q : Lookup) :
    accesses world (lookup q) = .done (.ok (world q)) := rfl

@[simp] lemma accesses_record (world : World) (event : Metrics.Event) :
    accesses world (record event) = .done (.ok ()) := rfl

/-- The accesses of a handler that goes on from the result of another one, unless that is an
error. -/
def resume (world : World) (f : α → Handler β) :
    Except ApiError α → Program Store.Operation.Answer (Except ApiError β)
  | .ok a => accesses world (f a)
  | .error e => .done (.error e)

lemma accesses_bind (world : World) (h : Handler α) (f : α → Handler β) :
    accesses world (h >>= f) = (accesses world h).bind (resume world f) := by
  have hrun : accesses world (h >>= f)
      = (accesses world h).bind fun r => (ExceptT.bindCont f r).accesses world :=
    Program.accesses_bind world h.run (ExceptT.bindCont f)
  rw [hrun]
  refine congrArg _ (funext fun r => ?_)
  cases r with
  | ok a => rfl
  | error e => rfl

/-- A handler that decides without the store is resumed with its decision. -/
lemma accesses_bind_of_done {world : World} {h : Handler α} {x : Except ApiError α}
    (hx : accesses world h = .done x) (f : α → Handler β) :
    accesses world (h >>= f) = resume world f x := by
  rw [accesses_bind, hx]
  rfl

lemma accesses_bind_ok {world : World} {h : Handler α} {a : α}
    (hh : accesses world h = .done (.ok a)) (f : α → Handler β) :
    accesses world (h >>= f) = accesses world (f a) := accesses_bind_of_done hh f

/-- Two handlers that decide without the store decide so together. -/
lemma accesses_bind_done {world : World} {h : Handler α} {f : α → Handler β}
    {x : Except ApiError α} {g : α → Except ApiError β} (hx : accesses world h = .done x)
    (hf : ∀ a, accesses world (f a) = .done (g a)) :
    accesses world (h >>= f) = .done (x >>= g) := by
  rw [accesses_bind_of_done hx]
  cases x with
  | ok a => exact hf a
  | error e => rfl

/-- The guard does not touch the store. -/
@[simp] lemma accesses_guarded (world : World) (action : Guard.Action α) :
    accesses world (ofProgram (guarded action)) = .done (.ok (action.evalIn world)) := by
  have hguarded : (guarded action).accesses world = .done (action.evalIn world) := by
    unfold guarded Guard.Action.evalIn
    induction action.run with
    | done a => rfl
    | step q next ih => exact ih (world q)
  rw [accesses, ofProgram, ExceptT.run_mk, Program.accesses_bind, hguarded]
  rfl

end Handler

end NetworkPolicy
