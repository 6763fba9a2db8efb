/-!
# Programs of operations

A program is a tree: it is done with a result, or it asks for one operation and goes on with the
answer.  What an operation does is left to whoever runs the program, so one program can be run
against a table of answers, against the network, or with its operations interleaved with others.

* `Program` — the trees, with `Program.ask` for a single operation.
* `Program.runM` — running a program in any monad, given a meaning for each operation.
* `Program.runM_bind` — running two programs one after the other is running their composition.
-/

namespace NetworkPolicy

/-- A program with results in `α` that may ask for operations; `Answer op` is the type of the
answers to `op`. -/
inductive Program {Op : Type} (Answer : Op → Type) (α : Type) where
  | done (a : α)
  | step (op : Op) (next : Answer op → Program Answer α)

namespace Program

variable {Op : Type} {Answer : Op → Type} {α β : Type}

def ask (op : Op) : Program Answer (Answer op) := .step op .done

/-- A program followed by another one that depends on its result. -/
def bind : Program Answer α → (α → Program Answer β) → Program Answer β
  | .done a, f => f a
  | .step op next, f => .step op fun answer => (next answer).bind f

instance : Monad (Program Answer) where
  pure := .done
  bind := bind

theorem bind_done (p : Program Answer α) : p.bind .done = p := by
  induction p with
  | done a => rfl
  | step op next ih => simp only [bind, ih]

theorem bind_assoc {γ : Type} (p : Program Answer α) (f : α → Program Answer β)
    (g : β → Program Answer γ) : (p.bind f).bind g = p.bind fun a => (f a).bind g := by
  induction p with
  | done a => rfl
  | step op next ih => simp only [bind, ih]

instance : LawfulMonad (Program Answer) :=
  LawfulMonad.mk' _ bind_done (fun _ _ => rfl) bind_assoc

/-- Runs a program in a monad in which each operation has a meaning. -/
def runM {m : Type → Type} [Monad m] (meaning : (op : Op) → m (Answer op)) :
    Program Answer α → m α
  | .done a => pure a
  | .step op next => do (next (← meaning op)).runM meaning

theorem runM_bind {m : Type → Type} [Monad m] [LawfulMonad m]
    (meaning : (op : Op) → m (Answer op)) (p : Program Answer α) (f : α → Program Answer β) :
    (p.bind f).runM meaning = p.runM meaning >>= fun a => (f a).runM meaning := by
  induction p with
  | done a => simp [bind, runM]
  | step op next ih => simp [bind, runM, ih]

/-- The result of a program when each operation has one fixed answer. -/
def eval (answer : (op : Op) → Answer op) (p : Program Answer α) : α :=
  p.runM (m := Id) answer

/-- The operations that a program asks for, in order, when each has one fixed answer. -/
def trace (answer : (op : Op) → Answer op) : Program Answer α → List Op
  | .done _ => []
  | .step op next => op :: (next (answer op)).trace answer

end Program

end NetworkPolicy
