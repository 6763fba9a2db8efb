import Mathlib.Tactic.Common
import NetworkPolicy.Proofs.Server.Admission

/-!
# What a request reaches

While a request is served, others can be asked two things: a collaborator a lookup, and the store an
operation.  `Program.reached` lists both in the order in which a program comes to them; counting is
left out.  Where a handler stops early, the list is short, and that is how "no later step is taken"
is said.

The list of a handler is computed like its accesses: `reached_bind_of_done` takes a handler apart
that goes on from the result of another one, and `reached_guarded` is for the guard.
`reached_acceptedBatch` computes the list for all that comes before a batch is carried out.
-/

namespace NetworkPolicy

variable {α β : Type}

namespace Program

/-- The lookups and the store operations that a program comes to, in order, when its lookups are
answered by the world. -/
def reached (world : World) : Program Step.Answer α → Store → List Step
  | .done _, _ => []
  | .step (.lookup q) next, s => .lookup q :: (next (world q)).reached world s
  | .step (.store op) next, s =>
    .store op :: (next (s.perform op).1).reached world (s.perform op).2
  | .step (.record _) next, s => (next ()).reached world s

lemma reached_bind (world : World) (p : Program Step.Answer α) (f : α → Program Step.Answer β) :
    ∀ s : Store, (p.bind f).reached world s = p.reached world s ++
      (f ((p.accesses world).onStore s).1).reached world ((p.accesses world).onStore s).2 := by
  induction p with
  | done a =>
      intro s
      rfl
  | step op next ih =>
      intro s
      cases op with
      | lookup q => exact congrArg (Step.lookup q :: ·) (ih (world q) s)
      | store op => exact congrArg (Step.store op :: ·) (ih _ _)
      | record event => exact ih () s

end Program

namespace Handler

/-- The lookups and the store operations that a handler comes to. -/
def reached (world : World) (h : Handler α) (s : Store) : List Step :=
  Program.reached world h.run s

/-- What a handler reaches that goes on from the result of another one, unless that is an error. -/
def reachedFrom (world : World) (f : α → Handler β) (s : Store) : Except ApiError α → List Step
  | .ok a => reached world (f a) s
  | .error _ => []

/-- A handler that decides without the store is followed by what its decision leads to. -/
lemma reached_bind_of_done {world : World} {h : Handler α} {x : Except ApiError α}
    (hx : accesses world h = .done x) (f : α → Handler β) (s : Store) :
    reached world (h >>= f) s = reached world h s ++ reachedFrom world f s x := by
  have hrun : reached world (h >>= f) s
      = Program.reached world (h.run.bind (ExceptT.bindCont f)) s :=
    rfl
  have hresult : (Program.accesses world h.run).onStore s = (x, s) :=
    congrArg (fun p => Program.onStore p s) hx
  rw [hrun, Program.reached_bind, hresult]
  cases x with
  | ok a => rfl
  | error e => rfl

/-- A guarded action reaches its lookups and nothing else. -/
lemma reached_guarded (world : World) (action : Guard.Action α) (s : Store) :
    reached world (ofProgram (guarded action)) s = (action.run.trace world).map .lookup := by
  have hguarded : (guarded action).reached world s = (action.run.trace world).map .lookup := by
    unfold guarded
    induction action.run with
    | done a => rfl
    | step q next ih => exact congrArg (Step.lookup q :: ·) (ih (world q))
  have hbind : reached world (ofProgram (guarded action)) s
      = (guarded action).reached world s ++ [] := Program.reached_bind world (guarded action) _ s
  rw [hbind, hguarded, List.append_nil]

end Handler

namespace External

open Handler

variable {world : World} {limit : Nat} {r : Http.Request}

/-- To know the caller takes one lookup, if there is a token at all. -/
lemma reached_authenticate (world : World) (r : Http.Request) (allowed : List String) (s : Store) :
    reached world (authenticate r allowed) s = match requestToken r with
      | .ok token => [.lookup (.checkToken token)]
      | .error _ => [] := by
  have hscope : ∀ x : Except ApiError Claims, reachedFrom world
      (fun claims : Claims => if claims.hasAnyScope allowed = true then pure claims
        else throw (ApiError.auth (.scope claims.scopes allowed))) s x = [] := by
    intro x
    cases x with
    | error e => rfl
    | ok claims =>
        show reached world (if claims.hasAnyScope allowed = true then _ else _) s = []
        split
        case isTrue h => rfl
        case isFalse h => rfl
  refine (reached_bind_of_done (accesses_require ..) _ s).trans ?_
  cases requestToken r with
  | error e => rfl
  | ok token =>
      refine congrArg (Step.lookup (.checkToken token) :: ·) ?_
      exact (reached_bind_of_done (accesses_require ..) _ s).trans (hscope _)

lemma reached_authenticate_of_bears (world : World) {token : String} (h : Bears r token)
    (allowed : List String) (s : Store) :
    reached world (authenticate r allowed) s = [.lookup (.checkToken token)] := by
  rw [reached_authenticate, requestToken_of_bears h]

lemma reached_authorize (world : World) (batch : List Policy) (caller : Claims) (s : Store) :
    reached world (authorize batch caller) s
      = ((Guard.check batch caller).run.trace world).map .lookup := by
  refine (reached_bind_of_done (accesses_guarded ..) _ s).trans ?_
  rw [reached_guarded]
  -- whatever the guard decides, it is only counted
  rcases (Guard.check batch caller).evalIn world with cause | _ | _
  · exact List.append_nil _
  · exact List.append_nil _
  · exact List.append_nil _

/-- What the decision about a batch reaches once the caller is known. -/
def reachedByBatch (world : World) (limit : Nat) (r : Http.Request) (caller : Claims) : List Step :=
  match r.body.decode policiesRequest limit with
  | .error _ => []
  | .ok batch =>
    match validatePolicies batch with
    | .error _ => []
    | .ok () => ((Guard.check batch caller).run.trace world).map .lookup

/-- Of a batch that is not valid the guard is not asked. -/
lemma reachedByBatch_of_invalid {batch : List Policy} {cause : ValidationError} (caller : Claims)
    (hdecode : r.body.decode policiesRequest limit = .ok batch)
    (hinvalid : validatePolicies batch = .error cause) :
    reachedByBatch world limit r caller = [] := by
  rw [reachedByBatch, hdecode]
  show (match validatePolicies batch with
    | .error _ => []
    | .ok () => ((Guard.check batch caller).run.trace world).map Step.lookup) = _
  rw [hinvalid]

lemma reachedByBatch_of_valid {batch : List Policy} (caller : Claims)
    (hdecode : r.body.decode policiesRequest limit = .ok batch)
    (hvalid : validatePolicies batch = .ok ()) : reachedByBatch world limit r caller
      = ((Guard.check batch caller).run.trace world).map .lookup := by
  rw [reachedByBatch, hdecode]
  show (match validatePolicies batch with
    | .error _ => []
    | .ok () => ((Guard.check batch caller).run.trace world).map Step.lookup) = _
  rw [hvalid]

lemma reached_acceptedBatch (world : World) (limit : Nat) (r : Http.Request) (s : Store) :
    reached world (acceptedBatch limit r) s = reached world (authenticate r writeScopes) s ++
      match callerIn world r writeScopes with
      | .error _ => []
      | .ok caller => reachedByBatch world limit r caller := by
  refine (reached_bind_of_done (accesses_authenticate world r writeScopes) _ s).trans ?_
  refine congrArg (reached world (authenticate r writeScopes) s ++ ·) ?_
  cases callerIn world r writeScopes with
  | error e => rfl
  | ok caller =>
      refine (reached_bind_of_done (accesses_require ..) _ s).trans ?_
      unfold reachedByBatch
      cases r.body.decode policiesRequest limit with
      | error e => rfl
      | ok batch =>
          refine (reached_bind_of_done (accesses_require ..) _ s).trans ?_
          show _ = match validatePolicies batch with
            | .error _ => []
            | .ok () => ((Guard.check batch caller).run.trace world).map Step.lookup
          cases validatePolicies batch with
          | error e => rfl
          | ok _ =>
              refine (reached_bind_of_done (accesses_authorize world batch caller) _ s).trans ?_
              rw [reached_authorize]
              cases authorizeIn world batch caller with
              | error e => exact List.append_nil _
              | ok _ => exact List.append_nil _

end External

/-- An answer reaches what its handler reaches. -/
lemma Route.reached_answer (world : World) (limit : Nat) (r : Http.Request) (route : Route)
    (s : Store) : (route.answer limit r).reached world s
      = Handler.reached world (route.handle limit r) s := by
  have hbind : (route.answer limit r).reached world s
      = Handler.reached world (route.handle limit r) s ++ [] :=
    Program.reached_bind world (route.handle limit r).run _ s
  rw [hbind, List.append_nil]

end NetworkPolicy
