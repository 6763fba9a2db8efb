import NetworkPolicy.Access.Lookup
import NetworkPolicy.Policy

/-!
# Who may manage and see which policies

An administrator may do everything.  Any other caller has to be a member of every space that owns
an app of the policies in question.

* `Guard.check` — whether the caller may manage a batch.  All spaces are fetched before the first
  membership is asked for, and the first space that is unknown or that the caller is no member of
  decides.
* `Guard.visible` — the policies that the caller may see.  Each space is fetched and its membership
  asked for before the next one; unknown apps and spaces hide the policies that refer to them.

Both are programs of lookups.  They fetch one service token, look all apps up at once, and look at
each space once, in the order in which the spaces first appear.
-/

namespace NetworkPolicy

/-- Why access could not be decided.  A denial is a decision. -/
inductive AccessError where
  | serviceToken (cause : LookupFault)
  | spaceGuids (cause : LookupFault)
  /-- A space or the membership in it could not be looked up. -/
  | space (guid : String) (cause : LookupFault)
  deriving DecidableEq, Repr

def AccessError.message : AccessError → String
  | .serviceToken cause => s!"getting token: {cause.message}"
  | .spaceGuids cause => s!"getting space guids: {cause.message}"
  | .space guid cause => s!"getting space with guid {guid}: {cause.message}"

namespace Guard

/-- A program of lookups that may end in an access error. -/
abbrev Action (α : Type) := ExceptT AccessError (Program Lookup.Answer) α

/-- Asks for a lookup; `wrap` says what its failure means. -/
def look (q : Lookup) (wrap : LookupFault → AccessError) : Action q.Value :=
  ExceptT.mk (Program.bind (Program.ask q) fun answer => .done (answer.mapError wrap))

/-- The apps that a batch names, each once, in the order in which they first appear. -/
def appsOf (policies : List Policy) : List String := (appIdsOf policies).eraseDups

/-! ## Managing -/

/-- The spaces of the given guids, with their guids; none if one of them does not exist. -/
def fetchSpaces (token : String) : List String → Action (Option (List (String × Space)))
  | [] => return some []
  | guid :: guids => do
    match ← look (.space token guid) (.space guid) with
    | none => return none
    | some space =>
      match ← fetchSpaces token guids with
      | none => return none
      | some spaces => return some ((guid, space) :: spaces)

/-- Whether a user is a member of every given space. -/
def isMemberOfAll (token user : String) : List (String × Space) → Action Bool
  | [] => return true
  | (guid, space) :: spaces => do
    match ← look (.userSpace token user space) (.space guid) with
    | none => return false
    | some _ => isMemberOfAll token user spaces

/-- Whether the caller may manage all of the policies. -/
def check (policies : List Policy) (caller : Claims) : Action Bool := do
  if caller.isAdmin then return true
  let token ← look .serviceToken .serviceToken
  let guids ← look (.spaceGuids token (appsOf policies)) .spaceGuids
  match ← fetchSpaces token (List.eraseDups guids) with
  | none => return false
  | some spaces => isMemberOfAll token caller.userId spaces

/-! ## Seeing -/

/-- Those of the given guids whose space exists and has the user as a member. -/
def memberSpaces (token user : String) : List String → Action (List String)
  | [] => return []
  | guid :: guids => do
    match ← look (.space token guid) (.space guid) with
    | none => memberSpaces token user guids
    | some space =>
      match ← look (.userSpace token user space) (.space guid) with
      | none => memberSpaces token user guids
      | some _ => return guid :: (← memberSpaces token user guids)

/-- The space of an app, according to a list of pairs in which a later pair overrides. -/
def spaceOf? (appSpaces : List (String × String)) (app : String) : Option String :=
  appSpaces.reverse.lookup app

/-- Whether every app of a policy has a space that is among `spaces`. -/
def isWithin (appSpaces : List (String × String)) (spaces : List String) (p : Policy) : Bool :=
  p.appIds.all fun app => (spaceOf? appSpaces app).any spaces.contains

def visible (policies : List Policy) (caller : Claims) : Action (List Policy) := do
  if caller.isAdmin || policies.isEmpty then return policies
  let token ← look .serviceToken .serviceToken
  let appSpaces ← look (.appSpaces token (appsOf policies)) .spaceGuids
  let spaces ← memberSpaces token caller.userId (List.eraseDups (List.map Prod.snd appSpaces))
  return policies.filter (isWithin appSpaces spaces)

end Guard

end NetworkPolicy
