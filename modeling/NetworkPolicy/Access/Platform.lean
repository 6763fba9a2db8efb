import NetworkPolicy.Access.Lookup

/-!
# A platform given by tables

Collaborators whose answers are written down: apps with their spaces, spaces, members and tokens,
any of which may be a failure instead.

* `Platform` — the tables.
* `Platform.answer` — how each lookup is answered from them.
-/

namespace NetworkPolicy

/-- What the collaborators know.  A table entry may be the text of a failure. -/
structure Platform where
  serviceToken : Except String String
  /-- Apps with their spaces. -/
  apps : List (String × String)
  /-- An answer to every request for the spaces of apps, instead of `apps`. -/
  spaceGuids : Option (Except String (List String))
  /-- An answer to every request for apps with their spaces, instead of `apps`. -/
  appSpaces : Option (Except String (List (String × String)))
  /-- Spaces by their guids. -/
  spaces : List (String × Except String (Option Space))
  /-- Names of spaces whose members cannot be looked up. -/
  memberFaults : List (String × String)
  /-- Users with the spaces that they are members of. -/
  members : List (String × Space)
  tokens : List (String × Except String Claims)

namespace Platform

/-- The entries for the given apps, in the order of the request. -/
def entries (p : Platform) (apps : List String) : List (String × String) :=
  apps.flatMap fun app => p.apps.filter (·.1 = app)

def answer (p : Platform) : (q : Lookup) → q.Answer
  | .serviceToken => p.serviceToken.mapError .other
  | .checkToken token => ((p.tokens.lookup token).getD (.error "invalid token")).mapError .other
  | .spaceGuids _ apps =>
    (p.spaceGuids.getD (.ok ((p.entries apps).map Prod.snd))).mapError .other
  | .appSpaces _ apps => (p.appSpaces.getD (.ok (p.entries apps))).mapError .other
  | .space _ guid => ((p.spaces.lookup guid).getD (.ok none)).mapError .other
  | .userSpace _ user space =>
    match p.memberFaults.lookup space.name with
    | some text => .error (.other text)
    | none => .ok (if p.members.contains (user, space) then some space else none)

end Platform

end NetworkPolicy
