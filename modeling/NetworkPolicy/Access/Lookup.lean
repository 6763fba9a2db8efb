import NetworkPolicy.Caller
import NetworkPolicy.Http.Status
import NetworkPolicy.Program
import NetworkPolicy.Wire.Fault

/-!
# Lookups

The questions that are put to the identity provider and to the platform's directory.

* `Lookup` — the questions, with `Lookup.Answer` as the type of the answers to each.
* `LookupFault` — why a question was not answered.
-/

namespace NetworkPolicy

/-- Why a lookup failed. -/
inductive LookupFault where
  /-- No request could be made, or no answer came. -/
  | unsent
  /-- The answer has a status other than success. -/
  | status (code : Nat) (body : String)
  | undecodable (fault : Wire.Fault)
  /-- A membership query matched several spaces. -/
  | severalSpaces
  /-- A failure in the collaborator's own words. -/
  | other (text : String)
  deriving DecidableEq, Repr

def LookupFault.message : LookupFault → String
  | .unsent => "sending request"
  | .status code body => s!"unexpected status {Http.describeStatus code}: {body}"
  | .undecodable fault => s!"decoding response: {fault.message}"
  | .severalSpaces => "found more than one matching space"
  | .other text => text

/-- A question to a collaborator.  Every lookup but the first two carries a service token. -/
inductive Lookup where
  /-- A token of the server's own. -/
  | serviceToken
  /-- The claims of a caller's token. -/
  | checkToken (token : String)
  /-- The spaces that own the given apps. -/
  | spaceGuids (token : String) (apps : List String)
  /-- The given apps with the space that owns each. -/
  | appSpaces (token : String) (apps : List String)
  /-- The space of a guid. -/
  | space (token guid : String)
  /-- The given space, if the user is a member of it. -/
  | userSpace (token user : String) (space : Space)
  deriving DecidableEq, Repr

namespace Lookup

/-- What a lookup finds out. -/
def Value : Lookup → Type
  | .serviceToken => String
  | .checkToken _ => Claims
  | .spaceGuids .. => List String
  | .appSpaces .. => List (String × String)
  | .space .. => Option Space
  | .userSpace .. => Option Space

/-- What a lookup is answered with. -/
def Answer (q : Lookup) : Type := Except LookupFault q.Value

end Lookup

end NetworkPolicy
