/-!
# Callers and spaces

* `Claims` — what a verified token says about the caller.
* `Space` — a space of the platform; it belongs to an organization and owns apps.
-/

namespace NetworkPolicy

/-- What a verified token says about its bearer. -/
structure Claims where
  scopes : List String
  userId : String
  userName : String
  deriving DecidableEq, Repr, Inhabited

namespace Claims

/-- The scope that grants every right. -/
def adminScope : String := "network.admin"

/-- The scope that grants the management of policies between apps of the caller's own spaces. -/
def writeScope : String := "network.write"

def hasScope (claims : Claims) (scope : String) : Bool := claims.scopes.contains scope

/-- Whether the caller holds one of the scopes in `allowed`. -/
def hasAnyScope (claims : Claims) (allowed : List String) : Bool := allowed.any claims.hasScope

def isAdmin (claims : Claims) : Bool := claims.hasScope adminScope

end Claims

/-- A space, known by its name and the organization it belongs to. -/
structure Space where
  name : String
  orgGuid : String
  deriving DecidableEq, Repr

end NetworkPolicy
