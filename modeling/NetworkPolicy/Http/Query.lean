import NetworkPolicy.Text.Blank
import NetworkPolicy.Text.Form

/-!
# The filter of a listing

A listing may be restricted by the parameter `id` of its query, a list of ids with commas between
them.

* `Http.queryIds` — the ids asked for; `none` when there is no such parameter.
-/

namespace NetworkPolicy.Http

/-- Why a query is refused. -/
inductive QueryFault where
  /-- The parameter is given more than once. -/
  | duplicateId
  deriving DecidableEq, Repr

def QueryFault.message : QueryFault → String
  | .duplicateId => "duplicate field `id`"

/-- The ids of a list: blanks around an id are removed, empty ones are left out. -/
def splitIds (value : String) : List String :=
  (((Form.splitAt ',' value.toList).map Text.trim).filter (· ≠ [])).map String.ofList

def queryIds (query : Option String) : Except QueryFault (Option (List String)) :=
  match (Form.pairs (query.getD "")).filter (·.1 = "id") with
  | [] => .ok none
  | [pair] => .ok (some (splitIds pair.2))
  | _ => .error .duplicateId

end NetworkPolicy.Http
