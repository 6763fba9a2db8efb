import NetworkPolicy.Api.Handler
import NetworkPolicy.Wire.Form
import Std.Data.HashMap

/-!
# The internal service

The agents that enforce policies list them with the tags of their apps, and let an app reach
itself.  There is no authentication here.

* `Internal.listTaggedPolicies`, `Internal.createSelfPolicy` — the handlers.
-/

namespace NetworkPolicy.Internal

open Handler

/-! ## Listing -/

/-- The tags of a list, to be found by their apps.  Were an app there twice, its last tag would
count. -/
def tagTable (tags : List Tag) : Std.HashMap String String :=
  tags.foldl (fun table tag => table.insert tag.id tag.tag) ∅

/-- The member of an object that shows the tag of an app, if it has one. -/
def tagMember (table : Std.HashMap String String) (id : String) : List (String × Json) :=
  (table[id]?.map fun tag => ("tag", .string tag)).toList

/-- A policy with the tags of its apps. -/
def taggedPolicyJson (table : Std.HashMap String String) (p : Policy) : Json :=
  let d := p.destination
  let source := ("id", .string p.source) :: tagMember table p.source
  let destination := [("id", .string d.id)] ++ tagMember table d.id ++
    [("protocol", .string d.protocol.name)] ++
    (d.port?.map fun port => ("port", Wire.portJson port)).toList ++
    [("ports", Wire.portsJson d.range.ports)]
  .object [("source", .object source), ("destination", .object destination)]

def taggedPolicyList (policies : List Policy) (tags : List Tag) : Http.Response :=
  let table := tagTable tags
  ⟨.ok, .json (.object [("total_policies", .number policies.length),
    ("policies", .array (policies.map (taggedPolicyJson table)))])⟩

/-- Reads the policies to be listed and then the tags. -/
def listWithTags (ids : Option (List String)) :
    Program Step.Answer (List Policy × List Tag) := do
  let policies : List Policy ← match ids with
    | some ids => store (.byGuids ids)
    | none => store .all
  let tags : List Tag ← store .tags
  return (policies, tags)

/-- Lists policies with the tags of their apps. -/
def listTaggedPolicies (r : Http.Request) : Handler Http.Response := do
  let ids ← require .query (Http.queryIds r.query)
  let (policies, tags) ← timed .listTagged (listWithTags ids)
  return taggedPolicyList policies tags

/-! ## Self policies -/

/-- An app that is to be reachable from its own instances, and the port. -/
def selfPolicyRequest : Wire.Decoder (String × Option UInt16) := fun draft => do
  let (id, port, ()) ← Wire.record "SelfPolicyRequest"
    (Wire.Fields.cons "id" none Wire.text (.cons "port" (some none) (Wire.optional Wire.port)
      .nil)) draft
  return (id, port)

/-- The policy that lets an app reach itself. -/
def selfPolicy (id : String) (port : Option UInt16) : Except ValidationError Policy := do
  let policy : Policy := ⟨id, ← Destination.make id .tcp port none⟩
  policy.validate
  return policy

/-- Stores a policy and then, if that went well, reads the tags. -/
def createAndListTags (p : Policy) : Program Step.Answer (Except StoreError (List Tag)) := do
  match (← store (.create [p]) : Except StoreError Unit) with
  | .error cause => return .error cause
  | .ok () =>
    let tags : List Tag ← store .tags
    return .ok tags

/-- The first tag of an app in a list, if there is one. -/
def tagOf? (tags : List Tag) (id : String) : Option String :=
  (tags.find? (·.id = id)).map Tag.tag

/-- Lets an app reach itself and answers its tag. -/
def createSelfPolicy (limit : Nat) (r : Http.Request) : Handler Http.Response := do
  let (id, port) ← readBody selfPolicyRequest limit r
  let policy ← require .validation (selfPolicy id port)
  let tags ← require .store (← timed .createSelf (createAndListTags policy))
  match tagOf? tags id with
  | some tag => return ⟨.ok, .json (.object [("tag", .string tag)])⟩
  | none => throw (.missingTag id)

end NetworkPolicy.Internal
