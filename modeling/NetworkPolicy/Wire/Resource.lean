import NetworkPolicy.Wire.Form

/-!
# Answers of the identity provider and of the directory

Decoders for what the collaborators send: a token, apps with the spaces that own them, a space, and
a page of spaces.  Each of them looks only at the members that it needs.
-/

namespace NetworkPolicy.Wire

def single {α : Type} (record name : String) (read : Decoder α) : Decoder α := fun draft => do
  let (value, ()) ← Wire.record record (Fields.cons name none read .nil) draft
  return value

def token : Decoder String := single "TokenResponse" "access_token" text

/-- The guid of the space that owns an app. -/
def ownerSpace : Decoder String :=
  single "AppRelationships" "space" (single "Relationship" "data"
    (single "RelationshipData" "guid" text))

/-- An app and the space that owns it, as guids. -/
def app : Decoder (String × String) := fun draft => do
  let (guid, space, ()) ← record "App"
    (Fields.cons "guid" none text (.cons "relationships" none ownerSpace .nil)) draft
  return (guid, space)

def apps : Decoder (List (String × String)) := single "AppsResponse" "resources" (list app)

/-- What a space resource says about the space. -/
def spaceEntity : Decoder Space := fun draft => do
  let (name, orgGuid, ()) ← record "SpaceEntity"
    (Fields.cons "name" none text (.cons "organization_guid" none text .nil)) draft
  return ⟨name, orgGuid⟩

def spaceResource : Decoder Space := single "SpaceResource" "entity" spaceEntity

def spacePage : Decoder (List Space) := single "SpacesResponse" "resources" (list spaceResource)

end NetworkPolicy.Wire
