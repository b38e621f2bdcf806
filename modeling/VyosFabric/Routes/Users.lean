import VyosFabric.Routes.Sessions

/-!
# The user routes

Users and their grants on sites. Every route of this module stands behind `requireAdmin`, which
looks at the claims only.
-/

namespace VyosFabric

open Interaction

structure CreateUser where
  firstName : Option String
  lastName : Option String
  email : Option String
  username : String
  password : String
  role : Option String
  deriving DecidableEq, Repr

/-- All fields are optional; no password and an empty one keep the password. -/
structure UpdateUser where
  firstName : Option String
  lastName : Option String
  email : Option String
  username : Option String
  password : Option String
  role : Option String
  deriving DecidableEq, Repr

structure GrantAccess where
  siteId : Uuid
  role : String
  deriving DecidableEq, Repr

/-- The access entries by user. A user that is asked for once gets what `remove` gives. -/
def fetchAccessMap : FabricHandler (Uuid → List SiteAccessEntry) := do
  let rows ← query .selectAllAccess
  return fun id ↦ (rows.filter fun r ↦ r.userId == id).map SiteAccessRow.entry

def fetchUserRow (id : Uuid) : FabricHandler User := do
  let found ← query (.selectUser id)
  match found with
  | none => .fail .notFound
  | some user => return user

def listUsers : FabricHandler (List UserWithAccess) := do
  let users ← query .selectUsers
  let accessMap ← fetchAccessMap
  return users.map fun u ↦ .fromUser u (accessMap u.id)

def getUser (id : Uuid) : FabricHandler UserWithAccess := do
  let user ← fetchUserRow id
  let accessMap ← fetchAccessMap
  return .fromUser user (accessMap id)

def createUser (body : CreateUser) : FabricHandler UserWithAccess := do
  let role := body.role.getD "operator"
  let firstName := body.firstName.getD ""
  let lastName := body.lastName.getD ""
  let passwordHash ← hashPassword body.password
  let user ← query
    (.insertUser ⟨firstName, lastName, body.email, body.username, passwordHash, role⟩)
  return .fromUser user []

/-- The hash of a new password, if one was supplied. -/
def newHash (password : Option String) : FabricHandler (Option String) :=
  match password with
  | some p =>
    if p = "" then return none
    else do
      let hash ← hashPassword p
      return some hash
  | none => return none

def updateUser (id : Uuid) (body : UpdateUser) : FabricHandler UserWithAccess := do
  let passwordHash ← newHash body.password
  let updated ← query (.updateUser id
    ⟨body.firstName, body.lastName, body.email, body.username, passwordHash, body.role⟩)
  match updated with
  | none => .fail .notFound
  | some user =>
    let accessMap ← fetchAccessMap
    return .fromUser user (accessMap id)

def deleteUser (id : Uuid) : FabricHandler Uuid := do
  let n ← query (.deleteUser id)
  if n = 0 then .fail .notFound else return id

def grantAccess (userId : Uuid) (body : GrantAccess) : FabricHandler Unit :=
  query (.insertAccess ⟨userId, body.siteId, body.role⟩)

def revokeAccess (userId siteId : Uuid) : FabricHandler Unit := do
  let _ ← query (.deleteAccess userId siteId)
  return

/-- A request to `/users`. -/
inductive UserRequest where
  | list
  | create (body : CreateUser)
  | get (id : Uuid)
  | update (id : Uuid) (body : UpdateUser)
  | delete (id : Uuid)
  | grant (id : Uuid) (body : GrantAccess)
  | revoke (id siteId : Uuid)
  deriving DecidableEq

/-- What these routes answer with. -/
inductive UserAnswer where
  | user (u : UserWithAccess)
  | created (u : UserWithAccess)
  | users (l : List UserWithAccess)
  | deleted (id : Uuid)
  | ok

def UserRequest.handle : UserRequest → FabricHandler UserAnswer
  | .list => .users <$> listUsers
  | .create body => .created <$> createUser body
  | .get id => .user <$> getUser id
  | .update id body => .user <$> updateUser id body
  | .delete id => .deleted <$> deleteUser id
  | .grant id body => (fun _ ↦ .ok) <$> grantAccess id body
  | .revoke id siteId => (fun _ ↦ .ok) <$> revokeAccess id siteId

end VyosFabric
