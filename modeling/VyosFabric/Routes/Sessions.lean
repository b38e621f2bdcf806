import VyosFabric.Model.Fabric
import VyosFabric.Routes.Config

/-!
# Sessions

`login` finds the user by name, verifies the password and answers with a session token and the user.
A stored value that is no PHC string is taken for legacy plaintext: if it is the password presented,
the login replaces it by a hash of it. The replacement is an `UPDATE` by user id, two statements
after the read, and a failure of it is ignored.

A token is its claims: it cannot be forged, so nothing else about it matters here. It is never
looked up; it stays good until it expires.
-/

namespace VyosFabric

open Interaction

/-- A request handler over all tables. -/
abbrev FabricHandler (α : Type) : Type :=
  Prog FabricStatement FabricStatement.Reply AppError α

/-- A database statement followed by `?`. -/
def query (s : FabricStatement) : FabricHandler s.Value :=
  .call s fun v ↦ match v with
    | .ok x => .ret x
    | .error e => .fail (.database e.text)

/-- A device call followed by `map_err(gateway_err)?`. -/
def send (s : FabricStatement) : FabricHandler s.Value :=
  .call s fun v ↦ match v with
    | .ok x => .ret x
    | .error e => .fail (.gateway e.text)

/-- A call whose failure the handler looks at itself. -/
def result (s : FabricStatement) : FabricHandler s.Reply := .call s .ret

/-- `hash_password(…).map_err(AppError::Internal)?`. -/
def hashPassword (password : String) : FabricHandler String :=
  .call (.hashPassword password) fun v ↦ match v with
    | .ok hash => .ret hash
    | .error e => .fail (.internal e.text)

/-- A handler of the review system among all handlers. -/
def Handler.lift {α : Type} (p : Handler α) : FabricHandler α :=
  p.embed FabricStatement.review fun _ v ↦ v

/-- Requires the authenticated user to be an admin: the middleware of the user routes. It looks at
the claims only. -/
def requireAdmin (claims : Claims) : FabricHandler Unit :=
  if claims.isAdmin then .ret () else .fail .forbidden

/-! ### Passwords -/

inductive Verify where
  /-- The stored value is a hash and matches. -/
  | valid
  /-- The stored value is legacy plaintext and matches. -/
  | legacyPlaintext
  | invalid
  deriving DecidableEq, Repr

def Argon2.verifyPassword (A : Argon2) (stored candidate : String) : Verify :=
  if A.parses stored then
    if A.verifies stored candidate then .valid else .invalid
  else if stored = candidate then .legacyPlaintext
  else .invalid

/-! ### Users as they are answered -/

structure SiteAccessEntry where
  siteId : Uuid
  siteName : String
  role : String
  deriving DecidableEq, Repr

def SiteAccessRow.entry (r : SiteAccessRow) : SiteAccessEntry := ⟨r.siteId, r.siteName, r.role⟩

structure UserWithAccess where
  id : Uuid
  firstName : String
  lastName : String
  email : Option String
  username : String
  role : String
  createdAt : Timestamp
  siteAccess : List SiteAccessEntry
  deriving DecidableEq, Repr

def UserWithAccess.fromUser (u : User) (siteAccess : List SiteAccessEntry) : UserWithAccess :=
  ⟨u.id, u.firstName, u.lastName, u.email, u.username, u.role, u.createdAt, siteAccess⟩

/-- Loads a user plus their site-access list. -/
def loadUser (id : Uuid) : FabricHandler UserWithAccess := do
  let found ← query (.selectUser id)
  match found with
  | none => .fail .unauthorized
  | some user =>
    let rows ← query (.selectAccess id)
    return .fromUser user (rows.map SiteAccessRow.entry)

/-! ### Login -/

structure LoginRequest where
  username : String
  password : String
  deriving DecidableEq, Repr

/-- The token of the session, as its claims, and the user it is for. -/
structure LoginAnswer where
  claims : Claims
  user : UserWithAccess
  deriving DecidableEq, Repr

/-- Transparently upgrade the stored plaintext to an argon2 hash. -/
def upgrade (id : Uuid) (password : String) : FabricHandler Unit := do
  let hashed ← result (.hashPassword password)
  match hashed with
  | .ok hash =>
    let _ ← result (.updatePasswordHash id hash)
    return
  | .error _ => return

/-- The claims are those of the row that was read, the user is read again. -/
def openSession (user : User) : FabricHandler LoginAnswer := do
  let body ← loadUser user.id
  return ⟨⟨user.id, user.role⟩, body⟩

def login (A : Argon2) (body : LoginRequest) : FabricHandler LoginAnswer := do
  let found ← query (.selectUserByName body.username)
  match found with
  | none => .fail .unauthorized
  | some user =>
    match A.verifyPassword user.passwordHash body.password with
    | .valid => openSession user
    | .legacyPlaintext =>
      upgrade user.id body.password
      openSession user
    | .invalid => .fail .unauthorized

/-- The user a token was issued to. -/
def me (claims : Claims) : FabricHandler UserWithAccess := loadUser claims.sub

/-! ### One step of a handler -/

section Steps

variable {β : Type} {s : FabricStatement} {h : List FabricEvent} {q : FabricHandler β}

/-- A statement followed by `?`: not answered yet, answered with a fault, or answered with a
value. -/
theorem follows_query_bind {f : s.Value → FabricHandler β}
    (hf : Prog.Follows ((query s).bind f) h q) :
    (h = [] ∧ q.outcome = none) ∨
      (∃ e : Fault, h = [⟨s, .error e⟩] ∧ q = .fail (.database e.text)) ∨
      ∃ (x : s.Value) (h' : List FabricEvent), h = ⟨s, .ok x⟩ :: h' ∧ Prog.Follows (f x) h' q := by
  rcases Prog.follows_call.1 hf with ⟨rfl, rfl⟩ | ⟨v, h', rfl, hf'⟩
  · exact Or.inl ⟨rfl, rfl⟩
  · cases v with
    | error e =>
      obtain ⟨rfl, rfl⟩ := Prog.follows_fail.1 hf'
      exact Or.inr (Or.inl ⟨e, rfl, rfl⟩)
    | ok x => exact Or.inr (Or.inr ⟨x, h', rfl, hf'⟩)

/-- A statement whose answer is handed over. -/
theorem follows_result_bind {f : s.Reply → FabricHandler β}
    (hf : Prog.Follows ((result s).bind f) h q) :
    (h = [] ∧ q.outcome = none) ∨
      ∃ (v : s.Reply) (h' : List FabricEvent), h = ⟨s, v⟩ :: h' ∧ Prog.Follows (f v) h' q := by
  rcases Prog.follows_call.1 hf with ⟨rfl, rfl⟩ | ⟨v, h', rfl, hf'⟩
  · exact Or.inl ⟨rfl, rfl⟩
  · exact Or.inr ⟨v, h', rfl, hf'⟩

end Steps

theorem query_issues {P : FabricStatement → Prop} {s : FabricStatement} (hs : P s) :
    (query s).Issues P := by
  refine ⟨hs, fun v ↦ ?_⟩
  cases v <;> trivial

end VyosFabric
