import VyosFabric.Interaction.Contracts
import VyosFabric.Model.Database

/-!
# All tables, and the statements on them

The tables around the review system: `sites`, `users`, and all columns of `routers`. A `Fabric`
holds them next to the review tables, and `Fabric.review` is the view of it that the review system
has; a statement of that system is answered by this view (`FabricStatement.review`).

`argon2` is a library; `Argon2` is what the code uses of it. Hashing draws a random salt, so it is a
statement, and the environment chooses which hash of the password it gets.

Identifiers are drawn from one supply for all three tables, and `ORDER BY name` sorts by the order
of texts, which stands in for the collation of the database.
-/

namespace VyosFabric

open Interaction

/-- What the code uses of `argon2`. -/
structure Argon2 where
  /-- `PasswordHash::new` reads the text. -/
  parses : String → Bool
  /-- `verify_password` accepts the candidate for the hash. -/
  verifies : String → String → Bool
  /-- `hash_password` can make the hash from the password, with some salt. -/
  makes : String → String → Bool

/-- **An ideal hash** is read back, and is verified by the password it was made from only. An empty
text is not a hash. -/
structure Argon2.Ideal (A : Argon2) : Prop where
  empty : A.parses "" = false
  parses : ∀ p h, A.makes p h = true → A.parses h = true
  verifies : ∀ p h q, A.makes p h = true → (A.verifies h q = true ↔ q = p)

/-! ### Rows -/

/-- A row of `sites`. -/
structure Site where
  id : Uuid
  name : String
  description : Option String
  createdAt : Timestamp
  deriving DecidableEq, Repr

/-- A row of `users`. -/
structure User where
  id : Uuid
  firstName : String
  lastName : String
  email : Option String
  username : String
  passwordHash : String
  role : String
  createdAt : Timestamp
  deriving DecidableEq, Repr

inductive RouterStatus where
  | ok
  | warn
  | crit
  | off
  deriving DecidableEq, Repr

/-- A row of `routers`. -/
structure RouterRow where
  id : Uuid
  siteId : Uuid
  hostname : String
  description : Option String
  role : String
  mgmtIp : String
  status : RouterStatus
  version : String
  uptimeSecs : Int
  apiPort : Option Int
  apiProtocol : String
  apiKey : Option String
  apiTimeout : Int
  sshUsername : Option String
  sshPassword : Option String
  sshPort : Int
  createdAt : Timestamp
  updatedAt : Timestamp
  deriving DecidableEq, Repr

/-- What the review system reads of a router. -/
def RouterRow.operated (r : RouterRow) : Router :=
  ⟨r.id, r.siteId, r.mgmtIp, r.version, r.apiPort, r.apiProtocol, r.apiKey⟩

/-- A row of the joins of `user_site_access` with `sites`. -/
structure SiteAccessRow where
  userId : Uuid
  siteId : Uuid
  siteName : String
  role : String
  deriving DecidableEq, Repr

/-! ### Requests -/

structure CreateSite where
  name : String
  description : Option String
  deriving DecidableEq, Repr

/-- No name keeps the name; no description clears the description. -/
structure UpdateSite where
  name : Option String
  description : Option String
  deriving DecidableEq, Repr

structure CreateRouter where
  siteId : Uuid
  hostname : String
  role : String
  description : Option String
  mgmtIp : String
  version : String
  deriving DecidableEq, Repr

structure UpdateRouter where
  hostname : Option String
  description : Option String
  mgmtIp : Option String
  version : Option String
  apiPort : Option Int
  apiProtocol : Option String
  apiKey : Option String
  apiTimeout : Option Int
  sshUsername : Option String
  sshPassword : Option String
  sshPort : Option Int
  deriving DecidableEq, Repr

/-- The values bound by the insert into `users`. -/
structure NewUser where
  firstName : String
  lastName : String
  email : Option String
  username : String
  passwordHash : String
  role : String
  deriving DecidableEq, Repr

/-- The values bound by the update of `users`. -/
structure UserPatch where
  firstName : Option String
  lastName : Option String
  email : Option String
  username : Option String
  passwordHash : Option String
  role : Option String
  deriving DecidableEq, Repr

def UpdateSite.apply (body : UpdateSite) (s : Site) : Site :=
  { s with name := body.name.getD s.name, description := body.description }

/-- An empty secret keeps the stored one. -/
def keepEmpty (new old : Option String) : Option String :=
  match new with
  | some t => if t = "" then old else some t
  | none => old

def UpdateRouter.apply (body : UpdateRouter) (now : Timestamp) (r : RouterRow) : RouterRow :=
  { r with
    hostname := body.hostname.getD r.hostname
    description := body.description
    mgmtIp := body.mgmtIp.getD r.mgmtIp
    version := body.version.getD r.version
    apiPort := body.apiPort
    apiProtocol := body.apiProtocol.getD r.apiProtocol
    apiKey := keepEmpty body.apiKey r.apiKey
    apiTimeout := body.apiTimeout.getD r.apiTimeout
    sshUsername := body.sshUsername
    sshPassword := keepEmpty body.sshPassword r.sshPassword
    sshPort := body.sshPort.getD r.sshPort
    updatedAt := now }

/-- An empty email clears the email, an empty hash keeps the hash. -/
def UserPatch.apply (p : UserPatch) (u : User) : User :=
  { u with
    firstName := p.firstName.getD u.firstName
    lastName := p.lastName.getD u.lastName
    email := match p.email with
      | none => u.email
      | some e => if e = "" then none else some e
    username := p.username.getD u.username
    passwordHash := (keepEmpty p.passwordHash (some u.passwordHash)).getD u.passwordHash
    role := p.role.getD u.role }

/-! ### The tables -/

/-- All tables, with the supplies of fresh identifiers. -/
structure Fabric where
  sites : List Site
  users : List User
  routers : List RouterRow
  userSiteAccess : List SiteAccess
  configChanges : List ConfigChange
  configCommits : List ConfigCommit
  nextChange : Uuid
  nextCommit : Uuid
  nextId : Uuid
  deriving DecidableEq

/-- What the review system sees. -/
def Fabric.review (w : Fabric) : Database where
  routers := w.routers.map RouterRow.operated
  userSiteAccess := w.userSiteAccess
  configChanges := w.configChanges
  configCommits := w.configCommits
  nextChange := w.nextChange
  nextCommit := w.nextCommit

/-- The review tables after a statement of the review system, which touches no others. -/
def Fabric.withReview (w : Fabric) (db : Database) : Fabric :=
  { w with
    configChanges := db.configChanges
    configCommits := db.configCommits
    nextChange := db.nextChange
    nextCommit := db.nextCommit }

def Fabric.user (w : Fabric) (id : Uuid) : Option User := w.users.find? fun u ↦ u.id == id

def Fabric.router (w : Fabric) (id : Uuid) : Option RouterRow := w.routers.find? fun r ↦ r.id == id

def Fabric.site (w : Fabric) (id : Uuid) : Option Site := w.sites.find? fun s ↦ s.id == id

/-- `user_site_access usa JOIN sites s ON s.id = usa.site_id`. -/
def Fabric.accessRows (w : Fabric) : List SiteAccessRow :=
  w.userSiteAccess.filterMap fun a ↦
    (w.site a.siteId).map fun s ↦ ⟨a.userId, a.siteId, s.name, a.role⟩

/-- `SELECT site_id FROM user_site_access WHERE user_id = $1`. -/
def Fabric.siteIds (w : Fabric) (userId : Uuid) : List Uuid :=
  (w.userSiteAccess.filter fun a ↦ a.userId == userId).map SiteAccess.siteId

/-- Routers go with everything that references them. -/
def Fabric.dropRouters (w : Fabric) (p : RouterRow → Bool) : Fabric :=
  let gone := (w.routers.filter p).map RouterRow.id
  { w with
    routers := w.routers.filter fun r ↦ !p r
    configChanges := w.configChanges.filter fun c ↦ c.routerId ∉ gone
    configCommits := w.configCommits.filter fun c ↦ c.routerId ∉ gone }

/-- A site goes with its routers and the grants on it. -/
def Fabric.dropSite (w : Fabric) (id : Uuid) : Fabric :=
  let w' := w.dropRouters fun r ↦ r.siteId == id
  { w' with
    sites := w.sites.filter fun s ↦ s.id != id
    userSiteAccess := w.userSiteAccess.filter fun a ↦ a.siteId != id }

/-- A user goes with the grants; what they staged and committed stays, without an author. -/
def Fabric.dropUser (w : Fabric) (id : Uuid) : Fabric :=
  { w with
    users := w.users.filter fun u ↦ u.id != id
    userSiteAccess := w.userSiteAccess.filter fun a ↦ a.userId != id
    configChanges := w.configChanges.map fun c ↦
      { c with createdBy := c.createdBy.filter fun u ↦ u != id }
    configCommits := w.configCommits.map fun c ↦
      { c with committedBy := c.committedBy.filter fun u ↦ u != id } }

/-- `ON CONFLICT (user_id, site_id) DO UPDATE SET role`. -/
def Fabric.grant (w : Fabric) (a : SiteAccess) : Fabric :=
  let clash := fun b : SiteAccess ↦ b.userId == a.userId && b.siteId == a.siteId
  { w with
    userSiteAccess :=
      if w.userSiteAccess.any clash then
        w.userSiteAccess.map fun b ↦ if clash b then { b with role := a.role } else b
      else w.userSiteAccess ++ [a] }

/-! ### Statements -/

/-- Every statement of a request. -/
inductive FabricStatement where
  /-- A statement of the review system. -/
  | review (s : Statement)
  /-- `hash_password`. -/
  | hashPassword (password : String)
  /-- `SELECT … FROM users WHERE username = $1`. -/
  | selectUserByName (username : String)
  /-- `SELECT … FROM users WHERE id = $1`. -/
  | selectUser (id : Uuid)
  /-- `SELECT … FROM users ORDER BY username`. -/
  | selectUsers
  /-- `INSERT INTO users … RETURNING …`. -/
  | insertUser (u : NewUser)
  /-- `UPDATE users SET … WHERE id = $7 RETURNING …`. -/
  | updateUser (id : Uuid) (patch : UserPatch)
  /-- `UPDATE users SET password_hash = $1 WHERE id = $2`. -/
  | updatePasswordHash (id : Uuid) (hash : String)
  /-- `DELETE FROM users WHERE id = $1`. -/
  | deleteUser (id : Uuid)
  /-- The access rows of one user, `ORDER BY s.name`. -/
  | selectAccess (userId : Uuid)
  /-- All access rows, `ORDER BY usa.user_id, s.name`. -/
  | selectAllAccess
  /-- `SELECT site_id FROM user_site_access WHERE user_id = $1`. -/
  | selectSiteIds (userId : Uuid)
  /-- `INSERT INTO user_site_access … ON CONFLICT … DO UPDATE SET role = EXCLUDED.role`. -/
  | insertAccess (a : SiteAccess)
  /-- `DELETE FROM user_site_access WHERE user_id = $1 AND site_id = $2`. -/
  | deleteAccess (userId siteId : Uuid)
  /-- `SELECT … FROM sites ORDER BY name`. -/
  | selectSites
  /-- `SELECT … FROM sites WHERE id = ANY($1) ORDER BY name`. -/
  | selectSitesIn (ids : List Uuid)
  /-- `SELECT … FROM sites WHERE id = $1`. -/
  | selectSite (id : Uuid)
  /-- `INSERT INTO sites … RETURNING …`. -/
  | insertSite (body : CreateSite)
  /-- `UPDATE sites SET … WHERE id = $3 RETURNING …`. -/
  | updateSite (id : Uuid) (body : UpdateSite)
  /-- `DELETE FROM sites WHERE id = $1`. -/
  | deleteSite (id : Uuid)
  /-- `SELECT … FROM routers ORDER BY hostname`. -/
  | selectRouters
  /-- `SELECT … FROM routers WHERE site_id = ANY($1) ORDER BY hostname`. -/
  | selectRoutersIn (siteIds : List Uuid)
  /-- `SELECT … FROM routers WHERE site_id = $1 ORDER BY hostname`. -/
  | selectSiteRouters (siteId : Uuid)
  /-- `SELECT … FROM routers WHERE id = $1`, for all columns. -/
  | selectRouterRow (id : Uuid)
  /-- `INSERT INTO routers … RETURNING …`. -/
  | insertRouter (body : CreateRouter)
  /-- `UPDATE routers SET … WHERE id = $12 RETURNING …`. -/
  | updateRouter (id : Uuid) (body : UpdateRouter)
  /-- `DELETE FROM routers WHERE id = $1`. -/
  | deleteRouter (id : Uuid)
  /-- `VyosClient::post`. -/
  | post (client : VyosClient) (endpoint : String) (payload : Json)
  /-- `VyosClient::info`. -/
  | info (client : VyosClient)

namespace FabricStatement

/-- The value of an answer. -/
@[reducible]
def Value : FabricStatement → Type
  | review s => s.Value
  | hashPassword _ => String
  | selectUserByName _ => Option User
  | selectUser _ => Option User
  | selectUsers => List User
  | insertUser _ => User
  | updateUser _ _ => Option User
  | updatePasswordHash _ _ => ℕ
  | deleteUser _ => ℕ
  | selectAccess _ => List SiteAccessRow
  | selectAllAccess => List SiteAccessRow
  | selectSiteIds _ => List Uuid
  | insertAccess _ => Unit
  | deleteAccess _ _ => ℕ
  | selectSites => List Site
  | selectSitesIn _ => List Site
  | selectSite _ => Option Site
  | insertSite _ => Site
  | updateSite _ _ => Option Site
  | deleteSite _ => ℕ
  | selectRouters => List RouterRow
  | selectRoutersIn _ => List RouterRow
  | selectSiteRouters _ => List RouterRow
  | selectRouterRow _ => Option RouterRow
  | insertRouter _ => RouterRow
  | updateRouter _ _ => Option RouterRow
  | deleteRouter _ => ℕ
  | post _ _ _ => Json
  | info _ => Json

/-- An answer: a value or a fault. -/
@[reducible]
def Reply (s : FabricStatement) : Type := Except Fault s.Value

end FabricStatement

/-- One exchange of a request. -/
abbrev FabricEvent : Type := Exchange FabricStatement.Reply

/-! ### What a statement does -/

def Fabric.newUser (w : Fabric) (now : Timestamp) (u : NewUser) : User :=
  ⟨w.nextId, u.firstName, u.lastName, u.email, u.username, u.passwordHash, u.role, now⟩

def Fabric.newSite (w : Fabric) (now : Timestamp) (body : CreateSite) : Site :=
  ⟨w.nextId, body.name, body.description, now⟩

def Fabric.newRouter (w : Fabric) (now : Timestamp) (body : CreateRouter) : RouterRow where
  id := w.nextId
  siteId := body.siteId
  hostname := body.hostname
  description := body.description
  role := body.role
  mgmtIp := body.mgmtIp
  status := .off
  version := body.version
  uptimeSecs := 0
  apiPort := none
  apiProtocol := "https"
  apiKey := none
  apiTimeout := 10
  sshUsername := none
  sshPassword := none
  sshPort := 22
  createdAt := now
  updatedAt := now

/-- The rows a query answers with, in the order of a text column. -/
def Lists {α : Type} (key : α → String) (rows table : List α) : Prop :=
  rows.Perm table ∧ rows.Pairwise fun a b ↦ key a ≤ key b

instance {α : Type} [DecidableEq α] (key : α → String) (rows table : List α) :
    Decidable (Lists key rows table) :=
  inferInstanceAs (Decidable (_ ∧ _))

/-- The tables after a statement answered in a given way; `none` if they cannot answer so. -/
def Fabric.exec (A : Argon2) : (s : FabricStatement) → s.Reply → Fabric → Option Fabric
  | .review s, v, w => (VyosFabric.exec s v w.review).map w.withReview
  | .hashPassword p, .ok h, w => if A.makes p h then some w else none
  | .selectUserByName n, .ok u, w =>
    if u = w.users.find? (fun u ↦ u.username == n) then some w else none
  | .selectUser id, .ok u, w => if u = w.user id then some w else none
  | .selectUsers, .ok rows, w => if Lists User.username rows w.users then some w else none
  | .insertUser n, .ok u, w =>
    -- `username` is unique
    if u = w.newUser u.createdAt n ∧ n.username ∉ w.users.map User.username then
      some { w with users := w.users ++ [u], nextId := w.nextId + 1 }
    else none
  | .updateUser id patch, .ok u, w =>
    let users := w.users.map fun u ↦ if u.id = id then patch.apply u else u
    if u = (w.user id).map patch.apply ∧ (users.map User.username).Nodup then
      some { w with users := users }
    else none
  | .updatePasswordHash id hash, .ok n, w =>
    if n = (w.users.filter fun u ↦ u.id == id).length then
      some { w with users := w.users.map fun u ↦
        if u.id = id then { u with passwordHash := hash } else u }
    else none
  | .deleteUser id, .ok n, w =>
    if n = (w.users.filter fun u ↦ u.id == id).length then some (w.dropUser id) else none
  | .selectAccess id, .ok rows, w =>
    if Lists SiteAccessRow.siteName rows (w.accessRows.filter fun a ↦ a.userId == id) then some w
    else none
  | .selectAllAccess, .ok rows, w =>
    if rows.Perm w.accessRows ∧ rows.Pairwise (fun a b ↦
        a.userId < b.userId ∨ a.userId = b.userId ∧ a.siteName ≤ b.siteName) then some w
    else none
  | .selectSiteIds id, .ok ids, w => if ids.Perm (w.siteIds id) then some w else none
  | .insertAccess a, .ok _, w =>
    -- both columns reference their tables
    if (w.user a.userId).isSome ∧ (w.site a.siteId).isSome then some (w.grant a) else none
  | .deleteAccess userId siteId, .ok n, w =>
    let hits := fun a : SiteAccess ↦ a.userId == userId && a.siteId == siteId
    if n = (w.userSiteAccess.filter hits).length then
      some { w with userSiteAccess := w.userSiteAccess.filter fun a ↦ !hits a }
    else none
  | .selectSites, .ok rows, w => if Lists Site.name rows w.sites then some w else none
  | .selectSitesIn ids, .ok rows, w =>
    if Lists Site.name rows (w.sites.filter fun s ↦ ids.contains s.id) then some w else none
  | .selectSite id, .ok s, w => if s = w.site id then some w else none
  | .insertSite body, .ok s, w =>
    -- `name` is unique
    if s = w.newSite s.createdAt body ∧ body.name ∉ w.sites.map Site.name then
      some { w with sites := w.sites ++ [s], nextId := w.nextId + 1 }
    else none
  | .updateSite id body, .ok s, w =>
    let sites := w.sites.map fun s ↦ if s.id = id then body.apply s else s
    if s = (w.site id).map body.apply ∧ (sites.map Site.name).Nodup then
      some { w with sites := sites }
    else none
  | .deleteSite id, .ok n, w =>
    if n = (w.sites.filter fun s ↦ s.id == id).length then some (w.dropSite id) else none
  | .selectRouters, .ok rows, w => if Lists RouterRow.hostname rows w.routers then some w else none
  | .selectRoutersIn ids, .ok rows, w =>
    if Lists RouterRow.hostname rows (w.routers.filter fun r ↦ ids.contains r.siteId) then some w
    else none
  | .selectSiteRouters id, .ok rows, w =>
    if Lists RouterRow.hostname rows (w.routers.filter fun r ↦ r.siteId == id) then some w else none
  | .selectRouterRow id, .ok r, w => if r = w.router id then some w else none
  | .insertRouter body, .ok r, w =>
    -- `site_id` references `sites`
    if r = w.newRouter r.createdAt body ∧ (w.site body.siteId).isSome then
      some { w with routers := w.routers ++ [r], nextId := w.nextId + 1 }
    else none
  | .updateRouter id body, .ok r, w =>
    match r with
    | some row =>
      if some row = (w.router id).map (body.apply row.updatedAt) then
        some { w with routers := w.routers.map fun r ↦
          if r.id = id then body.apply row.updatedAt r else r }
      else none
    | none => if w.router id = none then some w else none
  | .deleteRouter id, .ok n, w =>
    if n = (w.routers.filter fun r ↦ r.id == id).length then
      some (w.dropRouters fun r ↦ r.id == id)
    else none
  | .post _ _ _, .ok _, w => some w
  | .info _, .ok _, w => some w
  | _, .error _, w => some w

end VyosFabric
