import VyosFabric.Interaction.Pool
import VyosFabric.Model.Json

/-!
# The tables and the statements on them

The two tables of the config review system (`config_changes`, `config_commits`), the two that
authorization reads (`routers`, `user_site_access`), and every database and device statement a
request of this system issues. A request is a program over `Statement`; `exec` is what one statement
does when it is answered in a given way.

## One statement is one step

Every statement runs on a pool connection outside any transaction, so it is atomic by itself and
nothing else is: between two statements of one request, any statement of another may run. A
statement answers with a value or with a `Fault`, and a fault leaves the tables as they were.

## What the environment chooses

The value of an answer carries the environment's choices: `NOW()` in an inserted row, the order of
rows with equal `created_at`, the JSON a device replies with. `exec` accepts an answer only if the
tables can give it. `gen_random_uuid()` is a counter, so identifiers are never reused.

A device call may be lost after it was delivered; `Delivery` records what became of the batch, which
the caller of `configure` cannot see.
-/

namespace VyosFabric

open Interaction

abbrev Uuid : Type := ℕ

abbrev Timestamp : Type := ℕ

/-- A config path, e.g. `["system", "host-name", "vyos-core-01"]`. -/
abbrev Path : Type := List String

/-! ### Rows -/

/-- `set` or `delete`. -/
inductive Op where
  | set
  | delete
  deriving DecidableEq, Repr

/-- The column `section`: which page produced the change. -/
inductive Sect where
  | system
  | firewall
  | interfaces
  | nat
  deriving DecidableEq, Repr

/-- The column `status` of `config_changes`. -/
inductive ChangeStatus where
  | pending
  | committed
  | failed
  deriving DecidableEq, Repr

/-- The column `status` of `config_commits`. -/
inductive CommitStatus where
  | success
  | failed
  deriving DecidableEq, Repr

/-- One VyOS command, as it stands in a configure batch. -/
structure Command where
  op : Op
  path : Path
  deriving DecidableEq, Repr

/-- One change to stage. -/
structure NewConfigChange where
  op : Op
  path : Path
  summary : String
  sect : Sect
  createdBy : Option Uuid
  deriving DecidableEq, Repr

/-- The command a change stands for. -/
def NewConfigChange.command (c : NewConfigChange) : Command := ⟨c.op, c.path⟩

/-- A row of `config_changes`. -/
structure ConfigChange where
  id : Uuid
  routerId : Uuid
  op : Op
  path : Path
  summary : String
  sect : Sect
  createdBy : Option Uuid
  createdAt : Timestamp
  status : ChangeStatus
  commitId : Option Uuid
  deriving DecidableEq, Repr

/-- `json!({ "op": c.op, "path": c.path })`. -/
def ConfigChange.command (c : ConfigChange) : Command := ⟨c.op, c.path⟩

/-- The row is in the change tray of router `r`. -/
def ConfigChange.isPending (c : ConfigChange) (r : Uuid) : Bool :=
  c.routerId == r && c.status == .pending

/-- `SET status = 'committed', commit_id = $1`. -/
def ConfigChange.mark (c : ConfigChange) (commitId : Uuid) : ConfigChange :=
  { c with status := .committed, commitId := some commitId }

/-- The values bound by the insert into `config_commits`. -/
structure NewConfigCommit where
  routerId : Uuid
  committedBy : Option Uuid
  status : CommitStatus
  changeCount : Int
  saved : Bool
  error : Option String
  vyosResponse : Json
  deriving DecidableEq

/-- A row of `config_commits`. -/
structure ConfigCommit where
  id : Uuid
  routerId : Uuid
  committedBy : Option Uuid
  committedAt : Timestamp
  status : CommitStatus
  changeCount : Int
  saved : Bool
  error : Option String
  vyosResponse : Option Json
  deriving DecidableEq

/-- The columns of a `routers` row that a device operation reads. -/
structure Router where
  id : Uuid
  siteId : Uuid
  mgmtIp : String
  version : String
  apiPort : Option Int
  apiProtocol : String
  apiKey : Option String
  deriving DecidableEq, Repr

/-- A row of `user_site_access`. -/
structure SiteAccess where
  userId : Uuid
  siteId : Uuid
  role : String
  deriving DecidableEq, Repr

/-- The tables, with the supply of fresh identifiers for the two that requests insert into. -/
structure Database where
  routers : List Router
  userSiteAccess : List SiteAccess
  configChanges : List ConfigChange
  configCommits : List ConfigCommit
  nextChange : Uuid
  nextCommit : Uuid
  deriving DecidableEq

/-- The change tray of router `r`, in table order. -/
def Database.pending (db : Database) (r : Uuid) : List ConfigChange :=
  db.configChanges.filter fun c ↦ c.isPending r

/-- The changes linked to a commit. -/
def Database.linked (db : Database) (commitId : Uuid) : List ConfigChange :=
  db.configChanges.filter fun c ↦ c.commitId == some commitId

/-- `SELECT r.id FROM routers r JOIN user_site_access usa ON usa.site_id = r.site_id WHERE
r.id = $1 AND usa.user_id = $2`. -/
def Database.grantedRouter (db : Database) (routerId userId : Uuid) : Option Uuid :=
  (db.routers.find? fun r ↦ r.id == routerId &&
    db.userSiteAccess.any fun a ↦ a.siteId == r.siteId && a.userId == userId).map Router.id

/-! ### Device client -/

inductive VyosVersion where
  | v1_3
  | v1_4
  | v1_5
  | unknown
  deriving DecidableEq, Repr

def VyosVersion.parse (s : String) : VyosVersion :=
  if "1.3".toList.isPrefixOf s.toList then .v1_3
  else if "1.4".toList.isPrefixOf s.toList then .v1_4
  else if "1.5".toList.isPrefixOf s.toList then .v1_5
  else .unknown

/-- The client of one device. -/
structure VyosClient where
  baseUrl : String
  apiKey : String
  version : VyosVersion
  deriving DecidableEq, Repr

def VyosClient.new (protocol host : String) (port : Option Int) (apiKey version : String) :
    VyosClient where
  baseUrl := match port with
    | some p => protocol ++ "://" ++ host ++ ":" ++ p.repr
    | none => protocol ++ "://" ++ host
  apiKey := apiKey
  version := VyosVersion.parse version

/-! ### Statements -/

/-- What a `DELETE FROM config_changes` selects besides the router and `status = 'pending'`. -/
inductive Filter where
  /-- `section = '…'`. -/
  | sect (s : Sect)
  /-- `path[1:3] = $2 AND path[4] IS DISTINCT FROM 'vif'`. -/
  | nic (base : Path)
  /-- `path[1:5] = $2`. -/
  | vif (base : Path)
  /-- `path[1:4] = $2`. -/
  | rule (base : Path)
  /-- `id = $1`. -/
  | change (id : Uuid)
  /-- No further condition. -/
  | all
  deriving DecidableEq, Repr

def Filter.matches : Filter → ConfigChange → Bool
  | sect s, c => c.sect == s
  | nic base, c => c.path.take 3 == base && c.path[3]? != some "vif"
  | vif base, c => c.path.take 5 == base
  | rule base, c => c.path.take 4 == base
  | change id, c => c.id == id
  | all, _ => true

/-- The rows a `DELETE` with filter `f` on router `r` removes. -/
def Filter.hits (f : Filter) (r : Uuid) (c : ConfigChange) : Bool :=
  c.isPending r && f.matches c

/-- What became of a device call whose reply did not come back. -/
inductive Delivery where
  | unsent
  | rejected
  | applied
  deriving DecidableEq, Repr

/-- A failed statement: the text of its error, and for a device call what became of it. -/
structure Fault where
  text : String
  delivery : Delivery
  deriving DecidableEq, Repr

/-- Every database and device statement of a request. -/
inductive Statement where
  /-- The join of `authorize_router`. -/
  | authorizeRouter (routerId userId : Uuid)
  /-- `SELECT … FROM routers WHERE id = $1`. -/
  | selectRouter (id : Uuid)
  /-- `DELETE FROM config_changes WHERE router_id = $1 AND status = 'pending' AND …`. -/
  | deletePending (routerId : Uuid) (filter : Filter)
  /-- `INSERT INTO config_changes … RETURNING …`. -/
  | insertChange (routerId : Uuid) (c : NewConfigChange)
  /-- `SELECT … WHERE router_id = $1 AND status = 'pending' ORDER BY created_at`. -/
  | selectPending (routerId : Uuid)
  /-- `INSERT INTO config_commits … RETURNING …`. -/
  | insertCommit (c : NewConfigCommit)
  /-- `UPDATE config_changes SET status = 'committed', commit_id = $1 WHERE router_id = $2 AND
  status = 'pending' RETURNING …`. -/
  | updateCommitted (commitId routerId : Uuid)
  /-- `SELECT … FROM config_commits WHERE router_id = $1 ORDER BY committed_at DESC LIMIT 50`. -/
  | selectCommits (routerId : Uuid)
  /-- `SELECT … FROM config_changes WHERE commit_id = $1 ORDER BY created_at`. -/
  | selectLinked (commitId : Uuid)
  /-- `/retrieve` with op `showConfig`. -/
  | showConfig (client : VyosClient) (path : Path)
  /-- `/configure` with the commands of `batch`. The device sees `batch.map command` only. -/
  | configure (client : VyosClient) (batch : List ConfigChange)
  /-- `/config-file` with op `save`. -/
  | save (client : VyosClient) (file : Option String)

namespace Statement

/-- The value a statement answers with when it succeeds. -/
@[reducible]
def Value : Statement → Type
  | authorizeRouter _ _ => Option Uuid
  | selectRouter _ => Option Router
  | deletePending _ _ => ℕ
  | insertChange _ _ => ConfigChange
  | selectPending _ => List ConfigChange
  | insertCommit _ => ConfigCommit
  | updateCommitted _ _ => List ConfigChange
  | selectCommits _ => List ConfigCommit
  | selectLinked _ => List ConfigChange
  | showConfig _ _ => Json
  | configure _ _ => Json
  | save _ _ => Json

/-- An answer: a value or a fault. -/
@[reducible]
def Reply (s : Statement) : Type := Except Fault s.Value

/-- The statement reads or writes the two review tables or sends to the device. The others only
look at who may do what and at the live config. -/
def touches : Statement → Bool
  | deletePending _ _ => true
  | insertChange _ _ => true
  | selectPending _ => true
  | insertCommit _ => true
  | updateCommitted _ _ => true
  | configure _ _ => true
  | save _ _ => true
  | _ => false

/-- The statement looks up who may do what or where a device is, or looks at its live config. -/
def inspects : Statement → Bool
  | authorizeRouter _ _ => true
  | selectRouter _ => true
  | showConfig _ _ => true
  | _ => false

end Statement

/-- The device accepted the batch, whether or not its reply came back. -/
def accepted : Except Fault Json → Bool
  | .ok resp => resp.succeeded
  | .error f => f.delivery == .applied

/-- The batch reached the device. -/
def reached : Except Fault Json → Bool
  | .ok _ => true
  | .error f => f.delivery != .unsent

theorem reached_of_accepted {v : Except Fault Json} (h : accepted v = true) : reached v = true := by
  cases v with
  | ok resp => rfl
  | error f =>
    obtain ⟨text, delivery⟩ := f
    cases delivery <;> simp_all [accepted, reached]

/-- One exchange of a request. -/
abbrev Event : Type := Exchange Statement.Reply

/-! ### What a statement does -/

/-- The row an insert into `config_changes` creates. -/
def Database.newChange (db : Database) (routerId : Uuid) (now : Timestamp) (c : NewConfigChange) :
    ConfigChange where
  id := db.nextChange
  routerId := routerId
  op := c.op
  path := c.path
  summary := c.summary
  sect := c.sect
  createdBy := c.createdBy
  createdAt := now
  status := .pending
  commitId := none

/-- The row an insert into `config_commits` creates. -/
def Database.newCommit (db : Database) (now : Timestamp) (c : NewConfigCommit) : ConfigCommit where
  id := db.nextCommit
  routerId := c.routerId
  committedBy := c.committedBy
  committedAt := now
  status := c.status
  changeCount := c.changeCount
  saved := c.saved
  error := c.error
  vyosResponse := some c.vyosResponse

/-- The table after the `UPDATE` of a commit. -/
def Database.markCommitted (db : Database) (commitId routerId : Uuid) : List ConfigChange :=
  db.configChanges.map fun c ↦ if c.isPending routerId then c.mark commitId else c

/-- `ORDER BY committed_at DESC LIMIT 50`: the answer holds the latest rows of the table. -/
def latest (table rows : List ConfigCommit) : Bool :=
  rows.all (fun c ↦ table.contains c) && decide (rows.Nodup) &&
    decide (rows.length = min 50 table.length) &&
    decide (rows.Pairwise fun a b ↦ b.committedAt ≤ a.committedAt) &&
    table.all fun c ↦ rows.contains c || rows.all fun d ↦ c.committedAt ≤ d.committedAt

/-- The tables after a statement answered in a given way; `none` if they cannot answer so. A
statement that fails leaves them alone: that it took effect and only its answer was lost is not
modelled. -/
def exec : (s : Statement) → s.Reply → Database → Option Database
  | .authorizeRouter r u, .ok row, db => if row = db.grantedRouter r u then some db else none
  | .selectRouter r, .ok row, db =>
    if row = db.routers.find? (fun x ↦ x.id == r) then some db else none
  | .deletePending r f, .ok n, db =>
    if n = (db.configChanges.filter (f.hits r)).length then
      some { db with configChanges := db.configChanges.filter fun c ↦ !f.hits r c }
    else none
  | .insertChange r c, .ok row, db =>
    if row = db.newChange r row.createdAt c then
      some { db with
        configChanges := db.configChanges ++ [row]
        nextChange := db.nextChange + 1 }
    else none
  | .selectPending r, .ok rows, db =>
    if rows.Perm (db.pending r) ∧ rows.Pairwise (fun a b ↦ a.createdAt ≤ b.createdAt) then some db
    else none
  | .insertCommit c, .ok row, db =>
    if row = db.newCommit row.committedAt c then
      some { db with
        configCommits := db.configCommits ++ [row]
        nextCommit := db.nextCommit + 1 }
    else none
  | .updateCommitted k r, .ok rows, db =>
    -- `commit_id` references `config_commits`
    if rows.Perm ((db.pending r).map fun c ↦ c.mark k) ∧
        k ∈ db.configCommits.map ConfigCommit.id then
      some { db with configChanges := db.markCommitted k r }
    else none
  | .selectCommits r, .ok rows, db =>
    if latest (db.configCommits.filter fun c ↦ c.routerId == r) rows then some db else none
  | .selectLinked k, .ok rows, db =>
    if rows.Perm (db.linked k) ∧ rows.Pairwise (fun a b ↦ a.createdAt ≤ b.createdAt) then some db
    else none
  | .showConfig _ _, .ok _, db => some db
  | .configure _ _, .ok _, db => some db
  | .save _ _, .ok _, db => some db
  | _, .error _, db => some db

/-- A guarded answer that was given passed its guard. -/
theorem of_guarded {α : Type} {p : Prop} [Decidable p] {a b : α}
    (h : (if p then some a else none) = some b) : p ∧ a = b := by
  rwa [Option.ite_none_right_eq_some, Option.some_inj] at h

end VyosFabric
