import VyosFabric.Diff.System
import VyosFabric.Routes.Access

/-!
# The config review routes

Staging of the system page, the change tray (`list_changes`, `discard_one`, `discard_all`), `commit`
and the commit history, as programs over the statements they issue in the order they issue them.

`commit` reads the pending rows, sends them as one batch, saves if the device applied it, records
the attempt and, on success, marks the pending rows. The rows it marks are selected anew by the
`UPDATE`; they are not the rows it read.
-/

namespace VyosFabric

open Interaction

/-- What a handler of this system answers with. -/
inductive Response where
  | changes (l : List ConfigChange)
  | discarded (changeId : Uuid)
  | discardedCount (n : ℕ)
  | committed (commit : ConfigCommit) (changes : List ConfigChange)
  | commits (l : List (ConfigCommit × List ConfigChange))

/-! ### Staging -/

/-- Persist a list of staged changes, one insert at a time, and return the inserted rows. -/
def insertChanges (routerId : Uuid) : List NewConfigChange → Handler (List ConfigChange)
  | [] => .ret []
  | c :: cs => do
    let row ← sql (.insertChange routerId c)
    let inserted ← insertChanges routerId cs
    return row :: inserted

/-- The error text of a failed `showConfig`, with the reader's own default. -/
def errorText (resp : Json) (default : String) : String :=
  (resp.idx "error").asStr.getD default

/-- Reads the live `system` config, and the NTP subtree where it lives on this version. A failed
NTP read counts as NTP absent. -/
def gather (client : VyosClient) : Handler LiveSystem := do
  let resp ← device (.showConfig client ["system"])
  if resp.succeeded then
    let data := resp.idx "data"
    let base := ntpBase client
    if client.version = .v1_3 then
      return readSystem data ((data.get "ntp").getD .null) base
    else
      let r ← device (.showConfig client base)
      return readSystem data (if r.succeeded then r.idx "data" else .null) base
  else
    .fail (.gateway (errorText resp "device returned an error reading system config"))

def stageSystem (claims : Claims) (id : Uuid) (body : SystemConfigUpdate) : Handler Response := do
  let client ← fetchClient claims id
  let live ← gather client
  let changes := diffSystem live body claims.sub
  let _ ← sql (.deletePending id (.sect .system))
  let inserted ← insertChanges id changes
  return .changes inserted

/-! ### Change tray -/

def listChanges (claims : Claims) (id : Uuid) : Handler Response := do
  authorizeRouter claims id
  let changes ← sql (.selectPending id)
  return .changes changes

def discardOne (claims : Claims) (id changeId : Uuid) : Handler Response := do
  authorizeRouter claims id
  let n ← sql (.deletePending id (.change changeId))
  if n = 0 then .fail .notFound else return .discarded changeId

def discardAll (claims : Claims) (id : Uuid) : Handler Response := do
  authorizeRouter claims id
  let n ← sql (.deletePending id .all)
  return .discardedCount n

/-! ### Commit -/

/-- Persist to boot config, only if the apply succeeded: whether it was saved, and the response to
record. -/
def saveIfApplied (client : VyosClient) (configureResp : Json) : Handler (Bool × Json) :=
  if configureResp.succeeded then do
    let saved ← attempt (.save client none)
    match saved with
    | .ok saveResp =>
      return (saveResp.succeeded, .obj [("configure", configureResp), ("save", saveResp)])
    | .error e => return (false, .obj [("configure", configureResp), ("save_error", .str e.text)])
  else return (false, configureResp)

/-- The `config_commits` row of an attempt. `change_count` is the length narrowed to 32 bits. -/
def commitRecord (claims : Claims) (id : Uuid) (pending : List ConfigChange) (configureResp : Json)
    (saved : Bool × Json) : NewConfigCommit where
  routerId := id
  committedBy := some claims.sub
  status := if configureResp.succeeded then .success else .failed
  changeCount := asI32 pending.length
  saved := saved.1
  error :=
    if configureResp.succeeded then none
    else some (errorText configureResp "device rejected the configuration")
  vyosResponse := saved.2

theorem commitRecord_changeCount (claims : Claims) (id : Uuid) (pending : List ConfigChange)
    (configureResp : Json) (saved : Bool × Json) :
    (commitRecord claims id pending configureResp saved).changeCount = asI32 pending.length := by
  rw [commitRecord]

theorem commitRecord_status_of_succeeded {claims : Claims} {id : Uuid} {pending : List ConfigChange}
    {configureResp : Json} {saved : Bool × Json} (h : configureResp.succeeded = true) :
    (commitRecord claims id pending configureResp saved).status = .success :=
  if_pos h

theorem commitRecord_status_of_rejected {claims : Claims} {id : Uuid} {pending : List ConfigChange}
    {configureResp : Json} {saved : Bool × Json} (h : configureResp.succeeded = false) :
    (commitRecord claims id pending configureResp saved).status = .failed :=
  if_neg (by rw [h]; decide)

def commit (claims : Claims) (id : Uuid) : Handler Response := do
  authorizeRouter claims id
  let pending ← sql (.selectPending id)
  if pending.isEmpty then .fail (.gateway "no pending changes to commit")
  else
    let client ← fetchClient claims id
    let configureResp ← device (.configure client pending)
    let saved ← saveIfApplied client configureResp
    let row ← sql (.insertCommit (commitRecord claims id pending configureResp saved))
    -- on failure the changes stay pending so the operator can fix and retry
    if configureResp.succeeded then
      let changes ← sql (.updateCommitted row.id id)
      return .committed row changes
    else return .committed row pending

/-- The changes of each commit of a list, one query each. -/
def linkedChanges : List ConfigCommit → Handler (List (ConfigCommit × List ConfigChange))
  | [] => .ret []
  | c :: cs => do
    let changes ← sql (.selectLinked c.id)
    let rest ← linkedChanges cs
    return (c, changes) :: rest

def listCommits (claims : Claims) (id : Uuid) : Handler Response := do
  authorizeRouter claims id
  let commits ← sql (.selectCommits id)
  let out ← linkedChanges commits
  return .commits out

/-! ### These only look -/

theorem gather_shows (client : VyosClient) : Shows client (gather client) := by
  refine Prog.Issues.bind (device_issues ⟨_, rfl⟩) fun resp ↦ ?_
  show Prog.Issues _ (if _ then _ else _)
  split
  · show Prog.Issues _ (if _ then _ else _)
    split
    · trivial
    · exact Prog.Issues.bind (device_issues ⟨_, rfl⟩) fun _ ↦ trivial
  · trivial

theorem linkedChanges_silent (l : List ConfigCommit) :
    (linkedChanges l).Silent Statement.touches := by
  induction l with
  | nil => trivial
  | cons c cs ih =>
    exact Prog.Issues.bind (sql_issues rfl) fun _ ↦ Prog.Issues.bind ih fun _ ↦ trivial

theorem listCommits_silent (claims : Claims) (id : Uuid) :
    (listCommits claims id).Silent Statement.touches :=
  Prog.Issues.bind (authorizeRouter_inspects claims id).silent fun _ ↦
    Prog.Issues.bind (sql_issues rfl) fun _ ↦
      Prog.Issues.bind (linkedChanges_silent _) fun _ ↦ trivial

end VyosFabric
