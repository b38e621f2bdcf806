import VyosFabric.Access.Revocation

/-!
# The poller

Beside the requests the server runs one background loop. A round of it reads the devices that have
an API key, starts a task for each of them, and waits until all of them have ended; only then does
the ticker begin another round. A task probes its device once, with what the round has read of it,
and writes down the status it found.

`Server` is the service of the requests together with the tasks of the round. Their statements
interleave in any way: a router may be edited or deleted while its probe is on the way.

A client that cannot be built is a probe that fails without being sent.
-/

namespace VyosFabric

open Interaction

/-- What the poller reads of a router. -/
structure DevicePollRow where
  id : Uuid
  mgmtIp : String
  apiPort : Option Int
  apiProtocol : String
  apiKey : Option String
  apiTimeout : Int
  version : String
  deriving DecidableEq, Repr

def RouterRow.pollRow (r : RouterRow) : DevicePollRow :=
  ⟨r.id, r.mgmtIp, r.apiPort, r.apiProtocol, r.apiKey, r.apiTimeout, r.version⟩

/-- `api_key IS NOT NULL AND api_key <> ''`. -/
def RouterRow.isPolled (r : RouterRow) : Bool := r.apiKey.any fun k ↦ k != ""

/-! ### Statements -/

/-- Every statement of the poller. -/
inductive PollStatement where
  /-- `SELECT … FROM routers WHERE api_key IS NOT NULL AND api_key <> ''`. -/
  | selectDevices
  /-- `/retrieve` with op `showConfig`. -/
  | showConfig (client : VyosClient) (path : Path)
  /-- `UPDATE routers SET status = $1, updated_at = NOW() WHERE id = $2`. -/
  | setStatus (status : RouterStatus) (id : Uuid)

namespace PollStatement

/-- The value of an answer; that of the `UPDATE` is its `NOW()`. -/
@[reducible]
def Value : PollStatement → Type
  | selectDevices => List DevicePollRow
  | showConfig _ _ => Json
  | setStatus _ _ => Timestamp

/-- An answer: a value or a fault. -/
@[reducible]
def Reply (s : PollStatement) : Type := Except Fault s.Value

end PollStatement

/-- One exchange of a task. -/
abbrev PollEvent : Type := Exchange PollStatement.Reply

/-- A program of the poller. Nothing makes it fail. -/
abbrev PollTask (α : Type) : Type := Prog PollStatement PollStatement.Reply Empty α

/-- The row after its status was written. -/
def RouterRow.setStatus (r : RouterRow) (status : RouterStatus) (now : Timestamp) : RouterRow :=
  { r with status := status, updatedAt := now }

/-- The tables after a statement of the poller answered in a given way; `none` if they cannot answer
so. -/
def Fabric.poll : (s : PollStatement) → s.Reply → Fabric → Option Fabric
  | .selectDevices, .ok rows, w =>
    if rows.Perm ((w.routers.filter RouterRow.isPolled).map RouterRow.pollRow) then some w else none
  | .showConfig _ _, .ok _, w => some w
  | .setStatus status id, .ok now, w =>
    some { w with routers := w.routers.map fun r ↦ if r.id = id then r.setStatus status now else r }
  | _, .error _, w => some w

/-! ### Tasks -/

/-- The probe works on all versions. -/
def probePath : Path := ["system", "host-name"]

/-- What a probe says of a device: `warn` is reachable, but the API returned an error. -/
def verdict : Except Fault Json → RouterStatus
  | .ok resp => if resp.succeeded then .ok else .warn
  | .error _ => .off

/-- The client of the device, if there is a key. -/
def DevicePollRow.client (device : DevicePollRow) : Option VyosClient :=
  (device.apiKey.filter fun k ↦ k ≠ "").map fun key ↦
    VyosClient.new device.apiProtocol device.mgmtIp device.apiPort key device.version

/-- The status from a lightweight API probe. -/
def checkDevice (device : DevicePollRow) : PollTask RouterStatus :=
  match device.client with
  | none => .ret .off
  | some client => .call (.showConfig client probePath) fun v ↦ .ret (verdict v)

/-- The task of one device. An update that fails is only logged. -/
def pollDevice (device : DevicePollRow) : PollTask Unit := do
  let status ← checkDevice device
  .call (.setStatus status device.id) fun _ ↦ .ret ()

/-- The tasks of a round, by the answer to its query. -/
def spawned : Except Fault (List DevicePollRow) → List (PollTask Unit)
  | .ok devices => devices.map pollDevice
  | .error _ => []

/-! ### The server -/

/-- The service of the requests, and the tasks of the round. -/
structure Server (Pid : Type) where
  service : Service Pid
  round : List (PollTask Unit)

namespace Server

/-- What can happen. -/
inductive Act (Pid : Type) where
  /-- Something happens to the requests. -/
  | serve (a : Service.Act Pid)
  /-- A round begins. -/
  | tick (v : PollStatement.selectDevices.Reply)
  /-- One statement of a task is answered. -/
  | task (j : ℕ) (x : PollEvent)

variable {Pid : Type} [DecidableEq Pid] (A : Argon2)

/-- One step of the server. A round begins when all tasks of the last one have ended. -/
inductive Step : Server Pid → Act Pid → Server Pid → Prop
  | serve {s : Server Pid} (a : Service.Act Pid) {t : Service Pid} :
      Service.Step A s.service a t → Step s (.serve a) { s with service := t }
  | tick {s : Server Pid} (v : PollStatement.selectDevices.Reply) {w : Fabric} :
      (∀ p ∈ s.round, p.outcome ≠ none) → s.service.state.poll .selectDevices v = some w →
      Step s (.tick v) ⟨{ s.service with state := w }, spawned v⟩
  | task {s : Server Pid} (j : ℕ) {e : PollStatement} {k : e.Reply → PollTask Unit} (v : e.Reply)
      {w : Fabric} :
      s.round[j]? = some (.call e k) → s.service.state.poll e v = some w →
      Step s (.task j ⟨e, v⟩) ⟨{ s.service with state := w }, s.round.set j (k v)⟩

/-- Nothing issued, nothing in service, and no round yet. -/
def start (w : Fabric) : Server Pid where
  service := .start w
  round := []

end Server

/-! ### What a task does -/

section Tasks

variable {device : DevicePollRow} {h : List PollEvent} {q : PollTask Unit}

/-- The devices the query selects have a client. -/
theorem client_of_isPolled {r : RouterRow} (h : r.isPolled = true) :
    ∃ key, r.apiKey = some key ∧ r.pollRow.client =
      some (VyosClient.new r.apiProtocol r.mgmtIp r.apiPort key r.version) := by
  cases hkey : r.apiKey with
  | none =>
    rw [RouterRow.isPolled, hkey] at h
    cases h
  | some key =>
    rw [RouterRow.isPolled, hkey] at h
    have hne : key ≠ "" := by simpa using h
    refine ⟨key, rfl, ?_⟩
    rw [DevicePollRow.client, show r.pollRow.apiKey = some key from hkey,
      Option.filter_some, if_pos (decide_eq_true hne)]
    rfl

/-- **A task probes and writes down what it found.** -/
theorem follows_pollDevice {client : VyosClient} (hclient : device.client = some client)
    (hf : Prog.Follows (pollDevice device) h q) :
    h = [] ∨ ∃ v : Except Fault Json,
      (h = [⟨.showConfig client probePath, v⟩] ∧
          q = .call (.setStatus (verdict v) device.id) fun _ ↦ .ret ()) ∨
        ∃ u : Except Fault Timestamp,
          h = [⟨.showConfig client probePath, v⟩, ⟨.setStatus (verdict v) device.id, u⟩] ∧
            q = .ret () := by
  rw [pollDevice, checkDevice, hclient] at hf
  rcases Prog.follows_call.1 hf with ⟨rfl, -⟩ | ⟨v, h', rfl, hrest⟩
  · exact Or.inl rfl
  · refine Or.inr ⟨v, ?_⟩
    rcases Prog.follows_call.1 hrest with ⟨rfl, rfl⟩ | ⟨u, h'', rfl, hend⟩
    · exact Or.inl ⟨rfl, rfl⟩
    · obtain ⟨rfl, rfl⟩ := Prog.follows_ret.1 hend
      exact Or.inr ⟨u, rfl, rfl⟩

end Tasks

end VyosFabric
