import VyosFabric.Interaction.Trace
import VyosFabric.Review.Runs

/-!
# Operators and their change trays

The client half of the review system. An operator is one open page: it shows one device, and holds
in `pendingChanges` what the last fetch of that device's tray returned to it. What an operator does
becomes a request, the server works on the requests of all operators one statement at a time, and
replies come back in any order or not at all.

After a reply that reports success of a staging, discard or commit request the page fetches the tray
anew before it does anything else with it (`refreshesAfter`). A failed fetch leaves the tray as it
is. The commit button is only there while the tray shows something.
-/

namespace VyosFabric

open Interaction

/-- One open page: whose it is, and which device it shows. -/
structure Page where
  claims : Claims
  deviceId : Uuid

/-- Who sends what: every request has its operator. -/
structure Office (Operator Pid : Type) where
  page : Operator → Page
  operator : Pid → Operator
  request : Pid → Request

/-- How far a request is, seen from the page that sends it. -/
inductive Wire where
  | unsent
  | waiting
  | answered
  deriving DecidableEq

/-- The server, and what the pages hold. -/
structure Desk (Operator Pid : Type) where
  server : Pool Statement Statement.Reply AppError Response Database Pid
  pendingChanges : Operator → List ConfigChange
  wire : Pid → Wire

/-- What can happen. -/
inductive Act (Pid : Type) where
  /-- An operator sends the request `i`. -/
  | press (i : Pid)
  /-- The server takes a step for the request `i`. -/
  | serve (i : Pid) (x : Event)
  /-- The reply `r` reaches the page. -/
  | deliver (i : Pid) (r : Except AppError Response)
  /-- The reply `r` reaches the page, which fetches the tray with the request `j`. -/
  | refresh (i : Pid) (r : Except AppError Response) (j : Pid)

/-- `await refresh()` follows this reply. -/
def refreshesAfter (request : Request) (r : Except AppError Response) : Bool :=
  match request, r with
  | .edit _, .ok _ => true
  | .discardOne _, .ok _ => true
  | .discardAll, .ok _ => true
  | .commit, .ok _ => true
  | _, _ => false

/-- What `setPendingChanges` is called with after this reply. -/
def shownBy (request : Request) (r : Except AppError Response) : Option (List ConfigChange) :=
  match request, r with
  | .listChanges, .ok (.changes l) => some l
  | _, _ => none

theorem shownBy_eq_some {request : Request} {r : Except AppError Response} {l : List ConfigChange} :
    shownBy request r = some l ↔ request = .listChanges ∧ r = .ok (.changes l) := by
  constructor
  · intro h
    unfold shownBy at h
    split at h
    · obtain rfl := Option.some.inj h
      exact ⟨rfl, rfl⟩
    · cases h
  · rintro ⟨rfl, rfl⟩
    rfl

/-- The steps the server took. -/
def served {Pid : Type} (acts : List (Act Pid)) : List (Pid × Event) :=
  acts.filterMap fun a ↦ match a with
    | .serve i x => some (i, x)
    | _ => none

namespace Office

variable {Operator Pid : Type} (office : Office Operator Pid)

/-- A request as the server gets it. -/
def call (i : Pid) : Call where
  claims := (office.page (office.operator i)).claims
  id := (office.page (office.operator i)).deviceId
  request := office.request i

variable [DecidableEq Operator]

/-- The page of `o` after a reply to the request `i`. -/
def receive (d : Desk Operator Pid) (i : Pid) (r : Except AppError Response) :
    Operator → List ConfigChange :=
  match shownBy (office.request i) r with
  | some l => Function.update d.pendingChanges (office.operator i) l
  | none => d.pendingChanges

variable [DecidableEq Pid]

/-- Nothing sent yet, and nothing shown. -/
def start (db : Database) : Desk Operator Pid where
  server := reviewPool db office.call
  pendingChanges := fun _ ↦ []
  wire := fun _ ↦ .unsent

/-- One step of the system. -/
inductive Step : Desk Operator Pid → Act Pid → Desk Operator Pid → Prop
  | press {d : Desk Operator Pid} (i : Pid) :
      d.wire i = .unsent →
      (office.request i = .commit → d.pendingChanges (office.operator i) ≠ []) →
      Step d (.press i) { d with wire := Function.update d.wire i .waiting }
  | serve {d : Desk Operator Pid} (i : Pid) {e : Statement} {k : e.Reply → Handler Response}
      (v : e.Reply) {w : Database} :
      d.wire i = .waiting → d.server.prog i = .call e k → exec e v d.server.state = some w →
      Step d (.serve i ⟨e, v⟩) { d with server := ⟨w, Function.update d.server.prog i (k v)⟩ }
  | deliver {d : Desk Operator Pid} (i : Pid) (r : Except AppError Response) :
      d.wire i = .waiting → (d.server.prog i).outcome = some r →
      refreshesAfter (office.request i) r = false →
      Step d (.deliver i r)
        { d with
          pendingChanges := office.receive d i r
          wire := Function.update d.wire i .answered }
  | refresh {d : Desk Operator Pid} (i : Pid) (r : Except AppError Response) (j : Pid) :
      d.wire i = .waiting → (d.server.prog i).outcome = some r →
      refreshesAfter (office.request i) r = true →
      d.wire j = .unsent → office.operator j = office.operator i →
      office.request j = .listChanges →
      Step d (.refresh i r j)
        { d with wire := Function.update (Function.update d.wire i .answered) j .waiting }

end Office

end VyosFabric
