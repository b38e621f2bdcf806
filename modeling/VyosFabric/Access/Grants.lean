import VyosFabric.Access.Passwords
import VyosFabric.Access.Scopes

/-!
# Grants and changes to devices

A grant on a site has a role, which the user editor shows and changes. `authorize_router` asks for a
grant and does not look at its role, and nothing behind it asks again, so a viewer changes devices
like anybody else with a grant (`not_viewer_only_views`). What a change to a device needs is the
grant itself: `changes_granted` finds it in the tables at an authorization of the same request.
-/

namespace VyosFabric

open Interaction

/-- The statement sends a device something other than a question, or writes the change tray. -/
def FabricStatement.changes : FabricStatement → Bool
  | .review (.deletePending _ _) => true
  | .review (.insertChange _ _) => true
  | .review (.updateCommitted _ _) => true
  | .review (.configure _ _) => true
  | .review (.save _ _) => true
  | .post _ endpoint _ => ["/configure", "/config-file", "/reset", "/reboot", "/poweroff"].contains
    endpoint
  | _ => false

/-- The router whose change tray the statement writes. -/
def FabricStatement.tray : FabricStatement → Option Uuid
  | .review (.deletePending r _) => some r
  | .review (.insertChange r _) => some r
  | .review (.updateCommitted _ r) => some r
  | _ => none

/-- The user has a grant, of some role, on the site of the router. -/
def Fabric.HoldsGrant (w : Fabric) (id userId : Uuid) : Prop :=
  ∃ r ∈ w.routers, r.id = id ∧ ∃ a ∈ w.userSiteAccess, a.userId = userId ∧ a.siteId = r.siteId

/-- An authorization finds a grant. -/
theorem holdsGrant_of_grantedRouter {w : Fabric} {id userId k : Uuid}
    (h : w.review.grantedRouter id userId = some k) : w.HoldsGrant id userId := by
  obtain ⟨r, hr, -⟩ := Option.map_eq_some_iff.1 h
  obtain ⟨row, hrow, rfl⟩ := List.mem_map.1 (List.mem_of_find?_eq_some hr)
  have hmatch := List.find?_some hr
  simp only [Bool.and_eq_true, beq_iff_eq, List.any_eq_true] at hmatch
  obtain ⟨hid, a, ha, hsite, huser⟩ := hmatch
  exact ⟨row, hrow, hid, a, ha, huser, hsite⟩

section

variable {A : Argon2} {c : FabricCall}

/-- A request in a scope, among the arrivals. -/
theorem arrival_keeps {σ : Scope} (hadmin : c.claims.isAdmin = false)
    (huser : c.claims.sub = σ.user) (htarget : ∀ id, c.router = some id → σ.target id) :
    FabricHandler.Keeps ((Arrival.call c).handle A) σ fun _ ↦ True :=
  (c.handle_keeps hadmin huser htarget).map _

/-- Nothing but the router it is about. -/
def FabricCall.ownScope (c : FabricCall) : Scope where
  user := c.claims.sub
  target := fun id ↦ c.router = some id
  router := fun id ↦ c.router = some id
  client := fun _ ↦ True
  commit := fun _ ↦ True
  site := fun _ ↦ True

/-- Every reply is accepted there. -/
theorem ownScope_accepts (c : FabricCall) (s : FabricStatement) (v : s.Reply) :
    c.ownScope.accepts s v := by
  unfold Scope.accepts
  split
  · unfold Scope.admits
    split
    · exact fun _ ↦ id
    · exact fun _ _ _ ↦ trivial
    · exact fun _ ↦ trivial
    · exact fun _ _ _ ↦ trivial
    · trivial
  · exact fun _ _ _ ↦ trivial
  · trivial

/-- No router at all. -/
def FabricCall.noScope (c : FabricCall) : Scope where
  user := c.claims.sub
  target := fun id ↦ c.router = some id
  router := fun _ ↦ False
  client := fun _ ↦ False
  commit := fun _ ↦ True
  site := fun _ ↦ True

/-- A reply that is not accepted there is an authorization. -/
theorem authorized_of_not_accepted {x : FabricEvent} (h : ¬c.noScope.accepts x.1 x.2) :
    ∃ id userId k, x = ⟨.review (.authorizeRouter id userId), .ok (some k)⟩ := by
  obtain ⟨s, v⟩ := x
  simp only [Scope.accepts] at h
  split at h
  · rename_i s v
    simp only [Scope.admits] at h
    split at h
    · exact ⟨_, _, _, rfl⟩
    · exact absurd (fun hrouter ↦ hrouter.elim) h
    · exact absurd (fun _ ↦ trivial) h
    · exact absurd (fun hrouter ↦ hrouter.elim) h
    · exact absurd trivial h
  · exact absurd (fun _ _ _ ↦ trivial) h
  · exact absurd trivial h

theorem not_permits_of_changes {s : FabricStatement} (hs : s.changes = true) :
    ¬c.noScope.permits s := by
  unfold FabricStatement.changes at hs
  split at hs
  · exact id
  · exact id
  · exact fun hpermits ↦ hpermits.1
  · exact id
  · exact id
  · exact id
  · cases hs

theorem tray_of_permits {s : FabricStatement} {r : Uuid} (hs : c.ownScope.permits s)
    (hr : s.tray = some r) : c.router = some r := by
  unfold FabricStatement.tray at hr
  split at hr
  · exact Option.some.inj hr ▸ hs
  · exact Option.some.inj hr ▸ hs
  · exact Option.some.inj hr ▸ hs.1
  · cases hr

variable {Pid : Type} [DecidableEq Pid]
  {s s' : Pool FabricStatement FabricStatement.Reply AppError (LoginAnswer ⊕ Answer) Fabric Pid}
  {a b : List (Pid × FabricEvent)} {i : Pid} {x : FabricEvent}

/-- **What a change needs.** In a run with anybody else's requests, a request of somebody who is no
admin that sends a device anything but a question, or writes a change tray, is about the router in
question, and it was authorized before, at a moment when the user had a grant on the router's
site. -/
theorem changes_granted (hrun : Run (Fabric.exec A) s (a ++ (i, x) :: b) s')
    (hi : s.prog i = (Arrival.call c).handle A) (hadmin : c.claims.isAdmin = false)
    (hx : x.1.changes = true) :
    ∃ id, c.router = some id ∧ (∀ r, x.1.tray = some r → r = id) ∧
      ∃ a₁ a₂ k m, a = a₁ ++
          (i, ⟨.review (.authorizeRouter id c.claims.sub), .ok (some k)⟩) :: a₂ ∧
        execAll (Fabric.exec A) (a₁.map Prod.snd) s.state = some m ∧
        m.HoldsGrant id c.claims.sub := by
  have hf := hrun.follows i
  rw [proj_append, proj_cons_self, hi] at hf
  -- without an authorization nothing changes
  obtain ⟨y, hy, hauth⟩ := (arrival_keeps (σ := c.noScope) hadmin rfl fun _ h ↦ h).exists_before hf
    (not_permits_of_changes hx)
  obtain ⟨id, userId, k, rfl⟩ := authorized_of_not_accepted hauth
  obtain ⟨a₁, a₂, rfl⟩ := List.append_of_mem (mem_proj.1 hy)
  -- everything the request asks for is its own router
  have hown := (arrival_keeps (σ := c.ownScope) hadmin rfl fun _ h ↦ h).of_follows hf
    fun y _ ↦ ownScope_accepts c y.1 y.2
  obtain ⟨rfl, hid⟩ := hown _ (List.mem_append_left _ hy)
  refine ⟨id, hid, fun r hr ↦ ?_, ?_⟩
  · have htray := tray_of_permits (hown x (List.mem_append_right _ List.mem_cons_self)) hr
    exact Option.some.inj (htray.symm.trans hid)
  -- the tables at the authorization
  have hexec := hrun.execs
  rw [List.append_assoc, List.cons_append, List.map_append] at hexec
  obtain ⟨m, hm, hrest⟩ := execAll_append_eq_some.1 hexec
  obtain ⟨m', hstep, -⟩ := execAll_cons_eq_some.1 hrest
  obtain ⟨db, hdb, -⟩ := Option.map_eq_some_iff.1 hstep
  exact ⟨a₁, a₂, k, m, rfl, hm, holdsGrant_of_grantedRouter (of_guarded hdb).1.symm⟩

end

/-! ### A viewer who configures -/

def sampleRouterRow : RouterRow :=
  ⟨0, 1, "r0", none, "edge", "192.0.2.1", .ok, "1.4", 0, none, "https", some "key", 10, none, none,
    22, 0, 0⟩

/-- One router on one site, and one user with a grant of the given role on it. -/
def sampleGranted (role : String) : Fabric where
  sites := [⟨1, "s1", none, 0⟩]
  users := [⟨2, "", "", none, "viewer", "", "operator", 0⟩]
  routers := [sampleRouterRow]
  userSiteAccess := [⟨2, 1, role⟩]
  configChanges := []
  configCommits := []
  nextChange := 0
  nextCommit := 0
  nextId := 3

/-- A command for the device, past the change tray. -/
def sampleCommand : Json := .obj [("op", .str "set"), ("path", .arr [.str "system"])]

def sampleViewerCall : FabricCall :=
  ⟨⟨2, "operator"⟩, .router 0 (.proxy (.configure sampleCommand))⟩

/-- The exchanges of the request before it sends the command. -/
def sampleLookups : List (Unit × FabricEvent) :=
  [((), ⟨.review (.authorizeRouter 0 2), .ok (some 0)⟩),
    ((), ⟨.review (.selectRouter 0), .ok (some sampleRouterRow.operated)⟩)]

def sampleSent : FabricEvent :=
  ⟨.post (VyosClient.new "https" "192.0.2.1" none "key" "1.4") "/configure" sampleCommand,
    .ok .null⟩

theorem run_sampleViewerCall (role : String) : ∃ s',
    s'.state = sampleGranted role ∧ Run (Fabric.exec sampleArgon2)
      ⟨sampleGranted role, fun _ : Unit ↦ (Arrival.call sampleViewerCall).handle sampleArgon2⟩
      (sampleLookups ++ ((), sampleSent) :: []) s' :=
  ⟨_, rfl, Run.step () _ rfl rfl <| Run.step () _ rfl rfl <| Run.step () _ rfl rfl <| Run.nil _⟩

/-- The grant that was there. -/
theorem changes_granted_viewer : ∃ id, sampleViewerCall.router = some id ∧
    (∀ r, sampleSent.1.tray = some r → r = id) ∧
    ∃ a₁ a₂ k m, sampleLookups = a₁ ++
        ((), ⟨.review (.authorizeRouter id 2), .ok (some k)⟩) :: a₂ ∧
      execAll (Fabric.exec sampleArgon2) (a₁.map Prod.snd) (sampleGranted "viewer") = some m ∧
      m.HoldsGrant id 2 := by
  obtain ⟨s', -, hrun⟩ := run_sampleViewerCall "viewer"
  exact changes_granted hrun rfl rfl (by decide)

/-- The only grant of the user is a viewer's, before and after, and the command is sent. -/
theorem not_viewer_only_views : ∃ s',
    Run (Fabric.exec sampleArgon2)
      ⟨sampleGranted "viewer", fun _ : Unit ↦ (Arrival.call sampleViewerCall).handle sampleArgon2⟩
      (sampleLookups ++ ((), sampleSent) :: []) s' ∧
    s'.state = sampleGranted "viewer" ∧ sampleViewerCall.claims.isAdmin = false ∧
    (∀ a ∈ (sampleGranted "viewer").userSiteAccess, a.userId = sampleViewerCall.claims.sub →
      a.role = "viewer") ∧ sampleSent.1.changes = true := by
  obtain ⟨s', hstate, hrun⟩ := run_sampleViewerCall "viewer"
  refine ⟨s', hrun, hstate, by decide, ?_, by decide⟩
  intro a ha _
  obtain rfl := List.mem_singleton.1 ha
  rfl

end VyosFabric
