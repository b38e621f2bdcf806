import VyosFabric.Routes.Routers

/-!
# What a request of a non-admin may touch

A `Scope` says which routers, clients, commits and sites a user's requests may concern. A statement
is *permitted* if it stays inside, and a reply is *accepted* if it lets in nothing from outside: an
authorization only of a router of the scope, a router row only with a client of the scope, and so
on.

`FabricCall.meets`: as long as the replies are accepted, every request of somebody who is no admin
issues permitted statements only. The scope is arbitrary, so the same contract says that nothing
happens without an authorization (the scope without routers) and that nothing outside the grants is
touched (the scope of the grants).
-/

namespace VyosFabric

open Interaction

/-- The routers, clients, commits and sites that a user's requests may concern; `target` are the
routers they may ask for. -/
structure Scope where
  user : Uuid
  target : Uuid → Prop
  router : Uuid → Prop
  client : VyosClient → Prop
  commit : Uuid → Prop
  site : Uuid → Prop

namespace Scope

variable (σ : Scope)

/-- The statement of the review system stays inside the scope. -/
def allows : Statement → Prop
  | .authorizeRouter r u => u = σ.user ∧ σ.target r
  | .selectRouter r => σ.router r
  | .deletePending r _ => σ.router r
  | .insertChange r _ => σ.router r
  | .selectPending r => σ.router r
  | .insertCommit c => σ.router c.routerId
  | .updateCommitted k r => σ.router r ∧ σ.commit k
  | .selectCommits r => σ.router r
  | .selectLinked k => σ.commit k
  | .showConfig c _ => σ.client c
  | .configure c _ => σ.client c
  | .save c _ => σ.client c

/-- The reply lets in nothing from outside the scope. -/
def admits : (s : Statement) → s.Reply → Prop
  | .authorizeRouter r u, .ok (some _) => u = σ.user → σ.target r → σ.router r
  | .selectRouter r, .ok (some row) => σ.router r → ∀ key, row.apiKey = some key →
    σ.client (VyosClient.new row.apiProtocol row.mgmtIp row.apiPort key row.version)
  | .insertCommit c, .ok row => σ.router c.routerId → σ.commit row.id
  | .selectCommits r, .ok rows => σ.router r → ∀ row ∈ rows, σ.commit row.id
  | _, _ => True

/-- The statement stays inside the scope. -/
def permits : FabricStatement → Prop
  | .review s => σ.allows s
  | .selectUser id => id = σ.user
  | .selectAccess id => id = σ.user
  | .selectSiteIds id => id = σ.user
  | .selectSitesIn ids => ∀ id ∈ ids, σ.site id
  | .selectSite id => σ.site id
  | .selectRoutersIn ids => ∀ id ∈ ids, σ.site id
  | .selectSiteRouters id => σ.site id
  | .selectRouterRow id => σ.router id
  | .post c _ _ => σ.client c
  | .info c => σ.client c
  | _ => False

/-- The reply lets in nothing from outside the scope. -/
def accepts : (s : FabricStatement) → s.Reply → Prop
  | .review s, v => σ.admits s v
  | .selectSiteIds u, .ok ids => u = σ.user → ∀ id ∈ ids, σ.site id
  | _, _ => True

end Scope

/-! ### The handlers of the review system -/

/-- The handler stays inside the scope, and returns only what satisfies `Q`. -/
abbrev Handler.Keeps {α : Type} (p : Handler α) (σ : Scope) (Q : α → Prop) : Prop :=
  p.Meets σ.admits σ.allows Q

section Review

variable {σ : Scope} {claims : Claims} {id : Uuid}

theorem sql_keeps {s : Statement} {Q : s.Value → Prop} (hs : σ.allows s)
    (hQ : ∀ x, σ.admits s (.ok x) → Q x) : (sql s).Keeps σ Q := by
  refine ⟨hs, fun v hv ↦ ?_⟩
  cases v with
  | error e => trivial
  | ok x => exact hQ x hv

theorem device_keeps {s : Statement} {Q : s.Value → Prop} (hs : σ.allows s)
    (hQ : ∀ x, σ.admits s (.ok x) → Q x) : (device s).Keeps σ Q := by
  refine ⟨hs, fun v hv ↦ ?_⟩
  cases v with
  | error e => trivial
  | ok x => exact hQ x hv

theorem authorizeRouter_keeps (hadmin : claims.isAdmin = false) (huser : claims.sub = σ.user)
    (hid : σ.target id) : (authorizeRouter claims id).Keeps σ fun _ ↦ σ.router id := by
  rw [authorizeRouter, hadmin]
  refine Prog.Meets.bind (Q := fun row : Option Uuid ↦ row.isSome → σ.router id)
    (sql_keeps ⟨huser, hid⟩ fun x hx ↦ ?_) fun row hrow ↦ ?_
  · cases x with
    | none => exact fun h ↦ by cases h
    | some k => exact fun _ ↦ hx huser hid
  · cases row with
    | none => trivial
    | some k => exact hrow rfl

theorem fetchClient_keeps (hadmin : claims.isAdmin = false) (huser : claims.sub = σ.user)
    (hid : σ.target id) :
    (fetchClient claims id).Keeps σ fun client ↦ σ.router id ∧ σ.client client := by
  refine Prog.Meets.bind (authorizeRouter_keeps hadmin huser hid) fun _ hrouter ↦ ?_
  refine Prog.Meets.bind (sql_keeps (Q := fun row ↦ σ.admits (.selectRouter id) (.ok row)) hrouter
    fun _ hx ↦ hx) fun row hrow ↦ ?_
  cases row with
  | none => trivial
  | some router =>
    dsimp only
    split
    · trivial
    · rename_i key hkey
      exact ⟨hrouter, hrow hrouter key (Option.filter_eq_some_iff.1 hkey).1⟩

/-- Looking at a client of the scope. -/
theorem Shows.keeps {α : Type} {client : VyosClient} {p : Handler α} (hp : Shows client p)
    (hclient : σ.client client) : p.Keeps σ fun _ ↦ True := by
  refine (hp.mono ?_).meets
  rintro _ ⟨path, rfl⟩
  exact hclient

/-- A client, looking at it, and something made of that. -/
theorem fetch_keeps {α β : Type} {p : VyosClient → Handler α} {f : α → β}
    (hadmin : claims.isAdmin = false) (huser : claims.sub = σ.user) (hid : σ.target id)
    (hp : ∀ client, Shows client (p client)) :
    Handler.Keeps ((fetchClient claims id).bind fun client ↦ (p client).bind fun a ↦ .ret (f a)) σ
      fun _ ↦ σ.router id :=
  Prog.Meets.bind (fetchClient_keeps hadmin huser hid) fun client hclient ↦
    Prog.Meets.bind ((hp client).keeps hclient.2) fun _ _ ↦ hclient.1

/-- **What is staged** is computed inside the scope. -/
theorem Edit.diff_keeps (hadmin : claims.isAdmin = false) (huser : claims.sub = σ.user)
    (hid : σ.target id) (e : Edit) : (e.diff claims id).Keeps σ fun _ ↦ σ.router id := by
  cases e with
  | stageSystem body =>
    exact fetch_keeps hadmin huser hid gather_shows
  | stageGlobalOptions body =>
    exact fetch_keeps hadmin huser hid gatherGlobalOptions_shows
  | stageEthernet body =>
    rw [Edit.diff]
    split
    · trivial
    · rw [interfaceConfig_eq, Prog.bind_eq, Prog.bind_assoc]
      exact fetch_keeps hadmin huser hid (readInterfaces_shows _)
  | stageVlan body =>
    rw [Edit.diff]
    split
    · trivial
    · rw [interfaceConfig_eq, Prog.bind_eq, Prog.bind_assoc]
      exact fetch_keeps hadmin huser hid (readInterfaces_shows _)
  | deleteVlan body =>
    exact Prog.Meets.bind (authorizeRouter_keeps hadmin huser hid) fun _ hrouter ↦ hrouter
  | stageNat44 body =>
    rw [Edit.diff]
    split
    · trivial
    · split
      · trivial
      · exact fetch_keeps hadmin huser hid (fetchNode_shows · _)
  | deleteNat44 body =>
    rw [Edit.diff]
    split
    · trivial
    · exact Prog.Meets.bind (authorizeRouter_keeps hadmin huser hid) fun _ hrouter ↦ hrouter
  | stageStatic body =>
    rw [Edit.diff]
    split
    · trivial
    · exact fetch_keeps hadmin huser hid (fetchNode_shows · _)
  | deleteStatic body =>
    exact Prog.Meets.bind (authorizeRouter_keeps hadmin huser hid) fun _ hrouter ↦ hrouter

theorem deleteEach_keeps (hrouter : σ.router id) (filters : List Filter) :
    (deleteEach id filters).Keeps σ fun _ ↦ True := by
  induction filters with
  | nil => trivial
  | cons f fs ih => exact Prog.Meets.bind (sql_keeps hrouter fun _ _ ↦ trivial) fun _ _ ↦ ih

theorem insertChanges_keeps (hrouter : σ.router id) (changes : List NewConfigChange) :
    (insertChanges id changes).Keeps σ fun _ ↦ True := by
  induction changes with
  | nil => trivial
  | cons c cs ih =>
    exact Prog.Meets.bind (Q := fun _ ↦ True) (sql_keeps hrouter fun _ _ ↦ trivial) fun _ _ ↦
      Prog.Meets.bind ih fun _ _ ↦ trivial

theorem saveIfApplied_keeps {client : VyosClient} (hclient : σ.client client) (resp : Json) :
    (saveIfApplied client resp).Keeps σ fun _ ↦ True := by
  rw [saveIfApplied]
  split
  · refine ⟨hclient, fun v _ ↦ ?_⟩
    cases v <;> trivial
  · trivial

theorem commit_keeps (hadmin : claims.isAdmin = false) (huser : claims.sub = σ.user)
    (hid : σ.target id) : (commit claims id).Keeps σ fun _ ↦ True := by
  refine Prog.Meets.bind (authorizeRouter_keeps hadmin huser hid) fun _ hrouter ↦ ?_
  refine Prog.Meets.bind (Q := fun _ ↦ True) (sql_keeps hrouter fun _ _ ↦ trivial) fun pending _ ↦
    ?_
  show Prog.Meets _ _ _ (if _ then _ else _)
  split
  · trivial
  · refine Prog.Meets.bind (fetchClient_keeps hadmin huser hid) fun client hclient ↦ ?_
    refine Prog.Meets.bind (Q := fun _ ↦ True) (device_keeps hclient.2 fun _ _ ↦ trivial)
      fun resp _ ↦ ?_
    refine Prog.Meets.bind (saveIfApplied_keeps hclient.2 resp) fun saved _ ↦ ?_
    refine Prog.Meets.bind (Q := fun row : ConfigCommit ↦ σ.commit row.id)
      (sql_keeps hrouter fun _ hx ↦ hx hrouter) fun row hrow ↦ ?_
    show Prog.Meets _ _ _ (if _ then _ else _)
    split
    · exact Prog.Meets.bind (Q := fun _ ↦ True) (sql_keeps ⟨hrouter, hrow⟩ fun _ _ ↦ trivial)
        fun _ _ ↦ trivial
    · trivial

theorem linkedChanges_keeps {l : List ConfigCommit} (hl : ∀ c ∈ l, σ.commit c.id) :
    (linkedChanges l).Keeps σ fun _ ↦ True := by
  induction l with
  | nil => trivial
  | cons c cs ih =>
    refine Prog.Meets.bind (Q := fun _ ↦ True)
      (sql_keeps (hl c List.mem_cons_self) fun _ _ ↦ trivial) fun _ _ ↦ ?_
    exact Prog.Meets.bind (ih fun d hd ↦ hl d (List.mem_cons_of_mem _ hd)) fun _ _ ↦ trivial

theorem listCommits_keeps (hadmin : claims.isAdmin = false) (huser : claims.sub = σ.user)
    (hid : σ.target id) : (listCommits claims id).Keeps σ fun _ ↦ True := by
  refine Prog.Meets.bind (authorizeRouter_keeps hadmin huser hid) fun _ hrouter ↦ ?_
  refine Prog.Meets.bind (Q := fun rows : List ConfigCommit ↦ ∀ c ∈ rows, σ.commit c.id)
    (sql_keeps hrouter fun _ hx ↦ hx hrouter) fun rows hrows ↦ ?_
  exact Prog.Meets.bind (linkedChanges_keeps hrows) fun _ _ ↦ trivial

/-- **Every request of the review system** stays inside the scope. -/
theorem Call.handle_keeps {c : Call} (hadmin : c.claims.isAdmin = false)
    (huser : c.claims.sub = σ.user) (hid : σ.target c.id) : c.handle.Keeps σ fun _ ↦ True := by
  obtain ⟨claims, id, request⟩ := c
  cases request with
  | edit e =>
    show (e.handle claims id).Keeps σ _
    rw [Edit.handle_eq]
    refine Prog.Meets.bind (e.diff_keeps hadmin huser hid) fun changes hrouter ↦ ?_
    refine Prog.Meets.bind (deleteEach_keeps hrouter e.filters) fun _ _ ↦ ?_
    exact Prog.Meets.bind (insertChanges_keeps hrouter changes) fun _ _ ↦ trivial
  | listChanges =>
    refine Prog.Meets.bind (authorizeRouter_keeps hadmin huser hid) fun _ hrouter ↦ ?_
    exact Prog.Meets.bind (Q := fun _ ↦ True) (sql_keeps hrouter fun _ _ ↦ trivial) fun _ _ ↦
      trivial
  | discardOne changeId =>
    refine Prog.Meets.bind (authorizeRouter_keeps hadmin huser hid) fun _ hrouter ↦ ?_
    refine Prog.Meets.bind (Q := fun _ ↦ True) (sql_keeps hrouter fun _ _ ↦ trivial) fun n _ ↦ ?_
    show Prog.Meets _ _ _ (if _ then _ else _)
    split <;> trivial
  | discardAll =>
    refine Prog.Meets.bind (authorizeRouter_keeps hadmin huser hid) fun _ hrouter ↦ ?_
    exact Prog.Meets.bind (Q := fun _ ↦ True) (sql_keeps hrouter fun _ _ ↦ trivial) fun _ _ ↦
      trivial
  | commit => exact commit_keeps hadmin huser hid
  | listCommits => exact listCommits_keeps hadmin huser hid

end Review

/-! ### Every handler -/

/-- The handler stays inside the scope, and returns only what satisfies `Q`. -/
abbrev FabricHandler.Keeps {α : Type} (p : FabricHandler α) (σ : Scope) (Q : α → Prop) : Prop :=
  p.Meets σ.accepts σ.permits Q

section Fabric

variable {σ : Scope} {claims : Claims} {id : Uuid}

theorem Handler.Keeps.lift {α : Type} {p : Handler α} {Q : α → Prop} (hp : p.Keeps σ Q) :
    FabricHandler.Keeps p.lift σ Q :=
  Prog.Meets.embed (fun _ _ h ↦ h) (fun _ h ↦ h) hp

theorem query_keeps {s : FabricStatement} {Q : s.Value → Prop} (hs : σ.permits s)
    (hQ : ∀ x, σ.accepts s (.ok x) → Q x) : (query s).Keeps σ Q := by
  refine ⟨hs, fun v hv ↦ ?_⟩
  cases v with
  | error e => trivial
  | ok x => exact hQ x hv

theorem send_keeps {s : FabricStatement} (hs : σ.permits s) : (send s).Keeps σ fun _ ↦ True := by
  refine ⟨hs, fun v _ ↦ ?_⟩
  cases v <;> trivial

/-- The value is rewritten. -/
theorem FabricHandler.Keeps.map {α β : Type} {p : FabricHandler α} {Q : α → Prop}
    (hp : p.Keeps σ Q) (f : α → β) : FabricHandler.Keeps (f <$> p) σ fun _ ↦ True :=
  Prog.Meets.bind hp fun _ _ ↦ trivial

/-- Who is no admin is turned away. -/
theorem requireAdmin_eq (hadmin : claims.isAdmin = false) :
    requireAdmin claims = .fail .forbidden := by
  rw [requireAdmin, hadmin]
  rfl

theorem accessibleSiteIds_keeps (huser : claims.sub = σ.user) :
    (accessibleSiteIds claims.sub).Keeps σ fun ids ↦ ∀ s ∈ ids, σ.site s :=
  query_keeps huser fun _ hx ↦ hx huser

theorem ensureSiteAccess_keeps (hadmin : claims.isAdmin = false) (huser : claims.sub = σ.user) :
    (ensureSiteAccess claims id).Keeps σ fun _ ↦ σ.site id := by
  rw [ensureSiteAccess, hadmin]
  refine Prog.Meets.bind (accessibleSiteIds_keeps huser) fun ids hids ↦ ?_
  show Prog.Meets _ _ _ (if _ then _ else _)
  split
  · rename_i hmem
    exact hids id (List.contains_iff_mem.1 hmem)
  · trivial

theorem withClient_keeps (hadmin : claims.isAdmin = false) (huser : claims.sub = σ.user)
    (hid : σ.target id) {op : VyosClient → FabricHandler Json}
    (hop : ∀ client, σ.client client → (op client).Keeps σ fun _ ↦ True) :
    (withClient claims id op).Keeps σ fun _ ↦ True :=
  Prog.Meets.bind (fetchClient_keeps hadmin huser hid).lift fun client hclient ↦
    hop client hclient.2

theorem ProxyRequest.handle_keeps (hadmin : claims.isAdmin = false) (huser : claims.sub = σ.user)
    (hid : σ.target id) (p : ProxyRequest) : (p.handle claims id).Keeps σ fun _ ↦ True := by
  cases p with
  | poll =>
    exact withClient_keeps hadmin huser hid fun client hclient ↦
      Handler.Keeps.lift (p := device (.showConfig client _))
        (device_keeps hclient fun _ _ ↦ trivial)
  | save body =>
    exact withClient_keeps hadmin huser hid fun client hclient ↦
      Handler.Keeps.lift (p := device (.save client _)) (device_keeps hclient fun _ _ ↦ trivial)
  | retrieve body | configure body | «show» body | generate body | reset body =>
    exact withClient_keeps hadmin huser hid fun client hclient ↦ send_keeps hclient
  | reboot | poweroff | info =>
    refine withClient_keeps hadmin huser hid fun client hclient ↦ ?_
    split
    · exact send_keeps hclient
    · trivial

/-- A page that only reads asks the client it was given. -/
theorem DeviceRead.keeps (page : DeviceRead) {client : VyosClient} (hclient : σ.client client) :
    (page.read client).Keeps σ fun _ ↦ True := by
  refine ((page.asks client).mono fun s hs ↦ ?_).meets
  unfold FabricStatement.asks at hs
  split at hs
  · obtain rfl := beq_iff_eq.1 hs
    exact hclient
  · obtain rfl := beq_iff_eq.1 (Bool.and_eq_true_iff.1 hs).1
    exact hclient
  · cases hs

theorem RouterRequest.handle_keeps (hadmin : claims.isAdmin = false) (huser : claims.sub = σ.user)
    (hid : σ.target id) (r : RouterRequest) : (r.handle claims id).Keeps σ fun _ ↦ True := by
  cases r with
  | get =>
    refine FabricHandler.Keeps.map (Q := fun _ ↦ True) ?_ _
    refine Prog.Meets.bind (authorizeRouter_keeps hadmin huser hid).lift fun _ hrouter ↦ ?_
    refine Prog.Meets.bind (Q := fun _ ↦ True) (query_keeps hrouter fun _ _ ↦ trivial) fun found _ ↦
      ?_
    cases found <;> trivial
  | update body =>
    rw [RouterRequest.handle, updateRouter, adminOnly, requireAdmin_eq hadmin]
    trivial
  | delete =>
    rw [RouterRequest.handle, deleteRouter, adminOnly, requireAdmin_eq hadmin]
    trivial
  | proxy p => exact (p.handle_keeps hadmin huser hid).map _
  | read page =>
    exact (withClient_keeps hadmin huser hid fun client hclient ↦ page.keeps hclient).map _
  | review r => exact (Call.handle_keeps (c := ⟨claims, id, r⟩) hadmin huser hid).lift.map _

theorem SiteRequest.handle_keeps (hadmin : claims.isAdmin = false) (huser : claims.sub = σ.user)
    (r : SiteRequest) : (r.handle claims).Keeps σ fun _ ↦ True := by
  cases r with
  | list =>
    refine FabricHandler.Keeps.map (Q := fun _ ↦ True) ?_ _
    rw [listSites, hadmin]
    exact Prog.Meets.bind (accessibleSiteIds_keeps huser) fun ids hids ↦
      query_keeps hids fun _ _ ↦ trivial
  | create body =>
    rw [SiteRequest.handle, createSite, requireSiteAdmin, requireAdmin_eq hadmin]
    trivial
  | get id =>
    refine FabricHandler.Keeps.map (Q := fun _ ↦ True) ?_ _
    refine Prog.Meets.bind (ensureSiteAccess_keeps hadmin huser) fun _ hsite ↦ ?_
    refine Prog.Meets.bind (Q := fun _ ↦ True) (query_keeps hsite fun _ _ ↦ trivial) fun found _ ↦
      ?_
    cases found <;> trivial
  | update id body =>
    rw [SiteRequest.handle, updateSite, requireSiteAdmin, requireAdmin_eq hadmin]
    trivial
  | delete id =>
    rw [SiteRequest.handle, deleteSite, requireSiteAdmin, requireAdmin_eq hadmin]
    trivial
  | routers id =>
    refine FabricHandler.Keeps.map (Q := fun _ ↦ True) ?_ _
    refine Prog.Meets.bind (ensureSiteAccess_keeps hadmin huser) fun _ hsite ↦ ?_
    exact Prog.Meets.bind (Q := fun _ ↦ True) (query_keeps hsite fun _ _ ↦ trivial) fun _ _ ↦
      trivial

/-- The router a request is about. -/
def FabricCall.router (c : FabricCall) : Option Uuid :=
  match c.request with
  | .router id _ => some id
  | _ => none

/-- **Every request of somebody who is no admin** stays inside the scope. -/
theorem FabricCall.handle_keeps {c : FabricCall} (hadmin : c.claims.isAdmin = false)
    (huser : c.claims.sub = σ.user) (htarget : ∀ id, c.router = some id → σ.target id) :
    c.handle.Keeps σ fun _ ↦ True := by
  obtain ⟨claims, request⟩ := c
  cases request with
  | me =>
    refine FabricHandler.Keeps.map (Q := fun _ ↦ True) ?_ _
    refine Prog.Meets.bind (Q := fun _ ↦ True) (query_keeps huser fun _ _ ↦ trivial) fun found _ ↦
      ?_
    cases found with
    | none => trivial
    | some user =>
      exact Prog.Meets.bind (Q := fun _ ↦ True) (query_keeps huser fun _ _ ↦ trivial) fun _ _ ↦
        trivial
  | listRouters =>
    refine FabricHandler.Keeps.map (Q := fun _ ↦ True) ?_ _
    rw [listRouters, hadmin]
    refine Prog.Meets.bind (accessibleSiteIds_keeps huser) fun ids hids ↦ ?_
    exact Prog.Meets.bind (Q := fun _ ↦ True) (query_keeps hids fun _ _ ↦ trivial) fun _ _ ↦ trivial
  | createRouter body =>
    show FabricHandler.Keeps (Answer.created <$> createRouter claims body) σ _
    rw [createRouter, adminOnly, requireAdmin_eq hadmin]
    trivial
  | router id r => exact r.handle_keeps hadmin huser (htarget id rfl)
  | sites r => exact (r.handle_keeps hadmin huser).map _
  | users r =>
    rw [FabricCall.handle, requireAdmin_eq hadmin]
    trivial

end Fabric

end VyosFabric
