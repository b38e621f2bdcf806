import VyosFabric.Interaction.Masking
import VyosFabric.Polling.Statuses

/-!
# What the requests see of the poller

The poller writes two columns, `status` and `updated_at`, and the requests only ever pass them on:
no handler looks at them. With the two columns masked, every run of the server is therefore a run of
the requests alone (`unseen`). They issue the same statements, get the same replies, hand out the
same tokens and come to the same answers, except for the two columns of the routers they show.
-/

namespace VyosFabric

open Interaction

/-! ### The mask -/

/-- The row as it would be without the poller and without edits. -/
def RouterRow.masked (r : RouterRow) : RouterRow :=
  { r with status := .off, updatedAt := r.createdAt }

def RouterView.masked (r : RouterView) : RouterView :=
  { r with status := .off, updatedAt := r.createdAt }

def Fabric.masked (w : Fabric) : Fabric := { w with routers := w.routers.map RouterRow.masked }

namespace FabricStatement

/-- The value of an answer with the two columns masked. -/
def maskValue : (s : FabricStatement) → s.Value → s.Value
  | selectRouters, rows => rows.map RouterRow.masked
  | selectRoutersIn _, rows => rows.map RouterRow.masked
  | selectSiteRouters _, rows => rows.map RouterRow.masked
  | selectRouterRow _, row => row.map RouterRow.masked
  | insertRouter _, row => row.masked
  | updateRouter _ _, row => row.map RouterRow.masked
  | _, x => x

/-- The reply with the two columns masked. -/
def mask (s : FabricStatement) (v : s.Reply) : s.Reply := v.map s.maskValue

/-- The statement answers with rows of `routers`, all columns of them. -/
def readsRouters : FabricStatement → Bool
  | selectRouters => true
  | selectRoutersIn _ => true
  | selectSiteRouters _ => true
  | selectRouterRow _ => true
  | insertRouter _ => true
  | updateRouter _ _ => true
  | _ => false

theorem mask_eq {s : FabricStatement} (hs : s.readsRouters = false) (v : s.Reply) :
    s.mask v = v := by
  cases s <;> first | (cases v <;> rfl) | cases hs

end FabricStatement

def SiteAnswer.masked : SiteAnswer → SiteAnswer
  | .routers l => .routers (l.map RouterView.masked)
  | a => a

def Answer.masked : Answer → Answer
  | .router r => .router r.masked
  | .created r => .created r.masked
  | .routers l => .routers (l.map RouterView.masked)
  | .sites a => .sites a.masked
  | a => a

/-- The answer with the two columns masked; a login shows no routers. -/
def maskAnswer : LoginAnswer ⊕ Answer → LoginAnswer ⊕ Answer := Sum.map id Answer.masked

@[simp] theorem RouterRow.view_masked (r : RouterRow) : r.masked.view = r.view.masked := rfl

theorem map_view_masked (rows : List RouterRow) :
    (rows.map RouterRow.masked).map RouterRow.view =
      (rows.map RouterRow.view).map RouterView.masked := by
  rw [List.map_map, List.map_map]
  rfl

/-! ### No handler looks behind the mask -/

/-- Answered by masked replies, the handler goes the same way and returns the masked value. -/
abbrev Masks {α : Type} (m : α → α) (p : FabricHandler α) : Prop :=
  Prog.Alike FabricStatement.mask m p p

/-- The handler does not read `routers`, devices and their clients aside. -/
abbrev Aside {α : Type} (p : FabricHandler α) : Prop := p.Issues fun s ↦ s.readsRouters = false

section Combinators

variable {α β : Type} {m : α → α} {n : β → β}

theorem query_masks (s : FabricStatement) : Masks s.maskValue (query s) := by
  refine .call s fun v ↦ ?_
  cases v with
  | error e => exact .fail _
  | ok x => exact .ret x

theorem Aside.masks {p : FabricHandler α} (hp : Aside p) : Masks id p :=
  Prog.Issues.alike (hp.mono fun _ hs v ↦ FabricStatement.mask_eq hs v)

theorem Masks.map {p : FabricHandler α} (hp : Masks m p) {g : α → β} (hg : ∀ a, g (m a) = n (g a)) :
    Masks n (g <$> p) := by
  refine Prog.Alike.bind hp fun a ↦ ?_
  show Prog.Alike _ _ (Prog.ret (g a)) (Prog.ret (g (m a)))
  rw [hg a]
  exact .ret (g a)

theorem Aside.bind {p : FabricHandler α} {f : α → FabricHandler β} (hp : Aside p)
    (hf : ∀ a, Aside (f a)) : Aside (p.bind f) :=
  Prog.Issues.bind hp hf

theorem Aside.map {p : FabricHandler α} (hp : Aside p) (g : α → β) : Aside (g <$> p) :=
  hp.bind fun _ ↦ trivial

theorem aside_query {s : FabricStatement} (hs : s.readsRouters = false) : Aside (query s) :=
  query_issues hs

theorem aside_send {s : FabricStatement} (hs : s.readsRouters = false) : Aside (send s) := by
  refine ⟨hs, fun v ↦ ?_⟩
  cases v <;> trivial

/-- The review system reads other columns. -/
theorem aside_lift (p : Handler α) : Aside p.lift := by
  induction p with
  | ret a => trivial
  | fail err => trivial
  | call e k ih => exact ⟨rfl, fun v ↦ ih v⟩

theorem aside_requireAdmin (claims : Claims) : Aside (requireAdmin claims) := by
  rw [requireAdmin]
  split <;> trivial

end Combinators

section Handlers

variable {claims : Claims}

/-! #### Users and sessions -/

theorem login_aside (A : Argon2) (body : LoginRequest) : Aside (login A body) := by
  refine (login_issues body).mono fun s hs ↦ ?_
  cases s <;> first | rfl | cases hs

theorem aside_fetchAccessMap : Aside fetchAccessMap := fetchAccessMap_issues rfl

theorem aside_hashPassword (password : String) : Aside (hashPassword password) := by
  refine ⟨rfl, fun v ↦ ?_⟩
  cases v <;> trivial

theorem userRequest_aside (r : UserRequest) : Aside r.handle := by
  cases r with
  | list =>
    refine Aside.map (p := listUsers) (Aside.bind (aside_query rfl) fun users ↦ ?_) _
    exact Aside.bind aside_fetchAccessMap fun _ ↦ trivial
  | create body =>
    refine Aside.map (p := createUser body) (Aside.bind (aside_hashPassword _) fun hash ↦ ?_) _
    exact Aside.bind (aside_query rfl) fun _ ↦ trivial
  | get id =>
    refine Aside.map (p := getUser id) (Aside.bind (Aside.bind (aside_query rfl) fun found ↦ ?_)
      fun user ↦ Aside.bind aside_fetchAccessMap fun _ ↦ trivial) _
    cases found <;> trivial
  | update id body =>
    refine Aside.map ((updateUser_issues id body).mono fun s hs ↦ ?_) _
    cases s <;> first | rfl | cases hs
  | delete id =>
    refine Aside.map (p := deleteUser id) (Aside.bind (aside_query rfl) fun n ↦ ?_) _
    show Aside (if n = 0 then _ else _)
    split <;> trivial
  | grant id body => exact Aside.map (p := grantAccess id body) (aside_query rfl) _
  | revoke id siteId =>
    exact Aside.map (p := revokeAccess id siteId) (Aside.bind (aside_query rfl) fun _ ↦ trivial) _

/-! #### Sites -/

theorem aside_ensureSiteAccess (siteId : Uuid) : Aside (ensureSiteAccess claims siteId) := by
  rw [ensureSiteAccess]
  split
  · trivial
  · refine (aside_query rfl).bind fun ids ↦ ?_
    show Aside (if _ then _ else _)
    split <;> trivial

theorem siteRequest_masks (r : SiteRequest) : Masks SiteAnswer.masked (r.handle claims) := by
  cases r with
  | list =>
    refine Aside.masks ?_ |>.map fun _ ↦ rfl
    rw [listSites]
    split
    · exact aside_query rfl
    · exact (aside_query rfl).bind fun _ ↦ aside_query rfl
  | create body =>
    exact (((aside_requireAdmin claims).bind fun _ ↦ aside_query rfl).masks).map fun _ ↦ rfl
  | get id =>
    refine Aside.masks ((aside_ensureSiteAccess id).bind fun _ ↦ (aside_query rfl).bind
      fun found ↦ ?_) |>.map fun _ ↦ rfl
    cases found <;> trivial
  | update id body =>
    refine Aside.masks ((aside_requireAdmin claims).bind fun _ ↦ (aside_query rfl).bind
      fun found ↦ ?_) |>.map fun _ ↦ rfl
    cases found <;> trivial
  | delete id =>
    refine Aside.masks ((aside_requireAdmin claims).bind fun _ ↦ (aside_query rfl).bind
      fun n ↦ ?_) |>.map fun _ ↦ rfl
    show Aside (if n = 0 then _ else _)
    split <;> trivial
  | routers id =>
    refine Masks.map (m := List.map RouterView.masked) ?_ fun _ ↦ rfl
    refine Prog.Alike.bind (aside_ensureSiteAccess id).masks fun _ ↦ ?_
    exact (query_masks (.selectSiteRouters id)).map map_view_masked

/-! #### Routers and devices -/

theorem withClient_aside (id : Uuid) {op : VyosClient → FabricHandler Json}
    (hop : ∀ client, Aside (op client)) : Aside (withClient claims id op) :=
  (aside_lift _).bind hop

theorem proxyRequest_aside (id : Uuid) (p : ProxyRequest) : Aside (p.handle claims id) := by
  cases p with
  | poll | save => exact withClient_aside id fun _ ↦ aside_lift _
  | retrieve | configure | «show» | generate | reset =>
    exact withClient_aside id fun _ ↦ aside_send rfl
  | reboot | poweroff | info =>
    refine withClient_aside id fun client ↦ ?_
    split
    · exact aside_send rfl
    · trivial

theorem deviceRead_aside (page : DeviceRead) (client : VyosClient) : Aside (page.read client) := by
  refine (page.asks client).mono fun s hs ↦ ?_
  cases s <;> first | rfl | cases hs

theorem updateRouter_masks (id : Uuid) (body : UpdateRouter) :
    Masks RouterView.masked (updateRouter claims id body) := by
  refine Prog.Alike.bind (aside_requireAdmin claims).masks fun _ ↦ ?_
  refine Prog.Alike.bind (query_masks (.updateRouter id body)) fun found ↦ ?_
  cases found with
  | none => exact .fail _
  | some r => exact .ret r.view

theorem getRouter_masks (id : Uuid) : Masks RouterView.masked (getRouter claims id) := by
  refine Prog.Alike.bind (aside_lift (authorizeRouter claims id)).masks fun _ ↦ ?_
  refine Prog.Alike.bind (query_masks (.selectRouterRow id)) fun found ↦ ?_
  cases found with
  | none => exact .fail _
  | some r => exact .ret r.view

theorem listRouters_masks : Masks (List.map RouterView.masked) (listRouters claims) := by
  rw [listRouters]
  split
  · exact (query_masks .selectRouters).map map_view_masked
  · refine Prog.Alike.bind (aside_query (s := .selectSiteIds claims.sub) rfl).masks fun ids ↦ ?_
    exact (query_masks (.selectRoutersIn ids)).map map_view_masked

theorem routerRequest_masks (id : Uuid) (r : RouterRequest) :
    Masks Answer.masked (r.handle claims id) := by
  cases r with
  | get => exact (getRouter_masks id).map fun _ ↦ rfl
  | update body => exact (updateRouter_masks id body).map fun _ ↦ rfl
  | delete =>
    refine Masks.map (p := deleteRouter claims id) (Aside.masks ?_) fun _ ↦ rfl
    refine Aside.bind (aside_requireAdmin claims) fun _ ↦ Aside.bind (aside_query rfl) fun n ↦ ?_
    show Aside (if n = 0 then _ else _)
    split <;> trivial
  | proxy p => exact (proxyRequest_aside id p).masks.map fun _ ↦ rfl
  | read page => exact (withClient_aside id (deviceRead_aside page)).masks.map fun _ ↦ rfl
  | review r => exact (aside_lift (Call.handle ⟨claims, id, r⟩)).masks.map fun _ ↦ rfl

/-- **No handler looks behind the mask.** -/
theorem handle_masks (A : Argon2) (a : Arrival) : Masks maskAnswer (a.handle A) := by
  cases a with
  | login body => exact (login_aside A body).masks.map fun _ ↦ rfl
  | call c =>
    refine Masks.map (m := Answer.masked) ?_ fun _ ↦ rfl
    obtain ⟨claims, request⟩ := c
    cases request with
    | me => exact (Aside.masks (p := me claims) (loadUser_issues rfl rfl)).map fun _ ↦ rfl
    | listRouters => exact listRouters_masks.map fun _ ↦ rfl
    | createRouter body =>
      refine Masks.map (m := RouterView.masked) (p := createRouter claims body) ?_ fun _ ↦ rfl
      refine Prog.Alike.bind (aside_requireAdmin claims).masks fun _ ↦ ?_
      exact Masks.map (query_masks (.insertRouter body)) RouterRow.view_masked
    | router id r => exact routerRequest_masks id r
    | sites r => exact (siteRequest_masks r).map fun _ ↦ rfl
    | users r =>
      refine Prog.Alike.bind (aside_requireAdmin claims).masks fun _ ↦ ?_
      exact (userRequest_aside r).masks.map fun _ ↦ rfl

end Handlers

/-! ### The tables behind the mask -/

section Tables

variable {A : Argon2} {w w' : Fabric}

theorem masked_review (w : Fabric) : w.masked.review = w.review := by
  simp only [Fabric.review, Fabric.masked, List.map_map]
  rfl

theorem map_masked_filter {p : RouterRow → Bool} (hp : ∀ r, p r.masked = p r)
    (rows : List RouterRow) :
    (rows.map RouterRow.masked).filter p = (rows.filter p).map RouterRow.masked := by
  rw [List.filter_map, show p ∘ RouterRow.masked = p from funext hp]

theorem dropRouters_masked {p : RouterRow → Bool} (hp : ∀ r, p r.masked = p r) (w : Fabric) :
    w.masked.dropRouters p = (w.dropRouters p).masked := by
  have hgone : ((w.masked.routers.filter p).map RouterRow.id) =
      (w.routers.filter p).map RouterRow.id := by
    rw [Fabric.masked, map_masked_filter hp, List.map_map]
    rfl
  rw [Fabric.dropRouters, hgone, Fabric.masked, map_masked_filter (p := fun r ↦ !p r)
    fun r ↦ congrArg _ (hp r)]
  rfl

theorem router_masked (w : Fabric) (id : Uuid) :
    w.masked.router id = (w.router id).map RouterRow.masked :=
  List.find?_map

theorem lists_masked {rows table : List RouterRow} (h : Lists RouterRow.hostname rows table) :
    Lists RouterRow.hostname (rows.map RouterRow.masked) (table.map RouterRow.masked) :=
  ⟨h.1.map _, List.pairwise_map.2 h.2⟩

/-- **A statement does the same behind the mask.** -/
theorem exec_masked (hw : w.Keyed) {s : FabricStatement} {v : s.Reply}
    (h : w.exec A s v = some w') : w.masked.exec A s (s.mask v) = some w'.masked := by
  cases v with
  | error e =>
    obtain rfl := exec_fault h
    cases s with
    | review s =>
      show ((VyosFabric.exec s (.error e) w'.masked.review).map _) = _
      cases s <;> rfl
    | _ => rfl
  | ok x =>
    cases s with
    | review s =>
      obtain ⟨db, hdb, rfl⟩ := Option.map_eq_some_iff.1 h
      show (VyosFabric.exec s (.ok x) w.masked.review).map w.masked.withReview = _
      rw [masked_review, hdb]
      rfl
    | post | info =>
      obtain rfl := Option.some.inj h
      rfl
    | selectRouters =>
      obtain ⟨hx, rfl⟩ := of_guarded h
      exact if_pos (lists_masked hx)
    | selectRoutersIn ids =>
      obtain ⟨hx, rfl⟩ := of_guarded h
      refine if_pos ?_
      rw [Fabric.masked, map_masked_filter fun _ ↦ rfl]
      exact lists_masked hx
    | selectSiteRouters id =>
      obtain ⟨hx, rfl⟩ := of_guarded h
      refine if_pos ?_
      rw [Fabric.masked, map_masked_filter fun _ ↦ rfl]
      exact lists_masked hx
    | selectRouterRow id =>
      obtain ⟨rfl, rfl⟩ := of_guarded h
      exact if_pos (router_masked w id).symm
    | insertRouter body =>
      obtain ⟨⟨hx, hsite⟩, rfl⟩ := of_guarded h
      have hmask : x.masked = w.masked.newRouter x.masked.createdAt body := by
        rw [hx]
        rfl
      refine (if_pos ⟨hmask, hsite⟩).trans ?_
      simp only [Fabric.masked, List.map_append]
      rfl
    | updateRouter id body =>
      cases x with
      | none =>
        obtain ⟨hx, rfl⟩ := of_guarded h
        refine if_pos ?_
        rw [router_masked, hx]
        rfl
      | some row =>
        obtain ⟨hx, rfl⟩ := of_guarded h
        obtain ⟨r, hr, hrow⟩ := Option.map_eq_some_iff.1 hx.symm
        have hid : r.id = id := by simpa using List.find?_some hr
        have hcreated : row.createdAt = r.createdAt := by rw [← hrow]; rfl
        have hmask : some row.masked = (w.masked.router id).map (body.apply row.createdAt) := by
          rw [router_masked, hr, hcreated, ← hrow]
          rfl
        refine (if_pos hmask).trans ?_
        refine congrArg (fun l ↦ some { w.masked with routers := l }) ?_
        rw [Fabric.masked, List.map_map, List.map_map]
        refine List.map_congr_left fun r' hr' ↦ ?_
        show (if r'.id = id then body.apply row.createdAt r'.masked else r'.masked) =
          (if r'.id = id then body.apply row.updatedAt r' else r').masked
        split
        · rename_i hid'
          -- the row that is updated is the one that was read
          obtain rfl : r' = r := List.inj_on_of_nodup_map hw.routers.nodup hr'
            (List.mem_of_find?_eq_some hr) (hid'.trans hid.symm)
          rw [hcreated]
          rfl
        · rfl
    | deleteSite id =>
      obtain ⟨hx, rfl⟩ := of_guarded h
      refine (if_pos hx).trans ?_
      rw [Fabric.dropSite, dropRouters_masked (fun _ ↦ rfl)]
      rfl
    | deleteRouter id =>
      obtain ⟨hx, rfl⟩ := of_guarded h
      have hx : x = (w.masked.routers.filter fun r ↦ r.id == id).length := by
        rw [hx, Fabric.masked, map_masked_filter fun _ ↦ rfl, List.length_map]
      exact (if_pos hx).trans (congrArg some (dropRouters_masked (fun _ ↦ rfl) w))
    | _ =>
      obtain ⟨hx, rfl⟩ := of_guarded h
      exact if_pos hx

/-- **The poller works behind the mask.** -/
theorem poll_masked {s : PollStatement} {v : s.Reply} (h : w.poll s v = some w') :
    w'.masked = w.masked := by
  cases v with
  | error e =>
    obtain rfl : w = w' := by cases s <;> exact Option.some.inj h
    rfl
  | ok x =>
    cases s with
    | selectDevices =>
      obtain ⟨-, rfl⟩ := of_guarded h
      rfl
    | showConfig =>
      obtain rfl := Option.some.inj h
      rfl
    | setStatus status id =>
      obtain rfl := Option.some.inj h
      simp only [Fabric.masked, List.map_map]
      refine congrArg (fun l ↦ { w with routers := l }) (List.map_congr_left fun r _ ↦ ?_)
      show (if r.id = id then r.setStatus status x else r).masked = r.masked
      split <;> rfl

end Tables

/-! ### The simulation -/

/-- What an act of the server is for the requests alone; those of the poller are not seen. -/
def Server.Act.seen {Pid : Type} : Server.Act Pid → Option (Service.Act Pid)
  | .serve (.enter i a) => some (.enter i a)
  | .serve (.exchange i x) => some (.exchange i ⟨x.1, x.1.mask x.2⟩)
  | .serve (.finish i) => some (.finish i)
  | .tick _ => none
  | .task _ _ => none

/-- What is in service is the same arrival, and the program left of it goes the same way. -/
def ServedAlike (x y : Arrival × FabricHandler (LoginAnswer ⊕ Answer)) : Prop :=
  y.1 = x.1 ∧ Prog.Alike FabricStatement.mask maskAnswer x.2 y.2

/-- The service behind the mask. -/
structure Service.Seen {Pid : Type} (s t : Service Pid) : Prop where
  state : t.state = s.state.masked
  issued : t.issued = s.issued
  serving : ∀ i, Option.Rel ServedAlike (s.serving i) (t.serving i)

section Simulation

variable {Pid : Type} [DecidableEq Pid] {A : Argon2}

/-- A change of what one process has in service. -/
theorem rel_update {s t : Pid → Option (Arrival × FabricHandler (LoginAnswer ⊕ Answer))}
    (h : ∀ i, Option.Rel ServedAlike (s i) (t i)) (i : Pid)
    {x y : Option (Arrival × FabricHandler (LoginAnswer ⊕ Answer))}
    (hxy : Option.Rel ServedAlike x y) (j : Pid) :
    Option.Rel ServedAlike (Function.update s i x j) (Function.update t i y j) := by
  by_cases hj : j = i
  · subst hj
    simpa using hxy
  · simpa [hj] using h j

omit [DecidableEq Pid] in
theorem tokens_mask (r : Except AppError (LoginAnswer ⊕ Answer)) :
    Service.tokens (r.map maskAnswer) = Service.tokens r := by
  rcases r with err | (answer | answer) <;> rfl

/-- **One act**, seen or not. -/
theorem step_seen {s m : Server Pid} {t : Service Pid} {a : Server.Act Pid}
    (ha : Server.Step A s a m) (hkeyed : s.service.state.Keyed) (hseen : s.service.Seen t) :
    KeepsUp (Service.Step A) (fun m t ↦ m.service.Seen t) m t a.seen := by
  obtain ⟨hstate, hissued, hserving⟩ := hseen
  cases ha with
  | tick v hended hpoll => exact ⟨hstate.trans (poll_masked hpoll).symm, hissued, hserving⟩
  | task j v hcall hpoll => exact ⟨hstate.trans (poll_masked hpoll).symm, hissued, hserving⟩
  | serve a hs =>
    cases hs with
    | enter i a hfree htoken =>
      have hrel := hserving i
      rw [hfree] at hrel
      cases ht : t.serving i with
      | some y =>
        rw [ht] at hrel
        cases hrel
      | none =>
        refine ⟨_, .enter i a ht fun c hc ↦ hissued ▸ htoken c hc, hstate, hissued, ?_⟩
        exact rel_update hserving i (.some ⟨rfl, handle_masks A a⟩)
    | @exchange i a e k v w hcall hexec =>
      have hrel := hserving i
      rw [hcall] at hrel
      cases ht : t.serving i with
      | none =>
        rw [ht] at hrel
        cases hrel
      | some y =>
        rw [ht] at hrel
        cases hrel with
        | some hy =>
          obtain ⟨a', p'⟩ := y
          obtain ⟨rfl, halike⟩ := hy
          obtain ⟨k', rfl, hk⟩ := halike.of_call
          refine ⟨_, .exchange i (e.mask v) ht ?_, rfl, hissued, ?_⟩
          · exact hstate ▸ exec_masked hkeyed hexec
          · exact rel_update hserving i (.some ⟨rfl, hk v⟩)
    | @finish i a p r hcall houtcome =>
      have hrel := hserving i
      rw [hcall] at hrel
      cases ht : t.serving i with
      | none =>
        rw [ht] at hrel
        cases hrel
      | some y =>
        rw [ht] at hrel
        cases hrel with
        | some hy =>
          obtain ⟨a', p'⟩ := y
          obtain ⟨rfl, halike⟩ := hy
          have hend : p'.outcome = some (r.map maskAnswer) := by
            rw [halike.outcome, houtcome]
            rfl
          refine ⟨_, .finish i ht hend, hstate, ?_, rel_update hserving i .none⟩
          show _ ++ t.issued = _ ++ s.service.issued
          rw [tokens_mask, hissued]

/-- **The requests do not see the poller.** Take any run of the server from tables with proper keys,
and leave out what the poller does. What is left is a run of the requests alone, from the same
tables and with the same replies but for the two columns: it issues the same tokens, has the same
requests in service with programs that go the same way, and reaches the same tables. -/
theorem unseen {w : Fabric} (hw : w.Keyed) {acts : List (Server.Act Pid)} {s : Server Pid}
    (h : Trace (Server.Step A) (.start w) acts s) :
    ∃ t, Trace (Service.Step A) (.start w.masked) (acts.filterMap Server.Act.seen) t ∧
      s.service.Seen t := by
  have hstart : (Server.start w : Server Pid).service.Seen (.start w.masked) :=
    ⟨rfl, rfl, fun _ ↦ .none⟩
  obtain ⟨t, ht, -, hseen⟩ := h.simulation (R := fun s t ↦ s.service.state.Keyed ∧ s.service.Seen t)
    (fun s a m t ha hrel ↦ (step_seen ha hrel.1 hrel.2).mono fun _ hmn ↦
      ⟨keyed_of_server_trace (Trace.cons ha (Trace.nil m)) hrel.1, hmn⟩) ⟨hw, hstart⟩
  exact ⟨t, ht, hseen⟩

/-- Of a round that has written a status, the requests see nothing. -/
theorem unseen_round : ∃ s : Server Unit,
    s.service.state.routers = [sampleRouterRow.setStatus .off 7] ∧
      s.service.Seen (.start (sampleGranted "viewer").masked) := by
  obtain ⟨s, htrace, hrouters, -⟩ := trace_sampleTasks
  obtain ⟨t, ht, hseen⟩ := unseen keyed_sampleGranted htrace
  obtain rfl := trace_nil.1 ht
  exact ⟨s, hrouters, hseen⟩

end Simulation

end VyosFabric
