import VyosFabric.Polling.Statuses

/-!
# What the edits of a router come to

`PATCH /routers/{id}` writes eleven columns of a row, each in its own way: some keep what they hold
where nothing is sent, some are cleared, and the two secrets keep what they hold also where an empty
text is sent. The other statements of the requests and the poller write none of the eleven.

So after any run the columns are those the row began with, edited by the requests that were served
since, in the order in which they were (`settings_traced`). A secret is the last one that was sent
and was not empty: nothing clears it, and nobody else writes it.
-/

namespace VyosFabric

open Interaction

/-- The columns that an edit writes. -/
structure RouterSettings where
  hostname : String
  description : Option String
  mgmtIp : String
  version : String
  apiPort : Option Int
  apiProtocol : String
  apiKey : Option String
  apiTimeout : Int
  sshUsername : Option String
  sshPassword : Option String
  sshPort : Int
  deriving DecidableEq, Repr

namespace RouterRow

def settings (r : RouterRow) : RouterSettings :=
  ⟨r.hostname, r.description, r.mgmtIp, r.version, r.apiPort, r.apiProtocol, r.apiKey,
    r.apiTimeout, r.sshUsername, r.sshPassword, r.sshPort⟩

/-- The columns that nothing writes. -/
def fixed (r : RouterRow) : Uuid × Uuid × String × Int × Timestamp :=
  (r.id, r.siteId, r.role, r.uptimeSecs, r.createdAt)

end RouterRow

namespace UpdateRouter

/-- What an edit makes of the columns. -/
def write (body : UpdateRouter) (x : RouterSettings) : RouterSettings where
  hostname := body.hostname.getD x.hostname
  description := body.description
  mgmtIp := body.mgmtIp.getD x.mgmtIp
  version := body.version.getD x.version
  apiPort := body.apiPort
  apiProtocol := body.apiProtocol.getD x.apiProtocol
  apiKey := keepEmpty body.apiKey x.apiKey
  apiTimeout := body.apiTimeout.getD x.apiTimeout
  sshUsername := body.sshUsername
  sshPassword := keepEmpty body.sshPassword x.sshPassword
  sshPort := body.sshPort.getD x.sshPort

@[simp] theorem settings_apply (body : UpdateRouter) (now : Timestamp) (r : RouterRow) :
    (body.apply now r).settings = body.write r.settings := rfl

@[simp] theorem fixed_apply (body : UpdateRouter) (now : Timestamp) (r : RouterRow) :
    (body.apply now r).fixed = r.fixed := rfl

end UpdateRouter

/-- The columns after some edits, first to last. -/
def RouterSettings.edited (x : RouterSettings) (l : List UpdateRouter) : RouterSettings :=
  l.foldl (fun x body ↦ body.write x) x

/-- The last text that is not empty. -/
def lastTyped (l : List (Option String)) : Option String :=
  (l.filterMap fun o ↦ o.filter fun t ↦ t != "").getLast?

/-! ### Secrets -/

theorem lastTyped_snoc (l : List (Option String)) (o : Option String) :
    lastTyped (l ++ [o]) = (o.filter fun t ↦ t != "").or (lastTyped l) := by
  rw [lastTyped, List.filterMap_append, List.getLast?_append, lastTyped]
  cases ho : o.filter fun t ↦ t != "" <;> simp [ho]

theorem keepEmpty_eq (new old : Option String) :
    keepEmpty new old = (new.filter fun t ↦ t != "").or old := by
  cases new with
  | none => rfl
  | some t =>
    by_cases ht : t = "" <;> simp [keepEmpty, ht, Option.filter_some]

/-- **A secret is the last one that was typed.** -/
theorem edited_secret {secret : RouterSettings → Option String}
    {sent : UpdateRouter → Option String}
    (hwrite : ∀ (body : UpdateRouter) x, secret (body.write x) = keepEmpty (sent body) (secret x))
    (x : RouterSettings) (l : List UpdateRouter) :
    secret (x.edited l) = (lastTyped (l.map sent)).or (secret x) := by
  induction l using List.reverseRecOn with
  | nil => rfl
  | append_singleton l body ih =>
    have hlast : x.edited (l ++ [body]) = body.write (x.edited l) := List.foldl_append
    rw [hlast, hwrite, ih, keepEmpty_eq, List.map_append, List.map_singleton, lastTyped_snoc,
      Option.or_assoc]

/-! ### The edits of a run -/

variable {Pid : Type} [DecidableEq Pid] {A : Argon2} {s m s' : Server Pid}
  {acts : List (Server.Act Pid)}

/-- The edit of the router that an act is, if it finds the row. -/
def Server.Act.edit (id : Uuid) : Server.Act Pid → Option UpdateRouter
  | .serve (.exchange _ ⟨.updateRouter i body, .ok (some _)⟩) => if i = id then some body else none
  | _ => none

/-- The edits of the router, in the order in which they were served. -/
def edits (id : Uuid) (acts : List (Server.Act Pid)) : List UpdateRouter :=
  acts.filterMap (Server.Act.edit id)

omit [DecidableEq Pid] in
theorem edits_append (id : Uuid) (acts more : List (Server.Act Pid)) :
    edits id (acts ++ more) = edits id acts ++ edits id more := List.filterMap_append

/-- `r` was there at the start or was added on the way, and `later` is what happened since. -/
inductive Origin (s : Server Pid) (acts : List (Server.Act Pid)) :
    RouterRow → List (Server.Act Pid) → Prop
  | there {r : RouterRow} : r ∈ s.service.state.routers → Origin s acts r acts
  | added {a b : List (Server.Act Pid)} {i : Pid} {body : CreateRouter} {r : RouterRow}
      {w : Fabric} :
      acts = a ++ .serve (.exchange i ⟨.insertRouter body, .ok r⟩) :: b →
      s.service.state.nextId ≤ w.nextId → r = w.newRouter r.createdAt body → Origin s acts r b

omit [DecidableEq Pid] in
theorem Origin.snoc {r : RouterRow} {later : List (Server.Act Pid)} (h : Origin s acts r later)
    (x : Server.Act Pid) : Origin s (acts ++ [x]) r (later ++ [x]) := by
  cases h with
  | there hr => exact .there hr
  | @added a b i body r w heq hnew hrow =>
    refine .added (a := a) (i := i) ?_ hnew hrow
    rw [heq, List.append_assoc, List.cons_append]

/-- A row as it was before, but for one edit. -/
def EditedFrom (rows : List RouterRow) (l : List UpdateRouter) (r' : RouterRow) : Prop :=
  ∃ r ∈ rows, r'.fixed = r.fixed ∧ r'.settings = r.settings.edited l

theorem editedFrom_of_mem {rows : List RouterRow} {r' : RouterRow} (h : r' ∈ rows) :
    EditedFrom rows [] r' :=
  ⟨r', h, rfl, rfl⟩

omit [DecidableEq Pid] in
/-- **What a statement of a request makes of the columns.** -/
theorem settings_of_exec {i : Pid} {e : FabricStatement} {v : e.Reply} {w w' : Fabric}
    (h : w.exec A e v = some w') {r' : RouterRow} (hr : r' ∈ w'.routers) :
    EditedFrom w.routers (edits r'.id [.serve (.exchange i ⟨e, v⟩)]) r' ∨
      ∃ body, (⟨e, v⟩ : FabricEvent) = ⟨.insertRouter body, .ok r'⟩ ∧
        r' = w.newRouter r'.createdAt body := by
  rw [(exec_around h).2.2.1] at hr
  cases v with
  | error err => cases e <;> exact Or.inl (editedFrom_of_mem hr)
  | ok x =>
    cases e with
    | insertRouter body =>
      rcases List.mem_append.1 hr with hr | hr
      · exact Or.inl (editedFrom_of_mem hr)
      · obtain rfl := List.mem_singleton.1 hr
        obtain ⟨⟨hrow, -⟩, -⟩ := of_guarded h
        exact Or.inr ⟨body, rfl, hrow⟩
    | updateRouter id body =>
      cases x with
      | none => exact Or.inl (editedFrom_of_mem hr)
      | some row =>
        obtain ⟨r, hmem, rfl⟩ := List.mem_map.1 hr
        refine Or.inl ⟨r, hmem, ?_⟩
        by_cases hid : r.id = id
        · subst hid
          rw [if_pos rfl]
          refine ⟨rfl, ?_⟩
          show _ = r.settings.edited (if r.id = r.id then some body else none).toList
          rw [if_pos rfl]
          rfl
        · rw [if_neg hid]
          refine ⟨rfl, ?_⟩
          have hnone : edits r.id ([.serve (.exchange i ⟨.updateRouter id body,
              .ok (some row)⟩)] : List (Server.Act Pid)) = [] := by
            rw [edits, List.filterMap_cons, Server.Act.edit, if_neg (Ne.symm hid)]
            rfl
          rw [hnone]
          rfl
    | deleteRouter | deleteSite => exact Or.inl (editedFrom_of_mem (List.mem_of_mem_filter hr))
    | _ => exact Or.inl (editedFrom_of_mem hr)

/-- The poller writes none of the columns. -/
theorem settings_of_poll {e : PollStatement} {v : e.Reply} {w w' : Fabric}
    (h : w.poll e v = some w') {r' : RouterRow} (hr : r' ∈ w'.routers) :
    EditedFrom w.routers [] r' := by
  cases v with
  | error err =>
    obtain rfl : w = w' := by cases e <;> exact Option.some.inj h
    exact editedFrom_of_mem hr
  | ok x =>
    cases e with
    | selectDevices =>
      obtain ⟨-, rfl⟩ := of_guarded h
      exact editedFrom_of_mem hr
    | showConfig =>
      obtain rfl := Option.some.inj h
      exact editedFrom_of_mem hr
    | setStatus status id =>
      obtain rfl := Option.some.inj h
      obtain ⟨r, hmem, rfl⟩ := List.mem_map.1 hr
      refine ⟨r, hmem, ?_⟩
      split <;> exact ⟨rfl, rfl⟩

/-- **What one act makes of the columns.** -/
theorem settings_of_step {a : Server.Act Pid} (h : Server.Step A s a s') {r' : RouterRow}
    (hr : r' ∈ s'.service.state.routers) :
    EditedFrom s.service.state.routers (edits r'.id [a]) r' ∨
      ∃ i body, a = .serve (.exchange i ⟨.insertRouter body, .ok r'⟩) ∧
        r' = s.service.state.newRouter r'.createdAt body := by
  cases h with
  | serve a hs =>
    cases hs with
    | enter | finish => exact Or.inl (editedFrom_of_mem hr)
    | exchange i v hcall hexec =>
      rcases settings_of_exec (i := i) hexec hr with hold | ⟨body, heq, hrow⟩
      · exact Or.inl hold
      · exact Or.inr ⟨i, body, by rw [heq], hrow⟩
  | tick v hended hpoll => exact Or.inl (settings_of_poll hpoll hr)
  | task j v hcall hpoll => exact Or.inl (settings_of_poll hpoll hr)

/-- **What the edits of a router come to.** In any run of the server, a router that is there at the
end was there at the start or was added on the way. Since then its identity, its site, its role, its
uptime and its creation are unchanged, what an edit writes is what the edits of the router made of
it, one after the other as they were served, and each of its secrets is the last one that was typed
in an edit, if any was. -/
theorem settings_traced (h : Trace (Server.Step A) s acts s') {r' : RouterRow}
    (hr : r' ∈ s'.service.state.routers) :
    ∃ r later, Origin s acts r later ∧ r'.fixed = r.fixed ∧
      r'.settings = r.settings.edited (edits r'.id later) ∧
      r'.apiKey = (lastTyped ((edits r'.id later).map UpdateRouter.apiKey)).or r.apiKey ∧
      r'.sshPassword =
        (lastTyped ((edits r'.id later).map UpdateRouter.sshPassword)).or r.sshPassword := by
  suffices hrun : ∃ r later, Origin s acts r later ∧ r'.fixed = r.fixed ∧
      r'.settings = r.settings.edited (edits r'.id later) by
    obtain ⟨r, later, horigin, hfixed, hsettings⟩ := hrun
    refine ⟨r, later, horigin, hfixed, hsettings, ?_, ?_⟩
    · rw [show r'.apiKey = r'.settings.apiKey from rfl, hsettings]
      exact edited_secret (fun _ _ ↦ rfl) _ _
    · rw [show r'.sshPassword = r'.settings.sshPassword from rfl, hsettings]
      exact edited_secret (fun _ _ ↦ rfl) _ _
  refine h.from_end (P := fun acts (m : Server Pid) ↦ ∀ r' ∈ m.service.state.routers,
      ∃ r later, Origin s acts r later ∧ r'.fixed = r.fixed ∧
        r'.settings = r.settings.edited (edits r'.id later))
    (fun r' hr ↦ ⟨r', [], .there hr, rfl, rfl⟩) (fun tr m a m' htr ha ih r' hr ↦ ?_) r' hr
  rcases settings_of_step ha hr with ⟨r₁, hmem, hfixed₁, hsettings₁⟩ | ⟨i, body, rfl, hrow⟩
  · obtain ⟨r, later, horigin, hfixed, hsettings⟩ := ih r₁ hmem
    have hid : r'.id = r₁.id := congrArg Prod.fst hfixed₁
    refine ⟨r, later ++ [a], horigin.snoc a, hfixed₁.trans hfixed, ?_⟩
    rw [hsettings₁, hsettings, edits_append, ← hid]
    exact List.foldl_append.symm
  · exact ⟨r', [], .added rfl (nextId_le_of_trace htr) hrow, rfl, rfl⟩

/-! ### An edit that is served -/

/-- An admin's edit comes in and is served. -/
theorem exists_edit {i : Pid} {claims : Claims} {id : Uuid} {body : UpdateRouter} {row : RouterRow}
    {w : Fabric} (hfree : s.service.serving i = none) (hissued : claims ∈ s.service.issued)
    (hadmin : claims.isAdmin = true)
    (hexec : s.service.state.exec A (.updateRouter id body) (.ok (some row)) = some w) :
    ∃ m s', Server.Step A s (.serve (.enter i (.call ⟨claims, .router id (.update body)⟩))) m ∧
      Server.Step A m (.serve (.exchange i ⟨.updateRouter id body, .ok (some row)⟩)) s' ∧
      s'.service.state = w ∧ s'.service.issued = s.service.issued ∧
      ∀ j ≠ i, s'.service.serving j = s.service.serving j := by
  have hpass : adminOnly claims = .ret () := if_pos hadmin
  have hhandle : ∃ k, (Arrival.call ⟨claims, .router id (.update body)⟩).handle A =
      .call (.updateRouter id body) k := by
    apply Exists.intro
    show Sum.inr <$> (Answer.router <$> updateRouter claims id body) = _
    rw [updateRouter, hpass]
    exact rfl
  obtain ⟨k, hk⟩ := hhandle
  have hcalls : ∀ c, Arrival.call ⟨claims, .router id (.update body)⟩ = .call c →
      c.claims ∈ s.service.issued := by
    rintro c heq
    cases heq
    exact hissued
  have henter := Service.Step.enter (A := A) i _ hfree hcalls
  rw [hk] at henter
  have hserving := Function.update_self i
    (some (Arrival.call ⟨claims, .router id (.update body)⟩, .call (.updateRouter id body) k))
    s.service.serving
  refine ⟨{ s with service := _ }, _, .serve _ henter, .serve _ (.exchange i _ hserving hexec),
    rfl, rfl, fun j hj ↦ ?_⟩
  exact (Function.update_of_ne hj ..).trans (Function.update_of_ne hj ..)

/-! ### An edit on the sample tables -/

/-- The sample tables, with the token of an admin. -/
def sampleAdminServer : Server ℕ where
  service := { Service.start (sampleGranted "viewer") with issued := [⟨2, "admin"⟩] }
  round := []

/-- A host name and a key. -/
def sampleRename : UpdateRouter :=
  ⟨some "r1", none, none, none, none, none, some "new", none, none, none, none⟩

def sampleRenamed : RouterRow := { sampleRouterRow with hostname := "r1", apiKey := some "new" }

/-- The request comes in and is served. -/
def sampleRenameActs : List (Server.Act ℕ) :=
  [.serve (.enter 0 (.call ⟨⟨2, "admin"⟩, .router 0 (.update sampleRename)⟩)),
    .serve (.exchange 0 ⟨.updateRouter 0 sampleRename, .ok (some sampleRenamed)⟩)]

theorem trace_sampleRename : ∃ m,
    Trace (Server.Step sampleArgon2) sampleAdminServer sampleRenameActs m ∧
    m.service.state = { sampleGranted "viewer" with routers := [sampleRenamed] } ∧
    m.service.issued = [⟨2, "admin"⟩] ∧ ∀ j ≠ 0, m.service.serving j = none := by
  have hadmin : (⟨2, "admin"⟩ : Claims).isAdmin = true := by decide
  have hexec : sampleAdminServer.service.state.exec sampleArgon2 (.updateRouter 0 sampleRename)
      (.ok (some sampleRenamed)) =
      some { sampleGranted "viewer" with routers := [sampleRenamed] } := rfl
  obtain ⟨m₁, m, henter, hserve, hstate, hissued, hfree⟩ :=
    exists_edit (i := 0) rfl List.mem_cons_self hadmin hexec
  exact ⟨m, .cons henter (.cons hserve (.nil m)), hstate, hissued, hfree⟩

/-- The row was there, and the edit gave it its name and its key. -/
theorem settings_traced_edit : ∃ r later, Origin sampleAdminServer sampleRenameActs r later ∧
    sampleRenamed.fixed = r.fixed ∧
    sampleRenamed.settings = r.settings.edited (edits 0 later) ∧
    some "new" = (lastTyped ((edits 0 later).map UpdateRouter.apiKey)).or r.apiKey ∧
    none = (lastTyped ((edits 0 later).map UpdateRouter.sshPassword)).or r.sshPassword := by
  obtain ⟨m, htrace, hstate, -, -⟩ := trace_sampleRename
  have hmem : sampleRenamed ∈ m.service.state.routers := hstate ▸ List.mem_cons_self
  exact settings_traced htrace hmem

end VyosFabric
