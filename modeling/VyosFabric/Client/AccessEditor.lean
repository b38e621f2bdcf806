import VyosFabric.Access.Grants
import VyosFabric.Interaction.LastWrite
import VyosFabric.Interaction.Trace
import VyosFabric.Routes.Users

/-!
# The site access of a user, edited

The user editor shows the grants of one user and changes them one request at a time. A role that is
changed and a grant that is removed show at once, before the request is answered; a grant that is
added shows when it is. No answer is looked at, and nothing keeps the requests in order on their way
to the server.

What the editor shows is what was sent last for each site, and what the server holds is what was
served last. So the two agree on a site for which every request was served, in the order they were
sent (`accessEditor_agrees`).
-/

namespace VyosFabric

open Interaction

/-! ### The editor -/

/-- A request of the editor. -/
inductive AccessRequest where
  | grant (siteId : Uuid) (role : String)
  | revoke (siteId : Uuid)
  deriving DecidableEq, Repr

namespace AccessRequest

/-- What the request makes of the user's role on a site. -/
def write : AccessRequest → Uuid × Option String
  | grant siteId role => (siteId, some role)
  | revoke siteId => (siteId, none)

/-- The statement of its handler. -/
@[reducible]
def statement (userId : Uuid) : AccessRequest → FabricStatement
  | grant siteId role => .insertAccess ⟨userId, siteId, role⟩
  | revoke siteId => .deleteAccess userId siteId

end AccessRequest

/-- What the editor shows; no `newSiteId` is the placeholder of the list. -/
structure AccessEditor where
  access : List SiteAccessEntry
  newSiteId : Option Uuid
  newRole : String
  accessWorking : Bool
  deriving DecidableEq, Repr

namespace AccessEditor

def start (access : List SiteAccessEntry) : AccessEditor := ⟨access, none, "viewer", false⟩

/-- The sites that can be added. -/
def available (e : AccessEditor) (sites : List Site) : List Site :=
  sites.filter fun s ↦ !e.access.any fun a ↦ a.siteId == s.id

/-- The row that an addition adds once it is answered. -/
def newRow (e : AccessEditor) (sites : List Site) (siteId : Uuid) : SiteAccessEntry :=
  ⟨siteId, ((sites.find? fun s ↦ s.id == siteId).map Site.name).getD "", e.newRole⟩

/-- `addAccess`, after its `await`. -/
def added (e : AccessEditor) (row : SiteAccessEntry) : AccessEditor :=
  { e with access := e.access ++ [row], newSiteId := none, accessWorking := false }

/-- What an answer does; only an addition waits for it. -/
def answered (e : AccessEditor) : Option SiteAccessEntry → AccessEditor
  | some row => e.added row
  | none => e

/-- `changeRole`, before its `await`. -/
def changeRole (e : AccessEditor) (siteId : Uuid) (role : String) : AccessEditor :=
  { e with access := e.access.map fun a ↦ if a.siteId = siteId then { a with role := role } else a }

/-- `removeAccess`, before its `await`. -/
def removeAccess (e : AccessEditor) (siteId : Uuid) : AccessEditor :=
  { e with access := e.access.filter fun a ↦ a.siteId != siteId }

/-- The role that the editor shows on a site. -/
def shown (e : AccessEditor) : Uuid → Option String :=
  valueAt SiteAccessEntry.siteId SiteAccessEntry.role e.access

end AccessEditor

/-! ### The editor and the server -/

/-- A request that was sent. `adds` is the row that its answer adds. -/
structure AccessCall where
  request : AccessRequest
  adds : Option SiteAccessEntry
  served : Bool
  awaited : Bool
  deriving DecidableEq, Repr

/-- The editor, the tables, and what was sent, in the order in which it was. -/
structure AccessDesk where
  editor : AccessEditor
  server : Fabric
  calls : List AccessCall

/-- The statement writes grants of the user. -/
def FabricStatement.writesGrants (userId : Uuid) : FabricStatement → Bool
  | .insertAccess a => a.userId == userId
  | .deleteAccess u _ => u == userId
  | .deleteUser u => u == userId
  | .deleteSite _ => true
  | _ => false

namespace AccessDesk

/-- What can happen. -/
inductive Act where
  /-- A site is chosen in the list of those that can be added. -/
  | pickSite (site : Option Uuid)
  | pickRole (role : String)
  | add (siteId : Uuid)
  | changeRole (siteId : Uuid) (role : String)
  | remove (siteId : Uuid)
  /-- The server serves the call `j`. -/
  | serve (j : ℕ) (request : AccessRequest)
  /-- The server fails to. -/
  | refuse (j : ℕ)
  /-- Its answer reaches the editor. -/
  | answer (j : ℕ)
  /-- The call fails on the way, and the editor hears of that. -/
  | lose (j : ℕ)
  /-- Any statement that does not write grants of the user. So nobody else grants or revokes access
  of this user meanwhile, and neither the user nor a site is deleted. -/
  | other (x : FabricEvent)

/-- What is sent, with the row its answer adds. -/
def send (d : AccessDesk) (editor : AccessEditor) (request : AccessRequest)
    (adds : Option SiteAccessEntry) : AccessDesk :=
  { d with editor := editor, calls := d.calls ++ [⟨request, adds, false, true⟩] }

variable (A : Argon2) (sites : List Site) (userId : Uuid)

/-- One step. -/
inductive Step : AccessDesk → Act → AccessDesk → Prop
  | pickSite {d : AccessDesk} (site : Option Uuid) :
      (∀ s, site = some s → s ∈ (d.editor.available sites).map Site.id) →
      Step d (.pickSite site) { d with editor := { d.editor with newSiteId := site } }
  | pickRole {d : AccessDesk} (role : String) :
      Step d (.pickRole role) { d with editor := { d.editor with newRole := role } }
  | add {d : AccessDesk} (siteId : Uuid) :
      d.editor.newSiteId = some siteId → d.editor.accessWorking = false →
      Step d (.add siteId) (d.send { d.editor with accessWorking := true }
        (.grant siteId d.editor.newRole) (some (d.editor.newRow sites siteId)))
  | changeRole {d : AccessDesk} (siteId : Uuid) (role : String) :
      siteId ∈ d.editor.access.map SiteAccessEntry.siteId →
      Step d (.changeRole siteId role)
        (d.send (d.editor.changeRole siteId role) (.grant siteId role) none)
  | remove {d : AccessDesk} (siteId : Uuid) :
      siteId ∈ d.editor.access.map SiteAccessEntry.siteId →
      Step d (.remove siteId) (d.send (d.editor.removeAccess siteId) (.revoke siteId) none)
  | serve {d : AccessDesk} (j : ℕ) {c : AccessCall} {v : (c.request.statement userId).Value}
      {w : Fabric} :
      d.calls[j]? = some c → c.served = false →
      d.server.exec A (c.request.statement userId) (.ok v) = some w →
      Step d (.serve j c.request)
        { d with server := w, calls := d.calls.set j { c with served := true } }
  | refuse {d : AccessDesk} (j : ℕ) {c : AccessCall} :
      d.calls[j]? = some c → c.served = false →
      Step d (.refuse j) { d with calls := d.calls.set j { c with served := true } }
  | answer {d : AccessDesk} (j : ℕ) {c : AccessCall} :
      d.calls[j]? = some c → c.served = true → c.awaited = true →
      Step d (.answer j)
        { d with
          editor := d.editor.answered c.adds
          calls := d.calls.set j { c with awaited := false } }
  | lose {d : AccessDesk} (j : ℕ) {c : AccessCall} :
      d.calls[j]? = some c → c.awaited = true →
      Step d (.lose j) { d with calls := d.calls.set j { c with awaited := false } }
  | other {d : AccessDesk} (x : FabricEvent) {w : Fabric} :
      x.1.writesGrants userId = false → d.server.exec A x.1 x.2 = some w →
      Step d (.other x) { d with server := w }

/-- The editor opens on what the server holds. -/
def start (w : Fabric) (access : List SiteAccessEntry) : AccessDesk := ⟨.start access, w, []⟩

/-- What was sent, as writes. -/
def sent (d : AccessDesk) : List (Uuid × Option String) := d.calls.map fun c ↦ c.request.write

/-- What was served, as writes. -/
def served (acts : List Act) : List (Uuid × Option String) :=
  acts.filterMap fun a ↦ match a with
    | .serve _ request => some request.write
    | _ => none

end AccessDesk

/-- A grant is found by its user and its site. -/
def SiteAccess.key (a : SiteAccess) : Uuid × Uuid := (a.userId, a.siteId)

/-- The role the server holds for the user on a site. -/
def Fabric.roleOn (w : Fabric) (userId siteId : Uuid) : Option String :=
  valueAt SiteAccess.key SiteAccess.role w.userSiteAccess (userId, siteId)

/-! ### What the editor shows -/

section Shown

variable {e : AccessEditor} {s : Uuid} {role : String}

theorem shown_changeRole (h : s ∈ e.access.map SiteAccessEntry.siteId) :
    (e.changeRole s role).shown = Function.update e.shown s (some role) :=
  valueAt_rewrite (f := fun a : SiteAccessEntry ↦ { a with role := role }) (fun _ ↦ rfl)
    (fun _ ↦ rfl) h

theorem shown_removeAccess (e : AccessEditor) (s : Uuid) :
    (e.removeAccess s).shown = Function.update e.shown s none :=
  valueAt_filter SiteAccessEntry.siteId _ e.access s

theorem shown_added {row : SiteAccessEntry} (h : row.siteId ∉ e.access.map SiteAccessEntry.siteId) :
    (e.added row).shown = Function.update e.shown row.siteId (some row.role) :=
  valueAt_append h

end Shown

/-! ### What the server holds -/

section Held

variable {A : Argon2} {w w' : Fabric} {userId : Uuid}

/-- The role of every grant. -/
abbrev Fabric.roles (w : Fabric) : Uuid × Uuid → Option String :=
  valueAt SiteAccess.key SiteAccess.role w.userSiteAccess

theorem key_eq_iff {a b : SiteAccess} :
    (b.userId == a.userId && b.siteId == a.siteId) = true ↔ b.key = a.key := by
  simp [SiteAccess.key]

/-- An upsert writes the role of its grant. -/
theorem roles_grant (w : Fabric) (a : SiteAccess) :
    (w.grant a).roles = Function.update w.roles a.key (some a.role) := by
  rw [Fabric.roles, Fabric.grant]
  dsimp only
  by_cases hany : w.userSiteAccess.any (fun b ↦ b.userId == a.userId && b.siteId == a.siteId) = true
  · have hmem : a.key ∈ w.userSiteAccess.map SiteAccess.key := by
      obtain ⟨b, hb, hclash⟩ := List.any_eq_true.1 hany
      exact List.mem_map.2 ⟨b, hb, key_eq_iff.1 hclash⟩
    rw [if_pos hany]
    simp only [key_eq_iff]
    exact valueAt_rewrite (f := fun b : SiteAccess ↦ { b with role := a.role }) (fun _ ↦ rfl)
      (fun _ ↦ rfl) hmem
  · rw [if_neg hany]
    refine valueAt_append fun hmem ↦ hany ?_
    obtain ⟨b, hb, hkey⟩ := List.mem_map.1 hmem
    exact List.any_eq_true.2 ⟨b, hb, key_eq_iff.2 hkey⟩

/-- A revocation removes its grant. -/
theorem roles_revoke (rows : List SiteAccess) (u s : Uuid) :
    valueAt SiteAccess.key SiteAccess.role
        (rows.filter fun a ↦ !(a.userId == u && a.siteId == s)) =
      Function.update (valueAt SiteAccess.key SiteAccess.role rows) (u, s) none := by
  rw [← valueAt_filter]
  congr 2
  funext a
  rw [Bool.eq_iff_iff]
  simp only [Bool.not_eq_true', Bool.and_eq_false_iff, beq_eq_false_iff_ne, bne_iff_ne,
    SiteAccess.key, ne_eq, Prod.mk.injEq, not_and_or]

/-- One user's part of a write. -/
theorem update_pair {f : Uuid × Uuid → Option String} (u s : Uuid) (x : Option String) :
    (fun s' ↦ Function.update f (u, s) x (u, s')) = Function.update (fun s' ↦ f (u, s')) s x := by
  funext s'
  by_cases hs : s' = s
  · rw [hs, Function.update_self, Function.update_self]
  · rw [Function.update_of_ne hs, Function.update_of_ne fun h ↦ hs (Prod.mk.inj h).2]

/-- **A served request** writes the role on its site. -/
theorem roleOn_serve {r : AccessRequest} {v : (r.statement userId).Value}
    (h : w.exec A (r.statement userId) (.ok v) = some w') :
    w'.roleOn userId = Function.update (w.roleOn userId) r.write.1 r.write.2 := by
  cases r with
  | grant s role =>
    obtain ⟨-, rfl⟩ := of_guarded h
    refine Eq.trans ?_ (update_pair userId s (some role))
    funext s'
    exact congrFun (roles_grant w ⟨userId, s, role⟩) (userId, s')
  | revoke s =>
    obtain ⟨-, rfl⟩ := of_guarded h
    refine Eq.trans ?_ (update_pair userId s none)
    funext s'
    exact congrFun (roles_revoke w.userSiteAccess userId s) (userId, s')

/-- A write for another user. -/
theorem update_other {f : Uuid × Uuid → Option String} {u : Uuid} {k : Uuid × Uuid}
    (hk : k.1 ≠ u) (x : Option String) (s : Uuid) : Function.update f k x (u, s) = f (u, s) := by
  refine Function.update_of_ne ?_ _ _
  rintro rfl
  exact hk rfl

/-- **Other statements** leave the user's grants alone. -/
theorem roleOn_other {s : FabricStatement} {v : s.Reply} (hs : s.writesGrants userId = false)
    (h : w.exec A s v = some w') : w'.roleOn userId = w.roleOn userId := by
  cases v with
  | error e => rw [exec_fault h]
  | ok x =>
    cases s with
    | insertAccess a =>
      obtain ⟨-, rfl⟩ := of_guarded h
      funext s'
      refine (congrFun (roles_grant w a) (userId, s')).trans (update_other ?_ _ s')
      exact fun heq ↦ by simp [FabricStatement.writesGrants, ← heq, SiteAccess.key] at hs
    | deleteAccess u k =>
      obtain ⟨-, rfl⟩ := of_guarded h
      funext s'
      refine (congrFun (roles_revoke w.userSiteAccess u k) (userId, s')).trans
        (update_other ?_ _ s')
      exact fun heq ↦ by simp [FabricStatement.writesGrants, ← heq] at hs
    | deleteUser u =>
      obtain ⟨-, rfl⟩ := of_guarded h
      have hne : u ≠ userId := by simpa [FabricStatement.writesGrants] using hs
      funext s'
      refine (congrArg (Option.map SiteAccess.role) (List.find?_filter)).trans ?_
      refine congrArg (fun p ↦ (w.userSiteAccess.find? p).map SiteAccess.role) (funext fun a ↦ ?_)
      by_cases ha : a.key = (userId, s')
      · have hu : a.userId = userId := (Prod.mk.inj ha).1
        simp [ha, hu, hne.symm]
      · simp [ha]
    | deleteSite id => cases hs
    | review s =>
      obtain ⟨db, -, rfl⟩ := Option.map_eq_some_iff.1 h
      rfl
    | post | info =>
      obtain rfl := Option.some.inj h
      rfl
    | updateRouter id body =>
      cases x <;> (obtain ⟨-, rfl⟩ := of_guarded h; rfl)
    | _ =>
      obtain ⟨-, rfl⟩ := of_guarded h
      rfl

end Held

/-! ### What is on its way -/

/-- The call `i` is an addition whose answer the editor waits for. -/
def Adding (calls : List AccessCall) (i : ℕ) (row : SiteAccessEntry) : Prop :=
  ∃ c, calls[i]? = some c ∧ c.adds = some row ∧ c.awaited = true

section Calls

variable {calls : List AccessCall} {c c' : AccessCall} {i j : ℕ} {row : SiteAccessEntry}

theorem adding_send {request : AccessRequest} {adds : Option SiteAccessEntry}
    (h : Adding (calls ++ [⟨request, adds, false, true⟩]) i row) :
    Adding calls i row ∨ i = calls.length ∧ adds = some row := by
  obtain ⟨c, hc, hadds, hawaited⟩ := h
  by_cases hi : i < calls.length
  · rw [List.getElem?_append_left hi] at hc
    exact Or.inl ⟨c, hc, hadds, hawaited⟩
  · rw [List.getElem?_append_right (Nat.le_of_not_lt hi)] at hc
    have hlt := (List.getElem?_eq_some_iff.1 hc).1
    rw [List.length_singleton] at hlt
    have hzero : i - calls.length = 0 := by omega
    rw [hzero] at hc
    obtain rfl := Option.some.inj hc
    exact Or.inr ⟨by omega, hadds⟩

/-- A call changes on its way. -/
theorem adding_set (h : Adding (calls.set j c') i row) (hc : calls[j]? = some c)
    (hadds : c'.adds = c.adds) (hawaited : c'.awaited = true → c.awaited = true) :
    Adding calls i row := by
  obtain ⟨d, hd, hrow, hwait⟩ := h
  by_cases hij : j = i
  · subst hij
    have hlt := (List.getElem?_eq_some_iff.1 hc).1
    rw [List.getElem?_set_self hlt] at hd
    obtain rfl := Option.some.inj hd
    exact ⟨c, hc, hadds ▸ hrow, hawaited hwait⟩
  · rw [List.getElem?_set_ne hij] at hd
    exact ⟨d, hd, hrow, hwait⟩

/-- A call that is no longer awaited adds nothing. -/
theorem not_adding_set (hwait : c'.awaited = false) : ¬Adding (calls.set j c') j row := by
  rintro ⟨d, hd, -, hawaited⟩
  have hlt := (List.getElem?_eq_some_iff.1 hd).1
  rw [List.length_set] at hlt
  rw [List.getElem?_set_self hlt] at hd
  obtain rfl := Option.some.inj hd
  rw [hwait] at hawaited
  cases hawaited

/-- What was sent stays what it is. -/
theorem map_request_set (hc : calls[j]? = some c) (hrequest : c'.request = c.request) :
    (calls.set j c').map (fun c ↦ c.request.write) = calls.map fun c ↦ c.request.write := by
  have hlt := (List.getElem?_eq_some_iff.1 hc).1
  refine List.ext_getElem? fun i ↦ ?_
  rw [List.getElem?_map, List.getElem?_map]
  by_cases hij : j = i
  · subst hij
    rw [List.getElem?_set_self hlt, hc, Option.map_some, Option.map_some, hrequest]
  · rw [List.getElem?_set_ne hij]

end Calls

namespace AccessDesk

variable {A : Argon2} {sites : List Site} {userId : Uuid} {init : Uuid → Option String}
  {d d' : AccessDesk} {a : Act}

/-- What the editor shows is what was sent, except for an addition that is not answered: its site is
not listed, and only its answer can list it. -/
structure Shows (init : Uuid → Option String) (d : AccessDesk) : Prop where
  nodup : (d.editor.access.map SiteAccessEntry.siteId).Nodup
  fresh : ∀ s, d.editor.newSiteId = some s → s ∉ d.editor.access.map SiteAccessEntry.siteId
  idle : d.editor.accessWorking = false →
    (∀ i row, ¬Adding d.calls i row) ∧ d.editor.shown = written init d.sent
  busy : d.editor.accessWorking = true → ∃ i row,
    row.siteId ∉ d.editor.access.map SiteAccessEntry.siteId ∧
      (∀ i' row', Adding d.calls i' row' → i' = i ∧ row' = row) ∧
      Function.update d.editor.shown row.siteId (some row.role) = written init d.sent

theorem sent_send (d : AccessDesk) (editor : AccessEditor) (request : AccessRequest)
    (adds : Option SiteAccessEntry) :
    (d.send editor request adds).sent = d.sent ++ [request.write] := by
  rw [sent, send, List.map_append]
  rfl

/-- A call changes on its way, and the editor does not. -/
theorem Shows.set {c c' : AccessCall} {j : ℕ} {w : Fabric} (hd : d.Shows init)
    (hc : d.calls[j]? = some c) (hrequest : c'.request = c.request) (hadds : c'.adds = c.adds)
    (hawaited : c'.awaited = true → c.awaited = true) :
    Shows init { d with server := w, calls := d.calls.set j c' } := by
  have hsent : (d.calls.set j c').map (fun c ↦ c.request.write) = d.sent :=
    map_request_set hc hrequest
  refine ⟨hd.nodup, hd.fresh, fun hidle ↦ ?_, fun hbusy ↦ ?_⟩
  · obtain ⟨hnone, hshown⟩ := hd.idle hidle
    refine ⟨fun i row h ↦ hnone i row (adding_set h hc hadds hawaited), ?_⟩
    rw [sent, hsent]
    exact hshown
  · obtain ⟨i, row, hsite, honly, hshown⟩ := hd.busy hbusy
    refine ⟨i, row, hsite, fun i' row' h ↦ honly i' row' (adding_set h hc hadds hawaited), ?_⟩
    rw [sent, hsent]
    exact hshown

/-- A row that is listed is rewritten or removed, and the request for it is sent. -/
theorem Shows.rewrite {editor : AccessEditor} {request : AccessRequest} (hd : d.Shows init)
    (hnodup : (editor.access.map SiteAccessEntry.siteId).Nodup)
    (hsub : ∀ s ∈ editor.access.map SiteAccessEntry.siteId,
      s ∈ d.editor.access.map SiteAccessEntry.siteId)
    (hmem : request.write.1 ∈ d.editor.access.map SiteAccessEntry.siteId)
    (hsite : editor.newSiteId = d.editor.newSiteId)
    (hworking : editor.accessWorking = d.editor.accessWorking)
    (hshown : editor.shown = Function.update d.editor.shown request.write.1 request.write.2) :
    (d.send editor request none).Shows init := by
  have hadding : ∀ {i row}, Adding (d.send editor request none).calls i row →
      Adding d.calls i row := by
    intro i row h
    rcases adding_send h with hold | ⟨-, hrow⟩
    · exact hold
    · cases hrow
  refine ⟨hnodup, fun s hs hs' ↦ hd.fresh s (hsite ▸ hs) (hsub s hs'), fun hidle ↦ ?_,
    fun hbusy ↦ ?_⟩
  · obtain ⟨hnone, hold⟩ := hd.idle (hworking ▸ hidle)
    refine ⟨fun i row h ↦ hnone i row (hadding h), ?_⟩
    rw [sent_send, written_snoc, ← hold]
    exact hshown
  · obtain ⟨i, row, hrow, honly, hold⟩ := hd.busy (hworking ▸ hbusy)
    have hne : row.siteId ≠ request.write.1 := fun heq ↦ hrow (heq ▸ hmem)
    refine ⟨i, row, fun h ↦ hrow (hsub _ h), fun i' row' h ↦ honly i' row' (hadding h), ?_⟩
    rw [sent_send, written_snoc, ← hold, Function.update_comm hne]
    exact congrArg (fun f ↦ Function.update f row.siteId (some row.role)) hshown

/-- **One step** keeps it. -/
theorem shows_of_step (h : Step A sites userId d a d') (hd : d.Shows init) : d'.Shows init := by
  cases h with
  | pickSite site hsite =>
    refine ⟨hd.nodup, fun s hs ↦ ?_, hd.idle, hd.busy⟩
    obtain ⟨t, ht, rfl⟩ := List.mem_map.1 (hsite s hs)
    have havailable := (List.mem_filter.1 ht).2
    intro hmem
    obtain ⟨b, hb, hid⟩ := List.mem_map.1 hmem
    simp only [Bool.not_eq_true', List.any_eq_false, beq_iff_eq] at havailable
    exact havailable b hb hid
  | pickRole role => exact ⟨hd.nodup, hd.fresh, hd.idle, hd.busy⟩
  | add siteId hsite hidle =>
    obtain ⟨hnone, hshown⟩ := hd.idle hidle
    refine ⟨hd.nodup, hd.fresh, (fun h ↦ by cases h), fun _ ↦ ?_⟩
    refine ⟨d.calls.length, d.editor.newRow sites siteId, hd.fresh siteId hsite, ?_, ?_⟩
    · intro i row hadding
      rcases adding_send hadding with hold | ⟨hi, hrow⟩
      · exact absurd hold (hnone i row)
      · exact ⟨hi, (Option.some.inj hrow).symm⟩
    · rw [sent_send, written_snoc, ← hshown]
      rfl
  | changeRole siteId role hmem =>
    have hids : (d.editor.changeRole siteId role).access.map SiteAccessEntry.siteId =
        d.editor.access.map SiteAccessEntry.siteId := by
      refine map_key (fun a ↦ ?_) _
      split <;> rfl
    exact hd.rewrite (hids ▸ hd.nodup) (fun s hs ↦ hids ▸ hs) hmem rfl rfl (shown_changeRole hmem)
  | remove siteId hmem =>
    have hsub : ((d.editor.removeAccess siteId).access.map SiteAccessEntry.siteId).Sublist
        (d.editor.access.map SiteAccessEntry.siteId) :=
      List.filter_sublist.map _
    exact hd.rewrite (hd.nodup.sublist hsub) (fun s hs ↦ hsub.subset hs) hmem rfl rfl
      (shown_removeAccess d.editor siteId)
  | serve j hc hserved hexec => exact hd.set hc rfl rfl id
  | refuse j hc hserved => exact hd.set hc rfl rfl id
  | lose j hc hawaited => exact hd.set hc rfl rfl fun h ↦ by cases h
  | other x hx hexec => exact ⟨hd.nodup, hd.fresh, hd.idle, hd.busy⟩
  | @answer j c hc hserved hawaited =>
    have hadds' : ∀ {i row}, Adding (d.calls.set j { c with awaited := false }) i row →
        i ≠ j ∧ Adding d.calls i row := by
      intro i row h
      have hne : i ≠ j := by
        rintro rfl
        exact not_adding_set rfl h
      exact ⟨hne, adding_set h hc rfl fun h ↦ by cases h⟩
    obtain hadds | ⟨row, hadds⟩ : c.adds = none ∨ ∃ row, c.adds = some row := by
      cases c.adds <;> simp
    · rw [show d.editor.answered c.adds = d.editor by rw [hadds]; rfl]
      exact hd.set hc rfl rfl fun h ↦ by cases h
    · rw [show d.editor.answered c.adds = d.editor.added row by rw [hadds]; rfl]
      -- this is the addition that the editor waits for
      cases hworking : d.editor.accessWorking with
      | false => exact absurd ⟨c, hc, hadds, hawaited⟩ ((hd.idle hworking).1 j row)
      | true =>
        obtain ⟨i, row', hrow, honly, hshown⟩ := hd.busy hworking
        obtain ⟨rfl, rfl⟩ := honly j row ⟨c, hc, hadds, hawaited⟩
        refine ⟨?_, (fun s hs ↦ by cases hs), fun _ ↦ ⟨fun i row h ↦ ?_, ?_⟩, fun h ↦ by cases h⟩
        · show ((d.editor.access ++ [row]).map SiteAccessEntry.siteId).Nodup
          rw [List.map_append]
          exact hd.nodup.append (List.nodup_singleton _) (List.disjoint_singleton.2 hrow)
        · obtain ⟨hne, hold⟩ := hadds' h
          exact hne (honly i row hold).1
        · have hsent : (d.calls.set j { c with awaited := false }).map
              (fun c ↦ c.request.write) = d.sent := map_request_set hc rfl
          rw [sent, hsent]
          exact (shown_added hrow).trans hshown

/-- **What the server holds** is what was served. -/
theorem roleOn_of_step (h : Step A sites userId d a d') :
    d'.server.roleOn userId = written (d.server.roleOn userId) (served [a]) := by
  cases h with
  | serve j hc hserved hexec => exact roleOn_serve hexec
  | other x hx hexec => exact roleOn_other hx hexec
  | pickSite | pickRole | add | changeRole | remove | refuse | answer | lose => rfl

theorem served_append (acts acts' : List Act) :
    served (acts ++ acts') = served acts ++ served acts' :=
  List.filterMap_append

/-- **The editor and the server**, in any run from an editor that shows what the server holds, in
which nobody else writes the user's grants. No site is listed twice. For each site the server holds
the role that was served last, and while the editor does not wait for an addition it shows the role
that was sent last. So they agree on every site whose requests were all served, in the order they
were sent. -/
theorem accessEditor_agrees {w : Fabric} {access : List SiteAccessEntry} {acts : List Act}
    (hnodup : (access.map SiteAccessEntry.siteId).Nodup)
    (hstart : (AccessEditor.start access).shown = w.roleOn userId)
    (h : Trace (Step A sites userId) (start w access) acts d) :
    (d.editor.access.map SiteAccessEntry.siteId).Nodup ∧
      d.server.roleOn userId = written (w.roleOn userId) (served acts) ∧
      (d.editor.accessWorking = false →
        d.editor.shown = written (w.roleOn userId) d.sent ∧
        ∀ s, ((served acts).filter fun x ↦ x.1 = s) = (d.sent.filter fun x ↦ x.1 = s) →
          d.editor.shown s = d.server.roleOn userId s) := by
  have hheld : d.server.roleOn userId = written (w.roleOn userId) (served acts) := by
    refine h.from_end (P := fun acts (m : AccessDesk) ↦
      m.server.roleOn userId = written (w.roleOn userId) (served acts)) rfl ?_
    intro tr m a m' _ ha ih
    rw [served_append, written_append, ← ih]
    exact roleOn_of_step ha
  have hshows : d.Shows (w.roleOn userId) := by
    refine h.invariant (fun a _ m m' ha hm ↦ shows_of_step ha hm) ?_
    refine ⟨hnodup, (fun s hs ↦ by cases hs), fun _ ↦ ⟨fun i row hadding ↦ ?_, hstart⟩,
      fun hbusy ↦ by cases hbusy⟩
    obtain ⟨c, hc, -⟩ := hadding
    cases hc
  refine ⟨hshows.nodup, hheld, fun hidle ↦ ?_⟩
  have hshown := (hshows.idle hidle).2
  refine ⟨hshown, fun s hs ↦ ?_⟩
  rw [hshown, hheld]
  exact (written_congr hs).symm

end AccessDesk

/-! ### A viewer who becomes an admin of a site -/

def sampleAccess : List SiteAccessEntry := [⟨1, "s1", "viewer"⟩]

def sampleEdits : List AccessDesk.Act :=
  [.changeRole 1 "admin", .serve 0 (.grant 1 "admin"), .answer 0]

theorem trace_sampleEdits : ∃ d, Trace (AccessDesk.Step sampleArgon2 [] 2)
    (.start (sampleGranted "viewer") sampleAccess) sampleEdits d ∧ d.editor.accessWorking = false ∧
      d.sent = [(1, some "admin")] := by
  exact ⟨_, .cons (.changeRole 1 "admin" (by decide))
    (.cons (.serve 0 (c := ⟨.grant 1 "admin", none, false, true⟩) (v := ()) rfl rfl rfl)
      (.cons (.answer 0 (c := ⟨.grant 1 "admin", none, true, true⟩) rfl rfl rfl) (.nil _))),
    rfl, rfl⟩

theorem accessEditor_agrees_admin : ∃ d : AccessDesk,
    d.editor.shown 1 = some "admin" ∧ d.server.roleOn 2 1 = some "admin" := by
  obtain ⟨d, htrace, hidle, hsent⟩ := trace_sampleEdits
  have hstart : (AccessEditor.start sampleAccess).shown = (sampleGranted "viewer").roleOn 2 := by
    funext s
    by_cases hs : s = 1
    · subst hs
      rfl
    · have hother : ¬1 = s := fun h ↦ hs h.symm
      simp [AccessEditor.start, AccessEditor.shown, Fabric.roleOn, valueAt, sampleAccess,
        sampleGranted, SiteAccess.key, hother]
  obtain ⟨-, -, hidle'⟩ := AccessDesk.accessEditor_agrees (by decide) hstart htrace
  obtain ⟨hsaid, hagree⟩ := hidle' hidle
  have hshown : d.editor.shown 1 = some "admin" := by
    rw [hsaid, hsent]
    rfl
  have hserved : (AccessDesk.served sampleEdits).filter (fun x ↦ x.1 = 1) =
      d.sent.filter fun x ↦ x.1 = 1 := by
    rw [hsent]
    decide
  exact ⟨d, hshown, (hagree 1 hserved).symm.trans hshown⟩

end VyosFabric
