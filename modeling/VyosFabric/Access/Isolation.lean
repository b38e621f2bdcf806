import VyosFabric.Access.Grants
import VyosFabric.Access.Views

/-!
# What somebody who is no admin sees and changes

The requests of a user who is no admin, in any order and interleaved in any way, stay inside the
scope of the user's grants: `Within` is the invariant, and it makes every reply one that the
contract of the handlers admits (`Within.accepts`), so the next statement is inside the scope again.
Two consequences for whole runs are stated together in `isolated`: databases that look the same to
the user have the same runs, and nothing outside the scope is changed or sent to.
-/

namespace VyosFabric

open Interaction

/-! ### The scope of the grants -/

/-- What the grants of the user cover. Commits that are still to be recorded are the user's own. -/
def Fabric.scope (w : Fabric) (u : Uuid) : Scope where
  user := u
  target := fun _ ↦ True
  router := fun r ↦ w.reaches u r = true
  client := fun c ↦ ∃ r ∈ w.routers, w.sees u r.siteId = true ∧ ∃ key, r.apiKey = some key ∧
    c = VyosClient.new r.apiProtocol r.mgmtIp r.apiPort key r.version
  commit := fun k ↦ (∃ m ∈ w.configCommits, m.id = k ∧ w.reaches u m.routerId = true) ∨
    w.nextCommit ≤ k
  site := fun s ↦ w.sees u s = true

/-- The scope covers its own tables. -/
theorem Fabric.Sound.sealed {w : Fabric} (hw : w.Sound) (u : Uuid) :
    Sealed (w.scope u) w.review := by
  have hlt : ∀ m ∈ w.configCommits, ¬w.nextCommit ≤ m.id := fun m hm ↦
    (hw.wellFormed.commitId_lt m hm).not_ge
  refine ⟨fun c hc k hlink hk ↦ ?_, fun m hm ↦ ⟨fun hk ↦ ?_, fun hr ↦ ?_⟩, fun k hk ↦ Or.inr hk⟩
  · -- the row is of the router of its commit
    obtain ⟨m, hm, hid⟩ := List.mem_map.1 (hw.wellFormed.link c hc k hlink)
    rcases hk with ⟨m', hm', hid', hr⟩ | hfresh
    · rw [← hid'] at hlink
      show w.reaches u c.routerId = true
      rw [hw.linked c hc m' hm' hlink]
      exact hr
    · exact absurd (hid ▸ hfresh) (hlt m hm)
  · rcases hk with ⟨m', hm', hid, hr⟩ | hfresh
    · obtain rfl := List.inj_on_of_nodup_map hw.wellFormed.commitId_nodup hm' hm hid
      exact hr
    · exact absurd hfresh (hlt m hm)
  · exact Or.inl ⟨m, hm, rfl, hr⟩

/-- Databases that look the same to the user give the same scope. -/
theorem Agree.scope {u : Uuid} {w₁ w₂ : Fabric} (h : Agree u w₁ w₂) : w₁.scope u = w₂.scope u := by
  have hclient : ∀ c, (w₁.scope u).client c ↔ (w₂.scope u).client c := by
    have himp : ∀ {v₁ v₂ : Fabric}, Agree u v₁ v₂ → ∀ c, (v₁.scope u).client c →
        (v₂.scope u).client c := by
      rintro v₁ v₂ hv c ⟨r, hr, hsees, hkey⟩
      have hperm := hv.routers
      rw [← hv.sees] at hperm
      exact ⟨r, mem_of_perm_filter hperm hr hsees, hv.sees ▸ hsees, hkey⟩
    exact fun c ↦ ⟨himp h c, himp h.symm c⟩
  have hcommit : ∀ k, (w₁.scope u).commit k ↔ (w₂.scope u).commit k := by
    have himp : ∀ {v₁ v₂ : Fabric}, Agree u v₁ v₂ → ∀ k, (v₁.scope u).commit k →
        (v₂.scope u).commit k := by
      rintro v₁ v₂ hv k (⟨m, hm, hid, hr⟩ | hfresh)
      · have hperm := hv.configCommits
        rw [← hv.reaches] at hperm
        exact Or.inl ⟨m, mem_of_perm_filter hperm hm hr, hid, hv.reaches ▸ hr⟩
      · exact Or.inr (hv.nextCommit ▸ hfresh)
    exact fun k ↦ ⟨himp h k, himp h.symm k⟩
  have hrouter : (w₁.scope u).router = (w₂.scope u).router :=
    funext fun r ↦ congrArg (· = true) (congrFun h.reaches r)
  have hsite : (w₁.scope u).site = (w₂.scope u).site :=
    funext fun s ↦ congrArg (· = true) (congrFun h.sees s)
  rw [Fabric.scope, Fabric.scope, Scope.mk.injEq]
  exact ⟨rfl, rfl, hrouter, funext fun c ↦ propext (hclient c), funext fun k ↦ propext (hcommit k),
    hsite⟩

/-! ### Inside the scope -/

/-- Nothing outside the grants of the user is another than in `w`. -/
structure Untouched (u : Uuid) (w v : Fabric) : Prop where
  sites : v.sites = w.sites
  users : v.users = w.users
  routers : v.routers = w.routers
  userSiteAccess : v.userSiteAccess = w.userSiteAccess
  nextId : v.nextId = w.nextId
  configChanges : (v.configChanges.filter fun c ↦ !w.reaches u c.routerId) =
    w.configChanges.filter fun c ↦ !w.reaches u c.routerId
  configCommits : (v.configCommits.filter fun c ↦ !w.reaches u c.routerId) =
    w.configCommits.filter fun c ↦ !w.reaches u c.routerId

/-- Where the requests of the user lead from `w`. -/
structure Within (u : Uuid) (w v : Fabric) : Prop where
  untouched : Untouched u w v
  sealed : Sealed (w.scope u) v.review

section

variable {A : Argon2} {u : Uuid} {w v v' : Fabric} {s : FabricStatement} {x : s.Reply}

theorem Fabric.Sound.within (hw : w.Sound) (u : Uuid) : Within u w w :=
  ⟨⟨rfl, rfl, rfl, rfl, rfl, rfl, rfl⟩, hw.sealed u⟩

theorem Untouched.sees (h : Untouched u w v) : v.sees u = w.sees u := by
  funext site
  rw [Fabric.sees, Fabric.sees, Fabric.siteIds, Fabric.siteIds, h.userSiteAccess]

theorem Untouched.reaches (h : Untouched u w v) : v.reaches u = w.reaches u := by
  funext router
  rw [Fabric.reaches, Fabric.reaches, h.sees, h.routers]

theorem Within.keyed (h : Within u w v) (hw : w.Keyed) : v.Keyed := by
  obtain ⟨⟨hsites, husers, hrouters, -, hnext, -, -⟩, -⟩ := h
  constructor
  · rw [husers, hnext]
    exact hw.users
  · rw [husers]
    exact hw.usernames
  · rw [hsites, hnext]
    exact hw.sites
  · rw [hrouters, hnext]
    exact hw.routers

/-- A statement inside the scope writes at most the review tables. -/
theorem exec_permitted {σ : Scope} (hpermit : σ.permits s) (hexec : v.exec A s x = some v') :
    v' = v ∨ ∃ s₀ : Statement, s = .review s₀ := by
  cases x with
  | error e => exact Or.inl (exec_fault hexec)
  | ok x =>
    cases s with
    | review s₀ => exact Or.inr ⟨s₀, rfl⟩
    | post | info => exact Or.inl (Option.some.inj hexec).symm
    | selectUser | selectAccess | selectSiteIds | selectSitesIn | selectSite | selectRoutersIn |
      selectSiteRouters | selectRouterRow => exact Or.inl (of_guarded hexec).2.symm
    | _ => exact hpermit.elim

/-- **Staying inside.** -/
theorem Within.exec (h : Within u w v) (hpermit : (w.scope u).permits s)
    (hexec : v.exec A s x = some v') : Within u w v' := by
  rcases exec_permitted hpermit hexec with rfl | ⟨s₀, rfl⟩
  · exact h
  · obtain ⟨d, hd, rfl⟩ := Option.map_eq_some_iff.1 hexec
    obtain ⟨hchanges, hcommits⟩ := exec_foreign (g := w.reaches u) (fun _ ↦ Iff.rfl) hpermit hd
    have hsealed := exec_sealed h.sealed hpermit hd
    exact ⟨{ h.untouched with
        configChanges := hchanges.trans h.untouched.configChanges
        configCommits := hcommits.trans h.untouched.configCommits },
      ⟨hsealed.changes, hsealed.commits, hsealed.fresh⟩⟩

/-- **Replies let in nothing from outside.** -/
theorem Within.accepts (h : Within u w v) (hw : w.Keyed) (hexec : v.exec A s x = some v') :
    (w.scope u).accepts s x := by
  unfold Scope.accepts
  split
  · rename_i s₀ x₀
    obtain ⟨d, hd, rfl⟩ := Option.map_eq_some_iff.1 hexec
    unfold Scope.admits
    split
    · -- an authorization finds a router within reach
      rename_i r u' k
      rintro rfl -
      have hrow := (of_guarded hd).1
      rw [grantedRouter_eq, h.untouched.reaches] at hrow
      cases hreach : w.reaches u' r with
      | true => exact hreach
      | false =>
        rw [hreach] at hrow
        cases hrow
    · rename_i r row
      intro hreach key hkey
      have hrow := (of_guarded hd).1
      obtain ⟨q, hq, rfl⟩ := List.mem_map.1 (List.mem_of_find?_eq_some hrow.symm)
      have hmatch := List.find?_some hrow.symm
      obtain rfl : q.id = r := beq_iff_eq.1 hmatch
      rw [h.untouched.routers] at hq
      exact ⟨q, hq, sees_of_reaches hw hq hreach, key, hkey, rfl⟩
    · rename_i c row
      intro hreach
      have hrow := (of_guarded hd).1
      rw [congrArg ConfigCommit.id hrow]
      exact h.sealed.fresh _ le_rfl
    · rename_i r rows
      intro hreach row hrow
      have hmem := mem_of_latest (of_guarded hd).1 hrow
      obtain ⟨hmem, hid⟩ := List.mem_filter.1 hmem
      rw [← beq_iff_eq.1 hid] at hreach
      exact (h.sealed.commits row hmem).2 hreach
    · trivial
  · rename_i u' ids
    rintro rfl id hid
    have hids := (of_guarded hexec).1
    show w.sees u' id = true
    rw [← h.untouched.sees]
    exact List.contains_iff_mem.2 (hids.mem_iff.1 hid)
  · trivial

end

/-! ### Whole runs -/

/-- The device a statement is sent to. -/
def FabricStatement.client : FabricStatement → Option VyosClient
  | .review (.showConfig c _) => some c
  | .review (.configure c _) => some c
  | .review (.save c _) => some c
  | .post c _ _ => some c
  | .info c => some c
  | _ => none

theorem client_of_permits {σ : Scope} {s : FabricStatement} {c : VyosClient} (hpermit : σ.permits s)
    (hc : s.client = some c) : σ.client c := by
  unfold FabricStatement.client at hc
  split at hc
  · exact Option.some.inj hc ▸ hpermit
  · exact Option.some.inj hc ▸ hpermit
  · exact Option.some.inj hc ▸ hpermit
  · exact Option.some.inj hc ▸ hpermit
  · exact Option.some.inj hc ▸ hpermit
  · cases hc

section

variable {A : Argon2} {Pid : Type} [DecidableEq Pid] {u : Uuid} {w w₁ w₂ : Fabric}
  {calls : Pid → FabricCall} {tr : List (Pid × FabricEvent)}
  {s' : Pool FabricStatement FabricStatement.Reply AppError Answer Fabric Pid}

/-- **A run of the user's requests** stays inside the scope. -/
theorem run_within (hw : w.Sound)
    (hcalls : ∀ i, (calls i).claims.sub = u ∧ (calls i).claims.isAdmin = false)
    (hrun : Run (Fabric.exec A) ⟨w, fun i ↦ (calls i).handle⟩ tr s') :
    Within u w s'.state ∧ ∀ x ∈ tr, (w.scope u).permits x.2.1 := by
  have hstep : ∀ s (x : FabricStatement.Reply s) m m', m.exec A s x = some m' →
      (w.scope u).permits s → Within u w m → (w.scope u).accepts s x ∧ Within u w m' :=
    fun s x m m' hexec hpermit hm ↦ ⟨hm.accepts hw.keyed hexec, hm.exec hpermit hexec⟩
  exact Run.meets hstep hrun (hw.within u) fun i ↦
    (calls i).handle_keeps (hcalls i).2 (hcalls i).1 fun _ _ ↦ trivial

/-- **The same run from the other tables.** -/
theorem run_agree (hagree : Agree u w₁ w₂) (hw₁ : w₁.Sound) (hw₂ : w₂.Sound)
    (hcalls : ∀ i, (calls i).claims.sub = u ∧ (calls i).claims.isAdmin = false)
    (hrun : Run (Fabric.exec A) ⟨w₁, fun i ↦ (calls i).handle⟩ tr s') :
    ∃ w₂', Run (Fabric.exec A) ⟨w₂, fun i ↦ (calls i).handle⟩ tr ⟨w₂', s'.prog⟩ := by
  obtain ⟨hexec, hfollows⟩ := run_iff.1 hrun
  have hpermits := (run_within hw₁ hcalls hrun).2
  -- both sides stay inside the scope, which is the same
  have hstep : ∀ x ∈ tr.map Prod.snd, ∀ v₁ v₂ v₁', Fabric.exec A x.1 x.2 v₁ = some v₁' →
      (Agree u v₁ v₂ ∧ Within u w₁ v₁ ∧ Within u w₂ v₂) →
      ∃ v₂', Fabric.exec A x.1 x.2 v₂ = some v₂' ∧
        (Agree u v₁' v₂' ∧ Within u w₁ v₁' ∧ Within u w₂ v₂') := by
    rintro x hx v₁ v₂ v₁' hv₁ ⟨hv, hin₁, hin₂⟩
    obtain ⟨y, hy, rfl⟩ := List.mem_map.1 hx
    have hpermit := hpermits y hy
    obtain ⟨v₂', hv₂, hv'⟩ := exec_agree hv (hin₁.keyed hw₁.keyed) (hin₂.keyed hw₂.keyed) rfl
      (fun r ↦ hin₁.untouched.reaches ▸ Iff.rfl) (fun t ↦ hin₁.untouched.sees ▸ Iff.rfl)
      hin₁.sealed (hagree.scope ▸ hin₂.sealed) hpermit hv₁
    exact ⟨v₂', hv₂, hv', hin₁.exec hpermit hv₁, hin₂.exec (hagree.scope ▸ hpermit) hv₂⟩
  obtain ⟨w₂', hexec₂, -⟩ :=
    execAll_simulation hstep hexec ⟨hagree, hw₁.within u, hw₂.within u⟩
  exact ⟨w₂', run_iff.2 ⟨hexec₂, hfollows⟩⟩

/-- **A user who is no admin sees and changes nothing outside their grants.** Take any requests
whose tokens name the user and no admin, in any order and interleaved in any way.

* Tables that look the same to the user have the same runs: the same statements with the same
  replies, and every request is left at the same point, so with the same response if it is done.
  Replies of devices and identifiers of new rows are part of the run, as choices of the environment.
* What such a run leaves is as before outside the grants: the tables of sites, users, routers and
  grants, and the changes and commits of all other routers. What it sent to devices, it sent to
  routers on the sites of the grants. -/
theorem isolated (hagree : Agree u w₁ w₂) (hw₁ : w₁.Sound) (hw₂ : w₂.Sound)
    (hcalls : ∀ i, (calls i).claims.sub = u ∧ (calls i).claims.isAdmin = false) :
    (∀ tr progs,
      (∃ v, Run (Fabric.exec A) ⟨w₁, fun i ↦ (calls i).handle⟩ tr ⟨v, progs⟩) ↔
        ∃ v, Run (Fabric.exec A) ⟨w₂, fun i ↦ (calls i).handle⟩ tr ⟨v, progs⟩) ∧
      ∀ tr s', Run (Fabric.exec A) ⟨w₁, fun i ↦ (calls i).handle⟩ tr s' →
        Untouched u w₁ s'.state ∧ ∀ x ∈ tr, ∀ c, x.2.1.client = some c → (w₁.scope u).client c := by
  refine ⟨fun tr progs ↦ ⟨?_, ?_⟩, fun tr s' hrun ↦ ?_⟩
  · rintro ⟨v, hrun⟩
    exact run_agree hagree hw₁ hw₂ hcalls hrun
  · rintro ⟨v, hrun⟩
    exact run_agree hagree.symm hw₂ hw₁ hcalls hrun
  · obtain ⟨hwithin, hpermits⟩ := run_within hw₁ hcalls hrun
    exact ⟨hwithin.untouched, fun x hx c hc ↦ client_of_permits (hpermits x hx) hc⟩

end

/-! ### Two databases that differ elsewhere -/

/-- Another site, with a router that is offline. -/
def sampleElsewhere : Fabric :=
  { sampleGranted "viewer" with
    sites := [⟨1, "s1", none, 0⟩, ⟨3, "s2", none, 0⟩]
    routers := [{ sampleRouterRow with id := 4, siteId := 3, status := .off }, sampleRouterRow]
    nextId := 5 }

theorem agree_sampleElsewhere : Agree 2 (sampleGranted "viewer") sampleElsewhere :=
  ⟨rfl, by decide, by decide, by decide, by decide, by decide, rfl, rfl⟩

/-- There are no changes and no commits to check. -/
theorem sound_of_fresh {w : Fabric} (hw : w.Keyed) (hchanges : w.configChanges = [])
    (hcommits : w.configCommits = []) : w.Sound := by
  have hnone : ∀ c ∈ w.review.configChanges, False := fun c hc ↦ by
    rw [show w.review.configChanges = [] from hchanges] at hc
    cases hc
  refine ⟨hw, ⟨?_, fun c hc ↦ (hnone c hc).elim, ?_, fun m hm ↦ ?_, fun c hc ↦ (hnone c hc).elim⟩,
    fun c hc ↦ (hnone c hc).elim⟩
  · rw [show w.review.configChanges = [] from hchanges]
    exact List.nodup_nil
  · rw [show w.review.configCommits = [] from hcommits]
    exact List.nodup_nil
  · rw [show w.review.configCommits = [] from hcommits] at hm
    cases hm

theorem keyed_sampleGranted : (sampleGranted "viewer").Keyed :=
  ⟨⟨by decide, by decide⟩, by decide, ⟨by decide, by decide⟩, ⟨by decide, by decide⟩⟩

theorem keyed_sampleElsewhere : sampleElsewhere.Keyed :=
  ⟨⟨by decide, by decide⟩, by decide, ⟨by decide, by decide⟩, ⟨by decide, by decide⟩⟩

/-- The viewer cannot tell, and does not touch the other router. -/
theorem isolated_viewer :
    (∀ tr progs,
      (∃ v, Run (Fabric.exec sampleArgon2)
        ⟨sampleGranted "viewer", fun _ : Unit ↦ sampleViewerCall.handle⟩ tr ⟨v, progs⟩) ↔
      ∃ v, Run (Fabric.exec sampleArgon2)
        ⟨sampleElsewhere, fun _ : Unit ↦ sampleViewerCall.handle⟩ tr ⟨v, progs⟩) ∧
    ∀ tr s', Run (Fabric.exec sampleArgon2)
        ⟨sampleGranted "viewer", fun _ : Unit ↦ sampleViewerCall.handle⟩ tr s' →
      Untouched 2 (sampleGranted "viewer") s'.state ∧ ∀ x ∈ tr, ∀ c, x.2.1.client = some c →
        ((sampleGranted "viewer").scope 2).client c :=
  isolated agree_sampleElsewhere (sound_of_fresh keyed_sampleGranted rfl rfl)
    (sound_of_fresh keyed_sampleElsewhere rfl rfl) fun _ ↦ ⟨rfl, rfl⟩

end VyosFabric
