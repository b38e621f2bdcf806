import VyosFabric.Access.Keys
import VyosFabric.Access.Scopes
import VyosFabric.Review.Tables

/-!
# What a user sees of the tables

A user sees their own row, their grants, the sites of the grants, and the routers of those sites
with their change rows and commits. `Agree` says that two databases look the same to a user: tables
are bags of rows, so what is seen of them is compared up to order.

A statement inside the scope of the grants that one database answers is answered in the same way by
every database that agrees with it, and they still agree afterwards (`exec_agree`).
-/

namespace VyosFabric

open Interaction

/-! ### Parts of tables -/

section Parts

variable {α : Type} {p q : α → Bool} {l₁ l₂ : List α}

/-- A part of what two tables share. -/
theorem perm_filter_of_imp (h : (l₁.filter p).Perm (l₂.filter p))
    (h₁ : ∀ a ∈ l₁, q a = true → p a = true) (h₂ : ∀ a ∈ l₂, q a = true → p a = true) :
    (l₁.filter q).Perm (l₂.filter q) := by
  have hpart : ∀ {l : List α}, (∀ a ∈ l, q a = true → p a = true) →
      l.filter q = (l.filter p).filter q := by
    intro l hl
    rw [List.filter_filter]
    refine List.filter_congr fun a ha ↦ ?_
    cases hq : q a with
    | false => rfl
    | true => rw [hl a ha hq]; rfl
  rw [hpart h₁, hpart h₂]
  exact h.filter q

/-- Tables that share a part still do after the same rows are dropped. -/
theorem perm_filter_filter (h : (l₁.filter p).Perm (l₂.filter p)) (q : α → Bool) :
    ((l₁.filter q).filter p).Perm ((l₂.filter q).filter p) := by
  rw [List.filter_comm, List.filter_comm (l := l₂)]
  exact h.filter q

/-- And after the same rewrite, if it does not move rows in or out of the part. -/
theorem perm_filter_map (h : (l₁.filter p).Perm (l₂.filter p)) {f : α → α}
    (hf : ∀ a, p (f a) = p a) : ((l₁.map f).filter p).Perm ((l₂.map f).filter p) := by
  have hcomp : p ∘ f = p := funext hf
  rw [List.filter_map, List.filter_map, hcomp]
  exact h.map f

/-- And after a row is added to both. -/
theorem perm_filter_append (h : (l₁.filter p).Perm (l₂.filter p)) (a : α) :
    ((l₁ ++ [a]).filter p).Perm ((l₂ ++ [a]).filter p) := by
  rw [List.filter_append, List.filter_append]
  exact h.append (List.Perm.refl _)

theorem mem_of_perm_filter (h : (l₁.filter p).Perm (l₂.filter p)) {a : α} (ha : a ∈ l₁)
    (hp : p a = true) : a ∈ l₂ :=
  (List.mem_filter.1 (h.mem_iff.1 (List.mem_filter.2 ⟨ha, hp⟩))).1

/-- The row of a key in what two tables share. -/
theorem find?_eq_of_perm {β : Type} {key : α → β} (h : (l₁.filter p).Perm (l₂.filter p))
    (hkey : (l₂.map key).Nodup) {k : β} (hq : ∀ a, q a = true ↔ key a = k)
    (h₁ : ∀ a ∈ l₁, q a = true → p a = true) (h₂ : ∀ a ∈ l₂, q a = true → p a = true) :
    l₁.find? q = l₂.find? q := by
  cases hfind : l₁.find? q with
  | none =>
    refine (List.find?_eq_none.2 fun a ha hqa ↦ ?_).symm
    exact List.find?_eq_none.1 hfind a (mem_of_perm_filter h.symm ha (h₂ a ha hqa)) hqa
  | some a =>
    have ha := List.mem_of_find?_eq_some hfind
    have hqa := List.find?_some hfind
    refine (find?_eq_of_nodup hkey (mem_of_perm_filter h ha (h₁ a ha hqa)) fun b ↦ ?_).symm
    rw [hq, (hq a).1 hqa]

theorem Lists.congr {key : α → String} {rows : List α} (hrows : Lists key rows l₁)
    (h : l₁.Perm l₂) : Lists key rows l₂ :=
  ⟨hrows.1.trans h, hrows.2⟩

end Parts

/-! ### The view of a user -/

/-- The user has a grant on the site. -/
def Fabric.sees (w : Fabric) (u site : Uuid) : Bool := (w.siteIds u).contains site

/-- The router is on a site the user has a grant on. -/
def Fabric.reaches (w : Fabric) (u router : Uuid) : Bool :=
  w.routers.any fun r ↦ r.id == router && w.sees u r.siteId

/-- What the user sees is the same, up to the order of the rows. -/
structure Agree (u : Uuid) (w₁ w₂ : Fabric) : Prop where
  user : w₁.user u = w₂.user u
  grants : (w₁.userSiteAccess.filter fun a ↦ a.userId == u).Perm
    (w₂.userSiteAccess.filter fun a ↦ a.userId == u)
  sites : (w₁.sites.filter fun s ↦ w₁.sees u s.id).Perm (w₂.sites.filter fun s ↦ w₂.sees u s.id)
  routers : (w₁.routers.filter fun r ↦ w₁.sees u r.siteId).Perm
    (w₂.routers.filter fun r ↦ w₂.sees u r.siteId)
  configChanges : (w₁.configChanges.filter fun c ↦ w₁.reaches u c.routerId).Perm
    (w₂.configChanges.filter fun c ↦ w₂.reaches u c.routerId)
  configCommits : (w₁.configCommits.filter fun c ↦ w₁.reaches u c.routerId).Perm
    (w₂.configCommits.filter fun c ↦ w₂.reaches u c.routerId)
  nextChange : w₁.nextChange = w₂.nextChange
  nextCommit : w₁.nextCommit = w₂.nextCommit

/-- The tables are those of the schema, and the rows of a commit are those of its router. -/
structure Fabric.Sound (w : Fabric) : Prop where
  keyed : w.Keyed
  wellFormed : w.review.WellFormed
  linked : ∀ c ∈ w.configChanges, ∀ m ∈ w.configCommits, c.commitId = some m.id →
    c.routerId = m.routerId

section Agreement

variable {u : Uuid} {w₁ w₂ : Fabric}

theorem Agree.siteIds (h : Agree u w₁ w₂) : (w₁.siteIds u).Perm (w₂.siteIds u) :=
  h.grants.map SiteAccess.siteId

theorem Agree.sees (h : Agree u w₁ w₂) : w₁.sees u = w₂.sees u := by
  funext site
  rw [Fabric.sees, Fabric.sees, Bool.eq_iff_iff, List.contains_iff_mem, List.contains_iff_mem]
  exact h.siteIds.mem_iff

theorem Agree.reaches (h : Agree u w₁ w₂) : w₁.reaches u = w₂.reaches u := by
  funext router
  have hmem : ∀ {v₁ v₂ : Fabric}, v₁.sees u = v₂.sees u →
      (v₁.routers.filter fun r ↦ v₁.sees u r.siteId).Perm
        (v₂.routers.filter fun r ↦ v₂.sees u r.siteId) →
      v₁.reaches u router = true → v₂.reaches u router = true := by
    intro v₁ v₂ hsees hperm hreach
    obtain ⟨r, hr, hmatch⟩ := List.any_eq_true.1 hreach
    obtain ⟨hid, hsite⟩ := Bool.and_eq_true_iff.1 hmatch
    rw [hsees] at hperm hsite
    exact List.any_eq_true.2 ⟨r, mem_of_perm_filter hperm hr hsite,
      Bool.and_eq_true_iff.2 ⟨hid, hsite⟩⟩
  exact Bool.eq_iff_iff.2 ⟨hmem h.sees h.routers, hmem h.sees.symm h.routers.symm⟩

theorem Agree.symm (h : Agree u w₁ w₂) : Agree u w₂ w₁ :=
  ⟨h.user.symm, h.grants.symm, h.sites.symm, h.routers.symm, h.configChanges.symm,
    h.configCommits.symm, h.nextChange.symm, h.nextCommit.symm⟩

end Agreement

/-! ### The review tables -/

/-- The commits of the scope are those of its routers and all that are still to come, and the rows
linked to them are rows of its routers. -/
structure Sealed (σ : Scope) (db : Database) : Prop where
  changes : ∀ c ∈ db.configChanges, ∀ k, c.commitId = some k → σ.commit k → σ.router c.routerId
  commits : ∀ m ∈ db.configCommits, σ.commit m.id ↔ σ.router m.routerId
  fresh : ∀ k, db.nextCommit ≤ k → σ.commit k

/-- What two databases show of the routers of a scope. -/
structure SameTray (σ : Scope) (g : Uuid → Bool) (d₁ d₂ : Database) : Prop where
  granted : ∀ r, d₁.grantedRouter r σ.user = d₂.grantedRouter r σ.user
  router : ∀ r, σ.router r →
    d₁.routers.find? (fun x ↦ x.id == r) = d₂.routers.find? fun x ↦ x.id == r
  configChanges : (d₁.configChanges.filter fun c ↦ g c.routerId).Perm
    (d₂.configChanges.filter fun c ↦ g c.routerId)
  configCommits : (d₁.configCommits.filter fun c ↦ g c.routerId).Perm
    (d₂.configCommits.filter fun c ↦ g c.routerId)
  nextChange : d₁.nextChange = d₂.nextChange
  nextCommit : d₁.nextCommit = d₂.nextCommit

section Trays

variable {σ : Scope} {g : Uuid → Bool} {d₁ d₂ d₁' : Database} {s : Statement} {v : s.Reply}

/-- The rows of one router of the scope. -/
theorem SameTray.of_router (h : SameTray σ g d₁ d₂) (hg : ∀ r, σ.router r ↔ g r = true) {r : Uuid}
    (hr : σ.router r) {q : ConfigChange → Bool} (hq : ∀ c, q c = true → c.routerId = r) :
    (d₁.configChanges.filter q).Perm (d₂.configChanges.filter q) := by
  have himp : ∀ c, q c = true → g c.routerId = true := fun c hc ↦ by
    rw [hq c hc]
    exact (hg r).1 hr
  exact perm_filter_of_imp h.configChanges (fun c _ ↦ himp c) fun c _ ↦ himp c

theorem isPending_routerId {c : ConfigChange} {r : Uuid} (h : c.isPending r = true) :
    c.routerId = r :=
  beq_iff_eq.1 (Bool.and_eq_true_iff.1 h).1

theorem SameTray.pending (h : SameTray σ g d₁ d₂) (hg : ∀ r, σ.router r ↔ g r = true) {r : Uuid}
    (hr : σ.router r) : (d₁.pending r).Perm (d₂.pending r) :=
  h.of_router hg hr fun _ ↦ isPending_routerId

theorem latest_congr {t₁ t₂ rows : List ConfigCommit} (ht : t₁.Perm t₂)
    (h : latest t₁ rows = true) : latest t₂ rows = true := by
  simp only [latest, Bool.and_eq_true, List.all_eq_true, List.contains_iff_mem, Bool.or_eq_true,
    decide_eq_true_eq] at h ⊢
  obtain ⟨⟨⟨⟨hsub, hnodup⟩, hlength⟩, horder⟩, hlate⟩ := h
  exact ⟨⟨⟨⟨fun c hc ↦ ht.mem_iff.1 (hsub c hc), hnodup⟩, ht.length_eq ▸ hlength⟩, horder⟩,
    fun c hc ↦ hlate c (ht.mem_iff.2 hc)⟩

theorem mem_of_latest {table rows : List ConfigCommit} (h : latest table rows = true)
    {c : ConfigCommit} (hc : c ∈ rows) : c ∈ table := by
  simp only [latest, Bool.and_eq_true, List.all_eq_true, List.contains_iff_mem] at h
  exact h.1.1.1.1 c hc

/-- **One statement of the review system** that stays inside the scope. -/
theorem exec_sameTray (h : SameTray σ g d₁ d₂) (hg : ∀ r, σ.router r ↔ g r = true)
    (hs₁ : Sealed σ d₁) (hs₂ : Sealed σ d₂) (hallow : σ.allows s)
    (hexec : exec s v d₁ = some d₁') :
    ∃ d₂', exec s v d₂ = some d₂' ∧ SameTray σ g d₁' d₂' := by
  cases v with
  | error e =>
    obtain rfl : d₁ = d₁' := by
      cases s <;> exact Option.some.inj hexec
    exact ⟨d₂, by cases s <;> rfl, h⟩
  | ok x =>
    cases s with
    | authorizeRouter r u =>
      obtain ⟨rfl, hr⟩ := hallow
      obtain ⟨hrow, rfl⟩ := of_guarded hexec
      exact ⟨d₂, if_pos (hrow.trans (h.granted r)), h⟩
    | selectRouter r =>
      obtain ⟨hrow, rfl⟩ := of_guarded hexec
      exact ⟨d₂, if_pos (hrow.trans (h.router r hallow)), h⟩
    | deletePending r f =>
      obtain ⟨hn, rfl⟩ := of_guarded hexec
      have hhits := h.of_router hg hallow (q := f.hits r) fun c hc ↦
        isPending_routerId (Bool.and_eq_true_iff.1 hc).1
      exact ⟨_, if_pos (hn.trans hhits.length_eq),
        { h with configChanges := perm_filter_filter h.configChanges _ }⟩
    | insertChange r c =>
      obtain ⟨hrow, rfl⟩ := of_guarded hexec
      have hnew : d₁.newChange r x.createdAt c = d₂.newChange r x.createdAt c := by
        rw [Database.newChange, Database.newChange, h.nextChange]
      exact ⟨_, if_pos (hrow.trans hnew),
        { h with
          configChanges := perm_filter_append h.configChanges x
          nextChange := congrArg (· + 1) h.nextChange }⟩
    | selectPending r =>
      obtain ⟨⟨hrows, horder⟩, rfl⟩ := of_guarded hexec
      exact ⟨d₂, if_pos ⟨hrows.trans (h.pending hg hallow), horder⟩, h⟩
    | insertCommit c =>
      obtain ⟨hrow, rfl⟩ := of_guarded hexec
      have hnew : d₁.newCommit x.committedAt c = d₂.newCommit x.committedAt c := by
        rw [Database.newCommit, Database.newCommit, h.nextCommit]
      exact ⟨_, if_pos (hrow.trans hnew),
        { h with
          configCommits := perm_filter_append h.configCommits x
          nextCommit := congrArg (· + 1) h.nextCommit }⟩
    | updateCommitted k r =>
      obtain ⟨hr, hk⟩ := hallow
      obtain ⟨⟨hrows, hmem⟩, rfl⟩ := of_guarded hexec
      -- the commit is one of the scope, so both databases have it
      obtain ⟨m, hm, rfl⟩ := List.mem_map.1 hmem
      have hm₂ : m ∈ d₂.configCommits :=
        mem_of_perm_filter h.configCommits hm ((hg _).1 ((hs₁.commits m hm).1 hk))
      refine ⟨_, if_pos ⟨hrows.trans ((h.pending hg hr).map _), List.mem_map_of_mem hm₂⟩,
        { h with configChanges := perm_filter_map h.configChanges fun c ↦ ?_ }⟩
      show g (if c.isPending r then c.mark m.id else c).routerId = g c.routerId
      split <;> rfl
    | selectCommits r =>
      obtain ⟨hlatest, rfl⟩ := of_guarded hexec
      have himp : ∀ c : ConfigCommit, (c.routerId == r) = true → g c.routerId = true := by
        intro c hc
        rw [beq_iff_eq.1 hc]
        exact (hg r).1 hallow
      have hperm := perm_filter_of_imp h.configCommits (fun c _ ↦ himp c) fun c _ ↦ himp c
      exact ⟨d₂, if_pos (latest_congr hperm hlatest), h⟩
    | selectLinked k =>
      obtain ⟨⟨hrows, horder⟩, rfl⟩ := of_guarded hexec
      have hperm : (d₁.linked k).Perm (d₂.linked k) :=
        perm_filter_of_imp h.configChanges
          (fun c hc hlink ↦ (hg _).1 (hs₁.changes c hc k (beq_iff_eq.1 hlink) hallow))
          fun c hc hlink ↦ (hg _).1 (hs₂.changes c hc k (beq_iff_eq.1 hlink) hallow)
      exact ⟨d₂, if_pos ⟨hrows.trans hperm, horder⟩, h⟩
    | showConfig c path =>
      obtain rfl := Option.some.inj hexec
      exact ⟨d₂, rfl, h⟩
    | configure c batch =>
      obtain rfl := Option.some.inj hexec
      exact ⟨d₂, rfl, h⟩
    | save c file =>
      obtain rfl := Option.some.inj hexec
      exact ⟨d₂, rfl, h⟩

/-- A statement that stays inside the scope keeps it sealed. -/
theorem exec_sealed (hs : Sealed σ d₁) (hallow : σ.allows s) (hexec : exec s v d₁ = some d₁') :
    Sealed σ d₁' := by
  cases exec_effect hexec with
  | look => exact hs
  | delete r f =>
    exact ⟨fun c hc ↦ hs.changes c (List.mem_of_mem_filter hc), hs.commits, hs.fresh⟩
  | insert r now c =>
    refine ⟨fun b hb k hk ↦ ?_, hs.commits, hs.fresh⟩
    rcases List.mem_append.1 hb with hb | hb
    · exact hs.changes b hb k hk
    · -- a new row is not linked
      obtain rfl := List.mem_singleton.1 hb
      cases hk
  | record now c =>
    refine ⟨hs.changes, fun m hm ↦ ?_, fun k hk ↦ hs.fresh k (Nat.le_of_succ_le hk)⟩
    rcases List.mem_append.1 hm with hm | hm
    · exact hs.commits m hm
    · obtain rfl := List.mem_singleton.1 hm
      exact ⟨fun _ ↦ hallow, fun _ ↦ hs.fresh _ le_rfl⟩
  | update k r rows hrows hk =>
    refine ⟨fun c hc k' hlink hcommit ↦ ?_, hs.commits, hs.fresh⟩
    rcases Database.mem_markCommitted.1 hc with ⟨hc, -⟩ | ⟨b, hb, rfl⟩
    · exact hs.changes c hc k' hlink hcommit
    · obtain rfl := (Database.mem_pending.1 hb).2.1
      exact hallow.1

/-- And leaves the rows of the other routers as they are. -/
theorem exec_foreign (hg : ∀ r, σ.router r ↔ g r = true) (hallow : σ.allows s)
    (hexec : exec s v d₁ = some d₁') :
    (d₁'.configChanges.filter fun c ↦ !g c.routerId) =
        d₁.configChanges.filter (fun c ↦ !g c.routerId) ∧
      (d₁'.configCommits.filter fun c ↦ !g c.routerId) =
        d₁.configCommits.filter fun c ↦ !g c.routerId := by
  -- the router of the statement is one of the scope
  have hpending : ∀ {r : Uuid} {c : ConfigChange}, σ.router r → (!g c.routerId) = true →
      c.isPending r = false := by
    intro r c hr hc
    refine Bool.eq_false_iff.2 fun hp ↦ ?_
    rw [isPending_routerId hp, (hg r).1 hr] at hc
    cases hc
  cases exec_effect hexec with
  | look => exact ⟨rfl, rfl⟩
  | delete r f =>
    refine ⟨?_, rfl⟩
    show (d₁.configChanges.filter fun c ↦ !f.hits r c).filter _ = _
    rw [List.filter_filter]
    refine List.filter_congr fun c _ ↦ ?_
    cases hc : !g c.routerId with
    | false => rfl
    | true =>
      rw [Filter.hits, hpending hallow hc]
      rfl
  | insert r now c =>
    refine ⟨?_, rfl⟩
    have hr : g (d₁.newChange r now c).routerId = true := (hg r).1 hallow
    show (d₁.configChanges ++ [_]).filter _ = _
    rw [List.filter_append, List.filter_singleton, hr]
    exact List.append_nil _
  | record now c =>
    refine ⟨rfl, ?_⟩
    have hr : g (d₁.newCommit now c).routerId = true := (hg _).1 hallow
    show (d₁.configCommits ++ [_]).filter _ = _
    rw [List.filter_append, List.filter_singleton, hr]
    exact List.append_nil _
  | update k r rows hrows hk =>
    refine ⟨?_, rfl⟩
    have hkeep : ((fun c : ConfigChange ↦ !g c.routerId) ∘ fun c : ConfigChange ↦
        if c.isPending r then c.mark k else c) = fun c ↦ !g c.routerId := by
      funext c
      show (!g (if c.isPending r then c.mark k else c).routerId) = _
      split <;> rfl
    rw [Database.markCommitted, List.filter_map, hkeep]
    refine (List.map_congr_left fun c hc ↦ ?_).trans (List.map_id _)
    rw [hpending hallow.1 (List.mem_filter.1 hc).2]
    rfl

end Trays

/-! ### All tables -/

theorem sees_iff {w : Fabric} {u site : Uuid} :
    w.sees u site = true ↔ ∃ a ∈ w.userSiteAccess, a.userId = u ∧ a.siteId = site := by
  simp [Fabric.sees, Fabric.siteIds, and_assoc]

theorem reaches_iff {w : Fabric} {u router : Uuid} :
    w.reaches u router = true ↔ ∃ r ∈ w.routers, r.id = router ∧ w.sees u r.siteId = true := by
  simp [Fabric.reaches]

/-- An authorization finds the routers within reach. -/
theorem grantedRouter_eq (w : Fabric) (u router : Uuid) :
    w.review.grantedRouter router u = if w.reaches u router then some router else none := by
  have hmatch : ∀ r : RouterRow, (r.operated.id == router &&
      w.review.userSiteAccess.any fun a ↦ a.siteId == r.operated.siteId && a.userId == u) = true ↔
      r.id = router ∧ w.sees u r.siteId = true := by
    intro r
    rw [Bool.and_eq_true_iff, beq_iff_eq, sees_iff, List.any_eq_true]
    refine and_congr Iff.rfl (exists_congr fun a ↦ and_congr Iff.rfl ?_)
    rw [Bool.and_eq_true_iff, beq_iff_eq, beq_iff_eq, and_comm]
    rfl
  rw [Database.grantedRouter, Fabric.review, List.find?_map, Option.map_map]
  cases hfind : w.routers.find? _ with
  | none =>
    rw [if_neg]
    · rfl
    · intro hreach
      obtain ⟨r, hr, hr'⟩ := reaches_iff.1 hreach
      exact List.find?_eq_none.1 hfind r hr ((hmatch r).2 hr')
  | some r =>
    have hmatched := List.find?_some hfind
    have hr := (hmatch r).1 hmatched
    rw [if_pos (reaches_iff.2 ⟨r, List.mem_of_find?_eq_some hfind, hr⟩)]
    exact congrArg some hr.1

section Fabric

variable {A : Argon2} {u : Uuid} {σ : Scope} {v₁ v₂ v₁' : Fabric} {s : FabricStatement}
  {v : s.Reply}

/-- A router within reach is on a site that is seen. -/
theorem sees_of_reaches {w : Fabric} (hw : w.Keyed) {r : RouterRow} (hr : r ∈ w.routers)
    (hreach : w.reaches u r.id = true) : w.sees u r.siteId = true := by
  obtain ⟨r', hr', hid, hsees⟩ := reaches_iff.1 hreach
  obtain rfl := List.inj_on_of_nodup_map hw.routers.nodup hr' hr hid
  exact hsees

/-- The row of a router within reach. -/
theorem Agree.router (h : Agree u v₁ v₂) (hk₁ : v₁.Keyed) (hk₂ : v₂.Keyed) {r : Uuid}
    (hr : v₁.reaches u r = true) : v₁.router r = v₂.router r := by
  have hperm := h.routers
  rw [← h.sees] at hperm
  refine find?_eq_of_perm hperm hk₂.routers.nodup (k := r) (fun _ ↦ beq_iff_eq) ?_ ?_
  · intro a ha hid
    rw [← beq_iff_eq.1 hid] at hr
    exact sees_of_reaches hk₁ ha hr
  · intro a ha hid
    rw [← beq_iff_eq.1 hid, h.reaches] at hr
    rw [h.sees]
    exact sees_of_reaches hk₂ ha hr

/-- The row of a site that is seen. -/
theorem Agree.site (h : Agree u v₁ v₂) (hk₂ : v₂.Keyed) {site : Uuid}
    (hs : v₁.sees u site = true) : v₁.site site = v₂.site site := by
  have hperm := h.sites
  rw [← h.sees] at hperm
  have himp : ∀ a : Site, (a.id == site) = true → v₁.sees u a.id = true := by
    intro a ha
    rw [beq_iff_eq.1 ha]
    exact hs
  exact find?_eq_of_perm hperm hk₂.sites.nodup (k := site) (fun _ ↦ beq_iff_eq)
    (fun a _ ↦ himp a) fun a _ ↦ himp a

theorem Agree.sameTray (h : Agree u v₁ v₂) (hk₁ : v₁.Keyed) (hk₂ : v₂.Keyed) (huser : σ.user = u)
    (hg : ∀ r, σ.router r ↔ v₁.reaches u r = true) :
    SameTray σ (v₁.reaches u) v₁.review v₂.review := by
  have hchanges := h.configChanges
  have hcommits := h.configCommits
  rw [← h.reaches] at hchanges hcommits
  refine ⟨fun r ↦ ?_, fun r hr ↦ ?_, hchanges, hcommits, h.nextChange, h.nextCommit⟩
  · rw [huser, grantedRouter_eq, grantedRouter_eq, h.reaches]
  · have hrow := h.router hk₁ hk₂ ((hg r).1 hr)
    show List.find? _ (v₁.routers.map RouterRow.operated) =
      List.find? _ (v₂.routers.map RouterRow.operated)
    rw [List.find?_map, List.find?_map]
    exact congrArg (Option.map RouterRow.operated) hrow

/-- The access rows of the user. -/
theorem Agree.accessRows (h : Agree u v₁ v₂) (hk₂ : v₂.Keyed) :
    (v₁.accessRows.filter fun a ↦ a.userId == u).Perm
      (v₂.accessRows.filter fun a ↦ a.userId == u) := by
  have hrows : ∀ w : Fabric, (w.accessRows.filter fun a ↦ a.userId == u) =
      (w.userSiteAccess.filter fun a ↦ a.userId == u).filterMap fun a ↦
        (w.site a.siteId).map fun s ↦ ⟨a.userId, a.siteId, s.name, a.role⟩ := by
    intro w
    rw [Fabric.accessRows, List.filter_filterMap, List.filterMap_filter]
    refine List.filterMap_congr fun a _ ↦ ?_
    cases w.site a.siteId with
    | none => split <;> rfl
    | some s => rfl
  rw [hrows, hrows]
  refine (h.grants.filterMap _).trans (List.Perm.of_eq (List.filterMap_congr fun a ha ↦ ?_))
  obtain ⟨ha, huser⟩ := List.mem_filter.1 ha
  -- the sites of the grants are seen
  have hsees : v₁.sees u a.siteId = true := by
    rw [h.sees]
    exact sees_iff.2 ⟨a, ha, beq_iff_eq.1 huser, rfl⟩
  rw [h.site hk₂ hsees]

/-- A fault can always be the answer. -/
theorem exec_error (A : Argon2) (s : FabricStatement) (e : Fault) (w : Fabric) :
    w.exec A s (.error e) = some w := by
  cases s with
  | review s => cases s <;> rfl
  | _ => rfl

/-- **One statement inside the scope of the grants** is answered alike wherever the tables look the
same to the user, and then they still do. -/
theorem exec_agree (h : Agree u v₁ v₂) (hk₁ : v₁.Keyed) (hk₂ : v₂.Keyed) (huser : σ.user = u)
    (hg : ∀ r, σ.router r ↔ v₁.reaches u r = true) (hsite : ∀ t, σ.site t ↔ v₁.sees u t = true)
    (hs₁ : Sealed σ v₁.review) (hs₂ : Sealed σ v₂.review) (hpermit : σ.permits s)
    (hexec : v₁.exec A s v = some v₁') :
    ∃ v₂', v₂.exec A s v = some v₂' ∧ Agree u v₁' v₂' := by
  have hsites := h.sites
  have hrouters := h.routers
  rw [← h.sees] at hsites hrouters
  cases v with
  | error e =>
    obtain rfl := exec_fault hexec
    exact ⟨v₂, exec_error A s e v₂, h⟩
  | ok x =>
    cases s with
    | review s =>
      obtain ⟨d₁', hd₁, rfl⟩ := Option.map_eq_some_iff.1 hexec
      obtain ⟨d₂', hd₂, htray⟩ :=
        exec_sameTray (h.sameTray hk₁ hk₂ huser hg) hg hs₁ hs₂ hpermit hd₁
      have hchanges := htray.configChanges
      have hcommits := htray.configCommits
      refine ⟨v₂.withReview d₂', Option.map_eq_some_iff.2 ⟨d₂', hd₂, rfl⟩, ?_⟩
      refine ⟨h.user, h.grants, h.sites, h.routers, ?_, ?_, htray.nextChange, htray.nextCommit⟩
      · show (List.filter (fun c ↦ v₁.reaches u c.routerId) d₁'.configChanges).Perm
          (List.filter (fun c ↦ v₂.reaches u c.routerId) d₂'.configChanges)
        rwa [← h.reaches]
      · show (List.filter (fun c ↦ v₁.reaches u c.routerId) d₁'.configCommits).Perm
          (List.filter (fun c ↦ v₂.reaches u c.routerId) d₂'.configCommits)
        rwa [← h.reaches]
    | hashPassword | selectUserByName | selectUsers | insertUser | updateUser | updatePasswordHash |
      deleteUser | selectAllAccess | insertAccess | deleteAccess | selectSites | insertSite |
      updateSite | deleteSite | selectRouters | insertRouter | updateRouter | deleteRouter =>
      exact hpermit.elim
    | post | info =>
      obtain rfl := Option.some.inj hexec
      exact ⟨v₂, rfl, h⟩
    | selectUser id =>
      obtain rfl : id = u := hpermit.trans huser
      obtain ⟨hrow, rfl⟩ := of_guarded hexec
      exact ⟨v₂, if_pos (hrow.trans h.user), h⟩
    | selectAccess id =>
      obtain rfl : id = u := hpermit.trans huser
      obtain ⟨hrows, rfl⟩ := of_guarded hexec
      exact ⟨v₂, if_pos (hrows.congr (h.accessRows hk₂)), h⟩
    | selectSiteIds id =>
      obtain rfl : id = u := hpermit.trans huser
      obtain ⟨hids, rfl⟩ := of_guarded hexec
      exact ⟨v₂, if_pos (hids.trans h.siteIds), h⟩
    | selectSitesIn ids =>
      obtain ⟨hrows, rfl⟩ := of_guarded hexec
      have hin : ∀ a : Site, ids.contains a.id = true → v₁.sees u a.id = true :=
        fun a ha ↦ (hsite _).1 (hpermit _ (List.contains_iff_mem.1 ha))
      have hperm := perm_filter_of_imp hsites (fun a _ ↦ hin a) fun a _ ↦ hin a
      exact ⟨v₂, if_pos (hrows.congr hperm), h⟩
    | selectSite id =>
      obtain ⟨hrow, rfl⟩ := of_guarded hexec
      exact ⟨v₂, if_pos (hrow.trans (h.site hk₂ ((hsite id).1 hpermit))), h⟩
    | selectRoutersIn ids =>
      obtain ⟨hrows, rfl⟩ := of_guarded hexec
      have hin : ∀ a : RouterRow, ids.contains a.siteId = true → v₁.sees u a.siteId = true :=
        fun a ha ↦ (hsite _).1 (hpermit _ (List.contains_iff_mem.1 ha))
      have hperm := perm_filter_of_imp hrouters (fun a _ ↦ hin a) fun a _ ↦ hin a
      exact ⟨v₂, if_pos (hrows.congr hperm), h⟩
    | selectSiteRouters id =>
      obtain ⟨hrows, rfl⟩ := of_guarded hexec
      have hin : ∀ a : RouterRow, (a.siteId == id) = true → v₁.sees u a.siteId = true := by
        intro a ha
        rw [beq_iff_eq.1 ha]
        exact (hsite id).1 hpermit
      have hperm := perm_filter_of_imp hrouters (fun a _ ↦ hin a) fun a _ ↦ hin a
      exact ⟨v₂, if_pos (hrows.congr hperm), h⟩
    | selectRouterRow id =>
      obtain ⟨hrow, rfl⟩ := of_guarded hexec
      exact ⟨v₂, if_pos (hrow.trans (h.router hk₁ hk₂ ((hg id).1 hpermit))), h⟩

end Fabric

end VyosFabric
