import VyosFabric.Review.Paths

/-!
# The tables along any run

What the statements do to the two review tables, and what follows for every run whoever issues them.
`exec_effect` says once what one statement can do. From it:

* the schema's constraints are kept (`exec_wellFormed`);
* a row that is not pending is never touched again (`exec_mem_of_not_pending`), and a pending row is
  either an old one, unchanged, or has a fresh identifier (`mem_or_fresh_of_exec`);
* an identifier that has left a tray never comes back to it (`exec_settled`);
* the rows linked to a commit change only in the `UPDATE` that names it (`exec_linked`).

The `execAll_…` versions carry each of them along any list of exchanges, so along any interleaving.
-/

namespace VyosFabric

open Interaction

/-! ### What a statement can do -/

/-- A statement that changes a table when it is answered with a value. -/
def Statement.writes : Statement → Bool
  | deletePending _ _ => true
  | insertChange _ _ => true
  | insertCommit _ => true
  | updateCommitted _ _ => true
  | _ => false

/-- `Effect db s v db'`: the statement `s`, answered `v`, takes the tables from `db` to `db'`. -/
inductive Effect (db : Database) : (s : Statement) → s.Reply → Database → Prop
  | delete (r : Uuid) (f : Filter) :
      Effect db (.deletePending r f) (.ok (db.configChanges.filter (f.hits r)).length)
        { db with configChanges := db.configChanges.filter fun c ↦ !f.hits r c }
  | insert (r : Uuid) (now : Timestamp) (c : NewConfigChange) :
      Effect db (.insertChange r c) (.ok (db.newChange r now c))
        { db with
          configChanges := db.configChanges ++ [db.newChange r now c]
          nextChange := db.nextChange + 1 }
  | record (now : Timestamp) (c : NewConfigCommit) :
      Effect db (.insertCommit c) (.ok (db.newCommit now c))
        { db with
          configCommits := db.configCommits ++ [db.newCommit now c]
          nextCommit := db.nextCommit + 1 }
  | update (k r : Uuid) (rows : List ConfigChange)
      (hrows : rows.Perm ((db.pending r).map fun c ↦ c.mark k))
      (hk : k ∈ db.configCommits.map ConfigCommit.id) :
      Effect db (.updateCommitted k r) (.ok rows) { db with configChanges := db.markCommitted k r }
  | look (s : Statement) (v : s.Reply) (hlook : s.writes = false ∨ ∃ e, v = .error e) :
      Effect db s v db

/-- **What one statement can do.** -/
theorem exec_effect {s : Statement} {v : s.Reply} {db db' : Database}
    (h : exec s v db = some db') : Effect db s v db' := by
  cases v with
  | error e =>
    have hdb : some db = some db' := by
      cases s <;> exact h
    obtain rfl := Option.some.inj hdb
    exact Effect.look s _ (Or.inr ⟨e, rfl⟩)
  | ok x =>
    cases s with
    | deletePending r f =>
      obtain ⟨rfl, rfl⟩ := of_guarded h
      exact Effect.delete r f
    | insertChange r c =>
      obtain ⟨hrow, rfl⟩ := of_guarded h
      rw [hrow]
      exact Effect.insert r _ c
    | insertCommit c =>
      obtain ⟨hrow, rfl⟩ := of_guarded h
      rw [hrow]
      exact Effect.record _ c
    | updateCommitted k r =>
      obtain ⟨⟨hrows, hk⟩, rfl⟩ := of_guarded h
      exact Effect.update k r x hrows hk
    | authorizeRouter r u =>
      obtain ⟨-, rfl⟩ := of_guarded h
      exact Effect.look _ _ (Or.inl rfl)
    | selectRouter r =>
      obtain ⟨-, rfl⟩ := of_guarded h
      exact Effect.look _ _ (Or.inl rfl)
    | selectPending r =>
      obtain ⟨-, rfl⟩ := of_guarded h
      exact Effect.look _ _ (Or.inl rfl)
    | selectCommits r =>
      obtain ⟨-, rfl⟩ := of_guarded h
      exact Effect.look _ _ (Or.inl rfl)
    | selectLinked k =>
      obtain ⟨-, rfl⟩ := of_guarded h
      exact Effect.look _ _ (Or.inl rfl)
    | showConfig client path =>
      obtain rfl := Option.some.inj h
      exact Effect.look _ _ (Or.inl rfl)
    | configure client batch =>
      obtain rfl := Option.some.inj h
      exact Effect.look _ _ (Or.inl rfl)
    | save client file =>
      obtain rfl := Option.some.inj h
      exact Effect.look _ _ (Or.inl rfl)

/-- The read of a tray answers with its rows and changes nothing. -/
theorem exec_selectPending {r : Uuid} {rows : List ConfigChange} {db db' : Database}
    (h : exec (.selectPending r) (.ok rows) db = some db') :
    rows.Perm (db.pending r) ∧ db' = db := by
  obtain ⟨⟨hperm, -⟩, rfl⟩ := of_guarded h
  exact ⟨hperm, rfl⟩

/-! ### Rows of a table -/

namespace Database

variable {db : Database} {r k : Uuid} {c : ConfigChange}

theorem mem_pending :
    c ∈ db.pending r ↔ c ∈ db.configChanges ∧ c.routerId = r ∧ c.status = .pending := by
  simp [pending, ConfigChange.isPending]

theorem mem_linked : c ∈ db.linked k ↔ c ∈ db.configChanges ∧ c.commitId = some k := by
  simp [linked]

theorem mem_markCommitted :
    c ∈ db.markCommitted k r ↔
      (c ∈ db.configChanges ∧ c ∉ db.pending r) ∨ ∃ b ∈ db.pending r, c = b.mark k := by
  rw [markCommitted, List.mem_map]
  constructor
  · rintro ⟨b, hb, rfl⟩
    by_cases hp : b.isPending r = true
    · rw [if_pos hp]
      exact Or.inr ⟨b, List.mem_filter.2 ⟨hb, hp⟩, rfl⟩
    · rw [if_neg hp]
      exact Or.inl ⟨hb, fun hmem ↦ hp (List.mem_filter.1 hmem).2⟩
  · rintro (⟨hc, hnot⟩ | ⟨b, hb, rfl⟩)
    · refine ⟨c, hc, if_neg fun hp ↦ hnot (List.mem_filter.2 ⟨hc, hp⟩)⟩
    · obtain ⟨hb, hp⟩ := List.mem_filter.1 hb
      exact ⟨b, hb, if_pos hp⟩

/-- Marking changes no identifier. -/
theorem map_id_markCommitted :
    (db.markCommitted k r).map ConfigChange.id = db.configChanges.map ConfigChange.id := by
  rw [markCommitted, List.map_map]
  refine List.map_congr_left fun c _ ↦ ?_
  show (if c.isPending r then c.mark k else c).id = c.id
  split <;> rfl

/-- Marking empties the tray. -/
theorem pending_markCommitted :
    ({ db with configChanges := db.markCommitted k r } : Database).pending r = [] := by
  refine List.filter_eq_nil_iff.2 fun c hc hp ↦ ?_
  have hpend : c ∈ ({ db with configChanges := db.markCommitted k r } : Database).pending r :=
    List.mem_filter.2 ⟨hc, hp⟩
  rcases mem_markCommitted.1 hc with ⟨hold, hnot⟩ | ⟨b, -, rfl⟩
  · exact hnot (List.mem_filter.2 ⟨hold, hp⟩)
  · cases (mem_pending.1 hpend).2.2

theorem hits_iff {f : Filter} :
    f.hits r c = true ↔ (c.routerId = r ∧ c.status = .pending) ∧ f.matches c = true := by
  simp [Filter.hits, ConfigChange.isPending]

/-! ### The constraints of the schema -/

/-- Primary keys, the foreign key of `commit_id`, and identifiers that are still to be given. -/
structure WellFormed (db : Database) : Prop where
  changeId_nodup : (db.configChanges.map ConfigChange.id).Nodup
  changeId_lt : ∀ c ∈ db.configChanges, c.id < db.nextChange
  commitId_nodup : (db.configCommits.map ConfigCommit.id).Nodup
  commitId_lt : ∀ m ∈ db.configCommits, m.id < db.nextCommit
  link : ∀ c ∈ db.configChanges, ∀ k, c.commitId = some k →
    k ∈ db.configCommits.map ConfigCommit.id

/-- A row is determined by its identifier. -/
theorem WellFormed.eq_of_id (hwf : db.WellFormed) {d : ConfigChange} (hc : c ∈ db.configChanges)
    (hd : d ∈ db.configChanges) (hid : c.id = d.id) : c = d :=
  List.inj_on_of_nodup_map hwf.changeId_nodup hc hd hid

theorem WellFormed.configChanges_nodup (hwf : db.WellFormed) : db.configChanges.Nodup :=
  List.Nodup.of_map _ hwf.changeId_nodup

theorem WellFormed.pending_nodup (hwf : db.WellFormed) (r : Uuid) : (db.pending r).Nodup :=
  hwf.configChanges_nodup.filter _

/-- No row is linked to a commit that is still to be recorded. -/
theorem WellFormed.linked_nextCommit (hwf : db.WellFormed) : db.linked db.nextCommit = [] := by
  refine List.filter_eq_nil_iff.2 fun c hc hlink ↦ ?_
  obtain ⟨m, hm, hid⟩ := List.mem_map.1 (hwf.link c hc db.nextCommit (by simpa using hlink))
  exact absurd hid (hwf.commitId_lt m hm).ne

/-- The identifier `x` is in use or was, and no row of the tray of `r` has it. -/
def Settled (db : Database) (r x : Uuid) : Prop :=
  x < db.nextChange ∧ ∀ c ∈ db.pending r, c.id ≠ x

/-- Only rows that left the tray are linked to `k`. -/
def LinkedDone (db : Database) (k : Uuid) : Prop :=
  ∀ c ∈ db.linked k, c.status ≠ .pending

end Database

/-- The rows linked to a commit whose identifier is new are those its `UPDATE` marks. -/
theorem linked_markCommitted {m : Database} {k r : Uuid} (hnone : m.linked k = []) :
    ({ m with configChanges := m.markCommitted k r } : Database).linked k =
      (m.pending r).map fun c ↦ c.mark k := by
  show (m.configChanges.map _).filter _ = _
  rw [List.filter_map, Database.pending]
  have hcongr : ∀ c ∈ m.configChanges,
      ((if c.isPending r then c.mark k else c).commitId == some k) = c.isPending r := by
    intro c hc
    by_cases hp : c.isPending r = true
    · rw [if_pos hp, hp]
      simp [ConfigChange.mark]
    · have hnot : c.commitId ≠ some k := fun hlink ↦ by
        have hmem : c ∈ m.linked k := Database.mem_linked.2 ⟨hc, hlink⟩
        rw [hnone] at hmem
        cases hmem
      rw [if_neg hp, Bool.eq_false_iff.2 hp]
      simpa using hnot
  rw [List.filter_congr (q := fun c ↦ c.isPending r) hcongr]
  refine List.map_congr_left fun c hc ↦ ?_
  rw [if_pos (List.mem_filter.1 hc).2]

/-! ### One statement -/

section Step

variable {s : Statement} {v : s.Reply} {db db' : Database}

/-- **The schema's constraints are kept.** -/
theorem exec_wellFormed (h : exec s v db = some db') (hwf : db.WellFormed) : db'.WellFormed := by
  cases exec_effect h with
  | look => exact hwf
  | delete r f =>
    -- fewer rows: every constraint is inherited
    have hsub : (db.configChanges.filter fun c ↦ !f.hits r c).Sublist db.configChanges :=
      List.filter_sublist
    exact
      { changeId_nodup := hwf.changeId_nodup.sublist (hsub.map _)
        changeId_lt := fun c hc ↦ hwf.changeId_lt c (hsub.subset hc)
        commitId_nodup := hwf.commitId_nodup
        commitId_lt := hwf.commitId_lt
        link := fun c hc ↦ hwf.link c (hsub.subset hc) }
  | insert r now c =>
    -- the new row takes an identifier above all others and names no commit
    refine
      { changeId_nodup := ?_
        changeId_lt := ?_
        commitId_nodup := hwf.commitId_nodup
        commitId_lt := hwf.commitId_lt
        link := ?_ }
    · rw [List.map_append, List.map_singleton]
      refine List.nodup_append.2 ⟨hwf.changeId_nodup, List.nodup_singleton _, ?_⟩
      intro x hx y hy
      obtain ⟨d, hd, rfl⟩ := List.mem_map.1 hx
      obtain rfl := List.mem_singleton.1 hy
      exact (hwf.changeId_lt d hd).ne
    · intro d hd
      rcases List.mem_append.1 hd with hd | hd
      · exact (hwf.changeId_lt d hd).trans (Nat.lt_succ_self _)
      · obtain rfl := List.mem_singleton.1 hd
        exact Nat.lt_succ_self _
    · intro d hd k hk
      rcases List.mem_append.1 hd with hd | hd
      · exact hwf.link d hd k hk
      · obtain rfl := List.mem_singleton.1 hd
        cases hk
  | record now c =>
    refine
      { changeId_nodup := hwf.changeId_nodup
        changeId_lt := hwf.changeId_lt
        commitId_nodup := ?_
        commitId_lt := ?_
        link := ?_ }
    · rw [List.map_append, List.map_singleton]
      refine List.nodup_append.2 ⟨hwf.commitId_nodup, List.nodup_singleton _, ?_⟩
      intro x hx y hy
      obtain ⟨m, hm, rfl⟩ := List.mem_map.1 hx
      obtain rfl := List.mem_singleton.1 hy
      exact (hwf.commitId_lt m hm).ne
    · intro m hm
      rcases List.mem_append.1 hm with hm | hm
      · exact (hwf.commitId_lt m hm).trans (Nat.lt_succ_self _)
      · obtain rfl := List.mem_singleton.1 hm
        exact Nat.lt_succ_self _
    · intro d hd k hk
      rw [List.map_append]
      exact List.mem_append_left _ (hwf.link d hd k hk)
  | update k r rows hrows hk =>
    -- the marked rows keep their identifiers, and the foreign key has vouched for `k`
    refine
      { changeId_nodup := ?_
        changeId_lt := ?_
        commitId_nodup := hwf.commitId_nodup
        commitId_lt := hwf.commitId_lt
        link := ?_ }
    · rw [Database.map_id_markCommitted]
      exact hwf.changeId_nodup
    · intro c hc
      rcases Database.mem_markCommitted.1 hc with ⟨hc, -⟩ | ⟨b, hb, rfl⟩
      · exact hwf.changeId_lt c hc
      · exact hwf.changeId_lt b (Database.mem_pending.1 hb).1
    · intro c hc k' hk'
      rcases Database.mem_markCommitted.1 hc with ⟨hc, -⟩ | ⟨b, hb, rfl⟩
      · exact hwf.link c hc k' hk'
      · obtain rfl := Option.some.inj hk'
        exact hk

theorem exec_nextChange_le (h : exec s v db = some db') : db.nextChange ≤ db'.nextChange := by
  cases exec_effect h with
  | insert => exact Nat.le_succ _
  | look => exact le_rfl
  | delete => exact le_rfl
  | record => exact le_rfl
  | update => exact le_rfl

theorem exec_nextCommit_le (h : exec s v db = some db') : db.nextCommit ≤ db'.nextCommit := by
  cases exec_effect h with
  | record => exact Nat.le_succ _
  | look => exact le_rfl
  | delete => exact le_rfl
  | insert => exact le_rfl
  | update => exact le_rfl

/-- **Rows that are not pending stay.** -/
theorem exec_mem_of_not_pending (h : exec s v db = some db') {c : ConfigChange}
    (hc : c ∈ db.configChanges) (hnp : c.status ≠ .pending) : c ∈ db'.configChanges := by
  cases exec_effect h with
  | look => exact hc
  | record => exact hc
  | insert => exact List.mem_append_left _ hc
  | delete r f =>
    refine List.mem_filter.2 ⟨hc, ?_⟩
    rw [Bool.not_eq_true', Bool.eq_false_iff]
    exact fun hhit ↦ hnp (Database.hits_iff.1 hhit).1.2
  | update k r rows hrows hk =>
    exact Database.mem_markCommitted.2
      (Or.inl ⟨hc, fun hmem ↦ hnp (Database.mem_pending.1 hmem).2.2⟩)

/-- **Where a pending row comes from**: it was there before, or it is the row of an insert. -/
theorem mem_or_inserted_of_exec (h : exec s v db = some db') {c : ConfigChange}
    (hc : c ∈ db'.configChanges) (hp : c.status = .pending) :
    c ∈ db.configChanges ∨ ∃ n, (⟨s, v⟩ : Event) = ⟨.insertChange c.routerId n, .ok c⟩ := by
  cases exec_effect h with
  | look => exact Or.inl hc
  | record => exact Or.inl hc
  | insert r now d =>
    rcases List.mem_append.1 hc with hc | hc
    · exact Or.inl hc
    · obtain rfl := List.mem_singleton.1 hc
      exact Or.inr ⟨d, rfl⟩
  | delete r f => exact Or.inl (List.mem_filter.1 hc).1
  | update k r rows hrows hk =>
    rcases Database.mem_markCommitted.1 hc with ⟨hc, -⟩ | ⟨b, -, rfl⟩
    · exact Or.inl hc
    · cases hp

/-- Then its identifier is new. -/
theorem mem_or_fresh_of_exec (h : exec s v db = some db') {c : ConfigChange}
    (hc : c ∈ db'.configChanges) (hp : c.status = .pending) :
    c ∈ db.configChanges ∨ db.nextChange ≤ c.id := by
  refine (mem_or_inserted_of_exec h hc hp).imp_right fun ⟨n, hinsert⟩ ↦ ?_
  cases hinsert
  obtain ⟨hrow, -⟩ := of_guarded h
  exact (congrArg ConfigChange.id hrow).ge

/-- **What left a tray stays out of it.** -/
theorem exec_settled (h : exec s v db = some db') {r x : Uuid} (hset : db.Settled r x) :
    db'.Settled r x := by
  refine ⟨hset.1.trans_le (exec_nextChange_le h), fun c hc hid ↦ ?_⟩
  obtain ⟨hmem, hr, hp⟩ := Database.mem_pending.1 hc
  rcases mem_or_fresh_of_exec h hmem hp with hold | hnew
  · exact hset.2 c (Database.mem_pending.2 ⟨hold, hr, hp⟩) hid
  · exact absurd hid (hset.1.trans_le hnew).ne'

theorem exec_linkedDone (h : exec s v db = some db') {k : Uuid} (hdone : db.LinkedDone k) :
    db'.LinkedDone k := by
  intro c hc
  obtain ⟨hmem, hlink⟩ := Database.mem_linked.1 hc
  cases exec_effect h with
  | look => exact hdone c hc
  | record => exact hdone c hc
  | insert r now d =>
    rcases List.mem_append.1 hmem with hmem | hmem
    · exact hdone c (Database.mem_linked.2 ⟨hmem, hlink⟩)
    · obtain rfl := List.mem_singleton.1 hmem
      cases hlink
  | delete r f =>
    exact hdone c (Database.mem_linked.2 ⟨(List.mem_filter.1 hmem).1, hlink⟩)
  | update k' r rows hrows hk =>
    rcases Database.mem_markCommitted.1 hmem with ⟨hmem, -⟩ | ⟨b, -, rfl⟩
    · exact hdone c (Database.mem_linked.2 ⟨hmem, hlink⟩)
    · exact fun hp ↦ by cases hp

/-- **The rows linked to a commit** change only in the `UPDATE` that names it. -/
theorem exec_linked (h : exec s v db = some db') {k : Uuid} (hdone : db.LinkedDone k)
    (hk : ∀ r rows, (⟨s, v⟩ : Event) ≠ ⟨.updateCommitted k r, .ok rows⟩) :
    db'.linked k = db.linked k := by
  cases exec_effect h with
  | look => rfl
  | record => rfl
  | insert r now d =>
    show (db.configChanges ++ [_]).filter _ = _
    rw [List.filter_append]
    exact List.append_nil _
  | delete r f =>
    -- a linked row is not pending, and only pending rows are deleted
    show ((db.configChanges.filter _).filter _) = db.configChanges.filter _
    rw [List.filter_filter]
    refine List.filter_congr fun c hc ↦ ?_
    by_cases hlink : c.commitId = some k
    · have hnp := hdone c (Database.mem_linked.2 ⟨hc, hlink⟩)
      simp [hlink, Filter.hits, ConfigChange.isPending, hnp]
    · simp [hlink]
  | update k' r rows hrows hk' =>
    have hne : k' ≠ k := fun heq ↦ hk r rows (by rw [heq])
    show (db.configChanges.map _).filter _ = db.configChanges.filter _
    rw [List.filter_map]
    -- marking links rows to `k'` only, and takes none from `k`
    have hfix : ∀ c ∈ db.configChanges,
        ((if c.isPending r then c.mark k' else c).commitId == some k) = (c.commitId == some k) := by
      intro c hc
      by_cases hp : c.isPending r = true
      · have hnot : c.commitId ≠ some k := fun hlink ↦
          hdone c (Database.mem_linked.2 ⟨hc, hlink⟩)
            (Database.mem_pending.1 (List.mem_filter.2 ⟨hc, hp⟩)).2.2
        rw [if_pos hp]
        simp [ConfigChange.mark, hne, hnot]
      · rw [if_neg hp]
    rw [List.filter_congr (q := fun c ↦ c.commitId == some k) hfix]
    refine (List.map_congr_left fun c hc ↦ ?_).trans (List.map_id _)
    obtain ⟨hc, hlink⟩ := List.mem_filter.1 hc
    refine if_neg fun hp ↦ ?_
    exact hdone c (Database.mem_linked.2 ⟨hc, by simpa using hlink⟩)
      (Database.mem_pending.1 (List.mem_filter.2 ⟨hc, hp⟩)).2.2

/-- Commit rows are only ever appended. -/
theorem configCommits_prefix_of_exec (h : exec s v db = some db') :
    db.configCommits <+: db'.configCommits := by
  cases exec_effect h with
  | record now c => exact List.prefix_append _ _
  | look => exact List.prefix_rfl
  | delete => exact List.prefix_rfl
  | insert => exact List.prefix_rfl
  | update => exact List.prefix_rfl

/-- A statement that `touches` does not select leaves the tables alone. -/
theorem exec_eq_of_silent (hs : s.touches = false) (h : exec s v db = some db') : db' = db := by
  cases exec_effect h with
  | look => rfl
  | delete => cases hs
  | insert => cases hs
  | record => cases hs
  | update => cases hs

end Step

/-! ### Along a list of exchanges -/

section Along

variable {h : List Event} {db db' : Database}

theorem execAll_wellFormed (hexec : execAll exec h db = some db') (hwf : db.WellFormed) :
    db'.WellFormed :=
  execAll_invariant (fun _ _ _ _ hstep ↦ exec_wellFormed hstep) hexec hwf

theorem execAll_nextChange_le (hexec : execAll exec h db = some db') :
    db.nextChange ≤ db'.nextChange :=
  execAll_invariant (P := fun d ↦ db.nextChange ≤ d.nextChange)
    (fun _ _ _ _ hstep hle ↦ hle.trans (exec_nextChange_le hstep)) hexec le_rfl

theorem execAll_nextCommit_le (hexec : execAll exec h db = some db') :
    db.nextCommit ≤ db'.nextCommit :=
  execAll_invariant (P := fun d ↦ db.nextCommit ≤ d.nextCommit)
    (fun _ _ _ _ hstep hle ↦ hle.trans (exec_nextCommit_le hstep)) hexec le_rfl

theorem execAll_mem_of_not_pending (hexec : execAll exec h db = some db') {c : ConfigChange}
    (hc : c ∈ db.configChanges) (hnp : c.status ≠ .pending) : c ∈ db'.configChanges :=
  execAll_invariant (P := fun d ↦ c ∈ d.configChanges)
    (fun _ _ _ _ hstep hc ↦ exec_mem_of_not_pending hstep hc hnp) hexec hc

theorem execAll_settled (hexec : execAll exec h db = some db') {r x : Uuid}
    (hset : db.Settled r x) : db'.Settled r x :=
  execAll_invariant (P := fun d ↦ d.Settled r x) (fun _ _ _ _ hstep ↦ exec_settled hstep) hexec hset

theorem execAll_linked (hexec : execAll exec h db = some db') {k : Uuid} (hdone : db.LinkedDone k)
    (hk : ∀ x ∈ h, ∀ r rows, x ≠ ⟨.updateCommitted k r, .ok rows⟩) :
    db'.linked k = db.linked k := by
  have hinv : db'.LinkedDone k ∧ db'.linked k = db.linked k :=
    execAll_invariant (P := fun d ↦ d.LinkedDone k ∧ d.linked k = db.linked k)
      (fun x hx _ _ hstep hd ↦
        ⟨exec_linkedDone hstep hd.1, (exec_linked hstep hd.1 (hk x hx)).trans hd.2⟩)
      hexec ⟨hdone, rfl⟩
  exact hinv.2

theorem configCommits_prefix_of_execAll (hexec : execAll exec h db = some db') :
    db.configCommits <+: db'.configCommits :=
  execAll_invariant (P := fun d ↦ db.configCommits <+: d.configCommits)
    (fun _ _ _ _ hstep hp ↦ hp.trans (configCommits_prefix_of_exec hstep)) hexec List.prefix_rfl

/-- A pending row was there before, unchanged, or its identifier is new. -/
theorem mem_or_fresh_of_execAll (hexec : execAll exec h db = some db') {c : ConfigChange}
    (hc : c ∈ db'.configChanges) (hp : c.status = .pending) :
    c ∈ db.configChanges ∨ db.nextChange ≤ c.id := by
  have hinv : db.nextChange ≤ db'.nextChange ∧ (c ∈ db'.configChanges →
      c ∈ db.configChanges ∨ db.nextChange ≤ c.id) :=
    execAll_invariant
      (P := fun d ↦ db.nextChange ≤ d.nextChange ∧ (c ∈ d.configChanges →
        c ∈ db.configChanges ∨ db.nextChange ≤ c.id))
      (fun _ _ _ _ hstep hd ↦ ⟨hd.1.trans (exec_nextChange_le hstep), fun hc ↦
        (mem_or_fresh_of_exec hstep hc hp).elim hd.2 fun hnew ↦ Or.inr (hd.1.trans hnew)⟩)
      hexec ⟨le_rfl, Or.inl⟩
  exact hinv.2 hc

/-- A pending row was there before, unchanged, or was inserted on the way. -/
theorem mem_or_inserted_of_execAll (hexec : execAll exec h db = some db') {c : ConfigChange}
    (hc : c ∈ db'.configChanges) (hp : c.status = .pending) :
    c ∈ db.configChanges ∨ ∃ n, (⟨.insertChange c.routerId n, .ok c⟩ : Event) ∈ h := by
  have hinv : c ∈ db'.configChanges →
      c ∈ db.configChanges ∨ ∃ n, (⟨.insertChange c.routerId n, .ok c⟩ : Event) ∈ h :=
    execAll_invariant
      (P := fun d ↦ c ∈ d.configChanges →
        c ∈ db.configChanges ∨ ∃ n, (⟨.insertChange c.routerId n, .ok c⟩ : Event) ∈ h)
      (fun x hx _ _ hstep hd hc ↦ by
        rcases mem_or_inserted_of_exec hstep hc hp with hold | ⟨n, hn⟩
        · exact hd hold
        · exact Or.inr ⟨n, hn ▸ hx⟩)
      hexec Or.inl
  exact hinv hc

/-- A row that is still pending is the row it was. -/
theorem eq_of_pending_of_id (hwf : db.WellFormed) (hexec : execAll exec h db = some db')
    {b c : ConfigChange} (hb : b ∈ db.configChanges) (hc : c ∈ db'.configChanges)
    (hp : c.status = .pending) (hid : c.id = b.id) : c = b := by
  rcases mem_or_fresh_of_execAll hexec hc hp with hold | hnew
  · exact hwf.eq_of_id hold hb hid
  · exact absurd hid ((hwf.changeId_lt b hb).trans_le hnew).ne'

/-- A row of a tray is in use. -/
theorem Database.WellFormed.pending_lt (hwf : db.WellFormed) {r : Uuid} {c : ConfigChange}
    (hc : c ∈ db.pending r) : c.id < db.nextChange :=
  hwf.changeId_lt c (Database.mem_pending.1 hc).1

end Along

end VyosFabric
