import VyosFabric.Review.Runs

/-!
# Commit agreement

When the device has accepted a batch, the commit records the attempt, with the number of rows it had
read, and marks the tray. The rows linked to the commit should be the rows it sent. The `UPDATE`
selects anew, so `agrees_iff` finds this to hold exactly when the tray at the `UPDATE` is the tray
the `SELECT` had read, whatever ran in between.
-/

namespace VyosFabric

open Interaction

section

variable {Pid : Type} {db : Database} {tr : List (Pid × Event)} {i : Pid}

/-! ### The rows linked to a commit -/

/-- A commit that was recorded and not marked since has no rows. -/
theorem linked_of_unmarked (hwf : db.WellFormed) {n : NewConfigCommit} {C : ConfigCommit}
    (hmem : (i, (⟨.insertCommit n, .ok C⟩ : Event)) ∈ tr) {m : Database} (hm : TablesAt db tr m)
    (hnone : ∀ j r rows, (j, (⟨.updateCommitted C.id r, .ok rows⟩ : Event)) ∉ tr) :
    m.linked C.id = [] := by
  obtain ⟨a, b, rfl⟩ := List.append_of_mem hmem
  obtain ⟨m₀, ha, hrest⟩ := tablesAt_append.1 hm
  obtain ⟨m₁, hstep, hb⟩ := tablesAt_cons.1 hrest
  obtain ⟨hrow, rfl⟩ := of_guarded hstep
  have hid : C.id = m₀.nextCommit := by rw [hrow]; rfl
  have hlinked : m₀.linked C.id = [] := by
    rw [hid]
    exact (execAll_wellFormed ha hwf).linked_nextCommit
  have hdone : m₀.LinkedDone C.id := by
    intro c hc
    rw [hlinked] at hc
    cases hc
  have hkeep := execAll_linked hb (k := C.id) hdone ?_
  · exact hkeep.trans hlinked
  · intro x hx r rows hupd
    obtain ⟨⟨j, y⟩, hy, rfl⟩ := List.mem_map.1 hx
    subst hupd
    exact hnone j r rows (List.mem_append_right a (List.mem_cons_of_mem _ hy))

variable [DecidableEq Pid] {calls : Pid → Call}
  {s : Pool Statement Statement.Reply AppError Response Database Pid}

/-- Only the process that recorded a commit runs an `UPDATE` for it. -/
theorem ReviewRun.update_own (hrun : ReviewRun db calls tr s) {n : NewConfigCommit}
    {C : ConfigCommit} (hins : (i, (⟨.insertCommit n, .ok C⟩ : Event)) ∈ tr) {j : Pid} {r : Uuid}
    {v : Except Fault (List ConfigChange)}
    (hupd : (j, (⟨.updateCommitted C.id r, v⟩ : Event)) ∈ tr) : j = i := by
  by_contra hne
  obtain ⟨row, hid, -, ⟨rows, client, resp, saves, saved, -, -, -, hpath⟩⟩ :=
    hrun.update_recorded hupd
  have hmem : (⟨.insertCommit (commitRecord (calls j).claims (calls j).id rows resp saved),
      .ok row⟩ : Event) ∈ Prog.visible Statement.touches (proj j tr) := by
    rw [hpath]
    exact List.mem_append_left _ record_mem_recordedEvents
  exact hrun.recorded_ne hne (mem_proj.1 (Prog.mem_visible.1 hmem).1) hins hid.symm

/-- A recorded commit counts the rows it read, in 32 bits. -/
theorem ReviewRun.changeCount_of_recorded (hrun : ReviewRun db calls tr s) {n : NewConfigCommit}
    {C : ConfigCommit} (hins : (i, (⟨.insertCommit n, .ok C⟩ : Event)) ∈ tr) :
    C.changeCount = n.changeCount := by
  obtain ⟨a, b, rfl⟩ := List.append_of_mem hins
  obtain ⟨m, -, hrest⟩ := tablesAt_append.1 hrun.execs
  obtain ⟨m₁, hstep, -⟩ := tablesAt_cons.1 hrest
  obtain ⟨hrow, -⟩ := of_guarded hstep
  rw [hrow]
  rfl

/-- **The rows linked to a commit, once marked**, are the tray at its `UPDATE`. -/
theorem ReviewRun.linked_of_marked (hwf : db.WellFormed) {tr₁ tr₂ : List (Pid × Event)}
    {C : ConfigCommit} {changes : List ConfigChange} {n : NewConfigCommit}
    (hrun : ReviewRun db calls
      (tr₁ ++ (i, ⟨.updateCommitted C.id (calls i).id, .ok changes⟩) :: tr₂) s)
    (hins : (i, (⟨.insertCommit n, .ok C⟩ : Event)) ∈
      tr₁ ++ (i, ⟨.updateCommitted C.id (calls i).id, .ok changes⟩) :: tr₂)
    {m : Database} (hm : TablesAt db tr₁ m) :
    s.state.linked C.id = (m.pending (calls i).id).map fun c ↦ c.mark C.id := by
  obtain ⟨row, hid, -, hmarks⟩ :=
    hrun.update_recorded (List.mem_append_right tr₁ List.mem_cons_self)
  rw [proj_append, proj_cons_self, Prog.visible_append, Prog.visible_cons_of_pos rfl] at hmarks
  obtain ⟨hlast, rows, client, resp, saves, saved, hsave, hfirst⟩ := hmarks.split
  -- the own steps of the request before and after the `UPDATE` hold no other one, so no row is
  -- linked before it and none is linked or unlinked after it
  have hown : ∀ tr' : List (Pid × Event), (∀ x ∈ Prog.visible Statement.touches (proj i tr'),
      ∀ k r, x.1 ≠ .updateCommitted k r) →
      (∀ x ∈ tr', x ∈ tr₁ ++ (i, ⟨.updateCommitted C.id (calls i).id, .ok changes⟩) :: tr₂) →
      ∀ j r rows, (j, (⟨.updateCommitted C.id r, .ok rows⟩ : Event)) ∉ tr' := by
    intro tr' hnone hsub j r rows hmem
    obtain rfl := hrun.update_own hins (hsub _ hmem)
    exact hnone _ (Prog.mem_visible.2 ⟨mem_proj.2 hmem, rfl⟩) C.id r rfl
  have hbefore := hown tr₁
    (fun x hx ↦ ne_update_of_mem_recordedEvents hsave (hfirst ▸ hx))
    (fun x hx ↦ List.mem_append_left _ hx)
  have hafter := hown tr₂ (by simp [hlast])
    (fun x hx ↦ List.mem_append_right _ (List.mem_cons_of_mem _ hx))
  have hins₁ : (i, (⟨.insertCommit n, .ok C⟩ : Event)) ∈ tr₁ := by
    rcases List.mem_append.1 hins with hmem | hmem
    · exact hmem
    · rcases List.mem_cons.1 hmem with hmem | hmem
      · cases hmem
      · have hvis : (⟨.insertCommit n, .ok C⟩ : Event) ∈
            Prog.visible Statement.touches (proj i tr₂) :=
          Prog.mem_visible.2 ⟨mem_proj.2 hmem, rfl⟩
        rw [hlast] at hvis
        cases hvis
  obtain ⟨m', hm', hrest⟩ := tablesAt_append.1 hrun.execs
  obtain rfl := hm.unique hm'
  obtain ⟨m₁, hstep, hrest⟩ := tablesAt_cons.1 hrest
  obtain ⟨-, rfl⟩ := of_guarded hstep
  have hmark := linked_markCommitted (r := (calls i).id)
    (linked_of_unmarked hwf hins₁ hm hbefore)
  rw [← hmark]
  refine execAll_linked hrest ?_ ?_
  · intro c hc
    rw [hmark] at hc
    obtain ⟨b, -, rfl⟩ := List.mem_map.1 hc
    exact fun hp ↦ by cases hp
  · intro x hx r rows hupd
    obtain ⟨⟨j, y⟩, hy, rfl⟩ := List.mem_map.1 hx
    subst hupd
    exact hafter j r rows hy

/-! ### Agreement -/

/-- The rows linked to the commit `C` are the rows that were sent, they are committed, and `C`
counts them. -/
structure Agrees (db : Database) (C : ConfigCommit) (sent : List ConfigChange) : Prop where
  linked_iff : ∀ x : Uuid, (∃ c ∈ db.linked C.id, c.id = x) ↔ ∃ b ∈ sent, b.id = x
  committed : ∀ c ∈ db.configChanges, (∃ b ∈ sent, b.id = c.id) → c.status = .committed
  count : C.changeCount = (db.linked C.id).length

/-- The process `i` ran its `UPDATE` for `C` when the tray of its router was `rows`. -/
def MarkedWhatItRead (db : Database) (calls : Pid → Call) (tr : List (Pid × Event)) (i : Pid)
    (C : ConfigCommit) (rows : List ConfigChange) : Prop :=
  ∃ tr₁ tr₂ changes m,
    tr = tr₁ ++ (i, ⟨.updateCommitted C.id (calls i).id, .ok changes⟩) :: tr₂ ∧
      TablesAt db tr₁ m ∧ (m.pending (calls i).id).Perm rows

/-- A commit whose `UPDATE` was answered with an error has no rows. -/
theorem ReviewRun.linked_of_unanswered (hwf : db.WellFormed) (hrun : ReviewRun db calls tr s)
    {n : NewConfigCommit} {C : ConfigCommit}
    (hins : (i, (⟨.insertCommit n, .ok C⟩ : Event)) ∈ tr)
    (hnone : ∀ r rows, (i, (⟨.updateCommitted C.id r, .ok rows⟩ : Event)) ∉ tr) :
    s.state.linked C.id = [] := by
  refine linked_of_unmarked hwf hins hrun.execs fun j r rows hmem ↦ ?_
  obtain rfl := hrun.update_own hins hmem
  exact hnone r rows hmem

/-- If the commit agrees with what it sent, the tray that its `UPDATE` marked is the tray that its
`SELECT` had read. -/
theorem Agrees.perm {m₀ m : Database} {h : List Event} {id : Uuid} {C : ConfigCommit}
    {rows : List ConfigChange} {db' : Database} (hagree : Agrees db' C rows)
    (hwf : m₀.WellFormed) (hexec : execAll exec h m₀ = some m)
    (hread : rows.Perm (m₀.pending id))
    (hlinked : db'.linked C.id = (m.pending id).map fun c ↦ c.mark C.id) :
    (m.pending id).Perm rows := by
  have hwf' : m.WellFormed := execAll_wellFormed hexec hwf
  -- agreement speaks of ids, and on the way from `m₀` to `m` a pending id keeps its row
  have hids : ∀ x : Uuid, (∃ c ∈ m.pending id, c.id = x) ↔ ∃ b ∈ rows, b.id = x := by
    intro x
    rw [← hagree.linked_iff x, hlinked]
    simp [ConfigChange.mark]
  refine (List.perm_ext_iff_of_nodup (hwf'.pending_nodup _)
    (hread.nodup_iff.2 (hwf.pending_nodup _))).2 fun c ↦ ?_
  constructor
  · intro hc
    obtain ⟨d, hd, hid⟩ := (hids c.id).1 ⟨c, hc, rfl⟩
    obtain ⟨hc', -, hp⟩ := Database.mem_pending.1 hc
    have hd' := (Database.mem_pending.1 (hread.mem_iff.1 hd)).1
    rwa [eq_of_pending_of_id hwf hexec hd' hc' hp hid.symm]
  · intro hc
    obtain ⟨d, hd, hid⟩ := (hids c.id).2 ⟨c, hc, rfl⟩
    obtain ⟨hd', -, hp⟩ := Database.mem_pending.1 hd
    have hc' := (Database.mem_pending.1 (hread.mem_iff.1 hc)).1
    rwa [← eq_of_pending_of_id hwf hexec hc' hd' hp hid]

/-- A commit that marked what it had read agrees with what it sent. -/
theorem MarkedWhatItRead.agrees (hwf : db.WellFormed) (hrun : ReviewRun db calls tr s)
    {n : NewConfigCommit} {C : ConfigCommit}
    (hins : (i, (⟨.insertCommit n, .ok C⟩ : Event)) ∈ tr) {rows : List ConfigChange}
    (hmarked : MarkedWhatItRead db calls tr i C rows)
    (hcount : C.changeCount = (rows.length : Int)) : Agrees s.state C rows := by
  obtain ⟨tr₁, tr₂, changes, m, rfl, hm, hsame⟩ := hmarked
  have hlinked := hrun.linked_of_marked hwf hins hm
  have hfinal : s.state.WellFormed := execAll_wellFormed hrun.execs hwf
  refine ⟨fun x ↦ ?_, fun c hc hsent ↦ ?_, ?_⟩
  · rw [hlinked]
    simp [ConfigChange.mark, hsame.mem_iff]
  · obtain ⟨b, hb, hid⟩ := hsent
    have hmark : b.mark C.id ∈ s.state.linked C.id := by
      rw [hlinked]
      exact List.mem_map_of_mem (hsame.mem_iff.2 hb)
    rw [hfinal.eq_of_id hc (Database.mem_linked.1 hmark).1 hid.symm]
    rfl
  · rw [hcount, hlinked, List.length_map, hsame.length_eq]

/-- **Commit agreement.** A finished commit whose batch the device accepted, and which was recorded,
agrees with what it sent exactly if its `UPDATE` ran on the tray its `SELECT` had read and the tray
was short enough to be counted in 32 bits. -/
theorem agrees_iff (hwf : db.WellFormed) (hrun : ReviewRun db calls tr s) {client : VyosClient}
    {rows : List ConfigChange} {v : Except Fault Json}
    (hsend : (i, (⟨.configure client rows, v⟩ : Event)) ∈ tr) (hacc : accepted v = true)
    {n : NewConfigCommit} {C : ConfigCommit}
    (hins : (i, (⟨.insertCommit n, .ok C⟩ : Event)) ∈ tr) (hend : (s.prog i).outcome ≠ none) :
    Agrees s.state C rows ↔ MarkedWhatItRead db calls tr i C rows ∧ rows.length < 2 ^ 31 := by
  have hpath := hrun.commitPath (hrun.request_of_configure hsend)
  obtain ⟨resp, saves, saved, hrows, hsave, -, rfl, hcases⟩ := hpath.recorded_cases
    (Prog.mem_visible.2 ⟨mem_proj.2 hsend, rfl⟩) hacc
    (Prog.mem_visible.2 ⟨mem_proj.2 hins, rfl⟩)
  have hcount : C.changeCount = asI32 rows.length :=
    (hrun.changeCount_of_recorded hins).trans (commitRecord_changeCount _ _ _ _ _)
  obtain ⟨w, hw⟩ := hcases.resolve_left fun h ↦ hend h.1
  constructor
  · intro hagree
    obtain ⟨tr₁, tr₂, rfl, hfirst, -⟩ := exists_split_of_visible_proj hw
    cases w with
    | error e =>
      -- nothing is linked, but something was sent
      have hlinked := hrun.linked_of_unanswered hwf hins fun r changes hmem ↦ by
        have hvis : (⟨.updateCommitted C.id r, .ok changes⟩ : Event) ∈
            Prog.visible Statement.touches (proj i _) := Prog.mem_visible.2 ⟨mem_proj.2 hmem, rfl⟩
        rw [hw] at hvis
        rcases List.mem_append.1 hvis with hvis | hvis
        · exact ne_update_of_mem_recordedEvents hsave hvis C.id r rfl
        · cases List.mem_singleton.1 hvis
      obtain ⟨b, hb⟩ := List.exists_mem_of_ne_nil rows hrows
      obtain ⟨c, hc, -⟩ := (hagree.linked_iff b.id).2 ⟨b, hb, rfl⟩
      rw [hlinked] at hc
      cases hc
    | ok changes =>
      obtain ⟨m, hm, -⟩ := tablesAt_append.1 hrun.execs
      have hlinked := hrun.linked_of_marked hwf hins hm
      -- the rows were the tray at the `SELECT`, which is earlier in the same request
      have hread : (i, (⟨.selectPending (calls i).id, .ok rows⟩ : Event)) ∈ tr₁ := by
        refine mem_proj.1 (Prog.mem_visible.1 (?_ : _ ∈ Prog.visible Statement.touches _)).1
        rw [hfirst]
        exact List.mem_cons_self
      obtain ⟨a, b, rfl⟩ := List.append_of_mem hread
      obtain ⟨m₀, ha, hsel⟩ := tablesAt_append.1 hm
      obtain ⟨m₁, hsel, hb⟩ := tablesAt_cons.1 hsel
      obtain ⟨hperm, rfl⟩ := exec_selectPending hsel
      have hsame := hagree.perm (execAll_wellFormed ha hwf) hb hperm hlinked
      refine ⟨⟨_, tr₂, changes, m, rfl, hm, hsame⟩, (asI32_natCast_eq_iff _).1 ?_⟩
      have hlen := hagree.count
      rw [hcount, hlinked, List.length_map, hsame.length_eq] at hlen
      exact hlen
  · rintro ⟨hmarked, hlen⟩
    exact hmarked.agrees hwf hrun hins (hcount.trans ((asI32_natCast_eq_iff _).2 hlen))

/-- A commit of one row with nothing in between. -/
def quietTrace : List (Bool × Event) :=
  (true, ⟨.selectPending 0, .ok [sampleRow 0]⟩) ::
    sampleSend true [sampleRow 0] (sampleCommit [sampleRow 0]) ++
      [(true, ⟨.updateCommitted 0 0, .ok [(sampleRow 0).mark 0]⟩)]

/-- The `UPDATE` runs on what the `SELECT` had read, and the commit agrees. -/
theorem agrees_quiet : ∃ s,
    ReviewRun (sampleDatabase [sampleRow 0]) (commitAnd .listChanges) quietTrace s ∧
      Agrees s.state (sampleCommit [sampleRow 0]) [sampleRow 0] := by
  have hwf : (sampleDatabase [sampleRow 0]).WellFormed :=
    ⟨by decide, by decide, by decide, by decide, by decide⟩
  obtain ⟨s, hrun, hend⟩ : ∃ s,
      ReviewRun (sampleDatabase [sampleRow 0]) (commitAnd .listChanges) quietTrace s ∧
        (s.prog true).outcome ≠ none :=
    ⟨_, Run.step true _ rfl rfl <| Run.step true _ rfl rfl <| Run.step true _ rfl rfl <|
      Run.step true _ rfl rfl <| Run.step true _ rfl rfl <| Run.step true _ rfl rfl <|
      Run.nil _, by simp⟩
  have hsend : (true, (⟨.configure sampleClient [sampleRow 0], .ok acceptedResponse⟩ : Event)) ∈
      quietTrace := by simp [quietTrace, sampleSend]
  have hins : (true, (⟨.insertCommit (sampleRecord [sampleRow 0]),
      .ok (sampleCommit [sampleRow 0])⟩ : Event)) ∈ quietTrace := by simp [quietTrace, sampleSend]
  have hmarked : MarkedWhatItRead (sampleDatabase [sampleRow 0]) (commitAnd .listChanges) quietTrace
      true (sampleCommit [sampleRow 0]) [sampleRow 0] :=
    ⟨_, [], _, _, rfl, rfl, by decide⟩
  exact ⟨s, hrun, (agrees_iff hwf hrun hsend rfl hins hend).2 ⟨hmarked, by decide⟩⟩

/-- A staging request that inserts between the `SELECT` and the `UPDATE` of a commit. -/
def overtakenTrace : List (Bool × Event) :=
  [(true, ⟨.selectPending 0, .ok [sampleRow 0]⟩),
    (false, ⟨.deletePending 0 (.vif (vifBase "eth1" 1)), .ok (0 : ℕ)⟩),
    (false, ⟨.insertChange 0 (sampleChange 1), .ok (sampleRow 1)⟩)] ++
    sampleSend true [sampleRow 0] (sampleCommit [sampleRow 0]) ++
      [(true, ⟨.updateCommitted 0 0, .ok [(sampleRow 0).mark 0, (sampleRow 1).mark 0]⟩)]

/-- **Agreement fails.** The row staged meanwhile is committed under a commit that never sent it. -/
theorem not_agrees_overtaken : ∃ s,
    ReviewRun (sampleDatabase [sampleRow 0]) (commitAnd (.edit (.deleteVlan ⟨"eth1", 1⟩)))
        overtakenTrace s ∧
      (sampleDatabase [sampleRow 0]).WellFormed ∧
      (true, (⟨.configure sampleClient [sampleRow 0], .ok acceptedResponse⟩ : Event)) ∈
        overtakenTrace ∧ accepted (.ok acceptedResponse) = true ∧
      (true, (⟨.insertCommit (sampleRecord [sampleRow 0]), .ok (sampleCommit [sampleRow 0])⟩ :
        Event)) ∈ overtakenTrace ∧
      (s.prog true).outcome ≠ none ∧
      ¬ Agrees s.state (sampleCommit [sampleRow 0]) [sampleRow 0] := by
  refine ⟨_, Run.step true _ rfl rfl <| Run.step false _ rfl rfl <| Run.step false _ rfl rfl <|
    Run.step true _ rfl rfl <| Run.step true _ rfl rfl <| Run.step true _ rfl rfl <|
    Run.step true _ rfl rfl <| Run.step true _ rfl rfl <| Run.nil _,
    ⟨by decide, by decide, by decide, by decide, by decide⟩, by simp [overtakenTrace, sampleSend],
    rfl, by simp [overtakenTrace, sampleSend], by simp, fun hagree ↦ ?_⟩
  obtain ⟨b, hb, hid⟩ := (hagree.linked_iff 1).1 ⟨(sampleRow 1).mark 0, by decide, rfl⟩
  obtain rfl := List.mem_singleton.1 hb
  cases hid

end

end VyosFabric
