import VyosFabric.Review.Runs

/-!
# Snapshots of the tray

A commit sends the rows its `SELECT` read, however long ago. Two laws about such snapshots, each
with the exact condition under which a run obeys it.

* **Discard is final** (`discardFinal_iff`): no batch sent after a deletion contains the deleted
  row. This holds exactly when no deletion hits a snapshot that is still to be sent.
* **At most one application** (`appliedOnce_iff`): no row is in two accepted batches. Nothing
  reserves the rows between the `SELECT` and the `UPDATE`, so among commits alone this holds exactly
  when accepted commits run one after the other.
-/

namespace VyosFabric

open Interaction

section

variable {Pid : Type} {db : Database} {tr : List (Pid × Event)}

/-! ### Discard is final -/

/-- The deletion with filter `f` that comes after the steps `tr` removes the row `c`. -/
def Removes (db : Database) (tr : List (Pid × Event)) (r : Uuid) (f : Filter) (c : ConfigChange) :
    Prop :=
  ∃ m, TablesAt db tr m ∧ c ∈ m.configChanges ∧ f.hits r c = true

/-- No batch that is sent after a deletion contains a row the deletion removed. -/
def DiscardFinal (db : Database) (tr : List (Pid × Event)) : Prop :=
  ∀ tr₁ tr₂ i r f n c, tr = tr₁ ++ (i, (⟨.deletePending r f, .ok n⟩ : Event)) :: tr₂ →
    Removes db tr₁ r f c → ∀ j client rows v,
      (j, (⟨.configure client rows, v⟩ : Event)) ∈ tr₂ → reached v = true →
        ∀ d ∈ rows, d.id ≠ c.id

/-- No deletion removes a row that a commit has read and is still to send. -/
def SnapshotsKept (db : Database) (calls : Pid → Call) (tr : List (Pid × Event)) : Prop :=
  ∀ tr₁ tr₂ tr₃ i j r f n client rows v,
    tr = (tr₁ ++ (j, (⟨.selectPending (calls j).id, .ok rows⟩ : Event)) :: tr₂) ++
      (i, (⟨.deletePending r f, .ok n⟩ : Event)) :: tr₃ →
    (j, (⟨.configure client rows, v⟩ : Event)) ∈ tr₃ → reached v = true →
      ∀ c ∈ rows, ¬ Removes db (tr₁ ++ (j, ⟨.selectPending (calls j).id, .ok rows⟩) :: tr₂) r f c

/-- What a deletion removed is in no tray any more. -/
theorem settled_of_delete (hwf : db.WellFormed) {db' : Database} {r : Uuid} {f : Filter} {n : ℕ}
    (hstep : exec (.deletePending r f) (.ok n) db = some db') {c : ConfigChange}
    (hc : c ∈ db.configChanges) (hhit : f.hits r c = true) (r' : Uuid) : db'.Settled r' c.id := by
  obtain ⟨-, rfl⟩ := of_guarded hstep
  refine ⟨hwf.changeId_lt c hc, fun d hd hid ↦ ?_⟩
  obtain ⟨hd, hkeep⟩ := List.mem_filter.1 (Database.mem_pending.1 hd).1
  rw [hwf.eq_of_id hd hc hid, hhit] at hkeep
  cases hkeep

variable [DecidableEq Pid] {calls : Pid → Call}
  {s : Pool Statement Statement.Reply AppError Response Database Pid}

/-- **Discard is final** exactly in the runs in which no deletion removes a row that a commit has
read and is still to send. -/
theorem discardFinal_iff (hwf : db.WellFormed) (hrun : ReviewRun db calls tr s) :
    DiscardFinal db tr ↔ SnapshotsKept db calls tr := by
  constructor
  · rintro hfinal tr₁ tr₂ tr₃ i j r f n client rows v rfl hsend hreach c hc hrem
    exact hfinal _ tr₃ i r f n c rfl hrem j client rows v hsend hreach c hc rfl
  · rintro hkept tr₁ tr₂ i r f n c rfl hrem j client rows v hsend hreach d hd hid
    obtain ⟨x, y, rfl⟩ := List.append_of_mem hsend
    obtain ⟨m, hm, hc, hhit⟩ := hrem
    have hrun' := hrun
    rw [← List.cons_append, ← List.append_assoc] at hrun'
    obtain ⟨-, tr₀, tr₀', m₀, m', heq, hm₀, hperm, hrest, hm'⟩ := hrun'.batch_read
    have hd₀ := Database.mem_pending.1 (hperm.mem_iff.1 hd)
    rcases split_cases (by simp) heq with ⟨e, rfl, rfl⟩ | ⟨e, rfl, rfl⟩
    · -- the read comes after the deletion, so the row is gone
      obtain ⟨m₁, hm₁, hstep⟩ := tablesAt_append.1 hm₀
      obtain rfl := hm.unique hm₁
      obtain ⟨m₂, hstep, he⟩ := tablesAt_cons.1 hstep
      have hset := settled_of_delete (execAll_wellFormed hm hwf) hstep hc hhit (calls j).id
      exact (execAll_settled he hset).2 d (hperm.mem_iff.1 hd) hid
    · -- the read comes before the deletion, which then removes a row of the snapshot
      obtain ⟨m₁, hm₁, hstep⟩ := tablesAt_append.1 hm
      obtain rfl := hm₀.unique hm₁
      obtain ⟨m₂, hstep, he⟩ := tablesAt_cons.1 hstep
      obtain ⟨-, rfl⟩ := exec_selectPending hstep
      obtain rfl := eq_of_pending_of_id (execAll_wellFormed hm₀ hwf) he hd₀.1 hc
        (Database.hits_iff.1 hhit).1.2 hid.symm
      exact hkept tr₀ e (x ++ (j, ⟨.configure client rows, v⟩) :: y) i j r f n client rows v rfl
        (List.mem_append_right x List.mem_cons_self) hreach c hd ⟨m, hm, hc, hhit⟩

/-- A discard that comes between the `SELECT` and the batch of a commit. -/
def discardedTrace : List (Bool × Event) :=
  [(true, ⟨.selectPending 0, .ok [sampleRow 0]⟩),
    (false, ⟨.deletePending 0 (.change 0), .ok (1 : ℕ)⟩)] ++
    sampleSend true [sampleRow 0] (sampleCommit [sampleRow 0])

/-- The law and its condition, on that run. -/
theorem discardFinal_iff_discarded : ∃ s,
    ReviewRun (sampleDatabase [sampleRow 0]) (commitAnd (.discardOne 0)) discardedTrace s ∧
      (DiscardFinal (sampleDatabase [sampleRow 0]) discardedTrace ↔
        SnapshotsKept (sampleDatabase [sampleRow 0]) (commitAnd (.discardOne 0))
          discardedTrace) := by
  have hwf : (sampleDatabase [sampleRow 0]).WellFormed :=
    ⟨by decide, by decide, by decide, by decide, by decide⟩
  have hrun : ∃ s,
      ReviewRun (sampleDatabase [sampleRow 0]) (commitAnd (.discardOne 0)) discardedTrace s :=
    ⟨_, Run.step true _ rfl rfl <| Run.step false _ rfl rfl <| Run.step true _ rfl rfl <|
      Run.step true _ rfl rfl <| Run.step true _ rfl rfl <| Run.step true _ rfl rfl <| Run.nil _⟩
  obtain ⟨s, hrun⟩ := hrun
  exact ⟨s, hrun, discardFinal_iff hwf hrun⟩

/-- **Discard is not final.** The discard has answered with success, and the row is sent and
accepted after it. -/
theorem not_discardFinal_discarded : ∃ s,
    ReviewRun (sampleDatabase [sampleRow 0]) (commitAnd (.discardOne 0)) discardedTrace s ∧
      (sampleDatabase [sampleRow 0]).WellFormed ∧ s.prog false = .ret (.discarded 0) ∧
      ¬ DiscardFinal (sampleDatabase [sampleRow 0]) discardedTrace := by
  refine ⟨_, Run.step true _ rfl rfl <| Run.step false _ rfl rfl <| Run.step true _ rfl rfl <|
      Run.step true _ rfl rfl <| Run.step true _ rfl rfl <| Run.step true _ rfl rfl <| Run.nil _,
    ⟨by decide, by decide, by decide, by decide, by decide⟩, rfl, fun hfinal ↦ ?_⟩
  have hrem : Removes (sampleDatabase [sampleRow 0])
      [(true, ⟨.selectPending 0, .ok [sampleRow 0]⟩)] 0 (.change 0) (sampleRow 0) :=
    ⟨sampleDatabase [sampleRow 0], rfl, by decide, by decide⟩
  exact hfinal _ _ false 0 (.change 0) 1 (sampleRow 0) rfl hrem true sampleClient [sampleRow 0]
    (.ok acceptedResponse) (by simp [sampleSend]) rfl (sampleRow 0) (List.mem_singleton_self _) rfl

end

section

variable {Pid : Type} [DecidableEq Pid] {db : Database} {calls : Pid → Call}
  {tr : List (Pid × Event)} {r : Uuid}
  {s : Pool Statement Statement.Reply AppError Response Database Pid}

/-! ### At most one application -/

/-- No row is in two accepted batches. -/
def AppliedOnce (tr : List (Pid × Event)) : Prop :=
  ∀ tr₁ tr₂ i j client client' rows rows' v v',
    tr = tr₁ ++ (i, (⟨.configure client rows, v⟩ : Event)) :: tr₂ →
    (j, (⟨.configure client' rows', v'⟩ : Event)) ∈ tr₂ → accepted v = true → accepted v' = true →
      ∀ c ∈ rows, ∀ d ∈ rows', c.id ≠ d.id

/-- The `UPDATE` of `i` was answered before the `SELECT` of `j`, which read `rows`. -/
def MarksBefore (calls : Pid → Call) (tr : List (Pid × Event)) (i j : Pid)
    (rows : List ConfigChange) : Prop :=
  ∃ tr₁ tr₂ k r changes, tr = tr₁ ++ (i, (⟨.updateCommitted k r, .ok changes⟩ : Event)) :: tr₂ ∧
    (j, (⟨.selectPending (calls j).id, .ok rows⟩ : Event)) ∈ tr₂

/-- Of any two accepted commits, one was done with its rows before the other read its own. -/
def CommitsSerial (calls : Pid → Call) (tr : List (Pid × Event)) : Prop :=
  ∀ i j client client' rows rows' v v', i ≠ j →
    (i, (⟨.configure client rows, v⟩ : Event)) ∈ tr →
    (j, (⟨.configure client' rows', v'⟩ : Event)) ∈ tr → accepted v = true → accepted v' = true →
      MarksBefore calls tr i j rows' ∨ MarksBefore calls tr j i rows

/-- Rows that were read and then marked are not read again. -/
theorem ReviewRun.ne_of_marksBefore (hwf : db.WellFormed) (hone : ∀ i, (calls i).id = r)
    (hrun : ReviewRun db calls tr s) {i j : Pid} {client : VyosClient}
    {rows rows' : List ConfigChange} {v : Except Fault Json}
    (hsend : (i, (⟨.configure client rows, v⟩ : Event)) ∈ tr)
    (hmarks : MarksBefore calls tr i j rows') : ∀ c ∈ rows, ∀ d ∈ rows', c.id ≠ d.id := by
  intro c hc d hd hid
  obtain ⟨tr₁, tr₂, k, r', changes, rfl, hlater⟩ := hmarks
  obtain ⟨rfl, hread⟩ := hrun.read_before_update hsend
  obtain ⟨m₁, hm₁, hrest⟩ := tablesAt_append.1 hrun.execs
  obtain ⟨m₂, hupd, hm₂⟩ := tablesAt_cons.1 hrest
  -- at the read of `i` the row was in use, so its identifier is settled once the tray is emptied
  have hlt : c.id < m₁.nextChange := by
    obtain ⟨a, b, rfl⟩ := List.append_of_mem hread
    obtain ⟨m₀, hm₀, hrest⟩ := tablesAt_append.1 hm₁
    obtain ⟨m, hsel, hb⟩ := tablesAt_cons.1 hrest
    obtain ⟨hperm, rfl⟩ := exec_selectPending hsel
    exact ((execAll_wellFormed hm₀ hwf).pending_lt (hperm.mem_iff.1 hc)).trans_le
      (execAll_nextChange_le hb)
  have hset : m₂.Settled r c.id := by
    refine ⟨hlt.trans_le (exec_nextChange_le hupd), ?_⟩
    obtain ⟨-, rfl⟩ := of_guarded hupd
    rw [hone i, Database.pending_markCommitted]
    simp
  obtain ⟨a, b, rfl⟩ := List.append_of_mem hlater
  obtain ⟨m₃, hm₃, hrest⟩ := tablesAt_append.1 hm₂
  obtain ⟨m, hsel, -⟩ := tablesAt_cons.1 hrest
  obtain ⟨hperm, rfl⟩ := exec_selectPending hsel
  rw [hone j] at hperm
  exact (execAll_settled hm₃ hset).2 d (hperm.mem_iff.1 hd) hid.symm

/-- A statement that neither deletes nor inserts leaves a tray as it is or empties it. -/
theorem pending_of_exec {x : Event} {m m' : Database} (hstep : exec x.1 x.2 m = some m')
    (hdel : ∀ r f, x.1 ≠ .deletePending r f) (hins : ∀ r c, x.1 ≠ .insertChange r c)
    (hupd : ∀ k r', x.1 = .updateCommitted k r' → r' = r) :
    m'.pending r = m.pending r ∨ m'.pending r = [] := by
  obtain ⟨e, v⟩ := x
  cases exec_effect hstep with
  | look => exact Or.inl rfl
  | record => exact Or.inl rfl
  | delete r' f => exact absurd rfl (hdel r' f)
  | insert r' now c => exact absurd rfl (hins r' c)
  | update k r' rows hrows hk =>
    obtain rfl := hupd k r' rfl
    exact Or.inr Database.pending_markCommitted

/-- Among commits alone, a tray that is read twice with rows in it is read with the same rows. -/
theorem ReviewRun.perm_of_reads (hone : ∀ i, (calls i).id = r)
    (hcommits : ∀ i, (calls i).request = .commit) {i j : Pid} {tr₁ tr₂ : List (Pid × Event)}
    {rows rows' : List ConfigChange}
    (hrun : ReviewRun db calls (tr₁ ++ (i, ⟨.selectPending r, .ok rows⟩) :: tr₂) s)
    (hlater : (j, (⟨.selectPending r, .ok rows'⟩ : Event)) ∈ tr₂) (hne : rows' ≠ []) :
    rows'.Perm rows := by
  obtain ⟨a, b, rfl⟩ := List.append_of_mem hlater
  obtain ⟨m, -, hrest⟩ := tablesAt_append.1 hrun.execs
  obtain ⟨m₁, hsel, htail⟩ := tablesAt_cons.1 hrest
  obtain ⟨hperm, rfl⟩ := exec_selectPending hsel
  obtain ⟨m₂, ha, hrest'⟩ := tablesAt_append.1 htail
  obtain ⟨m₃, hsel', -⟩ := tablesAt_cons.1 hrest'
  obtain ⟨hperm', rfl⟩ := exec_selectPending hsel'
  -- between the two reads only an `UPDATE` changes the tray, and it empties it
  have hkeep : m₃.pending r = m₁.pending r ∨ m₃.pending r = [] := by
    refine execAll_invariant (P := fun d ↦ d.pending r = m₁.pending r ∨ d.pending r = []) ?_ ha
      (Or.inl rfl)
    intro x hx d d' hstep hd
    obtain ⟨⟨l, y⟩, hy, rfl⟩ := List.mem_map.1 hx
    have hissue : (calls l).mayIssue y.1 = true := hrun.mayIssue
      (List.mem_append_right tr₁ (List.mem_cons_of_mem _ (List.mem_append_left _ hy)))
    have hstep' : d'.pending r = d.pending r ∨ d'.pending r = [] := by
      refine pending_of_exec hstep (fun r' f (hy' : y.1 = _) ↦ ?_) (fun r' c (hy' : y.1 = _) ↦ ?_)
        fun k r' (hy' : y.1 = _) ↦ ?_
      · simp [hy', Call.mayIssue, hcommits l] at hissue
      · simp [hy', Call.mayIssue, hcommits l] at hissue
      · simpa [hy', Call.mayIssue, hcommits l, hone l] using hissue
    rcases hstep' with heq | hnil
    · rwa [heq]
    · exact Or.inr hnil
  rcases hkeep with heq | hnil
  · rw [heq] at hperm'
    exact hperm'.trans hperm.symm
  · rw [hnil] at hperm'
    exact absurd hperm'.eq_nil hne

/-- **At most one application.** Among any number of concurrent commits on one router, no row is in
two accepted batches exactly if of any two accepted commits one had run its `UPDATE` before the
other ran its `SELECT`. -/
theorem appliedOnce_iff (hwf : db.WellFormed) (hone : ∀ i, (calls i).id = r)
    (hcommits : ∀ i, (calls i).request = .commit) (hrun : ReviewRun db calls tr s) :
    AppliedOnce tr ↔ CommitsSerial calls tr := by
  constructor
  · intro honce i j client client' rows rows' v v' hij hi hj hacc hacc'
    have hread : ∀ {l : Pid} {client : VyosClient} {rows : List ConfigChange}
        {v : Except Fault Json}, (l, (⟨.configure client rows, v⟩ : Event)) ∈ tr →
        rows ≠ [] ∧ (l, (⟨.selectPending r, .ok rows⟩ : Event)) ∈ tr := by
      intro l client rows v hl
      obtain ⟨a, b, rfl⟩ := List.append_of_mem hl
      obtain ⟨hne, a₁, a₂, -, -, rfl, -⟩ := hrun.batch_read
      rw [hone l]
      exact ⟨hne, List.mem_append_left _ (List.mem_append_right a₁ List.mem_cons_self)⟩
    obtain ⟨hne, hri⟩ := hread hi
    obtain ⟨hne', hrj⟩ := hread hj
    -- two accepted commits read the same rows, whichever of them read first
    have hperm : rows.Perm rows' := by
      obtain ⟨a, b, rfl⟩ := List.append_of_mem hri
      rcases List.mem_append.1 hrj with hmem | hmem
      · obtain ⟨c, d, rfl⟩ := List.append_of_mem hmem
        rw [List.append_assoc, List.cons_append] at hrun
        exact hrun.perm_of_reads hone hcommits (List.mem_append_right d List.mem_cons_self) hne
      · rcases List.mem_cons.1 hmem with hmem | hmem
        · exact absurd (congrArg Prod.fst hmem).symm hij
        · exact (hrun.perm_of_reads hone hcommits hmem hne').symm
    obtain ⟨c, hc⟩ := List.exists_mem_of_ne_nil rows hne
    have hc' : c ∈ rows' := hperm.mem_iff.1 hc
    exfalso
    obtain ⟨a, b, rfl⟩ := List.append_of_mem hi
    rcases List.mem_append.1 hj with hmem | hmem
    · obtain ⟨d, e, rfl⟩ := List.append_of_mem hmem
      refine honce d (e ++ (i, ⟨.configure client rows, v⟩) :: b) j i client' client rows' rows v' v
        (by simp) ?_ hacc' hacc c hc' c hc rfl
      exact List.mem_append_right e List.mem_cons_self
    · rcases List.mem_cons.1 hmem with hmem | hmem
      · exact hij (congrArg Prod.fst hmem).symm
      · exact honce a b i j client client' rows rows' v v' rfl hmem hacc hacc' c hc c hc' rfl
  · rintro hserial tr₁ tr₂ i j client client' rows rows' v v' rfl hj hacc hacc' c hc d hd
    have hij : i ≠ j := by
      rintro rfl
      exact hrun.configure_once hj
    have hi : (i, (⟨.configure client rows, v⟩ : Event)) ∈
        tr₁ ++ (i, ⟨.configure client rows, v⟩) :: tr₂ :=
      List.mem_append_right tr₁ List.mem_cons_self
    have hj' := List.mem_append_right tr₁ (List.mem_cons_of_mem (i, ⟨.configure client rows, v⟩) hj)
    rcases hserial i j client client' rows rows' v v' hij hi hj' hacc hacc' with h | h
    · exact hrun.ne_of_marksBefore hwf hone hi h c hc d hd
    · exact (hrun.ne_of_marksBefore hwf hone hj' h d hd c hc).symm

/-- Two commits that both read the tray before either sends it. -/
def doubledTrace : List (Bool × Event) :=
  [(true, ⟨.selectPending 0, .ok [sampleRow 0]⟩), (false, ⟨.selectPending 0, .ok [sampleRow 0]⟩)] ++
    sampleSend true [sampleRow 0] (sampleCommit [sampleRow 0]) ++
    [(false, ⟨.selectRouter 0, .ok (some sampleRouter)⟩),
      (false, ⟨.configure sampleClient [sampleRow 0], .ok acceptedResponse⟩)]

/-- The law and its condition, on that run. -/
theorem appliedOnce_iff_doubled : ∃ s,
    ReviewRun (sampleDatabase [sampleRow 0]) (commitAnd .commit) doubledTrace s ∧
      (AppliedOnce doubledTrace ↔ CommitsSerial (commitAnd .commit) doubledTrace) := by
  have hwf : (sampleDatabase [sampleRow 0]).WellFormed :=
    ⟨by decide, by decide, by decide, by decide, by decide⟩
  have hrun : ∃ s, ReviewRun (sampleDatabase [sampleRow 0]) (commitAnd .commit) doubledTrace s :=
    ⟨_, Run.step true _ rfl rfl <| Run.step false _ rfl rfl <| Run.step true _ rfl rfl <|
      Run.step true _ rfl rfl <| Run.step true _ rfl rfl <| Run.step true _ rfl rfl <|
      Run.step false _ rfl rfl <| Run.step false _ rfl rfl <| Run.nil _⟩
  obtain ⟨s, hrun⟩ := hrun
  exact ⟨s, hrun, appliedOnce_iff (r := 0) hwf (by decide) (by decide) hrun⟩

/-- **A row is applied twice.** -/
theorem not_appliedOnce_doubled : ∃ s,
    ReviewRun (sampleDatabase [sampleRow 0]) (commitAnd .commit) doubledTrace s ∧
      (sampleDatabase [sampleRow 0]).WellFormed ∧ (∀ i, (commitAnd .commit i).id = 0) ∧
      (∀ i, (commitAnd .commit i).request = .commit) ∧ ¬ AppliedOnce doubledTrace := by
  refine ⟨_, Run.step true _ rfl rfl <| Run.step false _ rfl rfl <| Run.step true _ rfl rfl <|
      Run.step true _ rfl rfl <| Run.step true _ rfl rfl <| Run.step true _ rfl rfl <|
      Run.step false _ rfl rfl <| Run.step false _ rfl rfl <| Run.nil _,
    ⟨by decide, by decide, by decide, by decide, by decide⟩, by decide, by decide, fun honce ↦ ?_⟩
  exact honce
    [(true, ⟨.selectPending 0, .ok [sampleRow 0]⟩), (false, ⟨.selectPending 0, .ok [sampleRow 0]⟩),
      (true, ⟨.selectRouter 0, .ok (some sampleRouter)⟩)] _ true false sampleClient sampleClient
    [sampleRow 0] [sampleRow 0] (.ok acceptedResponse) (.ok acceptedResponse) rfl (by simp) rfl rfl
    (sampleRow 0) (List.mem_singleton_self _) (sampleRow 0) (List.mem_singleton_self _) rfl

end

end VyosFabric
