import VyosFabric.Diff.Bases
import VyosFabric.Interaction.Serial
import VyosFabric.Review.CommitEnds

/-!
# The commit history, one request at a time

`historyKept_of_serial`: completed requests that do not overlap keep the tables consistent and the
history as it was, whatever they are, whoever asks and whatever the devices answer, in every run in
which no commit has to count `2 ^ 31` rows or more.
-/

namespace VyosFabric

open Interaction

section Requests

variable {x : Served Statement.Reply AppError Response Call} {m m' : Database}

/-- What a request that ran alone keeps, and how it leaves the tables. -/
structure HistoryKept (x : Served Statement.Reply AppError Response Call) (m m' : Database) :
    Prop where
  consistent : m'.Consistent
  pending : ∀ c ∈ m'.configChanges, c.status = .pending → c.commitId = none
  committed : ∀ c ∈ m.configChanges, c.status = .committed → c ∈ m'.configChanges
  commits : m.configCommits <+: m'.configCommits
  rejected : ∀ client rows v, (⟨.configure client rows, v⟩ : Event) ∈ x.events →
    accepted v = false → m'.configChanges = m.configChanges ∧
      ∀ resp, v = .ok resp →
        ∃ C : ConfigCommit, C.status = .failed ∧ m'.configCommits = m.configCommits ++ [C]
  others : ∀ r, r ≠ x.request.id →
    (m'.configChanges.filter fun c ↦ c.routerId == r) =
        (m.configChanges.filter fun c ↦ c.routerId == r) ∧
      (m'.configCommits.filter fun c ↦ c.routerId == r) =
        m.configCommits.filter fun c ↦ c.routerId == r

/-- **A statement of a request changes no row of another router.** -/
theorem exec_others {c : Call} {s : Statement} {v : s.Reply} (h : exec s v m = some m')
    (hissue : c.mayIssue s = true) {r : Uuid} (hr : r ≠ c.id) :
    (m'.configChanges.filter fun d ↦ d.routerId == r) =
        (m.configChanges.filter fun d ↦ d.routerId == r) ∧
      (m'.configCommits.filter fun d ↦ d.routerId == r) =
        m.configCommits.filter fun d ↦ d.routerId == r := by
  cases exec_effect h with
  | look => exact ⟨rfl, rfl⟩
  | delete r' f =>
    have hr' : r' = c.id := by
      simp only [Call.mayIssue, Bool.and_eq_true, beq_iff_eq] at hissue
      exact hissue.1
    refine ⟨?_, rfl⟩
    show (m.configChanges.filter _).filter _ = _
    rw [List.filter_filter]
    refine List.filter_congr fun d _ ↦ ?_
    by_cases hd : d.routerId = r
    · simp [hd, Filter.hits, ConfigChange.isPending, hr', hr]
    · simp [hd]
  | insert r' now d =>
    have hr' : r' = c.id := by
      simp only [Call.mayIssue, Bool.and_eq_true, beq_iff_eq] at hissue
      exact hissue.1
    refine ⟨?_, rfl⟩
    show (m.configChanges ++ [_]).filter _ = _
    rw [List.filter_append]
    simp [Database.newChange, hr', hr.symm]
  | record now n =>
    have hn : n.routerId = c.id := by
      simp only [Call.mayIssue, Bool.and_eq_true, beq_iff_eq] at hissue
      exact hissue.1
    refine ⟨rfl, ?_⟩
    show (m.configCommits ++ [_]).filter _ = _
    rw [List.filter_append]
    simp [Database.newCommit, hn, hr.symm]
  | update k r' rows hrows hk =>
    have hr' : r' = c.id := by
      simp only [Call.mayIssue, Bool.and_eq_true, beq_iff_eq] at hissue
      exact hissue.1
    refine ⟨?_, rfl⟩
    show (m.configChanges.map _).filter _ = _
    rw [List.filter_map]
    -- marking moves no row to another router, and the rows of `r` are not marked
    have hfix : ∀ d ∈ m.configChanges,
        ((if d.isPending r' then d.mark k else d).routerId == r) = (d.routerId == r) := by
      intro d _
      split <;> rfl
    rw [List.filter_congr (q := fun d ↦ d.routerId == r) hfix]
    refine (List.map_congr_left fun d hd ↦ ?_).trans (List.map_id _)
    have hrouter : d.routerId = r := by simpa using (List.mem_filter.1 hd).2
    refine if_neg ?_
    simp [ConfigChange.isPending, hrouter, hr', hr]

/-- The exchanges of a request are among those it may issue. -/
theorem mayIssue_of_completes {c : Call} {h : List Event} {a : Except AppError Response}
    (hrun : Completes exec c.handle m h a m') : ∀ y ∈ h, c.mayIssue y.1 = true := by
  obtain ⟨q, hf, -⟩ := hrun.ends
  exact (c.handle_issues.of_follows hf).1

/-- A request changes no row of another router. -/
theorem others_of_completes {c : Call} {h : List Event} {a : Except AppError Response}
    (hrun : Completes exec c.handle m h a m') {r : Uuid} (hr : r ≠ c.id) :
    (m'.configChanges.filter fun d ↦ d.routerId == r) =
        (m.configChanges.filter fun d ↦ d.routerId == r) ∧
      (m'.configCommits.filter fun d ↦ d.routerId == r) =
        m.configCommits.filter fun d ↦ d.routerId == r := by
  refine execAll_invariant (P := fun d : Database ↦
    (d.configChanges.filter fun c ↦ c.routerId == r) =
        (m.configChanges.filter fun c ↦ c.routerId == r) ∧
      (d.configCommits.filter fun c ↦ c.routerId == r) =
        m.configCommits.filter fun c ↦ c.routerId == r) ?_ hrun.execs ⟨rfl, rfl⟩
  intro y hy d d' hstep hd
  obtain ⟨hchanges, hcommits⟩ := exec_others hstep (mayIssue_of_completes hrun y hy) hr
  exact ⟨hchanges.trans hd.1, hcommits.trans hd.2⟩

/-- A request that is no commit neither records nor marks, so it keeps the tables consistent. -/
theorem consistent_of_completes {c : Call} {h : List Event} {a : Except AppError Response}
    (hm : m.Consistent) (hrun : Completes exec c.handle m h a m') (hc : c.request ≠ .commit) :
    m'.Consistent := by
  refine execAll_invariant (P := fun d ↦ d.Consistent) ?_ hrun.execs hm
  intro y hy d d' hstep hd
  have hissue := mayIssue_of_completes hrun y hy
  refine exec_consistent hstep hd (fun n hn ↦ ?_) fun k r hkr ↦ ?_
  · rw [hn, Call.mayIssue, Bool.and_eq_true, beq_iff_eq, beq_iff_eq] at hissue
    exact hc hissue.2
  · rw [hkr, Call.mayIssue, Bool.and_eq_true, beq_iff_eq, beq_iff_eq] at hissue
    exact hc hissue.2

/-- **A request that ran alone keeps the history.** -/
theorem historyKept_of_completes (hm : m.Consistent)
    (hrun : Completes exec x.request.handle m x.events x.answer m')
    (hwritten : WrittenThrough x.events) : HistoryKept x m m' := by
  have hend : x.request.request = .commit →
      CommitEnd x.request.claims x.request.id m (Prog.visible Statement.touches x.events) m' := by
    intro hc
    rw [Call.handle, hc] at hrun
    exact commitEnd_of_completes hrun
  have hvisible : WrittenThrough (Prog.visible Statement.touches x.events) :=
    { recorded := fun n f hy ↦ hwritten.recorded n f (Prog.mem_visible.1 hy).1
      marked := fun k r f hy ↦ hwritten.marked k r f (Prog.mem_visible.1 hy).1
      countable := fun client rows v hy ↦
        hwritten.countable client rows v (Prog.mem_visible.1 hy).1 }
  have hcons : m'.Consistent := by
    by_cases hc : x.request.request = .commit
    · exact (hend hc).consistent hm hvisible
    · exact consistent_of_completes hm hrun hc
  exact
    { consistent := hcons
      pending := fun c hc hp ↦ hcons.commitId_eq_none hc hp
      committed := fun c hc hs ↦ execAll_mem_of_not_pending hrun.execs hc (by rw [hs]; simp)
      commits := configCommits_prefix_of_execAll hrun.execs
      rejected := fun client rows v hy hacc ↦ by
        have hissue := mayIssue_of_completes hrun _ hy
        have hc : x.request.request = .commit := by simpa [Call.mayIssue] using hissue
        exact (hend hc).not_accepted hvisible (Prog.mem_visible.2 ⟨hy, rfl⟩) hacc
      others := fun r hr ↦ others_of_completes hrun hr }

/-- **The tables of a serial run.** Requests that do not overlap, each seen to its end, keep the
history at every step, if every commit's writes succeed and its batch can be counted. -/
theorem historyKept_of_serial {db db' : Database}
    {tr : List (Served Statement.Reply AppError Response Call)} (hdb : db.Consistent)
    (hrun : Serial exec Call.handle db tr db') (hwritten : ∀ x ∈ tr, WrittenThrough x.events) :
    db'.Consistent ∧ ∀ tr₁ x tr₂, tr = tr₁ ++ x :: tr₂ → ∃ m m', Serial exec Call.handle db tr₁ m ∧
      Completes exec x.request.handle m x.events x.answer m' ∧
      Serial exec Call.handle m' tr₂ db' ∧ HistoryKept x m m' := by
  have hkeep : ∀ {d d' : Database} {l : List (Served Statement.Reply AppError Response Call)},
      d.Consistent → Serial exec Call.handle d l d' → (∀ x ∈ l, WrittenThrough x.events) →
      d'.Consistent := by
    intro d d' l hd hl hw
    exact hl.invariant (fun x hx m m' hstep hm ↦
      (historyKept_of_completes hm hstep (hw x hx)).consistent) hd
  refine ⟨hkeep hdb hrun hwritten, ?_⟩
  rintro tr₁ x tr₂ rfl
  obtain ⟨m, hfirst, hrest⟩ := trace_append.1 hrun
  obtain ⟨m', hstep, hlast⟩ := trace_cons.1 hrest
  have hm : m.Consistent := hkeep hdb hfirst fun y hy ↦ hwritten y (List.mem_append_left _ hy)
  exact ⟨m, m', hfirst, hstep, hlast, historyKept_of_completes hm hstep
    (hwritten x (List.mem_append_right _ List.mem_cons_self))⟩

/-- Deleting the VLAN `id` of `eth1`, as a served request. -/
def servedDelete (id : ℕ) : Served Statement.Reply AppError Response Call where
  request := ⟨sampleAdmin, 0, .edit (.deleteVlan ⟨"eth1", id⟩)⟩
  events := [⟨.deletePending 0 (.vif (vifBase "eth1" id)), .ok (0 : ℕ)⟩,
    ⟨.insertChange 0 (sampleChange id), .ok (sampleRow id)⟩]
  answer := .ok (.changes [sampleRow id])

/-- Committing the tray `rows`, as a served request. -/
def servedCommit (rows : List ConfigChange) : Served Statement.Reply AppError Response Call where
  request := ⟨sampleAdmin, 0, .commit⟩
  events := [⟨.selectPending 0, .ok rows⟩, ⟨.selectRouter 0, .ok (some sampleRouter)⟩,
    ⟨.configure sampleClient rows, .ok acceptedResponse⟩,
    ⟨.save sampleClient none, .ok acceptedResponse⟩,
    ⟨.insertCommit (sampleRecord rows), .ok (sampleCommit rows)⟩,
    ⟨.updateCommitted 0 0, .ok (rows.map fun c ↦ c.mark 0)⟩]
  answer := .ok (.committed (sampleCommit rows) (rows.map fun c ↦ c.mark 0))

/-- The rows of the VLANs below `n`. -/
def sampleRows (n : ℕ) : List ConfigChange := (List.range n).map sampleRow

theorem sampleRows_succ (n : ℕ) : sampleRows (n + 1) = sampleRows n ++ [sampleRow n] := by
  rw [sampleRows, List.range_succ, List.map_append]
  rfl

theorem sampleRows_length (n : ℕ) : (sampleRows n).length = n := by
  rw [sampleRows, List.length_map, List.length_range]

theorem mem_sampleRows {n : ℕ} {c : ConfigChange} (hc : c ∈ sampleRows n) :
    ∃ k < n, c = sampleRow k := by
  obtain ⟨k, hk, rfl⟩ := List.mem_map.1 hc
  exact ⟨k, List.mem_range.1 hk, rfl⟩

/-- The filter of one VLAN misses the rows of the others. -/
theorem vif_misses_sampleRow {k n : ℕ} (hkn : k ≠ n) :
    (Filter.vif (vifBase "eth1" n)).hits 0 (sampleRow k) = false := by
  have hbase : vifBase "eth1" k ≠ vifBase "eth1" n := fun heq ↦
    hkn (Int.ofNat.inj (vifBase_inj.1 heq).2)
  rw [Filter.hits, Bool.and_eq_false_iff]
  exact Or.inr (beq_eq_false_iff_ne.2 hbase)

/-- A deletion of a new VLAN adds its row. -/
theorem completes_servedDelete (n : ℕ) :
    Completes exec (servedDelete n).request.handle (sampleDatabase (sampleRows n))
      (servedDelete n).events (servedDelete n).answer (sampleDatabase (sampleRows (n + 1))) := by
  have hmiss : ∀ c ∈ sampleRows n, (Filter.vif (vifBase "eth1" n)).hits 0 c = false := by
    intro c hc
    obtain ⟨k, hk, rfl⟩ := mem_sampleRows hc
    exact vif_misses_sampleRow hk.ne
  have hnone : (sampleRows n).filter ((Filter.vif (vifBase "eth1" n)).hits 0) = [] :=
    List.filter_eq_nil_iff.2 fun c hc ↦ by simp [hmiss c hc]
  have hall : ((sampleRows n).filter fun c ↦ !(Filter.vif (vifBase "eth1" n)).hits 0 c) =
      sampleRows n := List.filter_eq_self.2 fun c hc ↦ by simp [hmiss c hc]
  have hdelete : exec (.deletePending 0 (.vif (vifBase "eth1" n))) (.ok (0 : ℕ))
      (sampleDatabase (sampleRows n)) = some (sampleDatabase (sampleRows n)) := by
    refine (if_pos (congrArg List.length hnone.symm)).trans (congrArg some ?_)
    rw [show (sampleDatabase (sampleRows n)).configChanges = sampleRows n from rfl, hall]
    rfl
  have hinsert : exec (.insertChange 0 (sampleChange n)) (.ok (sampleRow n))
      (sampleDatabase (sampleRows n)) = some (sampleDatabase (sampleRows (n + 1))) := by
    have hrow : sampleRow n = (sampleDatabase (sampleRows n)).newChange 0 0 (sampleChange n) := by
      rw [Database.newChange, show (sampleDatabase (sampleRows n)).nextChange = n from
        sampleRows_length n]
      rfl
    refine (if_pos hrow).trans (congrArg some ?_)
    rw [sampleRows_succ]
    simp [sampleDatabase]
  refine ⟨⟨_, .call _ (.call _ (.nil _)), rfl⟩, ?_⟩
  exact execAll_cons_eq_some.2 ⟨_, hdelete, execAll_cons_eq_some.2 ⟨_, hinsert, rfl⟩⟩

theorem serial_servedDelete (n : ℕ) :
    Serial exec Call.handle (sampleDatabase []) ((List.range n).map servedDelete)
      (sampleDatabase (sampleRows n)) := by
  induction n with
  | zero => exact Trace.nil _
  | succ n ih =>
    rw [List.range_succ, List.map_append]
    exact trace_append.2 ⟨_, ih, Trace.cons (completes_servedDelete n) (Trace.nil _)⟩

/-- A commit of the whole tray, which the device accepts and saves. -/
theorem completes_servedCommit {c : ConfigChange} {cs : List ConfigChange}
    (hpending : (sampleDatabase (c :: cs)).pending 0 = c :: cs)
    (hsorted : (c :: cs).Pairwise fun a b ↦ a.createdAt ≤ b.createdAt) :
    Completes exec (servedCommit (c :: cs)).request.handle (sampleDatabase (c :: cs))
      (servedCommit (c :: cs)).events (servedCommit (c :: cs)).answer
      ((sampleDatabase (c :: cs)).recordAndMark (sampleCommit (c :: cs)) 0) := by
  have hselect : exec (.selectPending 0) (.ok (c :: cs)) (sampleDatabase (c :: cs)) =
      some (sampleDatabase (c :: cs)) := by
    refine if_pos ⟨?_, hsorted⟩
    rw [hpending]
  have hmark := exec_recordAndMark (sampleDatabase (c :: cs)) 0 0 (sampleRecord (c :: cs))
  rw [hpending] at hmark
  have hrecord : exec (.insertCommit (sampleRecord (c :: cs))) (.ok (sampleCommit (c :: cs)))
      (sampleDatabase (c :: cs)) =
        some ((sampleDatabase (c :: cs)).record (sampleCommit (c :: cs))) :=
    exec_record (sampleDatabase (c :: cs)) 0 (sampleRecord (c :: cs))
  have hrouter : exec (.selectRouter 0) (.ok (some sampleRouter)) (sampleDatabase (c :: cs)) =
      some (sampleDatabase (c :: cs)) := rfl
  have hfollows : Prog.Follows (commit sampleAdmin 0) (servedCommit (c :: cs)).events
      (.ret (.committed (sampleCommit (c :: cs)) ((c :: cs).map fun c ↦ c.mark 0))) :=
    .call _ (.call _ (.call _ (.call _ (.call _ (.call _ (.nil _))))))
  refine ⟨⟨_, hfollows, rfl⟩, ?_⟩
  refine execAll_cons_eq_some.2 ⟨_, hselect, execAll_cons_eq_some.2 ⟨_, hrouter,
    execAll_cons_eq_some.2 ⟨_, rfl, execAll_cons_eq_some.2 ⟨_, rfl, ?_⟩⟩⟩⟩
  exact execAll_cons_eq_some.2 ⟨_, hrecord, execAll_cons_eq_some.2 ⟨_, hmark, rfl⟩⟩

theorem pending_sampleRows (n : ℕ) :
    (sampleDatabase (sampleRows n)).pending 0 = sampleRows n := by
  refine List.filter_eq_self.2 fun c hc ↦ ?_
  obtain ⟨k, -, rfl⟩ := mem_sampleRows hc
  rfl

theorem pairwise_sampleRows (n : ℕ) :
    (sampleRows n).Pairwise fun a b ↦ a.createdAt ≤ b.createdAt := by
  refine List.pairwise_of_forall_mem_list fun a ha b hb ↦ ?_
  obtain ⟨k, -, rfl⟩ := mem_sampleRows ha
  exact Nat.zero_le _

theorem emptyDatabase_consistent : (sampleDatabase []).Consistent where
  wellFormed := ⟨by decide, by decide, by decide, by decide, by decide⟩
  committed_iff := by decide
  commit_of_link := by decide
  count := by decide

theorem writtenThrough_servedDelete (n : ℕ) : WrittenThrough (servedDelete n).events :=
  ⟨by simp [servedDelete], by simp [servedDelete], by simp [servedDelete]⟩

/-- A deletion and the commit of its row. -/
theorem historyKept_deleted : ∃ db',
    Serial exec Call.handle (sampleDatabase []) [servedDelete 0, servedCommit [sampleRow 0]] db' ∧
      db'.Consistent := by
  have hrun : Serial exec Call.handle (sampleDatabase [])
      [servedDelete 0, servedCommit [sampleRow 0]] _ :=
    Trace.cons (completes_servedDelete 0)
      (Trace.cons (completes_servedCommit (pending_sampleRows 1) (pairwise_sampleRows 1))
        (Trace.nil _))
  refine ⟨_, hrun, (historyKept_of_serial emptyDatabase_consistent hrun fun x hx ↦ ?_).1⟩
  rcases List.mem_pair.1 hx with rfl | rfl
  · exact writtenThrough_servedDelete 0
  · refine ⟨by simp [servedCommit], by simp [servedCommit], fun client rows v hmem _ ↦ ?_⟩
    have hrows : rows = [sampleRow 0] := by
      simp [servedCommit] at hmem
      exact hmem.1.2
    rw [hrows]
    decide

/-- **The count overflows.** Requests that ran one after the other, all of them answered with
success, leave a successful commit whose count is not that of its rows. -/
theorem not_consistent_overflow : ∃ tr db', Serial exec Call.handle (sampleDatabase []) tr db' ∧
    (sampleDatabase []).Consistent ∧ (∀ x ∈ tr, ∃ b, x.answer = .ok b) ∧ ¬db'.Consistent := by
  have hempty : (sampleDatabase []).Consistent := emptyDatabase_consistent
  have hoverflow : ∀ n, n ≠ 0 → ¬n < 2 ^ 31 → ∃ tr db',
      Serial exec Call.handle (sampleDatabase []) tr db' ∧ (∀ x ∈ tr, ∃ b, x.answer = .ok b) ∧
        ¬db'.Consistent := by
    intro n hn hlarge
    obtain ⟨c, cs, hrows⟩ : ∃ c cs, sampleRows n = c :: cs := by
      refine List.exists_cons_of_ne_nil fun hnil ↦ hn ?_
      rw [← sampleRows_length n, hnil, List.length_nil]
    have hpending := pending_sampleRows n
    have hsorted := pairwise_sampleRows n
    have hstaged := serial_servedDelete n
    have hlength := sampleRows_length n
    rw [hrows] at hpending hsorted hstaged hlength
    have hcons : (sampleDatabase (c :: cs)).Consistent := by
      have hsteps : ∀ x ∈ (List.range n).map servedDelete, WrittenThrough x.events := by
        intro x hx
        obtain ⟨k, -, rfl⟩ := List.mem_map.1 hx
        exact writtenThrough_servedDelete k
      refine hstaged.invariant (fun x hx m m' hstep hm ↦ ?_) hempty
      exact (historyKept_of_completes hm hstep (hsteps x hx)).consistent
    refine ⟨_, _, trace_append.2 ⟨_, hstaged, Trace.cons (completes_servedCommit hpending hsorted)
      (Trace.nil _)⟩, fun x hx ↦ ?_, fun hend ↦ hlarge ?_⟩
    · rcases List.mem_append.1 hx with hx | hx
      · obtain ⟨k, -, rfl⟩ := List.mem_map.1 hx
        exact ⟨_, rfl⟩
      · obtain rfl := List.mem_singleton.1 hx
        exact ⟨_, rfl⟩
    · have hcount := (consistent_recordAndMark_iff hcons 0 rfl rfl).1 hend
      have hnarrow := (commitRecord_changeCount ..).symm.trans hcount
      rw [show (sampleRecord (c :: cs)).routerId = 0 from rfl, hpending, hlength] at hnarrow
      exact (asI32_natCast_eq_iff n).1 hnarrow
  obtain ⟨tr, db', hrun, hanswers, hnot⟩ := hoverflow (2 ^ 31) (by norm_num) (lt_irrefl _)
  exact ⟨tr, db', hrun, hempty, hanswers, hnot⟩

end Requests

end VyosFabric
