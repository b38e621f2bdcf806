import VyosFabric.Client.Tray

/-!
# Review before commit

A commit request names no changes: the server commits what is pending when it runs the `SELECT`, the
operator has reviewed what the last fetch returned. `reviewed_iff`: the batch of a commit is what
its operator was shown exactly if no change was staged between the `SELECT` of that fetch and the
`SELECT` of the commit and is still pending at the latter.
-/

namespace VyosFabric

open Interaction

section Served

variable {Pid : Type}

@[simp] theorem served_nil : served ([] : List (Act Pid)) = [] := rfl

@[simp] theorem served_append (acts acts' : List (Act Pid)) :
    served (acts ++ acts') = served acts ++ served acts' :=
  List.filterMap_append

theorem mem_served {acts : List (Act Pid)} {i : Pid} {x : Event} :
    (i, x) ∈ served acts ↔ .serve i x ∈ acts := by
  rw [served, List.mem_filterMap]
  constructor
  · rintro ⟨a, ha, hserved⟩
    cases a with
    | serve j y =>
      obtain ⟨rfl, rfl⟩ := Prod.mk.inj (Option.some.inj hserved)
      exact ha
    | press | deliver | refresh => cases hserved
  · exact fun h ↦ ⟨_, h, rfl⟩

/-! ### Two reads of a tray -/

/-- The batch `rows` is what the operator was shown: every change in it was in the tray, and every
change of the tray that is still pending is in it. -/
structure Reviewed (tray rows pending : List ConfigChange) : Prop where
  shown : ∀ b ∈ rows, b ∈ tray
  sent : ∀ b ∈ tray, b ∈ pending → b ∈ rows

/-- Between two moments no row was added to what is pending exactly if none that was inserted is
still pending. -/
theorem pending_subset_iff {m m' : Database} {tr : List (Pid × Event)} {r : Uuid}
    (hwf : m.WellFormed)
    (htr : TablesAt m tr m') :
    (∀ b ∈ m'.pending r, b ∈ m.pending r) ↔
      ∀ k n row, (k, (⟨.insertChange r n, .ok row⟩ : Event)) ∈ tr → row ∉ m'.pending r := by
  constructor
  · intro hsub k n row hins hrow
    obtain ⟨a, b, rfl⟩ := List.append_of_mem hins
    obtain ⟨m₁, ha, hrest⟩ := tablesAt_append.1 htr
    obtain ⟨m₂, hstep, -⟩ := tablesAt_cons.1 hrest
    obtain ⟨hnew, -⟩ := of_guarded hstep
    have hid : row.id = m₁.nextChange := by
      rw [hnew]
      rfl
    have hlt := hwf.pending_lt (hsub row hrow)
    rw [hid] at hlt
    exact absurd (execAll_nextChange_le ha) hlt.not_ge
  · intro hnone b hb
    obtain ⟨hmem, hr, hp⟩ := Database.mem_pending.1 hb
    rcases mem_or_inserted_of_execAll htr hmem hp with hold | ⟨n, hins⟩
    · exact Database.mem_pending.2 ⟨hold, hr, hp⟩
    · obtain ⟨⟨k, x⟩, hx, hsnd⟩ := List.mem_map.1 hins
      rw [hr] at hsnd
      subst hsnd
      exact absurd hb (hnone k n b hx)

/-- A change that is still pending later was pending in between. -/
theorem pending_of_still_pending {m m₁ m₂ : Database} {tr tr' : List (Pid × Event)} {r : Uuid}
    (hwf : m.WellFormed) (htr : TablesAt m tr m₁) (htr' : TablesAt m₁ tr' m₂) {b : ConfigChange}
    (hb : b ∈ m.pending r) (hlater : b ∈ m₂.pending r) : b ∈ m₁.pending r := by
  obtain ⟨hmem, hr, hp⟩ := Database.mem_pending.1 hlater
  rcases mem_or_fresh_of_execAll htr' hmem hp with hold | hnew
  · exact Database.mem_pending.2 ⟨hold, hr, hp⟩
  · exact absurd (hnew.trans_lt (hwf.pending_lt hb)) (execAll_nextChange_le htr).not_gt

/-- The claim about a batch, between the two reads it depends on. -/
theorem reviewed_iff_of_reads {T rows : List ConfigChange} {tr₁ tr₂ tr₃ : List (Pid × Event)}
    {i j : Pid} {r : Uuid} {db m m' : Database} (hwf : db.WellFormed)
    (htr : TablesAt db (tr₁ ++ (j, ⟨.selectPending r, .ok T⟩) ::
      (tr₂ ++ (i, ⟨.selectPending r, .ok rows⟩) :: tr₃)) m')
    (hm : TablesAt db (tr₁ ++ (j, ⟨.selectPending r, .ok T⟩) :: tr₂) m) :
    Reviewed T rows (m'.pending r) ↔
      ∀ k n row, (k, (⟨.insertChange r n, .ok row⟩ : Event)) ∈ tr₂ → row ∉ m.pending r := by
  obtain ⟨m₀, hm₀, hrest⟩ := tablesAt_append.1 hm
  obtain ⟨m₁, hfetch, hbetween⟩ := tablesAt_cons.1 hrest
  obtain ⟨hT, rfl⟩ := exec_selectPending hfetch
  rw [← List.cons_append, ← List.append_assoc] at htr
  obtain ⟨m₂, hm₂, hafter⟩ := tablesAt_append.1 htr
  obtain rfl := hm.unique hm₂
  obtain ⟨m₃, hselect, hlast⟩ := tablesAt_cons.1 hafter
  obtain ⟨hrows, rfl⟩ := exec_selectPending hselect
  have hwf₁ := execAll_wellFormed hm₀ hwf
  rw [← pending_subset_iff hwf₁ hbetween]
  constructor
  · intro hreviewed b hb
    exact hT.mem_iff.1 (hreviewed.shown b (hrows.mem_iff.2 hb))
  · intro hsub
    refine ⟨fun b hb ↦ hT.mem_iff.2 (hsub b (hrows.mem_iff.1 hb)), fun b hb hpending ↦ ?_⟩
    exact hrows.mem_iff.2 (pending_of_still_pending hwf₁ hbetween hlast (hT.mem_iff.1 hb) hpending)

/-- Where an entry of the second list is in the two together. -/
theorem split_of_not_mem {α : Type} {x : α} {a b c e : List α} (hx : x ∉ a)
    (heq : a ++ b = c ++ x :: e) : ∃ w, c = a ++ w ∧ b = w ++ x :: e := by
  rcases List.append_eq_append_iff.1 heq with ⟨w, rfl, hw⟩ | ⟨w, rfl, hw⟩
  · exact ⟨w, rfl, hw⟩
  · cases w with
    | nil => exact ⟨[], by simp, hw.symm⟩
    | cons y w =>
      obtain ⟨rfl, -⟩ := List.cons.inj hw
      exact absurd (List.mem_append_right c List.mem_cons_self) hx

end Served

section Desk

variable {Operator Pid : Type} [DecidableEq Operator] [DecidableEq Pid]
  {office : Office Operator Pid} {db : Database} {d d' : Desk Operator Pid} {acts : List (Act Pid)}
  {i : Pid}

/-- **What the server does is a run of concurrent requests.** -/
theorem run_of_trace (h : Trace office.Step d acts d') :
    Run exec d.server (served acts) d'.server := by
  induction h with
  | nil => exact Run.nil _
  | cons ha _ ih =>
    cases ha with
    | press => exact ih
    | serve i v _ hcall hexec => exact Run.step i v hcall hexec ih
    | deliver => exact ih
    | refresh => exact ih

/-- A request that is still to be sent was so before, and makes no step. -/
theorem unsent_of_step {a : Act Pid} (ha : office.Step d a d') (hi : d'.wire i = .unsent) :
    d.wire i = .unsent ∧ ∀ x, a ≠ .serve i x := by
  cases ha with
  | press j hj =>
    by_cases hij : i = j
    · subst hij
      simp at hi
    · exact ⟨by simpa [hij] using hi, by simp⟩
  | serve j v hj =>
    refine ⟨hi, fun x hx ↦ ?_⟩
    obtain ⟨rfl, -⟩ := Act.serve.inj hx
    rw [hi] at hj
    cases hj
  | deliver j r hj =>
    by_cases hij : i = j
    · subst hij
      simp at hi
    · exact ⟨by simpa [hij] using hi, by simp⟩
  | refresh j r k hj =>
    by_cases hik : i = k
    · subst hik
      simp at hi
    · by_cases hij : i = j
      · subst hij
        simp [hik] at hi
      · exact ⟨by simpa [hij, hik] using hi, by simp⟩

/-- A request that was not sent has made no steps. -/
theorem not_mem_served_of_unsent (h : Trace office.Step d acts d') (hi : d'.wire i = .unsent)
    (x : Event) : (i, x) ∉ served acts := by
  have hinv : d'.wire i = .unsent → (i, x) ∉ served acts := by
    refine h.from_end (P := fun acts d ↦ d.wire i = .unsent → (i, x) ∉ served acts) (by simp) ?_
    intro acts m a m' _ ha ih hm'
    obtain ⟨hm, hne⟩ := unsent_of_step ha hm'
    rw [mem_served, List.mem_append, not_or]
    refine ⟨fun hmem ↦ ih hm (mem_served.2 hmem), fun hmem ↦ ?_⟩
    exact hne x (List.mem_singleton.1 hmem).symm
  exact hinv hi

/-! ### What a tray shows -/

/-- The act puts a tray on the page of `o`. -/
def Office.shows (office : Office Operator Pid) (o : Operator) : Act Pid → Bool
  | .deliver j r => office.operator j == o && (shownBy (office.request j) r).isSome
  | _ => false

/-- The tray `T` on the page of `o` is the reply to the request `j`. -/
structure LastShown (office : Office Operator Pid) (acts : List (Act Pid)) (o : Operator) (j : Pid)
    (T : List ConfigChange) : Prop where
  operator : office.operator j = o
  request : office.request j = .listChanges
  delivered : ∃ acts₁ acts₂, acts = acts₁ ++ .deliver j (.ok (.changes T)) :: acts₂ ∧
    ∀ a ∈ acts₂, office.shows o a = false

/-- An act that does not show a tray on a page leaves the page alone. -/
theorem pendingChanges_of_step {a : Act Pid} {o : Operator} (ha : office.Step d a d')
    (ho : office.shows o a = false) : d'.pendingChanges o = d.pendingChanges o := by
  cases ha with
  | press => rfl
  | serve => rfl
  | refresh => rfl
  | deliver j r =>
    show office.receive d j r o = d.pendingChanges o
    rw [Office.receive]
    cases hshown : shownBy (office.request j) r with
    | none => rfl
    | some l =>
      have hne : o ≠ office.operator j := by
        rintro rfl
        simp [Office.shows, hshown] at ho
      exact Function.update_of_ne hne _ _

/-- The tray of a page is what it was shown last. -/
theorem LastShown.pendingChanges_eq {o : Operator} {j : Pid} {T : List ConfigChange}
    (hshown : LastShown office acts o j T) (h : Trace office.Step d acts d') :
    d'.pendingChanges o = T := by
  obtain ⟨acts₁, acts₂, rfl, hquiet⟩ := hshown.delivered
  obtain ⟨m, -, hrest⟩ := trace_append.1 h
  obtain ⟨m', hstep, hafter⟩ := trace_cons.1 hrest
  have hm' : m'.pendingChanges o = T := by
    cases hstep with
    | deliver _ _ _ _ _ =>
      show office.receive m j (.ok (.changes T)) o = T
      rw [Office.receive, shownBy_eq_some.2 ⟨hshown.request, rfl⟩, ← hshown.operator]
      exact Function.update_self _ _ _
  refine hafter.invariant (P := fun d ↦ d.pendingChanges o = T) ?_ hm'
  intro a ha n n' hn hT
  rw [pendingChanges_of_step hn (hquiet a ha), hT]

/-- A page that shows something was shown it. -/
theorem exists_lastShown {o : Operator} (h : Trace office.Step (office.start db) acts d)
    (hne : d.pendingChanges o ≠ []) : ∃ j T, LastShown office acts o j T := by
  have hinv : d.pendingChanges o ≠ [] → ∃ j T, LastShown office acts o j T := by
    refine h.from_end (P := fun acts d ↦ d.pendingChanges o ≠ [] →
      ∃ j T, LastShown office acts o j T) (fun hnil ↦ absurd rfl hnil) ?_
    intro acts m a m' _ ha ih hm'
    cases hshows : office.shows o a with
    | false =>
      rw [pendingChanges_of_step ha hshows] at hm'
      obtain ⟨j, T, hlast⟩ := ih hm'
      obtain ⟨acts₁, acts₂, rfl, hquiet⟩ := hlast.delivered
      refine ⟨j, T, hlast.operator, hlast.request, acts₁, acts₂ ++ [a], ?_, fun b hb ↦ ?_⟩
      · rw [List.append_assoc, List.cons_append]
      · rcases List.mem_append.1 hb with hb | hb
        · exact hquiet b hb
        · obtain rfl := List.mem_singleton.1 hb
          exact hshows
    | true =>
      cases ha with
      | press => cases hshows
      | serve => cases hshows
      | refresh => cases hshows
      | deliver j r =>
        rw [Office.shows, Bool.and_eq_true, beq_iff_eq] at hshows
        obtain ⟨l, hl⟩ := Option.isSome_iff_exists.1 hshows.2
        obtain ⟨hrequest, rfl⟩ := shownBy_eq_some.1 hl
        exact ⟨j, l, hshows.1, hrequest, acts, [], rfl, by simp⟩
  exact hinv hne

/-! ### The fetch behind a tray -/

/-- A fetch that answered `T` had read `T`. -/
theorem follows_listChanges {claims : Claims} {id : Uuid} {h : List Event} {q : Handler Response}
    {T : List ConfigChange} (hf : Prog.Follows (listChanges claims id) h q)
    (hq : q.outcome = some (.ok (.changes T))) : (⟨.selectPending id, .ok T⟩ : Event) ∈ h := by
  rcases Prog.follows_silent_bind (authorizeRouter_inspects claims id).silent hf with
    ⟨-, hne⟩ | ⟨s, h', a, rfl, -, -, hf'⟩
  · exact absurd (Prog.outcome_eq_ok.1 hq) (hne _)
  · rcases follows_sql_bind hf' with ⟨-, hnone⟩ | ⟨e, -, rfl⟩ | ⟨rows, h'', rfl, hf''⟩
    · rw [hnone] at hq
      cases hq
    · cases hq
    · obtain ⟨rfl, rfl⟩ := Prog.follows_ret.1 hf''
      cases hq
      exact List.mem_append_right _ List.mem_cons_self

/-- A fetch that is through with `T` has read `T`. -/
theorem read_of_outcome {j : Pid} {T : List ConfigChange}
    (h : Trace office.Step (office.start db) acts d) (hj : office.request j = .listChanges)
    (hout : (d.server.prog j).outcome = some (.ok (.changes T))) :
    (j, (⟨.selectPending (office.page (office.operator j)).deviceId, .ok T⟩ : Event)) ∈
      served acts := by
  have hf := (run_of_trace h).follows j
  have hprog : (office.start db).server.prog j =
      listChanges (office.call j).claims (office.page (office.operator j)).deviceId := by
    show (office.call j).handle = _
    rw [Call.handle, show (office.call j).request = .listChanges from hj]
    rfl
  rw [hprog] at hf
  exact mem_proj.1 (follows_listChanges hf hout)

/-- The tray of a page was read by its fetch. -/
theorem LastShown.read {o : Operator} {j : Pid} {T : List ConfigChange}
    (hshown : LastShown office acts o j T) (h : Trace office.Step (office.start db) acts d) :
    (j, (⟨.selectPending (office.page o).deviceId, .ok T⟩ : Event)) ∈ served acts := by
  obtain ⟨acts₁, acts₂, rfl, -⟩ := hshown.delivered
  obtain ⟨m, hfirst, hrest⟩ := trace_append.1 h
  obtain ⟨m', hstep, -⟩ := trace_cons.1 hrest
  have hout : (m.server.prog j).outcome = some (.ok (.changes T)) := by
    cases hstep with
    | deliver _ _ _ hout _ => exact hout
  rw [served_append, ← hshown.operator]
  exact List.mem_append_left _ (read_of_outcome hfirst hshown.request hout)

/-! ### Review before commit -/

/-- The commit `i` was pressed after the acts `pre`, and `mid` came between that and its batch: no
change was staged, and is still pending at the `SELECT` of the commit, after the `SELECT` of the
fetch whose reply its operator was shown last. -/
def ReviewedInTime (office : Office Operator Pid) (db : Database) (pre mid : List (Act Pid))
    (i : Pid) : Prop :=
  ∃ j T tr₁ tr₂ tr₃ rows m, LastShown office pre (office.operator i) j T ∧
    served (pre ++ mid) = tr₁ ++ (j, ⟨.selectPending (office.call i).id, .ok T⟩) ::
      (tr₂ ++ (i, ⟨.selectPending (office.call i).id, .ok rows⟩) :: tr₃) ∧
    TablesAt db (tr₁ ++ (j, ⟨.selectPending (office.call i).id, .ok T⟩) :: tr₂) m ∧
    ∀ k n row, (k, (⟨.insertChange (office.call i).id n, .ok row⟩ : Event)) ∈ tr₂ →
      row ∉ m.pending (office.call i).id

/-- **Review before commit.** When a commit sends its batch, that is what its operator was shown
when the commit was pressed, exactly if it was reviewed in time. -/
theorem reviewed_iff (hwf : db.WellFormed) {pre mid : List (Act Pid)} {d₁ d₂ : Desk Operator Pid}
    (hpre : Trace office.Step (office.start db) pre d)
    (hmid : Trace office.Step d (.press i :: mid) d₁) {client : VyosClient}
    {rows : List ConfigChange} {v : Except Fault Json}
    (hsend : office.Step d₁ (.serve i ⟨.configure client rows, v⟩) d₂) :
    Reviewed (d.pendingChanges (office.operator i)) rows
        (d₁.server.state.pending (office.call i).id) ↔ ReviewedInTime office db pre mid i := by
  have hserved : served (pre ++ .press i :: mid) = served (pre ++ mid) := by
    rw [served_append, served_append]
    rfl
  have hwhole : Trace office.Step (office.start db) (pre ++ .press i :: mid) d₁ :=
    trace_append.2 ⟨d, hpre, hmid⟩
  have htables : TablesAt db (served (pre ++ mid)) d₁.server.state := by
    rw [← hserved]
    exact (run_of_trace hwhole).execs
  have hrun : ReviewRun db office.call
      (served (pre ++ mid) ++ [(i, ⟨.configure client rows, v⟩)]) d₂.server := by
    rw [← hserved]
    have hall := run_of_trace (trace_snoc.2 ⟨d₁, hwhole, hsend⟩)
    rwa [served_append] at hall
  have hcommit : office.request i = .commit :=
    hrun.request_of_configure (List.mem_append_right _ List.mem_cons_self)
  -- the button was enabled: the request was not sent yet, and the tray was not empty
  obtain ⟨d', hpress, -⟩ := trace_cons.1 hmid
  obtain ⟨hunsent, htray⟩ : d.wire i = .unsent ∧ d.pendingChanges (office.operator i) ≠ [] := by
    cases hpress with
    | press _ hunsent htray => exact ⟨hunsent, htray hcommit⟩
  constructor
  · intro hreviewed
    -- the fetch that was shown last read before the press, and the commit reads after it
    obtain ⟨j, T, hshown⟩ := exists_lastShown hpre htray
    obtain ⟨tr₁, u, hfetch⟩ := List.append_of_mem (hshown.read hpre)
    obtain ⟨-, tr₀, tr₃, m, m', htr, hm, -⟩ := hrun.batch_read
    rw [served_append] at htr
    obtain ⟨w, rfl, hw⟩ := split_of_not_mem (not_mem_served_of_unsent hpre hunsent _) htr
    have hsplit : served (pre ++ mid) = tr₁ ++ (j, ⟨.selectPending (office.call i).id, .ok T⟩) ::
        (u ++ w ++ (i, ⟨.selectPending (office.call i).id, .ok rows⟩) :: tr₃) := by
      rw [served_append, hfetch, hw, List.append_assoc, List.append_assoc]
      rfl
    rw [hfetch, List.append_assoc] at hm
    rw [hsplit] at htables
    rw [hshown.pendingChanges_eq hpre] at hreviewed
    exact ⟨j, T, tr₁, u ++ w, tr₃, rows, m, hshown, hsplit, hm,
      (reviewed_iff_of_reads hwf htables hm).1 hreviewed⟩
  · rintro ⟨j, T, tr₁, tr₂, tr₃, rows', m, hshown, hsplit, hm, hnone⟩
    have hread : (i, (⟨.selectPending (office.call i).id, .ok rows'⟩ : Event)) ∈
        served (pre ++ mid) := by
      rw [hsplit]
      exact List.mem_append_right _ (List.mem_cons_of_mem _
        (List.mem_append_right _ List.mem_cons_self))
    obtain rfl := hrun.read_unique hread
    rw [hsplit] at htables
    rw [hshown.pendingChanges_eq hpre]
    exact (reviewed_iff_of_reads hwf htables hm).2 hnone

end Desk

/-- Two operators at one device: `true` fetches the tray and commits, `false` deletes a VLAN. -/
def sampleOffice : Office Bool ℕ where
  page := fun _ ↦ ⟨sampleAdmin, 0⟩
  operator := fun i ↦ decide (i < 2)
  request := fun i ↦ match i with
    | 0 => .listChanges
    | 1 => .commit
    | 2 => .edit (.deleteVlan ⟨"eth1", 1⟩)
    | _ => .listChanges

/-- The tray of one row reaches its operator. -/
def sampleFetch : List (Act ℕ) :=
  [.press 0, .serve 0 ⟨.selectPending 0, .ok [sampleRow 0]⟩,
    .deliver 0 (.ok (.changes [sampleRow 0]))]

/-- A commit up to its batch. -/
def sampleRead (rows : List ConfigChange) : List (Act ℕ) :=
  [.serve 1 ⟨.selectPending 0, .ok rows⟩, .serve 1 ⟨.selectRouter 0, .ok (some sampleRouter)⟩]

/-- A commit of a tray that nobody changed. -/
theorem reviewed_quiet : ∃ d d₁ d₂ : Desk Bool ℕ,
    Trace sampleOffice.Step (sampleOffice.start (sampleDatabase [sampleRow 0])) sampleFetch d ∧
      Trace sampleOffice.Step d (.press 1 :: sampleRead [sampleRow 0]) d₁ ∧
      sampleOffice.Step d₁
        (.serve 1 ⟨.configure sampleClient [sampleRow 0], .ok acceptedResponse⟩) d₂ ∧
      Reviewed (d.pendingChanges true) [sampleRow 0] (d₁.server.state.pending 0) := by
  have hwf : (sampleDatabase [sampleRow 0]).WellFormed :=
    ⟨by decide, by decide, by decide, by decide, by decide⟩
  obtain ⟨d, d₁, d₂, hpre, hmid, hsend⟩ : ∃ d d₁ d₂ : Desk Bool ℕ,
      Trace sampleOffice.Step (sampleOffice.start (sampleDatabase [sampleRow 0])) sampleFetch d ∧
        Trace sampleOffice.Step d (.press 1 :: sampleRead [sampleRow 0]) d₁ ∧
        sampleOffice.Step d₁
          (.serve 1 ⟨.configure sampleClient [sampleRow 0], .ok acceptedResponse⟩) d₂ :=
    ⟨_, _, _, Trace.cons (.press 0 rfl nofun) <| Trace.cons (.serve 0 _ rfl rfl rfl) <|
        Trace.cons (.deliver 0 _ rfl rfl rfl) <| Trace.nil _,
      Trace.cons (.press 1 rfl fun _ ↦ List.cons_ne_nil _ _) <|
        Trace.cons (.serve 1 _ rfl rfl rfl) <| Trace.cons (.serve 1 _ rfl rfl rfl) <| Trace.nil _,
      .serve 1 _ rfl rfl rfl⟩
  have hshown : LastShown sampleOffice sampleFetch true 0 [sampleRow 0] :=
    ⟨rfl, rfl, [.press 0, .serve 0 ⟨.selectPending 0, .ok [sampleRow 0]⟩], [], rfl, by simp⟩
  refine ⟨d, d₁, d₂, hpre, hmid, hsend, (reviewed_iff hwf hpre hmid hsend).2 ?_⟩
  exact ⟨0, [sampleRow 0], [], [], [(1, ⟨.selectRouter 0, .ok (some sampleRouter)⟩)],
    [sampleRow 0], sampleDatabase [sampleRow 0], hshown, rfl, rfl, by simp⟩

/-- The other operator stages a change after the fetch. -/
def sampleStage : List (Act ℕ) :=
  [.press 2, .serve 2 ⟨.deletePending 0 (.vif (vifBase "eth1" 1)), .ok (0 : ℕ)⟩,
    .serve 2 ⟨.insertChange 0 (sampleChange 1), .ok (sampleRow 1)⟩,
    .refresh 2 (.ok (.changes [sampleRow 1])) 3]

/-- **A change nobody reviewed is committed.** The batch holds a change that its operator was never
shown. -/
theorem not_reviewed_staged : ∃ d d₁ d₂ : Desk Bool ℕ,
    (sampleDatabase [sampleRow 0]).WellFormed ∧
      Trace sampleOffice.Step (sampleOffice.start (sampleDatabase [sampleRow 0]))
        (sampleFetch ++ sampleStage) d ∧
      Trace sampleOffice.Step d (.press 1 :: sampleRead [sampleRow 0, sampleRow 1]) d₁ ∧
      sampleOffice.Step d₁ (.serve 1
        ⟨.configure sampleClient [sampleRow 0, sampleRow 1], .ok acceptedResponse⟩) d₂ ∧
      ¬Reviewed (d.pendingChanges true) [sampleRow 0, sampleRow 1]
        (d₁.server.state.pending 0) := by
  refine ⟨_, _, _, ⟨by decide, by decide, by decide, by decide, by decide⟩,
    Trace.cons (.press 0 rfl nofun) <| Trace.cons (.serve 0 _ rfl rfl rfl) <|
      Trace.cons (.deliver 0 _ rfl rfl rfl) <| Trace.cons (.press 2 rfl nofun) <|
      Trace.cons (.serve 2 _ rfl rfl rfl) <| Trace.cons (.serve 2 _ rfl rfl rfl) <|
      Trace.cons (.refresh 2 _ 3 rfl rfl rfl rfl rfl rfl) <| Trace.nil _,
    Trace.cons (.press 1 rfl fun _ ↦ List.cons_ne_nil _ _) <|
      Trace.cons (.serve 1 _ rfl rfl rfl) <| Trace.cons (.serve 1 _ rfl rfl rfl) <| Trace.nil _,
    .serve 1 _ rfl rfl rfl, fun hreviewed ↦ ?_⟩
  have hshown := hreviewed.shown (sampleRow 1) (List.mem_cons_of_mem _ List.mem_cons_self)
  have hrow := List.mem_singleton.1 hshown
  cases congrArg ConfigChange.id hrow

end VyosFabric
