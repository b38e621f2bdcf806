import VyosFabric.Review.Tables

/-!
# Concurrent requests

A review pool is a database with one request for each process. A run interleaves their statements in
any order and never has to finish them, so "any number of concurrent requests" is any set of
processes, most of which may never have started.

The lemmas locate the steps of one request in a run of many. Which statements a request can issue at
all is `Call.mayIssue`. For a commit, `follows_commit` orders its statements: before the batch it
sends comes the `SELECT` that read it (`batch_read`), and the `UPDATE` names the commit it has just
recorded (`update_recorded`). Commits recorded by different requests have different identifiers
(`recorded_ne`), so no two `UPDATE`s compete for one commit.
-/

namespace VyosFabric

open Interaction

/-! ### What a request can issue -/

/-- The statements a request may issue. -/
def Call.mayIssue (c : Call) : Statement → Bool
  | .deletePending r _ => r == c.id && c.request != .commit
  | .insertChange r _ => r == c.id && c.request != .commit
  | .selectPending r => r == c.id
  | .insertCommit n => n.routerId == c.id && c.request == .commit
  | .updateCommitted _ r => r == c.id && c.request == .commit
  | .configure _ _ => c.request == .commit
  | .save _ _ => c.request == .commit
  | _ => true

theorem Call.mayIssue_of_silent (c : Call) {s : Statement} (hs : s.touches = false) :
    c.mayIssue s = true := by
  cases s <;> first | rfl | cases hs

/-- A silent prefix issues nothing out of bounds. -/
theorem Call.issues_of_silent (c : Call) {α : Type} {p : Handler α}
    (hp : p.Silent Statement.touches) : p.Issues fun s ↦ c.mayIssue s = true :=
  hp.mono fun _ ↦ c.mayIssue_of_silent

theorem Call.issues_restage (c : Call) (hc : c.request ≠ .commit) (filters : List Filter)
    (changes : List NewConfigChange) :
    (restage c.id filters changes).Issues fun s ↦ c.mayIssue s = true := by
  have hdelete : (deleteEach c.id filters).Issues fun s ↦ c.mayIssue s = true := by
    induction filters with
    | nil => trivial
    | cons f fs ih => exact (sql_issues (by simp [mayIssue, hc])).bind fun _ ↦ ih
  have hinsert : (insertChanges c.id changes).Issues fun s ↦ c.mayIssue s = true := by
    induction changes with
    | nil => trivial
    | cons n ns ih =>
      exact (sql_issues (by simp [mayIssue, hc])).bind fun _ ↦ ih.bind fun _ ↦ trivial
  exact hdelete.bind fun _ ↦ hinsert.bind fun _ ↦ trivial

theorem Call.issues_commit (c : Call) (hc : c.request = .commit) :
    (commit c.claims c.id).Issues fun s ↦ c.mayIssue s = true := by
  refine (c.issues_of_silent (authorizeRouter_inspects _ _).silent).bind fun _ ↦ ?_
  refine (sql_issues (by simp [mayIssue])).bind fun rows ↦ ?_
  show Prog.Issues _ (if _ then _ else _)
  split
  · trivial
  · refine (c.issues_of_silent (fetchClient_inspects _ _).silent).bind fun client ↦ ?_
    refine (device_issues (by simp [mayIssue, hc])).bind fun resp ↦ ?_
    have hsave : (saveIfApplied client resp).Issues fun s ↦ c.mayIssue s = true := by
      rw [saveIfApplied]
      split
      · refine ⟨by simp [mayIssue, hc], fun v ↦ ?_⟩
        cases v <;> trivial
      · trivial
    refine hsave.bind fun saved ↦ ?_
    refine (sql_issues (by simp [mayIssue, commitRecord, hc])).bind fun row ↦ ?_
    show Prog.Issues _ (if _ then _ else _)
    split
    · exact (sql_issues (by simp [mayIssue, hc])).bind fun _ ↦ trivial
    · trivial

/-- **What a request can issue**: writes on its own router, and those of a commit only if it is
one. -/
theorem Call.handle_issues (c : Call) : c.handle.Issues fun s ↦ c.mayIssue s = true := by
  obtain ⟨claims, id, request⟩ := c
  cases request with
  | edit e =>
    show (e.handle claims id).Issues _
    rw [e.handle_eq]
    exact (Call.issues_of_silent _ (e.diff_inspects claims id).silent).bind fun changes ↦
      Call.issues_restage ⟨claims, id, .edit e⟩ (by simp) e.filters changes
  | listChanges =>
    exact (Call.issues_of_silent _ (authorizeRouter_inspects claims id).silent).bind fun _ ↦
      (sql_issues (by simp [mayIssue])).bind fun _ ↦ trivial
  | discardOne changeId =>
    refine (Call.issues_of_silent _ (authorizeRouter_inspects claims id).silent).bind fun _ ↦
      (sql_issues (by simp [mayIssue])).bind fun n ↦ ?_
    show Prog.Issues _ (if _ then _ else _)
    split <;> trivial
  | discardAll =>
    exact (Call.issues_of_silent _ (authorizeRouter_inspects claims id).silent).bind fun _ ↦
      (sql_issues (by simp [mayIssue])).bind fun _ ↦ trivial
  | commit => exact Call.issues_commit ⟨claims, id, .commit⟩ rfl
  | listCommits => exact Call.issues_of_silent _ (listCommits_silent claims id)

/-! ### The steps of a commit -/

/-- A statement that sends a batch to the device. -/
def Statement.sends : Statement → Bool
  | configure _ _ => true
  | _ => false

/-- The save step sends no batch. -/
theorem SavePath.sends_eq_false {client : VyosClient} {resp : Json} {saves : List Event}
    {saved : Bool × Json} (hsave : SavePath client resp saves saved) :
    ∀ x ∈ saves, x.1.sends = false := by
  intro x hx
  obtain ⟨v, rfl⟩ := hsave.eq_save hx
  rfl

/-- What follows the answer of the device sends nothing more. -/
theorem no_sends_after_saves {client : VyosClient} {resp : Json} {saves : List Event}
    {saved : Bool × Json} (hsave : SavePath client resp saves saved) {t : List Event}
    (ht : ∀ x ∈ t, x.1.sends = false) : ∀ x ∈ saves ++ t, x.1.sends = false := by
  intro x hx
  rcases List.mem_append.1 hx with hx | hx
  · exact hsave.sends_eq_false x hx
  · exact ht x hx

/-- A path of a commit sends at most one batch, right after it read it. -/
theorem CommitPath.shape {claims : Claims} {id : Uuid} {h : List Event}
    {o : Option (Except AppError Response)} (hpath : CommitPath claims id h o) :
    (∀ x ∈ h, x.1.sends = false) ∨ ∃ rows client v t, rows ≠ [] ∧
      h = sentEvents id rows client v ++ t ∧ ∀ x ∈ t, x.1.sends = false := by
  cases hpath with
  | idle => exact Or.inl (by simp)
  | read => exact Or.inl (by simp [Statement.sends])
  | lost client e hrows =>
    exact Or.inr ⟨_, client, .error e, [], hrows, (List.append_nil _).symm, by simp⟩
  | sent client resp hrows =>
    exact Or.inr ⟨_, client, .ok resp, [], hrows, (List.append_nil _).symm, by simp⟩
  | saved hrows hsave => exact Or.inr ⟨_, _, _, _, hrows, rfl, hsave.sends_eq_false⟩
  | unrecorded hrows hsave e =>
    exact Or.inr ⟨_, _, _, _, hrows, List.append_assoc _ _ _,
      no_sends_after_saves hsave (by simp [Statement.sends])⟩
  | rejected hrows hsave hresp row =>
    exact Or.inr ⟨_, _, _, _, hrows, List.append_assoc _ _ _,
      no_sends_after_saves hsave (by simp [Statement.sends])⟩
  | recorded hrows hsave hresp row =>
    exact Or.inr ⟨_, _, _, _, hrows, List.append_assoc _ _ _,
      no_sends_after_saves hsave (by simp [Statement.sends])⟩
  | unmarked hrows hsave hresp row e =>
    exact Or.inr ⟨_, _, _, _, hrows, List.append_assoc _ _ _,
      no_sends_after_saves hsave (by simp [Statement.sends])⟩
  | marked hrows hsave hresp row changes =>
    exact Or.inr ⟨_, _, _, _, hrows, List.append_assoc _ _ _,
      no_sends_after_saves hsave (by simp [Statement.sends])⟩

/-- Before the batch of a commit comes the read of that batch, and nothing else. -/
theorem CommitPath.before_configure {claims : Claims} {id : Uuid} {h₁ h₂ : List Event}
    {o : Option (Except AppError Response)} {client : VyosClient} {rows : List ConfigChange}
    {v : Except Fault Json}
    (hpath : CommitPath claims id (h₁ ++ ⟨.configure client rows, v⟩ :: h₂) o) :
    rows ≠ [] ∧ h₁ = [⟨.selectPending id, .ok rows⟩] ∧ ∀ x ∈ h₂, x.1.sends = false := by
  rcases hpath.shape with hno | ⟨rows', client', v', t, hrows, heq, hno⟩
  · exact absurd (hno ⟨.configure client rows, v⟩ (by simp)) (by simp [Statement.sends])
  · rw [sentEvents] at heq
    cases h₁ with
    | nil => cases heq
    | cons x h₁ =>
      cases h₁ with
      | nil =>
        cases heq
        exact ⟨hrows, rfl, hno⟩
      | cons y h₁ =>
        obtain ⟨-, htl⟩ := List.cons.inj heq
        obtain ⟨-, htl⟩ := List.cons.inj htl
        have htl : h₁ ++ ⟨.configure client rows, v⟩ :: h₂ = t := htl
        have hmem : (⟨.configure client rows, v⟩ : Event) ∈ t := by
          rw [← htl]
          exact List.mem_append_right _ List.mem_cons_self
        exact absurd (hno _ hmem) (by simp [Statement.sends])

/-- A commit sends one batch. -/
theorem CommitPath.configure_unique {claims : Claims} {id : Uuid} {h : List Event}
    {o : Option (Except AppError Response)} (hpath : CommitPath claims id h o)
    {client client' : VyosClient} {rows rows' : List ConfigChange} {v v' : Except Fault Json}
    (hx : (⟨.configure client rows, v⟩ : Event) ∈ h)
    (hy : (⟨.configure client' rows', v'⟩ : Event) ∈ h) :
    (⟨.configure client rows, v⟩ : Event) = ⟨.configure client' rows', v'⟩ := by
  obtain ⟨h₁, h₂, rfl⟩ := List.append_of_mem hx
  obtain ⟨-, rfl, hno⟩ := hpath.before_configure
  rcases List.mem_cons.1 hy with hy | hy
  · cases hy
  · rcases List.mem_cons.1 hy with hy | hy
    · exact hy.symm
    · exact absurd (hno _ hy) (by simp [Statement.sends])

/-- The exchanges of a commit up to the record of its success. -/
def recordedEvents (claims : Claims) (id : Uuid) (rows : List ConfigChange) (client : VyosClient)
    (resp : Json) (saves : List Event) (saved : Bool × Json) (row : ConfigCommit) : List Event :=
  sentEvents id rows client (.ok resp) ++ saves ++
    [⟨.insertCommit (commitRecord claims id rows resp saved), .ok row⟩]

theorem record_mem_recordedEvents {claims : Claims} {id : Uuid} {rows : List ConfigChange}
    {client : VyosClient} {resp : Json} {saves : List Event} {saved : Bool × Json}
    {row : ConfigCommit} :
    (⟨.insertCommit (commitRecord claims id rows resp saved), .ok row⟩ : Event) ∈
      recordedEvents claims id rows client resp saves saved row :=
  List.mem_append_right _ List.mem_cons_self

theorem configure_mem_recordedEvents {claims : Claims} {id : Uuid} {rows : List ConfigChange}
    {client : VyosClient} (resp : Json) (saves : List Event) (saved : Bool × Json)
    (row : ConfigCommit) :
    (⟨.configure client rows, .ok resp⟩ : Event) ∈
      recordedEvents claims id rows client resp saves saved row :=
  List.mem_cons_of_mem _ List.mem_cons_self

/-- None of them is an `UPDATE`. -/
theorem ne_update_of_mem_recordedEvents {claims : Claims} {id : Uuid} {rows : List ConfigChange}
    {client : VyosClient} {resp : Json} {saves : List Event} {saved : Bool × Json}
    {row : ConfigCommit} (hsave : SavePath client resp saves saved) {x : Event}
    (hx : x ∈ recordedEvents claims id rows client resp saves saved row) (k r : Uuid) :
    x.1 ≠ .updateCommitted k r := by
  rcases List.mem_append.1 hx with hx | hx
  · rcases List.mem_append.1 hx with hx | hx
    · rcases List.mem_pair.1 hx with rfl | rfl <;> simp
    · obtain ⟨v, rfl⟩ := hsave.eq_save hx
      simp
  · obtain rfl := List.mem_singleton.1 hx
    simp

/-- `Marks claims id h row v`: in the exchanges `h` a commit recorded the success `row` of a batch
it had read and sent, and then marked the tray under that row's identifier with the answer `v`. -/
structure Marks (claims : Claims) (id : Uuid) (h : List Event) (row : ConfigCommit)
    (v : Except Fault (List ConfigChange)) : Prop where
  path : ∃ rows client resp saves saved, rows ≠ [] ∧ resp.succeeded = true ∧
    SavePath client resp saves saved ∧
    h = recordedEvents claims id rows client resp saves saved row ++
      [⟨.updateCommitted row.id id, v⟩]

/-- The `UPDATE` is the last step and the only one of its kind. -/
theorem Marks.split {claims : Claims} {id k r : Uuid} {h₁ h₂ : List Event} {row : ConfigCommit}
    {v w : Except Fault (List ConfigChange)}
    (hmarks : Marks claims id (h₁ ++ ⟨.updateCommitted k r, w⟩ :: h₂) row v) :
    h₂ = [] ∧ ∃ rows client resp saves saved, SavePath client resp saves saved ∧
      h₁ = recordedEvents claims id rows client resp saves saved row := by
  obtain ⟨rows, client, resp, saves, saved, -, -, hsave, heq⟩ := hmarks.path
  rcases List.eq_nil_or_concat h₂ with rfl | ⟨h₃, z, rfl⟩
  · obtain ⟨hfst, -⟩ := List.append_inj' heq rfl
    exact ⟨rfl, rows, client, resp, saves, saved, hsave, hfst⟩
  · rw [List.concat_eq_append, ← List.cons_append, ← List.append_assoc] at heq
    obtain ⟨hfst, -⟩ := List.append_inj' heq rfl
    have hmem : (⟨.updateCommitted k r, w⟩ : Event) ∈
        recordedEvents claims id rows client resp saves saved row := by
      rw [← hfst]
      exact List.mem_append_right _ List.mem_cons_self
    exact absurd rfl (ne_update_of_mem_recordedEvents hsave hmem k r)

/-- An `UPDATE` in the path of a commit is its last step, under the identifier of the commit it
recorded right before. -/
theorem CommitPath.marks_of_update {claims : Claims} {id k r : Uuid} {h : List Event}
    {o : Option (Except AppError Response)} {v : Except Fault (List ConfigChange)}
    (hpath : CommitPath claims id h o)
    (hmem : (⟨.updateCommitted k r, v⟩ : Event) ∈ h) :
    ∃ row, k = row.id ∧ r = id ∧ Marks claims id h row v := by
  cases hpath with
  | idle => cases hmem
  | read => simp at hmem
  | lost => simp [sentEvents] at hmem
  | sent => simp [sentEvents] at hmem
  | saved hrows hsave => cases hsave <;> simp [sentEvents] at hmem
  | unrecorded hrows hsave => cases hsave <;> simp [sentEvents] at hmem
  | rejected hrows hsave => cases hsave <;> simp [sentEvents] at hmem
  | recorded hrows hsave => cases hsave <;> simp [sentEvents] at hmem
  | unmarked hrows hsave hresp row e =>
    have hlast : (⟨.updateCommitted k r, v⟩ : Event) = ⟨.updateCommitted row.id id, .error e⟩ := by
      cases hsave <;> simpa [sentEvents] using hmem
    cases hlast
    exact ⟨row, rfl, rfl, ⟨_, _, _, _, _, hrows, hresp, hsave, by simp [recordedEvents]⟩⟩
  | marked hrows hsave hresp row changes =>
    have hlast :
        (⟨.updateCommitted k r, v⟩ : Event) = ⟨.updateCommitted row.id id, .ok changes⟩ := by
      cases hsave <;> simpa [sentEvents] using hmem
    cases hlast
    exact ⟨row, rfl, rfl, ⟨_, _, _, _, _, hrows, hresp, hsave, by simp [recordedEvents]⟩⟩

/-- The batch of a path that opens with `sentEvents` and sends nothing more. -/
theorem eq_of_configure_mem {id : Uuid} {rows rows' : List ConfigChange}
    {client client' : VyosClient}
    {v v' : Except Fault Json} {t : List Event} (hno : ∀ x ∈ t, x.1.sends = false)
    (hmem : (⟨.configure client' rows', v'⟩ : Event) ∈ sentEvents id rows client v ++ t) :
    client' = client ∧ rows' = rows ∧ v' = v := by
  rcases List.mem_append.1 hmem with hmem | hmem
  · rcases List.mem_pair.1 hmem with hmem | hmem
    · cases hmem
    · cases hmem
      exact ⟨rfl, rfl, rfl⟩
  · exact absurd (hno _ hmem) (by simp [Statement.sends])

/-- The batch before the saves is the only one. -/
theorem eq_of_configure_mem_saves {id : Uuid} {rows rows' : List ConfigChange}
    {client client' : VyosClient} {v : Except Fault Json} {resp : Json} {saves t : List Event}
    {saved : Bool × Json} (hsave : SavePath client' resp saves saved)
    (ht : ∀ x ∈ t, x.1.sends = false)
    (hmem : (⟨.configure client rows, v⟩ : Event) ∈
      sentEvents id rows' client' (.ok resp) ++ saves ++ t) :
    client = client' ∧ rows = rows' ∧ v = .ok resp := by
  rw [List.append_assoc] at hmem
  exact eq_of_configure_mem (no_sends_after_saves hsave ht) hmem

/-- The record after the saves is the only one. -/
theorem eq_of_insertCommit_mem {id : Uuid} {rows : List ConfigChange} {client : VyosClient}
    {resp : Json} {saves t : List Event} {saved : Bool × Json} {n n' : NewConfigCommit}
    {C row : ConfigCommit} (hsave : SavePath client resp saves saved)
    (ht : (⟨.insertCommit n, .ok C⟩ : Event) ∉ t)
    (hmem : (⟨.insertCommit n, .ok C⟩ : Event) ∈
      sentEvents id rows client (.ok resp) ++ saves ++ ⟨.insertCommit n', .ok row⟩ :: t) :
    n = n' ∧ C = row := by
  rcases List.mem_append.1 hmem with hx | hx
  · rcases List.mem_append.1 hx with hx | hx
    · rcases List.mem_pair.1 hx with hx | hx <;> cases hx
    · obtain ⟨w, hx⟩ := hsave.eq_save hx
      cases hx
  · rcases List.mem_cons.1 hx with hx | hx
    · cases hx
      exact ⟨rfl, rfl⟩
    · exact absurd hx ht

/-- The paths with a record of success: what was sent is what was recorded, and the `UPDATE` is
still to come or was the last step. -/
theorem CommitPath.recorded_cases {claims : Claims} {id : Uuid} {h : List Event}
    {o : Option (Except AppError Response)} (hpath : CommitPath claims id h o)
    {client : VyosClient} {rows : List ConfigChange} {v : Except Fault Json}
    (hsend : (⟨.configure client rows, v⟩ : Event) ∈ h) (hacc : accepted v = true)
    {n : NewConfigCommit} {C : ConfigCommit} (hins : (⟨.insertCommit n, .ok C⟩ : Event) ∈ h) :
    ∃ resp saves saved, rows ≠ [] ∧ SavePath client resp saves saved ∧ resp.succeeded = true ∧
      n = commitRecord claims id rows resp saved ∧
      ((o = none ∧ h = recordedEvents claims id rows client resp saves saved C) ∨
        ∃ w, h = recordedEvents claims id rows client resp saves saved C ++
          [⟨.updateCommitted C.id id, w⟩]) := by
  cases hpath with
  -- the paths that end before the record, and the record of a rejected batch
  | idle => cases hins
  | read => simp at hins
  | lost => simp [sentEvents] at hins
  | sent => simp [sentEvents] at hins
  | saved hrows hsave => cases hsave <;> simp [sentEvents] at hins
  | unrecorded hrows hsave => cases hsave <;> simp [sentEvents] at hins
  | rejected hrows hsave hresp row =>
    obtain ⟨-, -, rfl⟩ := eq_of_configure_mem_saves hsave (by simp [Statement.sends]) hsend
    rw [accepted, hresp] at hacc
    cases hacc
  -- the paths with a record of success, before the `UPDATE` and after it
  | recorded hrows hsave hresp row =>
    obtain ⟨rfl, rfl, rfl⟩ := eq_of_configure_mem_saves hsave (by simp [Statement.sends]) hsend
    obtain ⟨rfl, rfl⟩ := eq_of_insertCommit_mem hsave (by simp) hins
    exact ⟨_, _, _, hrows, hsave, hresp, rfl, Or.inl ⟨rfl, rfl⟩⟩
  | unmarked hrows hsave hresp row e =>
    obtain ⟨rfl, rfl, rfl⟩ := eq_of_configure_mem_saves hsave (by simp [Statement.sends]) hsend
    obtain ⟨rfl, rfl⟩ := eq_of_insertCommit_mem hsave (by simp) hins
    exact ⟨_, _, _, hrows, hsave, hresp, rfl, Or.inr ⟨.error e, by simp [recordedEvents]⟩⟩
  | marked hrows hsave hresp row changes =>
    obtain ⟨rfl, rfl, rfl⟩ := eq_of_configure_mem_saves hsave (by simp [Statement.sends]) hsend
    obtain ⟨rfl, rfl⟩ := eq_of_insertCommit_mem hsave (by simp) hins
    exact ⟨_, _, _, hrows, hsave, hresp, rfl, Or.inr ⟨.ok changes, by simp [recordedEvents]⟩⟩

/-! ### Runs -/

section Pool

variable {Pid : Type} {db : Database} {tr tr₁ tr₂ : List (Pid × Event)}

/-- The database at a cut of the trace. -/
def TablesAt (db : Database) (tr : List (Pid × Event)) (m : Database) : Prop :=
  execAll exec (tr.map Prod.snd) db = some m

theorem TablesAt.unique {m m' : Database} (hm : TablesAt db tr m) (hm' : TablesAt db tr m') :
    m = m' :=
  Option.some.inj (hm.symm.trans hm')

theorem tablesAt_append {m' : Database} :
    TablesAt db (tr₁ ++ tr₂) m' ↔ ∃ m, TablesAt db tr₁ m ∧ TablesAt m tr₂ m' := by
  rw [TablesAt, List.map_append, execAll_append_eq_some]
  rfl

theorem tablesAt_cons {x : Pid × Event} {m' : Database} :
    TablesAt db (x :: tr) m' ↔ ∃ m, exec x.2.1 x.2.2 db = some m ∧ TablesAt m tr m' := by
  rw [TablesAt, List.map_cons, execAll_cons_eq_some]
  rfl

variable [DecidableEq Pid]

/-- A database with one request for each process. -/
def reviewPool (db : Database) (calls : Pid → Call) :
    Pool Statement Statement.Reply AppError Response Database Pid :=
  ⟨db, fun i ↦ (calls i).handle⟩

/-- A run of concurrent requests: its trace, and what it leaves. -/
abbrev ReviewRun (db : Database) (calls : Pid → Call) (tr : List (Pid × Event))
    (s : Pool Statement Statement.Reply AppError Response Database Pid) : Prop :=
  Run exec (reviewPool db calls) tr s

variable {calls : Pid → Call} {i j : Pid}
  {s : Pool Statement Statement.Reply AppError Response Database Pid}

/-- What one request of a run may have issued. -/
theorem ReviewRun.mayIssue (hrun : ReviewRun db calls tr s) {x : Event} (hx : (i, x) ∈ tr) :
    (calls i).mayIssue x.1 = true :=
  hrun.issued (P := fun i s ↦ (calls i).mayIssue s = true) (fun i ↦ (calls i).handle_issues) hx

/-- A request that issued a statement of a commit is one. -/
theorem ReviewRun.request_of_configure (hrun : ReviewRun db calls tr s) {client : VyosClient}
    {rows : List ConfigChange} {v : Except Fault Json}
    (hx : (i, (⟨.configure client rows, v⟩ : Event)) ∈ tr) : (calls i).request = .commit := by
  have hissue := hrun.mayIssue hx
  simpa [Call.mayIssue] using hissue

/-- The path of a request that is a commit. -/
theorem ReviewRun.commitPath (hrun : ReviewRun db calls tr s)
    (hc : (calls i).request = .commit) :
    CommitPath (calls i).claims (calls i).id (Prog.visible Statement.touches (proj i tr))
      (s.prog i).outcome := by
  have hf := hrun.follows i
  have hprog : (reviewPool db calls).prog i = commit (calls i).claims (calls i).id := by
    show (calls i).handle = _
    rw [Call.handle, hc]
  rw [hprog] at hf
  exact follows_commit hf

/-- **A batch is what its commit read.** Before the batch, its request issued one `SELECT` of its
router's tray and got these rows, and it sends no other batch. -/
theorem ReviewRun.batch_read {client : VyosClient} {rows : List ConfigChange}
    {v : Except Fault Json}
    (hrun : ReviewRun db calls (tr₁ ++ (i, ⟨.configure client rows, v⟩) :: tr₂) s) :
    rows ≠ [] ∧ ∃ tr₀ tr₀' m m', tr₁ = tr₀ ++ (i, ⟨.selectPending (calls i).id, .ok rows⟩) :: tr₀' ∧
      TablesAt db tr₀ m ∧ rows.Perm (m.pending (calls i).id) ∧ TablesAt m tr₀' m' ∧
      TablesAt db tr₁ m' := by
  have hc : (calls i).request = .commit :=
    hrun.request_of_configure (List.mem_append_right tr₁ List.mem_cons_self)
  have hpath := hrun.commitPath hc
  rw [proj_append, proj_cons_self, Prog.visible_append, Prog.visible_cons_of_pos rfl] at hpath
  obtain ⟨hrows, hbefore, -⟩ := hpath.before_configure
  have hread : (⟨.selectPending (calls i).id, .ok rows⟩ : Event) ∈
      Prog.visible Statement.touches (proj i tr₁) := by
    rw [hbefore]
    exact List.mem_singleton_self _
  obtain ⟨tr₀, tr₀', rfl⟩ := List.append_of_mem (mem_proj.1 (Prog.mem_visible.1 hread).1)
  obtain ⟨m', hm', -⟩ := tablesAt_append.1 hrun.execs
  obtain ⟨m, hm, hsel⟩ := tablesAt_append.1 hm'
  obtain ⟨m₁, hsel, hrest⟩ := tablesAt_cons.1 hsel
  obtain ⟨hperm, rfl⟩ := exec_selectPending hsel
  exact ⟨hrows, tr₀, tr₀', m₁, m', rfl, hm, hperm, hrest, hm'⟩

/-- It was read once. -/
theorem ReviewRun.read_unique {client : VyosClient} {rows rows' : List ConfigChange}
    {v : Except Fault Json}
    (hrun : ReviewRun db calls (tr₁ ++ (i, ⟨.configure client rows, v⟩) :: tr₂) s)
    (hread : (i, (⟨.selectPending (calls i).id, .ok rows'⟩ : Event)) ∈ tr₁) : rows' = rows := by
  have hpath := hrun.commitPath
    (hrun.request_of_configure (List.mem_append_right tr₁ List.mem_cons_self))
  rw [proj_append, proj_cons_self, Prog.visible_append, Prog.visible_cons_of_pos rfl] at hpath
  obtain ⟨-, hbefore, -⟩ := hpath.before_configure
  have hvis : (⟨.selectPending (calls i).id, .ok rows'⟩ : Event) ∈
      Prog.visible Statement.touches (proj i tr₁) := Prog.mem_visible.2 ⟨mem_proj.2 hread, rfl⟩
  rw [hbefore] at hvis
  cases List.mem_singleton.1 hvis
  rfl

/-- A request sends one batch, once. -/
theorem ReviewRun.configure_once {client client' : VyosClient} {rows rows' : List ConfigChange}
    {v v' : Except Fault Json}
    (hrun : ReviewRun db calls (tr₁ ++ (i, ⟨.configure client rows, v⟩) :: tr₂) s) :
    (i, (⟨.configure client' rows', v'⟩ : Event)) ∉ tr₂ := by
  intro hlater
  have hpath := hrun.commitPath
    (hrun.request_of_configure (List.mem_append_right tr₁ List.mem_cons_self))
  rw [proj_append, proj_cons_self, Prog.visible_append, Prog.visible_cons_of_pos rfl] at hpath
  obtain ⟨-, -, hno⟩ := hpath.before_configure
  have hvis : (⟨.configure client' rows', v'⟩ : Event) ∈
      Prog.visible Statement.touches (proj i tr₂) := Prog.mem_visible.2 ⟨mem_proj.2 hlater, rfl⟩
  exact absurd (hno _ hvis) (by simp [Statement.sends])

/-- **An `UPDATE` names the commit its request has just recorded.** -/
theorem ReviewRun.update_recorded (hrun : ReviewRun db calls tr s) {k r : Uuid}
    {v : Except Fault (List ConfigChange)}
    (hx : (i, (⟨.updateCommitted k r, v⟩ : Event)) ∈ tr) :
    ∃ row, k = row.id ∧ r = (calls i).id ∧
      Marks (calls i).claims (calls i).id (Prog.visible Statement.touches (proj i tr)) row v := by
  have hissue := hrun.mayIssue hx
  have hc : (calls i).request = .commit := by
    simp only [Call.mayIssue, Bool.and_eq_true, beq_iff_eq] at hissue
    exact hissue.2
  have hmem : (⟨.updateCommitted k r, v⟩ : Event) ∈
      Prog.visible Statement.touches (proj i tr) :=
    Prog.mem_visible.2 ⟨mem_proj.2 hx, rfl⟩
  exact (hrun.commitPath hc).marks_of_update hmem

/-- **An `UPDATE` comes after the read and the batch of its request.** -/
theorem ReviewRun.read_before_update {client : VyosClient} {rows changes : List ConfigChange}
    {v : Except Fault Json} {k r : Uuid}
    (hrun : ReviewRun db calls (tr₁ ++ (i, ⟨.updateCommitted k r, .ok changes⟩) :: tr₂) s)
    (hsend : (i, (⟨.configure client rows, v⟩ : Event)) ∈
      tr₁ ++ (i, ⟨.updateCommitted k r, .ok changes⟩) :: tr₂) :
    r = (calls i).id ∧ (i, (⟨.selectPending (calls i).id, .ok rows⟩ : Event)) ∈ tr₁ := by
  obtain ⟨row, -, hr, hmarks⟩ :=
    hrun.update_recorded (List.mem_append_right tr₁ List.mem_cons_self)
  refine ⟨hr, ?_⟩
  have hpath := hrun.commitPath (hrun.request_of_configure hsend)
  have hsend : (⟨.configure client rows, v⟩ : Event) ∈ Prog.visible Statement.touches (proj i _) :=
    Prog.mem_visible.2 ⟨mem_proj.2 hsend, rfl⟩
  rw [proj_append, proj_cons_self, Prog.visible_append, Prog.visible_cons_of_pos rfl]
    at hmarks hpath hsend
  obtain ⟨-, rows', client', resp, saves, saved, -, hfirst⟩ := hmarks.split
  rw [hfirst] at hpath hsend
  have hsame := hpath.configure_unique hsend
    (List.mem_append_left _ (configure_mem_recordedEvents resp saves saved row))
  cases hsame
  have hread : (⟨.selectPending (calls i).id, .ok rows⟩ : Event) ∈
      Prog.visible Statement.touches (proj i tr₁) := by
    rw [hfirst]
    exact List.mem_cons_self
  exact mem_proj.1 (Prog.mem_visible.1 hread).1

/-- A recorded commit has the next identifier, and later ones have larger ones. -/
theorem ReviewRun.recorded_lt {n n' : NewConfigCommit} {row row' : ConfigCommit}
    (hrun : ReviewRun db calls (tr₁ ++ (i, ⟨.insertCommit n, .ok row⟩) :: tr₂) s)
    (hlater : (j, (⟨.insertCommit n', .ok row'⟩ : Event)) ∈ tr₂) : row.id < row'.id := by
  obtain ⟨a, b, rfl⟩ := List.append_of_mem hlater
  obtain ⟨m, -, hrest⟩ := tablesAt_append.1 hrun.execs
  obtain ⟨m₁, hins, hrest⟩ := tablesAt_cons.1 hrest
  obtain ⟨m₂, ha, hrest⟩ := tablesAt_append.1 hrest
  obtain ⟨m₃, hins', -⟩ := tablesAt_cons.1 hrest
  obtain ⟨hrow, rfl⟩ := of_guarded hins
  obtain ⟨hrow', -⟩ := of_guarded hins'
  have hle : m.nextCommit + 1 ≤ m₂.nextCommit := execAll_nextCommit_le ha
  have hid : row.id = m.nextCommit := by rw [hrow]; rfl
  have hid' : row'.id = m₂.nextCommit := by rw [hrow']; rfl
  rw [hid, hid']
  exact hle

/-- **Commits recorded by different requests differ.** -/
theorem ReviewRun.recorded_ne (hrun : ReviewRun db calls tr s) (hij : i ≠ j)
    {n n' : NewConfigCommit} {row row' : ConfigCommit}
    (hi : (i, (⟨.insertCommit n, .ok row⟩ : Event)) ∈ tr)
    (hj : (j, (⟨.insertCommit n', .ok row'⟩ : Event)) ∈ tr) : row.id ≠ row'.id := by
  obtain ⟨tr₁, tr₂, rfl⟩ := List.append_of_mem hi
  rcases List.mem_append.1 hj with hj | hj
  · obtain ⟨a, b, rfl⟩ := List.append_of_mem hj
    rw [List.append_assoc, List.cons_append] at hrun
    exact (hrun.recorded_lt (List.mem_append_right b List.mem_cons_self)).ne'
  · rcases List.mem_cons.1 hj with hj | hj
    · exact absurd (congrArg Prod.fst hj).symm hij
    · exact (hrun.recorded_lt hj).ne

end Pool

/-! ### A small site

One router, an administrator, and a device that accepts everything: the concrete runs of the modules
that follow are about this site. -/

def sampleRouter : Router where
  id := 0
  siteId := 0
  mgmtIp := "192.0.2.1"
  version := "1.4"
  apiPort := none
  apiProtocol := "https"
  apiKey := some "key"

def sampleClient : VyosClient := VyosClient.new "https" "192.0.2.1" none "key" "1.4"

def sampleAdmin : Claims := ⟨1, "admin"⟩

/-- The site with the given tray. -/
def sampleDatabase (rows : List ConfigChange) : Database where
  routers := [sampleRouter]
  userSiteAccess := []
  configChanges := rows
  configCommits := []
  nextChange := rows.length
  nextCommit := 0

/-- Drop the VLAN `id` of `eth1`. -/
def sampleChange (id : ℕ) : NewConfigChange :=
  ⟨.delete, vifBase "eth1" id, s!"Delete VLAN eth1.{(id : Int).repr}", .interfaces, some 1⟩

/-- Its pending row, with the same number for its identifier. -/
def sampleRow (id : ℕ) : ConfigChange :=
  { sampleDatabase [] with nextChange := id }.newChange 0 0 (sampleChange id)

def acceptedResponse : Json := .obj [("success", .bool true)]

/-- What is recorded of an accepted and saved batch. -/
def sampleRecord (rows : List ConfigChange) : NewConfigCommit :=
  commitRecord sampleAdmin 0 rows acceptedResponse
    (true, .obj [("configure", acceptedResponse), ("save", acceptedResponse)])

/-- The first commit of the site. -/
def sampleCommit (rows : List ConfigChange) : ConfigCommit :=
  (sampleDatabase rows).newCommit 0 (sampleRecord rows)

/-- The requests of two processes: a commit, and `other`. -/
def commitAnd (other : Request) : Bool → Call
  | true => ⟨sampleAdmin, 0, .commit⟩
  | false => ⟨sampleAdmin, 0, other⟩

/-- The steps of a commit after its `SELECT`, up to the record of its success. -/
def sampleSend {Pid : Type} (i : Pid) (rows : List ConfigChange) (C : ConfigCommit) :
    List (Pid × Event) :=
  [(i, ⟨.selectRouter 0, .ok (some sampleRouter)⟩),
    (i, ⟨.configure sampleClient rows, .ok acceptedResponse⟩),
    (i, ⟨.save sampleClient none, .ok acceptedResponse⟩),
    (i, ⟨.insertCommit (sampleRecord rows), .ok C⟩)]

end VyosFabric
