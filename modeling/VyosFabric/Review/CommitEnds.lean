import VyosFabric.Review.Runs

/-!
# What a commit leaves behind

`Database.Consistent` is what the two tables should say about each other: exactly the committed rows
are linked, to a successful commit of their router, and every successful commit counts its rows.
Every statement keeps it but the two writes of a commit, which have to be taken together.

`CommitEnd` lists what a commit that ran alone can have left, `commitEnd_of_completes` is its
inversion lemma, and `CommitEnd.consistent` says when that is consistent.
-/

namespace VyosFabric

open Interaction

/-! ### What the tables should say -/

/-- Rows and commits agree. -/
structure Database.Consistent (db : Database) : Prop where
  wellFormed : db.WellFormed
  committed_iff : ∀ c ∈ db.configChanges, c.status = .committed ↔ c.commitId ≠ none
  commit_of_link : ∀ c ∈ db.configChanges, ∀ k, c.commitId = some k →
    ∃ m ∈ db.configCommits, m.id = k ∧ m.routerId = c.routerId ∧ m.status = .success
  count : ∀ m ∈ db.configCommits, m.status = .success → m.changeCount = (db.linked m.id).length

namespace Database.Consistent

variable {db : Database} (hdb : db.Consistent)

include hdb

theorem linkedDone (k : Uuid) : db.LinkedDone k := by
  intro c hc hp
  obtain ⟨hc, hlink⟩ := Database.mem_linked.1 hc
  have hcommitted := (hdb.committed_iff c hc).2 (by simp [hlink])
  rw [hp] at hcommitted
  cases hcommitted

/-- Every pending row has no `commit_id`. -/
theorem commitId_eq_none {c : ConfigChange} (hc : c ∈ db.configChanges) (hp : c.status = .pending) :
    c.commitId = none := by
  by_contra hlink
  have hcommitted := (hdb.committed_iff c hc).2 hlink
  rw [hp] at hcommitted
  cases hcommitted

end Database.Consistent

section Step

variable {s : Statement} {v : s.Reply} {db db' : Database}

/-- Statements that neither record nor mark keep the tables consistent. -/
theorem exec_consistent (h : exec s v db = some db') (hdb : db.Consistent)
    (hins : ∀ n, s ≠ .insertCommit n) (hupd : ∀ k r, s ≠ .updateCommitted k r) :
    db'.Consistent := by
  have hlinked : ∀ k, db'.linked k = db.linked k := fun k ↦
    exec_linked h (hdb.linkedDone k) fun r rows heq ↦ hupd k r (congrArg Sigma.fst heq)
  have hwf := exec_wellFormed h hdb.wellFormed
  cases exec_effect h with
  | look => exact hdb
  | delete r f =>
    exact
      { wellFormed := hwf
        committed_iff := fun c hc ↦ hdb.committed_iff c (List.mem_filter.1 hc).1
        commit_of_link := fun c hc ↦ hdb.commit_of_link c (List.mem_filter.1 hc).1
        count := fun m hm hs ↦ by rw [hlinked, hdb.count m hm hs] }
  | insert r now c =>
    refine
      { wellFormed := hwf
        committed_iff := fun d hd ↦ ?_
        commit_of_link := fun d hd k hk ↦ ?_
        count := fun m hm hs ↦ by rw [hlinked, hdb.count m hm hs] }
    · rcases List.mem_append.1 hd with hd | hd
      · exact hdb.committed_iff d hd
      · obtain rfl := List.mem_singleton.1 hd
        simp [Database.newChange]
    · rcases List.mem_append.1 hd with hd | hd
      · exact hdb.commit_of_link d hd k hk
      · obtain rfl := List.mem_singleton.1 hd
        cases hk
  | record now c => exact absurd rfl (hins c)
  | update k r => exact absurd rfl (hupd k r)

end Step

/-! ### The writes of a commit -/

section CommitWrites

variable {claims : Claims} {id : Uuid} {rows : List ConfigChange} {db db' : Database}

/-- Reading the tray and sending it leaves the tables alone. -/
theorem execAll_sent {client : VyosClient} {v : Except Fault Json} {t : List Event}
    (hexec : execAll exec (sentEvents id rows client v ++ t) db = some db') :
    rows.Perm (db.pending id) ∧ execAll exec t db = some db' := by
  obtain ⟨m, hsel, hrest⟩ := execAll_cons_eq_some.1 hexec
  obtain ⟨hperm, rfl⟩ := exec_selectPending hsel
  obtain ⟨m', hconf, htail⟩ := execAll_cons_eq_some.1 hrest
  have hm' : m' = m := by
    cases v <;> exact (Option.some.inj hconf).symm
  subst hm'
  exact ⟨hperm, htail⟩

/-- So does saving. -/
theorem execAll_saves {client : VyosClient} {resp : Json} {saves t : List Event}
    {saved : Bool × Json} (hsave : SavePath client resp saves saved)
    (hexec : execAll exec (saves ++ t) db = some db') : execAll exec t db = some db' := by
  cases hsave with
  | skipped => exact hexec
  | answered | lost =>
    obtain ⟨m, hstep, hrest⟩ := execAll_cons_eq_some.1 hexec
    obtain rfl := Option.some.inj hstep
    exact hrest

/-- The tables with one more commit row. -/
def Database.record (db : Database) (row : ConfigCommit) : Database :=
  { db with
    configCommits := db.configCommits ++ [row]
    nextCommit := db.nextCommit + 1 }

/-- The tables with one more commit row, and the tray of `r` linked to it. -/
def Database.recordAndMark (db : Database) (row : ConfigCommit) (r : Uuid) : Database :=
  { db.record row with configChanges := db.markCommitted row.id r }

/-- An answered record appends its row. -/
theorem exec_insertCommit {n : NewConfigCommit} {row : ConfigCommit}
    (hstep : exec (.insertCommit n) (.ok row) db = some db') :
    row = db.newCommit row.committedAt n ∧ db' = db.record row := by
  obtain ⟨hrow, rfl⟩ := of_guarded hstep
  exact ⟨hrow, rfl⟩

theorem exec_record (db : Database) (now : Timestamp) (n : NewConfigCommit) :
    exec (.insertCommit n) (.ok (db.newCommit now n)) db = some (db.record (db.newCommit now n)) :=
  if_pos rfl

/-- **A failed commit row changes nothing else.** -/
theorem consistent_record (hdb : db.Consistent) {now : Timestamp} {n : NewConfigCommit}
    (hstatus : n.status = .failed) : (db.record (db.newCommit now n)).Consistent := by
  refine
    { wellFormed := exec_wellFormed (exec_record db now n) hdb.wellFormed
      committed_iff := hdb.committed_iff
      commit_of_link := fun c hc k hk ↦ ?_
      count := fun m hm hs ↦ ?_ }
  · obtain ⟨m, hm, h⟩ := hdb.commit_of_link c hc k hk
    exact ⟨m, List.mem_append_left _ hm, h⟩
  · rcases List.mem_append.1 hm with hm | hm
    · exact hdb.count m hm hs
    · obtain rfl := List.mem_singleton.1 hm
      exact absurd (hstatus.symm.trans hs) (by simp)

/-- A mark of the tray under a commit that has just been recorded. -/
theorem exec_recordAndMark (db : Database) (id : Uuid) (now : Timestamp) (n : NewConfigCommit) :
    exec (.updateCommitted db.nextCommit id)
        (.ok ((db.pending id).map fun c ↦ c.mark db.nextCommit)) (db.record (db.newCommit now n)) =
      some (db.recordAndMark (db.newCommit now n) id) := by
  refine if_pos ⟨List.Perm.refl _, ?_⟩
  show db.nextCommit ∈ (db.configCommits ++ [db.newCommit now n]).map ConfigCommit.id
  rw [List.map_append]
  exact List.mem_append_right _ (List.mem_singleton_self _)

/-- The rows linked to a commit that has just been recorded and marked. -/
theorem linked_recordAndMark (hdb : db.Consistent) (id : Uuid) (now : Timestamp)
    (n : NewConfigCommit) :
    (db.recordAndMark (db.newCommit now n) id).linked db.nextCommit =
      (db.pending id).map fun c ↦ c.mark db.nextCommit :=
  linked_markCommitted hdb.wellFormed.linked_nextCommit

/-- **A marked commit is consistent** exactly if it counts the tray it marks. -/
theorem consistent_recordAndMark_iff (hdb : db.Consistent) (now : Timestamp) {n : NewConfigCommit}
    (hstatus : n.status = .success) (hrouter : n.routerId = id) :
    (db.recordAndMark (db.newCommit now n) id).Consistent ↔
      n.changeCount = (db.pending id).length := by
  have hlinked := linked_recordAndMark hdb id now n
  constructor
  · intro h
    have hcount := h.count (db.newCommit now n)
      (List.mem_append_right _ (List.mem_singleton_self _)) hstatus
    rwa [show (db.newCommit now n).id = db.nextCommit from rfl, hlinked, List.length_map] at hcount
  · intro hcount
    have hmark := exec_recordAndMark db id now n
    refine
      { wellFormed := exec_wellFormed hmark (exec_wellFormed (exec_record db now n) hdb.wellFormed)
        committed_iff := fun c hc ↦ ?_
        commit_of_link := fun c hc k hk ↦ ?_
        count := fun m hm hs ↦ ?_ }
    · rcases Database.mem_markCommitted.1 hc with ⟨hc, -⟩ | ⟨b, -, rfl⟩
      · exact hdb.committed_iff c hc
      · simp [ConfigChange.mark]
    · rcases Database.mem_markCommitted.1 hc with ⟨hc, -⟩ | ⟨b, hb, rfl⟩
      · obtain ⟨m, hm, h⟩ := hdb.commit_of_link c hc k hk
        exact ⟨m, List.mem_append_left _ hm, h⟩
      · refine ⟨db.newCommit now n, List.mem_append_right _ (List.mem_singleton_self _),
          Option.some.inj hk, ?_, hstatus⟩
        exact hrouter.trans (Database.mem_pending.1 hb).2.1.symm
    · rcases List.mem_append.1 hm with hm | hm
      · have hne : m.id ≠ db.nextCommit := (hdb.wellFormed.commitId_lt m hm).ne
        rw [exec_linked hmark (hdb.linkedDone m.id) fun r rows heq ↦
          hne (Statement.updateCommitted.inj (congrArg Sigma.fst heq)).1.symm]
        exact hdb.count m hm hs
      · obtain rfl := List.mem_singleton.1 hm
        rw [show (db.newCommit now n).id = db.nextCommit from rfl, hlinked, List.length_map]
        exact hcount

end CommitWrites

/-! ### What a finished commit leaves -/

/-- `CommitEnd claims id db h db'`: a commit that ended made the exchanges `h`, among those that
touch the tables or the device, and took the tables from `db` to `db'`. -/
inductive CommitEnd (claims : Claims) (id : Uuid) (db : Database) : List Event → Database → Prop
  | unsent {h : List Event} (hno : ∀ x ∈ h, x.1.sends = false)
      (hwrites : ∀ x ∈ h, x.1.writes = false) : CommitEnd claims id db h db
  | lost {rows : List ConfigChange} (client : VyosClient) (e : Fault)
      (hperm : rows.Perm (db.pending id)) :
      CommitEnd claims id db (sentEvents id rows client (.error e)) db
  | unrecorded {rows : List ConfigChange} {client : VyosClient} {resp : Json} {saves : List Event}
      {saved : Bool × Json} (hperm : rows.Perm (db.pending id))
      (hsave : SavePath client resp saves saved) (e : Fault) :
      CommitEnd claims id db (sentEvents id rows client (.ok resp) ++ saves ++
        [⟨.insertCommit (commitRecord claims id rows resp saved), .error e⟩]) db
  | rejected {rows : List ConfigChange} {client : VyosClient} {resp : Json} {saves : List Event}
      {saved : Bool × Json} (hperm : rows.Perm (db.pending id))
      (hsave : SavePath client resp saves saved) (hresp : resp.succeeded = false)
      (now : Timestamp) :
      CommitEnd claims id db
        (recordedEvents claims id rows client resp saves saved
          (db.newCommit now (commitRecord claims id rows resp saved)))
        (db.record (db.newCommit now (commitRecord claims id rows resp saved)))
  | unmarked {rows : List ConfigChange} {client : VyosClient} {resp : Json} {saves : List Event}
      {saved : Bool × Json} (hrows : rows ≠ []) (hperm : rows.Perm (db.pending id))
      (hsave : SavePath client resp saves saved) (hresp : resp.succeeded = true) (now : Timestamp)
      (e : Fault) :
      CommitEnd claims id db
        (recordedEvents claims id rows client resp saves saved
            (db.newCommit now (commitRecord claims id rows resp saved)) ++
          [⟨.updateCommitted db.nextCommit id, .error e⟩])
        (db.record (db.newCommit now (commitRecord claims id rows resp saved)))
  | marked {rows : List ConfigChange} {client : VyosClient} {resp : Json} {saves : List Event}
      {saved : Bool × Json} (hrows : rows ≠ []) (hperm : rows.Perm (db.pending id))
      (hsave : SavePath client resp saves saved) (hresp : resp.succeeded = true) (now : Timestamp)
      (changes : List ConfigChange) :
      CommitEnd claims id db
        (recordedEvents claims id rows client resp saves saved
            (db.newCommit now (commitRecord claims id rows resp saved)) ++
          [⟨.updateCommitted db.nextCommit id, .ok changes⟩])
        (db.recordAndMark (db.newCommit now (commitRecord claims id rows resp saved)) id)

/-- The tables once a commit has recorded its attempt: the tray was read, and the commit row is the
next one. -/
theorem execAll_recorded {claims : Claims} {id : Uuid} {db db' : Database}
    {rows : List ConfigChange} {client : VyosClient} {resp : Json} {saves t : List Event}
    {saved : Bool × Json} (hsave : SavePath client resp saves saved) {row : ConfigCommit}
    (hexec : execAll exec (sentEvents id rows client (.ok resp) ++ saves ++
      ⟨.insertCommit (commitRecord claims id rows resp saved), .ok row⟩ :: t) db = some db') :
    rows.Perm (db.pending id) ∧
      row = db.newCommit row.committedAt (commitRecord claims id rows resp saved) ∧
      row.id = db.nextCommit ∧ execAll exec t (db.record row) = some db' := by
  rw [List.append_assoc] at hexec
  obtain ⟨hperm, hrest⟩ := execAll_sent hexec
  obtain ⟨m, hstep, htail⟩ := execAll_cons_eq_some.1 (execAll_saves hsave hrest)
  obtain ⟨hrow, rfl⟩ := exec_insertCommit hstep
  have hid : row.id = db.nextCommit := by
    rw [hrow]
    rfl
  exact ⟨hperm, hrow, hid, htail⟩

/-- **What a finished commit leaves.** -/
theorem commitEnd_of_completes {claims : Claims} {id : Uuid} {db db' : Database} {h : List Event}
    {r : Except AppError Response} (hrun : Completes exec (commit claims id) db h r db') :
    CommitEnd claims id db (Prog.visible Statement.touches h) db' := by
  obtain ⟨q, hf, hq⟩ := hrun.ends
  have hpath := follows_commit hf
  have hexec := execAll_visible (fun _ _ _ _ ↦ exec_eq_of_silent) hrun.execs
  rw [hq] at hpath
  -- the path shows only what touches the tables or the device, and only that moves the tables
  generalize hh : Prog.visible Statement.touches h = g at hpath hexec
  generalize ho : some r = o at hpath
  cases hpath with
  | idle =>
    obtain rfl := Option.some.inj hexec
    exact CommitEnd.unsent (by simp) (by simp)
  | read v =>
    obtain ⟨m, hstep, hnil⟩ := execAll_cons_eq_some.1 hexec
    obtain rfl := Option.some.inj hnil
    have hm : m = db := by
      cases v with
      | error e => exact (Option.some.inj hstep).symm
      | ok rows => exact (exec_selectPending hstep).2
    rw [hm]
    exact CommitEnd.unsent (by simp [Statement.sends]) (by simp [Statement.writes])
  | lost client e hrows =>
    rw [← List.append_nil (sentEvents _ _ _ _)] at hexec
    obtain ⟨hperm, hnil⟩ := execAll_sent hexec
    obtain rfl := Option.some.inj hnil
    exact CommitEnd.lost client e hperm
  | sent => cases ho
  | saved => cases ho
  | unrecorded hrows hsave e =>
    rw [List.append_assoc] at hexec
    obtain ⟨hperm, hrest⟩ := execAll_sent hexec
    have hlast := execAll_saves hsave hrest
    obtain rfl := Option.some.inj hlast
    exact CommitEnd.unrecorded hperm hsave e
  | rejected hrows hsave hresp row =>
    obtain ⟨hperm, hrow, -, hnil⟩ := execAll_recorded hsave hexec
    obtain rfl := Option.some.inj hnil
    rw [hrow]
    exact CommitEnd.rejected hperm hsave hresp row.committedAt
  | recorded => cases ho
  | unmarked hrows hsave hresp row e =>
    obtain ⟨hperm, hrow, hid, hupd⟩ := execAll_recorded hsave hexec
    obtain rfl := Option.some.inj hupd
    have hend : CommitEnd claims id db _ _ :=
      CommitEnd.unmarked hrows hperm hsave hresp row.committedAt e
    rw [recordedEvents, List.append_assoc, ← hrow, ← hid] at hend
    exact hend
  | marked hrows hsave hresp row changes =>
    obtain ⟨hperm, hrow, hid, hupd⟩ := execAll_recorded hsave hexec
    obtain ⟨m, hmark, hnil⟩ := execAll_cons_eq_some.1 hupd
    obtain rfl := Option.some.inj hnil
    obtain ⟨-, rfl⟩ := of_guarded hmark
    have hend : CommitEnd claims id db _ _ :=
      CommitEnd.marked hrows hperm hsave hresp row.committedAt changes
    rw [recordedEvents, List.append_assoc, ← hrow, ← hid] at hend
    exact hend

/-- What a commit had to write it has written, and the batch the device accepted can be counted in
32 bits. -/
structure WrittenThrough (h : List Event) : Prop where
  recorded : ∀ n f, (⟨.insertCommit n, .error f⟩ : Event) ∉ h
  marked : ∀ k r f, (⟨.updateCommitted k r, .error f⟩ : Event) ∉ h
  countable : ∀ client rows v, (⟨.configure client rows, v⟩ : Event) ∈ h → accepted v = true →
    rows.length < 2 ^ 31

/-- A commit that has written what it had to leaves the tables consistent. -/
theorem CommitEnd.consistent {claims : Claims} {id : Uuid} {db db' : Database} {h : List Event}
    (hdb : db.Consistent) (hend : CommitEnd claims id db h db') (hwritten : WrittenThrough h) :
    db'.Consistent := by
  cases hend with
  | unsent => exact hdb
  | lost => exact hdb
  | unrecorded => exact hdb
  | @rejected rows client resp saves saved hperm hsave hresp now =>
    exact consistent_record hdb (commitRecord_status_of_rejected hresp)
  | unmarked hrows hperm hsave hresp now e =>
    refine absurd ?_ (hwritten.marked db.nextCommit id e)
    exact List.mem_append_right _ (List.mem_singleton_self _)
  | @marked rows client resp saves saved hrows hperm hsave hresp now changes =>
    have hlen : rows.length < 2 ^ 31 := by
      refine hwritten.countable client rows (.ok resp) (List.mem_append_left _ ?_) hresp
      exact configure_mem_recordedEvents resp saves saved _
    refine (consistent_recordAndMark_iff hdb now (commitRecord_status_of_succeeded hresp) rfl).2 ?_
    refine (commitRecord_changeCount ..).trans ?_
    rw [(asI32_natCast_eq_iff _).2 hlen, hperm.length_eq]
    rfl

/-- A commit whose batch was not accepted leaves the tray alone, and if the device answered, adds
one failed commit row. -/
theorem CommitEnd.not_accepted {claims : Claims} {id : Uuid} {db db' : Database} {h : List Event}
    (hend : CommitEnd claims id db h db') (hwritten : WrittenThrough h) {client : VyosClient}
    {rows : List ConfigChange} {v : Except Fault Json}
    (hmem : (⟨.configure client rows, v⟩ : Event) ∈ h) (hacc : accepted v = false) :
    db'.configChanges = db.configChanges ∧ ∀ resp, v = .ok resp →
      ∃ C : ConfigCommit, C.status = .failed ∧ db'.configCommits = db.configCommits ++ [C] := by
  cases hend with
  | unsent hno => exact absurd (hno _ hmem) (by simp [Statement.sends])
  | lost client' e =>
    refine ⟨rfl, fun resp hv ↦ ?_⟩
    rw [← List.append_nil (sentEvents _ _ _ _)] at hmem
    obtain ⟨-, -, hv'⟩ := eq_of_configure_mem (by simp) hmem
    rw [hv] at hv'
    cases hv'
  | @unrecorded rows' client' resp saves saved hperm hsave e =>
    refine absurd ?_ (hwritten.recorded (commitRecord claims id rows' resp saved) e)
    exact List.mem_append_right _ (List.mem_singleton_self _)
  | @rejected rows' client' resp saves saved hperm hsave hresp now =>
    refine ⟨rfl, fun resp' _ ↦ ⟨_, ?_, rfl⟩⟩
    show (commitRecord claims id rows' resp saved).status = .failed
    exact commitRecord_status_of_rejected hresp
  | unmarked hrows hperm hsave hresp now e =>
    refine absurd ?_ (hwritten.marked db.nextCommit id e)
    exact List.mem_append_right _ (List.mem_singleton_self _)
  | marked hrows hperm hsave hresp now changes =>
    rw [recordedEvents, List.append_assoc, List.append_assoc] at hmem
    obtain ⟨-, -, rfl⟩ := eq_of_configure_mem
      (no_sends_after_saves hsave (by simp [Statement.sends])) hmem
    rw [accepted, hresp] at hacc
    cases hacc

end VyosFabric
