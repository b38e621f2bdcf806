import VyosFabric.Review.CommitEnds

/-!
# Error paths of a commit

A commit has an irreversible step in the middle and three fallible ones after it.
`commitConsistent_iff`: a commit that ran alone keeps tables and device in step exactly if its batch
never reached the device, or nothing failed from then on.
-/

namespace VyosFabric

open Interaction

section ErrorPaths

variable {claims : Claims} {id : Uuid} {db db' : Database} {h : List Event}

/-- After a commit that made the exchanges `h`: a batch that reached the device has one new commit
row; if the device accepted it, its rows are committed and linked to that row; if not, they are
still pending; and every successful commit counts its rows. -/
structure CommitConsistent (id : Uuid) (db db' : Database) (h : List Event) : Prop where
  recorded : ∀ client rows v, (⟨.configure client rows, v⟩ : Event) ∈ h → reached v = true →
    ∃ C, db'.configCommits = db.configCommits ++ [C]
  linked : ∀ client rows v, (⟨.configure client rows, v⟩ : Event) ∈ h → accepted v = true →
    ∃ C, db'.configCommits = db.configCommits ++ [C] ∧ ∀ b ∈ rows, b.mark C.id ∈ db'.configChanges
  kept : ∀ client rows v, (⟨.configure client rows, v⟩ : Event) ∈ h → accepted v = false →
    ∀ b ∈ rows, b ∈ db'.pending id
  counted : ∀ m ∈ db'.configCommits, m.status = .success → m.changeCount = (db'.linked m.id).length

/-- Nothing failed after the batch of a commit had reached the device. -/
structure SeenThrough (h : List Event) : Prop extends WrittenThrough h where
  answered : ∀ client rows f, (⟨.configure client rows, .error f⟩ : Event) ∈ h →
    f.delivery = .unsent

theorem ne_append_singleton (l : List ConfigCommit) (C : ConfigCommit) : l ≠ l ++ [C] := by
  intro h
  have hlen := congrArg List.length h
  simp at hlen

section Sent

variable {rows : List ConfigChange} {client : VyosClient} {v : Except Fault Json} {t : List Event}

/-- What holds of every batch of a path that sends one holds of that one. -/
theorem forall_configure_iff {P : VyosClient → List ConfigChange → Except Fault Json → Prop}
    (hno : ∀ x ∈ t, x.1.sends = false) :
    (∀ client' rows' v',
      (⟨.configure client' rows', v'⟩ : Event) ∈ sentEvents id rows client v ++ t →
      P client' rows' v') ↔ P client rows v := by
  constructor
  · intro h
    exact h client rows v (List.mem_append_left _ (List.mem_cons_of_mem _ List.mem_cons_self))
  · intro h client' rows' v' hmem
    obtain ⟨rfl, rfl, rfl⟩ := eq_of_configure_mem hno hmem
    exact h

/-- A commit that sent one batch is consistent if that batch is dealt with. -/
theorem commitConsistent_of_sent (hno : ∀ x ∈ t, x.1.sends = false)
    (hrecorded : reached v = true → ∃ C, db'.configCommits = db.configCommits ++ [C])
    (hlinked : accepted v = true →
      ∃ C, db'.configCommits = db.configCommits ++ [C] ∧
        ∀ b ∈ rows, b.mark C.id ∈ db'.configChanges)
    (hkept : accepted v = false → ∀ b ∈ rows, b ∈ db'.pending id)
    (hcounted : ∀ m ∈ db'.configCommits, m.status = .success →
      m.changeCount = (db'.linked m.id).length) :
    CommitConsistent id db db' (sentEvents id rows client v ++ t) where
  recorded := (forall_configure_iff (P := fun _ _ v ↦ reached v = true → _) hno).2 hrecorded
  linked := (forall_configure_iff (P := fun _ rows v ↦ accepted v = true →
    ∃ C, db'.configCommits = db.configCommits ++ [C] ∧
      ∀ b ∈ rows, b.mark C.id ∈ db'.configChanges) hno).2 hlinked
  kept := (forall_configure_iff (P := fun _ rows v ↦ accepted v = false →
    ∀ b ∈ rows, b ∈ db'.pending id) hno).2 hkept
  counted := hcounted

/-- Whether the one batch of a path was seen through. -/
theorem seenThrough_sent_iff (hno : ∀ x ∈ t, x.1.sends = false) :
    SeenThrough (sentEvents id rows client v ++ t) ↔
      (∀ f, v = .error f → f.delivery = .unsent) ∧
        (∀ n f, (⟨.insertCommit n, .error f⟩ : Event) ∉ t) ∧
        (∀ k r f, (⟨.updateCommitted k r, .error f⟩ : Event) ∉ t) ∧
        (accepted v = true → rows.length < 2 ^ 31) := by
  have hmem : ∀ {x : Event}, x.1.writes = true →
      (x ∈ sentEvents id rows client v ++ t ↔ x ∈ t) := by
    intro x hx
    refine ⟨fun hmem ↦ ?_, List.mem_append_right _⟩
    rcases List.mem_append.1 hmem with hmem | hmem
    · rcases List.mem_pair.1 hmem with rfl | rfl <;> cases hx
    · exact hmem
  have hcount : (∀ client' rows' v', (⟨.configure client' rows', v'⟩ : Event) ∈
      sentEvents id rows client v ++ t → accepted v' = true → rows'.length < 2 ^ 31) ↔
        (accepted v = true → rows.length < 2 ^ 31) :=
    forall_configure_iff (P := fun _ rows v ↦ accepted v = true → rows.length < 2 ^ 31) hno
  have hanswer : (∀ client' rows' v', (⟨.configure client' rows', v'⟩ : Event) ∈
      sentEvents id rows client v ++ t → ∀ f, v' = .error f → f.delivery = .unsent) ↔
        ∀ f, v = .error f → f.delivery = .unsent :=
    forall_configure_iff (P := fun _ _ v ↦ ∀ f, v = .error f → f.delivery = .unsent) hno
  constructor
  · intro hseen
    refine ⟨hanswer.1 fun client' rows' v' hx f hf ↦ ?_, fun n f hx ↦ ?_, fun k r f hx ↦ ?_,
      hcount.1 hseen.countable⟩
    · rw [hf] at hx
      exact hseen.answered client' rows' f hx
    · exact hseen.recorded n f ((hmem rfl).2 hx)
    · exact hseen.marked k r f ((hmem rfl).2 hx)
  · rintro ⟨hok, hrecorded, hmarked, hlen⟩
    exact
      { answered := fun client' rows' f hx ↦ hanswer.2 hok client' rows' (.error f) hx f rfl
        recorded := fun n f hx ↦ hrecorded n f ((hmem rfl).1 hx)
        marked := fun k r f hx ↦ hmarked k r f ((hmem rfl).1 hx)
        countable := hcount.2 hlen }

/-- A write after the save. -/
theorem mem_of_mem_saves_append {resp : Json} {saves : List Event} {saved : Bool × Json}
    (hsave : SavePath client resp saves saved) {x : Event} (hx : x.1.writes = true)
    (hmem : x ∈ saves ++ t) : x ∈ t := by
  rcases List.mem_append.1 hmem with hmem | hmem
  · obtain ⟨w, rfl⟩ := hsave.eq_save hmem
    cases hx
  · exact hmem

end Sent

/-- A commit that sent nothing is consistent. -/
theorem unsent_consistent (hdb : db.Consistent) (hno : ∀ x ∈ h, x.1.sends = false) :
    CommitConsistent id db db h := by
  have hnone : ∀ client rows v, (⟨.configure client rows, v⟩ : Event) ∉ h :=
    fun client rows v hmem ↦ absurd (hno _ hmem) (by simp [Statement.sends])
  exact
    { recorded := fun client rows v hmem ↦ absurd hmem (hnone client rows v)
      linked := fun client rows v hmem ↦ absurd hmem (hnone client rows v)
      kept := fun client rows v hmem ↦ absurd hmem (hnone client rows v)
      counted := hdb.count }

/-- A commit that neither sent nor wrote was seen through. -/
theorem unsent_seenThrough (hno : ∀ x ∈ h, x.1.sends = false)
    (hwrites : ∀ x ∈ h, x.1.writes = false) : SeenThrough h where
  answered := fun client rows f hmem ↦ absurd (hno _ hmem) (by simp [Statement.sends])
  recorded := fun n f hmem ↦ absurd (hwrites _ hmem) (by simp [Statement.writes])
  marked := fun k r f hmem ↦ absurd (hwrites _ hmem) (by simp [Statement.writes])
  countable := fun client rows v hmem ↦ absurd (hno _ hmem) (by simp [Statement.sends])

/-- A batch whose answer is lost is consistent exactly if it did not reach the device. -/
theorem lost_consistent_iff (hdb : db.Consistent) {rows : List ConfigChange} {client : VyosClient}
    {e : Fault} (hperm : rows.Perm (db.pending id)) :
    CommitConsistent id db db (sentEvents id rows client (.error e)) ↔ e.delivery = .unsent := by
  constructor
  · intro hcons
    by_contra hreach
    obtain ⟨C, hC⟩ := hcons.recorded client rows (.error e)
      (List.mem_cons_of_mem _ List.mem_cons_self) (bne_iff_ne.2 hreach)
    exact ne_append_singleton _ C hC
  · intro hunsent
    have hnot : reached (.error e) ≠ true := by
      rw [reached, hunsent]
      decide
    rw [← List.append_nil (sentEvents _ _ _ _)]
    exact commitConsistent_of_sent (by simp) (fun hreach ↦ absurd hreach hnot)
      (fun hacc ↦ absurd (reached_of_accepted hacc) hnot)
      (fun _ b hb ↦ hperm.mem_iff.1 hb) hdb.count

/-- A batch without a commit row left nothing consistent. -/
theorem unrecorded_not_consistent {rows : List ConfigChange} {client : VyosClient} {resp : Json}
    {t : List Event} : ¬CommitConsistent id db db (sentEvents id rows client (.ok resp) ++ t) := by
  intro hcons
  obtain ⟨C, hC⟩ := hcons.recorded client rows (.ok resp)
    (List.mem_append_left _ (List.mem_cons_of_mem _ List.mem_cons_self)) rfl
  exact ne_append_singleton _ C hC

/-- A rejected batch is recorded and stays in the tray. -/
theorem rejected_consistent (hdb : db.Consistent) {rows : List ConfigChange} {client : VyosClient}
    {resp : Json} {t : List Event} (hno : ∀ x ∈ t, x.1.sends = false)
    (hperm : rows.Perm (db.pending id)) (hresp : resp.succeeded = false) {now : Timestamp}
    {n : NewConfigCommit} (hstatus : n.status = .failed) :
    CommitConsistent id db (db.record (db.newCommit now n))
      (sentEvents id rows client (.ok resp) ++ t) := by
  refine commitConsistent_of_sent hno (fun _ ↦ ⟨_, rfl⟩) (fun hacc ↦ ?_)
    (fun _ b hb ↦ hperm.mem_iff.1 hb) (consistent_record hdb hstatus).count
  rw [accepted, hresp] at hacc
  cases hacc

/-- An accepted batch whose mark failed is not linked to its commit row. -/
theorem unmarked_not_consistent (hdb : db.Consistent) {rows : List ConfigChange}
    {client : VyosClient} {resp : Json} {t : List Event} (hrows : rows ≠ [])
    (hresp : resp.succeeded = true)
    {now : Timestamp} {n : NewConfigCommit} :
    ¬CommitConsistent id db (db.record (db.newCommit now n))
      (sentEvents id rows client (.ok resp) ++ t) := by
  intro hcons
  obtain ⟨C, hC, hlinked⟩ := hcons.linked client rows (.ok resp)
    (List.mem_append_left _ (List.mem_cons_of_mem _ List.mem_cons_self)) hresp
  obtain ⟨b, hb⟩ := List.exists_mem_of_ne_nil rows hrows
  have hid : C.id = db.nextCommit := by
    have hlast := List.append_cancel_left (hC : db.configCommits ++ [_] = _)
    rw [← List.singleton_inj.1 hlast]
    rfl
  have hmem : b.mark C.id ∈ db.linked db.nextCommit :=
    Database.mem_linked.2 ⟨hlinked b hb, congrArg some hid⟩
  rw [hdb.wellFormed.linked_nextCommit] at hmem
  cases hmem

/-- A marked batch is consistent exactly if its length fits the count. -/
theorem marked_consistent_iff (hdb : db.Consistent) {rows : List ConfigChange} {client : VyosClient}
    {resp : Json} {t : List Event} (hno : ∀ x ∈ t, x.1.sends = false)
    (hperm : rows.Perm (db.pending id)) (hresp : resp.succeeded = true) {now : Timestamp}
    {n : NewConfigCommit} (hstatus : n.status = .success) (hrouter : n.routerId = id)
    (hcount : n.changeCount = asI32 rows.length) :
    CommitConsistent id db (db.recordAndMark (db.newCommit now n) id)
        (sentEvents id rows client (.ok resp) ++ t) ↔ rows.length < 2 ^ 31 := by
  have hlength : n.changeCount = (db.pending id).length ↔ rows.length < 2 ^ 31 := by
    rw [← hperm.length_eq, hcount]
    exact asI32_natCast_eq_iff _
  rw [← hlength, ← consistent_recordAndMark_iff hdb now hstatus hrouter]
  constructor
  · intro hcons
    rw [consistent_recordAndMark_iff hdb now hstatus hrouter]
    have hown := hcons.counted (db.newCommit now n)
      (List.mem_append_right _ (List.mem_singleton_self _)) hstatus
    rwa [show (db.newCommit now n).id = db.nextCommit from rfl, linked_recordAndMark hdb,
      List.length_map] at hown
  · intro hcons
    refine commitConsistent_of_sent hno (fun _ ↦ ⟨_, rfl⟩) (fun _ ↦ ⟨_, rfl, fun b hb ↦ ?_⟩)
      (fun hacc ↦ ?_) hcons.count
    · exact Database.mem_markCommitted.2 (Or.inr ⟨b, hperm.mem_iff.1 hb, rfl⟩)
    · rw [accepted, hresp] at hacc
      cases hacc

/-- The two notions at the possible ends of a commit. -/
theorem CommitEnd.consistent_iff (hdb : db.Consistent) (hend : CommitEnd claims id db h db') :
    CommitConsistent id db db' h ↔ SeenThrough h := by
  cases hend with
  | unsent hno hwrites =>
    exact iff_of_true (unsent_consistent hdb hno) (unsent_seenThrough hno hwrites)
  | @lost rows client e hperm =>
    rw [lost_consistent_iff hdb hperm, ← List.append_nil (sentEvents _ _ _ _),
      seenThrough_sent_iff (by simp)]
    constructor
    · intro hunsent
      refine ⟨fun f hf ↦ ?_, by simp, by simp, fun hacc ↦ ?_⟩
      · rw [← Except.error.inj hf]
        exact hunsent
      · rw [accepted, hunsent] at hacc
        cases hacc
    · rintro ⟨hunsent, -, -, -⟩
      exact hunsent e rfl
  | @unrecorded rows client resp saves saved hperm hsave e =>
    rw [List.append_assoc]
    refine iff_of_false unrecorded_not_consistent fun hseen ↦
      hseen.recorded (commitRecord claims id rows resp saved) e ?_
    exact List.mem_append_right _ (List.mem_append_right _ (List.mem_singleton_self _))
  | @rejected rows client resp saves saved hperm hsave hresp now =>
    rw [recordedEvents, List.append_assoc]
    have hno : ∀ x ∈ saves ++ [⟨.insertCommit (commitRecord claims id rows resp saved),
        .ok (db.newCommit now (commitRecord claims id rows resp saved))⟩], x.1.sends = false :=
      no_sends_after_saves hsave (by simp [Statement.sends])
    refine iff_of_true
      (rejected_consistent hdb hno hperm hresp (commitRecord_status_of_rejected hresp)) ?_
    refine (seenThrough_sent_iff hno).2 ⟨by simp, fun n f hmem ↦ ?_, fun k r f hmem ↦ ?_, ?_⟩
    · simpa using mem_of_mem_saves_append hsave rfl hmem
    · simpa using mem_of_mem_saves_append hsave rfl hmem
    · intro hacc
      rw [accepted, hresp] at hacc
      cases hacc
  | unmarked hrows hperm hsave hresp now e =>
    rw [recordedEvents, List.append_assoc, List.append_assoc]
    refine iff_of_false (unmarked_not_consistent hdb hrows hresp) fun hseen ↦
      hseen.marked db.nextCommit id e ?_
    refine List.mem_append_right _ (List.mem_append_right _ (List.mem_append_right _ ?_))
    exact List.mem_singleton_self _
  | @marked rows client resp saves saved hrows hperm hsave hresp now changes =>
    rw [recordedEvents, List.append_assoc, List.append_assoc]
    have hno : ∀ x ∈ saves ++ ([⟨.insertCommit (commitRecord claims id rows resp saved),
        .ok (db.newCommit now (commitRecord claims id rows resp saved))⟩] ++
        [⟨.updateCommitted db.nextCommit id, .ok changes⟩]), x.1.sends = false :=
      no_sends_after_saves hsave (by simp [Statement.sends])
    rw [marked_consistent_iff hdb hno hperm hresp (commitRecord_status_of_succeeded hresp) rfl
      (commitRecord_changeCount ..), seenThrough_sent_iff hno]
    constructor
    · refine fun hlen ↦ ⟨by simp, fun n f hmem ↦ ?_, fun k r f hmem ↦ ?_, fun _ ↦ hlen⟩
      · simpa using mem_of_mem_saves_append hsave rfl hmem
      · simpa using mem_of_mem_saves_append hsave rfl hmem
    · rintro ⟨-, -, -, hlen⟩
      exact hlen hresp

/-- The two notions look at exchanges that touch the tables or the device only. -/
theorem commitConsistent_visible_iff :
    CommitConsistent id db db' (Prog.visible Statement.touches h) ↔
      CommitConsistent id db db' h := by
  have hmem : ∀ client rows v, (⟨.configure client rows, v⟩ : Event) ∈
      Prog.visible Statement.touches h ↔ (⟨.configure client rows, v⟩ : Event) ∈ h := by
    intro client rows v
    exact Prog.mem_visible.trans (and_iff_left rfl)
  constructor
  · intro hcons
    exact
      { recorded := fun client rows v hx ↦ hcons.recorded client rows v ((hmem client rows v).2 hx)
        linked := fun client rows v hx ↦ hcons.linked client rows v ((hmem client rows v).2 hx)
        kept := fun client rows v hx ↦ hcons.kept client rows v ((hmem client rows v).2 hx)
        counted := hcons.counted }
  · intro hcons
    exact
      { recorded := fun client rows v hx ↦ hcons.recorded client rows v ((hmem client rows v).1 hx)
        linked := fun client rows v hx ↦ hcons.linked client rows v ((hmem client rows v).1 hx)
        kept := fun client rows v hx ↦ hcons.kept client rows v ((hmem client rows v).1 hx)
        counted := hcons.counted }

theorem seenThrough_visible_iff :
    SeenThrough (Prog.visible Statement.touches h) ↔ SeenThrough h := by
  have hmem : ∀ {x : Event}, x.1.touches = true →
      (x ∈ Prog.visible Statement.touches h ↔ x ∈ h) := fun hx ↦
    Prog.mem_visible.trans (and_iff_left hx)
  constructor
  · intro hseen
    exact
      { answered := fun client rows f hx ↦ hseen.answered client rows f ((hmem rfl).2 hx)
        recorded := fun n f hx ↦ hseen.recorded n f ((hmem rfl).2 hx)
        marked := fun k r f hx ↦ hseen.marked k r f ((hmem rfl).2 hx)
        countable := fun client rows v hx ↦ hseen.countable client rows v ((hmem rfl).2 hx) }
  · intro hseen
    exact
      { answered := fun client rows f hx ↦ hseen.answered client rows f ((hmem rfl).1 hx)
        recorded := fun n f hx ↦ hseen.recorded n f ((hmem rfl).1 hx)
        marked := fun k r f hx ↦ hseen.marked k r f ((hmem rfl).1 hx)
        countable := fun client rows v hx ↦ hseen.countable client rows v ((hmem rfl).1 hx) }

/-- **Error paths of a commit.** A commit that ran alone, from consistent tables, to its end leaves
tables and device in step exactly if nothing failed after its batch had reached the device. -/
theorem commitConsistent_iff (hdb : db.Consistent) {r : Except AppError Response}
    (hrun : Completes exec (commit claims id) db h r db') :
    CommitConsistent id db db' h ↔ SeenThrough h := by
  rw [← commitConsistent_visible_iff, ← seenThrough_visible_iff]
  exact (commitEnd_of_completes hrun).consistent_iff hdb

/-- The exchanges of a commit of one row, up to the answer `v` to its `UPDATE`. -/
def sampleCommitEvents (v : Except Fault (List ConfigChange)) : List Event :=
  [⟨.selectPending 0, .ok [sampleRow 0]⟩, ⟨.selectRouter 0, .ok (some sampleRouter)⟩,
    ⟨.configure sampleClient [sampleRow 0], .ok acceptedResponse⟩,
    ⟨.save sampleClient none, .ok acceptedResponse⟩,
    ⟨.insertCommit (sampleRecord [sampleRow 0]), .ok (sampleCommit [sampleRow 0])⟩,
    ⟨.updateCommitted 0 0, v⟩]

theorem sampleDatabase_consistent : (sampleDatabase [sampleRow 0]).Consistent where
  wellFormed := ⟨by decide, by decide, by decide, by decide, by decide⟩
  committed_iff := by decide
  commit_of_link := by decide
  count := by decide

/-- A commit that nothing interrupts. -/
theorem commitConsistent_quiet : ∃ db',
    Completes exec (commit sampleAdmin 0) (sampleDatabase [sampleRow 0])
      (sampleCommitEvents (.ok [(sampleRow 0).mark 0]))
      (.ok (.committed (sampleCommit [sampleRow 0]) [(sampleRow 0).mark 0])) db' ∧
    CommitConsistent 0 (sampleDatabase [sampleRow 0]) db'
      (sampleCommitEvents (.ok [(sampleRow 0).mark 0])) := by
  obtain ⟨db', hrun⟩ : ∃ db', Completes exec (commit sampleAdmin 0) (sampleDatabase [sampleRow 0])
      (sampleCommitEvents (.ok [(sampleRow 0).mark 0]))
      (.ok (.committed (sampleCommit [sampleRow 0]) [(sampleRow 0).mark 0])) db' :=
    ⟨_, ⟨_, .call _ (.call _ (.call _ (.call _ (.call _ (.call _ (.nil _)))))), rfl⟩, rfl⟩
  refine ⟨db', hrun, (commitConsistent_iff sampleDatabase_consistent hrun).2 ?_⟩
  exact
    { answered := by simp [sampleCommitEvents]
      recorded := by simp [sampleCommitEvents]
      marked := by simp [sampleCommitEvents]
      countable := fun client rows v hmem _ ↦ by
        have hrows : rows = [sampleRow 0] := by
          simp [sampleCommitEvents] at hmem
          exact hmem.1.2
        rw [hrows]
        decide }

/-- The answer to an `UPDATE` whose connection broke. -/
def brokenUpdate : Fault := ⟨"connection reset by peer", .unsent⟩

/-- **Error paths lose track of the device.** The device has the row, the history says so, and the
row is still in the tray. -/
theorem not_commitConsistent_of_unmarked : ∃ db',
    Completes exec (commit sampleAdmin 0) (sampleDatabase [sampleRow 0])
      (sampleCommitEvents (.error brokenUpdate)) (.error (.database brokenUpdate.text)) db' ∧
    (sampleDatabase [sampleRow 0]).Consistent ∧
    ¬CommitConsistent 0 (sampleDatabase [sampleRow 0]) db'
      (sampleCommitEvents (.error brokenUpdate)) := by
  refine ⟨_, ⟨⟨_, .call _ (.call _ (.call _ (.call _ (.call _ (.call _ (.nil _)))))), rfl⟩, rfl⟩,
    sampleDatabase_consistent, fun hcons ↦ ?_⟩
  obtain ⟨C, -, hlinked⟩ := hcons.linked sampleClient [sampleRow 0] (.ok acceptedResponse)
    (by simp [sampleCommitEvents]) rfl
  have hrow := List.mem_singleton.1 (hlinked (sampleRow 0) List.mem_cons_self)
  cases congrArg ConfigChange.status hrow

end ErrorPaths

end VyosFabric
