import VyosFabric.Review.Runs

/-!
# Staging requests, alone and in pairs

An edit clears rows and inserts rows, one statement at a time and outside a transaction.

* **Atomicity under failure** (`pending_eq_iff_of_error`): an edit that answers with an error leaves
  the tray alone exactly if no `INSERT` had succeeded and the `DELETE`s that had found nothing.
* **Serializability** (`staged_of_inOrder`): two concurrent edits of one entity leave the diff of
  one of them, provided no `INSERT` of the other comes after its `DELETE`s and no `DELETE` of the
  other after its `INSERT`s.

Both rest on one description of what a list of deletes and inserts does to the table
(`configChanges_of_exec`).
-/

namespace VyosFabric

open Interaction

/-! ### What edits do to the table -/

/-- The change a row was inserted for. -/
def ConfigChange.toNew (c : ConfigChange) : NewConfigChange :=
  ⟨c.op, c.path, c.summary, c.sect, c.createdBy⟩

/-- The row an exchange inserted. -/
def insertedRow : Event → Option ConfigChange
  | ⟨.insertChange _ _, .ok row⟩ => some row
  | _ => none

/-- The rows a list of exchanges inserted. -/
def insertsOf (h : List Event) : List ConfigChange := h.filterMap insertedRow

/-- What an exchange deleted: the router and the filter. -/
def removal : Event → Option (Uuid × Filter)
  | ⟨.deletePending r f, .ok _⟩ => some (r, f)
  | _ => none

/-- The exchange leaves the row `c` where it is. -/
def spares (x : Event) (c : ConfigChange) : Bool :=
  (removal x).all fun g ↦ !g.2.hits g.1 c

@[simp] theorem insertsOf_nil : insertsOf [] = [] := rfl

@[simp] theorem insertsOf_cons (x : Event) (h : List Event) :
    insertsOf (x :: h) = (insertedRow x).toList ++ insertsOf h := by
  cases hx : insertedRow x <;> simp [insertsOf, hx]

theorem insertsOf_append (h₁ h₂ : List Event) :
    insertsOf (h₁ ++ h₂) = insertsOf h₁ ++ insertsOf h₂ :=
  List.filterMap_append

/-- An `UPDATE` of a commit. -/
def Statement.marks : Statement → Bool
  | updateCommitted _ _ => true
  | _ => false

/-- **What one statement does to the table**, the `UPDATE` of a commit aside: it filters, and it
appends. -/
theorem configChanges_of_exec {x : Event} {db db' : Database}
    (hstep : exec x.1 x.2 db = some db') (hx : x.1.marks = false) :
    db'.configChanges = db.configChanges.filter (spares x) ++ (insertedRow x).toList := by
  have hkeep : ∀ l : List ConfigChange, removal x = none → l.filter (spares x) = l := by
    intro l hnone
    refine List.filter_eq_self.2 fun c _ ↦ ?_
    rw [spares, hnone]
    rfl
  obtain ⟨s, v⟩ := x
  cases exec_effect hstep with
  | look _ _ hlook =>
    have hnone : removal ⟨s, v⟩ = none ∧ insertedRow ⟨s, v⟩ = none := by
      rcases hlook with hs | ⟨e, he⟩
      · cases s <;> first | exact ⟨rfl, rfl⟩ | cases hs
      · have hx : (⟨s, v⟩ : Event) = ⟨s, .error e⟩ := congrArg (Sigma.mk s) he
        rw [hx]
        cases s <;> exact ⟨rfl, rfl⟩
    rw [hkeep _ hnone.1, hnone.2]
    exact (List.append_nil _).symm
  | delete r f => exact (List.append_nil _).symm
  | insert r now c =>
    rw [hkeep _ rfl]
    rfl
  | record now c =>
    rw [hkeep _ rfl]
    exact (List.append_nil _).symm
  | update => cases hx

/-- Exchanges without deletes or marks only append. -/
theorem configChanges_of_inserts {h : List Event} {db db' : Database}
    (hexec : execAll exec h db = some db') (hmarks : ∀ x ∈ h, x.1.marks = false)
    (hdel : ∀ x ∈ h, removal x = none) :
    db'.configChanges = db.configChanges ++ insertsOf h := by
  induction h generalizing db with
  | nil =>
    obtain rfl := Option.some.inj hexec
    simp
  | cons x h ih =>
    obtain ⟨m, hstep, hrest⟩ := execAll_cons_eq_some.1 hexec
    have hm := configChanges_of_exec hstep (hmarks x List.mem_cons_self)
    have hall : db.configChanges.filter (spares x) = db.configChanges := by
      refine List.filter_eq_self.2 fun c _ ↦ ?_
      rw [spares, hdel x List.mem_cons_self]
      rfl
    rw [ih hrest (fun y hy ↦ hmarks y (List.mem_cons_of_mem x hy))
      (fun y hy ↦ hdel y (List.mem_cons_of_mem x hy)), hm, hall, insertsOf_cons, List.append_assoc]

/-- **Once a selection of rows is empty**, deletes followed by inserts leave in it exactly the
inserted rows it selects. -/
theorem filter_of_deletes_inserts {p : ConfigChange → Bool} {h : List Event} {db db' : Database}
    (hexec : execAll exec h db = some db') (hmarks : ∀ x ∈ h, x.1.marks = false)
    (hord : ∀ a x b, h = a ++ x :: b → insertedRow x ≠ none → ∀ y ∈ b, removal y = none)
    (hnone : db.configChanges.filter p = []) :
    db'.configChanges.filter p = (insertsOf h).filter p := by
  induction h generalizing db with
  | nil =>
    obtain rfl := Option.some.inj hexec
    exact hnone
  | cons x h ih =>
    obtain ⟨m, hstep, hrest⟩ := execAll_cons_eq_some.1 hexec
    have hm := configChanges_of_exec hstep (hmarks x List.mem_cons_self)
    have hsub : (db.configChanges.filter (spares x)).filter p = [] := by
      refine List.filter_eq_nil_iff.2 fun c hc ↦ ?_
      exact List.filter_eq_nil_iff.1 hnone c (List.mem_filter.1 hc).1
    cases hx : insertedRow x with
    | none =>
      rw [hx] at hm
      have hm : m.configChanges.filter p = [] := by
        rw [hm, List.filter_append, hsub]
        rfl
      rw [insertsOf_cons, hx]
      exact ih hrest (fun y hy ↦ hmarks y (List.mem_cons_of_mem x hy))
        (fun a y b heq ↦ hord (x :: a) y b (by rw [heq]; rfl)) hm
    | some row =>
      have hafter := configChanges_of_inserts hrest
        (fun y hy ↦ hmarks y (List.mem_cons_of_mem x hy)) (hord [] x h rfl (by simp [hx]))
      rw [hafter, hm, hx, insertsOf_cons, hx, List.filter_append, List.filter_append, hsub,
        List.nil_append, List.filter_append]

/-! ### The writes of one edit -/

section Writes

variable {id : Uuid} {filters : List Filter} {changes : List NewConfigChange} {h : List Event}
  {o : Option (Except AppError Unit)}

/-- An insert phase deletes nothing. -/
theorem removal_eq_none_of_inserts (hs : Straight (restageStatements id [] changes) h o) :
    ∀ x ∈ h, removal x = none := by
  rintro ⟨s, v⟩ hx
  rcases mem_restageStatements.1 (hs.mem _ hx) with ⟨f, hf, -⟩ | ⟨c, -, hc⟩
  · cases hf
  · obtain rfl : s = .insertChange id c := hc
    cases v <;> rfl

/-- **Deletes come first**: after an insert of an edit comes no delete of it. -/
theorem removal_eq_none_after_insert (hs : Straight (restageStatements id filters changes) h o)
    {a b : List Event} {x : Event} (hsplit : h = a ++ x :: b) (hx : insertedRow x ≠ none) :
    ∀ y ∈ b, removal y = none := by
  induction filters generalizing h a with
  | nil =>
    subst hsplit
    exact fun y hy ↦ removal_eq_none_of_inserts hs y
      (List.mem_append_right a (List.mem_cons_of_mem x hy))
  | cons f fs ih =>
    cases hs with
    | waiting => simp at hsplit
    | failed _ _ e =>
      cases a with
      | nil =>
        obtain ⟨rfl, rfl⟩ := List.cons.inj hsplit
        exact absurd rfl hx
      | cons y a => simp at hsplit
    | next n hs =>
      cases a with
      | nil =>
        obtain ⟨rfl, rfl⟩ := List.cons.inj hsplit
        exact absurd rfl hx
      | cons y a =>
        obtain ⟨-, htl⟩ := List.cons.inj hsplit
        exact ih hs htl

/-- No statement of an edit marks rows. -/
theorem marks_eq_false_of_straight (hs : Straight (restageStatements id filters changes) h o) :
    ∀ x ∈ h, x.1.marks = false := by
  intro x hx
  rcases mem_restageStatements.1 (hs.mem x hx) with ⟨f, -, hf⟩ | ⟨c, -, hc⟩
  · rw [hf]
    rfl
  · rw [hc]
    rfl

/-- A finished edit has inserted a row for each change of its diff. -/
theorem toNew_insertsOf (hs : Straight (restageStatements id filters changes) h (some (.ok ())))
    (hrow : ∀ r c row, (⟨.insertChange r c, .ok row⟩ : Event) ∈ h → row.toNew = c) :
    (insertsOf h).map ConfigChange.toNew = changes := by
  induction filters generalizing h with
  | nil =>
    induction changes generalizing h with
    | nil =>
      cases hs
      rfl
    | cons c cs ih =>
      cases hs with
      | next row hs =>
        have htl := ih hs fun r c' row' hmem ↦ hrow r c' row' (List.mem_cons_of_mem _ hmem)
        rw [insertsOf_cons, List.map_append, htl]
        show [row.toNew] ++ cs = c :: cs
        rw [hrow id c row List.mem_cons_self]
        rfl
  | cons f fs ih =>
    cases hs with
    | next n hs =>
      have htl := ih hs fun r c' row' hmem ↦ hrow r c' row' (List.mem_cons_of_mem _ hmem)
      exact htl

/-- A finished edit has run each of its deletes. -/
theorem delete_mem_of_straight
    (hs : Straight (restageStatements id filters changes) h (some (.ok ()))) {f : Filter}
    (hf : f ∈ filters) : ∃ n : ℕ, (⟨.deletePending id f, .ok n⟩ : Event) ∈ h := by
  induction filters generalizing h with
  | nil => cases hf
  | cons g fs ih =>
    cases hs with
    | next n hs =>
      rcases List.mem_cons.1 hf with rfl | hf
      · exact ⟨n, List.mem_cons_self⟩
      · obtain ⟨n', hmem⟩ := ih hs hf
        exact ⟨n', List.mem_cons_of_mem _ hmem⟩

/-- A finished edit is its deletes and then its inserts. -/
theorem exists_split_of_straight
    (hs : Straight (restageStatements id filters changes) h (some (.ok ()))) :
    ∃ deletes inserts, h = deletes ++ inserts ∧
      Straight (restageStatements id filters []) deletes (some (.ok ())) ∧
      Straight (restageStatements id [] changes) inserts (some (.ok ())) := by
  induction filters generalizing h with
  | nil => exact ⟨[], h, rfl, Straight.done, hs⟩
  | cons f fs ih =>
    cases hs with
    | next n hs =>
      obtain ⟨deletes, inserts, rfl, hdel, hins⟩ := ih hs
      exact ⟨_ :: deletes, inserts, rfl, hdel.next n, hins⟩

/-- A delete phase inserts nothing. -/
theorem insertedRow_eq_none_of_deletes (hs : Straight (restageStatements id filters []) h o) :
    ∀ x ∈ h, insertedRow x = none := by
  rintro ⟨s, v⟩ hx
  rcases mem_restageStatements.1 (hs.mem _ hx) with ⟨f, -, hf⟩ | ⟨c, hc, -⟩
  · obtain rfl : s = .deletePending id f := hf
    rfl
  · cases hc

/-- A finished delete phase was answered with values throughout. -/
theorem removal_ne_none_of_deletes
    (hs : Straight (restageStatements id filters []) h (some (.ok ()))) :
    ∀ x ∈ h, removal x ≠ none := by
  induction filters generalizing h with
  | nil =>
    cases hs
    simp
  | cons f fs ih =>
    cases hs with
    | next n hs =>
      intro x hx
      rcases List.mem_cons.1 hx with rfl | hx
      · simp [removal]
      · exact ih hs x hx

end Writes

/-- An inserted row is the row of its change, with the next identifier. -/
theorem insertedRow_eq {r : Uuid} {c : NewConfigChange} {row : ConfigChange} {db db' : Database}
    (hstep : exec (.insertChange r c) (.ok row) db = some db') :
    row = db.newChange r row.createdAt c ∧ db'.configChanges = db.configChanges ++ [row] ∧
      db'.nextChange = db.nextChange + 1 := by
  obtain ⟨hrow, rfl⟩ := of_guarded hstep
  exact ⟨hrow, rfl, rfl⟩

/-- **The writes of an edit**: what it does to the tables is a restage, and if it answered with a
value, a complete one with the diff it computed. -/
theorem follows_edit_writes {claims : Claims} {id : Uuid} {e : Edit} {h : List Event}
    {q : Handler Response} (hf : Prog.Follows (e.handle claims id) h q) :
    ∃ changes o, Straight (restageStatements id e.filters changes)
        (Prog.visible Statement.touches h) o ∧
      ∀ b, q = .ret b → o = some (.ok ()) ∧
        ∃ reads writes, h = reads ++ writes ∧
          Prog.Follows (e.diff claims id) reads (.ret changes) := by
  rcases follows_edit hf with ⟨hnil, hne⟩ | ⟨reads, writes, changes, rfl, hreads, hvis, hs⟩
  · rw [hnil]
    cases e.filters with
    | nil => exact ⟨[], _, Straight.done, fun b hb ↦ absurd hb (hne b)⟩
    | cons f fs => exact ⟨[], _, Straight.waiting _ _, fun b hb ↦ absurd hb (hne b)⟩
  · refine ⟨changes, ending q, ?_, fun b hb ↦ ⟨by rw [hb]; rfl, reads, writes, rfl, hreads⟩⟩
    rw [hvis, visible_of_straight hs]
    exact hs

/-! ### Atomicity under failure -/

section Atomic

variable {claims : Claims} {id : Uuid} {e : Edit} {db db' : Database} {h : List Event}

/-- Every write that succeeded is a `DELETE` that found nothing in the tray. -/
def WroteNothing (db : Database) (id : Uuid) (h : List Event) : Prop :=
  (∀ f n, (⟨.deletePending id f, .ok n⟩ : Event) ∈ h → ∀ c ∈ db.pending id, f.matches c = false) ∧
    ∀ c row, (⟨.insertChange id c, .ok row⟩ : Event) ∉ h

/-- A deletion that ran has removed what it matches, for good. -/
theorem settled_of_delete_mem (hwf : db.WellFormed) (hexec : execAll exec h db = some db')
    {f : Filter} {n : ℕ} (hmem : (⟨.deletePending id f, .ok n⟩ : Event) ∈ h) {c : ConfigChange}
    (hc : c ∈ db.pending id) (hmatch : f.matches c = true) : db'.Settled id c.id := by
  obtain ⟨a, b, rfl⟩ := List.append_of_mem hmem
  obtain ⟨m, ha, hrest⟩ := execAll_append_eq_some.1 hexec
  obtain ⟨m₁, hstep, hb⟩ := execAll_cons_eq_some.1 hrest
  have hlt : c.id < m.nextChange := (hwf.pending_lt hc).trans_le (execAll_nextChange_le ha)
  obtain ⟨-, rfl⟩ := of_guarded hstep
  obtain ⟨hc', hr, hp⟩ := Database.mem_pending.1 hc
  refine execAll_settled hb ⟨hlt, ?_⟩
  intro d hd hid
  obtain ⟨hd, -, hdp⟩ := Database.mem_pending.1 hd
  obtain ⟨hd, hkeep⟩ := List.mem_filter.1 hd
  obtain rfl := eq_of_pending_of_id hwf ha hc' hd hdp hid
  rw [Database.hits_iff.2 ⟨⟨hr, hp⟩, hmatch⟩] at hkeep
  cases hkeep

/-- A row that an edit inserted is in the tray when the edit has ended, under an identifier that was
not in use before. -/
theorem exists_pending_of_inserted {changes : List NewConfigChange} {filters : List Filter}
    {o : Option (Except AppError Unit)}
    (hs : Straight (restageStatements id filters changes) h o)
    (hexec : execAll exec h db = some db') {c : NewConfigChange} {row : ConfigChange}
    (hmem : (⟨.insertChange id c, .ok row⟩ : Event) ∈ h) :
    row ∈ db'.pending id ∧ db.nextChange ≤ row.id := by
  have hmarks := marks_eq_false_of_straight hs
  obtain ⟨a, b, rfl⟩ := List.append_of_mem hmem
  obtain ⟨m, ha, hrest⟩ := execAll_append_eq_some.1 hexec
  obtain ⟨m₁, hstep, hb⟩ := execAll_cons_eq_some.1 hrest
  obtain ⟨hrow, hm₁, -⟩ := insertedRow_eq hstep
  -- the inserts come last, so nothing deletes the row
  have hafter := configChanges_of_inserts hb
    (fun y hy ↦ hmarks y (List.mem_append_right a (List.mem_cons_of_mem _ hy)))
    (removal_eq_none_after_insert hs rfl (by simp [insertedRow]))
  constructor
  · refine Database.mem_pending.2 ⟨?_, by rw [hrow]; rfl, by rw [hrow]; rfl⟩
    rw [hafter, hm₁]
    exact List.mem_append_left _ (List.mem_append_right _ (List.mem_singleton_self row))
  · have hid : row.id = m.nextChange := by
      rw [hrow]
      rfl
    rw [hid]
    exact execAll_nextChange_le ha

/-- An edit that wrote nothing leaves the rows as they were. -/
theorem configChanges_of_wroteNothing {changes : List NewConfigChange} {filters : List Filter}
    {o : Option (Except AppError Unit)}
    (hs : Straight (restageStatements id filters changes) h o)
    (hexec : execAll exec h db = some db') (hwrote : WroteNothing db id h) :
    db'.configChanges = db.configChanges := by
  refine execAll_invariant (P := fun d ↦ d.configChanges = db.configChanges) ?_ hexec rfl
  rintro ⟨s, v⟩ hx d d' hstep hd
  rw [configChanges_of_exec hstep (marks_eq_false_of_straight hs _ hx), hd]
  rcases mem_restageStatements.1 (hs.mem _ hx) with ⟨f, -, rfl⟩ | ⟨c, -, rfl⟩
  · refine (List.append_nil _).trans (List.filter_eq_self.2 fun c hc ↦ ?_)
    cases v with
    | error e => rfl
    | ok n =>
      show (!f.hits id c) = true
      rw [Bool.not_eq_true', Bool.eq_false_iff]
      intro hhit
      obtain ⟨⟨hr, hp⟩, hmatch⟩ := Database.hits_iff.1 hhit
      rw [hwrote.1 f n hx c (Database.mem_pending.2 ⟨hc, hr, hp⟩)] at hmatch
      cases hmatch
  · cases v with
    | error e => exact (List.append_nil _).trans (List.filter_eq_self.2 fun c hc ↦ rfl)
    | ok row => exact absurd hx (hwrote.2 c row)

/-- **Atomicity under failure.** An edit that answers with an error has left the tray as it was
exactly if every write that succeeded before the failure is a `DELETE` that found nothing. -/
theorem pending_eq_iff_of_error {err : AppError} (hwf : db.WellFormed)
    (hrun : Completes exec (e.handle claims id) db h (.error err) db') :
    db'.pending id = db.pending id ↔ WroteNothing db id h := by
  obtain ⟨q, hf, -⟩ := hrun.ends
  obtain ⟨changes, o, hs, -⟩ := follows_edit_writes hf
  have hexec := execAll_visible (fun _ _ _ _ ↦ exec_eq_of_silent) hrun.execs
  constructor
  · intro hsame
    refine ⟨fun f n hmem c hc ↦ ?_, fun c row hmem ↦ ?_⟩
    · by_contra hmatch
      have hset := settled_of_delete_mem hwf hrun.execs hmem hc
        (Bool.eq_true_of_not_eq_false hmatch)
      exact hset.2 c (by rwa [hsame]) rfl
    · obtain ⟨hpending, hfresh⟩ :=
        exists_pending_of_inserted hs hexec (Prog.mem_visible.2 ⟨hmem, rfl⟩)
      rw [hsame] at hpending
      exact absurd hfresh (hwf.pending_lt hpending).not_ge
  · rintro ⟨hdel, hins⟩
    have hsame := configChanges_of_wroteNothing hs hexec
      ⟨fun f n hmem ↦ hdel f n (Prog.mem_visible.1 hmem).1,
        fun c row hmem ↦ hins c row (Prog.mem_visible.1 hmem).1⟩
    rw [Database.pending, hsame, Database.pending]

/-- The `INSERT` of an edit is refused, because its author was deleted meanwhile. -/
def refusedInsert : Fault :=
  ⟨"insert or update on table \"config_changes\" violates foreign key constraint", .unsent⟩

/-- A failed edit whose `DELETE` found nothing. -/
theorem pending_eq_of_refused_fresh : ∃ db',
    Completes exec ((Edit.deleteVlan ⟨"eth1", 7⟩).handle sampleAdmin 0)
      (sampleDatabase [sampleRow 0])
      [⟨.deletePending 0 (.vif (vifBase "eth1" 7)), .ok (0 : ℕ)⟩,
        ⟨.insertChange 0 (sampleChange 7), .error refusedInsert⟩]
      (.error (.database refusedInsert.text)) db' ∧
    db'.pending 0 = (sampleDatabase [sampleRow 0]).pending 0 := by
  have hwf : (sampleDatabase [sampleRow 0]).WellFormed :=
    ⟨by decide, by decide, by decide, by decide, by decide⟩
  have hrun : ∃ db', Completes exec ((Edit.deleteVlan ⟨"eth1", 7⟩).handle sampleAdmin 0)
      (sampleDatabase [sampleRow 0])
      [⟨.deletePending 0 (.vif (vifBase "eth1" 7)), .ok (0 : ℕ)⟩,
        ⟨.insertChange 0 (sampleChange 7), .error refusedInsert⟩]
      (.error (.database refusedInsert.text)) db' :=
    ⟨_, ⟨_, .call _ (.call _ (.nil _)), rfl⟩, rfl⟩
  obtain ⟨db', hrun⟩ := hrun
  refine ⟨db', hrun, (pending_eq_iff_of_error hwf hrun).2 ⟨fun f n hmem c hc ↦ ?_, ?_⟩⟩
  · obtain rfl := List.mem_singleton.1 hc
    simp only [List.mem_cons, Sigma.mk.injEq, Statement.deletePending.injEq, List.not_mem_nil,
      reduceCtorEq, false_and, or_false] at hmem
    obtain ⟨⟨-, rfl⟩, -⟩ := hmem
    decide
  · simp

/-- **Staging is not atomic.** The old row is gone and the new one was refused. -/
theorem not_pending_eq_of_refused : ∃ db',
    Completes exec ((Edit.deleteVlan ⟨"eth1", 0⟩).handle sampleAdmin 0)
      (sampleDatabase [sampleRow 0])
      [⟨.deletePending 0 (.vif (vifBase "eth1" 0)), .ok (1 : ℕ)⟩,
        ⟨.insertChange 0 (sampleChange 0), .error refusedInsert⟩]
      (.error (.database refusedInsert.text)) db' ∧
    (sampleDatabase [sampleRow 0]).WellFormed ∧
    db'.pending 0 ≠ (sampleDatabase [sampleRow 0]).pending 0 :=
  ⟨_, ⟨⟨_, .call _ (.call _ (.nil _)), rfl⟩, rfl⟩,
    ⟨by decide, by decide, by decide, by decide, by decide⟩, by decide⟩

end Atomic

/-! ### Two edits of one entity -/

section Pair

/-- The row is in the tray of router `id` and belongs to an entity of the edit. -/
def Edit.owns (e : Edit) (id : Uuid) (c : ConfigChange) : Bool :=
  e.targets.any fun f ↦ f.hits id c

variable {Pid : Type} {tr : List (Pid × Event)} {i j : Pid}

/-- The writes of `i` come before those of `j` where the order matters: no `INSERT` of `i` comes
after a `DELETE` of `j`, and no `DELETE` of `i` after an `INSERT` of `j`. -/
def StagedInOrder (tr : List (Pid × Event)) (i j : Pid) : Prop :=
  ∀ tr₁ tr₂ x y, tr = tr₁ ++ (j, x) :: tr₂ → (i, y) ∈ tr₂ →
    (removal x ≠ none → insertedRow y = none) ∧ (insertedRow x ≠ none → removal y = none)

/-- Write phases that do not overlap are in order. -/
theorem stagedInOrder_of_phases {tr₁ tr₂ : List (Pid × Event)} (h₁ : ∀ z ∈ tr₁, z.1 ≠ j)
    (h₂ : ∀ z ∈ tr₂, z.1 ≠ i) : StagedInOrder (tr₁ ++ tr₂) i j := by
  intro a b x y hsplit hy
  exfalso
  rcases List.append_eq_append_iff.1 hsplit with ⟨c, rfl, rfl⟩ | ⟨c, rfl, hc⟩
  · exact h₂ _ (List.mem_append_right c (List.mem_cons_of_mem _ hy)) rfl
  · cases c with
    | nil =>
      rw [List.nil_append] at hc
      subst hc
      exact h₂ _ (List.mem_cons_of_mem _ hy) rfl
    | cons z c =>
      obtain ⟨rfl, -⟩ := List.cons.inj hc
      exact h₁ _ (List.mem_append_right a List.mem_cons_self) rfl

/-- Only statements that touch the tables insert or delete. -/
theorem insertedRow_removal_of_silent {x : Event} (hx : x.1.touches = false) :
    insertedRow x = none ∧ removal x = none := by
  obtain ⟨s, v⟩ := x
  cases s <;> first | exact ⟨rfl, rfl⟩ | cases hx

theorem insertsOf_visible (h : List Event) :
    insertsOf (Prog.visible Statement.touches h) = insertsOf h := by
  induction h with
  | nil => rfl
  | cons x h ih =>
    rw [Prog.visible_cons]
    split
    · rw [insertsOf_cons, insertsOf_cons, ih]
    · rename_i hx
      rw [insertsOf_cons, (insertedRow_removal_of_silent (Bool.eq_false_iff.2 hx)).1, ih]
      rfl

variable [DecidableEq Pid]

/-- The rows inserted along a trace, when only one process inserts. -/
theorem insertsOf_proj (hother : ∀ k x, (k, x) ∈ tr → k ≠ j → insertedRow x = none) :
    insertsOf (tr.map Prod.snd) = insertsOf (proj j tr) := by
  induction tr with
  | nil => rfl
  | cons y tr ih =>
    obtain ⟨k, x⟩ := y
    have ih := ih fun k x hmem ↦ hother k x (List.mem_cons_of_mem _ hmem)
    by_cases hk : k = j
    · subst hk
      rw [proj_cons_self, List.map_cons, insertsOf_cons, insertsOf_cons, ih]
    · rw [proj_cons_of_ne hk, List.map_cons, insertsOf_cons, ih,
        hother k x List.mem_cons_self hk]
      rfl

/-- An inserted row is the row of its change. -/
theorem toNew_of_insert {h : List Event} {db m : Database} (hexec : execAll exec h db = some m)
    {r : Uuid} {c : NewConfigChange} {row : ConfigChange}
    (hmem : (⟨.insertChange r c, .ok row⟩ : Event) ∈ h) : row.toNew = c := by
  obtain ⟨a, b, rfl⟩ := List.append_of_mem hmem
  obtain ⟨n, -, hrest⟩ := execAll_append_eq_some.1 hexec
  obtain ⟨n', hstep, -⟩ := execAll_cons_eq_some.1 hrest
  rw [(insertedRow_eq hstep).1]
  rfl

/-- Edits mark nothing. -/
theorem ReviewRun.marks_eq_false {db : Database} {calls : Pid → Call}
    {s : Pool Statement Statement.Reply AppError Response Database Pid}
    (hrun : ReviewRun db calls tr s) (hedit : ∀ k, (calls k).request ≠ .commit) :
    ∀ x ∈ tr.map Prod.snd, x.1.marks = false := by
  intro x hx
  obtain ⟨⟨k, y⟩, hy, rfl⟩ := List.mem_map.1 hx
  have hissue : (calls k).mayIssue y.1 = true := hrun.mayIssue hy
  obtain ⟨s, v⟩ := y
  cases s with
  | updateCommitted k' r => simp [Call.mayIssue, hedit k] at hissue
  | _ => rfl

/-- Once an edit has run all its deletes, with no insert after any of them, no pending row of its
entities is left. -/
theorem filter_owns_eq_nil {Pid : Type} {tr : List (Pid × Event)} {j : Pid} {db m : Database}
    {e : Edit} {id : Uuid} (hm : TablesAt db tr m)
    (hmarks : ∀ x ∈ tr.map Prod.snd, x.1.marks = false)
    (hdel : ∀ f ∈ e.targets, ∃ n : ℕ, (j, (⟨.deletePending id f, .ok n⟩ : Event)) ∈ tr)
    (hquiet : ∀ a x b, tr = a ++ (j, x) :: b → removal x ≠ none →
      ∀ y ∈ b, insertedRow y.2 = none) :
    m.configChanges.filter (e.owns id) = [] := by
  refine List.filter_eq_nil_iff.2 fun c hc howns ↦ ?_
  obtain ⟨f, hf, hhit⟩ := List.any_eq_true.1 howns
  obtain ⟨n, hmem⟩ := hdel f hf
  obtain ⟨a, b, rfl⟩ := List.append_of_mem hmem
  obtain ⟨m₁, -, hrest⟩ := tablesAt_append.1 hm
  obtain ⟨m₂, hstep, hb⟩ := tablesAt_cons.1 hrest
  obtain ⟨-, rfl⟩ := of_guarded hstep
  have hnone : ∀ x ∈ b.map Prod.snd, insertedRow x = none := by
    intro x hx
    obtain ⟨y, hy, rfl⟩ := List.mem_map.1 hx
    exact hquiet a _ b rfl (by simp [removal]) y hy
  have hempty : (m₁.configChanges.filter fun c ↦ !f.hits id c).filter (f.hits id) = [] := by
    refine List.filter_eq_nil_iff.2 fun d hd hhit ↦ ?_
    have hkeep := (List.mem_filter.1 hd).2
    rw [hhit] at hkeep
    cases hkeep
  have hsel := filter_of_deletes_inserts (p := f.hits id) hb
    (fun x hx ↦ hmarks x (by
      rw [List.map_append]
      exact List.mem_append_right _ (List.mem_cons_of_mem _ hx)))
    (fun a' x b' heq hx ↦ absurd (hnone x (by
      rw [heq]
      exact List.mem_append_right _ List.mem_cons_self)) hx)
    hempty
  have hins : insertsOf (b.map Prod.snd) = [] := by
    refine List.filterMap_eq_nil_iff.2 hnone
  rw [hins] at hsel
  exact List.filter_eq_nil_iff.1 hsel c hc hhit

/-- After an insert of an edit, in a run of many, comes no delete of it. -/
theorem removal_eq_none_of_later {id : Uuid} {filters : List Filter}
    {changes : List NewConfigChange} {o : Option (Except AppError Unit)}
    (hs : Straight (restageStatements id filters changes)
      (Prog.visible Statement.touches (proj j tr)) o) {tr₁ tr₂ : List (Pid × Event)} {x y : Event}
    (hsplit : tr = tr₁ ++ (j, x) :: tr₂) (hy : (j, y) ∈ tr₂) (hx : insertedRow x ≠ none) :
    removal y = none := by
  subst hsplit
  cases hty : y.1.touches with
  | false => exact (insertedRow_removal_of_silent hty).2
  | true =>
    cases htx : x.1.touches with
    | false => exact absurd (insertedRow_removal_of_silent htx).1 hx
    | true =>
      rw [proj_append, proj_cons_self, Prog.visible_append, Prog.visible_cons_of_pos htx] at hs
      exact removal_eq_none_after_insert hs rfl hx y (Prog.mem_visible.2 ⟨mem_proj.2 hy, hty⟩)

/-- A process that has inserted nothing that shows has inserted nothing. -/
theorem insertedRow_eq_none_of_proj (hnil : insertsOf (proj j tr) = []) {y : Event}
    (hy : (j, y) ∈ tr) : insertedRow y = none :=
  List.filterMap_eq_nil_iff.1 hnil y (mem_proj.2 hy)

/-- The trace of a finished edit, cut at its last delete: every filter has been run, and nothing
has been inserted yet. -/
theorem exists_split_at_lastDelete {id : Uuid} {filters : List Filter}
    {changes : List NewConfigChange} (hne : filters ≠ [])
    (hs : Straight (restageStatements id filters changes)
      (Prog.visible Statement.touches (proj j tr)) (some (.ok ()))) :
    ∃ tr₁ last tr₂, tr = tr₁ ++ (j, last) :: tr₂ ∧ removal last ≠ none ∧
      insertsOf (proj j (tr₁ ++ [(j, last)])) = [] ∧
      ∀ f ∈ filters, ∃ n : ℕ, (j, (⟨.deletePending id f, .ok n⟩ : Event)) ∈
        tr₁ ++ [(j, last)] := by
  obtain ⟨deletes, inserts, hsplit, hdel, -⟩ := exists_split_of_straight hs
  rcases List.eq_nil_or_concat deletes with rfl | ⟨first, last, rfl⟩
  · have hnil : restageStatements id filters [] = [] := hdel.statements_eq.symm
    simp [restageStatements, hne] at hnil
  rw [List.concat_eq_append] at hsplit hdel
  have hlast : removal last ≠ none :=
    removal_ne_none_of_deletes hdel last (List.mem_append_right _ (List.mem_singleton_self _))
  obtain ⟨tr₁, tr₂, rfl, hfirst, -⟩ := exists_split_of_visible_proj
    (hsplit.trans (List.append_assoc first [last] inserts))
  -- the own writes up to the cut are the delete phase
  have hvis : Prog.visible Statement.touches (proj j (tr₁ ++ [(j, last)])) = first ++ [last] := by
    cases htouches : last.1.touches with
    | false => exact absurd (insertedRow_removal_of_silent htouches).2 hlast
    | true =>
      rw [proj_append, proj_cons_self, Prog.visible_append, hfirst,
        Prog.visible_cons_of_pos htouches]
      rfl
  refine ⟨tr₁, last, tr₂, rfl, hlast, ?_, fun f hf ↦ ?_⟩
  · rw [← insertsOf_visible, hvis]
    exact List.filterMap_eq_nil_iff.2 (insertedRow_eq_none_of_deletes hdel)
  · obtain ⟨n, hmem⟩ := delete_mem_of_straight hdel hf
    rw [← hvis] at hmem
    exact ⟨n, mem_proj.1 (Prog.mem_visible.1 hmem).1⟩

/-- After the last delete of the later edit, neither edit deletes after an insert. -/
theorem StagedInOrder.removal_eq_none {tr₁ tr₂ : List (Bool × Event)} {b : Bool} {last : Event}
    {id : Uuid} {filters : List Filter} {changes : List NewConfigChange}
    {o : Option (Except AppError Unit)}
    (hord : StagedInOrder (tr₁ ++ (!b, last) :: tr₂) b (!b))
    (hs : Straight (restageStatements id filters changes)
      (Prog.visible Statement.touches (proj (!b) (tr₁ ++ (!b, last) :: tr₂))) o)
    (hother : ∀ y, (b, y) ∈ tr₂ → insertedRow y = none) {h₁ h₂ : List Event} {x y : Event}
    (hsplit : tr₂.map Prod.snd = h₁ ++ x :: h₂) (hx : insertedRow x ≠ none) (hy : y ∈ h₂) :
    removal y = none := by
  obtain ⟨A, t, rfl, rfl, ht⟩ := List.map_eq_append_iff.1 hsplit
  obtain ⟨⟨k, x⟩, B, rfl, rfl, rfl⟩ := List.map_eq_cons_iff.1 ht
  obtain ⟨⟨l, y⟩, hmem, rfl⟩ := List.mem_map.1 hy
  rcases Bool.eq_or_eq_not k b with rfl | rfl
  · exact absurd (hother x (List.mem_append_right A List.mem_cons_self)) hx
  · have hat : tr₁ ++ (!b, last) :: (A ++ (!b, x) :: B) =
        (tr₁ ++ (!b, last) :: A) ++ (!b, x) :: B := by simp
    rcases Bool.eq_or_eq_not l b with rfl | rfl
    · exact (hord _ B x y hat hmem).2 hx
    · exact removal_eq_none_of_later hs hat hmem hx

/-- **Serializability of staging.** Two concurrent edits, both answered, with the writes of one in
order before those of the other: the pending rows of the later one's entities, which are those of
the other when both edit one entity, are the rows it inserted for the diff it had computed. -/
theorem staged_of_inOrder {db : Database} {calls : Bool → Call} {tr : List (Bool × Event)}
    {s : Pool Statement Statement.Reply AppError Response Database Bool} {e : Bool → Edit}
    {id : Uuid} (hcalls : ∀ b, (calls b).request = .edit (e b)) (hid : ∀ b, (calls b).id = id)
    (hrun : ReviewRun db calls tr s)
    (hend : ∀ b, ∃ r, s.prog b = .ret r) {b : Bool} (hord : StagedInOrder tr b (!b)) :
    ∃ (reads writes : List Event) (changes : List NewConfigChange) (rows : List ConfigChange),
      proj (!b) tr = reads ++ writes ∧
      Prog.Follows ((e !b).diff (calls !b).claims id) reads (.ret changes) ∧
      rows.map ConfigChange.toNew = changes ∧
      s.state.configChanges.filter ((e !b).owns id) = rows.filter ((e !b).owns id) := by
  obtain ⟨r, hr⟩ := hend !b
  have hf := hrun.follows !b
  have hprog : (reviewPool db calls).prog (!b) = (e !b).handle (calls !b).claims id := by
    show (calls !b).handle = _
    rw [Call.handle, hcalls, hid]
  rw [hprog] at hf
  obtain ⟨changes, o, hs, hret⟩ := follows_edit_writes hf
  obtain ⟨rfl, reads, writes, hproj, hdiff⟩ := hret r hr
  have hmarks := hrun.marks_eq_false (fun k ↦ by rw [hcalls]; simp)
  have hrows : (insertsOf (proj (!b) tr)).map ConfigChange.toNew = changes := by
    rw [← insertsOf_visible]
    exact toNew_insertsOf hs fun r c row hmem ↦
      toNew_of_insert hrun.execs (List.mem_map_of_mem (mem_proj.1 (Prog.mem_visible.1 hmem).1))
  refine ⟨reads, writes, changes, insertsOf (proj (!b) tr), hproj, hdiff, hrows, ?_⟩
  -- cut the run at the last delete of the later edit: there its entities hold no pending row, and
  -- from there on it alone inserts
  obtain ⟨tr₁, last, tr₂, rfl, hlast, hcut, hdeleted⟩ :=
    exists_split_at_lastDelete (e !b).filters_ne_nil hs
  have hother : ∀ y, (b, y) ∈ tr₂ → insertedRow y = none := fun y hy ↦
    (hord tr₁ tr₂ last y rfl hy).1 hlast
  have horder : ∀ h₁ x h₂, tr₂.map Prod.snd = h₁ ++ x :: h₂ → insertedRow x ≠ none →
      ∀ y ∈ h₂, removal y = none := fun h₁ x h₂ hsplit hx y hy ↦
    hord.removal_eq_none hs hother hsplit hx hy
  have hcons : tr₁ ++ (!b, last) :: tr₂ = (tr₁ ++ [(!b, last)]) ++ tr₂ :=
    (List.append_assoc tr₁ [(!b, last)] tr₂).symm
  rw [hcons, List.map_append] at hmarks
  obtain ⟨m, hm, hrest⟩ := tablesAt_append.1 (hcons ▸ hrun.execs)
  have hempty : m.configChanges.filter ((e !b).owns id) = [] := by
    refine filter_owns_eq_nil (j := !b) hm (fun x hx ↦ hmarks x (List.mem_append_left _ hx))
      (fun f hf ↦ hdeleted f ((e !b).targets_subset_filters hf)) fun a x b' hcut' hx y hy ↦ ?_
    obtain ⟨k, y⟩ := y
    rcases Bool.eq_or_eq_not k b with rfl | rfl
    · refine (hord a (b' ++ tr₂) x y ?_ (List.mem_append_left _ hy)).1 hx
      rw [hcons, hcut', List.append_assoc]
      rfl
    · refine insertedRow_eq_none_of_proj hcut ?_
      rw [hcut']
      exact List.mem_append_right _ (List.mem_cons_of_mem _ hy)
  have halone : ∀ k x, (k, x) ∈ tr₂ → k ≠ !b → insertedRow x = none := fun k x hmem hk ↦
    hother x ((Bool.eq_or_eq_not k b).resolve_right hk ▸ hmem)
  rw [filter_of_deletes_inserts hrest (fun x hx ↦ hmarks x (List.mem_append_right _ hx)) horder
    hempty, insertsOf_proj halone, hcons, proj_append, insertsOf_append, hcut, List.nil_append]

/-- Two operators give one new VLAN different MTUs. -/
def sampleVlan (mtu : Int) : Edit := .stageVlan ⟨"eth1", 5, none, [], some mtu, true, none, none⟩

def sampleMtus : Bool → Int
  | true => 1400
  | false => 1500

/-- What the diff of such an edit is when the VLAN does not exist. -/
def sampleVlanChange (mtu : Int) : NewConfigChange :=
  ⟨.set, vifBase "eth1" 5 ++ ["mtu", mtu.repr], s!"eth1.5: MTU → {mtu.repr}", .interfaces, some 1⟩

/-- The device has no interfaces configured. -/
def emptyConfigResponse : Json := .obj [("success", .bool true), ("data", .obj [])]

def sampleVlanRow (id : Uuid) (mtu : Int) : ConfigChange :=
  { sampleDatabase [] with nextChange := id }.newChange 0 0 (sampleVlanChange mtu)

/-- The reads of a VLAN edit. -/
def sampleReads (b : Bool) : List (Bool × Event) :=
  [(b, ⟨.selectRouter 0, .ok (some sampleRouter)⟩),
    (b, ⟨.showConfig sampleClient ["interfaces"], .ok emptyConfigResponse⟩)]

/-- One edit after the other. -/
def sequentialTrace : List (Bool × Event) :=
  (sampleReads true ++
    [(true, ⟨.deletePending 0 (.vif (vifBase "eth1" 5)), .ok (0 : ℕ)⟩),
      (true, ⟨.insertChange 0 (sampleVlanChange 1400), .ok (sampleVlanRow 0 1400)⟩)]) ++
  (sampleReads false ++
    [(false, ⟨.deletePending 0 (.vif (vifBase "eth1" 5)), .ok (1 : ℕ)⟩),
      (false, ⟨.insertChange 0 (sampleVlanChange 1500), .ok (sampleVlanRow 1 1500)⟩)])

/-- The requests of the two operators. -/
def sampleVlanCalls (b : Bool) : Call := ⟨sampleAdmin, 0, .edit (sampleVlan (sampleMtus b))⟩

/-- One edit after the other leaves the diff of the later one. -/
theorem staged_of_sequential : ∃ s,
    ReviewRun (sampleDatabase []) sampleVlanCalls sequentialTrace s ∧
    ∃ (reads writes : List Event) (changes : List NewConfigChange) (rows : List ConfigChange),
      proj false sequentialTrace = reads ++ writes ∧
      Prog.Follows ((sampleVlan 1500).diff sampleAdmin 0) reads (.ret changes) ∧
      rows.map ConfigChange.toNew = changes ∧
      s.state.configChanges.filter ((sampleVlan 1500).owns 0) =
        rows.filter ((sampleVlan 1500).owns 0) := by
  have hrun : ∃ s, ReviewRun (sampleDatabase []) sampleVlanCalls sequentialTrace s ∧
      ∀ b, ∃ r, s.prog b = .ret r := by
    refine ⟨_, Run.step true _ rfl rfl <| Run.step true _ rfl rfl <| Run.step true _ rfl rfl <|
      Run.step true _ rfl rfl <| Run.step false _ rfl rfl <| Run.step false _ rfl rfl <|
      Run.step false _ rfl rfl <| Run.step false _ rfl rfl <| Run.nil _, fun b ↦ ?_⟩
    cases b <;> exact ⟨_, rfl⟩
  obtain ⟨s, hrun, hend⟩ := hrun
  have hord : StagedInOrder sequentialTrace true false :=
    stagedInOrder_of_phases (by simp [sampleReads]) (by simp [sampleReads])
  have hcalls : ∀ b, (sampleVlanCalls b).request = .edit (sampleVlan (sampleMtus b)) := fun _ ↦ rfl
  have hid : ∀ b, (sampleVlanCalls b).id = 0 := fun _ ↦ rfl
  exact ⟨s, hrun, staged_of_inOrder hcalls hid hrun hend hord⟩

/-- Both `DELETE`s run before either `INSERT`. -/
def crossedTrace : List (Bool × Event) :=
  sampleReads true ++ sampleReads false ++
    [(true, ⟨.deletePending 0 (.vif (vifBase "eth1" 5)), .ok (0 : ℕ)⟩),
      (false, ⟨.deletePending 0 (.vif (vifBase "eth1" 5)), .ok (0 : ℕ)⟩),
      (true, ⟨.insertChange 0 (sampleVlanChange 1400), .ok (sampleVlanRow 0 1400)⟩),
      (false, ⟨.insertChange 0 (sampleVlanChange 1500), .ok (sampleVlanRow 1 1500)⟩)]

/-- **Staging is not serializable.** Both edits are answered, and the VLAN's pending commands are
the diff of neither. -/
theorem not_staged_of_crossed : ∃ s,
    ReviewRun (sampleDatabase []) sampleVlanCalls crossedTrace s ∧
      (∀ b, ∃ r, s.prog b = .ret r) ∧
      (sampleVlan (sampleMtus true)).targets = (sampleVlan (sampleMtus false)).targets ∧
      ∀ b, ∃ changes, Prog.Follows ((sampleVlan (sampleMtus b)).diff sampleAdmin 0)
          ((sampleReads b).map Prod.snd) (.ret changes) ∧
        (s.state.configChanges.filter ((sampleVlan (sampleMtus b)).owns 0)).map
          ConfigChange.command ≠ changes.map NewConfigChange.command := by
  refine ⟨_, Run.step true _ rfl rfl <| Run.step true _ rfl rfl <| Run.step false _ rfl rfl <|
    Run.step false _ rfl rfl <| Run.step true _ rfl rfl <| Run.step false _ rfl rfl <|
    Run.step true _ rfl rfl <| Run.step false _ rfl rfl <| Run.nil _, fun b ↦ ?_, rfl, fun b ↦ ?_⟩
  · cases b <;> exact ⟨_, rfl⟩
  · refine ⟨[sampleVlanChange (sampleMtus b)], ?_, ?_⟩
    · cases b <;> exact .call _ (.call _ (.nil _))
    · cases b <;> decide

end Pair

end VyosFabric
