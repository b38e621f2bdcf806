import VyosFabric.Diff.Regions
import VyosFabric.Review.Sequences

/-!
# What a staging request touches

Every row of the table is about one entity, and an edit issues deletes for the filters of its own
entities and inserts of their changes only (`Call.handle_writes`), whatever it is answered. So the
rows it takes out of the table and those it puts in lie in the regions of its entities, in every
interleaving (`Edit.Within`), and a NIC and its VLANs do not meet. Twice in a row it leaves what it
leaves once (`stays_within`).
-/

namespace VyosFabric

open Interaction

/-! ### What a request writes -/

/-- The writes a request may issue. -/
def Call.mayWrite (c : Call) : Statement → Prop
  | .deletePending r f => r = c.id ∧ ∀ e, c.request = .edit e → f ∈ e.filters
  | .insertChange r n => r = c.id ∧ ∃ e x, c.request = .edit e ∧ (x ∈ e.entities ∨ x ∈ e.origins) ∧
      x.Owns n
  | .updateCommitted _ _ => c.request = .commit
  | _ => True

theorem Call.mayWrite_of_silent (c : Call) {s : Statement} (hs : s.touches = false) :
    c.mayWrite s := by
  cases s <;> trivial

/-- A restage deletes for its filters and inserts its changes. -/
theorem Call.restage_writes {c : Call} {e : Edit} (hc : c.request = .edit e) {filters : List Filter}
    (hfilters : filters ⊆ e.filters) {changes : List NewConfigChange} (hchanges : e.Owns changes) :
    (restage c.id filters changes).Issues c.mayWrite := by
  have hdelete : (deleteEach c.id filters).Issues c.mayWrite := by
    induction filters with
    | nil => trivial
    | cons f fs ih =>
      obtain ⟨hf, hfs⟩ := List.cons_subset.1 hfilters
      refine (sql_issues ⟨rfl, fun e' he' ↦ ?_⟩).bind fun _ ↦ ih hfs
      obtain rfl := Request.edit.inj (hc.symm.trans he')
      exact hf
  have hinsert : (insertChanges c.id changes).Issues c.mayWrite := by
    induction changes with
    | nil => trivial
    | cons n ns ih =>
      obtain ⟨x, hx, howns⟩ := hchanges n List.mem_cons_self
      exact (sql_issues ⟨rfl, e, x, hc, hx, howns⟩).bind fun _ ↦
        (ih fun m hm ↦ hchanges m (List.mem_cons_of_mem n hm)).bind fun _ ↦ trivial
  exact hdelete.bind fun _ ↦ hinsert.bind fun _ ↦ trivial

/-- **What a request writes.** -/
theorem Call.handle_writes (c : Call) : c.handle.Issues c.mayWrite := by
  have hlooks {α : Type} {p : Handler α} (hp : p.Silent Statement.touches) : p.Issues c.mayWrite :=
    hp.mono fun _ ↦ c.mayWrite_of_silent
  rw [Call.handle]
  cases hrequest : c.request with
  | edit e =>
    show (e.handle c.claims c.id).Issues c.mayWrite
    rw [e.handle_eq]
    exact Prog.Issues.bind_of_returns (hlooks (e.diff_inspects _ _).silent) (e.diff_returns _ _)
      fun changes hchanges ↦ restage_writes hrequest (List.Subset.refl _) hchanges
  | listChanges =>
    exact (hlooks (authorizeRouter_inspects _ _).silent).bind fun _ ↦
      (sql_issues trivial).bind fun _ ↦ trivial
  | discardOne changeId =>
    refine (hlooks (authorizeRouter_inspects _ _).silent).bind fun _ ↦
      (sql_issues ⟨rfl, fun e he ↦ by cases hrequest.symm.trans he⟩).bind fun n ↦ ?_
    show Prog.Issues _ (if _ then _ else _)
    split <;> trivial
  | discardAll =>
    exact (hlooks (authorizeRouter_inspects _ _).silent).bind fun _ ↦
      (sql_issues ⟨rfl, fun e he ↦ by cases hrequest.symm.trans he⟩).bind fun _ ↦ trivial
  | commit =>
    -- a commit stages and discards nothing
    refine (c.issues_commit hrequest).mono fun s hs ↦ ?_
    cases s with
    | deletePending | insertChange => simp [mayIssue, hrequest] at hs
    | updateCommitted => exact hrequest
    | _ => trivial
  | listCommits => exact hlooks (listCommits_silent _ _)

/-! ### Every row is somebody's -/

/-- Every row of the table is about an entity. -/
def Database.Owned (db : Database) : Prop := ∀ b ∈ db.configChanges, ∃ x : Entity, x.Owns b.toNew

section Run

variable {Pid : Type} [DecidableEq Pid] {db m m' : Database} {calls : Pid → Call}
  {tr : List (Pid × Event)} {s : Pool Statement Statement.Reply AppError Response Database Pid}
  {i : Pid} {x : Event}

theorem ReviewRun.mayWrite (hrun : ReviewRun db calls tr s) (hx : (i, x) ∈ tr) :
    (calls i).mayWrite x.1 :=
  hrun.issued (P := fun i s ↦ (calls i).mayWrite s) (fun i ↦ (calls i).handle_writes) hx

/-- One exchange of a request. -/
theorem exec_owned {c : Call} (hwrite : c.mayWrite x.1) (hstep : exec x.1 x.2 m = some m')
    (howned : m.Owned) : m'.Owned := by
  obtain ⟨st, v⟩ := x
  cases exec_effect hstep with
  | look => exact howned
  | record => exact howned
  | delete r f => exact fun b hb ↦ howned b (List.mem_filter.1 hb).1
  | insert r now n =>
    intro b hb
    rcases List.mem_append.1 hb with hb | hb
    · exact howned b hb
    · obtain rfl := List.mem_singleton.1 hb
      obtain ⟨-, -, y, -, -, howns⟩ := hwrite
      exact ⟨y, howns⟩
  | update k r rows hrows hk =>
    intro b hb
    obtain ⟨a, ha, rfl⟩ := List.mem_map.1 hb
    obtain ⟨y, howns⟩ := howned a ha
    refine ⟨y, ?_⟩
    split <;> exact howns

/-- **Every row of a reachable table is about an entity.** -/
theorem ReviewRun.owned (hrun : ReviewRun db calls tr s) (hempty : db.configChanges = [])
    {tr₁ tr₂ : List (Pid × Event)} (hcut : tr = tr₁ ++ tr₂) (hm : TablesAt db tr₁ m) :
    m.Owned := by
  refine execAll_invariant (P := Database.Owned) ?_ hm fun b hb ↦ ?_
  · intro y hy n n' hstep hn
    obtain ⟨⟨j, z⟩, hz, rfl⟩ := List.mem_map.1 hy
    exact exec_owned (hrun.mayWrite (hcut ▸ List.mem_append_left tr₂ hz)) hstep hn
  · rw [hempty] at hb
    cases hb

end Run

/-! ### Within its entities -/

/-- The row lies in the target entity of the edit, or in the one it starts from. -/
def Edit.Covers (e : Edit) (b : ConfigChange) : Prop :=
  ∃ x : Entity, (x ∈ e.entities ∨ x ∈ e.origins) ∧ b.path ∈ x.region

/-- What the edit `e` on the router `id` did to the table in one step. -/
structure Edit.Within (e : Edit) (id : Uuid) (m m' : Database) : Prop where
  removed : ∀ b ∈ m.configChanges, b ∉ m'.configChanges → b.isPending id = true ∧ e.Covers b
  inserted : ∀ b ∈ m'.configChanges, b ∉ m.configChanges →
    b.isPending id = true ∧ e.Covers b ∧ ∃ f ∈ e.filters, f.matches b = true

/-- A row that a filter of the edit matches, and an entity owns, is covered. -/
theorem Edit.covers_of_matches {e : Edit} {f : Filter} {b : ConfigChange} {y : Entity}
    (hf : f ∈ e.filters) (hmatch : f.matches b = true) (howns : y.Owns b.toNew) : e.Covers b := by
  obtain ⟨x, hx, rfl⟩ := Edit.mem_filters_iff.1 hf
  obtain rfl := (filter_matches_iff howns rfl rfl).1 hmatch
  exact ⟨y, hx, howns.path_mem_region⟩

/-- **One exchange of an edit** stays within its entities. -/
theorem exec_within {c : Call} {e : Edit} (hedit : c.request = .edit e) {x : Event}
    {m m' : Database} (hwrite : c.mayWrite x.1) (hstep : exec x.1 x.2 m = some m')
    (howned : m.Owned) : e.Within c.id m m' := by
  obtain ⟨st, v⟩ := x
  cases exec_effect hstep with
  | look => exact ⟨fun b hb hb' ↦ absurd hb hb', fun b hb hb' ↦ absurd hb hb'⟩
  | record => exact ⟨fun b hb hb' ↦ absurd hb hb', fun b hb hb' ↦ absurd hb hb'⟩
  | delete r f =>
    obtain ⟨rfl, hfilter⟩ := hwrite
    refine ⟨fun b hb hb' ↦ ?_, fun b hb hb' ↦ absurd (List.mem_filter.1 hb).1 hb'⟩
    have hhits : f.hits c.id b = true := by
      by_contra hmiss
      exact hb' (List.mem_filter.2 ⟨hb, by simp [hmiss]⟩)
    obtain ⟨hpending, hmatch⟩ := Bool.and_eq_true_iff.1 hhits
    obtain ⟨y, howns⟩ := howned b hb
    exact ⟨hpending, Edit.covers_of_matches (hfilter e hedit) hmatch howns⟩
  | insert r now n =>
    obtain ⟨rfl, e', y, hedit', hy, howns⟩ := hwrite
    obtain rfl := Request.edit.inj (hedit.symm.trans hedit')
    refine ⟨fun b hb hb' ↦ absurd (List.mem_append_left _ hb) hb', fun b hb hb' ↦ ?_⟩
    rcases List.mem_append.1 hb with hold | hnew
    · exact absurd hold hb'
    · obtain rfl := List.mem_singleton.1 hnew
      refine ⟨by simp [ConfigChange.isPending, Database.newChange],
        ⟨y, hy, howns.path_mem_region⟩, y.filter, Edit.mem_filters_iff.2 ⟨y, hy, rfl⟩, ?_⟩
      exact (filter_matches_iff howns rfl rfl).2 rfl
  | update k r rows hrows hk =>
    rw [Call.mayWrite, hedit] at hwrite
    cases hwrite

/-- The edit of a NIC covers no row of a VLAN. -/
theorem Edit.not_covers_vlan {body : EthernetConfigUpdate} {b : ConfigChange}
    (hcovers : (Edit.stageEthernet body).Covers b) (parent : String) (vlanId : Int) :
    b.path ∉ (Entity.vlan parent vlanId).region := by
  obtain ⟨x, hx, hpath⟩ := hcovers
  obtain rfl : x = .nic body.name := by simpa [Edit.entities, Edit.origins] using hx
  intro hvlan
  cases eq_of_mem_region hpath hvlan

/-- The edit of a VLAN covers no row of a NIC. -/
theorem Edit.not_covers_nic {body : VlanConfigUpdate} {b : ConfigChange}
    (hcovers : (Edit.stageVlan body).Covers b) (name : String) :
    b.path ∉ (Entity.nic name).region := by
  obtain ⟨x, hx, hpath⟩ := hcovers
  intro hnic
  obtain rfl := eq_of_mem_region hpath hnic
  cases hmoved : body.movedFrom with
  | none => simp [Edit.entities, Edit.origins, hmoved] at hx
  | some o => simp [Edit.entities, Edit.origins, hmoved] at hx

/-! ### Twice in a row -/

/-- What the tray says, row by row. -/
def Database.trayCommands (db : Database) (id : Uuid) : List (Op × Path) :=
  (db.pending id).map fun b ↦ (b.op, b.path)

/-- A second restage of the same changes leaves what the first left. -/
theorem Edit.Restages.map_eq {e : Edit} {changes : List NewConfigChange}
    {rows rows' rows'' : List ConfigChange} (howns : e.Owns changes)
    (h : e.Restages changes rows rows') (h' : e.Restages changes rows' rows'') :
    rows''.map (fun b ↦ (b.op, b.path)) = rows'.map fun b ↦ (b.op, b.path) := by
  obtain ⟨inserted, hinserted, rfl⟩ := h
  obtain ⟨inserted', hinserted', rfl⟩ := h'
  have hcleared : inserted.filter (fun c ↦ !e.filters.any fun f ↦ f.matches c) = [] := by
    refine List.filter_eq_nil_iff.2 fun b hb ↦ ?_
    obtain ⟨x, hx, hxb⟩ := howns b.toNew (hinserted ▸ List.mem_map_of_mem hb)
    rw [(Edit.clears_iff hxb rfl rfl).2 hx]
    exact Bool.false_ne_true
  have hkey : ∀ l : List ConfigChange, l.map (fun b ↦ (b.op, b.path)) =
      (l.map ConfigChange.toNew).map fun n ↦ (n.op, n.path) := fun l ↦ by
    rw [List.map_map]
    rfl
  rw [List.filter_append, hcleared, List.append_nil, List.filter_filter, List.map_append,
    List.map_append, hkey inserted, hkey inserted', hinserted, hinserted']
  simp only [Bool.and_self]

/-- **The same request again** leaves the tray as it left it, when nothing goes wrong and the device
shows the same config. -/
theorem trayCommands_of_again {L : LiveConfig} {claims : Claims} {id : Uuid} {e : Edit}
    {m m₁ m₂ : Database} {h₁ h₂ : List Event} {r₁ r₂ : Except AppError Response}
    (hfirst : Completes exec (e.handle claims id) m h₁ r₁ m₁)
    (hagain : Completes exec (e.handle claims id) m₁ h₂ r₂ m₂) (hcalm₁ : Calm L h₁)
    (hcalm₂ : Calm L h₂) : m₂.trayCommands id = m₁.trayCommands id := by
  have hlookup : e.staged m₁ L claims id = e.staged m L claims id := by
    rw [Edit.staged, Edit.staged, lookup_eq_of_completes hfirst]
  rcases Edit.restages hagain hcalm₂ with
    ⟨err, -, -, rfl⟩ | ⟨changes, b, hstaged, -, hrestages⟩
  · rfl
  · rcases Edit.restages hfirst hcalm₁ with
      ⟨err, hrefused, -, -⟩ | ⟨changes', b', hstaged', -, hrestages'⟩
    · rw [hlookup, hrefused] at hstaged
      cases hstaged
    · obtain rfl := Except.ok.inj (hstaged'.symm.trans (hlookup.symm.trans hstaged))
      exact Edit.Restages.map_eq (fun c hc ↦ Edit.diff_owned hstaged' hc) hrestages' hrestages

/-- **A staging request touches only its own entities**, and does so once. In every run from an
empty table each of its steps takes out pending rows of its entities only, and puts in rows of its
entities that its own filters match, so that a NIC and a VLAN leave each other's rows alone; and the
same request again leaves the same tray. -/
theorem stays_within {Pid : Type} [DecidableEq Pid] {db : Database} {calls : Pid → Call}
    {tr tr₁ tr₂ : List (Pid × Event)}
    {s : Pool Statement Statement.Reply AppError Response Database Pid} {i : Pid} {e : Edit}
    {x : Event} {m m' : Database} (hempty : db.configChanges = [])
    (hrun : ReviewRun db calls tr s) (hedit : (calls i).request = .edit e)
    (hcut : tr = tr₁ ++ (i, x) :: tr₂) (hm : TablesAt db tr₁ m)
    (hstep : exec x.1 x.2 m = some m') :
    e.Within (calls i).id m m' ∧
    (∀ body, e = .stageEthernet body → ∀ b ∈ m.configChanges, b ∉ m'.configChanges →
      ∀ parent vlanId, b.path ∉ (Entity.vlan parent vlanId).region) ∧
    (∀ body, e = .stageVlan body → ∀ b ∈ m.configChanges, b ∉ m'.configChanges →
      ∀ name, b.path ∉ (Entity.nic name).region) ∧
    ∀ (L : LiveConfig) (n n₁ n₂ : Database) (h₁ h₂ : List Event)
      (r₁ r₂ : Except AppError Response), Completes exec (calls i).handle n h₁ r₁ n₁ →
      Completes exec (calls i).handle n₁ h₂ r₂ n₂ → Calm L h₁ → Calm L h₂ →
      n₂.trayCommands (calls i).id = n₁.trayCommands (calls i).id := by
  have hwithin : e.Within (calls i).id m m' :=
    exec_within hedit (hrun.mayWrite (hcut ▸ List.mem_append_right tr₁ List.mem_cons_self)) hstep
      (hrun.owned hempty hcut hm)
  refine ⟨hwithin, ?_, ?_, fun L n n₁ n₂ h₁ h₂ r₁ r₂ hfirst hagain hcalm₁ hcalm₂ ↦ ?_⟩
  · rintro body rfl b hb hb'
    exact Edit.not_covers_vlan (hwithin.removed b hb hb').2
  · rintro body rfl b hb hb'
    exact Edit.not_covers_nic (hwithin.removed b hb hb').2
  · have hhandle : (calls i).handle = e.handle (calls i).claims (calls i).id := by
      rw [Call.handle, hedit]
    rw [hhandle] at hfirst hagain
    exact trayCommands_of_again hfirst hagain hcalm₁ hcalm₂

/-- The delete of a VLAN, up to its insert. -/
def sampleClear : List (Unit × Event) :=
  [((), ⟨.deletePending 0 (.vif (vifBase "eth1" 0)), .ok (0 : ℕ)⟩)]

/-- Staged into an empty table it puts in the one row. -/
theorem stays_within_deleted : ∃ m', exec (.insertChange 0 (sampleChange 0)) (.ok (sampleRow 0))
      (sampleDatabase []) = some m' ∧
    (Edit.deleteVlan ⟨"eth1", 0⟩).Within 0 (sampleDatabase []) m' := by
  obtain ⟨s, hrun⟩ : ∃ s, ReviewRun (sampleDatabase [])
      (fun _ ↦ ⟨sampleAdmin, 0, .edit (.deleteVlan ⟨"eth1", 0⟩)⟩)
      (sampleClear ++ [((), ⟨.insertChange 0 (sampleChange 0), .ok (sampleRow 0)⟩)]) s :=
    ⟨_, Run.step () _ rfl rfl <| Run.step () _ rfl rfl <| Run.nil _⟩
  have hclear : TablesAt (sampleDatabase []) sampleClear (sampleDatabase []) := rfl
  exact ⟨_, rfl, (stays_within rfl hrun rfl rfl hclear rfl).1⟩

end VyosFabric
