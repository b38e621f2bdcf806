import VyosFabric.Review.History
import VyosFabric.Review.Restaging
import VyosFabric.Sorting.Ties

/-!
# The order of a request in a batch

A diff is a list of commands in an order that matters: a node is deleted before it is set anew. Its
rows are inserted in that order, but a commit reads the tray back sorted by `created_at` alone, and
rows with equal timestamps come in any order.

So a batch keeps the order of every request just if no two pending rows of a request with equal
timestamps stand for different commands (`emission_kept_iff`).
-/

namespace VyosFabric

open Interaction Sorting

/-! ### What a commit sends -/

/-- A commit that finds the tables `m` sends the rows. -/
def SendsRows (m : Database) (id : Uuid) (rows : List ConfigChange) : Prop :=
  ∃ claims h r n client v, Completes exec (commit claims id) m h r n ∧
    (⟨.configure client rows, v⟩ : Event) ∈ h

section Sent

variable {m n : Database} {id : Uuid} {rows rows' : List ConfigChange} {claims : Claims}
  {h : List Event} {r : Except AppError Response} {client : VyosClient} {v : Except Fault Json}

/-- **What is sent** is the tray, sorted by `created_at`. -/
theorem orderedBy_of_sent (hcommit : Completes exec (commit claims id) m h r n)
    (hsent : (⟨.configure client rows, v⟩ : Event) ∈ h) :
    OrderedBy ConfigChange.createdAt (m.pending id) rows := by
  obtain ⟨q, hf, -⟩ := hcommit.ends
  have hpath := follows_commit hf
  have hexec := execAll_visible (fun _ _ _ _ ↦ exec_eq_of_silent) hcommit.execs
  have hvis : (⟨.configure client rows, v⟩ : Event) ∈ Prog.visible Statement.touches h :=
    Prog.mem_visible.2 ⟨hsent, rfl⟩
  obtain ⟨h₁, h₂, hsplit⟩ := List.append_of_mem hvis
  rw [hsplit] at hpath hexec
  obtain ⟨-, rfl, -⟩ := hpath.before_configure
  obtain ⟨m', hread, -⟩ := execAll_cons_eq_some.1 hexec
  obtain ⟨⟨hperm, hsorted⟩, -⟩ := of_guarded hread
  exact ⟨hperm, hsorted⟩

theorem not_sent_of_silent {α : Type} {p q : Handler α} (hp : p.Silent Statement.touches)
    (hf : Prog.Follows p h q) : (⟨.configure client rows, v⟩ : Event) ∉ h := fun hsent ↦ by
  have hvis : (⟨.configure client rows, v⟩ : Event) ∈ Prog.visible Statement.touches h :=
    Prog.mem_visible.2 ⟨hsent, rfl⟩
  rw [hp.visible_eq_nil hf] at hvis
  cases hvis

/-- What only looks leaves the tables alone. -/
theorem execAll_silent {α : Type} {p q : Handler α} (hp : p.Silent Statement.touches)
    (hf : Prog.Follows p h q) (hexec : execAll exec h m = some n) : n = m := by
  have hvis := execAll_visible (fun _ _ _ _ ↦ exec_eq_of_silent) hexec
  rw [hp.visible_eq_nil hf] at hvis
  exact (Option.some.inj hvis).symm

/-- What a commit has done up to the batch: it was let in, read the tray, and found the device. -/
theorem reads_of_sent (hcommit : Completes exec (commit claims id) m h r n)
    (hsent : (⟨.configure client rows, v⟩ : Event) ∈ h) :
    ∃ a s s' client', Prog.Follows (authorizeRouter claims id) s (.ret a) ∧
      execAll exec s m = some m ∧ Prog.Follows (fetchClient claims id) s' (.ret client') ∧
      execAll exec s' m = some m ∧ m.pending id ≠ [] := by
  obtain ⟨q, hf, -⟩ := hcommit.ends
  have hexec := hcommit.execs
  rcases Prog.follows_bind hf with ⟨p', hp', -, -⟩ | ⟨s, h', a, rfl, hauth, hf'⟩
  · exact absurd hsent (not_sent_of_silent (authorizeRouter_inspects claims id).silent hp')
  · have hsent' := (List.mem_append.1 hsent).resolve_left
      (not_sent_of_silent (authorizeRouter_inspects claims id).silent hauth)
    obtain ⟨m₁, hs, hrest⟩ := execAll_append_eq_some.1 hexec
    obtain rfl := execAll_silent (authorizeRouter_inspects claims id).silent hauth hs
    rcases follows_sql_bind hf' with ⟨rfl, -⟩ | ⟨e, rfl, -⟩ | ⟨read, h₁, rfl, hf₁⟩
    · cases hsent'
    · simp at hsent'
    · obtain ⟨m₂, hread, hafter⟩ := execAll_cons_eq_some.1 hrest
      obtain ⟨hperm, rfl⟩ := exec_selectPending hread
      have hsent₁ : (⟨.configure client rows, v⟩ : Event) ∈ h₁ := by simpa using hsent'
      cases read with
      | nil =>
        obtain ⟨rfl, -⟩ := Prog.follows_fail.1 hf₁
        cases hsent₁
      | cons c cs =>
        have hne : m₂.pending id ≠ [] := fun hnil ↦ by
          rw [hnil] at hperm
          cases hperm.eq_nil
        rcases Prog.follows_bind hf₁ with ⟨p', hp', -, -⟩ | ⟨s', h₂, client', rfl, hfetch, -⟩
        · exact absurd hsent₁ (not_sent_of_silent (fetchClient_inspects claims id).silent hp')
        · obtain ⟨m₃, hs', -⟩ := execAll_append_eq_some.1 hafter
          obtain rfl := execAll_silent (fetchClient_inspects claims id).silent hfetch hs'
          exact ⟨a, s, s', client', hauth, hs, hfetch, hs', hne⟩

/-- **Whoever may send the tray** in one order may send it in another. -/
theorem sendsRows_of_orderedBy (hsends : SendsRows m id rows')
    (hrows : OrderedBy ConfigChange.createdAt (m.pending id) rows) : SendsRows m id rows := by
  obtain ⟨claims, h, r, n, client, v, hcommit, hsent⟩ := hsends
  obtain ⟨a, s, s', client', hauth, hs, hfetch, hs', hne⟩ := reads_of_sent hcommit hsent
  have hread : exec (.selectPending id) (.ok rows) m = some m := if_pos ⟨hrows.perm, hrows.sorted⟩
  refine ⟨claims, s ++ ⟨.selectPending id, .ok rows⟩ :: (s' ++ [⟨.configure client' rows,
    .error ⟨"", .unsent⟩⟩]), .error (.gateway ""), m, client', .error ⟨"", .unsent⟩, ⟨?_, ?_⟩,
    by simp⟩
  · cases rows with
    | nil => exact absurd hrows.perm.nil_eq.symm hne
    | cons c cs =>
      refine ⟨.fail (.gateway ""), hauth.bind (.call _ (hfetch.bind (.call _ (.nil _)))), rfl⟩
  · exact execAll_append_eq_some.2 ⟨m, hs, execAll_cons_eq_some.2 ⟨m, hread,
      execAll_append_eq_some.2 ⟨m, hs', rfl⟩⟩⟩

end Sent

/-! ### What a run inserts -/

section Inserts

variable {m db db' : Database} {id : Uuid} {h : List Event} {x : Event} {row : ConfigChange}
  {tr : List (Served Statement.Reply AppError Response Call)}

/-- Marking takes rows from trays, and changes none that stays. -/
theorem pending_markCommitted_sublist (k r : Uuid) :
    ({ db with configChanges := db.markCommitted k r } : Database).pending id |>.Sublist
      (db.pending id) := by
  have hkeep (c : ConfigChange) (hc : (if c.isPending r then c.mark k else c).isPending id = true) :
      (if c.isPending r then c.mark k else c) = c := by
    by_cases hp : c.isPending r = true
    · rw [if_pos hp] at hc
      simp [ConfigChange.isPending, ConfigChange.mark] at hc
    · rw [if_neg hp]
  show ((db.configChanges.map _).filter _).Sublist _
  have hmap : (db.configChanges.map fun c ↦ if c.isPending r then c.mark k else c).filter
      (fun c ↦ c.isPending id) = db.configChanges.filter fun c ↦
        (if c.isPending r then c.mark k else c).isPending id := by
    rw [List.filter_map]
    refine (List.map_congr_left fun c hc ↦ ?_).trans (List.map_id _)
    exact hkeep c (List.mem_filter.1 hc).2
  rw [hmap]
  refine List.monotone_filter_right _ fun c hc ↦ ?_
  rwa [hkeep c hc] at hc

/-- One statement takes rows from a tray, or adds the one it inserts. -/
theorem pending_sublist_of_exec (hstep : exec x.1 x.2 db = some db') :
    (db'.pending id).Sublist (db.pending id ++ (insertedRow x).toList) := by
  cases hmarks : x.1.marks with
  | false =>
    rw [Database.pending, configChanges_of_exec hstep hmarks, List.filter_append]
    exact (List.filter_sublist.filter _).append List.filter_sublist
  | true =>
    obtain ⟨s, v⟩ := x
    cases exec_effect hstep with
    | update k r rows =>
      exact (pending_markCommitted_sublist k r).trans (List.sublist_append_left _ _)
    | look => exact List.sublist_append_left _ _
    | _ => cases hmarks

theorem pending_sublist (hexec : execAll exec h db = some m) :
    (m.pending id).Sublist (db.pending id ++ insertsOf h) := by
  induction h generalizing db with
  | nil =>
    obtain rfl := Option.some.inj hexec
    rw [insertsOf_nil, List.append_nil]
  | cons x h ih =>
    obtain ⟨n, hstep, hrest⟩ := execAll_cons_eq_some.1 hexec
    rw [insertsOf_cons, ← List.append_assoc]
    exact (ih hrest).trans ((pending_sublist_of_exec hstep).append_right _)

/-- An inserted row takes the next identifier. -/
theorem id_of_insertedRow (hstep : exec x.1 x.2 db = some db') (hx : insertedRow x = some row) :
    row.id = db.nextChange ∧ db'.nextChange = db.nextChange + 1 := by
  unfold insertedRow at hx
  split at hx
  · obtain rfl := Option.some.inj hx
    obtain ⟨hrow, -, hnext⟩ := insertedRow_eq hstep
    exact ⟨by rw [hrow]; rfl, hnext⟩
  · cases hx

/-- The rows of a run have identifiers of their own, above those there were. -/
theorem insertsOf_id (hexec : execAll exec h db = some m) :
    (∀ row ∈ insertsOf h, db.nextChange ≤ row.id) ∧
      (insertsOf h).Pairwise fun c d ↦ c.id < d.id := by
  induction h generalizing db with
  | nil => simp
  | cons x h ih =>
    obtain ⟨n, hstep, hrest⟩ := execAll_cons_eq_some.1 hexec
    obtain ⟨hge, hids⟩ := ih hrest
    rw [insertsOf_cons]
    cases hx : insertedRow x with
    | none =>
      exact ⟨fun row hrow ↦ (exec_nextChange_le hstep).trans (hge row hrow), hids⟩
    | some row =>
      obtain ⟨hid, hnext⟩ := id_of_insertedRow hstep hx
      rw [hnext] at hge
      have hlt : ∀ d ∈ insertsOf h, row.id < d.id := fun d hd ↦ hid ▸ Nat.lt_of_succ_le (hge d hd)
      refine ⟨fun d hd ↦ ?_, List.pairwise_cons.2 ⟨hlt, hids⟩⟩
      rcases List.mem_cons.1 hd with rfl | hd
      · exact hid.ge
      · exact (Nat.le_succ _).trans (hge d hd)

theorem nodup_pending_insertsOf (hdb : db.WellFormed) (hexec : execAll exec h db = some m) :
    (db.pending id ++ insertsOf h).Nodup := by
  obtain ⟨hge, hids⟩ := insertsOf_id hexec
  refine List.nodup_append.2 ⟨hdb.pending_nodup id, hids.imp fun {c d} hlt heq ↦ ?_, ?_⟩
  · exact absurd (congrArg ConfigChange.id heq) hlt.ne
  · rintro c hc d hd rfl
    exact absurd (hge c hd) (not_le.2 (hdb.changeId_lt c (Database.mem_pending.1 hc).1))

theorem execAll_of_serial (hrun : Serial exec Call.handle db tr m) :
    execAll exec (tr.flatMap Served.events) db = some m := by
  induction hrun with
  | nil => rfl
  | cons hx _ ih => exact execAll_append_eq_some.2 ⟨_, hx.execs, ih⟩

end Inserts

/-! ### Requests in a batch -/

section Requests

variable (x : Served Statement.Reply AppError Response Call)

/-- The commands of the request's rows stand in a batch as the rows were inserted. -/
def KeepsOrder (rows : List ConfigChange) : Prop :=
  (rows.filter fun c ↦ decide (c ∈ insertsOf x.events)).map ConfigChange.command =
    ((insertsOf x.events).filter fun c ↦ decide (c ∈ rows)).map ConfigChange.command

/-- Pending rows of the request that were inserted at the same time stand for the same command. -/
def TiesAgree (m : Database) (id : Uuid) : Prop :=
  ∀ c ∈ insertsOf x.events, ∀ d ∈ insertsOf x.events, c ∈ m.pending id → d ∈ m.pending id →
    c.createdAt = d.createdAt → c.command = d.command

/-- If the request stages and was answered, it has inserted what its diff emitted. -/
def InsertsDiff : Prop :=
  ∀ e b, x.request.request = .edit e → x.answer = .ok b →
    ∃ reads changes, reads <+: x.events ∧
      Prog.Follows (e.diff x.request.claims x.request.id) reads (.ret changes) ∧
      (insertsOf x.events).map ConfigChange.toNew = changes

end Requests

section Emission

variable {db m m' : Database} {id : Uuid} {rows : List ConfigChange}
  {x : Served Statement.Reply AppError Response Call}
  {tr : List (Served Statement.Reply AppError Response Call)}

/-- **The rows of a request** are those of the diff, in the order of the diff. -/
theorem insertsDiff_of_completes
    (hx : Completes exec x.request.handle m x.events x.answer m') : InsertsDiff x := by
  intro e b hreq hanswer
  obtain ⟨q, hf, hq⟩ := hx.ends
  rw [hanswer, Prog.outcome_eq_ok] at hq
  rw [Call.handle, hreq] at hf
  obtain ⟨changes, o, hs, hend⟩ := follows_edit_writes hf
  obtain ⟨rfl, reads, writes, hsplit, hreads⟩ := hend b hq
  refine ⟨reads, changes, hsplit ▸ List.prefix_append _ _, hreads, ?_⟩
  rw [← insertsOf_visible]
  exact toNew_insertsOf hs fun r c row hmem ↦ toNew_of_insert hx.execs (Prog.mem_visible.1 hmem).1

/-- The rows of a request are a part of those of the run. -/
theorem insertsOf_sublist (hx : x ∈ tr) :
    (insertsOf x.events).Sublist (insertsOf (tr.flatMap Served.events)) := by
  rw [List.flatMap_def]
  exact (List.sublist_flatten_of_mem (List.mem_map_of_mem hx)).filterMap _

/-- What a request has left in the tray stands there as it was inserted. -/
theorem pending_filter_eq (id : Uuid) (hdb : db.WellFormed)
    (hrun : Serial exec Call.handle db tr m) (hx : x ∈ tr) :
    ((m.pending id).filter fun c ↦ decide (c ∈ insertsOf x.events)) =
      (insertsOf x.events).filter fun c ↦ decide (c ∈ m.pending id) := by
  have hexec := execAll_of_serial hrun
  exact filter_part_eq (nodup_pending_insertsOf hdb hexec) (pending_sublist hexec)
    ((insertsOf_sublist hx).trans (List.sublist_append_right _ _))

/-- A request keeps its order in all the batches just if its ties agree. -/
theorem keepsOrder_iff (hdb : db.WellFormed) (hrun : Serial exec Call.handle db tr m)
    (hclock : (insertsOf (tr.flatMap Served.events)).Pairwise fun c d ↦ c.createdAt ≤ d.createdAt)
    (hx : x ∈ tr) :
    (∀ rows, OrderedBy ConfigChange.createdAt (m.pending id) rows → KeepsOrder x rows) ↔
      TiesAgree x m id := by
  have hpending := pending_filter_eq id hdb hrun hx
  have hsorted : ((m.pending id).filter fun c ↦ decide (c ∈ insertsOf x.events)).Pairwise
      fun c d ↦ c.createdAt ≤ d.createdAt := by
    rw [hpending]
    exact (hclock.sublist (insertsOf_sublist hx)).filter _
  have hkeeps {rows : List ConfigChange}
      (hrows : OrderedBy ConfigChange.createdAt (m.pending id) rows) : KeepsOrder x rows ↔
        (rows.filter fun c ↦ decide (c ∈ insertsOf x.events)).map ConfigChange.command =
          ((m.pending id).filter fun c ↦ decide (c ∈ insertsOf x.events)).map
            ConfigChange.command := by
    rw [KeepsOrder, hpending]
    simp only [hrows.perm.mem_iff]
  have hties := map_filter_eq_iff (f := ConfigChange.command) hsorted
  constructor
  · intro h c hc d hd hmemc hmemd hat
    exact hties.1 (fun rows hrows ↦ (hkeeps hrows).1 (h rows hrows))
      c (List.mem_filter.2 ⟨hmemc, decide_eq_true hc⟩)
      d (List.mem_filter.2 ⟨hmemd, decide_eq_true hd⟩) hat
  · intro h rows hrows
    refine (hkeeps hrows).2 (hties.2 (fun c hc d hd hat ↦ ?_) rows hrows)
    obtain ⟨hmemc, hc⟩ := List.mem_filter.1 hc
    obtain ⟨hmemd, hd⟩ := List.mem_filter.1 hd
    exact h c (of_decide_eq_true hc) d (of_decide_eq_true hd) hmemc hmemd hat

/-- **A batch keeps the order of every request** just if pending rows of a request with equal
timestamps do not differ in their commands. The clock of the database does not go backwards over the
run; the order of a request is that of its diff. -/
theorem emission_kept_iff (hdb : db.WellFormed) (hrun : Serial exec Call.handle db tr m)
    (hclock : (insertsOf (tr.flatMap Served.events)).Pairwise fun c d ↦ c.createdAt ≤ d.createdAt)
    (hsends : ∃ rows, SendsRows m id rows) :
    (∀ x ∈ tr, InsertsDiff x) ∧
      ((∀ rows, SendsRows m id rows → ∀ x ∈ tr, KeepsOrder x rows) ↔
        ∀ x ∈ tr, TiesAgree x m id) := by
  constructor
  · intro x hx
    obtain ⟨tr₁, tr₂, rfl⟩ := List.append_of_mem hx
    obtain ⟨n, -, hrest⟩ := trace_append.1 hrun
    obtain ⟨n', hstep, -⟩ := trace_cons.1 hrest
    exact insertsDiff_of_completes hstep
  · obtain ⟨rows₀, hrows₀⟩ := hsends
    constructor
    · intro h x hx
      refine (keepsOrder_iff hdb hrun hclock hx).1 fun rows hrows ↦ ?_
      exact h rows (sendsRows_of_orderedBy hrows₀ hrows) x hx
    · rintro h rows ⟨claims, g, r, n, client, v, hcommit, hsent⟩ x hx
      exact (keepsOrder_iff hdb hrun hclock hx).2 (h x hx) rows (orderedBy_of_sent hcommit hsent)

end Emission

/-! ### An interface that is switched to a group -/

/-- Source rule 10 goes out through the interface `eth0`. -/
def natResponse : Json :=
  .obj [("success", .bool true), ("data", .obj [("source", .obj [("rule", .obj [("10",
    .obj [("outbound-interface", .obj [("name", .str "eth0")])])])])])]

/-- It shall go out through the group `WAN`. -/
def switchBody : Nat44RuleUpdate where
  sect := "source"
  rule := 10
  description := none
  interface := some "WAN"
  interfaceGroup := true
  sourceAddress := none
  sourcePort := none
  destinationAddress := none
  destinationPort := none
  translationAddress := none
  translationPort := none
  protocol := none
  exclude := false
  log := false
  enabled := true
  originalRule := none

def dropInterface : NewConfigChange :=
  ⟨.delete, ["nat", "source", "rule", "10", "outbound-interface"],
    "Source rule 10: remove outbound-interface", .nat, some 1⟩

def setGroup : NewConfigChange :=
  ⟨.set, ["nat", "source", "rule", "10", "outbound-interface", "group", "WAN"],
    "Source rule 10: outbound-interface group → WAN", .nat, some 1⟩

/-- Their rows, inserted at `t₀` and `t₁`. -/
def switchRows (t₀ t₁ : Timestamp) : List ConfigChange :=
  [(sampleDatabase []).newChange 0 t₀ dropInterface,
    { sampleDatabase [] with nextChange := 1 }.newChange 0 t₁ setGroup]

def switchReads : List Event :=
  [⟨.selectRouter 0, .ok (some sampleRouter)⟩,
    ⟨.showConfig sampleClient ["nat"], .ok natResponse⟩]

def switchWrites (t₀ t₁ : Timestamp) : List Event :=
  [⟨.deletePending 0 (.rule (ruleBase "source" 10)), .ok (0 : ℕ)⟩,
    ⟨.insertChange 0 dropInterface, .ok ((sampleDatabase []).newChange 0 t₀ dropInterface)⟩,
    ⟨.insertChange 0 setGroup,
      .ok ({ sampleDatabase [] with nextChange := 1 }.newChange 0 t₁ setGroup)⟩]

/-- The request that stages the switch. -/
def servedSwitch (t₀ t₁ : Timestamp) : Served Statement.Reply AppError Response Call where
  request := ⟨sampleAdmin, 0, .edit (.stageNat44 switchBody)⟩
  events := switchReads ++ switchWrites t₀ t₁
  answer := .ok (.changes (switchRows t₀ t₁))

theorem diffNat44_switch :
    diffNat44 (natResponse.idx "data") switchBody 1 = [dropInterface, setGroup] := by
  decide

theorem completes_servedSwitch (t₀ t₁ : Timestamp) :
    Completes exec (servedSwitch t₀ t₁).request.handle (sampleDatabase [])
      (servedSwitch t₀ t₁).events (servedSwitch t₀ t₁).answer
      (sampleDatabase (switchRows t₀ t₁)) := by
  have hreads : Prog.Follows ((Edit.stageNat44 switchBody).diff sampleAdmin 0) switchReads
      (.ret (diffNat44 (natResponse.idx "data") switchBody 1)) := .call _ (.call _ (.nil _))
  rw [diffNat44_switch] at hreads
  have hwrites : Prog.Follows (restage 0 (Edit.stageNat44 switchBody).filters
      [dropInterface, setGroup]) (switchWrites t₀ t₁) (.ret (.changes (switchRows t₀ t₁))) :=
    .call _ (.call _ (.call _ (.nil _)))
  have hfollows := hreads.bind hwrites
  rw [← Edit.handle_eq] at hfollows
  refine ⟨⟨_, hfollows, rfl⟩, ?_⟩
  refine execAll_cons_eq_some.2 ⟨_, rfl, execAll_cons_eq_some.2 ⟨_, rfl,
    execAll_cons_eq_some.2 ⟨_, rfl, ?_⟩⟩⟩
  exact execAll_cons_eq_some.2 ⟨_, if_pos rfl, execAll_cons_eq_some.2 ⟨_, if_pos rfl, rfl⟩⟩

/-- The administrator may send the tray in any order that its timestamps allow. -/
theorem sendsRows_switch {t₀ t₁ : Timestamp} {rows : List ConfigChange}
    (hrows : OrderedBy ConfigChange.createdAt (switchRows t₀ t₁) rows) :
    SendsRows (sampleDatabase (switchRows t₀ t₁)) 0 rows := by
  cases rows with
  | nil => cases hrows.perm.nil_eq
  | cons c cs =>
    have hread : exec (.selectPending 0) (.ok (c :: cs)) (sampleDatabase (switchRows t₀ t₁)) =
        some (sampleDatabase (switchRows t₀ t₁)) := if_pos ⟨hrows.perm, hrows.sorted⟩
    have hfollows : Prog.Follows (commit sampleAdmin 0)
        [⟨.selectPending 0, .ok (c :: cs)⟩, ⟨.selectRouter 0, .ok (some sampleRouter)⟩,
          ⟨.configure sampleClient (c :: cs), .error ⟨"", .unsent⟩⟩] (.fail (.gateway "")) :=
      .call _ (.call _ (.call _ (.nil _)))
    exact ⟨sampleAdmin, _, .error (.gateway ""), sampleDatabase (switchRows t₀ t₁), sampleClient,
      .error ⟨"", .unsent⟩, ⟨⟨_, hfollows, rfl⟩, execAll_cons_eq_some.2 ⟨_, hread, rfl⟩⟩, by simp⟩

/-- The switch at two different times: a commit sends its rows, and in their order. -/
theorem emission_kept_switch : SendsRows (sampleDatabase (switchRows 0 1)) 0 (switchRows 0 1) ∧
    KeepsOrder (servedSwitch 0 1) (switchRows 0 1) := by
  have hrun : Serial exec Call.handle (sampleDatabase []) [servedSwitch 0 1]
      (sampleDatabase (switchRows 0 1)) := Trace.cons (completes_servedSwitch 0 1) (Trace.nil _)
  have hsends : SendsRows (sampleDatabase (switchRows 0 1)) 0 (switchRows 0 1) :=
    sendsRows_switch ⟨.refl _, by decide⟩
  have hties : ∀ x ∈ [servedSwitch 0 1], TiesAgree x (sampleDatabase (switchRows 0 1)) 0 := by
    intro x hx
    obtain rfl := List.mem_singleton.1 hx
    unfold TiesAgree
    decide
  have hkept := emission_kept_iff emptyDatabase_consistent.wellFormed hrun (by decide) ⟨_, hsends⟩
  exact ⟨hsends, hkept.2.2 hties _ hsends _ List.mem_cons_self⟩

/-- **Both rows are inserted in one microsecond**, and a commit sends them the other way round: the
group is set, and then the node is deleted with it. -/
theorem not_emission_kept : ¬∀ (db m : Database) (id : Uuid)
    (tr : List (Served Statement.Reply AppError Response Call)), db.WellFormed →
    Serial exec Call.handle db tr m →
    ((insertsOf (tr.flatMap Served.events)).Pairwise fun c d ↦ c.createdAt ≤ d.createdAt) →
    (∀ x ∈ tr, ∃ e b, x.request.request = .edit e ∧ x.answer = .ok b) →
    ∀ rows, SendsRows m id rows → ∀ x ∈ tr, KeepsOrder x rows := by
  intro h
  have hrun : Serial exec Call.handle (sampleDatabase []) [servedSwitch 0 0]
      (sampleDatabase (switchRows 0 0)) := Trace.cons (completes_servedSwitch 0 0) (Trace.nil _)
  have hsends : SendsRows (sampleDatabase (switchRows 0 0)) 0 (switchRows 0 0).reverse :=
    sendsRows_switch ⟨List.reverse_perm _, by decide⟩
  have hkeeps := h _ _ 0 _ emptyDatabase_consistent.wellFormed hrun (by decide) (fun x hx ↦ ?_) _
    hsends (servedSwitch 0 0) List.mem_cons_self
  · exact absurd hkeeps (by unfold KeepsOrder; decide)
  · obtain rfl := List.mem_singleton.1 hx
    exact ⟨_, _, rfl, rfl⟩

end VyosFabric
