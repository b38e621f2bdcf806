import VyosFabric.Diff.Regions
import VyosFabric.Interaction.Serial
import VyosFabric.Review.Emission
import VyosFabric.Review.Superseding

/-!
# Independent edits converge

Edits of pairwise different entities, none of them a move, made one after the other on an empty tray
and then committed. No edit clears a row of another, so the batch is the diffs in the order of the
requests (`pending_of_serial`). The diffs are independent parts of the batch (`independent_staged`):
entities have disjoint regions, except that a VLAN brings its NIC into being, which nothing drops.
So the order of the requests does not matter, and at each entity the batch does what that request
alone would do (`converges`).
-/

namespace VyosFabric

open Interaction PathTree

/-! ### Requests and what they stage -/

/-- The entities a request is about. -/
def Call.entities (c : Call) : List Entity :=
  match c.request with
  | .edit e => e.entities
  | _ => []

/-- What a request stages, the tables being `db` and the config `L`; nothing if it is refused. -/
def Call.staged (db : Database) (L : LiveConfig) (c : Call) : List NewConfigChange :=
  match c.request with
  | .edit e => (e.staged db L c.claims c.id).toOption.getD []
  | _ => []

/-- The edits of what a request stages. -/
def Call.part (db : Database) (L : LiveConfig) (c : Call) : List (PathTree.Edit String) :=
  (c.staged db L).map NewConfigChange.edit

/-- Edits on router `id`, none of them a move, of pairwise different entities. -/
structure IndependentEdits (id : Uuid) (calls : List Call) : Prop where
  edits : ∀ c ∈ calls, c.id = id ∧ ∃ e, c.request = .edit e ∧ e.origins = e.entities
  disjoint : calls.Pairwise fun c d ↦ c.entities.Disjoint d.entities

section Calls

variable {L : LiveConfig} {db m : Database} {id : Uuid} {calls calls' : List Call} {c d : Call}
  {schema : Schema} {q : Path} {x : Entity}

theorem IndependentEdits.perm (h : IndependentEdits id calls) (hperm : calls.Perm calls') :
    IndependentEdits id calls' where
  edits c hc := h.edits c (hperm.mem_iff.2 hc)
  disjoint := (hperm.pairwise_iff fun hcd ↦ hcd.symm).1 h.disjoint

/-- A request is the only one about its entities. -/
theorem IndependentEdits.eq_of_mem (h : IndependentEdits id calls) (hc : c ∈ calls) (hd : d ∈ calls)
    (hxc : x ∈ c.entities) (hxd : x ∈ d.entities) : c = d := by
  by_contra hne
  have hsymm : Std.Symm fun c d : Call ↦ c.entities.Disjoint d.entities := ⟨fun _ _ hcd ↦ hcd.symm⟩
  exact h.disjoint.forall hc hd hne hxc hxd

theorem IndependentEdits.nodup (h : IndependentEdits id calls) : calls.Nodup := by
  refine h.disjoint.imp_of_mem fun {c d} hc _ hdisjoint heq ↦ ?_
  subst heq
  obtain ⟨-, e, hreq, -⟩ := h.edits c hc
  obtain ⟨x, hx⟩ := List.exists_mem_of_ne_nil _ e.entities_ne_nil
  have hx : x ∈ c.entities := by rwa [Call.entities, hreq]
  exact hdisjoint hx hx

/-- What a request that is no move stages is about its entities. -/
theorem IndependentEdits.owned (h : IndependentEdits id calls) (hc : c ∈ calls)
    {n : NewConfigChange} (hn : n ∈ c.staged db L) : ∃ x ∈ c.entities, x.Owns n := by
  obtain ⟨-, e, hreq, horigins⟩ := h.edits c hc
  rw [Call.staged, hreq] at hn
  rw [Call.entities, hreq]
  cases hstaged : e.staged db L c.claims c.id with
  | error err =>
    simp [hstaged, Except.toOption] at hn
  | ok changes =>
    simp only [hstaged, Except.toOption, Option.getD_some] at hn
    obtain ⟨x, hx, howns⟩ := Edit.diff_owned hstaged hn
    rw [horigins, or_self] at hx
    exact ⟨x, hx, howns⟩

/-! ### The parts are independent -/

/-- A part drops nodes of its entities' regions only, and no NIC. -/
theorem IndependentEdits.of_drops (h : IndependentEdits id calls) (hc : c ∈ calls)
    {u : PathTree.Edit String} (hu : u ∈ c.part db L) (hdrops : u.drops schema.single q) :
    (∃ x ∈ c.entities, q ∈ x.region) ∧ ∀ name, q ≠ ethBase name := by
  obtain ⟨n, hn, rfl⟩ := List.mem_map.1 hu
  obtain ⟨x, hx, howns⟩ := h.owned hc hn
  refine ⟨⟨x, hx, howns.mem_region_of_drops hdrops⟩, ?_⟩
  rintro name rfl
  exact howns.not_drops_ethBase hdrops

/-- Off the NICs themselves, a part touches regions of its own entities only. -/
theorem IndependentEdits.mem_of_touches (h : IndependentEdits id calls) (hd : d ∈ calls)
    {u : PathTree.Edit String} (hu : u ∈ d.part db L) (htouches : u.touches schema.single q)
    (hq : q ∈ x.region) (hnic : ∀ name, q ≠ ethBase name) : x ∈ d.entities := by
  obtain ⟨n, hn, rfl⟩ := List.mem_map.1 hu
  obtain ⟨y, hy, howns⟩ := h.owned hd hn
  rcases htouches with hadds | hdrops
  · rcases howns.adds_cases hadds hq with rfl | ⟨name, -, hname⟩
    · exact hy
    · exact absurd hname (hnic name)
  · obtain rfl := eq_of_mem_region (howns.mem_region_of_drops hdrops) hq
    exact hy

/-- So at a path of a request's entity, off the NICs themselves, no other request has a say. -/
theorem IndependentEdits.untouched (h : IndependentEdits id calls) (hc : c ∈ calls)
    (hx : x ∈ c.entities) (hq : q ∈ x.region) (hnic : ∀ name, q ≠ ethBase name) :
    ∀ d ∈ calls, d ≠ c → ∀ u ∈ d.part db L, ¬u.touches schema.single q := by
  intro d hd hne u hu htouches
  exact hne (h.eq_of_mem hd hc (h.mem_of_touches hd hu htouches hq hnic) hx)

/-- **The diffs of independent edits are independent parts** of a batch. -/
theorem independent_staged (h : IndependentEdits id calls) :
    Independent schema.single (Call.part db L) calls := by
  intro q
  by_cases hcases : (∃ c ∈ calls, ∃ x ∈ c.entities, q ∈ x.region) ∧ ∀ name, q ≠ ethBase name
  · obtain ⟨⟨c, hc, x, hx, hq⟩, hnic⟩ := hcases
    exact Or.inr ⟨c, hc, h.untouched hc hx hq hnic⟩
  · refine Or.inl fun c hc u hu hdrops ↦ hcases ?_
    obtain ⟨⟨x, hx, hq⟩, hnic⟩ := h.of_drops hc hu hdrops
    exact ⟨⟨c, hc, x, hx, hq⟩, hnic⟩

end Calls

/-! ### NICs -/

section Nics

variable {L : LiveConfig} {db : Database} {claims : Claims} {id : Uuid}

/-- What the interface map of a live config holds is there. -/
theorem ethBase_mem_nodes {eth w : Json} {name : String}
    (h : (interfaceConfig claims id "ethernet").eval (db.lookup L) = .ok eth)
    (hlive : eth.get name = some w) : ethBase name ∈ L.nodes := by
  rcases of_eval_interfaceConfig h with ⟨hsucceeded, rfl⟩ | ⟨-, rfl⟩
  · refine @LiveConfig.mem_nodes L ["interfaces"] ["ethernet", name] w hsucceeded ?_
    cases heth : ((L.reply ["interfaces"]).idx "data").get "ethernet" with
    | none =>
      rw [Json.idx, heth] at hlive
      cases hlive
    | some u =>
      rw [Json.idx, heth] at hlive
      show (((L.reply ["interfaces"]).idx "data").get "ethernet").bind (Json.subtree [name]) =
        some w
      rw [heth]
      show (u.get name).bind (Json.subtree []) = some w
      rw [show u.get name = some w from hlive]
      rfl
  · -- an empty interface map holds no NIC
    cases hlive

/-- A NIC that is edited is there, or its edit brings it into being. -/
theorem Edit.nic_placed {e : Edit} {name : String} {changes : List NewConfigChange}
    (hx : Entity.nic name ∈ e.entities) (h : e.staged db L claims id = .ok changes) :
    ethBase name ∈ L.nodes ∨ ∃ n ∈ changes, n.edit.adds (ethBase name) := by
  cases Edit.stages_of_diff h with
  | @stageEthernet body eth hname heth =>
    obtain rfl : name = body.name := by simpa [Edit.entities] using hx
    cases hlive : eth.get body.name with
    | some w => exact Or.inl (ethBase_mem_nodes heth hlive)
    | none =>
      obtain ⟨n, hn, hset⟩ := exists_set_of_mem_diffEthernet hlive claims.sub
      obtain ⟨-, r, hpath, -⟩ := diffEthernet_owned eth body claims.sub n hn
      refine Or.inr ⟨n, hn, adds_edit.2 ⟨hset, ?_⟩⟩
      rw [hpath]
      exact List.prefix_append _ _
  | _ => simp [Edit.entities] at hx

end Nics

/-! ### The tray after a run -/

section Runs

variable {L : LiveConfig} {db m n : Database} {id : Uuid}
  {tr : List (Served Statement.Reply AppError Response Call)} {schema : Schema}

/-- A request that starts from a tray without rows of its entities leaves them alone, and adds what
it stages. -/
theorem pending_of_request {x : Served Statement.Reply AppError Response Call} {e : Edit}
    (hid : x.request.id = id) (hreq : x.request.request = .edit e)
    (hrun : Completes exec x.request.handle m x.events x.answer n) (hcalm : Calm L x.events)
    (hlookup : m.lookup L = db.lookup L)
    (hforeign : ∀ c ∈ m.pending id, (e.filters.any fun f ↦ f.matches c) = false) :
    (n.pending id).map ConfigChange.toNew =
      (m.pending id).map ConfigChange.toNew ++ x.request.staged db L := by
  obtain ⟨⟨claims, id', request⟩, h, r⟩ := x
  obtain rfl : id' = id := hid
  obtain rfl : request = .edit e := hreq
  have hsame : e.staged m L claims id' = e.staged db L claims id' := by
    rw [Edit.staged, hlookup, ← Edit.staged]
  have hrestages := Edit.restages (e := e) hrun hcalm
  rw [hsame] at hrestages
  rcases hrestages with ⟨err, hstaged, -, rfl⟩ | ⟨changes, b, hstaged, -, inserted, hinserted, hn⟩
  · simp [Call.staged, hstaged, Except.toOption]
  · have hkeep : ((m.pending id').filter fun c ↦ !e.filters.any fun f ↦ f.matches c) =
        m.pending id' :=
      List.filter_eq_self.2 fun c hc ↦ by rw [hforeign c hc]; rfl
    rw [hn, hkeep, List.map_append, hinserted]
    simp [Call.staged, hstaged, Except.toOption]

/-- **The tray after a run of independent edits** holds their diffs in the order of the requests. -/
theorem pending_of_serial (hempty : db.pending id = [])
    (hrun : Serial exec Call.handle db tr m) (hcalm : ∀ x ∈ tr, Calm L x.events)
    (hind : IndependentEdits id (tr.map Served.request)) :
    (m.pending id).map ConfigChange.toNew =
      (tr.map Served.request).flatMap (Call.staged db L) := by
  refine (hrun.from_end (P := fun tr m ↦ m.lookup L = db.lookup L ∧ ((∀ x ∈ tr, Calm L x.events) →
    IndependentEdits id (tr.map Served.request) → (m.pending id).map ConfigChange.toNew =
      (tr.map Served.request).flatMap (Call.staged db L)))
    ⟨rfl, fun _ _ ↦ by simp [hempty]⟩ ?_).2 hcalm hind
  rintro tr m x n - hx ⟨hlookup, ih⟩
  refine ⟨(lookup_eq_of_completes hx).trans hlookup, fun hcalm hind ↦ ?_⟩
  rw [List.map_append, List.map_singleton] at hind ⊢
  have hbefore : IndependentEdits id (tr.map Served.request) :=
    ⟨fun c hc ↦ hind.edits c (List.mem_append_left _ hc), (List.pairwise_append.1 hind.disjoint).1⟩
  have hm := ih (fun y hy ↦ hcalm y (List.mem_append_left _ hy)) hbefore
  obtain ⟨hid, e, hreq, horigins⟩ :=
    hind.edits x.request (List.mem_append_right _ (List.mem_singleton_self _))
  rw [List.flatMap_append, List.flatMap_singleton, ← hm]
  refine pending_of_request hid hreq hx
    (hcalm x (List.mem_append_right _ (List.mem_singleton_self _))) hlookup fun c hc ↦ ?_
  -- the row is of an earlier request, so it is about another entity
  have hnew : c.toNew ∈ (tr.map Served.request).flatMap (Call.staged db L) := by
    rw [← hm]
    exact List.mem_map_of_mem hc
  obtain ⟨d, hd, hnew⟩ := List.mem_flatMap.1 hnew
  obtain ⟨y, hy, howns⟩ := hbefore.owned hd hnew
  rw [Bool.eq_false_iff]
  intro hclears
  have hye : y ∈ x.request.entities := by
    have hye := (Edit.clears_iff howns rfl rfl).1 hclears
    rw [horigins, or_self] at hye
    rwa [Call.entities, hreq]
  exact (List.pairwise_append.1 hind.disjoint).2.2 d hd x.request (List.mem_singleton_self _) hy hye

/-- **The batch of a commit is the tray** in table order, if no two rows of it were inserted at the
same time. -/
theorem batch_eq_pending {claims : Claims} {h : List Event} {r : Except AppError Response}
    {client : VyosClient} {rows : List ConfigChange} {v : Except Fault Json}
    (hincreasing : (m.pending id).Pairwise fun c d ↦ c.createdAt < d.createdAt)
    (hcommit : Completes exec (commit claims id) m h r n)
    (hsent : (⟨.configure client rows, v⟩ : Event) ∈ h) : rows = m.pending id := by
  obtain ⟨hperm, hsorted⟩ := orderedBy_of_sent hcommit hsent
  refine hperm.eq_of_pairwise (fun c d hc hd hle hge ↦ ?_) hsorted (hincreasing.imp Nat.le_of_lt)
  have hsymm : Std.Symm fun c d : ConfigChange ↦ c.createdAt ≠ d.createdAt := ⟨fun _ _ h ↦ h.symm⟩
  by_contra hne
  exact (hincreasing.imp Nat.ne_of_lt).forall (hperm.mem_iff.1 hc) hd hne (Nat.le_antisymm hle hge)

end Runs

/-! ### Convergence -/

/-- The requests of `tr` ran one after the other and left the tables `m`. The device showed `L`
throughout, and no two rows of the tray were inserted at the same time. -/
structure Session (L : LiveConfig) (id : Uuid) (db : Database)
    (tr : List (Served Statement.Reply AppError Response Call)) (m : Database) : Prop where
  run : Serial exec Call.handle db tr m
  calm : ∀ x ∈ tr, Calm L x.events
  increasing : (m.pending id).Pairwise fun c d ↦ c.createdAt < d.createdAt

/-- A commit that finds the tables `m` sends `batch`. -/
def Sends (m : Database) (id : Uuid) (batch : List Command) : Prop :=
  ∃ claims h r n client rows v, Completes exec (commit claims id) m h r n ∧
    (⟨.configure client rows, v⟩ : Event) ∈ h ∧ rows.map ConfigChange.command = batch

section Converge

variable {L : LiveConfig} {db m m' : Database} {id : Uuid} {schema : Schema}
  {tr tr' : List (Served Statement.Reply AppError Response Call)} {c : Call} {x : Entity}

theorem Session.commands_eq (hsession : Session L id db tr m) (hempty : db.pending id = [])
    (hind : IndependentEdits id (tr.map Served.request)) :
    m.commands id =
      ((tr.map Served.request).flatMap (Call.staged db L)).map NewConfigChange.command :=
  map_command_eq (pending_of_serial hempty hsession.run hsession.calm hind)

theorem Session.batch_eq (hsession : Session L id db tr m) {batch : List Command}
    (hsends : Sends m id batch) : batch = m.commands id := by
  obtain ⟨claims, h, r, n, client, rows, v, hcommit, hsent, rfl⟩ := hsends
  rw [batch_eq_pending hsession.increasing hcommit hsent]
  rfl

/-- The nodes after the batch of a list of requests, part by part. -/
theorem run_staged (calls : List Call) :
    schema.run ((calls.flatMap (Call.staged db L)).map NewConfigChange.command) L.nodes =
      applyAll schema.single (calls.flatMap (Call.part db L)) L.nodes := by
  rw [Schema.run, List.map_map, List.map_flatMap]
  rfl

/-- **In the region of its entity**, an accepted request does in the batch what it does alone. -/
theorem mem_run_iff {calls : List Call} (hind : IndependentEdits id calls) (hc : c ∈ calls)
    {e : Edit} (hreq : c.request = .edit e) {changes : List NewConfigChange}
    (hstaged : e.staged db L c.claims c.id = .ok changes) (hx : x ∈ c.entities) {q : Path}
    (hq : q ∈ x.region) :
    q ∈ applyAll schema.single (calls.flatMap (Call.part db L)) L.nodes ↔
      q ∈ applyAll schema.single (c.part db L) L.nodes := by
  by_cases hnic : ∃ name, q = ethBase name
  · obtain ⟨name, rfl⟩ := hnic
    -- nothing drops the NIC, and its own edit leaves it there
    have hself : ethBase name ∈ (Entity.nic name).region := ⟨[], (List.append_nil _).symm, by simp⟩
    obtain rfl := eq_of_mem_region hq hself
    have hkeep : ∀ d ∈ calls, ∀ u ∈ d.part db L, ¬u.drops schema.single (ethBase name) :=
      fun d hd u hu hdrops ↦ (hind.of_drops hd hu hdrops).2 name rfl
    rw [mem_applyAll_flatMap_of_not_drops hkeep, mem_applyAll_of_not_drops (hkeep c hc)]
    have hplaced : ethBase name ∈ L.nodes ∨ ∃ u ∈ c.part db L, u.adds (ethBase name) := by
      rw [Call.entities, hreq] at hx
      rcases Edit.nic_placed hx hstaged with hlive | ⟨n, hn, hadds⟩
      · exact Or.inl hlive
      · refine Or.inr ⟨n.edit, List.mem_map_of_mem ?_, hadds⟩
        simpa [Call.staged, hreq, hstaged, Except.toOption] using hn
    refine iff_of_true ?_ hplaced
    exact hplaced.imp_right fun hadds ↦ ⟨c, hc, hadds⟩
  · exact mem_applyAll_flatMap_of_only hind.nodup hc
      (hind.untouched hc hx hq fun name hname ↦ hnic ⟨name, hname⟩)

/-- What a request alone stages on an empty tray. -/
theorem run_alone (hempty : db.pending id = []) {claims : Claims} {e : Edit} {g : List Event}
    {b : Response} (halone : Completes exec (e.handle claims id) db g (.ok b) m)
    (hcalm : Calm L g) :
    (∃ changes, e.staged db L claims id = .ok changes) ∧
      schema.run (m.commands id) L.nodes =
        applyAll schema.single (Call.part db L ⟨claims, id, .edit e⟩) L.nodes := by
  obtain ⟨changes, hstaged, hrestages⟩ := restages_of_ok halone hcalm
  rw [hempty] at hrestages
  refine ⟨⟨changes, hstaged⟩, ?_⟩
  have hpart : Call.part db L ⟨claims, id, .edit e⟩ = changes.map NewConfigChange.edit := by
    simp [Call.part, Call.staged, hstaged, Except.toOption]
  rw [Schema.run, Database.commands, map_command_eq hrestages.of_nil, hpart, List.map_map]
  rfl

/-- Outside the regions of the targeted entities, the batch adds the ancestors of what it sets. -/
theorem mem_run_elsewhere_iff {calls : List Call} (hind : IndependentEdits id calls) {q : Path}
    (hq : ∀ c ∈ calls, ∀ x ∈ c.entities, q ∉ x.region) :
    q ∈ applyAll schema.single (calls.flatMap (Call.part db L)) L.nodes ↔ q ∈ L.nodes ∨
      ∃ k ∈ (calls.flatMap (Call.staged db L)).map NewConfigChange.command,
        k.op = .set ∧ q <+: k.path := by
  have hkeep : ∀ c ∈ calls, ∀ u ∈ c.part db L, ¬u.drops schema.single q := by
    intro c hc u hu hdrops
    obtain ⟨x, hx, hmem⟩ := (hind.of_drops hc hu hdrops).1
    exact hq c hc x hx hmem
  rw [mem_applyAll_flatMap_of_not_drops hkeep]
  refine or_congr_right ⟨?_, ?_⟩
  · rintro ⟨c, hc, u, hu, hadds⟩
    obtain ⟨n, hn, rfl⟩ := List.mem_map.1 hu
    exact ⟨n.command, List.mem_map_of_mem (List.mem_flatMap.2 ⟨c, hc, hn⟩), adds_edit.1 hadds⟩
  · rintro ⟨k, hk, hset⟩
    obtain ⟨n, hn, rfl⟩ := List.mem_map.1 hk
    obtain ⟨c, hc, hn⟩ := List.mem_flatMap.1 hn
    exact ⟨c, hc, n.edit, List.mem_map_of_mem hn, adds_edit.2 hset⟩

/-- **Independent edits converge.** Two sessions make the same requests in any two orders. Their
trays hold the same commands, and the batches of the commits that follow lead to the same config. At
every entity that an accepted request is about, it is the config which that request alone would have
led to, and elsewhere nothing goes and only ancestors of what is set come. -/
theorem converges (hempty : db.pending id = [])
    (hind : IndependentEdits id (tr.map Served.request))
    (hperm : (tr.map Served.request).Perm (tr'.map Served.request))
    (hsession : Session L id db tr m) (hsession' : Session L id db tr' m') :
    (m.commands id).Perm (m'.commands id) ∧
      ∀ batch batch', Sends m id batch → Sends m' id batch' →
        schema.run batch L.nodes = schema.run batch' L.nodes ∧
        (∀ x ∈ tr, ∀ g b a, Completes exec x.request.handle db g (.ok b) a → Calm L g →
          ∀ y ∈ x.request.entities, ∀ q ∈ y.region,
            (q ∈ schema.run batch L.nodes ↔ q ∈ schema.run (a.commands id) L.nodes)) ∧
        ∀ q, (∀ x ∈ tr, ∀ y ∈ x.request.entities, q ∉ y.region) →
          (q ∈ schema.run batch L.nodes ↔
            q ∈ L.nodes ∨ ∃ k ∈ batch, k.op = .set ∧ q <+: k.path) := by
  have hm := hsession.commands_eq hempty hind
  have hm' := hsession'.commands_eq hempty (hind.perm hperm)
  refine ⟨?_, fun batch batch' hsends hsends' ↦ ?_⟩
  · rw [hm, hm']
    exact (hperm.flatMap_right _).map _
  rw [hsession.batch_eq hsends, hsession'.batch_eq hsends', hm, hm', run_staged, run_staged]
  refine ⟨applyAll_flatMap_perm hperm hind.nodup (independent_staged hind), ?_, ?_⟩
  · intro x hx g b a halone hcalm y hy q hq
    have hc : x.request ∈ tr.map Served.request := List.mem_map_of_mem hx
    obtain ⟨hid, e, hreq, -⟩ := hind.edits x.request hc
    generalize x.request = c at hc hid hreq halone hy
    obtain ⟨claims, id', request⟩ := c
    obtain rfl : id' = id := hid
    obtain rfl : request = .edit e := hreq
    have hrun : Completes exec (e.handle claims id') db g (.ok b) a := halone
    obtain ⟨⟨changes, hstaged⟩, ha⟩ : (∃ changes, e.staged db L claims id' = .ok changes) ∧
      schema.run (a.commands id') L.nodes = _ := run_alone hempty hrun hcalm
    rw [ha]
    exact mem_run_iff hind hc rfl hstaged hy hq
  · intro q hq
    refine mem_run_elsewhere_iff hind fun c hc y hy ↦ ?_
    obtain ⟨x, hx, rfl⟩ := List.mem_map.1 hc
    exact hq x hx y hy

end Converge

/-- A device of which only the host name is a leaf with a single value. -/
def sampleSchema : Schema where
  single p := p == ["system", "host-name"]
  ethernet := rfl
  nic _ := rfl
  vif _ := rfl
  rule _ := rfl

/-- Dropping VLAN 5 of `eth1`, as a served request. -/
def servedDrop (next : ℕ) : Served Statement.Reply AppError Response Call where
  request := ⟨sampleAdmin, 0, .edit (.deleteVlan ⟨"eth1", 5⟩)⟩
  events := [⟨.deletePending 0 (.vif (vifBase "eth1" 5)), .ok (0 : ℕ)⟩,
    ⟨.insertChange 0 (sampleChange 5), .ok (rowOf next (sampleChange 5))⟩]
  answer := .ok (.changes [rowOf next (sampleChange 5)])

/-- Creating VLAN 6. -/
def servedCreate (next : ℕ) : Served Statement.Reply AppError Response Call where
  request := ⟨sampleAdmin, 0, .edit (.stageVlan
    { parent := "eth1"
      vlanId := 6
      description := none
      addresses := []
      mtu := none
      enabled := true
      originalParent := none
      originalVlanId := none })⟩
  events := [⟨.selectRouter 0, .ok (some sampleRouter)⟩,
    ⟨.showConfig sampleClient ["interfaces"], .ok (sampleLive.reply ["interfaces"])⟩,
    ⟨.deletePending 0 (.vif (vifBase "eth1" 6)), .ok (0 : ℕ)⟩,
    ⟨.insertChange 0 (createdVlan 6), .ok (rowOf next (createdVlan 6))⟩]
  answer := .ok (.changes [rowOf next (createdVlan 6)])

/-- Dropping VLAN 5 and creating VLAN 6 lead to one config in either order. -/
theorem converges_drop_create : ∃ m m' batch batch',
    Session sampleLive 0 (sampleDatabase []) [servedDrop 0, servedCreate 1] m ∧
    Session sampleLive 0 (sampleDatabase []) [servedCreate 0, servedDrop 1] m' ∧
    Sends m 0 batch ∧ Sends m' 0 batch' ∧ batch ≠ batch' ∧
    sampleSchema.run batch sampleLive.nodes = sampleSchema.run batch' sampleLive.nodes := by
  have hdrop : ∀ next, Calm sampleLive (servedDrop next).events :=
    fun next ↦ .cons nofun <| .cons nofun .nil
  have hcreate : ∀ next, Calm sampleLive (servedCreate next).events :=
    fun next ↦ .cons nofun <| .shown <| .cons nofun <| .cons nofun .nil
  have hsession : Session sampleLive 0 (sampleDatabase []) [servedDrop 0, servedCreate 1]
      (sampleDatabase [rowOf 0 (sampleChange 5), rowOf 1 (createdVlan 6)]) :=
    { run := Trace.cons (m := sampleDatabase [rowOf 0 (sampleChange 5)])
        ⟨⟨_, .call _ (.call _ (.nil _)), rfl⟩, rfl⟩
        (Trace.cons ⟨⟨_, .call _ (.call _ (.call _ (.call _ (.nil _)))), rfl⟩, rfl⟩ (Trace.nil _))
      calm := by simp [hdrop, hcreate]
      increasing := by decide }
  have hsession' : Session sampleLive 0 (sampleDatabase []) [servedCreate 0, servedDrop 1]
      (sampleDatabase [rowOf 0 (createdVlan 6), rowOf 1 (sampleChange 5)]) :=
    { run := Trace.cons (m := sampleDatabase [rowOf 0 (createdVlan 6)])
        ⟨⟨_, .call _ (.call _ (.call _ (.call _ (.nil _)))), rfl⟩, rfl⟩
        (Trace.cons ⟨⟨_, .call _ (.call _ (.nil _)), rfl⟩, rfl⟩ (Trace.nil _))
      calm := by simp [hdrop, hcreate]
      increasing := by decide }
  have hind : IndependentEdits 0 ([servedDrop 0, servedCreate 1].map Served.request) :=
    { edits := List.forall_mem_cons.2 ⟨⟨rfl, _, rfl, rfl⟩,
        List.forall_mem_cons.2 ⟨⟨rfl, _, rfl, rfl⟩, fun _ h ↦ nomatch h⟩⟩
      disjoint := by simp [servedDrop, servedCreate, Call.entities, Edit.entities] }
  have hsends : Sends (sampleDatabase [rowOf 0 (sampleChange 5), rowOf 1 (createdVlan 6)]) 0
      [(sampleChange 5).command, (createdVlan 6).command] :=
    ⟨_, _, _, _, _, _, _, completes_servedCommit rfl (by decide),
      List.mem_cons_of_mem _ (List.mem_cons_of_mem _ List.mem_cons_self), rfl⟩
  have hsends' : Sends (sampleDatabase [rowOf 0 (createdVlan 6), rowOf 1 (sampleChange 5)]) 0
      [(createdVlan 6).command, (sampleChange 5).command] :=
    ⟨_, _, _, _, _, _, _, completes_servedCommit rfl (by decide),
      List.mem_cons_of_mem _ (List.mem_cons_of_mem _ List.mem_cons_self), rfl⟩
  have hperm : ([servedDrop 0, servedCreate 1].map Served.request).Perm
      ([servedCreate 0, servedDrop 1].map Served.request) := List.Perm.swap _ _ _
  exact ⟨_, _, _, _, hsession, hsession', hsends, hsends', by decide,
    ((converges rfl hind hperm hsession hsession').2 _ _ hsends hsends').1⟩

end VyosFabric
