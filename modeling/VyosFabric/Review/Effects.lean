import VyosFabric.Review.Moves

/-!
# What is staged takes effect

A device may refuse a batch that deletes what is not there. The diffs compare with the device, so
most of what is staged takes effect: nothing is set that is there, and nothing deleted that is not.
What can fail is a value that is listed twice, a move whose original is not there or whose target
is, and a delete that is staged without a look at the device (`staged_effective_iff`).
-/

namespace VyosFabric

open Interaction
open PathTree hiding Edit

/-- The edits of the changes take effect on the nodes, first to last. -/
def Effective (schema : Schema) (L : LiveConfig) (changes : List NewConfigChange) : Prop :=
  AllEffective schema.single (changes.map NewConfigChange.edit) L.nodes

/-- The addresses an update adds to a node. -/
def addedAddresses (L : LiveConfig) (base : Path) (addresses : List String) : List String :=
  (trimmedList addresses).filter fun a ↦ a ∉ L.values (base ++ ["address"])

/-! ### Parts that take effect -/

section Parts

variable {schema : Schema} {L : LiveConfig} {author : Uuid} {base : Path}

theorem interfaceDiff_effective {sect : Sect} {name key : String}
    {live desired : Option String × Bool} (hlive : live = liveInterface (L.tree.subtree base) key)
    (hshape : ∀ k ∈ ["name", "group"], L.HasShape (base ++ [key, k]) .leaf)
    (htrim : trimmed desired.1 = desired.1) :
    Effective schema L (interfaceDiff (changeOf sect author) base name key live desired) := by
  subst hlive
  unfold Effective interfaceDiff
  split
  · exact allEffective_nil
  · obtain ⟨value, group⟩ := desired
    cases hold : (liveInterface (L.tree.subtree base) key).1 with
    | some i =>
      have hmem : base ++ [key] ∈ L.nodes := by
        by_contra hnot
        rw [liveInterface_of_not_mem hnot] at hold
        cases hold
      cases value with
      | none => exact ⟨hmem, allEffective_nil⟩
      | some v =>
        refine ⟨hmem, fun hput ↦ ?_, allEffective_nil⟩
        have hbelow : base ++ [key] <+: base ++ [key, if group then "group" else "name", v] :=
          ⟨[if group then "group" else "name", v], by simp⟩
        exact (hput.resolve_left id).2 hbelow
    | none =>
      obtain ⟨hname, hgroup, -⟩ := texts_of_liveInterface_eq_none hold
      cases value with
      | none => exact allEffective_nil
      | some v =>
        obtain ⟨hv, hne⟩ := trim_eq_of_trimmed htrim rfl
        have hkind : ∀ k ∈ ["name", "group"], L.text (base ++ [key, k]) = none →
            base ++ [key, k, v] ∉ L.nodes := by
          intro k hk htext
          have hnot := LiveConfig.not_mem_nodes_of_text (hshape k hk) hv hne (by simp [htext])
          rwa [List.append_assoc] at hnot
        refine ⟨?_, allEffective_nil⟩
        cases group with
        | true => exact hkind "group" (by decide) hgroup
        | false => exact hkind "name" (by decide) hname

/-- The addresses of a node take effect if none that is added is listed twice. -/
theorem addresses_effective_iff {sect : Sect} {name : String} {addresses : List String}
    (hshape : L.HasShape (base ++ ["address"]) .leaves)
    (hmany : schema.single (base ++ ["address"]) = false) :
    Effective schema L (addressDiff (changeOf sect author) base name
        (((L.tree.subtree base).map asAddresses).getD []) (trimmedList addresses)) ↔
      (addedAddresses L base addresses).Nodup := by
  rw [addedAddresses, ← asAddresses_eq_values]
  exact addressDiff_effective_iff asAddresses_eq_values hshape hmany

theorem ntpServers_nodup (hL : L.Fits) (hbase : IsNtpBase base) :
    (L.system base).ntpServers.Nodup := by
  have hkeys : ((((L.shown base).idx "server").asObject.getD []).map Prod.fst).Nodup := by
    rw [Json.idx, get_shown]
    cases hsub : L.tree.subtree (base ++ ["server"]) with
    | none => exact List.nodup_nil
    | some v =>
      obtain ⟨m, rfl, hnodup⟩ := hL _ _ (.ntpServers hbase) v hsub
      exact hnodup
  exact (List.perm_insertionSort _ _).nodup_iff.2 hkeys

/-- **The NTP part** takes effect if no server that is added is listed twice. -/
theorem diffNtp_effective_iff (hschema : schema.Knows) (hL : L.Fits) (hbase : IsNtpBase base)
    {u : SystemConfigUpdate} :
    Effective schema L (diffNtp (systemChange author) (L.system base) u) ↔
      (u.ntpEnabled ≠ some false → (u.addedServers (L.system base)).Nodup) := by
  rw [Effective]
  by_cases hoff : u.ntpEnabled = some false
  · rw [diffNtp_of_disabled hoff]
    refine iff_of_true ?_ fun hon ↦ absurd hoff hon
    split
    · rename_i henabled
      exact ⟨(ntpEnabled_system_iff hL hbase).1 henabled, allEffective_nil⟩
    · exact allEffective_nil
  · rw [map_edit_diffNtp hoff, ntpBase_system, allEffective_values
      (hschema _ _ (.ntpServers hbase)) fun a ↦ (mem_ntpServers_system_iff hL hbase).symm]
    · exact ⟨fun h _ ↦ h, fun h ↦ h hoff⟩
    · intro srv hsrv
      simpa using List.of_mem_filter hsrv
    · intro srv hsrv
      rw [SystemConfigUpdate.removedServers] at hsrv
      split at hsrv
      · cases hsrv
      · exact List.mem_of_mem_filter hsrv
    · rw [SystemConfigUpdate.removedServers]
      split
      · exact List.nodup_nil
      · exact (ntpServers_nodup hL hbase).filter _

/-- The parts of a state take effect. -/
theorem stateParts_effective (hL : L.Fits) {state : String} (hstate : state ∈ stateKeys)
    (desired : StatePolicyEntryUpdate) :
    ∀ x ∈ stateParts state (L.stateEntry state) desired author, Effective schema L x.2 := by
  rw [stateParts]
  cases haction : trimmed desired.action with
  | none =>
    simp only [List.forall_mem_cons, List.not_mem_nil, false_implies, implies_true, and_true]
    rw [Effective]
    split
    · rename_i hlive
      rw [action_stateEntry] at hlive
      have hnode : stateBase state ∈ L.nodes := by
        refine LiveConfig.mem_nodes_of_append (r := ["action"]) (LiveConfig.mem_nodes_of_text ?_)
        exact Option.isSome_iff_ne_none.1 hlive
      exact ⟨hnode, allEffective_nil⟩
    · exact allEffective_nil
  | some action =>
    simp only [List.forall_mem_cons, List.not_mem_nil, false_implies, implies_true, and_true]
    exact ⟨leafDiff_effective action_stateEntry (hL _ _ (.stateAction hstate))
        (haction ▸ trimmed_trimmed _),
      flagDiff_effective (log_stateEntry_iff hL hstate),
      leafDiff_effective logLevel_stateEntry (hL _ _ (.stateLogLevel hstate)) (trimmed_trimmed _)⟩

end Parts

/-! ### Diffs that take effect -/

section Diffs

variable {schema : Schema} {L : LiveConfig} {author : Uuid} {base : Path}

/-- **A diff takes effect** if each part does, and the node is new where it is created. -/
theorem effective_iff_of_layout {parts : List (Path × List NewConfigChange)} {new : Bool}
    {create : NewConfigChange} (hlayout : Layout schema base parts)
    (hcreate : create.edit = .put base) (hnew : new = true → base ∉ L.nodes) :
    Effective schema L (withCreate new (parts.flatMap Prod.snd) create) ↔
      ∀ x ∈ parts, Effective schema L x.2 := by
  rw [Effective, hlayout.allEffective_iff hcreate, and_iff_left fun hcreated _ ↦ hnew hcreated]
  rfl

theorem diffSystem_effective_iff (hschema : schema.Knows) (hL : L.Fits) (hbase : IsNtpBase base)
    {u : SystemConfigUpdate} :
    Effective schema L (diffSystem (L.system base) u author) ↔
      (u.ntpEnabled ≠ some false → (u.addedServers (L.system base)).Nodup) := by
  -- the page creates no node of its own
  obtain ⟨create, hcreate⟩ : ∃ c : NewConfigChange, c.edit = .put [] :=
    ⟨systemChange author .set [] "", rfl⟩
  have hdiff : diffSystem (L.system base) u author =
      withCreate false ((systemParts (L.system base) u author).flatMap Prod.snd) create :=
    diffSystem_eq _ _ _
  rw [hdiff, effective_iff_of_layout (systemParts_layout hschema hbase) hcreate (by simp)]
  simp only [systemParts, List.forall_mem_cons, List.not_mem_nil, false_implies, implies_true,
    and_true, diffNtp_effective_iff hschema hL hbase]
  refine ⟨fun h ↦ h.2.2.2, fun h ↦ ⟨?_, ?_, ?_, h⟩⟩
  · exact leafDiff_effective childStr_shown (hL _ _ (.systemLeaf (by decide)))
      (trimmed_orElse (trimmed_childStr _ _))
  · exact leafDiff_effective childStr_shown (hL _ _ (.systemLeaf (by decide)))
      (trimmed_desiredDomain (trimmed_childStr _ _))
  · exact leafDiff_effective childStr_shown (hL _ _ (.systemLeaf (by decide)))
      (trimmed_orElse (trimmed_childStr _ _))

theorem diffGlobalOptions_effective (hschema : schema.Knows) (hL : L.Fits) (u : GlobalOptions) :
    Effective schema L (diffGlobalOptions L.globalOptions u author) := by
  obtain ⟨create, hcreate⟩ : ∃ c : NewConfigChange, c.edit = .put globalOptionsBase :=
    ⟨firewallChange author .set globalOptionsBase "", rfl⟩
  have hdiff : diffGlobalOptions L.globalOptions u author =
      withCreate false ((globalParts L.globalOptions u author).flatMap Prod.snd) create :=
    diffGlobalOptions_eq _ _ _
  rw [hdiff, effective_iff_of_layout (globalParts_layout hschema _ u) hcreate (by simp)]
  have hoption : ∀ key ∈ "resolver-interval" :: singleKeys, ∀ desired : Option String,
      Effective schema L (optionDiff author key (L.text (globalOptionsBase ++ [key])) desired) :=
    fun key hkey desired ↦ leafDiff_effective rfl (hL _ _ (.option hkey)) (trimmed_trimmed _)
  simp only [globalParts, List.forall_mem_append, List.forall_mem_cons, List.forall_mem_map,
    List.not_mem_nil, false_implies, implies_true, and_true, statePolicy_globalOptions]
  refine ⟨?_, ⟨?_, ?_⟩, stateParts_effective hL (by decide) _,
    stateParts_effective hL (by decide) _, stateParts_effective hL (by decide) _⟩
  · intro x hx
    rw [singles_globalOptions] at hx
    have hkey : x.1 ∈ singleKeys := (List.of_mem_zip hx).1
    rw [live_of_zip hx]
    exact hoption x.1 (List.mem_cons_of_mem _ hkey) x.2.2
  · exact flagDiff_effective (resolverCache_globalOptions_iff hL)
  · rw [resolverInterval_globalOptions]
    exact hoption _ List.mem_cons_self _

/-- **An ethernet diff** takes effect if no address that is added is listed twice. -/
theorem diffEthernet_effective_iff (hschema : schema.Knows) (hL : L.Fits)
    {u : EthernetConfigUpdate} (hmtu : ∀ m ∈ u.mtu, -2 ^ 31 ≤ m ∧ m < 2 ^ 31) :
    Effective schema L (diffEthernet (L.shown ["interfaces", "ethernet"]) u author) ↔
      (addedAddresses L (ethBase u.name) u.addresses).Nodup := by
  rw [diffEthernet_eq, get_shown_nic,
    effective_iff_of_layout (ethernetParts_layout hschema _ _ _) rfl]
  · simp only [ethernetParts, List.forall_mem_cons, List.not_mem_nil, false_implies, implies_true,
      and_true]
    rw [addresses_effective_iff (hL _ _ (.nicAddresses _)) (hschema _ _ (.nicAddresses _))]
    refine ⟨fun h ↦ h.2.1, fun h ↦ ⟨?_, h, ?_, ?_, ?_, ?_⟩⟩
    · exact leafDiff_effective childStr_eq_text (hL _ _ (.nicLeaf _ (by decide)))
        (trimmed_trimmed _)
    · exact mtuDiff_effective asMtu_eq_number (hL _ _ (.nicMtu _)) hmtu
    · exact leafDiff_effective childStr_eq_text (hL _ _ (.nicLeaf _ (by decide)))
        (trimmed_trimmed _)
    · exact leafDiff_effective childStr_eq_text (hL _ _ (.nicLeaf _ (by decide)))
        (trimmed_trimmed _)
    · rw [enabledDiff_eq]
      exact flagDiff_effective (isEnabled_iff (hL _ _ (.nic _)))
  · exact (isNone_subtree_iff (subtree_nic_isSome_iff hL)).1

/-- A VLAN diff that is no move takes effect if no address that is added is listed twice. -/
theorem diffVlan_effective_iff (hschema : schema.Knows) (hL : L.Fits) {u : VlanConfigUpdate}
    (hstays : u.movedFrom = none) (hmtu : ∀ m ∈ u.mtu, -2 ^ 31 ≤ m ∧ m < 2 ^ 31) :
    Effective schema L (diffVlan (L.shown ["interfaces", "ethernet"]) u author) ↔
      (addedAddresses L (vifBase u.parent u.vlanId) u.addresses).Nodup := by
  have hcompared : comparedVif (L.shown ["interfaces", "ethernet"]) u =
      L.tree.subtree (vifBase u.parent u.vlanId) := by
    rw [comparedVif, hstays]
    exact liveVif_shown u.parent u.vlanId
  have hdrop : vlanDrop u author = [] := by rw [vlanDrop, hstays]
  rw [diffVlan_eq, hcompared, hdrop, List.nil_append,
    effective_iff_of_layout (vlanParts_layout hschema _ _ _) rfl]
  · simp only [vlanParts, List.forall_mem_cons, List.not_mem_nil, false_implies, implies_true,
      and_true]
    rw [addresses_effective_iff (hL _ _ (.vlanAddresses _ _)) (hschema _ _ (.vlanAddresses _ _))]
    refine ⟨fun h ↦ h.2.1, fun h ↦ ⟨?_, h, ?_, ?_⟩⟩
    · exact leafDiff_effective childStr_eq_text (hL _ _ (.vlanDescription _ _)) (trimmed_trimmed _)
    · exact mtuDiff_effective asMtu_eq_number (hL _ _ (.vlanMtu _ _)) hmtu
    · rw [enabledDiff_eq]
      exact flagDiff_effective (isEnabled_iff (hL _ _ (.vlan _ _)))
  · exact (isNone_subtree_iff (subtree_vlan_isSome_iff hL)).1

/-- A rule diff that is no renumber takes effect. -/
theorem diffNat44_effective (hschema : schema.Knows) (hL : L.Fits) {body : Nat44RuleUpdate}
    (hstays : renumberedFrom body.rule body.originalRule = none) :
    Effective schema L (diffNat44 (L.shown ["nat"]) body author) := by
  have hleaf : ∀ k ∈ ["description", "protocol"],
      L.HasShape (ruleBase body.sect body.rule ++ [k]) .leaf := fun k hk ↦ hL _ _ (.ruleLeaf _ _ hk)
  have hside : ∀ k ∈ ["source", "destination", "translation"], ∀ k' ∈ ["address", "port"],
      L.HasShape (ruleBase body.sect body.rule ++ [k, k']) .leaf :=
    fun k hk k' hk' ↦ hL _ _ (.sideLeaf _ _ hk hk')
  have hrule := hL _ _ (.rule body.sect body.rule)
  rw [diffNat44_shown hstays, effective_iff_of_layout (natParts_layout hschema _ _ _) rfl]
  · simp only [natParts, natLeaf, natFlag, natChange_eq, List.forall_mem_cons, List.not_mem_nil,
      false_implies, implies_true, and_true]
    refine ⟨?_, ?_, ?_, ?_, ?_, ?_, ?_, ?_, ?_, ?_, ?_, ?_⟩
    · exact leafDiff_effective childStr_eq_text (hleaf _ (by decide)) (trimmed_trimmed _)
    · exact leafDiff_effective nestedStr_eq_text (hside _ (by decide) _ (by decide))
        (trimmed_trimmed _)
    · exact leafDiff_effective nestedStr_eq_text (hside _ (by decide) _ (by decide))
        (trimmed_trimmed _)
    · exact leafDiff_effective nestedStr_eq_text (hside _ (by decide) _ (by decide))
        (trimmed_trimmed _)
    · exact leafDiff_effective nestedStr_eq_text (hside _ (by decide) _ (by decide))
        (trimmed_trimmed _)
    · exact leafDiff_effective childStr_eq_text (hleaf _ (by decide)) (trimmed_trimmed _)
    · exact leafDiff_effective nestedStr_eq_text (hside _ (by decide) _ (by decide))
        (trimmed_trimmed _)
    · exact leafDiff_effective nestedStr_eq_text (hside _ (by decide) _ (by decide))
        (trimmed_trimmed _)
    · exact interfaceDiff_effective rfl (fun k hk ↦ hL _ _ (.interface _ _ hk)) (trimmed_trimmed _)
    · exact flagDiff_effective (isSome_get_iff hrule)
    · exact flagDiff_effective (isSome_get_iff hrule)
    · rw [enabledDiff_eq]
      exact flagDiff_effective (isEnabled_iff hrule)
  · exact (isNone_subtree_iff (subtree_rule_isSome_iff hL)).1

/-- A mapping that is not renumbered takes effect: its rules are apart. -/
theorem staticChanges_effective (hschema : schema.Knows) (hL : L.Fits) {body : StaticNatUpdate}
    (hstays : renumberedFrom body.rule body.originalRule = none) :
    Effective schema L (staticChanges (L.shown ["nat"]) body author) := by
  have happart : Apart (ruleBase "source" body.rule) (ruleBase "destination" body.rule) :=
    apart_of_length rfl fun hsame ↦ absurd (ruleBase_inj.1 hsame).1 (by decide)
  rw [Effective, staticChanges, List.map_append, allEffective_append_of_untouched]
  · exact ⟨diffNat44_effective hschema hL hstays, diffNat44_effective hschema hL hstays⟩
  · have hbelow : ∀ d ∈ diffNat44 (L.shown ["nat"]) (staticPair body).2 author,
        ruleBase "destination" body.rule <+: d.edit.target := by
      intro d hd
      rw [diffNat44_shown hstays] at hd
      exact (natParts_layout hschema _ _ _).prefix_target rfl hd
    have hspares : Spares schema (ruleBase "destination" body.rule)
        (diffNat44 (L.shown ["nat"]) (staticPair body).1 author) :=
      diffNat44_spares hschema hstays happart
    rw [List.forall_mem_map]
    intro c hc
    rw [List.forall_mem_map]
    exact fun d hd ↦ hspares c hc _ (hbelow d hd)

end Diffs

/-! ### Edits that take effect -/

/-- The paths of a delete. -/
def Edit.deletes : Edit → List Path
  | .deleteVlan body => [vifBase body.parent body.vlanId]
  | .deleteNat44 body => [ruleBase body.sect body.rule]
  | .deleteStatic body => [ruleBase "source" body.rule, ruleBase "destination" body.rule]
  | _ => []

/-- The values an edit that is no move adds to a list. -/
def Edit.added (L : LiveConfig) (base : Path) : Edit → List String
  | .stageSystem u => if u.ntpEnabled = some false then [] else u.addedServers (L.system base)
  | .stageEthernet u => addedAddresses L (ethBase u.name) u.addresses
  | .stageVlan u =>
    if u.movedFrom = none then addedAddresses L (vifBase u.parent u.vlanId) u.addresses else []
  | _ => []

/-- The MTU an edit asks for. -/
def Edit.mtu : Edit → Option Int
  | .stageEthernet u => u.mtu
  | .stageVlan u => u.mtu
  | _ => none

/-- What an edit needs for all of it to take effect: a delete finds its paths, no value to add is
listed twice, and each move lands. -/
structure Edit.Lands (L : LiveConfig) (base : Path) (e : Edit) : Prop where
  present : ∀ p ∈ e.deletes, p ∈ L.nodes
  listed : (e.added L base).Nodup
  moves : ∀ m ∈ e.moves, m.Lands L.nodes

theorem Edit.lands_of_stays {L : LiveConfig} {base : Path} {e : Edit} (hdeletes : e.deletes = [])
    (hmoves : e.moves = []) : e.Lands L base ↔ (e.added L base).Nodup := by
  refine ⟨Edit.Lands.listed, fun h ↦ ⟨?_, h, ?_⟩⟩
  · rw [hdeletes]
    exact fun _ hp ↦ (List.not_mem_nil hp).elim
  · rw [hmoves]
    exact fun _ hm ↦ (List.not_mem_nil hm).elim

theorem Edit.lands_of_deletes {L : LiveConfig} {base : Path} {e : Edit}
    (hadded : e.added L base = [])
    (hmoves : e.moves = []) : e.Lands L base ↔ ∀ p ∈ e.deletes, p ∈ L.nodes := by
  refine ⟨Edit.Lands.present, fun h ↦ ⟨h, ?_, ?_⟩⟩
  · rw [hadded]
    exact List.nodup_nil
  · rw [hmoves]
    exact fun _ hm ↦ (List.not_mem_nil hm).elim

/-- A move adds nothing to a list, and deletes only what it moves. -/
theorem Edit.rest_of_moves {L : LiveConfig} {base : Path} {e : Edit} (hmoves : e.moves ≠ []) :
    e.deletes = [] ∧ e.added L base = [] := by
  cases e with
  | stageVlan u =>
    refine ⟨rfl, if_neg fun hstays ↦ hmoves ?_⟩
    rw [Edit.moves, VlanConfigUpdate.move, hstays]
    rfl
  | stageNat44 | stageStatic => exact ⟨rfl, rfl⟩
  | stageSystem | stageGlobalOptions | stageEthernet | deleteVlan | deleteNat44 | deleteStatic =>
    exact absurd rfl hmoves

/-- Deletes of paths apart take effect if the paths are there. -/
theorem effective_deletes {schema : Schema} {L : LiveConfig} {changes : List NewConfigChange}
    {paths : List Path} (hchanges : changes.map NewConfigChange.edit = paths.map .cut)
    (happart : paths.Pairwise Apart) :
    Effective schema L changes ↔ ∀ p ∈ paths, p ∈ L.nodes := by
  have hnodup : paths.Nodup := happart.imp fun hpq heq ↦ (heq ▸ hpq).1 (List.prefix_refl _)
  have hsymm : Std.Symm (Apart (κ := String)) := ⟨fun _ _ h ↦ h.symm⟩
  rw [Effective, hchanges, allEffective_cuts hnodup fun p hp q hq hne ↦
    (happart.forall hp hq hne).1]

/-- **What is staged takes effect** exactly if the edit lands. -/
theorem staged_effective_iff {schema : Schema} {db : Database} {L : LiveConfig} {claims : Claims}
    {id : Uuid} {e : Edit} {changes : List NewConfigChange} (hschema : schema.Knows) (hL : L.Fits)
    (hanswers : L.Answers) (hmtu : ∀ m ∈ e.mtu, -2 ^ 31 ≤ m ∧ m < 2 ^ 31)
    (hstaged : e.staged db L claims id = .ok changes) :
    ∃ base, IsNtpBase base ∧ changes = e.shownDiff L base claims.sub ∧
      (Effective schema L changes ↔ e.Lands L base) := by
  obtain ⟨-, base, hbase, hchanges⟩ := Edit.staged_eq hanswers hstaged
  refine ⟨base, hbase, hchanges, ?_⟩
  by_cases hmoves : e.moves = []
  · subst hchanges
    cases e with
    | stageSystem u =>
      rw [Edit.lands_of_stays rfl rfl, Edit.added]
      refine (diffSystem_effective_iff hschema hL hbase).trans ?_
      split
      · rename_i hoff
        exact iff_of_true (fun hon ↦ absurd hoff hon) List.nodup_nil
      · rename_i hon
        exact ⟨fun h ↦ h hon, fun h _ ↦ h⟩
    | stageGlobalOptions u =>
      rw [Edit.lands_of_stays rfl rfl]
      exact iff_of_true (diffGlobalOptions_effective hschema hL u) List.nodup_nil
    | stageEthernet u =>
      rw [Edit.lands_of_stays rfl rfl]
      exact diffEthernet_effective_iff hschema hL hmtu
    | stageVlan u =>
      have hstays : u.movedFrom = none := by
        simpa [Edit.moves, VlanConfigUpdate.move] using hmoves
      rw [Edit.lands_of_stays rfl hmoves, Edit.added, if_pos hstays]
      exact diffVlan_effective_iff hschema hL hstays hmtu
    | stageNat44 body =>
      have hstays : renumberedFrom body.rule body.originalRule = none := by
        simpa [Edit.moves, Nat44RuleUpdate.move] using hmoves
      rw [Edit.lands_of_stays rfl hmoves]
      exact iff_of_true (diffNat44_effective hschema hL hstays) List.nodup_nil
    | stageStatic body =>
      have hstays : renumberedFrom body.rule body.originalRule = none := by
        simpa [Edit.moves, Nat44RuleUpdate.move, staticPair] using hmoves
      rw [Edit.lands_of_stays rfl hmoves]
      exact iff_of_true (staticChanges_effective hschema hL hstays) List.nodup_nil
    | deleteVlan | deleteNat44 =>
      rw [Edit.lands_of_deletes rfl rfl]
      exact effective_deletes rfl (List.pairwise_singleton _ _)
    | deleteStatic body =>
      rw [Edit.lands_of_deletes rfl rfl]
      refine effective_deletes rfl (List.pairwise_pair.2 ?_)
      exact apart_of_length rfl fun hsame ↦ absurd (ruleBase_inj.1 hsame).1 (by decide)
  · obtain ⟨hsound, haway⟩ := e.moves_sound hschema
    obtain ⟨hdeletes, hadded⟩ : e.deletes = [] ∧ e.added L base = [] := Edit.rest_of_moves hmoves
    rw [Effective, Edit.map_edit_staged hmoves hstaged, allEffective_moves hsound haway]
    refine ⟨fun h ↦ ⟨?_, ?_, h⟩, Edit.Lands.moves⟩
    · rw [hdeletes]
      exact fun _ hp ↦ (List.not_mem_nil hp).elim
    · rw [hadded]
      exact List.nodup_nil

/-- A VLAN moves to where a VLAN is that has none of its leaves. -/
theorem staged_effective_taken :
    Effective deviceSchema takenVlan (moveChanges (some "new")) := by
  obtain ⟨base, -, -, hiff⟩ := staged_effective_iff deviceSchema_knows
    (LiveConfig.fits_of_check (by decide)) (answers_ofTree _)
    (fun m hm ↦ by cases hm) (staged_moveTo20 (some "new"))
  have hmoves : ∀ m ∈ (Edit.stageVlan (moveTo20 (some "new"))).moves,
      m.original ∈ takenVlan.nodes ∧ m.leaves.Nodup ∧ ∀ p ∈ m.puts, p ∉ takenVlan.nodes := by decide
  refine hiff.2 ⟨fun p hp ↦ (List.not_mem_nil hp).elim, List.nodup_nil, fun m hm ↦ ?_⟩
  obtain ⟨horiginal, hnodup, hvacant⟩ := hmoves m hm
  exact ⟨horiginal, hnodup, hvacant⟩

/-- An address is listed twice. -/
def listedTwice : EthernetConfigUpdate :=
  ⟨"eth0", none, ["192.0.2.1/24", "192.0.2.1/24"], none, none, none, true⟩

/-- What is listed twice is set twice. -/
theorem not_staged_effective : ¬∀ (schema : Schema) (db : Database) (L : LiveConfig)
    (claims : Claims) (id : Uuid) (e : Edit) (changes : List NewConfigChange),
    schema.Knows → L.Fits → L.Answers → (∀ m ∈ e.mtu, -2 ^ 31 ≤ m ∧ m < 2 ^ 31) →
      e.staged db L claims id = .ok changes → Effective schema L changes := by
  intro h
  have hfits : dhcpNic.Fits := LiveConfig.fits_of_check (by decide)
  have hstaged : (Edit.stageEthernet listedTwice).staged (sampleDatabase []) dhcpNic sampleAdmin 0 =
      .ok (diffEthernet (dhcpNic.shown ["interfaces", "ethernet"]) listedTwice 1) := rfl
  have heffective := h deviceSchema _ _ _ _ _ _ deviceSchema_knows hfits (answers_ofTree _)
    (fun m hm ↦ by cases hm) hstaged
  have hnodup := (diffEthernet_effective_iff deviceSchema_knows hfits fun m hm ↦ by cases hm).1
    heffective
  exact absurd hnodup (by decide)

end VyosFabric
