import VyosFabric.Diff.Checks
import VyosFabric.Diff.Readback

/-!
# What the interface diffs come to

The ethernet and the VLAN diff in parts. A batch that executes one of them gives a config in which
the interface is there and reads as the update asks (`Holds`), everything beside the settings of the
editor is as it was (`Framed`), and the diff has nothing left to say (`interfaceDiffs_settle`).
-/

namespace VyosFabric

open PathTree

/-! ### The diffs in parts -/

/-- A change of the interface pages. -/
abbrev interfaceChange : Uuid → Op → Path → String → NewConfigChange := changeOf .interfaces

/-- The settings of a NIC, each below its path, with the diff of each. -/
def ethernetParts (live : Option Json) (u : EthernetConfigUpdate) (author : Uuid) :
    List (Path × List NewConfigChange) :=
  let base := ethBase u.name
  let mk := interfaceChange author
  [ (["description"], leafDiff mk (base ++ ["description"])
      (live.bind fun v ↦ v.childStr "description") (trimmed u.description)
      (fun d ↦ s!"{u.name}: description → {d}") s!"{u.name}: remove description"),
    (["address"], addressDiff mk base u.name ((live.map asAddresses).getD [])
      (trimmedList u.addresses)),
    (["mtu"], mtuDiff mk base u.name (live.bind asMtu) u.mtu),
    (["speed"], leafDiff mk (base ++ ["speed"]) (live.bind fun v ↦ v.childStr "speed")
      (trimmed u.speed) (fun s ↦ s!"{u.name}: speed → {s}") s!"{u.name}: speed → auto"),
    (["duplex"], leafDiff mk (base ++ ["duplex"]) (live.bind fun v ↦ v.childStr "duplex")
      (trimmed u.duplex) (fun d ↦ s!"{u.name}: duplex → {d}") s!"{u.name}: duplex → auto"),
    (["disable"], enabledDiff mk base u.name ((live.map Json.isEnabled).getD true) u.enabled)]

/-- **An ethernet diff is its parts.** -/
theorem diffEthernet_eq (eth : Json) (u : EthernetConfigUpdate) (author : Uuid) :
    diffEthernet eth u author =
      withCreate (eth.get u.name).isNone
        ((ethernetParts (eth.get u.name) u author).flatMap Prod.snd)
        (interfaceChange author .set (ethBase u.name) s!"Configure {u.name}") := by
  simp only [ethernetParts, List.flatMap_cons, List.flatMap_nil, List.append_nil]
  simp only [← List.append_assoc]
  rfl

/-- What the summaries of a VLAN diff call the VLAN. -/
def VlanConfigUpdate.name (u : VlanConfigUpdate) : String := s!"{u.parent}.{u.vlanId.repr}"

/-- The settings of a VLAN. -/
def vlanParts (live : Option Json) (u : VlanConfigUpdate) (author : Uuid) :
    List (Path × List NewConfigChange) :=
  let base := vifBase u.parent u.vlanId
  let mk := interfaceChange author
  [ (["description"], leafDiff mk (base ++ ["description"])
      (live.bind fun v ↦ v.childStr "description") (trimmed u.description)
      (fun d ↦ s!"{u.name}: description → {d}") s!"{u.name}: remove description"),
    (["address"], addressDiff mk base u.name ((live.map asAddresses).getD [])
      (trimmedList u.addresses)),
    (["mtu"], mtuDiff mk base u.name (live.bind asMtu) u.mtu),
    (["disable"], enabledDiff mk base u.name ((live.map Json.isEnabled).getD true) u.enabled)]

/-- The delete of the VLAN a move leaves. -/
def vlanDrop (u : VlanConfigUpdate) (author : Uuid) : List NewConfigChange :=
  match u.movedFrom with
  | some (op, ovid) =>
    [interfaceChange author .delete (vifBase op ovid) s!"Delete VLAN {op}.{ovid.repr}"]
  | none => []

/-- What a VLAN diff compares with. -/
def comparedVif (eth : Json) (u : VlanConfigUpdate) : Option Json :=
  if u.movedFrom.isSome then none else liveVif eth u.parent u.vlanId

/-- **A VLAN diff is its parts.** -/
theorem diffVlan_eq (eth : Json) (u : VlanConfigUpdate) (author : Uuid) :
    diffVlan eth u author = vlanDrop u author ++
      withCreate (comparedVif eth u).isNone
        ((vlanParts (comparedVif eth u) u author).flatMap Prod.snd)
        (interfaceChange author .set (vifBase u.parent u.vlanId) s!"Create VLAN {u.name}") := by
  simp only [vlanParts, List.flatMap_cons, List.flatMap_nil, List.append_nil]
  simp only [← List.append_assoc]
  rfl

/-! ### Their layout -/

section Layout

variable {schema : Schema}

theorem ethernetParts_layout (hschema : schema.Knows) (live : Option Json)
    (u : EthernetConfigUpdate) (author : Uuid) :
    Layout schema (ethBase u.name) (ethernetParts live u author) := by
  have hnic : schema.single (ethBase u.name) = false := hschema _ _ (.nic u.name)
  have hparent : ∀ k, schema.single ((ethBase u.name ++ [k]).dropLast) = false := fun k ↦ by
    rwa [List.dropLast_concat]
  have hpaths : (ethernetParts live u author).map Prod.fst =
      [["description"], ["address"], ["mtu"], ["speed"], ["duplex"], ["disable"]] := rfl
  constructor
  · rw [ethernetParts]
    simp only [List.forall_mem_cons, List.not_mem_nil, false_implies, implies_true, and_true]
    exact ⟨leafDiff_below (hparent _) _ _, addressDiff_below hnic _ _, mtuDiff_below hnic _ _,
      leafDiff_below (hparent _) _ _, leafDiff_below (hparent _) _ _, enabledDiff_below hnic _ _⟩
  · rw [← List.pairwise_map, hpaths]
    decide
  · rw [← List.forall_mem_map (P := (· ≠ [])), hpaths]
    decide

theorem vlanParts_layout (hschema : schema.Knows) (live : Option Json) (u : VlanConfigUpdate)
    (author : Uuid) : Layout schema (vifBase u.parent u.vlanId) (vlanParts live u author) := by
  have hvlan : schema.single (vifBase u.parent u.vlanId) = false :=
    hschema _ _ (.vlan u.parent u.vlanId)
  have hpaths : (vlanParts live u author).map Prod.fst =
      [["description"], ["address"], ["mtu"], ["disable"]] := rfl
  constructor
  · rw [vlanParts]
    simp only [List.forall_mem_cons, List.not_mem_nil, false_implies, implies_true, and_true]
    exact ⟨leafDiff_below (by rwa [List.dropLast_concat]) _ _, addressDiff_below hvlan _ _,
      mtuDiff_below hvlan _ _, enabledDiff_below hvlan _ _⟩
  · rw [← List.pairwise_map, hpaths]
    decide
  · rw [← List.forall_mem_map (P := (· ≠ [])), hpaths]
    decide

end Layout

/-! ### What the interfaces read as -/

/-- The live NIC `v` holds everything the update asks for. -/
@[mk_iff]
structure EthernetConfigUpdate.Holds (u : EthernetConfigUpdate) (v : Json) : Prop where
  description : v.childStr "description" = trimmed u.description
  addresses : ∀ a, a ∈ asAddresses v ↔ a ∈ trimmedList u.addresses
  mtu : asMtu v = u.mtu
  speed : v.childStr "speed" = trimmed u.speed
  duplex : v.childStr "duplex" = trimmed u.duplex
  enabled : v.isEnabled = u.enabled

/-- The live VLAN `v` holds everything the update asks for. -/
@[mk_iff]
structure VlanConfigUpdate.Holds (u : VlanConfigUpdate) (v : Json) : Prop where
  description : v.childStr "description" = trimmed u.description
  addresses : ∀ a, a ∈ asAddresses v ↔ a ∈ trimmedList u.addresses
  mtu : asMtu v = u.mtu
  enabled : v.isEnabled = u.enabled

theorem ethernetParts_eq_nil_iff {u : EthernetConfigUpdate} {v : Json} {author : Uuid} :
    (ethernetParts (some v) u author).flatMap Prod.snd = [] ↔ u.Holds v := by
  simp only [ethernetParts, List.flatMap_cons, List.flatMap_nil, List.append_eq_nil_iff,
    leafDiff_eq_nil_iff, enabledDiff_eq_nil_iff, addressDiff_eq_nil_iff, mtuDiff_eq_nil_iff,
    Option.bind_some, Option.map_some, Option.getD_some, and_true]
  rw [EthernetConfigUpdate.holds_iff]
  simp only [eq_comm]

theorem vlanParts_eq_nil_iff {u : VlanConfigUpdate} {v : Json} {author : Uuid} :
    (vlanParts (some v) u author).flatMap Prod.snd = [] ↔ u.Holds v := by
  simp only [vlanParts, List.flatMap_cons, List.flatMap_nil, List.append_eq_nil_iff,
    leafDiff_eq_nil_iff, enabledDiff_eq_nil_iff, addressDiff_eq_nil_iff, mtuDiff_eq_nil_iff,
    Option.bind_some, Option.map_some, Option.getD_some, and_true]
  rw [VlanConfigUpdate.holds_iff]
  simp only [eq_comm]

section Shown

variable {L L' : LiveConfig}

theorem get_shown_nic (name : String) :
    (L.shown ["interfaces", "ethernet"]).get name = L.tree.subtree (ethBase name) := get_shown

theorem liveVif_shown (parent : String) (vlanId : Int) :
    liveVif (L.shown ["interfaces", "ethernet"]) parent vlanId =
      L.tree.subtree (vifBase parent vlanId) := by
  have hsteps : vifBase parent vlanId = ethBase parent ++ ["vif", vlanId.repr] := rfl
  rw [liveVif, get_shown_nic, hsteps, Json.subtree_append_eq]
  cases L.tree.subtree (ethBase parent) with
  | none => rfl
  | some v =>
    show (v.get "vif").bind _ = (v.get "vif").bind (Json.subtree [vlanId.repr])
    simp only [Json.subtree_singleton]

theorem subtree_vlan_isSome_iff (hL : L.Fits) {parent : String} {vlanId : Int} :
    (L.tree.subtree (vifBase parent vlanId)).isSome = true ↔ vifBase parent vlanId ∈ L.nodes :=
  (LiveConfig.mem_nodes_branch (hL _ _ (.vlans parent))).symm

theorem subtree_nic_isSome_iff (hL : L.Fits) {name : String} :
    (L.tree.subtree (ethBase name)).isSome = true ↔ ethBase name ∈ L.nodes :=
  (LiveConfig.mem_nodes_branch (hL _ _ .ethernet)).symm

end Shown

/-! ### What they come to -/

section Settle

variable {schema : Schema} {L L' : LiveConfig} {author : Uuid}

/-- A VLAN update that is no move, executed. -/
theorem vlan_settles (hschema : schema.Knows) (hL : L.Fits) (hL' : L'.Fits)
    {u : VlanConfigUpdate} (hstays : u.movedFrom = none)
    (hmtu : ∀ m ∈ u.mtu, -2 ^ 31 ≤ m ∧ m < 2 ^ 31)
    (hexec : schema.Executes ((diffVlan (L.shown ["interfaces", "ethernet"]) u author).map
      NewConfigChange.command) L L') :
    (∃ v, liveVif (L'.shown ["interfaces", "ethernet"]) u.parent u.vlanId = some v ∧ u.Holds v) ∧
      Framed (vifBase u.parent u.vlanId) [["description"], ["address"], ["mtu"], ["disable"]] L L' ∧
      diffVlan (L'.shown ["interfaces", "ethernet"]) u author = [] := by
  have hcompared : ∀ M : LiveConfig, comparedVif (M.shown ["interfaces", "ethernet"]) u =
      M.tree.subtree (vifBase u.parent u.vlanId) := fun M ↦ by
    rw [comparedVif, hstays]
    exact liveVif_shown u.parent u.vlanId
  have hdrop : vlanDrop u author = [] := by rw [vlanDrop, hstays]
  have hlayout := vlanParts_layout hschema (L.tree.subtree (vifBase u.parent u.vlanId)) u author
  have halone : schema.single (vifBase u.parent u.vlanId).dropLast = false :=
    hschema _ _ (.vlans u.parent)
  rw [diffVlan_eq, hcompared, hdrop, List.nil_append] at hexec
  have hframed := hlayout.framed rfl halone hexec
  have hbase := hlayout.base_mem rfl halone rfl (new_or_mem (subtree_vlan_isSome_iff hL)) hexec
  have hev : ∀ x ∈ vlanParts (L.tree.subtree (vifBase u.parent u.vlanId)) u author,
      Evolves schema (vifBase u.parent u.vlanId ++ x.1) x.2 L L' :=
    fun x hx ↦ hlayout.evolves_alone rfl halone hexec hx
  simp only [vlanParts, List.forall_mem_cons] at hev
  obtain ⟨hdescription, haddress, hmtuPart, hdisable, -⟩ := hev
  obtain ⟨v, hv⟩ := Option.isSome_iff_exists.1
    ((subtree_vlan_isSome_iff hL').2 hbase)
  have hholds : u.Holds v := by
    constructor
    case description =>
      have htext := hdescription.text childStr_eq_text (hL' _ _ (.vlanDescription _ _))
        (trimmed_trimmed _)
      rwa [← childStr_eq_text, hv] at htext
    case addresses =>
      have hvalues := haddress.addresses asAddresses_eq_values (hL _ _ (.vlanAddresses _ _))
        (hL' _ _ (.vlanAddresses _ _)) (hschema _ _ (.vlanAddresses _ _))
      rwa [← asAddresses_eq_values, hv] at hvalues
    case mtu =>
      have hnumber := hmtuPart.number asMtu_eq_number (hL' _ _ (.vlanMtu _ _)) hmtu
      rwa [← asMtu_eq_number, hv] at hnumber
    case enabled =>
      rw [enabledDiff_eq] at hdisable
      have hflag := hdisable.flag (isEnabled_iff (hL _ _ (.vlan _ _)))
      rw [← isEnabled_iff (hL' _ _ (.vlan _ _)), hv] at hflag
      simpa using hflag
  refine ⟨⟨v, ?_, hholds⟩, hframed, ?_⟩
  · rw [liveVif_shown, hv]
  · rw [diffVlan_eq, hcompared, hdrop, List.nil_append, hv, vlanParts_eq_nil_iff.2 hholds]
    rfl

/-- An ethernet update, executed. -/
theorem ethernet_settles (hschema : schema.Knows) (hL : L.Fits) (hL' : L'.Fits)
    {u : EthernetConfigUpdate} (hmtu : ∀ m ∈ u.mtu, -2 ^ 31 ≤ m ∧ m < 2 ^ 31)
    (hexec : schema.Executes ((diffEthernet (L.shown ["interfaces", "ethernet"]) u author).map
      NewConfigChange.command) L L') :
    (∃ v, (L'.shown ["interfaces", "ethernet"]).get u.name = some v ∧ u.Holds v) ∧
      Framed (ethBase u.name)
        [["description"], ["address"], ["mtu"], ["speed"], ["duplex"], ["disable"]] L L' ∧
      diffEthernet (L'.shown ["interfaces", "ethernet"]) u author = [] := by
  have hlayout := ethernetParts_layout hschema (L.tree.subtree (ethBase u.name)) u author
  have halone : schema.single (ethBase u.name).dropLast = false := hschema _ _ .ethernet
  rw [diffEthernet_eq, get_shown_nic] at hexec
  have hframed := hlayout.framed rfl halone hexec
  have hbase := hlayout.base_mem rfl halone rfl (new_or_mem (subtree_nic_isSome_iff hL)) hexec
  have hev : ∀ x ∈ ethernetParts (L.tree.subtree (ethBase u.name)) u author,
      Evolves schema (ethBase u.name ++ x.1) x.2 L L' :=
    fun x hx ↦ hlayout.evolves_alone rfl halone hexec hx
  simp only [ethernetParts, List.forall_mem_cons] at hev
  obtain ⟨hdescription, haddress, hmtuPart, hspeed, hduplex, hdisable, -⟩ := hev
  obtain ⟨v, hv⟩ := Option.isSome_iff_exists.1
    ((subtree_nic_isSome_iff hL').2 hbase)
  have hholds : u.Holds v := by
    constructor
    case description =>
      have htext := hdescription.text childStr_eq_text (hL' _ _ (.nicLeaf _ (by decide)))
        (trimmed_trimmed _)
      rwa [← childStr_eq_text, hv] at htext
    case addresses =>
      have hvalues := haddress.addresses asAddresses_eq_values (hL _ _ (.nicAddresses _))
        (hL' _ _ (.nicAddresses _)) (hschema _ _ (.nicAddresses _))
      rwa [← asAddresses_eq_values, hv] at hvalues
    case mtu =>
      have hnumber := hmtuPart.number asMtu_eq_number (hL' _ _ (.nicMtu _)) hmtu
      rwa [← asMtu_eq_number, hv] at hnumber
    case speed =>
      have htext := hspeed.text childStr_eq_text (hL' _ _ (.nicLeaf _ (by decide)))
        (trimmed_trimmed _)
      rwa [← childStr_eq_text, hv] at htext
    case duplex =>
      have htext := hduplex.text childStr_eq_text (hL' _ _ (.nicLeaf _ (by decide)))
        (trimmed_trimmed _)
      rwa [← childStr_eq_text, hv] at htext
    case enabled =>
      rw [enabledDiff_eq] at hdisable
      have hflag := hdisable.flag (isEnabled_iff (hL _ _ (.nic _)))
      rw [← isEnabled_iff (hL' _ _ (.nic _)), hv] at hflag
      simpa using hflag
  refine ⟨⟨v, ?_, hholds⟩, hframed, ?_⟩
  · rw [get_shown_nic, hv]
  · rw [diffEthernet_eq, get_shown_nic, hv, ethernetParts_eq_nil_iff.2 hholds]
    rfl

/-- **The interface diffs settle.** Executed, a VLAN update that is no move and an ethernet update
leave the interface there and as asked for, everything else as it was, and nothing to say. -/
theorem interfaceDiffs_settle (hschema : schema.Knows) (hL : L.Fits) (hL' : L'.Fits) :
    (∀ (u : VlanConfigUpdate) (author : Uuid), u.movedFrom = none →
      (∀ m ∈ u.mtu, -2 ^ 31 ≤ m ∧ m < 2 ^ 31) →
      schema.Executes ((diffVlan (L.shown ["interfaces", "ethernet"]) u author).map
        NewConfigChange.command) L L' →
      (∃ v, liveVif (L'.shown ["interfaces", "ethernet"]) u.parent u.vlanId = some v ∧ u.Holds v) ∧
        Framed (vifBase u.parent u.vlanId)
          [["description"], ["address"], ["mtu"], ["disable"]] L L' ∧
        diffVlan (L'.shown ["interfaces", "ethernet"]) u author = []) ∧
      ∀ (u : EthernetConfigUpdate) (author : Uuid), (∀ m ∈ u.mtu, -2 ^ 31 ≤ m ∧ m < 2 ^ 31) →
        schema.Executes ((diffEthernet (L.shown ["interfaces", "ethernet"]) u author).map
          NewConfigChange.command) L L' →
        (∃ v, (L'.shown ["interfaces", "ethernet"]).get u.name = some v ∧ u.Holds v) ∧
          Framed (ethBase u.name)
            [["description"], ["address"], ["mtu"], ["speed"], ["duplex"], ["disable"]] L L' ∧
          diffEthernet (L'.shown ["interfaces", "ethernet"]) u author = [] :=
  ⟨fun _ _ hstays hmtu hexec ↦ vlan_settles hschema hL hL' hstays hmtu hexec,
    fun _ _ hmtu hexec ↦ ethernet_settles hschema hL hL' hmtu hexec⟩

end Settle

/-- A NIC with a VLAN. -/
def nicWith (nic vlan : List (String × Json)) : LiveConfig :=
  .ofTree (.obj [("interfaces", .obj [("ethernet", .obj [("eth0",
    .obj (nic ++ [("vif", .obj [("10", .obj vlan)])]))])])])

def dhcpNic : LiveConfig := nicWith [("address", .str "dhcp")] [("address", .str "10.0.10.1/24")]

def labNic : LiveConfig :=
  nicWith [("address", .str "dhcp")]
    [("address", .arr [.str "10.0.10.1/24", .str "10.0.11.1/24"]), ("description", .str "lab"),
      ("mtu", .str "1400"), ("disable", .obj [])]

def uplinkNic : LiveConfig :=
  nicWith [("address", .str "192.0.2.1/24"), ("duplex", .str "full"), ("speed", .str "1000")]
    [("address", .str "10.0.10.1/24")]

/-- A VLAN that is disabled, and a NIC that goes from DHCP to a fixed address. -/
theorem interfaceDiffs_settle_dhcp :
    (∃ v, liveVif (labNic.shown ["interfaces", "ethernet"]) "eth0" 10 = some v ∧
        v.childStr "description" = some "lab") ∧
      ∃ v, (uplinkNic.shown ["interfaces", "ethernet"]).get "eth0" = some v ∧
        v.childStr "speed" = some "1000" := by
  have hdhcp : dhcpNic.Fits := LiveConfig.fits_of_check (by decide)
  constructor
  · have hlab : labNic.Fits := LiveConfig.fits_of_check (by decide)
    obtain ⟨⟨v, hv, hholds⟩, -⟩ := (interfaceDiffs_settle deviceSchema_knows hdhcp hlab).1
      ⟨"eth0", 10, some " lab ", ["10.0.11.1/24", "10.0.10.1/24", " "], some 1400, false, none,
        none⟩
      1 rfl (by decide) (Schema.executes_of_check (by decide))
    exact ⟨v, hv, hholds.description⟩
  · have huplink : uplinkNic.Fits := LiveConfig.fits_of_check (by decide)
    obtain ⟨⟨v, hv, hholds⟩, -⟩ := (interfaceDiffs_settle deviceSchema_knows hdhcp huplink).2
      ⟨"eth0", none, ["192.0.2.1/24"], none, some "1000", some "full", true⟩
      1 (by decide) (Schema.executes_of_check (by decide))
    exact ⟨v, hv, hholds.speed⟩

end VyosFabric
