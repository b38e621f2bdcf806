import VyosFabric.Diff.Interfaces
import VyosFabric.Model.Text
import VyosFabric.Routes.Partition

/-!
# The interface lists

What `list_ethernet` and `list_vlan` make of the `ethernet` map. A VLAN is listed under its parent
with the number its key parses as. Where the keys are numerals of 32 bits, every VLAN is listed
once, and its row leads back to it (`mem_listVlan_iff`, `nodup_listVlan`, `liveVif_of_mem`).
-/

namespace VyosFabric

/-- One row of the ethernet list. -/
structure EthernetInterface where
  name : String
  description : Option String
  addresses : List String
  mtu : Option Int
  hwId : Option String
  speed : Option String
  duplex : Option String
  enabled : Bool
  vlanCount : Int
  deriving DecidableEq, Repr

/-- One row of the VLAN list. -/
structure VlanInterface where
  name : String
  parent : String
  vlanId : Int
  description : Option String
  addresses : List String
  mtu : Option Int
  enabled : Bool
  deriving DecidableEq, Repr

/-- The row of a NIC. -/
def ethernetRow (name : String) (cfg : Json) : EthernetInterface where
  name := name
  description := cfg.childStr "description"
  addresses := asAddresses cfg
  mtu := asMtu cfg
  hwId := cfg.childStr "hw-id"
  speed := cfg.childStr "speed"
  duplex := cfg.childStr "duplex"
  enabled := cfg.isEnabled
  vlanCount := asI32 ((cfg.idx "vif").entries.length : Int)

/-- `list_ethernet`, from the `ethernet` map. -/
def listEthernet (data : Json) : List EthernetInterface :=
  (data.entries.map fun x ↦ ethernetRow x.1 x.2).insertionSort fun a b ↦ a.name ≤ b.name

/-- The row of a VLAN; a key that is no number of 32 bits is listed as 0. -/
def vlanRow (parent vid : String) (vcfg : Json) : VlanInterface where
  name := parent ++ "." ++ vid
  parent := parent
  vlanId := (parseI32 vid).getD 0
  description := vcfg.childStr "description"
  addresses := asAddresses vcfg
  mtu := asMtu vcfg
  enabled := vcfg.isEnabled

/-- `list_vlan`, from the `ethernet` map. -/
def listVlan (data : Json) : List VlanInterface :=
  (data.entries.flatMap fun x ↦ (x.2.idx "vif").entries.map fun y ↦
    vlanRow x.1 y.1 y.2).insertionSort fun a b ↦ a.name ≤ b.name

theorem mem_listEthernet_iff {data : Json} {r : EthernetInterface} :
    r ∈ listEthernet data ↔ ∃ cfg, data.get r.name = some cfg ∧ r = ethernetRow r.name cfg := by
  rw [listEthernet, List.mem_insertionSort, List.mem_map]
  constructor
  · rintro ⟨⟨name, cfg⟩, hmem, rfl⟩
    exact ⟨cfg, Json.mem_entries.1 hmem, rfl⟩
  · rintro ⟨cfg, hget, hr⟩
    exact ⟨(r.name, cfg), Json.mem_entries.2 hget, hr.symm⟩

/-! ### VLANs by key and by number -/

/-- `v` is the config of the VLAN of `parent` with the key `vid`. -/
def IsVif (data : Json) (parent vid : String) (v : Json) : Prop :=
  ∃ cfg, data.get parent = some cfg ∧ (cfg.idx "vif").get vid = some v

theorem mem_listVlan_iff {data : Json} {r : VlanInterface} :
    r ∈ listVlan data ↔ ∃ vid v, IsVif data r.parent vid v ∧ r = vlanRow r.parent vid v := by
  rw [listVlan, List.mem_insertionSort, List.mem_flatMap]
  constructor
  · rintro ⟨⟨parent, cfg⟩, hcfg, hr⟩
    obtain ⟨⟨vid, v⟩, hv, rfl⟩ := List.mem_map.1 hr
    exact ⟨vid, v, ⟨cfg, Json.mem_entries.1 hcfg, Json.mem_entries.1 hv⟩, rfl⟩
  · rintro ⟨vid, v, ⟨cfg, hcfg, hv⟩, hr⟩
    refine ⟨(r.parent, cfg), Json.mem_entries.2 hcfg, List.mem_map.2 ⟨(vid, v), ?_, hr.symm⟩⟩
    exact Json.mem_entries.2 hv

theorem liveVif_eq_some_iff {data : Json} {parent : String} {vlanId : Int} {v : Json} :
    liveVif data parent vlanId = some v ↔ IsVif data parent vlanId.repr v := by
  have hidx : ∀ cfg : Json, (cfg.idx "vif").get vlanId.repr =
      (cfg.get "vif").bind fun vifs ↦ vifs.get vlanId.repr := by
    intro cfg
    rw [Json.idx]
    cases cfg.get "vif" <;> rfl
  rw [liveVif, IsVif, Option.bind_assoc, Option.bind_eq_some_iff]
  simp only [hidx]

/-- The keys of the VLANs are canonical decimal numbers. -/
def CanonicalVifs (data : Json) : Prop :=
  ∀ parent vid v, IsVif data parent vid v → ∃ n : ℕ, vid = n.repr

/-- They are, and have 32 bits. -/
def NumberedVifs (data : Json) : Prop :=
  ∀ parent vid v, IsVif data parent vid v → ∃ n : ℕ, n < 2 ^ 31 ∧ vid = n.repr

theorem vlanId_vlanRow {n : ℕ} (hn : n < 2 ^ 31) (parent : String) (v : Json) :
    (vlanRow parent n.repr v).vlanId = n := by
  have hparse : parseI32 n.repr = some (n : Int) := @parseI32_repr n (by omega) (by omega)
  show (parseI32 n.repr).getD 0 = n
  rw [hparse]
  rfl

/-- **A row leads back to its VLAN.** -/
theorem liveVif_of_mem {data : Json} (hkeys : NumberedVifs data) {r : VlanInterface}
    (hr : r ∈ listVlan data) :
    ∃ v, liveVif data r.parent r.vlanId = some v ∧ r = vlanRow r.parent r.vlanId.repr v := by
  obtain ⟨vid, v, hvif, hrow⟩ := mem_listVlan_iff.1 hr
  obtain ⟨n, hn, rfl⟩ := hkeys _ _ _ hvif
  have hid : r.vlanId = n := by rw [hrow, vlanId_vlanRow hn]
  rw [hid]
  exact ⟨v, liveVif_eq_some_iff.2 hvif, hrow⟩

/-- **No two rows have one identity.** -/
theorem nodup_listVlan {data : Json} (hkeys : NumberedVifs data) :
    ((listVlan data).map fun r ↦ (r.parent, r.vlanId)).Nodup := by
  have hperm := List.perm_insertionSort (fun a b : VlanInterface ↦ a.name ≤ b.name)
    (data.entries.flatMap fun x ↦ (x.2.idx "vif").entries.map fun y ↦ vlanRow x.1 y.1 y.2)
  refine (hperm.map _).nodup_iff.2 ?_
  rw [List.map_flatMap, List.nodup_flatMap]
  constructor
  · rintro ⟨parent, cfg⟩ hcfg
    have hsplit : ((cfg.idx "vif").entries.map fun y ↦ vlanRow parent y.1 y.2).map
        (fun r ↦ (r.parent, r.vlanId)) =
        ((cfg.idx "vif").entries.map Prod.fst).map fun vid ↦ (parent, (parseI32 vid).getD 0) := by
      rw [List.map_map, List.map_map]
      rfl
    rw [hsplit]
    refine (Json.nodup_keys_entries _).map_on fun vid hvid vid' hvid' heq ↦ ?_
    have hnumber : ∀ vid ∈ (cfg.idx "vif").entries.map Prod.fst,
        ∃ n : ℕ, vid = n.repr ∧ (parseI32 vid).getD 0 = n := by
      intro vid hvid
      obtain ⟨⟨vid, v⟩, hv, rfl⟩ := List.mem_map.1 hvid
      obtain ⟨n, hn, hrepr⟩ :=
        hkeys parent vid v ⟨cfg, Json.mem_entries.1 hcfg, Json.mem_entries.1 hv⟩
      exact ⟨n, hrepr, hrepr ▸ vlanId_vlanRow hn parent v⟩
    obtain ⟨n, rfl, hn⟩ := hnumber vid hvid
    obtain ⟨n', rfl, hn'⟩ := hnumber vid' hvid'
    have hsame : (n : Int) = n' := by rw [← hn, ← hn', (Prod.mk.inj heq).2]
    rw [Int.ofNat_inj.1 hsame]
  · have hkeys := (Json.nodup_keys_entries data)
    rw [List.Nodup, List.pairwise_map] at hkeys
    refine hkeys.imp fun {x y} hne ↦ ?_
    intro r hr hr'
    obtain ⟨r₁, hr₁, rfl⟩ := List.mem_map.1 hr
    obtain ⟨r₂, hr₂, heq⟩ := List.mem_map.1 hr'
    obtain ⟨_, -, rfl⟩ := List.mem_map.1 hr₁
    obtain ⟨_, -, rfl⟩ := List.mem_map.1 hr₂
    exact hne (Prod.mk.inj heq).1.symm

end VyosFabric
