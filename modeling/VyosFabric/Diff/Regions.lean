import VyosFabric.Diff.Entities
import VyosFabric.Model.LiveConfig

/-!
# Regions of the config tree

The region of an entity is the part of the tree its page edits. Regions of different entities are
disjoint (`eq_of_mem_region`). A change drops nodes of its own entity's region only
(`Entity.Owns.mem_region_of_drops`), and adds nodes of no other, with one exception: a VLAN brings
its NIC into being (`Entity.Owns.adds_cases`), whose node is in the NIC's region. Nothing drops that
node (`Entity.Owns.not_drops_ethBase`).
-/

namespace VyosFabric

open PathTree

/-- The command of a change, as an edit of the tree. -/
def NewConfigChange.edit (c : NewConfigChange) : Edit String := c.command.edit

/-- The part of the tree the entity's page edits. -/
def Entity.region : Entity → Set Path
  | system => {q | (∃ r, q = "system" :: r) ∨ ∃ r, q = "service" :: "ntp" :: r}
  | globalOptions => {q | ∃ r, q = globalOptionsBase ++ r}
  | nic name => {q | ∃ r, q = ethBase name ++ r ∧ r.head? ≠ some "vif"}
  | vlan parent vlanId => {q | ∃ r, q = vifBase parent vlanId ++ r}
  | rule sect n => {q | ∃ r, q = ruleBase sect n ++ r}

/-- **Regions are disjoint.** -/
theorem eq_of_mem_region {e f : Entity} {q : Path} (he : q ∈ e.region) (hf : q ∈ f.region) :
    e = f := by
  cases e with
  | system =>
    rcases he with ⟨r, rfl⟩ | ⟨r, rfl⟩ <;>
      cases f <;> simp_all [Entity.region, globalOptionsBase, ethBase, vifBase, ruleBase]
  | globalOptions =>
    obtain ⟨r, rfl⟩ := he
    cases f <;> simp_all [Entity.region, globalOptionsBase, ethBase, vifBase, ruleBase]
  | nic name =>
    obtain ⟨r, rfl, hvif⟩ := he
    cases f with
    | vlan parent vid =>
      -- the one pair whose paths share more than a root: `vif` keeps them apart
      obtain ⟨r', hr'⟩ := hf
      simp only [ethBase, vifBase, List.cons_append, List.nil_append, List.cons.injEq,
        true_and] at hr'
      obtain ⟨-, rfl⟩ := hr'
      simp at hvif
    | system | globalOptions | nic | rule =>
      simp_all [Entity.region, globalOptionsBase, ethBase, ruleBase]
  | vlan parent vid =>
    obtain ⟨r, rfl⟩ := he
    cases f with
    | nic name =>
      obtain ⟨r', hr', hvif⟩ := hf
      simp only [ethBase, vifBase, List.cons_append, List.nil_append, List.cons.injEq,
        true_and] at hr'
      obtain ⟨-, rfl⟩ := hr'
      simp at hvif
    | system | globalOptions | vlan | rule =>
      simp_all [Entity.region, globalOptionsBase, vifBase, ruleBase, Int.repr_inj]
  | rule sect n =>
    obtain ⟨r, rfl⟩ := he
    cases f <;>
      simp_all [Entity.region, globalOptionsBase, ethBase, vifBase, ruleBase, Nat.repr_inj]

/-! ### What a change does to the tree -/

theorem adds_edit {c : NewConfigChange} {q : Path} :
    c.edit.adds q ↔ c.op = .set ∧ q <+: c.path := by
  obtain ⟨op, path, summary, sect, author⟩ := c
  cases op with
  | set => exact ⟨fun h ↦ ⟨rfl, h⟩, fun h ↦ h.2⟩
  | delete => exact ⟨False.elim, fun h ↦ nomatch h.1⟩

theorem drops_edit {c : NewConfigChange} {single : Path → Bool} {q : Path} :
    c.edit.drops single q ↔
      c.op = .set ∧ Replaces single c.path q ∨ c.op = .delete ∧ c.path <+: q := by
  obtain ⟨op, path, summary, sect, author⟩ := c
  cases op with
  | set => simp [NewConfigChange.edit, NewConfigChange.command, Command.edit, Edit.drops]
  | delete => simp [NewConfigChange.edit, NewConfigChange.command, Command.edit, Edit.drops]

/-- A change under a base drops nodes under the base only, unless it sets the base itself and the
parent holds one child. -/
theorem prefix_of_drops {c : NewConfigChange} {schema : Schema} {p r q : Path}
    (hpath : c.path = p ++ r)
    (hparent : c.op = .set → r = [] → schema.single p.dropLast = false)
    (hdrops : c.edit.drops schema.single q) : p <+: q := by
  rcases drops_edit.1 hdrops with ⟨hset, hreplaces⟩ | ⟨-, hbelow⟩
  · rw [hpath] at hreplaces
    cases r with
    | nil =>
      rw [List.append_nil] at hreplaces
      exact absurd hreplaces (not_replaces (hparent hset rfl))
    | cons k r =>
      have hq := hreplaces.parent_prefix
      rw [List.dropLast_append_of_ne_nil (List.cons_ne_nil k r)] at hq
      exact (List.prefix_append p _).trans hq
  · rw [hpath] at hbelow
    exact (List.prefix_append p r).trans hbelow

/-- What a change of a NIC drops is below one of its settings. -/
theorem exists_setting_of_drops {c : NewConfigChange} {schema : Schema} {name : String} {q : Path}
    (howns : (Entity.nic name).Owns c) (hdrops : c.edit.drops schema.single q) :
    ∃ k r, k ≠ "vif" ∧ q = ethBase name ++ k :: r := by
  obtain ⟨-, r, hpath, hvif, hdelete⟩ := howns
  cases r with
  | nil =>
    rcases drops_edit.1 hdrops with ⟨-, hreplaces⟩ | ⟨hop, -⟩
    · rw [hpath, List.append_nil] at hreplaces
      exact absurd hreplaces (not_replaces schema.ethernet)
    · exact absurd rfl (hdelete hop)
  | cons k r =>
    -- the setting is below the NIC, which holds many, so the put reaches no further up
    have hbelow : ethBase name ++ [k] <+: q :=
      prefix_of_drops (r := r) (by rw [hpath, List.append_assoc]; rfl) (fun _ _ ↦ schema.nic name)
        hdrops
    obtain ⟨r', rfl⟩ := hbelow
    exact ⟨k, r', by simpa using hvif, List.append_assoc _ _ _⟩

/-- **A change drops nodes of its own region only.** -/
theorem Entity.Owns.mem_region_of_drops {e : Entity} {c : NewConfigChange} {schema : Schema}
    {q : Path} (howns : e.Owns c) (hdrops : c.edit.drops schema.single q) : q ∈ e.region := by
  cases e with
  | system =>
    obtain ⟨-, ⟨r, hr, hpath⟩ | ⟨r, hpath, hset⟩⟩ := howns
    · obtain ⟨r', rfl⟩ :=
        prefix_of_drops (p := ["system"]) hpath (fun _ hnil ↦ absurd hnil hr) hdrops
      exact Or.inl ⟨r', rfl⟩
    · obtain ⟨r', rfl⟩ := prefix_of_drops (p := ["service", "ntp"]) hpath
        (fun hop hnil ↦ absurd hnil (hset hop)) hdrops
      exact Or.inr ⟨r', rfl⟩
  | globalOptions =>
    obtain ⟨-, r, hr, hpath⟩ := howns
    obtain ⟨r', rfl⟩ := prefix_of_drops hpath (fun _ hnil ↦ absurd hnil hr) hdrops
    exact ⟨r', rfl⟩
  | nic name =>
    obtain ⟨k, r, hk, rfl⟩ := exists_setting_of_drops howns hdrops
    exact ⟨k :: r, rfl, by simpa using hk⟩
  | vlan parent vid =>
    obtain ⟨-, r, hpath⟩ := howns
    obtain ⟨r', rfl⟩ := prefix_of_drops hpath (fun _ _ ↦ schema.vif parent) hdrops
    exact ⟨r', rfl⟩
  | rule sect n =>
    obtain ⟨-, r, hpath⟩ := howns
    obtain ⟨r', rfl⟩ := prefix_of_drops hpath (fun _ _ ↦ schema.rule sect) hdrops
    exact ⟨r', rfl⟩

/-- **Nothing drops a NIC.** -/
theorem Entity.Owns.not_drops_ethBase {e : Entity} {c : NewConfigChange} {schema : Schema}
    {name : String} (howns : e.Owns c) : ¬c.edit.drops schema.single (ethBase name) := by
  intro hdrops
  have hnic : ethBase name ∈ (Entity.nic name).region := ⟨[], (List.append_nil _).symm, by simp⟩
  obtain rfl := eq_of_mem_region (howns.mem_region_of_drops hdrops) hnic
  obtain ⟨k, r, -, heq⟩ := exists_setting_of_drops howns hdrops
  have hlen := congrArg List.length heq
  simp [ethBase] at hlen

/-- A change is in the region of its entity. -/
theorem Entity.Owns.path_mem_region {e : Entity} {c : NewConfigChange} (howns : e.Owns c) :
    c.path ∈ e.region := by
  cases e with
  | system =>
    obtain ⟨-, ⟨r, -, hpath⟩ | ⟨r, hpath, -⟩⟩ := howns
    · exact Or.inl ⟨r, hpath⟩
    · exact Or.inr ⟨r, hpath⟩
  | globalOptions =>
    obtain ⟨-, r, -, hpath⟩ := howns
    exact ⟨r, hpath⟩
  | nic name =>
    obtain ⟨-, r, hpath, hvif, -⟩ := howns
    exact ⟨r, hpath, hvif⟩
  | vlan | rule =>
    obtain ⟨-, r, hpath⟩ := howns
    exact ⟨r, hpath⟩

/-- A region goes down the tree, but for the VLANs of a NIC. -/
theorem mem_region_of_prefix {f : Entity} {q p : Path} (hq : q ∈ f.region) (hbelow : q <+: p) :
    p ∈ f.region ∨ ∃ name, f = .nic name ∧ q = ethBase name := by
  obtain ⟨t, rfl⟩ := hbelow
  cases f with
  | system =>
    rcases hq with ⟨r, rfl⟩ | ⟨r, rfl⟩
    · exact Or.inl (Or.inl ⟨r ++ t, rfl⟩)
    · exact Or.inl (Or.inr ⟨r ++ t, rfl⟩)
  | nic name =>
    obtain ⟨r, rfl, hvif⟩ := hq
    cases r with
    | nil => exact Or.inr ⟨name, rfl, List.append_nil _⟩
    | cons k r => exact Or.inl ⟨k :: r ++ t, List.append_assoc _ _ _, hvif⟩
  | globalOptions | vlan | rule =>
    obtain ⟨r, rfl⟩ := hq
    exact Or.inl ⟨r ++ t, List.append_assoc _ _ _⟩

/-- **A change adds nodes of its own region**, and the NIC of a VLAN. -/
theorem Entity.Owns.adds_cases {e f : Entity} {c : NewConfigChange} {q : Path} (howns : e.Owns c)
    (hadds : c.edit.adds q) (hq : q ∈ f.region) :
    e = f ∨ ∃ name, f = .nic name ∧ q = ethBase name := by
  rcases mem_region_of_prefix hq (adds_edit.1 hadds).2 with hpath | hnic
  · exact Or.inl (eq_of_mem_region howns.path_mem_region hpath)
  · exact Or.inr hnic

end VyosFabric
