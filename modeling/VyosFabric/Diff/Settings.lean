import VyosFabric.Diff.Parts
import VyosFabric.Diff.Regions
import VyosFabric.Model.Shapes
import VyosFabric.PathTree.Effective

/-!
# The settings the pages edit

Every node a staging page edits has a shape of its own (`Setting`): the device's schema says which
of them hold one value (`Schema.Knows`), and a live config shows them accordingly
(`LiveConfig.Fits`).

`Executes` relates a live config to the one after a batch: its nodes are those of the batch's edits,
and a subtree that no command touches is shown as before.

A diff is laid out in parts, each below a path of its own (`Layout`). What the batch makes of a path
below a part is what the part makes of it (`Layout.evolves`), so each setting can be looked at
alone.
-/

namespace VyosFabric

open PathTree

/-! ### Shapes -/

/-- A node of the shape holds one value. -/
def Shape.isSingle : Shape → Bool
  | leaf | number => true
  | branch | leaves => false

/-- The NTP subtree of one of the versions. -/
def IsNtpBase (base : Path) : Prop := base = ["system", "ntp"] ∨ base = ["service", "ntp"]

/-- The states of the state policy. -/
def stateKeys : List String := ["established", "related", "invalid"]

/-- `global-options state-policy <state>`. -/
def stateBase (state : String) : Path := globalOptionsBase ++ ["state-policy", state]

/-- The nodes the pages edit, and the shape of each. -/
inductive Setting : Path → Shape → Prop
  | root : Setting [] .branch
  | system : Setting ["system"] .branch
  | service : Setting ["service"] .branch
  | systemLeaf {key : String} (h : key ∈ ["host-name", "domain-name", "time-zone"]) :
      Setting ["system", key] .leaf
  | ntp {base : Path} (h : IsNtpBase base) : Setting base .branch
  | ntpServers {base : Path} (h : IsNtpBase base) : Setting (base ++ ["server"]) .branch
  | firewall : Setting ["firewall"] .branch
  | globalOptions : Setting globalOptionsBase .branch
  | option {key : String} (h : key ∈ "resolver-interval" :: singleKeys) :
      Setting (globalOptionsBase ++ [key]) .leaf
  | statePolicy : Setting (globalOptionsBase ++ ["state-policy"]) .branch
  | state {state : String} (h : state ∈ stateKeys) : Setting (stateBase state) .branch
  | stateAction {state : String} (h : state ∈ stateKeys) :
      Setting (stateBase state ++ ["action"]) .leaf
  | stateLogOptions {state : String} (h : state ∈ stateKeys) :
      Setting (stateBase state ++ ["log-options"]) .branch
  | stateLogLevel {state : String} (h : state ∈ stateKeys) :
      Setting (stateBase state ++ ["log-options", "level"]) .leaf
  | ethernet : Setting ["interfaces", "ethernet"] .branch
  | nic (name : String) : Setting (ethBase name) .branch
  | nicLeaf (name : String) {key : String} (h : key ∈ ["description", "speed", "duplex"]) :
      Setting (ethBase name ++ [key]) .leaf
  | nicMtu (name : String) : Setting (ethBase name ++ ["mtu"]) .number
  | nicAddresses (name : String) : Setting (ethBase name ++ ["address"]) .leaves
  | vlans (name : String) : Setting (ethBase name ++ ["vif"]) .branch
  | vlan (parent : String) (vlanId : Int) : Setting (vifBase parent vlanId) .branch
  | vlanDescription (parent : String) (vlanId : Int) :
      Setting (vifBase parent vlanId ++ ["description"]) .leaf
  | vlanMtu (parent : String) (vlanId : Int) : Setting (vifBase parent vlanId ++ ["mtu"]) .number
  | vlanAddresses (parent : String) (vlanId : Int) :
      Setting (vifBase parent vlanId ++ ["address"]) .leaves
  | rules (sect : String) : Setting ["nat", sect, "rule"] .branch
  | rule (sect : String) (n : ℕ) : Setting (ruleBase sect n) .branch
  | ruleLeaf (sect : String) (n : ℕ) {key : String} (h : key ∈ ["description", "protocol"]) :
      Setting (ruleBase sect n ++ [key]) .leaf
  | side (sect : String) (n : ℕ) {key : String}
      (h : key ∈ ["source", "destination", "translation"]) :
      Setting (ruleBase sect n ++ [key]) .branch
  | sideLeaf (sect : String) (n : ℕ) {key leaf : String}
      (h : key ∈ ["source", "destination", "translation"]) (hleaf : leaf ∈ ["address", "port"]) :
      Setting (ruleBase sect n ++ [key, leaf]) .leaf
  | interface (sect : String) (n : ℕ) {kind : String} (h : kind ∈ ["name", "group"]) :
      Setting (ruleBase sect n ++ [ifaceKeyOf sect, kind]) .leaf

/-- The schema knows which of the settings hold one value. -/
def Schema.Knows (schema : Schema) : Prop :=
  ∀ p shape, Setting p shape → schema.single p = shape.isSingle

/-- The live config shows each setting by its shape. -/
def LiveConfig.Fits (L : LiveConfig) : Prop := ∀ p shape, Setting p shape → L.HasShape p shape

/-- What a look at `path` shows; `Null` where there is nothing. -/
def LiveConfig.shown (L : LiveConfig) (path : Path) : Json := (L.tree.subtree path).getD .null

/-! ### What a batch makes of a config -/

/-- `L'` is what the device holds after the batch: its nodes are those of the edits, and what no
command touches is shown as before. -/
structure Schema.Executes (schema : Schema) (batch : List Command) (L L' : LiveConfig) : Prop where
  nodes : L'.nodes = schema.run batch L.nodes
  untouched : ∀ p, (∀ q, p <+: q → ∀ c ∈ batch, ¬c.edit.touches schema.single q) →
    L'.tree.subtree p = L.tree.subtree p

/-- Below `p`, the changes alone make `L'` of `L`. -/
structure Evolves (schema : Schema) (p : Path) (changes : List NewConfigChange)
    (L L' : LiveConfig) : Prop where
  nodes : ∀ q, p <+: q →
    (q ∈ L'.nodes ↔ q ∈ applyAll schema.single (changes.map NewConfigChange.edit) L.nodes)
  same : changes = [] → L'.tree.subtree p = L.tree.subtree p

/-- `L'` is as `L` beside the node at `base`, and below it beside the settings. -/
structure Framed (base : Path) (settings : List Path) (L L' : LiveConfig) : Prop where
  elsewhere : ∀ p, Apart base p → L'.tree.subtree p = L.tree.subtree p
  beside : ∀ r, r ≠ [] → (∀ s ∈ settings, Apart s r) →
    L'.tree.subtree (base ++ r) = L.tree.subtree (base ++ r)

/-- A change of a page. -/
def changeOf (sect : Sect) (author : Uuid) (op : Op) (path : Path) (summary : String) :
    NewConfigChange :=
  ⟨op, path, summary, sect, some author⟩

@[simp] theorem edit_changeOf_set {sect : Sect} {author : Uuid} {path : Path} {summary : String} :
    (changeOf sect author .set path summary).edit = .put path := rfl

@[simp] theorem edit_changeOf_delete {sect : Sect} {author : Uuid} {path : Path}
    {summary : String} : (changeOf sect author .delete path summary).edit = .cut path := rfl

/-! ### Diffs in parts -/

/-- The parts of a diff are below paths apart from each other, strictly below the base. -/
structure Layout (schema : Schema) (base : Path) (parts : List (Path × List NewConfigChange)) :
    Prop where
  below : ∀ x ∈ parts, ∀ c ∈ x.2, c.edit.Below schema.single (base ++ x.1)
  apart : parts.Pairwise fun x y ↦ Apart x.1 y.1
  inner : ∀ x ∈ parts, x.1 ≠ []

/-- The changes touch nothing at the path or below it. -/
def Spares (schema : Schema) (p : Path) (changes : List NewConfigChange) : Prop :=
  ∀ c ∈ changes, ∀ q, p <+: q → ¬c.edit.touches schema.single q

theorem Spares.append {schema : Schema} {p : Path} {l l' : List NewConfigChange}
    (hl : Spares schema p l) (hl' : Spares schema p l') : Spares schema p (l ++ l') :=
  fun c hc ↦ (List.mem_append.1 hc).elim (hl c) (hl' c)

theorem spares_nil {schema : Schema} {p : Path} : Spares schema p [] := fun _ hc ↦ by cases hc

theorem emitsSet_eq_true_iff {out : List NewConfigChange} :
    emitsSet out = true ↔ ∃ c ∈ out, c.op = .set := by
  simp [emitsSet, List.any_eq_true]

section Layout

variable {schema : Schema} {base p q : Path} {parts : List (Path × List NewConfigChange)}
  {x : Path × List NewConfigChange} {new : Bool} {create : NewConfigChange} {L L' : LiveConfig}
  {T : Set Path}

/-- The edits of the parts. -/
def editParts (base : Path) (parts : List (Path × List NewConfigChange)) :
    List (Path × List (Edit String)) :=
  parts.map fun x ↦ (base ++ x.1, x.2.map NewConfigChange.edit)

theorem map_edit_flatMap (base : Path) (parts : List (Path × List NewConfigChange)) :
    (parts.flatMap Prod.snd).map NewConfigChange.edit =
      (editParts base parts).flatMap Prod.snd := by
  rw [editParts, List.map_flatMap, List.flatMap_map]

namespace Layout

theorem below_edits (h : Layout schema base parts) :
    ∀ x ∈ editParts base parts, ∀ c ∈ x.2, c.Below schema.single x.1 := by
  intro x hx c hc
  obtain ⟨y, hy, rfl⟩ := List.mem_map.1 hx
  obtain ⟨d, hd, rfl⟩ := List.mem_map.1 hc
  exact h.below y hy d hd

theorem apart_edits (h : Layout schema base parts) :
    (editParts base parts).Pairwise fun x y ↦ Apart x.1 y.1 := by
  rw [editParts, List.pairwise_map]
  exact h.apart.imp fun hxy ↦ hxy.append_left base

/-- What the diff names is at the base or below it. -/
theorem prefix_target (h : Layout schema base parts) (hcreate : create.edit = .put base)
    {c : NewConfigChange} (hc : c ∈ withCreate new (parts.flatMap Prod.snd) create) :
    base <+: c.edit.target := by
  rcases mem_create hc with hc | rfl
  · obtain ⟨x, hx, hc⟩ := List.mem_flatMap.1 hc
    exact (List.prefix_append base x.1).trans (h.below x hx c hc).target
  · rw [hcreate]
    exact List.prefix_refl base

/-- No part drops the base. -/
theorem not_drops_base (h : Layout schema base parts) {c : NewConfigChange}
    (hc : c ∈ parts.flatMap Prod.snd) : ¬c.edit.drops schema.single base := by
  obtain ⟨x, hx, hc⟩ := List.mem_flatMap.1 hc
  intro hdrops
  have hlen := ((h.below x hx c hc).prefix_of_drops hdrops).length_le
  have hpos := List.length_pos_of_ne_nil (h.inner x hx)
  rw [List.length_append] at hlen
  omega

/-- What is apart from every part, and not above the base, is not touched. -/
theorem spares (h : Layout schema base parts) (hcreate : create.edit = .put base)
    (halone : schema.single base.dropLast = false) (hparts : ∀ x ∈ parts, Apart (base ++ x.1) p)
    (habove : ¬p <+: base) :
    Spares schema p (withCreate new (parts.flatMap Prod.snd) create) := by
  intro c hc q hq
  rcases mem_create hc with hc | rfl
  · obtain ⟨x, hx, hc⟩ := List.mem_flatMap.1 hc
    exact (h.below x hx c hc).not_touches ((hparts x hx).mono (List.prefix_refl _) hq)
  · rw [hcreate]
    rintro (hadds | hreplaces)
    · exact habove (hq.trans hadds)
    · exact not_replaces halone hreplaces

/-- The create touches nothing of a setting. -/
theorem create_not_touches (h : Layout schema base parts) (hcreate : create.edit = .put base)
    (halone : schema.single base.dropLast = false) (hx : x ∈ parts) (hq : base ++ x.1 <+: q) :
    ¬create.edit.touches schema.single q := by
  rw [hcreate]
  rintro (hadds | hreplaces)
  · have hlen := (hq.trans hadds).length_le
    have hpos := List.length_pos_of_ne_nil (h.inner x hx)
    rw [List.length_append] at hlen
    omega
  · exact not_replaces halone hreplaces

/-- **Below a part**, the part alone has a say. -/
theorem mem_iff (h : Layout schema base parts) (hcreate : create.edit = .put base)
    (halone : schema.single base.dropLast = false) (hx : x ∈ parts) (hq : base ++ x.1 <+: q) :
    q ∈ applyAll schema.single
        ((withCreate new (parts.flatMap Prod.snd) create).map NewConfigChange.edit) T ↔
      q ∈ applyAll schema.single (x.2.map NewConfigChange.edit) T := by
  have hmem : (base ++ x.1, x.2.map NewConfigChange.edit) ∈ editParts base parts :=
    List.mem_map_of_mem hx
  have hpart := @mem_applyAll_parts _ _ T _ _ h.below_edits h.apart_edits _ hmem hq
  rw [withCreate]
  split
  · rw [List.map_append, applyAll_append, map_edit_flatMap base, List.map_singleton, applyAll_cons,
      applyAll_nil, mem_apply_of_untouched (h.create_not_touches hcreate halone hx hq), hpart]
  · rw [map_edit_flatMap base, hpart]

/-- **Each setting can be looked at alone**: below its path, what a batch makes of the config is
what the setting's part makes of it, if the rest of the batch spares the base. -/
theorem evolves (h : Layout schema base parts) (hcreate : create.edit = .put base)
    (halone : schema.single base.dropLast = false) {before after : List NewConfigChange}
    (hbefore : Spares schema base before) (hafter : Spares schema base after)
    (hexec : schema.Executes ((before ++ (withCreate new (parts.flatMap Prod.snd) create ++
      after)).map NewConfigChange.command) L L') (hx : x ∈ parts) :
    Evolves schema (base ++ x.1) x.2 L L' := by
  have hbase : base <+: base ++ x.1 := List.prefix_append base x.1
  constructor
  · intro q hq
    rw [hexec.nodes, Schema.run, List.map_map, List.map_append, List.map_append,
      mem_applyAll_middle]
    · exact h.mem_iff hcreate halone hx hq
    · rintro _ hd
      obtain ⟨c, hc, rfl⟩ := List.mem_map.1 hd
      exact hbefore c hc q (hbase.trans hq)
    · rintro _ hd
      obtain ⟨c, hc, rfl⟩ := List.mem_map.1 hd
      exact hafter c hc q (hbase.trans hq)
  · intro hnil
    refine hexec.untouched _ fun q hq _ hd ↦ ?_
    obtain ⟨c, hc, rfl⟩ := List.mem_map.1 hd
    rcases List.mem_append.1 hc with hc | hc
    · exact hbefore c hc q (hbase.trans hq)
    rcases List.mem_append.1 hc with hc | hc
    · rcases mem_create hc with hc | rfl
      · obtain ⟨y, hy, hc⟩ := List.mem_flatMap.1 hc
        have hne : y ≠ x := by
          rintro rfl
          rw [hnil] at hc
          cases hc
        have hsymm : Std.Symm fun x y : Path × List NewConfigChange ↦ Apart x.1 y.1 :=
          ⟨fun _ _ hab ↦ hab.symm⟩
        have hyx : Apart y.1 x.1 := h.apart.forall hy hx hne
        exact (h.below y hy c hc).not_touches ((hyx.append_left base).mono (List.prefix_refl _) hq)
      · exact h.create_not_touches hcreate halone hx hq
    · exact hafter c hc q (hbase.trans hq)

/-- The same for a diff that is the whole batch. -/
theorem evolves_alone (h : Layout schema base parts) (hcreate : create.edit = .put base)
    (halone : schema.single base.dropLast = false)
    (hexec : schema.Executes
      ((withCreate new (parts.flatMap Prod.snd) create).map NewConfigChange.command) L L')
    (hx : x ∈ parts) : Evolves schema (base ++ x.1) x.2 L L' := by
  have hwhole : [] ++ (withCreate new (parts.flatMap Prod.snd) create ++ []) =
      withCreate new (parts.flatMap Prod.snd) create := by rw [List.nil_append, List.append_nil]
  rw [← hwhole] at hexec
  exact h.evolves hcreate halone spares_nil spares_nil hexec hx

/-- **The node itself** is there in the end, if it was there or is new. -/
theorem mem_base (h : Layout schema base parts) (hcreate : create.edit = .put base)
    (halone : schema.single base.dropLast = false) (hop : create.op = .set)
    (hnew : new = true ∨ base ∈ T) :
    base ∈ applyAll schema.single
      ((withCreate new (parts.flatMap Prod.snd) create).map NewConfigChange.edit) T := by
  rw [mem_applyAll_of_not_drops]
  · rcases hnew with rfl | hT
    · refine Or.inr ?_
      rw [withCreate]
      split
      · refine ⟨create.edit, List.mem_map_of_mem (by simp), ?_⟩
        rw [hcreate]
        exact List.prefix_refl base
      · rename_i hset
        rw [Bool.true_and, Bool.not_eq_true', Bool.not_eq_false, emitsSet_eq_true_iff] at hset
        obtain ⟨c, hc, hset⟩ := hset
        refine ⟨c.edit, List.mem_map_of_mem hc, adds_edit.2 ⟨hset, ?_⟩⟩
        obtain ⟨x, hx, hc⟩ := List.mem_flatMap.1 hc
        have htarget := (h.below x hx c hc).target
        obtain ⟨op, path, summary, sect, author⟩ := c
        obtain rfl : op = .set := hset
        exact (List.prefix_append base x.1).trans htarget
    · exact Or.inl hT
  · rintro _ hd
    obtain ⟨c, hc, rfl⟩ := List.mem_map.1 hd
    rcases mem_create hc with hc | rfl
    · exact h.not_drops_base hc
    · rw [hcreate]
      exact not_replaces halone

/-- **A diff takes effect** if each part does, and the node is new where it is created. -/
theorem allEffective_iff (h : Layout schema base parts) (hcreate : create.edit = .put base) :
    AllEffective schema.single
        ((withCreate new (parts.flatMap Prod.snd) create).map NewConfigChange.edit) T ↔
      (∀ x ∈ parts, AllEffective schema.single (x.2.map NewConfigChange.edit) T) ∧
        (new = true → emitsSet (parts.flatMap Prod.snd) = false → base ∉ T) := by
  have hparts : AllEffective schema.single
      ((parts.flatMap Prod.snd).map NewConfigChange.edit) T ↔
      ∀ x ∈ parts, AllEffective schema.single (x.2.map NewConfigChange.edit) T := by
    rw [map_edit_flatMap base, allEffective_parts h.below_edits h.apart_edits, editParts,
      List.forall_mem_map]
  rw [withCreate]
  split
  · rename_i hnew
    rw [Bool.and_eq_true, Bool.not_eq_true'] at hnew
    have hbase : base ∈ applyAll schema.single
        ((parts.flatMap Prod.snd).map NewConfigChange.edit) T ↔ base ∈ T := by
      refine mem_applyAll_of_untouched ?_
      rintro _ hd
      obtain ⟨c, hc, rfl⟩ := List.mem_map.1 hd
      rintro (hadds | hdrops)
      · have hset : emitsSet (parts.flatMap Prod.snd) = true :=
          emitsSet_eq_true_iff.2 ⟨c, hc, (adds_edit.1 hadds).1⟩
        rw [hnew.2] at hset
        cases hset
      · exact h.not_drops_base hc hdrops
    rw [List.map_append, allEffective_append, hparts, List.map_singleton, hcreate,
      allEffective_cons, and_iff_left allEffective_nil, Edit.Effective, hbase]
    exact and_congr_right fun _ ↦ ⟨fun hT _ _ ↦ hT, fun hT ↦ hT hnew.1 hnew.2⟩
  · rename_i hnew
    rw [hparts]
    refine (and_iff_left fun h₁ h₂ ↦ absurd ?_ hnew).symm
    rw [h₁, h₂]
    rfl

/-- **The rest of the config** is as it was. -/
theorem framed (h : Layout schema base parts) (hcreate : create.edit = .put base)
    (halone : schema.single base.dropLast = false)
    (hexec : schema.Executes
      ((withCreate new (parts.flatMap Prod.snd) create).map NewConfigChange.command) L L') :
    Framed base (parts.map Prod.fst) L L' := by
  have huntouched : ∀ p, (∀ x ∈ parts, Apart (base ++ x.1) p) → ¬p <+: base →
      L'.tree.subtree p = L.tree.subtree p := by
    intro p hparts habove
    refine hexec.untouched p fun q hq _ hd ↦ ?_
    obtain ⟨c, hc, rfl⟩ := List.mem_map.1 hd
    exact h.spares hcreate halone hparts habove c hc q hq
  constructor
  · intro p hp
    exact huntouched p (fun x _ ↦ hp.mono (List.prefix_append _ _) (List.prefix_refl p)) hp.2
  · intro r hr hsettings
    refine huntouched _ (fun x hx ↦ ?_) fun habove ↦ ?_
    · exact (hsettings x.1 (List.mem_map_of_mem hx)).append_left base
    · have hlen := habove.length_le
      have hpos := List.length_pos_of_ne_nil hr
      rw [List.length_append] at hlen
      omega

/-- The node is there. -/
theorem base_mem (h : Layout schema base parts) (hcreate : create.edit = .put base)
    (halone : schema.single base.dropLast = false) (hop : create.op = .set)
    (hnew : new = true ∨ base ∈ L.nodes)
    (hexec : schema.Executes
      ((withCreate new (parts.flatMap Prod.snd) create).map NewConfigChange.command) L L') :
    base ∈ L'.nodes := by
  rw [hexec.nodes, Schema.run, List.map_map]
  exact h.mem_base hcreate halone hop hnew

end Layout

end Layout

end VyosFabric
