import VyosFabric.Diff.Settings

/-!
# What a part makes of its setting

A part compares the live value of a setting with the desired one. It stays below the path of the
setting (`below_of_append`), it takes effect (`leafDiff_effective` and so on), and what the config
shows afterwards is the desired value (`Evolves.text` and so on).
-/

namespace VyosFabric

open PathTree

variable {schema : Schema} {sect : Sect} {author : Uuid} {p : Path} {L L' : LiveConfig}
  {setText : String → String} {onText offText : String} {name : String}

/-! ### Reading a node and reading its settings -/

section Reading

variable {k k' : String}

theorem Json.subtree_singleton (v : Json) (k : String) : v.subtree [k] = v.get k := by
  show (v.get k).bind some = v.get k
  exact Option.bind_fun_some _

/-- A key of what a look shows. -/
theorem get_shown : (L.shown p).get k = L.tree.subtree (p ++ [k]) := by
  rw [LiveConfig.shown, Json.subtree_append_eq]
  cases L.tree.subtree p with
  | none => rfl
  | some v => rw [Option.getD_some, Option.bind_some, Json.subtree_singleton]

theorem childStr_eq_text :
    ((L.tree.subtree p).bind fun v ↦ v.childStr k) = L.text (p ++ [k]) := by
  rw [LiveConfig.text, Json.subtree_append_eq]
  cases L.tree.subtree p with
  | none => rfl
  | some v => rw [Option.bind_some, Option.bind_some, Json.subtree_singleton, Json.childStr]

theorem childStr_shown : (L.shown p).childStr k = L.text (p ++ [k]) := by
  rw [Json.childStr, get_shown, LiveConfig.text]

theorem nestedStr_eq_text :
    ((L.tree.subtree p).bind fun v ↦ v.nestedStr k k') = L.text (p ++ [k, k']) := by
  have hsteps : p ++ [k, k'] = (p ++ [k]) ++ [k'] := by rw [List.append_assoc]; rfl
  rw [hsteps, ← childStr_eq_text, Json.subtree_append_eq]
  cases L.tree.subtree p with
  | none => rfl
  | some v => rw [Option.bind_some, Option.bind_some, Json.subtree_singleton, Json.nestedStr]

theorem nestedStr_shown : (L.shown p).nestedStr k k' = L.text (p ++ [k, k']) := by
  have hsteps : p ++ [k, k'] = (p ++ [k]) ++ [k'] := by rw [List.append_assoc]; rfl
  rw [Json.nestedStr, get_shown, childStr_eq_text, hsteps]

theorem asMtu_eq_number : (L.tree.subtree p).bind asMtu = L.number (p ++ ["mtu"]) := by
  rw [LiveConfig.number, Json.subtree_append_eq]
  cases L.tree.subtree p with
  | none => rfl
  | some v =>
    rw [Option.bind_some, Option.bind_some, Json.subtree_singleton]
    rfl

theorem asAddresses_eq_values :
    ((L.tree.subtree p).map asAddresses).getD [] = L.values (p ++ ["address"]) := by
  rw [LiveConfig.values, Json.subtree_append_eq]
  cases L.tree.subtree p with
  | none => rfl
  | some v =>
    rw [Option.map_some, Option.getD_some, Option.bind_some, Json.subtree_singleton]
    rfl

/-- What is not shown is no node, where what is shown is one. -/
theorem isNone_subtree_iff (h : (L.tree.subtree p).isSome = true ↔ p ∈ L.nodes) :
    (L.tree.subtree p).isNone = true ↔ p ∉ L.nodes := by
  rw [← h]
  simp

/-- A node is new or there. -/
theorem new_or_mem (h : (L.tree.subtree p).isSome = true ↔ p ∈ L.nodes) :
    (L.tree.subtree p).isNone = true ∨ p ∈ L.nodes := by
  rw [isNone_subtree_iff h]
  exact (em _).symm

/-- A key of a branch is a node. -/
theorem isSome_get_iff (hshape : L.HasShape p .branch) :
    ((L.tree.subtree p).map fun v ↦ (v.get k).isSome).getD false = true ↔ p ++ [k] ∈ L.nodes := by
  rw [LiveConfig.mem_nodes_branch hshape, Json.subtree_append_eq]
  cases L.tree.subtree p with
  | none => exact Iff.rfl
  | some v =>
    rw [Option.map_some, Option.getD_some, Option.bind_some, Json.subtree_singleton]

theorem isEnabled_iff (hshape : L.HasShape p .branch) :
    (!((L.tree.subtree p).map Json.isEnabled).getD true) = true ↔ p ++ ["disable"] ∈ L.nodes := by
  rw [← isSome_get_iff hshape]
  cases L.tree.subtree p with
  | none => exact Iff.rfl
  | some v =>
    show (!(v.get "disable").isNone) = true ↔ (v.get "disable").isSome = true
    rw [Option.not_isNone]

end Reading

/-! ### Where the commands of a part are -/

/-- Changes at a path or below it, whose parent holds many. -/
theorem below_of_append (hparent : schema.single p.dropLast = false) (op : Op) (r : Path)
    (summary : String) : (changeOf sect author op (p ++ r) summary).edit.Below schema.single p := by
  cases op with
  | set => exact ⟨List.prefix_append p r, fun _ ↦ hparent⟩
  | delete => exact ⟨List.prefix_append p r, fun _ ↦ hparent⟩

theorem leafDiff_below (hparent : schema.single p.dropLast = false) (live desired : Option String) :
    ∀ c ∈ leafDiff (changeOf sect author) p live desired setText offText,
      c.edit.Below schema.single p :=
  forall_mem_leafDiff (fun op r t ↦ below_of_append hparent op r t) _ _ _ _

theorem flagDiff_below (hparent : schema.single p.dropLast = false) (live desired : Bool) :
    ∀ c ∈ flagDiff (changeOf sect author) p live desired onText offText,
      c.edit.Below schema.single p := by
  refine forall_mem_flagDiff (fun op t ↦ ?_) _ _ _ _
  have hbelow := @below_of_append schema sect author p hparent op [] t
  rwa [List.append_nil] at hbelow

theorem enabledDiff_below (hparent : schema.single p = false) (live desired : Bool) :
    ∀ c ∈ enabledDiff (changeOf sect author) p name live desired,
      c.edit.Below schema.single (p ++ ["disable"]) := by
  refine forall_mem_enabledDiff (fun op t ↦ ?_) _ _ _
  have hbelow := @below_of_append schema sect author (p ++ ["disable"])
    (by rwa [List.dropLast_concat]) op [] t
  rwa [List.append_nil] at hbelow

theorem mtuDiff_below (hparent : schema.single p = false) (live desired : Option Int) :
    ∀ c ∈ mtuDiff (changeOf sect author) p name live desired,
      c.edit.Below schema.single (p ++ ["mtu"]) := by
  refine forall_mem_mtuDiff (fun op r t ↦ ?_) _ _ _
  have hbelow := @below_of_append schema sect author (p ++ ["mtu"])
    (by rwa [List.dropLast_concat]) op r t
  rwa [List.append_assoc] at hbelow

theorem addressDiff_below (hparent : schema.single p = false) (live desired : List String) :
    ∀ c ∈ addressDiff (changeOf sect author) p name live desired,
      c.edit.Below schema.single (p ++ ["address"]) := by
  refine forall_mem_addressDiff (fun op a t ↦ ?_) _ _ _
  have hbelow := @below_of_append schema sect author (p ++ ["address"])
    (by rwa [List.dropLast_concat]) op [a] t
  rwa [List.append_assoc] at hbelow

/-! ### Leaves -/

section Leaf

variable {live desired : Option String}

/-- **A leaf shows the desired text** after its part. -/
theorem Evolves.text
    (hev : Evolves schema p (leafDiff (changeOf sect author) p live desired setText offText) L L')
    (hlive : live = L.text p) (hshape : L'.HasShape p .leaf) (htrim : trimmed desired = desired) :
    L'.text p = desired := by
  subst hlive
  unfold leafDiff at hev
  split at hev
  · rename_i hsame
    rw [hsame, LiveConfig.text, LiveConfig.text, hev.same rfl]
  · cases desired with
    | some v =>
      have hmem : p ++ [v] ∈ L'.nodes := (hev.nodes _ (List.prefix_append p [v])).2 mem_apply_put
      rw [LiveConfig.text_of_mem hshape hmem, htrim]
    | none =>
      have hnot : p ∉ L'.nodes := fun hmem ↦
        ((hev.nodes p (List.prefix_refl p)).1 hmem).elim id fun h ↦ h.2 (List.prefix_refl p)
      exact LiveConfig.text_of_not_mem hnot

/-- A part of a leaf takes effect. -/
theorem leafDiff_effective (hlive : live = L.text p) (hshape : L.HasShape p .leaf)
    (htrim : trimmed desired = desired) :
    AllEffective schema.single
      ((leafDiff (changeOf sect author) p live desired setText offText).map NewConfigChange.edit)
      L.nodes := by
  subst hlive
  unfold leafDiff
  split
  · exact allEffective_nil
  · rename_i hdiff
    cases desired with
    | some v =>
      obtain ⟨hv, hne⟩ := trim_eq_of_trimmed htrim rfl
      exact ⟨LiveConfig.not_mem_nodes_of_text hshape hv hne hdiff, allEffective_nil⟩
    | none =>
      exact ⟨LiveConfig.mem_nodes_of_text fun hnone ↦ hdiff hnone.symm, allEffective_nil⟩

end Leaf

/-! ### Flags -/

section Flag

variable {live desired : Bool}

/-- **A flag is there** after its part if it is desired. -/
theorem Evolves.flag
    (hev : Evolves schema p (flagDiff (changeOf sect author) p live desired onText offText) L L')
    (hlive : live = true ↔ p ∈ L.nodes) : p ∈ L'.nodes ↔ desired = true := by
  have hp := hev.nodes p (List.prefix_refl p)
  rw [flagDiff] at hp
  split at hp
  · rename_i hsame
    rw [hp, hsame, hlive]
    rfl
  · split at hp
    · rename_i hon
      rw [hp, hon]
      exact ⟨fun _ ↦ rfl, fun _ ↦ mem_apply_put⟩
    · rename_i hoff
      rw [hp]
      refine ⟨fun hmem ↦ ?_, fun hon ↦ absurd hon hoff⟩
      exact absurd (List.prefix_refl p) (hmem.resolve_left id).2

theorem flagDiff_effective (hlive : live = true ↔ p ∈ L.nodes) :
    AllEffective schema.single
      ((flagDiff (changeOf sect author) p live desired onText offText).map NewConfigChange.edit)
      L.nodes := by
  rw [flagDiff]
  split
  · exact allEffective_nil
  · rename_i hdiff
    split
    · rename_i hon
      refine ⟨fun hmem ↦ hdiff ?_, allEffective_nil⟩
      rw [hon, hlive.2 hmem]
    · rename_i hoff
      refine ⟨hlive.1 ?_, allEffective_nil⟩
      cases live with
      | true => rfl
      | false => exact absurd (Bool.eq_false_of_not_eq_true hoff) hdiff

/-- The enabled state is a flag the other way round. -/
theorem enabledDiff_eq (mk : Op → Path → String → NewConfigChange) (path : Path) (name : String)
    (live desired : Bool) : enabledDiff mk path name live desired =
      flagDiff mk (path ++ ["disable"]) (!live) (!desired)
        s!"{name}: disable" s!"{name}: enable" := by
  cases live <;> cases desired <;> rfl

end Flag

/-! ### Numbers -/

section Number

variable {live desired : Option Int}

theorem Evolves.number
    (hev : Evolves schema (p ++ ["mtu"]) (mtuDiff (changeOf sect author) p name live desired) L L')
    (hlive : live = L.number (p ++ ["mtu"])) (hshape : L'.HasShape (p ++ ["mtu"]) .number)
    (hrange : ∀ m ∈ desired, -2 ^ 31 ≤ m ∧ m < 2 ^ 31) : L'.number (p ++ ["mtu"]) = desired := by
  subst hlive
  unfold mtuDiff at hev
  split at hev
  · rename_i hsame
    rw [hsame, LiveConfig.number, LiveConfig.number, hev.same rfl]
  · cases desired with
    | some m =>
      have hmem : (p ++ ["mtu"]) ++ [m.repr] ∈ L'.nodes := by
        rw [hev.nodes _ (List.prefix_append _ _), List.append_assoc]
        exact mem_apply_put
      exact LiveConfig.number_of_mem hshape (hrange m rfl).1 (hrange m rfl).2 hmem
    | none =>
      have hnot : p ++ ["mtu"] ∉ L'.nodes := fun hmem ↦
        ((hev.nodes _ (List.prefix_refl _)).1 hmem).elim id fun h ↦ h.2 (List.prefix_refl _)
      exact LiveConfig.number_of_not_mem hnot

theorem mtuDiff_effective (hlive : live = L.number (p ++ ["mtu"]))
    (hshape : L.HasShape (p ++ ["mtu"]) .number)
    (hrange : ∀ m ∈ desired, -2 ^ 31 ≤ m ∧ m < 2 ^ 31) :
    AllEffective schema.single
      ((mtuDiff (changeOf sect author) p name live desired).map NewConfigChange.edit) L.nodes := by
  subst hlive
  unfold mtuDiff
  split
  · exact allEffective_nil
  · rename_i hdiff
    cases desired with
    | some m =>
      refine ⟨?_, allEffective_nil⟩
      have hnot := LiveConfig.not_mem_nodes_of_number hshape (hrange m rfl).1 (hrange m rfl).2 hdiff
      rwa [List.append_assoc] at hnot
    | none =>
      exact ⟨LiveConfig.mem_nodes_of_number fun hnone ↦ hdiff hnone.symm, allEffective_nil⟩

end Number

/-! ### Addresses -/

section Addresses

variable {live desired : List String}

/-- The edits of a change of values. -/
theorem map_edit_addressDiff : (addressDiff (changeOf sect author) p name live desired).map
      NewConfigChange.edit =
    ((desired.filter fun a ↦ a ∉ live).map fun a ↦ .put ((p ++ ["address"]) ++ [a])) ++
      (live.filter fun a ↦ a ∉ desired).map fun a ↦ .cut ((p ++ ["address"]) ++ [a]) := by
  simp only [addressDiff, List.map_append, List.map_map, Function.comp_def, edit_changeOf_set,
    edit_changeOf_delete, List.append_assoc, List.cons_append, List.nil_append]

/-- **The addresses are the desired ones** after their part. -/
theorem Evolves.addresses
    (hev : Evolves schema (p ++ ["address"])
      (addressDiff (changeOf sect author) p name live desired) L L')
    (hlive : live = L.values (p ++ ["address"])) (hshape : L.HasShape (p ++ ["address"]) .leaves)
    (hshape' : L'.HasShape (p ++ ["address"]) .leaves)
    (hmany : schema.single (p ++ ["address"]) = false) (a : String) :
    a ∈ L'.values (p ++ ["address"]) ↔ a ∈ desired := by
  subst hlive
  rw [← LiveConfig.mem_nodes_leaves hshape', hev.nodes _ (List.prefix_append _ _),
    map_edit_addressDiff, mem_applyAll_values hmany, LiveConfig.mem_nodes_leaves hshape]
  simp only [List.mem_filter, decide_eq_true_eq]
  tauto

theorem addressDiff_effective_iff (hlive : live = L.values (p ++ ["address"]))
    (hshape : L.HasShape (p ++ ["address"]) .leaves)
    (hmany : schema.single (p ++ ["address"]) = false) :
    AllEffective schema.single
      ((addressDiff (changeOf sect author) p name live desired).map NewConfigChange.edit) L.nodes ↔
      (desired.filter fun a ↦ a ∉ live).Nodup := by
  subst hlive
  rw [map_edit_addressDiff]
  refine allEffective_values hmany (fun a ↦ LiveConfig.mem_nodes_leaves hshape) ?_ ?_ ?_
  · intro a ha
    simpa using List.of_mem_filter ha
  · exact fun a ha ↦ List.mem_of_mem_filter ha
  · exact (LiveConfig.values_nodup hshape).filter _

/-- Nothing to add and nothing to remove: the lists have the same members. -/
theorem filters_eq_nil_iff : desired.filter (fun a ↦ a ∉ live) = [] ∧
    live.filter (fun a ↦ a ∉ desired) = [] ↔ ∀ a, a ∈ live ↔ a ∈ desired := by
  simp only [List.filter_eq_nil_iff, decide_eq_true_eq, not_not]
  exact ⟨fun h a ↦ ⟨h.2 a, h.1 a⟩, fun h ↦ ⟨fun a ↦ (h a).2, fun a ↦ (h a).1⟩⟩

theorem addressDiff_eq_nil_iff {mk : Op → Path → String → NewConfigChange} :
    addressDiff mk p name live desired = [] ↔ ∀ a, a ∈ live ↔ a ∈ desired := by
  rw [addressDiff, List.append_eq_nil_iff, List.map_eq_nil_iff, List.map_eq_nil_iff,
    filters_eq_nil_iff]

theorem mtuDiff_eq_nil_iff {mk : Op → Path → String → NewConfigChange} {live desired : Option Int} :
    mtuDiff mk p name live desired = [] ↔ desired = live := by
  unfold mtuDiff
  constructor
  · intro h
    by_contra hne
    rw [if_neg hne] at h
    cases desired <;> cases h
  · exact fun h ↦ if_pos h

end Addresses

end VyosFabric
