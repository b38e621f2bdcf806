import VyosFabric.Diff.Settings

/-!
# Checking configs and batches

A config is a finite tree, so what is assumed of configs and batches can be checked by a look at its
paths (`Json.paths`): that a config shows each setting by its shape (`LiveConfig.fits_of_check`),
and that one config is what a batch makes of another (`Schema.executes_of_check`). `deviceSchema` is
a schema that knows the settings.
-/

namespace PathTree

variable {κ : Type} [DecidableEq κ] {single : List κ → Bool} {c : Edit κ} {cs : List (Edit κ)}
  {T : Set (List κ)} {q : List κ}

/-- What a batch makes of one path. -/
def runAt (single : List κ → Bool) (q : List κ) : List (Edit κ) → Bool → Bool
  | [], b => b
  | c :: cs, b => runAt single q cs (c.adds q || b && !decide (c.drops single q))

/-- **A batch is read at one path at a time.** -/
theorem mem_applyAll_iff_runAt {b : Bool} (hb : q ∈ T ↔ b = true) :
    q ∈ applyAll single cs T ↔ runAt single q cs b = true := by
  induction cs generalizing T b with
  | nil => exact hb
  | cons c cs ih =>
    refine ih ?_
    rw [mem_apply_iff, hb]
    simp

/-- What no edit adds, is not there in the end. -/
theorem runAt_of_not_adds (h : ∀ c ∈ cs, ¬c.adds q) : runAt single q cs false = false := by
  induction cs with
  | nil => rfl
  | cons c cs ih =>
    rw [runAt, decide_eq_false (h c List.mem_cons_self)]
    exact ih fun d hd ↦ h d (List.mem_cons_of_mem c hd)

omit [DecidableEq κ] in
theorem prefix_target_of_adds (h : c.adds q) : q <+: c.target := by
  cases c with
  | put p => exact h
  | cut p => exact False.elim h

end PathTree

namespace VyosFabric

open PathTree

/-! ### The paths of a tree -/

namespace Json

mutual

/-- Every node is among these paths. -/
def paths : Json → List Path
  | .obj m => [] :: fieldPaths m
  | .arr l => [] :: l.filterMap fun v ↦ v.leafText.map fun a ↦ [a]
  | v => [] :: (v.leafText.map fun a ↦ [a]).toList

/-- The paths of the fields. -/
def fieldPaths : List (String × Json) → List Path
  | [] => []
  | (k, v) :: m => (paths v).map (k :: ·) ++ fieldPaths m

end

theorem cons_mem_fieldPaths {m : List (String × Json)} {k : String} {v : Json} {r : Path}
    (hv : m.lookup k = some v) (hr : r ∈ v.paths) : k :: r ∈ fieldPaths m := by
  induction m with
  | nil => cases hv
  | cons x m ih =>
    obtain ⟨k', w⟩ := x
    rw [fieldPaths, List.mem_append]
    rw [List.lookup_cons] at hv
    split at hv
    · rename_i heq
      obtain rfl := beq_iff_eq.1 heq
      obtain rfl := Option.some.inj hv
      exact Or.inl (List.mem_map_of_mem hr)
    · exact Or.inr (ih hv)

theorem mem_paths {v : Json} {p : Path} (h : v.isNode p = true) : p ∈ v.paths := by
  induction p generalizing v with
  | nil => cases v <;> simp [paths]
  | cons k r ih =>
    cases v with
    | obj m =>
      rw [isNode, Option.any_eq_true] at h
      obtain ⟨u, hu, hr⟩ := h
      rw [paths]
      exact List.mem_cons_of_mem _ (cons_mem_fieldPaths hu (ih hr))
    | arr l =>
      cases r with
      | nil =>
        simp only [isNode, List.any_eq_true, beq_iff_eq] at h
        obtain ⟨u, hu, htext⟩ := h
        rw [paths]
        refine List.mem_cons_of_mem _ (List.mem_filterMap.2 ⟨u, hu, ?_⟩)
        rw [htext]
        rfl
      | cons k' r => cases h
    | null | bool | int | real | str =>
      cases r with
      | nil =>
        simp only [isNode, beq_iff_eq] at h
        simp [paths, h]
      | cons k' r => cases h

end Json

/-! ### Shapes -/

/-- Whether a value is what a device shows for the shape. -/
def Shape.accepts : Shape → Json → Bool
  | branch, .obj m => decide (m.map Prod.fst).Nodup
  | leaf, .str _ | number, .str _ | number, .int _ | leaves, .str _ => true
  | leaves, .arr l => l.all (fun v ↦ v.asStr.isSome) && decide (l.filterMap Json.asStr).Nodup
  | _, _ => false

theorem Shape.shows_of_accepts {shape : Shape} {v : Json} (h : shape.accepts v = true) :
    shape.Shows v := by
  cases shape with
  | branch =>
    cases v with
    | obj m => exact ⟨m, rfl, of_decide_eq_true h⟩
    | null | bool | int | real | str | arr => cases h
  | leaf =>
    cases v with
    | str s => exact ⟨s, rfl⟩
    | null | bool | int | real | arr | obj => cases h
  | number =>
    cases v with
    | str s => exact Or.inl ⟨s, rfl⟩
    | int n => exact Or.inr ⟨n, rfl⟩
    | null | bool | real | arr | obj => cases h
  | leaves =>
    cases v with
    | str s => exact Or.inl ⟨s, rfl⟩
    | arr l =>
      obtain ⟨hall, hnodup⟩ := Bool.and_eq_true_iff.1 h
      refine Or.inr ⟨l.filterMap Json.asStr, ?_, of_decide_eq_true hnodup⟩
      have hvalues : ∀ l : List Json, (l.all fun v ↦ v.asStr.isSome) = true →
          l = (l.filterMap Json.asStr).map .str := by
        intro l hl
        induction l with
        | nil => rfl
        | cons v l ih =>
          rw [List.all_cons, Bool.and_eq_true_iff] at hl
          cases v with
          | str s => exact congrArg _ (ih hl.2)
          | null | bool | int | real | arr | obj => cases hl.1
      exact congrArg _ (hvalues l hall)
    | null | bool | int | real | obj => cases h

/-- The shape of a setting. -/
def settingShape : Path → Option Shape
  | [] => some .branch
  | [a] => if a ∈ ["system", "service", "firewall"] then some .branch else none
  | [a, b] =>
    if a = "system" ∧ b ∈ ["host-name", "domain-name", "time-zone"] then some .leaf
    else if [a, b] ∈ [["system", "ntp"], ["service", "ntp"], globalOptionsBase,
      ["interfaces", "ethernet"]] then some .branch
    else none
  | [a, b, c] =>
    if b = "ntp" ∧ c = "server" ∨ [a, b, c] = globalOptionsBase ++ ["state-policy"] ∨
      a = "interfaces" ∨ a = "nat" ∧ c = "rule" then some .branch
    else if a = "firewall" ∧ c ∈ "resolver-interval" :: singleKeys then some .leaf
    else none
  | [a, _, _, d] =>
    if a = "interfaces" then
      if d ∈ ["description", "speed", "duplex"] then some .leaf
      else if d = "mtu" then some .number
      else if d = "address" then some .leaves
      else if d = "vif" then some .branch
      else none
    else if a = "nat" ∨ a = "firewall" ∧ d ∈ stateKeys then some .branch
    else none
  | [a, _, _, _, e] =>
    if a = "firewall" ∧ e = "action" ∨ a = "nat" ∧ e ∈ ["description", "protocol"] then some .leaf
    else if a = "interfaces" ∨ a = "firewall" ∧ e = "log-options" ∨
      a = "nat" ∧ e ∈ ["source", "destination", "translation"] then some .branch
    else none
  | [a, _, _, _, e, f] =>
    if a = "interfaces" then
      if f = "description" then some .leaf
      else if f = "mtu" then some .number
      else if f = "address" then some .leaves
      else none
    else if a = "firewall" ∧ e = "log-options" ∧ f = "level" ∨
      a = "nat" ∧ (e ∈ ["source", "destination", "translation"] ∧ f ∈ ["address", "port"] ∨
        e ∈ ["outbound-interface", "inbound-interface"] ∧ f ∈ ["name", "group"]) then some .leaf
    else none
  | _ => none

theorem settingShape_of_setting {p : Path} {shape : Shape} (h : Setting p shape) :
    settingShape p = some shape := by
  cases h with
  | root | system | service | firewall | globalOptions | statePolicy | ethernet => decide
  | ntp h | ntpServers h => rcases h with rfl | rfl <;> decide
  | systemLeaf h => simp [settingShape, h]
  | option h =>
    exact (by decide : ∀ key ∈ "resolver-interval" :: singleKeys,
      settingShape (globalOptionsBase ++ [key]) = some .leaf) _ h
  | state h | stateAction h | stateLogOptions h | stateLogLevel h =>
    simp [settingShape, stateBase, globalOptionsBase, h]
  | nic | nicMtu | nicAddresses | vlans | vlan | vlanDescription | vlanMtu | vlanAddresses | rules |
    rule => simp [settingShape, ethBase, vifBase, ruleBase]
  | nicLeaf _ h => simp [settingShape, ethBase, h]
  | ruleLeaf _ _ h => simp [settingShape, ruleBase, h]
  | side _ _ h =>
    rcases List.mem_cons.1 h with rfl | h
    · rfl
    · rcases List.mem_pair.1 h with rfl | rfl <;> rfl
  | sideLeaf _ _ h hleaf => simp [settingShape, ruleBase, h, hleaf]
  | interface sect _ h =>
    by_cases hsect : sect = "source" <;> simp [settingShape, ruleBase, ifaceKeyOf, hsect, h]

/-- A schema that knows the settings. -/
def deviceSchema : Schema where
  single p := (settingShape p).any Shape.isSingle
  ethernet := rfl
  nic _ := rfl
  vif _ := rfl
  rule sect := by
    rw [settingShape_of_setting (.rules sect)]
    rfl

theorem deviceSchema_knows : deviceSchema.Knows := by
  intro p shape h
  have hsingle : deviceSchema.single p = (settingShape p).any Shape.isSingle := rfl
  rw [hsingle, settingShape_of_setting h]
  rfl

/-! ### The checks -/

/-- Every setting is shown by its shape. -/
def Json.fits (tree : Json) : Bool :=
  tree.paths.all fun p ↦
    match tree.subtree p, settingShape p with
    | some v, some shape => shape.accepts v
    | _, _ => true

theorem LiveConfig.fits_of_check {L : LiveConfig} (h : L.tree.fits = true) : L.Fits := by
  intro p shape hp v hv
  have hcheck := List.all_eq_true.1 h p (Json.mem_paths (Json.isNode_of_subtree hv))
  rw [hv, settingShape_of_setting hp] at hcheck
  exact Shape.shows_of_accepts hcheck

/-- The second tree is what the batch makes of the first. -/
def Schema.executes (schema : Schema) (batch : List Command) (t t' : Json) : Bool :=
  let edits := batch.map Command.edit
  ((t.paths ++ t'.paths ++ edits.flatMap fun c ↦ c.target.inits).all fun q ↦
    t'.isNode q == runAt schema.single q edits (t.isNode q)) &&
  (t.paths ++ t'.paths).all fun p ↦
    decide (t'.subtree p = t.subtree p) || edits.any fun c ↦
      decide (p <+: c.target ∨ c.drops schema.single p)

/-- A target is touched. -/
theorem touches_target (single : Path → Bool) (c : Edit String) : c.touches single c.target := by
  cases c with
  | put p => exact Or.inl (List.prefix_refl p)
  | cut p => exact Or.inr (List.prefix_refl p)

theorem Schema.executes_of_check {schema : Schema} {batch : List Command} {L L' : LiveConfig}
    (h : schema.executes batch L.tree L'.tree = true) : schema.Executes batch L L' := by
  rw [Schema.executes, Bool.and_eq_true, List.all_eq_true, List.all_eq_true] at h
  obtain ⟨hnodes, hsame⟩ := h
  constructor
  · ext q
    have hrun : q ∈ schema.run batch L.nodes ↔
        runAt schema.single q (batch.map Command.edit) (L.tree.isNode q) = true :=
      mem_applyAll_iff_runAt Iff.rfl
    rw [hrun]
    by_cases hq : q ∈ L.tree.paths ++ L'.tree.paths ++
        (batch.map Command.edit).flatMap fun c ↦ c.target.inits
    · rw [← beq_iff_eq.1 (hnodes q hq)]
      exact Iff.rfl
    · simp only [List.mem_append, not_or] at hq
      obtain ⟨⟨hL, hL'⟩, hnew⟩ := hq
      have hnode : L.tree.isNode q = false :=
        Bool.eq_false_of_not_eq_true fun h ↦ hL (Json.mem_paths h)
      rw [hnode, runAt_of_not_adds]
      · exact ⟨fun h ↦ absurd (Json.mem_paths h) hL', fun h ↦ by cases h⟩
      · exact fun c hc hadds ↦ hnew (List.mem_flatMap.2 ⟨c, hc, (List.mem_inits _ _).2
          (prefix_target_of_adds hadds)⟩)
  · intro p hp
    by_cases hmem : p ∈ L.tree.paths ++ L'.tree.paths
    · rcases Bool.or_eq_true_iff.1 (hsame p hmem) with hsame | htouched
      · exact of_decide_eq_true hsame
      · obtain ⟨_, hd, htouched⟩ := List.any_eq_true.1 htouched
        obtain ⟨c, hc, rfl⟩ := List.mem_map.1 hd
        rcases of_decide_eq_true htouched with hbelow | hdrops
        · exact absurd (touches_target _ _) (hp _ hbelow c hc)
        · exact absurd (Or.inr hdrops) (hp p (List.prefix_refl p) c hc)
    · rw [List.mem_append, not_or] at hmem
      have hnone : ∀ M : LiveConfig, p ∉ M.tree.paths → M.tree.subtree p = none := by
        intro M hM
        cases hsub : M.tree.subtree p with
        | none => rfl
        | some v => exact absurd (Json.mem_paths (Json.isNode_of_subtree hsub)) hM
      rw [hnone L hmem.1, hnone L' hmem.2]

end VyosFabric
