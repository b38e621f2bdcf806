import VyosFabric.PathTree.Moves
import VyosFabric.Review.Staged

/-!
# Moves

A VLAN whose parent or number changes, and a NAT rule or mapping whose number changes, are moved:
the original is deleted and the target built from the leaves of the update (`Edit.moves`). The diff
takes the target for new and deletes nothing there, so what stands at the target already survives,
unless the update sets it again or replaces it (`stageMoves_fresh_iff`).
-/

namespace VyosFabric

open Interaction
open PathTree hiding Edit

/-! ### What an update describes -/

/-- The path of a value, if there is one. -/
def valuePaths (p : Path) (value : Option String) : List Path := value.toList.map fun v ↦ p ++ [v]

/-- The path of a flag, if it is on. -/
def flagPaths (key : String) (on : Bool) : List Path := if on then [[key]] else []

/-- The leaves a VLAN update describes, by setting. -/
def VlanConfigUpdate.described (u : VlanConfigUpdate) : List (Path × List Path) :=
  [ (["description"], valuePaths ["description"] (trimmed u.description)),
    (["address"], (trimmedList u.addresses).map fun a ↦ ["address", a]),
    (["mtu"], valuePaths ["mtu"] (u.mtu.map Int.repr)),
    (["disable"], flagPaths "disable" (!u.enabled))]

/-- The leaves a rule update describes, by setting. -/
def Nat44RuleUpdate.described (body : Nat44RuleUpdate) : List (Path × List Path) :=
  let leaf (p : Path) (value : Option String) : Path × List Path :=
    (p, valuePaths p (trimmed value))
  [ leaf ["description"] body.description,
    leaf ["source", "address"] body.sourceAddress,
    leaf ["source", "port"] body.sourcePort,
    leaf ["destination", "address"] body.destinationAddress,
    leaf ["destination", "port"] body.destinationPort,
    leaf ["protocol"] body.protocol,
    leaf ["translation", "address"] body.translationAddress,
    leaf ["translation", "port"] body.translationPort,
    ([ifaceKeyOf body.sect],
      valuePaths [ifaceKeyOf body.sect, if body.interfaceGroup then "group" else "name"]
        (trimmed body.interface)),
    (["exclude"], flagPaths "exclude" body.exclude),
    (["log"], flagPaths "log" body.log),
    (["disable"], flagPaths "disable" (!body.enabled))]

/-- The move of a VLAN update. -/
def VlanConfigUpdate.move (u : VlanConfigUpdate) : Option (Move String) :=
  u.movedFrom.map fun x ↦
    ⟨vifBase x.1 x.2, vifBase u.parent u.vlanId, u.described.flatMap Prod.snd⟩

/-- The move of a rule update. -/
def Nat44RuleUpdate.move (body : Nat44RuleUpdate) : Option (Move String) :=
  (renumberedFrom body.rule body.originalRule).map fun o ↦
    ⟨ruleBase body.sect o, ruleBase body.sect body.rule, body.described.flatMap Prod.snd⟩

/-- The moves of an edit: two for a mapping. -/
def Edit.moves : Edit → List (Move String)
  | .stageVlan body => body.move.toList
  | .stageNat44 body => body.move.toList
  | .stageStatic body => (staticPair body).1.move.toList ++ (staticPair body).2.move.toList
  | _ => []

/-! ### The edits of a move -/

section Edits

variable {sect : Sect} {author : Uuid} {base p : Path} {name key : String}

/-- A diff against nothing puts the leaves. -/
theorem map_edit_leafDiff_none {desired : Option String} {setText : String → String}
    {unsetText : String} :
    (leafDiff (changeOf sect author) (base ++ p) none desired setText unsetText).map
      NewConfigChange.edit = (valuePaths p desired).map fun r ↦ .put (base ++ r) := by
  cases desired with
  | none => rfl
  | some v =>
    rw [leafDiff, if_neg (by simp)]
    show [PathTree.Edit.put (base ++ p ++ [v])] = [PathTree.Edit.put (base ++ (p ++ [v]))]
    rw [List.append_assoc]

theorem map_edit_mtuDiff_none {desired : Option Int} :
    (mtuDiff (changeOf sect author) base name none desired).map NewConfigChange.edit =
      (valuePaths ["mtu"] (desired.map Int.repr)).map fun r ↦ .put (base ++ r) := by
  cases desired <;> rfl

theorem map_edit_addressDiff_nil {desired : List String} :
    (addressDiff (changeOf sect author) base name [] desired).map NewConfigChange.edit =
      (desired.map fun a ↦ ["address", a]).map fun r ↦ .put (base ++ r) := by
  have hall : desired.filter (fun a ↦ a ∉ ([] : List String)) = desired :=
    List.filter_eq_self.2 fun a _ ↦ by simp
  rw [map_edit_addressDiff, hall, List.filter_nil, List.map_nil, List.append_nil, List.map_map]
  refine List.map_congr_left fun a _ ↦ ?_
  rw [List.append_assoc]
  rfl

theorem map_edit_flagDiff_false {desired : Bool} {setText unsetText : String} :
    (flagDiff (changeOf sect author) (base ++ [key]) false desired setText unsetText).map
      NewConfigChange.edit = (flagPaths key desired).map fun r ↦ .put (base ++ r) := by
  cases desired <;> rfl

theorem map_edit_enabledDiff_true {desired : Bool} :
    (enabledDiff (changeOf sect author) base name true desired).map NewConfigChange.edit =
      (flagPaths "disable" (!desired)).map fun r ↦ .put (base ++ r) := by
  cases desired <;> rfl

theorem map_edit_interfaceDiff_none {desired : Option String × Bool} :
    (interfaceDiff (changeOf sect author) base name key (none, false) desired).map
        NewConfigChange.edit =
      (valuePaths [key, if desired.2 then "group" else "name"] desired.1).map
        fun r ↦ .put (base ++ r) := by
  obtain ⟨value, group⟩ := desired
  cases value <;> cases group <;> rfl

theorem map_edit_vlanParts_none (u : VlanConfigUpdate) :
    ((vlanParts none u author).flatMap Prod.snd).map NewConfigChange.edit =
      (u.described.flatMap Prod.snd).map fun r ↦ .put (vifBase u.parent u.vlanId ++ r) := by
  simp only [vlanParts, VlanConfigUpdate.described, List.flatMap_cons, List.flatMap_nil,
    List.map_append, List.map_nil, Option.bind_none, Option.map_none, Option.getD_none,
    map_edit_leafDiff_none, map_edit_addressDiff_nil, map_edit_mtuDiff_none,
    map_edit_enabledDiff_true]

theorem map_edit_natParts_none (body : Nat44RuleUpdate) :
    ((natParts none body author).flatMap Prod.snd).map NewConfigChange.edit =
      (body.described.flatMap Prod.snd).map fun r ↦ .put (ruleBase body.sect body.rule ++ r) := by
  simp only [natParts, natLeaf, natFlag, natChange_eq, Nat44RuleUpdate.described,
    List.flatMap_cons, List.flatMap_nil, List.map_append, List.map_nil, Option.bind_none,
    Option.map_none, Option.getD_none, liveInterface, map_edit_leafDiff_none,
    map_edit_interfaceDiff_none, map_edit_flagDiff_false, map_edit_enabledDiff_true]

/-- **A delete and a diff against nothing** are a move. -/
theorem map_edit_move {original target : Path} {leaves : List Path} {out : List NewConfigChange}
    {drop create : NewConfigChange} (hdrop : drop.edit = .cut original)
    (hcreate : create.edit = .put target)
    (hout : out.map NewConfigChange.edit = leaves.map fun r ↦ .put (target ++ r)) :
    ([drop] ++ withCreate true out create).map NewConfigChange.edit =
      (⟨original, target, leaves⟩ : Move String).edits := by
  have hset : emitsSet out = !leaves.isEmpty := by
    cases out with
    | nil =>
      rw [List.map_nil, eq_comm, List.map_eq_nil_iff] at hout
      rw [hout]
      rfl
    | cons c out =>
      cases leaves with
      | nil => cases hout
      | cons r leaves =>
        refine emitsSet_eq_true_iff.2 ⟨c, List.mem_cons_self, ?_⟩
        have hc : c.edit = .put (target ++ r) := (List.cons.inj hout).1
        have hadds : c.edit.adds (target ++ r) := by
          rw [hc]
          exact List.prefix_refl _
        exact (adds_edit.1 hadds).1
  rw [List.map_append, List.map_singleton, hdrop, Move.edits, Move.puts, withCreate, hset]
  cases leaves with
  | nil =>
    rw [List.map_nil, List.map_eq_nil_iff] at hout
    rw [hout]
    simp [hcreate]
  | cons r leaves =>
    simp only [List.isEmpty_cons, Bool.not_false, Bool.not_true, Bool.and_false,
      Bool.false_eq_true, if_false, hout, List.map_map]
    rfl

end Edits

/-! ### Sound moves -/

section Sound

variable {schema : Schema} {base : Path} {groups : List (Path × List Path)}

/-- The leaves of a setting are below it and of one length, and a single-valued one is the only
one. -/
structure Settled (schema : Schema) (base : Path) (x : Path × List Path) : Prop where
  below : ∀ r ∈ x.2, x.1 <+: r
  level : ∀ r ∈ x.2, ∀ r' ∈ x.2, r.length = r'.length
  alone : ∀ r ∈ x.2, schema.single (base ++ r).dropLast = true →
    x.1 <+: r.dropLast ∧ ∀ r' ∈ x.2, r' = r

theorem settled_valuePaths (p q : Path) (value : Option String) :
    Settled schema base (p, valuePaths (p ++ q) value) := by
  have honly : ∀ r ∈ valuePaths (p ++ q) value, ∀ r' ∈ valuePaths (p ++ q) value, r' = r := by
    intro r hr r' hr'
    obtain ⟨v, hv, rfl⟩ := List.mem_map.1 hr
    obtain ⟨v', hv', rfl⟩ := List.mem_map.1 hr'
    rw [Option.mem_toList] at hv hv'
    rw [Option.mem_unique hv' hv]
  constructor
  · intro r hr
    obtain ⟨v, -, rfl⟩ := List.mem_map.1 hr
    rw [List.append_assoc]
    exact List.prefix_append _ _
  · exact fun r hr r' hr' ↦ congrArg List.length (honly r' hr' r hr)
  · intro r hr _
    refine ⟨?_, honly r hr⟩
    obtain ⟨v, -, rfl⟩ := List.mem_map.1 hr
    rw [List.dropLast_concat]
    exact List.prefix_append _ _

theorem settled_flagPaths (hbase : schema.single base = false) (key : String) (on : Bool) :
    Settled schema base ([key], flagPaths key on) := by
  have hmem : ∀ r ∈ flagPaths key on, r = [key] := by
    intro r hr
    cases on with
    | false => cases hr
    | true => exact List.mem_singleton.1 hr
  constructor
  · exact fun r hr ↦ hmem r hr ▸ List.prefix_refl _
  · exact fun r hr r' hr' ↦ by rw [hmem r hr, hmem r' hr']
  · intro r hr hsingle
    rw [hmem r hr, List.dropLast_concat, hbase] at hsingle
    cases hsingle

theorem settled_addressPaths (hmany : schema.single (base ++ ["address"]) = false)
    (addresses : List String) :
    Settled schema base (["address"], addresses.map fun a ↦ ["address", a]) := by
  constructor
  · intro r hr
    obtain ⟨a, -, rfl⟩ := List.mem_map.1 hr
    exact List.prefix_append ["address"] [a]
  · intro r hr r' hr'
    obtain ⟨a, -, rfl⟩ := List.mem_map.1 hr
    obtain ⟨a', -, rfl⟩ := List.mem_map.1 hr'
    rfl
  · intro r hr hsingle
    obtain ⟨a, -, rfl⟩ := List.mem_map.1 hr
    have hsteps : base ++ ["address", a] = (base ++ ["address"]) ++ [a] := by
      rw [List.append_assoc]
      rfl
    rw [hsteps, List.dropLast_concat, hmany] at hsingle
    cases hsingle

/-- Leaves of settings apart are not above each other. -/
theorem flat_of_settled (happart : (groups.map Prod.fst).Pairwise Apart)
    (hsettled : ∀ x ∈ groups, Settled schema base x) :
    ∀ a ∈ groups.flatMap Prod.snd, ∀ b ∈ groups.flatMap Prod.snd, a <+: b → a = b := by
  intro a ha b hb hprefix
  obtain ⟨x, hx, ha⟩ := List.mem_flatMap.1 ha
  obtain ⟨y, hy, hb⟩ := List.mem_flatMap.1 hb
  by_cases hxy : x = y
  · exact hprefix.eq_of_length ((hsettled x hx).level a ha b (hxy ▸ hb))
  · have hsymm : Std.Symm fun x y : Path × List Path ↦ Apart x.1 y.1 := ⟨fun _ _ h ↦ h.symm⟩
    have hapart : Apart x.1 y.1 := (List.pairwise_map.1 happart).forall hx hy hxy
    have hbelow := ((hsettled x hx).below a ha).trans hprefix
    exact ((List.prefix_or_prefix_of_prefix hbelow ((hsettled y hy).below b hb)).elim
      hapart.1 hapart.2).elim

/-- **Leaves of settings apart** do not replace each other. -/
theorem quiet_of_settled (happart : (groups.map Prod.fst).Pairwise Apart)
    (hsettled : ∀ x ∈ groups, Settled schema base x) :
    ∀ a ∈ groups.flatMap Prod.snd, ∀ b ∈ groups.flatMap Prod.snd, a ≠ b →
      schema.single (base ++ b).dropLast = true → ¬b.dropLast <+: a := by
  intro a ha b hb hne hsingle hprefix
  obtain ⟨x, hx, ha⟩ := List.mem_flatMap.1 ha
  obtain ⟨y, hy, hb⟩ := List.mem_flatMap.1 hb
  obtain ⟨hbelow, honly⟩ := (hsettled y hy).alone b hb hsingle
  by_cases hxy : x = y
  · exact hne (honly a (hxy ▸ ha))
  · have hsymm : Std.Symm fun x y : Path × List Path ↦ Apart x.1 y.1 := ⟨fun _ _ h ↦ h.symm⟩
    have hapart : Apart x.1 y.1 := (List.pairwise_map.1 happart).forall hx hy hxy
    exact (List.prefix_or_prefix_of_prefix ((hsettled x hx).below a ha)
      (hbelow.trans hprefix)).elim hapart.1 hapart.2

/-- Different paths of one length are apart. -/
theorem apart_of_length {p q : Path} (hlength : p.length = q.length) (hne : p ≠ q) : Apart p q :=
  ⟨fun h ↦ hne (h.eq_of_length hlength), fun h ↦ hne (h.eq_of_length hlength.symm).symm⟩

theorem VlanConfigUpdate.move_sound (hschema : schema.Knows) {u : VlanConfigUpdate}
    {m : Move String} (hm : m ∈ u.move) : m.Sound schema.single := by
  obtain ⟨⟨op, ovid⟩, hmoved, rfl⟩ := Option.map_eq_some_iff.1 hm
  have hvlan : schema.single (vifBase u.parent u.vlanId) = false := hschema _ _ (.vlan _ _)
  have hpaths : (u.described.map Prod.fst).Pairwise Apart := by
    have hsettings : u.described.map Prod.fst =
        [["description"], ["address"], ["mtu"], ["disable"]] := rfl
    rw [hsettings]
    decide
  have hsettled : ∀ x ∈ u.described, Settled schema (vifBase u.parent u.vlanId) x := by
    simp only [described, List.forall_mem_cons, List.not_mem_nil, false_implies, implies_true,
      and_true]
    exact ⟨settled_valuePaths ["description"] [] _,
      settled_addressPaths (hschema _ _ (.vlanAddresses _ _)) _, settled_valuePaths ["mtu"] [] _,
      settled_flagPaths hvlan _ _⟩
  constructor
  · refine apart_of_length rfl fun hsame ↦ ?_
    obtain ⟨hparent, hvlanId⟩ := vifBase_inj.1 hsame
    rw [movedFrom] at hmoved
    split at hmoved
    · split at hmoved
      · rename_i hchanged
        obtain ⟨rfl, rfl⟩ := Prod.mk.inj (Option.some.inj hmoved)
        exact hchanged.elim (fun h ↦ h hparent) fun h ↦ h hvlanId
      · cases hmoved
    · cases hmoved
  · exact hschema _ _ (.vlans u.parent)
  · exact quiet_of_settled hpaths hsettled
  · exact flat_of_settled hpaths hsettled

theorem Nat44RuleUpdate.move_sound (hschema : schema.Knows) {body : Nat44RuleUpdate}
    {m : Move String} (hm : m ∈ body.move) : m.Sound schema.single := by
  obtain ⟨o, hmoved, rfl⟩ := Option.map_eq_some_iff.1 hm
  have hrule : schema.single (ruleBase body.sect body.rule) = false := hschema _ _ (.rule _ _)
  have hsettled : ∀ x ∈ body.described, Settled schema (ruleBase body.sect body.rule) x := by
    simp only [described, List.forall_mem_cons, List.not_mem_nil, false_implies, implies_true,
      and_true]
    exact ⟨settled_valuePaths ["description"] [] _, settled_valuePaths ["source", "address"] [] _,
      settled_valuePaths ["source", "port"] [] _,
      settled_valuePaths ["destination", "address"] [] _,
      settled_valuePaths ["destination", "port"] [] _, settled_valuePaths ["protocol"] [] _,
      settled_valuePaths ["translation", "address"] [] _,
      settled_valuePaths ["translation", "port"] [] _,
      settled_valuePaths [ifaceKeyOf body.sect] [if body.interfaceGroup then "group" else "name"] _,
      settled_flagPaths hrule _ _, settled_flagPaths hrule _ _, settled_flagPaths hrule _ _⟩
  constructor
  · refine apart_of_length rfl fun hsame ↦ ?_
    have hkept := (Option.filter_eq_some_iff.1 hmoved).2
    rw [(ruleBase_inj.1 hsame).2] at hkept
    simp at hkept
  · exact hschema _ _ (.rules body.sect)
  · exact quiet_of_settled (ruleSettings_apart body.sect) hsettled
  · exact flat_of_settled (ruleSettings_apart body.sect) hsettled

end Sound

/-! ### Staged moves -/

theorem map_edit_diffVlan {eth : Json} {u : VlanConfigUpdate} {author : Uuid} {m : Move String}
    (hm : u.move = some m) : (diffVlan eth u author).map NewConfigChange.edit = m.edits := by
  obtain ⟨⟨op, ovid⟩, hmoved, rfl⟩ := Option.map_eq_some_iff.1 hm
  have hcompared : comparedVif eth u = none := by rw [comparedVif, hmoved]; rfl
  have hdrop : vlanDrop u author = [interfaceChange author .delete (vifBase op ovid)
      s!"Delete VLAN {op}.{ovid.repr}"] := by rw [vlanDrop, hmoved]
  rw [diffVlan_eq, hcompared, hdrop]
  exact map_edit_move rfl rfl (map_edit_vlanParts_none u)

theorem map_edit_diffNat44 {node : Json} {body : Nat44RuleUpdate} {author : Uuid}
    {m : Move String} (hm : body.move = some m) :
    (diffNat44 node body author).map NewConfigChange.edit = m.edits := by
  obtain ⟨o, hmoved, rfl⟩ := Option.map_eq_some_iff.1 hm
  have hcompared : comparedRule node body = none := by rw [comparedRule, hmoved]; rfl
  have hdrop : natDrop body author = [natChange author .delete (ruleBase body.sect o)
      s!"Delete {prettySection body.sect} NAT rule {o.repr}"] := by rw [natDrop, hmoved]
  rw [diffNat44_eq, hcompared, hdrop]
  exact map_edit_move rfl rfl (map_edit_natParts_none body)

theorem exists_eq_some_of_toList {α : Type} {o : Option α} (h : o.toList ≠ []) :
    ∃ m, o = some m := by
  cases o with
  | none => exact absurd rfl h
  | some m => exact ⟨m, rfl⟩

/-- The two rules of a mapping move together. -/
theorem staticPair_moves {body : StaticNatUpdate} (h : (Edit.stageStatic body).moves ≠ []) :
    ∃ s d, (staticPair body).1.move = some s ∧ (staticPair body).2.move = some d ∧ s.Away d := by
  cases hmoved : renumberedFrom body.rule body.originalRule with
  | none =>
    have hnone : (Edit.stageStatic body).moves = [] := by
      simp [Edit.moves, Nat44RuleUpdate.move, staticPair, hmoved]
    exact absurd hnone h
  | some o =>
    have hsome : ∀ r : Nat44RuleUpdate, r.rule = body.rule → r.originalRule = body.originalRule →
        r.move =
          some ⟨ruleBase r.sect o, ruleBase r.sect r.rule, r.described.flatMap Prod.snd⟩ := by
      intro r hrule horiginal
      rw [Nat44RuleUpdate.move, hrule, horiginal, hmoved]
      rfl
    refine ⟨_, _, hsome _ rfl rfl, hsome _ rfl rfl, ?_⟩
    have hends : ∀ n n' : ℕ, Apart (ruleBase "source" n) (ruleBase "destination" n') :=
      fun n n' ↦ apart_of_length rfl fun hsame ↦ absurd (ruleBase_inj.1 hsame).1 (by decide)
    exact ⟨hends _ _, hends _ _, hends _ _, hends _ _⟩

/-- **What an accepted move stages.** -/
theorem Edit.map_edit_staged {db : Database} {L : LiveConfig} {claims : Claims} {id : Uuid}
    {e : Edit} {changes : List NewConfigChange} (hmoves : e.moves ≠ [])
    (h : e.staged db L claims id = .ok changes) :
    changes.map NewConfigChange.edit = e.moves.flatMap Move.edits := by
  cases Edit.stages_of_diff h with
  | stageVlan =>
    obtain ⟨m, hm⟩ := exists_eq_some_of_toList hmoves
    rw [map_edit_diffVlan hm, Edit.moves, hm]
    simp
  | stageNat44 =>
    obtain ⟨m, hm⟩ := exists_eq_some_of_toList hmoves
    rw [map_edit_diffNat44 hm, Edit.moves, hm]
    simp
  | stageStatic =>
    obtain ⟨s, d, hs, hd, -⟩ := staticPair_moves hmoves
    rw [List.map_append, map_edit_diffNat44 hs, map_edit_diffNat44 hd, Edit.moves, hs, hd]
    simp
  | stageSystem | stageGlobalOptions | stageEthernet | deleteVlan | deleteNat44 | deleteStatic =>
    exact absurd rfl hmoves

theorem Edit.moves_sound {schema : Schema} (hschema : schema.Knows) (e : Edit) :
    (∀ m ∈ e.moves, m.Sound schema.single) ∧ e.moves.Pairwise Move.Away := by
  cases e with
  | stageVlan body =>
    refine ⟨fun m hm ↦ body.move_sound hschema (Option.mem_toList.1 hm), ?_⟩
    rw [Edit.moves]
    cases body.move <;> simp
  | stageNat44 body =>
    refine ⟨fun m hm ↦ body.move_sound hschema (Option.mem_toList.1 hm), ?_⟩
    rw [Edit.moves]
    cases body.move <;> simp
  | stageStatic body =>
    constructor
    · intro m hm
      rcases List.mem_append.1 hm with hm | hm
      · exact Nat44RuleUpdate.move_sound hschema (Option.mem_toList.1 hm)
      · exact Nat44RuleUpdate.move_sound hschema (Option.mem_toList.1 hm)
    · by_cases hmoves : (Edit.stageStatic body).moves = []
      · rw [hmoves]
        exact List.Pairwise.nil
      · obtain ⟨s, d, hs, hd, haway⟩ := staticPair_moves hmoves
        rw [Edit.moves, hs, hd]
        simpa using haway
  | stageSystem | stageGlobalOptions | stageEthernet | deleteVlan | deleteNat44 | deleteStatic =>
    exact ⟨fun m hm ↦ (List.not_mem_nil hm).elim, List.Pairwise.nil⟩

/-- **A staged move rebuilds its target fresh** exactly if every node that stands at the target
already is on the way to a leaf of the update, or is replaced by one. -/
theorem stageMoves_fresh_iff {schema : Schema} {db : Database} {L L' : LiveConfig}
    {claims : Claims} {id : Uuid} {e : Edit} {changes : List NewConfigChange}
    (hschema : schema.Knows) (hmoves : e.moves ≠ [])
    (hstaged : e.staged db L claims id = .ok changes)
    (hexec : schema.Executes (changes.map NewConfigChange.command) L L') :
    (Fresh e.moves L.nodes L'.nodes ∧ ∀ p, (∀ m ∈ e.moves, Apart m.original p ∧ Apart m.target p) →
        L'.tree.subtree p = L.tree.subtree p) ↔
      ∀ m ∈ e.moves, ∀ q ∈ L.nodes, m.target <+: q →
        m.Describes q ∨ m.Overwrites schema.single q := by
  obtain ⟨hsound, haway⟩ := e.moves_sound hschema
  have hedits := Edit.map_edit_staged hmoves hstaged
  have hnodes : L'.nodes = applyAll schema.single (e.moves.flatMap Move.edits) L.nodes := by
    rw [hexec.nodes, Schema.run, List.map_map, ← hedits]
    rfl
  rw [hnodes, fresh_iff hsound haway]
  refine and_iff_left fun p hp ↦ hexec.untouched p fun q hq _ hd ↦ ?_
  obtain ⟨c, hc, rfl⟩ := List.mem_map.1 hd
  obtain ⟨m, hm, hedit⟩ := List.mem_flatMap.1 (hedits ▸ List.mem_map_of_mem hc)
  obtain ⟨horiginal, htarget⟩ := hp m hm
  exact (hsound m hm).not_touches (horiginal.mono (List.prefix_refl _) hq).1
    (htarget.mono (List.prefix_refl _) hq).1 (htarget.mono (List.prefix_refl _) hq).2 _ hedit

/-! ### Samples -/

/-- A NIC with the two VLANs. -/
def twoVlans (vlan10 vlan20 : List (String × Json)) : LiveConfig :=
  .ofTree (.obj [("interfaces", .obj [("ethernet", .obj [("eth0", .obj [("vif",
    .obj ([("10", .obj vlan10), ("20", .obj vlan20)]))])])])])

/-- A NIC with one VLAN. -/
def vlan20Only (vlan20 : List (String × Json)) : LiveConfig :=
  .ofTree (.obj [("interfaces", .obj [("ethernet", .obj [("eth0", .obj [("vif",
    .obj ([("20", .obj vlan20)]))])])])])

/-- VLAN 20 has a description of its own. -/
def takenVlan : LiveConfig :=
  twoVlans [("address", .str "10.0.10.1/24")] [("description", .str "old")]

/-- VLAN 10 moves to 20. -/
def moveTo20 (description : Option String) : VlanConfigUpdate :=
  ⟨"eth0", 20, description, ["10.0.10.1/24"], none, true, some "eth0", some 10⟩

/-- What is staged for the move. -/
def moveChanges (description : Option String) : List NewConfigChange :=
  diffVlan (takenVlan.shown ["interfaces", "ethernet"]) (moveTo20 description) 1

theorem staged_moveTo20 (description : Option String) :
    (Edit.stageVlan (moveTo20 description)).staged (sampleDatabase []) takenVlan sampleAdmin 0 =
      .ok (moveChanges description) := rfl

def renamedVlan : LiveConfig :=
  vlan20Only [("address", .str "10.0.10.1/24"), ("description", .str "new")]

def leftoverVlan : LiveConfig :=
  vlan20Only [("address", .str "10.0.10.1/24"), ("description", .str "old")]

/-- A description that stands at the target is replaced by the one of the update. -/
theorem stageMoves_fresh_renamed :
    Fresh (Edit.stageVlan (moveTo20 (some "new"))).moves takenVlan.nodes renamedVlan.nodes := by
  have hreplaced : ∀ m ∈ (Edit.stageVlan (moveTo20 (some "new"))).moves,
      ∀ q ∈ takenVlan.tree.paths, m.target <+: q →
        m.Describes q ∨ m.Overwrites deviceSchema.single q := by decide
  exact ((stageMoves_fresh_iff deviceSchema_knows (by decide) (staged_moveTo20 (some "new"))
    (Schema.executes_of_check (by decide))).2
      fun m hm q hq ↦ hreplaced m hm q (Json.mem_paths hq)).1

/-- A description that stands at the target survives an update without one. -/
theorem not_stageMoves_fresh : ¬∀ (schema : Schema) (db : Database) (L L' : LiveConfig)
    (claims : Claims) (id : Uuid) (e : Edit) (changes : List NewConfigChange),
    schema.Knows → e.moves ≠ [] → (∀ m ∈ e.moves, m.original ∈ L.nodes) →
      e.staged db L claims id = .ok changes →
      schema.Executes (changes.map NewConfigChange.command) L L' →
      Fresh e.moves L.nodes L'.nodes ∧
        ∀ p, (∀ m ∈ e.moves, Apart m.original p ∧ Apart m.target p) →
          L'.tree.subtree p = L.tree.subtree p := by
  intro h
  obtain ⟨hfresh, -⟩ := h deviceSchema (sampleDatabase []) takenVlan leftoverVlan sampleAdmin 0
    (.stageVlan (moveTo20 none)) (moveChanges none) deviceSchema_knows (by decide) (by decide)
    (staged_moveTo20 none) (Schema.executes_of_check (by decide))
  have hleft := (hfresh.rebuilt _ List.mem_cons_self
    ["interfaces", "ethernet", "eth0", "vif", "20", "description", "old"] (by decide)).1 (by decide)
  exact absurd hleft (by decide)

end VyosFabric
