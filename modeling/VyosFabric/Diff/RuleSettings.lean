import VyosFabric.Diff.Checks
import VyosFabric.Diff.Readback
import VyosFabric.Routes.Nat44

/-!
# What the rule diff comes to

A batch that executes the diff of a rule that stays where it is gives a config in which the rule is
there and holds what the update asks for, everything beside the settings of the editor is as it was,
and the diff has nothing left to say (`rule_settles`).

The interface of a rule has three forms. The part that changes it drops the whole node first where
the rule reads as having an interface, so that one form is left (`Evolves.interface`).
-/

namespace VyosFabric

open PathTree

/-! ### The interface of a rule -/

section Interface

variable {L : LiveConfig} {base : Path} {key : String}

/-- The interface of a rule by its three texts. -/
theorem liveInterface_eq : liveInterface (L.tree.subtree base) key =
    match L.text (base ++ [key, "name"]) with
    | some n => (some n, false)
    | none => ((L.text (base ++ [key, "group"])) <|> L.text (base ++ [key]),
        (L.text (base ++ [key, "group"])).isSome) := by
  rw [← nestedStr_eq_text, ← nestedStr_eq_text, ← childStr_eq_text]
  cases L.tree.subtree base with
  | none => rfl
  | some v =>
    simp only [Option.bind_some]
    cases hname : v.nestedStr key "name" with
    | some n => exact liveInterface_of_name hname
    | none =>
      cases hgroup : v.nestedStr key "group" with
      | some g => exact liveInterface_of_group hname hgroup
      | none => exact liveInterface_bare hname hgroup

/-- The rule has its interface in one form. -/
structure OneForm (v : Json) (key : String) : Prop where
  named : v.nestedStr key "name" ≠ none → v.nestedStr key "group" = none ∧ v.childStr key = none
  grouped : v.nestedStr key "group" ≠ none → v.nestedStr key "name" = none ∧ v.childStr key = none

/-- A rule without an interface has none of the three texts. -/
theorem texts_of_liveInterface_eq_none (h : (liveInterface (L.tree.subtree base) key).1 = none) :
    L.text (base ++ [key, "name"]) = none ∧ L.text (base ++ [key, "group"]) = none ∧
      L.text (base ++ [key]) = none := by
  rw [liveInterface_eq] at h
  cases hname : L.text (base ++ [key, "name"]) with
  | some n =>
    rw [hname] at h
    cases h
  | none =>
    rw [hname] at h
    cases hgroup : L.text (base ++ [key, "group"]) with
    | some g =>
      rw [hgroup] at h
      cases h
    | none =>
      rw [hgroup] at h
      exact ⟨rfl, rfl, h⟩

theorem liveInterface_of_texts (hname : L.text (base ++ [key, "name"]) = none)
    (hgroup : L.text (base ++ [key, "group"]) = none) (hbare : L.text (base ++ [key]) = none) :
    liveInterface (L.tree.subtree base) key = (none, false) := by
  rw [liveInterface_eq, hname, hgroup, hbare]
  rfl

/-- A node with children has no text. -/
theorem text_of_child {k : String} {v : Json} (h : L.tree.subtree (base ++ [key, k]) = some v) :
    L.text (base ++ [key]) = none := by
  have hsteps : base ++ [key, k] = (base ++ [key]) ++ [k] := by rw [List.append_assoc]; rfl
  rw [hsteps, Json.subtree_append_eq] at h
  obtain ⟨w, hw, hk⟩ := Option.bind_eq_some_iff.1 h
  rw [Json.subtree_singleton] at hk
  rw [LiveConfig.text, hw]
  cases w with
  | obj m => rfl
  | null | bool | int | real | str | arr => cases hk

/-- The form of the interface, from its texts. -/
theorem oneForm_of_texts {v : Json} (hv : L.tree.subtree base = some v)
    (hnamed : L.text (base ++ [key, "name"]) ≠ none →
      L.text (base ++ [key, "group"]) = none ∧ L.text (base ++ [key]) = none)
    (hgrouped : L.text (base ++ [key, "group"]) ≠ none →
      L.text (base ++ [key, "name"]) = none ∧ L.text (base ++ [key]) = none) : OneForm v key := by
  rw [← nestedStr_eq_text, ← nestedStr_eq_text, ← childStr_eq_text, hv] at hnamed hgrouped
  exact ⟨hnamed, hgrouped⟩

/-- The interface is below its key. -/
theorem liveInterface_congr {L' : LiveConfig}
    (h : L'.tree.subtree (base ++ [key]) = L.tree.subtree (base ++ [key])) :
    liveInterface (L'.tree.subtree base) key = liveInterface (L.tree.subtree base) key := by
  have htext : ∀ r, L'.text (base ++ key :: r) = L.text (base ++ key :: r) := by
    intro r
    have hsteps : base ++ key :: r = (base ++ [key]) ++ r := by rw [List.append_assoc]; rfl
    rw [LiveConfig.text, LiveConfig.text, hsteps, Json.subtree_append_eq (base ++ [key]),
      Json.subtree_append_eq (base ++ [key]), h]
  rw [liveInterface_eq, liveInterface_eq, htext, htext, htext]

/-- A rule without the key has no interface. -/
theorem liveInterface_of_not_mem (h : base ++ [key] ∉ L.nodes) :
    liveInterface (L.tree.subtree base) key = (none, false) := by
  have htext : ∀ r, L.text (base ++ key :: r) = none := by
    intro r
    refine LiveConfig.text_of_not_mem fun hmem ↦ h ?_
    have hsteps : base ++ key :: r = (base ++ [key]) ++ r := by rw [List.append_assoc]; rfl
    rw [hsteps] at hmem
    exact LiveConfig.mem_nodes_of_append hmem
  exact liveInterface_of_texts (htext _) (htext _) (htext _)

end Interface

section Part

variable {schema : Schema} {sect : Sect} {author : Uuid} {base : Path} {name key : String}
  {onText offText : String} {L L' : LiveConfig} {live desired : Option String × Bool}

theorem interfaceDiff_below (hparent : schema.single base = false) :
    ∀ c ∈ interfaceDiff (changeOf sect author) base name key live desired,
      c.edit.Below schema.single (base ++ [key]) := by
  intro c hc
  rw [interfaceDiff] at hc
  have hbelow : ∀ op r t, (changeOf sect author op (base ++ key :: r) t).edit.Below schema.single
      (base ++ [key]) := by
    intro op r t
    have hpart := @below_of_append schema sect author (base ++ [key])
      (by rwa [List.dropLast_concat]) op r t
    rwa [List.append_assoc] at hpart
  split at hc
  · cases hc
  · rcases List.mem_append.1 hc with hc | hc
    · split at hc
      · obtain rfl := List.mem_singleton.1 hc
        exact hbelow .delete [] _
      · cases hc
    · split at hc
      · cases hc
      · obtain rfl := List.mem_singleton.1 hc
        exact hbelow .set _ _

/-- The form a part sets is the only one in the end. -/
theorem Evolves.other_form {kind other i : String}
    (hev : Evolves schema (base ++ [key])
      ((if live.1.isSome then [changeOf sect author .delete (base ++ [key]) offText] else []) ++
        [changeOf sect author .set (base ++ [key, kind, i]) onText]) L L')
    (hlive : live.1 = none → L.text (base ++ [key, other]) = none)
    (hshape : L.HasShape (base ++ [key, other]) .leaf)
    (hshape' : L'.HasShape (base ++ [key, other]) .leaf) (hne : other ≠ kind) :
    L'.text (base ++ [key, other]) = none := by
  cases hsub : L'.tree.subtree (base ++ [key, other]) with
  | none =>
    rw [LiveConfig.text, hsub]
    rfl
  | some v =>
    obtain ⟨y, rfl⟩ := hshape' v hsub
    have hy : (base ++ [key, other]) ++ [y] ∈ L'.nodes := (LiveConfig.mem_nodes_leaf hshape').2 hsub
    have hprefix : base ++ [key] <+: (base ++ [key, other]) ++ [y] := ⟨[other, y], by simp⟩
    have hput : (Edit.put (base ++ [key, kind, i])).Below schema.single (base ++ [key, kind]) :=
      ⟨⟨[i], by simp [Edit.target]⟩, fun heq ↦ by simp at heq⟩
    have happart : Apart (base ++ [key, kind]) ((base ++ [key, other]) ++ [y]) := by
      rw [List.append_assoc]
      refine Apart.append_left base ⟨?_, ?_⟩ <;> simp [hne, hne.symm]
    rw [hev.nodes _ hprefix, List.map_append, applyAll_append, List.map_singleton, applyAll_cons,
      applyAll_nil, edit_changeOf_set, mem_apply_of_untouched (hput.not_touches happart)] at hy
    split at hy
    · -- the old interface went with everything below the key
      exact absurd hprefix (hy.resolve_left id).2
    · rename_i hnone
      have htext := hlive (Option.not_isSome_iff_eq_none.1 hnone)
      rw [LiveConfig.text, (LiveConfig.mem_nodes_leaf hshape).1 hy] at htext
      rw [LiveConfig.text, hsub, htext]

/-- **The interface is the desired one** after its part, and where it changed there is one form. -/
theorem Evolves.interface
    (hev : Evolves schema (base ++ [key])
      (interfaceDiff (changeOf sect author) base name key live desired) L L')
    (hlive : live = liveInterface (L.tree.subtree base) key)
    (hshape : ∀ k ∈ ["name", "group"], L.HasShape (base ++ [key, k]) .leaf)
    (hshape' : ∀ k ∈ ["name", "group"], L'.HasShape (base ++ [key, k]) .leaf)
    (htrim : trimmed desired.1 = desired.1) :
    (desired = liveInterface (L'.tree.subtree base) key ∨
      desired.1 = none ∧ (liveInterface (L'.tree.subtree base) key).1 = none) ∧
      (desired ≠ live → ∀ v, L'.tree.subtree base = some v → OneForm v key) := by
  by_cases hsame : desired = live
  · refine ⟨Or.inl ?_, fun hne ↦ absurd hsame hne⟩
    have hnil : interfaceDiff (changeOf sect author) base name key live desired = [] :=
      if_pos hsame
    rw [liveInterface_congr (hev.same hnil), ← hlive, hsame]
  rw [interfaceDiff, if_neg hsame] at hev
  obtain ⟨desired, isGroup⟩ := desired
  cases desired with
  | none =>
    have hnone : L'.text (base ++ [key, "name"]) = none ∧ L'.text (base ++ [key, "group"]) = none ∧
        L'.text (base ++ [key]) = none := by
      refine texts_of_liveInterface_eq_none ?_
      cases hiface : live.1 with
      | none =>
        rw [hiface] at hev
        rw [liveInterface_congr (hev.same rfl), ← hlive, hiface]
      | some i =>
        rw [hiface] at hev
        have hnot : base ++ [key] ∉ L'.nodes := fun hmem ↦
          ((hev.nodes _ (List.prefix_refl _)).1 hmem).elim id fun h ↦ h.2 (List.prefix_refl _)
        rw [liveInterface_of_not_mem hnot]
    obtain ⟨hname, hgroup, hbare⟩ := hnone
    refine ⟨Or.inr ⟨rfl, by rw [liveInterface_of_texts hname hgroup hbare]⟩, fun _ v hv ↦ ?_⟩
    exact oneForm_of_texts hv (absurd hname) (absurd hgroup)
  | some i =>
    generalize hkind : (if isGroup then "group" else "name") = kind at hev
    have hmem : kind ∈ ["name", "group"] := by
      rw [← hkind]
      split <;> decide
    have hset : (base ++ [key, kind]) ++ [i] ∈ L'.nodes := by
      rw [hev.nodes _ ⟨[kind, i], by simp⟩, List.map_append, applyAll_append, List.append_assoc]
      exact mem_apply_put
    have htext : L'.text (base ++ [key, kind]) = some i := by
      rw [LiveConfig.text_of_mem (hshape' kind hmem) hset, htrim]
    have hbare : L'.text (base ++ [key]) = none :=
      text_of_child ((LiveConfig.mem_nodes_leaf (hshape' kind hmem)).1 hset)
    have hother : ∀ other ∈ ["name", "group"], other ≠ kind →
        L'.text (base ++ [key, other]) = none := by
      intro other hother hne
      refine hev.other_form (fun hnone ↦ ?_) (hshape other hother) (hshape' other hother) hne
      rw [hlive] at hnone
      obtain ⟨hname, hgroup, -⟩ := texts_of_liveInterface_eq_none hnone
      rcases List.mem_pair.1 hother with rfl | rfl
      · exact hname
      · exact hgroup
    cases isGroup with
    | true =>
      obtain rfl : "group" = kind := hkind
      have hname := hother "name" (by decide) (by decide)
      refine ⟨Or.inl ?_, fun _ v hv ↦ oneForm_of_texts hv (absurd hname) fun _ ↦ ⟨hname, hbare⟩⟩
      rw [liveInterface_eq, hname, htext]
      rfl
    | false =>
      obtain rfl : "name" = kind := hkind
      have hgroup := hother "group" (by decide) (by decide)
      refine ⟨Or.inl ?_, fun _ v hv ↦ oneForm_of_texts hv (fun _ ↦ ⟨hgroup, hbare⟩) (absurd hgroup)⟩
      rw [liveInterface_eq, htext]

end Part

/-! ### The layout of the diff -/

theorem natChange_eq : natChange = changeOf .nat := rfl

/-- The settings of a rule the editor manages. -/
def ruleSettings (sect : String) : List Path :=
  [["description"], ["source", "address"], ["source", "port"], ["destination", "address"],
    ["destination", "port"], ["protocol"], ["translation", "address"], ["translation", "port"],
    [ifaceKeyOf sect], ["exclude"], ["log"], ["disable"]]

theorem map_fst_natParts (live : Option Json) (body : Nat44RuleUpdate) (author : Uuid) :
    (natParts live body author).map Prod.fst = ruleSettings body.sect := rfl

theorem ruleSettings_apart (sect : String) : (ruleSettings sect).Pairwise Apart := by
  unfold ruleSettings ifaceKeyOf
  split <;> decide

theorem natParts_layout {schema : Schema} (hschema : schema.Knows) (live : Option Json)
    (body : Nat44RuleUpdate) (author : Uuid) :
    Layout schema (ruleBase body.sect body.rule) (natParts live body author) := by
  have hrule : schema.single (ruleBase body.sect body.rule) = false := hschema _ _ (.rule _ _)
  have hleaf : ∀ k, schema.single ((ruleBase body.sect body.rule ++ [k]).dropLast) = false :=
    fun k ↦ by rwa [List.dropLast_concat]
  have hside : ∀ k ∈ ["source", "destination", "translation"], ∀ k',
      schema.single ((ruleBase body.sect body.rule ++ [k, k']).dropLast) = false :=
    fun k hk k' ↦ hschema _ _ (.side body.sect body.rule hk)
  constructor
  · simp only [natParts, natLeaf, natFlag, natChange_eq, List.forall_mem_cons, List.not_mem_nil,
      false_implies, implies_true, and_true]
    exact ⟨leafDiff_below (hleaf _) _ _, leafDiff_below (hside _ (by decide) _) _ _,
      leafDiff_below (hside _ (by decide) _) _ _, leafDiff_below (hside _ (by decide) _) _ _,
      leafDiff_below (hside _ (by decide) _) _ _, leafDiff_below (hleaf _) _ _,
      leafDiff_below (hside _ (by decide) _) _ _, leafDiff_below (hside _ (by decide) _) _ _,
      interfaceDiff_below hrule, flagDiff_below (hleaf _) _ _, flagDiff_below (hleaf _) _ _,
      enabledDiff_below hrule _ _⟩
  · rw [← List.pairwise_map, map_fst_natParts]
    exact ruleSettings_apart body.sect
  · rw [← List.forall_mem_map (P := (· ≠ [])), map_fst_natParts]
    unfold ruleSettings
    simp

/-! ### What it comes to -/

section Settle

variable {schema : Schema} {L L' : LiveConfig} {body : Nat44RuleUpdate} {author : Uuid}

theorem ruleAt_shown (sect key : String) :
    ruleAt (L.shown ["nat"]) sect key = L.tree.subtree ["nat", sect, "rule", key] := by
  have hidx : ∀ (v : Json) (k k' : String), (v.idx k).get k' = (v.get k).bind fun u ↦ u.get k' := by
    intro v k k'
    rw [Json.idx]
    cases v.get k <;> rfl
  have hsteps : (["nat", sect, "rule", key] : Path) = ["nat"] ++ [sect, "rule", key] := rfl
  rw [hsteps, Json.subtree_append_eq, LiveConfig.shown, ruleAt, rulesOf, hidx, hidx]
  cases L.tree.subtree ["nat"] with
  | none => rfl
  | some v =>
    show ((v.get sect).bind fun s ↦ s.get "rule").bind (fun r ↦ r.get key) =
      (v.get sect).bind (Json.subtree ["rule", key])
    cases v.get sect with
    | none => rfl
    | some s =>
      show (s.get "rule").bind _ = (s.get "rule").bind (Json.subtree [key])
      simp only [Json.subtree_singleton]

theorem liveRule_shown (sect : String) (rule : ℕ) :
    liveRule (L.shown ["nat"]) sect rule = L.tree.subtree (ruleBase sect rule) := by
  rw [liveRule_eq, ruleAt_shown]
  rfl

theorem subtree_rule_isSome_iff (hL : L.Fits) {sect : String} {rule : ℕ} :
    (L.tree.subtree (ruleBase sect rule)).isSome = true ↔ ruleBase sect rule ∈ L.nodes :=
  (LiveConfig.mem_nodes_branch (hL _ _ (.rules sect))).symm

/-- **The settings of a rule**, each looked at alone, make it hold what the update asks for. -/
theorem holds_of_evolves (hL : L.Fits) (hL' : L'.Fits)
    (hev : ∀ x ∈ natParts (L.tree.subtree (ruleBase body.sect body.rule)) body author,
      Evolves schema (ruleBase body.sect body.rule ++ x.1) x.2 L L') {v : Json}
    (hv : L'.tree.subtree (ruleBase body.sect body.rule) = some v) :
    body.Holds v ∧
      ((trimmed body.interface, body.interfaceGroup) ≠
          liveInterface (L.tree.subtree (ruleBase body.sect body.rule)) (ifaceKeyOf body.sect) →
        OneForm v (ifaceKeyOf body.sect)) := by
  simp only [natParts, natLeaf, natFlag, natChange_eq, List.forall_mem_cons] at hev
  obtain ⟨hdescription, hsourceAddress, hsourcePort, hdestinationAddress, hdestinationPort,
    hprotocol, htranslationAddress, htranslationPort, hinterface, hexclude, hlog, hdisable, -⟩ :=
      hev
  have hchild : ∀ key, L'.text (ruleBase body.sect body.rule ++ [key]) = v.childStr key :=
    fun key ↦ by rw [← childStr_eq_text, hv, Option.bind_some]
  have hnested : ∀ key key', L'.text (ruleBase body.sect body.rule ++ [key, key']) =
      v.nestedStr key key' := fun key key' ↦ by rw [← nestedStr_eq_text, hv, Option.bind_some]
  have hget : ∀ key, (v.get key).isSome = true ↔
      ruleBase body.sect body.rule ++ [key] ∈ L'.nodes := fun key ↦ by
    rw [← isSome_get_iff (hL' _ _ (.rule _ _)), hv]
    rfl
  have hinterface := hinterface.interface rfl (fun k hk ↦ hL _ _ (.interface _ _ hk))
    (fun k hk ↦ hL' _ _ (.interface _ _ hk)) (trimmed_trimmed _)
  rw [hv] at hinterface
  refine ⟨?_, fun hne ↦ hinterface.2 hne v rfl⟩
  constructor
  case description =>
    rw [← hchild]
    exact (hdescription.text childStr_eq_text (hL' _ _ (.ruleLeaf _ _ (by decide)))
      (trimmed_trimmed _)).symm
  case protocol =>
    rw [← hchild]
    exact (hprotocol.text childStr_eq_text (hL' _ _ (.ruleLeaf _ _ (by decide)))
      (trimmed_trimmed _)).symm
  case sourceAddress =>
    rw [← hnested]
    exact (hsourceAddress.text nestedStr_eq_text
      (hL' _ _ (.sideLeaf _ _ (by decide) (by decide))) (trimmed_trimmed _)).symm
  case sourcePort =>
    rw [← hnested]
    exact (hsourcePort.text nestedStr_eq_text
      (hL' _ _ (.sideLeaf _ _ (by decide) (by decide))) (trimmed_trimmed _)).symm
  case destinationAddress =>
    rw [← hnested]
    exact (hdestinationAddress.text nestedStr_eq_text
      (hL' _ _ (.sideLeaf _ _ (by decide) (by decide))) (trimmed_trimmed _)).symm
  case destinationPort =>
    rw [← hnested]
    exact (hdestinationPort.text nestedStr_eq_text
      (hL' _ _ (.sideLeaf _ _ (by decide) (by decide))) (trimmed_trimmed _)).symm
  case translationAddress =>
    rw [← hnested]
    exact (htranslationAddress.text nestedStr_eq_text
      (hL' _ _ (.sideLeaf _ _ (by decide) (by decide))) (trimmed_trimmed _)).symm
  case translationPort =>
    rw [← hnested]
    exact (htranslationPort.text nestedStr_eq_text
      (hL' _ _ (.sideLeaf _ _ (by decide) (by decide))) (trimmed_trimmed _)).symm
  case interface => exact hinterface.1
  case exclude =>
    exact Bool.eq_iff_iff.2
      ((hexclude.flag (isSome_get_iff (hL _ _ (.rule _ _)))).symm.trans (hget _).symm)
  case log =>
    exact Bool.eq_iff_iff.2
      ((hlog.flag (isSome_get_iff (hL _ _ (.rule _ _)))).symm.trans (hget _).symm)
  case enabled =>
    rw [enabledDiff_eq] at hdisable
    have hflag := hdisable.flag (isEnabled_iff (hL _ _ (.rule _ _)))
    rw [← isEnabled_iff (hL' _ _ (.rule _ _)), hv] at hflag
    simpa using hflag.symm

/-- What a rule diff compares with, and its changes, where the rule stays where it is. -/
theorem diffNat44_shown (hstays : renumberedFrom body.rule body.originalRule = none) :
    diffNat44 (L.shown ["nat"]) body author =
      withCreate (L.tree.subtree (ruleBase body.sect body.rule)).isNone
        ((natParts (L.tree.subtree (ruleBase body.sect body.rule)) body author).flatMap Prod.snd)
        (changeOf .nat author .set (ruleBase body.sect body.rule)
          s!"Create {prettySection body.sect} NAT rule {body.rule.repr}") := by
  have hcompared : comparedRule (L.shown ["nat"]) body =
      L.tree.subtree (ruleBase body.sect body.rule) := by
    rw [comparedRule, hstays]
    exact liveRule_shown _ _
  have hdrop : natDrop body author = [] := by rw [natDrop, hstays]
  rw [diffNat44_eq, hcompared, hdrop, List.nil_append]
  rfl

/-- **A rule diff within a batch** that spares the rule otherwise. -/
theorem rule_of_executes (hschema : schema.Knows) (hL : L.Fits) (hL' : L'.Fits)
    (hstays : renumberedFrom body.rule body.originalRule = none)
    {before after : List NewConfigChange}
    (hbefore : Spares schema (ruleBase body.sect body.rule) before)
    (hafter : Spares schema (ruleBase body.sect body.rule) after)
    (hexec : schema.Executes ((before ++ (diffNat44 (L.shown ["nat"]) body author ++ after)).map
      NewConfigChange.command) L L') :
    ∃ v, L'.tree.subtree (ruleBase body.sect body.rule) = some v ∧ body.Holds v ∧
      ((trimmed body.interface, body.interfaceGroup) ≠
          liveInterface (L.tree.subtree (ruleBase body.sect body.rule)) (ifaceKeyOf body.sect) →
        OneForm v (ifaceKeyOf body.sect)) := by
  have hlayout :=
    natParts_layout hschema (L.tree.subtree (ruleBase body.sect body.rule)) body author
  have halone : schema.single (ruleBase body.sect body.rule).dropLast = false :=
    hschema _ _ (.rules body.sect)
  rw [diffNat44_shown hstays] at hexec
  have hbase : ruleBase body.sect body.rule ∈ L'.nodes := by
    rw [hexec.nodes, Schema.run, List.map_map, List.map_append, List.map_append,
      mem_applyAll_middle]
    · exact hlayout.mem_base rfl halone rfl (new_or_mem (subtree_rule_isSome_iff hL))
    · intro _ hd
      obtain ⟨c, hc, rfl⟩ := List.mem_map.1 hd
      exact hbefore c hc _ (List.prefix_refl _)
    · intro _ hd
      obtain ⟨c, hc, rfl⟩ := List.mem_map.1 hd
      exact hafter c hc _ (List.prefix_refl _)
  obtain ⟨v, hv⟩ := Option.isSome_iff_exists.1 ((subtree_rule_isSome_iff hL').2 hbase)
  exact ⟨v, hv, holds_of_evolves hL hL'
    (fun x hx ↦ hlayout.evolves rfl halone hbefore hafter hexec hx) hv⟩

/-- **A rule update that is no renumber**, executed. -/
theorem rule_settles (hschema : schema.Knows) (hL : L.Fits) (hL' : L'.Fits)
    (hstays : renumberedFrom body.rule body.originalRule = none)
    (hexec : schema.Executes ((diffNat44 (L.shown ["nat"]) body author).map
      NewConfigChange.command) L L') :
    (∃ v, liveRule (L'.shown ["nat"]) body.sect body.rule = some v ∧ body.Holds v ∧
      ((trimmed body.interface, body.interfaceGroup) ≠
          liveInterface (liveRule (L.shown ["nat"]) body.sect body.rule) (ifaceKeyOf body.sect) →
        OneForm v (ifaceKeyOf body.sect))) ∧
      Framed (ruleBase body.sect body.rule) (ruleSettings body.sect) L L' ∧
      diffNat44 (L'.shown ["nat"]) body author = [] := by
  have hwhole : [] ++ (diffNat44 (L.shown ["nat"]) body author ++ []) =
      diffNat44 (L.shown ["nat"]) body author := by rw [List.nil_append, List.append_nil]
  have hexec' := hexec
  rw [← hwhole] at hexec'
  obtain ⟨v, hv, hholds⟩ := rule_of_executes hschema hL hL' hstays spares_nil spares_nil hexec'
  rw [diffNat44_shown hstays] at hexec
  have hframed := (natParts_layout hschema _ body author).framed rfl
    (hschema _ _ (.rules body.sect)) hexec
  rw [map_fst_natParts] at hframed
  rw [← liveRule_shown] at hv hholds
  exact ⟨⟨v, hv, hholds⟩, hframed, (diffNat44_eq_nil_iff hstays).2 ⟨v, hv, hholds.1⟩⟩

end Settle

/-- A source rule and nothing else. -/
def withSourceRule (rule : List (String × Json)) : LiveConfig :=
  .ofTree (.obj [("nat", .obj [("source", .obj [("rule", .obj [("10", .obj rule)])])])])

def bareRule : LiveConfig :=
  withSourceRule [("outbound-interface", .str "eth0"),
    ("source", .obj [("address", .str "10.0.0.0/8"), ("group", .obj [("port-group", .str "web")])]),
    ("translation", .obj [("address", .str "masquerade")])]

def groupRule : LiveConfig :=
  withSourceRule [("outbound-interface", .obj [("group", .str "wan")]),
    ("source", .obj [("group", .obj [("port-group", .str "web")])]), ("log", .obj []),
    ("translation", .obj [("address", .str "masquerade")])]

/-- An interface that becomes a group, while the groups of the source stay. -/
theorem rule_settles_group : ∃ v, liveRule (groupRule.shown ["nat"]) "source" 10 = some v ∧
    liveInterface (some v) "outbound-interface" = (some "wan", true) := by
  have hbare : bareRule.Fits := LiveConfig.fits_of_check (by decide)
  have hgroup : groupRule.Fits := LiveConfig.fits_of_check (by decide)
  obtain ⟨⟨v, hv, hholds, -⟩, -⟩ := @rule_settles deviceSchema bareRule groupRule
    ⟨"source", 10, none, some " wan ", true, none, none, none, none, some "masquerade", none, none,
      false, true, true, none⟩ 1 deviceSchema_knows hbare hgroup rfl
    (Schema.executes_of_check (by decide))
  refine ⟨v, hv, ?_⟩
  rcases hholds.interface with h | ⟨h, -⟩
  · exact h.symm
  · cases h

end VyosFabric
