import VyosFabric.Diff.RuleSettings
import VyosFabric.Routes.Partition

/-!
# A static mapping comes back

A static mapping is staged as the diffs of its two rules. Each spares the rule of the other
(`diffNat44_spares`), so a batch that executes both leaves two rules that hold the two halves of the
mapping. The halves mirror each other, and `splitStatic` lifts them into the mapping that was asked
for (`static_comes_back`).
-/

namespace VyosFabric

open PathTree

/-- The changes of a static mapping. -/
def staticChanges (node : Json) (body : StaticNatUpdate) (author : Uuid) : List NewConfigChange :=
  diffNat44 node (staticPair body).1 author ++ diffNat44 node (staticPair body).2 author

/-- The mapping an update describes. -/
def StaticNatUpdate.mapping (body : StaticNatUpdate) : StaticNatMapping where
  rule := body.rule.repr
  description := trimmed body.description
  interface := trimmed body.interface
  internalAddress := trimmed body.internalAddress
  externalAddress := trimmed body.externalAddress
  enabled := body.enabled

/-! ### Lists and keys -/

theorem mem_source_iff {node : Json} {r : NatRule} : r ∈ (splitStatic node).source ↔
    (∃ v, ruleAt node "source" r.rule = some v ∧
      r = parseRule r.rule v (some "outbound-interface")) ∧ ¬IsPaired node r.rule := by
  rw [splitStatic, List.mem_filter, mem_parseRules]
  exact and_congr_right fun _ ↦ decide_eq_true_iff

theorem mem_destination_iff {node : Json} {r : NatRule} : r ∈ (splitStatic node).destination ↔
    (∃ v, ruleAt node "destination" r.rule = some v ∧
      r = parseRule r.rule v (some "inbound-interface")) ∧ ¬IsPaired node r.rule := by
  rw [splitStatic, List.mem_filter, mem_parseRules]
  exact and_congr_right fun _ ↦ decide_eq_true_iff

/-- The lists have the same entries of a key in both configs. -/
structure SameAt (node node' : Json) (key : String) : Prop where
  source : ∀ r : NatRule, r.rule = key →
    (r ∈ (splitStatic node').source ↔ r ∈ (splitStatic node).source)
  destination : ∀ r : NatRule, r.rule = key →
    (r ∈ (splitStatic node').destination ↔ r ∈ (splitStatic node).destination)
  staticNat : ∀ m : StaticNatMapping, m.rule = key →
    (m ∈ (splitStatic node').staticNat ↔ m ∈ (splitStatic node).staticNat)

/-- The entries of a key are made of its two rules. -/
theorem sameAt_of_ruleAt {node node' : Json} {key : String}
    (hsource : ruleAt node' "source" key = ruleAt node "source" key)
    (hdestination : ruleAt node' "destination" key = ruleAt node "destination" key) :
    SameAt node node' key := by
  have hpaired : IsPaired node' key ↔ IsPaired node key := by
    rw [isPaired_iff, isPaired_iff, Mirrors, Mirrors, hsource, hdestination]
  constructor
  · rintro r rfl
    rw [mem_source_iff, mem_source_iff, hsource, hpaired]
  · rintro r rfl
    rw [mem_destination_iff, mem_destination_iff, hdestination, hpaired]
  · rintro m rfl
    rw [mem_staticNat, mem_staticNat, mem_mappings, mem_mappings, hsource, hdestination]

/-- Of entries with distinct keys, one has a given key. -/
theorem filter_eq_singleton {α : Type} {f : α → String} {l : List α} {x : α}
    (hnodup : (l.map f).Nodup) (hx : x ∈ l) : l.filter (fun y ↦ f y = f x) = [x] := by
  induction l with
  | nil => cases hx
  | cons y l ih =>
    obtain ⟨hy, hnodup⟩ := List.nodup_cons.1 hnodup
    rcases List.mem_cons.1 hx with rfl | hx
    · rw [List.filter_cons_of_pos (by simp)]
      refine congrArg _ (List.filter_eq_nil_iff.2 fun z hz heq ↦ hy ?_)
      rw [← of_decide_eq_true heq]
      exact List.mem_map_of_mem hz
    · have hne : f y ≠ f x := fun heq ↦ hy (heq ▸ List.mem_map_of_mem hx)
      rw [List.filter_cons_of_neg (by simpa using hne)]
      exact ih hnodup hx

/-! ### The two halves -/

/-- The interface the recogniser reads off a rule that holds a name. -/
theorem interface_of_holds {v : Json} {key : String} {iface : Option String}
    (h : (iface, false) = liveInterface (some v) key ∨
      iface = none ∧ (liveInterface (some v) key).1 = none) :
    (v.nestedStr key "name" <|> v.childStr key) = iface := by
  cases hname : v.nestedStr key "name" with
  | some n =>
    rw [liveInterface_of_name hname] at h
    have hiface : iface = some n := by simpa using h
    exact hiface.symm
  | none =>
    cases hgroup : v.nestedStr key "group" with
    | some g =>
      rw [liveInterface_of_group hname hgroup] at h
      simp at h
    | none =>
      rw [liveInterface_bare hname hgroup] at h
      rcases h with h | ⟨rfl, h⟩
      · exact (congrArg Prod.fst h).symm
      · exact h

/-- **Rules that hold the two halves** are the mapping. -/
theorem mirrored_of_holds {body : StaticNatUpdate} {s d : Json}
    (hs : (staticPair body).1.Holds s) (hd : (staticPair body).2.Holds d)
    (hinternal : trimmed body.internalAddress ≠ none)
    (hexternal : trimmed body.externalAddress ≠ none) :
    mirrored body.rule.repr s d = some body.mapping := by
  have hinternalS : s.nestedStr "source" "address" = trimmed body.internalAddress :=
    hs.sourceAddress.symm
  have hexternalS : s.nestedStr "translation" "address" = trimmed body.externalAddress :=
    hs.translationAddress.symm
  have hexternalD : d.nestedStr "destination" "address" = trimmed body.externalAddress :=
    hd.destinationAddress.symm
  have hinternalD : d.nestedStr "translation" "address" = trimmed body.internalAddress :=
    hd.translationAddress.symm
  have hdescription : (s.childStr "description" <|> d.childStr "description") =
      trimmed body.description := by
    rw [← hs.description, ← hd.description]
    show (trimmed body.description <|> trimmed body.description) = _
    cases trimmed body.description <;> rfl
  have hinterface : (s.nestedStr "outbound-interface" "name" <|>
      s.childStr "outbound-interface") = trimmed body.interface := interface_of_holds hs.interface
  have henabled : (s.isEnabled && d.isEnabled) = body.enabled := by
    rw [← hs.enabled, ← hd.enabled]
    exact Bool.and_self _
  simp [mirrored, StaticNatUpdate.mapping, hinternalS, hexternalS, hexternalD, hinternalD,
    hdescription, hinterface, henabled, hinternal, hexternal]

/-! ### Both diffs in one batch -/

section Batch

variable {schema : Schema} {L L' : LiveConfig} {author : Uuid}

/-- The diff of a rule that stays where it is spares everything apart from the rule. -/
theorem diffNat44_spares (hschema : schema.Knows) {node : Json} {body : Nat44RuleUpdate}
    (hstays : renumberedFrom body.rule body.originalRule = none) {p : Path}
    (hp : Apart (ruleBase body.sect body.rule) p) :
    Spares schema p (diffNat44 node body author) := by
  have hdrop : natDrop body author = [] := by rw [natDrop, hstays]
  have hlayout := natParts_layout hschema (comparedRule node body) body author
  rw [diffNat44_eq, hdrop, List.nil_append]
  exact hlayout.spares rfl (hschema _ _ (.rules _))
    (fun x _ ↦ hp.mono (List.prefix_append _ _) (List.prefix_refl p)) hp.2

/-- **A static mapping comes back.** -/
theorem static_comes_back (hschema : schema.Knows) (hL : L.Fits) (hL' : L'.Fits)
    {body : StaticNatUpdate} (hstays : renumberedFrom body.rule body.originalRule = none)
    (hinternal : trimmed body.internalAddress ≠ none)
    (hexternal : trimmed body.externalAddress ≠ none)
    (hexec : schema.Executes
      ((staticChanges (L.shown ["nat"]) body author).map NewConfigChange.command) L L') :
    (splitStatic (L'.shown ["nat"])).staticNat.filter (fun m ↦ m.rule = body.rule.repr) =
        [body.mapping] ∧
      (∀ r ∈ (splitStatic (L'.shown ["nat"])).source, r.rule ≠ body.rule.repr) ∧
      (∀ r ∈ (splitStatic (L'.shown ["nat"])).destination, r.rule ≠ body.rule.repr) ∧
      ∀ key, key ≠ body.rule.repr → SameAt (L.shown ["nat"]) (L'.shown ["nat"]) key := by
  have happart : Apart (ruleBase "source" body.rule) (ruleBase "destination" body.rule) := by
    refine Apart.append_left ["nat"] ⟨?_, ?_⟩ <;> simp
  have hsource : ∃ s, L'.tree.subtree (ruleBase "source" body.rule) = some s ∧
      (staticPair body).1.Holds s := by
    obtain ⟨s, hs, hholds, -⟩ := @rule_of_executes schema L L' (staticPair body).1 author hschema
      hL hL' hstays _ _ spares_nil (diffNat44_spares hschema hstays happart.symm) hexec
    exact ⟨s, hs, hholds⟩
  have hdestination : ∃ d, L'.tree.subtree (ruleBase "destination" body.rule) = some d ∧
      (staticPair body).2.Holds d := by
    rw [staticChanges, ← List.append_nil (diffNat44 _ (staticPair body).2 _)] at hexec
    obtain ⟨d, hd, hholds, -⟩ := @rule_of_executes schema L L' (staticPair body).2 author hschema
      hL hL' hstays _ _ (diffNat44_spares hschema hstays happart) spares_nil hexec
    exact ⟨d, hd, hholds⟩
  obtain ⟨s, hs, hsholds⟩ := hsource
  obtain ⟨d, hd, hdholds⟩ := hdestination
  have hmirrored := mirrored_of_holds hsholds hdholds hinternal hexternal
  have hmem : body.mapping ∈ (splitStatic (L'.shown ["nat"])).staticNat := by
    rw [mem_staticNat, mem_mappings]
    refine ⟨s, d, ?_, ?_, hmirrored⟩
    · rw [ruleAt_shown]
      exact hs
    · rw [ruleAt_shown]
      exact hd
  have hpaired : IsPaired (L'.shown ["nat"]) body.rule.repr :=
    List.mem_map.2 ⟨body.mapping, mem_staticNat.1 hmem, rfl⟩
  refine ⟨filter_eq_singleton (nodup_staticNat _) hmem, ?_, ?_, ?_⟩
  · rintro r hr heq
    exact (mem_source_iff.1 hr).2 (heq ▸ hpaired)
  · rintro r hr heq
    exact (mem_destination_iff.1 hr).2 (heq ▸ hpaired)
  · intro key hne
    have hsame : ∀ sect,
        ruleAt (L'.shown ["nat"]) sect key = ruleAt (L.shown ["nat"]) sect key := by
      intro sect
      rw [ruleAt_shown, ruleAt_shown]
      refine hexec.untouched _ fun q hq _ hc ↦ ?_
      obtain ⟨c, hd, rfl⟩ := List.mem_map.1 hc
      have happart : ∀ sect', Apart (ruleBase sect' body.rule) ["nat", sect, "rule", key] := by
        intro sect'
        refine Apart.append_left ["nat"] ⟨?_, ?_⟩ <;> simp [hne, hne.symm]
      rcases List.mem_append.1 hd with hd | hd
      · exact diffNat44_spares hschema hstays (happart "source") c hd q hq
      · exact diffNat44_spares hschema hstays (happart "destination") c hd q hq
    exact sameAt_of_ruleAt (hsame _) (hsame _)

end Batch

end VyosFabric
