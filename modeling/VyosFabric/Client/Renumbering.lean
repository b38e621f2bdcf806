import VyosFabric.Client.NatForms

/-!
# Rule numbers that are already taken

Source rules, destination rules and mappings share their numbers on the device, and each form checks
a new number against one list only. Since a mapping is lifted out of the two rule lists, a rule form
does not see the numbers of mappings, and a mapping form sees nothing else. `vacant_iff` says for
each form which numbers it wrongly takes for free.
-/

namespace VyosFabric

/-- The submit does not re-save the rule of a text under its own number. -/
def Renumbers (initial : Option String) (num : ℕ) : Prop :=
  ∀ r, initial = some r → number r ≠ some (num : ℚ)

/-- A create or a renumber clashes with every listed rule of its number. -/
theorem clashes_repr {initial : Option String} {num : ℕ} (hnum : num ≤ 999999)
    (hnew : Renumbers initial num) : clashes num initial num.repr = true := by
  have hread : number num.repr = some (num : ℚ) := number_repr (by omega)
  have hother : initial ≠ some num.repr := fun h ↦ hnew _ h hread
  simp [clashes, hread, hother]

theorem liveRule_eq_none_iff {node : Json} {sect : String} {num : ℕ} :
    liveRule node sect num = none ↔ ¬(ruleAt node sect num.repr).isSome = true := by
  rw [liveRule_eq, Option.not_isSome_iff_eq_none]

/-- The rules of a section that a form does not see are halves of mappings. -/
theorem exists_mem_rules_iff {node : Json} {sect : NatSection} {key : String} :
    (∃ r ∈ (splitStatic node).rules sect, r.rule = key) ↔
      (ruleAt node sect.text key).isSome = true ∧ ¬IsPaired node key := by
  cases sect with
  | source => exact exists_mem_source_iff
  | destination => exact exists_mem_destination_iff

/-- **A rule form** takes the numbers of mappings for free, and no others. -/
theorem Nat44Form.eq_none_iff {node : Json} {props : Nat44Props} {f : Nat44Form}
    {body : Nat44RuleUpdate} (hlisted : props.existing = (splitStatic node).rules props.sect)
    (hsubmit : f.submit props = .ok body)
    (hnew : Renumbers (props.initial.map NatRule.rule) body.rule) :
    liveRule node props.sect.text body.rule = none ↔ ¬IsPaired node body.rule.repr := by
  obtain ⟨hnum, hquiet, -, -⟩ := Nat44Form.of_submit hsubmit
  have hrange := (ruleNumber_eq_some.1 hnum).2.2
  rw [liveRule_eq_none_iff]
  constructor
  · intro hnone hpaired
    cases hsect : props.sect with
    | source => exact hnone (hsect ▸ hpaired.rules.1)
    | destination => exact hnone (hsect ▸ hpaired.rules.2)
  · intro hpaired hsome
    obtain ⟨r, hr, hkey⟩ := exists_mem_rules_iff.2 ⟨hsome, hpaired⟩
    have hfree := hquiet r (hlisted ▸ hr)
    rw [hkey, clashes_repr hrange hnew] at hfree
    cases hfree

/-- **A mapping form** takes the numbers of all other rules for free. -/
theorem StaticNatForm.forall_eq_none_iff {node : Json} {props : StaticNatProps} {f : StaticNatForm}
    {body : StaticNatUpdate} (hlisted : props.existing = (splitStatic node).staticNat)
    (hsubmit : f.submit props = .ok body)
    (hnew : Renumbers (props.initial.map StaticNatMapping.rule) body.rule) :
    (∀ sect : NatSection, liveRule node sect.text body.rule = none) ↔
      ∀ sect, ∀ r ∈ (splitStatic node).rules sect, r.rule ≠ body.rule.repr := by
  obtain ⟨hnum, hquiet, -, -⟩ := StaticNatForm.of_submit hsubmit
  have hrange := (ruleNumber_eq_some.1 hnum).2.2
  have hpaired : ¬IsPaired node body.rule.repr := by
    intro hpaired
    obtain ⟨m, hm, hkey⟩ := exists_mem_staticNat_iff.2 hpaired
    have hfree := hquiet m (hlisted ▸ hm)
    rw [hkey, clashes_repr hrange hnew] at hfree
    cases hfree
  refine forall_congr' fun sect ↦ ?_
  rw [liveRule_eq_none_iff]
  constructor
  · intro hnone r hr hkey
    exact hnone (exists_mem_rules_iff.1 ⟨r, hr, hkey⟩).1
  · intro hother hsome
    obtain ⟨r, hr, hkey⟩ := exists_mem_rules_iff.2 ⟨hsome, hpaired⟩
    exact hother r hr hkey

/-- **Which taken numbers pass for free.** A number that a form accepts for a create or a renumber
names no live rule exactly if it is no mapping's, for a rule form, and exactly if it is in neither
list of rules, for a mapping form. -/
theorem vacant_iff {node : Json} :
    (∀ (props : Nat44Props) (f : Nat44Form) (body : Nat44RuleUpdate),
      props.existing = (splitStatic node).rules props.sect → f.submit props = .ok body →
      Renumbers (props.initial.map NatRule.rule) body.rule →
      (liveRule node props.sect.text body.rule = none ↔ ¬IsPaired node body.rule.repr)) ∧
    ∀ (props : StaticNatProps) (f : StaticNatForm) (body : StaticNatUpdate),
      props.existing = (splitStatic node).staticNat → f.submit props = .ok body →
      Renumbers (props.initial.map StaticNatMapping.rule) body.rule →
      ((∀ sect : NatSection, liveRule node sect.text body.rule = none) ↔
        ∀ sect, ∀ r ∈ (splitStatic node).rules sect, r.rule ≠ body.rule.repr) :=
  ⟨fun _ _ _ hlisted hsubmit hnew ↦ Nat44Form.eq_none_iff hlisted hsubmit hnew,
    fun _ _ _ hlisted hsubmit hnew ↦ StaticNatForm.forall_eq_none_iff hlisted hsubmit hnew⟩

/-! ### A mapping with the number of a new rule -/

/-- A live `nat` config with one mapping, under the number 10. -/
def mappedNat : Json :=
  .obj [
    ("source", .obj [("rule", .obj [("10", .obj [
      ("outbound-interface", .obj [("name", .str "eth0")]),
      ("source", .obj [("address", .str "10.0.0.5")]),
      ("translation", .obj [("address", .str "203.0.113.5")])])])]),
    ("destination", .obj [("rule", .obj [("10", .obj [
      ("inbound-interface", .obj [("name", .str "eth0")]),
      ("destination", .obj [("address", .str "203.0.113.5")]),
      ("translation", .obj [("address", .str "10.0.0.5")])])])])]

/-- The page's rule form for a new source rule. -/
def newRuleProps : Nat44Props :=
  ⟨.source, none, ["eth0"], [], (splitStatic mappedNat).rules .source⟩

/-- A number typed into it. -/
def newRuleForm (rule : String) : Nat44Form :=
  { Nat44Form.initially newRuleProps with rule := rule }

/-- The page's mapping form for a new mapping. -/
def newMappingProps : StaticNatProps := ⟨none, ["eth0"], (splitStatic mappedNat).staticNat⟩

def newMappingForm (rule : String) : StaticNatForm :=
  ⟨rule, "", "eth0", "10.0.0.6", "203.0.113.6", true⟩

theorem submit_newRuleForm {num : ℕ} (hle : 1 ≤ num) (hge : num ≤ 999999) :
    (newRuleForm num.repr).submit newRuleProps =
      .ok ((newRuleForm num.repr).body .source num none) := by
  have hexisting : newRuleProps.existing = [] := by decide
  refine Nat44Form.submit_eq (ruleNumber_repr hle hge) fun r hr ↦ ?_
  rw [hexisting] at hr
  cases hr

theorem submit_newMappingForm :
    (newMappingForm (Nat.repr 20)).submit newMappingProps =
      .ok ((newMappingForm (Nat.repr 20)).body 20 none) := by
  have hlisted : newMappingProps.existing.map StaticNatMapping.rule = [Nat.repr 10] := by decide
  refine StaticNatForm.submit_eq (ruleNumber_repr (by decide) (by decide)) (by decide)
    fun m hm ↦ ?_
  have hten : m.rule = Nat.repr 10 := by
    have hmem := List.mem_map_of_mem (f := StaticNatMapping.rule) hm
    rw [hlisted] at hmem
    exact List.mem_singleton.1 hmem
  rw [hten]
  exact clashes_eq_false (by decide) (by decide)

/-- The number 20 is free for both. -/
theorem vacant_twenty : liveRule mappedNat "source" 20 = none ∧
    ∀ sect : NatSection, liveRule mappedNat sect.text 20 = none := by
  have hrules : ∀ sect, ∀ r ∈ (splitStatic mappedNat).rules sect, r.rule ≠ Nat.repr 20 := by
    intro sect
    cases sect <;> decide
  exact ⟨((@vacant_iff mappedNat).1 newRuleProps _ _ rfl
    (submit_newRuleForm (by decide) (by decide))
      (fun _ h ↦ nomatch h)).2 (by decide),
    ((@vacant_iff mappedNat).2 newMappingProps _ _ rfl submit_newMappingForm
      (fun _ h ↦ nomatch h)).2 hrules⟩

/-- **A new rule can land on a mapping.** The form accepts 10, which is the source half of the
mapping. -/
theorem not_vacant_ten : ∃ body,
    newRuleProps.existing = (splitStatic mappedNat).rules newRuleProps.sect ∧
      (newRuleForm (Nat.repr 10)).submit newRuleProps = .ok body ∧
      Renumbers (newRuleProps.initial.map NatRule.rule) body.rule ∧ validRule body.rule = true ∧
      liveRule mappedNat newRuleProps.sect.text body.rule ≠ none := by
  have hnew : Renumbers (newRuleProps.initial.map NatRule.rule) 10 := fun r hr ↦ nomatch hr
  exact ⟨_, rfl, submit_newRuleForm (by decide) (by decide), hnew, by decide, by decide⟩

end VyosFabric
