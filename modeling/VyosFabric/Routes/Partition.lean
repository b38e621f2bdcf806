import VyosFabric.Routes.Nat44

/-!
# How the inventory is divided

`splitStatic` loses no rule and invents none: a key of a section is listed once, as a rule of the
section or as a mapping, and the mappings are the keys whose two rules mirror each other
(`splitStatic_partitions`).

The lists are sorted by `r.rule.parse::<u64>().unwrap_or(0)`. That is the numeric order of decimal
keys within 64 bits (`ruleOrder_eq`), which the rule numbers of a device are; larger numerals are
sorted as zero (`splitStatic_huge`).
-/

namespace VyosFabric

/-! ### Decimal keys -/

/-- The text is a decimal number. -/
def IsDecimal (s : String) : Prop := s ≠ "" ∧ s.toList.all Char.isDigit = true

instance (s : String) : Decidable (IsDecimal s) := inferInstanceAs (Decidable (_ ∧ _))

/-- The number a decimal text writes. -/
def decimalValue (s : String) : ℕ := Nat.ofDigitChars 10 s.toList 0

/-- **Keys are ordered by their numbers**, within 64 bits. -/
theorem ruleOrder_eq {s : String} (hdecimal : IsDecimal s) (hlt : decimalValue s < 2 ^ 64) :
    ruleOrder s = decimalValue s := by
  obtain ⟨hne, hdigits⟩ := hdecimal
  have hempty : s.toList.isEmpty = false := by simpa using hne
  unfold decimalValue at hlt
  rw [ruleOrder, parseU64, decimalValue]
  split
  · -- the first character is a digit, so there is no sign
    rename_i cs hplus
    rw [hplus] at hdigits
    cases hdigits
  · rw [hempty, hdigits, if_neg (by decide), if_pos hlt, Option.getD_some]

/-! ### The division -/

/-- The key names a rule of one section or the other. -/
def IsRuleKey (node : Json) (key : String) : Prop :=
  (ruleAt node "source" key).isSome = true ∨ (ruleAt node "destination" key).isSome = true

/-- The two rules of the key mirror each other: what the source rule translates is what the
destination rule translates to, and the other way round. -/
def Mirrors (node : Json) (key : String) : Prop :=
  ∃ s d internal external, ruleAt node "source" key = some s ∧
    ruleAt node "destination" key = some d ∧
    s.nestedStr "source" "address" = some internal ∧
    s.nestedStr "translation" "address" = some external ∧
    d.nestedStr "translation" "address" = some internal ∧
    d.nestedStr "destination" "address" = some external

/-- The three lists divide the rules of `node`. -/
structure Nat44Config.Divides (c : Nat44Config) (node : Json) : Prop where
  source_once : ∀ key, (ruleAt node "source" key).isSome = true →
    (c.source.map NatRule.rule ++ c.staticNat.map StaticNatMapping.rule).count key = 1
  destination_once : ∀ key, (ruleAt node "destination" key).isSome = true →
    (c.destination.map NatRule.rule ++ c.staticNat.map StaticNatMapping.rule).count key = 1
  static_iff : ∀ key, key ∈ c.staticNat.map StaticNatMapping.rule ↔ Mirrors node key
  source_parsed : ∀ r ∈ c.source, ∃ v, ruleAt node "source" r.rule = some v ∧
    r = parseRule r.rule v (some "outbound-interface")
  destination_parsed : ∀ r ∈ c.destination, ∃ v, ruleAt node "destination" r.rule = some v ∧
    r = parseRule r.rule v (some "inbound-interface")
  static_parsed : ∀ m ∈ c.staticNat, ∃ s d, ruleAt node "source" m.rule = some s ∧
    ruleAt node "destination" m.rule = some d ∧ mirrored m.rule s d = some m

/-- Each of the three lists is in the order of the rule numbers. -/
structure Nat44Config.InOrder (c : Nat44Config) : Prop where
  source : (c.source.map fun r ↦ decimalValue r.rule).Pairwise (· ≤ ·)
  destination : (c.destination.map fun r ↦ decimalValue r.rule).Pairwise (· ≤ ·)
  staticNat : (c.staticNat.map fun m ↦ decimalValue m.rule).Pairwise (· ≤ ·)

/-! ### Each key once -/

/-- The keys of an object are distinct. -/
theorem Json.nodup_keys_entries (v : Json) : (v.entries.map Prod.fst).Nodup := by
  cases v with
  | obj m =>
    rw [Json.entries, List.map_filterMap]
    refine List.Nodup.filterMap ?_ ((List.perm_insertionSort _ _).nodup_iff.2 (List.nodup_dedup _))
    intro k k' key hk hk'
    simp only [Option.map_map, Option.mem_def, Option.map_eq_some_iff,
      Function.comp_apply] at hk hk'
    obtain ⟨-, -, rfl⟩ := hk
    obtain ⟨-, -, rfl⟩ := hk'
    rfl
  | null | bool | int | real | str | arr => exact List.nodup_nil

theorem nodup_parseRules (node : Json) (sect : String) (ifaceKey : Option String) :
    ((parseRules node sect ifaceKey).map NatRule.rule).Nodup := by
  have hperm := List.perm_insertionSort (fun a b ↦ ruleOrder a.rule ≤ ruleOrder b.rule)
    ((rulesOf node sect).entries.map fun x ↦ parseRule x.1 x.2 ifaceKey)
  refine (hperm.map NatRule.rule).nodup_iff.2 ?_
  rw [List.map_map]
  exact (rulesOf node sect).nodup_keys_entries

/-- Entries of an object that are kept under their keys have distinct keys. -/
theorem nodup_filterMap_entries {α : Type} {f : String × Json → Option α} {key : α → String}
    (hkey : ∀ x y, f x = some y → key y = x.1) (v : Json) :
    ((v.entries.filterMap f).map key).Nodup := by
  have hsub : ∀ l : List (String × Json), ((l.filterMap f).map key).Sublist (l.map Prod.fst) := by
    intro l
    induction l with
    | nil => exact List.Sublist.refl _
    | cons x l ih =>
      cases hx : f x with
      | none =>
        rw [List.filterMap_cons_none hx]
        exact ih.cons _
      | some y =>
        rw [List.filterMap_cons_some hx, List.map_cons, List.map_cons, hkey x y hx]
        exact ih.cons_cons _
  exact v.nodup_keys_entries.sublist (hsub _)

theorem nodup_mappings (node : Json) : ((mappings node).map StaticNatMapping.rule).Nodup := by
  refine nodup_filterMap_entries (fun x m hm ↦ ?_) _
  obtain ⟨d, -, hd⟩ := Option.bind_eq_some_iff.1 hm
  exact mirrored_rule hd

theorem nodup_staticNat (node : Json) :
    ((splitStatic node).staticNat.map StaticNatMapping.rule).Nodup := by
  have hperm := List.perm_insertionSort (fun a b ↦ ruleOrder a.rule ≤ ruleOrder b.rule)
    (mappings node)
  exact (hperm.map StaticNatMapping.rule).nodup_iff.2 (nodup_mappings node)

/-- A key of two lists that is in one of them alone is listed once. -/
theorem count_append_eq_one {l l' : List String} {key : String} (hl : l.Nodup) (hl' : l'.Nodup)
    (hone : key ∈ l ↔ key ∉ l') : (l ++ l').count key = 1 := by
  rw [List.count_append]
  by_cases hmem : key ∈ l
  · rw [List.count_eq_one_of_mem hl hmem, List.count_eq_zero_of_not_mem (hone.1 hmem)]
  · rw [List.count_eq_zero_of_not_mem hmem,
      List.count_eq_one_of_mem hl' (not_not.1 fun h ↦ hmem (hone.2 h))]

theorem mirrored_isSome_iff {num : String} {s d : Json} : (mirrored num s d).isSome = true ↔
    ∃ internal external, s.nestedStr "source" "address" = some internal ∧
      s.nestedStr "translation" "address" = some external ∧
      d.nestedStr "translation" "address" = some internal ∧
      d.nestedStr "destination" "address" = some external := by
  rw [mirrored]
  split
  · rename_i hnot
    constructor
    · intro h
      cases h
    · rintro ⟨internal, external, hs, ht, hdt, hdd⟩
      simp [hs, ht, hdt, hdd] at hnot
  · rename_i hall
    simp only [not_or, not_not] at hall
    obtain ⟨hs, ht, hdd, hdt⟩ := hall
    obtain ⟨internal, hinternal⟩ := Option.ne_none_iff_exists'.1 hs
    obtain ⟨external, hexternal⟩ := Option.ne_none_iff_exists'.1 ht
    exact ⟨fun _ ↦ ⟨internal, external, hinternal, hexternal, hdt.trans hinternal,
      hdd.trans hexternal⟩, fun _ ↦ rfl⟩

/-- The paired keys are those whose rules mirror each other. -/
theorem isPaired_iff {node : Json} {key : String} : IsPaired node key ↔ Mirrors node key := by
  constructor
  · rintro hpaired
    obtain ⟨m, hm, rfl⟩ := List.mem_map.1 hpaired
    obtain ⟨s, d, hs, hd, hmirrored⟩ := mem_mappings.1 hm
    obtain ⟨internal, external, h⟩ := mirrored_isSome_iff.1 (by rw [hmirrored]; rfl)
    exact ⟨s, d, internal, external, hs, hd, h⟩
  · rintro ⟨s, d, internal, external, hs, hd, h⟩
    have hsome : (mirrored key s d).isSome = true := mirrored_isSome_iff.2 ⟨internal, external, h⟩
    obtain ⟨m, hm⟩ := Option.isSome_iff_exists.1 hsome
    obtain rfl := mirrored_rule hm
    exact List.mem_map.2 ⟨m, mem_mappings.2 ⟨s, d, hs, hd, hm⟩, rfl⟩

theorem mem_map_staticNat_iff {node : Json} {key : String} :
    key ∈ (splitStatic node).staticNat.map StaticNatMapping.rule ↔ IsPaired node key := by
  rw [List.mem_map]
  exact exists_mem_staticNat_iff

/-- **The lists divide the rules.** -/
theorem splitStatic_divides (node : Json) : (splitStatic node).Divides node := by
  have hsource : ((splitStatic node).source.map NatRule.rule).Nodup :=
    (nodup_parseRules node "source" _).sublist (List.filter_sublist.map _)
  have hdestination : ((splitStatic node).destination.map NatRule.rule).Nodup :=
    (nodup_parseRules node "destination" _).sublist (List.filter_sublist.map _)
  have hstatic := nodup_staticNat node
  constructor
  case source_once =>
    intro key hkey
    refine count_append_eq_one hsource hstatic ?_
    rw [List.mem_map, exists_mem_source_iff, mem_map_staticNat_iff, and_iff_right hkey]
  case destination_once =>
    intro key hkey
    refine count_append_eq_one hdestination hstatic ?_
    rw [List.mem_map, exists_mem_destination_iff, mem_map_staticNat_iff, and_iff_right hkey]
  case static_iff =>
    intro key
    rw [mem_map_staticNat_iff, isPaired_iff]
  case source_parsed =>
    intro r hr
    exact mem_parseRules.1 (List.mem_of_mem_filter hr)
  case destination_parsed =>
    intro r hr
    exact mem_parseRules.1 (List.mem_of_mem_filter hr)
  case static_parsed =>
    intro m hm
    exact mem_mappings.1 (mem_staticNat.1 hm)

/-! ### Their order -/

/-- A list in the order of its texts is in the order of their numbers. -/
theorem pairwise_decimalValue {α : Type} {rule : α → String} {l : List α}
    (hsorted : l.Pairwise fun a b ↦ ruleOrder (rule a) ≤ ruleOrder (rule b))
    (hkeys : ∀ a ∈ l, IsDecimal (rule a) ∧ decimalValue (rule a) < 2 ^ 64) :
    (l.map fun a ↦ decimalValue (rule a)).Pairwise (· ≤ ·) := by
  rw [List.pairwise_map]
  refine hsorted.imp_of_mem fun {a b} ha hb hle ↦ ?_
  rwa [ruleOrder_eq (hkeys a ha).1 (hkeys a ha).2,
    ruleOrder_eq (hkeys b hb).1 (hkeys b hb).2] at hle

theorem pairwise_insertionSort_rule {α : Type} (rule : α → String) (l : List α) :
    (l.insertionSort fun a b ↦ ruleOrder (rule a) ≤ ruleOrder (rule b)).Pairwise
      fun a b ↦ ruleOrder (rule a) ≤ ruleOrder (rule b) := by
  have : Std.Total fun a b ↦ ruleOrder (rule a) ≤ ruleOrder (rule b) := ⟨fun a b ↦ le_total _ _⟩
  have : IsTrans α fun a b ↦ ruleOrder (rule a) ≤ ruleOrder (rule b) :=
    ⟨fun a b c hab hbc ↦ hab.trans hbc⟩
  exact List.pairwise_insertionSort _ l

theorem pairwise_parseRules (node : Json) (sect : String) (ifaceKey : Option String) :
    (parseRules node sect ifaceKey).Pairwise fun a b ↦ ruleOrder a.rule ≤ ruleOrder b.rule :=
  pairwise_insertionSort_rule NatRule.rule _

/-- **`get_nat44` divides the rules** among its lists, which are sorted by number where the keys are
decimal numbers of 64 bits. -/
theorem splitStatic_partitions (node : Json) : (splitStatic node).Divides node ∧
    ((∀ key, IsRuleKey node key → IsDecimal key ∧ decimalValue key < 2 ^ 64) →
      (splitStatic node).InOrder) := by
  refine ⟨splitStatic_divides node, fun hkeys ↦ ?_⟩
  have hdivides := splitStatic_divides node
  constructor
  · refine pairwise_decimalValue ((pairwise_parseRules _ _ _).filter _) fun r hr ↦ ?_
    obtain ⟨v, hv, -⟩ := hdivides.source_parsed r hr
    exact hkeys _ (Or.inl (by rw [hv]; rfl))
  · refine pairwise_decimalValue ((pairwise_parseRules _ _ _).filter _) fun r hr ↦ ?_
    obtain ⟨v, hv, -⟩ := hdivides.destination_parsed r hr
    exact hkeys _ (Or.inr (by rw [hv]; rfl))
  · refine pairwise_decimalValue (pairwise_insertionSort_rule _ _) fun m hm ↦ ?_
    obtain ⟨s, -, hs, -⟩ := hdivides.static_parsed m hm
    exact hkeys _ (Or.inl (by rw [hs]; rfl))

/-- A config with two source rules, one of a number that takes 65 bits. -/
def hugeRules : Json :=
  .obj [("source", .obj [("rule", .obj [("1", .obj []), ("18446744073709551616", .obj [])])])]

/-- The larger number comes first. -/
theorem splitStatic_huge : (∀ key, IsRuleKey hugeRules key → IsDecimal key) ∧
    ¬(splitStatic hugeRules).InOrder := by
  constructor
  · have hentries : (rulesOf hugeRules "source").entries =
        [("1", .obj []), ("18446744073709551616", .obj [])] := by decide
    rintro key (hkey | hkey)
    · obtain ⟨v, hv⟩ := Option.isSome_iff_exists.1 hkey
      have hmem := Json.mem_entries.2 hv
      rw [hentries, List.mem_cons, List.mem_singleton] at hmem
      rcases hmem with heq | heq
      · obtain rfl := congrArg Prod.fst heq
        decide
      · obtain rfl := congrArg Prod.fst heq
        decide
    · cases hkey
  · intro horder
    exact absurd horder.source (by decide)

end VyosFabric
