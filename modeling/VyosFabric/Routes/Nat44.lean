import VyosFabric.Routes.Staging

/-!
# The live NAT44 inventory

`get_nat44` reads the live `nat` subtree and answers with three lists: the source rules, the
destination rules, and the 1-to-1 mappings. A mapping is a number that names a source and a
destination rule whose addresses mirror each other; it is lifted out of both lists (`splitStatic`).

The lists are sorted by number, but a rule is told apart by the text of its number, which is its key
in the config. `ruleAt` is the rule of a key.
-/

namespace VyosFabric

open Interaction

/-- A single NAT rule as the page shows it. -/
structure NatRule where
  rule : String
  description : Option String
  interface : Option String
  interfaceGroup : Bool
  source : Option String
  sourceGroup : Option String
  sourcePort : Option String
  destination : Option String
  destinationGroup : Option String
  destinationPort : Option String
  translation : Option String
  translationPort : Option String
  protocol : Option String
  exclude : Bool
  log : Bool
  enabled : Bool
  deriving DecidableEq, Repr

/-- A 1-to-1 mapping: a source and a destination rule of one number. -/
structure StaticNatMapping where
  rule : String
  description : Option String
  interface : Option String
  internalAddress : Option String
  externalAddress : Option String
  enabled : Bool
  deriving DecidableEq, Repr

structure Nat44Config where
  source : List NatRule
  destination : List NatRule
  staticNat : List StaticNatMapping
  deriving DecidableEq, Repr

/-! ### Readers -/

/-- Match address or prefix under a `source` or `destination` section. -/
def addrOrPrefix (rule : Json) (sect : String) : Option String :=
  let s := rule.idx sect
  s.childStr "address" <|> s.childStr "prefix"

/-- The first group reference under a section, as `<type> <name>`. -/
def groupRef (rule : Json) (sect : String) : Option String := do
  let groups ← (rule.get sect).bind fun s ↦ s.get "group"
  let (ty, name) ← groups.entries.head?
  let n ← name.asStr
  return s!"{ty} {n}"

/-- Translation target: an address, a referenced pool, or `masquerade`. -/
def translation (rule : Json) : Option String :=
  rule.nestedStr "translation" "address" <|>
  rule.nestedStr "translation" "pool" <|>
  (((rule.idx "translation").idx "pool").entries.head?.map Prod.fst) <|>
  (((rule.idx "translation").get "masquerade").map fun _ ↦ "masquerade")

/-- The interface of a rule, and whether it is a group reference. -/
def ruleInterface (cfg : Json) (ifaceKey : Option String) : Option String × Bool :=
  match ifaceKey with
  | none => (none, false)
  | some k => liveInterface (some cfg) k

def parseRule (num : String) (cfg : Json) (ifaceKey : Option String) : NatRule where
  rule := num
  description := cfg.childStr "description"
  interface := (ruleInterface cfg ifaceKey).1
  interfaceGroup := (ruleInterface cfg ifaceKey).2
  source := addrOrPrefix cfg "source"
  sourceGroup := groupRef cfg "source"
  sourcePort := cfg.nestedStr "source" "port"
  destination := addrOrPrefix cfg "destination"
  destinationGroup := groupRef cfg "destination"
  destinationPort := cfg.nestedStr "destination" "port"
  translation := translation cfg
  translationPort := cfg.nestedStr "translation" "port"
  protocol := cfg.childStr "protocol"
  exclude := (cfg.get "exclude").isSome
  log := (cfg.get "log").isSome
  enabled := cfg.isEnabled

/-- `<section> rule`. -/
def rulesOf (node : Json) (sect : String) : Json := (node.idx sect).idx "rule"

/-- Where the rule of a text stands in the list: `r.rule.parse::<u64>().unwrap_or(0)`. -/
def ruleOrder (rule : String) : ℕ := (parseU64 rule).getD 0

/-- The rules of a section, sorted by number. -/
def parseRules (node : Json) (sect : String) (ifaceKey : Option String) : List NatRule :=
  ((rulesOf node sect).entries.map fun x ↦ parseRule x.1 x.2 ifaceKey).insertionSort fun a b ↦
    ruleOrder a.rule ≤ ruleOrder b.rule

/-- The mapping of a source rule `s` and a destination rule `d` of one number, if both addresses are
present and swapped on the destination rule. -/
def mirrored (num : String) (s d : Json) : Option StaticNatMapping :=
  let internal := s.nestedStr "source" "address"
  let external := s.nestedStr "translation" "address"
  if internal = none ∨ external = none ∨ d.nestedStr "destination" "address" ≠ external ∨
      d.nestedStr "translation" "address" ≠ internal then none
  else
    some
      { rule := num
        description := s.childStr "description" <|> d.childStr "description"
        interface := s.nestedStr "outbound-interface" "name" <|> s.childStr "outbound-interface"
        internalAddress := internal
        externalAddress := external
        enabled := s.isEnabled && d.isEnabled }

/-- The mappings of a live `nat` config, in key order. -/
def mappings (node : Json) : List StaticNatMapping :=
  (rulesOf node "source").entries.filterMap fun x ↦
    ((rulesOf node "destination").get x.1).bind fun d ↦ mirrored x.1 x.2 d

/-- The source and destination rules that are not half of a mapping, and the mappings. -/
def splitStatic (node : Json) : Nat44Config :=
  let statics := mappings node
  let paired := statics.map StaticNatMapping.rule
  { source := (parseRules node "source" (some "outbound-interface")).filter fun r ↦
      r.rule ∉ paired
    destination := (parseRules node "destination" (some "inbound-interface")).filter fun r ↦
      r.rule ∉ paired
    staticNat := statics.insertionSort fun a b ↦ ruleOrder a.rule ≤ ruleOrder b.rule }

def getNat44 (claims : Claims) (id : Uuid) : Handler Nat44Config := do
  let client ← fetchClient claims id
  let data ← fetchNode client ["nat"]
  return splitStatic data

/-! ### The interface of a rule -/

section Interface

variable {v : Json} {key : String}

theorem liveInterface_of_name {n : String} (h : v.nestedStr key "name" = some n) :
    liveInterface (some v) key = (some n, false) := by
  simp only [liveInterface, h]

theorem liveInterface_of_group {g : String} (hname : v.nestedStr key "name" = none)
    (hgroup : v.nestedStr key "group" = some g) : liveInterface (some v) key = (some g, true) := by
  simp only [liveInterface, hname, hgroup]

/-- The bare form of 1.3. -/
theorem liveInterface_bare (hname : v.nestedStr key "name" = none)
    (hgroup : v.nestedStr key "group" = none) :
    liveInterface (some v) key = (v.childStr key, false) := by
  simp only [liveInterface, hname, hgroup]

end Interface

/-! ### What the lists hold -/

/-- The rule of a key. -/
def ruleAt (node : Json) (sect key : String) : Option Json := (rulesOf node sect).get key

/-- The diffs look a rule up by the numeral of its number. -/
theorem liveRule_eq (node : Json) (sect : String) (rule : ℕ) :
    liveRule node sect rule = ruleAt node sect rule.repr := by
  have hnull : ∀ key, Json.null.get key = none := fun _ ↦ rfl
  rw [liveRule, ruleAt, rulesOf, Json.idx, Json.idx]
  cases hs : node.get sect with
  | none => rfl
  | some s =>
    show ((s.get "rule").bind fun r ↦ r.get rule.repr) = _
    cases hr : s.get "rule" with
    | none => simp only [Option.getD_some, hr, Option.getD_none, Option.bind_none, hnull]
    | some r => simp only [Option.getD_some, hr, Option.bind_some]

theorem mem_parseRules {node : Json} {sect : String} {ifaceKey : Option String} {r : NatRule} :
    r ∈ parseRules node sect ifaceKey ↔
      ∃ v, ruleAt node sect r.rule = some v ∧ r = parseRule r.rule v ifaceKey := by
  rw [parseRules, List.mem_insertionSort, List.mem_map]
  constructor
  · rintro ⟨⟨key, v⟩, hmem, rfl⟩
    exact ⟨v, Json.mem_entries.1 hmem, rfl⟩
  · rintro ⟨v, hv, hr⟩
    exact ⟨⟨r.rule, v⟩, Json.mem_entries.2 hv, hr.symm⟩

theorem mirrored_rule {num : String} {s d : Json} {m : StaticNatMapping}
    (h : mirrored num s d = some m) : m.rule = num := by
  rw [mirrored] at h
  split at h
  · cases h
  · obtain rfl := Option.some.inj h
    rfl

theorem mem_mappings {node : Json} {m : StaticNatMapping} :
    m ∈ mappings node ↔ ∃ s d, ruleAt node "source" m.rule = some s ∧
      ruleAt node "destination" m.rule = some d ∧ mirrored m.rule s d = some m := by
  rw [mappings, List.mem_filterMap]
  constructor
  · rintro ⟨⟨key, s⟩, hmem, hpair⟩
    obtain ⟨d, hd, hm⟩ := Option.bind_eq_some_iff.1 hpair
    obtain rfl := mirrored_rule hm
    exact ⟨s, d, Json.mem_entries.1 hmem, hd, hm⟩
  · rintro ⟨s, d, hs, hd, hm⟩
    exact ⟨⟨m.rule, s⟩, Json.mem_entries.2 hs, Option.bind_eq_some_iff.2 ⟨d, hd, hm⟩⟩

/-- The key names a mapping. -/
def IsPaired (node : Json) (key : String) : Prop :=
  key ∈ (mappings node).map StaticNatMapping.rule

instance (node : Json) (key : String) : Decidable (IsPaired node key) :=
  inferInstanceAs (Decidable (key ∈ _))

/-- A mapping is two rules. -/
theorem IsPaired.rules {node : Json} {key : String} (h : IsPaired node key) :
    (ruleAt node "source" key).isSome = true ∧ (ruleAt node "destination" key).isSome = true := by
  obtain ⟨m, hm, rfl⟩ := List.mem_map.1 h
  obtain ⟨s, d, hs, hd, -⟩ := mem_mappings.1 hm
  exact ⟨by rw [hs]; rfl, by rw [hd]; rfl⟩

theorem mem_staticNat {node : Json} {m : StaticNatMapping} :
    m ∈ (splitStatic node).staticNat ↔ m ∈ mappings node := by
  rw [splitStatic, List.mem_insertionSort]

/-- Of the rules of a section those are listed whose keys name no mapping. -/
theorem exists_mem_unpaired_iff {node : Json} {sect key : String} {ifaceKey : Option String} :
    (∃ r ∈ (parseRules node sect ifaceKey).filter fun r ↦ ¬IsPaired node r.rule, r.rule = key) ↔
      (ruleAt node sect key).isSome = true ∧ ¬IsPaired node key := by
  constructor
  · rintro ⟨r, hr, rfl⟩
    obtain ⟨hr, hpaired⟩ := List.mem_filter.1 hr
    obtain ⟨v, hv, -⟩ := mem_parseRules.1 hr
    exact ⟨by rw [hv]; rfl, of_decide_eq_true hpaired⟩
  · rintro ⟨hsome, hpaired⟩
    obtain ⟨v, hv⟩ := Option.isSome_iff_exists.1 hsome
    exact ⟨parseRule key v ifaceKey,
      List.mem_filter.2 ⟨mem_parseRules.2 ⟨v, hv, rfl⟩, decide_eq_true hpaired⟩, rfl⟩

/-- **The listed keys.** A source rule is listed, or it is half of a mapping. -/
theorem exists_mem_source_iff {node : Json} {key : String} :
    (∃ r ∈ (splitStatic node).source, r.rule = key) ↔
      (ruleAt node "source" key).isSome = true ∧ ¬IsPaired node key :=
  exists_mem_unpaired_iff

/-- So is a destination rule. -/
theorem exists_mem_destination_iff {node : Json} {key : String} :
    (∃ r ∈ (splitStatic node).destination, r.rule = key) ↔
      (ruleAt node "destination" key).isSome = true ∧ ¬IsPaired node key :=
  exists_mem_unpaired_iff

theorem exists_mem_staticNat_iff {node : Json} {key : String} :
    (∃ m ∈ (splitStatic node).staticNat, m.rule = key) ↔ IsPaired node key := by
  rw [IsPaired, List.mem_map]
  simp only [mem_staticNat]

end VyosFabric
