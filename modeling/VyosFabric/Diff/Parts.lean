import VyosFabric.Diff.Nat44

/-!
# The parts of a diff

A diff is a list of parts, one for each setting of the node it edits, and a part says nothing
exactly where the setting already has its desired value. `natParts` takes the rule diff apart
(`diffNat44_eq`); a diff of a rule that stays where it is says nothing at all exactly if there is
such a rule and it holds everything the update asks for (`diffNat44_eq_nil_iff`).
-/

namespace VyosFabric

/-- A change of the NAT page. -/
def natChange (author : Uuid) (op : Op) (path : Path) (summary : String) : NewConfigChange :=
  ⟨op, path, summary, .nat, some author⟩

/-- The key of the interface in a section. -/
def ifaceKeyOf (sect : String) : String :=
  if sect = "source" then "outbound-interface" else "inbound-interface"

/-- What the summaries of a rule diff call the rule. -/
def Nat44RuleUpdate.name (body : Nat44RuleUpdate) : String :=
  s!"{prettySection body.sect} rule {body.rule.repr}"

/-- The diff of one leaf of a rule. -/
def natLeaf (body : Nat44RuleUpdate) (author : Uuid) (sub : Path) (live desired : Option String)
    (field : String) : List NewConfigChange :=
  leafDiff (natChange author) (ruleBase body.sect body.rule ++ sub) live (trimmed desired)
    (fun v ↦ s!"{body.name}: {field} → {v}") s!"{body.name}: remove {field}"

/-- The diff of one flag of a rule. -/
def natFlag (body : Nat44RuleUpdate) (author : Uuid) (key : String) (live desired : Bool) :
    List NewConfigChange :=
  flagDiff (natChange author) (ruleBase body.sect body.rule ++ [key]) live desired
    s!"{body.name}: enable {key}" s!"{body.name}: disable {key}"

/-- The settings of a rule, each below its path, with the diff of each. -/
def natParts (live : Option Json) (body : Nat44RuleUpdate) (author : Uuid) :
    List (Path × List NewConfigChange) :=
  let child (key : String) : Option String := live.bind fun v ↦ v.childStr key
  let nested (parent key : String) : Option String := live.bind fun v ↦ v.nestedStr parent key
  let has (key : String) : Bool := (live.map fun v ↦ (v.get key).isSome).getD false
  let ifaceKey := ifaceKeyOf body.sect
  let leaf (sub : Path) (live desired : Option String) (field : String) :
      Path × List NewConfigChange := (sub, natLeaf body author sub live desired field)
  [ leaf ["description"] (child "description") body.description "description",
    leaf ["source", "address"] (nested "source" "address") body.sourceAddress "source address",
    leaf ["source", "port"] (nested "source" "port") body.sourcePort "source port",
    leaf ["destination", "address"] (nested "destination" "address") body.destinationAddress
      "destination address",
    leaf ["destination", "port"] (nested "destination" "port") body.destinationPort
      "destination port",
    leaf ["protocol"] (child "protocol") body.protocol "protocol",
    leaf ["translation", "address"] (nested "translation" "address") body.translationAddress
      "translation address",
    leaf ["translation", "port"] (nested "translation" "port") body.translationPort
      "translation port",
    ([ifaceKey], interfaceDiff (natChange author) (ruleBase body.sect body.rule) body.name ifaceKey
      (liveInterface live ifaceKey) (trimmed body.interface, body.interfaceGroup)),
    (["exclude"], natFlag body author "exclude" (has "exclude") body.exclude),
    (["log"], natFlag body author "log" (has "log") body.log),
    (["disable"], enabledDiff (natChange author) (ruleBase body.sect body.rule) body.name
      ((live.map Json.isEnabled).getD true) body.enabled)]

/-- All parts of a diff, and the node itself where it is new and nothing else creates it. -/
def withCreate (new : Bool) (out : List NewConfigChange) (create : NewConfigChange) :
    List NewConfigChange :=
  if new && !emitsSet out then out ++ [create] else out

/-- The delete of the rule a renumber leaves. -/
def natDrop (body : Nat44RuleUpdate) (author : Uuid) : List NewConfigChange :=
  match renumberedFrom body.rule body.originalRule with
  | some o => [natChange author .delete (ruleBase body.sect o)
      s!"Delete {prettySection body.sect} NAT rule {o.repr}"]
  | none => []

/-- What a rule diff compares with. -/
def comparedRule (node : Json) (body : Nat44RuleUpdate) : Option Json :=
  if (renumberedFrom body.rule body.originalRule).isSome then none
  else liveRule node body.sect body.rule

/-- **A rule diff is its parts.** -/
theorem diffNat44_eq (node : Json) (body : Nat44RuleUpdate) (author : Uuid) :
    diffNat44 node body author = natDrop body author ++
      withCreate (comparedRule node body).isNone
        ((natParts (comparedRule node body) body author).flatMap Prod.snd)
        (natChange author .set (ruleBase body.sect body.rule)
          s!"Create {prettySection body.sect} NAT rule {body.rule.repr}") := by
  simp only [natParts, List.flatMap_cons, List.flatMap_nil, List.append_nil]
  simp only [← List.append_assoc]
  rfl

/-- The diff of a rule that stays where it is. -/
theorem diffNat44_of_live {node v : Json} {body : Nat44RuleUpdate} {author : Uuid}
    (hstays : renumberedFrom body.rule body.originalRule = none)
    (hlive : liveRule node body.sect body.rule = some v) :
    diffNat44 node body author = (natParts (some v) body author).flatMap Prod.snd := by
  have hcompared : comparedRule node body = some v := by
    rw [comparedRule, hstays]
    exact hlive
  have hdrop : natDrop body author = [] := by rw [natDrop, hstays]
  rw [diffNat44_eq, hdrop, hcompared]
  rfl

/-! ### Parts that say nothing -/

section Nothing

variable {mk : Op → Path → String → NewConfigChange} {path : Path} {name ifaceKey : String}

theorem leafDiff_eq_nil_iff {live desired : Option String} {setText : String → String}
    {unsetText : String} : leafDiff mk path live desired setText unsetText = [] ↔
      desired = live := by
  unfold leafDiff
  constructor
  · intro h
    by_contra hne
    rw [if_neg hne] at h
    cases desired <;> cases h
  · exact fun h ↦ if_pos h

theorem flagDiff_eq_nil_iff {live desired : Bool} {setText unsetText : String} :
    flagDiff mk path live desired setText unsetText = [] ↔ desired = live := by
  cases live <;> cases desired <;> simp [flagDiff]

theorem enabledDiff_eq_nil_iff {live desired : Bool} :
    enabledDiff mk path name live desired = [] ↔ desired = live := by
  cases live <;> cases desired <;> simp [enabledDiff]

theorem interfaceDiff_eq_nil_iff {live desired : Option String × Bool} :
    interfaceDiff mk path name ifaceKey live desired = [] ↔
      desired = live ∨ desired.1 = none ∧ live.1 = none := by
  rw [interfaceDiff]
  split
  · simp_all
  · obtain ⟨desired, kind⟩ := desired
    obtain ⟨live, kind'⟩ := live
    cases desired <;> cases live <;> simp_all

end Nothing

/-- The live rule `v` holds everything the update asks for. -/
@[mk_iff]
structure Nat44RuleUpdate.Holds (body : Nat44RuleUpdate) (v : Json) : Prop where
  description : trimmed body.description = v.childStr "description"
  sourceAddress : trimmed body.sourceAddress = v.nestedStr "source" "address"
  sourcePort : trimmed body.sourcePort = v.nestedStr "source" "port"
  destinationAddress : trimmed body.destinationAddress = v.nestedStr "destination" "address"
  destinationPort : trimmed body.destinationPort = v.nestedStr "destination" "port"
  protocol : trimmed body.protocol = v.childStr "protocol"
  translationAddress : trimmed body.translationAddress = v.nestedStr "translation" "address"
  translationPort : trimmed body.translationPort = v.nestedStr "translation" "port"
  interface : (trimmed body.interface, body.interfaceGroup) =
      liveInterface (some v) (ifaceKeyOf body.sect) ∨
    trimmed body.interface = none ∧ (liveInterface (some v) (ifaceKeyOf body.sect)).1 = none
  exclude : body.exclude = (v.get "exclude").isSome
  log : body.log = (v.get "log").isSome
  enabled : body.enabled = v.isEnabled

/-- The parts say nothing about a rule that holds everything. -/
theorem natParts_eq_nil_iff {v : Json} {body : Nat44RuleUpdate} {author : Uuid} :
    (natParts (some v) body author).flatMap Prod.snd = [] ↔ body.Holds v := by
  simp only [natParts, List.flatMap_cons, List.flatMap_nil, List.append_eq_nil_iff, natLeaf,
    natFlag, leafDiff_eq_nil_iff, flagDiff_eq_nil_iff, enabledDiff_eq_nil_iff,
    interfaceDiff_eq_nil_iff, Option.bind_some, Option.map_some, Option.getD_some, and_true,
    Nat44RuleUpdate.holds_iff]

/-- A new node is created by something. -/
theorem withCreate_ne_nil (out : List NewConfigChange) (create : NewConfigChange) :
    withCreate true out create ≠ [] := by
  rw [withCreate]
  cases hset : emitsSet out with
  | false => simp
  | true =>
    obtain ⟨c, hc, -⟩ := List.any_eq_true.1 hset
    exact List.ne_nil_of_mem hc

/-- **A rule diff says nothing** about a rule that stays where it is and holds everything the update
asks for, and only then. -/
theorem diffNat44_eq_nil_iff {node : Json} {body : Nat44RuleUpdate} {author : Uuid}
    (hstays : renumberedFrom body.rule body.originalRule = none) :
    diffNat44 node body author = [] ↔
      ∃ v, liveRule node body.sect body.rule = some v ∧ body.Holds v := by
  cases hlive : liveRule node body.sect body.rule with
  | none =>
    have hcompared : comparedRule node body = none := by
      rw [comparedRule, hstays]
      exact hlive
    rw [diffNat44_eq, hcompared]
    simp [withCreate_ne_nil]
  | some v =>
    rw [diffNat44_of_live hstays hlive, natParts_eq_nil_iff]
    simp only [Option.some.injEq, exists_eq_left']

end VyosFabric
