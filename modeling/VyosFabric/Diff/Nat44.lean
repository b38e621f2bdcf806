import VyosFabric.Diff.Interfaces

/-!
# The NAT44 diff and static mappings

`diff_nat44` compares one desired rule with the live `nat` subtree; a renumber drops the old rule
and compares the new one with nothing. A static (1-to-1) mapping is a source and a destination rule
with the same number and mirrored addresses, and is staged as the two rule diffs one after the other
(`staticPair`).
-/

namespace VyosFabric

/-- The `section` of a rule: `source` or `destination`. Other texts are refused before the diff
runs, and reach it as `destination` would. -/
structure Nat44RuleUpdate where
  sect : String
  rule : ℕ
  description : Option String
  interface : Option String
  interfaceGroup : Bool
  sourceAddress : Option String
  sourcePort : Option String
  destinationAddress : Option String
  destinationPort : Option String
  translationAddress : Option String
  translationPort : Option String
  protocol : Option String
  exclude : Bool
  log : Bool
  enabled : Bool
  originalRule : Option ℕ
  deriving DecidableEq, Repr

/-- Identifies a single NAT44 rule to delete. -/
structure Nat44RuleDelete where
  sect : String
  rule : ℕ
  deriving DecidableEq, Repr

/-- Desired state for a 1-to-1 NAT mapping. -/
structure StaticNatUpdate where
  rule : ℕ
  description : Option String
  interface : Option String
  internalAddress : Option String
  externalAddress : Option String
  enabled : Bool
  originalRule : Option ℕ
  deriving DecidableEq, Repr

/-- Identifies a 1-to-1 NAT mapping to delete. -/
structure StaticNatDelete where
  rule : ℕ
  deriving DecidableEq, Repr

/-- `nat <section> rule <n>`. -/
def ruleBase (sect : String) (rule : ℕ) : Path := ["nat", sect, "rule", rule.repr]

/-- `Source` or `Destination`, as the summaries write it. -/
def prettySection (sect : String) : String :=
  if sect = "source" then "Source" else "Destination"

/-- The original number of an update that renumbers. -/
def renumberedFrom (rule : ℕ) (originalRule : Option ℕ) : Option ℕ :=
  originalRule.filter fun o ↦ o ≠ rule

/-- The live config object for one rule. -/
def liveRule (node : Json) (sect : String) (rule : ℕ) : Option Json :=
  ((node.get sect).bind fun s ↦ s.get "rule").bind fun r ↦ r.get rule.repr

/-- The live interface of a rule and whether it is a group reference: `name`, then `group`, then
the bare form of 1.3. -/
def liveInterface (live : Option Json) (ifaceKey : String) : Option String × Bool :=
  match live with
  | none => (none, false)
  | some v =>
    match v.nestedStr ifaceKey "name" with
    | some n => (some n, false)
    | none =>
      match v.nestedStr ifaceKey "group" with
      | some g => (some g, true)
      | none => (v.childStr ifaceKey, false)

/-- The interface part: a change of value or of kind drops the whole node before the new form is
set. -/
def interfaceDiff (mk : Op → Path → String → NewConfigChange) (base : Path) (name ifaceKey : String)
    (live desired : Option String × Bool) : List NewConfigChange :=
  if desired = live then []
  else
    (if live.1.isSome then [mk .delete (base ++ [ifaceKey]) s!"{name}: remove {ifaceKey}"]
      else []) ++
    match desired.1 with
    | none => []
    | some i =>
      let kind := if desired.2 then "group" else "name"
      [mk .set (base ++ [ifaceKey, kind, i]) s!"{name}: {ifaceKey} {kind} → {i}"]

/-- Diff a desired NAT44 rule against the live `nat` config into a minimal set/delete list. -/
def diffNat44 (node : Json) (body : Nat44RuleUpdate) (author : Uuid) : List NewConfigChange :=
  let ifaceKey := if body.sect = "source" then "outbound-interface" else "inbound-interface"
  let pretty := prettySection body.sect
  let name := s!"{pretty} rule {body.rule.repr}"
  let mk (op : Op) (path : Path) (summary : String) : NewConfigChange :=
    ⟨op, path, summary, .nat, some author⟩
  let moved := renumberedFrom body.rule body.originalRule
  -- a renumber is a move: drop the old rule and rebuild the target fresh
  let drop := match moved with
    | some o => [mk .delete (ruleBase body.sect o) s!"Delete {pretty} NAT rule {o.repr}"]
    | none => []
  let live := if moved.isSome then none else liveRule node body.sect body.rule
  let base := ruleBase body.sect body.rule
  let child (key : String) : Option String := live.bind fun v ↦ v.childStr key
  let nested (parent key : String) : Option String := live.bind fun v ↦ v.nestedStr parent key
  let natLeaf (sub : Path) (liveV desired : Option String) (field : String) :
      List NewConfigChange :=
    leafDiff mk (base ++ sub) liveV (trimmed desired) (fun v ↦ s!"{name}: {field} → {v}")
      s!"{name}: remove {field}"
  let flag (key : String) (desired : Bool) : List NewConfigChange :=
    flagDiff mk (base ++ [key]) ((live.map fun v ↦ (v.get key).isSome).getD false) desired
      s!"{name}: enable {key}" s!"{name}: disable {key}"
  let out :=
    natLeaf ["description"] (child "description") body.description "description" ++
    natLeaf ["source", "address"] (nested "source" "address") body.sourceAddress
      "source address" ++
    natLeaf ["source", "port"] (nested "source" "port") body.sourcePort "source port" ++
    natLeaf ["destination", "address"] (nested "destination" "address") body.destinationAddress
      "destination address" ++
    natLeaf ["destination", "port"] (nested "destination" "port") body.destinationPort
      "destination port" ++
    natLeaf ["protocol"] (child "protocol") body.protocol "protocol" ++
    natLeaf ["translation", "address"] (nested "translation" "address") body.translationAddress
      "translation address" ++
    natLeaf ["translation", "port"] (nested "translation" "port") body.translationPort
      "translation port" ++
    interfaceDiff mk base name ifaceKey (liveInterface live ifaceKey)
      (trimmed body.interface, body.interfaceGroup) ++
    flag "exclude" body.exclude ++
    flag "log" body.log ++
    enabledDiff mk base name ((live.map Json.isEnabled).getD true) body.enabled
  drop ++
    if live.isNone && !emitsSet out then
      out ++ [mk .set base s!"Create {pretty} NAT rule {body.rule.repr}"]
    else out

/-- The source and destination rules backing one 1-to-1 mapping. -/
def staticPair (body : StaticNatUpdate) : Nat44RuleUpdate × Nat44RuleUpdate :=
  let src : Nat44RuleUpdate :=
    { sect := "source"
      rule := body.rule
      description := body.description
      interface := body.interface
      interfaceGroup := false
      sourceAddress := body.internalAddress
      sourcePort := none
      destinationAddress := none
      destinationPort := none
      translationAddress := body.externalAddress
      translationPort := none
      protocol := none
      exclude := false
      log := false
      enabled := body.enabled
      originalRule := body.originalRule }
  (src, { src with
    sect := "destination"
    sourceAddress := none
    destinationAddress := body.externalAddress
    translationAddress := body.internalAddress })

end VyosFabric
