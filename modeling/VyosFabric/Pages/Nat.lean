import Mathlib.Data.Prod.Lex
import VyosFabric.Pages.Services
import VyosFabric.Routes.Partition

/-!
# The NAT pages

The pages of the four kinds of NAT show rules of one format: the interface of a rule is a name, a
group or, on the oldest devices, a bare leaf; its target is an address, a pool in one of two forms,
or a masquerade. Rules are in the order of their numbers, pools in that of their kinds and names.

A device that shows its config, with rules and pools in any of these shapes and in any order, is
shown by the pages as it is (`natPages_shown`). The rules of the first page are those of the config
but for the ones it lifts into 1-to-1 mappings.
-/

namespace VyosFabric

open Interaction Formats ConfigFormat

structure Nat64Config where
  source : List NatRule
  deriving DecidableEq, Repr

structure Nat66Config where
  source : List NatRule
  destination : List NatRule
  deriving DecidableEq, Repr

/-- A CGNAT address pool, `external` or `internal`. -/
structure CgnatPool where
  kind : String
  name : String
  ranges : List String
  externalPortRange : Option String
  deriving DecidableEq, Repr

/-- A CGNAT rule mapping an internal pool to an external pool. -/
structure CgnatRule where
  rule : String
  description : Option String
  sourcePool : Option String
  translationPool : Option String
  enabled : Bool
  deriving DecidableEq, Repr

structure CgnatConfig where
  pools : List CgnatPool
  rules : List CgnatRule
  deriving DecidableEq, Repr

/-! ### Handlers -/

def getNat64 (claims : Claims) (id : Uuid) : Handler Nat64Config := do
  let client ← fetchClient claims id
  let data ← fetchNode client ["nat64"]
  return ⟨parseRules data "source" none⟩

def getNat66 (claims : Claims) (id : Uuid) : Handler Nat66Config := do
  let client ← fetchClient claims id
  let data ← fetchNode client ["nat66"]
  return ⟨parseRules data "source" (some "outbound-interface"),
    parseRules data "destination" (some "inbound-interface")⟩

def cgnatPool (kind name : String) (p : Json) : CgnatPool :=
  ⟨kind, name, p.strList "range", p.childStr "external-port-range"⟩

/-- By kind and then by name. -/
def poolKey (p : CgnatPool) : Lex (String × String) := toLex (p.kind, p.name)

def cgnatPools (cg : Json) : List CgnatPool :=
  arrange poolKey (["external", "internal"].flatMap fun kind ↦
    ((cg.idx "pool").idx kind).entries.map fun x ↦ cgnatPool kind x.1 x.2)

def cgnatRule (num : String) (r : Json) : CgnatRule :=
  ⟨num, r.childStr "description", r.nestedStr "source" "pool", r.nestedStr "translation" "pool",
    r.isEnabled⟩

def cgnatRules (cg : Json) : List CgnatRule :=
  arrange (fun r ↦ ruleOrder r.rule) ((cg.idx "rule").entries.map fun x ↦ cgnatRule x.1 x.2)

def getCgnat (claims : Claims) (id : Uuid) : Handler CgnatConfig := do
  let client ← fetchClient claims id
  let data ← fetchNode client ["nat"]
  let cg := data.idx "cgnat"
  return ⟨cgnatPools cg, cgnatRules cg⟩

/-! ### The formats of a rule -/

namespace ConfigFormat

/-- A name or a group below the node, a bare leaf, or nothing. -/
def ruleInterface : Option String → ConfigFormat (Option String × Bool)
  | none =>
    { read := fun _ ↦ (none, false)
      Holds := fun _ x ↦ x = (none, false)
      read_eq := fun h ↦ h.symm }
  | some k =>
    { read := fun v ↦ liveInterface (some v) k
      Holds := fun v x ↦
        (∃ b n, v.get k = some b ∧ b.ShowsText "name" (some n) ∧ x = (some n, false)) ∨
        (∃ b g, v.get k = some b ∧ b.get "name" = none ∧ b.ShowsText "group" (some g) ∧
          x = (some g, true)) ∨
        (∃ n, v.ShowsText k (some n) ∧ x = (some n, false)) ∨
        v.get k = none ∧ x = (none, false)
      read_eq := fun {v x} h ↦ by
        rcases h with ⟨b, n, hget, hname, rfl⟩ | ⟨b, g, hget, hnone, hgroup, rfl⟩ |
          ⟨n, htext, rfl⟩ | ⟨hget, rfl⟩
        · refine liveInterface_of_name ?_
          rw [Json.nestedStr, hget]
          exact Json.childStr_of_showsText hname
        · refine liveInterface_of_group ?_ ?_
          · rw [Json.nestedStr, hget]
            exact Json.childStr_of_get hnone
          · rw [Json.nestedStr, hget]
            exact Json.childStr_of_showsText hgroup
        · have hleaf : v.get k = some (.str n) := htext.1
          have hbelow : ∀ c, v.nestedStr k c = none := fun c ↦ by
            rw [Json.nestedStr, hleaf]
            rfl
          rw [liveInterface_bare (hbelow "name") (hbelow "group"),
            Json.childStr_of_showsText htext]
        · have hbelow : ∀ c, v.nestedStr k c = none := fun c ↦ by
            rw [Json.nestedStr, hget]
            rfl
          rw [liveInterface_bare (hbelow "name") (hbelow "group"), Json.childStr_of_get hget] }

/-- An address or a prefix in a section. -/
def addressOrPrefix (sect : String) : ConfigFormat (Option String) where
  read v := addrOrPrefix v sect
  Holds v o := (∃ s, v.get sect = some s ∧ s.ShowsOneOf ["address", "prefix"] o) ∨
    v.get sect = none ∧ o = none
  read_eq {v o} h := by
    rcases h with ⟨s, hget, hone⟩ | ⟨hget, rfl⟩
    · have hfound := Json.findSome_of_showsOneOf hone
      rw [Json.findSome_cons_childStr, Json.findSome_cons_childStr, List.findSome?_nil,
        Option.or_none] at hfound
      rw [addrOrPrefix, Json.idx, hget, ← hfound]
      exact Option.orElse_eq_or
    · rw [addrOrPrefix, Json.idx, hget]
      rfl

/-- A reference to a group in a section, with its type. -/
def groupReference (sect : String) : ConfigFormat (Option String) where
  read v := groupRef v sect
  Holds v o :=
    (∃ s ty name, v.get sect = some s ∧ s.get "group" = some (.obj [(ty, .str name)]) ∧
      o = some (ty ++ " " ++ name)) ∨
    ((v.get sect).bind fun s ↦ s.get "group") = none ∧ o = none
  read_eq {v o} h := by
    rcases h with ⟨s, ty, name, hget, hgroup, rfl⟩ | ⟨hnone, rfl⟩
    · have hkeys : ([(ty, Json.str name)].map Prod.fst).Nodup := List.nodup_singleton ty
      have hentries := List.perm_singleton.1 (perm_entries hkeys)
      rw [groupRef, hget, Option.bind_some, hgroup]
      show ((Json.obj [(ty, .str name)]).entries.head?.bind fun x ↦ _) = _
      rw [hentries]
      rfl
    · rw [groupRef, hnone]
      rfl

/-- The target of a rule. -/
def target : ConfigFormat (Option String) where
  read := translation
  Holds v o :=
    v.get "translation" = none ∧ o = none ∨
    ∃ t, v.get "translation" = some t ∧
      ((∃ a, t.ShowsText "address" (some a) ∧ o = some a) ∨
      t.get "address" = none ∧
        ((∃ p, t.ShowsText "pool" (some p) ∧ o = some p) ∨
        (∃ p below, t.get "pool" = some (.obj [(p, below)]) ∧ o = some p) ∨
        t.get "pool" = none ∧ o = if t.has "masquerade" then some "masquerade" else none))
  read_eq {v o} h := by
    rcases h with ⟨hget, rfl⟩ | ⟨t, hget, h⟩
    · have hidx : v.idx "translation" = .null := by
        rw [Json.idx, hget]
        rfl
      rw [translation, Json.nestedStr, Json.nestedStr, hget, hidx]
      rfl
    · have hnested : ∀ c, v.nestedStr "translation" c = t.childStr c := fun c ↦ by
        rw [Json.nestedStr, hget]
        rfl
      have hidx : v.idx "translation" = t := by
        rw [Json.idx, hget]
        rfl
      rw [translation, hnested, hnested, hidx]
      rcases h with ⟨a, ha, rfl⟩ | ⟨haddress, h⟩
      · rw [Json.childStr_of_showsText ha]
        rfl
      · rw [Json.childStr_of_get haddress]
        rcases h with ⟨p, hp, rfl⟩ | ⟨p, below, hp, rfl⟩ | ⟨hp, rfl⟩
        · rw [Json.childStr_of_showsText hp]
          rfl
        · have hkeys : ([(p, below)].map Prod.fst).Nodup := List.nodup_singleton p
          have hentries := List.perm_singleton.1 (perm_entries hkeys)
          rw [Json.childStr, Json.idx, hp]
          show ((Json.obj [(p, below)]).entries.head?.map Prod.fst <|> _) = _
          rw [hentries]
          rfl
        · rw [Json.childStr_of_get hp, Json.idx, hp, Json.has]
          cases t.get "masquerade" <;> rfl

/-- A rule of a section whose interfaces stand at a key. -/
def natRule (ifaceKey : Option String) (num : String) : ConfigFormat NatRule :=
  ((named num).both <| (text "description").both <| (ruleInterface ifaceKey).both <|
    (addressOrPrefix "source").both <| (groupReference "source").both <|
    (nested "source" "port").both <| (addressOrPrefix "destination").both <|
    (groupReference "destination").both <| (nested "destination" "port").both <| target.both <|
    (nested "translation" "port").both <| (text "protocol").both <| (flag "exclude").both <|
    (flag "log").both enabled).as
    (fun (rule, description, iface, source, sourceGroup, sourcePort, destination,
        destinationGroup, destinationPort, translation, translationPort, protocol, exclude, log,
        enabled) ↦
      ⟨rule, description, iface.1, iface.2, source, sourceGroup, sourcePort, destination,
        destinationGroup, destinationPort, translation, translationPort, protocol, exclude, log,
        enabled⟩)
    (fun r ↦ (r.rule, r.description, (r.interface, r.interfaceGroup), r.source, r.sourceGroup,
      r.sourcePort, r.destination, r.destinationGroup, r.destinationPort, r.translation,
      r.translationPort, r.protocol, r.exclude, r.log, r.enabled))
    fun _ ↦ rfl

theorem read_natRule (ifaceKey : Option String) (num : String) (cfg : Json) :
    (natRule ifaceKey num).read cfg = parseRule num cfg ifaceKey := by
  cases ifaceKey <;> rfl

/-! ### Lists in the order of their numbers -/

/-- The rows of a tag node whose keys are numbers. -/
def numbered {α : Type} (key : String) (rule : α → String) (row : String → ConfigFormat α)
    (hrule : ∀ k c, rule ((row k).read c) = k) : ConfigFormat (List α) where
  read v :=
    arrange (fun a ↦ ruleOrder (rule a)) ((v.idx key).entries.map fun x ↦ (row x.1).read x.2)
  Holds v l := ∃ shown, v.ShowsRows rule (fun a c ↦ (row (rule a)).Holds c a) key shown ∧
    (shown.map fun a ↦ ruleOrder (rule a)).Nodup ∧ l = arrange (fun a ↦ ruleOrder (rule a)) shown
  read_eq {v l} h := by
    obtain ⟨shown, hrows, hnodup, rfl⟩ := h
    refine (arrange_eq_of_perm hnodup (List.Perm.symm ?_)).symm
    exact perm_of_showsRows (fun k c ↦ (row k).read c) hrows hrule fun a _ c hc ↦
      (row (rule a)).read_eq hc

/-- Strictly by number. -/
theorem pairwise_of_numbered {α : Type} {key : String} {rule : α → String}
    {row : String → ConfigFormat α} (hrule : ∀ k c, rule ((row k).read c) = k) {v : Json}
    {l : List α} (h : (numbered key rule row hrule).Holds v l) :
    l.Pairwise fun a b ↦ ruleOrder (rule a) < ruleOrder (rule b) := by
  obtain ⟨shown, -, hnodup, rfl⟩ := h
  have hle := pairwise_arrange (fun a ↦ ruleOrder (rule a)) shown
  have hne := ((perm_arrange (fun a ↦ ruleOrder (rule a)) shown).map
    fun a ↦ ruleOrder (rule a)).nodup_iff.2 hnodup
  rw [List.Nodup, List.pairwise_map] at hne
  exact hle.imp₂ (fun {_ _} hle hne ↦ lt_of_le_of_ne hle hne) hne

theorem rule_natRule (ifaceKey : Option String) (num : String) (cfg : Json) :
    ((natRule ifaceKey num).read cfg).rule = num := by
  rw [read_natRule]
  rfl

/-- `<section> rule`. -/
def natRules (sect : String) (ifaceKey : Option String) : ConfigFormat (List NatRule) :=
  (numbered "rule" NatRule.rule (natRule ifaceKey) (rule_natRule ifaceKey)).under
    fun v ↦ v.idx sect

theorem pairwise_of_natRules {sect : String} {ifaceKey : Option String} {v : Json}
    {l : List NatRule} (h : (natRules sect ifaceKey).Holds v l) :
    l.Pairwise fun a b ↦ ruleOrder a.rule < ruleOrder b.rule :=
  pairwise_of_numbered (rule_natRule ifaceKey) h

theorem read_natRules (sect : String) (ifaceKey : Option String) (v : Json) :
    (natRules sect ifaceKey).read v = parseRules v sect ifaceKey := by
  show arrange _ ((rulesOf v sect).entries.map fun x ↦ (natRule ifaceKey x.1).read x.2) = _
  simp only [read_natRule]
  rfl

/-- The rules of a carrier-grade NAT. -/
def cgnatRuleList : ConfigFormat (List CgnatRule) :=
  numbered "rule" CgnatRule.rule
    (fun num ↦ ((named num).both <| (text "description").both <| (nested "source" "pool").both <|
        (nested "translation" "pool").both enabled).as
      (fun (rule, description, source, translation, enabled) ↦
        ⟨rule, description, source, translation, enabled⟩)
      (fun r ↦ (r.rule, r.description, r.sourcePool, r.translationPool, r.enabled)) fun _ ↦ rfl)
    fun _ _ ↦ rfl

/-! ### Pools -/

/-- A pool of a kind. -/
def poolRow (kind name : String) : ConfigFormat CgnatPool :=
  ((named kind).both <| (named name).both <| (texts "range").both <|
      text "external-port-range").as
    (fun (kind, name, ranges, portRange) ↦ ⟨kind, name, ranges, portRange⟩)
    (fun p ↦ (p.kind, p.name, p.ranges, p.externalPortRange)) fun _ ↦ rfl

/-- The names of the rows a device shows. -/
theorem nodup_of_showsRows {α : Type} {name : α → String} {shows : α → Json → Prop} {v : Json}
    {key : String} {l : List α} (h : v.ShowsRows name shows key l) : (l.map name).Nodup := by
  cases h with
  | none => exact List.nodup_nil
  | some m _ hget hkeys hrows =>
    have hmap : l.map name = m.map Prod.fst := by
      clear hkeys hget
      induction hrows with
      | nil => rfl
      | cons hx _ ih => rw [List.map_cons, List.map_cons, ih, hx.1]
    rwa [hmap]

theorem exists_of_showsRows {α : Type} {name : α → String} {shows : α → Json → Prop} {v : Json}
    {key : String} {l : List α} (h : v.ShowsRows name shows key l) {a : α} (ha : a ∈ l) :
    ∃ c, shows a c := by
  cases h with
  | none => cases ha
  | some m _ hget hkeys hrows =>
    clear hkeys hget
    induction hrows with
    | nil => cases ha
    | cons hx _ ih =>
      rcases List.mem_cons.1 ha with rfl | ha
      · exact ⟨_, hx.2⟩
      · exact ih ha

/-- The pools of one kind, in any order. -/
def ShowsPools (v : Json) (kind : String) (l : List CgnatPool) : Prop :=
  (v.idx "pool").ShowsRows CgnatPool.name (fun p c ↦ (poolRow kind p.name).Holds c p) kind l

section Pools

variable {v : Json} {kind : String} {l external internal : List CgnatPool}

theorem kind_of_showsPools (h : ShowsPools v kind l) {p : CgnatPool} (hp : p ∈ l) :
    p.kind = kind := by
  obtain ⟨_, hc⟩ := exists_of_showsRows h hp
  exact hc.1

theorem perm_of_showsPools (h : ShowsPools v kind l) :
    (((v.idx "pool").idx kind).entries.map fun x ↦ cgnatPool kind x.1 x.2).Perm l :=
  perm_of_showsRows (cgnatPool kind) h (fun _ _ ↦ rfl) fun p _ _ hc ↦
    (poolRow kind p.name).read_eq hc

theorem nodup_poolKey (hexternal : ShowsPools v "external" external)
    (hinternal : ShowsPools v "internal" internal) :
    ((external ++ internal).map poolKey).Nodup := by
  have hone : ∀ {kind : String} {l : List CgnatPool}, ShowsPools v kind l →
      (l.map poolKey).Nodup := by
    intro kind l h
    refine List.Nodup.of_map (fun k ↦ (ofLex k).2) ?_
    rw [List.map_map]
    exact nodup_of_showsRows h
  rw [List.map_append, List.nodup_append]
  refine ⟨hone hexternal, hone hinternal, ?_⟩
  intro a ha b hb hab
  obtain ⟨p, hp, rfl⟩ := List.mem_map.1 ha
  obtain ⟨q, hq, rfl⟩ := List.mem_map.1 hb
  have hkinds : p.kind = q.kind := congrArg (fun k ↦ (ofLex k).1) hab
  rw [kind_of_showsPools hexternal hp, kind_of_showsPools hinternal hq] at hkinds
  revert hkinds
  decide

/-- Each kind by name, and the first kind first. -/
theorem arrange_poolKey (hexternal : ShowsPools v "external" external)
    (hinternal : ShowsPools v "internal" internal) :
    arrange poolKey (external ++ internal) =
      arrange CgnatPool.name external ++ arrange CgnatPool.name internal := by
  have hperm : (arrange poolKey (external ++ internal)).Perm (external ++ internal) :=
    perm_arrange poolKey _
  refine eq_of_perm_of_names ((hperm.map poolKey).nodup_iff.2 (nodup_poolKey hexternal hinternal))
    (hperm.trans ((perm_arrange _ _).append (perm_arrange _ _)).symm)
    (pairwise_arrange poolKey _) ?_
  have hone : ∀ {kind : String} {l : List CgnatPool}, ShowsPools v kind l →
      (arrange CgnatPool.name l).Pairwise fun p q ↦ poolKey p ≤ poolKey q := by
    intro kind l h
    refine List.Pairwise.imp_of_mem (fun {p q} hp hq hle ↦ ?_) (pairwise_arrange CgnatPool.name l)
    have hp := kind_of_showsPools h ((perm_arrange _ _).mem_iff.1 hp)
    have hq := kind_of_showsPools h ((perm_arrange _ _).mem_iff.1 hq)
    exact Prod.Lex.toLex_le_toLex.2 (Or.inr ⟨hp.trans hq.symm, hle⟩)
  refine List.pairwise_append.2 ⟨hone hexternal, hone hinternal, fun p hp q hq ↦ ?_⟩
  have hp := kind_of_showsPools hexternal ((perm_arrange _ _).mem_iff.1 hp)
  have hq := kind_of_showsPools hinternal ((perm_arrange _ _).mem_iff.1 hq)
  refine Prod.Lex.toLex_le_toLex.2 (Or.inl ?_)
  show p.kind < q.kind
  rw [hp, hq]
  decide

end Pools

/-- The pools of both kinds, each by name. -/
def poolList : ConfigFormat (List CgnatPool) where
  read := cgnatPools
  Holds v l := ∃ external internal, ShowsPools v "external" external ∧
    ShowsPools v "internal" internal ∧
    l = arrange CgnatPool.name external ++ arrange CgnatPool.name internal
  read_eq {v l} h := by
    obtain ⟨external, internal, hexternal, hinternal, rfl⟩ := h
    rw [← arrange_poolKey hexternal hinternal]
    have hperm := (perm_of_showsPools hexternal).append (perm_of_showsPools hinternal)
    refine (arrange_eq_of_perm (nodup_poolKey hexternal hinternal) ?_).symm
    refine List.Perm.symm ?_
    rw [List.flatMap_cons, List.flatMap_cons, List.flatMap_nil, List.append_nil]
    exact hperm

end ConfigFormat

/-! ### The pages -/

section Shown

variable {answer : (s : FabricStatement) → s.Reply} {claims : Claims} {id : Uuid}
  {client : VyosClient} {config : Json}

theorem eval_fetchNode (hconfig : ShowsConfig answer client config) (path : Path) :
    (fetchNode client path).eval (fun s ↦ answer (.review s)) = .ok (config.at path) := by
  obtain ⟨resp, hreply, hclass⟩ := hconfig path
  refine Prog.eval_bind_eq_ok.2 ⟨resp, eval_device hreply, ?_⟩
  show Prog.eval _ (if resp.succeeded = true then _ else if saysEmpty (errorText resp "") then _
    else _) = _
  rcases classify_cases resp with ⟨hok, hcases⟩ | ⟨hok, hempty, hcases⟩ | ⟨-, -, hcases⟩ <;>
    rw [hcases] at hclass
  · rcases hclass with hdata | ⟨hdata, -⟩
    · rw [if_pos hok, ← Reading.data.inj hdata]
      rfl
    · cases hdata
  · rcases hclass with hdata | ⟨-, hnull⟩
    · cases hdata
    · rw [if_neg (by rw [hok]; decide), if_pos hempty, hnull]
      rfl
  · rcases hclass with hdata | ⟨hdata, -⟩ <;> cases hdata

/-- The lists of the first page are those of the sections, but for the mappings' rules. -/
theorem splitStatic_eq (node : Json) :
    let lifted := (splitStatic node).staticNat.map StaticNatMapping.rule
    splitStatic node =
      ⟨(parseRules node "source" (some "outbound-interface")).filter fun r ↦ r.rule ∉ lifted,
        (parseRules node "destination" (some "inbound-interface")).filter fun r ↦ r.rule ∉ lifted,
        (splitStatic node).staticNat⟩ := by
  have hlifted : ∀ (l : List NatRule), l.filter (fun r ↦ r.rule ∉
      (mappings node).map StaticNatMapping.rule) = l.filter fun r ↦ r.rule ∉
        (splitStatic node).staticNat.map StaticNatMapping.rule := by
    intro l
    refine List.filter_congr fun r _ ↦ ?_
    rw [decide_eq_decide, mem_map_staticNat_iff]
    rfl
  rw [Nat44Config.mk.injEq]
  exact ⟨hlifted _, hlifted _, rfl⟩

/-- What stands in a config for the four pages. -/
structure NatInventory where
  source : List NatRule
  destination : List NatRule
  nat64 : Nat64Config
  nat66 : Nat66Config
  cgnat : CgnatConfig

/-- The config shows it, in any of the shapes the formats take. -/
structure NatInventory.Shown (n : NatInventory) (config : Json) : Prop where
  source : (natRules "source" (some "outbound-interface")).Holds (config.at ["nat"]) n.source
  destination :
    (natRules "destination" (some "inbound-interface")).Holds (config.at ["nat"]) n.destination
  nat64 : (natRules "source" none).Holds (config.at ["nat64"]) n.nat64.source
  nat66Source :
    (natRules "source" (some "outbound-interface")).Holds (config.at ["nat66"]) n.nat66.source
  nat66Destination : (natRules "destination" (some "inbound-interface")).Holds
    (config.at ["nat66"]) n.nat66.destination
  pools : poolList.Holds (config.at ["nat", "cgnat"]) n.cgnat.pools
  rules : cgnatRuleList.Holds (config.at ["nat", "cgnat"]) n.cgnat.rules

/-- **The NAT pages show the config.** A device that shows a config with an inventory of NAT rules
and pools, in any of the shapes the formats take, is shown as it is: three pages answer with their
part of the inventory, the first with the source and destination rules that are in none of its
1-to-1 mappings. All rules, those of a carrier-grade NAT included, are strictly in the order of
their numbers. -/
theorem natPages_shown {n : NatInventory}
    (hclient : (fetchClient claims id).lift.eval answer = .ok client)
    (hconfig : ShowsConfig answer client config) (hn : n.Shown config) :
    (getNat64 claims id).lift.eval answer = .ok n.nat64 ∧
    (getNat66 claims id).lift.eval answer = .ok n.nat66 ∧
    (getCgnat claims id).lift.eval answer = .ok n.cgnat ∧
    (∃ staticNat : List StaticNatMapping, (getNat44 claims id).lift.eval answer =
      .ok ⟨n.source.filter fun r ↦ r.rule ∉ staticNat.map StaticNatMapping.rule,
        n.destination.filter fun r ↦ r.rule ∉ staticNat.map StaticNatMapping.rule, staticNat⟩ ∧
      ∀ num, num ∈ staticNat.map StaticNatMapping.rule ↔ Mirrors (config.at ["nat"]) num) ∧
    (∀ l ∈ [n.source, n.destination, n.nat64.source, n.nat66.source, n.nat66.destination],
      l.Pairwise fun a b ↦ ruleOrder a.rule < ruleOrder b.rule) ∧
    n.cgnat.rules.Pairwise fun a b ↦ ruleOrder a.rule < ruleOrder b.rule := by
  rw [eval_lift] at hclient
  refine ⟨?_, ?_, ?_, ?_, ?_, pairwise_of_numbered (fun _ _ ↦ rfl) hn.rules⟩
  · rw [eval_lift]
    refine Prog.eval_bind_eq_ok.2 ⟨client, hclient, ?_⟩
    refine Prog.eval_bind_eq_ok.2 ⟨_, eval_fetchNode hconfig ["nat64"], ?_⟩
    rw [← read_natRules, (natRules _ _).read_eq hn.nat64]
    rfl
  · rw [eval_lift]
    refine Prog.eval_bind_eq_ok.2 ⟨client, hclient, ?_⟩
    refine Prog.eval_bind_eq_ok.2 ⟨_, eval_fetchNode hconfig ["nat66"], ?_⟩
    rw [← read_natRules, ← read_natRules, (natRules _ _).read_eq hn.nat66Source,
      (natRules _ _).read_eq hn.nat66Destination]
    rfl
  · rw [eval_lift]
    refine Prog.eval_bind_eq_ok.2 ⟨client, hclient, ?_⟩
    refine Prog.eval_bind_eq_ok.2 ⟨_, eval_fetchNode hconfig ["nat"], ?_⟩
    have hpools : cgnatPools (config.at ["nat", "cgnat"]) = n.cgnat.pools :=
      poolList.read_eq hn.pools
    have hrules : cgnatRules (config.at ["nat", "cgnat"]) = n.cgnat.rules :=
      cgnatRuleList.read_eq hn.rules
    show Except.ok (CgnatConfig.mk (cgnatPools (config.at ["nat", "cgnat"]))
      (cgnatRules (config.at ["nat", "cgnat"]))) = _
    rw [hpools, hrules]
  · rw [eval_lift]
    refine ⟨(splitStatic (config.at ["nat"])).staticNat, ?_, fun num ↦ ?_⟩
    · refine Prog.eval_bind_eq_ok.2 ⟨client, hclient, ?_⟩
      refine Prog.eval_bind_eq_ok.2 ⟨_, eval_fetchNode hconfig ["nat"], ?_⟩
      have hsource : parseRules (config.at ["nat"]) "source" (some "outbound-interface") =
          n.source := by
        rw [← read_natRules, (natRules _ _).read_eq hn.source]
      have hdestination : parseRules (config.at ["nat"]) "destination"
          (some "inbound-interface") = n.destination := by
        rw [← read_natRules, (natRules _ _).read_eq hn.destination]
      show Except.ok (splitStatic (config.at ["nat"])) = _
      rw [splitStatic_eq, hsource, hdestination]
    · rw [mem_map_staticNat_iff, isPaired_iff]
  · intro l hl
    simp only [List.mem_cons, List.not_mem_nil, or_false] at hl
    rcases hl with rfl | rfl | rfl | rfl | rfl
    · exact pairwise_of_natRules hn.source
    · exact pairwise_of_natRules hn.destination
    · exact pairwise_of_natRules hn.nat64
    · exact pairwise_of_natRules hn.nat66Source
    · exact pairwise_of_natRules hn.nat66Destination

end Shown

/-! ### A device with a masquerade, a mapping and pools -/

/-- The second source rule is half of a mapping. -/
def sampleNatConfig : Json :=
  .obj [("nat", .obj [
      ("source", .obj [("rule", .obj [
        ("100", .obj [("outbound-interface", .obj [("group", .str "WAN")]),
          ("source", .obj [("group", .obj [("network-group", .str "INSIDE")])]),
          ("translation", .obj [("masquerade", .obj [])])]),
        ("20", .obj [("outbound-interface", .obj [("name", .str "eth0")]),
          ("source", .obj [("address", .str "10.0.0.5")]),
          ("translation", .obj [("address", .str "192.0.2.5")])])])]),
      ("destination", .obj [("rule", .obj [
        ("20", .obj [("destination", .obj [("address", .str "192.0.2.5")]),
          ("translation", .obj [("address", .str "10.0.0.5")])])])]),
      ("cgnat", .obj [
        ("pool", .obj [("internal", .obj [("lan", .obj [("range", .str "100.64.0.0/10")])]),
          ("external", .obj [("wan", .obj [("external-port-range", .str "1024-65535")])])]),
        ("rule", .obj [("5", .obj [("source", .obj [("pool", .str "lan")]),
          ("translation", .obj [("pool", .str "wan")])])])])]),
    ("nat66", .obj [("source", .obj [("rule", .obj [
      ("7", .obj [("outbound-interface", .str "eth1"), ("disable", .obj []),
        ("source", .obj [("prefix", .str "fd00::/64")])])])])])]

def sampleMasquerade : NatRule :=
  { rule := "100", description := none, interface := some "WAN", interfaceGroup := true
    source := none, sourceGroup := some "network-group INSIDE", sourcePort := none
    destination := none, destinationGroup := none, destinationPort := none
    translation := some "masquerade", translationPort := none, protocol := none
    exclude := false, log := false, enabled := true }

def sampleMapped : NatRule :=
  { sampleMasquerade with
    rule := "20", interface := some "eth0", interfaceGroup := false, source := some "10.0.0.5"
    sourceGroup := none, translation := some "192.0.2.5" }

def sampleMappedBack : NatRule :=
  { sampleMapped with
    interface := none, source := none, destination := some "192.0.2.5"
    translation := some "10.0.0.5" }

def samplePrefix : NatRule :=
  { sampleMapped with
    rule := "7", interface := some "eth1", source := some "fd00::/64", translation := none
    enabled := false }

def sampleNatInventory : NatInventory where
  source := [sampleMapped, sampleMasquerade]
  destination := [sampleMappedBack]
  nat64 := ⟨[]⟩
  nat66 := ⟨[samplePrefix], []⟩
  cgnat :=
    { pools := [⟨"external", "wan", [], some "1024-65535"⟩,
        ⟨"internal", "lan", ["100.64.0.0/10"], none⟩]
      rules := [⟨"5", none, some "lan", some "wan", true⟩] }

theorem holds_sampleMasquerade : (natRule (some "outbound-interface") "100").Holds
    ((rulesOf (sampleNatConfig.at ["nat"]) "source").idx "100") sampleMasquerade :=
  ⟨rfl, showsText_none rfl,
    Or.inr (Or.inl ⟨_, _, rfl, rfl, showsText_some rfl (by decide), rfl⟩),
    Or.inl ⟨_, rfl, "address", by decide, showsText_none rfl, by decide⟩,
    Or.inl ⟨_, _, _, rfl, rfl, rfl⟩, Or.inl ⟨_, rfl, showsText_none rfl⟩, Or.inr ⟨rfl, rfl⟩,
    Or.inr ⟨rfl, rfl⟩, Or.inr ⟨rfl, rfl⟩, Or.inr ⟨_, rfl, Or.inr ⟨rfl, Or.inr (Or.inr ⟨rfl, rfl⟩)⟩⟩,
    Or.inl ⟨_, rfl, showsText_none rfl⟩, showsText_none rfl, rfl, rfl, rfl⟩

theorem holds_sampleMapped : (natRule (some "outbound-interface") "20").Holds
    ((rulesOf (sampleNatConfig.at ["nat"]) "source").idx "20") sampleMapped :=
  ⟨rfl, showsText_none rfl, Or.inl ⟨_, _, rfl, showsText_some rfl (by decide), rfl⟩,
    Or.inl ⟨_, rfl, "address", by decide, showsText_some rfl (by decide), by decide⟩,
    Or.inr ⟨rfl, rfl⟩, Or.inl ⟨_, rfl, showsText_none rfl⟩, Or.inr ⟨rfl, rfl⟩, Or.inr ⟨rfl, rfl⟩,
    Or.inr ⟨rfl, rfl⟩, Or.inr ⟨_, rfl, Or.inl ⟨_, showsText_some rfl (by decide), rfl⟩⟩,
    Or.inl ⟨_, rfl, showsText_none rfl⟩, showsText_none rfl, rfl, rfl, rfl⟩

theorem holds_sampleMappedBack : (natRule (some "inbound-interface") "20").Holds
    ((rulesOf (sampleNatConfig.at ["nat"]) "destination").idx "20") sampleMappedBack :=
  ⟨rfl, showsText_none rfl, Or.inr (Or.inr (Or.inr ⟨rfl, rfl⟩)), Or.inr ⟨rfl, rfl⟩,
    Or.inr ⟨rfl, rfl⟩, Or.inr ⟨rfl, rfl⟩,
    Or.inl ⟨_, rfl, "address", by decide, showsText_some rfl (by decide), by decide⟩,
    Or.inr ⟨rfl, rfl⟩, Or.inl ⟨_, rfl, showsText_none rfl⟩,
    Or.inr ⟨_, rfl, Or.inl ⟨_, showsText_some rfl (by decide), rfl⟩⟩,
    Or.inl ⟨_, rfl, showsText_none rfl⟩, showsText_none rfl, rfl, rfl, rfl⟩

theorem holds_samplePrefix : (natRule (some "outbound-interface") "7").Holds
    ((rulesOf (sampleNatConfig.at ["nat66"]) "source").idx "7") samplePrefix :=
  ⟨rfl, showsText_none rfl, Or.inr (Or.inr (Or.inl ⟨_, showsText_some rfl (by decide), rfl⟩)),
    Or.inl ⟨_, rfl, "prefix", by decide, showsText_some rfl (by decide), by decide⟩,
    Or.inr ⟨rfl, rfl⟩, Or.inl ⟨_, rfl, showsText_none rfl⟩, Or.inr ⟨rfl, rfl⟩, Or.inr ⟨rfl, rfl⟩,
    Or.inr ⟨rfl, rfl⟩, Or.inl ⟨rfl, rfl⟩, Or.inr ⟨rfl, rfl⟩, showsText_none rfl, rfl, rfl, rfl⟩

theorem shown_sampleNat : sampleNatInventory.Shown sampleNatConfig where
  source := ⟨[sampleMasquerade, sampleMapped], .some _ _ rfl (by decide)
    (.cons ⟨rfl, holds_sampleMasquerade⟩ (.cons ⟨rfl, holds_sampleMapped⟩ .nil)), by decide,
    by decide⟩
  destination := ⟨[sampleMappedBack], .some _ _ rfl (by decide)
    (.cons ⟨rfl, holds_sampleMappedBack⟩ .nil), by decide, by decide⟩
  nat64 := ⟨[], .none rfl, by decide, by decide⟩
  nat66Source := ⟨[samplePrefix], .some _ _ rfl (by decide)
    (.cons ⟨rfl, holds_samplePrefix⟩ .nil), by decide, by decide⟩
  nat66Destination := ⟨[], .none rfl, by decide, by decide⟩
  pools := by
    refine ⟨[⟨"external", "wan", [], some "1024-65535"⟩],
      [⟨"internal", "lan", ["100.64.0.0/10"], none⟩], .some _ _ rfl (by decide)
      (.cons ⟨rfl, rfl, rfl, ?_, ?_⟩ .nil), .some _ _ rfl (by decide)
      (.cons ⟨rfl, rfl, rfl, ?_, ?_⟩ .nil), by decide⟩
    · exact .none rfl
    · exact showsText_some rfl (by decide)
    · exact .one _ rfl
    · exact showsText_none rfl
  rules := by
    refine ⟨[⟨"5", none, some "lan", some "wan", true⟩], .some _ _ rfl (by decide)
      (.cons ⟨rfl, rfl, ?_, ?_, ?_, rfl⟩ .nil), by decide, by decide⟩
    · exact showsText_none rfl
    · exact Or.inl ⟨_, rfl, showsText_some rfl (by decide)⟩
    · exact Or.inl ⟨_, rfl, showsText_some rfl (by decide)⟩

/-- The page with the prefix rule of an old device. -/
theorem natPages_shown_old :
    (getNat66 ⟨0, "admin"⟩ 0).lift.eval (configAnswer sampleNatConfig) =
      .ok ⟨[samplePrefix], []⟩ := by
  have hclient : (fetchClient ⟨0, "admin"⟩ 0).lift.eval (configAnswer sampleNatConfig) =
      .ok sampleOldClient := by rfl
  exact (natPages_shown hclient (showsConfig_configAnswer _ _) shown_sampleNat).2.1

end VyosFabric
