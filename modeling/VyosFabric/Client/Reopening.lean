import VyosFabric.Client.Fields
import VyosFabric.Diff.Parts

/-!
# Opening a rule and saving it unchanged

A live rule goes through four readings before it comes back as an update: `parse_rule`, the state
the form opens with, the submit, and the diff. Each has fallbacks, and the update asks for what the
live rule already holds only where none of them was taken in a way the next cannot tell
(`stages_nothing_iff`).

The diff looks the rule up by the numeral of its number. `Reopens` is about a rule listed under that
numeral; a rule listed under another spelling of its number is compared with the rule of the
numeral, if there is one (`ShownAs`).
-/

namespace VyosFabric

/-- The text a form sends as the protocol of a rule that shows `protocol`, as the backend reads
it. -/
def sentProtocol (protocol : Option String) : Option String :=
  if saysAll (protocol.getD "all") then none else retyped protocol

/-- The translation it sends for a rule that shows `shown`. -/
def sentTranslation (sect : NatSection) (shown : Option String) : Option String :=
  if translationTypeOf shown (sect == .source) = .masquerade then some "masquerade"
  else retyped (shown.filter fun t ↦ t ≠ "masquerade")

/-- The translation port it sends with it. -/
def sentTranslationPort (sect : NatSection) (shown port : Option String) : Option String :=
  if translationTypeOf shown (sect == .source) = .masquerade then none else retyped port

/-- A form sends the interface `held` for a rule that shows `shown`. -/
def SameInterface (interfaces : List String) (shown held : Option String × Bool) : Prop :=
  (retyped (shown.1 <|> interfaces.head?), shown.2) = held ∨
    retyped (shown.1 <|> interfaces.head?) = none ∧ held.1 = none

/-- The rule `w` holds what a form shows and sends for the rule `v`. -/
@[mk_iff]
structure ShownAs (sect : NatSection) (interfaces : List String) (v w : Json) : Prop where
  description : retyped (v.childStr "description") = w.childStr "description"
  source : retyped (addrOrPrefix v "source") = w.nestedStr "source" "address"
  sourcePort : retyped (v.nestedStr "source" "port") = w.nestedStr "source" "port"
  destination : retyped (addrOrPrefix v "destination") = w.nestedStr "destination" "address"
  destinationPort : retyped (v.nestedStr "destination" "port") = w.nestedStr "destination" "port"
  protocol : sentProtocol (v.childStr "protocol") = w.childStr "protocol"
  translationAddress :
    sentTranslation sect (translation v) = w.nestedStr "translation" "address"
  translationPort : sentTranslationPort sect (translation v) (v.nestedStr "translation" "port") =
    w.nestedStr "translation" "port"
  interface : SameInterface interfaces (liveInterface (some v) sect.ifaceKey)
    (liveInterface (some w) sect.ifaceKey)
  exclude : (v.get "exclude").isSome = (w.get "exclude").isSome
  log : (v.get "log").isSome = (w.get "log").isSome
  enabled : v.isEnabled = w.isEnabled

/-- The address of a side of a rule comes back: the rule has one, and it is unmarked, or it has
none, and shows no prefix in its place. -/
def AddressReopens (v : Json) (side : String) : Prop :=
  match v.nestedStr side "address" with
  | some a => jsTrim a = a
  | none => Vanishes (v.nestedStr side "prefix")

/-- The translation comes back: the rule has a translation address and, if that is `masquerade`, no
port; or it has none, and shows nothing that the form takes for one. -/
def TranslationReopens (sect : NatSection) (v : Json) : Prop :=
  match v.nestedStr "translation" "address" with
  | some a =>
    if a = "masquerade" then v.nestedStr "translation" "port" = none
    else jsTrim a = a ∧ Unmarked (v.nestedStr "translation" "port")
  | none =>
    translationTypeOf (translation v) (sect == .source) ≠ .masquerade ∧ Vanishes (translation v) ∧
      Unmarked (v.nestedStr "translation" "port")

/-- The interface comes back: the rule has one, or none is offered. -/
def InterfaceReopens (sect : NatSection) (interfaces : List String) (v : Json) : Prop :=
  match (liveInterface (some v) sect.ifaceKey).1 with
  | some i => jsTrim i = i
  | none => Vanishes interfaces.head?

instance (v : Json) (side : String) : Decidable (AddressReopens v side) := by
  unfold AddressReopens
  split <;> infer_instance

instance (sect : NatSection) (v : Json) : Decidable (TranslationReopens sect v) := by
  unfold TranslationReopens
  split <;> infer_instance

instance (sect : NatSection) (interfaces : List String) (v : Json) :
    Decidable (InterfaceReopens sect interfaces v) := by
  unfold InterfaceReopens
  split <;> infer_instance

/-- The rule `v` comes back from a form as it is. -/
structure Reopens (sect : NatSection) (interfaces : List String) (v : Json) : Prop where
  description : Unmarked (v.childStr "description")
  source : AddressReopens v "source"
  sourcePort : Unmarked (v.nestedStr "source" "port")
  destination : AddressReopens v "destination"
  destinationPort : Unmarked (v.nestedStr "destination" "port")
  protocol : ∀ p, v.childStr "protocol" = some p → jsTrim p = p ∧ saysAll p = false
  translation : TranslationReopens sect v
  interface : InterfaceReopens sect interfaces v

/-! ### One leaf at a time -/

theorem addrOrPrefix_eq (v : Json) (side : String) :
    addrOrPrefix v side = (v.nestedStr side "address" <|> v.nestedStr side "prefix") := by
  rw [addrOrPrefix, Json.idx, Json.nestedStr, Json.nestedStr]
  cases v.get side <;> rfl

theorem addressReopens_iff {v : Json} {side : String} :
    retyped (addrOrPrefix v side) = v.nestedStr side "address" ↔ AddressReopens v side := by
  rw [addrOrPrefix_eq, AddressReopens]
  cases haddr : v.nestedStr side "address" with
  | none => exact retyped_eq_none_iff
  | some a =>
    have hshown : trimmed (some a) = some a := haddr ▸ trimmed_nestedStr v side "address"
    exact (retyped_eq_self_iff hshown).trans (by simp [Unmarked])

theorem protocolReopens_iff {protocol : Option String} (hshown : trimmed protocol = protocol) :
    sentProtocol protocol = protocol ↔
      ∀ p, protocol = some p → jsTrim p = p ∧ saysAll p = false := by
  rw [sentProtocol]
  cases protocol with
  | none =>
    have hall : saysAll ((none : Option String).getD "all") = true := by decide
    rw [if_pos hall]
    simp
  | some p =>
    simp only [Option.getD_some, Option.some.injEq, forall_eq']
    by_cases hall : saysAll p = true
    · simp [hall]
    · rw [if_neg hall, retyped_eq_self_iff hshown]
      simp [Unmarked, hall]

/-- What a translation shows of a rule with a translation address. -/
theorem translation_of_address {v : Json} {a : String}
    (h : v.nestedStr "translation" "address" = some a) : translation v = some a := by
  rw [translation, h]
  rfl

theorem translationTypeOf_unmarked {a : String} (isSource : Bool) (hne : a ≠ "")
    (hmasq : a ≠ "masquerade") (ha : jsTrim a = a) :
    translationTypeOf (some a) isSource ≠ .masquerade := by
  simp only [translationTypeOf, Option.map_some, Option.getD_some, ha, if_neg hne, if_neg hmasq]
  split
  · simp
  · split <;> simp

theorem translationReopens_iff {sect : NatSection} {v : Json} :
    (sentTranslation sect (translation v) = v.nestedStr "translation" "address" ∧
        sentTranslationPort sect (translation v) (v.nestedStr "translation" "port") =
          v.nestedStr "translation" "port") ↔ TranslationReopens sect v := by
  have hport := @retyped_eq_self_iff (v.nestedStr "translation" "port") (trimmed_nestedStr v _ _)
  rw [TranslationReopens, sentTranslation, sentTranslationPort]
  cases haddr : v.nestedStr "translation" "address" with
  | none =>
    -- masquerade would be sent as an address the rule does not have
    simp only
    split
    · rename_i hmasq
      simp [hmasq]
    · rename_i hmasq
      have hfilter : (translation v).filter (fun t ↦ t ≠ "masquerade") = translation v := by
        cases hshown : translation v with
        | none => rfl
        | some t =>
          refine Option.filter_some_pos (decide_eq_true ?_)
          rintro rfl
          rw [hshown] at hmasq
          exact hmasq (by cases sect <;> decide)
      rw [hfilter, retyped_eq_none_iff, hport]
      simp [hmasq]
  | some a =>
    have hshown : trimmed (some a) = some a := haddr ▸ trimmed_nestedStr v _ _
    have hne := (trim_eq_of_trimmed hshown rfl).2
    rw [translation_of_address haddr]
    simp only
    by_cases ha : a = "masquerade"
    · subst ha
      have hmasq : translationTypeOf (some "masquerade") (sect == .source) = .masquerade := by
        cases sect <;> decide
      simp [hmasq, eq_comm]
    · have hfilter : (some a).filter (fun t ↦ t ≠ "masquerade") = some a :=
        Option.filter_some_pos (decide_eq_true ha)
      rw [hfilter, if_neg ha]
      by_cases hmarked : jsTrim a = a
      · have hretyped : retyped (some a) = some a :=
          (retyped_eq_self_iff hshown).2 fun t ht ↦ Option.some.inj ht ▸ hmarked
        rw [if_neg (translationTypeOf_unmarked _ hne ha hmarked),
          if_neg (translationTypeOf_unmarked _ hne ha hmarked), hport]
        simp [hretyped, hmarked]
      · have hretyped : retyped (some a) ≠ some a := fun h ↦
          hmarked ((retyped_eq_self_iff hshown).1 h a rfl)
        split
        · simp [hmarked, Ne.symm ha]
        · simp [hmarked, hretyped]

theorem interfaceReopens_iff {sect : NatSection} {interfaces : List String} {v : Json} :
    SameInterface interfaces (liveInterface (some v) sect.ifaceKey)
        (liveInterface (some v) sect.ifaceKey) ↔
      InterfaceReopens sect interfaces v := by
  have htrimmed := trimmed_liveInterface v sect.ifaceKey
  rw [InterfaceReopens, SameInterface]
  cases hshown : liveInterface (some v) sect.ifaceKey with
  | mk iface kind =>
    rw [hshown] at htrimmed
    cases iface with
    | none =>
      have hretyped : retyped interfaces.head? = none ↔ Vanishes interfaces.head? :=
        retyped_eq_none_iff
      simp [hretyped]
    | some i =>
      have hself := retyped_eq_self_iff htrimmed
      simp [hself, Unmarked]

/-- **A rule listed under its numeral** comes back exactly if it reopens. -/
theorem shownAs_self_iff {sect : NatSection} {interfaces : List String} {v : Json} :
    ShownAs sect interfaces v v ↔ Reopens sect interfaces v := by
  have hchild := fun key ↦ @retyped_eq_self_iff (v.childStr key) (trimmed_childStr v key)
  have hnested := fun side key ↦
    @retyped_eq_self_iff (v.nestedStr side key) (trimmed_nestedStr v side key)
  constructor
  · intro h
    exact ⟨(hchild _).1 h.description, addressReopens_iff.1 h.source, (hnested _ _).1 h.sourcePort,
      addressReopens_iff.1 h.destination, (hnested _ _).1 h.destinationPort,
      (protocolReopens_iff (trimmed_childStr v _)).1 h.protocol,
      translationReopens_iff.1 ⟨h.translationAddress, h.translationPort⟩,
      interfaceReopens_iff.1 h.interface⟩
  · intro h
    obtain ⟨htranslation, hport⟩ := translationReopens_iff.2 h.translation
    exact ⟨(hchild _).2 h.description, addressReopens_iff.2 h.source, (hnested _ _).2 h.sourcePort,
      addressReopens_iff.2 h.destination, (hnested _ _).2 h.destinationPort,
      (protocolReopens_iff (trimmed_childStr v _)).2 h.protocol, htranslation, hport,
      interfaceReopens_iff.2 h.interface, rfl, rfl, rfl⟩

/-! ### The whole way -/

/-- What the page gives the form of a listed rule. -/
def editProps (sect : NatSection) (r : NatRule) (interfaces groups : List String)
    (existing : List NatRule) : Nat44Props :=
  ⟨sect, some r, interfaces, groups, existing⟩

/-- What an untouched form sends for a rule. -/
theorem untouched_body (sect : NatSection) (key : String) (v : Json)
    (interfaces groups : List String) (existing : List NatRule) (num : ℕ) (original : Option ℕ) :
    (Nat44Form.initially (editProps sect (parseRule key v (some sect.ifaceKey)) interfaces groups
        existing)).body sect num original =
      let shown := liveInterface (some v) sect.ifaceKey
      let masquerades := translationTypeOf (translation v) (sect == .source) = .masquerade
      let protocol := (v.childStr "protocol").getD "all"
      { sect := sect.text
        rule := num
        description := jsField ((v.childStr "description").getD "")
        interface := jsField ((shown.1 <|> interfaces.head?).getD "")
        interfaceGroup := (if shown.2 then InterfaceKind.group else .name) == .group
        sourceAddress := jsField ((addrOrPrefix v "source").getD "")
        sourcePort := jsField ((v.nestedStr "source" "port").getD "")
        destinationAddress := jsField ((addrOrPrefix v "destination").getD "")
        destinationPort := jsField ((v.nestedStr "destination" "port").getD "")
        translationAddress :=
          if masquerades then some "masquerade"
          else jsField (((translation v).filter fun t ↦ t ≠ "masquerade").getD "")
        translationPort :=
          if masquerades then none else jsField ((v.nestedStr "translation" "port").getD "")
        protocol := if saysAll protocol then none else jsField protocol
        exclude := (v.get "exclude").isSome
        log := (v.get "log").isSome
        enabled := v.isEnabled
        originalRule := original } := rfl

theorem trimmed_sentProtocol (protocol : Option String) :
    trimmed (if saysAll (protocol.getD "all") then none else jsField (protocol.getD "all")) =
      sentProtocol protocol := by
  rw [sentProtocol, apply_ite trimmed, trimmed_none]
  cases protocol with
  | none =>
    rw [if_pos (by decide)]
    decide
  | some p => rfl

theorem trimmed_sentTranslation (sect : NatSection) (shown : Option String) :
    trimmed (if translationTypeOf shown (sect == .source) = .masquerade then some "masquerade"
      else jsField ((shown.filter fun t ↦ t ≠ "masquerade").getD "")) =
        sentTranslation sect shown := by
  rw [sentTranslation, apply_ite trimmed, show trimmed (some "masquerade") = some "masquerade" by
    decide]
  rfl

theorem trimmed_sentTranslationPort (sect : NatSection) (shown port : Option String) :
    trimmed (if translationTypeOf shown (sect == .source) = .masquerade then none
      else jsField (port.getD "")) = sentTranslationPort sect shown port := by
  rw [sentTranslationPort, apply_ite trimmed, trimmed_none]
  rfl

/-- A live rule holds what an untouched form asks for if it is what the form shows. -/
theorem untouched_holds_iff {sect : NatSection} {key : String} {v w : Json}
    {interfaces groups : List String} {existing : List NatRule} {num : ℕ} {original : Option ℕ} :
    ((Nat44Form.initially (editProps sect (parseRule key v (some sect.ifaceKey)) interfaces groups
        existing)).body sect num original).Holds w ↔ ShownAs sect interfaces v w := by
  have hkey : ifaceKeyOf sect.text = sect.ifaceKey := by cases sect <;> rfl
  have hgroup : ∀ b : Bool, ((if b then InterfaceKind.group else .name) == .group) = b := by decide
  have hretyped : ∀ o : Option String, trimmed (jsField (o.getD "")) = retyped o := fun _ ↦ rfl
  rw [untouched_body, Nat44RuleUpdate.holds_iff, shownAs_iff]
  simp only [hretyped, trimmed_sentProtocol, trimmed_sentTranslation, trimmed_sentTranslationPort,
    hkey, hgroup, SameInterface]

/-- **Saving an opened rule unchanged** stages nothing exactly if the rule is listed under the
numeral of its number and reopens, or is listed under another spelling of it and the rule of the
numeral is what the form shows. -/
theorem stages_nothing_iff {node : Json} {sect : NatSection} {r : NatRule} {v : Json} {num : ℕ}
    {interfaces groups : List String} {existing : List NatRule} {body : Nat44RuleUpdate}
    {author : Uuid} (hr : r ∈ parseRules node sect.text (some sect.ifaceKey))
    (hv : ruleAt node sect.text r.rule = some v) (hnum : ruleNumber r.rule = some num)
    (hsubmit : (Nat44Form.initially (editProps sect r interfaces groups existing)).submit
      (editProps sect r interfaces groups existing) = .ok body) :
    diffNat44 node body author = [] ↔
      r.rule = num.repr ∧ Reopens sect interfaces v ∨
        r.rule ≠ num.repr ∧
          ∃ w, ruleAt node sect.text num.repr = some w ∧ ShownAs sect interfaces v w := by
  obtain ⟨hread, -, hbody, horiginal⟩ := Nat44Form.of_submit hsubmit
  obtain ⟨v', hv', hparsed⟩ := mem_parseRules.1 hr
  obtain rfl := Option.some.inj (hv.symm.trans hv')
  have hrule : body.rule = num := Option.some.inj (hread.symm.trans hnum)
  have hsent : body.originalRule = some num :=
    Except.ok.inj ((horiginal r rfl).symm.trans (originalRule_of_ruleNumber hnum))
  rw [hrule, hsent] at hbody
  have hstays : renumberedFrom body.rule body.originalRule = none := by
    rw [hrule, hsent]
    exact Option.filter_some_neg (by simp)
  have hsect : body.sect = sect.text := by
    rw [hbody]
    rfl
  rw [diffNat44_eq_nil_iff hstays, hsect, hrule, liveRule_eq]
  have hholds : ∀ w, body.Holds w ↔ ShownAs sect interfaces v w := by
    intro w
    rw [hbody, hparsed]
    exact untouched_holds_iff
  simp only [hholds]
  by_cases hkey : r.rule = num.repr
  · rw [← hkey, hv]
    simp [shownAs_self_iff]
  · simp [hkey]

/-- A form that still has the number of its rule is accepted if no other listed rule has it. -/
theorem submit_keeping {props : Nat44Props} {f : Nat44Form} {r : NatRule} {num : ℕ}
    (hinitial : props.initial = some r) (hrule : f.rule = r.rule)
    (hnum : ruleNumber r.rule = some num)
    (hquiet : ∀ r' ∈ props.existing, r'.rule ≠ r.rule → number r'.rule ≠ some (num : ℚ)) :
    f.submit props = .ok (f.body props.sect num (some num)) := by
  have hclash : ∀ r' ∈ props.existing,
      clashes num (props.initial.map NatRule.rule) r'.rule = false := by
    intro r' hr'
    rw [hinitial]
    exact clashes_keeping (hquiet r' hr')
  rw [Nat44Form.submit_eq (hrule ▸ hnum) hclash, hinitial]
  exact congrArg (Except.map (f.body props.sect num)) (originalRule_of_ruleNumber hnum)

/-! ### A rule without an interface -/

/-- A source rule that masquerades what leaves `outbound`. -/
def masqueradingRule (outbound : List (String × Json)) : Json :=
  .obj (outbound ++ [("source", .obj [("address", .str "10.0.0.0/24")]),
    ("translation", .obj [("address", .str "masquerade")])])

/-- What a rule that leaves `eth0` holds besides. -/
def boundOutbound : List (String × Json) :=
  [("outbound-interface", .obj [("name", .str "eth0")])]

/-- A live `nat` config with that rule alone. -/
def masqueradingNat (outbound : List (String × Json)) : Json :=
  .obj [("source", .obj [("rule", .obj [(Nat.repr 100, masqueradingRule outbound)])])]

/-- The rule as the page lists it. -/
def listedRule (outbound : List (String × Json)) : NatRule :=
  parseRule (Nat.repr 100) (masqueradingRule outbound) (some NatSection.source.ifaceKey)

/-- The form of that rule; the device has `eth0` and `eth1`. -/
def masqueradingProps (outbound : List (String × Json)) : Nat44Props :=
  editProps .source (listedRule outbound) ["eth0", "eth1"] [] [listedRule outbound]

theorem ruleNumber_listedRule (outbound : List (String × Json)) :
    ruleNumber (listedRule outbound).rule = some 100 :=
  ruleNumber_repr (by decide) (by decide)

theorem ruleAt_masqueradingNat (outbound : List (String × Json)) :
    ruleAt (masqueradingNat outbound) "source" (Nat.repr 100) =
      some (masqueradingRule outbound) := by
  simp [ruleAt, rulesOf, masqueradingNat, Json.get, Json.idx]

theorem listedRule_mem (outbound : List (String × Json)) :
    listedRule outbound ∈ parseRules (masqueradingNat outbound) NatSection.source.text
      (some NatSection.source.ifaceKey) :=
  mem_parseRules.2 ⟨_, ruleAt_masqueradingNat outbound, rfl⟩

theorem submit_masquerading (outbound : List (String × Json)) :
    (Nat44Form.initially (masqueradingProps outbound)).submit (masqueradingProps outbound) =
      .ok ((Nat44Form.initially (masqueradingProps outbound)).body .source 100 (some 100)) := by
  refine submit_keeping (r := listedRule outbound) rfl rfl (ruleNumber_listedRule outbound) ?_
  intro r' hr' hother
  exact absurd (congrArg NatRule.rule (List.mem_singleton.1 hr')) hother

/-- A masquerading rule with an interface comes back. -/
theorem stages_nothing_bound :
    diffNat44 (masqueradingNat boundOutbound)
      ((Nat44Form.initially (masqueradingProps boundOutbound)).body .source 100 (some 100)) 1 =
        [] :=
  (stages_nothing_iff (listedRule_mem boundOutbound) (ruleAt_masqueradingNat boundOutbound)
    (ruleNumber_listedRule boundOutbound) (submit_masquerading boundOutbound)).2
      (Or.inl ⟨rfl, ⟨by decide, by decide, by decide, by decide, by decide, by decide, by decide,
        by decide⟩⟩)

/-- Without one, the form takes the first interface offered, and the rule no longer masquerades what
leaves any other. -/
theorem not_stages_nothing_unbound :
    ∃ body, listedRule [] ∈ parseRules (masqueradingNat []) "source" (some "outbound-interface") ∧
      (Nat44Form.initially (masqueradingProps [])).submit (masqueradingProps []) = .ok body ∧
      (diffNat44 (masqueradingNat []) body 1).map (fun c ↦ (c.op, c.path)) =
        [(.set, ["nat", "source", "rule", "100", "outbound-interface", "name", "eth0"])] := by
  refine ⟨_, listedRule_mem [], submit_masquerading [], ?_⟩
  decide +kernel

end VyosFabric
