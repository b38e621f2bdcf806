import VyosFabric.Client.Fields
import VyosFabric.Diff.Parts

/-!
# Saving a mapping unchanged

`split_static` lifts two rules with mirrored addresses into one mapping, whatever else they hold,
and `static_pair` asks for two rules that hold the mapping and nothing else. Where both halves hold
what the mapping shows, saving it unchanged stages the deletes of their other leaves, and nothing
besides (`cleans_strays`).
-/

namespace VyosFabric

/-- A half of a mapping has the description, the interface and the state the mapping shows. -/
structure HalfAgrees (m : StaticNatMapping) (sect : NatSection) (v : Json) : Prop where
  description : v.childStr "description" = m.description
  interface : liveInterface (some v) sect.ifaceKey = (m.interface, false)
  enabled : v.isEnabled = m.enabled

/-- The leaves that a half has besides those of its mapping, in the order of the diff. -/
def strayPaths : NatSection → List Path
  | .source => [["source", "port"], ["destination", "address"], ["destination", "port"],
      ["protocol"], ["translation", "port"], ["exclude"], ["log"]]
  | .destination => [["source", "address"], ["source", "port"], ["destination", "port"],
      ["protocol"], ["translation", "port"], ["exclude"], ["log"]]

/-- The rule has the leaf. The two flags have no value. -/
def hasLeaf (v : Json) : Path → Bool
  | [key] => if key = "protocol" then (v.childStr key).isSome else (v.get key).isSome
  | [parent, key] => (v.nestedStr parent key).isSome
  | _ => false

/-- The leaves of a half that a mapping has no place for. -/
def strays (sect : NatSection) (v : Json) : List Path := (strayPaths sect).filter (hasLeaf v)

/-- The page's trimming leaves every text of the mapping alone. -/
structure StaticNatMapping.UnmarkedTexts (m : StaticNatMapping) : Prop where
  description : Unmarked m.description
  interface : Unmarked m.interface
  internalAddress : Unmarked m.internalAddress
  externalAddress : Unmarked m.externalAddress

/-- The update asks for what the mapping shows. -/
structure StaticNatUpdate.Shows (body : StaticNatUpdate) (m : StaticNatMapping) : Prop where
  description : trimmed body.description = m.description
  interface : trimmed body.interface = m.interface
  internalAddress : trimmed body.internalAddress = m.internalAddress
  externalAddress : trimmed body.externalAddress = m.externalAddress
  enabled : body.enabled = m.enabled

/-- What lifts two rules into a mapping. -/
theorem of_mirrored {num : String} {s d : Json} {m : StaticNatMapping}
    (h : mirrored num s d = some m) :
    (s.nestedStr "source" "address" = m.internalAddress ∧
      s.nestedStr "translation" "address" = m.externalAddress) ∧
    (d.nestedStr "destination" "address" = m.externalAddress ∧
      d.nestedStr "translation" "address" = m.internalAddress) ∧
    m.internalAddress ≠ none ∧ m.externalAddress ≠ none := by
  rw [mirrored] at h
  split at h
  · cases h
  · rename_i hswapped
    simp only [not_or, not_not] at hswapped
    obtain ⟨hinternal, hexternal, hdestination, htranslation⟩ := hswapped
    obtain rfl := Option.some.inj h
    exact ⟨⟨rfl, rfl⟩, ⟨hdestination, htranslation⟩, hinternal, hexternal⟩

/-! ### The untouched form -/

/-- What the page gives the form of a mapping. -/
def mappingProps (m : StaticNatMapping) (interfaces : List String)
    (existing : List StaticNatMapping) : StaticNatProps :=
  ⟨some m, interfaces, existing⟩

theorem trimmed_address {o : Option String} (htrimmed : trimmed o = o) (hplain : Unmarked o)
    (hsome : o ≠ none) : trimmed (some (jsTrim (o.getD ""))) = o := by
  obtain ⟨t, rfl⟩ := Option.ne_none_iff_exists'.1 hsome
  rw [Option.getD_some, hplain t rfl, htrimmed]

/-- What an untouched form sends for a mapping. -/
theorem untouched_mapping_body (m : StaticNatMapping) (interfaces : List String)
    (existing : List StaticNatMapping) (num : ℕ) (original : Option ℕ) :
    (StaticNatForm.initially (mappingProps m interfaces existing)).body num original =
      { rule := num
        description := jsField (m.description.getD "")
        interface := jsField (m.interface.getD "")
        internalAddress := some (jsTrim (m.internalAddress.getD ""))
        externalAddress := some (jsTrim (m.externalAddress.getD ""))
        enabled := m.enabled
        originalRule := original } := rfl

/-- An untouched form asks for what the mapping shows. -/
theorem untouched_shows {m : StaticNatMapping} {s d : Json} {interfaces : List String}
    {existing : List StaticNatMapping} {num : ℕ} {original : Option ℕ}
    (hmirrored : mirrored m.rule s d = some m) (hsource : HalfAgrees m .source s)
    (hplain : m.UnmarkedTexts) :
    ((StaticNatForm.initially (mappingProps m interfaces existing)).body num original).Shows m := by
  obtain ⟨⟨hinternal, hexternal⟩, -, hinternal', hexternal'⟩ := of_mirrored hmirrored
  have hdescription : trimmed m.description = m.description :=
    hsource.description ▸ trimmed_childStr s _
  have hinterface : trimmed m.interface = m.interface := by
    have htrimmed := trimmed_liveInterface s NatSection.source.ifaceKey
    rwa [hsource.interface] at htrimmed
  have hsameDescription : retyped m.description = m.description :=
    (retyped_eq_self_iff hdescription).2 hplain.description
  have hsameInterface : retyped m.interface = m.interface :=
    (retyped_eq_self_iff hinterface).2 hplain.interface
  rw [untouched_mapping_body]
  constructor <;> dsimp only
  · exact hsameDescription
  · exact hsameInterface
  · exact trimmed_address (hinternal ▸ trimmed_nestedStr s _ _) hplain.internalAddress hinternal'
  · exact trimmed_address (hexternal ▸ trimmed_nestedStr s _ _) hplain.externalAddress hexternal'

/-! ### The diff of a half -/

/-- What a change does, without its text. -/
def NewConfigChange.effect (c : NewConfigChange) : Op × Path := (c.op, c.path)

section Half

variable {body : Nat44RuleUpdate} {author : Uuid}

/-- A leaf that is not asked for is deleted if it is there. -/
theorem natLeaf_unasked (sub : Path) (live : Option String) (field : String) :
    (natLeaf body author sub live none field).map NewConfigChange.effect =
      if live.isSome then [(.delete, ruleBase body.sect body.rule ++ sub)] else [] := by
  cases live <;> rfl

theorem natFlag_unasked (key : String) (live : Bool) :
    (natFlag body author key live false).map NewConfigChange.effect =
      if live then [(.delete, ruleBase body.sect body.rule ++ [key])] else [] := by
  cases live <;> rfl

theorem natLeaf_held (sub : Path) {live desired : Option String} (field : String)
    (h : trimmed desired = live) : natLeaf body author sub live desired field = [] :=
  leafDiff_eq_nil_iff.2 h

end Half

/-- The update of a half. -/
def staticHalf (body : StaticNatUpdate) : NatSection → Nat44RuleUpdate
  | .source => (staticPair body).1
  | .destination => (staticPair body).2

/-- The leaf of a half that has the address it translates from, and the one it translates to. -/
structure HalfAddresses (m : StaticNatMapping) (sect : NatSection) (v : Json) : Prop where
  matched : v.nestedStr sect.text "address" =
    match sect with
    | .source => m.internalAddress
    | .destination => m.externalAddress
  translation : v.nestedStr "translation" "address" =
    match sect with
    | .source => m.externalAddress
    | .destination => m.internalAddress

theorem map_filter_cons {α β : Type*} (f : α → β) (p : α → Bool) (a : α) (l : List α) :
    ((a :: l).filter p).map f = (if p a then [f a] else []) ++ (l.filter p).map f := by
  cases h : p a <;> simp [h]

/-- **The diff of a half** that holds its part of the mapping: its other leaves go. -/
theorem diffNat44_half {node v : Json} {m : StaticNatMapping} {sect : NatSection}
    {body : StaticNatUpdate} {author : Uuid} (hlive : liveRule node sect.text body.rule = some v)
    (hstays : renumberedFrom body.rule body.originalRule = none) (hshows : body.Shows m)
    (hagrees : HalfAgrees m sect v) (haddresses : HalfAddresses m sect v) :
    (diffNat44 node (staticHalf body sect) author).map NewConfigChange.effect =
      (strays sect v).map fun p ↦ (.delete, ruleBase sect.text body.rule ++ p) := by
  have hstays' : renumberedFrom (staticHalf body sect).rule (staticHalf body sect).originalRule =
      none := by
    cases sect <;> exact hstays
  have hlive' : liveRule node (staticHalf body sect).sect (staticHalf body sect).rule = some v := by
    cases sect <;> exact hlive
  have hdescription := hshows.description.trans hagrees.description.symm
  have hinterface : (trimmed body.interface, false) = liveInterface (some v) sect.ifaceKey := by
    rw [hshows.interface, hagrees.interface]
  have henabled := hshows.enabled.trans hagrees.enabled.symm
  rw [diffNat44_of_live hstays' hlive']
  cases sect with
  | source =>
    have hmatched : trimmed body.internalAddress = v.nestedStr "source" "address" :=
      hshows.internalAddress.trans haddresses.matched.symm
    have htranslation := hshows.externalAddress.trans haddresses.translation.symm
    have hkept : (trimmed body.interface, false) =
        liveInterface (some v) (ifaceKeyOf "source") := hinterface
    simp only [natParts, List.flatMap_cons, List.flatMap_nil, List.map_append, List.map_nil,
      List.nil_append, List.append_nil, staticHalf, staticPair, Option.bind_some, Option.map_some,
      Option.getD_some, natLeaf_held ["description"] "description" hdescription,
      natLeaf_held ["source", "address"] "source address" hmatched,
      natLeaf_held ["translation", "address"] "translation address" htranslation,
      interfaceDiff_eq_nil_iff.2 (Or.inl hkept), enabledDiff_eq_nil_iff.2 henabled,
      natLeaf_unasked, natFlag_unasked, strays, strayPaths, map_filter_cons, List.filter_nil]
    rfl
  | destination =>
    have hmatched : trimmed body.externalAddress = v.nestedStr "destination" "address" :=
      hshows.externalAddress.trans haddresses.matched.symm
    have htranslation := hshows.internalAddress.trans haddresses.translation.symm
    have hkept : (trimmed body.interface, false) =
        liveInterface (some v) (ifaceKeyOf "destination") := hinterface
    simp only [natParts, List.flatMap_cons, List.flatMap_nil, List.map_append, List.map_nil,
      List.nil_append, List.append_nil, staticHalf, staticPair, Option.bind_some, Option.map_some,
      Option.getD_some, natLeaf_held ["description"] "description" hdescription,
      natLeaf_held ["destination", "address"] "destination address" hmatched,
      natLeaf_held ["translation", "address"] "translation address" htranslation,
      interfaceDiff_eq_nil_iff.2 (Or.inl hkept), enabledDiff_eq_nil_iff.2 henabled,
      natLeaf_unasked, natFlag_unasked, strays, strayPaths, map_filter_cons, List.filter_nil]
    rfl

/-- **Saving a mapping unchanged** stages the deletes of the leaves its halves have besides, so that
nothing is staged exactly if they have none. The mapping is listed under the numeral of its number,
and its halves have what it shows. -/
theorem cleans_strays {node s d : Json} {m : StaticNatMapping} {interfaces : List String}
    {existing : List StaticNatMapping} {body : StaticNatUpdate} {author : Uuid}
    (hm : m ∈ (splitStatic node).staticNat) (hs : ruleAt node "source" m.rule = some s)
    (hd : ruleAt node "destination" m.rule = some d)
    (hsubmit : (StaticNatForm.initially (mappingProps m interfaces existing)).submit
      (mappingProps m interfaces existing) = .ok body)
    (hkey : m.rule = body.rule.repr) (hplain : m.UnmarkedTexts)
    (hsource : HalfAgrees m .source s) (hdestination : HalfAgrees m .destination d) :
    let staged := diffNat44 node (staticPair body).1 author ++
      diffNat44 node (staticPair body).2 author
    (staged.map NewConfigChange.effect =
      ((strays .source s).map fun p ↦ (.delete, ruleBase "source" body.rule ++ p)) ++
        (strays .destination d).map fun p ↦ (.delete, ruleBase "destination" body.rule ++ p)) ∧
    (staged = [] ↔ strays .source s = [] ∧ strays .destination d = []) := by
  intro staged
  obtain ⟨hread, -, hbody, horiginal⟩ := StaticNatForm.of_submit hsubmit
  obtain ⟨s', d', hs', hd', hmirrored⟩ := mem_mappings.1 (mem_staticNat.1 hm)
  obtain rfl := Option.some.inj (hs.symm.trans hs')
  obtain rfl := Option.some.inj (hd.symm.trans hd')
  obtain ⟨hswaps, hswaps', -⟩ := of_mirrored hmirrored
  have hshows : body.Shows m := by
    rw [hbody]
    exact untouched_shows hmirrored hsource hplain
  have hsent : body.originalRule = some body.rule :=
    Except.ok.inj ((horiginal m rfl).symm.trans (originalRule_of_ruleNumber hread))
  have hstays : renumberedFrom body.rule body.originalRule = none := by
    rw [hsent]
    exact Option.filter_some_neg (by simp)
  have hlive : liveRule node "source" body.rule = some s := by rw [liveRule_eq, ← hkey, hs]
  have hlive' : liveRule node "destination" body.rule = some d := by rw [liveRule_eq, ← hkey, hd]
  have heffect : staged.map NewConfigChange.effect =
      ((strays .source s).map fun p ↦ (.delete, ruleBase "source" body.rule ++ p)) ++
        (strays .destination d).map fun p ↦ (.delete, ruleBase "destination" body.rule ++ p) := by
    rw [List.map_append]
    exact congrArg₂ (· ++ ·)
      (@diffNat44_half node s m .source body author hlive hstays hshows hsource
        ⟨hswaps.1, hswaps.2⟩)
      (@diffNat44_half node d m .destination body author hlive' hstays hshows hdestination
        ⟨hswaps'.1, hswaps'.2⟩)
  refine ⟨heffect, ?_⟩
  rw [← List.map_eq_nil_iff (f := NewConfigChange.effect), heffect]
  simp only [List.append_eq_nil_iff, List.map_eq_nil_iff]

/-- A form that still has the number of its mapping is accepted if no other mapping has it. -/
theorem keeping_submit {props : StaticNatProps} {f : StaticNatForm} {m : StaticNatMapping} {num : ℕ}
    (hinitial : props.initial = some m) (hrule : f.rule = m.rule)
    (hnum : ruleNumber m.rule = some num)
    (haddr : ¬(jsTrim f.internalAddress = "" ∨ jsTrim f.externalAddress = ""))
    (hquiet : ∀ m' ∈ props.existing, m'.rule ≠ m.rule → number m'.rule ≠ some (num : ℚ)) :
    f.submit props = .ok (f.body num (some num)) := by
  have hclash : ∀ m' ∈ props.existing,
      clashes num (props.initial.map StaticNatMapping.rule) m'.rule = false := by
    intro m' hm'
    rw [hinitial]
    exact clashes_keeping (hquiet m' hm')
  rw [StaticNatForm.submit_eq (hrule ▸ hnum) haddr hclash, hinitial]
  exact congrArg (Except.map (f.body num)) (originalRule_of_ruleNumber hnum)

/-! ### A pair that matches a port -/

/-- The destination half of a mapping, with `matched` besides its address. -/
def portHalf (matched : List (String × Json)) : Json :=
  .obj [("inbound-interface", .obj [("name", .str "eth0")]),
    ("destination", .obj (("address", .str "203.0.113.5") :: matched)),
    ("translation", .obj [("address", .str "10.0.0.5")])]

/-- Its source half. -/
def plainHalf : Json :=
  .obj [("outbound-interface", .obj [("name", .str "eth0")]),
    ("source", .obj [("address", .str "10.0.0.5")]),
    ("translation", .obj [("address", .str "203.0.113.5")])]

/-- A live `nat` config with the two halves, whose destination rule matches one port only. -/
def portNat : Json :=
  .obj [("source", .obj [("rule", .obj [(Nat.repr 10, plainHalf)])]),
    ("destination", .obj [("rule", .obj [(Nat.repr 10, portHalf [("port", .str "443")])])])]

/-- The mapping the two are lifted into. -/
def portMapping : StaticNatMapping where
  rule := Nat.repr 10
  description := none
  interface := some "eth0"
  internalAddress := some "10.0.0.5"
  externalAddress := some "203.0.113.5"
  enabled := true

/-- What its form sends. -/
def portBody : StaticNatUpdate :=
  (StaticNatForm.initially (mappingProps portMapping ["eth0"] [portMapping])).body 10 (some 10)

theorem portMapping_mem : portMapping ∈ (splitStatic portNat).staticNat := by
  refine mem_staticNat.2 (mem_mappings.2 ⟨plainHalf, portHalf [("port", .str "443")], ?_⟩)
  decide

theorem submit_portMapping :
    (StaticNatForm.initially (mappingProps portMapping ["eth0"] [portMapping])).submit
      (mappingProps portMapping ["eth0"] [portMapping]) = .ok portBody := by
  refine keeping_submit (m := portMapping) rfl rfl (ruleNumber_repr (by decide) (by decide))
    (by decide) fun m' hm' hother ↦ ?_
  exact absurd (congrArg StaticNatMapping.rule (List.mem_singleton.1 hm')) hother

/-- The port match goes. -/
theorem cleans_strays_port :
    (diffNat44 portNat (staticPair portBody).1 1 ++ diffNat44 portNat (staticPair portBody).2 1).map
      NewConfigChange.effect =
        [(.delete, ["nat", "destination", "rule", "10", "destination", "port"])] :=
  (cleans_strays portMapping_mem
    (by decide : ruleAt portNat "source" (Nat.repr 10) = some plainHalf)
    (by decide :
      ruleAt portNat "destination" (Nat.repr 10) = some (portHalf [("port", .str "443")]))
    submit_portMapping rfl ⟨by decide, by decide, by decide, by decide⟩
    ⟨by decide, by decide, by decide⟩ ⟨by decide, by decide, by decide⟩).1.trans (by decide)

/-- **Saving a mapping can open all ports.** The pair is lifted, and the port its destination rule
matches does not survive the save. -/
theorem not_survives_port : ∃ body,
    portMapping ∈ (splitStatic portNat).staticNat ∧
      (StaticNatForm.initially (mappingProps portMapping ["eth0"] [portMapping])).submit
        (mappingProps portMapping ["eth0"] [portMapping]) = .ok body ∧
      diffNat44 portNat (staticPair body).1 1 ++ diffNat44 portNat (staticPair body).2 1 ≠ [] :=
  ⟨portBody, portMapping_mem, submit_portMapping, by decide⟩

end VyosFabric
