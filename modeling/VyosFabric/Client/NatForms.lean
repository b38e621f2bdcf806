import VyosFabric.Client.Number
import VyosFabric.Routes.Nat44

/-!
# The two NAT forms

`Nat44RuleFormModal` and `StaticNatFormModal`: the state a form opens with, and what its submit
makes of that state. A form gets the rules it checks for a clash from the page, which passes on the
lists that `get_nat44` served: a rule form sees the rules of its own section, a mapping form the
mappings.

The picker of the rule form always offers the value the form holds, so the lists of interfaces and
groups matter only where a form opens on one of them (`Nat44Form.initially`).
-/

namespace VyosFabric

inductive NatSection where
  | source
  | destination
  deriving DecidableEq, Repr

def NatSection.text : NatSection → String
  | source => "source"
  | destination => "destination"

/-- The key of the interface in the section. -/
def NatSection.ifaceKey : NatSection → String
  | source => "outbound-interface"
  | destination => "inbound-interface"

/-- The rules of a section as the page lists them. -/
def Nat44Config.rules (c : Nat44Config) : NatSection → List NatRule
  | .source => c.source
  | .destination => c.destination

/-- Why a submit stages nothing. -/
inductive SubmitError where
  /-- The form shows a message. -/
  | shown (text : String)
  /-- The backend cannot read the body. -/
  | unprocessable
  deriving DecidableEq, Repr

/-- `Number(initial.rule)` in a request body: `NaN` is sent as `null`, and the backend reads a
number only if it is a `u32`. -/
def originalRule (rule : String) : Except SubmitError (Option ℕ) :=
  match number rule with
  | none => .ok none
  | some q =>
    if q.den = 1 ∧ 0 ≤ q ∧ q < 2 ^ 32 then .ok (some q.num.toNat) else .error .unprocessable

/-- The rule `r` has the number `num` and is not the one being edited. -/
def clashes (num : ℕ) (initial : Option String) (r : String) : Bool :=
  number r == some (num : ℚ) && initial != some r

/-! ### Rules -/

inductive InterfaceKind where
  | name
  | group
  deriving DecidableEq, Repr

inductive TranslationType where
  | masquerade
  | address
  | cidr
  | range
  deriving DecidableEq, Repr

/-- Infer the translation type from a rule's stored translation. -/
def translationTypeOf (translation : Option String) (isSource : Bool) : TranslationType :=
  let t := (translation.map jsTrim).getD ""
  if t = "" then if isSource then .masquerade else .address
  else if t = "masquerade" then .masquerade
  else if '/' ∈ t.toList then .cidr
  else if '-' ∈ t.toList then .range
  else .address

/-- What the page gives a rule form. -/
structure Nat44Props where
  sect : NatSection
  initial : Option NatRule
  interfaces : List String
  interfaceGroups : List String
  existing : List NatRule

/-- The state of a rule form. -/
structure Nat44Form where
  rule : String
  description : String
  iface : String
  ifaceKind : InterfaceKind
  sourceAddress : String
  sourcePort : String
  destAddress : String
  destPort : String
  translationType : TranslationType
  translationAddress : String
  translationPort : String
  protocol : String
  exclude : Bool
  log : Bool
  enabled : Bool
  deriving DecidableEq, Repr

/-- The state a rule form opens with. A rule without an interface gets the first one offered. -/
def Nat44Form.initially (props : Nat44Props) : Nat44Form where
  rule := (props.initial.map NatRule.rule).getD ""
  description := (props.initial.bind NatRule.description).getD ""
  iface := (props.initial.bind NatRule.interface <|> props.interfaces.head?).getD ""
  ifaceKind :=
    if (props.initial.map NatRule.interfaceGroup).getD false then .group else .name
  sourceAddress := (props.initial.bind NatRule.source).getD ""
  sourcePort := (props.initial.bind NatRule.sourcePort).getD ""
  destAddress := (props.initial.bind NatRule.destination).getD ""
  destPort := (props.initial.bind NatRule.destinationPort).getD ""
  translationType :=
    translationTypeOf (props.initial.bind NatRule.translation) (props.sect == .source)
  translationAddress :=
    ((props.initial.bind NatRule.translation).filter fun t ↦ t ≠ "masquerade").getD ""
  translationPort := (props.initial.bind NatRule.translationPort).getD ""
  protocol := (props.initial.bind NatRule.protocol).getD "all"
  exclude := (props.initial.map NatRule.exclude).getD false
  log := (props.initial.map NatRule.log).getD false
  enabled := (props.initial.map NatRule.enabled).getD true

/-- `protocol.trim().toLowerCase() === "all"`. Only the ASCII letters matter: no other character
lowercases to a letter of `all`. -/
def saysAll (protocol : String) : Bool :=
  (jsTrim protocol).toList.map Char.toLower == "all".toList

/-- The body a rule form sends. -/
def Nat44Form.body (f : Nat44Form) (sect : NatSection) (num : ℕ) (original : Option ℕ) :
    Nat44RuleUpdate where
  sect := sect.text
  rule := num
  description := jsField f.description
  interface := jsField f.iface
  interfaceGroup := f.ifaceKind == .group
  sourceAddress := jsField f.sourceAddress
  sourcePort := jsField f.sourcePort
  destinationAddress := jsField f.destAddress
  destinationPort := jsField f.destPort
  translationAddress :=
    if f.translationType = .masquerade then some "masquerade" else jsField f.translationAddress
  translationPort := if f.translationType = .masquerade then none else jsField f.translationPort
  protocol := if saysAll f.protocol then none else jsField f.protocol
  exclude := f.exclude
  log := f.log
  enabled := f.enabled
  originalRule := original

/-- Submit of a rule form: the body the backend reads, or why there is none. -/
def Nat44Form.submit (props : Nat44Props) (f : Nat44Form) : Except SubmitError Nat44RuleUpdate :=
  match ruleNumber f.rule with
  | none => .error (.shown "Rule number must be a whole number between 1 and 999999.")
  | some num =>
    if props.existing.any fun r ↦ clashes num (props.initial.map NatRule.rule) r.rule then
      .error (.shown s!"Rule {num.repr} already exists in this section.")
    else
      match props.initial with
      | none => .ok (f.body props.sect num none)
      | some initial => (originalRule initial.rule).map (f.body props.sect num)

/-! ### Mappings -/

/-- What the page gives a mapping form. -/
structure StaticNatProps where
  initial : Option StaticNatMapping
  interfaces : List String
  existing : List StaticNatMapping

/-- The state of a mapping form. -/
structure StaticNatForm where
  rule : String
  description : String
  iface : String
  internalAddress : String
  externalAddress : String
  enabled : Bool
  deriving DecidableEq, Repr

/-- The state a mapping form opens with. -/
def StaticNatForm.initially (props : StaticNatProps) : StaticNatForm where
  rule := (props.initial.map StaticNatMapping.rule).getD ""
  description := (props.initial.bind StaticNatMapping.description).getD ""
  iface := (props.initial.bind StaticNatMapping.interface).getD ""
  internalAddress := (props.initial.bind StaticNatMapping.internalAddress).getD ""
  externalAddress := (props.initial.bind StaticNatMapping.externalAddress).getD ""
  enabled := (props.initial.map StaticNatMapping.enabled).getD true

/-- The body a mapping form sends. -/
def StaticNatForm.body (f : StaticNatForm) (num : ℕ) (original : Option ℕ) : StaticNatUpdate where
  rule := num
  description := jsField f.description
  interface := jsField f.iface
  internalAddress := some (jsTrim f.internalAddress)
  externalAddress := some (jsTrim f.externalAddress)
  enabled := f.enabled
  originalRule := original

/-- Submit of a mapping form. -/
def StaticNatForm.submit (props : StaticNatProps) (f : StaticNatForm) :
    Except SubmitError StaticNatUpdate :=
  match ruleNumber f.rule with
  | none => .error (.shown "Rule number must be a whole number between 1 and 999999.")
  | some num =>
    if jsTrim f.internalAddress = "" ∨ jsTrim f.externalAddress = "" then
      .error (.shown "Internal and external addresses are both required.")
    else if props.existing.any fun m ↦
        clashes num (props.initial.map StaticNatMapping.rule) m.rule then
      .error (.shown s!"Rule {num.repr} already exists.")
    else
      match props.initial with
      | none => .ok (f.body num none)
      | some initial => (originalRule initial.rule).map (f.body num)

/-! ### What a submit went through -/

/-- A readable number that clashes with no listed rule is accepted. -/
theorem Nat44Form.submit_eq {props : Nat44Props} {f : Nat44Form} {num : ℕ}
    (hnum : ruleNumber f.rule = some num)
    (hquiet : ∀ r ∈ props.existing,
      clashes num (props.initial.map NatRule.rule) r.rule = false) :
    f.submit props =
      match props.initial with
      | none => .ok (f.body props.sect num none)
      | some initial => (originalRule initial.rule).map (f.body props.sect num) := by
  have hany : ¬(props.existing.any fun r ↦
      clashes num (props.initial.map NatRule.rule) r.rule) = true := by
    rw [Bool.not_eq_true, List.any_eq_false]
    exact fun r hr ↦ by rw [hquiet r hr]; exact Bool.false_ne_true
  rw [Nat44Form.submit, hnum]
  exact if_neg hany

/-- So it is in a mapping form with both addresses. -/
theorem StaticNatForm.submit_eq {props : StaticNatProps} {f : StaticNatForm} {num : ℕ}
    (hnum : ruleNumber f.rule = some num)
    (haddr : ¬(jsTrim f.internalAddress = "" ∨ jsTrim f.externalAddress = ""))
    (hquiet : ∀ m ∈ props.existing,
      clashes num (props.initial.map StaticNatMapping.rule) m.rule = false) :
    f.submit props =
      match props.initial with
      | none => .ok (f.body num none)
      | some initial => (originalRule initial.rule).map (f.body num) := by
  have hany : ¬(props.existing.any fun m ↦
      clashes num (props.initial.map StaticNatMapping.rule) m.rule) = true := by
    rw [Bool.not_eq_true, List.any_eq_false]
    exact fun m hm ↦ by rw [hquiet m hm]; exact Bool.false_ne_true
  rw [StaticNatForm.submit, hnum]
  exact (if_neg haddr).trans (if_neg hany)

/-- No listed rule clashes if none has the number. -/
theorem clashes_eq_false {num num' : ℕ} {initial : Option String} (hne : num' ≠ num)
    (hnum : num' ≤ 999999) : clashes num initial num'.repr = false := by
  have hcast : (num' : ℚ) ≠ num := by exact_mod_cast hne
  rw [clashes, number_repr (by omega), Bool.and_eq_false_iff]
  exact Or.inl (by simpa using hcast)

/-- No listed rule clashes if none was found to. -/
theorem clashes_of_not_any {ι : Type} {rule : ι → String} {existing : List ι} {num : ℕ}
    {initial : Option String}
    (h : ¬(existing.any fun r ↦ clashes num initial (rule r)) = true) :
    ∀ r ∈ existing, clashes num initial (rule r) = false := fun r hr ↦ by
  by_contra hr'
  exact h (List.any_eq_true.2 ⟨r, hr, Bool.eq_true_of_not_eq_false hr'⟩)

/-- The body that a submit ends with: it has the number that was edited, if one was. -/
theorem exists_original {ι β : Type} {rule : ι → String} {initial : Option ι} {mk : Option ℕ → β}
    {body : β}
    (h : initial.elim (.ok (mk none)) (fun i ↦ (originalRule (rule i)).map mk) = .ok body) :
    ∃ original, body = mk original ∧
      ∀ i, initial = some i → originalRule (rule i) = .ok original := by
  cases initial with
  | none => exact ⟨none, (Except.ok.inj h).symm, fun i hi ↦ by cases hi⟩
  | some initial =>
    rw [Option.elim_some] at h
    cases horiginal : originalRule (rule initial) with
    | error e =>
      rw [horiginal] at h
      cases h
    | ok original =>
      rw [horiginal] at h
      refine ⟨original, (Except.ok.inj h).symm, fun i hi ↦ ?_⟩
      obtain rfl := Option.some.inj hi
      exact horiginal

/-- An accepted rule form: its number, and no clash with a listed rule. -/
theorem Nat44Form.of_submit {props : Nat44Props} {f : Nat44Form} {body : Nat44RuleUpdate}
    (h : f.submit props = .ok body) :
    ruleNumber f.rule = some body.rule ∧
      (∀ r ∈ props.existing,
        clashes body.rule (props.initial.map NatRule.rule) r.rule = false) ∧
      body = f.body props.sect body.rule body.originalRule ∧
      ∀ i, props.initial = some i → originalRule i.rule = .ok body.originalRule := by
  rw [Nat44Form.submit] at h
  split at h
  · cases h
  · rename_i num hnum
    split at h
    · cases h
    · rename_i hclash
      have hend : props.initial.elim (.ok (f.body props.sect num none))
          (fun i ↦ (originalRule i.rule).map (f.body props.sect num)) = .ok body := by
        cases hinitial : props.initial <;> rwa [hinitial] at h
      obtain ⟨original, rfl, horiginal⟩ := exists_original hend
      exact ⟨hnum, clashes_of_not_any hclash, rfl, horiginal⟩

/-- An accepted mapping form. -/
theorem StaticNatForm.of_submit {props : StaticNatProps} {f : StaticNatForm}
    {body : StaticNatUpdate} (h : f.submit props = .ok body) :
    ruleNumber f.rule = some body.rule ∧
      (∀ m ∈ props.existing,
        clashes body.rule (props.initial.map StaticNatMapping.rule) m.rule = false) ∧
      body = f.body body.rule body.originalRule ∧
      ∀ i, props.initial = some i → originalRule i.rule = .ok body.originalRule := by
  rw [StaticNatForm.submit] at h
  split at h
  · cases h
  · rename_i num hnum
    split at h
    · cases h
    · split at h
      · cases h
      · rename_i hclash
        have hend : props.initial.elim (.ok (f.body num none))
            (fun i ↦ (originalRule i.rule).map (f.body num)) = .ok body := by
          cases hinitial : props.initial <;> rwa [hinitial] at h
        obtain ⟨original, rfl, horiginal⟩ := exists_original hend
        exact ⟨hnum, clashes_of_not_any hclash, rfl, horiginal⟩

end VyosFabric
