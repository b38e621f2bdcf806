import VyosFabric.Client.Fields
import VyosFabric.Routes.Interfaces

/-!
# The interface forms

`VlanFormModal` and `EthernetFormModal`: the state a form opens with, and what its submit makes of
that state. The pages pass the rows of the lists on. An address field is the text in it; the key
that React tells the fields apart by is left out.

A shown number comes back as the number it was (`mtuField_shown`), and the values of a list come
back as they were if trimming leaves them alone (`trimmedList_sentList`).
-/

namespace VyosFabric

/-! ### Fields -/

/-- `addresses.map((a) => a.value.trim()).filter(Boolean)`. -/
def sentList (values : List String) : List String := (values.map jsTrim).filter fun a ↦ a ≠ ""

/-- `mtu.trim() === "" ? null : Number(mtu)` in a request body: what is not finite is sent as
`null`, and the backend reads a number only if it is an `i32`. -/
def mtuField (mtu : String) : Except SubmitError (Option Int) :=
  if jsTrim mtu = "" then .ok none
  else
    match number mtu with
    | none => .ok none
    | some q =>
      if q.den = 1 ∧ -2 ^ 31 ≤ q ∧ q < 2 ^ 31 then .ok (some q.num) else .error .unprocessable

/-- A number as a form shows it. -/
def shownNumber (n : Option Int) : String := (n.map Int.repr).getD ""

/-- `Number(vlanId)`, where it is a whole number between 1 and 4094. -/
def vlanNumber (s : String) : Option Int :=
  (number s).bind fun q ↦ if q.den = 1 ∧ 1 ≤ q ∧ q ≤ 4094 then some q.num else none

/-! ### VLANs -/

/-- What the page gives a VLAN form. -/
structure VlanProps where
  initial : Option VlanInterface
  parents : List String
  existing : List VlanInterface

/-- The state of a VLAN form. -/
structure VlanForm where
  parent : String
  vlanId : String
  description : String
  addresses : List String
  mtu : String
  enabled : Bool
  deriving DecidableEq, Repr

/-- The state a VLAN form opens with. -/
def VlanForm.initially (props : VlanProps) : VlanForm where
  parent := (props.initial.map VlanInterface.parent <|> props.parents.head?).getD ""
  vlanId := shownNumber (props.initial.map VlanInterface.vlanId)
  description := (props.initial.bind VlanInterface.description).getD ""
  addresses := (props.initial.map VlanInterface.addresses).getD []
  mtu := shownNumber (props.initial.bind VlanInterface.mtu)
  enabled := (props.initial.map VlanInterface.enabled).getD true

/-- Another VLAN than the one being edited has the parent and the number. -/
def VlanProps.clash (props : VlanProps) (parent : String) (id : Int) : Bool :=
  props.existing.any fun v ↦ v.parent == parent && v.vlanId == id &&
    !(props.initial.any fun i ↦ v.parent == i.parent && v.vlanId == i.vlanId)

/-- The body a VLAN form sends. -/
def VlanForm.body (f : VlanForm) (id : Int) (mtu : Option Int) (initial : Option VlanInterface) :
    VlanConfigUpdate where
  parent := f.parent
  vlanId := id
  description := jsField f.description
  addresses := sentList f.addresses
  mtu := mtu
  enabled := f.enabled
  originalParent := initial.map VlanInterface.parent
  originalVlanId := initial.map VlanInterface.vlanId

/-- Submit of a VLAN form. -/
def VlanForm.submit (props : VlanProps) (f : VlanForm) : Except SubmitError VlanConfigUpdate :=
  if f.parent = "" then .error (.shown "Select a parent interface.")
  else
    match vlanNumber f.vlanId with
    | none => .error (.shown "VLAN ID must be a whole number between 1 and 4094.")
    | some id =>
      if props.clash f.parent id then .error (.shown s!"{f.parent}.{id.repr} already exists.")
      else (mtuField f.mtu).map fun mtu ↦ f.body id mtu props.initial

/-! ### NICs -/

/-- What the page gives an ethernet form. -/
structure EthernetProps where
  initial : Option EthernetInterface
  freeNames : List String

/-- The state of an ethernet form. -/
structure EthernetForm where
  name : String
  description : String
  addresses : List String
  mtu : String
  speed : String
  duplex : String
  enabled : Bool
  deriving DecidableEq, Repr

/-- The state an ethernet form opens with. -/
def EthernetForm.initially (props : EthernetProps) : EthernetForm where
  name := (props.initial.map EthernetInterface.name <|> props.freeNames.head?).getD ""
  description := (props.initial.bind EthernetInterface.description).getD ""
  addresses := (props.initial.map EthernetInterface.addresses).getD []
  mtu := shownNumber (props.initial.bind EthernetInterface.mtu)
  speed := (props.initial.bind EthernetInterface.speed).getD "auto"
  duplex := (props.initial.bind EthernetInterface.duplex).getD "auto"
  enabled := (props.initial.map EthernetInterface.enabled).getD true

/-- `Number(mtu)` is a whole number between 68 and 16000, or the field is blank. -/
def mtuAccepted (mtu : String) : Bool :=
  jsTrim mtu = "" || (number mtu).any fun q ↦ q.den = 1 ∧ 68 ≤ q ∧ q ≤ 16000

/-- `speed === "auto" ? null : speed`. -/
def unlessAuto (s : String) : Option String := if s = "auto" then none else some s

/-- The body an ethernet form sends. -/
def EthernetForm.body (f : EthernetForm) (mtu : Option Int) : EthernetConfigUpdate where
  name := f.name
  description := jsField f.description
  addresses := sentList f.addresses
  mtu := mtu
  speed := unlessAuto f.speed
  duplex := unlessAuto f.duplex
  enabled := f.enabled

/-- Submit of an ethernet form. -/
def EthernetForm.submit (f : EthernetForm) : Except SubmitError EthernetConfigUpdate :=
  if f.name = "" then .error (.shown "Select a physical interface.")
  else if ¬mtuAccepted f.mtu then
    .error (.shown "MTU must be a whole number between 68 and 16000.")
  else if (f.speed == "auto") != (f.duplex == "auto") then
    .error (.shown "Speed and duplex must both be Auto, or both set to a fixed value.")
  else (mtuField f.mtu).map f.body

/-! ### Shown and sent back -/

theorem intRepr_ne_empty (m : Int) : m.repr ≠ "" := by
  intro h
  obtain ⟨ds, hne, -, ⟨-, hlist, -⟩ | ⟨-, hlist, -⟩⟩ := toList_repr_cases m
  · rw [h] at hlist
    exact hne hlist.symm
  · rw [h] at hlist
    cases hlist

/-- **A shown number comes back as it was.** -/
theorem mtuField_shown {n : Option Int} (hn : ∀ m ∈ n, -2 ^ 31 ≤ m ∧ m < 2 ^ 31) :
    mtuField (shownNumber n) = .ok n := by
  cases n with
  | none => rfl
  | some m =>
    obtain ⟨hge, hlt⟩ := hn m rfl
    have hread : number m.repr = some (m : ℚ) := number_intRepr (by omega)
    have hrange : (m : ℚ).den = 1 ∧ -2 ^ 31 ≤ (m : ℚ) ∧ (m : ℚ) < 2 ^ 31 :=
      ⟨Rat.den_intCast m, by exact_mod_cast hge, by exact_mod_cast hlt⟩
    show mtuField m.repr = _
    rw [mtuField, jsTrim_intRepr, if_neg (intRepr_ne_empty m), hread]
    exact if_pos hrange

theorem vlanNumber_repr {n : Int} (hn : n.natAbs < 2 ^ 53) :
    vlanNumber n.repr = if 1 ≤ n ∧ n ≤ 4094 then some n else none := by
  have hrange : (n : ℚ).den = 1 ∧ 1 ≤ (n : ℚ) ∧ (n : ℚ) ≤ 4094 ↔ 1 ≤ n ∧ n ≤ 4094 := by
    rw [and_iff_right (Rat.den_intCast n)]
    exact_mod_cast Iff.rfl
  rw [vlanNumber, number_intRepr hn, Option.bind_some, Rat.num_intCast]
  exact if_congr hrange rfl rfl

theorem vlanNumber_range {s : String} {n : Int} (h : vlanNumber s = some n) : 1 ≤ n ∧ n ≤ 4094 := by
  obtain ⟨q, -, hq⟩ := Option.bind_eq_some_iff.1 h
  split at hq
  · rename_i hrange
    obtain ⟨hden, hge, hle⟩ := hrange
    obtain rfl := Option.some.inj hq
    rw [← Rat.coe_int_num_of_den_eq_one hden] at hge hle
    exact ⟨by exact_mod_cast hge, by exact_mod_cast hle⟩
  · cases hq

/-- Both languages' trimming leaves the text alone. -/
def Clean (s : String) : Prop := jsTrim s = s ∧ trim s = s

instance (s : String) : Decidable (Clean s) := inferInstanceAs (Decidable (_ ∧ _))

/-- Texts that a trimming leaves alone. -/
theorem filter_map_eq_self {f : String → String} {l : List String}
    (hl : ∀ a ∈ l, f a = a ∧ a ≠ "") : (l.map f).filter (fun a ↦ a ≠ "") = l := by
  have hmap : l.map f = l.map id := List.map_congr_left fun a ha ↦ (hl a ha).1
  rw [hmap, List.map_id]
  exact List.filter_eq_self.2 fun a ha ↦ decide_eq_true (hl a ha).2

/-- **A list of clean texts comes back as it was.** -/
theorem trimmedList_sentList {l : List String} (hl : ∀ a ∈ l, Clean a ∧ a ≠ "") :
    trimmedList (sentList l) = l := by
  have hsent : sentList l = l := filter_map_eq_self fun a ha ↦ ⟨(hl a ha).1.1, (hl a ha).2⟩
  rw [hsent]
  exact filter_map_eq_self fun a ha ↦ ⟨(hl a ha).1.2, (hl a ha).2⟩

/-- What the backend reads as a number is an `i32`. -/
theorem parseI32_range {s : String} {m : Int} (h : parseI32 s = some m) :
    -2 ^ 31 ≤ m ∧ m < 2 ^ 31 := by
  rw [parseI32] at h
  split at h
  split at h
  · cases h
  · dsimp only at h
    split at h
    · rename_i hrange
      obtain rfl := Option.some.inj h
      exact hrange
    · cases h

theorem asMtu_range {v : Json} : ∀ m ∈ asMtu v, -2 ^ 31 ≤ m ∧ m < 2 ^ 31 := by
  intro m hm
  rw [Option.mem_def, asMtu] at hm
  split at hm
  · exact parseI32_range hm
  · obtain ⟨n, -, rfl⟩ := Option.map_eq_some_iff.1 hm
    have hle := Int.le_bmod (x := n) (m := 2 ^ 32) (by omega)
    have hlt := Int.bmod_lt (x := n) (m := 2 ^ 32) (by omega)
    rw [asI32]
    omega
  · cases hm

end VyosFabric
