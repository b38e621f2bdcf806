import VyosFabric.Diff.System

/-!
# The ethernet and VLAN diffs

`diff_ethernet` and `diff_vlan` with the readers they use. The two share the description, address,
MTU and enabled-state parts; the VLAN diff can also move a sub-interface, which drops the old node
and compares the new one with nothing.

The source tracks whether a `set` was emitted in a flag of its own, so that a new node with nothing
else configured is still created; here the flag is read off the commands (`emitsSet`).
-/

namespace VyosFabric

/-- A command of the list creates nodes. -/
def emitsSet (l : List NewConfigChange) : Bool := l.any fun c ↦ c.op == .set

/-! ### Readers -/

/-- The `mtu` of a node: a string that parses, or a number narrowed to 32 bits. -/
def asMtu (v : Json) : Option Int :=
  match v.get "mtu" with
  | some (.str s) => parseI32 (trim s)
  | some n => n.asI64.map asI32
  | none => none

/-- A multi-value `address` node is a string when it holds one value and an array when it holds
several. -/
def asAddresses (v : Json) : List String :=
  match v.get "address" with
  | some (.str s) => [s]
  | some (.arr l) => l.filterMap Json.asStr
  | _ => []

/-! ### The parts both diffs share -/

/-- The address part: additions in the order of the request, then removals in the live order. -/
def addressDiff (mk : Op → Path → String → NewConfigChange) (path : Path) (name : String)
    (live desired : List String) : List NewConfigChange :=
  ((desired.filter fun a ↦ a ∉ live).map fun a ↦
      mk .set (path ++ ["address", a]) s!"{name}: add address {a}") ++
    (live.filter fun a ↦ a ∉ desired).map fun a ↦
      mk .delete (path ++ ["address", a]) s!"{name}: remove address {a}"

/-- The MTU part. -/
def mtuDiff (mk : Op → Path → String → NewConfigChange) (path : Path) (name : String)
    (live desired : Option Int) : List NewConfigChange :=
  if desired = live then []
  else
    match desired with
    | some m => [mk .set (path ++ ["mtu", m.repr]) s!"{name}: MTU → {m.repr}"]
    | none => [mk .delete (path ++ ["mtu"]) s!"{name}: remove MTU"]

/-- The enabled-state part: `disable` is a valueless leaf, and new nodes default up. -/
def enabledDiff (mk : Op → Path → String → NewConfigChange) (path : Path) (name : String)
    (live desired : Bool) : List NewConfigChange :=
  if desired = live then []
  else if desired then [mk .delete (path ++ ["disable"]) s!"{name}: enable"]
  else [mk .set (path ++ ["disable"]) s!"{name}: disable"]

/-! ### Ethernet -/

/-- Desired physical ethernet config from the UI. -/
structure EthernetConfigUpdate where
  name : String
  description : Option String
  addresses : List String
  mtu : Option Int
  speed : Option String
  duplex : Option String
  enabled : Bool
  deriving DecidableEq, Repr

/-- Config path of a physical ethernet node. -/
def ethBase (name : String) : Path := ["interfaces", "ethernet", name]

/-- Diff a desired ethernet config against the live config into a minimal set/delete list. -/
def diffEthernet (eth : Json) (u : EthernetConfigUpdate) (author : Uuid) : List NewConfigChange :=
  let live := eth.get u.name
  let base := ethBase u.name
  let mk (op : Op) (path : Path) (summary : String) : NewConfigChange :=
    ⟨op, path, summary, .interfaces, some author⟩
  let out :=
    leafDiff mk (base ++ ["description"]) (live.bind fun v ↦ v.childStr "description")
      (trimmed u.description) (fun d ↦ s!"{u.name}: description → {d}")
      s!"{u.name}: remove description" ++
    addressDiff mk base u.name ((live.map asAddresses).getD []) (trimmedList u.addresses) ++
    mtuDiff mk base u.name (live.bind asMtu) u.mtu ++
    leafDiff mk (base ++ ["speed"]) (live.bind fun v ↦ v.childStr "speed") (trimmed u.speed)
      (fun s ↦ s!"{u.name}: speed → {s}") s!"{u.name}: speed → auto" ++
    leafDiff mk (base ++ ["duplex"]) (live.bind fun v ↦ v.childStr "duplex") (trimmed u.duplex)
      (fun d ↦ s!"{u.name}: duplex → {d}") s!"{u.name}: duplex → auto" ++
    enabledDiff mk base u.name ((live.map Json.isEnabled).getD true) u.enabled
  -- a previously unconfigured NIC with nothing else to set still needs its node
  if live.isNone && !emitsSet out then out ++ [mk .set base s!"Configure {u.name}"] else out

/-! ### VLAN -/

/-- Desired VLAN sub-interface config from the UI. -/
structure VlanConfigUpdate where
  parent : String
  vlanId : Int
  description : Option String
  addresses : List String
  mtu : Option Int
  enabled : Bool
  originalParent : Option String
  originalVlanId : Option Int
  deriving DecidableEq, Repr

/-- Identity of a VLAN sub-interface to drop. -/
structure VlanDelete where
  parent : String
  vlanId : Int
  deriving DecidableEq, Repr

/-- Config path of a VLAN sub-interface node. -/
def vifBase (parent : String) (vid : Int) : Path :=
  ["interfaces", "ethernet", parent, "vif", vid.repr]

/-- The live config object for one vif. -/
def liveVif (eth : Json) (parent : String) (vid : Int) : Option Json :=
  ((eth.get parent).bind fun p ↦ p.get "vif").bind fun v ↦ v.get vid.repr

/-- The original identity of an update that changes parent or id. -/
def VlanConfigUpdate.movedFrom (u : VlanConfigUpdate) : Option (String × Int) :=
  match u.originalParent, u.originalVlanId with
  | some op, some ovid => if op ≠ u.parent ∨ ovid ≠ u.vlanId then some (op, ovid) else none
  | _, _ => none

/-- Diff a desired VLAN against the live ethernet config into a minimal set/delete list. -/
def diffVlan (eth : Json) (u : VlanConfigUpdate) (author : Uuid) : List NewConfigChange :=
  let name := s!"{u.parent}.{u.vlanId.repr}"
  let mk (op : Op) (path : Path) (summary : String) : NewConfigChange :=
    ⟨op, path, summary, .interfaces, some author⟩
  let drop := match u.movedFrom with
    | some (op, ovid) => [mk .delete (vifBase op ovid) s!"Delete VLAN {op}.{ovid.repr}"]
    | none => []
  -- after a move the target is brand new, so diff against an empty live config
  let live := if u.movedFrom.isSome then none else liveVif eth u.parent u.vlanId
  let base := vifBase u.parent u.vlanId
  let out :=
    leafDiff mk (base ++ ["description"]) (live.bind fun v ↦ v.childStr "description")
      (trimmed u.description) (fun d ↦ s!"{name}: description → {d}")
      s!"{name}: remove description" ++
    addressDiff mk base name ((live.map asAddresses).getD []) (trimmedList u.addresses) ++
    mtuDiff mk base name (live.bind asMtu) u.mtu ++
    enabledDiff mk base name ((live.map Json.isEnabled).getD true) u.enabled
  drop ++
    if live.isNone && !emitsSet out then out ++ [mk .set base s!"Create VLAN {name}"] else out

end VyosFabric
