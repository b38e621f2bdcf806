import VyosFabric.Diff.Nat44
import VyosFabric.Routes.Config

/-!
# The staging routes of the firewall, interface and NAT pages

Each handler reads the live config, diffs it, deletes the pending rows it is about to replace and
inserts the diff. `restageVif` and `restageNat` are the source's two helpers for the last two steps;
they differ in the prefix length their `DELETE` compares.
-/

namespace VyosFabric

open Interaction

/-- One `DELETE` for each filter, in order. -/
def deleteEach (id : Uuid) : List Filter → Handler Unit
  | [] => .ret ()
  | f :: fs => do
    let _ ← sql (.deletePending id f)
    deleteEach id fs

/-! ### Firewall -/

def gatherGlobalOptions (client : VyosClient) : Handler GlobalOptions := do
  let resp ← device (.showConfig client globalOptionsBase)
  if resp.succeeded then return readGlobalOptions (resp.idx "data")
  else .fail (.gateway (errorText resp "device returned an error reading firewall config"))

def stageGlobalOptions (claims : Claims) (id : Uuid) (body : GlobalOptions) :
    Handler Response := do
  let client ← fetchClient claims id
  let live ← gatherGlobalOptions client
  let changes := diffGlobalOptions live body claims.sub
  let _ ← sql (.deletePending id (.sect .firewall))
  let inserted ← insertChanges id changes
  return .changes inserted

/-! ### Interfaces -/

/-- The config map of one interface type. An empty `interfaces` node reads as `Null`. -/
def interfaceConfig (claims : Claims) (id : Uuid) (kind : String) : Handler Json := do
  let client ← fetchClient claims id
  let resp ← device (.showConfig client ["interfaces"])
  if resp.succeeded then return (resp.idx "data").idx kind
  else
    let err := errorText resp ""
    if saysEmpty err then return .null
    else .fail (.gateway (if err = "" then "device returned an error reading interfaces" else err))

def stageEthernet (claims : Claims) (id : Uuid) (body : EthernetConfigUpdate) :
    Handler Response :=
  if trim body.name = "" then .fail (.badRequest "interface name is required")
  else do
    let eth ← interfaceConfig claims id "ethernet"
    let changes := diffEthernet eth body claims.sub
    let _ ← sql (.deletePending id (.nic (ethBase body.name)))
    let inserted ← insertChanges id changes
    return .changes inserted

/-- Replace any pending changes already targeting `vifBase` paths, then stage `changes`. -/
def restageVif (id : Uuid) (targets : List Path) (changes : List NewConfigChange) :
    Handler (List ConfigChange) := do
  deleteEach id (targets.map .vif)
  insertChanges id changes

/-- The target vif, and the original on a move. -/
def vifTargets (body : VlanConfigUpdate) : List Path :=
  vifBase body.parent body.vlanId ::
    match body.movedFrom with
    | some (op, ovid) => [vifBase op ovid]
    | none => []

def stageVlan (claims : Claims) (id : Uuid) (body : VlanConfigUpdate) : Handler Response :=
  if ¬ (1 ≤ body.vlanId ∧ body.vlanId ≤ 4094) then
    .fail (.badRequest "VLAN ID must be between 1 and 4094")
  else do
    let eth ← interfaceConfig claims id "ethernet"
    let changes := diffVlan eth body claims.sub
    let inserted ← restageVif id (vifTargets body) changes
    return .changes inserted

def deleteVlan (claims : Claims) (id : Uuid) (body : VlanDelete) : Handler Response := do
  authorizeRouter claims id
  let base := vifBase body.parent body.vlanId
  let change : NewConfigChange :=
    ⟨.delete, base, s!"Delete VLAN {body.parent}.{body.vlanId.repr}", .interfaces, some claims.sub⟩
  let inserted ← restageVif id [base] [change]
  return .changes inserted

/-! ### NAT44 -/

/-- A top-level config subtree, `Null` when empty. -/
def fetchNode (client : VyosClient) (path : Path) : Handler Json := do
  let resp ← device (.showConfig client path)
  if resp.succeeded then return resp.idx "data"
  else
    let err := errorText resp ""
    if saysEmpty err then return .null
    else if err = "" then .fail (.gateway "device returned an error reading NAT")
    else .fail (.gateway err)

/-- Replace any pending changes already targeting the given rule base paths, then stage
`changes`. -/
def restageNat (id : Uuid) (targets : List Path) (changes : List NewConfigChange) :
    Handler (List ConfigChange) := do
  deleteEach id (targets.map .rule)
  insertChanges id changes

/-- The section is one of the two that exist. -/
def validSection (sect : String) : Bool := sect == "source" || sect == "destination"

/-- The rule number is in range. -/
def validRule (rule : ℕ) : Bool := 1 ≤ rule && rule ≤ 999999

/-- The base paths of rule `rule` in the given sections, and of its original on a renumber. -/
def ruleTargets (sects : List String) (rule : ℕ) (originalRule : Option ℕ) : List Path :=
  (sects.map fun s ↦ ruleBase s rule) ++
    match renumberedFrom rule originalRule with
    | some o => sects.map fun s ↦ ruleBase s o
    | none => []

def stageNat44 (claims : Claims) (id : Uuid) (body : Nat44RuleUpdate) : Handler Response :=
  if ¬ validSection body.sect then
    .fail (.badRequest "section must be 'source' or 'destination'")
  else if ¬ validRule body.rule then
    .fail (.badRequest "rule number must be between 1 and 999999")
  else do
    let client ← fetchClient claims id
    let data ← fetchNode client ["nat"]
    let changes := diffNat44 data body claims.sub
    let inserted ← restageNat id (ruleTargets [body.sect] body.rule body.originalRule) changes
    return .changes inserted

def deleteNat44 (claims : Claims) (id : Uuid) (body : Nat44RuleDelete) : Handler Response :=
  if ¬ validSection body.sect then
    .fail (.badRequest "section must be 'source' or 'destination'")
  else do
    authorizeRouter claims id
    let base := ruleBase body.sect body.rule
    let change : NewConfigChange :=
      ⟨.delete, base, s!"Delete {prettySection body.sect} NAT rule {body.rule.repr}", .nat,
        some claims.sub⟩
    let inserted ← restageNat id [base] [change]
    return .changes inserted

def stageStatic (claims : Claims) (id : Uuid) (body : StaticNatUpdate) : Handler Response :=
  if ¬ validRule body.rule then
    .fail (.badRequest "rule number must be between 1 and 999999")
  else do
    let client ← fetchClient claims id
    let data ← fetchNode client ["nat"]
    let pair := staticPair body
    let changes := diffNat44 data pair.1 claims.sub ++ diffNat44 data pair.2 claims.sub
    let inserted ←
      restageNat id (ruleTargets ["source", "destination"] body.rule body.originalRule) changes
    return .changes inserted

def deleteStatic (claims : Claims) (id : Uuid) (body : StaticNatDelete) : Handler Response := do
  authorizeRouter claims id
  let src := ruleBase "source" body.rule
  let dst := ruleBase "destination" body.rule
  let changes : List NewConfigChange :=
    [⟨.delete, src, s!"Delete 1-to-1 NAT rule {body.rule.repr} (source)", .nat, some claims.sub⟩,
      ⟨.delete, dst, s!"Delete 1-to-1 NAT rule {body.rule.repr} (destination)", .nat,
        some claims.sub⟩]
  let inserted ← restageNat id [src, dst] changes
  return .changes inserted

end VyosFabric
