import VyosFabric.Routes.Staging

/-!
# Requests

Every request of the review system in one type. The nine staging and delete requests (`Edit`) all
have one shape: look at the device, compute a diff, and `restage`, that is, clear the pending rows
they replace and insert the diff. `Edit.handle_eq` proves the handlers equal to that shape, after
which nothing about a single page is needed to reason about its writes: `Edit.filters` says which
rows a request clears and `Edit.diff` computes which rows it inserts.
-/

namespace VyosFabric

open Interaction

/-- A staging or delete request with its body. -/
inductive Edit where
  | stageSystem (body : SystemConfigUpdate)
  | stageGlobalOptions (body : GlobalOptions)
  | stageEthernet (body : EthernetConfigUpdate)
  | stageVlan (body : VlanConfigUpdate)
  | deleteVlan (body : VlanDelete)
  | stageNat44 (body : Nat44RuleUpdate)
  | deleteNat44 (body : Nat44RuleDelete)
  | stageStatic (body : StaticNatUpdate)
  | deleteStatic (body : StaticNatDelete)
  deriving DecidableEq

/-- A request on one router. -/
inductive Request where
  | edit (e : Edit)
  | listChanges
  | discardOne (changeId : Uuid)
  | discardAll
  | commit
  | listCommits
  deriving DecidableEq

/-- The handler of a staging or delete request. -/
def Edit.handle (claims : Claims) (id : Uuid) : Edit → Handler Response
  | .stageSystem body => VyosFabric.stageSystem claims id body
  | .stageGlobalOptions body => VyosFabric.stageGlobalOptions claims id body
  | .stageEthernet body => VyosFabric.stageEthernet claims id body
  | .stageVlan body => VyosFabric.stageVlan claims id body
  | .deleteVlan body => VyosFabric.deleteVlan claims id body
  | .stageNat44 body => VyosFabric.stageNat44 claims id body
  | .deleteNat44 body => VyosFabric.deleteNat44 claims id body
  | .stageStatic body => VyosFabric.stageStatic claims id body
  | .deleteStatic body => VyosFabric.deleteStatic claims id body

/-- A request as it arrives: who asks, for which router, and what. -/
structure Call where
  claims : Claims
  id : Uuid
  request : Request
  deriving DecidableEq

def Call.handle (c : Call) : Handler Response :=
  match c.request with
  | .edit e => e.handle c.claims c.id
  | .listChanges => listChanges c.claims c.id
  | .discardOne changeId => discardOne c.claims c.id changeId
  | .discardAll => discardAll c.claims c.id
  | .commit => commit c.claims c.id
  | .listCommits => listCommits c.claims c.id

/-! ### The common shape of staging -/

/-- The pending rows an edit clears before it inserts. -/
def Edit.filters : Edit → List Filter
  | .stageSystem _ => [.sect .system]
  | .stageGlobalOptions _ => [.sect .firewall]
  | .stageEthernet body => [.nic (ethBase body.name)]
  | .stageVlan body => (vifTargets body).map .vif
  | .deleteVlan body => [.vif (vifBase body.parent body.vlanId)]
  | .stageNat44 body => (ruleTargets [body.sect] body.rule body.originalRule).map .rule
  | .deleteNat44 body => [.rule (ruleBase body.sect body.rule)]
  | .stageStatic body =>
    (ruleTargets ["source", "destination"] body.rule body.originalRule).map .rule
  | .deleteStatic body =>
    [.rule (ruleBase "source" body.rule), .rule (ruleBase "destination" body.rule)]

/-- The entities an edit is about, by the filters of their pending rows; the original of a move is
not among them. -/
def Edit.targets : Edit → List Filter
  | .stageSystem _ => [.sect .system]
  | .stageGlobalOptions _ => [.sect .firewall]
  | .stageEthernet body => [.nic (ethBase body.name)]
  | .stageVlan body => [.vif (vifBase body.parent body.vlanId)]
  | .deleteVlan body => [.vif (vifBase body.parent body.vlanId)]
  | .stageNat44 body => [.rule (ruleBase body.sect body.rule)]
  | .deleteNat44 body => [.rule (ruleBase body.sect body.rule)]
  | .stageStatic body =>
    [.rule (ruleBase "source" body.rule), .rule (ruleBase "destination" body.rule)]
  | .deleteStatic body =>
    [.rule (ruleBase "source" body.rule), .rule (ruleBase "destination" body.rule)]

/-- An edit clears its own entities. -/
theorem Edit.targets_subset_filters (e : Edit) : e.targets ⊆ e.filters := by
  intro f hf
  cases e with
  | stageSystem | stageGlobalOptions | stageEthernet | deleteVlan | deleteNat44 | deleteStatic =>
    exact hf
  | stageVlan body =>
    obtain rfl := List.mem_singleton.1 hf
    exact List.mem_cons_self
  | stageNat44 body =>
    obtain rfl := List.mem_singleton.1 hf
    exact List.mem_cons_self
  | stageStatic body =>
    rcases List.mem_pair.1 hf with rfl | rfl
    · exact List.mem_cons_self
    · exact List.mem_cons_of_mem _ List.mem_cons_self

theorem Edit.filters_ne_nil (e : Edit) : e.filters ≠ [] := by
  cases e <;> simp [Edit.filters, vifTargets, ruleTargets]

/-- What an edit does before its first write: the checks, the reads, and the diff. -/
def Edit.diff (claims : Claims) (id : Uuid) : Edit → Handler (List NewConfigChange)
  | .stageSystem body => do
    let client ← fetchClient claims id
    let live ← gather client
    return diffSystem live body claims.sub
  | .stageGlobalOptions body => do
    let client ← fetchClient claims id
    let live ← gatherGlobalOptions client
    return diffGlobalOptions live body claims.sub
  | .stageEthernet body =>
    if trim body.name = "" then .fail (.badRequest "interface name is required")
    else do
      let eth ← interfaceConfig claims id "ethernet"
      return diffEthernet eth body claims.sub
  | .stageVlan body =>
    if ¬ (1 ≤ body.vlanId ∧ body.vlanId ≤ 4094) then
      .fail (.badRequest "VLAN ID must be between 1 and 4094")
    else do
      let eth ← interfaceConfig claims id "ethernet"
      return diffVlan eth body claims.sub
  | .deleteVlan body => do
    authorizeRouter claims id
    return [⟨.delete, vifBase body.parent body.vlanId,
      s!"Delete VLAN {body.parent}.{body.vlanId.repr}", .interfaces, some claims.sub⟩]
  | .stageNat44 body =>
    if ¬ validSection body.sect then
      .fail (.badRequest "section must be 'source' or 'destination'")
    else if ¬ validRule body.rule then
      .fail (.badRequest "rule number must be between 1 and 999999")
    else do
      let client ← fetchClient claims id
      let data ← fetchNode client ["nat"]
      return diffNat44 data body claims.sub
  | .deleteNat44 body =>
    if ¬ validSection body.sect then
      .fail (.badRequest "section must be 'source' or 'destination'")
    else do
      authorizeRouter claims id
      return [⟨.delete, ruleBase body.sect body.rule,
        s!"Delete {prettySection body.sect} NAT rule {body.rule.repr}", .nat, some claims.sub⟩]
  | .stageStatic body =>
    if ¬ validRule body.rule then
      .fail (.badRequest "rule number must be between 1 and 999999")
    else do
      let client ← fetchClient claims id
      let data ← fetchNode client ["nat"]
      let pair := staticPair body
      return diffNat44 data pair.1 claims.sub ++ diffNat44 data pair.2 claims.sub
  | .deleteStatic body => do
    authorizeRouter claims id
    return [⟨.delete, ruleBase "source" body.rule,
        s!"Delete 1-to-1 NAT rule {body.rule.repr} (source)", .nat, some claims.sub⟩,
      ⟨.delete, ruleBase "destination" body.rule,
        s!"Delete 1-to-1 NAT rule {body.rule.repr} (destination)", .nat, some claims.sub⟩]

/-- Clear, then insert one row at a time, and answer with the rows. -/
def restage (id : Uuid) (filters : List Filter) (changes : List NewConfigChange) :
    Handler Response := do
  deleteEach id filters
  let inserted ← insertChanges id changes
  return .changes inserted

/-- **Every staging handler is its diff followed by a restage.** -/
theorem Edit.handle_eq (claims : Claims) (id : Uuid) (e : Edit) :
    e.handle claims id = (e.diff claims id).bind (restage id e.filters) := by
  cases e with
  | stageSystem body =>
    simp only [Edit.handle, Edit.diff, Edit.filters, VyosFabric.stageSystem, restage, deleteEach,
      Prog.bind_eq, Prog.bind_assoc, Prog.pure_eq, Prog.ret_bind]
  | stageGlobalOptions body =>
    simp only [Edit.handle, Edit.diff, Edit.filters, VyosFabric.stageGlobalOptions, restage,
      deleteEach, Prog.bind_eq, Prog.bind_assoc, Prog.pure_eq, Prog.ret_bind]
  | stageEthernet body =>
    rw [Edit.handle, VyosFabric.stageEthernet, Edit.diff]
    split
    · rfl
    · simp only [Edit.filters, restage, deleteEach, Prog.bind_eq, Prog.bind_assoc, Prog.pure_eq,
        Prog.ret_bind]
  | stageVlan body =>
    rw [Edit.handle, VyosFabric.stageVlan, Edit.diff]
    split
    · rfl
    · simp only [Edit.filters, restage, restageVif, Prog.bind_eq, Prog.bind_assoc, Prog.pure_eq,
        Prog.ret_bind]
  | deleteVlan body =>
    simp only [Edit.handle, Edit.diff, Edit.filters, VyosFabric.deleteVlan, restage, restageVif,
      List.map_cons, List.map_nil, Prog.bind_eq, Prog.bind_assoc, Prog.pure_eq, Prog.ret_bind]
  | stageNat44 body =>
    rw [Edit.handle, VyosFabric.stageNat44, Edit.diff]
    split
    · rfl
    · split
      · rfl
      · simp only [Edit.filters, restage, restageNat, Prog.bind_eq, Prog.bind_assoc, Prog.pure_eq,
          Prog.ret_bind]
  | deleteNat44 body =>
    rw [Edit.handle, VyosFabric.deleteNat44, Edit.diff]
    split
    · rfl
    · simp only [Edit.filters, restage, restageNat, List.map_cons, List.map_nil, Prog.bind_eq,
        Prog.bind_assoc, Prog.pure_eq, Prog.ret_bind]
  | stageStatic body =>
    rw [Edit.handle, VyosFabric.stageStatic, Edit.diff]
    split
    · rfl
    · simp only [Edit.filters, restage, restageNat, Prog.bind_eq, Prog.bind_assoc, Prog.pure_eq,
        Prog.ret_bind]
  | deleteStatic body =>
    simp only [Edit.handle, Edit.diff, Edit.filters, VyosFabric.deleteStatic, restage, restageNat,
      List.map_cons, List.map_nil, Prog.bind_eq, Prog.bind_assoc, Prog.pure_eq, Prog.ret_bind]

/-! ### The diffs only look -/

theorem gatherGlobalOptions_shows (client : VyosClient) :
    Shows client (gatherGlobalOptions client) := by
  refine Prog.Issues.bind (device_issues ⟨_, rfl⟩) fun resp ↦ ?_
  show Prog.Issues _ (if _ then _ else _)
  split <;> trivial

/-- The config map of one interface type, once the client is there. -/
def readInterfaces (kind : String) (client : VyosClient) : Handler Json := do
  let resp ← device (.showConfig client ["interfaces"])
  if resp.succeeded then return (resp.idx "data").idx kind
  else
    let err := errorText resp ""
    if saysEmpty err then return .null
    else .fail (.gateway (if err = "" then "device returned an error reading interfaces" else err))

theorem interfaceConfig_eq (claims : Claims) (id : Uuid) (kind : String) :
    interfaceConfig claims id kind = (fetchClient claims id).bind (readInterfaces kind) := rfl

theorem readInterfaces_shows (kind : String) (client : VyosClient) :
    Shows client (readInterfaces kind client) := by
  refine Prog.Issues.bind (device_issues ⟨_, rfl⟩) fun resp ↦ ?_
  show Prog.Issues _ (if _ then _ else _)
  split
  · trivial
  · show Prog.Issues _ (if _ then _ else _)
    split <;> trivial

theorem interfaceConfig_inspects (claims : Claims) (id : Uuid) (kind : String) :
    Inspects (interfaceConfig claims id kind) :=
  Prog.Issues.bind (fetchClient_inspects claims id) fun client ↦
    (readInterfaces_shows kind client).inspects

theorem fetchNode_shows (client : VyosClient) (path : Path) :
    Shows client (fetchNode client path) := by
  refine Prog.Issues.bind (device_issues ⟨_, rfl⟩) fun resp ↦ ?_
  show Prog.Issues _ (if _ then _ else _)
  split
  · trivial
  · show Prog.Issues _ (if _ then _ else _)
    split
    · trivial
    · show Prog.Issues _ (if _ then _ else _)
      split <;> trivial

/-- Before its first `DELETE`, an edit only looks. -/
theorem Edit.diff_inspects (claims : Claims) (id : Uuid) (e : Edit) :
    Inspects (e.diff claims id) := by
  cases e with
  | stageSystem body =>
    exact Prog.Issues.bind (fetchClient_inspects claims id) fun client ↦
      Prog.Issues.bind (gather_shows client).inspects fun _ ↦ trivial
  | stageGlobalOptions body =>
    exact Prog.Issues.bind (fetchClient_inspects claims id) fun client ↦
      Prog.Issues.bind (gatherGlobalOptions_shows client).inspects fun _ ↦ trivial
  | stageEthernet body =>
    rw [Edit.diff]
    split
    · trivial
    · exact Prog.Issues.bind (interfaceConfig_inspects claims id _) fun _ ↦ trivial
  | stageVlan body =>
    rw [Edit.diff]
    split
    · trivial
    · exact Prog.Issues.bind (interfaceConfig_inspects claims id _) fun _ ↦ trivial
  | deleteVlan body => exact Prog.Issues.bind (authorizeRouter_inspects claims id) fun _ ↦ trivial
  | stageNat44 body =>
    rw [Edit.diff]
    split
    · trivial
    · split
      · trivial
      · exact Prog.Issues.bind (fetchClient_inspects claims id) fun client ↦
          Prog.Issues.bind (fetchNode_shows client _).inspects fun _ ↦ trivial
  | deleteNat44 body =>
    rw [Edit.diff]
    split
    · trivial
    · exact Prog.Issues.bind (authorizeRouter_inspects claims id) fun _ ↦ trivial
  | stageStatic body =>
    rw [Edit.diff]
    split
    · trivial
    · exact Prog.Issues.bind (fetchClient_inspects claims id) fun client ↦
        Prog.Issues.bind (fetchNode_shows client _).inspects fun _ ↦ trivial
  | deleteStatic body => exact Prog.Issues.bind (authorizeRouter_inspects claims id) fun _ ↦ trivial

end VyosFabric
