import VyosFabric.Model.Database

/-!
# The system and global-options diffs

`diff_system` and `diff_global_options`, with the snapshots they compare against. Both compute a
list of `set` and `delete` commands that turn the live values into the desired ones; every command
carries its page's section and the requesting user.

`leafDiff` is the comparison of one optional value that the global-options, interface and NAT diffs
all make: nothing when the two agree, a `set` of the desired value, or a `delete` of the leaf.
-/

namespace VyosFabric

/-- The diff of one optional leaf at `path`, whose desired value `v` is written as `path ++ [v]`. -/
def leafDiff (mk : Op → Path → String → NewConfigChange) (path : Path)
    (live desired : Option String)
    (setText : String → String) (unsetText : String) : List NewConfigChange :=
  if desired = live then []
  else
    match desired with
    | some v => [mk .set (path ++ [v]) (setText v)]
    | none => [mk .delete path unsetText]

/-- The diff of a valueless leaf at `path`. -/
def flagDiff (mk : Op → Path → String → NewConfigChange) (path : Path) (live desired : Bool)
    (setText unsetText : String) : List NewConfigChange :=
  if desired = live then []
  else if desired then [mk .set path setText]
  else [mk .delete path unsetText]

/-! ### System -/

/-- The desired system config of a request. -/
structure SystemConfigUpdate where
  hostname : Option String
  domainName : Option String
  timeZone : Option String
  ntpEnabled : Option Bool
  ntpServers : Option (List String)
  deriving DecidableEq, Repr

/-- Snapshot of the device's current system config. -/
structure LiveSystem where
  hostname : Option String
  domainName : Option String
  timeZone : Option String
  ntpEnabled : Bool
  ntpServers : List String
  ntpBase : Path
  deriving DecidableEq, Repr

/-- NTP config lives under `system ntp` on 1.3 and `service ntp` on 1.4+. -/
def ntpBase (client : VyosClient) : Path :=
  match client.version with
  | .v1_3 => ["system", "ntp"]
  | _ => ["service", "ntp"]

/-- The snapshot `gather` builds from the `system` subtree and the NTP subtree. -/
def readSystem (data ntpValue : Json) (base : Path) : LiveSystem where
  hostname := data.childStr "host-name"
  domainName := data.childStr "domain-name"
  timeZone := data.childStr "time-zone"
  ntpEnabled := !ntpValue.isNull
  ntpServers := (((ntpValue.idx "server").asObject.getD []).map Prod.fst).insertionSort (· ≤ ·)
  ntpBase := base

/-- The NTP part of the diff: the whole node goes when NTP is being disabled, and otherwise the
server set is compared when an explicit list is provided. -/
def diffNtp (mk : Op → Path → String → NewConfigChange) (live : LiveSystem)
    (update : SystemConfigUpdate) : List NewConfigChange :=
  if update.ntpEnabled = some false then
    if live.ntpEnabled then [mk .delete live.ntpBase "Disable NTP"] else []
  else
    match update.ntpServers with
    | none => []
    | some servers =>
      let desired := trimmedList servers
      ((desired.filter fun srv ↦ srv ∉ live.ntpServers).map fun srv ↦
          mk .set (live.ntpBase ++ ["server", srv]) s!"Add NTP server {srv}") ++
        (live.ntpServers.filter fun srv ↦ srv ∉ desired).map fun srv ↦
          mk .delete (live.ntpBase ++ ["server", srv]) s!"Remove NTP server {srv}"

/-- Compute the minimal set/delete command list to turn `live` into the desired `update`. -/
def diffSystem (live : LiveSystem) (update : SystemConfigUpdate) (author : Uuid) :
    List NewConfigChange :=
  let mk (op : Op) (path : Path) (summary : String) : NewConfigChange :=
    ⟨op, path, summary, .system, some author⟩
  let hostname := match update.hostname.map trim with
    | none => []
    | some hostname =>
      if hostname ≠ "" ∧ some hostname ≠ live.hostname then
        [mk .set ["system", "host-name", hostname] s!"Hostname → {hostname}"]
      else []
  let domain := match update.domainName.map trim with
    | none => []
    | some domain =>
      if domain = "" then
        if live.domainName.isSome then
          [mk .delete ["system", "domain-name"] "Remove domain name"]
        else []
      else if some domain ≠ live.domainName then
        [mk .set ["system", "domain-name", domain] s!"Domain name → {domain}"]
      else []
  let timeZone := match update.timeZone.map trim with
    | none => []
    | some tz =>
      if tz ≠ "" ∧ some tz ≠ live.timeZone then
        [mk .set ["system", "time-zone", tz] s!"Time zone → {tz}"]
      else []
  hostname ++ domain ++ timeZone ++ diffNtp mk live update

/-! ### Firewall global options -/

/-- A live state-policy entry: an action plus optional logging. -/
structure StatePolicyEntry where
  action : Option String
  log : Bool
  logLevel : Option String
  deriving DecidableEq, Repr

/-- The desired entry has the same fields as the live one. -/
abbrev StatePolicyEntryUpdate : Type := StatePolicyEntry

structure StatePolicy where
  established : StatePolicyEntry
  related : StatePolicyEntry
  invalid : StatePolicyEntry
  deriving DecidableEq, Repr

/-- The simple single-value options, in the order of the diff. -/
def singleKeys : List String :=
  ["all-ping", "broadcast-ping", "directed-broadcast", "ip-src-route", "ipv6-src-route",
    "ipv6-receive-redirects", "receive-redirects", "send-redirects", "log-martians",
    "syn-cookies", "twa-hazards-protection", "apply-to-bridge", "source-validation",
    "ipv6-source-validation"]

/-- `GlobalOptionsConfig`, and with the same fields `GlobalOptionsUpdate`. -/
structure GlobalOptions where
  allPing : Option String
  broadcastPing : Option String
  directedBroadcast : Option String
  ipSrcRoute : Option String
  ipv6SrcRoute : Option String
  ipv6ReceiveRedirects : Option String
  receiveRedirects : Option String
  sendRedirects : Option String
  logMartians : Option String
  synCookies : Option String
  twaHazardsProtection : Option String
  applyToBridge : Option String
  sourceValidation : Option String
  ipv6SourceValidation : Option String
  resolverCache : Bool
  resolverInterval : Option String
  statePolicy : StatePolicy
  deriving DecidableEq, Repr

/-- The single-value options of a config, in the order of `singleKeys`. -/
def GlobalOptions.singles (g : GlobalOptions) : List (Option String) :=
  [g.allPing, g.broadcastPing, g.directedBroadcast, g.ipSrcRoute, g.ipv6SrcRoute,
    g.ipv6ReceiveRedirects, g.receiveRedirects, g.sendRedirects, g.logMartians, g.synCookies,
    g.twaHazardsProtection, g.applyToBridge, g.sourceValidation, g.ipv6SourceValidation]

/-- One entry of the live state policy; an absent node reads as no policy. -/
def readStateEntry (sp : Json) (state : String) : StatePolicyEntry where
  action := sp.nestedStr state "action"
  log := ((sp.get state).bind fun e ↦ e.get "log").isSome
  logLevel := ((sp.get state).bind fun e ↦ e.get "log-options").bind fun lo ↦ lo.childStr "level"

/-- What `gather_global_options` reads from the `firewall global-options` subtree. -/
def readGlobalOptions (data : Json) : GlobalOptions where
  allPing := data.childStr "all-ping"
  broadcastPing := data.childStr "broadcast-ping"
  directedBroadcast := data.childStr "directed-broadcast"
  ipSrcRoute := data.childStr "ip-src-route"
  ipv6SrcRoute := data.childStr "ipv6-src-route"
  ipv6ReceiveRedirects := data.childStr "ipv6-receive-redirects"
  receiveRedirects := data.childStr "receive-redirects"
  sendRedirects := data.childStr "send-redirects"
  logMartians := data.childStr "log-martians"
  synCookies := data.childStr "syn-cookies"
  twaHazardsProtection := data.childStr "twa-hazards-protection"
  applyToBridge := data.childStr "apply-to-bridge"
  sourceValidation := data.childStr "source-validation"
  ipv6SourceValidation := data.childStr "ipv6-source-validation"
  resolverCache := (data.get "resolver-cache").isSome
  resolverInterval := data.childStr "resolver-interval"
  statePolicy :=
    match data.get "state-policy" with
    | none => ⟨⟨none, false, none⟩, ⟨none, false, none⟩, ⟨none, false, none⟩⟩
    | some sp =>
      ⟨readStateEntry sp "established", readStateEntry sp "related", readStateEntry sp "invalid"⟩

/-- `firewall global-options`. -/
def globalOptionsBase : Path := ["firewall", "global-options"]

/-- The diff of one state-policy entry. Clearing a state's action removes the whole state node;
the log flag and level are compared only while the state has an action. -/
def diffStateEntry (mk : Op → Path → String → NewConfigChange) (state : String)
    (live : StatePolicyEntry) (desired : StatePolicyEntryUpdate) : List NewConfigChange :=
  let node := globalOptionsBase ++ ["state-policy", state]
  match trimmed desired.action with
  | none =>
    if live.action.isSome then [mk .delete node s!"Unset {state} state-policy"] else []
  | some action =>
    (if some action ≠ live.action then
        [mk .set (node ++ ["action", action]) s!"{state} state-policy → {action}"]
      else []) ++
    flagDiff mk (node ++ ["log"]) live.log desired.log s!"Enable {state} state-policy log"
      s!"Disable {state} state-policy log" ++
    leafDiff mk (node ++ ["log-options", "level"]) live.logLevel (trimmed desired.logLevel)
      (fun level ↦ s!"{state} state-policy log level → {level}")
      s!"Unset {state} state-policy log level"

/-- Compute the minimal set/delete command list to turn `live` into `update`. -/
def diffGlobalOptions (live update : GlobalOptions) (author : Uuid) : List NewConfigChange :=
  let mk (op : Op) (path : Path) (summary : String) : NewConfigChange :=
    ⟨op, path, summary, .firewall, some author⟩
  let leaf (key : String) (liveV desired : Option String) : List NewConfigChange :=
    leafDiff mk (globalOptionsBase ++ [key]) liveV (trimmed desired) (fun v ↦ s!"{key} → {v}")
      s!"Unset {key}"
  (singleKeys.zip (live.singles.zip update.singles)).flatMap (fun x ↦ leaf x.1 x.2.1 x.2.2) ++
    flagDiff mk (globalOptionsBase ++ ["resolver-cache"]) live.resolverCache update.resolverCache
      "Enable resolver-cache" "Disable resolver-cache" ++
    leaf "resolver-interval" live.resolverInterval update.resolverInterval ++
    diffStateEntry mk "established" live.statePolicy.established update.statePolicy.established ++
    diffStateEntry mk "related" live.statePolicy.related update.statePolicy.related ++
    diffStateEntry mk "invalid" live.statePolicy.invalid update.statePolicy.invalid

end VyosFabric
