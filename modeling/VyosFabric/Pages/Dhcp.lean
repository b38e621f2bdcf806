import VyosFabric.Interaction.Answers
import VyosFabric.Pages.Listing
import VyosFabric.Routes.Readers
import VyosFabric.Routes.Routers
import VyosFabric.Show.Leases

/-!
# The DHCP servers

The DHCP pages of both protocols read three levels of tag nodes: shared networks, their subnets, and
the ranges and mappings of those. Between versions of the device the nodes moved: a MAC address is a
`mac` or a `mac-address`, a range of the second protocol is named or named after its first address,
and so on. `DhcpServer.Shown` and `Dhcpv6Server.Shown` say in which shapes the pages take a server,
with its keys in any order.

The pages give back what is shown (`parseServers_shown`, `parseV6Servers_shown`), and the leases do
not matter for it: their table is best effort (`getDhcpServer_shown`, `getDhcpv6Server_shown`).
-/

namespace VyosFabric

open Interaction

/-- A DHCP address range within a subnet. -/
structure DhcpRange where
  name : String
  start : Option String
  stop : Option String
  deriving DecidableEq, Repr

/-- A DHCP static (reserved) mapping within a subnet. -/
structure DhcpStaticMapping where
  name : String
  ipAddress : Option String
  macAddress : Option String
  description : Option String
  deriving DecidableEq, Repr

/-- A DHCP subnet under a shared network. -/
structure DhcpSubnet where
  subnet : String
  defaultRouter : Option String
  nameServers : List String
  domainName : Option String
  lease : Option String
  ranges : List DhcpRange
  staticMappings : List DhcpStaticMapping
  deriving DecidableEq, Repr

/-- A shared network. -/
structure DhcpServer where
  name : String
  enabled : Bool
  authoritative : Bool
  description : Option String
  subnets : List DhcpSubnet
  deriving DecidableEq, Repr

/-- The configured shared networks and the operational leases. -/
structure DhcpServerConfig where
  servers : List DhcpServer
  leases : List DhcpLease
  deriving DecidableEq, Repr

/-! ### The second protocol -/

/-- A DHCPv6 address range within a subnet. -/
abbrev Dhcpv6Range : Type := DhcpRange

structure Dhcpv6StaticMapping where
  name : String
  /-- What the mapping is keyed on. -/
  identifier : Option String
  ipv6Address : Option String
  ipv6Prefix : Option String
  description : Option String
  deriving DecidableEq, Repr

structure Dhcpv6Subnet where
  subnet : String
  nameServers : List String
  domainSearch : List String
  lease : Option String
  ranges : List Dhcpv6Range
  staticMappings : List Dhcpv6StaticMapping
  deriving DecidableEq, Repr

structure Dhcpv6Server where
  name : String
  enabled : Bool
  description : Option String
  subnets : List Dhcpv6Subnet
  deriving DecidableEq, Repr

structure Dhcpv6ServerConfig where
  servers : List Dhcpv6Server
  leases : List DhcpLease
  deriving DecidableEq, Repr

/-! ### Parsing -/

/-- A range by its name. -/
def rangeRow (name : String) (r : Json) : DhcpRange := ⟨name, r.childStr "start", r.childStr "stop"⟩

/-- A range by its first address. -/
def startRow (start : String) (r : Json) : DhcpRange := ⟨start, some start, r.childStr "stop"⟩

def parseRanges (subnet : Json) : List DhcpRange :=
  listing DhcpRange.name rangeRow (subnet.idx "range")

def parseStaticMappings (subnet : Json) : List DhcpStaticMapping :=
  listing DhcpStaticMapping.name
    (fun name sm ↦
      { name := name
        ipAddress := sm.childStr "ip-address"
        -- 1.4+ uses `mac`, 1.3 used `mac-address`
        macAddress := (sm.childStr "mac").or (sm.childStr "mac-address")
        description := sm.childStr "description" })
    (subnet.idx "static-mapping")

def parseSubnets (network : Json) : List DhcpSubnet :=
  listing DhcpSubnet.subnet
    (fun cidr s ↦
      { subnet := cidr
        defaultRouter := (s.childStr "default-router").or (s.strList "option").head?
        nameServers := s.strList "name-server"
        domainName := s.childStr "domain-name"
        lease := s.childStr "lease"
        ranges := parseRanges s
        staticMappings := parseStaticMappings s })
    (network.idx "subnet")

def parseServers (data : Json) : List DhcpServer :=
  listing DhcpServer.name
    (fun name net ↦
      { name := name
        enabled := net.isEnabled
        authoritative := net.has "authoritative"
        description := net.childStr "description"
        subnets := parseSubnets net })
    (data.idx "shared-network-name")

def parseV6Ranges (subnet : Json) : List Dhcpv6Range :=
  -- 1.4 style: `range <name> { start; stop }`
  let named := (subnet.idx "range").entries.map fun x ↦ rangeRow x.1 x.2
  -- 1.3 style: `address-range { start <addr> { stop <addr> } }`
  let started := ((subnet.idx "address-range").idx "start").entries.map fun x ↦ startRow x.1 x.2
  arrange DhcpRange.name (named ++ started)

def parseV6StaticMappings (subnet : Json) : List Dhcpv6StaticMapping :=
  listing Dhcpv6StaticMapping.name
    (fun name sm ↦
      { name := name
        identifier := ((sm.childStr "mac").or (sm.childStr "mac-address")).or
          (sm.childStr "identifier")
        ipv6Address := sm.childStr "ipv6-address"
        ipv6Prefix := sm.childStr "ipv6-prefix"
        description := sm.childStr "description" })
    (subnet.idx "static-mapping")

def parseV6Subnets (network : Json) : List Dhcpv6Subnet :=
  listing Dhcpv6Subnet.subnet
    (fun cidr s ↦
      { subnet := cidr
        nameServers := s.strList "name-server"
        domainSearch := s.strList "domain-search"
        -- 1.x nests as `lease-time default <n>`; fall back to a flat `lease`
        lease := (s.nestedStr "lease-time" "default").or (s.childStr "lease")
        ranges := parseV6Ranges s
        staticMappings := parseV6StaticMappings s })
    (network.idx "subnet")

def parseV6Servers (data : Json) : List Dhcpv6Server :=
  listing Dhcpv6Server.name
    (fun name net ↦
      { name := name
        enabled := net.isEnabled
        description := net.childStr "description"
        subnets := parseV6Subnets net })
    (data.idx "shared-network-name")

/-! ### Handlers -/

/-- `VyosClient::show`. -/
abbrev VyosClient.show (client : VyosClient) (path : Path) : FabricStatement :=
  .post client "/show" (.obj [("op", .str "show"), ("path", .arr (path.map .str))])

/-- The leases of a reply. -/
def leasesOf : Except Fault Json → List DhcpLease
  | .ok resp => ((resp.idx "data").asStr.map parseLeases).getD []
  | .error _ => []

/-- The config comes first; the leases are operational and best effort. -/
def getDhcpServer (claims : Claims) (id : Uuid) : FabricHandler DhcpServerConfig := do
  let client ← (fetchClient claims id).lift
  let data ← (configNode client ["service"] "dhcp-server").lift
  let leases ← result (client.show ["dhcp", "server", "leases"])
  return ⟨parseServers data, leasesOf leases⟩

def getDhcpv6Server (claims : Claims) (id : Uuid) : FabricHandler Dhcpv6ServerConfig := do
  let client ← (fetchClient claims id).lift
  let data ← (configNode client ["service"] "dhcpv6-server").lift
  let leases ← result (client.show ["dhcpv6", "server", "leases"])
  return ⟨parseV6Servers data, leasesOf leases⟩

/-! ### How a device shows a server -/

def DhcpRange.Shown (r : DhcpRange) (c : Json) : Prop :=
  c.ShowsText "start" r.start ∧ c.ShowsText "stop" r.stop

structure DhcpStaticMapping.Shown (m : DhcpStaticMapping) (c : Json) : Prop where
  ipAddress : c.ShowsText "ip-address" m.ipAddress
  macAddress : c.ShowsOneOf ["mac", "mac-address"] m.macAddress
  description : c.ShowsText "description" m.description

/-- The router is the `default-router`, or else the first value of `option`. Where `option` is a
branch, as on devices that name their options below it, the page takes no router from there, and
this counts as none. -/
def ShowsRouter (c : Json) (router : Option String) : Prop :=
  ∃ leaf options, c.ShowsText "default-router" leaf ∧
    (c.ShowsTexts "option" options ∨ options = [] ∧ ∃ m, c.get "option" = some (.obj m)) ∧
      router = leaf.or options.head?

structure DhcpSubnet.Shown (s : DhcpSubnet) (c : Json) : Prop where
  defaultRouter : ShowsRouter c s.defaultRouter
  nameServers : c.ShowsTexts "name-server" s.nameServers
  domainName : c.ShowsText "domain-name" s.domainName
  lease : c.ShowsText "lease" s.lease
  ranges : c.ShowsRows DhcpRange.name DhcpRange.Shown "range" s.ranges
  staticMappings : c.ShowsRows DhcpStaticMapping.name DhcpStaticMapping.Shown "static-mapping"
    s.staticMappings

/-- Valueless nodes show by being there. -/
structure DhcpServer.Shown (s : DhcpServer) (c : Json) : Prop where
  enabled : c.has "disable" = !s.enabled
  authoritative : c.has "authoritative" = s.authoritative
  description : c.ShowsText "description" s.description
  subnets : c.ShowsRows DhcpSubnet.subnet DhcpSubnet.Shown "subnet" s.subnets

/-- Ranges with a name of their own, then those named after their first address. -/
def ShowsV6Ranges (c : Json) (ranges : List Dhcpv6Range) : Prop :=
  ∃ named started, ranges = named ++ started ∧ (ranges.map DhcpRange.name).Nodup ∧
    c.ShowsRows DhcpRange.name DhcpRange.Shown "range" named ∧
      (c.idx "address-range").ShowsRows DhcpRange.name
        (fun r b ↦ r.start = some r.name ∧ b.ShowsText "stop" r.stop) "start" started

structure Dhcpv6StaticMapping.Shown (m : Dhcpv6StaticMapping) (c : Json) : Prop where
  identifier : c.ShowsOneOf ["mac", "mac-address", "identifier"] m.identifier
  ipv6Address : c.ShowsText "ipv6-address" m.ipv6Address
  ipv6Prefix : c.ShowsText "ipv6-prefix" m.ipv6Prefix
  description : c.ShowsText "description" m.description

/-- The lease is a leaf, or the default of the lease times. -/
def ShowsV6Lease (c : Json) (lease : Option String) : Prop :=
  c.get "lease-time" = none ∧ c.ShowsText "lease" lease ∨
    c.get "lease" = none ∧
      ∃ times, c.get "lease-time" = some times ∧ times.ShowsText "default" lease

structure Dhcpv6Subnet.Shown (s : Dhcpv6Subnet) (c : Json) : Prop where
  nameServers : c.ShowsTexts "name-server" s.nameServers
  domainSearch : c.ShowsTexts "domain-search" s.domainSearch
  lease : ShowsV6Lease c s.lease
  ranges : ShowsV6Ranges c s.ranges
  staticMappings : c.ShowsRows Dhcpv6StaticMapping.name Dhcpv6StaticMapping.Shown "static-mapping"
    s.staticMappings

structure Dhcpv6Server.Shown (s : Dhcpv6Server) (c : Json) : Prop where
  enabled : c.has "disable" = !s.enabled
  description : c.ShowsText "description" s.description
  subnets : c.ShowsRows Dhcpv6Subnet.subnet Dhcpv6Subnet.Shown "subnet" s.subnets

/-! ### Everything by name -/

def DhcpSubnet.arranged (s : DhcpSubnet) : DhcpSubnet :=
  { s with
    ranges := arrange DhcpRange.name s.ranges
    staticMappings := arrange DhcpStaticMapping.name s.staticMappings }

def DhcpServer.arranged (s : DhcpServer) : DhcpServer :=
  { s with subnets := arrange DhcpSubnet.subnet (s.subnets.map DhcpSubnet.arranged) }

def Dhcpv6Subnet.arranged (s : Dhcpv6Subnet) : Dhcpv6Subnet :=
  { s with
    ranges := arrange DhcpRange.name s.ranges
    staticMappings := arrange Dhcpv6StaticMapping.name s.staticMappings }

def Dhcpv6Server.arranged (s : Dhcpv6Server) : Dhcpv6Server :=
  { s with subnets := arrange Dhcpv6Subnet.subnet (s.subnets.map Dhcpv6Subnet.arranged) }

/-! ### The pages give back what is shown -/

section Parsed

variable {c : Json}

theorem isEnabled_of_has {enabled : Bool} (h : c.has "disable" = !enabled) :
    c.isEnabled = enabled := by
  rw [Json.isEnabled, ← Option.not_isSome, ← Json.has, h, Bool.not_not]

theorem parseRanges_shown {ranges : List DhcpRange}
    (h : c.ShowsRows DhcpRange.name DhcpRange.Shown "range" ranges) :
    parseRanges c = arrange DhcpRange.name ranges := by
  refine listing_of_shows h (fun _ _ ↦ rfl) fun r _ b hshown ↦ ?_
  rw [rangeRow, Json.childStr_of_showsText hshown.1, Json.childStr_of_showsText hshown.2]

theorem parseStaticMappings_shown {mappings : List DhcpStaticMapping}
    (h : c.ShowsRows DhcpStaticMapping.name DhcpStaticMapping.Shown "static-mapping" mappings) :
    parseStaticMappings c = arrange DhcpStaticMapping.name mappings := by
  refine listing_of_shows h (fun _ _ ↦ rfl) fun m _ b hshown ↦ ?_
  have hmac := Json.findSome_of_showsOneOf hshown.macAddress
  rw [Json.findSome_cons_childStr, Json.findSome_cons_childStr, List.findSome?_nil,
    Option.or_none] at hmac
  rw [hmac, Json.childStr_of_showsText hshown.ipAddress,
    Json.childStr_of_showsText hshown.description]

theorem router_shown {router : Option String} (h : ShowsRouter c router) :
    (c.childStr "default-router").or (c.strList "option").head? = router := by
  obtain ⟨leaf, options, hleaf, hoptions, rfl⟩ := h
  rw [Json.childStr_of_showsText hleaf]
  rcases hoptions with hoptions | ⟨rfl, m, hget⟩
  · rw [Json.strList_of_showsTexts hoptions]
  · rw [Json.strList, hget]

theorem parseSubnets_shown {subnets : List DhcpSubnet}
    (h : c.ShowsRows DhcpSubnet.subnet DhcpSubnet.Shown "subnet" subnets) :
    parseSubnets c = arrange DhcpSubnet.subnet (subnets.map DhcpSubnet.arranged) := by
  refine listing_of_showsRows h (fun _ _ ↦ rfl) fun s _ b hshown ↦ ?_
  rw [router_shown hshown.defaultRouter, Json.strList_of_showsTexts hshown.nameServers,
    Json.childStr_of_showsText hshown.domainName, Json.childStr_of_showsText hshown.lease,
    parseRanges_shown hshown.ranges, parseStaticMappings_shown hshown.staticMappings]
  rfl

theorem parseServers_shown {servers : List DhcpServer}
    (h : c.ShowsRows DhcpServer.name DhcpServer.Shown "shared-network-name" servers) :
    parseServers c = arrange DhcpServer.name (servers.map DhcpServer.arranged) := by
  refine listing_of_showsRows h (fun _ _ ↦ rfl) fun s _ b hshown ↦ ?_
  rw [isEnabled_of_has hshown.enabled, hshown.authoritative,
    Json.childStr_of_showsText hshown.description, parseSubnets_shown hshown.subnets]
  rfl

/-! #### The second protocol -/

/-- The rows of one way to show ranges, before they are sorted. -/
theorem perm_of_showsRows {α : Type} {name : α → String} {shows : α → Json → Prop} {key : String}
    {rows : List α} (row : String → Json → α) (h : c.ShowsRows name shows key rows)
    (hname : ∀ k b, name (row k b) = k) (hrow : ∀ a ∈ rows, ∀ b, shows a b → row (name a) b = a) :
    ((c.idx key).entries.map fun x ↦ row x.1 x.2).Perm rows := by
  have hperm : (listing name row (c.idx key)).Perm rows := by
    rw [listing_of_shows h hname hrow]
    exact perm_arrange name rows
  exact (List.perm_insertionSort _ _).symm.trans hperm

theorem parseV6Ranges_shown {ranges : List Dhcpv6Range} (h : ShowsV6Ranges c ranges) :
    parseV6Ranges c = arrange DhcpRange.name ranges := by
  obtain ⟨named, started, rfl, hnames, hnamed, hstarted⟩ := h
  refine (arrange_eq_of_perm hnames (List.Perm.append ?_ ?_)).symm
  · refine (perm_of_showsRows rangeRow hnamed (fun _ _ ↦ rfl) fun r _ b hshown ↦ ?_).symm
    rw [rangeRow, Json.childStr_of_showsText hshown.1, Json.childStr_of_showsText hshown.2]
  · refine (perm_of_showsRows startRow hstarted (fun _ _ ↦ rfl) fun r _ b hshown ↦ ?_).symm
    rw [startRow, Json.childStr_of_showsText hshown.2, ← hshown.1]

theorem parseV6StaticMappings_shown {mappings : List Dhcpv6StaticMapping}
    (h : c.ShowsRows Dhcpv6StaticMapping.name Dhcpv6StaticMapping.Shown "static-mapping"
      mappings) :
    parseV6StaticMappings c = arrange Dhcpv6StaticMapping.name mappings := by
  refine listing_of_shows h (fun _ _ ↦ rfl) fun m _ b hshown ↦ ?_
  have hid := Json.findSome_of_showsOneOf hshown.identifier
  rw [Json.findSome_cons_childStr, Json.findSome_cons_childStr, Json.findSome_cons_childStr,
    List.findSome?_nil, Option.or_none, ← Option.or_assoc] at hid
  rw [hid, Json.childStr_of_showsText hshown.ipv6Address,
    Json.childStr_of_showsText hshown.ipv6Prefix, Json.childStr_of_showsText hshown.description]

theorem lease_shown {lease : Option String} (h : ShowsV6Lease c lease) :
    (c.nestedStr "lease-time" "default").or (c.childStr "lease") = lease := by
  rcases h with ⟨hget, hleaf⟩ | ⟨hget, times, htimes, hdefault⟩
  · rw [Json.nestedStr, hget, Json.childStr_of_showsText hleaf]
    rfl
  · rw [Json.nestedStr, htimes, Json.childStr_of_get hget, Option.or_none]
    exact Json.childStr_of_showsText hdefault

theorem parseV6Subnets_shown {subnets : List Dhcpv6Subnet}
    (h : c.ShowsRows Dhcpv6Subnet.subnet Dhcpv6Subnet.Shown "subnet" subnets) :
    parseV6Subnets c = arrange Dhcpv6Subnet.subnet (subnets.map Dhcpv6Subnet.arranged) := by
  refine listing_of_showsRows h (fun _ _ ↦ rfl) fun s _ b hshown ↦ ?_
  rw [Json.strList_of_showsTexts hshown.nameServers, Json.strList_of_showsTexts hshown.domainSearch,
    lease_shown hshown.lease, parseV6Ranges_shown hshown.ranges,
    parseV6StaticMappings_shown hshown.staticMappings]
  rfl

theorem parseV6Servers_shown {servers : List Dhcpv6Server}
    (h : c.ShowsRows Dhcpv6Server.name Dhcpv6Server.Shown "shared-network-name" servers) :
    parseV6Servers c = arrange Dhcpv6Server.name (servers.map Dhcpv6Server.arranged) := by
  refine listing_of_showsRows h (fun _ _ ↦ rfl) fun s _ b hshown ↦ ?_
  rw [isEnabled_of_has hshown.enabled, Json.childStr_of_showsText hshown.description,
    parseV6Subnets_shown hshown.subnets]
  rfl

end Parsed

/-! ### The requests -/

section Requests

variable {answer : (s : FabricStatement) → s.Reply} {claims : Claims} {id : Uuid}
  {client : VyosClient} {resp : Json}

/-- What a device says of one of its services: the subtree, or that there is none. -/
def ShowsNode (resp : Json) (child : String) (node : Json) : Prop :=
  match classify resp with
  | .data data => node = data.idx child
  | .absent => node = .null
  | .failed => False

theorem eval_lift {α : Type} (p : Handler α) :
    p.lift.eval answer = p.eval fun s ↦ answer (.review s) := by
  induction p with
  | ret a => rfl
  | fail err => rfl
  | call e k ih => exact ih _

theorem eval_device {answer : (s : Statement) → s.Reply} {s : Statement} {x : s.Value}
    (h : answer s = .ok x) : (device s).eval answer = .ok x := by
  rw [device, Prog.eval, h]
  rfl

theorem eval_configNode {parent : Path} {child : String} {node : Json}
    (hreply : answer (.review (.showConfig client parent)) = .ok resp)
    (hnode : ShowsNode resp child node) :
    (configNode client parent child).lift.eval answer = .ok node := by
  rw [eval_lift]
  refine Prog.eval_bind_eq_ok.2 ⟨resp, eval_device hreply, ?_⟩
  show Prog.eval _ (if resp.succeeded = true then _ else if saysEmpty (errorText resp "") then _
    else _) = _
  rw [ShowsNode] at hnode
  rcases classify_cases resp with ⟨hok, hclass⟩ | ⟨hok, hempty, hclass⟩ | ⟨-, -, hclass⟩
  · rw [hclass] at hnode
    rw [if_pos hok, hnode]
    rfl
  · rw [hclass] at hnode
    rw [if_neg (by rw [hok]; decide), if_pos hempty, hnode]
    rfl
  · rw [hclass] at hnode
    cases hnode

/-- **The DHCP page shows the servers the device shows**, in any of the shapes of
`DhcpServer.Shown`, whatever becomes of the leases. -/
theorem getDhcpServer_shown {node : Json} {servers : List DhcpServer}
    (hclient : (fetchClient claims id).lift.eval answer = .ok client)
    (hreply : answer (.review (.showConfig client ["service"])) = .ok resp)
    (hnode : ShowsNode resp "dhcp-server" node)
    (hservers : node.ShowsRows DhcpServer.name DhcpServer.Shown "shared-network-name" servers) :
    (getDhcpServer claims id).eval answer =
      .ok ⟨arrange DhcpServer.name (servers.map DhcpServer.arranged),
        leasesOf (answer (client.show ["dhcp", "server", "leases"]))⟩ := by
  refine Prog.eval_bind_eq_ok.2 ⟨client, hclient, ?_⟩
  refine Prog.eval_bind_eq_ok.2 ⟨node, eval_configNode hreply hnode, ?_⟩
  rw [parseServers_shown hservers]
  rfl

/-- **So does the page of the second protocol.** -/
theorem getDhcpv6Server_shown {node : Json} {servers : List Dhcpv6Server}
    (hclient : (fetchClient claims id).lift.eval answer = .ok client)
    (hreply : answer (.review (.showConfig client ["service"])) = .ok resp)
    (hnode : ShowsNode resp "dhcpv6-server" node)
    (hservers : node.ShowsRows Dhcpv6Server.name Dhcpv6Server.Shown "shared-network-name" servers) :
    (getDhcpv6Server claims id).eval answer =
      .ok ⟨arrange Dhcpv6Server.name (servers.map Dhcpv6Server.arranged),
        leasesOf (answer (client.show ["dhcpv6", "server", "leases"]))⟩ := by
  refine Prog.eval_bind_eq_ok.2 ⟨client, hclient, ?_⟩
  refine Prog.eval_bind_eq_ok.2 ⟨node, eval_configNode hreply hnode, ?_⟩
  rw [parseV6Servers_shown hservers]
  rfl

end Requests

/-! ### A device with a server of each protocol -/

/-- Two subnets, not in the order of their names, with the nodes of different versions. -/
def sampleServer : DhcpServer where
  name := "lan"
  enabled := true
  authoritative := true
  description := none
  subnets := [⟨"10.0.1.0/24", none, ["10.0.1.2", "10.0.1.1"], none, some "86400",
      [⟨"b", some "10.0.1.64", some "10.0.1.96"⟩, ⟨"a", some "10.0.1.8", none⟩], []⟩,
    ⟨"10.0.0.0/24", some "10.0.0.1", [], none, none, [],
      [⟨"nas", some "10.0.0.5", some "m", none⟩]⟩]

def sampleServerNode : Json :=
  .obj [("authoritative", .obj []), ("subnet", .obj [
    ("10.0.1.0/24", .obj [("lease", .str "86400"), ("option", .obj []),
      ("name-server", .arr [.str "10.0.1.2", .str "10.0.1.1"]),
      ("range", .obj [("b", .obj [("start", .str "10.0.1.64"), ("stop", .str "10.0.1.96")]),
        ("a", .obj [("start", .str "10.0.1.8")])])]),
    ("10.0.0.0/24", .obj [("option", .str "10.0.0.1"),
      ("static-mapping", .obj [("nas", .obj [("mac-address", .str "m"),
        ("ip-address", .str "10.0.0.5")])])])])]

def sampleV6Server : Dhcpv6Server where
  name := "lan"
  enabled := false
  description := none
  subnets := [⟨"2001:db8::/64", [], ["lan"], some "600",
    [⟨"b", some "2001:db8::b", none⟩, ⟨"2001:db8::a", some "2001:db8::a", none⟩], []⟩]

def sampleV6ServerNode : Json :=
  .obj [("disable", .obj []), ("subnet", .obj [("2001:db8::/64", .obj [
    ("lease-time", .obj [("default", .str "600")]), ("domain-search", .str "lan"),
    ("address-range", .obj [("start", .obj [("2001:db8::a", .obj [])])]),
    ("range", .obj [("b", .obj [("start", .str "2001:db8::b")])])])])]

/-- A service with one server. -/
def sampleLan (node : Json) : Json := .obj [("shared-network-name", .obj [("lan", node)])]

def sampleDhcpReply : Json :=
  .obj [("success", .bool true), ("data", .obj [("dhcp-server", sampleLan sampleServerNode),
    ("dhcpv6-server", sampleLan sampleV6ServerNode)])]

/-- The device shows both servers, and no leases. -/
def sampleDhcpAnswer : (s : FabricStatement) → s.Reply
  | .review (.selectRouter _) => .ok (some ⟨0, 1, "192.0.2.1", "1.4", none, "https", some "key"⟩)
  | .review (.showConfig _ _) => .ok sampleDhcpReply
  | _ => .error ⟨"timed out", .unsent⟩

theorem showsText_none {v : Json} {key : String} (h : v.get key = none) : v.ShowsText key none :=
  ⟨h, fun s hs ↦ by cases hs⟩

theorem showsText_some {v : Json} {key s : String} (h : v.get key = some (.str s))
    (htrim : trim s = s ∧ s ≠ "") : v.ShowsText key (some s) :=
  ⟨h, fun t ht ↦ by rwa [← Option.some.inj ht]⟩

theorem shown_sampleServer : sampleServer.Shown sampleServerNode := by
  refine ⟨rfl, rfl, showsText_none rfl, .some _ _ rfl (by decide) (.cons ⟨rfl, ?_⟩
    (.cons ⟨rfl, ?_⟩ .nil))⟩
  · refine ⟨⟨none, [], showsText_none rfl, Or.inr ⟨rfl, _, rfl⟩, rfl⟩, .many _ rfl,
      showsText_none rfl, showsText_some rfl (by decide),
      .some _ _ rfl (by decide) (.cons ⟨rfl, ?_⟩ (.cons ⟨rfl, ?_⟩ .nil)), .none rfl⟩
    · exact ⟨showsText_some rfl (by decide), showsText_some rfl (by decide)⟩
    · exact ⟨showsText_some rfl (by decide), showsText_none rfl⟩
  · refine ⟨⟨none, ["10.0.0.1"], showsText_none rfl, Or.inl (.one _ rfl), rfl⟩, .none rfl,
      showsText_none rfl, showsText_none rfl, .none rfl,
      .some _ _ rfl (by decide) (.cons ⟨rfl, ?_⟩ .nil)⟩
    exact ⟨showsText_some rfl (by decide),
      ⟨"mac-address", by decide, showsText_some rfl (by decide), by decide⟩, showsText_none rfl⟩

theorem shown_sampleV6Server : sampleV6Server.Shown sampleV6ServerNode := by
  refine ⟨rfl, showsText_none rfl, .some _ _ rfl (by decide) (.cons ⟨rfl, ?_⟩ .nil)⟩
  refine ⟨.none rfl, .one _ rfl, Or.inr ⟨rfl, _, rfl, showsText_some rfl (by decide)⟩,
    ⟨[⟨"b", some "2001:db8::b", none⟩], [⟨"2001:db8::a", some "2001:db8::a", none⟩], rfl,
      by decide, .some _ _ rfl (by decide) (.cons ⟨rfl, ?_⟩ .nil),
      .some _ _ rfl (by decide) (.cons ⟨rfl, rfl, showsText_none rfl⟩ .nil)⟩, .none rfl⟩
  exact ⟨showsText_some rfl (by decide), showsText_none rfl⟩

theorem getDhcpServer_shown_lan : (getDhcpServer ⟨0, "admin"⟩ 0).eval sampleDhcpAnswer =
    .ok ⟨[sampleServer.arranged], []⟩ := by
  have hnode : ShowsNode sampleDhcpReply "dhcp-server" (sampleLan sampleServerNode) := by rfl
  exact getDhcpServer_shown rfl rfl hnode
    (.some [("lan", sampleServerNode)] _ rfl (by decide) (.cons ⟨rfl, shown_sampleServer⟩ .nil))

theorem getDhcpv6Server_shown_lan : (getDhcpv6Server ⟨0, "admin"⟩ 0).eval sampleDhcpAnswer =
    .ok ⟨[sampleV6Server.arranged], []⟩ := by
  have hnode : ShowsNode sampleDhcpReply "dhcpv6-server" (sampleLan sampleV6ServerNode) := by rfl
  exact getDhcpv6Server_shown rfl rfl hnode
    (.some [("lan", sampleV6ServerNode)] _ rfl (by decide)
      (.cons ⟨rfl, shown_sampleV6Server⟩ .nil))

end VyosFabric
