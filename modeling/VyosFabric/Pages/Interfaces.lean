import VyosFabric.Pages.Dhcp
import VyosFabric.Pages.Leaves

/-!
# The interface pages

Eighteen pages list the interfaces of one kind each. All of them show the same of an interface but
for a few fields of its kind, so a page is its node in the config and the format of these fields
(`InterfacePage`).

A config holds an inventory of interfaces if every page's node holds the interfaces of its kind, in
any of the shapes that the formats of their fields take. Every page then gives back the interfaces
of its kind, sorted by name, and asks the device for nothing else (`interfaces_listed`).
-/

namespace VyosFabric

open Interaction Formats ConfigFormat

/-- A row of an interface page, `BondingInterface` to `WwanInterface`; `more` are the fields of its
kind. -/
structure InterfaceRow (α : Type) where
  name : String
  description : Option String
  addresses : List String
  mtu : Option Int
  more : α
  enabled : Bool
  deriving DecidableEq, Repr

/-! ### The fields of the kinds -/

structure BondingFields where
  mode : Option String
  members : List String
  deriving DecidableEq, Repr

structure BridgeFields where
  members : List String
  deriving DecidableEq, Repr

structure GeneveFields where
  vni : Option String
  remote : Option String
  deriving DecidableEq, Repr

structure L2tpv3Fields where
  sourceAddress : Option String
  remote : Option String
  tunnelId : Option String
  peerTunnelId : Option String
  sessionId : Option String
  peerSessionId : Option String
  encapsulation : Option String
  deriving DecidableEq, Repr

structure MacsecFields where
  sourceInterface : Option String
  cipher : Option String
  deriving DecidableEq, Repr

structure OpenvpnFields where
  mode : Option String
  protocol : Option String
  localHost : Option String
  remoteHost : Option String
  deriving DecidableEq, Repr

structure WireguardFields where
  port : Option String
  peerCount : Int
  deriving DecidableEq, Repr

structure PppoeFields where
  sourceInterface : Option String
  username : Option String
  deriving DecidableEq, Repr

structure MacvlanFields where
  sourceInterface : Option String
  mode : Option String
  deriving DecidableEq, Repr

structure SstpcFields where
  server : Option String
  username : Option String
  deriving DecidableEq, Repr

structure TunnelFields where
  encapsulation : Option String
  sourceAddress : Option String
  remote : Option String
  deriving DecidableEq, Repr

structure VethFields where
  peerName : Option String
  deriving DecidableEq, Repr

structure VxlanFields where
  vni : Option String
  remote : Option String
  sourceAddress : Option String
  port : Option String
  deriving DecidableEq, Repr

structure WlanFields where
  interfaceType : Option String
  ssid : Option String
  channel : Option String
  deriving DecidableEq, Repr

structure WwanFields where
  apn : Option String
  deriving DecidableEq, Repr

/-! ### Pages -/

/-- No fields of its own. -/
def noFields : ConfigFormat Unit where
  read _ := ()
  Holds _ _ := True
  read_eq _ := rfl

/-- `members`: the keys of `member interface`, sorted. -/
def memberNames : ConfigFormat (List String) := (nodeKeys "interface").under fun v ↦ v.idx "member"

/-- The row of an interface. -/
def interfaceRow {α : Type} (more : ConfigFormat α) (name : String) :
    ConfigFormat (InterfaceRow α) where
  read cfg :=
    { name := name
      description := cfg.childStr "description"
      addresses := asAddresses cfg
      mtu := asMtu cfg
      more := more.read cfg
      enabled := cfg.isEnabled }
  Holds cfg r := r.name = name ∧ cfg.ShowsText "description" r.description ∧
    ConfigFormat.addresses.Holds cfg r.addresses ∧ ConfigFormat.mtu.Holds cfg r.mtu ∧
    more.Holds cfg r.more ∧ ConfigFormat.enabled.Holds cfg r.enabled
  read_eq {cfg r} h := by
    obtain ⟨rfl, hdescription, haddresses, hmtu, hmore, henabled⟩ := h
    rw [Json.childStr_of_showsText hdescription, more.read_eq hmore]
    have haddresses : asAddresses cfg = r.addresses := ConfigFormat.addresses.read_eq haddresses
    have hmtu : asMtu cfg = r.mtu := ConfigFormat.mtu.read_eq hmtu
    have henabled : cfg.isEnabled = r.enabled := ConfigFormat.enabled.read_eq henabled
    rw [haddresses, hmtu, henabled]

/-- A page of interfaces of one kind: their node in the config, and the fields of the kind. -/
structure InterfacePage (α : Type) where
  kind : String
  more : ConfigFormat α

namespace InterfacePage

variable {α : Type}

/-- The interfaces of the kind in the `interfaces` subtree. -/
def format (page : InterfacePage α) : ConfigFormat (List (InterfaceRow α)) :=
  rows page.kind InterfaceRow.name (interfaceRow page.more) fun _ _ ↦ rfl

/-- The handler. -/
def handle (page : InterfacePage α) (claims : Claims) (id : Uuid) :
    Handler (List (InterfaceRow α)) := do
  let data ← interfaceConfig claims id page.kind
  return listing InterfaceRow.name (fun name cfg ↦ (interfaceRow page.more name).read cfg) data

end InterfacePage

def listBonding : InterfacePage BondingFields where
  kind := "bonding"
  more := ((text "mode").both memberNames).as (fun (mode, members) ↦ ⟨mode, members⟩)
    (fun b ↦ (b.mode, b.members)) fun _ ↦ rfl

def listBridge : InterfacePage BridgeFields where
  kind := "bridge"
  more := memberNames.as BridgeFields.mk BridgeFields.members fun _ ↦ rfl

def listDummy : InterfacePage Unit := ⟨"dummy", noFields⟩

def listGeneve : InterfacePage GeneveFields where
  kind := "geneve"
  more := ((text "vni").both (text "remote")).as (fun (vni, remote) ↦ ⟨vni, remote⟩)
    (fun g ↦ (g.vni, g.remote)) fun _ ↦ rfl

def listL2tpv3 : InterfacePage L2tpv3Fields where
  kind := "l2tpv3"
  more := ((text "source-address").both <| (text "remote").both <| (text "tunnel-id").both <|
      (text "peer-tunnel-id").both <| (text "session-id").both <| (text "peer-session-id").both <|
      text "encapsulation").as
    (fun (source, remote, tunnel, peerTunnel, session, peerSession, encapsulation) ↦
      ⟨source, remote, tunnel, peerTunnel, session, peerSession, encapsulation⟩)
    (fun l ↦ (l.sourceAddress, l.remote, l.tunnelId, l.peerTunnelId, l.sessionId, l.peerSessionId,
      l.encapsulation)) fun _ ↦ rfl

def listLoopback : InterfacePage Unit := ⟨"loopback", noFields⟩

def listMacsec : InterfacePage MacsecFields where
  kind := "macsec"
  more := ((text "source-interface").both (nested "security" "cipher")).as
    (fun (source, cipher) ↦ ⟨source, cipher⟩) (fun m ↦ (m.sourceInterface, m.cipher)) fun _ ↦ rfl

def listOpenvpn : InterfacePage OpenvpnFields where
  kind := "openvpn"
  more := ((text "mode").both <| (text "protocol").both <| (text "local-host").both <|
      text "remote-host").as
    (fun (mode, protocol, localHost, remoteHost) ↦ ⟨mode, protocol, localHost, remoteHost⟩)
    (fun o ↦ (o.mode, o.protocol, o.localHost, o.remoteHost)) fun _ ↦ rfl

def listWireguard : InterfacePage WireguardFields where
  kind := "wireguard"
  more := ((text "port").both (count.optional (fun v ↦ v.get "peer") 0)).as
    (fun (port, peers) ↦ ⟨port, peers⟩) (fun w ↦ (w.port, w.peerCount)) fun _ ↦ rfl

def listPppoe : InterfacePage PppoeFields where
  kind := "pppoe"
  more := ((text "source-interface").both (nested "authentication" "username")).as
    (fun (source, username) ↦ ⟨source, username⟩) (fun p ↦ (p.sourceInterface, p.username))
    fun _ ↦ rfl

def listMacvlan : InterfacePage MacvlanFields where
  kind := "pseudo-ethernet"
  more := ((text "source-interface").both (text "mode")).as (fun (source, mode) ↦ ⟨source, mode⟩)
    (fun m ↦ (m.sourceInterface, m.mode)) fun _ ↦ rfl

def listSstpc : InterfacePage SstpcFields where
  kind := "sstpc"
  more := ((text "server").both (nested "authentication" "username")).as
    (fun (server, username) ↦ ⟨server, username⟩) (fun s ↦ (s.server, s.username)) fun _ ↦ rfl

def listTunnel : InterfacePage TunnelFields where
  kind := "tunnel"
  more := ((text "encapsulation").both <| (text "source-address").both <| text "remote").as
    (fun (encapsulation, source, remote) ↦ ⟨encapsulation, source, remote⟩)
    (fun t ↦ (t.encapsulation, t.sourceAddress, t.remote)) fun _ ↦ rfl

def listVeth : InterfacePage VethFields where
  kind := "virtual-ethernet"
  more := (text "peer-name").as VethFields.mk VethFields.peerName fun _ ↦ rfl

def listVti : InterfacePage Unit := ⟨"vti", noFields⟩

def listVxlan : InterfacePage VxlanFields where
  kind := "vxlan"
  more := ((text "vni").both <| (text "remote").both <| (text "source-address").both <|
      text "port").as
    (fun (vni, remote, source, port) ↦ ⟨vni, remote, source, port⟩)
    (fun v ↦ (v.vni, v.remote, v.sourceAddress, v.port)) fun _ ↦ rfl

def listWlan : InterfacePage WlanFields where
  kind := "wireless"
  more := ((text "type").both <| (text "ssid").both <| text "channel").as
    (fun (type, ssid, channel) ↦ ⟨type, ssid, channel⟩)
    (fun w ↦ (w.interfaceType, w.ssid, w.channel)) fun _ ↦ rfl

def listWwan : InterfacePage WwanFields where
  kind := "wwan"
  more := (text "apn").as WwanFields.mk WwanFields.apn fun _ ↦ rfl

/-- All of them. -/
def interfacePages : List (Σ α, InterfacePage α) :=
  [⟨_, listBonding⟩, ⟨_, listBridge⟩, ⟨_, listDummy⟩, ⟨_, listGeneve⟩, ⟨_, listL2tpv3⟩,
    ⟨_, listLoopback⟩, ⟨_, listMacsec⟩, ⟨_, listOpenvpn⟩, ⟨_, listWireguard⟩, ⟨_, listPppoe⟩,
    ⟨_, listMacvlan⟩, ⟨_, listSstpc⟩, ⟨_, listTunnel⟩, ⟨_, listVeth⟩, ⟨_, listVti⟩,
    ⟨_, listVxlan⟩, ⟨_, listWlan⟩, ⟨_, listWwan⟩]

/-! ### What the pages list -/

section Listed

variable {answer : (s : FabricStatement) → s.Reply} {claims : Claims} {id : Uuid}
  {client : VyosClient} {resp : Json}

/-- The subtree that a reply presents, if it does not report a failure. -/
def presented (resp : Json) : Option Json :=
  match classify resp with
  | .data v => some v
  | .absent => some .null
  | .failed => none

theorem eval_interfaceConfig {data : Json} (kind : String)
    (hclient : (fetchClient claims id).lift.eval answer = .ok client)
    (hreply : answer (.review (.showConfig client ["interfaces"])) = .ok resp)
    (hdata : presented resp = some data) :
    (interfaceConfig claims id kind).lift.eval answer = .ok (data.idx kind) := by
  rw [eval_lift] at hclient ⊢
  refine Prog.eval_bind_eq_ok.2 ⟨client, hclient, ?_⟩
  refine Prog.eval_bind_eq_ok.2 ⟨resp, eval_device hreply, ?_⟩
  rw [presented] at hdata
  rcases classify_cases resp with ⟨hok, hclass⟩ | ⟨hok, hempty, hclass⟩ | ⟨-, -, hclass⟩
  · rw [hclass] at hdata
    obtain rfl := Option.some.inj hdata
    rw [if_pos hok]
    rfl
  · rw [hclass] at hdata
    obtain rfl := Option.some.inj hdata
    rw [if_neg (by rw [hok]; decide), if_pos hempty]
    rfl
  · rw [hclass] at hdata
    cases hdata

theorem InterfacePage.read_format {α : Type} (page : InterfacePage α) (data : Json) :
    page.format.read data =
      listing InterfaceRow.name (fun name cfg ↦ (interfaceRow page.more name).read cfg)
        (data.idx page.kind) := rfl

/-- The names on a page are those in the config. -/
theorem InterfacePage.mem_names_iff {α : Type} (page : InterfacePage α) {data : Json}
    {name : String} : (∃ r ∈ page.format.read data, r.name = name) ↔
      ((data.idx page.kind).get name).isSome = true := by
  have hname : ∀ k c, ((interfaceRow page.more k).read c).name = k := fun _ _ ↦ rfl
  rw [page.read_format, Option.isSome_iff_exists]
  constructor
  · rintro ⟨r, hr, rfl⟩
    obtain ⟨c, hget, -⟩ := (mem_listing_iff hname).1 hr
    exact ⟨c, hget⟩
  · rintro ⟨c, hget⟩
    exact ⟨(interfaceRow page.more name).read c, (mem_listing_iff hname).2 ⟨c, hget, rfl⟩, rfl⟩

/-- **The pages list the inventory.** Take a device that shows an inventory of interfaces, each in
any of the shapes its page's format takes. No two pages list one node of its config. Each of them
answers with the interfaces of its kind, all fields as they are in the inventory, strictly in the
order of their names, and an interface is on the page exactly if its name is in the node. -/
theorem interfaces_listed {data : Json}
    (hclient : (fetchClient claims id).lift.eval answer = .ok client)
    (hreply : answer (.review (.showConfig client ["interfaces"])) = .ok resp)
    (hdata : presented resp = some data)
    {inventory : (p : Σ α, InterfacePage α) → List (InterfaceRow p.1)}
    (hinventory : ∀ p ∈ interfacePages, p.2.format.Holds data (inventory p)) :
    (interfacePages.map fun p ↦ p.2.kind).Nodup ∧ ∀ p ∈ interfacePages,
      (p.2.handle claims id).lift.eval answer = .ok (inventory p) ∧
      (inventory p).Pairwise (fun a b ↦ a.name < b.name) ∧
      ∀ name, (∃ r ∈ inventory p, r.name = name) ↔
        ((data.idx p.2.kind).get name).isSome = true := by
  refine ⟨by decide, fun p hp ↦ ?_⟩
  have hread := p.2.format.read_eq (hinventory p hp)
  refine ⟨?_, ?_, fun name ↦ ?_⟩
  · have hdata := eval_interfaceConfig p.2.kind hclient hreply hdata
    rw [eval_lift] at hdata ⊢
    refine Prog.eval_bind_eq_ok.2 ⟨_, hdata, ?_⟩
    rw [← hread]
    rfl
  · have hname : ∀ k c, ((interfaceRow p.2.more k).read c).name = k := fun _ _ ↦ rfl
    rw [← hread, p.2.read_format]
    exact pairwise_listing hname
  · rw [← hread]
    exact p.2.mem_names_iff

end Listed

/-! ### A device with interfaces of two kinds -/

/-- A bond of two NICs without an address, and a tunnel with a peer and two addresses. -/
def sampleInterfaces : Json :=
  .obj [("wireguard", .obj [("wg0", .obj [("peer", .obj [("far", .obj [])]), ("port", .str "51820"),
      ("address", .arr [.str "10.8.0.1/24", .str "fd00::1/64"]), ("mtu", .str "1420")])]),
    ("bonding", .obj [("bond1", .obj [("disable", .obj [])]),
      ("bond0", .obj [("member", .obj [("interface", .obj [("eth2", .obj []), ("eth1", .obj [])])]),
        ("mtu", .int 9000), ("description", .str "core")])])]

def sampleInterfacesAnswer : (s : FabricStatement) → s.Reply
  | .review (.selectRouter _) => .ok (some ⟨0, 1, "192.0.2.1", "1.4", none, "https", some "key"⟩)
  | .review (.showConfig _ _) => .ok (.obj [("success", .bool true), ("data", sampleInterfaces)])
  | _ => .error ⟨"timed out", .unsent⟩

/-- A page without a node lists nothing. -/
theorem InterfacePage.holds_nil {α : Type} (page : InterfacePage α) {data : Json}
    (h : data.get page.kind = none) : page.format.Holds data [] :=
  ⟨[], .none h, rfl⟩

def sampleBonds : List (InterfaceRow BondingFields) :=
  [⟨"bond0", some "core", [], some 9000, ⟨none, ["eth1", "eth2"]⟩, true⟩,
    ⟨"bond1", none, [], none, ⟨none, []⟩, false⟩]

theorem holds_sampleBonds : listBonding.format.Holds sampleInterfaces sampleBonds := by
  refine ⟨sampleBonds.reverse, .some _ _ rfl (by decide) (.cons ⟨rfl, ?_⟩ (.cons ⟨rfl, ?_⟩ .nil)),
    by decide⟩
  · exact ⟨rfl, showsText_none rfl, .none rfl, Or.inl ⟨rfl, rfl⟩,
      ⟨showsText_none rfl, Or.inr ⟨rfl, rfl⟩⟩, rfl⟩
  · exact ⟨rfl, showsText_some rfl (by decide), .none rfl,
      Or.inr ⟨9000, rfl, by decide, by decide, Or.inr rfl⟩,
      ⟨showsText_none rfl, Or.inl ⟨_, rfl, _, rfl, by decide, by decide⟩⟩, rfl⟩

def sampleTunnels : List (InterfaceRow WireguardFields) :=
  [⟨"wg0", none, ["10.8.0.1/24", "fd00::1/64"], some 1420, ⟨some "51820", 1⟩, true⟩]

theorem holds_sampleTunnels : listWireguard.format.Holds sampleInterfaces sampleTunnels := by
  refine ⟨sampleTunnels, .some _ _ rfl (by decide) (.cons ⟨rfl, ?_⟩ .nil), by decide⟩
  exact ⟨rfl, showsText_none rfl, .many _ rfl,
    Or.inr ⟨1420, rfl, by decide, by decide, Or.inl (by decide)⟩,
    ⟨showsText_some rfl (by decide), Or.inl ⟨_, rfl, _, rfl, by decide, by decide, rfl⟩⟩, rfl⟩

/-- What is read of the sample. -/
def sampleInventory (p : Σ α, InterfacePage α) : List (InterfaceRow p.1) :=
  p.2.format.read sampleInterfaces

theorem holds_sampleInventory :
    ∀ p ∈ interfacePages, p.2.format.Holds sampleInterfaces (sampleInventory p) := by
  intro p hp
  refine Format.holds_read ?_
  simp only [interfacePages, List.mem_cons, List.not_mem_nil, or_false] at hp
  rcases hp with rfl | rfl | rfl | rfl | rfl | rfl | rfl | rfl | rfl | rfl | rfl | rfl | rfl | rfl |
    rfl | rfl | rfl | rfl
  · exact ⟨_, holds_sampleBonds⟩
  all_goals first
    | exact ⟨_, holds_sampleTunnels⟩
    | exact ⟨[], InterfacePage.holds_nil _ rfl⟩

/-- The bonds are listed in the order of their names, and their members too. -/
theorem interfaces_listed_bonds :
    (listBonding.handle ⟨0, "admin"⟩ 0).lift.eval sampleInterfacesAnswer = .ok sampleBonds := by
  have hlisted := (@interfaces_listed sampleInterfacesAnswer ⟨0, "admin"⟩ 0 _ _ _ rfl rfl rfl
    sampleInventory holds_sampleInventory).2 ⟨_, listBonding⟩ List.mem_cons_self
  rw [hlisted.1]
  exact congrArg Except.ok (Format.read_eq _ holds_sampleBonds)

end VyosFabric
