import VyosFabric.Routes.Requests
import VyosFabric.Routes.Sites
import VyosFabric.Routes.Users

/-!
# The router routes, and every request there is

Routers themselves, the proxies to their devices, and the config pages. Every device operation goes
through `fetchClient`; what the read-only pages make of the replies is theirs (`DeviceRead`).

`FabricRequest` is a request to any route behind `require_auth`, `FabricCall` such a request with
the claims of its token, and `Arrival` that or a login.
-/

namespace VyosFabric

open Interaction

/-! ### Device client -/

/-- `/reboot` and `/poweroff` were added in 1.4. -/
def VyosVersion.hasReboot (v : VyosVersion) : Bool := v != .v1_3

/-- `/info` was added in 1.5. -/
def VyosVersion.hasInfo (v : VyosVersion) : Bool := v == .v1_5

def reboot (client : VyosClient) : FabricHandler Json :=
  send (.post client "/reboot" (.obj [("op", .str "reboot"), ("path", .arr [.str "now"])]))

def poweroff (client : VyosClient) : FabricHandler Json :=
  send (.post client "/poweroff" (.obj [("op", .str "poweroff"), ("path", .arr [.str "now"])]))

/-- The statement asks the device of `client` for its config or its state. -/
def FabricStatement.asks (client : VyosClient) : FabricStatement → Bool
  | .review (.showConfig c _) => c == client
  | .post c endpoint _ => c == client && (endpoint == "/retrieve" || endpoint == "/show")
  | _ => false

/-- A page that only reads: what it asks its device for, and the document it makes of the
replies. -/
structure DeviceRead where
  read : VyosClient → FabricHandler Json
  asks : ∀ client, (read client).Issues fun s ↦ s.asks client = true

/-! ### Handlers -/

/-- `admin_only`. -/
def adminOnly (claims : Claims) : FabricHandler Unit := requireAdmin claims

def listRouters (claims : Claims) : FabricHandler (List RouterView) :=
  if claims.isAdmin then do
    let routers ← query .selectRouters
    return routers.map RouterRow.view
  else do
    let ids ← accessibleSiteIds claims.sub
    let routers ← query (.selectRoutersIn ids)
    return routers.map RouterRow.view

def createRouter (claims : Claims) (body : CreateRouter) : FabricHandler RouterView := do
  adminOnly claims
  let router ← query (.insertRouter body)
  return router.view

def getRouter (claims : Claims) (id : Uuid) : FabricHandler RouterView := do
  (authorizeRouter claims id).lift
  let found ← query (.selectRouterRow id)
  match found with
  | none => .fail .notFound
  | some router => return router.view

def updateRouter (claims : Claims) (id : Uuid) (body : UpdateRouter) :
    FabricHandler RouterView := do
  adminOnly claims
  let updated ← query (.updateRouter id body)
  match updated with
  | none => .fail .notFound
  | some router => return router.view

def deleteRouter (claims : Claims) (id : Uuid) : FabricHandler Uuid := do
  adminOnly claims
  let n ← query (.deleteRouter id)
  if n = 0 then .fail .notFound else return id

/-- A device operation: the client, then what is done with it. -/
def withClient (claims : Claims) (id : Uuid) (op : VyosClient → FabricHandler Json) :
    FabricHandler Json := do
  let client ← (fetchClient claims id).lift
  op client

def proxyPoll (claims : Claims) (id : Uuid) : FabricHandler Json :=
  withClient claims id fun client ↦ (device (.showConfig client ["system", "host-name"])).lift

def proxyRetrieve (claims : Claims) (id : Uuid) (body : Json) : FabricHandler Json :=
  withClient claims id fun client ↦ send (.post client "/retrieve" body)

def proxyConfigure (claims : Claims) (id : Uuid) (body : Json) : FabricHandler Json :=
  withClient claims id fun client ↦ send (.post client "/configure" body)

def proxySave (claims : Claims) (id : Uuid) (body : Option Json) : FabricHandler Json :=
  withClient claims id fun client ↦
    (device (.save client (body.bind fun v ↦ (v.idx "file").asStr))).lift

def proxyShow (claims : Claims) (id : Uuid) (body : Json) : FabricHandler Json :=
  withClient claims id fun client ↦ send (.post client "/show" body)

def proxyGenerate (claims : Claims) (id : Uuid) (body : Json) : FabricHandler Json :=
  withClient claims id fun client ↦ send (.post client "/generate" body)

def proxyReset (claims : Claims) (id : Uuid) (body : Json) : FabricHandler Json :=
  withClient claims id fun client ↦ send (.post client "/reset" body)

def proxyReboot (claims : Claims) (id : Uuid) : FabricHandler Json :=
  withClient claims id fun client ↦
    if client.version.hasReboot then reboot client
    else .fail (.gateway "reboot requires VyOS 1.4+")

def proxyPoweroff (claims : Claims) (id : Uuid) : FabricHandler Json :=
  withClient claims id fun client ↦
    if client.version.hasReboot then poweroff client
    else .fail (.gateway "poweroff requires VyOS 1.4+")

def proxyInfo (claims : Claims) (id : Uuid) : FabricHandler Json :=
  withClient claims id fun client ↦
    if client.version.hasInfo then send (.info client)
    else .fail (.gateway "/info requires VyOS 1.5+")

/-! ### Every request -/

/-- A device operation of the proxies. -/
inductive ProxyRequest where
  | poll
  | retrieve (body : Json)
  | configure (body : Json)
  | save (body : Option Json)
  | «show» (body : Json)
  | generate (body : Json)
  | reset (body : Json)
  | reboot
  | poweroff
  | info

def ProxyRequest.handle (claims : Claims) (id : Uuid) : ProxyRequest → FabricHandler Json
  | .poll => proxyPoll claims id
  | .retrieve body => proxyRetrieve claims id body
  | .configure body => proxyConfigure claims id body
  | .save body => proxySave claims id body
  | .show body => proxyShow claims id body
  | .generate body => proxyGenerate claims id body
  | .reset body => proxyReset claims id body
  | .reboot => proxyReboot claims id
  | .poweroff => proxyPoweroff claims id
  | .info => proxyInfo claims id

/-- A request to `/routers/{id}`. -/
inductive RouterRequest where
  | get
  | update (body : UpdateRouter)
  | delete
  | proxy (p : ProxyRequest)
  | read (page : DeviceRead)
  | review (r : Request)

/-- A request to a route behind `require_auth`. -/
inductive FabricRequest where
  | me
  | listRouters
  | createRouter (body : CreateRouter)
  | router (id : Uuid) (r : RouterRequest)
  | sites (r : SiteRequest)
  | users (r : UserRequest)

/-- What a request is answered with. -/
inductive Answer where
  | user (u : UserWithAccess)
  | router (r : RouterView)
  | created (r : RouterView)
  | routers (l : List RouterView)
  | deleted (id : Uuid)
  | device (v : Json)
  | review (r : Response)
  | sites (r : SiteAnswer)
  | users (r : UserAnswer)

/-- A request with the claims of its token. -/
structure FabricCall where
  claims : Claims
  request : FabricRequest

def RouterRequest.handle (claims : Claims) (id : Uuid) : RouterRequest → FabricHandler Answer
  | .get => .router <$> getRouter claims id
  | .update body => .router <$> updateRouter claims id body
  | .delete => .deleted <$> deleteRouter claims id
  | .proxy p => .device <$> p.handle claims id
  | .read page => .device <$> withClient claims id page.read
  | .review r => .review <$> (Call.handle ⟨claims, id, r⟩).lift

def FabricCall.handle (c : FabricCall) : FabricHandler Answer :=
  match c.request with
  | .me => .user <$> me c.claims
  | .listRouters => .routers <$> listRouters c.claims
  | .createRouter body => .created <$> createRouter c.claims body
  | .router id r => r.handle c.claims id
  | .sites r => .sites <$> r.handle c.claims
  | .users r => do
    requireAdmin c.claims
    .users <$> r.handle

/-- What arrives: a login, or a request with the claims of its token. -/
inductive Arrival where
  | login (body : LoginRequest)
  | call (c : FabricCall)

def Arrival.handle (A : Argon2) : Arrival → FabricHandler (LoginAnswer ⊕ Answer)
  | .login body => .inl <$> VyosFabric.login A body
  | .call c => .inr <$> c.handle

end VyosFabric
