import VyosFabric.Routes.Sessions

/-!
# The site routes

A list is filtered by the database to the sites of the grants, a single site is checked first and
then read, and the writes are for admins.
-/

namespace VyosFabric

open Interaction

/-- A router as it is serialized: without its secrets. -/
structure RouterView where
  id : Uuid
  siteId : Uuid
  hostname : String
  description : Option String
  role : String
  mgmtIp : String
  status : RouterStatus
  version : String
  uptimeSecs : Int
  apiPort : Option Int
  apiProtocol : String
  apiTimeout : Int
  sshUsername : Option String
  sshPort : Int
  createdAt : Timestamp
  updatedAt : Timestamp
  deriving DecidableEq, Repr

def RouterRow.view (r : RouterRow) : RouterView where
  id := r.id
  siteId := r.siteId
  hostname := r.hostname
  description := r.description
  role := r.role
  mgmtIp := r.mgmtIp
  status := r.status
  version := r.version
  uptimeSecs := r.uptimeSecs
  apiPort := r.apiPort
  apiProtocol := r.apiProtocol
  apiTimeout := r.apiTimeout
  sshUsername := r.sshUsername
  sshPort := r.sshPort
  createdAt := r.createdAt
  updatedAt := r.updatedAt

/-- Site ids the user has been granted access to. -/
def accessibleSiteIds (userId : Uuid) : FabricHandler (List Uuid) := query (.selectSiteIds userId)

/-- Non-admins may only touch sites they've been granted access to. -/
def ensureSiteAccess (claims : Claims) (siteId : Uuid) : FabricHandler Unit :=
  if claims.isAdmin then .ret ()
  else do
    let ids ← accessibleSiteIds claims.sub
    if ids.contains siteId then return else .fail .forbidden

/-- `require_admin` of the site routes. -/
def requireSiteAdmin (claims : Claims) : FabricHandler Unit := requireAdmin claims

def listSites (claims : Claims) : FabricHandler (List Site) :=
  if claims.isAdmin then query .selectSites
  else do
    let ids ← accessibleSiteIds claims.sub
    query (.selectSitesIn ids)

def getSite (claims : Claims) (id : Uuid) : FabricHandler Site := do
  ensureSiteAccess claims id
  let found ← query (.selectSite id)
  match found with
  | none => .fail .notFound
  | some site => return site

def createSite (claims : Claims) (body : CreateSite) : FabricHandler Site := do
  requireSiteAdmin claims
  query (.insertSite body)

def updateSite (claims : Claims) (id : Uuid) (body : UpdateSite) : FabricHandler Site := do
  requireSiteAdmin claims
  let updated ← query (.updateSite id body)
  match updated with
  | none => .fail .notFound
  | some site => return site

def deleteSite (claims : Claims) (id : Uuid) : FabricHandler Uuid := do
  requireSiteAdmin claims
  let n ← query (.deleteSite id)
  if n = 0 then .fail .notFound else return id

def listSiteRouters (claims : Claims) (id : Uuid) : FabricHandler (List RouterView) := do
  ensureSiteAccess claims id
  let routers ← query (.selectSiteRouters id)
  return routers.map RouterRow.view

/-- A request to `/sites`. -/
inductive SiteRequest where
  | list
  | create (body : CreateSite)
  | get (id : Uuid)
  | update (id : Uuid) (body : UpdateSite)
  | delete (id : Uuid)
  | routers (id : Uuid)
  deriving DecidableEq

/-- What these routes answer with. -/
inductive SiteAnswer where
  | site (s : Site)
  | created (s : Site)
  | sites (l : List Site)
  | deleted (id : Uuid)
  | routers (l : List RouterView)

def SiteRequest.handle (claims : Claims) : SiteRequest → FabricHandler SiteAnswer
  | .list => .sites <$> listSites claims
  | .create body => .created <$> createSite claims body
  | .get id => .site <$> getSite claims id
  | .update id body => .site <$> updateSite claims id body
  | .delete id => .deleted <$> deleteSite claims id
  | .routers id => .routers <$> listSiteRouters claims id

end VyosFabric
