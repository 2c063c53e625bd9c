import RustMist.Construction.Server.Dispatch

/-! The discovery of the sites of the allowlisted organizations. -/

namespace RustMist

/-- The map gives the organization of each site. -/
abbrev SiteMap := SortedMap String String

def pageLimit : Nat := 100

def maxPagesPerOrg : Nat := 64

def maxTotalSites : Nat := 4096

inductive OrgDiscoveryError where
  | mist (error : MistError)
  | status (status : UInt16)
  | notAnArray

inductive OrgOutcome where
  | complete
  | truncated
deriving DecidableEq

structure SiteDiscovery where
  sites : SiteMap
  /-- The organizations whose pass failed or was truncated. -/
  incompleteOrgs : List String

def listOrgSitesRequest (orgId : String) (page : Nat) : MistRequest where
  operationId := "listOrgSites"
  path := (∅ : PathValues).insert "org_id" orgId
  query := ((∅ : QueryValues).insert "limit" (Json.ofNat pageLimit)).insert "page" (Json.ofNat page)
  json := none
  cursor := none

/-- The sites of one page are added until the cap is met; the flag says whether it was met. -/
def addSites (orgId : String) (sites : SiteMap) : List Json → SiteMap × Bool
  | [] => (sites, false)
  | site :: rest =>
      match (site.get "id").bind Json.asString with
      | none => addSites orgId sites rest
      | some siteId =>
          match MistTarget.site siteId with
          | .error _ => addSites orgId sites rest
          | .ok _ =>
              if sites.size ≥ maxTotalSites && !sites.contains siteId then (sites, true)
              else addSites orgId (sites.insert siteId orgId) rest

variable [Platform]

/-- The checks that a page passes before its sites are added. -/
def acceptPage (catalog : Catalog) (origin : String) (response : MistResponse) :
    Except OrgDiscoveryError (List Json) :=
  if response.operationId ≠ "listOrgSites" then
    .error (.mist (.invalidResponse "listOrgSites"
      "response operation does not match request operation"))
  else
    match response.validate catalog origin with
    | .error error => .error (.mist error)
    | .ok response =>
        if !isSuccess response.status then .error (.status response.status)
        else
          match response.body with
          | .json ⟨.array pageSites, _⟩ => .ok pageSites
          | _ => .error .notAnArray

/-- The pages are fetched in order; the counter bounds the pages that are left. -/
def discoverOrgPages (catalog : Catalog) (origin orgId : String) (sites : SiteMap) (page : Nat) :
    Nat → MistProgram (SiteMap × Except OrgDiscoveryError OrgOutcome)
  | 0 => pure (sites, .ok .complete)
  | left + 1 =>
      match (listOrgSitesRequest orgId page).validate catalog origin with
      | .error error => pure (sites, .error (.mist error))
      | .ok request => do
          perform (.executeAs request .standard)
          match ← perform .response with
          | .error error => pure (sites, .error (.mist error))
          | .ok response =>
              match acceptPage catalog origin response with
              | .error error => pure (sites, .error error)
              | .ok pageSites =>
                  match addSites orgId sites pageSites with
                  | (sites, true) => pure (sites, .ok .truncated)
                  | (sites, false) =>
                      if pageSites.length < pageLimit then pure (sites, .ok .complete)
                      else discoverOrgPages catalog origin orgId sites (page + 1) left

def discoverOrgSites (catalog : Catalog) (origin orgId : String) (sites : SiteMap) :
    MistProgram (SiteMap × Except OrgDiscoveryError OrgOutcome) :=
  discoverOrgPages catalog origin orgId sites 1 maxPagesPerOrg

/-- The organizations are visited in the order of the allowlist. -/
def discoverFrom (catalog : Catalog) (origin : String) (discovered : SiteDiscovery) :
    List String → MistProgram SiteDiscovery
  | [] => pure discovered
  | orgId :: rest => do
      let (sites, outcome) ← discoverOrgSites catalog origin orgId discovered.sites
      match outcome with
      | .ok .complete => discoverFrom catalog origin { discovered with sites := sites } rest
      | _ =>
          discoverFrom catalog origin
            { sites := sites, incompleteOrgs := orgId :: discovered.incompleteOrgs } rest

def discoverSites (catalog : Catalog) (origin : String) (allowedOrgs : List String) :
    MistProgram SiteDiscovery :=
  discoverFrom catalog origin ⟨∅, []⟩ allowedOrgs

/-- A pass that is not complete keeps the previous entries of its organization. -/
def mergeRefresh (discovered : SiteDiscovery) (previous : SiteMap) : SiteMap :=
  if discovered.incompleteOrgs.isEmpty then discovered.sites
  else
    let kept := discovered.sites.entries.filter fun entry =>
      entry.2 ∉ discovered.incompleteOrgs
    let carried := previous.entries.filter fun entry => entry.2 ∈ discovered.incompleteOrgs
    SortedMap.ofList (kept ++ carried)

section Refresh

/-- The construction of a handler and the replacement of its sites fail in this way. -/
inductive MistServerError where
  | invalidOrganization
deriving DecidableEq

def validateOrgs (allowedOrgs : List String) : Except MistServerError Unit :=
  if allowedOrgs.isEmpty || allowedOrgs.length > 256 ||
      allowedOrgs.any (fun orgId => !(MistTarget.org orgId).isOk) || !decide allowedOrgs.Nodup then
    .error .invalidOrganization
  else .ok ()

def validateSites (sites : SiteMap) (allowedOrgs : List String) : Except MistServerError Unit :=
  if sites.size > 4096 || sites.entries.any fun entry =>
      !(MistTarget.site entry.1).isOk || !(MistTarget.org entry.2).isOk ||
        !allowedOrgs.any (· = entry.2) then
    .error .invalidOrganization
  else .ok ()

/-- The previous map stays in place when the new one is refused. -/
def replaceSites (current sites : SiteMap) (allowedOrgs : List String) :
    Except MistServerError Unit × SiteMap :=
  match validateSites sites allowedOrgs with
  | .error error => (.error error, current)
  | .ok () => (.ok (), sites)

/-- One round of the refresh loop discovers the sites, merges them and replaces the map. -/
def refreshSites (catalog : Catalog) (origin : String) (allowedOrgs : List String)
    (current : SiteMap) : MistProgram (Except MistServerError Unit × SiteMap) := do
  let discovered ← discoverSites catalog origin allowedOrgs
  pure (replaceSites current (mergeRefresh discovered current) allowedOrgs)

end Refresh

end RustMist
