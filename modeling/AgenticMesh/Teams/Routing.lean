import AgenticMesh.RolePack.Activation
import AgenticMesh.Teams.Connector

/-!
# Routing Teams activities

`TeamsProjectRouter` finds the project and the role that an activity is for: a
channel belongs to one project, and a personal message is for a project of the
sender that gives the recipient's application to one role.  The router reads all
active manifests before it looks at the sender.
-/

namespace AgenticMesh.Teams

/-! ## Routes and decisions -/

/-- The codes of `TeamsRouteRejected`. -/
inductive TeamsRouteRejection where
  | invalidActivity
  | unknownRoute
  | ambiguousChannel
  | invalidSelection
  | authorityChanged
  | routingUnavailable
deriving DecidableEq

/-- A project and a role that an activity may be for. -/
structure TeamsRouteCandidate where
  projectId : String
  displayName : String
deriving DecidableEq

/-- What the router decides. -/
inductive TeamsRouteDecision where
  | routed (source projectId displayName roleId manifestDigest : String)
  | clarificationRequired (candidates : List TeamsRouteCandidate) (question : String)
deriving DecidableEq

/-- A row of the active manifests. -/
structure RouteRow where
  projectId : String
  displayName : String
  manifestDigest : String
  snapshot : Json

/-- The routes of an active manifest. -/
structure ActiveRoute where
  projectId : String
  displayName : String
  manifestDigest : String
  tenantId : String
  teamId : String
  channels : List (String × String)
  identities : List (String × String)
deriving DecidableEq

/-- `TeamsRoleIdentityBinding`. -/
structure TeamsRoleIdentityBinding where
  projectId : String
  roleId : String
  manifestDigest : String
  tenantId : String
  teamId : String
  applicationId : String
  displayName : String
  credentialProvider : String
  credentialReference : String
  channels : List (String × String)
deriving DecidableEq

/-- `allows`, of a sender and a project; `none` when it raises. -/
abbrev TeamsProjectAuthorizer := String → String → Option Bool

/-- The configuration of a router. -/
structure TeamsProjectRouter where
  lib : TextLibrary
  authorizer : TeamsProjectAuthorizer

/-- An activity in a channel. -/
structure ChannelActivity where
  senderId : String
  tenantId : String
  teamId : String
  channelId : String
  recipientApplicationId : String

/-- An activity in a personal chat. -/
structure PersonalActivity where
  senderId : String
  tenantId : String
  recipientApplicationId : String
  selectedProjectId : Option String

namespace TeamsProjectRouter

/-- The outcome of routing. -/
abbrev Routed := Except TeamsRouteRejection

/-! ## Reading the active manifests -/

/-- `_id`. -/
def id (value : Json) : Option String := value.asString.filter isSlug

/-- `_external_id`. -/
def externalId (value : Json) : Option String := value.asString.filter isExternalId

/-- A mapping of names to identifiers. -/
def named (read : Json → Option String) (value : Json) : Option (List (String × String)) := do
  let fields ← value.asObject
  fields.mapM fun (name, value) => do
    guard (isSlug name = true)
    return (name, ← read value)

/-- `_display_name`, with the limit of the router or the one of the connector. -/
def displayName (maximum : ℕ) (value : String) : Option String :=
  if strip value ≠ "" ∧ value.toList.length ≤ maximum ∧
      value.toList.all (fun c => c ≠ Char.ofNat 0 && c ≠ '\r' && c ≠ '\n') = true then
    some (strip value)
  else none

/-- `_active_route`; `none` for `routing-unavailable`. -/
def activeRoute (row : RouteRow) : Option ActiveRoute := do
  let teams ← row.snapshot.get? "teams"
  let channels ← (teams.get? "channels").bind (named externalId)
  let identities ← (teams.get? "role_identities").bind
    (named fun value => (value.get? "application_id").bind externalId)
  guard (channels ≠ [] ∧ identities ≠ [])
  guard (isSlug row.projectId = true)
  let displayName ← displayName 200 row.displayName
  guard (isDigest row.manifestDigest = true)
  let tenantId ← (teams.get? "tenant_id").bind externalId
  let teamId ← (teams.get? "team_id").bind externalId
  return {
    projectId := row.projectId
    displayName
    manifestDigest := row.manifestDigest
    tenantId
    teamId
    channels
    identities }

/-- A row of the query, for an active manifest with its project and its snapshot. -/
def routeRow (db : RolePackDb) (a : ActiveManifest) : Option RouteRow := do
  let project ← db.projects.lookup a.projectId
  let snapshot ← db.snapshots.lookup (a.projectId, a.manifestDigest)
  return ⟨a.projectId, project.displayName, a.manifestDigest, snapshot.snapshot⟩

/-- The rows of the query, `ORDER BY active.project_id`. -/
def activeRows (db : RolePackDb) : List RouteRow :=
  ((db.active.rows.insertionSort fun a b => a.projectId ≤ b.projectId)).filterMap (routeRow db)

/-- `_active_routes`. -/
def activeRoutes (db : RolePackDb) : Routed (List ActiveRoute) :=
  Check.found ((activeRows db).mapM activeRoute) .routingUnavailable

/-! ## The binding of a role -/

/-- `_binding` of the connector; `none` for `TeamsConnectorError`. -/
def roleIdentity (projectId roleId manifestDigest collaborationIdentity : String)
    (snapshot : Json) : Option TeamsRoleIdentityBinding := do
  let teams ← snapshot.get? "teams"
  let identity ← (teams.get? "role_identities").bind (·.get? roleId)
  let credentials ← snapshot.get? "credentials"
  let credential ← ((identity.get? "credential").bind Json.asString).bind credentials.get?
  let application ← identity.get? "application_id"
  guard (application = .str collaborationIdentity)
  guard (isDigest manifestDigest = true)
  let tenantId ← (teams.get? "tenant_id").bind externalId
  let teamId ← (teams.get? "team_id").bind externalId
  let applicationId ← externalId application
  let displayName ← ((identity.get? "display_name").bind Json.asString).bind (displayName 100)
  let credentialProvider ← (credential.get? "provider").bind id
  let credentialReference ← ((credential.get? "reference").bind Json.asString).filter
    fun s => (reference? s).isSome
  let channels ← (teams.get? "channels").bind (named externalId)
  return {
    projectId, roleId, manifestDigest, tenantId, teamId, applicationId, displayName
    credentialProvider, credentialReference, channels }

/-- `binding` of the connector; `none` for `TeamsConnectorError`. -/
def binding (projectId roleId : String) (db : RolePackDb) : Option TeamsRoleIdentityBinding := do
  let active ← db.active.lookup projectId
  let snapshot ← db.snapshots.lookup (projectId, active.manifestDigest)
  let row ← db.roleBindings.lookup (projectId, roleId)
  guard (row.manifestDigest = active.manifestDigest)
  roleIdentity projectId roleId active.manifestDigest row.collaborationIdentity snapshot.snapshot

/-! ## Routing -/

variable (router : TeamsProjectRouter)

/-- `_allowed`. -/
def Allowed (senderId projectId : String) : Prop :=
  router.authorizer senderId projectId = some true

instance (senderId projectId : String) : Decidable (router.Allowed senderId projectId) :=
  inferInstanceAs (Decidable (_ = _))

/-- Two applications are the same. -/
def SameApplication (a b : String) : Prop := router.lib.casefold a = router.lib.casefold b

instance (a b : String) : Decidable (router.SameApplication a b) :=
  inferInstanceAs (Decidable (_ = _))

/-- `_recipient`. -/
def recipient (value : String) : Option String :=
  if isExternalId value = true then
    match removePrefix? value "28:" with
    | some rest => some rest |>.filter isExternalId
    | none => some value
  else none

/-- `_matching_role`. -/
def matchingRole (recipient : String) (route : ActiveRoute) : Option String :=
  match route.identities.filter fun i => router.SameApplication i.2 recipient with
  | [i] => some i.1
  | _ => none

/-- `_verified_binding`; `channelId` is `none` for a personal message. -/
def verifiedBinding (route : ActiveRoute) (roleId recipient : String) (channelId : Option String)
    (db : RolePackDb) : Routed TeamsRoleIdentityBinding := do
  let binding ← Check.found (binding route.projectId roleId db) .authorityChanged
  Check.that (binding.manifestDigest = route.manifestDigest ∧ binding.tenantId = route.tenantId ∧
      binding.teamId = route.teamId ∧ router.SameApplication binding.applicationId recipient ∧
      ∀ channel ∈ channelId, channel ∈ binding.channels.map Prod.snd)
    .authorityChanged
  return binding

/-- The decision for a route. -/
def routeTo (source : String) (route : ActiveRoute) (roleId recipient : String)
    (channelId : Option String) (db : RolePackDb) : Routed TeamsRouteDecision := do
  let binding ← router.verifiedBinding route roleId recipient channelId db
  return .routed source route.projectId route.displayName binding.roleId binding.manifestDigest

/-- A route for the channel of an activity. -/
def OfChannel (a : ChannelActivity) (route : ActiveRoute) : Prop :=
  route.tenantId = a.tenantId ∧ route.teamId = a.teamId ∧
    a.channelId ∈ route.channels.map Prod.snd

instance (a : ChannelActivity) : DecidablePred (OfChannel a) :=
  fun _ => inferInstanceAs (Decidable (_ ∧ _))

/-- The decision for the routes that have the channel. -/
def chooseChannel (a : ChannelActivity) (recipient : String) (found : List ActiveRoute)
    (db : RolePackDb) : Routed TeamsRouteDecision :=
  match found with
  | [] => .error .unknownRoute
  | [route] => do
    Check.that (router.Allowed a.senderId route.projectId) .unknownRoute
    let roleId ← Check.found (router.matchingRole recipient route) .unknownRoute
    router.routeTo "channel" route roleId recipient (some a.channelId) db
  | _ => .error .ambiguousChannel

/-- `route_channel`. -/
def routeChannel (a : ChannelActivity) (db : RolePackDb) : Routed TeamsRouteDecision := do
  Check.that (∀ value ∈ [a.senderId, a.tenantId, a.teamId, a.channelId],
    isExternalId value = true) .invalidActivity
  let recipient ← Check.found (recipient a.recipientApplicationId) .invalidActivity
  let routes ← activeRoutes db
  router.chooseChannel a recipient (routes.filter fun route => OfChannel a route) db

/-- The role of a route that a personal message is for. -/
def personalMatch (a : PersonalActivity) (recipient : String) (route : ActiveRoute) :
    Option (ActiveRoute × String) := do
  guard (route.tenantId = a.tenantId ∧ router.Allowed a.senderId route.projectId)
  let roleId ← router.matchingRole recipient route
  return (route, roleId)

/-- The question for a project. -/
def clarificationQuestion (candidates : List TeamsRouteCandidate) : String :=
  "Which project is this about? Choose one: " ++
    "; ".intercalate (candidates.map fun c => c.displayName ++ " (" ++ c.projectId ++ ")") ++ "."

/-- The choice between the routes that match. -/
def choose (selected : Option String) (recipient : String) (found : List (ActiveRoute × String))
    (db : RolePackDb) : Routed TeamsRouteDecision := do
  Check.that (found ≠ []) .unknownRoute
  Check.that ((found.map Prod.snd).dedup.length = 1) .routingUnavailable
  match selected with
  | some projectId =>
    match found.filter fun item => item.1.projectId = projectId with
    | [(route, roleId)] => router.routeTo "personal" route roleId recipient none db
    | _ => .error .invalidSelection
  | none =>
    match found with
    | [(route, roleId)] => router.routeTo "personal" route roleId recipient none db
    | _ =>
      let candidates := found.map fun item => ⟨item.1.projectId, item.1.displayName⟩
      .ok (.clarificationRequired candidates (clarificationQuestion candidates))

/-- `route_personal`. -/
def routePersonal (a : PersonalActivity) (db : RolePackDb) : Routed TeamsRouteDecision := do
  Check.that (isExternalId a.senderId = true ∧ isExternalId a.tenantId = true) .invalidActivity
  let recipient ← Check.found (recipient a.recipientApplicationId) .invalidActivity
  Check.that (∀ projectId ∈ a.selectedProjectId, isSlug projectId = true) .invalidSelection
  let routes ← activeRoutes db
  router.choose a.selectedProjectId recipient
    (routes.filterMap (router.personalMatch a recipient)) db

end TeamsProjectRouter

end AgenticMesh.Teams
