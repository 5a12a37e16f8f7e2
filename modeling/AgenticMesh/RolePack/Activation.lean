import AgenticMesh.Base.Upsert
import AgenticMesh.Config.Resolver
import AgenticMesh.Flow.Validation
import AgenticMesh.Manifest.Store
import AgenticMesh.Schema

/-!
# Role packs

`RolePackActivator` makes the roles of the active manifest the roles of a project:
one transaction rewrites the bindings, the roles, their queues, their scaling
policies and the instances they may have, and retires every role that the manifest
does not list.
-/

namespace AgenticMesh

/-- The exceptions of the activator. -/
inductive RolePackError where
  | value (message : String)
  | conflict (message : String)
  /-- `RolePackConflict(str(exc))` of a package that does not resolve. -/
  | package (e : PackageResolutionError)
  /-- `RolePackError`. -/
  | failed (message : String)
deriving DecidableEq

/-- A row of `role_bindings`. -/
structure RolePackBinding where
  projectId : String
  roleId : String
  manifestDigest : String
  roleReference : String
  roleDigest : String
  toolProfileReference : String
  toolProfileDigest : String
  toolProfileId : String
  flowReference : String
  flowDigest : String
  promptConfigurationDigest : String
  roleClass : String
  memoryScope : String
  collaborationIdentity : String
  minimumInstances : ℤ
  maximumInstances : ℤ
deriving DecidableEq

def RolePackBinding.key (b : RolePackBinding) : String × String := (b.projectId, b.roleId)

/-- A row of `role_scaling_policies`. -/
structure ScalingPolicy where
  projectId : String
  roleId : String
  minWarmInstances : ℤ
  maxInstances : ℤ
  scaleAfterSeconds : ℕ
  idleGraceSeconds : ℕ
  hibernationEnabled : Bool
deriving DecidableEq

def ScalingPolicy.key (s : ScalingPolicy) : String × String := (s.projectId, s.roleId)

/-- The manifests and the roles of the projects. -/
structure RolePackDb extends ManifestDb where
  roles : Table Role Role.key := ∅
  roleBindings : Table RolePackBinding RolePackBinding.key := ∅
  queues : Table RoleQueue RoleQueue.key := ∅
  instances : Table RoleInstance RoleInstance.key := ∅
  policies : Table ScalingPolicy ScalingPolicy.key := ∅

/-- `RolePackActivation`: what an activation returns. -/
structure RolePackActivation where
  projectId : String
  manifestDigest : String
  flowReference : String
  flowDigest : String
  roles : List RolePackBinding
deriving DecidableEq

/-- A role of a pack, before it is stored. -/
structure PreparedRole where
  binding : RolePackBinding
  snapshot : Json
deriving DecidableEq

/-- The tool profiles and the prompts that a launch would use. -/
structure RoleTools where
  /-- `load_for_launch`: the identifier and the configuration digest of a profile. -/
  profile : String → Except String (String × String)
  /-- `render_role_state_prompt`: the digest of the prompt of a role and a flow in a state. -/
  prompt : String → String → String → Except String String

/-- The arguments of `activate`, with the configuration of the activator. -/
structure RolePackRequest where
  root : MountedRepository
  tools : RoleTools
  manifest : ProjectManifest
  flowReference : String
  actorId : String

namespace RolePack

/-- A check of a role pack, with its error. -/
abbrev Checked := Except RolePackError

/-! ## Arguments -/

/-- `^[a-z][a-z0-9-]{0,127}$`. -/
def isRoleId (s : String) : Bool :=
  fullmatch Char.isLower (fun c => isSlugStart c || c == '-') 127 s

/-- `^[A-Za-z0-9][A-Za-z0-9._:-]{0,255}$`. -/
def isActorId (s : String) : Bool := fullmatch Char.isAlphanum isIdentifierChar 255 s

/-- `_string`. -/
def string (value : Option Json) (label : String) : Checked String := do
  let s ← Check.found (value.bind Json.asString) (.conflict (label ++ " is invalid"))
  Check.that (strip s ≠ "") (.conflict (label ++ " is invalid"))
  return strip s

/-- `_integer`. -/
def integer (value : Option Json) (label : String) (minimum maximum : ℤ) : Checked ℤ :=
  match value with
  | some (.int n) =>
    if minimum ≤ n ∧ n ≤ maximum then .ok n else .error (.conflict (label ++ " is invalid"))
  | _ => .error (.conflict (label ++ " is invalid"))

/-- The items of a mapping, in which a key counts once. -/
def items : List (String × Json) → List (String × Json)
  | [] => []
  | p :: ps => p :: (items ps).filter fun q => q.1 ≠ p.1

/-- `sorted(mapping.items())`. -/
def sortedItems (fields : List (String × Json)) : List (String × Json) :=
  (items fields).insertionSort fun a b => a.1 ≤ b.1

/-! ## Preparing the roles -/

/-- The fields of the content of a role. -/
def roleFields : List String := [
  "schema_version", "role_id", "display_name", "role_class", "purpose", "accountabilities",
  "decision_rights", "consults", "handoff_targets", "memory_scope", "instructions",
  "documentation"]

/-- A list of role identifiers in the content of a role. -/
def roleIds (value : Option Json) : Option (List String) := do
  let items ← value.bind Json.asArray
  items.mapM fun item => item.asString.filter isRoleId

/-- `_role_snapshot`. -/
def roleSnapshot (value : Json) (expectedId : String) : Checked Json := do
  let fields ← Check.found value.asObject (.conflict "role content is invalid")
  -- `True` and `1.0` are equal to `1`
  Check.that ((∀ key ∈ roleFields, key ∈ fields.map Prod.fst) ∧
      (∀ key ∈ fields.map Prod.fst, key ∈ roleFields) ∧
      value.get? "schema_version" ∈ [some (.int 1), some (.bool true), some (.float "1.0")])
    (.conflict ("role " ++ expectedId ++ " fields are invalid"))
  Check.that (value.get? "role_id" = some (.str expectedId))
    (.conflict ("role content identity disagrees for " ++ expectedId))
  Check.that (value.get? "memory_scope" = some (.str "project-role"))
    (.conflict ("role " ++ expectedId ++ " memory scope is invalid"))
  Check.that ((roleIds (value.get? "consults")).isSome = true)
    (.conflict ("role " ++ expectedId ++ " consults are invalid"))
  Check.that ((roleIds (value.get? "handoff_targets")).isSome = true)
    (.conflict ("role " ++ expectedId ++ " handoff_targets are invalid"))
  let _ ← string (value.get? "role_class") "role_class"
  return value

/-- The roles that the content of a role refers to. -/
def referenced (snapshot : Json) : List String :=
  ((roleIds (snapshot.get? "consults")).getD []) ++
    ((roleIds (snapshot.get? "handoff_targets")).getD [])

/-- The application of a role in the Teams section of a manifest. -/
def applicationOf (manifest : ProjectManifest) (roleId : String) : Option String := do
  let teams ← manifest.snapshot.get? "teams"
  let identities ← teams.get? "role_identities"
  let identity ← identities.get? roleId
  let application ← identity.get? "application_id"
  application.asString

/-- `_prepare_role`. -/
def prepareRole (r : RolePackRequest) (flow : FlowDefinition) (entry : String × Json) :
    Checked PreparedRole := do
  let (roleId, value) := entry
  Check.that (isRoleId roleId = true) (.conflict "manifest role_id is invalid")
  let _ ← Check.found value.asObject (.conflict ("manifest role " ++ roleId ++ " is invalid"))
  let roleReference ← string (value.get? "package") "role package"
  let profileReference ← string (value.get? "tool_profile") "tool profile"
  let instances ← Check.found (value.get? "instances")
    (.conflict ("role " ++ roleId ++ " instances are invalid"))
  let _ ← Check.found instances.asObject
    (.conflict ("role " ++ roleId ++ " instances are invalid"))
  let minimum ← integer (instances.get? "minimum") "minimum instances" 0 256
  let maximum ← integer (instances.get? "maximum") "maximum instances" 1 256
  Check.that (minimum ≤ maximum)
    (.conflict ("role " ++ roleId ++ " instance bounds are invalid"))
  Check.that (roleId = "project-manager" → 1 ≤ minimum)
    (.conflict "project-manager requires one warm instance")
  let parsed ← Except.mapError .package (PackageReference.parse roleReference)
  Check.that (parsed.kind = .role ∧ parsed.packageId = roleId)
    (.conflict ("role package identity disagrees for " ++ roleId))
  let resolved ← Except.mapError .package
    (PackageResolver.resolvePackages r.root [roleReference])
  let content ← Check.found ((Json.obj resolved.settings).get? "role")
    (.conflict ("role package " ++ roleId ++ " has no role settings"))
  let snapshot ← roleSnapshot content roleId
  let roleClass ← Check.found ((snapshot.get? "role_class").bind Json.asString)
    (.conflict "role_class is invalid")
  let (profileId, profileDigest) ← Except.mapError .conflict (r.tools.profile profileReference)
  let promptDigest ← Except.mapError .conflict
    (r.tools.prompt roleReference r.flowReference flow.entryState)
  let application ← Check.found (applicationOf r.manifest roleId)
    (.conflict ("role " ++ roleId ++ " has no Teams collaboration identity"))
  return {
    binding := {
      projectId := r.manifest.projectId
      roleId := roleId
      manifestDigest := r.manifest.digest
      roleReference := roleReference
      roleDigest := resolved.digest
      toolProfileReference := profileReference
      toolProfileDigest := profileDigest
      toolProfileId := profileId
      flowReference := r.flowReference
      flowDigest := flow.digest
      promptConfigurationDigest := promptDigest
      roleClass := roleClass
      memoryScope := "project-role"
      collaborationIdentity := application
      minimumInstances := minimum
      maximumInstances := maximum }
    snapshot := snapshot }

/-- `_flow_roles`. -/
def flowRoles (flow : FlowDefinition) : List String :=
  flow.leaderRole :: flow.states.flatMap fun s =>
    s.ownerRole :: (s.consults.map FlowAction.roleId ++ s.informs.map FlowAction.roleId ++
      (s.gates.map FlowAction.roleId).filter (· ≠ "sponsor") ++ s.routes.map FlowRoute.targetRole)

/-- `load_flow`. -/
def loadFlow (configuration : ResolvedConfiguration) : Checked FlowDefinition := do
  let value ← Check.found ((Json.obj configuration.settings).get? "flow")
    (.conflict "resolved configuration has no flow object")
  let _ ← Check.found value.asObject (.conflict "resolved configuration has no flow object")
  Except.mapError .conflict (Flow.validate value configuration.digest)

/-- The flow and the roles of an activation. -/
def prepare (r : RolePackRequest) : Checked (FlowDefinition × List PreparedRole) := do
  let parsed ← Except.mapError .package (PackageReference.parse r.flowReference)
  Check.that (parsed.kind = .flow) (.conflict "flow_reference must select a flow package")
  let configuration ← Except.mapError .package
    (PackageResolver.resolvePackages r.root [r.flowReference])
  let flow ← loadFlow configuration
  let roles ← Check.found ((r.manifest.snapshot.get? "roles").bind Json.asObject)
    (.conflict "project manifest has no roles")
  Check.that (roles ≠ []) (.conflict "project manifest has no roles")
  let prepared ← (sortedItems roles).mapM (prepareRole r flow)
  let configured := prepared.map fun item => item.binding.roleId
  Check.that (∀ role ∈ flowRoles flow, role ∈ configured)
    (.conflict "flow roles are not configured")
  Check.that (∀ item ∈ prepared, ∀ role ∈ referenced item.snapshot, role ∈ configured)
    (.conflict "role references unknown roles")
  return (flow, prepared)

/-! ## The transaction -/

/-- The `CHECK` constraints of `role_bindings`, besides the ones that the activator has checked. -/
def Storable (b : RolePackBinding) : Prop :=
  (∀ d ∈ [b.manifestDigest, b.roleDigest, b.toolProfileDigest, b.flowDigest,
    b.promptConfigurationDigest], isDigest d = true) ∧
  ∀ s ∈ [b.toolProfileId, b.flowReference, b.collaborationIdentity],
    ∃ c ∈ s.toList, c ≠ ' '

instance : DecidablePred Storable := fun _ => inferInstanceAs (Decidable (_ ∧ _))

/-- `role_queues_target_key`. -/
def queueTarget (q : RoleQueue) : String × String × Option String :=
  (q.projectId, q.roleId, q.capability)

/-- The queue of a role, against `role_queues_target_key`. -/
def putQueue (q : RoleQueue) (queues : Table RoleQueue RoleQueue.key) :
    Option (Table RoleQueue RoleQueue.key) :=
  if ∃ s ∈ queues.rows, s.key ≠ q.key ∧ queueTarget s = queueTarget q then none
  else some (queues.put q)

/-- The identifier of an instance. -/
def instanceId (projectId roleId : String) (index : ℕ) : String :=
  projectId ++ "." ++ roleId ++ "." ++ decimal index

/-- The instances that a role may have. -/
def instanceIds (b : RolePackBinding) : List String :=
  (List.range b.maximumInstances.toNat).map fun index =>
    instanceId b.projectId b.roleId (index + 1)

/-- The role of an instance, which keeps its status when it exists. -/
def putInstance (projectId roleId : String) (instances : Table RoleInstance RoleInstance.key)
    (id : String) : Table RoleInstance RoleInstance.key :=
  instances.upsert ⟨projectId, id, roleId, .configured⟩ { set := fun i => { i with roleId } }

/-- `_upsert`. -/
def upsertRole (db : RolePackDb) (b : RolePackBinding) : Option RolePackDb := do
  let roles := db.roles.put ⟨b.projectId, b.roleId, .active⟩
  guard (Storable b)
  let queues ← putQueue ⟨b.projectId, b.roleId, b.roleId, none, false⟩ db.queues
  return { db with
    roles := roles
    roleBindings := db.roleBindings.put b
    queues := queues
    instances := (instanceIds b).foldl (putInstance b.projectId b.roleId) db.instances
    policies := db.policies.put {
      projectId := b.projectId, roleId := b.roleId
      minWarmInstances := b.minimumInstances, maxInstances := b.maximumInstances
      scaleAfterSeconds := 60, idleGraceSeconds := 300
      hibernationEnabled := b.roleId ≠ "project-manager" } }

/-- The roles of a project that are not selected are retired. -/
def retire (projectId : String) (selected : List String) (db : RolePackDb) : RolePackDb :=
  { db with
    roleBindings := db.roleBindings.delete fun b => b.projectId = projectId ∧ b.roleId ∉ selected
    policies := db.policies.update (fun s => s.projectId = projectId ∧ s.roleId ∉ selected)
      { set := fun s => { s with minWarmInstances := 0, hibernationEnabled := true } }
    roles := db.roles.update (fun r => r.projectId = projectId ∧ r.roleId ∉ selected)
      { set := fun r => { r with status := .inactive } }
    queues := db.queues.update (fun q => q.projectId = projectId ∧ q.roleId ∉ selected)
      { set := fun q => { q with paused := true } } }

/-- A transaction of the role pack store. -/
abbrev RolePackTx := Tx RolePackDb RolePackError

/-- `_activate`. -/
def activateIn (r : RolePackRequest) (flow : FlowDefinition) (prepared : List PreparedRole) :
    RolePackTx RolePackActivation := do
  let p := r.manifest.projectId
  let db ← Tx.query id
  Tx.require ((db.projects.lookup p).isSome) (.conflict "project is not registered")
  Tx.require (ProjectManifestStore.current p db.toManifestDb = some r.manifest.digest)
    (.conflict "project manifest is not active")
  let selected := prepared.map fun item => item.binding.roleId
  Tx.require ((db.roles.lookup (p, "project-manager")).isSome → "project-manager" ∈ selected)
    (.conflict "an established project-manager cannot be removed")
  Tx.modify (retire p selected)
  Tx.attempt (fun db => (prepared.map PreparedRole.binding).foldlM upsertRole db)
    (.failed "role-pack persistence failed")
  return {
    projectId := p
    manifestDigest := r.manifest.digest
    flowReference := r.flowReference
    flowDigest := flow.digest
    roles := prepared.map PreparedRole.binding }

/-- `activate`. -/
def activate (r : RolePackRequest) : RolePackTx RolePackActivation := do
  Tx.require (isActorId r.actorId = true) (.value "actor_id is invalid")
  let (flow, prepared) ← Tx.ofExcept (prepare r)
  activateIn r flow prepared

/-- `get`. -/
def get (projectId : String) (db : RolePackDb) : Checked RolePackActivation := do
  Check.that (isRoleId projectId = true) (.conflict "project_id is invalid")
  let bindings := (db.roleBindings.select (·.projectId = projectId)).insertionSort
    fun a b => a.roleId ≤ b.roleId
  match bindings with
  | [] => .error (.conflict "project role pack is not active")
  | first :: rest => do
    Check.that (∀ b ∈ rest, b.manifestDigest = first.manifestDigest ∧
        (b.flowReference, b.flowDigest) = (first.flowReference, first.flowDigest))
      (.conflict "project role bindings disagree")
    return {
      projectId := projectId
      manifestDigest := first.manifestDigest
      flowReference := first.flowReference
      flowDigest := first.flowDigest
      roles := first :: rest }

/-! ## Runs -/

/-- What happens to the manifests and the role packs. -/
inductive RolePackEvent where
  | manifest (e : ProjectManifestStore.ManifestEvent)
  | activate (r : RolePackRequest)

/-- The database after an event. -/
def step (lib : TextLibrary) (db : RolePackDb) : RolePackEvent → RolePackDb
  | .manifest e => { db with toManifestDb := ProjectManifestStore.step lib db.toManifestDb e }
  | .activate r => (activate r).commit db

end RolePack

end AgenticMesh
