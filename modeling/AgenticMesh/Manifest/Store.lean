import AgenticMesh.Base.Run
import AgenticMesh.Base.Table
import AgenticMesh.Base.Triple
import AgenticMesh.Manifest.Manifest

/-!
# The manifest store

`activate` makes a manifest the active one of its project.  A resource that the
manifest uses but does not own needs the consent of the authorizer, and so does
one that another active project claims; both claimants must name the same owner.
An activation is one transaction that holds the row of its project and an
advisory lock for each resource of the manifest, so that two activations that
share a project or a resource do not overlap.
-/

namespace AgenticMesh

/-- A registered project. -/
structure ManifestProject where
  projectId : String
  displayName : String
deriving DecidableEq

def ManifestProject.key (p : ManifestProject) : String := p.projectId

/-- `project_manifest_snapshots`. -/
structure ManifestSnapshot where
  projectId : String
  manifestDigest : String
  sourceRevision : String
  sourcePath : String
  snapshot : Json
  registeredBy : String
deriving DecidableEq

def ManifestSnapshot.key (s : ManifestSnapshot) : String × String := (s.projectId, s.manifestDigest)

/-- `project_manifest_resource_claims`. -/
structure ResourceClaim where
  projectId : String
  manifestDigest : String
  resource : ResourceBinding
deriving DecidableEq

def ResourceClaim.key (c : ResourceClaim) : String × String × String × String :=
  (c.projectId, c.manifestDigest, c.resource.kind, c.resource.key)

/-- `project_manifest_active`. -/
structure ActiveManifest where
  projectId : String
  manifestDigest : String
  activatedBy : String
deriving DecidableEq

def ActiveManifest.key (a : ActiveManifest) : String := a.projectId

/-- The tables of the manifests. -/
structure ManifestDb where
  projects : Table ManifestProject ManifestProject.key := ∅
  snapshots : Table ManifestSnapshot ManifestSnapshot.key := ∅
  claims : Table ResourceClaim ResourceClaim.key := ∅
  active : Table ActiveManifest ActiveManifest.key := ∅

/-- What the activation of a manifest is recorded with. -/
structure ManifestActivation where
  projectId : String
  manifestDigest : String
  sourceRevision : String
  sourcePath : String
  activatedBy : String
deriving DecidableEq

/-- `ResourceAuthorizer.allows`, of a project, an owner, and the resource that it uses. -/
abbrev ResourceAuthorizer := String → String → ResourceBinding → Bool

/-- `DenyForeignResources`. -/
def denyForeignResources : ResourceAuthorizer := fun _ _ _ => false

/-- `ResourceGrant`: an owner lets a project use a resource. -/
structure ResourceGrant where
  projectId : String
  ownerProjectId : String
  resourceKind : String
  resourceKey : String
  authorizationRef : String
deriving DecidableEq

/-- `StaticResourceAuthorizer`. -/
def staticResourceAuthorizer (grants : List ResourceGrant) : ResourceAuthorizer :=
  fun projectId ownerProjectId resource =>
    match resource.authorizationRef with
    | none => false
    | some authorizationRef => ⟨projectId, ownerProjectId, resource.kind, resource.key,
        authorizationRef⟩ ∈ grants

/-- The arguments of `activate` and the authorizer of the store. -/
structure ActivateRequest where
  manifest : ProjectManifest
  sourceRevision : String
  actorId : String
  sourcePath : String
  /-- `none` for `_UNSET`. -/
  expectedActive : Option (Option String)
  authorizer : ResourceAuthorizer

namespace ProjectManifestStore

/-- A transaction of the manifest store. -/
abbrev ManifestTx := Tx ManifestDb ProjectManifestError

/-- `_SOURCE_PATH`. -/
def canonicalSourcePath : String := "agentic-mesh/project.yaml"

/-- `_source_revision`. -/
def sourceRevisionArg (value : String) : ManifestTx String :=
  Tx.demand (fun _ => if value.toList.length = 40 ∧
    value.toList.all (fun c => isHexDigit c || ('A' ≤ c && c ≤ 'F')) = true then
      some value.toLower else none)
    (.value "source_revision must be an exact Git commit")

/-- `_authorize_declared_owners`. -/
def authorizeDeclaredOwners (authorizer : ResourceAuthorizer) (manifest : ProjectManifest) :
    Except ProjectManifestError Unit :=
  manifest.resources.forM fun resource =>
    Check.that (resource.ownerProjectId = manifest.projectId ∨
      authorizer manifest.projectId resource.ownerProjectId resource = true)
      (.authorization ("foreign " ++ resource.kind ++ " resource is not authorized"))

/-- The claims of the active manifests of the other projects. -/
def foreignClaims (projectId : String) (db : ManifestDb) : List ResourceClaim :=
  db.claims.select fun claim => claim.projectId ≠ projectId ∧
    db.active.Any fun active =>
      active.projectId = claim.projectId ∧ active.manifestDigest = claim.manifestDigest

/-- The collision of a claim with the resource of the same identity. -/
def authorizeClaim (authorizer : ResourceAuthorizer) (manifest : ProjectManifest)
    (claim : ResourceClaim) : Except ProjectManifestError Unit :=
  match manifest.resources.find? fun r =>
    ProjectManifest.identityOf r = ProjectManifest.identityOf claim.resource with
  | none => .ok ()
  | some resource => do
    let owner := claim.resource.ownerProjectId
    Check.that (resource.ownerProjectId = owner)
      (.authorization ("active " ++ resource.kind ++ " resource belongs to project " ++ owner ++
        ", not " ++ resource.ownerProjectId))
    Check.that (owner = manifest.projectId ∨ authorizer manifest.projectId owner resource = true)
      (.authorization ("active " ++ resource.kind ++ " resource belongs to project " ++ owner ++
        " and is claimed by " ++ claim.projectId))

/-- `_authorize_active_collisions`. -/
def authorizeActiveCollisions (authorizer : ResourceAuthorizer) (manifest : ProjectManifest)
    (db : ManifestDb) : Except ProjectManifestError Unit :=
  (foreignClaims manifest.projectId db).forM (authorizeClaim authorizer manifest)

/-- `INSERT INTO project_manifest_resource_claims`, for each resource. -/
def insertClaims (manifest : ProjectManifest) :
    List ResourceBinding → ManifestDb → Option ManifestDb
  | [], db => some db
  | resource :: resources, db => do
    let claims ← db.claims.insert ⟨manifest.projectId, manifest.digest, resource⟩
    insertClaims manifest resources { db with claims }

/-- The snapshot and its claims. -/
def insertSnapshot (r : ActivateRequest) (sourceRevision actorId : String) (db : ManifestDb) :
    Option ManifestDb := do
  let snapshots ← db.snapshots.insert {
    projectId := r.manifest.projectId
    manifestDigest := r.manifest.digest
    sourceRevision
    sourcePath := r.sourcePath
    snapshot := r.manifest.snapshot
    registeredBy := actorId }
  insertClaims r.manifest r.manifest.resources { db with snapshots }

/-- The immutable snapshot of a manifest: it is inserted once. -/
def register (r : ActivateRequest) (sourceRevision actorId : String) : ManifestTx Unit := do
  let existing ← Tx.query fun db =>
    db.snapshots.lookup (r.manifest.projectId, r.manifest.digest)
  match existing with
  | none =>
    Tx.attempt (insertSnapshot r sourceRevision actorId)
      (.store "project manifest operation failed")
  | some existing =>
    Tx.require (existing.sourceRevision = sourceRevision ∧ existing.sourcePath = r.sourcePath ∧
      existing.snapshot = r.manifest.snapshot)
      (.conflict "immutable manifest snapshot conflicts with existing digest")

/-- `INSERT INTO project_manifest_active ... ON CONFLICT (project_id) DO UPDATE`. -/
def setActive (manifest : ProjectManifest) (actorId : String) (db : ManifestDb) : ManifestDb :=
  match db.active.insert ⟨manifest.projectId, manifest.digest, actorId⟩ with
  | some active => { db with active }
  | none => { db with
      active := db.active.update (fun a => a.projectId = manifest.projectId)
        { set := fun a => { a with manifestDigest := manifest.digest, activatedBy := actorId } } }

/-- `_read_active`. -/
def readActive (projectId : String) (db : ManifestDb) : Option ManifestActivation := do
  let active ← db.active.lookup projectId
  let snapshot ← db.snapshots.lookup (projectId, active.manifestDigest)
  return ⟨active.projectId, active.manifestDigest, snapshot.sourceRevision, snapshot.sourcePath,
    active.activatedBy⟩

/-- The digest of the active manifest of a project. -/
def current (projectId : String) (db : ManifestDb) : Option String :=
  (db.active.lookup projectId).map ActiveManifest.manifestDigest

/-- The transaction of `activate`. -/
def activateIn (r : ActivateRequest) (sourceRevision actorId : String) :
    ManifestTx ManifestActivation := do
  let manifest := r.manifest
  let project ← Tx.demand (fun db => db.projects.lookup manifest.projectId)
    (.conflict "project is not registered")
  Tx.require (project.displayName = manifest.displayName)
    (.conflict "manifest display_name does not match the project")
  let current ← Tx.query (current manifest.projectId)
  let expected := r.expectedActive.getD current
  Tx.require (expected = current)
    (.conflict ("active manifest changed: expected " ++ expected.getD "None" ++ ", found " ++
      current.getD "None"))
  let collisions ← Tx.query (authorizeActiveCollisions r.authorizer manifest)
  Tx.ofExcept collisions
  register r sourceRevision actorId
  Tx.modify fun db => if current = some manifest.digest then db else setActive manifest actorId db
  Tx.demand (readActive manifest.projectId) (.store "active project manifest was not found")

/-- `activate`. -/
def activate (lib : TextLibrary) (r : ActivateRequest) : ManifestTx ManifestActivation := do
  let validated ← Tx.ofExcept (ProjectManifest.normalizeProjectManifest lib r.manifest.snapshot)
  Tx.require (validated = r.manifest)
    (.value "manifest does not match its normalized snapshot")
  let sourceRevision ← sourceRevisionArg r.sourceRevision
  let actorId ← Tx.ofExcept (ProjectManifest.externalId (.str r.actorId) "actor_id")
  Tx.require (r.sourcePath = canonicalSourcePath)
    (.value ("source_path must be the canonical " ++ canonicalSourcePath))
  Tx.require (∀ expected ∈ r.expectedActive, ∀ digest ∈ expected, isDigest digest = true)
    (.value "expected_active is invalid")
  Tx.ofExcept (authorizeDeclaredOwners r.authorizer r.manifest)
  activateIn r sourceRevision actorId

/-- `get_active_manifest`. -/
def getActiveManifest (lib : TextLibrary) (projectId : String) (db : ManifestDb) :
    Except ProjectManifestError (Option ProjectManifest) :=
  match db.active.lookup projectId with
  | none => .ok none
  | some active =>
    match db.snapshots.lookup (projectId, active.manifestDigest) with
    | none => .ok none
    | some snapshot => do
      let manifest ← ProjectManifest.normalizeProjectManifest lib snapshot.snapshot
      Check.that (manifest.projectId = projectId ∧ manifest.digest = active.manifestDigest)
        (.store "active project manifest failed integrity validation")
      return some manifest

/-! ## Calls -/

/-- What happens to the manifests: a project is registered, or an activation is asked for. -/
inductive ManifestEvent where
  | register (project : ManifestProject)
  | activate (request : ActivateRequest)

/-- A project that is registered once. -/
def registerProject (project : ManifestProject) (db : ManifestDb) : ManifestDb :=
  match db.projects.insert project with
  | some projects => { db with projects }
  | none => db

/-- The database after an event. -/
def step (lib : TextLibrary) (db : ManifestDb) : ManifestEvent → ManifestDb
  | .register project => registerProject project db
  | .activate request => (activate lib request).commit db

end ProjectManifestStore

end AgenticMesh
