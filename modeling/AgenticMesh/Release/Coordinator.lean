import AgenticMesh.Base.Program
import AgenticMesh.Base.Sha256
import AgenticMesh.Base.Table
import AgenticMesh.Base.Text
import AgenticMesh.Base.Tx
import AgenticMesh.Base.Json

/-!
# Immutable releases

`ImmutableReleaseCoordinator.upgrade` builds a candidate image, deploys it and
registers it as the running image of its project, or restores the image that
ran before.  Every phase is written to the attempt before the next effect, so
that another call can go on where a process died.  The builder, the deployment
driver and the failures of the database are answers of the environment.  The
advisory lock of the project makes the calls serial.
-/

namespace AgenticMesh

/-! ## Texts -/

/-- `^[^\s@]+@sha256:[0-9a-f]{64}$`. -/
@[irreducible]
def isImage (s : String) : Bool :=
  let name := s.toList.takeWhile (· ≠ '@')
  let digest := s.toList.dropWhile (· ≠ '@')
  name ≠ [] && name.all (fun c => !isSpace c) && digest.take 8 == "@sha256:".toList &&
    (digest.drop 8).length == 64 && (digest.drop 8).all fun c => c.isDigit || ('a' ≤ c && c ≤ 'f')

/-- `^[A-Za-z0-9][A-Za-z0-9._:-]{0,255}$`. -/
def isExternalId (s : String) : Bool :=
  match s.toList with
  | [] => false
  | c :: cs => c.isAlphanum && cs.length ≤ 255 &&
    cs.all fun c => c.isAlphanum || c = '.' || c = '_' || c = ':' || c = '-'

/-- `_reference`: a text of one line, without surrounding white space. -/
@[irreducible]
def reference (s : String) : Option String :=
  if strip s = "" ∨ 500 < s.toList.length ∨
      s.toList.any (fun c => c = '\x00' || c = '\n' || c = '\r') = true then
    none
  else some (strip s)

/-! ## Rows -/

/-- The status of a release. -/
inductive ReleaseStatus where
  | verified
  | deployed
  | retired
  | rejected
deriving DecidableEq

/-- A row of `project_runtime_releases`. -/
structure RuntimeRelease where
  releaseId : String
  manifestDigest : String
  sourceRevision : String
  imageRef : String
  minimumDatabaseVersion : ℕ
  maximumDatabaseVersion : ℕ
  buildEvidenceRef : String
  testEvidenceRef : String
  status : ReleaseStatus
deriving DecidableEq

def RuntimeRelease.key (r : RuntimeRelease) : String := r.releaseId

/-- The status of an attempt. -/
inductive AttemptStatus where
  | building
  | deploying
  | verifying
  | rollingBack
  | deployed
  | rejected
  | rolledBack
  | failed
deriving DecidableEq

/-- The text of a status in its table. -/
def AttemptStatus.text : AttemptStatus → String
  | building => "building"
  | deploying => "deploying"
  | verifying => "verifying"
  | rollingBack => "rolling_back"
  | deployed => "deployed"
  | rejected => "rejected"
  | rolledBack => "rolled_back"
  | failed => "failed"

/-- `_TERMINAL`. -/
def AttemptStatus.Terminal : AttemptStatus → Prop
  | deployed | rejected | rolledBack | failed => True
  | _ => False

instance : DecidablePred AttemptStatus.Terminal := fun s => by
  cases s <;> simp only [AttemptStatus.Terminal] <;> infer_instance

/-- The columns of an attempt that `_prepare` writes together. -/
structure PreparedRelease where
  candidateReleaseId : String
  previousImageRef : String
  previousMinimumDatabaseVersion : ℕ
  previousMaximumDatabaseVersion : ℕ
deriving DecidableEq

/-- A row of `project_runtime_deployment_attempts`. -/
structure ReleaseAttempt where
  operationId : String
  sourceRevision : String
  prepared : Option PreparedRelease
  status : AttemptStatus
  error : Option String
  evidence : Json
  startedBy : String
  version : ℕ
deriving DecidableEq

def ReleaseAttempt.key (a : ReleaseAttempt) : String := a.operationId

/-- The row of `project_runtime_boundaries` of the project. -/
structure RuntimeBoundary where
  manifestDigest : String
  runningImageRef : String
  version : ℕ
deriving DecidableEq

/-- The tables of a project and its deployment. -/
structure ReleaseWorld where
  boundary : RuntimeBoundary
  releases : Table RuntimeRelease RuntimeRelease.key
  attempts : Table ReleaseAttempt ReleaseAttempt.key
  /-- The image that was deployed last. -/
  image : String

/-! ## The environment -/

/-- `UpgradeRequest`: the arguments of an upgrade. -/
structure UpgradeRequest where
  operationId : String
  sourceRevision : String
  actorId : String
deriving DecidableEq

/-- `VerifiedImage`: what the verification of an image found. -/
structure VerifiedImage where
  imageRef : String
  minimumDatabaseVersion : ℕ
  maximumDatabaseVersion : ℕ
  buildEvidenceRef : String
  testEvidenceRef : String
deriving DecidableEq

/-- `DeploymentObservation`: what is seen of the deployment. -/
structure DeploymentObservation where
  imageRef : Option String
  healthy : Bool
  evidenceRef : String
deriving DecidableEq

/-- How a transaction ends: it runs, it fails, or it commits and the connection is lost. -/
inductive DatabaseAnswer where
  | runs
  | fails
  | lost
deriving DecidableEq

/-- What `observe` answers.  A healthy deployment is the one that was deployed last. -/
inductive ObserveAnswer where
  | raised (detail : String)
  | healthy (evidenceRef : String)
  | unhealthy (imageRef : Option String) (evidenceRef : String)

/-- What `deploy` does.  Also a call that fails may have replaced the deployment. -/
inductive DeployAnswer where
  | replaced
  | raised (detail : String) (replaced : Bool)

/-- What the environment answers at a step; every step reads the part that it asks for. -/
structure ReleaseAnswer where
  database : DatabaseAnswer := .runs
  databaseVersion : ℕ := 1
  validate : Except String Unit := .ok ()
  build : Except String VerifiedImage := .error "no build"
  observe : ObserveAnswer := .raised "no observation"
  deploy : DeployAnswer := .replaced

/-- The exceptions of the coordinator. -/
inductive ReleaseError where
  | value (message : String)
  | conflict (message : String)
  /-- `ImmutableReleaseError` of the store. -/
  | store (message : String)
  /-- An exception of the builder or the driver, with what `_safe_error` leaves of its text. -/
  | external (detail : String)
deriving DecidableEq

/-- `_safe_error`. -/
def safeError : ReleaseError → String
  | .value m | .conflict m | .store m | .external m => m

/-- A program of the coordinator. -/
abbrev ReleaseProgram (α : Type) : Type := Program ReleaseWorld ReleaseAnswer ReleaseError α

/-- A transaction of the coordinator. -/
abbrev ReleaseTx (α : Type) : Type := Tx ReleaseWorld ReleaseError α

namespace ImmutableReleaseCoordinator

/-- A transaction of the store; `message` is what its other exceptions are translated to. -/
def transaction {α : Type} (message : String) (t : ReleaseTx α) : ReleaseProgram α :=
  Program.ask fun e w =>
    match e.database, t w with
    | .fails, _ => (.error (.store message), w)
    | .lost, .ok (_, w') => (.error (.store message), w')
    | _, .error x => (.error x, w)
    | .runs, .ok (a, w') => (.ok a, w')

def requireImage (s message : String) : ReleaseProgram Unit :=
  Program.require (isImage s = true) (.conflict message)

def requireReference (s message : String) : ReleaseProgram String :=
  Program.demand (reference s) (.conflict message)

/-! ### The driver and the builder -/

/-- `deployment.validate`. -/
def validate : ReleaseProgram Unit :=
  Program.ask fun e w => (e.validate.mapError .external, w)

/-- `deployment.deploy`. -/
def deploy (imageRef : String) : ReleaseProgram Unit :=
  Program.ask fun e w =>
    match e.deploy with
    | .replaced => (.ok (), { w with image := imageRef })
    | .raised detail true => (.error (.external detail), { w with image := imageRef })
    | .raised detail false => (.error (.external detail), w)

/-- `deployment.observe`. -/
def rawObserve : ReleaseProgram DeploymentObservation :=
  Program.ask fun e w =>
    match e.observe with
    | .raised detail => (.error (.external detail), w)
    | .healthy evidenceRef => (.ok ⟨some w.image, true, evidenceRef⟩, w)
    | .unhealthy imageRef evidenceRef => (.ok ⟨imageRef, false, evidenceRef⟩, w)

/-- `_observation` of what the driver observed. -/
def observe : ReleaseProgram DeploymentObservation := do
  let o ← rawObserve
  Program.require (o.imageRef.all isImage = true)
    (.conflict "observed image_ref must be digest-pinned")
  let evidenceRef ← requireReference o.evidenceRef "observation evidence_ref is invalid"
  return { o with evidenceRef }

/-- `_safe_observe`. -/
def safeObserve : ReleaseProgram (Except String DeploymentObservation) :=
  tryCatch (do return .ok (← observe)) fun e => return .error (safeError e)

/-- `builder.build_and_verify`, with the checks of `_candidate`. -/
def build : ReleaseProgram VerifiedImage := do
  let v ← Program.ask fun e w => (e.build.mapError .external, w)
  Program.require (0 < v.minimumDatabaseVersion)
    (.conflict "minimum_database_version must be a positive integer")
  Program.require (0 < v.maximumDatabaseVersion)
    (.conflict "maximum_database_version must be a positive integer")
  Program.require (v.minimumDatabaseVersion ≤ v.maximumDatabaseVersion)
    (.conflict "candidate database range is invalid")
  requireImage v.imageRef "candidate image_ref must be digest-pinned"
  let buildEvidenceRef ← requireReference v.buildEvidenceRef "build_evidence_ref is invalid"
  let testEvidenceRef ← requireReference v.testEvidenceRef "test_evidence_ref is invalid"
  return { v with buildEvidenceRef, testEvidenceRef }

/-! ### The store -/

/-- `_required_read`. -/
def requiredRead (operationId : String) : ReleaseTx ReleaseAttempt :=
  Tx.demand (fun w => w.attempts.lookup operationId) (.conflict "release attempt is missing")

/-- `INSERT INTO project_runtime_deployment_attempts ... ON CONFLICT DO NOTHING`. -/
def insertAttempt (a : ReleaseAttempt) (w : ReleaseWorld) : ReleaseWorld :=
  match w.attempts.insert a with
  | some attempts => { w with attempts }
  | none => w

/-- `INSERT INTO project_runtime_releases ... ON CONFLICT DO NOTHING`; an image belongs to one
release. -/
def insertRelease (r : RuntimeRelease) (w : ReleaseWorld) : Option ReleaseWorld :=
  if (w.releases.lookup r.releaseId).isSome then some w
  else if ∃ q ∈ w.releases.rows, q.imageRef = r.imageRef then none
  else (w.releases.insert r).map fun releases => { w with releases }

/-- `UPDATE project_runtime_deployment_attempts`. -/
def updateAttempt (operationId : String) (p : ReleaseAttempt → Prop) [DecidablePred p]
    (f : Table.Assign ReleaseAttempt.key) (w : ReleaseWorld) : ReleaseWorld :=
  { w with attempts := w.attempts.update (fun a => a.operationId = operationId ∧ p a) f }

/-- `UPDATE project_runtime_releases SET status`. -/
def setReleaseStatus (p : RuntimeRelease → Prop) [DecidablePred p] (status : ReleaseStatus)
    (w : ReleaseWorld) : ReleaseWorld :=
  { w with releases := w.releases.update p { set := fun r => { r with status } } }

/-- `_start`. -/
def start (request : UpgradeRequest) : ReleaseProgram ReleaseAttempt :=
  transaction "release attempt start failed" do
    Tx.modify (insertAttempt
      { operationId := request.operationId, sourceRevision := request.sourceRevision,
        prepared := none, status := .building, error := none, evidence := .obj [],
        startedBy := request.actorId, version := 1 })
    let attempt ← requiredRead request.operationId
    Tx.require (attempt.sourceRevision = request.sourceRevision)
      (.conflict "operation_id belongs to another source revision")
    return attempt

/-- `_finish_in_transaction`. -/
def finishInTransaction (operationId : String) (status : AttemptStatus) (error : Option String)
    (evidence : Json) : ReleaseTx ReleaseAttempt := do
  let current ← requiredRead operationId
  if current.status.Terminal then return current
  Tx.modify (updateAttempt operationId (fun _ => True)
    { set := fun a => { a with
        status, error, evidence := current.evidence.merge evidence, version := a.version + 1 } })
  requiredRead operationId

/-- The candidate of an attempt that ended otherwise than deployed is rejected. -/
def rejectCandidate (result : ReleaseAttempt) (status : AttemptStatus) (w : ReleaseWorld) :
    ReleaseWorld :=
  match result.prepared with
  | some p =>
    if status ≠ .deployed then
      setReleaseStatus (fun r => r.releaseId = p.candidateReleaseId ∧ r.status = .verified)
        .rejected w
    else w
  | none => w

/-- `_finish`. -/
def finish (request : UpgradeRequest) (status : AttemptStatus) (error : Option String)
    (evidence : Json) : ReleaseProgram ReleaseAttempt :=
  transaction "release attempt completion failed" do
    let result ← finishInTransaction request.operationId status error evidence
    Tx.modify (rejectCandidate result status)
    return result

/-- `_phase`. -/
def phase (request : UpgradeRequest) (status : AttemptStatus) (error : Option String) :
    ReleaseProgram ReleaseAttempt :=
  transaction "deployment phase update failed" do
    Tx.modify (updateAttempt request.operationId (fun a => ¬ a.status.Terminal)
      { set := fun a => { a with status, error := error.or a.error, version := a.version + 1 } })
    requiredRead request.operationId

/-- `_release_image`. -/
def releaseImage (attempt : ReleaseAttempt) : ReleaseProgram String := do
  let p ← Program.demand attempt.prepared
    (.conflict "deployment attempt has no candidate release")
  let image ← transaction "release image read failed"
    (Tx.demand (fun w => (w.releases.lookup p.candidateReleaseId).map (·.imageRef))
      (.conflict "candidate release is missing"))
  requireImage image "candidate image_ref must be digest-pinned"
  return image

/-- `previous_image_ref` of an attempt. -/
def previousImage (attempt : ReleaseAttempt) : ReleaseProgram String := do
  let p ← Program.demand attempt.prepared (.conflict "previous_image_ref must be digest-pinned")
  requireImage p.previousImageRef "previous_image_ref must be digest-pinned"
  return p.previousImageRef

/-! ### Preparing -/

/-- The last transaction of `_prepare`. -/
def prepareInTransaction (request : UpgradeRequest) (releaseId : String) (candidate : VerifiedImage)
    (observed : String) (range : ℕ × ℕ) (evidence : Json) : ReleaseTx ReleaseAttempt := do
  let boundary ← Tx.query (·.boundary)
  Tx.require (boundary.runningImageRef = observed)
    (.conflict "registered running image changed during preflight")
  Tx.attempt
    (insertRelease
      { releaseId, manifestDigest := boundary.manifestDigest,
        sourceRevision := request.sourceRevision, imageRef := candidate.imageRef,
        minimumDatabaseVersion := candidate.minimumDatabaseVersion,
        maximumDatabaseVersion := candidate.maximumDatabaseVersion,
        buildEvidenceRef := candidate.buildEvidenceRef,
        testEvidenceRef := candidate.testEvidenceRef, status := .verified })
    (.store "candidate release persistence failed")
  let release ← Tx.demand (fun w => w.releases.lookup releaseId)
    (.conflict "immutable candidate release conflicts with existing record")
  Tx.require
    (release.sourceRevision = request.sourceRevision ∧ release.imageRef = candidate.imageRef ∧
      release.minimumDatabaseVersion = candidate.minimumDatabaseVersion ∧
      release.maximumDatabaseVersion = candidate.maximumDatabaseVersion ∧
      release.buildEvidenceRef = candidate.buildEvidenceRef ∧
      release.testEvidenceRef = candidate.testEvidenceRef)
    (.conflict "immutable candidate release conflicts with existing record")
  let attempt ← requiredRead request.operationId
  Tx.require (attempt.status = .building)
    (.conflict "release attempt changed during candidate preparation")
  Tx.modify (updateAttempt request.operationId (fun _ => True)
    { set := fun a => { a with
        prepared := some ⟨releaseId, observed, range.1, range.2⟩
        status := .deploying
        evidence
        version := a.version + 1 } })
  requiredRead request.operationId

/-- `_prepare`. -/
def prepare (request : UpgradeRequest) (releaseId : String) (candidate : VerifiedImage) :
    ReleaseProgram ReleaseAttempt := do
  let databaseVersion ← Program.ask fun e w => (.ok e.databaseVersion, w)
  Program.require (candidate.minimumDatabaseVersion ≤ databaseVersion ∧
      databaseVersion ≤ candidate.maximumDatabaseVersion)
    (.conflict "candidate does not support the current database schema")
  let boundary ← transaction "project runtime boundary read failed" (Tx.query (·.boundary))
  let observed ← observe
  Program.require (observed.imageRef = some boundary.runningImageRef)
    (.conflict "observed deployment differs from the registered running image")
  Program.require (observed.healthy = true) (.conflict "current deployment is not healthy")
  Program.require (candidate.imageRef ≠ boundary.runningImageRef)
    (.conflict "candidate image is already running")
  let range ← transaction "previous schema range read failed" (Tx.query fun w =>
    (w.releases.find (·.imageRef = boundary.runningImageRef)).elim
      (databaseVersion, databaseVersion)
      fun r => (r.minimumDatabaseVersion, r.maximumDatabaseVersion))
  Program.require (range.1 ≤ databaseVersion ∧ databaseVersion ≤ range.2)
    (.conflict "previous image cannot roll back on the current database schema")
  transaction "candidate release persistence failed"
    (prepareInTransaction request releaseId candidate boundary.runningImageRef range
      (.obj [("build_evidence_ref", .str candidate.buildEvidenceRef),
        ("database_version", .int databaseVersion),
        ("initial_observation_ref", .str observed.evidenceRef),
        ("test_evidence_ref", .str candidate.testEvidenceRef)]))

/-- `_build`. -/
def buildCandidate (request : UpgradeRequest) (releaseId : String) :
    ReleaseProgram ReleaseAttempt :=
  tryCatch
    (do
      validate
      let candidate ← build
      prepare request releaseId candidate)
    fun e => finish request .rejected (some (safeError e)) (.obj [("stage", .str "preflight")])

/-! ### Deploying and rolling back -/

/-- The transaction of `_deployed`. -/
def deployedInTransaction (request : UpgradeRequest) (p : PreparedRelease) (candidate : String)
    (evidenceRef : String) : ReleaseTx ReleaseAttempt := do
  let boundary ← Tx.query (·.boundary)
  Tx.require (boundary.runningImageRef = p.previousImageRef)
    (.conflict "registered image changed before deployment commit")
  Tx.modify fun w => { w with
    boundary := { w.boundary with
      runningImageRef := candidate
      version := w.boundary.version + 1 } }
  Tx.modify (setReleaseStatus
    (fun r => r.imageRef = p.previousImageRef ∧ r.status = .deployed) .retired)
  Tx.modify (setReleaseStatus (fun r => r.releaseId = p.candidateReleaseId) .deployed)
  finishInTransaction request.operationId .deployed none
    (.obj [("final_observation_ref", .str evidenceRef)])

/-- `_deployed`. -/
def deployed (request : UpgradeRequest) (attempt : ReleaseAttempt)
    (observed : DeploymentObservation) : ReleaseProgram ReleaseAttempt := do
  let candidate ← releaseImage attempt
  let _ ← previousImage attempt
  let p ← Program.demand attempt.prepared (.conflict "previous_image_ref must be digest-pinned")
  transaction "deployment commit failed"
    (deployedInTransaction request p candidate observed.evidenceRef)

/-- An observation of a healthy deployment of an image. -/
def Healthy (image : String) (o : Except String DeploymentObservation) : Prop :=
  match o with
  | .ok o => o.imageRef = some image ∧ o.healthy = true
  | .error _ => False

instance (image : String) : DecidablePred (Healthy image)
  | .ok o => inferInstanceAs (Decidable (o.imageRef = some image ∧ o.healthy = true))
  | .error _ => isFalse id

/-- The image of an observation. -/
def observedImage : Except String DeploymentObservation → Option String
  | .ok o => o.imageRef
  | .error _ => none

/-- The error of an observation. -/
def observeError : Except String DeploymentObservation → Option String
  | .ok _ => none
  | .error detail => some detail

/-- The evidence of an observation. -/
def observeEvidence : Except String DeploymentObservation → String
  | .ok o => o.evidenceRef
  | .error _ => ""

/-- `_finish_rollback`. -/
def finishRollback (request : UpgradeRequest) (attempt : ReleaseAttempt) (evidenceRef : String) :
    ReleaseProgram ReleaseAttempt :=
  finish request .rolledBack
    (some (attempt.error.getD "candidate deployment was rolled back"))
    (.obj [("rollback_observation_ref", .str evidenceRef)])

/-- `_rollback`. -/
def rollback (request : UpgradeRequest) (attempt : ReleaseAttempt) (previous : String) :
    ReleaseProgram ReleaseAttempt := do
  let observed ← safeObserve
  if Healthy previous observed then
    finishRollback request attempt (observeEvidence observed)
  else
    let deployError ← tryCatch (do deploy previous; return none) fun e => return some (safeError e)
    let second ← safeObserve
    if Healthy previous second then
      finishRollback request attempt (observeEvidence second)
    else
      finish request .failed
        (some (((deployError.or (observeError second)).or (observeError observed)).getD
          "rollback did not restore a healthy previous image"))
        (.obj [("stage", .str "rollback")])

/-- `_continue` from the phase `rolling_back` on. -/
def rollbackPhase (request : UpgradeRequest) (attempt : ReleaseAttempt) (previous : String) :
    ReleaseProgram ReleaseAttempt := do
  Program.require (attempt.status = .rollingBack)
    (.conflict ("unsupported deployment phase: " ++ attempt.status.text))
  rollback request attempt previous

/-- `_continue` in the phase `verifying`. -/
def verify (request : UpgradeRequest) (attempt : ReleaseAttempt) (candidate previous : String) :
    ReleaseProgram ReleaseAttempt := do
  let observed ← safeObserve
  if Healthy candidate observed then
    deployed request attempt ⟨some candidate, true, observeEvidence observed⟩
  else
    let attempt ← phase request .rollingBack
      (some ((observeError observed).getD "candidate failed post-deployment health"))
    rollbackPhase request attempt previous

/-- `_continue` after the phase `deploying`. -/
def continueAfter (request : UpgradeRequest) (attempt : ReleaseAttempt)
    (candidate previous : String) : ReleaseProgram ReleaseAttempt :=
  if attempt.status = .verifying then verify request attempt candidate previous
  else rollbackPhase request attempt previous

/-- `_continue` in the phase `deploying`. -/
def deployCandidate (request : UpgradeRequest) (attempt : ReleaseAttempt)
    (candidate previous : String) : ReleaseProgram ReleaseAttempt := do
  let observed ← safeObserve
  if Healthy candidate observed then
    deployed request attempt ⟨some candidate, true, observeEvidence observed⟩
  else if observedImage observed = some candidate then
    let attempt ← phase request .rollingBack (some "candidate unhealthy")
    continueAfter request attempt candidate previous
  else if Healthy previous observed then
    let attempt ← tryCatch
      (do
        deploy candidate
        phase request .verifying none)
      fun e => phase request .rollingBack (some (safeError e))
    continueAfter request attempt candidate previous
  else
    let attempt ← phase request .rollingBack
      (some ((observeError observed).getD "deployment state drifted during upgrade"))
    continueAfter request attempt candidate previous

/-- `_continue`. -/
def continueAttempt (request : UpgradeRequest) (attempt : ReleaseAttempt) :
    ReleaseProgram ReleaseAttempt := do
  let candidate ← releaseImage attempt
  let previous ← previousImage attempt
  if attempt.status = .deploying then deployCandidate request attempt candidate previous
  else continueAfter request attempt candidate previous

/-- `upgrade`, with the lock of the project held. -/
def upgrade (projectId : String) (request : UpgradeRequest) : ReleaseProgram ReleaseAttempt := do
  Program.require (isExternalId request.operationId = true) (.value "operation_id is invalid")
  Program.require (isCommit request.sourceRevision = true) (.value "source_revision is invalid")
  Program.require (isExternalId request.actorId = true) (.value "actor_id is invalid")
  let releaseId := sha256Hex (projectId ++ ":" ++ request.sourceRevision)
  let attempt ← start request
  if attempt.status.Terminal then return attempt
  let attempt ←
    if attempt.status = .building then buildCandidate request releaseId else pure attempt
  if attempt.status.Terminal then return attempt
  continueAttempt request attempt

end ImmutableReleaseCoordinator

end AgenticMesh
