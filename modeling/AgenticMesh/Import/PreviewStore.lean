import AgenticMesh.Base.Run
import AgenticMesh.Import.Preview

/-!
# The import preview store

Previews of an import are numbered revisions.  A sponsor decides the latest one,
and an approved one is activated: a first transaction records the operation and
hands its request to an external activator, a second one records the receipt.
A transaction holds the rows that it reads until it commits; an activation also
holds an advisory lock of its import for as long as its connection lives.
-/

namespace AgenticMesh

/-! ## Tables -/

/-- The status of a preview. -/
inductive PreviewStatus where
  | draft
  | superseded
  | approved
  | rejected
  | activated
deriving DecidableEq

/-- `project_import_previews`. -/
structure PreviewRow where
  importId : String
  revision : ℕ
  questionVersion : ℕ
  resolutionDigest : String
  previewDigest : String
  projectId : String
  manifestDigest : String
  manifestSnapshot : Json
  sourceSelections : List Json
  backlogCandidates : List Json
  selectedCandidateIds : List String
  status : PreviewStatus
  createdBy : String
deriving DecidableEq

def PreviewRow.key (p : PreviewRow) : String × ℕ := (p.importId, p.revision)

/-- What a sponsor decides about a preview. -/
inductive PreviewVerdict where
  | approved
  | rejected
deriving DecidableEq

/-- The status of a preview with a decision. -/
def PreviewVerdict.status : PreviewVerdict → PreviewStatus
  | approved => .approved
  | rejected => .rejected

/-- `project_import_preview_decisions`. -/
structure ImportPreviewDecision where
  importId : String
  revision : ℕ
  sponsorId : String
  decision : PreviewVerdict
  rationale : String
  evidence : Json
deriving DecidableEq

def ImportPreviewDecision.key (d : ImportPreviewDecision) : String × ℕ := (d.importId, d.revision)

/-- The status of an activation, with the columns that its check constraint ties to it. -/
inductive ActivationStatus where
  | pending (lastError : Option String)
  | activated (receipt : Json)
deriving DecidableEq

/-- The receipt of an activation that is done. -/
def ActivationStatus.receipt? : ActivationStatus → Option Json
  | pending _ => none
  | activated receipt => some receipt

/-- `last_error = NULL`. -/
def ActivationStatus.withoutError : ActivationStatus → ActivationStatus
  | pending _ => pending none
  | activated receipt => activated receipt

/-- `project_import_activations`. -/
structure ActivationRow where
  importId : String
  revision : ℕ
  operationId : String
  status : ActivationStatus
  attempts : ℕ
  requestedBy : String
deriving DecidableEq

def ActivationRow.key (a : ActivationRow) : String := a.importId

/-- The tables of the import previews. -/
structure PreviewDb where
  questions : QuestionDb := {}
  previews : Table PreviewRow PreviewRow.key := ∅
  decisions : Table ImportPreviewDecision ImportPreviewDecision.key := ∅
  activations : Table ActivationRow ActivationRow.key := ∅

/-- The session of an import. -/
def PreviewDb.session (db : PreviewDb) (importId : String) : Option QuestionSession :=
  db.questions.sessions.lookup importId

/-! ## Values -/

/-- A preview as it is read. -/
structure ImportPreview where
  row : PreviewRow
  manifest : ProjectManifest
  sourceSelections : List SourceSelection
  backlogCandidates : List BacklogCandidate
deriving DecidableEq

/-- `ImportActivationRequest`: what an activator is asked for. -/
structure ImportActivationRequest where
  importId : String
  revision : ℕ
  operationId : String
  manifest : ProjectManifest
  sponsorIds : List String
  sourceSelections : List SourceSelection
  selectedCandidates : List BacklogCandidate
  requestedBy : String
deriving DecidableEq

/-- `ImportActivationReceipt`, in its normalized form. -/
structure ImportActivationReceipt where
  projectId : String
  manifestDigest : String
  selectedCandidateIds : List String
  activationRef : String
  projectId_ok : isSlug projectId = true
  manifestDigest_ok : isDigest manifestDigest = true
  selected_ok : ∀ id ∈ selectedCandidateIds, ImportPreview.isId id = true
  selected_sorted : selectedCandidateIds.Pairwise (· < ·)
  activationRef_ok :
    ImportPreview.safeText (.str activationRef) "activation_ref" 1000 = .ok activationRef

namespace ImportActivationReceipt

instance : DecidableEq ImportActivationReceipt := fun r s =>
  decidable_of_iff (r.projectId = s.projectId ∧ r.manifestDigest = s.manifestDigest ∧
      r.selectedCandidateIds = s.selectedCandidateIds ∧ r.activationRef = s.activationRef) (by
    cases r
    cases s
    simp)

/-- `ImportActivationReceipt(...)`, with the checks of `__post_init__`. -/
def init (projectId manifestDigest : Json) (selected : List Json) (reference : Json) :
    PreviewCheck ImportActivationReceipt := do
  let projectId ← ImportPreview.checked (ImportPreview.matching isSlug projectId "project_id")
  let digest ← ImportPreview.checked
    (ImportPreview.digestValue manifestDigest "manifest_digest")
  let ids ← ImportPreview.checkedList (fun v => ImportPreview.idArg v "candidate_id")
    (fun _ _ h => ImportPreview.matching_ok.2 ⟨rfl, (ImportPreview.matching_ok.1 h).2⟩) selected
  let sorted ← BacklogCandidate.proved (ids.1.Pairwise (· < ·))
    (.activation "receipt candidate ids must be sorted and unique")
  let reference ← ImportPreview.checked (ImportPreview.safeText reference "activation_ref" 1000)
  return {
    projectId := projectId.1
    manifestDigest := digest.1
    selectedCandidateIds := ids.1
    activationRef := reference.1
    projectId_ok := (ImportPreview.matching_ok.1 projectId.2).2
    manifestDigest_ok := (ImportPreview.matching_ok.1 digest.2).2
    selected_ok := fun id hid => (ImportPreview.matching_ok.1 (ids.2 id hid)).2
    selected_sorted := sorted.down
    activationRef_ok := ImportPreview.safeText_idem reference.2 }

/-- `asdict`. -/
def toDict (r : ImportActivationReceipt) : Json :=
  .obj [("activation_ref", .str r.activationRef), ("manifest_digest", .str r.manifestDigest),
    ("project_id", .str r.projectId),
    ("selected_candidate_ids", .arr (r.selectedCandidateIds.map .str))]

/-- `_receipt_from_dict`. -/
def fromDict (value : Json) : PreviewCheck ImportActivationReceipt := do
  Check.that (value.asObject.isSome = true) (.store "stored activation receipt is invalid")
  init ((value.get? "project_id").getD .null) ((value.get? "manifest_digest").getD .null)
    (((value.get? "selected_candidate_ids").bind Json.asArray).getD [])
    ((value.get? "activation_ref").getD .null)

/-- A stored receipt is read back. -/
lemma fromDict_toDict (r : ImportActivationReceipt) : fromDict r.toDict = .ok r := by
  obtain ⟨projectId, digest, selected, reference, hproject, hdigest, hselected, hsorted,
    hreference⟩ := r
  have hprojectArg : ImportPreview.matching isSlug (.str projectId) "project_id" = .ok projectId :=
    ImportPreview.matching_ok.2 ⟨rfl, hproject⟩
  have hdigestArg : ImportPreview.digestValue (.str digest) "manifest_digest" = .ok digest :=
    ImportPreview.matching_ok.2 ⟨rfl, hdigest⟩
  have hids : ∀ id ∈ selected, ImportPreview.idArg (.str id) "candidate_id" = .ok id :=
    fun id hid => ImportPreview.matching_ok.2 ⟨rfl, hselected id hid⟩
  refine Check.bind_ok.2 ⟨(), Check.that_ok.2 rfl, ?_⟩
  refine Check.bind_ok.2 ⟨_, ImportPreview.checked_of_ok hprojectArg, ?_⟩
  refine Check.bind_ok.2 ⟨_, ImportPreview.checked_of_ok hdigestArg, ?_⟩
  refine Check.bind_ok.2 ⟨_, ImportPreview.checkedList_map hids, ?_⟩
  refine Check.bind_ok.2 ⟨_, BacklogCandidate.proved_of hsorted, ?_⟩
  exact Check.bind_ok.2 ⟨_, ImportPreview.checked_of_ok hreference, rfl⟩

end ImportActivationReceipt

namespace ImportPreviewStore

/-- A transaction of the preview store. -/
abbrev PreviewTx := Tx PreviewDb ImportPreviewError

/-! ## Reading -/

/-- The validation of a manifest. -/
def validateManifest (lib : TextLibrary) (snapshot : Json) : PreviewCheck ProjectManifest :=
  (ProjectManifest.normalizeProjectManifest lib snapshot).mapError .manifest

/-- The checks of `_read_preview` on a row and the report of its session. -/
def readRow (lib : TextLibrary) (row : PreviewRow) (report : Option Json) :
    PreviewCheck ImportPreview := do
  let manifest ← validateManifest lib row.manifestSnapshot
  Check.that (manifest.digest = row.manifestDigest ∧ manifest.projectId = row.projectId)
    (.store "stored preview manifest is invalid")
  let selections ← row.sourceSelections.mapM SourceSelection.fromDict
  let candidates ← row.backlogCandidates.mapM BacklogCandidate.fromDict
  let report ← Check.found report (.store "stored preview has no question session")
  let sourceKeys ← ImportPreview.reportSourceKeys report
  ImportPreview.validateSelections sourceKeys selections manifest
  ImportPreview.validateCandidates sourceKeys candidates row.selectedCandidateIds
    (ImportPreview.includedKeys selections)
  Check.that ((ImportPreview.previewBody row.resolutionDigest row.manifestDigest selections
    candidates row.selectedCandidateIds).digest = row.previewDigest)
    (.store "stored preview digest is invalid")
  return { row, manifest, sourceSelections := selections, backlogCandidates := candidates }

/-- `_read_preview`. -/
def readPreview (lib : TextLibrary) (importId : String) (revision : ℕ) :
    PreviewTx ImportPreview := do
  let row ← Tx.demand (fun db => db.previews.lookup (importId, revision))
    (.notFound "import preview was not found")
  let session ← Tx.query fun db => db.session importId
  Tx.ofExcept (readRow lib row (session.map QuestionSession.discoveryReport))

/-- The session of an import, locked. -/
def lockSession (importId : String) : PreviewTx QuestionSession :=
  Tx.demand (fun db => db.session importId) (.notFound "import question session was not found")

/-- `_session_sponsors`. -/
def sessionSponsors (importId : String) : PreviewTx (List String) := do
  let session ← lockSession importId
  Tx.ofExcept (ImportPreview.sponsorsOf session.answers)

/-- The session is at the resolution of the preview. -/
def Current (row : PreviewRow) (session : QuestionSession) : Prop :=
  session.status = .ready ∧ session.version = row.questionVersion ∧
    (resolutionBody row.importId session).digest = row.resolutionDigest

instance (row : PreviewRow) (session : QuestionSession) : Decidable (Current row session) :=
  inferInstanceAs (Decidable (_ ∧ _))

/-- `_ensure_preview_current`. -/
def ensurePreviewCurrent (preview : ImportPreview) : PreviewTx Unit := do
  let session ← lockSession preview.row.importId
  Tx.require (Current preview.row session)
    (.conflict "preview question resolution is no longer current")

/-- The revision of the latest preview, `0` before the first one. -/
def latestRevision (importId : String) (db : PreviewDb) : ℕ :=
  ((db.previews.select fun p => p.importId = importId).map PreviewRow.revision).foldr max 0

/-- The latest preview. -/
def latest (importId : String) (db : PreviewDb) : Option PreviewRow :=
  db.previews.lookup (importId, latestRevision importId db)

/-! ## Arguments -/

/-- `_uuid`. -/
def uuidArg (value : String) : PreviewCheck String :=
  Check.found (uuid? value) (.value "import_id must be a UUID")

/-- `_positive`. -/
def positiveArg (value : ℤ) (field : String) : PreviewCheck ℕ := do
  Check.that (1 ≤ value) (.value (field ++ " must be a positive integer"))
  return value.toNat

/-- `_safe_mapping`. -/
def safeMapping (value : Json) (field : String) : PreviewCheck Json := do
  Check.that (value.asObject.isSome = true) (.value (field ++ " must be an object"))
  let encoded := Json.ascii (Json.dumps value)
  Check.that (encoded.toList.length ≤ 64000 ∧ holdsSecret encoded = false)
    (.value (field ++ " is too large or contains secret material"))
  return value

/-- `except Exception`: other errors than those of the previews are errors of the store. -/
def storeError (message : String) : ImportPreviewError → ImportPreviewError
  | .manifest _ => .store message
  | .store _ => .store message
  | error => error

/-! ## Creating a preview -/

/-- The arguments of `create`. -/
structure CreatePreview where
  resolution : ImportQuestionResolution
  manifest : ProjectManifest
  sourceSelections : List SourceSelection
  backlogCandidates : List BacklogCandidate
  selectedCandidateIds : List String
  expectedPriorRevision : ℤ
  actorId : String

/-- `_lock_resolution`. -/
def lockResolution (importId : String) (resolution : ImportQuestionResolution) :
    PreviewTx QuestionSession := do
  let session ← lockSession importId
  Tx.require (session.status = .ready ∧ session.version = resolution.sessionVersion ∧
    session.discoveryDigest = resolution.discoveryDigest ∧
    session.discoveryReport = resolution.discoveryReport ∧
    session.questionnaireDigest = resolution.questionnaireDigest ∧
    session.answers = resolution.answers ∧
    (resolutionBody resolution.importId session).digest = resolution.resolutionDigest)
    (.conflict "question resolution is stale, incomplete, or inconsistent")
  let _ ← Tx.ofExcept (ImportPreview.sponsorsOf session.answers)
  return session

/-- The contents of a preview, in their orders. -/
structure PreviewContent where
  importId : String
  actorId : String
  sourceSelections : List SourceSelection
  backlogCandidates : List BacklogCandidate
  selectedCandidateIds : List String

/-- The arguments of `create_preview`, checked and sorted. -/
def contentArg (lib : TextLibrary) (r : CreatePreview) : PreviewCheck PreviewContent := do
  let importId ← uuidArg r.resolution.importId
  let actorId ← ImportPreview.actor (.str r.actorId)
  Check.that (0 ≤ r.expectedPriorRevision) (.value "expected_prior_revision is invalid")
  let validated ← validateManifest lib r.manifest.snapshot
  Check.that (validated = r.manifest)
    (.conflict "project manifest does not match its snapshot")
  let selected ← r.selectedCandidateIds.mapM fun id =>
    ImportPreview.idArg (.str id) "candidate_id"
  let selected := selected.insertionSort (· ≤ ·)
  Check.that selected.Nodup (.value "selected candidate ids must be unique")
  return {
    importId
    actorId
    sourceSelections := r.sourceSelections.insertionSort (·.sourceKey ≤ ·.sourceKey)
    backlogCandidates := r.backlogCandidates.insertionSort (·.candidateId ≤ ·.candidateId)
    selectedCandidateIds := selected }

/-- The row of a new revision. -/
def newPreview (r : CreatePreview) (content : PreviewContent) (digest : String)
    (revision : ℕ) : PreviewRow where
  importId := content.importId
  revision
  questionVersion := r.resolution.sessionVersion
  resolutionDigest := r.resolution.resolutionDigest
  previewDigest := digest
  projectId := r.manifest.projectId
  manifestDigest := r.manifest.digest
  manifestSnapshot := r.manifest.snapshot
  sourceSelections := content.sourceSelections.map SourceSelection.toDict
  backlogCandidates := content.backlogCandidates.map BacklogCandidate.toDict
  selectedCandidateIds := content.selectedCandidateIds
  status := .draft
  createdBy := content.actorId

/-- `UPDATE project_import_previews SET status = ...`. -/
def setStatus (importId : String) (revision : ℕ) (status : PreviewStatus) (db : PreviewDb) :
    PreviewDb :=
  { db with
    previews := db.previews.update (fun p => p.importId = importId ∧ p.revision = revision)
      { set := fun p => { p with status } } }

/-- `INSERT INTO project_import_previews`, which refuses a second digest of an import. -/
def insertPreview (row : PreviewRow) (db : PreviewDb) : Option PreviewDb :=
  if db.previews.Any fun p => p.importId = row.importId ∧ p.previewDigest = row.previewDigest then
    none
  else (db.previews.insert row).map fun previews => { db with previews }

/-- The revision after the latest one. -/
def revise (lib : TextLibrary) (r : CreatePreview) (content : PreviewContent) (digest : String)
    (last : Option PreviewRow) (actual : ℕ) : PreviewTx ImportPreview := do
  Tx.require ((actual : ℤ) = r.expectedPriorRevision)
    (.conflict ("preview revision changed: expected " ++
      decimal r.expectedPriorRevision.toNat ++ ", found " ++ decimal actual))
  Tx.require (∀ p ∈ last, p.previewDigest ≠ digest)
    (.conflict "new preview revision must change content")
  Tx.require (∀ p ∈ last, p.status ≠ .approved ∧ p.status ≠ .activated)
    (.conflict "approved or activated preview cannot be revised")
  Tx.modify fun db =>
    if last.isSome then setStatus content.importId actual .superseded db else db
  Tx.attempt (insertPreview (newPreview r content digest (actual + 1)))
    (.store "import preview creation failed")
  readPreview lib content.importId (actual + 1)

/-- The transaction of `create_preview`. -/
def createIn (lib : TextLibrary) (r : CreatePreview) (content : PreviewContent) :
    PreviewTx ImportPreview := do
  let session ← lockResolution content.importId r.resolution
  Tx.ofExcept (ImportPreview.validateProjectIdentity session.discoveryReport session.answers
    r.manifest)
  let sourceKeys ← Tx.ofExcept (ImportPreview.reportSourceKeys session.discoveryReport)
  Tx.ofExcept (ImportPreview.validateSelections sourceKeys content.sourceSelections r.manifest)
  Tx.ofExcept (ImportPreview.validateCandidates sourceKeys content.backlogCandidates
    content.selectedCandidateIds (ImportPreview.includedKeys content.sourceSelections))
  let digest := (ImportPreview.previewBody r.resolution.resolutionDigest r.manifest.digest
    content.sourceSelections content.backlogCandidates content.selectedCandidateIds).digest
  let last ← Tx.query (latest content.importId)
  let actual := (last.map PreviewRow.revision).getD 0
  if (actual : ℤ) = r.expectedPriorRevision + 1 ∧ (last.map PreviewRow.previewDigest) = some digest
  then readPreview lib content.importId actual
  else revise lib r content digest last actual

/-- `create_preview`. -/
def createPreview (lib : TextLibrary) (r : CreatePreview) : PreviewTx ImportPreview := do
  let content ← Tx.ofExcept (contentArg lib r)
  (createIn lib r content).mapError (storeError "import preview creation failed")

/-! ## Deciding -/

/-- The arguments of `decide`. -/
structure DecidePreview where
  importId : String
  revision : ℤ
  sponsorId : String
  decision : PreviewVerdict
  rationale : String
  evidence : Json := .obj []

/-- The arguments of `decide`, checked. -/
def decisionArg (r : DecidePreview) : PreviewCheck ImportPreviewDecision := do
  let importId ← uuidArg r.importId
  let revision ← positiveArg r.revision "revision"
  let sponsorId ← ImportPreview.actor (.str r.sponsorId)
  let rationale ← ImportPreview.safeText (.str r.rationale) "rationale" 2000
  let evidence ← safeMapping r.evidence "evidence"
  return { importId, revision, sponsorId, decision := r.decision, rationale, evidence }

/-- A decision on a preview without one. -/
def decideDraft (preview : ImportPreview) (decision : ImportPreviewDecision) :
    PreviewTx ImportPreviewDecision := do
  let last ← Tx.query (latestRevision decision.importId)
  Tx.require (decision.revision = last ∧ preview.row.status = .draft)
    (.conflict "only the latest draft preview can be decided")
  ensurePreviewCurrent preview
  let sponsors ← sessionSponsors decision.importId
  Tx.require (decision.sponsorId ∈ sponsors) (.conflict "decision actor is not a project sponsor")
  Tx.attempt (fun db => (db.decisions.insert decision).map fun decisions => { db with decisions })
    (.store "import preview decision failed")
  Tx.modify (setStatus decision.importId decision.revision decision.decision.status)
  return decision

/-- The transaction of `decide`. -/
def decideIn (lib : TextLibrary) (decision : ImportPreviewDecision) :
    PreviewTx ImportPreviewDecision := do
  let preview ← readPreview lib decision.importId decision.revision
  let existing ← Tx.query fun db => db.decisions.lookup (decision.importId, decision.revision)
  match existing with
  | some existing =>
    Tx.require (existing = decision) (.conflict "preview decision already exists")
    return existing
  | none => decideDraft preview decision

/-- `decide`. -/
def decidePreview (lib : TextLibrary) (r : DecidePreview) : PreviewTx ImportPreviewDecision := do
  let decision ← Tx.ofExcept (decisionArg r)
  (decideIn lib decision).mapError (storeError "import preview decision failed")

/-! ## Activating -/

/-- The arguments of `activate`. -/
structure ActivateImport where
  importId : String
  revision : ℤ
  operationId : String
  actorId : String

/-- The arguments of `activate`, checked: the columns of a new activation. -/
def activationArg (r : ActivateImport) : PreviewCheck ActivationRow := do
  let importId ← uuidArg r.importId
  let revision ← positiveArg r.revision "revision"
  let operationId ← ImportPreview.idArg (.str r.operationId) "operation_id"
  let actorId ← ImportPreview.actor (.str r.actorId)
  return {
    importId
    revision
    operationId
    status := .pending none
    attempts := 0
    requestedBy := actorId }

/-- `_request`. -/
def request (lib : TextLibrary) (preview : ImportPreview) (operationId requestedBy : String) :
    PreviewTx ImportActivationRequest := do
  let manifest ← Tx.ofExcept (validateManifest lib preview.row.manifestSnapshot)
  let sponsors ← sessionSponsors preview.row.importId
  return {
    importId := preview.row.importId
    revision := preview.row.revision
    operationId
    manifest
    sponsorIds := sponsors
    sourceSelections := preview.sourceSelections
    selectedCandidates := ImportPreview.selectedCandidates preview.backlogCandidates
      preview.row.selectedCandidateIds
    requestedBy }

/-- The activation of the import: the one that is there, or a new one. -/
def claimActivation (preview : ImportPreview) (activation : ActivationRow) :
    PreviewTx ActivationRow := do
  let existing ← Tx.query fun db => db.activations.lookup activation.importId
  match existing with
  | some existing =>
    Tx.require (existing.revision = activation.revision ∧
      existing.operationId = activation.operationId)
      (.conflict "import already has another activation")
    return existing
  | none =>
    Tx.require (preview.row.status = .approved) (.conflict "preview is not ready for activation")
    Tx.attempt
      (fun db => (db.activations.insert activation).map fun activations => { db with activations })
      (.store "import activation failed")
    return activation

/-- `UPDATE project_import_activations SET attempts = attempts + 1, last_error = NULL`. -/
def countAttempt (importId : String) (db : PreviewDb) : PreviewDb :=
  { db with
    activations := db.activations.update (fun a => a.importId = importId)
      { set := fun a => { a with
          attempts := a.attempts + 1
          status := a.status.withoutError } } }

/-- `_activation_request`. -/
def activationRequest (lib : TextLibrary) (activation : ActivationRow) :
    PreviewTx (ImportActivationRequest × Option ImportActivationReceipt) := do
  let preview ← readPreview lib activation.importId activation.revision
  let decision ← Tx.query fun db =>
    db.decisions.lookup (activation.importId, activation.revision)
  Tx.require (decision.map ImportPreviewDecision.decision = some .approved)
    (.conflict "exact preview revision is not sponsor approved")
  let claimed ← claimActivation preview activation
  match claimed.status with
  | .activated receipt => do
    let request ← request lib preview activation.operationId claimed.requestedBy
    let receipt ← Tx.ofExcept (ImportActivationReceipt.fromDict receipt)
    return (request, some receipt)
  | .pending _ => do
    ensurePreviewCurrent preview
    Tx.modify (countAttempt activation.importId)
    let request ← request lib preview activation.operationId claimed.requestedBy
    return (request, none)

/-- The first transaction of `activate`. -/
def beginActivation (lib : TextLibrary) (r : ActivateImport) :
    PreviewTx (ImportActivationRequest × Option ImportActivationReceipt) := do
  let activation ← Tx.ofExcept (activationArg r)
  (activationRequest lib activation).mapError (storeError "import activation failed")

/-- `UPDATE project_import_activations SET last_error = ...`, which the check constraint refuses
for an activation that is done. -/
def recordFailure (importId operationId : String) (db : PreviewDb) : Option PreviewDb :=
  if db.activations.Any fun a => a.importId = importId ∧ a.operationId = operationId ∧
      a.status.receipt?.isSome then none
  else some { db with
    activations := db.activations.update
      (fun a => a.importId = importId ∧ a.operationId = operationId)
      { set := fun a => { a with status := .pending (some "activation adapter failed") } } }

/-- `_validate_receipt`. -/
def ReceiptMatches (request : ImportActivationRequest) (receipt : ImportActivationReceipt) : Prop :=
  receipt.projectId = request.manifest.projectId ∧
    receipt.manifestDigest = request.manifest.digest ∧
    receipt.selectedCandidateIds = request.selectedCandidates.map BacklogCandidate.candidateId

instance (request : ImportActivationRequest) (receipt : ImportActivationReceipt) :
    Decidable (ReceiptMatches request receipt) := inferInstanceAs (Decidable (_ ∧ _))

/-- The second transaction of `activate`. -/
def complete (request : ImportActivationRequest) (receipt : ImportActivationReceipt)
    (db : PreviewDb) : PreviewDb :=
  { db with
    activations := db.activations.update
      (fun a => a.importId = request.importId ∧ a.revision = request.revision ∧
        a.operationId = request.operationId ∧ a.status.receipt? = none)
      { set := fun a => { a with status := .activated receipt.toDict } }
    previews := db.previews.update
      (fun p => p.importId = request.importId ∧ p.revision = request.revision ∧
        p.status = .approved)
      { set := fun p => { p with status := .activated } } }

end ImportPreviewStore

/-! ## The calls in flight -/

/-- A call of `activate` whose request is recorded. -/
structure ActivationCall where
  callId : ℕ
  request : ImportActivationRequest
  /-- The activator has been called. -/
  handed : Bool
  /-- The connection of the call, and the advisory lock with it, is alive. -/
  connected : Bool
deriving DecidableEq

def ActivationCall.key (c : ActivationCall) : ℕ := c.callId

/-- How the activator answers. -/
inductive ActivatorAnswer where
  /-- It raises an exception. -/
  | raised
  /-- It returns something that is not a receipt. -/
  | invalid
  | receipt (receipt : ImportActivationReceipt)

/-- The stores, the calls in flight, and the requests that the activator has got. -/
structure ImportSystem where
  db : PreviewDb := {}
  calls : Table ActivationCall ActivationCall.key := ∅
  handed : List ImportActivationRequest := []

/-- What happens to an import. -/
inductive ImportEvent where
  | question (call : ImportQuestionStore.QuestionCall)
  | create (call : ImportPreviewStore.CreatePreview)
  | decide (call : ImportPreviewStore.DecidePreview)
  /-- A call of `activate` takes the lock and commits its first transaction. -/
  | activate (callId : ℕ) (call : ImportPreviewStore.ActivateImport)
  /-- The activator gets the request of the call. -/
  | hand (callId : ℕ)
  /-- The activator answers the call, which commits its second transaction. -/
  | answer (callId : ℕ) (answer : ActivatorAnswer)
  /-- The connection of the call is lost while its process lives on. -/
  | disconnect (callId : ℕ)
  /-- The process of the call dies. -/
  | crash (callId : ℕ)

namespace ImportSystem

open ImportPreviewStore

/-- The advisory lock of an import is held. -/
def Locked (s : ImportSystem) (importId : String) : Prop :=
  s.calls.Any fun c => c.request.importId = importId ∧ c.connected = true

instance (s : ImportSystem) (importId : String) : Decidable (s.Locked importId) :=
  inferInstanceAs (Decidable (∃ _ ∈ _, _))

/-- The call is over. -/
def drop (callId : ℕ) (s : ImportSystem) : ImportSystem :=
  { s with calls := s.calls.delete fun c => c.callId = callId }

/-- The first transaction of a call, once it has the lock. -/
def begin (lib : TextLibrary) (callId : ℕ) (r : ActivateImport) (s : ImportSystem) :
    ImportSystem :=
  match beginActivation lib r s.db with
  | .ok ((request, none), db) =>
    match s.calls.insert ⟨callId, request, false, true⟩ with
    | some calls => { s with db, calls }
    | none => s
  | .ok ((_, some _), db) => { s with db }
  | .error _ => s

/-- The second transaction of a call. -/
def settle (c : ActivationCall) (db : PreviewDb) : ActivatorAnswer → PreviewDb
  | .raised => (recordFailure c.request.importId c.request.operationId db).getD db
  | .invalid => db
  | .receipt receipt =>
      if ReceiptMatches c.request receipt then complete c.request receipt db else db

/-- The system after an event. -/
def step (lib : TextLibrary) (s : ImportSystem) : ImportEvent → ImportSystem
  | .question call =>
    { s with db := { s.db with questions := ImportQuestionStore.step s.db.questions call } }
  | .create call => { s with db := (createPreview lib call).commit s.db }
  | .decide call => { s with db := (decidePreview lib call).commit s.db }
  | .activate callId call =>
    -- a call waits while the import is locked
    if (∃ id, uuid? call.importId = some id ∧ s.Locked id) ∨ (s.calls.lookup callId).isSome then s
    else begin lib callId call s
  | .hand callId =>
    match s.calls.lookup callId with
    | none => s
    | some c =>
      if c.handed then s
      else { s with
        calls := s.calls.update (fun c => c.callId = callId)
          { set := fun c => { c with handed := true } }
        handed := s.handed ++ [c.request] }
  | .answer callId answer =>
    match s.calls.lookup callId with
    | none => s
    | some c =>
      if c.handed then
        drop callId { s with db := if c.connected then settle c s.db answer else s.db }
      else s
  | .disconnect callId =>
    { s with
      calls := s.calls.update (fun c => c.callId = callId)
        { set := fun c => { c with connected := false } } }
  | .crash callId => drop callId s

end ImportSystem

end AgenticMesh
