import AgenticMesh.Store.Lifecycle
import AgenticMesh.Store.Routing
import Mathlib.Data.List.Sort

/-!
# Retries and recovery

`ReliabilityStore`: a failure of active work opens an incident, and the incident
asks for one attempt after the other, three technical retries, three corrections
by the project manager and one independent recovery, until an attempt succeeds
or all have failed.  Each attempt but the recovery is routed to the role that
owes it.  The filter that rejects sensitive texts is a parameter.
-/

namespace AgenticMesh

/-- The exceptions that the reliability operations raise. -/
inductive ReliabilityError where
  | value (message : String)
  | notFound (message : String)
  | conflict (message : String)
  /-- `ReliabilityError("reliability policy operation failed")`. -/
  | store
deriving DecidableEq

def Stage.text : Stage → String
  | technical => "technical"
  | pmCorrection => "pm_correction"
  | recovery => "recovery"

def Outcome.text : Outcome → String
  | succeeded => "succeeded"
  | failed => "failed"

/-- The number of attempts of a stage. -/
def Stage.maximum : Stage → ℕ
  | recovery => 1
  | _ => 3

/-- `_ordinal`. -/
def ordinalOf : Stage → ℕ → ℕ
  | .technical, n => n
  | .pmCorrection, n => 3 + n
  | .recovery, _ => 7

/-- The incident of an attempt. -/
def FailureAttempt.incidentKey (a : FailureAttempt) : String × String := (a.projectId, a.incidentId)

/-- The arguments of `start`. -/
structure IncidentRequest where
  projectId : String
  workItemId : String
  idempotencyKey : String
  failureCategory : String
  safeSummary : String
  sourceRef : String
  actorId : String

/-- The arguments of `record_attempt`. -/
structure AttemptRequest where
  projectId : String
  workItemId : String
  incidentId : String
  attemptId : String
  stage : Stage
  attemptNumber : ℤ
  outcome : Outcome
  actorId : String
  correctionInstruction : Option String := none
  evidence : List (String × Json) := []

/-- The normalized arguments of `record_attempt`. -/
structure AttemptDraft where
  projectId : String
  workItemId : String
  incidentId : String
  attemptId : String
  stage : Stage
  attemptNumber : ℕ
  outcome : Outcome
  actorId : String
  correction : Option Correction
  evidence : Json

/-- What the checks of the arguments of an attempt establish. -/
structure AttemptDraft.Valid (d : AttemptDraft) : Prop where
  positive : 1 ≤ d.attemptNumber
  maximum : d.attemptNumber ≤ d.stage.maximum
  corrected : d.stage = .pmCorrection ↔ d.correction.isSome
  digest : ∀ c ∈ d.correction, c.digest = sha256Hex c.instruction

/-- An incident with its attempts and its recovery request. -/
structure ReliabilityStatus where
  incident : FailureIncident
  attempts : List FailureAttempt
  recoveryRequest : Option RecoveryRequest
deriving DecidableEq

/-! ## The statements -/

/-- The unique keys of `failure_incidents`, apart from the primary key, leave room for an
incident. -/
def IncidentFresh (i : FailureIncident) (db : Db) : Prop :=
  ∀ j ∈ db.incidents.rows, (j.projectId, j.idempotencyKey) ≠ (i.projectId, i.idempotencyKey) ∧
    (j.workKey = i.workKey → ¬ j.status.Unresolved)

instance (i : FailureIncident) (db : Db) : Decidable (IncidentFresh i db) :=
  inferInstanceAs (Decidable (∀ _ ∈ _, _))

/-- The unique keys of `failure_attempts`, apart from the primary key, leave room for an
attempt. -/
def AttemptFresh (a : FailureAttempt) (db : Db) : Prop :=
  ∀ b ∈ db.attempts.rows, b.incidentKey = a.incidentKey →
    b.ordinal ≠ a.ordinal ∧ (b.stage, b.stageAttempt) ≠ (a.stage, a.stageAttempt) ∧
      ∀ c ∈ a.correction, ∀ d ∈ b.correction, d.digest ≠ c.digest

instance (a : FailureAttempt) (db : Db) : Decidable (AttemptFresh a db) :=
  inferInstanceAs (Decidable (∀ _ ∈ _, _))

namespace Db

/-- `INSERT INTO failure_incidents`, against its unique keys and
`failure_incidents_one_open_idx`. -/
def insertIncident (i : FailureIncident) (db : Db) : Option Db :=
  if IncidentFresh i db then
    (db.incidents.insert i).map fun incidents => { db with incidents }
  else none

/-- `INSERT INTO failure_attempts`, against its unique keys and
`failure_attempts_distinct_correction_idx`. -/
def insertAttempt (a : FailureAttempt) (db : Db) : Option Db :=
  if AttemptFresh a db then
    (db.attempts.insert a).map fun attempts => { db with attempts }
  else none

/-- `INSERT INTO recovery_requests`, against its two unique keys. -/
def insertRequest (r : RecoveryRequest) (db : Db) : Option Db :=
  if db.recoveryRequests.Any fun q => (q.projectId, q.incidentId) = (r.projectId, r.incidentId) then
    none
  else (db.recoveryRequests.insert r).map fun recoveryRequests => { db with recoveryRequests }

/-- The pending recovery request of an incident is resolved. -/
def resolveRequest (incident : String × String) (status : RequestStatus) (evidence : Json)
    (db : Db) : Db :=
  { db with
    recoveryRequests := db.recoveryRequests.update
      (fun r => (r.projectId, r.incidentId) = incident ∧ r.status = .pending)
      { set := fun r => { r with status, evidence } } }

/-- The incident of an idempotency key. -/
def incidentByKey (projectId idempotencyKey : String) (db : Db) : Option FailureIncident :=
  db.incidents.find fun i => (i.projectId, i.idempotencyKey) = (projectId, idempotencyKey)

/-- The attempts of an incident, oldest first. -/
def attemptsOf (incident : String × String) (db : Db) : List FailureAttempt :=
  db.attempts.select fun a => a.incidentKey = incident

/-- `_status`. -/
def reliabilityStatus (projectId incidentId : String) (db : Db) : Option ReliabilityStatus := do
  let incident ← db.incidents.lookup (projectId, incidentId)
  return {
    incident
    attempts := (db.attemptsOf (projectId, incidentId)).insertionSort
      fun a b => a.ordinal ≤ b.ordinal
    recoveryRequest := db.recoveryRequests.find
      fun r => (r.projectId, r.incidentId) = (projectId, incidentId) }

end Db

/-- The status is `active`. -/
def IncidentStatus.isActive : IncidentStatus → Bool
  | active _ _ => true
  | _ => false

namespace ReliabilityStore

/-- `_identifier`. -/
def identifierArg (s field : String) : Tx Db ReliabilityError String :=
  Tx.demand (fun _ => identifier s) (.value (field ++ " is invalid"))

/-- `_bounded`. -/
def boundedArg (s field : String) (maximum : ℕ) : Tx Db ReliabilityError String :=
  Tx.demand (fun _ => bounded maximum s) (.value (field ++ " is invalid"))

/-- `reject_sensitive_content`. -/
def rejectSensitiveContent (sensitive : String → Bool) (s field : String) :
    Tx Db ReliabilityError Unit :=
  Tx.require (sensitive s = false)
    (.value (field ++ " contains restricted content"))

/-- `_derived_id`. -/
def derivedId (kind projectId key : String) : String :=
  kind ++ "-" ++ digestOf 32 [projectId, key]

/-- `_status` in a transaction. -/
def statusIn (projectId incidentId : String) : Tx Db ReliabilityError ReliabilityStatus :=
  Tx.demand (Db.reliabilityStatus projectId incidentId) (.notFound "failure incident not found")

/-- The handler of routing errors. -/
def ofRoutingError : RoutingError → ReliabilityError
  | .notFound _ => .conflict "required continuation route is unavailable"
  | .conflict _ => .conflict "required continuation route is unavailable"
  | .value _ => .store
  | .store => .store
  | .uniqueViolation => .store

/-- The `required_action` of a route. -/
def requiredAction (stage : Stage) (resumed : Bool) : String :=
  if resumed then "Resume normal work after verified independent recovery."
  else if stage = .pmCorrection then
    "Produce and execute one distinct, minimal corrective instruction; " ++
      "do not repeat an earlier correction or over-engineer the repair."
  else "Retry the same bounded operation using the recorded evidence."

/-- The route of an attempt of an incident to a role. -/
def routeDraft (i : FailureIncident) (targetRoleId : String) (stage : Stage) (number : ℕ)
    (resumed : Bool) : RouteDraft where
  projectId := i.projectId
  workItemId := i.workItemId
  targetRoleId := targetRoleId
  idempotencyKey := "reliability:" ++ i.incidentId ++ ":" ++
    (if resumed then "resume" else stage.text ++ "-" ++ decimal number)
  priority := 200
  payload := .obj [
    ("reliability", .obj [
      ("attempt_number", .int number),
      ("incident_id", .str i.incidentId),
      ("required_action", .str (requiredAction stage resumed)),
      ("resumed_after_recovery", .bool resumed),
      ("safe_summary", .str i.safeSummary),
      ("source_ref", .str i.sourceRef),
      ("stage", .str stage.text)])]

/-- `_route`. -/
def route (i : FailureIncident) (targetRoleId : String) (stage : Stage) (number : ℕ)
    (resumed : Bool) (now : Time) : Tx Db ReliabilityError QueueItem :=
  Tx.mapError ofRoutingError do
    let draft ← (routeDraft i targetRoleId stage number resumed).init
    Router.routeInTransaction draft now

/-! ### Starting an incident -/

/-- `_fingerprint` of the request of `start`. -/
def startFingerprint (r : IncidentRequest) : String :=
  sha256Hex <| Json.dumps <| .obj [
    ("failure_category", .str r.failureCategory),
    ("project_id", .str r.projectId),
    ("safe_summary", .str r.safeSummary),
    ("source_ref", .str r.sourceRef),
    ("work_item_id", .str r.workItemId)]

/-- The row that `start` inserts. -/
def newIncident (r : IncidentRequest) (owner : String) : FailureIncident where
  projectId := r.projectId
  incidentId := derivedId "incident" r.projectId r.idempotencyKey
  workItemId := r.workItemId
  ownerRoleId := owner
  idempotencyKey := r.idempotencyKey
  requestFingerprint := startFingerprint r
  failureCategory := r.failureCategory
  safeSummary := r.safeSummary
  sourceRef := r.sourceRef
  status := .active .technical 1

/-- `start` on normalized arguments. -/
def startIn (r : IncidentRequest) (now : Time) : Tx Db ReliabilityError ReliabilityStatus := do
  let work ← Tx.demand (fun db => db.workItems.lookup (r.projectId, r.workItemId))
    (.notFound "work item not found")
  let existing ← Tx.query (Db.incidentByKey r.projectId r.idempotencyKey)
  match existing with
  | some incident => do
    Tx.require (incident.requestFingerprint = startFingerprint r)
      (.conflict "idempotency key is already used by different failure work")
    statusIn r.projectId incident.incidentId
  | none => do
    let owner ← Tx.demand (fun _ => if work.status = .active then work.assignedRoleId else none)
      (.conflict "only active work with an owning role can start recovery")
    let db ← Tx.query id
    Tx.require (¬ db.incidents.Any fun i => i.workKey = work.key ∧ i.status.Unresolved)
      (.conflict "work item already has an unresolved failure incident")
    let incident := newIncident r owner
    Tx.attempt (Db.insertIncident incident) .store
    let _ ← route incident owner .technical 1 false now
    statusIn r.projectId incident.incidentId

def start (sensitive : String → Bool) (r : IncidentRequest) (now : Time) :
    Tx Db ReliabilityError ReliabilityStatus := do
  let projectId ← identifierArg r.projectId "project_id"
  let workItemId ← identifierArg r.workItemId "work_item_id"
  let idempotencyKey ← identifierArg r.idempotencyKey "idempotency_key"
  let failureCategory ← identifierArg r.failureCategory "failure_category"
  let safeSummary ← boundedArg r.safeSummary "safe_summary" 1000
  let sourceRef ← boundedArg r.sourceRef "source_ref" 1000
  rejectSensitiveContent sensitive safeSummary "safe_summary"
  rejectSensitiveContent sensitive sourceRef "source_ref"
  let actorId ← boundedArg r.actorId "actor_id" 512
  startIn
    { projectId, workItemId, idempotencyKey, failureCategory, safeSummary, sourceRef, actorId } now

/-! ### Recording an attempt -/

/-- `_fingerprint` of the request of `record_attempt`. -/
def attemptFingerprint (d : AttemptDraft) : String :=
  sha256Hex <| Json.dumps <| .obj [
    ("attempt_number", .int d.attemptNumber),
    ("correction_instruction", .ofOption (d.correction.map Correction.instruction)),
    ("evidence", d.evidence),
    ("incident_id", .str d.incidentId),
    ("outcome", .str d.outcome.text),
    ("project_id", .str d.projectId),
    ("stage", .str d.stage.text),
    ("work_item_id", .str d.workItemId)]

/-- The correction of an attempt: required for the corrections of the project manager and
forbidden elsewhere. -/
def correctionArg (stage : Stage) (instruction : Option String) :
    Tx Db ReliabilityError (Option Correction) :=
  if stage = .pmCorrection then do
    let text ← Tx.demand (fun _ => instruction.bind (bounded 2000))
      (.value "correction_instruction is invalid")
    return some ⟨text, sha256Hex text⟩
  else do
    Tx.require (instruction = none)
      (.value "correction_instruction is only valid for PM correction")
    return none

/-- The checks of the arguments of `record_attempt`. -/
def attemptDraft (r : AttemptRequest) : Tx Db ReliabilityError AttemptDraft := do
  let projectId ← identifierArg r.projectId "project_id"
  let workItemId ← identifierArg r.workItemId "work_item_id"
  let incidentId ← identifierArg r.incidentId "incident_id"
  let attemptId ← identifierArg r.attemptId "attempt_id"
  let actorId ← boundedArg r.actorId "actor_id" 512
  Tx.require (1 ≤ r.attemptNumber ∧ r.attemptNumber ≤ r.stage.maximum)
    (.value "attempt_number is invalid")
  let correction ← correctionArg r.stage r.correctionInstruction
  return {
    projectId, workItemId, incidentId, attemptId, actorId, correction
    stage := r.stage
    attemptNumber := r.attemptNumber.toNat
    outcome := r.outcome
    evidence := .obj r.evidence }

/-- The evidence that a reported supervisor run stands for. -/
def supervisorEvidence (run : SupervisorRun) (report : RunReport) : Json :=
  .obj [
    ("recovery_run_id", .str run.runId),
    ("safe_summary", .str report.safeSummary),
    ("tool_profile_digest", .str run.toolProfileDigest),
    ("tool_profile_reference", .str run.toolProfileReference),
    ("usage_limit", .int run.usageLimit),
    ("usage_used", .int report.usageUsed),
    ("verification_ref", .str report.verificationRef)]

/-- The reported supervisor run that a recovery attempt names. -/
def supervisorResult (d : AttemptDraft) (db : Db) : Option (SupervisorRun × RunReport) := do
  let run ← db.supervisorRuns.find fun run =>
    (run.projectId, run.runId) = (d.projectId, d.attemptId) ∧
      (db.recoveryRequests.Any fun q => q.key = run.key ∧ q.incidentId = d.incidentId) ∧
      ∃ report ∈ run.report, report.outcome = d.outcome
  let report ← run.report
  return (run, report)

/-- The row that `record_attempt` inserts. -/
def newAttempt (d : AttemptDraft) : FailureAttempt where
  projectId := d.projectId
  attemptId := d.attemptId
  incidentId := d.incidentId
  ordinal := ordinalOf d.stage d.attemptNumber
  stage := d.stage
  stageAttempt := d.attemptNumber
  outcome := d.outcome
  correction := d.correction
  actorId := d.actorId
  evidence := d.evidence
  requestFingerprint := attemptFingerprint d

/-- `_PM_ROLE`. -/
def pmRole : String := "project-manager"

/-- `_set_next`. -/
def setNext (incident : String × String) (stage : Stage) (number : ℕ) :
    Tx Db ReliabilityError Unit :=
  Tx.modify fun db =>
    { db with
      incidents := db.incidents.update (fun i => i.key = incident ∧ i.status.isActive = true)
        { set := fun i => { i with status := .active stage number } } }

/-- The request for an independent recovery of an incident. -/
def newRequest (i : FailureIncident) : RecoveryRequest where
  projectId := i.projectId
  recoveryRequestId := derivedId "recovery" i.projectId i.incidentId
  incidentId := i.incidentId
  workItemId := i.workItemId
  exactGoal :=
    "Restore Agentic Mesh work item " ++ i.workItemId ++ " after its technical " ++
      "retries and PM corrections were exhausted. Resolve this verified failure: " ++
      i.safeSummary ++ " Source: " ++ i.sourceRef ++ ". Leave the Mesh in a " ++
      "verified working state and record the repair evidence."
  status := .pending
  evidence := .obj []

/-- `_advance_failed`. -/
def advanceFailed (i : FailureIncident) (d : AttemptDraft) (now : Time) :
    Tx Db ReliabilityError Unit :=
  match d.stage with
  | .technical => do
    let nextStage := if d.attemptNumber < 3 then .technical else .pmCorrection
    let nextNumber := if d.attemptNumber < 3 then d.attemptNumber + 1 else 1
    let targetRole := if nextStage = .technical then i.ownerRoleId else pmRole
    setNext i.key nextStage nextNumber
    let _ ← route i targetRole nextStage nextNumber false now
  | .pmCorrection =>
    if d.attemptNumber < 3 then do
      setNext i.key .pmCorrection (d.attemptNumber + 1)
      let _ ← route i pmRole .pmCorrection (d.attemptNumber + 1) false now
    else do
      Tx.attempt (Db.insertRequest (newRequest i)) .store
      setNext i.key .recovery 1
  | .recovery => do
    Tx.modify (Db.resolveRequest i.key .failed d.evidence)
    Tx.modify (Db.setIncident i.key .terminalEligible)

/-- `_succeed`. -/
def succeed (i : FailureIncident) (d : AttemptDraft) (now : Time) :
    Tx Db ReliabilityError Unit := do
  if d.stage = .recovery then
    Tx.modify (Db.resolveRequest i.key .succeeded d.evidence)
    let _ ← route i i.ownerRoleId .recovery 1 true now
  Tx.modify (Db.setIncident i.key .recovered)

/-- The checks of a new attempt against the state of its incident. -/
def requireNext (work : WorkItem) (i : FailureIncident) (d : AttemptDraft) :
    Tx Db ReliabilityError Unit := do
  Tx.require (i.status.isActive = true) (.conflict "failure incident is not accepting attempts")
  Tx.require (work.status = .active) (.conflict "work item is not active for retry")
  Tx.require (i.status = .active d.stage d.attemptNumber)
    (.conflict "attempt does not match the required retry stage")
  let db ← Tx.query id
  Tx.require
    (d.stage = .recovery → ∃ r ∈ supervisorResult d db, d.evidence = supervisorEvidence r.1 r.2)
    (.conflict "recovery attempt requires a verified supervisor result")
  Tx.require
    (∀ c ∈ d.correction, ¬ db.attempts.Any fun a =>
      a.incidentKey = i.key ∧ ∃ e ∈ a.correction, e.digest = c.digest)
    (.conflict "PM correction instruction must be distinct")

/-- `record_attempt` on normalized arguments. -/
def recordIn (d : AttemptDraft) (now : Time) : Tx Db ReliabilityError ReliabilityStatus := do
  let work ← Tx.demand (fun db => db.workItems.lookup (d.projectId, d.workItemId))
    (.notFound "work item not found")
  let incident ← Tx.demand
    (fun db => (db.incidents.lookup (d.projectId, d.incidentId)).filter
      fun i => i.workItemId = d.workItemId)
    (.notFound "failure incident not found")
  let existing ← Tx.query fun db => db.attempts.lookup (d.projectId, d.attemptId)
  match existing with
  | some a => do
    Tx.require (a.requestFingerprint = attemptFingerprint d)
      (.conflict "attempt id is already used by a different result")
    statusIn d.projectId d.incidentId
  | none => do
    requireNext work incident d
    Tx.attempt (Db.insertAttempt (newAttempt d)) .store
    match d.outcome with
    | .succeeded => succeed incident d now
    | .failed => advanceFailed incident d now
    statusIn d.projectId d.incidentId

def recordAttempt (r : AttemptRequest) (now : Time) : Tx Db ReliabilityError ReliabilityStatus := do
  let d ← attemptDraft r
  recordIn d now

/-! ## What the operations do -/

/-- The status of an incident after an attempt of a stage. -/
def nextStatus : Stage → ℕ → Outcome → IncidentStatus
  | _, _, .succeeded => .recovered
  | .technical, n, .failed => if n < 3 then .active .technical (n + 1) else .active .pmCorrection 1
  | .pmCorrection, n, .failed =>
    if n < 3 then .active .pmCorrection (n + 1) else .active .recovery 1
  | .recovery, _, .failed => .terminalEligible

/-- The identifiers of an incident are normalized. -/
structure NormalizedIncident (i : FailureIncident) : Prop where
  project : identifier i.projectId = some i.projectId
  workItem : identifier i.workItemId = some i.workItemId
  incident : identifier i.incidentId = some i.incidentId

/-- What an attempt of an incident does to the recovery requests. -/
inductive RequestsMoved (i : FailureIncident) (d : AttemptDraft)
    (before after : Table RecoveryRequest RecoveryRequest.key) : Prop
  | kept (stage : d.stage ≠ .recovery)
      (next : nextStatus d.stage d.attemptNumber d.outcome ≠ .active .recovery 1)
      (same : after = before)
  | asked (stage : d.stage ≠ .recovery)
      (next : nextStatus d.stage d.attemptNumber d.outcome = .active .recovery 1)
      (first : ∀ q ∈ before, (q.projectId, q.incidentId) ≠ i.key)
      (new : before.insert (newRequest i) = some after)
  | resolved (stage : d.stage = .recovery) (status : RequestStatus)
      (updated : after = before.update
        (fun r => (r.projectId, r.incidentId) = i.key ∧ r.status = .pending)
        { set := fun r => { r with status, evidence := d.evidence } })

/-- What the checks of `record_attempt` establish about a new attempt. -/
structure NextAttempt (d : AttemptDraft) (w : WorkItem) (i : FailureIncident) (db : Db) :
    Prop where
  work : w ∈ db.workItems
  active : w.status = .active
  incident : i ∈ db.incidents
  owner : i.workKey = w.key
  valid : d.Valid
  key : (newAttempt d).incidentKey = i.key
  workItem : i.workItemId = d.workItemId
  next : i.status = .active d.stage d.attemptNumber
  distinct : ∀ a ∈ db.attempts, a.incidentKey = i.key →
    ∀ c ∈ d.correction, ∀ e ∈ a.correction, e.digest ≠ c.digest
  supervised : d.stage = .recovery →
    ∃ r, supervisorResult d db = some r ∧ d.evidence = supervisorEvidence r.1 r.2
  fresh : AttemptFresh (newAttempt d) db

variable {db db' : Db} {now : Time}

lemma route_ok {i : FailureIncident} {role : String} {stage : Stage} {n : ℕ} {resumed : Bool}
    {item : QueueItem} (h : route i role stage n resumed now db = .ok (item, db')) :
    ∃ queueItems, db' = { db with queueItems } := by
  rw [route, Tx.mapError_ok, Tx.bind_ok] at h
  obtain ⟨draft, db₁, hinit, h⟩ := h
  obtain ⟨rfl, -⟩ := Router.init_ok hinit
  exact Router.routeInTransaction_items h

lemma statusIn_ok {p i : String} {s : ReliabilityStatus} (h : statusIn p i db = .ok (s, db')) :
    db' = db := (Tx.demand_ok.1 h).2

lemma insertIncident_eq_some {i : FailureIncident} (h : db.insertIncident i = some db') :
    ∃ incidents, db.incidents.insert i = some incidents ∧ db' = { db with incidents } := by
  unfold Db.insertIncident at h
  split at h
  · obtain ⟨incidents, hins, rfl⟩ := Option.map_eq_some_iff.1 h
    exact ⟨incidents, hins, rfl⟩
  · simp at h

lemma insertAttempt_eq_some {a : FailureAttempt} (h : db.insertAttempt a = some db') :
    AttemptFresh a db ∧
      ∃ attempts, db.attempts.insert a = some attempts ∧ db' = { db with attempts } := by
  unfold Db.insertAttempt at h
  split at h
  · next hfresh =>
    obtain ⟨attempts, hins, rfl⟩ := Option.map_eq_some_iff.1 h
    exact ⟨hfresh, attempts, hins, rfl⟩
  · simp at h

lemma insertRequest_eq_some {r : RecoveryRequest} (h : db.insertRequest r = some db') :
    (∀ q ∈ db.recoveryRequests, (q.projectId, q.incidentId) ≠ (r.projectId, r.incidentId)) ∧
      ∃ recoveryRequests, db.recoveryRequests.insert r = some recoveryRequests ∧
        db' = { db with recoveryRequests } := by
  unfold Db.insertRequest at h
  split at h
  · simp at h
  · next hnone =>
    obtain ⟨recoveryRequests, hins, rfl⟩ := Option.map_eq_some_iff.1 h
    exact ⟨fun q hq heq => hnone ⟨q, hq, heq⟩, recoveryRequests, hins, rfl⟩

/-- A committed `start` found the incident of its key or opened one for active work that had no
unresolved incident. -/
lemma start_ok {sensitive : String → Bool} {r : IncidentRequest} {s : ReliabilityStatus}
    (h : start sensitive r now db = .ok (s, db')) :
    db' = db ∨ ∃ w ∈ db.workItems, w.status = .active ∧
      (∀ i ∈ db.incidents, i.workKey = w.key → ¬ i.status.Unresolved) ∧
      ∃ i : FailureIncident, i.status = .active .technical 1 ∧ i.workKey = w.key ∧
        NormalizedIncident i ∧ ∃ incidents queueItems, db.incidents.insert i = some incidents ∧
          db' = { db with incidents, queueItems } := by
  simp only [start, identifierArg, boundedArg, rejectSensitiveContent, Tx.demand_bind_ok,
    Tx.require_bind_ok] at h
  obtain ⟨p, hp, i, hi, k, -, c, -, summary, -, source, -, -, -, actor, -, h⟩ := h
  rw [startIn, Tx.demand_bind_ok] at h
  obtain ⟨w, hw, h⟩ := h
  obtain ⟨hmem, hkey⟩ := Table.lookup_eq_some.1 hw
  rw [Tx.query_bind_ok] at h
  cases hexisting : db.incidentByKey p k with
  | some incident =>
    simp only [hexisting, Tx.require_bind_ok] at h
    exact Or.inl (statusIn_ok h.2)
  | none =>
    simp only [hexisting, Tx.demand_bind_ok, Tx.query_bind_ok, Tx.require_bind_ok,
      Tx.attempt_bind_ok] at h
    obtain ⟨owner, howner, hnone, db₁, hins, h⟩ := h
    rw [Tx.bind_ok] at h
    obtain ⟨item, db₂, hroute, h⟩ := h
    obtain ⟨queueItems, rfl⟩ := route_ok hroute
    obtain rfl := statusIn_ok h
    have hactive : w.status = .active := by
      by_contra hne
      rw [if_neg hne] at howner
      simp at howner
    obtain ⟨incidents, hrow, rfl⟩ := insertIncident_eq_some hins
    have hnormal : NormalizedIncident (newIncident ⟨p, i, k, c, summary, source, actor⟩ owner) :=
      ⟨identifier_idem hp, identifier_idem hi, identifier_digestOf (by decide) (by decide) _⟩
    exact Or.inr ⟨w, hmem, hactive, fun j hj hk hun => hnone ⟨j, hj, hk, hun⟩,
      newIncident ⟨p, i, k, c, summary, source, actor⟩ owner, rfl, hkey.symm, hnormal, incidents,
      queueItems, hrow, rfl⟩

lemma correctionArg_ok {stage : Stage} {instruction : Option String} {c : Option Correction}
    (h : correctionArg stage instruction db = .ok (c, db')) :
    db' = db ∧ (stage = .pmCorrection ↔ c.isSome) ∧
      ∀ e ∈ c, e.digest = sha256Hex e.instruction := by
  unfold correctionArg at h
  split at h
  · next hpm =>
    simp only [Tx.demand_bind_ok, Tx.pure_ok, Prod.mk.injEq] at h
    obtain ⟨text, -, rfl, rfl⟩ := h
    refine ⟨rfl, by simp [hpm], fun e he => ?_⟩
    obtain rfl := Option.some.inj he
    rfl
  · next hpm =>
    simp only [Tx.require_bind_ok, Tx.pure_ok, Prod.mk.injEq] at h
    obtain ⟨-, rfl, rfl⟩ := h
    exact ⟨rfl, by simp [hpm], by simp⟩

lemma attemptDraft_ok {r : AttemptRequest} {d : AttemptDraft}
    (h : attemptDraft r db = .ok (d, db')) : db' = db ∧ d.Valid := by
  simp only [attemptDraft, identifierArg, boundedArg, Tx.demand_bind_ok, Tx.require_bind_ok] at h
  obtain ⟨p, -, w, -, i, -, a, -, actor, -, hnumber, h⟩ := h
  rw [Tx.bind_ok] at h
  obtain ⟨c, db₁, hc, h⟩ := h
  obtain ⟨rfl, hshape, hdigest⟩ := correctionArg_ok hc
  obtain ⟨rfl, rfl⟩ := Prod.mk.inj (Tx.pure_ok.1 h)
  refine ⟨rfl, ?_, ?_, hshape, hdigest⟩ <;> dsimp only <;> omega

lemma requireNext_ok {w : WorkItem} {i : FailureIncident} {d : AttemptDraft} {u : Unit}
    (h : requireNext w i d db = .ok (u, db')) :
    db' = db ∧ w.status = .active ∧ i.status = .active d.stage d.attemptNumber ∧
      (d.stage = .recovery →
        ∃ r, supervisorResult d db = some r ∧ d.evidence = supervisorEvidence r.1 r.2) ∧
      ∀ a ∈ db.attempts, a.incidentKey = i.key →
        ∀ c ∈ d.correction, ∀ e ∈ a.correction, e.digest ≠ c.digest := by
  simp only [requireNext, Tx.require_bind_ok, Tx.query_bind_ok, Tx.require_ok] at h
  obtain ⟨-, hwork, hnext, hrecovery, hdistinct, rfl⟩ := h
  exact ⟨rfl, hwork, hnext, hrecovery,
    fun a ha hk c hc e he heq => hdistinct c hc ⟨a, ha, hk, e, he, heq⟩⟩

/-- An active incident of the database is the only row that `_set_next` changes. -/
lemma setNext_ok {i : FailureIncident} (hi : i ∈ db.incidents)
    (hactive : i.status.isActive = true) {stage : Stage} {n : ℕ} {u : Unit}
    (h : setNext i.key stage n db = .ok (u, db')) :
    db' = db.setIncident i.key (.active stage n) := by
  rw [setNext, Tx.modify_ok] at h
  change db' = _ at h
  rw [h, Db.setIncident]
  congr 1
  refine Table.update_congr fun j hj => ⟨And.left, fun hk => ⟨hk, ?_⟩⟩
  rw [db.incidents.eq_of_key hj hi hk]
  exact hactive

lemma advanceFailed_ok {i : FailureIncident} {d : AttemptDraft} {u : Unit}
    (hi : i ∈ db.incidents) (hactive : i.status.isActive = true) (hfailed : d.outcome = .failed)
    (h : advanceFailed i d now db = .ok (u, db')) :
    ∃ queueItems recoveryRequests, RequestsMoved i d db.recoveryRequests recoveryRequests ∧
      db' = { db.setIncident i.key (nextStatus d.stage d.attemptNumber .failed) with
        queueItems, recoveryRequests } := by
  unfold advanceFailed at h
  cases hstage : d.stage with
  | technical =>
    simp only [hstage] at h
    rw [Tx.bind_ok] at h
    obtain ⟨_, db₁, hset, h⟩ := h
    obtain rfl := setNext_ok hi hactive hset
    rw [Tx.bind_ok] at h
    obtain ⟨item, db₂, hroute, h⟩ := h
    obtain ⟨queueItems, rfl⟩ := route_ok hroute
    obtain ⟨-, rfl⟩ := Prod.mk.inj (Tx.pure_ok.1 h)
    refine ⟨queueItems, db.recoveryRequests, .kept (by simp [hstage]) ?_ rfl, ?_⟩
    · by_cases hlt : d.attemptNumber < 3 <;> simp [nextStatus, hstage, hfailed, hlt]
    · by_cases hlt : d.attemptNumber < 3 <;> simp [nextStatus, hlt, Db.setIncident]
  | pmCorrection =>
    simp only [hstage] at h
    split at h
    · next hlt =>
      rw [Tx.bind_ok] at h
      obtain ⟨_, db₁, hset, h⟩ := h
      obtain rfl := setNext_ok hi hactive hset
      rw [Tx.bind_ok] at h
      obtain ⟨item, db₂, hroute, h⟩ := h
      obtain ⟨queueItems, rfl⟩ := route_ok hroute
      obtain ⟨-, rfl⟩ := Prod.mk.inj (Tx.pure_ok.1 h)
      exact ⟨queueItems, db.recoveryRequests,
        .kept (by simp [hstage]) (by simp [nextStatus, hstage, hfailed, hlt]) rfl,
        by simp [nextStatus, hlt, Db.setIncident]⟩
    · next hlt =>
      rw [Tx.attempt_bind_ok] at h
      obtain ⟨db₁, hins, h⟩ := h
      obtain ⟨hfirst, recoveryRequests, hrow, rfl⟩ := insertRequest_eq_some hins
      have hi₁ : i ∈ ({ db with recoveryRequests } : Db).incidents := hi
      have hset := setNext_ok hi₁ hactive h
      refine ⟨db.queueItems, recoveryRequests,
        .asked (by simp [hstage]) (by simp [nextStatus, hstage, hfailed, hlt]) hfirst hrow, ?_⟩
      rw [hset]
      simp [nextStatus, hlt, Db.setIncident]
  | recovery =>
    simp only [hstage, Tx.modify_bind_ok, Tx.modify_ok] at h
    subst h
    exact ⟨db.queueItems, _, .resolved hstage .failed rfl, rfl⟩

lemma succeed_ok {i : FailureIncident} {d : AttemptDraft} {u : Unit}
    (hsucceeded : d.outcome = .succeeded) (h : succeed i d now db = .ok (u, db')) :
    ∃ queueItems recoveryRequests, RequestsMoved i d db.recoveryRequests recoveryRequests ∧
      db' = { db.setIncident i.key .recovered with queueItems, recoveryRequests } := by
  unfold succeed at h
  split at h
  · next hstage =>
    rw [Tx.modify_bind_ok, Tx.bind_ok] at h
    obtain ⟨item, db₁, hroute, h⟩ := h
    obtain ⟨queueItems, rfl⟩ := route_ok hroute
    have heq := Tx.modify_ok.1 h
    exact ⟨queueItems, _, .resolved hstage .succeeded rfl, heq⟩
  · next hstage =>
    have heq := Tx.modify_ok.1 h
    exact ⟨db.queueItems, db.recoveryRequests,
      .kept hstage (by simp [nextStatus, hsucceeded]) rfl, heq⟩

/-- A committed `record_attempt` was recorded before, or it recorded the next attempt of an active
incident of active work and moved the incident on. -/
lemma recordAttempt_ok {r : AttemptRequest} {s : ReliabilityStatus}
    (h : recordAttempt r now db = .ok (s, db')) :
    ∃ d, attemptDraft r db = .ok (d, db) ∧
      ((∃ a ∈ db.attempts, a.key = (d.projectId, d.attemptId) ∧
          a.requestFingerprint = attemptFingerprint d ∧ db' = db) ∨
        ∃ w i, NextAttempt d w i db ∧
          ∃ attempts queueItems recoveryRequests,
            db.attempts.insert (newAttempt d) = some attempts ∧
            RequestsMoved i d db.recoveryRequests recoveryRequests ∧
            db' = { db.setIncident i.key (nextStatus d.stage d.attemptNumber d.outcome) with
              attempts, queueItems, recoveryRequests }) := by
  rw [recordAttempt, Tx.bind_ok] at h
  obtain ⟨d, db₁, hdraft, h⟩ := h
  obtain ⟨rfl, hvalid⟩ := attemptDraft_ok hdraft
  refine ⟨d, hdraft, ?_⟩
  simp only [recordIn, Tx.demand_bind_ok, Tx.query_bind_ok] at h
  obtain ⟨w, hw, i, hi, h⟩ := h
  obtain ⟨hwmem, hwkey⟩ := Table.lookup_eq_some.1 hw
  obtain ⟨hilook, hiwork⟩ := Option.filter_eq_some_iff.1 hi
  obtain ⟨himem, hikey⟩ := Table.lookup_eq_some.1 hilook
  cases hexisting : db₁.attempts.lookup (d.projectId, d.attemptId) with
  | some a =>
    obtain ⟨hamem, hakey⟩ := Table.lookup_eq_some.1 hexisting
    simp only [hexisting, Tx.require_bind_ok] at h
    exact Or.inl ⟨a, hamem, hakey, h.1, statusIn_ok h.2⟩
  | none =>
    simp only [hexisting] at h
    rw [Tx.bind_ok] at h
    obtain ⟨_, db₂, hnext, h⟩ := h
    obtain ⟨rfl, hactive, hstatus, hsupervised, hdistinct⟩ := requireNext_ok hnext
    rw [Tx.attempt_bind_ok] at h
    obtain ⟨db₃, hins, h⟩ := h
    obtain ⟨hfresh, attempts, hrow, rfl⟩ := insertAttempt_eq_some hins
    have hid : i.workItemId = d.workItemId := of_decide_eq_true hiwork
    have hwork : i.workKey = w.key := by
      rw [hwkey, FailureIncident.workKey, (Prod.mk.inj hikey).1, hid]
    have hd : NextAttempt d w i db₂ :=
      { work := hwmem, active := hactive, incident := himem, owner := hwork, valid := hvalid
        key := hikey.symm, workItem := hid, next := hstatus, distinct := hdistinct
        supervised := hsupervised, fresh := hfresh }
    refine Or.inr ⟨w, i, hd, attempts, ?_⟩
    cases hout : d.outcome with
    | succeeded =>
      simp only [hout] at h
      rw [Tx.bind_ok] at h
      obtain ⟨_, db₄, hmove, h⟩ := h
      obtain rfl := statusIn_ok h
      obtain ⟨queueItems, recoveryRequests, hrequests, rfl⟩ := succeed_ok hout hmove
      exact ⟨queueItems, recoveryRequests, hrow, hrequests, by cases d.stage <;> rfl⟩
    | failed =>
      simp only [hout] at h
      rw [Tx.bind_ok] at h
      obtain ⟨_, db₄, hmove, h⟩ := h
      obtain rfl := statusIn_ok h
      have himem₃ : i ∈ ({ db₂ with attempts } : Db).incidents := himem
      obtain ⟨queueItems, recoveryRequests, hrequests, rfl⟩ :=
        advanceFailed_ok himem₃ (by rw [hstatus]; rfl) hout hmove
      exact ⟨queueItems, recoveryRequests, hrow, hrequests, rfl⟩

/-! ### Recording -/

/-- A recovery that succeeded hands the work back to its owner. -/
lemma succeed_of_route {i : FailureIncident} {d : AttemptDraft} (hstage : d.stage = .recovery)
    {item : QueueItem}
    (hroute : route i i.ownerRoleId .recovery 1 true now
      (db.resolveRequest i.key .succeeded d.evidence) = .ok (item, db')) :
    succeed i d now db = .ok ((), db'.setIncident i.key .recovered) := by
  unfold succeed
  rw [if_pos hstage]
  have hresolve : Tx.modify (Db.resolveRequest i.key .succeeded d.evidence) db =
      (.ok ((), db.resolveRequest i.key .succeeded d.evidence) : Except ReliabilityError _) := rfl
  rw [Tx.bind_of_ok hresolve, Tx.bind_of_ok hroute]
  rfl

lemma recordAttempt_of_draft {r : AttemptRequest} {d : AttemptDraft}
    (h : attemptDraft r db = .ok (d, db')) : recordAttempt r now db = recordIn d now db' := by
  rw [recordAttempt, Tx.bind_of_ok h]

section Recording

variable {d : AttemptDraft} {w : WorkItem} {i : FailureIncident}
  (hw : db.workItems.lookup (d.projectId, d.workItemId) = some w)
  (hi : (db.incidents.lookup (d.projectId, d.incidentId)).filter
    (fun i => i.workItemId = d.workItemId) = some i)

include hw hi

/-- An attempt that was recorded before. -/
lemma recordIn_again {a : FailureAttempt}
    (ha : db.attempts.lookup (d.projectId, d.attemptId) = some a)
    (hsame : a.requestFingerprint = attemptFingerprint d) :
    recordIn d now db = statusIn d.projectId d.incidentId db := by
  rw [recordIn, Tx.bind_of_ok (Tx.demand_of_some
      (g := fun db : Db => db.workItems.lookup (d.projectId, d.workItemId)) hw),
    Tx.bind_of_ok (Tx.demand_of_some
      (g := fun db : Db => (db.incidents.lookup (d.projectId, d.incidentId)).filter
        fun i => i.workItemId = d.workItemId) hi)]
  have hquery : Tx.query (fun db : Db => db.attempts.lookup (d.projectId, d.attemptId)) db =
      (.ok (some a, db) : Except ReliabilityError _) := by
    rw [Tx.query, ha]
  rw [Tx.bind_of_ok hquery]
  exact Tx.bind_of_ok (Tx.require_of_pos hsame)

/-- An attempt that was not recorded before. -/
lemma recordIn_new (ha : db.attempts.lookup (d.projectId, d.attemptId) = none)
    (hnext : requireNext w i d db = .ok ((), db)) {db₁ db₂ : Db}
    (hins : db.insertAttempt (newAttempt d) = some db₁)
    (hmove : (match d.outcome with
      | .succeeded => succeed i d now
      | .failed => advanceFailed i d now) db₁ = .ok ((), db₂)) :
    recordIn d now db = statusIn d.projectId d.incidentId db₂ := by
  rw [recordIn, Tx.bind_of_ok (Tx.demand_of_some
      (g := fun db : Db => db.workItems.lookup (d.projectId, d.workItemId)) hw),
    Tx.bind_of_ok (Tx.demand_of_some
      (g := fun db : Db => (db.incidents.lookup (d.projectId, d.incidentId)).filter
        fun i => i.workItemId = d.workItemId) hi)]
  have hquery : Tx.query (fun db : Db => db.attempts.lookup (d.projectId, d.attemptId)) db =
      (.ok (none, db) : Except ReliabilityError _) := by
    rw [Tx.query, ha]
  rw [Tx.bind_of_ok hquery]
  dsimp only
  rw [Tx.bind_of_ok hnext, Tx.bind_of_ok (Tx.attempt_of_some hins)]
  cases hout : d.outcome with
  | succeeded =>
    rw [hout] at hmove
    exact Tx.bind_of_ok hmove
  | failed =>
    rw [hout] at hmove
    exact Tx.bind_of_ok hmove

lemma recordIn_succeeded (hout : d.outcome = .succeeded)
    (ha : db.attempts.lookup (d.projectId, d.attemptId) = none)
    (hnext : requireNext w i d db = .ok ((), db)) {db₁ db₂ : Db}
    (hins : db.insertAttempt (newAttempt d) = some db₁)
    (hmove : succeed i d now db₁ = .ok ((), db₂)) :
    recordIn d now db = statusIn d.projectId d.incidentId db₂ := by
  refine recordIn_new hw hi ha hnext hins ?_
  rw [hout]
  exact hmove

lemma recordIn_failed (hout : d.outcome = .failed)
    (ha : db.attempts.lookup (d.projectId, d.attemptId) = none)
    (hnext : requireNext w i d db = .ok ((), db)) {db₁ db₂ : Db}
    (hins : db.insertAttempt (newAttempt d) = some db₁)
    (hmove : advanceFailed i d now db₁ = .ok ((), db₂)) :
    recordIn d now db = statusIn d.projectId d.incidentId db₂ := by
  refine recordIn_new hw hi ha hnext hins ?_
  rw [hout]
  exact hmove

end Recording
end ReliabilityStore

end AgenticMesh
