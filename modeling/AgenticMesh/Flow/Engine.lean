import AgenticMesh.Flow.Validation
import AgenticMesh.Store.Handoffs
import AgenticMesh.Store.Lifecycle

/-!
# The flow engine

`FlowEngine`: a work item is started on a validated flow.  Every entry into a
state raises the obligations of the state, a run leaves the state when they are
fulfilled, through the one route that its outcome and the flow fields select, and
reaches the next state when the target role accepted the handoff of the route.
In a terminal state the run is completed together with its work item.

`prepare_transition` and `complete` are several transactions each; what lies
between two of them is a state of its own, so that a call can stop there.
-/

namespace AgenticMesh

/-- The exceptions of the flow engine. -/
inductive FlowError where
  | value (message : String)
  /-- `FlowDefinitionError(message)`. -/
  | definition (message : String)
  | notFound (message : String)
  | conflict (message : String)
  /-- `FlowEngineError(message)`. -/
  | store (message : String)
  | handoff (e : HandoffError)
  | lifecycle (e : LifecycleError)
  /-- `DatabaseError("event transaction failed")`. -/
  | database
deriving DecidableEq

/-- `_digest` of the flow engine, of the governance store and of the sponsor approvals. -/
def flowDigest (values : List Json) : String := sha256Hex (Json.ascii (Json.dumps (.arr values)))

/-- A lease that its holder offers a transition from. -/
structure TransitionSource where
  leaseId : String
  leaseToken : String
  leaseId_valid : isIdentifier leaseId = true
  leaseToken_valid : strip leaseToken ≠ "" ∧ leaseToken.toList.length ≤ 512

/-- The arguments of `start`. -/
structure StartRequest where
  projectId : String
  workItemId : String
  flow : ValidFlow
  fields : Json
  actorId : String
  operationId : String

/-- The arguments of `dispatch`. -/
structure DispatchRequest where
  projectId : String
  workItemId : String
  kind : ObligationKind
  obligationId : String
  actorId : String

/-- The arguments of `prepare_transition`. -/
structure PrepareRequest where
  projectId : String
  workItemId : String
  outcome : String
  fields : Json
  source : TransitionSource
  expectedVersion : ℤ
  actorId : String
  operationId : String

/-- The arguments of `pickup_transition`. -/
structure PickupRequest where
  projectId : String
  workItemId : String
  expectedVersion : ℤ
  actorId : String
  operationId : String

/-- The arguments of `complete`. -/
structure CompleteRequest where
  projectId : String
  workItemId : String
  expectedVersion : ℤ
  actorId : String
  operationId : String
  evidence : Json

/-- The digest of a start; it does not contain the work item. -/
def StartRequest.digest (r : StartRequest) : String :=
  flowDigest [.str "start", .str r.flow.1.digest, r.flow.1.snapshot, r.fields, .str r.actorId]

def PrepareRequest.digest (r : PrepareRequest) : String :=
  flowDigest [.str "prepare", .str r.workItemId, .str r.outcome, r.fields, .int r.expectedVersion,
    .str r.actorId]

def PickupRequest.digest (r : PickupRequest) : String :=
  flowDigest [.str "pickup", .str r.workItemId, .int r.expectedVersion, .str r.actorId]

def CompleteRequest.digest (r : CompleteRequest) : String :=
  flowDigest [.str "complete", .str r.workItemId, .int r.expectedVersion, .str r.actorId,
    r.evidence]

/-- `pending_operation_id` and `pending_request_digest` of a run. -/
def FlowStatus.pendingOperation : FlowStatus → Option (String × String)
  | .active => none
  | .handoffPreparing route => some (route.operationId, route.requestDigest)
  | .handoffPending route _ => some (route.operationId, route.requestDigest)
  | .completionPreparing operationId requestDigest => some (operationId, requestDigest)
  | .completed => none

/-! ## Readiness -/

/-- The obligation that a governance record is about. -/
def GovernanceRecord.obligationKey (g : GovernanceRecord) :
    String × String × String × ℕ × ObligationKind × String :=
  (g.projectId, g.workItemId, g.state, g.entryVersion, g.kind, g.obligationId)

/-- An obligation has a governance record with one of some decisions. -/
def FlowObligation.Evidenced (o : FlowObligation) (decisions : List GovernanceDecision) (db : Db) :
    Prop :=
  db.governance.Any fun g => g.obligationKey = o.key ∧ g.decision ∈ decisions

instance (o : FlowObligation) (decisions : List GovernanceDecision) (db : Db) :
    Decidable (o.Evidenced decisions db) := inferInstanceAs (Decidable (∃ _ ∈ _, _))

/-- An obligation that the query of `_require_ready` does not return. -/
def FlowObligation.Fulfilled (o : FlowObligation) (db : Db) : Prop :=
  match o.kind with
  | .artifact => o.status = .satisfied ∧ o.Evidenced [.verified] db
  | .gate => o.status = .satisfied ∧ o.Evidenced [.approved, .exception] db
  | .consult =>
    o.Evidenced [.exception] db ∨ (o.status = .dispatched ∧ o.Evidenced [.responded] db)
  | .inform => o.status = .dispatched

instance (o : FlowObligation) (db : Db) : Decidable (o.Fulfilled db) := by
  unfold FlowObligation.Fulfilled
  cases o.kind <;> infer_instance

/-- The obligations of the current entry of a run. -/
def FlowObligation.Current (run : FlowRun) (o : FlowObligation) : Prop :=
  (o.projectId, o.workItemId, o.state, o.entryVersion) =
    (run.projectId, run.workItemId, run.currentState, run.version)

instance (run : FlowRun) : DecidablePred (FlowObligation.Current run) := fun _ =>
  inferInstanceAs (Decidable (_ = _))

/-- `_require_ready` passes. -/
def FlowRun.Ready (run : FlowRun) (db : Db) : Prop :=
  ∀ o ∈ db.obligations.rows, FlowObligation.Current run o → o.Fulfilled db

instance (run : FlowRun) (db : Db) : Decidable (run.Ready db) :=
  inferInstanceAs (Decidable (∀ _ ∈ _, _))

/-! ## The statements -/

namespace Db

/-- `INSERT INTO flow_runs`. -/
def insertRun (r : FlowRun) (db : Db) : Option Db :=
  (db.flowRuns.insert r).map fun flowRuns => { db with flowRuns }

/-- `UPDATE flow_runs` of one row. -/
def updateRun (run : String × String) (f : Table.Assign FlowRun.key) (db : Db) : Db :=
  { db with flowRuns := db.flowRuns.update (fun r => r.key = run) f }

/-- `INSERT INTO flow_obligations`. -/
def insertObligation (o : FlowObligation) (db : Db) : Option Db :=
  (db.obligations.insert o).map fun obligations => { db with obligations }

/-- `UPDATE flow_obligations` of one row. -/
def setObligation (key : String × String × String × ℕ × ObligationKind × String)
    (status : ObligationStatus) (evidence : FlowObligation → Json) (db : Db) : Db :=
  { db with
    obligations := db.obligations.update (fun o => o.key = key)
      { set := fun o => { o with status, evidence := evidence o } } }

/-- `INSERT INTO flow_transition_journal`. -/
def insertTransition (t : FlowTransition) (db : Db) : Option Db :=
  (db.transitions.insert t).map fun transitions => { db with transitions }

end Db

namespace FlowEngine

/-- `_identifier`. -/
def requireIdentifier (s label : String) : Tx Db FlowError Unit :=
  Tx.require (isIdentifier s = true) (.value (label ++ " is invalid"))

/-- `_identifiers`. -/
def requireIdentifiers (values : List String) : Tx Db FlowError Unit :=
  Tx.require (∀ s ∈ values, isIdentifier s = true) (.value "identifier is invalid")

/-- `_fields`. -/
def requireFields (value : Json) : Tx Db FlowError Unit := do
  let _ ← Tx.demand (fun _ => value.asObject) (.value "flow fields must be an object")
  Tx.require ((Json.ascii (value.render ", " ": ")).toList.length ≤ 32000)
    (.value "flow fields are invalid")

/-- `_version`. -/
def requireVersion (version : ℤ) : Tx Db FlowError Unit :=
  Tx.require (1 ≤ version) (.value "expected_version must be positive")

/-- `_get_in`, and `_lock`. -/
def lockRun (projectId workItemId : String) : Tx Db FlowError FlowRun :=
  Tx.demand (fun db => db.flowRuns.lookup (projectId, workItemId))
    (.notFound "flow run was not found")

/-- `_replay`. -/
def replay (projectId operationId digest : String) : Tx Db FlowError (Option String) := do
  let row ← Tx.query fun db => db.transitions.lookup (projectId, operationId)
  match row with
  | none => return none
  | some t => do
    Tx.require (t.requestDigest = digest)
      (.conflict "operation id conflicts with another request")
    return some t.workItemId

/-- `flow.state(state_id)`. -/
def stateOf (flow : FlowDefinition) (stateId : String) : Tx Db FlowError FlowState :=
  Tx.demand (fun _ => flow.state stateId) (.definition ("unknown flow state: " ++ stateId))

/-- `state.select_route(outcome, fields)`. -/
def routeOf (state : FlowState) (outcome : String) (fields : Json) : Tx Db FlowError FlowRoute :=
  Tx.demand (fun _ => state.selectRoute outcome fields)
    (.definition ("state " ++ state.stateId ++ " requires exactly one route for outcome " ++
      outcome))

/-- `_require_ready`. -/
def requireReady (run : FlowRun) : Tx Db FlowError Unit := do
  let db ← Tx.query id
  Tx.require (run.Ready db) (.conflict "required flow obligations are not satisfied")

/-- `_same_pending`. -/
def samePending (run : FlowRun) (operationId digest : String) : Tx Db FlowError Unit :=
  Tx.require (run.status.pendingOperation = some (operationId, digest))
    (.conflict "another flow operation is pending")

/-- The row that `_insert_obligations` writes for an action. -/
def newObligation (projectId workItemId : String) (state : FlowState) (version : ℕ)
    (a : FlowAction) : FlowObligation where
  projectId := projectId
  workItemId := workItemId
  state := state.stateId
  entryVersion := version
  kind := a.kind
  obligationId := a.actionId
  accountableRoleId := a.roleId
  payload := a.payload
  status := .pending
  evidence := .obj []

/-- The rows of `_insert_obligations`. -/
def newObligations (projectId workItemId : String) (state : FlowState) (fields : Json)
    (version : ℕ) : List FlowObligation :=
  (state.obligations fields).map (newObligation projectId workItemId state version)

/-- `_insert_obligations`. -/
def insertObligations (os : List FlowObligation) (e : FlowError) : Tx Db FlowError Unit :=
  Tx.attempt (fun db => os.foldlM (fun db o => db.insertObligation o) db) e

/-- `_journal`. -/
def journal (projectId workItemId operationId digest : String) (action : FlowOperation) :
    Tx Db FlowError Unit :=
  Tx.attempt (Db.insertTransition ⟨projectId, workItemId, operationId, digest, action⟩) .database

/-! ## `start` -/

/-- The run that `start` inserts. -/
def newRun (r : StartRequest) (state : FlowState) : FlowRun where
  projectId := r.projectId
  workItemId := r.workItemId
  flow := r.flow.1
  currentState := state.stateId
  ownerRoleId := state.ownerRole
  status := .active
  fields := r.fields
  version := 1

/-- `start` of an operation that is not recorded yet. -/
def startNew (r : StartRequest) (state : FlowState) : Tx Db FlowError FlowRun := do
  let work ← Tx.demand (fun db => db.workItems.lookup (r.projectId, r.workItemId))
    (.notFound "work item was not found")
  Tx.require (work.status = .active ∧ work.assignedRoleId = some state.ownerRole)
    (.conflict "active work owner must match the flow entry owner")
  let run := newRun r state
  Tx.attempt (Db.insertRun run) .database
  insertObligations (newObligations r.projectId r.workItemId state r.fields 1) .database
  journal r.projectId r.workItemId r.operationId r.digest .start
  return run

def start (r : StartRequest) : Tx Db FlowError FlowRun := do
  requireIdentifiers [r.projectId, r.workItemId, r.actorId, r.operationId]
  requireFields r.fields
  let state ← stateOf r.flow.1 r.flow.1.entryState
  let recorded ← replay r.projectId r.operationId r.digest
  match recorded with
  | some workItemId => lockRun r.projectId workItemId
  | none => startNew r state

/-! ## `dispatch` -/

/-- The idempotency key of a dispatched obligation. -/
def dispatchKey (kind : ObligationKind) (workItemId : String) (version : ℕ)
    (obligationId : String) : String :=
  "flow-" ++ Flow.kindText kind ++ "-" ++ workItemId ++ "-" ++ decimal version ++ "-" ++
    obligationId

/-- The route of a dispatched obligation. -/
def dispatchDraft (r : DispatchRequest) (run : FlowRun) (o : FlowObligation) : RouteDraft where
  projectId := r.projectId
  workItemId := r.workItemId
  targetRoleId := o.accountableRoleId
  idempotencyKey := dispatchKey r.kind r.workItemId run.version r.obligationId
  payload := .obj [
    ("flow_action", o.payload),
    ("requested_by", .str r.actorId),
    ("state", .str run.currentState)]

/-- The current obligation that is dispatched. -/
def dispatchable (r : DispatchRequest) (run : FlowRun) (db : Db) : Option FlowObligation :=
  db.obligations.find fun o =>
    o.key = (r.projectId, r.workItemId, run.currentState, run.version, r.kind, r.obligationId) ∧
      (o.status = .pending ∨ o.status = .dispatched)

def dispatch (r : DispatchRequest) (now : Time) : Tx Db FlowError FlowObligation := do
  requireIdentifiers [r.projectId, r.workItemId, r.actorId, r.obligationId]
  Tx.require (r.kind = .consult ∨ r.kind = .inform)
    (.conflict "only consult and inform obligations are dispatched")
  let run ← lockRun r.projectId r.workItemId
  Tx.require (run.status = .active) (.conflict "flow run is not active")
  let o ← Tx.demand (dispatchable r run) (.conflict "obligation is no longer current")
  let draft ← Tx.mapError (fun _ => .store "flow action dispatch failed")
    (dispatchDraft r run o).init
  let _ ← Tx.mapError (fun _ => .store "flow action dispatch failed")
    (Router.routeInTransaction draft now)
  Tx.modify (Db.setObligation o.key .dispatched FlowObligation.evidence)
  return { o with status := .dispatched }

/-! ## `prepare_transition` -/

/-- The flow fields of a transition: the recorded architecture impact replaces that of the
caller, which must not contradict it. -/
def mergedFields (run : FlowRun) (fields : Json) (impact : Option GovernanceContext) :
    Tx Db FlowError Json := do
  let merged := run.fields.merge fields
  match impact with
  | none => return merged
  | some c => do
    Tx.require
      (merged.get? "architecture_impact" ∈
        [none, some .null, some (.str c.architectureImpact)])
      (.conflict "architecture impact conflicts with governance evidence")
    return merged.withField "architecture_impact" (.str c.architectureImpact)

/-- The pending columns of a reserved route. -/
def pendingRoute (r : PrepareRequest) (route : FlowRoute) : PendingRoute where
  routeId := route.routeId
  targetState := route.targetState
  targetRole := route.targetRole
  operationId := r.operationId
  requestDigest := r.digest

/-- The new columns of a reserved run. -/
def reserved (r : PrepareRequest) (route : FlowRoute) (fields : Json) :
    Table.Assign FlowRun.key where
  set run := { run with status := .handoffPreparing (pendingRoute r route), fields }

/-- The reservation of a route by a run that is active. -/
def reserveNew (r : PrepareRequest) (run : FlowRun) : Tx Db FlowError FlowRoute := do
  Tx.require (run.status = .active ∧ (run.version : ℤ) = r.expectedVersion)
    (.conflict "flow run is not ready at expected version")
  let impact ← Tx.query fun db => db.impacts.lookup (r.projectId, r.workItemId)
  let merged ← mergedFields run r.fields impact
  let state ← stateOf run.flow run.currentState
  Tx.require (state.terminal = false) (.conflict "terminal state has no transition")
  requireReady run
  let route ← routeOf state r.outcome merged
  let _ ← Tx.demand (fun db => db.roles.lookup (r.projectId, route.targetRole))
    (.store "flow transition preparation failed")
  Tx.modify (Db.updateRun run.key (reserved r route merged))
  return route

/-- The checks of the arguments of `prepare_transition`. -/
def checkPrepare (r : PrepareRequest) : Tx Db FlowError Unit := do
  requireIdentifiers [r.projectId, r.workItemId, r.actorId, r.operationId]
  requireIdentifier r.outcome "outcome"
  requireFields r.fields
  requireVersion r.expectedVersion

/-- The first transaction of `prepare_transition`: the run of an operation that is recorded, or
the reserved route. -/
def reserve (r : PrepareRequest) : Tx Db FlowError (FlowRun ⊕ FlowRoute) := do
  checkPrepare r
  let recorded ← replay r.projectId r.operationId r.digest
  match recorded with
  | some workItemId => do
    let run ← lockRun r.projectId workItemId
    return .inl run
  | none => do
    let run ← lockRun r.projectId r.workItemId
    match run.status with
    | .handoffPreparing _ => do
      samePending run r.operationId r.digest
      let state ← stateOf run.flow run.currentState
      let route ← routeOf state r.outcome run.fields
      return .inr route
    | _ => do
      let route ← reserveNew r run
      return .inr route

/-- The idempotency key of a transition. -/
def transitionKey (workItemId : String) (version : ℕ) (routeId : String) : String :=
  "flow-" ++ workItemId ++ "-" ++ decimal version ++ "-" ++ routeId

/-- The handoff of a transition, whose expected version is positive. -/
def transitionOffer (r : PrepareRequest) (route : FlowRoute) : HandoffOffer where
  projectId := r.projectId
  sourceLeaseId := r.source.leaseId
  sourceLeaseToken := r.source.leaseToken
  targetRoleId := route.targetRole
  idempotencyKey := transitionKey r.workItemId r.expectedVersion.toNat route.routeId
  summary := "Flow transition to " ++ route.targetState
  payload := .obj [("flow", .obj [
    ("route_id", .str route.routeId), ("target_state", .str route.targetState)])]

/-- The errors of an offer as `prepare_transition` raises them. -/
def ofHandoffError : HandoffError → FlowError
  | .value _ => .store "flow transition preparation failed"
  | e => .handoff e

/-- The second transaction of `prepare_transition`. -/
def offerTransition (r : PrepareRequest) (route : FlowRoute) (clock : OfferClock) :
    Tx Db FlowError Handoff :=
  Tx.mapError ofHandoffError (HandoffStore.offer (transitionOffer r route) clock)

/-- The new columns of a run whose handoff was offered. -/
def promoted (status : FlowStatus) : Table.Assign FlowRun.key where
  set run := { run with status, version := run.version + 1 }

/-- The pending route of a run, which the handoff columns of `flow_runs` require. -/
def FlowStatus.pendingRoute : FlowStatus → Option PendingRoute
  | .handoffPreparing route => some route
  | .handoffPending route _ => some route
  | _ => none

/-- The third transaction of `prepare_transition`. -/
def promote (r : PrepareRequest) (handoff : Handoff) : Tx Db FlowError FlowRun := do
  let run ← lockRun r.projectId r.workItemId
  let recorded ← replay r.projectId r.operationId r.digest
  match recorded with
  | some workItemId => lockRun r.projectId workItemId
  | none => do
    samePending run r.operationId r.digest
    let route ← Tx.demand (fun _ => FlowStatus.pendingRoute run.status) .database
    let status := FlowStatus.handoffPending route handoff.handoffId
    Tx.modify (Db.updateRun run.key (promoted status))
    journal r.projectId r.workItemId r.operationId r.digest .prepare
    return (promoted status).set run

/-! ## `pickup_transition` -/

/-- The new columns of a run that enters a state. -/
def pickedUp (target : FlowState) : Table.Assign FlowRun.key where
  set run := { run with
    currentState := target.stateId, ownerRoleId := target.ownerRole, status := .active,
    version := run.version + 1 }

/-- The new owner of a work item. -/
def assigned (roleId : String) : Table.Assign WorkItem.key where
  set w := { w with assignedRoleId := some roleId }

/-- The pending handoff of a run. -/
def pendingHandoff (run : FlowRun) : Option (PendingRoute × String) :=
  match run.status with
  | .handoffPending route handoffId => some (route, handoffId)
  | _ => none

/-- `pickup_transition` of an operation that is not recorded yet. -/
def pickupNew (r : PickupRequest) (run : FlowRun) : Tx Db FlowError FlowRun := do
  let (route, handoffId) ← Tx.demand (fun _ => pendingHandoff run)
    (.conflict "pending flow transition changed")
  Tx.require ((run.version : ℤ) = r.expectedVersion) (.conflict "pending flow transition changed")
  let db ← Tx.query id
  Tx.require (∃ h ∈ db.handoffs.lookup (r.projectId, handoffId), h.status.isAccepted = true)
    (.conflict "target has not accepted the handoff")
  let target ← stateOf run.flow route.targetState
  Tx.require (target.ownerRole = route.targetRole) (.conflict "pinned target owner changed")
  Tx.modify (Db.updateRun run.key (pickedUp target))
  Tx.require (∃ w ∈ db.workItems.lookup (r.projectId, r.workItemId), w.status = .active)
    (.conflict "active work item ownership did not change")
  Tx.modify (Db.updateWork (r.projectId, r.workItemId) (assigned target.ownerRole))
  insertObligations
    (newObligations r.projectId r.workItemId target run.fields (run.version + 1)) .database
  journal r.projectId r.workItemId r.operationId r.digest .pickup
  return (pickedUp target).set run

def pickupTransition (r : PickupRequest) : Tx Db FlowError FlowRun := do
  requireIdentifiers [r.projectId, r.workItemId, r.actorId, r.operationId]
  requireVersion r.expectedVersion
  let recorded ← replay r.projectId r.operationId r.digest
  match recorded with
  | some workItemId => lockRun r.projectId workItemId
  | none => do
    let run ← lockRun r.projectId r.workItemId
    pickupNew r run

/-! ## `complete` -/

/-- A run whose completion is reserved. -/
def completing (r : CompleteRequest) : Table.Assign FlowRun.key where
  set run := { run with status := .completionPreparing r.operationId r.digest }

/-- The reservation of the completion of a run that is active. -/
def reserveCompletionNew (r : CompleteRequest) (run : FlowRun) : Tx Db FlowError Unit := do
  Tx.require (run.status = .active ∧ (run.version : ℤ) = r.expectedVersion)
    (.conflict "flow is not ready for completion")
  let state ← stateOf run.flow run.currentState
  Tx.require (state.terminal = true) (.conflict "flow is not ready for completion")
  requireReady run
  Tx.modify (Db.updateRun run.key (completing r))

/-- The checks of the arguments of `complete`. -/
def checkComplete (r : CompleteRequest) : Tx Db FlowError Unit := do
  requireIdentifiers [r.projectId, r.workItemId, r.actorId, r.operationId]
  requireVersion r.expectedVersion
  requireFields r.evidence
  Tx.require (r.evidence ≠ .obj []) (.value "completion evidence is required")

/-- The first transaction of `complete`: the run of an operation that is recorded, or nothing. -/
def reserveCompletion (r : CompleteRequest) : Tx Db FlowError (FlowRun ⊕ Unit) := do
  checkComplete r
  let recorded ← replay r.projectId r.operationId r.digest
  match recorded with
  | some workItemId => do
    let run ← lockRun r.projectId workItemId
    return .inl run
  | none => do
    let run ← lockRun r.projectId r.workItemId
    match run.status with
    | .completionPreparing _ _ => do
      samePending run r.operationId r.digest
      return .inr ()
    | _ => do
      reserveCompletionNew r run
      return .inr ()

/-- `get_work_item`. -/
def readWork (r : CompleteRequest) : Tx Db FlowError WorkItem :=
  Tx.mapError .lifecycle (LifecycleStore.lockWorkItem r.projectId r.workItemId)

/-- The transition of the work item that `complete` asks for. -/
def completionTransition (r : CompleteRequest) (version : ℕ) : TransitionRequest where
  projectId := r.projectId
  workItemId := r.workItemId
  targetStatus := .completed
  actorId := r.actorId
  correlationId := r.operationId
  expectedVersion := version
  reason := "external flow completed"
  evidence := r.evidence

/-- The work item was completed by this request. -/
def CompletedBy (r : CompleteRequest) (w : WorkItem) : Prop :=
  w.status = .completed ∧ w.terminalReason = some "external flow completed" ∧
    w.terminalEvidence = r.evidence

instance (r : CompleteRequest) : DecidablePred (CompletedBy r) := fun _ =>
  inferInstanceAs (Decidable (_ ∧ _ ∧ _))

/-- A run that is completed. -/
def finished : Table.Assign FlowRun.key where
  set run := { run with status := .completed, version := run.version + 1 }

/-- The last transaction of `complete`. -/
def finish (r : CompleteRequest) : Tx Db FlowError FlowRun := do
  let run ← lockRun r.projectId r.workItemId
  let recorded ← replay r.projectId r.operationId r.digest
  match recorded with
  | some workItemId => lockRun r.projectId workItemId
  | none => do
    samePending run r.operationId r.digest
    -- the pending columns of a route would violate the check on `flow_runs`
    Tx.require (FlowStatus.pendingRoute run.status = none) .database
    Tx.modify (Db.updateRun run.key finished)
    journal r.projectId r.workItemId r.operationId r.digest .complete
    return finished.set run

/-! ## What the operations do -/

variable {db db' : Db}

/-- The run that the journal has for an operation. -/
structure Replayed (projectId operationId digest : String) (run : FlowRun) (db : Db) : Prop where
  recorded : ∃ t ∈ db.transitions, t.key = (projectId, operationId) ∧ t.requestDigest = digest ∧
    run.key = (projectId, t.workItemId)
  run_mem : run ∈ db.flowRuns

lemma replay_ok {p op d : String} {w : Option String} (h : replay p op d db = .ok (w, db')) :
    db' = db ∧
      ((w = none ∧ ∀ t ∈ db.transitions, t.key ≠ (p, op)) ∨
        ∃ t ∈ db.transitions, t.key = (p, op) ∧ t.requestDigest = d ∧ w = some t.workItemId) := by
  rw [replay, Tx.query_bind_ok] at h
  cases hrow : db.transitions.lookup (p, op) with
  | none =>
    rw [hrow] at h
    simp only [Tx.pure_ok, Prod.mk.injEq] at h
    obtain ⟨rfl, rfl⟩ := h
    exact ⟨rfl, Or.inl ⟨rfl, Table.lookup_eq_none.1 hrow⟩⟩
  | some t =>
    rw [hrow] at h
    simp only [Tx.require_bind_ok, Tx.pure_ok, Prod.mk.injEq] at h
    obtain ⟨hdigest, rfl, rfl⟩ := h
    obtain ⟨ht, hkey⟩ := Table.lookup_eq_some.1 hrow
    exact ⟨rfl, Or.inr ⟨t, ht, hkey, hdigest, rfl⟩⟩

lemma lockRun_ok {p w : String} {run : FlowRun} (h : lockRun p w db = .ok (run, db')) :
    db' = db ∧ run ∈ db.flowRuns ∧ run.key = (p, w) := by
  rw [lockRun, Tx.demand_ok] at h
  obtain ⟨hrun, rfl⟩ := h
  obtain ⟨hmem, hkey⟩ := Table.lookup_eq_some.1 hrun
  exact ⟨rfl, hmem, hkey⟩

/-- The fresh rows of a list of insertions. -/
structure Inserted (os : List FlowObligation) (db : Db)
    (obligations : Table FlowObligation FlowObligation.key) : Prop where
  mem_iff : ∀ o, o ∈ obligations ↔ o ∈ db.obligations ∨ o ∈ os
  fresh : ∀ n ∈ os, ∀ o ∈ db.obligations, o.key ≠ n.key

lemma insertAll_ok {os : List FlowObligation}
    (h : os.foldlM (fun db o => db.insertObligation o) db = some db') :
    ∃ obligations, db' = { db with obligations } ∧ Inserted os db obligations := by
  induction os generalizing db with
  | nil =>
    obtain rfl := Option.some.inj h
    exact ⟨_, rfl, by simp, by simp⟩
  | cons n os ih =>
    rw [List.foldlM_cons, Option.bind_eq_bind, Option.bind_eq_some_iff] at h
    obtain ⟨db₁, hins, h⟩ := h
    obtain ⟨table, htable, rfl⟩ := Option.map_eq_some_iff.1 hins
    obtain ⟨obligations, rfl, hmem, hfresh⟩ := ih h
    have hn := Table.mem_of_insert htable
    refine ⟨obligations, rfl, fun o => ?_, fun m hm o ho => ?_⟩
    · rw [hmem, hn, List.mem_cons]
      tauto
    · rcases List.mem_cons.1 hm with rfl | hm
      · exact (Table.insert_eq_some.1 htable).1 o ho
      · exact hfresh m hm o ((hn o).2 (Or.inl ho))

lemma insertObligations_ok {os : List FlowObligation} {e : FlowError} {u : Unit}
    (h : insertObligations os e db = .ok (u, db')) :
    ∃ obligations, db' = { db with obligations } ∧ Inserted os db obligations := by
  rw [insertObligations, Tx.attempt_ok] at h
  exact insertAll_ok h

lemma journal_ok {p w op d : String} {a : FlowOperation} {u : Unit}
    (h : journal p w op d a db = .ok (u, db')) :
    ∃ transitions, db.transitions.insert ⟨p, w, op, d, a⟩ = some transitions ∧
      db' = { db with transitions } := by
  rw [journal, Tx.attempt_ok] at h
  obtain ⟨transitions, hins, rfl⟩ := Option.map_eq_some_iff.1 h
  exact ⟨transitions, hins, rfl⟩

lemma samePending_bind_ok {β : Type} {run : FlowRun} {op d : String}
    {f : Unit → Tx Db FlowError β} {r : β × Db} : (samePending run op d >>= f) db = .ok r ↔
      run.status.pendingOperation = some (op, d) ∧ f () db = .ok r := Tx.require_bind_ok

lemma requireFields_ok {v : Json} {u : Unit} (h : requireFields v db = .ok (u, db')) :
    db' = db := by
  simp only [requireFields, Tx.demand_bind_ok, Tx.require_ok] at h
  obtain ⟨_, -, -, rfl⟩ := h
  rfl

/-- A run that `start` began. -/
structure Started (r : StartRequest) (run : FlowRun) (db db' : Db) : Prop where
  state : ∃ s, r.flow.1.state r.flow.1.entryState = some s ∧ run = newRun r s ∧
    ∃ w ∈ db.workItems, w.key = run.key ∧ w.status = .active ∧
    ∃ flowRuns obligations transitions, db.flowRuns.insert run = some flowRuns ∧
      Inserted (newObligations r.projectId r.workItemId s r.fields 1) db obligations ∧
      db.transitions.insert ⟨r.projectId, r.workItemId, r.operationId, r.digest, .start⟩ =
        some transitions ∧
      db' = { db with flowRuns, obligations, transitions }

lemma start_ok {r : StartRequest} {run : FlowRun} (h : start r db = .ok (run, db')) :
    (db' = db ∧ Replayed r.projectId r.operationId r.digest run db) ∨ Started r run db db' := by
  rw [start, requireIdentifiers, Tx.require_bind_ok] at h
  obtain ⟨-, h⟩ := h
  rw [Tx.bind_ok] at h
  obtain ⟨_, db₁, hfields, h⟩ := h
  obtain rfl := requireFields_ok hfields
  rw [stateOf, Tx.demand_bind_ok] at h
  obtain ⟨s, hs, h⟩ := h
  rw [Tx.bind_ok] at h
  obtain ⟨recorded, db₂, hreplay, h⟩ := h
  obtain ⟨rfl, ⟨rfl, -⟩ | ⟨t, ht, hkey, hdigest, rfl⟩⟩ := replay_ok hreplay
  · refine Or.inr ⟨s, hs, ?_⟩
    dsimp only at h
    rw [startNew, Tx.demand_bind_ok] at h
    obtain ⟨w, hw, h⟩ := h
    obtain ⟨hwmem, hwkey⟩ := Table.lookup_eq_some.1 hw
    simp only [Tx.require_bind_ok, Tx.attempt_bind_ok] at h
    obtain ⟨⟨hactive, -⟩, db₃, hrun, h⟩ := h
    obtain ⟨flowRuns, hflowRuns, rfl⟩ := Option.map_eq_some_iff.1 hrun
    rw [Tx.bind_ok] at h
    obtain ⟨_, db₄, hobl, h⟩ := h
    obtain ⟨obligations, rfl, hinserted⟩ := insertObligations_ok hobl
    rw [Tx.bind_ok] at h
    obtain ⟨_, db₅, hjournal, h⟩ := h
    obtain ⟨transitions, htransitions, rfl⟩ := journal_ok hjournal
    simp only [Tx.pure_ok, Prod.mk.injEq] at h
    obtain ⟨rfl, rfl⟩ := h
    exact ⟨rfl, w, hwmem, hwkey, hactive, flowRuns, obligations, transitions, hflowRuns,
      ⟨hinserted.mem_iff, hinserted.fresh⟩, htransitions, rfl⟩
  · dsimp only at h
    obtain ⟨rfl, hmem, hrunkey⟩ := lockRun_ok h
    exact Or.inl ⟨rfl, ⟨t, ht, hkey, hdigest, hrunkey⟩, hmem⟩

/-- A committed dispatch: the obligation was routed to its role. -/
structure Dispatched (r : DispatchRequest) (now : Time) (o : FlowObligation) (db db' : Db) :
    Prop where
  kind : r.kind = .consult ∨ r.kind = .inform
  run : ∃ run ∈ db.flowRuns, run.key = (r.projectId, r.workItemId) ∧ run.status = .active ∧
    o.key = (r.projectId, r.workItemId, run.currentState, run.version, r.kind, r.obligationId)
  mem : o ∈ db.obligations
  status : o.status = .pending ∨ o.status = .dispatched
  effect : ∃ queueItems, db' = ({ db with queueItems } : Db).setObligation o.key .dispatched
    FlowObligation.evidence

lemma dispatch_ok {r : DispatchRequest} {now : Time} {o' : FlowObligation}
    (h : dispatch r now db = .ok (o', db')) : ∃ o, Dispatched r now o db db' := by
  rw [dispatch, requireIdentifiers, Tx.require_bind_ok, Tx.require_bind_ok] at h
  obtain ⟨-, hkind, h⟩ := h
  rw [Tx.bind_ok] at h
  obtain ⟨run, db₁, hrun, h⟩ := h
  obtain ⟨rfl, hmem, hkey⟩ := lockRun_ok hrun
  rw [Tx.require_bind_ok, Tx.demand_bind_ok] at h
  obtain ⟨hactive, o, ho, h⟩ := h
  obtain ⟨homem, hokey, hostatus⟩ := Table.mem_of_find ho
  rw [Tx.bind_ok] at h
  obtain ⟨draft, db₂, hdraft, h⟩ := h
  rw [Tx.mapError_ok] at hdraft
  obtain ⟨rfl, -⟩ := Router.init_ok hdraft
  rw [Tx.bind_ok] at h
  obtain ⟨item, db₃, hroute, h⟩ := h
  rw [Tx.mapError_ok] at hroute
  obtain ⟨queueItems, rfl⟩ := Router.routeInTransaction_items hroute
  simp only [Tx.modify_bind_ok, Tx.pure_ok, Prod.mk.injEq] at h
  obtain ⟨-, rfl⟩ := h
  exact ⟨o, hkind, ⟨run, hmem, hkey, hactive, hokey⟩, homem, hostatus, queueItems, rfl⟩

/-- The fields that `prepare_transition` merges. -/
lemma mergedFields_ok {run : FlowRun} {fields merged : Json} {impact : Option GovernanceContext}
    (h : mergedFields run fields impact db = .ok (merged, db')) :
    db' = db ∧ ((impact = none ∧ merged = run.fields.merge fields) ∨
      ∃ c, impact = some c ∧ merged =
        (run.fields.merge fields).withField "architecture_impact" (.str c.architectureImpact)) := by
  cases impact with
  | none =>
    simp only [mergedFields, Tx.pure_ok, Prod.mk.injEq] at h
    exact ⟨h.2, Or.inl ⟨rfl, h.1⟩⟩
  | some c =>
    simp only [mergedFields, Tx.require_bind_ok, Tx.pure_ok, Prod.mk.injEq] at h
    exact ⟨h.2.2, Or.inr ⟨c, rfl, h.2.1⟩⟩

/-- A committed reservation: the obligations of the entry were fulfilled. -/
structure Reserves (r : PrepareRequest) (run : FlowRun) (route : FlowRoute) (merged : Json)
    (db db' : Db) : Prop where
  mem : run ∈ db.flowRuns
  key : run.key = (r.projectId, r.workItemId)
  active : run.status = .active
  version : (run.version : ℤ) = r.expectedVersion
  fields : ∃ db₁, mergedFields run r.fields (db.impacts.lookup (r.projectId, r.workItemId)) db =
    .ok (merged, db₁)
  state : ∃ s, run.flow.state run.currentState = some s ∧ s.terminal = false ∧
    s.selectRoute r.outcome merged = some route
  ready : run.Ready db
  unrecorded : ∀ t ∈ db.transitions, t.key ≠ (r.projectId, r.operationId)
  effect : db' = db.updateRun run.key (reserved r route merged)

/-- A run that was reserved before by the same operation. -/
structure Reserved (r : PrepareRequest) (run : FlowRun) (route : FlowRoute) (db : Db) : Prop where
  mem : run ∈ db.flowRuns
  key : run.key = (r.projectId, r.workItemId)
  pending : ∃ p, run.status = .handoffPreparing p ∧ p.operationId = r.operationId ∧
    p.requestDigest = r.digest
  state : ∃ s, run.flow.state run.currentState = some s ∧
    s.selectRoute r.outcome run.fields = some route

lemma checkPrepare_ok {r : PrepareRequest} {u : Unit} (h : checkPrepare r db = .ok (u, db')) :
    db' = db ∧ (∀ s ∈ [r.projectId, r.workItemId, r.actorId, r.operationId],
      isIdentifier s = true) ∧ 1 ≤ r.expectedVersion := by
  simp only [checkPrepare, requireIdentifiers, requireIdentifier, Tx.require_bind_ok] at h
  obtain ⟨hids, -, h⟩ := h
  rw [Tx.bind_ok] at h
  obtain ⟨_, db₁, hfields, h⟩ := h
  obtain rfl := requireFields_ok hfields
  rw [requireVersion, Tx.require_ok] at h
  exact ⟨h.2, hids, h.1⟩

lemma reserveNew_ok {r : PrepareRequest} {run : FlowRun} {route : FlowRoute}
    (h : reserveNew r run db = .ok (route, db')) :
    run.status = .active ∧ (run.version : ℤ) = r.expectedVersion ∧ ∃ merged db₁,
      mergedFields run r.fields (db.impacts.lookup (r.projectId, r.workItemId)) db =
        .ok (merged, db₁) ∧
      (∃ s, run.flow.state run.currentState = some s ∧ s.terminal = false ∧
        s.selectRoute r.outcome merged = some route) ∧ run.Ready db ∧
      db' = db.updateRun run.key (reserved r route merged) := by
  rw [reserveNew, Tx.require_bind_ok, Tx.query_bind_ok] at h
  obtain ⟨⟨hactive, hversion⟩, h⟩ := h
  rw [Tx.bind_ok] at h
  obtain ⟨merged, db₁, hmerged, h⟩ := h
  obtain ⟨rfl, -⟩ := mergedFields_ok hmerged
  simp only [stateOf, routeOf, requireReady, Tx.demand_bind_ok, Tx.require_bind_ok] at h
  obtain ⟨s, hs, hterminal, h⟩ := h
  rw [Tx.bind_ok] at h
  obtain ⟨_, db₂, hready, h⟩ := h
  rw [Tx.query_bind_ok, Tx.require_ok] at hready
  obtain ⟨hready, rfl⟩ := hready
  simp only [Tx.demand_bind_ok, Tx.modify_bind_ok, Tx.pure_ok, Prod.mk.injEq] at h
  obtain ⟨route', hroute, role, -, rfl, rfl⟩ := h
  exact ⟨hactive, hversion, merged, _, hmerged, ⟨s, hs, hterminal, hroute⟩, hready, rfl⟩

lemma reserve_ok {r : PrepareRequest} {out : FlowRun ⊕ FlowRoute}
    (h : reserve r db = .ok (out, db')) :
    (∃ run, out = .inl run ∧ db' = db ∧ Replayed r.projectId r.operationId r.digest run db) ∨
      (∃ run route, out = .inr route ∧ db' = db ∧ Reserved r run route db) ∨
      ∃ run route merged, out = .inr route ∧ Reserves r run route merged db db' := by
  rw [reserve, Tx.bind_ok] at h
  obtain ⟨_, db₁, hcheck, h⟩ := h
  obtain ⟨rfl, -, -⟩ := checkPrepare_ok hcheck
  rw [Tx.bind_ok] at h
  obtain ⟨recorded, db₂, hreplay, h⟩ := h
  obtain ⟨rfl, ⟨rfl, hunrecorded⟩ | ⟨t, ht, hkey, hdigest, rfl⟩⟩ := replay_ok hreplay
  · dsimp only at h
    rw [Tx.bind_ok] at h
    obtain ⟨run, db₃, hrun, h⟩ := h
    obtain ⟨rfl, hmem, hrunkey⟩ := lockRun_ok hrun
    -- a run that is not being prepared must be active
    have hnew : (reserveNew r run >>= fun route => pure (.inr route)) db₃ = .ok (out, db') →
        ∃ run route merged, out = .inr route ∧ Reserves r run route merged db₃ db' := by
      intro hnew
      rw [Tx.bind_ok] at hnew
      obtain ⟨route, db₄, hroute, hpure⟩ := hnew
      simp only [Tx.pure_ok, Prod.mk.injEq] at hpure
      obtain ⟨rfl, rfl⟩ := hpure
      obtain ⟨hactive, hversion, merged, db₁, hmerged, hstate, hready, heffect⟩ :=
        reserveNew_ok hroute
      exact ⟨run, route, merged, rfl, hmem, hrunkey, hactive, hversion, ⟨db₁, hmerged⟩, hstate,
        hready, hunrecorded, heffect⟩
    cases hs : run.status with
    | handoffPreparing p =>
      rw [hs] at h
      simp only [samePending_bind_ok, stateOf, routeOf, Tx.demand_bind_ok, Tx.pure_ok,
        Prod.mk.injEq] at h
      obtain ⟨hpending, s, hstate, route, hroute, rfl, rfl⟩ := h
      rw [hs] at hpending
      obtain ⟨hop, hdigest⟩ := Prod.mk.inj (Option.some.inj hpending)
      exact Or.inr (Or.inl ⟨run, route, rfl, rfl, hmem, hrunkey, ⟨p, hs, hop, hdigest⟩, s, hstate,
        hroute⟩)
    | active => exact Or.inr (Or.inr (hnew (by rwa [hs] at h)))
    | handoffPending p i => exact Or.inr (Or.inr (hnew (by rwa [hs] at h)))
    | completionPreparing o d => exact Or.inr (Or.inr (hnew (by rwa [hs] at h)))
    | completed => exact Or.inr (Or.inr (hnew (by rwa [hs] at h)))
  · dsimp only at h
    rw [Tx.bind_ok] at h
    obtain ⟨run, db₃, hrun, h⟩ := h
    obtain ⟨rfl, hmem, hrunkey⟩ := lockRun_ok hrun
    simp only [Tx.pure_ok, Prod.mk.injEq] at h
    obtain ⟨rfl, rfl⟩ := h
    exact Or.inl ⟨run, rfl, rfl, ⟨t, ht, hkey, hdigest, hrunkey⟩, hmem⟩

/-- A committed promotion: the reserved route has its handoff. -/
structure Promotes (r : PrepareRequest) (handoff : Handoff) (run run' : FlowRun) (db db' : Db) :
    Prop where
  mem : run ∈ db.flowRuns
  key : run.key = (r.projectId, r.workItemId)
  pending : run.status.pendingOperation = some (r.operationId, r.digest)
  route : ∃ p, FlowStatus.pendingRoute run.status = some p ∧
    run' = (promoted (.handoffPending p handoff.handoffId)).set run ∧
    ∃ transitions,
      db.transitions.insert ⟨r.projectId, r.workItemId, r.operationId, r.digest, .prepare⟩ =
        some transitions ∧
      db' = { db.updateRun run.key (promoted (.handoffPending p handoff.handoffId)) with
        transitions }

lemma promote_ok {r : PrepareRequest} {handoff : Handoff} {run' : FlowRun}
    (h : promote r handoff db = .ok (run', db')) :
    (db' = db ∧ Replayed r.projectId r.operationId r.digest run' db) ∨
      ∃ run, Promotes r handoff run run' db db' := by
  rw [promote, Tx.bind_ok] at h
  obtain ⟨run, db₁, hrun, h⟩ := h
  obtain ⟨rfl, hmem, hrunkey⟩ := lockRun_ok hrun
  rw [Tx.bind_ok] at h
  obtain ⟨recorded, db₂, hreplay, h⟩ := h
  obtain ⟨rfl, ⟨rfl, -⟩ | ⟨t, ht, hkey, hdigest, rfl⟩⟩ := replay_ok hreplay
  · dsimp only at h
    simp only [samePending_bind_ok, Tx.demand_bind_ok, Tx.modify_bind_ok] at h
    obtain ⟨hpending, p, hp, h⟩ := h
    rw [Tx.bind_ok] at h
    obtain ⟨_, db₃, hjournal, h⟩ := h
    obtain ⟨transitions, htransitions, rfl⟩ := journal_ok hjournal
    simp only [Tx.pure_ok, Prod.mk.injEq] at h
    obtain ⟨rfl, rfl⟩ := h
    exact Or.inr ⟨run, hmem, hrunkey, hpending, p, hp, rfl, transitions, htransitions, rfl⟩
  · dsimp only at h
    obtain ⟨rfl, hmem', hkey'⟩ := lockRun_ok h
    exact Or.inl ⟨rfl, ⟨t, ht, hkey, hdigest, hkey'⟩, hmem'⟩

/-- A committed pickup: the run is in the target state of its route. -/
structure PicksUp (r : PickupRequest) (run run' : FlowRun) (db db' : Db) : Prop where
  mem : run ∈ db.flowRuns
  key : run.key = (r.projectId, r.workItemId)
  version : (run.version : ℤ) = r.expectedVersion
  target : ∃ p handoffId target, run.status = .handoffPending p handoffId ∧
    run.flow.state p.targetState = some target ∧ target.ownerRole = p.targetRole ∧
    run' = (pickedUp target).set run ∧
    (∃ h ∈ db.handoffs, h.key = (r.projectId, handoffId) ∧ h.status.isAccepted = true) ∧
    (∃ w ∈ db.workItems, w.key = run.key ∧ w.status = .active) ∧
    ∃ obligations transitions,
      Inserted (newObligations r.projectId r.workItemId target run.fields (run.version + 1)) db
        obligations ∧
      db.transitions.insert ⟨r.projectId, r.workItemId, r.operationId, r.digest, .pickup⟩ =
        some transitions ∧
      db' = { (db.updateRun run.key (pickedUp target)).updateWork run.key
        (assigned target.ownerRole) with obligations, transitions }

lemma pendingHandoff_eq_some {run : FlowRun} {p : PendingRoute} {i : String}
    (h : pendingHandoff run = some (p, i)) : run.status = .handoffPending p i := by
  unfold pendingHandoff at h
  split at h
  · next hs =>
    obtain ⟨rfl, rfl⟩ := Prod.mk.inj (Option.some.inj h)
    exact hs
  · simp at h

lemma pickupNew_ok {r : PickupRequest} {run run' : FlowRun} (hmem : run ∈ db.flowRuns)
    (hkey : run.key = (r.projectId, r.workItemId)) (h : pickupNew r run db = .ok (run', db')) :
    PicksUp r run run' db db' := by
  simp only [pickupNew, stateOf, Tx.demand_bind_ok, Tx.require_bind_ok, Tx.query_bind_ok,
    Tx.modify_bind_ok] at h
  obtain ⟨⟨p, i⟩, hpending, hversion, hhandoff, target, htarget, howner, hwork, h⟩ := h
  rw [Tx.bind_ok] at h
  obtain ⟨_, db₁, hobl, h⟩ := h
  obtain ⟨obligations, rfl, hinserted⟩ := insertObligations_ok hobl
  rw [Tx.bind_ok] at h
  obtain ⟨_, db₂, hjournal, h⟩ := h
  obtain ⟨transitions, htransitions, rfl⟩ := journal_ok hjournal
  simp only [Tx.pure_ok, Prod.mk.injEq] at h
  obtain ⟨rfl, rfl⟩ := h
  obtain ⟨handoff, hlookup, haccepted⟩ := hhandoff
  obtain ⟨hh, hhkey⟩ := Table.lookup_eq_some.1 hlookup
  obtain ⟨w, hwlookup, hactive⟩ := hwork
  obtain ⟨hw, hwkey⟩ := Table.lookup_eq_some.1 hwlookup
  refine ⟨hmem, hkey, hversion, p, i, target, pendingHandoff_eq_some hpending, htarget, howner, rfl,
    ⟨handoff, hh, hhkey, haccepted⟩, ⟨w, hw, hwkey.trans hkey.symm, hactive⟩, obligations,
    transitions, ⟨hinserted.mem_iff, hinserted.fresh⟩, htransitions, ?_⟩
  rw [hkey]

lemma pickupTransition_ok {r : PickupRequest} {run' : FlowRun}
    (h : pickupTransition r db = .ok (run', db')) :
    (db' = db ∧ Replayed r.projectId r.operationId r.digest run' db) ∨
      ∃ run, PicksUp r run run' db db' := by
  rw [pickupTransition, requireIdentifiers, requireVersion, Tx.require_bind_ok,
    Tx.require_bind_ok, Tx.bind_ok] at h
  obtain ⟨-, -, recorded, db₁, hreplay, h⟩ := h
  obtain ⟨rfl, ⟨rfl, -⟩ | ⟨t, ht, hkey, hdigest, rfl⟩⟩ := replay_ok hreplay
  · dsimp only at h
    rw [Tx.bind_ok] at h
    obtain ⟨run, db₂, hrun, h⟩ := h
    obtain ⟨rfl, hmem, hrunkey⟩ := lockRun_ok hrun
    exact Or.inr ⟨run, pickupNew_ok hmem hrunkey h⟩
  · dsimp only at h
    obtain ⟨rfl, hmem, hrunkey⟩ := lockRun_ok h
    exact Or.inl ⟨rfl, ⟨t, ht, hkey, hdigest, hrunkey⟩, hmem⟩

/-- A committed reservation of a completion: the obligations of the entry were fulfilled. -/
structure ReservesCompletion (r : CompleteRequest) (run : FlowRun) (db db' : Db) : Prop where
  mem : run ∈ db.flowRuns
  key : run.key = (r.projectId, r.workItemId)
  active : run.status = .active
  state : ∃ s, run.flow.state run.currentState = some s ∧ s.terminal = true
  ready : run.Ready db
  effect : db' = db.updateRun run.key (completing r)

/-- A completion that was reserved before by the same operation. -/
structure ReservedCompletion (r : CompleteRequest) (run : FlowRun) (db : Db) : Prop where
  mem : run ∈ db.flowRuns
  key : run.key = (r.projectId, r.workItemId)
  pending : run.status = .completionPreparing r.operationId r.digest

lemma checkComplete_ok {r : CompleteRequest} {u : Unit}
    (h : checkComplete r db = .ok (u, db')) : db' = db := by
  simp only [checkComplete, requireIdentifiers, requireVersion, Tx.require_bind_ok] at h
  obtain ⟨-, -, h⟩ := h
  rw [Tx.bind_ok] at h
  obtain ⟨_, db₁, hfields, h⟩ := h
  obtain rfl := requireFields_ok hfields
  rw [Tx.require_ok] at h
  exact h.2

lemma reserveCompletionNew_ok {r : CompleteRequest} {run : FlowRun} {u : Unit}
    (hmem : run ∈ db.flowRuns) (hkey : run.key = (r.projectId, r.workItemId))
    (h : reserveCompletionNew r run db = .ok (u, db')) : ReservesCompletion r run db db' := by
  simp only [reserveCompletionNew, stateOf, Tx.require_bind_ok, Tx.demand_bind_ok] at h
  obtain ⟨⟨hactive, -⟩, s, hs, hterminal, h⟩ := h
  rw [Tx.bind_ok] at h
  obtain ⟨_, db₁, hready, h⟩ := h
  rw [requireReady, Tx.query_bind_ok, Tx.require_ok] at hready
  obtain ⟨hready, rfl⟩ := hready
  rw [Tx.modify_ok] at h
  exact ⟨hmem, hkey, hactive, ⟨s, hs, hterminal⟩, hready, h⟩

lemma reserveCompletion_ok {r : CompleteRequest} {out : FlowRun ⊕ Unit}
    (h : reserveCompletion r db = .ok (out, db')) :
    (∃ run, out = .inl run ∧ db' = db ∧ Replayed r.projectId r.operationId r.digest run db) ∨
      (∃ run, out = .inr () ∧ db' = db ∧ ReservedCompletion r run db) ∨
      ∃ run, out = .inr () ∧ ReservesCompletion r run db db' := by
  rw [reserveCompletion, Tx.bind_ok] at h
  obtain ⟨_, db₁, hcheck, h⟩ := h
  obtain rfl := checkComplete_ok hcheck
  rw [Tx.bind_ok] at h
  obtain ⟨recorded, db₂, hreplay, h⟩ := h
  obtain ⟨rfl, ⟨rfl, -⟩ | ⟨t, ht, hkey, hdigest, rfl⟩⟩ := replay_ok hreplay
  · dsimp only at h
    rw [Tx.bind_ok] at h
    obtain ⟨run, db₃, hrun, h⟩ := h
    obtain ⟨rfl, hmem, hrunkey⟩ := lockRun_ok hrun
    have hnew : (reserveCompletionNew r run >>= fun _ => pure (.inr ())) db₃ = .ok (out, db') →
        ∃ run, out = .inr () ∧ ReservesCompletion r run db₃ db' := by
      intro hnew
      rw [Tx.bind_ok] at hnew
      obtain ⟨_, db₄, hreserve, hpure⟩ := hnew
      simp only [Tx.pure_ok, Prod.mk.injEq] at hpure
      obtain ⟨rfl, rfl⟩ := hpure
      exact ⟨run, rfl, reserveCompletionNew_ok hmem hrunkey hreserve⟩
    cases hs : run.status with
    | completionPreparing o d =>
      rw [hs] at h
      simp only [samePending_bind_ok, Tx.pure_ok, Prod.mk.injEq] at h
      obtain ⟨hpending, rfl, rfl⟩ := h
      rw [hs] at hpending
      obtain ⟨rfl, rfl⟩ := Prod.mk.inj (Option.some.inj hpending)
      exact Or.inr (Or.inl ⟨run, rfl, rfl, hmem, hrunkey, hs⟩)
    | active => exact Or.inr (Or.inr (hnew (by rwa [hs] at h)))
    | handoffPreparing p => exact Or.inr (Or.inr (hnew (by rwa [hs] at h)))
    | handoffPending p i => exact Or.inr (Or.inr (hnew (by rwa [hs] at h)))
    | completed => exact Or.inr (Or.inr (hnew (by rwa [hs] at h)))
  · dsimp only at h
    rw [Tx.bind_ok] at h
    obtain ⟨run, db₃, hrun, h⟩ := h
    obtain ⟨rfl, hmem, hrunkey⟩ := lockRun_ok hrun
    simp only [Tx.pure_ok, Prod.mk.injEq] at h
    obtain ⟨rfl, rfl⟩ := h
    exact Or.inl ⟨run, rfl, rfl, ⟨t, ht, hkey, hdigest, hrunkey⟩, hmem⟩

/-- The last transaction of a completion. -/
structure Finishes (r : CompleteRequest) (run run' : FlowRun) (db db' : Db) : Prop where
  mem : run ∈ db.flowRuns
  key : run.key = (r.projectId, r.workItemId)
  pending : run.status = .completionPreparing r.operationId r.digest
  result : run' = finished.set run
  effect : ∃ transitions,
    db.transitions.insert ⟨r.projectId, r.workItemId, r.operationId, r.digest, .complete⟩ =
      some transitions ∧
    db' = { db.updateRun run.key finished with transitions }

lemma finish_ok {r : CompleteRequest} {run' : FlowRun} (h : finish r db = .ok (run', db')) :
    (db' = db ∧ Replayed r.projectId r.operationId r.digest run' db) ∨
      ∃ run, Finishes r run run' db db' := by
  rw [finish, Tx.bind_ok] at h
  obtain ⟨run, db₁, hrun, h⟩ := h
  obtain ⟨rfl, hmem, hrunkey⟩ := lockRun_ok hrun
  rw [Tx.bind_ok] at h
  obtain ⟨recorded, db₂, hreplay, h⟩ := h
  obtain ⟨rfl, ⟨rfl, -⟩ | ⟨t, ht, hkey, hdigest, rfl⟩⟩ := replay_ok hreplay
  · dsimp only at h
    simp only [samePending_bind_ok, Tx.require_bind_ok, Tx.modify_bind_ok] at h
    obtain ⟨hpending, hroute, h⟩ := h
    rw [Tx.bind_ok] at h
    obtain ⟨_, db₃, hjournal, h⟩ := h
    obtain ⟨transitions, htransitions, rfl⟩ := journal_ok hjournal
    simp only [Tx.pure_ok, Prod.mk.injEq] at h
    obtain ⟨rfl, rfl⟩ := h
    have hstatus : run.status = .completionPreparing r.operationId r.digest := by
      cases hs : run.status <;>
        simp_all [FlowStatus.pendingOperation, FlowStatus.pendingRoute]
    exact Or.inr ⟨run, hmem, hrunkey, hstatus, rfl, transitions, htransitions, rfl⟩
  · dsimp only at h
    obtain ⟨rfl, hmem', hkey'⟩ := lockRun_ok h
    exact Or.inl ⟨rfl, ⟨t, ht, hkey, hdigest, hkey'⟩, hmem'⟩

end FlowEngine

end AgenticMesh
