import AgenticMesh.Base.Table
import AgenticMesh.Flow.Definition

/-!
# The control plane database

The tables of the schema `agentic_mesh_v5` that the stores of this development
read and write, with the columns that they use.  A column group that a `CHECK`
constraint ties together is one field, so that a row which violates the
constraint cannot be written down: a lease is released with an instant and a
reason or not at all, an active incident has a next attempt and no other has, a
waiting flow run carries exactly the pending columns of its status.

Timestamps are natural numbers of microseconds.
-/

namespace AgenticMesh

/-- An instant of the database clock, in microseconds. -/
abbrev Time := ℕ

/-- `make_interval(secs => n)`. -/
def seconds (n : ℤ) : Time := n.toNat * 1000000

/-! ## Projects, roles and instances -/

/-- A row of `projects`. -/
structure Project where
  projectId : String
  status : String
deriving DecidableEq

def Project.key (p : Project) : String := p.projectId

/-- A row of `project_sponsors`. -/
structure ProjectSponsor where
  projectId : String
  sponsorId : String
deriving DecidableEq

def ProjectSponsor.key (s : ProjectSponsor) : String × String := (s.projectId, s.sponsorId)

/-- The status of a role. -/
inductive RoleStatus where
  | active
  | inactive
deriving DecidableEq

/-- A row of `roles`. -/
structure Role where
  projectId : String
  roleId : String
  status : RoleStatus
deriving DecidableEq

def Role.key (r : Role) : String × String := (r.projectId, r.roleId)

/-- The status of a role instance. -/
inductive InstanceStatus where
  | configured
  | stopped
  | starting
  | running
  | hibernating
  | hibernated
deriving DecidableEq

/-- A row of `role_instances`. -/
structure RoleInstance where
  projectId : String
  instanceId : String
  roleId : String
  status : InstanceStatus
deriving DecidableEq

def RoleInstance.key (i : RoleInstance) : String × String := (i.projectId, i.instanceId)

/-- The active configuration of a role (`role_bindings`). -/
structure RoleBinding where
  projectId : String
  roleId : String
  roleReference : String
  flowReference : String
  promptConfigurationDigest : String
deriving DecidableEq

def RoleBinding.key (b : RoleBinding) : String × String := (b.projectId, b.roleId)

/-! ## Work items, gates and approvals -/

/-- The status of a work item. -/
inductive WorkStatus where
  | new
  | active
  | gated
  | completed
  | error
deriving DecidableEq

/-- A row of `work_items`. -/
structure WorkItem where
  projectId : String
  workItemId : String
  assignedRoleId : Option String
  status : WorkStatus
  version : ℕ
  payload : Json
  terminalReason : Option String
  terminalEvidence : Json
deriving DecidableEq

def WorkItem.key (w : WorkItem) : String × String := (w.projectId, w.workItemId)

/-- The flow obligation that a managed sponsor gate stands for. -/
structure FlowLink where
  flowState : String
  flowEntryVersion : ℕ
  flowObligationId : String
  expiresAt : Time
deriving DecidableEq

/-- The operation that resolved a managed gate and the digest of its request. -/
structure GateOperation where
  operationId : String
  requestDigest : String
deriving DecidableEq

/-- `gates_resolution_shape_check`: its clause on managed gates is null, and so passes, for a gate
that is approved or rejected without an operation. -/
inductive GateStatus where
  | pending
  | approved (operation : Option GateOperation)
  | rejected (operation : Option GateOperation)
  | timedOut (operation : GateOperation)
deriving DecidableEq

/-- A row of `gates`. -/
structure Gate where
  projectId : String
  gateId : String
  workItemId : String
  gateType : String
  requestedBy : String
  requestedAt : Time
  correlationId : String
  evidence : Json
  status : GateStatus
  flowLink : Option FlowLink
deriving DecidableEq

def Gate.key (g : Gate) : String × String := (g.projectId, g.gateId)

/-- The work item of a gate. -/
def Gate.workKey (g : Gate) : String × String := (g.projectId, g.workItemId)

/-- A decision of a sponsor on a gate. -/
structure Decision where
  approved : Bool
  rationale : String
  evidence : Json
deriving DecidableEq

/-- The columns of an approval can hold a decision. -/
def Decision.storable (d : Decision) : Bool := hasNoNul d.rationale && d.evidence.storable

/-- The columns can hold a decision once its rationale was stripped. -/
lemma Decision.storable_required {d : Decision} (h : d.storable = true) {rationale : String}
    (hrationale : required d.rationale = some rationale) :
    ({ d with rationale } : Decision).storable = true := by
  rw [Decision.storable, Bool.and_eq_true] at h ⊢
  obtain ⟨hnul, hevidence⟩ := h
  refine ⟨?_, hevidence⟩
  rw [← strip_of_required hrationale]
  exact hasNoNul_strip hnul

/-- A row of `approvals`. -/
structure Approval where
  projectId : String
  approvalId : String
  gateId : String
  approverId : String
  decision : Option Decision
deriving DecidableEq

def Approval.key (a : Approval) : String × String := (a.projectId, a.approvalId)

/-! ## Role queues and leases -/

/-- A row of `role_queues`. -/
structure RoleQueue where
  projectId : String
  queueId : String
  roleId : String
  capability : Option String
  paused : Bool
deriving DecidableEq

def RoleQueue.key (q : RoleQueue) : String × String := (q.projectId, q.queueId)

/-- `queue_items_status_check`. -/
inductive ItemStatus where
  | ready
  | leased
  | completed
deriving DecidableEq

/-- A row of `queue_items`. -/
structure QueueItem where
  projectId : String
  queueItemId : String
  queueId : String
  workItemId : String
  status : ItemStatus
  priority : ℤ
  attemptCount : ℕ
  availableAt : Time
  payload : Json
  idempotencyKey : String
  createdAt : Time
  routeFingerprint : Option String
deriving DecidableEq

def QueueItem.key (i : QueueItem) : String × String := (i.projectId, i.queueItemId)

/-- The work item of a queue item. -/
def QueueItem.workKey (i : QueueItem) : String × String := (i.projectId, i.workItemId)

/-- `UNIQUE (project_id, idempotency_key)`. -/
def QueueItem.routeKey (i : QueueItem) : String × String := (i.projectId, i.idempotencyKey)

/-- When and why a lease ended. -/
structure LeaseRelease where
  releasedAt : Time
  releasedReason : String
deriving DecidableEq

/-- A row of `leases`. -/
structure Lease where
  projectId : String
  leaseId : String
  queueItemId : String
  ownerInstanceId : String
  leaseToken : String
  acquiredAt : Time
  heartbeatAt : Time
  expiresAt : Time
  released : Option LeaseRelease
deriving DecidableEq

def Lease.key (l : Lease) : String × String := (l.projectId, l.leaseId)

/-- The queue item that a lease is for. -/
def Lease.itemKey (l : Lease) : String × String := (l.projectId, l.queueItemId)

/-! ## Handoffs -/

/-- The target lease that claimed a handoff. -/
structure HandoffTarget where
  targetInstanceId : String
  targetLeaseId : String
  claimedAt : Time
deriving DecidableEq

/-- `handoffs_state_shape_check`. -/
inductive HandoffStatus where
  | offered
  | claimed (target : HandoffTarget)
  | accepted (target : HandoffTarget) (acceptedAt : Time)
deriving DecidableEq

/-- `status = 'accepted'`. -/
def HandoffStatus.isAccepted : HandoffStatus → Bool
  | .accepted .. => true
  | _ => false

/-- The target lease of a claimed or accepted handoff. -/
def HandoffStatus.target? : HandoffStatus → Option HandoffTarget
  | .offered => none
  | .claimed t => some t
  | .accepted t _ => some t

/-- A row of `handoffs`. -/
structure Handoff where
  projectId : String
  handoffId : String
  workItemId : String
  sourceRoleId : String
  sourceInstanceId : String
  sourceQueueItemId : String
  sourceLeaseId : String
  targetRoleId : String
  queueItemId : String
  summary : String
  idempotencyKey : String
  offeredAt : Time
  queuedAt : Time
  requestFingerprint : String
  status : HandoffStatus
deriving DecidableEq

def Handoff.key (h : Handoff) : String × String := (h.projectId, h.handoffId)

/-- The work item of a handoff. -/
def Handoff.workKey (h : Handoff) : String × String := (h.projectId, h.workItemId)

/-- `UNIQUE (project_id, idempotency_key)`. -/
def Handoff.routeKey (h : Handoff) : String × String := (h.projectId, h.idempotencyKey)

/-- The queue item that a handoff comes from. -/
def Handoff.sourceKey (h : Handoff) : String × String := (h.projectId, h.sourceQueueItemId)

/-- The queue item that a handoff is delivered as. -/
def Handoff.targetKey (h : Handoff) : String × String := (h.projectId, h.queueItemId)

/-! ## Provider threads -/

/-- The operation that holds a provider thread. -/
structure ActiveOperation where
  operationId : String
  instanceId : String
  startedAt : Time
deriving DecidableEq

/-- `thread_affinities_state_check`: a bound provider thread, or a pending reseed.  Only a
bound thread can have an active operation. -/
inductive AffinityState where
  | active (providerId threadId : String) (operation : Option ActiveOperation)
  | pendingSeed (reseedId : String)
deriving DecidableEq

/-- A row of `thread_affinities`. -/
structure ThreadAffinity where
  projectId : String
  workItemId : String
  roleId : String
  conversationId : String
  promptDigest : String
  generation : ℕ
  lastInstanceId : String
  state : AffinityState
deriving DecidableEq

def ThreadAffinity.key (a : ThreadAffinity) : String × String × String × String :=
  (a.projectId, a.workItemId, a.roleId, a.conversationId)

namespace AffinityState

/-- The active operation of a thread. -/
def operation? : AffinityState → Option ActiveOperation
  | active _ _ operation => operation
  | pendingSeed _ => none

/-- The provider and the thread that are bound. -/
def thread? : AffinityState → Option (String × String)
  | active providerId threadId _ => some (providerId, threadId)
  | pendingSeed _ => none

/-- The active operation of a bound thread changes. -/
def withOperation (operation : Option ActiveOperation) : AffinityState → AffinityState
  | active providerId threadId _ => active providerId threadId operation
  | pendingSeed reseedId => pendingSeed reseedId

end AffinityState

/-- A progress record of a role instance; its other columns are read by no modelled function. -/
structure Progress where
  projectId : String
  progressId : ℕ
  workItemId : String
  roleInstanceId : Option String
deriving DecidableEq

def Progress.key (r : Progress) : String × ℕ := (r.projectId, r.progressId)

/-! ## Reliability -/

/-- The stage of a retry chain. -/
inductive Stage where
  | technical
  | pmCorrection
  | recovery
deriving DecidableEq

/-- The outcome of an attempt. -/
inductive Outcome where
  | succeeded
  | failed
deriving DecidableEq

/-- The status of an incident; only an active one has a next attempt. -/
inductive IncidentStatus where
  | active (nextStage : Stage) (nextAttemptNumber : ℕ)
  | recovered
  | terminalEligible
  | terminal
deriving DecidableEq

/-- A row of `failure_incidents`. -/
structure FailureIncident where
  projectId : String
  incidentId : String
  workItemId : String
  ownerRoleId : String
  idempotencyKey : String
  requestFingerprint : String
  failureCategory : String
  safeSummary : String
  sourceRef : String
  status : IncidentStatus
deriving DecidableEq

def FailureIncident.key (i : FailureIncident) : String × String := (i.projectId, i.incidentId)

/-- A correction instruction with its digest. -/
structure Correction where
  instruction : String
  digest : String
deriving DecidableEq

/-- A row of `failure_attempts`. -/
structure FailureAttempt where
  projectId : String
  attemptId : String
  incidentId : String
  ordinal : ℕ
  stage : Stage
  stageAttempt : ℕ
  outcome : Outcome
  correction : Option Correction
  actorId : String
  evidence : Json
  requestFingerprint : String
deriving DecidableEq

def FailureAttempt.key (a : FailureAttempt) : String × String := (a.projectId, a.attemptId)

/-- The status of a recovery request. -/
inductive RequestStatus where
  | pending
  | succeeded
  | failed
deriving DecidableEq

/-- A row of `recovery_requests`. -/
structure RecoveryRequest where
  projectId : String
  recoveryRequestId : String
  incidentId : String
  workItemId : String
  exactGoal : String
  status : RequestStatus
  evidence : Json
deriving DecidableEq

def RecoveryRequest.key (r : RecoveryRequest) : String × String :=
  (r.projectId, r.recoveryRequestId)

/-- The work item of a recovery request. -/
def RecoveryRequest.workKey (r : RecoveryRequest) : String × String := (r.projectId, r.workItemId)

/-- The result columns of a supervisor run. -/
structure RunReport where
  outcome : Outcome
  safeSummary : String
  verificationRef : String
  usageUsed : ℕ
deriving DecidableEq

/-- A supervisor run; `report` is present exactly when its status is `reported`. -/
structure SupervisorRun where
  projectId : String
  recoveryRequestId : String
  runId : String
  usageLimit : ℕ
  toolProfileReference : String
  toolProfileDigest : String
  report : Option RunReport
deriving DecidableEq

def SupervisorRun.key (r : SupervisorRun) : String × String :=
  (r.projectId, r.recoveryRequestId)

/-! ## Flow runs -/

/-- A selected route that waits for its handoff. -/
structure PendingRoute where
  routeId : String
  targetState : String
  targetRole : String
  operationId : String
  requestDigest : String
deriving DecidableEq

/-- The status of a flow run with the pending columns that belong to it. -/
inductive FlowStatus where
  | active
  | handoffPreparing (route : PendingRoute)
  | handoffPending (route : PendingRoute) (handoffId : String)
  | completionPreparing (operationId requestDigest : String)
  | completed
deriving DecidableEq

/-- A row of `flow_runs`. -/
structure FlowRun where
  projectId : String
  workItemId : String
  /-- The flow pinned by `flow_snapshot` and `flow_digest`. -/
  flow : FlowDefinition
  currentState : String
  ownerRoleId : String
  status : FlowStatus
  fields : Json
  version : ℕ
deriving DecidableEq

def FlowRun.key (r : FlowRun) : String × String := (r.projectId, r.workItemId)

/-- The status of an obligation. -/
inductive ObligationStatus where
  | pending
  | dispatched
  | satisfied
deriving DecidableEq

/-- A row of `flow_obligations`. -/
structure FlowObligation where
  projectId : String
  workItemId : String
  state : String
  entryVersion : ℕ
  kind : ObligationKind
  obligationId : String
  accountableRoleId : String
  payload : Json
  status : ObligationStatus
  evidence : Json
deriving DecidableEq

def FlowObligation.key (o : FlowObligation) :
    String × String × String × ℕ × ObligationKind × String :=
  (o.projectId, o.workItemId, o.state, o.entryVersion, o.kind, o.obligationId)

/-- The operations of a flow run. -/
inductive FlowOperation where
  | start
  | prepare
  | pickup
  | complete
deriving DecidableEq

/-- A row of `flow_transition_journal`. -/
structure FlowTransition where
  projectId : String
  workItemId : String
  operationId : String
  requestDigest : String
  action : FlowOperation
deriving DecidableEq

def FlowTransition.key (t : FlowTransition) : String × String := (t.projectId, t.operationId)

/-- The decisions that governance evidence can record. -/
inductive GovernanceDecision where
  | verified
  | responded
  | approved
  | rejected
  | exception
deriving DecidableEq

/-- A row of `governance_records`. -/
structure GovernanceRecord where
  projectId : String
  workItemId : String
  recordId : String
  requestDigest : String
  state : String
  entryVersion : ℕ
  kind : ObligationKind
  obligationId : String
  decision : GovernanceDecision
  actorRoleId : String
  reason : String
  evidence : Json
  /-- The path and the version of the reviewed document. -/
  document : Option (String × String)
deriving DecidableEq

def GovernanceRecord.key (r : GovernanceRecord) : String × String := (r.projectId, r.recordId)

/-- A row of `governance_context`. -/
structure GovernanceContext where
  projectId : String
  workItemId : String
  architectureImpact : String
deriving DecidableEq

def GovernanceContext.key (c : GovernanceContext) : String × String :=
  (c.projectId, c.workItemId)

/-! ## The database -/

/-- The tables of the control plane. -/
structure Db where
  projects : Table Project Project.key := ∅
  sponsors : Table ProjectSponsor ProjectSponsor.key := ∅
  roles : Table Role Role.key := ∅
  instances : Table RoleInstance RoleInstance.key := ∅
  bindings : Table RoleBinding RoleBinding.key := ∅
  workItems : Table WorkItem WorkItem.key := ∅
  gates : Table Gate Gate.key := ∅
  approvals : Table Approval Approval.key := ∅
  queues : Table RoleQueue RoleQueue.key := ∅
  queueItems : Table QueueItem QueueItem.key := ∅
  leases : Table Lease Lease.key := ∅
  handoffs : Table Handoff Handoff.key := ∅
  affinities : Table ThreadAffinity ThreadAffinity.key := ∅
  progress : Table Progress Progress.key := ∅
  incidents : Table FailureIncident FailureIncident.key := ∅
  attempts : Table FailureAttempt FailureAttempt.key := ∅
  recoveryRequests : Table RecoveryRequest RecoveryRequest.key := ∅
  supervisorRuns : Table SupervisorRun SupervisorRun.key := ∅
  flowRuns : Table FlowRun FlowRun.key := ∅
  obligations : Table FlowObligation FlowObligation.key := ∅
  transitions : Table FlowTransition FlowTransition.key := ∅
  governance : Table GovernanceRecord GovernanceRecord.key := ∅
  impacts : Table GovernanceContext GovernanceContext.key := ∅

end AgenticMesh
