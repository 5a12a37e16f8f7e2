import AgenticMesh.Flow.Governance
import Mathlib.Data.List.Sort

/-!
# Sponsor approvals

`SponsorApprovalCoordinator`: a sponsor gate of a flow is opened as a lifecycle
gate of its work item, with one approval for each sponsor that is asked.  The
decision of a sponsor, or the flow leader after the gate expired, resolves the
gate together with the flow obligation, the work item and the route of whoever
goes on with the work.
-/

namespace AgenticMesh

/-- The exceptions of the coordinator. -/
inductive SponsorError where
  | value (message : String)
  | notFound (message : String)
  | conflict (message : String)
  | authorization (message : String)
  | routing (e : RoutingError)
  /-- `DatabaseError("event transaction failed")`. -/
  | database
deriving DecidableEq

/-- The arguments of `open`. -/
structure SponsorGateRequest where
  projectId : String
  workItemId : String
  gateId : String
  obligationId : String
  requestedBy : String
  sponsorIds : List String
  correlationId : String
  expectedVersion : ℤ
  expiresInSeconds : ℤ := 172800
  evidence : Json := .obj []

/-- The arguments of `decide`. -/
structure SponsorDecisionRequest where
  projectId : String
  gateId : String
  sponsorId : String
  /-- The decision with its rationale and evidence. -/
  decision : Decision
  operationId : String

/-- The arguments of `timeout`. -/
structure SponsorTimeoutRequest where
  projectId : String
  gateId : String
  actorId : String
  operationId : String
  observedAt : Option Time := none

/-- The outcome of a decision as a gate spells it. -/
def Decision.text (d : Decision) : String := if d.approved then "approved" else "rejected"

/-- The digest of a decision. -/
def sponsorDecisionDigest (gateId sponsorId : String) (d : Decision) : String :=
  flowDigest [.str "sponsor-decision", .str gateId, .str sponsorId, .str d.text, .str d.rationale,
    d.evidence]

/-- The digest of a timeout. -/
def sponsorTimeoutDigest (gateId : String) : String :=
  flowDigest [.str "sponsor-timeout", .str gateId]

/-- `resolved_operation_id` and `resolved_request_digest`. -/
def GateStatus.operation : GateStatus → Option GateOperation
  | pending => none
  | approved operation => operation
  | rejected operation => operation
  | timedOut operation => some operation

/-- The entry of a flow that a gate was opened for. -/
def Gate.flowEntry (g : Gate) (l : FlowLink) : String × String × String × ℕ :=
  (g.projectId, g.workItemId, l.flowState, l.flowEntryVersion)

/-- The flow obligation of a gate. -/
def Gate.obligationKey (g : Gate) (l : FlowLink) :
    String × String × String × ℕ × ObligationKind × String :=
  (g.projectId, g.workItemId, l.flowState, l.flowEntryVersion, .gate, l.flowObligationId)

namespace Db

/-- `UPDATE gates` of one row, against `gates_resolution_operation_key`. -/
def resolveManagedGate (gate : String × String) (status : GateStatus) (db : Db) : Option Db :=
  if db.gates.Any fun g => g.key ≠ gate ∧ g.projectId = gate.1 ∧
      ∃ o ∈ g.status.operation, ∃ p ∈ status.operation, o.operationId = p.operationId
    then none
  else some (db.resolveGate gate status)

end Db

namespace SponsorApprovals

/-- `_identifier`. -/
def requireIdentifier (s label : String) : Tx Db SponsorError String :=
  Tx.demand (fun _ => identifier s) (.value (label ++ " is invalid"))

/-- `_required`. -/
def requireText (s field : String) (maximum : ℕ) : Tx Db SponsorError String := do
  Tx.require (strip s ≠ "" ∧ s.toList.length ≤ maximum) (.value (field ++ " is invalid"))
  return strip s

/-- `_evidence`. -/
def requireEvidence (evidence : Json) : Tx Db SponsorError Unit := do
  let _ ← Tx.demand (fun _ => evidence.asObject) (.value "evidence must be an object")
  Tx.require ((Json.ascii evidence.dumps).toList.length ≤ 1000000) (.value "evidence is too large")

/-- `_teams_summary`. -/
def requireSummary (sensitive : String → Bool) (evidence : Json) (gateId : String) :
    Tx Db SponsorError Unit := do
  let summary := (evidence.get? "summary").getD (.str ("Approval requested for " ++ gateId ++ "."))
  let text ← Tx.demand (fun _ => summary.asString) (.value "Teams approval summary is invalid")
  Tx.require (strip text ≠ "" ∧ text.toList.length ≤ 1000)
    (.value "Teams approval summary is invalid")
  Tx.require (sensitive (strip text) = false)
    (.value "Teams approval summary contains restricted content")

/-! ## `open` -/

/-- The approvers of a gate, in order. -/
def approvers (projectId gateId : String) (db : Db) : List String :=
  ((db.approvals.select fun a => (a.projectId, a.gateId) = (projectId, gateId)).map
    Approval.approverId).insertionSort (· ≤ ·)

/-- `_same_open`. -/
def SameOpen (r : SponsorGateRequest) (g : Gate) (db : Db) : Prop :=
  g.workItemId = r.workItemId ∧ g.requestedBy = r.requestedBy ∧
    g.correlationId = r.correlationId ∧ g.evidence = r.evidence ∧
    g.flowLink.map FlowLink.flowObligationId = some r.obligationId ∧
    approvers g.projectId g.gateId db = r.sponsorIds.insertionSort (· ≤ ·)

instance (r : SponsorGateRequest) (g : Gate) (db : Db) : Decidable (SameOpen r g db) :=
  inferInstanceAs (Decidable (_ ∧ _ ∧ _ ∧ _ ∧ _ ∧ _))

/-- The row that `open` inserts. -/
def newGate (r : SponsorGateRequest) (gateType : String) (run : FlowRun) (now : Time) : Gate where
  projectId := r.projectId
  gateId := r.gateId
  workItemId := r.workItemId
  gateType := gateType
  requestedBy := r.requestedBy
  requestedAt := now
  correlationId := r.correlationId
  evidence := r.evidence
  status := .pending
  flowLink := some {
    flowState := run.currentState
    flowEntryVersion := run.version
    flowObligationId := r.obligationId
    expiresAt := now + seconds r.expiresInSeconds }

/-- The checks of the arguments of `open`. -/
def checkOpen (sensitive : String → Bool) (r : SponsorGateRequest) :
    Tx Db SponsorError SponsorGateRequest := do
  let projectId ← requireIdentifier r.projectId "identifier"
  let workItemId ← requireIdentifier r.workItemId "identifier"
  let gateId ← requireIdentifier r.gateId "identifier"
  let obligationId ← requireIdentifier r.obligationId "identifier"
  let requestedBy ← requireIdentifier r.requestedBy "identifier"
  let correlationId ← requireIdentifier r.correlationId "identifier"
  let sponsorIds ← Tx.demand (fun _ => r.sponsorIds.mapM identifier)
    (.value "sponsor_id is invalid")
  Tx.require (sponsorIds ≠ [] ∧ sponsorIds.Nodup)
    (.value "sponsor_ids must be non-empty and unique")
  Tx.require (1 ≤ r.expectedVersion) (.value "expected_version is invalid")
  Tx.require (1 ≤ r.expiresInSeconds ∧ r.expiresInSeconds ≤ 604800)
    (.value "expires_in_seconds must be between 1 and 604800")
  requireEvidence r.evidence
  requireSummary sensitive r.evidence gateId
  return { r with
    projectId, workItemId, gateId, obligationId, requestedBy, correlationId, sponsorIds }

/-- The text of a sponsor gate type. -/
def sponsorGateType (payload : Json) : Option String :=
  if payload.get? "type" ∈ GovernanceStore.sponsorGateTypes.map some then
    (payload.get? "type").bind Json.asString
  else none

/-- `open` of a gate that does not exist yet. -/
def openNew (r : SponsorGateRequest) (now : Time) : Tx Db SponsorError Gate := do
  let work ← Tx.demand (fun db => db.workItems.lookup (r.projectId, r.workItemId))
    (.notFound "work item not found")
  Tx.require (work.status = .active ∧ (work.version : ℤ) = r.expectedVersion)
    (.conflict "work item is not active at expected version")
  let run ← Tx.demand (fun db => db.flowRuns.lookup (r.projectId, r.workItemId))
    (.notFound "flow run not found")
  Tx.require (run.status = .active) (.conflict "flow run is not active")
  Tx.require (r.requestedBy = run.ownerRoleId ∨ r.requestedBy = run.flow.leaderRole)
    (.authorization "sponsor gate requires the flow owner or leader")
  let o ← Tx.demand
    (fun db => db.obligations.lookup
      (r.projectId, r.workItemId, run.currentState, run.version, .gate, r.obligationId))
    (.notFound "current sponsor flow obligation not found")
  Tx.require (∀ t ∈ o.payload.get? "type", GovernanceStore.IsHashable t) .database
  let gateType ← Tx.demand (fun _ => sponsorGateType o.payload)
    (.conflict "flow obligation is not a pending sponsor gate")
  Tx.require (o.payload.get? "requested_from" = some (.str "sponsor") ∧ o.status = .pending)
    (.conflict "flow obligation is not a pending sponsor gate")
  let _ ← Tx.demand (Db.artifactVersion run.entry)
    (.conflict "sponsor gate requires a verified state artifact")
  let db ← Tx.query id
  Tx.require (∀ s ∈ r.sponsorIds, (db.sponsors.lookup (r.projectId, s)).isSome)
    (.authorization "gate approver is not a project sponsor")
  let gate := newGate r gateType run now
  Tx.attempt (Db.insertGate gate) .database
  Tx.attempt
    (fun db => r.sponsorIds.foldlM
      (fun db s => db.insertApproval (LifecycleStore.newApproval r.projectId r.gateId s)) db)
    .database
  Tx.modify (Db.updateWork (r.projectId, r.workItemId) (LifecycleStore.entered .gated))
  return gate

/-- `open`. -/
def openGate (sensitive : String → Bool) (r : SponsorGateRequest) (now : Time) :
    Tx Db SponsorError Gate := do
  let r ← checkOpen sensitive r
  let existing ← Tx.query fun db => db.gates.lookup (r.projectId, r.gateId)
  match existing with
  | some g => do
    let db ← Tx.query id
    Tx.require (SameOpen r g db) (.conflict "gate already exists with different request data")
    return g
  | none => openNew r now

/-! ## `decide` and `timeout` -/

/-- The gate with its flow link. -/
def managedGate (projectId gateId : String) : Tx Db SponsorError (Gate × FlowLink) := do
  let gate ← Tx.demand (fun db => db.gates.lookup (projectId, gateId))
    (.notFound "managed sponsor gate not found")
  let link ← Tx.demand (fun _ => gate.flowLink) (.notFound "managed sponsor gate not found")
  return (gate, link)

/-- `_lock_current`: the run of the gate and the version of its artifact. -/
def lockCurrent (g : Gate) (l : FlowLink) : Tx Db SponsorError (FlowRun × String × String) := do
  let db ← Tx.query id
  Tx.require (∃ w ∈ db.workItems.lookup (g.projectId, g.workItemId), w.status = .gated)
    (.conflict "gated work item state is inconsistent")
  let run ← Tx.demand (fun db => db.flowRuns.lookup (g.projectId, g.workItemId))
    (.conflict "sponsor gate is not current for the flow")
  Tx.require (run.entry = g.flowEntry l ∧ run.status = .active)
    (.conflict "sponsor gate is not current for the flow")
  Tx.require (∃ o ∈ db.obligations.lookup (g.obligationKey l), o.status = .pending)
    (.conflict "sponsor flow obligation is no longer pending")
  let artifact ← Tx.demand (Db.artifactVersion (g.flowEntry l))
    (.conflict "sponsor gate requires a verified state artifact")
  return (run, artifact)

/-- The idempotency key of the route of a resolved gate. -/
def gateKey (gateId outcome : String) : String := "sponsor-gate:" ++ gateId ++ ":" ++ outcome

/-- The route of a resolved gate. -/
def gateDraft (g : Gate) (l : FlowLink) (targetRole outcome actorId : String) : RouteDraft where
  projectId := g.projectId
  workItemId := g.workItemId
  targetRoleId := targetRole
  idempotencyKey := gateKey g.gateId outcome
  payload := .obj [
    ("decided_by", .str actorId), ("gate_id", .str g.gateId),
    ("kind", .str "sponsor-gate-continuation"), ("obligation_id", .str l.flowObligationId),
    ("outcome", .str outcome)]

/-- The errors of a route as the coordinator raises them. -/
def ofRoutingError : RoutingError → SponsorError
  | .value message => .value message
  | .uniqueViolation => .database
  | e => .routing e

/-- `_route`. -/
def route (g : Gate) (l : FlowLink) (targetRole outcome actorId : String) (now : Time) :
    Tx Db SponsorError QueueItem := do
  let draft ← Tx.mapError ofRoutingError (gateDraft g l targetRole outcome actorId).init
  Tx.mapError ofRoutingError (Router.routeInTransaction draft now)

/-- The evidence of the governance record of a decision. -/
def decisionEvidence (g : Gate) (approvalId : String) (d : Decision)
    (artifact : String × String) : Json :=
  (Json.obj [
    ("approval_id", .str approvalId), ("decision", .str d.text), ("gate_id", .str g.gateId),
    ("reviewed_document", .obj [("etag", .str artifact.2), ("path", .str artifact.1)])]).merge
    d.evidence

/-- The governance record of a decision. -/
def decisionRecord (g : Gate) (l : FlowLink) (sponsorId approvalId digest : String) (d : Decision)
    (artifact : String × String) : GovernanceRecord where
  projectId := g.projectId
  workItemId := g.workItemId
  recordId := "sponsor:" ++ g.gateId
  requestDigest := digest
  state := l.flowState
  entryVersion := l.flowEntryVersion
  kind := .gate
  obligationId := l.flowObligationId
  decision := if d.approved then .approved else .rejected
  actorRoleId := sponsorId
  reason := d.rationale
  evidence := decisionEvidence g approvalId d artifact
  document := some artifact

/-- The status of a gate that an operation decided. -/
def decidedStatus (d : Decision) (operation : GateOperation) : GateStatus :=
  if d.approved then .approved (some operation) else .rejected (some operation)

/-- The gate was resolved by this very decision. -/
def SameDecision (digest : String) (d : Decision) (g : Gate) (a : Approval) : Prop :=
  (∃ o ∈ g.status.operation, o.requestDigest = digest) ∧ a.decision = some d

instance (digest : String) (d : Decision) (g : Gate) (a : Approval) :
    Decidable (SameDecision digest d g a) := inferInstanceAs (Decidable ((∃ _ ∈ _, _) ∧ _))

/-- The effect of an approval on the flow obligation. -/
def satisfyApproved (g : Gate) (l : FlowLink) (approvalId : String) : Tx Db SponsorError Unit :=
  Tx.attempt
    (Db.satisfy (g.obligationKey l) (.obj [
      ("approval_id", .str approvalId), ("governance_record_id", .str ("sponsor:" ++ g.gateId))]))
    (.conflict "sponsor flow obligation is no longer pending")

/-- The clock readings of `decide`. -/
structure DecideClock where
  checked : Time
  routed : Time

/-- `decide` of a pending gate. -/
def decidePending (g : Gate) (l : FlowLink) (a : Approval) (sponsorId digest operationId : String)
    (d : Decision) (clock : DecideClock) : Tx Db SponsorError Unit := do
  Tx.require (clock.checked < l.expiresAt) (.conflict "sponsor gate has expired")
  let (run, artifact) ← lockCurrent g l
  Tx.require (a.decision = none) (.conflict "approval is already decided")
  let approvalId := g.gateId ++ ":" ++ sponsorId
  let _ ← Tx.demand (fun db => db.approvals.lookup (g.projectId, approvalId)) .database
  Tx.modify (Db.decideApproval (g.projectId, approvalId) d)
  Tx.attempt (Db.resolveManagedGate g.key (decidedStatus d ⟨operationId, digest⟩)) .database
  Tx.attempt (Db.insertRecord (decisionRecord g l sponsorId approvalId digest d artifact)) .database
  if d.approved = true then satisfyApproved g l approvalId
  Tx.modify (Db.updateWork (g.projectId, g.workItemId) (LifecycleStore.entered .active))
  let targetRole := if d.approved then run.ownerRoleId else "project-manager"
  let _ ← route g l targetRole d.text sponsorId clock.routed

def decide (r : SponsorDecisionRequest) (clock : DecideClock) : Tx Db SponsorError Approval := do
  let projectId ← requireIdentifier r.projectId "identifier"
  let gateId ← requireIdentifier r.gateId "identifier"
  let sponsorId ← requireIdentifier r.sponsorId "identifier"
  let operationId ← requireIdentifier r.operationId "identifier"
  let rationale ← requireText r.decision.rationale "rationale" 4000
  requireEvidence r.decision.evidence
  let d := { r.decision with rationale }
  let digest := sponsorDecisionDigest gateId sponsorId d
  let (g, l) ← managedGate projectId gateId
  let a ← Tx.demand (LifecycleStore.approvalOf projectId gateId sponsorId)
    (.authorization "sponsor is not authorized for this gate")
  if g.status = .pending then
    decidePending g l a sponsorId digest operationId d clock
    return { a with decision := some d }
  else
    Tx.require (SameDecision digest d g a) (.conflict "sponsor gate is already resolved")
    return a

/-- `timeout` of a pending gate. -/
def timeoutPending (g : Gate) (l : FlowLink) (actorId digest operationId : String)
    (effectiveAt routed : Time) : Tx Db SponsorError Unit := do
  Tx.require (l.expiresAt ≤ effectiveAt) (.conflict "sponsor gate has not expired")
  let (run, _) ← lockCurrent g l
  Tx.require (actorId = run.flow.leaderRole)
    (.authorization "sponsor timeout requires the flow leader")
  Tx.attempt (Db.resolveManagedGate g.key (.timedOut ⟨operationId, digest⟩)) .database
  Tx.modify (Db.updateWork (g.projectId, g.workItemId) (LifecycleStore.entered .active))
  let _ ← route g l "project-manager" "timed_out" actorId routed

/-- The gate timed out before. -/
def SameTimeout (digest : String) : GateStatus → Prop
  | .timedOut operation => operation.requestDigest = digest
  | _ => False

instance (digest : String) : DecidablePred (SameTimeout digest) := fun s => by
  cases s <;> (unfold SameTimeout; infer_instance)

def timeout (r : SponsorTimeoutRequest) (clock : DecideClock) : Tx Db SponsorError Gate := do
  let projectId ← requireIdentifier r.projectId "identifier"
  let gateId ← requireIdentifier r.gateId "identifier"
  let actorId ← requireIdentifier r.actorId "identifier"
  let operationId ← requireIdentifier r.operationId "identifier"
  let digest := sponsorTimeoutDigest gateId
  let effectiveAt := r.observedAt.getD clock.checked
  let (g, l) ← managedGate projectId gateId
  if g.status = .pending then
    timeoutPending g l actorId digest operationId effectiveAt clock.routed
    return { g with status := .timedOut ⟨operationId, digest⟩ }
  else
    Tx.require (SameTimeout digest g.status) (.conflict "sponsor gate is already resolved")
    return g

/-! ## What the operations do -/

variable {db db' : Db} {now : Time}

/-- The arguments of `open` after its checks. -/
structure Checked (r r' : SponsorGateRequest) : Prop where
  project : identifier r.projectId = some r'.projectId
  work : identifier r.workItemId = some r'.workItemId
  gate : identifier r.gateId = some r'.gateId
  sponsors : r.sponsorIds.mapM identifier = some r'.sponsorIds
  nonempty : r'.sponsorIds ≠ []
  expires : 1 ≤ r'.expiresInSeconds

lemma requireEvidence_ok {v : Json} {u : Unit} (h : requireEvidence v db = .ok (u, db')) :
    db' = db := by
  simp only [requireEvidence, Tx.demand_bind_ok, Tx.require_ok] at h
  obtain ⟨_, -, -, rfl⟩ := h
  rfl

lemma requireSummary_ok {sensitive : String → Bool} {v : Json} {gateId : String} {u : Unit}
    (h : requireSummary sensitive v gateId db = .ok (u, db')) : db' = db := by
  simp only [requireSummary, Tx.demand_bind_ok, Tx.require_bind_ok, Tx.require_ok] at h
  obtain ⟨_, -, -, -, rfl⟩ := h
  rfl

lemma checkOpen_ok {sensitive : String → Bool} {r r' : SponsorGateRequest}
    (h : checkOpen sensitive r db = .ok (r', db')) : db' = db ∧ Checked r r' := by
  simp only [checkOpen, requireIdentifier, Tx.demand_bind_ok, Tx.require_bind_ok] at h
  obtain ⟨p, hp, w, hw, g, hg, o, -, b, -, c, -, sponsors, hsponsors, ⟨hne, -⟩, -, ⟨hexpires, -⟩,
    h⟩ := h
  rw [Tx.bind_ok] at h
  obtain ⟨_, db₁, hevidence, h⟩ := h
  obtain rfl := requireEvidence_ok hevidence
  rw [Tx.bind_ok] at h
  obtain ⟨_, db₂, hsummary, h⟩ := h
  obtain rfl := requireSummary_ok hsummary
  rw [Tx.pure_ok, Prod.mk.injEq] at h
  obtain ⟨rfl, rfl⟩ := h
  exact ⟨rfl, hp, hw, hg, hsponsors, hne, hexpires⟩

/-- A committed `open` of a gate that did not exist. -/
structure Opens (r : SponsorGateRequest) (now : Time) (g : Gate) (db db' : Db) : Prop where
  work : ∃ w ∈ db.workItems, w.key = (r.projectId, r.workItemId) ∧ w.status = .active
  run : ∃ run ∈ db.flowRuns, run.key = (r.projectId, r.workItemId) ∧ run.status = .active ∧
    (∃ gateType, g = newGate r gateType run now) ∧
    (∃ o ∈ db.obligations,
      o.key = (r.projectId, r.workItemId, run.currentState, run.version, .gate, r.obligationId) ∧
      o.status = .pending ∧ GovernanceStore.ForSponsor o.payload) ∧
    ∃ artifact, db.artifactVersion run.entry = some artifact
  sponsors : ∀ s ∈ r.sponsorIds, (db.sponsors.lookup (r.projectId, s)).isSome
  effect : ∃ gates approvals, db.gates.insert g = some gates ∧
    (∀ h ∈ db.gates, ¬ h.SameObligation g) ∧
    (∀ a, a ∈ approvals ↔ a ∈ db.approvals ∨
      ∃ s ∈ r.sponsorIds, a = LifecycleStore.newApproval r.projectId r.gateId s) ∧
    db' = ({ db with gates, approvals } : Db).updateWork (r.projectId, r.workItemId)
      (LifecycleStore.entered .gated)

lemma openNew_ok {r : SponsorGateRequest} {g : Gate} (h : openNew r now db = .ok (g, db')) :
    Opens r now g db db' := by
  simp only [openNew, Tx.demand_bind_ok, Tx.require_bind_ok, Tx.query_bind_ok, Tx.attempt_bind_ok,
    Tx.modify_bind_ok, Tx.pure_ok, Prod.mk.injEq] at h
  obtain ⟨w, hw, ⟨hactive, -⟩, run, hrun, hrunning, -, o, ho, -, gateType, hgateType,
    ⟨hsponsor, hpending⟩, artifact, hartifact, hsponsors, db₁, hgate, db₂, happrovals, rfl,
    rfl⟩ := h
  obtain ⟨hwmem, hwkey⟩ := Table.lookup_eq_some.1 hw
  obtain ⟨hrunmem, hrunkey⟩ := Table.lookup_eq_some.1 hrun
  obtain ⟨homem, hokey⟩ := Table.lookup_eq_some.1 ho
  obtain ⟨gates, hins, rfl, hfresh⟩ := LifecycleStore.insertGate_eq_some hgate
  obtain ⟨approvals, rfl, hmem⟩ := LifecycleStore.insertApprovals_ok happrovals
  exact ⟨⟨w, hwmem, hwkey, hactive⟩,
    ⟨run, hrunmem, hrunkey, hrunning, ⟨gateType, rfl⟩, ⟨o, homem, hokey, hpending, Or.inr hsponsor⟩,
      artifact, hartifact⟩,
    hsponsors, gates, approvals, hins, hfresh, hmem, rfl⟩

lemma openGate_ok {sensitive : String → Bool} {r : SponsorGateRequest} {g : Gate}
    (h : openGate sensitive r now db = .ok (g, db')) :
    (db' = db ∧ g ∈ db.gates) ∨ ∃ r', Checked r r' ∧ Opens r' now g db db' := by
  rw [openGate, Tx.bind_ok] at h
  obtain ⟨r', db₁, hcheck, h⟩ := h
  obtain ⟨rfl, hchecked⟩ := checkOpen_ok hcheck
  rw [Tx.query_bind_ok] at h
  cases hgate : db₁.gates.lookup (r'.projectId, r'.gateId) with
  | none =>
    rw [hgate] at h
    exact Or.inr ⟨r', hchecked, openNew_ok h⟩
  | some g' =>
    rw [hgate] at h
    simp only [Tx.query_bind_ok, Tx.require_bind_ok, Tx.pure_ok, Prod.mk.injEq] at h
    obtain ⟨-, rfl, rfl⟩ := h
    exact Or.inl ⟨rfl, (Table.lookup_eq_some.1 hgate).1⟩

/-- A managed gate that its flow still waits for. -/
structure Waiting (g : Gate) (l : FlowLink) (run : FlowRun) (artifact : String × String)
    (db : Db) : Prop where
  mem : g ∈ db.gates
  link : g.flowLink = some l
  pending : g.status = .pending
  work : ∃ w ∈ db.workItems, w.key = (g.projectId, g.workItemId) ∧ w.status = .gated
  run_mem : run ∈ db.flowRuns
  entry : run.entry = g.flowEntry l
  active : run.status = .active
  obligation : ∃ o ∈ db.obligations, o.key = g.obligationKey l ∧ o.status = .pending
  verified : db.artifactVersion (g.flowEntry l) = some artifact

lemma managedGate_ok {p i : String} {out : Gate × FlowLink}
    (h : managedGate p i db = .ok (out, db')) :
    db' = db ∧ out.1 ∈ db.gates ∧ out.1.key = (p, i) ∧ out.1.flowLink = some out.2 := by
  simp only [managedGate, Tx.demand_bind_ok, Tx.pure_ok, Prod.mk.injEq] at h
  obtain ⟨g, hg, l, hl, rfl, rfl⟩ := h
  obtain ⟨hmem, hkey⟩ := Table.lookup_eq_some.1 hg
  exact ⟨rfl, hmem, hkey, hl⟩

lemma lockCurrent_ok {g : Gate} {l : FlowLink} {out : FlowRun × String × String}
    (hmem : g ∈ db.gates) (hlink : g.flowLink = some l) (hpending : g.status = .pending)
    (h : lockCurrent g l db = .ok (out, db')) : db' = db ∧ Waiting g l out.1 out.2 db := by
  simp only [lockCurrent, Tx.query_bind_ok, Tx.demand_bind_ok, Tx.require_bind_ok, Tx.pure_ok,
    Prod.mk.injEq] at h
  obtain ⟨⟨w, hw, hgated⟩, run, hrun, ⟨hentry, hactive⟩, ⟨o, ho, hopending⟩, artifact, hartifact,
    rfl, rfl⟩ := h
  obtain ⟨hwmem, hwkey⟩ := Table.lookup_eq_some.1 hw
  obtain ⟨hrunmem, -⟩ := Table.lookup_eq_some.1 hrun
  obtain ⟨homem, hokey⟩ := Table.lookup_eq_some.1 ho
  exact ⟨rfl, hmem, hlink, hpending, ⟨w, hwmem, hwkey, hgated⟩, hrunmem, hentry, hactive,
    ⟨o, homem, hokey, hopending⟩, hartifact⟩

lemma resolveManagedGate_eq_some {gate : String × String} {status : GateStatus} :
    db.resolveManagedGate gate status = some db' ↔
      (∀ g ∈ db.gates, g.key ≠ gate → g.projectId = gate.1 → ∀ o ∈ g.status.operation,
        ∀ p ∈ status.operation, o.operationId ≠ p.operationId) ∧
      db' = db.resolveGate gate status := by
  unfold Db.resolveManagedGate
  split
  · next hany =>
    obtain ⟨g, hg, hkey, hproject, o, ho, p, hp, hop⟩ := hany
    simp only [reduceCtorEq, false_iff, not_and]
    exact fun hall => absurd hop (hall g hg hkey hproject o ho p hp)
  · next hnone =>
    rw [Option.some.injEq]
    refine ⟨fun h => ⟨fun g hg hkey hproject o ho p hp hop => ?_, h.symm⟩, fun h => h.2.symm⟩
    exact hnone ⟨g, hg, hkey, hproject, o, ho, p, hp, hop⟩

/-- A committed route of a resolved gate. -/
structure Routes (g : Gate) (l : FlowLink) (targetRole outcome actorId : String) (now : Time)
    (db db' : Db) : Prop where
  draft : ∃ d item, (gateDraft g l targetRole outcome actorId).init db = .ok (d, db) ∧
    Router.routeInTransaction d now db = .ok (item, db')

lemma route_ok {g : Gate} {l : FlowLink} {targetRole outcome actorId : String} {item : QueueItem}
    (h : route g l targetRole outcome actorId now db = .ok (item, db')) :
    Routes g l targetRole outcome actorId now db db' := by
  rw [route, Tx.bind_ok] at h
  obtain ⟨d, db₁, hinit, h⟩ := h
  rw [Tx.mapError_ok] at hinit h
  obtain ⟨rfl, -⟩ := Router.init_ok hinit
  exact ⟨d, item, hinit, h⟩

/-- A route changes nothing but the queue items. -/
lemma Routes.items {g : Gate} {l : FlowLink} {targetRole outcome actorId : String}
    (h : Routes g l targetRole outcome actorId now db db') :
    ∃ queueItems, db' = { db with queueItems } := by
  obtain ⟨d, item, -, hroute⟩ := h.draft
  exact Router.routeInTransaction_items hroute

/-- The evidence of an obligation that a sponsor approved. -/
def approvalEvidence (g : Gate) (approvalId : String) : Json := .obj [
  ("approval_id", .str approvalId), ("governance_record_id", .str ("sponsor:" ++ g.gateId))]

/-- The database with a decided gate, before its route. -/
def settled (g : Gate) (l : FlowLink) (approvalId : String) (d : Decision)
    (operation : GateOperation) (governance : Table GovernanceRecord GovernanceRecord.key)
    (db : Db) : Db :=
  let db₁ : Db :=
    { (db.decideApproval (g.projectId, approvalId) d).resolveGate g.key
        (decidedStatus d operation) with governance }
  let db₂ :=
    if d.approved then
      db₁.setObligation (g.obligationKey l) .satisfied fun _ => approvalEvidence g approvalId
    else db₁
  db₂.updateWork (g.projectId, g.workItemId) (LifecycleStore.entered .active)

/-- The role that goes on after a decision. -/
def decidedRole (run : FlowRun) (d : Decision) : String :=
  if d.approved then run.ownerRoleId else "project-manager"

/-- No other gate of the project was resolved by an operation. -/
def OperationFree (g : Gate) (operationId : String) (db : Db) : Prop :=
  ∀ h ∈ db.gates, h.key ≠ g.key → h.projectId = g.projectId → ∀ o ∈ h.status.operation,
    o.operationId ≠ operationId

/-- A committed decision on a pending gate. -/
structure Decides (g : Gate) (l : FlowLink) (a : Approval) (sponsorId digest operationId : String)
    (d : Decision) (clock : DecideClock) (run : FlowRun) (artifact : String × String)
    (db db' : Db) : Prop where
  waiting : Waiting g l run artifact db
  early : clock.checked < l.expiresAt
  undecided : a.decision = none
  approval : ∃ b ∈ db.approvals, b.key = (g.projectId, g.gateId ++ ":" ++ sponsorId)
  free : OperationFree g operationId db
  effect : ∃ governance,
    db.governance.insert
      (decisionRecord g l sponsorId (g.gateId ++ ":" ++ sponsorId) digest d artifact) =
        some governance ∧
    Routes g l (decidedRole run d) d.text sponsorId clock.routed
      (settled g l (g.gateId ++ ":" ++ sponsorId) d ⟨operationId, digest⟩ governance db) db'

lemma insertRecord_eq_some {r : GovernanceRecord} : db.insertRecord r = some db' ↔
    ∃ governance, db.governance.insert r = some governance ∧ db' = { db with governance } := by
  unfold Db.insertRecord
  rw [Option.map_eq_some_iff]
  constructor
  · rintro ⟨governance, hins, rfl⟩
    exact ⟨governance, hins, rfl⟩
  · rintro ⟨governance, hins, rfl⟩
    exact ⟨governance, hins, rfl⟩

lemma satisfyApproved_ok {g : Gate} {l : FlowLink} {approvalId : String} {u : Unit}
    (h : satisfyApproved g l approvalId db = .ok (u, db')) :
    db' = db.setObligation (g.obligationKey l) .satisfied
      fun _ => approvalEvidence g approvalId := by
  rw [satisfyApproved, Tx.attempt_ok, GovernanceStore.satisfy_eq_some] at h
  exact h.2

lemma decidePending_ok {g : Gate} {l : FlowLink} {a : Approval}
    {sponsorId digest operationId : String} {d : Decision} {clock : DecideClock} {u : Unit}
    (hmem : g ∈ db.gates) (hlink : g.flowLink = some l) (hpending : g.status = .pending)
    (h : decidePending g l a sponsorId digest operationId d clock db = .ok (u, db')) :
    ∃ run artifact, Decides g l a sponsorId digest operationId d clock run artifact db db' := by
  rw [decidePending, Tx.require_bind_ok, Tx.bind_ok] at h
  obtain ⟨hearly, ⟨run, artifact⟩, db₁, hlock, h⟩ := h
  obtain ⟨rfl, hwaiting⟩ := lockCurrent_ok hmem hlink hpending hlock
  simp only [Tx.require_bind_ok, Tx.demand_bind_ok, Tx.modify_bind_ok, Tx.attempt_bind_ok] at h
  obtain ⟨hundecided, b, hb, db₂, hgate, db₃, hrecord, h⟩ := h
  obtain ⟨hfree, rfl⟩ := resolveManagedGate_eq_some.1 hgate
  obtain ⟨governance, hins, rfl⟩ := insertRecord_eq_some.1 hrecord
  refine ⟨run, artifact, hwaiting, hearly, hundecided, ⟨b, Table.lookup_eq_some.1 hb⟩, ?_,
    governance, hins, ?_⟩
  · intro g' hg' hkey hproject o ho
    have hoperation : (⟨operationId, digest⟩ : GateOperation) ∈
        (decidedStatus d ⟨operationId, digest⟩).operation := by
      unfold decidedStatus
      cases d.approved <;> rfl
    exact hfree g' hg' hkey hproject o ho _ hoperation
  · cases hd : d.approved with
    | true =>
      rw [hd, if_pos rfl, Tx.bind_ok] at h
      obtain ⟨_, db₄, hsatisfied, h⟩ := h
      obtain rfl := satisfyApproved_ok hsatisfied
      rw [Tx.modify_bind_ok, Tx.bind_ok] at h
      obtain ⟨item, db₅, hroute, h⟩ := h
      rw [Tx.pure_ok, Prod.mk.injEq] at h
      obtain ⟨-, rfl⟩ := h
      simp only [settled, decidedRole, hd, if_true]
      simp only [if_true] at hroute
      exact route_ok hroute
    | false =>
      rw [hd, if_neg (by decide), Tx.modify_bind_ok, Tx.bind_ok] at h
      obtain ⟨item, db₅, hroute, h⟩ := h
      rw [Tx.pure_ok, Prod.mk.injEq] at h
      obtain ⟨-, rfl⟩ := h
      simp only [settled, decidedRole, hd, Bool.false_eq_true, if_false]
      simp only [Bool.false_eq_true, if_false] at hroute
      exact route_ok hroute

/-- The rows and the normalized arguments of a `decide`. -/
structure DecideCall (r : SponsorDecisionRequest) (g : Gate) (l : FlowLink) (a : Approval)
    (sponsorId operationId : String) (db : Db) : Prop where
  project : identifier r.projectId = some g.projectId
  gate : identifier r.gateId = some g.gateId
  sponsor : identifier r.sponsorId = some sponsorId
  operation : identifier r.operationId = some operationId
  mem : g ∈ db.gates
  link : g.flowLink = some l
  approval : a ∈ db.approvals
  approver : (a.projectId, a.gateId, a.approverId) = (g.projectId, g.gateId, sponsorId)

/-- A committed `decide`: the gate was resolved by the same decision before, or it is resolved
now. -/
lemma decide_call {r : SponsorDecisionRequest} {clock : DecideClock} {a' : Approval}
    (h : decide r clock db = .ok (a', db')) :
    ∃ g l a sponsorId operationId rationale, DecideCall r g l a sponsorId operationId db ∧
      ((db' = db ∧ a' = a ∧ g.status ≠ .pending) ∨
        (g.status = .pending ∧ a' = { a with decision := some { r.decision with rationale } } ∧
          ∃ run artifact, Decides g l a sponsorId
            (sponsorDecisionDigest g.gateId sponsorId { r.decision with rationale }) operationId
            { r.decision with rationale } clock run artifact db db')) := by
  simp only [decide, requireIdentifier, Tx.demand_bind_ok] at h
  obtain ⟨p, hproject, gateId, hgateId, sponsorId, hsponsor, operationId, hoperation, h⟩ := h
  rw [Tx.bind_ok] at h
  obtain ⟨rationale, db₁, hrationale, h⟩ := h
  simp only [requireText, Tx.require_bind_ok, Tx.pure_ok, Prod.mk.injEq] at hrationale
  obtain ⟨-, -, rfl⟩ := hrationale
  rw [Tx.bind_ok] at h
  obtain ⟨_, db₂, hevidence, h⟩ := h
  obtain rfl := requireEvidence_ok hevidence
  rw [Tx.bind_ok] at h
  obtain ⟨⟨g, l⟩, db₃, hgate, h⟩ := h
  obtain ⟨rfl, hmem, hkey, hlink⟩ := managedGate_ok hgate
  obtain ⟨rfl, rfl⟩ := Prod.mk.inj hkey
  rw [Tx.demand_bind_ok] at h
  obtain ⟨a, ha, h⟩ := h
  obtain ⟨hamem, hakey⟩ := Table.mem_of_find ha
  refine ⟨g, l, a, sponsorId, operationId, rationale,
    ⟨hproject, hgateId, hsponsor, hoperation, hmem, hlink, hamem, hakey⟩, ?_⟩
  by_cases hpending : g.status = .pending
  · rw [if_pos hpending, Tx.bind_ok] at h
    obtain ⟨_, db₄, hdecide, h⟩ := h
    rw [Tx.pure_ok, Prod.mk.injEq] at h
    obtain ⟨rfl, rfl⟩ := h
    exact Or.inr ⟨hpending, rfl, decidePending_ok hmem hlink hpending hdecide⟩
  · rw [if_neg hpending, Tx.require_bind_ok, Tx.pure_ok, Prod.mk.injEq] at h
    exact Or.inl ⟨h.2.2, h.2.1, hpending⟩

lemma decide_ok {r : SponsorDecisionRequest} {clock : DecideClock} {a' : Approval}
    (h : decide r clock db = .ok (a', db')) :
    ∃ sponsorId operationId rationale, identifier r.sponsorId = some sponsorId ∧
      ∃ g ∈ db.gates, ∃ l, ∃ a ∈ db.approvals, g.flowLink = some l ∧
        identifier r.gateId = some g.gateId ∧
        (a.projectId, a.gateId, a.approverId) = (g.projectId, g.gateId, sponsorId) ∧
        ((db' = db ∧ a' = a ∧ g.status ≠ .pending) ∨
          ∃ run artifact, Decides g l a sponsorId
            (sponsorDecisionDigest g.gateId sponsorId { r.decision with rationale }) operationId
            { r.decision with rationale } clock run artifact db db') := by
  obtain ⟨g, l, a, sponsorId, operationId, rationale, hcall, hcases⟩ := decide_call h
  refine ⟨sponsorId, operationId, rationale, hcall.sponsor, g, hcall.mem, l, a, hcall.approval,
    hcall.link, hcall.gate, hcall.approver, ?_⟩
  rcases hcases with hsame | ⟨-, -, hdecides⟩
  · exact Or.inl hsame
  · exact Or.inr hdecides

/-- The database with a gate that timed out, before its route. -/
def expired (g : Gate) (operation : GateOperation) (db : Db) : Db :=
  (db.resolveGate g.key (.timedOut operation)).updateWork (g.projectId, g.workItemId)
    (LifecycleStore.entered .active)

/-- A committed timeout of a pending gate. -/
structure TimesOut (g : Gate) (l : FlowLink) (actorId operationId : String)
    (effectiveAt routed : Time) (run : FlowRun) (artifact : String × String) (db db' : Db) :
    Prop where
  waiting : Waiting g l run artifact db
  late : l.expiresAt ≤ effectiveAt
  leader : actorId = run.flow.leaderRole
  free : OperationFree g operationId db
  effect : Routes g l "project-manager" "timed_out" actorId routed
    (expired g ⟨operationId, sponsorTimeoutDigest g.gateId⟩ db) db'

lemma timeoutPending_ok {g : Gate} {l : FlowLink} {actorId operationId : String}
    {effectiveAt routed : Time} {u : Unit} (hmem : g ∈ db.gates) (hlink : g.flowLink = some l)
    (hpending : g.status = .pending)
    (h : timeoutPending g l actorId (sponsorTimeoutDigest g.gateId) operationId effectiveAt routed
      db = .ok (u, db')) :
    ∃ run artifact, TimesOut g l actorId operationId effectiveAt routed run artifact db db' := by
  rw [timeoutPending, Tx.require_bind_ok, Tx.bind_ok] at h
  obtain ⟨hlate, ⟨run, artifact⟩, db₁, hlock, h⟩ := h
  obtain ⟨rfl, hwaiting⟩ := lockCurrent_ok hmem hlink hpending hlock
  simp only [Tx.require_bind_ok, Tx.modify_bind_ok, Tx.attempt_bind_ok] at h
  obtain ⟨hleader, db₂, hgate, h⟩ := h
  obtain ⟨hfree, rfl⟩ := resolveManagedGate_eq_some.1 hgate
  rw [Tx.bind_ok] at h
  obtain ⟨item, db₃, hroute, h⟩ := h
  rw [Tx.pure_ok, Prod.mk.injEq] at h
  obtain ⟨-, rfl⟩ := h
  refine ⟨run, artifact, hwaiting, hlate, hleader, fun g' hg' hkey hproject o ho => ?_,
    route_ok hroute⟩
  exact hfree g' hg' hkey hproject o ho _ rfl

/-- A committed `timeout`: the gate timed out before, or it times out now. -/
lemma timeout_ok {r : SponsorTimeoutRequest} {clock : DecideClock} {g' : Gate}
    (h : timeout r clock db = .ok (g', db')) :
    ∃ g ∈ db.gates, ∃ l, g.flowLink = some l ∧ identifier r.gateId = some g.gateId ∧
      ((db' = db ∧ g.status ≠ .pending) ∨
        ∃ actorId operationId run artifact, identifier r.actorId = some actorId ∧
          TimesOut g l actorId operationId (r.observedAt.getD clock.checked) clock.routed run
            artifact db db') := by
  simp only [timeout, requireIdentifier, Tx.demand_bind_ok] at h
  obtain ⟨p, -, gateId, hgateId, actorId, hactor, operationId, -, h⟩ := h
  rw [Tx.bind_ok] at h
  obtain ⟨⟨g, l⟩, db₁, hgate, h⟩ := h
  obtain ⟨rfl, hmem, hkey, hlink⟩ := managedGate_ok hgate
  obtain ⟨rfl, rfl⟩ := Prod.mk.inj hkey
  refine ⟨g, hmem, l, hlink, hgateId, ?_⟩
  by_cases hpending : g.status = .pending
  · rw [if_pos hpending, Tx.bind_ok] at h
    obtain ⟨_, db₂, htimeout, h⟩ := h
    rw [Tx.pure_ok, Prod.mk.injEq] at h
    obtain ⟨-, rfl⟩ := h
    obtain ⟨run, artifact, htimes⟩ := timeoutPending_ok hmem hlink hpending htimeout
    exact Or.inr ⟨actorId, operationId, run, artifact, hactor, htimes⟩
  · rw [if_neg hpending, Tx.require_bind_ok, Tx.pure_ok, Prod.mk.injEq] at h
    exact Or.inl ⟨h.2.2, hpending⟩

end SponsorApprovals

end AgenticMesh
