import AgenticMesh.Base.Tx
import AgenticMesh.Schema

/-!
# The lifecycle of work items

`LifecycleStore`: a work item is new, becomes active, waits at gates that
sponsors decide, and ends completed or in error.  Every change of a work item
increments its version, and a caller states the version that it has seen.  Work
ends in error only through a failure incident whose retries are exhausted.
-/

namespace AgenticMesh

/-- The exceptions that the lifecycle operations raise. -/
inductive LifecycleError where
  | value (message : String)
  | notFound (message : String)
  | conflict (message : String)
  | authorization (message : String)
  /-- `LifecycleError(message)`. -/
  | store (message : String)
  /-- `DatabaseError("event transaction failed")`. -/
  | database
deriving DecidableEq

/-- The status as the database spells it. -/
def WorkStatus.text : WorkStatus → String
  | new => "new"
  | active => "active"
  | gated => "gated"
  | completed => "completed"
  | error => "error"

/-- `_DIRECT_TRANSITIONS`. -/
def WorkStatus.directTransitions : WorkStatus → List WorkStatus
  | new => [.active]
  | active => [.completed, .error]
  | gated => []
  | completed => []
  | error => []

/-- `status IN ('active', 'terminal_eligible')`. -/
def IncidentStatus.Unresolved : IncidentStatus → Prop
  | active _ _ => True
  | terminalEligible => True
  | recovered => False
  | terminal => False

instance : DecidablePred IncidentStatus.Unresolved := fun s => by
  cases s <;> unfold IncidentStatus.Unresolved <;> infer_instance

/-- The work item of an incident. -/
def FailureIncident.workKey (i : FailureIncident) : String × String := (i.projectId, i.workItemId)

/-- The arguments of `create_work_item`. -/
structure WorkItemRequest where
  projectId : String
  workItemId : String
  title : String
  ownerRoleId : String
  actorId : String
  correlationId : String

/-- The arguments of `transition_work_item`. -/
structure TransitionRequest where
  projectId : String
  workItemId : String
  targetStatus : WorkStatus
  actorId : String
  correlationId : String
  expectedVersion : ℤ
  reason : String := ""
  evidence : Json := .obj []

/-- The arguments of `open_gate`. -/
structure GateRequest where
  projectId : String
  workItemId : String
  gateId : String
  gateType : String
  requestedBy : String
  sponsorIds : List String
  correlationId : String
  expectedVersion : ℤ
  evidence : Json := .obj []

/-- The arguments of `decide_gate`. -/
structure DecisionRequest where
  projectId : String
  gateId : String
  sponsorId : String
  decision : Decision

/-! ## The statements -/

/-- Two pending gates of one flow obligation, against `gates_flow_obligation_key`. -/
def Gate.SameObligation (g h : Gate) : Prop :=
  g.status = .pending ∧ h.status = .pending ∧
    (g.projectId, g.workItemId) = (h.projectId, h.workItemId) ∧
    ∃ l ∈ g.flowLink, ∃ m ∈ h.flowLink, (l.flowState, l.flowEntryVersion, l.flowObligationId) =
      (m.flowState, m.flowEntryVersion, m.flowObligationId)

instance (g h : Gate) : Decidable (g.SameObligation h) :=
  inferInstanceAs (Decidable (_ ∧ _ ∧ _ ∧ _))

namespace Db

/-- `INSERT INTO projects`. -/
def insertProject (p : Project) (db : Db) : Option Db :=
  (db.projects.insert p).map fun projects => { db with projects }

/-- `INSERT INTO work_items`. -/
def insertWork (w : WorkItem) (db : Db) : Option Db :=
  (db.workItems.insert w).map fun workItems => { db with workItems }

/-- `INSERT INTO project_sponsors`. -/
def insertSponsor (s : ProjectSponsor) (db : Db) : Option Db :=
  (db.sponsors.insert s).map fun sponsors => { db with sponsors }

/-- `INSERT INTO gates`. -/
def insertGate (g : Gate) (db : Db) : Option Db :=
  if db.gates.Any fun h => h.SameObligation g then none
  else (db.gates.insert g).map fun gates => { db with gates }

/-- `INSERT INTO approvals`, against its primary key and `approvals_one_request_per_sponsor`. -/
def insertApproval (a : Approval) (db : Db) : Option Db :=
  if db.approvals.Any fun b =>
      (b.projectId, b.gateId, b.approverId) = (a.projectId, a.gateId, a.approverId) then none
  else (db.approvals.insert a).map fun approvals => { db with approvals }

/-- `UPDATE work_items` of one row, with `version = version + 1`. -/
def updateWork (work : String × String) (f : Table.Assign WorkItem.key) (db : Db) : Db :=
  { db with
    workItems := db.workItems.update (fun w => w.key = work)
      { set := fun w => { f.set w with version := w.version + 1 }, key_set := f.key_set } }

/-- `UPDATE failure_incidents` of one row. -/
def setIncident (incident : String × String) (status : IncidentStatus) (db : Db) : Db :=
  { db with
    incidents := db.incidents.update (fun i => i.key = incident)
      { set := fun i => { i with status } } }

/-- `UPDATE gates` of one row. -/
def resolveGate (gate : String × String) (status : GateStatus) (db : Db) : Db :=
  { db with
    gates := db.gates.update (fun g => g.key = gate) { set := fun g => { g with status } } }

/-- `UPDATE approvals` of one row. -/
def decideApproval (approval : String × String) (decision : Decision) (db : Db) : Db :=
  { db with
    approvals := db.approvals.update (fun a => a.key = approval)
      { set := fun a => { a with decision := some decision } } }

end Db

namespace LifecycleStore

/-- `_required`. -/
def requireText (s field : String) : Tx Db LifecycleError String :=
  Tx.demand (fun _ => required s) (.value (field ++ " is required"))

/-- The sponsors of a request, each required and no two the same. -/
def requireSponsors (sponsorIds : List String) (empty repeated : String) :
    Tx Db LifecycleError (List String) := do
  let sponsors ← Tx.demand (fun _ => sponsorIds.mapM required) (.value "sponsor_id is required")
  Tx.require (sponsors ≠ []) (.value empty)
  Tx.require sponsors.Nodup (.value repeated)
  return sponsors

/-- `_lock_work_item`. -/
def lockWorkItem (projectId workItemId : String) : Tx Db LifecycleError WorkItem :=
  Tx.demand (fun db => db.workItems.lookup (projectId, workItemId))
    (.notFound "work item not found")

def createProject (projectId displayName : String) (sponsorIds : List String) :
    Tx Db LifecycleError Unit := do
  let projectId ← requireText projectId "project_id"
  let _ ← requireText displayName "display_name"
  let sponsors ← requireSponsors sponsorIds "at least one sponsor_id is required"
    "sponsor_ids must be unique"
  Tx.attempt (Db.insertProject ⟨projectId, "active"⟩)
    (.conflict "project or sponsor already exists")
  Tx.attempt (fun db => sponsors.foldlM (fun db s => db.insertSponsor ⟨projectId, s⟩) db)
    (.conflict "project or sponsor already exists")

def createWorkItem (r : WorkItemRequest) : Tx Db LifecycleError WorkItem := do
  let projectId ← requireText r.projectId "project_id"
  let workItemId ← requireText r.workItemId "work_item_id"
  let _ ← requireText r.title "title"
  let ownerRoleId ← requireText r.ownerRoleId "owner_role_id"
  let _ ← requireText r.actorId "actor_id"
  let _ ← requireText r.correlationId "correlation_id"
  let work : WorkItem := {
    projectId, workItemId, assignedRoleId := some ownerRoleId, status := .new, version := 1
    payload := .obj [], terminalReason := none, terminalEvidence := .obj [] }
  Tx.attempt (Db.insertWork work) (.conflict "work item already exists")
  let db ← Tx.query id
  Tx.require
    ((db.projects.lookup projectId).isSome ∧ (db.roles.lookup (projectId, ownerRoleId)).isSome)
    (.notFound "project or owning role not found")
  return work

/-- The incident through which work ends in error: one whose chain is exhausted. -/
def exhaustedIncident (projectId workItemId : String) (db : Db) : Option FailureIncident :=
  db.incidents.find fun i => i.workKey = (projectId, workItemId) ∧ i.status = .terminalEligible

/-- The new columns of a work item after a direct transition. -/
def transitioned (target : WorkStatus) (reason : Option String) (evidence : Json) :
    Table.Assign WorkItem.key where
  set w := { w with status := target, terminalReason := reason, terminalEvidence := evidence }

def transitionWorkItem (r : TransitionRequest) : Tx Db LifecycleError Unit := do
  let projectId ← requireText r.projectId "project_id"
  let workItemId ← requireText r.workItemId "work_item_id"
  let _ ← requireText r.actorId "actor_id"
  let _ ← requireText r.correlationId "correlation_id"
  Tx.require (1 ≤ r.expectedVersion) (.value "expected_version must be positive")
  let reason ← Tx.demand
    (fun _ =>
      if r.targetStatus = .completed ∨ r.targetStatus = .error then (required r.reason).map some
      else some none)
    (.value "reason is required")
  let current ← lockWorkItem projectId workItemId
  Tx.require ((current.version : ℤ) = r.expectedVersion) (.conflict "work item version is stale")
  Tx.require (r.targetStatus ∈ current.status.directTransitions)
    (.conflict ("invalid work item transition: " ++ current.status.text ++ " -> " ++
      r.targetStatus.text))
  let work := (projectId, workItemId)
  match r.targetStatus with
  | .completed => do
    let db ← Tx.query id
    Tx.require (¬ db.incidents.Any fun i => i.workKey = work ∧ i.status.Unresolved)
      (.conflict "completed work requires its failure incident to be resolved")
    Tx.modify (Db.updateWork work (transitioned .completed reason r.evidence))
  | .error => do
    let exhausted ← Tx.demand (exhaustedIncident projectId workItemId)
      (.conflict "terminal error requires exhausted retry and recovery chain")
    let evidence := r.evidence.withField "failure_incident_id" (.str exhausted.incidentId)
    Tx.modify (Db.updateWork work (transitioned .error reason evidence))
    Tx.modify (Db.setIncident exhausted.key .terminal)
  | target => Tx.modify (Db.updateWork work (transitioned target reason r.evidence))

/-- A work item enters or leaves a gate. -/
def entered (target : WorkStatus) : Table.Assign WorkItem.key where
  set w := { w with status := target }

/-- The row that `open_gate` inserts. -/
def newGate (r : GateRequest) (now : Time) : Gate where
  projectId := r.projectId
  gateId := r.gateId
  workItemId := r.workItemId
  gateType := r.gateType
  requestedBy := r.requestedBy
  requestedAt := now
  correlationId := r.correlationId
  evidence := r.evidence
  status := .pending
  flowLink := none

/-- The row that asks a sponsor for a decision. -/
def newApproval (projectId gateId sponsor : String) : Approval where
  projectId := projectId
  approvalId := gateId ++ ":" ++ sponsor
  gateId := gateId
  approverId := sponsor
  decision := none

/-- `open_gate` on normalized arguments. -/
def openGateIn (r : GateRequest) (now : Time) : Tx Db LifecycleError Gate := do
  let current ← lockWorkItem r.projectId r.workItemId
  Tx.require ((current.version : ℤ) = r.expectedVersion) (.conflict "work item version is stale")
  Tx.require (current.status = .active) (.conflict "only active work can enter a gate")
  let db ← Tx.query id
  Tx.require (∀ s ∈ r.sponsorIds, (db.sponsors.lookup (r.projectId, s)).isSome)
    (.authorization "gate approver is not a project sponsor")
  let gate := newGate r now
  Tx.attempt (Db.insertGate gate) (.conflict "gate already exists")
  Tx.modify (Db.updateWork (r.projectId, r.workItemId) (entered .gated))
  Tx.attempt
    (fun db => r.sponsorIds.foldlM
      (fun db s => db.insertApproval (newApproval r.projectId r.gateId s)) db)
    .database
  return gate

def openGate (r : GateRequest) (now : Time) : Tx Db LifecycleError Gate := do
  let projectId ← requireText r.projectId "project_id"
  let workItemId ← requireText r.workItemId "work_item_id"
  let gateId ← requireText r.gateId "gate_id"
  let gateType ← requireText r.gateType "gate_type"
  let requestedBy ← requireText r.requestedBy "requested_by"
  let correlationId ← requireText r.correlationId "correlation_id"
  let sponsorIds ← requireSponsors r.sponsorIds "sponsor_ids must be non-empty and unique"
    "sponsor_ids must be non-empty and unique"
  openGateIn
    { r with projectId, workItemId, gateId, gateType, requestedBy, correlationId, sponsorIds } now

/-- The request of a sponsor for a decision on a gate. -/
def approvalOf (projectId gateId sponsorId : String) (db : Db) : Option Approval :=
  db.approvals.find fun a => (a.projectId, a.gateId, a.approverId) = (projectId, gateId, sponsorId)

/-- The status of a gate that a sponsor decided outside of an operation. -/
def decidedStatus (d : Decision) : GateStatus :=
  if d.approved then .approved none else .rejected none

def decideGate (r : DecisionRequest) : Tx Db LifecycleError Approval := do
  let projectId ← requireText r.projectId "project_id"
  let gateId ← requireText r.gateId "gate_id"
  let sponsorId ← requireText r.sponsorId "sponsor_id"
  let rationale ← requireText r.decision.rationale "rationale"
  let decision := { r.decision with rationale }
  let gate ← Tx.demand (fun db => db.gates.lookup (projectId, gateId)) (.notFound "gate not found")
  Tx.require (gate.status = .pending) (.conflict "gate is already resolved")
  let approval ← Tx.demand (approvalOf projectId gateId sponsorId)
    (.authorization "sponsor is not authorized for this gate")
  Tx.require (approval.decision = none) (.conflict "approval is already decided")
  let current ← lockWorkItem projectId gate.workItemId
  Tx.require (current.status = .gated) (.conflict "gated work item state is inconsistent")
  -- the statements fail on a text or evidence that the columns cannot hold
  Tx.require (Decision.storable { r.decision with rationale } = true) .database
  Tx.modify (Db.decideApproval approval.key decision)
  -- The clause of `gates_resolution_shape_check` on managed gates is null for a gate without an
  -- operation, and a check that is null passes.
  Tx.modify (Db.resolveGate gate.key (decidedStatus decision))
  Tx.modify (Db.updateWork (projectId, gate.workItemId) (entered .active))
  return { approval with decision := some decision }

/-! ## What the operations do -/

variable {db db' : Db} {now : Time}

lemma insertSponsors_ok {projectId : String} {sponsors : List String}
    (h : sponsors.foldlM (fun db s => db.insertSponsor ⟨projectId, s⟩) db = some db') :
    ∃ table, db' = { db with sponsors := table } ∧ ∀ s ∈ db.sponsors, s ∈ table := by
  induction sponsors generalizing db with
  | nil =>
    obtain rfl := Option.some.inj h
    exact ⟨_, rfl, fun _ hs => hs⟩
  | cons s sponsors ih =>
    simp only [List.foldlM_cons, Option.bind_eq_bind, Option.bind_eq_some_iff, Db.insertSponsor,
      Option.map_eq_some_iff] at h
    obtain ⟨_, ⟨table, htable, rfl⟩, h⟩ := h
    obtain ⟨table', rfl, hkept⟩ := ih h
    exact ⟨table', rfl, fun t ht => hkept t ((Table.mem_of_insert htable t).2 (Or.inl ht))⟩

lemma insertApprovals_ok {projectId gateId : String} {sponsors : List String}
    (h : sponsors.foldlM (fun db s => db.insertApproval (newApproval projectId gateId s)) db =
      some db') : ∃ approvals, db' = { db with approvals } ∧
        ∀ a, a ∈ approvals ↔ a ∈ db.approvals ∨ ∃ s ∈ sponsors,
        a = newApproval projectId gateId s := by
  induction sponsors generalizing db with
  | nil =>
    obtain rfl := Option.some.inj h
    exact ⟨_, rfl, by simp⟩
  | cons s sponsors ih =>
    rw [List.foldlM_cons, Option.bind_eq_bind, Option.bind_eq_some_iff] at h
    obtain ⟨db₁, hins, h⟩ := h
    unfold Db.insertApproval at hins
    split at hins
    · simp at hins
    · obtain ⟨approvals, htable, rfl⟩ := Option.map_eq_some_iff.1 hins
      obtain ⟨approvals', rfl, hmem⟩ := ih h
      refine ⟨approvals', rfl, fun a => ?_⟩
      rw [hmem, Table.mem_of_insert htable]
      simp only [List.mem_cons, exists_eq_or_imp]
      tauto

lemma insertGate_eq_some {g : Gate} (h : db.insertGate g = some db') :
    ∃ gates, db.gates.insert g = some gates ∧ db' = { db with gates } ∧
      ∀ h ∈ db.gates, ¬ h.SameObligation g := by
  unfold Db.insertGate at h
  split at h
  · simp at h
  · next hnone =>
    obtain ⟨gates, hins, rfl⟩ := Option.map_eq_some_iff.1 h
    exact ⟨gates, hins, rfl, fun g' hg' hsame => hnone ⟨g', hg', hsame⟩⟩

lemma requireSponsors_ok {sponsorIds sponsors : List String} {empty repeated : String}
    (h : requireSponsors sponsorIds empty repeated db = .ok (sponsors, db')) :
    db' = db ∧ sponsorIds.mapM required = some sponsors ∧ sponsors ≠ [] ∧ sponsors.Nodup := by
  simp only [requireSponsors, Tx.demand_bind_ok, Tx.require_bind_ok, Tx.pure_ok,
    Prod.mk.injEq] at h
  obtain ⟨_, hmap, hne, hnodup, rfl, rfl⟩ := h
  exact ⟨rfl, hmap, hne, hnodup⟩

lemma createProject_ok {projectId displayName : String} {sponsorIds : List String} {u : Unit}
    (h : createProject projectId displayName sponsorIds db = .ok (u, db')) :
    ∃ projects sponsors, db' = { db with projects, sponsors } ∧
      ∀ s ∈ db.sponsors, s ∈ sponsors := by
  simp only [createProject, requireText, Tx.demand_bind_ok] at h
  obtain ⟨p, -, _, -, h⟩ := h
  rw [Tx.bind_ok] at h
  obtain ⟨sponsors, db₁, hsponsors, h⟩ := h
  obtain ⟨rfl, -⟩ := requireSponsors_ok hsponsors
  rw [Tx.attempt_bind_ok] at h
  obtain ⟨db₂, hproject, h⟩ := h
  rw [Tx.attempt_ok] at h
  obtain ⟨projects, -, rfl⟩ := Option.map_eq_some_iff.1 hproject
  obtain ⟨table, rfl, hkept⟩ := insertSponsors_ok h
  exact ⟨projects, table, rfl, hkept⟩

/-- A committed `create_work_item` inserted a new work item. -/
lemma createWorkItem_ok {r : WorkItemRequest} {w : WorkItem}
    (h : createWorkItem r db = .ok (w, db')) :
    w.status = .new ∧ w.version = 1 ∧
      db.insertWork w = some db' := by
  simp only [createWorkItem, requireText, Tx.demand_bind_ok, Tx.attempt_bind_ok, Tx.query_bind_ok,
    Tx.require_bind_ok, Tx.pure_ok, Prod.mk.injEq] at h
  obtain ⟨p, -, i, -, _, -, o, -, _, -, _, -, db₁, hins, -, rfl, rfl⟩ := h
  exact ⟨rfl, rfl, hins⟩

/-- A committed direct transition of a work item. -/
structure Transitioned (r : TransitionRequest) (w : WorkItem) (db : Db) : Prop where
  mem : w ∈ db.workItems
  project : required r.projectId = some w.projectId
  work : required r.workItemId = some w.workItemId
  version : (w.version : ℤ) = r.expectedVersion
  allowed : r.targetStatus ∈ w.status.directTransitions

lemma transitionWorkItem_ok {r : TransitionRequest} {u : Unit}
    (h : transitionWorkItem r db = .ok (u, db')) :
    ∃ w, Transitioned r w db ∧ ∃ reason,
      ((r.targetStatus = .active ∧
          db' = db.updateWork w.key (transitioned .active reason r.evidence)) ∨
        (r.targetStatus = .completed ∧
          (∀ i ∈ db.incidents, i.workKey = w.key → ¬ i.status.Unresolved) ∧
          db' = db.updateWork w.key (transitioned .completed reason r.evidence)) ∨
        (r.targetStatus = .error ∧ ∃ i ∈ db.incidents, i.workKey = w.key ∧
          i.status = .terminalEligible ∧ ∃ evidence,
          db' = (db.updateWork w.key (transitioned .error reason evidence)).setIncident i.key
            .terminal)) := by
  simp only [transitionWorkItem, requireText, lockWorkItem, Tx.demand_bind_ok,
    Tx.require_bind_ok] at h
  obtain ⟨p, hp, i, hi, _, -, _, -, -, reason, -, w, hw, hversion, hallowed, h⟩ := h
  obtain ⟨hmem, hkey⟩ := Table.lookup_eq_some.1 hw
  obtain ⟨rfl, rfl⟩ := Prod.mk.inj hkey
  refine ⟨w, ⟨hmem, hp, hi, hversion, hallowed⟩, reason, ?_⟩
  have hdirect : r.targetStatus ≠ .new ∧ r.targetStatus ≠ .gated := by
    constructor <;>
    · intro ht
      rw [ht] at hallowed
      cases hs : w.status <;> simp [hs, WorkStatus.directTransitions] at hallowed
  cases ht : r.targetStatus with
  | new => exact absurd ht hdirect.1
  | gated => exact absurd ht hdirect.2
  | active =>
    simp only [ht, Tx.modify_ok] at h
    exact Or.inl ⟨rfl, h⟩
  | completed =>
    simp only [ht, Tx.query_bind_ok, Tx.require_bind_ok, Tx.modify_ok] at h
    obtain ⟨hnone, rfl⟩ := h
    exact Or.inr (Or.inl ⟨rfl, fun j hj hk hun => hnone ⟨j, hj, hk, hun⟩, rfl⟩)
  | error =>
    simp only [ht, Tx.demand_bind_ok, Tx.modify_bind_ok, Tx.modify_ok] at h
    obtain ⟨j, hj, rfl⟩ := h
    obtain ⟨hjmem, hjk, hjs⟩ := Table.mem_of_find hj
    exact Or.inr (Or.inr ⟨rfl, j, hjmem, hjk, hjs, _, rfl⟩)

/-- A committed `open_gate` inserted a pending gate and its approvals, and the active work item
became gated. -/
lemma openGate_ok {r : GateRequest} {g : Gate} (h : openGate r now db = .ok (g, db')) :
    ∃ w ∈ db.workItems, (w.version : ℤ) = r.expectedVersion ∧ w.status = .active ∧
      g.status = .pending ∧ g.flowLink = none ∧ (g.projectId, g.workItemId) = w.key ∧
      ∃ gates approvals, db.gates.insert g = some gates ∧
        (∃ sponsors : List String, ∀ a, a ∈ approvals ↔
          a ∈ db.approvals ∨ ∃ s ∈ sponsors, a = newApproval g.projectId g.gateId s) ∧
        db' = { db.updateWork w.key (entered .gated) with gates, approvals } := by
  simp only [openGate, requireText, Tx.demand_bind_ok] at h
  obtain ⟨p, -, i, -, gid, -, _, -, _, -, _, -, h⟩ := h
  rw [Tx.bind_ok] at h
  obtain ⟨sponsors, db₁, hsponsors, h⟩ := h
  obtain ⟨rfl, -⟩ := requireSponsors_ok hsponsors
  simp only [openGateIn, lockWorkItem, Tx.demand_bind_ok, Tx.require_bind_ok, Tx.query_bind_ok,
    Tx.attempt_bind_ok, Tx.modify_bind_ok, Tx.pure_ok, Prod.mk.injEq] at h
  obtain ⟨w, hw, hversion, hactive, -, db₂, hgate, db₃, happrovals, rfl, rfl⟩ := h
  obtain ⟨hmem, hkey⟩ := Table.lookup_eq_some.1 hw
  obtain ⟨gates, hins, rfl, -⟩ := insertGate_eq_some hgate
  obtain ⟨approvals, rfl, hsponsors'⟩ := insertApprovals_ok happrovals
  refine ⟨w, hmem, hversion, hactive, rfl, rfl, hkey.symm, gates, approvals, hins,
    ⟨sponsors, hsponsors'⟩, ?_⟩
  rw [hkey]
  rfl

/-- A committed `decide_gate` resolved a pending gate, managed or not, and the gated work item
became active. -/
lemma decideGate_ok {r : DecisionRequest} {a : Approval}
    (h : decideGate r db = .ok (a, db')) :
    ∃ g ∈ db.gates, required r.projectId = some g.projectId ∧ required r.gateId = some g.gateId ∧
      g.status = .pending ∧
      ∃ w ∈ db.workItems, w.key = (g.projectId, g.workItemId) ∧ w.status = .gated ∧
      ∃ b ∈ db.approvals, (b.projectId, b.gateId) = g.key ∧
      ∃ d, db' = ((db.decideApproval b.key d).resolveGate g.key
        (decidedStatus d)).updateWork w.key (entered .active) := by
  simp only [decideGate, requireText, lockWorkItem, Tx.demand_bind_ok, Tx.require_bind_ok,
    Tx.modify_bind_ok, Tx.pure_ok, Prod.mk.injEq] at h
  obtain ⟨p, hp, gid, hgid, s, -, rationale, -, g, hg, hpending, b, hb, -, w, hw, hgated, -, rfl,
    rfl⟩ := h
  obtain ⟨hgmem, hgkey⟩ := Table.lookup_eq_some.1 hg
  obtain ⟨hwmem, hwkey⟩ := Table.lookup_eq_some.1 hw
  obtain ⟨hbmem, hbkey⟩ := Table.mem_of_find hb
  obtain ⟨rfl, rfl⟩ := Prod.mk.inj hgkey
  have hgate : (b.projectId, b.gateId) = g.key := by
    obtain ⟨hproject, hrest⟩ := Prod.mk.inj hbkey
    rw [hproject, (Prod.mk.inj hrest).1]
    rfl
  refine ⟨g, hgmem, hp, hgid, hpending, w, hwmem, hwkey, hgated, b, hbmem, hgate,
    { r.decision with rationale }, ?_⟩
  rw [hwkey]

end LifecycleStore

end AgenticMesh
