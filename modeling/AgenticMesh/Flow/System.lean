import AgenticMesh.Base.Run
import AgenticMesh.Flow.SponsorApprovals

/-!
# Runs of the flow stores

The flow engine, the governance store, the sponsor approvals and the lifecycle
store work on the same rows, each in transactions of its own.  A run interleaves
their calls; `prepare_transition` and `complete` are several transactions, and a
call that stopped between two of them is a task, which goes on later or dies
with its process.  `FlowChange` says once what a step can do to the database.
-/

namespace AgenticMesh

open SponsorApprovals (DecideClock)

/-- A call between two of its transactions. -/
inductive FlowTask where
  /-- `prepare_transition` has reserved its route and offers the handoff. -/
  | offering (r : PrepareRequest) (route : FlowRoute)
  /-- `prepare_transition` has offered the handoff. -/
  | promoting (r : PrepareRequest) (handoff : Handoff)
  /-- `complete` has reserved the completion and reads the work item. -/
  | reading (r : CompleteRequest)
  /-- `complete` has read an active work item. -/
  | completing (r : CompleteRequest) (version : ℕ)
  /-- `complete` reads the work item after its transition committed or was in conflict. -/
  | rereading (r : CompleteRequest)
  /-- `complete` has read a work item that it completed. -/
  | finishing (r : CompleteRequest)

/-- The database with the calls that are under way. -/
structure FlowSystem where
  db : Db
  tasks : List FlowTask

/-- One step of a run of the flow stores. -/
inductive FlowEvent where
  | createProject (projectId displayName : String) (sponsorIds : List String)
  | createWork (r : WorkItemRequest)
  | transition (r : TransitionRequest)
  | openGate (r : GateRequest) (now : Time)
  | decideGate (r : DecisionRequest)
  | start (r : StartRequest)
  | dispatch (r : DispatchRequest) (now : Time)
  | prepare (r : PrepareRequest)
  | pickup (r : PickupRequest)
  | complete (r : CompleteRequest)
  | verifyArtifact (r : VerifyRequest) (documents : Documents)
  | recordConsultation (r : ConsultationRequest)
  /-- The transaction of `GovernanceStore.decide_gate`, with the version that it read before. -/
  | reviewGate (r : GateDecisionRequest) (reviewed : String × String)
  | openSponsor (sensitive : String → Bool) (r : SponsorGateRequest) (now : Time)
  | decideSponsor (r : SponsorDecisionRequest) (clock : DecideClock)
  | timeoutSponsor (r : SponsorTimeoutRequest) (clock : DecideClock)
  /-- A task runs its next transaction. -/
  | resume (task : ℕ) (clock : OfferClock)
  /-- The process of a task dies. -/
  | crash (task : ℕ)
  /-- The other stores write their tables. -/
  | elsewhere (db : Db)

namespace GovernanceStore

/-- `decide_gate` after the version of the artifact was read. -/
def reviewGate (r : GateDecisionRequest) (reviewed : String × String) :
    Tx Db GovernanceError GovernanceRecord := do
  let r ← checkDecision r
  decideGateIn r reviewed

lemma reviewGate_ok {r : GateDecisionRequest} {reviewed : String × String} {g : GovernanceRecord}
    {db db' : Db} (h : reviewGate r reviewed db = .ok (g, db')) :
    ∃ r', r'.decision ∈ [GovernanceDecision.approved, .rejected, .exception] ∧
      ((db' = db ∧ g ∈ db.governance) ∨ Decides r' reviewed g db db') := by
  rw [reviewGate, Tx.bind_ok] at h
  obtain ⟨r', db₁, hcheck, h⟩ := h
  obtain ⟨rfl, hdecision, -, -⟩ := checkDecision_ok hcheck
  exact ⟨r', hdecision, decideGateIn_ok h⟩

end GovernanceStore

namespace FlowTask

/-- The database after a transaction, and the task that goes on if it committed. -/
def outcome {ε α : Type} (db : Db) (task : α → Option FlowTask) :
    Except ε (α × Db) → Db × Option FlowTask
  | .ok (a, db') => (db', task a)
  | .error _ => (db, none)

/-- The same for the transition of `complete`, which may be in conflict. -/
def transitioned (db : Db) (r : CompleteRequest) :
    Except LifecycleError (Unit × Db) → Db × Option FlowTask
  | .ok (_, db') => (db', some (.rereading r))
  | .error (.conflict _) => (db, some (.rereading r))
  | .error _ => (db, none)

/-- `complete` goes on after it read the work item again. -/
def afterRead (r : CompleteRequest) (w : WorkItem) : Option FlowTask :=
  if FlowEngine.CompletedBy r w then some (.finishing r) else none

/-- `complete` goes on after it read the work item. -/
def firstRead (r : CompleteRequest) (w : WorkItem) : Option FlowTask :=
  if w.status = .active then some (.completing r w.version) else afterRead r w

/-- The next transaction of a task. -/
def next (clock : OfferClock) (db : Db) : FlowTask → Db × Option FlowTask
  | offering r route =>
    outcome db (fun handoff => some (.promoting r handoff))
      (FlowEngine.offerTransition r route clock db)
  | promoting r handoff => outcome db (fun _ => none) (FlowEngine.promote r handoff db)
  | reading r => outcome db (firstRead r) (FlowEngine.readWork r db)
  | completing r version =>
    transitioned db r
      (LifecycleStore.transitionWorkItem (FlowEngine.completionTransition r version) db)
  | rereading r => outcome db (afterRead r) (FlowEngine.readWork r db)
  | finishing r => outcome db (fun _ => none) (FlowEngine.finish r db)

lemma outcome_rel {ε α : Type} {R : Db → Db → Prop} {db : Db} {task : α → Option FlowTask}
    {out : Except ε (α × Db)} (h : R db db) (hout : ∀ a db', out = .ok (a, db') → R db db') :
    R db (outcome db task out).1 := by
  cases out with
  | error e => exact h
  | ok out => exact hout _ _ rfl

lemma transitioned_rel {R : Db → Db → Prop} {db : Db} {r : CompleteRequest}
    {out : Except LifecycleError (Unit × Db)} (h : R db db)
    (hout : ∀ u db', out = .ok (u, db') → R db db') : R db (transitioned db r out).1 := by
  cases out with
  | error e => cases e <;> exact h
  | ok out => exact hout _ _ rfl

end FlowTask

namespace FlowSystem

/-- The system after a call that can leave a task. -/
def after {α β : Type} (s : FlowSystem) (task : β → FlowTask) :
    Except FlowError ((α ⊕ β) × Db) → FlowSystem
  | .ok (.inl _, db) => { s with db }
  | .ok (.inr b, db) => { db, tasks := task b :: s.tasks }
  | .error _ => s

/-- A task runs its next transaction. -/
def resume (s : FlowSystem) (i : ℕ) (clock : OfferClock) : FlowSystem :=
  match s.tasks[i]? with
  | none => s
  | some t =>
    { db := (t.next clock s.db).1
      tasks := (t.next clock s.db).2.toList ++ s.tasks.eraseIdx i }

/-- The tables of the other stores change. -/
def replaceOthers (db' db : Db) : Db :=
  { db' with
    projects := db.projects
    sponsors := db.sponsors
    workItems := db.workItems
    gates := db.gates
    approvals := db.approvals
    flowRuns := db.flowRuns
    obligations := db.obligations
    transitions := db.transitions
    governance := db.governance
    impacts := db.impacts }

/-- The system after a step; a call that fails leaves it alone. -/
def step (s : FlowSystem) : FlowEvent → FlowSystem
  | .createProject projectId displayName sponsorIds =>
    { s with db := (LifecycleStore.createProject projectId displayName sponsorIds).commit s.db }
  | .createWork r => { s with db := (LifecycleStore.createWorkItem r).commit s.db }
  | .transition r => { s with db := (LifecycleStore.transitionWorkItem r).commit s.db }
  | .openGate r now => { s with db := (LifecycleStore.openGate r now).commit s.db }
  | .decideGate r => { s with db := (LifecycleStore.decideGate r).commit s.db }
  | .start r => { s with db := (FlowEngine.start r).commit s.db }
  | .dispatch r now => { s with db := (FlowEngine.dispatch r now).commit s.db }
  | .prepare r => s.after (FlowTask.offering r) (FlowEngine.reserve r s.db)
  | .pickup r => { s with db := (FlowEngine.pickupTransition r).commit s.db }
  | .complete r => s.after (fun _ => FlowTask.reading r) (FlowEngine.reserveCompletion r s.db)
  | .verifyArtifact r documents =>
    { s with db := (GovernanceStore.verifyArtifact r documents).commit s.db }
  | .recordConsultation r => { s with db := (GovernanceStore.recordConsultation r).commit s.db }
  | .reviewGate r reviewed => { s with db := (GovernanceStore.reviewGate r reviewed).commit s.db }
  | .openSponsor sensitive r now =>
    { s with db := (SponsorApprovals.openGate sensitive r now).commit s.db }
  | .decideSponsor r clock => { s with db := (SponsorApprovals.decide r clock).commit s.db }
  | .timeoutSponsor r clock => { s with db := (SponsorApprovals.timeout r clock).commit s.db }
  | .resume i clock => s.resume i clock
  | .crash i => { s with tasks := s.tasks.eraseIdx i }
  | .elsewhere db => { s with db := replaceOthers db s.db }

/-- No flow was started and no gate was opened yet. -/
structure Initial (s : FlowSystem) : Prop where
  tasks : s.tasks = []
  flowRuns : s.db.flowRuns = ∅
  obligations : s.db.obligations = ∅
  transitions : s.db.transitions = ∅
  governance : s.db.governance = ∅
  impacts : s.db.impacts = ∅
  gates : s.db.gates = ∅
  approvals : s.db.approvals = ∅
  ungated : ∀ w ∈ s.db.workItems, w.status ≠ .gated

/-- A state that some run reaches from an initial one. -/
def Reachable (s : FlowSystem) : Prop := ∃ s₀ es, Initial s₀ ∧ run step s₀ es = s

end FlowSystem

/-! ## What a step does -/

/-- The rows of the flow stores are the same. -/
structure SameFlow (db db' : Db) : Prop where
  sponsors : db'.sponsors = db.sponsors
  workItems : db'.workItems = db.workItems
  gates : db'.gates = db.gates
  approvals : db'.approvals = db.approvals
  flowRuns : db'.flowRuns = db.flowRuns
  obligations : db'.obligations = db.obligations
  transitions : db'.transitions = db.transitions
  governance : db'.governance = db.governance
  impacts : db'.impacts = db.impacts

/-- What a step can do to the database, by its event. -/
inductive FlowChange : FlowEvent → Db → Db → Prop
  | same {e : FlowEvent} {db db' : Db} (h : SameFlow db db') : FlowChange e db db'
  | createProject {projectId displayName : String} {sponsorIds : List String} {db : Db}
      {projects : Table Project Project.key} {sponsors : Table ProjectSponsor ProjectSponsor.key}
      (kept : ∀ s ∈ db.sponsors, s ∈ sponsors) :
      FlowChange (.createProject projectId displayName sponsorIds) db { db with projects, sponsors }
  | createWork {r : WorkItemRequest} {db : Db} {w : WorkItem}
      {workItems : Table WorkItem WorkItem.key} (new : w.status = .new)
      (insert : db.workItems.insert w = some workItems) :
      FlowChange (.createWork r) db { db with workItems }
  | transition {r : TransitionRequest} {db : Db} {w : WorkItem} {reason : Option String}
      {evidence : Json} {incidents : Table FailureIncident FailureIncident.key}
      (direct : LifecycleStore.Transitioned r w db) :
      FlowChange (.transition r) db
        { db.updateWork w.key (LifecycleStore.transitioned r.targetStatus reason evidence) with
          incidents }
  /-- `complete` completes the work item. -/
  | completed {i : ℕ} {clock : OfferClock} {db : Db} {w : WorkItem} {r : CompleteRequest}
      {version : ℕ} {reason : Option String}
      (direct : LifecycleStore.Transitioned (FlowEngine.completionTransition r version) w db) :
      FlowChange (.resume i clock) db
        (db.updateWork w.key (LifecycleStore.transitioned .completed reason r.evidence))
  | openGate {r : GateRequest} {now : Time} {db : Db} {w : WorkItem} {g : Gate}
      {gates : Table Gate Gate.key} {approvals : Table Approval Approval.key}
      {sponsors : List String} (mem : w ∈ db.workItems) (active : w.status = .active)
      (pending : g.status = .pending) (unmanaged : g.flowLink = none)
      (key : (g.projectId, g.workItemId) = w.key) (insert : db.gates.insert g = some gates)
      (asked : ∀ a, a ∈ approvals ↔ a ∈ db.approvals ∨
        ∃ s ∈ sponsors, a = LifecycleStore.newApproval g.projectId g.gateId s) :
      FlowChange (.openGate r now) db
        { db.updateWork w.key (LifecycleStore.entered .gated) with gates, approvals }
  | decideGate {r : DecisionRequest} {db : Db} {g : Gate} {w : WorkItem} {b : Approval}
      {d : Decision} (mem : g ∈ db.gates)
      (named : required r.projectId = some g.projectId ∧ required r.gateId = some g.gateId)
      (pending : g.status = .pending) (work : w ∈ db.workItems)
      (key : w.key = (g.projectId, g.workItemId)) (gated : w.status = .gated)
      (approval : b ∈ db.approvals) (gate : (b.projectId, b.gateId) = g.key) :
      FlowChange (.decideGate r) db
        (((db.decideApproval b.key d).resolveGate g.key
          (LifecycleStore.decidedStatus d)).updateWork w.key (LifecycleStore.entered .active))
  | start {r : StartRequest} {run : FlowRun} {db db' : Db}
      (h : FlowEngine.Started r run db db') : FlowChange (.start r) db db'
  | dispatch {r : DispatchRequest} {now : Time} {o : FlowObligation} {db db' : Db}
      (h : FlowEngine.Dispatched r now o db db') : FlowChange (.dispatch r now) db db'
  | reserve {r : PrepareRequest} {run : FlowRun} {route : FlowRoute} {merged : Json} {db db' : Db}
      (h : FlowEngine.Reserves r run route merged db db') : FlowChange (.prepare r) db db'
  | promote {i : ℕ} {clock : OfferClock} {r : PrepareRequest} {handoff : Handoff}
      {run run' : FlowRun} {db db' : Db}
      (h : FlowEngine.Promotes r handoff run run' db db') : FlowChange (.resume i clock) db db'
  | pickup {r : PickupRequest} {run run' : FlowRun} {db db' : Db}
      (h : FlowEngine.PicksUp r run run' db db') : FlowChange (.pickup r) db db'
  | reserveCompletion {r : CompleteRequest} {run : FlowRun} {db db' : Db}
      (h : FlowEngine.ReservesCompletion r run db db') : FlowChange (.complete r) db db'
  | finish {i : ℕ} {clock : OfferClock} {r : CompleteRequest} {run run' : FlowRun} {db db' : Db}
      (h : FlowEngine.Finishes r run run' db db') : FlowChange (.resume i clock) db db'
  | verify {r r' : VerifyRequest} {documents : Documents} {m : DocumentMetadata}
      {g : GovernanceRecord} {db db' : Db} (h : GovernanceStore.Verified r' m g db db') :
      FlowChange (.verifyArtifact r documents) db db'
  | consult {r r' : ConsultationRequest} {g : GovernanceRecord} {db db' : Db}
      (h : GovernanceStore.Consulted r' g db db') : FlowChange (.recordConsultation r) db db'
  | review {r r' : GateDecisionRequest} {reviewed : String × String} {g : GovernanceRecord}
      {db db' : Db}
      (decision : r'.decision ∈ [GovernanceDecision.approved, .rejected, .exception])
      (h : GovernanceStore.Decides r' reviewed g db db') :
      FlowChange (.reviewGate r reviewed) db db'
  | openSponsor {sensitive : String → Bool} {r r' : SponsorGateRequest} {now : Time} {g : Gate}
      {db db' : Db} (checked : SponsorApprovals.Checked r r')
      (h : SponsorApprovals.Opens r' now g db db') :
      FlowChange (.openSponsor sensitive r now) db db'
  | decideSponsor {r : SponsorDecisionRequest} {g : Gate} {l : FlowLink} {a : Approval}
      {sponsorId digest operationId : String} {d : Decision} {clock : DecideClock} {run : FlowRun}
      {artifact : String × String} {db db' : Db} (approval : a ∈ db.approvals)
      (approver : (a.projectId, a.gateId, a.approverId) = (g.projectId, g.gateId, sponsorId))
      (h :
        SponsorApprovals.Decides g l a sponsorId digest operationId d clock run artifact db db') :
      FlowChange (.decideSponsor r clock) db db'
  | timeoutSponsor {r : SponsorTimeoutRequest} {g : Gate} {l : FlowLink}
      {actorId operationId : String} {effectiveAt : Time} {clock : DecideClock} {run : FlowRun}
      {artifact : String × String} {db db' : Db}
      (h : SponsorApprovals.TimesOut g l actorId operationId effectiveAt clock.routed run artifact
        db db') : FlowChange (.timeoutSponsor r clock) db db'

section Change

variable {db : Db}

lemma SameFlow.refl (db : Db) : SameFlow db db := ⟨rfl, rfl, rfl, rfl, rfl, rfl, rfl, rfl, rfl⟩

/-- The handoff of a transition is none of the rows of the flow stores. -/
lemma offerTransition_same {r : PrepareRequest} {route : FlowRoute} {clock : OfferClock}
    {handoff : Handoff} {db' : Db}
    (h : FlowEngine.offerTransition r route clock db = .ok (handoff, db')) : SameFlow db db' := by
  rw [FlowEngine.offerTransition, Tx.mapError_ok] at h
  obtain ⟨d, -, -, ⟨rfl, -, -⟩ | ⟨⟨hoffered⟩⟩⟩ := HandoffStore.offer_ok h
  · exact SameFlow.refl _
  · obtain ⟨queueItems, hmid⟩ := Router.routeInTransaction_items hoffered.route
    obtain ⟨-, handoffs, -, heffect⟩ := HandoffStore.insertHandoff_eq_some.1 hoffered.insert
    have hsame : SameFlow db hoffered.mid := by
      rw [hmid]
      exact ⟨rfl, rfl, rfl, rfl, rfl, rfl, rfl, rfl, rfl⟩
    rw [heffect]
    exact ⟨hsame.1, hsame.2, hsame.3, hsame.4, hsame.5, hsame.6, hsame.7, hsame.8,
      hsame.9⟩

lemma transition_change {r : TransitionRequest} {u : Unit} {db' : Db}
    (h : LifecycleStore.transitionWorkItem r db = .ok (u, db')) :
    FlowChange (.transition r) db db' := by
  obtain ⟨w, hdirect, reason, hmove⟩ := LifecycleStore.transitionWorkItem_ok h
  have hchange : ∀ evidence incidents, FlowChange (.transition r) db
      { db.updateWork w.key (LifecycleStore.transitioned r.targetStatus reason evidence) with
        incidents } := fun _ _ => .transition hdirect
  rcases hmove with ⟨htarget, rfl⟩ | ⟨htarget, -, rfl⟩ | ⟨htarget, i, -, -, -, evidence, rfl⟩
  · rw [htarget] at hchange
    exact hchange _ db.incidents
  · rw [htarget] at hchange
    exact hchange _ db.incidents
  · rw [htarget] at hchange
    exact hchange _ _

/-- What the next transaction of a task can do to the database. -/
inductive FlowTask.Change : FlowTask → Db → Db → Prop
  | same {t : FlowTask} {db db' : Db} (h : SameFlow db db') : Change t db db'
  | promote {r : PrepareRequest} {handoff : Handoff} {run run' : FlowRun} {db db' : Db}
      (h : FlowEngine.Promotes r handoff run run' db db') : Change (.promoting r handoff) db db'
  | complete {r : CompleteRequest} {version : ℕ} {db : Db} {w : WorkItem} {reason : Option String}
      (direct : LifecycleStore.Transitioned (FlowEngine.completionTransition r version) w db) :
      Change (.completing r version) db
        (db.updateWork w.key (LifecycleStore.transitioned .completed reason r.evidence))
  | finish {r : CompleteRequest} {run run' : FlowRun} {db db' : Db}
      (h : FlowEngine.Finishes r run run' db db') : Change (.finishing r) db db'

lemma FlowTask.Change.flowChange {t : FlowTask} {db' : Db} (h : t.Change db db') (i : ℕ)
    (clock : OfferClock) : FlowChange (.resume i clock) db db' := by
  cases h with
  | same h => exact .same h
  | promote h => exact .promote h
  | complete direct => exact .completed direct
  | finish h => exact .finish h

lemma completing_change {r : CompleteRequest} {version : ℕ} {u : Unit} {db' : Db}
    (h : LifecycleStore.transitionWorkItem (FlowEngine.completionTransition r version) db =
      .ok (u, db')) : FlowTask.Change (.completing r version) db db' := by
  obtain ⟨w, hdirect, reason, hmove⟩ := LifecycleStore.transitionWorkItem_ok h
  rcases hmove with ⟨htarget, -⟩ | ⟨-, -, rfl⟩ | ⟨htarget, -⟩
  · simp [FlowEngine.completionTransition] at htarget
  · exact .complete hdirect
  · simp [FlowEngine.completionTransition] at htarget

lemma readWork_ok {r : CompleteRequest} {w : WorkItem} {db' : Db}
    (h : FlowEngine.readWork r db = .ok (w, db')) :
    db' = db ∧ w ∈ db.workItems ∧ w.key = (r.projectId, r.workItemId) := by
  rw [FlowEngine.readWork, Tx.mapError_ok, LifecycleStore.lockWorkItem, Tx.demand_ok] at h
  obtain ⟨hw, rfl⟩ := h
  exact ⟨rfl, Table.lookup_eq_some.1 hw⟩

/-- What the next transaction of a task does. -/
lemma FlowTask.next_change (t : FlowTask) (clock : OfferClock) :
    t.Change db (t.next clock db).1 := by
  have hsame : ∀ t : FlowTask, t.Change db db := fun t => .same (SameFlow.refl db)
  cases t with
  | offering r route =>
    dsimp only [next]
    exact outcome_rel (R := Change _) (hsame _) fun _ _ h => .same (offerTransition_same h)
  | promoting r handoff =>
    dsimp only [next]
    refine outcome_rel (R := Change _) (hsame _) fun run' db' h => ?_
    rcases FlowEngine.promote_ok h with ⟨rfl, -⟩ | ⟨run, hpromotes⟩
    · exact hsame _
    · exact .promote hpromotes
  | reading r =>
    dsimp only [next]
    refine outcome_rel (R := Change _) (hsame _) fun _ _ h => ?_
    rw [(readWork_ok h).1]
    exact hsame _
  | completing r version =>
    dsimp only [next]
    exact transitioned_rel (R := Change _) (hsame _) fun _ _ h => completing_change h
  | rereading r =>
    dsimp only [next]
    refine outcome_rel (R := Change _) (hsame _) fun _ _ h => ?_
    rw [(readWork_ok h).1]
    exact hsame _
  | finishing r =>
    dsimp only [next]
    refine outcome_rel (R := Change _) (hsame _) fun run' db' h => ?_
    rcases FlowEngine.finish_ok h with ⟨rfl, -⟩ | ⟨run, hfinishes⟩
    · exact hsame _
    · exact .finish hfinishes

end Change

/-- **What a step does to the database.** -/
theorem FlowSystem.step_change (s : FlowSystem) (e : FlowEvent) :
    FlowChange e s.db (s.step e).db := by
  have hsame : FlowChange e s.db s.db := .same (SameFlow.refl s.db)
  cases e with
  | createProject projectId displayName sponsorIds =>
    dsimp only [step]
    refine Tx.commit_rel (R := FlowChange _) hsame fun u db' h => ?_
    obtain ⟨projects, sponsors, rfl, hkept⟩ := LifecycleStore.createProject_ok h
    exact .createProject hkept
  | createWork r =>
    dsimp only [step]
    refine Tx.commit_rel (R := FlowChange _) hsame fun w db' h => ?_
    obtain ⟨hnew, -, hins⟩ := LifecycleStore.createWorkItem_ok h
    obtain ⟨workItems, hrow, rfl⟩ := Option.map_eq_some_iff.1 hins
    exact .createWork hnew hrow
  | transition r =>
    dsimp only [step]
    exact Tx.commit_rel (R := FlowChange _) hsame fun _ _ h => transition_change h
  | openGate r now =>
    dsimp only [step]
    refine Tx.commit_rel (R := FlowChange _) hsame fun g db' h => ?_
    obtain ⟨w, hw, -, hactive, hpending, hlink, hkey, gates, approvals, hins, ⟨sponsors, hasked⟩,
      rfl⟩ := LifecycleStore.openGate_ok h
    exact .openGate hw hactive hpending hlink hkey hins hasked
  | decideGate r =>
    dsimp only [step]
    refine Tx.commit_rel (R := FlowChange _) hsame fun a db' h => ?_
    obtain ⟨g, hg, hproject, hgate, hpending, w, hw, hkey, hgated, b, hb, hbgate, d, rfl⟩ :=
      LifecycleStore.decideGate_ok h
    exact .decideGate hg ⟨hproject, hgate⟩ hpending hw hkey hgated hb hbgate
  | start r =>
    dsimp only [step]
    refine Tx.commit_rel (R := FlowChange _) hsame fun run db' h => ?_
    rcases FlowEngine.start_ok h with ⟨rfl, -⟩ | hstarted
    · exact hsame
    · exact .start hstarted
  | dispatch r now =>
    dsimp only [step]
    refine Tx.commit_rel (R := FlowChange _) hsame fun o db' h => ?_
    obtain ⟨o', hdispatched⟩ := FlowEngine.dispatch_ok h
    exact .dispatch hdispatched
  | prepare r =>
    change FlowChange _ s.db (s.after (FlowTask.offering r) (FlowEngine.reserve r s.db)).db
    cases h : FlowEngine.reserve r s.db with
    | error e => exact hsame
    | ok out =>
      obtain ⟨out, db'⟩ := out
      rcases FlowEngine.reserve_ok h with ⟨run, rfl, rfl, -⟩ | ⟨run, route, rfl, rfl, -⟩ |
        ⟨run, route, merged, rfl, hreserves⟩
      · exact hsame
      · exact hsame
      · exact .reserve hreserves
  | pickup r =>
    dsimp only [step]
    refine Tx.commit_rel (R := FlowChange _) hsame fun run' db' h => ?_
    rcases FlowEngine.pickupTransition_ok h with ⟨rfl, -⟩ | ⟨run, hpicksUp⟩
    · exact hsame
    · exact .pickup hpicksUp
  | complete r =>
    change FlowChange _ s.db
      (s.after (fun _ => FlowTask.reading r) (FlowEngine.reserveCompletion r s.db)).db
    cases h : FlowEngine.reserveCompletion r s.db with
    | error e => exact hsame
    | ok out =>
      obtain ⟨out, db'⟩ := out
      rcases FlowEngine.reserveCompletion_ok h with ⟨run, rfl, rfl, -⟩ | ⟨run, rfl, rfl, -⟩ |
        ⟨run, rfl, hreserves⟩
      · exact hsame
      · exact hsame
      · exact .reserveCompletion hreserves
  | verifyArtifact r documents =>
    dsimp only [step]
    refine Tx.commit_rel (R := FlowChange _) hsame fun g db' h => ?_
    rcases GovernanceStore.verifyArtifact_ok h with ⟨rfl, -⟩ | ⟨path, m, -, -, hverified⟩
    · exact hsame
    · exact .verify hverified
  | recordConsultation r =>
    dsimp only [step]
    refine Tx.commit_rel (R := FlowChange _) hsame fun g db' h => ?_
    rcases GovernanceStore.recordConsultation_ok h with ⟨rfl, -⟩ | ⟨reason, hconsulted⟩
    · exact hsame
    · exact .consult hconsulted
  | reviewGate r reviewed =>
    dsimp only [step]
    refine Tx.commit_rel (R := FlowChange _) hsame fun g db' h => ?_
    obtain ⟨r', hdecision, ⟨rfl, -⟩ | hdecides⟩ := GovernanceStore.reviewGate_ok h
    · exact hsame
    · exact .review hdecision hdecides
  | openSponsor sensitive r now =>
    dsimp only [step]
    refine Tx.commit_rel (R := FlowChange _) hsame fun g db' h => ?_
    rcases SponsorApprovals.openGate_ok h with ⟨rfl, -⟩ | ⟨r', hchecked, hopens⟩
    · exact hsame
    · exact .openSponsor hchecked hopens
  | decideSponsor r clock =>
    dsimp only [step]
    refine Tx.commit_rel (R := FlowChange _) hsame fun a' db' h => ?_
    obtain ⟨sponsorId, operationId, rationale, -, g, -, l, a, ha, -, -, hakey,
      ⟨rfl, -⟩ | ⟨run, artifact, hdecides⟩⟩ := SponsorApprovals.decide_ok h
    · exact hsame
    · exact .decideSponsor ha hakey hdecides
  | timeoutSponsor r clock =>
    dsimp only [step]
    refine Tx.commit_rel (R := FlowChange _) hsame fun g' db' h => ?_
    obtain ⟨g, -, l, -, -, ⟨rfl, -⟩ | ⟨actorId, operationId, run, artifact, -, htimes⟩⟩ :=
      SponsorApprovals.timeout_ok h
    · exact hsame
    · exact .timeoutSponsor htimes
  | resume i clock =>
    change FlowChange _ s.db (s.resume i clock).db
    unfold resume
    split
    · exact hsame
    · next t _ => exact (t.next_change clock).flowChange i clock
  | crash i => exact hsame
  | elsewhere db => exact .same ⟨rfl, rfl, rfl, rfl, rfl, rfl, rfl, rfl, rfl⟩

/-- **Flow invariants.**  What holds initially and is kept by every change of the database holds of
every reachable state. -/
theorem FlowSystem.Reachable.invariant {I : Db → Prop}
    (hinit : ∀ s, FlowSystem.Initial s → I s.db)
    (hstep : ∀ e db db', I db → FlowChange e db db' → I db') {s : FlowSystem} (h : s.Reachable) :
    I s.db := by
  obtain ⟨s₀, es, hs₀, rfl⟩ := h
  exact invariant_run (I := fun s : FlowSystem => I s.db)
    (fun s e hs => hstep e s.db _ hs (s.step_change e)) (hinit s₀ hs₀) es

end AgenticMesh
