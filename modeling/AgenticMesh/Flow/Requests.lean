import AgenticMesh.Flow.Bypass
import AgenticMesh.Flow.Recovery
import AgenticMesh.Recovery.Supervisor

/-!
# Repeated flow requests

The endpoints of the control API that start, prepare, pick up and complete a
flow check the caller before they call the flow engine: only the leader of the
flow that is configured now starts one, only the owner of the current state
prepares a transition or completes, and only the target of the pending
transition picks it up.  The engine answers a repeated operation from its
journal, but the request itself and every later transition change who passes
these checks.
-/

namespace AgenticMesh

/-- The errors of a flow endpoint. -/
inductive FlowApiError where
  /-- `ControlApiError(status, code, detail)`. -/
  | control (status : ℕ) (code detail : String)
  | flow (e : FlowError)
deriving DecidableEq

/-- The body of `start_flow`. -/
structure FlowStart where
  operationId : String
  fields : Json

/-- The body of `prepare_flow_transition`, with the source lease that `TransitionSource` accepts. -/
structure FlowTransitionPrepare where
  outcome : String
  fields : Json
  source : TransitionSource
  expectedVersion : ℤ
  operationId : String

/-- The body of `pickup_flow_transition`. -/
structure FlowTransitionAction where
  expectedVersion : ℤ
  operationId : String

/-- The body of `complete_flow`. -/
structure FlowComplete extends FlowTransitionAction where
  evidence : Json

/-- The caller of a flow endpoint and the work item that it names. -/
structure FlowCaller where
  identity : Principal
  projectId : String
  workItemId : String

def FlowCaller.key (c : FlowCaller) : String × String := (c.projectId, c.workItemId)

/-- `Principal.permits`. -/
def Principal.permits (p : Principal) (projectId scope : String) : Bool :=
  p.scopes.contains scope && (p.projects.contains "*" || p.projects.contains projectId)

/-! ## The requests of the engine -/

def FlowStart.request (c : FlowCaller) (flow : ValidFlow) (b : FlowStart) : StartRequest where
  projectId := c.projectId
  workItemId := c.workItemId
  flow := flow
  fields := b.fields
  actorId := c.identity.subject
  operationId := b.operationId

def FlowTransitionPrepare.request (c : FlowCaller) (b : FlowTransitionPrepare) :
    PrepareRequest where
  projectId := c.projectId
  workItemId := c.workItemId
  outcome := b.outcome
  fields := b.fields
  source := b.source
  expectedVersion := b.expectedVersion
  actorId := c.identity.subject
  operationId := b.operationId

def FlowTransitionAction.request (c : FlowCaller) (b : FlowTransitionAction) :
    PickupRequest where
  projectId := c.projectId
  workItemId := c.workItemId
  expectedVersion := b.expectedVersion
  actorId := c.identity.subject
  operationId := b.operationId

def FlowComplete.request (c : FlowCaller) (b : FlowComplete) : CompleteRequest where
  projectId := c.projectId
  workItemId := c.workItemId
  expectedVersion := b.expectedVersion
  actorId := c.identity.subject
  operationId := b.operationId
  evidence := b.evidence

/-! ## The endpoints -/

/-- `pending_target_role_id` of a run. -/
def FlowRun.pendingTargetRole (run : FlowRun) : Option String :=
  (FlowEngine.FlowStatus.pendingRoute run.status).map PendingRoute.targetRole

namespace FlowApi

/-- `project_access`. -/
def projectAccess (p : Principal) (projectId scope : String) : Tx Db FlowApiError Unit :=
  Tx.require (p.permits projectId scope = true)
    (.control 403 "project_access_denied"
      ("identity is not authorized to " ++ scope ++ " project " ++ projectId))

/-- `project_flow`: the flow that the configuration of the project has now. -/
def projectFlow (flows : String → Option ValidFlow) (projectId : String) :
    Tx Db FlowApiError ValidFlow :=
  Tx.demand (fun _ => flows projectId)
    (.control 503 "flow_configuration_unavailable" "project flow configuration is unavailable")

/-- `flow_engine.get`. -/
def getRun (c : FlowCaller) : Tx Db FlowApiError FlowRun :=
  Tx.mapError .flow do
    FlowEngine.requireIdentifiers [c.projectId, c.workItemId]
    FlowEngine.lockRun c.projectId c.workItemId

/-- `require_flow_role`. -/
def requireFlowRole (c : FlowCaller) : Tx Db FlowApiError Unit := do
  let run ← getRun c
  Tx.require (run.ownerRoleId = c.identity.subject)
    (.control 403 "flow_role_denied" "authenticated role does not own the current flow state")

def startFlow (flows : String → Option ValidFlow) (c : FlowCaller) (b : FlowStart) :
    Tx Db FlowApiError FlowRun := do
  projectAccess c.identity c.projectId "write"
  let flow ← projectFlow flows c.projectId
  Tx.require (c.identity.subject = flow.1.leaderRole)
    (.control 403 "flow_role_denied" "only the configured flow leader can start a flow")
  Tx.mapError .flow (FlowEngine.start (b.request c flow))

/-- `prepare_flow_transition`, up to the end of the first transaction of the engine. -/
def prepareFlowTransition (c : FlowCaller) (b : FlowTransitionPrepare) :
    Tx Db FlowApiError (FlowRun ⊕ FlowRoute) := do
  projectAccess c.identity c.projectId "write"
  requireFlowRole c
  Tx.mapError .flow (FlowEngine.reserve (b.request c))

def pickupFlowTransition (c : FlowCaller) (b : FlowTransitionAction) :
    Tx Db FlowApiError FlowRun := do
  projectAccess c.identity c.projectId "write"
  let run ← getRun c
  Tx.require (some c.identity.subject = run.pendingTargetRole)
    (.control 403 "flow_role_denied" "only the accepted target role can pick up a transition")
  Tx.mapError .flow (FlowEngine.pickupTransition (b.request c))

/-- `complete_flow`, up to the end of the first transaction of the engine. -/
def completeFlow (c : FlowCaller) (b : FlowComplete) : Tx Db FlowApiError (FlowRun ⊕ Unit) := do
  projectAccess c.identity c.projectId "write"
  requireFlowRole c
  Tx.mapError .flow (FlowEngine.reserveCompletion (b.request c))

end FlowApi

/-- A request of a flow endpoint. -/
inductive FlowRequest where
  | start (c : FlowCaller) (b : FlowStart)
  | prepare (c : FlowCaller) (b : FlowTransitionPrepare)
  | pickup (c : FlowCaller) (b : FlowTransitionAction)
  | complete (c : FlowCaller) (b : FlowComplete)

namespace FlowRequest

def caller : FlowRequest → FlowCaller
  | start c _ => c
  | prepare c _ => c
  | pickup c _ => c
  | complete c _ => c

/-- The call of the engine; a start passes the flow that is configured. -/
def call (flow : ValidFlow) : FlowRequest → FlowCall
  | start c b => .start (b.request c flow)
  | prepare c b => .prepare (b.request c)
  | pickup c b => .pickup (b.request c)
  | complete c b => .complete (b.request c)

/-- The answer of an endpoint; a call of the engine that goes on to further transactions has none
yet. -/
def handle (flows : String → Option ValidFlow) : FlowRequest → Tx Db FlowApiError (Option FlowRun)
  | start c b => some <$> FlowApi.startFlow flows c b
  | prepare c b => (Sum.elim some fun _ => none) <$> FlowApi.prepareFlowTransition c b
  | pickup c b => some <$> FlowApi.pickupFlowTransition c b
  | complete c b => (Sum.elim some fun _ => none) <$> FlowApi.completeFlow c b

/-- The check of the caller in front of the engine passes; a start resolves to a flow. -/
def Admits (flows : String → Option ValidFlow) (db : Db) (flow : ValidFlow) : FlowRequest → Prop
  | start c _ => flows c.projectId = some flow ∧ c.identity.subject = flow.1.leaderRole
  | prepare c _ => ∃ run ∈ db.flowRuns, run.key = c.key ∧ run.ownerRoleId = c.identity.subject
  | pickup c _ =>
    ∃ run ∈ db.flowRuns, run.key = c.key ∧ run.pendingTargetRole = some c.identity.subject
  | complete c _ => ∃ run ∈ db.flowRuns, run.key = c.key ∧ run.ownerRoleId = c.identity.subject

/-- The journal has the operation of a request for its own work item. -/
def Recorded (db : Db) (q : FlowRequest) (flow : ValidFlow) : Prop :=
  ∃ t ∈ db.transitions, t.key = (q.call flow).key ∧ t.workItemId = q.caller.workItemId

/-- A request is answered with the run of its work item, and nothing changes. -/
def Repeated (flows : String → Option ValidFlow) (db : Db) (q : FlowRequest) : Prop :=
  ∃ run ∈ db.flowRuns, run.key = q.caller.key ∧ q.handle flows db = .ok (some run, db)

/-- The caller may write the project. -/
def MayWrite (q : FlowRequest) : Prop :=
  q.caller.identity.permits q.caller.projectId "write" = true

end FlowRequest

/-! ## The journal -/

/-- A step keeps the journal. -/
lemma FlowChange.transitions {e : FlowEvent} {db db' : Db} (h : FlowChange e db db') :
    ∀ t ∈ db.transitions, t ∈ db'.transitions := by
  cases h with
  | same h => exact fun t ht => h.transitions ▸ ht
  | createProject _ => exact fun _ ht => ht
  | createWork _ _ => exact fun _ ht => ht
  | transition _ => exact fun _ ht => ht
  | completed _ => exact fun _ ht => ht
  | openGate _ _ _ _ _ _ _ => exact fun _ ht => ht
  | decideGate _ _ _ _ _ _ _ _ => exact fun _ ht => ht
  | start h =>
    obtain ⟨s, -, -, w, -, -, -, _, _, _, -, -, hins, rfl⟩ := h.state
    exact fun t ht => (Table.mem_of_insert hins t).2 (Or.inl ht)
  | dispatch h =>
    obtain ⟨_, rfl⟩ := h.effect
    exact fun _ ht => ht
  | reserve h =>
    obtain rfl := h.effect
    exact fun _ ht => ht
  | promote h =>
    obtain ⟨_, -, -, _, hins, rfl⟩ := h.route
    exact fun t ht => (Table.mem_of_insert hins t).2 (Or.inl ht)
  | pickup h =>
    obtain ⟨_, _, _, -, -, -, -, -, -, _, _, -, hins, rfl⟩ := h.target
    exact fun t ht => (Table.mem_of_insert hins t).2 (Or.inl ht)
  | reserveCompletion h =>
    obtain rfl := h.effect
    exact fun _ ht => ht
  | finish h =>
    obtain ⟨_, hins, rfl⟩ := h.effect
    exact fun t ht => (Table.mem_of_insert hins t).2 (Or.inl ht)
  | verify h =>
    obtain ⟨_, _, -, -, -, -, -, -, _, -, rfl⟩ := h.locked
    exact fun _ ht => ht
  | consult h =>
    obtain ⟨_, _, -, -, -, -, _, -, rfl⟩ := h.locked
    exact fun _ ht => ht
  | review _ h =>
    obtain ⟨_, _, _, rfl, -⟩ := h.effect
    exact fun _ ht => ht
  | openSponsor _ h =>
    obtain ⟨_, _, -, -, -, rfl⟩ := h.effect
    exact fun _ ht => ht
  | decideSponsor _ _ h =>
    obtain ⟨_, _, _, rfl, -⟩ := h.tables
    exact fun _ ht => ht
  | timeoutSponsor h =>
    obtain ⟨_, rfl⟩ := h.tables
    exact fun _ ht => ht

namespace FlowCall

/-- The journal has the operation of a call with its digest, and the run of its row. -/
def Journaled (c : FlowCall) (db : Db) : Prop :=
  ∃ t ∈ db.transitions, t.key = c.key ∧ t.requestDigest = c.digest ∧
    ∃ run ∈ db.flowRuns, run.key = (c.projectId, t.workItemId)

lemma Journaled.change {c : FlowCall} {e : FlowEvent} {db db' : Db} (hc : c.Journaled db)
    (h : FlowChange e db db') : c.Journaled db' := by
  obtain ⟨t, ht, hkey, hdigest, run, hrun, hrunkey⟩ := hc
  obtain ⟨run', hrun', hfollows⟩ := h.kept.runs run hrun
  exact ⟨t, h.transitions t ht, hkey, hdigest, run', hrun', hfollows.key.trans hrunkey⟩

lemma Journaled.run {c : FlowCall} {s : FlowSystem} (hc : c.Journaled s.db)
    (es : List FlowEvent) : c.Journaled (AgenticMesh.run FlowSystem.step s es).db :=
  invariant_run (I := fun s : FlowSystem => c.Journaled s.db)
    (fun s e hs => hs.change (s.step_change e)) hc es

/-- A replayed call is in the journal. -/
lemma Journaled.of_replayed {c : FlowCall} {run : FlowRun} {db : Db}
    (h : FlowEngine.Replayed c.projectId c.operationId c.digest run db) : c.Journaled db := by
  obtain ⟨⟨t, ht, hkey, hdigest, hrunkey⟩, hrun⟩ := h
  exact ⟨t, ht, hkey, hdigest, run, hrun, hrunkey⟩

/-- A call that commits its row is in the journal. -/
lemma Journaled.of_insert {c : FlowCall} {db : Db}
    {transitions : Table FlowTransition FlowTransition.key}
    (hins : db.transitions.insert c.row = some transitions) {db' : Db}
    (hsame : db'.transitions = transitions) {run : FlowRun} (hrun : run ∈ db'.flowRuns)
    (hkey : run.key = (c.projectId, c.workItemId)) : c.Journaled db' :=
  ⟨c.row, hsame ▸ (Table.mem_of_insert hins c.row).2 (Or.inr rfl), rfl, rfl, run, hrun, hkey⟩

/-- The calls that begin with the checks of their arguments. -/
def Begins : FlowCall → Prop
  | promote _ _ => False
  | finish _ => False
  | _ => True

/-- The checks of the arguments do not read the database. -/
lemma Passes.anywhere {c : FlowCall} (hc : c.Begins) {db : Db} (h : c.Passes db) (db' : Db) :
    c.Passes db' := by
  cases c with
  | start r =>
    simp only [Passes, check, FlowEngine.requireIdentifiers, FlowEngine.requireFields,
      FlowEngine.stateOf, Tx.bind_ok, Tx.demand_ok, Tx.require_ok, Tx.pure_ok, Prod.mk.injEq,
      true_and] at h ⊢
    obtain ⟨_, _, ⟨h₁, -⟩, _, _, ⟨_, _, ⟨h₂, -⟩, h₃, -⟩, _, _, ⟨h₄, -⟩, -⟩ := h
    exact ⟨(), db', ⟨h₁, rfl⟩, (), db', ⟨_, db', ⟨h₂, rfl⟩, h₃, rfl⟩, _, db', ⟨h₄, rfl⟩, rfl⟩
  | prepare r =>
    simp only [Passes, check, FlowEngine.checkPrepare, FlowEngine.requireIdentifier,
      FlowEngine.requireIdentifiers, FlowEngine.requireFields, FlowEngine.requireVersion,
      Tx.bind_ok, Tx.demand_ok, Tx.require_ok] at h ⊢
    obtain ⟨_, _, ⟨h₁, -⟩, _, _, ⟨h₂, -⟩, _, _, ⟨_, _, ⟨h₃, -⟩, h₄, -⟩, h₅, -⟩ := h
    exact ⟨(), db', ⟨h₁, rfl⟩, (), db', ⟨h₂, rfl⟩, (), db', ⟨_, _, ⟨h₃, rfl⟩, h₄, rfl⟩, h₅, rfl⟩
  | pickup r =>
    simp only [Passes, check, FlowEngine.requireIdentifiers, FlowEngine.requireVersion,
      Tx.bind_ok, Tx.require_ok] at h ⊢
    obtain ⟨_, _, ⟨h₁, -⟩, h₂, -⟩ := h
    exact ⟨(), db', ⟨h₁, rfl⟩, h₂, rfl⟩
  | complete r =>
    simp only [Passes, check, FlowEngine.checkComplete, FlowEngine.requireIdentifiers,
      FlowEngine.requireFields, FlowEngine.requireVersion, Tx.bind_ok, Tx.demand_ok,
      Tx.require_ok] at h ⊢
    obtain ⟨_, _, ⟨h₁, -⟩, _, _, ⟨h₂, -⟩, _, _, ⟨_, _, ⟨h₃, -⟩, h₄, -⟩, h₅, -⟩ := h
    exact ⟨(), db', ⟨h₁, rfl⟩, (), db', ⟨h₂, rfl⟩, (), db', ⟨_, _, ⟨h₃, rfl⟩, h₄, rfl⟩, h₅, rfl⟩
  | promote r handoff => exact hc.elim
  | finish r => exact hc.elim

/-- A call that succeeds has passed its checks. -/
lemma passes_of_exec {c : FlowCall} {db : Db} {out : Option FlowRun × Db}
    (h : c.exec db = .ok out) : c.Passes db := by
  have hguards : FlowEngine.Guards c.check db := c.check_guards
  rcases hguards with ⟨u, hu⟩ | ⟨e, he, -⟩
  · exact hu
  · rw [exec_of_check he] at h
    simp at h

end FlowCall

/-! ## Answers of the engine -/

/-- The call of the engine that a task belongs to. -/
def FlowTask.call : FlowTask → FlowCall
  | offering r _ => .prepare r
  | promoting r _ => .prepare r
  | reading r => .complete r
  | completing r _ => .complete r
  | rereading r => .complete r
  | finishing r => .complete r

/-- The next task of a call belongs to it. -/
lemma FlowTask.next_call {t t' : FlowTask} {clock : OfferClock} {db : Db}
    (h : (t.next clock db).2 = some t') : t'.call = t.call := by
  cases t with
  | offering r route =>
    obtain ⟨_, _, -, htask⟩ := mem_outcome h
    rw [← Option.some.inj htask]
    rfl
  | promoting r handoff =>
    obtain ⟨_, _, -, htask⟩ := mem_outcome h
    simp at htask
  | reading r =>
    obtain ⟨w, _, -, htask⟩ := mem_outcome h
    unfold firstRead at htask
    split at htask
    · rw [← Option.some.inj htask]
      rfl
    · rw [(mem_afterRead htask).1]
      rfl
  | completing r version =>
    simp only [next] at h
    revert h
    generalize LifecycleStore.transitionWorkItem _ db = out
    intro h
    cases out with
    | ok out =>
      rw [← Option.some.inj h]
      rfl
    | error e =>
      cases e <;> simp [transitioned] at h
      rw [← h]
      rfl
  | rereading r =>
    obtain ⟨w, _, -, htask⟩ := mem_outcome h
    rw [(mem_afterRead htask).1]
    rfl
  | finishing r =>
    obtain ⟨_, _, -, htask⟩ := mem_outcome h
    simp at htask

namespace FlowSystem

/-- Every call under way has passed the checks of its arguments. -/
def Checked (s : FlowSystem) : Prop := ∀ t ∈ s.tasks, ∀ db, t.call.Passes db

lemma Checked.step {s : FlowSystem} (hs : s.Checked) (e : FlowEvent) : (s.step e).Checked := by
  intro t ht db
  rcases mem_tasks_step ht with hold | hnew
  · exact hs t hold db
  · cases hnew with
    | @prepared r route =>
      change FlowTask.offering r route ∈
        (s.after (FlowTask.offering r) (FlowEngine.reserve r s.db)).tasks at ht
      rcases mem_after ht with hold | ⟨_, _, hreserve, -⟩
      · exact hs _ hold db
      · exact (FlowEngine.reserve_reserved hreserve).2.1 db
    | @reserved c db' h =>
      have hexec : (FlowCall.complete c).exec s.db = .ok (none, db') := Tx.map_of_ok h
      exact FlowCall.Passes.anywhere (c := .complete c) trivial (FlowCall.passes_of_exec hexec) db
    | resumed mem next =>
      rw [FlowTask.next_call next]
      exact hs _ mem db

lemma Reachable.checked {s : FlowSystem} (hs : s.Reachable) : s.Checked := by
  obtain ⟨s₀, es, hs₀, rfl⟩ := hs
  refine invariant_run (I := Checked) (fun s e h => h.step e) ?_ es
  intro t ht
  rw [hs₀.tasks] at ht
  simp at ht

/-- A step in which the engine answers a call with a run. -/
inductive Returns (s : FlowSystem) : FlowEvent → FlowCall → FlowRun → Prop
  | start {r : StartRequest} {run : FlowRun} {db' : Db}
      (h : FlowEngine.start r s.db = .ok (run, db')) : Returns s (.start r) (.start r) run
  | prepare {r : PrepareRequest} {run : FlowRun} {db' : Db}
      (h : FlowEngine.reserve r s.db = .ok (.inl run, db')) :
      Returns s (.prepare r) (.prepare r) run
  | promote {i : ℕ} {clock : OfferClock} {r : PrepareRequest} {handoff : Handoff} {run : FlowRun}
      {db' : Db} (task : s.tasks[i]? = some (.promoting r handoff))
      (h : FlowEngine.promote r handoff s.db = .ok (run, db')) :
      Returns s (.resume i clock) (.prepare r) run
  | pickup {r : PickupRequest} {run : FlowRun} {db' : Db}
      (h : FlowEngine.pickupTransition r s.db = .ok (run, db')) :
      Returns s (.pickup r) (.pickup r) run
  | complete {r : CompleteRequest} {run : FlowRun} {db' : Db}
      (h : FlowEngine.reserveCompletion r s.db = .ok (.inl run, db')) :
      Returns s (.complete r) (.complete r) run
  | finish {i : ℕ} {clock : OfferClock} {r : CompleteRequest} {run : FlowRun} {db' : Db}
      (task : s.tasks[i]? = some (.finishing r)) (h : FlowEngine.finish r s.db = .ok (run, db')) :
      Returns s (.resume i clock) (.complete r) run

variable {s : FlowSystem} {e : FlowEvent} {c : FlowCall} {run : FlowRun}

/-- A call that was answered is in the journal. -/
lemma Returns.journaled (h : s.Returns e c run) : c.Journaled (s.step e).db := by
  cases h with
  | @start r run db' h =>
    have hdb : (s.step (.start r)).db = db' := Tx.commit_of_ok h
    rw [hdb]
    rcases FlowEngine.start_ok h with ⟨rfl, hreplayed⟩ | hstarted
    · exact .of_replayed (c := .start r) hreplayed
    · obtain ⟨st, -, rfl, w, -, -, -, flowRuns, _, transitions, hruns, -, hins, rfl⟩ :=
        hstarted.state
      exact .of_insert (c := .start r) hins rfl ((Table.mem_of_insert hruns _).2 (Or.inr rfl)) rfl
  | @prepare r run db' h =>
    have hdb : (s.step (.prepare r)).db = db' := by
      change (s.after (FlowTask.offering r) (FlowEngine.reserve r s.db)).db = db'
      rw [h]
      rfl
    rw [hdb]
    rcases FlowEngine.reserve_ok h with ⟨run', hout, rfl, hreplayed⟩ | ⟨_, _, hout, -⟩ |
      ⟨_, _, _, hout, -⟩
    · obtain rfl := Sum.inl.inj hout
      exact .of_replayed (c := .prepare r) hreplayed
    · simp at hout
    · simp at hout
  | @promote i clock r handoff run db' task h =>
    have hdb : (s.step (.resume i clock)).db = db' := by
      rw [step_resume task, FlowTask.next, h]
      rfl
    rw [hdb]
    rcases FlowEngine.promote_ok h with ⟨rfl, hreplayed⟩ | ⟨old, hpromotes⟩
    · exact .of_replayed (c := .prepare r) hreplayed
    · obtain ⟨p, -, rfl, transitions, hins, rfl⟩ := hpromotes.route
      have hrun : (FlowEngine.promoted (.handoffPending p handoff.handoffId)).set old ∈
          (s.db.updateRun old.key
            (FlowEngine.promoted (.handoffPending p handoff.handoffId))).flowRuns :=
        Table.mem_update_of_pos (p := fun k => k.key = old.key) hpromotes.mem rfl
      exact .of_insert (c := .prepare r) hins rfl hrun hpromotes.key
  | @pickup r run db' h =>
    have hdb : (s.step (.pickup r)).db = db' := Tx.commit_of_ok h
    rw [hdb]
    rcases FlowEngine.pickupTransition_ok h with ⟨rfl, hreplayed⟩ | ⟨old, hpicks⟩
    · exact .of_replayed (c := .pickup r) hreplayed
    · obtain ⟨_, _, target, -, -, -, rfl, -, -, _, transitions, -, hins, rfl⟩ := hpicks.target
      have hrun : (FlowEngine.pickedUp target).set old ∈
          (s.db.updateRun old.key (FlowEngine.pickedUp target)).flowRuns :=
        Table.mem_update_of_pos (p := fun k => k.key = old.key) hpicks.mem rfl
      exact .of_insert (c := .pickup r) hins rfl hrun hpicks.key
  | @complete r run db' h =>
    have hdb : (s.step (.complete r)).db = db' := by
      change (s.after (fun _ => FlowTask.reading r) (FlowEngine.reserveCompletion r s.db)).db = db'
      rw [h]
      rfl
    rw [hdb]
    rcases FlowEngine.reserveCompletion_ok h with ⟨run', hout, rfl, hreplayed⟩ | ⟨_, hout, -⟩ |
      ⟨_, hout, -⟩
    · obtain rfl := Sum.inl.inj hout
      exact .of_replayed (c := .complete r) hreplayed
    · simp at hout
    · simp at hout
  | @finish i clock r run db' task h =>
    have hdb : (s.step (.resume i clock)).db = db' := by
      rw [step_resume task, FlowTask.next, h]
      rfl
    rw [hdb]
    rcases FlowEngine.finish_ok h with ⟨rfl, hreplayed⟩ | ⟨old, hfinishes⟩
    · exact .of_replayed (c := .complete r) hreplayed
    · obtain ⟨transitions, hins, rfl⟩ := hfinishes.effect
      have hrun : FlowEngine.finished.set old ∈
          (s.db.updateRun old.key FlowEngine.finished).flowRuns :=
        Table.mem_update_of_pos (p := fun k => k.key = old.key) hfinishes.mem rfl
      exact .of_insert (c := .complete r) hins rfl hrun hfinishes.key

/-- A call that was answered passes the checks of its arguments. -/
lemma Returns.passes (hs : s.Reachable) (h : s.Returns e c run) (db : Db) : c.Passes db := by
  cases h with
  | @start r run db' h =>
    have hexec : (FlowCall.start r).exec s.db = .ok (some run, db') := Tx.map_of_ok h
    exact FlowCall.Passes.anywhere (c := .start r) trivial (FlowCall.passes_of_exec hexec) db
  | @prepare r run db' h =>
    have hexec : (FlowCall.prepare r).exec s.db = .ok (some run, db') := Tx.map_of_ok h
    exact FlowCall.Passes.anywhere (c := .prepare r) trivial (FlowCall.passes_of_exec hexec) db
  | promote task _ => exact hs.checked _ (List.mem_of_getElem? task) db
  | @pickup r run db' h =>
    have hexec : (FlowCall.pickup r).exec s.db = .ok (some run, db') := Tx.map_of_ok h
    exact FlowCall.Passes.anywhere (c := .pickup r) trivial (FlowCall.passes_of_exec hexec) db
  | @complete r run db' h =>
    have hexec : (FlowCall.complete r).exec s.db = .ok (some run, db') := Tx.map_of_ok h
    exact FlowCall.Passes.anywhere (c := .complete r) trivial (FlowCall.passes_of_exec hexec) db
  | finish task _ => exact hs.checked _ (List.mem_of_getElem? task) db

end FlowSystem

/-! ## Answers of the endpoints -/

namespace FlowApi

variable {db db' : Db} {c : FlowCaller}

lemma getRun_ok {run : FlowRun} : getRun c db = .ok (run, db') ↔
    (∀ s ∈ [c.projectId, c.workItemId], isIdentifier s = true) ∧ run ∈ db.flowRuns ∧
      run.key = c.key ∧ db' = db := by
  rw [getRun, Tx.mapError_ok, FlowEngine.requireIdentifiers, Tx.require_bind_ok,
    FlowEngine.lockRun, Tx.demand_ok, Table.lookup_eq_some, and_assoc]
  rfl

variable {α : Type} {r : α × Db}

lemma projectAccess_bind_ok {p : Principal} {projectId scope : String}
    {f : Unit → Tx Db FlowApiError α} : (projectAccess p projectId scope >>= f) db = .ok r ↔
      p.permits projectId scope = true ∧ f () db = .ok r :=
  Tx.require_bind_ok

lemma requireFlowRole_bind_ok {f : Unit → Tx Db FlowApiError α} :
    (requireFlowRole c >>= f) db = .ok r ↔
      (∀ s ∈ [c.projectId, c.workItemId], isIdentifier s = true) ∧
        (∃ run ∈ db.flowRuns, run.key = c.key ∧ run.ownerRoleId = c.identity.subject) ∧
          f () db = .ok r := by
  simp only [requireFlowRole, Tx.bind_ok, getRun_ok, Tx.require_ok]
  constructor
  · rintro ⟨_, _, ⟨run, _, ⟨hids, hrun, hkey, rfl⟩, howner, rfl⟩, h⟩
    exact ⟨hids, ⟨run, hrun, hkey, howner⟩, h⟩
  · rintro ⟨hids, ⟨run, hrun, hkey, howner⟩, h⟩
    exact ⟨(), db, ⟨run, db, ⟨hids, hrun, hkey, rfl⟩, howner, rfl⟩, h⟩

lemma startFlow_ok {flows : String → Option ValidFlow} {b : FlowStart} {run : FlowRun} :
    startFlow flows c b db = .ok (run, db') ↔ c.identity.permits c.projectId "write" = true ∧
      ∃ flow, flows c.projectId = some flow ∧ c.identity.subject = flow.1.leaderRole ∧
        FlowEngine.start (b.request c flow) db = .ok (run, db') := by
  rw [startFlow, projectAccess_bind_ok, projectFlow, Tx.demand_bind_ok]
  simp only [Tx.require_bind_ok, Tx.mapError_ok]

lemma pickupFlowTransition_ok {b : FlowTransitionAction} {run : FlowRun} :
    pickupFlowTransition c b db = .ok (run, db') ↔ c.identity.permits c.projectId "write" = true ∧
      (∀ s ∈ [c.projectId, c.workItemId], isIdentifier s = true) ∧
        (∃ old ∈ db.flowRuns, old.key = c.key ∧ old.pendingTargetRole = some c.identity.subject) ∧
          FlowEngine.pickupTransition (b.request c) db = .ok (run, db') := by
  rw [pickupFlowTransition, projectAccess_bind_ok, Tx.bind_ok]
  simp only [getRun_ok, Tx.require_bind_ok, Tx.mapError_ok]
  constructor
  · rintro ⟨hwrite, old, _, ⟨hids, hold, hkey, rfl⟩, hrole, h⟩
    exact ⟨hwrite, hids, ⟨old, hold, hkey, hrole.symm⟩, h⟩
  · rintro ⟨hwrite, hids, ⟨old, hold, hkey, hrole⟩, h⟩
    exact ⟨hwrite, old, db, ⟨hids, hold, hkey, rfl⟩, hrole.symm, h⟩

end FlowApi

namespace FlowRequest

variable {db db' : Db} {flows : String → Option ValidFlow} {q : FlowRequest}

lemma identifiers_of_passes {flow : ValidFlow} (h : (q.call flow).Passes db) :
    ∀ s ∈ [q.caller.projectId, q.caller.workItemId], isIdentifier s = true := by
  cases q with
  | start c b =>
    rw [call, FlowCall.Passes, FlowCall.check, FlowEngine.requireIdentifiers,
      Tx.require_bind_ok] at h
    intro s hs
    refine h.1 s ?_
    simp only [List.mem_cons, List.not_mem_nil, or_false] at hs ⊢
    exact hs.elim (fun h => .inl h) fun h => .inr (.inl h)
  | prepare c b =>
    obtain ⟨-, hids, -⟩ := FlowEngine.checkPrepare_ok (show FlowEngine.checkPrepare _ db = _ from h)
    intro s hs
    refine hids s ?_
    simp only [List.mem_cons, List.not_mem_nil, or_false] at hs ⊢
    exact hs.elim (fun h => .inl h) fun h => .inr (.inl h)
  | pickup c b =>
    rw [call, FlowCall.Passes, FlowCall.check, FlowEngine.requireIdentifiers,
      Tx.require_bind_ok] at h
    intro s hs
    refine h.1 s ?_
    simp only [List.mem_cons, List.not_mem_nil, or_false] at hs ⊢
    exact hs.elim (fun h => .inl h) fun h => .inr (.inl h)
  | complete c b =>
    rw [call, FlowCall.Passes, FlowCall.check, FlowEngine.checkComplete,
      FlowEngine.requireIdentifiers, Tx.require_bind_ok] at h
    intro s hs
    refine h.1 s ?_
    simp only [List.mem_cons, List.not_mem_nil, or_false] at hs ⊢
    exact hs.elim (fun h => .inl h) fun h => .inr (.inl h)

lemma call_key (q : FlowRequest) (f g : ValidFlow) : (q.call f).key = (q.call g).key := by
  cases q <;> rfl

lemma call_projectId (q : FlowRequest) (f : ValidFlow) :
    (q.call f).projectId = q.caller.projectId := by
  cases q <;> rfl

/-- The checks of the arguments accept every validated flow. -/
lemma passes_call {f g : ValidFlow} (h : (q.call f).Passes db) : (q.call g).Passes db := by
  cases q with
  | start c b =>
    obtain ⟨value, digest, hvalid⟩ := g.2
    obtain ⟨s, hs, hid⟩ := (Flow.validate_ok hvalid).entry
    have hstate : (g.1.state g.1.entryState).isSome = true :=
      List.find?_isSome.2 ⟨s, hs, by simpa using hid⟩
    obtain ⟨entry, hentry⟩ := Option.isSome_iff_exists.1 hstate
    simp only [call, FlowCall.Passes, FlowCall.check, FlowEngine.requireIdentifiers,
      FlowEngine.stateOf, Tx.bind_ok, Tx.demand_ok, Tx.require_ok, Tx.pure_ok] at h ⊢
    obtain ⟨_, _, hids, _, _, hfields, -⟩ := h
    obtain ⟨hids, rfl⟩ := hids
    obtain rfl := FlowEngine.requireFields_ok hfields
    exact ⟨(), _, ⟨hids, rfl⟩, (), _, hfields, entry, _, ⟨hentry, rfl⟩, rfl⟩
  | _ => exact h

/-- An endpoint answers with what the engine answers, if it admits the caller. -/
lemma handle_ok {run : FlowRun} (hids : ∀ s ∈ [q.caller.projectId, q.caller.workItemId],
      isIdentifier s = true) (f : ValidFlow) :
    q.handle flows db = .ok (some run, db') ↔ q.MayWrite ∧
      ∃ g, q.Admits flows db g ∧ (q.call g).exec db = .ok (some run, db') := by
  cases q with
  | start c b =>
    rw [handle, Tx.map_ok]
    simp only [FlowApi.startFlow_ok]
    constructor
    · rintro ⟨run', _, ⟨hwrite, g, hg, hleader, hstart⟩, hout⟩
      exact ⟨hwrite, g, ⟨hg, hleader⟩, Tx.map_ok.2 ⟨run', _, hstart, hout⟩⟩
    · rintro ⟨hwrite, g, ⟨hg, hleader⟩, h⟩
      obtain ⟨run', _, hstart, hout⟩ := Tx.map_ok.1 h
      exact ⟨run', _, ⟨hwrite, g, hg, hleader, hstart⟩, hout⟩
  | prepare c b =>
    rw [handle, Tx.map_ok, FlowApi.prepareFlowTransition]
    simp only [FlowApi.projectAccess_bind_ok, FlowApi.requireFlowRole_bind_ok, Tx.mapError_ok]
    constructor
    · rintro ⟨out, _, ⟨hwrite, -, hrole, hreserve⟩, hout⟩
      exact ⟨hwrite, f, hrole, Tx.map_ok.2 ⟨out, _, hreserve, hout⟩⟩
    · rintro ⟨hwrite, _, hrole, h⟩
      obtain ⟨out, _, hreserve, hout⟩ := Tx.map_ok.1 h
      exact ⟨out, _, ⟨hwrite, hids, hrole, hreserve⟩, hout⟩
  | pickup c b =>
    rw [handle, Tx.map_ok]
    simp only [FlowApi.pickupFlowTransition_ok]
    constructor
    · rintro ⟨run', _, ⟨hwrite, -, hrole, hpickup⟩, hout⟩
      exact ⟨hwrite, f, hrole, Tx.map_ok.2 ⟨run', _, hpickup, hout⟩⟩
    · rintro ⟨hwrite, _, hrole, h⟩
      obtain ⟨run', _, hpickup, hout⟩ := Tx.map_ok.1 h
      exact ⟨run', _, ⟨hwrite, hids, hrole, hpickup⟩, hout⟩
  | complete c b =>
    rw [handle, Tx.map_ok, FlowApi.completeFlow]
    simp only [FlowApi.projectAccess_bind_ok, FlowApi.requireFlowRole_bind_ok, Tx.mapError_ok]
    constructor
    · rintro ⟨out, _, ⟨hwrite, -, hrole, hreserve⟩, hout⟩
      exact ⟨hwrite, f, hrole, Tx.map_ok.2 ⟨out, _, hreserve, hout⟩⟩
    · rintro ⟨hwrite, _, hrole, h⟩
      obtain ⟨out, _, hreserve, hout⟩ := Tx.map_ok.1 h
      exact ⟨out, _, ⟨hwrite, hids, hrole, hreserve⟩, hout⟩

/-- A journaled request is answered again exactly when the journal has it for its own work item and
the endpoint admits the caller, a start with a flow of the recorded digest. -/
lemma repeated_iff {f : ValidFlow} (hj : (q.call f).Journaled db) (hp : (q.call f).Passes db)
    (hwrite : q.MayWrite) : q.Repeated flows db ↔
      q.Recorded db f ∧ ∃ g, q.Admits flows db g ∧ (q.call g).digest = (q.call f).digest := by
  obtain ⟨t, ht, hkey, hdigest, r, hr, hrkey⟩ := hj
  rw [call_projectId] at hrkey
  have hids := identifiers_of_passes hp
  have hexec : ∀ g, (q.call g).Passes db → (q.call g).exec db =
      if t.requestDigest = (q.call g).digest then .ok (some r, db)
      else .error (.conflict "operation id conflicts with another request") := by
    intro g hg
    exact FlowCall.exec_of_recorded hg ht (hkey.trans (q.call_key f g)) hr
      (by rw [call_projectId]; exact hrkey)
  constructor
  · rintro ⟨run, -, hrunkey, hhandle⟩
    obtain ⟨-, g, hadmits, hok⟩ := (handle_ok hids f).1 hhandle
    have hrecorded := hexec g (FlowCall.passes_of_exec hok)
    rw [hok] at hrecorded
    split at hrecorded
    · next hsame =>
      simp only [Except.ok.injEq, Prod.mk.injEq, Option.some.injEq, and_true] at hrecorded
      subst hrecorded
      have hwork : t.workItemId = q.caller.workItemId :=
        (Prod.mk.inj (hrkey.symm.trans hrunkey)).2
      exact ⟨⟨t, ht, hkey, hwork⟩, g, hadmits, hsame.symm.trans hdigest⟩
    · simp at hrecorded
  · rintro ⟨⟨t', ht', hkey', hwork⟩, g, hadmits, hsame⟩
    obtain rfl := db.transitions.eq_of_key ht' ht (hkey'.trans hkey.symm)
    refine ⟨r, hr, ?_, (handle_ok hids f).2 ⟨hwrite, g, hadmits, ?_⟩⟩
    · rw [hrkey, hwork]
      rfl
    · rw [hexec g (passes_call hp), if_pos (hdigest.trans hsame.symm)]

end FlowRequest

/-- **Repeated requests.**  Once the engine answered a request, at every later time the request is
answered again with the run of its work item and without a change exactly when its operation was
recorded for this work item and the endpoint still admits the caller: a start when the flow that is
configured then has the caller as leader and the digest of the recorded one, a preparation and a
completion when the caller owns the current state of the run, and a pickup when a transition to the
caller is pending. -/
theorem flow_requests_repeated (s : FlowSystem) (hs : s.Reachable) (e : FlowEvent)
    (q : FlowRequest) (flow : ValidFlow) (answer : FlowRun) (h : s.Returns e (q.call flow) answer)
    (hwrite : q.MayWrite) (es : List FlowEvent) (flows : String → Option ValidFlow) :
    let db := (run FlowSystem.step (s.step e) es).db
    q.Repeated flows db ↔
      q.Recorded db flow ∧ ∃ g, q.Admits flows db g ∧ (q.call g).digest = (q.call flow).digest := by
  intro db
  exact FlowRequest.repeated_iff (h.journaled.run es) (h.passes hs db) hwrite

/-- The leader, who starts the work item `a`. -/
def leader : FlowCaller := ⟨⟨"lead", ["p"], ["write"]⟩, "p", "a"⟩

lemma leader_writes : leader.identity.permits "p" "write" = true := by decide

/-- The start is repeated at once. -/
theorem flow_requests_repeated_start :
    (FlowRequest.start leader ⟨"op", .obj []⟩).Repeated (fun _ => some shippingFlow)
      startedShop := by
  have h := flow_requests_repeated shop ⟨shop, [], shop_initial, rfl⟩ (.start (startShipping "a"))
    (.start leader ⟨"op", .obj []⟩) shippingFlow firstRun (.start (start_first shop.db.roles))
    leader_writes [] (fun _ => some shippingFlow)
  rw [run_nil, step_start] at h
  exact h.2 ⟨⟨_, List.mem_singleton_self _, rfl, rfl⟩, shippingFlow, ⟨rfl, rfl⟩, rfl⟩

/-! ## A pickup whose answer is lost -/

/-- A new pickup leaves a run that nobody is to pick up, so the endpoint refuses it from then on. -/
lemma FlowRequest.pickup_not_repeated {db db' : Db} {c : FlowCaller} {b : FlowTransitionAction}
    {answer : FlowRun} (h : FlowEngine.pickupTransition (b.request c) db = .ok (answer, db'))
    (hnew : ∀ t ∈ db.transitions, t.key ≠ (c.projectId, b.operationId))
    (flows : String → Option ValidFlow) : ¬ (FlowRequest.pickup c b).Repeated flows db' := by
  rintro ⟨run, -, -, hhandle⟩
  rw [FlowRequest.handle, Tx.map_ok] at hhandle
  obtain ⟨_, _, hpickup, -⟩ := hhandle
  obtain ⟨-, -, ⟨old, hold, holdkey, hpending⟩, -⟩ := FlowApi.pickupFlowTransition_ok.1 hpickup
  rcases FlowEngine.pickupTransition_ok h with ⟨-, ⟨t, ht, hkey, -⟩, -⟩ | ⟨before, hpicks⟩
  · exact hnew t ht hkey
  · obtain ⟨_, _, target, -, -, -, -, -, -, _, _, -, -, rfl⟩ := hpicks.target
    -- the only run of the work item is the one that was picked up
    obtain ⟨k, hk, hkkey, rfl⟩ | ⟨-, hne⟩ := Table.mem_update_cases hold
    · simp [FlowRun.pendingTargetRole, FlowEngine.pickedUp, FlowEngine.FlowStatus.pendingRoute]
        at hpending
    · exact hne (holdkey.trans hpicks.key.symm)

/-- The operator picks the work up. -/
def operator : FlowCaller := ⟨⟨"ops", ["p"], ["write"]⟩, "p", "a"⟩

lemma operator_writes : operator.identity.permits "p" "write" = true := by decide

def fetch : FlowTransitionAction := ⟨2, "fetch"⟩

/-- The handover of the work item `a` is promoted. -/
def pendingRun (handoffId : String) : FlowRun :=
  (FlowEngine.promoted (.handoffPending (FlowEngine.pendingRoute prepareShipping shipRoute)
    handoffId)).set shippingRun

/-- A pickup that is not recorded yet succeeds when it meets its conditions. -/
lemma FlowEngine.pickupNew_of {r : PickupRequest} {run : FlowRun} {p : PendingRoute}
    {handoffId : String} {target : FlowState} {db db₁ : Db}
    {transitions : Table FlowTransition FlowTransition.key}
    (hstatus : run.status = .handoffPending p handoffId)
    (hversion : (run.version : ℤ) = r.expectedVersion)
    (haccepted : ∃ h ∈ db.handoffs.lookup (r.projectId, handoffId), h.status.isAccepted = true)
    (htarget : run.flow.state p.targetState = some target)
    (howner : target.ownerRole = p.targetRole)
    (hwork : ∃ w ∈ db.workItems.lookup (r.projectId, r.workItemId), w.status = .active)
    (hobligations : (newObligations r.projectId r.workItemId target run.fields
      (run.version + 1)).foldlM (fun db o => db.insertObligation o)
        ((db.updateRun run.key (pickedUp target)).updateWork (r.projectId, r.workItemId)
          (assigned target.ownerRole)) = some db₁)
    (hjournal : db₁.transitions.insert
      ⟨r.projectId, r.workItemId, r.operationId, r.digest, .pickup⟩ = some transitions) :
    pickupNew r run db = .ok ((pickedUp target).set run, { db₁ with transitions }) := by
  have hpending : pendingHandoff run = some (p, handoffId) := by
    rw [pendingHandoff, hstatus]
  rw [pickupNew, Tx.bind_of_ok (Tx.demand_of_some (g := fun _ => pendingHandoff run) hpending)]
  dsimp only
  rw [Tx.bind_of_ok (Tx.require_of_pos hversion),
    Tx.bind_of_ok (show Tx.query id db = .ok (db, db) from rfl),
    Tx.bind_of_ok (Tx.require_of_pos haccepted), stateOf,
    Tx.bind_of_ok (Tx.demand_of_some (g := fun _ => run.flow.state p.targetState) htarget),
    Tx.bind_of_ok (Tx.require_of_pos howner)]
  refine (Tx.bind_of_ok (show Tx.modify _ db = .ok ((), _) from rfl)).trans ?_
  refine (Tx.bind_of_ok (Tx.require_of_pos hwork)).trans ?_
  refine (Tx.bind_of_ok (show Tx.modify _ _ = .ok ((), _) from rfl)).trans ?_
  refine (Tx.bind_of_ok (Tx.attempt_of_some hobligations)).trans ?_
  refine (Tx.bind_of_ok (Tx.attempt_of_some (g := Db.insertTransition _) ?_)).trans rfl
  rw [Db.insertTransition, hjournal]
  rfl

/-- New obligations of different keys are inserted. -/
lemma Db.insertObligations_of_fresh {os : List FlowObligation}
    (hnodup : (os.map FlowObligation.key).Nodup) {db : Db}
    (hfresh : ∀ o ∈ os, ∀ q ∈ db.obligations, q.key ≠ o.key) : ∃ obligations,
      os.foldlM (fun db o => db.insertObligation o) db = some { db with obligations } := by
  induction os generalizing db with
  | nil => exact ⟨db.obligations, rfl⟩
  | cons o os ih =>
    rw [List.map_cons, List.nodup_cons] at hnodup
    obtain ⟨hhead, htail⟩ := hnodup
    obtain ⟨obligations, hins⟩ := Table.insert_isSome_of_fresh (hfresh o List.mem_cons_self)
    have hrest : ∀ o' ∈ os, ∀ q ∈ ({ db with obligations } : Db).obligations, q.key ≠ o'.key := by
      intro o' ho' q hq hkey
      rcases (Table.mem_of_insert hins q).1 hq with hq | rfl
      · exact hfresh o' (List.mem_cons_of_mem o ho') q hq hkey
      · exact hhead (hkey ▸ List.mem_map_of_mem ho')
    obtain ⟨all, hall⟩ := ih htail hrest
    refine ⟨all, ?_⟩
    rw [List.foldlM_cons, Db.insertObligation, hins]
    exact hall

lemma fetch_ok {db : Db} {handoffId : String}
    (hruns : pendingRun handoffId ∈ db.flowRuns) (hwork : developed "a" ∈ db.workItems)
    (hobligations : db.obligations = builtShop.obligations)
    (haccepted : ∃ h ∈ db.handoffs.lookup ("p", handoffId), h.status.isAccepted = true)
    (hnew : ∀ t ∈ db.transitions, t.key ≠ ("p", "fetch")) :
    ∃ answer db', FlowEngine.pickupTransition (fetch.request operator) db = .ok (answer, db') := by
  have hrelease : shippingFlow.1.state "release" = some releaseState := by decide
  have hnodup : ((FlowEngine.newObligations "p" "a" releaseState (.obj []) 3).map
      FlowObligation.key).Nodup := by decide
  have hfresh : ∀ o ∈ FlowEngine.newObligations "p" "a" releaseState (.obj []) 3,
      ∀ q ∈ db.obligations, q.key ≠ o.key := by
    rw [hobligations]
    decide
  let moved := (db.updateRun ("p", "a") (FlowEngine.pickedUp releaseState)).updateWork ("p", "a")
    (FlowEngine.assigned "ops")
  obtain ⟨obligations, hinserted⟩ := @Db.insertObligations_of_fresh _ hnodup moved hfresh
  obtain ⟨transitions, hins⟩ := Table.insert_isSome_of_fresh
    (r := (⟨"p", "a", "fetch", (fetch.request operator).digest, .pickup⟩ : FlowTransition)) hnew
  have hpickup := @FlowEngine.pickupNew_of (fetch.request operator) (pendingRun handoffId) _
    handoffId releaseState db _ transitions rfl rfl haccepted
    (show (pendingRun handoffId).flow.state "release" = some releaseState from hrelease) rfl
    ⟨developed "a", Table.lookup_eq_some.2 ⟨hwork, rfl⟩, rfl⟩ hinserted hins
  have hreplay : FlowEngine.replay "p" "fetch" (fetch.request operator).digest db =
      .ok (none, db) := FlowEngine.replay_unrecorded hnew
  have hlock : FlowEngine.lockRun "p" "a" db = .ok (pendingRun handoffId, db) :=
    FlowEngine.lockRun_of_mem hruns rfl
  refine ⟨_, _, Eq.trans ?_ hpickup⟩
  rw [FlowEngine.pickupTransition, FlowEngine.requireIdentifiers,
    Tx.bind_of_ok (Tx.require_of_pos (by decide)), FlowEngine.requireVersion,
    Tx.bind_of_ok (Tx.require_of_pos (by decide))]
  exact (Tx.bind_of_ok hreplay).trans (Tx.bind_of_ok hlock)

open FlowEngine in
/-- The developer's handoff is offered. -/
lemma shipping_offered : ∃ (handoff : Handoff) (queueItems : Table QueueItem QueueItem.key)
    (handoffs : Table Handoff Handoff.key), handoff.projectId = "p" ∧
      run FlowSystem.step ⟨builtShop, []⟩
        [.prepare prepareShipping, .elsewhere (floor firstShift), .resume 0 ⟨1, 2, 3⟩] =
      ⟨{ handover firstShift with queueItems, handoffs },
      [.promoting prepareShipping handoff]⟩ := by
  obtain ⟨-, hcheck, -⟩ := reserve_reserved reserve_shipping
  have hinit := FlowKey.initOffer_of_length buildState_mem shipRoute_mem
    (hcheck (handover firstShift)) (by decide)
  obtain ⟨routed, queueItems, handoffs, -, -, -, hoffer⟩ :=
    HandoffStore.offerIn_of_room ⟨1, 2, 3⟩ (HandoffStore.initOffer_idem hinit) rfl
      (show (handover firstShift).sourceLease (FlowKey.offerDraft prepareShipping shipRoute) =
        some ⟨devLease "lease" "dev-1" "token" 0 none, builtItem, ⟨"p", "dev-1", "dev", .running⟩⟩
        by decide)
      (by decide) (by decide) (fun h hh => absurd hh (Table.notMem_empty h))
      (handover_room firstShift prepareShipping.source rfl rfl)
  set handoff := HandoffStore.newHandoff (FlowKey.offerDraft prepareShipping shipRoute)
    ⟨devLease "lease" "dev-1" "token" 0 none, builtItem, ⟨"p", "dev-1", "dev", .running⟩⟩ routed 2
  refine ⟨handoff, queueItems, handoffs, rfl, ?_⟩
  have hof : offerTransition prepareShipping shipRoute ⟨1, 2, 3⟩ (handover firstShift) =
      .ok (handoff, { handover firstShift with queueItems, handoffs }) :=
    Tx.mapError_of_ok ((Tx.bind_of_ok hinit).trans hoffer)
  have hnext : (FlowTask.offering prepareShipping shipRoute).next ⟨1, 2, 3⟩
      (handover firstShift) = ({ handover firstShift with queueItems, handoffs },
        some (.promoting prepareShipping handoff)) := by
    rw [FlowTask.next, hof]
    rfl
  rw [run_cons, step_reserve, run_cons, step_floor, run_cons, run_nil, FlowSystem.step_resume rfl,
    hnext]
  rfl

open FlowEngine in
/-- The handoff is accepted, and the operator picks the work up. -/
lemma shipping_fetched : ∃ s : FlowSystem, s.Reachable ∧
    (∃ answer, s.Returns (.pickup (fetch.request operator))
      (.pickup (fetch.request operator)) answer) ∧
    ∀ t ∈ s.db.transitions, t.key ≠ ("p", "fetch") := by
  obtain ⟨handoff, queueItems, handoffs, hproject, hoffered⟩ := shipping_offered
  obtain ⟨⟨run₀, hreserved⟩, -, -⟩ := reserve_reserved reserve_shipping
  obtain rfl : run₀ = shippingRun := List.mem_singleton.1 hreserved.mem
  set offered : Db := { handover firstShift with queueItems, handoffs }
  have hreserved' : Reserved prepareShipping shippingRun shipRoute offered :=
    ⟨hreserved.mem, hreserved.key, hreserved.pending, hreserved.state⟩
  have hunrecorded : ∀ t ∈ offered.transitions, t.key ≠ ("p", "ship") :=
    handover_unrecorded firstShift
  obtain ⟨p, transitions, hp, -, hpromote⟩ := promote_of_reserved hreserved' hunrecorded handoff
  obtain rfl : FlowEngine.pendingRoute prepareShipping shipRoute = p := Option.some.inj hp
  set status := FlowStatus.handoffPending (FlowEngine.pendingRoute prepareShipping shipRoute)
    handoff.handoffId
  -- the journal has the start and the preparation
  have hrows : ∀ t ∈ transitions, t.key ≠ ("p", "fetch") := by
    intro t ht
    rcases promote_ok hpromote with ⟨-, ⟨t', ht', hkey, -⟩, -⟩ | ⟨old, hpromotes⟩
    · exact absurd hkey (hunrecorded t' ht')
    · obtain ⟨_, -, -, transitions', hins, hdb⟩ := hpromotes.route
      obtain rfl : transitions = transitions' := congrArg Db.transitions hdb
      rcases (Table.mem_of_insert hins t).1 ht with hold | rfl
      · obtain rfl := List.mem_singleton.1 hold
        show ("p", "op") ≠ ("p", "fetch")
        decide
      · show ("p", "ship") ≠ ("p", "fetch")
        decide
  let accepted : Table Handoff Handoff.key :=
    .single { handoff with status := .accepted ⟨"ops-1", "lease-3", 4⟩ 5 }
  let pending : Db := { offered.updateRun shippingRun.key (promoted status) with transitions }
  let waiting : Db :=
    FlowSystem.replaceOthers { floor firstShift with handoffs := accepted } pending
  have hresume : (⟨offered, [.promoting prepareShipping handoff]⟩ : FlowSystem).step
      (.resume 0 ⟨4, 5, 6⟩) = ⟨pending, []⟩ := by
    have hnext : (FlowTask.promoting prepareShipping handoff).next ⟨4, 5, 6⟩ offered =
        (pending, none) := by
      rw [FlowTask.next, hpromote]
      rfl
    rw [FlowSystem.step_resume rfl, hnext]
    rfl
  have hwaiting : run FlowSystem.step ⟨builtShop, []⟩
      ([.prepare prepareShipping, .elsewhere (floor firstShift), .resume 0 ⟨1, 2, 3⟩] ++
        [.resume 0 ⟨4, 5, 6⟩, .elsewhere { floor firstShift with handoffs := accepted }]) =
      ⟨waiting, []⟩ := by
    rw [run_append, hoffered, run_cons, hresume]
    rfl
  have hrun : pendingRun handoff.handoffId ∈ waiting.flowRuns :=
    Table.mem_update_of_pos (p := fun k : FlowRun => k.key = shippingRun.key) hreserved'.mem rfl
  have hhandoff : ∃ h ∈ waiting.handoffs.lookup ("p", handoff.handoffId),
      h.status.isAccepted = true := by
    refine ⟨_, Table.lookup_eq_some.2 ⟨List.mem_singleton_self _, ?_⟩, rfl⟩
    exact Prod.ext hproject rfl
  obtain ⟨answer, db', hfetch⟩ := fetch_ok hrun List.mem_cons_self rfl hhandoff hrows
  exact ⟨⟨waiting, []⟩, hwaiting ▸ builtShop_reachable.run _, ⟨answer, .pickup hfetch⟩, hrows⟩

/-- A request that was answered is not always answered again. -/
theorem flow_requests_not_repeated :
    ¬ ∀ (s : FlowSystem) (e : FlowEvent) (q : FlowRequest) (flow : ValidFlow) (answer : FlowRun)
      (es : List FlowEvent) (flows : String → Option ValidFlow), s.Reachable →
        s.Returns e (q.call flow) answer → q.MayWrite →
          q.Repeated flows (run FlowSystem.step (s.step e) es).db := by
  intro hclaim
  obtain ⟨s, hs, ⟨answer, hreturns⟩, hnew⟩ := shipping_fetched
  have hrepeated := hclaim s _ (.pickup operator fetch) shippingFlow answer []
    (fun _ => some shippingFlow) hs hreturns operator_writes
  cases hreturns with
  | pickup hfetch =>
    rw [run_nil, show (s.step (.pickup (fetch.request operator))).db = _ from
      Tx.commit_of_ok hfetch] at hrepeated
    exact FlowRequest.pickup_not_repeated hfetch hnew _ hrepeated

end AgenticMesh
