import AgenticMesh.Queue.LeaseDiscipline
import AgenticMesh.Store.ThreadAffinity

/-!
# One pass of a role service

`RoleService.run_once` claims a queue item, checks what the item is about, takes
the provider thread of the conversation, runs a turn on it and completes or
releases the item.  Every database transaction on the way is one action of an
activation; between two actions the other activations, and everybody else,
write the database.  What is not in the database is an argument of the action:
the rendered prompt, the workspace, the provider and the outcome of the turn.
-/

namespace AgenticMesh

/-- The configuration of a role service that its queries use. -/
structure RoleServiceConfig where
  projectId : String
  roleId : String
  instanceId : String
  leaseSeconds : ℤ
deriving DecidableEq

/-- The row of `_work_context`. -/
structure WorkContext where
  roleReference : String
  flowReference : String
  promptDigest : String
  stateId : String
deriving DecidableEq

/-- How a check of `run_once` fails: with a reason of its own, or with any other exception. -/
inductive TurnFailure where
  | service (message : String)
  | exception
deriving DecidableEq

/-- The answer of the workspace resolver. -/
inductive WorkspaceAnswer where
  | ready
  | unavailable
  | raised
deriving DecidableEq

/-- The status of a pass. -/
inductive ResultStatus where
  | empty
  | completed
  | released
deriving DecidableEq

/-- What `run_once` returns. -/
structure RoleServiceResult where
  status : ResultStatus
  queueItemId : Option String
  workItemId : Option String
  reason : Option String
deriving DecidableEq

/-- The turn that an activation is about to run. -/
structure PreparedTurn where
  key : ThreadAffinityKey
  promptDigest : String
  /-- The progress cursor before the turn. -/
  before : ℕ
deriving DecidableEq

/-- What an activation of `run_once` does next. -/
inductive Phase where
  | claimed
  | checked
  | prepared (turn : PreparedTurn)
  /-- `release_superseded_operation` has returned. -/
  | superseded (turn : PreparedTurn)
  /-- The thread is claimed and has to be resumed. -/
  | resuming (turn : PreparedTurn) (operation : ThreadOperationClaim)
      (providerId threadId : String)
  | running (turn : PreparedTurn) (operation : ThreadOperationClaim)
  | completing (reason : String)
  | releasing (reason : String)
deriving DecidableEq

/-- A call of `run_once` that claimed a queue item and did not return yet. -/
structure Activation where
  config : RoleServiceConfig
  claim : LeaseClaim
  phase : Phase
  /-- `heartbeat.failure_reason`. -/
  heartbeatFailure : Option String
deriving DecidableEq

/-- The turn that an activation prepared and did not clear the thread for yet. -/
def Phase.prepared? : Phase → Option PreparedTurn
  | prepared turn => some turn
  | _ => none

/-- An activation is known by its lease. -/
def Activation.key (a : Activation) : String × String := (a.claim.projectId, a.claim.leaseId)

/-- The operation that an activation runs on the provider thread. -/
def Phase.operation? : Phase → Option ThreadOperationClaim
  | resuming _ o _ _ => some o
  | running _ o => some o
  | _ => none

def Activation.operation? (a : Activation) : Option ThreadOperationClaim := a.phase.operation?

/-- The next action of an activation, with the answers of everything outside the database. -/
inductive Action where
  | checkRetry
  | prepare (prompt : Option String) (workspace : WorkspaceAnswer) (sensitive : Bool)
  | supersede
  | bind (providerId : String) (createThread : Option String) (operationId : String) (now : Time)
  | resume
  /-- The turn ends: `completed` is the result of `_run_turn`, or `none` when it raised. -/
  | endTurn (completed : Option Bool)
  | complete (lockedAt now : Time)
  | release (lockedAt now : Time)
  | heartbeat (lockedAt now : Time)
  /-- The provider turn times out. -/
  | timeout
  /-- An exception is raised before the thread is claimed. -/
  | fault
deriving DecidableEq

namespace Action

/-- The clock readings of an action. -/
def readings : Action → List Time
  | bind _ _ _ now => [now]
  | complete lockedAt now => [lockedAt, now]
  | release lockedAt now => [lockedAt, now]
  | heartbeat lockedAt now => [lockedAt, now]
  | _ => []

/-- The operation identifier that an action draws. -/
def draws : Action → List String
  | bind _ _ operationId _ => [operationId]
  | _ => []

end Action

/-- What becomes of an activation. -/
inductive Next where
  | goesOn (a : Activation)
  | returned (result : RoleServiceResult)
deriving DecidableEq

namespace RoleService

/-- The stage that the reliability metadata of a payload names. -/
def stageOf : String → Option Stage
  | "technical" => some .technical
  | "pm_correction" => some .pmCorrection
  | "recovery" => some .recovery
  | _ => none

/-- The largest attempt number of a stage. -/
def stageLimit : Stage → ℤ
  | .recovery => 1
  | _ => 3

/-- The attempt that the reliability metadata of a payload names: its incident, stage and
number. -/
structure RetryRef where
  incidentId : String
  stage : Stage
  attemptNumber : ℕ
deriving DecidableEq

def invalidMetadata : TurnFailure := .service "queue reliability metadata is invalid"

/-- The checks of `_retry_attempt_already_recorded` before its query.  `none` means that the
item is not a first attempt of a retry. -/
def retryRef (payload : Json) : Except TurnFailure (Option RetryRef) :=
  match payload.get? "reliability" with
  | none => .ok none
  | some .null => .ok none
  | some (.obj fields) =>
    let reliability := Json.obj fields
    match reliability.get? "resumed_after_recovery" with
    | some (.bool true) => .ok none
    | some (.bool false) =>
      match reliability.get? "incident_id", reliability.get? "stage",
        reliability.get? "attempt_number" with
      | some (.str incidentId), stage, attemptNumber =>
        if isIdentifier incidentId then
          match stage, attemptNumber with
          -- a list or a mapping is not hashable
          | some (.arr _), _ => .error .exception
          | some (.obj _), _ => .error .exception
          | some (.str name), some (.int n) =>
            match stageOf name with
            | some stage =>
              if 1 ≤ n ∧ n ≤ stageLimit stage then .ok (some ⟨incidentId, stage, n.toNat⟩)
              else .error invalidMetadata
            | none => .error invalidMetadata
          | _, _ => .error invalidMetadata
        else .error invalidMetadata
      | _, _, _ => .error invalidMetadata
    | _ => .error invalidMetadata
  | some _ => .error invalidMetadata

/-- The attempt was recorded for this work item. -/
def AttemptRecorded (c : RoleServiceConfig) (workItemId : String) (r : RetryRef) (db : Db) : Prop :=
  db.attempts.Any fun a => a.projectId = c.projectId ∧ a.incidentId = r.incidentId ∧
    a.stage = r.stage ∧ a.stageAttempt = r.attemptNumber ∧
    db.incidents.Any fun i => i.projectId = a.projectId ∧ i.incidentId = a.incidentId ∧
      i.workItemId = workItemId

instance (c : RoleServiceConfig) (workItemId : String) (r : RetryRef) (db : Db) :
    Decidable (AttemptRecorded c workItemId r db) :=
  inferInstanceAs (Decidable (∃ _ ∈ _, _))

/-- `_retry_attempt_already_recorded`. -/
def retryAttemptAlreadyRecorded (c : RoleServiceConfig) (workItemId : String) (payload : Json)
    (db : Db) : Except TurnFailure Bool :=
  match retryRef payload with
  | .error failure => .error failure
  | .ok none => .ok false
  | .ok (some r) => .ok (decide (AttemptRecorded c workItemId r db))

/-- `_work_context`. -/
def workContext (c : RoleServiceConfig) (workItemId : String) (db : Db) : Option WorkContext := do
  let binding ← db.bindings.lookup (c.projectId, c.roleId)
  let run ← db.flowRuns.lookup (c.projectId, workItemId)
  let work ← db.workItems.lookup (c.projectId, workItemId)
  if work.status = .completed ∨ work.status = .error then none
  else
    some
      { roleReference := binding.roleReference, flowReference := binding.flowReference,
        promptDigest := binding.promptConfigurationDigest, stateId := run.currentState }

/-- `_conversation_id`. -/
def conversationId (payload : Json) : Option String :=
  match (payload.get? "conversation_id").getD (.str "work") with
  | .str value => if isIdentifier value then some value else none
  | _ => none

/-- `_progress_cursor`. -/
def progressCursor (c : RoleServiceConfig) (workItemId : String) (db : Db) : ℕ :=
  (db.progress.select fun r => r.projectId = c.projectId ∧ r.workItemId = workItemId ∧
    r.roleInstanceId = some c.instanceId).foldl (fun n r => max n r.progressId) 0

/-- The credentials of the claim. -/
def credentials (a : Activation) : LeaseCredentials :=
  ⟨a.claim.projectId, a.claim.leaseId, a.claim.leaseToken⟩

/-- The reason of a failed check. -/
def failureReason : TurnFailure → String
  | .service message => message
  | .exception => "turn-failed"

def result (a : Activation) (status : ResultStatus) (reason : String) : RoleServiceResult where
  status
  queueItemId := some a.claim.queueItem.queueItemId
  workItemId := some a.claim.queueItem.workItemId
  reason := some reason

/-- The phase after the retry check. -/
def checkRetry (a : Activation) (db : Db) : Phase :=
  match retryAttemptAlreadyRecorded a.config a.claim.queueItem.workItemId
    a.claim.queueItem.payload db with
  | .error failure => .releasing (failureReason failure)
  | .ok true => .completing "reliability-attempt-already-recorded"
  | .ok false => .checked

/-- The phase after the context, the prompt, the workspace and the payload were checked. -/
def prepare (a : Activation) (prompt : Option String) (workspace : WorkspaceAnswer)
    (sensitive : Bool) (db : Db) : Phase :=
  let workItemId := a.claim.queueItem.workItemId
  match workContext a.config workItemId db, prompt with
  | none, _ => .releasing "turn-failed"
  | some _, none => .releasing "turn-failed"
  | some context, some digest =>
    if digest ≠ context.promptDigest then .releasing "prompt-digest-mismatch"
    else
      match workspace with
      | .raised => .releasing "turn-failed"
      | .unavailable => .releasing "workspace-unavailable"
      | .ready =>
        if sensitive then .releasing "turn-failed"
        else
          match conversationId a.claim.queueItem.payload with
          | none => .releasing "turn-failed"
          | some conversation =>
            .prepared
              { key := ⟨a.config.projectId, workItemId, a.config.roleId, conversation⟩
                promptDigest := digest, before := progressCursor a.config workItemId db }

/-- The phase after the turn, once the operation was released. -/
def afterTurn (a : Activation) (turn : PreparedTurn) (completed : Option Bool) (db : Db) : Phase :=
  match completed with
  | none => .releasing "turn-failed"
  | some completed =>
    match a.heartbeatFailure with
    | some reason => .releasing reason
    | none =>
      if ¬ completed then .releasing "provider-not-completed"
      else if progressCursor a.config a.claim.queueItem.workItemId db ≤ turn.before then
        .releasing "no-durable-effect"
      else .completing "durable-effect-recorded"

/-- The turn of an activation ends and its operation is released. -/
def endTurn (a : Activation) (turn : PreparedTurn) (o : ThreadOperationClaim)
    (completed : Option Bool) (db : Db) : Db × Phase :=
  match ThreadAffinityStore.releaseOperation o db with
  | .ok (_, db') => (db', afterTurn a turn completed db')
  | .error _ => (db, .releasing "turn-failed")

/-- The thread of a conversation is bound and claimed. -/
def bind (a : Activation) (turn : PreparedTurn) (providerId : String)
    (createThread : Option String) (operationId : String) (now : Time) (db : Db) : Db × Phase :=
  match ThreadAffinityStore.bindAndClaim
    ⟨turn.key, a.config.instanceId, providerId, turn.promptDigest, createThread, operationId⟩
    now db with
  | .error _ => (db, .releasing "turn-failed")
  | .ok ((created, o), db') =>
    if created then (db', .running turn o)
    else
      match (db'.affinities.lookup turn.key.row).bind fun b => b.state.thread? with
      | some (_, threadId) => (db', .resuming turn o providerId threadId)
      | none => (db', .running turn o)

/-- An action of an activation. -/
def act (a : Activation) (x : Action) (db : Db) : Db × Next :=
  let goTo (phase : Phase) : Next := .goesOn { a with phase }
  match x, a.phase with
  | .checkRetry, .claimed => (db, goTo (checkRetry a db))
  | .prepare prompt workspace sensitive, .checked =>
    (db, goTo (prepare a prompt workspace sensitive db))
  | .supersede, .prepared turn =>
    match ThreadAffinityStore.releaseSupersededOperation turn.key a.config.instanceId
      turn.promptDigest a.claim.acquiredAt db with
    | .ok (_, db') => (db', goTo (.superseded turn))
    | .error _ => (db, goTo (.releasing "turn-failed"))
  | .bind providerId createThread operationId now, .superseded turn =>
    let (db', phase) := bind a turn providerId createThread operationId now db
    (db', goTo phase)
  | .resume, .resuming turn o providerId threadId =>
    match ThreadAffinityStore.markResumed turn.key a.config.instanceId providerId threadId
      turn.promptDigest db with
    | .ok (_, db') => (db', goTo (.running turn o))
    | .error _ =>
      let (db', phase) := endTurn a turn o none db
      (db', goTo phase)
  | .endTurn completed, .running turn o =>
    let (db', phase) := endTurn a turn o completed db
    (db', goTo phase)
  | .endTurn none, .resuming turn o _ _ =>
    let (db', phase) := endTurn a turn o none db
    (db', goTo phase)
  | .complete lockedAt now, .completing reason =>
    match RoleQueueStore.complete (credentials a) lockedAt now db with
    | .ok (_, db') => (db', .returned (result a .completed reason))
    | .error _ => (db, goTo (.releasing "turn-failed"))
  | .release lockedAt now, .releasing reason =>
    ((RoleQueueStore.release (credentials a) lockedAt now).commit db,
      .returned (result a .released reason))
  | .heartbeat lockedAt now, _ =>
    if a.heartbeatFailure.isSome then (db, .goesOn a)
    else
      match RoleQueueStore.heartbeat (credentials a) a.config.leaseSeconds lockedAt now db with
      | .ok (_, db') => (db', .goesOn a)
      | .error _ => (db, .goesOn { a with heartbeatFailure := some "lease-heartbeat-failed" })
  | .timeout, _ => (db, .goesOn { a with heartbeatFailure := some "provider-turn-timeout" })
  | .fault, .running .. => (db, .goesOn a)
  | .fault, .resuming .. => (db, .goesOn a)
  | .fault, .releasing _ => (db, .goesOn a)
  | .fault, _ => (db, goTo (.releasing "turn-failed"))
  | _, _ => (db, .goesOn a)

/-! ## What an action does -/

/-- The activation goes on with the claim that it has, and with the operation that it had or
without one. -/
def Keeps (a : Activation) (next : Next) : Prop :=
  ∀ a', next = .goesOn a' → a'.claim = a.claim ∧
    (a'.operation? = none ∨ a'.operation? = a.operation?)

/-- What an action does to the database and to the operation of its activation. -/
inductive Effect (a : Activation) (x : Action) (db : Db) : Db → Next → Prop
  | read {next : Next} (hnext : Keeps a next) : Effect a x db db next
  | queue (c : QueueCall) (hreadings : c.readings = x.readings) {t : Time}
      (hpresented : c.presented = some (credentials a, t)) {next : Next}
      (hnext : Keeps a next) : Effect a x db (c.apply db) next
  | supersede (turn : PreparedTurn) (hphase : a.phase = .prepared turn) (hx : x = .supersede)
      {released : Bool} {db' : Db}
      (hok : ThreadAffinityStore.releaseSupersededOperation turn.key a.config.instanceId
        turn.promptDigest a.claim.acquiredAt db = .ok (released, db')) :
      Effect a x db db' (.goesOn { a with phase := .superseded turn })
  | bind {c : BindRequest} {now : Time} (hx : c.operationId ∈ x.draws) {created : Bool}
      {o : ThreadOperationClaim} {db' : Db}
      (hok : ThreadAffinityStore.bindAndClaim c now db = .ok ((created, o), db'))
      {phase : Phase} (hphase : phase.operation? = some o) :
      Effect a x db db' (.goesOn { a with phase })
  | resume (k : ThreadAffinityKey) {i p t d : String} {db' : Db}
      (hok : ThreadAffinityStore.markResumed k i p t d db = .ok ((), db'))
      {phase : Phase} (hphase : phase.operation? = a.operation?) :
      Effect a x db db' (.goesOn { a with phase })
  | finish {o : ThreadOperationClaim} (ho : a.operation? = some o) {db' : Db}
      (hok : ThreadAffinityStore.releaseOperation o db = .ok ((), db'))
      {phase : Phase} (hphase : phase.operation? = none) :
      Effect a x db db' (.goesOn { a with phase })

/-- An activation keeps its claim. -/
lemma Effect.claim_eq {a : Activation} {x : Action} {db db' : Db} {next : Next}
    (h : Effect a x db db' next) {a' : Activation} (hnext : next = .goesOn a') :
    a'.claim = a.claim := by
  cases h with
  | read h => exact (h a' hnext).1
  | queue c hreadings hpresented h => exact (h a' hnext).1
  | supersede turn hphase hx hok =>
    obtain rfl := Next.goesOn.inj hnext
    rfl
  | bind hx hok hphase =>
    obtain rfl := Next.goesOn.inj hnext
    rfl
  | resume k hok hphase =>
    obtain rfl := Next.goesOn.inj hnext
    rfl
  | finish ho hok hphase =>
    obtain rfl := Next.goesOn.inj hnext
    rfl

lemma checkRetry_operation (a : Activation) (db : Db) : (checkRetry a db).operation? = none := by
  unfold checkRetry
  split <;> rfl

lemma prepare_operation (a : Activation) (prompt : Option String) (workspace : WorkspaceAnswer)
    (sensitive : Bool) (db : Db) : (prepare a prompt workspace sensitive db).operation? = none := by
  unfold prepare
  dsimp only
  split
  · rfl
  · rfl
  · split
    · rfl
    · split
      · rfl
      · rfl
      · split
        · rfl
        · split <;> rfl

lemma afterTurn_operation (a : Activation) (turn : PreparedTurn) (completed : Option Bool)
    (db : Db) : (afterTurn a turn completed db).operation? = none := by
  unfold afterTurn
  split
  · rfl
  · split
    · rfl
    · split
      · rfl
      · split <;> rfl

/-- The end of a turn releases the operation, or leaves a database in which it is not current. -/
lemma effect_endTurn {a : Activation} {x : Action} {db : Db} {turn : PreparedTurn}
    {o : ThreadOperationClaim} (ho : a.operation? = some o) (completed : Option Bool) :
    Effect a x db (endTurn a turn o completed db).1
      (.goesOn { a with phase := (endTurn a turn o completed db).2 }) := by
  unfold endTurn
  cases hok : ThreadAffinityStore.releaseOperation o db with
  | ok r =>
    obtain ⟨⟨⟩, db'⟩ := r
    exact .finish ho hok (afterTurn_operation a turn completed db')
  | error e => exact .read fun a' h => by cases h; exact ⟨rfl, Or.inl rfl⟩

lemma effect_bind {a : Activation} {db : Db} {turn : PreparedTurn}
    (providerId : String) (createThread : Option String) (operationId : String) (now : Time) :
    Effect a (.bind providerId createThread operationId now) db
      (bind a turn providerId createThread operationId now db).1
      (.goesOn { a with phase := (bind a turn providerId createThread operationId now db).2 }) := by
  unfold bind
  cases hok : ThreadAffinityStore.bindAndClaim
    ⟨turn.key, a.config.instanceId, providerId, turn.promptDigest, createThread, operationId⟩
    now db with
  | error e => exact .read fun a' h => by cases h; exact ⟨rfl, Or.inl rfl⟩
  | ok r =>
    obtain ⟨⟨created, o⟩, db'⟩ := r
    have hdraws : operationId ∈ (Action.bind providerId createThread operationId now).draws :=
      List.mem_singleton.2 rfl
    dsimp only
    split
    · exact .bind hdraws hok rfl
    · split
      · exact .bind hdraws hok rfl
      · exact .bind hdraws hok rfl

/-- **Actions.** Every action reads the database, calls the queue, or makes one call of the
thread affinity store. -/
theorem act_effect (a : Activation) (x : Action) (db : Db) :
    Effect a x db (act a x db).1 (act a x db).2 := by
  have hsame : Keeps a (.goesOn a) := fun a' h => by cases h; exact ⟨rfl, Or.inr rfl⟩
  have hrelease : ∀ reason : String, Keeps a (.goesOn { a with phase := .releasing reason }) :=
    fun reason a' h => by cases h; exact ⟨rfl, Or.inl rfl⟩
  unfold act
  dsimp only
  split
  · exact .read fun a' h => by cases h; exact ⟨rfl, Or.inl (checkRetry_operation a db)⟩
  · exact .read fun a' h => by cases h; exact ⟨rfl, Or.inl (prepare_operation a _ _ _ db)⟩
  · next turn hphase =>
    split
    · next hok => exact .supersede turn hphase rfl hok
    · exact .read (hrelease _)
  · exact effect_bind _ _ _ _
  · next turn o providerId threadId hphase =>
    have ho : a.operation? = some o := by rw [Activation.operation?, hphase]; rfl
    split
    · next hok => exact .resume _ hok ho.symm
    · exact effect_endTurn ho none
  · next turn o hphase =>
    exact effect_endTurn (by rw [Activation.operation?, hphase]; rfl) _
  · next turn o p t hphase =>
    exact effect_endTurn (by rw [Activation.operation?, hphase]; rfl) none
  · next lockedAt now reason hphase =>
    split
    · next item db' hok =>
      have hcall : db' = (QueueCall.complete (credentials a) lockedAt now).apply db :=
        (Tx.commit_of_ok hok).symm
      dsimp only
      rw [hcall]
      exact .queue (.complete (credentials a) lockedAt now) rfl rfl fun a' h => by cases h
    · exact .read (hrelease _)
  · next lockedAt now reason hphase =>
    dsimp only
    exact .queue (.release (credentials a) lockedAt now) rfl rfl fun a' h => by cases h
  · next lockedAt now =>
    split
    · exact .read hsame
    · split
      · next t db' hok =>
        have hcall : db' = (QueueCall.heartbeat (credentials a) a.config.leaseSeconds lockedAt
            now).apply db := (Tx.commit_of_ok hok).symm
        dsimp only
        rw [hcall]
        exact .queue (.heartbeat (credentials a) a.config.leaseSeconds lockedAt now) rfl rfl hsame
      · exact .read fun a' h => by cases h; exact ⟨rfl, Or.inr rfl⟩
  · exact .read fun a' h => by cases h; exact ⟨rfl, Or.inr rfl⟩
  · exact .read hsame
  · exact .read hsame
  · exact .read hsame
  · exact .read (hrelease _)
  · exact .read hsame

/-- `release_superseded_operation` is called once the turn is prepared. -/
lemma act_supersede (a : Activation) (db : Db) :
    (act a .supersede db).1 = db ∨ ∃ turn released, a.phase = .prepared turn ∧
      ThreadAffinityStore.releaseSupersededOperation turn.key a.config.instanceId
        turn.promptDigest a.claim.acquiredAt db = .ok (released, (act a .supersede db).1) := by
  obtain ⟨config, claim, phase, failure⟩ := a
  cases phase with
  | prepared turn =>
    unfold act
    dsimp only
    cases hok : ThreadAffinityStore.releaseSupersededOperation turn.key config.instanceId
        turn.promptDigest claim.acquiredAt db with
    | ok r => exact Or.inr ⟨turn, r.1, rfl, hok⟩
    | error e => exact Or.inl rfl
  | _ => exact Or.inl rfl

/-- The claim of `run_once`. -/
def claimRequest (c : RoleServiceConfig) (leaseHex leaseToken : String) : ClaimRequest where
  projectId := c.projectId
  queueId := c.roleId
  ownerInstanceId := c.instanceId
  leaseSeconds := c.leaseSeconds
  leaseHex
  leaseToken

end RoleService

end AgenticMesh
