import AgenticMesh.Base.Sha256
import AgenticMesh.Base.Text
import AgenticMesh.Base.Tx
import AgenticMesh.Schema

/-!
# The event journal and its outbox

A unit of work appends events to the journal, and with each event one outbox
row for every outbound topic.  `dispatch_one` locks a pending row, hands its
message to an adapter while the row is locked, and writes what the adapter
answered: a matching receipt ends the row, anything else postpones it.
-/

namespace AgenticMesh

/-! ## Drafts and rows -/

/-- `OutboundDraft`: a message that goes out with an event. -/
structure OutboundDraft where
  topic : String
  payload : Json
  /-- `__post_init__` normalizes the topic. -/
  topic_required : required topic = some topic

/-- `EventDraft`: an event before it is stored. -/
structure EventDraft where
  projectId : String
  workItemId : String
  actorId : String
  correlationId : String
  aggregateType : String
  aggregateId : String
  eventType : String
  payload : Json
  causationId : Option String
  /-- `__post_init__` normalizes the texts. -/
  texts_required : ∀ t ∈ [projectId, workItemId, actorId, correlationId, aggregateType,
    aggregateId, eventType] ++ causationId.toList, required t = some t

/-- A row of `events`. -/
structure StoredEvent where
  eventId : ℕ
  projectId : String
  workItemId : String
  actorId : String
  correlationId : String
  causationId : Option String
  aggregateType : String
  aggregateId : String
  eventType : String
  payload : Json
  occurredAt : Time
deriving DecidableEq

def StoredEvent.key (e : StoredEvent) : ℕ := e.eventId

/-- A row of `outbox`. -/
structure OutboxRow where
  outboxId : ℕ
  projectId : String
  eventId : ℕ
  topic : String
  payload : Json
  idempotencyKey : String
  availableAt : Time
  dispatchedAt : Option Time
  attemptCount : ℕ
  lastError : Option String
deriving DecidableEq

def OutboxRow.key (r : OutboxRow) : ℕ := r.outboxId

/-- A claimed row of the outbox, as it is delivered. -/
structure OutboxMessage where
  outboxId : ℕ
  eventId : ℕ
  projectId : String
  workItemId : String
  actorId : String
  correlationId : String
  topic : String
  payload : Json
  idempotencyKey : String
  attempt : ℕ
deriving DecidableEq

/-- `DeliveryReceipt`: what a connector answers. -/
structure DeliveryReceipt where
  idempotencyKey : String
  /-- `__post_init__` normalizes the key. -/
  key_required : required idempotencyKey = some idempotencyKey
deriving DecidableEq

/-- What `adapter.deliver` does. -/
inductive DeliveryAnswer where
  | receipt (r : DeliveryReceipt)
  /-- It returns something that is no receipt. -/
  | other
  | raised (exception : String)
deriving DecidableEq

/-- The journal and the outbox. -/
structure EventDb where
  /-- The work items that events may refer to. -/
  workItems : Table WorkItem WorkItem.key := ∅
  events : Table StoredEvent StoredEvent.key := ∅
  outbox : Table OutboxRow OutboxRow.key := ∅

/-- The exceptions of the event store. -/
inductive EventError where
  | value (message : String)
  /-- `event transaction failed`. -/
  | database
deriving DecidableEq

/-! ## Appending -/

/-- The idempotency key of a message. -/
def idempotencyKey (projectId : String) (eventId : ℕ) (topic : String) : String :=
  projectId ++ ":" ++ decimal eventId ++ ":" ++ digestOf 16 [topic]

namespace EventDb

/-- `INSERT INTO events`: the work item exists and the identifier is new. -/
def insertEvent (e : StoredEvent) (db : EventDb) : Option EventDb :=
  if (db.workItems.lookup (e.projectId, e.workItemId)).isSome then
    (db.events.insert e).map fun events => { db with events }
  else none

/-- `INSERT INTO outbox`: the idempotency key is unique in its project. -/
def insertOutbox (r : OutboxRow) (db : EventDb) : Option EventDb :=
  if ∃ q ∈ db.outbox.rows, q.projectId = r.projectId ∧ q.idempotencyKey = r.idempotencyKey then
    none
  else if ∃ e ∈ db.events.rows, e.projectId = r.projectId ∧ e.eventId = r.eventId then
    (db.outbox.insert r).map fun outbox => { db with outbox }
  else none

end EventDb

namespace EventUnitOfWork

/-- One outbound message of an event, with the identifier that its row draws. -/
def appendOutbound (event : EventDraft) (eventId : ℕ) (now : Time) (m : OutboundDraft × ℕ) :
    Tx EventDb EventError Unit :=
  Tx.attempt
    (EventDb.insertOutbox
      { outboxId := m.2, projectId := event.projectId, eventId, topic := m.1.topic,
        payload := m.1.payload, idempotencyKey := idempotencyKey event.projectId eventId m.1.topic,
        availableAt := now, dispatchedAt := none, attemptCount := 0, lastError := none })
    .database

def appendAll (event : EventDraft) (eventId : ℕ) (now : Time) :
    List (OutboundDraft × ℕ) → Tx EventDb EventError Unit
  | [] => pure ()
  | m :: ms => do
    appendOutbound event eventId now m
    appendAll event eventId now ms

/-- `append`, with the identifiers that its rows draw. -/
def append (event : EventDraft) (outbound : List (OutboundDraft × ℕ)) (eventId : ℕ) (now : Time) :
    Tx EventDb EventError StoredEvent := do
  Tx.require ((outbound.map (·.1.topic)).Nodup)
    (.value "outbound topics must be unique within one event")
  let stored : StoredEvent :=
    { eventId, projectId := event.projectId, workItemId := event.workItemId,
      actorId := event.actorId, correlationId := event.correlationId,
      causationId := event.causationId, aggregateType := event.aggregateType,
      aggregateId := event.aggregateId, eventType := event.eventType, payload := event.payload,
      occurredAt := now }
  Tx.attempt (EventDb.insertEvent stored) .database
  appendAll event eventId now outbound
  return stored

end EventUnitOfWork

/-! ## Dispatching -/

/-- The receipt of a delivery matches its message. -/
def DeliveryAnswer.Matches (m : OutboxMessage) : DeliveryAnswer → Prop
  | receipt r => r.idempotencyKey = m.idempotencyKey
  | _ => False

instance (m : OutboxMessage) : DecidablePred (DeliveryAnswer.Matches m)
  | .receipt r => inferInstanceAs (Decidable (r.idempotencyKey = m.idempotencyKey))
  | .other => isFalse id
  | .raised _ => isFalse id

/-- The error that a delivery without a matching receipt is recorded with. -/
def DeliveryAnswer.error : DeliveryAnswer → String
  | raised exception => "delivery failed: " ++ exception
  | _ => "delivery failed: ValueError"

/-- The message of an outbox row and its event. -/
def OutboxRow.message (r : OutboxRow) (e : StoredEvent) : OutboxMessage where
  outboxId := r.outboxId
  eventId := r.eventId
  projectId := r.projectId
  workItemId := e.workItemId
  actorId := e.actorId
  correlationId := e.correlationId
  topic := r.topic
  payload := r.payload
  idempotencyKey := r.idempotencyKey
  attempt := r.attemptCount + 1

namespace OutboxDispatcher

/-- The rows that a dispatcher may take at an instant. -/
def Pending (project : Option String) (now : Time) (r : OutboxRow) : Prop :=
  r.dispatchedAt = none ∧ r.availableAt ≤ now ∧ ∀ p ∈ project, r.projectId = p

instance (project : Option String) (now : Time) : DecidablePred (Pending project now) :=
  fun _ => inferInstanceAs (Decidable (_ ∧ _ ∧ _))

/-- The message of a row that is pending. -/
def select (project : Option String) (outboxId : ℕ) (now : Time) (db : EventDb) :
    Option OutboxMessage := do
  let r ← db.outbox.lookup outboxId
  let e ← db.events.lookup r.eventId
  if Pending project now r ∧ e.projectId = r.projectId then some (r.message e) else none

/-- `power(2, LEAST(attempt_count, 8))` seconds. -/
def backoff (attemptCount : ℕ) : Time := seconds (2 ^ min attemptCount 8 : ℕ)

lemma backoff_pos (attemptCount : ℕ) : 0 < backoff attemptCount :=
  Nat.mul_pos (Nat.two_pow_pos _) (by omega)

/-- The row of a message after its delivery: the attempt is counted, and the row is dispatched or
postponed. -/
def recorded (m : OutboxMessage) (answer : DeliveryAnswer) (now : Time) (r : OutboxRow) :
    OutboxRow :=
  if answer.Matches m then
    { r with
      attemptCount := r.attemptCount + 1
      lastError := none
      dispatchedAt := some now }
  else
    { r with
      attemptCount := r.attemptCount + 1
      lastError := some answer.error
      availableAt := now + backoff (r.attemptCount + 1) }

/-- A delivery writes what it found out about a message, and not the message. -/
lemma recorded_frame (m : OutboxMessage) (answer : DeliveryAnswer) (now : Time) (r : OutboxRow) :
    let r' := recorded m answer now r
    r'.outboxId = r.outboxId ∧ r'.projectId = r.projectId ∧ r'.eventId = r.eventId ∧
      r'.topic = r.topic ∧ r'.payload = r.payload ∧ r'.idempotencyKey = r.idempotencyKey := by
  intro r'
  by_cases h : answer.Matches m <;> simp [r', recorded, h]

/-- The writes of `dispatch_one` on the row of a message. -/
def record (m : OutboxMessage) (answer : DeliveryAnswer) (now : Time) (db : EventDb) : EventDb :=
  { db with
    outbox := db.outbox.update (·.outboxId = m.outboxId)
      { set := recorded m answer now
        key_set := fun r => (recorded_frame m answer now r).1 } }

end OutboxDispatcher

end AgenticMesh
