import AgenticMesh.Base.Run
import AgenticMesh.Events.Outbox

/-!
# Delivering the outbox

A run interleaves units of work with any number of calls of `dispatch_one`.  A
call holds the lock of one row from its selection to its commit; in between the
adapter is called, so that a process which dies after the delivery leaves a
delivered message behind whose row is still pending.  What a run may do to the
outbox is little: it appends rows, and it writes the four delivery columns of a
row that a call holds.
-/

namespace AgenticMesh

/-- A call of `append` in a unit of work, with the identifiers that it draws and the clock that it
reads. -/
structure AppendCall where
  event : EventDraft
  outbound : List (OutboundDraft × ℕ)
  eventId : ℕ
  now : Time

namespace AppendCall

/-- The journal record of a call. -/
def stored (c : AppendCall) : StoredEvent where
  eventId := c.eventId
  projectId := c.event.projectId
  workItemId := c.event.workItemId
  actorId := c.event.actorId
  correlationId := c.event.correlationId
  causationId := c.event.causationId
  aggregateType := c.event.aggregateType
  aggregateId := c.event.aggregateId
  eventType := c.event.eventType
  payload := c.event.payload
  occurredAt := c.now

/-- The outbox row of one of its messages. -/
def row (c : AppendCall) (m : OutboundDraft × ℕ) : OutboxRow where
  outboxId := m.2
  projectId := c.event.projectId
  eventId := c.eventId
  topic := m.1.topic
  payload := m.1.payload
  idempotencyKey := idempotencyKey c.event.projectId c.eventId m.1.topic
  availableAt := c.now
  dispatchedAt := none
  attemptCount := 0
  lastError := none

/-- The outbox rows of a call. -/
def rows (c : AppendCall) : List OutboxRow := c.outbound.map c.row

end AppendCall

/-- The calls of a unit of work. -/
def EventUnitOfWork.appendEach : List AppendCall → Tx EventDb EventError Unit
  | [] => pure ()
  | c :: cs => do
    let _ ← append c.event c.outbound c.eventId c.now
    appendEach cs

/-! ## The system -/

/-- A call of `dispatch_one` that holds the lock of a row. -/
structure Dispatch where
  call : String
  message : OutboxMessage
  /-- What the adapter answered. -/
  answer : Option DeliveryAnswer
deriving DecidableEq

def Dispatch.key (d : Dispatch) : String := d.call

/-- The tables, the calls in progress, and what was appended and delivered. -/
structure OutboxSystem where
  db : EventDb
  now : Time
  dispatches : Table Dispatch Dispatch.key
  /-- The calls of `append` that were committed. -/
  appended : List AppendCall
  /-- The calls of the adapters. -/
  deliveries : List (OutboxMessage × DeliveryAnswer)

/-- A commit, a step of a call of `dispatch_one`, or what happens elsewhere. -/
inductive OutboxEvent where
  /-- A unit of work ends. -/
  | commit (calls : List AppendCall)
  /-- A call of `dispatch_one` locks a row. -/
  | begin (call : String) (project : Option String) (outboxId : ℕ)
  | deliver (call : String) (answer : DeliveryAnswer)
  /-- It writes the row and commits. -/
  | finish (call : String)
  /-- Its process or its connection dies, and its transaction is rolled back. -/
  | crash (call : String)
  | elsewhere (workItems : Table WorkItem WorkItem.key) (now : Time)

namespace OutboxSystem

open EventUnitOfWork OutboxDispatcher

/-- The row is not locked. -/
def Unlocked (s : OutboxSystem) (outboxId : ℕ) : Prop :=
  ∀ d ∈ s.dispatches.rows, d.message.outboxId ≠ outboxId

instance (s : OutboxSystem) (outboxId : ℕ) : Decidable (s.Unlocked outboxId) :=
  inferInstanceAs (Decidable (∀ _ ∈ _, _))

def begin (s : OutboxSystem) (call : String) (project : Option String) (outboxId : ℕ) :
    Option OutboxSystem := do
  let message ← select project outboxId s.now s.db
  if s.Unlocked outboxId then
    let dispatches ← s.dispatches.insert { call, message, answer := none }
    some { s with dispatches }
  else none

def deliver (s : OutboxSystem) (call : String) (answer : DeliveryAnswer) : Option OutboxSystem := do
  let d ← s.dispatches.lookup call
  if d.answer = none then
    some { s with
      dispatches := s.dispatches.update (·.call = call)
        { set := fun d => { d with answer := some answer } }
      deliveries := s.deliveries ++ [(d.message, answer)] }
  else none

def finish (s : OutboxSystem) (call : String) : Option OutboxSystem := do
  let d ← s.dispatches.lookup call
  let answer ← d.answer
  some { s with
    db := record d.message answer s.now s.db
    dispatches := s.dispatches.delete (·.call = call) }

def step (s : OutboxSystem) : OutboxEvent → OutboxSystem
  | .commit calls =>
    match appendEach calls s.db with
    | .ok (_, db) => { s with db, appended := s.appended ++ calls }
    | .error _ => s
  | .begin call project outboxId => (s.begin call project outboxId).getD s
  | .deliver call answer => (s.deliver call answer).getD s
  | .finish call => (s.finish call).getD s
  | .crash call => { s with dispatches := s.dispatches.delete (·.call = call) }
  | .elsewhere workItems now =>
    { s with db := { s.db with workItems }, now := max s.now now }

/-- The journal is empty when the first writer starts. -/
def start (workItems : Table WorkItem WorkItem.key) (now : Time) : OutboxSystem where
  db := { workItems }
  now := now
  dispatches := ∅
  appended := []
  deliveries := []

end OutboxSystem

/-! ## What a unit of work appends -/

section Append

open EventUnitOfWork

variable {db db' : EventDb}

lemma EventDb.insertEvent_eq_some {e : StoredEvent} (h : db.insertEvent e = some db') :
    db'.events.rows = db.events.rows ++ [e] ∧ db'.outbox = db.outbox := by
  unfold EventDb.insertEvent at h
  split at h
  · obtain ⟨events, hins, rfl⟩ := Option.map_eq_some_iff.1 h
    exact ⟨(Table.insert_eq_some.1 hins).2, rfl⟩
  · simp at h

lemma EventDb.insertOutbox_eq_some {r : OutboxRow} (h : db.insertOutbox r = some db') :
    db'.events = db.events ∧ db'.outbox.rows = db.outbox.rows ++ [r] ∧
      (∀ q ∈ db.outbox, (q.projectId, q.idempotencyKey) ≠ (r.projectId, r.idempotencyKey)) ∧
      db.outbox.insert r = some db'.outbox ∧
      ∃ e ∈ db.events, e.eventId = r.eventId ∧ e.projectId = r.projectId := by
  unfold EventDb.insertOutbox at h
  split at h
  · simp at h
  · next hfree =>
    split at h
    · next hevent =>
      obtain ⟨outbox, hins, rfl⟩ := Option.map_eq_some_iff.1 h
      obtain ⟨e, he, hproject, hid⟩ := hevent
      refine ⟨rfl, (Table.insert_eq_some.1 hins).2, fun q hq heq => hfree ⟨q, hq, ?_⟩, hins,
        e, he, hid, hproject⟩
      exact Prod.mk.inj heq
    · simp at h

/-- The rows of the outbox are those of distinct keys, each of an event of the journal. -/
structure EventDb.Keyed (db : EventDb) : Prop where
  unique : db.outbox.Unique fun r => (r.projectId, r.idempotencyKey)
  key : ∀ r ∈ db.outbox, r.idempotencyKey = idempotencyKey r.projectId r.eventId r.topic
  event : ∀ r ∈ db.outbox, ∃ e ∈ db.events, e.eventId = r.eventId ∧ e.projectId = r.projectId

lemma appendAll_rows {c : AppendCall} {ms : List (OutboundDraft × ℕ)}
    (h : appendAll c.event c.eventId c.now ms db = .ok ((), db')) :
    db'.events = db.events ∧ db'.outbox.rows = db.outbox.rows ++ ms.map c.row := by
  induction ms generalizing db with
  | nil =>
    obtain ⟨-, rfl⟩ := Prod.mk.inj (Tx.pure_ok.1 h)
    exact ⟨rfl, by simp⟩
  | cons m ms ih =>
    rw [appendAll, appendOutbound, Tx.attempt_bind_ok] at h
    obtain ⟨mid, hins, h⟩ := h
    obtain ⟨hevents, hrows, -⟩ := EventDb.insertOutbox_eq_some hins
    obtain ⟨hevents', hrows'⟩ := ih h
    refine ⟨hevents'.trans hevents, ?_⟩
    rw [hrows', hrows, List.append_assoc]
    rfl

lemma appendAll_keyed {c : AppendCall} {ms : List (OutboundDraft × ℕ)}
    (h : appendAll c.event c.eventId c.now ms db = .ok ((), db')) (hkeyed : db.Keyed) :
    db'.Keyed := by
  induction ms generalizing db with
  | nil =>
    obtain ⟨-, rfl⟩ := Prod.mk.inj (Tx.pure_ok.1 h)
    exact hkeyed
  | cons m ms ih =>
    rw [appendAll, appendOutbound, Tx.attempt_bind_ok] at h
    obtain ⟨mid, hins, h⟩ := h
    obtain ⟨hevents, -, hne, hinsert, hevent⟩ := EventDb.insertOutbox_eq_some hins
    have hmem := Table.mem_of_insert hinsert
    refine ih h ⟨hkeyed.unique.insert hne hinsert, fun r hr => ?_, fun r hr => ?_⟩
    · rcases (hmem r).1 hr with hr | rfl
      · exact hkeyed.key r hr
      · rfl
    · rw [hevents]
      rcases (hmem r).1 hr with hr | rfl
      · exact hkeyed.event r hr
      · exact hevent

/-- A call of `append` that commits writes the event and a row for each of its topics. -/
lemma append_rows {c : AppendCall} {e : StoredEvent}
    (h : append c.event c.outbound c.eventId c.now db = .ok (e, db')) :
    (c.outbound.map (·.1.topic)).Nodup ∧ db'.events.rows = db.events.rows ++ [c.stored] ∧
      db'.outbox.rows = db.outbox.rows ++ c.rows := by
  rw [append, Tx.require_bind_ok, Tx.attempt_bind_ok] at h
  obtain ⟨hnodup, mid, hins, h⟩ := h
  obtain ⟨hevents, houtbox⟩ := EventDb.insertEvent_eq_some hins
  rw [Tx.bind_ok] at h
  obtain ⟨⟨⟩, db₂, hall, h⟩ := h
  obtain ⟨-, rfl⟩ := Prod.mk.inj (Tx.pure_ok.1 h)
  obtain ⟨hevents', hrows⟩ := appendAll_rows (c := c) hall
  refine ⟨hnodup, ?_, ?_⟩
  · rw [hevents', hevents]
    rfl
  · rw [hrows, houtbox]
    rfl

lemma append_keyed {c : AppendCall} {e : StoredEvent}
    (h : append c.event c.outbound c.eventId c.now db = .ok (e, db')) (hkeyed : db.Keyed) :
    db'.Keyed := by
  rw [append, Tx.require_bind_ok, Tx.attempt_bind_ok] at h
  obtain ⟨-, mid, hins, h⟩ := h
  obtain ⟨hevents, houtbox⟩ := EventDb.insertEvent_eq_some hins
  rw [Tx.bind_ok] at h
  obtain ⟨⟨⟩, db₂, hall, h⟩ := h
  obtain ⟨-, rfl⟩ := Prod.mk.inj (Tx.pure_ok.1 h)
  refine appendAll_keyed (c := c) hall
    ⟨by rw [houtbox]; exact hkeyed.unique, by rw [houtbox]; exact hkeyed.key, fun r hr => ?_⟩
  rw [houtbox] at hr
  obtain ⟨q, hq, hqr⟩ := hkeyed.event r hr
  refine ⟨q, ?_, hqr⟩
  rw [← Table.mem_rows, hevents]
  exact List.mem_append_left _ hq

/-- **Units of work.** A unit of work that commits appends the event of each of its calls and one
row for each of their topics. -/
theorem appendEach_ok {cs : List AppendCall} (h : appendEach cs db = .ok ((), db'))
    (hkeyed : db.Keyed) :
    (∀ c ∈ cs, (c.outbound.map (·.1.topic)).Nodup) ∧
      db'.events.rows = db.events.rows ++ cs.map (·.stored) ∧
      db'.outbox.rows = db.outbox.rows ++ cs.flatMap (·.rows) ∧ db'.Keyed := by
  induction cs generalizing db with
  | nil =>
    obtain ⟨-, rfl⟩ := Prod.mk.inj (Tx.pure_ok.1 h)
    exact ⟨by simp, by simp, by simp, hkeyed⟩
  | cons c cs ih =>
    obtain ⟨e, mid, happend, h⟩ := Tx.bind_ok.1 h
    obtain ⟨hnodup, hevents, hrows⟩ := append_rows happend
    have hkeyed' := append_keyed happend hkeyed
    obtain ⟨hnodups, hevents', hrows', hkeyed''⟩ := ih h hkeyed'
    refine ⟨?_, ?_, ?_, hkeyed''⟩
    · intro d hd
      rcases List.mem_cons.1 hd with rfl | hd
      · exact hnodup
      · exact hnodups d hd
    · rw [hevents', hevents, List.append_assoc]
      rfl
    · rw [hrows', hrows, List.append_assoc]
      rfl

end Append

/-! ## Keys -/

section Keys

lemma notMem_decimal (n : ℕ) : ':' ∉ (decimal n).toList := by
  intro h
  exact absurd (isDigit_of_mem_decimal h) (by decide)

/-- An idempotency key determines the event of its message. -/
lemma eventId_of_idempotencyKey {p p' t t' : String} {e e' : ℕ}
    (h : idempotencyKey p e t = idempotencyKey p' e' t') : e = e' := by
  have hlist := congrArg String.toList h
  simp only [idempotencyKey, String.toList_append] at hlist
  have hlen : ∀ t, (digestOf 16 [t]).toList.length = 16 := fun t =>
    length_digestOf (by omega) [t]
  obtain ⟨hfront, -⟩ := List.append_inj' hlist ((hlen t).trans (hlen t').symm)
  obtain ⟨hfront, -⟩ := List.append_inj' hfront rfl
  rw [show ":".toList = [':'] from rfl, List.append_assoc, List.append_assoc,
    List.singleton_append, List.singleton_append] at hfront
  exact decimal_injective (split_last hfront (notMem_decimal e) (notMem_decimal e')).2

/-- **Keys.** Two rows of the outbox have two idempotency keys, also in different projects. -/
theorem EventDb.Keyed.inj {db : EventDb} (h : db.Keyed) {r q : OutboxRow} (hr : r ∈ db.outbox)
    (hq : q ∈ db.outbox) (hkey : r.idempotencyKey = q.idempotencyKey) : r = q := by
  have hevent : r.eventId = q.eventId := by
    rw [h.key r hr, h.key q hq] at hkey
    exact eventId_of_idempotencyKey hkey
  obtain ⟨e, he, hre, hrp⟩ := h.event r hr
  obtain ⟨f, hf, hqf, hqp⟩ := h.event q hq
  obtain rfl : e = f := db.events.eq_of_key he hf (hre.trans (hevent.trans hqf.symm))
  exact h.unique r hr q hq (Prod.ext (hrp.symm.trans hqp) hkey)

end Keys

/-! ## Invariants -/

/-- The columns of a row that are never written again. -/
structure OutboxRow.Same (r r' : OutboxRow) : Prop where
  outboxId : r'.outboxId = r.outboxId
  projectId : r'.projectId = r.projectId
  eventId : r'.eventId = r.eventId
  topic : r'.topic = r.topic
  payload : r'.payload = r.payload
  idempotencyKey : r'.idempotencyKey = r.idempotencyKey

lemma OutboxRow.Same.refl (r : OutboxRow) : r.Same r := ⟨rfl, rfl, rfl, rfl, rfl, rfl⟩

/-- A message carries the columns of a row that are never written again. -/
structure OutboxMessage.Carries (m : OutboxMessage) (r : OutboxRow) : Prop where
  outboxId : m.outboxId = r.outboxId
  projectId : m.projectId = r.projectId
  eventId : m.eventId = r.eventId
  topic : m.topic = r.topic
  payload : m.payload = r.payload
  idempotencyKey : m.idempotencyKey = r.idempotencyKey

lemma OutboxMessage.Carries.same {m : OutboxMessage} {r r' : OutboxRow} (h : m.Carries r)
    (hs : r.Same r') : m.Carries r' where
  outboxId := h.outboxId.trans hs.outboxId.symm
  projectId := h.projectId.trans hs.projectId.symm
  eventId := h.eventId.trans hs.eventId.symm
  topic := h.topic.trans hs.topic.symm
  payload := h.payload.trans hs.payload.symm
  idempotencyKey := h.idempotencyKey.trans hs.idempotencyKey.symm

open OutboxDispatcher

lemma recorded_same (m : OutboxMessage) (a : DeliveryAnswer) (t : Time) (r : OutboxRow) :
    r.Same (recorded m a t r) := by
  obtain ⟨h₁, h₂, h₃, h₄, h₅, h₆⟩ := recorded_frame m a t r
  exact ⟨h₁, h₂, h₃, h₄, h₅, h₆⟩

/-- A failed delivery leaves its row pending and postpones it. -/
lemma recorded_failed {m : OutboxMessage} {a : DeliveryAnswer} (h : ¬ a.Matches m) (t : Time)
    (r : OutboxRow) :
    (recorded m a t r).dispatchedAt = r.dispatchedAt ∧
      (recorded m a t r).lastError = some a.error ∧ t < (recorded m a t r).availableAt := by
  have hpos := backoff_pos (r.attemptCount + 1)
  rw [recorded, if_neg h]
  exact ⟨rfl, rfl, Nat.lt_add_of_pos_right hpos⟩

/-- The outbox as the calls of `append` left it: the rows in their order, whatever was
delivered. -/
def OutboxRow.content (r : OutboxRow) : ℕ × String × ℕ × String × Json × String :=
  (r.outboxId, r.projectId, r.eventId, r.topic, r.payload, r.idempotencyKey)

lemma OutboxRow.Same.content {r r' : OutboxRow} (h : r.Same r') : r'.content = r.content := by
  simp only [OutboxRow.content, h.outboxId, h.projectId, h.eventId, h.topic, h.payload,
    h.idempotencyKey]

/-- The rows of some calls of `append`. -/
def rowsOf (cs : List AppendCall) : List OutboxRow := cs.flatMap (·.rows)

/-- What every reachable state satisfies. -/
structure OutboxInv (s : OutboxSystem) : Prop where
  events : s.db.events.rows = s.appended.map (·.stored)
  rows : s.db.outbox.rows.map (·.content) = (rowsOf s.appended).map (·.content)
  topics : ∀ c ∈ s.appended, (c.outbound.map (·.1.topic)).Nodup
  keyed : s.db.Keyed
  /-- A call holds the lock of a pending row, whose message it delivers. -/
  locked : ∀ d ∈ s.dispatches, ∃ r ∈ s.db.outbox, d.message.Carries r ∧ r.dispatchedAt = none ∧
    r.availableAt ≤ s.now
  exclusive : ∀ d ∈ s.dispatches, ∀ d' ∈ s.dispatches,
    d.message.outboxId = d'.message.outboxId → d = d'
  answered : ∀ d ∈ s.dispatches, ∀ a ∈ d.answer, (d.message, a) ∈ s.deliveries
  delivered : ∀ p ∈ s.deliveries, ∃ r ∈ s.db.outbox, p.1.Carries r
  dispatched : ∀ r ∈ s.db.outbox, r.dispatchedAt.isSome →
    ∃ p ∈ s.deliveries, p.1.Carries r ∧ p.2.Matches p.1

namespace OutboxSystem

open EventUnitOfWork

variable {s s' : OutboxSystem}

/-- A call that begins holds a pending row that nobody else holds. -/
lemma begin_eq_some {call : String} {project : Option String} {outboxId : ℕ}
    (h : s.begin call project outboxId = some s') :
    ∃ r ∈ s.db.outbox, ∃ e ∈ s.db.events, r.outboxId = outboxId ∧
      Pending project s.now r ∧ s.Unlocked outboxId ∧
      ∃ dispatches, s.dispatches.insert ⟨call, r.message e, none⟩ = some dispatches ∧
        s' = { s with dispatches } := by
  obtain ⟨m, hm, h⟩ := Option.bind_eq_some_iff.1 h
  obtain ⟨r, hr, hm⟩ := Option.bind_eq_some_iff.1 hm
  obtain ⟨e, he, hm⟩ := Option.bind_eq_some_iff.1 hm
  split at hm
  · next hpending =>
    obtain rfl := Option.some.inj hm
    split at h
    · next hfree =>
      obtain ⟨dispatches, hins, h⟩ := Option.bind_eq_some_iff.1 h
      obtain ⟨hmem, hid⟩ := Table.lookup_eq_some.1 hr
      exact ⟨r, hmem, e, (Table.lookup_eq_some.1 he).1, hid, hpending.1, hfree, dispatches, hins,
        (Option.some.inj h).symm⟩
    · simp at h
  · simp at hm

/-- A call delivers its message once. -/
lemma deliver_eq_some {call : String} {answer : DeliveryAnswer}
    (h : s.deliver call answer = some s') :
    ∃ d ∈ s.dispatches, d.call = call ∧ d.answer = none ∧
      s' = { s with
        dispatches := s.dispatches.update (·.call = call)
          { set := fun d => { d with answer := some answer } }
        deliveries := s.deliveries ++ [(d.message, answer)] } := by
  obtain ⟨d, hd, h⟩ := Option.bind_eq_some_iff.1 h
  obtain ⟨hmem, hcall⟩ := Table.lookup_eq_some.1 hd
  split at h
  · next hnone => exact ⟨d, hmem, hcall, hnone, (Option.some.inj h).symm⟩
  · simp at h

/-- A call that finishes writes its row and gives up its lock. -/
lemma finish_eq_some {call : String} (h : s.finish call = some s') :
    ∃ d ∈ s.dispatches, d.call = call ∧ ∃ answer, d.answer = some answer ∧
      s' = { s with
        db := record d.message answer s.now s.db
        dispatches := s.dispatches.delete (·.call = call) } := by
  obtain ⟨d, hd, h⟩ := Option.bind_eq_some_iff.1 h
  obtain ⟨hmem, hcall⟩ := Table.lookup_eq_some.1 hd
  obtain ⟨answer, hanswer, h⟩ := Option.bind_eq_some_iff.1 h
  exact ⟨d, hmem, hcall, answer, hanswer, (Option.some.inj h).symm⟩

end OutboxSystem

namespace OutboxInv

open OutboxSystem EventUnitOfWork

variable {s s' : OutboxSystem}

lemma commit (hinv : OutboxInv s) {calls : List AppendCall} {db : EventDb}
    (h : appendEach calls s.db = .ok ((), db)) :
    OutboxInv { s with db, appended := s.appended ++ calls } := by
  obtain ⟨htopics, hevents, hrows, hkeyed⟩ := appendEach_ok h hinv.keyed
  have hold : ∀ r ∈ s.db.outbox, r ∈ db.outbox := fun r hr => by
    rw [← Table.mem_rows, hrows]
    exact List.mem_append_left _ hr
  refine { hinv with
    events := ?_, rows := ?_, topics := ?_, keyed := hkeyed, locked := ?_, delivered := ?_,
    dispatched := ?_ }
  · rw [hevents, hinv.events, List.map_append]
  · rw [hrows, List.map_append, hinv.rows, rowsOf, rowsOf, List.flatMap_append, List.map_append]
  · intro c hc
    rcases List.mem_append.1 hc with hc | hc
    · exact hinv.topics c hc
    · exact htopics c hc
  · intro d hd
    obtain ⟨r, hr, hrest⟩ := hinv.locked d hd
    exact ⟨r, hold r hr, hrest⟩
  · intro p hp
    obtain ⟨r, hr, hcarries⟩ := hinv.delivered p hp
    exact ⟨r, hold r hr, hcarries⟩
  · intro r hr hdone
    rw [← Table.mem_rows, hrows] at hr
    rcases List.mem_append.1 hr with hr | hr
    · exact hinv.dispatched r hr hdone
    · -- a new row is pending
      obtain ⟨c, -, hr⟩ := List.mem_flatMap.1 hr
      obtain ⟨m, -, rfl⟩ := List.mem_map.1 hr
      simp [AppendCall.row] at hdone

lemma begin (hinv : OutboxInv s) {call : String} {project : Option String} {outboxId : ℕ}
    (h : s.begin call project outboxId = some s') : OutboxInv s' := by
  obtain ⟨r, hr, e, -, hid, ⟨hpending, havail, -⟩, hfree, dispatches, hins, rfl⟩ :=
    begin_eq_some h
  have hmem := Table.mem_of_insert hins
  have hother : ∀ d ∈ s.dispatches, d.message.outboxId ≠ r.outboxId := fun d hd hd' =>
    hfree d hd (hd'.trans hid)
  refine { hinv with locked := ?_, exclusive := ?_, answered := ?_ }
  · intro d hd
    rcases (hmem d).1 hd with hd | rfl
    · exact hinv.locked d hd
    · exact ⟨r, hr, ⟨rfl, rfl, rfl, rfl, rfl, rfl⟩, hpending, havail⟩
  · intro d hd d' hd' heq
    rcases (hmem d).1 hd with hd | rfl <;> rcases (hmem d').1 hd' with hd' | rfl
    · exact hinv.exclusive d hd d' hd' heq
    · exact absurd heq (hother d hd)
    · exact absurd heq.symm (hother d' hd')
    · rfl
  · intro d hd a ha
    rcases (hmem d).1 hd with hd | rfl
    · exact hinv.answered d hd a ha
    · simp at ha

lemma deliver (hinv : OutboxInv s) {call : String} {answer : DeliveryAnswer}
    (h : s.deliver call answer = some s') : OutboxInv s' := by
  obtain ⟨d, hd, hcall, hnone, rfl⟩ := deliver_eq_some h
  have hcases : ∀ d' ∈ s.dispatches.update (·.call = call)
      { set := fun d => { d with answer := some answer } },
      ∃ d₀ ∈ s.dispatches, d'.message = d₀.message ∧ d'.call = d₀.call ∧
        (d'.answer = d₀.answer ∨ d₀ = d ∧ d'.answer = some answer) := by
    intro d' hd'
    obtain ⟨d₀, hd₀, hc, rfl⟩ | ⟨hd', -⟩ := Table.mem_update_cases hd'
    · exact ⟨d₀, hd₀, rfl, rfl, Or.inr ⟨s.dispatches.eq_of_key hd₀ hd (hc.trans hcall.symm), rfl⟩⟩
    · exact ⟨d', hd', rfl, rfl, Or.inl rfl⟩
  refine { hinv with
    locked := ?_, exclusive := ?_, answered := ?_, delivered := ?_, dispatched := ?_ }
  · intro d' hd'
    obtain ⟨d₀, hd₀, hm, -⟩ := hcases d' hd'
    rw [hm]
    exact hinv.locked d₀ hd₀
  · intro d₁ hd₁ d₂ hd₂ heq
    obtain ⟨e₁, he₁, hm₁, hc₁, -⟩ := hcases d₁ hd₁
    obtain ⟨e₂, he₂, hm₂, hc₂, -⟩ := hcases d₂ hd₂
    rw [hm₁, hm₂] at heq
    obtain rfl := hinv.exclusive e₁ he₁ e₂ he₂ heq
    exact Table.eq_of_key _ hd₁ hd₂ (hc₁.trans hc₂.symm)
  · intro d' hd' a ha
    obtain ⟨d₀, hd₀, hm, -, hans⟩ := hcases d' hd'
    rw [hm]
    rcases hans with hans | ⟨rfl, hans⟩
    · exact List.mem_append_left _ (hinv.answered d₀ hd₀ a (hans ▸ ha))
    · obtain rfl := Option.some.inj (hans.symm.trans ha)
      exact List.mem_append_right _ List.mem_cons_self
  · intro p hp
    rcases List.mem_append.1 hp with hp | hp
    · exact hinv.delivered p hp
    · rw [List.mem_singleton.1 hp]
      obtain ⟨r, hr, hcarries, -⟩ := hinv.locked d hd
      exact ⟨r, hr, hcarries⟩
  · intro r hr hdone
    obtain ⟨p, hp, hrest⟩ := hinv.dispatched r hr hdone
    exact ⟨p, List.mem_append_left _ hp, hrest⟩

lemma finish (hinv : OutboxInv s) {call : String} (h : s.finish call = some s') :
    OutboxInv s' := by
  obtain ⟨d, hd, hcall, answer, hanswer, rfl⟩ := finish_eq_some h
  obtain ⟨r₀, hr₀, hcarries₀, hpending₀, -⟩ := hinv.locked d hd
  -- the row of a message is the only one that changes
  have hcases : ∀ r' ∈ (record d.message answer s.now s.db).outbox,
      ∃ r ∈ s.db.outbox, r.Same r' ∧ (r = r₀ ∧ r' = recorded d.message answer s.now r ∨
        r.outboxId ≠ d.message.outboxId ∧ r' = r) := by
    intro r' hr'
    obtain ⟨r, hr, hrid, rfl⟩ | ⟨hr', hne⟩ := Table.mem_update_cases hr'
    · have : r = r₀ := s.db.outbox.eq_of_key hr hr₀ (hrid.trans hcarries₀.outboxId)
      exact ⟨r, hr, recorded_same _ _ _ r, Or.inl ⟨this, rfl⟩⟩
    · exact ⟨r', hr', .refl r', Or.inr ⟨hne, rfl⟩⟩
  have himage : ∀ r ∈ s.db.outbox, ∃ r' ∈ (record d.message answer s.now s.db).outbox,
      r.Same r' ∧ (r.outboxId ≠ d.message.outboxId → r' = r) := by
    intro r hr
    by_cases hrid : r.outboxId = d.message.outboxId
    · refine ⟨recorded d.message answer s.now r, ?_, recorded_same _ _ _ r, fun h => absurd hrid h⟩
      exact Table.mem_update_of_pos (p := fun r : OutboxRow => r.outboxId = d.message.outboxId)
        hr hrid
    · refine ⟨r, ?_, .refl r, fun _ => rfl⟩
      exact Table.mem_update_of_neg (p := fun r : OutboxRow => r.outboxId = d.message.outboxId)
        hr hrid
  refine { hinv with
    rows := ?_, keyed := ?_, locked := ?_, exclusive := ?_, answered := ?_, delivered := ?_,
    dispatched := ?_ }
  · rw [← hinv.rows]
    simp only [record, Table.update, List.map_map]
    refine List.map_congr_left fun r _ => ?_
    simp only [Function.comp_apply]
    split
    · exact (recorded_same _ _ _ r).content
    · rfl
  · refine ⟨?_, fun r' hr' => ?_, fun r' hr' => ?_⟩
    · refine hinv.keyed.unique.update fun r => ?_
      have hsame := recorded_same d.message answer s.now r
      exact Prod.ext hsame.projectId hsame.idempotencyKey
    · obtain ⟨r, hr, hsame, -⟩ := hcases r' hr'
      rw [hsame.idempotencyKey, hsame.projectId, hsame.eventId, hsame.topic]
      exact hinv.keyed.key r hr
    · obtain ⟨r, hr, hsame, -⟩ := hcases r' hr'
      rw [hsame.projectId, hsame.eventId]
      exact hinv.keyed.event r hr
  · intro d' hd'
    obtain ⟨hd', hne⟩ := Table.mem_delete.1 hd'
    obtain ⟨r, hr, hcarries, hpending, havail⟩ := hinv.locked d' hd'
    obtain ⟨r', hr', -, hkept⟩ := himage r hr
    have hother : r.outboxId ≠ d.message.outboxId := fun heq =>
      hne ((congrArg Dispatch.call (hinv.exclusive d' hd' d hd (hcarries.outboxId.trans heq))).trans
        hcall)
    obtain rfl := hkept hother
    exact ⟨r', hr', hcarries, hpending, havail⟩
  · intro d₁ hd₁ d₂ hd₂ heq
    exact hinv.exclusive d₁ (Table.mem_delete.1 hd₁).1 d₂ (Table.mem_delete.1 hd₂).1 heq
  · intro d' hd'
    exact hinv.answered d' (Table.mem_delete.1 hd').1
  · intro p hp
    obtain ⟨r, hr, hcarries⟩ := hinv.delivered p hp
    obtain ⟨r', hr', hsame, -⟩ := himage r hr
    exact ⟨r', hr', hcarries.same hsame⟩
  · intro r' hr' hdone
    obtain ⟨r, hr, hsame, ⟨rfl, rfl⟩ | ⟨-, rfl⟩⟩ := hcases r' hr'
    · by_cases hmatch : answer.Matches d.message
      · exact ⟨_, hinv.answered d hd answer hanswer, hcarries₀.same hsame, hmatch⟩
      · rw [(recorded_failed hmatch s.now r).1, hpending₀] at hdone
        simp at hdone
    · exact hinv.dispatched r' hr hdone

lemma step (hinv : OutboxInv s) (e : OutboxEvent) : OutboxInv (s.step e) := by
  cases e with
  | commit calls =>
    cases h : appendEach calls s.db with
    | error e => simpa only [OutboxSystem.step, h] using hinv
    | ok r => simpa only [OutboxSystem.step, h] using hinv.commit h
  | begin call project outboxId =>
    cases h : s.begin call project outboxId with
    | none => simpa only [OutboxSystem.step, h, Option.getD_none] using hinv
    | some s' => simpa only [OutboxSystem.step, h, Option.getD_some] using hinv.begin h
  | deliver call answer =>
    cases h : s.deliver call answer with
    | none => simpa only [OutboxSystem.step, h, Option.getD_none] using hinv
    | some s' => simpa only [OutboxSystem.step, h, Option.getD_some] using hinv.deliver h
  | finish call =>
    cases h : s.finish call with
    | none => simpa only [OutboxSystem.step, h, Option.getD_none] using hinv
    | some s' => simpa only [OutboxSystem.step, h, Option.getD_some] using hinv.finish h
  | crash call =>
    exact { hinv with
      locked := fun d hd => hinv.locked d (Table.mem_delete.1 hd).1
      exclusive := fun d hd d' hd' =>
        hinv.exclusive d (Table.mem_delete.1 hd).1 d' (Table.mem_delete.1 hd').1
      answered := fun d hd => hinv.answered d (Table.mem_delete.1 hd).1 }
  | elsewhere workItems now =>
    refine { hinv with
      keyed := ⟨hinv.keyed.unique, hinv.keyed.key, hinv.keyed.event⟩
      locked := ?_ }
    intro d hd
    obtain ⟨r, hr, hcarries, hpending, havail⟩ := hinv.locked d hd
    exact ⟨r, hr, hcarries, hpending, le_trans havail (le_max_left s.now now)⟩

lemma start (workItems : Table WorkItem WorkItem.key) (now : Time) :
    OutboxInv (start workItems now) where
  events := rfl
  rows := rfl
  topics _ hc := absurd hc List.not_mem_nil
  keyed := ⟨Table.unique_empty, fun r hr => absurd hr (Table.notMem_empty r),
    fun r hr => absurd hr (Table.notMem_empty r)⟩
  locked d hd := absurd hd (Table.notMem_empty d)
  exclusive d hd := absurd hd (Table.notMem_empty d)
  answered d hd := absurd hd (Table.notMem_empty d)
  delivered _ hp := absurd hp List.not_mem_nil
  dispatched r hr := absurd hr (Table.notMem_empty r)

end OutboxInv

/-! ## Adapters that deduplicate -/

/-- The deliveries that an adapter applies which ignores the keys it has seen. -/
def applied (seen : List String) : List (OutboxMessage × DeliveryAnswer) → List OutboxMessage
  | [] => []
  | (m, _) :: ds =>
    if m.idempotencyKey ∈ seen then applied seen ds
    else m :: applied (m.idempotencyKey :: seen) ds

section Applied

variable {ds : List (OutboxMessage × DeliveryAnswer)} {seen : List String} {m : OutboxMessage}

lemma mem_of_applied (h : m ∈ applied seen ds) :
    m.idempotencyKey ∉ seen ∧ ∃ a, (m, a) ∈ ds := by
  induction ds generalizing seen with
  | nil => simp [applied] at h
  | cons d ds ih =>
    obtain ⟨m', a⟩ := d
    rw [applied] at h
    split at h
    · obtain ⟨hseen, b, hb⟩ := ih h
      exact ⟨hseen, b, List.mem_cons_of_mem _ hb⟩
    · next hnew =>
      rcases List.mem_cons.1 h with rfl | h
      · exact ⟨hnew, a, List.mem_cons_self⟩
      · obtain ⟨hseen, b, hb⟩ := ih h
        exact ⟨fun hm => hseen (List.mem_cons_of_mem _ hm), b, List.mem_cons_of_mem _ hb⟩

lemma nodup_applied : ((applied seen ds).map (·.idempotencyKey)).Nodup := by
  induction ds generalizing seen with
  | nil => simp [applied]
  | cons d ds ih =>
    obtain ⟨m', a⟩ := d
    rw [applied]
    split
    · exact ih
    · refine List.nodup_cons.2 ⟨fun hmem => ?_, ih⟩
      obtain ⟨m, hm, hkey⟩ := List.mem_map.1 hmem
      exact (mem_of_applied hm).1 (hkey ▸ List.mem_cons_self)

/-- Every key that was delivered was seen or is applied. -/
lemma applied_of_mem (seen : List String) {a : DeliveryAnswer} (h : (m, a) ∈ ds) :
    m.idempotencyKey ∈ seen ∨ ∃ m' ∈ applied seen ds, m'.idempotencyKey = m.idempotencyKey := by
  induction ds generalizing seen with
  | nil => simp at h
  | cons d ds ih =>
    obtain ⟨m', b⟩ := d
    rw [applied]
    rcases List.mem_cons.1 h with heq | h
    · obtain ⟨rfl, rfl⟩ := Prod.mk.inj heq
      split
      · next hseen => exact Or.inl hseen
      · exact Or.inr ⟨m, List.mem_cons_self, rfl⟩
    · split
      · exact ih seen h
      · rcases ih (m'.idempotencyKey :: seen) h with hseen | ⟨m'', hm'', hkey⟩
        · rcases List.mem_cons.1 hseen with hkey | hseen
          · exact Or.inr ⟨m', List.mem_cons_self, hkey.symm⟩
          · exact Or.inl hseen
        · exact Or.inr ⟨m'', List.mem_cons_of_mem _ hm'', hkey⟩

end Applied

namespace OutboxInv

open OutboxSystem

variable {s : OutboxSystem}

/-- Messages with one key are messages of one row. -/
lemma delivered_inj (hinv : OutboxInv s) {p q : OutboxMessage × DeliveryAnswer}
    (hp : p ∈ s.deliveries) (hq : q ∈ s.deliveries) :
    p.1.idempotencyKey = q.1.idempotencyKey ↔ p.1.outboxId = q.1.outboxId := by
  obtain ⟨r, hr, hpr⟩ := hinv.delivered p hp
  obtain ⟨r', hr', hqr⟩ := hinv.delivered q hq
  constructor
  · intro h
    obtain rfl := hinv.keyed.inj hr hr' (hpr.idempotencyKey.symm.trans (h.trans hqr.idempotencyKey))
    exact hpr.outboxId.trans hqr.outboxId.symm
  · intro h
    obtain rfl : r = r' :=
      s.db.outbox.eq_of_key hr hr' (hpr.outboxId.symm.trans (h.trans hqr.outboxId))
    exact hpr.idempotencyKey.trans hqr.idempotencyKey.symm

/-- An adapter that deduplicates applies every delivered row once. -/
lemma applied_once (hinv : OutboxInv s) :
    ((applied [] s.deliveries).map (·.outboxId)).Nodup ∧
      ∀ p ∈ s.deliveries, p.1.outboxId ∈ (applied [] s.deliveries).map (·.outboxId) := by
  constructor
  · refine (List.nodup_map_iff_inj_on (nodup_applied.of_map _)).2 fun m hm m' hm' h => ?_
    obtain ⟨-, a, ha⟩ := mem_of_applied hm
    obtain ⟨-, a', ha'⟩ := mem_of_applied hm'
    exact List.inj_on_of_nodup_map nodup_applied hm hm' ((hinv.delivered_inj ha ha').2 h)
  · intro p hp
    rcases applied_of_mem [] (show (p.1, p.2) ∈ s.deliveries from hp) with
      hnil | ⟨m, hm, hkey⟩
    · simp at hnil
    · obtain ⟨-, a, ha⟩ := mem_of_applied hm
      exact List.mem_map.2 ⟨m, hm, (hinv.delivered_inj ha hp).1 hkey⟩

/-- The message of a call is not one of a dispatched row. -/
lemma outboxId_ne (hinv : OutboxInv s) {d : Dispatch} (hd : d ∈ s.dispatches) {r : OutboxRow}
    (hr : r ∈ s.db.outbox) (hdone : r.dispatchedAt.isSome) :
    r.outboxId ≠ d.message.outboxId := by
  intro h
  obtain ⟨r', hr', hcarries, hpending, -⟩ := hinv.locked d hd
  obtain rfl : r = r' := s.db.outbox.eq_of_key hr hr' (h.trans hcarries.outboxId)
  rw [hpending] at hdone
  simp at hdone

/-- No step delivers or writes a dispatched row. -/
lemma step_dispatched (hinv : OutboxInv s) (e : OutboxEvent) {r : OutboxRow}
    (hr : r ∈ s.db.outbox) (hdone : r.dispatchedAt.isSome) :
    r ∈ (s.step e).db.outbox ∧
      ∀ p ∈ (s.step e).deliveries, p.1.outboxId = r.outboxId → p ∈ s.deliveries := by
  have hsame : r ∈ s.db.outbox ∧ ∀ p ∈ s.deliveries, p.1.outboxId = r.outboxId →
      p ∈ s.deliveries := ⟨hr, fun p hp _ => hp⟩
  cases e with
  | commit calls =>
    cases h : EventUnitOfWork.appendEach calls s.db with
    | error e => simpa only [OutboxSystem.step, h] using hsame
    | ok q =>
      obtain ⟨-, -, hrows, -⟩ := appendEach_ok h hinv.keyed
      simp only [OutboxSystem.step, h]
      refine ⟨?_, hsame.2⟩
      rw [← Table.mem_rows, hrows]
      exact List.mem_append_left _ hr
  | begin call project outboxId =>
    cases h : s.begin call project outboxId with
    | none => simpa only [OutboxSystem.step, h, Option.getD_none] using hsame
    | some s' =>
      obtain ⟨-, -, -, -, -, -, -, dispatches, -, rfl⟩ := begin_eq_some h
      simpa only [OutboxSystem.step, h, Option.getD_some] using hsame
  | deliver call answer =>
    cases h : s.deliver call answer with
    | none => simpa only [OutboxSystem.step, h, Option.getD_none] using hsame
    | some s' =>
      obtain ⟨d, hd, -, -, rfl⟩ := deliver_eq_some h
      simp only [OutboxSystem.step, h, Option.getD_some]
      refine ⟨hr, fun p hp hid => ?_⟩
      rcases List.mem_append.1 hp with hp | hp
      · exact hp
      · rw [List.mem_singleton.1 hp] at hid
        exact absurd hid.symm (hinv.outboxId_ne hd hr hdone)
  | finish call =>
    cases h : s.finish call with
    | none => simpa only [OutboxSystem.step, h, Option.getD_none] using hsame
    | some s' =>
      obtain ⟨d, hd, -, answer, -, rfl⟩ := finish_eq_some h
      simp only [OutboxSystem.step, h, Option.getD_some]
      exact ⟨Table.mem_update_of_neg
        (p := fun r : OutboxRow => r.outboxId = d.message.outboxId) hr
        (hinv.outboxId_ne hd hr hdone), hsame.2⟩
  | crash call => exact hsame
  | elsewhere workItems now => exact hsame

/-- **Once dispatched.** No run delivers a dispatched row again. -/
theorem run_dispatched (hinv : OutboxInv s) (es : List OutboxEvent) {r : OutboxRow}
    (hr : r ∈ s.db.outbox) (hdone : r.dispatchedAt.isSome) :
    r ∈ (run OutboxSystem.step s es).db.outbox ∧
      ∀ p ∈ (run OutboxSystem.step s es).deliveries,
        p.1.outboxId = r.outboxId → p ∈ s.deliveries := by
  induction es generalizing s with
  | nil => exact ⟨hr, fun p hp _ => hp⟩
  | cons e es ih =>
    obtain ⟨hr', hstep⟩ := hinv.step_dispatched e hr hdone
    obtain ⟨hr'', hrun⟩ := ih (hinv.step e) hr'
    exact ⟨hr'', fun p hp hid => hstep p (hrun p hp hid) hid⟩

/-- A call whose delivery failed postpones its row, which stays pending; a call that dies leaves
it as it was. -/
lemma failed (hinv : OutboxInv s) {d : Dispatch} (hd : d ∈ s.dispatches) {answer : DeliveryAnswer}
    (hanswer : d.answer = some answer) (hfail : ¬ answer.Matches d.message) :
    (∃ r ∈ s.db.outbox, d.message.Carries r ∧ ∃ r' ∈ (s.step (.finish d.call)).db.outbox,
      r.Same r' ∧ r'.dispatchedAt = none ∧ r.availableAt < r'.availableAt ∧
      s.now < r'.availableAt ∧ r'.lastError = some answer.error) ∧
    (s.step (.crash d.call)).db = s.db := by
  obtain ⟨r, hr, hcarries, hpending, havail⟩ := hinv.locked d hd
  refine ⟨⟨r, hr, hcarries, recorded d.message answer s.now r, ?_, recorded_same _ _ _ r, ?_⟩, rfl⟩
  · have hlook : s.dispatches.lookup d.call = some d := Table.lookup_mem hd
    have hfinish : s.finish d.call = some { s with
        db := record d.message answer s.now s.db
        dispatches := s.dispatches.delete (·.call = d.call) } := by
      simp only [OutboxSystem.finish, hlook, Option.bind_eq_bind, Option.bind_some, hanswer]
    simp only [OutboxSystem.step, hfinish, Option.getD_some]
    exact Table.mem_update_of_pos (p := fun r : OutboxRow => r.outboxId = d.message.outboxId) hr
      hcarries.outboxId.symm
  · obtain ⟨hkept, herror, hlater⟩ := recorded_failed hfail s.now r
    exact ⟨hkept.trans hpending, lt_of_le_of_lt havail hlater, hlater, herror⟩

end OutboxInv

open OutboxSystem

/-- **The outbox.** In every run the journal and the outbox hold exactly the events and the
topics of the committed calls of `append`, one row for each; a row is dispatched only after a
matching receipt for its key; a dispatched row is never delivered again; every delivery of a row
carries its key and its payload, so that an adapter which deduplicates by key applies it once; and
a row whose delivery failed stays pending and is postponed. -/
theorem outbox_delivered (workItems : Table WorkItem WorkItem.key) (now : Time)
    (es : List OutboxEvent) :
    let s := run step (start workItems now) es
    (s.db.events.rows = s.appended.map (·.stored) ∧
      s.db.outbox.rows.map (·.content) = (rowsOf s.appended).map (·.content) ∧
      ∀ c ∈ s.appended, (c.outbound.map (·.1.topic)).Nodup) ∧
    (∀ r ∈ s.db.outbox, r.dispatchedAt.isSome →
      ∃ p ∈ s.deliveries, p.1.Carries r ∧ p.2.Matches p.1) ∧
    (∀ r ∈ s.db.outbox, r.dispatchedAt.isSome → ∀ fs, ∀ p ∈ (run step s fs).deliveries,
      p.1.outboxId = r.outboxId → p ∈ s.deliveries) ∧
    (∀ p ∈ s.deliveries, ∃ r ∈ s.db.outbox, p.1.Carries r) ∧
    (((applied [] s.deliveries).map (·.outboxId)).Nodup ∧
      ∀ p ∈ s.deliveries, p.1.outboxId ∈ (applied [] s.deliveries).map (·.outboxId)) ∧
    ∀ d ∈ s.dispatches, ∀ answer ∈ d.answer, ¬ answer.Matches d.message →
      (∃ r ∈ s.db.outbox, d.message.Carries r ∧ ∃ r' ∈ (s.step (.finish d.call)).db.outbox,
        r.Same r' ∧ r'.dispatchedAt = none ∧ r.availableAt < r'.availableAt ∧
        s.now < r'.availableAt ∧ r'.lastError = some answer.error) ∧
      (s.step (.crash d.call)).db = s.db := by
  intro s
  have hinv : OutboxInv s := invariant_run (fun s e h => h.step e) (.start workItems now) es
  exact ⟨⟨hinv.events, hinv.rows, hinv.topics⟩, hinv.dispatched,
    fun r hr hdone fs => (hinv.run_dispatched fs hr hdone).2, hinv.delivered, hinv.applied_once,
    fun d hd answer hanswer hfail => hinv.failed hd hanswer hfail⟩

end AgenticMesh
