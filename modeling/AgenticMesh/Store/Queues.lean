import AgenticMesh.Base.Tx
import AgenticMesh.Schema
import Mathlib.Data.List.MinMax
import Mathlib.Data.Prod.Lex

/-!
# Role queues

The operations of `RoleQueueStore` as transactions on the database: enqueueing,
claiming the first ready item under a new lease, extending a lease, and ending
it by completing or releasing the item.  Every statement that reads
`clock_timestamp()` gets its reading as an argument, and so does the pair of
random identifiers that a claim draws.
-/

namespace AgenticMesh

/-- The exceptions that the queue operations raise. -/
inductive QueueError where
  | value (message : String)
  | notFound (message : String)
  | conflict (message : String)
  | authorization (message : String)
  | leaseExpired (message : String)
  /-- A database error that the store does not translate. -/
  | database (constraint : String)
deriving DecidableEq

/-- A lease that has expired at `now` and was not released yet. -/
def Lease.Expired (projectId : String) (now : Time) (l : Lease) : Prop :=
  l.projectId = projectId ∧ l.released = none ∧ l.expiresAt ≤ now

instance (projectId : String) (now : Time) : DecidablePred (Lease.Expired projectId now) :=
  fun _ => inferInstanceAs (Decidable (_ ∧ _ ∧ _))

/-- A lease with the given credentials that was not released. -/
def Lease.HeldBy (projectId leaseId leaseToken : String) (l : Lease) : Prop :=
  l.key = (projectId, leaseId) ∧ l.leaseToken = leaseToken ∧ l.released = none

instance (projectId leaseId leaseToken : String) :
    DecidablePred (Lease.HeldBy projectId leaseId leaseToken) :=
  fun _ => inferInstanceAs (Decidable (_ ∧ _ ∧ _))

/-- An item of a queue that can be claimed at `now`. -/
def QueueItem.Available (projectId queueId : String) (now : Time) (i : QueueItem) : Prop :=
  i.projectId = projectId ∧ i.queueId = queueId ∧ i.status = .ready ∧ i.availableAt ≤ now

instance (projectId queueId : String) (now : Time) :
    DecidablePred (QueueItem.Available projectId queueId now) :=
  fun _ => inferInstanceAs (Decidable (_ ∧ _ ∧ _ ∧ _))

/-- The order of priorities, as one that computes. -/
instance instPreorderPriority : Preorder ℤ := Int.instLinearOrder.toPreorder

/-- The claim order: `ORDER BY priority DESC, available_at, created_at, queue_item_id`. -/
def QueueItem.claimRank (i : QueueItem) : ℤ ×ₗ Time ×ₗ Time ×ₗ String :=
  toLex (-i.priority, toLex (i.availableAt, toLex (i.createdAt, i.queueItemId)))

/-- The largest value of the type `integer`. -/
def maxInteger : ℕ := 2147483647

/-- What a successful claim returns. -/
structure LeaseClaim where
  projectId : String
  leaseId : String
  leaseToken : String
  queueItem : QueueItem
  ownerInstanceId : String
  acquiredAt : Time
  heartbeatAt : Time
  expiresAt : Time
deriving DecidableEq

/-- The arguments of `enqueue`. -/
structure EnqueueRequest where
  projectId : String
  queueId : String
  queueItemId : String
  workItemId : String
  idempotencyKey : String
  payload : Json
  priority : ℤ := 0
  availableAt : Option Time := none

/-- The arguments of `claim` with the identifiers that it draws. -/
structure ClaimRequest where
  projectId : String
  queueId : String
  ownerInstanceId : String
  leaseSeconds : ℤ
  leaseHex : String
  leaseToken : String

/-- The clock readings of the statements of `claim`. -/
structure ClaimClock where
  reclaimed : Time
  selected : Time
  acquired : Time

/-- The credentials that the holder of a lease presents. -/
structure LeaseCredentials where
  projectId : String
  leaseId : String
  leaseToken : String
deriving DecidableEq

/-! ## The statements -/

/-- The unique keys of `queue_items`, apart from the primary key, leave room for an item. -/
def ItemFresh (i : QueueItem) (db : Db) : Prop :=
  ∀ j ∈ db.queueItems.rows, j.routeKey ≠ i.routeKey

instance (i : QueueItem) (db : Db) : Decidable (ItemFresh i db) :=
  inferInstanceAs (Decidable (∀ _ ∈ _, _))

/-- The unique keys of `leases`, apart from the primary key, leave room for a lease. -/
def LeaseFresh (l : Lease) (db : Db) : Prop :=
  ∀ m ∈ db.leases.rows,
    m.leaseToken ≠ l.leaseToken ∧ (m.released = none → m.itemKey ≠ l.itemKey)

instance (l : Lease) (db : Db) : Decidable (LeaseFresh l db) :=
  inferInstanceAs (Decidable (∀ _ ∈ _, _))

namespace Db

/-- `INSERT INTO queue_items`, against its two unique keys. -/
def insertItem (i : QueueItem) (db : Db) : Option Db :=
  if ItemFresh i db then
    (db.queueItems.insert i).map fun queueItems => { db with queueItems }
  else none

/-- `INSERT INTO leases`, against its primary key, the unique token and
`leases_one_active_per_item_idx`. -/
def insertLease (l : Lease) (db : Db) : Option Db :=
  if LeaseFresh l db then
    (db.leases.insert l).map fun leases => { db with leases }
  else none

/-- The expired leases of a project end, and their items become ready again. -/
def reclaimExpired (projectId : String) (now : Time) (db : Db) : Db :=
  { db with
    leases := db.leases.update (Lease.Expired projectId now)
      { set := fun l => { l with released := some ⟨now, "expired"⟩ } }
    queueItems := db.queueItems.update
      (fun i => i.status = .leased ∧
        db.leases.Any fun l => l.Expired projectId now ∧ l.itemKey = i.key)
      { set := fun i => { i with status := .ready } } }

/-- The first item in claim order that no other transaction has locked
(`FOR UPDATE SKIP LOCKED LIMIT 1`). -/
def nextReady (projectId queueId : String) (now : Time) (locked : List String) (db : Db) :
    Option QueueItem :=
  (db.queueItems.select fun i =>
    i.Available projectId queueId now ∧ i.queueItemId ∉ locked).argmin QueueItem.claimRank

/-- An item is leased once more. -/
def markLeased (item : String × String) (db : Db) : Db :=
  { db with
    queueItems := db.queueItems.update (fun i => i.key = item)
      { set := fun i => { i with status := .leased, attemptCount := i.attemptCount + 1 } } }

/-- A lease is extended to `expiresAt`. -/
def extendLease (lease : String × String) (now expiresAt : Time) (db : Db) : Db :=
  { db with
    leases := db.leases.update (fun l => l.key = lease)
      { set := fun l => { l with heartbeatAt := now, expiresAt } } }

/-- A lease is released and its item gets a new status. -/
def endLease (lease : Lease) (status : ItemStatus) (reason : String) (now : Time) (db : Db) :
    Db :=
  { db with
    leases := db.leases.update (fun l => l.key = lease.key)
      { set := fun l => { l with released := some ⟨now, reason⟩ } }
    queueItems := db.queueItems.update (fun i => i.key = lease.itemKey)
      { set := fun i => { i with status } } }

/-- A queue item is the source of a handoff that was not accepted yet. -/
def AwaitsHandoff (item : String × String) (db : Db) : Prop :=
  db.handoffs.Any fun h => h.sourceKey = item ∧ ¬ h.status.isAccepted

instance (item : String × String) (db : Db) : Decidable (db.AwaitsHandoff item) :=
  inferInstanceAs (Decidable (∃ _ ∈ _, _))

/-! ### The rows after a statement -/

variable {db db' : Db}

lemma insertItem_eq_some {i : QueueItem} :
    db.insertItem i = some db' ↔ ItemFresh i db ∧
      ∃ t, db.queueItems.insert i = some t ∧ db' = { db with queueItems := t } := by
  unfold insertItem
  split
  · next h => simp [h, eq_comm]
  · next h => simp [h]

lemma insertLease_eq_some {l : Lease} :
    db.insertLease l = some db' ↔ LeaseFresh l db ∧
      ∃ t, db.leases.insert l = some t ∧ db' = { db with leases := t } := by
  unfold insertLease
  split
  · next h => simp [h, eq_comm]
  · next h => simp [h]

lemma nextReady_mem {p q : String} {now : Time} {locked : List String} {i : QueueItem}
    (h : db.nextReady p q now locked = some i) : i ∈ db.queueItems ∧ i.Available p q now := by
  have hi := List.argmin_mem h
  rw [Table.mem_select] at hi
  exact ⟨hi.1, hi.2.1⟩

end Db

/-! ## The operations -/

namespace RoleQueueStore

/-- `_required`. -/
def requiredText (value field : String) : Tx Db QueueError String :=
  Tx.demand (fun _ => required value) (.value (field ++ " is required"))

/-- `_validate_lease_seconds`. -/
def validateLeaseSeconds (value : ℤ) : Tx Db QueueError Unit :=
  Tx.require (1 ≤ value ∧ value ≤ 3600) (.value "lease_seconds must be between 1 and 3600")

/-- `_lease_identifiers`. -/
def leaseIdentifiers (c : LeaseCredentials) : Tx Db QueueError LeaseCredentials := do
  let projectId ← requiredText c.projectId "project_id"
  let leaseId ← requiredText c.leaseId "lease_id"
  let leaseToken ← requiredText c.leaseToken "lease_token"
  return { projectId, leaseId, leaseToken }

def enqueue (r : EnqueueRequest) (now : Time) : Tx Db QueueError Unit := do
  let projectId ← requiredText r.projectId "project_id"
  let queueId ← requiredText r.queueId "queue_id"
  let queueItemId ← requiredText r.queueItemId "queue_item_id"
  let workItemId ← requiredText r.workItemId "work_item_id"
  let idempotencyKey ← requiredText r.idempotencyKey "idempotency_key"
  Tx.require (-maxInteger - 1 ≤ r.priority ∧ r.priority ≤ maxInteger)
    (.database "integer out of range")
  Tx.attempt
    (Db.insertItem
      { projectId, queueItemId, queueId, workItemId, status := .ready, priority := r.priority,
        attemptCount := 0, availableAt := r.availableAt.getD now, payload := r.payload,
        idempotencyKey, createdAt := now, routeFingerprint := none })
    (.conflict "queue item or idempotency key already exists")
  let db ← Tx.query id
  Tx.require
    ((db.queues.lookup (projectId, queueId)).isSome ∧
      (db.workItems.lookup (projectId, workItemId)).isSome)
    (.notFound "queue or work item not found in project")

/-- The row that `claim` inserts for an item. -/
def newLease (projectId ownerInstanceId : String) (item : QueueItem) (r : ClaimRequest)
    (now : Time) : Lease where
  projectId
  leaseId := "lease-" ++ r.leaseHex
  queueItemId := item.queueItemId
  ownerInstanceId
  leaseToken := r.leaseToken
  acquiredAt := now
  heartbeatAt := now
  expiresAt := now + seconds r.leaseSeconds
  released := none

def claim (r : ClaimRequest) (clock : ClaimClock) (locked : List String) :
    Tx Db QueueError (Option LeaseClaim) := do
  let projectId ← requiredText r.projectId "project_id"
  let queueId ← requiredText r.queueId "queue_id"
  let ownerInstanceId ← requiredText r.ownerInstanceId "owner_instance_id"
  validateLeaseSeconds r.leaseSeconds
  let queue ← Tx.demand (fun db => db.queues.lookup (projectId, queueId))
    (.notFound "queue or role instance not found")
  let inst ← Tx.demand (fun db => db.instances.lookup (projectId, ownerInstanceId))
    (.notFound "queue or role instance not found")
  Tx.require (¬ queue.paused) (.conflict "queue is paused")
  Tx.require (queue.roleId = inst.roleId ∧ inst.status = .running)
    (.authorization "role instance cannot claim this role queue")
  Tx.modify (Db.reclaimExpired projectId clock.reclaimed)
  let next ← Tx.query (Db.nextReady projectId queueId clock.selected locked)
  match next with
  | none => return none
  | some item => do
    let lease := newLease projectId ownerInstanceId item r clock.acquired
    Tx.attempt (Db.insertLease lease) (.database "leases_lease_token_key")
    Tx.require (item.attemptCount < maxInteger) (.database "integer out of range")
    Tx.modify (Db.markLeased item.key)
    return some
      { projectId, leaseId := lease.leaseId, leaseToken := r.leaseToken,
        queueItem := { item with status := .leased, attemptCount := item.attemptCount + 1 },
        ownerInstanceId, acquiredAt := lease.acquiredAt, heartbeatAt := lease.heartbeatAt,
        expiresAt := lease.expiresAt }

/-- `_lock_active_lease`: the unreleased lease with these credentials. -/
def lockActiveLease (c : LeaseCredentials) : Tx Db QueueError Lease :=
  Tx.demand (fun db => db.leases.find (Lease.HeldBy c.projectId c.leaseId c.leaseToken))
    (.authorization "active lease token is invalid")

def heartbeat (c : LeaseCredentials) (leaseSeconds : ℤ) (lockedAt now : Time) :
    Tx Db QueueError Time := do
  let c ← leaseIdentifiers c
  validateLeaseSeconds leaseSeconds
  let lease ← lockActiveLease c
  Tx.require (lockedAt < lease.expiresAt) (.leaseExpired "lease has expired")
  let expiresAt := now + seconds leaseSeconds
  Tx.require (lease.acquiredAt < expiresAt) (.database "leases_expiry_after_acquired_check")
  Tx.modify (Db.extendLease lease.key now expiresAt)
  return expiresAt

/-- `_finish_lease`.  A completed item must not wait for the acceptance of a handoff. -/
def finishLease (c : LeaseCredentials) (itemStatus : ItemStatus) (reason : String)
    (lockedAt now : Time) : Tx Db QueueError String := do
  let c ← leaseIdentifiers c
  let lease ← lockActiveLease c
  Tx.require (lockedAt < lease.expiresAt) (.leaseExpired "lease has expired")
  let db ← Tx.query id
  Tx.require (itemStatus = .completed → ¬ db.AwaitsHandoff lease.itemKey)
    (.conflict "source work cannot complete before handoff acceptance")
  Tx.modify (Db.endLease lease itemStatus reason now)
  return lease.queueItemId

def complete (c : LeaseCredentials) (lockedAt now : Time) : Tx Db QueueError String :=
  finishLease c .completed "completed" lockedAt now

def release (c : LeaseCredentials) (lockedAt now : Time) : Tx Db QueueError String :=
  finishLease c .ready "released" lockedAt now

/-! ## What the operations do -/

section

variable {α : Type} {db db' : Db}

lemma requiredText_bind_ok {value field : String} {f : String → Tx Db QueueError α}
    {r : α × Db} : (requiredText value field >>= f) db = .ok r ↔
      ∃ s, required value = some s ∧ f s db = .ok r := Tx.demand_bind_ok

lemma validateLeaseSeconds_bind_ok {n : ℤ} {f : Unit → Tx Db QueueError α} {r : α × Db} :
    (validateLeaseSeconds n >>= f) db = .ok r ↔ (1 ≤ n ∧ n ≤ 3600) ∧ f () db = .ok r :=
  Tx.require_bind_ok

/-- Credentials and their stripped form. -/
def Normalized (c d : LeaseCredentials) : Prop :=
  required c.projectId = some d.projectId ∧ required c.leaseId = some d.leaseId ∧
    required c.leaseToken = some d.leaseToken

lemma leaseIdentifiers_ok {c : LeaseCredentials} {r : LeaseCredentials × Db} :
    leaseIdentifiers c db = .ok r ↔ Normalized c r.1 ∧ r.2 = db := by
  obtain ⟨⟨p, l, t⟩, db'⟩ := r
  simp only [leaseIdentifiers, Normalized, requiredText_bind_ok, Tx.pure_ok, Prod.mk.injEq,
    LeaseCredentials.mk.injEq]
  constructor
  · rintro ⟨_, hp, _, hl, _, ht, ⟨rfl, rfl, rfl⟩, rfl⟩
    exact ⟨⟨hp, hl, ht⟩, rfl⟩
  · rintro ⟨⟨hp, hl, ht⟩, rfl⟩
    exact ⟨p, hp, l, hl, t, ht, ⟨rfl, rfl, rfl⟩, rfl⟩

lemma leaseIdentifiers_bind_ok {c : LeaseCredentials} {f : LeaseCredentials → Tx Db QueueError α}
    {r : α × Db} : (leaseIdentifiers c >>= f) db = .ok r ↔ ∃ d, Normalized c d ∧ f d db = .ok r :=
  Tx.bind_of_ok_iff fun _ => leaseIdentifiers_ok

lemma lockActiveLease_bind_ok {d : LeaseCredentials} {f : Lease → Tx Db QueueError α}
    {r : α × Db} (h : (lockActiveLease d >>= f) db = .ok r) :
    ∃ l ∈ db.leases, l.HeldBy d.projectId d.leaseId d.leaseToken ∧ f l db = .ok r := by
  obtain ⟨l, hl, hf⟩ := Tx.demand_bind_ok.1 h
  obtain ⟨hmem, hheld⟩ := Table.mem_of_find hl
  exact ⟨l, hmem, hheld, hf⟩

end

/-- What a committed `enqueue` did. -/
lemma enqueue_ok {r : EnqueueRequest} {now : Time} {db db' : Db}
    (h : enqueue r now db = .ok ((), db')) :
    ∃ i : QueueItem, i.status = .ready ∧ i.attemptCount = 0 ∧ i.createdAt = now ∧
      i.routeFingerprint = none ∧ required r.projectId = some i.projectId ∧
      required r.queueItemId = some i.queueItemId ∧ required r.queueId = some i.queueId ∧
      required r.workItemId = some i.workItemId ∧
      required r.idempotencyKey = some i.idempotencyKey ∧ db.insertItem i = some db' := by
  simp only [enqueue, requiredText_bind_ok, Tx.require_bind_ok, Tx.attempt_bind_ok,
    Tx.query_bind_ok, Tx.require_ok] at h
  obtain ⟨p, hp, q, hq, i, hi, w, hw, k, hk, -, db₁, hins, -, rfl⟩ := h
  exact ⟨_, rfl, rfl, rfl, rfl, hp, hi, hq, hw, hk, hins⟩

/-- What a successful claim of `item` returns. -/
def claimOf (p o : String) (item : QueueItem) (r : ClaimRequest) (now : Time) : LeaseClaim where
  projectId := p
  leaseId := "lease-" ++ r.leaseHex
  leaseToken := r.leaseToken
  queueItem := { item with status := .leased, attemptCount := item.attemptCount + 1 }
  ownerInstanceId := o
  acquiredAt := now
  heartbeatAt := now
  expiresAt := now + seconds r.leaseSeconds

/-- What a committed `claim` did: it reclaimed, and leased the next ready item if there was
one. -/
lemma claim_ok {r : ClaimRequest} {clock : ClaimClock} {locked : List String} {db db' : Db}
    {c : Option LeaseClaim} (h : claim r clock locked db = .ok (c, db')) :
    ∃ p q o queue inst, required r.projectId = some p ∧ required r.queueId = some q ∧
      required r.ownerInstanceId = some o ∧ (1 ≤ r.leaseSeconds ∧ r.leaseSeconds ≤ 3600) ∧
      db.queues.lookup (p, q) = some queue ∧ db.instances.lookup (p, o) = some inst ∧
      queue.paused = false ∧ queue.roleId = inst.roleId ∧ inst.status = .running ∧
      (((db.reclaimExpired p clock.reclaimed).nextReady p q clock.selected locked = none ∧
          c = none ∧ db' = db.reclaimExpired p clock.reclaimed) ∨
        ∃ item db₁,
          (db.reclaimExpired p clock.reclaimed).nextReady p q clock.selected locked = some item ∧
          (db.reclaimExpired p clock.reclaimed).insertLease
            (newLease p o item r clock.acquired) = some db₁ ∧
          db' = db₁.markLeased item.key ∧ c = some (claimOf p o item r clock.acquired)) := by
  simp only [claim, requiredText_bind_ok, validateLeaseSeconds_bind_ok, Tx.require_bind_ok,
    Tx.demand_bind_ok, Tx.modify_bind_ok, Tx.query_bind_ok] at h
  obtain ⟨p, hp, q, hq, o, ho, hsec, queue, hqueue, inst, hinst, hpaused, hrole, h⟩ := h
  refine ⟨p, q, o, queue, inst, hp, hq, ho, hsec, hqueue, hinst, by simpa using hpaused, hrole.1,
    hrole.2, ?_⟩
  cases hready : (db.reclaimExpired p clock.reclaimed).nextReady p q clock.selected locked with
  | none =>
    rw [hready] at h
    simp only [Tx.pure_ok, Prod.mk.injEq] at h
    exact Or.inl ⟨rfl, h⟩
  | some item =>
    rw [hready] at h
    simp only [Tx.attempt_bind_ok, Tx.require_bind_ok, Tx.modify_bind_ok, Tx.pure_ok,
      Prod.mk.injEq] at h
    obtain ⟨db₁, hins, -, rfl, rfl⟩ := h
    exact Or.inr ⟨item, _, rfl, hins, rfl, rfl⟩

/-- A claim that finds no item still reclaims the expired leases. -/
lemma claim_of_none {r : ClaimRequest} (clock : ClaimClock) {locked : List String} (db : Db)
    {p q o : String} {queue : RoleQueue} {inst : RoleInstance} (hp : required r.projectId = some p)
    (hq : required r.queueId = some q) (ho : required r.ownerInstanceId = some o)
    (hseconds : 1 ≤ r.leaseSeconds ∧ r.leaseSeconds ≤ 3600)
    (hqueue : db.queues.lookup (p, q) = some queue) (hinst : db.instances.lookup (p, o) = some inst)
    (hpaused : queue.paused = false) (hrole : queue.roleId = inst.roleId)
    (hrunning : inst.status = .running)
    (hnone : (db.reclaimExpired p clock.reclaimed).nextReady p q clock.selected locked = none) :
    claim r clock locked db = .ok (none, db.reclaimExpired p clock.reclaimed) := by
  simp only [claim, requiredText_bind_ok, validateLeaseSeconds_bind_ok, Tx.require_bind_ok,
    Tx.demand_bind_ok, Tx.modify_bind_ok, Tx.query_bind_ok]
  refine ⟨p, hp, q, hq, o, ho, hseconds, queue, hqueue, inst, hinst, by simpa using hpaused,
    ⟨hrole, hrunning⟩, ?_⟩
  rw [hnone]
  rfl

/-- The lease that presented credentials name, unreleased and unexpired at `lockedAt`. -/
def Holds (c : LeaseCredentials) (lockedAt : Time) (l : Lease) (db : Db) : Prop :=
  ∃ d, Normalized c d ∧ l ∈ db.leases ∧ l.HeldBy d.projectId d.leaseId d.leaseToken ∧
    lockedAt < l.expiresAt

lemma heartbeat_ok {c : LeaseCredentials} {n : ℤ} {lockedAt now t : Time} {db db' : Db}
    (h : heartbeat c n lockedAt now db = .ok (t, db')) :
    ∃ l, Holds c lockedAt l db ∧ l.acquiredAt < t ∧ t = now + seconds n ∧
      db' = db.extendLease l.key now t := by
  simp only [heartbeat, leaseIdentifiers_bind_ok, validateLeaseSeconds_bind_ok] at h
  obtain ⟨d, hd, -, h⟩ := h
  obtain ⟨l, hmem, hheld, h⟩ := lockActiveLease_bind_ok h
  simp only [Tx.require_bind_ok, Tx.modify_bind_ok, Tx.pure_ok, Prod.mk.injEq] at h
  obtain ⟨hexp, hacq, rfl, rfl⟩ := h
  exact ⟨l, ⟨d, hd, hmem, hheld, hexp⟩, hacq, rfl, rfl⟩

lemma finishLease_ok {c : LeaseCredentials} {status : ItemStatus} {reason item : String}
    {lockedAt now : Time} {db db' : Db}
    (h : finishLease c status reason lockedAt now db = .ok (item, db')) :
    ∃ l, Holds c lockedAt l db ∧ (status = .completed → ¬ db.AwaitsHandoff l.itemKey) ∧
      item = l.queueItemId ∧ db' = db.endLease l status reason now := by
  simp only [finishLease, leaseIdentifiers_bind_ok] at h
  obtain ⟨d, hd, h⟩ := h
  obtain ⟨l, hmem, hheld, h⟩ := lockActiveLease_bind_ok h
  simp only [Tx.require_bind_ok, Tx.query_bind_ok, Tx.modify_bind_ok, Tx.pure_ok,
    Prod.mk.injEq] at h
  obtain ⟨hexp, hhand, rfl, rfl⟩ := h
  exact ⟨l, ⟨d, hd, hmem, hheld, hexp⟩, hhand, rfl, rfl⟩

/-- Ending a lease with its own credentials: only its expiry and an unaccepted handoff can stop
that. -/
lemma finishLease_of_heldBy {c : LeaseCredentials} (hc : Normalized c c) {db : Db} {l : Lease}
    (hl : l ∈ db.leases) (hheld : l.HeldBy c.projectId c.leaseId c.leaseToken)
    (status : ItemStatus) (reason : String) (lockedAt now : Time) :
    finishLease c status reason lockedAt now db =
      if lockedAt < l.expiresAt then
        if status = .completed → ¬ db.AwaitsHandoff l.itemKey then
          .ok (l.queueItemId, db.endLease l status reason now)
        else .error (.conflict "source work cannot complete before handoff acceptance")
      else .error (.leaseExpired "lease has expired") := by
  have hids : leaseIdentifiers c db = .ok (c, db) := leaseIdentifiers_ok.2 ⟨hc, rfl⟩
  have hlock : lockActiveLease c db = .ok (l, db) := by
    refine Tx.demand_of_some (Table.find_eq_some hl hheld ?_)
    intro m hm hmheld
    exact db.leases.eq_of_key hm hl (hmheld.1.trans hheld.1.symm)
  unfold finishLease
  rw [Tx.bind_of_ok hids, Tx.bind_of_ok hlock]
  split
  · next hexp =>
    rw [Tx.bind_of_ok (Tx.require_of_pos hexp)]
    split
    · next hawait =>
      have hquery : (Tx.query id : Tx Db QueueError Db) db = .ok (db, db) := rfl
      rw [Tx.bind_of_ok hquery, Tx.bind_of_ok (Tx.require_of_pos hawait)]
      rfl
    · next hawait =>
      have hquery : (Tx.query id : Tx Db QueueError Db) db = .ok (db, db) := rfl
      rw [Tx.bind_of_ok hquery, Tx.bind_of_error (Tx.require_of_neg hawait)]
  · next hexp => rw [Tx.bind_of_error (Tx.require_of_neg hexp)]

/-- Extending a lease with its own credentials: only its expiry can stop that, and a new expiry
before its start. -/
lemma heartbeat_of_heldBy {c : LeaseCredentials} (hc : Normalized c c) {db : Db} {l : Lease}
    (hl : l ∈ db.leases) (hheld : l.HeldBy c.projectId c.leaseId c.leaseToken) {n : ℤ}
    (hn : 1 ≤ n ∧ n ≤ 3600) (lockedAt now : Time) :
    heartbeat c n lockedAt now db =
      if lockedAt < l.expiresAt then
        if l.acquiredAt < now + seconds n then
          .ok (now + seconds n, db.extendLease l.key now (now + seconds n))
        else .error (.database "leases_expiry_after_acquired_check")
      else .error (.leaseExpired "lease has expired") := by
  have hids : leaseIdentifiers c db = .ok (c, db) := leaseIdentifiers_ok.2 ⟨hc, rfl⟩
  have hseconds : validateLeaseSeconds n db = .ok ((), db) := Tx.require_of_pos hn
  have hlock : lockActiveLease c db = .ok (l, db) := by
    refine Tx.demand_of_some (Table.find_eq_some hl hheld ?_)
    intro m hm hmheld
    exact db.leases.eq_of_key hm hl (hmheld.1.trans hheld.1.symm)
  unfold heartbeat
  rw [Tx.bind_of_ok hids, Tx.bind_of_ok hseconds, Tx.bind_of_ok hlock]
  split
  · next hexp =>
    rw [Tx.bind_of_ok (Tx.require_of_pos hexp)]
    split
    · next hacquired =>
      rw [Tx.bind_of_ok (Tx.require_of_pos hacquired)]
      rfl
    · next hacquired => rw [Tx.bind_of_error (Tx.require_of_neg hacquired)]
  · next hexp => rw [Tx.bind_of_error (Tx.require_of_neg hexp)]

end RoleQueueStore

end AgenticMesh
