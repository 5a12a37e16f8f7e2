import AgenticMesh.Base.Sha256
import AgenticMesh.Base.Tx
import AgenticMesh.Store.Queues

/-!
# Routing work to a role

`Router.route_in_transaction` puts a work item on the queue of a target role.
The pair of project and idempotency key decides the identifier of the routed
item, and a second route with the same pair returns the first item or is
rejected, so one pair stands for one queue item.
-/

namespace AgenticMesh

/-- The exceptions that routing raises. -/
inductive RoutingError where
  | value (message : String)
  | notFound (message : String)
  | conflict (message : String)
  /-- `RoutingError("routing operation failed")`. -/
  | store
  /-- `psycopg.errors.UniqueViolation`. -/
  | uniqueViolation
deriving DecidableEq

/-- The arguments of `route`. -/
structure RouteDraft where
  projectId : String
  workItemId : String
  targetRoleId : String
  idempotencyKey : String
  payload : Json
  capability : Option String := none
  priority : ℤ := 0
  availableAt : Option Time := none
deriving DecidableEq

/-- An optional identifier. -/
def optionalIdentifier : Option String → Option (Option String)
  | none => some none
  | some s => (identifier s).map some

/-- The range of the type `integer`. -/
def IsInteger (n : ℤ) : Prop := -maxInteger - 1 ≤ n ∧ n ≤ maxInteger

instance (n : ℤ) : Decidable (IsInteger n) := inferInstanceAs (Decidable (_ ∧ _))

namespace RouteDraft

/-- `RouteDraft.__post_init__`: the normalized draft. -/
def init (d : RouteDraft) : Tx Db RoutingError RouteDraft := do
  let projectId ← Tx.demand (fun _ => identifier d.projectId) (.value "project_id is invalid")
  let workItemId ← Tx.demand (fun _ => identifier d.workItemId) (.value "work_item_id is invalid")
  let targetRoleId ← Tx.demand (fun _ => identifier d.targetRoleId)
    (.value "target_role_id is invalid")
  let idempotencyKey ← Tx.demand (fun _ => identifier d.idempotencyKey)
    (.value "idempotency_key is invalid")
  let capability ← Tx.demand (fun _ => optionalIdentifier d.capability)
    (.value "capability is invalid")
  Tx.require (IsInteger d.priority) (.value "priority is invalid")
  return { d with projectId, workItemId, targetRoleId, idempotencyKey, capability }

/-- The digest of `_fingerprint`, which refuses a payload that is not JSON first. -/
def fingerprint (d : RouteDraft) : String :=
  sha256Hex <| Json.dumps <| .obj [
    ("available_at", .ofOption (d.availableAt.map isoformat)),
    ("capability", .ofOption d.capability),
    ("payload", d.payload),
    ("priority", .int d.priority),
    ("target_role_id", .str d.targetRoleId),
    ("work_item_id", .str d.workItemId)]

end RouteDraft

/-- `_route_item_id`. -/
def routeItemId (projectId idempotencyKey : String) : String :=
  "route-" ++ digestOf 32 [projectId, idempotencyKey]

/-- An active queue of a role with exactly this capability. -/
def RoleQueue.Targets (d : RouteDraft) (db : Db) (q : RoleQueue) : Prop :=
  q.projectId = d.projectId ∧ q.roleId = d.targetRoleId ∧ q.capability = d.capability ∧
    q.paused = false ∧ db.roles.Any fun r => r.key = (q.projectId, q.roleId) ∧ r.status = .active

instance (d : RouteDraft) (db : Db) : DecidablePred (RoleQueue.Targets d db) := fun _ =>
  inferInstanceAs (Decidable (_ ∧ _ ∧ _ ∧ _ ∧ _))

/-- The queue item of an idempotency key, joined with its queue. -/
def Db.itemByKey (projectId idempotencyKey : String) (db : Db) : Option QueueItem :=
  db.queueItems.find fun i =>
    i.routeKey = (projectId, idempotencyKey) ∧
      db.queues.Any fun q => q.key = (i.projectId, i.queueId)

namespace Router

/-- `_existing`. -/
def existing (d : RouteDraft) : Tx Db RoutingError (Option QueueItem) := do
  let row ← Tx.query (Db.itemByKey d.projectId d.idempotencyKey)
  match row with
  | none => return none
  | some item => do
    Tx.require (item.routeFingerprint = some d.fingerprint)
      (.conflict "idempotency key is already used by different work")
    return some item

/-- The row that a route inserts. -/
def newItem (d : RouteDraft) (queue : RoleQueue) (now : Time) : QueueItem where
  projectId := d.projectId
  queueItemId := routeItemId d.projectId d.idempotencyKey
  queueId := queue.queueId
  workItemId := d.workItemId
  status := .ready
  priority := d.priority
  attemptCount := 0
  availableAt := d.availableAt.getD now
  payload := d.payload
  idempotencyKey := d.idempotencyKey
  createdAt := now
  routeFingerprint := some d.fingerprint

/-- `route_in_transaction` on a normalized draft. -/
def routeInTransaction (d : RouteDraft) (now : Time) : Tx Db RoutingError QueueItem := do
  Tx.require (d.payload.dumpable = true) (.value "route payload must contain JSON values")
  let found ← existing d
  match found with
  | some item => return item
  | none => do
    let _ ← Tx.demand (fun db => db.workItems.lookup (d.projectId, d.workItemId))
      (.notFound "project work item not found")
    let queue ← Tx.demand (fun db => db.queues.find (RoleQueue.Targets d db))
      (.notFound "active role capability target not found")
    let item := newItem d queue now
    Tx.attempt (Db.insertItem item) .uniqueViolation
    return item

/-- `route`: a draft is normalized and routed in a transaction of its own, whose `ValueError` is
`RoutingError("routing operation failed")`. -/
def route (d : RouteDraft) (now : Time) : Tx Db RoutingError QueueItem := do
  let d ← d.init
  Tx.mapError
    (fun
      | .uniqueViolation => .conflict "route idempotency conflict"
      | .value _ => .store
      | e => e)
    (routeInTransaction d now)

/-! ## What a route does -/

variable {d : RouteDraft} {db db' : Db} {now : Time} {item : QueueItem}

/-- `_existing` only reads; it found the item of the key if there is one. -/
lemma existing_ok {found : Option QueueItem} (h : existing d db = .ok (found, db')) :
    db' = db ∧ ∀ item, found = some item → item ∈ db.queueItems ∧
      item.routeKey = (d.projectId, d.idempotencyKey) ∧
      item.routeFingerprint = some d.fingerprint := by
  rw [existing, Tx.query_bind_ok] at h
  cases hkey : db.itemByKey d.projectId d.idempotencyKey with
  | none =>
    rw [hkey] at h
    simp only [Tx.pure_ok, Prod.mk.injEq] at h
    obtain ⟨rfl, rfl⟩ := h
    exact ⟨rfl, fun item hitem => by simp at hitem⟩
  | some i =>
    rw [hkey] at h
    simp only [Tx.require_bind_ok, Tx.pure_ok, Prod.mk.injEq] at h
    obtain ⟨hfingerprint, rfl, rfl⟩ := h
    obtain ⟨hi, hk, -⟩ := Table.mem_of_find hkey
    refine ⟨rfl, fun item hitem => ?_⟩
    obtain rfl := Option.some.inj hitem
    exact ⟨hi, hk, hfingerprint⟩

/-- A committed route returned the item of its key or inserted it. -/
lemma routeInTransaction_ok (h : routeInTransaction d now db = .ok (item, db')) :
    (db' = db ∧ item ∈ db.queueItems ∧ item.routeKey = (d.projectId, d.idempotencyKey) ∧
        item.routeFingerprint = some d.fingerprint) ∨
      ∃ queue ∈ db.queues, RoleQueue.Targets d db queue ∧
        (db.workItems.lookup (d.projectId, d.workItemId)).isSome ∧
        item = newItem d queue now ∧ db.insertItem item = some db' := by
  rw [routeInTransaction, Tx.require_bind_ok, Tx.bind_ok] at h
  obtain ⟨-, found, db₁, hfound, h⟩ := h
  obtain ⟨rfl, hexisting⟩ := existing_ok hfound
  cases found with
  | some i =>
    simp only [Tx.pure_ok, Prod.mk.injEq] at h
    obtain ⟨rfl, rfl⟩ := h
    exact Or.inl ⟨rfl, hexisting item rfl⟩
  | none =>
    simp only [Tx.demand_bind_ok, Tx.attempt_bind_ok, Tx.pure_ok, Prod.mk.injEq] at h
    obtain ⟨w, hw, queue, hqueue, db₂, hins, rfl, rfl⟩ := h
    obtain ⟨hmem, htarget⟩ := Table.mem_of_find hqueue
    exact Or.inr ⟨queue, hmem, htarget, by rw [hw]; rfl, rfl, hins⟩

/-- A committed route changes nothing but the queue items. -/
lemma routeInTransaction_items (h : routeInTransaction d now db = .ok (item, db')) :
    ∃ queueItems, db' = { db with queueItems } := by
  obtain ⟨rfl, -⟩ | ⟨_, -, -, -, -, hins⟩ := routeInTransaction_ok h
  · exact ⟨_, rfl⟩
  · unfold Db.insertItem at hins
    split at hins
    · obtain ⟨queueItems, -, rfl⟩ := Option.map_eq_some_iff.1 hins
      exact ⟨queueItems, rfl⟩
    · simp at hins

lemma init_ok {d' : RouteDraft} (h : d.init db = .ok (d', db')) :
    db' = db ∧ identifier d.projectId = some d'.projectId ∧
      identifier d.workItemId = some d'.workItemId ∧
      identifier d.targetRoleId = some d'.targetRoleId ∧
      identifier d.idempotencyKey = some d'.idempotencyKey := by
  simp only [RouteDraft.init, Tx.demand_bind_ok, Tx.require_bind_ok, Tx.pure_ok,
    Prod.mk.injEq] at h
  obtain ⟨p, hp, w, hw, t, ht, k, hk, c, hc, -, rfl, rfl⟩ := h
  exact ⟨rfl, hp, hw, ht, hk⟩

lemma route_ok (h : route d now db = .ok (item, db')) :
    ∃ d' : RouteDraft, identifier d.projectId = some d'.projectId ∧
      identifier d.idempotencyKey = some d'.idempotencyKey ∧
      routeInTransaction d' now db = .ok (item, db') := by
  rw [route, Tx.bind_ok] at h
  obtain ⟨d', db₁, hinit, h⟩ := h
  obtain ⟨rfl, hp, -, -, hk⟩ := init_ok hinit
  rw [Tx.mapError_ok] at h
  exact ⟨d', hp, hk, h⟩

/-- Nothing has the key of a draft or the identifier derived from it, and an active queue takes
its work item. -/
structure Room (d : RouteDraft) (db : Db) : Prop where
  work : (db.workItems.lookup (d.projectId, d.workItemId)).isSome
  queue : ∃ q ∈ db.queues, RoleQueue.Targets d db q
  items : ∀ i ∈ db.queueItems, i.routeKey ≠ (d.projectId, d.idempotencyKey) ∧
    i.key ≠ (d.projectId, routeItemId d.projectId d.idempotencyKey)

/-- The key of a draft was routed before, with the same content. -/
def Repeated (d : RouteDraft) (db : Db) : Prop :=
  ∃ i, db.itemByKey d.projectId d.idempotencyKey = some i ∧
    i.routeFingerprint = some d.fingerprint

lemma routeInTransaction_of_room (h : Room d db) (hjson : d.payload.dumpable = true) (now : Time) :
    ∃ queue ∈ db.queues, RoleQueue.Targets d db queue ∧ ∃ queueItems,
      db.queueItems.insert (newItem d queue now) = some queueItems ∧
        routeInTransaction d now db = .ok (newItem d queue now, { db with queueItems }) := by
  obtain ⟨w, hw⟩ := Option.isSome_iff_exists.1 h.work
  have hnone : db.itemByKey d.projectId d.idempotencyKey = none :=
    Table.find_eq_none.2 fun i hi hk => (h.items i hi).1 hk.1
  have hfound : existing d db = .ok (none, db) := by
    have hquery : Tx.query (Db.itemByKey d.projectId d.idempotencyKey) db =
        (.ok (none, db) : Except RoutingError _) := by
      rw [Tx.query, hnone]
    rw [existing, Tx.bind_of_ok hquery]
    rfl
  obtain ⟨queue, hqueue⟩ : ∃ queue, db.queues.find (RoleQueue.Targets d db) = some queue := by
    obtain ⟨q, hq, htargets⟩ := h.queue
    by_contra hno
    have hfind := Option.eq_none_iff_forall_ne_some.2 fun q hq => hno ⟨q, hq⟩
    exact Table.find_eq_none.1 hfind q hq htargets
  obtain ⟨hmem, htargets⟩ := Table.mem_of_find hqueue
  obtain ⟨queueItems, hinsert⟩ :=
    Table.insert_isSome_of_fresh (r := newItem d queue now) fun i hi => (h.items i hi).2
  have hinserted : db.insertItem (newItem d queue now) = some { db with queueItems } :=
    Db.insertItem_eq_some.2 ⟨fun i hi => (h.items i hi).1, queueItems, hinsert, rfl⟩
  refine ⟨queue, hmem, htargets, queueItems, hinsert, ?_⟩
  rw [routeInTransaction, Tx.bind_of_ok (Tx.require_of_pos hjson), Tx.bind_of_ok hfound]
  dsimp only
  rw [Tx.bind_of_ok (Tx.demand_of_some
      (g := fun db : Db => db.workItems.lookup (d.projectId, d.workItemId)) hw),
    Tx.bind_of_ok (Tx.demand_of_some
      (g := fun db : Db => db.queues.find (RoleQueue.Targets d db)) hqueue)]
  exact Tx.bind_of_ok (Tx.attempt_of_some hinserted)

/-- **When a draft is routed.** -/
theorem routeInTransaction_iff (d : RouteDraft) (now : Time) (db : Db) :
    (∃ item db', routeInTransaction d now db = .ok (item, db')) ↔
      d.payload.dumpable = true ∧ (Room d db ∨ Repeated d db) := by
  constructor
  · rintro ⟨item, db', h⟩
    rw [routeInTransaction, Tx.require_bind_ok, Tx.bind_ok] at h
    obtain ⟨hjson, found, db₁, hfound, h⟩ := h
    refine ⟨hjson, ?_⟩
    rw [existing, Tx.query_bind_ok] at hfound
    cases hkey : db.itemByKey d.projectId d.idempotencyKey with
    | some i =>
      rw [hkey] at hfound
      simp only [Tx.require_bind_ok] at hfound
      exact Or.inr ⟨i, hkey, hfound.1⟩
    | none =>
      rw [hkey] at hfound
      simp only [Tx.pure_ok, Prod.mk.injEq] at hfound
      obtain ⟨rfl, rfl⟩ := hfound
      simp only [Tx.demand_bind_ok, Tx.attempt_bind_ok] at h
      obtain ⟨w, hw, queue, hqueue, db₂, hins, -⟩ := h
      obtain ⟨hfresh, _, hinsert, -⟩ := Db.insertItem_eq_some.1 hins
      obtain ⟨hmem, htargets⟩ := Table.mem_of_find hqueue
      exact Or.inl ⟨by rw [hw]; rfl, ⟨queue, hmem, htargets⟩, fun i hi =>
        ⟨hfresh i hi, (Table.insert_eq_some.1 hinsert).1 i hi⟩⟩
  · rintro ⟨hjson, h | ⟨i, hkey, hfingerprint⟩⟩
    · obtain ⟨queue, -, -, queueItems, -, hroute⟩ := routeInTransaction_of_room h hjson now
      exact ⟨_, _, hroute⟩
    · have hquery : Tx.query (Db.itemByKey d.projectId d.idempotencyKey) db =
          (.ok (some i, db) : Except RoutingError _) := by
        rw [Tx.query, hkey]
      have hfound : existing d db = .ok (some i, db) := by
        rw [existing, Tx.bind_of_ok hquery]
        exact Tx.bind_of_ok (Tx.require_of_pos hfingerprint)
      exact ⟨i, db, (Tx.bind_of_ok (Tx.require_of_pos hjson)).trans (Tx.bind_of_ok hfound)⟩

end Router

end AgenticMesh
