import AgenticMesh.Store.Routing

/-!
# Handoffs between roles

`HandoffStore`: the holder of a source lease offers work to another role, which
routes a queue item to it; the holder of a lease on that item claims the handoff
and then accepts it.  The idempotency key of an offer stands for one handoff.
-/

namespace AgenticMesh

/-- The exceptions that the handoff operations raise. -/
inductive HandoffError where
  | value (message : String)
  | notFound (message : String)
  | conflict (message : String)
  | authorization (message : String)
  /-- `HandoffError("handoff operation failed")`. -/
  | store
deriving DecidableEq

/-- The arguments of `offer`. -/
structure HandoffOffer where
  projectId : String
  sourceLeaseId : String
  sourceLeaseToken : String
  targetRoleId : String
  idempotencyKey : String
  summary : String
  payload : Json
  capability : Option String := none
  priority : ℤ := 0
deriving DecidableEq

/-- The row of `_source_lease`: a lease with its item and the instance that owns it. -/
structure SourceLease where
  lease : Lease
  item : QueueItem
  inst : RoleInstance
deriving DecidableEq

/-- The clock readings of the statements of `offer`. -/
structure OfferClock where
  checked : Time
  offered : Time
  queued : Time

/-- The arguments of `claim` and `accept`. -/
structure HandoffCredentials where
  projectId : String
  handoffId : String
  leaseId : String
  leaseToken : String
deriving DecidableEq

/-- `_handoff_id`. -/
def handoffIdOf (projectId idempotencyKey : String) : String :=
  "handoff-" ++ digestOf 32 [projectId, idempotencyKey]

/-! ## The statements -/

/-- The unique keys of `handoffs`, apart from the primary key, leave room for a handoff. -/
def HandoffFresh (h : Handoff) (db : Db) : Prop :=
  ∀ g ∈ db.handoffs.rows, g.routeKey ≠ h.routeKey ∧ g.targetKey ≠ h.targetKey

instance (h : Handoff) (db : Db) : Decidable (HandoffFresh h db) :=
  inferInstanceAs (Decidable (∀ _ ∈ _, _))

namespace Db

/-- `INSERT INTO handoffs`, against its primary key, the unique idempotency key and
`handoffs_target_item_key`. -/
def insertHandoff (h : Handoff) (db : Db) : Option Db :=
  if HandoffFresh h db then
    (db.handoffs.insert h).map fun handoffs => { db with handoffs }
  else none

/-- `UPDATE handoffs` of one row. -/
def setHandoff (handoff : String × String) (status : HandoffStatus) (db : Db) : Db :=
  { db with
    handoffs := db.handoffs.update (fun h => h.key = handoff)
      { set := fun h => { h with status } } }

/-- The lease of an offer, released or not, with its item and its owner. -/
def sourceLease (d : HandoffOffer) (db : Db) : Option SourceLease := do
  let lease ← db.leases.find fun l =>
    l.key = (d.projectId, d.sourceLeaseId) ∧ l.leaseToken = d.sourceLeaseToken
  let item ← db.queueItems.lookup lease.itemKey
  let inst ← db.instances.lookup (lease.projectId, lease.ownerInstanceId)
  return { lease, item, inst }

/-- The handoff of an idempotency key. -/
def handoffByKey (projectId idempotencyKey : String) (db : Db) : Option Handoff :=
  db.handoffs.find fun h => h.routeKey = (projectId, idempotencyKey)

end Db

/-- A lease on the target item of a handoff, owned by a running instance of the target role,
neither released nor expired at `now`. -/
def Lease.ActiveTarget (h : Handoff) (c : HandoffCredentials) (now : Time) (db : Db)
    (l : Lease) : Prop :=
  l.key = (c.projectId, c.leaseId) ∧ l.leaseToken = c.leaseToken ∧
    l.queueItemId = h.queueItemId ∧ l.released = none ∧ now < l.expiresAt ∧
    db.instances.Any fun i => i.key = (l.projectId, l.ownerInstanceId) ∧
      i.roleId = h.targetRoleId ∧ i.status = .running

instance (h : Handoff) (c : HandoffCredentials) (now : Time) (db : Db) :
    DecidablePred (Lease.ActiveTarget h c now db) := fun _ =>
  inferInstanceAs (Decidable (_ ∧ _ ∧ _ ∧ _ ∧ _ ∧ _))

/-- Another lease than that of the caller still holds a handoff. -/
def HandoffTarget.StillHeld (projectId : String) (now : Time) (db : Db) (t : HandoffTarget) :
    Prop :=
  db.leases.Any fun l =>
    l.key = (projectId, t.targetLeaseId) ∧ l.released = none ∧ now < l.expiresAt

instance (projectId : String) (now : Time) (db : Db) :
    DecidablePred (HandoffTarget.StillHeld projectId now db) := fun _ =>
  inferInstanceAs (Decidable (∃ _ ∈ _, _))

/-- A lease that work can be offered from. -/
def SourceLease.Active (source : SourceLease) (checked : Time) : Prop :=
  source.item.status = .leased ∧ source.inst.status = .running ∧
    source.lease.released = none ∧ checked < source.lease.expiresAt

instance (source : SourceLease) (checked : Time) : Decidable (source.Active checked) :=
  inferInstanceAs (Decidable (_ ∧ _ ∧ _ ∧ _))

namespace HandoffStore

/-- `HandoffOffer.__post_init__`: the normalized draft. -/
def initOffer (d : HandoffOffer) : Tx Db HandoffError HandoffOffer := do
  let projectId ← Tx.demand (fun _ => identifier d.projectId) (.value "project_id is invalid")
  let sourceLeaseId ← Tx.demand (fun _ => identifier d.sourceLeaseId)
    (.value "source_lease_id is invalid")
  let targetRoleId ← Tx.demand (fun _ => identifier d.targetRoleId)
    (.value "target_role_id is invalid")
  let idempotencyKey ← Tx.demand (fun _ => identifier d.idempotencyKey)
    (.value "idempotency_key is invalid")
  let capability ← Tx.demand (fun _ => optionalIdentifier d.capability)
    (.value "capability is invalid")
  let sourceLeaseToken ← Tx.demand (fun _ => bounded 512 d.sourceLeaseToken)
    (.value "source_lease_token is invalid")
  let summary ← Tx.demand (fun _ => bounded 4000 d.summary) (.value "summary is invalid")
  Tx.require (IsInteger d.priority) (.value "priority is invalid")
  return { d with
    projectId, sourceLeaseId, sourceLeaseToken, targetRoleId, idempotencyKey, summary, capability }

/-- The digest of `_fingerprint`, which refuses a payload that is not JSON first. -/
def fingerprint (d : HandoffOffer) (source : SourceLease) : String :=
  sha256Hex <| Json.dumps <| .obj [
    ("capability", .ofOption d.capability),
    ("payload", d.payload),
    ("priority", .int d.priority),
    ("source_instance_id", .str source.lease.ownerInstanceId),
    ("source_lease_id", .str d.sourceLeaseId),
    ("source_queue_item_id", .str source.lease.queueItemId),
    ("source_role_id", .str source.inst.roleId),
    ("summary", .str d.summary),
    ("target_role_id", .str d.targetRoleId)]

/-- The route of an offer. -/
def routeDraft (d : HandoffOffer) (source : SourceLease) : RouteDraft where
  projectId := d.projectId
  workItemId := source.item.workItemId
  targetRoleId := d.targetRoleId
  idempotencyKey := d.idempotencyKey
  capability := d.capability
  priority := d.priority
  payload := .obj [
    ("handoff", .obj [
      ("handoff_id", .str (handoffIdOf d.projectId d.idempotencyKey)),
      ("source_instance_id", .str source.lease.ownerInstanceId),
      ("source_role_id", .str source.inst.roleId),
      ("summary", .str d.summary)]),
    ("payload", d.payload)]

/-- The row that an offer inserts. -/
def newHandoff (d : HandoffOffer) (source : SourceLease) (routed : QueueItem) (offered : Time) :
    Handoff where
  projectId := d.projectId
  handoffId := handoffIdOf d.projectId d.idempotencyKey
  workItemId := source.item.workItemId
  sourceRoleId := source.inst.roleId
  sourceInstanceId := source.lease.ownerInstanceId
  sourceQueueItemId := source.lease.queueItemId
  sourceLeaseId := d.sourceLeaseId
  targetRoleId := d.targetRoleId
  queueItemId := routed.queueItemId
  summary := d.summary
  idempotencyKey := d.idempotencyKey
  offeredAt := offered
  queuedAt := routed.createdAt
  requestFingerprint := fingerprint d source
  status := .offered

/-- The handler of routing errors in `offer`. -/
def ofRoutingError : RoutingError → HandoffError
  | .value _ => .store
  | .store => .store
  | .notFound message => .notFound message
  | .conflict message => .conflict message
  | .uniqueViolation => .conflict "handoff already exists"

/-- The failure of a statement that finds no lease with a token: the statement itself fails on a
token that no column can hold. -/
def tokenError (token message : String) : HandoffError :=
  if hasNoNul token then .authorization message else .store

/-- `offer` on a normalized draft. -/
def offerIn (d : HandoffOffer) (clock : OfferClock) : Tx Db HandoffError Handoff := do
  let source ← Tx.demand (Db.sourceLease d)
    (tokenError d.sourceLeaseToken "source lease token is invalid")
  Tx.require (d.payload.dumpable = true) .store
  let existing ← Tx.query (Db.handoffByKey d.projectId d.idempotencyKey)
  match existing with
  | some h => do
    Tx.require (h.requestFingerprint = fingerprint d source)
      (.conflict "idempotency key is already used by different work")
    return h
  | none => do
    Tx.require (source.Active clock.checked) (.authorization "source lease is not active")
    let draft ← Tx.mapError ofRoutingError (routeDraft d source).init
    let routed ← Tx.mapError ofRoutingError (Router.routeInTransaction draft clock.queued)
    Tx.require (clock.offered ≤ routed.createdAt)
      (.conflict "idempotency key is already used by routed work without a handoff")
    let handoff := newHandoff d source routed clock.offered
    Tx.attempt (Db.insertHandoff handoff) (.conflict "handoff already exists")
    let db ← Tx.query id
    Tx.require
      ((db.roles.lookup (d.projectId, handoff.sourceRoleId)).isSome ∧
        (db.roles.lookup (d.projectId, d.targetRoleId)).isSome)
      (.notFound "handoff resource not found in project")
    return handoff

def offer (d : HandoffOffer) (clock : OfferClock) : Tx Db HandoffError Handoff := do
  let d ← initOffer d
  offerIn d clock

/-- `_transition_identifiers`. -/
def transitionIdentifiers (c : HandoffCredentials) : Tx Db HandoffError HandoffCredentials := do
  let projectId ← Tx.demand (fun _ => identifier c.projectId) (.value "project_id is invalid")
  let handoffId ← Tx.demand (fun _ => identifier c.handoffId) (.value "handoff_id is invalid")
  let leaseId ← Tx.demand (fun _ => identifier c.leaseId) (.value "lease_id is invalid")
  let leaseToken ← Tx.demand (fun _ => bounded 512 c.leaseToken) (.value "lease_token is invalid")
  return { projectId, handoffId, leaseId, leaseToken }

/-- `_lock`. -/
def lock (c : HandoffCredentials) : Tx Db HandoffError Handoff :=
  Tx.demand (fun db => db.handoffs.lookup (c.projectId, c.handoffId))
    (.notFound "handoff not found")

/-- `_active_target_lease`. -/
def activeTargetLease (h : Handoff) (c : HandoffCredentials) (now : Time) :
    Tx Db HandoffError Lease :=
  Tx.demand (fun db => db.leases.find (Lease.ActiveTarget h c now db))
    (tokenError c.leaseToken "active target lease token is invalid for this handoff")

/-- `_historical_target_lease`. -/
def historicalTargetLease (h : Handoff) (t : HandoffTarget) (c : HandoffCredentials) :
    Tx Db HandoffError Unit := do
  Tx.require (t.targetLeaseId = c.leaseId) (.authorization "target lease does not own this handoff")
  let db ← Tx.query id
  Tx.require
    (db.leases.Any fun l => l.key = (c.projectId, c.leaseId) ∧ l.leaseToken = c.leaseToken ∧
      l.queueItemId = h.queueItemId)
    (tokenError c.leaseToken "target lease token is invalid")

/-- The row of a handoff after its status was set, against `handoffs_timestamp_order_check`. -/
def setStatus (h : Handoff) (status : HandoffStatus) (earlier now : Time) :
    Tx Db HandoffError Handoff := do
  Tx.require (earlier ≤ now) .store
  Tx.modify (Db.setHandoff h.key status)
  return { h with status }

def claim (c : HandoffCredentials) (checked held now : Time) : Tx Db HandoffError Handoff := do
  let c ← transitionIdentifiers c
  let h ← lock c
  match h.status with
  | .accepted t _ => do
    historicalTargetLease h t c
    return h
  | .claimed t => do
    let target ← activeTargetLease h c checked
    if t.targetLeaseId = c.leaseId then return h
    else do
      let db ← Tx.query id
      Tx.require (¬ t.StillHeld c.projectId held db)
        (.conflict "handoff is held by another active lease")
      setStatus h (.claimed ⟨target.ownerInstanceId, c.leaseId, now⟩) h.queuedAt now
  | .offered => do
    let target ← activeTargetLease h c checked
    setStatus h (.claimed ⟨target.ownerInstanceId, c.leaseId, now⟩) h.queuedAt now

def accept (c : HandoffCredentials) (checked now : Time) : Tx Db HandoffError Handoff := do
  let c ← transitionIdentifiers c
  let h ← lock c
  match h.status with
  | .offered => Tx.fail (.conflict "handoff must be claimed before acceptance")
  | .accepted t _ => do
    historicalTargetLease h t c
    return h
  | .claimed t => do
    Tx.require (t.targetLeaseId = c.leaseId)
      (.authorization "target lease does not own this handoff")
    let _ ← activeTargetLease h c checked
    setStatus h (.accepted t now) t.claimedAt now

/-! ## What the operations do -/

section

variable {db db' : Db}

lemma insertHandoff_eq_some {h : Handoff} :
    db.insertHandoff h = some db' ↔ HandoffFresh h db ∧
      ∃ t, db.handoffs.insert h = some t ∧ db' = { db with handoffs := t } := by
  unfold Db.insertHandoff
  split
  · next hf => simp [hf, eq_comm]
  · next hf => simp [hf]

lemma initOffer_ok {d d' : HandoffOffer} (h : initOffer d db = .ok (d', db')) :
    db' = db ∧ identifier d.projectId = some d'.projectId ∧
      identifier d.idempotencyKey = some d'.idempotencyKey := by
  simp only [initOffer, Tx.demand_bind_ok, Tx.require_bind_ok, Tx.pure_ok, Prod.mk.injEq] at h
  obtain ⟨p, hp, l, -, t, -, k, hk, c, -, tok, -, sum, -, -, rfl, rfl⟩ := h
  exact ⟨rfl, hp, hk⟩

/-- A draft keeps its payload, and its token apart from white space around it. -/
lemma initOffer_texts {d d' : HandoffOffer} (h : initOffer d db = .ok (d', db')) :
    d'.payload = d.payload ∧ d'.sourceLeaseToken = strip d.sourceLeaseToken := by
  simp only [initOffer, Tx.demand_bind_ok, Tx.require_bind_ok, Tx.pure_ok, Prod.mk.injEq] at h
  obtain ⟨p, -, l, -, t, -, k, -, c, -, tok, htok, sum, -, -, rfl, -⟩ := h
  refine ⟨rfl, ?_⟩
  rw [bounded] at htok
  split at htok
  · cases htok
  · exact (Option.some.inj htok).symm

/-- A normalized draft is normalized. -/
lemma initOffer_idem {d d' : HandoffOffer} (h : initOffer d db = .ok (d', db')) :
    initOffer d' db = .ok (d', db) := by
  simp only [initOffer, Tx.demand_bind_ok, Tx.require_bind_ok, Tx.pure_ok, Prod.mk.injEq] at h ⊢
  obtain ⟨p, hp, l, hl, t, ht, k, hk, c, hc, tok, htok, sum, hsum, hpriority, rfl, -⟩ := h
  refine ⟨p, identifier_idem hp, l, identifier_idem hl, t, identifier_idem ht, k,
    identifier_idem hk, c, ?_, tok, bounded_idem htok, sum, bounded_idem hsum, hpriority, rfl,
    trivial⟩
  cases hd : d.capability with
  | none =>
    rw [hd] at hc
    obtain rfl := Option.some.inj hc
    rfl
  | some s =>
    rw [hd] at hc
    obtain ⟨s', hs', rfl⟩ := Option.map_eq_some_iff.1 hc
    show (identifier s').map some = _
    rw [identifier_idem hs']
    rfl

/-- A malformed draft is a `ValueError`. -/
lemma initOffer_failsOnly (d : HandoffOffer) :
    (initOffer d).FailsOnly fun e => ∃ m, e = .value m := by
  refine .bind (.demand ⟨_, rfl⟩) fun _ => .bind (.demand ⟨_, rfl⟩) fun _ =>
    .bind (.demand ⟨_, rfl⟩) fun _ => .bind (.demand ⟨_, rfl⟩) fun _ =>
    .bind (.demand ⟨_, rfl⟩) fun _ => .bind (.demand ⟨_, rfl⟩) fun _ =>
    .bind (.demand ⟨_, rfl⟩) fun _ => .bind (.require ⟨_, rfl⟩) fun _ => .pure

lemma sourceLease_eq_some {d : HandoffOffer} {s : SourceLease} (h : db.sourceLease d = some s) :
    s.lease ∈ db.leases ∧ s.item ∈ db.queueItems ∧ s.item.key = s.lease.itemKey ∧
      s.lease.key = (d.projectId, d.sourceLeaseId) := by
  simp only [Db.sourceLease, Option.bind_eq_bind, Option.bind_eq_some_iff, Option.pure_def,
    Option.some.injEq] at h
  obtain ⟨lease, hlease, item, hitem, inst, -, rfl⟩ := h
  obtain ⟨hl, hkey, -⟩ := Table.mem_of_find hlease
  obtain ⟨hi, hik⟩ := Table.lookup_eq_some.1 hitem
  exact ⟨hl, hi, hik, hkey⟩

lemma sourceLease_of {d : HandoffOffer} {s : SourceLease}
    (hlease : db.leases.find (fun l => l.key = (d.projectId, d.sourceLeaseId) ∧
      l.leaseToken = d.sourceLeaseToken) = some s.lease)
    (hitem : db.queueItems.lookup s.lease.itemKey = some s.item)
    (hinst : db.instances.lookup (s.lease.projectId, s.lease.ownerInstanceId) = some s.inst) :
    db.sourceLease d = some s := by
  simp only [Db.sourceLease, hlease, Option.bind_eq_bind, Option.bind_some, hitem, hinst,
    Option.pure_def]

/-- A committed offer that found no handoff of its key: it routed an item, and inserted a
handoff for it. -/
structure Offered (d : HandoffOffer) (clock : OfferClock) (h : Handoff) (db db' : Db) where
  source : SourceLease
  draft : RouteDraft
  routed : QueueItem
  /-- The database after the route. -/
  mid : Db
  source_eq : db.sourceLease d = some source
  unused : ∀ g ∈ db.handoffs, g.routeKey ≠ (d.projectId, d.idempotencyKey)
  leased : source.item.status = .leased
  project_eq : draft.projectId = d.projectId
  key_eq : draft.idempotencyKey = d.idempotencyKey
  route : Router.routeInTransaction draft clock.queued db = .ok (routed, mid)
  offered_le : clock.offered ≤ routed.createdAt
  handoff_eq : h = newHandoff d source routed clock.offered
  insert : mid.insertHandoff h = some db'

/-- What a committed offer did. -/
lemma offerIn_ok {d : HandoffOffer} {clock : OfferClock} {h : Handoff}
    (hp : identifier d.projectId = some d.projectId)
    (hk : identifier d.idempotencyKey = some d.idempotencyKey)
    (hok : offerIn d clock db = .ok (h, db')) :
    (db' = db ∧ h ∈ db.handoffs ∧ h.routeKey = (d.projectId, d.idempotencyKey)) ∨
      Nonempty (Offered d clock h db db') := by
  rw [offerIn, Tx.demand_bind_ok] at hok
  obtain ⟨source, hsource, hok⟩ := hok
  rw [Tx.require_bind_ok, Tx.query_bind_ok] at hok
  obtain ⟨-, hok⟩ := hok
  cases hkey : db.handoffByKey d.projectId d.idempotencyKey with
  | some g =>
    rw [hkey] at hok
    simp only [Tx.require_bind_ok, Tx.pure_ok, Prod.mk.injEq] at hok
    obtain ⟨-, rfl, rfl⟩ := hok
    obtain ⟨hg, hgk⟩ := Table.mem_of_find hkey
    exact Or.inl ⟨rfl, hg, hgk⟩
  | none =>
    rw [hkey] at hok
    simp only [Tx.require_bind_ok] at hok
    obtain ⟨hactive, hok⟩ := hok
    rw [Tx.bind_ok] at hok
    obtain ⟨draft, _, hdraft, hok⟩ := hok
    rw [Tx.mapError_ok] at hdraft
    obtain ⟨rfl, hdp, -, -, hdk⟩ := Router.init_ok hdraft
    rw [Tx.bind_ok] at hok
    obtain ⟨routed, db₁, hroute, hok⟩ := hok
    rw [Tx.mapError_ok] at hroute
    simp only [Tx.require_bind_ok, Tx.attempt_bind_ok, Tx.query_bind_ok, Tx.pure_ok,
      Prod.mk.injEq] at hok
    obtain ⟨htime, db₂, hins, -, rfl, rfl⟩ := hok
    exact Or.inr ⟨source, draft, routed, db₁, hsource, Table.find_eq_none.1 hkey, hactive.1,
      (Option.some.inj (hp.symm.trans hdp)).symm, (Option.some.inj (hk.symm.trans hdk)).symm,
      hroute, htime, rfl, hins⟩

/-- An offer is `offerIn` on the normalized draft. -/
lemma offer_ok {d : HandoffOffer} {clock : OfferClock} {h : Handoff}
    (hok : offer d clock db = .ok (h, db')) :
    ∃ d', identifier d.projectId = some d'.projectId ∧
      identifier d.idempotencyKey = some d'.idempotencyKey ∧
      ((db' = db ∧ h ∈ db.handoffs ∧ h.routeKey = (d'.projectId, d'.idempotencyKey)) ∨
        Nonempty (Offered d' clock h db db')) := by
  rw [offer, Tx.bind_ok] at hok
  obtain ⟨d', db₁, hinit, hok⟩ := hok
  obtain ⟨rfl, hp, hk⟩ := initOffer_ok hinit
  exact ⟨d', hp, hk, offerIn_ok (identifier_idem hp) (identifier_idem hk) hok⟩

/-- An offer is refused before its key is looked at: its draft is malformed, its source lease does
not exist, or its payload is not JSON or its token is no text of the database. -/
def OfferRefused (d : HandoffOffer) (clock : OfferClock) (db : Db) : Prop :=
  (∃ m, offer d clock db = .error (.value m)) ∨
    offer d clock db = .error (.authorization "source lease token is invalid") ∨
    (offer d clock db = .error .store ∧
      (d.payload.dumpable = false ∨ hasNoNul d.sourceLeaseToken = false))

/-- What an offer does with the key of a handoff: it returns the handoff, it fails in conflict, or
it is refused before. -/
lemma offer_of_key {d : HandoffOffer} {clock : OfferClock} {h : Handoff}
    (hunique : db.handoffs.Unique Handoff.routeKey) (hh : h ∈ db.handoffs)
    (hp : identifier d.projectId = some h.projectId)
    (hk : identifier d.idempotencyKey = some h.idempotencyKey) :
    offer d clock db = .ok (h, db) ∨ (∃ m, offer d clock db = .error (.conflict m)) ∨
      OfferRefused d clock db := by
  cases hinit : initOffer d db with
  | error e =>
    obtain ⟨m, rfl⟩ := initOffer_failsOnly d db e hinit
    refine Or.inr (Or.inr (Or.inl ⟨m, ?_⟩))
    rw [offer, Tx.bind_of_error hinit]
  | ok r =>
    obtain ⟨d', db₁⟩ := r
    obtain ⟨rfl, hp', hk'⟩ := initOffer_ok hinit
    have hoffer : offer d clock db₁ = offerIn d' clock db₁ := by
      rw [offer, Tx.bind_of_ok hinit]
    -- the key finds the handoff
    have hfind : db₁.handoffByKey d'.projectId d'.idempotencyKey = some h := by
      have hkey : h.routeKey = (d'.projectId, d'.idempotencyKey) := by
        rw [Handoff.routeKey, Option.some.inj (hp.symm.trans hp'),
          Option.some.inj (hk.symm.trans hk')]
      exact Table.find_eq_some hh hkey fun g hg hgk => hunique g hg h hh (hgk.trans hkey.symm)
    obtain ⟨hpayload, htoken⟩ := initOffer_texts hinit
    rw [OfferRefused, hoffer, offerIn, ← hpayload]
    cases hsource : db₁.sourceLease d' with
    | none =>
      rw [Tx.bind_of_error (Tx.demand_of_none hsource), tokenError]
      cases hnul : hasNoNul d'.sourceLeaseToken with
      | true => exact Or.inr (Or.inr (Or.inr (Or.inl rfl)))
      | false =>
        refine Or.inr (Or.inr (Or.inr (Or.inr ⟨rfl, Or.inr ?_⟩)))
        rw [htoken] at hnul
        by_contra hwhole
        rw [hasNoNul_strip (by simpa using hwhole)] at hnul
        cases hnul
    | some source =>
      rw [Tx.bind_of_ok (Tx.demand_of_some hsource)]
      cases hjson : d'.payload.dumpable with
      | false =>
        rw [Tx.bind_of_error (Tx.require_of_neg (by simp))]
        exact Or.inr (Or.inr (Or.inr (Or.inr ⟨rfl, Or.inl rfl⟩)))
      | true =>
      rw [Tx.bind_of_ok (Tx.require_of_pos rfl)]
      have hquery : Tx.query (Db.handoffByKey d'.projectId d'.idempotencyKey) db₁ =
          (.ok (some h, db₁) : Except HandoffError _) := by
        rw [Tx.query, hfind]
      rw [Tx.bind_of_ok hquery]
      dsimp only
      by_cases hfp : h.requestFingerprint = fingerprint d' source
      · rw [Tx.bind_of_ok (Tx.require_of_pos hfp)]
        exact Or.inl rfl
      · rw [Tx.bind_of_error (Tx.require_of_neg hfp)]
        exact Or.inr (Or.inl ⟨_, rfl⟩)

/-- Nothing has the key of an offer or the identifiers derived from it, and an active queue takes
the work item of the source lease. -/
structure OfferRoom (d : HandoffOffer) (source : SourceLease) (db : Db) : Prop where
  route : ∃ workItemId, identifier source.item.workItemId = some workItemId ∧
    Router.Room { routeDraft d source with workItemId } db
  handoffs : ∀ h ∈ db.handoffs, h.key ≠ (d.projectId, handoffIdOf d.projectId d.idempotencyKey) ∧
    h.targetKey ≠ (d.projectId, routeItemId d.projectId d.idempotencyKey)
  role : (db.roles.lookup (d.projectId, source.inst.roleId)).isSome

section

variable {d : HandoffOffer} {source : SourceLease} {clock : OfferClock}

/-- The route of a normalized offer is normalized up to its work item. -/
lemma routeDraft_init_ok (source : SourceLease) (hd : initOffer d db = .ok (d, db))
    {draft : RouteDraft} :
    (routeDraft d source).init db = .ok (draft, db') ↔
      db' = db ∧ ∃ workItemId, identifier source.item.workItemId = some workItemId ∧
        draft = { routeDraft d source with workItemId } := by
  simp only [initOffer, Tx.demand_bind_ok, Tx.require_bind_ok, Tx.pure_ok, Prod.mk.injEq] at hd
  obtain ⟨p, hp, l, -, t, ht, k, hk, c, hc, tok, -, sum, -, hpriority, hsame, -⟩ := hd
  have hproject : d.projectId = p := by rw [hsame]
  have htarget : d.targetRoleId = t := by rw [hsame]
  have hkey : d.idempotencyKey = k := by rw [hsame]
  have hcapability : d.capability = c := by rw [hsame]
  rw [← hproject] at hp
  rw [← htarget] at ht
  rw [← hkey] at hk
  rw [← hcapability] at hc
  simp only [RouteDraft.init, Tx.demand_bind_ok, Tx.require_bind_ok, Tx.pure_ok, Prod.mk.injEq]
  constructor
  · rintro ⟨p', hp', w, hw, t', ht', k', hk', c', hc', -, rfl, rfl⟩
    obtain rfl := Option.some.inj (hp'.symm.trans hp)
    obtain rfl := Option.some.inj (ht'.symm.trans ht)
    obtain rfl := Option.some.inj (hk'.symm.trans hk)
    obtain rfl := Option.some.inj (hc'.symm.trans hc)
    exact ⟨rfl, w, hw, rfl⟩
  · rintro ⟨rfl, w, hw, rfl⟩
    exact ⟨_, hp, w, hw, _, ht, _, hk, _, hc, hpriority, rfl, rfl⟩

/-- The route of an offer carries texts and the payload. -/
lemma routeDraft_dumpable (hjson : d.payload.dumpable = true) {workItemId : String} :
    ({ routeDraft d source with workItemId } : RouteDraft).payload.dumpable = true := by
  simp only [routeDraft, Json.dumpable, Json.dumpableFields, hjson, Bool.and_true]

/-- An offer with room routes an item and inserts a handoff. -/
lemma offerIn_of_room (clock : OfferClock) (hd : initOffer d db = .ok (d, db))
    (hjson : d.payload.dumpable = true) (hsource : db.sourceLease d = some source)
    (hactive : source.Active clock.checked)
    (hclock : clock.offered ≤ clock.queued)
    (hunused : ∀ h ∈ db.handoffs, h.routeKey ≠ (d.projectId, d.idempotencyKey))
    (hroom : OfferRoom d source db) :
    ∃ routed queueItems handoffs, routed.createdAt = clock.queued ∧
      db.queueItems.insert routed = some queueItems ∧
      db.handoffs.insert (newHandoff d source routed clock.offered) = some handoffs ∧
      offerIn d clock db =
        .ok (newHandoff d source routed clock.offered, { db with queueItems, handoffs }) := by
  obtain ⟨w, hw, hroute⟩ := hroom.route
  obtain ⟨sourceRole, hrole⟩ := Option.isSome_iff_exists.1 hroom.role
  have hinit := (routeDraft_init_ok source hd).2 ⟨rfl, w, hw, rfl⟩
  obtain ⟨queue, -, htargets, queueItems, hins, hrouted⟩ :=
    Router.routeInTransaction_of_room hroute (routeDraft_dumpable hjson) clock.queued
  -- the target role has an active queue
  obtain ⟨target, htarget⟩ : ∃ r, db.roles.lookup (d.projectId, d.targetRoleId) = some r := by
    obtain ⟨hproject, hqrole, -, -, r, hr, hrkey, -⟩ := htargets
    rw [hproject, hqrole] at hrkey
    exact ⟨r, Table.lookup_eq_some.2 ⟨hr, hrkey⟩⟩
  set routed := Router.newItem { routeDraft d source with workItemId := w } queue clock.queued
  obtain ⟨handoffs, hhandoffs⟩ := Table.insert_isSome_of_fresh
    (r := newHandoff d source routed clock.offered) fun h hh => (hroom.handoffs h hh).1
  have hinsert : ({ db with queueItems } : Db).insertHandoff
      (newHandoff d source routed clock.offered) = some { db with queueItems, handoffs } := by
    refine insertHandoff_eq_some.2 ⟨fun h hh => ⟨hunused h hh, (hroom.handoffs h hh).2⟩,
      handoffs, hhandoffs, rfl⟩
  have hnone : db.handoffByKey d.projectId d.idempotencyKey = none :=
    Table.find_eq_none.2 hunused
  have hquery : Tx.query (Db.handoffByKey d.projectId d.idempotencyKey) db =
      (.ok (none, db) : Except HandoffError _) := by
    rw [Tx.query, hnone]
  have htime : clock.offered ≤ routed.createdAt := hclock
  refine ⟨routed, queueItems, handoffs, rfl, hins, hhandoffs, ?_⟩
  rw [offerIn, Tx.bind_of_ok (Tx.demand_of_some hsource), Tx.bind_of_ok (Tx.require_of_pos hjson),
    Tx.bind_of_ok hquery]
  dsimp only
  rw [Tx.bind_of_ok (Tx.require_of_pos hactive), Tx.bind_of_ok (Tx.mapError_of_ok hinit),
    Tx.bind_of_ok (Tx.mapError_of_ok hrouted), Tx.bind_of_ok (Tx.require_of_pos htime),
    Tx.bind_of_ok (Tx.attempt_of_some hinsert)]
  refine (Tx.bind_of_ok (show Tx.query id _ = .ok (_, _) from rfl)).trans ?_
  refine (Tx.bind_of_ok (Tx.require_of_pos ⟨?_, ?_⟩)).trans rfl
  · exact Option.isSome_iff_exists.2 ⟨sourceRole, hrole⟩
  · exact Option.isSome_iff_exists.2 ⟨target, htarget⟩

/-- **When an offer from an active lease is accepted**: its key stands for the same offer, or there
is room for it. -/
theorem offerIn_iff (hd : initOffer d db = .ok (d, db)) (hjson : d.payload.dumpable = true)
    (hsource : db.sourceLease d = some source)
    (hactive : source.Active clock.checked) (hclock : clock.offered ≤ clock.queued)
    (hpast : ∀ i ∈ db.queueItems, i.createdAt < clock.offered)
    (hunique : db.handoffs.Unique Handoff.routeKey) :
    (∃ h db', offerIn d clock db = .ok (h, db')) ↔
      (∀ h ∈ db.handoffs, h.routeKey = (d.projectId, d.idempotencyKey) →
        h.requestFingerprint = fingerprint d source) ∧
      ((∀ h ∈ db.handoffs, h.routeKey ≠ (d.projectId, d.idempotencyKey)) →
        OfferRoom d source db) := by
  cases hkey : db.handoffByKey d.projectId d.idempotencyKey with
  | some g =>
    obtain ⟨hg, hgk⟩ := Table.mem_of_find hkey
    have hquery : Tx.query (Db.handoffByKey d.projectId d.idempotencyKey) db =
        (.ok (some g, db) : Except HandoffError _) := by
      rw [Tx.query, hkey]
    rw [offerIn, Tx.bind_of_ok (Tx.demand_of_some hsource),
      Tx.bind_of_ok (Tx.require_of_pos hjson), Tx.bind_of_ok hquery]
    simp only [Tx.require_bind_ok, Tx.pure_ok, Prod.mk.injEq]
    constructor
    · rintro ⟨h, db', hfingerprint, -, -⟩
      refine ⟨fun h hh hk => ?_, fun hunused => absurd hgk (hunused g hg)⟩
      rwa [hunique h hh g hg (hk.trans hgk.symm)]
    · rintro ⟨hsame, -⟩
      exact ⟨g, db, hsame g hg hgk, rfl, rfl⟩
  | none =>
    have hunused := Table.find_eq_none.1 hkey
    constructor
    swap
    · rintro ⟨-, hroom⟩
      obtain ⟨_, _, _, -, -, -, hok⟩ :=
        offerIn_of_room clock hd hjson hsource hactive hclock hunused (hroom hunused)
      exact ⟨_, _, hok⟩
    rintro ⟨h, db', hok⟩
    refine ⟨fun g hg hgk => absurd hgk (hunused g hg), fun _ => ?_⟩
    rw [offerIn, Tx.demand_bind_ok] at hok
    obtain ⟨source', hsource', hok⟩ := hok
    obtain rfl := Option.some.inj (hsource.symm.trans hsource')
    rw [Tx.require_bind_ok, Tx.query_bind_ok, hkey] at hok
    dsimp only at hok
    rw [Tx.require_bind_ok, Tx.bind_ok] at hok
    obtain ⟨-, -, draft, db₁, hdraft, hok⟩ := hok
    rw [Tx.mapError_ok] at hdraft
    obtain ⟨rfl, w, hw, rfl⟩ := (routeDraft_init_ok source hd).1 hdraft
    rw [Tx.bind_ok] at hok
    obtain ⟨routed, db₂, hroute, hok⟩ := hok
    rw [Tx.mapError_ok] at hroute
    simp only [Tx.require_bind_ok, Tx.attempt_bind_ok, Tx.query_bind_ok, Tx.pure_ok,
      Prod.mk.injEq] at hok
    obtain ⟨htime, db₃, hins, ⟨hrole, -⟩, -, -⟩ := hok
    -- an item that was routed before is too old for the offer
    rcases Router.routeInTransaction_ok hroute with ⟨-, hold, -⟩ |
      ⟨queue, -, -, -, hrouted, hinsert⟩
    · exact absurd htime (not_le.2 (hpast routed hold))
    obtain ⟨hfresh, queueItems, -, rfl⟩ := Db.insertItem_eq_some.1 hinsert
    obtain ⟨hhandoffs, table, htable, rfl⟩ := insertHandoff_eq_some.1 hins
    have hroom : Router.Room { routeDraft d source with workItemId := w } db₁ := by
      rcases ((Router.routeInTransaction_iff _ _ _).1 ⟨_, _, hroute⟩).2 with
        hroom | ⟨i, hi, -⟩
      · exact hroom
      · obtain ⟨hmem, hik, -⟩ := Table.mem_of_find hi
        exact absurd (hik.trans (by rw [hrouted]; rfl)) (hfresh i hmem)
    have hid : routed.queueItemId = routeItemId d.projectId d.idempotencyKey := by
      rw [hrouted]
      rfl
    refine ⟨⟨w, hw, hroom⟩, fun g hg => ⟨(Table.insert_eq_some.1 htable).1 g hg, ?_⟩, hrole⟩
    rw [← hid]
    exact (hhandoffs g hg).2

end

lemma transitionIdentifiers_ok {c c' : HandoffCredentials}
    (h : transitionIdentifiers c db = .ok (c', db')) : db' = db := by
  simp only [transitionIdentifiers, Tx.demand_bind_ok, Tx.pure_ok, Prod.mk.injEq] at h
  obtain ⟨p, -, i, -, l, -, t, -, -, rfl⟩ := h
  rfl

lemma historicalTargetLease_ok {h : Handoff} {t : HandoffTarget} {c : HandoffCredentials}
    {r : Unit × Db} (hok : historicalTargetLease h t c db = .ok r) : r.2 = db := by
  simp only [historicalTargetLease, Tx.require_bind_ok, Tx.query_bind_ok, Tx.require_ok] at hok
  exact hok.2.2

lemma setStatus_ok {h h' : Handoff} {status : HandoffStatus} {earlier now : Time}
    (hok : setStatus h status earlier now db = .ok (h', db')) :
    db' = db.setHandoff h.key status := by
  simp only [setStatus, Tx.require_bind_ok, Tx.modify_bind_ok, Tx.pure_ok, Prod.mk.injEq] at hok
  exact hok.2.2

/-- A lease with which an unaccepted handoff was claimed or accepted. -/
structure Takes (c : HandoffCredentials) (checked : Time) (h : Handoff) (l : Lease) (db : Db) :
    Prop where
  handoff_mem : h ∈ db.handoffs
  handoff_key : h.key = (c.projectId, c.handoffId)
  not_accepted : h.status.isAccepted = false
  lease_mem : l ∈ db.leases
  active : l.ActiveTarget h c checked db

/-- What a committed claim of a handoff did: nothing, or it recorded the lease of the caller. -/
lemma claim_ok {c : HandoffCredentials} {checked held now : Time} {h : Handoff}
    (hok : claim c checked held now db = .ok (h, db')) :
    db' = db ∨ ∃ c' g l, Takes c' checked g l db ∧
      db' = db.setHandoff g.key (.claimed ⟨l.ownerInstanceId, l.leaseId, now⟩) := by
  rw [claim, Tx.bind_ok] at hok
  obtain ⟨c', _, hc, hok⟩ := hok
  rw [transitionIdentifiers_ok hc, lock, Tx.demand_bind_ok] at hok
  obtain ⟨g, hg, hok⟩ := hok
  obtain ⟨hgm, hgk⟩ := Table.lookup_eq_some.1 hg
  -- the lease of the caller, once it was found, is the one that is recorded
  have htake : ∀ l, g.status.isAccepted = false →
      Table.find db.leases (Lease.ActiveTarget g c' checked db) = some l →
      Takes c' checked g l db ∧ l.leaseId = c'.leaseId := by
    intro l hna hl
    obtain ⟨hlm, hlact⟩ := Table.mem_of_find hl
    exact ⟨⟨hgm, hgk, hna, hlm, hlact⟩, (Prod.mk.inj hlact.1).2⟩
  cases hs : g.status with
  | accepted t at' =>
    rw [hs] at hok
    dsimp only at hok
    rw [Tx.bind_ok] at hok
    obtain ⟨_, _, hhist, hok⟩ := hok
    simp only [Tx.pure_ok, Prod.mk.injEq] at hok
    exact Or.inl (hok.2.trans (historicalTargetLease_ok hhist))
  | claimed t =>
    rw [hs] at hok
    dsimp only at hok
    rw [activeTargetLease, Tx.demand_bind_ok] at hok
    obtain ⟨l, hl, hok⟩ := hok
    obtain ⟨htakes, hid⟩ := htake l (by rw [hs]; rfl) hl
    split at hok
    · simp only [Tx.pure_ok, Prod.mk.injEq] at hok
      exact Or.inl hok.2
    · simp only [Tx.query_bind_ok, Tx.require_bind_ok] at hok
      refine Or.inr ⟨c', g, l, htakes, ?_⟩
      rw [setStatus_ok hok.2, hid]
  | offered =>
    rw [hs] at hok
    dsimp only at hok
    rw [activeTargetLease, Tx.demand_bind_ok] at hok
    obtain ⟨l, hl, hok⟩ := hok
    obtain ⟨htakes, hid⟩ := htake l (by rw [hs]; rfl) hl
    refine Or.inr ⟨c', g, l, htakes, ?_⟩
    rw [setStatus_ok hok, hid]

/-- What a committed acceptance did: nothing, or it accepted the handoff for the lease that had
claimed it. -/
lemma accept_ok {c : HandoffCredentials} {checked now : Time} {h : Handoff}
    (hok : accept c checked now db = .ok (h, db')) :
    db' = db ∨ ∃ c' g l t, Takes c' checked g l db ∧ g.status = .claimed t ∧
      t.targetLeaseId = l.leaseId ∧ db' = db.setHandoff g.key (.accepted t now) := by
  rw [accept, Tx.bind_ok] at hok
  obtain ⟨c', _, hc, hok⟩ := hok
  rw [transitionIdentifiers_ok hc, lock, Tx.demand_bind_ok] at hok
  obtain ⟨g, hg, hok⟩ := hok
  obtain ⟨hgm, hgk⟩ := Table.lookup_eq_some.1 hg
  cases hs : g.status with
  | offered =>
    rw [hs] at hok
    simp only [Tx.fail_ok] at hok
  | accepted t at' =>
    rw [hs] at hok
    dsimp only at hok
    rw [Tx.bind_ok] at hok
    obtain ⟨_, _, hhist, hok⟩ := hok
    simp only [Tx.pure_ok, Prod.mk.injEq] at hok
    exact Or.inl (hok.2.trans (historicalTargetLease_ok hhist))
  | claimed t =>
    rw [hs] at hok
    dsimp only at hok
    rw [Tx.require_bind_ok, activeTargetLease, Tx.demand_bind_ok] at hok
    obtain ⟨hid, l, hl, hok⟩ := hok
    obtain ⟨hlm, hlact⟩ := Table.mem_of_find hl
    refine Or.inr ⟨c', g, l, t, ⟨hgm, hgk, by rw [hs]; rfl, hlm, hlact⟩, hs, ?_,
      setStatus_ok hok⟩
    rw [hid, (Prod.mk.inj hlact.1).2]

end

end HandoffStore

end AgenticMesh
