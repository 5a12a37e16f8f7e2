import AgenticMesh.Base.Text
import AgenticMesh.Base.Tx
import AgenticMesh.Schema

/-!
# Provider threads of a conversation

`ThreadAffinityStore` binds every conversation, a project, a work item, a role
and a conversation identifier, to one provider thread and lets one operation
at a time hold it.  `bind_and_claim` starts an operation, `release_operation`
ends it, and `release_superseded_operation` clears the operation of an earlier
queue lease.  What the provider answers is an argument.
-/

namespace AgenticMesh

/-- The exceptions of the thread affinity store. -/
inductive ThreadAffinityError where
  | value (message : String)
  | notFound (message : String)
  | conflict (message : String)
  | authorization (message : String)
  | busy (message : String)
  | promptMismatch (message : String)
  /-- The provider did not start a thread. -/
  | provider
  /-- The database rejected a statement. -/
  | store
deriving DecidableEq

/-- The conversation that a provider thread belongs to. -/
structure ThreadAffinityKey where
  projectId : String
  workItemId : String
  roleId : String
  conversationId : String
deriving DecidableEq

/-- The primary key of the row of a conversation. -/
def ThreadAffinityKey.row (k : ThreadAffinityKey) : String × String × String × String :=
  (k.projectId, k.workItemId, k.roleId, k.conversationId)

lemma ThreadAffinityKey.row_inj {k l : ThreadAffinityKey} : k.row = l.row ↔ k = l := by
  cases k
  cases l
  simp [ThreadAffinityKey.row]

/-- The operation that a caller holds. -/
structure ThreadOperationClaim where
  key : ThreadAffinityKey
  operationId : String
  instanceId : String
  promptDigest : String
  startedAt : Time
deriving DecidableEq

/-- The arguments of `bind_and_claim`, with the identifier that it draws and the answer of the
provider to `create_thread`. -/
structure BindRequest where
  key : ThreadAffinityKey
  instanceId : String
  providerId : String
  promptDigest : String
  createThread : Option String
  operationId : String

/-- `[0-9a-f]{64}`. -/
def isPromptDigest (s : String) : Bool :=
  s.toList.length == 64 && s.toList.all fun c => c.isDigit || ('a' ≤ c && c ≤ 'f')

/-- The digest of a conversation that was bound before digests were pinned. -/
def unpinnedDigest : String := "unpinned"

namespace Db

/-- The operation that holds the thread of a conversation. -/
def operationOf (k : ThreadAffinityKey) (db : Db) : Option ActiveOperation :=
  (db.affinities.lookup k.row).bind fun a => a.state.operation?

/-- The operation that holds the thread of a conversation, with the digest that the thread is
pinned to. -/
def holder (k : ThreadAffinityKey) (db : Db) : Option (String × ActiveOperation) :=
  (db.affinities.lookup k.row).bind fun a => a.state.operation?.map fun o => (a.promptDigest, o)

/-- The work item is in the project and the instance plays the role. -/
def Authorized (k : ThreadAffinityKey) (instanceId : String) (db : Db) : Prop :=
  (db.workItems.lookup (k.projectId, k.workItemId)).isSome ∧
    (db.instances.lookup (k.projectId, instanceId)).any (·.roleId = k.roleId)

instance (k : ThreadAffinityKey) (instanceId : String) (db : Db) :
    Decidable (db.Authorized k instanceId) :=
  inferInstanceAs (Decidable (_ ∧ _))

/-- No other conversation is bound to a thread (`UNIQUE (provider_id, thread_id)`). -/
def ThreadFree (k : ThreadAffinityKey) (providerId threadId : String) (db : Db) : Prop :=
  ∀ a ∈ db.affinities.rows, a.key ≠ k.row → a.state.thread? ≠ some (providerId, threadId)

instance (k : ThreadAffinityKey) (providerId threadId : String) (db : Db) :
    Decidable (db.ThreadFree k providerId threadId) :=
  inferInstanceAs (Decidable (∀ _ ∈ _, _))

/-- `INSERT INTO thread_affinities`. -/
def insertAffinity (a : ThreadAffinity) (db : Db) : Option Db :=
  (db.affinities.insert a).map fun affinities => { db with affinities }

/-- The thread of a conversation changes hands: its state becomes `f` of the old one. -/
def updateThread (k : ThreadAffinityKey) (p : ThreadAffinity → Prop) [DecidablePred p]
    (f : AffinityState → AffinityState) (db : Db) : Db :=
  { db with
    affinities := db.affinities.update (fun a => a.key = k.row ∧ p a)
      { set := fun a => { a with state := f a.state } } }

/-- The row of a conversation is bound to a new thread by an instance. -/
def seedAffinity (k : ThreadAffinityKey) (instanceId providerId threadId : String) (db : Db) :
    Db :=
  { db with
    affinities := db.affinities.update (fun a => a.key = k.row)
      { set := fun a => { a with
          state := .active providerId threadId none, lastInstanceId := instanceId } } }

/-- The thread of a conversation was resumed by an instance. -/
def touchAffinity (k : ThreadAffinityKey) (instanceId : String) (db : Db) : Db :=
  { db with
    affinities := db.affinities.update (fun a => a.key = k.row)
      { set := fun a => { a with lastInstanceId := instanceId } } }

/-- A conversation gives up its thread for a new prompt. -/
def reseedAffinity (k : ThreadAffinityKey) (newDigest reseedId : String) (db : Db) : Db :=
  { db with
    affinities := db.affinities.update (fun a => a.key = k.row)
      { set := fun a => { a with
          promptDigest := newDigest, generation := a.generation + 1,
          state := .pendingSeed reseedId } } }

end Db

/-! ## The operations -/

namespace ThreadAffinityStore

/-- `_required`: a text without surrounding white space. -/
def requireText (value field : String) : Tx Db ThreadAffinityError Unit :=
  Tx.require (required value = some value) (.value (field ++ " is invalid"))

/-- The checks of `ThreadAffinityKey`. -/
def requireKey (k : ThreadAffinityKey) : Tx Db ThreadAffinityError Unit := do
  requireText k.projectId "project_id"
  requireText k.workItemId "work_item_id"
  requireText k.roleId "role_id"
  requireText k.conversationId "conversation_id"

/-- `_digest`. -/
def requireDigest (digest : String) : Tx Db ThreadAffinityError Unit :=
  Tx.require (required digest = some digest ∧ isPromptDigest digest = true)
    (.value "prompt_digest is invalid")

/-- `_authorized`. -/
def authorize (k : ThreadAffinityKey) (instanceId : String) : Tx Db ThreadAffinityError Unit := do
  let db ← Tx.query id
  Tx.require (db.Authorized k instanceId)
    (.authorization "role instance is not authorized for thread affinity")

/-- `_prompt_mismatch`. -/
def promptMismatch (stored : String) : ThreadAffinityError :=
  if stored = unpinnedDigest then
    .promptMismatch "thread affinity is unpinned; controlled reseed is required"
  else .promptMismatch "thread affinity prompt digest does not match"

/-- `_claim_binding`, with the errors of `_raise_claim_conflict`. -/
def claimBinding (c : BindRequest) (now : Time) : Tx Db ThreadAffinityError Unit := do
  let binding ← Tx.demand (fun db => db.affinities.lookup c.key.row)
    (.notFound "thread affinity not found")
  Tx.require (binding.promptDigest = c.promptDigest) (promptMismatch binding.promptDigest)
  match binding.state with
  | .pendingSeed _ => Tx.fail (.busy "thread affinity is pending reseed")
  | .active _ _ operation => do
    Tx.require (operation = none) (.busy "thread affinity already has an active operation")
    Tx.modify (Db.updateThread c.key (fun _ => True)
      (.withOperation (some ⟨c.operationId, c.instanceId, now⟩)))

/-- The thread that the provider started. -/
def newThread (c : BindRequest) : Tx Db ThreadAffinityError String := do
  let threadId ← Tx.demand (fun _ => c.createThread) .provider
  requireText threadId "thread_id"
  return threadId

/-- `_bind_or_read` within its transaction.  The result tells whether a thread was started. -/
def bind (c : BindRequest) (now : Time) : Tx Db ThreadAffinityError Bool := do
  authorize c.key c.instanceId
  let existing ← Tx.query fun db => db.affinities.lookup c.key.row
  match existing with
  | none => do
    let threadId ← newThread c
    let db ← Tx.query id
    Tx.require (db.ThreadFree c.key c.providerId threadId)
      (.conflict "provider thread is already bound to another context")
    Tx.attempt
      (Db.insertAffinity
        { projectId := c.key.projectId, workItemId := c.key.workItemId, roleId := c.key.roleId,
          conversationId := c.key.conversationId, promptDigest := c.promptDigest,
          generation := 1, lastInstanceId := c.instanceId,
          state := .active c.providerId threadId none })
      (.conflict "provider thread is already bound to another context")
    claimBinding c now
    return true
  | some binding => do
    Tx.require (binding.promptDigest = c.promptDigest) (promptMismatch binding.promptDigest)
    match binding.state with
    | .pendingSeed _ => do
      let threadId ← newThread c
      let db ← Tx.query id
      Tx.require (db.ThreadFree c.key c.providerId threadId)
        (.conflict "provider thread is already bound to another context")
      Tx.modify (Db.seedAffinity c.key c.instanceId c.providerId threadId)
      claimBinding c now
      return true
    | .active providerId _ _ => do
      Tx.require (providerId = c.providerId) (.conflict "thread affinity provider does not match")
      claimBinding c now
      return false

def bindAndClaim (c : BindRequest) (now : Time) :
    Tx Db ThreadAffinityError (Bool × ThreadOperationClaim) := do
  requireKey c.key
  requireText c.instanceId "instance_id"
  requireText c.providerId "provider_id"
  requireDigest c.promptDigest
  let created ← bind c now
  return (created, ⟨c.key, c.operationId, c.instanceId, c.promptDigest, now⟩)

/-- `mark_resumed`, on the thread that `bind_and_claim` returned. -/
def markResumed (k : ThreadAffinityKey) (instanceId providerId threadId promptDigest : String) :
    Tx Db ThreadAffinityError Unit := do
  requireKey k
  requireText instanceId "instance_id"
  requireText providerId "provider_id"
  requireText threadId "thread_id"
  requireDigest promptDigest
  authorize k instanceId
  let db ← Tx.query id
  Tx.require
    (db.affinities.Any fun a => a.key = k.row ∧ a.promptDigest = promptDigest ∧
      a.state.thread? = some (providerId, threadId))
    (.conflict "thread affinity binding changed")
  Tx.modify (Db.touchAffinity k instanceId)

def releaseOperation (c : ThreadOperationClaim) : Tx Db ThreadAffinityError Unit := do
  let db ← Tx.query id
  Tx.require ((db.operationOf c.key).any (·.operationId = c.operationId))
    (.busy "thread operation claim is no longer current")
  Tx.modify (Db.updateThread c.key (fun _ => True) (.withOperation none))

/-- An operation of the digest that started before an instant holds the thread. -/
def Superseded (promptDigest : String) (before : Time) (a : ThreadAffinity) : Prop :=
  a.promptDigest = promptDigest ∧ a.state.operation?.any (·.startedAt < before) = true

instance (promptDigest : String) (before : Time) :
    DecidablePred (Superseded promptDigest before) :=
  fun _ => inferInstanceAs (Decidable (_ ∧ _))

/-- `release_superseded_operation`: an operation that started before the caller's lease was
acquired is cleared. -/
def releaseSupersededOperation (k : ThreadAffinityKey) (instanceId promptDigest : String)
    (supersededBefore : Time) : Tx Db ThreadAffinityError Bool := do
  requireKey k
  requireText instanceId "instance_id"
  requireDigest promptDigest
  authorize k instanceId
  let released ← Tx.query fun db =>
    decide (db.affinities.Any fun a => a.key = k.row ∧ Superseded promptDigest supersededBefore a)
  Tx.modify
    (Db.updateThread k (Superseded promptDigest supersededBefore) (.withOperation none))
  return released

/-- `_stored_digest`. -/
def requireStoredDigest (digest : String) : Tx Db ThreadAffinityError Unit :=
  Tx.require
    (digest = unpinnedDigest ∨ (required digest = some digest ∧ isPromptDigest digest = true))
    (.value "prompt_digest is invalid")

/-- `reseed`, apart from the record that it appends to `thread_reseeds`.  The result is the new
generation. -/
def reseed (k : ThreadAffinityKey) (expectedDigest newDigest actorId reason reseedId : String) :
    Tx Db ThreadAffinityError ℕ := do
  requireKey k
  requireStoredDigest expectedDigest
  requireDigest newDigest
  requireText actorId "actor_id"
  requireText reason "reason"
  Tx.require (expectedDigest ≠ newDigest)
    (.conflict "reseed target must change prompt digest")
  let binding ← Tx.demand (fun db => db.affinities.lookup k.row)
    (.notFound "thread affinity not found")
  Tx.require (binding.state.operation? = none) (.busy "thread affinity is active")
  Tx.require (binding.state.thread?.isSome) (.conflict "thread affinity reseed is pending")
  Tx.require (binding.promptDigest = expectedDigest)
    (.promptMismatch "thread affinity prompt digest does not match")
  Tx.modify (Db.reseedAffinity k newDigest reseedId)
  return binding.generation + 1

/-! ## What the operations do -/

end ThreadAffinityStore

section

variable {db db' : Db} {k : ThreadAffinityKey}

/-- Two databases that differ in `thread_affinities` at most, and there only in the holder of
one conversation. -/
structure HolderOnly (k : ThreadAffinityKey) (db db' : Db) : Prop where
  tables : db' = { db with affinities := db'.affinities }
  holder : ∀ l, l ≠ k → db'.holder l = db.holder l

lemma HolderOnly.refl (k : ThreadAffinityKey) (db : Db) : HolderOnly k db db :=
  ⟨rfl, fun _ _ => rfl⟩

lemma HolderOnly.trans {db₁ db₂ db₃ : Db} (h : HolderOnly k db₁ db₂)
    (h' : HolderOnly k db₂ db₃) : HolderOnly k db₁ db₃ where
  tables := by
    rw [h'.tables, h.tables]
  holder l hl := (h'.holder l hl).trans (h.holder l hl)

lemma operationOf_eq_holder : db.operationOf k = (db.holder k).map Prod.snd := by
  unfold Db.operationOf Db.holder
  cases db.affinities.lookup k.row with
  | none => rfl
  | some a => cases h : a.state.operation? <;> simp [h]

/-- The holder of a conversation after an update of `thread_affinities`. -/
lemma holder_update {p : ThreadAffinity → Prop} [DecidablePred p]
    {f : Table.Assign ThreadAffinity.key} (l : ThreadAffinityKey) :
    ({ db with affinities := db.affinities.update p f } : Db).holder l =
      (db.affinities.lookup l.row).bind fun a =>
        (if p a then f.set a else a).state.operation?.map
          fun o => ((if p a then f.set a else a).promptDigest, o) := by
  unfold Db.holder
  rw [Table.lookup_update]
  cases db.affinities.lookup l.row <;> rfl

/-- An update of the row of a conversation changes no other holder. -/
lemma HolderOnly.update {p : ThreadAffinity → Prop} [DecidablePred p]
    {f : Table.Assign ThreadAffinity.key} (hp : ∀ a, p a → a.key = k.row) :
    HolderOnly k db { db with affinities := db.affinities.update p f } where
  tables := rfl
  holder l hl := by
    rw [holder_update, Db.holder]
    cases hlook : db.affinities.lookup l.row with
    | none => rfl
    | some a =>
      have hkey : a.key = l.row := (Table.lookup_eq_some.1 hlook).2
      have hne : ¬ p a := fun h =>
        hl (ThreadAffinityKey.row_inj.1 (hkey.symm.trans (hp a h)))
      simp [hne]

lemma HolderOnly.insert {a : ThreadAffinity} (h : db.insertAffinity a = some db')
    (hkey : a.key = k.row) : HolderOnly k db db' := by
  unfold Db.insertAffinity at h
  cases ht : db.affinities.insert a with
  | none => simp [ht] at h
  | some t =>
    rw [ht] at h
    obtain rfl := Option.some.inj h
    refine ⟨rfl, fun l hl => ?_⟩
    have hne : a.key ≠ l.row := fun h =>
      hl (ThreadAffinityKey.row_inj.1 (h.symm.trans hkey))
    unfold Db.holder
    rw [Table.lookup_of_insert ht, if_neg hne]

end

namespace ThreadAffinityStore

variable {db db' : Db}

section

variable {α : Type} {r : α × Db} {f : Unit → Tx Db ThreadAffinityError α}

lemma requireText_bind_ok {value field : String} :
    (requireText value field >>= f) db = .ok r ↔ required value = some value ∧ f () db = .ok r :=
  Tx.require_bind_ok

/-- The texts of a conversation that its key accepts. -/
def ValidKey (k : ThreadAffinityKey) : Prop :=
  required k.projectId = some k.projectId ∧ required k.workItemId = some k.workItemId ∧
    required k.roleId = some k.roleId ∧ required k.conversationId = some k.conversationId

lemma requireKey_bind_ok {k : ThreadAffinityKey} :
    (requireKey k >>= f) db = .ok r ↔ ValidKey k ∧ f () db = .ok r := by
  refine Tx.bind_of_check fun q => ?_
  simp only [requireKey, requireText, ValidKey, Tx.require_bind_ok, Tx.require_ok, and_assoc]

lemma requireDigest_bind_ok {digest : String} :
    (requireDigest digest >>= f) db = .ok r ↔
      (required digest = some digest ∧ isPromptDigest digest = true) ∧ f () db = .ok r :=
  Tx.require_bind_ok

lemma authorize_bind_ok {k : ThreadAffinityKey} {i : String} :
    (authorize k i >>= f) db = .ok r ↔ db.Authorized k i ∧ f () db = .ok r := by
  refine Tx.bind_of_check fun q => ?_
  simp only [authorize, Tx.query_bind_ok, Tx.require_ok, id]

end

/-- A claimed thread had no operation and has the caller's now. -/
lemma claimBinding_ok {c : BindRequest} {now : Time}
    (h : claimBinding c now db = .ok ((), db')) :
    HolderOnly c.key db db' ∧ db.holder c.key = none ∧
      db'.holder c.key = some (c.promptDigest, ⟨c.operationId, c.instanceId, now⟩) := by
  simp only [claimBinding, Tx.demand_bind_ok, Tx.require_bind_ok] at h
  obtain ⟨a, hlook, hdigest, h⟩ := h
  cases hstate : a.state with
  | pendingSeed r =>
    rw [hstate] at h
    simp at h
  | active p t o =>
    rw [hstate] at h
    simp only [Tx.require_bind_ok, Tx.modify_ok] at h
    obtain ⟨rfl, hdb⟩ := h
    obtain rfl := hdb
    have hkey : a.key = c.key.row := (Table.lookup_eq_some.1 hlook).2
    refine ⟨.update fun a ha => ha.1, ?_, ?_⟩
    · simp [Db.holder, hlook, hstate, AffinityState.operation?]
    · rw [Db.updateThread, holder_update, hlook]
      simp [hkey, hstate, hdigest, AffinityState.withOperation, AffinityState.operation?]

lemma newThread_bind_ok {α : Type} {c : BindRequest}
    {f : String → Tx Db ThreadAffinityError α} {r : α × Db} :
    (newThread c >>= f) db = .ok r ↔
      ∃ t, (c.createThread = some t ∧ required t = some t) ∧ f t db = .ok r := by
  refine Tx.bind_of_ok_iff fun q => ?_
  obtain ⟨t, s⟩ := q
  simp only [newThread, requireText, Tx.demand_bind_ok, Tx.require_bind_ok, Tx.pure_ok,
    Prod.mk.injEq]
  constructor
  · rintro ⟨_, h, hr, rfl, rfl⟩
    exact ⟨⟨h, hr⟩, rfl⟩
  · rintro ⟨⟨h, hr⟩, rfl⟩
    exact ⟨t, h, hr, rfl, rfl⟩

/-- A conversation is bound to its thread and claimed: no operation held the thread. -/
lemma bind_ok {c : BindRequest} {now : Time} {created : Bool}
    (h : bind c now db = .ok (created, db')) :
    db.Authorized c.key c.instanceId ∧ HolderOnly c.key db db' ∧ db.holder c.key = none ∧
      db'.holder c.key = some (c.promptDigest, ⟨c.operationId, c.instanceId, now⟩) := by
  simp only [bind, authorize_bind_ok, Tx.query_bind_ok] at h
  obtain ⟨hauth, h⟩ := h
  refine ⟨hauth, ?_⟩
  -- every branch ends in the claim of a thread, after it bound one that had no holder
  have hclaim : ∀ mid b, HolderOnly c.key db mid →
      (mid.holder c.key = none → db.holder c.key = none) →
      (claimBinding c now >>= fun _ => (pure b : Tx Db ThreadAffinityError Bool)) mid
        = .ok (created, db') →
      HolderOnly c.key db db' ∧ db.holder c.key = none ∧
        db'.holder c.key = some (c.promptDigest, ⟨c.operationId, c.instanceId, now⟩) := by
    intro mid b honly hnone hok
    obtain ⟨⟨⟩, s, hb, hok⟩ := Tx.bind_ok.1 hok
    simp only [Tx.pure_ok, Prod.mk.injEq] at hok
    obtain ⟨-, rfl⟩ := hok
    obtain ⟨honly', hfree, hheld⟩ := claimBinding_ok hb
    exact ⟨honly.trans honly', hnone hfree, hheld⟩
  cases hlook : db.affinities.lookup c.key.row with
  | none =>
    have hnone : db.holder c.key = none := by simp [Db.holder, hlook]
    rw [hlook] at h
    dsimp only at h
    rw [newThread_bind_ok] at h
    obtain ⟨t, -, h⟩ := h
    rw [Tx.query_bind_ok, Tx.require_bind_ok, Tx.attempt_bind_ok] at h
    obtain ⟨-, mid, hins, h⟩ := h
    exact hclaim mid _ (.insert hins rfl) (fun _ => hnone) h
  | some a =>
    rw [hlook] at h
    dsimp only at h
    rw [Tx.require_bind_ok] at h
    obtain ⟨-, h⟩ := h
    cases hstate : a.state with
    | pendingSeed r =>
      have hnone : db.holder c.key = none := by
        simp [Db.holder, hlook, hstate, AffinityState.operation?]
      rw [hstate] at h
      dsimp only at h
      rw [newThread_bind_ok] at h
      obtain ⟨t, -, h⟩ := h
      rw [Tx.query_bind_ok, Tx.require_bind_ok, Tx.modify_bind_ok] at h
      exact hclaim _ _ (.update fun _ ha => ha) (fun _ => hnone) h.2
    | active p t o =>
      rw [hstate] at h
      dsimp only at h
      rw [Tx.require_bind_ok] at h
      exact hclaim db _ (.refl _ _) id h.2

lemma bindAndClaim_ok {c : BindRequest} {now : Time} {created : Bool}
    {o : ThreadOperationClaim} (h : bindAndClaim c now db = .ok ((created, o), db')) :
    o = ⟨c.key, c.operationId, c.instanceId, c.promptDigest, now⟩ ∧
      db.Authorized c.key c.instanceId ∧ HolderOnly c.key db db' ∧ db.holder c.key = none ∧
      db'.holder c.key = some (c.promptDigest, ⟨c.operationId, c.instanceId, now⟩) := by
  simp only [bindAndClaim, requireKey_bind_ok, requireText_bind_ok, requireDigest_bind_ok] at h
  obtain ⟨-, -, -, -, h⟩ := h
  obtain ⟨b, s, hbind, h⟩ := Tx.bind_ok.1 h
  simp only [Tx.pure_ok, Prod.mk.injEq] at h
  obtain ⟨⟨-, rfl⟩, rfl⟩ := h
  exact ⟨rfl, bind_ok hbind⟩

lemma releaseOperation_ok {c : ThreadOperationClaim}
    (h : releaseOperation c db = .ok ((), db')) :
    HolderOnly c.key db db' ∧ db'.holder c.key = none ∧
      ∃ d o, db.holder c.key = some (d, o) ∧ o.operationId = c.operationId := by
  simp only [releaseOperation, Tx.query_bind_ok, Tx.require_bind_ok, Tx.modify_ok, id] at h
  obtain ⟨hheld, rfl⟩ := h
  refine ⟨.update fun a ha => ha.1, ?_, ?_⟩
  · rw [Db.updateThread, holder_update]
    cases hlook : db.affinities.lookup c.key.row with
    | none => rfl
    | some a =>
      have hkey : a.key = c.key.row := (Table.lookup_eq_some.1 hlook).2
      cases hstate : a.state <;>
        simp [hkey, hstate, AffinityState.withOperation, AffinityState.operation?]
  · rw [operationOf_eq_holder] at hheld
    cases hh : db.holder c.key with
    | none => simp [hh] at hheld
    | some p =>
      refine ⟨p.1, p.2, rfl, ?_⟩
      simpa [hh] using hheld

/-- A superseded operation is one of the caller's digest that started before the caller's
instant. -/
lemma releaseSupersededOperation_ok {k : ThreadAffinityKey} {i digest : String} {before : Time}
    {released : Bool}
    (h : releaseSupersededOperation k i digest before db = .ok (released, db')) :
    HolderOnly k db db' ∧ (db'.holder k = db.holder k ∨
      db'.holder k = none ∧ ∃ o, db.holder k = some (digest, o) ∧ o.startedAt < before) := by
  simp only [releaseSupersededOperation, requireKey_bind_ok, requireText_bind_ok,
    requireDigest_bind_ok, authorize_bind_ok, Tx.query_bind_ok, Tx.modify_bind_ok, Tx.pure_ok,
    Prod.mk.injEq] at h
  obtain ⟨-, -, -, -, -, rfl⟩ := h
  refine ⟨.update fun a ha => ha.1, ?_⟩
  rw [Db.updateThread, holder_update, Db.holder]
  cases hlook : db.affinities.lookup k.row with
  | none => exact Or.inl rfl
  | some a =>
    have hkey : a.key = k.row := (Table.lookup_eq_some.1 hlook).2
    by_cases hsup : Superseded digest before a
    · right
      obtain ⟨rfl, hstart⟩ := id hsup
      cases hstate : a.state with
      | pendingSeed r => simp [hstate, AffinityState.operation?] at hstart
      | active p t o =>
        rw [hstate] at hstart
        obtain ⟨o', ho, hlt⟩ := (Option.any_eq_true _ _).1 hstart
        obtain rfl : o = some o' := ho
        refine ⟨by simp [hkey, hsup, hstate, AffinityState.withOperation, AffinityState.operation?],
          o', by simp [hstate, AffinityState.operation?], by simpa using hlt⟩
    · left
      simp [hsup]

lemma markResumed_ok {k : ThreadAffinityKey} {i p t digest : String}
    (h : markResumed k i p t digest db = .ok ((), db')) :
    HolderOnly k db db' ∧ db'.holder k = db.holder k := by
  simp only [markResumed, requireKey_bind_ok, requireText_bind_ok, requireDigest_bind_ok,
    authorize_bind_ok, Tx.query_bind_ok, Tx.require_bind_ok, Tx.modify_ok] at h
  obtain ⟨-, -, -, -, -, -, -, rfl⟩ := h
  refine ⟨.update fun _ ha => ha, ?_⟩
  rw [Db.touchAffinity, holder_update, Db.holder]
  cases hlook : db.affinities.lookup k.row with
  | none => rfl
  | some a => simp only [Option.bind_some]; split <;> rfl

/-- Only a thread without an operation is reseeded. -/
lemma reseed_ok {k : ThreadAffinityKey} {expected new actor reason reseedId : String} {n : ℕ}
    (h : reseed k expected new actor reason reseedId db = .ok (n, db')) :
    HolderOnly k db db' ∧ db.holder k = none ∧ db'.holder k = none := by
  simp only [reseed, requireStoredDigest, requireKey_bind_ok, requireText_bind_ok,
    requireDigest_bind_ok, Tx.require_bind_ok, Tx.demand_bind_ok, Tx.modify_bind_ok, Tx.pure_ok,
    Prod.mk.injEq] at h
  obtain ⟨-, -, -, -, -, -, a, hlook, hidle, -, -, -, rfl⟩ := h
  have hkey : a.key = k.row := (Table.lookup_eq_some.1 hlook).2
  refine ⟨.update fun _ ha => ha, ?_, ?_⟩
  · simp [Db.holder, hlook, hidle]
  · rw [Db.reseedAffinity, holder_update, hlook]
    simp [hkey, AffinityState.operation?]

end ThreadAffinityStore

end AgenticMesh
