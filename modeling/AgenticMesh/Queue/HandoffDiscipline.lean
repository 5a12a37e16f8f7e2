import AgenticMesh.Base.Run
import AgenticMesh.Queue.HandoffInvariant

/-!
# Runs of role queues with handoffs

A run interleaves the calls of the queue store, routes and the three handoff
operations with changes of the other tables.  The first half states what holds
of every run.  The second half is about the one thing that does not: nothing
stops the holder of a target item from completing it before the handoff is
accepted.
-/

namespace AgenticMesh

open HandoffStore

/-- Role instances are never deleted and never change their role. -/
def InstancesKept (db db' : Db) : Prop :=
  ∀ i ∈ db.instances.rows, ∃ i' ∈ db'.instances.rows, i'.key = i.key ∧ i'.roleId = i.roleId

instance (db db' : Db) : Decidable (InstancesKept db db') :=
  inferInstanceAs (Decidable (∀ _ ∈ _, _))

/-- One step of a run. -/
inductive HandoffEvent where
  | queue (c : QueueCall)
  | route (d : RouteDraft) (now : Time)
  | offer (d : HandoffOffer) (clock : OfferClock)
  | claim (c : HandoffCredentials) (checked held now : Time)
  | accept (c : HandoffCredentials) (checked now : Time)
  /-- The other stores write their tables. -/
  | elsewhere (db : Db)

/-- The database after a step. -/
def HandoffEvent.step (db : Db) : HandoffEvent → Db
  | queue c => c.apply db
  | route d now => (Router.route d now).commit db
  | offer d clock => (HandoffStore.offer d clock).commit db
  | claim c checked held now => (HandoffStore.claim c checked held now).commit db
  | accept c checked now => (HandoffStore.accept c checked now).commit db
  | elsewhere db' =>
    if InstancesKept db db' then
      { db' with queueItems := db.queueItems, leases := db.leases, handoffs := db.handoffs }
    else db

/-- A database in which nothing was enqueued or offered yet. -/
def Db.withoutHandoffs (db : Db) : Db := { db.withoutQueue with handoffs := ∅ }

lemma HandoffInv.withoutHandoffs (db : Db) : HandoffInv db.withoutHandoffs where
  lease :=
    have h : RoleQueueStore.Keeps db.withoutQueue db.withoutHandoffs :=
      .elsewhere (.withoutQueue db) rfl rfl
    h.1
  route_key := Table.unique_empty
  target h hh := absurd hh (Table.notMem_empty h)
  source h hh := absurd hh (Table.notMem_empty h)
  taken h hh := absurd hh (Table.notMem_empty h)

lemma HandoffEvent.step_keeps {db : Db} (hinv : HandoffInv db) (e : HandoffEvent) :
    HandoffInv (e.step db) ∧ HandoffHistory db (e.step db) := by
  have hsame : HandoffInv db ∧ HandoffHistory db db := ⟨hinv, .refl db⟩
  let R := fun a b : Db => HandoffInv b ∧ HandoffHistory a b
  cases e with
  | queue c => exact hinv.queueCall c
  | route d now =>
    rw [HandoffEvent.step]
    refine Tx.commit_rel (R := R) hsame fun item db' h => ?_
    obtain ⟨d', -, -, h⟩ := Router.route_ok h
    obtain ⟨hinv', hhist, -⟩ := hinv.routeIn h
    exact ⟨hinv', hhist⟩
  | offer d clock =>
    rw [HandoffEvent.step]
    refine Tx.commit_rel (R := R) hsame fun h db' hok => ?_
    obtain ⟨d', -, -, ⟨rfl, -⟩ | ⟨⟨o⟩⟩⟩ := offer_ok hok
    · exact hsame
    · exact hinv.offered o
  | claim c checked held now =>
    rw [HandoffEvent.step]
    exact Tx.commit_rel (R := R) hsame fun _ _ hok => hinv.claimed hok
  | accept c checked now =>
    rw [HandoffEvent.step]
    exact Tx.commit_rel (R := R) hsame fun _ _ hok => hinv.accepted hok
  | elsewhere db' =>
    rw [HandoffEvent.step]
    split
    · next hkept =>
      have hkeeps : RoleQueueStore.Keeps db { db' with
          queueItems := db.queueItems, leases := db.leases, handoffs := db.handoffs } :=
        .elsewhere hinv.lease rfl rfl
      obtain ⟨hlease, hhist⟩ := hkeeps
      refine ⟨⟨hlease, hinv.route_key, hinv.target, hinv.source, fun h hh t ht => ?_⟩, hhist,
        fun h hh => ⟨h, hh, rfl, fun _ => rfl⟩⟩
      exact (hinv.taken h hh t ht).mono hhist hkept
    · exact hsame

lemma HandoffInv.run {db : Db} (hinv : HandoffInv db) (es : List HandoffEvent) :
    HandoffInv (run HandoffEvent.step db es) :=
  invariant_run (fun _ e h => (e.step_keeps h).1) hinv es

lemma HandoffHistory.run {db : Db} (hinv : HandoffInv db) (es : List HandoffEvent) :
    HandoffHistory db (run HandoffEvent.step db es) :=
  rel_run HandoffHistory.refl (fun _ _ _ => HandoffHistory.trans)
    (fun _ e h => (e.step_keeps h).1) (fun _ e h => (e.step_keeps h).2) hinv es

def smallTeam : Db where
  roles := ⟨[⟨"p", "dev", .active⟩, ⟨"p", "qa", .active⟩], by decide⟩
  instances := ⟨[⟨"p", "dev-1", "dev", .running⟩, ⟨"p", "qa-1", "qa", .running⟩], by decide⟩
  workItems := ⟨[⟨"p", "w", some "dev", .active, 1, .obj [], none, .obj []⟩], by decide⟩
  queues := ⟨[⟨"p", "dev-queue", "dev", none, false⟩, ⟨"p", "qa-queue", "qa", none, false⟩],
    by decide⟩

/-- The item that the developer works on. -/
def developerItem : EnqueueRequest where
  projectId := "p"
  queueId := "dev-queue"
  queueItemId := "i"
  workItemId := "w"
  idempotencyKey := "start"
  payload := .obj []

/-- The claim of an instance whose lease gets the given number. -/
def claimOf (queueId ownerInstanceId leaseHex : String) : ClaimRequest where
  projectId := "p"
  queueId
  ownerInstanceId
  leaseSeconds := 60
  leaseHex
  leaseToken := "token-" ++ leaseHex

/-- The developer claims the item. -/
def developerClaims : List HandoffEvent := [
  .queue (.enqueue developerItem 1),
  .queue (.claim (claimOf "dev-queue" "dev-1" "1") ⟨2, 2, 2⟩ [])]

/-- The developer hands the work over. -/
def toQa : HandoffOffer where
  projectId := "p"
  sourceLeaseId := "lease-1"
  sourceLeaseToken := "token-1"
  targetRoleId := "qa"
  idempotencyKey := "review"
  summary := "please review"
  payload := .obj []

end AgenticMesh
