import AgenticMesh.Base.Run
import AgenticMesh.Queue.LeaseInvariant

/-!
# Runs of a role queue

A run interleaves the operations of `RoleQueueStore`, called by any role
instances at any clock readings, with arbitrary changes of the tables that the
queue only reads.  The operations keep the lease invariant and the history of
the queue, so both hold along every run; a call that presents the credentials
of a lease changes nothing unless that lease is the current one of its item.
-/

namespace AgenticMesh

/-- A call of `RoleQueueStore`. -/
inductive QueueCall where
  | enqueue (request : EnqueueRequest) (now : Time)
  | claim (request : ClaimRequest) (clock : ClaimClock) (locked : List String)
  | heartbeat (credentials : LeaseCredentials) (leaseSeconds : ℤ) (lockedAt now : Time)
  | complete (credentials : LeaseCredentials) (lockedAt now : Time)
  | release (credentials : LeaseCredentials) (lockedAt now : Time)

namespace QueueCall

/-- The database after a call. -/
def apply (db : Db) : QueueCall → Db
  | enqueue r now => (RoleQueueStore.enqueue r now).commit db
  | claim r clock locked => (RoleQueueStore.claim r clock locked).commit db
  | heartbeat c n lockedAt now => (RoleQueueStore.heartbeat c n lockedAt now).commit db
  | complete c lockedAt now => (RoleQueueStore.complete c lockedAt now).commit db
  | release c lockedAt now => (RoleQueueStore.release c lockedAt now).commit db

/-- The credentials that a call presents and the instant at which they are checked. -/
def presented : QueueCall → Option (LeaseCredentials × Time)
  | heartbeat c _ lockedAt _ => some (c, lockedAt)
  | complete c lockedAt _ => some (c, lockedAt)
  | release c lockedAt _ => some (c, lockedAt)
  | _ => none

/-- The clock readings of a call. -/
def readings : QueueCall → List Time
  | enqueue _ now => [now]
  | claim _ clock _ => [clock.reclaimed, clock.selected, clock.acquired]
  | heartbeat _ _ lockedAt now => [lockedAt, now]
  | complete _ lockedAt now => [lockedAt, now]
  | release _ lockedAt now => [lockedAt, now]

end QueueCall

/-- One step of a run of a role queue. -/
inductive QueueEvent where
  | call (c : QueueCall)
  /-- The other stores write their tables. -/
  | elsewhere (db : Db)

/-- The database after a step. -/
def QueueEvent.step (db : Db) : QueueEvent → Db
  | call c => c.apply db
  | elsewhere db' => { db' with queueItems := db.queueItems, leases := db.leases }

/-- A database in which nothing was enqueued yet. -/
def Db.withoutQueue (db : Db) : Db := { db with queueItems := ∅, leases := ∅ }

lemma LeaseInv.withoutQueue (db : Db) : LeaseInv db.withoutQueue where
  item_of_lease l hl := absurd hl (Table.notMem_empty l)
  one_active l hl := absurd hl (Table.notMem_empty l)
  leased_iff i hi := absurd hi (Table.notMem_empty i)
  attempts i hi := absurd hi (Table.notMem_empty i)
  token := Table.unique_empty
  route_key := Table.unique_empty

/-! ## The operations -/

namespace RoleQueueStore

variable {db db' : Db}

/-- What every operation of the queue keeps. -/
def Keeps (db db' : Db) : Prop := LeaseInv db' ∧ LeaseHistory db db'

lemma enqueue_keeps (hinv : LeaseInv db) {r : EnqueueRequest} {now : Time}
    (h : enqueue r now db = .ok ((), db')) : Keeps db db' := by
  obtain ⟨i, hready, hattempts, -, -, -, -, -, -, -, hins⟩ := enqueue_ok h
  exact ⟨hinv.insertItem hins hready hattempts, .insertItem hinv hins hready hattempts⟩

lemma claim_keeps (hinv : LeaseInv db) {r : ClaimRequest} {clock : ClaimClock}
    {locked : List String} {c : Option LeaseClaim}
    (h : claim r clock locked db = .ok (c, db')) : Keeps db db' := by
  obtain ⟨p, q, o, -, -, -, -, -, -, -, -, -, -, -, hclaim⟩ := claim_ok h
  have hreclaimed : LeaseInv (db.reclaimExpired p clock.reclaimed) := hinv.reclaimExpired
  obtain ⟨-, -, rfl⟩ | ⟨item, db₁, hnext, hins, rfl, -⟩ := hclaim
  · exact ⟨hreclaimed, .reclaimExpired hinv⟩
  · obtain ⟨hitem, hp, -, hready, -⟩ := Db.nextReady_mem hnext
    have hkey : (newLease p o item r clock.acquired).itemKey = item.key := by
      rw [QueueItem.key, hp]
      rfl
    exact ⟨hreclaimed.grant hins hitem hready hkey rfl,
      (LeaseHistory.reclaimExpired hinv).trans (.grant hreclaimed hins hitem hready hkey rfl)⟩

lemma heartbeat_keeps (hinv : LeaseInv db) {c : LeaseCredentials} {n : ℤ}
    {lockedAt now t : Time} (h : heartbeat c n lockedAt now db = .ok (t, db')) :
    Keeps db db' := by
  obtain ⟨l, ⟨d, -, hl, hheld, -⟩, -, -, rfl⟩ := heartbeat_ok h
  refine ⟨hinv.extend, .extend hinv ?_⟩
  intro m hm hml
  rw [db.leases.eq_of_key hm hl hml]
  exact hheld.2.2

lemma finishLease_keeps (hinv : LeaseInv db) {c : LeaseCredentials} {status : ItemStatus}
    (hstatus : status ≠ .leased) {reason item : String} {lockedAt now : Time}
    (h : finishLease c status reason lockedAt now db = .ok (item, db')) : Keeps db db' := by
  obtain ⟨l, ⟨d, -, hl, hheld, -⟩, -, -, rfl⟩ := finishLease_ok h
  exact ⟨hinv.end hl hheld.2.2 hstatus, .end hinv hl hheld.2.2 hstatus⟩

end RoleQueueStore

/-! ## The other tables -/

/-- Two databases that differ in `queue_items` and `leases` at most. -/
def QueueOnly (db db' : Db) : Prop :=
  db' = { db with queueItems := db'.queueItems, leases := db'.leases }

lemma QueueOnly.trans {db₁ db₂ db₃ : Db} (h : QueueOnly db₁ db₂) (h' : QueueOnly db₂ db₃) :
    QueueOnly db₁ db₃ := by
  refine Eq.trans h' ?_
  rw [h]

lemma QueueCall.apply_queueOnly (db : Db) (c : QueueCall) : QueueOnly db (c.apply db) := by
  have hfinish : ∀ c status reason lockedAt now,
      QueueOnly db ((RoleQueueStore.finishLease c status reason lockedAt now).commit db) := by
    intro c status reason lockedAt now
    refine Tx.commit_rel rfl fun _ _ h => ?_
    obtain ⟨l, -, -, -, rfl⟩ := RoleQueueStore.finishLease_ok h
    rfl
  cases c with
  | enqueue r now =>
    rw [QueueCall.apply]
    refine Tx.commit_rel rfl fun _ _ h => ?_
    obtain ⟨i, -, -, -, -, -, -, -, -, -, hins⟩ := RoleQueueStore.enqueue_ok h
    obtain ⟨-, t, -, rfl⟩ := Db.insertItem_eq_some.1 hins
    rfl
  | claim r clock locked =>
    rw [QueueCall.apply]
    refine Tx.commit_rel rfl fun _ _ h => ?_
    obtain ⟨p, q, o, -, -, -, -, -, -, -, -, -, -, -, hclaim⟩ := RoleQueueStore.claim_ok h
    obtain ⟨-, -, rfl⟩ | ⟨item, db₁, -, hins, rfl, -⟩ := hclaim
    · rfl
    · obtain ⟨-, t, -, rfl⟩ := Db.insertLease_eq_some.1 hins
      rfl
  | heartbeat c n lockedAt now =>
    rw [QueueCall.apply]
    refine Tx.commit_rel rfl fun _ _ h => ?_
    obtain ⟨l, -, -, -, rfl⟩ := RoleQueueStore.heartbeat_ok h
    rfl
  | complete c lockedAt now =>
    rw [QueueCall.apply, RoleQueueStore.complete]
    exact hfinish _ _ _ _ _
  | release c lockedAt now =>
    rw [QueueCall.apply, RoleQueueStore.release]
    exact hfinish _ _ _ _ _

/-! ## The invariant along a run -/

open RoleQueueStore

lemma QueueCall.apply_keeps {db : Db} (hinv : LeaseInv db) (c : QueueCall) :
    Keeps db (c.apply db) := by
  have hsame : Keeps db db := ⟨hinv, .refl db⟩
  cases c with
  | enqueue r now =>
    rw [QueueCall.apply]
    exact Tx.commit_rel hsame fun _ _ h => enqueue_keeps hinv h
  | claim r clock locked =>
    rw [QueueCall.apply]
    exact Tx.commit_rel hsame fun _ _ h => claim_keeps hinv h
  | heartbeat c n lockedAt now =>
    rw [QueueCall.apply]
    exact Tx.commit_rel hsame fun _ _ h => heartbeat_keeps hinv h
  | complete c lockedAt now =>
    rw [QueueCall.apply, RoleQueueStore.complete]
    exact Tx.commit_rel hsame fun _ _ h => finishLease_keeps hinv (by decide) h
  | release c lockedAt now =>
    rw [QueueCall.apply, RoleQueueStore.release]
    exact Tx.commit_rel hsame fun _ _ h => finishLease_keeps hinv (by decide) h

/-- An active lease after a call is new, or it was active before: with the same expiry, or with
one that the call found in the future. -/
lemma QueueCall.leaseAfter {db : Db} {c : QueueCall} {m : Lease}
    (hm : m ∈ (c.apply db).leases) (hrel : m.released = none) :
    (∃ l ∈ db.leases, l.key = m.key ∧ l.released = none ∧
      (l.expiresAt = m.expiresAt ∨ ∃ t ∈ c.readings, t < l.expiresAt)) ∨
    ∀ l ∈ db.leases, l.key ≠ m.key := by
  have hsame : m ∈ db.leases → (∃ l ∈ db.leases, l.key = m.key ∧ l.released = none ∧
      (l.expiresAt = m.expiresAt ∨ ∃ t ∈ c.readings, t < l.expiresAt)) ∨
      ∀ l ∈ db.leases, l.key ≠ m.key :=
    fun h => Or.inl ⟨m, h, rfl, hrel, Or.inl rfl⟩
  have hfinish : ∀ c status reason lockedAt now,
      m ∈ ((finishLease c status reason lockedAt now).commit db).leases → m ∈ db.leases := by
    intro c status reason lockedAt now
    obtain he | ⟨a, ha⟩ := Tx.commit_cases (finishLease c status reason lockedAt now) db
    · rw [he]
      exact id
    · obtain ⟨l, ⟨d, -, hl, -⟩, -, -, hdb⟩ := finishLease_ok ha
      rw [hdb]
      intro hm
      obtain rfl | ⟨hm, -⟩ := mem_leases_end hl hm
      · simp at hrel
      · exact hm
  cases c with
  | enqueue r now =>
    rw [QueueCall.apply] at hm
    obtain he | ⟨a, ha⟩ := Tx.commit_cases (RoleQueueStore.enqueue r now) db
    · exact hsame (he ▸ hm)
    · obtain ⟨i, -, -, -, -, -, -, -, -, -, hins⟩ := enqueue_ok ha
      obtain ⟨-, t, -, hdb⟩ := Db.insertItem_eq_some.1 hins
      rw [hdb] at hm
      exact hsame hm
  | claim r clock locked =>
    rw [QueueCall.apply] at hm
    obtain he | ⟨a, ha⟩ := Tx.commit_cases (RoleQueueStore.claim r clock locked) db
    · exact hsame (he ▸ hm)
    · obtain ⟨p, q, o, -, -, -, -, -, -, -, -, -, -, -, hclaim⟩ := claim_ok ha
      obtain ⟨-, -, hdb⟩ | ⟨item, db₁, -, hins, hdb, -⟩ := hclaim
      · rw [hdb] at hm
        exact hsame (active_reclaimExpired hm hrel).1
      · rw [hdb] at hm
        obtain hm | rfl := (mem_leases_grant hins m).1 hm
        · exact hsame (active_reclaimExpired hm hrel).1
        · -- the primary key of `leases` was free
          right
          intro l hl hlm
          obtain ⟨-, t, ht, -⟩ := Db.insertLease_eq_some.1 hins
          have hfree := (Table.insert_eq_some.1 ht).1
          have hl' := Table.mem_update_of_mem (p := Lease.Expired p clock.reclaimed)
            (f := { set := fun l => { l with released := some ⟨clock.reclaimed, "expired"⟩ } }) hl
          refine hfree _ hl' (Eq.trans ?_ hlm)
          split <;> rfl
  | heartbeat cred n t now =>
    rw [QueueCall.apply] at hm
    obtain he | ⟨a, ha⟩ := Tx.commit_cases (RoleQueueStore.heartbeat cred n t now) db
    · exact hsame (he ▸ hm)
    · obtain ⟨l, ⟨d, -, hl, hheld, hexp⟩, -, -, hdb⟩ := heartbeat_ok ha
      rw [hdb] at hm
      obtain ⟨k, hk, hkl, rfl⟩ | ⟨hm, -⟩ := Table.mem_update_cases hm
      · obtain rfl := db.leases.eq_of_key hk hl hkl
        exact Or.inl ⟨k, hk, rfl, hheld.2.2, Or.inr ⟨t, by simp [QueueCall.readings], hexp⟩⟩
      · exact hsame hm
  | complete cred t now =>
    rw [QueueCall.apply, RoleQueueStore.complete] at hm
    exact hsame (hfinish _ _ _ _ _ hm)
  | release cred t now =>
    rw [QueueCall.apply, RoleQueueStore.release] at hm
    exact hsame (hfinish _ _ _ _ _ hm)

/-- The invariant and the history are about the two tables of the queue alone. -/
lemma RoleQueueStore.Keeps.elsewhere {db db' : Db} (hinv : LeaseInv db)
    (hitems : db'.queueItems = db.queueItems) (hleases : db'.leases = db.leases) :
    Keeps db db' := by
  have hjob : jobOf db' = jobOf db := by
    funext k
    rw [jobOf, jobOf, hitems, hleases]
  refine ⟨⟨?_, ?_, ?_, ?_, ?_, ?_⟩, ?_, ?_, ?_⟩
  · rw [hitems, hleases]
    exact hinv.item_of_lease
  · rw [hleases]
    exact hinv.one_active
  · rw [hitems, hleases]
    exact hinv.leased_iff
  · rw [hitems, hleases]
    exact hinv.attempts
  · rw [hleases]
    exact hinv.token
  · rw [hitems]
    exact hinv.route_key
  · rw [hleases]
    exact fun l hl => ⟨l, hl, .refl l⟩
  · rw [hitems]
    exact fun i hi => ⟨i, hi, rfl⟩
  · rw [hjob]
    exact fun _ => .refl

lemma QueueEvent.step_keeps {db : Db} (hinv : LeaseInv db) (e : QueueEvent) :
    Keeps db (e.step db) := by
  cases e with
  | call c => exact c.apply_keeps hinv
  | elsewhere db' => exact .elsewhere hinv rfl rfl

lemma LeaseInv.run {db : Db} (hinv : LeaseInv db) (es : List QueueEvent) :
    LeaseInv (run QueueEvent.step db es) :=
  invariant_run (fun _ e h => (e.step_keeps h).1) hinv es

lemma LeaseHistory.run {db : Db} (hinv : LeaseInv db) (es : List QueueEvent) :
    LeaseHistory db (run QueueEvent.step db es) :=
  rel_run LeaseHistory.refl (fun _ _ _ => LeaseHistory.trans) (fun _ e h => (e.step_keeps h).1)
    (fun _ e h => (e.step_keeps h).2) hinv es

/-- A submitted item is still there in every later database, and a completed one is still
completed. -/
lemma LeaseHistory.completed {db db' : Db} (h : LeaseHistory db db') {i : QueueItem}
    (hi : i ∈ db.queueItems) (hdone : i.status = .completed) :
    ∀ j ∈ db'.queueItems, j.key = i.key → j.status = .completed := by
  intro j hj hji
  have hjob := h.job i.key
  rw [jobOf_done hi hdone] at hjob
  obtain ⟨k, hk, hki, hkdone⟩ := jobOf_eq_done hjob.of_done
  rw [← hdone, db'.queueItems.eq_of_key hj hk (hji.trans hki.symm), hkdone, hdone]

/-! ## Who can end a lease -/

/-- A call with credentials that name no current lease changes nothing. -/
lemma QueueCall.apply_of_not_holds {db : Db} {e : QueueCall} {c : LeaseCredentials}
    {t : Time} (he : e.presented = some (c, t)) (h : ∀ l, ¬ Holds c t l db) :
    e.apply db = db := by
  have hfinish : ∀ status reason now,
      (finishLease c status reason t now).commit db = db := by
    intro status reason now
    refine Tx.commit_of (P := (· = db)) rfl fun a db' hok => ?_
    obtain ⟨l, hl, -⟩ := finishLease_ok hok
    exact absurd hl (h l)
  cases e with
  | heartbeat c' n lockedAt now =>
    obtain ⟨rfl, rfl⟩ := Prod.mk.inj (Option.some.inj he)
    rw [QueueCall.apply]
    refine Tx.commit_of (P := (· = db)) rfl fun a db' hok => ?_
    obtain ⟨l, hl, -⟩ := heartbeat_ok hok
    exact absurd hl (h l)
  | complete c' lockedAt now =>
    obtain ⟨rfl, rfl⟩ := Prod.mk.inj (Option.some.inj he)
    rw [QueueCall.apply, RoleQueueStore.complete]
    exact hfinish _ _ _
  | release c' lockedAt now =>
    obtain ⟨rfl, rfl⟩ := Prod.mk.inj (Option.some.inj he)
    rw [QueueCall.apply, RoleQueueStore.release]
    exact hfinish _ _ _
  | enqueue | claim => simp [QueueCall.presented] at he

/-- A call that presents credentials changes the status of the item of the lease that it found,
if it changes an item at all, and no lease changes its item. -/
lemma QueueCall.tables_of_presented {db : Db} {e : QueueCall} {c : LeaseCredentials} {t : Time}
    (he : e.presented = some (c, t)) :
    ((e.apply db).queueItems = db.queueItems ∨
      ∃ l status, Holds c t l db ∧ (e.apply db).queueItems =
        db.queueItems.update (fun i => i.key = l.itemKey) { set := fun i => { i with status } }) ∧
    ∀ m ∈ (e.apply db).leases, ∃ l ∈ db.leases, l.key = m.key ∧ l.itemKey = m.itemKey := by
  have hrefl : ∀ m ∈ db.leases, ∃ l ∈ db.leases, l.key = m.key ∧ l.itemKey = m.itemKey :=
    fun m hm => ⟨m, hm, rfl, rfl⟩
  have hfinish : ∀ status reason now,
      let db' := (finishLease c status reason t now).commit db
      (db'.queueItems = db.queueItems ∨
        ∃ l status, Holds c t l db ∧ db'.queueItems =
          db.queueItems.update (fun i => i.key = l.itemKey) { set := fun i => { i with status } }) ∧
      ∀ m ∈ db'.leases, ∃ l ∈ db.leases, l.key = m.key ∧ l.itemKey = m.itemKey := by
    intro status reason now db'
    obtain he | ⟨a, ha⟩ := Tx.commit_cases (finishLease c status reason t now) db
    · rw [show db' = db from he]
      exact ⟨Or.inl rfl, hrefl⟩
    · obtain ⟨l, hl, -, -, hdb⟩ := finishLease_ok ha
      rw [show db' = _ from hdb]
      refine ⟨Or.inr ⟨l, status, hl, rfl⟩, fun m hm => ?_⟩
      obtain ⟨k, hk, -, rfl⟩ | ⟨hm, -⟩ := Table.mem_update_cases hm
      · exact ⟨k, hk, rfl, rfl⟩
      · exact hrefl m hm
  cases e with
  | heartbeat c' n lockedAt now =>
    obtain ⟨rfl, rfl⟩ := Prod.mk.inj (Option.some.inj he)
    rw [QueueCall.apply]
    obtain he | ⟨a, ha⟩ := Tx.commit_cases (RoleQueueStore.heartbeat c' n lockedAt now) db
    · rw [he]
      exact ⟨Or.inl rfl, hrefl⟩
    · obtain ⟨l, -, -, -, hdb⟩ := heartbeat_ok ha
      rw [hdb]
      refine ⟨Or.inl rfl, fun m hm => ?_⟩
      obtain ⟨k, hk, -, rfl⟩ | ⟨hm, -⟩ := Table.mem_update_cases hm
      · exact ⟨k, hk, rfl, rfl⟩
      · exact hrefl m hm
  | complete c' lockedAt now =>
    obtain ⟨rfl, rfl⟩ := Prod.mk.inj (Option.some.inj he)
    rw [QueueCall.apply, RoleQueueStore.complete]
    exact hfinish _ _ _
  | release c' lockedAt now =>
    obtain ⟨rfl, rfl⟩ := Prod.mk.inj (Option.some.inj he)
    rw [QueueCall.apply, RoleQueueStore.release]
    exact hfinish _ _ _
  | enqueue | claim => simp [QueueCall.presented] at he

/-- Two databases that differ in one lease and its item at most. -/
def OnlyLease (l : Lease) (db db' : Db) : Prop :=
  (∀ m ∈ db.leases, m ≠ l → m ∈ db'.leases) ∧
    ∀ i ∈ db.queueItems, i.key ≠ l.itemKey → i ∈ db'.queueItems

lemma OnlyLease.refl (l : Lease) (db : Db) : OnlyLease l db db :=
  ⟨fun _ hm _ => hm, fun _ hi _ => hi⟩

/-- A call changes no lease and no item but the one it presented credentials for. -/
lemma QueueCall.apply_frame {db : Db} {e : QueueCall} {c : LeaseCredentials} {t : Time}
    (he : e.presented = some (c, t)) {l : Lease} (hl : Holds c t l db) :
    OnlyLease l db (e.apply db) := by
  obtain ⟨d, hd, hlm, hheld, -⟩ := hl
  -- the call found this lease
  have hfound : ∀ m, Holds c t m db → m = l := by
    rintro m ⟨d', hd', hmm, hheld', -⟩
    have hdd : d.projectId = d'.projectId ∧ d.leaseId = d'.leaseId := by
      have h1 := hd.1.symm.trans hd'.1
      have h2 := hd.2.1.symm.trans hd'.2.1
      exact ⟨Option.some.inj h1, Option.some.inj h2⟩
    exact db.leases.eq_of_key hmm hlm (hheld'.1.trans (by rw [hheld.1, hdd.1, hdd.2]))
  have hfinish : ∀ status reason now,
      OnlyLease l db ((finishLease c status reason t now).commit db) := by
    intro status reason now
    refine Tx.commit_rel (R := OnlyLease l) (.refl l db) fun a db' hok => ?_
    obtain ⟨m, hm, -, -, rfl⟩ := finishLease_ok hok
    obtain rfl := hfound m hm
    exact ⟨fun n hn hne => other_lease_mem_end hlm hn hne,
      fun i hi hne => other_item_mem_end hi hne⟩
  cases e with
  | heartbeat c' n lockedAt now =>
    obtain ⟨rfl, rfl⟩ := Prod.mk.inj (Option.some.inj he)
    rw [QueueCall.apply]
    refine Tx.commit_rel (R := OnlyLease l) (.refl l db) fun a db' hok => ?_
    obtain ⟨m, hm, -, -, rfl⟩ := heartbeat_ok hok
    obtain rfl := hfound m hm
    exact ⟨fun n hn hne => Table.mem_update_of_neg hn fun h =>
      hne (db.leases.eq_of_key hn hlm h), fun i hi _ => hi⟩
  | complete c' lockedAt now =>
    obtain ⟨rfl, rfl⟩ := Prod.mk.inj (Option.some.inj he)
    rw [QueueCall.apply, RoleQueueStore.complete]
    exact hfinish _ _ _
  | release c' lockedAt now =>
    obtain ⟨rfl, rfl⟩ := Prod.mk.inj (Option.some.inj he)
    rw [QueueCall.apply, RoleQueueStore.release]
    exact hfinish _ _ _
  | enqueue | claim => simp [QueueCall.presented] at he

/-- Once a lease is released, its credentials are worth nothing. -/
lemma not_holds_of_released {db db' : Db} (h : LeaseHistory db db') {l : Lease}
    (hl : l ∈ db.leases) (hrel : l.released ≠ none) {c d : LeaseCredentials}
    (hd : Normalized c d) (hkey : l.key = (d.projectId, d.leaseId)) {t : Time} (m : Lease) :
    ¬ Holds c t m db' := by
  rintro ⟨d', hd', hm, hheld, -⟩
  obtain ⟨l', hl', hcont⟩ := h.lease l hl
  obtain rfl := hcont.2 hrel
  have hp := Option.some.inj (hd.1.symm.trans hd'.1)
  have hi := Option.some.inj (hd.2.1.symm.trans hd'.2.1)
  have hml : m = l' := db'.leases.eq_of_key hm hl' (by rw [hheld.1, hkey, hp, hi])
  exact hrel (hml ▸ hheld.2.2)

/-- **The lease discipline of a role queue.**  After every run that starts without queue items,
an item has at most one lease that was not released and is leased exactly when it has one; no
item is lost, a completed item stays completed, and its attempts are the leases ever inserted
for it.  A call that presents credentials changes something only if they are those of the
current, unexpired lease of an item, and then it changes nothing but that lease and that
item; the credentials of a released lease never change anything again. -/
theorem lease_discipline (db₀ : Db) (es : List QueueEvent) :
    let db := run QueueEvent.step db₀.withoutQueue es
    (∀ l ∈ db.leases, ∀ m ∈ db.leases, l.released = none → m.released = none →
      l.itemKey = m.itemKey → l = m) ∧
    (∀ i ∈ db.queueItems,
      (i.status = .leased ↔ ∃ l ∈ db.leases, l.itemKey = i.key ∧ l.released = none) ∧
      (i.status ≠ .leased → i.status = .ready ∨ i.status = .completed) ∧
      ∀ fs, ∃ j ∈ (run QueueEvent.step db fs).queueItems, j.key = i.key) ∧
    (∀ i ∈ db.queueItems, i.status = .completed → ∀ fs,
      ∀ j ∈ (run QueueEvent.step db fs).queueItems, j.key = i.key → j.status = .completed) ∧
    ((∀ i ∈ db.queueItems,
        i.attemptCount = db.leases.rows.countP fun l => l.itemKey = i.key) ∧
      ∀ l ∈ db.leases, ∀ fs, ∃ m ∈ (run QueueEvent.step db fs).leases,
        m.key = l.key ∧ m.itemKey = l.itemKey) ∧
    (∀ e c t, QueueCall.presented e = some (c, t) → e.apply db ≠ db →
      ∃ l, Holds c t l db ∧
        (∀ m ∈ db.leases, m.itemKey = l.itemKey → m.released = none → m = l) ∧
        OnlyLease l db (e.apply db)) ∧
    ∀ l ∈ db.leases, l.released ≠ none → ∀ fs e c t d, QueueCall.presented e = some (c, t) →
      Normalized c d → l.key = (d.projectId, d.leaseId) →
      e.apply (run QueueEvent.step db fs) = run QueueEvent.step db fs := by
  intro db
  have hinv : LeaseInv db := (LeaseInv.withoutQueue db₀).run es
  refine ⟨hinv.one_active, ?_, ?_, ⟨hinv.attempts, ?_⟩, ?_, ?_⟩
  · intro i hi
    refine ⟨hinv.leased_iff i hi, ?_, fun fs => ?_⟩
    · cases i.status <;> simp
    · obtain ⟨j, hj, hij⟩ := (LeaseHistory.run hinv fs).item i hi
      exact ⟨j, hj, hij.key⟩
  · exact fun i hi hdone fs => (LeaseHistory.run hinv fs).completed hi hdone
  · intro l hl fs
    obtain ⟨m, hm, hlm⟩ := (LeaseHistory.run hinv fs).lease l hl
    exact ⟨m, hm, hlm.key, hlm.itemKey⟩
  · intro e c t he hchange
    by_cases hheld : ∃ l, Holds c t l db
    · obtain ⟨l, hl⟩ := hheld
      obtain ⟨d, -, hlm, hd, -⟩ := id hl
      refine ⟨l, hl, ?_, QueueCall.apply_frame he hl⟩
      exact fun m hm hml hmr => hinv.one_active m hm l hlm hmr hd.2.2 hml
    · exact absurd (QueueCall.apply_of_not_holds he (not_exists.1 hheld)) hchange
  · intro l hl hrel fs e c t d he hd hkey
    exact QueueCall.apply_of_not_holds he
      (not_holds_of_released (LeaseHistory.run hinv fs) hl hrel hd hkey)

end AgenticMesh
