import AgenticMesh.Base.Starvation
import AgenticMesh.Service.RunOnce

/-!
# Items that come back

A pass that cannot work on its item releases it: the item is ready again, with
the priority and the instants that it had, and so at the head of the claim order
again.  An item whose lease has expired by then stays leased, and the next claim
makes it ready.  This is what happens to every item whose work item is over,
except the envelope of a retry whose attempt was recorded, which is completed.
And an item that is released by every pass keeps all items behind it in the
claim order from being claimed.
-/

namespace AgenticMesh

open RoleService
open RoleQueueStore (Holds Normalized)

/-- The work item is completed or in error. -/
def WorkOver (projectId workItemId : String) (db : Db) : Prop :=
  db.workItems.Any fun w => w.key = (projectId, workItemId) ∧
    (w.status = .completed ∨ w.status = .error)

instance (projectId workItemId : String) (db : Db) : Decidable (WorkOver projectId workItemId db) :=
  inferInstanceAs (Decidable (∃ _ ∈ _, _))

lemma workContext_of_workOver {c : RoleServiceConfig} {workItemId : String} {db : Db}
    (h : WorkOver c.projectId workItemId db) : workContext c workItemId db = none := by
  obtain ⟨w, hw, hkey, hover⟩ := h
  have hlook : db.workItems.lookup (c.projectId, workItemId) = some w :=
    Table.lookup_eq_some.2 ⟨hw, hkey⟩
  unfold workContext
  cases db.bindings.lookup (c.projectId, c.roleId) with
  | none => rfl
  | some binding =>
    cases db.flowRuns.lookup (c.projectId, workItemId) with
    | none => rfl
    | some run => simp [hlook, hover]

/-! ## The claim of a pass -/

/-- When the lease of a pass ends, and whether its heartbeat thread goes on. -/
structure LeaseTerm where
  expiresAt : Time
  beating : Bool
deriving DecidableEq

/-- The lease after a heartbeat, which an expired lease refuses; a refused heartbeat is the last. -/
def LeaseTerm.beat (acquiredAt : Time) (leaseSeconds : ℤ) (x : LeaseTerm) (t : Time × Time) :
    LeaseTerm :=
  if x.beating = false then x
  else if t.1 < x.expiresAt ∧ acquiredAt < t.2 + seconds leaseSeconds then
    ⟨t.2 + seconds leaseSeconds, true⟩
  else ⟨x.expiresAt, false⟩

/-- The lease of a pass after its first heartbeats. -/
def leaseTerm (c : RoleServiceConfig) (p : Pass) (ts : List (Time × Time)) : LeaseTerm :=
  ts.foldl (LeaseTerm.beat p.clock.acquired c.leaseSeconds)
    ⟨p.clock.acquired + seconds c.leaseSeconds, true⟩

/-- An activation owns the lease of its item, for a term. -/
structure Leased (a : Activation) (x : LeaseTerm) (db : Db) : Prop where
  own : OwnLease a a.claim.queueItem.key db
  valid : 1 ≤ a.config.leaseSeconds ∧ a.config.leaseSeconds ≤ 3600
  beating : a.heartbeatFailure = none ↔ x.beating = true
  lease : ∃ l ∈ db.leases, l.itemKey = a.claim.queueItem.key ∧ l.expiresAt = x.expiresAt ∧
    l.acquiredAt = a.claim.acquiredAt ∧
    l.HeldBy a.claim.projectId a.claim.leaseId a.claim.leaseToken

/-- A claim marks the first ready item as leased; the other items are those after the reclaim. -/
structure ClaimedItem (c : RoleServiceConfig) (p : Pass) (db : Db) (claim : LeaseClaim)
    (db₁ : Db) (item : QueueItem) : Prop where
  project : required c.projectId = some claim.projectId
  first : (db.reclaimExpired claim.projectId p.clock.reclaimed).nextReady claim.projectId
    item.queueId p.clock.selected [] = some item
  queue : required c.roleId = some item.queueId
  claimed : claim.queueItem = { item with status := .leased, attemptCount := item.attemptCount + 1 }
  items : ∀ j : QueueItem, j.key ≠ item.key → (j ∈ db₁.queueItems ↔
    j ∈ (db.reclaimExpired claim.projectId p.clock.reclaimed).queueItems)
  mem : claim.queueItem ∈ db₁.queueItems
  tables : QueueOnly db db₁
  acquired : claim.acquiredAt = p.clock.acquired
  leased : Leased ⟨c, claim, .claimed, none⟩ (leaseTerm c p []) db₁

lemma claimedItem {c : RoleServiceConfig} {p : Pass} {db db₁ : Db} {claim : LeaseClaim}
    (hinv : LeaseInv db)
    (h : RoleQueueStore.claim (claimRequest c p.leaseHex p.leaseToken) p.clock [] db =
      .ok (some claim, db₁)) : ∃ item, ClaimedItem c p db claim db₁ item := by
  have hkeeps := (RoleQueueStore.claim_keeps hinv h).1
  have htables : QueueOnly db db₁ := by
    have hcall : db₁ = (QueueCall.claim (claimRequest c p.leaseHex p.leaseToken) p.clock
      []).apply db := (Tx.commit_of_ok h).symm
    rw [hcall]
    exact QueueCall.apply_queueOnly _ _
  obtain ⟨q, role, o, queue, inst, hq, hrole, ho, hseconds, -, -, -, -, -, hclaim⟩ :=
    RoleQueueStore.claim_ok h
  obtain ⟨-, hc, -⟩ | ⟨item, mid, hnext, hins, rfl, hc⟩ := hclaim
  · simp at hc
  · obtain rfl := Option.some.inj hc
    obtain ⟨hitem, hav⟩ := Db.nextReady_mem hnext
    have hkey : item.key = (q, item.queueItemId) := by
      rw [QueueItem.key, hav.1]
    refine ⟨item, hq, ?_, ?_, rfl, ?_, item_mem_grant hins hitem, htables, rfl, ⟨hkeeps, ?_, ?_⟩,
      hseconds, by simp [leaseTerm], ?_⟩
    · have hqueue : role = item.queueId := hav.2.1.symm
      rw [← hqueue]
      exact hnext
    · rw [hav.2.1]
      exact hrole
    · intro j hj
      constructor
      · intro hmem
        obtain rfl | ⟨hmem, -⟩ := mem_items_grant hins hitem hmem
        · exact absurd rfl hj
        · exact hmem
      · exact fun hmem => other_mem_grant hins hmem hj
    · exact ⟨required_idem hq, p.lease_stripped, p.token_stripped⟩
    · intro l hl hla
      obtain hl | rfl := (mem_leases_grant hins l).1 hl
      · obtain ⟨-, t, ht, -⟩ := Db.insertLease_eq_some.1 hins
        exact absurd hla ((Table.insert_eq_some.1 ht).1 l hl)
      · exact hkey.symm
    · exact ⟨_, (mem_leases_grant hins _).2 (Or.inr rfl), hkey.symm, rfl, rfl, rfl, rfl, rfl⟩

/-! ## The heartbeats of a pass -/

section

variable {p : Pass} {a : Activation} {x : LeaseTerm} {db : Db}

/-- A heartbeat of an activation extends the term of its lease. -/
lemma Leased.heartbeat (h : Leased a x db) (lockedAt now : Time) :
    ∃ failure db', act a (.heartbeat lockedAt now) db =
        (db', .goesOn { a with heartbeatFailure := failure }) ∧ QueueOnly db db' ∧
      Leased { a with heartbeatFailure := failure }
        (x.beat a.claim.acquiredAt a.config.leaseSeconds (lockedAt, now)) db' := by
  have hown := ((act_effect a (.heartbeat lockedAt now) db).onlyItem h.own).2
  obtain ⟨l, hl, hli, hexpires, hacquired, hheld⟩ := h.lease
  rw [act_heartbeat_eq] at hown ⊢
  by_cases hfailed : a.heartbeatFailure.isSome
  · have hstopped : x.beating = false := by
      rw [← Bool.not_eq_true, ← h.beating]
      intro hnone
      simp [hnone] at hfailed
    refine ⟨a.heartbeatFailure, db, by rw [if_pos hfailed], rfl, ?_⟩
    rw [LeaseTerm.beat, if_pos hstopped]
    exact h
  · have hnone : a.heartbeatFailure = none := by simpa using hfailed
    have hbeating : x.beating = true := h.beating.1 hnone
    have hrun := RoleQueueStore.heartbeat_of_heldBy h.own.stripped hl hheld h.valid lockedAt now
    rw [hexpires, hacquired] at hrun
    rw [if_neg hfailed, hrun] at hown ⊢
    by_cases hexp : lockedAt < x.expiresAt
    · rw [if_pos hexp] at hown ⊢
      by_cases hlate : a.claim.acquiredAt < now + seconds a.config.leaseSeconds
      · have hterm : x.beat a.claim.acquiredAt a.config.leaseSeconds (lockedAt, now) =
            ⟨now + seconds a.config.leaseSeconds, true⟩ := by
          simp [LeaseTerm.beat, hbeating, hexp, hlate]
        rw [if_pos hlate] at hown ⊢
        rw [hterm]
        refine ⟨a.heartbeatFailure, _, rfl, rfl, hown a rfl, h.valid, by simp [hnone], ?_⟩
        exact ⟨_, Table.mem_update_of_pos hl rfl, hli, rfl, hacquired, hheld⟩
      · have hterm : x.beat a.claim.acquiredAt a.config.leaseSeconds (lockedAt, now) =
            ⟨x.expiresAt, false⟩ := by
          simp [LeaseTerm.beat, hbeating, hlate]
        rw [if_neg hlate] at hown ⊢
        rw [hterm]
        exact ⟨_, db, rfl, rfl, hown _ rfl, h.valid, by simp, l, hl, hli, hexpires, hacquired,
          hheld⟩
    · have hterm : x.beat a.claim.acquiredAt a.config.leaseSeconds (lockedAt, now) =
          ⟨x.expiresAt, false⟩ := by
        simp [LeaseTerm.beat, hbeating, hexp]
      rw [if_neg hexp] at hown ⊢
      rw [hterm]
      exact ⟨_, db, rfl, rfl, hown _ rfl, h.valid, by simp, l, hl, hli, hexpires, hacquired, hheld⟩

lemma Leased.beats (h : Leased a x db) (ts : List (Time × Time)) :
    QueueOnly db (beat a db ts).2 ∧
      (∃ failure, (beat a db ts).1 = { a with heartbeatFailure := failure }) ∧
      Leased (beat a db ts).1
        (ts.foldl (LeaseTerm.beat a.claim.acquiredAt a.config.leaseSeconds) x)
        (beat a db ts).2 := by
  induction ts generalizing a x db with
  | nil => exact ⟨rfl, ⟨a.heartbeatFailure, rfl⟩, h⟩
  | cons t ts ih =>
    obtain ⟨lockedAt, now⟩ := t
    obtain ⟨failure, db', hact, honly, hleased⟩ := h.heartbeat lockedAt now
    obtain ⟨honly', ⟨failure', hbeat⟩, hleased'⟩ := ih hleased
    simp only [beat, hact, List.foldl_cons]
    exact ⟨honly.trans honly', ⟨failure', hbeat⟩, hleased'⟩

/-- The heartbeats before an action outside a turn. -/
def LeaseTerm.before (p : Pass) (closed : Bool) (a : Activation) (x : LeaseTerm) : LeaseTerm :=
  if closed then x
  else (p.heartbeats a.phase).foldl (LeaseTerm.beat a.claim.acquiredAt a.config.leaseSeconds) x

lemma Leased.before (h : Leased a x db) (closed : Bool)
    (hphase : ∀ turn o, a.phase ≠ .running turn o) :
    QueueOnly db (meanwhile p closed a db).2 ∧
      (∃ failure, (meanwhile p closed a db).1 = { a with heartbeatFailure := failure }) ∧
      Leased (meanwhile p closed a db).1 (x.before p closed a) (meanwhile p closed a db).2 := by
  unfold meanwhile LeaseTerm.before
  split
  · next turn o hrunning => exact absurd hrunning (hphase turn o)
  · cases closed with
    | true => exact ⟨rfl, ⟨a.heartbeatFailure, rfl⟩, h⟩
    | false => exact h.beats (p.heartbeats a.phase)

lemma Leased.goTo (h : Leased a x db) (phase : Phase) : Leased { a with phase } x db :=
  ⟨h.own.of_eq rfl rfl rfl, h.valid, h.beating, h.lease⟩

end

/-! ## How a pass ends -/

section

variable {p : Pass} {a : Activation} {x : LeaseTerm} {db : Db}

/-- The item of a pass has a status. -/
def ItemStatusIs (a : Activation) (status : ItemStatus) (db : Db) : Prop :=
  ∀ i ∈ db.queueItems, i.key = a.claim.queueItem.key → i.status = status

/-- The item of a pass is ready again, or it is still leased. -/
def Unfinished (a : Activation) (db : Db) : Prop :=
  ∀ i ∈ db.queueItems, i.key = a.claim.queueItem.key → i.status = .ready ∨ i.status = .leased

lemma Leased.status (h : Leased a x db) : ItemStatusIs a .leased db := by
  obtain ⟨l, hl, hli, -, -, hheld⟩ := h.lease
  exact fun i hi hik => (h.own.inv.leased_iff i hi).2 ⟨l, hl, hli.trans hik.symm, hheld.2.2⟩

/-- Ending the lease of a pass: the item gets the status if the lease has not expired and, for a
completion, no handoff waits; else nothing changes. -/
lemma Leased.finish (h : Leased a x db) (status : ItemStatus) (reason : String)
    (lockedAt now : Time) :
    if lockedAt < x.expiresAt ∧ (status = .completed → ¬ db.AwaitsHandoff a.claim.queueItem.key)
    then ∃ item db', RoleQueueStore.finishLease (credentials a) status reason lockedAt now db =
      .ok (item, db') ∧ ItemStatusIs a status db'
    else ∃ e, RoleQueueStore.finishLease (credentials a) status reason lockedAt now db =
      .error e := by
  obtain ⟨l, hl, hli, hexpires, -, hheld⟩ := h.lease
  have hrun := RoleQueueStore.finishLease_of_heldBy h.own.stripped hl hheld status reason
    lockedAt now
  rw [hrun, hli, hexpires]
  by_cases hexp : lockedAt < x.expiresAt
  · by_cases hawait : status = .completed → ¬ db.AwaitsHandoff a.claim.queueItem.key
    · rw [if_pos ⟨hexp, hawait⟩, if_pos hexp, if_pos hawait]
      refine ⟨_, _, rfl, fun i hi hik => ?_⟩
      obtain ⟨j, -, -, rfl⟩ | ⟨-, hne⟩ := Table.mem_update_cases hi
      · rfl
      · exact absurd (hik.trans hli.symm) hne
    · rw [if_neg fun h => hawait h.2, if_pos hexp, if_neg hawait]
      exact ⟨_, rfl⟩
  · rw [if_neg fun h => hexp h.1, if_neg hexp]
    exact ⟨_, rfl⟩

/-- A pass that releases its item leaves it ready, or leased if the lease has expired. -/
lemma Leased.drive_releasing (h : Leased a x db) (n : ℕ) (closed : Bool) {reason : String}
    (hphase : a.phase = .releasing reason) : Unfinished a (drive p (n + 1) closed a db).1 := by
  obtain ⟨config, claim, phase, failure⟩ := a
  obtain rfl : phase = _ := hphase
  obtain ⟨-, ⟨failure', ha⟩, hleased⟩ := h.before (p := p) closed (by simp)
  rw [ha] at hleased
  have hdrive : (drive p (n + 1) closed ⟨config, claim, .releasing reason, failure⟩ db).1 =
      (RoleQueueStore.release (credentials ⟨config, claim, .releasing reason, failure'⟩)
        p.releaseLockedAt p.releasedAt).commit
          (meanwhile p closed ⟨config, claim, .releasing reason, failure⟩ db).2 := by
    simp only [drive, nextAction, ha, act]
  rw [hdrive]
  have hfinish := hleased.finish .ready "released" p.releaseLockedAt p.releasedAt
  intro i hi hik
  split at hfinish
  · obtain ⟨item, db', hok, hstatus⟩ := hfinish
    rw [RoleQueueStore.release, Tx.commit_of_ok hok] at hi
    exact Or.inl (hstatus i hi hik)
  · obtain ⟨e, herror⟩ := hfinish
    rw [RoleQueueStore.release, Tx.commit_of_error herror] at hi
    exact Or.inr (hleased.status i hi hik)

/-- A pass that completes its item releases it when the completion is refused. -/
lemma Leased.drive_completing (h : Leased a x db) (n : ℕ) (closed : Bool) {reason : String}
    (hphase : a.phase = .completing reason) :
    if p.completeLockedAt < (x.before p closed a).expiresAt ∧
        ¬ db.AwaitsHandoff a.claim.queueItem.key
    then ItemStatusIs a .completed (drive p (n + 2) closed a db).1
    else Unfinished a (drive p (n + 2) closed a db).1 := by
  obtain ⟨config, claim, phase, failure⟩ := a
  obtain rfl : phase = _ := hphase
  obtain ⟨honly, ⟨failure', ha⟩, hleased⟩ := h.before (p := p) closed (by simp)
  have hawait : (meanwhile p closed ⟨config, claim, .completing reason, failure⟩
      db).2.AwaitsHandoff claim.queueItem.key ↔ db.AwaitsHandoff claim.queueItem.key := by
    rw [honly]
    rfl
  rw [ha] at hleased
  have hfinish := hleased.finish .completed "completed" p.completeLockedAt p.completedAt
  by_cases haccepted : p.completeLockedAt <
      (x.before p closed ⟨config, claim, .completing reason, failure⟩).expiresAt ∧
      ¬ db.AwaitsHandoff claim.queueItem.key
  · rw [if_pos ⟨haccepted.1, fun _ h => haccepted.2 (hawait.1 h)⟩] at hfinish
    obtain ⟨item, db', hok, hstatus⟩ := hfinish
    have hcomplete : RoleQueueStore.complete
        (credentials ⟨config, claim, .completing reason, failure'⟩) p.completeLockedAt
        p.completedAt (meanwhile p closed ⟨config, claim, .completing reason, failure⟩ db).2 =
          .ok (item, db') := hok
    have hdrive : (drive p (n + 2) closed ⟨config, claim, .completing reason, failure⟩ db).1 =
        db' := by
      simp only [drive, nextAction, ha, act, hcomplete]
    rw [if_pos haccepted, hdrive]
    exact hstatus
  · rw [if_neg fun h => haccepted ⟨h.1, fun hdb => h.2 rfl (hawait.2 hdb)⟩] at hfinish
    obtain ⟨e, herror⟩ := hfinish
    have hcomplete : RoleQueueStore.complete
        (credentials ⟨config, claim, .completing reason, failure'⟩) p.completeLockedAt
        p.completedAt (meanwhile p closed ⟨config, claim, .completing reason, failure⟩ db).2 =
          .error e := herror
    have hdrive : drive p (n + 2) closed ⟨config, claim, .completing reason, failure⟩ db =
        drive p (n + 1) closed ⟨config, claim, .releasing "turn-failed", failure'⟩
          (meanwhile p closed ⟨config, claim, .completing reason, failure⟩ db).2 := by
      conv_lhs => unfold drive
      simp only [nextAction, ha, act, hcomplete, closes, Bool.or_false]
    rw [if_neg haccepted, hdrive]
    exact (hleased.goTo (.releasing "turn-failed")).drive_releasing n closed rfl

end

/-! ## Items of finished work -/

/-- The item is the envelope of a retry whose attempt was recorded. -/
def RetryRecorded (c : RoleServiceConfig) (item : QueueItem) (db : Db) : Prop :=
  match retryRef item.payload with
  | .ok (some r) => AttemptRecorded c item.workItemId r db
  | _ => False

instance (c : RoleServiceConfig) (item : QueueItem) (db : Db) :
    Decidable (RetryRecorded c item db) := by
  unfold RetryRecorded
  split <;> infer_instance

/-- A pass that claimed an item drove an activation with that claim. -/
lemma runOnce_some {c : RoleServiceConfig} {p : Pass} {db db' : Db} {item : QueueItem}
    {result : Option RoleServiceResult} (h : runOnce c p db = .ok (some item, db', result)) :
    ∃ claim db₁, RoleQueueStore.claim (claimRequest c p.leaseHex p.leaseToken) p.clock [] db =
        .ok (some claim, db₁) ∧ item = claim.queueItem ∧
      db' = (drive p 8 false ⟨c, claim, .claimed, none⟩ db₁).1 := by
  unfold runOnce at h
  split at h
  · cases h
  · cases h
  · next claim db₁ hclaim =>
    simp only [Except.ok.injEq, Prod.mk.injEq, Option.some.injEq] at h
    obtain ⟨rfl, h⟩ := h
    exact ⟨claim, db₁, hclaim, rfl, by rw [h]⟩

lemma retryRecorded_iff {c : RoleServiceConfig} {item : QueueItem} {db : Db} :
    retryAttemptAlreadyRecorded c item.workItemId item.payload db = .ok true ↔
      RetryRecorded c item db := by
  unfold retryAttemptAlreadyRecorded RetryRecorded
  split
  · next failure h => simp [h]
  · next h => simp [h]
  · next r h => simp [h]

/-- The reason of the completion of a recorded retry. -/
def alreadyRecorded : String := "reliability-attempt-already-recorded"

/-- The heartbeats before the completion of a recorded retry. -/
def Pass.retryHeartbeats (p : Pass) : List (Time × Time) :=
  p.heartbeats .claimed ++ p.heartbeats (.completing alreadyRecorded)

/-- The completion of the envelope of a recorded retry is accepted. -/
structure RetryCompleted (c : RoleServiceConfig) (p : Pass) (item : QueueItem) (db : Db) :
    Prop where
  recorded : RetryRecorded c item db
  unexpired : p.completeLockedAt < (leaseTerm c p p.retryHeartbeats).expiresAt
  accepted : ¬ db.AwaitsHandoff item.key

/-- The item of finished work after a pass. -/
lemma ClaimedItem.status_of_workOver {c : RoleServiceConfig} {p : Pass} {db db₁ : Db}
    {claim : LeaseClaim} {first : QueueItem} (h : ClaimedItem c p db claim db₁ first)
    (hover : WorkOver c.projectId claim.queueItem.workItemId db₁) :
    (RetryCompleted c p claim.queueItem db₁ →
      ItemStatusIs ⟨c, claim, .claimed, none⟩ .completed
        (drive p 8 false ⟨c, claim, .claimed, none⟩ db₁).1) ∧
    (¬ RetryCompleted c p claim.queueItem db₁ →
      Unfinished ⟨c, claim, .claimed, none⟩
        (drive p 8 false ⟨c, claim, .claimed, none⟩ db₁).1) := by
  obtain ⟨honly, ⟨failure, ha⟩, hleased⟩ := h.leased.before (p := p) false (by simp)
  rw [ha] at hleased
  have hover' : WorkOver c.projectId claim.queueItem.workItemId
      (meanwhile p false ⟨c, claim, .claimed, none⟩ db₁).2 := by
    rw [honly]
    exact hover
  have hrec : RetryRecorded c claim.queueItem
      (meanwhile p false ⟨c, claim, .claimed, none⟩ db₁).2 ↔
        RetryRecorded c claim.queueItem db₁ := by
    rw [honly]
    rfl
  have hawait : (meanwhile p false ⟨c, claim, .claimed, none⟩ db₁).2.AwaitsHandoff
      claim.queueItem.key ↔ db₁.AwaitsHandoff claim.queueItem.key := by
    rw [honly]
    rfl
  have hcheck : drive p 8 false ⟨c, claim, .claimed, none⟩ db₁ =
      drive p 7 false ⟨c, claim, checkRetry ⟨c, claim, .claimed, failure⟩
        (meanwhile p false ⟨c, claim, .claimed, none⟩ db₁).2, failure⟩
        (meanwhile p false ⟨c, claim, .claimed, none⟩ db₁).2 := by
    conv_lhs => unfold drive
    simp only [nextAction, ha, act, closes, Bool.or_false]
  rw [hcheck]
  generalize (meanwhile p false ⟨c, claim, .claimed, none⟩ db₁).2 = db₂ at *
  have hiff : _ ↔ RetryRecorded c claim.queueItem db₂ := retryRecorded_iff
  have hterm : ∀ reason, (LeaseTerm.before p false ⟨c, claim, .completing reason, failure⟩
      (LeaseTerm.before p false ⟨c, claim, .claimed, none⟩ (leaseTerm c p []))) =
        leaseTerm c p (p.heartbeats .claimed ++ p.heartbeats (.completing reason)) := by
    intro reason
    simp [LeaseTerm.before, leaseTerm, h.acquired, List.foldl_append]
  cases hretry : retryAttemptAlreadyRecorded c claim.queueItem.workItemId
      claim.queueItem.payload db₂ with
  | error failure' =>
    have hnot : ¬ RetryRecorded c claim.queueItem db₁ := by
      rw [← hrec, ← hiff, hretry]
      simp
    refine ⟨fun hdone => absurd hdone.recorded hnot, fun _ => ?_⟩
    simp only [checkRetry, hretry]
    exact (hleased.goTo (.releasing (failureReason failure'))).drive_releasing 6 false rfl
  | ok recorded =>
    cases recorded with
    | true =>
      have hrecorded : RetryRecorded c claim.queueItem db₁ := hrec.1 (hiff.1 hretry)
      simp only [checkRetry, hretry]
      have hend := (hleased.goTo (.completing alreadyRecorded)).drive_completing (p := p) 5 false
        rfl
      rw [hterm] at hend
      constructor
      · intro hdone
        rw [if_pos ⟨hdone.unexpired, fun hw => hdone.accepted (hawait.1 hw)⟩] at hend
        exact hend
      · intro hnot
        rw [if_neg fun hacc => hnot ⟨hrecorded, hacc.1, fun hw => hacc.2 (hawait.2 hw)⟩] at hend
        exact hend
    | false =>
      have hnot : ¬ RetryRecorded c claim.queueItem db₁ := by
        rw [← hrec, ← hiff, hretry]
        simp
      refine ⟨fun hdone => absurd hdone.recorded hnot, fun _ => ?_⟩
      simp only [checkRetry, hretry]
      -- the query for the context of unfinished work finds nothing
      obtain ⟨honly', ⟨failure', ha'⟩, hleased'⟩ :=
        (hleased.goTo .checked).before (p := p) false (by simp)
      have hcontext : workContext c claim.queueItem.workItemId
          (meanwhile p false ⟨c, claim, .checked, failure⟩ db₂).2 = none := by
        refine workContext_of_workOver ?_
        rw [honly']
        exact hover'
      have hprepare : drive p 7 false ⟨c, claim, .checked, failure⟩ db₂ =
          drive p 6 false ⟨c, claim, .releasing "turn-failed", failure'⟩
            (meanwhile p false ⟨c, claim, .checked, failure⟩ db₂).2 := by
        conv_lhs => unfold drive
        simp only [nextAction, ha', act, prepare, hcontext, closes, Bool.or_false]
      rw [hprepare]
      rw [ha'] at hleased'
      exact (hleased'.goTo (.releasing "turn-failed")).drive_releasing 5 false rfl

/-- An item that is ready or leased is ready in a later database: the next claim of its project
reclaims the lease once it has expired. -/
lemma comes_back {c : RoleServiceConfig} {p : Pass} {db db₁ db' : Db} {claim : LeaseClaim}
    (hclaim : RoleQueueStore.claim (claimRequest c p.leaseHex p.leaseToken) p.clock [] db =
      .ok (some claim, db₁)) (hinv : LeaseInv db') {i : QueueItem} (hi : i ∈ db'.queueItems)
    (hproject : required c.projectId = some i.projectId)
    (hstatus : i.status = .ready ∨ i.status = .leased) :
    ∃ es, ∃ j ∈ (run QueueEvent.step db' es).queueItems, j.key = i.key ∧ j.status = .ready := by
  obtain hready | hleased := hstatus
  · exact ⟨[], i, hi, rfl, hready⟩
  · obtain ⟨l, hl, hli, hactive⟩ := (hinv.leased_iff i hi).1 hleased
    obtain ⟨P, Q, o, queue, inst, hP, hQ, ho, hseconds, hqueue, hinst, hpaused, hrole,
      hrunning, -⟩ :=
      RoleQueueStore.claim_ok hclaim
    obtain rfl : i.projectId = P := Option.some.inj (hproject.symm.trans hP)
    -- the other sessions hold the ready items when the service claims after the expiry
    let after : Db := { db with queueItems := db'.queueItems, leases := db'.leases }
    let clock : ClaimClock := ⟨l.expiresAt, p.clock.selected, p.clock.acquired⟩
    let locked := db'.queueItems.rows.map QueueItem.queueItemId
    have hnone : (after.reclaimExpired i.projectId clock.reclaimed).nextReady i.projectId Q
        clock.selected locked = none := by
      rw [Option.eq_none_iff_forall_ne_some]
      intro x hx
      obtain ⟨hmem, -, hfree⟩ := Table.mem_select.1 (List.argmin_mem hx)
      obtain ⟨j, hj, -, rfl⟩ | ⟨hj, -⟩ := Table.mem_update_cases hmem
      · exact hfree (List.mem_map.2 ⟨j, hj, rfl⟩)
      · exact hfree (List.mem_map.2 ⟨x, hj, rfl⟩)
    have hagain := RoleQueueStore.claim_of_none (r := claimRequest c p.leaseHex p.leaseToken)
      clock after hP hQ ho hseconds hqueue hinst hpaused hrole hrunning hnone
    refine ⟨[.elsewhere db, .call (.claim (claimRequest c p.leaseHex p.leaseToken) clock locked)],
      { i with status := .ready }, ?_, rfl, rfl⟩
    have hrun : run QueueEvent.step db' [.elsewhere db,
        .call (.claim (claimRequest c p.leaseHex p.leaseToken) clock locked)] =
        after.reclaimExpired i.projectId clock.reclaimed := Tx.commit_of_ok hagain
    rw [hrun]
    have hexpired : db'.leases.Any fun m => m.Expired i.projectId l.expiresAt ∧ m.itemKey = i.key :=
      ⟨l, hl, ⟨(Prod.mk.inj hli).1, hactive, le_rfl⟩, hli⟩
    have hreclaimed : i.status = .leased ∧ after.leases.Any fun m =>
        m.Expired i.projectId l.expiresAt ∧ m.itemKey = i.key := ⟨hleased, hexpired⟩
    exact Table.mem_update_of_pos hi hreclaimed

/-- **Items of finished work.** An item of finished work is never ready again after a pass exactly
when it is the envelope of a recorded retry whose completion is accepted. -/
theorem never_ready_iff {c : RoleServiceConfig} {p : Pass} {db db' : Db} (hinv : LeaseInv db)
    {item : QueueItem} {result : Option RoleServiceResult}
    (h : runOnce c p db = .ok (some item, db', result))
    (hover : WorkOver c.projectId item.workItemId db) :
    (∀ es, ∀ i ∈ (run QueueEvent.step db' es).queueItems, i.key = item.key → i.status ≠ .ready) ↔
      RetryCompleted c p item db := by
  obtain ⟨claim, db₁, hclaim, rfl, rfl⟩ := runOnce_some h
  obtain ⟨first, hclaimed⟩ := claimedItem hinv hclaim
  have hover₁ : WorkOver c.projectId claim.queueItem.workItemId db₁ := by
    rw [hclaimed.tables]
    exact hover
  have hdone : RetryCompleted c p claim.queueItem db₁ ↔ RetryCompleted c p claim.queueItem db := by
    have hrec : RetryRecorded c claim.queueItem db₁ ↔ RetryRecorded c claim.queueItem db := by
      rw [hclaimed.tables]
      rfl
    have hawait : db₁.AwaitsHandoff claim.queueItem.key ↔
        db.AwaitsHandoff claim.queueItem.key := by
      rw [hclaimed.tables]
      rfl
    exact ⟨fun h => ⟨hrec.1 h.recorded, h.unexpired, fun hw => h.accepted (hawait.2 hw)⟩,
      fun h => ⟨hrec.2 h.recorded, h.unexpired, fun hw => h.accepted (hawait.1 hw)⟩⟩
  obtain ⟨hcompleted, hunfinished⟩ := hclaimed.status_of_workOver hover₁
  obtain ⟨honly, hinv'⟩ := drive_onlyItem p 8 false hclaimed.leased.own
  obtain ⟨i, hi, hcont⟩ := honly.item _ hclaimed.mem
  constructor
  · intro hnever
    by_contra hnot
    have hproject : required c.projectId = some i.projectId := by
      have hfirst : first.projectId = claim.projectId := (Db.nextReady_mem hclaimed.first).2.1
      have hitem : claim.queueItem.projectId = first.projectId := by rw [hclaimed.claimed]
      rw [hclaimed.project, (Prod.mk.inj hcont.key).1, hitem, hfirst]
    obtain ⟨es, j, hj, hji, hready⟩ := comes_back hclaim hinv' hi hproject
      (hunfinished (fun h => hnot (hdone.1 h)) i hi hcont.key)
    exact hnever es j hj (hji.trans hcont.key) hready
  · intro hretry es j hj hji hready
    have hlast := (LeaseHistory.run hinv' es).completed hi
      (hcompleted (hdone.2 hretry) i hi hcont.key) j hj (hji.trans hcont.key.symm)
    rw [hready] at hlast
    cases hlast

/-! ## Passes one after the other -/

/-- The rank of an item in the claim order. -/
abbrev ClaimRank : Type := ℤ ×ₗ Time ×ₗ Time ×ₗ String

/-- The item that has a rank. -/
def ClaimRank.queueItemId (r : ClaimRank) : String := (ofLex (ofLex (ofLex r).2).2).2

lemma queueItemId_claimRank (i : QueueItem) : ClaimRank.queueItemId i.claimRank = i.queueItemId :=
  rfl

/-- An item of a queue is ready. -/
def QueueItem.Waiting (projectId queueId : String) (i : QueueItem) : Prop :=
  i.projectId = projectId ∧ i.queueId = queueId ∧ i.status = .ready

instance (projectId queueId : String) : DecidablePred (QueueItem.Waiting projectId queueId) :=
  fun _ => inferInstanceAs (Decidable (_ ∧ _ ∧ _))

/-- The ranks of the ready items of a queue. -/
def pendingRanks (projectId queueId : String) (db : Db) : Finset ClaimRank :=
  ((db.queueItems.select (QueueItem.Waiting projectId queueId)).map QueueItem.claimRank).toFinset

/-- What the passes claim. -/
def claimedItems (c : RoleServiceConfig) : Db → List Pass → List (Option QueueItem)
  | _, [] => []
  | db, p :: ps =>
    match runOnce c p db with
    | .error _ => []
    | .ok (item, db', _) => item :: claimedItems c db' ps

/-- A pass completed its item, or released it if the item fails. -/
def Settled (failing : String → Prop) (item : Option QueueItem) (db : Db) : Prop :=
  ∀ i ∈ item, ∀ j ∈ db.queueItems.rows, j.key = i.key →
    j.status ≠ .leased ∧ (j.status = .ready ↔ failing i.queueItemId)

instance (failing : String → Prop) [DecidablePred failing] (item : Option QueueItem) (db : Db) :
    Decidable (Settled failing item db) :=
  inferInstanceAs (Decidable (∀ _ ∈ _, _))

/-- Passes that start after an instant, each of which completes or releases its item: the failing
items are released on every attempt. -/
def Patrols (c : RoleServiceConfig) (failing : String → Prop) (since : Time) :
    Db → List Pass → Prop
  | _, [] => True
  | db, p :: ps =>
    match runOnce c p db with
    | .error _ => False
    | .ok (item, db', _) =>
      since ≤ p.clock.selected ∧ Settled failing item db' ∧ Patrols c failing since db' ps

instance decidablePatrols (c : RoleServiceConfig) (failing : String → Prop) [DecidablePred failing]
    (since : Time) : ∀ (db : Db) (ps : List Pass), Decidable (Patrols c failing since db ps)
  | _, [] => isTrue trivial
  | db, p :: ps => by
    unfold Patrols
    split
    · exact isFalse id
    · next item db' _ _ =>
      have : Decidable (Patrols c failing since db' ps) :=
        decidablePatrols c failing since db' ps
      infer_instance

/-- Nobody works on a queue, and all its ready items are available since an instant. -/
structure Quiet (projectId queueId : String) (since : Time) (db : Db) : Prop where
  idle : ∀ i ∈ db.queueItems, i.projectId = projectId → i.queueId = queueId → i.status ≠ .leased
  available : ∀ i ∈ db.queueItems, i.Waiting projectId queueId → i.availableAt ≤ since

section

variable {P Q : String} {since : Time} {db : Db}

lemma mem_pendingRanks {r : ClaimRank} :
    r ∈ pendingRanks P Q db ↔ ∃ j ∈ db.queueItems, j.Waiting P Q ∧ j.claimRank = r := by
  simp only [pendingRanks, List.mem_toFinset, List.mem_map, Table.mem_select, and_assoc]

/-- Reclaiming expired leases does not touch a queue that nobody works on. -/
lemma Quiet.mem_reclaimExpired (h : Quiet P Q since db) {p : String} {now : Time}
    {j : QueueItem} (hp : j.projectId = P) (hq : j.queueId = Q) :
    j ∈ (db.reclaimExpired p now).queueItems ↔ j ∈ db.queueItems := by
  constructor
  · intro hj
    obtain ⟨i, hi, ⟨hleased, -⟩, rfl⟩ | ⟨hj, -⟩ := Table.mem_update_cases hj
    · exact absurd hleased (h.idle i hi hp hq)
    · exact hj
  · exact fun hj => Table.mem_update_of_neg hj fun hl => h.idle j hj hp hq hl.1

/-- The next ready item of a queue that nobody works on is the first of its ready items. -/
lemma Quiet.nextReady (h : Quiet P Q since db) (now : Time) {t : Time} (ht : since ≤ t) :
    match (db.reclaimExpired P now).nextReady P Q t [] with
    | none => pendingRanks P Q db = ∅
    | some x => x ∈ db.queueItems ∧ x.Waiting P Q ∧ ∀ r ∈ pendingRanks P Q db, x.claimRank ≤ r := by
  have hmem : ∀ j ∈ db.queueItems, j.Waiting P Q →
      j ∈ (db.reclaimExpired P now).queueItems.select
        fun i => i.Available P Q t ∧ i.queueItemId ∉ ([] : List String) := by
    intro j hj hw
    rw [Table.mem_select]
    exact ⟨(h.mem_reclaimExpired hw.1 hw.2.1).2 hj,
      ⟨hw.1, hw.2.1, hw.2.2, (h.available j hj hw).trans ht⟩, List.not_mem_nil⟩
  split
  · next hnone =>
    rw [Db.nextReady, List.argmin_eq_none] at hnone
    rw [Finset.eq_empty_iff_forall_notMem]
    intro r hr
    obtain ⟨j, hj, hw, -⟩ := mem_pendingRanks.1 hr
    have hin := hmem j hj hw
    rw [hnone] at hin
    simp at hin
  · next x hsome =>
    obtain ⟨hx, hav⟩ := Db.nextReady_mem hsome
    refine ⟨(h.mem_reclaimExpired hav.1 hav.2.1).1 hx, ⟨hav.1, hav.2.1, hav.2.2.1⟩, ?_⟩
    intro r hr
    obtain ⟨j, hj, hw, rfl⟩ := mem_pendingRanks.1 hr
    exact List.le_of_mem_argmin (hmem j hj hw) hsome

end

lemma eq_strip_of_required {s t : String} (h : required s = some t) : t = strip s := by
  unfold required at h
  split at h
  · simp at h
  · exact (Option.some.inj h).symm

/-- The ready items of the queue after a pass that claimed one of them. -/
lemma pendingRanks_of_pass {P Q : String} {since : Time} {db db' : Db}
    (h : Quiet P Q since db) {item : QueueItem} (hitem : item ∈ db.queueItems)
    (hw : item.Waiting P Q) {i' : QueueItem} (hi' : i' ∈ db'.queueItems)
    (hcont : item.Continues i') (hothers : ∀ j : QueueItem, j.key ≠ item.key →
      j.projectId = P → j.queueId = Q → (j ∈ db'.queueItems ↔ j ∈ db.queueItems))
    (hnot : i'.status ≠ .leased) : Quiet P Q since db' ∧ pendingRanks P Q db' =
      if i'.status = .ready then pendingRanks P Q db
      else (pendingRanks P Q db).erase item.claimRank := by
  have hsame : i'.projectId = P ∧ i'.queueId = Q ∧ i'.availableAt = item.availableAt ∧
      i'.claimRank = item.claimRank := by
    rw [hcont]
    exact ⟨hw.1, hw.2.1, rfl, rfl⟩
  have huniq : ∀ j ∈ db'.queueItems, j.key = item.key → j = i' := fun j hj hjk =>
    db'.queueItems.eq_of_key hj hi' (hjk.trans hcont.key.symm)
  have hrank : ∀ j ∈ db.queueItems, j.Waiting P Q → j.claimRank = item.claimRank → j = item := by
    intro j hj hjw hr
    refine db.queueItems.eq_of_key hj hitem ?_
    have hid : j.queueItemId = item.queueItemId := by
      rw [← queueItemId_claimRank j, ← queueItemId_claimRank item, hr]
    rw [QueueItem.key, QueueItem.key, hjw.1, hw.1, hid]
  refine ⟨⟨?_, ?_⟩, ?_⟩
  · intro j hj hp hq
    by_cases hjk : j.key = item.key
    · rw [huniq j hj hjk]
      exact hnot
    · exact h.idle j ((hothers j hjk hp hq).1 hj) hp hq
  · intro j hj hjw
    by_cases hjk : j.key = item.key
    · rw [huniq j hj hjk, hsame.2.2.1]
      exact h.available item hitem hw
    · exact h.available j ((hothers j hjk hjw.1 hjw.2.1).1 hj) hjw
  · -- the other ready items are the same, and the claimed one stays if it was released
    have hmem : ∀ r, r ∈ pendingRanks P Q db' ↔
        (r = item.claimRank ∧ i'.status = .ready) ∨
          (r ∈ pendingRanks P Q db ∧ r ≠ item.claimRank) := by
      intro r
      constructor
      · intro hr
        obtain ⟨j, hj, hjw, rfl⟩ := mem_pendingRanks.1 hr
        by_cases hjk : j.key = item.key
        · obtain rfl := huniq j hj hjk
          exact Or.inl ⟨hsame.2.2.2, hjw.2.2⟩
        · have hjdb := (hothers j hjk hjw.1 hjw.2.1).1 hj
          refine Or.inr ⟨mem_pendingRanks.2 ⟨j, hjdb, hjw, rfl⟩, fun hr => hjk ?_⟩
          rw [hrank j hjdb hjw hr]
      · rintro (⟨rfl, hready⟩ | ⟨hr, hne⟩)
        · exact mem_pendingRanks.2 ⟨i', hi', ⟨hsame.1, hsame.2.1, hready⟩, hsame.2.2.2⟩
        · obtain ⟨j, hj, hjw, rfl⟩ := mem_pendingRanks.1 hr
          have hjk : j.key ≠ item.key := fun hk =>
            hne (by rw [db.queueItems.eq_of_key hj hitem hk])
          exact mem_pendingRanks.2 ⟨j, (hothers j hjk hjw.1 hjw.2.1).2 hj, hjw, rfl⟩
    have hin : item.claimRank ∈ pendingRanks P Q db := mem_pendingRanks.2 ⟨item, hitem, hw, rfl⟩
    ext r
    rw [hmem]
    by_cases hready : i'.status = .ready
    · rw [if_pos hready]
      constructor
      · rintro (⟨rfl, -⟩ | ⟨hr, -⟩)
        · exact hin
        · exact hr
      · intro hr
        by_cases hri : r = item.claimRank
        · exact Or.inl ⟨hri, hready⟩
        · exact Or.inr ⟨hr, hri⟩
    · rw [if_neg hready, Finset.mem_erase]
      constructor
      · rintro (⟨-, hr⟩ | ⟨hr, hne⟩)
        · exact absurd hr hready
        · exact ⟨hne, hr⟩
      · exact fun hr => Or.inr ⟨hr.2, hr.1⟩

/-- A pass that found nothing to claim leaves a queue without ready items. -/
lemma runOnce_none {c : RoleServiceConfig} {p : Pass} {since : Time} {db db' : Db}
    {result : Option RoleServiceResult} (hinv : LeaseInv db)
    (h : Quiet (strip c.projectId) (strip c.roleId) since db) (hsince : since ≤ p.clock.selected)
    (hpass : runOnce c p db = .ok (none, db', result)) :
    LeaseInv db' ∧ Quiet (strip c.projectId) (strip c.roleId) since db' ∧
      pendingRanks (strip c.projectId) (strip c.roleId) db = ∅ ∧
      pendingRanks (strip c.projectId) (strip c.roleId) db' = ∅ := by
  unfold runOnce at hpass
  split at hpass
  · cases hpass
  · next mid hclaim =>
    cases hpass
    obtain ⟨P, Q, o, queue, inst, hP, hQ, -, -, -, -, -, -, -, hnext⟩ :=
      RoleQueueStore.claim_ok hclaim
    obtain ⟨hnone, -, rfl⟩ | ⟨item, mid', -, -, -, hc⟩ := hnext
    · have hready := h.nextReady p.clock.reclaimed hsince
      have hP' : P = strip c.projectId := eq_strip_of_required hP
      have hQ' : Q = strip c.roleId := eq_strip_of_required hQ
      subst hP' hQ'
      rw [hnone] at hready
      have hitems : ∀ j : QueueItem, j.projectId = strip c.projectId →
          j.queueId = strip c.roleId →
          (j ∈ (db.reclaimExpired (strip c.projectId) p.clock.reclaimed).queueItems ↔
            j ∈ db.queueItems) := fun j hp hq => h.mem_reclaimExpired hp hq
      refine ⟨hinv.reclaimExpired, ⟨?_, ?_⟩, hready, ?_⟩
      · exact fun j hj hp hq => h.idle j ((hitems j hp hq).1 hj) hp hq
      · exact fun j hj hw => h.available j ((hitems j hw.1 hw.2.1).1 hj) hw
      · rw [Finset.eq_empty_iff_forall_notMem] at hready ⊢
        intro r hr
        obtain ⟨j, hj, hw, rfl⟩ := mem_pendingRanks.1 hr
        exact hready _ (mem_pendingRanks.2 ⟨j, (hitems j hw.1 hw.2.1).1 hj, hw, rfl⟩)
    · simp at hc
  · cases hpass

/-- A pass that claims an item and completes or releases it claims the least ready one, and the
queue loses it unless it fails. -/
lemma runOnce_claimed {c : RoleServiceConfig} {p : Pass} {failing : String → Prop} {since : Time}
    {db db' : Db} {item : QueueItem} {result : Option RoleServiceResult} (hinv : LeaseInv db)
    (h : Quiet (strip c.projectId) (strip c.roleId) since db) (hsince : since ≤ p.clock.selected)
    (hpass : runOnce c p db = .ok (some item, db', result))
    (hsettled : Settled failing (some item) db') :
    LeaseInv db' ∧ Quiet (strip c.projectId) (strip c.roleId) since db' ∧
      item.claimRank ∈ pendingRanks (strip c.projectId) (strip c.roleId) db ∧
      (∀ r ∈ pendingRanks (strip c.projectId) (strip c.roleId) db, item.claimRank ≤ r) ∧
      (failing item.queueItemId → pendingRanks (strip c.projectId) (strip c.roleId) db' =
        pendingRanks (strip c.projectId) (strip c.roleId) db) ∧
      (¬ failing item.queueItemId → pendingRanks (strip c.projectId) (strip c.roleId) db' =
        (pendingRanks (strip c.projectId) (strip c.roleId) db).erase item.claimRank) := by
  obtain ⟨claim, db₁, hclaim, rfl, rfl⟩ := runOnce_some hpass
  obtain ⟨first, hclaimed⟩ := claimedItem hinv hclaim
  have hP := eq_strip_of_required hclaimed.project
  have hQ := eq_strip_of_required hclaimed.queue
  have hnext := h.nextReady p.clock.reclaimed hsince
  rw [← hP, ← hQ, hclaimed.first] at hnext
  obtain ⟨hmem, hw, hmin⟩ := hnext
  obtain ⟨honly, hinv'⟩ := drive_onlyItem p 8 false hclaimed.leased.own
  have hkey : claim.queueItem.key = first.key := by
    rw [hclaimed.claimed]
    rfl
  have hrank : claim.queueItem.claimRank = first.claimRank := by
    rw [hclaimed.claimed]
    rfl
  -- the claimed item is the first one, leased, and the pass goes on with it
  obtain ⟨i', hi', hcont⟩ := honly.item _ hclaimed.mem
  have hcont' : first.Continues i' := by
    rw [hclaimed.claimed] at hcont
    exact hcont
  obtain ⟨hnot, hready⟩ := hsettled _ rfl i' hi' hcont.key
  rw [← hP, ← hQ] at h ⊢
  obtain ⟨hquiet', hpending⟩ := pendingRanks_of_pass h hmem hw hi' hcont' (by
    intro j hj hjp hjq
    rw [honly.others j (hkey ▸ hj), hclaimed.items j hj]
    exact h.mem_reclaimExpired hjp hjq) hnot
  rw [hrank]
  refine ⟨hinv', hquiet', mem_pendingRanks.2 ⟨first, hmem, hw, rfl⟩, hmin, fun hfail => ?_,
    fun hfail => ?_⟩
  · rw [hpending, if_pos (hready.2 hfail)]
  · rw [hpending, if_neg fun hr => hfail (hready.1 hr)]

lemma length_claimedItems {c : RoleServiceConfig} {failing : String → Prop} {since : Time}
    {ps : List Pass} {db : Db} (hrun : Patrols c failing since db ps) :
    (claimedItems c db ps).length = ps.length := by
  induction ps generalizing db with
  | nil => rfl
  | cons p ps ih =>
    unfold Patrols at hrun
    unfold claimedItems
    split at hrun
    · exact absurd hrun id
    · simp only [List.length_cons, ih hrun.2.2]

/-- **Passes serve the least item.** -/
theorem serves_of_patrols {c : RoleServiceConfig} {failing : String → Prop} {since : Time}
    {ps : List Pass} {db : Db} (hinv : LeaseInv db)
    (h : Quiet (strip c.projectId) (strip c.roleId) since db)
    (hrun : Patrols c failing since db ps) :
    Serves (fun r => failing (ClaimRank.queueItemId r))
      (pendingRanks (strip c.projectId) (strip c.roleId) db)
      ((claimedItems c db ps).map (Option.map QueueItem.claimRank)) := by
  induction ps generalizing db with
  | nil => exact .stop _
  | cons p ps ih =>
    unfold Patrols at hrun
    unfold claimedItems
    cases hpass : runOnce c p db with
    | error e =>
      rw [hpass] at hrun
      exact absurd hrun id
    | ok r =>
      obtain ⟨item, db', result⟩ := r
      rw [hpass] at hrun
      obtain ⟨hsince, hsettled, hrest⟩ := hrun
      cases item with
      | none =>
        obtain ⟨hinv', hquiet', hempty, hempty'⟩ := runOnce_none hinv h hsince hpass
        have hserves := ih hinv' hquiet' hrest
        rw [hempty'] at hserves
        simp only [List.map_cons, Option.map_none, hempty]
        exact .idle hserves
      | some item =>
        obtain ⟨hinv', hquiet', hin, hmin, hreleased, hcompleted⟩ :=
          runOnce_claimed hinv h hsince hpass hsettled
        have hserves := ih hinv' hquiet' hrest
        simp only [List.map_cons, Option.map_some]
        by_cases hfail : failing item.queueItemId
        · rw [hreleased hfail] at hserves
          exact .retry hin hmin (by rwa [queueItemId_claimRank]) hserves
        · rw [hcompleted hfail] at hserves
          exact .done hin hmin (by rwa [queueItemId_claimRank]) hserves

/-! ## When no item poisons a queue -/

/-- Every ready item is claimed exactly when no failing one has another one behind it. -/
lemma all_claimed_iff {c : RoleServiceConfig} {failing : String → Prop} {since : Time}
    {ps : List Pass} {db : Db} (hinv : LeaseInv db)
    (h : Quiet (strip c.projectId) (strip c.roleId) since db)
    (hrun : Patrols c failing since db ps)
    (hlen : (db.queueItems.select
      (QueueItem.Waiting (strip c.projectId) (strip c.roleId))).length ≤ ps.length) :
    (∀ i ∈ db.queueItems, i.Waiting (strip c.projectId) (strip c.roleId) →
      ∃ j, some j ∈ claimedItems c db ps ∧ j.queueItemId = i.queueItemId) ↔
    ∀ i ∈ db.queueItems, i.Waiting (strip c.projectId) (strip c.roleId) → failing i.queueItemId →
      ∀ j ∈ db.queueItems, j.Waiting (strip c.projectId) (strip c.roleId) → j ≠ i →
        j.claimRank < i.claimRank := by
  have hserves := serves_of_patrols hinv h hrun
  have hcard : (pendingRanks (strip c.projectId) (strip c.roleId) db).card ≤
      ((claimedItems c db ps).map (Option.map QueueItem.claimRank)).length := by
    have hle := List.toFinset_card_le ((db.queueItems.select
      (QueueItem.Waiting (strip c.projectId) (strip c.roleId))).map QueueItem.claimRank)
    rw [List.length_map] at hle ⊢
    rw [length_claimedItems hrun]
    exact hle.trans hlen
  -- an item is known by its rank, and by its identifier
  have hrank : ∀ i ∈ db.queueItems, i.Waiting (strip c.projectId) (strip c.roleId) →
      ∀ j ∈ db.queueItems, j.Waiting (strip c.projectId) (strip c.roleId) →
        ClaimRank.queueItemId i.claimRank = ClaimRank.queueItemId j.claimRank → i = j := by
    intro i hi hiw j hj hjw hid
    refine db.queueItems.eq_of_key hi hj ?_
    have hid' : i.queueItemId = j.queueItemId := hid
    rw [QueueItem.key, QueueItem.key, hiw.1, hjw.1, hid']
  have hclaimed : ∀ i ∈ db.queueItems, i.Waiting (strip c.projectId) (strip c.roleId) →
      ((∃ j, some j ∈ claimedItems c db ps ∧ j.queueItemId = i.queueItemId) ↔
        some i.claimRank ∈ (claimedItems c db ps).map (Option.map QueueItem.claimRank)) := by
    intro i hi hiw
    constructor
    · rintro ⟨j, hj, hji⟩
      have hmem := List.mem_map_of_mem (f := Option.map QueueItem.claimRank) hj
      obtain ⟨k, hk, hkw, hkj⟩ := mem_pendingRanks.1 (hserves.mem hmem)
      have hki : k = i := hrank k hk hkw i hi hiw (by rw [hkj]; exact hji)
      rw [← hki, hkj]
      exact hmem
    · intro hmem
      obtain ⟨o, ho, hoi⟩ := List.mem_map.1 hmem
      cases o with
      | none => simp at hoi
      | some j =>
        have hji : j.claimRank = i.claimRank := Option.some.inj hoi
        exact ⟨j, ho, by rw [← queueItemId_claimRank j, hji]; rfl⟩
  have hall := hserves.all_iff hcard
  constructor
  · intro hevery i hi hiw hfail j hj hjw hji
    have hranks : ∀ r ∈ pendingRanks (strip c.projectId) (strip c.roleId) db,
        some r ∈ (claimedItems c db ps).map (Option.map QueueItem.claimRank) := by
      intro r hr
      obtain ⟨k, hk, hkw, rfl⟩ := mem_pendingRanks.1 hr
      exact (hclaimed k hk hkw).1 (hevery k hk hkw)
    refine hall.1 hranks _ (mem_pendingRanks.2 ⟨i, hi, hiw, rfl⟩) hfail _
      (mem_pendingRanks.2 ⟨j, hj, hjw, rfl⟩) fun heq => hji ?_
    exact hrank j hj hjw i hi hiw (by rw [heq])
  · intro hlast i hi hiw
    refine (hclaimed i hi hiw).2 (hall.2 ?_ _ (mem_pendingRanks.2 ⟨i, hi, hiw, rfl⟩))
    intro r hr hfail r' hr' hne
    obtain ⟨k, hk, hkw, rfl⟩ := mem_pendingRanks.1 hr
    obtain ⟨k', hk', hkw', rfl⟩ := mem_pendingRanks.1 hr'
    exact hlast k hk hkw hfail k' hk' hkw' fun heq => hne (by rw [heq])

/-- **Poisoned items.**  In every reachable database: an item of finished work that a pass claims is
never ready again, and so never claimed again, exactly when it is the envelope of a recorded retry
whose completion is accepted.  And of the ready items of a queue, each of which every pass completes
or releases, all are claimed in as many passes as there are items exactly when no item that is
always released has another one behind it. -/
theorem not_poisoned_iff (db₀ : Db) (es : List QueueEvent) (c : RoleServiceConfig) :
    let db := run QueueEvent.step db₀.withoutQueue es
    (∀ p item db' result, runOnce c p db = .ok (some item, db', result) →
      WorkOver c.projectId item.workItemId db →
        ((∀ fs, ∀ i ∈ (run QueueEvent.step db' fs).queueItems, i.key = item.key →
          i.status ≠ .ready) ↔ RetryCompleted c p item db)) ∧
    ∀ failing since ps, Quiet (strip c.projectId) (strip c.roleId) since db →
      Patrols c failing since db ps →
      (db.queueItems.select
        (QueueItem.Waiting (strip c.projectId) (strip c.roleId))).length ≤ ps.length →
      ((∀ i ∈ db.queueItems, i.Waiting (strip c.projectId) (strip c.roleId) →
          ∃ j, some j ∈ claimedItems c db ps ∧ j.queueItemId = i.queueItemId) ↔
        ∀ i ∈ db.queueItems, i.Waiting (strip c.projectId) (strip c.roleId) →
          failing i.queueItemId → ∀ j ∈ db.queueItems,
          j.Waiting (strip c.projectId) (strip c.roleId) → j ≠ i → j.claimRank < i.claimRank) := by
  intro db
  have hinv : LeaseInv db := (LeaseInv.withoutQueue db₀).run es
  refine ⟨fun p item db' result h hover => never_ready_iff hinv h hover, ?_⟩
  exact fun failing since ps hquiet hrun hlen => all_claimed_iff hinv hquiet hrun hlen

/-- The digest of the prompt of the only developer. -/
def soloDigest : String := "00112233445566778899aabbccddeeff00112233445566778899aabbccddeeff"

/-- A developer, a completed work item and an active one. -/
def halfDone : Db where
  roles := .single ⟨"p", "dev", .active⟩
  instances := .single ⟨"p", "dev-1", "dev", .running⟩
  bindings := .single ⟨"p", "dev", "developer", "delivery", soloDigest⟩
  workItems := ⟨[⟨"p", "done", some "dev", .completed, 2, .obj [], none, .obj []⟩,
    ⟨"p", "open", some "dev", .active, 1, .obj [], none, .obj []⟩], by decide⟩
  queues := .single ⟨"p", "dev", "dev", none, false⟩
  flowRuns := .single ⟨"p", "open", ⟨"delivery", "dev", "build", [], .obj [], "flow"⟩, "build",
    "dev", .active, .obj [], 1⟩

/-- An item of either work item; the one of the completed work item has the given priority. -/
def halfDoneQueue (priority : ℤ) : List QueueEvent := [
  .call (.enqueue ⟨"p", "dev", "left-over", "done", "left-over", .obj [], priority, none⟩ 1),
  .call (.enqueue ⟨"p", "dev", "work", "open", "work", .obj [], 0, none⟩ 2)]

def soloService : RoleServiceConfig := ⟨"p", "dev", "dev-1", 60⟩

/-- A pass at an instant, in which the developer records progress on the open work item. -/
def soloPass (number : String) (now : Time)
    (h : required ("lease-" ++ number) = some ("lease-" ++ number))
    (h' : required ("token-" ++ number) = some ("token-" ++ number)) : Pass where
  leaseHex := number
  leaseToken := "token-" ++ number
  lease_stripped := h
  token_stripped := h'
  clock := ⟨now, now, now⟩
  prompt := some soloDigest
  workspace := .ready
  sensitive := false
  providerId := "codex"
  createThread := some "thread"
  operationId := "operation-" ++ number
  boundAt := now
  turn := { halfDone with progress := ⟨[⟨"p", 1, "open", some "dev-1"⟩], by decide⟩ }
  heartbeats := fun _ => []
  timedOut := false
  completed := some true
  completeLockedAt := now
  completedAt := now
  releaseLockedAt := now
  releasedAt := now

def soloPasses : List Pass := [
  soloPass "1" 10 (by decide) (by decide),
  soloPass "2" 20 (by decide) (by decide)]

/-- With the left-over item behind it, the open work is claimed, and so is the left-over item. -/
theorem not_poisoned_halfDone :
    let db := run QueueEvent.step halfDone.withoutQueue (halfDoneQueue (-1))
    ∀ i ∈ db.queueItems, i.Waiting "p" "dev" →
      ∃ j, some j ∈ claimedItems soloService db soloPasses ∧ j.queueItemId = i.queueItemId := by
  have hproject : strip soloService.projectId = "p" := by decide
  have hrole : strip soloService.roleId = "dev" := by decide
  have h := (not_poisoned_iff halfDone (halfDoneQueue (-1)) soloService).2
    (fun i => i = "left-over") 3 soloPasses
  rw [hproject, hrole] at h
  refine (h ⟨?_, ?_⟩ (by decide) (by decide)).2 ?_
  · exact (by decide : ∀ i ∈ (run QueueEvent.step halfDone.withoutQueue
      (halfDoneQueue (-1))).queueItems.rows, i.projectId = "p" → i.queueId = "dev" →
        i.status ≠ .leased)
  · exact (by decide : ∀ i ∈ (run QueueEvent.step halfDone.withoutQueue
      (halfDoneQueue (-1))).queueItems.rows, i.Waiting "p" "dev" → i.availableAt ≤ 3)
  · exact (by decide : ∀ i ∈ (run QueueEvent.step halfDone.withoutQueue
      (halfDoneQueue (-1))).queueItems.rows, i.Waiting "p" "dev" → i.queueItemId = "left-over" →
        ∀ j ∈ (run QueueEvent.step halfDone.withoutQueue (halfDoneQueue (-1))).queueItems.rows,
          j.Waiting "p" "dev" → j ≠ i → j.claimRank < i.claimRank)

/-- With the left-over item before it, every pass claims and releases the left-over item, which is
ready again each time, and the open work is never claimed. -/
theorem left_over_poisons :
    let db := run QueueEvent.step halfDone.withoutQueue (halfDoneQueue 1)
    WorkOver "p" "done" db ∧ Patrols soloService (fun i => i = "left-over") 3 db soloPasses ∧
      (claimedItems soloService db soloPasses).map (Option.map QueueItem.queueItemId) =
        [some "left-over", some "left-over"] ∧
      ∃ i ∈ db.queueItems.rows, i.Waiting "p" "dev" ∧ i.queueItemId = "work" := by
  decide

end AgenticMesh
