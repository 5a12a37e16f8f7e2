import AgenticMesh.Queue.LeaseDiscipline
import AgenticMesh.Store.Handoffs

/-!
# The handoff invariant

A handoff ties a source queue item to a target queue item and, once it is
claimed, to a lease on the target.  `HandoffInv` states these ties next to the
lease invariant.  This file shows that the queue operations, the routes and the
three handoff operations keep it, and which operation can complete an item.
-/

namespace AgenticMesh

/-- The lease that took a handoff: a lease on its target item, owned by an instance of its
target role. -/
def TargetLease (db : Db) (h : Handoff) (t : HandoffTarget) : Prop :=
  ∃ l ∈ db.leases, l.key = (h.projectId, t.targetLeaseId) ∧ l.itemKey = h.targetKey ∧
    l.ownerInstanceId = t.targetInstanceId ∧
    ∃ i ∈ db.instances, i.key = (h.projectId, t.targetInstanceId) ∧ i.roleId = h.targetRoleId

/-- The handoffs after any calls of the queues. -/
structure HandoffInv (db : Db) : Prop where
  lease : LeaseInv db
  /-- An idempotency key stands for one handoff. -/
  route_key : db.handoffs.Unique Handoff.routeKey
  /-- A handoff has the queue item of its idempotency key as its target. -/
  target : ∀ h ∈ db.handoffs, ∃ i ∈ db.queueItems,
    i.key = h.targetKey ∧ i.routeKey = h.routeKey
  /-- The source item of an unaccepted handoff is not completed. -/
  source : ∀ h ∈ db.handoffs, h.status.isAccepted = false →
    ∀ i ∈ db.queueItems, i.key = h.sourceKey → i.status ≠ .completed
  /-- A claimed or accepted handoff was taken by a lease on its target item. -/
  taken : ∀ h ∈ db.handoffs, ∀ t, h.status.target? = some t → TargetLease db h t

/-- What a later database keeps of an earlier one. -/
structure HandoffHistory (db db' : Db) : Prop where
  lease : LeaseHistory db db'
  /-- No handoff disappears, none changes but in its status, and an accepted one does not
  change. -/
  handoff : ∀ h ∈ db.handoffs, ∃ h' ∈ db'.handoffs, h' = { h with status := h'.status } ∧
    (h.status.isAccepted → h' = h)

lemma HandoffHistory.refl (db : Db) : HandoffHistory db db where
  lease := .refl db
  handoff h hh := ⟨h, hh, rfl, fun _ => rfl⟩

lemma HandoffHistory.trans {a b c : Db} (hab : HandoffHistory a b) (hbc : HandoffHistory b c) :
    HandoffHistory a c where
  lease := hab.lease.trans hbc.lease
  handoff h hh := by
    obtain ⟨g, hg, hgh, hacc⟩ := hab.handoff h hh
    obtain ⟨f, hf, hfg, hacc'⟩ := hbc.handoff g hg
    refine ⟨f, hf, by rw [hfg, hgh], fun ha => ?_⟩
    have hgeq := hacc ha
    subst hgeq
    exact hacc' ha

/-! ## The items after a call -/

/-- A call that completes an item: the holder of its current lease completes it, and no handoff
from it waits for acceptance. -/
def QueueCall.Completes (c : QueueCall) (db : Db) (item : String × String) : Prop :=
  ∃ cred t now l, c = .complete cred t now ∧ RoleQueueStore.Holds cred t l db ∧
    l.itemKey = item ∧ ¬ db.AwaitsHandoff item

/-- An item after a call was there before, completed only if it was or if the call completes
it, or it is a new one. -/
def QueueCall.ItemAfter (c : QueueCall) (db : Db) (j : QueueItem) : Prop :=
  (∃ i ∈ db.queueItems, i.Continues j ∧
      (j.status = .completed → i.status = .completed ∨ c.Completes db j.key)) ∨
    (j.status = .ready ∧ j.createdAt ∈ c.readings)

lemma QueueCall.itemAfter_of_mem {c : QueueCall} {db : Db} {j : QueueItem}
    (hj : j ∈ db.queueItems) : c.ItemAfter db j :=
  Or.inl ⟨j, hj, rfl, fun h => Or.inl h⟩

lemma QueueCall.itemAfter {db : Db} {c : QueueCall} {j : QueueItem}
    (hj : j ∈ (c.apply db).queueItems) : c.ItemAfter db j := by
  cases c with
  | enqueue r now =>
    rw [QueueCall.apply] at hj
    obtain he | ⟨a, ha⟩ := Tx.commit_cases (RoleQueueStore.enqueue r now) db
    · rw [he] at hj
      exact itemAfter_of_mem hj
    · obtain ⟨i, hready, -, hcreated, -, -, -, -, -, -, hins⟩ := RoleQueueStore.enqueue_ok ha
      obtain ⟨-, t, ht, hdb⟩ := Db.insertItem_eq_some.1 hins
      rw [hdb] at hj
      obtain hj | rfl := (Table.mem_of_insert ht j).1 hj
      · exact itemAfter_of_mem hj
      · exact Or.inr ⟨hready, by rw [hcreated]; exact List.mem_singleton.2 rfl⟩
  | claim r clock locked =>
    rw [QueueCall.apply] at hj
    have hreclaimed : ∀ p i, i ∈ (db.reclaimExpired p clock.reclaimed).queueItems →
        ∃ k ∈ db.queueItems, k.Continues i ∧ (i.status = .completed → k.status = .completed) := by
      intro p i hi
      obtain ⟨k, hk, -, rfl⟩ | ⟨hi, -⟩ := mem_items_reclaimExpired hi
      · exact ⟨k, hk, rfl, fun h => by simp at h⟩
      · exact ⟨i, hi, rfl, id⟩
    have hafter : ∀ p i, i ∈ (db.reclaimExpired p clock.reclaimed).queueItems →
        (QueueCall.claim r clock locked).ItemAfter db i := by
      intro p i hi
      obtain ⟨k, hk, hki, hdone⟩ := hreclaimed p i hi
      exact Or.inl ⟨k, hk, hki, fun h => Or.inl (hdone h)⟩
    obtain he | ⟨a, ha⟩ := Tx.commit_cases (RoleQueueStore.claim r clock locked) db
    · rw [he] at hj
      exact itemAfter_of_mem hj
    · obtain ⟨p, q, o, -, -, -, -, -, -, -, -, -, -, -, h⟩ := RoleQueueStore.claim_ok ha
      obtain ⟨-, -, hdb⟩ | ⟨item, db₁, hnext, hins, hdb, -⟩ := h
      · rw [hdb] at hj
        exact hafter p j hj
      · rw [hdb] at hj
        have hitem := (Db.nextReady_mem hnext).1
        obtain rfl | ⟨hj, -⟩ := mem_items_grant hins hitem hj
        · obtain ⟨k, hk, hki, -⟩ := hreclaimed p item hitem
          exact Or.inl ⟨k, hk, hki.trans rfl, fun h => by simp at h⟩
        · exact hafter p j hj
  | heartbeat cred n t now =>
    rw [QueueCall.apply] at hj
    obtain he | ⟨a, ha⟩ := Tx.commit_cases (RoleQueueStore.heartbeat cred n t now) db
    · rw [he] at hj
      exact itemAfter_of_mem hj
    · obtain ⟨l, -, -, -, hdb⟩ := RoleQueueStore.heartbeat_ok ha
      rw [hdb] at hj
      exact itemAfter_of_mem hj
  | complete cred t now =>
    rw [QueueCall.apply, RoleQueueStore.complete] at hj
    obtain he | ⟨a, ha⟩ := Tx.commit_cases
      (RoleQueueStore.finishLease cred .completed "completed" t now) db
    · rw [he] at hj
      exact itemAfter_of_mem hj
    · obtain ⟨l, hl, hawait, -, hdb⟩ := RoleQueueStore.finishLease_ok ha
      rw [hdb] at hj
      obtain ⟨k, hk, hkl, rfl⟩ | ⟨hj, -⟩ := Table.mem_update_cases hj
      · have hkey : l.itemKey = k.key := hkl.symm
        exact Or.inl ⟨k, hk, rfl, fun _ =>
          Or.inr ⟨cred, t, now, l, rfl, hl, hkey, hkey ▸ hawait rfl⟩⟩
      · exact itemAfter_of_mem hj
  | release cred t now =>
    rw [QueueCall.apply, RoleQueueStore.release] at hj
    obtain he | ⟨a, ha⟩ := Tx.commit_cases
      (RoleQueueStore.finishLease cred .ready "released" t now) db
    · rw [he] at hj
      exact itemAfter_of_mem hj
    · obtain ⟨l, -, -, -, hdb⟩ := RoleQueueStore.finishLease_ok ha
      rw [hdb] at hj
      obtain ⟨k, hk, -, rfl⟩ | ⟨hj, -⟩ := Table.mem_update_cases hj
      · exact Or.inl ⟨k, hk, rfl, fun h => by simp at h⟩
      · exact itemAfter_of_mem hj

/-! ## The queue operations and the routes -/

section

variable {db db' : Db}

/-- A target lease stays one as long as leases and instances do. -/
lemma TargetLease.mono {h : Handoff} {t : HandoffTarget} (hlease : TargetLease db h t)
    (hhist : LeaseHistory db db') (hinst : ∀ i ∈ db.instances, ∃ i' ∈ db'.instances,
      i'.key = i.key ∧ i'.roleId = i.roleId) : TargetLease db' h t := by
  obtain ⟨l, hl, hkey, hitem, howner, i, hi, hik, hirole⟩ := hlease
  obtain ⟨l', hl', hcont⟩ := hhist.lease l hl
  obtain ⟨i', hi', hik', hirole'⟩ := hinst i hi
  refine ⟨l', hl', hcont.key.trans hkey, hcont.itemKey.trans hitem, ?_, i', hi', hik'.trans hik,
    hirole'.trans hirole⟩
  rw [hcont.1]
  exact howner

/-- A change of the queue tables keeps the handoff invariant if it completes no item that a
handoff still waits for. -/
lemma HandoffInv.of_queueOnly (hinv : HandoffInv db) (honly : QueueOnly db db')
    (hlease : LeaseInv db') (hhist : LeaseHistory db db')
    (hdone : ∀ j ∈ db'.queueItems, j.status = .completed →
      (∃ i ∈ db.queueItems, i.key = j.key ∧ i.status = .completed) ∨
        ¬ db.AwaitsHandoff j.key) : HandoffInv db' ∧ HandoffHistory db db' := by
  have hhandoffs : db'.handoffs = db.handoffs := by rw [honly]
  have hinstances : db'.instances = db.instances := by rw [honly]
  refine ⟨⟨hlease, ?_, ?_, ?_, ?_⟩, hhist, ?_⟩
  · rw [hhandoffs]
    exact hinv.route_key
  · rw [hhandoffs]
    intro h hh
    obtain ⟨i, hi, hik, hir⟩ := hinv.target h hh
    obtain ⟨i', hi', hcont⟩ := hhist.item i hi
    refine ⟨i', hi', hcont.key.trans hik, ?_⟩
    rw [hcont]
    exact hir
  · rw [hhandoffs]
    intro h hh hopen j hj hjh hcompleted
    obtain ⟨i, hi, hij, hic⟩ | hawait := hdone j hj hcompleted
    · exact hinv.source h hh hopen i hi (hij.trans hjh) hic
    · exact hawait ⟨h, hh, hjh.symm, by rw [hopen]; simp⟩
  · rw [hhandoffs]
    intro h hh t ht
    refine (hinv.taken h hh t ht).mono hhist ?_
    rw [hinstances]
    exact fun i hi => ⟨i, hi, rfl, rfl⟩
  · rw [hhandoffs]
    exact fun h hh => ⟨h, hh, rfl, fun _ => rfl⟩

lemma HandoffInv.queueCall (hinv : HandoffInv db) (c : QueueCall) :
    HandoffInv (c.apply db) ∧ HandoffHistory db (c.apply db) := by
  obtain ⟨hlease, hhist⟩ := c.apply_keeps hinv.lease
  refine hinv.of_queueOnly (c.apply_queueOnly db) hlease hhist fun j hj hcompleted => ?_
  obtain ⟨i, hi, hij, hdone⟩ | ⟨hready, -⟩ := QueueCall.itemAfter hj
  · obtain hdone | ⟨-, -, -, -, -, -, -, hawait⟩ := hdone hcompleted
    · exact Or.inl ⟨i, hi, hij.key.symm, hdone⟩
    · exact Or.inr hawait
  · rw [hready] at hcompleted
    simp at hcompleted

/-- A route returns the item of its key and inserts it if there was none. -/
lemma HandoffInv.routeIn (hinv : HandoffInv db) {d : RouteDraft} {now : Time} {item : QueueItem}
    (h : Router.routeInTransaction d now db = .ok (item, db')) :
    HandoffInv db' ∧ HandoffHistory db db' ∧ item ∈ db'.queueItems ∧
      item.routeKey = (d.projectId, d.idempotencyKey) ∧
      (∀ i ∈ db.queueItems, i ∈ db'.queueItems) ∧ QueueOnly db db' := by
  obtain ⟨rfl, hi, hk, -⟩ | ⟨queue, -, -, -, hitem, hins⟩ := Router.routeInTransaction_ok h
  · exact ⟨hinv, .refl _, hi, hk, fun _ h => h, rfl⟩
  · have hready : item.status = .ready := by rw [hitem]; rfl
    have hattempts : item.attemptCount = 0 := by rw [hitem]; rfl
    have hlease := hinv.lease.insertItem hins hready hattempts
    have hhist := LeaseHistory.insertItem hinv.lease hins hready hattempts
    obtain ⟨-, t, ht, rfl⟩ := Db.insertItem_eq_some.1 hins
    have hmem := Table.mem_of_insert ht
    have honly : QueueOnly db { db with queueItems := t } := rfl
    have hkeep := hinv.of_queueOnly honly hlease hhist fun j hj hcompleted => by
      obtain hj | rfl := (hmem j).1 hj
      · exact Or.inl ⟨j, hj, rfl, hcompleted⟩
      · rw [hready] at hcompleted
        simp at hcompleted
    exact ⟨hkeep.1, hkeep.2, (hmem item).2 (Or.inr rfl), by rw [hitem]; rfl,
      fun i hi => (hmem i).2 (Or.inl hi), honly⟩

/-! ## The handoff operations -/

open HandoffStore

lemma HandoffInv.offered (hinv : HandoffInv db) {d : HandoffOffer} {clock : OfferClock}
    {h : Handoff} (o : Offered d clock h db db') : HandoffInv db' ∧ HandoffHistory db db' := by
  obtain ⟨source, draft, routed, mid, hsource, -, hleased, hproject, hkey, hroute, -, hnew,
    hins⟩ := o
  obtain ⟨hmid, hhist, hrouted, hroutekey, hitems, honly⟩ := hinv.routeIn hroute
  obtain ⟨hfresh, t, ht, rfl⟩ := insertHandoff_eq_some.1 hins
  obtain ⟨-, hitem, hitemkey, hleasekey⟩ := sourceLease_eq_some hsource
  have hmem := Table.mem_of_insert ht
  have hlast : LeaseInv { mid with handoffs := t } ∧
      LeaseHistory mid { mid with handoffs := t } :=
    RoleQueueStore.Keeps.elsewhere hmid.lease rfl rfl
  -- the two items of the new handoff
  have htarget : routed.key = h.targetKey ∧ routed.routeKey = h.routeKey := by
    have hp := (Prod.mk.inj hroutekey).1.trans hproject
    rw [hnew]
    refine ⟨?_, ?_⟩
    · change (routed.projectId, routed.queueItemId) = (d.projectId, routed.queueItemId)
      rw [hp]
    · rw [hroutekey, hproject, hkey]
      rfl
  have hsourcekey : source.item.key = h.sourceKey := by
    rw [hitemkey, hnew]
    change (source.lease.projectId, source.lease.queueItemId) =
      (d.projectId, source.lease.queueItemId)
    rw [(Prod.mk.inj hleasekey).1]
  have hstatus : h.status = .offered := by rw [hnew]; rfl
  refine ⟨⟨hlast.1, ?_, ?_, ?_, ?_⟩, hhist.lease.trans hlast.2, ?_⟩
  · exact hmid.route_key.insert (fun g hg => (hfresh g hg).1) ht
  · intro g hg
    obtain hg | rfl := (hmem g).1 hg
    · exact hmid.target g hg
    · exact ⟨routed, hrouted, htarget⟩
  · intro g hg hopen
    obtain hg | rfl := (hmem g).1 hg
    · exact hmid.source g hg hopen
    · intro i hi hik
      rw [mid.queueItems.eq_of_key hi (hitems _ hitem) (hik.trans hsourcekey.symm), hleased]
      decide
  · intro g hg u hu
    obtain hg | rfl := (hmem g).1 hg
    · exact (hmid.taken g hg u hu).mono hlast.2 fun i hi => ⟨i, hi, rfl, rfl⟩
    · rw [hstatus] at hu
      simp [HandoffStatus.target?] at hu
  · intro g hg
    obtain ⟨g', hg', hgg', hacc⟩ := hhist.handoff g hg
    exact ⟨g', (hmem g').2 (Or.inl hg'), hgg', hacc⟩

/-- The handoff that an offer returns is in the database, under the key of the draft. -/
lemma offer_mem {d : HandoffOffer} {clock : OfferClock} {h : Handoff}
    (hok : offer d clock db = .ok (h, db')) :
    h ∈ db'.handoffs ∧ identifier d.projectId = some h.projectId ∧
      identifier d.idempotencyKey = some h.idempotencyKey := by
  obtain ⟨d', hp, hk, ⟨rfl, hh, hkey⟩ | ⟨⟨o⟩⟩⟩ := offer_ok hok
  · rw [hp, hk, (Prod.mk.inj hkey).1, (Prod.mk.inj hkey).2]
    exact ⟨hh, rfl, rfl⟩
  · obtain ⟨-, t, ht, hdb⟩ := insertHandoff_eq_some.1 o.insert
    rw [hp, hk, o.handoff_eq]
    refine ⟨?_, rfl, rfl⟩
    rw [← o.handoff_eq, hdb]
    exact (Table.mem_of_insert ht h).2 (Or.inr rfl)

/-- A new status of an unaccepted handoff that names a target lease of it. -/
lemma HandoffInv.setHandoff (hinv : HandoffInv db) {g : Handoff} (hg : g ∈ db.handoffs)
    (hopen : g.status.isAccepted = false) {status : HandoffStatus} {t : HandoffTarget}
    (ht : status.target? = some t) (hlease : TargetLease db g t) :
    HandoffInv (db.setHandoff g.key status) ∧ HandoffHistory db (db.setHandoff g.key status) := by
  -- a row of the new table is the updated one or an old one
  have hcases : ∀ h ∈ (db.setHandoff g.key status).handoffs,
      h = { g with status } ∨ h ∈ db.handoffs := by
    intro h hh
    obtain ⟨k, hk, hkg, rfl⟩ | ⟨hh, -⟩ := Table.mem_update_cases hh
    · exact Or.inl (by rw [db.handoffs.eq_of_key hk hg hkg])
    · exact Or.inr hh
  obtain ⟨hlast, hhist⟩ : LeaseInv (db.setHandoff g.key status) ∧
      LeaseHistory db (db.setHandoff g.key status) :=
    RoleQueueStore.Keeps.elsewhere hinv.lease rfl rfl
  refine ⟨⟨hlast, ?_, ?_, ?_, ?_⟩, hhist, ?_⟩
  · exact hinv.route_key.update fun _ => rfl
  · intro h hh
    obtain rfl | hh := hcases h hh
    · exact hinv.target g hg
    · exact hinv.target h hh
  · intro h hh hopen'
    obtain rfl | hh := hcases h hh
    · exact hinv.source g hg hopen
    · exact hinv.source h hh hopen'
  · intro h hh u hu
    obtain rfl | hh := hcases h hh
    · obtain rfl : t = u := Option.some.inj (ht.symm.trans hu)
      exact hlease
    · exact hinv.taken h hh u hu
  · intro h hh
    by_cases hhg : h.key = g.key
    · obtain rfl := db.handoffs.eq_of_key hh hg hhg
      have hset : { h with status } ∈ (db.setHandoff h.key status).handoffs :=
        Table.mem_update_of_pos (p := fun k => k.key = h.key)
          (f := { set := fun k => { k with status } }) hh rfl
      refine ⟨{ h with status }, hset, rfl, fun hacc => ?_⟩
      rw [hopen] at hacc
      simp at hacc
    · exact ⟨h, Table.mem_update_of_neg hh hhg, rfl, fun _ => rfl⟩

/-- The lease that took a handoff is a target lease of it. -/
lemma targetLease_of_takes {c : HandoffCredentials} {checked now : Time} {g : Handoff}
    {l : Lease} (h : Takes c checked g l db) :
    TargetLease db g ⟨l.ownerInstanceId, l.leaseId, now⟩ := by
  obtain ⟨hlkey, -, hlitem, -, -, i, hi, hik, hirole, -⟩ := h.active
  have hproject : l.projectId = g.projectId :=
    (Prod.mk.inj hlkey).1.trans (Prod.mk.inj h.handoff_key).1.symm
  refine ⟨l, h.lease_mem, ?_, ?_, rfl, i, hi, ?_, hirole⟩
  · rw [Lease.key, hproject]
  · rw [Lease.itemKey, hproject, hlitem]
    rfl
  · rw [hik, hproject]

lemma HandoffInv.claimed (hinv : HandoffInv db) {c : HandoffCredentials}
    {checked held now : Time} {h : Handoff}
    (hok : HandoffStore.claim c checked held now db = .ok (h, db')) :
    HandoffInv db' ∧ HandoffHistory db db' := by
  obtain rfl | ⟨c', g, l, htakes, rfl⟩ := HandoffStore.claim_ok hok
  · exact ⟨hinv, .refl _⟩
  · exact hinv.setHandoff htakes.handoff_mem htakes.not_accepted rfl (targetLease_of_takes htakes)

lemma HandoffInv.accepted (hinv : HandoffInv db) {c : HandoffCredentials}
    {checked now : Time} {h : Handoff}
    (hok : HandoffStore.accept c checked now db = .ok (h, db')) :
    HandoffInv db' ∧ HandoffHistory db db' := by
  obtain rfl | ⟨c', g, l, t, htakes, hclaimed, -, rfl⟩ := HandoffStore.accept_ok hok
  · exact ⟨hinv, .refl _⟩
  · exact hinv.setHandoff htakes.handoff_mem htakes.not_accepted rfl
      (hinv.taken g htakes.handoff_mem t (by rw [hclaimed]; rfl))

end

end AgenticMesh
