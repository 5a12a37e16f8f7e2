import AgenticMesh.Base.Leasing
import AgenticMesh.Store.Queues

/-!
# The lease invariant

`queue_items` and `leases` describe one thing in two tables: who holds which
item.  `LeaseInv` states how they agree, `jobOf` reads the state of an item as
the abstract job of `Base.Leasing`, and `LeaseHistory` states what a later
database keeps of an earlier one.  This file shows, for each statement that
writes the two tables, that it keeps the invariant and moves every item along
the life of a job.
-/

namespace AgenticMesh

/-- The agreement of `queue_items` and `leases`. -/
structure LeaseInv (db : Db) : Prop where
  /-- A lease is for an item of the queue. -/
  item_of_lease : ∀ l ∈ db.leases, ∃ i ∈ db.queueItems, i.key = l.itemKey
  /-- An item has at most one lease that was not released. -/
  one_active : ∀ l ∈ db.leases, ∀ m ∈ db.leases, l.released = none → m.released = none →
    l.itemKey = m.itemKey → l = m
  /-- An item is leased exactly when it has such a lease. -/
  leased_iff : ∀ i ∈ db.queueItems,
    i.status = .leased ↔ ∃ l ∈ db.leases, l.itemKey = i.key ∧ l.released = none
  /-- The attempts of an item are its leases. -/
  attempts : ∀ i ∈ db.queueItems,
    i.attemptCount = db.leases.rows.countP fun l => l.itemKey = i.key
  /-- Tokens are unique. -/
  token : db.leases.Unique Lease.leaseToken
  /-- An idempotency key stands for one item. -/
  route_key : db.queueItems.Unique QueueItem.routeKey

/-- The state of an item as a job; its holder is the key of the active lease. -/
def jobOf (db : Db) (item : String × String) : Option (Job (String × String)) :=
  match db.queueItems.lookup item with
  | none => none
  | some i =>
    match i.status with
    | .ready => some .ready
    | .completed => some .done
    | .leased =>
      (db.leases.find fun l => l.itemKey = item ∧ l.released = none).map fun l => .held l.key

/-- A lease later on: it is still for the same item, owner and token, and it is the same row
once it is released. -/
def Lease.Continues (l l' : Lease) : Prop :=
  l' = { l with
    heartbeatAt := l'.heartbeatAt, expiresAt := l'.expiresAt, released := l'.released } ∧
    (l.released ≠ none → l' = l)

/-- An item later on: only its status and its attempts may have changed. -/
def QueueItem.Continues (i i' : QueueItem) : Prop :=
  i' = { i with status := i'.status, attemptCount := i'.attemptCount }

/-- What a later database keeps of an earlier one. -/
structure LeaseHistory (db db' : Db) : Prop where
  /-- No lease disappears. -/
  lease : ∀ l ∈ db.leases, ∃ l' ∈ db'.leases, l.Continues l'
  /-- No item disappears. -/
  item : ∀ i ∈ db.queueItems, ∃ i' ∈ db'.queueItems, i.Continues i'
  /-- Every item moves along the life of a job. -/
  job : ∀ k, JobSteps (jobOf db k) (jobOf db' k)

lemma Lease.Continues.refl (l : Lease) : l.Continues l := ⟨rfl, fun _ => rfl⟩

lemma Lease.Continues.trans {l m n : Lease} (hlm : l.Continues m) (hmn : m.Continues n) :
    l.Continues n := by
  refine ⟨?_, ?_⟩
  · rw [hmn.1, hlm.1]
  · intro h
    have hml := hlm.2 h
    subst hml
    exact hmn.2 h

lemma QueueItem.Continues.trans {i j k : QueueItem} (hij : i.Continues j)
    (hjk : j.Continues k) : i.Continues k := by
  unfold QueueItem.Continues
  rw [hjk, hij]

lemma QueueItem.Continues.key {i i' : QueueItem} (h : i.Continues i') : i'.key = i.key := by
  rw [h]
  rfl

section

variable {l l' : Lease} (h : l.Continues l')

include h

lemma Lease.Continues.key : l'.key = l.key := by
  rw [h.1]
  rfl

lemma Lease.Continues.itemKey : l'.itemKey = l.itemKey := by
  rw [h.1]
  rfl

end

namespace LeaseHistory

lemma refl (db : Db) : LeaseHistory db db where
  lease l hl := ⟨l, hl, .refl l⟩
  item i hi := ⟨i, hi, rfl⟩
  job _ := .refl

lemma trans {a b c : Db} (hab : LeaseHistory a b) (hbc : LeaseHistory b c) :
    LeaseHistory a c where
  lease l hl := by
    obtain ⟨m, hm, hlm⟩ := hab.lease l hl
    obtain ⟨n, hn, hmn⟩ := hbc.lease m hm
    exact ⟨n, hn, hlm.trans hmn⟩
  item i hi := by
    obtain ⟨j, hj, hij⟩ := hab.item i hi
    obtain ⟨k, hk, hjk⟩ := hbc.item j hj
    exact ⟨k, hk, hij.trans hjk⟩
  job k := (hab.job k).trans (hbc.job k)

end LeaseHistory

/-- The leases after an update that spares the released ones. -/
lemma continues_of_update {t : Table Lease Lease.key} {p : Lease → Prop} [DecidablePred p]
    {f : Table.Assign Lease.key}
    (hf : ∀ l, f.set l = { l with
      heartbeatAt := (f.set l).heartbeatAt, expiresAt := (f.set l).expiresAt,
      released := (f.set l).released })
    (hp : ∀ l ∈ t, p l → l.released = none) :
    ∀ l ∈ t, ∃ l' ∈ t.update p f, l.Continues l' := by
  intro l hl
  by_cases hpl : p l
  · exact ⟨f.set l, Table.mem_update_of_pos hl hpl, hf l, fun h => absurd (hp l hl hpl) h⟩
  · exact ⟨l, Table.mem_update_of_neg hl hpl, .refl l⟩

/-- The items after an update of their status and attempts. -/
lemma itemContinues_of_update {t : Table QueueItem QueueItem.key} {p : QueueItem → Prop}
    [DecidablePred p] {f : Table.Assign QueueItem.key}
    (hf : ∀ i : QueueItem, i.Continues (f.set i)) :
    ∀ i ∈ t, ∃ i' ∈ t.update p f, i.Continues i' := by
  intro i hi
  by_cases hpi : p i
  · exact ⟨f.set i, Table.mem_update_of_pos hi hpi, hf i⟩
  · exact ⟨i, Table.mem_update_of_neg hi hpi, rfl⟩

/-! ## Reading the job of an item -/

section Job

variable {db : Db} {i : QueueItem} {l : Lease}

lemma jobOf_of_item (hi : i ∈ db.queueItems) : jobOf db i.key =
    match i.status with
    | .ready => some .ready
    | .completed => some .done
    | .leased =>
      (db.leases.find fun l => l.itemKey = i.key ∧ l.released = none).map fun l => .held l.key := by
  unfold jobOf
  rw [Table.lookup_mem hi]

lemma jobOf_ready (hi : i ∈ db.queueItems) (h : i.status = .ready) :
    jobOf db i.key = some .ready := by
  rw [jobOf_of_item hi, h]

lemma jobOf_done (hi : i ∈ db.queueItems) (h : i.status = .completed) :
    jobOf db i.key = some .done := by
  rw [jobOf_of_item hi, h]

lemma jobOf_held (hinv : LeaseInv db) (hi : i ∈ db.queueItems) (hl : l ∈ db.leases)
    (hli : l.itemKey = i.key) (hrel : l.released = none) : jobOf db i.key = some (.held l.key) := by
  have hstatus : i.status = .leased := (hinv.leased_iff i hi).2 ⟨l, hl, hli, hrel⟩
  rw [jobOf_of_item hi, hstatus]
  have hfind : db.leases.find (fun l => l.itemKey = i.key ∧ l.released = none) = some l := by
    refine Table.find_eq_some hl ⟨hli, hrel⟩ ?_
    rintro m hm ⟨hmi, hmrel⟩
    exact hinv.one_active m hm l hl hmrel hrel (hmi.trans hli.symm)
  simp only [hfind, Option.map_some]

lemma jobOf_eq_none {k : String × String} (h : ∀ i ∈ db.queueItems, i.key ≠ k) :
    jobOf db k = none := by
  unfold jobOf
  rw [Table.lookup_eq_none.2 h]

lemma jobOf_eq_done {k : String × String} (h : jobOf db k = some .done) :
    ∃ i ∈ db.queueItems, i.key = k ∧ i.status = .completed := by
  unfold jobOf at h
  split at h
  · exact absurd h (by simp)
  · next i hi =>
    obtain ⟨hi, hk⟩ := Table.lookup_eq_some.1 hi
    cases hs : i.status with
    | completed => exact ⟨i, hi, hk, hs⟩
    | ready => simp [hs] at h
    | leased => simp [hs] at h

/-- The job of an item stays the same when the item and its active leases do. -/
lemma jobOf_congr {db' : Db} (hinv : LeaseInv db) (hinv' : LeaseInv db')
    (hi : i ∈ db.queueItems) (hi' : i ∈ db'.queueItems)
    (hl : ∀ l ∈ db.leases, l.itemKey = i.key → l.released = none →
      ∃ l' ∈ db'.leases, l'.key = l.key ∧ l'.itemKey = i.key ∧ l'.released = none) :
    jobOf db' i.key = jobOf db i.key := by
  cases hs : i.status with
  | ready => rw [jobOf_ready hi hs, jobOf_ready hi' hs]
  | completed => rw [jobOf_done hi hs, jobOf_done hi' hs]
  | leased =>
    obtain ⟨l, hlm, hli, hrel⟩ := (hinv.leased_iff i hi).1 hs
    obtain ⟨l', hlm', hk, hli', hrel'⟩ := hl l hlm hli hrel
    rw [jobOf_held hinv hi hlm hli hrel, jobOf_held hinv' hi' hlm' hli' hrel', hk]

end Job

/-! ## A new item -/

section InsertItem

variable {db db' : Db} {i : QueueItem}

lemma LeaseInv.insertItem (hinv : LeaseInv db) (h : db.insertItem i = some db')
    (hready : i.status = .ready) (hattempts : i.attemptCount = 0) : LeaseInv db' := by
  obtain ⟨hkey, t, ht, rfl⟩ := Db.insertItem_eq_some.1 h
  have hfresh := (Table.insert_eq_some.1 ht).1
  -- a new item has no lease yet
  have hnone : ∀ l ∈ db.leases, l.itemKey ≠ i.key := by
    intro l hl hli
    obtain ⟨j, hj, hjl⟩ := hinv.item_of_lease l hl
    exact hfresh j hj (hjl.trans hli)
  refine ⟨?_, hinv.one_active, ?_, ?_, hinv.token, hinv.route_key.insert hkey ht⟩
  · intro l hl
    obtain ⟨j, hj, hjl⟩ := hinv.item_of_lease l hl
    exact ⟨j, (Table.mem_of_insert ht j).2 (Or.inl hj), hjl⟩
  · intro j hj
    obtain hj | rfl := (Table.mem_of_insert ht j).1 hj
    · exact hinv.leased_iff j hj
    · rw [hready]
      constructor
      · exact fun h => by simp at h
      · rintro ⟨l, hl, hli, -⟩
        exact absurd hli (hnone l hl)
  · intro j hj
    obtain hj | rfl := (Table.mem_of_insert ht j).1 hj
    · exact hinv.attempts j hj
    · rw [hattempts, eq_comm, List.countP_eq_zero]
      intro l hl
      simpa using hnone l hl

lemma LeaseHistory.insertItem (hinv : LeaseInv db) (h : db.insertItem i = some db')
    (hready : i.status = .ready) (hattempts : i.attemptCount = 0) : LeaseHistory db db' := by
  have hinv' := hinv.insertItem h hready hattempts
  obtain ⟨-, t, ht, rfl⟩ := Db.insertItem_eq_some.1 h
  have hmem := Table.mem_of_insert ht
  refine ⟨fun l hl => ⟨l, hl, .refl l⟩,
    fun j hj => ⟨j, (hmem j).2 (Or.inl hj), rfl⟩, fun k => ?_⟩
  by_cases hk : ∃ j ∈ db.queueItems, j.key = k
  · obtain ⟨j, hj, rfl⟩ := hk
    rw [jobOf_congr hinv hinv' hj ((hmem j).2 (Or.inl hj)) fun l hl hli hrel =>
      ⟨l, hl, rfl, hli, hrel⟩]
  · simp only [not_exists, not_and] at hk
    rw [jobOf_eq_none hk]
    by_cases hik : i.key = k
    · subst hik
      rw [jobOf_ready ((hmem i).2 (Or.inr rfl)) hready]
      exact .single .submit
    · have hk' : ∀ j ∈ t, j.key ≠ k := by
        intro j hj
        obtain hj | rfl := (hmem j).1 hj
        · exact hk j hj
        · exact hik
      rw [jobOf_eq_none hk']

end InsertItem

/-! ## Reclaiming -/

section Reclaim

variable {db : Db} {p : String} {now : Time}

/-- A lease after a reclaim: released by it, or as it was and not expired. -/
lemma mem_leases_reclaimExpired {l : Lease} (hl : l ∈ (db.reclaimExpired p now).leases) :
    (∃ m ∈ db.leases, m.Expired p now ∧ l = { m with released := some ⟨now, "expired"⟩ }) ∨
      (l ∈ db.leases ∧ ¬ l.Expired p now) := Table.mem_update_cases hl

/-- An active lease after a reclaim was there before and has not expired. -/
lemma active_reclaimExpired {l : Lease} (hl : l ∈ (db.reclaimExpired p now).leases)
    (hrel : l.released = none) : l ∈ db.leases ∧ ¬ l.Expired p now := by
  obtain ⟨m, -, -, rfl⟩ | h := mem_leases_reclaimExpired hl
  · simp at hrel
  · exact h

/-- An item after a reclaim: made ready with an expired lease of it, or as it was. -/
lemma mem_items_reclaimExpired {i : QueueItem}
    (hi : i ∈ (db.reclaimExpired p now).queueItems) :
    (∃ j ∈ db.queueItems, (∃ l ∈ db.leases, l.Expired p now ∧ l.itemKey = j.key) ∧
        i = { j with status := .ready }) ∨
      (i ∈ db.queueItems ∧
        ¬ (i.status = .leased ∧ ∃ l ∈ db.leases, l.Expired p now ∧ l.itemKey = i.key)) := by
  obtain ⟨j, hj, ⟨-, hl⟩, rfl⟩ | h := Table.mem_update_cases hi
  · exact Or.inl ⟨j, hj, hl, rfl⟩
  · exact Or.inr h

lemma LeaseInv.reclaimExpired (hinv : LeaseInv db) : LeaseInv (db.reclaimExpired p now) := by
  refine ⟨?_, ?_, ?_, ?_, hinv.token.update fun _ => rfl, hinv.route_key.update fun _ => rfl⟩
  · intro l hl
    have hold : ∃ m ∈ db.leases, m.itemKey = l.itemKey := by
      obtain ⟨m, hm, -, rfl⟩ | ⟨hm, -⟩ := mem_leases_reclaimExpired hl
      · exact ⟨m, hm, rfl⟩
      · exact ⟨l, hm, rfl⟩
    obtain ⟨m, hm, hml⟩ := hold
    obtain ⟨i, hi, him⟩ := hinv.item_of_lease m hm
    refine ⟨_, Table.mem_update_of_mem hi, ?_⟩
    rw [← hml, ← him]
    split <;> rfl
  · intro l hl m hm hlr hmr
    exact hinv.one_active l (active_reclaimExpired hl hlr).1 m (active_reclaimExpired hm hmr).1
      hlr hmr
  · intro i hi
    obtain ⟨j, hj, ⟨l, hl, hexp, hlj⟩, rfl⟩ | ⟨hi, hkeep⟩ := mem_items_reclaimExpired hi
    · -- the only active lease of the item has expired
      constructor
      · exact fun h => by simp at h
      · rintro ⟨m, hm, hmj, hmr⟩
        obtain ⟨hm, hmexp⟩ := active_reclaimExpired hm hmr
        have hlm : m = l := hinv.one_active m hm l hl hmr hexp.2.1 (hmj.trans hlj.symm)
        exact absurd (hlm ▸ hexp) hmexp
    · rw [hinv.leased_iff i hi]
      constructor
      · rintro ⟨l, hl, hli, hlr⟩
        have hexp : ¬ l.Expired p now := fun hexp =>
          hkeep ⟨(hinv.leased_iff i hi).2 ⟨l, hl, hli, hlr⟩, l, hl, hexp, hli⟩
        exact ⟨l, Table.mem_update_of_neg hl hexp, hli, hlr⟩
      · rintro ⟨l, hl, hli, hlr⟩
        exact ⟨l, (active_reclaimExpired hl hlr).1, hli, hlr⟩
  · intro i hi
    have hcount := Table.countP_update (t := db.leases) (p := Lease.Expired p now)
      (f := { set := fun l => { l with released := some ⟨now, "expired"⟩ } })
      (q := fun l => l.itemKey = i.key) fun _ _ => rfl
    refine Eq.trans ?_ hcount.symm
    obtain ⟨j, hj, -, rfl⟩ | ⟨hi, -⟩ := mem_items_reclaimExpired hi
    · exact hinv.attempts j hj
    · exact hinv.attempts i hi

lemma LeaseHistory.reclaimExpired (hinv : LeaseInv db) :
    LeaseHistory db (db.reclaimExpired p now) := by
  have hinv' : LeaseInv (db.reclaimExpired p now) := hinv.reclaimExpired
  refine ⟨continues_of_update (fun _ => rfl) fun l _ h => h.2.1,
    itemContinues_of_update fun _ => rfl, ?_⟩
  · intro k
    by_cases hk : ∃ i ∈ db.queueItems, i.key = k
    · obtain ⟨i, hi, rfl⟩ := hk
      by_cases hexp : i.status = .leased ∧ ∃ l ∈ db.leases, l.Expired p now ∧ l.itemKey = i.key
      · -- the holder of an expired lease gives the item back
        obtain ⟨l, hl, hlexp, hli⟩ := hexp.2
        rw [jobOf_held hinv hi hl hli hlexp.2.1]
        have hi' : { i with status := .ready } ∈ (db.reclaimExpired p now).queueItems :=
          Table.mem_update_of_pos (f := { set := fun i => { i with status := .ready } }) hi hexp
        have hjob := jobOf_ready hi' rfl
        change jobOf _ i.key = _ at hjob
        rw [hjob]
        exact .single (.giveBack _)
      · have hi' : i ∈ (db.reclaimExpired p now).queueItems := Table.mem_update_of_neg hi hexp
        rw [jobOf_congr hinv hinv' hi hi']
        intro l hl hli hrel
        refine ⟨l, Table.mem_update_of_neg hl ?_, rfl, hli, hrel⟩
        exact fun h => hexp ⟨(hinv.leased_iff i hi).2 ⟨l, hl, hli, hrel⟩, l, hl, h, hli⟩
    · simp only [not_exists, not_and] at hk
      rw [jobOf_eq_none hk, jobOf_eq_none]
      intro i hi
      obtain ⟨j, hj, -, rfl⟩ | ⟨hi, -⟩ := mem_items_reclaimExpired hi
      · exact hk j hj
      · exact hk i hi

end Reclaim

/-! ## Granting a lease -/

section Grant

variable {db db₁ : Db} {i : QueueItem} {l : Lease}

/-- The leases after a grant. -/
lemma mem_leases_grant (h : db.insertLease l = some db₁) (m : Lease) :
    m ∈ (db₁.markLeased i.key).leases ↔ m ∈ db.leases ∨ m = l := by
  obtain ⟨-, t, ht, rfl⟩ := Db.insertLease_eq_some.1 h
  exact Table.mem_of_insert ht m

/-- The items after a grant: the leased one, or one as it was. -/
lemma mem_items_grant (h : db.insertLease l = some db₁) (hi : i ∈ db.queueItems)
    {j : QueueItem} (hj : j ∈ (db₁.markLeased i.key).queueItems) :
    j = { i with status := .leased, attemptCount := i.attemptCount + 1 } ∨
      (j ∈ db.queueItems ∧ j.key ≠ i.key) := by
  obtain ⟨-, t, ht, rfl⟩ := Db.insertLease_eq_some.1 h
  obtain ⟨k, hk, hki, rfl⟩ | h := Table.mem_update_cases hj
  · exact Or.inl (by rw [db.queueItems.eq_of_key hk hi hki])
  · exact Or.inr h

lemma item_mem_grant (h : db.insertLease l = some db₁) (hi : i ∈ db.queueItems) :
    { i with status := .leased, attemptCount := i.attemptCount + 1 } ∈
      (db₁.markLeased i.key).queueItems := by
  obtain ⟨-, t, ht, rfl⟩ := Db.insertLease_eq_some.1 h
  exact Table.mem_update_of_pos (p := fun j => j.key = i.key) (f :=
    { set := fun i => { i with status := .leased, attemptCount := i.attemptCount + 1 } }) hi rfl

lemma other_mem_grant (h : db.insertLease l = some db₁) {j : QueueItem}
    (hj : j ∈ db.queueItems) (hji : j.key ≠ i.key) :
    j ∈ (db₁.markLeased i.key).queueItems := by
  obtain ⟨-, t, ht, rfl⟩ := Db.insertLease_eq_some.1 h
  exact Table.mem_update_of_neg hj hji

lemma LeaseInv.grant (hinv : LeaseInv db) (h : db.insertLease l = some db₁)
    (hi : i ∈ db.queueItems) (hready : i.status = .ready) (hli : l.itemKey = i.key)
    (hrel : l.released = none) : LeaseInv (db₁.markLeased i.key) := by
  have hmem := mem_leases_grant (i := i) h
  have hfresh := (Db.insertLease_eq_some.1 h).1
  -- a ready item has no active lease
  have hidle : ∀ m ∈ db.leases, m.itemKey = i.key → m.released ≠ none := by
    intro m hm hmi hmr
    have hleased := (hinv.leased_iff i hi).2 ⟨m, hm, hmi, hmr⟩
    rw [hready] at hleased
    simp at hleased
  refine ⟨?_, ?_, ?_, ?_, ?_, ?_⟩
  · intro m hm
    obtain hm | rfl := (hmem m).1 hm
    · obtain ⟨j, hj, hjm⟩ := hinv.item_of_lease m hm
      by_cases hji : j.key = i.key
      · exact ⟨_, item_mem_grant h hi, hji.symm.trans hjm⟩
      · exact ⟨j, other_mem_grant h hj hji, hjm⟩
    · exact ⟨_, item_mem_grant h hi, hli.symm⟩
  · intro m hm n hn hmr hnr hmn
    obtain hm | rfl := (hmem m).1 hm <;> obtain hn | rfl := (hmem n).1 hn
    · exact hinv.one_active m hm n hn hmr hnr hmn
    · exact absurd hmr (hidle m hm (hmn.trans hli))
    · exact absurd hnr (hidle n hn (hmn.symm.trans hli))
    · rfl
  · intro j hj
    obtain rfl | ⟨hj, hji⟩ := mem_items_grant h hi hj
    · exact iff_of_true rfl ⟨l, (hmem l).2 (Or.inr rfl), hli, hrel⟩
    · rw [hinv.leased_iff j hj]
      constructor
      · rintro ⟨m, hm, hmj, hmr⟩
        exact ⟨m, (hmem m).2 (Or.inl hm), hmj, hmr⟩
      · rintro ⟨m, hm, hmj, hmr⟩
        obtain hm | rfl := (hmem m).1 hm
        · exact ⟨m, hm, hmj, hmr⟩
        · exact absurd (hmj.symm.trans hli) hji
  · -- the new lease is the new attempt
    obtain ⟨-, t, ht, rfl⟩ := Db.insertLease_eq_some.1 h
    have hrows := (Table.insert_eq_some.1 ht).2
    intro j hj
    change j.attemptCount = t.rows.countP _
    rw [hrows, List.countP_append, List.countP_singleton]
    obtain rfl | ⟨hj, hji⟩ := mem_items_grant h hi hj
    · change i.attemptCount + 1 = _ + if decide (l.itemKey = i.key) = true then 1 else 0
      rw [if_pos (by simpa using hli)]
      exact congrArg (· + 1) (hinv.attempts i hi)
    · have hlj : l.itemKey ≠ j.key := fun e => hji (e.symm.trans hli)
      simpa [hlj] using hinv.attempts j hj
  · obtain ⟨-, t, ht, rfl⟩ := Db.insertLease_eq_some.1 h
    exact hinv.token.insert (fun m hm => (hfresh m hm).1) ht
  · obtain ⟨-, t, -, rfl⟩ := Db.insertLease_eq_some.1 h
    exact hinv.route_key.update fun _ => rfl

lemma LeaseHistory.grant (hinv : LeaseInv db) (h : db.insertLease l = some db₁)
    (hi : i ∈ db.queueItems) (hready : i.status = .ready) (hli : l.itemKey = i.key)
    (hrel : l.released = none) : LeaseHistory db (db₁.markLeased i.key) := by
  have hinv' := hinv.grant h hi hready hli hrel
  have hmem := mem_leases_grant (i := i) h
  refine ⟨fun m hm => ⟨m, (hmem m).2 (Or.inl hm), .refl m⟩, ?_, ?_⟩
  · intro j hj
    by_cases hji : j.key = i.key
    · obtain rfl := db.queueItems.eq_of_key hj hi hji
      exact ⟨_, item_mem_grant h hi, rfl⟩
    · exact ⟨j, other_mem_grant h hj hji, rfl⟩
  · intro k
    by_cases hki : i.key = k
    · subst hki
      have hheld := jobOf_held hinv' (item_mem_grant h hi) ((hmem l).2 (Or.inr rfl)) hli hrel
      rw [jobOf_ready hi hready]
      change jobOf _ i.key = _ at hheld
      rw [hheld]
      exact .single (.grant _)
    · by_cases hk : ∃ j ∈ db.queueItems, j.key = k
      · obtain ⟨j, hj, rfl⟩ := hk
        rw [jobOf_congr hinv hinv' hj (other_mem_grant h hj (Ne.symm hki)) fun m hm hmj hmr =>
          ⟨m, (hmem m).2 (Or.inl hm), rfl, hmj, hmr⟩]
      · simp only [not_exists, not_and] at hk
        rw [jobOf_eq_none hk, jobOf_eq_none]
        intro j hj
        obtain rfl | ⟨hj, -⟩ := mem_items_grant h hi hj
        · exact hki
        · exact hk j hj

end Grant

/-! ## Extending a lease -/

section Extend

variable {db : Db} {k : String × String} {now t : Time}

lemma LeaseInv.extend (hinv : LeaseInv db) : LeaseInv (db.extendLease k now t) := by
  -- an extended lease is for the same item and as released as before
  have hold : ∀ l ∈ (db.extendLease k now t).leases, ∃ m ∈ db.leases, m.key = l.key ∧
      m.itemKey = l.itemKey ∧ m.released = l.released := by
    intro l hl
    obtain ⟨m, hm, -, rfl⟩ | ⟨hm, -⟩ := Table.mem_update_cases hl
    · exact ⟨m, hm, rfl, rfl, rfl⟩
    · exact ⟨l, hm, rfl, rfl, rfl⟩
  refine ⟨?_, ?_, ?_, ?_, hinv.token.update fun _ => rfl, hinv.route_key⟩
  · intro l hl
    obtain ⟨m, hm, -, hml, -⟩ := hold l hl
    rw [← hml]
    exact hinv.item_of_lease m hm
  · intro l hl m hm hlr hmr hlm
    obtain ⟨l', hl', hlk, hli, hlr'⟩ := hold l hl
    obtain ⟨m', hm', hmk, hmi, hmr'⟩ := hold m hm
    obtain rfl := hinv.one_active l' hl' m' hm' (hlr'.trans hlr) (hmr'.trans hmr)
      (hli.trans (hlm.trans hmi.symm))
    exact Table.eq_of_key _ hl hm (hlk.symm.trans hmk)
  · intro i hi
    rw [hinv.leased_iff i hi]
    constructor
    · rintro ⟨l, hl, hli, hlr⟩
      refine ⟨_, Table.mem_update_of_mem hl, ?_⟩
      split <;> exact ⟨hli, hlr⟩
    · rintro ⟨l, hl, hli, hlr⟩
      obtain ⟨m, hm, -, hmi, hmr⟩ := hold l hl
      exact ⟨m, hm, hmi.trans hli, hmr.trans hlr⟩
  · intro i hi
    rw [hinv.attempts i hi]
    exact (Table.countP_update (t := db.leases) (p := fun l => l.key = k)
      (f := { set := fun l => { l with heartbeatAt := now, expiresAt := t } })
      (q := fun l => l.itemKey = i.key) fun _ _ => rfl).symm

lemma LeaseHistory.extend (hinv : LeaseInv db)
    (hk : ∀ l ∈ db.leases, l.key = k → l.released = none) :
    LeaseHistory db (db.extendLease k now t) := by
  refine ⟨continues_of_update (fun _ => rfl) hk, fun i hi => ⟨i, hi, rfl⟩, fun j => ?_⟩
  by_cases hj : ∃ i ∈ db.queueItems, i.key = j
  · obtain ⟨i, hi, rfl⟩ := hj
    rw [jobOf_congr hinv hinv.extend hi hi]
    intro l hl hli hlr
    refine ⟨_, Table.mem_update_of_mem hl, ?_⟩
    split <;> exact ⟨rfl, hli, hlr⟩
  · simp only [not_exists, not_and] at hj
    have hj' : jobOf (db.extendLease k now t) j = none := jobOf_eq_none hj
    rw [jobOf_eq_none hj, hj']

end Extend

/-! ## Ending a lease -/

section End

variable {db : Db} {l : Lease} {status : ItemStatus} {reason : String} {now : Time}

/-- The leases after one ended. -/
lemma mem_leases_end (hl : l ∈ db.leases) {m : Lease}
    (hm : m ∈ (db.endLease l status reason now).leases) :
    m = { l with released := some ⟨now, reason⟩ } ∨ (m ∈ db.leases ∧ m ≠ l) := by
  obtain ⟨n, hn, hnl, rfl⟩ | ⟨hm, hml⟩ := Table.mem_update_cases hm
  · exact Or.inl (by rw [db.leases.eq_of_key hn hl hnl])
  · exact Or.inr ⟨hm, fun h => hml (h ▸ rfl)⟩

lemma other_lease_mem_end (hl : l ∈ db.leases) {m : Lease} (hm : m ∈ db.leases) (hml : m ≠ l) :
    m ∈ (db.endLease l status reason now).leases :=
  Table.mem_update_of_neg hm fun h => hml (db.leases.eq_of_key hm hl h)

/-- The items after a lease ended. -/
lemma mem_items_end {i j : QueueItem} (hi : i ∈ db.queueItems) (hil : i.key = l.itemKey)
    (hj : j ∈ (db.endLease l status reason now).queueItems) :
    j = { i with status } ∨ (j ∈ db.queueItems ∧ j.key ≠ i.key) := by
  obtain ⟨k, hk, hkl, rfl⟩ | ⟨hj, hjl⟩ := Table.mem_update_cases hj
  · exact Or.inl (by rw [db.queueItems.eq_of_key hk hi (hkl.trans hil.symm)])
  · exact Or.inr ⟨hj, fun h => hjl (h.trans hil)⟩

lemma item_mem_end {i : QueueItem} (hi : i ∈ db.queueItems) (hil : i.key = l.itemKey) :
    { i with status } ∈ (db.endLease l status reason now).queueItems :=
  Table.mem_update_of_pos (f := { set := fun i => { i with status } }) hi hil

lemma other_item_mem_end {j : QueueItem} (hj : j ∈ db.queueItems) (hjl : j.key ≠ l.itemKey) :
    j ∈ (db.endLease l status reason now).queueItems := Table.mem_update_of_neg hj hjl

variable (hinv : LeaseInv db) (hl : l ∈ db.leases) (hrel : l.released = none)
  (hstatus : status ≠ .leased)

include hinv hl hrel hstatus

lemma LeaseInv.end : LeaseInv (db.endLease l status reason now) := by
  obtain ⟨i, hi, hil⟩ := hinv.item_of_lease l hl
  refine ⟨?_, ?_, ?_, ?_, hinv.token.update fun _ => rfl, hinv.route_key.update fun _ => rfl⟩
  · intro m hm
    have hitem : ∃ j ∈ db.queueItems, j.key = m.itemKey := by
      obtain rfl | ⟨hm, -⟩ := mem_leases_end hl hm
      · exact ⟨i, hi, hil⟩
      · exact hinv.item_of_lease m hm
    obtain ⟨j, hj, hjm⟩ := hitem
    by_cases hjl : j.key = l.itemKey
    · exact ⟨_, item_mem_end hj hjl, hjm⟩
    · exact ⟨j, other_item_mem_end hj hjl, hjm⟩
  · intro m hm n hn hmr hnr hmn
    obtain rfl | ⟨hm, -⟩ := mem_leases_end hl hm
    · simp at hmr
    obtain rfl | ⟨hn, -⟩ := mem_leases_end hl hn
    · simp at hnr
    exact hinv.one_active m hm n hn hmr hnr hmn
  · intro j hj
    obtain rfl | ⟨hj, hji⟩ := mem_items_end hi hil hj
    · -- the only active lease of the item has ended
      refine iff_of_false hstatus ?_
      rintro ⟨m, hm, hmi, hmr⟩
      obtain rfl | ⟨hm, hml⟩ := mem_leases_end hl hm
      · simp at hmr
      · exact hml (hinv.one_active m hm l hl hmr hrel (hmi.trans hil))
    · rw [hinv.leased_iff j hj]
      constructor
      · rintro ⟨m, hm, hmj, hmr⟩
        have hml : m ≠ l := fun h => hji (hmj.symm.trans (h ▸ hil.symm))
        exact ⟨m, other_lease_mem_end hl hm hml, hmj, hmr⟩
      · rintro ⟨m, hm, hmj, hmr⟩
        obtain rfl | ⟨hm, -⟩ := mem_leases_end hl hm
        · simp at hmr
        · exact ⟨m, hm, hmj, hmr⟩
  · intro j hj
    have hcount := Table.countP_update (t := db.leases) (p := fun m => m.key = l.key)
      (f := { set := fun m => { m with released := some ⟨now, reason⟩ } })
      (q := fun m => m.itemKey = j.key) fun _ _ => rfl
    refine Eq.trans ?_ hcount.symm
    obtain rfl | ⟨hj, -⟩ := mem_items_end hi hil hj
    · exact hinv.attempts i hi
    · exact hinv.attempts j hj

lemma LeaseHistory.end : LeaseHistory db (db.endLease l status reason now) := by
  have hinv' : LeaseInv (db.endLease l status reason now) := hinv.end hl hrel hstatus
  obtain ⟨i, hi, hil⟩ := hinv.item_of_lease l hl
  refine ⟨continues_of_update (fun _ => rfl) ?_, itemContinues_of_update fun _ => rfl, ?_⟩
  · intro m hm hml
    rw [db.leases.eq_of_key hm hl hml, hrel]
  · intro k
    by_cases hki : i.key = k
    · subst hki
      rw [jobOf_held hinv hi hl hil.symm hrel]
      have hmem : { i with status } ∈ (db.endLease l status reason now).queueItems :=
        item_mem_end hi hil
      cases status with
      | leased => exact absurd rfl hstatus
      | ready =>
        have hjob := jobOf_ready hmem rfl
        change jobOf _ i.key = _ at hjob
        rw [hjob]
        exact .single (.giveBack _)
      | completed =>
        have hjob := jobOf_done hmem rfl
        change jobOf _ i.key = _ at hjob
        rw [hjob]
        exact .single (.finish _)
    · by_cases hk : ∃ j ∈ db.queueItems, j.key = k
      · obtain ⟨j, hj, rfl⟩ := hk
        have hjl : j.key ≠ l.itemKey := fun h => hki (hil.trans h.symm)
        rw [jobOf_congr hinv hinv' hj (other_item_mem_end hj hjl)]
        intro m hm hmj hmr
        have hml : m ≠ l := fun h => hjl (hmj.symm.trans (h ▸ rfl))
        exact ⟨m, other_lease_mem_end hl hm hml, rfl, hmj, hmr⟩
      · simp only [not_exists, not_and] at hk
        rw [jobOf_eq_none hk, jobOf_eq_none]
        intro j hj
        obtain rfl | ⟨hj, -⟩ := mem_items_end hi hil hj
        · exact hki
        · exact hk j hj

end End

end AgenticMesh
