import AgenticMesh.Queue.HandoffDiscipline

/-!
# Completing the target of a handoff

`_finish_lease` refuses to complete an item while a handoff *from* it waits for
acceptance; it does not look at the handoff that the item was routed *for*.  The
holder of the target item can therefore complete it before the handoff is
accepted, and then nobody can accept that handoff any more.  As long as no call
does this, the target of every open handoff stays open.
-/

namespace AgenticMesh

/-! ## Runs with an advancing clock -/

/-- The clock readings of a step. -/
def HandoffEvent.readings : HandoffEvent → List Time
  | queue c => c.readings
  | route _ now => [now]
  | offer _ clock => [clock.checked, clock.offered, clock.queued]
  | claim _ checked held now => [checked, held, now]
  | accept _ checked now => [checked, now]
  | elsewhere _ => []

/-- A step at readings that all lie after the clock of the state. -/
def HandoffEvent.tick (s : Db × Time) (e : HandoffEvent) : Db × Time :=
  if ∀ r ∈ e.readings, s.2 < r then (e.step s.1, e.readings.foldl max s.2) else s

/-- The step is no completion of an item that was routed for a handoff which was not accepted
yet. -/
def SparesTargets (s : Db × Time) : HandoffEvent → Prop
  | .queue (.complete cred lockedAt _) => ∀ l, RoleQueueStore.Holds cred lockedAt l s.1 →
      ¬ s.1.AwaitsHandoff l.itemKey →
      ∀ h ∈ s.1.handoffs, h.targetKey = l.itemKey → h.status.isAccepted = true
  | _ => True

/-- The target item of an open handoff is open. -/
def TargetsOpen (db : Db) : Prop :=
  ∀ h ∈ db.handoffs, h.status.isAccepted = false →
    ∀ i ∈ db.queueItems, i.key = h.targetKey → i.status ≠ .completed

/-- The invariant of the handoffs whose targets are completed by their takers alone. -/
structure TargetsInv (s : Db × Time) : Prop where
  handoff : HandoffInv s.1
  /-- Every item was created in the past. -/
  created : ∀ i ∈ s.1.queueItems, i.createdAt ≤ s.2
  targets_open : TargetsOpen s.1

section

variable {db db' : Db}

/-- What a route adds: nothing or a ready item, created now. -/
lemma routed_item {d : RouteDraft} {now : Time} {item : QueueItem}
    (h : Router.routeInTransaction d now db = .ok (item, db')) :
    QueueOnly db db' ∧ ∀ i ∈ db'.queueItems, i ∈ db.queueItems ∨
      (i = item ∧ i.status = .ready ∧ i.createdAt = now) := by
  obtain ⟨rfl, -⟩ | ⟨queue, -, -, -, hitem, hins⟩ := Router.routeInTransaction_ok h
  · exact ⟨rfl, fun i hi => Or.inl hi⟩
  · obtain ⟨-, t, ht, rfl⟩ := Db.insertItem_eq_some.1 hins
    refine ⟨rfl, fun i hi => ?_⟩
    obtain hi | rfl := (Table.mem_of_insert ht i).1 hi
    · exact Or.inl hi
    · exact Or.inr ⟨rfl, by rw [hitem]; rfl, by rw [hitem]; rfl⟩

/-- The targets stay open when no handoff opens and no item is completed but by a call that
spares them. -/
lemma TargetsOpen.mono (hopen : TargetsOpen db)
    (hhandoffs : ∀ h ∈ db'.handoffs, h.status.isAccepted = false →
      ∃ g ∈ db.handoffs, g.status.isAccepted = false ∧ g.targetKey = h.targetKey)
    (hitems : ∀ j ∈ db'.queueItems, j.status = .completed →
      (∃ i ∈ db.queueItems, i.key = j.key ∧ i.status = .completed) ∨
        ∀ h ∈ db.handoffs, h.targetKey = j.key → h.status.isAccepted = true) :
    TargetsOpen db' := by
  intro h hh hho j hj hjh hdone
  obtain ⟨g, hg, hgo, hgh⟩ := hhandoffs h hh hho
  obtain ⟨i, hi, hij, hidone⟩ | haccepted := hitems j hj hdone
  · exact hopen g hg hgo i hi (hij.trans (hjh.trans hgh.symm)) hidone
  · have hacc := haccepted g hg (hgh.trans hjh.symm)
    rw [hgo] at hacc
    simp at hacc

/-- A change of the status of an open handoff opens no handoff. -/
lemma setHandoff_open {g : Handoff} (hg : g ∈ db.handoffs) (hgo : g.status.isAccepted = false)
    {status : HandoffStatus} :
    ∀ h ∈ (db.setHandoff g.key status).handoffs, h.status.isAccepted = false →
      ∃ k ∈ db.handoffs, k.status.isAccepted = false ∧ k.targetKey = h.targetKey := by
  intro h hh hho
  obtain ⟨k, hk, hkg, rfl⟩ | ⟨hh, -⟩ := Table.mem_update_cases hh
  · obtain rfl := db.handoffs.eq_of_key hk hg hkg
    exact ⟨k, hk, hgo, rfl⟩
  · exact ⟨h, hh, hho, rfl⟩

end

/-! ## The step lemma -/

/-- The items and the open targets after a step that spares them. -/
lemma TargetsInv.step {s : Db × Time} (hinv : TargetsInv s) {e : HandoffEvent}
    (hspares : SparesTargets s e) (hclock : ∀ r ∈ e.readings, s.2 < r) :
    (∀ i ∈ (e.step s.1).queueItems, i.createdAt ≤ s.2 ∨ i.createdAt ∈ e.readings) ∧
      TargetsOpen (e.step s.1) := by
  have hsame : (∀ i ∈ s.1.queueItems, i.createdAt ≤ s.2 ∨ i.createdAt ∈ e.readings) ∧
      TargetsOpen s.1 := ⟨fun i hi => Or.inl (hinv.created i hi), hinv.targets_open⟩
  let P := fun db : Db => (∀ i ∈ db.queueItems, i.createdAt ≤ s.2 ∨ i.createdAt ∈ e.readings) ∧
    TargetsOpen db
  -- a route adds a ready item at most
  have hroute : ∀ d now item db', Router.routeInTransaction d now s.1 = .ok (item, db') →
      now ∈ e.readings → P db' := by
    intro d now item db' h hnow
    obtain ⟨honly, hitems⟩ := routed_item h
    have hhandoffs : db'.handoffs = s.1.handoffs := by rw [honly]
    refine ⟨fun i hi => ?_, hinv.targets_open.mono ?_ fun j hj hdone => ?_⟩
    · obtain hi | ⟨-, -, hcreated⟩ := hitems i hi
      · exact Or.inl (hinv.created i hi)
      · exact Or.inr (hcreated ▸ hnow)
    · rw [hhandoffs]
      exact fun h hh hho => ⟨h, hh, hho, rfl⟩
    · obtain hj | ⟨-, hready, -⟩ := hitems j hj
      · exact Or.inl ⟨j, hj, rfl, hdone⟩
      · rw [hready] at hdone
        simp at hdone
  cases e with
  | queue c =>
    have hhandoffs : (c.apply s.1).handoffs = s.1.handoffs := by rw [c.apply_queueOnly s.1]
    refine ⟨fun j hj => ?_, hinv.targets_open.mono ?_ fun j hj hdone => ?_⟩
    · obtain ⟨i, hi, hij, -⟩ | ⟨-, hcreated⟩ := QueueCall.itemAfter hj
      · have hsame : j.createdAt = i.createdAt := by rw [hij]
        exact Or.inl (hsame ▸ hinv.created i hi)
      · exact Or.inr hcreated
    · rw [HandoffEvent.step, hhandoffs]
      exact fun h hh hho => ⟨h, hh, hho, rfl⟩
    · obtain ⟨i, hi, hij, hcases⟩ | ⟨hready, -⟩ := QueueCall.itemAfter hj
      · obtain hidone | ⟨cred, t, now, l, rfl, hl, hlj, hawait⟩ := hcases hdone
        · exact Or.inl ⟨i, hi, hij.key.symm, hidone⟩
        · -- the call completes this item, and it spares the targets
          refine Or.inr fun h hh hhj => hspares l hl (hlj ▸ hawait) h hh (hhj.trans hlj.symm)
      · rw [hready] at hdone
        simp at hdone
  | route d now =>
    rw [HandoffEvent.step]
    refine Tx.commit_of (P := P) hsame fun item db' h => ?_
    obtain ⟨d', -, -, h⟩ := Router.route_ok h
    exact hroute d' now item db' h (by simp [HandoffEvent.readings])
  | offer d clock =>
    rw [HandoffEvent.step]
    refine Tx.commit_of (P := P) hsame fun h db' hok => ?_
    obtain ⟨d', -, -, ⟨rfl, -⟩ | ⟨⟨o⟩⟩⟩ := HandoffStore.offer_ok hok
    · exact hsame
    · obtain ⟨hcreated, hopen⟩ := hroute _ _ _ _ o.route (by simp [HandoffEvent.readings])
      obtain ⟨-, t, ht, hdb⟩ := HandoffStore.insertHandoff_eq_some.1 o.insert
      have hhandoffs : ∀ g ∈ db'.handoffs, g ∈ o.mid.handoffs ∨ g = h := by
        intro g hg
        rw [hdb] at hg
        exact (Table.mem_of_insert ht g).1 hg
      have hitems : db'.queueItems = o.mid.queueItems := by
        have := congrArg Db.queueItems hdb
        exact this
      refine ⟨by rw [hitems]; exact hcreated, fun g hg hgo i hi hig => ?_⟩
      rw [hitems] at hi
      obtain hg | rfl := hhandoffs g hg
      · exact hopen g hg hgo i hi hig
      · -- the routed item is new, since an older one would have been a conflict
        obtain ⟨hmid, -, hrouted, hroutekey, -⟩ := hinv.handoff.routeIn o.route
        have htarget : o.routed.key = g.targetKey := by
          have hp : o.routed.projectId = d'.projectId :=
            (Prod.mk.inj hroutekey).1.trans o.project_eq
          have hnew := congrArg Handoff.targetKey o.handoff_eq
          rw [hnew, QueueItem.key, hp]
          rfl
        obtain rfl := o.mid.queueItems.eq_of_key hi hrouted (hig.trans htarget.symm)
        obtain hold | ⟨-, hready, -⟩ := (routed_item o.route).2 _ hi
        · have hlt : s.2 < clock.offered := hclock _ (by simp [HandoffEvent.readings])
          exact absurd (lt_of_lt_of_le hlt o.offered_le) (not_lt_of_ge (hinv.created _ hold))
        · rw [hready]
          decide
  | claim c checked held now =>
    rw [HandoffEvent.step]
    refine Tx.commit_of (P := P) hsame fun h db' hok => ?_
    obtain rfl | ⟨c', g, l, htakes, rfl⟩ := HandoffStore.claim_ok hok
    · exact hsame
    · exact ⟨hsame.1, hinv.targets_open.mono
        (setHandoff_open htakes.handoff_mem htakes.not_accepted)
        fun j hj hdone => Or.inl ⟨j, hj, rfl, hdone⟩⟩
  | accept c checked now =>
    rw [HandoffEvent.step]
    refine Tx.commit_of (P := P) hsame fun h db' hok => ?_
    obtain rfl | ⟨c', g, l, t, htakes, -, -, rfl⟩ := HandoffStore.accept_ok hok
    · exact hsame
    · exact ⟨hsame.1, hinv.targets_open.mono
        (setHandoff_open htakes.handoff_mem htakes.not_accepted)
        fun j hj hdone => Or.inl ⟨j, hj, rfl, hdone⟩⟩
  | elsewhere db' =>
    rw [HandoffEvent.step]
    split
    · exact hsame
    · exact hsame

lemma TargetsInv.tick {s : Db × Time} (hinv : TargetsInv s) {e : HandoffEvent}
    (hspares : SparesTargets s e) : TargetsInv (HandoffEvent.tick s e) := by
  unfold HandoffEvent.tick
  split
  · next hclock =>
    obtain ⟨hcreated, hopen⟩ := hinv.step hspares hclock
    refine ⟨(HandoffEvent.step_keeps hinv.handoff e).1, fun i hi => ?_, hopen⟩
    rcases hcreated i hi with h | h
    · exact h.trans le_foldl_max
    · exact mem_le_foldl_max h
  · exact hinv

lemma TargetsInv.start (db : Db) : TargetsInv (db.withoutHandoffs, 0) where
  handoff := .withoutHandoffs db
  created i hi := absurd hi (Table.notMem_empty i)
  targets_open h hh := absurd hh (Table.notMem_empty h)

/-- **Open targets.**  In every run with an advancing clock in which no call completes the
target item of an unaccepted handoff, the target of an unaccepted handoff is not completed. -/
theorem target_not_completed (db₀ : Db) (es : List HandoffEvent)
    (h : Along HandoffEvent.tick SparesTargets (db₀.withoutHandoffs, 0) es) :
    let db := (run HandoffEvent.tick (db₀.withoutHandoffs, 0) es).1
    ∀ h ∈ db.handoffs, h.status.isAccepted = false →
      ∀ i ∈ db.queueItems, i.key = h.targetKey → i.status ≠ .completed := by
  intro db
  have hinv : TargetsInv (run HandoffEvent.tick (db₀.withoutHandoffs, 0) es) :=
    invariant_along (fun s e hinv he => hinv.tick he) (.start db₀) h
  exact hinv.targets_open

/-- The developer offers the work, and an instance of the target role claims the routed item. -/
def developerOffers : List HandoffEvent := developerClaims ++ [
  .offer toQa ⟨3, 3, 4⟩,
  .queue (.claim (claimOf "qa-queue" "qa-1" "2") ⟨5, 5, 5⟩ [])]

/-- The holder of the target item takes the handoff before it completes the item. -/
def qaAccepts : List HandoffEvent :=
  let credentials : HandoffCredentials := ⟨"p", handoffIdOf "p" "review", "lease-2", "token-2"⟩
  developerOffers ++ [
    .claim credentials 6 6 7,
    .accept credentials 8 9,
    .queue (.complete ⟨"p", "lease-2", "token-2"⟩ 10 11)]

theorem target_not_completed_qaAccepts :
    let db := (run HandoffEvent.tick (smallTeam.withoutHandoffs, 0) qaAccepts).1
    ∀ h ∈ db.handoffs, h.status.isAccepted = false →
      ∀ i ∈ db.queueItems, i.key = h.targetKey → i.status ≠ .completed := by
  refine target_not_completed smallTeam qaAccepts
    ⟨trivial, trivial, trivial, trivial, trivial, trivial, ?_, trivial⟩
  -- every handoff is accepted before the completion
  have haccepted : ∀ h ∈ (run HandoffEvent.tick (smallTeam.withoutHandoffs, 0)
      (qaAccepts.take 6)).1.handoffs.rows, h.status.isAccepted = true := by decide +kernel
  exact fun _ _ _ h hh _ => haccepted h hh

/-- The holder of the target item completes it at once: the offered handoff has a completed
target. -/
theorem target_completed :
    let db := (run HandoffEvent.tick (smallTeam.withoutHandoffs, 0)
      (developerOffers ++ [.queue (.complete ⟨"p", "lease-2", "token-2"⟩ 6 7)])).1
    ∃ h ∈ db.handoffs.rows, h.status = .offered ∧
      ∃ i ∈ db.queueItems.rows, i.key = h.targetKey ∧ i.status = .completed := by
  decide +kernel

end AgenticMesh
