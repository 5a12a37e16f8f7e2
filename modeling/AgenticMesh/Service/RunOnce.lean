import AgenticMesh.Service.RoleService

/-!
# A pass without interference

`run_once` as one computation: the actions of an activation one after the other,
on a database that nobody else writes in the meantime except the role itself
during its turn.  The heartbeat thread starts with the claim and extends the
lease between the actions, until it is closed after the turn or fails.  A pass
returns after eight actions at most, and apart from the item that it claimed it
leaves every item of the queue as the claim left it.
-/

namespace AgenticMesh

/-- What a pass meets outside the database, and its clock readings.  The drawn identifiers carry
no white space around them. -/
structure Pass where
  leaseHex : String
  leaseToken : String
  lease_stripped : required ("lease-" ++ leaseHex) = some ("lease-" ++ leaseHex)
  token_stripped : required leaseToken = some leaseToken
  clock : ClaimClock
  prompt : Option String
  workspace : WorkspaceAnswer
  sensitive : Bool
  providerId : String
  createThread : Option String
  operationId : String
  boundAt : Time
  /-- The tables that the role wrote during its turn. -/
  turn : Db
  /-- The calls of the heartbeat thread before the action of a phase. -/
  heartbeats : Phase → List (Time × Time)
  /-- The turn goes on until its deadline. -/
  timedOut : Bool
  completed : Option Bool
  completeLockedAt : Time
  completedAt : Time
  releaseLockedAt : Time
  releasedAt : Time

/-- The role works through the other stores; the queue items, the leases and the thread of its
conversation are not written meanwhile. -/
def Db.afterTurn (turn db : Db) : Db :=
  { turn with queueItems := db.queueItems, leases := db.leases, affinities := db.affinities }

namespace RoleService

open RoleQueueStore (Holds Normalized)

/-- The next action of `run_once` in a phase. -/
def nextAction (p : Pass) : Phase → Action
  | .claimed => .checkRetry
  | .checked => .prepare p.prompt p.workspace p.sensitive
  | .prepared _ => .supersede
  | .superseded _ => .bind p.providerId p.createThread p.operationId p.boundAt
  | .resuming .. => .resume
  | .running .. => .endTurn p.completed
  | .completing _ => .complete p.completeLockedAt p.completedAt
  | .releasing _ => .release p.releaseLockedAt p.releasedAt

/-- Heartbeats of an activation. -/
def beat (a : Activation) (db : Db) : List (Time × Time) → Activation × Db
  | [] => (a, db)
  | (lockedAt, now) :: ts =>
    match act a (.heartbeat lockedAt now) db with
    | (db', .goesOn a') => beat a' db' ts
    | (db', .returned _) => (a, db')

/-- The heartbeat thread ends a turn at its deadline, unless it failed before. -/
def expireTurn (p : Pass) (a : Activation) : Activation :=
  if p.timedOut ∧ a.heartbeatFailure = none then
    { a with heartbeatFailure := some "provider-turn-timeout" }
  else a

/-- What the next action finds: the lease is extended until the thread is closed, and while the
turn runs the role works. -/
def meanwhile (p : Pass) (closed : Bool) (a : Activation) (db : Db) : Activation × Db :=
  match a.phase with
  | .running .. =>
    let beaten := beat a (p.turn.afterTurn db) (p.heartbeats a.phase)
    (expireTurn p beaten.1, beaten.2)
  | _ => if closed then (a, db) else beat a db (p.heartbeats a.phase)

/-- `heartbeat.close()` after a turn that raised no exception. -/
def closes : Phase → Phase → Bool
  | .running .., .completing _ => true
  | .running .., .releasing reason => reason ≠ "turn-failed"
  | _, _ => false

/-- The actions of an activation until it returns. -/
def drive (p : Pass) : ℕ → Bool → Activation → Db → Db × Option RoleServiceResult
  | 0, _, _, db => (db, none)
  | n + 1, closed, a, db =>
    match act (meanwhile p closed a db).1 (nextAction p a.phase) (meanwhile p closed a db).2 with
    | (db', .goesOn a') => drive p n (closed || closes a.phase a'.phase) a' db'
    | (db', .returned result) => (db', some result)

/-- How many actions a phase is away from the end. -/
def remaining : Phase → ℕ
  | .claimed => 8
  | .checked => 7
  | .prepared _ => 6
  | .superseded _ => 5
  | .resuming .. => 4
  | .running .. => 3
  | .completing _ => 2
  | .releasing _ => 1

/-- What `run_once` returns when no item can be claimed. -/
def emptyResult : RoleServiceResult := ⟨.empty, none, none, none⟩

/-- `run_once`: the item that it claimed, the database and the result; or the exception of the
claim. -/
def runOnce (c : RoleServiceConfig) (p : Pass) (db : Db) :
    Except QueueError (Option QueueItem × Db × Option RoleServiceResult) :=
  match RoleQueueStore.claim (claimRequest c p.leaseHex p.leaseToken) p.clock [] db with
  | .error e => .error e
  | .ok (none, db') => .ok (none, db', some emptyResult)
  | .ok (some claim, db') =>
    .ok (some claim.queueItem, drive p 8 false ⟨c, claim, .claimed, none⟩ db')

/-! ## A pass returns -/

lemma remaining_checkRetry (a : Activation) (db : Db) : remaining (checkRetry a db) < 8 := by
  unfold checkRetry
  split <;> simp [remaining]

lemma remaining_prepare (a : Activation) (prompt : Option String) (workspace : WorkspaceAnswer)
    (sensitive : Bool) (db : Db) : remaining (prepare a prompt workspace sensitive db) < 7 := by
  unfold prepare
  dsimp only
  repeat' split
  all_goals simp [remaining]

lemma remaining_endTurn (a : Activation) (turn : PreparedTurn) (o : ThreadOperationClaim)
    (completed : Option Bool) (db : Db) : remaining (endTurn a turn o completed db).2 < 3 := by
  unfold endTurn
  split
  · dsimp only
    unfold afterTurn
    repeat' split
    all_goals simp [remaining]
  · simp [remaining]

lemma remaining_bind (a : Activation) (turn : PreparedTurn) (providerId : String)
    (createThread : Option String) (operationId : String) (now : Time) (db : Db) :
    remaining (bind a turn providerId createThread operationId now db).2 < 5 := by
  unfold bind
  repeat' split
  all_goals simp [remaining]

/-- Every action brings the activation closer to the end of `run_once`. -/
lemma act_remaining (p : Pass) (a : Activation) (db : Db) {a' : Activation}
    (h : (act a (nextAction p a.phase) db).2 = .goesOn a') :
    remaining a'.phase < remaining a.phase := by
  obtain ⟨config, claim, phase, failure⟩ := a
  cases phase with
  | claimed =>
    obtain rfl := Next.goesOn.inj h
    exact remaining_checkRetry _ _
  | checked =>
    obtain rfl := Next.goesOn.inj h
    exact remaining_prepare _ _ _ _ _
  | prepared turn =>
    unfold act nextAction at h
    dsimp only at h
    split at h <;> (obtain rfl := Next.goesOn.inj h; simp [remaining])
  | superseded turn =>
    obtain rfl := Next.goesOn.inj h
    exact remaining_bind _ _ _ _ _ _ _
  | resuming turn o q t =>
    unfold act nextAction at h
    dsimp only at h
    split at h
    · obtain rfl := Next.goesOn.inj h
      simp [remaining]
    · obtain rfl := Next.goesOn.inj h
      exact (remaining_endTurn _ _ _ _ _).trans (by simp [remaining])
  | running turn o =>
    obtain rfl := Next.goesOn.inj h
    exact remaining_endTurn _ _ _ _ _
  | completing reason =>
    unfold act nextAction at h
    dsimp only at h
    split at h
    · cases h
    · obtain rfl := Next.goesOn.inj h
      simp [remaining]
  | releasing reason =>
    unfold act nextAction at h
    cases h

lemma act_heartbeat_eq (a : Activation) (lockedAt now : Time) (db : Db) :
    act a (.heartbeat lockedAt now) db =
      if a.heartbeatFailure.isSome then (db, .goesOn a)
      else match RoleQueueStore.heartbeat (credentials a) a.config.leaseSeconds lockedAt now db with
        | .ok (_, db') => (db', .goesOn a)
        | .error _ =>
            (db, .goesOn { a with heartbeatFailure := some "lease-heartbeat-failed" }) := by
  obtain ⟨config, claim, phase, failure⟩ := a
  cases phase <;> rfl

lemma act_heartbeat (a : Activation) (lockedAt now : Time) (db : Db) :
    ∃ failure, (act a (.heartbeat lockedAt now) db).2 =
      .goesOn { a with heartbeatFailure := failure } := by
  rw [act_heartbeat_eq]
  split
  · exact ⟨a.heartbeatFailure, rfl⟩
  · split
    · exact ⟨a.heartbeatFailure, rfl⟩
    · exact ⟨_, rfl⟩

lemma beat_phase (ts : List (Time × Time)) (a : Activation) (db : Db) :
    (beat a db ts).1.phase = a.phase := by
  induction ts generalizing a db with
  | nil => rfl
  | cons t ts ih =>
    obtain ⟨lockedAt, now⟩ := t
    obtain ⟨failure, hnext⟩ := act_heartbeat a lockedAt now db
    unfold beat
    split
    · next db' a' h =>
      rw [h] at hnext
      obtain rfl := Next.goesOn.inj hnext
      exact ih _ db'
    · rfl

lemma expireTurn_eq (p : Pass) (a : Activation) :
    ∃ failure, expireTurn p a = { a with heartbeatFailure := failure } := by
  unfold expireTurn
  split
  · exact ⟨_, rfl⟩
  · exact ⟨_, rfl⟩

lemma meanwhile_phase (p : Pass) (closed : Bool) (a : Activation) (db : Db) :
    (meanwhile p closed a db).1.phase = a.phase := by
  unfold meanwhile
  split
  · obtain ⟨failure, hexpire⟩ := expireTurn_eq p (beat a (p.turn.afterTurn db)
      (p.heartbeats a.phase)).1
    simp only [hexpire]
    exact beat_phase _ _ _
  · split
    · rfl
    · exact beat_phase _ _ _

lemma drive_returns (p : Pass) {n : ℕ} (closed : Bool) {a : Activation}
    (hn : remaining a.phase ≤ n) (db : Db) : (drive p n closed a db).2.isSome = true := by
  induction n generalizing closed a db with
  | zero =>
    have hpos : 0 < remaining a.phase := by cases a.phase <;> simp [remaining]
    omega
  | succ n ih =>
    unfold drive
    split
    · next db' a' h =>
      have hphase := meanwhile_phase p closed a db
      have hlt : remaining a'.phase < remaining (meanwhile p closed a db).1.phase := by
        refine act_remaining p _ (meanwhile p closed a db).2 ?_
        rw [hphase, h]
      rw [hphase] at hlt
      exact ih _ (by omega) db'
    · rfl

/-- **Termination.** `run_once` returns a result, unless its claim raises. -/
theorem runOnce_returns {c : RoleServiceConfig} {p : Pass} {db db' : Db} {item : Option QueueItem}
    {result : Option RoleServiceResult} (h : runOnce c p db = .ok (item, db', result)) :
    result.isSome = true := by
  unfold runOnce at h
  split at h
  · cases h
  · cases h
    rfl
  · next claim db₁ _ =>
    simp only [Except.ok.injEq, Prod.mk.injEq] at h
    obtain ⟨-, h⟩ := h
    have hret := drive_returns p (n := 8) false (a := ⟨c, claim, .claimed, none⟩) le_rfl db₁
    rw [h] at hret
    exact hret

/-! ## The item of a pass -/

/-- Two databases with the same queue items, except that one item may have another status. -/
structure OnlyItem (k : String × String) (db db' : Db) : Prop where
  others : ∀ j : QueueItem, j.key ≠ k → (j ∈ db'.queueItems ↔ j ∈ db.queueItems)
  item : ∀ i ∈ db.queueItems, ∃ i' ∈ db'.queueItems, i.Continues i'

lemma OnlyItem.refl (k : String × String) (db : Db) : OnlyItem k db db :=
  ⟨fun _ _ => Iff.rfl, fun i hi => ⟨i, hi, rfl⟩⟩

lemma OnlyItem.of_eq {k : String × String} {db db' : Db} (h : db'.queueItems = db.queueItems) :
    OnlyItem k db db' :=
  ⟨fun j _ => by rw [h], fun i hi => ⟨i, h ▸ hi, rfl⟩⟩

lemma OnlyItem.trans {k : String × String} {db₁ db₂ db₃ : Db} (h : OnlyItem k db₁ db₂)
    (h' : OnlyItem k db₂ db₃) : OnlyItem k db₁ db₃ where
  others j hj := (h'.others j hj).trans (h.others j hj)
  item i hi := by
    obtain ⟨i', hi', hc⟩ := h.item i hi
    obtain ⟨i'', hi'', hc'⟩ := h'.item i' hi'
    exact ⟨i'', hi'', hc.trans hc'⟩

lemma OnlyItem.update {k : String × String} {db db' : Db} {status : ItemStatus}
    (h : db'.queueItems =
      db.queueItems.update (fun i => i.key = k) { set := fun i => { i with status } }) :
    OnlyItem k db db' where
  others j hj := by
    rw [h]
    constructor
    · intro hmem
      obtain ⟨i, -, hik, rfl⟩ | ⟨hmem, -⟩ := Table.mem_update_cases hmem
      · exact absurd hik hj
      · exact hmem
    · exact fun hmem => Table.mem_update_of_neg hmem hj
  item := by
    rw [h]
    exact itemContinues_of_update fun _ => rfl

/-- The lease of a claim is for one item, and the claim presents it as it was drawn. -/
structure OwnLease (a : Activation) (k : String × String) (db : Db) : Prop where
  inv : LeaseInv db
  stripped : Normalized (credentials a) (credentials a)
  item : ∀ l ∈ db.leases, l.key = a.key → l.itemKey = k

variable {a : Activation} {k : String × String} {db db' : Db}

/-- The credentials of a claim name its lease and no other. -/
lemma OwnLease.key_of_holds (hown : OwnLease a k db) {l : Lease} {t : Time}
    (hl : Holds (credentials a) t l db) : l.key = a.key := by
  obtain ⟨d, hd, -, hheld, -⟩ := hl
  have hp := Option.some.inj (hd.1.symm.trans hown.stripped.1)
  have hid := Option.some.inj (hd.2.1.symm.trans hown.stripped.2.1)
  rw [hheld.1, hp, hid]
  rfl

lemma OwnLease.of_eq (hown : OwnLease a k db) (hitems : db'.queueItems = db.queueItems)
    (hleases : db'.leases = db.leases) {a' : Activation} (ha : a'.claim = a.claim) :
    OwnLease a' k db' where
  inv := (RoleQueueStore.Keeps.elsewhere hown.inv hitems hleases).1
  stripped := by
    have hcred : credentials a' = credentials a := by simp only [credentials, ha]
    rw [hcred]
    exact hown.stripped
  item l hl hla := hown.item l (hleases ▸ hl) (by simpa only [Activation.key, ha] using hla)

/-- An action of an activation changes no item but its own. -/
lemma Effect.onlyItem {x : Action} {next : Next} (h : Effect a x db db' next)
    (hown : OwnLease a k db) : OnlyItem k db db' ∧
      ∀ a', next = .goesOn a' → OwnLease a' k db' := by
  have hthread : ∀ key, HolderOnly key db db' → OnlyItem k db db' ∧
      ∀ a', next = .goesOn a' → OwnLease a' k db' := by
    intro key honly
    have hitems : db'.queueItems = db.queueItems := by rw [honly.tables]
    have hleases : db'.leases = db.leases := by rw [honly.tables]
    exact ⟨.of_eq hitems, fun a' ha => hown.of_eq hitems hleases (h.claim_eq ha)⟩
  cases h with
  | read hnext => exact ⟨.refl k db, fun a' ha => hown.of_eq rfl rfl (hnext a' ha).1⟩
  | queue c hreadings hpresented hnext =>
    obtain ⟨hitems, hleases⟩ := @QueueCall.tables_of_presented db _ _ _ hpresented
    refine ⟨?_, fun a' ha => ?_⟩
    · obtain hsame | ⟨l, status, hl, hupdate⟩ := hitems
      · exact .of_eq hsame
      · obtain ⟨d, -, hlm, -⟩ := id hl
        have hitem : l.itemKey = k := hown.item l hlm (hown.key_of_holds hl)
        rw [hitem] at hupdate
        exact .update hupdate
    · have hown' : OwnLease a k (c.apply db) :=
        ⟨(c.apply_keeps hown.inv).1, hown.stripped, fun m hm hma => by
          obtain ⟨l, hl, hlm, hli⟩ := hleases m hm
          rw [← hli]
          exact hown.item l hl (hlm.trans hma)⟩
      exact hown'.of_eq rfl rfl (hnext a' ha).1
  | supersede turn hphase hx hok =>
    exact hthread _ (ThreadAffinityStore.releaseSupersededOperation_ok hok).1
  | bind hx hok hphase => exact hthread _ (ThreadAffinityStore.bindAndClaim_ok hok).2.2.1
  | resume key hok hphase => exact hthread _ (ThreadAffinityStore.markResumed_ok hok).1
  | finish ho hok hphase => exact hthread _ (ThreadAffinityStore.releaseOperation_ok hok).1

lemma Effect.leaseInv {x : Action} {next : Next} (h : Effect a x db db' next)
    (hinv : LeaseInv db) : LeaseInv db' := by
  have hthread : ∀ key, HolderOnly key db db' → LeaseInv db' := by
    intro key honly
    exact (RoleQueueStore.Keeps.elsewhere hinv (by rw [honly.tables]) (by rw [honly.tables])).1
  cases h with
  | read hnext => exact hinv
  | queue c hreadings hpresented hnext => exact (c.apply_keeps hinv).1
  | supersede turn hphase hx hok =>
    exact hthread _ (ThreadAffinityStore.releaseSupersededOperation_ok hok).1
  | bind hx hok hphase => exact hthread _ (ThreadAffinityStore.bindAndClaim_ok hok).2.2.1
  | resume key hok hphase => exact hthread _ (ThreadAffinityStore.markResumed_ok hok).1
  | finish ho hok hphase => exact hthread _ (ThreadAffinityStore.releaseOperation_ok hok).1

lemma beat_onlyItem (ts : List (Time × Time)) (hown : OwnLease a k db) :
    OnlyItem k db (beat a db ts).2 ∧ OwnLease (beat a db ts).1 k (beat a db ts).2 := by
  induction ts generalizing a db with
  | nil => exact ⟨.refl k db, hown⟩
  | cons t ts ih =>
    obtain ⟨lockedAt, now⟩ := t
    obtain ⟨failure, hgoes⟩ := act_heartbeat a lockedAt now db
    obtain ⟨honly, hnext⟩ := (act_effect a (.heartbeat lockedAt now) db).onlyItem hown
    unfold beat
    split
    · next db' a' h =>
      rw [h] at honly hnext
      obtain ⟨hrest, hown'⟩ := ih (hnext a' rfl)
      exact ⟨honly.trans hrest, hown'⟩
    · next db' result h =>
      rw [h] at hgoes
      cases hgoes

lemma meanwhile_onlyItem (p : Pass) (closed : Bool) (hown : OwnLease a k db) :
    OnlyItem k db (meanwhile p closed a db).2 ∧
      OwnLease (meanwhile p closed a db).1 k (meanwhile p closed a db).2 := by
  unfold meanwhile
  split
  · have hitems : (p.turn.afterTurn db).queueItems = db.queueItems := rfl
    have hleases : (p.turn.afterTurn db).leases = db.leases := rfl
    obtain ⟨honly, hown'⟩ := beat_onlyItem (p.heartbeats a.phase) (hown.of_eq hitems hleases rfl)
    obtain ⟨failure, hexpire⟩ := expireTurn_eq p (beat a (p.turn.afterTurn db)
      (p.heartbeats a.phase)).1
    refine ⟨(OnlyItem.of_eq hitems).trans honly, hown'.of_eq rfl rfl ?_⟩
    dsimp only
    rw [hexpire]
  · split
    · exact ⟨.refl k db, hown⟩
    · exact beat_onlyItem _ hown

/-- **Frame.** A pass changes no item but the one that it claimed. -/
theorem drive_onlyItem (p : Pass) (n : ℕ) (closed : Bool) (hown : OwnLease a k db) :
    OnlyItem k db (drive p n closed a db).1 ∧ LeaseInv (drive p n closed a db).1 := by
  induction n generalizing closed a db with
  | zero => exact ⟨.refl k db, hown.inv⟩
  | succ n ih =>
    obtain ⟨hbefore, hown'⟩ := meanwhile_onlyItem p closed hown
    have heff := act_effect (meanwhile p closed a db).1 (nextAction p a.phase)
      (meanwhile p closed a db).2
    obtain ⟨honly, hnext⟩ := heff.onlyItem hown'
    unfold drive
    split
    · next db' a' h =>
      rw [h] at honly hnext
      obtain ⟨hrest, hinv⟩ := ih _ (hnext a' rfl)
      exact ⟨(hbefore.trans honly).trans hrest, hinv⟩
    · next db' result h =>
      rw [h] at honly heff
      exact ⟨hbefore.trans honly, heff.leaseInv hown'.inv⟩

end RoleService

end AgenticMesh
