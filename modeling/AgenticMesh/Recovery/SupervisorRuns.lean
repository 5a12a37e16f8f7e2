import AgenticMesh.Base.Run
import AgenticMesh.Lifecycle.RetryChain
import AgenticMesh.Recovery.Supervisor

/-!
# The runs of the recovery supervisors

Supervisors call the store in any order, and each call but `reconcile` is a
transaction of its own.  A call of `reconcile` is one transaction that expires
deadlines, one listing, and two transactions for each listed row, one row after
the other: the recovery attempt of the reliability store and the mark that the
result was applied.  An attempt that the reliability store refuses ends the
call, and so does a crash between two of its transactions.  Meanwhile the
lifecycle and the reliability store work on the same incidents.
-/

namespace AgenticMesh

open ReliabilityStore RecoverySupervisorStore

/-- Where a call of `reconcile` is: before its listing, before the attempt of the first of the rows
that are left, before the mark of a row that it recorded, or at an error of `record_attempt`. -/
inductive ReconcilePhase where
  | listing
  | recording (passed rest : List ListedRun)
  | marking (passed : List ListedRun) (l : ListedRun) (rest : List ListedRun)
  | raised
deriving DecidableEq

namespace ReconcilePhase

/-- The rows of the listing, while the call goes on. -/
def rows : ReconcilePhase → List ListedRun
  | recording passed rest => passed ++ rest
  | marking passed l rest => passed ++ l :: rest
  | _ => []

/-- The rows that the call recorded. -/
def done : ReconcilePhase → List ListedRun
  | recording passed _ => passed
  | marking passed l _ => passed ++ [l]
  | _ => []

end ReconcilePhase

/-- A call of `reconcile`. -/
structure ReconcileCall where
  principal : Principal
  phase : ReconcilePhase
deriving DecidableEq

/-- The store with the calls of `reconcile` and the rows that they recorded. -/
structure RecoverySystem where
  store : RecoveryDb
  calls : List ReconcileCall
  recorded : List ListedRun

/-- One of the transactions of the supervisors, or a call of another store. -/
inductive RecoveryEvent where
  | claim (r : RecoveryClaim) (choice : Option (String × String)) (token : String)
    (clock : RecoveryClaimClock)
  | heartbeat (p : Principal) (run : RunHandle) (leaseSeconds : ℤ) (clock : RunHeartbeatClock)
  | report (p : Principal) (run : RunHandle) (x : RecoveryResult) (clock : RunReportClock)
  /-- The first transaction of a new call of `reconcile`. -/
  | expire (p : Principal) (locked : List (String × String))
    (checked reported : String × String → Time)
  /-- The next transaction of the call with a number. -/
  | list (call : ℕ)
  | record (call : ℕ) (now : Time)
  | markApplied (call : ℕ) (now : Time)
  | chain (e : ChainEvent)

namespace RecoveryDb

variable (sensitive : String → Bool)

/-- A call of the lifecycle or the reliability store; no other store writes the recovery
requests. -/
def chainStep (s : RecoveryDb) : ChainEvent → RecoveryDb
  | .elsewhere db =>
    { s with db :=
        { (ChainEvent.elsewhere db).step sensitive s.db with
          recoveryRequests := s.db.recoveryRequests } }
  | e => { s with db := e.step sensitive s.view }

end RecoveryDb

namespace RecoverySystem

variable (sensitive : String → Bool)

/-- The system after a transaction. -/
def step (s : RecoverySystem) : RecoveryEvent → RecoverySystem
  | .claim r choice token clock =>
    { s with store := (RecoverySupervisorStore.claim r choice token clock).commit s.store }
  | .heartbeat p run leaseSeconds clock =>
    { s with store := (RecoverySupervisorStore.heartbeat p run leaseSeconds clock).commit s.store }
  | .report p run x clock =>
    { s with store := (RecoverySupervisorStore.report sensitive p run x clock).commit s.store }
  | .expire p locked checked reported =>
    match expireDeadlines p locked checked reported s.store with
    | .ok (_, store) => { s with store, calls := s.calls ++ [⟨p, .listing⟩] }
    | .error _ => s
  | .list call =>
    match s.calls[call]? with
    | some ⟨p, .listing⟩ =>
      { s with calls := s.calls.set call ⟨p, .recording [] (unapplied p s.store)⟩ }
    | _ => s
  | .record call now =>
    match s.calls[call]? with
    | some ⟨p, .recording passed (l :: rest)⟩ =>
      match recordAttempt (attemptOf l p.subject) now s.store.view with
      | .ok (_, db) =>
        { s with
          store := { s.store with db }
          calls := s.calls.set call ⟨p, .marking passed l rest⟩
          recorded := s.recorded ++ [l] }
      -- the error of `record_attempt` leaves the loop
      | .error _ => { s with calls := s.calls.set call ⟨p, .raised⟩ }
    | _ => s
  | .markApplied call now =>
    match s.calls[call]? with
    | some ⟨p, .marking passed l rest⟩ =>
      { s with
        store := RecoverySupervisorStore.markApplied l now s.store
        calls := s.calls.set call ⟨p, .recording (passed ++ [l]) rest⟩ }
    | _ => s
  | .chain e => { s with store := s.store.chainStep sensitive e }

/-- No work was created and nothing was claimed yet. -/
def start (db : Db) : RecoverySystem where
  store := ⟨{ db.withoutWork with recoveryRequests := ∅ }, ∅⟩
  calls := []
  recorded := []

/-! ## What the transactions of `reconcile` do -/

variable (s : RecoverySystem) (call : ℕ) (now : Time)

lemma expire_cases (p : Principal) (locked : List (String × String))
    (checked reported : String × String → Time) :
    s.step sensitive (.expire p locked checked reported) = s ∨
      ∃ store, expireDeadlines p locked checked reported s.store = .ok ((), store) ∧
        s.step sensitive (.expire p locked checked reported) =
          { s with store, calls := s.calls ++ [⟨p, .listing⟩] } := by
  rw [step]
  split
  · next store h => exact Or.inr ⟨store, h, rfl⟩
  · exact Or.inl rfl

lemma list_cases : s.step sensitive (.list call) = s ∨
    ∃ p, s.calls[call]? = some ⟨p, .listing⟩ ∧ s.step sensitive (.list call) =
      { s with calls := s.calls.set call ⟨p, .recording [] (unapplied p s.store)⟩ } := by
  rw [step]
  split
  · next p h => exact Or.inr ⟨p, h, rfl⟩
  · exact Or.inl rfl

/-- A row is recorded only when the rows before it were passed, and a refused attempt ends the
call. -/
lemma record_cases : s.step sensitive (.record call now) = s ∨
    ∃ p passed l rest, s.calls[call]? = some ⟨p, .recording passed (l :: rest)⟩ ∧
      ((∃ a db, recordAttempt (attemptOf l p.subject) now s.store.view = .ok (a, db) ∧
        s.step sensitive (.record call now) =
          { s with
            store := { s.store with db }
            calls := s.calls.set call ⟨p, .marking passed l rest⟩
            recorded := s.recorded ++ [l] }) ∨
      ∃ e, recordAttempt (attemptOf l p.subject) now s.store.view = .error e ∧
        s.step sensitive (.record call now) =
          { s with calls := s.calls.set call ⟨p, .raised⟩ }) := by
  rw [step]
  split
  · next p passed l rest h =>
    refine Or.inr ⟨p, passed, l, rest, h, ?_⟩
    split
    · next a db hok => exact Or.inl ⟨a, db, hok, rfl⟩
    · next e herror => exact Or.inr ⟨e, herror, rfl⟩
  · exact Or.inl rfl

lemma markApplied_cases : s.step sensitive (.markApplied call now) = s ∨
    ∃ p passed l rest, s.calls[call]? = some ⟨p, .marking passed l rest⟩ ∧
      s.step sensitive (.markApplied call now) =
        { s with
          store := RecoverySupervisorStore.markApplied l now s.store
          calls := s.calls.set call ⟨p, .recording (passed ++ [l]) rest⟩ } := by
  rw [step]
  split
  · next p passed l rest h => exact Or.inr ⟨p, passed, l, rest, h, rfl⟩
  · exact Or.inl rfl

end RecoverySystem

/-! ## What becomes of a run -/

/-- A run keeps its request, deadline, limits and tool profile, and a run with a result keeps its
holder and its result, which is applied at most once. -/
structure RecoveryRun.Becomes (r r' : RecoveryRun) : Prop where
  key : r'.key = r.key
  runId : r'.runId = r.runId
  deadlineAt : r'.deadlineAt = r.deadlineAt
  timeLimitMinutes : r'.timeLimitMinutes = r.timeLimitMinutes
  usageLimit : r'.usageLimit = r.usageLimit
  toolProfileReference : r'.toolProfileReference = r.toolProfileReference
  toolProfileDigest : r'.toolProfileDigest = r.toolProfileDigest
  holder : r.result.isSome → (r'.ownerId, r'.leaseToken) = (r.ownerId, r.leaseToken)
  result : ∀ x, r.result = some x → ∃ a, r'.result = some { x with appliedAt := a } ∧
    (x.appliedAt.isSome → a = x.appliedAt)

lemma RecoveryRun.Becomes.refl (r : RecoveryRun) : r.Becomes r where
  key := rfl
  runId := rfl
  deadlineAt := rfl
  timeLimitMinutes := rfl
  usageLimit := rfl
  toolProfileReference := rfl
  toolProfileDigest := rfl
  holder _ := rfl
  result x hx := ⟨x.appliedAt, hx, fun _ => rfl⟩

lemma RecoveryRun.Becomes.trans {a b c : RecoveryRun} (hab : a.Becomes b) (hbc : b.Becomes c) :
    a.Becomes c where
  key := hbc.key.trans hab.key
  runId := hbc.runId.trans hab.runId
  deadlineAt := hbc.deadlineAt.trans hab.deadlineAt
  timeLimitMinutes := hbc.timeLimitMinutes.trans hab.timeLimitMinutes
  usageLimit := hbc.usageLimit.trans hab.usageLimit
  toolProfileReference := hbc.toolProfileReference.trans hab.toolProfileReference
  toolProfileDigest := hbc.toolProfileDigest.trans hab.toolProfileDigest
  holder h := by
    obtain ⟨x, hx⟩ := Option.isSome_iff_exists.1 h
    obtain ⟨t, ht, -⟩ := hab.result x hx
    exact (hbc.holder (by rw [ht]; rfl)).trans (hab.holder h)
  result x hx := by
    obtain ⟨t, ht, hset⟩ := hab.result x hx
    obtain ⟨t', ht', hset'⟩ := hbc.result _ ht
    refine ⟨t', ht', fun h => ?_⟩
    have heq := hset h
    exact (hset' (by rw [heq]; exact h)).trans heq

/-- The columns of a run without a result change apart from those that are fixed. -/
lemma RecoveryRun.Becomes.of_none {r r' : RecoveryRun} (hnone : r.result = none)
    (hkey : r'.key = r.key) (hrun : r'.runId = r.runId) (hdeadline : r'.deadlineAt = r.deadlineAt)
    (hlimit : r'.timeLimitMinutes = r.timeLimitMinutes) (husage : r'.usageLimit = r.usageLimit)
    (hreference : r'.toolProfileReference = r.toolProfileReference)
    (hdigest : r'.toolProfileDigest = r.toolProfileDigest) : r.Becomes r' where
  key := hkey
  runId := hrun
  deadlineAt := hdeadline
  timeLimitMinutes := hlimit
  usageLimit := husage
  toolProfileReference := hreference
  toolProfileDigest := hdigest
  holder h := by simp [hnone] at h
  result x hx := by simp [hnone] at hx

/-- What a transaction of the supervisors does to the runs; `A` holds of the runs whose results it
may mark as applied. -/
inductive RunsMoved (A : RecoveryRun → Prop) (s s' : RecoveryDb) : Prop
  | same (runs : s'.runs = s.runs)
  | claimed {q : RecoveryRequest} {row : RecoveryRun} (mem : q ∈ s.db.recoveryRequests)
      (key : row.key = q.key) (named : row.runId = derivedRunId row.projectId row.recoveryRequestId)
      (result : row.result = none) (inserted : insertRun row s = some s')
  | updated {p : RecoveryRun → Prop} [DecidablePred p] {f : Table.Assign RecoveryRun.key}
      (becomes : ∀ r ∈ s.runs, p r → r.Becomes (f.set r))
      (lease : ∀ r ∈ s.runs, p r → r.leaseExpiresAt ≤ r.deadlineAt →
        (f.set r).leaseExpiresAt ≤ r.deadlineAt)
      (token : (∀ r ∈ s.runs, p r → (f.set r).leaseToken = r.leaseToken) ∨
        ∃ k t, (∀ r ∈ s.runs, p r → r.key = k) ∧ (∀ r ∈ s.runs, r.leaseToken ≠ t) ∧
          ∀ r, (f.set r).leaseToken = t)
      (marked : ∀ r ∈ s.runs, p r → ∀ x, (f.set r).result = some x → x.appliedAt.isSome →
        r.result = some x ∨ A r)
      (runs : s'.runs = s.runs.update p f)

section Moved

variable {A : RecoveryRun → Prop} {s s' : RecoveryDb}

lemma insertRun_eq_some {row : RecoveryRun} (h : insertRun row s = some s') :
    row.leaseExpiresAt ≤ row.deadlineAt ∧
      (∀ r ∈ s.runs, r.leaseToken ≠ row.leaseToken ∧
        (r.projectId, r.runId) ≠ (row.projectId, row.runId)) ∧
      s.runs.insert row = some s'.runs ∧ s'.db = s.db := by
  unfold insertRun at h
  split at h
  · next hcheck =>
    obtain ⟨runs, hins, rfl⟩ := Option.map_eq_some_iff.1 h
    exact ⟨hcheck.1, hcheck.2, hins, rfl⟩
  · simp at h

/-- No run is lost. -/
lemma RunsMoved.becomes (h : RunsMoved A s s') : ∀ r ∈ s.runs, ∃ r' ∈ s'.runs, r.Becomes r' := by
  intro r hr
  cases h with
  | same runs => exact ⟨r, runs ▸ hr, .refl r⟩
  | claimed _ _ _ _ inserted =>
    obtain ⟨-, -, hins, -⟩ := insertRun_eq_some inserted
    exact ⟨r, (Table.mem_of_insert hins r).2 (Or.inl hr), .refl r⟩
  | @updated p _ f becomes _ _ _ runs =>
    rw [runs]
    by_cases hp : p r
    · exact ⟨f.set r, Table.mem_update_of_pos hr hp, becomes r hr hp⟩
    · exact ⟨r, Table.mem_update_of_neg hr hp, .refl r⟩

end Moved

section Operations

variable {A : RecoveryRun → Prop} {s : RecoveryDb}

lemma RunsMoved.commit {α : Type} {t : SupervisorTx α}
    (h : ∀ a s', t s = .ok (a, s') → s'.db = s.db ∧ RunsMoved A s s') :
    (t.commit s).db = s.db ∧ RunsMoved A s (t.commit s) := by
  rw [Tx.commit]
  split
  · next hok => exact h _ _ hok
  · exact ⟨rfl, .same rfl⟩

lemma claim_moved (r : RecoveryClaim) (choice : Option (String × String)) (token : String)
    (clock : RecoveryClaimClock) :
    ((claim r choice token clock).commit s).db = s.db ∧
      RunsMoved A s ((claim r choice token clock).commit s) := by
  refine RunsMoved.commit fun a s' hok => ?_
  obtain rfl | hwrote := claim_ok hok
  · exact ⟨rfl, .same rfl⟩
  · cases hwrote with
    | first mem _ _ inserted =>
      exact ⟨(insertRun_eq_some inserted).2.2.2, .claimed mem rfl rfl rfl inserted⟩
    | again _ _ old _ _ expired fresh updated =>
      subst updated
      refine ⟨rfl, .updated (fun r hr hk => ?_) (fun _ _ _ _ => min_le_left _ _)
        (Or.inr ⟨_, token, fun _ _ hk => hk, fresh, fun _ => rfl⟩)
        (fun _ _ _ _ hx _ => Or.inl hx) rfl⟩
      obtain rfl := s.runs.eq_of_key hr old hk
      exact .of_none expired.1 rfl rfl rfl rfl rfl rfl rfl

lemma heartbeat_moved (p : Principal) (run : RunHandle) (leaseSeconds : ℤ)
    (clock : RunHeartbeatClock) :
    ((heartbeat p run leaseSeconds clock).commit s).db = s.db ∧
      RunsMoved A s ((heartbeat p run leaseSeconds clock).commit s) := by
  refine RunsMoved.commit fun a s' hok => ?_
  obtain ⟨r, hr, -, hnone, -, -, rfl⟩ := heartbeat_ok hok
  refine ⟨rfl, .updated (fun r' hr' hk => ?_) (fun _ _ _ _ => min_le_left _ _)
    (Or.inl fun _ _ _ => rfl) (fun _ _ _ _ hx _ => Or.inl hx) rfl⟩
  obtain rfl := s.runs.eq_of_key hr' hr hk
  exact .of_none hnone rfl rfl rfl rfl rfl rfl rfl

lemma report_moved (sensitive : String → Bool) (p : Principal) (run : RunHandle)
    (x : RecoveryResult) (clock : RunReportClock) :
    ((report sensitive p run x clock).commit s).db = s.db ∧
      RunsMoved A s ((report sensitive p run x clock).commit s) := by
  refine RunsMoved.commit fun a s' hok => ?_
  obtain ⟨y, -, r, hr, -, -, hwrote⟩ := report_ok hok
  have hmem := (handled_eq_some.1 hr).1
  cases hwrote with
  | again _ _ kept => exact ⟨by rw [kept], .same (by rw [kept])⟩
  | first none _ updated =>
    subst updated
    refine ⟨rfl, .updated (fun r' hr' hk => ?_) (fun _ _ _ hle => hle)
      (Or.inl fun _ _ _ => rfl) (fun _ _ _ x hx happlied => ?_) rfl⟩
    · obtain rfl := s.runs.eq_of_key hr' hmem hk
      exact .of_none none rfl rfl rfl rfl rfl rfl rfl
    · -- the new result is not applied
      obtain rfl := Option.some.inj hx
      simp at happlied

lemma expireDeadlines_moved (p : Principal) (locked : List (String × String))
    (checked reported : String × String → Time) :
    ((expireDeadlines p locked checked reported).commit s).db = s.db ∧
      RunsMoved A s ((expireDeadlines p locked checked reported).commit s) := by
  refine RunsMoved.commit fun a s' hok => ?_
  rw [expireDeadlines, authorizeScope, Tx.require_bind_ok, Tx.modify_ok] at hok
  obtain ⟨-, rfl⟩ := hok
  refine ⟨rfl, .updated (fun r hr hp => ?_) (fun _ _ _ hle => hle) (Or.inl fun _ _ _ => rfl)
    (fun _ _ _ x hx happlied => ?_) rfl⟩
  · exact .of_none hp.1 rfl rfl rfl rfl rfl rfl rfl
  · obtain rfl := Option.some.inj hx
    simp at happlied

lemma markApplied_moved (l : ListedRun) (now : Time) :
    RunsMoved (Unapplied l) s (markApplied l now s) := by
  refine .updated (fun r hr hp => ?_) (fun _ _ _ hle => hle) (Or.inl fun _ _ _ => rfl)
    (fun _ _ hp _ _ _ => Or.inr hp) rfl
  obtain ⟨-, x, hx, -, hnone⟩ := hp
  exact
    { key := rfl, runId := rfl, deadlineAt := rfl, timeLimitMinutes := rfl, usageLimit := rfl
      toolProfileReference := rfl, toolProfileDigest := rfl
      holder := fun _ => rfl
      result := fun y hy => by
        obtain rfl : x = y := Option.some.inj (hx.symm.trans hy)
        refine ⟨some now, ?_, fun h => ?_⟩
        · change Option.map _ r.result = _
          rw [hy]
          rfl
        · simp [hnone] at h }

end Operations

end AgenticMesh
