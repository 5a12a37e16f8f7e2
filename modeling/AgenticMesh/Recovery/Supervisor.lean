import AgenticMesh.Base.SortedBy
import AgenticMesh.Store.Reliability

/-!
# The recovery supervisor

`RecoverySupervisorStore`: a supervisor claims a pending recovery request and
gets a lease on its run, extends the lease, and reports one result.  A run whose
lease expired is claimed again until its deadline, and a run whose deadline
passed is reported as failed by the next `reconcile`.  The results are then
recorded one after the other as recovery attempts of the reliability store, in
transactions of their own.  The runs of the reliability store are a view of the
rows of this one.
-/

namespace AgenticMesh

/-- The exceptions of the supervisor. -/
inductive SupervisorError where
  | value (message : String)
  | authorization (message : String)
  | conflict (message : String)
  | store
deriving DecidableEq

/-- The caller of an operation. -/
structure Principal where
  subject : String
  projects : List String
  scopes : List String
deriving DecidableEq

/-- The result columns of a run with their fingerprint and times. -/
structure RunResult where
  report : RunReport
  fingerprint : String
  reportedAt : Time
  appliedAt : Option Time
deriving DecidableEq

/-- A row of `recovery_supervisor_runs`; its status is `reported` exactly when it has a result. -/
structure RecoveryRun where
  projectId : String
  recoveryRequestId : String
  runId : String
  claimCount : ℕ
  ownerId : String
  leaseToken : String
  claimedAt : Time
  leaseExpiresAt : Time
  deadlineAt : Time
  timeLimitMinutes : ℤ
  usageLimit : ℕ
  toolProfileReference : String
  toolProfileDigest : String
  result : Option RunResult
deriving DecidableEq

def RecoveryRun.key (r : RecoveryRun) : String × String := (r.projectId, r.recoveryRequestId)

/-- The columns of a run that the reliability store reads. -/
def RecoveryRun.supervisorRun (r : RecoveryRun) : SupervisorRun where
  projectId := r.projectId
  recoveryRequestId := r.recoveryRequestId
  runId := r.runId
  usageLimit := r.usageLimit
  toolProfileReference := r.toolProfileReference
  toolProfileDigest := r.toolProfileDigest
  report := r.result.map RunResult.report

/-- The database with the runs of the supervisors. -/
structure RecoveryDb where
  db : Db
  runs : Table RecoveryRun RecoveryRun.key

namespace RecoveryDb

/-- The runs, as the reliability store reads them. -/
def supervisorRuns (s : RecoveryDb) : Table SupervisorRun SupervisorRun.key :=
  ⟨s.runs.rows.map RecoveryRun.supervisorRun, by
    rw [List.map_map]
    exact s.runs.nodup_keys⟩

/-- The database of the reliability store. -/
def view (s : RecoveryDb) : Db := { s.db with supervisorRuns := s.supervisorRuns }

end RecoveryDb

/-- What a supervisor keeps of a run that it claimed. -/
structure RunHandle where
  projectId : String
  recoveryRequestId : String
  runId : String
  ownerId : String
  leaseToken : String
deriving DecidableEq

/-- The arguments of `claim`. -/
structure RecoveryClaim where
  principal : Principal
  ownerId : String
  profileReference : String
  profileDigest : String
  timeLimitMinutes : ℤ
  usageLimit : ℤ
  leaseSeconds : ℤ

/-- The clock readings of `claim`. -/
structure RecoveryClaimClock where
  leaseSelected : Time
  deadlineSelected : Time
  leased : Time
  bounded : Time
  deadline : Time
  claimed : Time
  leaseChecked : Time
  deadlineChecked : Time

/-- The clock readings of `heartbeat`. -/
structure RunHeartbeatClock where
  leased : Time
  leaseChecked : Time
  deadlineChecked : Time

/-- The clock readings of `report`. -/
structure RunReportClock where
  leaseChecked : Time
  deadlineChecked : Time
  reported : Time

/-- `RecoveryResult`. -/
structure RecoveryResult where
  outcome : String
  safeSummary : String
  verificationRef : String
  usageUsed : ℤ

/-- A row of the listing of `reconcile`. -/
structure ListedRun where
  run : RecoveryRun
  result : RunResult
  incidentId : String
  workItemId : String
deriving DecidableEq

/-- The order of the listing: `ORDER BY reported_at, project_id, run_id`. -/
def ListedRun.rank (l : ListedRun) : Time ×ₗ String ×ₗ String :=
  toLex (l.result.reportedAt, toLex (l.run.projectId, l.run.runId))

/-- A transaction of the supervisors. -/
abbrev SupervisorTx (α : Type) : Type := Tx RecoveryDb SupervisorError α

namespace RecoverySupervisorStore

/-! ## Checks -/

def recoveryScope : String := "recovery:execute"

/-- The projects that a principal may act on. -/
def Allowed (p : Principal) (projectId : String) : Prop :=
  "*" ∈ p.projects ∨ projectId ∈ p.projects

instance (p : Principal) (projectId : String) : Decidable (Allowed p projectId) :=
  inferInstanceAs (Decidable (_ ∨ _))

/-- `_authorize_scope`. -/
def authorizeScope (p : Principal) : SupervisorTx Unit :=
  Tx.require (recoveryScope ∈ p.scopes)
    (.authorization "identity does not have independent recovery permission")

/-- `_authorize_project`. -/
def authorizeProject (p : Principal) (projectId : String) : SupervisorTx Unit := do
  authorizeScope p
  Tx.require (Allowed p projectId)
    (.authorization "identity is not authorized for the recovery project")

/-- `_positive_integer`. -/
def positiveInteger (n : ℤ) (label : String) (maximum : Option ℤ) : SupervisorTx Unit :=
  Tx.require (0 < n ∧ ∀ m ∈ maximum, n ≤ m) (.value (label ++ " is invalid"))

/-- `_result_fingerprint`. -/
def resultFingerprint (x : RunReport) : String :=
  sha256Hex <| Json.ascii <| Json.dumps <| .obj [
    ("outcome", .str x.outcome.text),
    ("safe_summary", .str x.safeSummary),
    ("usage_used", .int x.usageUsed),
    ("verification_ref", .str x.verificationRef)]

/-- `_derived_run_id`. -/
def derivedRunId (projectId requestId : String) : String :=
  "recovery-run-" ++ digestOf 32 [projectId, requestId]

/-! ## Claiming -/

/-- A run of a request can be claimed again: its lease expired and its deadline did not. -/
def Expired (r : RecoveryRun) (leaseChecked deadlineChecked : Time) : Prop :=
  r.result = none ∧ r.leaseExpiresAt ≤ leaseChecked ∧ deadlineChecked < r.deadlineAt

instance (r : RecoveryRun) (leaseChecked deadlineChecked : Time) :
    Decidable (Expired r leaseChecked deadlineChecked) :=
  inferInstanceAs (Decidable (_ ∧ _))

/-- A request that a principal may claim. -/
def Claimable (s : RecoveryDb) (p : Principal) (clock : RecoveryClaimClock)
    (q : RecoveryRequest) : Prop :=
  q.status = .pending ∧ Allowed p q.projectId ∧
    ∀ r ∈ s.runs.lookup q.key, Expired r clock.leaseSelected clock.deadlineSelected

instance (s : RecoveryDb) (p : Principal) (clock : RecoveryClaimClock) (q : RecoveryRequest) :
    Decidable (Claimable s p clock q) :=
  inferInstanceAs (Decidable (_ ∧ _ ∧ ∀ _ ∈ _, _))

/-- The claimable request that the query returned; it skips requests that other claims have
locked. -/
def claimable (choice : Option (String × String)) (p : Principal) (clock : RecoveryClaimClock)
    (s : RecoveryDb) : Option RecoveryRequest :=
  (choice.bind s.db.recoveryRequests.lookup).filter fun q => Claimable s p clock q

/-- The row of a first claim. -/
def newRun (r : RecoveryClaim) (q : RecoveryRequest) (token : String) (clock : RecoveryClaimClock) :
    RecoveryRun where
  projectId := q.projectId
  recoveryRequestId := q.recoveryRequestId
  runId := derivedRunId q.projectId q.recoveryRequestId
  claimCount := 1
  ownerId := r.ownerId
  leaseToken := token
  claimedAt := clock.claimed
  leaseExpiresAt := min (clock.leased + seconds r.leaseSeconds)
    (clock.bounded + seconds (60 * r.timeLimitMinutes))
  deadlineAt := clock.deadline + seconds (60 * r.timeLimitMinutes)
  timeLimitMinutes := r.timeLimitMinutes
  usageLimit := r.usageLimit.toNat
  toolProfileReference := r.profileReference
  toolProfileDigest := r.profileDigest
  result := none

/-- `INSERT INTO recovery_supervisor_runs`, with the check of the lease and the unique keys. -/
def insertRun (row : RecoveryRun) (s : RecoveryDb) : Option RecoveryDb :=
  if row.leaseExpiresAt ≤ row.deadlineAt ∧ ∀ r ∈ s.runs.rows, r.leaseToken ≠ row.leaseToken ∧
      (r.projectId, r.runId) ≠ (row.projectId, row.runId) then
    (s.runs.insert row).map fun runs => { s with runs }
  else none

/-- `UPDATE recovery_supervisor_runs` of one run. -/
def updateRun (key : String × String) (f : Table.Assign RecoveryRun.key) (s : RecoveryDb) :
    RecoveryDb :=
  { s with runs := s.runs.update (fun r => r.key = key) f }

/-- The columns of a run that is claimed again. -/
def claimAgain (r : RecoveryClaim) (token : String) (clock : RecoveryClaimClock) :
    Table.Assign RecoveryRun.key where
  set := fun run => { run with
    ownerId := r.ownerId
    leaseToken := token
    claimedAt := clock.claimed
    leaseExpiresAt := min run.deadlineAt (clock.leased + seconds r.leaseSeconds)
    claimCount := run.claimCount + 1 }

/-- The claim of a request that has a run already. -/
def takeOver (r : RecoveryClaim) (run : RecoveryRun) (token : String) (clock : RecoveryClaimClock) :
    SupervisorTx Unit := do
  Tx.require ((run.toolProfileReference, run.toolProfileDigest) =
      (r.profileReference, r.profileDigest))
    (.conflict "recovery run is pinned to a different tool profile")
  Tx.require (Expired run clock.leaseChecked clock.deadlineChecked)
    (.conflict "recovery claim is no longer available")
  -- `lease_token` is unique
  Tx.attempt (fun s =>
    if ∀ other ∈ s.runs.rows, other.leaseToken ≠ token then
      some (updateRun run.key (claimAgain r token clock) s)
    else none) .store

/-- The claim of a request that was selected. -/
def claimSelected (r : RecoveryClaim) (q : RecoveryRequest) (token : String)
    (clock : RecoveryClaimClock) : SupervisorTx Unit := do
  let existing ← Tx.query fun s => s.runs.lookup q.key
  match existing with
  | none => Tx.attempt (insertRun (newRun r q token clock)) .store
  | some run => takeOver r run token clock

/-- `claim`: the run that was claimed, if any. -/
def claim (r : RecoveryClaim) (choice : Option (String × String)) (token : String)
    (clock : RecoveryClaimClock) : SupervisorTx (Option RecoveryRun) := do
  Tx.require (isIdentifier r.ownerId = true) (.value "owner_id is invalid")
  positiveInteger r.timeLimitMinutes "time_limit_minutes" (some (24 * 60))
  positiveInteger r.usageLimit "usage_limit" none
  positiveInteger r.leaseSeconds "lease_seconds" (some 3600)
  authorizeScope r.principal
  let selected ← Tx.query (claimable choice r.principal clock)
  match selected with
  | none => return none
  | some q => do
    claimSelected r q token clock
    Tx.query fun s => s.runs.lookup q.key

/-! ## Heartbeats -/

/-- The row of a run that a supervisor holds. -/
def handled (run : RunHandle) (s : RecoveryDb) : Option RecoveryRun :=
  (s.runs.lookup (run.projectId, run.recoveryRequestId)).filter fun r => r.runId = run.runId

/-- A run is held under a token. -/
def HeldBy (run : RunHandle) (r : RecoveryRun) : Prop :=
  (r.ownerId, r.leaseToken) = (run.ownerId, run.leaseToken)

instance (run : RunHandle) (r : RecoveryRun) : Decidable (HeldBy run r) :=
  inferInstanceAs (Decidable (_ = _))

/-- `heartbeat`: the run with its new lease. -/
def heartbeat (p : Principal) (run : RunHandle) (leaseSeconds : ℤ) (clock : RunHeartbeatClock) :
    SupervisorTx (Option RecoveryRun) := do
  authorizeProject p run.projectId
  positiveInteger leaseSeconds "lease_seconds" (some 3600)
  let row ← Tx.demand (fun s => (handled run s).filter fun r =>
      HeldBy run r ∧ r.result = none ∧ clock.leaseChecked < r.leaseExpiresAt ∧
        clock.deadlineChecked < r.deadlineAt)
    (.conflict "recovery lease is not active")
  Tx.modify (updateRun row.key
    { set := fun r => { r with
        leaseExpiresAt := min r.deadlineAt (clock.leased + seconds leaseSeconds) } })
  Tx.query fun s => s.runs.lookup row.key

/-! ## Reporting -/

/-- The outcome with a given text. -/
def outcome (s : String) : Option Outcome :=
  [Outcome.succeeded, .failed].find? fun o => o.text = s

/-- `_bounded`; the limit is on the text with its blanks. -/
def bounded (maximum : ℕ) (s : String) : Option String :=
  if strip s = "" ∨ maximum < s.toList.length then none else some (strip s)

/-- `_validated_result`. -/
def validatedResult (sensitive : String → Bool) (x : RecoveryResult) : SupervisorTx RunReport := do
  let result ← Tx.demand (fun _ => outcome x.outcome) (.value "recovery outcome is invalid")
  let summary ← Tx.demand (fun _ => bounded 1000 x.safeSummary) (.value "safe_summary is invalid")
  let verification ← Tx.demand (fun _ => bounded 1000 x.verificationRef)
    (.value "verification_ref is invalid")
  Tx.require (sensitive summary = false) (.value "safe_summary contains restricted content")
  Tx.require (sensitive verification = false)
    (.value "verification_ref contains restricted content")
  Tx.require (0 ≤ x.usageUsed) (.value "usage_used is invalid")
  return ⟨result, summary, verification, x.usageUsed.toNat⟩

/-- The result of a run whose deadline passed. -/
def timeLimitReport (runId : String) (usage : ℕ) : RunReport where
  outcome := .failed
  safeSummary := "Recovery execution reached its configured time limit."
  verificationRef := "supervisor://time-limit/" ++ runId
  usageUsed := usage

/-- The result of a run that used too much. -/
def usageLimitReport (runId : String) (usage : ℕ) : RunReport where
  outcome := .failed
  safeSummary := "Recovery execution exceeded its configured usage limit."
  verificationRef := "supervisor://usage-limit/" ++ runId
  usageUsed := usage

/-- The result that is stored for a report. -/
def settled (r : RecoveryRun) (now : Time) (x : RunReport) : RunReport :=
  if r.usageLimit < x.usageUsed then usageLimitReport r.runId x.usageUsed
  else if r.deadlineAt ≤ now then timeLimitReport r.runId x.usageUsed
  else x

/-- The fingerprints that a repeated report may have stored. -/
def fingerprints (r : RecoveryRun) (stored : RunResult) (now : Time) (x : RunReport) :
    List String :=
  resultFingerprint x ::
    ((if r.usageLimit < x.usageUsed then
        [resultFingerprint (usageLimitReport r.runId x.usageUsed)] else []) ++
      if r.deadlineAt ≤ now then
        [resultFingerprint (timeLimitReport r.runId stored.report.usageUsed)] else [])

/-- The result columns are written. -/
def setResult (report : RunReport) (now : Time) : Table.Assign RecoveryRun.key where
  set := fun r => { r with result := some ⟨report, resultFingerprint report, now, none⟩ }

/-- `report`: the run with its result. -/
def report (sensitive : String → Bool) (p : Principal) (run : RunHandle) (x : RecoveryResult)
    (clock : RunReportClock) : SupervisorTx (Option RecoveryRun) := do
  authorizeProject p run.projectId
  let x ← validatedResult sensitive x
  let current ← Tx.demand (handled run) (.conflict "recovery run was not found")
  Tx.require (HeldBy run current) (.authorization "recovery lease token is invalid")
  match current.result with
  | some stored => do
    Tx.require (stored.fingerprint ∈ fingerprints current stored clock.deadlineChecked x)
      (.conflict "recovery run already has a different result")
    return some current
  | none => do
    Tx.require (current.deadlineAt ≤ clock.deadlineChecked ∨
        clock.leaseChecked < current.leaseExpiresAt)
      (.conflict "recovery lease is not active")
    Tx.modify (updateRun current.key
      (setResult (settled current clock.deadlineChecked x) clock.reported))
    Tx.query fun s => s.runs.lookup current.key

/-! ## Reconciling -/

/-- The result of a run that reached its deadline without one. -/
def expireRun (reported : String × String → Time) : Table.Assign RecoveryRun.key where
  set := fun r =>
    let report := timeLimitReport r.runId 0
    { r with result := some ⟨report, resultFingerprint report, reported r.key, none⟩ }

/-- A run that `_expire_deadlines` finds: it skips the runs that other transactions have locked. -/
def Overdue (p : Principal) (locked : List (String × String)) (checked : String × String → Time)
    (s : RecoveryDb) (r : RecoveryRun) : Prop :=
  r.result = none ∧ r.deadlineAt ≤ checked r.key ∧ Allowed p r.projectId ∧ r.key ∉ locked ∧
    (s.db.recoveryRequests.lookup r.key).isSome = true

instance (p : Principal) (locked : List (String × String)) (checked : String × String → Time)
    (s : RecoveryDb) (r : RecoveryRun) : Decidable (Overdue p locked checked s r) :=
  inferInstanceAs (Decidable (_ ∧ _))

/-- `_expire_deadlines`, with the clock readings for each run. -/
def expireDeadlines (p : Principal) (locked : List (String × String))
    (checked reported : String × String → Time) : SupervisorTx Unit := do
  authorizeScope p
  Tx.modify fun s =>
    { s with runs := s.runs.update (Overdue p locked checked s) (expireRun reported) }

/-- A row of the listing. -/
def listedRun (p : Principal) (s : RecoveryDb) (r : RecoveryRun) : Option ListedRun := do
  let result ← r.result
  let q ← s.db.recoveryRequests.lookup r.key
  if result.appliedAt = none ∧ Allowed p r.projectId then
    some ⟨r, result, q.incidentId, q.workItemId⟩
  else none

/-- The reported runs that are not applied yet, in the order of their reports. -/
def unapplied (p : Principal) (s : RecoveryDb) : List ListedRun :=
  sortedBy ListedRun.rank (s.runs.rows.filterMap (listedRun p s))

/-- The recovery attempt of a listed run; the fields of its evidence are in the order of their
keys. -/
def attemptOf (l : ListedRun) (actor : String) : AttemptRequest where
  projectId := l.run.projectId
  workItemId := l.workItemId
  incidentId := l.incidentId
  attemptId := l.run.runId
  stage := .recovery
  attemptNumber := 1
  outcome := l.result.report.outcome
  actorId := actor
  correctionInstruction := none
  evidence := [
    ("recovery_run_id", .str l.run.runId),
    ("safe_summary", .str l.result.report.safeSummary),
    ("tool_profile_digest", .str l.run.toolProfileDigest),
    ("tool_profile_reference", .str l.run.toolProfileReference),
    ("usage_limit", .int l.run.usageLimit),
    ("usage_used", .int l.result.report.usageUsed),
    ("verification_ref", .str l.result.report.verificationRef)]

/-- The result was applied. -/
def applyRun (now : Time) : Table.Assign RecoveryRun.key where
  set := fun r => { r with result := r.result.map fun x => { x with appliedAt := some now } }

/-- The run of a listed row, with the same result and not applied yet. -/
def Unapplied (l : ListedRun) (r : RecoveryRun) : Prop :=
  (r.key, r.runId) = (l.run.key, l.run.runId) ∧
    ∃ x ∈ r.result, x.fingerprint = l.result.fingerprint ∧ x.appliedAt = none

instance (l : ListedRun) (r : RecoveryRun) : Decidable (Unapplied l r) :=
  inferInstanceAs (Decidable (_ ∧ ∃ _ ∈ _, _))

/-- `UPDATE ... SET result_applied_at` of a listed run. -/
def markApplied (l : ListedRun) (now : Time) (s : RecoveryDb) : RecoveryDb :=
  { s with runs := s.runs.update (Unapplied l) (applyRun now) }

/-- What `_validated_result` made of a result. -/
structure Validated (sensitive : String → Bool) (x : RecoveryResult) (report : RunReport) :
    Prop where
  result : outcome x.outcome = some report.outcome
  summary : bounded 1000 x.safeSummary = some report.safeSummary
  verification : bounded 1000 x.verificationRef = some report.verificationRef
  summary_safe : sensitive report.safeSummary = false
  verification_safe : sensitive report.verificationRef = false
  usage : x.usageUsed = report.usageUsed

/-! ## What the operations do -/

variable {s s' : RecoveryDb}

section Checks

variable {α : Type} {r : α × RecoveryDb}

lemma authorizeProject_bind_ok {p : Principal} {projectId : String} {f : Unit → SupervisorTx α} :
    (authorizeProject p projectId >>= f) s = .ok r ↔
      (recoveryScope ∈ p.scopes ∧ Allowed p projectId) ∧ f () s = .ok r := by
  refine Tx.bind_of_check fun q => ?_
  rw [authorizeProject, authorizeScope, Tx.require_bind_ok, Tx.require_ok, and_assoc]

lemma validatedResult_bind_ok {sensitive : String → Bool} {x : RecoveryResult}
    {f : RunReport → SupervisorTx α} : (validatedResult sensitive x >>= f) s = .ok r ↔
      ∃ report, Validated sensitive x report ∧ f report s = .ok r := by
  refine Tx.bind_of_ok_iff fun q => ?_
  obtain ⟨report, s'⟩ := q
  simp only [validatedResult, Tx.demand_bind_ok, Tx.require_bind_ok, Tx.pure_ok, Prod.mk.injEq]
  constructor
  · rintro ⟨o, ho, summary, hs, verification, hv, hss, hvs, husage, rfl, rfl⟩
    refine ⟨⟨ho, hs, hv, hss, hvs, ?_⟩, rfl⟩
    change x.usageUsed = (x.usageUsed.toNat : ℤ)
    omega
  · rintro ⟨⟨ho, hs, hv, hss, hvs, husage⟩, rfl⟩
    refine ⟨_, ho, _, hs, _, hv, hss, hvs, by omega, ?_, rfl⟩
    rw [husage]
    rfl

end Checks

/-- The writes of a claim of a pending request: the first claim inserts the run, and a later one
takes over a run whose lease expired before its deadline, under the same tool profile. -/
inductive ClaimWrote (r : RecoveryClaim) (token : String) (clock : RecoveryClaimClock)
    (s s' : RecoveryDb) : Prop
  | first {q : RecoveryRequest} (mem : q ∈ s.db.recoveryRequests) (pending : q.status = .pending)
      (none : s.runs.lookup q.key = none)
      (inserted : insertRun (newRun r q token clock) s = some s')
  | again {q : RecoveryRequest} {run : RecoveryRun} (mem : q ∈ s.db.recoveryRequests)
      (pending : q.status = .pending) (old : run ∈ s.runs) (key : run.key = q.key)
      (pinned : (run.toolProfileReference, run.toolProfileDigest) =
        (r.profileReference, r.profileDigest))
      (expired : Expired run clock.leaseChecked clock.deadlineChecked)
      (fresh : ∀ other ∈ s.runs, other.leaseToken ≠ token)
      (updated : s' = updateRun run.key (claimAgain r token clock) s)

lemma claim_ok {r : RecoveryClaim} {choice : Option (String × String)} {token : String}
    {clock : RecoveryClaimClock} {a : Option RecoveryRun}
    (h : claim r choice token clock s = .ok (a, s')) : s' = s ∨ ClaimWrote r token clock s s' := by
  simp only [claim, positiveInteger, authorizeScope, Tx.require_bind_ok, Tx.query_bind_ok] at h
  obtain ⟨-, -, -, -, -, h⟩ := h
  cases hselected : claimable choice r.principal clock s with
  | none =>
    simp only [hselected, Tx.pure_ok, Prod.mk.injEq] at h
    exact Or.inl h.2
  | some q =>
    right
    simp only [hselected] at h
    rw [Tx.bind_ok] at h
    obtain ⟨_, s₁, hclaim, h⟩ := h
    obtain rfl : s' = s₁ := (Prod.mk.inj (Tx.query_ok.1 h)).2
    obtain ⟨hlook, hclaimable⟩ := Option.filter_eq_some_iff.1 hselected
    obtain ⟨k, -, hlook⟩ := Option.bind_eq_some_iff.1 hlook
    obtain ⟨hmem, -⟩ := Table.lookup_eq_some.1 hlook
    obtain ⟨hpending, -, -⟩ := of_decide_eq_true hclaimable
    simp only [claimSelected, Tx.query_bind_ok] at hclaim
    cases hrun : s.runs.lookup q.key with
    | none =>
      simp only [hrun] at hclaim
      exact .first hmem hpending hrun (Tx.attempt_ok.1 hclaim)
    | some run =>
      obtain ⟨hold, hkey⟩ := Table.lookup_eq_some.1 hrun
      simp only [hrun, takeOver, Tx.require_bind_ok, Tx.attempt_ok] at hclaim
      obtain ⟨hpinned, hexpired, hwrite⟩ := hclaim
      split at hwrite
      · next hfresh =>
        exact .again hmem hpending hold hkey hpinned hexpired hfresh (Option.some.inj hwrite).symm
      · simp at hwrite

lemma handled_eq_some {run : RunHandle} {r : RecoveryRun} : handled run s = some r ↔
    r ∈ s.runs ∧ r.key = (run.projectId, run.recoveryRequestId) ∧ r.runId = run.runId := by
  rw [handled, Option.filter_eq_some_iff, Table.lookup_eq_some, and_assoc]
  simp

/-- A heartbeat extends the active lease of a run without a result, up to its deadline. -/
lemma heartbeat_ok {p : Principal} {run : RunHandle} {leaseSeconds : ℤ}
    {clock : RunHeartbeatClock} {a : Option RecoveryRun}
    (h : heartbeat p run leaseSeconds clock s = .ok (a, s')) :
    ∃ r ∈ s.runs, HeldBy run r ∧ r.result = none ∧ clock.leaseChecked < r.leaseExpiresAt ∧
      clock.deadlineChecked < r.deadlineAt ∧
      s' = updateRun r.key
        { set := fun r => { r with
            leaseExpiresAt := min r.deadlineAt (clock.leased + seconds leaseSeconds) } } s := by
  rw [heartbeat, authorizeProject_bind_ok] at h
  simp only [positiveInteger, Tx.require_bind_ok, Tx.demand_bind_ok, Tx.modify_bind_ok,
    Tx.query_ok, Prod.mk.injEq] at h
  obtain ⟨-, -, r, hr, -, rfl⟩ := h
  obtain ⟨hr, hactive⟩ := Option.filter_eq_some_iff.1 hr
  obtain ⟨hmem, -, -⟩ := handled_eq_some.1 hr
  obtain ⟨hheld, hnone, hlease, hdeadline⟩ := of_decide_eq_true hactive
  exact ⟨r, hmem, hheld, hnone, hlease, hdeadline, rfl⟩

/-- What a report of a run that is held found: the same result as before, or no result and an
active lease or a deadline that passed. -/
inductive ReportWrote (x : RunReport) (clock : RunReportClock) (r : RecoveryRun)
    (s s' : RecoveryDb) : Prop
  | again {stored : RunResult} (result : r.result = some stored)
      (same : stored.fingerprint ∈ fingerprints r stored clock.deadlineChecked x) (kept : s' = s)
  | first (none : r.result = none)
      (active : r.deadlineAt ≤ clock.deadlineChecked ∨ clock.leaseChecked < r.leaseExpiresAt)
      (updated : s' = updateRun r.key
        (setResult (settled r clock.deadlineChecked x) clock.reported) s)

lemma report_ok {sensitive : String → Bool} {p : Principal} {run : RunHandle}
    {x : RecoveryResult} {clock : RunReportClock} {a : Option RecoveryRun}
    (h : report sensitive p run x clock s = .ok (a, s')) :
    ∃ y, Validated sensitive x y ∧ ∃ r, handled run s = some r ∧ HeldBy run r ∧
      a = s'.runs.lookup r.key ∧ ReportWrote y clock r s s' := by
  rw [report, authorizeProject_bind_ok, validatedResult_bind_ok] at h
  obtain ⟨-, y, hy, h⟩ := h
  simp only [Tx.demand_bind_ok, Tx.require_bind_ok] at h
  obtain ⟨r, hr, hheld, h⟩ := h
  refine ⟨y, hy, r, hr, hheld, ?_⟩
  cases hresult : r.result with
  | some stored =>
    simp only [hresult, Tx.require_bind_ok, Tx.pure_ok, Prod.mk.injEq] at h
    obtain ⟨hsame, rfl, rfl⟩ := h
    have hmem : r ∈ s'.runs := (handled_eq_some.1 hr).1
    exact ⟨(Table.lookup_mem hmem).symm, .again hresult hsame rfl⟩
  | none =>
    simp only [hresult, Tx.require_bind_ok, Tx.modify_bind_ok, Tx.query_ok, Prod.mk.injEq] at h
    obtain ⟨hactive, rfl, rfl⟩ := h
    exact ⟨rfl, .first hresult hactive rfl⟩

/-- A repeated report of a run that has the same result already. -/
lemma report_again {sensitive : String → Bool} {p : Principal} {run : RunHandle}
    {x : RecoveryResult} {clock : RunReportClock} {y : RunReport} {r : RecoveryRun}
    {stored : RunResult} (hscope : recoveryScope ∈ p.scopes) (hproject : Allowed p run.projectId)
    (hy : Validated sensitive x y) (hr : handled run s = some r) (hheld : HeldBy run r)
    (hresult : r.result = some stored)
    (hsame : stored.fingerprint ∈ fingerprints r stored clock.deadlineChecked y) :
    report sensitive p run x clock s = .ok (some r, s) := by
  rw [report, authorizeProject_bind_ok, validatedResult_bind_ok]
  refine ⟨⟨hscope, hproject⟩, y, hy, ?_⟩
  simp only [Tx.demand_bind_ok, Tx.require_bind_ok]
  refine ⟨r, hr, hheld, ?_⟩
  simp only [hresult, Tx.require_bind_ok, Tx.pure_ok]
  exact ⟨hsame, trivial⟩

/-- The fingerprint of the stored result is one of those that the same report may have stored. -/
lemma fingerprint_settled {r : RecoveryRun} {before now : Time} (hle : before ≤ now)
    {x : RunReport} {stored : RunResult} (hreport : stored.report = settled r before x)
    (hfingerprint : stored.fingerprint = resultFingerprint stored.report) :
    stored.fingerprint ∈ fingerprints r stored now x := by
  rw [hfingerprint, hreport, fingerprints]
  unfold settled at hreport ⊢
  split at hreport
  · next hover => simp [hover]
  · next hover =>
    split at hreport
    · next hlate =>
      have hnow : r.deadlineAt ≤ now := le_trans hlate hle
      simp [hover, hlate, hnow, hreport, timeLimitReport]
    · next hlate => simp [hover, hlate]

end RecoverySupervisorStore

end AgenticMesh
