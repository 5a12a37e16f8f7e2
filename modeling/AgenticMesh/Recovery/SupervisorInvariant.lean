import AgenticMesh.Recovery.SupervisorRuns

/-!
# The invariant of the recovery supervisors

Each request has one incident that waits for its recovery or has its recovery
attempt, and each recovery attempt is that of a reported run.  The invariant is
kept by every transaction, and the runs, the requests and the attempts only
grow.
-/

namespace AgenticMesh

open ReliabilityStore RecoverySupervisorStore

/-! ## The recovery requests -/

/-- The columns of a request that never change. -/
def RecoveryRequest.identity (q : RecoveryRequest) : (String × String) × String × String :=
  (q.key, q.incidentId, q.workItemId)

section Requests

variable {i : FailureIncident} {d : AttemptDraft}
  {before after : Table RecoveryRequest RecoveryRequest.key}

lemma ReliabilityStore.RequestsMoved.kept_identity (h : RequestsMoved i d before after) :
    ∀ q ∈ before, ∃ q' ∈ after, q'.identity = q.identity := by
  intro q hq
  cases h with
  | kept _ _ same => exact ⟨q, same ▸ hq, rfl⟩
  | asked _ _ _ new => exact ⟨q, (Table.mem_of_insert new q).2 (Or.inl hq), rfl⟩
  | resolved _ status updated =>
    rw [updated]
    refine ⟨_, Table.mem_update_of_mem hq, ?_⟩
    split <;> rfl

lemma ReliabilityStore.RequestsMoved.old (h : RequestsMoved i d before after)
    {q' : RecoveryRequest} (hq' : q' ∈ after) : (∃ q ∈ before, q'.identity = q.identity) ∨
      (q' = newRequest i ∧ nextStatus d.stage d.attemptNumber d.outcome = .active .recovery 1) := by
  cases h with
  | kept _ _ same => exact Or.inl ⟨q', same ▸ hq', rfl⟩
  | asked _ next _ new =>
    obtain hq | rfl := (Table.mem_of_insert new q').1 hq'
    · exact Or.inl ⟨q', hq, rfl⟩
    · exact Or.inr ⟨rfl, next⟩
  | resolved _ status updated =>
    rw [updated] at hq'
    obtain ⟨q, hq, -, rfl⟩ | ⟨hq, -⟩ := Table.mem_update_cases hq'
    · exact Or.inl ⟨q, hq, rfl⟩
    · exact Or.inl ⟨q', hq, rfl⟩

/-- There is one request for an incident. -/
lemma ReliabilityStore.RequestsMoved.unique (h : RequestsMoved i d before after)
    (hunique : before.Unique fun q => (q.projectId, q.incidentId)) :
    after.Unique fun q => (q.projectId, q.incidentId) := by
  cases h with
  | kept _ _ same => exact same ▸ hunique
  | asked _ _ first new => exact hunique.insert first new
  | resolved _ status updated =>
    rw [updated]
    exact hunique.update fun _ => rfl

end Requests

/-- What the other calls of the lifecycle and the reliability store leave of the recoveries. -/
structure RecoveryKept (db db' : Db) : Prop where
  requests : db'.recoveryRequests = db.recoveryRequests
  attempts : db'.attempts = db.attempts
  incidents : ∀ i ∈ db.incidents, ∃ i' ∈ db'.incidents, i'.key = i.key ∧
    i'.workItemId = i.workItemId ∧ (i.status = .active .recovery 1 → i'.status = i.status)
  normalized : ∀ i' ∈ db'.incidents, NormalizedIncident i' ∨
    ∃ i ∈ db.incidents, i.key = i'.key ∧ i.workItemId = i'.workItemId

section Kept

variable (sensitive : String → Bool) {db db' : Db}

lemma RecoveryKept.of_eq (hrequests : db'.recoveryRequests = db.recoveryRequests)
    (hattempts : db'.attempts = db.attempts) (hincidents : db'.incidents = db.incidents) :
    RecoveryKept db db' where
  requests := hrequests
  attempts := hattempts
  incidents i hi := ⟨i, hincidents ▸ hi, rfl, rfl, fun _ => rfl⟩
  normalized i hi := Or.inr ⟨i, hincidents ▸ hi, rfl, rfl⟩

/-- An incident that does not wait for its recovery gets another status. -/
lemma RecoveryKept.setIncident {i : FailureIncident} (hi : i ∈ db.incidents)
    {status : IncidentStatus} (hstatus : i.status ≠ .active .recovery 1)
    (hrequests : db'.recoveryRequests = db.recoveryRequests)
    (hattempts : db'.attempts = db.attempts)
    (hincidents : db'.incidents = (db.setIncident i.key status).incidents) :
    RecoveryKept db db' where
  requests := hrequests
  attempts := hattempts
  incidents j hj := by
    rw [hincidents]
    refine ⟨_, Table.mem_update_of_mem hj, ?_⟩
    split
    · next hk =>
      obtain rfl := db.incidents.eq_of_key hj hi hk
      exact ⟨rfl, rfl, fun h => absurd h hstatus⟩
    · exact ⟨rfl, rfl, fun _ => rfl⟩
  normalized j hj := by
    rw [hincidents] at hj
    obtain ⟨k, hk, -, rfl⟩ | ⟨hj, -⟩ := Table.mem_update_cases hj
    · exact Or.inr ⟨k, hk, rfl, rfl⟩
    · exact Or.inr ⟨j, hj, rfl, rfl⟩

/-- No call but `record_attempt` writes the recovery requests or the attempts. -/
lemma chain_kept {e : ChainEvent} (hrecord : ∀ r now, e ≠ .recordAttempt r now)
    (hother : ∀ db', e ≠ .elsewhere db') : RecoveryKept db (e.step sensitive db) := by
  have hsame : RecoveryKept db db := .of_eq rfl rfl rfl
  cases e with
  | createProject p name sponsors =>
    refine Tx.commit_rel (R := RecoveryKept) hsame fun _ db' hok => ?_
    obtain ⟨_, _, rfl, -⟩ := LifecycleStore.createProject_ok hok
    exact .of_eq rfl rfl rfl
  | createWorkItem r =>
    refine Tx.commit_rel (R := RecoveryKept) hsame fun w db' hok => ?_
    obtain ⟨-, -, hins⟩ := LifecycleStore.createWorkItem_ok hok
    obtain ⟨workItems, -, rfl⟩ := Option.map_eq_some_iff.1 hins
    exact .of_eq rfl rfl rfl
  | transitionWorkItem r =>
    refine Tx.commit_rel (R := RecoveryKept) hsame fun _ db' hok => ?_
    obtain ⟨w, hw, reason, hmove⟩ := LifecycleStore.transitionWorkItem_ok hok
    obtain ⟨-, rfl⟩ | ⟨-, -, rfl⟩ | ⟨-, i, hi, -, heligible, evidence, rfl⟩ := hmove
    · exact .of_eq rfl rfl rfl
    · exact .of_eq rfl rfl rfl
    · exact .setIncident hi (by simp [heligible]) rfl rfl rfl
  | openGate r now =>
    refine Tx.commit_rel (R := RecoveryKept) hsame fun _ db' hok => ?_
    obtain ⟨w, hw, -, -, -, -, -, gates, approvals, -, -, rfl⟩ := LifecycleStore.openGate_ok hok
    exact .of_eq rfl rfl rfl
  | decideGate r =>
    refine Tx.commit_rel (R := RecoveryKept) hsame fun _ db' hok => ?_
    obtain ⟨g, -, -, -, -, w, hw, -, -, b, -, -, d, rfl⟩ := LifecycleStore.decideGate_ok hok
    exact .of_eq rfl rfl rfl
  | start r now =>
    refine Tx.commit_rel (R := RecoveryKept) hsame fun _ db' hok => ?_
    obtain rfl | ⟨w, -, -, -, i, -, -, hnormal, incidents, queueItems, hins, rfl⟩ :=
      ReliabilityStore.start_ok hok
    · exact hsame
    · have hmem := Table.mem_of_insert hins
      refine ⟨rfl, rfl, fun j hj => ⟨j, (hmem j).2 (Or.inl hj), rfl, rfl, fun _ => rfl⟩, ?_⟩
      intro j hj
      obtain hj | rfl := (hmem j).1 hj
      · exact Or.inr ⟨j, hj, rfl, rfl⟩
      · exact Or.inl hnormal
  | recordAttempt r now => exact absurd rfl (hrecord r now)
  | elsewhere db' => exact absurd rfl (hother db')

end Kept

/-! ## The attempt of a result -/

/-- A row that `reconcile` may list now or listed before: its run was reported with its result. -/
def RecoveryDb.Lists (s : RecoveryDb) (l : ListedRun) : Prop :=
  l.run.result = some l.result ∧ (∃ r ∈ s.runs, l.run.Becomes r) ∧
    ∃ q ∈ s.db.recoveryRequests, q.identity = (l.run.key, l.incidentId, l.workItemId)

/-- The draft of the attempt of a listed run. -/
def recoveryDraft (l : ListedRun) (actor : String) : AttemptDraft where
  projectId := l.run.projectId
  workItemId := l.workItemId
  incidentId := l.incidentId
  attemptId := l.run.runId
  stage := .recovery
  attemptNumber := 1
  outcome := l.result.report.outcome
  actorId := actor
  correction := none
  evidence := supervisorEvidence l.run.supervisorRun l.result.report

/-- The attempt of a listed run. -/
def AttemptFor (l : ListedRun) (a : FailureAttempt) : Prop :=
  ∃ actor, a = newAttempt (recoveryDraft l actor)

/-- The invariant of the runs, the requests and the attempts. -/
structure SupervisorInv (s : RecoveryDb) : Prop where
  chain : ChainInv s.db
  lease : ∀ r ∈ s.runs, r.leaseExpiresAt ≤ r.deadlineAt
  named : ∀ r ∈ s.runs, r.runId = derivedRunId r.projectId r.recoveryRequestId
  tokens : s.runs.Unique RecoveryRun.leaseToken
  ids : s.runs.Unique fun r => (r.projectId, r.runId)
  requested : ∀ r ∈ s.runs, ∃ q ∈ s.db.recoveryRequests, q.key = r.key
  one_request : s.db.recoveryRequests.Unique fun q => (q.projectId, q.incidentId)
  waiting : ∀ q ∈ s.db.recoveryRequests, ∃ i ∈ s.db.incidents,
    i.key = (q.projectId, q.incidentId) ∧ i.workItemId = q.workItemId ∧
      (i.status = .active .recovery 1 ∨
        ∃ a ∈ s.db.attempts, a.incidentKey = i.key ∧ a.stage = .recovery)
  normalized : ∀ i ∈ s.db.incidents, NormalizedIncident i
  made : ∀ a ∈ s.db.attempts, ∃ d, a = newAttempt d
  supervised : ∀ a ∈ s.db.attempts, a.stage = .recovery → ∃ l, s.Lists l ∧ AttemptFor l a

section Inv

variable {A : RecoveryRun → Prop} {s s' : RecoveryDb}

lemma ChainInv.congr {db db' : Db} (h : ChainInv db) (hwork : db'.workItems = db.workItems)
    (hincidents : db'.incidents = db.incidents) (hattempts : db'.attempts = db.attempts) :
    ChainInv db' :=
  h.of_work hincidents hattempts (fun v hv => ⟨v, hwork ▸ hv, rfl⟩) fun _ hv => Or.inl (hwork ▸ hv)

/-- A row that was listed stays one that may be listed. -/
lemma RecoveryDb.Lists.mono {l : ListedRun} (h : s.Lists l)
    (hruns : ∀ r ∈ s.runs, ∃ r' ∈ s'.runs, r.Becomes r')
    (hrequests : ∀ q ∈ s.db.recoveryRequests, ∃ q' ∈ s'.db.recoveryRequests,
      q'.identity = q.identity) : s'.Lists l := by
  obtain ⟨hresult, ⟨r, hr, hbecomes⟩, q, hq, hidentity⟩ := h
  obtain ⟨r', hr', hbecomes'⟩ := hruns r hr
  obtain ⟨q', hq', hsame⟩ := hrequests q hq
  exact ⟨hresult, ⟨r', hr', hbecomes.trans hbecomes'⟩, q', hq', hsame.trans hidentity⟩

lemma RecoveryRun.Becomes.named {r r' : RecoveryRun} (h : r.Becomes r') :
    (r'.projectId, r'.runId) = (r.projectId, r.runId) := by
  have hproject : r'.projectId = r.projectId := (Prod.mk.inj h.key).1
  rw [hproject, h.runId]

lemma RunsMoved.tokens (h : RunsMoved A s s') (hunique : s.runs.Unique RecoveryRun.leaseToken) :
    s'.runs.Unique RecoveryRun.leaseToken := by
  cases h with
  | same runs => exact runs ▸ hunique
  | claimed _ _ _ _ inserted =>
    obtain ⟨-, hfresh, hins, -⟩ := insertRun_eq_some inserted
    exact hunique.insert (fun r hr => (hfresh r hr).1) hins
  | updated _ _ token _ runs =>
    rw [runs]
    obtain htoken | ⟨k, new, hone, hfresh, hset⟩ := token
    · exact hunique.update_of_mem htoken
    · exact hunique.update_one hone hfresh hset

lemma RunsMoved.ids (h : RunsMoved A s s')
    (hunique : s.runs.Unique fun r => (r.projectId, r.runId)) :
    s'.runs.Unique fun r => (r.projectId, r.runId) := by
  cases h with
  | same runs => exact runs ▸ hunique
  | claimed _ _ _ _ inserted =>
    obtain ⟨-, hfresh, hins, -⟩ := insertRun_eq_some inserted
    exact hunique.insert (fun r hr => (hfresh r hr).2) hins
  | updated becomes _ _ _ runs =>
    rw [runs]
    exact hunique.update_of_mem fun r hr hp => (becomes r hr hp).named

/-- What is fixed by the first claim of a run. -/
lemma SupervisorInv.fixed (hinv : SupervisorInv s) (h : RunsMoved A s s') :
    ∀ r' ∈ s'.runs, r'.leaseExpiresAt ≤ r'.deadlineAt ∧
      r'.runId = derivedRunId r'.projectId r'.recoveryRequestId ∧
      ∃ q ∈ s.db.recoveryRequests, q.key = r'.key := by
  intro r' hr'
  cases h with
  | same runs =>
    have hr : r' ∈ s.runs := runs ▸ hr'
    exact ⟨hinv.lease r' hr, hinv.named r' hr, hinv.requested r' hr⟩
  | claimed mem key named _ inserted =>
    obtain ⟨hle, -, hins, -⟩ := insertRun_eq_some inserted
    obtain hr | rfl := (Table.mem_of_insert hins r').1 hr'
    · exact ⟨hinv.lease r' hr, hinv.named r' hr, hinv.requested r' hr⟩
    · exact ⟨hle, named, _, mem, key.symm⟩
  | @updated p _ f becomes lease _ _ runs =>
    rw [runs] at hr'
    obtain ⟨r, hr, hp, rfl⟩ | ⟨hr, -⟩ := Table.mem_update_cases hr'
    · have hb := becomes r hr hp
      have hkey : ((f.set r).projectId, (f.set r).recoveryRequestId) =
          (r.projectId, r.recoveryRequestId) := hb.key
      obtain ⟨hproject, hrequest⟩ := Prod.mk.inj hkey
      refine ⟨?_, ?_, ?_⟩
      · rw [hb.deadlineAt]
        exact lease r hr hp (hinv.lease r hr)
      · rw [hb.runId, hproject, hrequest]
        exact hinv.named r hr
      · rw [hb.key]
        exact hinv.requested r hr
    · exact ⟨hinv.lease r' hr, hinv.named r' hr, hinv.requested r' hr⟩

/-- The supervisors' own writes keep the invariant. -/
lemma SupervisorInv.moved (hinv : SupervisorInv s) (hdb : s'.db = s.db) (h : RunsMoved A s s') :
    SupervisorInv s' where
  chain := hdb ▸ hinv.chain
  lease r hr := (hinv.fixed h r hr).1
  named r hr := (hinv.fixed h r hr).2.1
  tokens := h.tokens hinv.tokens
  ids := h.ids hinv.ids
  requested r hr := hdb ▸ (hinv.fixed h r hr).2.2
  one_request := hdb ▸ hinv.one_request
  waiting := hdb ▸ hinv.waiting
  normalized := hdb ▸ hinv.normalized
  made := hdb ▸ hinv.made
  supervised a ha hstage := by
    rw [hdb] at ha
    obtain ⟨l, hl, hfor⟩ := hinv.supervised a ha hstage
    exact ⟨l, hl.mono h.becomes fun q hq => ⟨q, hdb ▸ hq, rfl⟩, hfor⟩

/-- The other calls of the lifecycle and the reliability store keep the invariant. -/
lemma SupervisorInv.kept (hinv : SupervisorInv s) {db' : Db} (hchain : ChainInv db')
    (h : RecoveryKept s.db db') : SupervisorInv { s with db := db' } where
  chain := hchain
  lease := hinv.lease
  named := hinv.named
  tokens := hinv.tokens
  ids := hinv.ids
  requested r hr := by
    rw [h.requests]
    exact hinv.requested r hr
  one_request := by
    rw [h.requests]
    exact hinv.one_request
  waiting q hq := by
    rw [h.requests] at hq
    obtain ⟨i, hi, hkey, hwork, hstatus⟩ := hinv.waiting q hq
    obtain ⟨i', hi', hkey', hwork', hkept⟩ := h.incidents i hi
    refine ⟨i', hi', hkey'.trans hkey, hwork'.trans hwork, ?_⟩
    rw [h.attempts, hkey']
    obtain hactive | hdone := hstatus
    · exact Or.inl ((hkept hactive).trans hactive)
    · exact Or.inr hdone
  normalized i' hi' := by
    obtain hnormal | ⟨i, hi, hkey, hwork⟩ := h.normalized i' hi'
    · exact hnormal
    · obtain ⟨hproject, hincident⟩ := Prod.mk.inj hkey
      obtain ⟨hp, hw, hk⟩ := hinv.normalized i hi
      rw [hproject] at hp
      rw [hwork] at hw
      rw [hincident] at hk
      exact ⟨hp, hw, hk⟩
  made := by
    rw [h.attempts]
    exact hinv.made
  supervised a ha hstage := by
    rw [h.attempts] at ha
    obtain ⟨l, hl, hfor⟩ := hinv.supervised a ha hstage
    exact ⟨l, hl.mono (fun r hr => ⟨r, hr, .refl r⟩) fun q hq => ⟨q, by rw [h.requests]; exact hq,
      rfl⟩, hfor⟩

/-- A recovery attempt is the attempt of a run that was reported with its outcome. -/
lemma SupervisorInv.attempt (hinv : SupervisorInv s) {d : AttemptDraft} {w : WorkItem}
    {i : FailureIncident} (hd : NextAttempt d w i s.view) (hstage : d.stage = .recovery) :
    ∃ l, s.Lists l ∧ d = recoveryDraft l d.actorId := by
  obtain ⟨⟨run, y⟩, hfound, hevidence⟩ := hd.supervised hstage
  obtain ⟨run', hfind, hresult⟩ := Option.bind_eq_some_iff.1 hfound
  obtain ⟨y', hsome, hpair⟩ := Option.bind_eq_some_iff.1 hresult
  obtain ⟨rfl, rfl⟩ := Prod.mk.inj (Option.some.inj hpair)
  obtain ⟨hmem, hid, ⟨q, hq, hqkey, hqincident⟩, z, hz, houtcome⟩ := Table.mem_of_find hfind
  obtain rfl : z = y' := Option.some.inj (hz.symm.trans hsome)
  obtain ⟨r, hr, rfl⟩ := List.mem_map.1 hmem
  obtain ⟨x, hx, rfl⟩ := Option.map_eq_some_iff.1 hsome
  obtain ⟨hproject, hrun⟩ := Prod.mk.inj hid
  refine ⟨⟨r, x, q.incidentId, q.workItemId⟩, ⟨hx, ⟨r, hr, .refl r⟩, q, hq, ?_⟩, ?_⟩
  · exact Prod.ext hqkey rfl
  -- the incident of the request is that of the attempt
  obtain ⟨j, hj, hjkey, hjwork, -⟩ := hinv.waiting q hq
  have hqproject : q.projectId = d.projectId := ((Prod.mk.inj hqkey).1).trans hproject
  have hji : j.key = i.key := by
    rw [hjkey, hqproject, hqincident]
    exact hd.key
  obtain rfl := s.db.incidents.eq_of_key hj hd.incident hji
  have hwork : d.workItemId = q.workItemId := hd.workItem.symm.trans hjwork
  have hnumber : d.attemptNumber = 1 := by
    have hpositive := hd.valid.positive
    have hmaximum := hd.valid.maximum
    rw [hstage] at hmaximum
    exact le_antisymm hmaximum hpositive
  have hcorrection : d.correction = none := by
    have hcorrected := hd.valid.corrected
    rw [hstage] at hcorrected
    cases hc : d.correction with
    | none => rfl
    | some c => simp [hc] at hcorrected
  cases d
  simp only [recoveryDraft, AttemptDraft.mk.injEq]
  exact ⟨hproject.symm, hwork, hqincident.symm, hrun.symm, hstage, hnumber, houtcome.symm, trivial,
    hcorrection, hevidence⟩

/-- A recorded attempt keeps the invariant. -/
lemma SupervisorInv.records (hinv : SupervisorInv s) {d : AttemptDraft} {w : WorkItem}
    {i : FailureIncident} (hd : NextAttempt d w i s.view) {db' : Db} (hchain : ChainInv db')
    (hins : s.db.attempts.insert (newAttempt d) = some db'.attempts)
    (hrequests : RequestsMoved i d s.db.recoveryRequests db'.recoveryRequests)
    (hincidents : db'.incidents =
      (s.db.setIncident i.key (nextStatus d.stage d.attemptNumber d.outcome)).incidents) :
    SupervisorInv { s with db := db' } := by
  have hmem := Table.mem_of_insert hins
  have hlists : ∀ l, s.Lists l → RecoveryDb.Lists { s with db := db' } l := fun l hl =>
    hl.mono (fun r hr => ⟨r, hr, .refl r⟩) hrequests.kept_identity
  have hmoved :
      { i with status := nextStatus d.stage d.attemptNumber d.outcome } ∈ db'.incidents := by
    rw [hincidents]
    exact Table.mem_update_of_pos (p := fun j => j.key = i.key) hd.incident rfl
  refine
    { chain := hchain, lease := hinv.lease, named := hinv.named, tokens := hinv.tokens
      ids := hinv.ids, requested := ?_, one_request := hrequests.unique hinv.one_request
      waiting := ?_, normalized := ?_, made := ?_, supervised := ?_ }
  · intro r hr
    obtain ⟨q, hq, hkey⟩ := hinv.requested r hr
    obtain ⟨q', hq', hsame⟩ := hrequests.kept_identity q hq
    exact ⟨q', hq', (Prod.mk.inj hsame).1.trans hkey⟩
  · intro q' hq'
    obtain ⟨q, hq, hsame⟩ | ⟨rfl, hnext⟩ := hrequests.old hq'
    · obtain ⟨hkey, hrest⟩ := Prod.mk.inj hsame
      obtain ⟨hincident, hwork⟩ := Prod.mk.inj hrest
      obtain ⟨j, hj, hjkey, hjwork, hstatus⟩ := hinv.waiting q hq
      rw [(Prod.mk.inj hkey).1, hincident, hwork]
      by_cases hji : j.key = i.key
      · obtain rfl := s.db.incidents.eq_of_key hj hd.incident hji
        refine ⟨_, hmoved, hjkey, hjwork, Or.inr ?_⟩
        obtain hactive | ⟨a, ha, hak, hstage⟩ := hstatus
        · -- the attempt that was waited for
          have hnext := hd.next.symm.trans hactive
          simp only [IncidentStatus.active.injEq] at hnext
          exact ⟨newAttempt d, (hmem _).2 (Or.inr rfl), hd.key, hnext.1⟩
        · exact ⟨a, (hmem a).2 (Or.inl ha), hak, hstage⟩
      · refine ⟨j, ?_, hjkey, hjwork, hstatus.imp id ?_⟩
        · rw [hincidents]
          exact Table.mem_update_of_neg hj hji
        · rintro ⟨a, ha, h⟩
          exact ⟨a, (hmem a).2 (Or.inl ha), h⟩
    · exact ⟨_, hmoved, rfl, rfl, Or.inl hnext⟩
  · intro j hj
    rw [hincidents] at hj
    obtain ⟨k, hk, -, rfl⟩ | ⟨hj, -⟩ := Table.mem_update_cases hj
    · obtain ⟨hp, hw, hi⟩ := hinv.normalized k hk
      exact ⟨hp, hw, hi⟩
    · exact hinv.normalized j hj
  · intro a ha
    obtain ha | rfl := (hmem a).1 ha
    · exact hinv.made a ha
    · exact ⟨d, rfl⟩
  · intro a ha hstage
    obtain ha | rfl := (hmem a).1 ha
    · obtain ⟨l, hl, hfor⟩ := hinv.supervised a ha hstage
      exact ⟨l, hlists l hl, hfor⟩
    · obtain ⟨l, hl, heq⟩ := hinv.attempt hd hstage
      exact ⟨l, hlists l hl, d.actorId, by rw [← heq]⟩

/-- A committed `record_attempt` keeps the invariant. -/
lemma SupervisorInv.attempted (sensitive : String → Bool) (hinv : SupervisorInv s)
    {r : AttemptRequest} {now : Time} {a : ReliabilityStatus} {db' : Db}
    (h : recordAttempt r now s.view = .ok (a, db')) :
    SupervisorInv { s with db := db' } := by
  have hview : ChainInv s.view := hinv.chain.congr rfl rfl rfl
  have hchain := hview.step sensitive (.recordAttempt r now)
  rw [ChainEvent.step, Tx.commit, h] at hchain
  obtain ⟨d, -, ⟨-, -, -, -, rfl⟩ | ⟨w, i, hd, attempts, queueItems, recoveryRequests, hins,
    hrequests, rfl⟩⟩ := recordAttempt_ok h
  · exact hinv.kept hchain (.of_eq rfl rfl rfl)
  · exact hinv.records hd hchain hins hrequests rfl

/-- A call of the lifecycle or the reliability store recorded an attempt or left the recoveries as
they were. -/
lemma chainStep_cases (sensitive : String → Bool) (hchain : ChainInv s.db) (e : ChainEvent) :
    ∃ db', s.chainStep sensitive e = { s with db := db' } ∧
      ((∃ r now a, recordAttempt r now s.view = .ok (a, db')) ∨
        (ChainInv db' ∧ RecoveryKept s.db db')) := by
  have hview : ChainInv s.view := hchain.congr rfl rfl rfl
  have hkept : ∀ e : ChainEvent, (∀ r now, e ≠ .recordAttempt r now) → (∀ db', e ≠ .elsewhere db') →
      ChainInv (e.step sensitive s.view) ∧ RecoveryKept s.db (e.step sensitive s.view) := by
    intro e hrecord hother
    have h : RecoveryKept s.view _ := chain_kept sensitive hrecord hother
    exact ⟨hview.step sensitive e, h.requests, h.attempts, h.incidents, h.normalized⟩
  cases e with
  | elsewhere db' => exact ⟨_, rfl, Or.inr ⟨hchain.congr rfl rfl rfl, .of_eq rfl rfl rfl⟩⟩
  | recordAttempt r now =>
    cases h : recordAttempt r now s.view with
    | error e =>
      refine ⟨s.view, ?_, Or.inr ⟨hview, .of_eq rfl rfl rfl⟩⟩
      simp only [RecoveryDb.chainStep, ChainEvent.step, Tx.commit, h]
    | ok q =>
      obtain ⟨a, db'⟩ := q
      refine ⟨db', ?_, Or.inl ⟨r, now, a, h⟩⟩
      simp only [RecoveryDb.chainStep, ChainEvent.step, Tx.commit, h]
  | createProject p name sponsors => exact ⟨_, rfl, Or.inr (hkept _ (by simp) (by simp))⟩
  | createWorkItem r => exact ⟨_, rfl, Or.inr (hkept _ (by simp) (by simp))⟩
  | transitionWorkItem r => exact ⟨_, rfl, Or.inr (hkept _ (by simp) (by simp))⟩
  | openGate r now => exact ⟨_, rfl, Or.inr (hkept _ (by simp) (by simp))⟩
  | decideGate r => exact ⟨_, rfl, Or.inr (hkept _ (by simp) (by simp))⟩
  | start r now => exact ⟨_, rfl, Or.inr (hkept _ (by simp) (by simp))⟩

lemma SupervisorInv.chainStep (sensitive : String → Bool) (hinv : SupervisorInv s)
    (e : ChainEvent) : SupervisorInv (s.chainStep sensitive e) := by
  obtain ⟨db', hstep, ⟨r, now, a, h⟩ | ⟨hchain, hkept⟩⟩ := chainStep_cases sensitive hinv.chain e
  · rw [hstep]
    exact hinv.attempted sensitive h
  · rw [hstep]
    exact hinv.kept hchain hkept

end Inv

/-! ## The transactions in any order -/

/-- The attempt of a listed run was recorded: an attempt has its identifier and fingerprint. -/
def RecoveryDb.Recorded (s : RecoveryDb) (l : ListedRun) : Prop :=
  ∃ a ∈ s.db.attempts, a.key = (l.run.projectId, l.run.runId) ∧
    ∃ actor, a.requestFingerprint = attemptFingerprint (recoveryDraft l actor)

/-- The invariant of the store, of the calls of `reconcile` and of the rows that they recorded. -/
structure RecoveryInv (s : RecoverySystem) : Prop where
  store : SupervisorInv s.store
  listed : ∀ c ∈ s.calls, ∀ l ∈ c.phase.rows, s.store.Lists l
  ordered : ∀ c ∈ s.calls, c.phase.rows.Pairwise fun l l' => l.rank ≤ l'.rank
  done : ∀ c ∈ s.calls, ∀ l ∈ c.phase.done, l ∈ s.recorded
  recorded : ∀ l ∈ s.recorded, s.store.Lists l ∧ s.store.Recorded l
  applied : ∀ r ∈ s.store.runs, ∀ x, r.result = some x → x.appliedAt.isSome →
    ∃ l ∈ s.recorded, l.run.Becomes r

section System

variable (sensitive : String → Bool) {s : RecoveryDb}

/-- The identifiers of a listed run are normalized. -/
lemma SupervisorInv.normalized_of_lists (hinv : SupervisorInv s) {l : ListedRun}
    (hl : s.Lists l) : identifier l.run.projectId = some l.run.projectId ∧
      identifier l.workItemId = some l.workItemId ∧
      identifier l.incidentId = some l.incidentId ∧
      identifier l.run.runId = some l.run.runId := by
  obtain ⟨-, ⟨r, hr, hbecomes⟩, q, hq, hidentity⟩ := hl
  obtain ⟨hkey, hrest⟩ := Prod.mk.inj hidentity
  obtain ⟨hincident, hwork⟩ := Prod.mk.inj hrest
  obtain ⟨i, hi, hikey, hiwork, -⟩ := hinv.waiting q hq
  obtain ⟨hp, hw, hk⟩ := hinv.normalized i hi
  have hproject : i.projectId = l.run.projectId := (Prod.mk.inj hikey).1.trans (Prod.mk.inj hkey).1
  have hid : i.incidentId = l.incidentId := (Prod.mk.inj hikey).2.trans hincident
  refine ⟨hproject ▸ hp, (hiwork.trans hwork) ▸ hw, hid ▸ hk, ?_⟩
  rw [← hbecomes.runId, hinv.named r hr]
  exact identifier_digestOf (by decide) (by decide) _

/-- `record_attempt` reads the arguments of a listed run as its draft. -/
lemma SupervisorInv.draft (hinv : SupervisorInv s) {l : ListedRun} (hl : s.Lists l)
    {actor : String} {db db' : Db} {d : AttemptDraft}
    (h : attemptDraft (attemptOf l actor) db = .ok (d, db')) :
    ∃ actor, d = recoveryDraft l actor := by
  obtain ⟨hproject, hwork, hincident, hrun⟩ := hinv.normalized_of_lists hl
  simp only [attemptDraft, ReliabilityStore.identifierArg, boundedArg, Tx.demand_bind_ok,
    Tx.require_bind_ok] at h
  obtain ⟨p, hp, w, hw, i, hi, a, ha, actor, -, -, h⟩ := h
  obtain rfl : l.run.projectId = p := Option.some.inj (hproject.symm.trans hp)
  obtain rfl : l.workItemId = w := Option.some.inj (hwork.symm.trans hw)
  obtain rfl : l.incidentId = i := Option.some.inj (hincident.symm.trans hi)
  obtain rfl : l.run.runId = a := Option.some.inj (hrun.symm.trans ha)
  rw [Tx.bind_ok] at h
  obtain ⟨c, db₁, hc, h⟩ := h
  obtain ⟨rfl, hpm, -⟩ := correctionArg_ok hc
  obtain ⟨rfl, -⟩ := Prod.mk.inj (Tx.pure_ok.1 h)
  have hnone : c = none := by
    cases c with
    | none => rfl
    | some c => simp [attemptOf] at hpm
  exact ⟨actor, by rw [hnone]; rfl⟩

/-- Recording a listed row leaves an attempt with its fingerprint. -/
lemma SupervisorInv.recorded (hinv : SupervisorInv s) {l : ListedRun} (hl : s.Lists l)
    {actor : String} {now : Time} {a : ReliabilityStatus} {db' : Db}
    (h : recordAttempt (attemptOf l actor) now s.view = .ok (a, db')) :
    RecoveryDb.Recorded { s with db := db' } l := by
  obtain ⟨d, hdraft, hd⟩ := recordAttempt_ok h
  obtain ⟨actor, rfl⟩ := hinv.draft hl hdraft
  obtain ⟨a, ha, hkey, hfingerprint, rfl⟩ |
    ⟨w, i, -, attempts, queueItems, requests, hins, -, rfl⟩ := hd
  · exact ⟨a, ha, hkey, actor, hfingerprint⟩
  · exact ⟨_, (Table.mem_of_insert hins _).2 (Or.inr rfl), rfl, actor, rfl⟩

/-- The recorded attempts stay. -/
lemma RecoveryDb.Recorded.mono {s s' : RecoveryDb} {l : ListedRun} (h : s.Recorded l)
    (hattempts : ∀ a ∈ s.db.attempts, a ∈ s'.db.attempts) : s'.Recorded l := by
  obtain ⟨a, ha, hrest⟩ := h
  exact ⟨a, hattempts a ha, hrest⟩

/-- The store only grows. -/
structure RecoveryDb.Grows (s s' : RecoveryDb) : Prop where
  runs : ∀ r ∈ s.runs, ∃ r' ∈ s'.runs, r.Becomes r'
  requests : ∀ q ∈ s.db.recoveryRequests, ∃ q' ∈ s'.db.recoveryRequests, q'.identity = q.identity
  attempts : ∀ a ∈ s.db.attempts, a ∈ s'.db.attempts

lemma RecoveryDb.Grows.refl (s : RecoveryDb) : s.Grows s where
  runs r hr := ⟨r, hr, .refl r⟩
  requests q hq := ⟨q, hq, rfl⟩
  attempts _ ha := ha

lemma RecoveryDb.Grows.trans {a b c : RecoveryDb} (hab : a.Grows b) (hbc : b.Grows c) :
    a.Grows c where
  runs r hr := by
    obtain ⟨r', hr', h⟩ := hab.runs r hr
    obtain ⟨r'', hr'', h'⟩ := hbc.runs r' hr'
    exact ⟨r'', hr'', h.trans h'⟩
  requests q hq := by
    obtain ⟨q', hq', h⟩ := hab.requests q hq
    obtain ⟨q'', hq'', h'⟩ := hbc.requests q' hq'
    exact ⟨q'', hq'', h'.trans h⟩
  attempts _ ha := hbc.attempts _ (hab.attempts _ ha)

lemma RunsMoved.grows {A : RecoveryRun → Prop} {s s' : RecoveryDb} (hdb : s'.db = s.db)
    (h : RunsMoved A s s') : s.Grows s' where
  runs := h.becomes
  requests q hq := ⟨q, hdb ▸ hq, rfl⟩
  attempts _ ha := hdb ▸ ha

lemma RecoveryKept.grows {db' : Db} (h : RecoveryKept s.db db') :
    s.Grows { s with db := db' } where
  runs r hr := ⟨r, hr, .refl r⟩
  requests q hq := ⟨q, by rw [h.requests]; exact hq, rfl⟩
  attempts a ha := by
    rw [h.attempts]
    exact ha

lemma recordAttempt_grows {r : AttemptRequest} {now : Time} {a : ReliabilityStatus} {db' : Db}
    (h : recordAttempt r now s.view = .ok (a, db')) : s.Grows { s with db := db' } := by
  obtain ⟨d, -, ⟨-, -, -, -, rfl⟩ | ⟨w, i, hd, attempts, queueItems, recoveryRequests, hins,
    hrequests, rfl⟩⟩ := recordAttempt_ok h
  · exact ⟨fun r hr => ⟨r, hr, .refl r⟩, fun q hq => ⟨q, hq, rfl⟩, fun _ ha => ha⟩
  · exact ⟨fun r hr => ⟨r, hr, .refl r⟩, hrequests.kept_identity,
      fun a ha => (Table.mem_of_insert hins a).2 (Or.inl ha)⟩

lemma chainStep_grows (hinv : SupervisorInv s) (e : ChainEvent) :
    s.Grows (s.chainStep sensitive e) := by
  obtain ⟨db', hstep, ⟨r, now, a, h⟩ | ⟨-, hkept⟩⟩ := chainStep_cases sensitive hinv.chain e
  · rw [hstep]
    exact recordAttempt_grows h
  · rw [hstep]
    exact hkept.grows

end System

section Steps

variable (sensitive : String → Bool) {s : RecoverySystem}

lemma RecoveryInv.start (db : Db) : RecoveryInv (.start db) where
  store :=
    { chain := (ChainInv.withoutWork db).congr rfl rfl rfl
      lease := fun r hr => absurd hr (Table.notMem_empty r)
      named := fun r hr => absurd hr (Table.notMem_empty r)
      tokens := Table.unique_empty
      ids := Table.unique_empty
      requested := fun r hr => absurd hr (Table.notMem_empty r)
      one_request := Table.unique_empty
      waiting := fun q hq => absurd hq (Table.notMem_empty q)
      normalized := fun i hi => absurd hi (Table.notMem_empty i)
      made := fun a ha => absurd ha (Table.notMem_empty a)
      supervised := fun a ha => absurd ha (Table.notMem_empty a) }
  listed c hc := by simp [RecoverySystem.start] at hc
  ordered c hc := by simp [RecoverySystem.start] at hc
  done c hc := by simp [RecoverySystem.start] at hc
  recorded l hl := by simp [RecoverySystem.start] at hl
  applied r hr := absurd hr (Table.notMem_empty r)

/-- The rows of a listing are those of reported runs and their requests. -/
lemma lists_of_unapplied {p : Principal} {t : RecoveryDb} {l : ListedRun}
    (hl : l ∈ unapplied p t) : t.Lists l := by
  rw [unapplied, mem_sortedBy] at hl
  obtain ⟨r, hr, hlisted⟩ := List.mem_filterMap.1 hl
  obtain ⟨x, hx, hlisted⟩ := Option.bind_eq_some_iff.1 hlisted
  obtain ⟨q, hq, hlisted⟩ := Option.bind_eq_some_iff.1 hlisted
  obtain ⟨hqmem, hqkey⟩ := Table.lookup_eq_some.1 hq
  split at hlisted
  · obtain rfl := Option.some.inj hlisted
    exact ⟨hx, ⟨r, hr, .refl r⟩, q, hqmem, Prod.ext hqkey rfl⟩
  · simp at hlisted

/-- A supervisor's own write, which marks only results that were recorded. -/
lemma RecoveryInv.moved (hinv : RecoveryInv s) {t : RecoveryDb} {A : RecoveryRun → Prop}
    (hdb : t.db = s.store.db) (h : RunsMoved A s.store t)
    (hA : ∀ r ∈ s.store.runs, A r → ∃ l ∈ s.recorded, l.run.Becomes r) :
    RecoveryInv { s with store := t } where
  store := hinv.store.moved hdb h
  listed c hc l hl := (hinv.listed c hc l hl).mono (h.grows hdb).runs (h.grows hdb).requests
  ordered := hinv.ordered
  done := hinv.done
  recorded l hl := by
    obtain ⟨hlists, hrecorded⟩ := hinv.recorded l hl
    exact ⟨hlists.mono (h.grows hdb).runs (h.grows hdb).requests,
      hrecorded.mono (h.grows hdb).attempts⟩
  applied r' hr' x hx happlied := by
    cases h with
    | same runs => exact hinv.applied r' (runs ▸ hr') x hx happlied
    | claimed _ _ _ result inserted =>
      obtain ⟨-, -, hins, -⟩ := insertRun_eq_some inserted
      obtain hr | rfl := (Table.mem_of_insert hins r').1 hr'
      · exact hinv.applied r' hr x hx happlied
      · simp [result] at hx
    | @updated p _ f becomes _ _ marked runs =>
      change r' ∈ t.runs at hr'
      rw [runs] at hr'
      obtain ⟨r, hr, hp, rfl⟩ | ⟨hr, -⟩ := Table.mem_update_cases hr'
      · have hold : ∃ l ∈ s.recorded, l.run.Becomes r := by
          obtain hold | hmark := marked r hr hp x hx happlied
          · exact hinv.applied r hr x hold happlied
          · exact hA r hr hmark
        obtain ⟨l, hl, hbecomes⟩ := hold
        exact ⟨l, hl, hbecomes.trans (becomes r hr hp)⟩
      · exact hinv.applied r' hr x hx happlied

/-- A write of the database that leaves the runs alone. -/
lemma RecoveryInv.database (hinv : RecoveryInv s) {db' : Db}
    (hstore : SupervisorInv { s.store with db := db' })
    (hgrows : s.store.Grows { s.store with db := db' }) :
    RecoveryInv { s with store := { s.store with db := db' } } where
  store := hstore
  listed c hc l hl := (hinv.listed c hc l hl).mono hgrows.runs hgrows.requests
  ordered := hinv.ordered
  done := hinv.done
  recorded l hl := by
    obtain ⟨hlists, hrecorded⟩ := hinv.recorded l hl
    exact ⟨hlists.mono hgrows.runs hgrows.requests, hrecorded.mono hgrows.attempts⟩
  applied := hinv.applied

/-- Another row was recorded. -/
lemma RecoveryInv.record (hinv : RecoveryInv s) {l : ListedRun} (hl : s.store.Lists l)
    (hrecorded : s.store.Recorded l) : RecoveryInv { s with recorded := s.recorded ++ [l] } where
  store := hinv.store
  listed := hinv.listed
  ordered := hinv.ordered
  done c hc m hm := List.mem_append_left _ (hinv.done c hc m hm)
  recorded m hm := by
    obtain hm | hm := List.mem_append.1 hm
    · exact hinv.recorded m hm
    · obtain rfl := List.mem_singleton.1 hm
      exact ⟨hl, hrecorded⟩
  applied r hr x hx happlied := by
    obtain ⟨m, hm, hbecomes⟩ := hinv.applied r hr x hx happlied
    exact ⟨m, List.mem_append_left _ hm, hbecomes⟩

/-- The calls changed: the new ones have the rows of listings in their order, and what they did is
recorded. -/
lemma RecoveryInv.goOn (hinv : RecoveryInv s) {calls : List ReconcileCall}
    (hcalls : ∀ c ∈ calls, c ∈ s.calls ∨
      (∀ l ∈ c.phase.rows, s.store.Lists l) ∧
      (c.phase.rows.Pairwise fun l l' => l.rank ≤ l'.rank) ∧
      ∀ l ∈ c.phase.done, l ∈ s.recorded) : RecoveryInv { s with calls } where
  store := hinv.store
  listed c hc := (hcalls c hc).elim (hinv.listed c) fun h => h.1
  ordered c hc := (hcalls c hc).elim (hinv.ordered c) fun h => h.2.1
  done c hc := (hcalls c hc).elim (hinv.done c) fun h => h.2.2
  recorded := hinv.recorded
  applied := hinv.applied

/-- A call records the row it is at, or the error of its attempt ends it. -/
lemma RecoveryInv.recordCall (hinv : RecoveryInv s) (call : ℕ) (now : Time) :
    RecoveryInv (s.step sensitive (.record call now)) := by
  obtain h | ⟨p, passed, l, rest, hcall, ⟨a, db', hok, h⟩ | ⟨e, -, h⟩⟩ :=
    RecoverySystem.record_cases sensitive s call now
  · rw [h]
    exact hinv
  · rw [h]
    have hmem := List.mem_of_getElem? hcall
    have hlists : s.store.Lists l := hinv.listed _ hmem l (by simp [ReconcilePhase.rows])
    have hdatabase := hinv.database (hinv.store.attempted sensitive hok) (recordAttempt_grows hok)
    have hrecorded := hdatabase.record
      (hdatabase.listed _ hmem l (by simp [ReconcilePhase.rows])) (hinv.store.recorded hlists hok)
    refine hrecorded.goOn fun c hc => ?_
    obtain hc | rfl := List.mem_or_eq_of_mem_set hc
    · exact Or.inl hc
    · have hrows := hdatabase.listed _ hmem
      have hordered := hinv.ordered _ hmem
      refine Or.inr ⟨hrows, hordered, fun m hm => ?_⟩
      obtain hm | hm := List.mem_append.1 hm
      · exact List.mem_append_left _ (hinv.done _ hmem m hm)
      · exact List.mem_append_right _ hm
  · rw [h]
    refine hinv.goOn fun c hc => ?_
    obtain hc | rfl := List.mem_or_eq_of_mem_set hc
    · exact Or.inl hc
    · exact Or.inr ⟨by simp [ReconcilePhase.rows], by simp [ReconcilePhase.rows],
        by simp [ReconcilePhase.done]⟩

/-- A call marks the row that it has recorded. -/
lemma RecoveryInv.markCall (hinv : RecoveryInv s) (call : ℕ) (now : Time) :
    RecoveryInv (s.step sensitive (.markApplied call now)) := by
  obtain h | ⟨p, passed, l, rest, hcall, h⟩ :=
    RecoverySystem.markApplied_cases sensitive s call now
  · rw [h]
    exact hinv
  · rw [h]
    have hmem := List.mem_of_getElem? hcall
    have hl : l ∈ s.recorded := hinv.done _ hmem l (by simp [ReconcilePhase.done])
    have hof : ∀ r ∈ s.store.runs, Unapplied l r → ∃ l ∈ s.recorded, l.run.Becomes r := by
      intro r hr hunapplied
      obtain ⟨-, ⟨r₀, hr₀, hbecomes⟩, -⟩ := (hinv.recorded l hl).1
      have hkey : r₀.key = r.key := hbecomes.key.trans (Prod.mk.inj hunapplied.1).1.symm
      obtain rfl := s.store.runs.eq_of_key hr₀ hr hkey
      exact ⟨l, hl, hbecomes⟩
    have hmoved := markApplied_moved (s := s.store) l now
    have hmarked := hinv.moved (t := markApplied l now s.store) rfl hmoved hof
    refine hmarked.goOn fun c hc => ?_
    obtain hc | rfl := List.mem_or_eq_of_mem_set hc
    · exact Or.inl hc
    · -- the row moves from the rows that are left to those that were passed
      have hrows : (ReconcilePhase.recording (passed ++ [l]) rest).rows =
          (ReconcilePhase.marking passed l rest).rows := by simp [ReconcilePhase.rows]
      have hdone := hinv.done _ hmem
      refine Or.inr ⟨?_, ?_, hdone⟩
      · rw [hrows]
        exact hmarked.listed _ hmem
      · rw [hrows]
        exact hinv.ordered _ hmem

lemma RecoveryInv.step (hinv : RecoveryInv s) (e : RecoveryEvent) :
    RecoveryInv (s.step sensitive e) := by
  have hnone : ∀ r ∈ s.store.runs, False → ∃ l ∈ s.recorded, l.run.Becomes r :=
    fun _ _ h => h.elim
  cases e with
  | claim r choice token clock =>
    obtain ⟨hdb, hmoved⟩ := claim_moved (A := fun _ => False) r choice token clock
    exact hinv.moved hdb hmoved hnone
  | heartbeat p run leaseSeconds clock =>
    obtain ⟨hdb, hmoved⟩ := heartbeat_moved (A := fun _ => False) p run leaseSeconds clock
    exact hinv.moved hdb hmoved hnone
  | report p run x clock =>
    obtain ⟨hdb, hmoved⟩ := report_moved (A := fun _ => False) sensitive p run x clock
    exact hinv.moved hdb hmoved hnone
  | expire p locked checked reported =>
    obtain h | ⟨store, hok, h⟩ := RecoverySystem.expire_cases sensitive s p locked checked reported
    · rw [h]
      exact hinv
    · obtain ⟨hdb, hmoved⟩ :=
        expireDeadlines_moved (s := s.store) (A := fun _ => False) p locked checked reported
      rw [Tx.commit_of_ok hok] at hdb hmoved
      rw [h]
      refine (hinv.moved hdb hmoved hnone).goOn fun c hc => ?_
      obtain hc | hc := List.mem_append.1 hc
      · exact Or.inl hc
      · obtain rfl := List.mem_singleton.1 hc
        exact Or.inr ⟨by simp [ReconcilePhase.rows], by simp [ReconcilePhase.rows],
          by simp [ReconcilePhase.done]⟩
  | list call =>
    obtain h | ⟨p, -, h⟩ := RecoverySystem.list_cases sensitive s call
    · rw [h]
      exact hinv
    · rw [h]
      refine hinv.goOn fun c hc => ?_
      obtain hc | rfl := List.mem_or_eq_of_mem_set hc
      · exact Or.inl hc
      · exact Or.inr ⟨fun l hl => lists_of_unapplied hl, pairwise_sortedBy _,
          by simp [ReconcilePhase.done]⟩
  | record call now => exact hinv.recordCall sensitive call now
  | markApplied call now => exact hinv.markCall sensitive call now
  | chain e =>
    obtain ⟨db', hstep, -⟩ := chainStep_cases sensitive hinv.store.chain e
    have hstore := hinv.store.chainStep sensitive e
    have hgrows := chainStep_grows sensitive hinv.store e
    rw [RecoverySystem.step, hstep]
    rw [hstep] at hstore hgrows
    exact hinv.database hstore hgrows

lemma RecoveryInv.run (db : Db) (es : List RecoveryEvent) :
    RecoveryInv (run (RecoverySystem.step sensitive) (.start db) es) :=
  invariant_run (fun _ e hinv => hinv.step sensitive e) (.start db) es

end Steps

end AgenticMesh
