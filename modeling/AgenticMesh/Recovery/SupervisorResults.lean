import AgenticMesh.Recovery.SupervisorInvariant

/-!
# The results of the recovery supervisors

A run gets one result and the result becomes one recovery attempt: `reconcile`
records the attempt under the identifier of the run, and the reliability store
accepts no recovery attempt but the one that a reported run stands for.  A call
of `reconcile` goes through its listing in the order of the reports, and ends at
the first row that the reliability store refuses.
-/

namespace AgenticMesh

open ReliabilityStore RecoverySupervisorStore

/-! ## Results -/

section Results

variable (sensitive : String → Bool) {s : RecoverySystem}

lemma step_grows (hinv : RecoveryInv s) (e : RecoveryEvent) :
    s.store.Grows (s.step sensitive e).store := by
  have hmoved : ∀ {t : RecoveryDb} {A : RecoveryRun → Prop},
      t.db = s.store.db ∧ RunsMoved A s.store t → s.store.Grows t := fun h => h.2.grows h.1
  cases e with
  | claim r choice token clock => exact hmoved (claim_moved (A := fun _ => False) _ _ _ _)
  | heartbeat p run leaseSeconds clock =>
    exact hmoved (heartbeat_moved (A := fun _ => False) _ _ _ _)
  | report p run x clock => exact hmoved (report_moved (A := fun _ => False) _ _ _ _ _)
  | expire p locked checked reported =>
    obtain h | ⟨store, hok, h⟩ := RecoverySystem.expire_cases sensitive s p locked checked reported
    · rw [h]
      exact .refl _
    · have hgrown := hmoved
        (expireDeadlines_moved (s := s.store) (A := fun _ => False) p locked checked reported)
      rw [Tx.commit_of_ok hok] at hgrown
      rw [h]
      exact hgrown
  | list call =>
    obtain h | ⟨p, -, h⟩ := RecoverySystem.list_cases sensitive s call
    · rw [h]
      exact .refl _
    · rw [h]
      exact .refl _
  | record call now =>
    obtain h | ⟨p, passed, l, rest, -, ⟨a, db', hok, h⟩ | ⟨e, -, h⟩⟩ :=
      RecoverySystem.record_cases sensitive s call now
    · rw [h]
      exact .refl _
    · rw [h]
      exact recordAttempt_grows hok
    · rw [h]
      exact .refl _
  | markApplied call now =>
    obtain h | ⟨p, passed, l, rest, -, h⟩ :=
      RecoverySystem.markApplied_cases sensitive s call now
    · rw [h]
      exact .refl _
    · rw [h]
      exact (markApplied_moved l now).grows rfl
  | chain e => exact chainStep_grows sensitive hinv.store e

lemma run_grows (hinv : RecoveryInv s) (es : List RecoveryEvent) :
    s.store.Grows (run (RecoverySystem.step sensitive) s es).store :=
  rel_run (R := fun a b : RecoverySystem => a.store.Grows b.store) (fun _ => .refl _)
    (fun _ _ _ => .trans) (fun _ e h => h.step sensitive e) (fun _ e h => step_grows sensitive h e)
    hinv es

/-- How a run gets its result: from its holder, or by `reconcile` after its deadline. -/
inductive ResultSet (sensitive : String → Bool) (r : RecoveryRun) (x : RunResult) :
    RecoveryEvent → Prop
  | reported {p : Principal} {run : RunHandle} {y : RecoveryResult} {clock : RunReportClock}
      {report : RunReport} (key : r.key = (run.projectId, run.recoveryRequestId))
      (runId : r.runId = run.runId) (held : HeldBy run r) (valid : Validated sensitive y report)
      (active : r.deadlineAt ≤ clock.deadlineChecked ∨ clock.leaseChecked < r.leaseExpiresAt)
      (settled : x.report = settled r clock.deadlineChecked report)
      (failed : r.deadlineAt ≤ clock.deadlineChecked ∨ r.usageLimit < report.usageUsed →
        x.report.outcome = .failed) :
      ResultSet sensitive r x (.report p run y clock)
  | expired {p : Principal} {locked : List (String × String)}
      {checked reported : String × String → Time} (late : r.deadlineAt ≤ checked r.key)
      (report : x.report = timeLimitReport r.runId 0) :
      ResultSet sensitive r x (.expire p locked checked reported)

/-- A result past the deadline or over the usage limit is a failure. -/
lemma settled_failed {r : RecoveryRun} {now : Time} {x : RunReport}
    (h : r.deadlineAt ≤ now ∨ r.usageLimit < x.usageUsed) :
    (settled r now x).outcome = .failed := by
  unfold settled
  split
  · rfl
  · next hover =>
    rw [if_pos (h.resolve_right hover)]
    rfl

/-- A run without a result keeps none, unless its holder reports one or its deadline passed. -/
lemma result_set {e : RecoveryEvent} {r r' : RecoveryRun} (hr : r ∈ s.store.runs)
    (hnone : r.result = none) (hr' : r' ∈ (s.step sensitive e).store.runs) (hkey : r'.key = r.key)
    {x : RunResult} (hx : r'.result = some x) : ResultSet sensitive r x e := by
  have hsame : r' ∉ s.store.runs := by
    intro h
    rw [s.store.runs.eq_of_key h hr hkey, hnone] at hx
    simp at hx
  have hupdate : ∀ {p : RecoveryRun → Prop} [DecidablePred p] {f : Table.Assign RecoveryRun.key},
      r' ∈ s.store.runs.update p f → p r ∧ r' = f.set r := by
    intro p _ f hmem
    have heq := Table.eq_of_mem_update hr hmem hkey
    by_cases hp : p r
    · rw [if_pos hp] at heq
      exact ⟨hp, heq⟩
    · rw [if_neg hp] at heq
      exact absurd (heq ▸ hr) hsame
  cases e with
  | claim c choice token clock =>
    refine Tx.commit_of (P := fun b : RecoveryDb => r' ∈ b.runs → ResultSet sensitive r x _)
      (fun h => absurd h hsame) (fun a t hok hmem => ?_) hr'
    obtain rfl | hwrote := claim_ok hok
    · exact absurd hmem hsame
    · cases hwrote with
      | first _ _ _ inserted =>
        obtain ⟨-, -, hins, -⟩ := insertRun_eq_some inserted
        obtain h | rfl := (Table.mem_of_insert hins r').1 hmem
        · exact absurd h hsame
        · simp [newRun] at hx
      | again _ _ _ _ _ _ _ updated =>
        subst updated
        obtain ⟨-, rfl⟩ := hupdate hmem
        exact absurd (hnone.symm.trans hx) (by simp)
  | heartbeat p run leaseSeconds clock =>
    refine Tx.commit_of (P := fun b : RecoveryDb => r' ∈ b.runs → ResultSet sensitive r x _)
      (fun h => absurd h hsame) (fun a t hok hmem => ?_) hr'
    obtain ⟨_, -, -, -, -, -, rfl⟩ := heartbeat_ok hok
    obtain ⟨-, rfl⟩ := hupdate hmem
    exact absurd (hnone.symm.trans hx) (by simp)
  | report p run y clock =>
    refine Tx.commit_of (P := fun b : RecoveryDb => r' ∈ b.runs → ResultSet sensitive r x _)
      (fun h => absurd h hsame) (fun a t hok hmem => ?_) hr'
    obtain ⟨z, hvalid, r₀, hhandled, hheld, -, hwrote⟩ := report_ok hok
    obtain ⟨hr₀, hkey₀, hid₀⟩ := handled_eq_some.1 hhandled
    cases hwrote with
    | again _ _ kept => exact absurd (kept ▸ hmem) hsame
    | first _ active updated =>
      subst updated
      obtain ⟨hp, rfl⟩ := hupdate hmem
      obtain rfl := s.store.runs.eq_of_key hr hr₀ hp
      obtain rfl := Option.some.inj hx
      exact .reported hkey₀ hid₀ hheld hvalid active rfl settled_failed
  | expire p locked checked reported =>
    obtain h | ⟨store, hok, h⟩ := RecoverySystem.expire_cases sensitive s p locked checked reported
    · exact absurd (h ▸ hr') hsame
    · rw [h] at hr'
      rw [expireDeadlines, authorizeScope, Tx.require_bind_ok, Tx.modify_ok] at hok
      obtain ⟨-, hstore⟩ := hok
      obtain rfl : store = _ := hstore
      obtain ⟨hp, rfl⟩ := hupdate hr'
      obtain rfl := Option.some.inj hx
      exact .expired hp.2.1 rfl
  | list call =>
    obtain h | ⟨p, -, h⟩ := RecoverySystem.list_cases sensitive s call
    · exact absurd (h ▸ hr') hsame
    · rw [h] at hr'
      exact absurd hr' hsame
  | record call now =>
    obtain h | ⟨p, passed, l, rest, -, ⟨a, db', hok, h⟩ | ⟨e, -, h⟩⟩ :=
      RecoverySystem.record_cases sensitive s call now
    · exact absurd (h ▸ hr') hsame
    · rw [h] at hr'
      exact absurd hr' hsame
    · rw [h] at hr'
      exact absurd hr' hsame
  | markApplied call now =>
    obtain h | ⟨p, passed, l, rest, -, h⟩ :=
      RecoverySystem.markApplied_cases sensitive s call now
    · exact absurd (h ▸ hr') hsame
    · rw [h] at hr'
      obtain ⟨⟨-, y, hy, -⟩, -⟩ := hupdate hr'
      exact absurd (hnone.symm.trans hy) (by simp)
  | chain e =>
    rw [RecoverySystem.step] at hr'
    cases e <;> exact absurd hr' hsame

/-- The fingerprints that a repeated report is checked against stay those of the first. -/
lemma fingerprints_mono {r r' : RecoveryRun} (h : r.Becomes r') {stored : RunResult}
    (applied : Option Time) {before now : Time} (hle : before ≤ now) {x : RunReport} {f : String}
    (hf : f ∈ fingerprints r stored before x) :
    f ∈ fingerprints r' { stored with appliedAt := applied } now x := by
  simp only [fingerprints, h.usageLimit, h.runId, h.deadlineAt, List.mem_cons,
    List.mem_append] at hf ⊢
  refine hf.imp id (Or.imp id fun hlate => ?_)
  split at hlate
  · next hdeadline =>
    rw [if_pos (le_trans hdeadline hle)]
    exact hlate
  · simp at hlate

/-- The same report of the same holder returns the stored result, however late it comes. -/
lemma report_repeated (hinv : RecoveryInv s) {p : Principal} {run : RunHandle}
    {y : RecoveryResult} {clock later : RunReportClock} {a : Option RecoveryRun} {t : RecoveryDb}
    (h : report sensitive p run y clock s.store = .ok (a, t)) (es : List RecoveryEvent)
    (hle : clock.deadlineChecked ≤ later.deadlineChecked) :
    let u := (AgenticMesh.run (RecoverySystem.step sensitive)
      (s.step sensitive (.report p run y clock)) es).store
    ∃ r x, a = some r ∧ r.result = some x ∧ ∃ r' ∈ u.runs, r.Becomes r' ∧
      report sensitive p run y later u = .ok (some r', u) := by
  intro u
  have hcommit : (s.step sensitive (.report p run y clock)).store = t := Tx.commit_of_ok h
  have hgrows : t.Grows u := by
    have hrun := run_grows sensitive (hinv.step sensitive (.report p run y clock)) es
    rwa [hcommit] at hrun
  have hscope : recoveryScope ∈ p.scopes ∧ Allowed p run.projectId := by
    rw [report, authorizeProject_bind_ok] at h
    exact h.1
  obtain ⟨z, hz, r₀, hhandled, hheld, rfl, hwrote⟩ := report_ok h
  obtain ⟨hr₀, hkey₀, hid₀⟩ := handled_eq_some.1 hhandled
  -- the row after the first report
  have hstored : ∃ r x, r ∈ t.runs ∧ r.key = r₀.key ∧ r.runId = r₀.runId ∧ HeldBy run r ∧
      r.result = some x ∧ x.fingerprint ∈ fingerprints r x later.deadlineChecked z := by
    cases hwrote with
    | @again stored result same kept =>
      subst kept
      exact ⟨r₀, stored, hr₀, rfl, rfl, hheld, result,
        fingerprints_mono (.refl r₀) stored.appliedAt hle same⟩
    | first none active updated =>
      subst updated
      have hwritten := Table.mem_update_of_pos (p := fun r => r.key = r₀.key)
        (f := setResult (settled r₀ clock.deadlineChecked z) clock.reported) hr₀ rfl
      refine ⟨_, _, hwritten, rfl, rfl, hheld, rfl, ?_⟩
      exact fingerprint_settled (r := r₀) hle rfl rfl
  obtain ⟨r, x, hr, hkey, hid, hheld, hx, hsame⟩ := hstored
  obtain ⟨r', hr', hbecomes⟩ := hgrows.runs r hr
  obtain ⟨applied, hx', -⟩ := hbecomes.result x hx
  have hlookup : t.runs.lookup r₀.key = some r := Table.lookup_eq_some.2 ⟨hr, hkey⟩
  refine ⟨r, x, hlookup, hx, r', hr', hbecomes, ?_⟩
  refine report_again hscope.1 hscope.2 hz (handled_eq_some.2 ⟨hr', ?_, ?_⟩) ?_ hx' ?_
  · exact hbecomes.key.trans (hkey.trans hkey₀)
  · exact hbecomes.runId.trans (hid.trans hid₀)
  · exact (hbecomes.holder (by rw [hx]; rfl)).trans hheld
  · exact fingerprints_mono hbecomes _ le_rfl hsame

end Results
/-! ## One attempt for each result -/

/-- The recovery attempt of a run with its stored result. -/
structure Applies (r : RecoveryRun) (x : RunResult) (a : FailureAttempt) : Prop where
  key : a.key = (r.projectId, r.runId)
  stage : a.stage = .recovery
  outcome : a.outcome = x.report.outcome
  evidence : a.evidence = supervisorEvidence r.supervisorRun x.report

/-- An attempt of another stage took the identifier of a run, and the text of its request has the
same digest as that of the attempt of the run. -/
def Collides (s : RecoveryDb) (r : RecoveryRun) : Prop :=
  ∃ d, newAttempt d ∈ s.db.attempts ∧ (newAttempt d).key = (r.projectId, r.runId) ∧
    d.stage ≠ .recovery ∧ ∃ l actor, l.run.Becomes r ∧
      attemptFingerprint d = attemptFingerprint (recoveryDraft l actor)

section Attempts

variable {s : RecoveryDb}

/-- A listed row is determined by the identifier of its run, apart from what is not recorded. -/
lemma SupervisorInv.draft_congr (hinv : SupervisorInv s) {l l' : ListedRun} (hl : s.Lists l)
    (hl' : s.Lists l')
    (hid : (l.run.projectId, l.run.runId) = (l'.run.projectId, l'.run.runId)) (actor : String) :
    recoveryDraft l actor = recoveryDraft l' actor := by
  obtain ⟨hresult, ⟨r, hr, hb⟩, q, hq, hidentity⟩ := hl
  obtain ⟨hresult', ⟨r', hr', hb'⟩, q', hq', hidentity'⟩ := hl'
  obtain rfl := hinv.ids r hr r' hr' (hb.named.trans (hid.trans hb'.named.symm))
  obtain ⟨hqkey, hqrest⟩ := Prod.mk.inj hidentity
  obtain ⟨hqkey', hqrest'⟩ := Prod.mk.inj hidentity'
  have hkey : l.run.key = l'.run.key := hb.key.symm.trans hb'.key
  obtain rfl := s.db.recoveryRequests.eq_of_key hq hq' (hqkey.trans (hkey.trans hqkey'.symm))
  obtain ⟨hincident, hwork⟩ := Prod.mk.inj (hqrest.symm.trans hqrest')
  obtain ⟨t, ht, -⟩ := hb.result _ hresult
  obtain ⟨t', ht', -⟩ := hb'.result _ hresult'
  have hreport : l.result.report = l'.result.report := by
    have heq := Option.some.inj (ht.symm.trans ht')
    simp only [RunResult.mk.injEq] at heq
    exact heq.1
  obtain ⟨hproject, hrun⟩ := Prod.mk.inj hid
  have husage : l.run.usageLimit = l'.run.usageLimit := hb.usageLimit.symm.trans hb'.usageLimit
  have hreference : l.run.toolProfileReference = l'.run.toolProfileReference :=
    hb.toolProfileReference.symm.trans hb'.toolProfileReference
  have hdigest : l.run.toolProfileDigest = l'.run.toolProfileDigest :=
    hb.toolProfileDigest.symm.trans hb'.toolProfileDigest
  simp only [recoveryDraft, supervisorEvidence, RecoveryRun.supervisorRun, hproject, hrun,
    hincident, hwork, hreport, husage, hreference, hdigest]

lemma AttemptFor.applies {l : ListedRun} {a : FailureAttempt} (h : AttemptFor l a)
    {r : RecoveryRun} (hb : l.run.Becomes r) {x : RunResult} (hx : x.report = l.result.report) :
    Applies r x a := by
  obtain ⟨actor, rfl⟩ := h
  refine ⟨hb.named.symm, rfl, by rw [hx]; rfl, ?_⟩
  simp only [newAttempt, recoveryDraft, supervisorEvidence, RecoveryRun.supervisorRun, hx, hb.runId,
    hb.usageLimit, hb.toolProfileReference, hb.toolProfileDigest]

/-- Every recovery attempt is the attempt of a run with its stored result. -/
lemma SupervisorInv.applies (hinv : SupervisorInv s) {a : FailureAttempt}
    (ha : a ∈ s.db.attempts) (hstage : a.stage = .recovery) :
    ∃ r ∈ s.runs, ∃ x, r.result = some x ∧ Applies r x a := by
  obtain ⟨l, ⟨hresult, ⟨r, hr, hb⟩, -⟩, hfor⟩ := hinv.supervised a ha hstage
  obtain ⟨t, ht, -⟩ := hb.result _ hresult
  exact ⟨r, hr, _, ht, hfor.applies hb rfl⟩

/-- An incident has one recovery attempt. -/
lemma SupervisorInv.one_attempt (hinv : SupervisorInv s) {a b : FailureAttempt}
    (ha : a ∈ s.db.attempts) (hb : b ∈ s.db.attempts) (hastage : a.stage = .recovery)
    (hbstage : b.stage = .recovery) (hincident : a.incidentKey = b.incidentKey) : a = b := by
  obtain ⟨l, hl, actor, rfl⟩ := hinv.supervised a ha hastage
  obtain ⟨l', hl', actor', rfl⟩ := hinv.supervised b hb hbstage
  obtain ⟨-, ⟨r, hr, hb⟩, q, hq, hidentity⟩ := hl
  obtain ⟨-, ⟨r', hr', hb'⟩, q', hq', hidentity'⟩ := hl'
  obtain ⟨hqkey, hqrest⟩ := Prod.mk.inj hidentity
  obtain ⟨hqkey', hqrest'⟩ := Prod.mk.inj hidentity'
  have hproject : q.projectId = l.run.projectId := (Prod.mk.inj hqkey).1
  have hproject' : q'.projectId = l'.run.projectId := (Prod.mk.inj hqkey').1
  obtain ⟨hp, hi⟩ := Prod.mk.inj hincident
  have hone : (q.projectId, q.incidentId) = (q'.projectId, q'.incidentId) :=
    Prod.ext (hproject.trans (hp.trans hproject'.symm))
      ((Prod.mk.inj hqrest).1.trans (hi.trans (Prod.mk.inj hqrest').1.symm))
  obtain rfl := hinv.one_request q hq q' hq' hone
  obtain rfl := s.runs.eq_of_key hr hr'
    (hb.key.trans (hqkey.symm.trans (hqkey'.trans hb'.key.symm)))
  exact s.db.attempts.eq_of_key ha ‹_› (hb.named.symm.trans hb'.named)

/-- A recorded run has exactly one attempt, which has the stored result. -/
lemma SupervisorInv.exactly_one (hinv : SupervisorInv s) {l : ListedRun}
    (hrecorded : s.Recorded l) {r : RecoveryRun} (hr : r ∈ s.runs) (hb : l.run.Becomes r)
    {x : RunResult} (hx : r.result = some x) :
    (∃! a, a ∈ s.db.attempts ∧ Applies r x a) ∨ Collides s r := by
  obtain ⟨a, ha, hkey, actor, hfingerprint⟩ := hrecorded
  have hkey' : a.key = (r.projectId, r.runId) := hkey.trans hb.named.symm
  obtain ⟨d, rfl⟩ := hinv.made a ha
  by_cases hstage : d.stage = .recovery
  · left
    obtain ⟨r', hr', x', hx', happlies⟩ := hinv.applies ha hstage
    obtain rfl := hinv.ids r hr r' hr' (hkey'.symm.trans happlies.key)
    obtain rfl := Option.some.inj (hx.symm.trans hx')
    exact ⟨_, ⟨ha, happlies⟩, fun b hb => s.db.attempts.eq_of_key hb.1 ha
      (hb.2.key.trans happlies.key.symm)⟩
  · exact Or.inr ⟨d, ha, hkey', hstage, l, actor, hb, hfingerprint⟩

/-- What the attempt of a listed run depends on besides the run: an actor, an identifier that no
attempt of another stage took and, unless it was recorded before, active work and, after a success,
the route by which the owner resumes the work. -/
structure Recordable (s : RecoveryDb) (l : ListedRun) (actor : String) (now : Time) : Prop where
  actor : (AgenticMesh.bounded 512 actor).isSome
  free : ∀ a ∈ s.db.attempts, a.key = (l.run.projectId, l.run.runId) → a.stage = .recovery
  ready : (∃ a ∈ s.db.attempts, a.key = (l.run.projectId, l.run.runId)) ∨
    (∃ w ∈ s.db.workItems, w.key = (l.run.projectId, l.workItemId) ∧ w.status = .active) ∧
      (l.result.report.outcome = .succeeded → ∀ i ∈ s.db.incidents,
        i.key = (l.run.projectId, l.incidentId) → ∀ recoveryRequests attempts,
          ∃ item, route i i.ownerRoleId .recovery 1 true now
            { s.view with recoveryRequests, attempts } = .ok item)

/-- The attempt of a listed run was not recorded, and its work is not active. -/
structure Refused (s : RecoveryDb) (l : ListedRun) : Prop where
  work : ∀ w ∈ s.db.workItems, w.key = (l.run.projectId, l.workItemId) → w.status ≠ .active
  attempts : ∀ a ∈ s.db.attempts, a.key ≠ (l.run.projectId, l.run.runId)

/-- The reliability store records no attempt for work that is not active. -/
lemma SupervisorInv.refuses (hinv : SupervisorInv s) {l : ListedRun} (hl : s.Lists l)
    (h : Refused s l) (actor : String) (now : Time) (a : ReliabilityStatus) (db : Db) :
    recordAttempt (attemptOf l actor) now s.view ≠ .ok (a, db) := by
  intro hok
  obtain ⟨d, hdraft, hd⟩ := recordAttempt_ok hok
  obtain ⟨actor, rfl⟩ := hinv.draft hl hdraft
  obtain ⟨b, hb, hkey, -⟩ | ⟨w, i, hnext, -⟩ := hd
  · exact h.attempts b hb hkey
  · have howner : (i.projectId, i.workItemId) = (w.projectId, w.workItemId) := hnext.owner
    have hincident : (l.run.projectId, l.incidentId) = (i.projectId, i.incidentId) := hnext.key
    have hwork : (w.projectId, w.workItemId) = (l.run.projectId, l.workItemId) := by
      rw [← howner, (Prod.mk.inj hincident).1, hnext.workItem]
      rfl
    exact h.work w hnext.work hwork hnext.active

/-- The incident of a listed run. -/
lemma SupervisorInv.incident (hinv : SupervisorInv s) {l : ListedRun} (hl : s.Lists l) :
    ∃ i ∈ s.db.incidents, i.key = (l.run.projectId, l.incidentId) ∧ i.workItemId = l.workItemId ∧
      (i.status = .active .recovery 1 ∨
        ∃ a ∈ s.db.attempts, a.stage = .recovery ∧ a.key = (l.run.projectId, l.run.runId)) := by
  obtain ⟨-, ⟨r, hr, hb⟩, q, hq, hidentity⟩ := hl
  obtain ⟨hqkey, hqrest⟩ := Prod.mk.inj hidentity
  obtain ⟨hqincident, hqwork⟩ := Prod.mk.inj hqrest
  have hproject : q.projectId = l.run.projectId := (Prod.mk.inj hqkey).1
  obtain ⟨i, hi, hkey, hwork, hstatus⟩ := hinv.waiting q hq
  refine ⟨i, hi, by rw [hkey, hproject, hqincident], hwork.trans hqwork, hstatus.imp id ?_⟩
  rintro ⟨a, ha, hak, hstage⟩
  refine ⟨a, ha, hstage, ?_⟩
  -- the attempt belongs to the run of the same request
  obtain ⟨l', hl', actor, rfl⟩ := hinv.supervised a ha hstage
  obtain ⟨-, ⟨r', hr', hb'⟩, q', hq', hidentity'⟩ := hl'
  obtain ⟨hqkey', hqrest'⟩ := Prod.mk.inj hidentity'
  have hproject' : q'.projectId = l'.run.projectId := (Prod.mk.inj hqkey').1
  have hone : (q.projectId, q.incidentId) = (q'.projectId, q'.incidentId) := by
    rw [← hkey, ← hak, hproject', (Prod.mk.inj hqrest').1]
    rfl
  obtain rfl := hinv.one_request q hq q' hq' hone
  obtain rfl := s.runs.eq_of_key hr hr'
    (hb.key.trans (hqkey.symm.trans (hqkey'.trans hb'.key.symm)))
  exact hb'.named.symm.trans hb.named

lemma statusIn_of_mem {db : Db} {i : FailureIncident} (hi : i ∈ db.incidents) :
    ∃ a, statusIn i.projectId i.incidentId db = .ok (a, db) := by
  have hlookup : db.incidents.lookup (i.projectId, i.incidentId) = some i :=
    Table.lookup_mem hi
  obtain ⟨a, ha⟩ : ∃ a, db.reliabilityStatus i.projectId i.incidentId = some a := by
    rw [Db.reliabilityStatus, hlookup]
    exact ⟨_, rfl⟩
  exact ⟨a, Tx.demand_of_some ha⟩

/-- The stored result of a listed run is the one that its draft stands for. -/
lemma SupervisorInv.supervisorResult (hinv : SupervisorInv s) {l : ListedRun} (hl : s.Lists l)
    (actor : String) : ∃ r,
      ReliabilityStore.supervisorResult (recoveryDraft l actor) s.view = some r ∧
      supervisorEvidence l.run.supervisorRun l.result.report = supervisorEvidence r.1 r.2 := by
  obtain ⟨hresult, ⟨r, hr, hb⟩, q, hq, hidentity⟩ := hl
  obtain ⟨hqkey, hqrest⟩ := Prod.mk.inj hidentity
  obtain ⟨t, ht, -⟩ := hb.result _ hresult
  have hreport : r.supervisorRun.report = some l.result.report := by
    rw [RecoveryRun.supervisorRun, ht]
    rfl
  have hmem : r.supervisorRun ∈ s.view.supervisorRuns := List.mem_map_of_mem hr
  have hfind : s.view.supervisorRuns.find (fun run =>
      (run.projectId, run.runId) = ((recoveryDraft l actor).projectId,
          (recoveryDraft l actor).attemptId) ∧
        (s.view.recoveryRequests.Any fun q => q.key = run.key ∧
          q.incidentId = (recoveryDraft l actor).incidentId) ∧
        ∃ report ∈ run.report, report.outcome = (recoveryDraft l actor).outcome) =
      some r.supervisorRun := by
    refine Table.find_eq_some hmem ⟨hb.named, ⟨q, hq, ?_, (Prod.mk.inj hqrest).1⟩, _, hreport, rfl⟩
      fun run hrun hp => ?_
    · exact hqkey.trans hb.key.symm
    · obtain ⟨r', hr', rfl⟩ := List.mem_map.1 hrun
      rw [hinv.ids r' hr' r hr (hp.1.trans hb.named.symm)]
  refine ⟨(r.supervisorRun, l.result.report), ?_, ?_⟩
  · rw [ReliabilityStore.supervisorResult, hfind]
    change (r.supervisorRun.report.bind fun report => some (r.supervisorRun, report)) = _
    rw [hreport]
    rfl
  · simp only [supervisorEvidence, RecoveryRun.supervisorRun, hb.runId, hb.usageLimit,
      hb.toolProfileReference, hb.toolProfileDigest]

lemma SupervisorInv.attemptDraft_ok (hinv : SupervisorInv s) {l : ListedRun} (hl : s.Lists l)
    {actor : String} (hactor : (AgenticMesh.bounded 512 actor).isSome) (db : Db) :
    ∃ actor', attemptDraft (attemptOf l actor) db = .ok (recoveryDraft l actor', db) := by
  obtain ⟨hproject, hwork, hincident, hrun⟩ := hinv.normalized_of_lists hl
  obtain ⟨actor', hactor⟩ := Option.isSome_iff_exists.1 hactor
  refine ⟨actor', ?_⟩
  simp only [attemptDraft, ReliabilityStore.identifierArg, boundedArg, Tx.demand_bind_ok,
    Tx.require_bind_ok]
  refine ⟨_, hproject, _, hwork, _, hincident, _, hrun, _, hactor, ⟨le_rfl, le_rfl⟩, ?_⟩
  rfl

/-- The new attempt breaks no unique key: the six attempts before it are of other stages. -/
lemma SupervisorInv.attemptFresh (hinv : SupervisorInv s) {i : FailureIncident}
    (hi : i ∈ s.db.incidents) (hactive : i.status = .active .recovery 1) {l : ListedRun}
    (hkey : i.key = (l.run.projectId, l.incidentId)) (actor : String) (db : Db)
    (hattempts : db.attempts = s.db.attempts) :
    AttemptFresh (newAttempt (recoveryDraft l actor)) db := by
  intro b hb hbk
  rw [hattempts] at hb
  have hbi : b.incidentKey = i.key := hbk.trans hkey.symm
  obtain ⟨-, hordinals, hnext⟩ := hinv.chain.next hi hactive
  have hlen : (s.db.attemptsOf i.key).length = 6 := by
    have hlt : (s.db.attemptsOf i.key).length < 7 := (List.getElem?_eq_some_iff.1 hnext).1
    generalize (s.db.attemptsOf i.key).length = n at hnext hlt
    interval_cases n <;> simp_all [retryChain]
  have hmem : b.ordinal ∈ (s.db.attemptsOf i.key).map FailureAttempt.ordinal :=
    List.mem_map_of_mem (Table.mem_select.2 ⟨hb, hbi⟩)
  rw [hordinals, hlen, List.mem_range'_1] at hmem
  have hordinal := hinv.chain.ordinal b hb
  refine ⟨?_, fun hstage => ?_, fun c hc => by simp [newAttempt, recoveryDraft] at hc⟩
  · change b.ordinal ≠ 7
    omega
  · have hrecovery : b.stage = .recovery := (Prod.mk.inj hstage).1
    rw [hrecovery] at hordinal
    change b.ordinal = 7 at hordinal
    omega

/-- **Reconciling makes progress.** -/
theorem SupervisorInv.records_of_recordable (hinv : SupervisorInv s) {l : ListedRun}
    (hl : s.Lists l) {actor : String} {now : Time} (h : Recordable s l actor now) :
    ∃ a db', recordAttempt (attemptOf l actor) now s.view = .ok (a, db') := by
  obtain ⟨actor', hdraft⟩ := hinv.attemptDraft_ok hl h.actor s.view
  obtain ⟨i, hi, hikey, hiwork, hstatus⟩ := hinv.incident hl
  obtain ⟨w, hw, hwkey⟩ : ∃ w ∈ s.db.workItems, w.key = (l.run.projectId, l.workItemId) := by
    obtain ⟨w, hw, hwork⟩ := hinv.chain.work i hi
    exact ⟨w, hw, hwork.trans (Prod.ext (Prod.mk.inj hikey).1 hiwork)⟩
  have hwlookup : s.view.workItems.lookup (l.run.projectId, l.workItemId) = some w :=
    Table.lookup_eq_some.2 ⟨hw, hwkey⟩
  have hilook : s.view.incidents.lookup (l.run.projectId, l.incidentId) = some i :=
    Table.lookup_eq_some.2 ⟨hi, hikey⟩
  have hilookup : (s.view.incidents.lookup (l.run.projectId, l.incidentId)).filter
      (fun i => i.workItemId = l.workItemId) = some i := by
    rw [hilook, Option.filter_some, if_pos (by simpa using hiwork)]
  obtain ⟨hproject, hincident⟩ := Prod.mk.inj hikey
  rw [recordAttempt_of_draft hdraft]
  have hstatusIn : ∀ db : Db, (∃ j ∈ db.incidents, j.key = i.key) →
      ∃ a, statusIn l.run.projectId l.incidentId db = .ok (a, db) := by
    rintro db ⟨j, hj, hji⟩
    obtain ⟨hjproject, hjincident⟩ := Prod.mk.inj (hji.trans hikey)
    obtain ⟨a, ha⟩ := statusIn_of_mem hj
    rw [hjproject, hjincident] at ha
    exact ⟨a, ha⟩
  cases hexisting : s.db.attempts.lookup (l.run.projectId, l.run.runId) with
  | some a =>
    -- recorded before
    obtain ⟨ha, hakey⟩ := Table.lookup_eq_some.1 hexisting
    obtain ⟨l', hl', actor₀, rfl⟩ := hinv.supervised a ha (h.free a ha hakey)
    have hsame : recoveryDraft l actor₀ = recoveryDraft l' actor₀ :=
      hinv.draft_congr hl hl' hakey.symm actor₀
    have hfingerprint : (newAttempt (recoveryDraft l' actor₀)).requestFingerprint =
        attemptFingerprint (recoveryDraft l actor') := by
      rw [← hsame]
      rfl
    obtain ⟨b, hb⟩ := hstatusIn s.view ⟨i, hi, rfl⟩
    exact ⟨b, s.view, (recordIn_again hwlookup hilookup hexisting hfingerprint).trans hb⟩
  | none =>
    have hnew := Table.lookup_eq_none.1 hexisting
    have hactive : i.status = .active .recovery 1 := by
      refine hstatus.resolve_right ?_
      rintro ⟨a, ha, -, hkey⟩
      exact hnew a ha hkey
    obtain ⟨⟨w', hw', hwkey', hwactive⟩, hrouted⟩ := h.ready.resolve_left fun ⟨a, ha, hkey⟩ =>
      hnew a ha hkey
    obtain rfl := s.db.workItems.eq_of_key hw hw' (hwkey.trans hwkey'.symm)
    obtain ⟨x, hx, hevidence⟩ := hinv.supervisorResult hl actor'
    have hnext : requireNext w i (recoveryDraft l actor') s.view = .ok ((), s.view) := by
      simp only [requireNext, Tx.require_bind_ok, Tx.query_bind_ok, Tx.require_ok]
      refine ⟨by rw [hactive]; rfl, hwactive, hactive, fun _ => ⟨x, hx, hevidence⟩, ?_, trivial⟩
      intro c hc
      simp [recoveryDraft] at hc
    obtain ⟨attempts, hins⟩ := Table.insert_isSome_of_fresh (t := s.view.attempts)
      (r := newAttempt (recoveryDraft l actor')) (Table.lookup_eq_none.1 hexisting)
    have hinsert : s.view.insertAttempt (newAttempt (recoveryDraft l actor')) =
        some { s.view with attempts } := by
      rw [Db.insertAttempt, if_pos (hinv.attemptFresh hi hactive hikey actor' s.view rfl), hins]
      rfl
    have hmoved : ∀ status : IncidentStatus, ∃ j ∈ (s.db.setIncident i.key status).incidents,
        j.key = i.key := fun status =>
      ⟨{ i with status }, Table.mem_update_of_pos (p := fun j => j.key = i.key) hi rfl, rfl⟩
    -- the answer is the incident after its move
    have hanswer : ∀ db₂ status, recordIn (recoveryDraft l actor') now s.view =
          statusIn l.run.projectId l.incidentId db₂ →
        db₂.incidents = (s.db.setIncident i.key status).incidents →
        ∃ a db', recordIn (recoveryDraft l actor') now s.view = .ok (a, db') := by
      intro db₂ status hrecorded hincidents
      obtain ⟨b, hb⟩ := hstatusIn db₂ (by rw [hincidents]; exact hmoved status)
      exact ⟨b, db₂, hrecorded.trans hb⟩
    cases hout : l.result.report.outcome with
    | failed =>
      exact hanswer _ .terminalEligible
        (recordIn_failed hwlookup hilookup hout hexisting hnext hinsert rfl) rfl
    | succeeded =>
      obtain ⟨⟨item, db₂⟩, hroute⟩ := hrouted hout i hi hikey
        (s.view.resolveRequest i.key .succeeded (recoveryDraft l actor').evidence).recoveryRequests
        attempts
      have hmove : succeed i (recoveryDraft l actor') now { s.view with attempts } =
          .ok ((), db₂.setIncident i.key .recovered) := succeed_of_route rfl hroute
      obtain ⟨queueItems, rfl⟩ := route_ok hroute
      exact hanswer _ .recovered
        (recordIn_succeeded hwlookup hilookup hout hexisting hnext hinsert hmove) rfl

end Attempts
/-! ## The calls of `reconcile` -/

/-- What the calls of `reconcile` do with their listings.  A listing has every reported run that was
not applied, in the order of the reports.  A call comes to a row when it recorded those before it;
it records the row if the attempt can be recorded, and marks it applied before the next one.  A row
that was not recorded and whose work is not active ends the call. -/
structure ReconcileLoop (sensitive : String → Bool) (s : RecoverySystem) : Prop where
  listed : ∀ call p, s.calls[call]? = some ⟨p, .listing⟩ → ∃ rows,
    (s.step sensitive (.list call)).calls[call]? = some ⟨p, .recording [] rows⟩ ∧
      ∀ r ∈ s.store.runs, ∀ x, r.result = some x → x.appliedAt = none → Allowed p r.projectId →
        ∃ l ∈ rows, l.run = r ∧ l.result = x
  ordered : ∀ c ∈ s.calls, c.phase.rows.Pairwise fun l l' => l.rank ≤ l'.rank
  passed : ∀ c ∈ s.calls, ∀ l ∈ c.phase.done, l ∈ s.recorded
  records : ∀ call p passed l rest, s.calls[call]? = some ⟨p, .recording passed (l :: rest)⟩ →
    ∀ now, Recordable s.store l p.subject now →
      l ∈ (s.step sensitive (.record call now)).recorded ∧
        (s.step sensitive (.record call now)).calls[call]? = some ⟨p, .marking passed l rest⟩
  refused : ∀ call p passed l rest, s.calls[call]? = some ⟨p, .recording passed (l :: rest)⟩ →
    Refused s.store l → ∀ now,
      (s.step sensitive (.record call now)).store = s.store ∧
        (s.step sensitive (.record call now)).calls[call]? = some ⟨p, .raised⟩
  marks : ∀ call p passed l rest, s.calls[call]? = some ⟨p, .marking passed l rest⟩ → ∀ now,
    (s.step sensitive (.markApplied call now)).calls[call]? =
        some ⟨p, .recording (passed ++ [l]) rest⟩ ∧
      ∃ r ∈ (s.step sensitive (.markApplied call now)).store.runs, l.run.Becomes r ∧
        ∃ x, r.result = some x ∧ x.appliedAt.isSome

section Loop

variable {sensitive : String → Bool} {s : RecoverySystem} {call : ℕ} {p : Principal}

lemma getElem?_set_of_some {c c' : ReconcileCall} (h : s.calls[call]? = some c) :
    (s.calls.set call c')[call]? = some c' :=
  List.getElem?_set_self (List.getElem?_eq_some_iff.1 h).1

/-- A listing contains every reported run that was not applied. -/
lemma listed_of_reported (hinv : RecoveryInv s) {r : RecoveryRun} (hr : r ∈ s.store.runs)
    {x : RunResult} (hx : r.result = some x) (hnone : x.appliedAt = none)
    (hallowed : Allowed p r.projectId) :
    ∃ l ∈ unapplied p s.store, l.run = r ∧ l.result = x := by
  obtain ⟨q, hq, hkey⟩ := hinv.store.requested r hr
  have hrow : listedRun p s.store r = some ⟨r, x, q.incidentId, q.workItemId⟩ := by
    have hlookup : s.store.db.recoveryRequests.lookup r.key = some q :=
      Table.lookup_eq_some.2 ⟨hq, hkey⟩
    have hif : x.appliedAt = none ∧ Allowed p r.projectId := ⟨hnone, hallowed⟩
    simp only [listedRun, hx, hlookup, Option.bind_eq_bind, Option.bind_some, if_pos hif]
  exact ⟨_, mem_sortedBy.2 (List.mem_filterMap.2 ⟨r, hr, hrow⟩), rfl, rfl⟩

/-- The mark of a listed row is set, if it was not set before. -/
lemma marked_of_lists {t : RecoveryDb} {l : ListedRun} (hl : t.Lists l) (now : Time) :
    ∃ r ∈ (markApplied l now t).runs, l.run.Becomes r ∧
      ∃ x, r.result = some x ∧ x.appliedAt.isSome := by
  obtain ⟨hresult, ⟨r, hr, hb⟩, -⟩ := hl
  obtain ⟨applied, hx, -⟩ := hb.result _ hresult
  by_cases hmarked : applied.isSome
  · refine ⟨r, Table.mem_update_of_neg hr ?_, hb, _, hx, hmarked⟩
    rintro ⟨-, y, hy, -, hnone⟩
    obtain rfl := Option.some.inj (hx.symm.trans hy)
    change applied = none at hnone
    rw [hnone] at hmarked
    exact absurd hmarked (by decide)
  · have hunapplied : Unapplied l r := by
      refine ⟨Prod.ext hb.key hb.runId, _, hx, rfl, ?_⟩
      simpa using hmarked
    obtain ⟨r', hr', hbecomes⟩ := (markApplied_moved l now).becomes r hr
    refine ⟨_, Table.mem_update_of_pos hr hunapplied, ?_, _, by
      change Option.map _ r.result = _
      rw [hx]
      rfl, rfl⟩
    have hset := Table.eq_of_mem_update hr hr' hbecomes.key
    rw [if_pos hunapplied] at hset
    exact hb.trans (hset ▸ hbecomes)

lemma RecoveryInv.loop (hinv : RecoveryInv s) : ReconcileLoop sensitive s where
  listed call p hcall := by
    refine ⟨unapplied p s.store, ?_, fun r hr x hx hnone hallowed =>
      listed_of_reported hinv hr hx hnone hallowed⟩
    rw [RecoverySystem.step, hcall]
    exact getElem?_set_of_some hcall
  ordered := hinv.ordered
  passed := hinv.done
  records call p passed l rest hcall now hready := by
    have hlists : s.store.Lists l :=
      hinv.listed _ (List.mem_of_getElem? hcall) l (by simp [ReconcilePhase.rows])
    obtain ⟨a, db', hok⟩ := hinv.store.records_of_recordable hlists hready
    rw [RecoverySystem.step, hcall]
    simp only [hok]
    exact ⟨List.mem_append_right _ (List.mem_singleton.2 rfl), getElem?_set_of_some hcall⟩
  refused call p passed l rest hcall hrefused now := by
    have hlists : s.store.Lists l :=
      hinv.listed _ (List.mem_of_getElem? hcall) l (by simp [ReconcilePhase.rows])
    cases hrecord : recordAttempt (attemptOf l p.subject) now s.store.view with
    | ok q => exact absurd hrecord (hinv.store.refuses hlists hrefused p.subject now q.1 q.2)
    | error e =>
      rw [RecoverySystem.step, hcall]
      simp only [hrecord]
      exact ⟨trivial, getElem?_set_of_some hcall⟩
  marks call p passed l rest hcall now := by
    have hlists : s.store.Lists l :=
      hinv.listed _ (List.mem_of_getElem? hcall) l (by simp [ReconcilePhase.rows])
    rw [RecoverySystem.step, hcall]
    exact ⟨getElem?_set_of_some hcall, marked_of_lists hlists now⟩

end Loop

/-! ## The theorem -/

section Theorem

variable (sensitive : String → Bool) {s : RecoverySystem}

end Theorem

/-! ### What the holder does not decide -/

/-- A transaction of `reconcile`. -/
def RecoveryEvent.Reconciles : RecoveryEvent → Prop
  | .expire _ _ _ _ => True
  | .list _ => True
  | .record _ _ => True
  | .markApplied _ _ => True
  | _ => False

/-- No work is active and no recovery was attempted. -/
structure Blocked (s : RecoverySystem) : Prop where
  work : ∀ w ∈ s.store.db.workItems, w.status ≠ .active
  attempts : ∀ a ∈ s.store.db.attempts, a.stage ≠ .recovery

section Blocked

variable (sensitive : String → Bool) {s : RecoverySystem}

/-- `reconcile` records no attempt for work that is not active. -/
lemma Blocked.step (h : Blocked s) {e : RecoveryEvent} (he : e.Reconciles) :
    Blocked (s.step sensitive e) := by
  cases e with
  | claim r choice token clock => exact he.elim
  | heartbeat p run leaseSeconds clock => exact he.elim
  | report p run x clock => exact he.elim
  | chain e => exact he.elim
  | expire p locked checked reported =>
    obtain heq | ⟨store, hok, heq⟩ :=
      RecoverySystem.expire_cases sensitive s p locked checked reported
    · rw [heq]
      exact h
    · have hdb := (expireDeadlines_moved (s := s.store) (A := fun _ => False) p locked checked
        reported).1
      rw [Tx.commit_of_ok hok] at hdb
      rw [heq]
      exact ⟨fun w hw => h.work w (hdb ▸ hw), fun a ha => h.attempts a (hdb ▸ ha)⟩
  | list call =>
    obtain heq | ⟨p, -, heq⟩ := RecoverySystem.list_cases sensitive s call
    · rw [heq]
      exact h
    · rw [heq]
      exact ⟨h.work, h.attempts⟩
  | record call now =>
    obtain heq | ⟨p, passed, l, rest, -, ⟨a, db', hok, heq⟩ | ⟨e, -, heq⟩⟩ :=
      RecoverySystem.record_cases sensitive s call now
    · rw [heq]
      exact h
    · rw [heq]
      obtain ⟨d, -, ⟨-, -, -, -, rfl⟩ | ⟨w, i, hd, -⟩⟩ := recordAttempt_ok hok
      · exact ⟨h.work, h.attempts⟩
      · exact absurd hd.active (h.work w hd.work)
    · rw [heq]
      exact ⟨h.work, h.attempts⟩
  | markApplied call now =>
    obtain heq | ⟨p, passed, l, rest, -, heq⟩ :=
      RecoverySystem.markApplied_cases sensitive s call now
    · rw [heq]
      exact h
    · rw [heq]
      exact ⟨h.work, h.attempts⟩

lemma Blocked.run (h : Blocked s) {es : List RecoveryEvent} (hes : ∀ e ∈ es, e.Reconciles) :
    Blocked (run (RecoverySystem.step sensitive) s es) := by
  induction es generalizing s with
  | nil => exact h
  | cons e es ih =>
    exact ih (h.step sensitive (hes e (by simp))) fun f hf => hes f (List.mem_cons_of_mem e hf)

end Blocked

/-- A project with a builder and a project manager. -/
def staffed : Db where
  projects := ⟨[⟨"p", "active"⟩], by decide⟩
  sponsors := ⟨[⟨"p", "sponsor"⟩], by decide⟩
  roles := ⟨[⟨"p", "builder", .active⟩, ⟨"p", "project-manager", .active⟩], by decide⟩
  queues := ⟨[⟨"p", "builder", "builder", none, false⟩,
    ⟨"p", "pm", "project-manager", none, false⟩], by decide⟩

def failing (attemptId : String) (stage : Stage) (n : ℤ) (correction : Option String) :
    RecoveryEvent :=
  .chain (.recordAttempt
    { projectId := "p"
      workItemId := "w"
      incidentId := "incident-776e9c643a14b5e91d039a77beb6dd51"
      attemptId
      stage
      attemptNumber := n
      outcome := .failed
      actorId := "a"
      correctionInstruction := correction } 0)

def supervisor : Principal := ⟨"s", ["p"], ["recovery:execute"]⟩

/-- Work fails six times and waits for its recovery behind a gate while a supervisor claims it. -/
def claiming : List RecoveryEvent :=
  [.chain (.createWorkItem ⟨"p", "w", "t", "builder", "a", "c"⟩),
    .chain (.transitionWorkItem
      { projectId := "p"
        workItemId := "w"
        targetStatus := .active
        actorId := "a"
        correlationId := "c"
        expectedVersion := 1 }),
    .chain (.start ⟨"p", "w", "k", "f", "s", "src", "a"⟩ 0),
    failing "a1" .technical 1 none,
    failing "a2" .technical 2 none,
    failing "a3" .technical 3 none,
    failing "a4" .pmCorrection 1 (some "x"),
    failing "a5" .pmCorrection 2 (some "y"),
    failing "a6" .pmCorrection 3 (some "z"),
    .chain (.openGate ⟨"p", "w", "g", "review", "a", ["sponsor"], "c", 2, .obj []⟩ 0),
    .claim ⟨supervisor, "s", "profile", "digest", 1, 10, 60⟩
      (some ("p", "recovery-95020bdd8e6096a21baf6512616bd9d9")) "t" ⟨0, 0, 0, 0, 0, 0, 0, 0⟩]

def claimedRun : RecoveryRun where
  projectId := "p"
  recoveryRequestId := "recovery-95020bdd8e6096a21baf6512616bd9d9"
  runId := "recovery-run-df17d1c247940237e961d0afba290617"
  claimCount := 1
  ownerId := "s"
  leaseToken := "t"
  claimedAt := 0
  leaseExpiresAt := 60000000
  deadlineAt := 60000000
  timeLimitMinutes := 1
  usageLimit := 10
  toolProfileReference := "profile"
  toolProfileDigest := "digest"
  result := none

set_option maxRecDepth 100000 in
lemma claiming_run :
    let s := run (RecoverySystem.step fun _ => false) (.start staffed) claiming
    s.store.runs.rows = [claimedRun] ∧
      (s.store.db.workItems.rows.all fun w => w.status ≠ .active) = true := by
  decide +kernel

end AgenticMesh
