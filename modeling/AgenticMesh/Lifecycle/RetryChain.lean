import AgenticMesh.Base.Escalation
import AgenticMesh.Base.Run
import AgenticMesh.Store.Reliability
import Mathlib.Tactic.IntervalCases

/-!
# The retry chain of a work item

The lifecycle and the reliability store write the same work items and incidents.
An incident climbs the fixed ladder of three technical retries, three
corrections and one recovery, and its phase is its status, so that its attempts
are exactly the first steps of the ladder.  The lifecycle store looks at nothing
but the status of an incident, and lets work end in error only through an
exhausted one.
-/

namespace AgenticMesh

open ReliabilityStore Escalation

/-- The 3/3/1 chain of an incident. -/
def retryChain : List (Stage × ℕ) :=
  [(.technical, 1), (.technical, 2), (.technical, 3),
    (.pmCorrection, 1), (.pmCorrection, 2), (.pmCorrection, 3), (.recovery, 1)]

/-- The place of an incident on the chain. -/
def IncidentStatus.phase : IncidentStatus → Standing (Stage × ℕ)
  | active stage n => .next (stage, n)
  | recovered => .recovered
  | terminalEligible => .exhausted
  | terminal => .exhausted

/-- An attempt as a step of the chain that succeeded or not. -/
def FailureAttempt.entry (a : FailureAttempt) : (Stage × ℕ) × Bool :=
  ((a.stage, a.stageAttempt), a.outcome = .succeeded)

/-- The correction instruction of an attempt. -/
def FailureAttempt.instruction? (a : FailureAttempt) : Option String :=
  a.correction.map Correction.instruction

/-- One of the calls of the two stores, or another store. -/
inductive ChainEvent where
  | createProject (projectId displayName : String) (sponsorIds : List String)
  | createWorkItem (r : WorkItemRequest)
  | transitionWorkItem (r : TransitionRequest)
  | openGate (r : GateRequest) (now : Time)
  | decideGate (r : DecisionRequest)
  | start (r : IncidentRequest) (now : Time)
  | recordAttempt (r : AttemptRequest) (now : Time)
  /-- The other stores write their own tables. -/
  | elsewhere (db : Db)

variable (sensitive : String → Bool)

/-- The database after a call; a rejected call is rolled back. -/
def ChainEvent.step (db : Db) : ChainEvent → Db
  | createProject p name sponsors => (LifecycleStore.createProject p name sponsors).commit db
  | createWorkItem r => (LifecycleStore.createWorkItem r).commit db
  | transitionWorkItem r => (LifecycleStore.transitionWorkItem r).commit db
  | openGate r now => (LifecycleStore.openGate r now).commit db
  | decideGate r => (LifecycleStore.decideGate r).commit db
  | start r now => (ReliabilityStore.start sensitive r now).commit db
  | recordAttempt r now => (ReliabilityStore.recordAttempt r now).commit db
  | elsewhere db' =>
    { db' with workItems := db.workItems, incidents := db.incidents, attempts := db.attempts }

/-- No work was created yet. -/
def Db.withoutWork (db : Db) : Db := { db with workItems := ∅, incidents := ∅, attempts := ∅ }

/-! ## The effects of the calls -/

/-- A work item has a new status, and the others are as before. -/
structure WorkMoved (w : WorkItem) (target : WorkStatus) (db db' : Db) : Prop where
  mem : w ∈ db.workItems
  cases : ∀ v ∈ db'.workItems,
    (v.key = w.key ∧ v.status = target) ∨ (v ∈ db.workItems ∧ v.key ≠ w.key)
  kept : ∀ v ∈ db.workItems, ∃ v' ∈ db'.workItems, v'.key = v.key

/-- An incident has a new status, and the others are as before. -/
structure IncidentMoved (i : FailureIncident) (status : IncidentStatus) (db db' : Db) : Prop where
  mem : i ∈ db.incidents
  moved : { i with status } ∈ db'.incidents
  cases : ∀ j ∈ db'.incidents, j = { i with status } ∨ (j ∈ db.incidents ∧ j.key ≠ i.key)
  others : ∀ j ∈ db.incidents, j.key ≠ i.key → j ∈ db'.incidents

/-- What a call can do to the work items, the incidents and the attempts. -/
inductive ChainEffect (db db' : Db) : Prop where
  | keep (work : db'.workItems = db.workItems) (incidents : db'.incidents = db.incidents)
      (attempts : db'.attempts = db.attempts)
  | create {w : WorkItem} (new : w.status = .new)
      (work : db.workItems.insert w = some db'.workItems)
      (incidents : db'.incidents = db.incidents) (attempts : db'.attempts = db.attempts)
  | move {w : WorkItem} {target : WorkStatus} (work : WorkMoved w target db db')
      (alive : w.status ≠ .error) (safe : target ≠ .error)
      (resolved : target = .completed → ∀ i ∈ db.incidents, i.workKey = w.key →
        ¬ i.status.Unresolved)
      (incidents : db'.incidents = db.incidents) (attempts : db'.attempts = db.attempts)
  | fails {w : WorkItem} {i : FailureIncident} (work : WorkMoved w .error db db')
      (alive : w.status ≠ .error) (eligible : i.status = .terminalEligible)
      (owner : i.workKey = w.key) (incidents : IncidentMoved i .terminal db db')
      (attempts : db'.attempts = db.attempts)
  | opens {w : WorkItem} {i : FailureIncident} (mem : w ∈ db.workItems)
      (active : w.status = .active)
      (resolved : ∀ j ∈ db.incidents, j.workKey = w.key → ¬ j.status.Unresolved)
      (first : i.status = .active .technical 1) (owner : i.workKey = w.key)
      (work : db'.workItems = db.workItems)
      (incidents : db.incidents.insert i = some db'.incidents)
      (attempts : db'.attempts = db.attempts)
  | records {w : WorkItem} {i : FailureIncident} {d : AttemptDraft} (mem : w ∈ db.workItems)
      (active : w.status = .active) (owner : i.workKey = w.key) (valid : d.Valid)
      (key : (newAttempt d).incidentKey = i.key)
      (next : i.status = .active d.stage d.attemptNumber)
      (distinct : ∀ a ∈ db.attempts, a.incidentKey = i.key →
        ∀ c ∈ d.correction, ∀ e ∈ a.correction, e.digest ≠ c.digest)
      (work : db'.workItems = db.workItems)
      (incidents : IncidentMoved i (nextStatus d.stage d.attemptNumber d.outcome) db db')
      (attempts : db.attempts.insert (newAttempt d) = some db'.attempts)

section Effects

variable {db db' : Db}

lemma WorkMoved.updateWork {w : WorkItem} (hw : w ∈ db.workItems) {f : Table.Assign WorkItem.key}
    {target : WorkStatus} (hf : (f.set w).status = target)
    (hwork : db'.workItems = (db.updateWork w.key f).workItems) : WorkMoved w target db db' where
  mem := hw
  cases v hv := by
    rw [hwork] at hv
    obtain ⟨u, hu, hk, rfl⟩ | ⟨hv, hk⟩ := Table.mem_update_cases hv
    · obtain rfl := db.workItems.eq_of_key hu hw hk
      exact Or.inl ⟨f.key_set u, hf⟩
    · exact Or.inr ⟨hv, hk⟩
  kept v hv := by
    rw [hwork]
    by_cases hk : v.key = w.key
    · exact ⟨_, Table.mem_update_of_pos hv hk, f.key_set v⟩
    · exact ⟨v, Table.mem_update_of_neg hv hk, rfl⟩

lemma IncidentMoved.setIncident {i : FailureIncident} (hi : i ∈ db.incidents)
    {status : IncidentStatus} (hinc : db'.incidents = (db.setIncident i.key status).incidents) :
    IncidentMoved i status db db' where
  mem := hi
  moved := by
    rw [hinc]
    exact Table.mem_update_of_pos (p := fun j => j.key = i.key) hi rfl
  cases j hj := by
    rw [hinc] at hj
    obtain ⟨k, hk, hki, rfl⟩ | ⟨hj, hk⟩ := Table.mem_update_cases hj
    · obtain rfl := db.incidents.eq_of_key hk hi hki
      exact Or.inl rfl
    · exact Or.inr ⟨hj, hk⟩
  others j hj hk := by
    rw [hinc]
    exact Table.mem_update_of_neg hj hk

section Moved

variable {i : FailureIncident} {status : IncidentStatus}

lemma IncidentMoved.kept (h : IncidentMoved i status db db') :
    ∀ j ∈ db.incidents, ∃ j' ∈ db'.incidents, j'.key = j.key := by
  intro j hj
  by_cases hk : j.key = i.key
  · exact ⟨_, h.moved, hk.symm⟩
  · exact ⟨j, h.others j hj hk, rfl⟩

/-- Moving an unresolved incident opens no other. -/
lemma IncidentMoved.old (h : IncidentMoved i status db db') (hopen : i.status.Unresolved)
    {j : FailureIncident} (hj : j ∈ db'.incidents) :
    ∃ k ∈ db.incidents, k.key = j.key ∧ k.workKey = j.workKey ∧
      (j.status.Unresolved → k.status.Unresolved) := by
  obtain rfl | ⟨hj, -⟩ := h.cases j hj
  · exact ⟨i, h.mem, rfl, rfl, fun _ => hopen⟩
  · exact ⟨j, hj, rfl, rfl, id⟩

end Moved

/-- Work that leaves its status directly was not in error. -/
lemma ne_error_of_direct {s t : WorkStatus} (h : t ∈ s.directTransitions) : s ≠ .error := by
  rintro rfl
  simp [WorkStatus.directTransitions] at h

lemma ChainEvent.effect (e : ChainEvent) : ChainEffect db (e.step sensitive db) := by
  have hsame : ChainEffect db db := .keep rfl rfl rfl
  cases e with
  | createProject p name sponsors =>
    rw [ChainEvent.step]
    refine Tx.commit_rel (R := ChainEffect) hsame fun _ db' hok => ?_
    obtain ⟨_, _, rfl, -⟩ := LifecycleStore.createProject_ok hok
    exact .keep rfl rfl rfl
  | createWorkItem r =>
    rw [ChainEvent.step]
    refine Tx.commit_rel (R := ChainEffect) hsame fun w db' hok => ?_
    obtain ⟨hnew, -, hins⟩ := LifecycleStore.createWorkItem_ok hok
    obtain ⟨workItems, hrow, rfl⟩ := Option.map_eq_some_iff.1 hins
    exact .create hnew hrow rfl rfl
  | transitionWorkItem r =>
    rw [ChainEvent.step]
    refine Tx.commit_rel (R := ChainEffect) hsame fun _ db' hok => ?_
    obtain ⟨w, hw, reason, hmove⟩ := LifecycleStore.transitionWorkItem_ok hok
    have halive := ne_error_of_direct hw.allowed
    obtain ⟨-, rfl⟩ | ⟨-, hnone, rfl⟩ | ⟨-, i, hi, howner, heligible, evidence, rfl⟩ := hmove
    · exact .move (.updateWork hw.mem rfl rfl) halive (by simp [LifecycleStore.transitioned])
        (by simp [LifecycleStore.transitioned]) rfl rfl
    · exact .move (.updateWork hw.mem rfl rfl) halive (by simp [LifecycleStore.transitioned])
        (fun _ => hnone) rfl rfl
    · exact .fails (.updateWork hw.mem rfl rfl) halive heligible howner (.setIncident hi rfl) rfl
  | openGate r now =>
    rw [ChainEvent.step]
    refine Tx.commit_rel (R := ChainEffect) hsame fun _ db' hok => ?_
    obtain ⟨w, hw, -, hactive, -, -, -, gates, approvals, -, -, rfl⟩ :=
      LifecycleStore.openGate_ok hok
    have hentered : ((LifecycleStore.entered .gated).set w).status = .gated := rfl
    exact .move (.updateWork hw hentered rfl) (by simp [hactive]) (by simp) (by simp) rfl rfl
  | decideGate r =>
    rw [ChainEvent.step]
    refine Tx.commit_rel (R := ChainEffect) hsame fun _ db' hok => ?_
    obtain ⟨g, -, -, -, -, w, hw, -, hgated, b, -, -, d, rfl⟩ := LifecycleStore.decideGate_ok hok
    have hentered : ((LifecycleStore.entered .active).set w).status = .active := rfl
    exact .move (.updateWork hw hentered rfl) (by simp [hgated]) (by simp) (by simp) rfl rfl
  | start r now =>
    rw [ChainEvent.step]
    refine Tx.commit_rel (R := ChainEffect) hsame fun _ db' hok => ?_
    obtain rfl | ⟨w, hw, hactive, hnone, i, hfirst, howner, -, incidents, queueItems, hins, rfl⟩ :=
      ReliabilityStore.start_ok hok
    · exact hsame
    · exact .opens hw hactive hnone hfirst howner rfl hins rfl
  | recordAttempt r now =>
    rw [ChainEvent.step]
    refine Tx.commit_rel (R := ChainEffect) hsame fun _ db' hok => ?_
    obtain ⟨d, -, ⟨-, -, -, -, rfl⟩ | ⟨w, i, hd, attempts, queueItems, recoveryRequests, hins, -,
      rfl⟩⟩ := ReliabilityStore.recordAttempt_ok hok
    · exact hsame
    · exact .records hd.work hd.active hd.owner hd.valid hd.key hd.next hd.distinct rfl
        (.setIncident hd.incident rfl) hins
  | elsewhere db' => exact .keep rfl rfl rfl

end Effects

/-! ## The invariant -/

/-- The incidents climbed the retry chain, and the work items agree with them. -/
structure ChainInv (db : Db) : Prop where
  owned : ∀ a ∈ db.attempts, ∃ i ∈ db.incidents, i.key = a.incidentKey
  work : ∀ i ∈ db.incidents, ∃ w ∈ db.workItems, w.key = i.workKey
  ordinal : ∀ a ∈ db.attempts, a.ordinal = ordinalOf a.stage a.stageAttempt
  corrected : ∀ a ∈ db.attempts, (a.stage = .pmCorrection ↔ a.correction.isSome) ∧
    ∀ c ∈ a.correction, c.digest = sha256Hex c.instruction
  climbed : ∀ i ∈ db.incidents,
    Climbed retryChain ((db.attemptsOf i.key).map FailureAttempt.entry) i.status.phase
  distinct : ∀ k, ((db.attemptsOf k).filterMap FailureAttempt.instruction?).Nodup
  one_open : ∀ i ∈ db.incidents, ∀ j ∈ db.incidents, i.workKey = j.workKey →
    i.status.Unresolved → j.status.Unresolved → i = j
  completed : ∀ w ∈ db.workItems, w.status = .completed → ∀ i ∈ db.incidents, i.workKey = w.key →
    ¬ i.status.Unresolved
  error : ∀ w ∈ db.workItems, w.status = .error → ∃ i ∈ db.incidents, i.workKey = w.key ∧
    i.status = .terminal
  terminal : ∀ i ∈ db.incidents, i.status = .terminal → ∀ w ∈ db.workItems, w.key = i.workKey →
    w.status = .error
  one_terminal : ∀ i ∈ db.incidents, ∀ j ∈ db.incidents, i.workKey = j.workKey →
    i.status = .terminal → j.status = .terminal → i = j

lemma ChainInv.withoutWork (db : Db) : ChainInv db.withoutWork where
  owned a ha := absurd ha (Table.notMem_empty a)
  work i hi := absurd hi (Table.notMem_empty i)
  ordinal a ha := absurd ha (Table.notMem_empty a)
  corrected a ha := absurd ha (Table.notMem_empty a)
  climbed i hi := absurd hi (Table.notMem_empty i)
  distinct _ := List.nodup_nil
  one_open i hi := absurd hi (Table.notMem_empty i)
  completed w hw := absurd hw (Table.notMem_empty w)
  error w hw := absurd hw (Table.notMem_empty w)
  terminal i hi := absurd hi (Table.notMem_empty i)
  one_terminal i hi := absurd hi (Table.notMem_empty i)

variable {db db' : Db}

lemma attemptsOf_of_eq (h : db'.attempts = db.attempts) (k : String × String) :
    db'.attemptsOf k = db.attemptsOf k := by
  rw [Db.attemptsOf, Db.attemptsOf, h]

lemma attemptsOf_insert {a : FailureAttempt} (h : db.attempts.insert a = some db'.attempts)
    (k : String × String) :
    db'.attemptsOf k = db.attemptsOf k ++ if a.incidentKey = k then [a] else [] := by
  unfold Db.attemptsOf Table.select
  rw [(Table.insert_eq_some.1 h).2, List.filter_append]
  by_cases hk : a.incidentKey = k <;> simp [hk]

/-- An incident that was just opened has no attempts. -/
lemma ChainInv.attemptsOf_fresh (hinv : ChainInv db) {k : String × String}
    (h : ∀ i ∈ db.incidents, i.key ≠ k) : db.attemptsOf k = [] := by
  rw [Db.attemptsOf, Table.select, List.filter_eq_nil_iff]
  intro a ha
  obtain ⟨i, hi, hk⟩ := hinv.owned a ha
  simpa [← hk] using h i hi

/-- The chain as `_advance_failed` computes it. -/
lemma phase_nextStatus {stage : Stage} {n : ℕ} (h : (stage, n) ∈ retryChain) (o : Outcome) :
    (nextStatus stage n o).phase = after retryChain (stage, n) (o = .succeeded) := by
  simp only [retryChain, List.mem_cons, Prod.mk.injEq, List.not_mem_nil, or_false] at h
  rcases h with ⟨rfl, rfl⟩ | ⟨rfl, rfl⟩ | ⟨rfl, rfl⟩ | ⟨rfl, rfl⟩ | ⟨rfl, rfl⟩ | ⟨rfl, rfl⟩ |
    ⟨rfl, rfl⟩ <;> cases o <;> rfl

lemma nextStatus_ne_terminal (stage : Stage) (n : ℕ) (o : Outcome) :
    nextStatus stage n o ≠ .terminal := by
  cases o <;> cases stage <;> simp only [nextStatus, ne_eq] <;> try split
  all_goals simp

/-! ### The calls keep the invariant -/

/-- The work items changed and nothing else: none is in error that was not, and none is completed
over an unresolved incident. -/
lemma ChainInv.of_work (hinv : ChainInv db) (hi : db'.incidents = db.incidents)
    (ha : db'.attempts = db.attempts)
    (hkept : ∀ v ∈ db.workItems, ∃ v' ∈ db'.workItems, v'.key = v.key)
    (hcases : ∀ v ∈ db'.workItems, v ∈ db.workItems ∨ (v.status ≠ .error ∧
      ∀ i ∈ db.incidents, i.workKey = v.key → i.status ≠ .terminal ∧
        (v.status = .completed → ¬ i.status.Unresolved))) : ChainInv db' where
  owned := by
    rw [ha, hi]
    exact hinv.owned
  work i hmem := by
    rw [hi] at hmem
    obtain ⟨w, hw, hk⟩ := hinv.work i hmem
    obtain ⟨w', hw', hk'⟩ := hkept w hw
    exact ⟨w', hw', hk'.trans hk⟩
  ordinal := by
    rw [ha]
    exact hinv.ordinal
  corrected := by
    rw [ha]
    exact hinv.corrected
  climbed i hmem := by
    rw [hi] at hmem
    rw [attemptsOf_of_eq ha]
    exact hinv.climbed i hmem
  distinct k := by
    rw [attemptsOf_of_eq ha]
    exact hinv.distinct k
  one_open := by
    rw [hi]
    exact hinv.one_open
  completed v hv hdone i hmem howner := by
    rw [hi] at hmem
    obtain hv | ⟨-, hsafe⟩ := hcases v hv
    · exact hinv.completed v hv hdone i hmem howner
    · exact (hsafe i hmem howner).2 hdone
  error v hv herr := by
    rw [hi]
    obtain hv | ⟨hne, -⟩ := hcases v hv
    · exact hinv.error v hv herr
    · exact absurd herr hne
  terminal i hmem hterm v hv hk := by
    rw [hi] at hmem
    obtain hv | ⟨-, hsafe⟩ := hcases v hv
    · exact hinv.terminal i hmem hterm v hv hk
    · exact absurd hterm (hsafe i hmem hk.symm).1
  one_terminal := by
    rw [hi]
    exact hinv.one_terminal

lemma ChainInv.create (hinv : ChainInv db) {w : WorkItem} (hnew : w.status = .new)
    (hins : db.workItems.insert w = some db'.workItems) (hi : db'.incidents = db.incidents)
    (ha : db'.attempts = db.attempts) : ChainInv db' := by
  have hmem := Table.mem_of_insert hins
  refine hinv.of_work hi ha (fun v hv => ⟨v, (hmem v).2 (Or.inl hv), rfl⟩) fun v hv => ?_
  obtain hv | rfl := (hmem v).1 hv
  · exact Or.inl hv
  · refine Or.inr ⟨by simp [hnew], fun i hi howner => ?_⟩
    -- an incident belongs to work that exists
    obtain ⟨u, hu, hk⟩ := hinv.work i hi
    exact absurd (hk.trans howner) ((Table.insert_eq_some.1 hins).1 u hu)

lemma ChainInv.move (hinv : ChainInv db) {w : WorkItem} {target : WorkStatus}
    (hwork : WorkMoved w target db db') (halive : w.status ≠ .error) (hsafe : target ≠ .error)
    (hresolved : target = .completed → ∀ i ∈ db.incidents, i.workKey = w.key →
      ¬ i.status.Unresolved)
    (hi : db'.incidents = db.incidents) (ha : db'.attempts = db.attempts) : ChainInv db' := by
  refine hinv.of_work hi ha hwork.kept fun v hv => ?_
  obtain ⟨hk, hstatus⟩ | ⟨hv, -⟩ := hwork.cases v hv
  · refine Or.inr ⟨by rwa [hstatus], fun i hi howner => ⟨fun hterm => ?_, fun hdone => ?_⟩⟩
    · exact halive (hinv.terminal i hi hterm w hwork.mem (hk.symm.trans howner.symm))
    · exact hresolved (hstatus.symm.trans hdone) i hi (howner.trans hk)
  · exact Or.inl hv

/-- Moving an unresolved incident leaves its work item with one unresolved incident at most. -/
lemma ChainInv.one_open_moved (hinv : ChainInv db) {i : FailureIncident} {status : IncidentStatus}
    (hinc : IncidentMoved i status db db') (hopen : i.status.Unresolved) :
    ∀ j ∈ db'.incidents, ∀ k ∈ db'.incidents, j.workKey = k.workKey →
      j.status.Unresolved → k.status.Unresolved → j = k := by
  intro j hj k hk hjk hju hku
  obtain ⟨j', hj', hjkey, hjwork, hjun⟩ := hinc.old hopen hj
  obtain ⟨k', hk', hkkey, hkwork, hkun⟩ := hinc.old hopen hk
  have hwork : j'.workKey = k'.workKey := by rw [hjwork, hkwork, hjk]
  have heq : j' = k' := hinv.one_open j' hj' k' hk' hwork (hjun hju) (hkun hku)
  exact db'.incidents.eq_of_key hj hk (by rw [← hjkey, ← hkkey, heq])

/-- An exhausted incident becomes terminal with its work item. -/
lemma ChainInv.fails (hinv : ChainInv db) {w : WorkItem} {i : FailureIncident}
    (hwork : WorkMoved w .error db db') (halive : w.status ≠ .error)
    (heligible : i.status = .terminalEligible) (howner : i.workKey = w.key)
    (hinc : IncidentMoved i .terminal db db') (ha : db'.attempts = db.attempts) :
    ChainInv db' := by
  have hopen : i.status.Unresolved := by
    rw [heligible]
    trivial
  -- no incident of the work item was terminal before
  have hnone : ∀ j ∈ db.incidents, j.workKey = w.key → j.status ≠ .terminal :=
    fun j hj hk hterm => halive (hinv.terminal j hj hterm w hwork.mem hk.symm)
  refine
    { owned := ?_, work := ?_, ordinal := ha ▸ hinv.ordinal, corrected := ha ▸ hinv.corrected,
      climbed := ?_, distinct := ?_, one_open := hinv.one_open_moved hinc hopen, completed := ?_,
      error := ?_, terminal := ?_, one_terminal := ?_ }
  · intro a hmem
    rw [ha] at hmem
    obtain ⟨j, hj, hk⟩ := hinv.owned a hmem
    obtain ⟨j', hj', hk'⟩ := hinc.kept j hj
    exact ⟨j', hj', hk'.trans hk⟩
  · intro j hj
    obtain ⟨k, hk, -, hkw, -⟩ := hinc.old hopen hj
    obtain ⟨v, hv, hvk⟩ := hinv.work k hk
    obtain ⟨v', hv', hk'⟩ := hwork.kept v hv
    exact ⟨v', hv', hk'.trans (hvk.trans hkw)⟩
  · intro j hj
    rw [attemptsOf_of_eq ha]
    obtain rfl | ⟨hj, -⟩ := hinc.cases j hj
    · have h := hinv.climbed i hinc.mem
      rw [heligible] at h
      exact h
    · exact hinv.climbed j hj
  · intro k
    rw [attemptsOf_of_eq ha]
    exact hinv.distinct k
  · intro v hv hdone j hj hjv hju
    obtain ⟨-, hstatus⟩ | ⟨hv, -⟩ := hwork.cases v hv
    · rw [hdone] at hstatus
      simp at hstatus
    · obtain ⟨k, hk, -, hkw, hun⟩ := hinc.old hopen hj
      exact hinv.completed v hv hdone k hk (hkw.trans hjv) (hun hju)
  · intro v hv herr
    obtain ⟨hk, -⟩ | ⟨hv, hne⟩ := hwork.cases v hv
    · exact ⟨_, hinc.moved, howner.trans hk.symm, rfl⟩
    · obtain ⟨j, hj, hjv, hterm⟩ := hinv.error v hv herr
      have hji : j.key ≠ i.key := by
        intro h
        obtain rfl := db.incidents.eq_of_key hj hinc.mem h
        exact hne (hjv.symm.trans howner)
      exact ⟨j, hinc.others j hj hji, hjv, hterm⟩
  · intro j hj hterm v hv hk
    obtain ⟨-, hstatus⟩ | ⟨hv, hne⟩ := hwork.cases v hv
    · exact hstatus
    · obtain rfl | ⟨hj, -⟩ := hinc.cases j hj
      · exact absurd (hk.trans howner) hne
      · exact hinv.terminal j hj hterm v hv hk
  · intro j hj k hk hjk hjt hkt
    obtain rfl | ⟨hj, -⟩ := hinc.cases j hj <;> obtain rfl | ⟨hk, -⟩ := hinc.cases k hk
    · rfl
    · exact absurd hkt (hnone k hk (hjk.symm.trans howner))
    · exact absurd hjt (hnone j hj (hjk.trans howner))
    · exact hinv.one_terminal j hj k hk hjk hjt hkt

/-- An incident opens for work without unresolved incidents. -/
lemma ChainInv.opens (hinv : ChainInv db) {w : WorkItem} {i : FailureIncident}
    (hw : w ∈ db.workItems) (hactive : w.status = .active)
    (hresolved : ∀ j ∈ db.incidents, j.workKey = w.key → ¬ j.status.Unresolved)
    (hfirst : i.status = .active .technical 1) (howner : i.workKey = w.key)
    (hwork : db'.workItems = db.workItems) (hins : db.incidents.insert i = some db'.incidents)
    (ha : db'.attempts = db.attempts) : ChainInv db' := by
  have hmem := Table.mem_of_insert hins
  have hterm : ∀ j ∈ db'.incidents, j.status = .terminal → j ∈ db.incidents := by
    intro j hj hjt
    obtain hj | rfl := (hmem j).1 hj
    · exact hj
    · rw [hfirst] at hjt
      simp at hjt
  refine
    { owned := ?_, work := ?_, ordinal := ha ▸ hinv.ordinal, corrected := ha ▸ hinv.corrected,
      climbed := ?_, distinct := ?_, one_open := ?_, completed := ?_, error := ?_, terminal := ?_,
      one_terminal := ?_ }
  · intro a hmem'
    rw [ha] at hmem'
    obtain ⟨j, hj, hk⟩ := hinv.owned a hmem'
    exact ⟨j, (hmem j).2 (Or.inl hj), hk⟩
  · intro j hj
    rw [hwork]
    obtain hj | rfl := (hmem j).1 hj
    · exact hinv.work j hj
    · exact ⟨w, hw, howner.symm⟩
  · intro j hj
    rw [attemptsOf_of_eq ha]
    obtain hj | rfl := (hmem j).1 hj
    · exact hinv.climbed j hj
    · rw [hinv.attemptsOf_fresh (Table.insert_eq_some.1 hins).1, hfirst]
      exact Climbed.start rfl
  · intro k
    rw [attemptsOf_of_eq ha]
    exact hinv.distinct k
  · intro j hj k hk hjk hju hku
    obtain hj | rfl := (hmem j).1 hj <;> obtain hk | rfl := (hmem k).1 hk
    · exact hinv.one_open j hj k hk hjk hju hku
    · exact absurd hju (hresolved j hj (hjk.trans howner))
    · exact absurd hku (hresolved k hk (hjk.symm.trans howner))
    · rfl
  · intro v hv hdone j hj hjv
    rw [hwork] at hv
    obtain hj | rfl := (hmem j).1 hj
    · exact hinv.completed v hv hdone j hj hjv
    · obtain rfl := db.workItems.eq_of_key hv hw (hjv.symm.trans howner)
      rw [hactive] at hdone
      simp at hdone
  · intro v hv herr
    rw [hwork] at hv
    obtain ⟨j, hj, h⟩ := hinv.error v hv herr
    exact ⟨j, (hmem j).2 (Or.inl hj), h⟩
  · intro j hj hjt v hv hk
    rw [hwork] at hv
    exact hinv.terminal j (hterm j hj hjt) hjt v hv hk
  · intro j hj k hk hjk hjt hkt
    exact hinv.one_terminal j (hterm j hj hjt) k (hterm k hk hkt) hjk hjt hkt

/-- The new attempt is the next step of its incident. -/
lemma ChainInv.climbed_next (hinv : ChainInv db) {i : FailureIncident} (hi : i ∈ db.incidents)
    {d : AttemptDraft} (hnext : i.status = .active d.stage d.attemptNumber) :
    Climbed retryChain
      ((db.attemptsOf i.key ++ [newAttempt d]).map FailureAttempt.entry)
      (nextStatus d.stage d.attemptNumber d.outcome).phase := by
  have h := hinv.climbed i hi
  rw [hnext] at h
  have hmem : (d.stage, d.attemptNumber) ∈ retryChain := List.mem_of_getElem? h.2
  rw [phase_nextStatus hmem, List.map_append, List.map_singleton]
  exact h.step (by decide) _

/-- The new correction repeats none of the incident. -/
lemma ChainInv.distinct_next (hinv : ChainInv db) {d : AttemptDraft} (hvalid : d.Valid)
    {k : String × String}
    (hdistinct : ∀ a ∈ db.attempts, a.incidentKey = k →
      ∀ c ∈ d.correction, ∀ e ∈ a.correction, e.digest ≠ c.digest) :
    ((db.attemptsOf k ++ [newAttempt d]).filterMap FailureAttempt.instruction?).Nodup := by
  rw [List.filterMap_append, List.nodup_append]
  refine ⟨hinv.distinct k, ?_, ?_⟩
  · cases hc : (newAttempt d).instruction? <;> simp [hc]
  · intro x hx y hy
    rintro rfl
    obtain ⟨a, ha, hax⟩ := List.mem_filterMap.1 hx
    obtain ⟨b, hb, hbx⟩ := List.mem_filterMap.1 hy
    obtain rfl := List.mem_singleton.1 hb
    obtain ⟨hmem, hak⟩ := Table.mem_select.1 ha
    obtain ⟨e, he, hex⟩ := Option.map_eq_some_iff.1 hax
    obtain ⟨c, hc, hcx⟩ := Option.map_eq_some_iff.1 hbx
    -- equal instructions have equal digests
    refine hdistinct a hmem hak c hc e he ?_
    rw [(hinv.corrected a hmem).2 e he, hvalid.digest c hc, hex, hcx]

/-- An active incident records its next attempt. -/
lemma ChainInv.records (hinv : ChainInv db) {i : FailureIncident} {d : AttemptDraft}
    (hvalid : d.Valid) (hkey : (newAttempt d).incidentKey = i.key)
    (hnext : i.status = .active d.stage d.attemptNumber)
    (hdistinct : ∀ a ∈ db.attempts, a.incidentKey = i.key →
      ∀ c ∈ d.correction, ∀ e ∈ a.correction, e.digest ≠ c.digest)
    (hwork : db'.workItems = db.workItems)
    (hinc : IncidentMoved i (nextStatus d.stage d.attemptNumber d.outcome) db db')
    (hins : db.attempts.insert (newAttempt d) = some db'.attempts) : ChainInv db' := by
  have hopen : i.status.Unresolved := by
    rw [hnext]
    trivial
  have hmem := Table.mem_of_insert hins
  have hterm : ∀ j ∈ db'.incidents, j.status = .terminal → j ∈ db.incidents ∧ j.key ≠ i.key := by
    intro j hj hjt
    obtain rfl | hj := hinc.cases j hj
    · exact absurd hjt (nextStatus_ne_terminal _ _ _)
    · exact hj
  refine
    { owned := ?_, work := ?_, ordinal := ?_, corrected := ?_, climbed := ?_, distinct := ?_,
      one_open := hinv.one_open_moved hinc hopen, completed := ?_, error := ?_, terminal := ?_,
      one_terminal := ?_ }
  · intro a ha
    obtain ha | rfl := (hmem a).1 ha
    · obtain ⟨j, hj, hk⟩ := hinv.owned a ha
      obtain ⟨j', hj', hk'⟩ := hinc.kept j hj
      exact ⟨j', hj', hk'.trans hk⟩
    · exact ⟨_, hinc.moved, hkey.symm⟩
  · intro j hj
    rw [hwork]
    obtain ⟨k, hk, -, hkw, -⟩ := hinc.old hopen hj
    obtain ⟨v, hv, hvk⟩ := hinv.work k hk
    exact ⟨v, hv, hvk.trans hkw⟩
  · intro a ha
    obtain ha | rfl := (hmem a).1 ha
    · exact hinv.ordinal a ha
    · rfl
  · intro a ha
    obtain ha | rfl := (hmem a).1 ha
    · exact hinv.corrected a ha
    · exact ⟨hvalid.corrected, hvalid.digest⟩
  · intro j hj
    obtain rfl | ⟨hj, hne⟩ := hinc.cases j hj
    · change Climbed retryChain ((db'.attemptsOf i.key).map _) _
      rw [attemptsOf_insert hins, if_pos hkey]
      exact hinv.climbed_next hinc.mem hnext
    · rw [attemptsOf_insert hins, if_neg (fun h => hne (h.symm.trans hkey)), List.append_nil]
      exact hinv.climbed j hj
  · intro k
    rw [attemptsOf_insert hins]
    by_cases hk : (newAttempt d).incidentKey = k
    · rw [if_pos hk]
      have hki : k = i.key := hk.symm.trans hkey
      exact hinv.distinct_next hvalid fun a ha hak => hdistinct a ha (hak.trans hki)
    · rw [if_neg hk, List.append_nil]
      exact hinv.distinct k
  · intro v hv hdone j hj hjv hju
    rw [hwork] at hv
    obtain ⟨k, hk, -, hkw, hun⟩ := hinc.old hopen hj
    exact hinv.completed v hv hdone k hk (hkw.trans hjv) (hun hju)
  · intro v hv herr
    rw [hwork] at hv
    obtain ⟨j, hj, hjv, hjt⟩ := hinv.error v hv herr
    have hji : j.key ≠ i.key := by
      intro h
      obtain rfl := db.incidents.eq_of_key hj hinc.mem h
      rw [hnext] at hjt
      simp at hjt
    exact ⟨j, hinc.others j hj hji, hjv, hjt⟩
  · intro j hj hjt v hv hk
    rw [hwork] at hv
    exact hinv.terminal j (hterm j hj hjt).1 hjt v hv hk
  · intro j hj k hk hjk hjt hkt
    exact hinv.one_terminal j (hterm j hj hjt).1 k (hterm k hk hkt).1 hjk hjt hkt

lemma ChainInv.step (hinv : ChainInv db) (e : ChainEvent) :
    ChainInv (e.step sensitive db) := by
  have heffect : ChainEffect db (e.step sensitive db) := e.effect sensitive
  cases heffect with
  | keep hw hi ha =>
    exact hinv.of_work hi ha (fun v hv => ⟨v, hw ▸ hv, rfl⟩) fun v hv => Or.inl (hw ▸ hv)
  | create hnew hins hi ha => exact hinv.create hnew hins hi ha
  | move hwork halive hsafe hresolved hi ha => exact hinv.move hwork halive hsafe hresolved hi ha
  | fails hwork halive heligible howner hinc ha =>
    exact hinv.fails hwork halive heligible howner hinc ha
  | opens hw hactive hresolved hfirst howner hwork hins ha =>
    exact hinv.opens hw hactive hresolved hfirst howner hwork hins ha
  | records _ _ _ hvalid hkey hnext hdistinct hwork hinc hins =>
    exact hinv.records hvalid hkey hnext hdistinct hwork hinc hins

lemma ChainInv.run (db₀ : Db) (es : List ChainEvent) :
    ChainInv (run (ChainEvent.step sensitive) db₀.withoutWork es) :=
  invariant_run (fun _ e hinv => hinv.step sensitive e) (.withoutWork db₀) es

/-! ## The chain in every reachable state -/

/-- Seven failed attempts, three of them with corrections that differ. -/
def ChainExhausted (attempts : List FailureAttempt) : Prop :=
  attempts.map (fun a => (a.ordinal, a.stage, a.stageAttempt)) =
      [(1, .technical, 1), (2, .technical, 2), (3, .technical, 3), (4, .pmCorrection, 1),
        (5, .pmCorrection, 2), (6, .pmCorrection, 3), (7, .recovery, 1)] ∧
    (∀ a ∈ attempts, a.outcome = .failed) ∧
    ∃ c₁ c₂ c₃ : String, c₁ ≠ c₂ ∧ c₁ ≠ c₃ ∧ c₂ ≠ c₃ ∧
      attempts.map FailureAttempt.instruction? =
        [none, none, none, some c₁, some c₂, some c₃, none]

lemma outcome_failed {a : FailureAttempt} (h : a.entry.2 = false) : a.outcome = .failed := by
  cases ho : a.outcome with
  | failed => rfl
  | succeeded => simp [FailureAttempt.entry, ho] at h

/-- The ordinals of an incident are those of its steps. -/
lemma ChainInv.ordinals (hinv : ChainInv db) (k : String × String) :
    (db.attemptsOf k).map FailureAttempt.ordinal =
      (((db.attemptsOf k).map FailureAttempt.entry).map Prod.fst).map
        fun p => ordinalOf p.1 p.2 := by
  rw [List.map_map, List.map_map]
  exact List.map_congr_left fun a ha => hinv.ordinal a (Table.mem_select.1 ha).1

/-- A correction instruction is present exactly in the corrections of the project manager. -/
lemma ChainInv.instruction_eq_none (hinv : ChainInv db) {a : FailureAttempt}
    (ha : a ∈ db.attempts) : a.instruction? = none ↔ a.stage ≠ .pmCorrection := by
  rw [ne_eq, (hinv.corrected a ha).1]
  cases hc : a.correction <;> simp [FailureAttempt.instruction?, hc]

lemma ChainInv.exhausted (hinv : ChainInv db) {i : FailureIncident} (hi : i ∈ db.incidents)
    (hphase : i.status.phase = .exhausted) : ChainExhausted (db.attemptsOf i.key) := by
  have hclimbed := hinv.climbed i hi
  rw [hphase] at hclimbed
  obtain ⟨hsteps, hfailed⟩ := hclimbed.exhausted
  have hordinals := hinv.ordinals i.key
  have hdistinct := hinv.distinct i.key
  have hcorrected : ∀ a ∈ db.attemptsOf i.key, a.instruction? = none ↔ a.stage ≠ .pmCorrection :=
    fun a ha => hinv.instruction_eq_none (Table.mem_select.1 ha).1
  rw [hsteps] at hordinals
  generalize db.attemptsOf i.key = as at *
  -- the seven attempts, one by one
  rw [List.map_map] at hsteps
  simp only [retryChain, List.map_eq_cons_iff, List.map_eq_nil_iff] at hsteps
  obtain ⟨a₁, _, rfl, h₁, a₂, _, rfl, h₂, a₃, _, rfl, h₃, a₄, _, rfl, h₄, a₅, _, rfl, h₅, a₆, _,
    rfl, h₆, a₇, _, rfl, h₇, rfl⟩ := hsteps
  simp only [Function.comp_apply, FailureAttempt.entry, Prod.mk.injEq] at h₁ h₂ h₃ h₄ h₅ h₆ h₇
  have hcorrection : ∀ a ∈ [a₁, a₂, a₃, a₄, a₅, a₆, a₇], a.stage = .pmCorrection →
      ∃ c, a.instruction? = some c := by
    intro a ha hpm
    exact Option.ne_none_iff_exists'.1 fun h => (hcorrected a ha).1 h hpm
  obtain ⟨c₁, hc₁⟩ := hcorrection a₄ (by simp) h₄.1
  obtain ⟨c₂, hc₂⟩ := hcorrection a₅ (by simp) h₅.1
  obtain ⟨c₃, hc₃⟩ := hcorrection a₆ (by simp) h₆.1
  have hnone : ∀ a ∈ [a₁, a₂, a₃, a₇], a.instruction? = none := by
    intro a ha
    refine (hcorrected a ?_).2 ?_ <;>
    · simp only [List.mem_cons, List.not_mem_nil, or_false] at ha ⊢
      rcases ha with rfl | rfl | rfl | rfl <;> simp [h₁, h₂, h₃, h₇]
  have hmap : [a₁, a₂, a₃, a₄, a₅, a₆, a₇].map FailureAttempt.instruction? =
      [none, none, none, some c₁, some c₂, some c₃, none] := by
    simp [hc₁, hc₂, hc₃, hnone]
  refine ⟨?_, fun a ha => outcome_failed (hfailed _ (List.mem_map_of_mem ha)), c₁, c₂, c₃, ?_⟩
  · simpa [retryChain, ordinalOf, h₁, h₂, h₃, h₄, h₅, h₆, h₇] using hordinals
  · have hlist : [a₁, a₂, a₃, a₄, a₅, a₆, a₇].filterMap FailureAttempt.instruction? =
        [c₁, c₂, c₃] := by
      simp [hc₁, hc₂, hc₃, hnone]
    rw [hlist] at hdistinct
    simp only [List.nodup_cons, List.mem_cons, List.not_mem_nil, or_false, not_or] at hdistinct
    exact ⟨hdistinct.1.1, hdistinct.1.2, hdistinct.2.1, hmap⟩

lemma ChainInv.next (hinv : ChainInv db) {i : FailureIncident} (hi : i ∈ db.incidents)
    {stage : Stage} {n : ℕ} (hactive : i.status = .active stage n) :
    (∀ a ∈ db.attemptsOf i.key, a.outcome = .failed) ∧
      (db.attemptsOf i.key).map FailureAttempt.ordinal =
        List.range' 1 (db.attemptsOf i.key).length ∧
      retryChain[(db.attemptsOf i.key).length]? = some (stage, n) := by
  have hclimbed := hinv.climbed i hi
  rw [hactive] at hclimbed
  obtain ⟨hfailed, hnext⟩ := hclimbed
  rw [List.length_map] at hnext
  refine ⟨fun a ha => outcome_failed (hfailed.failed _ (List.mem_map_of_mem ha)), ?_, hnext⟩
  have hlen : (db.attemptsOf i.key).length ≤ 7 :=
    Nat.le_of_lt (List.getElem?_eq_some_iff.1 hnext).1
  have hchain : retryChain.map (fun p => ordinalOf p.1 p.2) = List.range' 1 7 := rfl
  rw [hinv.ordinals, hfailed.steps, List.length_map, List.map_take, hchain,
    List.take_range'_of_length_ge hlen]

/-- **The retry chain of a work item.**  After every run that starts without work items, work in
error has exactly one terminal incident, and that incident has failed the whole chain with three
different corrections; completed work has no unresolved incident; no work has two; and an active
incident has failed the first steps of the chain and waits for the next one. -/
theorem retry_chain (db₀ : Db) (es : List ChainEvent) :
    let db := run (ChainEvent.step sensitive) db₀.withoutWork es
    (∀ w ∈ db.workItems, w.status = .error → ∃ i ∈ db.incidents, i.workKey = w.key ∧
      i.status = .terminal ∧
      (∀ j ∈ db.incidents, j.workKey = w.key → j.status = .terminal → j = i) ∧
      ChainExhausted (db.attemptsOf i.key)) ∧
    (∀ w ∈ db.workItems, w.status = .completed → ∀ i ∈ db.incidents, i.workKey = w.key →
      ¬ i.status.Unresolved) ∧
    (∀ i ∈ db.incidents, ∀ j ∈ db.incidents, i.workKey = j.workKey → i.status.Unresolved →
      j.status.Unresolved → i = j) ∧
    ∀ i ∈ db.incidents, ∀ stage n, i.status = .active stage n →
      (∀ a ∈ db.attemptsOf i.key, a.outcome = .failed) ∧
      (db.attemptsOf i.key).map FailureAttempt.ordinal =
        List.range' 1 (db.attemptsOf i.key).length ∧
      retryChain[(db.attemptsOf i.key).length]? = some (stage, n) := by
  intro db
  have hinv : ChainInv db := .run sensitive db₀ es
  refine ⟨fun w hw herr => ?_, hinv.completed, hinv.one_open,
    fun i hi stage n hactive => hinv.next hi hactive⟩
  obtain ⟨i, hi, howner, hterm⟩ := hinv.error w hw herr
  refine ⟨i, hi, howner, hterm, fun j hj hjw hjt => ?_, hinv.exhausted hi (by rw [hterm]; rfl)⟩
  exact hinv.one_terminal j hj i hi (hjw.trans howner.symm) hjt hterm

end AgenticMesh
