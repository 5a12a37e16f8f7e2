import AgenticMesh.Flow.Changes

/-!
# What a flow never takes back

A flow run that is completed never changes again, and neither do the records of
governance, the gates that are resolved and the obligations that are fulfilled.
The version of a run only grows, and no entry of it becomes active twice.
-/

namespace AgenticMesh

variable {e : FlowEvent} {db db' : Db}

/-- A completed run does not move. -/
lemma FlowRun.Moves.not_completed {r r' : FlowRun} (h : r.Moves e db db' r') :
    r.status ≠ .completed := by
  intro hcompleted
  cases h with
  | reserve p fields active ready =>
    rw [hcompleted] at active
    cases active
  | promote p i pending =>
    rw [hcompleted] at pending
    cases pending
  | pickup p i t pending state raised =>
    rw [hcompleted] at pending
    cases pending
  | complete o d active terminal ready =>
    rw [hcompleted] at active
    cases active
  | finish o d pending resumed =>
    rw [hcompleted] at pending
    cases pending

/-- A step leaves a completed run as it is. -/
lemma FlowChange.completed_stays (h : FlowChange e db db') {r : FlowRun} (hr : r ∈ db.flowRuns)
    (hcompleted : r.status = .completed) : r ∈ db'.flowRuns := by
  rcases h.flowRuns with hsame | ⟨_, new, -, -, hins⟩ | ⟨moved, hmoved, f, hmoves, hset⟩
  · rw [hsame]
    exact hr
  · exact (Table.mem_of_insert hins r).2 (.inl hr)
  · rw [hset]
    refine Table.mem_update_of_neg hr fun hkey => ?_
    obtain rfl := db.flowRuns.eq_of_key hr hmoved hkey
    exact hmoves.not_completed hcompleted

/-- What stays of a database in a later one. -/
structure FlowFinal (db db' : Db) : Prop where
  completed : ∀ r ∈ db.flowRuns, r.status = .completed → r ∈ db'.flowRuns
  versions : ∀ r ∈ db.flowRuns, ∃ r' ∈ db'.flowRuns, r'.key = r.key ∧ r'.flow = r.flow ∧
    r.version ≤ r'.version ∧ (r'.version = r.version → r'.status = .active → r' = r)
  obligations : ∀ o ∈ db.obligations, o.status ≠ .pending →
    ∃ o' ∈ db'.obligations, o'.key = o.key ∧ o'.status = o.status ∧ o'.payload = o.payload
  gates : ∀ g ∈ db.gates, g.status ≠ .pending → g ∈ db'.gates
  governance : ∀ g ∈ db.governance, g ∈ db'.governance

/-- **What a flow never takes back**, in every run of the engine and of the stores around it. -/
theorem flow_final (s : FlowSystem) (es : List FlowEvent) :
    FlowFinal s.db (run FlowSystem.step s es).db := by
  have hkept := FlowSystem.run_kept s es
  constructor
  · intro r hr hcompleted
    exact invariant_run (I := fun s : FlowSystem => r ∈ s.db.flowRuns)
      (fun s e hr => (s.step_change e).completed_stays hr hcompleted) hr es
  · intro r hr
    obtain ⟨r', hr', hfollows⟩ := hkept.runs r hr
    refine ⟨r', hr', hfollows.key, hfollows.flow, hfollows.version_le, fun hversion hactive => ?_⟩
    rcases hfollows.entry with hsame | hlt | ⟨-, hleft⟩
    · exact hsame
    · omega
    · exact absurd hactive hleft
  · intro o ho hstatus
    obtain ⟨o', ho', hkey, -, hpayload, hsame⟩ := hkept.obligations o ho
    exact ⟨o', ho', hkey, hsame hstatus, hpayload⟩
  · intro g hg hstatus
    obtain ⟨status, hg', hsame⟩ := hkept.gates g hg
    obtain rfl := hsame hstatus
    exact hg'
  · exact hkept.governance

end AgenticMesh
