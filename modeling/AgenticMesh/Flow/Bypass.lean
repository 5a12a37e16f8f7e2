import AgenticMesh.Flow.Evidence

/-!
# Completing the work of a flow

`complete` reserves the completion of a run in one transaction, completes the
work item in another one of the lifecycle store, and then completes the run.  A
transition of the work item itself looks at no run: it completes the work of a
flow in any state.  Without such a transition, work with a flow is completed only
at the end of its flow, with the obligations of the last entry fulfilled.
-/

namespace AgenticMesh

variable {e : FlowEvent} {db db' : Db}

/-! ## The end of a run -/

/-- The completion of a run was reserved. -/
def FlowStatus.isClosing : FlowStatus → Bool
  | .completionPreparing _ _ => true
  | .completed => true
  | _ => false

/-- The last entry of a run; a completed run has counted its version once more. -/
def FlowRun.lastEntry (r : FlowRun) : String × String × String × ℕ :=
  (r.projectId, r.workItemId, r.currentState,
    if r.status = .completed then r.version - 1 else r.version)

/-- The entry that an obligation belongs to. -/
def FlowObligation.entry (o : FlowObligation) : String × String × String × ℕ :=
  (o.projectId, o.workItemId, o.state, o.entryVersion)

/-- A run is in a terminal state, and the obligations of this entry are fulfilled. -/
structure FlowRun.AtEnd (r : FlowRun) (db : Db) : Prop where
  terminal : ∃ s, r.flow.state r.currentState = some s ∧ s.terminal = true
  fulfilled : ∀ o ∈ db.obligations, o.entry = r.lastEntry → o.Fulfilled db

/-- A work item is completed. -/
def Db.WorkCompleted (work : String × String) (db : Db) : Prop :=
  ∃ w ∈ db.workItems, w.key = work ∧ w.status = .completed

/-- Completed work stays completed. -/
lemma FlowChange.workCompleted (h : FlowChange e db db') {work : String × String}
    (hw : db.WorkCompleted work) : db'.WorkCompleted work := by
  obtain ⟨w, hw, hkey, hcompleted⟩ := hw
  have hkept : ∀ {k : String × String} {f : Table.Assign WorkItem.key}, w.key ≠ k →
      w ∈ (db.updateWork k f).workItems := fun hne => Table.mem_update_of_neg hw hne
  cases h.kernel with
  | same workItems _ _ => exact ⟨w, workItems ▸ hw, hkey, hcompleted⟩
  | created _ _ insert _ _ =>
    exact ⟨w, (Table.mem_of_insert insert w).2 (Or.inl hw), hkey, hcompleted⟩
  | moved r v reason evidence direct _ workItems _ _ =>
    refine ⟨w, ?_, hkey, hcompleted⟩
    rw [workItems]
    refine hkept fun hk => ?_
    obtain rfl := db.workItems.eq_of_key hw direct.mem hk
    simpa [hcompleted, WorkStatus.directTransitions] using direct.allowed
  | assigned k roleId workItems _ _ =>
    rw [Db.WorkCompleted, workItems]
    by_cases hk : w.key = k
    · refine ⟨_, Table.mem_update_of_pos (p := fun v => v.key = k) hw hk, ?_, ?_⟩
      · exact hkey
      · exact hcompleted
    · exact ⟨w, hkept hk, hkey, hcompleted⟩
  | opened _ v _ mem _ active _ _ workItems _ _ =>
    refine ⟨w, ?_, hkey, hcompleted⟩
    rw [workItems]
    refine hkept fun hk => ?_
    obtain rfl := db.workItems.eq_of_key hw mem hk
    simp [hcompleted] at active
  | resolved _ v _ _ _ work _ gated _ workItems _ _ =>
    refine ⟨w, ?_, hkey, hcompleted⟩
    rw [workItems]
    refine hkept fun hk => ?_
    obtain rfl := db.workItems.eq_of_key hw work hk
    simp [hcompleted] at gated

/-- What completes a work item. -/
lemma FlowChange.completes (h : FlowChange e db db') {work : String × String}
    (hw : db'.WorkCompleted work) : db.WorkCompleted work ∨
      ∃ r w, LifecycleStore.Transitioned r w db ∧ w.key = work ∧ r.targetStatus = .completed ∧
        (e = .transition r ∨ ∃ i clock, e = .resume i clock) := by
  obtain ⟨w', hw', rfl, hcompleted⟩ := hw
  cases h.kernel with
  | same workItems _ _ => exact Or.inl ⟨w', workItems ▸ hw', rfl, hcompleted⟩
  | created w new insert _ _ =>
    rcases (Table.mem_of_insert insert w').1 hw' with hw' | rfl
    · exact Or.inl ⟨w', hw', rfl, hcompleted⟩
    · simp [hcompleted] at new
  | moved r w reason evidence direct event workItems _ _ =>
    rw [workItems] at hw'
    rcases Table.mem_update_cases hw' with ⟨v, hv, hkey, rfl⟩ | ⟨hw', -⟩
    · exact Or.inr ⟨r, w, direct, hkey.symm, hcompleted, event⟩
    · exact Or.inl ⟨w', hw', rfl, hcompleted⟩
  | assigned k roleId workItems _ _ =>
    rw [workItems] at hw'
    rcases Table.mem_update_cases hw' with ⟨v, hv, -, rfl⟩ | ⟨hw', -⟩
    · exact Or.inl ⟨v, hv, rfl, hcompleted⟩
    · exact Or.inl ⟨w', hw', rfl, hcompleted⟩
  | opened _ w _ _ _ _ _ _ workItems _ _ =>
    rw [workItems] at hw'
    rcases Table.mem_update_cases hw' with ⟨v, hv, -, rfl⟩ | ⟨hw', -⟩
    · simp [LifecycleStore.entered] at hcompleted
    · exact Or.inl ⟨w', hw', rfl, hcompleted⟩
  | resolved _ w _ _ _ _ _ _ _ workItems _ _ =>
    rw [workItems] at hw'
    rcases Table.mem_update_cases hw' with ⟨v, hv, -, rfl⟩ | ⟨hw', -⟩
    · simp [LifecycleStore.entered] at hcompleted
    · exact Or.inl ⟨w', hw', rfl, hcompleted⟩

/-- Where a closing run comes from. -/
lemma FlowChange.closing (h : FlowChange e db db') {r' : FlowRun} (hr' : r' ∈ db'.flowRuns)
    (hclosing : r'.status.isClosing = true) :
    r' ∈ db.flowRuns ∨
      (∃ r ∈ db.flowRuns, ∃ operationId requestDigest, r.status = .active ∧
        (∃ s, r.flow.state r.currentState = some s ∧ s.terminal = true) ∧ r.Ready db ∧
        r' = { r with status := .completionPreparing operationId requestDigest }) ∨
      ∃ r ∈ db.flowRuns, ∃ operationId requestDigest,
        r.status = .completionPreparing operationId requestDigest ∧
        (∃ i clock, e = .resume i clock) ∧ r' = FlowEngine.finished.set r := by
  rcases h.flowRuns with hsame | ⟨_, new, -, hstarted, hins⟩ | ⟨r, hr, f, hmoves, hset⟩
  · exact Or.inl (hsame ▸ hr')
  · rcases (Table.mem_of_insert hins r').1 hr' with hr' | rfl
    · exact Or.inl hr'
    · obtain ⟨s, -, rfl, -⟩ := hstarted.state
      simp [FlowEngine.newRun, FlowStatus.isClosing] at hclosing
  · rw [hset] at hr'
    rcases Table.mem_update_cases hr' with ⟨r₁, hr₁, hkey, rfl⟩ | ⟨hr', -⟩
    · obtain rfl := db.flowRuns.eq_of_key hr₁ hr hkey
      generalize f.set r₁ = r' at hmoves hclosing
      cases hmoves with
      | reserve p fields _ _ => simp [FlowStatus.isClosing] at hclosing
      | promote p i _ => simp [FlowEngine.promoted, FlowStatus.isClosing] at hclosing
      | pickup p i t _ _ _ => simp [FlowEngine.pickedUp, FlowStatus.isClosing] at hclosing
      | complete o d active terminal ready =>
        exact Or.inr (Or.inl ⟨r₁, hr₁, o, d, active, terminal, ready, rfl⟩)
      | finish o d pending resumed => exact Or.inr (Or.inr ⟨r₁, hr₁, o, d, pending, resumed, rfl⟩)
    · exact Or.inl hr'

/-- A closing run stays closing. -/
lemma FlowChange.stays_closing (h : FlowChange e db db') {r r' : FlowRun} (hr : r ∈ db.flowRuns)
    (hclosing : r.status.isClosing = true) (hr' : r' ∈ db'.flowRuns) (hkey : r'.key = r.key) :
    r'.status.isClosing = true := by
  have hstays : r' ∈ db.flowRuns → r'.status.isClosing = true := by
    intro hr'
    obtain rfl := db.flowRuns.eq_of_key hr' hr hkey
    exact hclosing
  rcases h.flowRuns with hsame | ⟨_, new, -, -, hins⟩ | ⟨r₁, hr₁, f, hmoves, hset⟩
  · exact hstays (hsame ▸ hr')
  · rcases (Table.mem_of_insert hins r').1 hr' with hr' | rfl
    · exact hstays hr'
    · exact absurd hkey.symm ((Table.insert_eq_some.1 hins).1 r hr)
  · rw [hset] at hr'
    rcases Table.mem_update_cases hr' with ⟨r₂, hr₂, hkey₂, rfl⟩ | ⟨hr', -⟩
    · rw [f.key_set] at hkey
      obtain rfl := db.flowRuns.eq_of_key hr₂ hr hkey
      obtain rfl := db.flowRuns.eq_of_key hr₂ hr₁ hkey₂
      generalize f.set r₂ = r' at hmoves
      cases hmoves with
      | reserve p fields active _ => simp [active, FlowStatus.isClosing] at hclosing
      | promote p i pending =>
        cases hs : r₂.status <;>
          simp [hs, FlowEngine.FlowStatus.pendingRoute, FlowStatus.isClosing] at pending hclosing
      | pickup p i t pending _ _ => simp [pending, FlowStatus.isClosing] at hclosing
      | complete o d active _ _ => simp [active, FlowStatus.isClosing] at hclosing
      | finish o d _ _ => rfl
    · exact hstays hr'

/-! ## Fulfilled obligations -/

lemma FlowObligation.fulfilled_consult {o : FlowObligation} (hk : o.kind = .consult) :
    o.Fulfilled db ↔ o.Evidenced [.exception] db ∨
      (o.status = .dispatched ∧ o.Evidenced [.responded] db) := by
  simp only [Fulfilled, hk]

lemma FlowObligation.fulfilled_inform {o : FlowObligation} (hk : o.kind = .inform) :
    o.Fulfilled db ↔ o.status = .dispatched := by
  simp only [Fulfilled, hk]

lemma FlowObligation.Evidenced.mono {o o' : FlowObligation} {decisions : List GovernanceDecision}
    (h : o.Evidenced decisions db) (hkey : o'.key = o.key) (hkept : FlowKept db db') :
    o'.Evidenced decisions db' := by
  obtain ⟨g, hg, hgkey, hd⟩ := h
  exact ⟨g, hkept.governance g hg, hgkey.trans hkey.symm, hd⟩

/-- An obligation that stays as it is stays fulfilled. -/
lemma FlowObligation.Fulfilled.mono {o : FlowObligation} (h : o.Fulfilled db)
    (hkept : FlowKept db db') : o.Fulfilled db' := by
  cases hk : o.kind with
  | artifact =>
    simp only [Fulfilled, hk] at h ⊢
    exact ⟨h.1, h.2.mono rfl hkept⟩
  | gate =>
    simp only [Fulfilled, hk] at h ⊢
    exact ⟨h.1, h.2.mono rfl hkept⟩
  | consult =>
    simp only [Fulfilled, hk] at h ⊢
    exact h.imp (·.mono rfl hkept) fun h => ⟨h.1, h.2.mono rfl hkept⟩
  | inform =>
    simp only [Fulfilled, hk] at h ⊢
    exact h

/-- A fulfilled obligation whose status moves is still fulfilled. -/
lemma FlowObligation.Fulfilled.moves {o : FlowObligation} {status : ObligationStatus}
    (h : o.Fulfilled db) (hmoves : ObligationMoves o status) (evidence : Json) :
    ({ o with
      status
      evidence } : FlowObligation).Fulfilled db := by
  cases hmoves with
  | satisfied pending kind =>
    rcases kind with hk | hk
    · simp only [Fulfilled, hk, pending] at h
      simp at h
    · simp only [Fulfilled, hk, pending] at h
      simp at h
  | dispatched _ kind =>
    rcases kind with hk | hk
    · rw [fulfilled_consult hk] at h
      rw [fulfilled_consult (by exact hk)]
      exact h.imp (fun h => h) fun h => ⟨rfl, h.2⟩
    · rw [fulfilled_inform (by exact hk)]

lemma Raised.active {r : FlowRun} {os : List FlowObligation} (h : Raised db db' r os) :
    r.status = .active := by
  cases h with
  | start _ _ => rfl
  | pickup _ _ _ => rfl

/-- The obligations of the last entry of a closing run stay fulfilled. -/
lemma FlowChange.fulfilled (h : FlowChange e db db') {r' : FlowRun} (hr' : r' ∈ db'.flowRuns)
    (hclosing : r'.status.isClosing = true)
    (hfulfilled : ∀ o ∈ db.obligations, o.entry = r'.lastEntry → o.Fulfilled db) :
    ∀ o ∈ db'.obligations, o.entry = r'.lastEntry → o.Fulfilled db' := by
  intro o ho hentry
  have hold : o ∈ db.obligations → o.Fulfilled db' := fun ho => (hfulfilled o ho hentry).mono h.kept
  rcases h.obligations with hsame | ⟨r, os, hraised, hinserted⟩ |
    ⟨o₁, ho₁, status, evidence, hmoves, hset⟩
  · exact hold (hsame ▸ ho)
  · rcases (hinserted.mem_iff o).1 ho with ho | ho
    · exact hold ho
    · -- obligations are raised for an active run only
      obtain ⟨hr, hrun⟩ := hraised.run
      have hkey : r.key = r'.key := by
        simp only [FlowObligation.entry, FlowRun.lastEntry, Prod.mk.injEq] at hentry
        rw [(hrun o ho).1, hentry.1, hentry.2.1]
        rfl
      obtain rfl := db'.flowRuns.eq_of_key hr hr' hkey
      simp [hraised.active, FlowStatus.isClosing] at hclosing
  · rw [hset] at ho
    rcases Table.mem_update_cases ho with ⟨o₂, ho₂, hkey, rfl⟩ | ⟨ho, -⟩
    · obtain rfl := db.obligations.eq_of_key ho₂ ho₁ hkey
      exact ((hfulfilled o₂ ho₂ hentry).moves hmoves _).mono h.kept
    · exact hold ho

/-- A closing run is at its end. -/
lemma FlowChange.atEnd (h : FlowChange e db db')
    (hatEnd : ∀ r ∈ db.flowRuns, r.status.isClosing = true → r.AtEnd db) {r' : FlowRun}
    (hr' : r' ∈ db'.flowRuns) (hclosing : r'.status.isClosing = true) : r'.AtEnd db' := by
  rcases h.closing hr' hclosing with hold | ⟨r, hr, op, d, -, hterminal, hready, rfl⟩ |
    ⟨r, hr, op, d, hpending, -, rfl⟩
  · obtain ⟨hterminal, hfulfilled⟩ := hatEnd r' hold hclosing
    exact ⟨hterminal, h.fulfilled hr' hclosing hfulfilled⟩
  · refine ⟨hterminal, h.fulfilled hr' hclosing fun o ho hentry => hready o ho ?_⟩
    rw [FlowRun.lastEntry, if_neg (by simp)] at hentry
    exact hentry
  · obtain ⟨hterminal, hfulfilled⟩ := hatEnd r hr (by rw [hpending]; rfl)
    refine ⟨hterminal, h.fulfilled hr' hclosing fun o ho hentry => hfulfilled o ho ?_⟩
    have hfinished : (FlowEngine.finished.set r).status = .completed := rfl
    rw [hentry, FlowRun.lastEntry, FlowRun.lastEntry, if_pos hfinished, if_neg (by simp [hpending])]
    rfl

/-! ## Completions under way -/

/-- The request of a task that completes a flow. -/
def FlowTask.completion? : FlowTask → Option CompleteRequest
  | reading r => some r
  | completing r _ => some r
  | rereading r => some r
  | finishing r => some r
  | _ => none

lemma FlowTask.mem_afterRead {c : CompleteRequest} {w : WorkItem} {t : FlowTask}
    (h : afterRead c w = some t) : t = .finishing c ∧ w.status = .completed := by
  unfold afterRead at h
  split at h
  · next hcompleted => exact ⟨(Option.some.inj h).symm, hcompleted.1⟩
  · simp at h

lemma FlowTask.mem_outcome {ε α : Type} {task : α → Option FlowTask} {out : Except ε (α × Db)}
    {t : FlowTask} (h : (outcome db task out).2 = some t) :
    ∃ a db', out = .ok (a, db') ∧ task a = some t := by
  cases out with
  | error e => simp [outcome] at h
  | ok out => exact ⟨out.1, out.2, rfl, h⟩

/-- A task goes on for the same completion, and finishes it when the work item is completed. -/
lemma FlowTask.next_completion {t t' : FlowTask} {clock : OfferClock} {c : CompleteRequest}
    (h : (t.next clock db).2 = some t') (hc : t'.completion? = some c) :
    t.completion? = some c ∧
    (t' = .finishing c → db.WorkCompleted (c.projectId, c.workItemId)) := by
  cases t with
  | offering r route =>
    obtain ⟨handoff, db', -, rfl⟩ := by simpa using mem_outcome h
    simp [completion?] at hc
  | promoting r handoff =>
    obtain ⟨_, _, -, hnone⟩ := mem_outcome h
    simp at hnone
  | reading r =>
    obtain ⟨w, db', hread, htask⟩ := mem_outcome h
    obtain ⟨-, hw, hkey⟩ := readWork_ok hread
    unfold firstRead at htask
    split at htask
    · obtain rfl := Option.some.inj htask
      obtain rfl := Option.some.inj hc
      exact ⟨rfl, fun hfinishing => by simp at hfinishing⟩
    · obtain ⟨rfl, hcompleted⟩ := mem_afterRead htask
      obtain rfl := Option.some.inj hc
      exact ⟨rfl, fun _ => ⟨w, hw, hkey, hcompleted⟩⟩
  | completing r version =>
    have hrereading : t' = .rereading r := by
      simp only [next] at h
      cases hout :
        LifecycleStore.transitionWorkItem (FlowEngine.completionTransition r version) db with
      | error e => cases e <;> simp_all [transitioned]
      | ok out => simpa [hout, transitioned] using h.symm
    subst hrereading
    obtain rfl := Option.some.inj hc
    exact ⟨rfl, fun hfinishing => by simp at hfinishing⟩
  | rereading r =>
    obtain ⟨w, db', hread, htask⟩ := mem_outcome h
    obtain ⟨-, hw, hkey⟩ := readWork_ok hread
    obtain ⟨rfl, hcompleted⟩ := mem_afterRead htask
    obtain rfl := Option.some.inj hc
    exact ⟨rfl, fun _ => ⟨w, hw, hkey, hcompleted⟩⟩
  | finishing r =>
    obtain ⟨_, _, -, hnone⟩ := mem_outcome h
    simp at hnone

namespace FlowSystem

/-- Where the tasks of a system come from. -/
inductive NewTask (s : FlowSystem) : FlowEvent → FlowTask → Prop
  | prepared {r : PrepareRequest} {route : FlowRoute} : NewTask s (.prepare r) (.offering r route)
  | reserved {c : CompleteRequest} {db' : Db}
      (h : FlowEngine.reserveCompletion c s.db = .ok (.inr (), db')) :
      NewTask s (.complete c) (.reading c)
  | resumed {i : ℕ} {clock : OfferClock} {t t' : FlowTask} (mem : t ∈ s.tasks)
      (next : (t.next clock s.db).2 = some t') : NewTask s (.resume i clock) t'

lemma mem_after {α β : Type} {s : FlowSystem} {task : β → FlowTask}
    {out : Except FlowError ((α ⊕ β) × Db)} {t : FlowTask} (h : t ∈ (s.after task out).tasks) :
    t ∈ s.tasks ∨ ∃ b db', out = .ok (.inr b, db') ∧ t = task b := by
  cases out with
  | error e => exact Or.inl h
  | ok out =>
    obtain ⟨_ | b, db'⟩ := out
    · exact Or.inl h
    · rcases List.mem_cons.1 h with rfl | h
      · exact Or.inr ⟨b, db', rfl, rfl⟩
      · exact Or.inl h

lemma mem_tasks_step {s : FlowSystem} {e : FlowEvent} {t : FlowTask}
    (h : t ∈ (s.step e).tasks) : t ∈ s.tasks ∨ s.NewTask e t := by
  cases e with
  | prepare r =>
    change t ∈ (s.after (FlowTask.offering r) (FlowEngine.reserve r s.db)).tasks at h
    rcases mem_after h with h | ⟨route, _, -, rfl⟩
    · exact Or.inl h
    · exact Or.inr .prepared
  | complete c =>
    change t ∈
      (s.after (fun _ => FlowTask.reading c) (FlowEngine.reserveCompletion c s.db)).tasks at h
    rcases mem_after h with h | ⟨_, db', hout, rfl⟩
    · exact Or.inl h
    · exact Or.inr (.reserved hout)
  | resume i clock =>
    change t ∈ (s.resume i clock).tasks at h
    unfold resume at h
    split at h
    · exact Or.inl h
    · next t₀ ht₀ =>
      rcases List.mem_append.1 h with h | h
      · exact Or.inr (.resumed (List.mem_of_getElem? ht₀) (by simpa using h))
      · exact Or.inl (List.mem_of_mem_eraseIdx h)
  | crash i =>
    dsimp only [step] at h
    exact Or.inl (List.mem_of_mem_eraseIdx h)
  | _ =>
    dsimp only [step] at h
    exact Or.inl h

end FlowSystem

/-- A completion that was reserved, now or before. -/
lemma FlowEngine.reserveCompletion_closing {c : CompleteRequest} {db' : Db}
    (h : FlowEngine.reserveCompletion c db = .ok (.inr (), db')) :
    ∃ r ∈ db'.flowRuns, r.key = (c.projectId, c.workItemId) ∧ r.status.isClosing = true := by
  rcases FlowEngine.reserveCompletion_ok h with ⟨_, hreplayed, -⟩ | ⟨r, -, rfl, hreserved⟩ |
    ⟨r, -, hreserves⟩
  · simp at hreplayed
  · exact ⟨r, hreserved.mem, hreserved.key, by rw [hreserved.pending]; rfl⟩
  · refine ⟨(FlowEngine.completing c).set r, ?_, hreserves.key, rfl⟩
    rw [hreserves.effect]
    exact Table.mem_update_of_pos (p := fun k => k.key = r.key) hreserves.mem rfl

lemma FlowEngine.reserveCompletion_required {c : CompleteRequest} {out : FlowRun ⊕ Unit} {db' : Db}
    (h : FlowEngine.reserveCompletion c db = .ok (out, db')) :
    required c.projectId = some c.projectId ∧ required c.workItemId = some c.workItemId := by
  rw [FlowEngine.reserveCompletion, Tx.bind_ok] at h
  obtain ⟨_, db₁, hcheck, -⟩ := h
  rw [FlowEngine.checkComplete, FlowEngine.requireIdentifiers, Tx.require_bind_ok] at hcheck
  exact ⟨required_of_isIdentifier (hcheck.1 _ (by simp)),
    required_of_isIdentifier (hcheck.1 _ (by simp))⟩

/-- A run was there before, or its work item is active and it starts now. -/
lemma FlowChange.run_before (h : FlowChange e db db') {r' : FlowRun} (hr' : r' ∈ db'.flowRuns) :
    (∃ r ∈ db.flowRuns, r'.key = r.key) ∨
      ((∃ q, e = .start q) ∧ ∃ w ∈ db.workItems, w.key = r'.key ∧ w.status = .active) := by
  rcases h.flowRuns with hsame | ⟨q, new, he, hstarted, hins⟩ | ⟨r, hr, f, -, hset⟩
  · exact Or.inl ⟨r', hsame ▸ hr', rfl⟩
  · rcases (Table.mem_of_insert hins r').1 hr' with hr' | rfl
    · exact Or.inl ⟨r', hr', rfl⟩
    · obtain ⟨_, -, -, w, hw, hkey, hactive, -⟩ := hstarted.state
      exact Or.inr ⟨⟨q, he⟩, w, hw, hkey, hactive⟩
  · rw [hset] at hr'
    rcases Table.mem_update_cases hr' with ⟨r₁, hr₁, -, rfl⟩ | ⟨hr', -⟩
    · exact Or.inl ⟨r₁, hr₁, f.key_set r₁⟩
    · exact Or.inl ⟨r', hr', rfl⟩

/-! ## The invariant -/

namespace FlowSystem

/-- A direct transition completes no work item whose run is not about to complete. -/
def Respects (s : FlowSystem) : FlowEvent → Prop
  | .transition q => q.targetStatus = .completed → ∀ w, LifecycleStore.Transitioned q w s.db →
    ∀ r ∈ s.db.flowRuns, r.key = w.key → r.status.isClosing = true
  | _ => True

/-- Work with a flow is completed at the end of its flow. -/
structure NotBypassed (s : FlowSystem) : Prop where
  atEnd : ∀ r ∈ s.db.flowRuns, r.status.isClosing = true → r.AtEnd s.db
  closing : ∀ r ∈ s.db.flowRuns, s.db.WorkCompleted r.key → r.status.isClosing = true
  completed : ∀ r ∈ s.db.flowRuns, r.status = .completed → s.db.WorkCompleted r.key
  reserved : ∀ t ∈ s.tasks, ∀ c, t.completion? = some c →
    (required c.projectId = some c.projectId ∧ required c.workItemId = some c.workItemId) ∧
      ∃ r ∈ s.db.flowRuns, r.key = (c.projectId, c.workItemId) ∧ r.status.isClosing = true
  finishing : ∀ c, FlowTask.finishing c ∈ s.tasks → s.db.WorkCompleted (c.projectId, c.workItemId)

variable {s : FlowSystem}

/-- The direct transition behind a step of a task is that of its completion. -/
lemma resume_completes {i : ℕ} {clock : OfferClock} {work : String × String}
    (hs : s.NotBypassed) (hw : (s.step (.resume i clock)).db.WorkCompleted work)
    (hnew : ¬ s.db.WorkCompleted work) :
    ∃ r ∈ s.db.flowRuns, r.key = work ∧ r.status.isClosing = true := by
  change (s.resume i clock).db.WorkCompleted work at hw
  unfold resume at hw
  split at hw
  · exact absurd hw hnew
  · next t ht =>
    have hmem := List.mem_of_getElem? ht
    have hchange : t.Change s.db (t.next clock s.db).1 := t.next_change clock
    generalize (t.next clock s.db).1 = db' at hchange hw
    cases hchange with
    | same h => exact absurd (by rwa [Db.WorkCompleted, h.workItems] at hw) hnew
    | promote h =>
      obtain ⟨_, -, -, _, -, rfl⟩ := h.route
      exact absurd hw hnew
    | @complete c version _ w reason direct =>
      obtain ⟨⟨hproject, hwork⟩, r, hr, hkey, hclosing⟩ := hs.reserved _ hmem c rfl
      have hwkey : w.key = r.key := by
        rw [hkey, Option.some.inj (hproject.symm.trans direct.project),
          Option.some.inj (hwork.symm.trans direct.work)]
        rfl
      obtain ⟨w', hw', rfl, hcompleted⟩ := hw
      rcases Table.mem_update_cases hw' with ⟨v, hv, hvkey, rfl⟩ | ⟨hw', -⟩
      · exact ⟨r, hr, (hvkey.trans hwkey).symm, hclosing⟩
      · exact absurd ⟨w', hw', rfl, hcompleted⟩ hnew
    | finish h =>
      obtain ⟨_, -, rfl⟩ := h.effect
      exact absurd hw hnew

/-- A run is finished by the last transaction of its completion. -/
lemma resume_finishes {i : ℕ} {clock : OfferClock} {r : FlowRun}
    {operationId requestDigest : String}
    (hs : s.NotBypassed) (hr : r ∈ s.db.flowRuns)
    (hpending : r.status = .completionPreparing operationId requestDigest)
    (hfinished : FlowEngine.finished.set r ∈ (s.step (.resume i clock)).db.flowRuns) :
    s.db.WorkCompleted r.key := by
  have hnew : ¬ FlowEngine.finished.set r ∈ s.db.flowRuns := by
    intro hold
    have hsame : FlowEngine.finished.set r = r := s.db.flowRuns.eq_of_key hold hr rfl
    have hstatus : (FlowEngine.finished.set r).status = .completed := rfl
    rw [hsame, hpending] at hstatus
    simp at hstatus
  change FlowEngine.finished.set r ∈ (s.resume i clock).db.flowRuns at hfinished
  unfold resume at hfinished
  split at hfinished
  · exact absurd hfinished hnew
  · next t ht =>
    have hmem := List.mem_of_getElem? ht
    have hchange : t.Change s.db (t.next clock s.db).1 := t.next_change clock
    generalize (t.next clock s.db).1 = db' at hchange hfinished
    cases hchange with
    | same h => exact absurd (h.flowRuns ▸ hfinished) hnew
    | @promote q handoff run run' _ _ h =>
      obtain ⟨p, hp, -, _, -, rfl⟩ := h.route
      rcases Table.mem_update_cases hfinished with ⟨r₁, hr₁, hkey, hrow⟩ | ⟨hold, -⟩
      · have hstatus := congrArg FlowRun.status hrow
        simp [FlowEngine.finished, FlowEngine.promoted] at hstatus
      · exact absurd hold hnew
    | complete direct => exact absurd hfinished hnew
    | @finish c run run' _ _ h =>
      obtain ⟨_, -, rfl⟩ := h.effect
      rcases Table.mem_update_cases hfinished with ⟨r₁, hr₁, hkey, hrow⟩ | ⟨hold, -⟩
      · have hsame : (FlowEngine.finished.set r).key = (FlowEngine.finished.set r₁).key := by
          rw [hrow]
        rw [FlowEngine.finished.key_set, FlowEngine.finished.key_set] at hsame
        rw [hsame, hkey, h.key]
        exact hs.finishing c hmem
      · exact absurd hold hnew

/-- The run of a work item that a step completes. -/
lemma completes_closing {e : FlowEvent} {work : String × String} (hs : s.NotBypassed)
    (he : s.Respects e) (hw : (s.step e).db.WorkCompleted work)
    (hnew : ¬ s.db.WorkCompleted work) : (¬ ∃ q, e = .start q) ∧
      ∀ r ∈ s.db.flowRuns, r.key = work → r.status.isClosing = true := by
  rcases (s.step_change e).completes hw with hw |
    ⟨q, w, hdirect, rfl, htarget, rfl | ⟨i, clock, rfl⟩⟩
  · exact absurd hw hnew
  · exact ⟨by simp, fun r hr hkey => he htarget w hdirect r hr hkey⟩
  · refine ⟨by simp, fun r hr hkey => ?_⟩
    obtain ⟨r', hr', hkey', hclosing⟩ := resume_completes hs hw hnew
    obtain rfl := s.db.flowRuns.eq_of_key hr' hr (hkey'.trans hkey.symm)
    exact hclosing

lemma NotBypassed.step {e : FlowEvent} (hs : s.NotBypassed) (he : s.Respects e) :
    (s.step e).NotBypassed := by
  have hchange := s.step_change e
  have hreserved : ∀ p : String × String,
      (∃ r ∈ s.db.flowRuns, r.key = p ∧ r.status.isClosing = true) →
      ∃ r ∈ (s.step e).db.flowRuns, r.key = p ∧ r.status.isClosing = true := by
    rintro p ⟨r, hr, hkey, hclosing⟩
    obtain ⟨r', hr', hfollows⟩ := hchange.kept.runs r hr
    exact ⟨r', hr', hfollows.key.trans hkey, hchange.stays_closing hr hclosing hr' hfollows.key⟩
  refine ⟨fun r hr => hchange.atEnd hs.atEnd hr, fun r' hr' hw => ?_, fun r' hr' hcompleted => ?_,
    fun t ht c hc => ?_, fun c ht => ?_⟩
  · -- closing
    by_cases hold : s.db.WorkCompleted r'.key
    · rcases hchange.run_before hr' with ⟨r, hr, hkey⟩ | ⟨-, w, hwmem, hwkey, hactive⟩
      · exact hchange.stays_closing hr (hs.closing r hr (hkey ▸ hold)) hr' hkey
      · obtain ⟨v, hv, hvkey, hcompleted⟩ := hold
        obtain rfl := s.db.workItems.eq_of_key hv hwmem (hvkey.trans hwkey.symm)
        simp [hactive] at hcompleted
    · obtain ⟨hstart, hclosing⟩ := completes_closing hs he hw hold
      rcases hchange.run_before hr' with ⟨r, hr, hkey⟩ | ⟨hstarts, -⟩
      · exact hchange.stays_closing hr (hclosing r hr hkey.symm) hr' hkey
      · exact absurd hstarts hstart
  · -- completed
    rcases hchange.closing hr' (by rw [hcompleted]; rfl) with hold | ⟨r, -, op, d, -, -, -, rfl⟩ |
      ⟨r, hr, op, d, hpending, ⟨i, clock, rfl⟩, rfl⟩
    · exact hchange.workCompleted (hs.completed r' hold hcompleted)
    · simp at hcompleted
    · refine hchange.workCompleted ?_
      exact resume_finishes (r := r) hs hr hpending hr'
  · -- reserved
    rcases mem_tasks_step ht with ht | hnew
    · obtain ⟨hrequired, hrun⟩ := hs.reserved t ht c hc
      exact ⟨hrequired, hreserved _ hrun⟩
    · cases hnew with
      | prepared => simp [FlowTask.completion?] at hc
      | @reserved c' db' h =>
        obtain rfl := Option.some.inj hc
        refine ⟨FlowEngine.reserveCompletion_required h, ?_⟩
        have hdb : (s.step (.complete c')).db = db' := by
          change (s.after (fun _ => FlowTask.reading c')
            (FlowEngine.reserveCompletion c' s.db)).db = db'
          rw [h]
          rfl
        rw [hdb]
        exact FlowEngine.reserveCompletion_closing h
      | resumed mem next =>
        obtain ⟨hcompletion, -⟩ := FlowTask.next_completion next hc
        obtain ⟨hrequired, hrun⟩ := hs.reserved _ mem c hcompletion
        exact ⟨hrequired, hreserved _ hrun⟩
  · -- finishing
    rcases mem_tasks_step ht with ht | hnew
    · exact hchange.workCompleted (hs.finishing c ht)
    · cases hnew with
      | resumed mem next =>
        exact hchange.workCompleted ((FlowTask.next_completion next rfl).2 rfl)

end FlowSystem

/-- **A flow cannot be bypassed by its own operations.**  In every run in which no direct transition
completes work whose run is not about to complete: a completed work item has a run that is
completing or completed, in a terminal state with fulfilled obligations; a completed run has
completed work; and a step that completes the work of a run finds the run at its end, before the
work is completed. -/
theorem flow_not_bypassed (s₀ : FlowSystem) (h : s₀.Initial) (es : List FlowEvent)
    (hrespects : Along FlowSystem.step FlowSystem.Respects s₀ es) :
    (∀ w ∈ (run FlowSystem.step s₀ es).db.workItems, w.status = .completed →
      ∀ r ∈ (run FlowSystem.step s₀ es).db.flowRuns, r.key = w.key →
        r.status.isClosing = true ∧ r.AtEnd (run FlowSystem.step s₀ es).db) ∧
    (∀ r ∈ (run FlowSystem.step s₀ es).db.flowRuns, r.status = .completed →
      (run FlowSystem.step s₀ es).db.WorkCompleted r.key) ∧
    ∀ e, (run FlowSystem.step s₀ es).Respects e → ∀ work,
      ((run FlowSystem.step s₀ es).step e).db.WorkCompleted work →
      ¬ (run FlowSystem.step s₀ es).db.WorkCompleted work →
      ∀ r ∈ (run FlowSystem.step s₀ es).db.flowRuns, r.key = work →
        (∃ operationId requestDigest,
          r.status = .completionPreparing operationId requestDigest) ∧
        r.AtEnd (run FlowSystem.step s₀ es).db := by
  have hinitial : s₀.NotBypassed := by
    refine ⟨fun r hr => ?_, fun r hr => ?_, fun r hr => ?_, fun t ht => ?_, fun c ht => ?_⟩
    · exact absurd (h.flowRuns ▸ hr) (Table.notMem_empty r)
    · exact absurd (h.flowRuns ▸ hr) (Table.notMem_empty r)
    · exact absurd (h.flowRuns ▸ hr) (Table.notMem_empty r)
    · exact absurd (h.tasks ▸ ht) List.not_mem_nil
    · exact absurd (h.tasks ▸ ht) List.not_mem_nil
  have hs := invariant_along (fun s e => FlowSystem.NotBypassed.step (s := s) (e := e)) hinitial
    hrespects
  generalize run FlowSystem.step s₀ es = s at hs ⊢
  refine ⟨fun w hw hcompleted r hr hkey => ?_, hs.completed, fun e he work hw hnew r hr hkey => ?_⟩
  · have hclosing := hs.closing r hr ⟨w, hw, hkey.symm, hcompleted⟩
    exact ⟨hclosing, hs.atEnd r hr hclosing⟩
  · have hclosing := (FlowSystem.completes_closing hs he hw hnew).2 r hr hkey
    refine ⟨?_, hs.atEnd r hr hclosing⟩
    cases hstatus : r.status with
    | completionPreparing op d => exact ⟨op, d, rfl⟩
    | completed => exact absurd (hkey ▸ hs.completed r hr hstatus) hnew
    | active => simp [hstatus, FlowStatus.isClosing] at hclosing
    | handoffPreparing p => simp [hstatus, FlowStatus.isClosing] at hclosing
    | handoffPending p i => simp [hstatus, FlowStatus.isClosing] at hclosing

/-! ## Direct transitions -/

/-- A direct transition to completed. -/
def completeDirectly (workItemId : String) : TransitionRequest where
  projectId := "p"
  workItemId := workItemId
  targetStatus := .completed
  actorId := "dev"
  correlationId := "c"
  expectedVersion := 2
  reason := "done"

/-- A direct transition to completed that passes the checks of the lifecycle store. -/
lemma LifecycleStore.transitionWorkItem_completed {q : TransitionRequest} {w : WorkItem}
    {actorId correlationId reason : String} (hdirect : LifecycleStore.Transitioned q w db)
    (htarget : q.targetStatus = .completed) (hactor : required q.actorId = some actorId)
    (hcorrelation : required q.correlationId = some correlationId)
    (hversion : 1 ≤ q.expectedVersion) (hreason : required q.reason = some reason)
    (hincidents : ¬ db.incidents.Any fun i =>
      i.workKey = (w.projectId, w.workItemId) ∧ i.status.Unresolved) :
    LifecycleStore.transitionWorkItem q db = .ok ((), db.updateWork (w.projectId, w.workItemId)
      (LifecycleStore.transitioned .completed (some reason) q.evidence)) := by
  have htext : ∀ {t u field : String}, required t = some u →
      LifecycleStore.requireText t field db = .ok (u, db) := fun h => Tx.demand_of_some h
  have hlock : LifecycleStore.lockWorkItem w.projectId w.workItemId db = .ok (w, db) :=
    Tx.demand_of_some (Table.lookup_mem hdirect.mem)
  rw [LifecycleStore.transitionWorkItem, Tx.bind_of_ok (htext hdirect.project),
    Tx.bind_of_ok (htext hdirect.work), Tx.bind_of_ok (htext hactor),
    Tx.bind_of_ok (htext hcorrelation), Tx.bind_of_ok (Tx.require_of_pos hversion)]
  simp only [htarget]
  rw [Tx.bind_of_ok (Tx.demand_of_some (a := some reason) (by simp [hreason])),
    Tx.bind_of_ok hlock, Tx.bind_of_ok (Tx.require_of_pos hdirect.version),
    Tx.bind_of_ok (Tx.require_of_pos hdirect.allowed)]
  exact (Tx.bind_of_ok (show Tx.query id db = .ok (db, db) from rfl)).trans
    ((Tx.bind_of_ok (Tx.require_of_pos hincidents)).trans rfl)

lemma complete_directly {i : String} (hi : required i = some i)
    (hwork : startedShop.workItems.lookup ("p", i) = some (developed i)) :
    LifecycleStore.transitionWorkItem (completeDirectly i) startedShop =
      .ok ((), startedShop.updateWork ("p", i)
        (LifecycleStore.transitioned .completed (some "done") (.obj []))) := by
  have hp : required "p" = some "p" := by decide
  have hdev : required "dev" = some "dev" := by decide
  have hc : required "c" = some "c" := by decide
  have hdone : required "done" = some "done" := by decide
  have hdirect : LifecycleStore.Transitioned (completeDirectly i) (developed i) startedShop :=
    ⟨(Table.lookup_eq_some.1 hwork).1, hp, hi, rfl, by simp [developed, completeDirectly,
      WorkStatus.directTransitions]⟩
  refine LifecycleStore.transitionWorkItem_completed hdirect rfl hdev hc
    (by simp [completeDirectly]) hdone ?_
  rintro ⟨_, hmem, _⟩
  exact absurd hmem List.not_mem_nil

lemma step_complete_directly {i : String} (hi : required i = some i)
    (hwork : startedShop.workItems.lookup ("p", i) = some (developed i)) :
    run FlowSystem.step shop [.start (startShipping "a"), .transition (completeDirectly i)] =
      ⟨startedShop.updateWork ("p", i)
        (LifecycleStore.transitioned .completed (some "done") (.obj [])), []⟩ := by
  rw [run_cons, step_start, run_cons, run_nil]
  show (⟨_, _⟩ : FlowSystem) = _
  rw [Tx.commit_of_ok (complete_directly hi hwork)]

lemma workCompleted_directly {i : String}
    (hwork : startedShop.workItems.lookup ("p", i) = some (developed i)) :
    (startedShop.updateWork ("p", i)
      (LifecycleStore.transitioned .completed (some "done") (.obj []))).WorkCompleted ("p", i) := by
  obtain ⟨hmem, hkey⟩ := Table.lookup_eq_some.1 hwork
  refine ⟨_, Table.mem_update_of_pos (p := fun w => w.key = ("p", i)) hmem hkey, ?_, ?_⟩
  · rfl
  · rfl

/-- Completing a work item without a flow bypasses nothing. -/
theorem flow_not_bypassed_shop :
    (run FlowSystem.step shop
      [.start (startShipping "a"),
        .transition (completeDirectly "b")]).db.WorkCompleted ("p", "b") ∧
    ∀ w ∈ (run FlowSystem.step shop
        [.start (startShipping "a"), .transition (completeDirectly "b")]).db.workItems,
      w.status = .completed → ¬ w.key = firstRun.key := by
  have hb : required "b" = some "b" := by decide
  have hwork : startedShop.workItems.lookup ("p", "b") = some (developed "b") := rfl
  have hrespects : Along FlowSystem.step FlowSystem.Respects shop
      [.start (startShipping "a"), .transition (completeDirectly "b")] := by
    refine ⟨trivial, ?_, trivial⟩
    rw [step_start]
    intro _ w hdirect r hr hkey
    obtain rfl := List.mem_singleton.1 hr
    have hid : required (completeDirectly "b").workItemId = some w.workItemId := hdirect.work
    rw [show (completeDirectly "b").workItemId = "b" from rfl, hb] at hid
    have hwork : firstRun.workItemId = w.workItemId := (Prod.mk.inj hkey).2
    rw [← Option.some.inj hid] at hwork
    exact absurd hwork (by decide)
  have hbypass := flow_not_bypassed shop shop_initial _ hrespects
  rw [step_complete_directly hb hwork] at hbypass ⊢
  refine ⟨workCompleted_directly hwork, fun w hw hcompleted hkey => ?_⟩
  have hclosing := (hbypass.1 w hw hcompleted firstRun startedFirst_run hkey.symm).1
  exact absurd hclosing (by decide)

/-- A direct transition completes the work item `a` while its run is still in the first state. -/
theorem flow_bypassed :
    ¬ ∀ s : FlowSystem, s.Reachable → ∀ w ∈ s.db.workItems, w.status = .completed →
      ∀ r ∈ s.db.flowRuns, r.key = w.key → r.status.isClosing = true := by
  intro hall
  have ha : required "a" = some "a" := by decide
  have hwork : startedShop.workItems.lookup ("p", "a") = some (developed "a") := rfl
  obtain ⟨w, hw, hkey, hcompleted⟩ := workCompleted_directly hwork
  have hclosing := hall _ ⟨shop, _, shop_initial, step_complete_directly ha hwork⟩ w hw hcompleted
    firstRun startedFirst_run hkey.symm
  exact absurd hclosing (by decide)

end AgenticMesh
