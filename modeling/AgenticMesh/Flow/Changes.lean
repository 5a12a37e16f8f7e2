import AgenticMesh.Flow.System

/-!
# What the steps of a run change

Table by table, what a step can do to the rows of the flow stores.  Evidence and
journal rows are only ever inserted; an obligation, a gate and an approval keep
all columns but their outcome; a run keeps its flow, and its version grows.
-/

namespace AgenticMesh

variable {e : FlowEvent} {db db' : Db}

/-! ## Tables that an operation leaves alone -/

lemma Db.putImpact_eq (c : GovernanceContext) (db : Db) :
    ∃ impacts, db.putImpact c = { db with impacts } := by
  unfold Db.putImpact
  split
  · exact ⟨_, rfl⟩
  · exact ⟨_, rfl⟩

/-- A decision on a gate changes the evidence, the obligations and the impacts. -/
lemma GovernanceStore.Decides.effect {r : GateDecisionRequest} {reviewed : String × String}
    {g : GovernanceRecord} (h : GovernanceStore.Decides r reviewed g db db') :
    ∃ governance obligations impacts, db' = { db with governance, obligations, impacts } ∧
      db.governance.insert g = some governance ∧
      (obligations = db.obligations ∨
        ∃ o ∈ db.obligations, o.key = g.obligationKey ∧ o.status = .pending ∧
          obligations = (db.setObligation o.key .satisfied
            fun _ => GovernanceStore.gateEvidence r reviewed).obligations) := by
  obtain ⟨run, o, hlocked, -, -, -, -, -, rfl, governance, db₁, hins, hsettle, himpact⟩ := h.locked
  have hdb₁ : ∃ obligations, db₁ = { db with governance, obligations } ∧
      (obligations = db.obligations ∨
        ∃ o' ∈ db.obligations, o'.key = o.key ∧ o'.status = .pending ∧
          obligations = (db.setObligation o'.key .satisfied
            fun _ => GovernanceStore.gateEvidence r reviewed).obligations) := by
    rcases hsettle with ⟨-, hpending, rfl⟩ | ⟨-, rfl⟩
    · exact ⟨_, rfl, Or.inr ⟨o, hlocked.mem, rfl, hpending, rfl⟩⟩
    · exact ⟨_, rfl, Or.inl rfl⟩
  obtain ⟨obligations, rfl, hobligations⟩ := hdb₁
  rcases himpact with ⟨impact, -, -, rfl⟩ | ⟨-, rfl⟩
  · obtain ⟨impacts, himpacts⟩ := Db.putImpact_eq ⟨r.projectId, r.workItemId, impact⟩
      ({ db with governance, obligations } : Db)
    exact ⟨governance, obligations, impacts, himpacts, hins, hobligations⟩
  · exact ⟨governance, obligations, db.impacts, rfl, hins, hobligations⟩

/-- A decided sponsor gate changes the approval, the gate, the evidence, the work item and, if it
is approved, the obligation, and routes a queue item. -/
lemma SponsorApprovals.Decides.tables {g : Gate} {l : FlowLink} {a : Approval}
    {sponsorId digest operationId : String} {d : Decision} {clock : SponsorApprovals.DecideClock}
    {run : FlowRun} {artifact : String × String}
    (h : SponsorApprovals.Decides g l a sponsorId digest operationId d clock run artifact db db') :
    ∃ governance obligations queueItems,
      db' = { ((db.decideApproval (g.projectId, g.gateId ++ ":" ++ sponsorId) d).resolveGate g.key
        (SponsorApprovals.decidedStatus d ⟨operationId, digest⟩)).updateWork
          (g.projectId, g.workItemId) (LifecycleStore.entered .active) with
        governance, obligations, queueItems } ∧
      db.governance.insert (SponsorApprovals.decisionRecord g l sponsorId
        (g.gateId ++ ":" ++ sponsorId) digest d artifact) = some governance ∧
      ((d.approved = false ∧ obligations = db.obligations) ∨
        (d.approved = true ∧ obligations = (db.setObligation (g.obligationKey l) .satisfied
          fun _ => SponsorApprovals.approvalEvidence g
            (g.gateId ++ ":" ++ sponsorId)).obligations)) := by
  obtain ⟨governance, hins, hroutes⟩ := h.effect
  obtain ⟨queueItems, rfl⟩ := hroutes.items
  cases hd : d.approved with
  | true =>
    refine ⟨governance, _, queueItems, ?_, hins, Or.inr ⟨rfl, rfl⟩⟩
    simp only [SponsorApprovals.settled, hd, if_true]
    rfl
  | false =>
    refine ⟨governance, _, queueItems, ?_, hins, Or.inl ⟨rfl, rfl⟩⟩
    simp only [SponsorApprovals.settled, hd, Bool.false_eq_true, if_false]
    rfl

/-- An expired sponsor gate changes the gate and the work item, and routes a queue item. -/
lemma SponsorApprovals.TimesOut.tables {g : Gate} {l : FlowLink} {actorId operationId : String}
    {effectiveAt routed : Time} {run : FlowRun} {artifact : String × String}
    (h : SponsorApprovals.TimesOut g l actorId operationId effectiveAt routed run artifact db db') :
    ∃ queueItems,
      db' = { (db.resolveGate g.key (.timedOut ⟨operationId,
        sponsorTimeoutDigest g.gateId⟩)).updateWork (g.projectId, g.workItemId)
          (LifecycleStore.entered .active) with queueItems } := by
  obtain ⟨queueItems, rfl⟩ := h.effect.items
  exact ⟨queueItems, rfl⟩

/-! ## Evidence -/

/-- Where a new piece of evidence comes from. -/
inductive Recorded (db db' : Db) : GovernanceRecord → Prop
  | verified {r : VerifyRequest} {m : DocumentMetadata} {g : GovernanceRecord}
      (h : GovernanceStore.Verified r m g db db') : Recorded db db' g
  | consulted {r : ConsultationRequest} {g : GovernanceRecord}
      (h : GovernanceStore.Consulted r g db db') : Recorded db db' g
  | reviewed {r : GateDecisionRequest} {reviewed : String × String} {g : GovernanceRecord}
      (decision : r.decision ∈ [GovernanceDecision.approved, .rejected, .exception])
      (h : GovernanceStore.Decides r reviewed g db db') : Recorded db db' g
  | decided {g : Gate} {l : FlowLink} {a : Approval} {sponsorId digest operationId : String}
      {d : Decision} {clock : SponsorApprovals.DecideClock} {run : FlowRun}
      {artifact : String × String} (approval : a ∈ db.approvals)
      (approver : (a.projectId, a.gateId, a.approverId) = (g.projectId, g.gateId, sponsorId))
      (h :
        SponsorApprovals.Decides g l a sponsorId digest operationId d clock run artifact db db') :
      Recorded db db' (SponsorApprovals.decisionRecord g l sponsorId
        (g.gateId ++ ":" ++ sponsorId) digest d artifact)

/-- A step inserts at most one piece of evidence. -/
lemma FlowChange.governance (h : FlowChange e db db') :
    db'.governance = db.governance ∨
      ∃ g, Recorded db db' g ∧ db.governance.insert g = some db'.governance := by
  cases h with
  | same h => exact Or.inl h.governance
  | createProject _ => exact Or.inl rfl
  | createWork _ _ => exact Or.inl rfl
  | transition _ => exact Or.inl rfl
  | completed _ => exact Or.inl rfl
  | openGate _ _ _ _ _ _ _ => exact Or.inl rfl
  | decideGate _ _ _ _ _ _ _ _ => exact Or.inl rfl
  | start h =>
    obtain ⟨s, -, -, w, -, -, -, _, _, _, -, -, -, rfl⟩ := h.state
    exact Or.inl rfl
  | dispatch h =>
    obtain ⟨_, rfl⟩ := h.effect
    exact Or.inl rfl
  | reserve h =>
    obtain rfl := h.effect
    exact Or.inl rfl
  | promote h =>
    obtain ⟨_, -, -, _, -, rfl⟩ := h.route
    exact Or.inl rfl
  | pickup h =>
    obtain ⟨_, _, _, -, -, -, -, -, -, _, _, -, -, rfl⟩ := h.target
    exact Or.inl rfl
  | reserveCompletion h =>
    obtain rfl := h.effect
    exact Or.inl rfl
  | finish h =>
    obtain ⟨_, -, rfl⟩ := h.effect
    exact Or.inl rfl
  | @verify r r' documents m g db db' h =>
    have hrecorded : Recorded db db' g := .verified h
    obtain ⟨_, _, -, -, -, -, -, -, governance, hins, rfl⟩ := h.locked
    exact Or.inr ⟨_, hrecorded, hins⟩
  | @consult r r' g db db' h =>
    have hrecorded : Recorded db db' g := .consulted h
    obtain ⟨_, _, -, -, -, -, governance, hins, rfl⟩ := h.locked
    exact Or.inr ⟨_, hrecorded, hins⟩
  | @review r r' reviewed g db db' decision h =>
    have hrecorded : Recorded db db' g := .reviewed decision h
    obtain ⟨_, _, _, rfl, hins, -⟩ := h.effect
    exact Or.inr ⟨_, hrecorded, hins⟩
  | openSponsor _ h =>
    obtain ⟨_, _, -, -, -, rfl⟩ := h.effect
    exact Or.inl rfl
  | decideSponsor approval approver h =>
    have hrecorded := Recorded.decided approval approver h
    obtain ⟨_, _, _, rfl, hins, -⟩ := h.tables
    exact Or.inr ⟨_, hrecorded, hins⟩
  | timeoutSponsor h =>
    obtain ⟨_, rfl⟩ := h.tables
    exact Or.inl rfl

/-! ## Obligations -/

/-- The status of an obligation only goes forward. -/
inductive ObligationMoves (o : FlowObligation) : ObligationStatus → Prop
  | satisfied (pending : o.status = .pending) (kind : o.kind = .artifact ∨ o.kind = .gate) :
      ObligationMoves o .satisfied
  | dispatched (open_ : o.status = .pending ∨ o.status = .dispatched)
      (kind : o.kind = .consult ∨ o.kind = .inform) : ObligationMoves o .dispatched

/-- The obligations of an entry that a step raises. -/
inductive Raised (db db' : Db) : FlowRun → List FlowObligation → Prop
  | start {r : StartRequest} {run : FlowRun} {s : FlowState}
      (h : FlowEngine.Started r run db db') (state : r.flow.1.state r.flow.1.entryState = some s) :
      Raised db db' (FlowEngine.newRun r s)
        (FlowEngine.newObligations r.projectId r.workItemId s r.fields 1)
  | pickup {r : PickupRequest} {run run' : FlowRun} {p : PendingRoute} {i : String} {t : FlowState}
      (h : FlowEngine.PicksUp r run run' db db') (pending : run.status = .handoffPending p i)
      (state : run.flow.state p.targetState = some t) :
      Raised db db' ((FlowEngine.pickedUp t).set run)
        (FlowEngine.newObligations r.projectId r.workItemId t run.fields (run.version + 1))

/-- A step changes one obligation or raises those of one entry. -/
lemma FlowChange.obligations (h : FlowChange e db db') :
    db'.obligations = db.obligations ∨
      (∃ run os, Raised db db' run os ∧ FlowEngine.Inserted os db db'.obligations) ∨
      ∃ o ∈ db.obligations, ∃ status evidence, ObligationMoves o status ∧
        db'.obligations = (db.setObligation o.key status evidence).obligations := by
  cases h with
  | same h => exact Or.inl h.obligations
  | createProject _ => exact Or.inl rfl
  | createWork _ _ => exact Or.inl rfl
  | transition _ => exact Or.inl rfl
  | completed _ => exact Or.inl rfl
  | openGate _ _ _ _ _ _ _ => exact Or.inl rfl
  | decideGate _ _ _ _ _ _ _ _ => exact Or.inl rfl
  | start h =>
    obtain ⟨s, hs, rfl, w, -, -, -, _, _, _, -, hinserted, -, heffect⟩ := h.state
    refine Or.inr (Or.inl ⟨_, _, .start h hs, ?_⟩)
    rw [heffect]
    exact hinserted
  | @dispatch r now o db db' h =>
    obtain ⟨_, heffect⟩ := h.effect
    obtain ⟨run, -, -, -, hkey⟩ := h.run
    have hkind : o.kind = r.kind := by
      simp only [FlowObligation.key, Prod.mk.injEq] at hkey
      exact hkey.2.2.2.2.1
    refine Or.inr (Or.inr ⟨o, h.mem, _, FlowObligation.evidence,
      .dispatched h.status (hkind ▸ h.kind), ?_⟩)
    rw [heffect]
    rfl
  | reserve h =>
    obtain rfl := h.effect
    exact Or.inl rfl
  | promote h =>
    obtain ⟨_, -, -, _, -, rfl⟩ := h.route
    exact Or.inl rfl
  | pickup h =>
    obtain ⟨p, i, t, hpending, ht, -, rfl, -, -, _, _, hinserted, -, heffect⟩ := h.target
    refine Or.inr (Or.inl ⟨_, _, .pickup h hpending ht, ?_⟩)
    rw [heffect]
    exact hinserted
  | reserveCompletion h =>
    obtain rfl := h.effect
    exact Or.inl rfl
  | finish h =>
    obtain ⟨_, -, rfl⟩ := h.effect
    exact Or.inl rfl
  | verify h =>
    obtain ⟨_, o, hlocked, -, hpending, -, -, -, _, -, rfl⟩ := h.locked
    have hkind : o.kind = .artifact := by
      have hkey := hlocked.key
      simp only [FlowObligation.key, Prod.mk.injEq] at hkey
      exact hkey.2.2.2.2.1
    exact Or.inr (Or.inr ⟨o, hlocked.mem, _, _, .satisfied hpending (Or.inl hkind), rfl⟩)
  | consult h =>
    obtain ⟨_, _, -, -, -, -, _, -, rfl⟩ := h.locked
    exact Or.inl rfl
  | review _ h =>
    obtain ⟨_, o', hlocked, -, -, -, -, -, hg, -⟩ := h.locked
    obtain ⟨_, _, _, rfl, -, rfl | ⟨o, ho, hkey, hpending, rfl⟩⟩ := h.effect
    · exact Or.inl rfl
    · have hkind : o.kind = .gate := by
        have hlock := hlocked.key
        rw [hg] at hkey
        simp only [FlowObligation.key, GovernanceRecord.obligationKey, GovernanceStore.newRecord,
          Prod.mk.injEq] at hkey hlock
        rw [hkey.2.2.2.2.1, hlock.2.2.2.2.1]
      exact Or.inr (Or.inr ⟨o, ho, _, _, .satisfied hpending (Or.inr hkind), rfl⟩)
  | openSponsor _ h =>
    obtain ⟨_, _, -, -, -, rfl⟩ := h.effect
    exact Or.inl rfl
  | decideSponsor _ _ h =>
    obtain ⟨o, ho, hkey, hpending⟩ := h.waiting.obligation
    have hkind : o.kind = .gate := by
      simp only [FlowObligation.key, Gate.obligationKey, Prod.mk.injEq] at hkey
      exact hkey.2.2.2.2.1
    obtain ⟨_, _, _, rfl, -, ⟨-, rfl⟩ | ⟨-, rfl⟩⟩ := h.tables
    · exact Or.inl rfl
    · rw [← hkey]
      exact Or.inr (Or.inr ⟨o, ho, _, _, .satisfied hpending (Or.inr hkind), rfl⟩)
  | timeoutSponsor h =>
    obtain ⟨_, rfl⟩ := h.tables
    exact Or.inl rfl

/-! ## Runs -/

/-- The moves of a run; it leaves an entry only when the obligations are fulfilled. -/
inductive FlowRun.Moves (e : FlowEvent) (db db' : Db) (run : FlowRun) : FlowRun → Prop
  | reserve (p : PendingRoute) (fields : Json) (active : run.status = .active)
      (ready : run.Ready db) :
      Moves e db db' run { run with
        status := .handoffPreparing p
        fields }
  | promote (p : PendingRoute) (handoffId : String)
      (pending : FlowEngine.FlowStatus.pendingRoute run.status = some p) :
      Moves e db db' run ((FlowEngine.promoted (.handoffPending p handoffId)).set run)
  | pickup (p : PendingRoute) (handoffId : String) (target : FlowState)
      (pending : run.status = .handoffPending p handoffId)
      (state : run.flow.state p.targetState = some target)
      (raised : FlowEngine.Inserted (FlowEngine.newObligations run.projectId run.workItemId target
        run.fields (run.version + 1)) db db'.obligations) :
      Moves e db db' run ((FlowEngine.pickedUp target).set run)
  | complete (operationId requestDigest : String) (active : run.status = .active)
      (terminal : ∃ s, run.flow.state run.currentState = some s ∧ s.terminal = true)
      (ready : run.Ready db) :
      Moves e db db' run { run with status := .completionPreparing operationId requestDigest }
  | finish (operationId requestDigest : String)
      (pending : run.status = .completionPreparing operationId requestDigest)
      (resumed : ∃ i clock, e = .resume i clock) :
      Moves e db db' run (FlowEngine.finished.set run)

/-- A step starts a run or moves one. -/
lemma FlowChange.flowRuns (h : FlowChange e db db') :
    db'.flowRuns = db.flowRuns ∨
      (∃ r run, e = .start r ∧ FlowEngine.Started r run db db' ∧
        db.flowRuns.insert run = some db'.flowRuns) ∨
      ∃ run ∈ db.flowRuns, ∃ f : Table.Assign FlowRun.key, run.Moves e db db' (f.set run) ∧
        db'.flowRuns = (db.updateRun run.key f).flowRuns := by
  cases h with
  | same h => exact Or.inl h.flowRuns
  | createProject _ => exact Or.inl rfl
  | createWork _ _ => exact Or.inl rfl
  | transition _ => exact Or.inl rfl
  | completed _ => exact Or.inl rfl
  | openGate _ _ _ _ _ _ _ => exact Or.inl rfl
  | decideGate _ _ _ _ _ _ _ _ => exact Or.inl rfl
  | start h =>
    obtain ⟨s, hs, -, w, -, -, -, flowRuns, _, _, hins, -, -, heffect⟩ := h.state
    refine Or.inr (Or.inl ⟨_, _, rfl, h, ?_⟩)
    rw [heffect]
    exact hins
  | dispatch h =>
    obtain ⟨_, rfl⟩ := h.effect
    exact Or.inl rfl
  | reserve h =>
    have heffect := h.effect
    exact Or.inr (Or.inr ⟨_, h.mem, _, .reserve _ _ h.active h.ready, by rw [heffect]⟩)
  | @promote i clock r handoff run run' db db' h =>
    obtain ⟨p, hp, -, _, -, heffect⟩ := h.route
    refine Or.inr (Or.inr ⟨_, h.mem, _, .promote p handoff.handoffId hp, ?_⟩)
    rw [heffect]
  | pickup h =>
    obtain ⟨p, i, t, hpending, ht, -, -, -, -, _, _, hinserted, -, heffect⟩ := h.target
    obtain ⟨hproject, hwork⟩ := Prod.mk.inj h.key
    refine Or.inr (Or.inr ⟨_, h.mem, _, .pickup p i t hpending ht ?_, ?_⟩)
    · rw [hproject, hwork, heffect]
      exact hinserted
    · rw [heffect]
      rfl
  | reserveCompletion h =>
    have heffect := h.effect
    exact Or.inr (Or.inr ⟨_, h.mem, _, .complete _ _ h.active h.state h.ready, by rw [heffect]⟩)
  | finish h =>
    obtain ⟨_, -, heffect⟩ := h.effect
    refine Or.inr (Or.inr ⟨_, h.mem, _, .finish _ _ h.pending ⟨_, _, rfl⟩, ?_⟩)
    rw [heffect]
  | verify h =>
    obtain ⟨_, _, -, -, -, -, -, -, _, -, rfl⟩ := h.locked
    exact Or.inl rfl
  | consult h =>
    obtain ⟨_, _, -, -, -, -, _, -, rfl⟩ := h.locked
    exact Or.inl rfl
  | review _ h =>
    obtain ⟨_, _, _, rfl, -⟩ := h.effect
    exact Or.inl rfl
  | openSponsor _ h =>
    obtain ⟨_, _, -, -, -, rfl⟩ := h.effect
    exact Or.inl rfl
  | decideSponsor _ _ h =>
    obtain ⟨_, _, _, rfl, -⟩ := h.tables
    exact Or.inl rfl
  | timeoutSponsor h =>
    obtain ⟨_, rfl⟩ := h.tables
    exact Or.inl rfl

/-! ## Work items, gates and approvals -/

/-- What `open` found when it opened a managed gate. -/
structure OpensManaged (g : Gate) (l : FlowLink) (sponsors : List String) (db : Db) : Prop where
  run : ∃ run ∈ db.flowRuns, run.entry = g.flowEntry l ∧ run.status = .active
  obligation : ∃ o ∈ db.obligations, o.key = g.obligationKey l ∧ o.status = .pending ∧
    GovernanceStore.ForSponsor o.payload
  verified : ∃ artifact, db.artifactVersion (g.flowEntry l) = some artifact
  sponsors : ∀ s ∈ sponsors, ∃ t ∈ db.sponsors, t.key = (g.projectId, s)

/-- What a step does to the tables that the lifecycle store shares with the coordinator. -/
inductive KernelChange (e : FlowEvent) (db db' : Db) : Prop
  | same (workItems : db'.workItems = db.workItems) (gates : db'.gates = db.gates)
      (approvals : db'.approvals = db.approvals)
  | created (w : WorkItem) (new : w.status = .new)
      (insert : db.workItems.insert w = some db'.workItems) (gates : db'.gates = db.gates)
      (approvals : db'.approvals = db.approvals)
  | moved (r : TransitionRequest) (w : WorkItem) (reason : Option String) (evidence : Json)
      (direct : LifecycleStore.Transitioned r w db)
      (event : e = .transition r ∨ ∃ i clock, e = .resume i clock)
      (workItems : db'.workItems = (db.updateWork w.key
        (LifecycleStore.transitioned r.targetStatus reason evidence)).workItems)
      (gates : db'.gates = db.gates) (approvals : db'.approvals = db.approvals)
  | assigned (work : String × String) (roleId : String)
      (workItems : db'.workItems = (db.updateWork work (FlowEngine.assigned roleId)).workItems)
      (gates : db'.gates = db.gates) (approvals : db'.approvals = db.approvals)
  | opened (g : Gate) (w : WorkItem) (sponsors : List String) (mem : w ∈ db.workItems)
      (key : w.key = (g.projectId, g.workItemId)) (active : w.status = .active)
      (pending : g.status = .pending)
      (managed : ∀ l, g.flowLink = some l → OpensManaged g l sponsors db)
      (workItems : db'.workItems = (db.updateWork w.key (LifecycleStore.entered .gated)).workItems)
      (insert : db.gates.insert g = some db'.gates)
      (asked : ∀ a, a ∈ db'.approvals ↔ a ∈ db.approvals ∨
        ∃ s ∈ sponsors, a = LifecycleStore.newApproval g.projectId g.gateId s)
  | resolved (g : Gate) (w : WorkItem) (status : GateStatus) (mem : g ∈ db.gates)
      (pending : g.status = .pending) (work : w ∈ db.workItems)
      (key : w.key = (g.projectId, g.workItemId)) (gated : w.status = .gated)
      (resolved : status ≠ .pending)
      (workItems : db'.workItems = (db.updateWork w.key (LifecycleStore.entered .active)).workItems)
      (gates : db'.gates = (db.resolveGate g.key status).gates)
      (approvals : db'.approvals = db.approvals ∨
        ∃ b ∈ db.approvals, (b.projectId, b.gateId) = g.key ∧ ∃ key d,
          (key = b.key ∨ key = (b.projectId, b.gateId ++ ":" ++ b.approverId)) ∧
          db'.approvals = (db.decideApproval key d).approvals)

lemma LifecycleStore.decidedStatus_ne (d : Decision) :
    LifecycleStore.decidedStatus d ≠ .pending := by
  unfold LifecycleStore.decidedStatus
  cases d.approved <;> simp

lemma SponsorApprovals.decidedStatus_ne (d : Decision) (operation : GateOperation) :
    SponsorApprovals.decidedStatus d operation ≠ .pending := by
  unfold SponsorApprovals.decidedStatus
  cases d.approved <;> simp

/-- **What a step does to the work items, the gates and the approvals.** -/
theorem FlowChange.kernel (h : FlowChange e db db') : KernelChange e db db' := by
  cases h with
  | same h => exact .same h.workItems h.gates h.approvals
  | createProject _ => exact .same rfl rfl rfl
  | createWork new insert => exact .created _ new insert rfl rfl
  | transition direct => exact .moved _ _ _ _ direct (Or.inl rfl) rfl rfl rfl
  | completed direct => exact .moved _ _ _ _ direct (Or.inr ⟨_, _, rfl⟩) rfl rfl rfl
  | openGate mem active pending unmanaged key insert asked =>
    refine .opened _ _ _ mem key.symm active pending (fun l hl => ?_) rfl insert asked
    rw [unmanaged] at hl
    simp at hl
  | decideGate mem _ pending work key gated approval gate =>
    exact .resolved _ _ _ mem pending work key gated (LifecycleStore.decidedStatus_ne _) rfl rfl
      (Or.inr ⟨_, approval, gate, _, _, Or.inl rfl, rfl⟩)
  | start h =>
    obtain ⟨s, -, -, w, -, -, -, _, _, _, -, -, -, rfl⟩ := h.state
    exact .same rfl rfl rfl
  | dispatch h =>
    obtain ⟨_, rfl⟩ := h.effect
    exact .same rfl rfl rfl
  | reserve h =>
    obtain rfl := h.effect
    exact .same rfl rfl rfl
  | promote h =>
    obtain ⟨_, -, -, _, -, rfl⟩ := h.route
    exact .same rfl rfl rfl
  | pickup h =>
    obtain ⟨_, _, _, -, -, -, -, -, -, _, _, -, -, rfl⟩ := h.target
    exact .assigned _ _ rfl rfl rfl
  | reserveCompletion h =>
    obtain rfl := h.effect
    exact .same rfl rfl rfl
  | finish h =>
    obtain ⟨_, -, rfl⟩ := h.effect
    exact .same rfl rfl rfl
  | verify h =>
    obtain ⟨_, _, -, -, -, -, -, -, _, -, rfl⟩ := h.locked
    exact .same rfl rfl rfl
  | consult h =>
    obtain ⟨_, _, -, -, -, -, _, -, rfl⟩ := h.locked
    exact .same rfl rfl rfl
  | review _ h =>
    obtain ⟨_, _, _, rfl, -⟩ := h.effect
    exact .same rfl rfl rfl
  | @openSponsor sensitive r r' now g db db' _ h =>
    obtain ⟨w, hw, hkey, hactive⟩ := h.work
    obtain ⟨run, hrun, hrunkey, hrunning, ⟨gateType, rfl⟩, ⟨o, ho, hokey, hopending, hsponsor⟩,
      hverified⟩ := h.run
    obtain ⟨hproject, hwork⟩ := Prod.mk.inj hrunkey
    have hentry : run.entry = (r'.projectId, r'.workItemId, run.currentState, run.version) := by
      rw [FlowRun.entry, hproject, hwork]
    obtain ⟨gates, approvals, hins, -, hasked, heffect⟩ := h.effect
    rw [heffect]
    refine .opened _ w r'.sponsorIds hw hkey hactive rfl (fun l hl => ?_) ?_ hins hasked
    · obtain rfl := Option.some.inj hl
      rw [hentry] at hverified
      refine ⟨⟨run, hrun, hentry, hrunning⟩, ⟨o, ho, hokey, hopending, hsponsor⟩, hverified,
        fun s hs => ?_⟩
      obtain ⟨t, ht⟩ := Option.isSome_iff_exists.1 (h.sponsors s hs)
      exact ⟨t, Table.lookup_eq_some.1 ht⟩
    · rw [hkey]
      rfl
  | @decideSponsor r g l a sponsorId digest operationId d clock run artifact db db' ha
      happrover h =>
    obtain ⟨w, hw, hkey, hgated⟩ := h.waiting.work
    obtain ⟨_, _, _, rfl, -⟩ := h.tables
    simp only [Prod.mk.injEq] at happrover
    obtain ⟨hproject, hgate, hsponsor⟩ := happrover
    refine .resolved g w _ h.waiting.mem h.waiting.pending hw hkey hgated
      (SponsorApprovals.decidedStatus_ne d ⟨operationId, digest⟩) ?_ rfl
      (Or.inr ⟨a, ha, ?_, _, d, Or.inr rfl, ?_⟩)
    · rw [hkey]
      rfl
    · rw [hproject, hgate]
      rfl
    · rw [hproject, hgate, hsponsor]
      rfl
  | @timeoutSponsor r g l actorId operationId effectiveAt clock run artifact db db' h =>
    obtain ⟨w, hw, hkey, hgated⟩ := h.waiting.work
    obtain ⟨_, rfl⟩ := h.tables
    refine .resolved g w (.timedOut ⟨operationId, sponsorTimeoutDigest g.gateId⟩) h.waiting.mem
      h.waiting.pending hw hkey hgated (by simp) ?_ rfl (Or.inl rfl)
    rw [hkey]
    rfl

/-- A step keeps the sponsors of every project. -/
lemma FlowChange.sponsors (h : FlowChange e db db') : ∀ s ∈ db.sponsors, s ∈ db'.sponsors := by
  cases h with
  | same h => exact fun s hs => h.sponsors ▸ hs
  | createProject kept => exact kept
  | createWork _ _ => exact fun _ hs => hs
  | transition _ => exact fun _ hs => hs
  | completed _ => exact fun _ hs => hs
  | openGate _ _ _ _ _ _ _ => exact fun _ hs => hs
  | decideGate _ _ _ _ _ _ _ _ => exact fun _ hs => hs
  | start h =>
    obtain ⟨s, -, -, w, -, -, -, _, _, _, -, -, -, rfl⟩ := h.state
    exact fun _ hs => hs
  | dispatch h =>
    obtain ⟨_, rfl⟩ := h.effect
    exact fun _ hs => hs
  | reserve h =>
    obtain rfl := h.effect
    exact fun _ hs => hs
  | promote h =>
    obtain ⟨_, -, -, _, -, rfl⟩ := h.route
    exact fun _ hs => hs
  | pickup h =>
    obtain ⟨_, _, _, -, -, -, -, -, -, _, _, -, -, rfl⟩ := h.target
    exact fun _ hs => hs
  | reserveCompletion h =>
    obtain rfl := h.effect
    exact fun _ hs => hs
  | finish h =>
    obtain ⟨_, -, rfl⟩ := h.effect
    exact fun _ hs => hs
  | verify h =>
    obtain ⟨_, _, -, -, -, -, -, -, _, -, rfl⟩ := h.locked
    exact fun _ hs => hs
  | consult h =>
    obtain ⟨_, _, -, -, -, -, _, -, rfl⟩ := h.locked
    exact fun _ hs => hs
  | review _ h =>
    obtain ⟨_, _, _, rfl, -⟩ := h.effect
    exact fun _ hs => hs
  | openSponsor _ h =>
    obtain ⟨_, _, -, -, -, rfl⟩ := h.effect
    exact fun _ hs => hs
  | decideSponsor _ _ h =>
    obtain ⟨_, _, _, rfl, -⟩ := h.tables
    exact fun _ hs => hs
  | timeoutSponsor h =>
    obtain ⟨_, rfl⟩ := h.tables
    exact fun _ hs => hs

/-! ## What is kept -/

/-- What a run can become: the same entry again is never entered. -/
structure FlowRun.Follows (r r' : FlowRun) : Prop where
  key : r'.key = r.key
  flow : r'.flow = r.flow
  entry : r' = r ∨ r.version < r'.version ∨ (r'.version = r.version ∧ r'.status ≠ .active)

lemma FlowRun.Follows.refl (r : FlowRun) : r.Follows r := ⟨rfl, rfl, Or.inl rfl⟩

lemma FlowRun.Follows.version_le {r r' : FlowRun} (h : r.Follows r') : r.version ≤ r'.version := by
  rcases h.entry with rfl | hlt | ⟨heq, -⟩
  · exact le_rfl
  · exact hlt.le
  · exact heq.ge

lemma FlowRun.Follows.trans {r₁ r₂ r₃ : FlowRun} (h : r₁.Follows r₂) (h' : r₂.Follows r₃) :
    r₁.Follows r₃ := by
  refine ⟨h'.key.trans h.key, h'.flow.trans h.flow, ?_⟩
  rcases h.entry with rfl | hlt | ⟨heq, hleft⟩
  · exact h'.entry
  · exact Or.inr (Or.inl (hlt.trans_le h'.version_le))
  · rcases h'.entry with rfl | hlt' | ⟨heq', hleft'⟩
    · exact Or.inr (Or.inr ⟨heq, hleft⟩)
    · exact Or.inr (Or.inl (heq ▸ hlt'))
    · exact Or.inr (Or.inr ⟨heq'.trans heq, hleft'⟩)

/-- What every step keeps. -/
structure FlowKept (db db' : Db) : Prop where
  governance : ∀ g ∈ db.governance, g ∈ db'.governance
  obligations : ∀ o ∈ db.obligations, ∃ o' ∈ db'.obligations, o'.key = o.key ∧
    o'.accountableRoleId = o.accountableRoleId ∧ o'.payload = o.payload ∧
    (o.status ≠ .pending → o'.status = o.status)
  runs : ∀ r ∈ db.flowRuns, ∃ r' ∈ db'.flowRuns, r.Follows r'
  gates : ∀ g ∈ db.gates, ∃ status, { g with status } ∈ db'.gates ∧
    (g.status ≠ .pending → status = g.status)
  approvals : ∀ a ∈ db.approvals, ∃ decision, { a with decision } ∈ db'.approvals
  sponsors : ∀ s ∈ db.sponsors, s ∈ db'.sponsors

lemma FlowKept.refl (db : Db) : FlowKept db db where
  governance _ hg := hg
  obligations o ho := ⟨o, ho, rfl, rfl, rfl, fun _ => rfl⟩
  runs r hr := ⟨r, hr, .refl r⟩
  gates g hg := ⟨g.status, hg, fun _ => rfl⟩
  approvals a ha := ⟨a.decision, ha⟩
  sponsors _ hs := hs

lemma FlowKept.trans {db₁ db₂ db₃ : Db} (h : FlowKept db₁ db₂) (h' : FlowKept db₂ db₃) :
    FlowKept db₁ db₃ where
  governance g hg := h'.governance g (h.governance g hg)
  obligations o ho := by
    obtain ⟨o₂, ho₂, hkey₂, hrole₂, hpayload₂, hstatus₂⟩ := h.obligations o ho
    obtain ⟨o₃, ho₃, hkey₃, hrole₃, hpayload₃, hstatus₃⟩ := h'.obligations o₂ ho₂
    refine ⟨o₃, ho₃, hkey₃.trans hkey₂, hrole₃.trans hrole₂, hpayload₃.trans hpayload₂,
      fun hne => ?_⟩
    have hsame := hstatus₂ hne
    rw [hstatus₃ (hsame ▸ hne), hsame]
  runs r hr := by
    obtain ⟨r₂, hr₂, hfollows₂⟩ := h.runs r hr
    obtain ⟨r₃, hr₃, hfollows₃⟩ := h'.runs r₂ hr₂
    exact ⟨r₃, hr₃, hfollows₂.trans hfollows₃⟩
  gates g hg := by
    obtain ⟨status₂, hg₂, hsame₂⟩ := h.gates g hg
    obtain ⟨status₃, hg₃, hsame₃⟩ := h'.gates _ hg₂
    refine ⟨status₃, hg₃, fun hne => ?_⟩
    have hsame := hsame₂ hne
    subst hsame
    exact hsame₃ hne
  approvals a ha := by
    obtain ⟨decision₂, ha₂⟩ := h.approvals a ha
    obtain ⟨decision₃, ha₃⟩ := h'.approvals { a with decision := decision₂ } ha₂
    exact ⟨decision₃, ha₃⟩
  sponsors s hs := h'.sponsors s (h.sponsors s hs)

lemma FlowRun.Moves.follows {run run' : FlowRun} (h : run.Moves e db db' run') :
    run.Follows run' := by
  cases h with
  | reserve p fields _ _ => exact ⟨rfl, rfl, Or.inr (Or.inr ⟨rfl, by simp⟩)⟩
  | promote p i _ => exact ⟨rfl, rfl, Or.inr (Or.inl (Nat.lt_succ_self _))⟩
  | pickup p i t _ _ _ => exact ⟨rfl, rfl, Or.inr (Or.inl (Nat.lt_succ_self _))⟩
  | complete o d _ _ _ => exact ⟨rfl, rfl, Or.inr (Or.inr ⟨rfl, by simp⟩)⟩
  | finish o d _ _ => exact ⟨rfl, rfl, Or.inr (Or.inl (Nat.lt_succ_self _))⟩

/-- **Every step keeps the evidence, the obligations and the flows.** -/
theorem FlowChange.kept (h : FlowChange e db db') : FlowKept db db' where
  governance g hg := by
    rcases h.governance with hsame | ⟨g', -, hins⟩
    · rwa [hsame]
    · exact (Table.mem_of_insert hins g).2 (Or.inl hg)
  obligations o ho := by
    rcases h.obligations with hsame | ⟨_, os, -, hinserted⟩ |
      ⟨o', ho', status, evidence, hmoves, hset⟩
    · exact ⟨o, hsame ▸ ho, rfl, rfl, rfl, fun _ => rfl⟩
    · exact ⟨o, (hinserted.mem_iff o).2 (Or.inl ho), rfl, rfl, rfl, fun _ => rfl⟩
    · by_cases hk : o.key = o'.key
      · obtain rfl := db.obligations.eq_of_key ho ho' hk
        refine ⟨{ o with status, evidence := evidence o }, ?_, rfl, rfl, rfl, fun hne => ?_⟩
        · rw [hset]
          exact Table.mem_update_of_pos (p := fun p => p.key = o.key) ho rfl
        · cases hmoves with
          | satisfied hpending _ => exact absurd hpending hne
          | dispatched hopen _ => exact (hopen.resolve_left hne).symm
      · refine ⟨o, ?_, rfl, rfl, rfl, fun _ => rfl⟩
        rw [hset]
        exact Table.mem_update_of_neg ho hk
  runs r hr := by
    rcases h.flowRuns with hsame | ⟨_, run, -, -, hins⟩ | ⟨run, hrun, f, hmoves, hset⟩
    · exact ⟨r, hsame ▸ hr, .refl r⟩
    · exact ⟨r, (Table.mem_of_insert hins r).2 (Or.inl hr), .refl r⟩
    · by_cases hk : r.key = run.key
      · obtain rfl := db.flowRuns.eq_of_key hr hrun hk
        refine ⟨f.set r, ?_, hmoves.follows⟩
        rw [hset]
        exact Table.mem_update_of_pos (p := fun s => s.key = r.key) hr rfl
      · refine ⟨r, ?_, .refl r⟩
        rw [hset]
        exact Table.mem_update_of_neg hr hk
  gates g hg := by
    cases h.kernel with
    | same _ gates _ => exact ⟨g.status, gates ▸ hg, fun _ => rfl⟩
    | created _ _ _ gates _ => exact ⟨g.status, gates ▸ hg, fun _ => rfl⟩
    | moved _ _ _ _ _ _ _ gates _ => exact ⟨g.status, gates ▸ hg, fun _ => rfl⟩
    | assigned _ _ _ gates _ => exact ⟨g.status, gates ▸ hg, fun _ => rfl⟩
    | opened _ _ _ _ _ _ _ _ _ insert _ =>
      exact ⟨g.status, (Table.mem_of_insert insert g).2 (Or.inl hg), fun _ => rfl⟩
    | resolved g' _ status hg' hpending _ _ _ _ _ gates _ =>
      rw [gates]
      by_cases hk : g.key = g'.key
      · obtain rfl := db.gates.eq_of_key hg hg' hk
        refine ⟨status, ?_, fun hne => absurd hpending hne⟩
        exact Table.mem_update_of_pos (p := fun k => k.key = g.key) hg rfl
      · exact ⟨g.status, Table.mem_update_of_neg hg hk, fun _ => rfl⟩
  approvals a ha := by
    cases h.kernel with
    | same _ _ approvals => exact ⟨a.decision, approvals ▸ ha⟩
    | created _ _ _ _ approvals => exact ⟨a.decision, approvals ▸ ha⟩
    | moved _ _ _ _ _ _ _ _ approvals => exact ⟨a.decision, approvals ▸ ha⟩
    | assigned _ _ _ _ approvals => exact ⟨a.decision, approvals ▸ ha⟩
    | opened _ _ _ _ _ _ _ _ _ _ asked => exact ⟨a.decision, (asked a).2 (Or.inl ha)⟩
    | resolved _ _ _ _ _ _ _ _ _ _ _ approvals =>
      rcases approvals with hsame | ⟨b, -, -, key, d, -, hset⟩
      · exact ⟨a.decision, hsame ▸ ha⟩
      · rw [hset]
        by_cases hk : a.key = key
        · exact ⟨some d, Table.mem_update_of_pos (p := fun c => c.key = key) ha hk⟩
        · exact ⟨a.decision, Table.mem_update_of_neg ha hk⟩
  sponsors := h.sponsors

/-- What a run of the system keeps. -/
lemma FlowSystem.run_kept (s : FlowSystem) (es : List FlowEvent) :
    FlowKept s.db (run FlowSystem.step s es).db :=
  rel_run (I := fun _ => True) (R := fun s s' : FlowSystem => FlowKept s.db s'.db)
    (fun s => FlowKept.refl s.db) (fun _ _ _ => FlowKept.trans) (fun _ _ _ => trivial)
    (fun s e _ => (s.step_change e).kept) trivial es

end AgenticMesh
