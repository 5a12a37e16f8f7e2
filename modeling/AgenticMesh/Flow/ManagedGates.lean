import AgenticMesh.Flow.Changes
import AgenticMesh.Flow.SponsorEvents
import AgenticMesh.Lifecycle.Gates

/-!
# Managed gates

A gate of a flow is resolved by the coordinator in one transaction with its
obligation and its continuation, unless the lifecycle store decides it: that
store looks at no flow.  Where it leaves the managed gates alone, their statuses
tell what the coordinator did.
-/

namespace AgenticMesh

open SponsorApprovals

variable {e : FlowEvent} {db db' mid : Db} {g : Gate} {l : FlowLink}

/-! ## Gated work items -/

/-- Every step keeps the gated items and the pending gates together. -/
lemma GatedInv.change (h : GatedInv db) (hchange : KernelChange e db db') : GatedInv db' := by
  cases hchange with
  | same workItems gates _ => exact h.of_eq workItems gates
  | created w new insert gates _ => exact h.created new insert gates
  | moved r w reason evidence direct _ workItems gates _ =>
    exact (h.updateWork direct.mem direct.not_gated direct.target_not_gated reason evidence).of_eq
      workItems gates
  | assigned work roleId workItems gates _ =>
    refine GatedInv.of_eq (h.updateKept work _ fun w => ?_) workItems gates
    rfl
  | opened g w _ mem key active pending _ workItems insert _ =>
    exact h.enters mem active key.symm pending insert workItems
  | resolved g w status mem pending _ key _ resolved workItems gates _ =>
    exact h.leaves mem pending resolved key workItems gates

/-! ## One transaction of the lifecycle store -/

namespace LifecycleStore

/-- What `decide_gate` asks of a gate and of its sponsor; it looks at no flow. -/
structure Takes (r : DecisionRequest) (g : Gate) (db : Db) : Prop where
  mem : g ∈ db.gates
  project : required r.projectId = some g.projectId
  gate : required r.gateId = some g.gateId
  pending : g.status = .pending
  rationale : required r.decision.rationale ≠ none
  storable : ∀ rationale, required r.decision.rationale = some rationale →
    ({ r.decision with rationale } : Decision).storable = true
  approval : ∃ s b, required r.sponsorId = some s ∧
    approvalOf g.projectId g.gateId s db = some b ∧ b.decision = none

lemma takes_of_ok {r : DecisionRequest} {a : Approval} (h : decideGate r db = .ok (a, db')) :
    ∃ g, Takes r g db := by
  simp only [decideGate, requireText, lockWorkItem, Tx.demand_bind_ok, Tx.require_bind_ok] at h
  obtain ⟨p, hp, i, hi, s, hs, rationale, hrationale, g, hg, hpending, b, hb, hundecided, w, -, -,
    hstorable, -⟩ := h
  obtain ⟨hmem, hkey⟩ := Table.lookup_eq_some.1 hg
  obtain ⟨rfl, rfl⟩ := Prod.mk.inj hkey
  refine ⟨g, hmem, hp, hi, hpending, by simp [hrationale], fun t ht => ?_, s, b, hs, hb,
    hundecided⟩
  obtain rfl := Option.some.inj (hrationale.symm.trans ht)
  exact hstorable

/-- A gate that is asked for is decided, as its work item is gated. -/
lemma Takes.decides {r : DecisionRequest} (h : Takes r g db) (hinv : GatedInv db) :
    ∃ a db', decideGate r db = .ok (a, db') ∧
      { g with status := decidedStatus r.decision } ∈ db'.gates := by
  obtain ⟨rationale, hrationale⟩ := Option.ne_none_iff_exists'.1 h.rationale
  obtain ⟨s, b, hs, hb, hundecided⟩ := h.approval
  obtain ⟨w, hw, hwork, hgated⟩ := hinv.pending.gated g h.mem h.pending
  have hlookup : db.workItems.lookup (g.projectId, g.workItemId) = some w :=
    Table.lookup_eq_some.2 ⟨hw, hwork⟩
  have hok : ∃ db', decideGate r db =
      .ok ({ b with decision := some { r.decision with rationale } }, db') ∧
      db' = ((db.decideApproval b.key { r.decision with rationale }).resolveGate g.key
        (decidedStatus r.decision)).updateWork (g.projectId, g.workItemId) (entered .active) := by
    refine ⟨_, ?_, rfl⟩
    simp only [decideGate, requireText, lockWorkItem, Tx.demand_bind_ok, Tx.require_bind_ok,
      Tx.modify_bind_ok, Tx.pure_ok]
    exact ⟨_, h.project, _, h.gate, _, hs, _, hrationale, g, Table.lookup_mem h.mem, h.pending, b,
      hb, hundecided, w, hlookup, hgated, h.storable _ hrationale, rfl⟩
  obtain ⟨db', hok, rfl⟩ := hok
  exact ⟨_, _, hok, Table.mem_update_of_pos h.mem rfl⟩

end LifecycleStore

/-! ## One transaction of the coordinator -/

/-- The checks of a draft look at no table. -/
lemma RouteDraft.init_any {d d' : RouteDraft} (h : d.init db = .ok (d', db)) (db' : Db) :
    d.init db' = .ok (d', db') := by
  simp only [RouteDraft.init, Tx.demand_bind_ok, Tx.require_bind_ok, Tx.pure_ok,
    Prod.mk.injEq] at h ⊢
  obtain ⟨p, hp, w, hw, t, ht, k, hk, c, hc, hpriority, hd, -⟩ := h
  exact ⟨p, hp, w, hw, t, ht, k, hk, c, hc, hpriority, hd, trivial⟩

/-- The work of a resolved gate goes on in one queue item of a role. -/
def Continued (g : Gate) (l : FlowLink) (roleId outcome : String) (db db' : Db) : Prop :=
  ∃ actorId d item, (gateDraft g l roleId outcome actorId).init db = .ok (d, db) ∧
    item ∈ db'.queueItems ∧ item.routeKey = (d.projectId, d.idempotencyKey) ∧
    item.routeFingerprint = some d.fingerprint ∧
    (db'.queueItems = db.queueItems ∨ ∃ q ∈ db.queues, RoleQueue.Targets d db q ∧
      item.queueId = q.queueId ∧ db.queueItems.insert item = some db'.queueItems)

lemma SponsorApprovals.Routes.continued {roleId outcome actorId : String} {now : Time}
    (h : Routes g l roleId outcome actorId now mid db') (hitems : mid.queueItems = db.queueItems)
    (hqueues : mid.queues = db.queues) (hroles : mid.roles = db.roles) :
    Continued g l roleId outcome db db' := by
  obtain ⟨d, item, hinit, hroute⟩ := h.draft
  refine ⟨actorId, d, item, RouteDraft.init_any hinit db, ?_⟩
  rw [← hitems, ← hqueues]
  obtain ⟨rfl, hmem, hkey, hprint⟩ | ⟨q, hq, htargets, -, rfl, hins⟩ :=
    Router.routeInTransaction_ok hroute
  · exact ⟨hmem, hkey, hprint, Or.inl rfl⟩
  · unfold Db.insertItem at hins
    split at hins
    · obtain ⟨queueItems, hrow, rfl⟩ := Option.map_eq_some_iff.1 hins
      refine ⟨(Table.mem_of_insert hrow _).2 (Or.inr rfl), rfl, rfl, Or.inr ⟨q, hq, ?_, rfl, hrow⟩⟩
      obtain ⟨hproject, hrole, hcapability, hpaused, hactive⟩ := htargets
      rw [hroles] at hactive
      exact ⟨hproject, hrole, hcapability, hpaused, hactive⟩
    · cases hins

/-- The coordinator approves a pending gate: its obligation becomes satisfied, the decision is
recorded, and the owner of the flow goes on. -/
structure SponsorApproves (e : FlowEvent) (g : Gate) (l : FlowLink) (db db' : Db) : Prop where
  event : ∃ r clock, e = .decideSponsor r clock
  pending : g ∈ db.gates ∧ g.flowLink = some l ∧ g.status = .pending
  gate : ∃ operation, { g with status := .approved (some operation) } ∈ db'.gates
  obligation : ∃ o ∈ db.obligations, o.key = g.obligationKey l ∧ o.status = .pending ∧
    ∃ evidence, { o with status := .satisfied, evidence } ∈ db'.obligations
  record : ∃ record, record.key = (g.projectId, "sponsor:" ++ g.gateId) ∧
    record.obligationKey = g.obligationKey l ∧ record.decision = .approved ∧
    db.governance.insert record = some db'.governance
  continuation : ∃ run ∈ db.flowRuns, run.entry = g.flowEntry l ∧
    Continued g l run.ownerRoleId "approved" db db'

/-- The coordinator resolves a pending gate that is not approved: its obligation stays pending, and
the project manager goes on. -/
structure TurnsDown (status : GateOperation → GateStatus) (outcome : String) (g : Gate)
    (l : FlowLink) (db db' : Db) : Prop where
  pending : g ∈ db.gates ∧ g.flowLink = some l ∧ g.status = .pending
  gate : ∃ operation, { g with status := status operation } ∈ db'.gates
  obligation : db'.obligations = db.obligations ∧
    ∃ o ∈ db.obligations, o.key = g.obligationKey l ∧ o.status = .pending
  continuation : Continued g l "project-manager" outcome db db'

/-- A sponsor rejects a gate. -/
def SponsorRejects (e : FlowEvent) (g : Gate) (l : FlowLink) (db db' : Db) : Prop :=
  (∃ r clock, e = .decideSponsor r clock) ∧
    TurnsDown (fun operation => .rejected (some operation)) "rejected" g l db db'

/-- The time of a gate runs out. -/
def SponsorExpires (e : FlowEvent) (g : Gate) (l : FlowLink) (db db' : Db) : Prop :=
  (∃ r clock, e = .timeoutSponsor r clock) ∧ TurnsDown .timedOut "timed_out" g l db db'

/-- How the coordinator gives a gate its status. -/
def SponsorSettles (e : FlowEvent) (g : Gate) (l : FlowLink) (db db' : Db) : GateStatus → Prop
  | .pending => False
  | .approved _ => SponsorApproves e g l db db'
  | .rejected _ => SponsorRejects e g l db db'
  | .timedOut _ => SponsorExpires e g l db db'

section Settles

variable {a : Approval} {sponsorId digest operationId : String} {d : Decision} {clock : DecideClock}
  {run : FlowRun} {artifact : String × String}

lemma settled_queues (g : Gate) (l : FlowLink) (approvalId : String) (d : Decision)
    (operation : GateOperation) (governance : Table GovernanceRecord GovernanceRecord.key)
    (db : Db) :
    (settled g l approvalId d operation governance db).queueItems = db.queueItems ∧
      (settled g l approvalId d operation governance db).queues = db.queues ∧
      (settled g l approvalId d operation governance db).roles = db.roles := by
  unfold settled
  dsimp only
  split <;> exact ⟨rfl, rfl, rfl⟩

lemma SponsorApprovals.Decides.settles
    (h : Decides g l a sponsorId digest operationId d clock run artifact db db')
    (r : SponsorDecisionRequest) :
    SponsorSettles (.decideSponsor r clock) g l db db'
      (decidedStatus d ⟨operationId, digest⟩) := by
  have hpending := And.intro h.waiting.mem (And.intro h.waiting.link h.waiting.pending)
  obtain ⟨o, ho, hokey, hopending⟩ := h.waiting.obligation
  obtain ⟨governance, -, hroutes⟩ := h.effect
  obtain ⟨hitems, hqueues, hroles⟩ := settled_queues g l (g.gateId ++ ":" ++ sponsorId) d
    ⟨operationId, digest⟩ governance db
  have hcontinued := hroutes.continued hitems hqueues hroles
  obtain ⟨_, obligations, queueItems, rfl, hins, hobligations⟩ := h.tables
  have hgate : { g with status := decidedStatus d ⟨operationId, digest⟩ } ∈
      (db.resolveGate g.key (decidedStatus d ⟨operationId, digest⟩)).gates :=
    Table.mem_update_of_pos h.waiting.mem rfl
  rcases hobligations with ⟨hd, rfl⟩ | ⟨hd, rfl⟩
  · have hstatus : decidedStatus d ⟨operationId, digest⟩ =
        .rejected (some ⟨operationId, digest⟩) := by
      simp [decidedStatus, hd]
    rw [hstatus] at hgate ⊢
    simp only [decidedRole, Decision.text, hd, Bool.false_eq_true, if_false] at hcontinued
    exact ⟨⟨r, clock, rfl⟩, hpending, ⟨_, hgate⟩, ⟨rfl, o, ho, hokey, hopending⟩, hcontinued⟩
  · have hstatus : decidedStatus d ⟨operationId, digest⟩ =
        .approved (some ⟨operationId, digest⟩) := by
      simp [decidedStatus, hd]
    rw [hstatus] at hgate ⊢
    simp only [decidedRole, Decision.text, hd, if_true] at hcontinued
    refine ⟨⟨r, clock, rfl⟩, hpending, ⟨_, hgate⟩,
      ⟨o, ho, hokey, hopending, approvalEvidence g (g.gateId ++ ":" ++ sponsorId), ?_⟩,
      ⟨_, rfl, rfl, ?_, hins⟩, run, h.waiting.run_mem, h.waiting.entry, hcontinued⟩
    · exact Table.mem_update_of_pos (p := fun p => p.key = g.obligationKey l) ho hokey
    · simp [decisionRecord, hd]

lemma SponsorApprovals.TimesOut.settles {actorId : String} {effectiveAt routed : Time}
    (h : TimesOut g l actorId operationId effectiveAt routed run artifact db db')
    (r : SponsorTimeoutRequest) (clock : DecideClock) :
    SponsorSettles (.timeoutSponsor r clock) g l db db'
      (.timedOut ⟨operationId, sponsorTimeoutDigest g.gateId⟩) := by
  have hcontinued : Continued g l "project-manager" "timed_out" db db' :=
    h.effect.continued rfl rfl rfl
  obtain ⟨queueItems, rfl⟩ := h.tables
  refine ⟨⟨r, clock, rfl⟩, ⟨h.waiting.mem, h.waiting.link, h.waiting.pending⟩,
    ⟨⟨operationId, sponsorTimeoutDigest g.gateId⟩, ?_⟩, ⟨rfl, h.waiting.obligation⟩, hcontinued⟩
  exact Table.mem_update_of_pos (p := fun k => k.key = g.key) h.waiting.mem rfl

end Settles

/-! ## Where a gate gets its status -/

lemma Gate.pending_eq (h : g.status = .pending) : { g with status := .pending } = g := by
  cases g
  cases h
  rfl

/-- Where a row of the gates comes from. -/
inductive GateSource (e : FlowEvent) (db db' : Db) (g : Gate) : Prop
  | kept (mem : g ∈ db.gates)
  | opened (pending : g.status = .pending)
  | decided (r : DecisionRequest) (event : e = .decideGate r)
      (mem : { g with status := .pending } ∈ db.gates)
      (named : required r.projectId = some g.projectId ∧ required r.gateId = some g.gateId)
  | settled (l : FlowLink) (link : g.flowLink = some l)
      (settles : SponsorSettles e { g with status := .pending } l db db' g.status)

lemma FlowChange.gateSource (h : FlowChange e db db') (hg : g ∈ db'.gates) :
    GateSource e db db' g := by
  cases h with
  | same h => exact .kept (h.gates ▸ hg)
  | createProject _ => exact .kept hg
  | createWork _ _ => exact .kept hg
  | transition _ => exact .kept hg
  | completed _ => exact .kept hg
  | openGate _ _ pending _ _ insert _ =>
    rcases (Table.mem_of_insert insert g).1 hg with hold | rfl
    · exact .kept hold
    · exact .opened pending
  | decideGate mem named pending _ _ _ _ _ =>
    rcases Table.mem_update_cases hg with ⟨g₀, hg₀, hkey, rfl⟩ | ⟨hold, -⟩
    · obtain rfl := db.gates.eq_of_key hg₀ mem hkey
      refine .decided _ rfl ?_ named
      show { g₀ with status := .pending } ∈ db.gates
      rw [Gate.pending_eq pending]
      exact mem
    · exact .kept hold
  | start h =>
    obtain ⟨s, -, -, w, -, -, -, _, _, _, -, -, -, rfl⟩ := h.state
    exact .kept hg
  | dispatch h =>
    obtain ⟨_, rfl⟩ := h.effect
    exact .kept hg
  | reserve h =>
    obtain rfl := h.effect
    exact .kept hg
  | promote h =>
    obtain ⟨_, -, -, _, -, rfl⟩ := h.route
    exact .kept hg
  | pickup h =>
    obtain ⟨_, _, _, -, -, -, -, -, -, _, _, -, -, rfl⟩ := h.target
    exact .kept hg
  | reserveCompletion h =>
    obtain rfl := h.effect
    exact .kept hg
  | finish h =>
    obtain ⟨_, -, rfl⟩ := h.effect
    exact .kept hg
  | verify h =>
    obtain ⟨_, _, -, -, -, -, -, -, _, -, rfl⟩ := h.locked
    exact .kept hg
  | consult h =>
    obtain ⟨_, _, -, -, -, -, _, -, rfl⟩ := h.locked
    exact .kept hg
  | review _ h =>
    obtain ⟨_, _, _, rfl, -⟩ := h.effect
    exact .kept hg
  | openSponsor _ h =>
    obtain ⟨run, -, -, -, ⟨gateType, rfl⟩, -⟩ := h.run
    obtain ⟨gates, _, insert, -, -, rfl⟩ := h.effect
    rcases (Table.mem_of_insert insert g).1 hg with hold | rfl
    · exact .kept hold
    · exact .opened rfl
  | @decideSponsor r g₁ l a sponsorId digest operationId d clock run artifact db db' _ _ h =>
    have hsettles := h.settles r
    have hgates : db'.gates =
        (db.resolveGate g₁.key (decidedStatus d ⟨operationId, digest⟩)).gates := by
      obtain ⟨_, _, _, rfl, -⟩ := h.tables
      rfl
    rw [hgates] at hg
    rcases Table.mem_update_cases hg with ⟨g₀, hg₀, hkey, rfl⟩ | ⟨hold, -⟩
    · obtain rfl := db.gates.eq_of_key hg₀ h.waiting.mem hkey
      refine .settled l h.waiting.link ?_
      show SponsorSettles _ { g₀ with status := .pending } l db db' _
      rw [Gate.pending_eq h.waiting.pending]
      exact hsettles
    · exact .kept hold
  | @timeoutSponsor r g₁ l actorId operationId effectiveAt clock run artifact db db' h =>
    have hsettles := h.settles r clock
    have hgates : db'.gates = (db.resolveGate g₁.key
        (.timedOut ⟨operationId, sponsorTimeoutDigest g₁.gateId⟩)).gates := by
      obtain ⟨_, rfl⟩ := h.tables
      rfl
    rw [hgates] at hg
    rcases Table.mem_update_cases hg with ⟨g₀, hg₀, hkey, rfl⟩ | ⟨hold, -⟩
    · obtain rfl := db.gates.eq_of_key hg₀ h.waiting.mem hkey
      refine .settled l h.waiting.link ?_
      show SponsorSettles _ { g₀ with status := .pending } l db db' _
      rw [Gate.pending_eq h.waiting.pending]
      exact hsettles
    · exact .kept hold

/-! ## Runs that leave the managed gates to the coordinator -/

lemma along_of_steps {σ ε : Type*} {step : σ → ε → σ} {G : σ → ε → Prop} {s : σ} {es : List ε}
    (h : ∀ fs e gs, es = fs ++ e :: gs → G (run step s fs) e) : Along step G s es := by
  induction es generalizing s with
  | nil => trivial
  | cons e es ih =>
    refine ⟨h [] e es rfl, ih fun fs e' gs hsplit => h (e :: fs) e' gs ?_⟩
    rw [hsplit, List.cons_append]

namespace FlowSystem

/-- The lifecycle store decides no managed gate. -/
def LeavesManaged (s : FlowSystem) : FlowEvent → Prop
  | .decideGate r => ∀ g, LifecycleStore.Takes r g s.db → g.flowLink = none
  | _ => True

/-- No gate was opened yet. -/
structure Ungated (s : FlowSystem) : Prop where
  gates : s.db.gates = ∅
  work : ∀ w ∈ s.db.workItems, w.status ≠ .gated

/-- A step of a run does something to the database. -/
def Happens (s : FlowSystem) (es : List FlowEvent) (P : FlowEvent → Db → Db → Prop) : Prop :=
  ∃ fs e gs, es = fs ++ e :: gs ∧ P e (run step s fs).db (run step s (fs ++ [e])).db

lemma Happens.append {s : FlowSystem} {es : List FlowEvent} {P : FlowEvent → Db → Db → Prop}
    (h : Happens s es P) (es' : List FlowEvent) : Happens s (es ++ es') P := by
  obtain ⟨fs, e, gs, rfl, hP⟩ := h
  exact ⟨fs, e, gs ++ es', by simp, hP⟩

lemma gatedInv_run {s : FlowSystem} (h : Ungated s) (es : List FlowEvent) :
    GatedInv (run step s es).db := by
  refine invariant_run (I := fun s : FlowSystem => GatedInv s.db)
    (fun s e hs => hs.change (s.step_change e).kernel) ⟨⟨?_, ?_⟩, ?_⟩ es
  · intro g hg
    rw [h.gates] at hg
    exact absurd hg (Table.notMem_empty g)
  · intro g hg
    rw [h.gates] at hg
    exact absurd hg (Table.notMem_empty g)
  · exact fun w hw hgated => absurd hgated (h.work w hw)

/-- A resolved gate stays as it is. -/
lemma resolved_stays (s : FlowSystem) (es : List FlowEvent) {g : Gate} (hg : g ∈ s.db.gates)
    (hresolved : g.status ≠ .pending) : g ∈ (run step s es).db.gates := by
  obtain ⟨status, hg', hsame⟩ := (run_kept s es).gates g hg
  obtain rfl := hsame hresolved
  exact hg'

/-- A gate has the status that one step of the run gave it. -/
lemma status_of_step {s : FlowSystem} {es : List FlowEvent} {status : GateStatus}
    (hstatus : status ≠ .pending) {g : Gate} (hg : g ∈ (run step s es).db.gates)
    (h : Happens s es fun _ _ db' => { g with status } ∈ db'.gates) : g.status = status := by
  obtain ⟨fs, e, gs, rfl, hmem⟩ := h
  have hstays := resolved_stays _ gs hmem hstatus
  rw [← run_append, List.append_assoc, List.singleton_append] at hstays
  have hrow := (run step s (fs ++ e :: gs)).db.gates.eq_of_key hg hstays rfl
  rw [hrow]

/-- The coordinator gave every resolved managed gate its status. -/
lemma settled_of_resolved {s : FlowSystem} (h : Ungated s) {es : List FlowEvent}
    (hleaves : Along step LeavesManaged s es) {g : Gate} {l : FlowLink}
    (hg : g ∈ (run step s es).db.gates) (hlink : g.flowLink = some l)
    (hresolved : g.status ≠ .pending) :
    Happens s es fun e db db' =>
      SponsorSettles e { g with status := .pending } l db db' g.status := by
  induction es using List.reverseRecOn with
  | nil =>
    rw [run_nil, h.gates] at hg
    exact absurd hg (Table.notMem_empty g)
  | append_singleton es e ih =>
    obtain ⟨hbefore, hlast⟩ := (along_append _).1 hleaves
    have hstep : run step s (es ++ [e]) = (run step s es).step e := by
      rw [run_append]
      rfl
    rw [hstep] at hg
    cases ((run step s es).step_change e).gateSource hg with
    | kept mem => exact (ih hbefore mem).append [e]
    | opened pending => exact absurd pending hresolved
    | decided r event mem named =>
      obtain rfl := event
      cases hdecide : LifecycleStore.decideGate r (run step s es).db with
      | error e =>
        -- a decision that is refused resolves nothing
        have hsame : ((run step s es).step (.decideGate r)).db = (run step s es).db :=
          Tx.commit_of_error hdecide
        rw [hsame] at hg
        have hrow := (run step s es).db.gates.eq_of_key hg mem rfl
        exact absurd (congrArg Gate.status hrow) hresolved
      | ok out =>
        obtain ⟨g₀, htakes⟩ := LifecycleStore.takes_of_ok hdecide
        have hkey : g₀.key = g.key := Prod.ext
          (Option.some.inj (htakes.project.symm.trans named.1))
          (Option.some.inj (htakes.gate.symm.trans named.2))
        have hrow := (run step s es).db.gates.eq_of_key htakes.mem mem hkey
        have hnone := hlast.1 g₀ htakes
        rw [hrow, hlink] at hnone
        cases hnone
    | settled l' link settles =>
      obtain rfl := Option.some.inj (hlink.symm.trans link)
      refine ⟨es, e, [], rfl, ?_⟩
      rw [hstep]
      exact settles

/-- A decision of the lifecycle store stays, and it has no operation of the coordinator. -/
lemma decided_stays {s : FlowSystem} (h : Ungated s) (fs gs : List FlowEvent)
    {r : DecisionRequest} {g : Gate} (htakes : LifecycleStore.Takes r g (run step s fs).db) :
    { g with status := LifecycleStore.decidedStatus r.decision } ∈
      (run step s (fs ++ .decideGate r :: gs)).db.gates := by
  obtain ⟨a, db', hdecide, hmem⟩ := htakes.decides (gatedInv_run h fs)
  have hstep : ((run step s fs).step (.decideGate r)).db = db' := Tx.commit_of_ok hdecide
  rw [run_append, run_cons]
  refine resolved_stays _ gs ?_ (LifecycleStore.decidedStatus_ne r.decision)
  rw [hstep]
  exact hmem

end FlowSystem

/-- What the gates of a run tell. -/
structure GatesSettled (s : FlowSystem) (es : List FlowEvent) : Prop where
  gated : ∀ w ∈ (run FlowSystem.step s es).db.workItems, w.status = .gated ↔
    ∃! g, g ∈ (run FlowSystem.step s es).db.gates ∧ g.workKey = w.key ∧ g.status = .pending
  once : ∀ fs gs, es = fs ++ gs → ∀ g ∈ (run FlowSystem.step s fs).db.gates,
    g.status ≠ .pending → g ∈ (run FlowSystem.step s es).db.gates
  approved : ∀ g ∈ (run FlowSystem.step s es).db.gates, ∀ l, g.flowLink = some l →
    ((∃ operation, g.status = .approved operation) ↔ s.Happens es fun e db db' =>
      SponsorApproves e { g with status := .pending } l db db')
  rejected : ∀ g ∈ (run FlowSystem.step s es).db.gates, ∀ l, g.flowLink = some l →
    ((∃ operation, g.status = .rejected operation) ↔ s.Happens es fun e db db' =>
      SponsorRejects e { g with status := .pending } l db db')
  timedOut : ∀ g ∈ (run FlowSystem.step s es).db.gates, ∀ l, g.flowLink = some l →
    ((∃ operation, g.status = .timedOut operation) ↔ s.Happens es fun e db db' =>
      SponsorExpires e { g with status := .pending } l db db')

lemma gatesSettled_of_leaves {s : FlowSystem} (h : s.Ungated) {es : List FlowEvent}
    (hleaves : Along FlowSystem.step FlowSystem.LeavesManaged s es) : GatesSettled s es := by
  have hinv := FlowSystem.gatedInv_run h es
  constructor
  · exact fun w hw => hinv.gated_iff hw
  · rintro fs gs rfl g hg hresolved
    rw [run_append]
    exact FlowSystem.resolved_stays _ gs hg hresolved
  · intro g hg l hlink
    constructor
    · rintro ⟨operation, hstatus⟩
      have hsettled := FlowSystem.settled_of_resolved h hleaves hg hlink (by simp [hstatus])
      rwa [hstatus] at hsettled
    · rintro ⟨fs, e, gs, rfl, happroves⟩
      obtain ⟨operation, hgate⟩ := happroves.gate
      exact ⟨_, FlowSystem.status_of_step (by simp) hg ⟨fs, e, gs, rfl, hgate⟩⟩
  · intro g hg l hlink
    constructor
    · rintro ⟨operation, hstatus⟩
      have hsettled := FlowSystem.settled_of_resolved h hleaves hg hlink (by simp [hstatus])
      rwa [hstatus] at hsettled
    · rintro ⟨fs, e, gs, rfl, -, hturns⟩
      obtain ⟨operation, hgate⟩ := hturns.gate
      exact ⟨_, FlowSystem.status_of_step (by simp) hg ⟨fs, e, gs, rfl, hgate⟩⟩
  · intro g hg l hlink
    constructor
    · rintro ⟨operation, hstatus⟩
      have hsettled := FlowSystem.settled_of_resolved h hleaves hg hlink (by simp [hstatus])
      rwa [hstatus] at hsettled
    · rintro ⟨fs, e, gs, rfl, -, hturns⟩
      obtain ⟨operation, hgate⟩ := hturns.gate
      exact ⟨_, FlowSystem.status_of_step (by simp) hg ⟨fs, e, gs, rfl, hgate⟩⟩

/-- A run that decides a managed gate in the lifecycle store has a status without a cause. -/
lemma GatesSettled.leaves {s : FlowSystem} {es : List FlowEvent} (hsettled : GatesSettled s es)
    (h : s.Ungated) : Along FlowSystem.step FlowSystem.LeavesManaged s es := by
  refine along_of_steps fun fs e gs hsplit => ?_
  cases e with
  | decideGate r =>
    intro g htakes
    have hg := FlowSystem.decided_stays h fs gs htakes
    rw [← hsplit] at hg
    cases hlink : g.flowLink with
    | none => rfl
    | some l =>
      cases happroved : r.decision.approved with
      | true =>
        have hstatus : LifecycleStore.decidedStatus r.decision = .approved none := by
          simp [LifecycleStore.decidedStatus, happroved]
        rw [hstatus] at hg
        obtain ⟨fs', e', gs', hsplit', happroves⟩ := (hsettled.approved _ hg l hlink).1 ⟨none, rfl⟩
        obtain ⟨operation, hgate⟩ := happroves.gate
        have hone := FlowSystem.status_of_step (by simp) hg ⟨fs', e', gs', hsplit', hgate⟩
        simp at hone
      | false =>
        have hstatus : LifecycleStore.decidedStatus r.decision = .rejected none := by
          simp [LifecycleStore.decidedStatus, happroved]
        rw [hstatus] at hg
        obtain ⟨fs', e', gs', hsplit', -, hturns⟩ := (hsettled.rejected _ hg l hlink).1 ⟨none, rfl⟩
        obtain ⟨operation, hgate⟩ := hturns.gate
        have hone := FlowSystem.status_of_step (by simp) hg ⟨fs', e', gs', hsplit', hgate⟩
        simp at hone
  | _ => trivial

/-- **Managed gates.**  A work item is gated exactly while one gate of it waits, a gate is resolved
once, and a managed gate is approved, rejected or timed out exactly if the coordinator did all of it
in one step: so it is in the runs where the lifecycle store decides no managed gate, and in no
others. -/
theorem managed_gates_settled (s : FlowSystem) (h : s.Ungated) (es : List FlowEvent) :
    GatesSettled s es ↔ Along FlowSystem.step FlowSystem.LeavesManaged s es :=
  ⟨fun hsettled => hsettled.leaves h, gatesSettled_of_leaves h⟩

/-! ## A managed gate that the lifecycle store approves -/

/-- The built work item before its sponsor gate is opened. -/
def unaskedShop : FlowSystem where
  db := { gatedDb.db with
    sponsors := .single ⟨"p", "alice"⟩
    workItems := .single { gatedItem with status := .active }
    gates := ∅
    approvals := ∅ }
  tasks := []

/-- The developer asks a sponsor. -/
def askSponsor : FlowEvent :=
  .openSponsor (fun _ => false)
    { projectId := "p", workItemId := "w", gateId := "g", obligationId := "approve"
      requestedBy := "dev", sponsorIds := ["alice"], correlationId := "c", expectedVersion := 2 } 0

/-- The sponsor answers the coordinator. -/
def answerSponsor : FlowEvent := .decideSponsor (approveBuild (.obj [])) ⟨1, 1⟩

/-- The sponsor answers the lifecycle store. -/
def answerLifecycle : FlowEvent :=
  .decideGate ⟨"p", "g", "alice", ⟨true, "fine", .obj []⟩⟩

lemma unaskedShop_ungated : unaskedShop.Ungated := ⟨rfl, by decide⟩

theorem managed_gates_settled_build :
    GatesSettled unaskedShop [askSponsor, answerSponsor] :=
  (managed_gates_settled unaskedShop unaskedShop_ungated _).2 ⟨trivial, trivial, trivial⟩

/-- The lifecycle store approves a managed gate, and the coordinator did nothing. -/
theorem managed_gates_not_settled :
    ¬ ∀ (s : FlowSystem) (es : List FlowEvent), s.Ungated → GatesSettled s es := by
  intro hclaim
  have hsettled := hclaim unaskedShop [askSponsor, answerLifecycle] unaskedShop_ungated
  have happroved :
      ∃ g ∈ (run FlowSystem.step unaskedShop [askSponsor, answerLifecycle]).db.gates.rows,
        g.flowLink.isSome ∧ g.status = .approved none := by
    decide +kernel
  obtain ⟨g, hg, hlink, hstatus⟩ := happroved
  obtain ⟨l, hl⟩ := Option.isSome_iff_exists.1 hlink
  obtain ⟨fs, e, gs, hsplit, happroves⟩ := (hsettled.approved g hg l hl).1 ⟨none, hstatus⟩
  obtain ⟨r, clock, rfl⟩ := happroves.event
  have hmem : FlowEvent.decideSponsor r clock ∈ [askSponsor, answerLifecycle] := by
    rw [hsplit]
    simp
  rcases List.mem_cons.1 hmem with h | h
  · cases h
  · cases List.mem_singleton.1 h

end AgenticMesh
