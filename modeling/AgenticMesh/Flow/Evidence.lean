import AgenticMesh.Flow.Changes
import AgenticMesh.Flow.Replay

/-!
# The evidence of an entry

A run leaves a state entry only when every obligation that the entry raised is
fulfilled.  That is a check on statuses and decisions; what stands behind it is
an invariant of the evidence: every record was written for an obligation of its
own entry, by whom the obligation is accountable to, and about the version of the
artifact that was verified in that entry.
-/

namespace AgenticMesh

variable {e : FlowEvent} {db db' : Db}

/-! ## The obligations of an entry -/

/-- The key of the obligation that an action raises in the current entry of a run. -/
def FlowAction.obligationKey (a : FlowAction) (run : FlowRun) :
    String × String × String × ℕ × ObligationKind × String :=
  (run.projectId, run.workItemId, run.currentState, run.version, a.kind, a.actionId)

/-- The row that an action raised. -/
def FlowAction.RaisedBy (a : FlowAction) (run : FlowRun) (o : FlowObligation) : Prop :=
  o.key = a.obligationKey run ∧ o.accountableRoleId = a.roleId ∧ o.payload = a.payload

/-- A run is in a state of its flow, whose obligations were raised. -/
structure FlowRun.Entered (run : FlowRun) (db : Db) : Prop where
  state : ∃ s, run.flow.state run.currentState = some s ∧ run.ownerRoleId = s.ownerRole ∧
    ∀ a ∈ s.obligations run.fields, ∃ o ∈ db.obligations, a.RaisedBy run o

lemma FlowRun.Entered.mono {run : FlowRun} (h : run.Entered db) (hkept : FlowKept db db') :
    run.Entered db' := by
  obtain ⟨s, hs, howner, hraised⟩ := h.state
  refine ⟨s, hs, howner, fun a ha => ?_⟩
  obtain ⟨o, ho, hkey, hrole, hpayload⟩ := hraised a ha
  obtain ⟨o', ho', hkey', hrole', hpayload', -⟩ := hkept.obligations o ho
  exact ⟨o', ho', hkey'.trans hkey, hrole'.trans hrole, hpayload'.trans hpayload⟩

lemma FlowDefinition.state_mem {f : FlowDefinition} {i : String} {s : FlowState}
    (h : f.state i = some s) : s ∈ f.states ∧ s.stateId = i :=
  ⟨List.mem_of_find?_eq_some h, by simpa using List.find?_some h⟩

/-- A run that just entered a state, with the rows that were inserted for it. -/
lemma FlowRun.Entered.of_inserted {run : FlowRun} {s : FlowState}
    {obligations : Table FlowObligation FlowObligation.key}
    (hs : run.flow.state run.currentState = some s) (howner : run.ownerRoleId = s.ownerRole)
    (h : FlowEngine.Inserted (FlowEngine.newObligations run.projectId run.workItemId s run.fields
      run.version) db obligations) (hdb' : db'.obligations = obligations) : run.Entered db' := by
  refine ⟨s, hs, howner, fun a ha => ?_⟩
  refine ⟨FlowEngine.newObligation run.projectId run.workItemId s run.version a, ?_, ?_, rfl, rfl⟩
  · rw [hdb', h.mem_iff]
    exact Or.inr (List.mem_map_of_mem ha)
  · rw [FlowAction.obligationKey, ← (FlowDefinition.state_mem hs).2]
    rfl

/-- Every active run has the obligations of its entry. -/
def Db.Entered (db : Db) : Prop := ∀ run ∈ db.flowRuns, run.status = .active → run.Entered db

/-- A new run is in the entry state of its flow. -/
lemma FlowEngine.Started.entered {r : StartRequest} {run : FlowRun}
    (h : FlowEngine.Started r run db db') : run.Entered db' := by
  obtain ⟨s, hs, rfl, _, -, -, -, _, obligations, _, -, hinserted, -, rfl⟩ := h.state
  refine .of_inserted (s := s) ?_ rfl hinserted rfl
  have hid := (FlowDefinition.state_mem hs).2
  show r.flow.1.state s.stateId = some s
  rw [hid, hs]

lemma FlowChange.entered (h : FlowChange e db db') (hentered : db.Entered) : db'.Entered := by
  intro run hrun hactive
  have hkept := h.kept
  rcases h.flowRuns with hsame | ⟨r, new, -, hstarted, hins⟩ | ⟨old, hold, f, hmoves, hset⟩
  · exact (hentered run (hsame ▸ hrun) hactive).mono hkept
  · rcases (Table.mem_of_insert hins run).1 hrun with hrun | rfl
    · exact (hentered run hrun hactive).mono hkept
    · exact hstarted.entered
  · rw [hset] at hrun
    rcases Table.mem_update_cases hrun with ⟨run', hrun', hkey, hrow⟩ | ⟨hrun, -⟩
    · obtain rfl := db.flowRuns.eq_of_key hrun' hold hkey
      -- the only move into an active run is a pickup
      generalize hnext : f.set run' = next at hmoves hrow
      subst hrow
      cases hmoves with
      | reserve p fields _ _ => simp at hactive
      | promote p i _ => simp [FlowEngine.promoted] at hactive
      | pickup p i t hpending ht hinserted =>
        refine .of_inserted (s := t) ?_ rfl hinserted rfl
        have hid := (FlowDefinition.state_mem ht).2
        show run'.flow.state t.stateId = some t
        rw [hid, ht]
      | complete o d _ _ _ => simp at hactive
      | finish o d _ _ => simp [FlowEngine.finished] at hactive
    · exact (hentered run hrun hactive).mono hkept

/-! ## Entries are entered once -/

/-- Every obligation belongs to an entry that its run has reached. -/
def Db.Raised (db : Db) : Prop :=
  ∀ o ∈ db.obligations, ∃ run ∈ db.flowRuns, run.key = (o.projectId, o.workItemId) ∧
    o.entryVersion ≤ run.version

lemma mem_newObligations {p w : String} {s : FlowState} {fields : Json} {version : ℕ}
    {o : FlowObligation} (h : o ∈ FlowEngine.newObligations p w s fields version) :
    (o.projectId, o.workItemId) = (p, w) ∧ o.entryVersion = version := by
  obtain ⟨a, -, rfl⟩ := List.mem_map.1 h
  exact ⟨rfl, rfl⟩

lemma Raised.run {run : FlowRun} {os : List FlowObligation} (h : Raised db db' run os) :
    run ∈ db'.flowRuns ∧ ∀ o ∈ os, run.key = (o.projectId, o.workItemId) ∧
      o.entryVersion ≤ run.version := by
  cases h with
  | @start r run s h hs =>
    obtain ⟨s', hs', rfl, _, -, -, -, _, _, _, hins, -, -, rfl⟩ := h.state
    obtain rfl := Option.some.inj (hs'.symm.trans hs)
    refine ⟨(Table.mem_of_insert hins _).2 (Or.inr rfl), fun o ho => ?_⟩
    obtain ⟨hkey, hversion⟩ := mem_newObligations ho
    exact ⟨hkey.symm, hversion.le⟩
  | @pickup r run run' p i t h hpending ht =>
    obtain ⟨p', i', t', hpending', ht', -, -, -, -, _, _, -, -, heffect⟩ := h.target
    obtain ⟨rfl, rfl⟩ := FlowStatus.handoffPending.inj (hpending'.symm.trans hpending)
    obtain rfl := Option.some.inj (ht'.symm.trans ht)
    refine ⟨?_, fun o ho => ?_⟩
    · rw [heffect]
      exact Table.mem_update_of_pos (p := fun k => k.key = run.key) h.mem rfl
    · obtain ⟨hkey, hversion⟩ := mem_newObligations ho
      exact ⟨h.key.trans hkey.symm, hversion.le⟩

lemma FlowChange.raised (h : FlowChange e db db') (hraised : db.Raised) : db'.Raised := by
  have hkept : ∀ o ∈ db.obligations, ∃ run ∈ db'.flowRuns,
      run.key = (o.projectId, o.workItemId) ∧ o.entryVersion ≤ run.version := by
    intro o ho
    obtain ⟨run, hrun, hkey, hversion⟩ := hraised o ho
    obtain ⟨run', hrun', hfollows⟩ := h.kept.runs run hrun
    exact ⟨run', hrun', hfollows.key.trans hkey, hversion.trans hfollows.version_le⟩
  intro o ho
  rcases h.obligations with hsame | ⟨run, os, hos, hinserted⟩ | ⟨o', ho', status, evidence, -, hset⟩
  · exact hkept o (hsame ▸ ho)
  · rcases (hinserted.mem_iff o).1 ho with ho | ho
    · exact hkept o ho
    · exact ⟨run, hos.run.1, hos.run.2 o ho⟩
  · rw [hset] at ho
    rcases Table.mem_update_cases ho with ⟨o₁, ho₁, -, rfl⟩ | ⟨ho, -⟩
    · exact hkept o₁ ho₁
    · exact hkept o ho

/-! ## Sponsors -/

/-- A managed gate stands for a sponsor obligation. -/
def Db.Managed (db : Db) : Prop :=
  ∀ k ∈ db.gates, ∀ l, k.flowLink = some l →
    ∃ o ∈ db.obligations, o.key = k.obligationKey l ∧ GovernanceStore.ForSponsor o.payload

lemma FlowChange.managed (h : FlowChange e db db') (hmanaged : db.Managed) : db'.Managed := by
  have hold : ∀ k ∈ db.gates, ∀ l, k.flowLink = some l → ∃ o ∈ db'.obligations,
      o.key = k.obligationKey l ∧ GovernanceStore.ForSponsor o.payload := by
    intro k hk l hl
    obtain ⟨o, ho, hkey, hsponsor⟩ := hmanaged k hk l hl
    obtain ⟨o', ho', hkey', -, hpayload, -⟩ := h.kept.obligations o ho
    exact ⟨o', ho', hkey'.trans hkey, hpayload ▸ hsponsor⟩
  intro k hk l hl
  cases h.kernel with
  | same _ gates _ => exact hold k (gates ▸ hk) l hl
  | created _ _ _ gates _ => exact hold k (gates ▸ hk) l hl
  | moved _ _ _ _ _ _ _ gates _ => exact hold k (gates ▸ hk) l hl
  | assigned _ _ _ gates _ => exact hold k (gates ▸ hk) l hl
  | opened g w sponsors _ _ _ _ managed _ insert _ =>
    rcases (Table.mem_of_insert insert k).1 hk with hk | rfl
    · exact hold k hk l hl
    · obtain ⟨o, ho, hkey, -, hsponsor⟩ := (managed l hl).obligation
      obtain ⟨o', ho', hkey', -, hpayload, -⟩ := h.kept.obligations o ho
      exact ⟨o', ho', hkey'.trans hkey, hpayload ▸ hsponsor⟩
  | resolved g _ status _ _ _ _ _ _ _ gates _ =>
    rw [gates] at hk
    rcases Table.mem_update_cases hk with ⟨k', hk', -, rfl⟩ | ⟨hk, -⟩
    · exact hold k' hk' l hl
    · exact hold k hk l hl

/-- An approval belongs to a gate, and that of a managed gate to a sponsor of the project. -/
def Db.Asked (db : Db) : Prop :=
  ∀ a ∈ db.approvals, ∃ k ∈ db.gates, k.key = (a.projectId, a.gateId) ∧
    ∀ l, k.flowLink = some l → ∃ s ∈ db.sponsors, s.key = (a.projectId, a.approverId)

lemma FlowChange.asked (h : FlowChange e db db') (hasked : db.Asked) : db'.Asked := by
  have hold : ∀ a ∈ db.approvals, ∃ k ∈ db'.gates, k.key = (a.projectId, a.gateId) ∧
      ∀ l, k.flowLink = some l → ∃ s ∈ db'.sponsors, s.key = (a.projectId, a.approverId) := by
    intro a ha
    obtain ⟨k, hk, hkey, hsponsor⟩ := hasked a ha
    obtain ⟨status, hk', -⟩ := h.kept.gates k hk
    refine ⟨_, hk', hkey, fun l hl => ?_⟩
    obtain ⟨s, hs, hskey⟩ := hsponsor l hl
    exact ⟨s, h.sponsors s hs, hskey⟩
  intro a ha
  cases h.kernel with
  | same _ _ approvals => exact hold a (approvals ▸ ha)
  | created _ _ _ _ approvals => exact hold a (approvals ▸ ha)
  | moved _ _ _ _ _ _ _ _ approvals => exact hold a (approvals ▸ ha)
  | assigned _ _ _ _ approvals => exact hold a (approvals ▸ ha)
  | opened g w sponsors _ _ _ _ managed _ insert asked =>
    rcases (asked a).1 ha with ha | ⟨sponsor, hsponsor, rfl⟩
    · exact hold a ha
    · refine ⟨g, (Table.mem_of_insert insert g).2 (Or.inr rfl), rfl, fun l hl => ?_⟩
      obtain ⟨s, hs, hskey⟩ := (managed l hl).sponsors sponsor hsponsor
      exact ⟨s, h.sponsors s hs, hskey⟩
  | resolved g _ status _ _ _ _ _ _ _ _ approvals =>
    rcases approvals with hsame | ⟨_, -, -, key, d, -, hset⟩
    · exact hold a (hsame ▸ ha)
    · rw [hset] at ha
      rcases Table.mem_update_cases ha with ⟨a', ha', -, rfl⟩ | ⟨ha, -⟩
      · exact hold a' ha'
      · exact hold a ha

/-! ## The records -/

/-- The entry that a record is about. -/
def GovernanceRecord.entry (g : GovernanceRecord) : String × String × String × ℕ :=
  (g.projectId, g.workItemId, g.state, g.entryVersion)

/-- The artifact of an entry was verified in a version. -/
def VerifiedAs (entry : String × String × String × ℕ) (version : String × String) (db : Db) :
    Prop :=
  ∃ g ∈ db.governance, g.entry = entry ∧ g.kind = .artifact ∧ g.decision = .verified ∧
    g.document = some version

lemma VerifiedAs.mono {entry : String × String × String × ℕ} {version : String × String}
    (h : VerifiedAs entry version db) (hkept : FlowKept db db') : VerifiedAs entry version db' := by
  obtain ⟨g, hg, hrest⟩ := h
  exact ⟨g, hkept.governance g hg, hrest⟩

/-- The actor leads the flow of a record or owns its state. -/
def GovernanceRecord.ByLead (g : GovernanceRecord) (db : Db) : Prop :=
  ∃ run ∈ db.flowRuns, run.key = (g.projectId, g.workItemId) ∧
    (g.actorRoleId = run.flow.leaderRole ∨
      ∃ s, run.flow.state g.state = some s ∧ g.actorRoleId = s.ownerRole)

/-- The actor is a sponsor of the project who was asked at a gate of the obligation. -/
def GovernanceRecord.BySponsor (g : GovernanceRecord) (db : Db) : Prop :=
  (∃ k ∈ db.gates, ∃ l, k.flowLink = some l ∧ k.obligationKey l = g.obligationKey ∧
    ∃ a ∈ db.approvals,
      (a.projectId, a.gateId, a.approverId) = (k.projectId, k.gateId, g.actorRoleId)) ∧
  ∃ s ∈ db.sponsors, s.key = (g.projectId, g.actorRoleId)

/-- Why a record was accepted for an obligation. -/
inductive GovernanceRecord.Justified (g : GovernanceRecord) (o : FlowObligation) (db : Db) : Prop
  | verified (kind : g.kind = .artifact) (artifact : g.obligationId = "artifact")
      (decision : g.decision = .verified) (actor : g.actorRoleId = o.accountableRoleId)
      (document : ∃ version, g.document = some version) (satisfied : o.status = .satisfied)
  | responded (kind : g.kind = .consult) (decision : g.decision = .responded)
      (actor : g.actorRoleId = o.accountableRoleId) (dispatched : o.status = .dispatched)
  | excepted (kind : g.kind = .consult) (decision : g.decision = .exception)
      (reason : g.reason ≠ "") (actor : g.ByLead db)
  | reviewed (kind : g.kind = .gate)
      (decision : g.decision ∈ [GovernanceDecision.approved, .rejected, .exception])
      (role : ¬ GovernanceStore.ForSponsor o.payload) (actor : g.actorRoleId = o.accountableRoleId)
      (document : ∃ version, GovernanceStore.reviewedDocument g = some version ∧
        VerifiedAs g.entry version db)
      (exception : g.decision = .exception →
        GovernanceStore.gateType o.payload ∉ GovernanceStore.architectureGateTypes)
  | sponsored (kind : g.kind = .gate)
      (decision : g.decision ∈ [GovernanceDecision.approved, .rejected])
      (role : GovernanceStore.ForSponsor o.payload)
      (document : ∃ version, g.document = some version ∧ VerifiedAs g.entry version db)
      (actor : g.BySponsor db)

lemma GovernanceRecord.ByLead.mono {g : GovernanceRecord} (h : g.ByLead db)
    (hkept : FlowKept db db') : g.ByLead db' := by
  obtain ⟨run, hrun, hkey, hactor⟩ := h
  obtain ⟨run', hrun', hfollows⟩ := hkept.runs run hrun
  exact ⟨run', hrun', hfollows.key.trans hkey, hfollows.flow ▸ hactor⟩

lemma GovernanceRecord.BySponsor.mono {g : GovernanceRecord} (h : g.BySponsor db)
    (hkept : FlowKept db db') : g.BySponsor db' := by
  obtain ⟨⟨k, hk, l, hl, hkey, a, ha, happrover⟩, s, hs, hskey⟩ := h
  obtain ⟨status, hk', -⟩ := hkept.gates k hk
  obtain ⟨decision, ha'⟩ := hkept.approvals a ha
  exact ⟨⟨_, hk', l, hl, hkey, _, ha', happrover⟩, s, hkept.sponsors s hs, hskey⟩

lemma GovernanceRecord.Justified.mono {g : GovernanceRecord} {o o' : FlowObligation}
    (h : g.Justified o db) (hkept : FlowKept db db')
    (hrole : o'.accountableRoleId = o.accountableRoleId) (hpayload : o'.payload = o.payload)
    (hstatus : o.status ≠ .pending → o'.status = o.status) : g.Justified o' db' := by
  cases h with
  | verified kind artifact decision actor document satisfied =>
    have hsatisfied : o'.status = .satisfied := by rw [hstatus (by simp [satisfied]), satisfied]
    exact .verified kind artifact decision (actor.trans hrole.symm) document hsatisfied
  | responded kind decision actor dispatched =>
    have hdispatched : o'.status = .dispatched := by
      rw [hstatus (by simp [dispatched]), dispatched]
    exact .responded kind decision (actor.trans hrole.symm) hdispatched
  | excepted kind decision reason actor => exact .excepted kind decision reason (actor.mono hkept)
  | reviewed kind decision role actor document exception =>
    obtain ⟨version, hversion, hverified⟩ := document
    refine .reviewed kind decision ?_ (actor.trans hrole.symm)
      ⟨version, hversion, hverified.mono hkept⟩ ?_
    · rwa [hpayload]
    · rwa [hpayload]
  | sponsored kind decision role document actor =>
    obtain ⟨version, hversion, hverified⟩ := document
    refine .sponsored kind decision ?_ ⟨version, hversion, hverified.mono hkept⟩ (actor.mono hkept)
    rwa [hpayload]

/-- A record is for an obligation, which justifies it. -/
def GovernanceRecord.Valid (g : GovernanceRecord) (db : Db) : Prop :=
  ∃ o ∈ db.obligations, o.key = g.obligationKey ∧ g.Justified o db

lemma GovernanceRecord.Valid.mono {g : GovernanceRecord} (h : g.Valid db)
    (hkept : FlowKept db db') : g.Valid db' := by
  obtain ⟨o, ho, hkey, hjustified⟩ := h
  obtain ⟨o', ho', hkey', hrole, hpayload, hstatus⟩ := hkept.obligations o ho
  exact ⟨o', ho', hkey'.trans hkey, hjustified.mono hkept hrole hpayload hstatus⟩

/-! ## New records -/

namespace GovernanceStore

lemma Locked.obligation_eq {p w i : String} {kind : ObligationKind} {run : FlowRun}
    {o : FlowObligation} (h : Locked p w kind i run o db) : o.projectId = p ∧ o.workItemId = w ∧
      o.state = run.currentState ∧ o.entryVersion = run.version ∧ o.kind = kind ∧
      o.obligationId = i := by
  have hkey := h.key
  simp only [FlowObligation.key, Prod.mk.injEq] at hkey
  exact hkey

lemma Locked.entry_eq {p w i : String} {kind : ObligationKind} {run : FlowRun}
    {o : FlowObligation} (h : Locked p w kind i run o db) :
    run.entry = (o.projectId, o.workItemId, o.state, o.entryVersion) := by
  obtain ⟨rfl, rfl, hstate, hversion, -⟩ := h.obligation_eq
  obtain ⟨hproject, hwork⟩ := Prod.mk.inj h.run_key
  rw [FlowRun.entry, hproject, hwork, hstate, hversion]

lemma Verified.valid {r : VerifyRequest} {m : DocumentMetadata} {g : GovernanceRecord}
    (h : Verified r m g db db') : g.Valid db' := by
  obtain ⟨run, o, hlocked, howner, -, -, -, rfl, governance, -, rfl⟩ := h.locked
  obtain ⟨-, -, -, -, hkind, hid⟩ := hlocked.obligation_eq
  have hmem := Table.mem_update_of_pos (p := fun o' => o'.key = o.key)
    (f := ⟨fun o' => { o' with status := .satisfied, evidence := artifactEvidence r m },
      fun _ => rfl⟩) hlocked.mem rfl
  exact ⟨_, hmem, rfl, .verified hkind hid rfl howner.symm ⟨_, rfl⟩ rfl⟩

/-- The owner of a state in which a run is active. -/
lemma Consulted.valid {r : ConsultationRequest} {g : GovernanceRecord} (hentered : db.Entered)
    (h : Consulted r g db db') (hkept : FlowKept db db') : g.Valid db' := by
  obtain ⟨run, o, hlocked, hdecision, rfl, hreason, -⟩ := h.locked
  obtain ⟨hproject, hwork, hstate, -, hkind, -⟩ := hlocked.obligation_eq
  have hrunkey : run.key = (o.projectId, o.workItemId) := by rw [hproject, hwork, hlocked.run_key]
  refine GovernanceRecord.Valid.mono ⟨o, hlocked.mem, rfl, ?_⟩ hkept
  rcases hdecision with ⟨hd, hdispatched, hactor⟩ | ⟨hd, hactor⟩
  · exact .responded hkind hd hactor.symm hdispatched
  · obtain ⟨s, hs, howner, -⟩ := (hentered run hlocked.run_mem hlocked.active).state
    refine .excepted hkind hd (hreason hd) ⟨run, hlocked.run_mem, hrunkey, ?_⟩
    rcases hactor with hactor | hactor
    · refine Or.inr ⟨s, ?_, hactor.trans howner⟩
      show run.flow.state o.state = some s
      rw [hstate, hs]
    · exact Or.inl hactor

/-- The version in the evidence of a decision. -/
lemma reviewedDocument_newRecord (o : FlowObligation) (recordId digest actorRoleId reason : String)
    (decision : GovernanceDecision) (evidence : Json) (reviewed : String × String)
    (document : Option (String × String)) :
    reviewedDocument (newRecord o recordId digest decision actorRoleId reason
      (reviewEvidence evidence reviewed) document) = some reviewed := by
  have hfield : (reviewEvidence evidence reviewed).get? "reviewed_document" =
      some (.obj [("etag", .str reviewed.2), ("path", .str reviewed.1)]) :=
      Json.get?_withField _ _ _
  simp only [reviewedDocument, newRecord, hfield]
  rfl

lemma Decides.valid {r : GateDecisionRequest} {reviewed : String × String} {g : GovernanceRecord}
    (hdecision : r.decision ∈ [GovernanceDecision.approved, .rejected, .exception])
    (h : Decides r reviewed g db db') (hkept : FlowKept db db') : g.Valid db' := by
  obtain ⟨run, o, hlocked, hrole, hactor, ⟨v, hv, ⟨hentry, hkind, hverified, -⟩, hdocument⟩,
    harchitecture, -, rfl, -⟩ := h.locked
  refine GovernanceRecord.Valid.mono ⟨o, hlocked.mem, rfl, ?_⟩ hkept
  have hgate : o.kind = .gate := hlocked.obligation_eq.2.2.2.2.1
  refine .reviewed hgate hdecision hrole hactor.symm
    ⟨reviewed, reviewedDocument_newRecord .., v, hv, ?_, hkind, hverified, hdocument⟩ ?_
  · exact hentry.trans hlocked.entry_eq
  · exact fun hexception htype => (harchitecture htype).1 hexception

end GovernanceStore

namespace SponsorApprovals

lemma artifactVersion_eq_some {entry : String × String × String × ℕ} {version : String × String}
    (h : db.artifactVersion entry = some version) :
    ∃ v ∈ db.governance, v.Verifies db entry ∧ v.document = some version := by
  obtain ⟨v, hv, hdocument⟩ := Option.bind_eq_some_iff.1 h
  obtain ⟨hmem, hverifies⟩ := Table.mem_of_find hv
  exact ⟨v, hmem, hverifies, hdocument⟩

lemma Decides.valid {g : Gate} {l : FlowLink} {a : Approval}
    {sponsorId digest operationId : String} {d : Decision} {clock : DecideClock} {run : FlowRun}
    {artifact : String × String} (hmanaged : db.Managed) (hasked : db.Asked)
    (ha : a ∈ db.approvals)
    (happrover : (a.projectId, a.gateId, a.approverId) = (g.projectId, g.gateId, sponsorId))
    (h : Decides g l a sponsorId digest operationId d clock run artifact db db')
    (hkept : FlowKept db db') :
    (decisionRecord g l sponsorId (g.gateId ++ ":" ++ sponsorId) digest d artifact).Valid db' := by
  obtain ⟨o, ho, hokey, hsponsor⟩ := hmanaged g h.waiting.mem l h.waiting.link
  obtain ⟨v, hv, ⟨hentry, hkind, hverified, -⟩, hdocument⟩ :=
    artifactVersion_eq_some h.waiting.verified
  refine GovernanceRecord.Valid.mono ⟨o, ho, hokey, ?_⟩ hkept
  refine .sponsored rfl ?_ hsponsor ⟨artifact, rfl, v, hv, hentry, hkind, hverified, hdocument⟩ ?_
  · unfold decisionRecord
    cases d.approved <;> simp
  · obtain ⟨k, hk, hkey, hsponsors⟩ := hasked a ha
    simp only [Prod.mk.injEq] at happrover
    obtain ⟨hproject, hgate, rfl⟩ := happrover
    -- the approval is for this very gate
    have hgkey : k.key = g.key := by
      rw [hkey, hproject, hgate]
      rfl
    obtain rfl := db.gates.eq_of_key hk h.waiting.mem hgkey
    obtain ⟨s, hs, hskey⟩ := hsponsors l h.waiting.link
    refine ⟨⟨k, hk, l, h.waiting.link, rfl, a, ha, ?_⟩, s, hs, ?_⟩
    · rw [hproject, hgate]
      rfl
    · rw [hskey, hproject]
      rfl

end SponsorApprovals

/-! ## The invariant -/

/-- The evidence of every entry is sound. -/
structure FlowSound (db : Db) : Prop where
  entered : db.Entered
  raised : db.Raised
  managed : db.Managed
  asked : db.Asked
  valid : ∀ g ∈ db.governance, g.Valid db
  /-- The artifact of an entry is verified once. -/
  once : ∀ g ∈ db.governance, ∀ g' ∈ db.governance, g.decision = .verified →
    g'.decision = .verified → g.entry = g'.entry → g = g'

lemma Recorded.valid {g : GovernanceRecord} (hsound : FlowSound db) (h : Recorded db db' g)
    (hkept : FlowKept db db') : g.Valid db' := by
  cases h with
  | verified h => exact h.valid
  | consulted h => exact h.valid hsound.entered hkept
  | reviewed hdecision h => exact h.valid hdecision hkept
  | decided ha happrover h => exact h.valid hsound.managed hsound.asked ha happrover hkept

lemma GovernanceRecord.Valid.of_verified {g : GovernanceRecord} (h : g.Valid db)
    (hdecision : g.decision = .verified) : ∃ o ∈ db.obligations, o.key = g.obligationKey ∧
      g.kind = .artifact ∧ g.obligationId = "artifact" ∧
      g.actorRoleId = o.accountableRoleId ∧ (∃ version, g.document = some version) ∧
      o.status = .satisfied := by
  obtain ⟨o, ho, hkey, hjustified⟩ := h
  cases hjustified with
  | verified kind artifact _ actor document satisfied =>
    exact ⟨o, ho, hkey, kind, artifact, actor, document, satisfied⟩
  | responded _ decision _ _ => simp [hdecision] at decision
  | excepted _ decision _ _ => simp [hdecision] at decision
  | reviewed _ decision _ _ _ _ => simp [hdecision] at decision
  | sponsored _ decision _ _ _ => simp [hdecision] at decision

/-- A new verification is the first one of its entry. -/
lemma Recorded.first {g g' : GovernanceRecord} (hsound : FlowSound db) (h : Recorded db db' g)
    (hg' : g' ∈ db.governance) (hdecision : g.decision = .verified)
    (hdecision' : g'.decision = .verified) (hentry : g.entry = g'.entry) : False := by
  cases h with
  | @verified r m g h =>
    obtain ⟨run, o, hlocked, -, hpending, -, -, rfl, -⟩ := h.locked
    obtain ⟨-, -, -, -, hkind, hid⟩ := hlocked.obligation_eq
    obtain ⟨o', ho', hkey, hkind', hid', -, -, hsatisfied⟩ :=
      (hsound.valid g' hg').of_verified hdecision'
    have hsame : o'.key = o.key := by
      simp only [GovernanceRecord.entry, GovernanceStore.newRecord, Prod.mk.injEq] at hentry
      rw [hkey, FlowObligation.key, GovernanceRecord.obligationKey, hkind, hid, hkind', hid',
        hentry.1, hentry.2.1, hentry.2.2.1, hentry.2.2.2]
    obtain rfl := db.obligations.eq_of_key ho' hlocked.mem hsame
    rw [hsatisfied] at hpending
    simp at hpending
  | @consulted r g h =>
    obtain ⟨run, o, -, ⟨hd, -⟩ | ⟨hd, -⟩, rfl, -⟩ := h.locked
    · rw [GovernanceStore.newRecord, hd] at hdecision
      simp at hdecision
    · rw [GovernanceStore.newRecord, hd] at hdecision
      simp at hdecision
  | @reviewed r reviewed g decision h =>
    obtain ⟨run, o, -, -, -, -, -, -, rfl, -⟩ := h.locked
    rw [show r.decision = .verified from hdecision] at decision
    simp at decision
  | @decided k l a sponsorId digest operationId d clock run artifact _ _ h =>
    unfold SponsorApprovals.decisionRecord at hdecision
    cases hd : d.approved <;> simp [hd] at hdecision

lemma FlowChange.sound (hsound : FlowSound db) (h : FlowChange e db db') : FlowSound db' where
  entered := h.entered hsound.entered
  raised := h.raised hsound.raised
  managed := h.managed hsound.managed
  asked := h.asked hsound.asked
  valid g hg := by
    rcases h.governance with hsame | ⟨new, hrecorded, hins⟩
    · exact (hsound.valid g (hsame ▸ hg)).mono h.kept
    · rcases (Table.mem_of_insert hins g).1 hg with hg | rfl
      · exact (hsound.valid g hg).mono h.kept
      · exact hrecorded.valid hsound h.kept
  once g hg g' hg' hd hd' hentry := by
    rcases h.governance with hsame | ⟨new, hrecorded, hins⟩
    · exact hsound.once g (hsame ▸ hg) g' (hsame ▸ hg') hd hd' hentry
    · rcases (Table.mem_of_insert hins g).1 hg with hg | rfl
      · rcases (Table.mem_of_insert hins g').1 hg' with hg' | rfl
        · exact hsound.once g hg g' hg' hd hd' hentry
        · exact (hrecorded.first hsound hg hd' hd hentry.symm).elim
      · rcases (Table.mem_of_insert hins g').1 hg' with hg' | rfl
        · exact (hrecorded.first hsound hg' hd hd' hentry).elim
        · rfl

/-- **The evidence is sound in every reachable state.** -/
theorem FlowSystem.Reachable.sound {s : FlowSystem} (h : s.Reachable) : FlowSound s.db := by
  refine h.invariant (fun s hs => ?_) fun e db db' hsound hchange => hchange.sound hsound
  have hnone : ∀ {α κ : Type} {key : α → κ} {t : Table α key} {p : α → Prop}, t = ∅ →
      ∀ r ∈ t, p r := by
    intro α κ key t p ht r hr
    rw [ht] at hr
    exact absurd hr (Table.notMem_empty r)
  exact ⟨hnone hs.flowRuns, hnone hs.obligations, hnone hs.gates, hnone hs.approvals,
    hnone hs.governance, hnone hs.governance⟩

/-! ## Leaving an entry -/

/-- A step enters a state with a run. -/
structure FlowRun.Enters (r : FlowRun) (db db' : Db) : Prop where
  new : ¬ r ∈ db.flowRuns
  mem : r ∈ db'.flowRuns
  active : r.status = .active

/-- A step leaves the entry of a run. -/
structure FlowRun.Leaves (r : FlowRun) (db db' : Db) : Prop where
  active : ∃ r' ∈ db.flowRuns, r'.key = r.key ∧ r'.version = r.version ∧ r'.status = .active
  left : ∃ r' ∈ db'.flowRuns, r'.key = r.key ∧ r'.status ≠ .active

/-- The obligation of an action was dispatched. -/
def FlowAction.Dispatched (a : FlowAction) (r : FlowRun) (db : Db) : Prop :=
  ∃ o ∈ db.obligations, o.key = a.obligationKey r ∧ o.status = .dispatched

/-- A record for an action of an entry. -/
def FlowAction.Recorded (a : FlowAction) (r : FlowRun) (db : Db) (p : GovernanceRecord → Prop) :
    Prop :=
  ∃ g ∈ db.governance, g.obligationKey = a.obligationKey r ∧ p g

/-- What stands behind an obligation of an entry whose artifact was verified in a version. -/
def FlowAction.Evidenced (a : FlowAction) (r : FlowRun) (version : String × String) (db : Db) :
    Prop :=
  match a.kind with
  | .artifact => a.Recorded r db fun g =>
    g.decision = .verified ∧ g.actorRoleId = a.roleId ∧ g.document = some version
  | .consult =>
    (a.Dispatched r db ∧ a.Recorded r db fun g =>
      g.decision = .responded ∧ g.actorRoleId = a.roleId) ∨
    a.Recorded r db fun g => g.decision = .exception ∧ g.reason ≠ "" ∧
      (g.actorRoleId = r.ownerRoleId ∨ g.actorRoleId = r.flow.leaderRole)
  | .gate =>
    (¬ GovernanceStore.ForSponsor a.payload ∧ a.Recorded r db fun g =>
      (g.decision = .approved ∨ (g.decision = .exception ∧
        GovernanceStore.gateType a.payload ∉ GovernanceStore.architectureGateTypes)) ∧
      g.actorRoleId = a.roleId ∧ GovernanceStore.reviewedDocument g = some version) ∨
    (GovernanceStore.ForSponsor a.payload ∧ a.Recorded r db fun g =>
      g.decision = .approved ∧ g.BySponsor db ∧ g.document = some version)
  | .inform => a.Dispatched r db

lemma FlowAction.Dispatched.mono {a : FlowAction} {r : FlowRun} (h : a.Dispatched r db)
    (hkept : FlowKept db db') : a.Dispatched r db' := by
  obtain ⟨o, ho, hkey, hstatus⟩ := h
  obtain ⟨o', ho', hkey', -, -, hsame⟩ := hkept.obligations o ho
  exact ⟨o', ho', hkey'.trans hkey, by rw [hsame (by simp [hstatus]), hstatus]⟩

lemma FlowAction.Recorded.mono {a : FlowAction} {r : FlowRun} {p p' : GovernanceRecord → Prop}
    (h : a.Recorded r db p) (hkept : FlowKept db db') (hp : ∀ g, p g → p' g) :
    a.Recorded r db' p' := by
  obtain ⟨g, hg, hkey, hpg⟩ := h
  exact ⟨g, hkept.governance g hg, hkey, hp g hpg⟩

/-- Evidence is never lost. -/
lemma FlowAction.Evidenced.mono {a : FlowAction} {r : FlowRun} {version : String × String}
    (h : a.Evidenced r version db) (hkept : FlowKept db db') : a.Evidenced r version db' := by
  cases hk : a.kind with
  | artifact =>
    simp only [Evidenced, hk] at h ⊢
    exact h.mono hkept fun _ hg => hg
  | consult =>
    simp only [Evidenced, hk] at h ⊢
    rcases h with ⟨hdispatched, h⟩ | h
    · exact Or.inl ⟨hdispatched.mono hkept, h.mono hkept fun _ hg => hg⟩
    · exact Or.inr (h.mono hkept fun _ hg => hg)
  | gate =>
    simp only [Evidenced, hk] at h ⊢
    rcases h with ⟨hrole, h⟩ | ⟨hrole, h⟩
    · exact Or.inl ⟨hrole, h.mono hkept fun _ hg => hg⟩
    · exact Or.inr ⟨hrole, h.mono hkept fun _ ⟨hd, hactor, hv⟩ => ⟨hd, hactor.mono hkept, hv⟩⟩
  | inform =>
    simp only [Evidenced, hk] at h ⊢
    exact h.mono hkept

/-- The check of a fulfilled obligation, by its kind. -/
lemma FlowObligation.Fulfilled.of_kind {o : FlowObligation} (h : o.Fulfilled db) :
    match o.kind with
    | .artifact => ∃ g ∈ db.governance, g.obligationKey = o.key ∧ g.decision = .verified
    | .gate => ∃ g ∈ db.governance, g.obligationKey = o.key ∧
      (g.decision = .approved ∨ g.decision = .exception)
    | .consult => ∃ g ∈ db.governance, g.obligationKey = o.key ∧
      (g.decision = .exception ∨ (g.decision = .responded ∧ o.status = .dispatched))
    | .inform => o.status = .dispatched := by
  cases hk : o.kind with
  | artifact =>
    simp only [Fulfilled, hk] at h
    obtain ⟨-, g, hg, hkey, hd⟩ := h
    exact ⟨g, hg, hkey, by simpa using hd⟩
  | gate =>
    simp only [Fulfilled, hk] at h
    obtain ⟨-, g, hg, hkey, hd⟩ := h
    exact ⟨g, hg, hkey, by simpa using hd⟩
  | consult =>
    simp only [Fulfilled, hk] at h
    rcases h with ⟨g, hg, hkey, hd⟩ | ⟨hstatus, g, hg, hkey, hd⟩
    · exact ⟨g, hg, hkey, Or.inl (by simpa using hd)⟩
    · exact ⟨g, hg, hkey, Or.inr ⟨by simpa using hd, hstatus⟩⟩
  | inform => simpa only [Fulfilled, hk] using h

/-- The record behind a decision on an obligation. -/
lemma FlowSound.justified (hsound : FlowSound db) {g : GovernanceRecord} {o : FlowObligation}
    (hg : g ∈ db.governance) (ho : o ∈ db.obligations) (hkey : g.obligationKey = o.key) :
    g.Justified o db := by
  obtain ⟨o', ho', hkey', hjustified⟩ := hsound.valid g hg
  obtain rfl := db.obligations.eq_of_key ho' ho (hkey'.trans hkey)
  exact hjustified

/-- There is one verified version of an entry. -/
lemma FlowSound.version_unique (hsound : FlowSound db) {entry : String × String × String × ℕ}
    {version version' : String × String} (h : VerifiedAs entry version db)
    (h' : VerifiedAs entry version' db) : version = version' := by
  obtain ⟨g, hg, hentry, -, hd, hversion⟩ := h
  obtain ⟨g', hg', hentry', -, hd', hversion'⟩ := h'
  obtain rfl := hsound.once g hg g' hg' hd hd' (hentry.trans hentry'.symm)
  exact Option.some.inj (hversion.symm.trans hversion')

/-- The entry of a record that is for an action. -/
lemma entry_of_obligationKey {g : GovernanceRecord} {a : FlowAction} {r : FlowRun}
    (h : g.obligationKey = a.obligationKey r) : g.entry = r.entry := by
  simp only [GovernanceRecord.obligationKey, FlowAction.obligationKey, Prod.mk.injEq] at h
  rw [GovernanceRecord.entry, FlowRun.entry, h.1, h.2.1, h.2.2.1, h.2.2.2.1]

/-- An obligation that is fulfilled has its evidence, about the verified version. -/
lemma FlowSound.evidenced (hsound : FlowSound db) {r : FlowRun} (hr : r ∈ db.flowRuns)
    (hactive : r.status = .active) {a : FlowAction} {o : FlowObligation} (ho : o ∈ db.obligations)
    (hraised : a.RaisedBy r o) (hfulfilled : o.Fulfilled db) {version : String × String}
    (hverified : VerifiedAs r.entry version db) : a.Evidenced r version db := by
  obtain ⟨hokey, hrole, hpayload⟩ := hraised
  have hkind : o.kind = a.kind := by
    simp only [FlowObligation.key, FlowAction.obligationKey, Prod.mk.injEq] at hokey
    exact hokey.2.2.2.2.1
  have hspec := hfulfilled.of_kind
  rw [hkind] at hspec
  cases hk : a.kind with
  | artifact =>
    simp only [hk] at hspec
    obtain ⟨g, hg, hkey, hd⟩ := hspec
    have hgkey := hkey.trans hokey
    obtain ⟨o', ho', hokey', hgkind, -, hactor, ⟨version', hversion⟩, -⟩ :=
      (hsound.valid g hg).of_verified hd
    obtain rfl := db.obligations.eq_of_key ho' ho (hokey'.trans hkey)
    obtain rfl := hsound.version_unique hverified
      ⟨g, hg, entry_of_obligationKey hgkey, hgkind, hd, hversion⟩
    simp only [FlowAction.Evidenced, hk]
    exact ⟨g, hg, hgkey, hd, hactor.trans hrole, hversion⟩
  | consult =>
    simp only [hk] at hspec
    simp only [FlowAction.Evidenced, hk]
    obtain ⟨g, hg, hkey, hd⟩ := hspec
    have hgkey := hkey.trans hokey
    have hgkind : g.kind = .consult := by
      simp only [GovernanceRecord.obligationKey, FlowAction.obligationKey, Prod.mk.injEq] at hgkey
      exact hgkey.2.2.2.2.1.trans hk
    cases hsound.justified hg ho hkey with
    | verified kind => simp [hgkind] at kind
    | responded kind decision actor dispatched =>
      exact Or.inl ⟨⟨o, ho, hokey, dispatched⟩, g, hg, hgkey, decision, actor.trans hrole⟩
    | excepted kind decision reason actor =>
      obtain ⟨r', hr', hrkey, hlead⟩ := actor
      have hentry := entry_of_obligationKey hgkey
      simp only [GovernanceRecord.entry, FlowRun.entry, Prod.mk.injEq] at hentry
      have hsame : r'.key = r.key := by
        rw [hrkey, hentry.1, hentry.2.1]
        rfl
      obtain rfl := db.flowRuns.eq_of_key hr' hr hsame
      obtain ⟨s, hs, howner, -⟩ := (hsound.entered r' hr hactive).state
      refine Or.inr ⟨g, hg, hgkey, decision, reason, ?_⟩
      rcases hlead with hleader | ⟨s', hs', hactor⟩
      · exact Or.inr hleader
      · rw [hentry.2.2.1] at hs'
        obtain rfl := Option.some.inj (hs'.symm.trans hs)
        exact Or.inl (hactor.trans howner.symm)
    | reviewed kind => simp [hgkind] at kind
    | sponsored kind => simp [hgkind] at kind
  | gate =>
    simp only [hk] at hspec
    simp only [FlowAction.Evidenced, hk]
    obtain ⟨g, hg, hkey, hd⟩ := hspec
    have hgkey := hkey.trans hokey
    have hgkind : g.kind = .gate := by
      simp only [GovernanceRecord.obligationKey, FlowAction.obligationKey, Prod.mk.injEq] at hgkey
      exact hgkey.2.2.2.2.1.trans hk
    have hentry := entry_of_obligationKey hgkey
    cases hsound.justified hg ho hkey with
    | verified kind => simp [hgkind] at kind
    | responded kind => simp [hgkind] at kind
    | excepted kind => simp [hgkind] at kind
    | reviewed _ _ role actor document exception =>
      obtain ⟨version', hversion', hverified'⟩ := document
      obtain rfl := hsound.version_unique hverified (hentry ▸ hverified')
      rw [hpayload] at role exception
      refine Or.inl ⟨role, g, hg, hgkey, ?_, actor.trans hrole, hversion'⟩
      exact hd.imp_right fun hexception => ⟨hexception, exception hexception⟩
    | sponsored _ decision role document actor =>
      obtain ⟨version', hversion', hverified'⟩ := document
      obtain rfl := hsound.version_unique hverified (hentry ▸ hverified')
      rw [hpayload] at role
      have happroved : g.decision = .approved := by
        rcases hd with hd | hd
        · exact hd
        · simp [hd] at decision
      exact Or.inr ⟨role, g, hg, hgkey, happroved, actor, hversion'⟩
  | inform =>
    simp only [hk] at hspec
    simp only [FlowAction.Evidenced, hk]
    exact ⟨o, ho, hokey, hspec⟩

/-- An active run with fulfilled obligations has the evidence of its entry. -/
lemma FlowSound.ready (hsound : FlowSound db) {r : FlowRun} (hr : r ∈ db.flowRuns)
    (hactive : r.status = .active) (hready : r.Ready db) :
    ∃ s version, r.flow.state r.currentState = some s ∧
      ∀ a ∈ s.obligations r.fields, a.Evidenced r version db := by
  obtain ⟨s, hs, -, hraised⟩ := (hsound.entered r hr hactive).state
  have hfulfilled : ∀ a ∈ s.obligations r.fields, ∃ o ∈ db.obligations, a.RaisedBy r o ∧
      o.Fulfilled db := by
    intro a ha
    obtain ⟨o, ho, hraisedBy⟩ := hraised a ha
    refine ⟨o, ho, hraisedBy, hready o ho ?_⟩
    have hokey := hraisedBy.1
    simp only [FlowObligation.key, FlowAction.obligationKey, Prod.mk.injEq] at hokey
    rw [FlowObligation.Current, hokey.1, hokey.2.1, hokey.2.2.1, hokey.2.2.2.1]
  -- the artifact of the state fixes the version
  obtain ⟨o, ho, hraisedBy, hartifact⟩ := hfulfilled s.artifactAction (List.mem_cons_self ..)
  obtain ⟨hokey, -, -⟩ := hraisedBy
  have hkind : o.kind = .artifact := by
    simp only [FlowObligation.key, FlowAction.obligationKey, Prod.mk.injEq] at hokey
    exact hokey.2.2.2.2.1
  have hspec := hartifact.of_kind
  simp only [hkind] at hspec
  obtain ⟨g, hg, hgkey, hd⟩ := hspec
  obtain ⟨-, -, -, hgkind, -, -, ⟨version, hversion⟩, -⟩ := (hsound.valid g hg).of_verified hd
  refine ⟨s, version, hs, fun a ha => ?_⟩
  obtain ⟨o', ho', hraisedBy', hfulfilled'⟩ := hfulfilled a ha
  exact hsound.evidenced hr hactive ho' hraisedBy' hfulfilled'
    ⟨g, hg, entry_of_obligationKey (hgkey.trans hokey), hgkind, hd, hversion⟩

/-- A step leaves an entry only when the obligations are fulfilled. -/
lemma FlowChange.left {r r' : FlowRun} (h : FlowChange e db db') (hr : r ∈ db.flowRuns)
    (hactive : r.status = .active) (hr' : r' ∈ db'.flowRuns) (hkey : r'.key = r.key)
    (hleft : r'.status ≠ .active) : r.Ready db := by
  have hstays : ¬ r' ∈ db.flowRuns := by
    intro hstays
    obtain rfl := db.flowRuns.eq_of_key hstays hr hkey
    exact hleft hactive
  rcases h.flowRuns with hsame | ⟨-, new, -, -, hins⟩ | ⟨old, hold, f, hmoves, hset⟩
  · exact absurd (hsame ▸ hr') hstays
  · rcases (Table.mem_of_insert hins r').1 hr' with hr' | rfl
    · exact absurd hr' hstays
    · exact absurd hkey.symm ((Table.insert_eq_some.1 hins).1 r hr)
  · rw [hset] at hr'
    rcases Table.mem_update_cases hr' with ⟨r₁, hr₁, hkey₁, rfl⟩ | ⟨hr', -⟩
    · rw [f.key_set] at hkey
      obtain rfl := db.flowRuns.eq_of_key hr₁ hr hkey
      obtain rfl := db.flowRuns.eq_of_key hold hr₁ hkey₁.symm
      generalize f.set old = next at hmoves
      cases hmoves with
      | reserve p fields _ ready => exact ready
      | promote p i pending => simp [FlowEngine.FlowStatus.pendingRoute, hactive] at pending
      | pickup p i t pending _ _ => simp [hactive] at pending
      | complete o d _ _ ready => exact ready
      | finish o d pending _ => simp [hactive] at pending
    · exact absurd hr' hstays

/-- A run that is in the entry of a row is that row. -/
lemma FlowKept.entry_eq {r r' : FlowRun} (h : FlowKept db db') (hr : r ∈ db.flowRuns)
    (hr' : r' ∈ db'.flowRuns) (hkey : r'.key = r.key) (hversion : r'.version ≤ r.version)
    (hactive : r'.status = .active) : r' = r := by
  obtain ⟨r₁, hr₁, hfollows⟩ := h.runs r hr
  obtain rfl := db'.flowRuns.eq_of_key hr₁ hr' (hfollows.key.trans hkey.symm)
  rcases hfollows.entry with hsame | hlt | ⟨-, hleft⟩
  · exact hsame
  · exact absurd hversion (by omega)
  · exact absurd hactive hleft

/-- **The evidence of every entry that was left.**  Between the step that enters a state with a run
and a step that leaves this entry, evidence about one version of the verified artifact was recorded
for every obligation that applied at the entry, under the version of the entry; it is never lost,
and no evidence of that entry existed before it was entered. -/
theorem entry_evidence (s : FlowSystem) (h : s.Reachable) (e : FlowEvent) (es : List FlowEvent)
    (e' : FlowEvent) (r : FlowRun) (henters : r.Enters s.db (s.step e).db)
    (hleaves : r.Leaves (run FlowSystem.step (s.step e) es).db
      ((run FlowSystem.step (s.step e) es).step e').db) :
    ∃ state version, r.flow.state r.currentState = some state ∧
      (∀ g ∈ s.db.governance, g.entry ≠ r.entry) ∧
      ∀ a ∈ state.obligations r.fields, ∀ fs,
        a.Evidenced r version (run FlowSystem.step (run FlowSystem.step (s.step e) es) fs).db := by
  obtain ⟨s₀, es₀, hs₀, rfl⟩ := h
  have hreachable : (run FlowSystem.step s₀ es₀).Reachable := ⟨s₀, es₀, hs₀, rfl⟩
  generalize hs : run FlowSystem.step s₀ es₀ = s at *
  have hthen : (run FlowSystem.step (s.step e) es).Reachable := by
    refine ⟨s₀, es₀ ++ e :: es, hs₀, ?_⟩
    rw [run_append, hs]
    rfl
  -- the row of the entry is still there when it is left
  obtain ⟨⟨r₁, hr₁, hkey₁, hversion₁, hactive₁⟩, ⟨r', hr', hkey', hleft⟩⟩ := hleaves
  obtain rfl := ((s.step e).run_kept es).entry_eq henters.mem hr₁ hkey₁ hversion₁.le hactive₁
  have hready := (FlowSystem.step_change _ e').left hr₁ hactive₁ hr' hkey' hleft
  obtain ⟨state, version, hstate, hevidenced⟩ := hthen.sound.ready hr₁ hactive₁ hready
  refine ⟨state, version, hstate, fun g hg hentry => ?_, fun a ha fs => ?_⟩
  · -- a record of the entry would belong to an obligation, whose run had reached the entry
    obtain ⟨o, ho, hokey, -⟩ := hreachable.sound.valid g hg
    obtain ⟨r₀, hr₀, hr₀key, hr₀version⟩ := hreachable.sound.raised o ho
    simp only [FlowObligation.key, GovernanceRecord.obligationKey, Prod.mk.injEq] at hokey
    simp only [GovernanceRecord.entry, FlowRun.entry, Prod.mk.injEq] at hentry
    have hsame : r₁.key = r₀.key := by
      rw [hr₀key, hokey.1, hokey.2.1, hentry.1, hentry.2.1]
      rfl
    have hreached : r₁.version ≤ r₀.version := by
      rw [← hentry.2.2.2, ← hokey.2.2.2.1]
      exact hr₀version
    obtain rfl := (s.step_change e).kept.entry_eq hr₀ henters.mem hsame hreached henters.active
    exact henters.new hr₀
  · exact (hevidenced a ha).mono (FlowSystem.run_kept _ fs)

/-! ## A work item that is built and shipped -/

/-- The developer's work items in a project with an operator. -/
def shop : FlowSystem where
  db := { developing with roles := ⟨[⟨"p", "ops", .active⟩], by simp⟩ }
  tasks := []

/-- The document of the build state of the work item `a`. -/
def builtDocument : DocumentMetadata where
  itemId := "doc"
  name := "a.md"
  path := "work/a.md"
  size := 1
  etag := "v1"
  isFolder := false
  mimeType := none
  createdAt := none
  modifiedAt := none

/-- The developer verifies the document. -/
def verifyBuilt : VerifyRequest where
  projectId := "p"
  workItemId := "a"
  path := "work/a.md"
  actorRoleId := "dev"
  recordId := "built"

lemma isIdentifier_lease : isIdentifier "lease" = true := by decide

lemma leaseToken_valid : strip "token" ≠ "" ∧ "token".toList.length ≤ 512 := by decide

/-- The developer hands the work over to the operator. -/
def prepareShipping : PrepareRequest where
  projectId := "p"
  workItemId := "a"
  outcome := "completed"
  fields := .obj []
  source := ⟨"lease", "token", isIdentifier_lease, leaseToken_valid⟩
  expectedVersion := 1
  actorId := "dev"
  operationId := "ship"

/-- The database after the work item `a` was started. -/
def startedShop : Db := { startedFirst with roles := shop.db.roles }

/-- The verification of the artifact. -/
def builtRecord : GovernanceRecord :=
  GovernanceStore.newRecord
    (FlowEngine.newObligation "p" "a" buildState 1 buildState.artifactAction)
    "built" verifyBuilt.digest .verified "dev" "" (.obj [("document", builtDocument.toJson)])
    (some ("work/a.md", "v1"))

/-- The database after the artifact was verified. -/
def builtShop : Db :=
  ({ startedShop with governance := ⟨[builtRecord], by simp⟩ } : Db).setObligation
      (buildState.artifactAction.obligationKey firstRun) .satisfied
      fun _ => GovernanceStore.artifactEvidence verifyBuilt builtDocument

lemma verify_built :
    GovernanceStore.verifyArtifact verifyBuilt (fun _ => some builtDocument)
      startedShop = .ok (builtRecord, builtShop) := by
  have hpath : GovernanceStore.requirePath "work/a.md" startedShop =
      .ok ("work/a.md", startedShop) := by
    rw [GovernanceStore.requirePath, Tx.bind_of_ok (Tx.require_of_pos (by decide))]
    rw [show strip "work/a.md" = "work/a.md" by decide]
    rfl
  have hreplay : GovernanceStore.replay "p" "built" verifyBuilt.digest
      startedShop =
        .ok (none, startedShop) := rfl
  have hlock : GovernanceStore.lockCurrent "p" "a" .artifact "artifact"
      startedShop =
        .ok ((firstRun, FlowEngine.newObligation "p" "a" buildState 1 buildState.artifactAction),
          startedShop) := rfl
  have hin : GovernanceStore.verifyArtifactIn verifyBuilt builtDocument
      startedShop = .ok (builtRecord, builtShop) := by
    rw [GovernanceStore.verifyArtifactIn]
    refine (Tx.bind_of_ok hreplay).trans ?_
    refine (Tx.bind_of_ok hlock).trans ?_
    refine (Tx.bind_of_ok (Tx.require_of_pos rfl)).trans ?_
    refine (Tx.bind_of_ok (Tx.demand_of_some (a := "work/a.md") (by decide))).trans ?_
    refine (Tx.bind_of_ok (Tx.require_of_pos ⟨rfl, rfl⟩)).trans ?_
    rfl
  rw [GovernanceStore.verifyArtifact, GovernanceStore.requireIdentifiers,
    Tx.bind_of_ok (Tx.require_of_pos (by decide))]
  refine (Tx.bind_of_ok hpath).trans ?_
  refine (Tx.bind_of_ok hreplay).trans ?_
  dsimp only
  rw [Tx.bind_of_ok (Tx.demand_of_some (g := fun _ => some builtDocument) (a := builtDocument) rfl)]
  exact (Tx.bind_of_ok (Tx.require_of_pos rfl)).trans hin

/-- The run that reserved its route. -/
def shippingRun : FlowRun :=
  (FlowEngine.reserved prepareShipping ⟨"ship", "completed", "release", "ops", none⟩
    (.obj [])).set firstRun

lemma reserve_shipping :
    FlowEngine.reserve prepareShipping builtShop =
      .ok (.inr ⟨"ship", "completed", "release", "ops", none⟩,
        builtShop.updateRun firstRun.key
          (FlowEngine.reserved prepareShipping ⟨"ship", "completed", "release", "ops", none⟩
            (.obj []))) := by
  have hcheck : FlowEngine.checkPrepare prepareShipping builtShop = .ok ((), builtShop) := by
    rw [FlowEngine.checkPrepare, FlowEngine.requireIdentifiers, FlowEngine.requireIdentifier,
      Tx.bind_of_ok (Tx.require_of_pos (by decide)),
      Tx.bind_of_ok (Tx.require_of_pos (by decide))]
    rfl
  have hreplay : FlowEngine.replay "p" "ship" prepareShipping.digest builtShop =
      .ok (none, builtShop) := rfl
  have hlock : FlowEngine.lockRun "p" "a" builtShop = .ok (firstRun, builtShop) := rfl
  have hready : firstRun.Ready builtShop := by decide
  have hnew : FlowEngine.reserveNew prepareShipping firstRun builtShop =
      .ok (⟨"ship", "completed", "release", "ops", none⟩, builtShop.updateRun firstRun.key
        (FlowEngine.reserved prepareShipping ⟨"ship", "completed", "release", "ops", none⟩
          (.obj []))) := by
    rw [FlowEngine.reserveNew, Tx.bind_of_ok (Tx.require_of_pos ⟨rfl, rfl⟩)]
    refine (Tx.bind_of_ok (show Tx.query (fun db : Db => db.impacts.lookup ("p", "a")) builtShop =
      .ok (none, builtShop) by rfl)).trans ?_
    refine (Tx.bind_of_ok (show FlowEngine.mergedFields firstRun (.obj []) none builtShop =
      .ok (.obj [], builtShop) by rfl)).trans ?_
    rw [FlowEngine.stateOf, Tx.bind_of_ok (Tx.demand_of_some (a := buildState) (by decide))]
    refine (Tx.bind_of_ok (Tx.require_of_pos rfl)).trans ?_
    have hrequire : FlowEngine.requireReady firstRun builtShop = .ok ((), builtShop) := by
      rw [FlowEngine.requireReady]
      exact Tx.require_of_pos (e := .conflict "required flow obligations are not satisfied") hready
    refine (Tx.bind_of_ok hrequire).trans ?_
    rw [FlowEngine.routeOf, Tx.bind_of_ok (Tx.demand_of_some
      (a := ⟨"ship", "completed", "release", "ops", none⟩) (by decide))]
    rfl
  rw [FlowEngine.reserve]
  refine (Tx.bind_of_ok hcheck).trans ?_
  refine (Tx.bind_of_ok hreplay).trans ?_
  refine (Tx.bind_of_ok hlock).trans ?_
  exact (Tx.bind_of_ok hnew).trans rfl

lemma step_start : shop.step (.start (startShipping "a")) = ⟨startedShop, []⟩ := by
  have hstart : (FlowEngine.start (startShipping "a")).commit shop.db = startedShop :=
    Tx.commit_of_ok (start_first shop.db.roles)
  show (⟨_, _⟩ : FlowSystem) = _
  rw [hstart]
  rfl

lemma step_verify : (⟨startedShop, []⟩ : FlowSystem).step
    (.verifyArtifact verifyBuilt fun _ => some builtDocument) = ⟨builtShop, []⟩ := by
  show (⟨_, _⟩ : FlowSystem) = _
  rw [Tx.commit_of_ok verify_built]

lemma step_reserve : (⟨builtShop, []⟩ : FlowSystem).step (.prepare prepareShipping) =
    ⟨builtShop.updateRun firstRun.key (FlowEngine.reserved prepareShipping
      ⟨"ship", "completed", "release", "ops", none⟩ (.obj [])),
      [.offering prepareShipping ⟨"ship", "completed", "release", "ops", none⟩]⟩ := by
  show FlowSystem.after _ _ (FlowEngine.reserve prepareShipping builtShop) = _
  rw [reserve_shipping]
  rfl

lemma shop_initial : shop.Initial := ⟨rfl, rfl, rfl, rfl, rfl, rfl, rfl, rfl, by decide⟩

/-- The build state of the work item `a` is left with the evidence of its document. -/
theorem entry_evidence_shipping : ∃ version, ∀ a ∈ buildState.obligations (.obj []),
    a.Evidenced firstRun version builtShop := by
  have henters : firstRun.Enters shop.db (shop.step (.start (startShipping "a"))).db := by
    rw [step_start]
    exact ⟨List.not_mem_nil, startedFirst_run, rfl⟩
  have hleaves : firstRun.Leaves
      (run FlowSystem.step (shop.step (.start (startShipping "a")))
        [.verifyArtifact verifyBuilt fun _ => some builtDocument]).db
      ((run FlowSystem.step (shop.step (.start (startShipping "a")))
        [.verifyArtifact verifyBuilt fun _ => some builtDocument]).step
          (.prepare prepareShipping)).db := by
    rw [step_start, run_cons, run_nil, step_verify, step_reserve]
    refine ⟨⟨firstRun, startedFirst_run, rfl, rfl, rfl⟩, shippingRun, ?_, rfl,
      by simp [shippingRun, FlowEngine.reserved]⟩
    exact Table.mem_update_of_pos (p := fun k => k.key = firstRun.key) startedFirst_run rfl
  obtain ⟨state, version, hstate, -, hevidenced⟩ := entry_evidence shop
    ⟨shop, [], shop_initial, rfl⟩ (.start (startShipping "a"))
    [.verifyArtifact verifyBuilt fun _ => some builtDocument] (.prepare prepareShipping) firstRun
    henters hleaves
  have hbuild : shippingFlow.1.state "build" = some buildState := by decide
  obtain rfl := Option.some.inj (hstate.symm.trans hbuild)
  rw [step_start, run_cons, run_nil, step_verify] at hevidenced
  exact ⟨version, fun a ha => hevidenced a ha []⟩

end AgenticMesh
