import AgenticMesh.Base.JsonEquality
import AgenticMesh.Base.Triple
import AgenticMesh.Events.Delivery
import AgenticMesh.Flow.SponsorApprovals

/-!
# The events of sponsor gates

Opening and deciding a sponsor gate also appends an event to the journal, with its
outbound messages, in the same transaction.  The evidence of a decision is written
over the facts that the coordinator puts into the governance record and into the
event, so both tell what was decided unless the sponsor says otherwise.
-/

namespace AgenticMesh

/-! ## Drafts -/

/-- `_required` of a value, with the proof that it is normalized. -/
def EventDraft.text (value : Json) (field : String) :
    Except String { t : String // required t = some t } :=
  match value with
  | .str s =>
    match h : required s with
    | some t => .ok ⟨t, required_idem h⟩
    | none => .error (field ++ " is required")
  | _ => .error (field ++ " must be a string")

/-- `EventDraft(...)` without a causation. -/
def EventDraft.init (projectId workItemId actorId correlationId aggregateType aggregateId
    eventType payload : Json) : Except String EventDraft := do
  let projectId ← text projectId "project_id"
  let workItemId ← text workItemId "work_item_id"
  let actorId ← text actorId "actor_id"
  let correlationId ← text correlationId "correlation_id"
  let aggregateType ← text aggregateType "aggregate_type"
  let aggregateId ← text aggregateId "aggregate_id"
  let eventType ← text eventType "event_type"
  return {
    projectId := projectId.1, workItemId := workItemId.1, actorId := actorId.1
    correlationId := correlationId.1, aggregateType := aggregateType.1
    aggregateId := aggregateId.1, eventType := eventType.1, payload, causationId := none
    texts_required := by
      simp [projectId.2, workItemId.2, actorId.2, correlationId.2, aggregateType.2,
        aggregateId.2, eventType.2] }

namespace SponsorApprovals

/-! ## Appending the event of a gate -/

/-- The tables of the gates, and the journal with its outbox. -/
structure SponsorDb where
  db : Db := {}
  events : EventDb := {}

/-- A transaction on the gates. -/
def onGates {α : Type} (t : Tx Db SponsorError α) : Tx SponsorDb SponsorError α :=
  Tx.zoom SponsorDb.db (fun db s => { s with db }) t

/-- A transaction on the journal. -/
def onEvents {α : Type} (t : Tx EventDb SponsorError α) : Tx SponsorDb SponsorError α :=
  Tx.zoom SponsorDb.events (fun events s => { s with events }) t

/-- The identifiers that an event and its messages draw, and the clock. -/
structure EventDraws where
  eventId : ℕ
  outboxId : ℕ → ℕ
  now : Time

/-- The errors of the journal as the coordinator raises them. -/
def ofEventError : EventError → SponsorError
  | .value message => .value message
  | .database => .database

/-- The message of every event of a gate. -/
def lifecycleMessage (projectId workItemId eventType status : String) : OutboundDraft where
  topic := "lifecycle.events"
  payload := .obj [
    ("event_type", .str eventType), ("project_id", .str projectId), ("status", .str status),
    ("work_item_id", .str workItemId)]
  topic_required := by decide

/-- The event of a gate with its two messages. -/
def gateCall (event : EventDraft) (status : String) (additional : OutboundDraft)
    (draws : EventDraws) : AppendCall where
  event := event
  outbound := [
    (lifecycleMessage event.projectId event.workItemId event.eventType status, draws.outboxId 0),
    (additional, draws.outboxId 1)]
  eventId := draws.eventId
  now := draws.now

/-- `_append`. -/
def appendEvent (projectId workItemId actorId correlationId eventType status : String)
    (payload : Json) (additional : OutboundDraft) (draws : EventDraws) :
    Tx EventDb SponsorError Unit := do
  let event ← Tx.mapError .value (Tx.ofExcept (EventDraft.init (.str projectId) (.str workItemId)
    (.str actorId) (.str correlationId) (.str "sponsor-gate")
    ((payload.get? "gate_id").getD .null) (.str eventType) payload))
  Tx.require (payload.storable = true ∧ additional.payload.storable = true) .database
  let c := gateCall event status additional draws
  let _ ← Tx.mapError ofEventError (EventUnitOfWork.append c.event c.outbound c.eventId c.now)

/-! ## `decide` -/

/-- The pending gate of a decision with the verified artifact of its entry. -/
def pendingGate (r : SponsorDecisionRequest) (db : Db) : Option (Gate × String × String) := do
  let projectId ← identifier r.projectId
  let gateId ← identifier r.gateId
  let g ← db.gates.lookup (projectId, gateId)
  let l ← g.flowLink
  let artifact ← db.artifactVersion (g.flowEntry l)
  if g.status = .pending then some (g, artifact) else none

/-- The message that updates the cards of a decided gate. -/
def decisionMessage (g : Gate) (d : Decision) : OutboundDraft where
  topic := "teams.approval-status"
  payload := .obj [
    ("gate_id", .str g.gateId), ("project_id", .str g.projectId), ("status", .str d.text)]
  topic_required := by decide

/-- The event of a decision. -/
def appendDecision (g : Gate) (sponsorId operationId : String) (d : Decision)
    (artifact : String × String) (draws : EventDraws) : Tx EventDb SponsorError Unit :=
  appendEvent g.projectId g.workItemId sponsorId operationId ("sponsor_gate." ++ d.text) "active"
    (decisionEvidence g (g.gateId ++ ":" ++ sponsorId) d artifact) (decisionMessage g d) draws

/-- `decide` with its event: only a pending gate has one. -/
def decideRecorded (r : SponsorDecisionRequest) (clock : DecideClock) (draws : EventDraws) :
    Tx SponsorDb SponsorError Approval := do
  let operationId ← onGates (requireIdentifier r.operationId "identifier")
  let pending ← Tx.query fun s => pendingGate r s.db
  let a ← onGates (decide r clock)
  match pending, a.decision with
  | some (g, artifact), some d => do
    onEvents (appendDecision g a.approverId operationId d artifact draws)
    return a
  | _, _ => return a

/-! ## The facts of a decision -/

/-- What the coordinator knows about a decision. -/
def decisionFacts (g : Gate) (sponsorId : String) (d : Decision) (artifact : String × String) :
    List (String × Json) := [
  ("approval_id", .str (g.gateId ++ ":" ++ sponsorId)), ("decision", .str d.text),
  ("gate_id", .str g.gateId),
  ("reviewed_document", .obj [("etag", .str artifact.2), ("path", .str artifact.1)])]

/-- A record and an event name the facts of a decision. -/
structure NamesDecision (g : Gate) (sponsorId : String) (d : Decision)
    (artifact : String × String) (record : GovernanceRecord) (event : StoredEvent) : Prop where
  record : ∀ fact ∈ decisionFacts g sponsorId d artifact,
    record.evidence.get? fact.1 = some fact.2
  payload : ∀ fact ∈ decisionFacts g sponsorId d artifact,
    event.payload.get? fact.1 = some fact.2
  aggregate : event.aggregateId = g.gateId

/-- The evidence gives no fact another value. -/
def KeepsFacts (facts : List (String × Json)) (evidence : Json) : Prop :=
  ∀ fact ∈ facts, ∀ value, ((Json.obj []).merge evidence).get? fact.1 = some value →
    value = fact.2

section Append

variable {events events' : EventDb}

lemma text_ok {value : Json} {field : String} {t : { t : String // required t = some t }}
    (h : EventDraft.text value field = .ok t) : ∃ s, value = .str s ∧ required s = some t.1 := by
  unfold EventDraft.text at h
  split at h
  · next s =>
    split at h
    · next u hu =>
      obtain rfl := Except.ok.inj h
      exact ⟨s, rfl, hu⟩
    · simp at h
  · simp at h

lemma init_ok {projectId workItemId actorId correlationId aggregateType aggregateId eventType
      payload : Json} {event : EventDraft}
    (h : EventDraft.init projectId workItemId actorId correlationId aggregateType aggregateId
      eventType payload = .ok event) :
    event.payload = payload ∧
      (∃ s, aggregateId = .str s ∧ required s = some event.aggregateId) ∧
      ∃ s, projectId = .str s ∧ required s = some event.projectId := by
  simp only [EventDraft.init, Check.bind_ok, Check.pure_ok] at h
  obtain ⟨project, hproject, _, -, _, -, _, -, _, -, aggregate, haggregate, _, -, rfl⟩ := h
  exact ⟨rfl, text_ok haggregate, text_ok hproject⟩

/-- The event of a gate and its two messages are appended, and both payloads can be stored. -/
lemma appendEvent_rows {projectId workItemId actorId correlationId eventType status : String}
    {payload : Json} {additional : OutboundDraft} {draws : EventDraws} {u : Unit}
    (h : appendEvent projectId workItemId actorId correlationId eventType status payload additional
      draws events = .ok (u, events')) :
    ∃ event, EventDraft.init (.str projectId) (.str workItemId) (.str actorId)
        (.str correlationId) (.str "sponsor-gate") ((payload.get? "gate_id").getD .null)
        (.str eventType) payload = .ok event ∧
      payload.storable = true ∧ additional.payload.storable = true ∧
      (gateCall event status additional draws).stored ∈ events'.events ∧
      events'.outbox.rows = events.outbox.rows ++
      (gateCall event status additional draws).rows := by
  rw [appendEvent, Tx.bind_ok] at h
  obtain ⟨event, e₁, hinit, h⟩ := h
  rw [Tx.mapError_ok, Tx.ofExcept_ok] at hinit
  obtain ⟨hinit, rfl⟩ := hinit
  rw [Tx.require_bind_ok, Tx.bind_ok] at h
  obtain ⟨⟨hpayload, hadditional⟩, stored, e₂, happend, h⟩ := h
  rw [Tx.mapError_ok] at happend
  rw [Tx.pure_ok, Prod.mk.injEq] at h
  obtain ⟨-, rfl⟩ := h
  obtain ⟨-, hrows, houtbox⟩ := append_rows happend
  refine ⟨event, hinit, hpayload, hadditional, ?_, houtbox⟩
  rw [← Table.mem_rows, hrows]
  exact List.mem_append_right _ (List.mem_singleton_self _)

/-- The event of a gate has its payload, and is about the gate that the payload names. -/
lemma appendEvent_ok {projectId workItemId actorId correlationId eventType status : String}
    {payload : Json} {additional : OutboundDraft} {draws : EventDraws} {u : Unit}
    (h : appendEvent projectId workItemId actorId correlationId eventType status payload additional
      draws events = .ok (u, events')) :
    ∃ event ∈ events'.events, event.eventId = draws.eventId ∧ event.payload = payload ∧
      ∃ s, payload.get? "gate_id" = some (.str s) ∧ required s = some event.aggregateId := by
  obtain ⟨event, hinit, -, -, hstored, -⟩ := appendEvent_rows h
  obtain ⟨hpayload, ⟨s, haggregate, hs⟩, -⟩ := init_ok hinit
  refine ⟨_, hstored, rfl, hpayload, s, ?_, hs⟩
  cases hgate : payload.get? "gate_id" with
  | none => simp [hgate] at haggregate
  | some v =>
    rw [hgate, Option.getD_some] at haggregate
    rw [haggregate]

end Append

section Decide

variable {r : SponsorDecisionRequest} {clock : DecideClock} {draws : EventDraws}
  {s s' : SponsorDb} {a' : Approval} {g : Gate} {artifact : String × String}

lemma pendingGate_eq_some {db : Db} (h : pendingGate r db = some (g, artifact)) :
    ∃ projectId gateId l, identifier r.projectId = some projectId ∧
      identifier r.gateId = some gateId ∧ db.gates.lookup (projectId, gateId) = some g ∧
      g.flowLink = some l ∧ db.artifactVersion (g.flowEntry l) = some artifact ∧
      g.status = .pending := by
  simp only [pendingGate, Option.bind_eq_bind, Option.bind_eq_some_iff] at h
  obtain ⟨projectId, hproject, gateId, hgateId, g', hg, l, hl, artifact', hartifact, h⟩ := h
  split at h
  · next hpending =>
    obtain ⟨rfl, rfl⟩ := Prod.mk.inj (Option.some.inj h)
    exact ⟨projectId, gateId, l, hproject, hgateId, hg, hl, hartifact, hpending⟩
  · simp at h

/-- A decision writes its record and keeps it while the work is routed. -/
lemma Decides.record {l : FlowLink} {a : Approval} {sponsorId digest operationId : String}
    {d : Decision} {run : FlowRun} {db db' : Db}
    (h : Decides g l a sponsorId digest operationId d clock run artifact db db') :
    decisionRecord g l sponsorId (g.gateId ++ ":" ++ sponsorId) digest d artifact ∈
      db'.governance := by
  obtain ⟨governance, hins, hroutes⟩ := h.effect
  obtain ⟨queueItems, rfl⟩ := hroutes.items
  have hkept : (settled g l (g.gateId ++ ":" ++ sponsorId) d ⟨operationId, digest⟩ governance
      db).governance = governance := by
    unfold settled
    cases d.approved <;> rfl
  change _ ∈ (settled g l (g.gateId ++ ":" ++ sponsorId) d ⟨operationId, digest⟩ governance
    db).governance
  rw [hkept]
  exact (Table.mem_of_insert hins _).2 (Or.inr rfl)

/-- What a recorded decision writes: its record and its event have the same evidence. -/
lemma decideRecorded_ok (h : decideRecorded r clock draws s = .ok (a', s'))
    (hnew : pendingGate r s.db = some (g, artifact)) :
    ∃ sponsorId d, identifier r.sponsorId = some sponsorId ∧ a'.decision = some d ∧
      d.evidence = r.decision.evidence ∧ identifier r.gateId = some g.gateId ∧
      (∃ record ∈ s'.db.governance, record.key = (g.projectId, "sponsor:" ++ g.gateId) ∧
        record.evidence = decisionEvidence g (g.gateId ++ ":" ++ sponsorId) d artifact) ∧
      ∃ event ∈ s'.events.events, event.eventId = draws.eventId ∧
        event.payload = decisionEvidence g (g.gateId ++ ":" ++ sponsorId) d artifact ∧
        ∃ named, event.payload.get? "gate_id" = some (.str named) ∧
          required named = some event.aggregateId := by
  rw [decideRecorded, Tx.bind_ok] at h
  obtain ⟨operationId, s₁, hoperation, h⟩ := h
  rw [onGates, Tx.zoom_ok] at hoperation
  obtain ⟨db₁, hoperation, rfl⟩ := hoperation
  simp only [requireIdentifier, Tx.demand_ok] at hoperation
  obtain ⟨-, rfl⟩ := hoperation
  rw [Tx.query_bind_ok, Tx.bind_ok] at h
  obtain ⟨a, s₂, hdecide, h⟩ := h
  rw [onGates, Tx.zoom_ok] at hdecide
  obtain ⟨db₂, hdecide, rfl⟩ := hdecide
  -- the decision is about the pending gate
  obtain ⟨projectId, gateId, l, hproject, hgateId, hlookup, hlink, hartifact, hpending⟩ :=
    pendingGate_eq_some hnew
  obtain ⟨hgmem, hgkey⟩ := Table.lookup_eq_some.1 hlookup
  obtain ⟨g', l', b, sponsorId, operationId', rationale, hcall, hcases⟩ := decide_call hdecide
  have hsame : g' = g := by
    refine Table.eq_of_key s.db.gates hcall.mem hgmem ?_
    rw [hgkey]
    exact Prod.ext (Option.some.inj (hcall.project.symm.trans hproject))
      (Option.some.inj (hcall.gate.symm.trans hgateId))
  subst hsame
  obtain rfl : l = l' := Option.some.inj (hlink.symm.trans hcall.link)
  rcases hcases with ⟨-, -, hne⟩ | ⟨-, rfl, run, artifact', hdecides⟩
  · exact absurd hpending hne
  · obtain rfl : artifact' = artifact :=
      Option.some.inj (hdecides.waiting.verified.symm.trans hartifact)
    have happrover : b.approverId = sponsorId := (Prod.mk.inj (Prod.mk.inj hcall.approver).2).2
    simp only [hnew, Tx.bind_ok, onEvents, Tx.zoom_ok, Tx.pure_ok, Prod.mk.injEq] at h
    obtain ⟨_, s₃, ⟨events, happend, rfl⟩, rfl, rfl⟩ := h
    obtain ⟨event, hevent, hid, hpayload, named, hnamed, haggregate⟩ := appendEvent_ok happend
    rw [happrover] at hpayload hnamed
    refine ⟨sponsorId, { r.decision with rationale }, hcall.sponsor, rfl, rfl, hcall.gate,
      ⟨_, hdecides.record, rfl, rfl⟩, event, hevent, hid, hpayload, named, ?_, haggregate⟩
    rw [hpayload]
    exact hnamed

/-! ### Which evidence keeps the facts -/

/-- Every fact is a field of the facts. -/
lemma get?_decisionFacts {sponsorId : String} {d : Decision} {fact : String × Json}
    (h : fact ∈ decisionFacts g sponsorId d artifact) :
    (Json.obj (decisionFacts g sponsorId d artifact)).get? fact.1 = some fact.2 := by
  simp only [decisionFacts, List.mem_cons, List.not_mem_nil, or_false] at h
  rcases h with rfl | rfl | rfl | rfl <;> rfl

/-- The evidence of a decision has a fact unless the sponsor gave it another value. -/
lemma get?_decisionEvidence_eq {sponsorId : String} {d : Decision} {fact : String × Json}
    (h : fact ∈ decisionFacts g sponsorId d artifact) :
    (decisionEvidence g (g.gateId ++ ":" ++ sponsorId) d artifact).get? fact.1 = some fact.2 ↔
      ∀ value, ((Json.obj []).merge d.evidence).get? fact.1 = some value → value = fact.2 := by
  change ((Json.obj (decisionFacts g sponsorId d artifact)).merge d.evidence).get? fact.1 = _ ↔ _
  rw [Json.get?_merge, get?_decisionFacts h]
  cases ((Json.obj []).merge d.evidence).get? fact.1 with
  | none => simp
  | some value => simp

lemma isIdentifier_of_identifier {s t : String} (h : identifier s = some t) :
    isIdentifier t = true := by
  unfold identifier at h
  split at h
  · next hid =>
    obtain rfl := Option.some.inj h
    exact hid
  · simp at h

/-- The record and the event of a decision name its facts exactly if the evidence of the sponsor
keeps them. -/
theorem names_decision_iff (h : decideRecorded r clock draws s = .ok (a', s'))
    (hnew : pendingGate r s.db = some (g, artifact)) :
    ∃ sponsorId d, identifier r.sponsorId = some sponsorId ∧ a'.decision = some d ∧
      ∃ record ∈ s'.db.governance, record.key = (g.projectId, "sponsor:" ++ g.gateId) ∧
        ∃ event ∈ s'.events.events, event.eventId = draws.eventId ∧
          (NamesDecision g sponsorId d artifact record event ↔
            KeepsFacts (decisionFacts g sponsorId d artifact) r.decision.evidence) := by
  obtain ⟨sponsorId, d, hsponsor, hdecision, hevidence, hgateId, ⟨record, hrecord, hkey, hwritten⟩,
    event, hevent, hid, hpayload, named, hnamed, haggregate⟩ := decideRecorded_ok h hnew
  refine ⟨sponsorId, d, hsponsor, hdecision, record, hrecord, hkey, event, hevent, hid, ?_⟩
  rw [← hevidence]
  constructor
  · intro hnames fact hfact
    have hget := hnames.record fact hfact
    rw [hwritten] at hget
    exact (get?_decisionEvidence_eq hfact).1 hget
  · intro hkeeps
    have hget : ∀ fact ∈ decisionFacts g sponsorId d artifact,
        (decisionEvidence g (g.gateId ++ ":" ++ sponsorId) d artifact).get? fact.1 =
          some fact.2 := fun fact hfact => (get?_decisionEvidence_eq hfact).2 (hkeeps fact hfact)
    refine ⟨fun fact hfact => ?_, fun fact hfact => ?_, ?_⟩
    · rw [hwritten]
      exact hget fact hfact
    · rw [hpayload]
      exact hget fact hfact
    · have hgate := hget ("gate_id", .str g.gateId) (by simp [decisionFacts])
      rw [← hpayload, hnamed, Option.some.injEq, Json.str.injEq] at hgate
      rw [hgate, required_of_isIdentifier (isIdentifier_of_identifier hgateId)] at haggregate
      exact (Option.some.inj haggregate).symm

end Decide

/-! ### A gate that two decisions could resolve -/

/-- A gate of the build state. -/
def buildGate : Gate where
  projectId := "p"
  gateId := "g"
  workItemId := "w"
  gateType := "sponsor_approval"
  requestedBy := "dev"
  requestedAt := 0
  correlationId := "c"
  evidence := .obj []
  status := .pending
  flowLink := some ⟨"build", 1, "approve", 1000⟩

/-- The artifact and the gate of the build state. -/
def buildObligations : Table FlowObligation FlowObligation.key := ⟨[
  { projectId := "p", workItemId := "w", state := "build", entryVersion := 1, kind := .artifact
    obligationId := "artifact", accountableRoleId := "dev", payload := .obj []
    status := .satisfied, evidence := .obj [] },
  { projectId := "p", workItemId := "w", state := "build", entryVersion := 1, kind := .gate
    obligationId := "approve", accountableRoleId := "dev"
    payload := .obj [("requested_from", .str "sponsor"), ("type", .str "sponsor_approval")]
    status := .pending, evidence := .obj [] }], by decide⟩

/-- The work item that waits for its sponsor. -/
def gatedItem : WorkItem where
  projectId := "p"
  workItemId := "w"
  assignedRoleId := some "dev"
  status := .gated
  version := 2
  payload := .obj []
  terminalReason := none
  terminalEvidence := .obj []

def gatedDb : SponsorDb where
  db := {
    roles := ⟨[⟨"p", "dev", .active⟩], by simp⟩
    queues := ⟨[⟨"p", "dev", "dev", none, false⟩], by simp⟩
    workItems := ⟨[gatedItem], by simp⟩
    gates := ⟨[buildGate], by simp⟩
    approvals := ⟨[⟨"p", "g:alice", "g", "alice", none⟩], by simp⟩
    flowRuns := ⟨[
      { projectId := "p", workItemId := "w", flow := shippingFlow.val, currentState := "build"
        ownerRoleId := "dev", status := .active, fields := .obj [], version := 1 }], by simp⟩
    obligations := buildObligations
    governance := ⟨[
      { projectId := "p", workItemId := "w", recordId := "built", requestDigest := "d"
        state := "build", entryVersion := 1, kind := .artifact, obligationId := "artifact"
        decision := .verified, actorRoleId := "dev", reason := "", evidence := .obj []
        document := some ("work/w.md", "v1") }], by simp⟩ }
  events := { workItems := ⟨[gatedItem], by simp⟩ }

/-- The approval of a sponsor with some evidence. -/
def approveBuild (evidence : Json) : SponsorDecisionRequest where
  projectId := "p"
  gateId := "g"
  sponsorId := "alice"
  decision := ⟨true, "fine", evidence⟩
  operationId := "o"

lemma decides_gatedDb (evidence : Json)
    (h : ((decideRecorded (approveBuild evidence) ⟨1, 1⟩ ⟨1, id, 1⟩ gatedDb).toOption).isSome) :
    ∃ a' s', decideRecorded (approveBuild evidence) ⟨1, 1⟩ ⟨1, id, 1⟩ gatedDb = .ok (a', s') ∧
      pendingGate (approveBuild evidence) gatedDb.db = some (buildGate, "work/w.md", "v1") := by
  obtain ⟨⟨a', s'⟩, hout⟩ := Option.isSome_iff_exists.1 h
  refine ⟨a', s', Check.toOption_eq_some.1 hout, ?_⟩
  have hp : identifier "p" = some "p" := by decide
  have hg : identifier "g" = some "g" := by decide
  simp only [pendingGate, approveBuild, hp, hg]
  decide

/-- Evidence that repeats the gate and the decision, beside a note of its own. -/
def agreeingEvidence : Json :=
  .obj [("decision", .str "approved"), ("gate_id", .str "g"), ("note", .str "checked")]

/-- A decision whose evidence agrees with the facts is recorded as what it is. -/
theorem names_decision_with_evidence :
    ∃ a' s', decideRecorded (approveBuild agreeingEvidence) ⟨1, 1⟩ ⟨1, id, 1⟩ gatedDb =
        .ok (a', s') ∧
      ∃ sponsorId d, ∃ record ∈ s'.db.governance, ∃ event ∈ s'.events.events,
        NamesDecision buildGate sponsorId d ("work/w.md", "v1") record event := by
  obtain ⟨a', s', hdecide, hnew⟩ := decides_gatedDb agreeingEvidence (by decide +kernel)
  obtain ⟨sponsorId, d, -, hdecision, record, hrecord, -, event, hevent, -, hiff⟩ :=
    names_decision_iff hdecide hnew
  refine ⟨a', s', hdecide, sponsorId, d, record, hrecord, event, hevent, hiff.2 ?_⟩
  have htext : d.text = "approved" := by
    have heval : ((decideRecorded (approveBuild agreeingEvidence) ⟨1, 1⟩ ⟨1, id, 1⟩
        gatedDb).toOption.bind fun p => p.1.decision).map Decision.text = some "approved" := by
      decide +kernel
    rw [hdecide] at heval
    simpa [Except.toOption, hdecision] using heval
  have hmerge : (Json.obj []).merge (approveBuild agreeingEvidence).decision.evidence =
      agreeingEvidence := by decide
  intro fact hfact value hvalue
  rw [hmerge] at hvalue
  simp only [decisionFacts, List.mem_cons, List.not_mem_nil, or_false] at hfact
  rcases hfact with rfl | rfl | rfl | rfl
  · simp [agreeingEvidence, Json.get?] at hvalue
  · simpa [agreeingEvidence, Json.get?, htext, eq_comm] using hvalue
  · simpa [agreeingEvidence, Json.get?, buildGate, eq_comm] using hvalue
  · simp [agreeingEvidence, Json.get?] at hvalue

/-- The evidence of a sponsor renames the gate of the record. -/
theorem misnamed_decision :
    ¬ ∀ r clock draws s a' s' g artifact, decideRecorded r clock draws s = .ok (a', s') →
      pendingGate r s.db = some (g, artifact) → ∀ record ∈ s'.db.governance,
        record.key = (g.projectId, "sponsor:" ++ g.gateId) →
          record.evidence.get? "gate_id" = some (.str g.gateId) := by
  intro hall
  obtain ⟨a', s', hdecide, hnew⟩ :=
    decides_gatedDb (.obj [("gate_id", .str "other")]) (by decide +kernel)
  obtain ⟨sponsorId, d, -, -, hevidence, -, ⟨record, hrecord, hkey, hwritten⟩, -⟩ :=
    decideRecorded_ok hdecide hnew
  have hnamed := hall _ _ _ _ _ _ _ _ hdecide hnew record hrecord hkey
  have hfact : (("gate_id", .str buildGate.gateId) : String × Json) ∈
      decisionFacts buildGate sponsorId d ("work/w.md", "v1") := by simp [decisionFacts]
  rw [hwritten, get?_decisionEvidence_eq hfact, hevidence] at hnamed
  exact absurd (hnamed (.str "other") rfl) (by decide)

end SponsorApprovals

end AgenticMesh
