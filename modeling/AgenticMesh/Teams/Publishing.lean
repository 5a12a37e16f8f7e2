import AgenticMesh.Flow.SponsorEvents
import AgenticMesh.Teams.Notifications

/-!
# Publishing Teams notifications

Opening a sponsor gate and publishing a progress checkpoint enqueue a notification
for the sponsors of the project.  The producers check their arguments with the
identifiers of the control plane, which may start with any character of the
alphabet, and let a next action be twice as long as the adapter sends it.
-/

namespace AgenticMesh.Teams

open SponsorApprovals

/-! ## Opening a gate -/

/-- `_teams_summary`. -/
def teamsSummary (evidence : Json) (gateId : String) : String :=
  strip ((((evidence.get? "summary").getD
    (.str ("Approval requested for " ++ gateId ++ "."))).asString).getD "")

/-- The payload of the event of an opened gate. -/
def openedPayload (r : SponsorGateRequest) (expiresAt : String) : Json := .obj [
  ("expires_at", .str expiresAt), ("gate_id", .str r.gateId),
  ("obligation_id", .str r.obligationId), ("sponsor_ids", .arr (r.sponsorIds.map Json.str))]

/-- The approval request of an opened gate. -/
def approvalMessage (r : SponsorGateRequest) (expiresAt : String) : OutboundDraft where
  topic := "teams.approval"
  payload := approvalPayload r.projectId r.workItemId r.gateId r.requestedBy r.sponsorIds
    (teamsSummary r.evidence r.gateId) expiresAt
  topic_required := by decide

section Open

variable (sensitive : String → Bool) (format : TimestampFormat)

/-- The event of an opened gate, with `expires_at::text` of its row. -/
def appendOpened (r : SponsorGateRequest) (g : Gate) (draws : EventDraws) :
    Tx EventDb SponsorError Unit :=
  let expiresAt := (g.flowLink.map fun l => format.text l.expiresAt).getD ""
  appendEvent r.projectId r.workItemId r.requestedBy r.correlationId "sponsor_gate.opened" "gated"
    (openedPayload r expiresAt) (approvalMessage r expiresAt) draws

/-- `open` with its event: only a new gate has one. -/
def openRecorded (r : SponsorGateRequest) (now : Time) (draws : EventDraws) :
    Tx SponsorDb SponsorError Gate := do
  let r ← onGates (checkOpen sensitive r)
  let existing ← Tx.query fun s => s.db.gates.lookup (r.projectId, r.gateId)
  match existing with
  | some g => do
    let s ← Tx.query id
    Tx.require (SameOpen r g s.db) (.conflict "gate already exists with different request data")
    return g
  | none => do
    let g ← onGates (openNew r now)
    onEvents (appendOpened format r g draws)
    return g

end Open

/-! ## Recording progress -/

/-- The exceptions of the progress store. -/
inductive ProgressError where
  | value (message : String)
  /-- `ProgressSensitiveContent`. -/
  | sensitive (message : String)
  | notFound (message : String)
  | conflict (message : String)
  /-- `progress checkpoint operation failed`. -/
  | database
deriving DecidableEq

/-- `^[a-z][a-z0-9_-]{0,31}$`. -/
def isProgressStatus (s : String) : Bool :=
  match s.toList with
  | [] => false
  | c :: cs => c.isLower && cs.length ≤ 31 &&
      cs.all fun c => c.isLower || c.isDigit || c == '_' || c == '-'

/-- A stripped text of limited length without restricted content. -/
structure IsProgressText (sensitive : String → Bool) (maximum : ℕ) (s : String) : Prop where
  strip : strip s = s
  ne : s ≠ ""
  length : s.toList.length ≤ maximum
  safe : sensitive s = false

/-- The arguments of `ProgressDraft`. -/
structure ProgressArguments where
  projectId : String
  workItemId : String
  roleInstanceId : String
  checkpointId : String
  expectedPreviousSequence : ℤ
  status : String
  goal : String
  step : String
  completedAction : Option String
  activity : Option String
  blocker : Option String
  nextAction : String
  safeSummary : String

/-- A row of `progress` that a checkpoint was recorded as. -/
structure ProgressCheckpoint where
  projectId : String
  checkpointId : String
  workItemId : String
  roleInstanceId : String
  sequence : ℕ
  status : String
  goal : String
  step : String
  completedAction : Option String
  activity : Option String
  blocker : Option String
  nextAction : String
  safeSummary : String
deriving DecidableEq

namespace ProgressCheckpoint

def key (c : ProgressCheckpoint) : String × String := (c.projectId, c.checkpointId)

/-- The texts of a checkpoint. -/
def texts (c : ProgressCheckpoint) : List String :=
  [c.goal, c.step, c.nextAction, c.safeSummary] ++
    c.completedAction.toList ++ c.activity.toList ++ c.blocker.toList

end ProgressCheckpoint

section Progress

variable (sensitive : String → Bool)

/-- `ProgressDraft`: the checkpoint that it asks for, with what its checks found out. -/
structure ProgressDraft where
  checkpoint : ProgressCheckpoint
  status_valid : isProgressStatus checkpoint.status = true
  next_text : IsProgressText sensitive 2000 checkpoint.nextAction
  summary_text : IsProgressText sensitive 1000 checkpoint.safeSummary

/-- `_required_text`. -/
def requiredText (value field : String) (maximum : ℕ) :
    Except ProgressError { s : String // IsProgressText sensitive maximum s } :=
  if h : strip value ≠ "" ∧ (strip value).toList.length ≤ maximum then
    if hsafe : sensitive (strip value) = false then
      .ok ⟨strip value, strip_strip value, h.1, h.2, hsafe⟩
    else .error (.sensitive (field ++ " contains restricted content"))
  else .error (.value (field ++ " is invalid"))

/-- `_optional_text`. -/
def optionalText (value : Option String) (field : String) (maximum : ℕ) :
    Except ProgressError (Option String) :=
  value.mapM fun value => do return (← requiredText sensitive value field maximum).1

/-- `_identifier`. -/
def progressIdentifier (value field : String) : Except ProgressError String := do
  let s ← requiredText sensitive value field 128
  Check.that (isIdentifier s.1 = true) (.value (field ++ " is invalid"))
  return s.1

/-- The status of a checkpoint. -/
def progressStatus (value : String) :
    Except ProgressError { s : String // isProgressStatus s } := do
  let s ← requiredText sensitive value "status" 32
  if h : isProgressStatus s.1 = true then return ⟨s.1, h⟩
  else .error (.value "status is invalid")

/-- `ProgressDraft(...)`. -/
def ProgressDraft.init (a : ProgressArguments) :
    Except ProgressError (ProgressDraft sensitive) := do
  let projectId ← progressIdentifier sensitive a.projectId "project_id"
  let workItemId ← progressIdentifier sensitive a.workItemId "work_item_id"
  let roleInstanceId ← progressIdentifier sensitive a.roleInstanceId "role_instance_id"
  let checkpointId ← progressIdentifier sensitive a.checkpointId "checkpoint_id"
  Check.that (0 ≤ a.expectedPreviousSequence) (.value "expected_previous_sequence is invalid")
  let status ← progressStatus sensitive a.status
  let goal ← requiredText sensitive a.goal "goal" 2000
  let step ← requiredText sensitive a.step "step" 2000
  let nextAction ← requiredText sensitive a.nextAction "next_action" 2000
  let completedAction ← optionalText sensitive a.completedAction "completed_action" 2000
  let activity ← optionalText sensitive a.activity "activity" 2000
  let blocker ← optionalText sensitive a.blocker "blocker" 2000
  let safeSummary ← requiredText sensitive a.safeSummary "safe_summary" 1000
  return {
    checkpoint := {
      projectId, checkpointId, workItemId, roleInstanceId
      sequence := a.expectedPreviousSequence.toNat + 1
      status := status.1, goal := goal.1, step := step.1, completedAction, activity, blocker
      nextAction := nextAction.1, safeSummary := safeSummary.1 }
    status_valid := status.2
    next_text := nextAction.2
    summary_text := safeSummary.2 }

/-- The tables of the sponsors and the journal, and the progress of the work items. -/
structure ProgressDb extends SponsorDb where
  checkpoints : Table ProgressCheckpoint ProgressCheckpoint.key := ∅

namespace ProgressDb

/-- `COALESCE(MAX(sequence), 0)` of a work item. -/
def latestSequence (projectId workItemId : String) (s : ProgressDb) : ℕ :=
  ((s.checkpoints.select fun c => (c.projectId, c.workItemId) = (projectId, workItemId)).map
    ProgressCheckpoint.sequence).foldl max 0

/-- `INSERT INTO progress`, against `UNIQUE (project_id, work_item_id, sequence)`. -/
def insertCheckpoint (c : ProgressCheckpoint) (s : ProgressDb) : Option ProgressDb :=
  if ∃ d ∈ s.checkpoints.rows,
      (d.projectId, d.workItemId, d.sequence) = (c.projectId, c.workItemId, c.sequence) then none
  else (s.checkpoints.insert c).map fun checkpoints => { s with checkpoints }

end ProgressDb

/-- `ProgressStore.record`. -/
def record (d : ProgressDraft sensitive) : Tx ProgressDb ProgressError ProgressCheckpoint := do
  let c := d.checkpoint
  let s ← Tx.query id
  Tx.require ((s.db.workItems.lookup (c.projectId, c.workItemId)).isSome ∧
      (s.db.instances.lookup (c.projectId, c.roleInstanceId)).isSome)
    (.notFound "work item or project role instance not found")
  let existing ← Tx.query fun s => s.checkpoints.lookup c.key
  match existing with
  | some row => do
    Tx.require (row = c) (.conflict "checkpoint id is already used by different progress")
    return row
  | none => do
    Tx.require (s.latestSequence c.projectId c.workItemId + 1 = c.sequence)
      (.conflict "progress checkpoint sequence is stale")
    Tx.require (∀ t ∈ c.texts, hasNoNul t = true) .database
    Tx.attempt (ProgressDb.insertCheckpoint c) (.conflict "progress checkpoint conflicts")
    return c

end Progress

/-! ## Publishing progress -/

/-- The arguments of `publish`. -/
structure PublishRequest where
  projectId : String
  checkpointId : String
  operationId : String

/-- The sponsors of a project, in order. -/
def projectSponsors (projectId : String) (db : Db) : List String :=
  ((db.sponsors.select (·.projectId = projectId)).map ProjectSponsor.sponsorId).insertionSort
    (· ≤ ·)

/-- The event that a checkpoint was published with. -/
def publishedEvent (projectId checkpointId : String) (events : EventDb) : Option StoredEvent :=
  events.events.find fun e => e.projectId = projectId ∧ e.aggregateType = "teams-progress" ∧
    e.aggregateId = checkpointId

/-- The checkpoint with the role of its instance. -/
def checkpointRole (projectId checkpointId : String) (s : ProgressDb) :
    Option (ProgressCheckpoint × String) := do
  let c ← s.checkpoints.lookup (projectId, checkpointId)
  let i ← s.db.instances.lookup (projectId, c.roleInstanceId)
  return (c, i.roleId)

/-- The notification of a checkpoint. -/
def progressMessage (payload : Json) : OutboundDraft where
  topic := "teams.progress"
  payload := payload
  topic_required := by decide

/-- The errors of the identifiers of Teams. -/
def publishIdentifier (value field : String) : Tx ProgressDb SponsorError String :=
  Tx.mapError .value (Tx.ofExcept (externalId value field))

/-- A transaction on the journal. -/
def onJournal {α : Type} (t : Tx EventDb EventError α) : Tx ProgressDb SponsorError α :=
  Tx.mapError ofEventError (Tx.zoom (fun s => s.events) (fun events s => { s with events }) t)

/-- The event of a checkpoint with its notification. -/
def publishCall (event : EventDraft) (draws : EventDraws) : AppendCall where
  event := event
  outbound := [(progressMessage event.payload, draws.outboxId 0)]
  eventId := draws.eventId
  now := draws.now

/-- `TeamsProgressPublisher.publish`. -/
def publish (r : PublishRequest) (draws : EventDraws) : Tx ProgressDb SponsorError StoredEvent := do
  let projectId ← publishIdentifier r.projectId "project_id"
  let checkpointId ← publishIdentifier r.checkpointId "checkpoint_id"
  let operationId ← publishIdentifier r.operationId "operation_id"
  let existing ← Tx.query fun s => publishedEvent projectId checkpointId s.events
  match existing with
  | some e => return e
  | none => do
    let (c, roleId) ← Tx.demand (checkpointRole projectId checkpointId)
      (.notFound "progress checkpoint not found")
    let sponsors ← Tx.query fun s => projectSponsors projectId s.db
    Tx.require (sponsors ≠ []) (.authorization "project has no sponsors for Teams progress")
    let payload := progressPayload projectId c.workItemId checkpointId roleId sponsors c.status
      c.nextAction c.safeSummary
    let event ← Tx.mapError .value (Tx.ofExcept (EventDraft.init (.str projectId)
      (.str c.workItemId) (.str roleId) (.str operationId) (.str "teams-progress")
      (.str checkpointId) (.str "teams.progress_requested") payload))
    Tx.require (payload.storable = true) .database
    let call := publishCall event draws
    onJournal (EventUnitOfWork.append call.event call.outbound call.eventId call.now)

/-! ## What is enqueued -/

/-- The messages of a topic that a transaction adds to the outbox. -/
def enqueued (topic : String) (before after : EventDb) : List OutboxRow :=
  after.outbox.rows.filter fun row => row ∉ before.outbox.rows ∧ row.topic = topic

/-- The first character is an ASCII letter or digit. -/
def startsAlphanum (s : String) : Bool := s.toList.head?.any Char.isAlphanum

/-- An identifier of the control plane is one of Teams exactly if it starts with a letter or a
digit. -/
lemma isExternalId_iff {s : String} (h : isIdentifier s = true) :
    isExternalId s = true ↔ startsAlphanum s = true := by
  simp only [isIdentifier, Bool.and_eq_true, decide_eq_true_eq, List.all_eq_true] at h
  obtain ⟨⟨-, hlength⟩, hchars⟩ := h
  unfold isExternalId startsAlphanum
  split
  · next hs => simp [hs]
  · next c cs hs =>
    rw [hs] at hlength hchars
    simp only [hs, List.head?_cons, Option.any_some, Bool.and_eq_true, decide_eq_true_eq,
      List.all_eq_true]
    refine ⟨fun hc => hc.1.1, fun hc => ⟨⟨hc, ?_⟩, fun d hd => ?_⟩⟩
    · rw [List.length_cons] at hlength
      omega
    · simp [isExternalChar, hchars d (List.mem_cons_of_mem c hd)]

/-- A text without restricted content that can be stored may be shown. -/
lemma IsProgressText.isSummary {sensitive : String → Bool} {s : String}
    (h : IsProgressText sensitive 1000 s) (hnul : hasNoNul s = true) : IsSummary sensitive s :=
  ⟨h.strip, h.ne, h.length, hnul, h.safe⟩

section Enqueued

variable {topic : String} {before after : EventDb}

lemma enqueued_same : enqueued topic before before = [] := by
  rw [enqueued, List.filter_eq_nil_iff]
  intro row hrow
  simp [hrow]

/-- A message that is enqueued is one of the rows that are appended. -/
lemma mem_enqueued {rows : List OutboxRow} {row : OutboxRow}
    (hrows : after.outbox.rows = before.outbox.rows ++ rows)
    (h : row ∈ enqueued topic before after) :
    row ∈ rows ∧ row.topic = topic := by
  rw [enqueued, hrows, List.mem_filter, List.mem_append] at h
  obtain ⟨hmem, h⟩ := h
  obtain ⟨hnew, htopic⟩ := of_decide_eq_true h
  exact ⟨hmem.resolve_left hnew, htopic⟩

end Enqueued

/-! ### An opened gate -/

section Opened

variable {sensitive : String → Bool} {format : TimestampFormat} {r r' : SponsorGateRequest}
  {now : Time} {draws : EventDraws} {db db' : Db} {s s' : SponsorDb} {g : Gate}

/-- What the arguments of `open` are when they pass its checks. -/
structure Announced (sensitive : String → Bool) (r r' : SponsorGateRequest) : Prop where
  gate : r'.gateId = strip r.gateId
  gate_valid : isIdentifier r'.gateId = true
  project_valid : isIdentifier r'.projectId = true
  sponsors : r'.sponsorIds = r.sponsorIds.map strip
  sponsors_valid : ∀ id ∈ r'.sponsorIds, isIdentifier id = true
  sponsors_nonempty : r'.sponsorIds ≠ []
  sponsors_nodup : r'.sponsorIds.Nodup
  summary : IsProgressText sensitive 1000 (teamsSummary r'.evidence r'.gateId)

lemma eq_strip_of_identifier {s t : String} (h : identifier s = some t) : t = strip s := by
  unfold identifier at h
  split at h
  · exact (Option.some.inj h).symm
  · simp at h

lemma mapM_identifier {ss ts : List String} (h : ss.mapM identifier = some ts) :
    ts = ss.map strip ∧ ∀ t ∈ ts, isIdentifier t = true := by
  induction ss generalizing ts with
  | nil =>
    obtain rfl : [] = ts := by simpa using h
    exact ⟨rfl, fun t ht => absurd ht List.not_mem_nil⟩
  | cons s ss ih =>
    simp only [List.mapM_cons, Option.bind_eq_bind, Option.bind_eq_some_iff, Option.pure_def,
      Option.some.injEq] at h
    obtain ⟨t, ht, rest, hrest, rfl⟩ := h
    obtain ⟨heq, hvalid⟩ := ih hrest
    refine ⟨?_, List.forall_mem_cons.2 ⟨isIdentifier_of_identifier ht, hvalid⟩⟩
    rw [eq_strip_of_identifier ht, heq, List.map_cons]

/-- The summary of a gate is the text that `open` checks. -/
lemma requireSummary_text {v : Json} {gateId : String} {u : Unit}
    (h : requireSummary sensitive v gateId db = .ok (u, db')) :
    IsProgressText sensitive 1000 (teamsSummary v gateId) := by
  simp only [requireSummary, Tx.demand_bind_ok, Tx.require_bind_ok, Tx.require_ok] at h
  obtain ⟨text, htext, ⟨hne, hlength⟩, hsafe, -⟩ := h
  have hsummary : teamsSummary v gateId = strip text := by
    rw [teamsSummary, htext, Option.getD_some]
  rw [hsummary]
  exact ⟨strip_strip text, hne, (length_strip_le text).trans hlength, hsafe⟩

lemma checkOpen_announced (h : checkOpen sensitive r db = .ok (r', db')) :
    Announced sensitive r r' := by
  simp only [checkOpen, requireIdentifier, Tx.demand_bind_ok, Tx.require_bind_ok] at h
  obtain ⟨p, hp, w, -, gate, hg, o, -, b, -, c, -, sponsors, hsponsors, ⟨hne, hnodup⟩, -, -,
    h⟩ := h
  rw [Tx.bind_ok] at h
  obtain ⟨_, db₁, -, h⟩ := h
  rw [Tx.bind_ok] at h
  obtain ⟨_, db₂, hsummary, h⟩ := h
  rw [Tx.pure_ok, Prod.mk.injEq] at h
  obtain ⟨rfl, -⟩ := h
  obtain ⟨hmap, hvalid⟩ := mapM_identifier hsponsors
  exact ⟨eq_strip_of_identifier hg, isIdentifier_of_identifier hg, isIdentifier_of_identifier hp,
    hmap, hvalid, hne, hnodup, requireSummary_text hsummary⟩

/-- A call of `open` enqueues nothing, or the request of its checked arguments. -/
lemma openRecorded_rows (h : openRecorded sensitive format r now draws s = .ok (g, s')) :
    ∃ r', Announced sensitive r r' ∧ (s'.events = s.events ∨
      ∃ l event, g.flowLink = some l ∧ g.requestedBy = r'.requestedBy ∧
        g.projectId = r'.projectId ∧ event.projectId = r'.projectId ∧
        (approvalMessage r' (format.text l.expiresAt)).payload.storable = true ∧
        s'.events.outbox.rows = s.events.outbox.rows ++
          (gateCall event "gated" (approvalMessage r' (format.text l.expiresAt)) draws).rows) := by
  rw [openRecorded, Tx.bind_ok] at h
  obtain ⟨r', s₁, hcheck, h⟩ := h
  rw [onGates, Tx.zoom_ok] at hcheck
  obtain ⟨db₁, hcheck, rfl⟩ := hcheck
  have hannounced := checkOpen_announced hcheck
  refine ⟨r', hannounced, ?_⟩
  rw [Tx.query_bind_ok] at h
  cases hgate : db₁.gates.lookup (r'.projectId, r'.gateId) with
  | some g' =>
    simp only [hgate, Tx.query_bind_ok, Tx.require_bind_ok, Tx.pure_ok, Prod.mk.injEq] at h
    obtain ⟨-, rfl, rfl⟩ := h
    exact Or.inl rfl
  | none =>
    simp only [hgate, Tx.bind_ok, onGates, onEvents, Tx.zoom_ok, Tx.pure_ok, Prod.mk.injEq] at h
    obtain ⟨_, _, ⟨db₂, hopen, rfl⟩, _, _, ⟨events, happend, rfl⟩, rfl, rfl⟩ := h
    obtain ⟨run, -, -, -, ⟨gateType, rfl⟩, -⟩ := (openNew_ok hopen).run
    obtain ⟨event, hinit, -, hstorable, -, hrows⟩ := appendEvent_rows happend
    obtain ⟨-, -, p, hp, hproject⟩ := init_ok hinit
    obtain rfl : r'.projectId = p := Json.str.inj hp
    rw [required_of_isIdentifier hannounced.project_valid] at hproject
    exact Or.inr ⟨_, event, rfl, rfl, rfl, (Option.some.inj hproject).symm, hstorable, hrows⟩

/-- The request of an opened gate is delivered exactly if its gate and its sponsors start with a
letter or a digit. -/
lemma deliver_opened (h : openRecorded sensitive format r now draws s = .ok (g, s'))
    {row : OutboxRow} (hrow : row ∈ enqueued "teams.approval" s.events s'.events)
    {bindings : TeamsBindings} {b : TeamsBinding}
    (hbinding : binding bindings g.projectId g.requestedBy = .ok b) (event : StoredEvent) :
    (∃ sent, deliverApproval sensitive format bindings (row.message event) = .ok sent) ↔
      startsAlphanum (strip r.gateId) = true ∧
        ∀ id ∈ r.sponsorIds, startsAlphanum (strip id) = true := by
  obtain ⟨r', hannounced, hsame | hnew⟩ := openRecorded_rows h
  · rw [hsame, enqueued_same] at hrow
    exact absurd hrow List.not_mem_nil
  obtain ⟨l, draft, -, hrole, hgproject, hproject, hstorable, hrows⟩ := hnew
  obtain ⟨hmem, htopic⟩ := mem_enqueued hrows hrow
  -- the other message of the gate has another topic
  simp only [AppendCall.rows, gateCall, List.map_cons, List.map_nil, List.mem_cons,
    List.not_mem_nil, or_false] at hmem
  rcases hmem with hother | hmessage
  · have hlifecycle : row.topic = "lifecycle.events" := by rw [hother]; rfl
    exact absurd (hlifecycle.symm.trans htopic) (by decide)
  have hpayload : row.payload = approvalPayload r'.projectId r'.workItemId r'.gateId
      r'.requestedBy r'.sponsorIds (teamsSummary r'.evidence r'.gateId)
      (format.text l.expiresAt) := by rw [hmessage]; rfl
  have hrowProject : row.projectId = r'.projectId := by rw [hmessage]; exact hproject
  rw [hgproject, hrole] at hbinding
  have hnul : hasNoNul (teamsSummary r'.evidence r'.gateId) = true := by
    simp only [approvalMessage, approvalPayload, Json.storable, Json.storableFields,
      Bool.and_eq_true] at hstorable
    exact hstorable.2.2.2.2.2.1.2
  rw [deliverApproval_ok htopic hrowProject hpayload hannounced.sponsors_nonempty
    hannounced.sponsors_nodup (hannounced.summary.isSummary hnul) hbinding,
    isExternalId_iff hannounced.gate_valid, hannounced.gate]
  refine and_congr_right fun _ => ?_
  have hvalid := hannounced.sponsors_valid
  rw [hannounced.sponsors] at hvalid ⊢
  rw [List.forall_mem_map] at hvalid ⊢
  exact forall₂_congr fun id hid => isExternalId_iff (hvalid id hid)

end Opened

/-! ### A published checkpoint -/

section Published

variable {sensitive : String → Bool} {d : ProgressDraft sensitive} {c : ProgressCheckpoint}
  {r : PublishRequest} {draws : EventDraws} {s s' : ProgressDb} {e : StoredEvent}

/-- A checkpoint that is recorded is the one that its draft asks for. -/
lemma record_ok (h : record sensitive d s = .ok (c, s')) : c = d.checkpoint := by
  rw [record, Tx.query_bind_ok, Tx.require_bind_ok, Tx.query_bind_ok] at h
  obtain ⟨-, h⟩ := h
  cases hc : s.checkpoints.lookup d.checkpoint.key with
  | some row =>
    simp only [hc, Tx.require_bind_ok, Tx.pure_ok, Prod.mk.injEq] at h
    obtain ⟨hsame, rfl, -⟩ := h
    exact hsame
  | none =>
    simp only [hc, Tx.require_bind_ok, Tx.attempt_bind_ok, Tx.pure_ok, Prod.mk.injEq] at h
    obtain ⟨-, -, _, -, rfl, -⟩ := h
    rfl

lemma mem_projectSponsors {p id : String} {db : Db} :
    id ∈ projectSponsors p db ↔ ∃ sponsor ∈ db.sponsors, sponsor.projectId = p ∧
      sponsor.sponsorId = id := by
  simp only [projectSponsors, List.mem_insertionSort, List.mem_map, Table.mem_select, and_assoc]

lemma nodup_projectSponsors (p : String) (db : Db) : (projectSponsors p db).Nodup := by
  rw [projectSponsors, (List.perm_insertionSort _ _).nodup_iff]
  have hrows : (db.sponsors.select (·.projectId = p)).Nodup := db.sponsors.nodup_rows.filter _
  refine hrows.map_on fun x hx y hy hsame => ?_
  rw [Table.mem_select] at hx hy
  refine Table.eq_of_key db.sponsors hx.1 hy.1 ?_
  exact Prod.ext (hx.2.trans hy.2.symm) hsame

lemma hasNoNul_of_isProgressStatus {t : String} (h : isProgressStatus t = true) :
    hasNoNul t = true ∧ strip t = t ∧ t ≠ "" ∧ t.toList.length ≤ 64 := by
  unfold isProgressStatus at h
  split at h
  · simp at h
  · next c cs hs =>
    simp only [Bool.and_eq_true, decide_eq_true_eq, List.all_eq_true] at h
    obtain ⟨⟨hc, hlength⟩, hcs⟩ := h
    have hid : ∀ d ∈ t.toList, isIdentifierChar d = true := by
      intro d hd
      rw [hs] at hd
      rcases List.mem_cons.1 hd with rfl | hd
      · simp [isIdentifierChar, isAlphanum_of_isLower hc]
      · have h := hcs d hd
        simp only [Bool.or_eq_true, beq_iff_eq] at h
        rcases h with ((hlow | hdig) | rfl) | rfl
        · simp [isIdentifierChar, isAlphanum_of_isLower hlow]
        · simp [isIdentifierChar, isAlphanum_of_isDigit hdig]
        · decide
        · decide
    refine ⟨?_, strip_eq_self fun d hd => isSpace_eq_false_of_isIdentifierChar (hid d hd), ?_, ?_⟩
    · simp only [hasNoNul, List.all_eq_true, decide_eq_true_eq]
      rintro d hd rfl
      exact absurd (hid _ hd) (by decide)
    · rintro rfl
      simp at hs
    · rw [hs, List.length_cons]
      omega

lemma publishIdentifier_bind_ok {α : Type} {value field : String}
    {f : String → Tx ProgressDb SponsorError α} {p : α × ProgressDb} :
    (publishIdentifier value field >>= f) s = .ok p ↔ isExternalId value = true ∧
      f value s = .ok p := by
  have hcheck : ∀ t s', publishIdentifier value field s = .ok (t, s') ↔
      isExternalId value = true ∧ value = t ∧ s = s' := by
    intro t s'
    simp only [publishIdentifier, externalId, Tx.mapError_ok, Tx.ofExcept_ok, Check.bind_ok,
      Check.that_ok, Check.pure_ok]
    constructor
    · rintro ⟨⟨_, hvalid, rfl⟩, rfl⟩
      exact ⟨hvalid, rfl, rfl⟩
    · rintro ⟨hvalid, rfl, rfl⟩
      exact ⟨⟨(), hvalid, rfl⟩, rfl⟩
  rw [Tx.bind_ok]
  constructor
  · rintro ⟨t, s', ht, hf⟩
    obtain ⟨hvalid, rfl, rfl⟩ := (hcheck t s').1 ht
    exact ⟨hvalid, hf⟩
  · rintro ⟨hvalid, hf⟩
    exact ⟨value, s, (hcheck value s).2 ⟨hvalid, rfl, rfl⟩, hf⟩

lemma required_of_isExternalId {t : String} (h : isExternalId t = true) :
    required t = some t := by
  unfold isExternalId at h
  split at h
  · simp at h
  · next c cs hs =>
    simp only [Bool.and_eq_true, decide_eq_true_eq, List.all_eq_true] at h
    obtain ⟨⟨hc, -⟩, hcs⟩ := h
    have hspace : ∀ d, isExternalChar d = true → isSpace d = false := by
      intro d hd
      simp only [isExternalChar, Bool.or_eq_true, beq_iff_eq] at hd
      rcases hd with hd | rfl
      · exact isSpace_eq_false_of_isIdentifierChar hd
      · decide
    have hstrip : strip t = t := by
      refine strip_eq_self fun d hd => hspace d ?_
      rw [hs] at hd
      rcases List.mem_cons.1 hd with rfl | hd
      · simp [isExternalChar, isIdentifierChar, hc]
      · exact hcs d hd
    have hne : t ≠ "" := by
      rintro rfl
      simp at hs
    rw [required, hstrip, if_neg hne]

/-- A call of `publish` enqueues nothing, or the notification of its checkpoint. -/
lemma publish_rows (h : publish r draws s = .ok (e, s')) :
    s'.events = s.events ∨
      ∃ c roleId event, checkpointRole r.projectId r.checkpointId s = some (c, roleId) ∧
        projectSponsors r.projectId s.db ≠ [] ∧ event.projectId = r.projectId ∧
        event.payload = progressPayload r.projectId c.workItemId r.checkpointId roleId
          (projectSponsors r.projectId s.db) c.status c.nextAction c.safeSummary ∧
        event.payload.storable = true ∧
        s'.events.outbox.rows = s.events.outbox.rows ++ (publishCall event draws).rows := by
  simp only [publish, publishIdentifier_bind_ok, Tx.query_bind_ok] at h
  obtain ⟨hproject, -, -, h⟩ := h
  cases hevent : publishedEvent r.projectId r.checkpointId s.events with
  | some e' =>
    simp only [hevent, Tx.pure_ok, Prod.mk.injEq] at h
    rw [h.2]
    exact Or.inl rfl
  | none =>
    simp only [hevent, Tx.demand_bind_ok, Tx.query_bind_ok, Tx.require_bind_ok] at h
    obtain ⟨⟨c, roleId⟩, hrole, hsponsors, h⟩ := h
    rw [Tx.bind_ok] at h
    obtain ⟨event, s₁, hinit, h⟩ := h
    rw [Tx.mapError_ok, Tx.ofExcept_ok] at hinit
    obtain ⟨hinit, rfl⟩ := hinit
    rw [Tx.require_bind_ok, onJournal, Tx.mapError_ok, Tx.zoom_ok] at h
    obtain ⟨hstorable, events, happend, rfl⟩ := h
    obtain ⟨hpayload, -, p, hp, hsame⟩ := init_ok hinit
    obtain rfl : r.projectId = p := Json.str.inj hp
    rw [required_of_isExternalId hproject] at hsame
    obtain ⟨-, -, houtbox⟩ := append_rows happend
    refine Or.inr ⟨c, roleId, event, hrole, hsponsors, (Option.some.inj hsame).symm, hpayload, ?_,
      houtbox⟩
    rw [hpayload]
    exact hstorable

/-- The notification of a checkpoint is delivered exactly if its next action is short and the
sponsors of its project are identifiers of Teams. -/
lemma deliver_published (hrecord : record sensitive d s = .ok (c, s'))
    {t t' : ProgressDb} (hc : c ∈ t.checkpoints) (hkey : c.key = (r.projectId, r.checkpointId))
    (h : publish r draws t = .ok (e, t')) {row : OutboxRow}
    (hrow : row ∈ enqueued "teams.progress" t.events t'.events) {i : RoleInstance}
    (hi : i ∈ t.db.instances) (hinstance : i.key = (c.projectId, c.roleInstanceId))
    {bindings : TeamsBindings} {b : TeamsBinding}
    (hbinding : binding bindings c.projectId i.roleId = .ok b) (event : StoredEvent) :
    (∃ sent, deliverProgress sensitive bindings (row.message event) = .ok sent) ↔
      d.checkpoint.nextAction.toList.length ≤ 1000 ∧
        ∀ sponsor ∈ t.db.sponsors, sponsor.projectId = c.projectId →
          isExternalId sponsor.sponsorId = true := by
  obtain ⟨hproject, hcheckpoint⟩ : c.projectId = r.projectId ∧ c.checkpointId = r.checkpointId :=
    Prod.mk.inj hkey
  obtain hsame | ⟨c', roleId, draft, hrole, hsponsors, hdraft, hpayload, hstorable, hrows⟩ :=
    publish_rows h
  · rw [hsame, enqueued_same] at hrow
    exact absurd hrow List.not_mem_nil
  -- the checkpoint and the instance of the notification
  simp only [checkpointRole, Option.bind_eq_bind, Option.bind_eq_some_iff, Option.pure_def,
    Option.some.injEq, Prod.mk.injEq] at hrole
  obtain ⟨c'', hlookup, i', hinstance', rfl, rfl⟩ := hrole
  obtain ⟨hmem, hkey'⟩ := Table.lookup_eq_some.1 hlookup
  obtain rfl : c'' = c := Table.eq_of_key t.checkpoints hmem hc (hkey'.trans hkey.symm)
  obtain ⟨himem, hikey⟩ := Table.lookup_eq_some.1 hinstance'
  obtain rfl : i' = i := Table.eq_of_key t.db.instances himem hi
    (by rw [hikey, hinstance, hproject])
  obtain ⟨hmem, htopic⟩ := mem_enqueued hrows hrow
  obtain rfl :
      row = (publishCall draft draws).row (progressMessage draft.payload, draws.outboxId 0) :=
    List.mem_singleton.1 hmem
  obtain rfl := record_ok hrecord
  rw [hpayload] at hstorable
  simp only [progressPayload, Json.storable, Json.storableFields, Bool.and_eq_true] at hstorable
  obtain ⟨-, ⟨-, hnextNul⟩, -, -, ⟨-, hsummaryNul⟩, -⟩ := hstorable
  have hstatus := hasNoNul_of_isProgressStatus d.status_valid
  rw [hproject] at hbinding
  rw [deliverProgress_ok htopic hdraft hpayload hsponsors (nodup_projectSponsors _ _)
    (d.summary_text.isSummary hsummaryNul) ⟨hstatus.2.1, hstatus.2.2.1, hstatus.2.2.2, hstatus.1⟩
    ⟨d.next_text.strip, d.next_text.ne, hnextNul, d.next_text.safe⟩ hbinding]
  refine and_congr_right fun _ => ?_
  rw [hproject]
  constructor
  · intro hall sponsor hsponsor hp
    exact hall _ (mem_projectSponsors.2 ⟨sponsor, hsponsor, hp, rfl⟩)
  · intro hall id hid
    obtain ⟨sponsor, hsponsor, hp, rfl⟩ := mem_projectSponsors.1 hid
    exact hall sponsor hsponsor hp

end Published

/-- What an opened gate and a published checkpoint enqueue is delivered, with a binding of the role,
exactly if the gate and the sponsors have identifiers that Teams accepts and the next action is
short. -/
theorem notification_delivered_iff (sensitive : String → Bool) (format : TimestampFormat)
    (bindings : TeamsBindings) :
    (∀ r now draws s g s', openRecorded sensitive format r now draws s = .ok (g, s') →
      ∀ row ∈ enqueued "teams.approval" s.events s'.events,
        ∀ b, binding bindings g.projectId g.requestedBy = .ok b → ∀ event,
          ((∃ sent, deliverApproval sensitive format bindings (row.message event) = .ok sent) ↔
            startsAlphanum (strip r.gateId) = true ∧
              ∀ id ∈ r.sponsorIds, startsAlphanum (strip id) = true)) ∧
    (∀ d s c s', record sensitive d s = .ok (c, s') →
      ∀ r draws t e t', c ∈ t.checkpoints → c.key = (r.projectId, r.checkpointId) →
        publish r draws t = .ok (e, t') →
        ∀ row ∈ enqueued "teams.progress" t.events t'.events,
          ∀ i ∈ t.db.instances, i.key = (c.projectId, c.roleInstanceId) →
            ∀ b, binding bindings c.projectId i.roleId = .ok b → ∀ event,
              ((∃ sent, deliverProgress sensitive bindings (row.message event) = .ok sent) ↔
                d.checkpoint.nextAction.toList.length ≤ 1000 ∧
                  ∀ sponsor ∈ t.db.sponsors, sponsor.projectId = c.projectId →
                    isExternalId sponsor.sponsorId = true)) := by
  constructor
  · intro r now draws s g s' hopen row hrow b hbinding event
    exact deliver_opened hopen hrow hbinding event
  · intro d s c s' hrecord r draws t e t' hc hkey hpublish row hrow i hi hinstance b hbinding event
    exact deliver_published hrecord hc hkey hpublish hrow hi hinstance hbinding event

/-! ### A gate and a checkpoint of one project -/

/-- The text of one instant. -/
def dayFormat : TimestampFormat where
  text _ := "1970-01-03 00:00:00+00"
  isoformat s := if s = "1970-01-03 00:00:00+00" then some "1970-01-03T00:00:00+00:00" else none
  reads _ := ⟨"1970-01-03T00:00:00+00:00", by decide, by decide⟩

def devBindings : TeamsBindings := fun projectId roleId =>
  if projectId = "p" ∧ roleId = "dev" then some ⟨"tenant", "application", "Dev"⟩ else none

/-- The work item that has built its artifact. -/
def builtItem : WorkItem where
  projectId := "p"
  workItemId := "w"
  assignedRoleId := some "dev"
  status := .active
  version := 1
  payload := .obj []
  terminalReason := none
  terminalEvidence := .obj []

def builtDb : ProgressDb where
  db := {
    gatedDb.db with
    gates := ∅
    approvals := ∅
    sponsors := ⟨[⟨"p", "alice"⟩], by simp⟩
    instances := ⟨[⟨"p", "i", "dev", .running⟩], by simp⟩
    workItems := ⟨[builtItem], by simp⟩ }
  events := { workItems := ⟨[builtItem], by simp⟩ }

/-- The request to open the gate of the build state. -/
def openBuild (gateId : String) : SponsorGateRequest where
  projectId := "p"
  workItemId := "w"
  gateId := gateId
  obligationId := "approve"
  requestedBy := "dev"
  sponsorIds := ["alice"]
  correlationId := "c"
  expectedVersion := 1

lemma opens_builtDb (gateId : String)
    (h : ((openRecorded (fun _ => false) dayFormat (openBuild gateId) 0 ⟨1, id, 1⟩
      builtDb.toSponsorDb).toOption.any fun out => out.1.projectId = "p" ∧
        out.1.requestedBy = "dev" ∧
          enqueued "teams.approval" builtDb.events out.2.events ≠ []) = true) :
    ∃ g s', openRecorded (fun _ => false) dayFormat (openBuild gateId) 0 ⟨1, id, 1⟩
        builtDb.toSponsorDb = .ok (g, s') ∧
      ∃ row ∈ enqueued "teams.approval" builtDb.events s'.events,
        binding devBindings g.projectId g.requestedBy = .ok ⟨"tenant", "application", "Dev"⟩ := by
  obtain ⟨⟨g, s'⟩, hout, hany⟩ := (Option.any_eq_true _ _).1 h
  obtain ⟨hproject, hrole, hne⟩ := of_decide_eq_true hany
  obtain ⟨row, hrow⟩ := List.exists_mem_of_ne_nil _ hne
  refine ⟨g, s', Check.toOption_eq_some.1 hout, row, hrow, ?_⟩
  rw [hproject, hrole]
  decide

/-- The checkpoint of a build, with the next action of the work. -/
def buildDraft : ProgressDraft fun _ => false where
  checkpoint := {
    projectId := "p", checkpointId := "k", workItemId := "w", roleInstanceId := "i"
    sequence := 1, status := "working", goal := "build", step := "compile"
    completedAction := none, activity := none, blocker := none
    nextAction := "test", safeSummary := "built" }
  status_valid := by decide
  next_text := ⟨by decide, by decide, by decide, rfl⟩
  summary_text := ⟨by decide, by decide, by decide, rfl⟩

/-- The tables after the checkpoint is recorded. -/
def recordedDb : ProgressDb where
  toSponsorDb := builtDb.toSponsorDb
  checkpoints := ⟨[buildDraft.checkpoint], by simp⟩

lemma publishes_recordedDb :
    ∃ e t', publish ⟨"p", "k", "o"⟩ ⟨1, id, 1⟩ recordedDb = .ok (e, t') ∧
      ∃ row, row ∈ enqueued "teams.progress" recordedDb.events t'.events := by
  have h : ((publish ⟨"p", "k", "o"⟩ ⟨1, id, 1⟩ recordedDb).toOption.any fun out =>
      enqueued "teams.progress" recordedDb.events out.2.events ≠ []) = true := by decide
  obtain ⟨⟨e, t'⟩, hout, hany⟩ := (Option.any_eq_true _ _).1 h
  exact ⟨e, t', Check.toOption_eq_some.1 hout, List.exists_mem_of_ne_nil _ (of_decide_eq_true hany)⟩

/-- The gate `g` and the checkpoint of the build are announced to the sponsor. -/
theorem notifications_of_build :
    (∃ g s', openRecorded (fun _ => false) dayFormat (openBuild "g") 0 ⟨1, id, 1⟩
        builtDb.toSponsorDb = .ok (g, s') ∧
      ∃ row ∈ enqueued "teams.approval" builtDb.events s'.events, ∀ event, ∃ sent,
        deliverApproval (fun _ => false) dayFormat devBindings (row.message event) = .ok sent) ∧
    ∃ c s', record (fun _ => false) buildDraft builtDb = .ok (c, s') ∧
      ∃ e t', publish ⟨"p", "k", "o"⟩ ⟨1, id, 1⟩ s' = .ok (e, t') ∧
        ∃ row ∈ enqueued "teams.progress" s'.events t'.events, ∀ event, ∃ sent,
          deliverProgress (fun _ => false) devBindings (row.message event) = .ok sent := by
  obtain ⟨hgate, hcheckpoint⟩ :=
    notification_delivered_iff (fun _ => false) dayFormat devBindings
  constructor
  · obtain ⟨g, s', hopen, row, hrow, hbinding⟩ := opens_builtDb "g" (by decide +kernel)
    refine ⟨g, s', hopen, row, hrow, fun event => ?_⟩
    exact (hgate _ _ _ _ _ _ hopen row hrow _ hbinding event).2 (by decide)
  · have hrecord : record (fun _ => false) buildDraft builtDb =
        .ok (buildDraft.checkpoint, recordedDb) := rfl
    obtain ⟨e, t', hpublish, row, hrow⟩ := publishes_recordedDb
    refine ⟨buildDraft.checkpoint, recordedDb, hrecord, e, t', hpublish, row, hrow, fun event => ?_⟩
    have hmem : buildDraft.checkpoint ∈ recordedDb.checkpoints := List.mem_singleton_self _
    have hinstance : (⟨"p", "i", "dev", .running⟩ : RoleInstance) ∈ recordedDb.db.instances :=
      List.mem_singleton_self _
    have hbinding : binding devBindings "p" "dev" = .ok ⟨"tenant", "application", "Dev"⟩ := by
      decide
    refine (hcheckpoint buildDraft builtDb _ _ hrecord _ _ _ _ _ hmem rfl hpublish row hrow _
      hinstance rfl _ hbinding event).2 ⟨by decide, ?_⟩
    intro sponsor hsponsor _
    obtain rfl : sponsor = ⟨"p", "alice"⟩ := List.mem_singleton.1 hsponsor
    decide

/-- The request of a gate whose identifier starts with another character is rejected. -/
theorem undeliverable_gate :
    ¬ ∀ sensitive format bindings r now draws s g s',
      openRecorded sensitive format r now draws s = .ok (g, s') →
        ∀ row ∈ enqueued "teams.approval" s.events s'.events,
          ∀ b, binding bindings g.projectId g.requestedBy = .ok b → ∀ event, ∃ sent,
            deliverApproval sensitive format bindings (row.message event) = .ok sent := by
  intro hall
  obtain ⟨g, s', hopen, row, hrow, hbinding⟩ := opens_builtDb "_g" (by decide +kernel)
  have hsent := hall _ _ devBindings _ _ _ _ _ _ hopen row hrow _ hbinding
    ⟨1, "p", "w", "dev", "c", none, "sponsor-gate", "_g", "sponsor_gate.opened", .null, 0⟩
  have hstarts := ((deliver_opened hopen hrow hbinding _).1 hsent).1
  exact absurd hstarts (by decide)

end AgenticMesh.Teams
