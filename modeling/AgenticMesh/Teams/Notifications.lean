import AgenticMesh.Events.Outbox
import AgenticMesh.Teams.Connector

/-!
# Delivering Teams notifications

`TeamsNotificationAdapter` reads the payload of an outbox message and sends it to
each sponsor.  It checks the payload with rules of its own before anything is sent.
-/

namespace AgenticMesh.Teams

/-! ## Reading a payload -/

/-- `_identifier`. -/
def identifierOf (value : Option Json) (field : String) : Except String String :=
  match value with
  | some (.str s) => externalId s field
  | _ => .error (field ++ " is invalid")

/-- `_identifiers`. -/
def identifiersOf (value : Option Json) (field : String) : Except String (List String) := do
  let values ← Check.found (value.bind Json.asArray) (field ++ " is invalid")
  let items ← values.mapM fun item => identifierOf (some item) field
  Check.that (items ≠ [] ∧ items.Nodup) (field ++ " is invalid")
  return items

/-- `_short_text`. -/
def shortText (value : Option Json) (field : String) (maximum : ℕ) : Except String String := do
  let s ← Check.found (value.bind Json.asString) (field ++ " is invalid")
  Check.that (strip s ≠ "" ∧ s.toList.length ≤ maximum ∧ hasNoNul s = true)
    (field ++ " is invalid")
  return strip s

/-- `_same_project`. -/
def sameProject (m : OutboxMessage) : Except String String := do
  let projectId ← identifierOf (m.payload.get? "project_id") "project_id"
  Check.that (projectId = m.projectId) "Teams notification project authority is invalid"
  return projectId

/-- How the database writes an instant with its time zone, and how `datetime.fromisoformat` reads
and writes it again. -/
structure TimestampFormat where
  text : Time → String
  /-- `fromisoformat(value).isoformat()` of a value with an offset. -/
  isoformat : String → Option String
  reads : ∀ t, ∃ s, isoformat (text t) = some s ∧ s.toList.length ≤ 64

/-- `_approval_card` of a pending gate. -/
def approvalCard (projectId gateId summary expiresAt : String) : Json :=
  let fact (title value : String) : Json := .obj [("title", .str title), ("value", .str value)]
  let submit (title style decision : String) : Json := .obj [
    ("data", .obj [
      ("action", .str "sponsor_decision"), ("decision", .str decision), ("gate_id", .str gateId),
      ("project_id", .str projectId), ("schema_version", .int 1)]),
    ("style", .str style), ("title", .str title), ("type", .str "Action.Submit")]
  .obj [
    ("$schema", .str "http://adaptivecards.io/schemas/adaptive-card.json"),
    ("actions", .arr [
      submit "Approve" "positive" "approved", submit "Reject" "destructive" "rejected"]),
    ("body", .arr [
      .obj [("size", .str "Medium"), ("text", .str "Sponsor approval required"),
        ("type", .str "TextBlock"), ("weight", .str "Bolder")],
      .obj [("text", .str summary), ("type", .str "TextBlock"), ("wrap", .bool true)],
      .obj [("facts", .arr [
          fact "Project" projectId, fact "Gate" gateId, fact "Expires" expiresAt]),
        ("type", .str "FactSet")],
      .obj [("id", .str "rationale"), ("isMultiline", .bool true), ("isRequired", .bool true),
        ("label", .str "Rationale"), ("maxLength", .int 4000), ("type", .str "Input.Text")]]),
    ("type", .str "AdaptiveCard"), ("version", .str "1.5")]

section Deliver

variable (sensitive : String → Bool) (format : TimestampFormat) (bindings : TeamsBindings)

/-- `_summary`. -/
def summaryOf (value : Option Json) : Except String String := do
  let summary ← shortText value "summary" 1000
  Check.that (sensitive summary = false) "Teams notification summary contains restricted content"
  return summary

/-- `_timestamp`. -/
def timestampOf (value : Option Json) : Except String String := do
  let s ← Check.found (value.bind Json.asString) "Teams notification timestamp is invalid"
  Check.found (format.isoformat s) "Teams notification timestamp is invalid"

/-- `_deliver_approval`: the calls of the transport. -/
def deliverApproval (m : OutboxMessage) : Except String (List TeamsSend) := do
  Check.that (m.topic = "teams.approval") "Teams notification payload is invalid"
  let projectId ← sameProject m
  let roleId ← identifierOf (m.payload.get? "requested_role_id") "requested_role_id"
  let gateId ← identifierOf (m.payload.get? "gate_id") "gate_id"
  let sponsors ← identifiersOf (m.payload.get? "sponsor_ids") "sponsor_ids"
  let summary ← summaryOf sensitive (m.payload.get? "summary")
  let expiresAt ← timestampOf format (m.payload.get? "expires_at")
  sponsors.mapM fun sponsorId =>
    sendPersonalCard bindings projectId roleId sponsorId ("Approval requested: " ++ summary)
      (approvalCard projectId gateId summary expiresAt)
      (operationId [m.idempotencyKey, sponsorId])

/-- The text of a progress message. -/
def progressText (summary status nextAction : String) : String :=
  summary ++ "\n\nStatus: " ++ status ++ "\nNext action: " ++ nextAction

/-- `_deliver_progress`: the calls of the transport. -/
def deliverProgress (m : OutboxMessage) : Except String (List TeamsSend) := do
  Check.that (m.topic = "teams.progress") "Teams notification payload is invalid"
  let projectId ← sameProject m
  let roleId ← identifierOf (m.payload.get? "role_id") "role_id"
  let sponsors ← identifiersOf (m.payload.get? "sponsor_ids") "sponsor_ids"
  let summary ← summaryOf sensitive (m.payload.get? "safe_summary")
  let status ← shortText (m.payload.get? "status") "status" 64
  let nextAction ← shortText (m.payload.get? "next_action") "next_action" 1000
  Check.that (sensitive nextAction = false)
    "Teams progress next action contains restricted content"
  sponsors.mapM fun sponsorId =>
    sendPersonalMessage bindings projectId roleId sponsorId
      (progressText summary status nextAction) (operationId [m.idempotencyKey, sponsorId])

end Deliver

/-! ## What is accepted -/

section Accepted

lemma length_le_of_isExternalId {s : String} (h : isExternalId s = true) :
    s.toList.length ≤ 256 := by
  unfold isExternalId at h
  split at h
  · simp at h
  · next c cs hs =>
    simp only [Bool.and_eq_true, decide_eq_true_eq] at h
    rw [hs, List.length_cons]
    omega

/-- The card of a gate is small enough. -/
lemma card_approvalCard {projectId gateId summary expiresAt : String}
    (hproject : projectId.toList.length ≤ 256) (hgate : gateId.toList.length ≤ 256)
    (hsummary : summary.toList.length ≤ 1000) (hexpires : expiresAt.toList.length ≤ 64) :
    card (approvalCard projectId gateId summary expiresAt) =
      .ok (approvalCard projectId gateId summary expiresAt) := by
  have hsize := Json.length_dumps_le (approvalCard projectId gateId summary expiresAt)
  have hone : Json.asciiLength (Json.dumps (.int 1)) = 1 := by decide
  have hfour : Json.asciiLength (Json.dumps (.int 4000)) = 4 := by decide
  have hbound : (approvalCard projectId gateId summary expiresAt).sizeBound ≤ 100000 := by
    simp [approvalCard, Json.sizeBound, Json.sizeBoundFields, Json.sizeBoundItems, hone, hfour]
    omega
  simp only [card, Check.bind_ok, Check.that_ok, Check.pure_ok]
  exact ⟨(), ⟨rfl, rfl⟩, (), hsize.trans hbound, trivial⟩

/-- A text with a character that is no white space is not empty when it is stripped. -/
lemma strip_ne_empty_of_mem {s : String} {c : Char} (hmem : c ∈ s.toList)
    (hc : isSpace c = false) : strip s ≠ "" := by
  intro hs
  have hnil : (strip s).toList = [] := by rw [hs]; rfl
  rw [toList_strip, List.rdropWhile_eq_nil_iff] at hnil
  -- what is dropped at the front is white space, too
  have hspace : ∀ d ∈ s.toList, isSpace d = true := by
    intro d hd
    rw [← List.takeWhile_append_dropWhile (p := isSpace) (l := s.toList)] at hd
    rcases List.mem_append.1 hd with hd | hd
    · exact List.mem_takeWhile_imp hd
    · exact hnil d hd
  rw [hspace c hmem] at hc
  exact absurd hc (by decide)

lemma message_ok {s : String} {c : Char} (hmem : c ∈ s.toList) (hc : isSpace c = false)
    (hlength : s.toList.length ≤ 20000) (hnul : hasNoNul s = true) :
    message s = .ok (strip s) := by
  simp only [message, Check.bind_ok, Check.that_ok, Check.pure_ok]
  exact ⟨(), ⟨strip_ne_empty_of_mem hmem hc, hlength, hnul⟩, trivial⟩

lemma hasNoNul_append (s t : String) : hasNoNul (s ++ t) = (hasNoNul s && hasNoNul t) := by
  simp [hasNoNul]

lemma identifierOf_str {s field t : String} :
    identifierOf (some (.str s)) field = .ok t ↔ isExternalId s = true ∧ t = s := by
  simp only [identifierOf, externalId, Check.bind_ok, Check.that_ok, Check.pure_ok]
  constructor
  · rintro ⟨_, hs, rfl⟩
    exact ⟨hs, rfl⟩
  · rintro ⟨hs, rfl⟩
    exact ⟨(), hs, rfl⟩

lemma mapM_identifierOf {ss items : List String} {field : String} :
    (ss.map Json.str).mapM (fun item => identifierOf (some item) field) = .ok items ↔
      items = ss ∧ ∀ s ∈ ss, isExternalId s = true := by
  induction ss generalizing items with
  | nil =>
    rw [List.map_nil, List.mapM_nil, Check.pure_ok]
    constructor
    · rintro rfl
      exact ⟨rfl, fun s hs => absurd hs List.not_mem_nil⟩
    · rintro ⟨rfl, -⟩
      rfl
  | cons s ss ih =>
    simp only [List.map_cons, List.mapM_cons, Check.bind_ok, Check.pure_ok, identifierOf_str]
    constructor
    · rintro ⟨_, ⟨hs, rfl⟩, rest, hrest, rfl⟩
      obtain ⟨rfl, hall⟩ := ih.1 hrest
      exact ⟨rfl, List.forall_mem_cons.2 ⟨hs, hall⟩⟩
    · rintro ⟨rfl, hall⟩
      obtain ⟨hs, hall⟩ := List.forall_mem_cons.1 hall
      exact ⟨s, ⟨hs, rfl⟩, ss, ih.2 ⟨rfl, hall⟩, rfl⟩

lemma identifiersOf_strs {ss items : List String} {field : String} (hne : ss ≠ [])
    (hnodup : ss.Nodup) :
    identifiersOf (some (.arr (ss.map Json.str))) field = .ok items ↔
      items = ss ∧ ∀ s ∈ ss, isExternalId s = true := by
  simp only [identifiersOf, Check.bind_ok, Check.found_ok, Check.that_ok, Check.pure_ok]
  constructor
  · rintro ⟨values, hvalues, items', hitems, _, -, rfl⟩
    obtain rfl : ss.map Json.str = values := Option.some.inj hvalues
    exact mapM_identifierOf.1 hitems
  · rintro ⟨rfl, hall⟩
    exact ⟨_, rfl, items, mapM_identifierOf.2 ⟨rfl, hall⟩, (), ⟨hne, hnodup⟩, rfl⟩

/-- A short text that is already stripped is read as it is. -/
lemma shortText_str {s field t : String} {maximum : ℕ} (hstrip : strip s = s) (hne : s ≠ "")
    (hnul : hasNoNul s = true) :
    shortText (some (.str s)) field maximum = .ok t ↔ s.toList.length ≤ maximum ∧ t = s := by
  simp only [shortText, Check.bind_ok, Check.found_ok, Check.that_ok, Check.pure_ok]
  constructor
  · rintro ⟨s', hs', _, ⟨-, hlength, -⟩, rfl⟩
    obtain rfl : s = s' := Option.some.inj hs'
    exact ⟨hlength, hstrip⟩
  · rintro ⟨hlength, rfl⟩
    exact ⟨t, rfl, (), ⟨by rwa [hstrip], hlength, hnul⟩, hstrip⟩

/-- A stripped text of limited length that may be shown. -/
structure IsSummary (sensitive : String → Bool) (s : String) : Prop where
  strip : strip s = s
  ne : s ≠ ""
  length : s.toList.length ≤ 1000
  nul : hasNoNul s = true
  safe : sensitive s = false

lemma summaryOf_str {sensitive : String → Bool} {s : String} (h : IsSummary sensitive s) :
    summaryOf sensitive (some (.str s)) = .ok s := by
  simp only [summaryOf, Check.bind_ok, Check.that_ok, Check.pure_ok]
  exact ⟨s, (shortText_str h.strip h.ne h.nul).2 ⟨h.length, rfl⟩, (), h.safe, rfl⟩

end Accepted

/-! ## The payloads that are enqueued -/

/-- The payload of an approval request. -/
def approvalPayload (projectId workItemId gateId roleId : String) (sponsors : List String)
    (summary expiresAt : String) : Json := .obj [
  ("expires_at", .str expiresAt), ("gate_id", .str gateId), ("project_id", .str projectId),
  ("requested_role_id", .str roleId), ("sponsor_ids", .arr (sponsors.map Json.str)),
  ("summary", .str summary), ("work_item_id", .str workItemId)]

/-- The payload of a progress message. -/
def progressPayload (projectId workItemId checkpointId roleId : String) (sponsors : List String)
    (status nextAction safeSummary : String) : Json := .obj [
  ("checkpoint_id", .str checkpointId), ("next_action", .str nextAction),
  ("project_id", .str projectId), ("role_id", .str roleId), ("safe_summary", .str safeSummary),
  ("sponsor_ids", .arr (sponsors.map Json.str)), ("status", .str status),
  ("work_item_id", .str workItemId)]

section Payloads

variable {sensitive : String → Bool} {format : TimestampFormat} {bindings : TeamsBindings}
  {m : OutboxMessage} {projectId roleId : String} {sponsors : List String} {b : TeamsBinding}

/-- The calls for some sponsors succeed together. -/
lemma mapM_sendPersonal_ok (key : String) (content : TeamsContent)
    (hbinding : binding bindings projectId roleId = .ok b)
    (hsponsors : ∀ s ∈ sponsors, isExternalId s = true) :
    ∃ sent, sponsors.mapM (fun s => sendPersonal bindings projectId roleId s (.ok content)
      (operationId [key, s])) = .ok sent :=
  Check.exists_mapM fun s hs => (sendPersonal_ok hbinding).2 (hsponsors s hs)

/-- An approval request is delivered exactly if its gate and its sponsors are identifiers of
Teams. -/
lemma deliverApproval_ok {workItemId gateId summary : String} {expiresAt : Time}
    (htopic : m.topic = "teams.approval") (hproject : m.projectId = projectId)
    (hpayload : m.payload = approvalPayload projectId workItemId gateId roleId sponsors summary
      (format.text expiresAt))
    (hne : sponsors ≠ []) (hnodup : sponsors.Nodup) (hsummary : IsSummary sensitive summary)
    (hbinding : binding bindings projectId roleId = .ok b) :
    (∃ sent, deliverApproval sensitive format bindings m = .ok sent) ↔
      isExternalId gateId = true ∧ ∀ s ∈ sponsors, isExternalId s = true := by
  obtain ⟨hprojectKey, hroleKey, -⟩ := binding_ok.1 hbinding
  obtain ⟨expires, hexpires, hlength⟩ := format.reads expiresAt
  have hsame : sameProject m = .ok projectId := by
    simp only [sameProject, hpayload, Check.bind_ok, Check.that_ok, Check.pure_ok]
    exact ⟨projectId, identifierOf_str.2 ⟨isExternalId_of_isTeamsKey hprojectKey, rfl⟩, (),
      hproject.symm, rfl⟩
  have hrole : identifierOf (m.payload.get? "requested_role_id") "requested_role_id" =
      .ok roleId := by
    rw [hpayload]
    exact identifierOf_str.2 ⟨isExternalId_of_isTeamsKey hroleKey, rfl⟩
  have hread : summaryOf sensitive (m.payload.get? "summary") = .ok summary := by
    rw [hpayload]
    exact summaryOf_str hsummary
  have htime : timestampOf format (m.payload.get? "expires_at") = .ok expires := by
    rw [hpayload]
    simp only [timestampOf, Check.bind_ok, Check.found_ok]
    exact ⟨format.text expiresAt, rfl, hexpires⟩
  simp only [deliverApproval, Check.bind_ok, Check.that_ok]
  constructor
  · rintro ⟨sent, _, -, _, -, _, -, gateId', hgate, sponsors', hsponsors, -⟩
    rw [hpayload] at hgate hsponsors
    exact ⟨(identifierOf_str.1 hgate).1, ((identifiersOf_strs hne hnodup).1 hsponsors).2⟩
  · rintro ⟨hgate, hall⟩
    have hA : 'A' ∈ ("Approval requested: " ++ summary).toList := by simp
    have hmessage : message ("Approval requested: " ++ summary) =
        .ok (strip ("Approval requested: " ++ summary)) := by
      refine message_ok hA (by decide) ?_ ?_
      · have := hsummary.length
        rw [String.toList_append, List.length_append]
        have hprefix : "Approval requested: ".toList.length = 20 := by decide
        omega
      · rw [hasNoNul_append, hsummary.nul]
        decide
    have hcard := card_approvalCard (length_le_of_isExternalId
      (isExternalId_of_isTeamsKey hprojectKey)) (length_le_of_isExternalId hgate)
      hsummary.length hlength
    obtain ⟨sent, hsent⟩ := mapM_sendPersonal_ok m.idempotencyKey
      (.card (strip ("Approval requested: " ++ summary))
        (approvalCard projectId gateId summary expires)) hbinding hall
    refine ⟨sent, (), htopic, projectId, hsame, roleId, hrole, gateId, ?_, sponsors, ?_, summary,
      hread, expires, htime, ?_⟩
    · rw [hpayload]
      exact identifierOf_str.2 ⟨hgate, rfl⟩
    · rw [hpayload]
      exact (identifiersOf_strs hne hnodup).2 ⟨rfl, hall⟩
    · simp only [sendPersonalCard_eq hmessage hcard]
      exact hsent

/-- A progress message is delivered exactly if its next action is short and its sponsors are
identifiers of Teams. -/
lemma deliverProgress_ok {workItemId checkpointId status nextAction safeSummary : String}
    (htopic : m.topic = "teams.progress") (hproject : m.projectId = projectId)
    (hpayload : m.payload = progressPayload projectId workItemId checkpointId roleId sponsors status
      nextAction safeSummary)
    (hne : sponsors ≠ []) (hnodup : sponsors.Nodup) (hsummary : IsSummary sensitive safeSummary)
    (hstatus : strip status = status ∧ status ≠ "" ∧ status.toList.length ≤ 64 ∧
      hasNoNul status = true)
    (hnext : strip nextAction = nextAction ∧ nextAction ≠ "" ∧ hasNoNul nextAction = true ∧
      sensitive nextAction = false)
    (hbinding : binding bindings projectId roleId = .ok b) :
    (∃ sent, deliverProgress sensitive bindings m = .ok sent) ↔
      nextAction.toList.length ≤ 1000 ∧ ∀ s ∈ sponsors, isExternalId s = true := by
  obtain ⟨hprojectKey, hroleKey, -⟩ := binding_ok.1 hbinding
  obtain ⟨hstatusStrip, hstatusNe, hstatusLength, hstatusNul⟩ := hstatus
  obtain ⟨hnextStrip, hnextNe, hnextNul, hnextSafe⟩ := hnext
  have hsame : sameProject m = .ok projectId := by
    simp only [sameProject, hpayload, Check.bind_ok, Check.that_ok, Check.pure_ok]
    exact ⟨projectId, identifierOf_str.2 ⟨isExternalId_of_isTeamsKey hprojectKey, rfl⟩, (),
      hproject.symm, rfl⟩
  have hrole : identifierOf (m.payload.get? "role_id") "role_id" = .ok roleId := by
    rw [hpayload]
    exact identifierOf_str.2 ⟨isExternalId_of_isTeamsKey hroleKey, rfl⟩
  have hread : summaryOf sensitive (m.payload.get? "safe_summary") = .ok safeSummary := by
    rw [hpayload]
    exact summaryOf_str hsummary
  have hstatusRead : shortText (m.payload.get? "status") "status" 64 = .ok status := by
    rw [hpayload]
    exact (shortText_str hstatusStrip hstatusNe hstatusNul).2 ⟨hstatusLength, rfl⟩
  simp only [deliverProgress, Check.bind_ok, Check.that_ok]
  constructor
  · rintro ⟨sent, _, -, _, -, _, -, sponsors', hsponsors, _, -, _, -, next, hread', -⟩
    rw [hpayload] at hsponsors hread'
    exact ⟨((shortText_str hnextStrip hnextNe hnextNul).1 hread').1,
      ((identifiersOf_strs hne hnodup).1 hsponsors).2⟩
  · rintro ⟨hlength, hall⟩
    have hS : 'S' ∈ (progressText safeSummary status nextAction).toList := by
      simp [progressText]
    have hmessage : message (progressText safeSummary status nextAction) =
        .ok (strip (progressText safeSummary status nextAction)) := by
      refine message_ok hS (by decide) ?_ ?_
      · have := hsummary.length
        have hlabel : "\n\nStatus: ".toList.length = 10 := by decide
        have hlabel' : "\nNext action: ".toList.length = 14 := by decide
        simp only [progressText, String.toList_append, List.length_append]
        omega
      · simp only [progressText, hasNoNul_append, hsummary.nul, hstatusNul, hnextNul]
        decide
    obtain ⟨sent, hsent⟩ := mapM_sendPersonal_ok m.idempotencyKey
      (.text (strip (progressText safeSummary status nextAction))) hbinding hall
    refine ⟨sent, (), htopic, projectId, hsame, roleId, hrole, sponsors, ?_, safeSummary, hread,
      status, hstatusRead, nextAction, ?_, (), hnextSafe, ?_⟩
    · rw [hpayload]
      exact (identifiersOf_strs hne hnodup).2 ⟨rfl, hall⟩
    · rw [hpayload]
      exact (shortText_str hnextStrip hnextNe hnextNul).2 ⟨hlength, rfl⟩
    · simp only [sendPersonalMessage_eq hmessage]
      exact hsent

end Payloads

end AgenticMesh.Teams
