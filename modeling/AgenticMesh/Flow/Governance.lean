import AgenticMesh.Flow.Engine

/-!
# Governance evidence

`GovernanceStore`: the records that an obligation of the current state of a run
needs before the run may leave the state.  The artifact is verified against the
document store, consultations are answered or excepted, and gates are decided
against the version of the artifact that was verified.  The document store is
not part of the database; an operation is told what the store answered.
-/

namespace AgenticMesh

/-- The exceptions of the governance store. -/
inductive GovernanceError where
  | value (message : String)
  | notFound (message : String)
  | conflict (message : String)
  /-- `GovernanceError(message)`. -/
  | store (message : String)
  /-- An exception of the document store. -/
  | document
deriving DecidableEq

/-- What the document store knows about a path. -/
structure DocumentMetadata where
  itemId : String
  name : String
  path : String
  size : ℕ
  etag : String
  isFolder : Bool
  mimeType : Option String
  createdAt : Option String
  modifiedAt : Option String
deriving DecidableEq

/-- `DocumentMetadata.to_dict`. -/
def DocumentMetadata.toJson (m : DocumentMetadata) : Json := .obj [
  ("created_at", .ofOption m.createdAt), ("etag", .str m.etag), ("is_folder", .bool m.isFolder),
  ("item_id", .str m.itemId), ("mime_type", .ofOption m.mimeType),
  ("modified_at", .ofOption m.modifiedAt), ("name", .str m.name), ("path", .str m.path),
  ("size", .int m.size)]

/-- The answers of `DocumentStore.stat`; a path without an answer raises. -/
abbrev Documents := String → Option DocumentMetadata

/-- The decision as the database spells it. -/
def GovernanceDecision.text : GovernanceDecision → String
  | verified => "verified"
  | responded => "responded"
  | approved => "approved"
  | rejected => "rejected"
  | exception => "exception"

/-- The arguments of `verify_artifact`. -/
structure VerifyRequest where
  projectId : String
  workItemId : String
  path : String
  actorRoleId : String
  recordId : String

/-- The arguments of `record_consultation`. -/
structure ConsultationRequest where
  projectId : String
  workItemId : String
  obligationId : String
  decision : GovernanceDecision
  actorRoleId : String
  recordId : String
  reason : String := ""
  evidence : Json := .obj []

/-- The arguments of `decide_gate`. -/
structure GateDecisionRequest where
  projectId : String
  workItemId : String
  obligationId : String
  decision : GovernanceDecision
  actorRoleId : String
  recordId : String
  reason : String := ""
  evidence : Json := .obj []
  architectureImpact : Option String := none

/-- The digest of a verification, of a normalized path. -/
def VerifyRequest.digest (r : VerifyRequest) : String :=
  flowDigest [.str "verify-artifact", .str r.workItemId, .str r.path, .str r.actorRoleId]

def ConsultationRequest.digest (r : ConsultationRequest) : String :=
  flowDigest [.str "consultation", .str r.workItemId, .str r.obligationId, .str r.decision.text,
    .str r.actorRoleId, .str r.reason, r.evidence]

/-- The digest of a decision on a version of the artifact. -/
def GateDecisionRequest.digest (r : GateDecisionRequest) (reviewed : String × String) : String :=
  flowDigest [.str "gate", .str r.workItemId, .str r.obligationId, .str r.decision.text,
    .str r.actorRoleId, .str r.reason, r.evidence, .ofOption r.architectureImpact,
    .str reviewed.1, .str reviewed.2]

/-! ## The statements -/

/-- An obligation is satisfied and its artifact was verified with this record. -/
def GovernanceRecord.Verifies (db : Db) (entry : String × String × String × ℕ)
    (g : GovernanceRecord) : Prop :=
  (g.projectId, g.workItemId, g.state, g.entryVersion) = entry ∧ g.kind = .artifact ∧
    g.decision = .verified ∧
    db.obligations.Any fun o => o.key = g.obligationKey ∧ o.status = .satisfied

instance (db : Db) (entry : String × String × String × ℕ) :
    DecidablePred (GovernanceRecord.Verifies db entry) := fun _ =>
  inferInstanceAs (Decidable (_ ∧ _ ∧ _ ∧ ∃ _ ∈ _, _))

/-- The current entry of a run. -/
def FlowRun.entry (run : FlowRun) : String × String × String × ℕ :=
  (run.projectId, run.workItemId, run.currentState, run.version)

namespace Db

/-- `INSERT INTO governance_records`. -/
def insertRecord (g : GovernanceRecord) (db : Db) : Option Db :=
  (db.governance.insert g).map fun governance => { db with governance }

/-- `INSERT INTO governance_context ... ON CONFLICT DO UPDATE`. -/
def putImpact (c : GovernanceContext) (db : Db) : Db :=
  match db.impacts.insert c with
  | some impacts => { db with impacts }
  | none =>
    { db with
      impacts := db.impacts.update (fun r => r.key = c.key)
        { set := fun r => { r with architectureImpact := c.architectureImpact } } }

/-- The path and the version of the verified artifact of an entry. -/
def artifactVersion (entry : String × String × String × ℕ) (db : Db) : Option (String × String) :=
  (db.governance.find (GovernanceRecord.Verifies db entry)).bind GovernanceRecord.document

/-- `UPDATE flow_obligations SET status = 'satisfied' ... AND status = 'pending'`, which must find
one row. -/
def satisfy (key : String × String × String × ℕ × ObligationKind × String) (evidence : Json)
    (db : Db) : Option Db :=
  if db.obligations.Any fun o => o.key = key ∧ o.status = .pending then
    some (db.setObligation key .satisfied fun _ => evidence)
  else none

end Db

namespace GovernanceStore

/-- `_identifiers`. -/
def requireIdentifiers (values : List String) : Tx Db GovernanceError Unit :=
  Tx.require (∀ s ∈ values, isIdentifier s = true) (.value "identifier is invalid")

/-- `_required` of a path. -/
def requirePath (path : String) : Tx Db GovernanceError String := do
  Tx.require (strip path ≠ "" ∧ path.toList.length ≤ 4000) (.value "path is invalid")
  return strip path

/-- `_reason`. -/
def requireReason (reason : String) (decision : GovernanceDecision) :
    Tx Db GovernanceError String := do
  Tx.require (reason.toList.length ≤ 4000) (.value "reason is invalid")
  Tx.require (decision = .exception → strip reason ≠ "") (.value "exception reason is required")
  return strip reason

/-- `_evidence`. -/
def requireEvidence (evidence : Json) : Tx Db GovernanceError Unit := do
  let _ ← Tx.demand (fun _ => evidence.asObject) (.value "evidence must be an object")
  Tx.require ((Json.ascii evidence.dumps).toList.length ≤ 1000000) (.value "evidence is too large")

/-- `_replay`. -/
def replay (projectId recordId digest : String) :
    Tx Db GovernanceError (Option GovernanceRecord) := do
  let row ← Tx.query fun db => db.governance.lookup (projectId, recordId)
  match row with
  | none => return none
  | some g => do
    Tx.require (g.requestDigest = digest)
      (.conflict "governance record id conflicts with another request")
    return some g

/-- `_lock_current`. -/
def lockCurrent (projectId workItemId : String) (kind : ObligationKind) (obligationId : String) :
    Tx Db GovernanceError (FlowRun × FlowObligation) := do
  let run ← Tx.demand (fun db => db.flowRuns.lookup (projectId, workItemId))
    (.notFound "flow run was not found")
  Tx.require (run.status = .active) (.conflict "flow run is not active")
  let o ← Tx.demand
    (fun db => db.obligations.lookup
      (projectId, workItemId, run.currentState, run.version, kind, obligationId))
    (.notFound "current flow obligation was not found")
  return (run, o)

/-- The row that `_insert` writes. -/
def newRecord (o : FlowObligation) (recordId digest : String) (decision : GovernanceDecision)
    (actorRoleId reason : String) (evidence : Json) (document : Option (String × String)) :
    GovernanceRecord where
  projectId := o.projectId
  workItemId := o.workItemId
  recordId := recordId
  requestDigest := digest
  state := o.state
  entryVersion := o.entryVersion
  kind := o.kind
  obligationId := o.obligationId
  decision := decision
  actorRoleId := actorRoleId
  reason := reason
  evidence := evidence
  document := document

/-- `_insert`; a record that appeared in the meantime is a conflict. -/
def insert (g : GovernanceRecord) : Tx Db GovernanceError Unit :=
  Tx.attempt (Db.insertRecord g)
    (.conflict "governance evidence conflicted with durable state")

/-- `_satisfy`. -/
def satisfy (o : FlowObligation) (evidence : Json) : Tx Db GovernanceError Unit :=
  Tx.attempt (Db.satisfy o.key evidence) (.conflict "flow obligation is no longer pending")

/-! ## `verify_artifact` -/

/-- A text with every occurrence of a part replaced, left to right. -/
def replaceIn (part new : List Char) : ℕ → List Char → List Char
  | 0, cs => cs
  | _, [] => []
  | n + 1, c :: cs =>
    if part.isPrefixOf (c :: cs) then new ++ replaceIn part new n ((c :: cs).drop part.length)
    else c :: replaceIn part new n cs

/-- `str.replace`. -/
def replace (s part new : String) : String :=
  String.ofList (replaceIn part.toList new.toList s.toList.length s.toList)

/-- `_materialize_path`. -/
def materializePath (payload : Json) (projectId workItemId : String) : Option String :=
  ((payload.get? "path").bind Json.asString).map fun path =>
    replace (replace path "\x7bproject_id\x7d" projectId) "\x7bwork_item_id\x7d" workItemId

/-- The evidence of a satisfied artifact. -/
def artifactEvidence (r : VerifyRequest) (m : DocumentMetadata) : Json := .obj [
  ("document_etag", .str m.etag), ("document_path", .str r.path), ("document_size", .int m.size),
  ("governance_record_id", .str r.recordId)]

/-- The transaction of `verify_artifact`, on a normalized path. -/
def verifyArtifactIn (r : VerifyRequest) (m : DocumentMetadata) :
    Tx Db GovernanceError GovernanceRecord := do
  let recorded ← replay r.projectId r.recordId r.digest
  match recorded with
  | some g => return g
  | none => do
    let (_, o) ← lockCurrent r.projectId r.workItemId .artifact "artifact"
    Tx.require (o.accountableRoleId = r.actorRoleId)
      (.conflict "artifact must be verified by its owner role")
    let expected ← Tx.demand (fun _ => materializePath o.payload r.projectId r.workItemId)
      (.conflict "flow artifact path is invalid")
    Tx.require (r.path = expected ∧ m.path = r.path)
      (.conflict "document path does not match the flow artifact")
    let g := newRecord o r.recordId r.digest .verified r.actorRoleId ""
      (.obj [("document", m.toJson)]) (some (r.path, m.etag))
    insert g
    satisfy o (artifactEvidence r m)
    return g

def verifyArtifact (r : VerifyRequest) (documents : Documents) :
    Tx Db GovernanceError GovernanceRecord := do
  requireIdentifiers [r.projectId, r.workItemId, r.actorRoleId, r.recordId]
  let path ← requirePath r.path
  let r := { r with path }
  let recorded ← replay r.projectId r.recordId r.digest
  match recorded with
  | some g => return g
  | none => do
    let m ← Tx.demand (fun _ => documents path) .document
    Tx.require (m.isFolder = false) (.conflict "flow artifact must be a document")
    verifyArtifactIn r m

/-! ## `record_consultation` -/

def recordConsultation (r : ConsultationRequest) : Tx Db GovernanceError GovernanceRecord := do
  requireIdentifiers [r.projectId, r.workItemId, r.obligationId, r.actorRoleId, r.recordId]
  Tx.require (r.decision = .responded ∨ r.decision = .exception)
    (.value "consultation decision must be responded or exception")
  let reason ← requireReason r.reason r.decision
  requireEvidence r.evidence
  let r := { r with reason }
  let recorded ← replay r.projectId r.recordId r.digest
  match recorded with
  | some g => return g
  | none => do
    let (run, o) ← lockCurrent r.projectId r.workItemId .consult r.obligationId
    if r.decision = .responded then
      Tx.require (o.status = .dispatched) (.conflict "consultation has not been dispatched")
      Tx.require (o.accountableRoleId = r.actorRoleId)
        (.conflict "consultation response must come from the consulted role")
    else
      Tx.require (r.actorRoleId = run.ownerRoleId ∨ r.actorRoleId = run.flow.leaderRole)
        (.conflict "consultation exception requires the owner or flow leader")
    let g := newRecord o r.recordId r.digest r.decision r.actorRoleId r.reason r.evidence none
    insert g
    return g

/-! ## `decide_gate` -/

/-- The type of a gate obligation. -/
def gateType (payload : Json) : Json := (payload.get? "type").getD (.str "owner_review")

/-- `_SPONSOR_GATE_TYPES`. -/
def sponsorGateTypes : List Json := [.str "human_response", .str "sponsor_approval"]

/-- `_ARCHITECTURE_GATE_TYPES`. -/
def architectureGateTypes : List Json :=
  [.str "architecture_impact", .str "architecture_impact_assessment"]

/-- `_ARCHITECTURE_IMPACTS`. -/
def architectureImpacts : List String := ["no-material", "material", "uncertain"]

/-- A value that Python can look up in a set. -/
def IsHashable : Json → Prop
  | .arr _ => False
  | .obj _ => False
  | _ => True

instance : DecidablePred IsHashable
  | .arr _ => isFalse id
  | .obj _ => isFalse id
  | .null => isTrue trivial
  | .bool _ => isTrue trivial
  | .int _ => isTrue trivial
  | .float _ => isTrue trivial
  | .str _ => isTrue trivial

/-- A gate that is reserved for sponsors. -/
def ForSponsor (payload : Json) : Prop :=
  gateType payload ∈ sponsorGateTypes ∨ payload.get? "requested_from" = some (.str "sponsor")

instance : DecidablePred ForSponsor := fun _ => inferInstanceAs (Decidable (_ ∨ _))

/-- The document of the verified artifact is still the one that was verified. -/
def Unchanged (documents : Documents) (reviewed : String × String) : Prop :=
  ∃ m ∈ documents reviewed.1, m.isFolder = false ∧ (m.path, m.etag) = reviewed

instance (documents : Documents) : DecidablePred (Unchanged documents) := fun reviewed =>
  match h : documents reviewed.1 with
  | none => isFalse fun ⟨m, hm, _⟩ => by simp [h] at hm
  | some m => decidable_of_iff (m.isFolder = false ∧ (m.path, m.etag) = reviewed) (by
      simp [Unchanged, h])

/-- `_current_artifact_version`. -/
def currentArtifactVersion (projectId workItemId : String) (documents : Documents) :
    Tx Db GovernanceError (String × String) := do
  let reviewed ← Tx.demand
    (fun db => do
      let run ← db.flowRuns.lookup (projectId, workItemId)
      if run.status = .active then db.artifactVersion run.entry else none)
    (.conflict "gate decision requires a verified state artifact")
  let _ ← Tx.demand (fun _ => documents reviewed.1) .document
  Tx.require (Unchanged documents reviewed) (.conflict "verified state artifact has changed")
  return reviewed

/-- The version of the document that a record reviewed. -/
def reviewedDocument (g : GovernanceRecord) : Option (String × String) := do
  let reviewed ← g.evidence.get? "reviewed_document"
  let path ← (reviewed.get? "path").bind Json.asString
  let etag ← (reviewed.get? "etag").bind Json.asString
  return (path, etag)

/-- `_reviewed_version_for_replay`. -/
def reviewedVersionForReplay (projectId recordId : String) (documents : Documents) :
    Tx Db GovernanceError (Option (String × String)) := do
  let row ← Tx.query fun db => db.governance.lookup (projectId, recordId)
  match row with
  | none => return none
  | some g => do
    let _ ← Tx.demand (fun _ => (g.evidence.get? "reviewed_document").bind Json.asObject)
      (.conflict "governance record id conflicts with another request")
    let reviewed ← Tx.demand (fun _ => reviewedDocument g)
      (.conflict "recorded reviewed document is invalid")
    let _ ← Tx.demand (fun _ => documents reviewed.1) .document
    Tx.require (Unchanged documents reviewed) (.conflict "reviewed state artifact has changed")
    return some reviewed

/-- The evidence of a decision, with the version that it is about. -/
def reviewEvidence (evidence : Json) (reviewed : String × String) : Json :=
  evidence.withField "reviewed_document"
    (.obj [("etag", .str reviewed.2), ("path", .str reviewed.1)])

/-- The evidence of a satisfied gate. -/
def gateEvidence (r : GateDecisionRequest) (reviewed : String × String) : Json :=
  (Json.obj [("decision", .str r.decision.text), ("governance_record_id", .str r.recordId),
    ("reason", .str r.reason)]).merge (reviewEvidence r.evidence reviewed)

/-- The checks of a decision on the type of its gate. -/
def checkImpact (r : GateDecisionRequest) (o : FlowObligation) : Tx Db GovernanceError Unit := do
  if gateType o.payload ∈ architectureGateTypes then
    Tx.require (r.decision ≠ .exception)
      (.conflict "architecture impact must be explicitly classified")
    Tx.require (r.decision = .approved → r.architectureImpact ≠ none)
      (.conflict "approved architecture impact gate requires a classification")
  else
    Tx.require (r.architectureImpact = none)
      (.conflict "architecture impact belongs to the impact-assessment gate")

/-- The impact of an approved decision is recorded. -/
def recordImpact (r : GateDecisionRequest) : Tx Db GovernanceError Unit :=
  match r.decision, r.architectureImpact with
  | .approved, some impact => Tx.modify (Db.putImpact ⟨r.projectId, r.workItemId, impact⟩)
  | _, _ => pure ()

/-- The effects of a decision: an approval or an exception satisfies the obligation, and an
approved impact is recorded. -/
def settleGate (r : GateDecisionRequest) (o : FlowObligation) (reviewed : String × String) :
    Tx Db GovernanceError Unit := do
  if r.decision = .approved ∨ r.decision = .exception then
    satisfy o (gateEvidence r reviewed)
  recordImpact r

/-- The transaction of `decide_gate` on normalized arguments, after the version of the artifact
was read. -/
def decideGateIn (r : GateDecisionRequest) (reviewed : String × String) :
    Tx Db GovernanceError GovernanceRecord := do
  let recorded ← replay r.projectId r.recordId (r.digest reviewed)
  match recorded with
  | some g => return g
  | none => do
    let (run, o) ← lockCurrent r.projectId r.workItemId .gate r.obligationId
    Tx.require (IsHashable (gateType o.payload)) (.store "gate decision failed")
    Tx.require (¬ ForSponsor o.payload)
      (.conflict "sponsor gates are reserved for sponsor approval")
    Tx.require (o.accountableRoleId = r.actorRoleId)
      (.conflict "gate decision requires its accountable role")
    let db ← Tx.query id
    Tx.require
      (db.governance.Any fun g => g.Verifies db run.entry ∧ g.document = some reviewed)
      (.conflict "gate decision requires a verified state artifact")
    checkImpact r o
    let g := newRecord o r.recordId (r.digest reviewed) r.decision r.actorRoleId r.reason
      (reviewEvidence r.evidence reviewed) none
    insert g
    settleGate r o reviewed
    return g

/-- The checks of the arguments of `decide_gate`. -/
def checkDecision (r : GateDecisionRequest) : Tx Db GovernanceError GateDecisionRequest := do
  requireIdentifiers [r.projectId, r.workItemId, r.obligationId, r.actorRoleId, r.recordId]
  Tx.require (r.decision ∈ [GovernanceDecision.approved, .rejected, .exception])
    (.value "gate decision must be approved, rejected, or exception")
  let reason ← requireReason r.reason r.decision
  requireEvidence r.evidence
  Tx.require (∀ impact ∈ r.architectureImpact, impact ∈ architectureImpacts)
    (.value "architecture_impact is invalid")
  return { r with reason }

/-- The version of the artifact that a decision is about, read before its transaction. -/
def reviewedVersion (r : GateDecisionRequest) (documents : Documents) :
    Tx Db GovernanceError (String × String) := do
  let replayed ← reviewedVersionForReplay r.projectId r.recordId documents
  match replayed with
  | some reviewed => return reviewed
  | none => currentArtifactVersion r.projectId r.workItemId documents

def decideGate (r : GateDecisionRequest) (documents : Documents) :
    Tx Db GovernanceError GovernanceRecord := do
  let r ← checkDecision r
  let reviewed ← reviewedVersion r documents
  decideGateIn r reviewed

/-! ## What the operations do -/

variable {db db' : Db}

lemma replay_ok {p i d : String} {found : Option GovernanceRecord}
    (h : replay p i d db = .ok (found, db')) :
    db' = db ∧ ∀ g, found = some g → g ∈ db.governance := by
  rw [replay, Tx.query_bind_ok] at h
  cases hrow : db.governance.lookup (p, i) with
  | none =>
    rw [hrow] at h
    simp only [Tx.pure_ok, Prod.mk.injEq] at h
    obtain ⟨rfl, rfl⟩ := h
    exact ⟨rfl, fun g hg => by simp at hg⟩
  | some g =>
    rw [hrow] at h
    simp only [Tx.require_bind_ok, Tx.pure_ok, Prod.mk.injEq] at h
    obtain ⟨-, rfl, rfl⟩ := h
    refine ⟨rfl, fun g' hg' => ?_⟩
    obtain rfl := Option.some.inj hg'
    exact (Table.lookup_eq_some.1 hrow).1

/-- The current obligation of an active run. -/
structure Locked (p w : String) (kind : ObligationKind) (i : String) (run : FlowRun)
    (o : FlowObligation) (db : Db) : Prop where
  run_mem : run ∈ db.flowRuns
  run_key : run.key = (p, w)
  active : run.status = .active
  mem : o ∈ db.obligations
  key : o.key = (p, w, run.currentState, run.version, kind, i)

lemma lockCurrent_ok {p w i : String} {kind : ObligationKind} {out : FlowRun × FlowObligation}
    (h : lockCurrent p w kind i db = .ok (out, db')) :
    db' = db ∧ Locked p w kind i out.1 out.2 db := by
  simp only [lockCurrent, Tx.demand_bind_ok, Tx.require_bind_ok, Tx.pure_ok, Prod.mk.injEq] at h
  obtain ⟨run, hrun, hactive, o, ho, rfl, rfl⟩ := h
  obtain ⟨hmem, hkey⟩ := Table.lookup_eq_some.1 hrun
  obtain ⟨homem, hokey⟩ := Table.lookup_eq_some.1 ho
  exact ⟨rfl, hmem, hkey, hactive, homem, hokey⟩

lemma insert_bind_ok {β : Type} {g : GovernanceRecord} {f : Unit → Tx Db GovernanceError β}
    {r : β × Db} : (insert g >>= f) db = .ok r ↔
      ∃ governance, db.governance.insert g = some governance ∧
        f () { db with governance } = .ok r := by
  rw [insert, Tx.attempt_bind_ok]
  constructor
  · rintro ⟨_, hins, h⟩
    obtain ⟨governance, hgov, rfl⟩ := Option.map_eq_some_iff.1 hins
    exact ⟨governance, hgov, h⟩
  · rintro ⟨governance, hgov, h⟩
    exact ⟨_, Option.map_eq_some_iff.2 ⟨governance, hgov, rfl⟩, h⟩

lemma satisfy_eq_some {key : String × String × String × ℕ × ObligationKind × String}
    {evidence : Json} : db.satisfy key evidence = some db' ↔
      (∃ o ∈ db.obligations, o.key = key ∧ o.status = .pending) ∧
        db' = db.setObligation key .satisfied fun _ => evidence := by
  unfold Db.satisfy
  split
  · next hany =>
    rw [Option.some.injEq]
    exact ⟨fun h => ⟨hany, h.symm⟩, fun h => h.2.symm⟩
  · next hnone => exact ⟨fun h => by simp at h, fun h => absurd h.1 hnone⟩

/-- A committed verification of an artifact. -/
structure Verified (r : VerifyRequest) (m : DocumentMetadata) (g : GovernanceRecord)
    (db db' : Db) : Prop where
  locked : ∃ run o, Locked r.projectId r.workItemId .artifact "artifact" run o db ∧
    o.accountableRoleId = r.actorRoleId ∧ o.status = .pending ∧
    materializePath o.payload r.projectId r.workItemId = some r.path ∧ m.path = r.path ∧
    g = newRecord o r.recordId r.digest .verified r.actorRoleId ""
      (.obj [("document", m.toJson)]) (some (r.path, m.etag)) ∧
    ∃ governance, db.governance.insert g = some governance ∧
      db' = ({ db with governance } : Db).setObligation o.key .satisfied
        fun _ => artifactEvidence r m

lemma verifyArtifactIn_ok {r : VerifyRequest} {m : DocumentMetadata} {g : GovernanceRecord}
    (h : verifyArtifactIn r m db = .ok (g, db')) :
    (db' = db ∧ g ∈ db.governance) ∨ Verified r m g db db' := by
  rw [verifyArtifactIn, Tx.bind_ok] at h
  obtain ⟨recorded, db₁, hreplay, h⟩ := h
  obtain ⟨rfl, hrecorded⟩ := replay_ok hreplay
  cases recorded with
  | some g' =>
    simp only [Tx.pure_ok, Prod.mk.injEq] at h
    obtain ⟨rfl, rfl⟩ := h
    exact Or.inl ⟨rfl, hrecorded _ rfl⟩
  | none =>
    dsimp only at h
    rw [Tx.bind_ok] at h
    obtain ⟨⟨run, o⟩, db₂, hlock, h⟩ := h
    obtain ⟨rfl, hlocked⟩ := lockCurrent_ok hlock
    simp only [Tx.require_bind_ok, Tx.demand_bind_ok, insert_bind_ok] at h
    obtain ⟨howner, path, hpath, ⟨rfl, hm⟩, governance, hins, h⟩ := h
    rw [satisfy, Tx.attempt_bind_ok] at h
    obtain ⟨db₃, hsatisfy, h⟩ := h
    obtain ⟨⟨o', ho', hkey, hpending⟩, rfl⟩ := satisfy_eq_some.1 hsatisfy
    obtain rfl := Table.eq_of_key _ ho' hlocked.mem hkey
    simp only [Tx.pure_ok, Prod.mk.injEq] at h
    obtain ⟨rfl, rfl⟩ := h
    exact Or.inr ⟨run, o', hlocked, howner, hpending, hpath, hm, rfl, governance, hins, rfl⟩

lemma requirePath_ok {path path' : String} (h : requirePath path db = .ok (path', db')) :
    db' = db := by
  simp only [requirePath, Tx.require_bind_ok, Tx.pure_ok, Prod.mk.injEq] at h
  exact h.2.2

lemma verifyArtifact_ok {r : VerifyRequest} {documents : Documents} {g : GovernanceRecord}
    (h : verifyArtifact r documents db = .ok (g, db')) :
    (db' = db ∧ g ∈ db.governance) ∨ ∃ path m, documents path = some m ∧ m.isFolder = false ∧
      Verified { r with path } m g db db' := by
  rw [verifyArtifact, requireIdentifiers, Tx.require_bind_ok] at h
  obtain ⟨-, h⟩ := h
  rw [Tx.bind_ok] at h
  obtain ⟨path, db₁, hpath, h⟩ := h
  obtain rfl := requirePath_ok hpath
  rw [Tx.bind_ok] at h
  obtain ⟨recorded, db₂, hreplay, h⟩ := h
  obtain ⟨rfl, hrecorded⟩ := replay_ok hreplay
  cases recorded with
  | some g' =>
    simp only [Tx.pure_ok, Prod.mk.injEq] at h
    obtain ⟨rfl, rfl⟩ := h
    exact Or.inl ⟨rfl, hrecorded _ rfl⟩
  | none =>
    simp only [Tx.demand_bind_ok, Tx.require_bind_ok] at h
    obtain ⟨m, hm, hfolder, h⟩ := h
    rcases verifyArtifactIn_ok h with hsame | hverified
    · exact Or.inl hsame
    · exact Or.inr ⟨path, m, hm, hfolder, hverified⟩

/-- A committed answer or exception of a consultation. -/
structure Consulted (r : ConsultationRequest) (g : GovernanceRecord) (db db' : Db) : Prop where
  locked : ∃ run o, Locked r.projectId r.workItemId .consult r.obligationId run o db ∧
    ((r.decision = .responded ∧ o.status = .dispatched ∧ o.accountableRoleId = r.actorRoleId) ∨
      (r.decision = .exception ∧
        (r.actorRoleId = run.ownerRoleId ∨ r.actorRoleId = run.flow.leaderRole))) ∧
    g = newRecord o r.recordId r.digest r.decision r.actorRoleId r.reason r.evidence none ∧
    (r.decision = .exception → r.reason ≠ "") ∧
    ∃ governance, db.governance.insert g = some governance ∧ db' = { db with governance }

lemma requireEvidence_ok {v : Json} {u : Unit} (h : requireEvidence v db = .ok (u, db')) :
    db' = db := by
  simp only [requireEvidence, Tx.demand_bind_ok, Tx.require_ok] at h
  obtain ⟨_, -, -, rfl⟩ := h
  rfl

lemma requireReason_ok {reason reason' : String} {d : GovernanceDecision}
    (h : requireReason reason d db = .ok (reason', db')) :
    db' = db ∧ (d = .exception → reason' ≠ "") := by
  simp only [requireReason, Tx.require_bind_ok, Tx.pure_ok, Prod.mk.injEq] at h
  obtain ⟨-, hne, rfl, rfl⟩ := h
  exact ⟨rfl, hne⟩

lemma recordConsultation_ok {r : ConsultationRequest} {g : GovernanceRecord}
    (h : recordConsultation r db = .ok (g, db')) :
    (db' = db ∧ g ∈ db.governance) ∨ ∃ reason, Consulted { r with reason } g db db' := by
  rw [recordConsultation, requireIdentifiers, Tx.require_bind_ok, Tx.require_bind_ok] at h
  obtain ⟨-, hdecision, h⟩ := h
  rw [Tx.bind_ok] at h
  obtain ⟨reason, db₁, hreason, h⟩ := h
  obtain ⟨rfl, hne⟩ := requireReason_ok hreason
  rw [Tx.bind_ok] at h
  obtain ⟨_, db₂, hevidence, h⟩ := h
  obtain rfl := requireEvidence_ok hevidence
  rw [Tx.bind_ok] at h
  obtain ⟨recorded, db₃, hreplay, h⟩ := h
  obtain ⟨rfl, hrecorded⟩ := replay_ok hreplay
  cases recorded with
  | some g' =>
    simp only [Tx.pure_ok, Prod.mk.injEq] at h
    obtain ⟨rfl, rfl⟩ := h
    exact Or.inl ⟨rfl, hrecorded _ rfl⟩
  | none =>
    dsimp only at h
    rw [Tx.bind_ok] at h
    obtain ⟨⟨run, o⟩, db₄, hlock, h⟩ := h
    obtain ⟨rfl, hlocked⟩ := lockCurrent_ok hlock
    refine Or.inr ⟨reason, run, o, hlocked, ?_⟩
    rcases hdecision with hd | hd
    · simp only [hd, if_true, Tx.require_bind_ok, insert_bind_ok, Tx.pure_ok, Prod.mk.injEq] at h
      obtain ⟨hdispatched, howner, governance, hins, rfl, rfl⟩ := h
      exact ⟨Or.inl ⟨hd, hdispatched, howner⟩, by rw [hd], fun he => by simp [hd] at he,
        governance, hins, rfl⟩
    · have hno : ¬ r.decision = .responded := by
        intro he
        rw [hd] at he
        exact absurd he (by simp)
      simp only [hno, if_false, Tx.require_bind_ok, insert_bind_ok, Tx.pure_ok, Prod.mk.injEq] at h
      obtain ⟨howner, governance, hins, rfl, rfl⟩ := h
      exact ⟨Or.inr ⟨hd, howner⟩, rfl, hne, governance, hins, rfl⟩

/-- A committed decision on a gate. -/
structure Decides (r : GateDecisionRequest) (reviewed : String × String) (g : GovernanceRecord)
    (db db' : Db) : Prop where
  locked : ∃ run o, Locked r.projectId r.workItemId .gate r.obligationId run o db ∧
    ¬ ForSponsor o.payload ∧ o.accountableRoleId = r.actorRoleId ∧
    (∃ v ∈ db.governance, v.Verifies db run.entry ∧ v.document = some reviewed) ∧
    (gateType o.payload ∈ architectureGateTypes → r.decision ≠ .exception ∧
      (r.decision = .approved → r.architectureImpact ≠ none)) ∧
    (gateType o.payload ∉ architectureGateTypes → r.architectureImpact = none) ∧
    g = newRecord o r.recordId (r.digest reviewed) r.decision r.actorRoleId r.reason
      (reviewEvidence r.evidence reviewed) none ∧
    ∃ governance db₁, db.governance.insert g = some governance ∧
      (((r.decision = .approved ∨ r.decision = .exception) ∧ o.status = .pending ∧
          db₁ = ({ db with governance } : Db).setObligation o.key .satisfied
            fun _ => gateEvidence r reviewed) ∨
        (¬ (r.decision = .approved ∨ r.decision = .exception) ∧
          db₁ = { db with governance })) ∧
      ((∃ impact, r.decision = .approved ∧ r.architectureImpact = some impact ∧
          db' = db₁.putImpact ⟨r.projectId, r.workItemId, impact⟩) ∨
        (¬ (r.decision = .approved ∧ r.architectureImpact.isSome) ∧ db' = db₁))

lemma checkImpact_ok {r : GateDecisionRequest} {o : FlowObligation} {u : Unit}
    (h : checkImpact r o db = .ok (u, db')) : db' = db ∧
      (gateType o.payload ∈ architectureGateTypes → r.decision ≠ .exception ∧
        (r.decision = .approved → r.architectureImpact ≠ none)) ∧
      (gateType o.payload ∉ architectureGateTypes → r.architectureImpact = none) := by
  unfold checkImpact at h
  split at h
  · next htype =>
    rw [Tx.require_bind_ok, Tx.require_ok] at h
    exact ⟨h.2.2, fun _ => ⟨h.1, h.2.1⟩, fun hno => absurd htype hno⟩
  · next htype =>
    rw [Tx.require_ok] at h
    exact ⟨h.2, fun hyes => absurd hyes htype, fun _ => h.1⟩

lemma recordImpact_ok {r : GateDecisionRequest} {u : Unit}
    (h : recordImpact r db = .ok (u, db')) :
    (∃ impact, r.decision = .approved ∧ r.architectureImpact = some impact ∧
        db' = db.putImpact ⟨r.projectId, r.workItemId, impact⟩) ∨
      (¬ (r.decision = .approved ∧ r.architectureImpact.isSome) ∧ db' = db) := by
  unfold recordImpact at h
  cases hi : r.architectureImpact with
  | none =>
    have hpure : (pure () : Tx Db GovernanceError Unit) db = .ok (u, db') := by
      cases hd : r.decision <;> rw [hd, hi] at h <;> exact h
    rw [Tx.pure_ok, Prod.mk.injEq] at hpure
    exact Or.inr ⟨fun hno => by simp at hno, hpure.2⟩
  | some impact =>
    by_cases hd : r.decision = .approved
    · rw [hd, hi] at h
      dsimp only at h
      rw [Tx.modify_ok] at h
      exact Or.inl ⟨impact, hd, rfl, h⟩
    · have hpure : (pure () : Tx Db GovernanceError Unit) db = .ok (u, db') := by
        cases hd' : r.decision <;> rw [hd', hi] at h <;> first | exact absurd hd' hd | exact h
      rw [Tx.pure_ok, Prod.mk.injEq] at hpure
      exact Or.inr ⟨fun hno => hd hno.1, hpure.2⟩

lemma settleGate_ok {r : GateDecisionRequest} {o : FlowObligation} {reviewed : String × String}
    {u : Unit} (hmem : o ∈ db.obligations) (h : settleGate r o reviewed db = .ok (u, db')) :
    ∃ db₁,
      (((r.decision = .approved ∨ r.decision = .exception) ∧ o.status = .pending ∧
          db₁ = db.setObligation o.key .satisfied fun _ => gateEvidence r reviewed) ∨
        (¬ (r.decision = .approved ∨ r.decision = .exception) ∧ db₁ = db)) ∧
      ((∃ impact, r.decision = .approved ∧ r.architectureImpact = some impact ∧
          db' = db₁.putImpact ⟨r.projectId, r.workItemId, impact⟩) ∨
        (¬ (r.decision = .approved ∧ r.architectureImpact.isSome) ∧ db' = db₁)) := by
  unfold settleGate at h
  by_cases hd : r.decision = .approved ∨ r.decision = .exception
  · rw [if_pos hd, satisfy, Tx.attempt_bind_ok] at h
    obtain ⟨db₁, hsatisfy, h⟩ := h
    obtain ⟨⟨o', ho', hkey, hpending⟩, rfl⟩ := satisfy_eq_some.1 hsatisfy
    obtain rfl := Table.eq_of_key _ ho' hmem hkey
    exact ⟨_, Or.inl ⟨hd, hpending, rfl⟩, recordImpact_ok h⟩
  · rw [if_neg hd] at h
    exact ⟨db, Or.inr ⟨hd, rfl⟩, recordImpact_ok h⟩

lemma decideGateIn_ok {r : GateDecisionRequest} {reviewed : String × String}
    {g : GovernanceRecord} (h : decideGateIn r reviewed db = .ok (g, db')) :
    (db' = db ∧ g ∈ db.governance) ∨ Decides r reviewed g db db' := by
  rw [decideGateIn, Tx.bind_ok] at h
  obtain ⟨recorded, db₁, hreplay, h⟩ := h
  obtain ⟨rfl, hrecorded⟩ := replay_ok hreplay
  cases recorded with
  | some g' =>
    simp only [Tx.pure_ok, Prod.mk.injEq] at h
    obtain ⟨rfl, rfl⟩ := h
    exact Or.inl ⟨rfl, hrecorded _ rfl⟩
  | none =>
    dsimp only at h
    rw [Tx.bind_ok] at h
    obtain ⟨⟨run, o⟩, db₂, hlock, h⟩ := h
    obtain ⟨rfl, hlocked⟩ := lockCurrent_ok hlock
    simp only [Tx.require_bind_ok, Tx.query_bind_ok] at h
    obtain ⟨-, hsponsor, howner, hverified, h⟩ := h
    rw [Tx.bind_ok] at h
    obtain ⟨_, db₃, hcheck, h⟩ := h
    obtain ⟨rfl, harchitecture, hother⟩ := checkImpact_ok hcheck
    rw [insert_bind_ok] at h
    obtain ⟨governance, hins, h⟩ := h
    rw [Tx.bind_ok] at h
    obtain ⟨_, db₄, hsettle, h⟩ := h
    rw [Tx.pure_ok, Prod.mk.injEq] at h
    obtain ⟨rfl, rfl⟩ := h
    obtain ⟨db₁, hfirst, hsecond⟩ := settleGate_ok
      (show o ∈ ({ db₃ with governance } : Db).obligations from hlocked.mem) hsettle
    exact Or.inr ⟨run, o, hlocked, hsponsor, howner, hverified, harchitecture, hother, rfl,
      governance, db₁, hins, hfirst, hsecond⟩

/-- The arguments of a decision after their checks. -/
lemma checkDecision_ok {r r' : GateDecisionRequest} (h : checkDecision r db = .ok (r', db')) :
    db' = db ∧ r'.decision ∈ [GovernanceDecision.approved, .rejected, .exception] ∧
      (r'.decision = .exception → r'.reason ≠ "") ∧ ∃ reason, r' = { r with reason } := by
  rw [checkDecision, requireIdentifiers, Tx.require_bind_ok, Tx.require_bind_ok, Tx.bind_ok] at h
  obtain ⟨-, hdecision, reason, db₁, hreason, h⟩ := h
  obtain ⟨rfl, hne⟩ := requireReason_ok hreason
  rw [Tx.bind_ok] at h
  obtain ⟨_, db₂, hevidence, h⟩ := h
  obtain rfl := requireEvidence_ok hevidence
  rw [Tx.require_bind_ok, Tx.pure_ok, Prod.mk.injEq] at h
  obtain ⟨-, rfl, rfl⟩ := h
  exact ⟨rfl, hdecision, hne, reason, rfl⟩

end GovernanceStore

end AgenticMesh
