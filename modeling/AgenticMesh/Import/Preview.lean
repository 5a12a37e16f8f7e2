import AgenticMesh.Import.QuestionStore
import AgenticMesh.Manifest.Manifest

/-!
# The contents of an import preview

A preview proposes how a project is imported: a manifest, a decision about every
source of the discovery report, and the backlog candidates that the sources
suggest.  Selections and candidates are stored as JSON and are checked again
whenever they are read; a stored value is read back.
-/

namespace AgenticMesh

/-- The exceptions of import previews. -/
inductive ImportPreviewError where
  | value (message : String)
  | notFound (message : String)
  | conflict (message : String)
  /-- `ImportActivationError`. -/
  | activation (message : String)
  /-- `ImportPreviewStoreError`. -/
  | store (message : String)
  /-- A `ProjectManifestError` of the validation of a manifest. -/
  | manifest (error : ProjectManifestError)
deriving DecidableEq

/-- A check of a preview, with its error. -/
abbrev PreviewCheck := Except ImportPreviewError

namespace ImportPreview

/-! ## Arguments -/

/-- `_text`. -/
def text (value : Json) (field : String) (maximum : ℕ) : PreviewCheck String :=
  (plainText value field maximum).mapError .value

/-- `_safe_text`. -/
def safeText (value : Json) (field : String) (maximum : ℕ) : PreviewCheck String :=
  (AgenticMesh.safeText value field maximum " must not contain secret material").mapError .value

/-- `_actor`. -/
def actor (value : Json) : PreviewCheck String := safeText value "actor identity" 256

/-- `_source_key`. -/
def sourceKeyArg (value : Json) : PreviewCheck String := text value "source_key" 400

/-- `_ID`. -/
def isId (s : String) : Bool :=
  fullmatch Char.isAlphanum (fun c => c.isAlphanum || c == '.' || c == '_' || c == ':' || c == '-')
    199 s

/-- A string that a pattern accepts. -/
def matching (pattern : String → Bool) (value : Json) (field : String) : PreviewCheck String :=
  Check.found (value.asString.filter fun s => pattern s = true) (.value (field ++ " is invalid"))

/-- `_id`. -/
def idArg (value : Json) (field : String) : PreviewCheck String := matching isId value field

/-- `_digest_value`. -/
def digestValue (value : Json) (field : String) : PreviewCheck String :=
  matching isDigest value field

lemma text_idem {value : Json} {field field' : String} {maximum : ℕ} {t : String}
    (h : text value field maximum = .ok t) : text (.str t) field' maximum = .ok t := by
  unfold text at h ⊢
  cases hplain : plainText value field maximum with
  | error e => simp [hplain, Except.mapError] at h
  | ok s =>
    obtain rfl : s = t := by simpa [hplain, Except.mapError] using h
    rw [plainText_idem hplain]
    rfl

lemma safeText_ok {value : Json} {field : String} {maximum : ℕ} {t : String} :
    safeText value field maximum = .ok t ↔
      AgenticMesh.safeText value field maximum " must not contain secret material" = .ok t := by
  unfold safeText
  cases AgenticMesh.safeText value field maximum " must not contain secret material" <;>
    simp [Except.mapError]

lemma safeText_idem {value : Json} {field field' : String} {maximum : ℕ} {t : String}
    (h : safeText value field maximum = .ok t) : safeText (.str t) field' maximum = .ok t :=
  safeText_ok.2 (AgenticMesh.safeText_idem (safeText_ok.1 h) le_rfl)

lemma matching_ok {pattern : String → Bool} {value : Json} {field s : String} :
    matching pattern value field = .ok s ↔ value = .str s ∧ pattern s = true := by
  simp only [matching, Check.found_ok, Option.filter_eq_some_iff, decide_eq_true_eq,
    Json.asString_eq_some]

end ImportPreview

/-! ## Selections -/

/-- What is decided about a source: it is included as a resource of the manifest, or it is
excluded. -/
structure SourceSelection where
  sourceKey : String
  rationale : String
  /-- The kind and the key of the resource of an included source. -/
  resource : Option (String × String)
  sourceKey_ok : ImportPreview.sourceKeyArg (.str sourceKey) = .ok sourceKey
  rationale_ok : ImportPreview.safeText (.str rationale) "rationale" 2000 = .ok rationale
  resource_ok : ∀ r ∈ resource, ImportPreview.text (.str r.1) "resource_kind" 100 = .ok r.1 ∧
    ImportPreview.text (.str r.2) "resource_key" 2000 = .ok r.2
deriving DecidableEq

/-- A value with the proof that a check accepts it. -/
def ImportPreview.checked {α : Type} (check : PreviewCheck α) :
    PreviewCheck {a : α // check = .ok a} :=
  match h : check with
  | .ok a => .ok ⟨a, by simp⟩
  | .error e => .error e

namespace SourceSelection

/-- The resource of a selection. -/
def resourceArg (decision kind key : Json) :
    PreviewCheck {o : Option (String × String) // ∀ r ∈ o,
      ImportPreview.text (.str r.1) "resource_kind" 100 = .ok r.1 ∧
      ImportPreview.text (.str r.2) "resource_key" 2000 = .ok r.2} :=
  if decision = .str "include" then do
    Check.that (kind ≠ .null ∧ key ≠ .null)
      (.value "included source requires an exact manifest resource")
    let kind ← ImportPreview.checked (ImportPreview.text kind "resource_kind" 100)
    let key ← ImportPreview.checked (ImportPreview.text key "resource_key" 2000)
    return ⟨some (kind.1, key.1), by
      simpa using ⟨ImportPreview.text_idem kind.2, ImportPreview.text_idem key.2⟩⟩
  else do
    Check.that (kind = .null ∧ key = .null)
      (.value "excluded source cannot name a manifest resource")
    return ⟨none, by simp⟩

/-- `SourceSelection(...)`, with the checks of `__post_init__`. -/
def init (sourceKey decision rationale resourceKind resourceKey : Json) :
    PreviewCheck SourceSelection := do
  let sourceKey ← ImportPreview.checked (ImportPreview.sourceKeyArg sourceKey)
  Check.that (decision = .str "include" ∨ decision = .str "exclude")
    (.value "source decision must be include or exclude")
  let rationale ← ImportPreview.checked (ImportPreview.safeText rationale "rationale" 2000)
  let resource ← resourceArg decision resourceKind resourceKey
  return {
    sourceKey := sourceKey.1
    rationale := rationale.1
    resource := resource.1
    sourceKey_ok := ImportPreview.text_idem sourceKey.2
    rationale_ok := ImportPreview.safeText_idem rationale.2
    resource_ok := resource.2 }

/-- The source is included. -/
def Included (s : SourceSelection) : Prop := s.resource.isSome = true

instance (s : SourceSelection) : Decidable s.Included := inferInstanceAs (Decidable (_ = _))

def toDict (s : SourceSelection) : Json :=
  .obj [("decision", .str (if s.Included then "include" else "exclude")),
    ("rationale", .str s.rationale), ("resource_key", .ofOption (s.resource.map Prod.snd)),
    ("resource_kind", .ofOption (s.resource.map Prod.fst)), ("source_key", .str s.sourceKey)]

/-- `_selection_from_dict`. -/
def fromDict (value : Json) : PreviewCheck SourceSelection :=
  match value with
  | .obj [("decision", decision), ("rationale", rationale), ("resource_key", key),
      ("resource_kind", kind), ("source_key", sourceKey)] =>
    init sourceKey decision rationale kind key
  | _ => .error (.store "stored source selection is invalid")

end SourceSelection

lemma ImportPreview.checked_of_ok {α : Type} {check : PreviewCheck α} {a : α}
    (h : check = .ok a) : ImportPreview.checked check = .ok ⟨a, h⟩ := by
  subst h
  rfl

/-! ## Candidates -/

/-- A list of checks with the proofs that they accept the results. -/
def ImportPreview.checkedList (check : Json → PreviewCheck String)
    (idem : ∀ v s, check v = .ok s → check (.str s) = .ok s) :
    List Json → PreviewCheck {l : List String // ∀ s ∈ l, check (.str s) = .ok s}
  | [] => .ok ⟨[], by simp⟩
  | v :: vs => do
    let s ← checked (check v)
    let l ← checkedList check idem vs
    return ⟨s.1 :: l.1, List.forall_mem_cons.2 ⟨idem v s.1 s.2, l.2⟩⟩

lemma ImportPreview.checkedList_map {check : Json → PreviewCheck String}
    {idem : ∀ v s, check v = .ok s → check (.str s) = .ok s} {l : List String}
    (h : ∀ s ∈ l, check (.str s) = .ok s) :
    checkedList check idem (l.map .str) = .ok ⟨l, h⟩ := by
  induction l with
  | nil => rfl
  | cons s l ih =>
    obtain ⟨hs, hl⟩ := List.forall_mem_cons.1 h
    simp only [List.map_cons, checkedList, checked_of_ok hs, ih hl]
    rfl

/-- A work item that the sources suggest. -/
structure BacklogCandidate where
  candidateId : String
  title : String
  description : String
  sourceKeys : List String
  candidateId_ok : ImportPreview.isId candidateId = true
  title_ok : ImportPreview.safeText (.str title) "title" 300 = .ok title
  description_ok : ImportPreview.safeText (.str description) "description" 4000 = .ok description
  sourceKeys_ok : ∀ s ∈ sourceKeys, ImportPreview.sourceKeyArg (.str s) = .ok s
  sourceKeys_ne : sourceKeys ≠ []
  sourceKeys_nodup : sourceKeys.Nodup
deriving DecidableEq

namespace BacklogCandidate

/-- A condition with its proof. -/
def proved (p : Prop) [Decidable p] (e : ImportPreviewError) : PreviewCheck (PLift p) :=
  if h : p then .ok ⟨h⟩ else .error e

/-- `BacklogCandidate(...)`, with the checks of `__post_init__`; `none` for source keys that are
not a tuple. -/
def init (candidateId title description : Json) (sourceKeys : Option (List Json)) :
    PreviewCheck BacklogCandidate := do
  let candidateId ← ImportPreview.checked (ImportPreview.idArg candidateId "candidate_id")
  let title ← ImportPreview.checked (ImportPreview.safeText title "title" 300)
  let description ← ImportPreview.checked (ImportPreview.safeText description "description" 4000)
  let keys ← Check.found (sourceKeys.filter (· ≠ []))
    (.value "candidate source_keys are required")
  let keys ← ImportPreview.checkedList ImportPreview.sourceKeyArg
    (fun _ _ h => ImportPreview.text_idem h) keys
  let ne ← proved (keys.1 ≠ []) (.value "candidate source_keys are required")
  let nodup ← proved keys.1.Nodup (.value "candidate source_keys must be unique")
  return {
    candidateId := candidateId.1
    title := title.1
    description := description.1
    sourceKeys := keys.1
    candidateId_ok := (ImportPreview.matching_ok.1 candidateId.2).2
    title_ok := ImportPreview.safeText_idem title.2
    description_ok := ImportPreview.safeText_idem description.2
    sourceKeys_ok := keys.2
    sourceKeys_ne := ne.down
    sourceKeys_nodup := nodup.down }

def toDict (c : BacklogCandidate) : Json :=
  .obj [("candidate_id", .str c.candidateId), ("description", .str c.description),
    ("source_keys", .arr (c.sourceKeys.map .str)), ("status", .str "candidate"),
    ("title", .str c.title)]

/-- `_candidate_from_dict`. -/
def fromDict (value : Json) : PreviewCheck BacklogCandidate :=
  match value with
  | .obj [("candidate_id", candidateId), ("description", description), ("source_keys", keys),
      ("status", status), ("title", title)] =>
    if status = .str "candidate" then init candidateId title description keys.asArray
    else .error (.store "stored backlog candidate is invalid")
  | _ => .error (.store "stored backlog candidate is invalid")

lemma proved_of {p : Prop} [Decidable p] {e : ImportPreviewError} (h : p) :
    proved p e = .ok ⟨h⟩ := dif_pos h

end BacklogCandidate

/-! ## The resolution of a session -/

/-- `ImportQuestionResolution`: the answers of a ready session, pinned by a digest. -/
structure ImportQuestionResolution where
  importId : String
  discoveryDigest : String
  discoveryReport : Json
  questionnaireDigest : String
  sessionVersion : ℕ
  answers : List (String × Json)
  resolutionDigest : String
deriving DecidableEq

/-- What the digest of a resolution covers. -/
def resolutionBody (importId : String) (s : QuestionSession) : Json :=
  .obj [("answers", .obj s.answers), ("discovery_digest", .str s.discoveryDigest),
    ("discovery_report", s.discoveryReport), ("import_id", .str importId),
    ("questionnaire_digest", .str s.questionnaireDigest), ("session_version", .int s.version)]

namespace ImportPreview

/-- The identity of a source of the report. -/
def sourceIdentity (result : Json) : PreviewCheck (String × String × String) := do
  Check.that (result.asObject.isSome = true) (.conflict "discovery source result is invalid")
  let kind ← text ((result.get? "source_kind").getD .null) "source_kind" 100
  let sourceId ← text ((result.get? "source_id").getD .null) "source_id" 128
  let digest ← digestValue ((result.get? "configuration_digest").getD .null)
    "configuration_digest"
  return (kind, sourceId, digest)

/-- The keys of the sources; `seen` are the identities before. -/
def sourceKeysFrom (seen : List (String × String × String)) :
    List Json → PreviewCheck (List String)
  | [] => .ok []
  | result :: results => do
    let identity ← sourceIdentity result
    let keys ← sourceKeysFrom (identity :: seen) results
    return (identity.1 ++ "/" ++ identity.2.1 ++ "/" ++ identity.2.2 ++ "/" ++
      decimal (seen.count identity + 1)) :: keys

/-- `_report_source_keys`. -/
def reportSourceKeys (report : Json) : PreviewCheck (List String) := do
  let results ← Check.found ((report.get? "results").bind Json.asArray)
    (.conflict "discovery report results are invalid")
  let keys ← sourceKeysFrom [] results
  return keys.insertionSort (· ≤ ·)

/-- `_sponsors`. -/
def sponsorsOf (answers : List (String × Json)) : PreviewCheck (List String) := do
  let values ← Check.found (((Json.obj answers).get? "project.sponsors").bind Json.asArray)
    (.conflict "resolved project sponsors are missing")
  Check.that (values ≠ []) (.conflict "resolved project sponsors are missing")
  let sponsors ← values.mapM actor
  Check.that sponsors.Nodup (.conflict "resolved project sponsors are ambiguous")
  return sponsors.insertionSort (· ≤ ·)

/-! ## Checks of a preview -/

/-- `a or b`, for texts that may be missing. -/
def orElse (a b : Option Json) : Option Json :=
  if a = none ∨ a = some .null ∨ a = some (.str "") then b else a

/-- `_validate_project_identity`. -/
def validateProjectIdentity (report : Json) (answers : List (String × Json))
    (manifest : ProjectManifest) : PreviewCheck Unit :=
  Check.that
    (orElse (report.get? "project_id_hint") ((Json.obj answers).get? "project.id") =
        some (.str manifest.projectId) ∧
      orElse (report.get? "display_name_hint") ((Json.obj answers).get? "project.display-name") =
        some (.str manifest.displayName))
    (.conflict "manifest identity disagrees with resolved answers")

/-- `_validate_selections`. -/
def validateSelections (sourceKeys : List String) (selections : List SourceSelection)
    (manifest : ProjectManifest) : PreviewCheck Unit := do
  Check.that (selections.map SourceSelection.sourceKey = sourceKeys)
    (.conflict "every discovered source requires exactly one ordered decision")
  selections.forM fun item =>
    Check.that (∀ r ∈ item.resource, r ∈ manifest.resources.map ProjectManifest.identityOf)
      (.conflict ("included source " ++ item.sourceKey ++ " has no exact manifest resource"))

/-- The candidates that are selected. -/
def selectedCandidates (candidates : List BacklogCandidate) (selected : List String) :
    List BacklogCandidate := candidates.filter fun c => c.candidateId ∈ selected

/-- `_validate_candidates`, for candidates in the order of their identifiers. -/
def validateCandidates (sourceKeys : List String) (candidates : List BacklogCandidate)
    (selected included : List String) : PreviewCheck Unit := do
  let ids := candidates.map BacklogCandidate.candidateId
  Check.that (ids.Pairwise (· < ·)) (.conflict "candidate ids must be sorted and unique")
  Check.that (selected.Pairwise (· < ·))
    (.conflict "selected candidate ids must be sorted and unique")
  Check.that (∀ c ∈ candidates, ∀ key ∈ c.sourceKeys, key ∈ sourceKeys)
    (.conflict "candidate references an unknown source")
  Check.that (∀ id ∈ selected, id ∈ ids) (.conflict "selected candidate does not exist")
  Check.that (∀ c ∈ selectedCandidates candidates selected, ∀ key ∈ c.sourceKeys, key ∈ included)
    (.conflict "selected candidate depends on an excluded source")

/-- The keys of the included sources. -/
def includedKeys (selections : List SourceSelection) : List String :=
  (selections.filter (·.Included)).map SourceSelection.sourceKey

/-- What the digest of a preview covers. -/
def previewBody (resolutionDigest manifestDigest : String) (selections : List SourceSelection)
    (candidates : List BacklogCandidate) (selected : List String) : Json :=
  .obj [("backlog_candidates", .arr (candidates.map BacklogCandidate.toDict)),
    ("manifest_digest", .str manifestDigest), ("resolution_digest", .str resolutionDigest),
    ("selected_candidate_ids", .arr (selected.map .str)),
    ("source_selections", .arr (selections.map SourceSelection.toDict))]

end ImportPreview

end AgenticMesh
