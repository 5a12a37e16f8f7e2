import AgenticMesh.Base.Arguments
import Mathlib.Data.List.Sort

/-!
# The questions of a project import

A discovery report lists what is known about a project before it is imported.
What it leaves open is asked: `buildImportQuestions` derives the questionnaire of
a report.  A question and an answer are stored as JSON and are checked again
whenever they are read; both checks accept what they return.
-/

namespace AgenticMesh

/-- The exceptions of the question store. -/
inductive ImportQuestionError where
  | value (message : String)
  | notFound (message : String)
  | conflict (message : String)
  | notReady (message : String)
  /-- `ImportQuestionStoreError`. -/
  | store (message : String)
deriving DecidableEq

/-! ## The discovery report -/

/-- What discovery found of a source. -/
structure SourceDiscoveryResult where
  sourceKind : String
  sourceId : String
  locator : String
  status : String
  credentialConfigured : Bool
  configurationDigest : String
  summary : Json

/-- An issue that discovery reports. -/
structure DiscoveryIssue where
  code : String
  sourceKind : Option String
  sourceId : Option String
  message : String

/-- `ImportDiscoveryReport`: the results and the issues. -/
structure ImportDiscoveryReport where
  projectIdHint : Option String
  displayNameHint : Option String
  attemptedAll : Bool
  complete : Bool
  results : List SourceDiscoveryResult
  issues : List DiscoveryIssue
  digest : String

def SourceDiscoveryResult.toDict (r : SourceDiscoveryResult) : Json :=
  .obj [("configuration_digest", .str r.configurationDigest),
    ("credential_configured", .bool r.credentialConfigured), ("locator", .str r.locator),
    ("source_id", .str r.sourceId), ("source_kind", .str r.sourceKind), ("status", .str r.status),
    ("summary", r.summary)]

def DiscoveryIssue.toDict (i : DiscoveryIssue) : Json :=
  .obj [("code", .str i.code), ("message", .str i.message), ("source_id", .ofOption i.sourceId),
    ("source_kind", .ofOption i.sourceKind)]

/-- `to_dict` without the digest. -/
def ImportDiscoveryReport.content (r : ImportDiscoveryReport) : List (String × Json) := [
  ("attempted_all", .bool r.attemptedAll), ("complete", .bool r.complete),
  ("display_name_hint", .ofOption r.displayNameHint),
  ("issues", .arr (r.issues.map DiscoveryIssue.toDict)),
  ("project_id_hint", .ofOption r.projectIdHint),
  ("results", .arr (r.results.map SourceDiscoveryResult.toDict))]

/-! ## Questions -/

/-- What an answer may be. -/
inductive AnswerKind where
  | text
  | identifier
  | stringList
  | credentialPolicy
deriving DecidableEq

namespace AnswerKind

/-- The name of a kind. -/
def name : AnswerKind → String
  | text => "text"
  | identifier => "identifier"
  | stringList => "string-list"
  | credentialPolicy => "credential-policy"

/-- A member of `_ANSWER_KINDS`. -/
def ofJson (value : Json) : Option AnswerKind :=
  [text, identifier, stringList, credentialPolicy].find? fun kind => Json.str kind.name = value

@[simp] lemma ofJson_name (kind : AnswerKind) : ofJson (.str kind.name) = some kind := by
  cases kind <;> decide

end AnswerKind

/-- `_QUESTION_ID`. -/
def isQuestionId (s : String) : Bool :=
  fullmatch isSlugStart (fun c => isSlugStart c || c == '.' || c == '-') 199 s

/-- `_persisted_text`. -/
def persistedText (value : Json) (field : String) (maximum : ℕ) :
    Except ImportQuestionError String :=
  (safeText value field maximum " must not contain a secret value").mapError .value

/-- A question in its normalized form. -/
structure ImportQuestion where
  questionId : String
  category : String
  prompt : String
  answerKind : AnswerKind
  sourceKind : Option String
  sourceId : Option String
  issueCode : Option String
  questionId_ok : isQuestionId questionId = true
  category_ok : isSlug category = true
  prompt_ok : persistedText (.str prompt) "prompt" 1000 = .ok prompt
  optional_ok : ∀ field ∈ [sourceKind, sourceId, issueCode], ∀ s ∈ field, isSlug s = true
deriving DecidableEq

lemma persistedText_idem {value : Json} {field field' : String} {maximum : ℕ} {t : String}
    (h : persistedText value field maximum = .ok t) :
    persistedText (.str t) field' maximum = .ok t := by
  unfold persistedText at h ⊢
  cases hs : safeText value field maximum " must not contain a secret value" with
  | error e => simp [hs, Except.mapError] at h
  | ok s =>
    obtain rfl : s = t := by simpa [hs, Except.mapError] using h
    rw [safeText_idem hs le_rfl]
    rfl

/-- A string that a pattern accepts. -/
def matching (pattern : String → Bool) (value : Json) (message : String) :
    Except ImportQuestionError {s : String // pattern s = true} :=
  match value.asString with
  | some s => if h : pattern s = true then .ok ⟨s, h⟩ else .error (.value message)
  | none => .error (.value message)

/-- `_question_id`. -/
def questionIdArg (value : Json) :
    Except ImportQuestionError {s : String // isQuestionId s = true} :=
  matching isQuestionId value "question_id is invalid"

/-- `_identifier`. -/
def identifierArg (value : Json) (field : String) :
    Except ImportQuestionError {s : String // isSlug s = true} :=
  matching isSlug value (field ++ " is invalid")

/-- An identifier that may be missing. -/
def optionalArg (value : Json) (field : String) :
    Except ImportQuestionError {o : Option String // ∀ s ∈ o, isSlug s = true} :=
  match value with
  | .null => .ok ⟨none, by simp⟩
  | value => (identifierArg value field).map fun s => ⟨some s.1, by simpa using s.2⟩

/-- The prompt of a question. -/
def promptArg (value : Json) :
    Except ImportQuestionError {s : String // persistedText (.str s) "prompt" 1000 = .ok s} :=
  match h : persistedText value "prompt" 1000 with
  | .ok s => .ok ⟨s, persistedText_idem h⟩
  | .error e => .error e

namespace ImportQuestion

/-- `ImportQuestion(...)`, with the checks of `__post_init__`. -/
def init (questionId category prompt answerKind sourceKind sourceId issueCode : Json) :
    Except ImportQuestionError ImportQuestion := do
  let questionId ← questionIdArg questionId
  let category ← identifierArg category "category"
  let prompt ← promptArg prompt
  let answerKind ← Check.found (AnswerKind.ofJson answerKind) (.value "answer_kind is invalid")
  let sourceKind ← optionalArg sourceKind "source_kind"
  let sourceId ← optionalArg sourceId "source_id"
  let issueCode ← optionalArg issueCode "issue_code"
  return {
    questionId := questionId.1
    category := category.1
    prompt := prompt.1
    answerKind
    sourceKind := sourceKind.1
    sourceId := sourceId.1
    issueCode := issueCode.1
    questionId_ok := questionId.2
    category_ok := category.2
    prompt_ok := prompt.2
    optional_ok := by simpa using ⟨sourceKind.2, sourceId.2, issueCode.2⟩ }

def toDict (q : ImportQuestion) : Json :=
  .obj [("answer_kind", .str q.answerKind.name), ("category", .str q.category),
    ("issue_code", .ofOption q.issueCode), ("prompt", .str q.prompt),
    ("question_id", .str q.questionId), ("source_id", .ofOption q.sourceId),
    ("source_kind", .ofOption q.sourceKind)]

/-- `_question_from_dict`. -/
def fromDict (value : Json) : Except ImportQuestionError ImportQuestion :=
  match value with
  | .obj [("answer_kind", answerKind), ("category", category), ("issue_code", issueCode),
      ("prompt", prompt), ("question_id", questionId), ("source_id", sourceId),
      ("source_kind", sourceKind)] =>
    init questionId category prompt answerKind sourceKind sourceId issueCode
  | _ => .error (.store "stored question is invalid")

lemma matching_str {pattern : String → Bool} {s message : String} (h : pattern s = true) :
    matching pattern (.str s) message = .ok ⟨s, h⟩ := by
  simp [matching, Json.asString, h]

lemma optionalArg_ofOption {o : Option String} {field : String}
    (h : ∀ s ∈ o, isSlug s = true) : optionalArg (.ofOption o) field = .ok ⟨o, h⟩ := by
  cases o with
  | none => rfl
  | some s =>
    have hs : isSlug s = true := h s rfl
    simp only [Json.ofOption, optionalArg, identifierArg, matching_str hs]
    rfl

lemma promptArg_str {s : String} (h : persistedText (.str s) "prompt" 1000 = .ok s) :
    promptArg (.str s) = .ok ⟨s, h⟩ := by
  unfold promptArg
  split
  · next t ht =>
    obtain rfl : s = t := by simpa [h] using ht
    rfl
  · next e he => simp [h] at he

/-- A stored question is read back. -/
lemma fromDict_toDict (q : ImportQuestion) : fromDict q.toDict = .ok q := by
  obtain ⟨id, category, prompt, kind, sourceKind, sourceId, issueCode, hid, hcat, hprompt,
    hopt⟩ := q
  simp only [List.mem_cons, List.not_mem_nil, or_false, forall_eq_or_imp, forall_eq] at hopt
  obtain ⟨hkind, hsource, hissue⟩ := hopt
  simp only [toDict, fromDict, init, questionIdArg, identifierArg, matching_str hid,
    matching_str hcat, promptArg_str hprompt, AnswerKind.ofJson_name, Check.found,
    optionalArg_ofOption hkind, optionalArg_ofOption hsource, optionalArg_ofOption hissue]
  rfl

end ImportQuestion

/-! ## Answers -/

/-- `_answer_value` of a credential policy. -/
def credentialAnswer (value : Json) : Except ImportQuestionError Json := do
  Check.that (value = .str "none-public" ∨ (value.asString.bind reference?).isSome)
    (.value "credential answer must be an external reference or none-public")
  return value

/-- `_answer_value` of a list of strings. -/
def listAnswer (value : Json) : Except ImportQuestionError Json := do
  let items ← Check.found value.asArray
    (.value "string-list answer must contain one to 100 values")
  Check.that (1 ≤ items.length ∧ items.length ≤ 100)
    (.value "string-list answer must contain one to 100 values")
  let normalized ← items.mapM fun item => persistedText item "answer item" 200
  Check.that normalized.Nodup (.value "string-list answer values must be unique")
  return .arr (normalized.map .str)

/-- `_answer_value`. -/
def answerValue (kind : AnswerKind) (value : Json) : Except ImportQuestionError Json :=
  match kind with
  | .identifier => (identifierArg value "answer").map fun s => .str s.1
  | .text => (persistedText value "answer" 4000).map .str
  | .credentialPolicy => credentialAnswer value
  | .stringList => listAnswer value

lemma map_ok {ε α β : Type} {t : Except ε α} {f : α → β} {b : β} :
    t.map f = .ok b ↔ ∃ a, t = .ok a ∧ f a = b := by
  cases t <;> simp [Except.map]

lemma mapM_persistedText_idem {items : List Json} {texts : List String} {field : String}
    {maximum : ℕ} (h : items.mapM (fun item => persistedText item field maximum) = .ok texts) :
    (texts.map Json.str).mapM (fun item => persistedText item field maximum) = .ok texts := by
  induction items generalizing texts with
  | nil =>
    obtain rfl := Check.pure_ok.1 h
    rfl
  | cons item items ih =>
    simp only [List.mapM_cons, Check.bind_ok, Check.pure_ok] at h
    obtain ⟨t, ht, ts, hts, rfl⟩ := h
    simp only [List.map_cons, List.mapM_cons, Check.bind_ok, Check.pure_ok]
    exact ⟨t, persistedText_idem ht, ts, ih hts, rfl⟩

lemma listAnswer_ok {value answer : Json} : listAnswer value = .ok answer ↔
    ∃ items texts, value = .arr items ∧ (1 ≤ items.length ∧ items.length ≤ 100) ∧
      items.mapM (fun item => persistedText item "answer item" 200) = .ok texts ∧ texts.Nodup ∧
      .arr (texts.map .str) = answer := by
  simp only [listAnswer, Check.bind_ok, Check.found_ok, Check.that_ok, Check.pure_ok]
  constructor
  · rintro ⟨items, hitems, -, hlen, texts, htexts, -, hnodup, rfl⟩
    refine ⟨items, texts, ?_, hlen, htexts, hnodup, rfl⟩
    cases value with
    | arr xs => rw [Option.some.inj hitems]
    | _ => simp [Json.asArray] at hitems
  · rintro ⟨items, texts, rfl, hlen, htexts, hnodup, rfl⟩
    exact ⟨items, rfl, (), hlen, texts, htexts, (), hnodup, rfl⟩

/-- A normalized answer is its own normalized answer. -/
lemma answerValue_idem {kind : AnswerKind} {value answer : Json}
    (h : answerValue kind value = .ok answer) : answerValue kind answer = .ok answer := by
  cases kind with
  | identifier =>
    obtain ⟨s, -, rfl⟩ := map_ok.1 h
    exact map_ok.2 ⟨s, ImportQuestion.matching_str s.2, rfl⟩
  | text =>
    obtain ⟨s, hs, rfl⟩ := map_ok.1 h
    exact map_ok.2 ⟨s, persistedText_idem hs, rfl⟩
  | credentialPolicy =>
    have hvalue := h
    simp only [answerValue, credentialAnswer, Check.bind_ok, Check.that_ok, Check.pure_ok] at hvalue
    obtain ⟨-, -, rfl⟩ := hvalue
    exact h
  | stringList =>
    obtain ⟨items, texts, -, hlen, htexts, hnodup, rfl⟩ := listAnswer_ok.1 h
    refine listAnswer_ok.2 ⟨_, texts, rfl, ?_, mapM_persistedText_idem htexts, hnodup, rfl⟩
    have hlength : texts.length = items.length := Check.length_of_mapM htexts
    rw [List.length_map, hlength]
    exact hlen

/-! ## The questionnaire of a report -/

/-- `_validate_report`: the report as it is stored. -/
def validateReport (report : ImportDiscoveryReport) : Except ImportQuestionError Json := do
  Check.that (isDigest report.digest = true) (.value "discovery report is invalid")
  Check.that (Json.digest (.obj report.content) = report.digest)
    (.conflict "discovery report digest does not match its content")
  return .obj (Json.insertField "digest" (.str report.digest) report.content)

/-- A question of the questionnaire. -/
def ask (questionId category prompt : String) (kind : AnswerKind)
    (source : Option String × Option String × Option String) :
    Except ImportQuestionError ImportQuestion :=
  ImportQuestion.init (.str questionId) (.str category) (.str prompt) (.str kind.name)
    (.ofOption source.1)
    (.ofOption source.2.1) (.ofOption source.2.2)

/-- A question that is not about a source. -/
def askProject (questionId category prompt : String) (kind : AnswerKind) :
    Except ImportQuestionError ImportQuestion :=
  ask questionId category prompt kind (none, none, none)

/-- The key under which the declarations of a source are counted. -/
def SourceDiscoveryResult.key (r : SourceDiscoveryResult) : String × String :=
  (r.sourceKind, r.sourceId)

/-- The questions about one declaration of a source. -/
def sourceQuestions (r : SourceDiscoveryResult) (base label : String) :
    List (Except ImportQuestionError ImportQuestion) :=
  let source := (some r.sourceKind, some r.sourceId, none)
  [ask (base ++ ".purpose") "source" ("What project purpose does " ++ label ++ " serve?") .text
      source,
    ask (base ++ ".owner") "ownership" ("Who owns and authorizes access to " ++ label ++ "?") .text
      source,
    ask (base ++ ".credential-policy") "credential"
      ("Which external credential reference accesses " ++ label ++ ", or is it none-public?")
      .credentialPolicy source] ++
  if r.sourceKind = "repository" ∧ ((r.summary.get? "default_branch").getD .null = .null ∨
      r.summary.get? "default_branch_matches_hint" = some (.bool false)) then
    [ask (base ++ ".default-branch") "source"
      ("Which default branch should " ++ label ++ " use?") .text source]
  else []

/-- The questions about the sources; `seen` are the declarations before. -/
def declarationQuestions (all : List SourceDiscoveryResult) (seen : List (String × String)) :
    List SourceDiscoveryResult → List (Except ImportQuestionError ImportQuestion)
  | [] => []
  | r :: results =>
    let declaration := decimal (seen.count r.key + 1)
    let base := "source." ++ r.sourceKind ++ "." ++ r.sourceId
    let label := r.sourceKind ++ " " ++ r.sourceId
    (if 1 < (all.map SourceDiscoveryResult.key).count r.key then
      sourceQuestions r (base ++ ".declaration-" ++ declaration)
        (label ++ " declaration " ++ declaration)
    else sourceQuestions r base label) ++ declarationQuestions all (r.key :: seen) results

/-- The identifier of the question about an issue. -/
def DiscoveryIssue.questionId (i : DiscoveryIssue) : String :=
  match i.sourceKind, i.sourceId with
  | some kind, some id => "source." ++ kind ++ "." ++ id ++ ".disposition." ++ i.code
  | _, _ => "discovery.disposition." ++ i.code

/-- The questions about the issues, one for each identifier. -/
def issueQuestions (seen : List String) :
    List DiscoveryIssue → List (Except ImportQuestionError ImportQuestion)
  | [] => []
  | i :: issues =>
    if i.questionId ∈ seen then issueQuestions seen issues
    else
      ask i.questionId "discovery"
        ("How must the discovery issue '" ++ i.code ++ "' be resolved or dispositioned?") .text
        (i.sourceKind, i.sourceId, some i.code) :: issueQuestions (i.questionId :: seen) issues

/-- The questions that a report leaves open, in the order in which they are added. -/
def openQuestions (report : ImportDiscoveryReport) :
    List (Except ImportQuestionError ImportQuestion) :=
  (if report.projectIdHint = none then
    [askProject "project.id" "project" "What is the canonical project id?" .identifier] else []) ++
  (if report.displayNameHint = none then
    [askProject "project.display-name" "project"
      "What user-facing project name should be used?" .text] else []) ++
  (if report.results.isEmpty then
    [askProject "sources.declarations" "source"
      "Which repositories, document roots, and collaboration bindings must be imported?" .text]
    else []) ++
  [askProject "project.intent" "project"
      "What outcome, scope, and explicit exclusions define this project?" .text,
    askProject "project.owner" "ownership" "Who is accountable for the imported project?" .text,
    askProject "project.sponsors" "ownership"
      "Which sponsor identities may approve project gates?" .stringList] ++
  declarationQuestions report.results [] report.results ++
  issueQuestions [] report.issues ++
  [askProject "deployment.strategy" "deployment"
      "How is the project built, released, and rolled back?" .text,
    askProject "deployment.environments" "deployment"
      "Which deployment environments are in scope?" .stringList,
    askProject "deployment.owner" "deployment"
      "Who owns deployment and operational acceptance?" .text]

/-- `sorted(questions, key=lambda item: item.question_id)`. -/
def sortQuestions (questions : List ImportQuestion) : List ImportQuestion :=
  questions.insertionSort fun a b => a.questionId ≤ b.questionId

/-- `build_import_questions`. -/
def buildImportQuestions (report : ImportDiscoveryReport) :
    Except ImportQuestionError (List ImportQuestion) := do
  let _ ← validateReport report
  let questions ← (openQuestions report).mapM id
  Check.that ((sortQuestions questions).map ImportQuestion.questionId).Nodup
    (.conflict "generated question ids are ambiguous")
  return sortQuestions questions

end AgenticMesh
