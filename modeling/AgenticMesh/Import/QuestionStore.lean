import AgenticMesh.Base.Run
import AgenticMesh.Base.Triple
import AgenticMesh.Import.Question
import AgenticMesh.Schema

/-!
# The question store

A session asks the questions of one discovery report.  `start` opens it,
`addFollowups` adds questions and `answer` records answers; every change raises
the version of the session by one and appends the event of that version.  A
session is validated whenever it is read.  Each operation is one transaction
that holds the lock of the session row.
-/

namespace AgenticMesh

/-! ## Tables -/

/-- The status of a session. -/
inductive SessionStatus where
  | questioning
  | ready
deriving DecidableEq

/-- `project_import_question_sessions`. -/
structure QuestionSession where
  importId : String
  discoveryDigest : String
  discoveryReport : Json
  questionnaireDigest : String
  status : SessionStatus
  version : ℕ
  questions : List Json
  answers : List (String × Json)
  createdBy : String
  createdAt : Time
  updatedAt : Time
  readyAt : Option Time
deriving DecidableEq

def QuestionSession.key (s : QuestionSession) : String := s.importId

/-- What happens in a session. -/
inductive QuestionEventKind where
  | questionsAdded
  | answersRecorded
deriving DecidableEq

/-- `project_import_question_events`. -/
structure QuestionEvent where
  importId : String
  sequence : ℕ
  eventKind : QuestionEventKind
  payload : Json
  actorId : String
  rationale : Option String
deriving DecidableEq

def QuestionEvent.key (e : QuestionEvent) : String × ℕ := (e.importId, e.sequence)

/-- The tables of the question sessions. -/
structure QuestionDb where
  sessions : Table QuestionSession QuestionSession.key := ∅
  events : Table QuestionEvent QuestionEvent.key := ∅

/-- The events of an import, oldest first. -/
def QuestionDb.eventsOf (db : QuestionDb) (importId : String) : List QuestionEvent :=
  db.events.select fun e => e.importId = importId

/-! ## Reading a session -/

/-- `ImportQuestionState`: a session, as it is returned. -/
structure ImportQuestionState where
  importId : String
  discoveryDigest : String
  discoveryReport : Json
  questionnaireDigest : String
  status : SessionStatus
  version : ℕ
  questions : List ImportQuestion
  answers : List (String × Json)
  createdBy : String
  createdAt : Time
  updatedAt : Time
  readyAt : Option Time
deriving DecidableEq

/-- The question with an identifier. -/
def definition (questions : List ImportQuestion) (questionId : String) : Option ImportQuestion :=
  questions.find? fun q => q.questionId = questionId

namespace ImportQuestionStore

/-- A stored answer has a question, is valid and is in its normalized form. -/
def checkAnswer (questions : List ImportQuestion) (answer : String × Json) :
    Except ImportQuestionError Unit := do
  let question ← Check.found (definition questions answer.1)
    (.store "stored answer has no question")
  let normalized ← (answerValue question.answerKind answer.2).mapError fun _ =>
    .store "stored answer is invalid"
  Check.that (normalized = answer.2) (.store "stored answer is not canonical")

/-- The validation of `_read`. -/
def readSession (row : QuestionSession) : Except ImportQuestionError ImportQuestionState := do
  Check.that (row.discoveryReport.get? "digest" = some (.str row.discoveryDigest) ∧
    (row.discoveryReport.without "digest").digest = row.discoveryDigest)
    (.store "stored discovery report is invalid")
  let questions ← row.questions.mapM ImportQuestion.fromDict
  Check.that ((Json.arr (questions.map ImportQuestion.toDict)).digest = row.questionnaireDigest)
    (.store "stored questionnaire digest is invalid")
  Check.that (questions.map ImportQuestion.questionId).Nodup
    (.store "stored question state is invalid")
  row.answers.forM (checkAnswer questions)
  Check.that ((row.status = .ready ↔ row.answers.length = questions.length) ∧
    (row.readyAt.isSome = true ↔ row.answers.length = questions.length))
    (.store "stored readiness state is inconsistent")
  return {
    importId := row.importId
    discoveryDigest := row.discoveryDigest
    discoveryReport := row.discoveryReport
    questionnaireDigest := row.questionnaireDigest
    status := row.status
    version := row.version
    questions
    answers := row.answers
    createdBy := row.createdBy
    createdAt := row.createdAt
    updatedAt := row.updatedAt
    readyAt := row.readyAt }

/-- A transaction of the question store. -/
abbrev QuestionTx := Tx QuestionDb ImportQuestionError

/-- `_read`. -/
def read (importId : String) : QuestionTx ImportQuestionState := do
  let row ← Tx.demand (fun db => db.sessions.lookup importId)
    (.notFound "import question session was not found")
  Tx.ofExcept (readSession row)

/-! ## Arguments -/

/-- `_uuid`. -/
def uuidArg (value : String) : QuestionTx String :=
  Tx.demand (fun _ => uuid? value) (.value "import_id must be a UUID")

/-- `_actor`. -/
def actorArg (value : String) : QuestionTx String :=
  Tx.ofExcept ((plainText (.str value) "actor_id" 256).mapError .value)

/-- `_positive_integer`. -/
def positiveArg (value : ℤ) (field : String) : QuestionTx Unit :=
  Tx.require (1 ≤ value) (.value (field ++ " must be a positive integer"))

/-- The rationale of an operation. -/
def rationaleArg (value : String) : QuestionTx String :=
  Tx.ofExcept (persistedText (.str value) "rationale" 2000)

/-- `_expected_version`. -/
def expectedVersion (state : ImportQuestionState) (expected : ℤ) : QuestionTx Unit :=
  Tx.require ((state.version : ℤ) = expected)
    (.conflict ("import question version changed: expected " ++ decimal expected.toNat ++
      ", found " ++ decimal state.version))

/-- `_event`. -/
def event (e : QuestionEvent) (failure : String) : QuestionTx Unit :=
  Tx.attempt (fun db => (db.events.insert e).map fun events => { db with events })
    (.store failure)

/-! ## Operations -/

/-- The row that `start` inserts. -/
def newSession (importId : String) (report : ImportDiscoveryReport) (payload : Json)
    (questions : List ImportQuestion) (actorId : String) (now : Time) : QuestionSession where
  importId
  discoveryDigest := report.digest
  discoveryReport := payload
  questionnaireDigest := (Json.arr (questions.map ImportQuestion.toDict)).digest
  status := .questioning
  version := 1
  questions := questions.map ImportQuestion.toDict
  answers := []
  createdBy := actorId
  createdAt := now
  updatedAt := now
  readyAt := none

/-- `INSERT ... ON CONFLICT (import_id) DO NOTHING`. -/
def insertSession (row : QuestionSession) (db : QuestionDb) : QuestionDb :=
  match db.sessions.insert row with
  | some sessions => { db with sessions }
  | none => db

/-- `start`. -/
def start (importId : String) (report : ImportDiscoveryReport) (actorId : String) (now : Time) :
    QuestionTx ImportQuestionState := do
  let importId ← uuidArg importId
  let actorId ← actorArg actorId
  let payload ← Tx.ofExcept (validateReport report)
  let questions ← Tx.ofExcept (buildImportQuestions report)
  Tx.modify (insertSession (newSession importId report payload questions actorId now))
  let state ← read importId
  -- The summary of an inspected document root holds a tuple, which is not equal to the list read
  -- back: the source refuses such a report, this model accepts it.
  Tx.require (state.discoveryDigest = report.digest ∧ state.discoveryReport = payload)
    (.conflict "import id is already pinned to another discovery report")
  return state

/-- The questions that are new, and all of them. -/
def mergeFollowups (existing changed : List ImportQuestion) :
    List ImportQuestion → Except ImportQuestionError (List ImportQuestion × List ImportQuestion)
  | [] => .ok (existing, changed)
  | item :: items =>
    match definition existing item.questionId with
    | some prior =>
      if prior = item then mergeFollowups existing changed items
      else .error (.conflict ("question " ++ item.questionId ++ " conflicts with its definition"))
    | none => mergeFollowups (existing ++ [item]) (changed ++ [item]) items

/-- The columns of a session with other questions. -/
def withQuestions (s : QuestionSession) (questions : List ImportQuestion)
    (version : ℕ) (now : Time) : QuestionSession :=
  { s with
    questions := questions.map ImportQuestion.toDict
    questionnaireDigest := (Json.arr (questions.map ImportQuestion.toDict)).digest
    status := .questioning
    version
    updatedAt := now
    readyAt := none }

/-- The statement of `add_followups` that writes the questions. -/
def setQuestions (state : ImportQuestionState) (questions : List ImportQuestion) (now : Time)
    (db : QuestionDb) : QuestionDb :=
  { db with
    sessions := db.sessions.update
      (fun s => s.importId = state.importId ∧ s.version = state.version)
      { set := fun s => withQuestions s questions (state.version + 1) now } }

/-- `add_followups`, for new questions. -/
def writeFollowups (state : ImportQuestionState) (existing changed : List ImportQuestion)
    (actorId rationale : String) (expected : ℤ) (now : Time) :
    QuestionTx ImportQuestionState := do
  expectedVersion state expected
  Tx.modify (setQuestions state (sortQuestions existing) now)
  event {
    importId := state.importId
    sequence := state.version + 1
    eventKind := .questionsAdded
    payload := .obj [("questions", .arr (changed.map ImportQuestion.toDict))]
    actorId
    rationale := some rationale } "follow-up question operation failed"
  read state.importId

/-- `add_followups`. -/
def addFollowups (importId : String) (questions : List ImportQuestion) (actorId rationale : String)
    (expected : ℤ) (now : Time) : QuestionTx ImportQuestionState := do
  let importId ← uuidArg importId
  let actorId ← actorArg actorId
  let rationale ← rationaleArg rationale
  positiveArg expected "expected_version"
  Tx.require (questions ≠ []) (.value "follow-up questions are required")
  Tx.require (questions.length ≤ 100) (.value "too many follow-up questions")
  let state ← read importId
  let merged ← Tx.ofExcept (mergeFollowups state.questions [] questions)
  if merged.2 = [] then return state
  else writeFollowups state merged.1 merged.2 actorId rationale expected now

/-- An answer as the caller gives it. -/
structure AnswerDraft where
  value : Json
  replace : Bool := false
  correctionReason : Option String := none
  correctionReason_ok : ∀ s ∈ correctionReason,
    persistedText (.str s) "correction_reason" 1000 = .ok s := by simp

/-- An answer replaces one exactly when it says so and why. -/
def checkDraft (questionId : String) (previous : Option Json) (draft : AnswerDraft) :
    Except ImportQuestionError Unit :=
  match previous with
  | some _ => Check.that (draft.replace = true ∧ draft.correctionReason.isSome = true)
      (.conflict ("question " ++ questionId ++ " already has a different answer"))
  | none => Check.that (draft.replace = false)
      (.conflict ("question " ++ questionId ++ " has no answer to replace"))

/-- The record of an answer in the payload of its event. -/
def answerRecord (questionId : String) (value : Json) (previous : Option Json)
    (draft : AnswerDraft) : Json :=
  .obj [("correction_reason", .ofOption draft.correctionReason), ("question_id", .str questionId),
    ("replaced_value", previous.getD .null), ("value", value)]

/-- The answers after the drafts, and the records of those that are new. -/
def recordAnswers (questions : List ImportQuestion) (current : List (String × Json))
    (recorded : List Json) :
    List (String × AnswerDraft) → Except ImportQuestionError (List (String × Json) × List Json)
  | [] => .ok (current, recorded)
  | (questionId, draft) :: drafts => do
    let question ← Check.found (definition questions questionId)
      (.conflict ("question " ++ questionId ++ " is not part of this session"))
    let value ← answerValue question.answerKind draft.value
    let previous := (Json.obj current).get? questionId
    if previous = some value then recordAnswers questions current recorded drafts
    else do
      checkDraft questionId previous draft
      recordAnswers questions (Json.insertField questionId value current)
        (recorded ++ [answerRecord questionId value previous draft]) drafts

/-- The columns of a session with other answers to so many questions. -/
def withAnswers (s : QuestionSession) (answers : List (String × Json))
    (questions version : ℕ) (now : Time) : QuestionSession :=
  { s with
    answers
    status := if answers.length = questions then .ready else .questioning
    version
    updatedAt := now
    readyAt := if answers.length = questions then some now else none }

/-- The statement of `answer` that writes the answers. -/
def setAnswers (state : ImportQuestionState) (current : List (String × Json)) (now : Time)
    (db : QuestionDb) : QuestionDb :=
  { db with
    sessions := db.sessions.update
      (fun s => s.importId = state.importId ∧ s.version = state.version)
      { set := fun s => withAnswers s current state.questions.length (state.version + 1) now } }

/-- `answer`, for new answers. -/
def writeAnswers (state : ImportQuestionState) (current : List (String × Json))
    (recorded : List Json) (actorId : String) (rationale : Option String) (expected : ℤ)
    (now : Time) : QuestionTx ImportQuestionState := do
  expectedVersion state expected
  Tx.modify (setAnswers state current now)
  event {
    importId := state.importId
    sequence := state.version + 1
    eventKind := .answersRecorded
    payload := .obj [("answers", .arr recorded)]
    actorId
    rationale } "import answer operation failed"
  read state.importId

/-- `sorted(drafts.items())`. -/
def sortDrafts (drafts : List (String × AnswerDraft)) : List (String × AnswerDraft) :=
  drafts.insertionSort fun a b => a.1 ≤ b.1

/-- The rationale of a round of answers. -/
def optionalRationale : Option String → QuestionTx (Option String)
  | none => pure none
  | some s => some <$> rationaleArg s

/-- `answer`. -/
def answer (importId : String) (answers : List (String × AnswerDraft)) (actorId : String)
    (expected : ℤ) (rationale : Option String) (now : Time) : QuestionTx ImportQuestionState := do
  let importId ← uuidArg importId
  let actorId ← actorArg actorId
  positiveArg expected "expected_version"
  let rationale ← optionalRationale rationale
  Tx.require (answers ≠ [] ∧ answers.length ≤ 100)
    (.value "one to one hundred answer drafts are required")
  Tx.require (answers.all (fun a => isQuestionId a.1) = true) (.value "question_id is invalid")
  let state ← read importId
  let result ← Tx.ofExcept (recordAnswers state.questions state.answers [] (sortDrafts answers))
  if result.2 = [] then return state
  else writeAnswers state result.1 result.2 actorId rationale expected now

/-! ## Calls -/

/-- A call of an operation that may change a session. -/
inductive QuestionCall where
  | start (importId : String) (report : ImportDiscoveryReport) (actorId : String) (now : Time)
  | addFollowups (importId : String) (questions : List ImportQuestion)
      (actorId rationale : String) (expected : ℤ) (now : Time)
  | answer (importId : String) (answers : List (String × AnswerDraft)) (actorId : String)
      (expected : ℤ) (rationale : Option String) (now : Time)

/-- The transaction of a call. -/
def QuestionCall.tx : QuestionCall → QuestionTx ImportQuestionState
  | start importId report actorId now => ImportQuestionStore.start importId report actorId now
  | addFollowups importId questions actorId rationale expected now =>
    ImportQuestionStore.addFollowups importId questions actorId rationale expected now
  | answer importId answers actorId expected rationale now =>
    ImportQuestionStore.answer importId answers actorId expected rationale now

/-- The database after a call. -/
def step (db : QuestionDb) (call : QuestionCall) : QuestionDb := call.tx.commit db

end ImportQuestionStore

end AgenticMesh
