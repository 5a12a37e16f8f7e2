import AgenticMesh.Import.QuestionStore
import Mathlib.Data.List.Perm.Subperm

/-!
# The history of a question session

Every state of a session is the replay of its events on the questionnaire of its
report: the row repeats the version, the questions, the answers and the digests
of that history, and each operation restores all of them.  So a stored session
is never rejected when it is read, and of two writers with the same expected
version one changes the session at most.
-/

namespace AgenticMesh

/-! ## Questions and answers -/

lemma mapM_fromDict (questions : List ImportQuestion) :
    (questions.map ImportQuestion.toDict).mapM ImportQuestion.fromDict = .ok questions := by
  induction questions with
  | nil => rfl
  | cons q questions ih =>
    simp only [List.map_cons, List.mapM_cons, Check.bind_ok, Check.pure_ok]
    exact ⟨q, q.fromDict_toDict, questions, ih, rfl⟩

lemma mem_of_definition {questions : List ImportQuestion} {id : String} {q : ImportQuestion}
    (h : definition questions id = some q) : q ∈ questions ∧ q.questionId = id :=
  ⟨List.mem_of_find?_eq_some h, by simpa using List.find?_some h⟩

lemma definition_of_mem {questions : List ImportQuestion}
    (h : (questions.map ImportQuestion.questionId).Nodup) {q : ImportQuestion}
    (hq : q ∈ questions) : definition questions q.questionId = some q := by
  cases hd : definition questions q.questionId with
  | none => simpa using List.find?_eq_none.1 hd q hq
  | some r =>
    obtain ⟨hr, hid⟩ := mem_of_definition hd
    rw [List.inj_on_of_nodup_map h hr hq hid]

lemma definition_eq_none {questions : List ImportQuestion} {id : String} :
    definition questions id = none ↔ id ∉ questions.map ImportQuestion.questionId := by
  simp [definition, List.mem_map]

lemma perm_sortQuestions (questions : List ImportQuestion) :
    (sortQuestions questions).Perm questions := List.perm_insertionSort _ _

@[simp] lemma mem_sortQuestions {questions : List ImportQuestion} {q : ImportQuestion} :
    q ∈ sortQuestions questions ↔ q ∈ questions := (perm_sortQuestions questions).mem_iff

namespace ImportQuestionStore

/-! ## Replay -/

/-- The question and the answer of a record. -/
def readRecord (record : Json) : Option (String × Json) := do
  let questionId ← (record.get? "question_id").bind Json.asString
  let value ← record.get? "value"
  return (questionId, value)

/-- The answers after some of them are set. -/
def setValues (current values : List (String × Json)) : List (String × Json) :=
  values.foldl (fun fields a => Json.insertField a.1 a.2 fields) current

/-- The questions and the answers after an event. -/
def replayEvent (state : List ImportQuestion × List (String × Json)) (e : QuestionEvent) :
    Option (List ImportQuestion × List (String × Json)) :=
  match e.eventKind with
  | .questionsAdded => do
    let items ← (e.payload.get? "questions").bind Json.asArray
    let added ← (items.mapM ImportQuestion.fromDict).toOption
    return (sortQuestions (state.1 ++ added), state.2)
  | .answersRecorded => do
    let items ← (e.payload.get? "answers").bind Json.asArray
    let values ← items.mapM readRecord
    return (state.1, setValues state.2 values)

/-- The questions and the answers after the events of a session. -/
def replay (initial : List ImportQuestion) (events : List QuestionEvent) :
    Option (List ImportQuestion × List (String × Json)) :=
  events.foldlM replayEvent (initial, [])

lemma replay_snoc {initial : List ImportQuestion} {events : List QuestionEvent}
    {state : List ImportQuestion × List (String × Json)} {e : QuestionEvent}
    (h : replay initial events = some state) :
    replay initial (events ++ [e]) = replayEvent state e := by
  unfold replay at h ⊢
  rw [List.foldlM_append, h]
  simp

lemma readRecord_answerRecord (id : String) (value : Json) (previous : Option Json)
    (draft : AnswerDraft) : readRecord (answerRecord id value previous draft) = some (id, value) :=
  rfl

/-! ## What the operations compute -/

/-- An answer to one of the questions, in its normalized form. -/
def Answers (questions : List ImportQuestion) (a : String × Json) : Prop :=
  ∃ q ∈ questions, q.questionId = a.1 ∧ answerValue q.answerKind a.2 = .ok a.2

/-- A draft asks for an answer that is already there. -/
def IsRecorded (questions : List ImportQuestion) (answers : List (String × Json))
    (a : String × AnswerDraft) : Prop :=
  ∃ q ∈ questions, q.questionId = a.1 ∧ ∃ value,
    answerValue q.answerKind a.2.value = .ok value ∧ (a.1, value) ∈ answers

/-- The follow-up questions are appended unless they are there. -/
lemma mergeFollowups_ok {existing changed items : List ImportQuestion}
    {merged : List ImportQuestion × List ImportQuestion}
    (h : mergeFollowups existing changed items = .ok merged) :
    ∃ added, merged = (existing ++ added, changed ++ added) ∧
      ((existing.map ImportQuestion.questionId).Nodup →
        ((existing ++ added).map ImportQuestion.questionId).Nodup) ∧
      ∀ item ∈ items, item ∈ existing ++ added := by
  induction items generalizing existing changed with
  | nil =>
    obtain rfl := Except.ok.inj h
    exact ⟨[], by simp, by simp, by simp⟩
  | cons item items ih =>
    unfold mergeFollowups at h
    cases hd : definition existing item.questionId with
    | some prior =>
      simp only [hd] at h
      split at h
      · next heq =>
        obtain ⟨added, hmerged, hnodup, hmem⟩ := ih h
        refine ⟨added, hmerged, hnodup, ?_⟩
        rintro q hq
        obtain rfl | hq := List.mem_cons.1 hq
        · subst heq
          exact List.mem_append_left added (mem_of_definition hd).1
        · exact hmem q hq
      · simp at h
    | none =>
      simp only [hd] at h
      obtain ⟨added, rfl, hnodup, hmem⟩ := ih h
      refine ⟨item :: added, by simp, fun hids => ?_, ?_⟩
      · have hnext : ((existing ++ [item]).map ImportQuestion.questionId).Nodup := by
          rw [List.map_append]
          refine List.nodup_append'.2 ⟨hids, by simp, ?_⟩
          simpa using definition_eq_none.1 hd
        simpa using hnodup hnext
      · rintro q hq
        obtain rfl | hq := List.mem_cons.1 hq
        · simp
        · simpa using hmem q hq

/-- The recorded answers replay the change, and no record means no change. -/
lemma recordAnswers_ok {questions : List ImportQuestion} {current : List (String × Json)}
    {recorded : List Json} {drafts : List (String × AnswerDraft)}
    {result : List (String × Json) × List Json} (hcurrent : Json.InKeyOrder current)
    (h : recordAnswers questions current recorded drafts = .ok result) :
    ∃ values records, result = (setValues current values, recorded ++ records) ∧
      records.mapM readRecord = some values ∧ (∀ a ∈ values, Answers questions a) ∧
      (records = [] → ∀ a ∈ drafts, IsRecorded questions current a) := by
  induction drafts generalizing current recorded with
  | nil =>
    obtain rfl := Except.ok.inj h
    exact ⟨[], [], by simp [setValues], rfl, by simp, by simp⟩
  | cons a drafts ih =>
    obtain ⟨id, draft⟩ := a
    simp only [recordAnswers, Check.bind_ok, Check.found_ok] at h
    obtain ⟨q, hq, value, hvalue, h⟩ := h
    obtain ⟨hmem, hid⟩ := mem_of_definition hq
    split at h
    · next hsame =>
      obtain ⟨values, records, hresult, hread, hvalid, hasked⟩ := ih hcurrent h
      refine ⟨values, records, hresult, hread, hvalid, fun hnil => ?_⟩
      refine List.forall_mem_cons.2 ⟨?_, hasked hnil⟩
      exact ⟨q, hmem, hid, value, hvalue, (Json.get?_eq_some hcurrent).1 hsame⟩
    · simp only [Check.bind_ok] at h
      obtain ⟨-, -, h⟩ := h
      obtain ⟨values, records, rfl, hread, hvalid, -⟩ := ih hcurrent.insertField h
      refine ⟨(id, value) :: values,
        answerRecord id value ((Json.obj current).get? id) draft :: records, ?_, ?_, ?_, by simp⟩
      · simp [setValues]
      · simp [readRecord_answerRecord, hread]
      · exact List.forall_mem_cons.2 ⟨⟨q, hmem, hid, answerValue_idem hvalue⟩, hvalid⟩

lemma inKeyOrder_setValues {current values : List (String × Json)}
    (h : Json.InKeyOrder current) : Json.InKeyOrder (setValues current values) := by
  induction values generalizing current with
  | nil => exact h
  | cons a values ih => exact ih h.insertField

lemma answers_setValues {questions : List ImportQuestion} {current values : List (String × Json)}
    (horder : Json.InKeyOrder current) (h : ∀ a ∈ current, Answers questions a)
    (hvalues : ∀ a ∈ values, Answers questions a) :
    ∀ a ∈ setValues current values, Answers questions a := by
  induction values generalizing current with
  | nil => exact h
  | cons b values ih =>
    obtain ⟨hb, hvalues⟩ := List.forall_mem_cons.1 hvalues
    refine ih horder.insertField (fun a ha => ?_) hvalues
    obtain rfl | ⟨ha, -⟩ := (Json.mem_insertField horder).1 ha
    · exact hb
    · exact h a ha

/-! ## The invariant -/

/-- A session is the replay of its events on the questionnaire of its report. -/
structure SessionOf (row : QuestionSession) (events : List QuestionEvent)
    (report : ImportDiscoveryReport) (initial questions : List ImportQuestion) : Prop where
  built : buildImportQuestions report = .ok initial
  validated : validateReport report = .ok row.discoveryReport
  digest : row.discoveryDigest = report.digest
  stored : row.questions = questions.map ImportQuestion.toDict
  questionnaire : row.questionnaireDigest = (Json.arr row.questions).digest
  nodup : (questions.map ImportQuestion.questionId).Nodup
  ordered : Json.InKeyOrder row.answers
  answered : ∀ a ∈ row.answers, Answers questions a
  ready : row.status = .ready ↔ row.answers.length = questions.length
  readyAt : row.readyAt.isSome = true ↔ row.answers.length = questions.length
  version : row.version = events.length + 1
  sequences : events.map QuestionEvent.sequence = List.range' 2 events.length
  replayed : replay initial events = some (questions, row.answers)

/-- The state that a row is read as. -/
def stateOf (row : QuestionSession) (questions : List ImportQuestion) : ImportQuestionState where
  importId := row.importId
  discoveryDigest := row.discoveryDigest
  discoveryReport := row.discoveryReport
  questionnaireDigest := row.questionnaireDigest
  status := row.status
  version := row.version
  questions
  answers := row.answers
  createdBy := row.createdBy
  createdAt := row.createdAt
  updatedAt := row.updatedAt
  readyAt := row.readyAt

lemma validateReport_ok {report : ImportDiscoveryReport} {payload : Json}
    (h : validateReport report = .ok payload) :
    payload.get? "digest" = some (.str report.digest) ∧
      (payload.without "digest").digest = report.digest := by
  simp only [validateReport, Check.bind_ok, Check.that_ok, Check.pure_ok] at h
  obtain ⟨-, -, -, hdigest, rfl⟩ := h
  constructor
  · rw [Json.get?, Json.find_insertField]
    rfl
  · rw [Json.without_insertField, hdigest]
    simp [ImportDiscoveryReport.content]

lemma checkAnswer_of {questions : List ImportQuestion}
    (hnodup : (questions.map ImportQuestion.questionId).Nodup) {a : String × Json}
    (h : Answers questions a) : checkAnswer questions a = .ok () := by
  obtain ⟨q, hq, hid, hvalue⟩ := h
  have hdef : definition questions a.1 = some q := hid ▸ definition_of_mem hnodup hq
  simp only [checkAnswer, Check.bind_ok, Check.found_ok, Check.that_ok]
  exact ⟨q, hdef, a.2, by simp [hvalue, Except.mapError], rfl⟩

/-- The read validation accepts every session of the invariant. -/
lemma SessionOf.read {row : QuestionSession} {events : List QuestionEvent}
    {report : ImportDiscoveryReport} {initial questions : List ImportQuestion}
    (h : SessionOf row events report initial questions) :
    readSession row = .ok (stateOf row questions) := by
  obtain ⟨hget, hwithout⟩ := validateReport_ok h.validated
  have hquestions : row.questions.mapM ImportQuestion.fromDict = .ok questions := by
    rw [h.stored]
    exact mapM_fromDict questions
  have hanswers : row.answers.forM (checkAnswer questions) = .ok () :=
    Check.forM_ok.2 fun a ha => checkAnswer_of h.nodup (h.answered a ha)
  simp only [readSession, Check.bind_ok, Check.that_ok, Check.pure_ok]
  refine ⟨(), ⟨by rw [hget, h.digest], by rw [hwithout, h.digest]⟩, questions, hquestions, (), ?_,
    (), h.nodup, (), hanswers, (), ⟨h.ready, h.readyAt⟩, rfl⟩
  rw [← h.stored, h.questionnaire]

/-- Every session has its history, and every event belongs to a session. -/
structure QuestionInv (db : QuestionDb) : Prop where
  session : ∀ row ∈ db.sessions, ∃ report initial questions,
    SessionOf row (db.eventsOf row.importId) report initial questions
  event : ∀ e ∈ db.events, ∃ row ∈ db.sessions, row.importId = e.importId

lemma QuestionInv.empty : QuestionInv {} where
  session := fun row hrow => absurd hrow (Table.notMem_empty row)
  event := fun e he => absurd he (Table.notMem_empty e)

/-! ## The questionnaire of a report -/

section SessionOf

variable {row : QuestionSession} {events : List QuestionEvent} {report : ImportDiscoveryReport}
  {initial questions : List ImportQuestion}

/-- The answered questions are some of the questions. -/
lemma SessionOf.subperm (h : SessionOf row events report initial questions) :
    (row.answers.map Prod.fst).Subperm (questions.map ImportQuestion.questionId) := by
  refine List.subperm_of_subset h.ordered.nodup fun id hid => ?_
  obtain ⟨a, ha, rfl⟩ := List.mem_map.1 hid
  obtain ⟨q, hq, hqa, -⟩ := h.answered a ha
  exact List.mem_map.2 ⟨q, hq, hqa⟩

lemma SessionOf.length_le (h : SessionOf row events report initial questions) :
    row.answers.length ≤ questions.length := by
  simpa using h.subperm.length_le

/-- The answered questions are all questions when there are as many of them. -/
lemma SessionOf.complete (h : SessionOf row events report initial questions) :
    row.answers.length = questions.length ↔
      ∀ q ∈ questions, q.questionId ∈ row.answers.map Prod.fst := by
  constructor
  · intro hlen q hq
    have hperm := h.subperm.perm_of_length_le (by simp [hlen])
    exact hperm.mem_iff.2 (List.mem_map_of_mem hq)
  · intro hall
    have hsup : questions.map ImportQuestion.questionId ⊆ row.answers.map Prod.fst := by
      intro id hid
      obtain ⟨q, hq, rfl⟩ := List.mem_map.1 hid
      exact hall q hq
    have hge := (List.subperm_of_subset h.nodup hsup).length_le
    rw [List.length_map, List.length_map] at hge
    exact le_antisymm h.length_le hge

end SessionOf

/-- A questionnaire is not empty and names each question once. -/
lemma buildImportQuestions_ok {report : ImportDiscoveryReport} {questions : List ImportQuestion}
    (h : buildImportQuestions report = .ok questions) :
    questions ≠ [] ∧ (questions.map ImportQuestion.questionId).Nodup := by
  simp only [buildImportQuestions, Check.bind_ok, Check.that_ok, Check.pure_ok] at h
  obtain ⟨-, -, asked, hasked, -, hnodup, rfl⟩ := h
  refine ⟨?_, hnodup⟩
  have hlen := Check.length_of_mapM hasked
  intro hnil
  have hzero : asked.length = 0 := by
    rw [← (perm_sortQuestions asked).length_eq, hnil]
    rfl
  rw [hzero] at hlen
  simp [openQuestions] at hlen

/-! ## Writing a session -/

/-- No event of a session is later than its version. -/
lemma SessionOf.event_le {row : QuestionSession} {events : List QuestionEvent}
    {report : ImportDiscoveryReport} {initial questions : List ImportQuestion}
    (h : SessionOf row events report initial questions) {e : QuestionEvent} (he : e ∈ events) :
    e.sequence ≤ row.version := by
  have hmem : e.sequence ∈ List.range' 2 events.length := h.sequences ▸ List.mem_map_of_mem he
  have hversion := h.version
  rw [List.mem_range'_1] at hmem
  omega

/-- The event of the next version can be inserted. -/
lemma exists_insert {db : QuestionDb} (hinv : QuestionInv db) {row : QuestionSession}
    (hrow : row ∈ db.sessions) {e : QuestionEvent} (hid : e.importId = row.importId)
    (hsequence : e.sequence = row.version + 1) : ∃ events, db.events.insert e = some events := by
  obtain ⟨report, initial, questions, hsession⟩ := hinv.session row hrow
  refine Table.insert_isSome_of_fresh fun d hd hkey => ?_
  obtain ⟨hdid, hdseq⟩ := Prod.mk.inj hkey
  have hmem : d ∈ db.eventsOf row.importId :=
    Table.mem_select.2 ⟨hd, hdid.trans hid⟩
  have hle := hsession.event_le hmem
  omega

lemma eventsOf_insert {db : QuestionDb} {e : QuestionEvent}
    {events : Table QuestionEvent QuestionEvent.key} (he : db.events.insert e = some events)
    (sessions : Table QuestionSession QuestionSession.key) (importId : String) :
    ({ sessions, events } : QuestionDb).eventsOf importId =
      db.eventsOf importId ++ if e.importId = importId then [e] else [] := by
  have hrows := (Table.insert_eq_some.1 he).2
  simp only [QuestionDb.eventsOf, Table.select, hrows, List.filter_append]
  by_cases hid : e.importId = importId <;> simp [hid]

/-- A session with its next event keeps the invariant. -/
lemma QuestionInv.write {db : QuestionDb} (hinv : QuestionInv db) {row : QuestionSession}
    (hrow : row ∈ db.sessions) {f : Table.Assign QuestionSession.key} {e : QuestionEvent}
    {events : Table QuestionEvent QuestionEvent.key} (he : db.events.insert e = some events)
    (hid : e.importId = row.importId)
    (hnew : ∃ report initial questions,
      SessionOf (f.set row) (db.eventsOf row.importId ++ [e]) report initial questions) :
    QuestionInv {
      sessions := (db.sessions.update
        (fun s => s.importId = row.importId ∧ s.version = row.version) f)
      events } := by
  have hset : ∀ s, (f.set s).importId = s.importId := f.key_set
  constructor
  · intro s hs
    rw [eventsOf_insert he]
    obtain ⟨t, ht, ⟨htid, -⟩, rfl⟩ | ⟨hs, hother⟩ := Table.mem_update_cases hs
    · obtain rfl := db.sessions.eq_of_key ht hrow htid
      rw [hset, if_pos hid]
      exact hnew
    · have hne : e.importId ≠ s.importId := by
        intro heq
        obtain rfl := db.sessions.eq_of_key hs hrow (heq.symm.trans hid)
        exact hother ⟨rfl, rfl⟩
      rw [if_neg hne, List.append_nil]
      exact hinv.session s hs
  · intro d hd
    obtain hd | rfl := (Table.mem_of_insert he d).1 hd
    · obtain ⟨s, hs, hsid⟩ := hinv.event d hd
      refine ⟨_, Table.mem_update_of_mem hs, ?_⟩
      split
      · exact (hset s).trans hsid
      · exact hsid
    · refine ⟨_, Table.mem_update_of_mem hrow, ?_⟩
      rw [if_pos ⟨rfl, rfl⟩, hset, hid]

/-- A session row is replaced by its next version, and no other row changes. -/
structure Wrote (db db' : QuestionDb) (row row' : QuestionSession) : Prop where
  before : row ∈ db.sessions
  after : row' ∈ db'.sessions
  importId : row'.importId = row.importId
  version : row'.version = row.version + 1
  others : ∀ s, s.importId ≠ row.importId → (s ∈ db'.sessions ↔ s ∈ db.sessions)

lemma wrote_update {db : QuestionDb} {row : QuestionSession} (hrow : row ∈ db.sessions)
    {f : Table.Assign QuestionSession.key} (events : Table QuestionEvent QuestionEvent.key)
    (hversion : (f.set row).version = row.version + 1) :
    Wrote db {
      sessions := (db.sessions.update
        (fun s => s.importId = row.importId ∧ s.version = row.version) f)
      events } row (f.set row) := by
  have hset : ∀ s, (f.set s).importId = s.importId := f.key_set
  refine ⟨hrow, Table.mem_update_of_pos hrow ⟨rfl, rfl⟩, hset row, hversion, fun s hs => ?_⟩
  constructor
  · intro hmem
    obtain ⟨t, -, ⟨ht, -⟩, rfl⟩ | ⟨hmem, -⟩ := Table.mem_update_cases hmem
    · exact absurd ((hset t).trans ht) hs
    · exact hmem
  · exact fun hmem => Table.mem_update_of_neg hmem fun h => hs h.1

/-! ## The operations -/

/-- The error is not one of the store itself: it rejects the call. -/
def Rejects (e : ImportQuestionError) : Prop := ∀ message, e ≠ .store message

/-- What `_read` returns: the state of the session. -/
def Reads (db : QuestionDb) (importId : String) (state : ImportQuestionState) : Prop :=
  ∃ row ∈ db.sessions, row.importId = importId ∧ ∃ report initial questions,
    SessionOf row (db.eventsOf row.importId) report initial questions ∧
      state = stateOf row questions

lemma ensures_read {db : QuestionDb} (hinv : QuestionInv db) (importId : String) :
    (read importId).Ensures db Rejects fun state db' => db' = db ∧ Reads db importId state := by
  refine Tx.ensures_demand_bind (fun _ message => by simp) fun row hlookup => ?_
  obtain ⟨hrow, hid⟩ := Table.lookup_eq_some.1 hlookup
  obtain ⟨report, initial, questions, hsession⟩ := hinv.session row hrow
  exact Tx.ensures_of_ok (Tx.ofExcept_of_ok hsession.read)
    ⟨rfl, row, hrow, hid, report, initial, questions, hsession, rfl⟩

/-- A session that is read exists. -/
lemma read_of_lookup {db : QuestionDb} (hinv : QuestionInv db) {row : QuestionSession}
    (hrow : row ∈ db.sessions) {E : ImportQuestionError → Prop}
    {Q : ImportQuestionState → QuestionDb → Prop}
    (hQ : ∀ state, Reads db row.importId state → Q state db) :
    (read row.importId).Ensures db E Q := by
  obtain ⟨report, initial, questions, hsession⟩ := hinv.session row hrow
  have hread : read row.importId db = .ok (stateOf row questions, db) :=
    (Tx.bind_of_ok (Tx.demand_of_some (g := fun db : QuestionDb => db.sessions.lookup row.importId)
      (Table.lookup_mem hrow))).trans
      (Tx.ofExcept_of_ok hsession.read)
  exact Tx.ensures_of_ok hread
    (hQ _ ⟨row, hrow, rfl, report, initial, questions, hsession, rfl⟩)

/-! ## The errors of the checks -/

lemma rejects_value (message : String) : Rejects (.value message) := fun _ h => nomatch h

lemma rejects_conflict (message : String) : Rejects (.conflict message) := fun _ h => nomatch h

lemma raises_matching {pattern : String → Bool} {value : Json} {message : String} :
    Check.Raises Rejects (matching pattern value message) := by
  unfold matching
  split
  · split
    · exact Check.raises_ok
    · exact Check.raises_error (rejects_value message)
  · exact Check.raises_error (rejects_value message)

lemma raises_persistedText {value : Json} {field : String} {maximum : ℕ} :
    Check.Raises Rejects (persistedText value field maximum) :=
  Check.raises_mapError rejects_value

lemma raises_optionalArg {value : Json} {field : String} :
    Check.Raises Rejects (optionalArg value field) := by
  unfold optionalArg
  split
  · exact Check.raises_ok
  · exact Check.Raises.map raises_matching

lemma raises_promptArg {value : Json} : Check.Raises Rejects (promptArg value) := by
  unfold promptArg
  split
  · exact Check.raises_ok
  · next e he => exact Check.raises_error (raises_persistedText e he)

lemma raises_init (questionId category prompt answerKind sourceKind sourceId issueCode : Json) :
    Check.Raises Rejects
      (ImportQuestion.init questionId category prompt answerKind sourceKind sourceId issueCode) :=
  raises_matching.bind fun _ => raises_matching.bind fun _ => raises_promptArg.bind fun _ =>
    (Check.raises_found (rejects_value _)).bind fun _ => raises_optionalArg.bind fun _ =>
      raises_optionalArg.bind fun _ => raises_optionalArg.bind fun _ => Check.raises_ok

lemma raises_ask {questionId category prompt : String} {kind : AnswerKind}
    {source : Option String × Option String × Option String} :
    Check.Raises Rejects (ask questionId category prompt kind source) :=
  raises_init _ _ _ _ _ _ _

lemma raises_askProject {questionId category prompt : String} {kind : AnswerKind} :
    Check.Raises Rejects (askProject questionId category prompt kind) := raises_ask

lemma raises_answerValue {kind : AnswerKind} {value : Json} :
    Check.Raises Rejects (answerValue kind value) := by
  cases kind with
  | text => exact Check.Raises.map raises_persistedText
  | identifier => exact Check.Raises.map raises_matching
  | credentialPolicy =>
    exact (Check.raises_that (rejects_value _)).bind fun _ => Check.raises_ok
  | stringList =>
    exact (Check.raises_found (rejects_value _)).bind fun _ =>
      (Check.raises_that (rejects_value _)).bind fun _ =>
        (Check.raises_mapM fun _ _ => raises_persistedText).bind fun _ =>
          (Check.raises_that (rejects_value _)).bind fun _ => Check.raises_ok

lemma raises_validateReport {report : ImportDiscoveryReport} :
    Check.Raises Rejects (validateReport report) :=
  (Check.raises_that (rejects_value _)).bind fun _ =>
    (Check.raises_that (rejects_conflict _)).bind fun _ => Check.raises_ok

lemma raises_sourceQuestions {r : SourceDiscoveryResult} {base label : String} :
    ∀ q ∈ sourceQuestions r base label, Check.Raises Rejects q := by
  intro q hq
  unfold sourceQuestions at hq
  split at hq
  · simp only [List.mem_append, List.mem_cons, List.not_mem_nil, or_false] at hq
    rcases hq with (rfl | rfl | rfl) | rfl <;> exact raises_ask
  · simp only [List.append_nil, List.mem_cons, List.not_mem_nil, or_false] at hq
    rcases hq with rfl | rfl | rfl <;> exact raises_ask

lemma raises_declarationQuestions {all results : List SourceDiscoveryResult}
    {seen : List (String × String)} :
    ∀ q ∈ declarationQuestions all seen results, Check.Raises Rejects q := by
  induction results generalizing seen with
  | nil => exact fun q hq => absurd hq List.not_mem_nil
  | cons r results ih =>
    intro q hq
    obtain hq | hq := List.mem_append.1 hq
    · split at hq
      · exact raises_sourceQuestions q hq
      · exact raises_sourceQuestions q hq
    · exact ih q hq

lemma raises_issueQuestions {seen : List String} {issues : List DiscoveryIssue} :
    ∀ q ∈ issueQuestions seen issues, Check.Raises Rejects q := by
  induction issues generalizing seen with
  | nil => exact fun q hq => absurd hq List.not_mem_nil
  | cons i issues ih =>
    intro q hq
    unfold issueQuestions at hq
    split at hq
    · exact ih q hq
    · obtain rfl | hq := List.mem_cons.1 hq
      · exact raises_ask
      · exact ih q hq

lemma raises_openQuestions {report : ImportDiscoveryReport} :
    ∀ q ∈ openQuestions report, Check.Raises Rejects q := by
  intro q hq
  simp only [openQuestions, List.mem_append] at hq
  rcases hq with ((((((hq | hq) | hq) | hq) | hq) | hq) | hq)
  · split at hq
    · rw [List.mem_singleton.1 hq]
      exact raises_askProject
    · exact absurd hq List.not_mem_nil
  · split at hq
    · rw [List.mem_singleton.1 hq]
      exact raises_askProject
    · exact absurd hq List.not_mem_nil
  · split at hq
    · rw [List.mem_singleton.1 hq]
      exact raises_askProject
    · exact absurd hq List.not_mem_nil
  · simp only [List.mem_cons, List.not_mem_nil, or_false] at hq
    rcases hq with hq | hq | hq
    all_goals
      rw [hq]
      exact raises_askProject
  · exact raises_declarationQuestions q hq
  · exact raises_issueQuestions q hq
  · simp only [List.mem_cons, List.not_mem_nil, or_false] at hq
    rcases hq with hq | hq | hq
    all_goals
      rw [hq]
      exact raises_askProject

lemma raises_buildImportQuestions {report : ImportDiscoveryReport} :
    Check.Raises Rejects (buildImportQuestions report) :=
  raises_validateReport.bind fun _ =>
    (Check.raises_mapM fun q hq => raises_openQuestions q hq).bind fun _ =>
      (Check.raises_that (rejects_conflict _)).bind fun _ => Check.raises_ok

lemma raises_mergeFollowups {existing changed items : List ImportQuestion} :
    Check.Raises Rejects (mergeFollowups existing changed items) := by
  induction items generalizing existing changed with
  | nil => exact Check.raises_ok
  | cons item items ih =>
    unfold mergeFollowups
    split
    · split
      · exact ih
      · exact Check.raises_error (rejects_conflict _)
    · exact ih

lemma raises_recordAnswers {questions : List ImportQuestion} {current : List (String × Json)}
    {recorded : List Json} {drafts : List (String × AnswerDraft)} :
    Check.Raises Rejects (recordAnswers questions current recorded drafts) := by
  induction drafts generalizing current recorded with
  | nil => exact Check.raises_ok
  | cons a drafts ih =>
    refine (Check.raises_found (rejects_conflict _)).bind fun q => ?_
    refine raises_answerValue.bind fun value => ?_
    dsimp only
    split
    · exact ih
    · refine Check.Raises.bind ?_ fun _ => ih
      unfold checkDraft
      split
      · exact Check.raises_that (rejects_conflict _)
      · exact Check.raises_that (rejects_conflict _)

/-! ## The specifications of the operations -/

/-- Every session is still there, with the same or a later version. -/
def Grows (db db' : QuestionDb) : Prop :=
  ∀ row ∈ db.sessions, ∃ row' ∈ db'.sessions,
    row'.importId = row.importId ∧ row.version ≤ row'.version

lemma Grows.refl (db : QuestionDb) : Grows db db := fun row hrow => ⟨row, hrow, rfl, le_rfl⟩

lemma Grows.trans {a b c : QuestionDb} (hab : Grows a b) (hbc : Grows b c) : Grows a c := by
  intro row hrow
  obtain ⟨row', hrow', hid', hle'⟩ := hab row hrow
  obtain ⟨row'', hrow'', hid'', hle''⟩ := hbc row' hrow'
  exact ⟨row'', hrow'', hid''.trans hid', hle'.trans hle''⟩

lemma Wrote.grows {db db' : QuestionDb} {row row' : QuestionSession} (h : Wrote db db' row row') :
    Grows db db' := by
  intro s hs
  by_cases hid : s.importId = row.importId
  · obtain rfl := db.sessions.eq_of_key hs h.before hid
    exact ⟨row', h.after, h.importId, by rw [h.version]; omega⟩
  · exact ⟨s, (h.others s hid).2 hs, rfl, le_rfl⟩

/-- A new session has no events yet. -/
lemma QuestionInv.insertSession {db : QuestionDb}
    (hinv : QuestionInv db) {importId actorId : String}
    {report : ImportDiscoveryReport} {payload : Json} {questions : List ImportQuestion} {now : Time}
    (hpayload : validateReport report = .ok payload)
    (hquestions : buildImportQuestions report = .ok questions) :
    QuestionInv (insertSession (newSession importId report payload questions actorId now) db) ∧
      Grows db (ImportQuestionStore.insertSession
        (newSession importId report payload questions actorId now) db) := by
  obtain ⟨hne, hnodup⟩ := buildImportQuestions_ok hquestions
  unfold ImportQuestionStore.insertSession
  split
  · next sessions hins =>
    have hmem := Table.mem_of_insert hins
    refine ⟨⟨fun row hrow => ?_, fun e he => ?_⟩, fun row hrow => ?_⟩
    · obtain hrow | rfl := (hmem row).1 hrow
      · exact hinv.session row hrow
      · have hevents : db.eventsOf importId = [] := by
          refine List.eq_nil_iff_forall_not_mem.2 fun e he => ?_
          obtain ⟨he, heid⟩ := Table.mem_select.1 he
          obtain ⟨s, hs, hsid⟩ := hinv.event e he
          exact (Table.insert_eq_some.1 hins).1 s hs (hsid.trans heid)
        have hlength : ([] : List (String × Json)).length ≠ questions.length :=
          fun h => hne (List.length_eq_zero_iff.1 h.symm)
        refine ⟨report, questions, questions, ?_⟩
        change SessionOf _ (db.eventsOf importId) _ _ _
        rw [hevents]
        exact {
          built := hquestions
          validated := hpayload
          digest := rfl
          stored := rfl
          questionnaire := rfl
          nodup := hnodup
          ordered := List.Pairwise.nil
          answered := fun a ha => absurd ha List.not_mem_nil
          ready := ⟨fun h => absurd h (by simp [newSession]), fun h => absurd h hlength⟩
          readyAt := ⟨fun h => absurd h (by simp [newSession]), fun h => absurd h hlength⟩
          version := rfl
          sequences := rfl
          replayed := rfl }
    · obtain ⟨s, hs, hsid⟩ := hinv.event e he
      exact ⟨s, (hmem s).2 (Or.inl hs), hsid⟩
    · exact ⟨row, (hmem row).2 (Or.inl hrow), rfl, le_rfl⟩
  · exact ⟨hinv, Grows.refl db⟩

lemma ensures_start {db : QuestionDb} (hinv : QuestionInv db) (importId : String)
    (report : ImportDiscoveryReport) (actorId : String) (now : Time) :
    (start importId report actorId now).Ensures db Rejects
      fun _ db' => QuestionInv db' ∧ Grows db db' := by
  refine Tx.ensures_demand_bind (fun _ => rejects_value _) fun id _ => ?_
  refine Tx.ensures_ofExcept_bind (Check.raises_mapError rejects_value) fun actor _ => ?_
  refine Tx.ensures_ofExcept_bind raises_validateReport fun payload hpayload => ?_
  refine Tx.ensures_ofExcept_bind raises_buildImportQuestions fun questions hquestions => ?_
  refine Tx.ensures_modify_bind ?_
  obtain ⟨hnew, hgrows⟩ := @QuestionInv.insertSession _ hinv id actor _ _ _ now hpayload hquestions
  refine (ensures_read hnew id).bind ?_
  rintro state _ ⟨rfl, -⟩
  exact Tx.ensures_require_bind (fun _ => rejects_conflict _) fun _ =>
    Tx.ensures_pure ⟨hnew, hgrows⟩

/-- A writer changed the session at the version it expected, or the session already was as it
asked. -/
def Written (importId : String) (expected : ℤ) (Held : ImportQuestionState → Prop)
    (db : QuestionDb) (state : ImportQuestionState) (db' : QuestionDb) : Prop :=
  QuestionInv db' ∧
    ((db' = db ∧ Held state ∧ ∃ id, uuid? importId = some id ∧ Reads db id state) ∨
      ∃ row row', Wrote db db' row row' ∧ uuid? importId = some row.importId ∧
        (row.version : ℤ) = expected)

/-- The event of the new version, and the session read again. -/
lemma ensures_event {db : QuestionDb} (hinv : QuestionInv db) {row : QuestionSession}
    (hrow : row ∈ db.sessions) {f : Table.Assign QuestionSession.key} {e : QuestionEvent}
    {failure : String} (hid : e.importId = row.importId) (hsequence : e.sequence = row.version + 1)
    (hversion : (f.set row).version = row.version + 1)
    (hnew : ∃ report initial questions,
      SessionOf (f.set row) (db.eventsOf row.importId ++ [e]) report initial questions) :
    (event e failure >>= fun _ => read row.importId).Ensures
      { db with
        sessions := (db.sessions.update
          (fun s => s.importId = row.importId ∧ s.version = row.version) f) }
      Rejects fun _ db' => QuestionInv db' ∧ ∃ row', Wrote db db' row row' := by
  obtain ⟨events, hinsert⟩ := exists_insert hinv hrow hid hsequence
  have hnext := hinv.write hrow hinsert hid hnew
  have hwrote := wrote_update hrow events hversion
  refine Tx.ensures_attempt_bind (fun h => by simp [hinsert] at h) fun db' hdb' => ?_
  obtain rfl : _ = db' := by simpa [hinsert] using hdb'
  have hread := read_of_lookup hnext hwrote.after (E := Rejects)
    (Q := fun _ db' => QuestionInv db' ∧ ∃ row', Wrote db db' row row')
    fun _ _ => ⟨hnext, _, hwrote⟩
  rwa [hwrote.importId] at hread

/-! ## The next state of a session -/

section Next

variable {row : QuestionSession} {events : List QuestionEvent} {report : ImportDiscoveryReport}
  {initial questions : List ImportQuestion}

lemma SessionOf.sequences_snoc (h : SessionOf row events report initial questions)
    {e : QuestionEvent} (he : e.sequence = row.version + 1) :
    (events ++ [e]).map QuestionEvent.sequence = List.range' 2 (events ++ [e]).length := by
  have hversion := h.version
  rw [List.map_append, h.sequences, List.length_append, List.length_singleton, List.range'_concat]
  simp only [List.map_cons, List.map_nil]
  congr 2
  omega

/-- The session after new questions. -/
lemma SessionOf.addQuestions (h : SessionOf row events report initial questions)
    {added : List ImportQuestion} (hne : added ≠ [])
    (hnodup : ((questions ++ added).map ImportQuestion.questionId).Nodup) {e : QuestionEvent}
    (hsequence : e.sequence = row.version + 1) (hkind : e.eventKind = .questionsAdded)
    (hpayload : e.payload = .obj [("questions", .arr (added.map ImportQuestion.toDict))])
    (now : Time) :
    SessionOf (withQuestions row (sortQuestions (questions ++ added)) (row.version + 1) now)
      (events ++ [e]) report initial (sortQuestions (questions ++ added)) := by
  have hperm := perm_sortQuestions (questions ++ added)
  have hincomplete : row.answers.length ≠ (sortQuestions (questions ++ added)).length := by
    have hle := h.length_le
    have hpos := List.length_pos_iff.2 hne
    rw [hperm.length_eq, List.length_append]
    omega
  exact {
    built := h.built
    validated := h.validated
    digest := h.digest
    stored := rfl
    questionnaire := rfl
    nodup := (hperm.map _).nodup_iff.2 hnodup
    ordered := h.ordered
    answered := by
      intro a ha
      obtain ⟨q, hq, hanswer⟩ := h.answered a ha
      exact ⟨q, mem_sortQuestions.2 (List.mem_append_left added hq), hanswer⟩
    ready := ⟨fun hready => absurd hready (by simp [withQuestions]),
      fun hlength => absurd hlength hincomplete⟩
    readyAt := ⟨fun hready => absurd hready (by simp [withQuestions]),
      fun hlength => absurd hlength hincomplete⟩
    version := by
      have hversion := h.version
      rw [List.length_append, List.length_singleton]
      change row.version + 1 = _
      omega
    sequences := h.sequences_snoc hsequence
    replayed := by
      rw [replay_snoc h.replayed, replayEvent, hkind, hpayload]
      change ((List.mapM ImportQuestion.fromDict
        (added.map ImportQuestion.toDict)).toOption >>= _) = _
      rw [mapM_fromDict]
      rfl }

/-- The session after new answers. -/
lemma SessionOf.addAnswers (h : SessionOf row events report initial questions)
    {values : List (String × Json)} {records : List Json}
    (hrecords : records.mapM readRecord = some values) (hvalues : ∀ a ∈ values, Answers questions a)
    {e : QuestionEvent} (hsequence : e.sequence = row.version + 1)
    (hkind : e.eventKind = .answersRecorded)
    (hpayload : e.payload = .obj [("answers", .arr records)]) (now : Time) :
    SessionOf
      (withAnswers row (setValues row.answers values) questions.length (row.version + 1) now)
      (events ++ [e]) report initial questions := by
  exact {
    built := h.built
    validated := h.validated
    digest := h.digest
    stored := h.stored
    questionnaire := h.questionnaire
    nodup := h.nodup
    ordered := inKeyOrder_setValues h.ordered
    answered := answers_setValues h.ordered h.answered hvalues
    ready := by
      change (if _ then SessionStatus.ready else _) = _ ↔ (setValues row.answers values).length = _
      split <;> simp_all
    readyAt := by
      change (if _ then some now else none).isSome = _ ↔ (setValues row.answers values).length = _
      split <;> simp_all
    version := by
      have hversion := h.version
      rw [List.length_append, List.length_singleton]
      change row.version + 1 = _
      omega
    sequences := h.sequences_snoc hsequence
    replayed := by
      rw [replay_snoc h.replayed, replayEvent, hkind, hpayload]
      change (records.mapM readRecord >>= _) = _
      rw [hrecords]
      rfl }

end Next

/-- A change of a session that was read. -/
lemma Written.of_wrote {db db' : QuestionDb} {importId : String} {expected : ℤ}
    {Held : ImportQuestionState → Prop} {state : ImportQuestionState} {row : QuestionSession}
    (hid : uuid? importId = some row.importId) (hversion : (row.version : ℤ) = expected)
    (h : QuestionInv db' ∧ ∃ row', Wrote db db' row row') :
    Written importId expected Held db state db' := by
  obtain ⟨hinv, row', hwrote⟩ := h
  exact ⟨hinv, Or.inr ⟨row, row', hwrote, hid, hversion⟩⟩

lemma ensures_addFollowups {db : QuestionDb} (hinv : QuestionInv db) (importId : String)
    (questions : List ImportQuestion) (actorId rationale : String) (expected : ℤ) (now : Time) :
    (addFollowups importId questions actorId rationale expected now).Ensures db Rejects
      (Written importId expected (fun state => ∀ q ∈ questions, q ∈ state.questions) db) := by
  refine Tx.ensures_demand_bind (fun _ => rejects_value _) fun id hid => ?_
  refine Tx.ensures_ofExcept_bind (Check.raises_mapError rejects_value) fun actor _ => ?_
  refine Tx.ensures_ofExcept_bind raises_persistedText fun rationale _ => ?_
  refine Tx.ensures_require_bind (fun _ => rejects_value _) fun _ => ?_
  refine Tx.ensures_require_bind (fun _ => rejects_value _) fun _ => ?_
  refine Tx.ensures_require_bind (fun _ => rejects_value _) fun _ => ?_
  refine (ensures_read hinv id).bind ?_
  rintro state _ ⟨rfl, hreads⟩
  refine Tx.ensures_ofExcept_bind raises_mergeFollowups fun merged hmerged => ?_
  obtain ⟨added, rfl, hnodup, hheld⟩ := mergeFollowups_ok hmerged
  refine Tx.ensures_ite (fun hnil => ?_) fun hne => ?_
  · have hsame : added = [] := by simpa using hnil
    rw [hsame, List.append_nil] at hheld
    exact Tx.ensures_pure ⟨hinv, Or.inl ⟨rfl, hheld, id, hid, hreads⟩⟩
  · have hadded : added ≠ [] := by simpa using hne
    obtain ⟨row, hrow, rfl, report, initial, current, hsession, rfl⟩ := hreads
    refine Tx.ensures_require_bind (fun _ => rejects_conflict _) fun hversion => ?_
    refine Tx.ensures_modify_bind ?_
    refine Tx.Ensures.mono (ensures_event hinv hrow rfl rfl rfl ⟨report, initial, _,
      hsession.addQuestions hadded (hnodup hsession.nodup) rfl rfl rfl now⟩)
      (fun _ he => he) fun _ _ h => Written.of_wrote hid hversion h

lemma ensures_optionalRationale {db : QuestionDb} (rationale : Option String) :
    (optionalRationale rationale).Ensures db Rejects fun _ db' => db' = db := by
  cases rationale with
  | none => exact Tx.ensures_pure rfl
  | some s =>
    exact Tx.ensures_ofExcept_bind raises_persistedText fun _ _ => Tx.ensures_pure rfl

lemma ensures_answer {db : QuestionDb} (hinv : QuestionInv db) (importId : String)
    (answers : List (String × AnswerDraft)) (actorId : String) (expected : ℤ)
    (rationale : Option String) (now : Time) :
    (answer importId answers actorId expected rationale now).Ensures db Rejects
      (Written importId expected
        (fun state => ∀ a ∈ answers, IsRecorded state.questions state.answers a) db) := by
  refine Tx.ensures_demand_bind (fun _ => rejects_value _) fun id hid => ?_
  refine Tx.ensures_ofExcept_bind (Check.raises_mapError rejects_value) fun actor _ => ?_
  refine Tx.ensures_require_bind (fun _ => rejects_value _) fun _ => ?_
  refine (ensures_optionalRationale rationale).bind ?_
  rintro rationale _ rfl
  refine Tx.ensures_require_bind (fun _ => rejects_value _) fun _ => ?_
  refine Tx.ensures_require_bind (fun _ => rejects_value _) fun _ => ?_
  refine (ensures_read hinv id).bind ?_
  rintro state _ ⟨rfl, hreads⟩
  refine Tx.ensures_ofExcept_bind raises_recordAnswers fun result hresult => ?_
  have hread := hreads
  obtain ⟨row, hrow, hrowid, report, initial, questions, hsession, rfl⟩ := hread
  obtain ⟨values, records, rfl, hrecords, hvalues, hheld⟩ :=
    recordAnswers_ok hsession.ordered hresult
  refine Tx.ensures_ite (fun hnil => ?_) fun _ => ?_
  · refine Tx.ensures_pure ⟨hinv, Or.inl ⟨rfl, fun a ha => ?_, id, hid, hreads⟩⟩
    exact hheld (by simpa using hnil) a ((List.perm_insertionSort _ _).mem_iff.2 ha)
  · subst hrowid
    refine Tx.ensures_require_bind (fun _ => rejects_conflict _) fun hversion => ?_
    refine Tx.ensures_modify_bind ?_
    exact Tx.Ensures.mono (ensures_event hinv hrow rfl rfl rfl ⟨report, initial, questions,
      hsession.addAnswers hrecords hvalues rfl rfl rfl now⟩)
      (fun _ he => he) fun _ _ h => Written.of_wrote hid hversion h

/-- What is read can be read again. -/
lemma Reads.ok {db : QuestionDb} {importId : String} {state : ImportQuestionState}
    (h : Reads db importId state) : read importId db = .ok (state, db) := by
  obtain ⟨row, hrow, rfl, report, initial, questions, hsession, rfl⟩ := h
  exact (Tx.bind_of_ok (Tx.demand_of_some (g := fun db : QuestionDb =>
    db.sessions.lookup row.importId) (Table.lookup_mem hrow))).trans
    (Tx.ofExcept_of_ok hsession.read)

/-! ## Runs -/

/-- A writer grows the database. -/
lemma Written.grows {db db' : QuestionDb} {importId : String} {expected : ℤ}
    {Held : ImportQuestionState → Prop} {state : ImportQuestionState}
    (h : Written importId expected Held db state db') : QuestionInv db' ∧ Grows db db' := by
  obtain ⟨hinv, ⟨rfl, -⟩ | ⟨row, row', hwrote, -⟩⟩ := h
  · exact ⟨hinv, Grows.refl db'⟩
  · exact ⟨hinv, hwrote.grows⟩

/-- No call is refused by the store itself, and every call keeps the histories. -/
lemma ensures_call {db : QuestionDb} (hinv : QuestionInv db) (call : QuestionCall) :
    call.tx.Ensures db Rejects fun _ db' => QuestionInv db' ∧ Grows db db' := by
  cases call with
  | start importId report actorId now => exact ensures_start hinv importId report actorId now
  | addFollowups importId questions actorId rationale expected now =>
    exact (ensures_addFollowups hinv importId questions actorId rationale expected now).mono
      (fun _ he => he) fun _ _ h => h.grows
  | answer importId answers actorId expected rationale now =>
    exact (ensures_answer hinv importId answers actorId expected rationale now).mono
      (fun _ he => he) fun _ _ h => h.grows

lemma QuestionInv.step {db : QuestionDb} (hinv : QuestionInv db) (call : QuestionCall) :
    QuestionInv (step db call) :=
  (ensures_call hinv call).commit hinv fun _ _ h => h.1

lemma QuestionInv.run {db : QuestionDb} (hinv : QuestionInv db) (calls : List QuestionCall) :
    QuestionInv (AgenticMesh.run ImportQuestionStore.step db calls) :=
  invariant_run (fun _ call h => h.step call) hinv calls

lemma grows_run {db : QuestionDb} (hinv : QuestionInv db) (calls : List QuestionCall) :
    Grows db (AgenticMesh.run step db calls) :=
  rel_run Grows.refl (fun _ _ _ => Grows.trans) (fun _ call h => QuestionInv.step h call)
    (fun db call h => (ensures_call h call).commit (Grows.refl db) fun _ _ h' => h'.2) hinv calls

/-- The import and the expected version of a writer. -/
def QuestionCall.writer : QuestionCall → Option (String × ℤ)
  | start .. => none
  | addFollowups importId _ _ _ expected _ => some (importId, expected)
  | answer importId _ _ expected _ _ => some (importId, expected)

/-- A session already is as a writer asks. -/
def QuestionCall.Held : QuestionCall → ImportQuestionState → Prop
  | start .., _ => True
  | addFollowups _ questions .., state => ∀ q ∈ questions, q ∈ state.questions
  | answer _ answers .., state => ∀ a ∈ answers, IsRecorded state.questions state.answers a

lemma ensures_writer {db : QuestionDb} (hinv : QuestionInv db) {call : QuestionCall}
    {importId : String} {expected : ℤ} (h : call.writer = some (importId, expected)) :
    call.tx.Ensures db Rejects (Written importId expected call.Held db) := by
  cases call with
  | start _ _ _ _ => cases h
  | addFollowups id questions actorId rationale version now =>
    obtain ⟨rfl, rfl⟩ := Prod.mk.inj (Option.some.inj h)
    exact ensures_addFollowups hinv id questions actorId rationale version now
  | answer id answers actorId version rationale now =>
    obtain ⟨rfl, rfl⟩ := Prod.mk.inj (Option.some.inj h)
    exact ensures_answer hinv id answers actorId version rationale now

/-- A writer that changes the database raises the version of its session. -/
lemma version_of_change {db : QuestionDb} (hinv : QuestionInv db) {call : QuestionCall}
    {importId : String} {expected : ℤ} (h : call.writer = some (importId, expected))
    (hne : step db call ≠ db) :
    ∃ row ∈ (step db call).sessions, uuid? importId = some row.importId ∧
      (row.version : ℤ) = expected + 1 := by
  have hchange := (ensures_writer hinv h).commit (R := fun db' => db' = db ∨
    ∃ row ∈ db'.sessions, uuid? importId = some row.importId ∧ (row.version : ℤ) = expected + 1)
    (Or.inl rfl) fun state db' hwritten => by
    obtain ⟨-, ⟨rfl, -⟩ | ⟨row, row', hwrote, hid, hversion⟩⟩ := hwritten
    · exact Or.inl rfl
    · have hafter := hwrote.version
      exact Or.inr ⟨row', hwrote.after, by rw [hid, hwrote.importId], by omega⟩
  exact hchange.resolve_left hne

/-- A writer whose expected version is not the current one changes nothing. -/
lemma unchanged_of_version {db : QuestionDb} (hinv : QuestionInv db) {call : QuestionCall}
    {importId : String} {expected : ℤ} (h : call.writer = some (importId, expected))
    (hlater : ∃ row ∈ db.sessions, uuid? importId = some row.importId ∧
      expected < (row.version : ℤ)) :
    step db call = db ∧ ∀ state, call.tx.result? db = some state →
      call.Held state ∧ ∃ id, uuid? importId = some id ∧ Reads db id state := by
  obtain ⟨row, hrow, hid, hlt⟩ := hlater
  have hensures : call.tx.Ensures db Rejects fun state db' => db' = db ∧ call.Held state ∧
      ∃ id, uuid? importId = some id ∧ Reads db id state := by
    refine (ensures_writer hinv h).mono (fun _ he => he) ?_
    rintro state db' ⟨-, hsame | ⟨row₀, row', hwrote, hid₀, hversion⟩⟩
    · exact hsame
    · have hrows : row₀ = row := by
        refine db.sessions.eq_of_key hwrote.before hrow ?_
        exact Option.some.inj (hid₀.symm.trans hid)
      subst hrows
      omega
  refine ⟨hensures.commit (R := fun db' => db' = db) rfl fun _ _ h' => h'.1, fun state hstate => ?_⟩
  obtain ⟨db', hok⟩ := Tx.result?_eq_some.1 hstate
  exact (hensures.1 state db' hok).2

/-- The row of a session repeats its history. -/
structure SessionHistory (db : QuestionDb) (row : QuestionSession) : Prop where
  version : row.version = 1 + (db.eventsOf row.importId).length
  sequences : (db.eventsOf row.importId).map QuestionEvent.sequence =
    List.range' 2 (row.version - 1)
  state : ∃ report initial state, validateReport report = .ok row.discoveryReport ∧
    buildImportQuestions report = .ok initial ∧ readSession row = .ok state ∧
    replay initial (db.eventsOf row.importId) = some (state.questions, state.answers) ∧
    (row.status = .ready ↔ ∀ q ∈ state.questions, q.questionId ∈ state.answers.map Prod.fst) ∧
    (row.readyAt.isSome = true ↔ row.status = .ready)

lemma SessionOf.history {db : QuestionDb} {row : QuestionSession} {report : ImportDiscoveryReport}
    {initial questions : List ImportQuestion}
    (h : SessionOf row (db.eventsOf row.importId) report initial questions) :
    SessionHistory db row where
  version := h.version.trans (Nat.add_comm _ _)
  sequences := by
    rw [h.sequences, h.version, Nat.add_sub_cancel]
  state := ⟨report, initial, stateOf row questions, h.validated, h.built, h.read, h.replayed,
    h.ready.trans h.complete, h.readyAt.trans h.ready.symm⟩

/-- **Question sessions.**  After any calls, the row of every session repeats its history and is
read without an error; no call fails in the store itself; and once a writer changed a session,
every other one that expects the same version is rejected or finds what it asks for already
there, and changes nothing. -/
theorem question_sessions (calls : List QuestionCall) :
    let db := AgenticMesh.run step {} calls
    (∀ row ∈ db.sessions, SessionHistory db row) ∧
    (∀ call e, QuestionCall.tx call db = .error e → Rejects e) ∧
    ∀ first second importId importId' expected,
      QuestionCall.writer first = some (importId, expected) →
      QuestionCall.writer second = some (importId', expected) → uuid? importId = uuid? importId' →
      step db first ≠ db → ∀ between,
        let db' := AgenticMesh.run step (step db first) between
        step db' second = db' ∧ ∀ state, second.tx.result? db' = some state →
          second.Held state ∧ ∃ id, uuid? importId' = some id ∧ read id db' = .ok (state, db') := by
  have hinv := QuestionInv.empty.run calls
  refine ⟨fun row hrow => ?_, fun call e he => (ensures_call hinv call).2 e he, ?_⟩
  · obtain ⟨report, initial, questions, hsession⟩ := hinv.session row hrow
    exact hsession.history
  · intro first second importId importId' expected hfirst hsecond hid hne between
    obtain ⟨row, hrow, hrowid, hversion⟩ := version_of_change hinv hfirst hne
    have hstep := hinv.step first
    obtain ⟨row', hrow', hid', hle⟩ := grows_run hstep between row hrow
    have hinv' := hstep.run between
    obtain ⟨hsame, hheld⟩ := unchanged_of_version hinv' hsecond
      ⟨row', hrow', by rw [← hid, hrowid, hid'], by omega⟩
    refine ⟨hsame, fun state hstate => ?_⟩
    obtain ⟨hstate', id, hid'', hreads⟩ := hheld state hstate
    exact ⟨hstate', id, hid'', hreads.ok⟩

end ImportQuestionStore

end AgenticMesh
