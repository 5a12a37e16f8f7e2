import AgenticMesh.Import.Preview
import AgenticMesh.Import.QuestionHistory

/-!
# The sponsors of a question session

Every questionnaire asks for the sponsors of the project.  The calls on a session
keep its discovery report and its answered questions; a session at another
version has another history, and one at the same version is the same.  So once
the sponsors are answered, they can be read for as long as the session exists.
-/

namespace AgenticMesh

/-! ## Sessions over time -/

/-- A session and the same session later. -/
structure SessionNext (row row' : QuestionSession) : Prop where
  importId : row'.importId = row.importId
  report : row'.discoveryReport = row.discoveryReport
  answered : ∀ id ∈ row.answers.map Prod.fst, id ∈ row'.answers.map Prod.fst
  version : row' = row ∨ row.version < row'.version

lemma SessionNext.refl (row : QuestionSession) : SessionNext row row :=
  ⟨rfl, rfl, fun _ h => h, Or.inl rfl⟩

lemma SessionNext.trans {a b c : QuestionSession} (hab : SessionNext a b)
    (hbc : SessionNext b c) : SessionNext a c where
  importId := hbc.importId.trans hab.importId
  report := hbc.report.trans hab.report
  answered := fun id hid => hbc.answered id (hab.answered id hid)
  version := by
    obtain rfl | hlt := hab.version
    · exact hbc.version
    · obtain rfl | hlt' := hbc.version
      · exact Or.inr hlt
      · exact Or.inr (hlt.trans hlt')

/-- A session at the version of an earlier one is the earlier one. -/
lemma SessionNext.eq_of_version {row row' : QuestionSession} (h : SessionNext row row')
    (hversion : row'.version = row.version) : row' = row :=
  h.version.resolve_right fun hlt => by omega

/-- The sessions of a database and those of a later one. -/
def SessionsKept (db db' : QuestionDb) : Prop :=
  ∀ row ∈ db.sessions, ∃ row' ∈ db'.sessions, SessionNext row row'

lemma SessionsKept.refl (db : QuestionDb) : SessionsKept db db :=
  fun row hrow => ⟨row, hrow, SessionNext.refl row⟩

lemma SessionsKept.trans {a b c : QuestionDb} (hab : SessionsKept a b)
    (hbc : SessionsKept b c) : SessionsKept a c := by
  intro row hrow
  obtain ⟨row', hrow', hnext⟩ := hab row hrow
  obtain ⟨row'', hrow'', hnext'⟩ := hbc row' hrow'
  exact ⟨row'', hrow'', hnext.trans hnext'⟩

lemma Json.mem_keys_insertField {key key' : String} {value : Json}
    {fields : List (String × Json)} (h : key' ∈ fields.map Prod.fst) :
    key' ∈ (Json.insertField key value fields).map Prod.fst := by
  by_contra hnot
  have hnone : (Json.obj (Json.insertField key value fields)).get? key' = none :=
    Json.get?_eq_none.2 hnot
  by_cases hkey : key' = key
  · subst hkey
    simp [Json.get?, Json.find_insertField] at hnone
  · rw [Json.get?, Json.find_insertField_of_ne hkey] at hnone
    exact Json.get?_eq_none.1 hnone h

namespace ImportQuestionStore

/-- Recording answers keeps the answered questions. -/
lemma mem_keys_recordAnswers {questions : List ImportQuestion} {current : List (String × Json)}
    {recorded : List Json} {drafts : List (String × AnswerDraft)}
    {result : List (String × Json) × List Json}
    (h : recordAnswers questions current recorded drafts = .ok result) {id : String}
    (hid : id ∈ current.map Prod.fst) : id ∈ result.1.map Prod.fst := by
  induction drafts generalizing current recorded with
  | nil =>
    obtain rfl := Except.ok.inj h
    exact hid
  | cons a drafts ih =>
    simp only [recordAnswers, Check.bind_ok] at h
    obtain ⟨q, -, value, -, h⟩ := h
    split at h
    · exact ih h hid
    · simp only [Check.bind_ok] at h
      obtain ⟨-, -, h⟩ := h
      exact ih h (Json.mem_keys_insertField hid)

/-! ## The calls -/

/-- What is read of a session. -/
lemma read_ok {db db' : QuestionDb} {importId : String} {state : ImportQuestionState}
    (h : read importId db = .ok (state, db')) : db' = db ∧ ∃ row ∈ db.sessions,
      row.importId = importId ∧ readSession row = .ok state := by
  simp only [read, Tx.demand_bind_ok, Tx.ofExcept_ok] at h
  obtain ⟨row, hlookup, hstate, hdb⟩ := h
  obtain ⟨hrow, hid⟩ := Table.lookup_eq_some.1 hlookup
  exact ⟨hdb, row, hrow, hid, hstate⟩

/-- The columns that a session is read with. -/
lemma readSession_ok {row : QuestionSession} {state : ImportQuestionState}
    (h : readSession row = .ok state) :
    state.importId = row.importId ∧ state.version = row.version ∧ state.answers = row.answers := by
  simp only [readSession, Check.bind_ok, Check.that_ok, Check.pure_ok] at h
  obtain ⟨-, -, questions, -, -, -, -, -, -, -, -, -, rfl⟩ := h
  exact ⟨rfl, rfl, rfl⟩

/-- A statement that writes the next version of a session. -/
lemma kept_update {db : QuestionDb} {row : QuestionSession} (hrow : row ∈ db.sessions)
    {f : Table.Assign QuestionSession.key} (hnext : SessionNext row (f.set row))
    (events : Table QuestionEvent QuestionEvent.key) :
    SessionsKept db {
      sessions := (db.sessions.update
        (fun s => s.importId = row.importId ∧ s.version = row.version) f)
      events } := by
  intro s hs
  by_cases hcond : s.importId = row.importId ∧ s.version = row.version
  · obtain rfl := db.sessions.eq_of_key hs hrow hcond.1
    exact ⟨_, Table.mem_update_of_pos hs hcond, hnext⟩
  · exact ⟨s, Table.mem_update_of_neg hs hcond, SessionNext.refl s⟩

/-- The event and the reading after it leave the sessions alone. -/
lemma kept_event {db db' : QuestionDb} {e : QuestionEvent} {failure importId : String}
    {state : ImportQuestionState}
    (h : (event e failure >>= fun _ => read importId) db = .ok (state, db')) :
    ∃ events, db' = { db with events } := by
  simp only [event, Tx.attempt_bind_ok, Option.map_eq_some_iff] at h
  obtain ⟨_, ⟨events, -, rfl⟩, hread⟩ := h
  exact ⟨events, (read_ok hread).1⟩

lemma kept_start {db db' : QuestionDb} {importId : String} {report : ImportDiscoveryReport}
    {actorId : String} {now : Time} {state : ImportQuestionState}
    (h : start importId report actorId now db = .ok (state, db')) : SessionsKept db db' := by
  simp only [start, uuidArg, actorArg, Tx.demand_bind_ok, Tx.ofExcept_bind_ok,
    Tx.modify_bind_ok] at h
  obtain ⟨id, -, actor, -, payload, -, questions, -, h⟩ := h
  rw [Tx.bind_ok] at h
  obtain ⟨state', _, hread, h⟩ := h
  simp only [Tx.require_bind_ok, Tx.pure_ok] at h
  obtain ⟨-, heq⟩ := h
  obtain ⟨-, rfl⟩ := Prod.mk.inj heq
  rw [(read_ok hread).1]
  unfold insertSession
  split
  · next sessions hins =>
    exact fun row hrow =>
      ⟨row, (Table.mem_of_insert hins row).2 (Or.inl hrow), SessionNext.refl row⟩
  · exact SessionsKept.refl db

lemma kept_addFollowups {db db' : QuestionDb} {importId : String}
    {questions : List ImportQuestion} {actorId rationale : String} {expected : ℤ} {now : Time}
    {state : ImportQuestionState}
    (h : addFollowups importId questions actorId rationale expected now db = .ok (state, db')) :
    SessionsKept db db' := by
  simp only [addFollowups, uuidArg, actorArg, rationaleArg, positiveArg, Tx.demand_bind_ok,
    Tx.require_bind_ok, Tx.ofExcept_bind_ok] at h
  obtain ⟨id, -, actor, -, reason, -, -, -, -, h⟩ := h
  rw [Tx.bind_ok] at h
  obtain ⟨read, _, hread, h⟩ := h
  rw [Tx.ofExcept_bind_ok] at h
  obtain ⟨merged, -, h⟩ := h
  obtain ⟨rfl, row, hrow, rfl, hstate⟩ := read_ok hread
  obtain ⟨hid, hversion, -⟩ := readSession_ok hstate
  by_cases hnil : merged.2 = []
  · rw [if_pos hnil, Tx.pure_ok] at h
    obtain ⟨-, rfl⟩ := Prod.mk.inj h
    exact SessionsKept.refl db'
  · simp only [if_neg hnil, writeFollowups, expectedVersion, Tx.require_bind_ok,
      Tx.modify_bind_ok] at h
    obtain ⟨events, rfl⟩ := kept_event h.2
    simp only [setQuestions, hid, hversion]
    refine kept_update hrow ⟨rfl, rfl, fun _ h => h, Or.inr ?_⟩ events
    exact Nat.lt_succ_self row.version

lemma kept_answer {db db' : QuestionDb} {importId : String}
    {answers : List (String × AnswerDraft)} {actorId : String} {expected : ℤ}
    {rationale : Option String} {now : Time} {state : ImportQuestionState}
    (h : answer importId answers actorId expected rationale now db = .ok (state, db')) :
    SessionsKept db db' := by
  have hrationale : ∀ (r : Option String) (db : QuestionDb) p,
      optionalRationale r db = .ok p → p.2 = db := by
    intro r db p hp
    cases r with
    | none => rw [Tx.pure_ok.1 hp]
    | some s =>
      simp only [optionalRationale, rationaleArg, Tx.map_ok, Tx.ofExcept_ok] at hp
      obtain ⟨_, _, ⟨-, rfl⟩, rfl⟩ := hp
      rfl
  simp only [answer, uuidArg, actorArg, positiveArg, Tx.demand_bind_ok,
    Tx.require_bind_ok, Tx.ofExcept_bind_ok] at h
  obtain ⟨id, -, actor, -, -, h⟩ := h
  rw [Tx.bind_ok] at h
  obtain ⟨reason, _, hreason, h⟩ := h
  obtain rfl := hrationale _ _ _ hreason
  simp only [Tx.require_bind_ok] at h
  obtain ⟨-, -, h⟩ := h
  rw [Tx.bind_ok] at h
  obtain ⟨read, _, hread, h⟩ := h
  rw [Tx.ofExcept_bind_ok] at h
  obtain ⟨result, hresult, h⟩ := h
  obtain ⟨rfl, row, hrow, rfl, hstate⟩ := read_ok hread
  obtain ⟨hid, hversion, hanswers⟩ := readSession_ok hstate
  by_cases hnil : result.2 = []
  · rw [if_pos hnil, Tx.pure_ok] at h
    obtain ⟨-, rfl⟩ := Prod.mk.inj h
    exact SessionsKept.refl db'
  · simp only [if_neg hnil, writeAnswers, expectedVersion, Tx.require_bind_ok,
      Tx.modify_bind_ok] at h
    obtain ⟨events, rfl⟩ := kept_event h.2
    simp only [setAnswers, hid, hversion]
    refine kept_update hrow ⟨rfl, rfl, fun id' hmem => ?_, Or.inr (Nat.lt_succ_self row.version)⟩
      events
    exact mem_keys_recordAnswers hresult (hanswers.symm ▸ hmem)

/-- Every call keeps the sessions. -/
lemma kept_step (db : QuestionDb) (call : QuestionCall) : SessionsKept db (step db call) := by
  refine Tx.commit_rel (SessionsKept.refl db) fun state db' h => ?_
  cases call with
  | start importId report actorId now => exact kept_start h
  | addFollowups importId questions actorId rationale expected now => exact kept_addFollowups h
  | answer importId answers actorId expected rationale now => exact kept_answer h

/-! ## The question for the sponsors -/

/-- The question that every questionnaire asks. -/
def AsksSponsors (questions : List ImportQuestion) : Prop :=
  ∃ q ∈ questions, q.questionId = "project.sponsors" ∧ q.answerKind = .stringList

lemma init_ok {questionId category prompt answerKind sourceKind sourceId issueCode : Json}
    {q : ImportQuestion}
    (h : ImportQuestion.init questionId category prompt answerKind sourceKind sourceId issueCode =
      .ok q) : .str q.questionId = questionId ∧
      AnswerKind.ofJson answerKind = some q.answerKind := by
  simp only [ImportQuestion.init, Check.bind_ok, Check.found_ok, Check.pure_ok] at h
  obtain ⟨id, hid, category, -, prompt, -, kind, hkind, sourceKind, -, sourceId, -, issueCode, -,
    rfl⟩ := h
  refine ⟨?_, hkind⟩
  unfold questionIdArg matching at hid
  split at hid
  · next s hs =>
    split at hid
    · obtain rfl := Except.ok.inj hid
      exact (Json.asString_eq_some.1 hs).symm
    · simp at hid
  · simp at hid

lemma asksSponsors_build {report : ImportDiscoveryReport} {questions : List ImportQuestion}
    (h : buildImportQuestions report = .ok questions) : AsksSponsors questions := by
  simp only [buildImportQuestions, Check.bind_ok, Check.that_ok, Check.pure_ok] at h
  obtain ⟨-, -, asked, hasked, -, -, rfl⟩ := h
  obtain ⟨q, hq, hok⟩ := Check.ok_of_mapM hasked (x := askProject "project.sponsors" "ownership"
    "Which sponsor identities may approve project gates?" .stringList) (by simp [openQuestions])
  obtain ⟨hid, hkind⟩ := init_ok hok
  refine ⟨q, mem_sortQuestions.2 hq, Json.str.inj hid, ?_⟩
  rw [AnswerKind.ofJson_name] at hkind
  exact (Option.some.inj hkind).symm

/-- No event takes a question away. -/
lemma subset_of_replay {events : List QuestionEvent}
    {state state' : List ImportQuestion × List (String × Json)}
    (h : events.foldlM replayEvent state = some state') : state.1 ⊆ state'.1 := by
  induction events generalizing state with
  | nil =>
    obtain rfl := Option.some.inj h
    exact List.Subset.refl _
  | cons e events ih =>
    rw [List.foldlM_cons] at h
    obtain ⟨next, hnext, h⟩ := Option.bind_eq_some_iff.1 h
    refine List.Subset.trans ?_ (ih h)
    unfold replayEvent at hnext
    split at hnext
    · obtain ⟨items, -, hnext⟩ := Option.bind_eq_some_iff.1 hnext
      obtain ⟨added, -, hnext⟩ := Option.bind_eq_some_iff.1 hnext
      obtain rfl := Option.some.inj hnext
      exact fun q hq => mem_sortQuestions.2 (List.mem_append_left added hq)
    · obtain ⟨items, -, hnext⟩ := Option.bind_eq_some_iff.1 hnext
      obtain ⟨values, -, hnext⟩ := Option.bind_eq_some_iff.1 hnext
      obtain rfl := Option.some.inj hnext
      exact List.Subset.refl _

lemma SessionOf.asksSponsors {row : QuestionSession} {events : List QuestionEvent}
    {report : ImportDiscoveryReport} {initial questions : List ImportQuestion}
    (h : SessionOf row events report initial questions) : AsksSponsors questions := by
  obtain ⟨q, hq, hid, hkind⟩ := asksSponsors_build h.built
  exact ⟨q, subset_of_replay h.replayed hq, hid, hkind⟩

/-- Texts that a question accepts are actors. -/
lemma mapM_actor {texts : List String} {maximum : ℕ} (hle : maximum ≤ 256) {field : String}
    (h : (texts.map Json.str).mapM (fun item => persistedText item field maximum) = .ok texts) :
    (texts.map Json.str).mapM ImportPreview.actor = .ok texts := by
  induction texts with
  | nil => rfl
  | cons t texts ih =>
    simp only [List.map_cons, List.mapM_cons, Check.bind_ok, Check.pure_ok] at h ⊢
    obtain ⟨s, hs, ss, hss, heq⟩ := h
    obtain ⟨rfl, rfl⟩ := List.cons.inj heq
    refine ⟨s, ?_, ss, ih hss, rfl⟩
    refine ImportPreview.safeText_ok.2 ?_
    unfold persistedText at hs
    cases hsafe : safeText (.str s) field maximum " must not contain a secret value" with
    | error e => simp [hsafe, Except.mapError] at hs
    | ok s' =>
      obtain rfl : s' = s := by simpa [hsafe, Except.mapError] using hs
      exact safeText_idem hsafe hle

/-- The sponsors of a session whose question for them is answered can be read. -/
lemma SessionOf.sponsors {row : QuestionSession} {events : List QuestionEvent}
    {report : ImportDiscoveryReport} {initial questions : List ImportQuestion}
    (h : SessionOf row events report initial questions)
    (hkey : "project.sponsors" ∈ row.answers.map Prod.fst) :
    ∃ sponsors, ImportPreview.sponsorsOf row.answers = .ok sponsors := by
  obtain ⟨⟨_, value⟩, ha, rfl⟩ := List.mem_map.1 hkey
  obtain ⟨q, hq, hid, hanswer⟩ := h.answered _ ha
  obtain ⟨q', hq', hid', hkind⟩ := h.asksSponsors
  obtain rfl := List.inj_on_of_nodup_map h.nodup hq' hq (hid'.trans hid.symm)
  rw [hkind] at hanswer
  obtain ⟨items, texts, rfl, hlength, htexts, hnodup, heq⟩ := listAnswer_ok.1 hanswer
  obtain rfl := Json.arr.inj heq
  have hget : (Json.obj row.answers).get? "project.sponsors" = some (.arr (texts.map .str)) :=
    (Json.get?_eq_some h.ordered).2 ha
  have hne : texts.map Json.str ≠ [] := List.length_pos_iff.1 hlength.1
  refine ⟨texts.insertionSort (· ≤ ·), ?_⟩
  simp only [ImportPreview.sponsorsOf, hget, Check.bind_ok, Check.found_ok, Check.that_ok,
    Check.pure_ok]
  exact ⟨_, rfl, (), hne, texts, mapM_actor (by omega) htexts, (), hnodup, rfl⟩

/-- A ready session has its sponsors answered. -/
lemma SessionOf.sponsors_mem {row : QuestionSession} {events : List QuestionEvent}
    {report : ImportDiscoveryReport} {initial questions : List ImportQuestion}
    (h : SessionOf row events report initial questions) (hready : row.status = .ready) :
    "project.sponsors" ∈ row.answers.map Prod.fst := by
  obtain ⟨q, hq, hid, -⟩ := h.asksSponsors
  exact hid ▸ h.complete.1 (h.ready.1 hready) q hq

end ImportQuestionStore

end AgenticMesh
