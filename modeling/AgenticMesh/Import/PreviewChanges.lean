import AgenticMesh.Import.PreviewStore
import AgenticMesh.Import.SessionSponsors

/-!
# What the preview store writes

A specification for each transaction of the preview store: either it leaves the
database alone, or it adds the next revision of an import, decides the latest
revision, or records the request of an activation.
-/

namespace AgenticMesh

namespace ImportPreviewStore

variable {lib : TextLibrary} {db db' : PreviewDb}

/-! ## Reading -/

/-- Everything that a preview is read from, apart from its row. -/
lemma readRow_row {row : PreviewRow} {report : Option Json} {preview : ImportPreview}
    (h : readRow lib row report = .ok preview) :
    preview.row = row ∧ validateManifest lib row.manifestSnapshot = .ok preview.manifest := by
  simp only [readRow, Check.bind_ok, Check.that_ok, Check.pure_ok] at h
  obtain ⟨manifest, hmanifest, -, -, selections, -, candidates, -, report, -, keys, -, -, -,
    -, -, -,
    -, rfl⟩ := h
  exact ⟨rfl, hmanifest⟩

/-- The status of a preview is not checked when it is read. -/
lemma readRow_status {row : PreviewRow} {report : Option Json} {preview : ImportPreview}
    (h : readRow lib row report = .ok preview) (status : PreviewStatus) :
    readRow lib { row with status } report =
      .ok { preview with row := { preview.row with status } } := by
  simp only [readRow, Check.bind_ok, Check.that_ok, Check.pure_ok] at h ⊢
  obtain ⟨manifest, hmanifest, _, hdigest, selections, hselections, candidates, hcandidates, report,
    hreport, keys, hkeys, _, hsel, _, hcand, _, hbody, rfl⟩ := h
  exact ⟨manifest, hmanifest, (), hdigest, selections, hselections, candidates, hcandidates, report,
    hreport, keys, hkeys, (), hsel, (), hcand, (), hbody, rfl⟩

/-- What a preview is read from. -/
def ReadsAs (lib : TextLibrary) (db : PreviewDb) (row : PreviewRow) (preview : ImportPreview) :
    Prop :=
  row ∈ db.previews ∧
    readRow lib row ((db.session row.importId).map QuestionSession.discoveryReport) = .ok preview

lemma ReadsAs.row_eq {row : PreviewRow} {preview : ImportPreview}
    (h : ReadsAs lib db row preview) : preview.row = row := (readRow_row h.2).1

lemma readPreview_ok {importId : String} {revision : ℕ} {preview : ImportPreview} :
    readPreview lib importId revision db = .ok (preview, db') ↔
      db' = db ∧ ∃ row, row.key = (importId, revision) ∧ ReadsAs lib db row preview := by
  simp only [readPreview, Tx.demand_bind_ok, Tx.query_bind_ok, Tx.ofExcept_ok]
  constructor
  · rintro ⟨row, hlookup, hread, rfl⟩
    obtain ⟨hrow, hkey⟩ := Table.lookup_eq_some.1 hlookup
    obtain ⟨rfl, rfl⟩ := Prod.mk.inj hkey
    exact ⟨rfl, row, rfl, hrow, hread⟩
  · rintro ⟨rfl, row, hkey, hrow, hread⟩
    obtain ⟨rfl, rfl⟩ := Prod.mk.inj hkey
    exact ⟨row, Table.lookup_mem hrow, hread, rfl⟩

lemma readPreview_ensures {importId : String} {revision : ℕ} :
    (readPreview lib importId revision).Ensures db (fun _ => True) fun preview db' =>
      db' = db ∧ ∃ row, row.key = (importId, revision) ∧ ReadsAs lib db row preview :=
  ⟨fun _ _ h => readPreview_ok.1 h, fun _ _ => trivial⟩

/-! ## The latest revision -/

lemma le_foldr_max {l : List ℕ} {n : ℕ} (h : n ∈ l) : n ≤ l.foldr max 0 := by
  induction l with
  | nil => exact absurd h List.not_mem_nil
  | cons m l ih =>
    obtain rfl | h := List.mem_cons.1 h
    · exact le_max_left n _
    · exact (ih h).trans (le_max_right m _)

lemma foldr_max_mem (l : List ℕ) : l.foldr max 0 = 0 ∨ l.foldr max 0 ∈ l := by
  induction l with
  | nil => exact Or.inl rfl
  | cons m l ih =>
    obtain h | h := max_choice m (l.foldr max 0)
    · exact Or.inr (by rw [List.foldr_cons, h]; exact List.mem_cons_self)
    · rw [List.foldr_cons, h]
      exact ih.imp_right (List.mem_cons_of_mem m)

lemma le_latestRevision {p : PreviewRow} (hp : p ∈ db.previews) :
    p.revision ≤ latestRevision p.importId db :=
  le_foldr_max (List.mem_map_of_mem (Table.mem_select.2 ⟨hp, rfl⟩))

lemma latestRevision_cases (importId : String) (db : PreviewDb) :
    latestRevision importId db = 0 ∨
      ∃ p ∈ db.previews, p.key = (importId, latestRevision importId db) := by
  refine (foldr_max_mem _).imp_right fun hmem => ?_
  obtain ⟨p, hp, hrevision⟩ := List.mem_map.1 hmem
  obtain ⟨hp, hid⟩ := Table.mem_select.1 hp
  exact ⟨p, hp, Prod.ext hid hrevision⟩

/-- The latest preview has the latest revision; without one, no revision has been made. -/
lemma revision_latest (importId : String) (db : PreviewDb) :
    ((latest importId db).map PreviewRow.revision).getD 0 = latestRevision importId db := by
  cases hlatest : latest importId db with
  | some p =>
    have hkey := (Table.lookup_eq_some.1 hlatest).2
    exact (Prod.mk.inj hkey).2
  | none =>
    obtain hzero | ⟨p, hp, hkey⟩ := latestRevision_cases importId db
    · exact hzero.symm
    · exact absurd hkey (Table.lookup_eq_none.1 hlatest p hp)

/-! ## Statuses -/

section Status

variable {importId : String} {revision : ℕ} {status : PreviewStatus} {p : PreviewRow}

lemma mem_setStatus_of_key (hp : p ∈ db.previews) (hkey : p.key = (importId, revision)) :
    { p with status } ∈ (setStatus importId revision status db).previews := by
  have hcond : p.importId = importId ∧ p.revision = revision := Prod.mk.inj hkey
  exact Table.mem_update_of_pos (p := fun p => p.importId = importId ∧ p.revision = revision)
    (f := { set := fun p => { p with status } }) hp hcond

lemma mem_setStatus_of_ne (hp : p ∈ db.previews) (hkey : p.key ≠ (importId, revision)) :
    p ∈ (setStatus importId revision status db).previews :=
  Table.mem_update_of_neg hp fun h => hkey (Prod.ext h.1 h.2)

/-- A row has the new status, or it is another one. -/
lemma mem_setStatus_cases (h : p ∈ (setStatus importId revision status db).previews) :
    (∃ q ∈ db.previews, q.key = (importId, revision) ∧ p = { q with status }) ∨
      (p ∈ db.previews ∧ p.key ≠ (importId, revision)) := by
  obtain ⟨q, hq, ⟨hid, hrevision⟩, rfl⟩ | ⟨hp, hne⟩ := Table.mem_update_cases h
  · exact Or.inl ⟨q, hq, Prod.ext hid hrevision, rfl⟩
  · exact Or.inr ⟨hp, fun hkey => hne (Prod.mk.inj hkey)⟩

/-- Only the status of a row changes. -/
lemma exists_mem_setStatus (hp : p ∈ db.previews) :
    ∃ status', { p with status := status' } ∈ (setStatus importId revision status db).previews := by
  by_cases hkey : p.key = (importId, revision)
  · exact ⟨status, mem_setStatus_of_key hp hkey⟩
  · exact ⟨p.status, mem_setStatus_of_ne hp hkey⟩

end Status

/-! ## Creating a preview -/

/-- A new latest revision. -/
structure Created (lib : TextLibrary) (db db' : PreviewDb) (row : PreviewRow) : Prop where
  session : ∃ session, db.session row.importId = some session ∧ session.status = .ready
  readable : ∃ preview,
    readRow lib row ((db.session row.importId).map QuestionSession.discoveryReport) = .ok preview
  draft : row.status = .draft
  revision : row.revision = latestRevision row.importId db + 1
  revisable : ∀ p ∈ latest row.importId db, p.status ≠ .approved ∧ p.status ≠ .activated
  fresh : ∀ p ∈ db.previews, p.importId = row.importId → p.previewDigest ≠ row.previewDigest
  previews : ∀ p, p ∈ db'.previews ↔ p = row ∨
    p ∈ (setStatus row.importId (latestRevision row.importId db) .superseded db).previews
  questions : db'.questions = db.questions
  decisions : db'.decisions = db.decisions
  activations : db'.activations = db.activations

/-- The statements of `create_preview` that write. -/
lemma revise_ensures {r : CreatePreview} {content : PreviewContent} {digest : String}
    (hready : ∃ session, db.session content.importId = some session ∧ session.status = .ready) :
    (revise lib r content digest (latest content.importId db)
      (latestRevision content.importId db)).Ensures db (fun _ => True) fun _ db' =>
        ∃ row, Created lib db db' row := by
  refine Tx.ensures_require_bind (fun _ => trivial) fun _ => ?_
  refine Tx.ensures_require_bind (fun _ => trivial) fun _ => ?_
  refine Tx.ensures_require_bind (fun _ => trivial) fun hrevisable => ?_
  refine Tx.ensures_modify_bind ?_
  -- before the first revision there is no row whose status the statement sets
  have hset : (if (latest content.importId db).isSome then
      setStatus content.importId (latestRevision content.importId db) .superseded db else db) =
      setStatus content.importId (latestRevision content.importId db) .superseded db := by
    split
    · rfl
    · next hnone =>
      have hlookup : latest content.importId db = none := by simpa using hnone
      have hsame := Table.update_congr (t := db.previews)
        (p := fun p => p.importId = content.importId ∧
          p.revision = latestRevision content.importId db) (q := fun _ => False)
        (f := { set := fun p => { p with status := PreviewStatus.superseded } }) fun p hp => by
          refine iff_false_intro fun hcond => Table.lookup_eq_none.1 hlookup p hp ?_
          exact Prod.ext hcond.1 hcond.2
      have hrows : (db.previews.update (fun _ => False)
          { set := fun p => { p with status := PreviewStatus.superseded } }) = db.previews := by
        cases hpreviews : db.previews
        simp [Table.update]
      simp only [setStatus, hsame, hrows]
  rw [hset]
  refine Tx.ensures_attempt_bind (fun _ => trivial) fun db' hinsert => ?_
  refine readPreview_ensures.mono (fun _ _ => trivial) ?_
  rintro preview _ ⟨rfl, row, hkey, hread⟩
  unfold insertPreview at hinsert
  split at hinsert
  · simp at hinsert
  next hfresh =>
  obtain ⟨previews, hins, rfl⟩ := Option.map_eq_some_iff.1 hinsert
  have hmem := Table.mem_of_insert hins
  have hnew : row = newPreview r content digest (latestRevision content.importId db + 1) :=
    previews.eq_of_key hread.1 ((hmem _).2 (Or.inr rfl)) hkey
  subst hnew
  refine ⟨newPreview r content digest (latestRevision content.importId db + 1), ?_⟩
  exact {
    session := hready
    readable := ⟨preview, hread.2⟩
    draft := rfl
    revision := rfl
    revisable := hrevisable
    fresh := by
      rintro p hp hid heq
      obtain ⟨status, hmem⟩ := exists_mem_setStatus hp
      exact hfresh ⟨_, hmem, hid, heq⟩
    previews := fun p => (hmem p).trans or_comm
    questions := rfl
    decisions := rfl
    activations := rfl }

lemma createPreview_ensures {r : CreatePreview} :
    (createPreview lib r).Ensures db (fun _ => True) fun _ db' =>
      db' = db ∨ ∃ row, Created lib db db' row := by
  refine Tx.ensures_ofExcept_bind (fun _ _ => trivial) fun content _ => ?_
  refine @Tx.Ensures.mapError _ _ _ _ _ _ _ _ _ (fun _ => True) ?_ fun _ _ => trivial
  have hlock : (lockResolution content.importId r.resolution).Ensures db (fun _ => True)
      fun session db' => db' = db ∧ db.session content.importId = some session ∧
        session.status = .ready := by
    refine Tx.ensures_demand_bind (fun _ => trivial) fun session hsession => ?_
    refine Tx.ensures_require_bind (fun _ => trivial) fun hcurrent => ?_
    refine Tx.ensures_ofExcept_bind (fun _ _ => trivial) fun sponsors _ => ?_
    exact Tx.ensures_pure ⟨rfl, hsession, hcurrent.1⟩
  refine hlock.bind ?_
  rintro session _ ⟨rfl, hsession, hready⟩
  refine Tx.ensures_ofExcept_bind (fun _ _ => trivial) fun _ _ => ?_
  refine Tx.ensures_ofExcept_bind (fun _ _ => trivial) fun keys _ => ?_
  refine Tx.ensures_ofExcept_bind (fun _ _ => trivial) fun _ _ => ?_
  refine Tx.ensures_ofExcept_bind (fun _ _ => trivial) fun _ _ => ?_
  refine Tx.ensures_query_bind ?_
  rw [revision_latest]
  refine Tx.ensures_ite (fun _ => ?_) fun _ => ?_
  · exact readPreview_ensures.mono (fun _ _ => trivial) fun _ _ h => Or.inl h.1
  · exact (revise_ensures ⟨session, hsession, hready⟩).mono (fun _ _ => trivial)
      fun _ _ h => Or.inr h

/-! ## Deciding -/

lemma ensurePreviewCurrent_ensures (preview : ImportPreview) :
    (ensurePreviewCurrent preview).Ensures db (fun _ => True) fun _ db' => db' = db ∧
      ∃ session, db.session preview.row.importId = some session ∧ Current preview.row session := by
  refine ⟨fun _ db' h => ?_, fun _ _ => trivial⟩
  simp only [ensurePreviewCurrent, lockSession, Tx.demand_bind_ok, Tx.require_ok] at h
  obtain ⟨session, hsession, hcurrent, rfl⟩ := h
  exact ⟨rfl, session, hsession, hcurrent⟩

lemma sessionSponsors_ensures {importId : String} :
    (sessionSponsors importId).Ensures db (fun _ => True) fun sponsors db' => db' = db ∧
      ∃ session, db.session importId = some session ∧
        ImportPreview.sponsorsOf session.answers = .ok sponsors := by
  refine ⟨fun sponsors db' h => ?_, fun _ _ => trivial⟩
  simp only [sessionSponsors, lockSession, Tx.demand_bind_ok, Tx.ofExcept_ok] at h
  obtain ⟨session, hsession, hsponsors, rfl⟩ := h
  exact ⟨rfl, session, hsession, hsponsors⟩

/-- A sponsor decides the latest revision, which is current. -/
structure Decided (db db' : PreviewDb) (d : ImportPreviewDecision) : Prop where
  draft : ∃ p ∈ db.previews, p.key = d.key ∧ p.status = .draft ∧
    ∃ session, db.session d.importId = some session ∧ Current p session ∧
      ∃ sponsors, ImportPreview.sponsorsOf session.answers = .ok sponsors ∧ d.sponsorId ∈ sponsors
  latest : d.revision = latestRevision d.importId db
  decisions : db.decisions.insert d = some db'.decisions
  previews : db'.previews = (setStatus d.importId d.revision d.decision.status db).previews
  questions : db'.questions = db.questions
  activations : db'.activations = db.activations

lemma decidePreview_ensures {r : DecidePreview} :
    (decidePreview lib r).Ensures db (fun _ => True) fun d db' =>
      db' = db ∨ Decided db db' d := by
  refine Tx.ensures_ofExcept_bind (fun _ _ => trivial) fun d _ => ?_
  refine @Tx.Ensures.mapError _ _ _ _ _ _ _ _ _ (fun _ => True) ?_ fun _ _ => trivial
  refine readPreview_ensures.bind ?_
  rintro preview db ⟨rfl, row, hkey, hread⟩
  refine Tx.ensures_query_bind ?_
  have hrow := hread.row_eq
  cases db.decisions.lookup (d.importId, d.revision) with
  | some existing =>
    refine Tx.ensures_require_bind (fun _ => trivial) fun _ => ?_
    exact Tx.ensures_pure (Or.inl rfl)
  | none =>
    refine Tx.ensures_query_bind ?_
    refine Tx.ensures_require_bind (fun _ => trivial) fun hlatest => ?_
    refine (ensurePreviewCurrent_ensures preview).bind ?_
    rintro ⟨⟩ _ ⟨rfl, session, hsession, hcurrent⟩
    refine sessionSponsors_ensures.bind ?_
    rintro sponsors _ ⟨rfl, session', hsession', hsponsors⟩
    refine Tx.ensures_require_bind (fun _ => trivial) fun hsponsor => ?_
    refine Tx.ensures_attempt_bind (fun _ => trivial) fun db' hinsert => ?_
    refine Tx.ensures_modify_bind (Tx.ensures_pure (Or.inr ?_))
    obtain ⟨decisions, hins, rfl⟩ := Option.map_eq_some_iff.1 hinsert
    rw [hrow] at hlatest hsession hcurrent
    obtain ⟨hid, -⟩ := Prod.mk.inj hkey
    rw [hid] at hsession
    obtain rfl : session = session' := Option.some.inj (hsession.symm.trans hsession')
    exact {
      draft := ⟨row, hread.1, hkey, hlatest.2, session, hsession, hcurrent, sponsors, hsponsors,
        hsponsor⟩
      latest := hlatest.1
      decisions := hins
      previews := rfl
      questions := rfl
      activations := rfl }

/-! ## Activating -/

/-- A request has the contents of a preview. -/
structure RequestOf (preview : ImportPreview) (r : ImportActivationRequest) : Prop where
  importId : r.importId = preview.row.importId
  revision : r.revision = preview.row.revision
  manifest : r.manifest = preview.manifest
  sourceSelections : r.sourceSelections = preview.sourceSelections
  selectedCandidates : r.selectedCandidates =
    ImportPreview.selectedCandidates preview.backlogCandidates preview.row.selectedCandidateIds

/-- An activation records the operation of a request. -/
structure Records (a : ActivationRow) (r : ImportActivationRequest) : Prop where
  importId : a.importId = r.importId
  revision : a.revision = r.revision
  operationId : a.operationId = r.operationId
  requestedBy : a.requestedBy = r.requestedBy

/-- The request of a current and approved revision is recorded as the activation of the import. -/
structure Requested (lib : TextLibrary) (db db' : PreviewDb) (r : ImportActivationRequest) :
    Prop where
  content : ∃ row preview, ReadsAs lib db row preview ∧ RequestOf preview r ∧
    ∃ session, db.session r.importId = some session ∧ Current row session ∧
      ImportPreview.sponsorsOf session.answers = .ok r.sponsorIds
  approved : ∃ d ∈ db.decisions, d.key = (r.importId, r.revision) ∧ d.decision = .approved
  before : ∀ a ∈ db.activations.lookup r.importId, Records a r ∧ a.status.receipt? = none
  first : db.activations.lookup r.importId = none →
    ∃ p ∈ db.previews, p.key = (r.importId, r.revision) ∧ p.status = .approved
  after : ∃ a, db'.activations.lookup r.importId = some a ∧ Records a r ∧
    a.status.receipt? = none
  others : ∀ id, id ≠ r.importId → db'.activations.lookup id = db.activations.lookup id
  questions : db'.questions = db.questions
  previews : db'.previews = db.previews
  decisions : db'.decisions = db.decisions

/-- What the first transaction of an activation commits: a request that is recorded, or the
receipt that is stored. -/
def Begun (lib : TextLibrary) (db : PreviewDb) :
    ImportActivationRequest × Option ImportActivationReceipt → PreviewDb → Prop
  | (r, none), db' => Requested lib db db' r
  | (_, some _), db' => db' = db

lemma request_ensures (db : PreviewDb) {preview : ImportPreview} {row : PreviewRow}
    (hread : ReadsAs lib db row preview) (operationId requestedBy : String) :
    (request lib preview operationId requestedBy).Ensures db (fun _ => True) fun r db' =>
      db' = db ∧ RequestOf preview r ∧ r.operationId = operationId ∧
        r.requestedBy = requestedBy ∧ ∃ session, db.session preview.row.importId = some session ∧
          ImportPreview.sponsorsOf session.answers = .ok r.sponsorIds := by
  refine Tx.ensures_ofExcept_bind (fun _ _ => trivial) fun manifest hmanifest => ?_
  refine sessionSponsors_ensures.bind ?_
  rintro sponsors _ ⟨rfl, session, hsession, hsponsors⟩
  refine Tx.ensures_pure ⟨rfl, ?_, rfl, rfl, session, hsession, hsponsors⟩
  obtain ⟨hrow, hvalid⟩ := readRow_row hread.2
  rw [hrow, hvalid] at hmanifest
  exact ⟨rfl, rfl, (Except.ok.inj hmanifest).symm, rfl, rfl⟩

/-- The activation is there already, or it is new. -/
def Claimed (preview : ImportPreview) (activation : ActivationRow) (db : PreviewDb)
    (a : ActivationRow) (db' : PreviewDb) : Prop :=
  (db.activations.lookup activation.importId = some a ∧ a.revision = activation.revision ∧
    a.operationId = activation.operationId ∧ db' = db) ∨
  (db.activations.lookup activation.importId = none ∧ preview.row.status = .approved ∧
    a = activation ∧ ∃ activations, db.activations.insert activation = some activations ∧
      db' = { db with activations })

lemma claimActivation_ensures {preview : ImportPreview} {activation : ActivationRow} :
    (claimActivation preview activation).Ensures db (fun _ => True)
      (Claimed preview activation db) := by
  refine Tx.ensures_query_bind ?_
  cases hlookup : db.activations.lookup activation.importId with
  | some existing =>
    refine Tx.ensures_require_bind (fun _ => trivial) fun hsame => Tx.ensures_pure ?_
    exact Or.inl ⟨hlookup, hsame.1, hsame.2, rfl⟩
  | none =>
    refine Tx.ensures_require_bind (fun _ => trivial) fun hstatus => ?_
    refine Tx.ensures_attempt_bind (fun _ => trivial) fun db' hinsert => Tx.ensures_pure ?_
    obtain ⟨activations, hins, rfl⟩ := Option.map_eq_some_iff.1 hinsert
    exact Or.inr ⟨hlookup, hstatus, rfl, activations, hins, rfl⟩

/-- A claimed activation is the one of its import, and no other one changes. -/
lemma Claimed.lookup {preview : ImportPreview} {activation a : ActivationRow}
    (h : Claimed preview activation db a db') (id : String) :
    db'.activations.lookup id =
      if activation.importId = id then some a else db.activations.lookup id := by
  obtain ⟨hlookup, -, -, rfl⟩ | ⟨-, -, rfl, activations, hins, rfl⟩ := h
  · split
    · next hid => rw [← hid, hlookup]
    · rfl
  · exact Table.lookup_of_insert hins id

lemma lookup_countAttempt (importId id : String) :
    (countAttempt importId db).activations.lookup id = (db.activations.lookup id).map fun a =>
      if a.importId = importId then
        { a with
          attempts := a.attempts + 1
          status := a.status.withoutError }
      else a := Table.lookup_update id

lemma beginActivation_ensures {r : ActivateImport} :
    (beginActivation lib r).Ensures db (fun _ => True) (Begun lib db) := by
  refine Tx.ensures_ofExcept_bind (fun _ _ => trivial) fun activation hactivation => ?_
  have hpending : activation.status = .pending none := by
    simp only [activationArg, Check.bind_ok, Check.pure_ok] at hactivation
    obtain ⟨-, -, -, -, -, -, -, -, rfl⟩ := hactivation
    rfl
  refine @Tx.Ensures.mapError _ _ _ _ _ _ _ _ _ (fun _ => True) ?_ fun _ _ => trivial
  refine readPreview_ensures.bind ?_
  rintro preview db ⟨rfl, row, hkey, hread⟩
  refine Tx.ensures_query_bind ?_
  refine Tx.ensures_require_bind (fun _ => trivial) fun happroved => ?_
  obtain ⟨d, hd, hdecision⟩ := Option.map_eq_some_iff.1 happroved
  obtain ⟨hmem, hdkey⟩ := Table.lookup_eq_some.1 hd
  refine claimActivation_ensures.bind fun a db₁ hclaimed => ?_
  have hlookup := hclaimed.lookup
  have hrow := hread.row_eq
  obtain ⟨hrowid, hrowrev⟩ := Prod.mk.inj hkey
  have hactivations : ∃ activations, db₁ = { db with activations } := by
    obtain ⟨-, -, -, rfl⟩ | ⟨-, -, -, activations, -, rfl⟩ := hclaimed
    · exact ⟨_, rfl⟩
    · exact ⟨activations, rfl⟩
  obtain ⟨activations, rfl⟩ := hactivations
  cases hstatus : a.status with
  | activated receipt =>
    refine (request_ensures { db with activations } hread _ _).bind ?_
    rintro request _ ⟨rfl, -⟩
    refine Tx.ensures_ofExcept_bind (fun _ _ => trivial) fun stored _ => Tx.ensures_pure ?_
    obtain ⟨-, -, -, hdb⟩ | ⟨-, -, rfl, -⟩ := hclaimed
    · exact hdb
    · simp [hpending] at hstatus
  | pending lastError =>
    refine (ensurePreviewCurrent_ensures preview).bind ?_
    rintro ⟨⟩ _ ⟨rfl, session, hsession, hcurrent⟩
    refine Tx.ensures_modify_bind ?_
    refine (request_ensures (countAttempt activation.importId { db with activations })
      hread _ _).bind ?_
    rintro request _ ⟨rfl, hrequest, hoperation, hby, session', hsession', hsponsors⟩
    refine Tx.ensures_pure ?_
    rw [hrow] at hsession hcurrent hsession'
    obtain rfl : session = session' := Option.some.inj (hsession.symm.trans hsession')
    have hid : request.importId = activation.importId := by rw [hrequest.importId, hrow, hrowid]
    have hrevision : request.revision = activation.revision := by
      rw [hrequest.revision, hrow, hrowrev]
    have haid : a.importId = activation.importId := by
      have hself := hlookup activation.importId
      rw [if_pos rfl] at hself
      exact (Table.lookup_eq_some.1 hself).2
    have hrecords : Records a request := by
      obtain ⟨-, harev, haop, -⟩ | ⟨-, -, rfl, -⟩ := hclaimed
      · exact ⟨haid.trans hid.symm, harev.trans hrevision.symm, haop.trans hoperation.symm,
          hby.symm⟩
      · exact ⟨hid.symm, hrevision.symm, hoperation.symm, hby.symm⟩
    change Requested lib db _ request
    exact {
      content := ⟨row, preview, hread, hrequest, session, by rw [hid, ← hrowid]; exact hsession,
        hcurrent, hsponsors⟩
      approved := ⟨d, hmem, by rw [hid, hrevision]; exact hdkey, hdecision⟩
      before := by
        intro b hb
        rw [hid] at hb
        obtain ⟨hfound, -⟩ | ⟨hnone, -⟩ := hclaimed
        · obtain rfl := Option.some.inj (hfound.symm.trans hb)
          exact ⟨hrecords, by rw [hstatus]; rfl⟩
        · rw [hnone] at hb
          cases hb
      first := by
        intro hnone
        rw [hid] at hnone
        obtain ⟨hfound, -⟩ | ⟨-, happrove, -⟩ := hclaimed
        · simp [hfound] at hnone
        · refine ⟨row, hread.1, ?_, hrow ▸ happrove⟩
          rw [hid, hrevision]
          exact hkey
      after := by
        refine ⟨{ a with
          attempts := a.attempts + 1
          status := a.status.withoutError }, ?_, ?_, ?_⟩
        · rw [lookup_countAttempt, hlookup, hid, if_pos rfl, Option.map_some, if_pos haid]
        · exact ⟨hrecords.importId, hrecords.revision, hrecords.operationId, hrecords.requestedBy⟩
        · simp only [hstatus]
          rfl
      others := by
        intro id hne
        have hne' : activation.importId ≠ id := fun h => hne (by rw [hid, h])
        rw [lookup_countAttempt, hlookup, if_neg hne']
        cases hother : db.activations.lookup id with
        | none => rfl
        | some b =>
          have hbid : b.importId = id := (Table.lookup_eq_some.1 hother).2
          rw [Option.map_some, if_neg fun h => hne' (h.symm.trans hbid)]
      questions := rfl
      previews := rfl
      decisions := rfl }

end ImportPreviewStore

end AgenticMesh
