import AgenticMesh.Import.PreviewChanges

/-!
# The history of an import

Whatever order previews are created, decided and activated in, an import has at
most one activation, and its request is that of a revision that a sponsor
approved while it was the latest one and its questions were answered as it says.
What is recorded stays: the contents of a revision, its decision, and the
operation and the receipt of the activation.
-/

namespace AgenticMesh

open ImportQuestionStore (QuestionInv SessionOf)

namespace ImportPreviewStore

variable {lib : TextLibrary} {db db' : PreviewDb}

/-- The activation of the import records the request. -/
def Recorded (db : PreviewDb) (r : ImportActivationRequest) : Prop :=
  ∃ a ∈ db.activations, Records a r

/-! ## What can happen to the database -/

/-- An activation is done. -/
structure Completed (db db' : PreviewDb) (r : ImportActivationRequest)
    (receipt : ImportActivationReceipt) : Prop where
  recorded : Recorded db r
  agrees : ReceiptMatches r receipt
  eq : db' = complete r receipt db

/-- The steps of the system on the database. -/
inductive Changed (lib : TextLibrary) (db : PreviewDb) : PreviewDb → Prop
  | same : Changed lib db db
  | questions (call : ImportQuestionStore.QuestionCall) :
    Changed lib db { db with questions := ImportQuestionStore.step db.questions call }
  | created {db' : PreviewDb} (row : PreviewRow) (h : Created lib db db' row) : Changed lib db db'
  | decided {db' : PreviewDb} (d : ImportPreviewDecision) (h : Decided db db' d) :
    Changed lib db db'
  | requested {db' : PreviewDb} (r : ImportActivationRequest) (h : Requested lib db db' r) :
    Changed lib db db'
  | failed {db' : PreviewDb} (importId operationId : String)
      (h : recordFailure importId operationId db = some db') : Changed lib db db'
  | completed {db' : PreviewDb} (r : ImportActivationRequest) (receipt : ImportActivationReceipt)
      (h : Completed db db' r receipt) : Changed lib db db'

/-! ## What stays -/

/-- A database and a later one. -/
structure Extends (db db' : PreviewDb) : Prop where
  sessions : SessionsKept db.questions db'.questions
  previews : ∀ p ∈ db.previews, ∃ status, { p with status } ∈ db'.previews
  decisions : ∀ d ∈ db.decisions, d ∈ db'.decisions
  activations : ∀ a ∈ db.activations, ∃ a' ∈ db'.activations, a'.importId = a.importId ∧
    a'.revision = a.revision ∧ a'.operationId = a.operationId ∧ a'.requestedBy = a.requestedBy ∧
    ∀ receipt, a.status = .activated receipt → a'.status = .activated receipt

lemma Extends.refl (db : PreviewDb) : Extends db db where
  sessions := SessionsKept.refl db.questions
  previews := fun p hp => ⟨p.status, hp⟩
  decisions := fun _ hd => hd
  activations := fun a ha => ⟨a, ha, rfl, rfl, rfl, rfl, fun _ h => h⟩

lemma Extends.trans {a b c : PreviewDb} (hab : Extends a b) (hbc : Extends b c) :
    Extends a c where
  sessions := hab.sessions.trans hbc.sessions
  previews := by
    intro p hp
    obtain ⟨status, hp'⟩ := hab.previews p hp
    obtain ⟨status', hp''⟩ := hbc.previews _ hp'
    exact ⟨status', hp''⟩
  decisions := fun d hd => hbc.decisions d (hab.decisions d hd)
  activations := by
    intro x hx
    obtain ⟨y, hy, hid, hrevision, hop, hby, hreceipt⟩ := hab.activations x hx
    obtain ⟨z, hz, hid', hrevision', hop', hby', hreceipt'⟩ := hbc.activations y hy
    exact ⟨z, hz, hid'.trans hid, hrevision'.trans hrevision, hop'.trans hop, hby'.trans hby,
      fun receipt h => hreceipt' receipt (hreceipt receipt h)⟩

lemma Extends.session (h : Extends db db') {importId : String} {session : QuestionSession}
    (hsession : db.session importId = some session) :
    ∃ session', db'.session importId = some session' ∧ SessionNext session session' := by
  obtain ⟨hmem, rfl⟩ := Table.lookup_eq_some.1 hsession
  obtain ⟨session', hmem', hnext⟩ := h.sessions session hmem
  exact ⟨session', Table.lookup_eq_some.2 ⟨hmem', hnext.importId⟩, hnext⟩

lemma Extends.recorded (h : Extends db db') {r : ImportActivationRequest}
    (hr : Recorded db r) : Recorded db' r := by
  obtain ⟨a, ha, hrecords⟩ := hr
  obtain ⟨a', ha', hid, hrevision, hop, hby, -⟩ := h.activations a ha
  exact ⟨a', ha', hid.trans hrecords.importId, hrevision.trans hrecords.revision,
    hop.trans hrecords.operationId, hby.trans hrecords.requestedBy⟩

/-- A preview is read for as long as the session keeps its report. -/
lemma Extends.reads (h : Extends db db') {row : PreviewRow} {preview : ImportPreview}
    {session : QuestionSession} (hsession : db.session row.importId = some session)
    (hread : ReadsAs lib db row preview) : ∃ status,
      ReadsAs lib db' { row with status } { preview with row := { preview.row with status } } := by
  obtain ⟨hrow, hok⟩ := hread
  obtain ⟨status, hrow'⟩ := h.previews row hrow
  obtain ⟨session', hsession', hnext⟩ := h.session hsession
  have hok' := readRow_status hok status
  rw [hsession, Option.map_some, ← hnext.report] at hok'
  refine ⟨status, hrow', ?_⟩
  change readRow lib _ ((db'.session row.importId).map _) = _
  rw [hsession']
  exact hok'

lemma Changed.extends (h : Changed lib db db') : Extends db db' := by
  cases h with
  | same => exact Extends.refl db
  | questions call =>
    exact { Extends.refl db with sessions := ImportQuestionStore.kept_step db.questions call }
  | created row h =>
    exact {
      sessions := h.questions ▸ SessionsKept.refl db.questions
      previews := by
        intro p hp
        obtain ⟨status, hp'⟩ := exists_mem_setStatus hp
        exact ⟨status, (h.previews _).2 (Or.inr hp')⟩
      decisions := fun d hd => h.decisions ▸ hd
      activations := by
        intro a ha
        rw [h.activations]
        exact (Extends.refl db).activations a ha }
  | decided d h =>
    exact {
      sessions := h.questions ▸ SessionsKept.refl db.questions
      previews := by
        intro p hp
        rw [h.previews]
        exact exists_mem_setStatus hp
      decisions := fun e he => (Table.mem_of_insert h.decisions e).2 (Or.inl he)
      activations := by
        intro a ha
        rw [h.activations]
        exact (Extends.refl db).activations a ha }
  | requested r h =>
    exact {
      sessions := h.questions ▸ SessionsKept.refl db.questions
      previews := by
        intro p hp
        rw [h.previews]
        exact (Extends.refl db).previews p hp
      decisions := fun d hd => h.decisions ▸ hd
      activations := by
        intro a ha
        have hlookup := Table.lookup_mem ha
        by_cases hid : a.importId = r.importId
        · obtain ⟨a', hafter, hrecords', -⟩ := h.after
          obtain ⟨hrecords, hpending⟩ := h.before a (by rw [← hid]; exact hlookup)
          refine ⟨a', (Table.lookup_eq_some.1 hafter).1, ?_, ?_, ?_, ?_, fun receipt hstatus => ?_⟩
          · exact hrecords'.importId.trans hrecords.importId.symm
          · exact hrecords'.revision.trans hrecords.revision.symm
          · exact hrecords'.operationId.trans hrecords.operationId.symm
          · exact hrecords'.requestedBy.trans hrecords.requestedBy.symm
          · rw [hstatus] at hpending
            cases hpending
        · have hother := h.others a.importId hid
          refine ⟨a, ?_, rfl, rfl, rfl, rfl, fun _ hs => hs⟩
          exact (Table.lookup_eq_some.1 (hother.trans hlookup)).1 }
  | failed importId operationId h =>
    unfold recordFailure at h
    split at h
    · simp at h
    next hnone =>
    obtain rfl := Option.some.inj h
    refine { Extends.refl db with activations := fun a ha => ?_ }
    by_cases hcond : a.importId = importId ∧ a.operationId = operationId
    · refine ⟨_, Table.mem_update_of_pos ha hcond, rfl, rfl, rfl, rfl, fun receipt hstatus => ?_⟩
      exact absurd ⟨a, ha, hcond.1, hcond.2, by simp [hstatus, ActivationStatus.receipt?]⟩ hnone
    · exact ⟨a, Table.mem_update_of_neg ha hcond, rfl, rfl, rfl, rfl, fun _ hs => hs⟩
  | completed r receipt h =>
    rw [h.eq]
    exact {
      sessions := SessionsKept.refl db.questions
      previews := by
        intro p hp
        by_cases hcond : p.importId = r.importId ∧ p.revision = r.revision ∧ p.status = .approved
        · exact ⟨.activated, Table.mem_update_of_pos (p := fun p : PreviewRow =>
            p.importId = r.importId ∧ p.revision = r.revision ∧ p.status = .approved)
            (f := { set := fun p => { p with status := .activated } }) hp hcond⟩
        · exact ⟨p.status, Table.mem_update_of_neg hp hcond⟩
      decisions := fun _ hd => hd
      activations := by
        intro a ha
        by_cases hcond : a.importId = r.importId ∧ a.revision = r.revision ∧
            a.operationId = r.operationId ∧ a.status.receipt? = none
        · refine ⟨_, Table.mem_update_of_pos ha hcond, rfl, rfl, rfl, rfl, fun stored hstatus => ?_⟩
          rw [hstatus] at hcond
          cases hcond.2.2.2
        · exact ⟨a, Table.mem_update_of_neg ha hcond, rfl, rfl, rfl, rfl, fun _ hs => hs⟩ }

/-! ## Where the rows come from -/

/-- A preview was there before, with some status, or it is a new revision. -/
lemma Changed.origin (h : Changed lib db db') {p : PreviewRow} (hp : p ∈ db'.previews) :
    (∃ status, { p with status } ∈ db.previews) ∨ Created lib db db' p := by
  have hset : ∀ {importId revision status}, p ∈ (setStatus importId revision status db).previews →
      ∃ status, { p with status } ∈ db.previews := by
    intro importId revision status hmem
    obtain ⟨q, hq, -, rfl⟩ | ⟨hp, -⟩ := mem_setStatus_cases hmem
    · exact ⟨q.status, hq⟩
    · exact ⟨p.status, hp⟩
  cases h with
  | same => exact Or.inl ⟨p.status, hp⟩
  | questions call => exact Or.inl ⟨p.status, hp⟩
  | created row h =>
    obtain rfl | hmem := (h.previews p).1 hp
    · exact Or.inr h
    · exact Or.inl (hset hmem)
  | decided d h => exact Or.inl (hset (h.previews ▸ hp))
  | requested r h => exact Or.inl ⟨p.status, h.previews ▸ hp⟩
  | failed importId operationId h =>
    unfold recordFailure at h
    split at h
    · simp at h
    · obtain rfl := Option.some.inj h
      exact Or.inl ⟨p.status, hp⟩
  | completed r receipt h =>
    rw [h.eq] at hp
    obtain ⟨q, hq, -, rfl⟩ | ⟨hp, -⟩ := Table.mem_update_cases hp
    · exact Or.inl ⟨q.status, hq⟩
    · exact Or.inl ⟨p.status, hp⟩

/-- An activation was there before, or it records a new request; a new receipt is one that the
activator returned. -/
lemma Changed.activation (h : Changed lib db db') {a : ActivationRow}
    (ha : a ∈ db'.activations) :
    (∃ b ∈ db.activations, b.importId = a.importId ∧ b.revision = a.revision ∧
      ∀ stored, a.status = .activated stored → b.status = .activated stored ∨
        ∃ receipt : ImportActivationReceipt, stored = receipt.toDict) ∨
    ∃ r, Requested lib db db' r ∧ Records a r ∧ a.status.receipt? = none := by
  have hkept : a ∈ db.activations → ∃ b ∈ db.activations, b.importId = a.importId ∧
      b.revision = a.revision ∧ ∀ stored, a.status = .activated stored →
        b.status = .activated stored ∨
          ∃ receipt : ImportActivationReceipt, stored = receipt.toDict :=
    fun ha => ⟨a, ha, rfl, rfl, fun _ h => Or.inl h⟩
  cases h with
  | same => exact Or.inl (hkept ha)
  | questions call => exact Or.inl (hkept ha)
  | created row h => exact Or.inl (hkept (h.activations ▸ ha))
  | decided d h => exact Or.inl (hkept (h.activations ▸ ha))
  | requested r h =>
    have hlookup := Table.lookup_mem ha
    by_cases hid : a.importId = r.importId
    · obtain ⟨a', hafter, hrecords, hpending⟩ := h.after
      have hsame : a' = a := by
        have hfound := hafter
        rw [← hid] at hfound
        exact Option.some.inj (hfound.symm.trans hlookup)
      exact Or.inr ⟨r, h, hsame ▸ hrecords, hsame ▸ hpending⟩
    · have hother := (h.others a.importId hid).symm.trans hlookup
      exact Or.inl (hkept (Table.lookup_eq_some.1 hother).1)
  | failed importId operationId h =>
    unfold recordFailure at h
    split at h
    · simp at h
    · obtain rfl := Option.some.inj h
      obtain ⟨b, hb, -, rfl⟩ | ⟨ha, -⟩ := Table.mem_update_cases ha
      · refine Or.inl ⟨b, hb, rfl, rfl, fun stored hstored => ?_⟩
        cases hstored
      · exact Or.inl (hkept ha)
  | completed r receipt h =>
    rw [h.eq] at ha
    obtain ⟨b, hb, -, rfl⟩ | ⟨ha, -⟩ := Table.mem_update_cases ha
    · refine Or.inl ⟨b, hb, rfl, rfl, fun stored hstored => Or.inr ⟨receipt, ?_⟩⟩
      exact (ActivationStatus.activated.inj hstored).symm
    · exact Or.inl (hkept ha)

/-! ## The invariant -/

/-- A later revision of an import exists. -/
def Later (db : PreviewDb) (p : PreviewRow) : Prop :=
  ∃ q ∈ db.previews, q.importId = p.importId ∧ p.revision < q.revision

/-- The tables of the previews after any calls. -/
structure PreviewInv (lib : TextLibrary) (db : PreviewDb) : Prop where
  questions : QuestionInv db.questions
  readable : ∀ p ∈ db.previews, ∃ session preview, db.session p.importId = some session ∧
    "project.sponsors" ∈ session.answers.map Prod.fst ∧ ReadsAs lib db p preview
  revisions : ∀ p ∈ db.previews, 1 ≤ p.revision ∧
    ∀ k, 1 ≤ k → k ≤ p.revision → ∃ q ∈ db.previews, q.key = (p.importId, k)
  superseded : ∀ p ∈ db.previews, p.status = .superseded ↔ Later db p
  digests : ∀ p ∈ db.previews, ∀ q ∈ db.previews, p.importId = q.importId →
    p.previewDigest = q.previewDigest → p.revision = q.revision
  activations : ∀ a ∈ db.activations, (∃ p ∈ db.previews, p.key = (a.importId, a.revision)) ∧
    (∃ d ∈ db.decisions, d.key = (a.importId, a.revision) ∧ d.decision = .approved) ∧
    ∀ stored, a.status = .activated stored →
      ∃ receipt : ImportActivationReceipt, stored = receipt.toDict

lemma PreviewInv.empty : PreviewInv lib {} where
  questions := QuestionInv.empty
  readable := fun p hp => absurd hp (Table.notMem_empty p)
  revisions := fun p hp => absurd hp (Table.notMem_empty p)
  superseded := fun p hp => absurd hp (Table.notMem_empty p)
  digests := fun p hp => absurd hp (Table.notMem_empty p)
  activations := fun a ha => absurd ha (Table.notMem_empty a)

lemma Changed.questionInv (h : Changed lib db db') (hinv : QuestionInv db.questions) :
    QuestionInv db'.questions := by
  cases h with
  | same => exact hinv
  | questions call => exact hinv.step call
  | created row h => exact h.questions ▸ hinv
  | decided d h => exact h.questions ▸ hinv
  | requested r h => exact h.questions ▸ hinv
  | failed importId operationId h =>
    unfold recordFailure at h
    split at h
    · simp at h
    · obtain rfl := Option.some.inj h
      exact hinv
  | completed r receipt h => exact h.eq ▸ hinv

lemma Changed.readable (h : Changed lib db db') (hinv : PreviewInv lib db) {p : PreviewRow}
    (hp : p ∈ db'.previews) : ∃ session preview, db'.session p.importId = some session ∧
      "project.sponsors" ∈ session.answers.map Prod.fst ∧ ReadsAs lib db' p preview := by
  obtain ⟨status, hold⟩ | hnew := h.origin hp
  · obtain ⟨session, preview, hsession, hsponsors, -, hread⟩ := hinv.readable _ hold
    obtain ⟨session', hsession', hnext⟩ := h.extends.session hsession
    refine ⟨session', { preview with row := { preview.row with status := p.status } }, hsession',
      hnext.answered _ hsponsors, hp, ?_⟩
    change db'.session p.importId = some session' at hsession'
    rw [hsession', Option.map_some, hnext.report]
    change readRow lib _ ((db.session p.importId).map _) = _ at hread
    change db.session p.importId = some session at hsession
    rw [hsession, Option.map_some] at hread
    exact readRow_status hread p.status
  · obtain ⟨session, hsession, hready⟩ := hnew.session
    obtain ⟨preview, hread⟩ := hnew.readable
    have hsame : db'.session p.importId = db.session p.importId := by
      rw [PreviewDb.session, hnew.questions]
      rfl
    obtain ⟨hmem, -⟩ := Table.lookup_eq_some.1 hsession
    obtain ⟨report, initial, questions, hof⟩ := hinv.questions.session session hmem
    exact ⟨session, preview, hsame.trans hsession, hof.sponsors_mem hready, hp,
      by rw [hsame]; exact hread⟩

lemma Changed.revisions (h : Changed lib db db') (hinv : PreviewInv lib db) {p : PreviewRow}
    (hp : p ∈ db'.previews) : 1 ≤ p.revision ∧
      ∀ k, 1 ≤ k → k ≤ p.revision → ∃ q ∈ db'.previews, q.key = (p.importId, k) := by
  have hkept : ∀ k, (∃ q ∈ db.previews, q.key = (p.importId, k)) →
      ∃ q ∈ db'.previews, q.key = (p.importId, k) := by
    rintro k ⟨q, hq, hkey⟩
    obtain ⟨status, hq'⟩ := h.extends.previews q hq
    exact ⟨_, hq', hkey⟩
  obtain ⟨status, hold⟩ | hnew := h.origin hp
  · obtain ⟨hpos, hall⟩ := hinv.revisions _ hold
    exact ⟨hpos, fun k hk hle => hkept k (hall k hk hle)⟩
  · have hrevision := hnew.revision
    refine ⟨by omega, fun k hk hle => ?_⟩
    by_cases hlast : k = p.revision
    · exact ⟨p, hp, by rw [hlast]; rfl⟩
    · obtain hzero | ⟨q, hq, hkey⟩ := latestRevision_cases p.importId db
      · omega
      · obtain ⟨hid, hqrevision⟩ := Prod.mk.inj hkey
        obtain ⟨-, hall⟩ := hinv.revisions q hq
        rw [hid] at hall
        exact hkept k (hall k hk (by omega))

lemma Changed.digests (h : Changed lib db db') (hinv : PreviewInv lib db) {p q : PreviewRow}
    (hp : p ∈ db'.previews) (hq : q ∈ db'.previews) (hid : p.importId = q.importId)
    (hdigest : p.previewDigest = q.previewDigest) : p.revision = q.revision := by
  obtain ⟨status, hpold⟩ | hpnew := h.origin hp <;> obtain ⟨status', hqold⟩ | hqnew := h.origin hq
  · have hboth := hinv.digests _ hpold _ hqold
    exact hboth hid hdigest
  · have hfresh := hqnew.fresh _ hpold
    exact absurd hdigest (hfresh hid)
  · have hfresh := hpnew.fresh _ hqold
    exact absurd hdigest.symm (hfresh hid.symm)
  · rw [hpnew.revision, hqnew.revision, hid]

lemma Changed.activations (h : Changed lib db db') (hinv : PreviewInv lib db) {a : ActivationRow}
    (ha : a ∈ db'.activations) : (∃ p ∈ db'.previews, p.key = (a.importId, a.revision)) ∧
    (∃ d ∈ db'.decisions, d.key = (a.importId, a.revision) ∧ d.decision = .approved) ∧
    ∀ stored, a.status = .activated stored →
      ∃ receipt : ImportActivationReceipt, stored = receipt.toDict := by
  have hkept : ∀ key, (∃ p ∈ db.previews, p.key = key) → ∃ p ∈ db'.previews, p.key = key := by
    rintro key ⟨p, hp, hkey⟩
    obtain ⟨status, hp'⟩ := h.extends.previews p hp
    exact ⟨_, hp', hkey⟩
  obtain ⟨b, hb, hid, hrevision, hreceipt⟩ | ⟨r, hr, hrecords, hpending⟩ := h.activation ha
  · obtain ⟨hpreview, ⟨d, hd, hdkey, hdecision⟩, hstored⟩ := hinv.activations b hb
    rw [hid, hrevision] at hpreview hdkey
    refine ⟨hkept _ hpreview, ⟨d, h.extends.decisions d hd, hdkey, hdecision⟩, fun stored hs => ?_⟩
    exact (hreceipt stored hs).elim (hstored stored) id
  · obtain ⟨row, preview, hread, hrequest, -⟩ := hr.content
    obtain ⟨d, hd, hdkey, hdecision⟩ := hr.approved
    rw [hrecords.importId, hrecords.revision]
    refine ⟨hkept _ ⟨row, hread.1, ?_⟩, ⟨d, h.extends.decisions d hd, hdkey, hdecision⟩, ?_⟩
    · rw [hrequest.importId, hrequest.revision, hread.row_eq]
      rfl
    · intro stored hs
      rw [hs] at hpending
      cases hpending

lemma Changed.previews_eq (h : Changed lib db db') : db'.previews = db.previews ∨
    (∃ row, Created lib db db' row) ∨ (∃ d, Decided db db' d) ∨
      ∃ r receipt, Completed db db' r receipt := by
  cases h with
  | same => exact Or.inl rfl
  | questions call => exact Or.inl rfl
  | created row h => exact Or.inr (Or.inl ⟨row, h⟩)
  | decided d h => exact Or.inr (Or.inr (Or.inl ⟨d, h⟩))
  | requested r h => exact Or.inl h.previews
  | failed importId operationId h =>
    unfold recordFailure at h
    split at h
    · simp at h
    · obtain rfl := Option.some.inj h
      exact Or.inl rfl
  | completed r receipt h => exact Or.inr (Or.inr (Or.inr ⟨r, receipt, h⟩))

/-- A change without a new revision keeps what is later than a row. -/
lemma Changed.later_iff (h : Changed lib db db') (hnone : ∀ row, ¬ Created lib db db' row)
    {p q : PreviewRow} (hkey : p.key = q.key) : Later db' p ↔ Later db q := by
  obtain ⟨hid, hrevision⟩ := Prod.mk.inj hkey
  constructor
  · rintro ⟨later, hlater, hlid, hlt⟩
    obtain ⟨status, hold⟩ | hnew := h.origin hlater
    · exact ⟨_, hold, hlid.trans hid, by rw [← hrevision]; exact hlt⟩
    · exact absurd hnew (hnone later)
  · rintro ⟨later, hlater, hlid, hlt⟩
    obtain ⟨status, hnew⟩ := h.extends.previews later hlater
    exact ⟨_, hnew, hlid.trans hid.symm, by rw [hrevision]; exact hlt⟩

/-- A new revision supersedes the latest one, and all earlier ones are superseded already. -/
lemma Created.superseded {row : PreviewRow} (h : Created lib db db' row)
    (hinv : PreviewInv lib db) {p : PreviewRow} (hp : p ∈ db'.previews) :
    p.status = .superseded ↔ Later db' p := by
  have hrow : row ∈ db'.previews := (h.previews row).2 (Or.inl rfl)
  have hrevision := h.revision
  have hbound : ∀ q ∈ db'.previews, q.importId = row.importId → q.revision ≤ row.revision := by
    intro q hq hid
    obtain ⟨status, hold⟩ | hnew := (Changed.created row h).origin hq
    · have hle := le_latestRevision hold
      change q.revision ≤ latestRevision q.importId db at hle
      rw [hid] at hle
      omega
    · rw [hnew.revision, hid]
      omega
  obtain rfl | hmem := (h.previews p).1 hp
  · refine ⟨fun hs => absurd (h.draft.symm.trans hs) (by decide), ?_⟩
    rintro ⟨q, hq, hid, hlt⟩
    have hle := hbound q hq hid
    omega
  obtain ⟨q, hq, hkey, rfl⟩ | ⟨hold, hne⟩ := mem_setStatus_cases hmem
  · -- the revision that was the latest
    obtain ⟨hid, hlatest⟩ := Prod.mk.inj hkey
    refine iff_of_true rfl ⟨row, hrow, hid.symm, ?_⟩
    change q.revision < row.revision
    omega
  by_cases hid : p.importId = row.importId
  · have hle := le_latestRevision hold
    rw [hid] at hle
    have hlt : p.revision < latestRevision row.importId db :=
      lt_of_le_of_ne hle fun heq => hne (Prod.ext hid heq)
    obtain hzero | ⟨q, hq, hkey⟩ := latestRevision_cases row.importId db
    · omega
    obtain ⟨hqid, hqrevision⟩ := Prod.mk.inj hkey
    refine iff_of_true ((hinv.superseded p hold).2 ⟨q, hq, hqid.trans hid.symm, by omega⟩)
      ⟨row, hrow, hid.symm, by omega⟩
  · -- the previews of other imports
    rw [hinv.superseded p hold]
    constructor
    · rintro ⟨q, hq, hqid, hlt⟩
      obtain ⟨status, hq'⟩ := (Changed.created row h).extends.previews q hq
      exact ⟨_, hq', hqid, hlt⟩
    · rintro ⟨q, hq, hqid, hlt⟩
      obtain ⟨status, hq'⟩ | hnew := (Changed.created row h).origin hq
      · exact ⟨_, hq', hqid, hlt⟩
      · obtain rfl | hmem' := (h.previews q).1 hq
        · exact absurd hqid.symm hid
        · obtain ⟨t, ht, htkey, rfl⟩ | ⟨hq', -⟩ := mem_setStatus_cases hmem'
          · exact ⟨t, ht, hqid, hlt⟩
          · exact ⟨q, hq', hqid, hlt⟩

lemma Changed.superseded (h : Changed lib db db') (hinv : PreviewInv lib db) {p : PreviewRow}
    (hp : p ∈ db'.previews) : p.status = .superseded ↔ Later db' p := by
  by_cases hcreated : ∃ row, Created lib db db' row
  · obtain ⟨row, hrow⟩ := hcreated
    exact hrow.superseded hinv hp
  have hlater : ∀ {p q : PreviewRow}, p.key = q.key → (Later db' p ↔ Later db q) :=
    fun hkey => h.later_iff (fun row hrow => hcreated ⟨row, hrow⟩) hkey
  obtain hsame | ⟨row, hrow⟩ | ⟨d, hd⟩ | ⟨r, receipt, hdone⟩ := h.previews_eq
  · rw [hlater rfl]
    exact hinv.superseded p (hsame ▸ hp)
  · exact absurd ⟨row, hrow⟩ hcreated
  · obtain ⟨q, hq, hkey, rfl⟩ | ⟨hold, -⟩ := mem_setStatus_cases (hd.previews ▸ hp)
    · -- the decided revision is the latest one
      have hlatest := hd.latest
      obtain ⟨hid, hrevision⟩ := Prod.mk.inj hkey
      have hne : d.decision.status ≠ .superseded := by
        cases d.decision <;> decide
      have hnone : ¬ Later db q := by
        rintro ⟨t, ht, htid, hlt⟩
        have hle := le_latestRevision ht
        rw [htid, hid] at hle
        omega
      exact iff_of_false hne fun hl => hnone ((hlater rfl).1 hl)
    · rw [hlater rfl]
      exact hinv.superseded p hold
  · rw [hdone.eq] at hp
    obtain ⟨q, hq, ⟨-, -, hstatus⟩, rfl⟩ | ⟨hold, -⟩ := Table.mem_update_cases hp
    · have hnone : ¬ Later db q := fun hl => by
        have hs := (hinv.superseded q hq).2 hl
        rw [hstatus] at hs
        exact absurd hs (by decide)
      have hne : PreviewStatus.activated ≠ .superseded := by decide
      exact iff_of_false hne fun hl => hnone ((hlater rfl).1 hl)
    · rw [hlater rfl]
      exact hinv.superseded p hold

/-- **Step lemma.** -/
theorem Changed.inv (h : Changed lib db db') (hinv : PreviewInv lib db) : PreviewInv lib db' where
  questions := h.questionInv hinv.questions
  readable := fun _ hp => h.readable hinv hp
  revisions := fun _ hp => h.revisions hinv hp
  superseded := fun _ hp => h.superseded hinv hp
  digests := fun _ hp _ hq => h.digests hinv hp hq
  activations := fun _ ha => h.activations hinv ha

end ImportPreviewStore

/-! ## The system -/

namespace ImportSystem

open ImportPreviewStore

variable {lib : TextLibrary} {s : ImportSystem}

/-- A call has the request, or the activator has got it. -/
def Made (s : ImportSystem) (r : ImportActivationRequest) : Prop :=
  r ∈ s.handed ∨ ∃ c ∈ s.calls, c.request = r

/-- The tables and the activation calls after any events. -/
structure SystemInv (lib : TextLibrary) (s : ImportSystem) : Prop where
  db : PreviewInv lib s.db
  made : ∀ r, Made s r → Recorded s.db r

lemma SystemInv.empty : SystemInv lib {} where
  db := PreviewInv.empty
  made := by
    rintro r (hr | ⟨c, hc, -⟩)
    · exact absurd hr List.not_mem_nil
    · exact absurd hc (Table.notMem_empty c)

/-- The first transaction of a call. -/
lemma begin_cases (callId : ℕ) (call : ActivateImport) (s : ImportSystem) :
    begin lib callId call s = s ∨
      ∃ r calls, beginActivation lib call s.db = .ok ((r, none), (begin lib callId call s).db) ∧
        s.calls.insert ⟨callId, r, false, true⟩ = some calls ∧
        (begin lib callId call s).calls = calls ∧ (begin lib callId call s).handed = s.handed := by
  unfold begin
  cases hbegin : beginActivation lib call s.db with
  | error e => exact Or.inl rfl
  | ok result =>
    obtain ⟨⟨r, receipt⟩, db⟩ := result
    cases receipt with
    | some receipt =>
      have hsame : db = s.db := beginActivation_ensures.1 _ _ hbegin
      subst hsame
      exact Or.inl rfl
    | none =>
      dsimp only
      cases hcalls : s.calls.insert ⟨callId, r, false, true⟩ with
      | none => exact Or.inl rfl
      | some calls => exact Or.inr ⟨r, calls, rfl, hcalls, rfl, rfl⟩

lemma changed_commit {α : Type} {t : PreviewTx α} {Q : α → PreviewDb → Prop} {db : PreviewDb}
    (h : t.Ensures db (fun _ => True) Q) (hQ : ∀ a db', Q a db' → Changed lib db db') :
    Changed lib db (t.commit db) := h.commit Changed.same hQ

/-- The second transaction of a call that has its request recorded. -/
lemma changed_settle {c : ActivationCall} {db : PreviewDb} (hrecorded : Recorded db c.request)
    (answer : ActivatorAnswer) : Changed lib db (settle c db answer) := by
  cases answer with
  | raised =>
    change Changed lib db ((recordFailure _ _ db).getD db)
    cases hfail : recordFailure c.request.importId c.request.operationId db with
    | none => exact Changed.same
    | some db' => exact Changed.failed _ _ hfail
  | invalid => exact Changed.same
  | receipt receipt =>
    change Changed lib db
      (if ReceiptMatches c.request receipt then complete c.request receipt db else db)
    split
    · next hmatch => exact Changed.completed c.request receipt ⟨hrecorded, hmatch, rfl⟩
    · exact Changed.same

lemma step_activate (callId : ℕ) (call : ActivateImport) :
    step lib s (.activate callId call) =
      if (∃ id, uuid? call.importId = some id ∧ s.Locked id) ∨ (s.calls.lookup callId).isSome then s
      else begin lib callId call s := rfl

/-- A call that has its request hands it over once. -/
lemma step_hand {callId : ℕ} {c : ActivationCall} (hc : s.calls.lookup callId = some c) :
    step lib s (.hand callId) =
      if c.handed then s
      else { s with
        calls := s.calls.update (fun c => c.callId = callId)
          { set := fun c => { c with handed := true } }
        handed := s.handed ++ [c.request] } := by
  simp only [step, hc]

/-- An answer is the end of a call. -/
lemma step_answer {callId : ℕ} {c : ActivationCall} (hc : s.calls.lookup callId = some c)
    (answer : ActivatorAnswer) : step lib s (.answer callId answer) =
      if c.handed then
        drop callId { s with db := if c.connected then settle c s.db answer else s.db }
      else s := by
  simp only [step, hc]

/-- Nothing happens to a call that is over. -/
lemma step_of_lookup_none {callId : ℕ} (hc : s.calls.lookup callId = none)
    (answer : ActivatorAnswer) : step lib s (.hand callId) = s ∧
      step lib s (.answer callId answer) = s := by
  constructor <;> simp only [step, hc]

lemma changed_step (h : SystemInv lib s) (e : ImportEvent) :
    Changed lib s.db (step lib s e).db := by
  cases e with
  | question call => exact Changed.questions call
  | create call =>
    refine changed_commit createPreview_ensures ?_
    rintro _ db' (rfl | ⟨row, hrow⟩)
    · exact Changed.same
    · exact Changed.created row hrow
  | decide call =>
    refine changed_commit decidePreview_ensures ?_
    rintro d db' (rfl | hd)
    · exact Changed.same
    · exact Changed.decided d hd
  | activate callId call =>
    rw [step_activate]
    split
    · exact Changed.same
    · obtain hsame | ⟨r, calls, hbegin, -⟩ := @begin_cases lib callId call s
      · rw [hsame]
        exact Changed.same
      · exact Changed.requested r (beginActivation_ensures.1 _ _ hbegin)
  | hand callId =>
    cases hc : s.calls.lookup callId with
    | none =>
      rw [(step_of_lookup_none hc .raised).1]
      exact Changed.same
    | some c =>
      rw [step_hand hc]
      split
      · exact Changed.same
      · exact Changed.same
  | answer callId answer =>
    cases hc : s.calls.lookup callId with
    | none =>
      rw [(step_of_lookup_none hc answer).2]
      exact Changed.same
    | some c =>
      rw [step_answer hc]
      split
      · change Changed lib s.db (if c.connected then settle c s.db answer else s.db)
        split
        · have hmem := (Table.lookup_eq_some.1 hc).1
          exact changed_settle (h.made c.request (Or.inr ⟨c, hmem, rfl⟩)) answer
        · exact Changed.same
      · exact Changed.same
  | disconnect callId => exact Changed.same
  | crash callId => exact Changed.same

/-- Only the first transaction of a call makes a request. -/
lemma made_step {e : ImportEvent} {r : ImportActivationRequest} (h : Made (step lib s e) r) :
    Made s r ∨ ∃ callId call, e = .activate callId call ∧
      beginActivation lib call s.db = .ok ((r, none), (step lib s e).db) := by
  have hdrop : ∀ {callId : ℕ} {db : PreviewDb}, Made (drop callId { s with db }) r → Made s r := by
    rintro callId db (hr | ⟨c, hc, rfl⟩)
    · exact Or.inl hr
    · exact Or.inr ⟨c, (Table.mem_delete.1 hc).1, rfl⟩
  have hupdate : ∀ {callId : ℕ} {f : Table.Assign ActivationCall.key},
      (∀ c, (f.set c).request = c.request) →
      ∀ c ∈ s.calls.update (fun c => c.callId = callId) f, ∃ c' ∈ s.calls,
        c'.request = c.request := by
    intro callId f hf c hc
    obtain ⟨c', hc', -, rfl⟩ | ⟨hc, -⟩ := Table.mem_update_cases hc
    · exact ⟨c', hc', (hf c').symm⟩
    · exact ⟨c, hc, rfl⟩
  cases e with
  | question call => exact Or.inl h
  | create call => exact Or.inl h
  | decide call => exact Or.inl h
  | activate callId call =>
    rw [step_activate] at h ⊢
    split
    · next hcond =>
      rw [if_pos hcond] at h
      exact Or.inl h
    · next hcond =>
      rw [if_neg hcond] at h
      obtain hsame | ⟨r', calls, hbegin, hins, hcalls, hhanded⟩ :=
        @begin_cases lib callId call s
      · rw [hsame] at h
        exact Or.inl h
      · obtain hr | ⟨c, hc, rfl⟩ := h
        · exact Or.inl (Or.inl (hhanded ▸ hr))
        · rw [hcalls] at hc
          obtain hc | rfl := (Table.mem_of_insert hins c).1 hc
          · exact Or.inl (Or.inr ⟨c, hc, rfl⟩)
          · exact Or.inr ⟨callId, call, rfl, hbegin⟩
  | hand callId =>
    cases hc : s.calls.lookup callId with
    | none =>
      rw [(step_of_lookup_none hc .raised).1] at h
      exact Or.inl h
    | some c =>
      rw [step_hand hc] at h
      have hmem := (Table.lookup_eq_some.1 hc).1
      split at h
      · exact Or.inl h
      · obtain hr | ⟨c', hc', rfl⟩ := h
        · obtain hr | hr := List.mem_append.1 hr
          · exact Or.inl (Or.inl hr)
          · exact Or.inl (Or.inr ⟨c, hmem, (List.mem_singleton.1 hr).symm⟩)
        · exact Or.inl (Or.inr (hupdate (fun _ => rfl) c' hc'))
  | answer callId answer =>
    cases hc : s.calls.lookup callId with
    | none =>
      rw [(step_of_lookup_none hc answer).2] at h
      exact Or.inl h
    | some c =>
      rw [step_answer hc] at h
      split at h
      · exact Or.inl (hdrop h)
      · exact Or.inl h
  | disconnect callId =>
    obtain hr | ⟨c, hc, rfl⟩ := h
    · exact Or.inl (Or.inl hr)
    · exact Or.inl (Or.inr (hupdate (fun _ => rfl) c hc))
  | crash callId => exact Or.inl (@hdrop _ s.db h)

lemma SystemInv.step (h : SystemInv lib s) (e : ImportEvent) :
    SystemInv lib (step lib s e) where
  db := (changed_step h e).inv h.db
  made := by
    intro r hr
    obtain hold | ⟨callId, call, rfl, hbegin⟩ := made_step hr
    · exact (changed_step h e).extends.recorded (h.made r hold)
    · have hrequested : Requested lib s.db _ r := beginActivation_ensures.1 _ _ hbegin
      obtain ⟨a, hlookup, hrecords, -⟩ := hrequested.after
      exact ⟨a, (Table.lookup_eq_some.1 hlookup).1, hrecords⟩

lemma SystemInv.run (h : SystemInv lib s) (events : List ImportEvent) :
    SystemInv lib (AgenticMesh.run (ImportSystem.step lib) s events) :=
    invariant_run (fun _ e h => h.step e) h events

lemma extends_run (h : SystemInv lib s) (events : List ImportEvent) :
    Extends s.db (run (step lib) s events).db :=
  rel_run (R := fun s s' : ImportSystem => Extends s.db s'.db) (fun s => Extends.refl s.db)
    (fun _ _ _ => Extends.trans) (fun _ e h => h.step e)
    (fun _ e h => (changed_step h e).extends) h events

/-! ## Approvals -/

/-- At the state of the database, the sponsor of the decision could approve the revision of the
request: it was the latest one, and the session was at its resolution. -/
structure Approvable (db : PreviewDb) (d : ImportPreviewDecision) (r : ImportActivationRequest) :
    Prop where
  latest : r.revision = latestRevision r.importId db
  current : ∃ p ∈ db.previews, p.key = (r.importId, r.revision) ∧ p.status = .draft ∧
    ∃ session, db.session r.importId = some session ∧ Current p session ∧
      ImportPreview.sponsorsOf session.answers = .ok r.sponsorIds
  sponsor : d.sponsorId ∈ r.sponsorIds

lemma decisions_settle (c : ActivationCall) (db : PreviewDb) (answer : ActivatorAnswer) :
    (settle c db answer).decisions = db.decisions := by
  cases answer with
  | raised =>
    change ((recordFailure _ _ db).getD db).decisions = _
    unfold recordFailure
    split <;> rfl
  | invalid => rfl
  | receipt receipt =>
    change (if ReceiptMatches c.request receipt then complete c.request receipt db
      else db).decisions = _
    split <;> rfl

/-- No other event touches the decisions. -/
lemma decisions_step {e : ImportEvent} (h : ∀ call, e ≠ .decide call) :
    (step lib s e).db.decisions = s.db.decisions := by
  cases e with
  | question call => rfl
  | create call =>
    refine createPreview_ensures.commit (R := fun db => db.decisions = s.db.decisions) rfl ?_
    rintro _ db' (rfl | ⟨row, hrow⟩)
    · rfl
    · exact hrow.decisions
  | decide call => exact absurd rfl (h call)
  | activate callId call =>
    rw [step_activate]
    split
    · rfl
    · obtain hsame | ⟨r, calls, hbegin, -⟩ := @begin_cases lib callId call s
      · rw [hsame]
      · have hrequested : Requested lib s.db _ r := beginActivation_ensures.1 _ _ hbegin
        exact hrequested.decisions
  | hand callId =>
    cases hc : s.calls.lookup callId with
    | none => rw [(step_of_lookup_none hc .raised).1]
    | some c =>
      rw [step_hand hc]
      split <;> rfl
  | answer callId answer =>
    cases hc : s.calls.lookup callId with
    | none => rw [(step_of_lookup_none hc answer).2]
    | some c =>
      rw [step_answer hc]
      split
      · change (if c.connected then settle c s.db answer else s.db).decisions = _
        split
        · exact decisions_settle c s.db answer
        · rfl
      · rfl
  | disconnect callId => rfl
  | crash callId => rfl

/-- Only a call that decides records a decision. -/
lemma decided_step {e : ImportEvent} {d : ImportPreviewDecision} (hnew : d ∉ s.db.decisions)
    (hd : d ∈ (step lib s e).db.decisions) :
    ∃ call, e = .decide call ∧ (decidePreview lib call).result? s.db = some d ∧
      Decided s.db (step lib s e).db d := by
  by_cases hdecide : ∃ call, e = .decide call
  · obtain ⟨call, rfl⟩ := hdecide
    refine ⟨call, rfl, ?_⟩
    change d ∈ ((decidePreview lib call).commit s.db).decisions at hd
    change _ ∧ Decided s.db ((decidePreview lib call).commit s.db) d
    obtain hsame | ⟨d', hok⟩ := (decidePreview lib call).commit_cases s.db
    · rw [hsame] at hd
      exact absurd hd hnew
    · obtain hsame | hdecided := decidePreview_ensures.1 _ _ hok
      · rw [hsame] at hd
        exact absurd hd hnew
      · obtain hold | rfl := (Table.mem_of_insert hdecided.decisions d).1 hd
        · exact absurd hold hnew
        · exact ⟨Tx.result?_eq_some.2 ⟨_, hok⟩, hdecided⟩
  · rw [decisions_step fun call he => hdecide ⟨call, he⟩] at hd
    exact absurd hd hnew

/-- What was read at a database is the content of the request at every later one. -/
lemma reads_later {db db' : PreviewDb} (h : Extends db db') {r : ImportActivationRequest}
    {row : PreviewRow} {preview : ImportPreview} {session : QuestionSession}
    (hread : ReadsAs lib db row preview) (hrequest : RequestOf preview r)
    (hsession : db.session r.importId = some session) :
    ∃ preview', readPreview lib r.importId r.revision db' = .ok (preview', db') ∧
      RequestOf preview' r := by
  have hrow := hread.row_eq
  have hid : r.importId = row.importId := by rw [hrequest.importId, hrow]
  have hrevision : r.revision = row.revision := by rw [hrequest.revision, hrow]
  rw [hid] at hsession
  obtain ⟨status, hread'⟩ := h.reads hsession hread
  refine ⟨_, readPreview_ok.2 ⟨rfl, _, ?_, hread'⟩, ?_⟩
  · rw [hid, hrevision]
    rfl
  · exact ⟨hrequest.importId, hrequest.revision, hrequest.manifest, hrequest.sourceSelections,
      hrequest.selectedCandidates⟩

/-- A request that has been made comes from an approval: the calls that decided and that
requested are in the run. -/
lemma approval_of_made {events : List ImportEvent} {r : ImportActivationRequest}
    (h : Made (run (step lib) {} events) r) :
    ∃ before call between callId activate after d,
      events = before ++ .decide call :: between ++ .activate callId activate :: after ∧
      (decidePreview lib call).result? (run (step lib) {} before).db = some d ∧
      d.key = (r.importId, r.revision) ∧ d.decision = .approved ∧
      Approvable (run (step lib) {} before).db d r ∧
      d ∈ (run (step lib) {} events).db.decisions ∧
      ∃ preview, readPreview lib r.importId r.revision (run (step lib) {} events).db =
        .ok (preview, (run (step lib) {} events).db) ∧ RequestOf preview r := by
  have hnone : ¬ Made {} r := by
    rintro (hr | ⟨c, hc, -⟩)
    · exact absurd hr List.not_mem_nil
    · exact absurd hc (Table.notMem_empty c)
  obtain ⟨fs, e, after, rfl, hfs, hmade⟩ :=
    @exists_change _ _ (step lib) (fun s => ¬ Made s r) _ _ hnone (not_not_intro h)
  obtain ⟨callId, activate, rfl, hbegin⟩ := (made_step (not_not.1 hmade)).resolve_left hfs
  have hinv : SystemInv lib (run (step lib) {} fs) := SystemInv.empty.run fs
  have hrequested : Requested lib _ _ r := beginActivation_ensures.1 _ _ hbegin
  obtain ⟨row, preview, hread, hrequest, session, hsession, hcurrent, hsponsors⟩ :=
    hrequested.content
  obtain ⟨d, hd, hkey, happroved⟩ := hrequested.approved
  -- the decision was recorded before the request
  obtain ⟨before, e, between, rfl, hbefore, hdecides⟩ :=
    @exists_change _ _ (step lib) (fun s => d ∉ s.db.decisions) {} _
      (Table.notMem_empty d) (not_not_intro hd)
  obtain ⟨call, rfl, hresult, hdecided⟩ := decided_step hbefore (not_not.1 hdecides)
  obtain ⟨p, hp, hpkey, hdraft, session₀, hsession₀, hcurrent₀, sponsors, hsponsors₀, hsponsor⟩ :=
    hdecided.draft
  have hinv₀ : SystemInv lib (run (step lib) {} before) := SystemInv.empty.run before
  have hafter := extends_run hinv₀ (.decide call :: between)
  rw [← run_append] at hafter
  -- the session has not changed between the decision and the request
  have hdid : d.importId = r.importId := (Prod.mk.inj hkey).1
  rw [hdid] at hsession₀
  obtain ⟨session', hsession', hnext⟩ := hafter.session hsession₀
  obtain rfl : session' = session := Option.some.inj (hsession'.symm.trans hsession)
  have hrow : preview.row = row := hread.row_eq
  obtain ⟨status, hp'⟩ := hafter.previews p hp
  have hsame : { p with status } = row := by
    refine Table.eq_of_key _ hp' hread.1 (hpkey.trans (hkey.trans ?_))
    rw [hrequest.importId, hrequest.revision, hrow]
    rfl
  have hversion : session'.version = session₀.version := by
    rw [hcurrent.2.1, hcurrent₀.2.1, ← hsame]
  obtain rfl := hnext.eq_of_version hversion
  obtain rfl : sponsors = r.sponsorIds := Except.ok.inj (hsponsors₀.symm.trans hsponsors)
  have hlater := extends_run hinv (.activate callId activate :: after)
  rw [← run_append] at hlater
  refine ⟨before, call, between, callId, activate, after, d, rfl, hresult, hkey, happroved, ?_,
    hlater.decisions d hd, reads_later hlater hread hrequest hsession⟩
  refine ⟨?_, ⟨p, hp, hpkey.trans hkey, hdraft, session', hsession₀, hcurrent₀, hsponsors₀⟩,
    hsponsor⟩
  have hlatest := hdecided.latest
  rw [hdid] at hlatest
  exact ((Prod.mk.inj hkey).2).symm.trans hlatest

/-! ## Revisions and replays -/

lemma revisions_of_inv {db : PreviewDb} (h : PreviewInv lib db) (importId : String) :
    ∃ n, (∀ k, (∃ p ∈ db.previews, p.key = (importId, k)) ↔ 1 ≤ k ∧ k ≤ n) ∧
      ∀ p ∈ db.previews, p.importId = importId → (p.status = .superseded ↔ p.revision ≠ n) := by
  refine ⟨latestRevision importId db, fun k => ⟨?_, ?_⟩, ?_⟩
  · rintro ⟨p, hp, hkey⟩
    obtain ⟨rfl, rfl⟩ := Prod.mk.inj hkey
    exact ⟨(h.revisions p hp).1, le_latestRevision hp⟩
  · rintro ⟨hk, hle⟩
    obtain hzero | ⟨p, hp, hkey⟩ := latestRevision_cases importId db
    · omega
    · obtain ⟨hid, hrevision⟩ := Prod.mk.inj hkey
      have hall := (h.revisions p hp).2 k hk (hrevision.symm ▸ hle)
      rwa [hid] at hall
  · rintro p hp rfl
    rw [h.superseded p hp]
    constructor
    · rintro ⟨q, hq, hid, hlt⟩
      have hle := le_latestRevision hq
      rw [hid] at hle
      omega
    · intro hne
      have hle := le_latestRevision hp
      obtain hzero | ⟨q, hq, hkey⟩ := latestRevision_cases p.importId db
      · omega
      · obtain ⟨hid, hrevision⟩ := Prod.mk.inj hkey
        exact ⟨q, hq, hid, by omega⟩

/-- A call for an activation that is done finds the stored receipt. -/
lemma begin_activated {db : PreviewDb} (h : PreviewInv lib db) {a : ActivationRow}
    (ha : a ∈ db.activations) {stored : Json} (hstatus : a.status = .activated stored)
    {call : ActivateImport} {activation : ActivationRow}
    (hcall : activationArg call = .ok activation) (hid : activation.importId = a.importId)
    (hrevision : activation.revision = a.revision)
    (hoperation : activation.operationId = a.operationId) :
    ∃ r receipt, beginActivation lib call db = .ok ((r, some receipt), db) ∧
      receipt.toDict = stored := by
  obtain ⟨⟨p, hp, hpkey⟩, ⟨d, hd, hdkey, hdecision⟩, hstored⟩ := h.activations a ha
  obtain ⟨receipt, rfl⟩ := hstored stored hstatus
  obtain ⟨session, preview, hsession, hsponsors, hread⟩ := h.readable p hp
  have hrow := hread.row_eq
  have hkey : p.key = (activation.importId, activation.revision) := by rw [hid, hrevision, hpkey]
  have hpreview : readPreview lib activation.importId activation.revision db = .ok (preview, db) :=
    readPreview_ok.2 ⟨rfl, p, hkey, hread⟩
  have hdecided : db.decisions.lookup (activation.importId, activation.revision) = some d := by
    rw [hid, hrevision, ← hdkey]
    exact Table.lookup_mem hd
  have hfound : db.activations.lookup activation.importId = some a := by
    rw [hid]
    exact Table.lookup_mem ha
  have hclaim : claimActivation preview activation db = .ok (a, db) := by
    unfold claimActivation
    refine (@Tx.bind_of_ok _ _ _ _ _ db _ (Tx.query _) (some a) ?_).trans ?_
    · change Except.ok (db.activations.lookup activation.importId, db) = _
      rw [hfound]
    · exact Tx.bind_of_ok (Tx.require_of_pos ⟨hrevision.symm, hoperation.symm⟩)
  obtain ⟨hmem, -⟩ := Table.lookup_eq_some.1 hsession
  obtain ⟨report, initial, questions, hof⟩ := h.questions.session session hmem
  obtain ⟨sponsors, hsponsorsOf⟩ := hof.sponsors hsponsors
  have hvalid : validateManifest lib preview.row.manifestSnapshot = .ok preview.manifest := by
    rw [hrow]
    exact (readRow_row hread.2).2
  have hsessionSponsors : sessionSponsors preview.row.importId db = .ok (sponsors, db) := by
    rw [hrow]
    exact (Tx.bind_of_ok (Tx.demand_of_some (g := fun db : PreviewDb => db.session p.importId)
      hsession)).trans (Tx.ofExcept_of_ok hsponsorsOf)
  obtain ⟨r, hr⟩ : ∃ r, request lib preview activation.operationId a.requestedBy db =
      .ok (r, db) :=
    ⟨_, (Tx.bind_of_ok (Tx.ofExcept_of_ok hvalid)).trans (Tx.bind_of_ok hsessionSponsors)⟩
  refine ⟨r, receipt, ?_, rfl⟩
  refine (Tx.bind_of_ok (Tx.ofExcept_of_ok hcall)).trans (Tx.mapError_of_ok ?_)
  refine (Tx.bind_of_ok hpreview).trans ?_
  have happroved : Option.map ImportPreviewDecision.decision
      (db.decisions.lookup (activation.importId, activation.revision)) = some .approved := by
    rw [hdecided, Option.map_some, hdecision]
  refine (Tx.bind_of_ok (Tx.require_of_pos happroved)).trans ?_
  refine (Tx.bind_of_ok hclaim).trans ?_
  rw [hstatus]
  refine (Tx.bind_of_ok hr).trans ?_
  exact Tx.bind_of_ok (Tx.ofExcept_of_ok receipt.fromDict_toDict)

/-- The revision and the operation of the activation of an import. -/
def Operation (db : PreviewDb) (importId : String) (operation : ℕ × String) : Prop :=
  ∃ a ∈ db.activations, a.importId = importId ∧ (a.revision, a.operationId) = operation

/-- The history of the imports in a run. -/
structure ImportHistory (lib : TextLibrary) (events : List ImportEvent) : Prop where
  /-- An import has one operation at most, at any time of the run. -/
  operation : ∀ before, before <+: events → ∀ importId o o',
    Operation (run (step lib) {} before).db importId o →
    Operation (run (step lib) {} events).db importId o' → o = o'
  /-- Only that operation is handed to the activator. -/
  handed : ∀ r ∈ (run (step lib) {} events).handed,
    Operation (run (step lib) {} events).db r.importId (r.revision, r.operationId)
  /-- A request has the contents of its revision. -/
  content : ∀ r ∈ (run (step lib) {} events).handed, ∃ preview,
    readPreview lib r.importId r.revision (run (step lib) {} events).db =
      .ok (preview, (run (step lib) {} events).db) ∧ RequestOf preview r
  /-- A sponsor of the session approved the revision, when it was the latest and current. -/
  approved : ∀ r ∈ (run (step lib) {} events).handed, ∃ before call after d,
    events = before ++ .decide call :: after ∧
    (decidePreview lib call).result? (run (step lib) {} before).db = some d ∧
    d ∈ (run (step lib) {} events).db.decisions ∧
    d.key = (r.importId, r.revision) ∧ d.decision = .approved ∧
    Approvable (run (step lib) {} before).db d r
  /-- The revisions of an import are those up to the last one, which is not superseded. -/
  revisions : ∀ importId, ∃ n,
    (∀ k, (∃ p ∈ (run (step lib) {} events).db.previews, p.key = (importId, k)) ↔
      1 ≤ k ∧ k ≤ n) ∧
    ∀ p ∈ (run (step lib) {} events).db.previews, p.importId = importId →
      (p.status = .superseded ↔ p.revision ≠ n)
  /-- A revision has one decision at most, at any time of the run. -/
  decisions : ∀ before, before <+: events → ∀ d ∈ (run (step lib) {} before).db.decisions,
    ∀ d' ∈ (run (step lib) {} events).db.decisions, d.key = d'.key → d = d'
  /-- Once an activation is done, repeating it finds its receipt and calls nobody. -/
  replayed : ∀ before, before <+: events → ∀ a ∈ (run (step lib) {} before).db.activations,
    ∀ stored, a.status = .activated stored → ∀ call activation,
      activationArg call = .ok activation → activation.importId = a.importId →
      activation.revision = a.revision → activation.operationId = a.operationId →
      (∃ r receipt, beginActivation lib call (run (step lib) {} events).db =
        .ok ((r, some receipt), (run (step lib) {} events).db) ∧ receipt.toDict = stored) ∧
      ∀ callId, step lib (run (step lib) {} events) (.activate callId call) =
        run (step lib) {} events

/-- **Imports.**  In every run of the stores, of calls in flight and of their activator, an import
has one operation at most, and what is handed over is a revision that a sponsor approved. -/
theorem import_history (lib : TextLibrary) (events : List ImportEvent) :
    ImportHistory lib events := by
  have hinv : SystemInv lib (run (step lib) {} events) := SystemInv.empty.run events
  have hlater : ∀ before, before <+: events →
      Extends (run (step lib) {} before).db (run (step lib) {} events).db := by
    rintro before ⟨after, rfl⟩
    rw [run_append]
    exact extends_run (SystemInv.empty.run before) after
  refine {
    operation := ?_, handed := ?_, content := ?_, approved := ?_, revisions := ?_,
    decisions := ?_, replayed := ?_ }
  · rintro before hbefore _ _ _ ⟨a, ha, rfl, rfl⟩ ⟨b, hb, hid, rfl⟩
    obtain ⟨a', ha', hid', hrevision, hop, -⟩ := (hlater before hbefore).activations a ha
    obtain rfl := Table.eq_of_key _ ha' hb (hid'.trans hid.symm)
    rw [hrevision, hop]
  · intro r hr
    obtain ⟨a, ha, hrecords⟩ := hinv.made r (Or.inl hr)
    exact ⟨a, ha, hrecords.importId, Prod.ext hrecords.revision hrecords.operationId⟩
  · intro r hr
    obtain ⟨_, _, _, _, _, _, _, _, _, _, _, _, _, hcontent⟩ := approval_of_made (Or.inl hr)
    exact hcontent
  · intro r hr
    obtain ⟨before, call, between, callId, activate, after, d, heq, hresult, hkey, hdecision,
      happrovable, hd, -⟩ := approval_of_made (Or.inl hr)
    refine ⟨before, call, between ++ .activate callId activate :: after, d, ?_, hresult, hd, hkey,
      hdecision, happrovable⟩
    rw [heq]
    simp
  · exact fun importId => revisions_of_inv hinv.db importId
  · intro before hbefore d hd d' hd' hkey
    exact Table.eq_of_key _ ((hlater before hbefore).decisions d hd) hd' hkey
  · intro before hbefore a ha stored hstatus call activation hcall hid hrevision hop
    obtain ⟨a', ha', hid', hrevision', hop', -, hstored⟩ :=
      (hlater before hbefore).activations a ha
    obtain ⟨r, receipt, hbegin, hreceipt⟩ := begin_activated hinv.db ha' (hstored stored hstatus)
      hcall (hid.trans hid'.symm) (hrevision.trans hrevision'.symm) (hop.trans hop'.symm)
    refine ⟨⟨r, receipt, hbegin, hreceipt⟩, fun callId => ?_⟩
    rw [step_activate]
    split
    · rfl
    · simp only [begin, hbegin]

end ImportSystem

end AgenticMesh
