import AgenticMesh.Base.Run
import AgenticMesh.Teams.Publishing

/-!
# Concurrent writers of progress

Any number of calls of `ProgressStore.record` run against one database.  Each call takes
one statement at a time: it locks the row of its work item, looks its checkpoint up,
compares the sequence, inserts and commits.  A statement waits for the lock of another
call, and an insert waits for an uncommitted row with the same unique key; between any
two statements of a call the others may take theirs, and a call may lose its connection.
-/

namespace AgenticMesh.Teams

/-! ## Calls -/

/-- What a call of `record` has done so far. -/
inductive RecordPhase where
  | begun
  /-- The row of the work item is locked. -/
  | locked
  /-- No row had the checkpoint id. -/
  | unused
  /-- The sequence was the expected one. -/
  | current
  /-- The row is inserted and not committed. -/
  | inserted
  | ended (answer : Except ProgressError ProgressCheckpoint)

namespace RecordPhase

/-- The transaction holds the lock of its work item. -/
def holdsLock : RecordPhase → Bool
  | locked | unused | current | inserted => true
  | begun | ended _ => false

/-- The transaction has inserted its row. -/
def isInserted : RecordPhase → Bool
  | inserted => true
  | _ => false

def isEnded : RecordPhase → Bool
  | ended _ => true
  | _ => false

end RecordPhase

variable (sensitive : String → Bool)

/-- A call of `record`. -/
structure RecordCall where
  draft : ProgressDraft sensitive
  phase : RecordPhase := .begun

variable {sensitive}

namespace ProgressCheckpoint

/-- The work item of a checkpoint. -/
def work (c : ProgressCheckpoint) : String × String := (c.projectId, c.workItemId)

/-- Two rows that a unique constraint keeps apart. -/
def Clash (c d : ProgressCheckpoint) : Prop :=
  c.key = d.key ∨ (c.work = d.work ∧ c.sequence = d.sequence)

instance (c d : ProgressCheckpoint) : Decidable (c.Clash d) := inferInstanceAs (Decidable (_ ∨ _))

lemma Clash.symm {c d : ProgressCheckpoint} (h : c.Clash d) : d.Clash c :=
  h.imp Eq.symm fun h => ⟨h.1.symm, h.2.symm⟩

end ProgressCheckpoint

namespace ProgressDb

/-- The sequences of a work item, in the order in which they were recorded. -/
def sequences (work : String × String) (s : ProgressDb) : List ℕ :=
  (s.checkpoints.select fun c => c.work = work).map ProgressCheckpoint.sequence

/-- The work item and the role instance of a checkpoint exist. -/
def Authorised (c : ProgressCheckpoint) (s : ProgressDb) : Prop :=
  (s.db.workItems.lookup (c.projectId, c.workItemId)).isSome ∧
    (s.db.instances.lookup (c.projectId, c.roleInstanceId)).isSome

instance (c : ProgressCheckpoint) (s : ProgressDb) : Decidable (Authorised c s) :=
  inferInstanceAs (Decidable (_ ∧ _))

end ProgressDb

variable (sensitive)

/-- The committed database and the calls, in the order in which they began. -/
structure ProgressWriters where
  db : ProgressDb
  calls : List (RecordCall sensitive) := []

variable {sensitive}

namespace ProgressWriters

/-- Another transaction holds the lock of a work item. -/
def Locked (s : ProgressWriters sensitive) (work : String × String) : Prop :=
  ∃ c ∈ s.calls, c.phase.holdsLock = true ∧ c.draft.checkpoint.work = work

instance (s : ProgressWriters sensitive) (work : String × String) : Decidable (s.Locked work) :=
  inferInstanceAs (Decidable (∃ c ∈ s.calls, _))

/-- An uncommitted row clashes with a row. -/
def Pending (s : ProgressWriters sensitive) (row : ProgressCheckpoint) : Prop :=
  ∃ c ∈ s.calls, c.phase.isInserted = true ∧ c.draft.checkpoint.Clash row

instance (s : ProgressWriters sensitive) (row : ProgressCheckpoint) : Decidable (s.Pending row) :=
  inferInstanceAs (Decidable (∃ c ∈ s.calls, _))

/-- The next statement of a call, with the committed database and the phase that it leaves;
`none` while the statement waits. -/
def statement (s : ProgressWriters sensitive) (c : RecordCall sensitive) :
    Option (ProgressDb × RecordPhase) :=
  let row := c.draft.checkpoint
  match c.phase with
  | .begun =>
    if ¬ ProgressDb.Authorised row s.db then
      some (s.db, .ended (.error (.notFound "work item or project role instance not found")))
    else if s.Locked row.work then none
    else some (s.db, .locked)
  | .locked =>
    match s.db.checkpoints.lookup row.key with
    | some existing =>
      if existing = row then some (s.db, .ended (.ok existing))
      else some (s.db, .ended (.error
        (.conflict "checkpoint id is already used by different progress")))
    | none => some (s.db, .unused)
  | .unused =>
    if s.db.latestSequence row.projectId row.workItemId + 1 = row.sequence then
      some (s.db, .current)
    else some (s.db, .ended (.error (.conflict "progress checkpoint sequence is stale")))
  | .current =>
    if ¬ ∀ t ∈ row.texts, hasNoNul t = true then some (s.db, .ended (.error .database))
    else if s.Pending row then none
    else if (ProgressDb.insertCheckpoint row s.db).isSome then some (s.db, .inserted)
    else some (s.db, .ended (.error (.conflict "progress checkpoint conflicts")))
  | .inserted => (ProgressDb.insertCheckpoint row s.db).map fun db => (db, .ended (.ok row))
  | .ended _ => none

/-- A call of `record` reaches a phase. -/
def put (s : ProgressWriters sensitive) (i : ℕ) (c : RecordCall sensitive) (db : ProgressDb)
    (phase : RecordPhase) : ProgressWriters sensitive where
  db := db
  calls := s.calls.set i { c with phase }

end ProgressWriters

variable (sensitive)

/-- What happens to the writers; calls are numbered in the order in which they begin. -/
inductive WriterEvent where
  | begin (draft : ProgressDraft sensitive)
  /-- The next statement of a call, if it need not wait. -/
  | advance (i : ℕ)
  /-- The connection of a call is lost before it commits. -/
  | fail (i : ℕ)
  /-- A call commits and its connection is lost before the answer. -/
  | lose (i : ℕ)

variable {sensitive}

/-- The call that an event is about. -/
def WriterEvent.call? : WriterEvent sensitive → Option ℕ
  | .begin _ => none
  | .advance i | .fail i | .lose i => some i

namespace ProgressWriters

/-- One event; an event that is not possible changes nothing. -/
def step (s : ProgressWriters sensitive) : WriterEvent sensitive → ProgressWriters sensitive
  | .begin draft => { s with calls := s.calls ++ [{ draft }] }
  | .advance i =>
    match s.calls[i]? with
    | none => s
    | some c =>
      match s.statement c with
      | none => s
      | some (db, phase) => s.put i c db phase
  | .fail i =>
    match s.calls[i]? with
    | none => s
    | some c => if c.phase.isEnded then s else s.put i c s.db (.ended (.error .database))
  | .lose i =>
    match s.calls[i]? with
    | none => s
    | some c =>
      match c.phase, ProgressDb.insertCheckpoint c.draft.checkpoint s.db with
      | .inserted, some db => s.put i c db (.ended (.error .database))
      | _, _ => s

/-! ## What a step can do -/

/-- A call passes to a phase, and the committed database to another one. -/
inductive Moves (s : ProgressWriters sensitive) (c : RecordCall sensitive) :
    ProgressDb → RecordPhase → Prop
  | lock (hphase : c.phase = .begun) (hauthorised : ProgressDb.Authorised c.draft.checkpoint s.db)
      (hfree : ¬ s.Locked c.draft.checkpoint.work) : Moves s c s.db .locked
  | lookup (hphase : c.phase = .locked)
      (hnone : s.db.checkpoints.lookup c.draft.checkpoint.key = none) : Moves s c s.db .unused
  | compare (hphase : c.phase = .unused)
      (hnext : s.db.latestSequence c.draft.checkpoint.projectId c.draft.checkpoint.workItemId + 1 =
        c.draft.checkpoint.sequence) : Moves s c s.db .current
  | insert (hphase : c.phase = .current) (hnul : ∀ t ∈ c.draft.checkpoint.texts, hasNoNul t = true)
      (hpending : ¬ s.Pending c.draft.checkpoint)
      (hsome : (ProgressDb.insertCheckpoint c.draft.checkpoint s.db).isSome) :
      Moves s c s.db .inserted
  | replay (hphase : c.phase = .locked) (hrow : c.draft.checkpoint ∈ s.db.checkpoints) :
      Moves s c s.db (.ended (.ok c.draft.checkpoint))
  | refuse (hphase : c.phase.isEnded = false) (e : ProgressError) :
      Moves s c s.db (.ended (.error e))
  | commit (hphase : c.phase = .inserted) {db : ProgressDb}
      (hinsert : ProgressDb.insertCheckpoint c.draft.checkpoint s.db = some db)
      {answer : Except ProgressError ProgressCheckpoint}
      (hanswer : answer = .ok c.draft.checkpoint ∨ answer = .error .database) :
      Moves s c db (.ended answer)

variable {s : ProgressWriters sensitive} {c : RecordCall sensitive} {db : ProgressDb}
  {phase : RecordPhase} {i : ℕ}

/-- The statements are moves. -/
lemma moves_of_statement (h : s.statement c = some (db, phase)) : Moves s c db phase := by
  unfold statement at h
  cases hphase : c.phase with
  | begun =>
    rw [hphase] at h
    dsimp only at h
    split at h
    · obtain ⟨rfl, rfl⟩ := Prod.mk.inj (Option.some.inj h)
      exact .refuse (by rw [hphase]; rfl) _
    · next hauthorised =>
      obtain ⟨hfree, h⟩ := Option.ite_none_left_eq_some.1 h
      obtain ⟨rfl, rfl⟩ := Prod.mk.inj (Option.some.inj h)
      exact .lock hphase (not_not.1 hauthorised) hfree
  | locked =>
    rw [hphase] at h
    dsimp only at h
    split at h
    · next existing hlookup =>
      split at h
      · next hsame =>
        obtain ⟨rfl, rfl⟩ := Prod.mk.inj (Option.some.inj h)
        subst hsame
        exact .replay hphase (Table.lookup_eq_some.1 hlookup).1
      · obtain ⟨rfl, rfl⟩ := Prod.mk.inj (Option.some.inj h)
        exact .refuse (by rw [hphase]; rfl) _
    · next hlookup =>
      obtain ⟨rfl, rfl⟩ := Prod.mk.inj (Option.some.inj h)
      exact .lookup hphase hlookup
  | unused =>
    rw [hphase] at h
    dsimp only at h
    split at h
    · next hnext =>
      obtain ⟨rfl, rfl⟩ := Prod.mk.inj (Option.some.inj h)
      exact .compare hphase hnext
    · obtain ⟨rfl, rfl⟩ := Prod.mk.inj (Option.some.inj h)
      exact .refuse (by rw [hphase]; rfl) _
  | current =>
    rw [hphase] at h
    dsimp only at h
    split at h
    · obtain ⟨rfl, rfl⟩ := Prod.mk.inj (Option.some.inj h)
      exact .refuse (by rw [hphase]; rfl) _
    · next hnul =>
      obtain ⟨hpending, h⟩ := Option.ite_none_left_eq_some.1 h
      split at h
      · next hsome =>
        obtain ⟨rfl, rfl⟩ := Prod.mk.inj (Option.some.inj h)
        exact .insert hphase (not_not.1 hnul) hpending hsome
      · obtain ⟨rfl, rfl⟩ := Prod.mk.inj (Option.some.inj h)
        exact .refuse (by rw [hphase]; rfl) _
  | inserted =>
    rw [hphase] at h
    obtain ⟨db', hinsert, h⟩ := Option.map_eq_some_iff.1 h
    obtain ⟨rfl, rfl⟩ := Prod.mk.inj h
    exact .commit hphase hinsert (Or.inl rfl)
  | ended answer =>
    rw [hphase] at h
    exact absurd h (by simp)

lemma step_advance (s : ProgressWriters sensitive) (i : ℕ) :
    step s (.advance i) = match s.calls[i]? with
      | none => s
      | some c =>
        match s.statement c with
        | none => s
        | some (db, phase) => s.put i c db phase := rfl

lemma step_fail (s : ProgressWriters sensitive) (i : ℕ) :
    step s (.fail i) = match s.calls[i]? with
      | none => s
      | some c => if c.phase.isEnded then s
        else s.put i c s.db (.ended (.error .database)) := rfl

lemma step_lose (s : ProgressWriters sensitive) (i : ℕ) :
    step s (.lose i) = match s.calls[i]? with
      | none => s
      | some c =>
        match c.phase, ProgressDb.insertCheckpoint c.draft.checkpoint s.db with
        | .inserted, some db => s.put i c db (.ended (.error .database))
        | _, _ => s := rfl

/-- A step does nothing, begins a call or moves one. -/
lemma step_cases (s : ProgressWriters sensitive) (e : WriterEvent sensitive) :
    step s e = s ∨ (∃ draft, step s e = { s with calls := s.calls ++ [{ draft }] }) ∨
      ∃ i c db phase, e.call? = some i ∧ s.calls[i]? = some c ∧ Moves s c db phase ∧
        step s e = s.put i c db phase := by
  cases e with
  | begin draft => exact .inr (.inl ⟨draft, rfl⟩)
  | advance i =>
    rw [step_advance]
    cases hc : s.calls[i]? with
    | none => exact .inl rfl
    | some c =>
      dsimp only
      split
      · exact .inl rfl
      · next db phase hstatement =>
        exact .inr (.inr ⟨i, c, db, phase, rfl, hc, moves_of_statement hstatement, rfl⟩)
  | fail i =>
    rw [step_fail]
    cases hc : s.calls[i]? with
    | none => exact .inl rfl
    | some c =>
      dsimp only
      split
      · exact .inl rfl
      · next hended =>
        exact .inr (.inr ⟨i, c, _, _, rfl, hc, .refuse (by simpa using hended) _, rfl⟩)
  | lose i =>
    rw [step_lose]
    cases hc : s.calls[i]? with
    | none => exact .inl rfl
    | some c =>
      dsimp only
      split
      · next db hphase hinsert =>
        exact .inr (.inr ⟨i, c, _, _, rfl, hc, .commit hphase hinsert (Or.inr rfl), rfl⟩)
      · exact .inl rfl

/-- The calls after one of them has moved. -/
lemma getElem?_put (hc : s.calls[i]? = some c) {j : ℕ} {d : RecordCall sensitive} :
    (s.put i c db phase).calls[j]? = some d ↔
      (j = i ∧ d = { c with phase }) ∨ (j ≠ i ∧ s.calls[j]? = some d) := by
  obtain ⟨hi, -⟩ := List.getElem?_eq_some_iff.1 hc
  unfold put
  rw [List.getElem?_set]
  by_cases hij : i = j
  · subst hij
    simp [hi, eq_comm]
  · simp [hij, Ne.symm hij]

/-! ## Sequences -/

lemma foldl_max_range' (n : ℕ) : (List.range' 1 n).foldl max 0 = n := by
  induction n with
  | zero => rfl
  | succ n ih =>
    rw [List.range'_concat, List.foldl_append, ih]
    simp
    omega

end ProgressWriters

namespace ProgressDb

variable {s s' : ProgressDb} {c : ProgressCheckpoint}

/-- An inserted checkpoint is the last one, and clashes with none. -/
lemma insertCheckpoint_eq_some : insertCheckpoint c s = some s' ↔
    (∀ d ∈ s.checkpoints, ¬ d.Clash c) ∧ s'.checkpoints.rows = s.checkpoints.rows ++ [c] ∧
      s'.toSponsorDb = s.toSponsorDb := by
  have hclash : ∀ d : ProgressCheckpoint, d.Clash c ↔ d.key = c.key ∨
      (d.projectId, d.workItemId, d.sequence) = (c.projectId, c.workItemId, c.sequence) := by
    intro d
    simp [ProgressCheckpoint.Clash, ProgressCheckpoint.work, and_assoc]
  unfold insertCheckpoint
  split
  · next h =>
    obtain ⟨d, hd, hsame⟩ := h
    simp only [reduceCtorEq, false_iff, not_and]
    exact fun hno => absurd ((hclash d).2 (Or.inr hsame)) (hno d hd)
  · next h =>
    push Not at h
    rw [Option.map_eq_some_iff]
    constructor
    · rintro ⟨t, ht, rfl⟩
      obtain ⟨hkeys, hrows⟩ := Table.insert_eq_some.1 ht
      refine ⟨fun d hd hd' => ?_, hrows, rfl⟩
      rcases (hclash d).1 hd' with hkey | hsame
      · exact hkeys d hd hkey
      · exact h d hd hsame
    · rintro ⟨hno, hrows, hrest⟩
      refine ⟨s'.checkpoints, Table.insert_eq_some.2 ⟨fun d hd hkey => ?_, hrows⟩, ?_⟩
      · exact hno d hd ((hclash d).2 (Or.inl hkey))
      · cases s'
        cases s
        simp_all

/-- The sequences with one more checkpoint. -/
lemma sequences_of_insert (h : insertCheckpoint c s = some s') (work : String × String) :
    s'.sequences work =
      s.sequences work ++ if c.work = work then [c.sequence] else [] := by
  obtain ⟨-, hrows, -⟩ := insertCheckpoint_eq_some.1 h
  unfold sequences Table.select
  rw [hrows, List.filter_append, List.map_append]
  split
  · next hwork => simp [hwork]
  · next hwork => simp [hwork]

lemma latestSequence_eq (p w : String) (s : ProgressDb) :
    s.latestSequence p w = (s.sequences (p, w)).foldl max 0 := rfl

/-- The sequences of every work item are 1 to n. -/
def Contiguous (s : ProgressDb) : Prop := ∀ work, ∃ n, s.sequences work = List.range' 1 n

/-- Recording the next checkpoint keeps the sequences contiguous. -/
lemma Contiguous.insert (hs : Contiguous s) (h : insertCheckpoint c s = some s')
    (hnext : s.latestSequence c.projectId c.workItemId + 1 = c.sequence) : Contiguous s' := by
  intro work
  obtain ⟨n, hn⟩ := hs work
  rw [sequences_of_insert h work, hn]
  by_cases hwork : c.work = work
  · subst hwork
    have hlatest : s.latestSequence c.projectId c.workItemId = n := by
      rw [latestSequence_eq]
      exact (congrArg (List.foldl max 0) hn).trans (ProgressWriters.foldl_max_range' n)
    refine ⟨n + 1, ?_⟩
    rw [if_pos rfl, List.range'_concat, ← hnext, hlatest]
    simp [Nat.add_comm]
  · exact ⟨n, by simp [hwork]⟩

/-- Another work item keeps its latest sequence. -/
lemma latestSequence_of_insert (h : insertCheckpoint c s = some s') {d : ProgressCheckpoint}
    (hwork : c.work ≠ d.work) :
    s'.latestSequence d.projectId d.workItemId = s.latestSequence d.projectId d.workItemId := by
  have hne : ¬ c.work = (d.projectId, d.workItemId) := hwork
  rw [latestSequence_eq, latestSequence_eq, sequences_of_insert h, if_neg hne, List.append_nil]

/-- Recording changes neither work items nor role instances. -/
lemma authorised_of_insert (h : insertCheckpoint c s = some s') {d : ProgressCheckpoint} :
    Authorised d s' ↔ Authorised d s := by
  obtain ⟨-, -, hrest⟩ := insertCheckpoint_eq_some.1 h
  unfold Authorised
  rw [hrest]

lemma mem_of_insert (h : insertCheckpoint c s = some s') {d : ProgressCheckpoint} :
    d ∈ s'.checkpoints ↔ d ∈ s.checkpoints ∨ d = c := by
  obtain ⟨-, hrows, -⟩ := insertCheckpoint_eq_some.1 h
  rw [← Table.mem_rows, hrows]
  simp

end ProgressDb

/-! ## The invariant -/

/-- The work item of a call. -/
abbrev RecordCall.work (c : RecordCall sensitive) : String × String := c.draft.checkpoint.work

namespace ProgressWriters

/-- What the locks and the unique constraints maintain. -/
structure Inv (s : ProgressWriters sensitive) : Prop where
  contiguous : s.db.Contiguous
  authorised : ∀ d ∈ s.db.checkpoints, ProgressDb.Authorised d s.db
  exclusive : ∀ (i j : ℕ) (c d : RecordCall sensitive),
    s.calls[i]? = some c → s.calls[j]? = some d →
    c.phase.holdsLock = true → d.phase.holdsLock = true → c.work = d.work → i = j
  held : ∀ (i : ℕ) (c : RecordCall sensitive), s.calls[i]? = some c → c.phase.holdsLock = true →
    ProgressDb.Authorised c.draft.checkpoint s.db
  next : ∀ (i : ℕ) (c : RecordCall sensitive), s.calls[i]? = some c →
    c.phase = .current ∨ c.phase = .inserted →
    s.db.latestSequence c.draft.checkpoint.projectId c.draft.checkpoint.workItemId + 1 =
      c.draft.checkpoint.sequence
  storable : ∀ (i : ℕ) (c : RecordCall sensitive), s.calls[i]? = some c → c.phase = .inserted →
    ∀ t ∈ c.draft.checkpoint.texts, hasNoNul t = true
  free : ∀ (i : ℕ) (c : RecordCall sensitive), s.calls[i]? = some c → c.phase = .inserted →
    ∀ d ∈ s.db.checkpoints, ¬ d.Clash c.draft.checkpoint
  apart : ∀ (i j : ℕ) (c d : RecordCall sensitive), s.calls[i]? = some c → s.calls[j]? = some d →
    c.phase = .inserted → d.phase = .inserted → c.draft.checkpoint.Clash d.draft.checkpoint → i = j
  answered : ∀ (i : ℕ) (c : RecordCall sensitive) row, s.calls[i]? = some c →
    c.phase = .ended (.ok row) → row = c.draft.checkpoint ∧ row ∈ s.db.checkpoints

variable {s : ProgressWriters sensitive} {c : RecordCall sensitive} {db : ProgressDb}
  {phase : RecordPhase} {i : ℕ}

/-- Nothing is running. -/
lemma inv_start {db : ProgressDb} (hcontiguous : db.Contiguous)
    (hauthorised : ∀ d ∈ db.checkpoints, ProgressDb.Authorised d db) :
    Inv ({ db } : ProgressWriters sensitive) where
  contiguous := hcontiguous
  authorised := hauthorised
  exclusive _ _ _ _ h := by simp at h
  held _ _ h := by simp at h
  next _ _ h := by simp at h
  storable _ _ h := by simp at h
  free _ _ h := by simp at h
  apart _ _ _ _ h := by simp at h
  answered _ _ _ h := by simp at h

/-- The calls after another one has begun. -/
lemma getElem?_begin {draft : ProgressDraft sensitive} {j : ℕ} {d : RecordCall sensitive}
    (h : (s.calls ++ [(⟨draft, .begun⟩ : RecordCall sensitive)])[j]? = some d) :
    s.calls[j]? = some d ∨ d.phase = .begun := by
  rw [List.getElem?_append] at h
  split at h
  · exact Or.inl h
  · right
    obtain rfl := List.mem_singleton.1 (List.mem_of_getElem? h)
    rfl

lemma Inv.begin (h : Inv s) (draft : ProgressDraft sensitive) :
    Inv { s with calls := s.calls ++ [{ draft }] } where
  contiguous := h.contiguous
  authorised := h.authorised
  exclusive i j c d hc hd hholds hholds' hwork := by
    rcases getElem?_begin hc with hc | hc
    · rcases getElem?_begin hd with hd | hd
      · exact h.exclusive i j c d hc hd hholds hholds' hwork
      · rw [hd] at hholds'
        cases hholds'
    · rw [hc] at hholds
      cases hholds
  held i c hc hholds := by
    rcases getElem?_begin hc with hc | hc
    · exact h.held i c hc hholds
    · rw [hc] at hholds
      cases hholds
  next i c hc hphase := by
    rcases getElem?_begin hc with hc | hc
    · exact h.next i c hc hphase
    · simp [hc] at hphase
  storable i c hc hphase := by
    rcases getElem?_begin hc with hc | hc
    · exact h.storable i c hc hphase
    · simp [hc] at hphase
  free i c hc hphase := by
    rcases getElem?_begin hc with hc | hc
    · exact h.free i c hc hphase
    · simp [hc] at hphase
  apart i j c d hc hd hphase hphase' hclash := by
    rcases getElem?_begin hc with hc | hc
    · rcases getElem?_begin hd with hd | hd
      · exact h.apart i j c d hc hd hphase hphase' hclash
      · simp [hd] at hphase'
    · simp [hc] at hphase
  answered i c row hc hphase := by
    rcases getElem?_begin hc with hc | hc
    · exact h.answered i c row hc hphase
    · simp [hc] at hphase

/-- A move writes exactly when it commits. -/
lemma Moves.writes (h : Moves s c db phase) :
    db = s.db ∨ (c.phase = .inserted ∧
      ProgressDb.insertCheckpoint c.draft.checkpoint s.db = some db ∧ phase.isEnded = true) := by
  cases h with
  | commit hphase hinsert hanswer => exact Or.inr ⟨hphase, hinsert, rfl⟩
  | _ => exact Or.inl rfl

/-- A move that leaves the transaction with a lock had it or takes a free one. -/
lemma Moves.holdsLock (h : Moves s c db phase) (hholds : phase.holdsLock = true) :
    c.phase.holdsLock = true ∨
      (ProgressDb.Authorised c.draft.checkpoint s.db ∧ ¬ s.Locked c.work) := by
  cases h with
  | lock hphase hauthorised hfree => exact Or.inr ⟨hauthorised, hfree⟩
  | lookup hphase | compare hphase | insert hphase =>
    left
    rw [hphase]
    rfl
  | replay | refuse | commit => cases hholds

/-- The rows of a commit are those of a draft that held its lock. -/
lemma Inv.checkpoints (h : Inv s) (hc : s.calls[i]? = some c) (hmove : Moves s c db phase) :
    db.Contiguous ∧ (∀ d ∈ db.checkpoints, ProgressDb.Authorised d db) ∧
      (∀ d, ProgressDb.Authorised d s.db → ProgressDb.Authorised d db) ∧
        ∀ d ∈ s.db.checkpoints, d ∈ db.checkpoints := by
  obtain rfl | ⟨hphase, hinsert, -⟩ := hmove.writes
  · exact ⟨h.contiguous, h.authorised, fun d hd => hd, fun d hd => hd⟩
  · have hkeep : ∀ d, ProgressDb.Authorised d s.db → ProgressDb.Authorised d db :=
      fun d hd => (ProgressDb.authorised_of_insert hinsert).2 hd
    refine ⟨h.contiguous.insert hinsert (h.next i c hc (Or.inr hphase)), fun d hd => ?_, hkeep,
      fun d hd => (ProgressDb.mem_of_insert hinsert).2 (Or.inl hd)⟩
    rcases (ProgressDb.mem_of_insert hinsert).1 hd with hd | rfl
    · exact hkeep d (h.authorised d hd)
    · exact hkeep _ (h.held i c hc (by rw [hphase]; rfl))

/-- What a move leaves to a call that holds another lock. -/
lemma Inv.frame (h : Inv s) (hc : s.calls[i]? = some c) (hmove : Moves s c db phase) {j : ℕ}
    {d : RecordCall sensitive} (hd : s.calls[j]? = some d) (hji : j ≠ i)
    (hholds : d.phase.holdsLock = true) :
    db.latestSequence d.draft.checkpoint.projectId d.draft.checkpoint.workItemId =
        s.db.latestSequence d.draft.checkpoint.projectId d.draft.checkpoint.workItemId ∧
      (d.phase = .inserted → ∀ r ∈ db.checkpoints, ¬ r.Clash d.draft.checkpoint) := by
  obtain rfl | ⟨hphase, hinsert, -⟩ := hmove.writes
  · exact ⟨rfl, fun hinserted => h.free j d hd hinserted⟩
  · have hwork : c.work ≠ d.work := by
      intro hwork
      exact hji (h.exclusive i j c d hc hd (by rw [hphase]; rfl) hholds hwork).symm
    refine ⟨ProgressDb.latestSequence_of_insert hinsert hwork, fun hinserted r hr => ?_⟩
    rcases (ProgressDb.mem_of_insert hinsert).1 hr with hr | rfl
    · exact h.free j d hd hinserted r hr
    · intro hclash
      exact hji (h.apart i j c d hc hd hphase hinserted hclash).symm

/-- A call that holds the lock of its work item keeps the others from taking it. -/
lemma Moves.ne_work (hmove : Moves s c db phase) (hholds : phase.holdsLock = true)
    (hc : s.calls[i]? = some c) (h : Inv s) {j : ℕ} {d : RecordCall sensitive}
    (hd : s.calls[j]? = some d) (hji : j ≠ i) (hd' : d.phase.holdsLock = true) :
    d.work ≠ c.work := by
  intro hwork
  rcases hmove.holdsLock hholds with hold | ⟨-, hfree⟩
  · exact hji (h.exclusive j i d c hd hc hd' hold hwork)
  · exact hfree ⟨d, List.mem_of_getElem? hd, hd', hwork⟩

lemma Inv.put (h : Inv s) (hc : s.calls[i]? = some c) (hmove : Moves s c db phase) :
    Inv (s.put i c db phase) where
  contiguous := (h.checkpoints hc hmove).1
  authorised := (h.checkpoints hc hmove).2.1
  exclusive j k d e hd he hholds hholds' hwork := by
    obtain ⟨rfl, rfl⟩ | ⟨hj, hdcall⟩ := (getElem?_put hc).1 hd <;>
      obtain ⟨rfl, rfl⟩ | ⟨hk, hecall⟩ := (getElem?_put hc).1 he
    · rfl
    · exact absurd hwork.symm (hmove.ne_work hholds hc h hecall hk hholds')
    · exact absurd hwork (hmove.ne_work hholds' hc h hdcall hj hholds)
    · exact h.exclusive j k d e hdcall hecall hholds hholds' hwork
  held j d hd hholds := by
    refine (h.checkpoints hc hmove).2.2.1 _ ?_
    obtain ⟨rfl, rfl⟩ | ⟨hj, hd⟩ := (getElem?_put hc).1 hd
    · rcases hmove.holdsLock hholds with hold | ⟨hauthorised, -⟩
      · exact h.held j c hc hold
      · exact hauthorised
    · exact h.held j d hd hholds
  next j d hd hphase := by
    obtain ⟨rfl, rfl⟩ | ⟨hj, hd⟩ := (getElem?_put hc).1 hd
    · cases hmove with
      | compare _ hnext => exact hnext
      | insert hcurrent => exact h.next j c hc (Or.inl hcurrent)
      | lock | lookup | replay | refuse | commit => simp at hphase
    · have hholds : d.phase.holdsLock = true := by
        rcases hphase with hphase | hphase <;> rw [hphase] <;> rfl
      have hlatest := (h.frame hc hmove hd hj hholds).1
      have hnext := h.next j d hd hphase
      rw [← hlatest] at hnext
      exact hnext
  storable j d hd hphase := by
    obtain ⟨rfl, rfl⟩ | ⟨hj, hd⟩ := (getElem?_put hc).1 hd
    · cases hmove with
      | insert _ hnul => exact hnul
      | lock | lookup | compare | replay | refuse | commit => simp at hphase
    · exact h.storable j d hd hphase
  free j d hd hphase := by
    obtain ⟨rfl, rfl⟩ | ⟨hj, hd⟩ := (getElem?_put hc).1 hd
    · cases hmove with
      | insert _ _ _ hsome =>
        obtain ⟨db', hinsert⟩ := Option.isSome_iff_exists.1 hsome
        exact (ProgressDb.insertCheckpoint_eq_some.1 hinsert).1
      | lock | lookup | compare | replay | refuse | commit => simp at hphase
    · exact (h.frame hc hmove hd hj (by rw [hphase]; rfl)).2 hphase
  apart j k d e hd he hphase hphase' hclash := by
    obtain ⟨rfl, rfl⟩ | ⟨hj, hdcall⟩ := (getElem?_put hc).1 hd <;>
      obtain ⟨rfl, rfl⟩ | ⟨hk, hecall⟩ := (getElem?_put hc).1 he
    · rfl
    · cases hmove with
      | insert _ _ hpending =>
        refine absurd ⟨e, List.mem_of_getElem? hecall, by rw [hphase']; rfl, ?_⟩ hpending
        exact hclash.symm
      | lock | lookup | compare | replay | refuse | commit => simp at hphase
    · cases hmove with
      | insert _ _ hpending =>
        exact absurd ⟨d, List.mem_of_getElem? hdcall, by rw [hphase]; rfl, hclash⟩ hpending
      | lock | lookup | compare | replay | refuse | commit => simp at hphase'
    · exact h.apart j k d e hdcall hecall hphase hphase' hclash
  answered j d row hd hphase := by
    obtain ⟨rfl, rfl⟩ | ⟨hj, hd⟩ := (getElem?_put hc).1 hd
    · cases hmove with
      | replay _ hrow =>
        obtain rfl : c.draft.checkpoint = row := by simpa using hphase
        exact ⟨rfl, hrow⟩
      | commit _ hinsert hanswer =>
        rcases hanswer with rfl | rfl
        · obtain rfl : c.draft.checkpoint = row := by simpa using hphase
          exact ⟨rfl, (ProgressDb.mem_of_insert hinsert).2 (Or.inr rfl)⟩
        · simp at hphase
      | lock | lookup | compare | insert | refuse => simp at hphase
    · obtain ⟨hrow, hmem⟩ := h.answered j d row hd hphase
      exact ⟨hrow, (h.checkpoints hc hmove).2.2.2 row hmem⟩

/-- Every step keeps the invariant. -/
lemma inv_step (s : ProgressWriters sensitive) (e : WriterEvent sensitive) (h : Inv s) :
    Inv (step s e) := by
  rcases step_cases s e with hstep | ⟨draft, hstep⟩ | ⟨i, c, db, phase, -, hc, hmove, hstep⟩
  · rw [hstep]
    exact h
  · rw [hstep]
    exact h.begin draft
  · rw [hstep]
    exact h.put hc hmove

lemma inv_run (h : Inv s) (events : List (WriterEvent sensitive)) : Inv (run step s events) :=
  invariant_run inv_step h events

/-! ## What is recorded -/

/-- What one step does to the progress and to the answers. -/
structure Recorded (s s' : ProgressWriters sensitive) : Prop where
  /-- A write is the checkpoint of a call that expected the latest sequence. -/
  writes : s'.db = s.db ∨ ∃ (i : ℕ) (c : RecordCall sensitive), s.calls[i]? = some c ∧
    s.db.latestSequence c.draft.checkpoint.projectId c.draft.checkpoint.workItemId + 1 =
      c.draft.checkpoint.sequence ∧
    s'.db.checkpoints.rows = s.db.checkpoints.rows ++ [c.draft.checkpoint] ∧
    s'.db.toSponsorDb = s.db.toSponsorDb
  /-- A call that succeeds has done what it does without the others. -/
  accepted : ∀ (i : ℕ) (c c' : RecordCall sensitive) row, s.calls[i]? = some c →
    s'.calls[i]? = some c' → c.phase.isEnded = false → c'.phase = .ended (.ok row) →
    record sensitive c.draft s.db = .ok (row, s'.db)
  /-- A call that expected another sequence fails without a write, unless it is repeated. -/
  rejected : ∀ (i : ℕ) (c c' : RecordCall sensitive) answer, s.calls[i]? = some c →
    s'.calls[i]? = some c' → c.phase.isEnded = false → c'.phase = .ended answer →
    s.db.latestSequence c.draft.checkpoint.projectId c.draft.checkpoint.workItemId + 1 ≠
      c.draft.checkpoint.sequence →
    c.draft.checkpoint ∉ s.db.checkpoints → (∃ e, answer = .error e) ∧ s'.db = s.db

/-- A repeated draft is answered with its row. -/
lemma record_replay {d : ProgressDraft sensitive} {s : ProgressDb}
    (hauthorised : ProgressDb.Authorised d.checkpoint s) (hrow : d.checkpoint ∈ s.checkpoints) :
    record sensitive d s = .ok (d.checkpoint, s) := by
  rw [record, Tx.query_bind_ok, Tx.require_bind_ok, Tx.query_bind_ok]
  refine ⟨hauthorised, ?_⟩
  rw [Table.lookup_mem hrow]
  simp

/-- A draft of the next sequence with a new checkpoint id is inserted. -/
lemma record_insert {d : ProgressDraft sensitive} {s s' : ProgressDb}
    (hauthorised : ProgressDb.Authorised d.checkpoint s)
    (hnext : s.latestSequence d.checkpoint.projectId d.checkpoint.workItemId + 1 =
      d.checkpoint.sequence)
    (hnul : ∀ t ∈ d.checkpoint.texts, hasNoNul t = true)
    (hinsert : ProgressDb.insertCheckpoint d.checkpoint s = some s') :
    record sensitive d s = .ok (d.checkpoint, s') := by
  have hnone : s.checkpoints.lookup d.checkpoint.key = none := by
    refine Table.lookup_eq_none.2 fun r hr hkey => ?_
    exact (ProgressDb.insertCheckpoint_eq_some.1 hinsert).1 r hr (Or.inl hkey)
  rw [record, Tx.query_bind_ok, Tx.require_bind_ok, Tx.query_bind_ok]
  refine ⟨hauthorised, ?_⟩
  rw [hnone]
  dsimp only
  rw [Tx.require_bind_ok, Tx.require_bind_ok, Tx.attempt_bind_ok]
  exact ⟨hnext, hnul, s', hinsert, rfl⟩

/-- A call ends in a step only by its own move. -/
lemma ends_cases {e : WriterEvent sensitive} {c' : RecordCall sensitive}
    (hc : s.calls[i]? = some c) (hc' : (step s e).calls[i]? = some c')
    (hphase : c.phase.isEnded = false) (hended : c'.phase.isEnded = true) :
    ∃ db, Moves s c db c'.phase ∧ (step s e).db = db := by
  have hne : c' ≠ c := by
    rintro rfl
    rw [hphase] at hended
    cases hended
  rcases step_cases s e with hstep | ⟨draft, hstep⟩ | ⟨j, d, db, phase, -, hd, hmove, hstep⟩
  · rw [hstep, hc] at hc'
    exact absurd (Option.some.inj hc').symm hne
  · rw [hstep] at hc'
    rcases getElem?_begin hc' with hsame | hbegun
    · rw [hc] at hsame
      exact absurd (Option.some.inj hsame).symm hne
    · rw [hbegun] at hended
      cases hended
  · rw [hstep] at hc' ⊢
    rcases (getElem?_put hd).1 hc' with ⟨rfl, rfl⟩ | ⟨-, hsame⟩
    · obtain rfl : d = c := Option.some.inj (hd.symm.trans hc)
      exact ⟨db, hmove, rfl⟩
    · rw [hc] at hsame
      exact absurd (Option.some.inj hsame).symm hne

/-- Every step records progress as it should. -/
lemma recorded_step (h : Inv s) (e : WriterEvent sensitive) : Recorded s (step s e) where
  writes := by
    rcases step_cases s e with hstep | ⟨draft, hstep⟩ | ⟨i, c, db, phase, -, hc, hmove, hstep⟩
    · exact Or.inl (by rw [hstep])
    · exact Or.inl (by rw [hstep])
    · rw [hstep]
      obtain rfl | ⟨hphase, hinsert, -⟩ := hmove.writes
      · exact Or.inl rfl
      · obtain ⟨-, hrows, hrest⟩ := ProgressDb.insertCheckpoint_eq_some.1 hinsert
        exact Or.inr ⟨i, c, hc, h.next i c hc (Or.inr hphase), hrows, hrest⟩
  accepted i c c' row hc hc' hphase hended := by
    obtain ⟨db, hmove, rfl⟩ := ends_cases hc hc' hphase (by rw [hended]; rfl)
    rw [hended] at hmove
    generalize hdb : (step s e).db = db at hmove
    cases hmove with
    | replay _ hrow => exact record_replay (h.authorised _ hrow) hrow
    | commit hinserted hinsert hanswer =>
      obtain rfl : row = c.draft.checkpoint := by simpa using hanswer
      exact record_insert (h.held i c hc (by rw [hinserted]; rfl))
        (h.next i c hc (Or.inr hinserted)) (h.storable i c hc hinserted) hinsert
  rejected i c c' answer hc hc' hphase hended hstale hnew := by
    obtain ⟨db, hmove, rfl⟩ := ends_cases hc hc' hphase (by rw [hended]; rfl)
    rw [hended] at hmove
    generalize hdb : (step s e).db = db at hmove
    cases hmove with
    | replay _ hrow => exact absurd hrow hnew
    | commit hinserted => exact absurd (h.next i c hc (Or.inr hinserted)) hstale
    | refuse _ error => exact ⟨⟨error, rfl⟩, rfl⟩

/-! ## Repeated drafts -/

/-- A call of a draft that is recorded: it waits for the lock, is about to look its row up or
has its row. -/
structure Repeats (s : ProgressWriters sensitive) (i : ℕ) (draft : ProgressDraft sensitive) :
    Prop where
  recorded : draft.checkpoint ∈ s.db.checkpoints
  phase : s.calls[i]? = some ⟨draft, .begun⟩ ∨ s.calls[i]? = some ⟨draft, .locked⟩ ∨
    s.calls[i]? = some ⟨draft, .ended (.ok draft.checkpoint)⟩

/-- The rows stay. -/
lemma mem_step (h : Inv s) (e : WriterEvent sensitive) {row : ProgressCheckpoint}
    (hrow : row ∈ s.db.checkpoints) : row ∈ (step s e).db.checkpoints := by
  rcases (recorded_step h e).writes with hdb | ⟨i, c, -, -, hrows, -⟩
  · rw [hdb]
    exact hrow
  · rw [← Table.mem_rows, hrows]
    exact List.mem_append_left _ hrow

/-- An event about another call leaves a call where it is. -/
lemma getElem?_step_of_ne {e : WriterEvent sensitive} (he : e.call? ≠ some i)
    (hc : s.calls[i]? = some c) : (step s e).calls[i]? = some c := by
  rcases step_cases s e with hstep | ⟨draft, hstep⟩ | ⟨j, d, db, phase, hj, hd, hmove, hstep⟩
  · rw [hstep]
    exact hc
  · rw [hstep]
    obtain ⟨hi, -⟩ := List.getElem?_eq_some_iff.1 hc
    rw [← hc]
    exact List.getElem?_append_left hi
  · rw [hstep]
    refine (getElem?_put hd).2 (Or.inr ⟨?_, hc⟩)
    rintro rfl
    exact he hj

/-- The next statement of a call that waits for the lock of an existing work item. -/
lemma step_advance_begun {draft : ProgressDraft sensitive}
    (hc : s.calls[i]? = some ⟨draft, .begun⟩)
    (hauthorised : ProgressDb.Authorised draft.checkpoint s.db) :
    step s (.advance i) = if s.Locked draft.checkpoint.work then s
      else s.put i ⟨draft, .begun⟩ s.db .locked := by
  rw [step_advance, hc]
  by_cases hlocked : s.Locked draft.checkpoint.work <;> simp [statement, hauthorised, hlocked]

/-- The next statement of a call that finds its row. -/
lemma step_advance_locked {draft : ProgressDraft sensitive}
    (hc : s.calls[i]? = some ⟨draft, .locked⟩) (hrow : draft.checkpoint ∈ s.db.checkpoints) :
    step s (.advance i) =
      s.put i ⟨draft, .locked⟩ s.db (.ended (.ok draft.checkpoint)) := by
  rw [step_advance, hc]
  simp [statement, Table.lookup_mem hrow]

/-- A repeated draft keeps waiting, is answered with its row, or loses its connection. -/
lemma repeats_step (h : Inv s) {draft : ProgressDraft sensitive} (hs : Repeats s i draft)
    (e : WriterEvent sensitive) : Repeats (step s e) i draft ∨
      (e = .fail i ∧ (step s e).calls[i]? = some ⟨draft, .ended (.error .database)⟩) := by
  have hrow := mem_step h e hs.recorded
  by_cases he : e.call? = some i
  · cases e with
    | begin => cases he
    | advance j =>
      obtain rfl : j = i := Option.some.inj he
      rcases hs.phase with hc | hc | hc
      · have hstep := step_advance_begun hc (h.authorised _ hs.recorded)
        left
        refine ⟨hrow, ?_⟩
        rw [hstep]
        split
        · exact Or.inl hc
        · exact Or.inr (Or.inl ((getElem?_put hc).2 (Or.inl ⟨rfl, rfl⟩)))
      · left
        refine ⟨hrow, Or.inr (Or.inr ?_)⟩
        rw [step_advance_locked hc hs.recorded]
        exact (getElem?_put hc).2 (Or.inl ⟨rfl, rfl⟩)
      · left
        refine ⟨hrow, Or.inr (Or.inr ?_)⟩
        rw [step_advance, hc]
        exact hc
    | fail j =>
      obtain rfl : j = i := Option.some.inj he
      rcases hs.phase with hc | hc | hc
      · right
        rw [step_fail, hc]
        exact ⟨rfl, (getElem?_put hc).2 (Or.inl ⟨rfl, rfl⟩)⟩
      · right
        rw [step_fail, hc]
        exact ⟨rfl, (getElem?_put hc).2 (Or.inl ⟨rfl, rfl⟩)⟩
      · left
        refine ⟨hrow, Or.inr (Or.inr ?_)⟩
        rw [step_fail, hc]
        exact hc
    | lose j =>
      -- Such a call has inserted nothing.
      obtain rfl : j = i := Option.some.inj he
      have hstep : step s (.lose j) = s := by
        rw [step_lose]
        rcases hs.phase with hc | hc | hc <;> rw [hc]
      rw [hstep]
      exact Or.inl hs
  · left
    exact ⟨hrow, hs.phase.imp (getElem?_step_of_ne he)
      (Or.imp (getElem?_step_of_ne he) (getElem?_step_of_ne he))⟩

/-- A call that has ended stays as it is. -/
lemma ended_step {e : WriterEvent sensitive} (hc : s.calls[i]? = some c)
    (hended : c.phase.isEnded = true) : (step s e).calls[i]? = some c := by
  rcases step_cases s e with hstep | ⟨draft, hstep⟩ | ⟨j, d, db, phase, -, hd, hmove, hstep⟩
  · rw [hstep]
    exact hc
  · rw [hstep]
    obtain ⟨hi, -⟩ := List.getElem?_eq_some_iff.1 hc
    rw [← hc]
    exact List.getElem?_append_left hi
  · rw [hstep]
    refine (getElem?_put hd).2 (Or.inr ⟨?_, hc⟩)
    rintro rfl
    obtain rfl : d = c := Option.some.inj (hd.symm.trans hc)
    cases hmove with
    | refuse hphase =>
      rw [hended] at hphase
      cases hphase
    | lock hphase | lookup hphase | compare hphase | insert hphase | replay hphase
    | commit hphase =>
      rw [hphase] at hended
      cases hended

/-- A draft of a checkpoint that is recorded is repeated by the next call. -/
lemma repeats_begin {draft : ProgressDraft sensitive}
    (hrow : draft.checkpoint ∈ s.db.checkpoints) :
    Repeats (step s (.begin draft)) s.calls.length draft where
  recorded := hrow
  phase := Or.inl (by simp [step])

/-- However the run goes on, a repeated draft gets nothing but its row. -/
lemma repeats_run (h : Inv s) {draft : ProgressDraft sensitive} (hs : Repeats s i draft)
    (events : List (WriterEvent sensitive)) : Repeats (run step s events) i draft ∨
      (.fail i ∈ events ∧
        (run step s events).calls[i]? = some ⟨draft, .ended (.error .database)⟩) := by
  induction events generalizing s with
  | nil => exact Or.inl hs
  | cons e events ih =>
    rw [run_cons]
    rcases repeats_step h hs e with hstep | ⟨rfl, hfailed⟩
    · rcases ih (inv_step s e h) hstep with hrun | ⟨hmem, hrun⟩
      · exact Or.inl hrun
      · exact Or.inr ⟨List.mem_cons_of_mem e hmem, hrun⟩
    · refine Or.inr ⟨List.mem_cons_self, ?_⟩
      let ended : RecordCall sensitive := ⟨draft, .ended (.error .database)⟩
      have hended : ∀ (t : ProgressWriters sensitive) e, t.calls[i]? = some ended →
          (step t e).calls[i]? = some ended := fun t e hc => ended_step hc rfl
      exact invariant_run hended hfailed events

/-- What a repeated draft does with its next statement: it writes nothing, and it goes on as soon
as no other call holds the lock. -/
lemma advance_of_repeats (h : Inv s) {draft : ProgressDraft sensitive} (hs : Repeats s i draft) :
    (step s (.advance i)).db = s.db ∧
      (s.calls[i]? = some ⟨draft, .begun⟩ → ¬ s.Locked draft.checkpoint.work →
        (step s (.advance i)).calls[i]? = some ⟨draft, .locked⟩) ∧
      (s.calls[i]? = some ⟨draft, .locked⟩ →
        (step s (.advance i)).calls[i]? = some ⟨draft, .ended (.ok draft.checkpoint)⟩) := by
  refine ⟨?_, fun hc hfree => ?_, fun hc => ?_⟩
  · rcases hs.phase with hc | hc | hc
    · rw [step_advance_begun hc (h.authorised _ hs.recorded)]
      split <;> rfl
    · rw [step_advance_locked hc hs.recorded]
      rfl
    · rw [step_advance, hc]
      rfl
  · rw [step_advance_begun hc (h.authorised _ hs.recorded), if_neg hfree]
    exact (getElem?_put hc).2 (Or.inl ⟨rfl, rfl⟩)
  · rw [step_advance_locked hc hs.recorded]
    exact (getElem?_put hc).2 (Or.inl ⟨rfl, rfl⟩)

/-! ## Every interleaving -/

/-- The checkpoints are serial: the sequences of each work item are 1 to n, and the work items
and role instances of the checkpoints exist. -/
structure Serial (db : ProgressDb) : Prop where
  contiguous : db.Contiguous
  authorised : ∀ d ∈ db.checkpoints, ProgressDb.Authorised d db

/-- In every interleaving of the calls of `record` the sequences of each work item are 1 to n,
every step records progress as a call alone would, a repeated draft gets its row without a write,
and no two drafts of a project share a checkpoint id. -/
theorem progress_of_writers {db : ProgressDb} (hdb : Serial db)
    (events : List (WriterEvent sensitive)) :
    let s := run step { db } events
    (∀ work, ∃ n, s.db.sequences work = List.range' 1 n) ∧
    (∀ e, Recorded s (step s e)) ∧
    (∀ draft, draft.checkpoint ∈ s.db.checkpoints →
      Repeats (step s (.begin draft)) s.calls.length draft) ∧
    (∀ (i : ℕ) draft, Repeats s i draft → ∀ more, let t := run step s more
      ((Repeats t i draft ∧ (step t (.advance i)).db = t.db ∧
          (t.calls[i]? = some ⟨draft, .begun⟩ → ¬ t.Locked draft.checkpoint.work →
            (step t (.advance i)).calls[i]? = some ⟨draft, .locked⟩) ∧
          (t.calls[i]? = some ⟨draft, .locked⟩ →
            (step t (.advance i)).calls[i]? = some ⟨draft, .ended (.ok draft.checkpoint)⟩)) ∨
        (.fail i ∈ more ∧ t.calls[i]? = some ⟨draft, .ended (.error .database)⟩))) ∧
    (∀ (i j : ℕ) (c d : RecordCall sensitive) row row', s.calls[i]? = some c →
      s.calls[j]? = some d → c.phase = .ended (.ok row) → d.phase = .ended (.ok row') →
      c.draft.checkpoint.key = d.draft.checkpoint.key → c.draft = d.draft) := by
  intro s
  have h : Inv s := inv_run (inv_start hdb.contiguous hdb.authorised) events
  refine ⟨h.contiguous, fun e => recorded_step h e, fun draft hrow => repeats_begin hrow,
    fun i draft hs more => ?_, ?_⟩
  · intro t
    rcases repeats_run h hs more with hrun | hfailed
    · exact Or.inl ⟨hrun, advance_of_repeats (inv_run h more) hrun⟩
    · exact Or.inr hfailed
  · intro i j c d row row' hc hd hanswer hanswer' hkey
    obtain ⟨rfl, hrow⟩ := h.answered i c row hc hanswer
    obtain ⟨rfl, hrow'⟩ := h.answered j d row' hd hanswer'
    have hsame := s.db.checkpoints.eq_of_key hrow hrow' hkey
    cases hcd : c.draft
    cases hdd : d.draft
    rw [hcd, hdd] at hsame
    subst hsame
    rfl

/-- Two calls of the build's draft: the second waits, and gets the row of the first. -/
def twoBuilds : List (WriterEvent fun _ => false) :=
  [.begin buildDraft, .begin buildDraft, .advance 0, .advance 1, .advance 0, .advance 0, .advance 1,
    .advance 0, .advance 0, .advance 1, .advance 1]

lemma serial_builtDb : Serial builtDb where
  contiguous _ := ⟨0, rfl⟩
  authorised d hd := absurd hd (Table.notMem_empty d)

/-- The two calls record one checkpoint and both succeed. -/
theorem progress_of_twoBuilds : ∃ s : ProgressWriters fun _ => false,
    s = run step { db := builtDb } twoBuilds ∧
      s.db.sequences ("p", "w") = [1] ∧ (∀ work, ∃ n, s.db.sequences work = List.range' 1 n) ∧
      s.calls = [⟨buildDraft, .ended (.ok buildDraft.checkpoint)⟩,
        ⟨buildDraft, .ended (.ok buildDraft.checkpoint)⟩] :=
  ⟨_, rfl, rfl, (progress_of_writers serial_builtDb twoBuilds).1, rfl⟩

end ProgressWriters

end AgenticMesh.Teams
