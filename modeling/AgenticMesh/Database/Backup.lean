import AgenticMesh.Base.Run
import Mathlib.Data.List.Sort
import Mathlib.Data.String.Basic

/-!
# Backups and the maintenance pause

`DatabaseBackupService.backup` pauses the guarded writers, runs `pg_dump`, counts the rows
of every table in later transactions, publishes the archive with a manifest of the counts,
and resumes the database if the pause was its own.  The pause is one flag of the database:
other operators may set and clear it between any two steps of the backup.
-/

namespace AgenticMesh.DatabaseOperations

/-! ## The maintenance flag -/

/-- `database_maintenance.status`. -/
inductive MaintenanceState where
  | active
  | paused
deriving DecidableEq, Repr

/-- The append-only history of the flag. -/
abbrev historyTable : String := "database_maintenance_history"

/-- The table of the flag itself, the only one without a write guard. -/
abbrev maintenanceTable : String := "database_maintenance"

/-- The committed database. -/
structure MaintenanceDb where
  status : MaintenanceState
  /-- The number of rows of each table. -/
  rows : String → ℕ
  /-- Open transactions that have passed a write guard: they keep the lock on the flag's
  table that the guard has read it under. -/
  writers : ℕ := 0
  guarded : status = .paused → writers = 0

namespace MaintenanceDb

/-- The rows after one more transition in the history. -/
def recorded (db : MaintenanceDb) : String → ℕ :=
  Function.update db.rows historyTable (db.rows historyTable + 1)

/-- `MaintenanceStore.pause`, with whether it changed the flag; `none` while it waits for
the writers. -/
def pause (db : MaintenanceDb) : Option (MaintenanceDb × Bool) :=
  if hwriters : db.writers = 0 then
    if db.status = .paused then some (db, false)
    else some ({ db with status := .paused, rows := db.recorded, guarded := fun _ => hwriters },
      true)
  else none

/-- `MaintenanceStore.resume`. -/
def resume (db : MaintenanceDb) : MaintenanceDb :=
  if db.status = .active then db
  else { db with status := .active, rows := db.recorded, guarded := nofun }

/-- A transaction makes its first guarded write; `reject_writes_during_maintenance` raises
while the flag is `paused`. -/
def beginWrite (db : MaintenanceDb) : MaintenanceDb :=
  if hactive : db.status = .active then
    { db with writers := db.writers + 1, guarded := fun h => by rw [hactive] at h; cases h }
  else db

/-- A guarded transaction commits the number of rows it leaves in some guarded tables. -/
def commitWrite (changes : List (String × ℕ)) (db : MaintenanceDb) : MaintenanceDb :=
  if db.writers = 0 then db
  else
    { db with
      rows := (changes.filter fun c => c.1 ≠ maintenanceTable).foldl
        (fun rows c => Function.update rows c.1 c.2) db.rows
      writers := db.writers - 1
      guarded := fun h => by rw [db.guarded h] }

/-- A guarded transaction rolls back. -/
def abortWrite (db : MaintenanceDb) : MaintenanceDb :=
  { db with writers := db.writers - 1, guarded := fun h => by rw [db.guarded h] }

variable {db db' : MaintenanceDb} {changed : Bool}

lemma pause_of_paused (h : db.status = .paused) : db.pause = some (db, false) := by
  rw [pause, dif_pos (db.guarded h), if_pos h]

/-- What `pause` leaves when it need not wait. -/
lemma pause_spec (h : db.pause = some (db', changed)) :
    db'.status = .paused ∧ (changed = false → db' = db) := by
  rw [pause] at h
  split at h
  · split at h
    · next hpaused =>
      obtain ⟨rfl, rfl⟩ := Prod.mk.inj (Option.some.inj h)
      exact ⟨hpaused, fun _ => rfl⟩
    · obtain ⟨rfl, rfl⟩ := Prod.mk.inj (Option.some.inj h)
      exact ⟨rfl, fun h => absurd h (by decide)⟩
  · cases h

@[simp] lemma resume_status : db.resume.status = .active := by
  unfold resume
  split
  · next hactive => exact hactive
  · rfl

@[simp] lemma beginWrite_status : db.beginWrite.status = db.status := by
  unfold beginWrite
  split <;> rfl

@[simp] lemma commitWrite_status {changes : List (String × ℕ)} :
    (db.commitWrite changes).status = db.status := by
  unfold commitWrite
  split <;> rfl

@[simp] lemma abortWrite_status : db.abortWrite.status = db.status := rfl

/-- While the database is paused no guarded transaction changes a row. -/
lemma beginWrite_rows_of_paused (h : db.status = .paused) : db.beginWrite.rows = db.rows := by
  rw [beginWrite, dif_neg (by rw [h]; decide)]

lemma commitWrite_rows_of_paused {changes : List (String × ℕ)} (h : db.status = .paused) :
    (db.commitWrite changes).rows = db.rows := by
  rw [commitWrite, if_pos (db.guarded h)]

end MaintenanceDb

/-! ## Archives and manifests -/

/-- `table_counts`. -/
abbrev TableCounts : Type := List (String × ℕ)

/-- What `pg_dump` has copied: the snapshot taken when it started. -/
structure Archive where
  status : MaintenanceState
  rows : String → ℕ

/-- `dict(sorted(counts.items()))`. -/
def sortCounts (counts : TableCounts) : TableCounts := counts.insertionSort fun a b => a.1 ≤ b.1

/-- The tables in the order in which `_validated_snapshot` counts them. -/
def countedTables (tables : List String) : List String := tables ++ [maintenanceTable]

/-- The counts of `_validated_snapshot` in a database that holds some rows and that nobody
changes meanwhile. -/
def snapshotCounts (tables : List String) (rows : String → ℕ) : TableCounts :=
  sortCounts ((countedTables tables).map fun table => (table, rows table))

/-- Why a restored database is refused. -/
inductive RestoreError where
  | countsDiffer
  | notPaused
deriving DecidableEq, Repr

/-- The checks of `DatabaseBackupService.restore` in the database that `pg_restore` has
filled from an archive. -/
def restore (tables : List String) (archive : Archive) (manifest : TableCounts) :
    Except RestoreError TableCounts :=
  if snapshotCounts tables archive.rows ≠ manifest then .error .countsDiffer
  else if archive.status ≠ .paused then .error .notPaused
  else .ok (snapshotCounts tables archive.rows)

/-! ## The backup among the other operators -/

/-- The next step of `backup`.  An answer is `none` when `backup` raises. -/
inductive BackupPhase where
  | status
  | pause
  | dump
  /-- `pg_dump` has its snapshot and does not hold its locks yet. -/
  | snapshot
  /-- `pg_dump` holds a lock on every table. -/
  | dumping
  | verify
  /-- The tables that are still to be counted. -/
  | count (rest : List String)
  | publishArchive
  | publishManifest
  /-- The `finally` clause of a backup that initiated the pause. -/
  | resume (answer : Option TableCounts)
  | returning (answer : Option TableCounts)
  | ended (answer : Option TableCounts)
deriving DecidableEq

namespace BackupPhase

/-- The dump has its snapshot and a table is still to be counted. -/
def measuring : BackupPhase → Bool
  | snapshot | dumping | verify | count (_ :: _) => true
  | _ => false

/-- The `try` statement runs. -/
def trying : BackupPhase → Bool
  | resume _ | returning _ | ended _ => false
  | _ => true

/-- Nothing is left to do but return. -/
def leaving : BackupPhase → Bool
  | returning _ | ended _ => true
  | _ => false

def isEnded : BackupPhase → Bool
  | ended _ => true
  | _ => false

lemma trying_of_leaving {phase : BackupPhase} (h : phase.leaving = true) :
    phase.trying = false := by
  cases phase with
  | returning _ => rfl
  | ended _ => rfl
  | _ => cases h

end BackupPhase

/-- A call of `backup` and the database it runs against. -/
structure Backup where
  db : MaintenanceDb
  phase : BackupPhase := .status
  /-- The status read before the pause. -/
  before : MaintenanceState := .active
  /-- The pause of this call changed the flag. -/
  changed : Bool := false
  initiatedPause : Bool := false
  /-- The resume of this call is committed. -/
  resumed : Bool := false
  temporaryArchive : Option Archive := none
  counts : TableCounts := []
  archive : Option Archive := none
  manifest : Option TableCounts := none
  /-- What the last `pause` or `resume` of another operator during the call asked for. -/
  issued : Option MaintenanceState := none
  /-- The same, of those after the resume of this call. -/
  late : Option MaintenanceState := none

/-- What happens during a backup. -/
inductive BackupEvent where
  /-- The next step of the backup, if it need not wait. -/
  | advance
  /-- The next step of the backup raises. -/
  | fail
  /-- `pause` or `resume` commits and its connection is lost before the answer. -/
  | loseAnswer
  /-- Another operator pauses the database. -/
  | pause
  /-- Another operator resumes it. -/
  | resume
  | beginWrite
  | commitWrite (changes : List (String × ℕ))
  | abortWrite

namespace Backup

/-- `backup` is called. -/
def start (db : MaintenanceDb) : Backup where
  db := db

/-- The phase after the `try` statement. -/
def leave (initiatedPause : Bool) (answer : Option TableCounts) : BackupPhase :=
  if initiatedPause then .resume answer else .returning answer

/-- The next step of the call. -/
def advance (tables : List String) (s : Backup) : Backup :=
  match s.phase with
  | .status => { s with before := s.db.status, phase := .pause }
  | .pause =>
    match s.db.pause with
    | none => s
    | some (db, changed) =>
      { s with
        db, changed, initiatedPause := decide (s.before = .active) && changed, phase := .dump }
  | .dump =>
    { s with
      temporaryArchive := some { status := s.db.status, rows := s.db.rows }
      phase := .snapshot }
  | .snapshot => { s with phase := .dumping }
  | .dumping => { s with phase := .verify }
  | .verify => { s with phase := .count (countedTables tables) }
  | .count (table :: rest) =>
    { s with counts := s.counts ++ [(table, s.db.rows table)], phase := .count rest }
  | .count [] => { s with phase := .publishArchive }
  | .publishArchive => { s with archive := s.temporaryArchive, phase := .publishManifest }
  | .publishManifest =>
    { s with
      manifest := some (sortCounts s.counts)
      phase := leave s.initiatedPause (some (sortCounts s.counts)) }
  | .resume answer => { s with db := s.db.resume, resumed := true, phase := .returning answer }
  | .returning answer => { s with phase := .ended answer }
  | .ended _ => s

/-- The next step raises.  An archive without a manifest is removed. -/
def fail (s : Backup) : Backup :=
  match s.phase with
  | .resume _ => { s with phase := .returning none }
  | .returning _ | .ended _ => s
  | _ =>
    { s with
      archive := if s.manifest.isSome then s.archive else none
      phase := leave s.initiatedPause none }

/-- A lost answer: `initiated_pause` stays false when it is the one of `pause`. -/
def loseAnswer (s : Backup) : Backup :=
  match s.phase with
  | .pause =>
    match s.db.pause with
    | none => s
    | some (db, changed) => { s with db, changed, phase := .returning none }
  | .resume _ => { s with db := s.db.resume, resumed := true, phase := .returning none }
  | _ => s

/-- Another operator has set the flag. -/
def operated (s : Backup) (db : MaintenanceDb) (status : MaintenanceState) : Backup where
  __ := s
  db := db
  issued := some status
  late := if s.resumed then some status else s.late

/-- The `pause` of another operator; it also waits for the locks of `pg_dump`. -/
def pauseBy (s : Backup) : Backup :=
  if s.phase = .dumping then s
  else
    match s.db.pause with
    | none => s
    | some (db, _) => s.operated db .paused

/-- One event; an event that is not possible, or comes after the end, changes nothing. -/
def step (tables : List String) (s : Backup) (e : BackupEvent) : Backup :=
  if s.phase.isEnded then s
  else
    match e with
    | .advance => s.advance tables
    | .fail => s.fail
    | .loseAnswer => s.loseAnswer
    | .pause => s.pauseBy
    | .resume => s.operated s.db.resume .active
    | .beginWrite => { s with db := s.db.beginWrite }
    | .commitWrite changes => { s with db := s.db.commitWrite changes }
    | .abortWrite => { s with db := s.db.abortWrite }

/-! ## The flag throughout a backup -/

variable {tables : List String} {s t : Backup} {origin : MaintenanceState}

/-- What a backup has done to the flag, and what has become of it. -/
def flag (s : Backup) :
    MaintenanceState × Bool × Bool × Bool × Option MaintenanceState × Option MaintenanceState :=
  (s.db.status, s.changed, s.initiatedPause, s.resumed, s.issued, s.late)

/-- The flag in every state of a backup that began in the state `origin`. -/
structure Flagged (origin : MaintenanceState) (s : Backup) : Prop where
  /-- A backup that has not changed the flag leaves it to the others. -/
  kept : s.changed = false → s.db.status = s.issued.getD origin
  initiated : s.initiatedPause = true → s.changed = true
  unresumed : s.resumed = false → s.late = none
  /-- So does a backup that has undone its pause. -/
  resumed : s.resumed = true →
    s.changed = true ∧ s.phase.leaving = true ∧ s.db.status = s.late.getD .active
  resuming : ∀ answer, s.phase = .resume answer → s.changed = true
  /-- A backup does not return a result before it has undone its pause. -/
  answered : ∀ counts, s.phase = .returning (some counts) ∨ s.phase = .ended (some counts) →
    s.initiatedPause = true → s.resumed = true
  early : s.phase = .status ∨ s.phase = .pause → s.changed = false ∧ s.initiatedPause = false

namespace Flagged

lemma start (db : MaintenanceDb) : Flagged db.status (Backup.start db) where
  kept := fun _ => rfl
  initiated := nofun
  unresumed := fun _ => rfl
  resumed := nofun
  resuming := nofun
  answered := fun _ h => absurd h (by simp [Backup.start])
  early := fun _ => ⟨rfl, rfl⟩

/-- The call has not resumed the database in the `try` statement. -/
lemma unresumed_of_trying (h : Flagged origin s) (hphase : s.phase.trying = true) :
    s.resumed = false := by
  rw [← Bool.not_eq_true]
  intro hresumed
  have htrying := BackupPhase.trying_of_leaving (h.resumed hresumed).2.1
  rw [hphase] at htrying
  cases htrying

/-- A step inside the `try` statement, after the pause, that leaves the flag alone. -/
lemma keep (h : Flagged origin s) (hflag : t.flag = s.flag) (hs : s.phase.trying = true)
    (ht : t.phase.trying = true) (hpaused : t.phase ≠ .status ∧ t.phase ≠ .pause) :
    Flagged origin t := by
  have hresumed := h.unresumed_of_trying hs
  simp only [flag, Prod.mk.injEq] at hflag
  obtain ⟨hstatus, hchanged, hinitiated, hresumed', hissued, hlate⟩ := hflag
  refine ⟨by rw [hstatus, hchanged, hissued]; exact h.kept, ?_, ?_, ?_, ?_, ?_, ?_⟩
  · rw [hinitiated, hchanged]
    exact h.initiated
  · rw [hresumed', hlate]
    exact h.unresumed
  · rw [hresumed', hresumed]
    exact nofun
  · intro answer hphase
    rw [hphase] at ht
    exact absurd ht (by simp [BackupPhase.trying])
  · rintro counts (hphase | hphase) <;> rw [hphase] at ht <;>
      exact absurd ht (by simp [BackupPhase.trying])
  · rintro (hphase | hphase)
    · exact absurd hphase hpaused.1
    · exact absurd hphase hpaused.2

/-- The end of the `try` statement. -/
lemma leave (h : Flagged origin s) {answer : Option TableCounts} (hflag : t.flag = s.flag)
    (hs : s.phase.trying = true) (ht : t.phase = Backup.leave s.initiatedPause answer) :
    Flagged origin t := by
  have hresumed := h.unresumed_of_trying hs
  simp only [flag, Prod.mk.injEq] at hflag
  obtain ⟨hstatus, hchanged, hinitiated, hresumed', hissued, hlate⟩ := hflag
  refine ⟨by rw [hstatus, hchanged, hissued]; exact h.kept, ?_, ?_, ?_, ?_, ?_, ?_⟩
  · rw [hinitiated, hchanged]
    exact h.initiated
  · rw [hresumed', hlate]
    exact h.unresumed
  · rw [hresumed', hresumed]
    exact nofun
  · -- the `finally` clause is entered with the pause of this call
    intro answer' hphase
    rw [hchanged]
    refine h.initiated ?_
    by_contra hnot
    rw [ht, Backup.leave, if_neg hnot] at hphase
    cases hphase
  · intro counts hphase hinit
    rw [hinitiated] at hinit
    rw [ht, Backup.leave, if_pos hinit] at hphase
    rcases hphase with hphase | hphase <;> cases hphase
  · intro hphase
    rw [ht, Backup.leave] at hphase
    split at hphase <;> rcases hphase with hphase | hphase <;> cases hphase

/-- The call pauses the database. -/
lemma pause (h : Flagged origin s) {db : MaintenanceDb} {changed initiated : Bool}
    {phase : BackupPhase} (hs : s.phase = .pause) (hpause : s.db.pause = some (db, changed))
    (hinitiated : initiated = true → changed = true)
    (hphase : phase = .dump ∨ phase = .returning none) :
    Flagged origin { s with db, changed, initiatedPause := initiated, phase } := by
  obtain ⟨hstatus, hsame⟩ := MaintenanceDb.pause_spec hpause
  have hresumed : s.resumed = false := h.unresumed_of_trying (by rw [hs]; rfl)
  refine ⟨?_, hinitiated, h.unresumed, ?_, ?_, ?_, ?_⟩
  · rintro (hchanged : changed = false)
    rw [hsame hchanged]
    exact h.kept (h.early (.inr hs)).1
  · intro (h' : s.resumed = true)
    rw [hresumed] at h'
    cases h'
  · rintro answer (rfl : phase = _)
    rcases hphase with hphase | hphase <;> cases hphase
  · rintro counts ((rfl : phase = _) | (rfl : phase = _)) <;>
      rcases hphase with hphase | hphase <;> cases hphase
  · rintro ((rfl : phase = _) | (rfl : phase = _)) <;>
      rcases hphase with hphase | hphase <;> cases hphase

/-- The call resumes the database. -/
lemma resume (h : Flagged origin s) {answer answer' : Option TableCounts}
    (hs : s.phase = .resume answer) :
    Flagged origin { s with
      db := s.db.resume, resumed := true, phase := .returning answer' } := by
  have hchanged : s.changed = true := h.resuming answer hs
  have hlate : s.late = none := by
    refine h.unresumed ?_
    rw [← Bool.not_eq_true]
    intro hresumed
    have hleaving := (h.resumed hresumed).2.1
    rw [hs] at hleaving
    cases hleaving
  refine ⟨?_, h.initiated, nofun, fun _ => ⟨hchanged, rfl, ?_⟩, fun _ _ => hchanged,
    fun _ _ _ => rfl, ?_⟩
  · intro (h' : s.changed = false)
    rw [hchanged] at h'
    cases h'
  · show s.db.resume.status = s.late.getD .active
    rw [hlate, MaintenanceDb.resume_status]
    rfl
  · rintro (hphase | hphase) <;> cases hphase

/-- After the `finally` clause, and when the resume of the call fails. -/
lemma exit (h : Flagged origin s) {phase : BackupPhase} (hleaving : phase.leaving = true)
    (hs : ∀ counts, phase = .returning (some counts) ∨ phase = .ended (some counts) →
      s.phase = .returning (some counts) ∨ s.phase = .ended (some counts)) :
    Flagged origin { s with phase } := by
  refine ⟨h.kept, h.initiated, h.unresumed, ?_, ?_, ?_, ?_⟩
  · intro hresumed
    exact ⟨(h.resumed hresumed).1, hleaving, (h.resumed hresumed).2.2⟩
  · rintro answer (rfl : phase = _)
    cases hleaving
  · intro counts hphase
    exact h.answered counts (hs counts hphase)
  · rintro ((rfl : phase = _) | (rfl : phase = _)) <;> cases hleaving

/-- Another operator sets the flag. -/
lemma operated (h : Flagged origin s) {db : MaintenanceDb} {status : MaintenanceState}
    (hdb : db.status = status) : Flagged origin (s.operated db status) := by
  refine ⟨fun _ => hdb, h.initiated, ?_, ?_, h.resuming, h.answered, h.early⟩
  · intro (hresumed : s.resumed = false)
    show (if s.resumed then some status else s.late) = none
    rw [hresumed]
    exact h.unresumed hresumed
  · intro (hresumed : s.resumed = true)
    refine ⟨(h.resumed hresumed).1, (h.resumed hresumed).2.1, ?_⟩
    show db.status = (if s.resumed then some status else s.late).getD .active
    rw [hresumed, hdb]
    rfl

/-- A guarded transaction. -/
lemma written (h : Flagged origin s) {db : MaintenanceDb} (hdb : db.status = s.db.status) :
    Flagged origin { s with db } := by
  refine ⟨?_, h.initiated, h.unresumed, ?_, h.resuming, h.answered, h.early⟩
  · intro hchanged
    exact hdb.trans (h.kept hchanged)
  · intro hresumed
    exact ⟨(h.resumed hresumed).1, (h.resumed hresumed).2.1, hdb.trans (h.resumed hresumed).2.2⟩

/-- The next step of the call. -/
lemma advance (h : Flagged origin s) : Flagged origin (s.advance tables) := by
  rw [Backup.advance]
  cases hs : s.phase with
  | status =>
    obtain ⟨hchanged, hinit⟩ := h.early (.inl hs)
    have hresumed : s.resumed = false := h.unresumed_of_trying (by rw [hs]; rfl)
    refine ⟨h.kept, h.initiated, h.unresumed, ?_, nofun, ?_, fun _ => ⟨hchanged, hinit⟩⟩
    · intro (h' : s.resumed = true)
      rw [hresumed] at h'
      cases h'
    · rintro counts (hphase | hphase) <;> cases hphase
  | pause =>
    dsimp only
    split
    · exact h
    · next db changed hpause =>
      exact h.pause hs hpause (fun hinit => (Bool.and_eq_true_iff.1 hinit).2) (.inl rfl)
  | dump => exact h.keep rfl (by rw [hs]; rfl) rfl ⟨nofun, nofun⟩
  | snapshot => exact h.keep rfl (by rw [hs]; rfl) rfl ⟨nofun, nofun⟩
  | dumping => exact h.keep rfl (by rw [hs]; rfl) rfl ⟨nofun, nofun⟩
  | verify => exact h.keep rfl (by rw [hs]; rfl) rfl ⟨nofun, nofun⟩
  | count rest =>
    cases rest with
    | nil => exact h.keep rfl (by rw [hs]; rfl) rfl ⟨nofun, nofun⟩
    | cons table rest => exact h.keep rfl (by rw [hs]; rfl) rfl ⟨nofun, nofun⟩
  | publishArchive => exact h.keep rfl (by rw [hs]; rfl) rfl ⟨nofun, nofun⟩
  | publishManifest => exact h.leave rfl (by rw [hs]; rfl) rfl
  | resume answer => exact h.resume hs
  | returning answer =>
    refine h.exit rfl ?_
    rintro counts (hphase | hphase)
    · cases hphase
    · exact .inl (hs.trans (by rw [BackupPhase.ended.inj hphase]))
  | ended answer => exact h

/-- The next step of the call raises. -/
lemma fail (h : Flagged origin s) : Flagged origin s.fail := by
  rw [Backup.fail]
  split
  · refine h.exit rfl ?_
    rintro counts (hphase | hphase) <;> cases hphase
  · exact h
  · exact h
  · next hresume hreturning hended =>
    refine h.leave rfl ?_ rfl
    cases hs : s.phase with
    | resume answer => exact absurd hs (hresume answer)
    | returning answer => exact absurd hs (hreturning answer)
    | ended answer => exact absurd hs (hended answer)
    | _ => rfl

/-- The answer of a statement about the flag is lost. -/
lemma loseAnswer (h : Flagged origin s) : Flagged origin s.loseAnswer := by
  rw [Backup.loseAnswer]
  split
  · next hs =>
    split
    · exact h
    · next db changed hpause =>
      refine h.pause hs hpause ?_ (.inr rfl)
      intro hinit
      rw [(h.early (.inr hs)).2] at hinit
      cases hinit
  · next answer hs => exact h.resume hs
  · exact h

/-- One event. -/
lemma step (h : Flagged origin s) (e : BackupEvent) : Flagged origin (s.step tables e) := by
  rw [Backup.step.eq_def]
  split
  · exact h
  · cases e with
    | advance => exact h.advance
    | fail => exact h.fail
    | loseAnswer => exact h.loseAnswer
    | pause =>
      show Flagged origin s.pauseBy
      rw [pauseBy]
      split
      · exact h
      · split
        · exact h
        · next hpause => exact h.operated (MaintenanceDb.pause_spec hpause).1
    | resume => exact h.operated MaintenanceDb.resume_status
    | beginWrite => exact h.written MaintenanceDb.beginWrite_status
    | commitWrite changes => exact h.written MaintenanceDb.commitWrite_status
    | abortWrite => exact h.written MaintenanceDb.abortWrite_status

end Flagged

/-! ## The counts and the snapshot -/

/-- The database stays paused from the start of the dump to the last count. -/
def StaysPaused (s : Backup) (e : BackupEvent) : Prop :=
  (s.phase.measuring = true ∨ s.phase = .dump ∧ e = .advance) → s.db.status = .paused

/-- The dump has copied a paused database. -/
def Copied (s : Backup) (archive : Archive) : Prop :=
  s.temporaryArchive = some archive ∧ archive.status = .paused

/-- While the database is paused its rows are those of the archive. -/
def Current (s : Backup) (archive : Archive) : Prop :=
  s.db.status = .paused → archive.rows = s.db.rows

/-- A published manifest has the counts of the published archive. -/
def Published (tables : List String) (s : Backup) : Prop :=
  ∀ counts, s.manifest = some counts → ∃ archive, s.archive = some archive ∧
    counts = snapshotCounts tables archive.rows ∧ restore tables archive counts = .ok counts

/-- What the call has measured when it is in a phase. -/
def MeasuredAt (tables : List String) (s : Backup) : BackupPhase → Prop
  | .status | .pause | .dump => s.counts = [] ∧ s.manifest = none
  | .snapshot | .dumping | .verify =>
    s.counts = [] ∧ s.manifest = none ∧ ∃ archive, s.Copied archive ∧ s.Current archive
  | .count rest =>
    s.manifest = none ∧ ∃ archive done, s.Copied archive ∧ (rest ≠ [] → s.Current archive) ∧
      done ++ rest = countedTables tables ∧
      s.counts = done.map fun table => (table, archive.rows table)
  | .publishArchive =>
    s.manifest = none ∧ ∃ archive, s.Copied archive ∧
      s.counts = (countedTables tables).map fun table => (table, archive.rows table)
  | .publishManifest =>
    s.manifest = none ∧ ∃ archive, s.archive = some archive ∧ archive.status = .paused ∧
      s.counts = (countedTables tables).map fun table => (table, archive.rows table)
  | .resume _ | .returning _ | .ended _ => Published tables s

def Measured (tables : List String) (s : Backup) : Prop := MeasuredAt tables s s.phase

lemma measuredAt_of_published {phase : BackupPhase} (h : Published tables s)
    (hphase : phase.trying = false) : MeasuredAt tables s phase := by
  cases phase with
  | resume answer => exact h
  | returning answer => exact h
  | ended answer => exact h
  | _ => cases hphase

lemma trying_leave {initiatedPause : Bool} {answer : Option TableCounts} :
    (leave initiatedPause answer).trying = false := by
  cases initiatedPause <;> rfl

/-- A published manifest passes the checks of `restore`. -/
lemma restore_snapshotCounts {archive : Archive} (h : archive.status = .paused) :
    restore tables archive (snapshotCounts tables archive.rows) =
      .ok (snapshotCounts tables archive.rows) := by
  rw [restore, if_neg (not_not.2 rfl), if_neg (not_not.2 h)]

namespace Measured

lemma start (db : MaintenanceDb) : Measured tables (Backup.start db) := ⟨rfl, rfl⟩

/-- A backup that raises in its `try` statement has published nothing. -/
lemma unpublished (h : Measured tables s) (hs : s.phase.trying = true) : s.manifest = none := by
  rw [Measured] at h
  cases hphase : s.phase with
  | status => rw [hphase] at h; exact h.2
  | pause => rw [hphase] at h; exact h.2
  | dump => rw [hphase] at h; exact h.2
  | snapshot => rw [hphase] at h; exact h.2.1
  | dumping => rw [hphase] at h; exact h.2.1
  | verify => rw [hphase] at h; exact h.2.1
  | count rest => rw [hphase] at h; exact h.1
  | publishArchive => rw [hphase] at h; exact h.1
  | publishManifest => rw [hphase] at h; exact h.1
  | _ => rw [hphase] at hs; cases hs

lemma published (h : Measured tables s) : Published tables s := by
  cases hs : s.phase.trying with
  | true =>
    intro counts hcounts
    rw [h.unpublished hs] at hcounts
    cases hcounts
  | false =>
    rw [Measured] at h
    cases hphase : s.phase with
    | resume answer => rw [hphase] at h; exact h
    | returning answer => rw [hphase] at h; exact h
    | ended answer => rw [hphase] at h; exact h
    | _ => rw [hphase] at hs; cases hs

/-- A change of the database, of which a backup that measures need only know that a paused
database keeps its rows. -/
lemma withDb (h : Measured tables s) {db : MaintenanceDb}
    {issued late : Option MaintenanceState}
    (hdb : s.phase.measuring = true → s.db.status = .paused ∧
      (db.status = .paused → db.rows = s.db.rows)) :
    Measured tables { s with db, issued, late } := by
  have hcurrent : s.phase.measuring = true → ∀ archive, s.Current archive →
      Current { s with db, issued, late } archive := by
    intro hmeasuring archive hcurrent hpaused
    obtain ⟨hpaused', hrows⟩ := hdb hmeasuring
    exact (hcurrent hpaused').trans (hrows hpaused).symm
  show MeasuredAt tables _ s.phase
  rw [Measured] at h
  cases hphase : s.phase with
  | snapshot | dumping | verify =>
    rw [hphase] at h hcurrent
    obtain ⟨hcounts, hmanifest, archive, hcopied, hcurrent'⟩ := h
    exact ⟨hcounts, hmanifest, archive, hcopied, hcurrent rfl archive hcurrent'⟩
  | count rest =>
    rw [hphase] at h hcurrent
    obtain ⟨hmanifest, archive, done, hcopied, hcurrent', hdone, hcounts⟩ := h
    refine ⟨hmanifest, archive, done, hcopied, fun hrest => ?_, hdone, hcounts⟩
    cases rest with
    | nil => exact absurd rfl hrest
    | cons table rest => exact hcurrent rfl archive (hcurrent' hrest)
  | _ => rw [hphase] at h; exact h

/-- The end of the `try` statement with an error. -/
lemma raise (h : Measured tables s) (hs : s.phase.trying = true) {phase : BackupPhase}
    {db : MaintenanceDb} {changed : Bool} {archive : Option Archive}
    (hphase : phase.trying = false) :
    Measured tables { s with db, changed, archive, phase } := by
  refine measuredAt_of_published (fun counts hcounts => ?_) hphase
  have hnone : s.manifest = none := h.unpublished hs
  rw [show s.manifest = some counts from hcounts] at hnone
  cases hnone

/-- The next step of the call. -/
lemma advance (h : Measured tables s) (hpaused : StaysPaused s .advance) :
    Measured tables (s.advance tables) := by
  have hat := h
  rw [Measured] at hat
  rw [Backup.advance]
  cases hs : s.phase with
  | status =>
    rw [hs] at hat
    exact hat
  | pause =>
    rw [hs] at hat
    dsimp only
    split
    · exact h
    · exact hat
  | dump =>
    rw [hs] at hat
    have hstatus : s.db.status = .paused := hpaused (.inr ⟨hs, rfl⟩)
    exact ⟨hat.1, hat.2, _, ⟨rfl, hstatus⟩, fun _ => rfl⟩
  | snapshot => rw [hs] at hat; exact hat
  | dumping => rw [hs] at hat; exact hat
  | verify =>
    rw [hs] at hat
    obtain ⟨hcounts, hmanifest, archive, hcopied, hcurrent⟩ := hat
    exact ⟨hmanifest, archive, [], hcopied, fun _ => hcurrent, rfl, hcounts⟩
  | count rest =>
    rw [hs] at hat
    obtain ⟨hmanifest, archive, done, hcopied, hcurrent, hdone, hcounts⟩ := hat
    cases rest with
    | nil =>
      rw [List.append_nil] at hdone
      subst hdone
      exact ⟨hmanifest, archive, hcopied, hcounts⟩
    | cons table rest =>
      have hstatus : s.db.status = .paused := hpaused (.inl (by rw [hs]; rfl))
      have hrows : archive.rows = s.db.rows := hcurrent (by simp) hstatus
      refine ⟨hmanifest, archive, done ++ [table], hcopied, fun _ => hcurrent (by simp),
        by rw [← hdone]; simp, ?_⟩
      show s.counts ++ [(table, s.db.rows table)] = _
      rw [hcounts, ← hrows, List.map_append]
      rfl
  | publishArchive =>
    rw [hs] at hat
    obtain ⟨hmanifest, archive, ⟨htemporary, hstatus⟩, hcounts⟩ := hat
    exact ⟨hmanifest, archive, htemporary, hstatus, hcounts⟩
  | publishManifest =>
    rw [hs] at hat
    obtain ⟨hmanifest, archive, harchive, hstatus, hcounts⟩ := hat
    refine measuredAt_of_published ?_ trying_leave
    rintro counts hmanifest'
    have hsorted : counts = snapshotCounts tables archive.rows := by
      rw [snapshotCounts, ← hcounts]
      exact (Option.some.inj hmanifest').symm
    subst hsorted
    exact ⟨archive, harchive, rfl, restore_snapshotCounts hstatus⟩
  | resume answer => exact h.published
  | returning answer => exact h.published
  | ended answer => exact h

/-- The next step of the call raises. -/
lemma fail (h : Measured tables s) : Measured tables s.fail := by
  rw [Backup.fail]
  split
  · exact h.published
  · exact h
  · exact h
  · next hresume hreturning hended =>
    refine h.raise ?_ trying_leave
    cases hs : s.phase with
    | resume answer => exact absurd hs (hresume answer)
    | returning answer => exact absurd hs (hreturning answer)
    | ended answer => exact absurd hs (hended answer)
    | _ => rfl

/-- The answer of a statement about the flag is lost. -/
lemma loseAnswer (h : Measured tables s) : Measured tables s.loseAnswer := by
  rw [Backup.loseAnswer]
  split
  · next hs =>
    split
    · exact h
    · exact h.raise (by rw [hs]; rfl) rfl
  · exact h.published
  · exact h

/-- Another operator sets the flag: a paused database that stays paused keeps its rows. -/
lemma pauseBy (h : Measured tables s)
    (hpaused : s.phase.measuring = true → s.db.status = .paused) :
    Measured tables s.pauseBy := by
  rw [Backup.pauseBy]
  split
  · exact h
  · split
    · exact h
    · next db changed hpause =>
      refine h.withDb fun hmeasuring => ⟨hpaused hmeasuring, fun _ => ?_⟩
      rw [MaintenanceDb.pause_of_paused (hpaused hmeasuring)] at hpause
      rw [← (Prod.mk.inj (Option.some.inj hpause)).1]

lemma resumeBy (h : Measured tables s)
    (hpaused : s.phase.measuring = true → s.db.status = .paused) :
    Measured tables (s.operated s.db.resume .active) := by
  refine h.withDb fun hmeasuring => ⟨hpaused hmeasuring, fun hstatus => ?_⟩
  rw [MaintenanceDb.resume_status] at hstatus
  cases hstatus

/-- One event of a backup during which the database stays paused. -/
lemma step (h : Measured tables s) (e : BackupEvent) (hpaused : StaysPaused s e) :
    Measured tables (Backup.step tables s e) := by
  have hmeasuring : s.phase.measuring = true → s.db.status = .paused := fun h => hpaused (.inl h)
  rw [Backup.step.eq_def]
  split
  · exact h
  · cases e with
    | advance => exact h.advance hpaused
    | fail => exact h.fail
    | loseAnswer => exact h.loseAnswer
    | pause => exact h.pauseBy hmeasuring
    | resume => exact h.resumeBy hmeasuring
    | beginWrite =>
      exact h.withDb fun hs =>
        ⟨hmeasuring hs, fun _ => MaintenanceDb.beginWrite_rows_of_paused (hmeasuring hs)⟩
    | commitWrite changes =>
      exact h.withDb fun hs =>
        ⟨hmeasuring hs, fun _ => MaintenanceDb.commitWrite_rows_of_paused (hmeasuring hs)⟩
    | abortWrite => exact h.withDb fun hs => ⟨hmeasuring hs, fun _ => rfl⟩

end Measured

/-! ## What a backup leaves behind -/

variable (tables)

/-- The archive and the manifest describe one state of the database. -/
lemma published_of_staysPaused (db : MaintenanceDb) (events : List BackupEvent)
    (h : Along (step tables) StaysPaused (start db) events) :
    Published tables (run (step tables) (start db) events) :=
  (invariant_along (fun _ e h hpaused => h.step e hpaused) (Measured.start db) h).published

/-- The flag at any moment of a backup. -/
lemma flagged (db : MaintenanceDb) (events : List BackupEvent) :
    Flagged db.status (run (step tables) (start db) events) :=
  invariant_run (fun _ e h => h.step e) (Flagged.start db) events

/-- **Backups and other operators.**  If the database stays paused from the start of the dump
to the last count, a published manifest has the row counts of the snapshot in the archive, and
a restore passes its checks.  A backup that has not changed the flag leaves it as the last
`pause` or `resume` of another operator asked, or else as before; once its own resume is
committed the database is active, unless another operator has paused it since; and a backup
that initiated the pause returns a result only after that resume. -/
theorem backup_among_operators (db : MaintenanceDb) (events : List BackupEvent) :
    let s := run (step tables) (start db) events
    (Along (step tables) StaysPaused (start db) events → Published tables s) ∧
      (s.changed = false → s.db.status = s.issued.getD db.status) ∧
      (s.resumed = true → s.db.status = s.late.getD .active) ∧
      ∀ counts, s.phase = .ended (some counts) → s.initiatedPause = true → s.resumed = true := by
  have hflag := flagged tables db events
  refine ⟨published_of_staysPaused tables db events, hflag.kept, ?_, ?_⟩
  · intro hresumed
    exact (hflag.resumed hresumed).2.2
  · intro counts hended hinitiated
    exact hflag.answered counts (.inr hended) hinitiated

/-- Another operator pauses the database while the backup's own pause is in force, and the
backup resumes it.  And if another operator resumes the database during the dump and a writer
adds a project, the manifest counts rows that the archive does not have. -/
theorem not_of_other_operator :
    let projects : MaintenanceDb :=
      { status := .active, rows := fun _ => 1, guarded := nofun }
    let tables := [historyTable, "projects"]
    let stacked := run (step tables) (start projects)
      (List.replicate 5 .advance ++ [.pause] ++ List.replicate 9 .advance)
    let resumed := run (step tables) (start projects)
      (List.replicate 4 .advance ++ [.resume, .beginWrite, .commitWrite [("projects", 2)]] ++
        List.replicate 10 .advance)
    (stacked.phase.isEnded = true ∧ stacked.db.status ≠ stacked.issued.getD projects.status) ∧
    ∃ archive counts, resumed.archive = some archive ∧ resumed.manifest = some counts ∧
      restore tables archive counts = .error .countsDiffer := by
  refine ⟨⟨by decide, by decide⟩, _, _, rfl, rfl, by decide⟩

end Backup

end AgenticMesh.DatabaseOperations
