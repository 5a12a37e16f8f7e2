import AgenticMesh.Base.Run
import AgenticMesh.Base.Table
import AgenticMesh.Base.Text
import AgenticMesh.Schema

/-!
# The pool of warm engines

`WarmEnginePool` keeps an engine of a worker provider for each role instance.
Threads run operations on the engines, evict them and shut the pool down.  The
pool has a lock for its own fields, one for each key whose engine is opened,
and one for each entry that an operation holds; a thread does not hold the
first one when it waits for another.  A call is a sequence of steps, each of
which takes one lock, gives one back or calls the provider, the engine or the
clock, and the steps of all threads interleave in any order.

Two things break what the calls promise: `shutdown` takes the entries out of
the pool before it waits for their operations, where `abort_active` no longer
finds them, and an engine that was opened is lost when the clock fails before
its entry is made.
-/

namespace AgenticMesh

/-- `_valid_id`. -/
def isWarmId (s : String) : Bool := decide (strip s ≠ "") && s == strip s

/-- The role instance of an engine. -/
structure RoleInstanceKey where
  projectId : String
  instanceId : String
  valid : isWarmId projectId = true ∧ isWarmId instanceId = true

instance : DecidableEq RoleInstanceKey := fun k l =>
  decidable_of_iff (k.projectId = l.projectId ∧ k.instanceId = l.instanceId) (by
    cases k
    cases l
    simp)

/-- An engine that a provider opened, with the fields of its `_Entry`. -/
structure WarmEngine where
  lastUsedAt : Time := 0
  completedUses : ℕ := 0
  active : Bool := false
  /-- The thread that holds `operation_lock`. -/
  operationLock : Option ℕ := none
  /-- How often `_close_twice` was called on the engine. -/
  closes : ℕ := 0
deriving DecidableEq

/-- Where a thread is in a call of the pool; an engine is named by its number. -/
inductive PoolCall where
  | idle
  /-- `_get_or_open` looks for an entry. -/
  | getting (key : RoleInstanceKey)
  /-- It waits for the opening lock of the key. -/
  | awaiting (key : RoleInstanceKey)
  /-- It has the opening lock and looks again. -/
  | relooking (key : RoleInstanceKey)
  /-- `_open_entry` calls the provider. -/
  | opening (key : RoleInstanceKey)
  /-- `_open_entry` checks what the provider opened. -/
  | checking (key : RoleInstanceKey) (engine : ℕ)
  | registering (key : RoleInstanceKey) (engine : ℕ)
  /-- Another entry was registered meanwhile. -/
  | surplus (key : RoleInstanceKey) (engine existing : ℕ)
  /-- `_lock_current_entry` waits for the operation lock. -/
  | locking (key : RoleInstanceKey) (engine : ℕ)
  | confirming (key : RoleInstanceKey) (engine : ℕ)
  /-- The entry is not current any more. -/
  | retrying (key : RoleInstanceKey) (engine : ℕ)
  /-- `run` has the current entry. -/
  | starting (key : RoleInstanceKey) (engine : ℕ)
  /-- The operation of `run`. -/
  | running (key : RoleInstanceKey) (engine : ℕ)
  | counting (key : RoleInstanceKey) (engine : ℕ)
  /-- The operation raised a fatal error. -/
  | evicting (key : RoleInstanceKey) (engine : ℕ)
  | closingFailed (key : RoleInstanceKey) (engine : ℕ)
  | finishing (key : RoleInstanceKey) (engine : ℕ)
  /-- The operation lock is given back and the call ends. -/
  | releasing (engine : ℕ)
  /-- `discard` of the expected engine, or `hibernate`. -/
  | removing (key : RoleInstanceKey) (expected : Option ℕ)
  | removeLocking (key : RoleInstanceKey) (expected : Option ℕ) (engine : ℕ)
  | removeConfirming (key : RoleInstanceKey) (expected : Option ℕ) (engine : ℕ)
  | removeRetrying (key : RoleInstanceKey) (expected : Option ℕ) (engine : ℕ)
  | removeClosing (engine : ℕ)
  | aborting (key : RoleInstanceKey)
  | abortClosing (engine : ℕ)
  | shuttingDown
  /-- `shutdown` goes through the entries that it took out of the pool. -/
  | draining (engines : List ℕ)
  | drainClosing (engine : ℕ) (engines : List ℕ)
  | drainReleasing (engine : ℕ) (engines : List ℕ)
deriving DecidableEq

/-- The pool with the engines that were opened for it, numbered in their order, and its threads. -/
structure WarmEnginePool where
  /-- `_entries`. -/
  entries : Table (RoleInstanceKey × ℕ) Prod.fst
  /-- The thread that holds the lock of `_opening`. -/
  openingLock : RoleInstanceKey → Option ℕ
  /-- `_closed`. -/
  closed : Bool
  engine : ℕ → WarmEngine
  opened : ℕ
  call : ℕ → PoolCall

/-- A call of the pool. -/
inductive PoolRequest where
  | run (key : RoleInstanceKey)
  | discard (key : RoleInstanceKey) (engine : ℕ)
  | hibernate (key : RoleInstanceKey)
  | abortActive (key : RoleInstanceKey)
  | shutdown

/-- What `_open_entry` finds after the provider opened an engine. -/
inductive EngineCheck where
  /-- The engine or the identifier of the provider is invalid. -/
  | rejected
  /-- The identifier cannot be read, or the clock fails. -/
  | raised
  | passed (now : Time)
deriving DecidableEq

/-- How an operation ends. -/
inductive OperationResult where
  | returned
  /-- `WorkerProviderError` of a kind in `_FATAL_ENGINE_ERRORS`. -/
  | fatal
  | failed

/-- What the surroundings of the pool do in a step. -/
structure PoolOutcome where
  opens : Bool
  check : EngineCheck
  result : OperationResult
  /-- `_now`, which fails on an invalid reading. -/
  clock : Option Time

/-- A call starts in a thread, or a thread takes a step. -/
inductive PoolEvent where
  | request (thread : ℕ) (r : PoolRequest)
  | step (thread : ℕ) (o : PoolOutcome)

def PoolEvent.thread : PoolEvent → ℕ
  | request t _ => t
  | step t _ => t

/-- The check of an engine in a step. -/
def PoolEvent.check : PoolEvent → EngineCheck
  | request _ _ => .rejected
  | step _ o => o.check

/-- Where a call begins. -/
@[simp] def PoolRequest.start : PoolRequest → PoolCall
  | run key => .getting key
  | discard key engine => .removing key (some engine)
  | hibernate key => .removing key none
  | abortActive key => .aborting key
  | shutdown => .shuttingDown

/-- What `run` does after its operation. -/
@[simp] def OperationResult.next (key : RoleInstanceKey) (e : ℕ) : OperationResult → PoolCall
  | returned => .counting key e
  | fatal => .evicting key e
  | failed => .finishing key e

namespace WarmEnginePool

def init : WarmEnginePool where
  entries := ∅
  openingLock _ := none
  closed := false
  engine _ := {}
  opened := 0
  call _ := .idle

/-- `_entries.get(key)`. -/
def current (s : WarmEnginePool) (key : RoleInstanceKey) : Option ℕ :=
  (s.entries.lookup key).map Prod.snd

def goTo (s : WarmEnginePool) (t : ℕ) (c : PoolCall) : WarmEnginePool :=
  { s with call := Function.update s.call t c }

def setEngine (s : WarmEnginePool) (e : ℕ) (f : WarmEngine → WarmEngine) : WarmEnginePool :=
  { s with engine := Function.update s.engine e (f (s.engine e)) }

def setOpening (s : WarmEnginePool) (key : RoleInstanceKey) (holder : Option ℕ) :
    WarmEnginePool :=
  { s with openingLock := Function.update s.openingLock key holder }

/-- `operation_lock.acquire()`: the thread waits while another one has the lock. -/
def acquire (s : WarmEnginePool) (t e : ℕ) (c : PoolCall) : WarmEnginePool :=
  if (s.engine e).operationLock = none then
    (s.setEngine e fun w => { w with operationLock := some t }).goTo t c
  else s

/-- `operation_lock.release()`. -/
def release (s : WarmEnginePool) (t e : ℕ) (c : PoolCall) : WarmEnginePool :=
  (s.setEngine e fun w => { w with operationLock := none }).goTo t c

/-- `_close_twice`. -/
def close (s : WarmEnginePool) (t e : ℕ) (c : PoolCall) : WarmEnginePool :=
  (s.setEngine e fun w => { w with closes := w.closes + 1 }).goTo t c

/-- `del _entries[key]`. -/
def remove (s : WarmEnginePool) (key : RoleInstanceKey) : WarmEnginePool :=
  { s with entries := s.entries.delete fun r => r.1 = key }

/-- `run` after its operation: the entry is still current, or not. -/
def finish (s : WarmEnginePool) (key : RoleInstanceKey) (e : ℕ) (clock : Option Time) :
    WarmEnginePool :=
  if s.current key = some e then
    match clock with
    | some now => s.setEngine e fun w => { w with lastUsedAt := now, active := false }
    | none => s
  else s.setEngine e fun w => { w with active := false }

/-- The next step of a thread; it stays where it is while it waits for a lock. -/
def advance (s : WarmEnginePool) (t : ℕ) (o : PoolOutcome) : WarmEnginePool :=
  match s.call t with
  | .idle => s
  | .getting key =>
    if s.closed then s.goTo t .idle
    else match s.current key with
      | some e => s.goTo t (.locking key e)
      | none => s.goTo t (.awaiting key)
  | .awaiting key =>
    if s.openingLock key = none then (s.setOpening key (some t)).goTo t (.relooking key) else s
  | .relooking key =>
    if s.closed then (s.setOpening key none).goTo t .idle
    else match s.current key with
      | some e => (s.setOpening key none).goTo t (.locking key e)
      | none => s.goTo t (.opening key)
  | .opening key =>
    if o.opens then
      { s with opened := s.opened + 1 }.goTo t (.checking key s.opened)
    else (s.setOpening key none).goTo t .idle
  | .checking key e =>
    match o.check with
    | .rejected => (s.setOpening key none).close t e .idle
    | .raised => (s.setOpening key none).goTo t .idle
    | .passed now =>
      (s.setEngine e fun w => { w with lastUsedAt := now }).goTo t (.registering key e)
  | .registering key e =>
    if s.closed then (s.setOpening key none).close t e .idle
    else match s.entries.insert (key, e) with
      | some entries => ({ s with entries }.setOpening key none).goTo t (.locking key e)
      | none => s.goTo t (.surplus key e ((s.current key).getD e))
  | .surplus key e existing => (s.setOpening key none).close t e (.locking key existing)
  | .locking key e => s.acquire t e (.confirming key e)
  | .confirming key e =>
    if s.current key = some e then s.goTo t (.starting key e) else s.goTo t (.retrying key e)
  | .retrying key e => s.release t e (.getting key)
  | .starting key e =>
    (s.setEngine e fun w => { w with active := true }).goTo t (.running key e)
  | .running key e => s.goTo t (o.result.next key e)
  | .counting key e =>
    if s.current key = some e then
      (s.setEngine e fun w => { w with completedUses := w.completedUses + 1 }).goTo t
        (.finishing key e)
    else s.goTo t (.finishing key e)
  | .evicting key e =>
    if s.current key = some e then (s.remove key).goTo t (.closingFailed key e)
    else s.goTo t (.closingFailed key e)
  | .closingFailed key e => s.close t e (.finishing key e)
  | .finishing key e => (s.finish key e o.clock).goTo t (.releasing e)
  | .releasing e => s.release t e .idle
  | .removing key expected =>
    match (s.current key).filter fun e => expected.all (· = e) with
    | some e => s.goTo t (.removeLocking key expected e)
    | none => s.goTo t .idle
  | .removeLocking key expected e => s.acquire t e (.removeConfirming key expected e)
  | .removeConfirming key expected e =>
    if s.current key = some e then (s.remove key).goTo t (.removeClosing e)
    else s.goTo t (.removeRetrying key expected e)
  | .removeRetrying key expected e => s.release t e (.removing key expected)
  | .removeClosing e => s.close t e (.releasing e)
  | .aborting key =>
    match (s.current key).filter fun e => (s.engine e).active with
    | some e => (s.remove key).goTo t (.abortClosing e)
    | none => s.goTo t .idle
  | .abortClosing e => s.close t e .idle
  | .shuttingDown =>
    if s.closed then s.goTo t .idle
    else { s with closed := true, entries := ∅ }.goTo t (.draining (s.entries.rows.map Prod.snd))
  | .draining [] => s.goTo t .idle
  | .draining (e :: es) => s.acquire t e (.drainClosing e es)
  | .drainClosing e es => s.close t e (.drainReleasing e es)
  | .drainReleasing e es => s.release t e (.draining es)

/-- A thread that has no call begins one, or a thread takes its next step. -/
def step (s : WarmEnginePool) : PoolEvent → WarmEnginePool
  | .request t r => if s.call t = .idle then s.goTo t r.start else s
  | .step t o => s.advance t o

end WarmEnginePool

/-! ## What a call has -/

namespace PoolCall

/-- The engine whose operation lock a thread holds. -/
@[simp] def holds : PoolCall → Option ℕ
  | confirming _ e | retrying _ e | starting _ e | running _ e | counting _ e | evicting _ e
  | closingFailed _ e | finishing _ e | releasing e | removeConfirming _ _ e
  | removeRetrying _ _ e | removeClosing e | drainClosing e _ | drainReleasing e _ => some e
  | _ => none

/-- The engines that a call works on. -/
@[simp] def names : PoolCall → List ℕ
  | surplus _ e existing => [e, existing]
  | checking _ e | registering _ e | locking _ e | confirming _ e | retrying _ e | starting _ e
  | running _ e | counting _ e | evicting _ e | closingFailed _ e | finishing _ e | releasing e
  | removeLocking _ _ e | removeConfirming _ _ e | removeRetrying _ _ e | removeClosing e
  | abortClosing e => [e]
  | draining es => es
  | drainClosing e es | drainReleasing e es => e :: es
  | _ => []

/-- An engine that only this call has seen. -/
@[simp] def fresh : PoolCall → Option ℕ
  | checking _ e | registering _ e | surplus _ e _ => some e
  | _ => none

/-- The engines that a call has to register or to close. -/
@[simp] def owes : PoolCall → List ℕ
  | checking _ e | registering _ e | surplus _ e _ | closingFailed _ e | removeClosing e
  | abortClosing e => [e]
  | draining es | drainReleasing _ es => es
  | drainClosing e es => e :: es
  | _ => []

/-- The entry that `run` has confirmed and whose operation has not ended. -/
@[simp] def uses : PoolCall → Option (RoleInstanceKey × ℕ)
  | starting key e | running key e => some (key, e)
  | _ => none

/-- The operation that a thread runs. -/
@[simp] def runs : PoolCall → Option (RoleInstanceKey × ℕ)
  | running key e => some (key, e)
  | _ => none

/-- A call of `shutdown` that took the entries out of the pool. -/
@[simp] def drains : PoolCall → Bool
  | draining _ | drainClosing _ _ | drainReleasing _ _ => true
  | _ => false

lemma mem_names_of_holds {c : PoolCall} {e : ℕ} (h : c.holds = some e) : e ∈ c.names := by
  cases c <;> simp_all [holds, names]

lemma mem_names_of_fresh {c : PoolCall} {e : ℕ} (h : c.fresh = some e) : e ∈ c.names := by
  cases c <;> simp_all [fresh, names]

lemma holds_of_uses {c : PoolCall} {key : RoleInstanceKey} {e : ℕ} (h : c.uses = some (key, e)) :
    c.holds = some e := by
  cases c <;> simp_all [uses, holds]

lemma uses_of_runs {c : PoolCall} {key : RoleInstanceKey} {e : ℕ} (h : c.runs = some (key, e)) :
    c.uses = some (key, e) := by
  cases c <;> simp_all [uses, runs]

end PoolCall

namespace WarmEnginePool

variable {s s' : WarmEnginePool} {t e : ℕ} {key : RoleInstanceKey} {c : PoolCall}
  {check : EngineCheck}

/-- What a thread has after a step it had before or takes from the entries. -/
structure Follows (s : WarmEnginePool) (c c' : PoolCall) : Prop where
  names : ∀ e ∈ c'.names, e ∈ c.names ∨ ∃ key, (key, e) ∈ s.entries
  fresh : ∀ e, c'.fresh = some e → c.fresh = some e
  uses : ∀ key e, c'.uses = some (key, e) → c.uses = some (key, e) ∨ (key, e) ∈ s.entries
  runs : ∀ r, c'.runs = some r → c.runs = some r
  drains : c'.drains = true → c.drains = true

/-- What a step of a thread can do. -/
inductive PoolStep (s : WarmEnginePool) (t : ℕ) (check : EngineCheck) : WarmEnginePool → Prop
  | stays : PoolStep s t check s
  | moves {c : PoolCall} {openingLock : RoleInstanceKey → Option ℕ}
      (follows : s.Follows (s.call t) c) (holds : c.holds = (s.call t).holds)
      (owes : ∀ e ∈ (s.call t).owes, e ∈ c.owes) :
      PoolStep s t check ({ s with openingLock }.goTo t c)
  | acquires {e : ℕ} {c : PoolCall} (free : (s.engine e).operationLock = none)
      (follows : s.Follows (s.call t) c) (before : (s.call t).holds = none)
      (holds : c.holds = some e) (owes : ∀ e ∈ (s.call t).owes, e ∈ c.owes) :
      PoolStep s t check ((s.setEngine e fun w => { w with operationLock := some t }).goTo t c)
  | releases {e : ℕ} {c : PoolCall} (follows : s.Follows (s.call t) c)
      (before : (s.call t).holds = some e) (holds : c.holds = none)
      (owes : ∀ e ∈ (s.call t).owes, e ∈ c.owes) :
      PoolStep s t check ((s.setEngine e fun w => { w with operationLock := none }).goTo t c)
  | opens {key : RoleInstanceKey} (call : s.call t = .opening key) :
      PoolStep s t check ({ s with opened := s.opened + 1 }.goTo t (.checking key s.opened))
  /-- The clock failed after the provider opened an engine. -/
  | loses {key : RoleInstanceKey} {e : ℕ} (call : s.call t = .checking key e)
      (raised : check = .raised) :
      PoolStep s t check ((s.setOpening key none).goTo t .idle)
  | closes {e : ℕ} {c : PoolCall} {openingLock : RoleInstanceKey → Option ℕ}
      (follows : s.Follows (s.call t) c) (holds : c.holds = (s.call t).holds)
      (owes : ∀ x ∈ (s.call t).owes, x = e ∨ x ∈ c.owes)
      (owner : (s.call t).fresh = some e ∨ (s.call t).holds = some e ∧ (s.call t).uses = none ∨
        s.call t = .abortClosing e) :
      PoolStep s t check
        (({ s with openingLock }.setEngine e fun w => { w with closes := w.closes + 1 }).goTo t c)
  | registers {key : RoleInstanceKey} {e : ℕ} {entries : Table (RoleInstanceKey × ℕ) Prod.fst}
      (call : s.call t = .registering key e) (isOpen : s.closed = false)
      (inserted : s.entries.insert (key, e) = some entries) :
      PoolStep s t check (({ s with entries }.setOpening key none).goTo t (.locking key e))
  | removes {key : RoleInstanceKey} {e : ℕ} {c : PoolCall} (entry : (key, e) ∈ s.entries)
      (follows : s.Follows (s.call t) c) (holds : c.holds = (s.call t).holds)
      (owes : ∀ e ∈ (s.call t).owes, e ∈ c.owes) (owed : e ∈ c.owes) (idle : c.uses = none)
      (owner : (s.call t).holds = some e ∨ c = .abortClosing e) :
      PoolStep s t check ((s.remove key).goTo t c)
  | starts {key : RoleInstanceKey} {e : ℕ} (call : s.call t = .starting key e) :
      PoolStep s t check
      ((s.setEngine e fun w => { w with active := true }).goTo t (.running key e))
  | changes {e : ℕ} {f : WarmEngine → WarmEngine} {c : PoolCall}
      (keeps : ∀ w, (f w).operationLock = w.operationLock ∧ (f w).closes = w.closes)
      (follows : s.Follows (s.call t) c) (holds : c.holds = (s.call t).holds)
      (owes : ∀ e ∈ (s.call t).owes, e ∈ c.owes)
      (owner : (s.call t).fresh = some e ∨ (s.call t).holds = some e ∧ c.uses = none) :
      PoolStep s t check ((s.setEngine e f).goTo t c)
  | shuts (call : s.call t = .shuttingDown) (isOpen : s.closed = false) :
      PoolStep s t check ({ s with closed := true, entries := ∅ }.goTo t
        (.draining (s.entries.rows.map Prod.snd)))

lemma current_eq_some : s.current key = some e ↔ (key, e) ∈ s.entries := by
  rw [current, Option.map_eq_some_iff]
  constructor
  · rintro ⟨⟨k, e'⟩, hlookup, rfl⟩
    obtain ⟨hmem, rfl⟩ := Table.lookup_eq_some.1 hlookup
    exact hmem
  · intro h
    exact ⟨(key, e), Table.lookup_eq_some.2 ⟨h, rfl⟩, rfl⟩

/-- A call that keeps no more than it had. -/
lemma Follows.of_le {c c' : PoolCall} (names : ∀ e ∈ c'.names, e ∈ c.names := by simp)
    (fresh : c'.fresh = none ∨ c'.fresh = c.fresh := by simp) (uses : c'.uses = none := by simp)
    (drains : c'.drains = true → c.drains = true := by simp) : s.Follows c c' where
  names e he := .inl (names e he)
  fresh e he := by
    rcases fresh with h | h
    · rw [h] at he
      cases he
    · exact h.symm.trans he
  uses key e he := by
    rw [uses] at he
    cases he
  runs r hr := by
    rw [PoolCall.uses_of_runs hr] at uses
    cases uses
  drains := drains

/-- A call that finds an entry. -/
lemma Follows.of_entry {c c' : PoolCall} (h : (key, e) ∈ s.entries)
    (names : ∀ x ∈ c'.names, x ∈ c.names ∨ x = e := by simp)
    (fresh : c'.fresh = none ∨ c'.fresh = c.fresh := by simp)
    (uses : c'.uses = none ∨ c'.uses = some (key, e) := by simp)
    (runs : c'.runs = none := by simp) (drains : c'.drains = false := by simp) :
    s.Follows c c' where
  names x hx := (names x hx).imp id fun hxe => ⟨key, by rw [hxe]; exact h⟩
  fresh x hx := by
    rcases fresh with h | h
    · rw [h] at hx
      cases hx
    · exact h.symm.trans hx
  uses k x hx := by
    rcases uses with hn | hs
    · rw [hn] at hx
      cases hx
    · rw [hs] at hx
      cases hx
      exact .inr h
  runs r hr := by
    rw [runs] at hr
    cases hr
  drains h := by
    rw [drains] at h
    cases h

section Advance

variable {o : PoolOutcome} {c' : PoolCall}

lemma PoolStep.goTo (hcall : s.call t = c) (follows : s.Follows c c')
    (holds : c'.holds = c.holds := by rfl) (owes : ∀ e ∈ c.owes, e ∈ c'.owes := by simp) :
    s.PoolStep t check (s.goTo t c') :=
  .moves (hcall ▸ follows) (hcall ▸ holds) (hcall ▸ owes)

lemma PoolStep.setOpening (hcall : s.call t = c) (holder : Option ℕ) (follows : s.Follows c c')
    (holds : c'.holds = c.holds := by rfl) (owes : ∀ e ∈ c.owes, e ∈ c'.owes := by simp) :
    s.PoolStep t check ((s.setOpening key holder).goTo t c') :=
  .moves (hcall ▸ follows) (hcall ▸ holds) (hcall ▸ owes)

lemma PoolStep.acquire (hcall : s.call t = c) (follows : s.Follows c c')
    (before : c.holds = none := by rfl) (holds : c'.holds = some e := by rfl)
    (owes : ∀ e ∈ c.owes, e ∈ c'.owes := by simp) : s.PoolStep t check (s.acquire t e c') := by
  unfold WarmEnginePool.acquire
  split
  · next hfree => exact .acquires hfree (hcall ▸ follows) (hcall ▸ before) holds (hcall ▸ owes)
  · exact .stays

lemma PoolStep.release (hcall : s.call t = c) (follows : s.Follows c c')
    (before : c.holds = some e := by rfl) (holds : c'.holds = none := by rfl)
    (owes : ∀ e ∈ c.owes, e ∈ c'.owes := by simp) : s.PoolStep t check (s.release t e c') :=
  .releases (hcall ▸ follows) (hcall ▸ before) holds (hcall ▸ owes)

lemma PoolStep.close (hcall : s.call t = c) (follows : s.Follows c c')
    (owner : c.fresh = some e ∨ c.holds = some e ∧ c.uses = none ∨ c = .abortClosing e := by simp)
    (holds : c'.holds = c.holds := by rfl)
    (owes : ∀ x ∈ c.owes, x = e ∨ x ∈ c'.owes := by simp) : s.PoolStep t check (s.close t e c') :=
  .closes (hcall ▸ follows) (hcall ▸ holds) (hcall ▸ owes) (hcall ▸ owner)

/-- An engine that nobody else has seen is closed, and the opening lock is given back. -/
lemma PoolStep.closeFresh (hcall : s.call t = c) (follows : s.Follows c c')
    (owner : c.fresh = some e := by rfl) (holds : c'.holds = c.holds := by rfl)
    (owes : ∀ x ∈ c.owes, x = e ∨ x ∈ c'.owes := by simp) :
    s.PoolStep t check ((s.setOpening key none).close t e c') :=
  .closes (hcall ▸ follows) (hcall ▸ holds) (hcall ▸ owes) (hcall ▸ .inl owner)

lemma PoolStep.remove (hcall : s.call t = c) (entry : (key, e) ∈ s.entries)
    (follows : s.Follows c c') (owner : c.holds = some e ∨ c' = .abortClosing e := by simp)
    (owed : e ∈ c'.owes := by simp) (idle : c'.uses = none := by rfl)
    (holds : c'.holds = c.holds := by rfl) (owes : ∀ e ∈ c.owes, e ∈ c'.owes := by simp) :
    s.PoolStep t check ((s.remove key).goTo t c') :=
  .removes entry (hcall ▸ follows) (hcall ▸ holds) (hcall ▸ owes) owed idle (hcall ▸ owner)

lemma PoolStep.change {f : WarmEngine → WarmEngine} (hcall : s.call t = c)
    (follows : s.Follows c c')
    (keeps : ∀ w, (f w).operationLock = w.operationLock ∧ (f w).closes = w.closes)
    (owner : c.fresh = some e ∨ c.holds = some e ∧ c'.uses = none := by simp)
    (holds : c'.holds = c.holds := by rfl) (owes : ∀ e ∈ c.owes, e ∈ c'.owes := by simp) :
    s.PoolStep t check ((s.setEngine e f).goTo t c') :=
  .changes keeps (hcall ▸ follows) (hcall ▸ holds) (hcall ▸ owes) (hcall ▸ owner)

lemma PoolStep.finish (hcall : s.call t = .finishing key e) (clock : Option Time) :
    s.PoolStep t check ((s.finish key e clock).goTo t (.releasing e)) := by
  unfold WarmEnginePool.finish
  split
  · cases clock with
    | some now => exact .change hcall .of_le fun w => ⟨rfl, rfl⟩
    | none => exact .goTo hcall .of_le
  · exact .change hcall .of_le fun w => ⟨rfl, rfl⟩

/-- **What a step of a thread can do.** -/
theorem advance_step (s : WarmEnginePool) (t : ℕ) (o : PoolOutcome) :
    s.PoolStep t o.check (s.advance t o) := by
  rw [advance.eq_def]
  cases hcall : s.call t with
  | idle => exact .stays
  | getting key =>
    dsimp only
    split
    · exact .goTo hcall .of_le
    · split
      · next e hcurrent => exact .goTo hcall (.of_entry (current_eq_some.1 hcurrent))
      · exact .goTo hcall .of_le
  | awaiting key =>
    dsimp only
    split
    · exact .setOpening hcall _ .of_le
    · exact .stays
  | relooking key =>
    dsimp only
    split
    · exact .setOpening hcall _ .of_le
    · split
      · next e hcurrent => exact .setOpening hcall _ (.of_entry (current_eq_some.1 hcurrent))
      · exact .goTo hcall .of_le
  | opening key =>
    dsimp only
    split
    · exact .opens hcall
    · exact .setOpening hcall _ .of_le
  | checking key e =>
    dsimp only
    split
    · exact .closeFresh hcall .of_le
    · next hraised => exact .loses hcall hraised
    · exact .change hcall .of_le fun w => ⟨rfl, rfl⟩
  | registering key e =>
    dsimp only
    split
    · exact .closeFresh hcall .of_le
    · next hopen =>
      split
      · next entries hinserted => exact .registers hcall (by simpa using hopen) hinserted
      · next hinserted =>
        cases hcurrent : s.current key with
        | some x => exact .goTo hcall (.of_entry (current_eq_some.1 hcurrent))
        | none => exact .goTo hcall .of_le
  | surplus key e existing => exact .closeFresh hcall .of_le
  | locking key e => exact .acquire hcall .of_le
  | confirming key e =>
    dsimp only
    split
    · next hcurrent => exact .goTo hcall (.of_entry (current_eq_some.1 hcurrent))
    · exact .goTo hcall .of_le
  | retrying key e => exact .release hcall .of_le
  | starting key e => exact .starts hcall
  | running key e =>
    cases hresult : o.result <;> exact .goTo hcall .of_le
  | counting key e =>
    dsimp only
    split
    · exact .change hcall .of_le fun w => ⟨rfl, rfl⟩
    · exact .goTo hcall .of_le
  | evicting key e =>
    dsimp only
    split
    · next hcurrent => exact .remove hcall (current_eq_some.1 hcurrent) .of_le
    · exact .goTo hcall .of_le
  | closingFailed key e => exact .close hcall .of_le
  | finishing key e => exact .finish hcall o.clock
  | releasing e => exact .release hcall .of_le
  | removing key expected =>
    dsimp only
    split
    · next e hcurrent =>
      exact .goTo hcall (.of_entry (current_eq_some.1 (Option.filter_eq_some_iff.1 hcurrent).1))
    · exact .goTo hcall .of_le
  | removeLocking key expected e => exact .acquire hcall .of_le
  | removeConfirming key expected e =>
    dsimp only
    split
    · next hcurrent => exact .remove hcall (current_eq_some.1 hcurrent) .of_le
    · exact .goTo hcall .of_le
  | removeRetrying key expected e => exact .release hcall .of_le
  | removeClosing e => exact .close hcall .of_le
  | aborting key =>
    dsimp only
    split
    · next e hcurrent =>
      have hentry := current_eq_some.1 (Option.filter_eq_some_iff.1 hcurrent).1
      exact .remove hcall hentry (.of_entry hentry)
    · exact .goTo hcall .of_le
  | abortClosing e => exact .close hcall .of_le
  | shuttingDown =>
    dsimp only
    split
    · exact .goTo hcall .of_le
    · next hopen => exact .shuts hcall (by simpa using hopen)
  | draining es =>
    cases es with
    | nil => exact .goTo hcall .of_le
    | cons e es => exact .acquire hcall .of_le
  | drainClosing e es => exact .close hcall .of_le
  | drainReleasing e es => exact .release hcall (.of_le fun x hx => List.mem_cons_of_mem e hx)

end Advance

/-! ## The invariant -/

section State

variable {f : WarmEngine → WarmEngine} {holder : Option ℕ} {t' x : ℕ}

@[simp] lemma goTo_call : (s.goTo t c).call t = c := Function.update_self ..

lemma goTo_call_ne (h : t' ≠ t) : (s.goTo t c).call t' = s.call t' := Function.update_of_ne h ..

@[simp] lemma goTo_entries : (s.goTo t c).entries = s.entries := rfl

@[simp] lemma goTo_engine : (s.goTo t c).engine = s.engine := rfl

@[simp] lemma goTo_opened : (s.goTo t c).opened = s.opened := rfl

@[simp] lemma goTo_closed : (s.goTo t c).closed = s.closed := rfl

@[simp] lemma setEngine_engine : (s.setEngine e f).engine e = f (s.engine e) :=
  Function.update_self ..

lemma setEngine_engine_ne (h : x ≠ e) : (s.setEngine e f).engine x = s.engine x :=
  Function.update_of_ne h ..

@[simp] lemma setEngine_entries : (s.setEngine e f).entries = s.entries := rfl

@[simp] lemma setEngine_call : (s.setEngine e f).call = s.call := rfl

@[simp] lemma setEngine_opened : (s.setEngine e f).opened = s.opened := rfl

@[simp] lemma setEngine_closed : (s.setEngine e f).closed = s.closed := rfl

@[simp] lemma setOpening_entries : (s.setOpening key holder).entries = s.entries := rfl

@[simp] lemma setOpening_call : (s.setOpening key holder).call = s.call := rfl

@[simp] lemma setOpening_engine : (s.setOpening key holder).engine = s.engine := rfl

@[simp] lemma setOpening_opened : (s.setOpening key holder).opened = s.opened := rfl

@[simp] lemma setOpening_closed : (s.setOpening key holder).closed = s.closed := rfl

@[simp] lemma mem_remove {k : RoleInstanceKey} :
    (k, x) ∈ (s.remove key).entries ↔ (k, x) ∈ s.entries ∧ k ≠ key := Table.mem_delete

end State

/-- The operation lock of an engine and the calls agree on who holds it. -/
def Locks (s : WarmEnginePool) : Prop :=
  ∀ e t, (s.engine e).operationLock = some t ↔ (s.call t).holds = some e

/-- A step changes the call of its own thread. -/
lemma PoolStep.call_ne (h : s.PoolStep t check s') {t' : ℕ} (hne : t' ≠ t) :
    s'.call t' = s.call t' := by
  cases h with
  | stays => rfl
  | _ => exact goTo_call_ne hne

/-- The locks agree after a step if they do for the engine and the thread of the step. -/
lemma PoolStep.locks (hlocks : s.Locks) (h : s.PoolStep t check s') : s'.Locks := by
  have hsame : ∀ {c : PoolCall} {engine : ℕ → WarmEngine},
      (∀ e, (engine e).operationLock = (s.engine e).operationLock) →
      c.holds = (s.call t).holds → ∀ e t',
        (engine e).operationLock = some t' ↔ (Function.update s.call t c t').holds = some e := by
    intro c engine hengine hholds e t'
    rw [hengine, hlocks e t']
    by_cases ht : t' = t
    · rw [ht, Function.update_self, hholds]
    · rw [Function.update_of_ne ht]
  have hset : ∀ (x : ℕ) (f : WarmEngine → WarmEngine),
      (∀ w, (f w).operationLock = w.operationLock) → ∀ e,
        ((s.setEngine x f).engine e).operationLock = (s.engine e).operationLock := by
    intro x f hf e
    by_cases he : e = x
    · rw [he, setEngine_engine, hf]
    · rw [setEngine_engine_ne he]
  cases h with
  | stays => exact hlocks
  | moves follows holds owes => exact hsame (fun _ => rfl) holds
  | opens call => exact hsame (fun _ => rfl) (by rw [call]; rfl)
  | loses call raised => exact hsame (fun _ => rfl) (by rw [call]; rfl)
  | closes follows holds owes owner =>
    exact hsame (hset _ (fun w => { w with closes := w.closes + 1 }) fun _ => rfl) holds
  | registers call isOpen inserted => exact hsame (fun _ => rfl) (by rw [call]; rfl)
  | removes entry follows holds owes owed idle owner => exact hsame (fun _ => rfl) holds
  | starts call =>
    exact hsame (hset _ (fun w => { w with active := true }) fun _ => rfl) (by rw [call]; rfl)
  | changes keeps follows holds owes owner => exact hsame (hset _ _ fun w => (keeps w).1) holds
  | shuts call isOpen => exact hsame (fun _ => rfl) (by rw [call]; rfl)
  | @acquires x c free follows before holds owes =>
    intro e t'
    rcases eq_or_ne t' t with rfl | ht
    · rw [goTo_call, holds, goTo_engine]
      rcases eq_or_ne e x with rfl | he
      · rw [setEngine_engine]
        simp
      · rw [setEngine_engine_ne he, hlocks e t', before]
        simp [he.symm]
    · rw [goTo_call_ne ht, setEngine_call, ← hlocks e t', goTo_engine]
      rcases eq_or_ne e x with rfl | he
      · rw [setEngine_engine, free]
        simp [ht.symm]
      · rw [setEngine_engine_ne he]
  | @releases x c follows before holds owes =>
    intro e t'
    have hx : (s.engine x).operationLock = some t := (hlocks x t).2 before
    rcases eq_or_ne t' t with rfl | ht
    · rw [goTo_call, holds, goTo_engine]
      rcases eq_or_ne e x with rfl | he
      · rw [setEngine_engine]
        simp
      · rw [setEngine_engine_ne he, hlocks e t', before]
        simp [he.symm]
    · rw [goTo_call_ne ht, setEngine_call, ← hlocks e t', goTo_engine]
      rcases eq_or_ne e x with rfl | he
      · rw [setEngine_engine, hx]
        simp [ht.symm]
      · rw [setEngine_engine_ne he]

/-- What holds of the pool at every time. -/
structure Inv (s : WarmEnginePool) : Prop where
  locks : s.Locks
  entries_lt : ∀ key e, (key, e) ∈ s.entries → e < s.opened
  names_lt : ∀ t, ∀ e ∈ (s.call t).names, e < s.opened
  /-- Nobody else knows an engine before it is registered. -/
  fresh : ∀ t e, (s.call t).fresh = some e →
    (∀ key, (key, e) ∉ s.entries) ∧ ∀ t', e ∈ (s.call t').names → t' = t
  closed : s.closed = true → s.entries = ∅
  active : ∀ t key e, (s.call t).runs = some (key, e) → (s.engine e).active = true
  shut : ∀ t, (s.call t).drains = true → s.closed = true

lemma init_inv : init.Inv where
  locks e t := by simp [init]
  entries_lt key e h := absurd h (Table.notMem_empty _)
  names_lt t e h := absurd h List.not_mem_nil
  fresh t e h := by simp [init] at h
  closed h := by simp [init] at h
  active t key e h := by simp [init] at h
  shut t h := by simp [init] at h

/-- The entries after a step were there before, or were registered by its thread. -/
lemma PoolStep.entries (h : s.PoolStep t check s') {key : RoleInstanceKey} {e : ℕ}
    (he : (key, e) ∈ s'.entries) :
    (key, e) ∈ s.entries ∨ s.call t = .registering key e ∧ s'.call t = .locking key e := by
  cases h with
  | registers call isOpen inserted =>
    rcases (Table.mem_of_insert inserted (key, e)).1 he with hold | hnew
    · exact .inl hold
    · cases hnew
      exact .inr ⟨call, goTo_call⟩
  | removes entry follows holds owes owed idle owner => exact .inl (mem_remove.1 he).1
  | shuts call isOpen => exact absurd he (Table.notMem_empty _)
  | _ => exact .inl he

lemma Follows.refl (s : WarmEnginePool) (c : PoolCall) : s.Follows c c :=
  ⟨fun _ h => .inl h, fun _ h => h, fun _ _ h => .inl h, fun _ h => h, fun h => h⟩

/-- The call of the thread after its step. -/
lemma PoolStep.follows (h : s.PoolStep t check s') : s.Follows (s.call t) (s'.call t) ∨
    (∃ key, s'.call t = .checking key s.opened ∧ s'.opened = s.opened + 1) ∨
    (∃ key e, s.call t = .starting key e ∧ s'.call t = .running key e ∧
      (s'.engine e).active = true) ∨
    s'.call t = .draining (s.entries.rows.map Prod.snd) ∧ s'.closed = true := by
  cases h with
  | stays => exact .inl (.refl s _)
  | opens call => exact .inr (.inl ⟨_, goTo_call, rfl⟩)
  | starts call => exact .inr (.inr (.inl ⟨_, _, call, goTo_call, by simp⟩))
  | shuts call isOpen => exact .inr (.inr (.inr ⟨goTo_call, rfl⟩))
  | moves follows holds owes => exact .inl (goTo_call ▸ follows)
  | acquires free follows before holds owes => exact .inl (goTo_call ▸ follows)
  | releases follows before holds owes => exact .inl (goTo_call ▸ follows)
  | closes follows holds owes owner => exact .inl (goTo_call ▸ follows)
  | removes entry follows holds owes owed idle owner => exact .inl (goTo_call ▸ follows)
  | changes keeps follows holds owes owner => exact .inl (goTo_call ▸ follows)
  | loses call raised =>
    rw [call, goTo_call]
    exact .inl .of_le
  | registers call isOpen inserted =>
    rw [call, goTo_call]
    exact .inl .of_le

/-- The engines that a call works on after a step. -/
lemma PoolStep.names (h : s.PoolStep t check s') {e : ℕ} (he : e ∈ (s'.call t).names) :
    e ∈ (s.call t).names ∨ (∃ key, (key, e) ∈ s.entries) ∨
      e = s.opened ∧ s'.opened = s.opened + 1 := by
  rcases h.follows with hf | ⟨key, hcall, hopened⟩ | ⟨key, x, hbefore, hcall, -⟩ | ⟨hcall, -⟩
  · exact (hf.names e he).imp id .inl
  · rw [hcall] at he
    exact .inr (.inr ⟨List.mem_singleton.1 he, hopened⟩)
  · rw [hcall] at he
    rw [hbefore]
    exact .inl he
  · rw [hcall] at he
    obtain ⟨⟨key, x⟩, hmem, rfl⟩ := List.mem_map.1 he
    exact .inr (.inl ⟨key, hmem⟩)

lemma PoolStep.fresh (h : s.PoolStep t check s') {e : ℕ} (he : (s'.call t).fresh = some e) :
    (s.call t).fresh = some e ∨ e = s.opened := by
  rcases h.follows with hf | ⟨key, hcall, -⟩ | ⟨key, x, -, hcall, -⟩ | ⟨hcall, -⟩
  · exact .inl (hf.fresh e he)
  · rw [hcall] at he
    exact .inr (Option.some.inj he).symm
  · rw [hcall] at he
    cases he
  · rw [hcall] at he
    cases he

lemma PoolStep.runs (h : s.PoolStep t check s') {key : RoleInstanceKey} {e : ℕ}
    (he : (s'.call t).runs = some (key, e)) : (s.call t).runs = some (key, e) ∨
      (s.call t).uses = some (key, e) ∧ (s'.engine e).active = true := by
  rcases h.follows with hf | ⟨k, hcall, -⟩ | ⟨k, x, hbefore, hcall, hactive⟩ | ⟨hcall, -⟩
  · exact .inl (hf.runs _ he)
  · rw [hcall] at he
    cases he
  · rw [hcall] at he
    cases he
    exact .inr ⟨by rw [hbefore]; rfl, hactive⟩
  · rw [hcall] at he
    cases he

/-- An entry becomes active when its operation starts, and a thread that has its operation lock sets
it back. -/
lemma PoolStep.active (h : s.PoolStep t check s') (e : ℕ) :
    (s'.engine e).active = (s.engine e).active ∨ (s.call t).fresh = some e ∨
      (s.call t).holds = some e ∧ ((s'.engine e).active = true ∨ (s'.call t).uses = none) := by
  have hset : ∀ (x : ℕ) (f : WarmEngine → WarmEngine), e ≠ x →
      ((s.setEngine x f).engine e).active = (s.engine e).active := fun x f he => by
    rw [setEngine_engine_ne he]
  cases h with
  | @acquires x c free follows before holds owes =>
    rcases eq_or_ne e x with rfl | he
    · exact .inl (by simp)
    · exact .inl (hset x (fun w => { w with operationLock := some t }) he)
  | @releases x c follows before holds owes =>
    rcases eq_or_ne e x with rfl | he
    · exact .inl (by simp)
    · exact .inl (hset x (fun w => { w with operationLock := none }) he)
  | @closes x c openingLock follows holds owes owner =>
    rcases eq_or_ne e x with rfl | he
    · exact .inl (by simp)
    · exact .inl (hset x (fun w => { w with closes := w.closes + 1 }) he)
  | @starts key x call =>
    rcases eq_or_ne e x with rfl | he
    · exact .inr (.inr ⟨by rw [call]; rfl, .inl (by simp)⟩)
    · exact .inl (hset x (fun w => { w with active := true }) he)
  | @changes x f c keeps follows holds owes owner =>
    rcases eq_or_ne e x with rfl | he
    · rcases owner with h | ⟨h, hidle⟩
      · exact .inr (.inl h)
      · exact .inr (.inr ⟨h, .inr (by rw [goTo_call, hidle])⟩)
    · exact .inl (hset x f he)
  | _ => exact .inl rfl

/-- An engine is closed by a call that nobody else shares it with, by one that has its
operation lock and runs no operation, or by `abort_active`. -/
lemma PoolStep.closes_engine (h : s.PoolStep t check s') (e : ℕ) :
    (s'.engine e).closes = (s.engine e).closes ∨ (s.call t).fresh = some e ∨
      (s.call t).holds = some e ∧ (s.call t).uses = none ∨ s.call t = .abortClosing e := by
  have hset : ∀ (x : ℕ) (f : WarmEngine → WarmEngine), (∀ w, (f w).closes = w.closes) →
      ((s.setEngine x f).engine e).closes = (s.engine e).closes := by
    intro x f hf
    rcases eq_or_ne e x with rfl | he
    · rw [setEngine_engine, hf]
    · rw [setEngine_engine_ne he]
  cases h with
  | @acquires x c free follows before holds owes =>
    exact .inl (hset x (fun w => { w with operationLock := some t }) fun _ => rfl)
  | @releases x c follows before holds owes =>
    exact .inl (hset x (fun w => { w with operationLock := none }) fun _ => rfl)
  | @starts key x call => exact .inl (hset x (fun w => { w with active := true }) fun _ => rfl)
  | @changes x f c keeps follows holds owes owner => exact .inl (hset x f fun w => (keeps w).2)
  | @closes x c openingLock follows holds owes owner =>
    rcases eq_or_ne e x with rfl | he
    · exact .inr owner
    · exact .inl (congrArg WarmEngine.closes (Function.update_of_ne he ..))
  | _ => exact .inl rfl

/-- The number of the engines grows when one is opened. -/
lemma PoolStep.opened (h : s.PoolStep t check s') : s'.opened = s.opened ∨
    s'.opened = s.opened + 1 ∧ s.opened ∈ (s'.call t).owes := by
  cases h with
  | opens call => exact .inr ⟨rfl, by simp⟩
  | _ => exact .inl rfl

lemma PoolStep.opened_le (h : s.PoolStep t check s') : s.opened ≤ s'.opened := by
  rcases h.opened with hopened | ⟨hopened, -⟩ <;> omega

lemma PoolStep.closed_mono (h : s.PoolStep t check s') (hclosed : s.closed = true) :
    s'.closed = true := by
  cases h with
  | shuts call isOpen => rfl
  | _ => exact hclosed

lemma Inv.poolStep (hs : s.Inv) (h : s.PoolStep t check s') : s'.Inv where
  locks := h.locks hs.locks
  entries_lt key e he := by
    have hle := h.opened_le
    rcases h.entries he with hold | ⟨hcall, -⟩
    · exact (hs.entries_lt key e hold).trans_le hle
    · have hnames : e ∈ (s.call t).names := by
        rw [hcall]
        exact List.mem_singleton_self e
      exact (hs.names_lt t e hnames).trans_le hle
  names_lt t' e he := by
    have hle := h.opened_le
    rcases eq_or_ne t' t with rfl | ht
    · rcases h.names he with hold | ⟨key, hentry⟩ | ⟨rfl, hopened⟩
      · exact (hs.names_lt t' e hold).trans_le hle
      · exact (hs.entries_lt key e hentry).trans_le hle
      · omega
    · rw [h.call_ne ht] at he
      exact (hs.names_lt t' e he).trans_le hle
  fresh t' e he := by
    -- what the thread of the step registers it has seen
    have hregisters : ∀ key, s.call t = .registering key e → e ∈ (s.call t).names := by
      intro key hcall
      rw [hcall]
      exact List.mem_singleton_self e
    rcases eq_or_ne t' t with rfl | ht
    · rcases h.fresh he with hold | rfl
      · obtain ⟨hnone, hother⟩ := hs.fresh t' e hold
        refine ⟨fun key hentry => ?_, fun t'' hnames => ?_⟩
        · rcases h.entries hentry with hentry | ⟨-, hcall⟩
          · exact hnone key hentry
          · rw [hcall] at he
            cases he
        · by_contra ht
          rw [h.call_ne ht] at hnames
          exact ht (hother t'' hnames)
      · refine ⟨fun key hentry => ?_, fun t'' hnames => ?_⟩
        · rcases h.entries hentry with hentry | ⟨hcall, -⟩
          · exact (hs.entries_lt key _ hentry).false
          · exact (hs.names_lt t' _ (hregisters key hcall)).false
        · by_contra ht
          rw [h.call_ne ht] at hnames
          exact (hs.names_lt t'' _ hnames).false
    · rw [h.call_ne ht] at he
      obtain ⟨hnone, hother⟩ := hs.fresh t' e he
      refine ⟨fun key hentry => ?_, fun t'' hnames => ?_⟩
      · rcases h.entries hentry with hentry | ⟨hcall, -⟩
        · exact hnone key hentry
        · exact ht (hother t (hregisters key hcall)).symm
      · rcases eq_or_ne t'' t with rfl | ht'
        · rcases h.names hnames with hnames | ⟨key, hentry⟩ | ⟨rfl, -⟩
          · exact hother t'' hnames
          · exact absurd hentry (hnone key)
          · exact absurd (hs.names_lt t' _ (PoolCall.mem_names_of_fresh he)) (lt_irrefl _)
        · rw [h.call_ne ht'] at hnames
          exact hother t'' hnames
  closed hclosed := by
    cases h with
    | registers call isOpen inserted => exact absurd (hclosed.symm.trans isOpen) (by simp)
    | @removes key e c entry follows holds owes owed idle owner =>
      rw [hs.closed hclosed] at entry
      exact absurd entry (Table.notMem_empty _)
    | shuts call isOpen => rfl
    | _ => exact hs.closed hclosed
  active t' key e he := by
    have hholds := PoolCall.holds_of_uses (PoolCall.uses_of_runs he)
    rcases eq_or_ne t' t with rfl | ht
    · rcases h.runs he with hold | ⟨-, hactive⟩
      · have hbefore := hs.active t' key e hold
        rcases h.active e with hsame | hfresh | ⟨-, hactive | hidle⟩
        · exact hsame.trans hbefore
        · cases hcall : s.call t' <;> simp [hcall] at hold hfresh
        · exact hactive
        · rw [PoolCall.uses_of_runs he] at hidle
          cases hidle
      · exact hactive
    · rw [h.call_ne ht] at he hholds
      rcases h.active e with hsame | hfresh | ⟨hother, -⟩
      · exact hsame.trans (hs.active t' key e he)
      · exact absurd ((hs.fresh t e hfresh).2 t' (PoolCall.mem_names_of_holds hholds)) ht
      · -- the operation lock has one holder
        have hlock := (hs.locks e t).2 hother
        rw [(hs.locks e t').2 hholds] at hlock
        exact absurd (Option.some.inj hlock) ht
  shut t' hdrains := by
    have hclosed : s.closed = true → s'.closed = true := h.closed_mono
    rcases eq_or_ne t' t with rfl | ht
    · rcases h.follows with hf | ⟨key, hcall, -⟩ | ⟨key, x, -, hcall, -⟩ | ⟨-, hshut⟩
      · exact hclosed (hs.shut t' (hf.drains hdrains))
      · rw [hcall] at hdrains
        cases hdrains
      · rw [hcall] at hdrains
        cases hdrains
      · exact hshut
    · rw [h.call_ne ht] at hdrains
      exact hclosed (hs.shut t' hdrains)

lemma step_poolStep (s : WarmEnginePool) (ev : PoolEvent) :
    s.PoolStep ev.thread ev.check (s.step ev) := by
  cases ev with
  | step t o => exact s.advance_step t o
  | request t r =>
    rw [WarmEnginePool.step]
    split
    · next hidle =>
      refine .goTo hidle ?_ ?_ (by simp)
      · cases r <;> exact .of_le
      · cases r <;> rfl
    · exact .stays

lemma Inv.step (hs : s.Inv) (ev : PoolEvent) : (s.step ev).Inv :=
  hs.poolStep (s.step_poolStep ev)

lemma run_inv (es : List PoolEvent) : (run step init es).Inv :=
  invariant_run (fun _ ev hs => hs.step ev) init_inv es

/-! ## Engines in use and engines to close -/

/-- A call that a step takes further still has to close what it had to close. -/
lemma PoolStep.owes (h : s.PoolStep t check s') {e : ℕ} (he : e ∈ (s.call t).owes) :
    e ∈ (s'.call t).owes ∨ 0 < (s'.engine e).closes ∨ (∃ key, (key, e) ∈ s'.entries) ∨
      check = .raised ∧ ∃ key, s.call t = .checking key e := by
  cases h with
  | stays => exact .inl he
  | moves follows holds owes => exact .inl (goTo_call ▸ owes e he)
  | acquires free follows before holds owes => exact .inl (goTo_call ▸ owes e he)
  | releases follows before holds owes => exact .inl (goTo_call ▸ owes e he)
  | removes entry follows holds owes owed idle owner => exact .inl (goTo_call ▸ owes e he)
  | changes keeps follows holds owes owner => exact .inl (goTo_call ▸ owes e he)
  | opens call => simp [call] at he
  | starts call => simp [call] at he
  | shuts call isOpen => simp [call] at he
  | closes follows holds owes owner =>
    rcases owes e he with rfl | he
    · exact .inr (.inl (by simp))
    · exact .inl (goTo_call ▸ he)
  | @loses key x call raised =>
    have hx : e = x := by simpa [call] using he
    exact .inr (.inr (.inr ⟨raised, key, hx ▸ call⟩))
  | @registers key x entries call isOpen inserted =>
    have hx : e = x := by simpa [call] using he
    exact .inr (.inr (.inl ⟨key, (Table.mem_of_insert inserted _).2 (.inr (hx ▸ rfl))⟩))

/-- An entry that a step takes out of the pool is one that its thread has to close. -/
lemma PoolStep.entries_kept (h : s.PoolStep t check s') {key : RoleInstanceKey} {e : ℕ}
    (he : (key, e) ∈ s.entries) : (key, e) ∈ s'.entries ∨ e ∈ (s'.call t).owes ∧
      ((s.call t).holds = some e ∧ (s'.call t).uses = none ∨ s'.call t = .abortClosing e ∨
        s.call t = .shuttingDown ∧ s.closed = false) := by
  cases h with
  | registers call isOpen inserted => exact .inl ((Table.mem_of_insert inserted _).2 (.inl he))
  | @removes key' x c entry follows holds owes owed idle owner =>
    by_cases hkey : key = key'
    · -- the row of the key
      have hrow := s.entries.eq_of_key he entry hkey
      obtain ⟨-, rfl⟩ := Prod.mk.inj hrow
      rw [goTo_call]
      exact .inr ⟨owed, owner.imp (fun h => ⟨h, idle⟩) .inl⟩
    · exact .inl (mem_remove.2 ⟨he, hkey⟩)
  | shuts call isOpen =>
    rw [goTo_call]
    exact .inr ⟨List.mem_map.2 ⟨(key, e), he, rfl⟩, .inr (.inr ⟨call, isOpen⟩)⟩
  | _ => exact .inl he

lemma PoolStep.closes_pos (h : s.PoolStep t check s') {e : ℕ} (he : 0 < (s.engine e).closes) :
    0 < (s'.engine e).closes := by
  have hset : ∀ (x : ℕ) (f : WarmEngine → WarmEngine), (∀ w, w.closes ≤ (f w).closes) →
      0 < ((s.setEngine x f).engine e).closes := by
    intro x f hf
    rcases eq_or_ne e x with rfl | hne
    · rw [setEngine_engine]
      exact he.trans_le (hf _)
    · rw [setEngine_engine_ne hne]
      exact he
  cases h with
  | @acquires x c free follows before holds owes =>
    exact hset x (fun w => { w with operationLock := some t }) fun _ => le_rfl
  | @releases x c follows before holds owes =>
    exact hset x (fun w => { w with operationLock := none }) fun _ => le_rfl
  | @starts key x call => exact hset x (fun w => { w with active := true }) fun _ => le_rfl
  | @changes x f c keeps follows holds owes owner => exact hset x f fun w => (keeps w).2.ge
  | @closes x c openingLock follows holds owes owner =>
    exact hset x (fun w => { w with closes := w.closes + 1 }) fun _ => Nat.le_succ _
  | _ => exact he

/-- The engines of operations are registered or aborted, and no engine is lost. -/
structure Kept (s : WarmEnginePool) : Prop extends s.Inv where
  inUse : ∀ t key e, (s.call t).uses = some (key, e) → (key, e) ∈ s.entries ∨
    0 < (s.engine e).closes ∨ ∃ t', s.call t' = .abortClosing e
  owned : ∀ e < s.opened, 0 < (s.engine e).closes ∨ (∃ key, (key, e) ∈ s.entries) ∨
    ∃ t, e ∈ (s.call t).owes

/-- No shutdown begins while a registered entry is in use, and neither the clock nor the
identifier of the provider fails after an engine was opened. -/
def Careful (s : WarmEnginePool) (ev : PoolEvent) : Prop :=
  (s.call ev.thread = .shuttingDown → s.closed = false →
    ∀ t key e, (s.call t).uses = some (key, e) → (key, e) ∉ s.entries) ∧
  ∀ key e, s.call ev.thread = .checking key e → ev.check ≠ .raised

lemma owes_of_uses {c : PoolCall} {r : RoleInstanceKey × ℕ} (h : c.uses = some r) :
    c.owes = [] := by
  cases c <;> simp_all

/-- A thread that aborts an operation closes its engine next. -/
lemma step_abortClosing {ev : PoolEvent} (h : s.call ev.thread = .abortClosing e) :
    0 < ((s.step ev).engine e).closes ∨ (s.step ev).call ev.thread = .abortClosing e := by
  cases ev with
  | request t r =>
    have hbusy : s.call t ≠ .idle := by
      intro hidle
      exact absurd (h.symm.trans hidle) (by simp)
    rw [WarmEnginePool.step, if_neg hbusy]
    exact .inr h
  | step t o =>
    have hclose : s.advance t o = s.close t e .idle := by
      rw [advance.eq_def, show s.call t = .abortClosing e from h]
    refine .inl ?_
    rw [WarmEnginePool.step, hclose, close, goTo_engine, setEngine_engine]
    exact Nat.succ_pos _

/-- What an operation uses after a step it used before or found in the pool. -/
lemma PoolStep.uses (h : s.PoolStep t check s') {r : RoleInstanceKey × ℕ}
    (hr : (s'.call t).uses = some r) : (s.call t).uses = some r ∨ r ∈ s.entries := by
  rcases h.follows with hf | ⟨key, hcall, -⟩ | ⟨key, e, hbefore, hcall, -⟩ | ⟨hcall, -⟩
  · exact hf.uses r.1 r.2 hr
  · rw [hcall] at hr
    cases hr
  · rw [hcall] at hr
    rw [hbefore]
    exact .inl hr
  · rw [hcall] at hr
    cases hr

lemma Kept.step (hs : s.Kept) (ev : PoolEvent) (hcareful : s.Careful ev) : (s.step ev).Kept where
  toInv := hs.toInv.step ev
  inUse t key e huses := by
    have h := s.step_poolStep ev
    have hbefore : (s.call t).uses = some (key, e) ∨ t = ev.thread ∧ (key, e) ∈ s.entries := by
      rcases eq_or_ne t ev.thread with rfl | ht
      · exact (h.uses huses).imp id fun hentry => ⟨rfl, hentry⟩
      · rw [h.call_ne ht] at huses
        exact .inl huses
    have hbefore' : (key, e) ∈ s.entries ∨ 0 < (s.engine e).closes ∨
        ∃ t', s.call t' = .abortClosing e := by
      rcases hbefore with hbefore | ⟨-, hentry⟩
      · exact hs.inUse t key e hbefore
      · exact .inl hentry
    rcases hbefore' with hentry | hclosed | ⟨t', hcall⟩
    · rcases h.entries_kept hentry with hentry | ⟨howes, hwho⟩
      · exact .inl hentry
      · -- the thread that removes the entry does not run the operation
        have ht : t ≠ ev.thread := by
          rintro rfl
          rw [owes_of_uses huses] at howes
          exact absurd howes List.not_mem_nil
        have huses' : (s.call t).uses = some (key, e) := hbefore.resolve_right fun hb => ht hb.1
        rcases hwho with ⟨hholds, -⟩ | hcall | ⟨hcall, hopen⟩
        · have hlock := (hs.locks e ev.thread).2 hholds
          rw [(hs.locks e t).2 (PoolCall.holds_of_uses huses')] at hlock
          exact absurd (Option.some.inj hlock) ht
        · exact .inr (.inr ⟨_, hcall⟩)
        · exact absurd hentry (hcareful.1 hcall hopen t key e huses')
    · exact .inr (.inl (h.closes_pos hclosed))
    · rcases eq_or_ne t' ev.thread with rfl | ht
      · exact .inr ((step_abortClosing hcall).imp id fun hcall => ⟨_, hcall⟩)
      · exact .inr (.inr ⟨t', (h.call_ne ht).trans hcall⟩)
  owned e he := by
    have h := s.step_poolStep ev
    by_cases hold : e < s.opened
    · rcases hs.owned e hold with hclosed | ⟨key, hentry⟩ | ⟨t, howes⟩
      · exact .inl (h.closes_pos hclosed)
      · rcases h.entries_kept hentry with hentry | ⟨howes, -⟩
        · exact .inr (.inl ⟨key, hentry⟩)
        · exact .inr (.inr ⟨_, howes⟩)
      · rcases eq_or_ne t ev.thread with rfl | ht
        · rcases h.owes howes with howes | hclosed | hentry | ⟨hraised, key, hcall⟩
          · exact .inr (.inr ⟨_, howes⟩)
          · exact .inl hclosed
          · exact .inr (.inl hentry)
          · exact absurd hraised (hcareful.2 key e hcall)
        · exact .inr (.inr ⟨t, by rw [h.call_ne ht]; exact howes⟩)
    · -- the engine was opened in this step
      rcases h.opened with hopened | ⟨hopened, howes⟩
      · omega
      · obtain rfl : e = s.opened := by omega
        exact .inr (.inr ⟨_, howes⟩)

lemma init_kept : init.Kept where
  toInv := init_inv
  inUse t key e h := by simp [init] at h
  owned e he := absurd he (Nat.not_lt_zero e)

/-! ## What the pool promises -/

/-- An engine was closed, or `abort_active` is about to close it. -/
def Aborted (s : WarmEnginePool) (e : ℕ) : Prop :=
  0 < (s.engine e).closes ∨ ∃ t, s.call t = .abortClosing e

/-- What the locks of the pool guarantee. -/
structure Exclusive (s : WarmEnginePool) : Prop where
  /-- A key has one entry. -/
  single : ∀ key e e', (key, e) ∈ s.entries → (key, e') ∈ s.entries → e = e'
  /-- Operations on one engine do not overlap. -/
  operations : ∀ t t' key key' e, (s.call t).runs = some (key, e) →
    (s.call t').runs = some (key', e) → t = t'
  /-- Only `abort_active` closes an engine while an operation runs on it. -/
  closing : ∀ ev t key e, (s.call t).runs = some (key, e) →
    ((s.step ev).engine e).closes ≠ (s.engine e).closes → s.call ev.thread = .abortClosing e
  /-- When `shutdown` returns, no entry is registered, and none is registered later. -/
  shut : ∀ t o, s.call t = .shuttingDown ∨ (s.call t).drains = true →
    (s.advance t o).call t = .idle → ∀ es, (run step (s.advance t o) es).entries = ∅

/-- What the pool promises besides. -/
structure Tracked (s : WarmEnginePool) : Prop where
  /-- `abort_active` finds the engine of an operation on its key, unless it is already aborted. -/
  aborts : ∀ t key e, (s.call t).runs = some (key, e) → ∀ t' o, s.call t' = .aborting key →
    s.Aborted e ∨ (s.advance t' o).call t' = .abortClosing e
  /-- An engine is registered or closed, or a call has still to do it. -/
  owned : ∀ e < s.opened, (∃ key, (key, e) ∈ s.entries) ∨ 0 < (s.engine e).closes ∨
    ∃ t, e ∈ (s.call t).owes

lemma Inv.runs_eq (hs : s.Inv) {t' : ℕ}
    (h : (s.call t).runs = some (key, e)) (h' : (s.call t').holds = some e) : t = t' := by
  have hlock := (hs.locks e t).2 (PoolCall.holds_of_uses (PoolCall.uses_of_runs h))
  rw [(hs.locks e t').2 h'] at hlock
  exact (Option.some.inj hlock).symm

/-- **The locks of the pool**, for every interleaving. -/
theorem warm_engines_exclusive (es : List PoolEvent) : (run step init es).Exclusive := by
  have hs := run_inv es
  generalize run step init es = s at hs
  refine ⟨fun key e e' he he' => ?_, fun t t' key key' e h h' => ?_, fun ev t key e h hcloses => ?_,
    fun t o hcall hidle es => ?_⟩
  · exact (Prod.mk.inj (s.entries.eq_of_key he he' rfl)).2
  · exact hs.runs_eq h (PoolCall.holds_of_uses (PoolCall.uses_of_runs h'))
  · rcases (s.step_poolStep ev).closes_engine e with hsame | hfresh | ⟨hholds, hunused⟩ | hcall
    · exact absurd hsame hcloses
    · -- an engine on which an operation runs is known to its thread
      have hknown := PoolCall.mem_names_of_holds
        (PoolCall.holds_of_uses (PoolCall.uses_of_runs h))
      obtain rfl := (hs.fresh _ e hfresh).2 t hknown
      cases hcall : s.call ev.thread <;> simp [hcall] at h hfresh
    · obtain rfl := hs.runs_eq h hholds
      rw [PoolCall.uses_of_runs h] at hunused
      cases hunused
    · exact hcall
  · have hclosed : (s.advance t o).closed = true := by
      rcases hcall with hcall | hdrains
      · rw [advance.eq_def, hcall] at hidle ⊢
        dsimp only at hidle ⊢
        split at hidle
        · next hshut =>
          rw [if_pos hshut]
          exact hshut
        · rw [goTo_call] at hidle
          cases hidle
      · exact (s.advance_step t o).closed_mono (hs.shut t hdrains)
    have hinv : (s.advance t o).Inv := hs.poolStep (s.advance_step t o)
    have hrun := invariant_run (I := fun s : WarmEnginePool => s.Inv ∧ s.closed = true)
      (fun s ev h => ⟨h.1.step ev, (s.step_poolStep ev).closed_mono h.2⟩) ⟨hinv, hclosed⟩ es
    exact hrun.1.closed hrun.2

lemma Kept.tracked (hs : s.Kept) : s.Tracked where
  aborts t key e h t' o hcall := by
    rcases hs.inUse t key e (PoolCall.uses_of_runs h) with hentry | haborted
    · refine .inr ?_
      have hfound : (s.current key).filter (fun e => (s.engine e).active) = some e :=
        Option.filter_eq_some_iff.2 ⟨current_eq_some.2 hentry, hs.active t key e h⟩
      rw [advance.eq_def, hcall]
      dsimp only
      rw [hfound]
      exact goTo_call
    · exact .inl haborted
  owned e he := by
    rcases hs.owned e he with hclosed | hentry | howed
    · exact .inr (.inl hclosed)
    · exact .inl hentry
    · exact .inr (.inr howed)

end WarmEnginePool

/-- **The engines of the pool.**  After a run in which no shutdown begins while a registered
entry is in use, and in which neither the clock nor the identifier of the provider fails after an
engine was opened, the locks exclude each other, an abort finds the engine of every operation on its
key, and every engine is registered or closed, or a call has still to do it. -/
theorem warm_engines_tracked (es : List PoolEvent)
    (h : Along WarmEnginePool.step WarmEnginePool.Careful WarmEnginePool.init es) :
    (run WarmEnginePool.step WarmEnginePool.init es).Exclusive ∧
      (run WarmEnginePool.step WarmEnginePool.init es).Tracked := by
  have hkept := invariant_along (I := WarmEnginePool.Kept)
    (fun s ev hs hcareful => hs.step ev hcareful) WarmEnginePool.init_kept h
  exact ⟨WarmEnginePool.warm_engines_exclusive es, hkept.tracked⟩

/-! ## An operation, an abort and a shutdown -/

lemma isWarmId_developer : isWarmId "p" = true ∧ isWarmId "developer-1" = true := by decide

/-- An instance whose engine is used. -/
def developerKey : RoleInstanceKey := ⟨"p", "developer-1", isWarmId_developer⟩

/-- The provider opens an engine, and nothing fails. -/
def healthy : PoolOutcome := ⟨true, .passed 1, .returned, some 2⟩

/-- A thread opens an engine and runs an operation on it. -/
def longOperation : List PoolEvent :=
  .request 0 (.run developerKey) :: List.replicate 9 (.step 0 healthy)

/-- Another thread aborts the operation. -/
def abortedOperation : List PoolEvent :=
  longOperation ++ [.request 1 (.abortActive developerKey), .step 1 healthy, .step 1 healthy]

/-- The pool is shut down, and a third thread begins to abort the operation. -/
def shutOperation : List PoolEvent :=
  longOperation ++
    [.request 1 .shutdown, .step 1 healthy, .request 2 (.abortActive developerKey)]

theorem warm_engines_tracked_aborted :
    (run WarmEnginePool.step WarmEnginePool.init abortedOperation).Exclusive ∧
      (run WarmEnginePool.step WarmEnginePool.init abortedOperation).Tracked := by
  have hsteps : Along WarmEnginePool.step
      (fun s ev => s.call ev.thread ≠ .shuttingDown ∧ ev.check ≠ .raised)
      WarmEnginePool.init abortedOperation := by
    decide
  refine warm_engines_tracked abortedOperation (hsteps.imp (I := fun _ => True) ?_ ?_ trivial)
  · exact fun _ _ _ _ => trivial
  · intro s ev _ h
    exact ⟨fun hshut => absurd hshut h.1, fun _ _ _ => h.2⟩

/-- An abort does not find the engine of an operation for which a shutdown waits. -/
theorem warm_engines_not_tracked :
    ¬ ∀ es, (run WarmEnginePool.step WarmEnginePool.init es).Exclusive ∧
      (run WarmEnginePool.step WarmEnginePool.init es).Tracked := by
  intro hclaim
  have htracked := (hclaim shutOperation).2
  set s := run WarmEnginePool.step WarmEnginePool.init shutOperation with hs
  have hruns : (s.call 0).runs = some (developerKey, 0) := by
    rw [hs]
    decide
  have haborting : s.call 2 = .aborting developerKey := by
    rw [hs]
    decide
  rcases htracked.aborts 0 developerKey 0 hruns 2 healthy haborting with (hcloses | ⟨t, ht⟩) | hstep
  · rw [hs] at hcloses
    revert hcloses
    decide
  · -- the threads have the calls of the run, and all others are idle
    have hcall : ∀ t, s.call t ∈
        [.idle, .running developerKey 0, .draining [0], .aborting developerKey] := by
      intro t
      rcases t with _ | _ | _ | t
      · rw [hs]
        decide
      · rw [hs]
        decide
      · rw [hs]
        decide
      · exact List.mem_cons_self
    simpa [ht] using hcall t
  · rw [hs] at hstep
    revert hstep
    decide

end AgenticMesh
