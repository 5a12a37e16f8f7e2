import AgenticMesh.Base.JsonInjective
import AgenticMesh.Flow.Engine

/-!
# Repeated operations of a flow

Every call that changes a flow run is recorded in the journal of its project
with a digest of its request.  A call first looks its operation up: a recorded
operation is answered with the run of the journal row if the digests agree and
rejected if they differ.  The text that is digested determines the work item,
the action and the request, except that the text of a start does not contain the
work item; so a start for one work item can be answered with the run of another
one.
-/

namespace AgenticMesh

/-- A call that looks its operation up in the journal; the last transactions of
`prepare_transition` and of `complete` do so again. -/
inductive FlowCall where
  | start (r : StartRequest)
  | prepare (r : PrepareRequest)
  | promote (r : PrepareRequest) (handoff : Handoff)
  | pickup (r : PickupRequest)
  | complete (r : CompleteRequest)
  | finish (r : CompleteRequest)

namespace FlowCall

def projectId : FlowCall → String
  | start r => r.projectId
  | prepare r => r.projectId
  | promote r _ => r.projectId
  | pickup r => r.projectId
  | complete r => r.projectId
  | finish r => r.projectId

def workItemId : FlowCall → String
  | start r => r.workItemId
  | prepare r => r.workItemId
  | promote r _ => r.workItemId
  | pickup r => r.workItemId
  | complete r => r.workItemId
  | finish r => r.workItemId

def operationId : FlowCall → String
  | start r => r.operationId
  | prepare r => r.operationId
  | promote r _ => r.operationId
  | pickup r => r.operationId
  | complete r => r.operationId
  | finish r => r.operationId

/-- The action that the journal has for a call. -/
def action : FlowCall → FlowOperation
  | start _ => .start
  | prepare _ => .prepare
  | promote _ _ => .prepare
  | pickup _ => .pickup
  | complete _ => .complete
  | finish _ => .complete

/-- The arguments of a call, apart from the project, the work item and the operation. -/
def request : FlowCall → List Json
  | start r => [.str r.flow.1.digest, r.flow.1.snapshot, r.fields, .str r.actorId]
  | prepare r => [.str r.outcome, r.fields, .int r.expectedVersion, .str r.actorId]
  | promote r _ => [.str r.outcome, r.fields, .int r.expectedVersion, .str r.actorId]
  | pickup r => [.int r.expectedVersion, .str r.actorId]
  | complete r => [.int r.expectedVersion, .str r.actorId, r.evidence]
  | finish r => [.int r.expectedVersion, .str r.actorId, r.evidence]

def digest : FlowCall → String
  | start r => r.digest
  | prepare r => r.digest
  | promote r _ => r.digest
  | pickup r => r.digest
  | complete r => r.digest
  | finish r => r.digest

/-- The name of the action in the digested values. -/
def name (c : FlowCall) : String :=
  match c.action with
  | .start => "start"
  | .prepare => "prepare"
  | .pickup => "pickup"
  | .complete => "complete"

/-- The values that `_digest` writes; those of a start are without the work item. -/
def values (c : FlowCall) : List Json :=
  .str c.name :: ((if c.action = .start then [] else [.str c.workItemId]) ++ c.request)

lemma digest_eq (c : FlowCall) : c.digest = flowDigest c.values := by
  cases c <;> rfl

/-- The floating point numbers of a call are written as Python writes them. -/
def HasFloatTexts (c : FlowCall) : Prop := (Json.arr c.values).hasFloatTexts = true

instance (c : FlowCall) : Decidable c.HasFloatTexts := inferInstanceAs (Decidable (_ = true))

/-- SHA-256 does not take the texts of two calls for one. -/
def NoCollision (c d : FlowCall) : Prop :=
  c.digest = d.digest →
    Json.ascii (Json.dumps (.arr c.values)) = Json.ascii (Json.dumps (.arr d.values))

/-- A start with the flow, the fields and the actor of another start, for another work item. -/
def OtherStart (c d : FlowCall) : Prop :=
  c.action = .start ∧ d.action = .start ∧ c.request = d.request ∧ c.workItemId ≠ d.workItemId

/-- The identifiers of an operation. -/
def key (c : FlowCall) : String × String := (c.projectId, c.operationId)

/-- The journal row of a call. -/
def row (c : FlowCall) : FlowTransition :=
  ⟨c.projectId, c.workItemId, c.operationId, c.digest, c.action⟩

/-- The run that a call returns; the first transaction of a new `prepare_transition` or `complete`
returns none. -/
def exec : FlowCall → Tx Db FlowError (Option FlowRun)
  | start r => some <$> FlowEngine.start r
  | prepare r => (Sum.elim some fun _ => none) <$> FlowEngine.reserve r
  | promote r handoff => some <$> FlowEngine.promote r handoff
  | pickup r => some <$> FlowEngine.pickupTransition r
  | complete r => (Sum.elim some fun _ => none) <$> FlowEngine.reserveCompletion r
  | finish r => some <$> FlowEngine.finish r

/-- What a call checks before it looks its operation up. -/
def check : FlowCall → Tx Db FlowError Unit
  | start r => do
    FlowEngine.requireIdentifiers [r.projectId, r.workItemId, r.actorId, r.operationId]
    FlowEngine.requireFields r.fields
    let _ ← FlowEngine.stateOf r.flow.1 r.flow.1.entryState
  | prepare r => FlowEngine.checkPrepare r
  | promote r _ => do let _ ← FlowEngine.lockRun r.projectId r.workItemId
  | pickup r => do
    FlowEngine.requireIdentifiers [r.projectId, r.workItemId, r.actorId, r.operationId]
    FlowEngine.requireVersion r.expectedVersion
  | complete r => FlowEngine.checkComplete r
  | finish r => do let _ ← FlowEngine.lockRun r.projectId r.workItemId

/-- The arguments of a call pass the checks before the lookup. -/
def Passes (c : FlowCall) (db : Db) : Prop := c.check db = .ok ((), db)

/-- A call is for the work item of a recorded one, with the same request. -/
def Repeats (c d : FlowCall) : Prop :=
  c.workItemId = d.workItemId ∧ c.action = d.action ∧ c.request = d.request

/-- A call of a recorded operation is in conflict with it, or it repeats the recorded call and
returns the run of its work item without a change. -/
def Answered (c d : FlowCall) (db : Db) : Prop :=
  (∃ message, c.exec db = .error (.conflict message)) ∨
    (c.Repeats d ∧ ∃ run ∈ db.flowRuns, run.key = (c.projectId, c.workItemId) ∧
      c.exec db = .ok (some run, db))

end FlowCall

/-! ## Checks and lookups -/

namespace FlowEngine

variable {db : Db} {α : Type}

/-- A failure before the lookup is not a conflict. -/
def NotConflict (e : FlowError) : Prop := ∀ message, e ≠ .conflict message

/-- A statement that leaves the database alone or fails, but not in conflict. -/
def Guards (t : Tx Db FlowError α) (db : Db) : Prop :=
  (∃ a, t db = .ok (a, db)) ∨ ∃ e, t db = .error e ∧ NotConflict e

lemma Guards.require {p : Prop} [Decidable p] {e : FlowError} (he : NotConflict e) :
    Guards (Tx.require p e) db := by
  by_cases hp : p
  · exact Or.inl ⟨(), Tx.require_of_pos hp⟩
  · exact Or.inr ⟨e, Tx.require_of_neg hp, he⟩

lemma Guards.demand {g : Db → Option α} {e : FlowError} (he : NotConflict e) :
    Guards (Tx.demand g e) db := by
  cases hg : g db with
  | none => exact Or.inr ⟨e, Tx.demand_of_none hg, he⟩
  | some a => exact Or.inl ⟨a, Tx.demand_of_some hg⟩

lemma Guards.pure {a : α} : Guards (pure a) db := Or.inl ⟨a, rfl⟩

lemma Guards.bind {β : Type} {t : Tx Db FlowError α} {f : α → Tx Db FlowError β}
    (ht : Guards t db) (hf : ∀ a, Guards (f a) db) : Guards (t >>= f) db := by
  rcases ht with ⟨a, ha⟩ | ⟨e, he, hne⟩
  · rw [Guards, Tx.bind_of_ok ha]
    exact hf a
  · exact Or.inr ⟨e, Tx.bind_of_error he, hne⟩

lemma requireFields_guards (v : Json) : Guards (requireFields v) db :=
  .bind (.demand fun _ => by simp) fun _ => .require fun _ => by simp

lemma lockRun_guards (p w : String) : Guards (lockRun p w) db := .demand fun _ => by simp

/-- A recorded operation is found, or its digest is in conflict. -/
lemma replay_recorded {p op d : String} {t : FlowTransition} (ht : t ∈ db.transitions)
    (hkey : t.key = (p, op)) :
    replay p op d db = if t.requestDigest = d then .ok (some t.workItemId, db)
      else .error (.conflict "operation id conflicts with another request") := by
  have hrow : db.transitions.lookup (p, op) = some t := Table.lookup_eq_some.2 ⟨ht, hkey⟩
  rw [replay, Tx.bind_of_ok (show Tx.query _ db = .ok (some t, db) by rw [Tx.query, hrow])]
  by_cases hd : t.requestDigest = d
  · rw [if_pos hd]
    dsimp only
    rw [Tx.bind_of_ok (Tx.require_of_pos hd)]
    rfl
  · rw [if_neg hd]
    exact Tx.bind_of_error (Tx.require_of_neg hd)

lemma lockRun_of_mem {p w : String} {run : FlowRun} (hrun : run ∈ db.flowRuns)
    (hkey : run.key = (p, w)) : lockRun p w db = .ok (run, db) :=
  Tx.demand_of_some (Table.lookup_eq_some.2 ⟨hrun, hkey⟩)

end FlowEngine

namespace FlowCall

open FlowEngine

variable {db : Db}

lemma check_guards (c : FlowCall) : Guards c.check db := by
  cases c with
  | start r =>
    exact .bind (.require fun _ => by simp) fun _ => .bind (requireFields_guards _) fun _ =>
      .bind (.demand fun _ => by simp) fun _ => .pure
  | prepare r =>
    exact .bind (.require fun _ => by simp) fun _ => .bind (.require fun _ => by simp) fun _ =>
      .bind (requireFields_guards _) fun _ => .require fun _ => by simp
  | promote r handoff => exact .bind (lockRun_guards _ _) fun _ => .pure
  | pickup r => exact .bind (.require fun _ => by simp) fun _ => .require fun _ => by simp
  | complete r =>
    exact .bind (.require fun _ => by simp) fun _ => .bind (.require fun _ => by simp) fun _ =>
      .bind (requireFields_guards _) fun _ => .require fun _ => by simp
  | finish r => exact .bind (lockRun_guards _ _) fun _ => .pure

/-- A call does nothing before its checks. -/
lemma exec_of_check {c : FlowCall} {e : FlowError} (h : c.check db = .error e) :
    c.exec db = .error e := by
  cases c with
  | start r =>
    refine Tx.map_of_error ?_
    rw [check, Tx.bind_error] at h
    rw [FlowEngine.start, Tx.bind_error]
    rcases h with h | ⟨_, _, hids, h⟩
    · exact Or.inl h
    rw [Tx.bind_error] at h
    refine Or.inr ⟨_, _, hids, Tx.bind_error.2 ?_⟩
    rcases h with h | ⟨_, _, hfields, h⟩
    · exact Or.inl h
    rw [Tx.bind_error] at h
    refine Or.inr ⟨_, _, hfields, Tx.bind_error.2 ?_⟩
    rcases h with h | ⟨_, _, _, h⟩
    · exact Or.inl h
    · simp [pure] at h
  | prepare r => exact Tx.map_of_error (Tx.bind_of_error h)
  | promote r handoff =>
    refine Tx.map_of_error ?_
    rw [check, Tx.bind_error] at h
    rcases h with h | ⟨_, _, _, h⟩
    · exact Tx.bind_of_error h
    · simp [pure] at h
  | pickup r =>
    refine Tx.map_of_error ?_
    rw [check, Tx.bind_error] at h
    rw [pickupTransition, Tx.bind_error]
    rcases h with h | ⟨_, _, hids, h⟩
    · exact Or.inl h
    · exact Or.inr ⟨_, _, hids, Tx.bind_of_error h⟩
  | complete r => exact Tx.map_of_error (Tx.bind_of_error h)
  | finish r =>
    refine Tx.map_of_error ?_
    rw [check, Tx.bind_error] at h
    rcases h with h | ⟨_, _, _, h⟩
    · exact Tx.bind_of_error h
    · simp [pure] at h

/-- After its checks a call looks its operation up, and a recorded one is answered with the run of
its work item. -/
lemma exec_of_passes {c : FlowCall} (h : c.Passes db) :
    ∃ f : Option String → Tx Db FlowError (Option FlowRun),
      c.exec db = (FlowEngine.replay c.projectId c.operationId c.digest >>= f) db ∧
        ∀ w run, lockRun c.projectId w db = .ok (run, db) → f (some w) db = .ok (some run, db) := by
  rw [Passes] at h
  cases c with
  | start r =>
    rw [check, requireIdentifiers, Tx.require_bind_ok, Tx.bind_ok] at h
    obtain ⟨hids, ⟨⟩, db₁, hfields, h⟩ := h
    obtain rfl := requireFields_ok hfields
    rw [stateOf, Tx.demand_bind_ok] at h
    obtain ⟨s, hs, -⟩ := h
    refine ⟨?started, ?lookup, fun w run hlock => ?answer⟩
    case lookup =>
      rw [exec, FlowEngine.start, Tx.map_bind_apply, requireIdentifiers,
        Tx.bind_of_ok (Tx.require_of_pos hids), Tx.map_bind_apply, Tx.bind_of_ok hfields,
        Tx.map_bind_apply, stateOf,
        Tx.bind_of_ok (Tx.demand_of_some (g := fun _ => r.flow.1.state r.flow.1.entryState) hs),
        Tx.map_bind_apply]
      rfl
    case answer => exact Tx.map_of_ok hlock
  | prepare r =>
    have hcheck : checkPrepare r db = .ok ((), db) := h
    refine ⟨?prepared, ?lookup, fun w run hlock => ?answer⟩
    case lookup =>
      rw [exec, reserve, Tx.map_bind_apply, Tx.bind_of_ok hcheck, Tx.map_bind_apply]
      rfl
    case answer =>
      have hrun : lockRun r.projectId w db = .ok (run, db) := hlock
      have hanswer : (lockRun r.projectId w >>= fun run => pure (Sum.inl run)) db =
          .ok ((.inl run : FlowRun ⊕ FlowRoute), db) := by
        rw [Tx.bind_of_ok hrun]
        rfl
      exact Tx.map_of_ok hanswer
  | promote r handoff =>
    rw [check, Tx.bind_ok] at h
    obtain ⟨own, db₁, hown, -⟩ := h
    obtain ⟨rfl, -, -⟩ := lockRun_ok hown
    refine ⟨?promoted, ?lookup, fun w run hlock => ?answer⟩
    case lookup =>
      rw [exec, FlowEngine.promote, Tx.map_bind_apply, Tx.bind_of_ok hown, Tx.map_bind_apply]
      rfl
    case answer => exact Tx.map_of_ok hlock
  | pickup r =>
    rw [check, requireIdentifiers, requireVersion, Tx.require_bind_ok, Tx.require_ok] at h
    obtain ⟨hids, hversion, -⟩ := h
    refine ⟨?pickedUp, ?lookup, fun w run hlock => ?answer⟩
    case lookup =>
      rw [exec, pickupTransition, Tx.map_bind_apply, requireIdentifiers,
        Tx.bind_of_ok (Tx.require_of_pos hids), Tx.map_bind_apply, requireVersion,
        Tx.bind_of_ok (Tx.require_of_pos hversion), Tx.map_bind_apply]
      rfl
    case answer => exact Tx.map_of_ok hlock
  | complete r =>
    have hcheck : checkComplete r db = .ok ((), db) := h
    refine ⟨?completed, ?lookup, fun w run hlock => ?answer⟩
    case lookup =>
      rw [exec, reserveCompletion, Tx.map_bind_apply, Tx.bind_of_ok hcheck, Tx.map_bind_apply]
      rfl
    case answer =>
      have hrun : lockRun r.projectId w db = .ok (run, db) := hlock
      have hanswer : (lockRun r.projectId w >>= fun run => pure (Sum.inl run)) db =
          .ok ((.inl run : FlowRun ⊕ Unit), db) := by
        rw [Tx.bind_of_ok hrun]
        rfl
      exact Tx.map_of_ok hanswer
  | finish r =>
    rw [check, Tx.bind_ok] at h
    obtain ⟨own, db₁, hown, -⟩ := h
    obtain ⟨rfl, -, -⟩ := lockRun_ok hown
    refine ⟨?finished, ?lookup, fun w run hlock => ?answer⟩
    case lookup =>
      rw [exec, FlowEngine.finish, Tx.map_bind_apply, Tx.bind_of_ok hown, Tx.map_bind_apply]
      rfl
    case answer => exact Tx.map_of_ok hlock

/-- A call whose checks pass and whose operation is recorded. -/
lemma exec_of_recorded {c : FlowCall} {t : FlowTransition} {run : FlowRun} (h : c.Passes db)
    (ht : t ∈ db.transitions) (hkey : t.key = c.key) (hrun : run ∈ db.flowRuns)
    (hrunkey : run.key = (c.projectId, t.workItemId)) :
    c.exec db = if t.requestDigest = c.digest then .ok (some run, db)
      else .error (.conflict "operation id conflicts with another request") := by
  have hreplay := replay_recorded (d := c.digest) ht hkey
  obtain ⟨f, hexec, hf⟩ := exec_of_passes h
  rw [hexec]
  by_cases hd : t.requestDigest = c.digest
  · rw [if_pos hd] at hreplay ⊢
    rw [Tx.bind_of_ok hreplay]
    exact hf _ _ (lockRun_of_mem hrun hrunkey)
  · rw [if_neg hd] at hreplay ⊢
    exact Tx.bind_of_error hreplay

/-- **What a call of a recorded operation does.** -/
theorem answered_iff {c d : FlowCall} (hrow : d.row ∈ db.transitions) (hkey : c.key = d.key)
    (hrun : ∃ run ∈ db.flowRuns, run.key = (d.projectId, d.workItemId)) :
    c.Answered d db ↔ c.Passes db ∧ (c.digest = d.digest → c.Repeats d) := by
  obtain ⟨run, hmem, hrunkey⟩ := hrun
  obtain ⟨hproject, -⟩ := Prod.mk.inj hkey
  have hfound : run.key = (c.projectId, d.row.workItemId) := by
    rw [hrunkey, hproject]
    rfl
  constructor
  · intro h
    have hpasses : c.Passes db := by
      have hguards : Guards c.check db := c.check_guards
      rcases hguards with ⟨⟨⟩, hok⟩ | ⟨e, herror, hne⟩
      · exact hok
      · rw [Answered, exec_of_check herror] at h
        rcases h with ⟨message, hconflict⟩ | ⟨-, _, -, -, hok⟩
        · exact absurd (Except.error.inj hconflict) (hne message)
        · simp at hok
    refine ⟨hpasses, fun hdigest => ?_⟩
    rw [Answered, exec_of_recorded hpasses hrow hkey.symm hmem hfound,
      if_pos (show d.row.requestDigest = c.digest from hdigest.symm)] at h
    rcases h with ⟨message, hconflict⟩ | ⟨hrepeats, -⟩
    · simp at hconflict
    · exact hrepeats
  · rintro ⟨hpasses, hdigest⟩
    have hexec := exec_of_recorded hpasses hrow hkey.symm hmem hfound
    by_cases hd : d.row.requestDigest = c.digest
    · have hrepeats := hdigest hd.symm
      rw [if_pos hd] at hexec
      refine Or.inr ⟨hrepeats, run, hmem, ?_, hexec⟩
      rw [hfound, hrepeats.1]
      rfl
    · rw [if_neg hd] at hexec
      exact Or.inl ⟨_, hexec⟩

lemma action_of_name {c d : FlowCall} (h : c.name = d.name) : c.action = d.action := by
  rw [name, name] at h
  split at h <;> split at h <;>
    first
    | exact absurd h (by decide)
    | next hc _ hd => rw [hc, hd]

/-- The digested values determine the action, the request, and the work item but for a start. -/
lemma values_inj {c d : FlowCall} (h : c.values = d.values) :
    c.action = d.action ∧ c.request = d.request ∧
      (c.action ≠ .start → c.workItemId = d.workItemId) := by
  rw [values, values] at h
  obtain ⟨hname, hrest⟩ := List.cons.inj h
  have haction := action_of_name (Json.str.inj hname)
  rw [← haction] at hrest
  by_cases hstart : c.action = .start
  · rw [if_pos hstart, if_pos hstart] at hrest
    exact ⟨haction, hrest, fun hne => absurd hstart hne⟩
  · rw [if_neg hstart, if_neg hstart] at hrest
    obtain ⟨hwork, hrequest⟩ := List.cons.inj hrest
    exact ⟨haction, hrequest, fun _ => Json.str.inj hwork⟩

lemma OtherStart.values_eq {c d : FlowCall} (h : c.OtherStart d) : c.values = d.values := by
  obtain ⟨hc, hd, hrequest, -⟩ := h
  rw [values, values, name, name, hc, hd, hrequest]
  rfl

/-- Calls with one digest repeat each other, unless they are starts of two work items. -/
lemma repeats_of_digest_iff {c d : FlowCall} (hc : c.HasFloatTexts) (hd : d.HasFloatTexts)
    (hcollision : c.NoCollision d) : (c.digest = d.digest → c.Repeats d) ↔ ¬ c.OtherStart d := by
  constructor
  · intro h hother
    have hdigest : c.digest = d.digest := by rw [digest_eq, digest_eq, hother.values_eq]
    exact hother.2.2.2 (h hdigest).1
  · intro hnot hdigest
    have hsame := Json.arr.inj (Json.dumps_injective hc hd (hcollision hdigest))
    obtain ⟨haction, hrequest, hwork⟩ := values_inj hsame
    refine ⟨?_, haction, hrequest⟩
    by_cases hstart : c.action = .start
    · by_contra hne
      exact hnot ⟨hstart, haction ▸ hstart, hrequest, hne⟩
    · exact hwork hstart

end FlowCall

/-- The start of a work item on the shipping flow. -/
def startShipping (workItemId : String) : StartRequest where
  projectId := "p"
  workItemId := workItemId
  flow := shippingFlow
  fields := .obj []
  actorId := "lead"
  operationId := "op"

/-- A work item that the developer has. -/
def developed (workItemId : String) : WorkItem where
  projectId := "p"
  workItemId := workItemId
  assignedRoleId := some "dev"
  status := .active
  version := 2
  payload := .obj []
  terminalReason := none
  terminalEvidence := .obj []

/-- Two work items of the developer. -/
def developing : Db where
  workItems := ⟨[developed "a", developed "b"], by decide⟩

/-- The run that the start of the work item `a` inserts. -/
def firstRun : FlowRun := FlowEngine.newRun (startShipping "a") buildState

/-- The database after the work item `a` was started. -/
def startedFirst : Db := { developing with
  flowRuns := ⟨[firstRun], by simp⟩
  obligations := ⟨FlowEngine.newObligations "p" "a" buildState (.obj []) 1, by decide⟩
  transitions := ⟨[(FlowCall.start (startShipping "a")).row], by simp⟩ }

/-- The start of the work item `a`, whichever roles there are. -/
lemma start_first (roles : Table Role Role.key) :
    FlowEngine.start (startShipping "a") { developing with roles } =
      .ok (firstRun, { startedFirst with roles }) := by
  rw [FlowEngine.start, FlowEngine.requireIdentifiers,
    Tx.bind_of_ok (Tx.require_of_pos (by decide)),
    Tx.bind_of_ok (show FlowEngine.requireFields _ { developing with roles } =
      .ok ((), { developing with roles }) by rfl),
    FlowEngine.stateOf, Tx.bind_of_ok (Tx.demand_of_some (a := buildState) (by decide)),
    Tx.bind_of_ok (show FlowEngine.replay _ _ _ { developing with roles } =
      .ok (none, { developing with roles }) by rfl)]
  rfl

lemma startedFirst_row :
    (FlowCall.start (startShipping "a")).row ∈ startedFirst.transitions := List.mem_singleton_self _

lemma startedFirst_run : firstRun ∈ startedFirst.flowRuns := List.mem_singleton_self _

lemma startShipping_passes (db : Db) : (FlowCall.start (startShipping "b")).Passes db := by
  rw [FlowCall.Passes, FlowCall.check, FlowEngine.requireIdentifiers,
    Tx.bind_of_ok (Tx.require_of_pos (by decide)),
    Tx.bind_of_ok (show FlowEngine.requireFields _ db = .ok ((), db) by rfl), FlowEngine.stateOf,
    Tx.bind_of_ok (Tx.demand_of_some (a := buildState) (by decide))]
  rfl

/-- The start of the work item `b` succeeds with the run of the work item `a`. -/
lemma startShipping_exec :
    (FlowCall.start (startShipping "b")).exec startedFirst = .ok (some firstRun, startedFirst) := by
  have hexec := FlowCall.exec_of_recorded (startShipping_passes startedFirst) startedFirst_row rfl
    startedFirst_run rfl
  have hdigest : (FlowCall.start (startShipping "a")).row.requestDigest =
      (FlowCall.start (startShipping "b")).digest := rfl
  rwa [if_pos hdigest] at hexec

end AgenticMesh
