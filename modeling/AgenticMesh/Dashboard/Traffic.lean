import AgenticMesh.Base.SortedBy
import AgenticMesh.Store.Reliability
import Mathlib.Data.List.Dedup
import Mathlib.Data.Prod.Lex

/-!
# The traffic lights of the dashboard

`DashboardReadStore` counts, for a project and for each of its work items, what
needs attention, and `operational_traffic` turns the counts into reasons and a
light.  The two reads count the same rows, the project those of all its items,
with one exception: the project counts only the gates of new and active items,
and a work item with a pending gate is gated.
-/

namespace AgenticMesh

/-! ## Lights and reasons -/

/-- `green`, `amber` and `red`. -/
inductive TrafficLight where
  | green
  | amber
  | red
deriving DecidableEq

/-- Green is less severe than amber, and amber than red. -/
def TrafficLight.severity : TrafficLight → ℕ
  | green => 0
  | amber => 1
  | red => 2

/-- One reason for a light. -/
structure TrafficReason where
  severity : TrafficLight
  code : String
deriving DecidableEq

/-- Red reasons come first. -/
def TrafficReason.key (r : TrafficReason) : ℕ ×ₗ String :=
  toLex (if r.severity = .red then 0 else 1, r.code)

/-- A light with its reasons. -/
structure TrafficStatus where
  light : TrafficLight
  reasons : List TrafficReason

/-- `traffic_status`. -/
def trafficStatus (reasons : List TrafficReason) : TrafficStatus :=
  let unique := sortedBy TrafficReason.key reasons.dedup
  { light :=
      if ∃ r ∈ unique, r.severity = .red then .red else if unique ≠ [] then .amber else .green
    reasons := unique }

/-- The counts of a row that `operational_traffic` looks at; a count that a row does not have is
zero. -/
structure TrafficFacts where
  status : String
  errorWork : ℕ := 0
  pendingGates : ℕ
  rejectedGates : ℕ
  timedOutGates : ℕ
  activeIncidents : ℕ
  terminalIncidents : ℕ
  pendingRecovery : ℕ
  failedRecovery : ℕ
  failedInstances : ℕ := 0
  staleInstances : ℕ := 0
  delayedInstances : ℕ := 0
  overdueClaims : ℕ
  overdueAcceptances : ℕ
  /-- `oldest_ready_age_seconds`, in microseconds. -/
  queueAge : Option Time

def queueAmber : TrafficReason := ⟨.amber, "queue.wait_over_60_seconds"⟩

def queueRed : TrafficReason := ⟨.red, "queue.wait_over_120_seconds"⟩

/-- `_queue_reasons`. -/
def queueReasons : Option Time → List TrafficReason
  | none => []
  | some age =>
    if seconds 120 ≤ age then [queueRed] else if seconds 60 ≤ age then [queueAmber] else []

/-- The conditions of `operational_traffic` with their reasons. -/
def operationalChecks (f : TrafficFacts) (paused : Bool) : List (Bool × TrafficReason) :=
  let actionable := f.status ≠ "completed"
  [(f.status = "error" || f.errorWork ≠ 0, ⟨.red, "work.error"⟩),
    (actionable && f.timedOutGates ≠ 0, ⟨.red, "gate.timed_out"⟩),
    (actionable && f.rejectedGates ≠ 0, ⟨.red, "gate.rejected"⟩),
    (f.failedRecovery ≠ 0, ⟨.red, "recovery.failed"⟩),
    (f.terminalIncidents ≠ 0, ⟨.red, "incident.terminal"⟩),
    (f.failedInstances ≠ 0, ⟨.red, "fleet.instance_failed"⟩),
    (f.staleInstances ≠ 0, ⟨.red, "fleet.heartbeat_stale"⟩),
    (f.overdueClaims ≠ 0, ⟨.red, "handoff.claim_overdue"⟩),
    (f.overdueAcceptances ≠ 0, ⟨.red, "handoff.acceptance_overdue"⟩),
    (paused, ⟨.amber, "project.paused"⟩),
    (actionable && f.pendingGates ≠ 0, ⟨.amber, "gate.pending"⟩),
    (f.activeIncidents ≠ 0, ⟨.amber, "incident.active"⟩),
    (f.pendingRecovery ≠ 0, ⟨.amber, "recovery.pending"⟩),
    (f.delayedInstances ≠ 0, ⟨.amber, "fleet.heartbeat_delayed"⟩)]

/-- The reasons of the conditions that are met. -/
def metReasons (checks : List (Bool × TrafficReason)) : List TrafficReason :=
  (checks.filter Prod.fst).map Prod.snd

def operationalReasons (f : TrafficFacts) (paused : Bool) : List TrafficReason :=
  queueReasons f.queueAge ++ metReasons (operationalChecks f paused)

/-- `operational_traffic`. -/
def operationalTraffic (f : TrafficFacts) (paused : Bool) : TrafficStatus :=
  trafficStatus (operationalReasons f paused)

/-! ## The two reads -/

/-- The columns of `role_instances` that the project row counts. -/
structure InstanceReading where
  projectId : String
  status : String
  lastLifecycleError : Option String
  heartbeatAt : Option Time

namespace InstanceReading

variable (i : InstanceReading) (now : Time)

def Failed : Prop := i.status = "failed" ∨ i.status = "error" ∨ i.lastLifecycleError ≠ none

/-- The last heartbeat of a running instance is some time ago. -/
def Silent (age : Time) : Prop := i.status = "running" ∧ ∃ t ∈ i.heartbeatAt, t + age ≤ now

instance : Decidable i.Failed := inferInstanceAs (Decidable (_ ∨ _ ∨ _))

instance (age : Time) : Decidable (i.Silent now age) := inferInstanceAs (Decidable (_ ∧ _))

end InstanceReading

/-- `status = 'offered' AND queued_at + interval '90 seconds' < now`. -/
def Handoff.ClaimOverdue (h : Handoff) (now : Time) : Prop :=
  h.status = .offered ∧ h.queuedAt + seconds 90 < now

/-- `status = 'claimed' AND claimed_at + interval '120 seconds' < now`. -/
def Handoff.AcceptanceOverdue (h : Handoff) (now : Time) : Prop :=
  h.status.isAccepted = false ∧ ∃ t ∈ h.status.target?, t.claimedAt + seconds 120 < now

instance (h : Handoff) (now : Time) : Decidable (h.ClaimOverdue now) :=
  inferInstanceAs (Decidable (_ ∧ _))

instance (h : Handoff) (now : Time) : Decidable (h.AcceptanceOverdue now) :=
  inferInstanceAs (Decidable (_ ∧ _))

/-- `status IN ('terminal_eligible', 'terminal')`. -/
def IncidentStatus.isTerminal : IncidentStatus → Bool
  | terminalEligible => true
  | terminal => true
  | _ => false

def GateStatus.isPending (s : GateStatus) : Bool := s = .pending

def GateStatus.isRejected : GateStatus → Bool
  | rejected _ => true
  | _ => false

def GateStatus.isTimedOut : GateStatus → Bool
  | timedOut _ => true
  | _ => false

namespace DashboardReadStore

/-- The time since the oldest item of some work became ready. -/
def oldestReadyAge (db : Db) (now : Time) (work : String × String → Prop) [DecidablePred work] :
    Option Time :=
  let ready := db.queueItems.select fun i =>
    work i.workKey ∧ i.status = .ready ∧ i.availableAt ≤ now
  ((ready.map QueueItem.availableAt).min?).map (now - ·)

/-- How many gates of some work have some status. -/
def gateCount (db : Db) (gated : String × String → Prop) [DecidablePred gated]
    (status : GateStatus → Bool) : ℕ :=
  (db.gates.select fun g => gated g.workKey ∧ status g.status = true).length

/-- What both reads count for some work; the gates may be those of other work. -/
def countFacts (db : Db) (now : Time) (status : String) (work gated : String × String → Prop)
    [DecidablePred work] [DecidablePred gated] : TrafficFacts where
  status := status
  pendingGates := gateCount db gated GateStatus.isPending
  rejectedGates := gateCount db gated GateStatus.isRejected
  timedOutGates := gateCount db gated GateStatus.isTimedOut
  activeIncidents :=
    (db.incidents.select fun i => work i.workKey ∧ i.status.isActive = true).length
  terminalIncidents :=
    (db.incidents.select fun i => work i.workKey ∧ i.status.isTerminal = true).length
  pendingRecovery :=
    (db.recoveryRequests.select fun r => work r.workKey ∧ r.status = .pending).length
  failedRecovery :=
    (db.recoveryRequests.select fun r => work r.workKey ∧ r.status = .failed).length
  overdueClaims := (db.handoffs.select fun h => work h.workKey ∧ h.ClaimOverdue now).length
  overdueAcceptances :=
    (db.handoffs.select fun h => work h.workKey ∧ h.AcceptanceOverdue now).length
  queueAge := oldestReadyAge db now work

/-- `item.status IN ('new', 'active')` of the work item that a gate is joined with. -/
def Open (db : Db) (key : String × String) : Prop :=
  ∃ w ∈ db.workItems.rows, w.key = key ∧ (w.status = .new ∨ w.status = .active)

instance (db : Db) : DecidablePred (Open db) := fun _ => inferInstanceAs (Decidable (∃ _ ∈ _, _))

/-- The row of a project in `portfolio`. -/
def portfolioFacts (db : Db) (fleet : List InstanceReading) (now : Time) (p : Project) :
    TrafficFacts :=
  let instances := fleet.filter fun i => i.projectId = p.projectId
  { countFacts db now p.status (fun k => k.1 = p.projectId)
      (fun k => k.1 = p.projectId ∧ Open db k) with
    errorWork :=
      (db.workItems.select fun w => w.projectId = p.projectId ∧ w.status = .error).length
    failedInstances := instances.countP fun i => i.Failed
    staleInstances := instances.countP fun i => i.Silent now (seconds 120)
    delayedInstances := instances.countP fun i =>
      i.Silent now (seconds 60) ∧ ¬ i.Silent now (seconds 120) }

/-- `_portfolio_item`. -/
def portfolioTraffic (db : Db) (fleet : List InstanceReading) (now : Time) (p : Project) :
    TrafficStatus :=
  operationalTraffic (portfolioFacts db fleet now p) (p.status = "paused")

/-- `portfolio`. -/
def portfolio (db : Db) (fleet : List InstanceReading) (now : Time)
    (allowedProjects : List String) : List (Project × TrafficStatus) :=
  let projects := db.projects.select fun p =>
    "*" ∈ allowedProjects ∨ p.projectId ∈ allowedProjects
  (sortedBy Project.projectId projects).map fun p => (p, portfolioTraffic db fleet now p)

/-- `_work_item`. -/
def workTraffic (db : Db) (now : Time) (w : WorkItem) : TrafficStatus :=
  operationalTraffic (countFacts db now w.status.text (· = w.key) (· = w.key)) false

/-- The items that `work` pages through. -/
def work (db : Db) (now : Time) (projectId : String) : List (WorkItem × TrafficStatus) :=
  (db.workItems.select fun w => w.projectId = projectId).map fun w => (w, workTraffic db now w)

end DashboardReadStore

/-! ## What a project shows -/

open DashboardReadStore

/-- A reason is shown, or the more severe one of the queue. -/
def Shown (r : TrafficReason) (reasons : List TrafficReason) : Prop :=
  r ∈ reasons ∨ r = queueAmber ∧ queueRed ∈ reasons

/-- A project's light is not less severe than those of its work items, and its reasons cover theirs,
except those of completed work. -/
def RollsUp (db : Db) (fleet : List InstanceReading) (now : Time) : Prop :=
  ∀ allowedProjects, ∀ row ∈ portfolio db fleet now allowedProjects,
    ∀ item ∈ work db now row.1.projectId,
      item.2.light.severity ≤ row.2.light.severity ∧
        (item.1.status ≠ .completed → ∀ r ∈ item.2.reasons, Shown r row.2.reasons)

/-- A project shows gates of some status when one of its work items does that is not completed. -/
def GatesCounted (db : Db) (status : GateStatus → Bool) : Prop :=
  ∀ p ∈ db.projects.rows, ∀ w ∈ db.workItems.rows, w.projectId = p.projectId →
    w.status ≠ .completed → ∀ g ∈ db.gates.rows, g.workKey = w.key → status g.status = true →
      p.status ≠ "completed" ∧ ∃ h ∈ db.gates.rows, h.projectId = p.projectId ∧
        Open db h.workKey ∧ status h.status = true

/-! ## Lights and reasons -/

section Reasons

variable {reasons reasons' : List TrafficReason} {r : TrafficReason}

@[simp] lemma mem_reasons_trafficStatus : r ∈ (trafficStatus reasons).reasons ↔ r ∈ reasons := by
  simp [trafficStatus]

/-- The light is red for a red reason, and amber for any other one. -/
lemma trafficStatus_light_cases (reasons : List TrafficReason) :
    ((trafficStatus reasons).light = .red ∧ ∃ r ∈ reasons, r.severity = .red) ∨
      ((trafficStatus reasons).light = .amber ∧ (∀ r ∈ reasons, r.severity ≠ .red) ∧
        reasons ≠ []) ∨
      (trafficStatus reasons).light = .green ∧ reasons = [] := by
  have hmem : ∀ r, r ∈ sortedBy TrafficReason.key reasons.dedup ↔ r ∈ reasons := by simp
  have hnil : sortedBy TrafficReason.key reasons.dedup = [] ↔ reasons = [] := by
    rw [sortedBy_eq_nil, List.eq_nil_iff_forall_not_mem, List.eq_nil_iff_forall_not_mem]
    simp
  simp only [trafficStatus, hmem]
  by_cases hred : ∃ r ∈ reasons, r.severity = .red
  · exact .inl ⟨if_pos hred, hred⟩
  · rw [if_neg hred]
    by_cases hempty : reasons = []
    · rw [if_neg (not_not.2 (hnil.2 hempty))]
      exact .inr (.inr ⟨rfl, hempty⟩)
    · rw [if_pos fun h => hempty (hnil.1 h)]
      exact .inr (.inl ⟨rfl, fun r hr h => hred ⟨r, hr, h⟩, hempty⟩)

/-- **Severity.**  Reasons that are all shown among others have no more severe light. -/
theorem severity_le_of_shown (h : ∀ r ∈ reasons, Shown r reasons') :
    (trafficStatus reasons).light.severity ≤ (trafficStatus reasons').light.severity := by
  have hred : ∀ r ∈ reasons, r.severity = .red → ∃ r' ∈ reasons', r'.severity = .red := by
    intro r hr hsev
    rcases h r hr with hmem | ⟨rfl, -⟩
    · exact ⟨r, hmem, hsev⟩
    · cases hsev
  have hsome : reasons ≠ [] → reasons' ≠ [] := by
    rintro hne rfl
    obtain ⟨r, hr⟩ := List.exists_mem_of_ne_nil reasons hne
    rcases h r hr with hmem | ⟨-, hmem⟩
    · exact absurd hmem List.not_mem_nil
    · exact absurd hmem List.not_mem_nil
  rcases trafficStatus_light_cases reasons with ⟨hl, r, hr, hsev⟩ | ⟨hl, -, hne⟩ | ⟨hl, -⟩
  · obtain ⟨r', hr', hsev'⟩ := hred r hr hsev
    rcases trafficStatus_light_cases reasons' with ⟨hl', -⟩ | ⟨-, hnone, -⟩ | ⟨-, hempty⟩
    · rw [hl, hl']
    · exact absurd hsev' (hnone r' hr')
    · exact absurd (hempty ▸ hr') List.not_mem_nil
  · rcases trafficStatus_light_cases reasons' with ⟨hl', -⟩ | ⟨hl', -⟩ | ⟨-, hempty⟩
    · rw [hl, hl']
      decide
    · rw [hl, hl']
    · exact absurd hempty (hsome hne)
  · rw [hl]
    exact Nat.zero_le _

end Reasons

/-! ## More counts give more reasons -/

section Facts

variable {f g : TrafficFacts} {paused : Bool} {r : TrafficReason}

lemma mem_metReasons {checks : List (Bool × TrafficReason)} :
    r ∈ metReasons checks ↔ (true, r) ∈ checks := by
  simp only [metReasons, List.mem_map, List.mem_filter]
  constructor
  · rintro ⟨⟨met, r⟩, ⟨hmem, hmet⟩, rfl⟩
    obtain rfl : met = true := hmet
    exact hmem
  · intro h
    exact ⟨(true, r), ⟨h, rfl⟩, rfl⟩

/-- Conditions that are met one by one where others are. -/
lemma metReasons_mono {checks checks' : List (Bool × TrafficReason)}
    (h : List.Forall₂ (fun a b => a.2 = b.2 ∧ (a.1 = true → b.1 = true)) checks checks')
    (hr : r ∈ metReasons checks) : r ∈ metReasons checks' := by
  rw [mem_metReasons] at hr ⊢
  induction h with
  | nil => exact hr
  | @cons a b checks checks' hab _ ih =>
    rcases List.mem_cons.1 hr with rfl | hr
    · obtain ⟨hreason, hmet⟩ := hab
      have hb : b = (true, r) := Prod.ext (hmet rfl) hreason.symm
      exact hb ▸ List.mem_cons_self
    · exact List.mem_cons_of_mem _ (ih hr)

/-- What one row counts the other one counts as well. -/
structure CountedBy (f g : TrafficFacts) : Prop where
  errorWork : f.status = "error" ∨ f.errorWork ≠ 0 → g.status = "error" ∨ g.errorWork ≠ 0
  timedOutGates : f.status ≠ "completed" ∧ f.timedOutGates ≠ 0 →
    g.status ≠ "completed" ∧ g.timedOutGates ≠ 0
  rejectedGates : f.status ≠ "completed" ∧ f.rejectedGates ≠ 0 →
    g.status ≠ "completed" ∧ g.rejectedGates ≠ 0
  pendingGates : f.status ≠ "completed" ∧ f.pendingGates ≠ 0 →
    g.status ≠ "completed" ∧ g.pendingGates ≠ 0
  activeIncidents : f.activeIncidents ≠ 0 → g.activeIncidents ≠ 0
  terminalIncidents : f.terminalIncidents ≠ 0 → g.terminalIncidents ≠ 0
  pendingRecovery : f.pendingRecovery ≠ 0 → g.pendingRecovery ≠ 0
  failedRecovery : f.failedRecovery ≠ 0 → g.failedRecovery ≠ 0
  failedInstances : f.failedInstances ≠ 0 → g.failedInstances ≠ 0
  staleInstances : f.staleInstances ≠ 0 → g.staleInstances ≠ 0
  delayedInstances : f.delayedInstances ≠ 0 → g.delayedInstances ≠ 0
  overdueClaims : f.overdueClaims ≠ 0 → g.overdueClaims ≠ 0
  overdueAcceptances : f.overdueAcceptances ≠ 0 → g.overdueAcceptances ≠ 0
  queueAge : ∀ a ∈ f.queueAge, ∃ b ∈ g.queueAge, a ≤ b

lemma queueReasons_shown {a b : Option Time} (h : ∀ x ∈ a, ∃ y ∈ b, x ≤ y)
    (hr : r ∈ queueReasons a) : Shown r (queueReasons b) := by
  cases a with
  | none => exact absurd hr List.not_mem_nil
  | some x =>
    obtain ⟨y, hy, hle⟩ := h x rfl
    obtain rfl : b = some y := hy
    simp only [queueReasons] at hr ⊢
    split at hr
    · next hred =>
      rw [if_pos (hred.trans hle)]
      exact .inl hr
    · split at hr
      · next hamber =>
        obtain rfl : r = queueAmber := List.mem_singleton.1 hr
        by_cases hy : seconds 120 ≤ y
        · rw [if_pos hy]
          exact .inr ⟨rfl, List.mem_singleton_self _⟩
        · rw [if_neg hy, if_pos (hamber.trans hle)]
          exact .inl (List.mem_singleton_self _)
      · exact absurd hr List.not_mem_nil

lemma Shown.append_left {reasons : List TrafficReason} (h : Shown r reasons)
    (others : List TrafficReason) : Shown r (reasons ++ others) :=
  h.imp (List.mem_append_left _) fun h => ⟨h.1, List.mem_append_left _ h.2⟩

/-- **Reasons.**  What a row counts is shown for a row that counts it as well. -/
theorem CountedBy.shown (h : CountedBy f g) (hr : r ∈ operationalReasons f false) :
    Shown r (operationalReasons g paused) := by
  rcases List.mem_append.1 hr with hr | hr
  · exact (queueReasons_shown h.queueAge hr).append_left _
  · refine .inl (List.mem_append_right _ (metReasons_mono ?_ hr))
    have hne : ∀ {m n : ℕ}, (m ≠ 0 → n ≠ 0) → (m ≠ 0 : Bool) = true → (n ≠ 0 : Bool) = true := by
      intro m n hmn hm
      exact decide_eq_true (hmn (of_decide_eq_true hm))
    refine .cons ⟨rfl, ?_⟩ (.cons ⟨rfl, ?_⟩ (.cons ⟨rfl, ?_⟩ (.cons ⟨rfl, hne h.failedRecovery⟩
      (.cons ⟨rfl, hne h.terminalIncidents⟩ (.cons ⟨rfl, hne h.failedInstances⟩
      (.cons ⟨rfl, hne h.staleInstances⟩ (.cons ⟨rfl, hne h.overdueClaims⟩
      (.cons ⟨rfl, hne h.overdueAcceptances⟩ (.cons ⟨rfl, by simp⟩ (.cons ⟨rfl, ?_⟩
      (.cons ⟨rfl, hne h.activeIncidents⟩ (.cons ⟨rfl, hne h.pendingRecovery⟩
      (.cons ⟨rfl, hne h.delayedInstances⟩ .nil)))))))))))))
    · simpa using h.errorWork
    · simpa using h.timedOutGates
    · simpa using h.rejectedGates
    · simpa using h.pendingGates

/-- The reasons for gates are those of their counts. -/
lemma gate_reasons (f : TrafficFacts) (paused : Bool) :
    (⟨.amber, "gate.pending"⟩ ∈ operationalReasons f paused ↔
      f.status ≠ "completed" ∧ f.pendingGates ≠ 0) ∧
    (⟨.red, "gate.rejected"⟩ ∈ operationalReasons f paused ↔
      f.status ≠ "completed" ∧ f.rejectedGates ≠ 0) ∧
    (⟨.red, "gate.timed_out"⟩ ∈ operationalReasons f paused ↔
      f.status ≠ "completed" ∧ f.timedOutGates ≠ 0) := by
  have hqueue : ∀ r ∈ queueReasons f.queueAge, r = queueAmber ∨ r = queueRed := by
    intro r hr
    cases hage : f.queueAge with
    | none =>
      rw [hage] at hr
      exact absurd hr List.not_mem_nil
    | some age =>
      rw [hage, queueReasons] at hr
      split at hr
      · exact .inr (List.mem_singleton.1 hr)
      · split at hr
        · exact .inl (List.mem_singleton.1 hr)
        · exact absurd hr List.not_mem_nil
  have hmet : ∀ r, r ≠ queueAmber → r ≠ queueRed → (r ∈ operationalReasons f paused ↔
      (true, r) ∈ operationalChecks f paused) := by
    intro r hamber hred
    rw [operationalReasons, List.mem_append, mem_metReasons]
    exact or_iff_right fun h => (hqueue r h).elim hamber hred
  refine ⟨?_, ?_, ?_⟩
  · rw [hmet _ (by decide) (by decide)]
    simp [operationalChecks]
  · rw [hmet _ (by decide) (by decide)]
    simp [operationalChecks]
  · rw [hmet _ (by decide) (by decide)]
    simp [operationalChecks]

end Facts

/-! ## The rows of a project and of a work item -/

namespace DashboardReadStore

section Counts

variable {Row Key : Type} {key : Row → Key} {t : Table Row key}

/-- A count is not zero when a row is counted. -/
lemma count_ne_zero {p : Row → Prop} [DecidablePred p] :
    (t.select p).length ≠ 0 ↔ ∃ r ∈ t.rows, p r := by
  rw [Ne, List.length_eq_zero_iff, List.eq_nil_iff_forall_not_mem]
  simp only [Table.mem_select, not_forall, not_not]
  constructor
  · rintro ⟨r, hr, hp⟩
    exact ⟨r, hr, hp⟩
  · rintro ⟨r, hr, hp⟩
    exact ⟨r, hr, hp⟩

/-- A wider condition counts what a narrower one counts. -/
lemma count_mono {p q : Row → Prop} [DecidablePred p] [DecidablePred q]
    (h : ∀ r ∈ t.rows, p r → q r) : (t.select p).length ≠ 0 → (t.select q).length ≠ 0 := by
  rw [count_ne_zero, count_ne_zero]
  rintro ⟨r, hr, hp⟩
  exact ⟨r, hr, h r hr hp⟩

end Counts

variable {db : Db} {fleet : List InstanceReading} {now : Time} {p : Project} {w : WorkItem}

/-- More work has waited at least as long. -/
lemma oldestReadyAge_mono {work work' : String × String → Prop} [DecidablePred work]
    [DecidablePred work'] (h : ∀ k, work k → work' k) :
    ∀ a ∈ oldestReadyAge db now work, ∃ b ∈ oldestReadyAge db now work', a ≤ b := by
  intro a ha
  obtain ⟨first, hfirst, rfl⟩ := Option.map_eq_some_iff.1 ha
  obtain ⟨hmem, -⟩ := List.min?_eq_some_iff.1 hfirst
  obtain ⟨i, hi, hready⟩ := List.mem_map.1 hmem
  rw [Table.mem_select] at hi
  have hmem' : first ∈ (db.queueItems.select fun i =>
      work' i.workKey ∧ i.status = .ready ∧ i.availableAt ≤ now).map QueueItem.availableAt :=
    List.mem_map.2 ⟨i, Table.mem_select.2 ⟨hi.1, h _ hi.2.1, hi.2.2⟩, hready⟩
  cases hmin : ((db.queueItems.select fun i =>
      work' i.workKey ∧ i.status = .ready ∧
        i.availableAt ≤ now).map QueueItem.availableAt).min? with
  | none =>
    rw [List.min?_eq_none_iff.1 hmin] at hmem'
    exact absurd hmem' List.not_mem_nil
  | some first' =>
    have hle : first' ≤ first := (List.min?_eq_some_iff.1 hmin).2 first hmem'
    exact ⟨now - first', Option.map_eq_some_iff.2 ⟨first', hmin, rfl⟩, Nat.sub_le_sub_left hle now⟩

/-- The project shows the gates of a work item. -/
def GatesShown (db : Db) (p : Project) (w : WorkItem) (status : GateStatus → Bool) : Prop :=
  w.status ≠ .completed → (∃ g ∈ db.gates.rows, g.workKey = w.key ∧ status g.status = true) →
    p.status ≠ "completed" ∧ ∃ h ∈ db.gates.rows, (h.projectId = p.projectId ∧
      Open db h.workKey) ∧ status h.status = true

lemma gatesCounted_iff {status : GateStatus → Bool} :
    GatesCounted db status ↔ ∀ p ∈ db.projects.rows, ∀ w ∈ db.workItems.rows,
      w.projectId = p.projectId → GatesShown db p w status := by
  simp only [GatesCounted, GatesShown, and_assoc]
  constructor
  · rintro h p hp w hw hwork hopen ⟨g, hg, hkey, hstatus⟩
    exact h p hp w hw hwork hopen g hg hkey hstatus
  · intro h p hp w hw hwork hopen g hg hkey hstatus
    exact h p hp w hw hwork hopen ⟨g, hg, hkey, hstatus⟩

lemma text_eq_completed {s : WorkStatus} : s.text = "completed" ↔ s = .completed := by
  cases s <;> decide

lemma text_eq_error {s : WorkStatus} : s.text = "error" ↔ s = .error := by
  cases s <;> decide

lemma gateCount_ne_zero {gated : String × String → Prop} [DecidablePred gated]
    {status : GateStatus → Bool} : gateCount db gated status ≠ 0 ↔
      ∃ g ∈ db.gates.rows, gated g.workKey ∧ status g.status = true := count_ne_zero

/-- The project shows the gates of an item when its count of them does. -/
lemma gatesShown_iff {status : GateStatus → Bool} : GatesShown db p w status ↔
    (w.status.text ≠ "completed" ∧ gateCount db (· = w.key) status ≠ 0 →
      p.status ≠ "completed" ∧
        gateCount db (fun k => k.1 = p.projectId ∧ Open db k) status ≠ 0) := by
  rw [Ne, text_eq_completed, gateCount_ne_zero, gateCount_ne_zero]
  exact ⟨fun h hitem => h hitem.1 hitem.2, fun h hopen hgate => h ⟨hopen, hgate⟩⟩

/-- What a work item counts its project counts, when it shows the gates of the item. -/
lemma countedBy_portfolio (hw : w ∈ db.workItems) (hwork : w.projectId = p.projectId)
    (hpending : GatesShown db p w GateStatus.isPending)
    (hrejected : GatesShown db p w GateStatus.isRejected)
    (htimedOut : GatesShown db p w GateStatus.isTimedOut) :
    CountedBy (countFacts db now w.status.text (· = w.key) (· = w.key))
      (portfolioFacts db fleet now p) := by
  have hscope : ∀ k : String × String, k = w.key → k.1 = p.projectId := by
    rintro k rfl
    exact hwork
  exact {
    errorWork := by
      rintro (herror | hnone)
      · refine .inr (count_ne_zero.2 ⟨w, hw, hwork, text_eq_error.1 herror⟩)
      · exact absurd rfl hnone
    timedOutGates := gatesShown_iff.1 htimedOut
    rejectedGates := gatesShown_iff.1 hrejected
    pendingGates := gatesShown_iff.1 hpending
    activeIncidents := count_mono fun i _ h => ⟨hscope _ h.1, h.2⟩
    terminalIncidents := count_mono fun i _ h => ⟨hscope _ h.1, h.2⟩
    pendingRecovery := count_mono fun r _ h => ⟨hscope _ h.1, h.2⟩
    failedRecovery := count_mono fun r _ h => ⟨hscope _ h.1, h.2⟩
    failedInstances := fun h => absurd rfl h
    staleInstances := fun h => absurd rfl h
    delayedInstances := fun h => absurd rfl h
    overdueClaims := count_mono fun h _ hh => ⟨hscope _ hh.1, hh.2⟩
    overdueAcceptances := count_mono fun h _ hh => ⟨hscope _ hh.1, hh.2⟩
    queueAge := oldestReadyAge_mono hscope }

lemma mem_portfolio_all {row : Project × TrafficStatus} :
    row ∈ portfolio db fleet now ["*"] ↔
      ∃ p ∈ db.projects.rows, row = (p, portfolioTraffic db fleet now p) := by
  simp only [portfolio, List.mem_map, mem_sortedBy, Table.mem_select]
  constructor
  · rintro ⟨p, ⟨hp, -⟩, rfl⟩
    exact ⟨p, hp, rfl⟩
  · rintro ⟨p, hp, rfl⟩
    exact ⟨p, ⟨hp, .inl (List.mem_singleton_self _)⟩, rfl⟩

end DashboardReadStore

open DashboardReadStore

/-- **The roll-up of the dashboard.**  In every state, the projects show what their work items show
exactly when they show their gates. -/
theorem dashboard_rolls_up (db : Db) (fleet : List InstanceReading) (now : Time) :
    RollsUp db fleet now ↔ GatesCounted db GateStatus.isPending ∧
      GatesCounted db GateStatus.isRejected ∧ GatesCounted db GateStatus.isTimedOut := by
  simp only [gatesCounted_iff]
  constructor
  · intro h
    have hrow : ∀ p ∈ db.projects.rows, ∀ w ∈ db.workItems.rows, w.projectId = p.projectId →
        w.status ≠ .completed → ∀ r ∈ (workTraffic db now w).reasons,
          Shown r (portfolioTraffic db fleet now p).reasons := by
      intro p hp w hw hwork hopen
      refine (h ["*"] _ (mem_portfolio_all.2 ⟨p, hp, rfl⟩) (w, workTraffic db now w) ?_).2 hopen
      exact List.mem_map.2 ⟨w, Table.mem_select.2 ⟨hw, hwork⟩, rfl⟩
    have hshown : ∀ p ∈ db.projects.rows, ∀ w ∈ db.workItems.rows, w.projectId = p.projectId →
        w.status ≠ .completed → ∀ r, r ≠ queueAmber →
          r ∈ operationalReasons (countFacts db now w.status.text (· = w.key) (· = w.key)) false →
            r ∈ operationalReasons (portfolioFacts db fleet now p) (p.status = "paused") := by
      intro p hp w hw hwork hopen r hqueue hr
      have hr' := hrow p hp w hw hwork hopen r (mem_reasons_trafficStatus.2 hr)
      rcases hr' with hr' | ⟨hr', -⟩
      · exact mem_reasons_trafficStatus.1 hr'
      · exact absurd hr' hqueue
    refine ⟨?_, ?_, ?_⟩
    · intro p hp w hw hwork
      refine gatesShown_iff.2 fun hitem =>
        (gate_reasons (portfolioFacts db fleet now p) (p.status = "paused")).1.1 ?_
      exact hshown p hp w hw hwork (mt text_eq_completed.2 hitem.1) _ (by decide)
        ((gate_reasons _ _).1.2 hitem)
    · intro p hp w hw hwork
      refine gatesShown_iff.2 fun hitem =>
        (gate_reasons (portfolioFacts db fleet now p) (p.status = "paused")).2.1.1 ?_
      exact hshown p hp w hw hwork (mt text_eq_completed.2 hitem.1) _ (by decide)
        ((gate_reasons _ _).2.1.2 hitem)
    · intro p hp w hw hwork
      refine gatesShown_iff.2 fun hitem =>
        (gate_reasons (portfolioFacts db fleet now p) (p.status = "paused")).2.2.1 ?_
      exact hshown p hp w hw hwork (mt text_eq_completed.2 hitem.1) _ (by decide)
        ((gate_reasons _ _).2.2.2 hitem)
  · rintro ⟨hpending, hrejected, htimedOut⟩ allowed row hrow item hitem
    obtain ⟨p, hp, rfl⟩ := List.mem_map.1 hrow
    obtain ⟨w, hw, rfl⟩ := List.mem_map.1 hitem
    rw [mem_sortedBy, Table.mem_select] at hp
    rw [Table.mem_select] at hw
    have hcounted : CountedBy (countFacts db now w.status.text (· = w.key) (· = w.key))
        (portfolioFacts db fleet now p) :=
      countedBy_portfolio hw.1 hw.2 (hpending p hp.1 w hw.1 hw.2) (hrejected p hp.1 w hw.1 hw.2)
        (htimedOut p hp.1 w hw.1 hw.2)
    have hshown : ∀ r ∈ operationalReasons
        (countFacts db now w.status.text (· = w.key) (· = w.key)) false,
          Shown r (operationalReasons (portfolioFacts db fleet now p) (p.status = "paused")) :=
      fun r hr => hcounted.shown hr
    refine ⟨severity_le_of_shown hshown, fun _ r hr => ?_⟩
    refine (hshown r (mem_reasons_trafficStatus.1 hr)).imp mem_reasons_trafficStatus.2 fun h => ?_
    exact ⟨h.1, mem_reasons_trafficStatus.2 h.2⟩

end AgenticMesh
