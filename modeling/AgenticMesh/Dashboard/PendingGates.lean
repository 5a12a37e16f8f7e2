import AgenticMesh.Base.Run
import AgenticMesh.Dashboard.Traffic

/-!
# Pending gates and the portfolio

A run of the lifecycle store keeps every pending gate on a gated work item, and
no two on one item.  The portfolio counts the gates of new and active items, so
it never shows a pending gate.
-/

namespace AgenticMesh

open DashboardReadStore LifecycleStore

/-- A call of `LifecycleStore`, or a step of another store. -/
inductive LifecycleEvent where
  | createProject (projectId displayName : String) (sponsorIds : List String)
  | createWorkItem (r : WorkItemRequest)
  | transitionWorkItem (r : TransitionRequest)
  | openGate (r : GateRequest) (now : Time)
  | decideGate (r : DecisionRequest)
  /-- The other stores write their own tables. -/
  | elsewhere (db : Db)

/-- The database after a step; a rejected call is rolled back. -/
def LifecycleEvent.step (db : Db) : LifecycleEvent → Db
  | createProject p name sponsors => (LifecycleStore.createProject p name sponsors).commit db
  | createWorkItem r => (LifecycleStore.createWorkItem r).commit db
  | transitionWorkItem r => (LifecycleStore.transitionWorkItem r).commit db
  | openGate r now => (LifecycleStore.openGate r now).commit db
  | decideGate r => (LifecycleStore.decideGate r).commit db
  | elsewhere db' =>
    { db' with
      projects := db.projects, sponsors := db.sponsors, workItems := db.workItems
      gates := db.gates, approvals := db.approvals }

/-- No direct transition leaves a gate. -/
lemma LifecycleStore.Transitioned.not_gated {r : TransitionRequest} {w : WorkItem} {db : Db}
    (h : Transitioned r w db) : w.status ≠ .gated := by
  intro hgated
  have hallowed := h.allowed
  rw [hgated] at hallowed
  exact absurd hallowed List.not_mem_nil

/-- No direct transition enters a gate. -/
lemma LifecycleStore.Transitioned.target_not_gated {r : TransitionRequest} {w : WorkItem}
    {db : Db} (h : Transitioned r w db) : r.targetStatus ≠ .gated := by
  intro hgated
  have hallowed := h.allowed
  rw [hgated] at hallowed
  cases hw : w.status <;> simp [hw, WorkStatus.directTransitions] at hallowed

/-- A pending gate is the only one of its work item, which is gated. -/
structure GateInv (db : Db) : Prop where
  gated : ∀ g ∈ db.gates, g.status = .pending →
    ∃ w ∈ db.workItems, w.key = g.workKey ∧ w.status = .gated
  single : ∀ g ∈ db.gates, ∀ h ∈ db.gates, g.status = .pending → h.status = .pending →
    g.workKey = h.workKey → g = h

namespace GateInv

variable {db db' : Db}

lemma empty : GateInv {} where
  gated g hg := absurd hg (Table.notMem_empty g)
  single g hg := absurd hg (Table.notMem_empty g)

lemma of_eq (hinv : GateInv db) (hwork : db'.workItems = db.workItems)
    (hgates : db'.gates = db.gates) : GateInv db' where
  gated g hg := by
    rw [hgates] at hg
    rw [hwork]
    exact hinv.gated g hg
  single g hg h hh := by
    rw [hgates] at hg hh
    exact hinv.single g hg h hh

/-- A work item that is not gated has no pending gate. -/
lemma not_pending (hinv : GateInv db) {w : WorkItem} (hw : w ∈ db.workItems)
    (hstatus : w.status ≠ .gated) {g : Gate} (hg : g ∈ db.gates) (hkey : g.workKey = w.key) :
    g.status ≠ .pending := by
  intro hpending
  obtain ⟨w', hw', hkey', hgated⟩ := hinv.gated g hg hpending
  obtain rfl : w' = w := db.workItems.eq_of_key hw' hw (hkey'.trans hkey)
  exact hstatus hgated

/-- The item of a pending gate stays gated when another one changes. -/
lemma gated_of_update (hinv : GateInv db) {key : String × String}
    {f : Table.Assign WorkItem.key} {g : Gate} (hg : g ∈ db.gates) (hpending : g.status = .pending)
    (hkey : g.workKey ≠ key) :
    ∃ w ∈ (db.updateWork key f).workItems, w.key = g.workKey ∧ w.status = .gated := by
  obtain ⟨w, hw, hwork, hgated⟩ := hinv.gated g hg hpending
  refine ⟨w, Table.mem_update_of_neg hw ?_, hwork, hgated⟩
  rw [hwork]
  exact hkey

/-- A work item that is not gated may change its status. -/
lemma updateWork (hinv : GateInv db) {w : WorkItem} (hw : w ∈ db.workItems)
    (hstatus : w.status ≠ .gated) (f : Table.Assign WorkItem.key) :
    GateInv (db.updateWork w.key f) where
  gated _ hg hpending :=
    hinv.gated_of_update hg hpending fun hkey => hinv.not_pending hw hstatus hg hkey hpending
  single := hinv.single

/-- A new work item leaves the gates alone. -/
lemma created (hinv : GateInv db) {w : WorkItem}
    (hins : db.workItems.insert w = some db'.workItems) (hgates : db'.gates = db.gates) :
    GateInv db' := by
  constructor
  · intro g hg hpending
    rw [hgates] at hg
    obtain ⟨v, hv, hkey, hgated⟩ := hinv.gated g hg hpending
    exact ⟨v, (Table.mem_of_insert hins v).2 (.inl hv), hkey, hgated⟩
  · rw [hgates]
    exact hinv.single

lemma createWorkItem (hinv : GateInv db) {r : WorkItemRequest} {w : WorkItem}
    (h : createWorkItem r db = .ok (w, db')) : GateInv db' := by
  obtain ⟨-, -, hwork⟩ := createWorkItem_ok h
  obtain ⟨workItems, hins, rfl⟩ := Option.map_eq_some_iff.1 hwork
  exact hinv.created hins rfl

lemma transitionWorkItem (hinv : GateInv db) {r : TransitionRequest} {u : Unit}
    (h : transitionWorkItem r db = .ok (u, db')) : GateInv db' := by
  obtain ⟨w, hmoved, reason, hcases⟩ := transitionWorkItem_ok h
  rcases hcases with ⟨-, rfl⟩ | ⟨-, -, rfl⟩ | ⟨-, i, -, -, -, evidence, rfl⟩
  · exact hinv.updateWork hmoved.mem hmoved.not_gated _
  · exact hinv.updateWork hmoved.mem hmoved.not_gated _
  · exact (hinv.updateWork hmoved.mem hmoved.not_gated _).of_eq rfl rfl

/-- An active work item enters a gate. -/
lemma opened (hinv : GateInv db) {w : WorkItem} (hw : w ∈ db.workItems)
    (hactive : w.status = .active) {g : Gate} (hkey : g.workKey = w.key)
    (hins : db.gates.insert g = some db'.gates)
    (hwork : db'.workItems = (db.updateWork w.key (entered .gated)).workItems) : GateInv db' := by
  have hnone : ∀ g' ∈ db.gates, g'.workKey = w.key → g'.status ≠ .pending := by
    intro g' hg' hkey'
    refine hinv.not_pending hw ?_ hg' hkey'
    rw [hactive]
    decide
  constructor
  · intro g' hg' hpending'
    rw [hwork]
    by_cases hkey' : g'.workKey = w.key
    · -- the item of the new gate becomes gated
      refine ⟨_, Table.mem_update_of_pos hw rfl, hkey'.symm, rfl⟩
    · rcases (Table.mem_of_insert hins g').1 hg' with hold | rfl
      · exact hinv.gated_of_update hold hpending' hkey'
      · exact absurd hkey hkey'
  · intro g₁ hg₁ g₂ hg₂ h₁ h₂ hsame
    rcases (Table.mem_of_insert hins g₁).1 hg₁ with hold₁ | rfl
    · rcases (Table.mem_of_insert hins g₂).1 hg₂ with hold₂ | rfl
      · exact hinv.single g₁ hold₁ g₂ hold₂ h₁ h₂ hsame
      · exact absurd h₁ (hnone g₁ hold₁ (hsame.trans hkey))
    · rcases (Table.mem_of_insert hins g₂).1 hg₂ with hold₂ | rfl
      · exact absurd h₂ (hnone g₂ hold₂ (hsame.symm.trans hkey))
      · rfl

/-- A pending gate is resolved, and its work item goes on. -/
lemma resolved (hinv : GateInv db) {g : Gate} (hg : g ∈ db.gates) (hpending : g.status = .pending)
    {status : GateStatus} (hstatus : status ≠ .pending) {w : WorkItem} (hkey : w.key = g.workKey)
    (hwork : db'.workItems = (db.updateWork w.key (entered .active)).workItems)
    (hgates : db'.gates = (db.resolveGate g.key status).gates) : GateInv db' := by
  -- a gate that is still pending is another one
  have hold : ∀ g' ∈ db'.gates, g'.status = .pending → g' ∈ db.gates ∧ g' ≠ g := by
    intro g' hg' hpending'
    rw [hgates] at hg'
    rcases Table.mem_update_cases hg' with ⟨x, hx, -, rfl⟩ | ⟨hmem, hne⟩
    · exact absurd hpending' hstatus
    · exact ⟨hmem, fun heq => hne (congrArg Gate.key heq)⟩
  constructor
  · intro g' hg' hpending'
    obtain ⟨hmem, hne⟩ := hold g' hg' hpending'
    rw [hwork]
    refine hinv.gated_of_update hmem hpending' fun hsame => hne ?_
    exact hinv.single g' hmem g hg hpending' hpending (hsame.trans hkey)
  · intro g₁ hg₁ g₂ hg₂ h₁ h₂ hsame
    exact hinv.single g₁ (hold g₁ hg₁ h₁).1 g₂ (hold g₂ hg₂ h₂).1 h₁ h₂ hsame

lemma openGate (hinv : GateInv db) {r : GateRequest} {now : Time} {g : Gate}
    (h : openGate r now db = .ok (g, db')) : GateInv db' := by
  obtain ⟨w, hw, -, hactive, -, -, hkey, gates, approvals, hins, -, rfl⟩ := openGate_ok h
  exact hinv.opened hw hactive hkey hins rfl

lemma decideGate (hinv : GateInv db) {r : DecisionRequest} {a : Approval}
    (h : decideGate r db = .ok (a, db')) : GateInv db' := by
  obtain ⟨g, hg, -, -, hpending, w, hw, hkey, -, b, -, -, d, rfl⟩ := decideGate_ok h
  have hdecided : decidedStatus d ≠ .pending := by
    unfold decidedStatus
    split <;> simp
  exact hinv.resolved hg hpending hdecided hkey rfl rfl

lemma step (hinv : GateInv db) (e : LifecycleEvent) : GateInv (e.step db) := by
  cases e with
  | createProject p name sponsors =>
    refine Tx.commit_of hinv fun u db' h => ?_
    obtain ⟨projects, sponsors', rfl, -⟩ := createProject_ok h
    exact hinv.of_eq rfl rfl
  | createWorkItem r => exact Tx.commit_of hinv fun w db' h => hinv.createWorkItem h
  | transitionWorkItem r =>
    exact Tx.commit_of hinv fun u db' h => hinv.transitionWorkItem h
  | openGate r now => exact Tx.commit_of hinv fun g db' h => hinv.openGate h
  | decideGate r => exact Tx.commit_of hinv fun a db' h => hinv.decideGate h
  | elsewhere db' => exact hinv.of_eq rfl rfl

lemma run (es : List LifecycleEvent) : GateInv (run LifecycleEvent.step {} es) :=
  invariant_run (fun _ e h => h.step e) empty es

end GateInv

lemma GateInv.not_shown {db : Db} (hinv : GateInv db) (fleet : List InstanceReading) (now : Time)
    (p : Project) :
    ⟨.amber, "gate.pending"⟩ ∉ (portfolioTraffic db fleet now p).reasons := by
  intro hshown
  have hcount : gateCount db (fun k => k.1 = p.projectId ∧ Open db k) GateStatus.isPending ≠ 0 :=
    ((gate_reasons _ _).1.1 (mem_reasons_trafficStatus.1 hshown)).2
  obtain ⟨g, hg, ⟨-, w, hw, hkey, hopen⟩, hpending⟩ := gateCount_ne_zero.1 hcount
  have hstatus : w.status ≠ .gated := by
    rcases hopen with h | h <;> simp [h]
  exact hinv.not_pending hw hstatus hg hkey.symm (of_decide_eq_true hpending)

/-- **The portfolio never shows a pending gate**, although the work items do. -/
theorem portfolio_never_pending (es : List LifecycleEvent) (fleet : List InstanceReading)
    (now : Time) (allowedProjects : List String) :
    ∀ row ∈ portfolio (run LifecycleEvent.step {} es) fleet now allowedProjects,
      ⟨.amber, "gate.pending"⟩ ∉ row.2.reasons := by
  intro row hrow
  obtain ⟨p, -, rfl⟩ := List.mem_map.1 hrow
  exact (GateInv.run es).not_shown fleet now p

/-! ## A gate that waits for its sponsor -/

/-- A work item becomes active and enters a gate. -/
def waitingGate : List LifecycleEvent :=
  [.createProject "p" "P" ["ana"], .elsewhere { roles := .single ⟨"p", "pm", .active⟩ },
    .createWorkItem
      { projectId := "p", workItemId := "a", title := "A", ownerRoleId := "pm", actorId := "pm"
        correlationId := "c" },
    .transitionWorkItem
      { projectId := "p", workItemId := "a", targetStatus := .active, actorId := "pm"
        correlationId := "c", expectedVersion := 1 },
    .openGate
      { projectId := "p", workItemId := "a", gateId := "g", gateType := "release"
        requestedBy := "pm", sponsorIds := ["ana"], correlationId := "c", expectedVersion := 2 } 0]

theorem portfolio_never_pending_waiting :
    ∃ row ∈ portfolio (run LifecycleEvent.step {} waitingGate) [] 0 ["*"],
      ⟨.amber, "gate.pending"⟩ ∉ row.2.reasons := by
  have hprojects : (run LifecycleEvent.step {} waitingGate).projects.rows ≠ [] := by decide
  obtain ⟨p, hp⟩ := List.exists_mem_of_ne_nil _ hprojects
  have hrow : (p, portfolioTraffic (run LifecycleEvent.step {} waitingGate) [] 0 p) ∈
      portfolio (run LifecycleEvent.step {} waitingGate) [] 0 ["*"] :=
    mem_portfolio_all.2 ⟨p, hp, rfl⟩
  exact ⟨_, hrow, portfolio_never_pending waitingGate [] 0 ["*"] _ hrow⟩

/-- The dashboard hides the gate at the project. -/
theorem dashboard_not_rolled_up :
    ¬ ∀ es fleet now, RollsUp (run LifecycleEvent.step {} es) fleet now := by
  intro hclaim
  have hrolls := hclaim waitingGate [] 0
  have hinv := GateInv.run waitingGate
  have hgate : ∃ p ∈ (run LifecycleEvent.step {} waitingGate).projects.rows,
      ∃ w ∈ (run LifecycleEvent.step {} waitingGate).workItems.rows,
        w.projectId = p.projectId ∧ w.status ≠ .completed ∧
          ∃ g ∈ (run LifecycleEvent.step {} waitingGate).gates.rows,
            g.workKey = w.key ∧ g.status.isPending = true := by
    decide
  generalize run LifecycleEvent.step {} waitingGate = db at hrolls hinv hgate
  obtain ⟨p, hp, w, hw, hproject, hopen, hgate⟩ := hgate
  have hreason : ⟨.amber, "gate.pending"⟩ ∈ (workTraffic db 0 w).reasons := by
    rw [workTraffic, operationalTraffic, mem_reasons_trafficStatus]
    have hcount : gateCount db (· = w.key) GateStatus.isPending ≠ 0 := gateCount_ne_zero.2 hgate
    exact (gate_reasons _ _).1.2 ⟨fun h => hopen (text_eq_completed.1 h), hcount⟩
  have hitem : (w, workTraffic db 0 w) ∈ work db 0 p.projectId :=
    List.mem_map.2 ⟨w, Table.mem_select.2 ⟨hw, hproject⟩, rfl⟩
  rcases (hrolls ["*"] _ (mem_portfolio_all.2 ⟨p, hp, rfl⟩) _ hitem).2 hopen _ hreason with
    hshown | ⟨hqueue, -⟩
  · exact hinv.not_shown [] 0 p hshown
  · exact absurd hqueue (by decide)

end AgenticMesh
