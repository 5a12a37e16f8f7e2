import AgenticMesh.Dashboard.PendingGates

/-!
# Gates and the decisions of their sponsors

What a run of the lifecycle store makes of gates: a work item is gated exactly
while one gate of it waits, a gate leaves `pending` by the decision of one
sponsor, and every sponsor who was asked can decide a gate that waits.
-/

namespace AgenticMesh

open LifecycleStore

/-- The gate that an approval belongs to. -/
def Approval.gateOf (a : Approval) : String × String := (a.projectId, a.gateId)

/-- A gate has the status that one of its approvals decided, and the others are undecided. -/
def ResolvedBy (approvals : Table Approval Approval.key) (g : Gate) (a : Approval) : Prop :=
  a.gateOf = g.key ∧ (∃ d, a.decision = some d ∧ g.status = decidedStatus d) ∧
    ∀ b ∈ approvals, b.gateOf = g.key → b.decision ≠ none → b = a

/-- What the store keeps between gates and approvals. -/
structure GateDecisions (gates : Table Gate Gate.key) (approvals : Table Approval Approval.key) :
    Prop where
  normal : ∀ g ∈ gates, required g.projectId = some g.projectId ∧ required g.gateId = some g.gateId
  named : ∀ a ∈ approvals, required a.approverId = some a.approverId
  owned : ∀ a ∈ approvals, ∃ g ∈ gates, g.key = a.gateOf
  asked : ∀ g ∈ gates, ∃ a ∈ approvals, a.gateOf = g.key
  waits : ∀ g ∈ gates, g.status = .pending → ∀ a ∈ approvals, a.gateOf = g.key → a.decision = none
  decided : ∀ g ∈ gates, g.status ≠ .pending → ∃ a ∈ approvals, ResolvedBy approvals g a

namespace GateDecisions

variable {gates gates' : Table Gate Gate.key} {approvals approvals' : Table Approval Approval.key}

lemma empty : GateDecisions ∅ ∅ where
  normal g hg := absurd hg (Table.notMem_empty g)
  named a ha := absurd ha (Table.notMem_empty a)
  owned a ha := absurd ha (Table.notMem_empty a)
  asked g hg := absurd hg (Table.notMem_empty g)
  waits g hg := absurd hg (Table.notMem_empty g)
  decided g hg := absurd hg (Table.notMem_empty g)

/-- A new gate waits for the sponsors that it asks. -/
lemma opened (h : GateDecisions gates approvals) {g : Gate} {sponsors : List String}
    (hins : gates.insert g = some gates') (hpending : g.status = .pending)
    (hnormal : required g.projectId = some g.projectId ∧ required g.gateId = some g.gateId)
    (hne : sponsors ≠ []) (hsponsors : ∀ s ∈ sponsors, required s = some s)
    (happrovals : ∀ a, a ∈ approvals' ↔
      a ∈ approvals ∨ ∃ s ∈ sponsors, a = newApproval g.projectId g.gateId s) :
    GateDecisions gates' approvals' := by
  have hmem := Table.mem_of_insert hins
  -- no approval names the new gate before
  have hfresh : ∀ a ∈ approvals, a.gateOf ≠ g.key := by
    intro a ha hkey
    obtain ⟨g', hg', hkey'⟩ := h.owned a ha
    exact (Table.insert_eq_some.1 hins).1 g' hg' (hkey'.trans hkey)
  constructor
  · intro g' hg'
    rcases (hmem g').1 hg' with hold | rfl
    · exact h.normal g' hold
    · exact hnormal
  · intro a ha
    rcases (happrovals a).1 ha with hold | ⟨s, hs, rfl⟩
    · exact h.named a hold
    · exact hsponsors s hs
  · intro a ha
    rcases (happrovals a).1 ha with hold | ⟨s, hs, rfl⟩
    · obtain ⟨g', hg', hkey⟩ := h.owned a hold
      exact ⟨g', (hmem g').2 (.inl hg'), hkey⟩
    · exact ⟨g, (hmem g).2 (.inr rfl), rfl⟩
  · intro g' hg'
    rcases (hmem g').1 hg' with hold | rfl
    · obtain ⟨a, ha, hkey⟩ := h.asked g' hold
      exact ⟨a, (happrovals a).2 (.inl ha), hkey⟩
    · obtain ⟨s, hs⟩ := List.exists_mem_of_ne_nil sponsors hne
      exact ⟨_, (happrovals _).2 (.inr ⟨s, hs, rfl⟩), rfl⟩
  · intro g' hg' hpending' a ha hkey
    rcases (happrovals a).1 ha with hold | ⟨s, hs, rfl⟩
    · rcases (hmem g').1 hg' with hg' | rfl
      · exact h.waits g' hg' hpending' a hold hkey
      · exact absurd hkey (hfresh a hold)
    · rfl
  · intro g' hg' hdecided
    rcases (hmem g').1 hg' with hold | rfl
    · obtain ⟨a, ha, hkey, hstatus, hone⟩ := h.decided g' hold hdecided
      refine ⟨a, (happrovals a).2 (.inl ha), hkey, hstatus, fun b hb hkey' hsome => ?_⟩
      rcases (happrovals b).1 hb with hb | ⟨s, hs, rfl⟩
      · exact hone b hb hkey' hsome
      · exact absurd rfl hsome
    · exact absurd hpending hdecided

lemma decidedStatus_ne (d : Decision) : decidedStatus d ≠ .pending := by
  rw [decidedStatus]
  split <;> simp

/-- The decision of one sponsor resolves a gate that waits. -/
lemma resolved (h : GateDecisions gates approvals) {g : Gate} (hg : g ∈ gates)
    (hpending : g.status = .pending) {b : Approval} (hb : b ∈ approvals) (hkey : b.gateOf = g.key)
    (d : Decision) :
    GateDecisions
      (gates.update (fun x => x.key = g.key)
        { set := fun x => { x with status := decidedStatus d } })
      (approvals.update (fun x => x.key = b.key)
        { set := fun x => { x with decision := some d } }) := by
  have hgate : ∀ g' ∈ gates, ∃ g'' ∈ gates.update (fun x => x.key = g.key)
      { set := fun x => { x with status := decidedStatus d } }, g''.key = g'.key := by
    intro g' hg'
    refine ⟨_, Table.mem_update_of_mem hg', ?_⟩
    split <;> rfl
  have happroval : ∀ a ∈ approvals, ∃ a' ∈ approvals.update (fun x => x.key = b.key)
      { set := fun x => { x with decision := some d } }, a'.gateOf = a.gateOf := by
    intro a ha
    refine ⟨_, Table.mem_update_of_mem ha, ?_⟩
    split <;> rfl
  constructor
  · exact Table.forall_update h.normal fun g' hg' _ => h.normal g' hg'
  · exact Table.forall_update h.named fun a ha _ => h.named a ha
  · refine Table.forall_update (fun a ha => ?_) fun a ha _ => ?_
    · obtain ⟨g', hg', hkey'⟩ := h.owned a ha
      obtain ⟨g'', hg'', hsame⟩ := hgate g' hg'
      exact ⟨g'', hg'', hsame.trans hkey'⟩
    · obtain ⟨g', hg', hkey'⟩ := h.owned a ha
      obtain ⟨g'', hg'', hsame⟩ := hgate g' hg'
      exact ⟨g'', hg'', hsame.trans hkey'⟩
  · refine Table.forall_update (fun g' hg' => ?_) fun g' hg' _ => ?_
    · obtain ⟨a, ha, hkey'⟩ := h.asked g' hg'
      obtain ⟨a', ha', hsame⟩ := happroval a ha
      exact ⟨a', ha', hsame.trans hkey'⟩
    · obtain ⟨a, ha, hkey'⟩ := h.asked g' hg'
      obtain ⟨a', ha', hsame⟩ := happroval a ha
      exact ⟨a', ha', hsame.trans hkey'⟩
  · intro g' hg' hpending' a ha hkey'
    rcases Table.mem_update_cases hg' with ⟨x, hx, -, rfl⟩ | ⟨hold, hne⟩
    · exact absurd hpending' (decidedStatus_ne d)
    · rcases Table.mem_update_cases ha with ⟨x, hx, hxb, rfl⟩ | ⟨haold, -⟩
      · -- the decided approval belongs to the resolved gate
        obtain rfl := approvals.eq_of_key hx hb hxb
        exact absurd (hkey'.symm.trans hkey) hne
      · exact h.waits g' hold hpending' a haold hkey'
  · intro g' hg' hdecided
    rcases Table.mem_update_cases hg' with ⟨x, hx, hxg, rfl⟩ | ⟨hold, hne⟩
    · obtain rfl := gates.eq_of_key hx hg hxg
      refine ⟨_, Table.mem_update_of_pos hb rfl, hkey, ⟨d, rfl, rfl⟩, fun c hc hkey' hsome => ?_⟩
      rcases Table.mem_update_cases hc with ⟨y, hy, hyb, rfl⟩ | ⟨hcold, -⟩
      · obtain rfl := approvals.eq_of_key hy hb hyb
        rfl
      · exact absurd (h.waits x hx hpending c hcold hkey') hsome
    · obtain ⟨a, ha, hkey', hstatus, hone⟩ := h.decided g' hold hdecided
      have hother : a.key ≠ b.key := by
        intro hsame
        obtain rfl := approvals.eq_of_key ha hb hsame
        exact hne (hkey'.symm.trans hkey)
      refine ⟨a, Table.mem_update_of_neg ha hother, hkey', hstatus, fun c hc hkey'' hsome => ?_⟩
      rcases Table.mem_update_cases hc with ⟨y, hy, hyb, rfl⟩ | ⟨hcold, -⟩
      · obtain rfl := approvals.eq_of_key hy hb hyb
        exact absurd (hkey''.symm.trans hkey) hne
      · exact hone c hcold hkey'' hsome

end GateDecisions

/-- A work item is gated exactly while a gate of it is pending. -/
structure GatedInv (db : Db) : Prop where
  pending : GateInv db
  opened : ∀ w ∈ db.workItems, w.status = .gated →
    ∃ g ∈ db.gates, g.workKey = w.key ∧ g.status = .pending

namespace GatedInv

variable {db db' : Db}

lemma of_eq (h : GatedInv db) (hwork : db'.workItems = db.workItems)
    (hgates : db'.gates = db.gates) : GatedInv db' where
  pending := h.pending.of_eq hwork hgates
  opened w hw := by
    rw [hwork] at hw
    rw [hgates]
    exact h.opened w hw

lemma gated_iff (h : GatedInv db) {w : WorkItem} (hw : w ∈ db.workItems) :
    w.status = .gated ↔ ∃! g, g ∈ db.gates ∧ g.workKey = w.key ∧ g.status = .pending := by
  refine ⟨fun hgated => ?_, ?_⟩
  · obtain ⟨g, hg, hkey, hpending⟩ := h.opened w hw hgated
    refine ⟨g, ⟨hg, hkey, hpending⟩, ?_⟩
    rintro g' ⟨hg', hkey', hpending'⟩
    exact h.pending.single g' hg' g hg hpending' hpending (hkey'.trans hkey.symm)
  · rintro ⟨g, ⟨hg, hkey, hpending⟩, -⟩
    obtain ⟨v, hv, hwork, hgated⟩ := h.pending.gated g hg hpending
    obtain rfl := db.workItems.eq_of_key hv hw (hwork.trans hkey)
    exact hgated

/-- A direct transition neither enters nor leaves a gate. -/
lemma updateWork (h : GatedInv db) {w : WorkItem} (hw : w ∈ db.workItems)
    (hstatus : w.status ≠ .gated) {target : WorkStatus} (htarget : target ≠ .gated)
    (reason : Option String) (evidence : Json) :
    GatedInv (db.updateWork w.key (transitioned target reason evidence)) where
  pending := h.pending.updateWork hw hstatus _
  opened w' hw' hgated := by
    rcases Table.mem_update_cases hw' with ⟨v, -, -, rfl⟩ | ⟨hold, -⟩
    · exact absurd hgated htarget
    · exact h.opened w' hold hgated

/-- An update that keeps the statuses keeps the gated items. -/
lemma updateKept (h : GatedInv db) (work : String × String) (f : Table.Assign WorkItem.key)
    (hf : ∀ w, (f.set w).status = w.status) : GatedInv (db.updateWork work f) where
  pending := by
    refine ⟨fun g hg hpending => ?_, h.pending.single⟩
    obtain ⟨w, hw, hkey, hgated⟩ := h.pending.gated g hg hpending
    by_cases hwork : w.key = work
    · exact ⟨_, Table.mem_update_of_pos hw hwork, (f.key_set w).trans hkey, (hf w).trans hgated⟩
    · exact ⟨w, Table.mem_update_of_neg hw hwork, hkey, hgated⟩
  opened w hw hgated := by
    rcases Table.mem_update_cases hw with ⟨v, hv, -, rfl⟩ | ⟨hold, -⟩
    · obtain ⟨g, hg, hkey, hpending⟩ := h.opened v hv ((hf v).symm.trans hgated)
      exact ⟨g, hg, hkey.trans (f.key_set v).symm, hpending⟩
    · exact h.opened w hold hgated

lemma created (h : GatedInv db) {w : WorkItem} (hnew : w.status = .new)
    (hins : db.workItems.insert w = some db'.workItems) (hgates : db'.gates = db.gates) :
    GatedInv db' where
  pending := h.pending.created hins hgates
  opened v hv hgated := by
    rw [hgates]
    rcases (Table.mem_of_insert hins v).1 hv with hold | rfl
    · exact h.opened v hold hgated
    · rw [hnew] at hgated
      cases hgated

/-- An active work item enters a gate. -/
lemma enters (h : GatedInv db) {w : WorkItem} (hw : w ∈ db.workItems)
    (hactive : w.status = .active) {g : Gate} (hkey : g.workKey = w.key)
    (hpending : g.status = .pending) (hins : db.gates.insert g = some db'.gates)
    (hwork : db'.workItems = (db.updateWork w.key (entered .gated)).workItems) : GatedInv db' where
  pending := h.pending.opened hw hactive hkey hins hwork
  opened v hv hgated := by
    have hmem := Table.mem_of_insert hins
    rw [hwork] at hv
    rcases Table.mem_update_cases hv with ⟨x, hx, hxw, rfl⟩ | ⟨hold, -⟩
    · exact ⟨g, (hmem g).2 (.inr rfl), hkey.trans hxw.symm, hpending⟩
    · obtain ⟨g', hg', hrest⟩ := h.opened v hold hgated
      exact ⟨g', (hmem g').2 (.inl hg'), hrest⟩

/-- A pending gate is resolved, and its work item goes on. -/
lemma leaves (h : GatedInv db) {g : Gate} (hg : g ∈ db.gates) (hpending : g.status = .pending)
    {status : GateStatus} (hstatus : status ≠ .pending) {w : WorkItem} (hkey : w.key = g.workKey)
    (hwork : db'.workItems = (db.updateWork w.key (entered .active)).workItems)
    (hgates : db'.gates = (db.resolveGate g.key status).gates) : GatedInv db' where
  pending := h.pending.resolved hg hpending hstatus hkey hwork hgates
  opened v hv hgated := by
    rw [hwork] at hv
    rw [hgates]
    rcases Table.mem_update_cases hv with ⟨x, hx, hxw, rfl⟩ | ⟨hold, hne⟩
    · cases hgated
    · obtain ⟨g', hg', hitem, hpending'⟩ := h.opened v hold hgated
      refine ⟨g', Table.mem_update_of_neg hg' fun hsame => hne ?_, hitem, hpending'⟩
      obtain rfl := db.gates.eq_of_key hg' hg hsame
      exact hitem.symm.trans hkey.symm

end GatedInv

/-- What a run of the store keeps between work items, gates and approvals. -/
structure LifecycleInv (db : Db) : Prop where
  gated : GatedInv db
  decisions : GateDecisions db.gates db.approvals

namespace LifecycleInv

variable {db db' : Db}

lemma empty : LifecycleInv {} where
  gated := ⟨.empty, fun w hw => absurd hw (Table.notMem_empty w)⟩
  decisions := .empty

lemma of_eq (h : LifecycleInv db) (hwork : db'.workItems = db.workItems)
    (hgates : db'.gates = db.gates) (happrovals : db'.approvals = db.approvals) :
    LifecycleInv db' where
  gated := h.gated.of_eq hwork hgates
  decisions := by
    rw [hgates, happrovals]
    exact h.decisions

lemma createWorkItem (h : LifecycleInv db) {r : WorkItemRequest} {w : WorkItem}
    (hok : createWorkItem r db = .ok (w, db')) : LifecycleInv db' := by
  obtain ⟨hnew, -, hwork⟩ := createWorkItem_ok hok
  obtain ⟨workItems, hins, rfl⟩ := Option.map_eq_some_iff.1 hwork
  exact ⟨h.gated.created hnew hins rfl, h.decisions⟩

lemma transitionWorkItem (h : LifecycleInv db) {r : TransitionRequest} {u : Unit}
    (hok : transitionWorkItem r db = .ok (u, db')) : LifecycleInv db' := by
  obtain ⟨w, hmoved, reason, hcases⟩ := transitionWorkItem_ok hok
  have hupdate : ∀ target reason evidence, target ≠ .gated →
      LifecycleInv (db.updateWork w.key (transitioned target reason evidence)) :=
    fun _ _ _ htarget =>
      ⟨h.gated.updateWork hmoved.mem hmoved.not_gated htarget _ _, h.decisions⟩
  rcases hcases with ⟨-, rfl⟩ | ⟨-, -, rfl⟩ | ⟨-, i, -, -, -, evidence, rfl⟩
  · exact hupdate _ _ _ (by decide)
  · exact hupdate _ _ _ (by decide)
  · exact (hupdate _ _ _ (by decide)).of_eq rfl rfl rfl

lemma required_of_mapM {ss ts : List String} (h : ss.mapM required = some ts) :
    ∀ t ∈ ts, required t = some t := by
  induction ss generalizing ts with
  | nil =>
    obtain rfl := Option.some.inj h
    exact fun t ht => absurd ht List.not_mem_nil
  | cons s ss ih =>
    simp only [List.mapM_cons, Option.bind_eq_bind, Option.bind_eq_some_iff, Option.pure_def,
      Option.some.injEq] at h
    obtain ⟨t, ht, rest, hrest, rfl⟩ := h
    intro u hu
    rcases List.mem_cons.1 hu with rfl | hu
    · exact required_idem ht
    · exact ih hrest u hu

/-- The sponsors that a committed `open_gate` asks. -/
lemma openGate_asks {r : GateRequest} {now : Time} {g : Gate}
    (h : openGate r now db = .ok (g, db')) :
    (required g.projectId = some g.projectId ∧ required g.gateId = some g.gateId) ∧
      ∃ sponsors : List String, sponsors ≠ [] ∧ (∀ s ∈ sponsors, required s = some s) ∧
        ∀ a, a ∈ db'.approvals ↔
          a ∈ db.approvals ∨ ∃ s ∈ sponsors, a = newApproval g.projectId g.gateId s := by
  simp only [openGate, requireText, Tx.demand_bind_ok] at h
  obtain ⟨p, hp, i, -, gid, hgid, _, -, _, -, _, -, h⟩ := h
  rw [Tx.bind_ok] at h
  obtain ⟨sponsors, db₁, hsponsors, h⟩ := h
  obtain ⟨rfl, hmap, hne, -⟩ := requireSponsors_ok hsponsors
  simp only [openGateIn, lockWorkItem, Tx.demand_bind_ok, Tx.require_bind_ok, Tx.query_bind_ok,
    Tx.attempt_bind_ok, Tx.modify_bind_ok, Tx.pure_ok, Prod.mk.injEq] at h
  obtain ⟨w, -, -, -, -, db₂, hgate, db₃, happrovals, rfl, rfl⟩ := h
  obtain ⟨gates, -, rfl, -⟩ := insertGate_eq_some hgate
  obtain ⟨approvals, rfl, hasked⟩ := insertApprovals_ok happrovals
  refine ⟨⟨required_idem hp, required_idem hgid⟩, sponsors, hne, fun s hs => ?_, hasked⟩
  exact required_of_mapM hmap s hs

lemma openGate (h : LifecycleInv db) {r : GateRequest} {now : Time} {g : Gate}
    (hok : openGate r now db = .ok (g, db')) : LifecycleInv db' := by
  obtain ⟨hnormal, sponsors, hne, hsponsors, hasked⟩ := openGate_asks hok
  obtain ⟨w, hw, -, hactive, hpending, -, hkey, gates, approvals, hins, -, rfl⟩ := openGate_ok hok
  exact ⟨h.gated.enters hw hactive hkey hpending hins rfl,
    h.decisions.opened hins hpending hnormal hne hsponsors hasked⟩

lemma decideGate (h : LifecycleInv db) {r : DecisionRequest} {a : Approval}
    (hok : decideGate r db = .ok (a, db')) : LifecycleInv db' := by
  obtain ⟨g, hg, -, -, hpending, w, hw, hkey, -, b, hb, hbg, d, rfl⟩ := decideGate_ok hok
  exact ⟨h.gated.leaves hg hpending (GateDecisions.decidedStatus_ne d) hkey rfl rfl,
    h.decisions.resolved hg hpending hb hbg d⟩

lemma step (h : LifecycleInv db) (e : LifecycleEvent) : LifecycleInv (e.step db) := by
  cases e with
  | createProject p name sponsors =>
    refine Tx.commit_of h fun u db' hok => ?_
    obtain ⟨projects, sponsors', rfl, -⟩ := createProject_ok hok
    exact h.of_eq rfl rfl rfl
  | createWorkItem r => exact Tx.commit_of h fun w db' hok => h.createWorkItem hok
  | transitionWorkItem r => exact Tx.commit_of h fun u db' hok => h.transitionWorkItem hok
  | openGate r now => exact Tx.commit_of h fun g db' hok => h.openGate hok
  | decideGate r => exact Tx.commit_of h fun a db' hok => h.decideGate hok
  | elsewhere db' => exact h.of_eq rfl rfl rfl

lemma run (es : List LifecycleEvent) : LifecycleInv (run LifecycleEvent.step {} es) :=
  invariant_run (fun _ e h => h.step e) empty es

/-- A sponsor who was asked can decide a gate that waits, with a decision that can be stored. -/
lemma decides (h : LifecycleInv db) {g : Gate} (hg : g ∈ db.gates)
    (hpending : g.status = .pending) {a : Approval} (ha : a ∈ db.approvals)
    (hkey : a.gateOf = g.key) {d : Decision} (hd : required d.rationale ≠ none)
    (hstorable : d.storable = true) :
    ∃ b db', LifecycleStore.decideGate ⟨g.projectId, g.gateId, a.approverId, d⟩ db = .ok (b, db') ∧
      { g with status := decidedStatus d } ∈ db'.gates ∧
        ∃ w ∈ db'.workItems, w.key = g.workKey ∧ w.status = .active := by
  obtain ⟨rationale, hrationale⟩ := Option.ne_none_iff_exists'.1 hd
  obtain ⟨hproject, hgate⟩ := h.decisions.normal g hg
  obtain ⟨w, hw, hwork, hgated⟩ := h.gated.pending.gated g hg hpending
  -- the store takes the first approval of the sponsor, which is as undecided as any other
  have happroval : ∃ b, approvalOf g.projectId g.gateId a.approverId db = some b := by
    cases hfind : approvalOf g.projectId g.gateId a.approverId db with
    | some b => exact ⟨b, rfl⟩
    | none =>
      refine absurd ?_ (Table.find_eq_none.1 hfind a ha)
      obtain ⟨hp, hgid⟩ := Prod.mk.inj hkey
      rw [hp, hgid]
  obtain ⟨b, hb⟩ := happroval
  obtain ⟨hbmem, hbkey⟩ := Table.mem_of_find hb
  have hbgate : b.gateOf = g.key := by
    obtain ⟨hp, hrest⟩ := Prod.mk.inj hbkey
    exact Prod.ext hp (Prod.mk.inj hrest).1
  have hlookup : db.workItems.lookup (g.projectId, g.workItemId) = some w :=
    Table.lookup_eq_some.2 ⟨hw, hwork⟩
  have hok : ∃ db', LifecycleStore.decideGate ⟨g.projectId, g.gateId, a.approverId, d⟩ db =
      .ok ({ b with decision := some { d with rationale } }, db') ∧
        db' = ((db.decideApproval b.key { d with rationale }).resolveGate g.key
          (decidedStatus { d with rationale })).updateWork (g.projectId, g.workItemId)
            (entered .active) := by
    refine ⟨_, ?_, rfl⟩
    simp only [LifecycleStore.decideGate, requireText, lockWorkItem, Tx.demand_bind_ok,
      Tx.require_bind_ok, Tx.modify_bind_ok, Tx.pure_ok]
    exact ⟨_, hproject, _, hgate, _, h.decisions.named a ha, _, hrationale, g,
      Table.lookup_mem hg, hpending, b, hb, h.decisions.waits g hg hpending b hbmem hbgate, w,
      hlookup, hgated, Decision.storable_required hstorable hrationale, rfl⟩
  obtain ⟨db', hok, rfl⟩ := hok
  refine ⟨_, _, hok, Table.mem_update_of_pos hg rfl, ?_⟩
  exact ⟨_, Table.mem_update_of_pos hw hwork, hwork, rfl⟩

end LifecycleInv

/-- Gates wait for their sponsors and are resolved by one of them. -/
structure GatesResolved (db : Db) : Prop where
  gated : ∀ w ∈ db.workItems, w.status = .gated ↔
    ∃! g, g ∈ db.gates ∧ g.workKey = w.key ∧ g.status = .pending
  resolved : ∀ g ∈ db.gates, g.status ≠ .pending → ∃ a ∈ db.approvals, ResolvedBy db.approvals g a
  waiting : ∀ g ∈ db.gates, g.status = .pending → (∃ a ∈ db.approvals, a.gateOf = g.key) ∧
    ∀ a ∈ db.approvals, a.gateOf = g.key → a.decision = none ∧
      ∀ d : Decision, required d.rationale ≠ none → d.storable = true →
        ∃ b db', LifecycleStore.decideGate ⟨g.projectId, g.gateId, a.approverId, d⟩ db =
            .ok (b, db') ∧
          { g with status := decidedStatus d } ∈ db'.gates ∧
            ∃ w ∈ db'.workItems, w.key = g.workKey ∧ w.status = .active

/-- **The gates of the lifecycle store.**  In every run a work item is gated exactly while one gate
of it waits, a resolved gate has the decision of one sponsor, and no gate waits in vain. -/
theorem lifecycle_gates_resolved (es : List LifecycleEvent) :
    GatesResolved (run LifecycleEvent.step {} es) := by
  have h := LifecycleInv.run es
  generalize run LifecycleEvent.step {} es = db at h
  refine ⟨fun w hw => h.gated.gated_iff hw, h.decisions.decided, fun g hg hpending => ?_⟩
  exact ⟨h.decisions.asked g hg, fun a ha hkey =>
    ⟨h.decisions.waits g hg hpending a ha hkey, fun d hd hstorable =>
      h.decides hg hpending ha hkey hd hstorable⟩⟩

end AgenticMesh
