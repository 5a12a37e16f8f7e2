import AgenticMesh.Worktree.Resumption

/-!
# Retries of a workspace

What a further call does where nothing fails any more: `prepare` makes a durable
workspace ready if and only if it is not released and no branch is left without
its worktree, and `cleanup` releases it if and only if it is released already,
or every repository was released or has its branch and no worktree removed in
part.
-/

namespace AgenticMesh

namespace GitWorktreeCoordinator

open Program

variable {c : GitContext} {u : Upstream} {h h₀ : Heads} {r : WorkspaceRequest}
    {w w' w₀ v : GitWorld}
  {p q : PlanRepository} {y : RepositoryWorktree} {A : GitAnswer → Prop} {I K : GitWorld → Prop}
  {α : Type} {items : List PlanRepository}

/-! ## Calls without failure -/

@[simp] lemma eval_database {f : GitWorld → α × GitWorld} :
    (database f).eval {} w = (.ok (f w).1, (f w).2) := eval_ask

@[simp] lemma eval_git {f : GitWorld → Except GitError α × GitWorld} :
    (git f).eval {} w = f w := eval_ask

lemma eval_worktreeExists {path : String} :
    (worktreeExists path).eval {} w = (.ok (hasDirectory path w), w) := eval_ask

lemma eval_verifyWorktree {source path : String} {t : GitWorktree} {b : GitBranch}
    (ht : w.worktrees.lookup path = some t) (hstate : t.state = .intact) (hs : t.source = source)
    (hb : w.branches.lookup (source, t.branch) = some b) :
    (verifyWorktree source path).eval {} w = (.ok (b.revision, t.branch), w) := by
  simp [verifyWorktree, worktreeEvidence, ht, hstate, hs, hb]

/-- A worktree that is not intact is not verified. -/
lemma eval_verifyWorktree_broken {source path : String} (hw : worktreeState path w ≠ some .intact) :
    (verifyWorktree source path).eval {} w =
      (.error (.workspace "Git command failed: rev-parse"), w) := by
  rw [verifyWorktree, eval_git, worktreeEvidence_broken hw]

/-- The worktree of a linked repository is verified. -/
lemma Linked.eval_verifyWorktree (hl : Linked w p) (hw : HasWorktree w p) :
    ∃ b, isCommit b = true ∧
      (verifyWorktree p.source p.worktree).eval {} w = (.ok (b, p.branch), w) := by
  obtain ⟨t, ht, hstate⟩ := Option.map_eq_some_iff.1 hw
  obtain ⟨hs, htb, hbranch⟩ := hl.worktree t ht
  obtain ⟨b, hb⟩ := Option.isSome_iff_exists.1 hbranch
  refine ⟨b.revision, hl.revision b hb, ?_⟩
  rw [GitWorktreeCoordinator.eval_verifyWorktree ht hstate hs (htb.symm ▸ hb), htb]

lemma eval_createWorktree (hl : Linked w p) (hb : ¬ HasBranch w p) :
    ∃ w', (createWorktree p).eval {} w = (.ok (p.baseRevision, p.branch), w') := by
  have hbranch : w.branches.lookup (p.source, p.branch) = none := by simpa [HasBranch] using hb
  have hworktree := hl.lookup_worktree hb
  obtain ⟨branches, hbs⟩ := Table.insert_isSome_of_fresh
    (r := (⟨p.source, p.branch, p.baseRevision⟩ : GitBranch)) (Table.lookup_eq_none.1 hbranch)
  obtain ⟨worktrees, hts⟩ := Table.insert_isSome_of_fresh
    (r := (⟨p.worktree, p.source, p.branch, .intact⟩ : GitWorktree))
    (Table.lookup_eq_none.1 hworktree)
  refine ⟨{ w with branches, worktrees }, ?_⟩
  have hexists : (branchExists p.source p.branch).eval {} w = (.ok false, w) := by
    simp [branchExists, hbranch]
  have hparent : makeParent.eval {} w = (.ok (), w) := eval_database
  have hadd : (worktreeAdd p.source p.branch p.worktree p.baseRevision).eval {} w =
      (.ok (), { w with branches, worktrees }) := by
    simp [worktreeAdd, withBranch, hbs, hts]
  rw [createWorktree, eval_bind_of_ok hexists, if_neg (by simp), eval_bind_of_ok hparent,
    eval_bind_of_ok hadd]
  refine eval_verifyWorktree (t := ⟨p.worktree, p.source, p.branch, .intact⟩)
    (b := ⟨p.source, p.branch, p.baseRevision⟩) ?_ rfl rfl ?_
  · exact (Table.lookup_of_insert hts _).trans (if_pos rfl)
  · exact (Table.lookup_of_insert hbs _).trans (if_pos rfl)

/-- A repository is prepared unless its branch exists without its worktree. -/
lemma eval_prepareOne_ok (hl : Linked w p) (hbase : isCommit p.baseRevision = true)
    (hw : HasBranch w p → HasWorktree w p) : ((prepareOne p).eval {} w).1 = .ok () := by
  have hevidence : ∃ b w', isCommit b = true ∧
      ((if hasDirectory p.worktree w = true then keepWorktree p
        else createWorktree p).eval {} w = (.ok (b, p.branch), w')) := by
    by_cases hbranch : HasBranch w p
    · obtain ⟨b, hb, hverify⟩ := hl.eval_verifyWorktree (hw hbranch)
      rw [if_pos (hw hbranch).hasDirectory]
      refine ⟨b, w, hb, (eval_bind_of_ok hverify).trans ?_⟩
      rw [if_pos rfl]
      rfl
    · obtain ⟨w', hw'⟩ := eval_createWorktree hl hbranch
      rw [if_neg fun hdirectory => hbranch (hl.hasBranch_of_directory hdirectory)]
      exact ⟨p.baseRevision, w', hbase, hw'⟩
  obtain ⟨b, w', hb, heval⟩ := hevidence
  have hrepository : ((prepareRepository p).eval {} w).1 = .ok () := by
    rw [prepareRepository, eval_bind_of_ok eval_worktreeExists, eval_bind_of_ok heval,
      eval_bind_of_ok (eval_require_of ⟨rfl, hb⟩)]
    exact congrArg Prod.fst eval_database
  rw [prepareOne, eval_tryCatch_of_ok hrepository, hrepository]

lemma eval_createWorktree_conflict (hb : HasBranch w p) :
    ∃ w', (createWorktree p).eval {} w =
      (.error (.conflict "planned branch exists without worktree"), w') := by
  have hbranch : (w.branches.lookup (p.source, p.branch)).isSome = true := hb
  refine ⟨updateRepository p.repositoryId { set := fun r => { r with
    status := .error
    lastError := some "planned branch exists without its registered worktree" } } w, ?_⟩
  simp [createWorktree, branchExists, hbranch, conflictAt, repositoryError, eval_bind]

/-- A repository whose branch has no intact worktree is not prepared. -/
lemma eval_prepareOne_ne_ok (hb : HasBranch w p) (hw : ¬ HasWorktree w p) :
    ((prepareOne p).eval {} w).1 ≠ .ok () := by
  have hrepository : ∃ m w', (prepareRepository p).eval {} w = (.error (.conflict m), w') ∨
      (prepareRepository p).eval {} w = (.error (.workspace m), w') := by
    by_cases hdirectory : hasDirectory p.worktree w = true
    · refine ⟨"Git command failed: rev-parse", w, Or.inr ?_⟩
      rw [prepareRepository, eval_bind_of_ok eval_worktreeExists, if_pos hdirectory]
      exact eval_bind_of_error (eval_bind_of_error (eval_verifyWorktree_broken hw))
    · obtain ⟨w', hcreate⟩ := eval_createWorktree_conflict hb
      refine ⟨"planned branch exists without worktree", w', Or.inl ?_⟩
      rw [prepareRepository, eval_bind_of_ok eval_worktreeExists, if_neg hdirectory]
      exact eval_bind_of_error hcreate
  obtain ⟨m, w', hrepository | hrepository⟩ := hrepository
  · rw [prepareOne, eval_tryCatch_of_error hrepository]
    simp [setWorkspace, eval_bind]
  · rw [prepareOne, eval_tryCatch_of_error hrepository]
    simp [setWorkspace, repositoryError, eval_bind]

lemma eval_isDirty : isDirty.eval {} w = (.ok false, w) := eval_ask

lemma eval_removeWorktree (hl : Linked w (planOf y)) (hw : HasWorktree w (planOf y)) :
    ∃ b, (removeWorktree y).eval {} w = (.ok b, leaveWorktree y.worktreePath none w) := by
  obtain ⟨b, -, hverify⟩ := hl.eval_verifyWorktree hw
  have hintact : worktreeState y.worktreePath w = some .intact := hw
  have hremove : (worktreeRemove y.worktreePath).eval {} w =
      (.ok (), leaveWorktree y.worktreePath none w) := by
    simp [worktreeRemove, hintact]
  refine ⟨b, (eval_bind_of_ok hverify).trans ?_⟩
  refine (eval_bind_of_ok (eval_require_of rfl)).trans ?_
  refine (eval_bind_of_ok eval_isDirty).trans ?_
  rw [if_neg (by simp)]
  exact (eval_bind_of_ok hremove).trans eval_pure

/-- The branch of a repository whose worktree is gone is registered nowhere. -/
lemma eval_goneWorktree (hl : Linked w (planOf y))
    (hw : w.worktrees.lookup y.worktreePath = none) (hb : HasBranch w (planOf y)) :
    ∃ b, (goneWorktree y).eval {} w = (.ok b, w) := by
  obtain ⟨b, hbranch⟩ := Option.isSome_iff_exists.1 hb
  have hnone : w.worktrees.find (fun t =>
      t.source = y.sourcePath ∧ t.branch = y.branchName ∧ t.state ≠ .directory) = none := by
    refine Table.find_eq_none.2 fun t ht hsource => ?_
    have hpath : t.path = y.worktreePath := hl.registered t ht hsource.1 hsource.2.1
    exact Table.lookup_eq_none.1 hw t ht hpath
  have hbranch' : w.branches.lookup (y.sourcePath, y.branchName) = some b := hbranch
  refine ⟨b.revision, ?_⟩
  simp [goneWorktree, registeredWorktree, hnone, branchRevision, branchExists, hbranch', eval_bind,
    require, eval]

/-- A repository with its branch, and no worktree removed in part, is released. -/
lemma eval_releaseOne_ok (hl : Linked w (planOf y))
    (hr : y.status = .released ∨ (HasBranch w (planOf y) ∧ Clean w (planOf y))) :
    ((releaseOne y).eval {} w).1 = .ok false := by
  unfold releaseOne
  split
  · rfl
  · next hstatus =>
    obtain ⟨hb, hclean⟩ := hr.resolve_left hstatus
    have hhead : ∃ b w', (if hasDirectory y.worktreePath w = true then
        removeWorktree y else goneWorktree y).eval {} w = (.ok b, w') := by
      cases ht : w.worktrees.lookup y.worktreePath with
      | some t =>
        have hw : HasWorktree w (planOf y) := by
          have hstate : worktreeState y.worktreePath w = some t.state := by
            rw [worktreeState, ht]
            rfl
          rw [HasWorktree, show (planOf y).worktree = y.worktreePath from rfl, hstate,
            hclean t.state hstate]
        obtain ⟨b, hremove⟩ := eval_removeWorktree hl hw
        have hdirectory : hasDirectory y.worktreePath w = true := hw.hasDirectory
        rw [if_pos hdirectory]
        exact ⟨b, _, hremove⟩
      | none =>
        obtain ⟨b, hgone⟩ := eval_goneWorktree hl ht hb
        rw [hasDirectory, worktreeState, ht, if_neg (by simp)]
        exact ⟨b, w, hgone⟩
    obtain ⟨b, w', hhead⟩ := hhead
    have hrelease : ((do
        releaseRepository y
        return false : GitProgram Bool).eval {} w).1 = .ok false := by
      rw [releaseRepository, eval_bind, eval_bind_of_ok eval_worktreeExists,
        eval_bind_of_ok hhead]
      rfl
    rw [eval_tryCatch_of_ok hrelease, hrelease]

/-- The property of a state that nothing is asked of. -/
def Anything (_ : GitWorld) : Prop := True

lemma cleanupFrame_anything : CleanupFrame A Anything :=
  ⟨fun _ _ _ _ _ h => h, fun _ _ _ _ _ h => h⟩

/-- A `git worktree` that fails has changed nothing. -/
def AtomicAnswer (e : GitAnswer) : Prop := e.leaves = none

lemma Leaves.eq_none {left : Option WorktreeState} (hleft : Leaves AtomicAnswer left) :
    left = none := by
  obtain h | ⟨e, he, hleaves⟩ := hleft
  · exact h
  · rw [he] at hleaves
    cases hleaves

/-- What was not removed in part is not removed in part later. -/
lemma cleanupFrame_clean : CleanupFrame AtomicAnswer fun w => ∀ p, Clean v p → Clean w p := by
  refine ⟨fun w w' _ ht _ hclean p hp => ?_, fun w path left hpath hleft hclean p hp => ?_⟩
  · rw [Clean, worktreeState, ht]
    exact hclean p hp
  · rw [Clean, worktreeState_leaveWorktree, hleft.eq_none, hpath]
    split
    · simp
    · exact hclean p hp

lemma eval_releaseAll_ok (ys : List RepositoryWorktree) (hys : ∀ y ∈ ys, planOf y ∈ plans v)
    (hr : ∀ y ∈ ys, CanRelease v y)
    (hc : Cleaning c u r v (fun w => ∀ p, Clean v p → Clean w p) w) :
    ((releaseAll ys).eval {} w).1 = .ok [] ∧
      Cleaning c u r v (fun w => ∀ p, Clean v p → Clean w p) ((releaseAll ys).eval {} w).2 := by
  induction ys generalizing w with
  | nil => exact ⟨rfl, hc⟩
  | cons y ys ih =>
    obtain ⟨hy, hys⟩ := List.forall_mem_cons.1 hys
    obtain ⟨hry, hr⟩ := List.forall_mem_cons.1 hr
    have hl := hc.durable.linked _ (hc.plan ▸ hy)
    have hok := eval_releaseOne_ok hl
      (hry.imp_right fun h => ⟨hc.hasBranch.2 h.1, hc.property _ h.2⟩)
    have hc' := ((holds_releaseOne (A := AtomicAnswer) cleanupFrame_clean hy hc).eval hc
      (e := {}) rfl).1
    cases hres : (releaseOne y).eval {} w with
    | mk res w' =>
      rw [hres] at hok hc'
      obtain ⟨hall, hc''⟩ := ih hys hr hc'
      cases hrest : (releaseAll ys).eval {} w' with
      | mk res' w'' =>
        rw [hrest] at hall hc''
        have heval : (releaseAll (y :: ys)).eval {} w = (.ok [], w'') := by
          cases hok
          cases hall
          rw [releaseAll, eval_bind_of_ok hres, eval_bind_of_ok hrest]
          rfl
        rw [heval]
        exact ⟨rfl, hc''⟩

/-- The outcome of a call without failure is a workspace of a given status. -/
def Reaches (status : WorkspaceStatus) (t : GitProgram WorkItemWorkspace) (w : GitWorld) : Prop :=
  ∃ a, (t.eval {} w).1 = .ok a ∧ a.workspace.status = status

lemma eval_setWorkspace {status : WorkspaceStatus} {error : Option String} :
    (setWorkspace status error).eval {} w = (.ok (), withStatus status error w) := eval_database

lemma eval_requiredRead {x : GitWorkspace} (hx : w.workspace = some x) :
    requiredRead.eval {} w = (.ok ⟨x, inOrder w.repositories⟩, w) := by
  simp [requiredRead, GitWorktreeCoordinator.read, eval_bind, hx, demand, eval]

/-- A read after the status was set. -/
lemma reaches_setWorkspace {status : WorkspaceStatus} (hd : Durable c u r w) :
    Reaches status (do
      setWorkspace status none
      requiredRead) w := by
  obtain ⟨x, -, hx, -⟩ := hd.planned
  refine ⟨⟨{ x with status, lastError := none }, inOrder w.repositories⟩, ?_, rfl⟩
  have hx' : (withStatus status none w).workspace = some { x with status, lastError := none } := by
    simp [withStatus, hx]
  rw [eval_bind_of_ok eval_setWorkspace, eval_requiredRead hx']
  rfl

lemma eval_translated {message : String} {t : GitProgram α} {a : α}
    (ht : (t.eval {} w).1 = .ok a) : ((translated message t).eval {} w).1 = .ok a := by
  rw [translated, eval_tryCatch_of_ok ht, ht]

/-- A workspace whose repositories can be released is released. -/
lemma reaches_cleanupLocked (hd : Durable c u r w) (hr : Releasable w) :
    Reaches .released cleanupLocked w := by
  obtain ⟨x, -, hx, -⟩ := hd.planned
  unfold Reaches
  rw [cleanupLocked, eval_bind_of_ok (eval_requiredRead hx)]
  split
  · next hs => exact ⟨_, rfl, hs⟩
  · next hs =>
    have hall : ∀ y ∈ w.repositories, CanRelease w y := by
      refine hr.resolve_left ?_
      rintro ⟨x', hx', hs'⟩
      obtain rfl := Option.some.inj (hx.symm.trans hx')
      exact hs hs'
    have hc : Cleaning c u r w (fun w' => ∀ p, Clean w p → Clean w' p) w :=
      ⟨hd, rfl, rfl, fun _ h => h, fun _ h => h⟩
    rw [eval_bind_of_ok eval_setWorkspace]
    have hc' : Cleaning c u r w (fun w' => ∀ p, Clean w p → Clean w' p)
        (withStatus .releasing none w) := hc.withStatus cleanupFrame_clean (by simp)
    obtain ⟨hall, hc''⟩ := eval_releaseAll_ok (inOrder w.repositories)
      (fun y hy => mem_plans (mem_inOrder.1 hy)) (fun y hy => hall y (mem_inOrder.1 hy)) hc'
    cases hres : (releaseAll (inOrder w.repositories)).eval {} (withStatus .releasing none w) with
    | mk res w' =>
      rw [hres] at hall hc''
      cases hall
      rw [eval_bind_of_ok hres, finishCleanup, if_pos rfl]
      exact reaches_setWorkspace hc''.durable

lemma requireRequest_ok (hr : requireRequest c r = .ok ()) :
    isId c.projectId = true ∧ isId c.workItemId = true := by
  simp only [requireRequest, requireId, Check.bind_ok, Check.that_ok] at hr
  obtain ⟨-, hp, -, hw, -⟩ := hr
  exact ⟨hp, hw⟩

/-- **Exactness of `cleanup`.** -/
theorem reaches_cleanup_iff {actorId : String} (hd : Durable c u r w)
    (hactor : isText actorId = true) :
    Reaches .released (cleanup c actorId) w ↔ Releasable w := by
  constructor
  · rintro ⟨a, ha, hs⟩
    exact ((holds_cleanup (A := fun _ => True) cleanupFrame_anything actorId hd trivial).eval
      ⟨hd, rfl, rfl, fun _ h => h, trivial⟩ trivial).2.2 a ha hs
  · intro hb
    obtain ⟨hp, hw⟩ := requireRequest_ok hd.request
    obtain ⟨x, -, hx, -⟩ := hd.planned
    obtain ⟨a, ha, hs⟩ := reaches_cleanupLocked hd hb
    refine ⟨a, ?_, hs⟩
    have hargs : (do
        requireId c.projectId "project_id"
        requireId c.workItemId "work_item_id"
        requireText actorId "actor_id" : Except GitError Unit) = .ok () := by
      simp only [requireId, requireText, Check.bind_ok, Check.that_ok]
      exact ⟨(), hp, (), hw, hactor⟩
    rw [cleanup, hargs, eval_bind_of_ok eval_ofExcept]
    refine eval_translated ?_
    rw [eval_bind_of_ok (eval_requiredRead hx)]
    exact ha

/-! ### Retrying -/

lemma Anything.frame : Frame A Anything := ⟨fun _ _ _ _ _ _ h => h, fun _ _ _ _ _ _ _ _ _ h => h⟩

/-- A `git worktree add` that changes something leaves an intact worktree, unless it fails after it
has begun. -/
lemma Added.intact {e : GitAnswer} (he : AtomicAnswer e) (ha : Added p e w w') :
    w' = w ∨ HasWorktree w' p := by
  cases ha with
  | nothing => exact Or.inl rfl
  | branch hb hleaves =>
    rw [he] at hleaves
    cases hleaves
  | both hb ht hstate =>
    obtain rfl | hleaves := hstate
    · refine Or.inr ?_
      have hlookup := (Table.lookup_of_insert ht p.worktree).trans (if_pos rfl)
      simp only [HasWorktree, GitWorktreeCoordinator.worktreeState, hlookup, Option.map_some]
    · rw [he] at hleaves
      cases hleaves

/-- Branches with their worktrees, as long as no `git worktree` stops between the two. -/
lemma Whole.frame : Frame AtomicAnswer Whole := by
  refine ⟨fun w w' hb ht hp _ hwhole p hplan hbranch => ?_, ?_⟩
  · rw [hp] at hplan
    rw [HasWorktree, worktreeState, ht]
    exact hwhole p hplan (by rwa [HasBranch, ← hb])
  · intro p e w w' he hp hapart hnb ha hwhole q hq hbranch
    rw [ha.plans] at hq
    by_cases hpq : p = q
    · subst hpq
      obtain rfl | hintact := ha.intact he
      · exact absurd hbranch hnb
      · exact hintact
    · have happ := hapart.forall hp hq hpq
      rw [HasWorktree, ha.worktreeState happ]
      refine hwhole q hq ?_
      rwa [HasBranch, ← ha.lookup_branch happ]

lemma Branched.frame : Frame A Branched := by
  refine ⟨fun w w' hb ht hp _ hbr p hplan => ?_, ?_⟩
  · rw [HasBranch, hb]
    exact hbr p (hp ▸ hplan)
  · intro p e w w' he hp hapart hnb ha hbr q hq
    exact ha.hasBranch (hbr q (ha.plans ▸ hq))

lemma Tidy.frame : Frame AtomicAnswer Tidy := by
  refine ⟨fun w w' hb ht hp _ htidy p hplan => ?_, ?_⟩
  · rw [Clean, worktreeState, ht]
    exact htidy p (hp ▸ hplan)
  · intro p e w w' he hp hapart hnb ha htidy q hq
    rw [ha.plans] at hq
    by_cases hpq : p = q
    · subst hpq
      obtain rfl | hintact := ha.intact he
      · exact htidy p hq
      · exact hintact.clean
    · rw [Clean, ha.worktreeState (hapart.forall hp hq hpq)]
      exact htidy q hq

/-- A branch without its worktree stays one. -/
lemma orphan_frame (p : PlanRepository) :
    Frame A fun w => p ∈ plans w ∧ HasBranch w p ∧ ¬ HasWorktree w p := by
  refine ⟨fun w w' hb ht hp _ h => ?_, ?_⟩
  · rw [hp, HasBranch, HasWorktree, worktreeState, hb, ht]
    exact h
  · rintro q e w w' he hq hapart hnb ha ⟨hp, hbranch, hworktree⟩
    have hne : q ≠ p := by
      rintro rfl
      exact hnb hbranch
    have happ := hapart.forall hq hp hne
    refine ⟨ha.plans.symm ▸ hp, ha.hasBranch hbranch, ?_⟩
    rwa [HasWorktree, ha.worktreeState happ]

lemma eval_prepareAll_ok (hs : Steady c u r items Whole w) :
    Reaches .ready (prepareAll items) w := by
  unfold Reaches
  rw [prepareAll, eval_bind_of_ok eval_setWorkspace]
  have hs' : Steady c u r items Whole (withStatus .preparing none w) :=
    hs.withStatus Whole.frame (by decide)
  have hloop := eval_forEach_ok (e := {}) (f := prepareOne) (l := items)
    (I := Steady c u r items Whole) (fun p hp v hv => ?_) hs'
  · cases hres : (forEach prepareOne items).eval {} (withStatus .preparing none w) with
    | mk res w' =>
      rw [hres] at hloop
      obtain ⟨hok, hs''⟩ := hloop
      cases hok
      rw [eval_bind_of_ok hres]
      exact reaches_setWorkspace hs''.durable
  · have hplan : p ∈ plans v := hv.plan.symm ▸ hp
    refine ⟨eval_prepareOne_ok (hv.durable.linked p hplan) (hv.durable.commits p hplan)
      (hv.property p hplan), ?_⟩
    exact (((keeps_prepareOne Whole.frame hp) v hv).eval hv (e := {}) rfl).1

lemma eval_prepareAll_ne_ok (hd : Durable c u r w) (hplan : plans w = items) (hp : p ∈ plans w)
    (hb : HasBranch w p) (hw : ¬ HasWorktree w p) : ¬ Reaches .ready (prepareAll items) w := by
  rintro ⟨a, ha, -⟩
  have hs : Steady c u r items (fun w => p ∈ plans w ∧ HasBranch w p ∧ ¬ HasWorktree w p) w :=
    ⟨hd, hplan, hp, hb, hw⟩
  have hF : Frame (fun _ => True) _ := orphan_frame p
  have hs' : Steady c u r items _ (withStatus .preparing none w) := hs.withStatus hF (by decide)
  have hloop := eval_forEach_ne_ok (e := {}) (f := prepareOne) (l := items) (b := p)
    (hplan ▸ hp) (fun v hv => eval_prepareOne_ne_ok hv.property.2.1 hv.property.2.2)
    (fun q hq v hv => (((keeps_prepareOne hF hq) v hv).eval hv trivial).1) hs'
  rw [prepareAll, eval_bind_of_ok eval_setWorkspace, eval_bind] at ha
  cases hres : (forEach prepareOne items).eval {} (withStatus .preparing none w) with
  | mk res w' =>
    rw [hres] at hloop ha
    cases res with
    | ok x => exact hloop rfl
    | error x => cases ha

/-- A retry on a durable state, up to its plan. -/
lemma eval_prepareLocked {x : GitWorkspace} (hh : h.workItem = true)
    (hx : w.workspace = some x) (hplan : plan c u h₀ r none = .ok (x.manifestDigest, plans w)) :
    (prepareLocked c u h r).eval {} w =
      (do
        establishPlan c r x.manifestDigest (plans w) (some ⟨x, inOrder w.repositories⟩)
        prepareAll (plans w) : GitProgram WorkItemWorkspace).eval {} w := by
  have hread : GitWorktreeCoordinator.read.eval {} w =
      (.ok (some ⟨x, inOrder w.repositories⟩), w) := by
    simp [GitWorktreeCoordinator.read, hx]
  rw [prepareLocked, eval_bind_of_ok hread]
  have hgit : (git fun w' => (plan c u h r (some ⟨x, inOrder w.repositories⟩), w') :
      GitProgram (String × List PlanRepository)).eval {} w =
      (.ok (x.manifestDigest, plans w), w) := by
    rw [eval_git, plan_retry hh hplan]
  exact eval_bind_of_ok hgit

lemma eval_establishPlan {x : GitWorkspace} {digest : String} (hroot : x.workspaceRoot = c.root)
    (hs : x.status ≠ .released) :
    (establishPlan c r digest (plans w) (some ⟨x, inOrder w.repositories⟩)).eval {} w =
      (.ok (), w) := by
  rw [establishPlan, eval_bind_of_ok (eval_require_of (samePlan_retry hroot))]
  exact eval_require_of hs

/-- A released workspace is not prepared again. -/
lemma eval_establishPlan_released {x : GitWorkspace} {digest : String}
    (hroot : x.workspaceRoot = c.root) (hs : x.status = .released) :
    (establishPlan c r digest (plans w) (some ⟨x, inOrder w.repositories⟩)).eval {} w =
      (.error (.conflict "workspace is already released"), w) := by
  rw [establishPlan, eval_bind_of_ok (eval_require_of (samePlan_retry hroot))]
  exact eval_require_not fun h => h hs

/-- **Exactness of `prepare`.** -/
theorem reaches_prepare_iff {x : GitWorkspace} (hd : Durable c u r w) (hh : h.workItem = true)
    (hx : w.workspace = some x) :
    Reaches .ready (prepare c u h r) w ↔ x.status ≠ .released ∧ Whole w := by
  obtain ⟨x', h₀, hx', hroot, hplan⟩ := hd.planned
  obtain rfl : x = x' := Option.some.inj (hx.symm.trans hx')
  have hlocked := eval_prepareLocked (h := h) hh hx hplan
  have hcall : (prepare c u h r).eval {} w =
      (translated "Git workspace preparation failed" (prepareLocked c u h r)).eval {} w := by
    rw [prepare, hd.request, eval_bind_of_ok eval_ofExcept]
  constructor
  · rintro ⟨a, ha, hs⟩
    have ha' : ((prepareLocked c u h r).eval {} w).1 = .ok a := by
      rw [hcall, translated, eval_tryCatch] at ha
      cases hres : (prepareLocked c u h r).eval {} w with
      | mk res w' =>
        rw [hres] at ha
        cases res with
        | ok b => exact ha
        | error e => cases e <;> cases ha
    rw [hlocked] at ha'
    by_cases hrel : x.status = .released
    · rw [eval_bind_of_error (eval_establishPlan_released hroot hrel)] at ha'
      cases ha'
    · refine ⟨hrel, fun p hp hb => ?_⟩
      rw [eval_bind_of_ok (eval_establishPlan hroot hrel)] at ha'
      by_contra hw
      exact eval_prepareAll_ne_ok hd rfl hp hb hw ⟨a, ha', hs⟩
  · rintro ⟨hrel, hwhole⟩
    obtain ⟨a, ha, hs⟩ := eval_prepareAll_ok ⟨hd, rfl, hwhole⟩
    refine ⟨a, ?_, hs⟩
    rw [hcall]
    refine eval_translated ?_
    rw [hlocked, eval_bind_of_ok (eval_establishPlan hroot hrel)]
    exact ha

end GitWorktreeCoordinator

end AgenticMesh
