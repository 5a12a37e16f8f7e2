import AgenticMesh.Base.Run
import AgenticMesh.Worktree.Coordinator
import Mathlib.Data.List.Pairwise

/-!
# Resuming a workspace

A call of `prepare` or `cleanup` may die between any two of its steps and leaves
Git and the database with a part of its work.  `Durable` is what every such
state has in common: the durable plan is the plan of the call, and whatever
branch or worktree exists under it is the one that the plan names.  From a
durable state a further `prepare` succeeds if and only if no branch is left
without its worktree, and a further `cleanup` if and only if every repository
was released or has its branch, and no worktree was removed in part.  Neither is
true where a call of `prepare` dies at a repository without a branch and a call
of `cleanup` then removed the worktree of another.
-/

namespace AgenticMesh

namespace GitWorktreeCoordinator

open Program

/-! ## Durable states -/

/-- The planned columns of a repository. -/
def planOf (y : RepositoryWorktree) : PlanRepository :=
  ⟨y.repositoryId, y.repositoryUrl, y.defaultBranch, y.sourcePath, y.worktreePath, y.branchName,
    y.baseRevision⟩

/-- The durable plan. -/
def plans (w : GitWorld) : List PlanRepository := w.repositories.rows.map planOf

/-- The branch of a repository exists. -/
def HasBranch (w : GitWorld) (p : PlanRepository) : Prop :=
  (w.branches.lookup (p.source, p.branch)).isSome = true

/-- The worktree of a repository is intact. -/
def HasWorktree (w : GitWorld) (p : PlanRepository) : Prop :=
  worktreeState p.worktree w = some .intact

/-- Nothing is left of a worktree that is not intact. -/
def Clean (w : GitWorld) (p : PlanRepository) : Prop :=
  ∀ s ∈ worktreeState p.worktree w, s = .intact

instance (w : GitWorld) (p : PlanRepository) : Decidable (HasBranch w p) :=
  inferInstanceAs (Decidable (_ = true))

instance (w : GitWorld) (p : PlanRepository) : Decidable (HasWorktree w p) :=
  inferInstanceAs (Decidable (_ = some _))

/-- No repository has its branch without its worktree. -/
def Whole (w : GitWorld) : Prop := ∀ p ∈ plans w, HasBranch w p → HasWorktree w p

/-- Every repository has its branch. -/
def Branched (w : GitWorld) : Prop := ∀ p ∈ plans w, HasBranch w p

/-- No worktree was removed in part. -/
def Tidy (w : GitWorld) : Prop := ∀ p ∈ plans w, Clean w p

/-- A repository that is released, or that `cleanup` releases. -/
def CanRelease (w : GitWorld) (y : RepositoryWorktree) : Prop :=
  y.status = .released ∨ (HasBranch w (planOf y) ∧ Clean w (planOf y))

/-- The workspace is released, or each of its repositories can be. -/
def Releasable (w : GitWorld) : Prop :=
  (∃ x, w.workspace = some x ∧ x.status = .released) ∨ ∀ y ∈ w.repositories, CanRelease w y

instance (w : GitWorld) : Decidable (Whole w) := inferInstanceAs (Decidable (∀ _ ∈ _, _ → _))

instance (w : GitWorld) : Decidable (Branched w) := inferInstanceAs (Decidable (∀ _ ∈ _, _))

/-- Two repositories of a plan use neither the same path nor the same branch. -/
def Apart (p q : PlanRepository) : Prop :=
  p.worktree ≠ q.worktree ∧ (p.source, p.branch) ≠ (q.source, q.branch)

/-- What exists under a planned repository is what the plan names. -/
structure Linked (w : GitWorld) (p : PlanRepository) : Prop where
  revision : ∀ b, w.branches.lookup (p.source, p.branch) = some b → isCommit b.revision = true
  worktree : ∀ t, w.worktrees.lookup p.worktree = some t →
    t.source = p.source ∧ t.branch = p.branch ∧ HasBranch w p
  registered : ∀ t ∈ w.worktrees, t.source = p.source → t.branch = p.branch → t.path = p.worktree

/-- A workspace with the plan of the call `r`, whose Git state is that of the plan. -/
structure Durable (c : GitContext) (u : Upstream) (r : WorkspaceRequest) (w : GitWorld) : Prop where
  request : requireRequest c r = .ok ()
  planned : ∃ x h, w.workspace = some x ∧ x.workspaceRoot = c.root ∧
    plan c u h r none = .ok (x.manifestDigest, plans w)
  apart : (plans w).Pairwise Apart
  commits : ∀ p ∈ plans w, isCommit p.baseRevision = true
  linked : ∀ p ∈ plans w, Linked w p
  released : ∀ y ∈ w.repositories, y.status = .released → HasBranch w (planOf y)
  closed : ∀ x, w.workspace = some x → x.status = .released → Branched w

/-- A state without workspace, in which every worktree has its directory and its branch. -/
structure Unprepared (w : GitWorld) : Prop where
  workspace : w.workspace = none
  repositories : w.repositories = ∅
  directories : ∀ t ∈ w.worktrees, t.state ≠ .registration
  worktrees : ∀ t ∈ w.worktrees, (w.branches.lookup (t.source, t.branch)).isSome = true

variable {c : GitContext} {u : Upstream} {h h₀ : Heads} {r : WorkspaceRequest} {w w' : GitWorld}
  {p q : PlanRepository}

instance : Std.Symm Apart := ⟨fun _ _ h => ⟨fun hw => h.1 hw.symm, fun hb => h.2 hb.symm⟩⟩

/-- Two repositories of a durable plan are the same or apart. -/
lemma Durable.eq_or_apart (hd : Durable c u r w) (hp : p ∈ plans w) (hq : q ∈ plans w) :
    p = q ∨ Apart p q := by
  by_cases hpq : p = q
  · exact Or.inl hpq
  · exact Or.inr (hd.apart.forall hp hq hpq)

lemma mem_plans {y : RepositoryWorktree} (hy : y ∈ w.repositories) : planOf y ∈ plans w :=
  List.mem_map_of_mem hy

lemma HasWorktree.clean (hw : HasWorktree w p) : Clean w p := by
  intro s hs
  exact Option.some.inj (hs.symm.trans hw)

/-- Nothing is left where there is no branch. -/
lemma Linked.lookup_worktree (hl : Linked w p) (hb : ¬ HasBranch w p) :
    w.worktrees.lookup p.worktree = none := by
  cases ht : w.worktrees.lookup p.worktree with
  | none => rfl
  | some t => exact absurd (hl.worktree t ht).2.2 hb

/-- A directory at the path of a repository has its branch. -/
lemma Linked.hasBranch_of_directory (hl : Linked w p) (hd : hasDirectory p.worktree w = true) :
    HasBranch w p := by
  by_contra hb
  rw [hasDirectory, worktreeState, hl.lookup_worktree hb] at hd
  cases hd

lemma HasWorktree.hasDirectory (hw : HasWorktree w p) : hasDirectory p.worktree w = true := by
  rw [GitWorktreeCoordinator.hasDirectory, hw]
  rfl

/-- Repositories that are released or can be released have their branches. -/
lemma Durable.branched (hd : Durable c u r w) (hr : Releasable w) : Branched w := by
  rcases hr with ⟨x, hx, hs⟩ | hr
  · exact hd.closed x hx hs
  · intro p hp
    obtain ⟨y, hy, rfl⟩ := List.mem_map.1 hp
    rcases hr y hy with hs | ⟨hb, -⟩
    · exact hd.released y hy hs
    · exact hb

/-! ## Statements -/

section Statements

/-- The state after `_set_workspace`. -/
def withStatus (status : WorkspaceStatus) (error : Option String) (w : GitWorld) : GitWorld :=
  { w with workspace := w.workspace.map fun row => { row with status, lastError := error } }

lemma Durable.withStatus {status : WorkspaceStatus} {error : Option String}
    (hd : Durable c u r w) (hs : status = .released → Branched w) :
    Durable c u r (withStatus status error w) := by
  obtain ⟨x, h, hx, hroot, hplan⟩ := hd.planned
  refine ⟨hd.request,
    ⟨{ x with status, lastError := error }, h, by simp [GitWorktreeCoordinator.withStatus, hx],
      hroot, hplan⟩,
    hd.apart, hd.commits, fun p hp => ?_, hd.released, ?_⟩
  · exact ⟨(hd.linked p hp).revision, (hd.linked p hp).worktree, (hd.linked p hp).registered⟩
  · intro y hy hstatus
    simp only [GitWorktreeCoordinator.withStatus, hx, Option.map_some, Option.some.injEq] at hy
    subst hy
    exact hs hstatus

/-- A repository update leaves the plan alone. -/
lemma plans_updateRepository {id : String} {f : Table.Assign RepositoryWorktree.key}
    (hf : ∀ y, planOf (f.set y) = planOf y) : plans (updateRepository id f w) = plans w := by
  simp only [plans, updateRepository, Table.update, List.map_map]
  refine List.map_congr_left fun y _ => ?_
  simp only [Function.comp]
  split
  · exact hf y
  · rfl

lemma Durable.updateRepository {id : String} {f : Table.Assign RepositoryWorktree.key}
    (hd : Durable c u r w) (hf : ∀ y, planOf (f.set y) = planOf y)
    (hs : ∀ y ∈ w.repositories, y.repositoryId = id → (f.set y).status = .released →
      HasBranch w (planOf y)) :
    Durable c u r (updateRepository id f w) := by
  have hplans : plans (GitWorktreeCoordinator.updateRepository id f w) = plans w :=
    plans_updateRepository hf
  obtain ⟨x, h, hx, hroot, hplan⟩ := hd.planned
  refine ⟨hd.request,
    ⟨x, h, hx, hroot, by rw [hplans]; exact hplan⟩, by rw [hplans]; exact hd.apart,
    by rw [hplans]; exact hd.commits, fun p hp => ?_, ?_, ?_⟩
  · rw [hplans] at hp
    exact ⟨(hd.linked p hp).revision, (hd.linked p hp).worktree, (hd.linked p hp).registered⟩
  · refine Table.forall_update hd.released fun y hy hid hstatus => ?_
    rw [hf]
    exact hs y hy hid hstatus
  · intro y hy hstatus p hp
    rw [hplans] at hp
    exact hd.closed y hy hstatus p hp

/-- What `git worktree add` leaves behind: nothing, the branch alone, or the branch with its
worktree, which is intact unless the command failed. -/
inductive Added (p : PlanRepository) (e : GitAnswer) (w : GitWorld) : GitWorld → Prop
  | nothing : Added p e w w
  | branch {branches : Table GitBranch GitBranch.key}
      (hb : w.branches.insert ⟨p.source, p.branch, p.baseRevision⟩ = some branches)
      (he : e.leaves = some none) : Added p e w { w with branches }
  | both {branches : Table GitBranch GitBranch.key} {worktrees : Table GitWorktree GitWorktree.key}
      {state : WorktreeState}
      (hb : w.branches.insert ⟨p.source, p.branch, p.baseRevision⟩ = some branches)
      (ht : w.worktrees.insert ⟨p.worktree, p.source, p.branch, state⟩ = some worktrees)
      (he : state = .intact ∨ e.leaves = some (some state)) :
      Added p e w { w with branches, worktrees }

variable {e : GitAnswer}

lemma added_of_withBranch {left : Option WorktreeState}
    (h : withBranch ⟨p.worktree, p.source, p.branch, .intact⟩ p.baseRevision left w = some w')
    (hleft : left = some .intact ∨ e.leaves = some left) : Added p e w w' := by
  obtain ⟨branches, hb, h⟩ := Option.bind_eq_some_iff.1 h
  cases left with
  | none =>
    obtain rfl := Option.some.inj h
    exact .branch hb (by simpa using hleft)
  | some state =>
    obtain ⟨worktrees, ht, h⟩ := Option.bind_eq_some_iff.1 h
    obtain rfl := Option.some.inj h
    exact .both hb ht (by simpa using hleft)

lemma Added.workspace (ha : Added p e w w') : w'.workspace = w.workspace := by
  cases ha <;> rfl

lemma Added.repositories (ha : Added p e w w') : w'.repositories = w.repositories := by
  cases ha <;> rfl

lemma Added.plans (ha : Added p e w w') : plans w' = plans w := by
  simp only [GitWorktreeCoordinator.plans, ha.repositories]

lemma Added.branches (ha : Added p e w w') :
    w'.branches = w.branches ∨
      w.branches.insert ⟨p.source, p.branch, p.baseRevision⟩ = some w'.branches := by
  cases ha with
  | nothing => exact Or.inl rfl
  | branch hb he => exact Or.inr hb
  | both hb ht he => exact Or.inr hb

lemma Added.worktrees (ha : Added p e w w') :
    w'.worktrees = w.worktrees ∨
      (∃ state, w.worktrees.insert ⟨p.worktree, p.source, p.branch, state⟩ = some w'.worktrees) ∧
        HasBranch w' p := by
  cases ha with
  | nothing => exact Or.inl rfl
  | branch hb he => exact Or.inl rfl
  | both hb ht he =>
    refine Or.inr ⟨⟨_, ht⟩, ?_⟩
    simp [HasBranch, Table.lookup_of_insert hb, GitBranch.key]

/-- Branches are not lost. -/
lemma Added.hasBranch (ha : Added p e w w') (hq : HasBranch w q) : HasBranch w' q := by
  rcases ha.branches with hb | hb
  · rwa [HasBranch, hb]
  · rw [HasBranch, Table.lookup_of_insert hb]
    split
    · rfl
    · exact hq

/-- The branches of the other repositories are those of before. -/
lemma Added.lookup_branch (ha : Added p e w w') (hpq : Apart p q) :
    w'.branches.lookup (q.source, q.branch) = w.branches.lookup (q.source, q.branch) := by
  rcases ha.branches with hb | hb
  · rw [hb]
  · exact (Table.lookup_of_insert hb _).trans (if_neg hpq.2)

lemma Added.lookup_worktree (ha : Added p e w w') (hpq : Apart p q) :
    w'.worktrees.lookup q.worktree = w.worktrees.lookup q.worktree := by
  rcases ha.worktrees with ht | ⟨⟨state, ht⟩, -⟩
  · rw [ht]
  · exact (Table.lookup_of_insert ht _).trans (if_neg hpq.1)

lemma Added.worktreeState (ha : Added p e w w') (hpq : Apart p q) :
    worktreeState q.worktree w' = worktreeState q.worktree w := by
  rw [GitWorktreeCoordinator.worktreeState, ha.lookup_worktree hpq]
  rfl

lemma Added.linked_self (ha : Added p e w w') (hl : Linked w p)
    (hbase : isCommit p.baseRevision = true) : Linked w' p := by
  refine ⟨fun b hb => ?_, fun t ht => ?_, fun t ht hs htb => ?_⟩
  · rcases ha.branches with hw | hw
    · rw [hw] at hb
      exact hl.revision b hb
    · have hnew := (Table.lookup_of_insert hw (p.source, p.branch)).trans (if_pos rfl)
      rw [hnew, Option.some.injEq] at hb
      rw [← hb]
      exact hbase
  · rcases ha.worktrees with hw | ⟨⟨state, hw⟩, hbranch⟩
    · rw [hw] at ht
      obtain ⟨hs, hb, hbranch⟩ := hl.worktree t ht
      exact ⟨hs, hb, ha.hasBranch hbranch⟩
    · have hnew := (Table.lookup_of_insert hw p.worktree).trans (if_pos rfl)
      rw [hnew, Option.some.injEq] at ht
      subst ht
      exact ⟨rfl, rfl, hbranch⟩
  · rcases ha.worktrees with hw | ⟨⟨state, hw⟩, -⟩
    · rw [hw] at ht
      exact hl.registered t ht hs htb
    · rcases (Table.mem_of_insert hw t).1 ht with ht | rfl
      · exact hl.registered t ht hs htb
      · rfl

lemma Added.linked_other (ha : Added p e w w') (hpq : Apart p q) (hl : Linked w q) :
    Linked w' q := by
  refine ⟨fun b hb => ?_, fun t ht => ?_, fun t ht hs htb => ?_⟩
  · rw [ha.lookup_branch hpq] at hb
    exact hl.revision b hb
  · rw [ha.lookup_worktree hpq] at ht
    obtain ⟨hs, hb, hbranch⟩ := hl.worktree t ht
    exact ⟨hs, hb, ha.hasBranch hbranch⟩
  · rcases ha.worktrees with hw | ⟨⟨state, hw⟩, -⟩
    · rw [hw] at ht
      exact hl.registered t ht hs htb
    · rcases (Table.mem_of_insert hw t).1 ht with ht | rfl
      · exact hl.registered t ht hs htb
      · exact absurd (Prod.ext hs htb) hpq.2

lemma Durable.added (hd : Durable c u r w) (hp : p ∈ plans w) (ha : Added p e w w') :
    Durable c u r w' := by
  obtain ⟨x, h, hx, hroot, hplan⟩ := hd.planned
  refine ⟨hd.request, ⟨x, h, by rw [ha.workspace, hx], hroot, by rw [ha.plans]; exact hplan⟩,
    by rw [ha.plans]; exact hd.apart, by rw [ha.plans]; exact hd.commits, fun q hq => ?_, ?_, ?_⟩
  · rw [ha.plans] at hq
    rcases hd.eq_or_apart hp hq with rfl | hpq
    · exact ha.linked_self (hd.linked p hp) (hd.commits p hp)
    · exact ha.linked_other hpq (hd.linked q hq)
  · intro y hy hs
    rw [ha.repositories] at hy
    exact ha.hasBranch (hd.released y hy hs)
  · intro x hx hs q hq
    rw [ha.workspace] at hx
    rw [ha.plans] at hq
    exact ha.hasBranch (hd.closed x hx hs q hq)

/-- What is left of a worktree was there before. -/
lemma mem_leaveWorktree {path : String} {left : Option WorktreeState} {t : GitWorktree}
    (ht : t ∈ (leaveWorktree path left w).worktrees) :
    ∃ s, ({ t with state := s } : GitWorktree) ∈ w.worktrees := by
  cases left with
  | none => exact ⟨t.state, (Table.mem_delete.1 ht).1⟩
  | some state =>
    rcases Table.mem_update_cases ht with ⟨t', ht', -, rfl⟩ | ⟨ht, -⟩
    · exact ⟨t'.state, ht'⟩
    · exact ⟨t.state, ht⟩

lemma worktreeState_leaveWorktree {path other : String} {left : Option WorktreeState} :
    worktreeState other (leaveWorktree path left w) =
      if other = path then (worktreeState path w).bind fun _ => left
      else worktreeState other w := by
  cases left with
  | none =>
    simp only [worktreeState, leaveWorktree, Table.lookup_delete]
    cases ht : w.worktrees.lookup other with
    | none => simp
    | some t =>
      have hpath : t.path = other := (Table.lookup_eq_some.1 ht).2
      by_cases hother : other = path <;> simp [hpath, hother]
  | some state =>
    simp only [worktreeState, leaveWorktree, Table.lookup_update]
    cases ht : w.worktrees.lookup other with
    | none =>
      by_cases hother : other = path
      · subst hother
        simp [ht]
      · simp [hother]
    | some t =>
      have hpath : t.path = other := (Table.lookup_eq_some.1 ht).2
      by_cases hother : other = path
      · subst hother
        simp [ht, hpath]
      · simp [hpath, hother]

lemma Durable.leaveWorktree {path : String} {left : Option WorktreeState}
    (hd : Durable c u r w) : Durable c u r (leaveWorktree path left w) := by
  refine ⟨hd.request, hd.planned, hd.apart, hd.commits, fun p hp => ?_, hd.released, hd.closed⟩
  have hl := hd.linked p hp
  refine ⟨hl.revision, fun t ht => ?_, fun t ht => ?_⟩
  · obtain ⟨ht, hpath⟩ := Table.lookup_eq_some.1 ht
    obtain ⟨s, ht⟩ := mem_leaveWorktree ht
    exact hl.worktree { t with state := s } (Table.lookup_eq_some.2 ⟨ht, hpath⟩)
  · obtain ⟨s, ht⟩ := mem_leaveWorktree ht
    exact hl.registered { t with state := s } ht

end Statements

/-! ## What the calls keep -/

section Calls

variable {A : GitAnswer → Prop} {I K : GitWorld → Prop} {α : Type}

lemma keeps_database {f : GitWorld → α × GitWorld} (hf : ∀ w, I w → I (f w).2) :
    Keeps A I (database f) := by
  refine keeps_ask fun e w _ hw => ?_
  cases e.fails with
  | none => exact hf w hw
  | some detail => exact hw

lemma keeps_git {f : GitWorld → Except GitError α × GitWorld} (hf : ∀ w, I w → I (f w).2) :
    Keeps A I (git f) := by
  refine keeps_ask fun e w _ hw => ?_
  cases e.fails with
  | none => exact hf w hw
  | some detail => exact hw

lemma keeps_read : Keeps A I read := keeps_database fun _ hw => hw

lemma keeps_requiredRead : Keeps A I requiredRead := keeps_read.bind fun _ => keeps_demand

/-- Reading the commit and the branch of a worktree changes nothing. -/
lemma keeps_verifyWorktree {source path : String} :
    Keeps A I (verifyWorktree source path) := keeps_git fun _ hw => hw

/-- A worktree that is not intact has no evidence. -/
lemma worktreeEvidence_broken {source path : String} (hw : worktreeState path w ≠ some .intact) :
    worktreeEvidence source path w = .error (.workspace "Git command failed: rev-parse") := by
  rw [worktreeEvidence]
  cases ht : w.worktrees.lookup path with
  | none => rfl
  | some t =>
    have hstate : t.state ≠ .intact := fun h => hw (by simp [worktreeState, ht, h])
    exact if_pos hstate

lemma holds_branchExists {source branch : String} {Q : Except GitError Bool → GitWorld → Prop}
    (hw : I w) (herr : ∀ x, Q (.error x) w)
    (hok : Q (.ok (w.branches.lookup (source, branch)).isSome) w) :
    Holds A I Q (branchExists source branch) w := by
  refine holds_ask.2 fun e _ => ?_
  cases e.fails with
  | none => exact ⟨hw, hok⟩
  | some detail => exact ⟨hw, herr _⟩

lemma holds_makeParent {Q : Except GitError Unit → GitWorld → Prop} (hw : I w)
    (hQ : ∀ x, Q x w) : Holds A I Q makeParent w := by
  refine holds_ask.2 fun e _ => ?_
  cases e.fails with
  | none => exact ⟨hw, hQ _⟩
  | some detail => exact ⟨hw, hQ _⟩

lemma holds_worktreeAdd (hadd : ∀ e w', A e → Added p e w w' → I w') :
    Holds A I (fun _ w' => I w') (worktreeAdd p.source p.branch p.worktree p.baseRevision) w := by
  suffices h : ∀ e, A e → I _ from holds_ask.2 fun e he => ⟨h e he, h e he⟩
  intro e he
  cases e.fails with
  | some detail =>
    dsimp only
    cases hleft : e.leaves.bind fun left =>
        withBranch ⟨p.worktree, p.source, p.branch, .intact⟩ p.baseRevision left w with
    | none => exact hadd e w he .nothing
    | some w' =>
      obtain ⟨left, hleaves, hw'⟩ := Option.bind_eq_some_iff.1 hleft
      exact hadd e w' he (added_of_withBranch hw' (Or.inr hleaves))
  | none =>
    dsimp only
    cases hw' : withBranch ⟨p.worktree, p.source, p.branch, .intact⟩ p.baseRevision
        (some .intact) w with
    | none => exact hadd e w he .nothing
    | some w' => exact hadd e w' he (added_of_withBranch hw' (Or.inl rfl))

/-- The workspace is not released. -/
def Open (w : GitWorld) : Prop := ∀ x, w.workspace = some x → x.status ≠ .released

/-- A property of the Git state, of the plan and of being open that the calls of `prepare` keep, as
long as the answers meet `A`. -/
structure Frame (A : GitAnswer → Prop) (K : GitWorld → Prop) : Prop where
  database : ∀ w w', w'.branches = w.branches → w'.worktrees = w.worktrees → plans w' = plans w →
    (Open w → Open w') → K w → K w'
  added : ∀ p e w w', A e → p ∈ plans w → (plans w).Pairwise Apart → ¬ HasBranch w p →
    Added p e w w' → K w → K w'

/-- A durable state with the plan `items` and the property `K`. -/
structure Steady (c : GitContext) (u : Upstream) (r : WorkspaceRequest)
    (items : List PlanRepository)
    (K : GitWorld → Prop) (w : GitWorld) : Prop where
  durable : Durable c u r w
  plan : plans w = items
  property : K w

variable {items : List PlanRepository}

lemma open_withStatus {status : WorkspaceStatus} {error : Option String}
    (hne : status ≠ .released) : Open (withStatus status error w) := by
  intro x hx
  obtain ⟨y, -, rfl⟩ := Option.map_eq_some_iff.1 hx
  exact hne

lemma Steady.withStatus (hF : Frame A K) (hs : Steady c u r items K w) {status : WorkspaceStatus}
    {error : Option String} (hne : status ≠ .released) :
    Steady c u r items K (withStatus status error w) :=
  ⟨hs.durable.withStatus fun h => absurd h hne, hs.plan,
    hF.database w _ rfl rfl rfl (fun _ => open_withStatus hne) hs.property⟩

lemma Steady.updateRepository (hF : Frame A K) (hs : Steady c u r items K w) {id : String}
    {f : Table.Assign RepositoryWorktree.key} (hf : ∀ y, planOf (f.set y) = planOf y)
    (hr : ∀ y ∈ w.repositories, y.repositoryId = id → (f.set y).status = .released →
      HasBranch w (planOf y)) : Steady c u r items K (updateRepository id f w) :=
  ⟨hs.durable.updateRepository hf hr, (plans_updateRepository hf).trans hs.plan,
    hF.database w _ rfl rfl (plans_updateRepository hf) (fun h => h) hs.property⟩

lemma keeps_setWorkspace (hF : Frame A K) {status : WorkspaceStatus} {error : Option String}
    (hne : status ≠ .released) : Keeps A (Steady c u r items K) (setWorkspace status error) :=
  keeps_database fun _ hs => hs.withStatus hF hne

lemma keeps_repositoryError (hF : Frame A K) {id detail : String} :
    Keeps A (Steady c u r items K) (repositoryError id detail) :=
  keeps_database fun _ hs => hs.updateRepository hF (fun _ => rfl) fun _ _ _ h => by cases h

lemma keeps_recordReady (hF : Frame A K) {id head : String} :
    Keeps A (Steady c u r items K) (recordReady id head) :=
  keeps_database fun _ hs => hs.updateRepository hF (fun _ => rfl) fun _ _ _ h => by cases h

lemma keeps_conflictAt (hF : Frame A K) {id detail message : String} :
    Keeps A (Steady c u r items K) (conflictAt (α := α) id detail message) :=
  (keeps_repositoryError hF).bind fun _ => keeps_throw

lemma keeps_keepWorktree (hF : Frame A K) :
    Keeps A (Steady c u r items K) (keepWorktree p) := by
  refine keeps_verifyWorktree.bind fun evidence => ?_
  split
  · exact keeps_pure
  · exact keeps_conflictAt hF

/-- A worktree is only added where the repository has no branch. -/
lemma holds_createWorktree (hF : Frame A K) (hp : p ∈ items) (hs : Steady c u r items K w) :
    Holds A (Steady c u r items K) (fun _ w' => Steady c u r items K w') (createWorktree p) w := by
  refine holds_bind.2 (holds_branchExists hs (fun _ => hs) ?_)
  dsimp only
  split
  · exact keeps_conflictAt hF w hs
  · next hbranch =>
    refine holds_bind.2 (holds_makeParent hs ?_)
    rintro (x | a)
    · exact hs
    refine Holds.bind (Q := fun _ w' => Steady c u r items K w')
      (R := fun _ w' => Steady c u r items K w') (holds_worktreeAdd ?_)
      (fun _ w' hs' => keeps_verifyWorktree w' hs') fun _ _ hs' => hs'
    intro e w' he ha
    have hplan : p ∈ plans w := hs.plan.symm ▸ hp
    exact ⟨hs.durable.added hplan ha, ha.plans.trans hs.plan,
      hF.added p e w w' he hplan hs.durable.apart hbranch ha hs.property⟩

lemma keeps_prepareRepository (hF : Frame A K) (hp : p ∈ items) :
    Keeps A (Steady c u r items K) (prepareRepository p) := by
  intro w hs
  refine holds_bind.2 (holds_ask.2 fun e _ => ⟨hs, ?_⟩)
  change Holds A _ _ (_ >>= _) w
  refine Holds.bind (Q := fun _ w' => Steady c u r items K w') ?_ ?_ fun _ _ hs' => hs'
  · split
    · exact keeps_keepWorktree hF w hs
    · exact holds_createWorktree hF hp hs
  · intro evidence w' hs'
    exact Keeps.bind keeps_require (fun _ => keeps_recordReady hF) w' hs'

lemma keeps_prepareOne (hF : Frame A K) (hp : p ∈ items) :
    Keeps A (Steady c u r items K) (prepareOne p) := by
  refine Keeps.tryCatch (keeps_prepareRepository hF hp) fun x => ?_
  cases x with
  | conflict m => exact (keeps_setWorkspace hF (by decide)).bind fun _ => keeps_throw
  | other => exact keeps_throw
  | value m => exact keeps_throw
  | notFound m | dirty m | workspace m =>
    exact (keeps_repositoryError hF).bind fun _ =>
      (keeps_setWorkspace hF (by decide)).bind fun _ => keeps_throw

end Calls

/-! ## The durable plan -/

/-- A retry plans a repository with the commit of its durable plan. -/
lemma planRepository_retry {repositories : Json} {branch id source : String}
    {existing : List RepositoryWorktree} {y : RepositoryWorktree}
    (hy : existing.find? (·.repositoryId = id) = some y) (hbase : y.baseRevision = p.baseRevision)
    (hp : planRepository c u h₀ repositories branch [] id source = .ok p) :
    planRepository c u h repositories branch existing id source = .ok p := by
  simp only [planRepository, Check.bind_ok, Check.pure_ok] at hp ⊢
  obtain ⟨manifest, hm, url, hurl, ⟨⟩, hmatch, default, hdefault, base, -, rfl⟩ := hp
  refine ⟨manifest, hm, url, hurl, (), hmatch, default, hdefault, base, ?_, rfl⟩
  simp only [startRevision, hy, hbase]

lemma planRepository_id {repositories : Json} {branch id source : String}
    {existing : List RepositoryWorktree}
    (hp : planRepository c u h repositories branch existing id source = .ok p) :
    p.repositoryId = id := by
  simp only [planRepository, Check.bind_ok, Check.pure_ok] at hp
  obtain ⟨_, -, _, -, -, -, _, -, _, -, rfl⟩ := hp
  rfl

lemma mem_inOrder {t : Table RepositoryWorktree RepositoryWorktree.key}
    {y : RepositoryWorktree} : y ∈ inOrder t ↔ y ∈ t := by
  simp [inOrder]

/-- The row of a planned repository. -/
lemma find_inOrder {y : RepositoryWorktree} (hy : y ∈ w.repositories) :
    (inOrder w.repositories).find? (·.repositoryId = y.repositoryId) = some y := by
  cases hfind : (inOrder w.repositories).find? (·.repositoryId = y.repositoryId) with
  | none =>
    have := List.find?_eq_none.1 hfind y (mem_inOrder.2 hy)
    simp at this
  | some z =>
    have hz := mem_inOrder.1 (List.mem_of_find?_eq_some hfind)
    have hid : z.repositoryId = y.repositoryId := by simpa using List.find?_some hfind
    rw [w.repositories.eq_of_key hz hy hid]

/-- A retry finds the durable plan again. -/
lemma plan_retry {x : GitWorkspace} (hh : h.workItem = true)
    (hplan : plan c u h₀ r none = .ok (x.manifestDigest, plans w)) :
    plan c u h r (some ⟨x, inOrder w.repositories⟩) = .ok (x.manifestDigest, plans w) := by
  simp only [plan, Check.bind_ok, Check.pure_ok, Check.that_ok, Option.map_none, Option.map_some,
    Option.getD_none, Option.getD_some] at hplan ⊢
  obtain ⟨⟨⟩, -, m, hm, repos, hrepos, branch, hbranch, items, hitems, heq⟩ := hplan
  obtain ⟨hdigest, rfl⟩ := Prod.mk.inj heq
  refine ⟨(), hh, m, ?_, repos, hrepos, branch, hbranch, plans w, ?_, heq⟩
  · simp only [planManifest, Check.found_ok, Option.bind_eq_some_iff, Option.map_eq_some_iff]
      at hm ⊢
    obtain ⟨d, -, s, hs, rfl⟩ := hm
    exact ⟨x.manifestDigest, rfl, s, hdigest ▸ hs, by rw [← hdigest]⟩
  · rw [← hitems]
    refine Check.mapM_congr fun id hid => ?_
    obtain ⟨p, hp, hok⟩ := Check.ok_of_mapM hitems hid
    obtain ⟨y, hy, rfl⟩ := List.mem_map.1 hp
    have hyid : y.repositoryId = id := planRepository_id hok
    rw [hok]
    exact planRepository_retry (hyid ▸ find_inOrder hy) rfl hok

/-- The durable plan is the plan of the retry. -/
lemma samePlan_retry {x : GitWorkspace} (hx : x.workspaceRoot = c.root) :
    SamePlan c ⟨x, inOrder w.repositories⟩ (plans w) := by
  refine ⟨hx, fun y hy => ⟨planOf y, mem_plans (mem_inOrder.1 hy), rfl, rfl⟩, fun p hp => ?_⟩
  obtain ⟨y, hy, rfl⟩ := List.mem_map.1 hp
  exact ⟨y, mem_inOrder.2 hy, rfl, rfl⟩

variable {w₀ : GitWorld} {A : GitAnswer → Prop} {I K : GitWorld → Prop} {α : Type}
  {items : List PlanRepository}

lemma workItem_of_plan {current : Option WorkItemWorkspace} {pl : String × List PlanRepository}
    (hplan : plan c u h r current = .ok pl) : h.workItem = true := by
  simp only [plan, Check.bind_ok, Check.that_ok] at hplan
  obtain ⟨-, hh, -⟩ := hplan
  exact hh

/-- What an inserted plan adds to the repositories. -/
lemma insertRepositories_eq_some {t t' : Table RepositoryWorktree RepositoryWorktree.key}
    (hins : insertRepositories items t = some t') :
    t'.rows = t.rows ++ items.map planRow ∧ (∀ p ∈ items, isCommit p.baseRevision = true) ∧
      items.Pairwise Apart ∧ ∀ y ∈ t, ∀ p ∈ items, Apart (planOf y) p := by
  induction items generalizing t with
  | nil =>
    obtain rfl : t = t' := by simpa [insertRepositories] using hins
    simp
  | cons p items ih =>
    unfold insertRepositories at hins
    split at hins
    · next hcond =>
      obtain ⟨hcommit, -, hfree⟩ := hcond
      obtain ⟨t₁, ht₁, hins⟩ := Option.bind_eq_some_iff.1 hins
      obtain ⟨hrows, hcommits, hpair, hapart⟩ := ih hins
      have hmem := Table.mem_of_insert ht₁
      refine ⟨?_, List.forall_mem_cons.2 ⟨hcommit, hcommits⟩,
        List.pairwise_cons.2 ⟨fun q hq => ?_, hpair⟩, fun y hy q hq => ?_⟩
      · rw [hrows, (Table.insert_eq_some.1 ht₁).2]
        simp
      · exact hapart (planRow p) ((hmem _).2 (Or.inr rfl)) q hq
      · rcases List.mem_cons.1 hq with rfl | hq
        · exact hfree y hy
        · exact hapart y ((hmem y).2 (Or.inl hy)) q hq
    · cases hins

/-- A repository without branch and without a directory at the path of its worktree. -/
def Free (w : GitWorld) (p : PlanRepository) : Prop :=
  hasDirectory p.worktree w = false ∧ ¬ HasBranch w p

lemma Unprepared.lookup_worktree (hw : Unprepared w) (hfree : Free w p) :
    w.worktrees.lookup p.worktree = none := by
  cases ht : w.worktrees.lookup p.worktree with
  | none => rfl
  | some t =>
    have hdirectory := hfree.1
    simp only [hasDirectory, worktreeState, ht, Option.map_some, Option.any_some,
      decide_eq_false_iff_not, not_not] at hdirectory
    exact absurd hdirectory (hw.directories t (Table.lookup_eq_some.1 ht).1)

/-- A preflight that passes has found every repository free. -/
lemma holds_preflightNew (hw : I w) :
    Holds A I (fun x w' => w' = w ∧ (x = .ok () → ∀ p ∈ items, Free w p))
    (preflightNew items) w := by
  induction items with
  | nil => exact ⟨rfl, by simp⟩
  | cons p items ih =>
    refine Holds.bind (p := _) (Q := fun x w' => w' = w ∧ (x = .ok () → Free w p)) ?_ ?_ ?_
    · refine holds_bind.2 (holds_ask.2 fun e _ => ⟨hw, holds_bind.2 (holds_require.2
        ⟨fun hfound => ?_, fun _ => ⟨rfl, by simp⟩⟩)⟩)
      refine holds_bind.2 (holds_branchExists hw (fun _ => ⟨rfl, by simp⟩) (holds_require.2
        ⟨fun hbranch => ⟨rfl, fun _ => ?_⟩, fun _ => ⟨rfl, by simp⟩⟩))
      exact ⟨hfound, by simpa [HasBranch] using hbranch⟩
    · rintro ⟨⟩ w' ⟨rfl, hfree⟩
      refine ih.mono (fun _ h => h) ?_
      rintro x w'' ⟨rfl, hall⟩
      exact ⟨rfl, fun hx => List.forall_mem_cons.2 ⟨hfree rfl, hall hx⟩⟩
    · rintro x w' ⟨rfl, -⟩
      exact ⟨rfl, by simp⟩

/-- A plan that was just made durable. -/
lemma durable_of_insert {digest : String} (actor : String)
    {repositories : Table RepositoryWorktree RepositoryWorktree.key} (hw : Unprepared w)
    (hreq : requireRequest c r = .ok ()) (hplan : plan c u h r none = .ok (digest, items))
    (hfree : ∀ p ∈ items, Free w p)
    (hins : insertRepositories items w.repositories = some repositories) :
    Durable c u r { w with
        workspace := some ⟨digest, c.root, .preparing, actor, none⟩, repositories } ∧
      (∀ p ∈ items, Free w p) ∧ repositories.rows.map planOf = items := by
  obtain ⟨hrows, hcommits, hpair, -⟩ := insertRepositories_eq_some hins
  rw [hw.repositories, Table.rows_empty, List.nil_append] at hrows
  have hplans : repositories.rows.map planOf = items := by
    rw [hrows, List.map_map]
    exact List.map_id items
  refine ⟨⟨hreq, ⟨_, h, rfl, rfl, ?_⟩, ?_, ?_, ?_, ?_, ?_⟩, hfree, hplans⟩
  · simp only [plans, hplans]
    exact hplan
  · simp only [plans, hplans]
    exact hpair
  · simp only [plans, hplans]
    exact hcommits
  · simp only [plans, hplans]
    intro p hp
    have hnb := (hfree p hp).2
    refine ⟨fun b hb => absurd ?_ hnb, fun t ht => ?_, fun t ht hs htb => absurd ?_ hnb⟩
    · simp only [HasBranch]
      exact Option.isSome_of_eq_some hb
    · rw [hw.lookup_worktree (hfree p hp)] at ht
      cases ht
    · rw [HasBranch, ← hs, ← htb]
      exact hw.worktrees t ht
  · intro y hy hs
    obtain ⟨p, hp, rfl⟩ := List.mem_map.1 (hrows ▸ Table.mem_rows.2 hy)
    cases hs
  · rintro x ⟨⟩ hs
    cases hs

/-! ## Preparing -/

/-- The part of `prepare` after its plan is established. -/
def prepareAll (items : List PlanRepository) : GitProgram WorkItemWorkspace := do
  setWorkspace .preparing none
  Program.forEach prepareOne items
  setWorkspace .ready none
  requiredRead

lemma keeps_prepareAll (hF : Frame A K) :
    Keeps A (Steady c u r items K) (prepareAll items) := by
  refine (keeps_setWorkspace hF (by decide)).bind fun _ => ?_
  refine (keeps_forEach fun p hp => keeps_prepareOne hF hp).bind fun _ => ?_
  exact (keeps_setWorkspace hF (by decide)).bind fun _ => keeps_requiredRead

/-- A state that a call of `prepare` reaches: that of before the first call, or a durable one. -/
def Progress (c : GitContext) (u : Upstream) (r : WorkspaceRequest) (w₀ : GitWorld)
    (K : GitWorld → Prop) (w : GitWorld) : Prop :=
  w = w₀ ∨ (Durable c u r w ∧ K w)

lemma Steady.progress (hs : Steady c u r items K w) : Progress c u r w₀ K w :=
  Or.inr ⟨hs.durable, hs.property⟩

lemma holds_prepareAll (hF : Frame A K) (hs : Steady c u r items K w) :
    Holds A (Progress c u r w₀ K) (fun _ w' => Progress c u r w₀ K w') (prepareAll items) w :=
  (keeps_prepareAll hF w hs).mono (fun _ hs' => hs'.progress) fun _ _ hs' => hs'.progress

lemma holds_insertPlan {actorId digest : String} {Q : Except GitError Unit → GitWorld → Prop}
    (hw : I w) (herr : ∀ x, Q (.error x) w)
    (hok : ∀ repositories, insertRepositories items w.repositories = some repositories →
      I { w with
          workspace := some ⟨digest, c.root, .preparing, strip actorId, none⟩, repositories } ∧
        Q (.ok ()) { w with
          workspace := some ⟨digest, c.root, .preparing, strip actorId, none⟩, repositories }) :
    Holds A I Q (insertPlan c actorId digest items) w := by
  refine holds_ask.2 fun e _ => ?_
  cases e.fails with
  | some detail => exact ⟨hw, herr _⟩
  | none =>
    cases w.workspace with
    | some x => exact ⟨hw, herr _⟩
    | none =>
      cases hins : insertRepositories items w.repositories with
      | none => exact ⟨hw, herr _⟩
      | some repositories => exact hok repositories hins

lemma holds_translated {Q : GitWorld → Prop} {message : String} {t : GitProgram α}
    (ht : Holds A I (fun _ w' => Q w') t w) :
    Holds A I (fun _ w' => Q w') (translated message t) w := by
  refine ht.tryCatch (fun _ _ hQ => hQ) fun x w' hQ => ?_
  cases x <;> exact hQ

/-- A call of `prepare` on a durable state does what its last part does. -/
lemma holds_prepare_durable {Q : GitWorld → Prop} (hd : Durable c u r w) (hw : I w) (hQ : Q w)
    (hall : Holds A I (fun _ w' => Q w') (prepareAll (plans w)) w) :
    Holds A I (fun _ w' => Q w') (prepare c u h r) w := by
  obtain ⟨x, h₀, hx, hroot, hplan⟩ := hd.planned
  refine holds_bind.2 (holds_ofExcept.2 ?_)
  rw [hd.request]
  refine holds_translated (Holds.bind (Q := fun a w' => w' = w ∧
    ∀ current, a = .ok current → current = some ⟨x, inOrder w.repositories⟩) ?_ ?_ ?_)
  · refine holds_ask.2 fun e _ => ?_
    cases e.fails with
    | some detail => exact ⟨hw, rfl, by simp⟩
    | none => exact ⟨hw, rfl, by simp [hx]⟩
  · rintro current w' ⟨rfl, hcurrent⟩
    obtain rfl := hcurrent current rfl
    refine Holds.bind (Q := fun a w'' => w'' = w' ∧
      ∀ planned, a = .ok planned → planned.2 = plans w') ?_ ?_ ?_
    · refine holds_ask.2 fun e _ => ?_
      cases e.fails with
      | some detail => exact ⟨hw, rfl, by simp⟩
      | none =>
        refine ⟨hw, rfl, fun planned hp => ?_⟩
        rw [plan_retry (workItem_of_plan hp) hplan] at hp
        cases hp
        rfl
    · rintro planned w'' ⟨rfl, hplanned⟩
      rw [hplanned planned rfl]
      refine holds_bind.2 (holds_bind.2 (holds_require.2 ⟨fun _ => ?_, fun _ => hQ⟩))
      exact holds_require.2 ⟨fun _ => hall, fun _ => hQ⟩
    · rintro y w'' ⟨rfl, -⟩
      exact hQ
  · rintro y w' ⟨rfl, -⟩
    exact hQ

/-- **Retrying.** A call of `prepare` on a durable state keeps it durable. -/
theorem holds_prepare_retry (hF : Frame A K) (hd : Durable c u r w) (hK : K w) :
    Holds A (Progress c u r w₀ K) (fun _ w' => Progress c u r w₀ K w') (prepare c u h r) w :=
  holds_prepare_durable hd (Or.inr ⟨hd, hK⟩) (Or.inr ⟨hd, hK⟩)
    (holds_prepareAll hF ⟨hd, rfl, hK⟩)

/-- **Preparing.** A first call of `prepare` leaves the state alone or makes it durable. -/
theorem holds_prepare_new (hF : Frame A K) (hw₀ : Unprepared w₀)
    (hnew : ∀ w, (∀ p ∈ plans w, Free w p) → (∀ p ∈ plans w, Linked w p) → Open w → K w) :
    Holds A (Progress c u r w₀ K) (fun _ w' => Progress c u r w₀ K w') (prepare c u h r) w₀ := by
  have hw : Progress c u r w₀ K w₀ := Or.inl rfl
  refine holds_bind.2 (holds_ofExcept.2 ?_)
  cases hreq : requireRequest c r with
  | error x => exact hw
  | ok a =>
    refine holds_translated (Holds.bind (Q := fun a w' => w' = w₀ ∧
      ∀ current, a = .ok current → current = none) ?_ ?_ ?_)
    · refine holds_ask.2 fun e _ => ?_
      cases e.fails with
      | some detail => exact ⟨hw, rfl, by simp⟩
      | none => exact ⟨hw, rfl, by simp [hw₀.workspace]⟩
    · rintro current w' ⟨rfl, hcurrent⟩
      obtain rfl := hcurrent current rfl
      refine Holds.bind (Q := fun a w'' => w'' = w' ∧
        ∀ planned, a = .ok planned → plan c u h r none = .ok planned) ?_ ?_ ?_
      · refine holds_ask.2 fun e _ => ?_
        cases e.fails with
        | some detail => exact ⟨hw, rfl, by simp⟩
        | none => exact ⟨hw, rfl, fun planned hp => hp⟩
      · rintro planned w'' ⟨rfl, hplanned⟩
        have hplan := hplanned planned rfl
        refine Holds.bind (Q := fun a w' => (a = .ok () → Steady c u r planned.2 K w') ∧
          Progress c u r w'' K w') ?_ ?_ ?_
        · refine (holds_preflightNew hw).bind ?_ ?_
          · rintro ⟨⟩ w' ⟨rfl, hfree⟩
            refine holds_insertPlan hw (fun _ => ⟨by simp, hw⟩) fun repositories hins => ?_
            obtain ⟨hd, hfree', hplans⟩ :=
              durable_of_insert (strip r.actorId) hw₀ hreq hplan (hfree rfl) hins
            have hs : Steady c u r planned.2 K _ :=
              ⟨hd, hplans, hnew _ (fun p hp => hfree' p (hplans ▸ hp)) hd.linked
                fun x hx => by cases hx; simp⟩
            exact ⟨hs.progress, fun _ => hs, hs.progress⟩
          · rintro y w' ⟨rfl, -⟩
            exact ⟨by simp, hw⟩
        · rintro ⟨⟩ w' ⟨hs, -⟩
          exact holds_prepareAll hF (hs rfl)
        · rintro y w' ⟨-, hp⟩
          exact hp
      · rintro y w'' ⟨rfl, -⟩
        exact hw
    · rintro y w' ⟨rfl, -⟩
      exact hw

/-! ## Cleaning up -/

/-- What a removal may leave of a worktree, when the answers meet `A`. -/
def Leaves (A : GitAnswer → Prop) (left : Option WorktreeState) : Prop :=
  left = none ∨ ∃ e, A e ∧ e.leaves = some left

/-- A property of the Git state and of the plan that `cleanup` keeps, as long as the answers
meet `A`. -/
structure CleanupFrame (A : GitAnswer → Prop) (K : GitWorld → Prop) : Prop where
  database : ∀ w w', w'.branches = w.branches → w'.worktrees = w.worktrees → plans w' = plans w →
    K w → K w'
  removed : ∀ w path left, worktreeState path w = some .intact → Leaves A left → K w →
    K (leaveWorktree path left w)

/-- A durable state that a call of `cleanup` reaches from `v`: only intact worktrees are removed. -/
structure Cleaning (c : GitContext) (u : Upstream) (r : WorkspaceRequest) (v : GitWorld)
    (K : GitWorld → Prop) (w : GitWorld) : Prop where
  durable : Durable c u r w
  plan : plans w = plans v
  branches : w.branches = v.branches
  broken : ∀ p, Clean w p → Clean v p
  property : K w

variable {v : GitWorld} {y : RepositoryWorktree}

lemma Cleaning.hasBranch (hc : Cleaning c u r v K w) : HasBranch w p ↔ HasBranch v p := by
  rw [HasBranch, HasBranch, hc.branches]

/-- The row of a repository that the call has read. -/
lemma Cleaning.planOf_eq (hc : Cleaning c u r v K w) (hy : planOf y ∈ plans v)
    {z : RepositoryWorktree} (hz : z ∈ w.repositories) (hid : z.repositoryId = y.repositoryId) :
    planOf z = planOf y := by
  rw [← hc.plan] at hy
  obtain ⟨z', hz', heq⟩ := List.mem_map.1 hy
  have hid' : z'.repositoryId = y.repositoryId := congrArg PlanRepository.repositoryId heq
  rw [w.repositories.eq_of_key hz hz' (hid.trans hid'.symm), heq]

lemma Cleaning.withStatus (hF : CleanupFrame A K) (hc : Cleaning c u r v K w)
    {status : WorkspaceStatus} {error : Option String} (hs : status = .released → Branched v) :
    Cleaning c u r v K (withStatus status error w) := by
  refine ⟨hc.durable.withStatus fun h p hp => ?_, hc.plan, hc.branches, hc.broken,
    hF.database w _ rfl rfl rfl hc.property⟩
  exact hc.hasBranch.2 (hs h p (hc.plan ▸ hp))

lemma Cleaning.updateRepository (hF : CleanupFrame A K) (hc : Cleaning c u r v K w)
    {f : Table.Assign RepositoryWorktree.key} (hf : ∀ z, planOf (f.set z) = planOf z)
    (hy : planOf y ∈ plans v) (hr : ∀ z, (f.set z).status = .released → HasBranch v (planOf y)) :
    Cleaning c u r v K (updateRepository y.repositoryId f w) := by
  refine ⟨hc.durable.updateRepository hf fun z hz hid hstatus => ?_,
    (plans_updateRepository hf).trans hc.plan, hc.branches, hc.broken,
    hF.database w _ rfl rfl (plans_updateRepository hf) hc.property⟩
  rw [hc.planOf_eq hy hz hid]
  exact hc.hasBranch.2 (hr z hstatus)

lemma Cleaning.leaveWorktree (hF : CleanupFrame A K) (hc : Cleaning c u r v K w) {path : String}
    {left : Option WorktreeState} (hpath : worktreeState path w = some .intact)
    (hleft : Leaves A left) : Cleaning c u r v K (leaveWorktree path left w) := by
  refine ⟨hc.durable.leaveWorktree, hc.plan, hc.branches, fun p hp => hc.broken p ?_,
    hF.removed w path left hpath hleft hc.property⟩
  by_cases hsame : p.worktree = path
  · have hintact : HasWorktree w p := by rwa [HasWorktree, hsame]
    exact hintact.clean
  · rwa [Clean, worktreeState_leaveWorktree, if_neg hsame] at hp

lemma keeps_cleanupStatus (hF : CleanupFrame A K) {status : WorkspaceStatus}
    {error : Option String} (hs : status = .released → Branched v) :
    Keeps A (Cleaning c u r v K) (setWorkspace status error) :=
  keeps_database fun _ hc => hc.withStatus hF hs

lemma keeps_cleanupError (hF : CleanupFrame A K) (hy : planOf y ∈ plans v) {detail : String} :
    Keeps A (Cleaning c u r v K) (repositoryError y.repositoryId detail) :=
  keeps_database fun _ hc => hc.updateRepository hF (fun _ => rfl) hy fun _ h => by cases h

/-- A worktree that is removed was intact. -/
lemma holds_worktreeRemove (hF : CleanupFrame A K) (hc : Cleaning c u r v K w) :
    Holds A (Cleaning c u r v K)
      (fun x w' => Cleaning c u r v K w' ∧ (x = .ok () → Clean v p))
      (worktreeRemove p.worktree) w := by
  refine holds_ask.2 fun e he => ?_
  split
  · next hintact =>
    cases e.fails with
    | some detail =>
      cases hleaves : e.leaves with
      | none => exact ⟨hc, hc, by simp⟩
      | some left =>
        have hc' := hc.leaveWorktree hF hintact (Or.inr ⟨e, he, hleaves⟩)
        exact ⟨hc', hc', by simp⟩
    | none =>
      have hc' := hc.leaveWorktree hF hintact (Or.inl rfl)
      exact ⟨hc', hc', fun _ => hc.broken p (HasWorktree.clean hintact)⟩
  · exact ⟨hc, hc, by simp⟩

/-- What is found of a repository whose worktree is removed or gone: its branch exists, and nothing
of the worktree was broken. -/
lemma holds_removeWorktree (hF : CleanupFrame A K) (hy : planOf y ∈ plans v)
    (hc : Cleaning c u r v K w) (hfound : hasDirectory y.worktreePath w = true) :
    Holds A (Cleaning c u r v K)
      (fun x w' => Cleaning c u r v K w' ∧ ∀ a, x = .ok a →
        HasBranch v (planOf y) ∧ Clean v (planOf y))
      (removeWorktree y) w := by
  have hbranch : HasBranch v (planOf y) :=
    hc.hasBranch.1 ((hc.durable.linked _ (hc.plan ▸ hy)).hasBranch_of_directory hfound)
  refine (keeps_verifyWorktree w hc).bind (fun evidence w hc => ?_) fun _ _ hc => ⟨hc, by simp⟩
  refine (keeps_require w hc).bind (fun _ w hc => ?_) fun _ _ hc => ⟨hc, by simp⟩
  refine Holds.bind (Q := fun _ w' => Cleaning c u r v K w') (holds_ask.2 fun e _ => ?_)
    (fun dirty w hc => ?_) fun _ _ hc => ⟨hc, by simp⟩
  · cases e.fails <;> exact ⟨hc, hc⟩
  · split
    · refine Holds.bind (Q := fun _ w' => Cleaning c u r v K w') ?_
        (fun _ w hc => ⟨hc, by simp⟩) fun _ _ hc => ⟨hc, by simp⟩
      exact (keeps_database fun w hc => hc.updateRepository hF (fun _ => rfl) hy
        fun _ h => by cases h) w hc
    · refine (holds_worktreeRemove (p := planOf y) hF hc).bind ?_ ?_
      · rintro ⟨⟩ w' ⟨hc', hclean⟩
        exact ⟨hc', fun _ _ => ⟨hbranch, hclean rfl⟩⟩
      · rintro x w' ⟨hc', -⟩
        exact ⟨hc', by simp⟩

/-- Neither the directory nor the registration of a worktree is left. -/
lemma Linked.clean_of_gone (hl : Linked w (planOf y))
    (hdirectory : hasDirectory y.worktreePath w = false)
    (hregistered : w.worktrees.find (fun t => t.source = y.sourcePath ∧ t.branch = y.branchName ∧
      t.state ≠ .directory) = none) : Clean w (planOf y) := by
  intro s hs
  obtain ⟨t, ht, rfl⟩ := Option.map_eq_some_iff.1 hs
  obtain ⟨hsource, hbranch, -⟩ := hl.worktree t ht
  have hnone := Table.find_eq_none.1 hregistered t (Table.lookup_eq_some.1 ht).1
  have hstate : t.state = .registration := by
    have hlookup : w.worktrees.lookup y.worktreePath = some t := ht
    simpa [hasDirectory, worktreeState, hlookup] using hdirectory
  exact absurd ⟨hsource, hbranch, by rw [hstate]; decide⟩ hnone

lemma holds_goneWorktree (hy : planOf y ∈ plans v) (hc : Cleaning c u r v K w)
    (hfound : hasDirectory y.worktreePath w = false) :
    Holds A (Cleaning c u r v K)
      (fun x w' => Cleaning c u r v K w' ∧ ∀ a, x = .ok a →
        HasBranch v (planOf y) ∧ Clean v (planOf y))
      (goneWorktree y) w := by
  refine holds_bind.2 (holds_ask.2 fun e _ => ?_)
  cases e.fails with
  | some detail => exact ⟨hc, hc, by simp⟩
  | none =>
    refine ⟨hc, holds_bind.2 (holds_require.2 ⟨fun hregistered => ?_, fun _ => ⟨hc, by simp⟩⟩)⟩
    refine holds_bind.2 (holds_branchExists hc (fun _ => ⟨hc, by simp⟩) ?_)
    refine holds_bind.2 (holds_require.2 ⟨fun hbranch => ?_, fun _ => ⟨hc, by simp⟩⟩)
    have hl := hc.durable.linked _ (hc.plan ▸ hy)
    have hclean := hl.clean_of_gone hfound (Option.map_eq_none_iff.1 hregistered)
    have hv : HasBranch v (planOf y) ∧ Clean v (planOf y) :=
      ⟨hc.hasBranch.1 hbranch, hc.broken _ hclean⟩
    refine holds_ask.2 fun e' _ => ?_
    cases e'.fails with
    | some detail => exact ⟨hc, hc, fun _ _ => hv⟩
    | none =>
      dsimp only
      cases w.branches.lookup (y.sourcePath, y.branchName) with
      | none => exact ⟨hc, hc, fun _ _ => hv⟩
      | some b => exact ⟨hc, hc, fun _ _ => hv⟩

/-- A repository is only released with its branch, and not after a removal in part. -/
lemma holds_releaseRepository (hF : CleanupFrame A K) (hy : planOf y ∈ plans v)
    (hc : Cleaning c u r v K w) :
    Holds A (Cleaning c u r v K)
      (fun x w' => Cleaning c u r v K w' ∧
        (x = .ok () → HasBranch v (planOf y) ∧ Clean v (planOf y)))
      (releaseRepository y) w := by
  refine holds_bind.2 (holds_ask.2 fun e _ => ⟨hc, ?_⟩)
  change Holds A _ _ (_ >>= _) w
  refine Holds.bind (Q := fun x w' => Cleaning c u r v K w' ∧
    ∀ a, x = .ok a → HasBranch v (planOf y) ∧ Clean v (planOf y)) ?_ ?_ ?_
  · split
    · next hfound => exact holds_removeWorktree hF hy hc hfound
    · next hfound => exact holds_goneWorktree hy hc (by simpa using hfound)
  · rintro head w' ⟨hc', hv⟩
    have hreleased := hv head rfl
    refine holds_ask.2 fun e' _ => ?_
    cases e'.fails with
    | some detail => exact ⟨hc', hc', by simp⟩
    | none =>
      have hnew := hc'.updateRepository hF (y := y)
        (f := { set := fun z => { z with
          status := .released, currentRevision := some head, lastError := none } })
        (fun _ => rfl) hy fun _ _ => hreleased.1
      exact ⟨hnew, hnew, fun _ => hreleased⟩
  · rintro x w' ⟨hc', -⟩
    exact ⟨hc', by simp⟩

/-- A failure is recorded and raised again. -/
lemma holds_cleanupFailed (hF : CleanupFrame A K) (hy : planOf y ∈ plans v)
    (hc : Cleaning c u r v K w) {x : GitError} {detail : String} {error : Option String} :
    Holds A (Cleaning c u r v K) (fun a w' => Cleaning c u r v K w' ∧ ∀ b, a ≠ .ok b)
      (do
        repositoryError y.repositoryId detail
        setWorkspace .error error
        throw x : GitProgram α) w := by
  refine (keeps_cleanupError hF hy w hc).bind (fun _ w' hc' => ?_) fun _ _ hc' => ⟨hc', by simp⟩
  refine (keeps_cleanupStatus hF (by simp) w' hc').bind (fun _ w'' hc'' => ?_)
    fun _ _ hc'' => ⟨hc'', by simp⟩
  exact ⟨hc'', by simp⟩

lemma holds_releaseOne (hF : CleanupFrame A K) (hy : planOf y ∈ plans v)
    (hc : Cleaning c u r v K w) :
    Holds A (Cleaning c u r v K)
      (fun x w' => Cleaning c u r v K w' ∧ (x = .ok false → CanRelease v y))
      (releaseOne y) w := by
  unfold releaseOne
  split
  · next hs => exact ⟨hc, fun _ => Or.inl hs⟩
  · refine Holds.tryCatch (Q := fun x w' => Cleaning c u r v K w' ∧
      (x = .ok false → CanRelease v y)) ?_ (fun a w' h => h) ?_
    · refine Holds.bind (holds_releaseRepository hF hy hc) ?_ ?_
      · rintro ⟨⟩ w' ⟨hc', hv⟩
        exact ⟨hc', fun _ => Or.inr (hv rfl)⟩
      · rintro x w' ⟨hc', -⟩
        exact ⟨hc', by simp⟩
    · rintro x w' ⟨hc', -⟩
      cases x with
      | dirty m => exact ⟨hc', by simp⟩
      | other => exact ⟨hc', by simp⟩
      | value m => exact ⟨hc', by simp⟩
      | notFound m | conflict m | workspace m =>
        exact (holds_cleanupFailed hF hy hc').mono (fun _ h => h) fun a _ h => ⟨h.1, by simp [h.2]⟩

/-- When nothing is blocked, every repository could be released. -/
lemma holds_releaseAll (hF : CleanupFrame A K) {ys : List RepositoryWorktree}
    (hys : ∀ y ∈ ys, planOf y ∈ plans v) (hc : Cleaning c u r v K w) :
    Holds A (Cleaning c u r v K)
      (fun x w' => Cleaning c u r v K w' ∧ (x = .ok [] → ∀ y ∈ ys, CanRelease v y))
      (releaseAll ys) w := by
  induction ys generalizing w with
  | nil => exact ⟨hc, by simp⟩
  | cons y ys ih =>
    obtain ⟨hy, hys⟩ := List.forall_mem_cons.1 hys
    refine Holds.bind (holds_releaseOne hF hy hc) ?_ ?_
    · rintro blocked w' ⟨hc', hv⟩
      refine Holds.bind (ih hys hc') ?_ ?_
      · rintro rest w'' ⟨hc'', hrest⟩
        refine ⟨hc'', fun hnil => ?_⟩
        cases blocked with
        | true => simp at hnil
        | false =>
          have hrest' : rest = [] := by simpa using hnil
          exact List.forall_mem_cons.2 ⟨hv rfl, hrest (by rw [hrest'])⟩
      · rintro x w'' ⟨hc'', -⟩
        exact ⟨hc'', by simp⟩
    · rintro x w' ⟨hc', -⟩
      exact ⟨hc', by simp⟩

/-- What a call of `cleanup` that returns has found. -/
def Cleaned (c : GitContext) (u : Upstream) (r : WorkspaceRequest) (v : GitWorld)
    (K : GitWorld → Prop) (x : Except GitError WorkItemWorkspace) (w : GitWorld) : Prop :=
  Cleaning c u r v K w ∧
    ∀ a, x = .ok a → a.workspace.status = .released → Releasable v

lemma holds_requiredRead (hc : Cleaning c u r v K w) :
    Holds A (Cleaning c u r v K)
      (fun x w' => w' = w ∧ ∀ a, x = .ok a → ∃ y, w.workspace = some y ∧
        a = ⟨y, inOrder w.repositories⟩) requiredRead w := by
  refine holds_bind.2 (holds_ask.2 fun e _ => ?_)
  cases e.fails with
  | some detail => exact ⟨hc, rfl, by simp⟩
  | none =>
    refine ⟨hc, holds_demand.2 ⟨fun a ha => ⟨rfl, ?_⟩, fun _ => ⟨rfl, by simp⟩⟩⟩
    rintro b ⟨⟩
    obtain ⟨y, hy, rfl⟩ := Option.map_eq_some_iff.1 ha
    exact ⟨y, hy, rfl⟩

lemma holds_cleanupLocked (hF : CleanupFrame A K) (hc : Cleaning c u r v K w) (hw : w = v) :
    Holds A (Cleaning c u r v K) (Cleaned c u r v K) cleanupLocked w := by
  refine (holds_requiredRead hc).bind ?_ ?_
  · rintro current w' ⟨rfl, hcurrent⟩
    obtain ⟨x, hx, rfl⟩ := hcurrent current rfl
    split
    · next hs => exact ⟨hc, fun _ _ _ => hw ▸ Or.inl ⟨x, hx, hs⟩⟩
    · refine (keeps_cleanupStatus hF (by simp) w' hc).bind (fun _ w₁ hc₁ => ?_)
        fun _ _ hc₁ => ⟨hc₁, by simp⟩
      refine (holds_releaseAll hF (fun y hy => ?_) hc₁).bind ?_ ?_
      · exact hw ▸ mem_plans (mem_inOrder.1 hy)
      · rintro blocked w₂ ⟨hc₂, hblocked⟩
        unfold finishCleanup
        split
        · next hnil =>
          have hall : Releasable v := Or.inr fun y hy =>
            hblocked (by rw [hnil]) y (mem_inOrder.2 (hw ▸ hy))
          have hbranched : Branched v := hw ▸ hc.durable.branched (hw ▸ hall)
          refine (keeps_cleanupStatus hF (fun _ => hbranched) w₂ hc₂).bind (fun _ w₃ hc₃ => ?_)
            fun _ _ hc₃ => ⟨hc₃, by simp⟩
          refine (holds_requiredRead hc₃).mono (fun _ h => h) ?_
          rintro a w₄ ⟨rfl, -⟩
          exact ⟨hc₃, fun _ _ _ => hall⟩
        · refine (keeps_cleanupStatus hF (by simp) w₂ hc₂).bind (fun _ w₃ hc₃ => ?_)
            fun _ _ hc₃ => ⟨hc₃, by simp⟩
          exact ⟨hc₃, by simp⟩
      · rintro a w₂ ⟨hc₂, -⟩
        exact ⟨hc₂, by simp⟩
  · rintro x w' ⟨rfl, -⟩
    exact ⟨hc, by simp⟩

/-- **Cleaning up.** A call of `cleanup` keeps a durable state durable, and releases the workspace
only if it was released or every repository could be. -/
theorem holds_cleanup (hF : CleanupFrame A K) (actorId : String) (hd : Durable c u r w) (hK : K w) :
    Holds A (Cleaning c u r w K) (Cleaned c u r w K) (cleanup c actorId) w := by
  have hc : Cleaning c u r w K w := ⟨hd, rfl, rfl, fun _ h => h, hK⟩
  refine holds_bind.2 (holds_ofExcept.2 ?_)
  split
  · refine Holds.tryCatch (Q := Cleaned c u r w K) ?_ (fun _ _ h => h) ?_
    · refine (holds_requiredRead hc).bind ?_ ?_
      · rintro _ w' ⟨rfl, -⟩
        exact holds_cleanupLocked hF hc rfl
      · rintro x w' ⟨rfl, -⟩
        exact ⟨hc, by simp⟩
    · rintro x w' ⟨hc', -⟩
      cases x <;> exact ⟨hc', by simp⟩
  · exact ⟨hc, by simp⟩

/-- A call of `cleanup` without workspace leaves the state alone. -/
lemma holds_cleanup_absent {actorId : String} (hw : w.workspace = none) :
    Holds A (fun w' => w' = w) (fun _ w' => w' = w) (cleanup c actorId) w := by
  refine holds_bind.2 (holds_ofExcept.2 ?_)
  split
  · refine Holds.tryCatch (Q := fun _ w' => w' = w) ?_ (fun _ _ h => h) ?_
    · refine Holds.bind (Q := fun x w' => w' = w ∧ ∀ a, x ≠ .ok a) ?_ ?_ ?_
      · refine holds_bind.2 (holds_ask.2 fun e _ => ?_)
        cases e.fails with
        | some detail => exact ⟨rfl, rfl, by simp⟩
        | none => exact ⟨rfl, holds_demand.2 ⟨by simp [hw], fun _ => ⟨rfl, by simp⟩⟩⟩
      · rintro a w' ⟨-, hne⟩
        exact absurd rfl (hne a)
      · rintro x w' ⟨rfl, -⟩
        rfl
    · rintro x w' rfl
      cases x <;> rfl
  · rfl

end GitWorktreeCoordinator

end AgenticMesh
