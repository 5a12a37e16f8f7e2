import AgenticMesh.Worktree.Retry

/-!
# Runs of a workspace

Any sequence of calls of `prepare` and `cleanup` for one request, under any
failures and crashes.  Every state that it reaches is that of before the first
call, or durable, and the outcome of a further call is known from it.  Runs of
`prepare` in which a `git worktree` that fails has changed nothing, and such runs
in which `cleanup` waits for every branch, can always go on.  A `cleanup` that is
called before leaves a dead end when it has removed a worktree and found no
branch for another repository.
-/

namespace AgenticMesh

namespace GitWorktreeCoordinator

open Program

variable {c : GitContext} {u : Upstream} {h : Heads} {r : WorkspaceRequest} {w w₀ v : GitWorld}
  {p q : PlanRepository} {y : RepositoryWorktree} {A : GitAnswer → Prop} {K : GitWorld → Prop}

/-! ## Runs -/

/-- A call for the work item, with the answers that it gets before it ends or its process dies. -/
inductive WorkspaceEvent where
  | prepare (h : Heads) (answers : List GitAnswer)
  | cleanup (actorId : String) (answers : List GitAnswer)

/-- The state after a call. -/
def call (c : GitContext) (u : Upstream) (r : WorkspaceRequest) (w : GitWorld) :
    WorkspaceEvent → GitWorld
  | .prepare h answers => ((GitWorktreeCoordinator.prepare c u h r).run answers w).2
  | .cleanup actorId answers => ((GitWorktreeCoordinator.cleanup c actorId).run answers w).2

/-- No `git worktree` fails after it has begun. -/
def Atomic (answers : List GitAnswer) : Prop := ∀ a ∈ answers, AtomicAnswer a

/-- A call of `prepare` whose Git commands are atomic. -/
def Preparing : WorkspaceEvent → Prop
  | .prepare _ answers => Atomic answers
  | .cleanup _ _ => False

/-- Git commands are atomic, and `cleanup` is called when every repository has its branch. -/
def Careful (w : GitWorld) : WorkspaceEvent → Prop
  | .prepare _ answers => Atomic answers
  | .cleanup _ answers => Branched w ∧ Atomic answers

lemma progress_prepare (hF : Frame A K) (hw₀ : Unprepared w₀)
    (hnew : ∀ w, (∀ p ∈ plans w, Free w p) → (∀ p ∈ plans w, Linked w p) → Open w → K w)
    (hw : Progress c u r w₀ K w)
    {answers : List GitAnswer} (hA : ∀ a ∈ answers, A a) :
    Progress c u r w₀ K ((prepare c u h r).run answers w).2 := by
  rcases hw with rfl | ⟨hd, hK⟩
  · exact (Holds.run (I := Progress c u r w K) (Or.inl rfl) (holds_prepare_new hF hw₀ hnew)
      answers hA).1
  · exact (Holds.run (I := Progress c u r w₀ K) (Or.inr ⟨hd, hK⟩)
      (holds_prepare_retry hF hd hK) answers hA).1

lemma cleanup_absent (hw : w.workspace = none) {actorId : String} {answers : List GitAnswer} :
    ((cleanup c actorId).run answers w).2 = w :=
  (Holds.run (I := fun w' => w' = w) rfl (holds_cleanup_absent (A := fun _ => True) hw)
    answers fun _ _ => trivial).1

lemma progress_cleanup (hF : CleanupFrame A K) (hw₀ : Unprepared w₀)
    (hw : Progress c u r w₀ K w) {actorId : String} {answers : List GitAnswer}
    (hA : ∀ a ∈ answers, A a) :
    Progress c u r w₀ K ((cleanup c actorId).run answers w).2 := by
  rcases hw with rfl | ⟨hd, hK⟩
  · exact Or.inl (cleanup_absent hw₀.workspace)
  · have hc := (Holds.run (I := Cleaning c u r w K) ⟨hd, rfl, rfl, fun _ h => h, hK⟩
      (holds_cleanup hF actorId hd hK) answers hA).1
    exact Or.inr ⟨hc.durable, hc.property⟩

/-- Every state of every run is that of before the first call, or durable. -/
lemma progress_run (hw₀ : Unprepared w₀) (es : List WorkspaceEvent) :
    Progress c u r w₀ Anything (AgenticMesh.run (call c u r) w₀ es) := by
  refine invariant_run (I := Progress c u r w₀ Anything) (fun w e hw => ?_) (Or.inl rfl) es
  cases e with
  | prepare h answers =>
    exact progress_prepare (A := fun _ => True) Anything.frame hw₀ (fun _ _ _ _ => trivial) hw
      fun _ _ => trivial
  | cleanup actorId answers =>
    exact progress_cleanup (A := fun _ => True) cleanupFrame_anything hw₀ hw fun _ _ => trivial

lemma whole_of_free (hfree : ∀ p ∈ plans w, Free w p) : Whole w :=
  fun p hp hb => absurd hb (hfree p hp).2

lemma tidy_of_free (hlinked : ∀ p ∈ plans w, Linked w p) (hfree : ∀ p ∈ plans w, Free w p) :
    Tidy w := by
  intro p hp s hs
  rw [worktreeState, (hlinked p hp).lookup_worktree (hfree p hp).2] at hs
  cases hs

/-- A preparation stays open. -/
lemma Open.frame : Frame A Open := by
  refine ⟨fun w w' _ _ _ ho hw => ho hw, fun p e w w' _ _ _ _ ha hw x hx => ?_⟩
  exact hw x (ha.workspace ▸ hx)

lemma Frame.and {K' : GitWorld → Prop} (hF : Frame A K) (hF' : Frame A K') :
    Frame A fun w => K w ∧ K' w :=
  ⟨fun w w' hb ht hp ho h => ⟨hF.database w w' hb ht hp ho h.1, hF'.database w w' hb ht hp ho h.2⟩,
    fun p e w w' he hp hapart hnb ha h =>
      ⟨hF.added p e w w' he hp hapart hnb ha h.1, hF'.added p e w w' he hp hapart hnb ha h.2⟩⟩

/-- In a run of `prepare` alone no branch is left without its worktree. -/
lemma progress_preparing (hw₀ : Unprepared w₀) {es : List WorkspaceEvent}
    (hes : ∀ e ∈ es, Preparing e) :
    Progress c u r w₀ (fun w => Whole w ∧ Open w) (AgenticMesh.run (call c u r) w₀ es) := by
  have hF := Whole.frame.and Open.frame
  induction es using List.reverseRecOn with
  | nil => exact Or.inl rfl
  | append_singleton es e ih =>
    rw [run_append]
    have hw := ih fun x hx => hes x (List.mem_append_left _ hx)
    have he := hes e (by simp)
    cases e with
    | prepare h answers =>
      exact progress_prepare hF hw₀ (fun _ hfree _ ho => ⟨whole_of_free hfree, ho⟩) hw he
    | cleanup actorId answers => exact he.elim

/-- The branches stay, and a worktree that is removed is gone. -/
lemma settled_cleanupFrame : CleanupFrame AtomicAnswer fun w => Branched w ∧ Tidy w := by
  refine ⟨fun w w' hb ht hp h => ⟨fun p hplan => ?_, fun p hplan => ?_⟩,
    fun w path left hpath hleft h => ⟨h.1, fun p hplan => ?_⟩⟩
  · rw [HasBranch, hb]
    exact h.1 p (hp ▸ hplan)
  · rw [Clean, worktreeState, ht]
    exact h.2 p (hp ▸ hplan)
  · rw [Clean, worktreeState_leaveWorktree, hleft.eq_none, hpath]
    split
    · simp
    · exact h.2 p hplan

/-- In a careful run no branch is left without its worktree before every repository has its
branch, and no worktree is removed in part. -/
lemma progress_careful (hw₀ : Unprepared w₀) {es : List WorkspaceEvent}
    (hes : Along (call c u r) Careful w₀ es) :
    Progress c u r w₀ (fun w => (Whole w ∨ Branched w) ∧ Tidy w)
      (AgenticMesh.run (call c u r) w₀ es) := by
  refine invariant_along (I := Progress c u r w₀ fun w => (Whole w ∨ Branched w) ∧ Tidy w)
    (fun w e hw he => ?_) (Or.inl rfl) hes
  have hwhole : ∀ {w'}, Progress c u r w₀ (fun w => Whole w ∧ Tidy w) w' →
      Progress c u r w₀ (fun w => (Whole w ∨ Branched w) ∧ Tidy w) w' :=
    fun h => h.imp_right fun ⟨hd, hK⟩ => ⟨hd, Or.inl hK.1, hK.2⟩
  have hbranched : ∀ {w'}, Progress c u r w₀ (fun w => Branched w ∧ Tidy w) w' →
      Progress c u r w₀ (fun w => (Whole w ∨ Branched w) ∧ Tidy w) w' :=
    fun h => h.imp_right fun ⟨hd, hK⟩ => ⟨hd, Or.inr hK.1, hK.2⟩
  cases e with
  | prepare h answers =>
    have hnew : ∀ w, (∀ p ∈ plans w, Free w p) → (∀ p ∈ plans w, Linked w p) → Open w →
        Whole w ∧ Tidy w :=
      fun _ hf hl _ => ⟨whole_of_free hf, tidy_of_free hl hf⟩
    have hF := Whole.frame.and Tidy.frame
    rcases hw with rfl | ⟨hd, hK | hK, htidy⟩
    · exact hwhole (progress_prepare hF hw₀ hnew (Or.inl rfl) he)
    · exact hwhole (progress_prepare hF hw₀ hnew (Or.inr ⟨hd, hK, htidy⟩) he)
    · exact hbranched (Holds.run
        (I := Progress c u r w₀ fun w => Branched w ∧ Tidy w) (Or.inr ⟨hd, hK, htidy⟩)
        (holds_prepare_retry (Branched.frame.and Tidy.frame) hd ⟨hK, htidy⟩) answers he).1
  | cleanup actorId answers =>
    rcases hw with rfl | ⟨hd, -, htidy⟩
    · exact Or.inl (cleanup_absent hw₀.workspace)
    · exact hbranched
        (progress_cleanup settled_cleanupFrame hw₀ (Or.inr ⟨hd, he.1, htidy⟩) he.2)

/-! ## Dead ends -/

/-- The first repository of the plan has its branch without its worktree, and another one has no
branch. -/
structure Stuck (p q : PlanRepository) (w : GitWorld) : Prop where
  first : ∃ items, plans w = p :: items
  other : q ∈ plans w
  branch : HasBranch w p
  worktree : ¬ HasWorktree w p
  missing : ¬ HasBranch w q

lemma Stuck.cleanupFrame : CleanupFrame A (Stuck p q) := by
  refine ⟨fun w w' hb ht hp hs => ?_, fun w path left hpath _ hs => ?_⟩
  · refine ⟨hp ▸ hs.first, hp ▸ hs.other, ?_, ?_, ?_⟩
    · rw [HasBranch, hb]
      exact hs.branch
    · rw [HasWorktree, worktreeState, ht]
      exact hs.worktree
    · rw [HasBranch, hb]
      exact hs.missing
  · refine ⟨hs.first, hs.other, hs.branch, ?_, hs.missing⟩
    have hne : p.worktree ≠ path := by
      rintro rfl
      exact hs.worktree hpath
    rw [HasWorktree, worktreeState_leaveWorktree, if_neg hne]
    exact hs.worktree

/-- A worktree that is not intact is not verified. -/
lemma holds_verifyWorktree_broken {I : GitWorld → Prop} {source path : String} (hw : I w)
    (hbroken : worktreeState path w ≠ some .intact) :
    Holds A I (fun x w' => w' = w ∧ ∀ a, x ≠ .ok a) (verifyWorktree source path) w := by
  refine holds_ask.2 fun e _ => ?_
  cases e.fails with
  | some detail => exact ⟨hw, rfl, by simp⟩
  | none => exact ⟨hw, rfl, by simp [worktreeEvidence_broken hbroken]⟩

/-- A call of `prepare` stops at the first repository. -/
lemma holds_prepareOne_stuck (hy : planOf y ∈ plans v)
    (hc : Cleaning c u r v (Stuck (planOf y) q) w) :
    Holds A (Cleaning c u r v (Stuck (planOf y) q))
      (fun x w' => Cleaning c u r v (Stuck (planOf y) q) w' ∧ ∀ a, x ≠ .ok a)
      (prepareOne (planOf y)) w := by
  have hbranch : (w.branches.lookup ((planOf y).source, (planOf y).branch)).isSome = true :=
    hc.property.branch
  have hrepository : Holds A (Cleaning c u r v (Stuck (planOf y) q))
      (fun x w' => Cleaning c u r v (Stuck (planOf y) q) w' ∧ ∀ a, x ≠ .ok a)
      (prepareRepository (planOf y)) w := by
    refine holds_bind.2 (holds_ask.2 fun e _ => ⟨hc, holds_bind.2 ?_⟩)
    dsimp only
    split
    · refine (holds_verifyWorktree_broken hc hc.property.worktree).bind
        (fun a _ h => absurd rfl (h.2 a)) ?_
      rintro x w' ⟨rfl, -⟩
      exact ⟨hc, by simp⟩
    · refine holds_bind.2 (holds_branchExists hc (fun x => ⟨hc, by simp⟩) ?_)
      dsimp only
      rw [if_pos hbranch]
      refine (keeps_cleanupError Stuck.cleanupFrame hy w hc).bind (fun _ w' hc' => ⟨hc', by simp⟩)
        fun _ w' hc' => ⟨hc', by simp⟩
  refine hrepository.tryCatch (fun a _ h => absurd rfl (h.2 a)) fun x w' h => ?_
  cases x with
  | conflict m =>
    refine (keeps_cleanupStatus Stuck.cleanupFrame (by simp) w' h.1).bind
      (fun _ w'' hc'' => ⟨hc'', by simp⟩) fun _ w'' hc'' => ⟨hc'', by simp⟩
  | other => exact ⟨h.1, by simp⟩
  | value m => exact ⟨h.1, by simp⟩
  | notFound m | dirty m | workspace m => exact holds_cleanupFailed Stuck.cleanupFrame hy h.1

/-- No call leaves a dead end. -/
lemma stuck_call (hd : Durable c u r w) (hs : Stuck p q w) (e : WorkspaceEvent) :
    Durable c u r (call c u r w e) ∧ Stuck p q (call c u r w e) := by
  have hc : Cleaning c u r w (Stuck p q) w := ⟨hd, rfl, rfl, fun _ h => h, hs⟩
  suffices h : Cleaning c u r w (Stuck p q) (call c u r w e) from ⟨h.durable, h.property⟩
  cases e with
  | cleanup actorId answers =>
    exact (Holds.run hc (holds_cleanup (A := fun _ => True) Stuck.cleanupFrame actorId hd hs)
      answers fun _ _ => trivial).1
  | prepare h answers =>
    obtain ⟨items, hitems⟩ := hs.first
    obtain ⟨y, hy, rfl⟩ := List.mem_map.1 (hitems.symm ▸ List.mem_cons_self : p ∈ plans w)
    refine (Holds.run (I := Cleaning c u r w (Stuck (planOf y) q)) hc
      (holds_prepare_durable (A := fun _ => True) hd hc hc ?_) answers fun _ _ => trivial).1
    rw [hitems]
    refine (keeps_cleanupStatus Stuck.cleanupFrame (by simp) w hc).bind (fun _ w' hc' => ?_)
      fun _ _ hc' => hc'
    refine Holds.bind (Q := fun x w' => Cleaning c u r w (Stuck (planOf y) q) w' ∧
      ∀ a, x ≠ .ok a) ?_ (fun a _ h => absurd rfl (h.2 a)) fun _ _ h => h.1
    refine Holds.bind (holds_prepareOne_stuck (mem_plans hy) hc') (fun a _ h => absurd rfl (h.2 a))
      fun _ _ h => ⟨h.1, by simp⟩

/-- **Dead ends.** From a dead end every further call is rejected. -/
theorem stuck_run (hd : Durable c u r w) (hs : Stuck p q w) (fs : List WorkspaceEvent)
    (hh : h.workItem = true) {actorId : String} (hactor : isText actorId = true) :
    ¬ Reaches .ready (prepare c u h r) (AgenticMesh.run (call c u r) w fs) ∧
      ¬ Reaches .released (cleanup c actorId) (AgenticMesh.run (call c u r) w fs) := by
  obtain ⟨hd', hs'⟩ := invariant_run (I := fun w => Durable c u r w ∧ Stuck p q w)
    (fun w e h => stuck_call h.1 h.2 e) ⟨hd, hs⟩ fs
  obtain ⟨x, -, hx, -⟩ := hd'.planned
  refine ⟨fun hready => ?_, fun hreleased => ?_⟩
  · obtain ⟨items, hitems⟩ := hs'.first
    have hp : p ∈ plans _ := hitems.symm ▸ List.mem_cons_self
    exact hs'.worktree (((reaches_prepare_iff hd' hh hx).1 hready).2 p hp hs'.branch)
  · have hbranched := hd'.branched ((reaches_cleanup_iff hd' hactor).1 hreleased)
    exact hs'.missing (hbranched q hs'.other)

/-! ## Resumption -/

def twoContext : GitContext := ⟨"/w", "p", "i"⟩

def twoManifest : Json :=
  .obj [("repositories", .obj [
    ("a", .obj [("default_branch", .str "main"), ("url", .str "u")]),
    ("b", .obj [("default_branch", .str "main"), ("url", .str "u")])])]

def twoUpstream : Upstream where
  snapshot := fun _ => some twoManifest
  origin := fun _ => some "u"

def twoHeads : Heads where
  workItem := true
  activeManifest := some "m"
  commit := fun _ _ => some "0123456789012345678901234567890123456789"

def twoRequest : WorkspaceRequest where
  actorId := "agent"
  sourceRepositories := [("a", "/a"), ("b", "/b")]
  repositoryIds := none

def twoStart : GitWorld := ⟨none, ∅, ∅, ∅⟩

/-- A call of `prepare` dies before the second repository, and `cleanup` is called. -/
def twoRun : List WorkspaceEvent :=
  [.prepare twoHeads (List.replicate 14 {}), .cleanup "agent" (List.replicate 40 {})]

def repositoryA : PlanRepository :=
  ⟨"a", "u", "main", "/a", "/w/p/i/a", "codex/p-i", "0123456789012345678901234567890123456789"⟩

def repositoryB : PlanRepository :=
  ⟨"b", "u", "main", "/b", "/w/p/i/b", "codex/p-i", "0123456789012345678901234567890123456789"⟩

def twoState : GitWorld := AgenticMesh.run (call twoContext twoUpstream twoRequest) twoStart twoRun

lemma unprepared_twoStart : Unprepared twoStart :=
  ⟨rfl, rfl, fun t ht => absurd ht (Table.notMem_empty t),
    fun t ht => absurd ht (Table.notMem_empty t)⟩

lemma twoState_eq : plans twoState = [repositoryA, repositoryB] ∧
    twoState.branches.rows = [⟨"/a", "codex/p-i", repositoryA.baseRevision⟩] ∧
    twoState.worktrees.rows = [] := by
  decide

lemma stuck_twoState : Stuck repositoryA repositoryB twoState := by
  obtain ⟨hplans, hbranches, hworktrees⟩ := twoState_eq
  refine ⟨⟨[repositoryB], hplans⟩, by rw [hplans]; simp, ?_, ?_, ?_⟩
  · rw [HasBranch, Table.lookup, Table.find, hbranches]
    decide
  · rw [HasWorktree, worktreeState, Table.lookup, Table.find, hworktrees]
    decide
  · rw [HasBranch, Table.lookup, Table.find, hbranches]
    decide

lemma durable_twoState : Durable twoContext twoUpstream twoRequest twoState := by
  have hprogress : Progress twoContext twoUpstream twoRequest twoStart Anything twoState :=
    progress_run unprepared_twoStart twoRun
  rcases hprogress with heq | ⟨hd, -⟩
  · have hplans := twoState_eq.1
    rw [heq] at hplans
    cases hplans
  · exact hd

end GitWorktreeCoordinator

end AgenticMesh
