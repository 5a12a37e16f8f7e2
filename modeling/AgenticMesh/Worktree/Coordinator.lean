import AgenticMesh.Base.Check
import AgenticMesh.Base.Json
import AgenticMesh.Base.Program
import AgenticMesh.Base.Table
import AgenticMesh.Base.Text
import Mathlib.Data.List.Sort

/-!
# Git worktrees of a work item

`GitWorktreeCoordinator.prepare` gives a work item one Git worktree for every
repository that it needs, and `cleanup` removes them and keeps their branches.
The plan is written before the first Git command, and each repository is
recorded after its command, so that a call which died can be repeated.  The
state is that of the database and of Git together; the failures of commands
and statements are answers of the environment, and so is what a `git worktree`
that fails half-way leaves behind.  The advisory locks make the calls for a
work item serial.
-/

namespace AgenticMesh

/-! ## State -/

/-- The status of a workspace. -/
inductive WorkspaceStatus where
  | preparing
  | ready
  | releasing
  | cleanupBlocked
  | released
  | error
deriving DecidableEq

/-- The row of `git_workspaces` of the work item. -/
structure GitWorkspace where
  manifestDigest : String
  workspaceRoot : String
  status : WorkspaceStatus
  createdBy : String
  lastError : Option String
deriving DecidableEq

/-- The status of a repository of a workspace. -/
inductive RepositoryStatus where
  | planned
  | ready
  | cleanupBlocked
  | released
  | error
deriving DecidableEq

/-- A row of `git_workspace_repositories`. -/
structure RepositoryWorktree where
  repositoryId : String
  repositoryUrl : String
  defaultBranch : String
  sourcePath : String
  worktreePath : String
  branchName : String
  baseRevision : String
  currentRevision : Option String
  status : RepositoryStatus
  lastError : Option String
deriving DecidableEq

def RepositoryWorktree.key (r : RepositoryWorktree) : String := r.repositoryId

/-- A branch of a source repository. -/
structure GitBranch where
  source : String
  name : String
  revision : String
deriving DecidableEq

def GitBranch.key (b : GitBranch) : String × String := (b.source, b.name)

/-- What there is of a worktree. -/
inductive WorktreeState where
  /-- The directory, registered at its source repository. -/
  | intact
  /-- A directory that Git no longer takes for a worktree. -/
  | directory
  /-- The registration of a directory that is gone. -/
  | registration
deriving DecidableEq

/-- A worktree of a source repository, with the branch that it has checked out. -/
structure GitWorktree where
  path : String
  source : String
  branch : String
  state : WorktreeState
deriving DecidableEq

def GitWorktree.key (t : GitWorktree) : String := t.path

/-- The state of the database and of Git. -/
structure GitWorld where
  workspace : Option GitWorkspace
  repositories : Table RepositoryWorktree RepositoryWorktree.key
  branches : Table GitBranch GitBranch.key
  worktrees : Table GitWorktree GitWorktree.key

/-- What a call of the coordinator returns. -/
structure WorkItemWorkspace where
  workspace : GitWorkspace
  repositories : List RepositoryWorktree
deriving DecidableEq

/-- The work item and the root of its coordinator. -/
structure GitContext where
  root : String
  projectId : String
  workItemId : String

/-- What the calls find outside the workspace and nothing replaces: the snapshots of manifests and
the origins of the source repositories. -/
structure Upstream where
  /-- The snapshot of a manifest. -/
  snapshot : String → Option Json
  /-- `git remote get-url origin`. -/
  origin : String → Option String

/-- What moves between two calls: the work item appears, another manifest is activated, and the
default branches go on. -/
structure Heads where
  workItem : Bool
  activeManifest : Option String
  /-- The commit of a reference of a source repository. -/
  commit : String → String → Option String

/-- The arguments of `prepare`. -/
structure WorkspaceRequest where
  actorId : String
  sourceRepositories : List (String × String)
  repositoryIds : Option (List String)
deriving DecidableEq

/-- `_PlanRepository`: what a call plans for a repository. -/
structure PlanRepository where
  repositoryId : String
  repositoryUrl : String
  defaultBranch : String
  source : String
  worktree : String
  branch : String
  baseRevision : String
deriving DecidableEq

/-- What the environment answers at a step. -/
structure GitAnswer where
  /-- The statement or command fails. -/
  fails : Option String := none
  /-- What a `git worktree` that fails after it has begun leaves of the worktree. -/
  leaves : Option (Option WorktreeState) := none
  /-- The worktree has uncommitted changes. -/
  dirty : Bool := false
deriving DecidableEq

/-- The exceptions of the coordinator. -/
inductive GitError where
  | value (message : String)
  | notFound (message : String)
  | conflict (message : String)
  | dirty (message : String)
  /-- `GitWorkspaceError`. -/
  | workspace (message : String)
  /-- An exception of the database or of the file system. -/
  | other
deriving DecidableEq

/-- The text of an exception. -/
def GitError.text : GitError → String
  | value m | notFound m | conflict m | dirty m | workspace m => m
  | other => ""

/-- A program of the coordinator. -/
abbrev GitProgram (α : Type) : Type := Program GitWorld GitAnswer GitError α

namespace GitWorktreeCoordinator

/-! ## Texts and paths -/

/-- `^[a-z0-9][a-z0-9-]{0,127}$`. -/
def isId (s : String) : Bool :=
  let letter := fun c : Char => c.isDigit || c.isLower
  match s.toList with
  | [] => false
  | c :: cs => letter c && cs.length ≤ 127 && cs.all fun c => letter c || c = '-'

/-- `_text`. -/
def isText (s : String) : Bool := strip s ≠ "" && s.toList.all fun c => c ≠ '\x00'

/-- `btrim(s) <> ''`. -/
def notBlank (s : String) : Bool := s.toList.any fun c => c ≠ ' '

def isWithin (path root : String) : Bool :=
  path == root || (root ++ "/").toList.isPrefixOf path.toList

/-- `_branch_name`. -/
def branchName (c : GitContext) : Except GitError String :=
  let component := c.projectId ++ "-" ++ c.workItemId
  if 255 < component.toList.length then
    .error (.conflict "project and work item exceed Git branch length limit")
  else .ok ("codex/" ++ component)

def worktreePath (c : GitContext) (repositoryId : String) : String :=
  c.root ++ "/" ++ c.projectId ++ "/" ++ c.workItemId ++ "/" ++ repositoryId

/-! ## Statements and commands -/

/-- A statement of the database. -/
def database {α : Type} (f : GitWorld → α × GitWorld) : GitProgram α :=
  Program.ask fun e w =>
    match e.fails with
    | some _ => (.error .other, w)
    | none => (.ok (f w).1, (f w).2)

/-- A Git command that only reads. -/
def git {α : Type} (f : GitWorld → Except GitError α × GitWorld) : GitProgram α :=
  Program.ask fun e w =>
    match e.fails with
    | some detail => (.error (.workspace detail), w)
    | none => f w

/-- `ORDER BY repository_id`. -/
def inOrder (t : Table RepositoryWorktree RepositoryWorktree.key) : List RepositoryWorktree :=
  t.rows.insertionSort fun a b => a.repositoryId ≤ b.repositoryId

/-- `_read`. -/
def read : GitProgram (Option WorkItemWorkspace) :=
  database fun w =>
    (w.workspace.map fun row => ⟨row, inOrder w.repositories⟩, w)

/-- `_required_read`. -/
def requiredRead : GitProgram WorkItemWorkspace := do
  let current ← read
  Program.demand current (.notFound "workspace was not found")

/-- `_set_workspace`. -/
def setWorkspace (status : WorkspaceStatus) (error : Option String) : GitProgram Unit :=
  database fun w =>
    ((), { w with workspace := w.workspace.map fun row => { row with status, lastError := error } })

/-- `UPDATE git_workspace_repositories` of one repository. -/
def updateRepository (repositoryId : String) (f : Table.Assign RepositoryWorktree.key)
    (w : GitWorld) : GitWorld :=
  { w with repositories := w.repositories.update (·.repositoryId = repositoryId) f }

/-- `_repository_error`. -/
def repositoryError (repositoryId detail : String) : GitProgram Unit :=
  database fun w => ((), updateRepository repositoryId
    { set := fun r => { r with status := .error, lastError := some detail } } w)

/-- `_ref_exists` of a branch. -/
def branchExists (source branch : String) : GitProgram Bool :=
  git fun w => (.ok (w.branches.lookup (source, branch)).isSome, w)

/-- What there is at the path of a worktree. -/
def worktreeState (path : String) (w : GitWorld) : Option WorktreeState :=
  (w.worktrees.lookup path).map (·.state)

/-- There is a directory at the path of a worktree. -/
def hasDirectory (path : String) (w : GitWorld) : Bool :=
  (worktreeState path w).any (· ≠ .registration)

/-- `Path.exists` of a worktree. -/
def worktreeExists (path : String) : GitProgram Bool :=
  Program.ask fun _ w => (.ok (hasDirectory path w), w)

/-- The commit and the branch of a worktree. -/
def worktreeEvidence (source path : String) (w : GitWorld) : Except GitError (String × String) :=
  match w.worktrees.lookup path with
  | none => .error (.workspace "Git command failed: rev-parse")
  | some t =>
    -- Git finds no worktree at a path that was removed in part
    if t.state ≠ .intact then .error (.workspace "Git command failed: rev-parse")
    else if t.source ≠ source then
      .error (.conflict "worktree belongs to a different repository")
    else
      match w.branches.lookup (source, t.branch) with
      | none => .error (.workspace "Git command failed: rev-parse")
      | some b => .ok (b.revision, t.branch)

/-- `_verify_worktree`. -/
def verifyWorktree (source path : String) : GitProgram (String × String) :=
  git fun w => (worktreeEvidence source path w, w)

/-- `_branch_revision`. -/
def branchRevision (source branch : String) : GitProgram String := do
  let found ← branchExists source branch
  Program.require (found = true) (.conflict "workspace branch evidence is missing")
  git fun w =>
    match w.branches.lookup (source, branch) with
    | none => (.error (.workspace "Git command failed: rev-parse"), w)
    | some b => (.ok b.revision, w)

/-- `_registered_worktree`: the path that has a branch checked out. -/
def registeredWorktree (source branch : String) : GitProgram (Option String) :=
  git fun w =>
    (.ok ((w.worktrees.find fun t =>
      t.source = source ∧ t.branch = branch ∧ t.state ≠ .directory).map (·.path)), w)

/-- `Path.mkdir` of the parent of a worktree. -/
def makeParent : GitProgram Unit := database fun w => ((), w)

/-- The branch with what there is of its worktree. -/
def withBranch (t : GitWorktree) (base : String) (left : Option WorktreeState) (w : GitWorld) :
    Option GitWorld := do
  let branches ← w.branches.insert ⟨t.source, t.branch, base⟩
  match left with
  | none => return { w with branches }
  | some state =>
    let worktrees ← w.worktrees.insert { t with state }
    return { w with branches, worktrees }

/-- `git worktree add --no-track -b`: the branch is created before the worktree, so that a failure
may leave it alone or with any part of the worktree. -/
def worktreeAdd (source branch path base : String) : GitProgram Unit :=
  Program.ask fun e w =>
    let added := fun left => withBranch ⟨path, source, branch, .intact⟩ base left w
    match e.fails, added (some .intact) with
    | some detail, _ => (.error (.workspace detail), (e.leaves.bind added).getD w)
    | none, none => (.error (.workspace "Git command failed: worktree"), w)
    | none, some w' => (.ok (), w')

/-- The state with what is left of a worktree. -/
def leaveWorktree (path : String) (left : Option WorktreeState) (w : GitWorld) : GitWorld :=
  { w with
    worktrees := match left with
      | none => w.worktrees.delete (·.path = path)
      | some state =>
        w.worktrees.update (·.path = path) { set := fun t => { t with state } } }

/-- `git worktree remove` of an intact worktree: the directory and the registration are deleted one
after the other, and the failure of one does not keep the other. -/
def worktreeRemove (path : String) : GitProgram Unit :=
  Program.ask fun e w =>
    if worktreeState path w = some .intact then
      match e.fails with
      | some detail =>
        (.error (.workspace detail), (e.leaves.map (leaveWorktree path · w)).getD w)
      | none => (.ok (), leaveWorktree path none w)
    else (.error (.workspace "Git command failed: worktree"), w)

/-- `git status --porcelain` printed something. -/
def isDirty : GitProgram Bool :=
  Program.ask fun e w =>
    match e.fails with
    | some detail => (.error (.workspace detail), w)
    | none => (.ok e.dirty, w)

/-! ## Planning -/

/-- `_base_revision`. -/
def baseRevision (h : Heads) (source defaultBranch : String) : Except GitError String :=
  match h.commit source ("refs/remotes/origin/" ++ defaultBranch) with
  | some commit => .ok commit
  | none =>
    Check.found (h.commit source ("refs/heads/" ++ defaultBranch))
      (.conflict "manifest default branch is unavailable locally")

/-- The commit that a repository starts from: the one of its durable plan, or the head of its
default branch. -/
def startRevision (h : Heads) (existing : List RepositoryWorktree)
    (repositoryId source defaultBranch : String) : Except GitError String :=
  match existing.find? (·.repositoryId = repositoryId) with
  | some prior => .ok prior.baseRevision
  | none => baseRevision h source defaultBranch

/-- A JSON value that is a dictionary. -/
def asDict : Json → Option Json
  | .obj fields => some (.obj fields)
  | _ => none

/-- The plan of one repository. -/
def planRepository (c : GitContext) (u : Upstream) (h : Heads) (repositories : Json)
    (branch : String) (existing : List RepositoryWorktree) (repositoryId source : String) :
    Except GitError PlanRepository := do
  let manifest ← Check.found ((repositories.get? repositoryId).bind asDict)
    (.conflict ("repository " ++ repositoryId ++ " is not in the active manifest"))
  let url ← Check.found (u.origin source) (.workspace "Git command failed: remote")
  Check.that (some (Json.str url) = manifest.get? "url")
    (.conflict ("repository " ++ repositoryId ++ " origin does not match the manifest"))
  let defaultBranch ← Check.found ((manifest.get? "default_branch").bind Json.asString)
    (.conflict "manifest default branch is invalid")
  let base ← startRevision h existing repositoryId source defaultBranch
  return ⟨repositoryId, url, defaultBranch, source, worktreePath c repositoryId, branch, base⟩

def sourceIds (r : WorkspaceRequest) : List String := r.sourceRepositories.map Prod.fst

def sourcePaths (r : WorkspaceRequest) : List String := r.sourceRepositories.map Prod.snd

/-- The selected repositories, in order. -/
def selected (r : WorkspaceRequest) : List String :=
  (r.repositoryIds.getD (sourceIds r)).insertionSort (· ≤ ·)

def sourceOf (r : WorkspaceRequest) (repositoryId : String) : String :=
  ((r.sourceRepositories.find? (·.1 = repositoryId)).map (·.2)).getD ""

/-- The manifest that a call plans with: the one of its workspace, or the active one. -/
def planManifest (u : Upstream) (h : Heads) (current : Option WorkItemWorkspace) :
    Except GitError (String × Json) :=
  let digest := match current with
    | none => h.activeManifest
    | some w => some w.workspace.manifestDigest
  Check.found (digest.bind fun d => (u.snapshot d).map fun s => (d, s))
    (.notFound "active project manifest was not found")

/-- The repositories of a manifest. -/
def manifestRepositories (snapshot : Json) : Except GitError Json :=
  Check.found (asDict ((snapshot.get? "repositories").getD (Json.obj [])))
    (.conflict "active manifest repositories are invalid")

/-- `_plan`. -/
def plan (c : GitContext) (u : Upstream) (h : Heads) (r : WorkspaceRequest)
    (current : Option WorkItemWorkspace) : Except GitError (String × List PlanRepository) := do
  Check.that (h.workItem = true) (.notFound "work item was not found")
  let manifest ← planManifest u h current
  let repositories ← manifestRepositories manifest.2
  let branch ← branchName c
  let existing := (current.map (·.repositories)).getD []
  let items ← (selected r).mapM fun id =>
    planRepository c u h repositories branch existing id (sourceOf r id)
  return (manifest.1, items)

/-- `_preflight_new`. -/
def preflightNew (items : List PlanRepository) : GitProgram Unit :=
  Program.forEach (fun item => do
    let found ← worktreeExists item.worktree
    Program.require (found = false)
      (.conflict ("worktree path already exists: " ++ item.repositoryId))
    let branch ← branchExists item.source item.branch
    Program.require (branch = false)
      (.conflict ("workspace branch already exists: " ++ item.repositoryId))) items

/-- The row of a planned repository. -/
def planRow (item : PlanRepository) : RepositoryWorktree where
  repositoryId := item.repositoryId
  repositoryUrl := item.repositoryUrl
  defaultBranch := item.defaultBranch
  sourcePath := item.source
  worktreePath := item.worktree
  branchName := item.branch
  baseRevision := item.baseRevision
  currentRevision := none
  status := .planned
  lastError := none

/-- `INSERT INTO git_workspace_repositories` of a plan, with the checks and unique keys. -/
def insertRepositories (items : List PlanRepository)
    (t : Table RepositoryWorktree RepositoryWorktree.key) :
    Option (Table RepositoryWorktree RepositoryWorktree.key) :=
  match items with
  | [] => some t
  | item :: items =>
    if isCommit item.baseRevision = true ∧
        (notBlank item.repositoryId = true ∧ notBlank item.repositoryUrl = true ∧
          notBlank item.defaultBranch = true ∧ notBlank item.source = true ∧
          notBlank item.worktree = true ∧ notBlank item.branch = true) ∧
        ∀ r ∈ t.rows, r.worktreePath ≠ item.worktree ∧
          (r.sourcePath, r.branchName) ≠ (item.source, item.branch) then
      (t.insert (planRow item)).bind (insertRepositories items)
    else none

/-- `_insert_plan`. -/
def insertPlan (c : GitContext) (actorId digest : String) (items : List PlanRepository) :
    GitProgram Unit :=
  Program.ask fun e w =>
    match e.fails, w.workspace, insertRepositories items w.repositories with
    | none, none, some repositories =>
      (.ok (), { w with
        workspace := some ⟨digest, c.root, .preparing, strip actorId, none⟩
        repositories })
    | _, _, _ => (.error .other, w)

/-- The columns of a repository that its plan pins. -/
def PlanRepository.pinned (p : PlanRepository) : String × String × String × String × String :=
  (p.repositoryUrl, p.source, p.worktree, p.branch, p.baseRevision)

def pinnedOf (r : RepositoryWorktree) : String × String × String × String × String :=
  (r.repositoryUrl, r.sourcePath, r.worktreePath, r.branchName, r.baseRevision)

/-- The durable plan of a workspace is the plan of the call. -/
def SamePlan (c : GitContext) (current : WorkItemWorkspace) (items : List PlanRepository) : Prop :=
  current.workspace.workspaceRoot = c.root ∧
    (∀ r ∈ current.repositories, ∃ p ∈ items, p.repositoryId = r.repositoryId ∧
      PlanRepository.pinned p = pinnedOf r) ∧
    ∀ p ∈ items, ∃ r ∈ current.repositories, r.repositoryId = p.repositoryId ∧
      pinnedOf r = PlanRepository.pinned p

instance (c : GitContext) (current : WorkItemWorkspace) (items : List PlanRepository) :
    Decidable (SamePlan c current items) :=
  inferInstanceAs (Decidable (_ ∧ (∀ _ ∈ _, ∃ _ ∈ _, _) ∧ ∀ _ ∈ _, ∃ _ ∈ _, _))

/-! ## Preparing -/

/-- The repository is recorded with the commit of its worktree. -/
def recordReady (repositoryId head : String) : GitProgram Unit :=
  database fun w => ((), updateRepository repositoryId
    { set := fun r => { r with
        status := .ready, currentRevision := some head, lastError := none } } w)

/-- A conflict that is recorded at its repository. -/
def conflictAt {α : Type} (repositoryId detail message : String) : GitProgram α := do
  repositoryError repositoryId detail
  throw (.conflict message)

/-- A worktree that an earlier call created. -/
def keepWorktree (item : PlanRepository) : GitProgram (String × String) := do
  let evidence ← verifyWorktree item.source item.worktree
  if evidence.2 = item.branch then
    pure evidence
  else
    conflictAt item.repositoryId
      "existing worktree branch does not match the durable plan"
      "existing worktree branch does not match"

/-- A worktree that does not exist yet. -/
def createWorktree (item : PlanRepository) : GitProgram (String × String) := do
  let branch ← branchExists item.source item.branch
  if branch = true then
    conflictAt item.repositoryId
      "planned branch exists without its registered worktree"
      "planned branch exists without worktree"
  else do
    makeParent
    worktreeAdd item.source item.branch item.worktree item.baseRevision
    verifyWorktree item.source item.worktree

/-- `_prepare_repository`. -/
def prepareRepository (item : PlanRepository) : GitProgram Unit := do
  let found ← worktreeExists item.worktree
  let evidence ← (if found = true then keepWorktree item else createWorktree item)
  Program.require (evidence.2 = item.branch ∧ isCommit evidence.1 = true)
    (.conflict "created worktree evidence is invalid")
  recordReady item.repositoryId evidence.1

/-- One repository of `prepare`, with its error recorded. -/
def prepareOne (item : PlanRepository) : GitProgram Unit :=
  tryCatch (prepareRepository item) fun e =>
    match e with
    | .conflict _ => do
      setWorkspace .error (some ("repository " ++ item.repositoryId ++ " conflicts with its plan"))
      throw e
    | .other | .value _ => throw e
    | _ => do
      repositoryError item.repositoryId e.text
      setWorkspace .error (some ("repository " ++ item.repositoryId ++ ": " ++ e.text))
      throw e

/-- `_validate_root_boundaries`, with the sources seen so far. -/
def validateRootBoundaries (c : GitContext) (seen : List String) :
    List String → Except GitError Unit
  | [] => .ok ()
  | source :: sources =>
    if source ∈ seen then .error (.value "source repository paths must be unique")
    else if isWithin c.root source = true ∨ isWithin source c.root = true then
      .error (.value "workspace_root and source repositories must be separate")
    else validateRootBoundaries c (source :: seen) sources

/-- `_identifier`. -/
def requireId (s field : String) : Except GitError Unit :=
  Check.that (isId s = true) (.value (field ++ " is invalid"))

/-- `_text`. -/
def requireText (s field : String) : Except GitError Unit :=
  Check.that (isText s = true) (.value (field ++ " is invalid"))

/-- The checks of the arguments of `prepare`. -/
def requireRequest (c : GitContext) (r : WorkspaceRequest) : Except GitError Unit := do
  requireId c.projectId "project_id"
  requireId c.workItemId "work_item_id"
  requireText r.actorId "actor_id"
  (sourceIds r).forM fun id => requireId id "repository_id"
  (selected r).forM fun id => requireId id "repository_id"
  Check.that (selected r ≠ [] ∧ (selected r).Nodup ∧
      (∀ id ∈ selected r, id ∈ sourceIds r) ∧ ∀ id ∈ sourceIds r, id ∈ selected r)
    (.value "source_repositories must exactly match selected repository ids")
  validateRootBoundaries c [] (sourcePaths r)

/-- The plan is made durable, or is the one that a workspace has. -/
def establishPlan (c : GitContext) (r : WorkspaceRequest) (digest : String)
    (items : List PlanRepository) : Option WorkItemWorkspace → GitProgram Unit
  | none => do
    preflightNew items
    insertPlan c r.actorId digest items
  | some existing => do
    Program.require (SamePlan c existing items)
      (.conflict "workspace retry does not match its durable plan")
    Program.require (existing.workspace.status ≠ .released)
      (.conflict "workspace is already released")

/-- The body of `prepare`, with the locks held. -/
def prepareLocked (c : GitContext) (u : Upstream) (h : Heads) (r : WorkspaceRequest) :
    GitProgram WorkItemWorkspace := do
  let current ← read
  let planned ← git fun w => (plan c u h r current, w)
  establishPlan c r planned.1 planned.2 current
  setWorkspace .preparing none
  Program.forEach prepareOne planned.2
  setWorkspace .ready none
  requiredRead

/-- Other exceptions are translated. -/
def translated {α : Type} (message : String) (p : GitProgram α) : GitProgram α :=
  tryCatch p fun e =>
    match e with
    | .other => throw (.workspace message)
    | _ => throw e

def prepare (c : GitContext) (u : Upstream) (h : Heads) (r : WorkspaceRequest) :
    GitProgram WorkItemWorkspace := do
  Program.ofExcept (requireRequest c r)
  translated "Git workspace preparation failed" (prepareLocked c u h r)

/-! ## Cleaning up -/

/-- The repository is recorded as released, with its last commit. -/
def recordReleased (repositoryId head : String) : GitProgram Unit :=
  database fun w => ((), updateRepository repositoryId
    { set := fun r => { r with
        status := .released, currentRevision := some head, lastError := none } } w)

/-- The last commit of a repository whose worktree is gone. -/
def goneWorktree (item : RepositoryWorktree) : GitProgram String := do
  let registered ← registeredWorktree item.sourcePath item.branchName
  Program.require (registered = none)
    (.conflict "workspace branch is registered at an unexpected path")
  branchRevision item.sourcePath item.branchName

/-- A worktree with uncommitted changes is recorded and kept. -/
def recordBlocked {α : Type} (repositoryId head : String) : GitProgram α := do
  database fun w => ((), updateRepository repositoryId
    { set := fun r => { r with
        status := .cleanupBlocked, currentRevision := some head
        lastError := some "worktree contains uncommitted changes" } } w)
  throw (.dirty "worktree contains uncommitted changes")

/-- The last commit of a repository whose worktree is removed. -/
def removeWorktree (item : RepositoryWorktree) : GitProgram String := do
  let evidence ← verifyWorktree item.sourcePath item.worktreePath
  Program.require (evidence.2 = item.branchName)
    (.conflict "cleanup worktree branch does not match")
  let dirty ← isDirty
  if dirty = true then recordBlocked item.repositoryId evidence.1
  else do
    worktreeRemove item.worktreePath
    pure evidence.1

/-- `_release_repository`. -/
def releaseRepository (item : RepositoryWorktree) : GitProgram Unit := do
  let found ← worktreeExists item.worktreePath
  let head ← (if found = true then removeWorktree item else goneWorktree item)
  recordReleased item.repositoryId head

/-- One repository of `cleanup`: whether it is blocked by a dirty worktree. -/
def releaseOne (item : RepositoryWorktree) : GitProgram Bool :=
  if item.status = .released then pure false
  else tryCatch (do
      releaseRepository item
      return false) fun e =>
    match e with
    | .dirty _ => return true
    | .other | .value _ => throw e
    | _ => do
      repositoryError item.repositoryId e.text
      setWorkspace .error (some ("repository " ++ item.repositoryId ++ ": " ++ e.text))
      throw e

/-- The repositories of `cleanup`, with those that are blocked. -/
def releaseAll : List RepositoryWorktree → GitProgram (List String)
  | [] => pure []
  | item :: items => do
    let blocked ← releaseOne item
    let rest ← releaseAll items
    return if blocked = true then item.repositoryId :: rest else rest

/-- The end of `cleanup`. -/
def finishCleanup (blocked : List String) : GitProgram WorkItemWorkspace :=
  let detail := "dirty worktrees: " ++
    ", ".intercalate (blocked.insertionSort (· ≤ ·))
  if blocked = [] then do
    setWorkspace .released none
    requiredRead
  else do
    setWorkspace .cleanupBlocked (some detail)
    throw (.dirty detail)

/-- The body of `cleanup`, with the locks held. -/
def cleanupLocked : GitProgram WorkItemWorkspace := do
  let current ← requiredRead
  if current.workspace.status = .released then pure current
  else do
    setWorkspace .releasing none
    let blocked ← releaseAll current.repositories
    finishCleanup blocked

def cleanup (c : GitContext) (actorId : String) : GitProgram WorkItemWorkspace := do
  Program.ofExcept (do
    requireId c.projectId "project_id"
    requireId c.workItemId "work_item_id"
    requireText actorId "actor_id")
  translated "Git workspace cleanup failed" (do
    let _ ← requiredRead
    cleanupLocked)

end GitWorktreeCoordinator

end AgenticMesh
