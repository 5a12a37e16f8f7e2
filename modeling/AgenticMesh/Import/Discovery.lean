import AgenticMesh.Base.SortedBy
import AgenticMesh.Import.Question
import Mathlib.Data.List.Dedup
import Mathlib.Data.List.Perm.Basic
import Mathlib.Data.Prod.Lex

/-!
# The discovery of a project's sources

`ProjectImportDiscovery.discover` inspects every declared repository, document root and
binding through an adapter and reports what it found, sorted by kind, id and locator, with
the issues that keep the report from being complete.
-/

namespace AgenticMesh

namespace ImportDiscovery

/-! ## Declarations -/

/-- A declared Git repository. -/
structure RepositorySource where
  sourceId : String
  url : String
  defaultBranchHint : Option String := none
  credentialReference : Option String := none
deriving DecidableEq

/-- A declared document root. -/
structure DocumentRootSource where
  sourceId : String
  adapter : String
  driveId : String
  root : String
  credentialReference : String
deriving DecidableEq

/-- A declared channel or identity. -/
structure BindingSource where
  sourceId : String
  kind : String
  locator : String
  credentialReference : Option String := none
deriving DecidableEq

/-- `ImportDiscoveryRequest`: the declared sources. -/
structure ImportDiscoveryRequest where
  projectIdHint : Option String := none
  displayNameHint : Option String := none
  repositories : List RepositorySource := []
  documentRoots : List DocumentRootSource := []
  bindings : List BindingSource := []

/-- What a result copies from its source: everything but what the adapter answers. -/
structure SourceView where
  sourceId : String
  locator : String
  credentialConfigured : Bool
  configurationDigest : String
deriving DecidableEq

namespace RepositorySource

/-- `_source_configuration_digest`. -/
def configurationDigest (s : RepositorySource) : String :=
  (Json.obj [("credential_reference", .ofOption s.credentialReference),
    ("default_branch_hint", .ofOption s.defaultBranchHint), ("kind", .str "repository"),
    ("source_id", .str s.sourceId), ("url", .str s.url)]).digest

def view (s : RepositorySource) : SourceView where
  sourceId := s.sourceId
  locator := s.url
  credentialConfigured := s.credentialReference.isSome
  configurationDigest := s.configurationDigest

end RepositorySource

namespace DocumentRootSource

def configurationDigest (s : DocumentRootSource) : String :=
  (Json.obj [("adapter", .str s.adapter), ("credential_reference", .str s.credentialReference),
    ("drive_id", .str s.driveId), ("kind", .str "document-root"), ("root", .str s.root),
    ("source_id", .str s.sourceId)]).digest

def view (s : DocumentRootSource) : SourceView where
  sourceId := s.sourceId
  locator := s.adapter ++ "|" ++ s.driveId ++ "|" ++ s.root
  credentialConfigured := true
  configurationDigest := s.configurationDigest

end DocumentRootSource

namespace BindingSource

def configurationDigest (s : BindingSource) : String :=
  (Json.obj [("binding_kind", .str s.kind),
    ("credential_reference", .ofOption s.credentialReference), ("kind", .str "binding"),
    ("locator", .str s.locator), ("source_id", .str s.sourceId)]).digest

/-- The kind of a binding is no part of its locator. -/
def view (s : BindingSource) : SourceView where
  sourceId := s.sourceId
  locator := s.locator
  credentialConfigured := s.credentialReference.isSome
  configurationDigest := s.configurationDigest

end BindingSource

/-! ## Adapters -/

/-- What was found in a repository. -/
structure RepositoryInventory where
  defaultBranch : Option String
  headRevision : Option String
  branchCount : ℕ
  refsDigest : String

/-- What was found under a document root. -/
structure DocumentInventory where
  fileCount : ℕ
  folderCount : ℕ
  totalBytes : ℕ
  pageCount : ℕ
  latestModifiedAt : Option String
  samplePaths : List String
  complete : Bool
deriving DecidableEq

/-- What was found of a binding. -/
structure BindingInventory where
  status : String := "declared"

/-- Adapters whose answer depends only on the source; `none` when `inspect` raises. -/
structure Adapters where
  repositories : RepositorySource → Option RepositoryInventory
  documents : String → Option (DocumentRootSource → Option DocumentInventory)
  bindings : String → Option (BindingSource → Option BindingInventory)

namespace Adapters

/-- The summary of a repository, `none` when it is unavailable. -/
def repositorySummary (adapters : Adapters) (s : RepositorySource) : Option Json := do
  let inventory ← adapters.repositories s
  return .obj ([("branch_count", .int inventory.branchCount),
    ("default_branch", .ofOption inventory.defaultBranch)] ++
    (match s.defaultBranchHint with
    | none => []
    | some hint =>
      [("default_branch_matches_hint", .bool (inventory.defaultBranch = some hint))]) ++
    [("head_revision", .ofOption inventory.headRevision),
    ("refs_digest", .str inventory.refsDigest)])

def documentSummary (adapters : Adapters) (s : DocumentRootSource) : Option Json := do
  let inspect ← adapters.documents s.adapter
  let inventory ← inspect s
  return .obj [("complete", .bool inventory.complete), ("file_count", .int inventory.fileCount),
    ("folder_count", .int inventory.folderCount),
    ("latest_modified_at", .ofOption inventory.latestModifiedAt),
    ("page_count", .int inventory.pageCount),
    ("sample_paths", .arr (inventory.samplePaths.map .str)),
    ("total_bytes", .int inventory.totalBytes)]

/-- A kind without an adapter is inspected by `DeclaredBindingDiscovery`. -/
def bindingSummary (adapters : Adapters) (s : BindingSource) : Option Json := do
  let inventory ← ((adapters.bindings s.kind).getD fun _ => some {}) s
  return .obj [("binding_kind", .str s.kind), ("status", .str inventory.status)]

end Adapters

/-! ## Results and issues -/

/-- `_success` and `_unavailable`. -/
def resultOf (kind : String) (source : SourceView) (summary : Option Json) :
    SourceDiscoveryResult where
  sourceKind := kind
  sourceId := source.sourceId
  locator := source.locator
  status := if summary.isSome then "discovered" else "unavailable"
  credentialConfigured := source.credentialConfigured
  configurationDigest := source.configurationDigest
  summary := summary.getD (.obj [])

def issue (code kind sourceId message : String) : DiscoveryIssue where
  code := code
  sourceKind := some kind
  sourceId := some sourceId
  message := message

/-- `_unavailable_issue`. -/
def unavailableIssue (kind sourceId : String) : DiscoveryIssue :=
  issue "source-unavailable" kind sourceId "source could not be inspected"

def repositoryIssues (adapters : Adapters) (s : RepositorySource) : List DiscoveryIssue :=
  match adapters.repositories s with
  | none => [unavailableIssue "repository" s.sourceId]
  | some inventory =>
    if s.defaultBranchHint.isSome ∧ inventory.defaultBranch ≠ s.defaultBranchHint then
      [issue "default-branch-conflict" "repository" s.sourceId
        "observed default branch differs from its declaration"]
    else []

def documentIssues (adapters : Adapters) (s : DocumentRootSource) : List DiscoveryIssue :=
  match adapters.documents s.adapter with
  | none =>
    [issue "adapter-unavailable" "document-root" s.sourceId
      "document discovery adapter is unavailable"]
  | some inspect =>
    match inspect s with
    | none => [unavailableIssue "document-root" s.sourceId]
    | some inventory =>
      if inventory.complete then []
      else
        [issue "safety-limit" "document-root" s.sourceId
          "document inventory reached its configured safety limit"]

def bindingIssues (adapters : Adapters) (s : BindingSource) : List DiscoveryIssue :=
  match ((adapters.bindings s.kind).getD fun _ => some {}) s with
  | none => [unavailableIssue "binding" s.sourceId]
  | some _ => []

/-- A declaration as `_conflicts` compares it: kind, id and locator. -/
abbrev Declaration : Type := String × String × String

/-- The declarations of `_conflicts`; here the kind of a binding is part of its locator. -/
def declarations (request : ImportDiscoveryRequest) : List Declaration :=
  request.repositories.map (fun s => ("repository", s.sourceId, s.url)) ++
    request.documentRoots.map (fun s => ("document-root", s.sourceId, s.view.locator)) ++
    request.bindings.map fun s => ("binding", s.sourceId, s.kind ++ "|" ++ s.locator)

/-- The declarations that share a key with another one, group by group in the order in which
the keys first occur. -/
def sharing {κ : Type} [DecidableEq κ] (key : Declaration → κ) (ds : List Declaration) :
    List Declaration :=
  (ds.map key).reverse.dedup.reverse.flatMap fun k =>
    let group := ds.filter fun d => key d = k
    if 1 < group.length then group else []

/-- An issue for each of these declarations. -/
def conflictIssues (code : String) (ds : List Declaration) : List DiscoveryIssue :=
  ds.map fun d => issue code d.1 d.2.1 "source declaration conflicts with another declaration"

/-- `_conflicts`. -/
def conflicts (request : ImportDiscoveryRequest) : List DiscoveryIssue :=
  conflictIssues "source-id-conflict" (sharing (fun d => d.2.1) (declarations request)) ++
    conflictIssues "locator-conflict" (sharing (fun d => (d.1, d.2.2)) (declarations request))

def noSources : DiscoveryIssue where
  code := "no-sources"
  sourceKind := none
  sourceId := none
  message := "no project sources were declared"

/-- The results in the order of the declarations. -/
def results (adapters : Adapters) (request : ImportDiscoveryRequest) :
    List SourceDiscoveryResult :=
  request.repositories.map
      (fun s => resultOf "repository" s.view (adapters.repositorySummary s)) ++
    request.documentRoots.map
      (fun s => resultOf "document-root" s.view (adapters.documentSummary s)) ++
    request.bindings.map fun s => resultOf "binding" s.view (adapters.bindingSummary s)

/-- The issues in the order in which they are found. -/
def issues (adapters : Adapters) (request : ImportDiscoveryRequest) : List DiscoveryIssue :=
  conflicts request ++ (if (declarations request).length = 0 then [noSources] else []) ++
    request.repositories.flatMap (repositoryIssues adapters) ++
    request.documentRoots.flatMap (documentIssues adapters) ++
    request.bindings.flatMap (bindingIssues adapters)

/-- The key that results are sorted by. -/
def resultKey (r : SourceDiscoveryResult) : String ×ₗ String ×ₗ String :=
  toLex (r.sourceKind, toLex (r.sourceId, r.locator))

/-- The key that issues are sorted by. -/
def issueKey (i : DiscoveryIssue) : String ×ₗ String ×ₗ String ×ₗ String :=
  toLex (i.sourceKind.getD "", toLex (i.sourceId.getD "", toLex (i.code, i.message)))

/-- `discover`. -/
def discover (adapters : Adapters) (request : ImportDiscoveryRequest) : ImportDiscoveryReport :=
  let orderedResults := sortedBy resultKey (results adapters request)
  let orderedIssues := sortedBy issueKey (issues adapters request)
  let declaredCount := (declarations request).length
  let report : ImportDiscoveryReport := {
    projectIdHint := request.projectIdHint
    displayNameHint := request.displayNameHint
    attemptedAll := decide ((results adapters request).length = declaredCount)
    complete := decide (0 < declaredCount) && orderedIssues.isEmpty
    results := orderedResults
    issues := orderedIssues
    digest := "" }
  { report with digest := (Json.obj report.content).digest }

/-! ## Requests that differ in their order -/

/-- The same declarations in another order. -/
structure Permuted (request other : ImportDiscoveryRequest) : Prop where
  projectIdHint : other.projectIdHint = request.projectIdHint
  displayNameHint : other.displayNameHint = request.displayNameHint
  repositories : other.repositories.Perm request.repositories
  documentRoots : other.documentRoots.Perm request.documentRoots
  bindings : other.bindings.Perm request.bindings

variable {adapters : Adapters} {request other : ImportDiscoveryRequest}

lemma Permuted.perm_declarations (h : Permuted request other) :
    (declarations other).Perm (declarations request) :=
  ((h.repositories.map _).append (h.documentRoots.map _)).append (h.bindings.map _)

lemma Permuted.perm_results (h : Permuted request other) :
    (results adapters other).Perm (results adapters request) :=
  ((h.repositories.map _).append (h.documentRoots.map _)).append (h.bindings.map _)

/-! ## Conflicts -/

section Sharing

variable {κ : Type} [DecidableEq κ] {key : Declaration → κ} {ds es : List Declaration}

lemma perm_sharing (h : ds.Perm es) : (sharing key ds).Perm (sharing key es) := by
  have hkeys : ((ds.map key).reverse.dedup.reverse).Perm (es.map key).reverse.dedup.reverse := by
    rw [List.perm_ext_iff_of_nodup (List.nodup_reverse.2 (List.nodup_dedup _))
      (List.nodup_reverse.2 (List.nodup_dedup _))]
    intro k
    simp only [List.mem_reverse, List.mem_dedup]
    exact (h.map key).mem_iff
  have hgroups : ∀ k, (let group := ds.filter fun d => key d = k
      if 1 < group.length then group else []).Perm
      (let group := es.filter fun d => key d = k
      if 1 < group.length then group else []) := by
    intro k
    have hgroup : (ds.filter fun d => key d = k).Perm (es.filter fun d => key d = k) := h.filter _
    dsimp only
    rw [hgroup.length_eq]
    split
    · exact hgroup
    · exact List.Perm.refl _
  exact hkeys.flatMap fun k _ => hgroups k

/-- No two declarations have the same key. -/
lemma nodup_of_sharing_eq_nil (h : sharing key ds = []) : (ds.map key).Nodup := by
  rw [List.nodup_iff_count_le_one]
  intro k
  by_contra hcount
  have hlength : 1 < (ds.filter fun d => key d = k).length := by
    rw [← List.countP_eq_length_filter]
    rw [List.count_eq_countP, List.countP_map] at hcount
    have hbeq : ((fun x => x == k) ∘ key : Declaration → Bool) = fun d => decide (key d = k) := by
      funext d
      exact beq_eq_decide _ _
    rw [hbeq] at hcount
    exact not_le.1 hcount
  have hmem : k ∈ (ds.map key).reverse.dedup.reverse := by
    obtain ⟨d, hd⟩ := List.exists_mem_of_length_pos (Nat.lt_of_succ_lt hlength)
    obtain ⟨hd, hkey⟩ := List.mem_filter.1 hd
    rw [List.mem_reverse, List.mem_dedup, List.mem_reverse]
    exact List.mem_map.2 ⟨d, hd, of_decide_eq_true hkey⟩
  have hgroup := List.flatMap_eq_nil_iff.1 h k hmem
  dsimp only at hgroup
  rw [if_pos hlength] at hgroup
  rw [hgroup] at hlength
  exact absurd hlength (by simp)

end Sharing

lemma Permuted.perm_issues (h : Permuted request other) :
    (issues adapters other).Perm (issues adapters request) := by
  have hconflicts : (conflicts other).Perm (conflicts request) :=
    ((perm_sharing h.perm_declarations).map _).append ((perm_sharing h.perm_declarations).map _)
  have hnone : (if (declarations other).length = 0 then [noSources] else []).Perm
      (if (declarations request).length = 0 then [noSources] else []) := by
    rw [h.perm_declarations.length_eq]
  exact (((hconflicts.append hnone).append (h.repositories.flatMap_right _)).append
    (h.documentRoots.flatMap_right _)).append (h.bindings.flatMap_right _)

/-- An issue names its source, unless there is none. -/
def Names (i : DiscoveryIssue) : Prop :=
  i.code = "no-sources" ∧ i.sourceKind = none ∧ i.sourceId = none ∨
    i.code ≠ "no-sources" ∧ i.sourceKind.isSome = true ∧ i.sourceId.isSome = true

lemma names_issue {code kind sourceId message : String} (h : code ≠ "no-sources") :
    Names (issue code kind sourceId message) := .inr ⟨h, rfl, rfl⟩

lemma names_of_mem_issues {i : DiscoveryIssue} (h : i ∈ issues adapters request) : Names i := by
  simp only [issues, conflicts, conflictIssues, List.mem_append, List.mem_map,
    List.mem_flatMap] at h
  obtain ((((⟨d, -, rfl⟩ | ⟨d, -, rfl⟩) | h) | ⟨s, -, h⟩) | ⟨s, -, h⟩) | ⟨s, -, h⟩ := h
  · exact names_issue (by decide)
  · exact names_issue (by decide)
  · split at h
    · obtain rfl := List.mem_singleton.1 h
      exact .inl ⟨rfl, rfl, rfl⟩
    · exact absurd h (by simp)
  · rw [repositoryIssues] at h
    split at h
    · obtain rfl := List.mem_singleton.1 h
      exact names_issue (by decide)
    · split at h
      · obtain rfl := List.mem_singleton.1 h
        exact names_issue (by decide)
      · exact absurd h (by simp)
  · rw [documentIssues] at h
    split at h
    · obtain rfl := List.mem_singleton.1 h
      exact names_issue (by decide)
    · split at h
      · obtain rfl := List.mem_singleton.1 h
        exact names_issue (by decide)
      · split at h
        · exact absurd h (by simp)
        · obtain rfl := List.mem_singleton.1 h
          exact names_issue (by decide)
  · rw [bindingIssues] at h
    split at h
    · obtain rfl := List.mem_singleton.1 h
      exact names_issue (by decide)
    · exact absurd h (by simp)

/-- The key of an issue is all of it. -/
lemma eq_of_issueKey_eq {i j : DiscoveryIssue} (hi : Names i) (hj : Names j)
    (h : issueKey i = issueKey j) : i = j := by
  obtain ⟨code, kind, sourceId, message⟩ := i
  obtain ⟨code', kind', sourceId', message'⟩ := j
  simp only [issueKey, toLex_inj, Prod.mk.injEq] at h
  obtain ⟨hkind, hid, rfl, rfl⟩ := h
  rcases hi with ⟨hcode, rfl, rfl⟩ | ⟨hcode, hisome, hisome'⟩ <;>
    rcases hj with ⟨hcode', rfl, rfl⟩ | ⟨hcode', hjsome, hjsome'⟩
  · rfl
  · exact absurd hcode hcode'
  · exact absurd hcode' hcode
  · obtain ⟨kind, rfl⟩ := Option.isSome_iff_exists.1 hisome
    obtain ⟨sourceId, rfl⟩ := Option.isSome_iff_exists.1 hisome'
    obtain ⟨kind', rfl⟩ := Option.isSome_iff_exists.1 hjsome
    obtain ⟨sourceId', rfl⟩ := Option.isSome_iff_exists.1 hjsome'
    rw [show kind = kind' from hkind, show sourceId = sourceId' from hid]

/-- The issues of a report do not depend on the order of the declarations. -/
lemma Permuted.sortedIssues (h : Permuted request other) :
    sortedBy issueKey (issues adapters other) = sortedBy issueKey (issues adapters request) :=
  sortedBy_congr h.perm_issues fun _ hi _ hj =>
    eq_of_issueKey_eq (names_of_mem_issues hi) (names_of_mem_issues hj)

/-! ## Declarations with one kind, id and locator -/

/-- A result is made of its source and of what the adapter answers. -/
lemma resultOf_inj {kind : String} {v w : SourceView} {a b : Option Json} :
    resultOf kind v a = resultOf kind w b ↔ v = w ∧ a = b := by
  constructor
  · intro h
    obtain ⟨sourceId, locator, credentialConfigured, configurationDigest⟩ := v
    obtain ⟨sourceId', locator', credentialConfigured', configurationDigest'⟩ := w
    simp only [resultOf, SourceDiscoveryResult.mk.injEq, true_and] at h
    obtain ⟨rfl, rfl, hstatus, rfl, rfl, hsummary⟩ := h
    refine ⟨rfl, ?_⟩
    cases a with
    | none =>
      cases b with
      | none => rfl
      | some b => exact absurd hstatus (by simp)
    | some a =>
      cases b with
      | none => exact absurd hstatus (by simp)
      | some b => rw [show a = b from hsummary]
  · rintro ⟨rfl, rfl⟩
    rfl

/-- Sources of one kind that share id and locator are configured alike and answered alike. -/
def TiesAgree {σ : Type} (view : σ → SourceView) (summary : σ → Option Json)
    (sources : List σ) : Prop :=
  ∀ s ∈ sources, ∀ t ∈ sources, (view s).sourceId = (view t).sourceId →
    (view s).locator = (view t).locator → view s = view t ∧ summary s = summary t

/-- The declarations of a request that share kind, id and locator agree. -/
structure Unambiguous (adapters : Adapters) (request : ImportDiscoveryRequest) : Prop where
  repositories : TiesAgree RepositorySource.view adapters.repositorySummary request.repositories
  documentRoots : TiesAgree DocumentRootSource.view adapters.documentSummary request.documentRoots
  bindings : TiesAgree BindingSource.view adapters.bindingSummary request.bindings

/-- The results of one kind of sources. -/
abbrev resultsOf {σ : Type} (kind : String) (view : σ → SourceView) (summary : σ → Option Json)
    (sources : List σ) : List SourceDiscoveryResult :=
  sources.map fun s => resultOf kind (view s) (summary s)

lemma resultKey_resultOf {kind kind' : String} {v w : SourceView} {a b : Option Json} :
    resultKey (resultOf kind v a) = resultKey (resultOf kind' w b) ↔
      kind = kind' ∧ v.sourceId = w.sourceId ∧ v.locator = w.locator := by
  simp only [resultKey, resultOf, toLex_inj, Prod.mk.injEq]

/-- Results of one kind with one key are equal. -/
lemma TiesAgree.eq {σ : Type} {view : σ → SourceView} {summary : σ → Option Json}
    {sources : List σ} (h : TiesAgree view summary sources) {kind : String}
    {r r' : SourceDiscoveryResult} (hr : r ∈ resultsOf kind view summary sources)
    (hr' : r' ∈ resultsOf kind view summary sources) (hkey : resultKey r = resultKey r') :
    r = r' := by
  obtain ⟨s, hs, rfl⟩ := List.mem_map.1 hr
  obtain ⟨t, ht, rfl⟩ := List.mem_map.1 hr'
  obtain ⟨-, hid, hlocator⟩ := resultKey_resultOf.1 hkey
  exact resultOf_inj.2 (h s hs t ht hid hlocator)

/-- Conversely, when the order of the sources has no influence. -/
lemma tiesAgree_of_sortedBy {σ : Type} [DecidableEq σ] {view : σ → SourceView}
    {summary : σ → Option Json} {sources : List σ} (kind : String)
    (pre post : List SourceDiscoveryResult)
    (h : ∀ others : List σ, others.Perm sources →
      sortedBy resultKey (pre ++ resultsOf kind view summary others ++ post) =
        sortedBy resultKey (pre ++ resultsOf kind view summary sources ++ post)) :
    TiesAgree view summary sources := fun _ hs _ ht hid hlocator =>
  resultOf_inj.1 (eq_of_sortedBy_map h hs ht (resultKey_resultOf.2 ⟨rfl, hid, hlocator⟩))

lemma Unambiguous.eq (h : Unambiguous adapters request) {r r' : SourceDiscoveryResult}
    (hr : r ∈ results adapters request) (hr' : r' ∈ results adapters request)
    (hkey : resultKey r = resultKey r') : r = r' := by
  have hkind : r.sourceKind = r'.sourceKind := congrArg (fun k => (ofLex k).1) hkey
  have hkinds : ∀ {σ : Type} {kind : String} {view : σ → SourceView} {summary : σ → Option Json}
      {sources : List σ} {q : SourceDiscoveryResult}, q ∈ resultsOf kind view summary sources →
      q.sourceKind = kind := by
    intro σ kind view summary sources q hq
    obtain ⟨s, -, rfl⟩ := List.mem_map.1 hq
    rfl
  rcases List.mem_append.1 hr with hr | hr
  · rcases List.mem_append.1 hr with hr | hr <;> rcases List.mem_append.1 hr' with hr' | hr'
    · rcases List.mem_append.1 hr' with hr' | hr'
      · exact h.repositories.eq hr hr' hkey
      · rw [hkinds hr, hkinds hr'] at hkind
        exact absurd hkind (by decide)
    · rw [hkinds hr, hkinds hr'] at hkind
      exact absurd hkind (by decide)
    · rcases List.mem_append.1 hr' with hr' | hr'
      · rw [hkinds hr, hkinds hr'] at hkind
        exact absurd hkind (by decide)
      · exact h.documentRoots.eq hr hr' hkey
    · rw [hkinds hr, hkinds hr'] at hkind
      exact absurd hkind (by decide)
  · rcases List.mem_append.1 hr' with hr' | hr'
    · rcases List.mem_append.1 hr' with hr' | hr' <;>
      · rw [hkinds hr, hkinds hr'] at hkind
        exact absurd hkind (by decide)
    · exact h.bindings.eq hr hr' hkey

/-! ## The report -/

/-- The report does not depend on the order of the declarations. -/
def OrderIndependent (adapters : Adapters) (request : ImportDiscoveryRequest) : Prop :=
  ∀ other, Permuted request other → discover adapters other = discover adapters request

lemma Permuted.refl (request : ImportDiscoveryRequest) : Permuted request request :=
  ⟨rfl, rfl, .refl _, .refl _, .refl _⟩

/-- The results of a report are all that may depend on the order. -/
lemma discover_eq_iff (h : Permuted request other) :
    discover adapters other = discover adapters request ↔
      sortedBy resultKey (results adapters other) =
        sortedBy resultKey (results adapters request) := by
  constructor
  · intro hreport
    exact congrArg ImportDiscoveryReport.results hreport
  · intro hresults
    simp only [discover, hresults, h.sortedIssues, h.projectIdHint, h.displayNameHint,
      h.perm_declarations.length_eq, h.perm_results.length_eq]

/-- **Order independence.** -/
theorem orderIndependent_iff :
    OrderIndependent adapters request ↔ Unambiguous adapters request := by
  constructor
  · intro h
    have hrefl := Permuted.refl request
    let repositories := resultsOf "repository" RepositorySource.view adapters.repositorySummary
      request.repositories
    let documents := resultsOf "document-root" DocumentRootSource.view adapters.documentSummary
      request.documentRoots
    let bindings := resultsOf "binding" BindingSource.view adapters.bindingSummary request.bindings
    refine ⟨?_, ?_, ?_⟩
    · refine tiesAgree_of_sortedBy "repository" [] (documents ++ bindings) fun others hperm => ?_
      have hother : Permuted request { request with repositories := others } :=
        { hrefl with repositories := hperm }
      simpa only [results, List.nil_append, List.append_assoc] using
        (discover_eq_iff hother).1 (h _ hother)
    · refine tiesAgree_of_sortedBy "document-root" repositories bindings fun others hperm => ?_
      have hother : Permuted request { request with documentRoots := others } :=
        { hrefl with documentRoots := hperm }
      exact (discover_eq_iff hother).1 (h _ hother)
    · refine tiesAgree_of_sortedBy "binding" (repositories ++ documents) [] fun others hperm => ?_
      have hother : Permuted request { request with bindings := others } :=
        { hrefl with bindings := hperm }
      simpa only [results, List.append_nil] using (discover_eq_iff hother).1 (h _ hother)
  · intro h other hother
    refine (discover_eq_iff hother).2 (sortedBy_congr hother.perm_results fun r hr r' hr' => ?_)
    exact h.eq (hother.perm_results.mem_iff.1 hr) (hother.perm_results.mem_iff.1 hr')

/-- The declared sources with their kinds. -/
def sources (request : ImportDiscoveryRequest) : List (String × SourceView) :=
  request.repositories.map (fun s => ("repository", s.view)) ++
    request.documentRoots.map (fun s => ("document-root", s.view)) ++
    request.bindings.map fun s => ("binding", s.view)

/-- The source that a result is about. -/
def sourceOf (r : SourceDiscoveryResult) : String × SourceView :=
  (r.sourceKind, ⟨r.sourceId, r.locator, r.credentialConfigured, r.configurationDigest⟩)

/-- Every declared source has one result. -/
lemma sources_of_report :
    ((discover adapters request).results.map sourceOf).Perm (sources request) := by
  have hsources : (results adapters request).map sourceOf = sources request := by
    simp only [results, sources, List.map_append, List.map_map]
    rfl
  rw [← hsources]
  exact (perm_sortedBy _).map sourceOf

/-- What a complete report says: all sources are discovered and no two are in conflict. -/
structure FreeOfConflicts (adapters : Adapters) (request : ImportDiscoveryRequest) : Prop where
  declared : sources request ≠ []
  discovered : ∀ r ∈ (discover adapters request).results, r.status = "discovered"
  ids : ((declarations request).map fun d => d.2.1).Nodup
  locators : ((declarations request).map fun d => (d.1, d.2.2)).Nodup
  branches : ∀ s ∈ request.repositories, ∀ hint, s.defaultBranchHint = some hint →
    ∃ inventory, adapters.repositories s = some inventory ∧ inventory.defaultBranch = some hint

lemma isSome_repositorySummary {s : RepositorySource} (h : repositoryIssues adapters s = []) :
    (adapters.repositorySummary s).isSome = true ∧ ∀ hint, s.defaultBranchHint = some hint →
      ∃ inventory, adapters.repositories s = some inventory ∧
        inventory.defaultBranch = some hint := by
  rw [repositoryIssues] at h
  cases hinspect : adapters.repositories s with
  | none => rw [hinspect] at h; exact absurd h (by simp)
  | some inventory =>
    refine ⟨by simp [Adapters.repositorySummary, hinspect], fun hint hhint => ⟨_, rfl, ?_⟩⟩
    rw [hinspect] at h
    by_contra hbranch
    simp [hhint, hbranch] at h

lemma isSome_documentSummary {s : DocumentRootSource} (h : documentIssues adapters s = []) :
    (adapters.documentSummary s).isSome = true := by
  rw [documentIssues] at h
  cases hadapter : adapters.documents s.adapter with
  | none => rw [hadapter] at h; exact absurd h (by simp)
  | some inspect =>
    cases hinspect : inspect s with
    | none => simp [hadapter, hinspect] at h
    | some inventory => simp [Adapters.documentSummary, hadapter, hinspect]

lemma isSome_bindingSummary {s : BindingSource} (h : bindingIssues adapters s = []) :
    (adapters.bindingSummary s).isSome = true := by
  rw [bindingIssues] at h
  cases hinspect : ((adapters.bindings s.kind).getD fun _ => some {}) s with
  | none => rw [hinspect] at h; exact absurd h (by simp)
  | some inventory => simp [Adapters.bindingSummary, hinspect]

lemma freeOfConflicts (h : (discover adapters request).complete = true) :
    FreeOfConflicts adapters request := by
  obtain ⟨hcount, hissues⟩ := Bool.and_eq_true_iff.1 h
  have hnone : issues adapters request = [] := sortedBy_eq_nil.1 (List.isEmpty_iff.1 hissues)
  simp only [issues, conflicts, conflictIssues, List.append_eq_nil_iff, List.map_eq_nil_iff,
    List.flatMap_eq_nil_iff] at hnone
  obtain ⟨⟨⟨⟨⟨hids, hlocators⟩, -⟩, hrepositories⟩, hdocuments⟩, hbindings⟩ := hnone
  refine ⟨?_, fun r hr => ?_, nodup_of_sharing_eq_nil hids, nodup_of_sharing_eq_nil hlocators,
    fun s hs => (isSome_repositorySummary (hrepositories s hs)).2⟩
  · intro hempty
    have hlength : (sources request).length = (declarations request).length := by
      simp [sources, declarations]
    rw [hempty] at hlength
    rw [← hlength] at hcount
    exact absurd hcount (by decide)
  · have hresult := mem_sortedBy.1 hr
    simp only [results, List.mem_append, List.mem_map] at hresult
    obtain (⟨s, hs, rfl⟩ | ⟨s, hs, rfl⟩) | ⟨s, hs, rfl⟩ := hresult
    · exact if_pos (isSome_repositorySummary (hrepositories s hs)).1
    · exact if_pos (isSome_documentSummary (hdocuments s hs))
    · exact if_pos (isSome_bindingSummary (hbindings s hs))

/-- What is asked of a report: it does not depend on the order of the declarations, every
source has one result, and it is complete only without conflicts. -/
structure Canonical (adapters : Adapters) (request : ImportDiscoveryRequest) : Prop where
  independent : OrderIndependent adapters request
  oneEach : ((discover adapters request).results.map sourceOf).Perm (sources request)
  complete : (discover adapters request).complete = true → FreeOfConflicts adapters request

/-- **Discovery reports.**  A report is canonical exactly when the declarations that share
kind, id and locator are configured alike and answered alike. -/
theorem canonical_report_iff (adapters : Adapters) (request : ImportDiscoveryRequest) :
    Canonical adapters request ↔ Unambiguous adapters request := by
  constructor
  · intro h
    exact orderIndependent_iff.1 h.independent
  · intro h
    exact ⟨orderIndependent_iff.2 h, sources_of_report, freeOfConflicts⟩

/-- Two bindings of different kinds with one id and locator. -/
theorem not_canonical_report :
    ¬ ∀ (adapters : Adapters) (request : ImportDiscoveryRequest), Canonical adapters request := by
  intro h
  let adapters : Adapters :=
    { repositories := fun _ => none, documents := fun _ => none, bindings := fun _ => none }
  let request : ImportDiscoveryRequest :=
    { bindings := [{ sourceId := "board", kind := "ado", locator := "https://example.org/board" },
        { sourceId := "board", kind := "jira", locator := "https://example.org/board" }] }
  have hties := (orderIndependent_iff.1 (h adapters request).independent).bindings
  have hsummary := (hties _ (List.mem_cons_self ..) _
    (List.mem_cons_of_mem _ (List.mem_singleton_self _)) rfl rfl).2
  exact absurd hsummary (by decide)

end ImportDiscovery

end AgenticMesh
