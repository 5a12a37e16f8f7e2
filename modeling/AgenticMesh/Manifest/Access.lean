import AgenticMesh.Manifest.Keys
import AgenticMesh.Manifest.Store

/-!
# Access to credentials and documents

What a running project reaches with the entries of its active manifest.  A
credential is read from a file below a mount that all projects share: the file
depends on the provider and on the reference of the entry.  A document root is
opened on the drive and at the path of its entry, and covers every item below
that path.
-/

namespace AgenticMesh

/-- The exceptions of document stores. -/
inductive DocumentError where
  | value (message : String)
  /-- `DocumentUnavailable`. -/
  | unavailable (message : String)
  /-- `DocumentNotFound`. -/
  | notFound (message : String)
  /-- `DocumentStoreError`. -/
  | store (message : String)
deriving DecidableEq

/-- A file below the mount of the credentials: `root / provider / scheme / parts`. -/
structure MountedFile where
  provider : String
  scheme : String
  parts : List String
deriving DecidableEq

namespace MountedAccessTokenProvider

/-- The file of a credential. -/
def candidate (provider reference : Json) : Option MountedFile := do
  let provider ← provider.asString.filter fun s => isSlug s = true
  let reference ← reference.asString
  let (scheme, relative) ← reference? reference
  let parts := ProjectManifest.pathParts relative
  if parts.any (· ∈ ["", ".", ".."]) then none
  else some { provider, scheme, parts }

/-- `access_token`, where `mount` holds the tokens of the regular files that can be read. -/
def accessToken (mount : MountedFile → Option String) (provider reference : Json) :
    Except DocumentError String :=
  Check.found ((candidate provider reference).bind mount)
    (.unavailable "document credential resolution failed")

end MountedAccessTokenProvider

/-- A document root that is open: its drive, its path, and the credential that it is read with. -/
structure OneDriveDocumentStore where
  driveId : String
  root : String
  credentialProvider : String
  credentialReference : String
deriving DecidableEq

namespace OneDriveDocumentStore

/-- The outcome of opening a document. -/
abbrev Opened := Except DocumentError

/-- `_identifier`. -/
def identifier (value : Json) (field : String) : Opened String :=
  Check.found (value.asString.filter fun s => isSlug s = true) (.value (field ++ " is invalid"))

/-- `_external_id`. -/
def externalId (value : Json) (field : String) : Opened String :=
  Check.found (value.asString.filter fun s => s ≠ "" ∧ s.toList.length ≤ 256 ∧
    s.toList.all (fun c => 33 ≤ c.toNat && c ∉ ['/', Char.ofNat 92, '?', '#', '@']) = true)
    (.value (field ++ " is invalid"))

/-- `_relative_path`. -/
def relativePath (value : String) (allowEmpty : Bool) : Opened String := do
  Check.that (value.toList.length ≤ 2048) (.value "document path is invalid")
  Check.that (¬ "/".toList <+: value.toList ∧ Char.ofNat 92 ∉ value.toList ∧
    Char.ofNat 0 ∉ value.toList) (.value "document path must be relative and contained")
  Check.that (value.toList.all (fun c => 32 ≤ c.toNat) = true)
    (.value "document path contains control characters")
  if value = "" then
    Check.that (allowEmpty = true) (.value "document path is required")
    return ""
  else
    let parts := ProjectManifest.pathParts value
    Check.that (∀ part ∈ parts, part ∉ ["", ".", ".."])
      (.value "document path must be canonical and contained")
    return "/".intercalate parts

/-- `_root_path`. -/
def rootPath (value : Json) : Opened String := do
  let rest ← Check.found (value.asString.bind fun s => removePrefix? s "/")
    (.value "document root must be absolute")
  let normalized ← relativePath rest true
  return "/" ++ normalized

/-- `_credential_reference`. -/
def credentialReferenceArg (value : Json) : Opened String :=
  Check.found (value.asString.filter fun s =>
    (∃ scheme ∈ ["secret://", "mount://", "oauth-cache://"], scheme.toList <+: s.toList) ∧
    s.toList.length ≤ 512 ∧ s.toList.all (fun c => 33 ≤ c.toNat) = true)
    (.value "credential reference is invalid")

/-- `OneDriveDocumentStore(...)`. -/
def init (driveId root credentialProvider reference : Json) : Opened OneDriveDocumentStore := do
  let driveId ← externalId driveId "drive_id"
  let root ← rootPath root
  let credentialProvider ← identifier credentialProvider "credential provider"
  let credentialReference ← credentialReferenceArg reference
  return { driveId, root, credentialProvider, credentialReference }

/-- `_join_root`. -/
def joinRoot (root relative : String) : String :=
  if relative = "" then root else ProjectManifest.stripRight root ++ "/" ++ relative

/-- The names on the way to an absolute path. -/
def names (path : String) : List String := (ProjectManifest.pathParts path).filter (· ≠ "")

/-- The item of a path of the store, as `_item_url` addresses it: its drive and the names on
the way to it. -/
def item (s : OneDriveDocumentStore) (relative : String) : String × List String :=
  (s.driveId, names (joinRoot s.root relative))

/-- The item of the root. -/
def rootItem (s : OneDriveDocumentStore) : String × List String := (s.driveId, names s.root)

/-- The root covers the items below it. -/
def Covers (s : OneDriveDocumentStore) (item : String × List String) : Prop :=
  s.driveId = item.1 ∧ names s.root <+: item.2

end OneDriveDocumentStore

namespace OneDriveDocumentStoreFactory

open OneDriveDocumentStore (Opened)

/-- `create`, for the snapshot of the active manifest. -/
def openRoot (snapshot : Json) (rootId : String) : Opened OneDriveDocumentStore := do
  let documents := ProjectManifest.fieldOf snapshot "documents"
  let credentials := ProjectManifest.fieldOf snapshot "credentials"
  let document ← Check.found ((documents.get? rootId).filter (·.asObject.isSome))
    (.notFound "project document root was not found")
  Check.that (document.get? "adapter" = some (.str "onedrive"))
    (.store "project document root is not a OneDrive adapter")
  let credentialId := (document.get? "credential").bind Json.asString
  let credential ← Check.found ((credentialId.bind credentials.get?).filter (·.asObject.isSome))
    (.store "project document credential is invalid")
  OneDriveDocumentStore.init (ProjectManifest.fieldOf document "drive_id")
    (ProjectManifest.fieldOf document "root") (ProjectManifest.fieldOf credential "provider")
    (ProjectManifest.fieldOf credential "reference")

/-- The snapshot of the active manifest of a project. -/
def activeSnapshot (projectId : String) (db : ManifestDb) : Option Json := do
  let active ← db.active.lookup projectId
  let snapshot ← db.snapshots.lookup (projectId, active.manifestDigest)
  return snapshot.snapshot

/-- `create`. -/
def create (projectId rootId : String) (db : ManifestDb) : Opened OneDriveDocumentStore := do
  let projectId ← OneDriveDocumentStore.identifier (.str projectId) "project_id"
  let rootId ← OneDriveDocumentStore.identifier (.str rootId) "root_id"
  let snapshot ← Check.found (activeSnapshot projectId db)
    (.notFound "active project document configuration was not found")
  openRoot snapshot rootId

end OneDriveDocumentStoreFactory

/-! ## Paths -/

namespace ProjectManifest

/-- The parts of a path spell it. -/
lemma intercalate_pathParts (s : String) : "/".intercalate (pathParts s) = s := by
  rw [← String.toList_inj, String.toList_intercalate]
  simp only [pathParts, List.map_map]
  have hparts : (s.toList.splitOn '/').map (String.toList ∘ String.ofList) =
      s.toList.splitOn '/' := by
    simp [Function.comp_def]
  rw [hparts]
  exact List.intercalate_splitOn '/'

lemma pathParts_append (s t : String) :
    pathParts (s ++ "/" ++ t) = pathParts s ++ pathParts t := by
  have htext : (s ++ "/" ++ t).toList = s.toList ++ '/' :: t.toList := by simp
  unfold pathParts
  rw [htext, List.splitOn_append_cons_self, List.map_append]

end ProjectManifest

namespace OneDriveDocumentStore

lemma relativePath_ok {value r : String} {allowEmpty : Bool}
    (h : relativePath value allowEmpty = .ok r) : r = value := by
  unfold relativePath at h
  simp only [Check.bind_ok, Check.that_ok] at h
  obtain ⟨-, -, -, -, -, -, h⟩ := h
  split at h
  · next hempty =>
    simp only [Check.bind_ok, Check.that_ok, Check.pure_ok] at h
    obtain ⟨-, -, rfl⟩ := h
    exact hempty.symm
  · simp only [Check.bind_ok, Check.that_ok, Check.pure_ok] at h
    obtain ⟨-, -, rfl⟩ := h
    exact ProjectManifest.intercalate_pathParts value

lemma rootPath_ok {value : Json} {r : String} (h : rootPath value = .ok r) :
    value = .str r := by
  unfold rootPath at h
  simp only [Check.bind_ok, Check.found_ok, Check.pure_ok, Option.bind_eq_some_iff] at h
  obtain ⟨rest, ⟨s, hs, hrest⟩, normalized, hnormalized, rfl⟩ := h
  rw [relativePath_ok hnormalized, ← removePrefix?_eq_some.1 hrest]
  exact Json.asString_eq_some.1 hs

lemma names_append (s t : String) : names (s ++ "/" ++ t) = names s ++ names t := by
  unfold names
  rw [ProjectManifest.pathParts_append, List.filter_append]

/-- Slashes at the end of a path name nothing. -/
lemma names_append_slashes (cs : List Char) (n : ℕ) :
    names (String.ofList (cs ++ List.replicate n '/')) = names (String.ofList cs) := by
  induction n with
  | zero => simp
  | succ n ih =>
    have htext : String.ofList (cs ++ List.replicate (n + 1) '/') =
        String.ofList (cs ++ List.replicate n '/') ++ "/" ++ "" := by
      rw [← String.toList_inj]
      simp [List.replicate_succ']
    have hempty : names "" = [] := by decide
    rw [htext, names_append, ih, hempty, List.append_nil]

lemma names_stripRight (s : String) : names (ProjectManifest.stripRight s) = names s := by
  unfold ProjectManifest.stripRight
  have hslashes : s.toList.rtakeWhile (· == '/') =
      List.replicate (s.toList.rtakeWhile (· == '/')).length '/' := by
    refine List.eq_replicate_length.2 fun c hc => ?_
    simpa using List.mem_rtakeWhile_imp hc
  have hsplit : s = String.ofList (s.toList.rdropWhile (· == '/') ++
      List.replicate (s.toList.rtakeWhile (· == '/')).length '/') := by
    rw [← hslashes, List.rdropWhile_append_rtakeWhile, String.ofList_toList]
  conv_rhs => rw [hsplit]
  exact (names_append_slashes _ _).symm

/-- The store reaches nothing but what its root covers. -/
lemma covers_item (u : OneDriveDocumentStore) (relative : String) :
    u.Covers (u.item relative) := by
  refine ⟨rfl, ?_⟩
  unfold item joinRoot
  split
  · exact List.prefix_rfl
  · rw [names_append, names_stripRight]
    exact List.prefix_append _ _

/-- The root covers itself. -/
lemma covers_rootItem (u : OneDriveDocumentStore) : u.Covers u.rootItem :=
  ⟨rfl, List.prefix_rfl⟩

/-- What covers the root of a store covers all that the store covers. -/
lemma covers_of_covers_rootItem {u v : OneDriveDocumentStore} {item : String × List String}
    (h : u.Covers v.rootItem) (hv : v.Covers item) : u.Covers item :=
  ⟨h.1.trans hv.1, h.2.trans hv.2⟩

/-- Of two roots that cover one item one covers the other. -/
lemma nested_of_covers {u v : OneDriveDocumentStore} {item : String × List String}
    (hu : u.Covers item) (hv : v.Covers item) : u.Covers v.rootItem ∨ v.Covers u.rootItem := by
  have hdrive : u.driveId = v.driveId := hu.1.trans hv.1.symm
  rcases List.prefix_or_prefix_of_prefix hu.2 hv.2 with hle | hle
  · exact Or.inl ⟨hdrive, hle⟩
  · exact Or.inr ⟨hdrive.symm, hle⟩

end OneDriveDocumentStore

lemma MountedAccessTokenProvider.candidate_ok {provider reference : String} {file : MountedFile}
    (h : MountedAccessTokenProvider.candidate (.str provider) (.str reference) = some file) :
    provider = file.provider ∧
      reference = file.scheme ++ "://" ++ "/".intercalate file.parts := by
  simp only [candidate, Json.asString, Option.bind_eq_bind, Option.bind_eq_some_iff,
    Option.filter_eq_some_iff, Option.some.injEq] at h
  obtain ⟨_, ⟨rfl, -⟩, _, rfl, ⟨scheme, relative⟩, hreference, h⟩ := h
  split at h
  · simp at h
  · obtain rfl := Option.some.inj h
    refine ⟨rfl, ?_⟩
    rw [ProjectManifest.intercalate_pathParts]
    exact reference?_eq_some hreference

namespace OneDriveDocumentStoreFactory

lemma init_ok {driveId root provider reference : Json} {u : OneDriveDocumentStore}
    (h : OneDriveDocumentStore.init driveId root provider reference = .ok u) :
    driveId = .str u.driveId ∧ root = .str u.root := by
  simp only [OneDriveDocumentStore.init, Check.bind_ok, Check.pure_ok] at h
  obtain ⟨d, hd, r, hr, p, -, c, -, rfl⟩ := h
  simp only [OneDriveDocumentStore.externalId, Check.found_ok, Option.filter_eq_some_iff] at hd
  exact ⟨Json.asString_eq_some.1 hd.1, OneDriveDocumentStore.rootPath_ok hr⟩

lemma openRoot_ok {snapshot : Json} {rootId : String} {u : OneDriveDocumentStore}
    (h : openRoot snapshot rootId = .ok u) :
    ∃ d, (ProjectManifest.fieldOf snapshot "documents").get? rootId = some d ∧
      d.get? "adapter" = some (.str "onedrive") ∧ d.get? "drive_id" = some (.str u.driveId) ∧
      d.get? "root" = some (.str u.root) := by
  simp only [openRoot, Check.bind_ok, Check.found_ok, Check.that_ok,
    Option.filter_eq_some_iff] at h
  obtain ⟨d, ⟨hd, -⟩, -, hadapter, credential, -, h⟩ := h
  obtain ⟨hdrive, hroot⟩ := init_ok h
  exact ⟨d, hd, hadapter, ProjectManifest.fieldOf_eq_str hdrive,
    ProjectManifest.fieldOf_eq_str hroot⟩

end OneDriveDocumentStoreFactory

end AgenticMesh
