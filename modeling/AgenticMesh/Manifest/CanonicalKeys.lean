import AgenticMesh.Manifest.Access
import AgenticMesh.Manifest.Ownership

/-!
# Keys and access

The owners of a resource are compared when two active manifests claim its key.
What the runtime reaches is not always behind one key: a mounted credential file
has a key for each project that uses it, unless it is a credential of the
system, and of two nested document roots each has its own.
-/

namespace AgenticMesh

namespace ProjectManifestStore

open ProjectManifest (entries fieldOf namespaceOf)
open OneDriveDocumentStore (covers_rootItem covers_of_covers_rootItem nested_of_covers)
open OneDriveDocumentStoreFactory (create)

variable {lib : TextLibrary} {db db' : ManifestDb} {m n : ProjectManifest}

/-! ## What is shared -/

/-- The file that a credential entry is read from. -/
def fileOf (c : String × Json) : Option MountedFile :=
  MountedAccessTokenProvider.candidate (fieldOf c.2 "provider") (fieldOf c.2 "reference")

/-- A credential entry of the manifest is read from the file. -/
def Reads (m : ProjectManifest) (file : MountedFile) : Prop :=
  ∃ c ∈ entries m.snapshot "credentials", fileOf c = some file

/-- A document root of the project is open. -/
def Opens (db : ManifestDb) (projectId : String) (u : OneDriveDocumentStore) : Prop :=
  ∃ rootId, create projectId rootId db = .ok u

/-- A document root of the project covers the item. -/
def Covered (db : ManifestDb) (projectId : String) (item : String × List String) : Prop :=
  ∃ u, Opens db projectId u ∧ u.Covers item

/-- The resource is claimed for a credential entry that is read from the file. -/
def CredentialOf (m : ProjectManifest) (file : MountedFile) (r : ResourceBinding) : Prop :=
  r ∈ m.resources ∧ ∃ c ∈ entries m.snapshot "credentials", fileOf c = some file ∧
    ProjectManifest.credential m.projectId c = .ok (c, r)

/-- The resource is claimed for a document root that covers the item. -/
def RootOf (db : ManifestDb) (m : ProjectManifest) (item : String × List String)
    (r : ResourceBinding) : Prop :=
  r ∈ m.resources ∧ ∃ rootId u d ids, create m.projectId rootId db = .ok u ∧ u.Covers item ∧
    (fieldOf m.snapshot "documents").get? rootId = some d ∧
    ProjectManifest.document m.projectId ids (rootId, d) = .ok ((rootId, d), r)

/-- One of the manifests was activated while the other one was active, and its resource passed
the comparison with the claim of the other one. -/
def ComparedAtActivation (lib : TextLibrary) (es : List ManifestEvent) (m n : ProjectManifest)
    (r s : ResourceBinding) : Prop :=
  ∃ fs q gs, es = fs ++ .activate q :: gs ∧
    (q.manifest = m ∧ Active lib (run (step lib) {} fs) n ∧
        authorizeClaim q.authorizer m ⟨n.projectId, n.digest, s⟩ = .ok () ∨
      q.manifest = n ∧ Active lib (run (step lib) {} fs) m ∧
        authorizeClaim q.authorizer n ⟨m.projectId, m.digest, r⟩ = .ok ())

/-- Two resources of one kind and key that were compared. -/
def SharedKey (lib : TextLibrary) (es : List ManifestEvent) (m n : ProjectManifest)
    (r s : ResourceBinding) : Prop :=
  ProjectManifest.identityOf r = ProjectManifest.identityOf s ∧
    ComparedAtActivation lib es m n r s

/-- What both manifests reach has a key that they share. -/
structure CanonicalKeys (lib : TextLibrary) (es : List ManifestEvent) (m n : ProjectManifest) :
    Prop where
  credentials : ∀ file, Reads m file → Reads n file →
    ∃ r s, CredentialOf m file r ∧ CredentialOf n file s ∧ SharedKey lib es m n r s
  documents : ∀ item, Covered (run (step lib) {} es) m.projectId item →
    Covered (run (step lib) {} es) n.projectId item →
    ∃ r s, RootOf (run (step lib) {} es) m item r ∧ RootOf (run (step lib) {} es) n item s ∧
      SharedKey lib es m n r s

/-- The credential is one of the system, or of the project that is called `system`. -/
def InSystem (m : ProjectManifest) (c : String × Json) : Prop :=
  m.projectId = "system" ∨ c.2.get? "scope" = some (.str "system")

/-- The manifest reads the file through a credential of the system. -/
def ReadsThroughSystem (m : ProjectManifest) (file : MountedFile) : Prop :=
  ∃ c ∈ entries m.snapshot "credentials", fileOf c = some file ∧ InSystem m c

/-- Both projects open a root of the same drive and path that covers the item. -/
def CommonRoot (db : ManifestDb) (p q : String) (item : String × List String) : Prop :=
  ∃ u v, Opens db p u ∧ Opens db q v ∧ u.driveId = v.driveId ∧ u.root = v.root ∧ u.Covers item

/-- Common files are read through the system, and of two nested roots the inner one lies in a
common root. -/
structure SharedThrough (db : ManifestDb) (m n : ProjectManifest) : Prop where
  files : ∀ file, Reads m file → Reads n file →
    ReadsThroughSystem m file ∧ ReadsThroughSystem n file
  roots : ∀ u v, Opens db m.projectId u → Opens db n.projectId v →
    (u.Covers v.rootItem → CommonRoot db m.projectId n.projectId v.rootItem) ∧
    (v.Covers u.rootItem → CommonRoot db m.projectId n.projectId u.rootItem)

/-! ## Comparisons -/

/-- A manifest that is activated while another one is active is compared with it. -/
lemma Activated.compared {q : ActivateRequest} (h : Activated lib q db db')
    (hclaimed : Claimed lib db) (hm : Active lib db m) (hne : m.projectId ≠ q.manifest.projectId)
    {r : ResourceBinding} (hr : r ∈ m.resources) :
    authorizeClaim q.authorizer q.manifest ⟨m.projectId, m.digest, r⟩ = .ok () :=
  Check.forM_ok.1 h.collisions _ (mem_foreignClaims hclaimed hm hne hr)

/-- **Of two active manifests one was compared with the other.** -/
theorem compared_of_active {es : List ManifestEvent} (hm : Active lib (run (step lib) {} es) m)
    (hn : Active lib (run (step lib) {} es) n) (hne : m.projectId ≠ n.projectId)
    {r s : ResourceBinding} (hr : r ∈ m.resources) (hs : s ∈ n.resources) :
    ComparedAtActivation lib es m n r s := by
  obtain ⟨fs, q, gs, hes, rfl, -, hq, hkept⟩ := exists_last_activation hm
  obtain ⟨fs', q', gs', hes', rfl, -, hq', hkept'⟩ := exists_last_activation hn
  -- the later of the two activations made the comparison
  rcases List.append_eq_append_iff.1 (hes.symm.trans hes') with ⟨as, hfs, has⟩ | ⟨as, hfs, has⟩
  · cases as with
    | nil =>
      obtain ⟨heq, -⟩ := List.cons.inj has
      rw [ManifestEvent.activate.inj heq] at hne
      exact absurd rfl hne
    | cons a as =>
      obtain ⟨rfl, hgs⟩ := List.cons.inj has
      have hactive := hkept as ⟨_, hgs.symm⟩
      rw [← hfs] at hactive
      exact ⟨fs', q', gs', hes', Or.inr ⟨rfl, hactive,
        hq'.compared (inv_run fs').claimed hactive hne hr⟩⟩
  · cases as with
    | nil =>
      obtain ⟨heq, -⟩ := List.cons.inj has
      rw [ManifestEvent.activate.inj heq] at hne
      exact absurd rfl hne
    | cons a as =>
      obtain ⟨rfl, hgs⟩ := List.cons.inj has
      have hactive := hkept' as ⟨_, hgs.symm⟩
      rw [← hfs] at hactive
      exact ⟨fs, q, gs, hes, Or.inl ⟨rfl, hactive,
        hq.compared (inv_run fs).claimed hactive hne.symm hs⟩⟩

/-! ## Keys of what is reached -/

/-- The snapshot that the runtime reads is the one of the active manifest. -/
lemma Active.fixed (hinv : ManifestInv lib db) (h : Active lib db m) :
    ProjectManifest.Fixed m ∧
      OneDriveDocumentStoreFactory.activeSnapshot m.projectId db = some m.snapshot := by
  obtain ⟨a, s, ha, hdigest, hs, hnormal⟩ := active_iff.1 h
  obtain ⟨m', hm', hsnapshot⟩ := hinv.normal s (Table.lookup_eq_some.1 hs).1
  obtain rfl : m = m' := Except.ok.inj (hnormal.symm.trans hm')
  rw [← hsnapshot] at hnormal
  refine ⟨ProjectManifest.fixed_of_normalize hnormal, ?_⟩
  simp [OneDriveDocumentStoreFactory.activeSnapshot, ha, hdigest, hs, hsnapshot]

lemma openRoot_of_create {rootId : String} {u : OneDriveDocumentStore}
    (hinv : ManifestInv lib db) (hm : Active lib db m)
    (h : create m.projectId rootId db = .ok u) :
    OneDriveDocumentStoreFactory.openRoot m.snapshot rootId = .ok u := by
  simp only [create, OneDriveDocumentStore.identifier, Check.bind_ok, Check.found_ok,
    Option.filter_eq_some_iff, Json.asString, Option.some.injEq] at h
  obtain ⟨_, ⟨rfl, -⟩, _, ⟨rfl, -⟩, snapshot, hsnapshot, hopen⟩ := h
  rw [(hm.fixed hinv).2] at hsnapshot
  rwa [Option.some.inj hsnapshot]

lemma bar_notMem_namespaceOf (hm : isSlug m.projectId = true) (c : String × Json) :
    '|' ∉ (namespaceOf m.projectId c).toList := by
  unfold namespaceOf
  split
  · exact ProjectManifest.bar_notMem_of_isSlug hm
  · decide

/-- The credential of a file has a key with the namespace of its entry. -/
lemma key_of_credential {c : String × Json} {file : MountedFile} {r : ResourceBinding}
    (hc : fileOf c = some file) (h : ProjectManifest.credential m.projectId c = .ok (c, r)) :
    '|' ∉ file.provider.toList ∧
      ProjectManifest.identityOf r = ("credential", namespaceOf m.projectId c ++ "|" ++
        file.provider ++ "|" ++ (file.scheme ++ "://" ++ "/".intercalate file.parts)) := by
  obtain ⟨provider, reference, hslug, hprovider, hreference, -, hkind, hkey⟩ :=
    ProjectManifest.credential_ok h
  rw [fileOf, fieldOf, fieldOf, hprovider, hreference] at hc
  obtain ⟨rfl, rfl⟩ := MountedAccessTokenProvider.candidate_ok hc
  exact ⟨ProjectManifest.bar_notMem_of_isSlug hslug,
    by rw [ProjectManifest.identityOf, hkind, hkey]⟩

/-- An open root has a key with its drive and path. -/
lemma key_of_root {rootId : String} {u : OneDriveDocumentStore} {d : Json} {ids : List String}
    {r : ResourceBinding} (hopen : OneDriveDocumentStoreFactory.openRoot m.snapshot rootId = .ok u)
    (hd : (fieldOf m.snapshot "documents").get? rootId = some d)
    (h : ProjectManifest.document m.projectId ids (rootId, d) = .ok ((rootId, d), r)) :
    '|' ∉ u.driveId.toList ∧ ProjectManifest.identityOf r =
      ("document-root", "onedrive" ++ "|" ++ u.driveId ++ "|" ++ u.root) := by
  obtain ⟨d', hd', hadapter, hdrive, hroot⟩ := OneDriveDocumentStoreFactory.openRoot_ok hopen
  obtain rfl : d = d' := Option.some.inj (hd.symm.trans hd')
  obtain ⟨adapter, driveId, root, -, hexternal, hadapter', hdrive', hroot', hkind, hkey⟩ :=
    ProjectManifest.document_ok h
  obtain rfl : "onedrive" = adapter :=
    Json.str.inj (Option.some.inj (hadapter.symm.trans hadapter'))
  obtain rfl : u.driveId = driveId := Json.str.inj (Option.some.inj (hdrive.symm.trans hdrive'))
  obtain rfl : u.root = root := Json.str.inj (Option.some.inj (hroot.symm.trans hroot'))
  exact ⟨ProjectManifest.bar_notMem_of_isExternalId hexternal,
    by rw [ProjectManifest.identityOf, hkind, hkey]⟩

/-- A credential of the system lies in the namespace of the system. -/
lemma namespaceOf_eq_system {c : String × Json}
    (hscope : c.2.get? "scope" = some (.str "project") ∨ c.2.get? "scope" = some (.str "system")) :
    namespaceOf m.projectId c = "system" ↔ InSystem m c := by
  unfold namespaceOf InSystem
  obtain hscope | hscope := hscope
  · simp [hscope]
  · simp [hscope]

/-- Two projects have only the namespace of the system in common. -/
lemma system_of_namespaceOf_eq {c d : String × Json} (hne : m.projectId ≠ n.projectId)
    (h : namespaceOf m.projectId c = namespaceOf n.projectId d) :
    namespaceOf m.projectId c = "system" ∧ namespaceOf n.projectId d = "system" := by
  have hboth : namespaceOf m.projectId c = "system" ∨ namespaceOf n.projectId d = "system" := by
    by_contra hnone
    rw [not_or] at hnone
    simp only [namespaceOf] at h hnone
    split at h
    · split at h
      · exact hne h
      · next hd => exact hnone.2 (if_neg hd)
    · next hc => exact hnone.1 (if_neg hc)
  obtain hsystem | hsystem := hboth
  · exact ⟨hsystem, h.symm.trans hsystem⟩
  · exact ⟨h.trans hsystem, hsystem⟩

lemma CredentialOf.readsThroughSystem {file : MountedFile} {c : String × Json}
    {r : ResourceBinding} (hc : c ∈ entries m.snapshot "credentials") (hfile : fileOf c = some file)
    (hr : ProjectManifest.credential m.projectId c = .ok (c, r))
    (hsystem : namespaceOf m.projectId c = "system") : ReadsThroughSystem m file := by
  obtain ⟨-, -, -, -, -, hscope, -⟩ := ProjectManifest.credential_ok hr
  exact ⟨c, hc, hfile, (namespaceOf_eq_system hscope).1 hsystem⟩

/-- The key of a file that is read through the system. -/
lemma ReadsThroughSystem.credentialOf {file : MountedFile} (hm : ProjectManifest.Fixed m)
    (h : ReadsThroughSystem m file) : ∃ r, CredentialOf m file r ∧
      ProjectManifest.identityOf r = ("credential", "system" ++ "|" ++ file.provider ++ "|" ++
        (file.scheme ++ "://" ++ "/".intercalate file.parts)) := by
  obtain ⟨c, hc, hfile, hsystem⟩ := h
  obtain ⟨r, hr, hcredential⟩ := hm.credentials c hc
  obtain ⟨-, -, -, -, -, hscope, -⟩ := ProjectManifest.credential_ok hcredential
  have hkey := (key_of_credential hfile hcredential).2
  rw [(namespaceOf_eq_system hscope).2 hsystem] at hkey
  exact ⟨r, ⟨hr, c, hc, hfile, hcredential⟩, hkey⟩

/-- The key of an open root. -/
lemma Opens.rootOf {u : OneDriveDocumentStore} {item : String × List String}
    (hinv : ManifestInv lib db) (hm : Active lib db m) (h : Opens db m.projectId u)
    (hcovers : u.Covers item) : ∃ r, RootOf db m item r ∧ ProjectManifest.identityOf r =
      ("document-root", "onedrive" ++ "|" ++ u.driveId ++ "|" ++ u.root) := by
  obtain ⟨rootId, hcreate⟩ := h
  have hopen := openRoot_of_create hinv hm hcreate
  obtain ⟨d, hd, -⟩ := OneDriveDocumentStoreFactory.openRoot_ok hopen
  obtain ⟨r, hr, ids, hdocument⟩ :=
    (hm.fixed hinv).1.documents (rootId, d) (ProjectManifest.mem_entries hd)
  exact ⟨r, ⟨hr, rootId, u, d, ids, hcreate, hcovers, hd, hdocument⟩,
    (key_of_root hopen hd hdocument).2⟩

/-- Roots with one key are one root. -/
lemma commonRoot_of_rootOf {item : String × List String} {r s : ResourceBinding}
    (hinv : ManifestInv lib db) (hm : Active lib db m) (hn : Active lib db n)
    (hr : RootOf db m item r) (hs : RootOf db n item s)
    (hid : ProjectManifest.identityOf r = ProjectManifest.identityOf s) :
    CommonRoot db m.projectId n.projectId item := by
  obtain ⟨-, rootId, u, d, ids, hcreate, hcovers, hd, hdocument⟩ := hr
  obtain ⟨-, rootId', v, d', ids', hcreate', -, hd', hdocument'⟩ := hs
  obtain ⟨hbar, hkey⟩ := key_of_root (openRoot_of_create hinv hm hcreate) hd hdocument
  obtain ⟨hbar', hkey'⟩ := key_of_root (openRoot_of_create hinv hn hcreate') hd' hdocument'
  rw [hkey, hkey'] at hid
  obtain ⟨-, hdrive, hroot⟩ := ProjectManifest.credentialKey_inj (by decide) (by decide) hbar hbar'
    (Prod.mk.inj hid).2
  exact ⟨u, v, ⟨rootId, hcreate⟩, ⟨rootId', hcreate'⟩, hdrive, hroot, hcovers⟩

lemma CommonRoot.mono {p q : String} {v : OneDriveDocumentStore} {item : String × List String}
    (h : CommonRoot db p q v.rootItem) (hv : v.Covers item) : CommonRoot db p q item := by
  obtain ⟨u, u', hu, hu', hdrive, hroot, hcovers⟩ := h
  exact ⟨u, u', hu, hu', hdrive, hroot, covers_of_covers_rootItem hcovers hv⟩

/-! ## Two projects with the same references -/

open ProjectManifest (gitUrl adoUrl credential repository ado teams teamsIdentity teamsIdentities
  ownership requiredLink packages role limits normalized namedMapping namedMapping_of matching_ok
  credentialLink
  text_ok not_infix_of_notMem normalizeProjectManifest identityOf resourceLe isExternalId
  NormalizedManifest
  grantReference)

/-- A credential of the project. -/
def projectCredential (name : String) : String × Json :=
  (name, .obj [("provider", .str "azure"), ("reference", .str ("secret://" ++ name)),
    ("scope", .str "project")])

def projectResources (projectId : String) : List ResourceBinding := [
  ⟨"ado-project", "https://dev.azure.com/acme|" ++ projectId, projectId, none⟩,
  ⟨"credential", projectId ++ "|azure|secret://bot", projectId, none⟩,
  ⟨"credential", projectId ++ "|azure|secret://connector", projectId, none⟩,
  ⟨"repository", "https://git.test/" ++ projectId ++ ".git", projectId, none⟩,
  ⟨"teams-bot-identity", "tenant|" ++ projectId, projectId, none⟩,
  ⟨"teams-channel", "tenant|team|" ++ projectId, projectId, none⟩]

def sampleProject (projectId : String) : ProjectManifest :=
  exampleManifest projectId [projectCredential "bot", projectCredential "connector"] []
    (projectResources projectId)

/-- The characters of an identifier. -/
lemma chars_of_isSlug {p : String} (h : isSlug p = true) :
    p.toList.length ≤ 128 ∧ p.toList ≠ [] ∧
      ∀ c ∈ p.toList, (c.isDigit || c.isLower || c == '-') = true := by
  unfold isSlug fullmatch at h
  cases hp : p.toList with
  | nil => simp [hp] at h
  | cons c cs =>
    simp only [hp, Bool.and_eq_true, decide_eq_true_eq, List.all_eq_true] at h
    obtain ⟨⟨hc, hlength⟩, hcs⟩ := h
    refine ⟨?_, by simp, fun d hd => ?_⟩
    · rw [List.length_cons]
      omega
    obtain rfl | hd := List.mem_cons.1 hd
    · simp only [isSlugStart] at hc
      simp [hc]
    · exact hcs d hd

lemma toLower_of_slug {c : Char} (h : (c.isDigit || c.isLower || c == '-') = true) :
    c.toLower = c := by
  have hlower : ∀ n < 128, ((Char.ofNat n).isDigit || (Char.ofNat n).isLower ||
      Char.ofNat n == '-') = true → (Char.ofNat n).toLower = Char.ofNat n := by decide
  have hrange : c.toNat < 128 := by
    delta Char.isLower at h
    simp only [Char.isDigit, Bool.or_eq_true, Bool.and_eq_true, decide_eq_true_eq,
      beq_iff_eq, UInt32.le_iff_toNat_le] at h
    change c.val.toNat < 128
    have hz : 'z'.val.toNat = 122 := rfl
    have h9 : '9'.val.toNat = 57 := rfl
    rcases h with (h | h) | rfl
    · omega
    · omega
    · decide
  have hchar : Char.ofNat c.toNat = c := Char.ofNat_toNat c
  have hcase := hlower c.toNat hrange
  rw [hchar] at hcase
  exact hcase h

/-- What the normalization reads of an identifier. -/
structure Plain (p : String) : Prop where
  identifier : ∀ label, ProjectManifest.identifier (.str p) label = .ok p
  external : ∀ label, ProjectManifest.externalId (.str p) label = .ok p
  text : ∀ label, ProjectManifest.text (.str p) label 200 = .ok p
  folded : asciiLibrary.casefold p = p
  url : gitUrl asciiLibrary (.str ("https://git.test/" ++ p ++ ".git")) =
    .ok ("https://git.test/" ++ p ++ ".git")

lemma plain_of_isSlug {p : String} (h : isSlug p = true) : Plain p := by
  obtain ⟨hlength, hne, hchars⟩ := chars_of_isSlug h
  have hnot : ∀ c, (c.isDigit || c.isLower || c == '-') = false → c ∉ p.toList := by
    intro c hc hmem
    rw [hchars c hmem] at hc
    cases hc
  have hidentifier : ∀ c ∈ p.toList, isIdentifierChar c = true := by
    intro c hc
    have hslug := hchars c hc
    simp only [Bool.or_eq_true, beq_iff_eq] at hslug
    rcases hslug with (hdigit | hlower) | rfl
    · simp [isIdentifierChar, isAlphanum_of_isDigit hdigit]
    · simp [isIdentifierChar, isAlphanum_of_isLower hlower]
    · decide
  have hspace : ∀ c ∈ p.toList, isSpace c = false :=
    fun c hc => isSpace_eq_false_of_isIdentifierChar (hidentifier c hc)
  have hstrip : strip p = p := strip_eq_self hspace
  have hnempty : p ≠ "" := by
    rintro rfl
    exact hne rfl
  have hurl : ("https://git.test/" ++ p ++ ".git").toList =
      "https://git.test/".toList ++ (p.toList ++ ".git".toList) := by
    rw [String.toList_append, String.toList_append, List.append_assoc]
  refine ⟨fun label => matching_ok.2 ⟨rfl, h⟩, fun label => matching_ok.2 ⟨rfl, ?_⟩,
    fun label => ?_, ?_, ?_⟩
  · unfold isExternalId fullmatch
    unfold isSlug fullmatch at h
    cases hp : p.toList with
    | nil => exact absurd hp hne
    | cons c cs =>
      simp only [hp, Bool.and_eq_true, decide_eq_true_eq, List.all_eq_true] at h hidentifier ⊢
      obtain ⟨⟨hc, hle⟩, -⟩ := h
      refine ⟨⟨?_, by omega⟩, fun d hd => ?_⟩
      · simp only [isSlugStart, Bool.or_eq_true] at hc
        rcases hc with hc | hc
        · simp [isAlphanum_of_isDigit hc]
        · simp [isAlphanum_of_isLower hc]
      · have hd := hidentifier d (List.mem_cons_of_mem c hd)
        simp only [isIdentifierChar, Bool.or_eq_true] at hd
        rcases hd with (((hd | hd) | hd) | hd) | hd <;> simp [hd]
  · exact text_ok.2 ⟨p, rfl, by rwa [hstrip], by omega, not_infix_of_notMem (hnot _ (by decide)),
      hnot _ (by decide), hstrip⟩
  · rw [← String.toList_inj]
    refine String.toList_ofList.trans ?_
    conv_rhs => rw [← List.map_id p.toList]
    refine List.map_congr_left fun c hc => ?_
    exact toLower_of_slug (hchars c hc)
  · have hfixed : ("https://git.test/".toList ++ ".git".toList).all
        (fun c => !isSpace c && c != '$' && c != Char.ofNat 0) = true := by
      simp only [String.reduceToList]
      decide
    have hall : ∀ c ∈ ("https://git.test/" ++ p ++ ".git").toList,
        isSpace c = false ∧ c ≠ '$' ∧ c ≠ Char.ofNat 0 := by
      intro c hc
      rw [hurl, List.mem_append, List.mem_append] at hc
      rcases hc with hc | hc | hc
      · simpa [and_assoc] using List.all_eq_true.1 hfixed c (List.mem_append_left _ hc)
      · refine ⟨hspace c hc, ?_, ?_⟩
        · rintro rfl
          exact hnot _ (by decide) hc
        · rintro rfl
          exact hnot _ (by decide) hc
      · simpa [and_assoc] using List.all_eq_true.1 hfixed c (List.mem_append_right _ hc)
    have hstrip : strip ("https://git.test/" ++ p ++ ".git") = "https://git.test/" ++ p ++ ".git" :=
      strip_eq_self fun c hc => (hall c hc).1
    have hlen : ("https://git.test/" ++ p ++ ".git").toList.length = p.toList.length + 21 := by
      rw [hurl]
      simp only [String.reduceToList, List.length_append, List.length_cons, List.length_nil]
      omega
    have htext : ProjectManifest.text (.str ("https://git.test/" ++ p ++ ".git")) "repository url"
        1000 = .ok ("https://git.test/" ++ p ++ ".git") := by
      refine text_ok.2 ⟨_, rfl, ?_, by omega, not_infix_of_notMem fun hc => (hall _ hc).2.1 rfl,
        fun hc => (hall _ hc).2.2 rfl, hstrip⟩
      rw [hstrip]
      intro hempty
      rw [hempty] at hlen
      simp at hlen
    have hsplit : removePrefix? ("https://git.test/" ++ p ++ ".git") "https://" =
        some ("git.test/" ++ p ++ ".git") := by
      rw [removePrefix?_eq_some, ← String.append_assoc, ← String.append_assoc]
      rfl
    have hrest : ("git.test/" ++ p ++ ".git").toList =
        "git.test".toList ++ '/' :: (p.toList ++ ".git".toList) := by
      rw [String.toList_append, String.toList_append, List.append_assoc]
      rfl
    have hhost : ∀ c ∈ "git.test".toList, (c != '/') = true :=
      List.all_eq_true.1 (by simp only [String.reduceToList]; decide)
    have hhostname : String.ofList ((("git.test/" ++ p ++ ".git").toList.takeWhile
        (· != '/')).map Char.toLower) = "git.test" := by
      rw [hrest, List.takeWhile_append_of_pos hhost, List.takeWhile_cons_of_neg (by simp),
        List.append_nil]
      rfl
    have hpath : String.ofList (("git.test/" ++ p ++ ".git").toList.dropWhile (· != '/')) =
        "/" ++ p ++ ".git" := by
      rw [hrest, List.dropWhile_append_of_pos hhost, List.dropWhile_cons_of_neg (by simp),
        ← String.toList_inj, String.toList_ofList, String.toList_append, String.toList_append,
        List.append_assoc]
      rfl
    have hparsed : asciiLibrary.urlsplit ("https://git.test/" ++ p ++ ".git") =
        some ⟨"https", some "git.test", none, none, none, "/" ++ p ++ ".git", "", ""⟩ := by
      refine (congrArg (Option.map _) hsplit).trans ?_
      simp only [Option.map_some, hhostname, hpath]
    simp only [gitUrl, Check.bind_ok, Check.found_ok, Check.that_ok, Check.pure_ok]
    refine ⟨_, htext, _, hparsed, _, rfl, (), ⟨rfl, by decide, rfl, rfl, rfl, rfl, ?_⟩, ?_⟩
    · rw [String.toList_append]
      exact List.suffix_append _ _
    · have hhost : asciiLibrary.lower "git.test" = "git.test" := by
        simp only [asciiLibrary, String.reduceToList]
        rfl
      rw [hhost, String.append_assoc]
      rfl

lemma credential_projectCredential {p name : String}
    (h : (reference? ("secret://" ++ name)).isSome = true) :
    credential p (projectCredential name) = .ok (projectCredential name,
      ⟨"credential", p ++ "|" ++ "azure" ++ "|" ++ ("secret://" ++ name), p, none⟩) := by
  have hprovider : ProjectManifest.identifier (.str "azure") "credential provider" =
      .ok "azure" := by
    refine matching_ok.2 ⟨rfl, ?_⟩
    simp only [isSlug, fullmatch, String.reduceToList]
    decide
  have hscope : Json.str "project" ≠ .str "system" := by decide
  simp only [credential, Check.bind_ok, Check.that_ok, Check.pure_ok]
  exact ⟨_, rfl, (), Or.inl rfl, "azure", hprovider, "secret://" ++ name,
    matching_ok.2 ⟨rfl, h⟩, none, rfl, (), fun hsystem => absurd hsystem hscope, (),
    fun _ => rfl, rfl⟩

lemma append_le_append {p a b : String} (h : a < b) : p ++ a ≤ p ++ b := by
  have hlt : (p ++ a).toList < (p ++ b).toList := by
    rw [String.toList_append, String.toList_append]
    exact List.append_left_lt h
  exact String.not_lt.1 (List.lt_asymm hlt)

section

variable {p : String} (h : isSlug p = true)
include h

lemma ownership_of_isSlug {record : List (String × Json)}
    (howner : (Json.obj record).get? "owner_project_id" = some (.str p))
    (hauthorization : ProjectManifest.get record "authorization_ref" = .null) :
    ownership record p = .ok (p, none) := by
  simp only [ownership, Check.bind_ok, Check.that_ok, Check.pure_ok]
  rw [howner, hauthorization]
  exact ⟨p, matching_ok.2 ⟨rfl, h⟩, none, rfl, (), Or.inl rfl, rfl⟩

lemma repository_example : repository asciiLibrary p ["bot", "connector"] ("app",
      .obj [("default_branch", .str "main"), ("owner_project_id", .str p),
        ("url", .str ("https://git.test/" ++ p ++ ".git"))]) = .ok (("app",
      .obj [("default_branch", .str "main"), ("owner_project_id", .str p),
        ("url", .str ("https://git.test/" ++ p ++ ".git"))]),
      ⟨"repository", "https://git.test/" ++ p ++ ".git", p, none⟩) := by
  have hbranch : ProjectManifest.text (.str "main") "default_branch" 200 = .ok "main" := by
    simp only [ProjectManifest.text, strip, Json.asString]
    decide
  simp only [repository, Check.bind_ok, Check.pure_ok]
  exact ⟨_, rfl, _, (plain_of_isSlug h).url, (p, none), ownership_of_isSlug h rfl rfl, none, rfl,
    "main", hbranch, rfl⟩

lemma ado_example : ado asciiLibrary (.obj [("credential", .null),
      ("organization", .str "https://dev.azure.com/acme"), ("owner_project_id", .str p),
      ("project", .str p)]) p ["bot", "connector"] = .ok (.obj [("credential", .null),
      ("organization", .str "https://dev.azure.com/acme"), ("owner_project_id", .str p),
      ("project", .str p)], ⟨"ado-project", "https://dev.azure.com/acme|" ++ p, p, none⟩) := by
  have hplain := plain_of_isSlug h
  have hurl : adoUrl asciiLibrary (.str "https://dev.azure.com/acme") =
      .ok "https://dev.azure.com/acme" := by decide
  have hfold : asciiLibrary.casefold "https://dev.azure.com/acme" =
      "https://dev.azure.com/acme" := by decide
  simp only [ado, Check.bind_ok, Check.pure_ok]
  refine ⟨_, rfl, _, hurl, p, hplain.text _, none, rfl, (p, none), ownership_of_isSlug h rfl rfl,
    ?_⟩
  simp only [hfold, hplain.folded, String.append_assoc]
  rfl

lemma teams_example : teams asciiLibrary (.obj [("channels", .obj [("pm", .str p)]),
      ("credential", .str "connector"), ("owner_project_id", .str p),
      ("role_identities", .obj [("pm", .obj [("application_id", .str p),
        ("credential", .str "bot"), ("display_name", .str "pm")])]),
      ("team_id", .str "team"), ("tenant_id", .str "tenant")]) p ["bot", "connector"] ["pm"] =
    .ok (.obj [("channels", .obj [("pm", .str p)]),
      ("credential", .str "connector"), ("owner_project_id", .str p),
      ("role_identities", .obj [("pm", .obj [("application_id", .str p),
        ("credential", .str "bot"), ("display_name", .str "pm")])]),
      ("team_id", .str "team"), ("tenant_id", .str "tenant")],
      [⟨"teams-channel", "tenant|team|" ++ p, p, none⟩,
        ⟨"teams-bot-identity", "tenant|" ++ p, p, none⟩]) := by
  have hplain := plain_of_isSlug h
  have hexternal : isExternalId "tenant" = true ∧ isExternalId "team" = true := by
    simp only [isExternalId, fullmatch, String.reduceToList]
    decide
  have htenant : ProjectManifest.externalId (.str "tenant") "tenant_id" = .ok "tenant" :=
    matching_ok.2 ⟨rfl, hexternal.1⟩
  have hteam : ProjectManifest.externalId (.str "team") "team_id" = .ok "team" :=
    matching_ok.2 ⟨rfl, hexternal.2⟩
  have hslugs : isSlug "connector" = true ∧ isSlug "bot" = true ∧ isSlug "pm" = true := by
    simp only [isSlug, fullmatch, String.reduceToList]
    decide
  obtain ⟨hslug, hslug', hpm⟩ := hslugs
  have hlink : ∀ {s message : String}, isSlug s = true → s ∈ ["bot", "connector"] →
      requiredLink (.str s) ["bot", "connector"] message = .ok s := by
    intro s message hs hmem
    simp only [requiredLink, credentialLink, Check.bind_ok, Check.found_ok, Check.that_ok,
      Check.pure_ok]
    exact ⟨some s, ⟨s, matching_ok.2 ⟨rfl, hs⟩, (), hmem, rfl⟩, rfl⟩
  have hname : ProjectManifest.text (.str "pm") "teams bot display_name" 100 = .ok "pm" := by
    simp only [ProjectManifest.text, strip, Json.asString]
    decide
  have hnames : namedMapping (.obj [("pm", .obj [("application_id", .str p),
      ("credential", .str "bot"), ("display_name", .str "pm")])]) "teams.role_identities" false =
      .ok [("pm", .obj [("application_id", .str p), ("credential", .str "bot"),
        ("display_name", .str "pm")])] := namedMapping_of (Or.inr (by simp)) (by simp [hpm])
  have hidentity : teamsIdentities asciiLibrary ["bot", "connector"] "connector" []
      [("pm", .obj [("application_id", .str p), ("credential", .str "bot"),
        ("display_name", .str "pm")])] = .ok [(("pm", .obj [("application_id", .str p),
        ("credential", .str "bot"), ("display_name", .str "pm")]),
        ⟨p, asciiLibrary.casefold "pm", "bot"⟩)] := by
    simp only [teamsIdentities, teamsIdentity, Check.bind_ok, Check.that_ok, Check.pure_ok]
    refine ⟨_, ⟨_, rfl, p, hplain.external _, "pm", hname, "bot", hlink hslug' (by simp),
      (), by simp, (), by simp,
      (), by decide, rfl⟩, [], rfl, ?_⟩
    rw [hplain.folded]
  have hchannels : namedMapping (.obj [("pm", .str p)]) "teams.channels" false =
      .ok [("pm", .str p)] := namedMapping_of (Or.inr (by simp)) (by simp [hpm])
  simp only [teams, Check.bind_ok, Check.that_ok, Check.pure_ok]
  refine ⟨_, rfl, _, htenant, _, hteam, _, hlink hslug (by simp),
    (p, none), ownership_of_isSlug h rfl rfl,
    _, hchannels, [("pm", p)], ?_, _, hnames, (), by simp, _, hidentity, ?_⟩
  · simp only [List.mapM_cons, List.mapM_nil, hplain.external]
    rfl
  · simp only [List.map_cons, List.map_nil, String.append_assoc]
    rfl

end

/-- A sample project is normal. -/
lemma normalize_sampleProject {p : String} (h : isSlug p = true) :
    normalizeProjectManifest asciiLibrary (sampleProject p).snapshot = .ok (sampleProject p) := by
  have hplain := plain_of_isSlug h
  have hnamed : ∀ fields : List (String × Json), fields ≠ [] →
      fields.all (fun f => isSlug f.1) = true → ∀ label,
        namedMapping (.obj fields) label false = .ok fields :=
    fun fields hne hslug label => namedMapping_of (Or.inr hne) hslug
  have hslugs : isSlug "bot" = true ∧ isSlug "connector" = true ∧ isSlug "app" = true ∧
      isSlug "pm" = true := by
    simp only [isSlug, fullmatch, String.reduceToList]
    decide
  obtain ⟨hbot, hconnector, happ, hpm⟩ := hslugs
  have hreferences : (reference? ("secret://" ++ "bot")).isSome = true ∧
      (reference? ("secret://" ++ "connector")).isSome = true := by decide
  have hcredentials : [projectCredential "bot", projectCredential "connector"].mapM (credential p) =
      .ok [(projectCredential "bot",
          ⟨"credential", p ++ "|" ++ "azure" ++ "|" ++ ("secret://" ++ "bot"), p, none⟩),
        (projectCredential "connector",
          ⟨"credential", p ++ "|" ++ "azure" ++ "|" ++ ("secret://" ++ "connector"),
            p, none⟩)] := by
    simp only [List.mapM_cons, List.mapM_nil, credential_projectCredential hreferences.1,
      credential_projectCredential hreferences.2]
    rfl
  have hpackages : packages (.obj [
      ("organization_release_digest", .str (String.ofList (List.replicate 64 'a'))),
      ("overrides", .arr [])]) = .ok (.obj [
      ("organization_release_digest", .str (String.ofList (List.replicate 64 'a'))),
      ("overrides", .arr [])]) := by decide
  have hroles : [("pm", .obj [("instances", .obj [("maximum", .int 1), ("minimum", .int 1)]),
      ("package", .str "role/pm@1.0.0"), ("tool_profile", .str "tool-profile/pm@1.0.0")])].mapM
        role = .ok [(("pm", .obj [("instances", .obj [("maximum", .int 1), ("minimum", .int 1)]),
      ("package", .str "role/pm@1.0.0"),
      ("tool_profile", .str "tool-profile/pm@1.0.0")]), 1, 1)] := by
    decide
  have hrepositories : [("app", .obj [("default_branch", .str "main"), ("owner_project_id", .str p),
        ("url", .str ("https://git.test/" ++ p ++ ".git"))])].mapM
        (repository asciiLibrary p ["bot", "connector"]) = .ok [(("app",
      .obj [("default_branch", .str "main"), ("owner_project_id", .str p),
        ("url", .str ("https://git.test/" ++ p ++ ".git"))]),
      ⟨"repository", "https://git.test/" ++ p ++ ".git", p, none⟩)] := by
    simp only [List.mapM_cons, List.mapM_nil, repository_example h]
    rfl
  have hlimits : limits (.obj [("max_total_instances", .int 1)]) 1 1 =
    .ok (.obj [("max_total_instances", .int 1)]) := by decide
  have hordered : p ++ "|" ++ "azure" ++ "|" ++ ("secret://" ++ "bot") ≤
      p ++ "|" ++ "azure" ++ "|" ++ ("secret://" ++ "connector") :=
    append_le_append (by simp only [String.reduceAppend]; decide)
  have hsort : [(⟨"credential", p ++ "|" ++ "azure" ++ "|" ++ ("secret://" ++ "bot"), p, none⟩ :
        ResourceBinding),
      ⟨"credential", p ++ "|" ++ "azure" ++ "|" ++ ("secret://" ++ "connector"), p, none⟩,
      ⟨"repository", "https://git.test/" ++ p ++ ".git", p, none⟩,
      ⟨"teams-channel", "tenant|team|" ++ p, p, none⟩,
      ⟨"teams-bot-identity", "tenant|" ++ p, p, none⟩,
      ⟨"ado-project", "https://dev.azure.com/acme|" ++ p, p, none⟩].insertionSort resourceLe =
      projectResources p := by
    obtain ⟨h₁, h₂, h₃, h₄, h₅, h₆⟩ : ¬ "teams-bot-identity" < "ado-project" ∧
        ¬ "teams-channel" < "ado-project" ∧ ¬ "teams-channel" < "teams-bot-identity" ∧
        ¬ "repository" < "ado-project" ∧ "repository" < "teams-bot-identity" ∧
        ¬ "credential" < "ado-project" := by decide
    have h₇ : "credential" < "repository" := by decide
    simp only [List.insertionSort_cons, List.insertionSort_nil, List.orderedInsert_cons,
      List.orderedInsert_nil, resourceLe, h₁, h₂, h₃, h₄, h₅, h₆, h₇, hordered, String.reduceEq,
      false_and, or_false, if_false, if_true, true_and, or_true]
    simp only [projectResources, String.append_assoc]
    rfl
  refine normalize_example ?_
  simp only [normalized, Check.bind_ok, Check.pure_ok, Check.that_ok]
  refine ⟨_, rfl, (), List.mem_cons_self, p, hplain.identifier _, p, hplain.text _, _,
    hnamed _ (by simp) ?_ _, _, hcredentials, _, hnamed _ (by simp) ?_ _, _, hrepositories, _,
    namedMapping_of (Or.inl rfl) rfl, [], rfl, _, hpackages, _, hnamed _ (by simp) ?_ _, _, hroles,
    _, teams_example h, _, ado_example h, .obj [("max_total_instances", .int 1)], ?_, (),
    ?_, ?_⟩
  · simp [hbot, hconnector, projectCredential]
  · simp [happ]
  · simp [hpm]
  · exact hlimits
  · refine (congrArg (fun rs => (rs.map identityOf).Nodup) hsort).mpr ?_
    simp [projectResources, identityOf]
  · exact congrArg (fun rs => (⟨p, p, _, rs⟩ : NormalizedManifest)) hsort

/-- Two projects are activated, and nothing foreign is allowed. -/
def sampleRun : List ManifestEvent := [
  .register ⟨"alpha", "alpha"⟩, .register ⟨"beta", "beta"⟩,
  .activate (activation (sampleProject "alpha") denyForeignResources),
  .activate (activation (sampleProject "beta") denyForeignResources)]

lemma active_sampleRun :
    Active asciiLibrary (run (step asciiLibrary) {} sampleRun) (sampleProject "alpha") ∧
      Active asciiLibrary (run (step asciiLibrary) {} sampleRun) (sampleProject "beta") := by
  have hnormal : ProjectManifest.normalizeProjectManifest asciiLibrary
      (sampleProject "alpha").snapshot = .ok (sampleProject "alpha") :=
    normalize_sampleProject (by decide)
  have hnormal' : ProjectManifest.normalizeProjectManifest asciiLibrary
      (sampleProject "beta").snapshot = .ok (sampleProject "beta") :=
    normalize_sampleProject (by decide)
  have hown : ∀ p, authorizeDeclaredOwners denyForeignResources (sampleProject p) = .ok () := by
    intro p
    refine Check.forM_ok.2 fun r hr => Check.that_ok.2 (Or.inl ?_)
    change r ∈ projectResources p at hr
    simp only [projectResources, List.mem_cons, List.not_mem_nil, or_false] at hr
    rcases hr with rfl | rfl | rfl | rfl | rfl | rfl <;> rfl
  let db := registerProject ⟨"beta", "beta"⟩ (registerProject ⟨"alpha", "alpha"⟩ {})
  have hnone : ∀ c : ResourceClaim, c ∉ db.claims := fun c => Table.notMem_empty c
  obtain ⟨a, db₁, h⟩ := @activation_of_fresh asciiLibrary db
    _ _ ⟨"alpha", "alpha"⟩ hnormal (by decide) rfl rfl
    (Table.lookup_eq_none.2 fun s hs => absurd hs (Table.notMem_empty s))
    (fun c hc => absurd hc (hnone c)) (hown "alpha")
    (Check.forM_ok.2 fun c hc => absurd (Table.mem_select.1 hc).1 (hnone c))
  have hdone := activate_ensures.1 a db₁ h
  have hclaims : ∀ c ∈ db₁.claims, c.projectId = "alpha" ∧
      c.resource ∈ projectResources "alpha" := by
    intro c hc
    obtain hc | ⟨s, hs, rfl⟩ := hdone.claims c hc
    · exact absurd hc (hnone c)
    · exact ⟨rfl, hs⟩
  have hdistinct : ∀ s ∈ projectResources "alpha", (projectResources "beta").find? (fun r =>
      ProjectManifest.identityOf r = ProjectManifest.identityOf s) = none := by decide
  have hother := hdone.others "beta" (by decide)
  obtain ⟨b, db₂, h'⟩ := @activation_of_fresh asciiLibrary db₁
    _ denyForeignResources ⟨"beta", "beta"⟩ hnormal'
    (by rw [hdone.projects]; decide) rfl (hother.1.trans rfl)
    ((hother.2 _).trans (Table.lookup_eq_none.2 fun s hs => absurd hs (Table.notMem_empty s)))
    (fun c hc heq => absurd ((hclaims c hc).1.symm.trans heq) (by decide)) (hown "beta")
    (Check.forM_ok.2 fun c hc => by
      have hc := (hclaims c (Table.mem_select.1 hc).1).2
      unfold authorizeClaim
      rw [show (sampleProject "beta").resources = projectResources "beta" from rfl,
        hdistinct c.resource hc])
  have hdone' := activate_ensures.1 b db₂ h'
  have hrun : run (step asciiLibrary) {} sampleRun = db₂ := by
    unfold sampleRun
    rw [run_cons, run_cons, run_cons, run_cons, run_nil]
    have hfirst : step asciiLibrary db (.activate (activation (sampleProject "alpha")
        denyForeignResources)) = db₁ := Tx.commit_of_ok h
    change step asciiLibrary (step asciiLibrary db _) _ = db₂
    rw [hfirst]
    exact Tx.commit_of_ok h'
  rw [hrun]
  refine ⟨(hdone'.active _).2 (Or.inr ⟨by decide, ?_⟩), (hdone'.active _).2 (Or.inl rfl)⟩
  exact (hdone.active _).2 (Or.inl rfl)

/-! ## The keys are canonical for what is shared -/

/-- **Keys and access.** Two active manifests have keys for all that both of them reach exactly
when common files are read through the system and common items lie in common roots. -/
theorem canonical_keys_iff (lib : TextLibrary) (es : List ManifestEvent) (m n : ProjectManifest)
    (hm : Active lib (run (step lib) {} es) m) (hn : Active lib (run (step lib) {} es) n)
    (hne : m.projectId ≠ n.projectId) :
    CanonicalKeys lib es m n ↔ SharedThrough (run (step lib) {} es) m n := by
  have hinv : ManifestInv lib (run (step lib) {} es) := inv_run es
  have hcompared := fun r s => compared_of_active (r := r) (s := s) hm hn hne
  constructor
  · intro h
    refine ⟨fun file hreads hreads' => ?_, fun u v hu hv => ⟨fun hcovers => ?_, fun hcovers => ?_⟩⟩
    · obtain ⟨r, s, ⟨-, c, hc, hfile, hr⟩, ⟨-, d, hd, hfile', hs⟩, hid, -⟩ :=
        h.credentials file hreads hreads'
      obtain ⟨hbar, hkey⟩ := key_of_credential hfile hr
      rw [hkey, (key_of_credential hfile' hs).2] at hid
      obtain ⟨hnamespace, -⟩ := ProjectManifest.credentialKey_inj
        (bar_notMem_namespaceOf (hm.fixed hinv).1.project c)
        (bar_notMem_namespaceOf (hn.fixed hinv).1.project d) hbar hbar (Prod.mk.inj hid).2
      obtain ⟨hsystem, hsystem'⟩ := system_of_namespaceOf_eq hne hnamespace
      exact ⟨CredentialOf.readsThroughSystem hc hfile hr hsystem,
        CredentialOf.readsThroughSystem hd hfile' hs hsystem'⟩
    · obtain ⟨r, s, hr, hs, hid, -⟩ :=
        h.documents v.rootItem ⟨u, hu, hcovers⟩ ⟨v, hv, covers_rootItem v⟩
      exact commonRoot_of_rootOf hinv hm hn hr hs hid
    · obtain ⟨r, s, hr, hs, hid, -⟩ :=
        h.documents u.rootItem ⟨u, hu, covers_rootItem u⟩ ⟨v, hv, hcovers⟩
      exact commonRoot_of_rootOf hinv hm hn hr hs hid
  · intro h
    refine ⟨fun file hreads hreads' => ?_, ?_⟩
    · obtain ⟨hsystem, hsystem'⟩ := h.files file hreads hreads'
      obtain ⟨r, hr, hkey⟩ := hsystem.credentialOf (hm.fixed hinv).1
      obtain ⟨s, hs, hkey'⟩ := hsystem'.credentialOf (hn.fixed hinv).1
      exact ⟨r, s, hr, hs, hkey.trans hkey'.symm, hcompared r s hr.1 hs.1⟩
    · rintro item ⟨u, hu, hcovers⟩ ⟨v, hv, hcovers'⟩
      have hcommon : CommonRoot (run (step lib) {} es) m.projectId n.projectId item := by
        obtain hnested | hnested := nested_of_covers hcovers hcovers'
        · exact ((h.roots u v hu hv).1 hnested).mono hcovers'
        · exact ((h.roots u v hu hv).2 hnested).mono hcovers
      obtain ⟨w, w', hw, hw', hdrive, hroot, hitem⟩ := hcommon
      have hitem' : w'.Covers item := ⟨hdrive ▸ hitem.1, hroot ▸ hitem.2⟩
      obtain ⟨r, hr, hkey⟩ := hw.rootOf hinv hm hitem
      obtain ⟨s, hs, hkey'⟩ := hw'.rootOf hinv hn hitem'
      refine ⟨r, s, hr, hs, ?_, hcompared r s hr.1 hs.1⟩
      rw [hkey, hkey', hdrive, hroot]

/-- Two projects that use the same references share their files and no key. -/
theorem not_canonical_keys : ¬ ∀ lib es m n, Active lib (run (step lib) {} es) m →
    Active lib (run (step lib) {} es) n → m.projectId ≠ n.projectId →
    CanonicalKeys lib es m n := by
  intro h
  have hkeys := h asciiLibrary sampleRun (sampleProject "alpha") (sampleProject "beta")
    active_sampleRun.1 active_sampleRun.2 (by decide)
  have hfile : fileOf (projectCredential "bot") = some ⟨"azure", "secret", ["bot"]⟩ := by
    decide
  have hmem : ∀ p, projectCredential "bot" ∈ entries (sampleProject p).snapshot "credentials" :=
    fun p => List.mem_cons_self
  obtain ⟨r, s, ⟨hr, -⟩, ⟨hs, -⟩, hid, -⟩ := hkeys.credentials ⟨"azure", "secret", ["bot"]⟩
    ⟨_, hmem "alpha", hfile⟩ ⟨_, hmem "beta", hfile⟩
  have hdistinct : ∀ r ∈ projectResources "alpha", ∀ s ∈ projectResources "beta",
      ProjectManifest.identityOf r ≠ ProjectManifest.identityOf s := by decide
  exact hdistinct r hr s hs hid

/-- The equivalence for the two projects with the same references. -/
theorem canonical_keys_iff_sample :
    CanonicalKeys asciiLibrary sampleRun (sampleProject "alpha") (sampleProject "beta") ↔
      SharedThrough (run (step asciiLibrary) {} sampleRun) (sampleProject "alpha")
        (sampleProject "beta") :=
  canonical_keys_iff asciiLibrary sampleRun (sampleProject "alpha") (sampleProject "beta")
    active_sampleRun.1 active_sampleRun.2 (by decide)

end ProjectManifestStore

end AgenticMesh
