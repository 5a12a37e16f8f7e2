import AgenticMesh.Base.Arguments
import Mathlib.Data.List.Dedup
import Mathlib.Data.List.Sort
import Mathlib.Data.Prod.Lex
import Mathlib.Data.String.Basic

/-!
# Configuration packages

A configuration repository is mounted as a tree of files.  A package is named by
its kind, its identifier and its version; its manifest lists the packages that it
depends on and the files of its content.
-/

namespace AgenticMesh

/-! ## References -/

/-- `KINDS`, in the order of their precedence. -/
inductive PackageKind where
  | system
  | policy
  | fragment
  | role
  | flow
  | toolProfile
  | projectOverride
deriving DecidableEq

namespace PackageKind

def name : PackageKind → String
  | system => "system"
  | policy => "policy"
  | fragment => "fragment"
  | role => "role"
  | flow => "flow"
  | toolProfile => "tool-profile"
  | projectOverride => "project-override"

/-- `KIND_PRECEDENCE`. -/
def precedence : PackageKind → ℕ
  | system => 0
  | policy => 1
  | fragment => 2
  | role => 3
  | flow => 4
  | toolProfile => 5
  | projectOverride => 6

/-- The kind with a name. -/
def ofName (s : String) : Option PackageKind :=
  [system, policy, fragment, role, flow, toolProfile, projectOverride].find? fun kind =>
    kind.name = s

lemma precedence_injective {a b : PackageKind} (h : a.precedence = b.precedence) : a = b := by
  cases a <;> cases b <;> first | rfl | exact absurd h (by decide)

end PackageKind

/-- `[a-z][a-z0-9-]*`. -/
def isPackageName (s : String) : Bool :=
  fullmatch Char.isLower (fun c => isSlugStart c || c == '-') s.toList.length s

/-- `[0-9]+`. -/
def isDigits (l : List Char) : Bool := !l.isEmpty && l.all Char.isDigit

/-- The parts before and after the first occurrence of a character. -/
def cutAt (c : Char) (l : List Char) : Option (List Char × List Char) :=
  match l.dropWhile fun d => d ≠ c with
  | [] => none
  | _ :: rest => some (l.takeWhile fun d => d ≠ c, rest)

/-- `[0-9]+\.[0-9]+\.[0-9]+`. -/
def isVersion (s : String) : Bool :=
  match cutAt '.' s.toList with
  | none => false
  | some (major, rest) =>
    match cutAt '.' rest with
    | none => false
    | some (minor, patch) => isDigits major && isDigits minor && isDigits patch

/-- `PackageReference`: the kind, name and version that a text names. -/
structure PackageReference where
  kind : PackageKind
  packageId : String
  version : String
  packageId_ok : isPackageName packageId = true
  version_ok : isVersion version = true
deriving DecidableEq

/-- `PackageResolutionError`, with the data of its message. -/
inductive PackageResolutionError where
  | message (text : String)
  /-- The fields of the manifest that are missing, and those that are not in the schema. -/
  | fields (reference : PackageReference) (missing unexpected : List String)
  | cycle (references : List PackageReference)
  /-- The search has no more fuel. -/
  | exhausted
deriving DecidableEq

namespace PackageReference

/-- `str(reference)`. -/
def toString (r : PackageReference) : String :=
  r.kind.name ++ "/" ++ r.packageId ++ "@" ++ r.version

/-- The match of `REFERENCE`, for a kind that is known. -/
def parse? (value : String) : Option PackageReference := do
  let (kind, rest) ← cutAt '/' value.toList
  let (packageId, version) ← cutAt '@' rest
  let kind ← PackageKind.ofName (String.ofList kind)
  if hid : isPackageName (String.ofList packageId) = true then
    if hversion : isVersion (String.ofList version) = true then
      return ⟨kind, String.ofList packageId, String.ofList version, hid, hversion⟩
    else none
  else none

/-- `parse`. -/
def parse (value : String) : Except PackageResolutionError PackageReference :=
  Check.found (parse? value) (.message ("invalid package reference: " ++ value))

/-- `_reference_key`. -/
def key (r : PackageReference) : ℕ ×ₗ String := toLex (r.kind.precedence, r.toString)

lemma key_injective {a b : PackageReference} (h : a.key = b.key) : a = b := by
  obtain ⟨hkind, htext⟩ := Prod.mk.inj (congrArg ofLex h)
  have hkind' := PackageKind.precedence_injective hkind
  have hat : ∀ r : PackageReference, '@' ∉ r.packageId.toList := fun r =>
    notMem_of_fullmatch r.packageId_ok (by decide) (by decide)
  have hlist := congrArg String.toList htext
  simp only [toString, hkind', String.toList_append, List.append_assoc, List.append_cancel_left_eq]
    at hlist
  have hsplit : a.packageId.toList ++ '@' :: a.version.toList =
      b.packageId.toList ++ '@' :: b.version.toList := by simpa using hlist
  obtain ⟨hid, hversion⟩ := split_first hsplit (hat a) (hat b)
  cases a
  cases b
  simp only [mk.injEq]
  exact ⟨hkind', String.toList_inj.1 hid, String.toList_inj.1 hversion⟩

/-- `sorted(set(references), key=_reference_key)`. -/
def sorted (references : List PackageReference) : List PackageReference :=
  references.dedup.insertionSort fun a b => a.key ≤ b.key

@[simp] lemma mem_sorted {references : List PackageReference} {r : PackageReference} :
    r ∈ sorted references ↔ r ∈ references := by
  rw [sorted, List.mem_insertionSort, List.mem_dedup]

/-- The sorted references do not depend on the order and the repetitions. -/
lemma sorted_congr {references references' : List PackageReference}
    (h : ∀ r, r ∈ references ↔ r ∈ references') : sorted references = sorted references' := by
  have hperm : references.dedup.Perm references'.dedup := by
    refine (List.perm_ext_iff_of_nodup (List.nodup_dedup _) (List.nodup_dedup _)).2 fun r => ?_
    rw [List.mem_dedup, List.mem_dedup]
    exact h r
  have : Std.Total fun a b : PackageReference => a.key ≤ b.key := ⟨fun a b => le_total a.key b.key⟩
  have : IsTrans PackageReference fun a b => a.key ≤ b.key := ⟨fun _ _ _ => le_trans⟩
  have : Std.Antisymm fun a b : PackageReference => a.key ≤ b.key :=
    ⟨fun _ _ hab hba => key_injective (le_antisymm hab hba)⟩
  refine List.Perm.eq_of_pairwise' (List.pairwise_insertionSort _ _)
    (List.pairwise_insertionSort _ _) ?_
  exact (List.perm_insertionSort _ _).trans (hperm.trans (List.perm_insertionSort _ _).symm)

end PackageReference

/-! ## The repository -/

/-- A text file, with line ends normalized, and the value that `json.loads` reads from it. -/
structure TextFile where
  text : String
  value : Option Json

/-- A file of the content of a package. -/
structure ContentFile where
  /-- The path in the package, after the links are resolved. -/
  packagePath : String
  /-- The path in the repository. -/
  path : String
  /-- The file is named `*.json`. -/
  isJson : Bool
  /-- `none` for a file that is not readable as text. -/
  file : Option TextFile

/-- The files of a package. -/
structure PackageFiles where
  manifestPath : String
  /-- `none` for a manifest that is not readable as text. -/
  manifest : Option TextFile
  /-- The file at a path in the package: `none` if there is none inside of the package. -/
  content : String → Option ContentFile

/-- A mounted configuration repository. -/
structure MountedRepository where
  /-- The error of `validate_mounted_repository`. -/
  invalid : Option String
  /-- The packages that have a manifest. -/
  packages : List (PackageReference × PackageFiles)

/-- The files of a package. -/
def MountedRepository.files (root : MountedRepository) (r : PackageReference) :
    Option PackageFiles := (root.packages.find? fun p => p.1 = r).map Prod.snd

/-! ## Loading -/

/-- A file of a package. -/
structure PackageContent where
  relativePath : String
  text : String
  jsonValue : Option (List (String × Json))
  sha256 : String
deriving DecidableEq

/-- A loaded package: its manifest and its files. -/
structure ConfigPackage where
  reference : PackageReference
  dependencies : List PackageReference
  manifestPath : String
  manifestSha256 : String
  content : List PackageContent
deriving DecidableEq

/-- A check of a package, with its error. -/
abbrev PackageCheck := Except PackageResolutionError

namespace ConfigPackage

/-- The fields of a manifest. -/
def requiredFields : List String := ["content", "id", "kind", "schema_version", "version"]

/-- Raise an error about a package. -/
def check (p : Prop) [Decidable p] (text : String) : PackageCheck Unit :=
  Check.that p (.message text)

/-- A list of strings. -/
def strings (value : Json) : Option (List String) := do
  let items ← value.asArray
  items.mapM Json.asString

/-- The path leaves the package. -/
def Escapes (path : String) : Prop :=
  path.toList.head? = some '/' ∨ ['.', '.'] ∈ path.toList.splitOn '/'

instance (path : String) : Decidable (Escapes path) := inferInstanceAs (Decidable (_ ∨ _))

/-- The checks of `_load_package` on the fields of a manifest. -/
def checkManifest (r : PackageReference) (fields : List (String × Json)) : PackageCheck Unit := do
  let keys := fields.map Prod.fst
  let missing := requiredFields.filter fun key => key ∉ keys
  let unexpected := keys.filter fun key => key ∉ requiredFields ++ ["dependencies", "description"]
  Check.that (missing = [] ∧ unexpected = []) (.fields r missing unexpected)
  let manifest := Json.obj fields
  check (∀ v ∈ manifest.get? "description", v.asString.isSome = true)
    ("description for " ++ r.toString ++ " must be a string")
  check (manifest.get? "schema_version" ∈ [some (.int 1), some (.bool true), some (.float "1.0")] ∧
    manifest.get? "kind" = some (.str r.kind.name) ∧
    manifest.get? "id" = some (.str r.packageId) ∧
    manifest.get? "version" = some (.str r.version))
    ("manifest identity does not match " ++ r.toString)

/-- A file of the content. -/
def loadContent (r : PackageReference) (files : PackageFiles) (seen : List String)
    (value : String) : PackageCheck (String × PackageContent) := do
  check (¬ Escapes value) ("invalid content path for " ++ r.toString ++ ": " ++ value)
  let file ← Check.found (files.content value)
    (.message ("invalid content path for " ++ r.toString ++ ": " ++ value))
  check (file.packagePath ∉ seen) ("invalid content path for " ++ r.toString ++ ": " ++ value)
  let text ← Check.found file.file
    (.message ("unreadable content for " ++ r.toString ++ ": " ++ value))
  let jsonValue ← (if file.isJson then do
      let parsed ← Check.found text.value
        (.message ("invalid JSON content for " ++ r.toString ++ ": " ++ value))
      let fields ← Check.found parsed.asObject
        (.message ("JSON content for " ++ r.toString ++ " must be an object: " ++ value))
      return some fields
    else return none)
  return (file.packagePath, {
    relativePath := file.path
    text := text.text
    jsonValue
    sha256 := sha256Hex text.text })

/-- The files of the content, one after the other; `seen` are the paths before. -/
def loadContents (r : PackageReference) (files : PackageFiles) (seen : List String) :
    List String → PackageCheck (List PackageContent)
  | [] => .ok []
  | value :: values => do
    let (path, content) ← loadContent r files seen value
    let rest ← loadContents r files (path :: seen) values
    return content :: rest

/-- `_load_package`. -/
def load (root : MountedRepository) (r : PackageReference) : PackageCheck ConfigPackage := do
  let files ← Check.found (root.files r) (.message ("package not found: " ++ r.toString))
  let manifest ← Check.found files.manifest (.message ("invalid manifest for " ++ r.toString))
  let value ← Check.found manifest.value (.message ("invalid manifest for " ++ r.toString))
  let fields ← Check.found value.asObject
    (.message ("manifest for " ++ r.toString ++ " must be a JSON object"))
  checkManifest r fields
  let dependencies ← Check.found (strings ((value.get? "dependencies").getD (.arr [])))
    (.message ("dependencies for " ++ r.toString ++ " must be strings"))
  let dependencies ← dependencies.mapM PackageReference.parse
  let content ← Check.found
    (((value.get? "content").bind strings).filter fun values => values ≠ [])
    (.message ("content for " ++ r.toString ++ " must be a non-empty string list"))
  let content ← loadContents r files [] content
  return {
    reference := r
    dependencies
    manifestPath := files.manifestPath
    manifestSha256 := sha256Hex manifest.text
    content }

/-- A package that is loaded has a manifest. -/
lemma mem_of_load {root : MountedRepository} {r : PackageReference} {p : ConfigPackage}
    (h : load root r = .ok p) : r ∈ root.packages.map Prod.fst ∧ p.reference = r := by
  simp only [load, Check.bind_ok, Check.found_ok, Check.pure_ok] at h
  obtain ⟨files, hfiles, manifest, -, value, -, fields, -, -, -, -, -, dependencies, -, -, -,
    content,
    -, rfl⟩ := h
  obtain ⟨q, hq, -⟩ := Option.map_eq_some_iff.1 hfiles
  have hfst : q.1 = r := by simpa using List.find?_some hq
  exact ⟨hfst ▸ List.mem_map_of_mem (List.mem_of_find?_eq_some hq), rfl⟩

end ConfigPackage

example : (PackageReference.parse? "role/developer@1.0.0").map PackageReference.toString =
    some "role/developer@1.0.0" := by decide

example : PackageReference.parse? "role/developer@1.0" = none := by decide

end AgenticMesh
