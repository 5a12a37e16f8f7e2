import AgenticMesh.Base.Arguments
import Mathlib.Algebra.Ring.Int.Defs
import Mathlib.Data.List.Sort

/-!
# Project manifests

A manifest lists the repositories, document roots, Teams channels, bots, ADO
project and credentials of a project.  `normalizeProjectManifest` checks it and
derives the resources that the project claims, each with a key, its owner and
the grant that authorizes its use.

The text functions of Python that depend on tables of Unicode or on the
standard library's URL parser are a parameter of the normalization.
-/

namespace AgenticMesh

/-- The exceptions of project manifests. -/
inductive ProjectManifestError where
  | value (message : String)
  | authorization (message : String)
  | conflict (message : String)
  /-- `ProjectManifestStoreError`. -/
  | store (message : String)
deriving DecidableEq

/-- The result of `urlsplit`. -/
structure SplitResult where
  scheme : String
  hostname : Option String
  port : Option ℕ
  username : Option String
  password : Option String
  path : String
  query : String
  fragment : String
deriving DecidableEq

/-- The functions of Python's standard library that a manifest is normalized with. -/
structure TextLibrary where
  /-- `str.lower`. -/
  lower : String → String
  /-- `str.casefold`. -/
  casefold : String → String
  /-- `urlsplit`, `none` when it raises. -/
  urlsplit : String → Option SplitResult

/-- A resource that a manifest claims. -/
structure ResourceBinding where
  kind : String
  key : String
  ownerProjectId : String
  authorizationRef : Option String
deriving DecidableEq

/-- `ProjectManifest`: a normalized manifest. -/
structure ProjectManifest where
  projectId : String
  displayName : String
  digest : String
  snapshot : Json
  resources : List ResourceBinding
deriving DecidableEq

namespace ProjectManifest

/-- A check of a manifest, with its error. -/
abbrev Checked := Except ProjectManifestError

/-! ## Values -/

/-- `_mapping`: the fields of a mapping with the required fields and some of the optional ones. -/
def mapping (value : Json) (label : String) (required optional : List String) :
    Checked (List (String × Json)) := do
  let fields ← Check.found value.asObject (.value (label ++ " fields are invalid"))
  Check.that (∀ key ∈ required, key ∈ fields.map Prod.fst)
    (.value (label ++ " fields are invalid"))
  Check.that (∀ key ∈ fields.map Prod.fst, key ∈ required ++ optional)
    (.value (label ++ " fields are invalid"))
  return fields

/-- `record[key]` and `record.get(key)`. -/
def get (fields : List (String × Json)) (key : String) : Json :=
  ((Json.obj fields).get? key).getD .null

/-- A string that a pattern accepts. -/
def matching (pattern : String → Bool) (value : Json) (message : String) : Checked String := do
  let s ← Check.found value.asString (.value message)
  Check.that (pattern s = true) (.value message)
  return s

/-- `_identifier`. -/
def identifier (value : Json) (label : String) : Checked String :=
  matching isSlug value (label ++ " is invalid")

/-- `_EXTERNAL_ID`. -/
def isExternalId (s : String) : Bool :=
  fullmatch Char.isAlphanum (fun c => c.isAlphanum || c == '.' || c == '!' || c == '_' ||
    c == ':' || c == '@' || c == '-') 255 s

/-- `_external_id`. -/
def externalId (value : Json) (label : String) : Checked String :=
  matching isExternalId value (label ++ " is invalid")

/-- `_text`. -/
def text (value : Json) (label : String) (maximum : ℕ) : Checked String := do
  let s ← Check.found value.asString (.value (label ++ " is invalid"))
  Check.that (strip s ≠ "" ∧ s.toList.length ≤ maximum ∧ ¬ ['$', Char.ofNat 123] <:+: s.toList ∧
    Char.ofNat 0 ∉ s.toList) (.value (label ++ " is invalid"))
  return strip s

/-- `_integer`. -/
def integer (value : Json) (label : String) (minimum maximum : ℤ) : Checked ℤ :=
  let message := label ++ " must be between " ++ decimal minimum.toNat ++ " and " ++
    decimal maximum.toNat
  match value with
  | .int n => if minimum ≤ n ∧ n ≤ maximum then .ok n else .error (.value message)
  | _ => .error (.value message)

/-- `_named_mapping`. -/
def namedMapping (value : Json) (label : String) (allowEmpty : Bool) :
    Checked (List (String × Json)) := do
  let fields ← Check.found value.asObject (.value (label ++ " must be a mapping"))
  Check.that (allowEmpty = true ∨ fields ≠ []) (.value (label ++ " must be a mapping"))
  Check.that (fields.all (fun p => isSlug p.1) = true) (.value (label ++ " id is invalid"))
  return fields

/-- `_reference`. -/
def reference (value : Json) (label : String) : Checked String :=
  matching (fun s => (reference? s).isSome) value (label ++ " must be an external reference")

/-- `_grant_reference`. -/
def grantReference (value : Json) : Checked (Option String) :=
  match value with
  | .null => .ok none
  | value => some <$> matching
      (fun s => ((removePrefix? s "grant://").filter isReferencePath).isSome) value
      "authorization_ref must be an external grant reference"

/-- `_ownership`. -/
def ownership (record : List (String × Json)) (projectId : String) :
    Checked (String × Option String) := do
  let owner ← identifier (((Json.obj record).get? "owner_project_id").getD (.str projectId))
    "owner_project_id"
  let authorization ← grantReference (get record "authorization_ref")
  Check.that (owner = projectId ∨ authorization.isSome = true)
    (.authorization ("resource owned by " ++ owner ++ " requires authorization_ref"))
  return (owner, authorization)

/-- `_credential_link`. -/
def credentialLink (value : Json) (credentialIds : List String) : Checked (Option String) :=
  match value with
  | .null => .ok none
  | value => do
    let credentialId ← identifier value "credential"
    Check.that (credentialId ∈ credentialIds)
      (.value ("unknown credential reference: " ++ credentialId))
    return some credentialId

/-- A credential link that must be there. -/
def requiredLink (value : Json) (credentialIds : List String) (message : String) :
    Checked String := do
  let link ← credentialLink value credentialIds
  Check.found link (.value message)

/-- An optional field of a normalized record. -/
def optionalField (key : String) : Option String → List (String × Json)
  | none => []
  | some s => [(key, .str s)]

/-! ## Addresses -/

/-- `_git_url`. -/
def gitUrl (lib : TextLibrary) (value : Json) : Checked String := do
  let message := "repository url must be a credential-free HTTPS Git URL"
  let text ← text value "repository url" 1000
  let parsed ← Check.found (lib.urlsplit text) (.value message)
  let hostname ← Check.found parsed.hostname (.value message)
  Check.that (parsed.scheme = "https" ∧ hostname ≠ "" ∧ parsed.username = none ∧
    parsed.password = none ∧ parsed.query = "" ∧ parsed.fragment = "" ∧
    ".git".toList <:+ parsed.path.toList) (.value message)
  let host := lib.lower hostname
  let netloc := match parsed.port with
    | none => host
    | some port => host ++ ":" ++ decimal port
  return "https://" ++ netloc ++ parsed.path

/-- The parts of a path between its slashes. -/
def pathParts (s : String) : List String := (s.toList.splitOn '/').map String.ofList

/-- `s.rstrip("/")`. -/
def stripRight (s : String) : String := String.ofList (s.toList.rdropWhile (· == '/'))

/-- `_ado_url`. -/
def adoUrl (lib : TextLibrary) (value : Json) : Checked String := do
  let message := "ado.organization must identify one Azure DevOps org"
  let text ← text value "ado.organization" 500
  let parsed ← Check.found (lib.urlsplit (stripRight text)) (.value message)
  Check.that (parsed.scheme = "https" ∧ parsed.hostname = some "dev.azure.com" ∧
    parsed.username = none ∧ parsed.password = none ∧ parsed.query = "" ∧ parsed.fragment = "" ∧
    ((pathParts parsed.path).filter (· ≠ "")).length = 1) (.value message)
  return "https://dev.azure.com/" ++
    String.ofList ((parsed.path.toList.dropWhile (· == '/')).rdropWhile (· == '/'))

/-- `_document_root`: `PurePosixPath(text).as_posix()` of an absolute path without `..`. -/
def documentRoot (value : Json) : Checked String := do
  let message := "document root must be an absolute contained path"
  let text ← text value "document root" 500
  let path := String.ofList (text.toList.map fun c => if c = Char.ofNat 92 then '/' else c)
  let parts := (pathParts path).filter fun part => part ≠ "" ∧ part ≠ "."
  Check.that ("/".toList <+: path.toList ∧ ".." ∉ parts) (.value message)
  let root := if "//".toList <+: path.toList ∧ ¬ "///".toList <+: path.toList then "//" else "/"
  return root ++ "/".intercalate parts

/-- `_package_reference`: `kind/id@x.y.z` of the expected kind. -/
def packageReference (value : Json) (expectedKind : String) : Checked String := do
  let s ← Check.found value.asString (.value "package reference must be a string")
  let named := fun s : String =>
    fullmatch Char.isLower (fun c => c.isLower || c.isDigit || c == '-') s.toList.length s
  let number := fun cs : List Char => cs ≠ [] && cs.all Char.isDigit
  let valid := match s.toList.splitOn '/' with
    | [kind, rest] => match rest.splitOn '@' with
      | [packageId, version] => named (String.ofList kind) && named (String.ofList packageId) &&
          (version.splitOn '.').length == 3 && (version.splitOn '.').all number
      | _ => false
    | _ => false
  Check.that (valid = true) (.value ("invalid package reference: " ++ s))
  Check.that ((expectedKind ++ "/").toList <+: s.toList)
    (.value ("package reference " ++ s ++ " must have kind " ++ expectedKind))
  return s

/-! ## Sections -/

/-- `_credentials`, for one credential. -/
def credential (projectId : String) (entry : String × Json) :
    Checked ((String × Json) × ResourceBinding) := do
  let record ← mapping entry.2 ("credentials." ++ entry.1) ["scope", "provider", "reference"]
    ["authorization_ref"]
  let scope := get record "scope"
  Check.that (scope = .str "project" ∨ scope = .str "system")
    (.value ("credentials." ++ entry.1 ++ ".scope must be project or system"))
  let provider ← identifier (get record "provider") "credential provider"
  let reference ← reference (get record "reference") "credential reference"
  let authorizationRef ← grantReference (get record "authorization_ref")
  Check.that (scope = .str "system" → authorizationRef.isSome = true)
    (.authorization ("system credential " ++ entry.1 ++ " requires authorization_ref"))
  Check.that (scope = .str "project" → authorizationRef = none)
    (.value ("project credential " ++ entry.1 ++ " cannot use authorization_ref"))
  let owner := if scope = .str "project" then projectId else "system"
  return ((entry.1, .obj (optionalField "authorization_ref" authorizationRef ++
      [("provider", .str provider), ("reference", .str reference), ("scope", scope)])),
    { kind := "credential"
      key := owner ++ "|" ++ provider ++ "|" ++ reference
      ownerProjectId := owner
      authorizationRef })

/-- `_repositories`, for one repository. -/
def repository (lib : TextLibrary) (projectId : String) (credentialIds : List String)
    (entry : String × Json) : Checked ((String × Json) × ResourceBinding) := do
  let record ← mapping entry.2 ("repositories." ++ entry.1) ["url", "default_branch"]
    ["credential", "owner_project_id", "authorization_ref"]
  let url ← gitUrl lib (get record "url")
  let (owner, authorization) ← ownership record projectId
  let credential ← credentialLink (get record "credential") credentialIds
  let branch ← text (get record "default_branch") "default_branch" 200
  return ((entry.1, .obj (optionalField "authorization_ref" authorization ++
      optionalField "credential" credential ++
      [("default_branch", .str branch), ("owner_project_id", .str owner), ("url", .str url)])),
    { kind := "repository"
      key := url
      ownerProjectId := owner
      authorizationRef := authorization })

/-- `_documents`, for one document root. -/
def document (projectId : String) (credentialIds : List String) (entry : String × Json) :
    Checked ((String × Json) × ResourceBinding) := do
  let record ← mapping entry.2 ("documents." ++ entry.1)
    ["adapter", "drive_id", "root", "credential"]
    ["owner_project_id", "authorization_ref", "d8a_root_id"]
  let adapter ← identifier (get record "adapter") "document adapter"
  let driveId ← externalId (get record "drive_id") "drive_id"
  let root ← documentRoot (get record "root")
  let (owner, authorization) ← ownership record projectId
  let credential ← credentialLink (get record "credential") credentialIds
  let d8aRootId ← (if get record "d8a_root_id" = .null then .ok none
    else some <$> externalId (get record "d8a_root_id") "D8Aroom root_id")
  return ((entry.1, .obj ([("adapter", .str adapter)] ++
      optionalField "authorization_ref" authorization ++ [("credential", .ofOption credential)] ++
      optionalField "d8a_root_id" d8aRootId ++
      [("drive_id", .str driveId), ("owner_project_id", .str owner), ("root", .str root)])),
    { kind := "document-root"
      key := adapter ++ "|" ++ driveId ++ "|" ++ root
      ownerProjectId := owner
      authorizationRef := authorization })

/-- The identity of a bot that was accepted before. -/
structure TeamsIdentity where
  applicationKey : String
  displayKey : String
  credential : String

/-- `_teams`, for the identity of one role; `seen` are the identities before. -/
def teamsIdentity (lib : TextLibrary) (credentialIds : List String) (credential : String)
    (seen : List TeamsIdentity) (entry : String × Json) :
    Checked ((String × Json) × TeamsIdentity) := do
  let record ← mapping entry.2 ("teams.role_identities." ++ entry.1)
    ["application_id", "display_name", "credential"] []
  let applicationId ← externalId (get record "application_id") "teams bot application_id"
  let displayName ← text (get record "display_name") "teams bot display_name" 100
  let identityCredential ← requiredLink (get record "credential") credentialIds
    "Teams bot credential is required"
  let identity : TeamsIdentity :=
    ⟨lib.casefold applicationId, lib.casefold displayName, identityCredential⟩
  Check.that (identity.applicationKey ∉ seen.map TeamsIdentity.applicationKey)
    (.value "Teams bot application ids must be unique")
  Check.that (identity.displayKey ∉ seen.map TeamsIdentity.displayKey)
    (.value "Teams bot display names must be unique")
  Check.that (identityCredential ∉ credential :: seen.map TeamsIdentity.credential)
    (.value "Teams bot credentials must be distinct")
  return ((entry.1, .obj [("application_id", .str applicationId),
    ("credential", .str identityCredential), ("display_name", .str displayName)]), identity)

/-- `_teams`, for the identities of the roles. -/
def teamsIdentities (lib : TextLibrary) (credentialIds : List String) (credential : String)
    (seen : List TeamsIdentity) :
    List (String × Json) → Checked (List ((String × Json) × TeamsIdentity))
  | [] => .ok []
  | entry :: entries => do
    let identity ← teamsIdentity lib credentialIds credential seen entry
    let identities ← teamsIdentities lib credentialIds credential (seen ++ [identity.2]) entries
    return identity :: identities

/-- `_teams`. -/
def teams (lib : TextLibrary) (value : Json) (projectId : String)
    (credentialIds roleIds : List String) : Checked (Json × List ResourceBinding) := do
  let record ← mapping value "teams"
    ["tenant_id", "team_id", "credential", "channels", "role_identities"]
    ["owner_project_id", "authorization_ref"]
  let tenantId ← externalId (get record "tenant_id") "tenant_id"
  let teamId ← externalId (get record "team_id") "team_id"
  let credential ← requiredLink (get record "credential") credentialIds
    "Teams connector credential is required"
  let (owner, authorization) ← ownership record projectId
  let channels ← namedMapping (get record "channels") "teams.channels" false
  let channels ← channels.mapM fun entry =>
    (fun channel => (entry.1, channel)) <$> externalId entry.2 "channel_id"
  let identities ← namedMapping (get record "role_identities") "teams.role_identities" false
  Check.that ((∀ role ∈ roleIds, role ∈ identities.map Prod.fst) ∧
    ∀ role ∈ identities.map Prod.fst, role ∈ roleIds)
    (.value "teams role identities disagree with configured roles")
  let identities ← teamsIdentities lib credentialIds credential [] identities
  let resource := fun kind key : String =>
    ({ kind, key, ownerProjectId := owner, authorizationRef := authorization } : ResourceBinding)
  return (.obj (optionalField "authorization_ref" authorization ++
      [("channels", .obj (channels.map fun channel => (channel.1, .str channel.2))),
      ("credential", .str credential), ("owner_project_id", .str owner),
      ("role_identities", .obj (identities.map Prod.fst)), ("team_id", .str teamId),
      ("tenant_id", .str tenantId)]),
    (channels.map fun channel =>
      resource "teams-channel" (tenantId ++ "|" ++ teamId ++ "|" ++ channel.2)) ++
    identities.map fun identity =>
      resource "teams-bot-identity" (tenantId ++ "|" ++ identity.2.applicationKey))

/-- `_ado`. -/
def ado (lib : TextLibrary) (value : Json) (projectId : String) (credentialIds : List String) :
    Checked (Json × ResourceBinding) := do
  let record ← mapping value "ado" ["organization", "project", "credential"]
    ["owner_project_id", "authorization_ref"]
  let organization ← adoUrl lib (get record "organization")
  let adoProject ← text (get record "project") "ado.project" 200
  let credential ← credentialLink (get record "credential") credentialIds
  let (owner, authorization) ← ownership record projectId
  return (.obj (optionalField "authorization_ref" authorization ++
      [("credential", .ofOption credential), ("organization", .str organization),
      ("owner_project_id", .str owner), ("project", .str adoProject)]),
    { kind := "ado-project"
      key := lib.casefold organization ++ "|" ++ lib.casefold adoProject
      ownerProjectId := owner
      authorizationRef := authorization })

/-- `_packages`. -/
def packages (value : Json) : Checked Json := do
  let record ← mapping value "packages" ["organization_release_digest", "overrides"] []
  let digest ← matching isDigest (get record "organization_release_digest")
    "organization_release_digest is invalid"
  let overrides ← Check.found (get record "overrides").asArray
    (.value "packages.overrides must be an array")
  Check.that (overrides.all (fun item => item.asString.isSome) = true)
    (.value "packages.overrides must be an array")
  let parsed ← overrides.mapM fun item => packageReference item "project-override"
  Check.that parsed.Nodup (.value "packages.overrides contains duplicates")
  return .obj [("organization_release_digest", .str digest),
    ("overrides", .arr ((parsed.insertionSort (· ≤ ·)).map .str))]

/-- `_roles`, for one role: the record and the bounds of its instances. -/
def role (entry : String × Json) : Checked ((String × Json) × ℤ × ℤ) := do
  let record ← mapping entry.2 ("roles." ++ entry.1) ["package", "tool_profile", "instances"] []
  let instances ← mapping (get record "instances") ("roles." ++ entry.1 ++ ".instances")
    ["minimum", "maximum"] []
  let minimum ← integer (get instances "minimum") "instances.minimum" 0 256
  let maximum ← integer (get instances "maximum") "instances.maximum" 1 256
  Check.that (minimum ≤ maximum)
    (.value ("roles." ++ entry.1 ++ " minimum instances exceed maximum"))
  let package ← packageReference (get record "package") "role"
  let toolProfile ← packageReference (get record "tool_profile") "tool-profile"
  return ((entry.1,
    .obj [("instances", .obj [("maximum", .int maximum), ("minimum", .int minimum)]),
    ("package", .str package), ("tool_profile", .str toolProfile)]), minimum, maximum)

/-- `_limits`. -/
def limits (value : Json) (minimum maximum : ℤ) : Checked Json := do
  let record ← mapping value "limits" ["max_total_instances"] []
  let total ← integer (get record "max_total_instances") "max_total_instances" 1 256
  Check.that (minimum ≤ total ∧ total ≤ maximum)
    (.value "max_total_instances must be between role minimum and maximum totals")
  return .obj [("max_total_instances", .int total)]

/-! ## The manifest -/

/-- The order of the resources, by kind and key. -/
def resourceLe (a b : ResourceBinding) : Prop :=
  a.kind < b.kind ∨ a.kind = b.kind ∧ a.key ≤ b.key

instance (a b : ResourceBinding) : Decidable (resourceLe a b) :=
  inferInstanceAs (Decidable (_ ∨ _))

/-- The kind and the key that a resource is identified by. -/
def identityOf (r : ResourceBinding) : String × String := (r.kind, r.key)

/-- What `_normalize_project_manifest` reads: all of the manifest but its digest. -/
structure NormalizedManifest where
  projectId : String
  displayName : String
  snapshot : Json
  resources : List ResourceBinding
deriving DecidableEq

/-- `_normalize_project_manifest`, up to the digest. -/
def normalized (lib : TextLibrary) (value : Json) : Checked NormalizedManifest := do
  let root ← mapping value "manifest" ["schema_version", "project_id", "display_name", "packages",
    "repositories", "documents", "teams", "ado", "credentials", "roles", "limits"] []
  -- `True` and `1.0` are equal to `1`
  Check.that (get root "schema_version" ∈ [.int 1, .bool true, .float "1.0"])
    (.value "schema_version must be 1")
  let projectId ← identifier (get root "project_id") "project_id"
  let displayName ← text (get root "display_name") "display_name" 200
  let credentials ← namedMapping (get root "credentials") "credentials" false
  let credentials ← credentials.mapM (credential projectId)
  let credentialIds := credentials.map fun entry => entry.1.1
  let repositories ← namedMapping (get root "repositories") "repositories" false
  let repositories ← repositories.mapM (repository lib projectId credentialIds)
  let documents ← namedMapping (get root "documents") "documents" true
  let documents ← documents.mapM (document projectId credentialIds)
  let packages ← packages (get root "packages")
  let roles ← namedMapping (get root "roles") "roles" false
  let roles ← roles.mapM role
  let teams ← teams lib (get root "teams") projectId credentialIds
    (roles.map fun entry => entry.1.1)
  let ado ← ado lib (get root "ado") projectId credentialIds
  let limits ← limits (get root "limits") (roles.map fun entry => entry.2.1).sum
    (roles.map fun entry => entry.2.2).sum
  let snapshot := Json.obj [("ado", ado.1), ("credentials", .obj (credentials.map Prod.fst)),
    ("display_name", .str displayName), ("documents", .obj (documents.map Prod.fst)),
    ("limits", limits), ("packages", packages), ("project_id", .str projectId),
    ("repositories", .obj (repositories.map Prod.fst)), ("roles", .obj (roles.map Prod.fst)),
    ("schema_version", .int 1), ("teams", teams.1)]
  let resources := (credentials.map Prod.snd ++ repositories.map Prod.snd ++
    documents.map Prod.snd ++ teams.2 ++ [ado.2]).insertionSort resourceLe
  Check.that (resources.map identityOf).Nodup
    (.value "project manifest contains duplicate resources")
  return { projectId, displayName, snapshot, resources }

/-- `_normalize_project_manifest`. -/
def normalizeProjectManifest (lib : TextLibrary) (value : Json) : Checked ProjectManifest := do
  let manifest ← normalized lib value
  return {
    projectId := manifest.projectId
    displayName := manifest.displayName
    digest := manifest.snapshot.digest
    snapshot := manifest.snapshot
    resources := manifest.resources }

end ProjectManifest

end AgenticMesh
