import AgenticMesh.Base.Base64
import AgenticMesh.Base.JsonText
import AgenticMesh.Base.UrlQuery
import AgenticMesh.Manifest.Teams
import AgenticMesh.Recovery.Supervisor

/-!
# The proxy of the document component

`D8AProxy` forwards requests for the documents of a project to one service.  It
builds the path itself, and for a node it requires a root of the project's
manifest.  What it checks and what it sends differ in two places: the root is
checked without the blanks around it and sent with them, and a node `.` is a
segment of the address that the client library removes.  A third difference is
between the manifest and the proxy, which read roots with different patterns.
-/

namespace AgenticMesh

/-- `D8AProxyError`: a refusal with its HTTP status. -/
structure D8AProxyError where
  statusCode : ℕ
  code : String
  detail : String
deriving DecidableEq

/-- The service of the proxy. -/
structure D8AService where
  /-- The path of `base_url`, split at its slashes. -/
  basePath : List String
  tenantSlug : String
  tenantId : Option String

/-- What the proxy uses of Python and of its client library. -/
structure ProxyLibrary where
  /-- `str.upper`. -/
  upper : String → String
  /-- `json.loads` of bytes. -/
  loads : List UInt8 → Option Json
  /-- The path of an address, split at its slashes, as the client library sends it. -/
  normalizePath : List String → List String

/-- The arguments of `forward`. -/
structure ProxyRequest where
  projectId : String
  method : String
  path : String
  query : List (String × String)
  content : List UInt8
  contentType : Option String
  principal : Principal
  requestId : String
  query_nodup : (query.map Prod.fst).Nodup

/-- The request that is sent. -/
structure UpstreamRequest where
  method : String
  path : List String
  query : String
  headers : List (String × String)
  content : List UInt8

/-- What the upstream answers. -/
structure UpstreamResponse where
  statusCode : ℕ
  header : String → Option String
  content : List UInt8

/-- The content of an answer, or the stream of the response. -/
inductive ProxyContent where
  | bytes (content : List UInt8)
  | stream (content : List UInt8)

/-- What the proxy answers. -/
structure D8AProxyResult where
  statusCode : ℕ
  headers : List (String × String)
  content : ProxyContent

/-- What a path of the proxy stands for. -/
inductive ProxyTarget where
  | roots
  | node (nodeId action : String)
deriving DecidableEq

namespace D8AProxy

/-- `_NODE_ACTIONS`. -/
def nodeActions : List String :=
  ["children", "path", "open", "edit-open", "content", "content-stream", "comments"]

/-- `_MUTATIONS`. -/
def mutations : List (String × String) := [("PUT", "content"), ("POST", "comments")]

/-- `_MAX_JSON_BYTES`. -/
def maxJsonBytes : ℕ := 2 * 1024 * 1024

/-- `_ROOT_ID`. -/
def isRootId (s : String) : Bool :=
  fullmatch Char.isAlphanum (fun c => c.isAlphanum || c == '.' || c == '_' || c == ':' ||
    c == '@' || c == '-') 255 s

/-- `_NODE_ID`, and no `..` in it. -/
def isNodeId (s : String) : Bool :=
  decide (1 ≤ s.toList.length ∧ s.toList.length ≤ 4096 ∧ '/' ∉ s.toList ∧ '\\' ∉ s.toList ∧
    ¬ ['.', '.'] <:+: s.toList)

/-- The parts of a path that are not empty. -/
def pathParts (path : String) : List String :=
  ((path.toList.splitOn '/').map String.ofList).filter (· ≠ "")

/-- A method that an action allows. -/
def Allowed (method action : String) : Prop := method = "GET" ∨ (method, action) ∈ mutations

instance (method action : String) : Decidable (Allowed method action) :=
  inferInstanceAs (Decidable (_ ∨ _))

def routeNotFound : D8AProxyError :=
  ⟨404, "d8a_route_not_found", "D8Aroom route is not available"⟩

/-- `_target`. -/
def target (path method : String) : Except D8AProxyError ProxyTarget :=
  match pathParts path with
  | ["roots"] => if method = "GET" then .ok .roots else .error routeNotFound
  | ["nodes", nodeId, action] =>
    if isNodeId nodeId = true ∧ action ∈ nodeActions ∧ Allowed method action then
      .ok (.node nodeId action)
    else .error routeNotFound
  | _ => .error routeNotFound

/-- The path of a target below the service. -/
def upstreamPath : ProxyTarget → List String
  | .roots => ["api", "portal", "roots"]
  | .node nodeId action => ["api", "portal", "nodes", quote [] nodeId, action]

/-- The response mode `stream`. -/
def streams : ProxyTarget → Bool
  | .roots => false
  | .node _ action => action = "content-stream"

/-- `item.get("d8a_root_id")` of a document. -/
def documentRoot? (document : Json) : Option String :=
    (document.get? "d8a_root_id").bind Json.asString

/-- `_project_roots`. -/
def projectRoots (manifest : ProjectManifest) : List String :=
  (ProjectManifest.entries manifest.snapshot "documents").filterMap fun d => documentRoot? d.2

/-- `json.dumps` without blanks, as bytes. -/
def dumpBytes (value : Json) : List UInt8 := encodeUtf8 (Json.ascii value.dumps).toList

/-- `_principal_header`. -/
def principalHeader (principal : Principal) : String :=
  let roles := "authenticated" :: if "write" ∈ principal.scopes then ["admin"] else []
  String.ofList (Base64.encode (dumpBytes (.obj [("userId", .str principal.subject),
    ("userDetails", .str principal.subject), ("userRoles", .arr (roles.map .str))])))

/-- The headers of the request that is sent. -/
def upstreamHeaders (service : D8AService) (r : ProxyRequest) (t : ProxyTarget) :
    List (String × String) :=
  [("accept", if streams t then "*/*" else "application/json"),
    ("x-ms-client-principal", principalHeader r.principal),
    ("x-agentic-mesh-project-id", r.projectId), ("x-correlation-id", r.requestId),
    ("x-d8-tenant-slug", service.tenantSlug)] ++
  ((service.tenantId.filter (· ≠ "")).map fun id => ("x-d8-tenant-id", id)).toList ++
  ((r.contentType.filter fun type => type ≠ "" ∧ r.content ≠ []).map fun type =>
    ("content-type", type)).toList

/-- `query.get("rootId", "")`. -/
def rawRoot (r : ProxyRequest) : String := (r.query.lookup "rootId").getD ""

/-- The root of a node request is one of the project's. -/
def checkRoot (roots : List String) (r : ProxyRequest) (t : ProxyTarget) :
    Except D8AProxyError Unit := do
  Check.that (t ≠ .roots → isRootId (strip (rawRoot r)) = true)
    ⟨400, "d8a_root_required", "a valid rootId is required"⟩
  Check.that (t ≠ .roots → strip (rawRoot r) ∈ roots)
    ⟨403, "d8a_root_denied", "document root is outside the project boundary"⟩

/-- `forward` until it sends a request. -/
def prepare (lib : ProxyLibrary) (service : D8AService) (manifest : Option ProjectManifest)
    (r : ProxyRequest) : Except D8AProxyError (ProxyTarget × UpstreamRequest) := do
  let method := lib.upper r.method
  let t ← target r.path method
  let m ← Check.found manifest
    ⟨503, "project_manifest_unavailable", "active project manifest is unavailable"⟩
  checkRoot (projectRoots m) r t
  Check.that (r.content.length ≤ maxJsonBytes)
    ⟨413, "d8a_request_too_large", "D8Aroom request is too large"⟩
  return (t, {
    method, path := lib.normalizePath (service.basePath ++ upstreamPath t)
    query := urlencode r.query, headers := upstreamHeaders service r t, content := r.content })

/-- `_root_id`. -/
def rootId (item : Json) : Option String := (item.get? "rootId").bind Json.asString

/-- The entries whose root is one of the project's. -/
def projectEntries (allowed : List String) (entries : List Json) : List Json :=
  entries.filter fun item => (rootId item).any (· ∈ allowed)

/-- `{**value, "roots": items}` of a mapping that has the field. -/
def withRoots (fields : List (String × Json)) (items : List Json) : Json :=
  .obj (fields.map fun p => if p.1 = "roots" then ("roots", .arr items) else p)

/-- `_filter_roots`. -/
def filterRoots (lib : ProxyLibrary) (payload : List UInt8) (allowed : List String) :
    Except D8AProxyError (List UInt8) := do
  let value ← Check.found (lib.loads payload)
    ⟨502, "d8a_invalid_response", "D8Aroom returned invalid JSON"⟩
  match value with
  | .arr items => return dumpBytes (.arr (projectEntries allowed items))
  | .obj fields =>
    match (Json.obj fields).get? "roots" with
    | some (.arr items) => return dumpBytes (withRoots fields (projectEntries allowed items))
    | _ => .error ⟨502, "d8a_invalid_response", "D8Aroom roots response is invalid"⟩
  | _ => .error ⟨502, "d8a_invalid_response", "D8Aroom roots response is invalid"⟩

/-- `_safe_response_headers`. -/
def safeResponseHeaders (response : UpstreamResponse) (includeLength : Bool) :
    List (String × String) :=
  let names := ["content-type", "content-disposition", "etag", "last-modified"] ++
    if includeLength then ["content-length"] else []
  (names.filterMap fun name =>
    ((response.header name).filter (· ≠ "")).map fun value => (name, value)) ++
      [("cache-control", "no-store")]

/-- `response.is_success`. -/
def isSuccess (response : UpstreamResponse) : Bool :=
  decide (200 ≤ response.statusCode ∧ response.statusCode < 300)

/-- The payload that is passed on. -/
def passedOn (lib : ProxyLibrary) (roots : List String) (t : ProxyTarget)
    (response : UpstreamResponse) : Except D8AProxyError (List UInt8) :=
  if t = .roots ∧ isSuccess response = true then filterRoots lib response.content roots
  else .ok response.content

/-- `forward` after the response. -/
def answer (lib : ProxyLibrary) (roots : List String) (t : ProxyTarget)
    (response : UpstreamResponse) : Except D8AProxyError D8AProxyResult :=
  if 300 ≤ response.statusCode ∧ response.statusCode < 400 then
    .error ⟨502, "d8a_redirect_rejected", "D8Aroom redirect was rejected"⟩
  else if streams t = true ∧ isSuccess response = true then
    .ok ⟨response.statusCode, safeResponseHeaders response true, .stream response.content⟩
  else do
    Check.that (response.content.length ≤ maxJsonBytes)
      ⟨502, "d8a_response_too_large",
        if streams t then "D8Aroom error response is too large"
        else "D8Aroom response is too large"⟩
    let payload ← passedOn lib roots t response
    return ⟨response.statusCode, safeResponseHeaders response false, .bytes payload⟩

/-- `forward`, with the request that it sends; a failure of the client library is no response. -/
def forward (lib : ProxyLibrary) (service : D8AService) (manifest : Option ProjectManifest)
    (send : UpstreamRequest → Option UpstreamResponse) (r : ProxyRequest) :
    Except D8AProxyError D8AProxyResult × Option UpstreamRequest :=
  match prepare lib service manifest r with
  | .error e => (.error e, none)
  | .ok (t, sent) =>
    (match send sent with
      | none => .error ⟨502, "d8a_unavailable", "D8Aroom document service is unavailable"⟩
      | some response => answer lib ((manifest.map projectRoots).getD []) t response,
    some sent)

/-! ## What the proxy promises -/

/-- What Python and the client library document: the upper case of `GET`, and that a segment `.` of
an address is removed while other segments stay behind what precedes them. -/
structure Standard (lib : ProxyLibrary) : Prop where
  upper_get : lib.upper "GET" = "GET"
  append : ∀ xs ys, "." ∉ ys → ".." ∉ ys →
    lib.normalizePath (xs ++ ys) = lib.normalizePath xs ++ ys
  dot : ∀ xs ys, ys ≠ [] → lib.normalizePath (xs ++ "." :: ys) = lib.normalizePath (xs ++ ys)

/-- A path below the service that the proxy may send a request to. -/
def Listed (method : String) (below : List String) : Prop :=
  below = ["api", "portal", "roots"] ∧ method = "GET" ∨
    ∃ nodeId action, below = ["api", "portal", "nodes", quote [] nodeId, action] ∧
      action ∈ nodeActions ∧ Allowed method action

/-- The entries of a roots response. -/
def rootEntries : Json → Option (List Json)
  | .arr items => some items
  | .obj fields => ((Json.obj fields).get? "roots").bind Json.asArray
  | _ => none

section Promises

variable (lib : ProxyLibrary) (service : D8AService) (m : ProjectManifest)
  (send : UpstreamRequest → Option UpstreamResponse) (replaced : String → String)

/-- A request stays inside the project. -/
structure Contained (r : ProxyRequest) : Prop where
  path : ∀ sent, (forward lib service (some m) send r).2 = some sent →
    ∃ below, sent.path = lib.normalizePath service.basePath ++ below ∧ Listed sent.method below
  root : ∀ sent nodeId action, (forward lib service (some m) send r).2 = some sent →
    target r.path (lib.upper r.method) = .ok (.node nodeId action) →
      ∃ id ∈ projectRoots m, queryValues replaced sent.query "rootId" = [id]
  entries : ∀ sent response result, target r.path (lib.upper r.method) = .ok .roots →
    (forward lib service (some m) send r).2 = some sent → send sent = some response →
    isSuccess response = true → (forward lib service (some m) send r).1 = .ok result →
      ∃ value kept items, lib.loads response.content = some value ∧
        rootEntries value = some items ∧ result.content = .bytes (dumpBytes kept) ∧
        rootEntries kept = some (projectEntries (projectRoots m) items)

/-- Every root of the project can be used in node requests. -/
def RootsUsable : Prop :=
  ∀ id ∈ projectRoots m, ∀ r : ProxyRequest, ∀ nodeId action,
    target r.path (lib.upper r.method) = .ok (.node nodeId action) → rawRoot r = id →
      r.content.length ≤ maxJsonBytes → (forward lib service (some m) send r).2 ≠ none

/-- A node request with a root of the project names a node other than `.`, and its root without
blanks around it. -/
def Exact (r : ProxyRequest) : Prop :=
  ∀ nodeId action, target r.path (lib.upper r.method) = .ok (.node nodeId action) →
    isRootId (strip (rawRoot r)) = true → strip (rawRoot r) ∈ projectRoots m →
      r.content.length ≤ maxJsonBytes → nodeId ≠ "." ∧ strip (rawRoot r) = rawRoot r

end Promises

/-! ## The root that is sent -/

lemma filterMap_lookup {query : List (String × String)} (h : (query.map Prod.fst).Nodup)
    (name : String) :
    (query.filter fun f => f.2 ≠ "").filterMap (fun f => if f.1 = name then some f.2 else none) =
      ((query.lookup name).filter fun v => v ≠ "").toList := by
  induction query with
  | nil => rfl
  | cons f query ih =>
    obtain ⟨key, value⟩ := f
    obtain ⟨hnotin, hnodup⟩ := List.nodup_cons.1 h
    by_cases hkey : key = name
    · subst hkey
      have hrest : query.lookup key = none := by
        rw [List.lookup_eq_none_iff]
        intro p hp
        have hne : key ≠ p.1 := fun heq => hnotin (List.mem_map.2 ⟨p, hp, heq.symm⟩)
        simpa using hne
      rw [List.lookup_cons_self, Option.filter_some]
      by_cases hvalue : value = ""
      · rw [List.filter_cons_of_neg (by simpa using hvalue), ih hnodup, hrest]
        simp [hvalue]
      · rw [List.filter_cons_of_pos (by simpa using hvalue),
          List.filterMap_cons_some (by simp; rfl),
          ih hnodup, hrest]
        simp [hvalue]
    · have hlookup : ((key, value) :: query).lookup name = query.lookup name := by
        rw [List.lookup_cons, show (name == key) = false by simpa using Ne.symm hkey]
      rw [hlookup, ← ih hnodup]
      by_cases hvalue : value = ""
      · rw [List.filter_cons_of_neg (by simpa using hvalue)]
      · rw [List.filter_cons_of_pos (by simpa using hvalue),
          List.filterMap_cons_none (by simp [hkey])]

/-- An empty value is not read back. -/
lemma queryField_urlencode_empty {replaced : String → String} (name : String) :
    queryField replaced (quotePlus name ++ "=" ++ quotePlus "").toList = none := by
  have hplain : ∀ c ∈ (quotePlus name).toList, decide (c ≠ '=') = true := by
    intro c hc
    exact decide_eq_true fun heq =>
      not_mem_quotePlus (by decide) (by decide) (by decide) name (heq ▸ hc)
  have htext :
      (quotePlus name ++ "=" ++ quotePlus "").toList = (quotePlus name).toList ++ ['='] := by
    rw [String.toList_append, String.toList_append, (quotePlus_eq_nil.2 rfl : _ = []),
      List.append_nil]
    rfl
  have hdrop : ((quotePlus name).toList ++ ['=']).dropWhile (· ≠ '=') = ['='] := by
    rw [List.dropWhile_append_of_pos hplain, List.dropWhile_cons_of_neg (by simp)]
  rw [htext, queryField, hdrop]
  rfl

/-- The fields of a query that are read back. -/
lemma parseQsl_urlencode_filter {replaced : String → String} (query : List (String × String)) :
    parseQsl replaced (urlencode query) = query.filter fun f => f.2 ≠ "" := by
  rw [parseQsl, toList_urlencode]
  by_cases hne : query = []
  · have hfield : queryField replaced [] = none := by simp [queryField]
    rw [hne, List.map_nil, List.intercalate_nil, List.splitOn_nil,
      List.filterMap_cons_none hfield, List.filterMap_nil, List.filter_nil]
  · have hand : ∀ xs ∈ query.map fieldText, '&' ∉ xs := by
      intro xs hxs
      obtain ⟨field, -, rfl⟩ := List.mem_map.1 hxs
      exact and_not_mem_fieldText field
    have hnil : query.map fieldText ≠ [] := fun h => hne (List.map_eq_nil_iff.1 h)
    rw [List.splitOn_intercalate '&' hand hnil, List.filterMap_map]
    rw [← List.filterMap_eq_filter]
    refine List.filterMap_congr fun f _ => ?_
    rw [Function.comp_apply, fieldText]
    by_cases hvalue : f.2 = ""
    · rw [hvalue, queryField_urlencode_empty]
      simp [Option.guard, hvalue]
    · rw [queryField_urlencode hvalue]
      simp [Option.guard, hvalue]

/-- The root that the service reads is the one that the client sent, blanks included. -/
lemma queryValues_rootId {replaced : String → String} {r : ProxyRequest} (h : rawRoot r ≠ "") :
    queryValues replaced (urlencode r.query) "rootId" = [rawRoot r] := by
  rw [queryValues, parseQsl_urlencode_filter, filterMap_lookup r.query_nodup]
  rw [rawRoot] at h ⊢
  cases hlookup : r.query.lookup "rootId" with
  | none =>
    rw [hlookup] at h
    exact absurd rfl h
  | some v =>
    rw [hlookup] at h
    simpa using h

/-! ## The roots of a manifest -/

/-- The roots of a normalized manifest are identifiers of its pattern. -/
lemma isExternalId_of_mem_projectRoots {text : TextLibrary} {value : Json} {m : ProjectManifest}
    (h : ProjectManifest.normalizeProjectManifest text value = .ok m) {id : String}
    (hid : id ∈ projectRoots m) : ProjectManifest.isExternalId id = true := by
  simp only [ProjectManifest.normalizeProjectManifest, Check.bind_ok, Check.pure_ok] at h
  obtain ⟨n, hn, rfl⟩ := h
  simp only [ProjectManifest.normalized, Check.bind_ok, Check.pure_ok] at hn
  obtain ⟨root, -, -, -, projectId, -, displayName, -, named, -, credentials,
    -, repositories, -, repositories', -, documents, -, documents', hdocuments,
    packages, -, roles, -, roles', -, ⟨t, resources⟩, -, ado, -, limits, -, -, -, rfl⟩ := hn
  have hentries : id ∈ (documents'.map Prod.fst).filterMap fun d => documentRoot? d.2 := hid
  obtain ⟨d, hd, hroot⟩ := List.mem_filterMap.1 hentries
  obtain ⟨⟨d, resource⟩, hmem, rfl⟩ := List.mem_map.1 hd
  obtain ⟨entry, -, hdocument⟩ := Check.mem_of_mapM hdocuments hmem
  simp only [ProjectManifest.document, Check.bind_ok, Check.pure_ok, Prod.mk.injEq] at hdocument
  obtain ⟨record, -, adapter, -, driveId, -, path, -, ⟨owner, authorization⟩, -, credential, -, d8a,
    hd8a, rfl, -⟩ := hdocument
  cases d8a with
  | none =>
    have hnone : documentRoot? (.obj ([("adapter", .str adapter)] ++
        ProjectManifest.optionalField "authorization_ref" authorization ++
        [("credential", .ofOption credential)] ++
        ProjectManifest.optionalField "d8a_root_id" none ++
        [("drive_id", .str driveId), ("owner_project_id", .str owner), ("root", .str path)])) =
          none := by
      cases authorization <;> rfl
    rw [hnone] at hroot
    cases hroot
  | some root =>
    have hsome : documentRoot? (.obj ([("adapter", .str adapter)] ++
        ProjectManifest.optionalField "authorization_ref" authorization ++
        [("credential", .ofOption credential)] ++
        ProjectManifest.optionalField "d8a_root_id" (some root) ++
        [("drive_id", .str driveId), ("owner_project_id", .str owner), ("root", .str path)])) =
          some root := by
      cases authorization <;> rfl
    rw [hsome] at hroot
    obtain rfl := Option.some.inj hroot
    split at hd8a
    · cases hd8a
    · cases hvalue : ProjectManifest.externalId (ProjectManifest.get record "d8a_root_id")
          "D8Aroom root_id" with
      | error e =>
        rw [hvalue] at hd8a
        cases hd8a
      | ok root' =>
        rw [hvalue] at hd8a
        obtain rfl : root' = root := Option.some.inj (Except.ok.inj hd8a)
        exact (ProjectManifest.matching_ok.1 hvalue).2

/-- The manifest allows one character that the proxy does not. -/
lemma isRootId_iff {id : String} (h : ProjectManifest.isExternalId id = true) :
    isRootId id = true ↔ '!' ∉ id.toList := by
  rw [ProjectManifest.isExternalId, fullmatch] at h
  rw [isRootId, fullmatch]
  cases hid : id.toList with
  | nil => simp [hid] at h
  | cons c cs =>
    simp only [hid, Bool.and_eq_true, List.all_eq_true] at h ⊢
    obtain ⟨⟨hfirst, hlength⟩, hrest⟩ := h
    constructor
    · rintro ⟨-, hall⟩ hmem
      rcases List.mem_cons.1 hmem with rfl | hmem
      · exact absurd hfirst (by decide)
      · exact absurd (hall '!' hmem) (by decide)
    · intro hnone
      refine ⟨⟨hfirst, hlength⟩, fun d hd => ?_⟩
      have hne : d ≠ '!' := fun heq => hnone (heq ▸ List.mem_cons_of_mem _ hd)
      have hd' := hrest d hd
      simp only [Bool.or_eq_true, beq_iff_eq] at hd' ⊢
      tauto

/-- A root of the manifest has no blanks. -/
lemma strip_of_isExternalId {id : String} (h : ProjectManifest.isExternalId id = true) :
    strip id = id := by
  rw [ProjectManifest.isExternalId, fullmatch] at h
  refine strip_eq_self fun c hc => ?_
  have hclass : isIdentifierChar c = true ∨ c = '!' ∨ c = '@' := by
    cases hid : id.toList with
    | nil => exact absurd (hid ▸ hc) List.not_mem_nil
    | cons d ds =>
      rw [hid] at hc
      simp only [hid, Bool.and_eq_true, List.all_eq_true] at h
      rcases List.mem_cons.1 hc with rfl | hc
      · exact .inl (by simp [isIdentifierChar, h.1.1])
      · have hrest := h.2 c hc
        simp only [Bool.or_eq_true, beq_iff_eq] at hrest
        simp only [isIdentifierChar, Bool.or_eq_true, beq_iff_eq]
        tauto
  rcases hclass with hclass | rfl | rfl
  · exact isSpace_eq_false_of_isIdentifierChar hclass
  · decide
  · decide

/-! ## The containment of the proxy -/

section Containment

variable {lib : ProxyLibrary} {service : D8AService} {m : ProjectManifest}
  {send : UpstreamRequest → Option UpstreamResponse} {replaced : String → String}
  {r : ProxyRequest} {sent : UpstreamRequest} {t : ProxyTarget}

/-- The targets of the proxy, with what was checked for them. -/
lemma target_ok {path method : String} (h : target path method = .ok t) :
    t = .roots ∧ method = "GET" ∨ ∃ nodeId action, t = .node nodeId action ∧
      isNodeId nodeId = true ∧ action ∈ nodeActions ∧ Allowed method action := by
  unfold target at h
  split at h
  · split at h
    · next hmethod => exact .inl ⟨(Except.ok.inj h).symm, hmethod⟩
    · cases h
  · next nodeId action _ =>
    split at h
    · next hnode => exact .inr ⟨nodeId, action, (Except.ok.inj h).symm, hnode⟩
    · cases h
  · cases h

/-- The request that is sent, with what was checked for it. -/
lemma forward_sent : (forward lib service (some m) send r).2 = some sent ↔
    ∃ t, target r.path (lib.upper r.method) = .ok t ∧
      (∀ nodeId action, t = .node nodeId action →
        isRootId (strip (rawRoot r)) = true ∧ strip (rawRoot r) ∈ projectRoots m) ∧
      r.content.length ≤ maxJsonBytes ∧
      sent = ⟨lib.upper r.method, lib.normalizePath (service.basePath ++ upstreamPath t),
        urlencode r.query, upstreamHeaders service r t, r.content⟩ := by
  have hprepare : (forward lib service (some m) send r).2 = some sent ↔
      ∃ t, prepare lib service (some m) r = .ok (t, sent) := by
    rw [forward]
    cases prepare lib service (some m) r with
    | error e => simp
    | ok out =>
      obtain ⟨t, sent'⟩ := out
      simp [eq_comm]
  rw [hprepare]
  refine exists_congr fun t => ?_
  simp only [prepare, checkRoot, Check.bind_ok, Check.found_ok, Check.that_ok, Check.pure_ok,
    Prod.mk.injEq]
  constructor
  · rintro ⟨t', htarget, _, hm, _, ⟨_, hpattern, hmem⟩, _, hsize, rfl, rfl⟩
    obtain rfl := Option.some.inj hm
    refine ⟨htarget, fun nodeId action ht => ?_, hsize, rfl⟩
    have hnode : t' ≠ .roots := by
      rw [ht]
      simp
    exact ⟨hpattern hnode, hmem hnode⟩
  · rintro ⟨htarget, hroot, hsize, rfl⟩
    have hnode : t ≠ .roots →
        isRootId (strip (rawRoot r)) = true ∧ strip (rawRoot r) ∈ projectRoots m := by
      intro hne
      cases t with
      | roots => exact absurd rfl hne
      | node nodeId action => exact hroot nodeId action rfl
    exact ⟨t, htarget, m, rfl, (), ⟨(), fun h => (hnode h).1, fun h => (hnode h).2⟩, (), hsize, rfl,
      rfl⟩

/-- A quoted node is a segment of dots only when the node is. -/
lemma quote_eq_dot {nodeId : String} : quote [] nodeId = "." ↔ nodeId = "." := by
  have hdot : quote [] "." = "." := by decide
  constructor
  · intro h
    exact quote_injective List.not_mem_nil (h.trans hdot.symm)
  · rintro rfl
    exact hdot

lemma quote_ne_dots {nodeId : String} (h : isNodeId nodeId = true) : quote [] nodeId ≠ ".." := by
  have hdots : quote [] ".." = ".." := by decide
  intro heq
  obtain rfl := quote_injective List.not_mem_nil (heq.trans hdots.symm)
  exact absurd h (by decide)

lemma dots_notMem_actions : "." ∉ nodeActions ∧ ".." ∉ nodeActions := by decide

/-- Where a request for a node other than `.` goes. -/
lemma path_of_node (hlib : Standard lib) {nodeId action : String} (hnode : isNodeId nodeId = true)
    (haction : action ∈ nodeActions) (hdot : nodeId ≠ ".") :
    lib.normalizePath (service.basePath ++ upstreamPath (.node nodeId action)) =
      lib.normalizePath service.basePath ++
      ["api", "portal", "nodes", quote [] nodeId, action] := by
  have hactions := dots_notMem_actions
  refine hlib.append _ _ ?_ ?_
  · intro hmem
    simp only [upstreamPath, List.mem_cons, List.not_mem_nil, or_false] at hmem
    rcases hmem with h | h | h | h | h
    · exact absurd h (by decide)
    · exact absurd h (by decide)
    · exact absurd h (by decide)
    · exact hdot (quote_eq_dot.1 h.symm)
    · exact hactions.1 (h ▸ haction)
  · intro hmem
    simp only [upstreamPath, List.mem_cons, List.not_mem_nil, or_false] at hmem
    rcases hmem with h | h | h | h | h
    · exact absurd h (by decide)
    · exact absurd h (by decide)
    · exact absurd h (by decide)
    · exact quote_ne_dots hnode h.symm
    · exact hactions.2 (h ▸ haction)

/-- A request for the node `.` loses a segment. -/
lemma path_of_dot (hlib : Standard lib) {action : String} (haction : action ∈ nodeActions) :
    lib.normalizePath (service.basePath ++ upstreamPath (.node "." action)) =
      lib.normalizePath service.basePath ++ ["api", "portal", "nodes", action] := by
  have hactions := dots_notMem_actions
  have hsplit : service.basePath ++ upstreamPath (.node "." action) =
      (service.basePath ++ ["api", "portal", "nodes"]) ++ "." :: [action] := by
    rw [upstreamPath, quote_eq_dot.2 rfl, List.append_assoc]
    rfl
  rw [hsplit, hlib.dot _ _ (List.cons_ne_nil _ _), List.append_assoc]
  refine hlib.append _ _ ?_ ?_
  · intro hmem
    simp only [List.cons_append, List.nil_append, List.mem_cons, List.not_mem_nil, or_false] at hmem
    rcases hmem with h | h | h | h
    · exact absurd h (by decide)
    · exact absurd h (by decide)
    · exact absurd h (by decide)
    · exact hactions.1 (h ▸ haction)
  · intro hmem
    simp only [List.cons_append, List.nil_append, List.mem_cons, List.not_mem_nil, or_false] at hmem
    rcases hmem with h | h | h | h
    · exact absurd h (by decide)
    · exact absurd h (by decide)
    · exact absurd h (by decide)
    · exact hactions.2 (h ▸ haction)

/-- The path of the service leaves no other reading of four segments. -/
lemma not_listed_dot {method action : String} :
    ¬ Listed method ["api", "portal", "nodes", action] := by
  rintro (⟨h, -⟩ | ⟨nodeId, action', h, -⟩)
  · exact absurd (congrArg List.length h) (by simp)
  · exact absurd (congrArg List.length h) (by simp)

/-- The filter of the roots keeps what is the project's, wherever the entries are. -/
lemma filterRoots_ok {payload out : List UInt8} {allowed : List String}
    (h : filterRoots lib payload allowed = .ok out) : ∃ value kept items,
      lib.loads payload = some value ∧ rootEntries value = some items ∧ out = dumpBytes kept ∧
        rootEntries kept = some (projectEntries allowed items) := by
  simp only [filterRoots, Check.bind_ok, Check.found_ok] at h
  obtain ⟨value, hvalue, h⟩ := h
  cases value with
  | arr items =>
    obtain rfl := Check.pure_ok.1 h
    exact ⟨_, _, items, hvalue, rfl, rfl, rfl⟩
  | obj fields =>
    dsimp only at h
    split at h
    · next items hitems =>
      obtain rfl := Check.pure_ok.1 h
      refine ⟨_, _, items, hvalue, by rw [rootEntries, hitems]; rfl, rfl, ?_⟩
      have hfield : (withRoots fields (projectEntries allowed items)).get? "roots" =
          some (.arr (projectEntries allowed items)) := by
        obtain ⟨p, hp, -⟩ := Option.map_eq_some_iff.1 hitems
        rw [withRoots, Json.get?, List.find?_map]
        have hkeys : ((fun q : String × Json => decide (q.1 = "roots")) ∘ fun q =>
            if q.1 = "roots" then ("roots", .arr (projectEntries allowed items)) else q) =
              fun q => decide (q.1 = "roots") := by
          funext q
          by_cases hq : q.1 = "roots" <;> simp [hq]
        rw [hkeys, hp]
        have hname : p.1 = "roots" := by simpa using List.find?_some hp
        simp [hname]
      rw [withRoots] at hfield ⊢
      rw [rootEntries, hfield]
      rfl
    · cases h
  | _ => cases h

/-- A successful answer for the roots. -/
lemma forward_roots {response : UpstreamResponse} {result : D8AProxyResult}
    (htarget : target r.path (lib.upper r.method) = .ok .roots)
    (hsent : (forward lib service (some m) send r).2 = some sent)
    (hsend : send sent = some response)
    (hsuccess : isSuccess response = true)
    (hresult : (forward lib service (some m) send r).1 = .ok result) :
    ∃ out, filterRoots lib response.content (projectRoots m) = .ok out ∧
      result.content = .bytes out := by
  rw [forward] at hsent hresult
  cases hprepare : prepare lib service (some m) r with
  | error e =>
    rw [hprepare] at hsent
    cases hsent
  | ok out =>
    obtain ⟨t, sent'⟩ := out
    rw [hprepare] at hsent hresult
    obtain rfl := Option.some.inj hsent
    obtain rfl : t = .roots := by
      simp only [prepare, Check.bind_ok, Check.pure_ok, Prod.mk.injEq] at hprepare
      obtain ⟨t', ht', _, -, _, -, _, -, rfl, -⟩ := hprepare
      rw [htarget] at ht'
      exact (Except.ok.inj ht').symm
    dsimp only at hresult
    rw [hsend] at hresult
    dsimp only at hresult
    have hrange := of_decide_eq_true hsuccess
    rw [answer, if_neg (by omega), if_neg (by simp [streams])] at hresult
    simp only [passedOn, Check.bind_ok, Check.pure_ok, Option.map_some, Option.getD_some] at hresult
    obtain ⟨_, -, out, hout, rfl⟩ := hresult
    rw [if_pos ⟨trivial, hsuccess⟩] at hout
    exact ⟨out, hout, rfl⟩

end Containment

end D8AProxy

open D8AProxy in
/-- **The boundary of the document proxy.**  A request stays inside the project and the roots of its
manifest can all be used, exactly when the request names its root and its node as they are sent and
no root has an exclamation mark. -/
theorem d8a_proxy_contained (lib : ProxyLibrary) (hlib : Standard lib) (service : D8AService)
    (text : TextLibrary) (value : Json) (m : ProjectManifest)
    (hm : ProjectManifest.normalizeProjectManifest text value = .ok m)
    (send : UpstreamRequest → Option UpstreamResponse) (replaced : String → String)
    (r : ProxyRequest) :
    Contained lib service m send replaced r ∧ RootsUsable lib service m send ↔
      Exact lib m r ∧ ∀ id ∈ projectRoots m, '!' ∉ id.toList := by
  have hexternal : ∀ id ∈ projectRoots m, ProjectManifest.isExternalId id = true :=
    fun id hid => isExternalId_of_mem_projectRoots hm hid
  have hraw : isRootId (strip (rawRoot r)) = true → rawRoot r ≠ "" := by
    intro hroot hempty
    rw [hempty] at hroot
    exact absurd hroot (by decide)
  constructor
  · rintro ⟨hcontained, husable⟩
    refine ⟨fun nodeId action htarget hroot hmem hsize => ?_, fun id hid => ?_⟩
    · have hsent := (@forward_sent lib service m send r _).2 ⟨_, htarget,
        fun _ _ _ => ⟨hroot, hmem⟩, hsize, rfl⟩
      obtain ⟨_, hnode⟩ | ⟨_, _, heq, hnodeId, haction, -⟩ := target_ok htarget
      · cases ‹ProxyTarget.node nodeId action = ProxyTarget.roots›
      obtain ⟨rfl, rfl⟩ := ProxyTarget.node.inj heq
      constructor
      · rintro rfl
        obtain ⟨below, hpath, hlisted⟩ := hcontained.path _ hsent
        dsimp only at hpath
        rw [path_of_dot hlib haction] at hpath
        obtain rfl := List.append_cancel_left hpath
        exact not_listed_dot hlisted
      · obtain ⟨id, hid, hvalues⟩ := hcontained.root _ _ _ hsent htarget
        dsimp only at hvalues
        rw [queryValues_rootId (hraw hroot)] at hvalues
        obtain rfl := List.cons.inj hvalues |>.1
        exact strip_of_isExternalId (hexternal _ hid)
    · -- a request for the children of some node
      let probe : ProxyRequest :=
        { projectId := "", method := "GET", path := "nodes/a/children", query := [("rootId", id)]
          content := [], contentType := none, principal := ⟨"", [], []⟩, requestId := ""
          query_nodup := List.nodup_singleton _ }
      have htarget : target probe.path (lib.upper probe.method) = .ok (.node "a" "children") := by
        show target "nodes/a/children" (lib.upper "GET") = _
        rw [hlib.upper_get]
        decide
      have hsent := husable id hid probe "a" "children" htarget rfl (Nat.zero_le _)
      obtain ⟨sent, hsent⟩ := Option.ne_none_iff_exists'.1 hsent
      obtain ⟨t, ht, hroot, -⟩ := forward_sent.1 hsent
      rw [htarget] at ht
      have hid' : rawRoot probe = id := rfl
      have hpattern := (hroot "a" "children" (Except.ok.inj ht).symm).1
      rw [hid', strip_of_isExternalId (hexternal id hid)] at hpattern
      exact (isRootId_iff (hexternal id hid)).1 hpattern
  · rintro ⟨hexact, hplain⟩
    refine ⟨⟨fun sent hsent => ?_, fun sent nodeId action hsent htarget => ?_,
      fun sent response result htarget hsent hsend hsuccess hresult => ?_⟩,
      fun id hid r' nodeId action htarget hid' hsize => ?_⟩
    · obtain ⟨t, htarget, hroot, hsize, rfl⟩ := forward_sent.1 hsent
      rcases target_ok htarget with ⟨rfl, hmethod⟩ | ⟨nodeId, action, rfl, hnode, haction, hallowed⟩
      · refine ⟨_, hlib.append _ _ (by decide) (by decide), .inl ⟨rfl, hmethod⟩⟩
      · obtain ⟨hpattern, hmem⟩ := hroot nodeId action rfl
        have hdot := (hexact nodeId action htarget hpattern hmem hsize).1
        exact ⟨_, path_of_node hlib hnode haction hdot,
          .inr ⟨nodeId, action, rfl, haction, hallowed⟩⟩
    · obtain ⟨t, htarget', hroot, hsize, rfl⟩ := forward_sent.1 hsent
      rw [htarget] at htarget'
      obtain ⟨hpattern, hmem⟩ := hroot nodeId action (Except.ok.inj htarget').symm
      have hstrip := (hexact nodeId action htarget hpattern hmem hsize).2
      refine ⟨rawRoot r, hstrip ▸ hmem, queryValues_rootId (hraw hpattern)⟩
    · obtain ⟨out, hfilter, hcontent⟩ := forward_roots htarget hsent hsend hsuccess hresult
      obtain ⟨value, kept, items, hloads, hitems, rfl, hkept⟩ := filterRoots_ok hfilter
      exact ⟨value, kept, items, hloads, hitems, hcontent, hkept⟩
    · have hpattern : isRootId (strip (rawRoot r')) = true := by
        rw [hid', strip_of_isExternalId (hexternal id hid), isRootId_iff (hexternal id hid)]
        exact hplain id hid
      have hmem : strip (rawRoot r') ∈ projectRoots m := by
        rw [hid', strip_of_isExternalId (hexternal id hid)]
        exact hid
      have hsent := (@forward_sent lib service m send r' _).2 ⟨_, htarget,
        fun _ _ _ => ⟨hpattern, hmem⟩, hsize, rfl⟩
      rw [hsent]
      exact Option.some_ne_none _

/-! ## Two roots and a request -/

namespace D8AProxy

/-- The segments of an address without its dots. -/
def removeDots (out : List String) : List String → List String
  | [] => out
  | segment :: segments =>
    if segment = "." then removeDots out segments
    else if segment = ".." then
      removeDots (if out = [] ∨ out = [""] then out else out.dropLast) segments
    else removeDots (out ++ [segment]) segments

lemma removeDots_append (out xs ys : List String) :
    removeDots out (xs ++ ys) = removeDots (removeDots out xs) ys := by
  induction xs generalizing out with
  | nil => rfl
  | cons x xs ih =>
    rw [List.cons_append, removeDots, removeDots]
    split
    · exact ih out
    · split
      · exact ih _
      · exact ih _

lemma removeDots_of_notMem {ys : List String} (h : "." ∉ ys) (h' : ".." ∉ ys)
    (out : List String) : removeDots out ys = out ++ ys := by
  induction ys generalizing out with
  | nil => simp [removeDots]
  | cons y ys ih =>
    have hy : y ≠ "." := fun heq => h (heq ▸ List.mem_cons_self)
    have hy' : y ≠ ".." := fun heq => h' (heq ▸ List.mem_cons_self)
    rw [removeDots, if_neg hy, if_neg hy', ih (fun hmem => h (List.mem_cons_of_mem _ hmem))
      (fun hmem => h' (List.mem_cons_of_mem _ hmem)), List.append_assoc]
    rfl

/-- Upper case, JSON and addresses for texts of ASCII. -/
def asciiProxyLibrary : ProxyLibrary where
  upper s := String.ofList (s.toList.map Char.toUpper)
  loads bytes := (decodeUtf8 bytes).bind (Json.loads id)
  normalizePath := removeDots []

lemma standard_asciiProxyLibrary : Standard asciiProxyLibrary where
  upper_get := by decide
  append xs ys h h' := by
    show removeDots [] (xs ++ ys) = removeDots [] xs ++ ys
    rw [removeDots_append, removeDots_of_notMem h h']
  dot xs ys _ := by
    show removeDots [] (xs ++ "." :: ys) = removeDots [] (xs ++ ys)
    rw [removeDots_append, removeDots_append, removeDots, if_pos rfl]

/-- A document root with a root of the document component. -/
def componentDocument (rootId : String) : String × Json :=
  ("docs", .obj [("adapter", .str "onedrive"), ("credential", .null), ("d8a_root_id", .str rootId),
    ("drive_id", .str "drive"), ("owner_project_id", .str "system"), ("root", .str "/docs")])

/-- The project `system` with such a root. -/
def componentManifest (rootId : String) : ProjectManifest :=
  ProjectManifestStore.exampleManifest "system"
    [ProjectManifestStore.systemCredential "bot", ProjectManifestStore.systemCredential "connector"]
    [componentDocument rootId]
    [⟨"ado-project", "https://dev.azure.com/acme|system", "system", none⟩,
      ⟨"credential", "system|azure|secret://bot", "system", some "grant://bot"⟩,
      ⟨"credential", "system|azure|secret://connector", "system", some "grant://connector"⟩,
      ⟨"document-root", "onedrive|drive|/docs", "system", none⟩,
      ⟨"repository", "https://git.test/system.git", "system", none⟩,
      ⟨"teams-bot-identity", "tenant|system", "system", none⟩,
      ⟨"teams-channel", "tenant|team|system", "system", none⟩]

lemma normalize_plainRoot : ProjectManifest.normalizeProjectManifest
    ProjectManifestStore.asciiLibrary (componentManifest "alpha").snapshot =
      .ok (componentManifest "alpha") :=
  ProjectManifestStore.normalize_example (by decide +kernel)

lemma normalize_markedRoot : ProjectManifest.normalizeProjectManifest
    ProjectManifestStore.asciiLibrary (componentManifest "alpha!").snapshot =
      .ok (componentManifest "alpha!") :=
  ProjectManifestStore.normalize_example (by decide +kernel)

lemma projectRoots_component (rootId : String) :
    projectRoots (componentManifest rootId) = [rootId] := rfl

def documentService : D8AService := ⟨[""], "acme", none⟩

/-- A request for the children of a node. -/
def childrenRequest (nodeId rootId : String) : ProxyRequest where
  projectId := "system"
  method := "GET"
  path := "nodes/" ++ nodeId ++ "/children"
  query := [("rootId", rootId)]
  content := []
  contentType := none
  principal := ⟨"ana", ["system"], ["read"]⟩
  requestId := "r1"
  query_nodup := List.nodup_singleton _

lemma target_children :
    target ("nodes/" ++ "a" ++ "/children") (asciiProxyLibrary.upper "GET") =
      .ok (.node "a" "children") := by decide

lemma target_childrenRequest (rootId : String) :
    target (childrenRequest "a" rootId).path
      (asciiProxyLibrary.upper (childrenRequest "a" rootId).method) = .ok (.node "a" "children") :=
  target_children

end D8AProxy

open D8AProxy in
theorem d8a_proxy_contained_children :
    Contained asciiProxyLibrary documentService (componentManifest "alpha") (fun _ => none) id
        (childrenRequest "a" "alpha") ∧
      RootsUsable asciiProxyLibrary documentService (componentManifest "alpha") fun _ => none := by
  refine (d8a_proxy_contained asciiProxyLibrary standard_asciiProxyLibrary documentService
    ProjectManifestStore.asciiLibrary _ _ normalize_plainRoot (fun _ => none) id
    (childrenRequest "a" "alpha")).2 ⟨fun nodeId action htarget _ _ _ => ⟨?_, by decide⟩, ?_⟩
  · rw [target_childrenRequest] at htarget
    obtain ⟨rfl, -⟩ := ProxyTarget.node.inj (Except.ok.inj htarget)
    decide
  · rw [projectRoots_component]
    decide

open D8AProxy in
/-- A root of the manifest that the proxy refuses. -/
theorem d8a_proxy_not_contained :
    ¬ ∀ (lib : ProxyLibrary), Standard lib → ∀ (service : D8AService) (text : TextLibrary)
      (value : Json) (m : ProjectManifest),
      ProjectManifest.normalizeProjectManifest text value = .ok m →
        ∀ (send : UpstreamRequest → Option UpstreamResponse) (replaced : String → String)
          (r : ProxyRequest),
          Contained lib service m send replaced r ∧ RootsUsable lib service m send := by
  intro hclaim
  obtain ⟨-, husable⟩ := hclaim asciiProxyLibrary standard_asciiProxyLibrary documentService
    ProjectManifestStore.asciiLibrary _ _ normalize_markedRoot (fun _ => none) id
    (childrenRequest "a" "alpha!")
  have htarget := target_childrenRequest "alpha!"
  have hsent := husable "alpha!" List.mem_cons_self _ "a" "children" htarget rfl (Nat.zero_le _)
  obtain ⟨sent, hsent⟩ := Option.ne_none_iff_exists'.1 hsent
  obtain ⟨t, ht, hroot, -⟩ := forward_sent.1 hsent
  rw [htarget] at ht
  exact absurd (hroot "a" "children" (Except.ok.inj ht).symm).1 (by decide)

/-! ## What is never sent and never passed on -/

namespace D8AProxy

/-- The headers that a request can have. -/
def requestHeaders : List String :=
  ["accept", "x-ms-client-principal", "x-agentic-mesh-project-id", "x-correlation-id",
    "x-d8-tenant-slug", "x-d8-tenant-id", "content-type"]

/-- The headers that an answer can have. -/
def answerHeaders : List String :=
  ["content-type", "content-disposition", "etag", "last-modified", "content-length",
    "cache-control"]

/-- What the proxy checks and hides, whatever the libraries and the service do. -/
structure Screened (lib : ProxyLibrary) (service : D8AService) (manifest : Option ProjectManifest)
    (send : UpstreamRequest → Option UpstreamResponse) (r : ProxyRequest) : Prop where
  refused : (forward lib service manifest send r).2 = none →
    ∃ e, (forward lib service manifest send r).1 = .error e
  sent : ∀ sent, (forward lib service manifest send r).2 = some sent →
    ∃ m t, manifest = some m ∧ target r.path (lib.upper r.method) = .ok t ∧
      (∀ nodeId action, t = .node nodeId action → strip (rawRoot r) ∈ projectRoots m) ∧
      sent.content = r.content ∧ r.content.length ≤ maxJsonBytes
  headers : ∀ sent, (forward lib service manifest send r).2 = some sent →
    (∀ h ∈ sent.headers, h.1 ∈ requestHeaders) ∧
      ("x-ms-client-principal", principalHeader r.principal) ∈ sent.headers ∧
      ("x-agentic-mesh-project-id", r.projectId) ∈ sent.headers
  answered : ∀ result, (forward lib service manifest send r).1 = .ok result →
    ∃ sent response, (forward lib service manifest send r).2 = some sent ∧
      send sent = some response ∧ result.statusCode = response.statusCode ∧
      ¬ (300 ≤ result.statusCode ∧ result.statusCode < 400) ∧
      (∀ h ∈ result.headers, h.1 ∈ answerHeaders) ∧ ("cache-control", "no-store") ∈ result.headers ∧
      ∀ bytes, result.content = .bytes bytes → response.content.length ≤ maxJsonBytes ∧
        (bytes = response.content ∨ target r.path (lib.upper r.method) = .ok .roots)

section Screen

variable {lib : ProxyLibrary} {service : D8AService} {manifest : Option ProjectManifest}
  {r : ProxyRequest} {t : ProxyTarget} {sent : UpstreamRequest} {response : UpstreamResponse}

lemma mem_requestHeaders {h : String × String} (hmem : h ∈ upstreamHeaders service r t) :
    h.1 ∈ requestHeaders := by
  rw [upstreamHeaders, List.mem_append, List.mem_append] at hmem
  rcases hmem with (hfixed | htenant) | htype
  · simp only [List.mem_cons, List.not_mem_nil, or_false] at hfixed
    rcases hfixed with rfl | rfl | rfl | rfl | rfl <;> simp [requestHeaders]
  · obtain ⟨id, -, rfl⟩ := Option.map_eq_some_iff.1 (Option.mem_toList.1 htenant)
    simp [requestHeaders]
  · obtain ⟨type, -, rfl⟩ := Option.map_eq_some_iff.1 (Option.mem_toList.1 htype)
    simp [requestHeaders]

lemma mem_answerHeaders {includeLength : Bool} {h : String × String}
    (hmem : h ∈ safeResponseHeaders response includeLength) : h.1 ∈ answerHeaders := by
  rw [safeResponseHeaders, List.mem_append] at hmem
  rcases hmem with hpassed | hcache
  · obtain ⟨name, hname, hvalue⟩ := List.mem_filterMap.1 hpassed
    obtain ⟨value, -, rfl⟩ := Option.map_eq_some_iff.1 hvalue
    cases includeLength with
    | true => simpa [answerHeaders, or_assoc] using Or.inl hname
    | false =>
      rw [if_neg Bool.false_ne_true, List.append_nil] at hname
      simp only [List.mem_cons, List.not_mem_nil, or_false] at hname
      rcases hname with rfl | rfl | rfl | rfl <;> simp [answerHeaders]
  · obtain rfl := List.mem_singleton.1 hcache
    simp [answerHeaders]

lemma noStore_mem (response : UpstreamResponse) (includeLength : Bool) :
    ("cache-control", "no-store") ∈ safeResponseHeaders response includeLength :=
  List.mem_append_right _ List.mem_cons_self

/-- What a request was checked for before it is sent. -/
lemma prepare_ok (h : prepare lib service manifest r = .ok (t, sent)) :
    ∃ m, manifest = some m ∧ target r.path (lib.upper r.method) = .ok t ∧
      (t ≠ .roots → strip (rawRoot r) ∈ projectRoots m) ∧ r.content.length ≤ maxJsonBytes ∧
      sent.headers = upstreamHeaders service r t ∧ sent.content = r.content := by
  simp only [prepare, checkRoot, Check.bind_ok, Check.found_ok, Check.that_ok, Check.pure_ok,
    Prod.mk.injEq] at h
  obtain ⟨t', htarget, m, hm, _, ⟨_, -, hmem⟩, _, hsize, rfl, rfl⟩ := h
  exact ⟨m, hm, htarget, hmem, hsize, rfl, rfl⟩

/-- What an answer is made of. -/
lemma answer_ok {roots : List String} {result : D8AProxyResult}
    (h : answer lib roots t response = .ok result) :
    result.statusCode = response.statusCode ∧
      ¬ (300 ≤ response.statusCode ∧ response.statusCode < 400) ∧
      (∃ includeLength, result.headers = safeResponseHeaders response includeLength) ∧
      ∀ bytes, result.content = .bytes bytes → response.content.length ≤ maxJsonBytes ∧
        (bytes = response.content ∨ t = .roots) := by
  rw [answer] at h
  split at h
  · cases h
  · next hredirect =>
    split at h
    · obtain rfl := Except.ok.inj h
      exact ⟨rfl, hredirect, ⟨true, rfl⟩, fun bytes hbytes => by cases hbytes⟩
    · simp only [Check.bind_ok, Check.that_ok, Check.pure_ok] at h
      obtain ⟨_, hsize, payload, hpayload, rfl⟩ := h
      refine ⟨rfl, hredirect, ⟨false, rfl⟩, fun bytes hbytes => ⟨hsize, ?_⟩⟩
      obtain rfl := ProxyContent.bytes.inj hbytes
      rw [passedOn] at hpayload
      split at hpayload
      · next hroots => exact Or.inr hroots.1
      · exact Or.inl (Except.ok.inj hpayload).symm

end Screen

end D8AProxy

end AgenticMesh
