import AgenticMesh.Base.Base64
import AgenticMesh.Base.JsonText
import AgenticMesh.Base.UrlQuery
import AgenticMesh.Documents.Addressing
import Mathlib.Algebra.GroupWithZero.Nat

/-!
# Cursors of folder listings

A folder is listed page by page.  The cursor of the next page is the path of the folder with the
skip token of the link that Graph returns, as JSON in Base64.  The next call reads the token from
the cursor, when the path is the same.
-/

namespace AgenticMesh

/-- The functions of Python's standard library that paging links and cursors are read with. -/
structure LinkLibrary where
  /-- `urlsplit`, `none` when it raises. -/
  urlsplit : String → Option SplitResult
  /-- The text of a percent encoding whose bytes are no UTF-8. -/
  replaced : String → String
  /-- The text of a number with a fraction or an exponent. -/
  float : String → String
  /-- The text of bytes in UTF-16 or UTF-32. -/
  wideText : List UInt8 → Option (List Char)

/-- The exceptions of a paging link. -/
inductive PagingError where
  /-- `ValueError`, of `urlsplit`. -/
  | value
  /-- `DocumentInvalidResponse`. -/
  | invalidResponse (message : String)
deriving DecidableEq

namespace OneDriveDocumentStore

variable (lib : LinkLibrary)

/-! ## Cursors -/

/-- `_encode_cursor`. -/
def encodeCursor (path token : String) : String :=
  let value := Json.ascii (Json.dumps (.obj [("path", .str path), ("skip_token", .str token)]))
  String.ofList (Base64.unpadded (encodeUtf8 value.toList))

/-- The text of JSON in bytes, in the encoding that `json.loads` detects. -/
def jsonText : List UInt8 → Option (List Char)
  | 0xEF :: 0xBB :: 0xBF :: bytes => decodeUtf8 bytes
  | a :: b :: bytes =>
    if (a = 0xFE ∧ b = 0xFF) ∨ (a = 0xFF ∧ b = 0xFE) ∨
        ((a = 0 ∨ b = 0) ∧ (bytes.length = 0 ∨ 2 ≤ bytes.length)) then
      lib.wideText (a :: b :: bytes)
    else decodeUtf8 (a :: b :: bytes)
  | bytes => decodeUtf8 bytes

/-- A skip token. -/
def IsToken (token : String) : Prop :=
  token ≠ "" ∧ token.toList.length ≤ 4096 ∧ token.toList.all (fun c => 32 ≤ c.toNat) = true

instance (token : String) : Decidable (IsToken token) := inferInstanceAs (Decidable (_ ∧ _))

/-- `_decode_cursor`. -/
def decodeCursor (value expectedPath : String) : Opened String := do
  let invalid := DocumentError.value "document cursor is invalid"
  Check.that (value ≠ "" ∧ value.toList.length ≤ 8192) invalid
  let bytes ← Check.found
    (Base64.decode (value.toList ++ Base64.padding value.toList.length)) invalid
  let payload ← Check.found ((jsonText lib bytes).bind (Json.loads lib.float)) invalid
  let fields ← Check.found payload.asObject invalid
  Check.that (fields.map Prod.fst = ["path", "skip_token"]) invalid
  Check.that (payload.get? "path" = some (.str expectedPath))
    (.value "document cursor does not match the requested path")
  Check.found (((payload.get? "skip_token").bind Json.asString).filter fun s => IsToken s) invalid

/-- `_next_cursor`, up to the encoding: the skip token of a paging link. -/
def nextToken (u : OneDriveDocumentStore) (link : Json) : Except PagingError (Option String) :=
  match link with
  | .null => .ok none
  | link => do
    let link ← Check.found (link.asString.filter fun s => s.toList.length ≤ 8192)
      (.invalidResponse "Graph paging link is invalid")
    let parsed ← Check.found (lib.urlsplit link) .value
    Check.that (parsed.scheme = "https" ∧ parsed.hostname = some "graph.microsoft.com" ∧
      ("/v1.0/drives/" ++ quote [] u.driveId ++ "/").toList <+: parsed.path.toList ∧
      parsed.username = none ∧ parsed.password = none)
      (.invalidResponse "Graph paging link escaped the configured drive")
    match queryValues lib.replaced parsed.query "$skiptoken" with
    | [token] => do
      Check.that (IsToken token) (.invalidResponse "Graph paging token is invalid")
      return some token
    | _ => .error (.invalidResponse "Graph paging link has no single skip token")

/-- `_next_cursor`. -/
def nextCursor (u : OneDriveDocumentStore) (link : Json) (relative : String) :
    Except PagingError (Option String) := do
  let token ← nextToken lib u link
  return token.map (encodeCursor relative)

/-- The fields of the query of `list`. -/
def listQuery (pageSize : ℤ) (skipTokens : List String) : List (String × String) :=
  [("$select", "id,name,size,eTag,createdDateTime,lastModifiedDateTime,file,folder"),
    ("$top", decimal pageSize.toNat)] ++ skipTokens.map fun token => ("$skiptoken", token)

/-- The skip token of a cursor; there is none without a cursor. -/
def skipTokens (cursor : Option String) (relative : String) : Opened (List String) :=
  match cursor with
  | none => .ok []
  | some cursor => do
    let token ← decodeCursor lib cursor relative
    return [token]

/-- `list`, up to the request: its address. -/
def listRequest (u : OneDriveDocumentStore) (path : String) (cursor : Option String)
    (pageSize : ℤ) : Opened String := do
  let relative ← relativePath path true
  Check.that (1 ≤ pageSize ∧ pageSize ≤ 200) (.value "page_size must be between 1 and 200")
  let tokens ← skipTokens lib cursor relative
  return u.childrenUrl relative ++ "?" ++ urlencode (listQuery pageSize tokens)

/-! ## What is requested -/

/-- The skip tokens of a paging link. -/
def linkTokens (link : Json) : List String :=
  match link.asString.bind lib.urlsplit with
  | some parsed => queryValues lib.replaced parsed.query "$skiptoken"
  | none => []

/-- The skip tokens in the query of a requested address. -/
def requestedTokens (url : String) : List String :=
  queryValues lib.replaced (String.ofList ((url.toList.dropWhile (· ≠ '?')).drop 1)) "$skiptoken"

/-- A link that a cursor was produced from. -/
structure PagingLink extends OpenPath where
  link : Json
  cursor : String
  produced : nextCursor lib store link relative = .ok (some cursor)

/-- How many characters `json.dumps` writes for a text. -/
def dumpedLength (s : String) : ℕ := (s.toList.map Json.width).sum

variable {lib}

/-- The cursor leads to the page of the link, on the path of the folder only. -/
structure PagingLink.RoundTrips (p : PagingLink lib) : Prop where
  accepted : ∀ pageSize, 1 ≤ pageSize → pageSize ≤ 200 → ∃ query,
    listRequest lib p.store p.relative (some p.cursor) pageSize =
      .ok (p.store.childrenUrl p.relative ++ "?" ++ query) ∧
    requestedTokens lib (p.store.childrenUrl p.relative ++ "?" ++ query) = linkTokens lib p.link
  rejected : ∀ other pageSize, other ≠ p.relative →
    ¬ ∃ url, listRequest lib p.store other (some p.cursor) pageSize = .ok url

/-- The path and the tokens of a link leave room for a cursor of 8192 characters. -/
def Room (relative : String) (tokens : List String) : Prop :=
  dumpedLength relative + (tokens.map dumpedLength).sum ≤ 6117

/-! ## Whole folders -/

/-- The skip tokens that are requested by the calls for all pages of a folder, where `answer` is
the paging link of the page that Graph returns for some skip tokens; `none` when a call raises. -/
def listFolder (lib : LinkLibrary) (p : OpenPath) (pageSize : ℤ) (answer : List String → Json) :
    ℕ → Option String → Option (List (List String))
  | 0, _ => none
  | n + 1, cursor =>
    match listRequest lib p.store p.relative cursor pageSize with
    | .error _ => none
    | .ok url =>
      match nextCursor lib p.store (answer (requestedTokens lib url)) p.relative with
      | .error _ => none
      | .ok none => some [requestedTokens lib url]
      | .ok (some cursor) =>
        (listFolder lib p pageSize answer n (some cursor)).map (requestedTokens lib url :: ·)

/-- The pages of a folder as Graph links them: the skip tokens of each page, up to the last one. -/
inductive Pages (lib : LinkLibrary) (p : OpenPath) (answer : List String → Json) :
    List String → List (List String) → Prop
  | last {tokens : List String}
    (h : nextCursor lib p.store (answer tokens) p.relative = .ok none) :
    Pages lib p answer tokens [tokens]
  | next {tokens : List String} {cursor : String} {pages : List (List String)}
    (h : nextCursor lib p.store (answer tokens) p.relative = .ok (some cursor))
    (hpages : Pages lib p answer (linkTokens lib (answer tokens)) pages) :
    Pages lib p answer tokens (tokens :: pages)

/-- A folder whose pages have valid links. -/
structure Folder (lib : LinkLibrary) extends OpenPath where
  pageSize : ℤ
  bounds : 1 ≤ pageSize ∧ pageSize ≤ 200
  answer : List String → Json
  pages : List (List String)
  linked : Pages lib toOpenPath answer [] pages

/-- The folder is listed to its last page. -/
def Folder.Listed (f : Folder lib) : Prop :=
  ∃ n, listFolder lib f.toOpenPath f.pageSize f.answer n none = some f.pages

/-! ## Round trip of cursors -/

/-- The payload of a cursor. -/
def cursorFields (path token : String) : List (String × String) :=
  [("path", path), ("skip_token", token)]

/-- The text of a cursor's payload. -/
def cursorText (path token : String) : List Char :=
  (Json.ascii (Json.dumps (.obj (Json.texts (cursorFields path token))))).toList

lemma encodeCursor_eq (path token : String) :
    (encodeCursor path token).toList = Base64.unpadded (encodeUtf8 (cursorText path token)) :=
  String.toList_ofList

lemma length_cursorText (path token : String) :
    (cursorText path token).length = 27 + dumpedLength path + dumpedLength token := by
  have hpath : (Json.stringText "path").length = 6 := by decide
  have htoken : (Json.stringText "skip_token").length = 12 := by decide
  rw [cursorText, Json.toList_ascii_dumps, cursorFields, Json.fieldsText, Json.fieldsText]
  simp only [List.length_cons, List.length_append, List.length_nil, hpath, htoken,
    Json.length_stringText, dumpedLength]
  omega

/-- The length of a cursor. -/
lemma length_encodeCursor (path token : String) :
    (encodeCursor path token).toList.length =
      (4 * (27 + dumpedLength path + dumpedLength token) + 2) / 3 := by
  have hascii : ∀ c ∈ cursorText path token, c.toNat < 128 := fun c hc =>
    Json.lt_of_mem_ascii hc
  rw [encodeCursor_eq, (Base64.unpadded_spec _).1, length_encodeUtf8 hascii, length_cursorText]

lemma jsonText_object (bytes : List UInt8) :
    jsonText lib (0x7B :: 0x22 :: bytes) = decodeUtf8 (0x7B :: 0x22 :: bytes) := by
  rw [jsonText]
  · exact if_neg (by simp)
  · intro bytes' h
    exact absurd h (by decide)

/-- The payload is read as JSON. -/
lemma loads_cursor (path token : String) :
    (jsonText lib (encodeUtf8 (cursorText path token))).bind (Json.loads lib.float) =
      some (.obj (Json.texts (cursorFields path token))) := by
  have hstart : ∃ cs, cursorText path token = '\x7b' :: '"' :: cs := by
    rw [cursorText, Json.toList_ascii_dumps]
    exact ⟨_, rfl⟩
  have htext :
      jsonText lib (encodeUtf8 (cursorText path token)) = some (cursorText path token) := by
    obtain ⟨cs, hcs⟩ := hstart
    have hutf8 : encodeUtf8 (cursorText path token) = 0x7B :: 0x22 :: encodeUtf8 cs := by
      rw [hcs]
      rfl
    rw [← decodeUtf8_encodeUtf8, hutf8]
    exact jsonText_object _
  have horder : Json.InKeyOrder (Json.texts (cursorFields path token)) := by
    refine List.pairwise_pair.2 ?_
    show "path" < "skip_token"
    decide
  have hne : cursorFields path token ≠ [] := List.cons_ne_nil _ _
  rw [htext, Option.bind_some, cursorText, Json.loads_dumps hne horder]

/-- **Round trip.** A cursor of some token is accepted on its path, when it is not too long. -/
theorem decodeCursor_encodeCursor {path token expected t : String} (htoken : IsToken token) :
    decodeCursor lib (encodeCursor path token) expected = .ok t ↔
      dumpedLength path + dumpedLength token ≤ 6117 ∧ path = expected ∧ token = t := by
  have hlength := length_encodeCursor path token
  have hbytes : Base64.decode ((encodeCursor path token).toList ++
      Base64.padding (encodeCursor path token).toList.length) =
      some (encodeUtf8 (cursorText path token)) := by
    rw [encodeCursor_eq, (Base64.unpadded_spec _).2, Base64.decode_encode]
  have hne : encodeCursor path token ≠ "" := by
    intro hempty
    rw [hempty, String.toList_empty, List.length_nil] at hlength
    omega
  have hobject : (Json.obj (Json.texts (cursorFields path token))).asObject =
      some (Json.texts (cursorFields path token)) := rfl
  have hnames : (Json.texts (cursorFields path token)).map Prod.fst =
      ["path", "skip_token"] := rfl
  have hpath : (Json.obj (Json.texts (cursorFields path token))).get? "path" =
      some (.str path) := rfl
  have hskip : ((Json.obj (Json.texts (cursorFields path token))).get? "skip_token").bind
      Json.asString = some token := rfl
  simp only [decodeCursor, Check.bind_ok, Check.that_ok, Check.found_ok, hbytes, loads_cursor,
    Option.some.injEq, exists_eq_left', hobject, hnames, hpath, hskip, Json.str.injEq,
    Option.filter_eq_some_iff]
  constructor
  · rintro ⟨-, ⟨-, hle⟩, -, -, -, rfl, rfl, -⟩
    exact ⟨by omega, rfl, rfl⟩
  · rintro ⟨hle, rfl, rfl⟩
    exact ⟨(), ⟨hne, by omega⟩, (), trivial, (), rfl, rfl, decide_eq_true htoken⟩

/-! ## Links -/

/-- A cursor is produced for the only skip token of a link. -/
lemma nextCursor_ok {u : OneDriveDocumentStore} {link : Json} {relative cursor : String}
    (h : nextCursor lib u link relative = .ok (some cursor)) :
    ∃ token, IsToken token ∧ linkTokens lib link = [token] ∧
      cursor = encodeCursor relative token := by
  simp only [nextCursor, Check.bind_ok, Check.pure_ok, Option.map_eq_some_iff] at h
  obtain ⟨_, hnext, token, rfl, rfl⟩ := h
  refine ⟨token, ?_⟩
  unfold nextToken at hnext
  split at hnext
  · simp at hnext
  · simp only [Check.bind_ok, Check.found_ok, Check.that_ok, Option.filter_eq_some_iff] at hnext
    obtain ⟨link', ⟨htext, -⟩, parsed, hsplit, -, -, hnext⟩ := hnext
    split at hnext
    · next token' htokens =>
      simp only [Check.bind_ok, Check.that_ok, Check.pure_ok, Option.some.injEq] at hnext
      obtain ⟨-, htoken, rfl⟩ := hnext
      refine ⟨htoken, ?_, rfl⟩
      rw [linkTokens, htext, Option.bind_some, hsplit]
      exact htokens
    · exact absurd hnext (by simp)

/-! ## Requests -/

lemma query_not_mem_childrenUrl (p : OpenPath) :
    '?' ∉ (p.store.childrenUrl p.relative).toList := by
  obtain ⟨x, hx, hjoin, -⟩ := p.exists_joined
  have hdrives : '?' ∉ drivesUrl.toList := by decide
  have hitem : '?' ∉ (p.store.itemUrl p.relative).toList := by
    rw [itemUrl_eq hx hjoin, baseUrl]
    simp only [String.toList_append, List.mem_append, not_or]
    exact ⟨⟨hdrives, query_not_mem_quote List.not_mem_nil _⟩, query_not_mem_itemPart x⟩
  unfold childrenUrl
  dsimp only
  split
  · rw [String.toList_append, List.mem_append, not_or]
    exact ⟨hitem, by decide⟩
  · rw [String.toList_append, List.mem_append, not_or]
    exact ⟨hitem, by decide⟩

/-- The skip tokens of a request are those of its query. -/
lemma requestedTokens_append (p : OpenPath) (query : List (String × String))
    (h : ∀ field ∈ query, field.2 ≠ "") :
    requestedTokens lib (p.store.childrenUrl p.relative ++ "?" ++ urlencode query) =
      query.filterMap fun field => if field.1 = "$skiptoken" then some field.2 else none := by
  have hplain : ∀ c ∈ (p.store.childrenUrl p.relative).toList, decide (c ≠ '?') = true :=
    fun c hc => decide_eq_true fun heq => query_not_mem_childrenUrl p (heq ▸ hc)
  have htext : (p.store.childrenUrl p.relative ++ "?" ++ urlencode query).toList =
      (p.store.childrenUrl p.relative).toList ++ '?' :: (urlencode query).toList := by simp
  rw [requestedTokens, htext, List.dropWhile_append_of_pos hplain,
    List.dropWhile_cons_of_neg (by simp), List.drop_one, List.tail_cons, String.ofList_toList,
    queryValues, parseQsl_urlencode h]

lemma requestedTokens_listQuery (p : OpenPath) (pageSize : ℤ) {tokens : List String}
    (h : ∀ token ∈ tokens, token ≠ "") :
    requestedTokens lib (p.store.childrenUrl p.relative ++ "?" ++
      urlencode (listQuery pageSize tokens)) = tokens := by
  have hdecimal : decimal pageSize.toNat ≠ "" := fun hempty =>
    Nat.toDigits_ne_nil (b := 10) (n := pageSize.toNat) <| by
      rw [← toList_decimal, hempty, String.toList_empty]
  have hvalues : ∀ field ∈ listQuery pageSize tokens, field.2 ≠ "" := by
    intro field hfield
    rw [listQuery, List.mem_append, List.mem_pair, List.mem_map] at hfield
    rcases hfield with (rfl | rfl) | ⟨token, htoken, rfl⟩
    · show "id,name,size,eTag,createdDateTime,lastModifiedDateTime,file,folder" ≠ ""
      decide
    · exact hdecimal
    · exact h token htoken
  rw [requestedTokens_append p _ hvalues, listQuery, List.filterMap_append, List.filterMap_map]
  show [] ++ tokens.filterMap some = tokens
  rw [List.filterMap_some, List.nil_append]

/-- What a call requests. -/
lemma listRequest_ok {u : OneDriveDocumentStore} {path url : String} {cursor : Option String}
    {pageSize : ℤ} : listRequest lib u path cursor pageSize = .ok url ↔
      relativePath path true = .ok path ∧ (1 ≤ pageSize ∧ pageSize ≤ 200) ∧
        ∃ tokens, skipTokens lib cursor path = .ok tokens ∧
          u.childrenUrl path ++ "?" ++ urlencode (listQuery pageSize tokens) = url := by
  simp only [listRequest, Check.bind_ok, Check.that_ok, Check.pure_ok]
  constructor
  · rintro ⟨relative, hrelative, -, hsize, tokens, htokens, rfl⟩
    obtain rfl := relativePath_ok hrelative
    exact ⟨hrelative, hsize, tokens, htokens, rfl⟩
  · rintro ⟨hrelative, hsize, tokens, htokens, hurl⟩
    exact ⟨path, hrelative, (), hsize, tokens, htokens, hurl⟩

lemma skipTokens_some {cursor relative : String} {tokens : List String} :
    skipTokens lib (some cursor) relative = .ok tokens ↔
      ∃ token, decodeCursor lib cursor relative = .ok token ∧ [token] = tokens := by
  simp only [skipTokens, Check.bind_ok, Check.pure_ok]

/-- **A produced cursor is accepted** on its path when it is short enough, and then it leads to the
page of the link; on other paths it never is. -/
theorem skipTokens_of_produced {u : OneDriveDocumentStore} {link : Json}
    {relative cursor other : String} {tokens : List String}
    (h : nextCursor lib u link relative = .ok (some cursor)) :
    skipTokens lib (some cursor) other = .ok tokens ↔
      Room relative (linkTokens lib link) ∧ relative = other ∧ linkTokens lib link = tokens := by
  obtain ⟨token, htoken, hlink, rfl⟩ := nextCursor_ok h
  rw [skipTokens_some, hlink, Room, List.map_singleton, List.sum_singleton]
  simp only [decodeCursor_encodeCursor htoken]
  constructor
  · rintro ⟨t, ⟨hroom, hpath, rfl⟩, htokens⟩
    exact ⟨hroom, hpath, htokens⟩
  · rintro ⟨hroom, hpath, htokens⟩
    exact ⟨token, ⟨hroom, hpath, rfl⟩, htokens⟩

lemma linkTokens_ne_empty {u : OneDriveDocumentStore} {link : Json} {relative cursor : String}
    (h : nextCursor lib u link relative = .ok (some cursor)) :
    ∀ token ∈ linkTokens lib link, token ≠ "" := by
  obtain ⟨token, htoken, hlink, -⟩ := nextCursor_ok h
  rw [hlink]
  intro t ht
  rw [List.mem_singleton.1 ht]
  exact htoken.1

lemma PagingLink.roundTrips_iff (p : PagingLink lib) :
    p.RoundTrips ↔ Room p.relative (linkTokens lib p.link) := by
  have htokens := linkTokens_ne_empty p.produced
  constructor
  · intro h
    obtain ⟨query, hlist, -⟩ := h.accepted 200 (by decide) (by decide)
    obtain ⟨-, -, tokens, hskip, -⟩ := listRequest_ok.1 hlist
    exact ((skipTokens_of_produced p.produced).1 hskip).1
  · intro hroom
    constructor
    · intro pageSize hlow hhigh
      have hskip : skipTokens lib (some p.cursor) p.relative = .ok (linkTokens lib p.link) :=
        (skipTokens_of_produced p.produced).2 ⟨hroom, rfl, rfl⟩
      exact ⟨urlencode (listQuery pageSize (linkTokens lib p.link)),
        listRequest_ok.2 ⟨p.accepted, ⟨hlow, hhigh⟩, _, hskip, rfl⟩,
        requestedTokens_listQuery p.toOpenPath pageSize htokens⟩
    · rintro other pageSize hne ⟨url, hlist⟩
      obtain ⟨-, -, tokens, hskip, -⟩ := listRequest_ok.1 hlist
      exact hne ((skipTokens_of_produced p.produced).1 hskip).2.1.symm

/-! ## Whole folders are listed -/

/-- One call that requests the page of some tokens. -/
lemma listFolder_succ {p : OpenPath} {pageSize : ℤ} {answer : List String → Json}
    {cursor : Option String} {tokens : List String} (hsize : 1 ≤ pageSize ∧ pageSize ≤ 200)
    (hskip : skipTokens lib cursor p.relative = .ok tokens)
    (htokens : ∀ token ∈ tokens, token ≠ "") (n : ℕ) :
    listFolder lib p pageSize answer (n + 1) cursor =
      match nextCursor lib p.store (answer tokens) p.relative with
      | .error _ => none
      | .ok none => some [tokens]
      | .ok (some cursor) =>
        (listFolder lib p pageSize answer n (some cursor)).map (tokens :: ·) := by
  have hrequest : listRequest lib p.store p.relative cursor pageSize =
      .ok (p.store.childrenUrl p.relative ++ "?" ++ urlencode (listQuery pageSize tokens)) :=
    listRequest_ok.2 ⟨p.accepted, hsize, tokens, hskip, rfl⟩
  rw [listFolder, hrequest]
  simp only [requestedTokens_listQuery p pageSize htokens]

/-- From a page on, the folder is listed when the tokens of the pages after it leave room. -/
lemma listFolder_pages {p : OpenPath} {pageSize : ℤ} {answer : List String → Json}
    {tokens : List String} {pages : List (List String)}
    (hsize : 1 ≤ pageSize ∧ pageSize ≤ 200) (h : Pages lib p answer tokens pages) :
    ∀ cursor, skipTokens lib cursor p.relative = .ok tokens → (∀ token ∈ tokens, token ≠ "") →
      ((∃ n, listFolder lib p pageSize answer n cursor = some pages) ↔
        ∀ tokens' ∈ pages.tail, Room p.relative tokens') := by
  induction h with
  | last h =>
    intro cursor hskip htokens
    refine iff_of_true ⟨1, ?_⟩ nofun
    rw [listFolder_succ hsize hskip htokens, h]
  | @next tokens cursor' pages h hpages ih =>
    intro cursor hskip htokens
    obtain ⟨rest, hrest⟩ : ∃ rest, pages = linkTokens lib (answer tokens) :: rest := by
      cases hpages with
      | last h => exact ⟨_, rfl⟩
      | next h hpages => exact ⟨_, rfl⟩
    have hsucc : ∀ n, listFolder lib p pageSize answer (n + 1) cursor =
        (listFolder lib p pageSize answer n (some cursor')).map (tokens :: ·) := fun n => by
      rw [listFolder_succ hsize hskip htokens, h]
    have hproduced : ∀ {tokens'}, skipTokens lib (some cursor') p.relative = .ok tokens' ↔ _ :=
      skipTokens_of_produced h
    rw [List.tail_cons, hrest, List.forall_mem_cons]
    constructor
    · rintro ⟨n, hn⟩
      obtain ⟨n, rfl⟩ : ∃ m, n = m + 1 := by
        cases n with
        | zero => exact absurd hn nofun
        | succ m => exact ⟨m, rfl⟩
      rw [hsucc] at hn
      obtain ⟨pages', hlist, hcons⟩ := Option.map_eq_some_iff.1 hn
      obtain rfl := (List.cons.inj hcons).2
      have hroom : Room p.relative (linkTokens lib (answer tokens)) := by
        cases n with
        | zero => exact absurd hlist nofun
        | succ n =>
          cases hrequest : listRequest lib p.store p.relative (some cursor') pageSize with
          | error e =>
            rw [listFolder, hrequest] at hlist
            exact absurd hlist nofun
          | ok url =>
            obtain ⟨-, -, tokens', hskip', -⟩ := listRequest_ok.1 hrequest
            exact (hproduced.1 hskip').1
      refine ⟨hroom, ?_⟩
      have htail := (ih (some cursor') (hproduced.2 ⟨hroom, rfl, rfl⟩)
        (linkTokens_ne_empty h)).1 ⟨n, by rw [hrest, hlist]⟩
      rwa [hrest] at htail
    · rintro ⟨hroom, htail⟩
      have hlist := (ih (some cursor') (hproduced.2 ⟨hroom, rfl, rfl⟩)
        (linkTokens_ne_empty h)).2 (by rwa [hrest])
      obtain ⟨n, hn⟩ := hlist
      exact ⟨n + 1, by rw [hsucc, hn, hrest]; rfl⟩

lemma Folder.listed_iff (f : Folder lib) :
    f.Listed ↔ ∀ tokens ∈ f.pages.tail, Room f.relative tokens :=
  listFolder_pages f.bounds f.linked none rfl nofun

/-- The standard library, on `https` addresses without port, user and fragment. -/
def plainLibrary : LinkLibrary where
  urlsplit s := (removePrefix? s "https://").map fun rest =>
    { scheme := "https"
      hostname := some (String.ofList (rest.toList.takeWhile (· ≠ '/')))
      port := none
      username := none
      password := none
      path := String.ofList ((rest.toList.dropWhile (· ≠ '/')).takeWhile (· ≠ '?'))
      query := String.ofList ((rest.toList.dropWhile (· ≠ '?')).drop 1)
      fragment := "" }
  replaced := id
  float := id
  wideText _ := none

/-- A name of some characters outside of ASCII. -/
def longName (n : ℕ) : String := String.ofList (List.replicate n 'é')

lemma toList_longName (n : ℕ) : (longName n).toList = List.replicate n 'é' :=
  String.toList_ofList

lemma relativePath_longName {n : ℕ} (hpos : 2 < n) (hle : n ≤ 2048) :
    relativePath (longName n) true = .ok (longName n) := by
  have hnot : ∀ c, c ≠ 'é' → c ∉ (longName n).toList := fun c hne hc => by
    rw [toList_longName] at hc
    exact hne (List.mem_replicate.1 hc).2
  have hlength : (longName n).toList.length = n := by
    rw [toList_longName, List.length_replicate]
  refine relativePath_ok_iff.2 ⟨by omega, ?_, hnot (Char.ofNat 92) (by decide),
    hnot (Char.ofNat 0) (by decide), ?_, ?_⟩
  · rintro ⟨cs, hcs⟩
    exact hnot '/' (by decide) (hcs ▸ List.mem_cons_self)
  · intro c hc
    by_contra hlow
    exact hnot c (by rintro rfl; exact hlow (by decide)) hc
  · refine .inr fun part hpart => ?_
    rw [ProjectManifest.pathParts, List.splitOn_eq_singleton (hnot '/' (by decide)),
      List.map_singleton, List.mem_singleton, String.ofList_toList] at hpart
    have hshort : ∀ s ∈ ["", ".", ".."], s.toList.length ≤ 2 := by decide
    intro hmem
    have hle := hshort part hmem
    rw [hpart] at hle
    omega

lemma dumpedLength_longName (n : ℕ) : dumpedLength (longName n) = 6 * n := by
  have hwidth : Json.width 'é' = 6 := by decide
  rw [dumpedLength, toList_longName, List.map_replicate, hwidth, List.sum_replicate]
  exact Nat.mul_comm n 6

lemma opened_graph : ∃ driveId root provider reference, init driveId root provider reference =
    .ok ⟨"drive-1", "/", "graph", "secret://graph"⟩ :=
  ⟨.str "drive-1", .str "/", .str "graph", .str "secret://graph", by decide⟩

/-- A folder with a name of 1020 characters. -/
def longFolder : OpenPath where
  store := ⟨"drive-1", "/", "graph", "secret://graph"⟩
  relative := longName 1020
  opened := opened_graph
  accepted := relativePath_longName (by omega) (by omega)

/-- A link with the skip token `t`. -/
def shortLink : Json :=
  .str "https://graph.microsoft.com/v1.0/drives/drive-1/root/children?%24skiptoken=t"

lemma nextToken_shortLink :
    nextToken plainLibrary longFolder.store shortLink = .ok (some "t") := by
  decide

/-- The link on the page of the long folder. -/
def longLink : PagingLink plainLibrary where
  toOpenPath := longFolder
  link := shortLink
  cursor := encodeCursor (longName 1020) "t"
  produced := by
    rw [nextCursor, nextToken_shortLink]
    rfl

end OneDriveDocumentStore

end AgenticMesh
