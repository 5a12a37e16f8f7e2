import AgenticMesh.Base.PercentEncoding
import AgenticMesh.Manifest.Access

/-!
# Addresses of OneDrive items

The store addresses an item by its drive and its path: the root of the drive as `/root`, any
other item as `/root:/path`, and its children, its content and an upload session by a suffix
that follows the item, after another colon when the item was addressed by a path.
-/

namespace AgenticMesh

namespace OneDriveDocumentStore

/-! ## The addresses of the store -/

/-- `text.strip("/")`. -/
def stripSlashes (s : String) : String :=
  String.ofList ((s.toList.dropWhile (· == '/')).rdropWhile (· == '/'))

/-- The address of all drives. -/
def drivesUrl : String := "https://graph.microsoft.com/v1.0/drives/"

/-- `_base_url`. -/
def baseUrl (u : OneDriveDocumentStore) : String := drivesUrl ++ quote [] u.driveId

/-- `_item_url`. -/
def itemUrl (u : OneDriveDocumentStore) (relative : String) : String :=
  let full := joinRoot u.root relative
  if full = "/" then u.baseUrl ++ "/root"
  else u.baseUrl ++ "/root:/" ++ quote ['/'] (stripSlashes full)

/-- `_metadata_url`. -/
def metadataUrl (u : OneDriveDocumentStore) (relative : String) : String :=
  u.itemUrl relative ++
    "?$select=id,name,size,eTag,createdDateTime,lastModifiedDateTime,file,folder"

/-- `item.endswith("/root")`. -/
def EndsInRoot (item : String) : Prop := "/root".toList <:+ item.toList

instance (item : String) : Decidable (EndsInRoot item) := inferInstanceAs (Decidable (_ <:+ _))

/-- `_children_url`. -/
def childrenUrl (u : OneDriveDocumentStore) (relative : String) : String :=
  let item := u.itemUrl relative
  if EndsInRoot item then item ++ "/children" else item ++ ":/children"

/-- `_content_url`; `none` when it raises `DocumentConflict`. -/
def contentUrl (u : OneDriveDocumentStore) (relative : String) : Option String :=
  let item := u.itemUrl relative
  if EndsInRoot item then none else some (item ++ ":/content")

/-- `_create_session_url`. -/
def createSessionUrl (u : OneDriveDocumentStore) (relative : String) : String :=
  u.itemUrl relative ++ ":/createUploadSession"

/-! ## What Graph understands -/

/-- A request about an item, which is named by the names on the way to it. -/
inductive GraphRequest where
  | item (names : List String)
  | children (names : List String)
  | content (names : List String)
  | createUploadSession (names : List String)
deriving DecidableEq

/-- The names of an encoded path; dot segments and empty names are no names of items. -/
def decodePath (path : List Char) : Option (List String) :=
  ((path.splitOn '/').mapM fun name => unquote (String.ofList name)).filter fun names =>
    names.all (· ∉ ["", ".", ".."])

/-- The request of what follows `/root:/`: a path, and a suffix after a colon. -/
def pathRequest : List (List Char) → Option GraphRequest
  | [path] => (decodePath path).map .item
  | [path, suffix] =>
    if suffix = "/children".toList then (decodePath path).map .children
    else if suffix = "/content".toList then (decodePath path).map .content
    else if suffix = "/createUploadSession".toList then
      (decodePath path).map .createUploadSession
    else none
  | _ => none

/-- The request of an address below a drive. -/
def graphRequest (rest : List Char) : Option GraphRequest :=
  if rest = "/root".toList then some (.item [])
  else if rest = "/root/children".toList then some (.children [])
  else (rest.dropPrefix? "/root:/".toList).bind fun rest => pathRequest (rest.splitOn ':')

/-- The drive and the request of an address; a query is no part of it. -/
def graphAddress (url : String) : Option (String × GraphRequest) := do
  let rest ← removePrefix? url drivesUrl
  let address := rest.toList.takeWhile (· ≠ '?')
  let drive ← unquote (String.ofList (address.takeWhile (· ≠ '/')))
  let request ← graphRequest (address.dropWhile (· ≠ '/'))
  return (drive, request)

/-! ## Contained paths -/

open ProjectManifest (pathParts pathParts_append intercalate_pathParts)

/-- A path as `_relative_path` returns it. -/
def Contained (x : String) : Prop := x = "" ∨ ∀ part ∈ pathParts x, part ∉ ["", ".", ".."]

lemma contained_of_relativePath {value r : String} {allowEmpty : Bool}
    (h : relativePath value allowEmpty = .ok r) : Contained r := by
  obtain rfl := relativePath_ok h
  unfold relativePath at h
  simp only [Check.bind_ok, Check.that_ok] at h
  obtain ⟨-, -, -, -, -, -, h⟩ := h
  split at h
  · next hempty => exact .inl hempty
  · simp only [Check.bind_ok, Check.that_ok] at h
    obtain ⟨-, hparts, -⟩ := h
    exact .inr hparts

lemma relativePath_ok_iff {value : String} : relativePath value true = .ok value ↔
    value.toList.length ≤ 2048 ∧ ¬ "/".toList <+: value.toList ∧ Char.ofNat 92 ∉ value.toList ∧
      Char.ofNat 0 ∉ value.toList ∧ (∀ c ∈ value.toList, 32 ≤ c.toNat) ∧ Contained value := by
  unfold relativePath Contained
  simp only [Check.bind_ok, Check.that_ok, List.all_eq_true, decide_eq_true_eq]
  constructor
  · rintro ⟨-, hlength, -, ⟨hslash, hback, hnul⟩, -, hcontrol, h⟩
    refine ⟨hlength, hslash, hback, hnul, hcontrol, ?_⟩
    split at h
    · next hempty => exact .inl hempty
    · simp only [Check.bind_ok, Check.that_ok] at h
      obtain ⟨-, hparts, -⟩ := h
      exact .inr hparts
  · rintro ⟨hlength, hslash, hback, hnul, hcontrol, hparts⟩
    refine ⟨(), hlength, (), ⟨hslash, hback, hnul⟩, (), hcontrol, ?_⟩
    split
    · next hempty =>
      subst hempty
      rfl
    · next hne =>
      simp only [Check.bind_ok, Check.that_ok, Check.pure_ok]
      exact ⟨(), hparts.resolve_left hne, ProjectManifest.intercalate_pathParts value⟩

lemma pathParts_slash (x : String) : pathParts ("/" ++ x) = "" :: pathParts x := by
  have htext : "/" ++ x = "" ++ "/" ++ x := by simp
  rw [htext, pathParts_append]
  rfl

lemma pathParts_ne_nil (x : String) : pathParts x ≠ [] := fun h =>
  List.splitOn_ne_nil '/' x.toList (List.map_eq_nil_iff.1 h)

/-- A slash in front of a path names nothing. -/
lemma names_slash (x : String) : names ("/" ++ x) = names x := by
  rw [names, pathParts_slash, names, List.filter_cons_of_neg (by simp)]

lemma names_of_contained {x : String} (hx : Contained x) (hne : x ≠ "") :
    names x = pathParts x := by
  rcases hx with hempty | hparts
  · exact absurd hempty hne
  · refine List.filter_eq_self.2 fun part hpart => ?_
    have hpart := hparts part hpart
    simp only [List.mem_cons, not_or] at hpart
    exact decide_eq_true hpart.1

lemma names_empty : names "" = [] := by decide

lemma intercalate_names {x : String} (hx : Contained x) : "/".intercalate (names x) = x := by
  by_cases hne : x = ""
  · subst hne
    rw [names_empty, String.intercalate_nil]
  · rw [names_of_contained hx hne, intercalate_pathParts]

lemma names_eq_nil {x : String} (hx : Contained x) : names x = [] ↔ x = "" := by
  constructor
  · intro h
    rw [← intercalate_names hx, h, String.intercalate_nil]
  · rintro rfl
    exact names_empty

lemma empty_not_mem_pathParts {x : String} (hx : Contained x) (hne : x ≠ "") :
    "" ∉ pathParts x := fun hmem => hx.resolve_left hne "" hmem (by simp)

/-- A slash at the start of a path would leave an empty part there. -/
lemma dropWhile_of_contained {x : String} (hx : Contained x) :
    x.toList.dropWhile (· == '/') = x.toList := by
  cases hchars : x.toList with
  | nil => rfl
  | cons c cs =>
    have hne : x ≠ "" := by
      rintro rfl
      simp at hchars
    refine List.dropWhile_cons_of_neg fun hc => empty_not_mem_pathParts hx hne ?_
    have htext : x = "/" ++ String.ofList cs := by
      rw [← String.toList_inj, hchars, beq_iff_eq.1 hc]
      simp
    rw [htext, pathParts_slash]
    exact List.mem_cons_self

/-- So would a slash at its end. -/
lemma getLast_of_contained {x : String} (hx : Contained x) (hnil : x.toList ≠ []) :
    x.toList.getLast hnil ≠ '/' := by
  intro hc
  have hne : x ≠ "" := fun hempty => hnil (by rw [hempty, String.toList_empty])
  refine empty_not_mem_pathParts hx hne ?_
  have htext : x = String.ofList x.toList.dropLast ++ "/" ++ "" := by
    rw [← String.toList_inj]
    conv_lhs => rw [← List.dropLast_append_getLast hnil, hc]
    simp
  rw [htext, pathParts_append]
  exact List.mem_append_right _ (by decide)

lemma stripSlashes_of_contained {x : String} (hx : Contained x) :
    stripSlashes ("/" ++ x) = x := by
  have hlast : x.toList.rdropWhile (· == '/') = x.toList :=
    List.rdropWhile_eq_self_iff.2 fun hnil hc =>
      getLast_of_contained hx hnil (beq_iff_eq.1 hc)
  rw [stripSlashes, String.toList_append]
  show String.ofList ((('/' :: x.toList).dropWhile (· == '/')).rdropWhile (· == '/')) = x
  rw [List.dropWhile_cons_of_pos (by simp), dropWhile_of_contained hx, hlast,
    String.ofList_toList]

lemma stripRight_of_contained {x : String} (hx : Contained x) (hne : x ≠ "") :
    ProjectManifest.stripRight ("/" ++ x) = "/" ++ x := by
  have hnil : x.toList ≠ [] := fun h =>
    hne (by rw [← String.toList_inj, h, String.toList_empty])
  have htext : ("/" ++ x).toList = '/' :: x.toList := by simp
  have hlast : ('/' :: x.toList).rdropWhile (· == '/') = '/' :: x.toList := by
    refine List.rdropWhile_eq_self_iff.2 fun _ hc => ?_
    rw [List.getLast_cons hnil, beq_iff_eq] at hc
    exact getLast_of_contained hx hnil hc
  rw [ProjectManifest.stripRight, htext, hlast, ← htext, String.ofList_toList]

/-- The joined path is absolute and contained again. -/
lemma exists_joinRoot {a b : String} (ha : Contained a) (hb : Contained b) :
    ∃ x, Contained x ∧ joinRoot ("/" ++ a) b = "/" ++ x := by
  unfold joinRoot
  by_cases hbe : b = ""
  · exact ⟨a, ha, if_pos hbe⟩
  rw [if_neg hbe]
  by_cases hae : a = ""
  · subst hae
    refine ⟨b, hb, ?_⟩
    have hroot : ProjectManifest.stripRight ("/" ++ "") = "" := by decide
    rw [hroot, String.empty_append]
  · refine ⟨a ++ "/" ++ b, .inr fun part hpart => ?_, ?_⟩
    · rw [pathParts_append] at hpart
      rcases List.mem_append.1 hpart with hpart | hpart
      · exact ha.resolve_left hae part hpart
      · exact hb.resolve_left hbe part hpart
    · rw [stripRight_of_contained ha hae]
      simp only [String.append_assoc]

/-! ## Encoded paths -/

lemma slash_not_mem_quoteChar {c : Char} (hc : c ≠ '/') : '/' ∉ quoteChar ['/'] c := by
  intro hmem
  have hquote : '/' ∈ (quote ['/'] (String.ofList [c])).toList := by
    simpa [quote] using hmem
  rcases mem_quote hquote with h | h | ⟨-, h⟩
  · exact absurd h (by decide)
  · exact absurd h (by decide)
  · rw [String.toList_ofList, List.mem_singleton] at h
    exact hc h.symm

/-- Encoding a path encodes its parts. -/
lemma splitOn_quote (x : String) :
    (quote ['/'] x).toList.splitOn '/' =
      (pathParts x).map fun part => (quote ['/'] part).toList := by
  have hslash : quoteChar ['/'] '/' = ['/'] := by decide
  rw [quote, String.toList_ofList,
    splitOn_flatMap hslash fun c hc => slash_not_mem_quoteChar hc, pathParts, List.map_map]
  exact List.map_congr_left fun cs _ => by
    rw [Function.comp_apply, quote, String.toList_ofList, String.toList_ofList]

lemma pathParts_quote (x : String) :
    pathParts (quote ['/'] x) = (pathParts x).map (quote ['/']) := by
  rw [pathParts, splitOn_quote, List.map_map]
  exact List.map_congr_left fun part _ => String.ofList_toList

/-- An encoded path is understood as its names. -/
lemma decodePath_quote {x : String} (hx : Contained x) (hne : x ≠ "") :
    decodePath (quote ['/'] x).toList = some (names x) := by
  have hnames : (pathParts x).all (· ∉ ["", ".", ".."]) = true :=
    List.all_eq_true.2 fun part hpart => decide_eq_true (hx.resolve_left hne part hpart)
  have hparts : ((pathParts x).map fun part => (quote ['/'] part).toList).mapM
      (fun name => unquote (String.ofList name)) = some (pathParts x) := by
    have hpart : ((fun name => unquote (String.ofList name)) ∘
        fun part => (quote ['/'] part).toList) = pure := funext fun part => by
      rw [Function.comp_apply, String.ofList_toList]
      exact unquote_quote (by decide) part
    rw [List.mapM_map, hpart, List.mapM_pure, List.map_id']
    rfl
  rw [decodePath, splitOn_quote, hparts, names_of_contained hx hne, Option.filter_some,
    if_pos hnames]

lemma colon_not_mem_quote (x : String) : ':' ∉ (quote ['/'] x).toList := by
  intro h
  rcases mem_quote h with h | h | ⟨h, -⟩
  · exact absurd h (by decide)
  · exact absurd h (by decide)
  · exact absurd h (by decide)

lemma query_not_mem_quote {safe : List Char} (hsafe : '?' ∉ safe) (x : String) :
    '?' ∉ (quote safe x).toList := by
  intro h
  rcases mem_quote h with h | h | ⟨h, -⟩
  · exact absurd h (by decide)
  · exact absurd h (by decide)
  · exact absurd h hsafe

lemma slash_not_mem_quote (x : String) : '/' ∉ (quote [] x).toList := by
  intro h
  rcases mem_quote h with h | h | ⟨h, -⟩
  · exact absurd h (by decide)
  · exact absurd h (by decide)
  · exact absurd h List.not_mem_nil

/-! ## The address of an item -/

/-- The address of an item below its drive. -/
def itemPart (x : String) : String := if x = "" then "/root" else "/root:/" ++ quote ['/'] x

lemma itemUrl_eq {u : OneDriveDocumentStore} {relative x : String} (hx : Contained x)
    (hjoin : joinRoot u.root relative = "/" ++ x) :
    u.itemUrl relative = u.baseUrl ++ itemPart x := by
  unfold itemUrl itemPart
  dsimp only
  rw [hjoin, stripSlashes_of_contained hx]
  by_cases hne : x = ""
  · subst hne
    rfl
  · have hroot : "/" ++ x ≠ "/" := fun h => hne <| by
      have hlists : ("/" ++ x).toList = "/".toList := congrArg String.toList h
      rw [← String.toList_inj]
      simpa using hlists
    rw [if_neg hroot, if_neg hne, String.append_assoc]

/-- An address names the drive and the request below it; a query does not matter. -/
lemma graphAddress_append {d rest tail : String} (hquery : '?' ∉ rest.toList)
    (hslash : rest.toList.takeWhile (· ≠ '/') = [])
    (htail : tail.toList.takeWhile (· ≠ '?') = []) :
    graphAddress (drivesUrl ++ quote [] d ++ rest ++ tail) =
      (graphRequest rest.toList).map fun request => (d, request) := by
  have hprefix : removePrefix? (drivesUrl ++ quote [] d ++ rest ++ tail) drivesUrl =
      some (quote [] d ++ rest ++ tail) :=
    removePrefix?_eq_some.2 (by simp only [String.append_assoc])
  have haddress : (quote [] d ++ rest ++ tail).toList.takeWhile (· ≠ '?') =
      (quote [] d).toList ++ rest.toList := by
    rw [String.toList_append, String.toList_append, List.takeWhile_append_of_pos, htail,
      List.append_nil]
    intro c hc
    rw [List.mem_append] at hc
    refine decide_eq_true fun hq => ?_
    subst hq
    exact hc.elim (query_not_mem_quote List.not_mem_nil d) hquery
  have hplain : ∀ c ∈ (quote [] d).toList, decide (c ≠ '/') = true := fun c hc =>
    decide_eq_true fun hq => slash_not_mem_quote d (hq ▸ hc)
  have hdrive : ((quote [] d).toList ++ rest.toList).takeWhile (· ≠ '/') =
      (quote [] d).toList := by
    rw [List.takeWhile_append_of_pos hplain, hslash, List.append_nil]
  have hrest : ((quote [] d).toList ++ rest.toList).dropWhile (· ≠ '/') = rest.toList := by
    rw [List.dropWhile_append_of_pos hplain]
    have hsplit := List.takeWhile_append_dropWhile (p := (· ≠ '/')) (l := rest.toList)
    rw [hslash, List.nil_append] at hsplit
    exact hsplit
  rw [graphAddress, hprefix]
  simp only [Option.bind_eq_bind, Option.bind_some, haddress, hdrive, hrest,
    String.ofList_toList, unquote_quote List.not_mem_nil]
  cases graphRequest rest.toList <;> rfl

lemma query_not_mem_itemPart (x : String) : '?' ∉ (itemPart x).toList := by
  unfold itemPart
  split
  · decide
  · rw [String.toList_append, List.mem_append, not_or]
    exact ⟨by decide, query_not_mem_quote (by decide) x⟩

lemma takeWhile_itemPart (x : String) (suffix : List Char) :
    ((itemPart x).toList ++ suffix).takeWhile (· ≠ '/') = [] := by
  unfold itemPart
  split
  · rfl
  · rw [String.toList_append, List.append_assoc]
    rfl

lemma itemPart_of_ne {x : String} (hne : x ≠ "") :
    (itemPart x).toList = "/root:/".toList ++ (quote ['/'] x).toList := by
  rw [itemPart, if_neg hne, String.toList_append]

/-- Below the drive a path is recognised by its prefix. -/
lemma graphRequest_append (path : List Char) :
    graphRequest ("/root:/".toList ++ path) = pathRequest (path.splitOn ':') := by
  have hroot : "/root:/".toList ++ path ≠ "/root".toList := by simp
  have hchildren : "/root:/".toList ++ path ≠ "/root/children".toList := by simp
  have hprefix : ("/root:/".toList ++ path).dropPrefix? "/root:/".toList = some path :=
    List.dropPrefix?_append_of_beq path (by simp)
  rw [graphRequest, if_neg hroot, if_neg hchildren, hprefix, Option.bind_some]

/-- The address of an item is understood as that item. -/
lemma graphRequest_itemPart {x : String} (hx : Contained x) :
    graphRequest (itemPart x).toList = some (.item (names x)) := by
  by_cases hne : x = ""
  · subst hne
    decide
  · rw [itemPart_of_ne hne, graphRequest_append,
      List.splitOn_eq_singleton (colon_not_mem_quote x), pathRequest, decodePath_quote hx hne,
      Option.map_some]

/-- What follows the colon after a path says what is requested. -/
lemma graphRequest_suffix {x : String} (hx : Contained x) (hne : x ≠ "") (suffix : String)
    (hcolon : ':' ∉ suffix.toList) :
    graphRequest ((itemPart x).toList ++ ':' :: suffix.toList) =
      if suffix = "/children" then some (.children (names x))
      else if suffix = "/content" then some (.content (names x))
      else if suffix = "/createUploadSession" then some (.createUploadSession (names x))
      else none := by
  rw [itemPart_of_ne hne, List.append_assoc, graphRequest_append,
    List.splitOn_append_cons_self_of_not_mem (colon_not_mem_quote x),
    List.splitOn_eq_singleton hcolon, pathRequest, decodePath_quote hx hne]
  simp only [Option.map_some, String.toList_inj]

/-! ## The suffix test -/

/-- The suffix test looks at the last part of a text. -/
lemma endsInRoot_iff (s t : String) :
    EndsInRoot (s ++ "/" ++ t) ↔ (pathParts t).getLast? = some "root" := by
  constructor
  · rintro ⟨u, hu⟩
    have htext : String.ofList u ++ "/" ++ "root" = s ++ "/" ++ t := by
      rw [← String.toList_inj, ← hu]
      simp
    have hparts := congrArg (fun s => (pathParts s).getLast?) htext
    simp only [pathParts_append] at hparts
    rw [List.getLast?_append_of_ne_nil _ (pathParts_ne_nil t),
      List.getLast?_append_of_ne_nil _ (pathParts_ne_nil _)] at hparts
    rw [← hparts]
    decide
  · intro hlast
    obtain ⟨ps, hps⟩ := List.getLast?_eq_some_iff.1 hlast
    have hne : pathParts s ++ ps ≠ [] := fun h =>
      pathParts_ne_nil s (List.append_eq_nil_iff.1 h).1
    have htext : s ++ "/" ++ t = "/".intercalate (pathParts s ++ ps) ++ "/" ++ "root" := by
      rw [← intercalate_pathParts (s ++ "/" ++ t), pathParts_append, hps, ← List.append_assoc,
        String.intercalate_append_of_ne_nil hne (List.cons_ne_nil _ _),
        String.intercalate_singleton]
    refine ⟨("/".intercalate (pathParts s ++ ps)).toList, ?_⟩
    rw [htext]
    simp

lemma quote_eq_root {n : String} : quote ['/'] n = "root" ↔ n = "root" := by
  have hroot : quote ['/'] "root" = "root" := by decide
  constructor
  · intro h
    exact quote_injective (by decide : '%' ∉ ['/']) (h.trans hroot.symm)
  · rintro rfl
    exact hroot

/-- The address of an item ends in `/root` for the root of the drive, and for every item of
that name. -/
lemma endsInRoot_itemPart {x : String} (hx : Contained x) (base : String) :
    EndsInRoot (base ++ itemPart x) ↔ x = "" ∨ (names x).getLast? = some "root" := by
  by_cases hne : x = ""
  · subst hne
    have hends : EndsInRoot (base ++ itemPart "") := ⟨base.toList, by simp [itemPart]⟩
    exact iff_of_true hends (.inl rfl)
  · have htext : base ++ itemPart x = (base ++ "/root:") ++ "/" ++ quote ['/'] x := by
      rw [itemPart, if_neg hne]
      simp only [String.append_assoc]
      rfl
    rw [htext, endsInRoot_iff, pathParts_quote, names_of_contained hx hne, List.getLast?_map,
      Option.map_eq_some_iff]
    constructor
    · rintro ⟨n, hn, hroot⟩
      rw [quote_eq_root.1 hroot] at hn
      exact .inr hn
    · intro h
      exact ⟨"root", h.resolve_left hne, quote_eq_root.2 rfl⟩

/-! ## The requests of the store -/

/-- A path that an open store accepts. -/
structure OpenPath where
  store : OneDriveDocumentStore
  relative : String
  /-- The store was opened. -/
  opened : ∃ driveId root provider reference, init driveId root provider reference = .ok store
  /-- The path was accepted. -/
  accepted : relativePath relative true = .ok relative

namespace OpenPath

/-- The path of the item: the root joined with the path. -/
abbrev joined (p : OpenPath) : String := joinRoot p.store.root p.relative

/-- The names of the item. -/
abbrev names (p : OpenPath) : List String := (p.store.item p.relative).2

lemma exists_root (p : OpenPath) : ∃ a, Contained a ∧ p.store.root = "/" ++ a := by
  obtain ⟨driveId, root, provider, reference, h⟩ := p.opened
  simp only [init, Check.bind_ok, Check.pure_ok] at h
  obtain ⟨d, -, r, hr, c, -, e, -, hstore⟩ := h
  simp only [rootPath, Check.bind_ok, Check.found_ok, Check.pure_ok] at hr
  obtain ⟨rest, -, a, ha, hroot⟩ := hr
  exact ⟨a, contained_of_relativePath ha, by rw [← hstore, ← hroot]⟩

/-- The joined path is absolute, and the names spell it. -/
lemma exists_joined (p : OpenPath) :
    ∃ x, Contained x ∧ p.joined = "/" ++ x ∧ p.names = OneDriveDocumentStore.names x := by
  obtain ⟨a, ha, hroot⟩ := p.exists_root
  obtain ⟨x, hx, hjoin⟩ := exists_joinRoot ha (contained_of_relativePath p.accepted)
  rw [← hroot] at hjoin
  refine ⟨x, hx, hjoin, ?_⟩
  rw [OpenPath.names, item, hjoin, names_slash]

/-- Graph understands an address as this request on the drive of the store. -/
def Sees (p : OpenPath) (url : String) (request : GraphRequest) : Prop :=
  graphAddress url = some (p.store.driveId, request)

/-- What is understood below the drive is understood on the drive of the store. -/
lemma sees_of_graphRequest {p : OpenPath} {x : String} (hx : Contained x)
    (hjoin : p.joined = "/" ++ x) {suffix : String} (tail : String) {request : GraphRequest}
    (hquery : '?' ∉ suffix.toList) (htail : tail.toList.takeWhile (· ≠ '?') = [])
    (hrequest : graphRequest ((itemPart x).toList ++ suffix.toList) = some request) :
    p.Sees (p.store.itemUrl p.relative ++ suffix ++ tail) request := by
  have hrest : '?' ∉ (itemPart x ++ suffix).toList := by
    rw [String.toList_append, List.mem_append, not_or]
    exact ⟨query_not_mem_itemPart x, hquery⟩
  have hslash : (itemPart x ++ suffix).toList.takeWhile (· ≠ '/') = [] := by
    rw [String.toList_append]
    exact takeWhile_itemPart x _
  have haddress := graphAddress_append (d := p.store.driveId) hrest hslash htail
  rw [String.toList_append, hrequest, ← String.append_assoc] at haddress
  rw [Sees, itemUrl_eq hx hjoin]
  exact haddress

lemma metadataUrl_sees (p : OpenPath) :
    p.Sees (p.store.metadataUrl p.relative) (.item p.names) := by
  obtain ⟨x, hx, hjoin, hnames⟩ := p.exists_joined
  have hrequest : graphRequest ((itemPart x).toList ++ "".toList) = some (.item p.names) := by
    rw [String.toList_empty, List.append_nil, graphRequest_itemPart hx, hnames]
  have hsees := sees_of_graphRequest hx hjoin ("?$select=id,name,size,eTag," ++
    "createdDateTime,lastModifiedDateTime,file,folder") (by decide) (by decide) hrequest
  rw [String.append_empty] at hsees
  exact hsees

lemma names_eq_nil_iff (p : OpenPath) : p.names = [] ↔ p.joined = "/" := by
  obtain ⟨x, hx, hjoin, hnames⟩ := p.exists_joined
  rw [hnames, names_eq_nil hx, hjoin]
  constructor
  · rintro rfl
    rfl
  · intro h
    have hlists : ("/" ++ x).toList = "/".toList := congrArg String.toList h
    rw [← String.toList_inj]
    simpa using hlists

/-- Below the root of a drive the suffix follows a colon. -/
lemma suffix_sees (p : OpenPath) (hne : p.names ≠ []) (suffix tail : String)
    (hsuffix : suffix ∈ ["/children", "/content", "/createUploadSession"])
    (htail : tail.toList.takeWhile (· ≠ '?') = []) :
    p.Sees (p.store.itemUrl p.relative ++ (":" ++ suffix) ++ tail)
      (if suffix = "/children" then .children p.names
      else if suffix = "/content" then .content p.names
      else .createUploadSession p.names) := by
  obtain ⟨x, hx, hjoin, hnames⟩ := p.exists_joined
  rw [hnames] at hne ⊢
  have hxne : x ≠ "" := fun h => hne ((names_eq_nil hx).2 h)
  have htext : (":" ++ suffix).toList = ':' :: suffix.toList := by simp
  refine sees_of_graphRequest hx hjoin tail ?_ htail ?_
  · rw [htext]
    simp only [List.mem_cons, List.not_mem_nil, or_false] at hsuffix
    rcases hsuffix with rfl | rfl | rfl <;> decide
  · simp only [List.mem_cons, List.not_mem_nil, or_false] at hsuffix
    rw [htext, graphRequest_suffix hx hxne]
    · rcases hsuffix with rfl | rfl | rfl <;> simp
    · rcases hsuffix with rfl | rfl | rfl <;> decide

lemma endsInRoot_itemUrl (p : OpenPath) :
    EndsInRoot (p.store.itemUrl p.relative) ↔
      p.names = [] ∨ p.names.getLast? = some "root" := by
  obtain ⟨x, hx, hjoin, hnames⟩ := p.exists_joined
  rw [itemUrl_eq hx hjoin, endsInRoot_itemPart hx, hnames, names_eq_nil hx]

/-- Below an item named `root` the children are asked of an item named `children`. -/
lemma childrenUrl_sees (p : OpenPath) (query : String) :
    p.Sees (p.store.childrenUrl p.relative ++ ("?" ++ query))
      (if p.names.getLast? = some "root" then .item (p.names ++ ["children"])
      else .children p.names) := by
  have htail : ("?" ++ query).toList.takeWhile (· ≠ '?') = [] := by
    rw [String.toList_append]
    rfl
  unfold childrenUrl
  dsimp only
  by_cases hnil : p.names = []
  · rw [if_pos (p.endsInRoot_itemUrl.2 (.inl hnil)), hnil, if_neg (by simp)]
    obtain ⟨x, hx, hjoin, hnames⟩ := p.exists_joined
    obtain rfl := (names_eq_nil hx).1 (hnames.symm.trans hnil)
    exact sees_of_graphRequest hx hjoin _ (by decide) htail (by decide)
  by_cases hlast : p.names.getLast? = some "root"
  · rw [if_pos (p.endsInRoot_itemUrl.2 (.inr hlast)), if_pos hlast]
    obtain ⟨x, hx, hjoin, hnames⟩ := p.exists_joined
    rw [hnames] at hnil hlast ⊢
    have hne : x ≠ "" := fun h => hnil ((names_eq_nil hx).2 h)
    have hnew : x ++ "/" ++ "children" ≠ "" := fun h => by
      have hlists := congrArg String.toList h
      simp at hlists
    have hpath : Contained (x ++ "/" ++ "children") := by
      refine .inr fun part hpart => ?_
      rw [pathParts_append] at hpart
      rcases List.mem_append.1 hpart with hpart | hpart
      · exact hx.resolve_left hne part hpart
      · obtain rfl : part = "children" := by
          have hchildren : pathParts "children" = ["children"] := by decide
          simpa [hchildren] using hpart
        decide
    have hquote : quote ['/'] (x ++ "/" ++ "children") = quote ['/'] x ++ "/children" := by
      rw [← String.toList_inj]
      simp only [quote, String.toList_ofList, String.toList_append, List.flatMap_append,
        List.append_assoc]
      rfl
    refine sees_of_graphRequest hx hjoin _ (by decide) htail ?_
    have hitem := graphRequest_itemPart hpath
    rw [itemPart_of_ne hnew, hquote, String.toList_append, ← List.append_assoc,
      ← itemPart_of_ne hne, names_append] at hitem
    exact hitem
  · have hends : ¬ EndsInRoot (p.store.itemUrl p.relative) := fun h =>
      (p.endsInRoot_itemUrl.1 h).elim hnil hlast
    rw [if_neg hends, if_neg hlast]
    exact p.suffix_sees hnil "/children" _ (by simp) htail

lemma contentUrl_eq_some_iff (p : OpenPath) {url : String} :
    p.store.contentUrl p.relative = some url ↔
      (p.names ≠ [] ∧ p.names.getLast? ≠ some "root") ∧
        p.store.itemUrl p.relative ++ ":/content" = url := by
  have hends : ¬ EndsInRoot (p.store.itemUrl p.relative) ↔
      p.names ≠ [] ∧ p.names.getLast? ≠ some "root" := by
    rw [endsInRoot_itemUrl, not_or]
  rw [contentUrl, ← hends]
  split
  · next h => exact iff_of_false nofun fun ⟨hn, _⟩ => hn h
  · next h => simp [h]

lemma contentUrl_sees {p : OpenPath} {url : String}
    (h : p.store.contentUrl p.relative = some url) : p.Sees url (.content p.names) := by
  obtain ⟨⟨hnil, -⟩, rfl⟩ := p.contentUrl_eq_some_iff.1 h
  have hsees := p.suffix_sees hnil "/content" "" (by simp) (by decide)
  rw [String.append_empty] at hsees
  exact hsees

lemma createSessionUrl_sees {p : OpenPath} (hnil : p.names ≠ []) :
    p.Sees (p.store.createSessionUrl p.relative) (.createUploadSession p.names) := by
  have hsees := p.suffix_sees hnil "/createUploadSession" "" (by simp) (by decide)
  rw [String.append_empty] at hsees
  exact hsees

/-- A path that `read` and `create` accept names an item below the root. -/
lemma names_ne_nil {p : OpenPath} (h : relativePath p.relative false = .ok p.relative) :
    p.names ≠ [] := by
  have hne : p.relative ≠ "" := by
    intro hempty
    rw [hempty] at h
    exact absurd h (by decide)
  intro hnil
  rw [OpenPath.names, item, joinRoot, if_neg hne] at hnil
  rw [names_append] at hnil
  exact hne ((names_eq_nil (contained_of_relativePath h)).1 (List.append_eq_nil_iff.1 hnil).2)

/-- One address is understood in one way. -/
lemma Sees.unique {p q : OpenPath} {url : String} {r s : GraphRequest} (hr : p.Sees url r)
    (hs : q.Sees url s) : r = s :=
  congrArg Prod.snd (Option.some.inj (hr.symm.trans hs))

/-- The names determine the joined path. -/
lemma joined_eq_of_names {p q : OpenPath} (h : p.names = q.names) : p.joined = q.joined := by
  obtain ⟨x, hx, hjoinx, hnamesx⟩ := p.exists_joined
  obtain ⟨y, hy, hjoiny, hnamesy⟩ := q.exists_joined
  have hxy : x = y := by
    rw [← intercalate_names hx, ← intercalate_names hy, ← hnamesx, ← hnamesy, h]
  rw [hjoinx, hjoiny, hxy]

/-- The addresses of a path are exact and contained. -/
structure Addressed (p : OpenPath) : Prop where
  /-- The names spell the joined path. -/
  spelled : p.joined = "/" ++ "/".intercalate p.names
  /-- The item is covered by the root of the store, and no name leads out of it. -/
  contained : p.store.Covers (p.store.item p.relative) ∧ ∀ n ∈ p.names, n ∉ ["", ".", ".."]
  stat : p.Sees (p.store.metadataUrl p.relative) (.item p.names)
  list : ∀ query, p.Sees (p.store.childrenUrl p.relative ++ ("?" ++ query)) (.children p.names)
  read : relativePath p.relative false = .ok p.relative →
    ∃ url, p.store.contentUrl p.relative = some url ∧ p.Sees url (.content p.names)
  create : relativePath p.relative false = .ok p.relative →
    p.Sees (p.store.createSessionUrl p.relative) (.createUploadSession p.names)
  /-- Only the joined path `/` is the root of the drive. -/
  driveRoot : p.Sees (p.store.metadataUrl p.relative) (.item []) ↔ p.joined = "/"
  /-- Another path has other addresses. -/
  distinct : ∀ q : OpenPath, q.store = p.store → q.joined ≠ p.joined →
    q.store.metadataUrl q.relative ≠ p.store.metadataUrl p.relative ∧
    (∀ query query', q.store.childrenUrl q.relative ++ ("?" ++ query) ≠
      p.store.childrenUrl p.relative ++ ("?" ++ query')) ∧
    (∀ url, p.store.contentUrl p.relative = some url →
      q.store.contentUrl q.relative ≠ some url) ∧
    (relativePath p.relative false = .ok p.relative →
      relativePath q.relative false = .ok q.relative →
      q.store.createSessionUrl q.relative ≠ p.store.createSessionUrl p.relative)

/-- A folder named `root` below the root of a drive. -/
def folderNamedRoot : OpenPath where
  store := ⟨"drive-1", "/", "graph", "secret://graph"⟩
  relative := "root"
  opened := ⟨.str "drive-1", .str "/", .str "graph", .str "secret://graph", by decide⟩
  accepted := by decide

end OpenPath

end OneDriveDocumentStore

end AgenticMesh
