import AgenticMesh.Base.BoundedSample
import AgenticMesh.Import.Discovery
import AgenticMesh.Manifest.Manifest
import Mathlib.Algebra.GroupWithZero.Nat

/-!
# The inspection of a document tree

`DocumentTreeDiscovery.inspect` lists a tree folder by folder, breadth first, page by page.
The store may answer every call with any page; the inspection counts what it is shown until a
limit of items is reached.  Each call of `list` is a step of the machine below.
-/

namespace AgenticMesh.ImportDiscovery

/-! ## Pages -/

/-- What is read of a `DocumentMetadata`. -/
structure DocumentItem where
  path : String
  /-- `none` when it is no integer. -/
  size : Option ℤ
  isFolder : Bool
  modifiedAt : Option String
deriving DecidableEq

/-- A page of a folder. -/
structure DocumentPage where
  items : List DocumentItem
  nextCursor : Option String
deriving DecidableEq

/-- A call of `list` that was answered with a page. -/
structure ListCall where
  folder : String
  cursor : Option String
  page : DocumentPage

/-- The items of some calls. -/
def itemsOf (calls : List ListCall) : List DocumentItem := calls.flatMap fun c => c.page.items

/-- The paths of the folders among some items. -/
def folderPaths (items : List DocumentItem) : List String :=
  (items.filter (·.isFolder)).map DocumentItem.path

lemma folderPaths_append (items rest : List DocumentItem) :
    folderPaths (items ++ rest) = folderPaths items ++ folderPaths rest := by
  rw [folderPaths, List.filter_append, List.map_append, folderPaths, folderPaths]

/-! ## One item -/

/-- `DocumentTreeDiscovery`: the limits of an inspection. -/
structure DocumentTreeDiscovery where
  maximumItems : ℕ
  sampleSize : ℕ
  maximumItems_pos : 1 ≤ maximumItems
  sampleSize_le : sampleSize ≤ 1000

/-- The variables of `inspect` that items are added to. -/
structure Tally where
  pending : List String := []
  scheduled : List String := [""]
  observedPaths : List String := []
  files : ℕ := 0
  folders : ℕ := 0
  totalBytes : ℕ := 0
  latest : Option String := none
  samples : List String := []

namespace Tally

def count (t : Tally) : ℕ := t.files + t.folders

end Tally

/-- The size of an item; `none` when it is invalid. -/
def DocumentItem.bytes (item : DocumentItem) : Option ℕ :=
  (item.size.filter (0 ≤ ·)).map Int.toNat

/-- The later of two modification times. -/
def later (latest modifiedAt : Option String) : Option String :=
  match modifiedAt, latest with
  | none, latest => latest
  | some m, none => some m
  | some m, some l => if l < m then some m else some l

namespace DocumentTreeDiscovery

variable (d : DocumentTreeDiscovery)

/-- An item below the limit; `none` when the inventory is refused. -/
def takeItem (t : Tally) (item : DocumentItem) : Option Tally := do
  guard (item.path ∉ t.observedPaths)
  let bytes ← item.bytes
  guard (item.isFolder = true → item.path ∉ t.scheduled)
  return {
    pending := if item.isFolder then t.pending ++ [item.path] else t.pending
    scheduled := if item.isFolder then t.scheduled ++ [item.path] else t.scheduled
    observedPaths := t.observedPaths ++ [item.path]
    files := if item.isFolder then t.files else t.files + 1
    folders := if item.isFolder then t.folders + 1 else t.folders
    totalBytes := if item.isFolder then t.totalBytes else t.totalBytes + bytes
    latest := later t.latest item.modifiedAt
    samples := if d.sampleSize = 0 then t.samples
      else insertSample d.sampleSize t.samples item.path }

/-- The items of a page, with whether all of them were taken. -/
def takeItems (t : Tally) : List DocumentItem → Option (Bool × Tally)
  | [] => some (true, t)
  | item :: items =>
    if d.maximumItems ≤ t.count then some (false, t)
    else do
      let t ← d.takeItem t item
      takeItems t items

end DocumentTreeDiscovery

/-! ## The inventory -/

/-- `_text`. -/
def isText (maximum : ℕ) (s : String) : Bool :=
  strip s ≠ "" && decide (s.toList.length ≤ maximum) && s.toList.all fun c => 32 ≤ c.toNat

/-- `_relative_document_path`. -/
def isRelativeDocumentPath (s : String) : Bool :=
  s ≠ "" && decide (s.toList.length ≤ 2048) && s.toList.head? != some '/' &&
    s.toList.all (fun c => c ≠ Char.ofNat 92 && decide (32 ≤ c.toNat)) &&
    (ProjectManifest.pathParts s).all fun part => part ∉ ["", ".", ".."]

/-- `DocumentInventory(...)`; `none` when its `__post_init__` raises. -/
def Tally.inventory (t : Tally) (pageCount : ℕ) (complete : Bool) : Option DocumentInventory := do
  guard (t.latest.all (isText 100) = true)
  guard (t.samples.all isRelativeDocumentPath = true)
  return {
    fileCount := t.files
    folderCount := t.folders
    totalBytes := t.totalBytes
    pageCount
    latestModifiedAt := t.latest
    samplePaths := t.samples
    complete }

/-! ## The calls of `list` -/

/-- What `inspect` does next.  An answer is `none` when the source is unavailable. -/
inductive InspectionPhase where
  | listing (folder : String) (cursor : Option String) (seenCursors : List String)
  | ended (answer : Option DocumentInventory)

def InspectionPhase.isEnded : InspectionPhase → Bool
  | listing .. => false
  | ended _ => true

/-- An inspection between two calls of `list`, with the calls so far. -/
structure Inspection where
  phase : InspectionPhase
  tally : Tally := {}
  pages : ℕ := 0
  calls : List ListCall := []

namespace Inspection

variable (d : DocumentTreeDiscovery)

/-- `inspect` begins with the root. -/
def start : Inspection where
  phase := .listing "" none []

/-- The end of a folder. -/
def nextFolder (s : Inspection) : Inspection :=
  match s.tally.pending with
  | [] => { s with phase := .ended (s.tally.inventory s.pages true) }
  | folder :: pending =>
    { s with phase := .listing folder none [], tally := { s.tally with pending } }

/-- One more page. -/
def received (s : Inspection) (call : ListCall) : Inspection :=
  { s with pages := s.pages + 1, calls := s.calls ++ [call] }

/-- A call of `list` is answered, with `none` when it raises. -/
def step (s : Inspection) (answer : Option DocumentPage) : Inspection :=
  match s.phase with
  | .ended _ => s
  | .listing folder cursor seenCursors =>
    match answer with
    | none => { s with phase := .ended none }
    | some page =>
      let s := s.received { folder, cursor, page }
      match d.takeItems s.tally page.items with
      | none => { s with phase := .ended none }
      | some (false, tally) =>
        { s with phase := .ended (tally.inventory s.pages false), tally }
      | some (true, tally) =>
        match page.nextCursor with
        | none => nextFolder { s with tally }
        | some c =>
          if c ∈ seenCursors then { s with phase := .ended none, tally }
          else { s with phase := .listing folder (some c) (c :: seenCursors), tally }

/-- The inspection after `n` answers of a store. -/
def after (answers : ℕ → Option DocumentPage) : ℕ → Inspection
  | 0 => start
  | n + 1 => step d (after answers n) (answers n)

end Inspection

/-! ## What has been counted -/

/-- The latest of some times. -/
def IsLatest (latest : Option String) (times : List String) : Prop :=
  match latest with
  | none => times = []
  | some l => l ∈ times ∧ ∀ m ∈ times, m ≤ l

/-- The modification times of some items. -/
def timesOf (items : List DocumentItem) : List String := items.filterMap DocumentItem.modifiedAt

lemma IsLatest.later {latest modifiedAt : Option String} {times : List String}
    (h : IsLatest latest times) :
    IsLatest (later latest modifiedAt) (times ++ modifiedAt.toList) := by
  cases modifiedAt with
  | none => simpa [ImportDiscovery.later] using h
  | some m =>
    cases latest with
    | none =>
      rw [show times = [] from h]
      exact ⟨List.mem_singleton_self m, fun k hk => (List.mem_singleton.1 hk).le⟩
    | some l =>
      obtain ⟨hl, hmax⟩ := h
      by_cases hlt : l < m
      · rw [show ImportDiscovery.later (some l) (some m) = some m from if_pos hlt]
        refine ⟨List.mem_append_right _ (List.mem_singleton_self m), fun k hk => ?_⟩
        rcases List.mem_append.1 hk with hk | hk
        · exact (hmax k hk).trans hlt.le
        · exact (List.mem_singleton.1 hk).le
      · rw [show ImportDiscovery.later (some l) (some m) = some l from if_neg hlt]
        refine ⟨List.mem_append_left _ hl, fun k hk => ?_⟩
        rcases List.mem_append.1 hk with hk | hk
        · exact hmax k hk
        · rw [List.mem_singleton.1 hk]
          exact not_lt.1 hlt

/-- The sizes of the files among some items. -/
def fileBytes (items : List DocumentItem) : ℕ :=
  ((items.filter (!·.isFolder)).map fun item => item.bytes.getD 0).sum

variable {d : DocumentTreeDiscovery} {items rest : List DocumentItem} {t t' : Tally}

/-- The variables of `inspect` after some items. -/
structure Tallied (d : DocumentTreeDiscovery) (items : List DocumentItem) (t : Tally) : Prop where
  paths : (items.map DocumentItem.path).Nodup
  observed : t.observedPaths = items.map DocumentItem.path
  scheduled : t.scheduled = "" :: folderPaths items
  scheduled_nodup : t.scheduled.Nodup
  files : t.files = (items.filter (!·.isFolder)).length
  folders : t.folders = (items.filter (·.isFolder)).length
  totalBytes : t.totalBytes = fileBytes items
  latest : IsLatest t.latest (timesOf items)
  samples : t.samples = smallest d.sampleSize (items.map DocumentItem.path)
  limit : t.count ≤ d.maximumItems

namespace Tallied

lemma start : Tallied d [] {} where
  paths := List.nodup_nil
  observed := rfl
  scheduled := rfl
  scheduled_nodup := List.nodup_singleton _
  files := rfl
  folders := rfl
  totalBytes := rfl
  latest := rfl
  samples := by simp [smallest]
  limit := Nat.zero_le _

lemma count_eq (h : Tallied d items t) : t.count = items.length := by
  rw [Tally.count, h.files, h.folders, Nat.add_comm]
  exact (List.length_eq_length_filter_add _).symm

/-- The variables that do not matter to what has been counted. -/
lemma withPending (h : Tallied d items t) (pending : List String) :
    Tallied d items { t with pending } :=
  { h with }

/-- One more item. -/
lemma takeItem (h : Tallied d items t) {item : DocumentItem}
    (hlimit : ¬ d.maximumItems ≤ t.count) (htake : d.takeItem t item = some t') :
    Tallied d (items ++ [item]) t' ∧ t'.pending = t.pending ++ folderPaths [item] := by
  simp only [DocumentTreeDiscovery.takeItem, Option.bind_eq_bind, Option.bind_eq_some_iff,
    Option.guard_eq_some', Option.pure_def, Option.some.injEq] at htake
  obtain ⟨-, hfresh, bytes, hbytes, -, hscheduled, rfl⟩ := htake
  have hpath : item.path ∉ items.map DocumentItem.path := h.observed ▸ hfresh
  have hsamples : (if d.sampleSize = 0 then t.samples
      else insertSample d.sampleSize t.samples item.path) =
      smallest d.sampleSize ((items ++ [item]).map DocumentItem.path) := by
    rw [List.map_append, List.map_cons, List.map_nil, ← insertSample_smallest, ← h.samples]
    split
    · next hzero =>
      rw [h.samples, hzero]
      simp [smallest, insertSample]
    · rfl
  have hlatest : IsLatest (later t.latest item.modifiedAt) (timesOf (items ++ [item])) := by
    have htimes : timesOf (items ++ [item]) = timesOf items ++ item.modifiedAt.toList := by
      rw [timesOf, List.filterMap_append, timesOf]
      cases hmodified : item.modifiedAt <;> simp [hmodified]
    rw [htimes]
    exact h.latest.later
  have hpaths : ((items ++ [item]).map DocumentItem.path).Nodup := by
    rw [List.map_append]
    exact List.nodup_append.2 ⟨h.paths, List.nodup_singleton _, fun a ha b hb hab => by
      obtain rfl := List.mem_singleton.1 hb
      exact hpath (hab ▸ ha)⟩
  cases hfolder : item.isFolder with
  | true =>
    refine ⟨⟨hpaths, ?_, ?_, ?_, ?_, ?_, ?_, hlatest, hsamples, ?_⟩, ?_⟩
    · simp [h.observed]
    · simp [h.scheduled, folderPaths, hfolder]
    · have hnew : item.path ∉ t.scheduled := hscheduled hfolder
      simp only [if_true]
      exact List.nodup_append.2 ⟨h.scheduled_nodup, List.nodup_singleton _, fun a ha b hb hab => by
        obtain rfl := List.mem_singleton.1 hb
        exact hnew (hab ▸ ha)⟩
    · simp [h.files, hfolder]
    · simp [h.folders, hfolder]
    · simp [h.totalBytes, fileBytes, hfolder]
    · simp only [Tally.count, if_true] at hlimit ⊢
      omega
    · simp [folderPaths, hfolder]
  | false =>
    refine ⟨⟨hpaths, ?_, ?_, ?_, ?_, ?_, ?_, hlatest, hsamples, ?_⟩, ?_⟩
    · simp [h.observed]
    · simp [h.scheduled, folderPaths, hfolder]
    · simpa using h.scheduled_nodup
    · simp [h.files, hfolder]
    · simp [h.folders, hfolder]
    · simp [h.totalBytes, fileBytes, hfolder, hbytes]
    · simp only [Tally.count, Bool.false_eq_true, if_false] at hlimit ⊢
      omega
    · simp [folderPaths, hfolder]

/-- The items of a page: all of them, or those below the limit. -/
lemma takeItems (h : Tallied d items t) {complete : Bool}
    (htake : d.takeItems t rest = some (complete, t')) :
    ∃ taken left, rest = taken ++ left ∧ Tallied d (items ++ taken) t' ∧
      t'.pending = t.pending ++ folderPaths taken ∧ (complete = true → left = []) := by
  induction rest generalizing items t with
  | nil =>
    obtain ⟨rfl, rfl⟩ := Prod.mk.inj (Option.some.inj htake)
    exact ⟨[], [], rfl, by simpa using h, by simp [folderPaths], fun _ => rfl⟩
  | cons item rest ih =>
    rw [DocumentTreeDiscovery.takeItems] at htake
    split at htake
    · obtain ⟨rfl, rfl⟩ := Prod.mk.inj (Option.some.inj htake)
      exact ⟨[], item :: rest, rfl, by simpa using h, by simp [folderPaths], nofun⟩
    · next hlimit =>
      obtain ⟨t₁, hitem, hrest⟩ := Option.bind_eq_some_iff.1 htake
      obtain ⟨h₁, hpending₁⟩ := h.takeItem hlimit hitem
      obtain ⟨taken, left, rfl, h₂, hpending₂, hleft⟩ := ih h₁ hrest
      refine ⟨item :: taken, left, rfl, ?_, ?_, hleft⟩
      · rw [List.append_assoc] at h₂
        exact h₂
      · rw [hpending₂, hpending₁, List.append_assoc]
        rw [← folderPaths_append]
        rfl

end Tallied

/-! ## The calls of a folder -/

/-- The calls that have listed a folder to its last page, each with a cursor of its own. -/
def Listed (folder : String) (calls : List ListCall) : Prop :=
  ∃ cursors : List String, cursors.Nodup ∧ (∀ c ∈ calls, c.folder = folder) ∧
    calls.map ListCall.cursor = none :: cursors.map some ∧
    (calls.map fun c => c.page.nextCursor) = cursors.map some ++ [none]

/-- The calls for a folder that is being listed, up to the one with the next cursor. -/
structure Listing (folder : String) (cursor : Option String) (seenCursors : List String)
    (calls : List ListCall) : Prop where
  nodup : seenCursors.Nodup
  folder : ∀ c ∈ calls, c.folder = folder
  cursors : calls.map ListCall.cursor ++ [cursor] = none :: seenCursors.reverse.map some
  nextCursors : (calls.map fun c => c.page.nextCursor) = seenCursors.reverse.map some

namespace Listing

variable {folder : String} {cursor : Option String} {seenCursors : List String}
  {calls : List ListCall} {page : DocumentPage}

lemma start (folder : String) : Listing folder none [] [] :=
  ⟨List.nodup_nil, nofun, rfl, rfl⟩

lemma last (h : Listing folder cursor seenCursors calls) (hlast : page.nextCursor = none) :
    Listed folder (calls ++ [ListCall.mk folder cursor page]) := by
  refine ⟨seenCursors.reverse, List.nodup_reverse.2 h.nodup, fun c hc => ?_, ?_, ?_⟩
  · rcases List.mem_append.1 hc with hc | hc
    · exact h.folder c hc
    · rw [List.mem_singleton.1 hc]
  · rw [List.map_append]
    exact h.cursors
  · rw [List.map_append, h.nextCursors]
    simp [hlast]

lemma more (h : Listing folder cursor seenCursors calls) {c : String}
    (hnext : page.nextCursor = some c) (hfresh : c ∉ seenCursors) :
    Listing folder (some c) (c :: seenCursors) (calls ++ [ListCall.mk folder cursor page]) := by
  refine ⟨List.nodup_cons.2 ⟨hfresh, h.nodup⟩, fun c hc => ?_, ?_, ?_⟩
  · rcases List.mem_append.1 hc with hc | hc
    · exact h.folder c hc
    · rw [List.mem_singleton.1 hc]
  · rw [List.map_append]
    show calls.map ListCall.cursor ++ [cursor] ++ [some c] = _
    rw [h.cursors]
    simp
  · rw [List.map_append, h.nextCursors]
    simp [hnext]

end Listing

/-! ## The calls of an inspection -/

/-- The folders that are listed, each with its calls. -/
abbrev Blocks : Type := List (String × List ListCall)

/-- The calls of some folders. -/
def Blocks.calls (blocks : Blocks) : List ListCall := (blocks.map Prod.snd).flatten

/-- Every folder of the tree is listed once, in the order in which it was found, and the
inventory describes all items. -/
structure Exact (d : DocumentTreeDiscovery) (calls : List ListCall)
    (inventory : DocumentInventory) : Prop where
  blocks : ∃ blocks : Blocks, calls = blocks.calls ∧ (∀ b ∈ blocks, Listed b.1 b.2) ∧
    blocks.map Prod.fst = "" :: folderPaths (itemsOf calls) ∧ (blocks.map Prod.fst).Nodup
  paths : ((itemsOf calls).map DocumentItem.path).Nodup
  fileCount : inventory.fileCount = ((itemsOf calls).filter (!·.isFolder)).length
  folderCount : inventory.folderCount = ((itemsOf calls).filter (·.isFolder)).length
  totalBytes : inventory.totalBytes = fileBytes (itemsOf calls)
  pageCount : inventory.pageCount = calls.length
  latestModifiedAt : IsLatest inventory.latestModifiedAt (timesOf (itemsOf calls))
  samplePaths : inventory.samplePaths =
    smallest d.sampleSize ((itemsOf calls).map DocumentItem.path)

/-- What has been listed while a folder is being listed. -/
structure Walked (d : DocumentTreeDiscovery) (s : Inspection) (folder : String)
    (cursor : Option String) (seenCursors : List String) (blocks : Blocks)
    (current : List ListCall) : Prop where
  tallied : Tallied d (itemsOf s.calls) s.tally
  pages : s.pages = s.calls.length
  calls : s.calls = blocks.calls ++ current
  listed : ∀ b ∈ blocks, Listed b.1 b.2
  listing : Listing folder cursor seenCursors current
  order : blocks.map Prod.fst ++ folder :: s.tally.pending = s.tally.scheduled

/-- What holds of an inspection after any answers. -/
def Inspected (d : DocumentTreeDiscovery) (s : Inspection) : Prop :=
  match s.phase with
  | .listing folder cursor seenCursors =>
    ∃ blocks current, Walked d s folder cursor seenCursors blocks current
  | .ended none => True
  | .ended (some inventory) =>
    inventory.fileCount + inventory.folderCount ≤ d.maximumItems ∧
      (inventory.complete = true → Exact d s.calls inventory)

lemma Tally.inventory_eq_some {t : Tally} {pageCount : ℕ} {complete : Bool}
    {inventory : DocumentInventory} (h : t.inventory pageCount complete = some inventory) :
    inventory.fileCount = t.files ∧ inventory.folderCount = t.folders ∧
      inventory.totalBytes = t.totalBytes ∧ inventory.pageCount = pageCount ∧
      inventory.latestModifiedAt = t.latest ∧ inventory.samplePaths = t.samples ∧
      inventory.complete = complete := by
  simp only [Tally.inventory, Option.bind_eq_bind, Option.bind_eq_some_iff,
    Option.guard_eq_some', Option.pure_def, Option.some.injEq] at h
  obtain ⟨-, -, -, -, rfl⟩ := h
  exact ⟨rfl, rfl, rfl, rfl, rfl, rfl, rfl⟩

section Step

variable {s : Inspection} {folder : String} {cursor : Option String} {seenCursors : List String}
  {blocks : Blocks} {current : List ListCall} {page : DocumentPage} {tally : Tally}

lemma itemsOf_append_singleton (calls : List ListCall) (call : ListCall) :
    itemsOf (calls ++ [call]) = itemsOf calls ++ call.page.items := by
  simp [itemsOf]

/-- A page whose items are all taken. -/
lemma Walked.takePage (h : Walked d s folder cursor seenCursors blocks current)
    (htake : d.takeItems s.tally page.items = some (true, tally)) :
    Tallied d (itemsOf (s.received { folder, cursor, page }).calls) tally ∧
      blocks.map Prod.fst ++ folder :: tally.pending = tally.scheduled := by
  obtain ⟨taken, left, hitems, htallied, hpending, hleft⟩ := h.tallied.takeItems htake
  rw [hleft rfl, List.append_nil] at hitems
  refine ⟨?_, ?_⟩
  · show Tallied d (itemsOf (s.calls ++ [_])) tally
    rw [itemsOf_append_singleton, hitems]
    exact htallied
  · have horder := h.order
    rw [h.tallied.scheduled] at horder
    rw [hpending, htallied.scheduled, folderPaths_append]
    simpa using congrArg (· ++ folderPaths taken) horder

/-- The last page of a folder. -/
lemma Walked.nextFolder (h : Walked d s folder cursor seenCursors blocks current)
    (htake : d.takeItems s.tally page.items = some (true, tally))
    (hlast : page.nextCursor = none) :
    Inspected d
      (Inspection.nextFolder { s.received { folder, cursor, page } with tally }) := by
  obtain ⟨htallied, horder⟩ := h.takePage htake
  have hpages : (s.received { folder, cursor, page }).pages =
      (s.received { folder, cursor, page }).calls.length := by
    simp [Inspection.received, h.pages]
  have hlisted : ∀ b ∈ blocks ++ [(folder, current ++ [ListCall.mk folder cursor page])],
      Listed b.1 b.2 := by
    intro b hb
    rcases List.mem_append.1 hb with hb | hb
    · exact h.listed b hb
    · rw [List.mem_singleton.1 hb]
      exact h.listing.last hlast
  have hcalls : (s.received { folder, cursor, page }).calls =
      Blocks.calls (blocks ++ [(folder, current ++ [ListCall.mk folder cursor page])]) := by
    simp [Inspection.received, h.calls, Blocks.calls]
  rw [Inspection.nextFolder]
  cases hpending : tally.pending with
  | nil =>
    rw [hpending] at horder
    dsimp only
    show Inspected d { s.received _ with tally, phase := .ended _ }
    rw [Inspected]
    dsimp only
    cases hinventory : tally.inventory (s.received { folder, cursor, page }).pages true with
    | none => trivial
    | some inventory =>
      obtain ⟨hfiles, hfolders, hbytes, hcount, hlatest, hsamples, -⟩ :=
        Tally.inventory_eq_some hinventory
      refine ⟨by rw [hfiles, hfolders]; exact htallied.limit, fun _ => ?_⟩
      refine ⟨⟨_, hcalls, hlisted, ?_, ?_⟩, htallied.paths, hfiles.trans htallied.files,
        hfolders.trans htallied.folders, hbytes.trans htallied.totalBytes, hcount.trans hpages,
        hlatest ▸ htallied.latest, hsamples.trans htallied.samples⟩
      · rw [← htallied.scheduled, ← horder]
        simp
      · rw [show (blocks ++ [(folder, current ++ [ListCall.mk folder cursor page])]).map Prod.fst =
          tally.scheduled by rw [← horder]; simp]
        exact htallied.scheduled_nodup
  | cons next pending =>
    rw [hpending] at horder
    refine ⟨blocks ++ [(folder, current ++ [ListCall.mk folder cursor page])], [],
      htallied.withPending pending, hpages, ?_, hlisted, Listing.start next, ?_⟩
    · rw [List.append_nil]
      exact hcalls
    · show (blocks ++ [_]).map Prod.fst ++ next :: pending = tally.scheduled
      rw [← horder]
      simp

/-- A page with a cursor for the next one. -/
lemma Walked.nextPage (h : Walked d s folder cursor seenCursors blocks current)
    (htake : d.takeItems s.tally page.items = some (true, tally)) {c : String}
    (hnext : page.nextCursor = some c) (hfresh : c ∉ seenCursors) :
    Inspected d { s.received { folder, cursor, page } with
      phase := .listing folder (some c) (c :: seenCursors), tally } := by
  obtain ⟨htallied, horder⟩ := h.takePage htake
  refine ⟨blocks, current ++ [ListCall.mk folder cursor page], htallied, ?_, ?_, h.listed,
    h.listing.more hnext hfresh, horder⟩
  · simp [Inspection.received, h.pages]
  · simp [Inspection.received, h.calls]

/-- One answer of the store. -/
lemma Inspected.step (h : Inspected d s) (answer : Option DocumentPage) :
    Inspected d (s.step d answer) := by
  rw [Inspection.step.eq_def]
  cases hphase : s.phase with
  | ended result => exact h
  | listing folder cursor seenCursors =>
    rw [Inspected, hphase] at h
    obtain ⟨blocks, current, hwalked⟩ := h
    cases answer with
    | none => trivial
    | some page =>
      dsimp only
      split
      · trivial
      · next tally htake =>
        -- the limit is reached
        obtain ⟨taken, left, -, htallied, -, -⟩ := hwalked.tallied.takeItems htake
        rw [Inspected]
        dsimp only
        cases hinventory : tally.inventory (s.received ⟨folder, cursor, page⟩).pages false with
        | none => trivial
        | some inventory =>
          obtain ⟨hfiles, hfolders, -, -, -, -, hcomplete⟩ := Tally.inventory_eq_some hinventory
          refine ⟨by rw [hfiles, hfolders]; exact htallied.limit, fun h => ?_⟩
          rw [hcomplete] at h
          cases h
      · next tally htake =>
        split
        · next hlast => exact hwalked.nextFolder htake hlast
        · next c hnext =>
          split
          · trivial
          · next hfresh => exact hwalked.nextPage htake hnext hfresh

end Step

/-- The inspection of any store. -/
lemma inspected (d : DocumentTreeDiscovery) (answers : ℕ → Option DocumentPage) (n : ℕ) :
    Inspected d (Inspection.after d answers n) := by
  induction n with
  | zero =>
    exact ⟨[], [], Tallied.start, rfl, rfl, nofun, Listing.start "", rfl⟩
  | succ n ih => exact ih.step (answers n)

end AgenticMesh.ImportDiscovery
