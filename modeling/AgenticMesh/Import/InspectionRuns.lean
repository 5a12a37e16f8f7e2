import AgenticMesh.Import.DocumentTree

/-!
# Runs of an inspection

How many calls of `list` an inspection makes, when it ends, and what it notices.  Every page
with items uses up some of the limit and every last page one of the folders; only an empty
page with a new cursor costs nothing, and the store may send these forever.
-/

namespace AgenticMesh.ImportDiscovery

variable {d : DocumentTreeDiscovery} {s : Inspection} {answer : Option DocumentPage}
  {folder : String} {cursor : Option String} {seenCursors : List String} {blocks : Blocks}
  {current calls : List ListCall}

/-! ## Repetitions -/

/-- The cursors that the store has given for a folder. -/
def cursorsOf (folder : String) (calls : List ListCall) : List String :=
  (calls.filter (·.folder = folder)).filterMap fun c => c.page.nextCursor

/-- The pages repeat a path, or the pages of one folder repeat a cursor. -/
def Repeats (calls : List ListCall) : Prop :=
  ¬ ((itemsOf calls).map DocumentItem.path).Nodup ∨ ∃ folder, ¬ (cursorsOf folder calls).Nodup

lemma cursorsOf_append (folder : String) (calls others : List ListCall) :
    cursorsOf folder (calls ++ others) = cursorsOf folder calls ++ cursorsOf folder others := by
  rw [cursorsOf, List.filter_append, List.filterMap_append, cursorsOf, cursorsOf]

lemma cursorsOf_eq_nil {other : String} (h : ∀ c ∈ calls, c.folder ≠ other) :
    cursorsOf other calls = [] := by
  rw [cursorsOf, List.filter_eq_nil_iff.2 fun c hc => by simpa using h c hc]
  rfl

lemma nodup_cursorsOf_of_listed (h : Listed folder calls) : (cursorsOf folder calls).Nodup := by
  obtain ⟨cursors, hnodup, hfolder, -, hnext⟩ := h
  have hcursors : cursorsOf folder calls = cursors := by
    rw [cursorsOf, List.filter_eq_self.2 fun c hc => by simpa using hfolder c hc]
    have hid := congrArg (List.filterMap id) hnext
    rw [List.filterMap_map, List.filterMap_append, List.filterMap_map] at hid
    simpa using hid
  rw [hcursors]
  exact hnodup

/-- Folders that are listed once have cursors of their own. -/
lemma nodup_cursorsOf (hlisted : ∀ b ∈ blocks, Listed b.1 b.2)
    (hnodup : (blocks.map Prod.fst).Nodup) (other : String) :
    (cursorsOf other blocks.calls).Nodup := by
  induction blocks with
  | nil => exact List.nodup_nil
  | cons b blocks ih =>
    rw [List.map_cons, List.nodup_cons] at hnodup
    have hsplit : cursorsOf other (Blocks.calls (b :: blocks)) =
        cursorsOf other b.2 ++ cursorsOf other (Blocks.calls blocks) := by
      rw [← cursorsOf_append]
      rfl
    have hrest := ih (fun b' hb' => hlisted b' (List.mem_cons_of_mem _ hb')) hnodup.2
    obtain ⟨cursors, -, hfolder, -⟩ := hlisted b (List.mem_cons_self ..)
    rw [hsplit]
    by_cases hother : b.1 = other
    · -- the other folders are not this one
      have hnone : cursorsOf other (Blocks.calls blocks) = [] := by
        refine cursorsOf_eq_nil fun c hc hcfolder => ?_
        obtain ⟨_, hcalls, hc⟩ := List.mem_flatten.1 hc
        obtain ⟨b', hb', rfl⟩ := List.mem_map.1 hcalls
        obtain ⟨-, -, hfolder', -⟩ := hlisted b' (List.mem_cons_of_mem _ hb')
        refine hnodup.1 (List.mem_map.2 ⟨b', hb', ?_⟩)
        rw [← hfolder' c hc, hcfolder, hother]
      rw [hnone, List.append_nil, ← hother]
      exact nodup_cursorsOf_of_listed (hlisted b (List.mem_cons_self ..))
    · rw [cursorsOf_eq_nil fun c hc hcfolder => hother (by rw [← hfolder c hc, hcfolder])]
      exact hrest

lemma Exact.not_repeats {inventory : DocumentInventory} (h : Exact d calls inventory) :
    ¬ Repeats calls := by
  obtain ⟨blocks, rfl, hlisted, -, hnodup⟩ := h.blocks
  rintro (hpaths | ⟨other, hcursors⟩)
  · exact hpaths h.paths
  · exact hcursors (nodup_cursorsOf hlisted hnodup other)

/-! ## The number of calls -/

/-- An empty page that is not the last one. -/
def ListCall.idle (c : ListCall) : Bool := c.page.items.isEmpty && c.page.nextCursor.isSome

/-- Of the calls that bring something, every one shows an item or ends a folder. -/
lemma countP_not_idle_le (calls : List ListCall) :
    calls.countP (!·.idle) ≤ (itemsOf calls).length +
      calls.countP fun c => c.page.nextCursor.isNone := by
  induction calls with
  | nil => exact Nat.zero_le _
  | cons c calls ih =>
    have hitems : (itemsOf (c :: calls)).length = c.page.items.length + (itemsOf calls).length := by
      simp [itemsOf]
    have hle : (if (!c.idle) = true then 1 else 0) ≤ 1 := by split <;> omega
    rw [hitems, List.countP_cons, List.countP_cons]
    cases hnext : c.page.nextCursor with
    | none =>
      rw [if_pos (by rfl : (none : Option String).isNone = true)]
      omega
    | some cursor =>
      by_cases hempty : c.page.items = []
      · have hidle : c.idle = true := by simp [ListCall.idle, hempty, hnext]
        rw [hidle, if_neg (by decide)]
        omega
      · have hpos := List.length_pos_iff.2 hempty
        omega

lemma countP_last_of_listed (h : Listed folder calls) :
    calls.countP (fun c => c.page.nextCursor.isNone) = 1 := by
  obtain ⟨cursors, -, -, -, hnext⟩ := h
  have hcount := congrArg (List.countP Option.isNone) hnext
  rw [List.countP_map, List.countP_append] at hcount
  have hnone : (cursors.map some).countP Option.isNone = 0 := by
    rw [List.countP_eq_zero]
    intro c hc
    obtain ⟨a, -, rfl⟩ := List.mem_map.1 hc
    simp
  rw [hnone] at hcount
  exact hcount

lemma countP_last_of_listing (h : Listing folder cursor seenCursors calls) :
    calls.countP (fun c => c.page.nextCursor.isNone) = 0 := by
  rw [List.countP_eq_zero]
  intro c hc
  have hnext : c.page.nextCursor ∈ calls.map fun c => c.page.nextCursor :=
    List.mem_map_of_mem hc
  rw [h.nextCursors] at hnext
  obtain ⟨a, -, ha⟩ := List.mem_map.1 hnext
  simp [← ha]

lemma countP_last_blocks (h : ∀ b ∈ blocks, Listed b.1 b.2) :
    blocks.calls.countP (fun c => c.page.nextCursor.isNone) = blocks.length := by
  induction blocks with
  | nil => rfl
  | cons b blocks ih =>
    show (b.2 ++ Blocks.calls blocks).countP _ = _
    rw [List.countP_append, countP_last_of_listed (h b (List.mem_cons_self ..)),
      ih fun b' hb' => h b' (List.mem_cons_of_mem _ hb'), List.length_cons, Nat.add_comm]

/-- While a folder is being listed. -/
lemma Walked.countP_not_idle_le (h : Walked d s folder cursor seenCursors blocks current) :
    s.calls.countP (!·.idle) ≤ 2 * d.maximumItems := by
  have hlast : s.calls.countP (fun c => c.page.nextCursor.isNone) = blocks.length := by
    rw [h.calls, List.countP_append, countP_last_blocks h.listed, countP_last_of_listing h.listing,
      Nat.add_zero]
  have hitems : (itemsOf s.calls).length ≤ d.maximumItems := by
    rw [← h.tallied.count_eq]
    exact h.tallied.limit
  have hfolders : (folderPaths (itemsOf s.calls)).length ≤ (itemsOf s.calls).length := by
    rw [folderPaths, List.length_map]
    exact List.length_filter_le _ _
  have hblocks := congrArg List.length (h.order.trans h.tallied.scheduled)
  simp only [List.length_append, List.length_map, List.length_cons] at hblocks
  have hbound := ImportDiscovery.countP_not_idle_le s.calls
  omega

/-! ## Steps -/

lemma step_of_ended (h : s.phase.isEnded = true) : s.step d answer = s := by
  rw [Inspection.step.eq_def]
  cases hphase : s.phase with
  | listing folder cursor seenCursors => rw [hphase] at h; cases h
  | ended result => rfl

lemma nextFolder_calls : s.nextFolder.calls = s.calls := by
  rw [Inspection.nextFolder]
  split <;> rfl

/-- A page is received, whatever becomes of it. -/
lemma calls_step (hphase : s.phase = .listing folder cursor seenCursors) (page : DocumentPage) :
    (s.step d (some page)).calls = s.calls ++ [.mk folder cursor page] := by
  rw [Inspection.step.eq_def, hphase]
  dsimp only
  split
  · rfl
  · rfl
  · split
    · exact nextFolder_calls
    · split <;> rfl

/-- An inspection that goes on has received a page whose cursor is new. -/
lemma listing_of_running (h : (s.step d answer).phase.isEnded = false) :
    ∃ folder cursor seenCursors page, s.phase = .listing folder cursor seenCursors ∧
      answer = some page ∧ ∀ c, page.nextCursor = some c → c ∉ seenCursors := by
  rw [Inspection.step.eq_def] at h
  cases hphase : s.phase with
  | ended result =>
    rw [hphase] at h
    dsimp only at h
    rw [hphase] at h
    cases h
  | listing folder cursor seenCursors =>
    rw [hphase] at h
    cases answer with
    | none => cases h
    | some page =>
      refine ⟨folder, cursor, seenCursors, page, rfl, rfl, fun c hnext hseen => ?_⟩
      dsimp only at h
      split at h
      · cases h
      · cases h
      · rw [hnext] at h
        dsimp only at h
        rw [if_pos hseen] at h
        cases h

/-! ## The end of an inspection -/

/-- The store answers with an empty page and a new cursor. -/
def Stalls (s : Inspection) (answer : Option DocumentPage) : Prop :=
  ∃ folder cursor seenCursors page c, s.phase = .listing folder cursor seenCursors ∧
    answer = some page ∧ page.items = [] ∧ page.nextCursor = some c ∧ c ∉ seenCursors

lemma Stalls.running (h : Stalls s answer) : (s.step d answer).phase.isEnded = false := by
  obtain ⟨folder, cursor, seenCursors, page, c, hphase, rfl, hitems, hnext, hfresh⟩ := h
  rw [Inspection.step.eq_def, hphase]
  dsimp only
  rw [hitems]
  dsimp only [DocumentTreeDiscovery.takeItems]
  rw [hnext]
  dsimp only
  rw [if_neg hfresh]
  rfl

/-- A step that does not stall brings something. -/
lemma countP_step (h : (s.step d answer).phase.isEnded = false) (hstalls : ¬ Stalls s answer) :
    (s.step d answer).calls.countP (!·.idle) = s.calls.countP (!·.idle) + 1 := by
  obtain ⟨folder, cursor, seenCursors, page, hphase, rfl, hfresh⟩ := listing_of_running h
  have hidle : ListCall.idle (.mk folder cursor page) = false := by
    rw [← Bool.not_eq_true]
    intro hidle
    obtain ⟨hitems, hnext⟩ := Bool.and_eq_true_iff.1 hidle
    obtain ⟨c, hc⟩ := Option.isSome_iff_exists.1 hnext
    exact hstalls ⟨folder, cursor, seenCursors, page, c, hphase, rfl, List.isEmpty_iff.1 hitems,
      hc, hfresh c hc⟩
  rw [calls_step hphase, List.countP_append, List.countP_singleton, hidle]
  rfl

lemma countP_le_step : s.calls.countP (!·.idle) ≤ (s.step d answer).calls.countP (!·.idle) ∧
    (s.step d answer).calls.countP (!·.idle) ≤ s.calls.countP (!·.idle) + 1 := by
  cases hphase : s.phase with
  | ended result =>
    rw [step_of_ended (by rw [hphase]; rfl)]
    exact ⟨le_rfl, Nat.le_succ _⟩
  | listing folder cursor seenCursors =>
    cases answer with
    | none =>
      have hcalls : (s.step d none).calls = s.calls := by
        rw [Inspection.step.eq_def, hphase]
      rw [hcalls]
      exact ⟨le_rfl, Nat.le_succ _⟩
    | some page =>
      rw [calls_step hphase, List.countP_append]
      have hle : [ListCall.mk folder cursor page].countP (!·.idle) ≤ _ := List.countP_le_length
      rw [List.length_singleton] at hle
      omega

variable (d) in
/-- While it runs. -/
lemma countP_le_of_running {answers : ℕ → Option DocumentPage} {n : ℕ}
    (h : (Inspection.after d answers n).phase.isEnded = false) :
    (Inspection.after d answers n).calls.countP (!·.idle) ≤ 2 * d.maximumItems := by
  have hinspected := inspected d answers n
  rw [Inspected] at hinspected
  cases hphase : (Inspection.after d answers n).phase with
  | ended result => rw [hphase] at h; cases h
  | listing folder cursor seenCursors =>
    rw [hphase] at hinspected
    obtain ⟨blocks, current, hwalked⟩ := hinspected
    exact hwalked.countP_not_idle_le

/-- **The number of calls.** -/
theorem length_calls_le (answers : ℕ → Option DocumentPage) (n : ℕ) :
    (Inspection.after d answers n).calls.length ≤
      2 * d.maximumItems + 1 + (Inspection.after d answers n).calls.countP ListCall.idle := by
  have hcount : (Inspection.after d answers n).calls.countP (!·.idle) ≤
      2 * d.maximumItems + 1 := by
    induction n with
    | zero => exact Nat.zero_le _
    | succ n ih =>
      by_cases hended : (Inspection.after d answers n).phase.isEnded = true
      · show (Inspection.step d _ _).calls.countP _ ≤ _
        rw [step_of_ended hended]
        exact ih
      · have hrunning := countP_le_of_running d (by simpa using hended)
        exact countP_le_step.2.trans (Nat.succ_le_succ hrunning)
  have hnot : (Inspection.after d answers n).calls.countP (fun c => ¬ c.idle = true) =
      (Inspection.after d answers n).calls.countP (!·.idle) :=
    List.countP_congr fun c _ => by simp
  rw [List.length_eq_countP_add_countP ListCall.idle, hnot]
  omega

/-- **Termination.**  An inspection ends unless from some call on the store does nothing but
stall. -/
theorem ends_iff (answers : ℕ → Option DocumentPage) :
    (∃ n, (Inspection.after d answers n).phase.isEnded = true) ↔
      ¬ ∃ N, ∀ n ≥ N, Stalls (Inspection.after d answers n) (answers n) := by
  constructor
  · rintro ⟨n, hended⟩ ⟨N, hstalls⟩
    have hstays : ∀ m ≥ n, (Inspection.after d answers m).phase.isEnded = true := by
      intro m hm
      induction m, hm using Nat.le_induction with
      | base => exact hended
      | succ m _ ih =>
        show (Inspection.step d _ _).phase.isEnded = true
        rw [step_of_ended ih]
        exact ih
    have hrunning : (Inspection.step d _ _).phase.isEnded = false :=
      (hstalls (max n N) (le_max_right _ _)).running
    have hafter := hstays (max n N + 1) ((le_max_left _ _).trans (Nat.le_succ _))
    rw [Inspection.after, hrunning] at hafter
    cases hafter
  · intro hstalls
    by_contra hnever
    simp only [not_exists, Bool.not_eq_true] at hnever
    simp only [not_exists, not_forall] at hstalls
    -- each step that does not stall brings something, and these steps do not stop
    have hmono : ∀ n m, n ≤ m → (Inspection.after d answers n).calls.countP (!·.idle) ≤
        (Inspection.after d answers m).calls.countP (!·.idle) := by
      intro n m hm
      induction m, hm using Nat.le_induction with
      | base => exact le_rfl
      | succ m _ ih => exact ih.trans countP_le_step.1
    have hgrows : ∀ k, ∃ n, k ≤ (Inspection.after d answers n).calls.countP (!·.idle) := by
      intro k
      induction k with
      | zero => exact ⟨0, Nat.zero_le _⟩
      | succ k ih =>
        obtain ⟨N, hN⟩ := ih
        obtain ⟨n, hn, hstall⟩ := hstalls N
        refine ⟨n + 1, ?_⟩
        show k + 1 ≤ (Inspection.step d _ _).calls.countP _
        rw [countP_step (hnever (n + 1)) hstall]
        exact Nat.succ_le_succ (hN.trans (hmono N n hn))
    obtain ⟨n, hn⟩ := hgrows (2 * d.maximumItems + 1)
    have hbound := countP_le_of_running d (hnever n)
    omega

/-! ## What an inspection reports -/

/-- The limit is reached in a page, and the pages so far repeat a path or a cursor.  What lies
beyond the limit is not compared with what has been counted. -/
def Conceals (d : DocumentTreeDiscovery) (s : Inspection) (answer : Option DocumentPage) : Prop :=
  ∃ folder cursor seenCursors page tally, s.phase = .listing folder cursor seenCursors ∧
    answer = some page ∧ d.takeItems s.tally page.items = some (false, tally) ∧
    (tally.inventory (s.pages + 1) false).isSome = true ∧
    Repeats (s.calls ++ [.mk folder cursor page])

/-- At the limit. -/
lemma step_of_limit (hphase : s.phase = .listing folder cursor seenCursors)
    {page : DocumentPage} {tally : Tally}
    (htake : d.takeItems s.tally page.items = some (false, tally)) :
    (s.step d (some page)).phase = .ended (tally.inventory (s.pages + 1) false) := by
  have htake' : d.takeItems (s.received { folder, cursor, page }).tally page.items =
      some (false, tally) := htake
  rw [Inspection.step.eq_def, hphase]
  dsimp only
  rw [htake']
  rfl

/-- An inventory that is not complete comes from the limit. -/
lemma limit_of_incomplete (hphase : s.phase = .listing folder cursor seenCursors)
    {inventory : DocumentInventory} (h : (s.step d answer).phase = .ended (some inventory))
    (hcomplete : inventory.complete = false) :
    ∃ page tally, answer = some page ∧
      d.takeItems s.tally page.items = some (false, tally) ∧
      tally.inventory (s.pages + 1) false = some inventory := by
  cases answer with
  | none =>
    rw [Inspection.step.eq_def, hphase] at h
    cases h
  | some page =>
    cases htake : d.takeItems s.tally page.items with
    | none =>
      have htake' : d.takeItems (s.received { folder, cursor, page }).tally page.items = none :=
        htake
      rw [Inspection.step.eq_def, hphase] at h
      dsimp only at h
      rw [htake'] at h
      cases h
    | some result =>
      obtain ⟨complete, tally⟩ := result
      cases complete with
      | false =>
        rw [step_of_limit hphase htake] at h
        exact ⟨page, tally, rfl, htake, InspectionPhase.ended.inj h⟩
      | true =>
        exfalso
        have htake' : d.takeItems (s.received { folder, cursor, page }).tally page.items =
          some (true, tally) := htake
        rw [Inspection.step.eq_def, hphase] at h
        dsimp only at h
        rw [htake'] at h
        dsimp only at h
        split at h
        · rw [Inspection.nextFolder] at h
          split at h
          · have hinventory := (Tally.inventory_eq_some (InspectionPhase.ended.inj h)).2.2.2.2.2.2
            rw [hcomplete] at hinventory
            cases hinventory
          · cases h
        · split at h <;> cases h

/-- What is asked of an inspection: it ends, after a number of calls that the limit and the
empty pages bound; it counts no more items than the limit; an inventory that is complete is
exact; and no inventory is made of pages with a repetition. -/
structure Sound (d : DocumentTreeDiscovery) (answers : ℕ → Option DocumentPage) : Prop where
  ends : ∃ n, (Inspection.after d answers n).phase.isEnded = true
  calls : ∀ n, (Inspection.after d answers n).calls.length ≤
    2 * d.maximumItems + 1 + (Inspection.after d answers n).calls.countP ListCall.idle
  limit : ∀ n inventory, (Inspection.after d answers n).phase = .ended (some inventory) →
    inventory.fileCount + inventory.folderCount ≤ d.maximumItems
  exact : ∀ n inventory, (Inspection.after d answers n).phase = .ended (some inventory) →
    inventory.complete = true → Exact d (Inspection.after d answers n).calls inventory
  repeats : ∀ n inventory, (Inspection.after d answers n).phase = .ended (some inventory) →
    ¬ Repeats (Inspection.after d answers n).calls

variable {answers : ℕ → Option DocumentPage}

lemma inspected_of_ended {n : ℕ} {inventory : DocumentInventory}
    (h : (Inspection.after d answers n).phase = .ended (some inventory)) :
    inventory.fileCount + inventory.folderCount ≤ d.maximumItems ∧
      (inventory.complete = true → Exact d (Inspection.after d answers n).calls inventory) := by
  have hinspected := inspected d answers n
  rw [Inspected, h] at hinspected
  exact hinspected

/-- No repetition is overlooked below the limit. -/
lemma not_repeats_of_not_conceals
    (hconceals : ∀ n, ¬ Conceals d (Inspection.after d answers n) (answers n)) {n : ℕ}
    {inventory : DocumentInventory}
    (h : (Inspection.after d answers n).phase = .ended (some inventory)) :
    ¬ Repeats (Inspection.after d answers n).calls := by
  induction n with
  | zero => cases h
  | succ n ih =>
    cases hcomplete : inventory.complete with
    | true => exact ((inspected_of_ended h).2 hcomplete).not_repeats
    | false =>
      rw [Inspection.after] at h ⊢
      cases hphase : (Inspection.after d answers n).phase with
      | ended result =>
        rw [step_of_ended (by rw [hphase]; rfl)] at h ⊢
        exact ih h
      | listing folder cursor seenCursors =>
        obtain ⟨page, tally, hanswer, htake, hinventory⟩ := limit_of_incomplete hphase h hcomplete
        rw [hanswer, calls_step hphase]
        intro hrepeats
        exact hconceals n ⟨folder, cursor, seenCursors, page, tally, hphase, hanswer, htake,
          by rw [hinventory]; rfl, hrepeats⟩

/-- **Inspections.**  An inspection is sound exactly when the store does not go on forever with
empty pages under new cursors and the limit conceals no repetition. -/
theorem inspect_iff (d : DocumentTreeDiscovery) (answers : ℕ → Option DocumentPage) :
    Sound d answers ↔
      (¬ ∃ N, ∀ n ≥ N, Stalls (Inspection.after d answers n) (answers n)) ∧
        ∀ n, ¬ Conceals d (Inspection.after d answers n) (answers n) := by
  constructor
  · intro h
    refine ⟨(ends_iff answers).1 h.ends, ?_⟩
    rintro n ⟨folder, cursor, seenCursors, page, tally, hphase, hanswer, htake, hsome, hrepeats⟩
    obtain ⟨inventory, hinventory⟩ := Option.isSome_iff_exists.1 hsome
    refine h.repeats (n + 1) inventory ?_ ?_
    · rw [Inspection.after, hanswer, step_of_limit hphase htake, hinventory]
    · rw [Inspection.after, hanswer, calls_step hphase]
      exact hrepeats
  · rintro ⟨hstalls, hconceals⟩
    exact ⟨(ends_iff answers).2 hstalls, length_calls_le answers,
      fun n inventory h => (inspected_of_ended h).1,
      fun n inventory h => (inspected_of_ended h).2,
      fun n inventory h => not_repeats_of_not_conceals hconceals h⟩

/-- A store that answers every call with an empty page and a new cursor. -/
def emptyPages (n : ℕ) : Option DocumentPage := some { items := [], nextCursor := some (decimal n) }

lemma emptyPages_listing (d : DocumentTreeDiscovery) (n : ℕ) :
    ∃ cursor seenCursors, (Inspection.after d emptyPages n).phase =
      .listing "" cursor seenCursors ∧ ∀ m ≥ n, decimal m ∉ seenCursors := by
  induction n with
  | zero => exact ⟨none, [], rfl, nofun⟩
  | succ n ih =>
    obtain ⟨cursor, seenCursors, hphase, hfresh⟩ := ih
    refine ⟨some (decimal n), decimal n :: seenCursors, ?_, fun m hm => ?_⟩
    · rw [Inspection.after, emptyPages, Inspection.step.eq_def, hphase]
      dsimp only [DocumentTreeDiscovery.takeItems]
      rw [if_neg (hfresh n le_rfl)]
    · rw [List.mem_cons, not_or]
      refine ⟨fun heq => ?_, hfresh m (Nat.le_of_succ_le hm)⟩
      have hmn : m = n := decimal_injective (congrArg String.toList heq)
      omega

/-- An inspection of this store never ends. -/
theorem not_sound :
    ¬ ∀ (d : DocumentTreeDiscovery) (answers : ℕ → Option DocumentPage), Sound d answers := by
  intro h
  let d : DocumentTreeDiscovery :=
    { maximumItems := 100000, sampleSize := 25, maximumItems_pos := by decide,
      sampleSize_le := by decide }
  obtain ⟨n, hended⟩ := (h d emptyPages).ends
  obtain ⟨cursor, seenCursors, hphase, -⟩ := emptyPages_listing d n
  rw [hphase] at hended
  cases hended

end AgenticMesh.ImportDiscovery
