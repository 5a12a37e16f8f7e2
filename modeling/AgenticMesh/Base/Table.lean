import Mathlib.Data.List.Nodup
import Mathlib.Data.List.Basic

/-!
# Tables with a primary key

A table is a finite list of rows in insertion order together with the proof
that no two rows share their primary key.  The three statements that a store
issues against a table are `Table.insert` (which fails on a key that is already
taken), `Table.update` (which rewrites the rows that match a condition and must
keep their keys) and `Table.delete`; a query is `Table.lookup`, `Table.select`
or membership.  Every operation returns a table again, so a duplicate key can
not be built.
-/

namespace AgenticMesh

/-- A list of rows no two of which have the same primary key. -/
structure Table (Row : Type*) {Key : Type*} (key : Row → Key) where
  /-- The rows, oldest first. -/
  rows : List Row
  /-- The primary key constraint. -/
  nodup_keys : (rows.map key).Nodup

namespace Table

variable {Row Key : Type*} {key : Row → Key}

instance : Membership Row (Table Row key) := ⟨fun t r => r ∈ t.rows⟩

instance [DecidableEq Row] : DecidableEq (Table Row key) := fun s t =>
  decidable_of_iff (s.rows = t.rows) (by cases s; cases t; simp)

instance [DecidableEq Row] (r : Row) (t : Table Row key) : Decidable (r ∈ t) :=
  inferInstanceAs (Decidable (r ∈ t.rows))

@[simp] lemma mem_rows {t : Table Row key} {r : Row} : r ∈ t.rows ↔ r ∈ t := Iff.rfl

/-- The table without rows. -/
def empty : Table Row key := ⟨[], by simp⟩

instance : EmptyCollection (Table Row key) := ⟨empty⟩

/-- The table of one row. -/
def single (r : Row) : Table Row key := ⟨[r], List.nodup_singleton _⟩

instance : Inhabited (Table Row key) := ⟨empty⟩

@[simp] lemma notMem_empty (r : Row) : ¬ r ∈ (∅ : Table Row key) := by
  intro h
  exact absurd h List.not_mem_nil

@[simp] lemma rows_empty : (∅ : Table Row key).rows = [] := rfl

/-- Two rows of a table with the same key are the same row. -/
lemma eq_of_key (t : Table Row key) {r s : Row} (hr : r ∈ t) (hs : s ∈ t)
    (h : key r = key s) : r = s :=
  List.inj_on_of_nodup_map t.nodup_keys hr hs h

lemma nodup_rows (t : Table Row key) : t.rows.Nodup := t.nodup_keys.of_map key

/-! ## Queries -/

/-- `SELECT ... WHERE p`, in insertion order. -/
def select (t : Table Row key) (p : Row → Prop) [DecidablePred p] : List Row :=
  t.rows.filter p

@[simp] lemma mem_select {t : Table Row key} {p : Row → Prop} [DecidablePred p] {r : Row} :
    r ∈ t.select p ↔ r ∈ t ∧ p r := by
  simp [select]

/-- `SELECT 1 ... WHERE p` returned a row. -/
abbrev Any (t : Table Row key) (p : Row → Prop) : Prop := ∃ r ∈ t.rows, p r

/-- The first row that matches a condition. -/
def find (t : Table Row key) (p : Row → Prop) [DecidablePred p] : Option Row :=
  t.rows.find? p

lemma mem_of_find {t : Table Row key} {p : Row → Prop} [DecidablePred p] {r : Row}
    (h : t.find p = some r) : r ∈ t ∧ p r :=
  ⟨List.mem_of_find?_eq_some h, by simpa using List.find?_some h⟩

lemma find_eq_none {t : Table Row key} {p : Row → Prop} [DecidablePred p] :
    t.find p = none ↔ ∀ r ∈ t, ¬ p r := by
  simp [find]

/-- A condition that at most one row meets finds exactly that row. -/
lemma find_eq_some {t : Table Row key} {p : Row → Prop} [DecidablePred p] {r : Row}
    (hr : r ∈ t) (hp : p r) (huniq : ∀ s ∈ t, p s → s = r) : t.find p = some r := by
  cases h : t.find p with
  | none => exact absurd hp (find_eq_none.1 h r hr)
  | some s =>
    obtain ⟨hs, hps⟩ := mem_of_find h
    rw [huniq s hs hps]

section Lookup

variable [DecidableEq Key]

/-- The row with a given primary key. -/
def lookup (t : Table Row key) (k : Key) : Option Row := t.find fun r => key r = k

lemma lookup_eq_some {t : Table Row key} {k : Key} {r : Row} :
    t.lookup k = some r ↔ r ∈ t ∧ key r = k := by
  constructor
  · exact fun h => mem_of_find h
  · rintro ⟨hr, rfl⟩
    exact find_eq_some hr rfl fun s hs h => t.eq_of_key hs hr h

lemma lookup_eq_none {t : Table Row key} {k : Key} :
    t.lookup k = none ↔ ∀ r ∈ t, key r ≠ k := find_eq_none

lemma lookup_mem {t : Table Row key} {r : Row} (hr : r ∈ t) : t.lookup (key r) = some r :=
  lookup_eq_some.2 ⟨hr, rfl⟩

end Lookup

/-! ## Inserting -/

section Insert

variable [DecidableEq Key]

/-- `INSERT`: fails when the primary key is taken. -/
def insert (t : Table Row key) (r : Row) : Option (Table Row key) :=
  if h : key r ∈ t.rows.map key then none
  else some ⟨t.rows ++ [r], by
    rw [List.map_append, List.map_singleton]
    exact List.nodup_append'.2 ⟨t.nodup_keys, by simp, by simpa using h⟩⟩

lemma insert_eq_some {t t' : Table Row key} {r : Row} :
    t.insert r = some t' ↔ (∀ s ∈ t, key s ≠ key r) ∧ t'.rows = t.rows ++ [r] := by
  unfold insert
  split
  · next h =>
    simp only [List.mem_map] at h
    obtain ⟨s, hs, hk⟩ := h
    simp only [reduceCtorEq, false_iff, not_and]
    exact fun hne => absurd hk (hne s hs)
  · next h =>
    simp only [List.mem_map, not_exists, not_and] at h
    constructor
    · rintro ⟨⟩
      exact ⟨fun s hs => h s hs, rfl⟩
    · rintro ⟨-, ht'⟩
      cases t'
      simpa using ht'.symm

lemma mem_of_insert {t t' : Table Row key} {r : Row} (h : t.insert r = some t') (s : Row) :
    s ∈ t' ↔ s ∈ t ∨ s = r := by
  rw [← mem_rows, (insert_eq_some.1 h).2]
  simp

/-- An inserted row is the only change to the lookups. -/
lemma lookup_of_insert {t t' : Table Row key} {r : Row} (h : t.insert r = some t') (k : Key) :
    t'.lookup k = if key r = k then some r else t.lookup k := by
  have hmem := mem_of_insert h
  split
  · next hk => exact lookup_eq_some.2 ⟨(hmem r).2 (Or.inr rfl), hk⟩
  · next hk =>
    cases hl : t.lookup k with
    | none =>
      refine lookup_eq_none.2 fun s hs hsk => ?_
      obtain hs | rfl := (hmem s).1 hs
      · exact lookup_eq_none.1 hl s hs hsk
      · exact hk hsk
    | some s =>
      obtain ⟨hs, hsk⟩ := lookup_eq_some.1 hl
      exact lookup_eq_some.2 ⟨(hmem s).2 (Or.inl hs), hsk⟩

lemma insert_isSome_of_fresh {t : Table Row key} {r : Row} (h : ∀ s ∈ t, key s ≠ key r) :
    ∃ t', t.insert r = some t' := by
  unfold insert
  rw [dif_neg]
  · exact ⟨_, rfl⟩
  · simpa using h

end Insert

/-! ## Updating -/

/-- An assignment to the columns of a row; it must not touch the primary key. -/
structure Assign {Row Key : Type*} (key : Row → Key) where
  set : Row → Row
  key_set : ∀ r, key (set r) = key r := by intro _; rfl

/-- `UPDATE ... SET f WHERE p`. -/
def update (t : Table Row key) (p : Row → Prop) [DecidablePred p] (f : Assign key) :
    Table Row key :=
  ⟨t.rows.map fun r => if p r then f.set r else r, by
    rw [List.map_map]
    have h : (key ∘ fun r => if p r then f.set r else r) = key := by
      funext r
      by_cases hp : p r <;> simp [hp, f.key_set]
    rw [h]
    exact t.nodup_keys⟩

section Update

variable {t : Table Row key} {p : Row → Prop} [DecidablePred p] {f : Assign key}

lemma mem_update {r : Row} :
    r ∈ t.update p f ↔ ∃ s ∈ t, r = if p s then f.set s else s := by
  constructor
  · intro h
    obtain ⟨s, hs, rfl⟩ := List.mem_map.1 h
    exact ⟨s, hs, rfl⟩
  · rintro ⟨s, hs, rfl⟩
    exact List.mem_map.2 ⟨s, hs, rfl⟩

/-- The image of a row under an update. -/
lemma mem_update_of_mem {s : Row} (hs : s ∈ t) : (if p s then f.set s else s) ∈ t.update p f :=
  mem_update.2 ⟨s, hs, rfl⟩

lemma mem_update_of_pos {s : Row} (hs : s ∈ t) (hp : p s) : f.set s ∈ t.update p f := by
  simpa [hp] using mem_update_of_mem (f := f) (p := p) hs

lemma mem_update_of_neg {s : Row} (hs : s ∈ t) (hp : ¬ p s) : s ∈ t.update p f := by
  simpa [hp] using mem_update_of_mem (f := f) (p := p) hs

/-- A row of the updated table was updated or was there before. -/
lemma mem_update_cases {r : Row} (h : r ∈ t.update p f) :
    (∃ s ∈ t, p s ∧ r = f.set s) ∨ (r ∈ t ∧ ¬ p r) := by
  obtain ⟨s, hs, rfl⟩ := mem_update.1 h
  by_cases hp : p s
  · exact Or.inl ⟨s, hs, hp, by simp [hp]⟩
  · exact Or.inr ⟨by simpa [hp] using hs, by simp [hp]⟩

/-- The updated row with the key of a row. -/
lemma eq_of_mem_update {r s : Row} (hs : s ∈ t) (hr : r ∈ t.update p f) (hkey : key r = key s) :
    r = if p s then f.set s else s := by
  refine eq_of_key _ hr (mem_update_of_mem hs) (hkey.trans ?_)
  split
  · exact (f.key_set s).symm
  · rfl

/-- An update keeps every property of the rows that the assignment keeps. -/
lemma forall_update {q : Row → Prop} (h : ∀ r ∈ t, q r) (hf : ∀ r ∈ t, p r → q (f.set r)) :
    ∀ r ∈ t.update p f, q r := by
  intro r hr
  obtain ⟨s, hs, hp, rfl⟩ | ⟨hr, -⟩ := mem_update_cases hr
  · exact hf s hs hp
  · exact h r hr

/-- Two conditions that agree on the rows of a table give the same update. -/
lemma update_congr {q : Row → Prop} [DecidablePred q] (h : ∀ r ∈ t, p r ↔ q r) :
    t.update p f = t.update q f := by
  have hrows : (t.update p f).rows = (t.update q f).rows := by
    simp only [update]
    refine List.map_congr_left fun r hr => ?_
    simp only [h r hr]
  cases hp : t.update p f
  cases hq : t.update q f
  simpa [hp, hq] using hrows

/-- An update acts on every lookup. -/
lemma lookup_update [DecidableEq Key] (k : Key) :
    (t.update p f).lookup k = (t.lookup k).map fun r => if p r then f.set r else r := by
  have hkey : ∀ r, key (if p r then f.set r else r) = key r := by
    intro r
    split
    · exact f.key_set r
    · rfl
  cases hl : t.lookup k with
  | none =>
    refine lookup_eq_none.2 fun r hr hrk => ?_
    obtain ⟨s, hs, rfl⟩ := mem_update.1 hr
    exact lookup_eq_none.1 hl s hs ((hkey s).symm.trans hrk)
  | some s =>
    obtain ⟨hs, hsk⟩ := lookup_eq_some.1 hl
    exact lookup_eq_some.2 ⟨mem_update_of_mem hs, (hkey s).trans hsk⟩

/-- Counting rows by a property that the assignment does not change. -/
lemma countP_update {q : Row → Bool} (hq : ∀ r, p r → q (f.set r) = q r) :
    (t.update p f).rows.countP q = t.rows.countP q := by
  simp only [update, List.countP_map]
  apply List.countP_congr
  intro r _
  by_cases hp : p r <;> simp [hp, hq]

end Update

/-! ## Unique columns -/

section Unique

variable {γ : Type*} {t t' : Table Row key} {g : Row → γ}

/-- A unique key of a table other than its primary key. -/
def Unique (t : Table Row key) (g : Row → γ) : Prop := ∀ r ∈ t, ∀ s ∈ t, g r = g s → r = s

lemma unique_empty : (∅ : Table Row key).Unique g := fun r hr => absurd hr (notMem_empty r)

/-- A unique key survives the insertion of a row with a new value. -/
lemma Unique.insert [DecidableEq Key] (h : t.Unique g) {r : Row} (hr : ∀ s ∈ t, g s ≠ g r)
    (ht : t.insert r = some t') : t'.Unique g := by
  intro a ha b hb hab
  obtain ha | rfl := (mem_of_insert ht a).1 ha
  · obtain hb | rfl := (mem_of_insert ht b).1 hb
    · exact h a ha b hb hab
    · exact absurd hab (hr a ha)
  · obtain hb | rfl := (mem_of_insert ht b).1 hb
    · exact absurd hab.symm (hr b hb)
    · rfl

/-- A unique key survives an update that leaves it alone. -/
lemma Unique.update_of_mem (h : t.Unique g) {p : Row → Prop} [DecidablePred p] {f : Assign key}
    (hf : ∀ r ∈ t, p r → g (f.set r) = g r) : (t.update p f).Unique g := by
  have hsame : ∀ r ∈ t, g (if p r then f.set r else r) = g r := by
    intro r hr
    split
    · next hp => exact hf r hr hp
    · rfl
  intro a ha b hb hab
  obtain ⟨r, hr, rfl⟩ := mem_update.1 ha
  obtain ⟨s, hs, rfl⟩ := mem_update.1 hb
  rw [hsame r hr, hsame s hs] at hab
  rw [h r hr s hs hab]

/-- A unique key survives an assignment to other columns. -/
lemma Unique.update (h : t.Unique g) {p : Row → Prop} [DecidablePred p] {f : Assign key}
    (hf : ∀ r, g (f.set r) = g r) : (t.update p f).Unique g :=
  h.update_of_mem fun r _ _ => hf r

/-- A unique key survives an update that gives one row a new value. -/
lemma Unique.update_one (h : t.Unique g) {p : Row → Prop} [DecidablePred p] {f : Assign key}
    {k : Key} {c : γ} (hone : ∀ r ∈ t, p r → key r = k) (hfresh : ∀ r ∈ t, g r ≠ c)
    (hset : ∀ r, g (f.set r) = c) : (t.update p f).Unique g := by
  intro a ha b hb hab
  obtain ⟨r, hr, hpr, rfl⟩ | ⟨hr, -⟩ := mem_update_cases ha <;>
    obtain ⟨s, hs, hps, rfl⟩ | ⟨hs, -⟩ := mem_update_cases hb
  · rw [t.eq_of_key hr hs ((hone r hr hpr).trans (hone s hs hps).symm)]
  · exact absurd ((hset r).symm.trans hab).symm (hfresh b hs)
  · exact absurd (hab.trans (hset s)) (hfresh a hr)
  · exact h a hr b hs hab

end Unique

/-- `DELETE ... WHERE p`. -/
def delete (t : Table Row key) (p : Row → Prop) [DecidablePred p] : Table Row key :=
  ⟨t.rows.filter fun r => ¬ p r, t.nodup_keys.sublist (List.filter_sublist.map key)⟩

@[simp] lemma mem_delete {t : Table Row key} {p : Row → Prop} [DecidablePred p] {r : Row} :
    r ∈ t.delete p ↔ r ∈ t ∧ ¬ p r := by
  rw [← mem_rows]
  simp [delete]

lemma lookup_delete [DecidableEq Key] {t : Table Row key} {p : Row → Prop} [DecidablePred p]
    (k : Key) : (t.delete p).lookup k = (t.lookup k).filter fun r => ¬ p r := by
  cases h : t.lookup k with
  | none =>
    rw [Option.filter_none, lookup_eq_none]
    exact fun r hr => lookup_eq_none.1 h r (mem_delete.1 hr).1
  | some r =>
    obtain ⟨hr, hk⟩ := lookup_eq_some.1 h
    by_cases hp : p r
    · rw [Option.filter_some, if_neg (by simpa using hp), lookup_eq_none]
      intro s hs hsk
      obtain ⟨hs, hps⟩ := mem_delete.1 hs
      exact hps (t.eq_of_key hs hr (hsk.trans hk.symm) ▸ hp)
    · rw [Option.filter_some, if_pos (by simpa using hp)]
      exact lookup_eq_some.2 ⟨mem_delete.2 ⟨hr, hp⟩, hk⟩

end Table

end AgenticMesh
