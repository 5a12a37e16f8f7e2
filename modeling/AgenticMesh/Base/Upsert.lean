import AgenticMesh.Base.Table

/-!
# Rows that are inserted or replaced

`INSERT ... ON CONFLICT (key) DO UPDATE`: a row with a new key is inserted, and the
row with a key that is taken is changed by an assignment.  A list of rows with
different keys that are put one after the other ends with all of them in the table.
-/

namespace AgenticMesh

namespace Table

variable {Row Key : Type*} {key : Row → Key} [DecidableEq Key]

/-- The assignment that replaces the row with the key of another one. -/
def Assign.replace (r : Row) : Assign key where
  set s := if key s = key r then r else s
  key_set s := by
    split
    · next h => exact h.symm
    · rfl

/-- `INSERT ... ON CONFLICT (key) DO UPDATE SET f`. -/
def upsert (t : Table Row key) (r : Row) (f : Assign key) : Table Row key :=
  match t.insert r with
  | some t' => t'
  | none => t.update (fun s => key s = key r) f

/-- A row that replaces the one with its key. -/
def put (t : Table Row key) (r : Row) : Table Row key := t.upsert r (.replace r)

section Upsert

variable {t : Table Row key} {r : Row} {f : Assign key}

lemma lookup_upsert (k : Key) : (t.upsert r f).lookup k =
    if key r = k then some ((t.lookup k).elim r f.set) else t.lookup k := by
  unfold upsert
  cases hinsert : t.insert r with
  | some t' =>
    rw [lookup_of_insert hinsert]
    split
    · next hk =>
      -- a row that could be inserted has a new key
      have hfresh := (insert_eq_some.1 hinsert).1
      have hnone : t.lookup k = none :=
        lookup_eq_none.2 fun s hs hsk => hfresh s hs (hsk.trans hk.symm)
      rw [hnone]
      rfl
    · rfl
  | none =>
    simp only [lookup_update]
    have htaken : ∃ s ∈ t, key s = key r := by
      by_contra hfresh
      simp only [not_exists, not_and] at hfresh
      obtain ⟨t', ht'⟩ := insert_isSome_of_fresh hfresh
      rw [hinsert] at ht'
      exact absurd ht' (by simp)
    obtain ⟨s, hs, hkey⟩ := htaken
    split
    · next hk =>
      have hfound : t.lookup k = some s := by
        rw [← hk, ← hkey]
        exact lookup_mem hs
      rw [hfound]
      simp [hkey]
    · next hk =>
      cases hl : t.lookup k with
      | none => rfl
      | some u =>
        have hu : key u = k := (lookup_eq_some.1 hl).2
        simp [hu, Ne.symm hk]

lemma lookup_put (k : Key) :
    (t.put r).lookup k = if key r = k then some r else t.lookup k := by
  rw [put, lookup_upsert]
  split
  · next hk =>
    cases hl : t.lookup k with
    | none => rfl
    | some s =>
      have hs : key s = key r := (lookup_eq_some.1 hl).2.trans hk.symm
      simp [Assign.replace, hs]
  · rfl

/-- A row is in the table exactly if it is found under its key. -/
lemma mem_iff_lookup {s : Row} : s ∈ t ↔ t.lookup (key s) = some s :=
  ⟨lookup_mem, fun h => (lookup_eq_some.1 h).1⟩

lemma mem_put {s : Row} : s ∈ t.put r ↔ s = r ∨ s ∈ t ∧ key s ≠ key r := by
  rw [mem_iff_lookup, lookup_put]
  split
  · next hk =>
    rw [Option.some.injEq]
    constructor
    · exact fun h => Or.inl h.symm
    · rintro (rfl | ⟨-, hne⟩)
      · rfl
      · exact absurd hk.symm hne
  · next hk =>
    rw [← mem_iff_lookup]
    constructor
    · exact fun h => Or.inr ⟨h, Ne.symm hk⟩
    · rintro (rfl | ⟨h, -⟩)
      · exact absurd rfl hk
      · exact h

end Upsert

/-- Rows that are put one after the other. -/
def putAll (t : Table Row key) (rs : List Row) : Table Row key := rs.foldl put t

lemma putAll_cons {t : Table Row key} {r : Row} {rs : List Row} :
    t.putAll (r :: rs) = (t.put r).putAll rs := rfl

/-- Rows with different keys replace the rows with their keys. -/
lemma mem_putAll {t : Table Row key} {rs : List Row} (h : (rs.map key).Nodup) {s : Row} :
    s ∈ t.putAll rs ↔ s ∈ rs ∨ s ∈ t ∧ key s ∉ rs.map key := by
  induction rs generalizing t with
  | nil => simp [putAll]
  | cons r rs ih =>
    rw [List.map_cons, List.nodup_cons] at h
    rw [putAll_cons, ih h.2, mem_put, List.mem_cons, List.map_cons, List.mem_cons]
    constructor
    · rintro (hs | ⟨rfl | ⟨hs, hne⟩, hkeys⟩)
      · exact Or.inl (Or.inr hs)
      · exact Or.inl (Or.inl rfl)
      · exact Or.inr ⟨hs, fun hmem => hmem.elim hne hkeys⟩
    · rintro ((rfl | hs) | ⟨hs, hkeys⟩)
      · exact Or.inr ⟨Or.inl rfl, h.1⟩
      · exact Or.inl hs
      · exact Or.inr ⟨Or.inr ⟨hs, fun hne => hkeys (Or.inl hne)⟩, fun hmem => hkeys (Or.inr hmem)⟩

end Table

end AgenticMesh
