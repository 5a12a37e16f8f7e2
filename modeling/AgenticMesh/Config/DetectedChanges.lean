import AgenticMesh.Config.LeafPaths
import AgenticMesh.Config.StructuralDiff

/-!
# What a sponsor sees of a change

A diff detects the change from one configuration to another if it is empty for
no change only and otherwise its entries, applied to the leaves of the first
configuration, describe the second one.  It misses what `_flatten` drops and
what `==` does not tell apart.
-/

namespace AgenticMesh

open Json (scalars)

/-! ## Applying a diff -/

/-- What an entry of a diff does to the leaves. -/
def DiffEntry.apply (leaves : List (String × Json)) (entry : DiffEntry) : List (String × Json) :=
  match entry.change with
  | .added => leaves ++ [(entry.path, entry.after)]
  | .removed => leaves.erase (entry.path, entry.before)
  | .changed => leaves.erase (entry.path, entry.before) ++ [(entry.path, entry.after)]

def applyDiff (diff : List DiffEntry) (leaves : List (String × Json)) : List (String × Json) :=
  diff.foldl DiffEntry.apply leaves

/-- The diff of two configurations is empty if and only if they are the same, and otherwise
its entries turn the leaves of the first into leaves that describe the second and no other. -/
def DetectsChanges (number : FloatReader) (before after : Configuration) : Prop :=
  (structuralDiff number before.value after.value = [] ↔ before = after) ∧
    (before ≠ after → ∀ c : Configuration,
      Describes (applyDiff (structuralDiff number before.value after.value)
        (leaves "$" before.value)) c ↔ c = after)

/-! ## Shown leaves -/

section Shown

variable {path : String} {x : Json} {entries : List (String × Json)}

lemma lastEntry_eq_some : lastEntry path entries = some x ↔
    ∃ l r, entries = l ++ (path, x) :: r ∧ ∀ e ∈ r, e.1 ≠ path := by
  rw [lastEntry, Option.map_eq_some_iff]
  constructor
  · rintro ⟨⟨key, y⟩, hfind, rfl⟩
    obtain ⟨hkey, r, l, heq, hr⟩ := List.find?_eq_some_iff_append.1 hfind
    obtain rfl : key = path := by simpa using hkey
    refine ⟨l.reverse, r.reverse, by simpa using congrArg List.reverse heq, fun e he => ?_⟩
    simpa using hr e (List.mem_reverse.1 he)
  · rintro ⟨l, r, rfl, hr⟩
    refine ⟨(path, x), List.find?_eq_some_iff_append.2 ⟨by simp, r.reverse, l.reverse,
      by simp, fun e he => ?_⟩, rfl⟩
    simpa using hr e (List.mem_reverse.1 he)

lemma mem_of_lastEntry (h : lastEntry path entries = some x) : (path, x) ∈ entries := by
  obtain ⟨l, r, rfl, -⟩ := lastEntry_eq_some.1 h
  exact List.mem_append_right l List.mem_cons_self

lemma lastEntry_eq_none : lastEntry path entries = none ↔ ∀ e ∈ entries, e.1 ≠ path := by
  rw [lastEntry, Option.map_eq_none_iff, List.find?_eq_none]
  simp

/-- Under different texts every leaf shows. -/
lemma lastEntry_of_nodup (h : (entries.map Prod.fst).Nodup) :
    lastEntry path entries = some x ↔ (path, x) ∈ entries := by
  refine ⟨mem_of_lastEntry, fun hmem => ?_⟩
  cases hlast : lastEntry path entries with
  | none => exact absurd rfl (lastEntry_eq_none.1 hlast _ hmem)
  | some y =>
    have hentry : (path, y) = (path, x) :=
      List.inj_on_of_nodup_map h (mem_of_lastEntry hlast) hmem rfl
    rw [(Prod.mk.inj hentry).2]

/-- A leaf that is the only one of its text shows, and without a leaf nothing does. -/
lemma lastEntry_eq_of_count {o : Option Json}
    (h : ∀ x, entries.count (path, x) = if o = some x then 1 else 0) :
    lastEntry path entries = o := by
  cases hlast : lastEntry path entries with
  | some y =>
    have hpos := List.count_pos_iff.2 (mem_of_lastEntry hlast)
    rw [h y] at hpos
    by_contra hne
    rw [if_neg (Ne.symm hne)] at hpos
    omega
  | none =>
    cases o with
    | none => rfl
    | some y =>
      have hcount := h y
      rw [if_pos rfl] at hcount
      have hmem := List.count_pos_iff.1 (hcount.symm ▸ Nat.one_pos)
      exact absurd rfl (lastEntry_eq_none.1 hlast _ hmem)

/-- The texts of leaves differ if and only if every leaf shows, once. -/
lemma nodup_iff_count : (entries.map Prod.fst).Nodup ↔
    ∀ path x, entries.count (path, x) = if lastEntry path entries = some x then 1 else 0 := by
  constructor
  · intro h path x
    rw [List.Nodup.count h.of_map]
    simp only [lastEntry_of_nodup h]
  · intro h
    have hshown : ∀ e ∈ entries, lastEntry e.1 entries = some e.2 := fun e he => by
      by_contra hnot
      have hcount := h e.1 e.2
      rw [if_neg hnot] at hcount
      exact List.count_eq_zero.1 hcount he
    have hnodup : entries.Nodup := List.nodup_iff_count_le_one.2 fun (path, x) => by
      rw [h path x]
      split <;> omega
    refine List.Nodup.map_on ?_ hnodup
    intro e he e' he' hkey
    refine Prod.ext hkey ?_
    have hlast := hshown e he
    rw [hkey, hshown e' he'] at hlast
    exact (Option.some.inj hlast).symm

end Shown

/-! ## The leaves after the changes -/

section Apply

variable {number : FloatReader}

/-- An entry takes the leaf before the change away and adds the one after it. -/
lemma count_apply {path : String} {old new : Option Json} {entry : DiffEntry}
    (h : diffEntry number path old new = some entry) {leaves : List (String × Json)}
    (hold : ∀ x, old = some x → (path, x) ∈ leaves) (key : String) (x : Json) :
    (entry.apply leaves).count (key, x) + (if key = path ∧ old = some x then 1 else 0) =
      leaves.count (key, x) + if key = path ∧ new = some x then 1 else 0 := by
  obtain ⟨hdiffer, rfl⟩ : ¬ LooksSame number old new ∧ _ = entry := by
    simpa [diffEntry] using h
  have hiff : ∀ y, ((path, y) == (key, x)) = true ↔ key = path ∧ some y = some x := fun y => by
    rw [beq_iff_eq, Prod.mk.injEq, Option.some_inj, eq_comm (a := path)]
  have hsingle : ∀ y,
      [(path, y)].count (key, x) = if key = path ∧ some y = some x then 1 else 0 := fun y => by
    simp only [List.count_singleton, hiff]
  have herase : ∀ y, old = some y → (leaves.erase (path, y)).count (key, x) +
      (if key = path ∧ some y = some x then 1 else 0) = leaves.count (key, x) := by
    intro y hy
    have hpos := List.count_pos_iff.2 (hold y hy)
    simp only [List.count_erase, hiff]
    split
    · next hsame =>
      obtain ⟨rfl, hval⟩ := hsame
      obtain rfl := Option.some.inj hval
      omega
    · rfl
  rcases old with _ | old <;> rcases new with _ | new
  · exact absurd trivial hdiffer
  · change (leaves ++ [(path, new)]).count (key, x) + _ = _
    rw [List.count_append, hsingle]
    simp
  · change (leaves.erase (path, old)).count (key, x) + _ = _
    rw [herase old rfl]
    simp
  · change (leaves.erase (path, old) ++ [(path, new)]).count (key, x) + _ = _
    rw [List.count_append, hsingle, ← herase old rfl]
    omega

/-- The entries of some paths change the leaves that differ there. -/
lemma count_applyDiff (number : FloatReader) (left right : String → Option Json)
    {paths : List String} (hnodup : paths.Nodup) {leaves : List (String × Json)}
    (hleft : ∀ path ∈ paths, ∀ x, left path = some x → (path, x) ∈ leaves)
    (key : String) (x : Json) :
    (applyDiff (paths.filterMap fun path => diffEntry number path (left path) (right path))
        leaves).count (key, x) +
      (if (key ∈ paths ∧ ¬ LooksSame number (left key) (right key)) ∧ left key = some x
        then 1 else 0) =
      leaves.count (key, x) +
        if (key ∈ paths ∧ ¬ LooksSame number (left key) (right key)) ∧ right key = some x
        then 1 else 0 := by
  induction paths generalizing leaves with
  | nil => simp [applyDiff]
  | cons path paths ih =>
    obtain ⟨hnot, hnodup⟩ := List.nodup_cons.1 hnodup
    cases hentry : diffEntry number path (left path) (right path) with
    | none =>
      have hsame := diffEntry_eq_none.1 hentry
      simp only [List.filterMap_cons, hentry]
      have h := ih hnodup fun p hp => hleft p (List.mem_cons_of_mem _ hp)
      by_cases hkey : key = path
      · subst hkey
        simpa [hsame] using h
      · simpa [hkey] using h
    | some entry =>
      have hdiffer : ¬ LooksSame number (left path) (right path) := by
        rw [← diffEntry_eq_none, hentry]
        simp
      have happly := count_apply hentry (hleft path List.mem_cons_self)
      -- the leaves of the other paths are still there
      have h := @ih hnodup (entry.apply leaves) fun p hp y hy => by
        have hne : p ≠ path := fun heq => hnot (heq ▸ hp)
        have hcount := happly p y
        have hmem := List.count_pos_iff.2 (hleft p (List.mem_cons_of_mem _ hp) y hy)
        simp only [hne, false_and, if_false] at hcount
        exact List.count_pos_iff.1 (by omega)
      simp only [List.filterMap_cons, hentry]
      change (applyDiff _ (entry.apply leaves)).count (key, x) + _ = _
      have hcount := happly key x
      by_cases hkey : key = path
      · subst hkey
        simp only [hnot, false_and, if_false, true_and, hdiffer, List.mem_cons_self,
          not_false_eq_true] at h hcount ⊢
        omega
      · simp only [hkey, false_and, if_false, List.mem_cons, false_or] at h hcount ⊢
        omega

/-- A diff changes the leaves under the texts where what shows differs. -/
lemma count_structuralDiff (number : FloatReader) (before after : Json) (path : String) (x : Json) :
    (applyDiff (structuralDiff number before after) (leaves "$" before)).count (path, x) +
      (if ¬ LooksSame number (shownLeaf before path) (shownLeaf after path) ∧
        shownLeaf before path = some x then 1 else 0) =
      (leaves "$" before).count (path, x) +
        if ¬ LooksSame number (shownLeaf before path) (shownLeaf after path) ∧
          shownLeaf after path = some x then 1 else 0 := by
  have hnodup := ((inKeyOrder_flatten "$" before).updateFields (flatten "$" after)).nodup
  have h := count_applyDiff number (shownLeaf before) (shownLeaf after) hnodup
    (fun _ _ _ hx => mem_of_lastEntry hx) path x
  have hmem := and_iff_right_of_imp
    (not_imp_comm.1 (looksSame_of_notMem number before after path))
  rw [structuralDiff_eq]
  simpa only [hmem] using h

/-- The changed leaves are those after the change if and only if the texts of the leaves
before the change differ and the leaves that look the same are the same. -/
lemma perm_applyDiff {before after : Json} (hafter : ((leaves "$" after).map Prod.fst).Nodup) :
    (applyDiff (structuralDiff number before after) (leaves "$" before)).Perm
        (leaves "$" after) ↔
      ((leaves "$" before).map Prod.fst).Nodup ∧
        ∀ path, LooksSame number (shownLeaf before path) (shownLeaf after path) →
          shownLeaf before path = shownLeaf after path := by
  have hcount := count_structuralDiff number before after
  have hshown : ∀ path x, (leaves "$" after).count (path, x) =
      if shownLeaf after path = some x then 1 else 0 := nodup_iff_count.1 hafter
  rw [List.perm_iff_count]
  constructor
  · intro h
    -- where nothing is listed the leaves before the change are those after it
    have heq : ∀ path, LooksSame number (shownLeaf before path) (shownLeaf after path) →
        shownLeaf before path = shownLeaf after path := fun path hlooks =>
      lastEntry_eq_of_count fun x => by
        have hpath := hcount path x
        simp only [hlooks, not_true_eq_false, false_and, if_false, add_zero] at hpath
        rw [← hpath, h, hshown]
    refine ⟨nodup_iff_count.2 fun path x => ?_, heq⟩
    change _ = if shownLeaf before path = some x then 1 else 0
    have hpath := hcount path x
    rw [h, hshown] at hpath
    by_cases hlooks : LooksSame number (shownLeaf before path) (shownLeaf after path)
    · simp only [hlooks, not_true_eq_false, false_and, if_false, add_zero] at hpath
      rw [heq path hlooks, hpath]
    · -- a listed text loses the leaf that shows, and no other one is left
      simp only [hlooks, not_false_eq_true, true_and] at hpath
      omega
  · rintro ⟨hbefore, heq⟩ ⟨path, x⟩
    have hold : (leaves "$" before).count (path, x) =
        if shownLeaf before path = some x then 1 else 0 := nodup_iff_count.1 hbefore path x
    have hpath := hcount path x
    rw [hold] at hpath
    rw [hshown]
    by_cases hlooks : LooksSame number (shownLeaf before path) (shownLeaf after path)
    · simp only [hlooks, not_true_eq_false, false_and, if_false, add_zero] at hpath
      rw [hpath, heq path hlooks]
    · simp only [hlooks, not_false_eq_true, true_and] at hpath
      omega

end Apply

/-! ## Configurations -/

/-- Two different spellings of one number, `1` and `True`. -/
def SameNumber (number : FloatReader) (x y : Json) : Prop :=
  x ≠ y ∧ ∃ a, a ≠ .nan ∧ x.numberOf number = some a ∧ y.numberOf number = some a

/-- Every number that is not a number is followed by a scalar whose position has the same text. -/
def HidesNans (number : FloatReader) (c : Configuration) : Prop :=
  ∀ l q r, scalars c.value = l ++ q :: r → q.2.IsNan number →
    ∃ q' ∈ r, pathText q'.1 = pathText q.1

/-- A change that its diff tells. -/
structure TellsChange (number : FloatReader) (before after : Configuration) : Prop where
  /-- no empty object or array below the root -/
  full : after.IsFull
  /-- no key with a dot or a bracket on the way to a scalar -/
  plain : after.IsPlain
  /-- no two scalars under one text -/
  distinct : (before.written.map Prod.fst).Nodup
  /-- no number that only its spelling tells from the one after the change -/
  numbers : ∀ e ∈ before.written, ∀ e' ∈ after.written, e.1 = e'.1 → ¬ SameNumber number e.2 e'.2
  /-- a scalar that is only on one side, or that is not a number -/
  differ : (∃ e ∈ before.written, e ∉ after.written ∨ e.2.IsNan number) ∨
    ∃ e ∈ after.written, e ∉ before.written

/-! ### Written scalars -/

mutual

theorem leaves_eq_scalars : ∀ (path : String) (value : Json), leaves path value =
    (scalars value).map fun q => (q.1.foldl (fun path step => path ++ stepText step) path, q.2)
  | path, .obj fields => leavesOfFields_eq_scalars path fields
  | path, .arr items => leavesOfItems_eq_scalars path 0 items
  | _, .null => rfl
  | _, .bool _ => rfl
  | _, .int _ => rfl
  | _, .float _ => rfl
  | _, .str _ => rfl

theorem leavesOfFields_eq_scalars : ∀ (path : String) (fields : List (String × Json)),
    leavesOfFields path fields = (Json.scalarsOfFields fields).map fun q =>
      (q.1.foldl (fun path step => path ++ stepText step) path, q.2)
  | _, [] => rfl
  | path, (key, value) :: fields => by
    rw [leavesOfFields, leaves_eq_scalars _ value, leavesOfFields_eq_scalars path fields,
      Json.scalarsOfFields, List.map_append, Json.under, List.map_map]
    simp [Function.comp_def, stepText, String.append_assoc]

theorem leavesOfItems_eq_scalars : ∀ (path : String) (index : ℕ) (items : List Json),
    leavesOfItems path index items = (Json.scalarsOfItems index items).map fun q =>
      (q.1.foldl (fun path step => path ++ stepText step) path, q.2)
  | _, _, [] => rfl
  | path, index, item :: items => by
    rw [leavesOfItems, leaves_eq_scalars _ item, leavesOfItems_eq_scalars path (index + 1) items,
      Json.scalarsOfItems, List.map_append, Json.under, List.map_map]
    simp [Function.comp_def, stepText, String.append_assoc]

end

/-- The leaves of a configuration are its written scalars. -/
lemma leaves_value (c : Configuration) : leaves "$" c.value = c.written :=
  leaves_eq_scalars "$" c.value

lemma shownLeaf_value (c : Configuration) (path : String) :
    shownLeaf c.value path = lastEntry path c.written := by
  rw [shownLeaf, leaves_value]

lemma scalar_of_mem_written {c : Configuration} {e : String × Json} (h : e ∈ c.written) :
    e.2.asObject = none ∧ e.2.asArray = none :=
  scalar_of_mem_leaves "$" c.value (by rwa [leaves_value])

/-- Scalars that are equal for Python are the same or two spellings of one number. -/
lemma equal_iff_of_scalar {number : FloatReader} {x y : Json}
    (hx : x.asObject = none ∧ x.asArray = none) (hy : y.asObject = none ∧ y.asArray = none)
    (hne : x ≠ y) : x.equal number y = true ↔ SameNumber number x y := by
  rw [SameNumber, and_iff_right hne]
  cases x with
  | arr items => exact absurd hx.2 (Option.some_ne_none _)
  | obj fields => exact absurd hx.1 (Option.some_ne_none _)
  | _ =>
    cases y with
    | arr items => exact absurd hy.2 (Option.some_ne_none _)
    | obj fields => exact absurd hy.1 (Option.some_ne_none _)
    | _ => simp_all [Json.equal, Json.numberOf, FloatValue.Equal] <;> grind

/-! ### The exact condition -/

section Exact

variable {number : FloatReader} {before after : Configuration}

lemma hidesNans_iff : HidesNans number before ↔
    ∀ path leaf, shownLeaf before.value path = some leaf → ¬ leaf.IsNan number := by
  simp only [shownLeaf_value, lastEntry_eq_some]
  constructor
  · rintro h path leaf ⟨l, r, heq, hr⟩ hnan
    obtain ⟨l', tail, hscalars, -, htail⟩ := List.map_eq_append_iff.1 heq
    obtain ⟨q, r', rfl, hq, rfl⟩ := List.map_eq_cons_iff.1 htail
    obtain ⟨q', hq', htext⟩ := h l' q r' hscalars (by rwa [(Prod.mk.inj hq).2])
    exact hr _ (List.mem_map_of_mem hq') (htext.trans (Prod.mk.inj hq).1)
  · intro h l q r heq hnan
    by_contra hnone
    refine h (pathText q.1) q.2 ⟨_, _, by rw [Configuration.written, heq, List.map_append,
      List.map_cons], fun e he htext => hnone ?_⟩ hnan
    obtain ⟨q', hq', rfl⟩ := List.mem_map.1 he
    exact ⟨q', hq', htext⟩

/-- Leaves that look the same are the same unless two of them spell one number. -/
lemma same_iff_numbers (hbefore : (before.written.map Prod.fst).Nodup)
    (hafter : (after.written.map Prod.fst).Nodup) :
    (∀ path, LooksSame number (shownLeaf before.value path) (shownLeaf after.value path) →
        shownLeaf before.value path = shownLeaf after.value path) ↔
      ∀ e ∈ before.written, ∀ e' ∈ after.written, e.1 = e'.1 →
        ¬ SameNumber number e.2 e'.2 := by
  simp only [shownLeaf_value]
  constructor
  · rintro h ⟨path, x⟩ he ⟨_, y⟩ he' rfl hnumber
    have hequal := (equal_iff_of_scalar (scalar_of_mem_written he) (scalar_of_mem_written he')
      hnumber.1).2 hnumber
    have hsame := h path
    rw [(lastEntry_of_nodup hbefore).2 he, (lastEntry_of_nodup hafter).2 he'] at hsame
    exact hnumber.1 (Option.some.inj (hsame hequal))
  · intro h path hlooks
    cases hold : lastEntry path before.written with
    | none =>
      cases hnew : lastEntry path after.written with
      | none => rfl
      | some y => simp [hold, hnew, LooksSame] at hlooks
    | some x =>
      cases hnew : lastEntry path after.written with
      | none => simp [hold, hnew, LooksSame] at hlooks
      | some y =>
        rw [hold, hnew] at hlooks
        have hx := mem_of_lastEntry hold
        have hy := mem_of_lastEntry hnew
        by_contra hne
        have hxy : x ≠ y := fun heq => hne (congrArg some heq)
        exact h _ hx _ hy rfl ((equal_iff_of_scalar (scalar_of_mem_written hx)
          (scalar_of_mem_written hy) hxy).1 hlooks)

/-- Nothing looks different if and only if the scalars are the same and none of them is a
`NaN`. -/
lemma looksSame_iff_same (hbefore : (before.written.map Prod.fst).Nodup)
    (hafter : (after.written.map Prod.fst).Nodup)
    (hsame : ∀ path, LooksSame number (shownLeaf before.value path) (shownLeaf after.value path) →
      shownLeaf before.value path = shownLeaf after.value path) :
    (∀ path, LooksSame number (shownLeaf before.value path) (shownLeaf after.value path)) ↔
      (∀ e ∈ before.written, e ∈ after.written ∧ ¬ e.2.IsNan number) ∧
        ∀ e ∈ after.written, e ∈ before.written := by
  simp only [shownLeaf_value] at hsame ⊢
  constructor
  · intro h
    refine ⟨fun ⟨path, x⟩ he => ?_, fun ⟨path, x⟩ he => ?_⟩
    · have hold := (lastEntry_of_nodup hbefore).2 he
      have hnew := (hsame path (h path)).symm.trans hold
      have hlooks := h path
      rw [hold, hnew] at hlooks
      obtain ⟨hobj, harr⟩ := scalar_of_mem_written he
      exact ⟨(lastEntry_of_nodup hafter).1 hnew, (equal_self hobj harr).1 hlooks⟩
    · have hnew := (lastEntry_of_nodup hafter).2 he
      exact (lastEntry_of_nodup hbefore).1 ((hsame path (h path)).trans hnew)
  · rintro ⟨hold, hnew⟩ path
    cases hlast : lastEntry path before.written with
    | none =>
      have hnone : lastEntry path after.written = none := lastEntry_eq_none.2 fun e he =>
        lastEntry_eq_none.1 hlast e (hnew e he)
      rw [hnone]
      exact trivial
    | some x =>
      have he := mem_of_lastEntry hlast
      obtain ⟨hmem, hnan⟩ := hold _ he
      obtain ⟨hobj, harr⟩ := scalar_of_mem_written he
      rw [(lastEntry_of_nodup hafter).2 hmem]
      exact (equal_self hobj harr).2 hnan

/-- The entries of a diff describe the configuration after the change, and no other, under
the conditions on its leaves. -/
lemma describes_applyDiff :
    (∀ c : Configuration, Describes (applyDiff (structuralDiff number before.value after.value)
        (leaves "$" before.value)) c ↔ c = after) ↔
      after.IsPlain ∧ after.IsFull ∧ (before.written.map Prod.fst).Nodup ∧
        ∀ path, LooksSame number (shownLeaf before.value path) (shownLeaf after.value path) →
          shownLeaf before.value path = shownLeaf after.value path := by
  have hafter : (∀ c : Configuration, Describes (applyDiff (structuralDiff number before.value
        after.value) (leaves "$" before.value)) c ↔ c = after) ↔
      Describes (applyDiff (structuralDiff number before.value after.value)
        (leaves "$" before.value)) after :=
    ⟨fun h => (h after).2 rfl, fun h c => ⟨fun hc => hc.unique h, fun hc => hc ▸ h⟩⟩
  rw [hafter, describes_iff]
  refine and_congr_right fun hplain => and_congr_right fun _ => ?_
  have hnodup : ((leaves "$" after.value).map Prod.fst).Nodup := by
    rw [leaves_value]
    exact nodup_written hplain
  rw [← leaves_value, perm_applyDiff hnodup, leaves_value]

end Exact

/-- **What a diff tells.**  A diff detects no change of a configuration whose NaNs do not show,
and exactly the changes to configurations without empty objects and arrays and without path
syntax in their keys, from texts that differ, in more than the spelling of a number. -/
theorem detectsChanges_iff (number : FloatReader) (before after : Configuration) :
    DetectsChanges number before after ↔
      (before = after → HidesNans number before) ∧
        (before ≠ after → TellsChange number before after) := by
  rw [DetectsChanges, structuralDiff_eq_nil]
  by_cases heq : before = after
  · subst heq
    simp only [looksSame_self, ← hidesNans_iff, iff_true, ne_eq, not_true_eq_false,
      false_implies, and_true, true_implies]
  · simp only [heq, iff_false, ne_eq, not_false_eq_true, true_implies, false_implies, true_and]
    rw [describes_applyDiff]
    constructor
    · rintro ⟨hdiffer, hplain, hfull, hdistinct, hsame⟩
      have hafter := nodup_written hplain
      rw [looksSame_iff_same hdistinct hafter hsame] at hdiffer
      refine ⟨hfull, hplain, hdistinct, (same_iff_numbers hdistinct hafter).1 hsame, ?_⟩
      by_contra hnone
      push Not at hnone
      exact hdiffer hnone
    · rintro ⟨hfull, hplain, hdistinct, hnumbers, hdiffer⟩
      have hafter := nodup_written hplain
      have hsame := (same_iff_numbers hdistinct hafter).2 hnumbers
      refine ⟨?_, hplain, hfull, hdistinct, hsame⟩
      rw [looksSame_iff_same hdistinct hafter hsame]
      rintro ⟨hold, hnew⟩
      rcases hdiffer with ⟨e, he, hlost | hnan⟩ | ⟨e, he, hnot⟩
      · exact hlost (hold e he).1
      · exact (hold e he).2 hnan
      · exact hnot (hnew e he)

/-- An empty object has no leaf. -/
theorem hidden_empty_object :
    ¬ DetectsChanges (fun _ => .nan)
      ⟨[], by simp [Json.Ordered, Json.OrderedFields, Json.InKeyOrder]⟩
      ⟨[("a", .obj [])], by simp [Json.Ordered, Json.OrderedFields, Json.InKeyOrder]⟩ := by
  rintro ⟨hempty, -⟩
  have heq := hempty.1 (by decide)
  exact absurd (congrArg Configuration.fields heq) (by decide)

/-- Different keys show their leaves under one text, and `1` looks the same as `True`. -/
example : structuralDiff (fun _ => .nan)
      (.obj [("a", .obj [("b", .int 1)])]) (.obj [("a.b", .int 1)]) = [] ∧
    structuralDiff (fun _ => .nan) (.obj [("a", .int 1)]) (.obj [("a", .bool true)]) = [] := by
  decide

end AgenticMesh
