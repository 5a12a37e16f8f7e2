import AgenticMesh.Base.JsonEquality

/-!
# The structural diff of two configurations

The diff that a sponsor approves compares the leaves of two values by the texts
of their paths; under every text it sees the last leaf only.
-/

namespace AgenticMesh

open Json (InKeyOrder updateFields)

/-! ## The diff -/

mutual

/-- `_flatten`. -/
def flatten (path : String) : Json → List (String × Json)
  | .obj fields => flattenFields path [] fields
  | .arr items => flattenItems path 0 [] items
  | value => [(path, value)]

def flattenFields (path : String) (result : List (String × Json)) :
    List (String × Json) → List (String × Json)
  | [] => result
  | (key, value) :: fields =>
    flattenFields path (updateFields result (flatten (path ++ "." ++ key) value)) fields

def flattenItems (path : String) (index : ℕ) (result : List (String × Json)) :
    List Json → List (String × Json)
  | [] => result
  | item :: items =>
    flattenItems path (index + 1)
      (updateFields result (flatten (path ++ "[" ++ decimal index ++ "]") item)) items

end

/-- What happens to a leaf. -/
inductive DiffChange where
  | added | removed | changed
deriving DecidableEq

/-- An entry of a diff. -/
structure DiffEntry where
  path : String
  change : DiffChange
  before : Json
  after : Json
deriving DecidableEq

section Diff

variable (number : FloatReader)

/-- The values of a path, `none` for the missing one, are equal for Python. -/
def LooksSame : Option Json → Option Json → Prop
  | none, none => True
  | some old, some new => old.equal number new = true
  | _, _ => False

instance (old new : Option Json) : Decidable (LooksSame number old new) := by
  cases old <;> cases new <;> unfold LooksSame <;> infer_instance

/-- The entry of a path with these values. -/
def diffEntry (path : String) (old new : Option Json) : Option DiffEntry :=
  if LooksSame number old new then none
  else some {
    path
    change := if old.isNone then .added else if new.isNone then .removed else .changed
    before := old.getD .null
    after := new.getD .null }

def structuralDiff (before after : Json) : List DiffEntry :=
  let left := flatten "$" before
  let right := flatten "$" after
  -- the keys of both dictionaries, sorted
  let paths := (updateFields left right).map Prod.fst
  paths.filterMap fun path =>
    diffEntry number path ((Json.obj left).get? path) ((Json.obj right).get? path)

end Diff

/-! ## Leaves -/

mutual

/-- The leaves of a value in their order, with the texts of their paths. -/
def leaves (path : String) : Json → List (String × Json)
  | .obj fields => leavesOfFields path fields
  | .arr items => leavesOfItems path 0 items
  | value => [(path, value)]

def leavesOfFields (path : String) : List (String × Json) → List (String × Json)
  | [] => []
  | (key, value) :: fields => leaves (path ++ "." ++ key) value ++ leavesOfFields path fields

def leavesOfItems (path : String) (index : ℕ) : List Json → List (String × Json)
  | [] => []
  | item :: items =>
    leaves (path ++ "[" ++ decimal index ++ "]") item ++ leavesOfItems path (index + 1) items

end

/-- The value of the last entry for a path. -/
def lastEntry (path : String) (entries : List (String × Json)) : Option Json :=
  (entries.reverse.find? fun p => p.1 = path).map Prod.snd

/-- The leaf of a value that shows under a path: the last one whose path has this text. -/
def shownLeaf (value : Json) (path : String) : Option Json := lastEntry path (leaves "$" value)

lemma lastEntry_append (path : String) (entries entries' : List (String × Json)) :
    lastEntry path (entries ++ entries') =
      (lastEntry path entries').or (lastEntry path entries) := by
  rw [lastEntry, List.reverse_append, List.find?_append, Option.map_or]
  rfl

/-! ### Flattening keeps the last leaf of a path -/

mutual

theorem inKeyOrder_flatten (path : String) : ∀ value, InKeyOrder (flatten path value)
  | .obj fields => inKeyOrder_flattenFields path [] List.Pairwise.nil fields
  | .arr items => inKeyOrder_flattenItems path 0 [] List.Pairwise.nil items
  | .null => List.pairwise_singleton _ _
  | .bool _ => List.pairwise_singleton _ _
  | .int _ => List.pairwise_singleton _ _
  | .float _ => List.pairwise_singleton _ _
  | .str _ => List.pairwise_singleton _ _

theorem inKeyOrder_flattenFields (path : String) (result : List (String × Json))
    (h : InKeyOrder result) : ∀ fields, InKeyOrder (flattenFields path result fields)
  | [] => h
  | (_, _) :: fields => inKeyOrder_flattenFields path _ (h.updateFields _) fields

theorem inKeyOrder_flattenItems (path : String) (index : ℕ) (result : List (String × Json))
    (h : InKeyOrder result) : ∀ items, InKeyOrder (flattenItems path index result items)
  | [] => h
  | _ :: items => inKeyOrder_flattenItems path (index + 1) _ (h.updateFields _) items

end

mutual

theorem get?_flatten (key : String) : ∀ (path : String) (value : Json),
    (Json.obj (flatten path value)).get? key = lastEntry key (leaves path value)
  | path, .obj fields => by
    rw [flatten, leaves, get?_flattenFields key path [] fields]
    simp [Json.get?]
  | path, .arr items => by
    rw [flatten, leaves, get?_flattenItems key path 0 [] items]
    simp [Json.get?]
  | _, .null => rfl
  | _, .bool _ => rfl
  | _, .int _ => rfl
  | _, .float _ => rfl
  | _, .str _ => rfl

theorem get?_flattenFields (key path : String) : ∀ (result fields : List (String × Json)),
    (Json.obj (flattenFields path result fields)).get? key =
      (lastEntry key (leavesOfFields path fields)).or ((Json.obj result).get? key)
  | result, [] => rfl
  | result, (name, value) :: fields => by
    rw [flattenFields, get?_flattenFields key path _ fields,
      Json.get?_updateFields (inKeyOrder_flatten _ value), get?_flatten key _ value,
      leavesOfFields, lastEntry_append, Option.or_assoc]

theorem get?_flattenItems (key path : String) :
    ∀ (index : ℕ) (result : List (String × Json)) (items : List Json),
    (Json.obj (flattenItems path index result items)).get? key =
      (lastEntry key (leavesOfItems path index items)).or ((Json.obj result).get? key)
  | _, result, [] => rfl
  | index, result, item :: items => by
    rw [flattenItems, get?_flattenItems key path (index + 1) _ items,
      Json.get?_updateFields (inKeyOrder_flatten _ item), get?_flatten key _ item,
      leavesOfItems, lastEntry_append, Option.or_assoc]

end

/-- A flattened value has the leaves that show. -/
lemma get?_flatten_shown (value : Json) (path : String) :
    (Json.obj (flatten "$" value)).get? path = shownLeaf value path :=
  get?_flatten path "$" value

/-! ## No difference -/

lemma diffEntry_eq_none {number : FloatReader} {path : String} {old new : Option Json} :
    diffEntry number path old new = none ↔ LooksSame number old new := by
  unfold diffEntry
  split <;> simp_all

section Shown

variable (number : FloatReader) (before after : Json)

/-- The diff compares the leaves that show. -/
lemma structuralDiff_eq : structuralDiff number before after =
    ((updateFields (flatten "$" before) (flatten "$" after)).map Prod.fst).filterMap fun path =>
      diffEntry number path (shownLeaf before path) (shownLeaf after path) := by
  simp only [structuralDiff, get?_flatten_shown]

/-- Under a text that is not compared no leaf shows. -/
lemma looksSame_of_notMem (path : String)
    (h : path ∉ (updateFields (flatten "$" before) (flatten "$" after)).map Prod.fst) :
    LooksSame number (shownLeaf before path) (shownLeaf after path) := by
  rw [Json.mem_keys_updateFields, not_or, ← Json.get?_eq_none, ← Json.get?_eq_none,
    get?_flatten_shown, get?_flatten_shown] at h
  rw [h.1, h.2]
  exact trivial

lemma structuralDiff_eq_nil : structuralDiff number before after = [] ↔
    ∀ path, LooksSame number (shownLeaf before path) (shownLeaf after path) := by
  rw [structuralDiff_eq, List.filterMap_eq_nil_iff]
  simp only [diffEntry_eq_none]
  refine ⟨fun h path => ?_, fun h path _ => h path⟩
  by_cases hpath : path ∈ (updateFields (flatten "$" before) (flatten "$" after)).map Prod.fst
  · exact h path hpath
  · exact looksSame_of_notMem number before after path hpath

end Shown

/-! ### Numbers that are not equal to themselves -/

/-- A number that is not a number. -/
def Json.IsNan (number : FloatReader) (value : Json) : Prop :=
  value.numberOf number = some .nan

mutual

/-- A leaf is no object and no array. -/
theorem scalar_of_mem_leaves {entry : String × Json} : ∀ (path : String) (value : Json),
    entry ∈ leaves path value → entry.2.asObject = none ∧ entry.2.asArray = none
  | path, .obj fields, h => scalar_of_mem_leavesOfFields path fields h
  | path, .arr items, h => scalar_of_mem_leavesOfItems path 0 items h
  | _, .null, h => by obtain rfl := List.mem_singleton.1 h; exact ⟨rfl, rfl⟩
  | _, .bool _, h => by obtain rfl := List.mem_singleton.1 h; exact ⟨rfl, rfl⟩
  | _, .int _, h => by obtain rfl := List.mem_singleton.1 h; exact ⟨rfl, rfl⟩
  | _, .float _, h => by obtain rfl := List.mem_singleton.1 h; exact ⟨rfl, rfl⟩
  | _, .str _, h => by obtain rfl := List.mem_singleton.1 h; exact ⟨rfl, rfl⟩

theorem scalar_of_mem_leavesOfFields {entry : String × Json} (path : String) :
    ∀ fields : List (String × Json), entry ∈ leavesOfFields path fields →
      entry.2.asObject = none ∧ entry.2.asArray = none
  | [], h => absurd h List.not_mem_nil
  | (_, value) :: fields, h => by
    rcases List.mem_append.1 h with h | h
    · exact scalar_of_mem_leaves _ value h
    · exact scalar_of_mem_leavesOfFields path fields h

theorem scalar_of_mem_leavesOfItems {entry : String × Json} (path : String) :
    ∀ (index : ℕ) (items : List Json), entry ∈ leavesOfItems path index items →
      entry.2.asObject = none ∧ entry.2.asArray = none
  | _, [], h => absurd h List.not_mem_nil
  | index, item :: items, h => by
    rcases List.mem_append.1 h with h | h
    · exact scalar_of_mem_leaves _ item h
    · exact scalar_of_mem_leavesOfItems path (index + 1) items h

end

section Nan

variable {number : FloatReader}

lemma equal_self {leaf : Json} (hobj : leaf.asObject = none) (harr : leaf.asArray = none) :
    leaf.equal number leaf = true ↔ ¬ leaf.IsNan number := by
  cases leaf with
  | arr items => simp [Json.asArray] at harr
  | obj fields => simp [Json.asObject] at hobj
  | _ => simp [Json.equal, Json.IsNan, Json.numberOf, FloatValue.Equal]

/-- The leaf that shows under a path looks the same as itself unless it is not a number. -/
lemma looksSame_self (value : Json) (path : String) :
    LooksSame number (shownLeaf value path) (shownLeaf value path) ↔
      ∀ leaf, shownLeaf value path = some leaf → ¬ leaf.IsNan number := by
  cases hleaf : shownLeaf value path with
  | none => simp [LooksSame]
  | some leaf =>
    obtain ⟨entry, hfind, hentry⟩ := Option.map_eq_some_iff.1 hleaf
    have hmem := List.mem_reverse.1 (List.mem_of_find?_eq_some hfind)
    obtain ⟨hobj, harr⟩ := scalar_of_mem_leaves "$" value hmem
    rw [hentry] at hobj harr
    simpa [LooksSame] using equal_self hobj harr

end Nan

/-! ## The way back -/

/-- The change that takes another one back. -/
def DiffChange.reverse : DiffChange → DiffChange
  | .added => .removed
  | .removed => .added
  | .changed => .changed

/-- The entry that takes another one back. -/
def DiffEntry.reverse (entry : DiffEntry) : DiffEntry where
  path := entry.path
  change := entry.change.reverse
  before := entry.after
  after := entry.before

section Reverse

variable {number : FloatReader}

lemma FloatValue.equal_comm {a b : FloatValue} : a.Equal b ↔ b.Equal a := by
  constructor
  · rintro ⟨rfl, hnan⟩
    exact ⟨rfl, hnan⟩
  · rintro ⟨rfl, hnan⟩
    exact ⟨rfl, hnan⟩

/-- Leaves are compared the same way in both directions. -/
lemma equal_comm_of_scalar {x y : Json} (hx : x.asObject = none ∧ x.asArray = none)
    (hy : y.asObject = none ∧ y.asArray = none) : x.equal number y = y.equal number x := by
  cases x with
  | arr items => exact absurd hx.2 (Option.some_ne_none _)
  | obj fields => exact absurd hx.1 (Option.some_ne_none _)
  | _ =>
    cases y with
    | arr items => exact absurd hy.2 (Option.some_ne_none _)
    | obj fields => exact absurd hy.1 (Option.some_ne_none _)
    | _ => simp [Json.equal, Json.numberOf, FloatValue.equal_comm, eq_comm]

lemma scalar_of_shownLeaf {value leaf : Json} {path : String}
    (h : shownLeaf value path = some leaf) : leaf.asObject = none ∧ leaf.asArray = none := by
  obtain ⟨entry, hfind, rfl⟩ := Option.map_eq_some_iff.1 h
  have hmem := List.mem_reverse.1 (List.mem_of_find?_eq_some hfind)
  exact scalar_of_mem_leaves "$" value hmem

lemma looksSame_comm (before after : Json) (path : String) :
    LooksSame number (shownLeaf after path) (shownLeaf before path) ↔
      LooksSame number (shownLeaf before path) (shownLeaf after path) := by
  cases hold : shownLeaf before path with
  | none => cases shownLeaf after path <;> exact Iff.rfl
  | some old =>
    cases hnew : shownLeaf after path with
    | none => exact Iff.rfl
    | some new =>
      rw [LooksSame, LooksSame,
        equal_comm_of_scalar (scalar_of_shownLeaf hold) (scalar_of_shownLeaf hnew)]

/-- The entry of a path on the way back. -/
lemma diffEntry_reverse {path : String} {old new : Option Json}
    (h : LooksSame number new old ↔ LooksSame number old new) :
    diffEntry number path new old = (diffEntry number path old new).map DiffEntry.reverse := by
  rw [diffEntry, diffEntry]
  by_cases hsame : LooksSame number old new
  · rw [if_pos (h.2 hsame), if_pos hsame]
    rfl
  · rw [if_neg (h.not.2 hsame), if_neg hsame]
    -- both missing is no difference
    rcases old with _ | old <;> rcases new with _ | new
    · exact absurd trivial hsame
    · rfl
    · rfl
    · rfl

/-- The paths of a diff do not depend on its direction. -/
lemma keys_updateFields_comm {fields fields' : List (String × Json)} (h : InKeyOrder fields)
    (h' : InKeyOrder fields') :
    (updateFields fields' fields).map Prod.fst = (updateFields fields fields').map Prod.fst := by
  have hleft := h'.updateFields fields
  have hright := h.updateFields fields'
  have hperm : ((updateFields fields' fields).map Prod.fst).Perm
      ((updateFields fields fields').map Prod.fst) := by
    refine (List.perm_ext_iff_of_nodup hleft.nodup hright.nodup).2 fun key => ?_
    rw [Json.mem_keys_updateFields, Json.mem_keys_updateFields, or_comm]
  exact hperm.eq_of_pairwise (fun a b _ _ hab hba => absurd (hab.trans hba) (lt_irrefl _))
    (List.pairwise_map.2 hleft) (List.pairwise_map.2 hright)

end Reverse

/-- **The diff of the way back.**  It lists the same paths in the same order, each with the change
that takes the other one back. -/
theorem structuralDiff_reversed (number : FloatReader) (before after : Json) :
    structuralDiff number after before =
      (structuralDiff number before after).map DiffEntry.reverse := by
  rw [structuralDiff, structuralDiff, List.map_filterMap,
    keys_updateFields_comm (inKeyOrder_flatten "$" before) (inKeyOrder_flatten "$" after)]
  refine List.filterMap_congr fun path _ => ?_
  rw [get?_flatten_shown, get?_flatten_shown]
  exact diffEntry_reverse (looksSame_comm before after path)

end AgenticMesh
