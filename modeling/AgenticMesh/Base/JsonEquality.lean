import AgenticMesh.Base.Json
import Mathlib.Data.List.Sort
import Mathlib.Data.Rat.Defs

/-!
# Equality of decoded JSON

Python compares decoded values with `==`: the numbers `1`, `1.0` and `True` are
equal, and a `NaN` is not equal to itself.
-/

namespace AgenticMesh

/-- The value of a floating point number. -/
inductive FloatValue where
  | finite (value : ℚ)
  | infinite (negative : Bool)
  | nan
deriving DecidableEq

/-- The value of the number that Python writes as a text. -/
abbrev FloatReader := String → FloatValue

/-- `==` on numbers. -/
def FloatValue.Equal (a b : FloatValue) : Prop := a = b ∧ a ≠ .nan

instance (a b : FloatValue) : Decidable (a.Equal b) := inferInstanceAs (Decidable (_ ∧ _))

namespace Json

variable (number : FloatReader)

/-- The number of a boolean, an integer or a floating point number. -/
def numberOf : Json → Option FloatValue
  | .bool b => some (.finite (if b then 1 else 0))
  | .int n => some (.finite n)
  | .float text => some (number text)
  | _ => none

mutual

/-- `a == b`. -/
def equal : Json → Json → Bool
  | .null, .null => true
  | .str s, .str t => decide (s = t)
  | .arr xs, .arr ys => equalList xs ys
  | .obj xs, .obj ys => equalFields xs ys
  | a, b =>
    match numberOf number a, numberOf number b with
    | some m, some n => decide (m.Equal n)
    | _, _ => false

def equalList : List Json → List Json → Bool
  | [], [] => true
  | x :: xs, y :: ys => equal x y && equalList xs ys
  | _, _ => false

def equalFields : List (String × Json) → List (String × Json) → Bool
  | [], [] => true
  | (k, x) :: xs, (l, y) :: ys => decide (k = l) && equal x y && equalFields xs ys
  | _, _ => false

end

/-! ## Dictionaries -/

section Fields

variable {fields fields' : List (String × Json)} {key : String} {value : Json}

lemma get?_insertField (key' : String) : (obj (insertField key value fields)).get? key' =
    if key' = key then some value else (obj fields).get? key' := by
  split
  · next h =>
    rw [h, get?, find_insertField]
    rfl
  · next h => rw [get?, find_insertField_of_ne h, get?]

/-- `fields.update(others)`. -/
def updateFields (fields others : List (String × Json)) : List (String × Json) :=
  others.foldl (fun fields p => insertField p.1 p.2 fields) fields

lemma InKeyOrder.updateFields (h : InKeyOrder fields) (others : List (String × Json)) :
    InKeyOrder (Json.updateFields fields others) := by
  induction others generalizing fields with
  | nil => exact h
  | cons p others ih => exact ih h.insertField

lemma get?_updateFields {others : List (String × Json)} (h : InKeyOrder others) :
    (obj (updateFields fields others)).get? key =
      ((obj others).get? key).or ((obj fields).get? key) := by
  induction others generalizing fields with
  | nil => rfl
  | cons p others ih =>
    obtain ⟨k, value⟩ := p
    obtain ⟨hhead, htail⟩ := List.pairwise_cons.1 h
    change (obj (updateFields (insertField k value fields) others)).get? key = _
    rw [ih htail, get?_insertField]
    by_cases hk : key = k
    · have hnone : (obj others).get? key = none := by
        refine get?_eq_none.2 fun hmem => ?_
        obtain ⟨p, hp, hpk⟩ := List.mem_map.1 hmem
        exact absurd (hhead p hp) (by simp [hpk, hk])
      rw [hnone, if_pos hk]
      simp [get?, hk]
    · have hrest : (obj ((k, value) :: others)).get? key = (obj others).get? key := by
        simp [get?, Ne.symm hk]
      rw [hrest, if_neg hk]

/-- The fields of another dictionary win over those that are there. -/
lemma get?_updateFields_copy (others : List (String × Json)) :
    (obj (updateFields fields others)).get? key =
      ((obj (updateFields [] others)).get? key).or ((obj fields).get? key) := by
  induction others generalizing fields with
  | nil => rfl
  | cons p others ih =>
    change (obj (updateFields (insertField p.1 p.2 fields) others)).get? key =
      ((obj (updateFields (insertField p.1 p.2 []) others)).get? key).or _
    rw [ih, @ih (insertField p.1 p.2 []), get?_insertField, get?_insertField, Option.or_assoc]
    split
    · rw [Option.some_or]
    · rw [show (obj []).get? key = none from rfl, Option.none_or]

/-- `{**fields, **value}` has the fields of the value, and those that are not among them. -/
lemma get?_merge (fields : List (String × Json)) (value : Json) (key : String) :
    ((obj fields).merge value).get? key =
      (((obj []).merge value).get? key).or ((obj fields).get? key) := by
  cases value with
  | obj others => exact get?_updateFields_copy others
  | _ => rfl

lemma mem_keys_updateFields {others : List (String × Json)} :
    key ∈ (updateFields fields others).map Prod.fst ↔
      key ∈ fields.map Prod.fst ∨ key ∈ others.map Prod.fst := by
  induction others generalizing fields with
  | nil => simp [updateFields]
  | cons p others ih =>
    change key ∈ (updateFields (insertField p.1 p.2 fields) others).map Prod.fst ↔ _
    have hkey : key ∈ (insertField p.1 p.2 fields).map Prod.fst ↔
        key = p.1 ∨ key ∈ fields.map Prod.fst := by
      have hnone := @get?_insertField fields p.1 p.2 key
      rw [← not_iff_not, ← get?_eq_none, hnone, not_or, ← get?_eq_none]
      split
      · next h => simp [h]
      · next h => simp [h]
    rw [ih, hkey, List.map_cons, List.mem_cons]
    tauto

end Fields

end Json

end AgenticMesh
