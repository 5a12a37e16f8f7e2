import AgenticMesh.Base.Text
import Mathlib.Data.List.Nodup

/-!
# JSON values

The values of the `jsonb` columns and of the request payloads.  An object lists
its fields in key order without repetitions, so that equal objects are equal
lists; a number with a fraction or an exponent is kept as the text that Python
writes for it.
-/

namespace AgenticMesh

/-- A JSON value. -/
inductive Json where
  | null
  | bool (b : Bool)
  | int (n : ℤ)
  | float (text : String)
  | str (s : String)
  | arr (xs : List Json)
  | obj (fields : List (String × Json))
deriving Repr, Inhabited

namespace Json

mutual

/-- Equality of JSON values is decidable. -/
def decEq : (a b : Json) → Decidable (a = b)
  | .null, b => by cases b <;> first | exact isTrue rfl | exact isFalse (by simp)
  | .bool x, b => by
    cases b with
    | bool y => exact decidable_of_iff (x = y) (by simp)
    | _ => exact isFalse (by simp)
  | .int x, b => by
    cases b with
    | int y => exact decidable_of_iff (x = y) (by simp)
    | _ => exact isFalse (by simp)
  | .float x, b => by
    cases b with
    | float y => exact decidable_of_iff (x = y) (by simp)
    | _ => exact isFalse (by simp)
  | .str x, b => by
    cases b with
    | str y => exact decidable_of_iff (x = y) (by simp)
    | _ => exact isFalse (by simp)
  | .arr xs, b => by
    cases b with
    | arr ys => exact @decidable_of_iff _ (xs = ys) (by simp) (decEqList xs ys)
    | _ => exact isFalse (by simp)
  | .obj xs, b => by
    cases b with
    | obj ys => exact @decidable_of_iff _ (xs = ys) (by simp) (decEqFields xs ys)
    | _ => exact isFalse (by simp)

/-- Equality of lists of JSON values is decidable. -/
def decEqList : (xs ys : List Json) → Decidable (xs = ys)
  | [], [] => isTrue rfl
  | [], _ :: _ => isFalse (by simp)
  | _ :: _, [] => isFalse (by simp)
  | x :: xs, y :: ys =>
    have := decEq x y
    have := decEqList xs ys
    decidable_of_iff (x = y ∧ xs = ys) (by simp)

/-- Equality of lists of fields is decidable. -/
def decEqFields : (xs ys : List (String × Json)) → Decidable (xs = ys)
  | [], [] => isTrue rfl
  | [], _ :: _ => isFalse (by simp)
  | _ :: _, [] => isFalse (by simp)
  | (k, x) :: xs, (l, y) :: ys =>
    have := decEq x y
    have := decEqFields xs ys
    decidable_of_iff (k = l ∧ x = y ∧ xs = ys) (by simp [and_assoc])

end

instance : DecidableEq Json := decEq

instance lawfulBEqOption : LawfulBEq (Option Json) := inferInstance

/-- `value.get(key)` of a mapping; any other value has no fields. -/
def get? : Json → String → Option Json
  | .obj fields, k => (fields.find? fun p => p.1 = k).map Prod.snd
  | _, _ => none

/-- `fields[key] = value`, with the fields in key order. -/
def insertField (key : String) (value : Json) : List (String × Json) → List (String × Json)
  | [] => [(key, value)]
  | (k, v) :: fields =>
    if key = k then (key, value) :: fields
    else if key < k then (key, value) :: (k, v) :: fields
    else (k, v) :: insertField key value fields

/-- A copy of a mapping with one more field. -/
def withField (v : Json) (key : String) (value : Json) : Json :=
  match v with
  | .obj fields => .obj (insertField key value fields)
  | _ => .obj [(key, value)]

lemma find_insertField (key : String) (value : Json) (fields : List (String × Json)) :
    (insertField key value fields).find? (fun p => p.1 = key) = some (key, value) := by
  induction fields with
  | nil => simp [insertField]
  | cons p fields ih =>
    obtain ⟨k, v⟩ := p
    unfold insertField
    by_cases hk : key = k
    · simp [hk]
    · by_cases hlt : key < k
      · simp [hk, hlt]
      · simp [hk, hlt, Ne.symm hk, ih]

lemma find_insertField_of_ne {key key' : String} (h : key' ≠ key) (value : Json)
    (fields : List (String × Json)) :
    (insertField key value fields).find? (fun p => p.1 = key') =
      fields.find? (fun p => p.1 = key') := by
  induction fields with
  | nil => simp [insertField, Ne.symm h]
  | cons p fields ih =>
    obtain ⟨k, v⟩ := p
    unfold insertField
    by_cases hk : key = k
    · subst hk
      simp [Ne.symm h]
    · by_cases hlt : key < k
      · simp [hk, hlt, Ne.symm h]
      · rw [if_neg hk, if_neg hlt, List.find?_cons, List.find?_cons, ih]

/-- The field that was set. -/
@[simp] lemma get?_withField (key : String) (x v : Json) :
    (v.withField key x).get? key = some x := by
  cases v with
  | obj fields =>
    rw [withField, get?, find_insertField]
    rfl
  | _ => simp [withField, get?]

/-- `{**a, **b}`: the fields of a mapping, replaced and extended by those of another one. -/
def merge : Json → Json → Json
  | .obj fields, .obj others => .obj (others.foldl (fun fs p => insertField p.1 p.2 fs) fields)
  | .obj fields, _ => .obj fields
  | _, b => b

/-- The string in a JSON value. -/
def asString : Json → Option String
  | .str s => some s
  | _ => none

lemma asString_eq_some {v : Json} {s : String} : v.asString = some s ↔ v = .str s := by
  cases v <;> simp [asString]

/-- The elements of a JSON array. -/
def asArray : Json → Option (List Json)
  | .arr xs => some xs
  | _ => none

/-- The fields of a JSON value. -/
def asObject : Json → Option (List (String × Json))
  | .obj fields => some fields
  | _ => none

lemma asObject_eq_some {v : Json} {fields : List (String × Json)} :
    v.asObject = some fields ↔ v = .obj fields := by
  cases v <;> simp [asObject]

/-! ## Fields in key order -/

/-- `dict.pop(key)`: a mapping without one of its fields. -/
def without (value : Json) (key : String) : Json :=
  match value with
  | .obj fields => .obj (fields.filter fun p => p.1 ≠ key)
  | value => value

section InKeyOrder

/-- The fields of an object are in key order. -/
def InKeyOrder (fields : List (String × Json)) : Prop := fields.Pairwise fun a b => a.1 < b.1

variable {key : String} {value : Json} {fields : List (String × Json)}

lemma InKeyOrder.nodup (h : InKeyOrder fields) : (fields.map Prod.fst).Nodup := by
  rw [List.Nodup, List.pairwise_map]
  exact h.imp fun hlt => ne_of_lt hlt

lemma mem_insertField (h : InKeyOrder fields) {p : String × Json} :
    p ∈ insertField key value fields ↔ p = (key, value) ∨ p ∈ fields ∧ p.1 ≠ key := by
  induction fields with
  | nil => simp [insertField]
  | cons q fields ih =>
    obtain ⟨k, v⟩ := q
    obtain ⟨hhead, htail⟩ := List.pairwise_cons.1 h
    have hother : ∀ r ∈ fields, key ≤ k → r.1 ≠ key := by
      rintro r hr hle rfl
      exact absurd (hhead r hr) (not_lt.2 hle)
    unfold insertField
    by_cases hk : key = k
    · subst hk
      have := hother p
      rw [if_pos rfl, List.mem_cons, List.mem_cons]
      grind
    · rw [if_neg hk]
      by_cases hlt : key < k
      · have := hother p
        rw [if_pos hlt, List.mem_cons, List.mem_cons]
        grind
      · rw [if_neg hlt, List.mem_cons, ih htail, List.mem_cons]
        grind

/-- Setting a field keeps the key order. -/
lemma InKeyOrder.insertField (h : InKeyOrder fields) :
    InKeyOrder (insertField key value fields) := by
  induction fields with
  | nil => exact List.pairwise_singleton _ _
  | cons q fields ih =>
    obtain ⟨k, v⟩ := q
    obtain ⟨hhead, htail⟩ := List.pairwise_cons.1 h
    unfold Json.insertField
    by_cases hk : key = k
    · subst hk
      rw [if_pos rfl]
      exact List.pairwise_cons.2 ⟨hhead, htail⟩
    · rw [if_neg hk]
      by_cases hlt : key < k
      · rw [if_pos hlt]
        refine List.pairwise_cons.2 ⟨?_, h⟩
        rintro r hr
        obtain rfl | hr := List.mem_cons.1 hr
        · exact hlt
        · exact hlt.trans (hhead r hr)
      · rw [if_neg hlt]
        refine List.pairwise_cons.2 ⟨fun r hr => ?_, ih htail⟩
        obtain rfl | ⟨hr, -⟩ := (mem_insertField htail).1 hr
        · exact lt_of_le_of_ne (not_lt.1 hlt) (Ne.symm hk)
        · exact hhead r hr

/-- A field that is set leaves the object when it is removed. -/
lemma without_insertField (h : ∀ p ∈ fields, p.1 ≠ key) :
    (obj (Json.insertField key value fields)).without key = obj fields := by
  simp only [without, obj.injEq]
  induction fields with
  | nil => simp [Json.insertField]
  | cons q fields ih =>
    obtain ⟨k, v⟩ := q
    obtain ⟨hk, htail⟩ := List.forall_mem_cons.1 h
    have hkept : fields.filter (fun p => decide (p.1 ≠ key)) = fields :=
      List.filter_eq_self.2 fun p hp => by simpa using htail p hp
    unfold Json.insertField
    rw [if_neg (Ne.symm hk)]
    by_cases hlt : key < k
    · rw [if_pos hlt, List.filter_cons_of_neg (by simp),
        List.filter_cons_of_pos (by simpa using hk),
        hkept]
    · rw [if_neg hlt, List.filter_cons_of_pos (by simpa using hk), ih htail]

/-- The field of a key is the only one. -/
lemma get?_eq_some (h : InKeyOrder fields) :
    (obj fields).get? key = some value ↔ (key, value) ∈ fields := by
  simp only [get?, Option.map_eq_some_iff]
  constructor
  · rintro ⟨⟨k, v⟩, hfind, rfl⟩
    have hk : k = key := by simpa using List.find?_some hfind
    subst hk
    exact List.mem_of_find?_eq_some hfind
  · intro hmem
    cases hfind : fields.find? (fun p => p.1 = key) with
    | none => simpa using List.find?_eq_none.1 hfind _ hmem
    | some p =>
      refine ⟨p, rfl, ?_⟩
      have hp : p.1 = key := by simpa using List.find?_some hfind
      have hinj := List.inj_on_of_nodup_map h.nodup (List.mem_of_find?_eq_some hfind) hmem hp
      rw [hinj]

lemma get?_eq_none : (obj fields).get? key = none ↔ key ∉ fields.map Prod.fst := by
  simp only [get?, Option.map_eq_none_iff, List.find?_eq_none, decide_eq_true_eq, List.mem_map,
    not_exists, not_and]

end InKeyOrder

/-! ## Serialization -/

/-- The escape of a character in `json.dumps(..., ensure_ascii=False)`. -/
def escapeChar (c : Char) : List Char :=
  let backslash := Char.ofNat 92
  match c.toNat with
  | 34 => [backslash, c]
  | 92 => [backslash, c]
  | 8 => [backslash, 'b']
  | 9 => [backslash, 't']
  | 10 => [backslash, 'n']
  | 12 => [backslash, 'f']
  | 13 => [backslash, 'r']
  | n =>
    if n < 32 then [backslash, 'u', '0', '0', Nat.digitChar (n / 16), Nat.digitChar (n % 16)]
    else [c]

def dumpString (s : String) : String :=
  "\"" ++ String.ofList (s.toList.flatMap escapeChar) ++ "\""

mutual

/-- The text of a value with the given separators. -/
def render (comma colon : String) : Json → String
  | .null => "null"
  | .bool true => "true"
  | .bool false => "false"
  | .int n => if n < 0 then "-" ++ decimal n.natAbs else decimal n.natAbs
  | .float text => text
  | .str s => dumpString s
  | .arr xs => "[" ++ comma.intercalate (renderList comma colon xs) ++ "]"
  | .obj fields => "\x7b" ++ comma.intercalate (renderFields comma colon fields) ++ "\x7d"

def renderList (comma colon : String) : List Json → List String
  | [] => []
  | x :: xs => render comma colon x :: renderList comma colon xs

def renderFields (comma colon : String) : List (String × Json) → List String
  | [] => []
  | (k, x) :: fields =>
    (dumpString k ++ colon ++ render comma colon x) :: renderFields comma colon fields

end

/-- `json.dumps` with sorted keys and the separators `,` and `:`. -/
def dumps : Json → String := render "," ":"

/-- A character of four hexadecimal digits in `json.dumps`. -/
def escapeUnit (n : ℕ) : List Char :=
  [Char.ofNat 92, 'u', Nat.digitChar (n / 4096), Nat.digitChar (n / 256 % 16),
    Nat.digitChar (n / 16 % 16), Nat.digitChar (n % 16)]

/-- The escape of a character outside of printable ASCII, in UTF-16. -/
def escapeAscii (c : Char) : List Char :=
  let n := c.toNat
  if 32 ≤ n ∧ n ≤ 126 then [c]
  else if n < 65536 then escapeUnit n
  else escapeUnit (55296 + (n - 65536) / 1024) ++ escapeUnit (56320 + (n - 65536) % 1024)

/-- The text of `json.dumps(..., ensure_ascii=True)`, from that with `ensure_ascii=False`. -/
def ascii (text : String) : String := String.ofList (text.toList.flatMap escapeAscii)

/-- An optional text. -/
def ofOption : Option String → Json
  | none => null
  | some s => str s

/-! ## What can be written and stored -/

/-- Python writes no integer of more than 4300 digits. -/
def isWrittenInt (n : ℤ) : Bool := (Nat.toDigits 10 n.natAbs).length ≤ 4300

/-- A number that JSON has. -/
def isFiniteText (text : String) : Bool := text ∉ ["NaN", "Infinity", "-Infinity"]

mutual

/-- `json.dumps(..., allow_nan=False)` writes a value; it raises for the others. -/
def dumpable : Json → Bool
  | .int n => isWrittenInt n
  | .float text => isFiniteText text
  | .arr items => dumpableItems items
  | .obj fields => dumpableFields fields
  | _ => true

def dumpableItems : List Json → Bool
  | [] => true
  | item :: items => dumpable item && dumpableItems items

def dumpableFields : List (String × Json) → Bool
  | [] => true
  | (_, value) :: fields => dumpable value && dumpableFields fields

end

mutual

/-- A `jsonb` column takes a value: it has no string with the character `U+0000`, and no number
that JSON does not have. -/
def storable : Json → Bool
  | .int n => isWrittenInt n
  | .float text => isFiniteText text
  | .str s => hasNoNul s
  | .arr items => storableItems items
  | .obj fields => storableFields fields
  | _ => true

def storableItems : List Json → Bool
  | [] => true
  | item :: items => storable item && storableItems items

def storableFields : List (String × Json) → Bool
  | [] => true
  | (key, value) :: fields => hasNoNul key && storable value && storableFields fields

end

example : dumps (obj [("a", int (-1)), ("b", arr [str "x\n", null])]) =
    "\x7b\"a\":-1,\"b\":[\"x\\n\",null]\x7d" := by decide

example : ascii (dumps (.str "aé𝒜")) = "\"a\\u00e9\\ud835\\udc9c\"" := by decide

example : obj [("a", int 1), ("b", arr [str "x", null])] ≠ obj [("a", int 1)] := by decide

end Json

end AgenticMesh
