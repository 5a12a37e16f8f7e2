import AgenticMesh.Base.Json
import Mathlib.Tactic.IntervalCases

/-!
# The size of a serialized value

`json.dumps` writes a value in ASCII: a character takes at most the twelve
characters of two escaped surrogates.
-/

namespace AgenticMesh.Json

/-- The number of characters that a text takes in ASCII. -/
def asciiLength (s : String) : ℕ := (s.toList.flatMap escapeAscii).length

lemma length_ascii (s : String) : (ascii s).toList.length = asciiLength s := by
  rw [ascii, String.toList_ofList, asciiLength]

@[simp] lemma asciiLength_append (s t : String) :
    asciiLength (s ++ t) = asciiLength s + asciiLength t := by
  simp [asciiLength]

lemma length_escapeAscii_le (c : Char) : (escapeAscii c).length ≤ 12 := by
  simp only [escapeAscii, escapeUnit]
  split
  · simp
  · split <;> simp

/-- Printable ASCII takes one character. -/
lemma length_escapeAscii {c : Char} (h : 32 ≤ c.toNat ∧ c.toNat ≤ 126) :
    (escapeAscii c).length = 1 := by
  simp only [escapeAscii, if_pos h, List.length_singleton]

lemma printable_digitChar {n : ℕ} (h : n < 16) :
    32 ≤ (Nat.digitChar n).toNat ∧ (Nat.digitChar n).toNat ≤ 126 := by
  interval_cases n <;> decide

/-- A character of a string takes at most twelve. -/
lemma length_escapeChar_le (c : Char) : ((escapeChar c).flatMap escapeAscii).length ≤ 12 := by
  have hpair : ∀ d : Char, 32 ≤ d.toNat ∧ d.toNat ≤ 126 →
      ([Char.ofNat 92, d].flatMap escapeAscii).length ≤ 12 := by
    intro d hd
    have hslash : (escapeAscii (Char.ofNat 92)).length = 1 := by decide
    simp [hslash, length_escapeAscii hd]
  unfold escapeChar
  simp only
  split
  · next h => exact hpair c (by omega)
  · next h => exact hpair c (by omega)
  · exact hpair 'b' (by decide)
  · exact hpair 't' (by decide)
  · exact hpair 'n' (by decide)
  · exact hpair 'f' (by decide)
  · exact hpair 'r' (by decide)
  · split
    · next h =>
      have hslash : (escapeAscii (Char.ofNat 92)).length = 1 := by decide
      have hu : (escapeAscii 'u').length = 1 := by decide
      have hzero : (escapeAscii '0').length = 1 := by decide
      have hhigh := length_escapeAscii (printable_digitChar (n := c.toNat / 16) (by omega))
      have hlow := length_escapeAscii (printable_digitChar (n := c.toNat % 16) (by omega))
      simp [hslash, hu, hzero, hhigh, hlow]
    · simpa using length_escapeAscii_le c

lemma asciiLength_dumpString_le (s : String) :
    asciiLength (dumpString s) ≤ 12 * s.toList.length + 2 := by
  have hquote : asciiLength "\"" = 1 := by decide
  have hchars : ∀ cs : List Char,
      ((cs.flatMap escapeChar).flatMap escapeAscii).length ≤ 12 * cs.length := by
    intro cs
    induction cs with
    | nil => simp
    | cons c cs ih =>
      have hc := length_escapeChar_le c
      rw [List.flatMap_cons, List.flatMap_append, List.length_append, List.length_cons]
      omega
  have h := hchars s.toList
  rw [dumpString, asciiLength_append, asciiLength_append, hquote]
  rw [asciiLength, String.toList_ofList]
  omega

mutual

/-- A bound on the size of a value of strings, objects and arrays. -/
def sizeBound : Json → ℕ
  | .null => 4
  | .bool _ => 5
  | .int n => asciiLength (dumps (.int n))
  | .float text => asciiLength text
  | .str s => 12 * s.toList.length + 2
  | .arr items => sizeBoundItems items + 2
  | .obj fields => sizeBoundFields fields + 2

def sizeBoundItems : List Json → ℕ
  | [] => 0
  | item :: items => sizeBound item + 1 + sizeBoundItems items

def sizeBoundFields : List (String × Json) → ℕ
  | [] => 0
  | (key, value) :: fields =>
    12 * key.toList.length + 3 + sizeBound value + 1 + sizeBoundFields fields

end

/-- Texts with a comma between two of them. -/
lemma asciiLength_intercalate_le (texts : List String) :
    asciiLength (",".intercalate texts) ≤ (texts.map fun t => asciiLength t + 1).sum := by
  have hcomma : (escapeAscii ',').length = 1 := by decide
  rw [asciiLength, String.toList_intercalate]
  induction texts with
  | nil => simp
  | cons t texts ih =>
    cases texts with
    | nil => simp [asciiLength]
    | cons u texts =>
      simp only [List.map_cons, List.sum_cons, List.intercalate_cons_cons, List.flatMap_append,
        List.length_append, asciiLength] at ih ⊢
      have hsep : ((",".toList).flatMap escapeAscii).length = 1 := by decide
      omega

mutual

theorem asciiLength_render_le : ∀ value : Json,
    asciiLength (render "," ":" value) ≤ sizeBound value
  | .null => by decide
  | .bool true => by decide
  | .bool false => by decide
  | .int n => le_refl _
  | .float text => le_refl _
  | .str s => asciiLength_dumpString_le s
  | .arr items => by
    have hopen : asciiLength "[" = 1 := by decide
    have hclose : asciiLength "]" = 1 := by decide
    have h := asciiLength_renderList_le items
    have hjoin := asciiLength_intercalate_le (renderList "," ":" items)
    rw [render, asciiLength_append, asciiLength_append, hopen, hclose, sizeBound]
    omega
  | .obj fields => by
    have hopen : asciiLength "\x7b" = 1 := by decide
    have hclose : asciiLength "\x7d" = 1 := by decide
    have h := asciiLength_renderFields_le fields
    have hjoin := asciiLength_intercalate_le (renderFields "," ":" fields)
    rw [render, asciiLength_append, asciiLength_append, hopen, hclose, sizeBound]
    omega

theorem asciiLength_renderList_le : ∀ items : List Json,
    ((renderList "," ":" items).map fun t => asciiLength t + 1).sum ≤ sizeBoundItems items
  | [] => by simp [renderList, sizeBoundItems]
  | item :: items => by
    have h := asciiLength_render_le item
    have hrest := asciiLength_renderList_le items
    rw [renderList, List.map_cons, List.sum_cons, sizeBoundItems]
    omega

theorem asciiLength_renderFields_le : ∀ fields : List (String × Json),
    ((renderFields "," ":" fields).map fun t => asciiLength t + 1).sum ≤ sizeBoundFields fields
  | [] => by simp [renderFields, sizeBoundFields]
  | (key, value) :: fields => by
    have hcolon : asciiLength ":" = 1 := by decide
    have hkey := asciiLength_dumpString_le key
    have h := asciiLength_render_le value
    have hrest := asciiLength_renderFields_le fields
    rw [renderFields, List.map_cons, List.sum_cons, sizeBoundFields, asciiLength_append,
      asciiLength_append, hcolon]
    omega

end

/-- The size of a serialized value is bounded by that of its parts. -/
lemma length_dumps_le (value : Json) :
    (ascii value.dumps).toList.length ≤ sizeBound value := by
  rw [length_ascii, dumps]
  exact asciiLength_render_le value

end AgenticMesh.Json
