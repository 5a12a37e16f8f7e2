import AgenticMesh.Base.Json
import Mathlib.Data.List.Forall2
import Mathlib.Data.Option.Basic

/-!
# Objects with their keys in another order

Two decoded values are the same for a reader that looks fields up by their keys
if they differ in the order of the keys of their objects only.
-/

namespace AgenticMesh

/-- The element of a key does not depend on the order, if no key occurs twice. -/
lemma find?_perm {α κ : Type} [DecidableEq κ] {key : α → κ} {xs ys : List α} (h : xs.Perm ys)
    (hnodup : (xs.map key).Nodup) (k : κ) :
    (xs.find? fun x => key x = k) = ys.find? fun x => key x = k := by
  have hiff : ∀ {zs : List α}, (zs.map key).Nodup → ∀ z,
      (zs.find? fun x => key x = k) = some z ↔ z ∈ zs ∧ key z = k := by
    intro zs hzs z
    refine ⟨fun hfind => ⟨List.mem_of_find?_eq_some hfind, by simpa using List.find?_some hfind⟩,
      fun ⟨hmem, hk⟩ => ?_⟩
    cases hfind : zs.find? fun x => key x = k with
    | none => exact absurd hk (by simpa using List.find?_eq_none.1 hfind z hmem)
    | some y =>
      have hy : key y = k := by simpa using List.find?_some hfind
      rw [List.inj_on_of_nodup_map hzs (List.mem_of_find?_eq_some hfind) hmem (hy.trans hk.symm)]
  have hnodup' : (ys.map key).Nodup := (h.map key).nodup_iff.1 hnodup
  ext z
  rw [hiff hnodup, hiff hnodup', h.mem_iff]

/-- A related list has a related element for every element. -/
lemma exists_related {α β : Type} {R : α → β → Prop} {xs : List α} {ys : List β}
    (h : List.Forall₂ R xs ys) {x : α} (hx : x ∈ xs) : ∃ y ∈ ys, R x y := by
  induction h with
  | nil => exact absurd hx List.not_mem_nil
  | @cons x' y xs ys hxy _ ih =>
    rcases List.mem_cons.1 hx with rfl | hx
    · exact ⟨y, List.mem_cons_self, hxy⟩
    · obtain ⟨z, hz, hxz⟩ := ih hx
      exact ⟨z, List.mem_cons_of_mem y hz, hxz⟩

namespace Json

mutual

/-- The same value with the keys of its objects in another order. -/
inductive Reordered : Json → Json → Prop
  | null : Reordered .null .null
  | bool (b : Bool) : Reordered (.bool b) (.bool b)
  | int (n : ℤ) : Reordered (.int n) (.int n)
  | float (text : String) : Reordered (.float text) (.float text)
  | str (s : String) : Reordered (.str s) (.str s)
  | arr {items items' : List Json} (h : ReorderedItems items items') :
    Reordered (.arr items) (.arr items')
  | obj {fields fields' : List (String × Json)} (hnodup : (fields.map Prod.fst).Nodup)
    (h : ReorderedFields fields fields') : Reordered (.obj fields) (.obj fields')

/-- The same items, each of them reordered. -/
inductive ReorderedItems : List Json → List Json → Prop
  | nil : ReorderedItems [] []
  | cons {item item' : Json} {items items' : List Json} (hitem : Reordered item item')
    (h : ReorderedItems items items') : ReorderedItems (item :: items) (item' :: items')

/-- The same fields in any order, each of their values reordered. -/
inductive ReorderedFields : List (String × Json) → List (String × Json) → Prop
  | nil : ReorderedFields [] []
  | cons {key : String} {value value' : Json} {fields fields' others : List (String × Json)}
    (hvalue : Reordered value value') (h : ReorderedFields fields others)
    (hperm : fields'.Perm ((key, value') :: others)) :
    ReorderedFields ((key, value) :: fields) fields'

end

/-- A field with its value reordered. -/
def SameField (p q : String × Json) : Prop := p.1 = q.1 ∧ Reordered p.2 q.2

variable {fields fields' : List (String × Json)} {value value' : Json}

lemma ReorderedItems.forall₂ {items items' : List Json} (h : ReorderedItems items items') :
    List.Forall₂ Reordered items items' := by
  induction items generalizing items' with
  | nil =>
    cases h
    exact .nil
  | cons item items ih =>
    cases h with
    | cons hitem h => exact .cons hitem (ih h)

/-- Reordered fields are the reordered values, field by field, in another order. -/
lemma ReorderedFields.exists_forall₂ (h : ReorderedFields fields fields') :
    ∃ others, List.Forall₂ SameField fields others ∧ others.Perm fields' := by
  induction fields generalizing fields' with
  | nil =>
    cases h
    exact ⟨[], .nil, List.Perm.nil⟩
  | cons p fields ih =>
    cases h with
    | @cons key value value' _ _ rest hvalue h hperm =>
      obtain ⟨others, hsame, hothers⟩ := ih h
      exact ⟨(key, value') :: others, .cons ⟨rfl, hvalue⟩ hsame,
        (hothers.cons _).trans hperm.symm⟩

lemma reorderedFields_of_forall₂ {others : List (String × Json)}
    (h : List.Forall₂ SameField fields others) (hperm : others.Perm fields') :
    ReorderedFields fields fields' := by
  induction h generalizing fields' with
  | nil =>
    obtain rfl := List.nil_perm.1 hperm
    exact .nil
  | @cons p q fields others hsame _ ih =>
    obtain ⟨key, value⟩ := p
    obtain ⟨hkey, hvalue⟩ := hsame
    obtain rfl : q.1 = key := hkey.symm
    exact .cons hvalue (ih (List.Perm.refl others)) hperm.symm

lemma keys_of_forall₂ (h : List.Forall₂ SameField fields fields') :
    fields.map Prod.fst = fields'.map Prod.fst := by
  induction h with
  | nil => rfl
  | cons hsame _ ih => rw [List.map_cons, List.map_cons, hsame.1, ih]

/-- A field is found under its key whatever the order. -/
protected lemma Reordered.get? (h : Reordered value value') (key : String) :
    Option.Rel Reordered (value.get? key) (value'.get? key) := by
  cases h with
  | obj hnodup h =>
    obtain ⟨others, hsame, hperm⟩ := h.exists_forall₂
    have hothers := keys_of_forall₂ hsame ▸ hnodup
    simp only [Json.get?]
    rw [← find?_perm hperm hothers key]
    clear hperm hothers hnodup h
    induction hsame with
    | nil => exact .none
    | @cons p q fields others hpq _ ih =>
      by_cases hp : p.1 = key
      · have hq : q.1 = key := hpq.1 ▸ hp
        simpa [hp, hq] using Option.Rel.some hpq.2
      · have hq : q.1 ≠ key := hpq.1 ▸ hp
        simpa [hp, hq] using ih
  | _ => exact .none

/-- Reordered objects without some of their fields. -/
protected lemma Reordered.filter (keep : String → Bool)
    (h : Reordered (.obj fields) (.obj fields')) :
    Reordered (.obj (fields.filter fun p => keep p.1))
      (.obj (fields'.filter fun p => keep p.1)) := by
  cases h with
  | obj hnodup h =>
    obtain ⟨others, hsame, hperm⟩ := h.exists_forall₂
    refine .obj (hnodup.sublist (List.filter_sublist.map _))
      (reorderedFields_of_forall₂ ?_ (hperm.filter _))
    clear hperm hnodup h
    induction hsame with
    | nil => exact .nil
    | @cons p q fields others hpq _ ih =>
      rw [List.filter_cons, List.filter_cons, hpq.1]
      split
      · exact .cons hpq ih
      · exact ih

end Json

end AgenticMesh
