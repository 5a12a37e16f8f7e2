import Mathlib.Data.List.Sort
import Mathlib.Data.List.TakeWhile

/-!
# Sorting by a key

`sorted(items, key=...)`: the stable sort by a key that several items may share.  What it
returns depends on the order of the items exactly when two different ones share a key.
-/

namespace AgenticMesh

variable {α κ : Type*} [LinearOrder κ] (key : α → κ)

/-- `sorted(items, key=key)`. -/
def sortedBy (items : List α) : List α := items.insertionSort fun a b => key a ≤ key b

variable {key} {xs ys : List α} {a b : α}

lemma perm_sortedBy (xs : List α) : (sortedBy key xs).Perm xs := List.perm_insertionSort _ _

@[simp] lemma mem_sortedBy : a ∈ sortedBy key xs ↔ a ∈ xs := List.mem_insertionSort _

lemma sortedBy_eq_nil : sortedBy key xs = [] ↔ xs = [] := by
  constructor
  · intro h
    have hperm : (sortedBy key xs).Perm xs := perm_sortedBy xs
    rw [h] at hperm
    exact hperm.nil_eq.symm
  · rintro rfl
    rfl

lemma pairwise_sortedBy (xs : List α) :
    (sortedBy key xs).Pairwise fun a b => key a ≤ key b := by
  have : Std.Total fun a b : α => key a ≤ key b := ⟨fun a b => le_total (key a) (key b)⟩
  have : IsTrans α fun a b => key a ≤ key b := ⟨fun a b c => le_trans⟩
  exact List.pairwise_insertionSort _ _

/-- Items that share no key are sorted in one way. -/
lemma sortedBy_congr (hperm : xs.Perm ys)
    (hties : ∀ a ∈ xs, ∀ b ∈ xs, key a = key b → a = b) : sortedBy key xs = sortedBy key ys := by
  refine List.Perm.eq_of_pairwise (fun a b ha hb hab hba => ?_) (pairwise_sortedBy xs)
    (pairwise_sortedBy ys) ((perm_sortedBy xs).trans (hperm.trans (perm_sortedBy ys).symm))
  exact hties a (mem_sortedBy.1 ha) b (hperm.mem_iff.2 (mem_sortedBy.1 hb)) (le_antisymm hab hba)

/-- **Stability.**  Items that share a key keep their order. -/
theorem filter_sortedBy (k : κ) (xs : List α) :
    (sortedBy key xs).filter (fun a => key a = k) = xs.filter fun a => key a = k := by
  induction xs with
  | nil => rfl
  | cons x xs ih =>
    have hinsert : sortedBy key (x :: xs) =
        (sortedBy key xs).takeWhile (fun b => ¬ key x ≤ key b) ++
          x :: (sortedBy key xs).dropWhile fun b => ¬ key x ≤ key b := by
      show List.orderedInsert _ x (sortedBy key xs) = _
      rw [List.orderedInsert_eq_take_drop]
    have hsplit : (sortedBy key xs).filter (fun a => key a = k) =
        ((sortedBy key xs).takeWhile fun b => ¬ key x ≤ key b).filter (fun a => key a = k) ++
          ((sortedBy key xs).dropWhile fun b => ¬ key x ≤ key b).filter fun a => key a = k := by
      rw [← List.filter_append, List.takeWhile_append_dropWhile]
    rw [hinsert, List.filter_append, List.filter_cons, List.filter_cons, ← ih]
    by_cases hx : key x = k
    · -- the items before the new one have smaller keys
      have hbefore : ((sortedBy key xs).takeWhile fun b => ¬ key x ≤ key b).filter
          (fun a => key a = k) = [] := by
        refine List.filter_eq_nil_iff.2 fun c hc => ?_
        have htaken := List.mem_takeWhile_imp hc
        have hlt : ¬ key x ≤ key c := of_decide_eq_true htaken
        intro hck
        exact hlt (by rw [hx, of_decide_eq_true hck])
      rw [hsplit, hbefore, if_pos (by simpa using hx), if_pos (by simpa using hx)]
      rfl
    · rw [if_neg (by simpa using hx), if_neg (by simpa using hx), hsplit]

/-- Two items that share a key and may be exchanged are equal. -/
lemma eq_of_sortedBy_eq {pre post : List α} (hkey : key a = key b)
    (h : sortedBy key (pre ++ a :: b :: post) = sortedBy key (pre ++ b :: a :: post)) : a = b := by
  have hfilter : (pre ++ a :: b :: post).filter (fun c => key c = key b) =
      (pre ++ b :: a :: post).filter fun c => key c = key b := by
    rw [← filter_sortedBy (key b) (pre ++ a :: b :: post), h, filter_sortedBy]
  rw [List.filter_append, List.filter_append] at hfilter
  have hpost := List.append_cancel_left hfilter
  rw [List.filter_cons_of_pos (by simpa using hkey),
    List.filter_cons_of_pos (a := b) (l := a :: post) (by simp)] at hpost
  exact (List.cons.inj hpost).1

/-- What is sorted is made of some sources, which may come in any order. -/
lemma eq_of_sortedBy_map {σ : Type*} [DecidableEq σ] {f : σ → α} {sources : List σ}
    {pre post : List α}
    (h : ∀ others : List σ, others.Perm sources → sortedBy key (pre ++ others.map f ++ post) =
      sortedBy key (pre ++ sources.map f ++ post))
    {s t : σ} (hs : s ∈ sources) (ht : t ∈ sources) (hkey : key (f s) = key (f t)) :
    f s = f t := by
  by_cases hst : s = t
  · rw [hst]
  · have ht' : t ∈ sources.erase s := (List.mem_erase_of_ne (Ne.symm hst)).2 ht
    have hfirst : (s :: t :: (sources.erase s).erase t).Perm sources :=
      ((List.perm_cons_erase ht').symm.cons s).trans (List.perm_cons_erase hs).symm
    have hswapped : (t :: s :: (sources.erase s).erase t).Perm sources :=
      (List.Perm.swap s t _).trans hfirst
    have heq := (h _ hfirst).trans (h _ hswapped).symm
    simp only [List.map_cons, List.append_assoc, List.cons_append] at heq
    exact eq_of_sortedBy_eq hkey heq

end AgenticMesh
