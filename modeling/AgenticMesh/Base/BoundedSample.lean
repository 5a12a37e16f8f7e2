import Mathlib.Data.List.InsertIdx
import Mathlib.Data.List.Sort
import Mathlib.Data.List.TakeWhile

/-!
# The smallest items of a stream

A sorted list of at most `n` items takes the items of a stream one after the other: each is
inserted where `bisect_left` puts it, and what no longer fits is dropped at the end.  The
list is then the beginning of the sorted stream.
-/

namespace AgenticMesh

variable {α : Type*} [LinearOrder α]

/-- `bisect_left(items, item)` in a sorted list. -/
def bisectLeft (items : List α) (item : α) : ℕ := (items.takeWhile (· < item)).length

/-- One more item for a sample of at most `n` items. -/
def insertSample (n : ℕ) (samples : List α) (item : α) : List α :=
  let position := bisectLeft samples item
  if samples.length < n then samples.insertIdx position item
  else if position < n then (samples.insertIdx position item).dropLast
  else samples

/-- The item is inserted in its place. -/
lemma insertIdx_bisectLeft (items : List α) (item : α) :
    items.insertIdx (bisectLeft items item) item = items.orderedInsert (· ≤ ·) item := by
  induction items with
  | nil => rfl
  | cons a items ih =>
    by_cases h : a < item
    · rw [bisectLeft, List.takeWhile_cons_of_pos (by simpa using h),
        List.orderedInsert_of_not_le _ _ (not_le.2 h), ← ih]
      rfl
    · rw [bisectLeft, List.takeWhile_cons_of_neg (by simpa using h),
        List.orderedInsert_cons_of_le _ _ (not_lt.1 h)]
      rfl

lemma bisectLeft_le (items : List α) (item : α) : bisectLeft items item ≤ items.length :=
  (List.takeWhile_prefix _).length_le

/-- The sample is cut off after its `n` smallest items. -/
lemma insertSample_eq {n : ℕ} {samples : List α} (h : samples.length ≤ n) (item : α) :
    insertSample n samples item = (samples.orderedInsert (· ≤ ·) item).take n := by
  have hlength : (samples.orderedInsert (· ≤ ·) item).length = samples.length + 1 :=
    List.orderedInsert_length _ _ _
  rw [insertSample, insertIdx_bisectLeft]
  by_cases hroom : samples.length < n
  · rw [if_pos hroom, List.take_of_length_le (by omega)]
  · have hfull : samples.length = n := le_antisymm h (not_lt.1 hroom)
    rw [if_neg hroom]
    by_cases hposition : bisectLeft samples item < n
    · rw [if_pos hposition, List.dropLast_eq_take, hlength, hfull]
      rfl
    · -- the item is larger than all of the sample
      have hend : bisectLeft samples item = samples.length :=
        le_antisymm (bisectLeft_le _ _) (by omega)
      rw [if_neg hposition, ← insertIdx_bisectLeft, hend, List.insertIdx_length_self,
        List.take_append_of_le_length (by omega), List.take_of_length_le (by omega)]

/-- What lies beyond the sample has no influence on it. -/
lemma take_orderedInsert_take (n : ℕ) (items : List α) (item : α) :
    ((items.take n).orderedInsert (· ≤ ·) item).take n =
      (items.orderedInsert (· ≤ ·) item).take n := by
  induction items generalizing n with
  | nil => simp
  | cons a items ih =>
    cases n with
    | zero => simp
    | succ n =>
      rw [List.take_succ_cons]
      by_cases h : item ≤ a
      · have htake : (a :: items.take n).take n = (a :: items).take n := by
          rw [← List.take_succ_cons, List.take_take, min_eq_left (Nat.le_succ n)]
        rw [List.orderedInsert_cons_of_le _ _ h, List.orderedInsert_cons_of_le _ _ h]
        exact congrArg (item :: ·) htake
      · rw [List.orderedInsert_of_not_le _ _ h, List.orderedInsert_of_not_le _ _ h,
          List.take_succ_cons, List.take_succ_cons, ih]

/-- The first `n` items of the sorted stream. -/
def smallest (n : ℕ) (items : List α) : List α := (items.insertionSort (· ≤ ·)).take n

/-- **Bounded samples.**  The sample of a stream is the beginning of the sorted stream. -/
theorem insertSample_smallest (n : ℕ) (items : List α) (item : α) :
    insertSample n (smallest n items) item = smallest n (items ++ [item]) := by
  have hsorted : (items ++ [item]).insertionSort (· ≤ ·) =
      (item :: items).insertionSort (· ≤ ·) := by
    refine List.Perm.eq_of_pairwise' (List.pairwise_insertionSort _ _)
      (List.pairwise_insertionSort _ _) ?_
    exact (List.perm_insertionSort _ _).trans
      ((List.perm_append_singleton _ _).trans (List.perm_insertionSort _ _).symm)
  rw [smallest, smallest, hsorted, insertSample_eq (by simp), take_orderedInsert_take]
  rfl

end AgenticMesh
