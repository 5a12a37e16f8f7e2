import Mathlib.Data.Finset.Card
import Mathlib.Order.Basic

/-!
# Serving the least job

A server takes the least pending job, again and again, and no job arrives.  A
job that fails stays pending, any other job is done.  A failing job keeps every
job behind it from ever being taken, so every job is taken exactly when no
failing job has another one behind it.
-/

namespace AgenticMesh

variable {α : Type*} [LinearOrder α]

/-- The jobs that a server takes, one list entry for each attempt, from a set of pending jobs:
nothing when none is pending, else the least one, which stays if it fails. -/
inductive Serves (failing : α → Prop) : Finset α → List (Option α) → Prop
  | stop (s : Finset α) : Serves failing s []
  | idle {os : List (Option α)} (h : Serves failing ∅ os) : Serves failing ∅ (none :: os)
  | retry {s : Finset α} {x : α} {os : List (Option α)} (hx : x ∈ s) (hmin : ∀ y ∈ s, x ≤ y)
      (hfail : failing x) (h : Serves failing s os) : Serves failing s (some x :: os)
  | done {s : Finset α} {x : α} {os : List (Option α)} (hx : x ∈ s) (hmin : ∀ y ∈ s, x ≤ y)
      (hfail : ¬ failing x) (h : Serves failing (s.erase x) os) : Serves failing s (some x :: os)

/-- No failing job has another pending job behind it. -/
def NothingBehind (failing : α → Prop) (s : Finset α) : Prop :=
  ∀ x ∈ s, failing x → ∀ y ∈ s, y ≠ x → y < x

variable {failing : α → Prop} {s : Finset α} {os : List (Option α)}

/-- Only pending jobs are taken. -/
lemma Serves.mem (h : Serves failing s os) {x : α} (hx : some x ∈ os) : x ∈ s := by
  induction h with
  | stop s => simp at hx
  | idle h ih => exact ih (by simpa using hx)
  | retry hz hmin hfail h ih =>
    rcases List.mem_cons.1 hx with heq | hx
    · rwa [Option.some.inj heq]
    · exact ih hx
  | done hz hmin hfail h ih =>
    rcases List.mem_cons.1 hx with heq | hx
    · rwa [Option.some.inj heq]
    · exact Finset.mem_of_mem_erase (ih hx)

/-- A job behind a failing one is never taken. -/
lemma Serves.starved (h : Serves failing s os) {x y : α} (hx : x ∈ s) (hfail : failing x)
    (hy : y ∈ s) (hlt : x < y) : some y ∉ os := by
  induction h with
  | stop s => simp
  | idle h ih => simp at hx
  | @retry s z os hz hmin hz' h ih =>
    have hne : y ≠ z := by
      rintro rfl
      exact absurd (hmin x hx) (not_le_of_gt hlt)
    have hrest := ih hx hy
    simp [hne, hrest]
  | @done s z os hz hmin hz' h ih =>
    have hne : y ≠ z := by
      rintro rfl
      exact absurd (hmin x hx) (not_le_of_gt hlt)
    have hxz : x ≠ z := by
      rintro rfl
      exact hz' hfail
    have hrest := ih (Finset.mem_erase.2 ⟨hxz, hx⟩) (Finset.mem_erase.2 ⟨hne, hy⟩)
    simp [hne, hrest]

/-- Without a job behind a failing one, as many attempts as there are jobs take them all. -/
lemma Serves.served (h : Serves failing s os) (hlast : NothingBehind failing s)
    (hcard : s.card ≤ os.length) : ∀ y ∈ s, some y ∈ os := by
  induction h with
  | stop s =>
    intro y hy
    have hempty : s = ∅ := by simpa using hcard
    simp [hempty] at hy
  | idle h ih => simp
  | @retry s z os hz hmin hfail h ih =>
    intro y hy
    -- the least job is the last one, so it is the only one
    have hyz : y = z := by
      by_contra hne
      exact absurd (hlast z hz hfail y hy hne) (not_lt_of_ge (hmin y hy))
    simp [hyz]
  | @done s z os hz hmin hfail h ih =>
    intro y hy
    by_cases hyz : y = z
    · simp [hyz]
    · have hlast' : NothingBehind failing (s.erase z) := by
        intro x hx hxf w hw hwx
        exact hlast x (Finset.mem_of_mem_erase hx) hxf w (Finset.mem_of_mem_erase hw) hwx
      have hcard' : (s.erase z).card ≤ os.length := by
        rw [Finset.card_erase_of_mem hz]
        rw [List.length_cons] at hcard
        omega
      exact List.mem_cons_of_mem _ (ih hlast' hcard' y (Finset.mem_erase.2 ⟨hyz, hy⟩))

/-- **Starvation.**  In as many attempts as there are jobs, or more, every job is taken if and
only if no failing job has another one behind it. -/
theorem Serves.all_iff (h : Serves failing s os) (hcard : s.card ≤ os.length) :
    (∀ y ∈ s, some y ∈ os) ↔ NothingBehind failing s := by
  refine ⟨fun hall x hx hfail y hy hne => ?_, fun hlast => h.served hlast hcard⟩
  by_contra hlt
  have hxy : x < y := lt_of_le_of_ne (not_lt.1 hlt) hne.symm
  exact h.starved hx hfail hy hxy (hall y hy)

end AgenticMesh
