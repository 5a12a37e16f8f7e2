import Mathlib.Data.List.Induction
import Mathlib.Order.Defs.LinearOrder
import Mathlib.Order.Lattice
import Mathlib.Tactic.TypeStar

/-!
# Runs of a state machine

A machine is given by its transition function `step : σ → ε → σ`: an event
carries everything the environment chooses (who calls, with which arguments, at
which instant, how an external call ended) and a rejected call leaves the state
alone.  A run is a list of events.  This file holds the induction principles
used for every machine of the development: an invariant that each step keeps
holds after every run, the same under a condition on the steps of the run, and
a preorder that each step respects relates the two ends of every run.
-/

namespace AgenticMesh

variable {σ ε : Type*} (step : σ → ε → σ)

/-- The state after a list of events. -/
def run (s : σ) (es : List ε) : σ := es.foldl step s

@[simp] lemma run_nil (s : σ) : run step s [] = s := rfl

@[simp] lemma run_cons (s : σ) (e : ε) (es : List ε) :
    run step s (e :: es) = run step (step s e) es := rfl

lemma run_append (s : σ) (es fs : List ε) :
    run step s (es ++ fs) = run step (run step s es) fs := List.foldl_append

/-- Every step of a run satisfies a condition on the state before it and its event. -/
def Along (G : σ → ε → Prop) : σ → List ε → Prop
  | _, [] => True
  | s, e :: es => G s e ∧ Along G (step s e) es

@[simp] lemma along_nil (G : σ → ε → Prop) (s : σ) : Along step G s [] := trivial

@[simp] lemma along_cons {G : σ → ε → Prop} {s : σ} {e : ε} {es : List ε} :
    Along step G s (e :: es) ↔ G s e ∧ Along step G (step s e) es := Iff.rfl

instance decidableAlong {G : σ → ε → Prop} [∀ s e, Decidable (G s e)] :
    ∀ (s : σ) (es : List ε), Decidable (Along step G s es)
  | _, [] => isTrue trivial
  | s, e :: es =>
    have : Decidable (Along step G (step s e) es) := decidableAlong (step s e) es
    inferInstanceAs (Decidable (_ ∧ _))

lemma along_append {G : σ → ε → Prop} {s : σ} {es fs : List ε} :
    Along step G s (es ++ fs) ↔ Along step G s es ∧ Along step G (run step s es) fs := by
  induction es generalizing s with
  | nil => simp
  | cons e es ih => simp [ih, and_assoc]

variable {step}

/-- **Invariants under a condition on the steps.** -/
theorem invariant_along {I : σ → Prop} {G : σ → ε → Prop}
    (hstep : ∀ s e, I s → G s e → I (step s e)) {s : σ} (h : I s) {es : List ε}
    (hG : Along step G s es) : I (run step s es) := by
  induction es generalizing s with
  | nil => exact h
  | cons e es ih => exact ih (hstep s e h hG.1) hG.2

/-- **Invariants.** What holds at the start and is kept by every step holds after every run. -/
theorem invariant_run {I : σ → Prop} (hstep : ∀ s e, I s → I (step s e)) {s : σ} (h : I s)
    (es : List ε) : I (run step s es) := by
  induction es generalizing s with
  | nil => exact h
  | cons e es ih => exact ih (hstep s e h)

/-- A step condition that implies another one along every invariant state. -/
lemma Along.imp {I : σ → Prop} {G H : σ → ε → Prop}
    (hstep : ∀ s e, I s → G s e → I (step s e)) (hH : ∀ s e, I s → G s e → H s e) {s : σ}
    (h : I s) {es : List ε} (hG : Along step G s es) : Along step H s es := by
  induction es generalizing s with
  | nil => trivial
  | cons e es ih => exact ⟨hH s e h hG.1, ih (hstep s e h hG.1) hG.2⟩

/-- **Monotonicity.** A reflexive and transitive relation that every step respects relates
the two ends of a run. -/
theorem rel_run {I : σ → Prop} {R : σ → σ → Prop} (refl : ∀ s, R s s)
    (trans : ∀ a b c, R a b → R b c → R a c) (hI : ∀ s e, I s → I (step s e))
    (hstep : ∀ s e, I s → R s (step s e)) {s : σ} (h : I s) (es : List ε) :
    R s (run step s es) := by
  induction es generalizing s with
  | nil => exact refl s
  | cons e es ih => exact trans _ _ _ (hstep s e h) (ih (hI s e h))

/-- What a run puts an end to, one of its steps puts an end to. -/
lemma exists_change {P : σ → Prop} {s : σ} {es : List ε} (h : P s) (h' : ¬ P (run step s es)) :
    ∃ fs e gs, es = fs ++ e :: gs ∧ P (run step s fs) ∧ ¬ P (step (run step s fs) e) := by
  induction es generalizing s with
  | nil => exact absurd h h'
  | cons e es ih =>
    by_cases he : P (step s e)
    · obtain ⟨fs, e', gs, rfl, hfs, hstep⟩ := ih he h'
      exact ⟨e :: fs, e', gs, rfl, hfs, hstep⟩
    · exact ⟨[], e, es, rfl, h, he⟩

/-- The last of these steps: what it puts an end to does not come back. -/
lemma exists_last_change {P : σ → Prop} {s : σ} {es : List ε} (h : P s)
    (h' : ¬ P (run step s es)) :
    ∃ fs e gs, es = fs ++ e :: gs ∧ P (run step s fs) ∧
      ∀ hs, hs <+: gs → ¬ P (run step s (fs ++ e :: hs)) := by
  induction es using List.reverseRecOn with
  | nil => exact absurd h h'
  | append_singleton es e ih =>
    by_cases hes : P (run step s es)
    · refine ⟨es, e, [], rfl, hes, fun hs hprefix => ?_⟩
      rw [List.prefix_nil.1 hprefix]
      exact h'
    · obtain ⟨fs, e', gs, rfl, hfs, hafter⟩ := ih hes
      refine ⟨fs, e', gs ++ [e], by simp, hfs, fun hs hprefix => ?_⟩
      obtain rfl | hprefix := List.prefix_concat_iff.1 hprefix
      · simpa using h'
      · exact hafter hs hprefix

/-! ## Clock readings -/

section Clock

variable {α : Type*} [LinearOrder α]

/-- The latest of a clock and some readings is not before the clock. -/
lemma le_foldl_max {l : List α} {t : α} : t ≤ l.foldl max t := by
  induction l generalizing t with
  | nil => exact le_rfl
  | cons a l ih => exact le_trans (le_max_left t a) ih

/-- Nor is it before any of the readings. -/
lemma mem_le_foldl_max {l : List α} {t r : α} (hr : r ∈ l) : r ≤ l.foldl max t := by
  induction l generalizing t with
  | nil => simp at hr
  | cons a l ih =>
    obtain rfl | hr := List.mem_cons.1 hr
    · exact le_trans (le_max_right t r) le_foldl_max
    · exact ih hr

end Clock

end AgenticMesh
