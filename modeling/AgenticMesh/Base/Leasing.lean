import Mathlib.Logic.Relation

/-!
# Jobs under leases

What a work queue is for, apart from how it is stored: a job is submitted, it is
handed to one holder at a time, the holder gives it back or finishes it, and a
finished job stays finished.  A store of jobs refines this when every operation
moves each job along `JobSteps`.
-/

namespace AgenticMesh

/-- The state of a submitted job. -/
inductive Job (Holder : Type*) where
  | ready
  | held (h : Holder)
  | done

variable {Holder : Type*}

/-- The life of a job; `none` is a job that was not submitted yet. -/
inductive JobStep : Option (Job Holder) → Option (Job Holder) → Prop
  | submit : JobStep none (some .ready)
  | grant (h : Holder) : JobStep (some .ready) (some (.held h))
  | giveBack (h : Holder) : JobStep (some (.held h)) (some .ready)
  | finish (h : Holder) : JobStep (some (.held h)) (some .done)

/-- Any number of steps in the life of a job. -/
abbrev JobSteps : Option (Job Holder) → Option (Job Holder) → Prop :=
  Relation.ReflTransGen JobStep

/-- A finished job stays finished. -/
lemma JobSteps.of_done {j : Option (Job Holder)} (h : JobSteps (some .done) j) :
    j = some .done := by
  induction h with
  | refl => rfl
  | tail _ hstep ih =>
    subst ih
    cases hstep

end AgenticMesh
