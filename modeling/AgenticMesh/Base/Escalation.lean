import Mathlib.Data.List.Nodup

/-!
# Escalation along a ladder

A task is attempted along a fixed ladder of steps: an attempt that fails moves it
to the next step, an attempt that succeeds ends it, and when the last step has
failed it is exhausted.  The phase of a task determines its history: a task that
waits for the step at position `k` has failed exactly the first `k` steps, in
their order, and an exhausted task has failed all of them.
-/

namespace AgenticMesh

/-- Where a task on a ladder is. -/
inductive Standing (Step : Type*) where
  | next (s : Step)
  | recovered
  | exhausted

namespace Escalation

variable {Step : Type*} [DecidableEq Step] {ladder : List Step} {history : List (Step × Bool)}
  {s : Step}

/-- The phase after an attempt of a step. -/
def after (ladder : List Step) (s : Step) : Bool → Standing Step
  | true => .recovered
  | false =>
    match ladder[ladder.idxOf s + 1]? with
    | some t => .next t
    | none => .exhausted

/-- The steps of a history are the first steps of the ladder, and all of them failed. -/
structure Failed (ladder : List Step) (history : List (Step × Bool)) : Prop where
  steps : history.map Prod.fst = ladder.take history.length
  failed : ∀ p ∈ history, p.2 = false

/-- The attempts of a task that is in a phase. -/
def Climbed (ladder : List Step) (history : List (Step × Bool)) : Standing Step → Prop
  | .next s => Failed ladder history ∧ ladder[history.length]? = some s
  | .exhausted => Failed ladder history ∧ history.length = ladder.length
  | .recovered => ∃ failures s, history = failures ++ [(s, true)] ∧ Failed ladder failures ∧
      ladder[failures.length]? = some s

omit [DecidableEq Step] in
/-- A task begins with the first step and without attempts. -/
lemma Climbed.start (h : ladder.head? = some s) : Climbed ladder [] (.next s) := by
  refine ⟨⟨by simp, by simp⟩, ?_⟩
  rwa [List.length_nil, ← List.head?_eq_getElem?]

omit [DecidableEq Step] in
/-- One more failed step. -/
lemma Failed.snoc (h : Failed ladder history) (hs : ladder[history.length]? = some s) :
    Failed ladder (history ++ [(s, false)]) where
  steps := by
    rw [List.map_append, h.steps, List.map_singleton, List.length_append, List.length_singleton,
      List.take_add_one, hs]
    rfl
  failed p hp := by
    obtain hp | hp := List.mem_append.1 hp
    · exact h.failed p hp
    · obtain rfl := List.mem_singleton.1 hp
      rfl

/-- **Step rule.** An attempt of the step that a task waits for leads to the next phase. -/
theorem Climbed.step (hnodup : ladder.Nodup) (h : Climbed ladder history (.next s)) (ok : Bool) :
    Climbed ladder (history ++ [(s, ok)]) (after ladder s ok) := by
  obtain ⟨hfailed, hs⟩ := h
  cases ok with
  | true => exact ⟨history, s, rfl, hfailed, hs⟩
  | false =>
    have hlen : (history ++ [(s, false)]).length = history.length + 1 := by simp
    obtain ⟨hlt, hget⟩ := List.getElem?_eq_some_iff.1 hs
    have hidx : ladder.idxOf s = history.length := by
      rw [← hget]
      exact hnodup.idxOf_getElem history.length hlt
    cases hnext : ladder[history.length + 1]? with
    | some t =>
      simp only [after, hidx, hnext]
      exact ⟨hfailed.snoc hs, by rw [hlen, hnext]⟩
    | none =>
      simp only [after, hidx, hnext]
      refine ⟨hfailed.snoc hs, ?_⟩
      rw [List.getElem?_eq_none_iff] at hnext
      omega

omit [DecidableEq Step] in
/-- An exhausted task has failed the whole ladder. -/
lemma Climbed.exhausted (h : Climbed ladder history .exhausted) :
    history.map Prod.fst = ladder ∧ ∀ p ∈ history, p.2 = false := by
  obtain ⟨hfailed, hlen⟩ := h
  refine ⟨?_, hfailed.failed⟩
  rw [hfailed.steps, hlen, List.take_length]

end Escalation

end AgenticMesh
