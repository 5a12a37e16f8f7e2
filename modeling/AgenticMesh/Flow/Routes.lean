import AgenticMesh.Flow.Validation
import Mathlib.Data.Finset.Card
import Mathlib.Logic.Relation

/-!
# Routes of an accepted flow

Two routes of an accepted state never match together, so a state selects a route
exactly if one matches.  The loop that collects the reachable states finds all of
them.
-/

namespace AgenticMesh

namespace Flow

/-! ## Selecting a route -/

/-- Routes that match together overlap. -/
lemma routesOverlap_of_matches {r r' : FlowRoute} {outcome : String} {fields : Json}
    (h : r.matches outcome fields = true) (h' : r'.matches outcome fields = true) :
    RoutesOverlap r r' := by
  simp only [FlowRoute.matches, Bool.and_eq_true, decide_eq_true_eq] at h h'
  obtain ⟨houtcome, hcond⟩ := h
  obtain ⟨houtcome', hcond'⟩ := h'
  refine ⟨houtcome.trans houtcome'.symm, ?_⟩
  cases hc : r.condition with
  | none => exact trivial
  | some c =>
    cases hc' : r'.condition with
    | none => exact trivial
    | some c' =>
      intro hfield
      rw [hc] at hcond
      rw [hc'] at hcond'
      simp only [Condition.matches, ← hfield] at hcond hcond'
      -- the field has one value, and it is in both lists
      cases hv : fields.get? c.field with
      | none => simp [hv] at hcond
      | some v =>
        cases v with
        | str v =>
          simp only [hv, List.contains_iff_mem] at hcond hcond'
          exact ⟨v, hcond, hcond'⟩
        | _ => simp [hv] at hcond

/-- At most one route of an accepted state matches. -/
lemma length_matches_le {rs : List FlowRoute} (h : rs.Pairwise fun r r' => ¬ RoutesOverlap r r')
    (outcome : String) (fields : Json) :
    (rs.filter fun r => r.matches outcome fields).length ≤ 1 := by
  have hpair := h.filter fun r => r.matches outcome fields
  have hmatch : ∀ r ∈ rs.filter fun r => r.matches outcome fields,
      r.matches outcome fields = true := fun r hr => (List.mem_filter.1 hr).2
  generalize rs.filter (fun r => r.matches outcome fields) = found at hpair hmatch
  rcases found with _ | ⟨r, _ | ⟨r', found⟩⟩
  · simp
  · simp
  · exfalso
    have hnot := (List.pairwise_cons.1 hpair).1 r' List.mem_cons_self
    exact hnot (routesOverlap_of_matches (hmatch r List.mem_cons_self)
      (hmatch r' (List.mem_cons_of_mem r List.mem_cons_self)))

/-- A state selects the route that matches. -/
lemma selectRoute_eq_some {s : FlowState}
    (h : s.routes.Pairwise fun r r' => ¬ RoutesOverlap r r') {outcome : String} {fields : Json}
    {r : FlowRoute} : s.selectRoute outcome fields = some r ↔
      r ∈ s.routes ∧ r.matches outcome fields = true := by
  refine ⟨FlowState.selectRoute_mem, fun hr => ?_⟩
  have hlength := length_matches_le h outcome fields
  have hmem : r ∈ s.routes.filter fun r => r.matches outcome fields := List.mem_filter.2 hr
  unfold FlowState.selectRoute
  generalize s.routes.filter (fun r => r.matches outcome fields) = found at hlength hmem
  rcases found with _ | ⟨r', _ | ⟨_, _⟩⟩
  · exact absurd hmem List.not_mem_nil
  · rw [List.mem_singleton.1 hmem]
  · simp at hlength

/-- A state selects no route exactly if none matches. -/
lemma selectRoute_eq_none {s : FlowState}
    (h : s.routes.Pairwise fun r r' => ¬ RoutesOverlap r r') {outcome : String} {fields : Json} :
    s.selectRoute outcome fields = none ↔ ∀ r ∈ s.routes, r.matches outcome fields = false := by
  constructor
  · intro hnone r hr
    by_contra hmatch
    rw [Bool.not_eq_false] at hmatch
    rw [(selectRoute_eq_some h).2 ⟨hr, hmatch⟩] at hnone
    simp at hnone
  · intro hnone
    cases hselect : s.selectRoute outcome fields with
    | none => rfl
    | some r =>
      obtain ⟨hr, hmatch⟩ := (selectRoute_eq_some h).1 hselect
      rw [hnone r hr] at hmatch
      simp at hmatch

/-! ## Reachable states -/

/-- A route leads from a state to another one. -/
def Leads (states : List FlowState) (a b : String) : Prop :=
  ∃ s ∈ states, s.stateId = a ∧ ∃ r ∈ s.routes, r.targetState = b

/-- Every route leads to a state that exists. -/
def TargetsKnown (states : List FlowState) : Prop :=
  ∀ a b, Leads states a b → b ∈ states.map FlowState.stateId

section Reach

variable {states : List FlowState}

lemma mem_unreached {id t : String} {reachable : List String} :
    t ∈ unreached states id reachable ↔ Leads states id t ∧ t ∉ reachable := by
  simp only [unreached, List.mem_filter, List.mem_dedup, List.mem_flatMap, List.mem_map,
    decide_eq_true_eq, Leads, and_assoc]

lemma nodup_unreached (id : String) (reachable : List String) :
    (unreached states id reachable).Nodup :=
  (List.nodup_dedup _).filter _

/-- What the loop collects can be reached. -/
lemma reach_sound {entry : String} (n : ℕ) {pending reachable : List String}
    (hpending : pending ⊆ reachable)
    (hreachable : ∀ x ∈ reachable, Relation.ReflTransGen (Leads states) entry x) :
    ∀ x ∈ reach states n pending reachable, Relation.ReflTransGen (Leads states) entry x := by
  induction n generalizing pending reachable with
  | zero => exact hreachable
  | succ n ih =>
    cases pending with
    | nil => exact hreachable
    | cons id pending =>
      obtain ⟨hid, hpending⟩ := List.cons_subset.1 hpending
      refine ih (fun x hx => ?_) fun x hx => ?_
      · rcases List.mem_append.1 hx with hx | hx
        · exact List.mem_append_left _ hx
        · exact List.mem_append_right _ (hpending hx)
      · rcases List.mem_append.1 hx with hx | hx
        · exact (hreachable id hid).tail (mem_unreached.1 hx).1
        · exact hreachable x hx

/-- The states that the loop has not reached yet. -/
def unseen (states : List FlowState) (reachable : List String) : Finset String :=
  (states.map FlowState.stateId).toFinset \ reachable.toFinset

/-- A round of the loop moves what it finds from the unseen states to the pending ones. -/
lemma card_unseen (hknown : TargetsKnown states) (id : String) (reachable : List String) :
    (unseen states (unreached states id reachable ++ reachable)).card +
      (unreached states id reachable).length = (unseen states reachable).card := by
  have hnew : (unreached states id reachable).toFinset ⊆ unseen states reachable := by
    intro t ht
    obtain ⟨hleads, hnot⟩ := mem_unreached.1 (List.mem_toFinset.1 ht)
    exact Finset.mem_sdiff.2 ⟨List.mem_toFinset.2 (hknown id t hleads),
      fun hmem => hnot (List.mem_toFinset.1 hmem)⟩
  have hrest : unseen states (unreached states id reachable ++ reachable) =
      unseen states reachable \ (unreached states id reachable).toFinset := by
    ext t
    simp only [unseen, Finset.mem_sdiff, List.mem_toFinset, List.mem_append]
    tauto
  rw [hrest, ← List.toFinset_card_of_nodup (nodup_unreached id reachable)]
  exact Finset.card_sdiff_add_card_eq_card hnew

/-- With a round for every pending and every unseen state, what the loop collects is closed
under the routes. -/
lemma reach_closed (hknown : TargetsKnown states) (n : ℕ) {pending reachable : List String}
    (hrounds : pending.length + (unseen states reachable).card ≤ n)
    (hdone : ∀ x ∈ reachable, x ∈ pending ∨ ∀ t, Leads states x t → t ∈ reachable) :
    reachable ⊆ reach states n pending reachable ∧
      ∀ x ∈ reach states n pending reachable, ∀ t, Leads states x t →
        t ∈ reach states n pending reachable := by
  induction n generalizing pending reachable with
  | zero =>
    have hnil : pending = [] := List.length_eq_zero_iff.1 (by omega)
    subst hnil
    exact ⟨List.Subset.refl _, fun x hx => (hdone x hx).resolve_left List.not_mem_nil⟩
  | succ n ih =>
    cases pending with
    | nil =>
      exact ⟨List.Subset.refl _, fun x hx => (hdone x hx).resolve_left List.not_mem_nil⟩
    | cons id pending =>
      have hcard := card_unseen hknown id reachable
      have hlength : (unreached states id reachable ++ pending).length +
          (unseen states (unreached states id reachable ++ reachable)).card ≤ n := by
        rw [List.length_append]
        rw [List.length_cons] at hrounds
        omega
      have hdone' : ∀ x ∈ unreached states id reachable ++ reachable,
          x ∈ unreached states id reachable ++ pending ∨
            ∀ t, Leads states x t → t ∈ unreached states id reachable ++ reachable := by
        intro x hx
        rcases List.mem_append.1 hx with hx | hx
        · exact .inl (List.mem_append_left _ hx)
        · rcases hdone x hx with hx | hx
          · rcases List.mem_cons.1 hx with rfl | hx
            · -- the state of this round: its targets are reached or new
              refine .inr fun t ht => ?_
              by_cases hmem : t ∈ reachable
              · exact List.mem_append_right _ hmem
              · exact List.mem_append_left _ (mem_unreached.2 ⟨ht, hmem⟩)
            · exact .inl (List.mem_append_right _ hx)
          · exact .inr fun t ht => List.mem_append_right _ (hx t ht)
      obtain ⟨hsub, hclosed⟩ := ih hlength hdone'
      exact ⟨fun x hx => hsub (List.mem_append_right _ hx), hclosed⟩

/-- The loop finds the reachable states. -/
lemma mem_reach (hknown : TargetsKnown states) {entry : String}
    (hentry : entry ∈ states.map FlowState.stateId) (x : String) :
    x ∈ reach states states.length [entry] [entry] ↔
      Relation.ReflTransGen (Leads states) entry x := by
  constructor
  · refine fun hx => reach_sound _ (List.Subset.refl _) (fun y hy => ?_) x hx
    rw [List.mem_singleton.1 hy]
  · have hrounds : [entry].length + (unseen states [entry]).card ≤ states.length := by
      have hsub : ({entry} : Finset String) ⊆ (states.map FlowState.stateId).toFinset := by
        simpa using hentry
      have hcard := Finset.card_sdiff_add_card_eq_card hsub
      have hle := List.toFinset_card_le (states.map FlowState.stateId)
      rw [List.length_map] at hle
      rw [Finset.card_singleton] at hcard
      simp only [List.length_singleton, unseen, List.toFinset_cons, List.toFinset_nil,
        insert_empty_eq]
      omega
    obtain ⟨hsub, hclosed⟩ := reach_closed hknown states.length hrounds
      fun y hy => .inl hy
    intro hx
    induction hx with
    | refl => exact hsub (List.mem_singleton_self entry)
    | tail _ hleads ih => exact hclosed _ ih _ hleads

end Reach

end Flow

end AgenticMesh
