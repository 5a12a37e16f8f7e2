import AgenticMesh.Base.JsonPositions
import Mathlib.Data.List.Forall2

/-!
# The texts of positions

A diff names a scalar by a text: `$`, and for every step a dot and the key or
the index in brackets.  Read back, a dot or a bracket starts a step, so that the
text of a key that contains one is read as another position.
-/

namespace AgenticMesh

open Json (Step Position scalars)

/-! ## Writing -/

/-- The text of a step. -/
def stepText : Step → String
  | .key name => "." ++ name
  | .index i => "[" ++ decimal i ++ "]"

/-- The text of a position. -/
def pathText (p : Position) : String := p.foldl (fun path step => path ++ stepText step) "$"

/-! ## Reading -/

/-- A dot and a bracket start a step. -/
def startsStep (c : Char) : Bool := c = '.' || c = '['

/-- What stands before the first step of a text, and its steps. -/
def splitSteps : List Char → List Char × List (List Char)
  | [] => ([], [])
  | c :: cs =>
    if startsStep c then ([], (c :: (splitSteps cs).1) :: (splitSteps cs).2)
    else (c :: (splitSteps cs).1, (splitSteps cs).2)

def readStep : List Char → Option Step
  | '.' :: name => some (.key (String.ofList name))
  | '[' :: cs =>
    let i := Nat.ofDigitChars 10 cs.dropLast 0
    if cs = (decimal i).toList ++ [']'] then some (.index i) else none
  | _ => none

/-- The position that a text is read as. -/
def readPath (text : String) : Option Position :=
  match splitSteps text.toList with
  | (['$'], steps) => steps.mapM readStep
  | _ => none

/-- A step whose text is read back: no key with a dot or a bracket. -/
def isPlainStep : Step → Bool
  | .key name => name.toList.all fun c => !startsStep c
  | .index _ => true

/-! ### A text is read as the position it is the text of -/

lemma toList_stepText_index (i : ℕ) :
    (stepText (.index i)).toList = '[' :: ((decimal i).toList ++ [']']) := by
  simp [stepText]

lemma toList_foldl_stepText (p : Position) (path : String) :
    (p.foldl (fun path step => path ++ stepText step) path).toList =
      path.toList ++ p.flatMap fun step => (stepText step).toList := by
  induction p generalizing path with
  | nil => simp
  | cons step p ih => rw [List.foldl_cons, ih, String.toList_append, List.append_assoc]; rfl

lemma toList_pathText (p : Position) :
    (pathText p).toList = '$' :: p.flatMap fun step => (stepText step).toList :=
  toList_foldl_stepText p "$"

lemma splitSteps_append {front : List Char} (h : ∀ c ∈ front, startsStep c = false)
    (cs : List Char) :
    splitSteps (front ++ cs) = (front ++ (splitSteps cs).1, (splitSteps cs).2) := by
  induction front with
  | nil => rfl
  | cons c front ih =>
    have hc := h c List.mem_cons_self
    have htail := ih fun d hd => h d (List.mem_cons_of_mem _ hd)
    simp only [List.cons_append, splitSteps, htail, hc, Bool.false_eq_true, if_false]

lemma splitSteps_stepText {step : Step} (h : isPlainStep step = true) (cs : List Char) :
    splitSteps ((stepText step).toList ++ cs) =
      ([], ((stepText step).toList ++ (splitSteps cs).1) :: (splitSteps cs).2) := by
  -- only the first character of the text starts a step
  obtain ⟨c, body, htext, hc, hbody⟩ : ∃ c body, (stepText step).toList = c :: body ∧
      startsStep c = true ∧ ∀ d ∈ body, startsStep d = false := by
    cases step with
    | key name =>
      refine ⟨'.', name.toList, by simp [stepText], by decide, fun d hd => ?_⟩
      simpa using List.all_eq_true.1 h d hd
    | index i =>
      refine ⟨'[', _, toList_stepText_index i, by decide, fun d hd => ?_⟩
      rcases List.mem_append.1 hd with hd | hd
      · have hdigit := isDigit_of_mem_decimal hd
        by_contra hstart
        simp only [startsStep, Bool.or_eq_true, decide_eq_true_eq, Bool.not_eq_false] at hstart
        rcases hstart with rfl | rfl <;> exact absurd hdigit (by decide)
      · obtain rfl := List.mem_singleton.1 hd
        decide
  rw [htext, List.cons_append, splitSteps, splitSteps_append hbody, if_pos hc, List.cons_append]

lemma splitSteps_plain {p : Position} (h : ∀ step ∈ p, isPlainStep step = true) :
    splitSteps (p.flatMap fun step => (stepText step).toList) =
      ([], p.map fun step => (stepText step).toList) := by
  induction p with
  | nil => rfl
  | cons step p ih =>
    rw [List.flatMap_cons, splitSteps_stepText (h step List.mem_cons_self),
      ih fun s hs => h s (List.mem_cons_of_mem _ hs), List.append_nil, List.map_cons]

lemma readStep_stepText (step : Step) : readStep (stepText step).toList = some step := by
  cases step with
  | key name => simp [stepText, readStep]
  | index i =>
    have hread : Nat.ofDigitChars 10 ((decimal i).toList ++ [']']).dropLast 0 = i := by
      rw [List.dropLast_concat, toList_decimal, Nat.ofDigitChars_ten_toDigits]
    rw [toList_stepText_index, readStep, hread, if_pos rfl]

lemma mapM_readStep (p : Position) :
    (p.map fun step => (stepText step).toList).mapM readStep = some p := by
  induction p with
  | nil => rfl
  | cons step p ih => simp [List.mapM_cons, readStep_stepText, ih]

lemma readPath_pathText {p : Position} (h : ∀ step ∈ p, isPlainStep step = true) :
    readPath (pathText p) = some p := by
  have hsplit : splitSteps (pathText p).toList =
      (['$'], p.map fun step => (stepText step).toList) := by
    rw [toList_pathText, splitSteps, splitSteps_plain h]
    rfl
  rw [readPath, hsplit]
  exact mapM_readStep p

/-! ### What is read is plain -/

lemma splitSteps_flatten (cs : List Char) :
    (splitSteps cs).1 ++ (splitSteps cs).2.flatten = cs := by
  induction cs with
  | nil => rfl
  | cons c cs ih =>
    rw [splitSteps]
    split
    · simpa using ih
    · simpa using ih

/-- After its first character a step goes on to the next dot or bracket. -/
lemma splitSteps_plain_parts (cs : List Char) :
    (∀ d ∈ (splitSteps cs).1, startsStep d = false) ∧
      ∀ part ∈ (splitSteps cs).2, ∀ d ∈ part.tail, startsStep d = false := by
  induction cs with
  | nil => exact ⟨fun d hd => absurd hd List.not_mem_nil, fun d hd => absurd hd List.not_mem_nil⟩
  | cons c cs ih =>
    rw [splitSteps]
    split
    · refine ⟨fun d hd => absurd hd List.not_mem_nil, fun part hpart => ?_⟩
      rcases List.mem_cons.1 hpart with rfl | hpart
      · exact ih.1
      · exact ih.2 part hpart
    · next hc =>
      refine ⟨fun d hd => ?_, ih.2⟩
      rcases List.mem_cons.1 hd with rfl | hd
      · simpa using hc
      · exact ih.1 d hd

lemma readStep_eq_some {cs : List Char} {step : Step} (h : readStep cs = some step)
    (hplain : ∀ d ∈ cs.tail, startsStep d = false) :
    (stepText step).toList = cs ∧ isPlainStep step = true := by
  unfold readStep at h
  split at h
  · next name =>
    obtain rfl := Option.some.inj h
    refine ⟨by simp [stepText], ?_⟩
    rw [isPlainStep, String.toList_ofList, List.all_eq_true]
    exact fun d hd => by rw [hplain d hd]; rfl
  · next cs =>
    dsimp only at h
    split at h
    · next hcs =>
      obtain rfl := Option.some.inj h
      exact ⟨by rw [toList_stepText_index, ← hcs], rfl⟩
    · cases h
  · cases h

lemma mapM_readStep_eq_some {parts : List (List Char)} {p : Position}
    (h : parts.mapM readStep = some p)
    (hplain : ∀ part ∈ parts, ∀ d ∈ part.tail, startsStep d = false) :
    (p.flatMap fun step => (stepText step).toList) = parts.flatten ∧
      ∀ step ∈ p, isPlainStep step = true := by
  induction parts generalizing p with
  | nil =>
    obtain rfl : [] = p := by simpa using h
    exact ⟨rfl, fun _ hstep => absurd hstep List.not_mem_nil⟩
  | cons part parts ih =>
    simp only [List.mapM_cons, Option.bind_eq_bind, Option.bind_eq_some_iff, Option.pure_def,
      Option.some.injEq] at h
    obtain ⟨step, hstep, q, hq, rfl⟩ := h
    obtain ⟨htext, hplainstep⟩ := readStep_eq_some hstep (hplain part List.mem_cons_self)
    obtain ⟨hflat, hrest⟩ := ih hq fun s hs => hplain s (List.mem_cons_of_mem _ hs)
    refine ⟨?_, fun s hs => ?_⟩
    · rw [List.flatMap_cons, List.flatten_cons, htext, hflat]
    · rcases List.mem_cons.1 hs with rfl | hs
      · exact hplainstep
      · exact hrest s hs

lemma readPath_eq_some {text : String} {p : Position} :
    readPath text = some p ↔ pathText p = text ∧ ∀ step ∈ p, isPlainStep step = true := by
  constructor
  · intro h
    unfold readPath at h
    split at h
    · next steps hsplit =>
      have hparts := (splitSteps_plain_parts text.toList).2
      have hflat := splitSteps_flatten text.toList
      rw [hsplit] at hparts hflat
      obtain ⟨htext, hplain⟩ := mapM_readStep_eq_some h hparts
      refine ⟨String.toList_inj.1 ?_, hplain⟩
      rw [toList_pathText, htext]
      exact hflat
    · cases h
  · rintro ⟨rfl, hplain⟩
    exact readPath_pathText hplain

/-! ## Configurations and the leaves that describe them -/

/-- A configuration: an object whose fields are in key order, at every depth. -/
structure Configuration where
  fields : List (String × Json)
  ordered : (Json.obj fields).Ordered

namespace Configuration

variable (c : Configuration)

/-- The configuration as a value. -/
def value : Json := .obj c.fields

/-- The scalars with the texts of their positions. -/
def written : List (String × Json) := (scalars c.value).map fun q => (pathText q.1, q.2)

/-- No object and no array below the root is empty. -/
def IsFull : Prop := Json.areFullFields c.fields = true

/-- The texts of the positions of the scalars are read back. -/
def IsPlain : Prop := ∀ q ∈ scalars c.value, ∀ step ∈ q.1, isPlainStep step = true

end Configuration

/-- Leaves describe a configuration if their texts, read as positions, are those of its
scalars, and it has no empty object or array below its root, about which leaves say nothing. -/
def Describes (leaves : List (String × Json)) (c : Configuration) : Prop :=
  (leaves.map fun e => (readPath e.1, e.2)).Perm
      ((scalars c.value).map fun q => (some q.1, q.2)) ∧
    c.IsFull

section Describes

variable {leaves : List (String × Json)} {c c' : Configuration}

/-- Leaves describe the configurations that they are the written scalars of. -/
lemma describes_iff :
    Describes leaves c ↔ c.IsPlain ∧ c.IsFull ∧ leaves.Perm c.written := by
  constructor
  · rintro ⟨hperm, hfull⟩
    have hread : ∀ e ∈ leaves, ∃ q ∈ scalars c.value, readPath e.1 = some q.1 := fun e he => by
      obtain ⟨q, hq, heq⟩ := List.mem_map.1 (hperm.subset (List.mem_map_of_mem he))
      exact ⟨q, hq, (Prod.mk.inj heq).1.symm⟩
    refine ⟨fun q hq => ?_, hfull, ?_⟩
    · obtain ⟨e, -, heq⟩ := List.mem_map.1 (hperm.symm.subset (List.mem_map_of_mem hq))
      exact (readPath_eq_some.1 (Prod.mk.inj heq).1).2
    · -- writing what was read gives the leaves back
      have hwritten := hperm.map fun r => ((r.1.map pathText).getD "", r.2)
      rw [List.map_map, List.map_map] at hwritten
      refine List.Perm.trans (List.Perm.of_eq ?_) hwritten
      refine (List.map_id leaves).symm.trans (List.map_congr_left fun e he => ?_)
      obtain ⟨q, -, hq⟩ := hread e he
      have htext := (readPath_eq_some.1 hq).1
      simp [hq, htext]
  · rintro ⟨hplain, hfull, hperm⟩
    refine ⟨(hperm.map _).trans (List.Perm.of_eq ?_), hfull⟩
    rw [Configuration.written, List.map_map]
    refine List.map_congr_left fun q hq => ?_
    simp [readPath_pathText (hplain q hq)]

/-- Leaves describe at most one configuration. -/
lemma Describes.unique (h : Describes leaves c) (h' : Describes leaves c') : c = c' := by
  have hperm := h.1.symm.trans h'.1
  have hmem : ∀ {c c' : Configuration}, ((scalars c.value).map fun q => (some q.1, q.2)).Perm
      ((scalars c'.value).map fun q => (some q.1, q.2)) →
      ∀ q ∈ scalars c.value, q ∈ scalars c'.value := by
    intro c c' hperm q hq
    obtain ⟨q', hq', heq⟩ := List.mem_map.1 (hperm.subset (List.mem_map_of_mem hq))
    obtain ⟨hfst, hsnd⟩ := Prod.mk.inj heq
    rwa [Prod.ext (Option.some.inj hfst) hsnd] at hq'
  have hfields : c.fields = c'.fields :=
    Json.fields_eq_of_scalars h.2 h'.2 c.ordered.1 c'.ordered.1 c.ordered.2 c'.ordered.2
      fun q => ⟨hmem hperm q, hmem hperm.symm q⟩
  cases c
  cases c'
  obtain rfl := hfields
  rfl

/-- The texts of a plain configuration differ. -/
lemma nodup_written (h : c.IsPlain) : (c.written.map Prod.fst).Nodup := by
  have hpositions := Json.nodup_positions c.ordered
  -- texts that are read as different positions are different
  rw [Configuration.written, List.map_map]
  refine List.Nodup.of_map readPath ?_
  have hread : ((scalars c.value).map (Prod.fst ∘ fun q => (pathText q.1, q.2))).map readPath =
      ((scalars c.value).map Prod.fst).map some := by
    rw [List.map_map, List.map_map]
    exact List.map_congr_left fun q hq => readPath_pathText (h q hq)
  rw [hread]
  exact hpositions.map (Option.some_injective _)

end Describes

end AgenticMesh
