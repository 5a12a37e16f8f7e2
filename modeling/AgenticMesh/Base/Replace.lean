import Mathlib.Data.List.Infix

/-!
# Replacing every occurrence of a pattern

`replaceAll pat sub l` is `l` with the occurrences of `pat` replaced by `sub`,
from left to right and without overlaps.  When the ends of `sub` are symbols
that `pat` does not have, an occurrence of `pat` in the result lies in what was
between two replacements or inside `sub`; so there is none when `sub` has no
room for one.
-/

namespace AgenticMesh

variable {α : Type*} [DecidableEq α] {pat sub l : List α}

/-- The rest of the text, of which the first symbols belong to the last occurrence. -/
def replaceFrom (pat sub : List α) : ℕ → List α → List α
  | _, [] => []
  | skip + 1, _ :: l => replaceFrom pat sub skip l
  | 0, a :: l =>
    if pat <+: a :: l then sub ++ replaceFrom pat sub (pat.length - 1) l
    else a :: replaceFrom pat sub 0 l

def replaceAll (pat sub l : List α) : List α := replaceFrom pat sub 0 l

@[simp] lemma replaceFrom_nil (skip : ℕ) : replaceFrom pat sub skip [] = [] := by
  cases skip <;> rfl

lemma replaceFrom_of_found {a : α} (h : pat <+: a :: l) :
    replaceFrom pat sub 0 (a :: l) = sub ++ replaceFrom pat sub (pat.length - 1) l := if_pos h

lemma replaceFrom_of_not_found {a : α} (h : ¬ pat <+: a :: l) :
    replaceFrom pat sub 0 (a :: l) = a :: replaceFrom pat sub 0 l := if_neg h

/-- What a replacement leaves comes from the text or from the replacement. -/
lemma mem_replaceFrom {skip : ℕ} {a : α} (h : a ∈ replaceFrom pat sub skip l) :
    a ∈ sub ∨ a ∈ l := by
  induction l generalizing skip with
  | nil => simp at h
  | cons b l ih =>
    have hrest : ∀ skip, a ∈ replaceFrom pat sub skip l → a ∈ sub ∨ a ∈ b :: l := fun _ h =>
      (ih h).imp_right (List.mem_cons_of_mem _)
    cases skip with
    | succ skip => exact hrest skip h
    | zero =>
      by_cases hpat : pat <+: b :: l
      · rw [replaceFrom_of_found hpat] at h
        rcases List.mem_append.1 h with h | h
        · exact Or.inl h
        · exact hrest _ h
      · rw [replaceFrom_of_not_found hpat] at h
        rcases List.mem_cons.1 h with rfl | h
        · exact Or.inr List.mem_cons_self
        · exact hrest _ h

/-- A text without the pattern stays as it is. -/
lemma replaceAll_eq_self (h : ¬ pat <:+: l) : replaceAll pat sub l = l := by
  induction l with
  | nil => rfl
  | cons a l ih =>
    have hcons : ¬ pat <+: a :: l ∧ ¬ pat <:+: l := by
      simpa [List.infix_cons_iff] using h
    rw [replaceAll, replaceFrom_of_not_found hcons.1]
    exact congrArg (a :: ·) (ih hcons.2)

omit [DecidableEq α] in
/-- A symbol that a word does not have separates its occurrences. -/
lemma infix_append_cons_of_notMem {p x y : List α} {c : α} (hc : c ∉ p)
    (h : p <:+: x ++ c :: y) : p <:+: x ∨ p <:+: y := by
  rcases List.infix_append_iff.1 h with h | h | ⟨p₁, p₂, rfl, hsuffix, hprefix⟩
  · exact .inl h
  · rcases List.infix_cons_iff.1 h with h | h
    · cases p with
      | nil => exact .inl List.nil_infix
      | cons b p =>
        obtain ⟨rfl, -⟩ := List.cons_prefix_cons.1 h
        exact absurd List.mem_cons_self hc
    · exact .inr h
  · -- the second part would begin with the separator
    cases p₂ with
    | nil =>
      rw [List.append_nil]
      exact .inl hsuffix.isInfix
    | cons b p₂ =>
      obtain ⟨rfl, -⟩ := List.cons_prefix_cons.1 hprefix
      exact absurd (List.mem_append_right _ List.mem_cons_self) hc

omit [DecidableEq α] in
/-- So it occurs in one of the words of a text. -/
lemma infix_of_infix_intercalate {p : List α} {c : α} (hc : c ∉ p) (hne : p ≠ [])
    {words : List (List α)} (h : p <:+: [c].intercalate words) : ∃ w ∈ words, p <:+: w := by
  induction words with
  | nil => exact absurd (List.infix_nil.1 h) hne
  | cons w words ih =>
    cases words with
    | nil =>
      rw [List.intercalate_singleton] at h
      exact ⟨w, List.mem_cons_self, h⟩
    | cons v words =>
      rw [List.intercalate_cons_cons, List.append_assoc, List.singleton_append] at h
      rcases infix_append_cons_of_notMem hc h with h | h
      · exact ⟨w, List.mem_cons_self, h⟩
      · obtain ⟨v', hv', hinfix⟩ := ih h
        exact ⟨v', List.mem_cons_of_mem _ hv', hinfix⟩

/-- A beginning that no occurrence reaches stays. -/
lemma prefix_replaceAll {p : List α} (hp : ∀ q ∈ p.tails, q ≠ [] → ¬ q <+: pat ∧ ¬ pat <+: q)
    (h : p <+: l) : p <+: replaceAll pat sub l := by
  induction p generalizing l with
  | nil => exact List.nil_prefix
  | cons a p ih =>
    obtain ⟨rest, rfl⟩ := h
    have hhead := hp (a :: p) ((List.mem_tails _ _).2 List.suffix_rfl) (List.cons_ne_nil _ _)
    have hpat : ¬ pat <+: a :: (p ++ rest) := by
      intro hpat
      rcases List.prefix_or_prefix_of_prefix hpat (List.prefix_append (a :: p) rest) with h | h
      · exact hhead.2 h
      · exact hhead.1 h
    rw [replaceAll, List.cons_append, replaceFrom_of_not_found hpat]
    refine List.cons_prefix_cons.2 ⟨rfl, ih (fun q hq => hp q ?_) (List.prefix_append p rest)⟩
    exact (List.mem_tails _ _).2 (((List.mem_tails _ _).1 hq).trans (List.suffix_cons a p))

section Framed

variable {first last : α} {inner : List α}

/-- What has no symbol of the replacement's start begins the result where it begins the text. -/
lemma prefix_of_prefix_replaceAll (hsub : sub = first :: inner ++ [last]) {p : List α}
    (hfirst : first ∉ p) (h : p <+: replaceAll pat sub l) : p <+: l := by
  induction l generalizing p with
  | nil => exact h
  | cons a l ih =>
    cases p with
    | nil => exact List.nil_prefix
    | cons b p =>
      by_cases hpat : pat <+: a :: l
      · rw [replaceAll, replaceFrom_of_found hpat, hsub] at h
        obtain ⟨rfl, -⟩ := List.cons_prefix_cons.1 h
        exact absurd List.mem_cons_self hfirst
      · rw [replaceAll, replaceFrom_of_not_found hpat] at h
        obtain ⟨rfl, hrest⟩ := List.cons_prefix_cons.1 h
        have hfirst' : first ∉ p := fun hmem => hfirst (List.mem_cons_of_mem _ hmem)
        exact List.cons_prefix_cons.2 ⟨rfl, ih hfirst' hrest⟩

lemma not_infix_replaceFrom (hsub : sub = first :: inner ++ [last]) (hfirst : first ∉ pat)
    (hlast : last ∉ pat) (hinner : ¬ pat <:+: inner) (skip : ℕ) :
    ¬ pat <:+: replaceFrom pat sub skip l := by
  have hne : pat ≠ [] := by
    rintro rfl
    exact hinner List.nil_infix
  induction l generalizing skip with
  | nil =>
    rw [replaceFrom_nil, List.infix_nil]
    exact hne
  | cons a l ih =>
    cases skip with
    | succ skip => exact ih skip
    | zero =>
      by_cases hpat : pat <+: a :: l
      · rw [replaceFrom_of_found hpat]
        intro h
        nth_rewrite 1 [hsub] at h
        rw [List.append_assoc, List.singleton_append] at h
        rcases infix_append_cons_of_notMem hlast h with h | h
        · -- an occurrence inside the replacement
          rcases infix_append_cons_of_notMem (x := []) hfirst h with h | h
          · exact hne (List.infix_nil.1 h)
          · exact hinner h
        · exact ih _ h
      · rw [replaceFrom_of_not_found hpat]
        intro h
        rcases List.infix_cons_iff.1 h with h | h
        · have hself : replaceAll pat sub (a :: l) = a :: replaceFrom pat sub 0 l :=
            replaceFrom_of_not_found hpat
          exact hpat (prefix_of_prefix_replaceAll hsub hfirst (hself ▸ h))
        · exact ih 0 h

/-- **No occurrence is left**, when the replacement is framed by symbols that the pattern does not
have and the pattern does not fit between them. -/
theorem not_infix_replaceAll (hsub : sub = first :: inner ++ [last]) (hfirst : first ∉ pat)
    (hlast : last ∉ pat) (hinner : ¬ pat <:+: inner) : ¬ pat <:+: replaceAll pat sub l :=
  not_infix_replaceFrom hsub hfirst hlast hinner 0

end Framed

end AgenticMesh
