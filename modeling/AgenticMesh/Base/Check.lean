import Mathlib.Data.List.Basic
import Mathlib.Tactic.TypeStar

/-!
# Checks that raise

Validation code in the `Except` monad: a value is checked field by field, and
the first check that fails raises.  The lemmas turn "the validation returned"
into the conjunction of what each of its checks found.
-/

namespace AgenticMesh

variable {ε α β : Type}

namespace Check

/-- Raise an error unless a condition holds. -/
def that (p : Prop) [Decidable p] (e : ε) : Except ε Unit := if p then .ok () else .error e

/-- The value that a query found, or an error. -/
def found (a : Option α) (e : ε) : Except ε α :=
  match a with
  | some a => .ok a
  | none => .error e

@[simp] lemma that_ok {p : Prop} [Decidable p] {e : ε} {u : Unit} :
    that p e = .ok u ↔ p := by
  unfold that
  by_cases hp : p <;> simp [hp]

@[simp] lemma found_ok {o : Option α} {e : ε} {a : α} : found o e = .ok a ↔ o = some a := by
  unfold found
  cases o <;> simp

@[simp] lemma bind_ok {t : Except ε α} {f : α → Except ε β} {b : β} :
    (t >>= f) = .ok b ↔ ∃ a, t = .ok a ∧ f a = .ok b := by
  cases t with
  | error e => simp [bind, Except.bind]
  | ok a => simp [bind, Except.bind]

lemma mapError_ok {ε' : Type} {t : Except ε α} {f : ε → ε'} {a : α} :
    Except.mapError f t = .ok a ↔ t = .ok a := by
  cases t <;> simp [Except.mapError]

@[simp] lemma pure_ok {a b : α} : (pure a : Except ε α) = .ok b ↔ a = b := by
  simp [pure, Except.pure]

lemma toOption_eq_some {t : Except ε α} {a : α} : t.toOption = some a ↔ t = .ok a := by
  cases t <;> simp [Except.toOption]

/-- Every element of a list passes a check. -/
lemma forM_ok {f : α → Except ε Unit} {xs : List α} {u : Unit} :
    xs.forM f = .ok u ↔ ∀ x ∈ xs, f x = .ok () := by
  induction xs with
  | nil => simp [List.forM, pure, Except.pure]
  | cons x xs ih =>
    change (f x >>= fun _ => xs.forM f) = .ok u ↔ _
    rw [bind_ok, List.forall_mem_cons]
    constructor
    · rintro ⟨⟨⟩, hx, h⟩
      exact ⟨hx, ih.1 h⟩
    · rintro ⟨hx, h⟩
      exact ⟨(), hx, ih.2 h⟩

/-- Every result of a list of checks comes from an element of the list. -/
lemma mem_of_mapM {f : α → Except ε β} {xs : List α} {ys : List β} (h : xs.mapM f = .ok ys)
    {y : β} (hy : y ∈ ys) : ∃ x ∈ xs, f x = .ok y := by
  induction xs generalizing ys with
  | nil =>
    obtain rfl := pure_ok.1 h
    exact absurd hy List.not_mem_nil
  | cons x xs ih =>
    rw [List.mapM_cons, bind_ok] at h
    obtain ⟨z, hz, h⟩ := h
    rw [bind_ok] at h
    obtain ⟨zs, hzs, h⟩ := h
    obtain rfl := pure_ok.1 h
    obtain rfl | hy := List.mem_cons.1 hy
    · exact ⟨x, List.mem_cons_self, hz⟩
    · obtain ⟨x', hx', hf⟩ := ih hzs hy
      exact ⟨x', List.mem_cons_of_mem x hx', hf⟩

/-- Every element of a list of checks has its result. -/
lemma ok_of_mapM {f : α → Except ε β} {xs : List α} {ys : List β} (h : xs.mapM f = .ok ys)
    {x : α} (hx : x ∈ xs) : ∃ y ∈ ys, f x = .ok y := by
  induction xs generalizing ys with
  | nil => exact absurd hx List.not_mem_nil
  | cons z xs ih =>
    rw [List.mapM_cons, bind_ok] at h
    obtain ⟨y, hy, h⟩ := h
    rw [bind_ok] at h
    obtain ⟨ys', hys', h⟩ := h
    obtain rfl := pure_ok.1 h
    obtain rfl | hx := List.mem_cons.1 hx
    · exact ⟨y, List.mem_cons_self, hy⟩
    · obtain ⟨y', hmem, hf⟩ := ih hys' hx
      exact ⟨y', List.mem_cons_of_mem y hmem, hf⟩

/-- A list of checks that returns its elements returns each of them. -/
lemma fixed_of_mapM {f : α → Except ε (α × β)} {xs : List α} {ys : List (α × β)}
    (h : xs.mapM f = .ok ys) (hfst : ys.map Prod.fst = xs) {x : α} (hx : x ∈ xs) :
    ∃ b, (x, b) ∈ ys ∧ f x = .ok (x, b) := by
  induction xs generalizing ys with
  | nil => exact absurd hx List.not_mem_nil
  | cons z xs ih =>
    rw [List.mapM_cons, bind_ok] at h
    obtain ⟨⟨z', b⟩, hz, h⟩ := h
    rw [bind_ok] at h
    obtain ⟨zs, hzs, h⟩ := h
    obtain rfl := pure_ok.1 h
    obtain ⟨rfl, htail⟩ := List.cons.inj hfst
    obtain rfl | hx := List.mem_cons.1 hx
    · exact ⟨b, List.mem_cons_self, hz⟩
    · obtain ⟨b', hmem, hf⟩ := ih hzs htail hx
      exact ⟨b', List.mem_cons_of_mem _ hmem, hf⟩

/-- A list of checks has as many results as elements. -/
lemma length_of_mapM {f : α → Except ε β} {xs : List α} {ys : List β} (h : xs.mapM f = .ok ys) :
    ys.length = xs.length := by
  induction xs generalizing ys with
  | nil =>
    obtain rfl := pure_ok.1 h
    rfl
  | cons x xs ih =>
    simp only [List.mapM_cons, bind_ok, pure_ok] at h
    obtain ⟨y, -, zs, hzs, rfl⟩ := h
    rw [List.length_cons, List.length_cons, ih hzs]

/-- A list of checks returns when each of them does. -/
lemma exists_mapM {f : α → Except ε β} {xs : List α} (h : ∀ x ∈ xs, ∃ y, f x = .ok y) :
    ∃ ys, xs.mapM f = .ok ys := by
  induction xs with
  | nil => exact ⟨[], rfl⟩
  | cons x xs ih =>
    obtain ⟨hx, hxs⟩ := List.forall_mem_cons.1 h
    obtain ⟨y, hy⟩ := hx
    obtain ⟨ys, hys⟩ := ih hxs
    refine ⟨y :: ys, ?_⟩
    simp only [List.mapM_cons, bind_ok, pure_ok]
    exact ⟨y, hy, ys, hys, rfl⟩

/-- Related elements have related results. -/
lemma forall₂_mapM {γ δ : Type} {R : α → γ → Prop} {S : β → δ → Prop} {f : α → Except ε β}
    {g : γ → Except ε δ} {xs : List α} {ys : List γ} {bs : List β} (hxs : List.Forall₂ R xs ys)
    (hf : ∀ x y, R x y → ∀ b, f x = .ok b → ∃ d, g y = .ok d ∧ S b d)
    (h : xs.mapM f = .ok bs) : ∃ ds, ys.mapM g = .ok ds ∧ List.Forall₂ S bs ds := by
  induction hxs generalizing bs with
  | nil =>
    obtain rfl := pure_ok.1 h
    exact ⟨[], rfl, .nil⟩
  | @cons x y xs ys hxy _ ih =>
    simp only [List.mapM_cons, bind_ok, pure_ok] at h ⊢
    obtain ⟨b, hb, bs, hbs, rfl⟩ := h
    obtain ⟨d, hd, hbd⟩ := hf x y hxy b hb
    obtain ⟨ds, hds, hrest⟩ := ih hbs
    exact ⟨d :: ds, ⟨d, hd, ds, hds, rfl⟩, .cons hbd hrest⟩

/-- A list of checks in another order. -/
lemma perm_mapM {f : α → Except ε β} {xs ys : List α} {bs : List β} (hperm : xs.Perm ys)
    (h : xs.mapM f = .ok bs) : ∃ ds, ys.mapM f = .ok ds ∧ bs.Perm ds := by
  induction hperm generalizing bs with
  | nil => exact ⟨bs, h, List.Perm.refl bs⟩
  | cons x _ ih =>
    simp only [List.mapM_cons, bind_ok, pure_ok] at h ⊢
    obtain ⟨b, hb, bs, hbs, rfl⟩ := h
    obtain ⟨ds, hds, hrest⟩ := ih hbs
    exact ⟨b :: ds, ⟨b, hb, ds, hds, rfl⟩, hrest.cons b⟩
  | swap x y _ =>
    simp only [List.mapM_cons, bind_ok, pure_ok] at h ⊢
    obtain ⟨b, hb, _, ⟨c, hc, bs, hbs, rfl⟩, rfl⟩ := h
    exact ⟨c :: b :: bs, ⟨c, hc, b :: bs, ⟨b, hb, bs, hbs, rfl⟩, rfl⟩, List.Perm.swap c b bs⟩
  | trans _ _ ih₁ ih₂ =>
    obtain ⟨cs, hcs, hbc⟩ := ih₁ h
    obtain ⟨ds, hds, hcd⟩ := ih₂ hcs
    exact ⟨ds, hds, hbc.trans hcd⟩

lemma mapM_congr {f g : α → Except ε β} {xs : List α} (h : ∀ x ∈ xs, f x = g x) :
    xs.mapM f = xs.mapM g := by
  induction xs with
  | nil => rfl
  | cons x xs ih =>
    rw [List.mapM_cons, List.mapM_cons, h x List.mem_cons_self,
      ih fun y hy => h y (List.mem_cons_of_mem x hy)]

/-! ## The errors of a check -/

/-- Every error that a check raises satisfies `E`. -/
def Raises (E : ε → Prop) (t : Except ε α) : Prop := ∀ e, t = .error e → E e

section Raises

variable {E : ε → Prop}

lemma raises_ok {a : α} : Raises E (.ok a : Except ε α) := by
  intro e he
  simp at he

lemma raises_error {e : ε} (h : E e) : Raises E (.error e : Except ε α) := by
  intro e' he
  rwa [← Except.error.inj he]

lemma raises_that {p : Prop} [Decidable p] {e : ε} (h : E e) : Raises E (that p e) := by
  unfold that
  by_cases hp : p
  · rw [if_pos hp]
    exact raises_ok
  · rw [if_neg hp]
    exact raises_error h

lemma raises_found {a : Option α} {e : ε} (h : E e) : Raises E (found a e) := by
  cases a with
  | none => exact raises_error h
  | some a => exact raises_ok

lemma Raises.bind {t : Except ε α} {f : α → Except ε β} (ht : Raises E t)
    (hf : ∀ a, Raises E (f a)) : Raises E (t >>= f) := by
  cases t with
  | error e => exact raises_error (ht e rfl)
  | ok a => exact hf a

lemma Raises.map {t : Except ε α} {f : α → β} (ht : Raises E t) : Raises E (t.map f) := by
  cases t with
  | error e => exact raises_error (ht e rfl)
  | ok a => exact raises_ok

lemma raises_mapError {ε' : Type} {t : Except ε' α} {f : ε' → ε} (h : ∀ e, E (f e)) :
    Raises E (t.mapError f) := by
  cases t with
  | error e => exact raises_error (h e)
  | ok a => exact raises_ok

/-- Checks one after the other. -/
lemma raises_mapM {f : α → Except ε β} {xs : List α} (h : ∀ x ∈ xs, Raises E (f x)) :
    Raises E (xs.mapM f) := by
  induction xs with
  | nil => exact raises_ok
  | cons x xs ih =>
    obtain ⟨hx, hxs⟩ := List.forall_mem_cons.1 h
    rw [List.mapM_cons]
    exact hx.bind fun _ => (ih hxs).bind fun _ => raises_ok

end Raises

end Check

end AgenticMesh
