import Mathlib.Tactic.TypeStar
import Mathlib.Data.Nat.Notation
import Mathlib.Logic.Basic

/-!
# Transactions

A transaction on states `σ` either commits with a result and the next state or
fails with an error, and then the state is the one it started from.  `Tx` is a
monad, so that a store operation is written statement by statement in the order
of its source; the lemmas `Tx.bind_ok`, `Tx.require_ok`, `Tx.demand_ok`, ...
turn "this operation committed" into the conjunction of what each of its
statements found and wrote.
-/

namespace AgenticMesh

/-- A transaction on a state `σ` with errors `ε` and results `α`. -/
def Tx (σ ε α : Type) : Type := σ → Except ε (α × σ)

namespace Tx

variable {σ ε ε' α β : Type}

instance : Monad (Tx σ ε) where
  pure a := fun s => .ok (a, s)
  bind t f := fun s =>
    match t s with
    | .ok (a, s') => f a s'
    | .error e => .error e

/-- Raise an error: the transaction is rolled back. -/
def fail (e : ε) : Tx σ ε α := fun _ => .error e

/-- The result of a query. -/
def query (f : σ → α) : Tx σ ε α := fun s => .ok (f s, s)

/-- The row that a query returned, or an error when there is none. -/
def demand (f : σ → Option α) (e : ε) : Tx σ ε α := fun s =>
  match f s with
  | some a => .ok (a, s)
  | none => .error e

/-- Go on only under a condition. -/
def require (p : Prop) [Decidable p] (e : ε) : Tx σ ε Unit := fun s =>
  if p then .ok ((), s) else .error e

/-- Write the state. -/
def modify (f : σ → σ) : Tx σ ε Unit := fun s => .ok ((), f s)

/-- Write the state unless that violates a constraint. -/
def attempt (f : σ → Option σ) (e : ε) : Tx σ ε Unit := fun s =>
  match f s with
  | some s' => .ok ((), s')
  | none => .error e

/-- Translate the errors of a transaction. -/
def mapError (f : ε → ε') (t : Tx σ ε α) : Tx σ ε' α := fun s =>
  match t s with
  | .ok r => .ok r
  | .error e => .error (f e)

/-- The state after a transaction: what it committed, or the old state if it failed. -/
def commit (t : Tx σ ε α) (s : σ) : σ :=
  match t s with
  | .ok (_, s') => s'
  | .error _ => s

/-- The result that a transaction commits with. -/
def result? (t : Tx σ ε α) (s : σ) : Option α :=
  match t s with
  | .ok (a, _) => some a
  | .error _ => none

/-- The error that a transaction fails with. -/
def error? (t : Tx σ ε α) (s : σ) : Option ε :=
  match t s with
  | .ok _ => none
  | .error e => some e

/-- A transaction on a part of the state. -/
def zoom {τ : Type} (get : σ → τ) (set : τ → σ → σ) (t : Tx τ ε α) : Tx σ ε α := fun s =>
  match t (get s) with
  | .ok (a, u) => .ok (a, set u s)
  | .error e => .error e

variable {s s' : σ} {r : α × σ}

@[simp] lemma pure_ok {a : α} : (pure a : Tx σ ε α) s = .ok r ↔ r = (a, s) := by
  simp only [pure, Except.ok.injEq]
  exact eq_comm

@[simp] lemma bind_ok {t : Tx σ ε α} {f : α → Tx σ ε β} {r : β × σ} :
    (t >>= f) s = .ok r ↔ ∃ a s', t s = .ok (a, s') ∧ f a s' = .ok r := by
  simp only [bind]
  cases t s with
  | error e => simp
  | ok p =>
    obtain ⟨a, s'⟩ := p
    simp only [Except.ok.injEq, Prod.mk.injEq]
    constructor
    · exact fun h => ⟨a, s', ⟨rfl, rfl⟩, h⟩
    · rintro ⟨_, _, ⟨rfl, rfl⟩, h⟩
      exact h

@[simp] lemma map_ok {t : Tx σ ε α} {f : α → β} {r : β × σ} :
    (f <$> t) s = .ok r ↔ ∃ a s', t s = .ok (a, s') ∧ r = (f a, s') := by
  refine (bind_ok (t := t) (f := fun a => pure (f a))).trans ?_
  simp only [pure_ok]

@[simp] lemma fail_ok {e : ε} : (fail e : Tx σ ε α) s = .ok r ↔ False := by
  simp [fail]

@[simp] lemma query_ok {f : σ → α} : (query f : Tx σ ε α) s = .ok r ↔ r = (f s, s) := by
  simp only [query, Except.ok.injEq]
  exact eq_comm

@[simp] lemma demand_ok {f : σ → Option α} {e : ε} :
    demand f e s = .ok r ↔ f s = some r.1 ∧ r.2 = s := by
  obtain ⟨a, s'⟩ := r
  unfold demand
  cases f s <;> simp [eq_comm]

@[simp] lemma require_ok {p : Prop} [Decidable p] {e : ε} {r : Unit × σ} :
    require p e s = .ok r ↔ p ∧ r.2 = s := by
  obtain ⟨⟨⟩, s'⟩ := r
  unfold require
  by_cases hp : p <;> simp [hp, eq_comm]

@[simp] lemma modify_ok {f : σ → σ} {r : Unit × σ} :
    (modify f : Tx σ ε Unit) s = .ok r ↔ r.2 = f s := by
  obtain ⟨⟨⟩, s'⟩ := r
  simp [modify, eq_comm]

@[simp] lemma attempt_ok {f : σ → Option σ} {e : ε} {r : Unit × σ} :
    attempt f e s = .ok r ↔ f s = some r.2 := by
  obtain ⟨⟨⟩, s'⟩ := r
  unfold attempt
  cases f s <;> simp

@[simp] lemma mapError_ok {f : ε → ε'} {t : Tx σ ε α} :
    mapError f t s = .ok r ↔ t s = .ok r := by
  unfold mapError
  cases t s <;> simp

@[simp] lemma zoom_ok {τ : Type} {get : σ → τ} {set : τ → σ → σ} {t : Tx τ ε α} :
    zoom get set t s = .ok r ↔ ∃ u, t (get s) = .ok (r.1, u) ∧ r.2 = set u s := by
  obtain ⟨a, s'⟩ := r
  unfold zoom
  cases t (get s) with
  | error e => simp
  | ok q =>
    obtain ⟨b, u⟩ := q
    simp only [Except.ok.injEq, Prod.mk.injEq]
    constructor
    · rintro ⟨rfl, rfl⟩
      exact ⟨u, ⟨rfl, rfl⟩, rfl⟩
    · rintro ⟨_, ⟨rfl, rfl⟩, rfl⟩
      exact ⟨rfl, rfl⟩

lemma bind_assoc {γ : Type} {t : Tx σ ε α} {f : α → Tx σ ε β} {g : β → Tx σ ε γ} :
    (t >>= f >>= g) = (t >>= fun a => f a >>= g) := by
  funext s
  simp only [bind]
  cases t s <;> rfl

/-! ## Statement by statement

The same facts for a statement that is followed by the rest of the transaction. -/

section Bind

variable {r : β × σ}

lemma bind_of_ok_iff {t : Tx σ ε α} {f : α → Tx σ ε β} {p : α → Prop}
    (h : ∀ q, t s = .ok q ↔ p q.1 ∧ q.2 = s) :
    (t >>= f) s = .ok r ↔ ∃ a, p a ∧ f a s = .ok r := by
  rw [bind_ok]
  constructor
  · rintro ⟨a, s', ht, hf⟩
    obtain ⟨hp, hs⟩ := (h (a, s')).1 ht
    simp only at hp hs
    exact ⟨a, hp, by rwa [hs] at hf⟩
  · rintro ⟨a, hp, hf⟩
    exact ⟨a, s, (h (a, s)).2 ⟨hp, rfl⟩, hf⟩

@[simp] lemma query_bind_ok {g : σ → α} {f : α → Tx σ ε β} :
    (query g >>= f) s = .ok r ↔ f (g s) s = .ok r := Iff.rfl

@[simp] lemma demand_bind_ok {g : σ → Option α} {e : ε} {f : α → Tx σ ε β} :
    (demand g e >>= f) s = .ok r ↔ ∃ a, g s = some a ∧ f a s = .ok r :=
  bind_of_ok_iff fun _ => demand_ok

/-- A statement that only checks a condition. -/
lemma bind_of_check {t : Tx σ ε Unit} {f : Unit → Tx σ ε β} {p : Prop}
    (h : ∀ q, t s = .ok q ↔ p ∧ q.2 = s) : (t >>= f) s = .ok r ↔ p ∧ f () s = .ok r := by
  refine (bind_of_ok_iff (p := fun _ => p) h).trans ?_
  constructor
  · rintro ⟨_, h⟩
    exact h
  · exact fun h => ⟨(), h⟩

@[simp] lemma require_bind_ok {p : Prop} [Decidable p] {e : ε} {f : Unit → Tx σ ε β} :
    (require p e >>= f) s = .ok r ↔ p ∧ f () s = .ok r := bind_of_check fun _ => require_ok

@[simp] lemma modify_bind_ok {g : σ → σ} {f : Unit → Tx σ ε β} :
    (modify g >>= f) s = .ok r ↔ f () (g s) = .ok r := Iff.rfl

@[simp] lemma attempt_bind_ok {g : σ → Option σ} {e : ε} {f : Unit → Tx σ ε β} :
    (attempt g e >>= f) s = .ok r ↔ ∃ s', g s = some s' ∧ f () s' = .ok r := by
  simp only [bind_ok, attempt_ok]
  constructor
  · rintro ⟨_, s', h⟩
    exact ⟨s', h⟩
  · rintro ⟨s', h⟩
    exact ⟨(), s', h⟩

end Bind

/-! ## Running a statement

The rest of a transaction after a statement whose outcome is known. -/

section Forward

variable {f : α → Tx σ ε β}

lemma bind_of_ok {t : Tx σ ε α} {a : α} (h : t s = .ok (a, s')) : (t >>= f) s = f a s' := by
  simp only [bind, h]

lemma bind_of_error {t : Tx σ ε α} {e : ε} (h : t s = .error e) : (t >>= f) s = .error e := by
  simp only [bind, h]

lemma bind_error {t : Tx σ ε α} {e : ε} : (t >>= f) s = .error e ↔
    t s = .error e ∨ ∃ a s', t s = .ok (a, s') ∧ f a s' = .error e := by
  cases h : t s with
  | error e' => simp [bind_of_error h]
  | ok p =>
    obtain ⟨a, s'⟩ := p
    rw [bind_of_ok h]
    constructor
    · exact fun hf => Or.inr ⟨a, s', rfl, hf⟩
    · rintro (hfalse | ⟨_, _, hok, hf⟩)
      · simp at hfalse
      · obtain ⟨rfl, rfl⟩ := Prod.mk.inj (Except.ok.inj hok)
        exact hf

lemma map_of_ok {t : Tx σ ε α} {g : α → β} {a : α} (h : t s = .ok (a, s')) :
    (g <$> t) s = .ok (g a, s') := bind_of_ok h

lemma map_of_error {t : Tx σ ε α} {g : α → β} {e : ε} (h : t s = .error e) :
    (g <$> t) s = .error e := bind_of_error h

lemma map_bind_apply {γ : Type} {t : Tx σ ε α} {g : β → γ} :
    (g <$> (t >>= f)) s = (t >>= fun a => g <$> f a) s := by
  cases h : t s with
  | error e => rw [map_of_error (bind_of_error h), bind_of_error h]
  | ok p =>
    obtain ⟨a, s'⟩ := p
    have hf : (t >>= f) s = f a s' := bind_of_ok h
    rw [bind_of_ok h]
    change (bind (t >>= f) _) s = (bind (f a) _) s'
    simp only [bind] at hf ⊢
    rw [hf]

lemma demand_of_some {g : σ → Option α} {e : ε} {a : α} (h : g s = some a) :
    demand g e s = .ok (a, s) := by
  simp only [demand, h]

lemma demand_of_none {g : σ → Option α} {e : ε} (h : g s = none) :
    demand g e s = .error e := by
  simp only [demand, h]

lemma attempt_of_some {g : σ → Option σ} {e : ε} (h : g s = some s') :
    attempt g e s = .ok ((), s') := by
  simp only [attempt, h]

lemma mapError_of_ok {ε' : Type} {g : ε → ε'} {t : Tx σ ε α} {a : α} (h : t s = .ok (a, s')) :
    mapError g t s = .ok (a, s') := by
  simp only [mapError, h]

lemma require_of_pos {p : Prop} [Decidable p] {e : ε} (h : p) :
    require p e s = .ok ((), s) := if_pos h

lemma require_of_neg {p : Prop} [Decidable p] {e : ε} (h : ¬ p) :
    require p e s = .error e := if_neg h

end Forward

/-! ## The errors of a transaction -/

/-- Every error that a transaction raises satisfies `P`. -/
def FailsOnly (P : ε → Prop) (t : Tx σ ε α) : Prop := ∀ s e, t s = .error e → P e

section FailsOnly

variable {P : ε → Prop}

lemma FailsOnly.pure {a : α} : FailsOnly P (pure a : Tx σ ε α) := by
  intro s e h
  simp [Pure.pure] at h

lemma FailsOnly.demand {g : σ → Option α} {e : ε} (h : P e) : FailsOnly P (demand g e) := by
  intro s e' he
  unfold Tx.demand at he
  split at he
  · simp at he
  · rwa [← Except.error.inj he]

lemma FailsOnly.require {p : Prop} [Decidable p] {e : ε} (h : P e) :
    FailsOnly P (require p e : Tx σ ε Unit) := by
  intro s e' he
  unfold Tx.require at he
  split at he
  · simp at he
  · rwa [← Except.error.inj he]

lemma FailsOnly.bind {t : Tx σ ε α} {f : α → Tx σ ε β} (ht : FailsOnly P t)
    (hf : ∀ a, FailsOnly P (f a)) : FailsOnly P (t >>= f) := by
  intro s e he
  cases h : t s with
  | error e' =>
    rw [bind_of_error h] at he
    rw [← Except.error.inj he]
    exact ht s e' h
  | ok r =>
    have hok : t s = .ok (r.1, r.2) := h
    rw [bind_of_ok hok] at he
    exact hf r.1 r.2 e he

end FailsOnly

/-! ## Committing -/

/-- A transaction leaves the state alone or commits. -/
lemma commit_cases (t : Tx σ ε α) (s : σ) :
    t.commit s = s ∨ ∃ a, t s = .ok (a, t.commit s) := by
  unfold commit
  cases h : t s with
  | error e => exact Or.inl rfl
  | ok r => exact Or.inr ⟨r.1, by simp⟩

/-- **Transaction rule.** What holds of the old state and of every committed state holds
after the transaction. -/
theorem commit_of {P : σ → Prop} {t : Tx σ ε α} (h : P s)
    (ht : ∀ a s', t s = .ok (a, s') → P s') : P (t.commit s) := by
  obtain he | ⟨a, ha⟩ := t.commit_cases s
  · rwa [he]
  · exact ht a _ ha

/-- The same for a reflexive relation between the old state and the new one. -/
lemma commit_rel {R : σ → σ → Prop} {t : Tx σ ε α} (h : R s s)
    (ht : ∀ a s', t s = .ok (a, s') → R s s') : R s (t.commit s) :=
  commit_of (P := R s) h ht

lemma commit_of_ok {t : Tx σ ε α} {a : α} (h : t s = .ok (a, s')) : t.commit s = s' := by
  simp [commit, h]

lemma commit_of_error {t : Tx σ ε α} {e : ε} (h : t s = .error e) : t.commit s = s := by
  simp [commit, h]

end Tx

end AgenticMesh
