import AgenticMesh.Base.Tx

/-!
# Specifications of transactions

`Tx.Ensures t s E Q`: the transaction `t` that starts in the state `s` either
commits with a result and a state that satisfy `Q`, or fails with an error that
satisfies `E`.  There is one rule for each statement of a transaction, for a
statement that is followed by the rest of the transaction.
-/

namespace AgenticMesh

namespace Tx

variable {σ τ ε α β : Type}

/-- The value of a check, or its error. -/
def ofExcept (r : Except ε α) : Tx σ ε α := fun s => r.map fun a => (a, s)

/-- How a transaction that starts in `s` may end. -/
def Ensures (t : Tx σ ε α) (s : σ) (E : ε → Prop) (Q : α → σ → Prop) : Prop :=
  (∀ a s', t s = .ok (a, s') → Q a s') ∧ ∀ e, t s = .error e → E e

variable {s s' : σ} {E : ε → Prop} {Q : α → σ → Prop} {P : β → σ → Prop}

@[simp] lemma ofExcept_ok {r : Except ε α} {p : α × σ} :
    ofExcept r s = .ok p ↔ r = .ok p.1 ∧ p.2 = s := by
  obtain ⟨a, s'⟩ := p
  unfold ofExcept
  cases r <;> simp [Except.map, eq_comm]

lemma ofExcept_of_ok {r : Except ε α} {a : α} (h : r = .ok a) :
    ofExcept r s = .ok (a, s) := by
  rw [h]
  rfl

lemma ofExcept_error {r : Except ε α} {e : ε} : ofExcept r s = .error e ↔ r = .error e := by
  unfold ofExcept
  cases r <;> simp [Except.map]

lemma ofExcept_bind_ok {r : Except ε α} {f : α → Tx σ ε β} {p : β × σ} :
    (ofExcept r >>= f) s = .ok p ↔ ∃ a, r = .ok a ∧ f a s = .ok p :=
  bind_of_ok_iff fun _ => ofExcept_ok

lemma Ensures.mono {t : Tx σ ε α} {E' : ε → Prop} {Q' : α → σ → Prop} (h : t.Ensures s E Q)
    (hE : ∀ e, E e → E' e) (hQ : ∀ a s', Q a s' → Q' a s') : t.Ensures s E' Q' :=
  ⟨fun a s' ht => hQ a s' (h.1 a s' ht), fun e ht => hE e (h.2 e ht)⟩

/-- A transaction that commits. -/
lemma ensures_of_ok {t : Tx σ ε α} {a : α} (h : t s = .ok (a, s')) (hQ : Q a s') :
    t.Ensures s E Q := by
  constructor
  · intro b u hb
    rw [h] at hb
    obtain ⟨rfl, rfl⟩ := Prod.mk.inj (Except.ok.inj hb)
    exact hQ
  · intro e he
    simp [h] at he

/-- A transaction that fails. -/
lemma ensures_of_error {t : Tx σ ε α} {e : ε} (h : t s = .error e) (hE : E e) :
    t.Ensures s E Q := by
  constructor
  · intro b u hb
    simp [h] at hb
  · intro e' he
    rw [h] at he
    rwa [← Except.error.inj he]

lemma ensures_pure {a : α} (h : Q a s) : (pure a : Tx σ ε α).Ensures s E Q :=
  ensures_of_ok rfl h

/-- **Sequencing.** -/
theorem Ensures.bind {t : Tx σ ε α} {f : α → Tx σ ε β} (ht : t.Ensures s E Q)
    (hf : ∀ a s', Q a s' → (f a).Ensures s' E P) : (t >>= f).Ensures s E P := by
  constructor
  · intro b u hb
    obtain ⟨a, s', ha, hb⟩ := bind_ok.1 hb
    exact (hf a s' (ht.1 a s' ha)).1 b u hb
  · intro e he
    obtain he | ⟨a, s', ha, he⟩ := bind_error.1 he
    · exact ht.2 e he
    · exact (hf a s' (ht.1 a s' ha)).2 e he

lemma ensures_ofExcept_bind {r : Except ε α} {f : α → Tx σ ε β}
    (herr : ∀ e, r = .error e → E e) (h : ∀ a, r = .ok a → (f a).Ensures s E P) :
    (ofExcept r >>= f).Ensures s E P := by
  refine Ensures.bind (Q := fun a s' => r = .ok a ∧ s' = s) ⟨?_, ?_⟩ ?_
  · exact fun a s' ha => ofExcept_ok.1 ha
  · exact fun e he => herr e (ofExcept_error.1 he)
  · rintro a s' ⟨ha, rfl⟩
    exact h a ha

lemma ensures_demand_bind {g : σ → Option α} {e : ε} {f : α → Tx σ ε β}
    (hnone : g s = none → E e) (h : ∀ a, g s = some a → (f a).Ensures s E P) :
    (demand g e >>= f).Ensures s E P := by
  refine Ensures.bind (Q := fun a s' => g s = some a ∧ s' = s) ?_ ?_
  · cases hg : g s with
    | none => exact ensures_of_error (demand_of_none hg) (hnone hg)
    | some a => exact ensures_of_ok (demand_of_some hg) ⟨rfl, rfl⟩
  · rintro a s' ⟨ha, rfl⟩
    exact h a ha

lemma ensures_require_bind {p : Prop} [Decidable p] {e : ε} {f : Unit → Tx σ ε β}
    (hneg : ¬ p → E e) (h : p → (f ()).Ensures s E P) : (require p e >>= f).Ensures s E P := by
  refine Ensures.bind (Q := fun _ s' => p ∧ s' = s) ?_ ?_
  · by_cases hp : p
    · exact ensures_of_ok (require_of_pos hp) ⟨hp, rfl⟩
    · exact ensures_of_error (require_of_neg hp) (hneg hp)
  · rintro ⟨⟩ s' ⟨hp, rfl⟩
    exact h hp

lemma ensures_query_bind {g : σ → α} {f : α → Tx σ ε β} (h : (f (g s)).Ensures s E P) :
    (query g >>= f).Ensures s E P := h

lemma ensures_modify_bind {g : σ → σ} {f : Unit → Tx σ ε β} (h : (f ()).Ensures (g s) E P) :
    (modify g >>= f).Ensures s E P := h

lemma ensures_attempt_bind {g : σ → Option σ} {e : ε} {f : Unit → Tx σ ε β}
    (hnone : g s = none → E e) (h : ∀ s', g s = some s' → (f ()).Ensures s' E P) :
    (attempt g e >>= f).Ensures s E P := by
  refine Ensures.bind (Q := fun _ s' => g s = some s') ?_ ?_
  · cases hg : g s with
    | none =>
      refine ensures_of_error (e := e) ?_ (hnone hg)
      simp only [attempt, hg]
    | some s' => exact ensures_of_ok (attempt_of_some hg) rfl
  · exact fun _ s' hs' => h s' hs'

lemma ensures_ite {c : Prop} [Decidable c] {t u : Tx σ ε α} (ht : c → t.Ensures s E Q)
    (hu : ¬ c → u.Ensures s E Q) : (if c then t else u).Ensures s E Q := by
  by_cases hc : c
  · rw [if_pos hc]
    exact ht hc
  · rw [if_neg hc]
    exact hu hc

lemma Ensures.mapError {ε' : Type} {t : Tx σ ε' α} {f : ε' → ε} {E' : ε' → Prop}
    (h : t.Ensures s E' Q) (hE : ∀ e, E' e → E (f e)) : (t.mapError f).Ensures s E Q := by
  cases ht : t s with
  | ok p =>
    obtain ⟨a, s'⟩ := p
    exact ensures_of_ok (mapError_of_ok ht) (h.1 a s' ht)
  | error e =>
    have hfail : t.mapError f s = .error (f e) := by
      simp only [Tx.mapError, ht]
    exact ensures_of_error hfail (hE e (h.2 e ht))

/-- What a specification says of the state after the transaction. -/
lemma Ensures.commit {t : Tx σ ε α} {R : σ → Prop} (h : t.Ensures s E Q) (hs : R s)
    (hQ : ∀ a s', Q a s' → R s') : R (t.commit s) :=
  commit_of hs fun a s' ht => hQ a s' (h.1 a s' ht)

/-- A result that a transaction commits with. -/
lemma result?_eq_some {t : Tx σ ε α} {a : α} :
    t.result? s = some a ↔ ∃ s', t s = .ok (a, s') := by
  unfold result?
  cases h : t s with
  | error e => simp
  | ok p =>
    obtain ⟨b, s'⟩ := p
    simp

end Tx

end AgenticMesh
