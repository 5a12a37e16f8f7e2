import Mathlib.Tactic.TypeStar
import Mathlib.Data.Nat.Notation
import Mathlib.Logic.Basic

/-!
# Programs that may stop anywhere

A program on worlds `W` asks its environment for an answer in `E` at every
step, changes the world and goes on; it ends with a result or an error.  The
environment decides what a process cannot: what the outside answers, whether a
statement fails, and, by not answering at all, that the process dies between
two steps.

`Program.Holds A I Q p w` says that `I` holds after every step of the program
from `w`, whatever the environment answers as long as its answers meet `A`, and
that `Q` holds of its outcome.  The rules of the section on `Holds` decompose it
along the program; `Holds.run` is what it says about runs that end or stop.
-/

namespace AgenticMesh

/-- A program with errors `ε` and results `α`. -/
inductive Program (W E ε α : Type) where
  | done (a : α)
  | raise (e : ε)
  /-- One step: the world changes, and the rest depends on the answer and the old world. -/
  | step (act : E → W → W) (next : E → W → Program W E ε α)

namespace Program

variable {W E ε ε' α β : Type}

def bind : Program W E ε α → (α → Program W E ε β) → Program W E ε β
  | done a, f => f a
  | raise e, _ => raise e
  | step act next, f => step act fun e w => (next e w).bind f

/-- Go on with a handler after an error. -/
def catchWith : Program W E ε α → (ε → Program W E ε' α) → Program W E ε' α
  | done a, _ => done a
  | raise e, f => f e
  | step act next, f => step act fun e w => (next e w).catchWith f

instance : Monad (Program W E ε) where
  pure := done
  bind := bind

instance : MonadExceptOf ε (Program W E ε) where
  throw := raise
  tryCatch := catchWith

def ofExcept : Except ε α → Program W E ε α
  | .ok a => done a
  | .error e => raise e

/-- One step with its outcome. -/
def ask (f : E → W → Except ε α × W) : Program W E ε α :=
  step (fun e w => (f e w).2) fun e w => ofExcept (f e w).1

/-- Raise an error unless a condition holds. -/
def require (p : Prop) [Decidable p] (e : ε) : Program W E ε Unit :=
  if p then done () else raise e

/-- The value of an optional result, or an error. -/
def demand (a : Option α) (e : ε) : Program W E ε α :=
  match a with
  | some a => done a
  | none => raise e

/-- A program for each element of a list, in order. -/
def forEach (f : β → Program W E ε Unit) : List β → Program W E ε Unit
  | [] => done ()
  | b :: bs => (f b).bind fun _ => forEach f bs

/-! ## Runs -/

/-- The program against a list of answers; where the list ends the process stops. -/
def run : Program W E ε α → List E → W → Option (Except ε α) × W
  | done a, _, w => (some (.ok a), w)
  | raise e, _, w => (some (.error e), w)
  | step _ _, [], w => (none, w)
  | step act next, e :: es, w => (next e w).run es (act e w)

/-- The program in an environment that gives one answer throughout. -/
def eval (e : E) : Program W E ε α → W → Except ε α × W
  | done a, w => (.ok a, w)
  | raise x, w => (.error x, w)
  | step act next, w => (next e w).eval e (act e w)

section Eval

variable {e : E} {p : Program W E ε α} {w w' : W}

@[simp] lemma eval_pure {a : α} : (pure a : Program W E ε α).eval e w = (.ok a, w) := rfl

@[simp] lemma eval_throw {x : ε} : (throw x : Program W E ε α).eval e w = (.error x, w) := rfl

@[simp] lemma eval_ofExcept {r : Except ε α} :
    (ofExcept r : Program W E ε α).eval e w = (r, w) := by
  cases r <;> rfl

@[simp] lemma eval_ask {f : E → W → Except ε α × W} : (ask f).eval e w = f e w := by
  simp [ask, eval]

lemma eval_require_of {c : Prop} [Decidable c] {x : ε} (hc : c) :
    (require c x : Program W E ε Unit).eval e w = (.ok (), w) := by
  simp [require, hc, eval]

lemma eval_require_not {c : Prop} [Decidable c] {x : ε} (hc : ¬ c) :
    (require c x : Program W E ε Unit).eval e w = (.error x, w) := by
  simp [require, hc, eval]

lemma eval_bind {f : α → Program W E ε β} :
    (p >>= f).eval e w = match p.eval e w with
      | (.ok a, w') => (f a).eval e w'
      | (.error x, w') => (.error x, w') := by
  change (p.bind f).eval e w = _
  induction p generalizing w with
  | done a => rfl
  | raise x => rfl
  | step act next ih => exact ih e w

lemma eval_bind_of_ok {f : α → Program W E ε β} {a : α} (h : p.eval e w = (.ok a, w')) :
    (p >>= f).eval e w = (f a).eval e w' := by
  rw [eval_bind, h]

lemma eval_bind_of_error {f : α → Program W E ε β} {x : ε} (h : p.eval e w = (.error x, w')) :
    (p >>= f).eval e w = (.error x, w') := by
  rw [eval_bind, h]

lemma eval_tryCatch {f : ε → Program W E ε α} :
    (tryCatch p f).eval e w = match p.eval e w with
      | (.ok a, w') => (.ok a, w')
      | (.error x, w') => (f x).eval e w' := by
  change (p.catchWith f).eval e w = _
  induction p generalizing w with
  | done a => rfl
  | raise x => rfl
  | step act next ih => exact ih e w

lemma eval_tryCatch_of_ok {f : ε → Program W E ε α} {a : α} (h : (p.eval e w).1 = .ok a) :
    (tryCatch p f).eval e w = p.eval e w := by
  rw [eval_tryCatch]
  cases hres : p.eval e w with
  | mk res w' =>
    rw [hres] at h
    cases h
    rfl

lemma eval_tryCatch_of_error {f : ε → Program W E ε α} {x : ε}
    (h : p.eval e w = (.error x, w')) : (tryCatch p f).eval e w = (f x).eval e w' := by
  rw [eval_tryCatch, h]

lemma eval_forEach_cons {f : β → Program W E ε Unit} {b : β} {l : List β} :
    (forEach f (b :: l)).eval e w = match (f b).eval e w with
      | (.ok _, w') => (forEach f l).eval e w'
      | (.error x, w') => (.error x, w') := by
  change (f b >>= fun _ => forEach f l).eval e w = _
  rw [eval_bind]
  cases (f b).eval e w with
  | mk res w' => cases res <;> rfl

/-- A loop whose turns all succeed. -/
lemma eval_forEach_ok {f : β → Program W E ε Unit} {I : W → Prop} {l : List β}
    (h : ∀ b ∈ l, ∀ w, I w → ((f b).eval e w).1 = .ok () ∧ I ((f b).eval e w).2) (hw : I w) :
    ((forEach f l).eval e w).1 = .ok () ∧ I ((forEach f l).eval e w).2 := by
  induction l generalizing w with
  | nil => exact ⟨rfl, hw⟩
  | cons b l ih =>
    obtain ⟨hok, hw'⟩ := h b List.mem_cons_self w hw
    rw [eval_forEach_cons]
    cases hres : (f b).eval e w with
    | mk res w' =>
      rw [hres] at hok hw'
      cases hok
      exact ih (fun c hc => h c (List.mem_cons_of_mem b hc)) hw'

/-- A loop with a turn that does not succeed. -/
lemma eval_forEach_ne_ok {f : β → Program W E ε Unit} {I : W → Prop} {l : List β} {b : β}
    (hb : b ∈ l) (herr : ∀ w, I w → ((f b).eval e w).1 ≠ .ok ())
    (hI : ∀ c ∈ l, ∀ w, I w → I ((f c).eval e w).2) (hw : I w) :
    ((forEach f l).eval e w).1 ≠ .ok () := by
  induction l generalizing w with
  | nil => simp at hb
  | cons c l ih =>
    have hc := hI c List.mem_cons_self w hw
    rw [eval_forEach_cons]
    cases hres : (f c).eval e w with
    | mk res w' =>
      rw [hres] at hc
      cases res with
      | error x => simp
      | ok a =>
        rcases List.mem_cons.1 hb with rfl | hb
        · exact absurd (by rw [hres]) (herr w hw)
        · exact ih hb (fun d hd => hI d (List.mem_cons_of_mem c hd)) hc

end Eval

/-! ## What holds of every run -/

/-- Under answers that meet `A`, `I` holds after every step and `Q` of the outcome. -/
def Holds (A : E → Prop) (I : W → Prop) (Q : Except ε α → W → Prop) : Program W E ε α → W → Prop
  | done a, w => Q (.ok a) w
  | raise e, w => Q (.error e) w
  | step act next, w => ∀ e, A e → I (act e w) ∧ Holds A I Q (next e w) (act e w)

section Holds

variable {A : E → Prop} {I J : W → Prop} {Q R : Except ε α → W → Prop} {p : Program W E ε α} {w : W}

lemma Holds.mono (h : Holds A I Q p w) (hI : ∀ w, I w → J w) (hQ : ∀ r w, Q r w → R r w) :
    Holds A J R p w := by
  induction p generalizing w with
  | done a => exact hQ _ _ h
  | raise e => exact hQ _ _ h
  | step act next ih => exact fun e he => ⟨hI _ (h e he).1, ih e w (h e he).2⟩

@[simp] lemma holds_pure {a : α} :
    Holds A I Q (pure a : Program W E ε α) w ↔ Q (.ok a) w := Iff.rfl

@[simp] lemma holds_throw {e : ε} :
    Holds A I Q (throw e : Program W E ε α) w ↔ Q (.error e) w := Iff.rfl

@[simp] lemma holds_ofExcept {r : Except ε α} :
    Holds A I Q (ofExcept r : Program W E ε α) w ↔ Q r w := by
  cases r <;> rfl

/-- **Steps.** -/
@[simp] theorem holds_ask {f : E → W → Except ε α × W} :
    Holds A I Q (ask f) w ↔ ∀ e, A e → I (f e w).2 ∧ Q (f e w).1 (f e w).2 := by
  simp only [ask, Holds, holds_ofExcept]

@[simp] lemma holds_require {Q : Except ε Unit → W → Prop} {c : Prop} [Decidable c] {e : ε} :
    Holds A I Q (require c e : Program W E ε Unit) w ↔
      (c → Q (.ok ()) w) ∧ (¬ c → Q (.error e) w) := by
  unfold require
  by_cases hc : c <;> simp [hc, Holds]

@[simp] lemma holds_demand {o : Option α} {e : ε} :
    Holds A I Q (demand o e : Program W E ε α) w ↔
      (∀ a, o = some a → Q (.ok a) w) ∧ (o = none → Q (.error e) w) := by
  unfold demand
  cases o <;> simp [Holds]

/-- **Sequence.** -/
theorem holds_bind {R : Except ε β → W → Prop} {f : α → Program W E ε β} :
    Holds A I R (p >>= f) w ↔
      Holds A I (fun r w => match r with
        | .ok a => Holds A I R (f a) w
        | .error e => R (.error e) w) p w := by
  change Holds A I R (p.bind f) w ↔ _
  induction p generalizing w with
  | done a => exact Iff.rfl
  | raise e => exact Iff.rfl
  | step act next ih =>
    exact forall₂_congr fun e _ => and_congr_right fun _ => ih e w

/-- **Handlers.** -/
theorem holds_tryCatch {f : ε → Program W E ε α} :
    Holds A I Q (tryCatch p f) w ↔
      Holds A I (fun r w => match r with
        | .ok a => Q (.ok a) w
        | .error e => Holds A I Q (f e) w) p w := by
  change Holds A I Q (p.catchWith f) w ↔ _
  induction p generalizing w with
  | done a => exact Iff.rfl
  | raise e => exact Iff.rfl
  | step act next ih =>
    exact forall₂_congr fun e _ => and_congr_right fun _ => ih e w

/-- **Sequence**, with the first program known by what it does. -/
theorem Holds.bind {R : Except ε β → W → Prop} {f : α → Program W E ε β} (h : Holds A I Q p w)
    (hok : ∀ a w, Q (.ok a) w → Holds A I R (f a) w)
    (herr : ∀ e w, Q (.error e) w → R (.error e) w) :
    Holds A I R (p >>= f) w := by
  refine holds_bind.2 (h.mono (fun _ hI => hI) ?_)
  rintro (e | a) w hQ
  · exact herr e w hQ
  · exact hok a w hQ

/-- **Handlers**, with the first program known by what it does. -/
theorem Holds.tryCatch {f : ε → Program W E ε α} (h : Holds A I Q p w)
    (hok : ∀ a w, Q (.ok a) w → R (.ok a) w) (herr : ∀ e w, Q (.error e) w → Holds A I R (f e) w) :
    Holds A I R (tryCatch p f) w := by
  refine holds_tryCatch.2 (h.mono (fun _ hI => hI) ?_)
  rintro (e | a) w hQ
  · exact herr e w hQ
  · exact hok a w hQ

/-- **Runs.** What a run of a program reaches, whether it ends or stops. -/
theorem Holds.run (hw : I w) (h : Holds A I Q p w) (es : List E) (hes : ∀ e ∈ es, A e) :
    I (p.run es w).2 ∧ ∀ r, (p.run es w).1 = some r → Q r (p.run es w).2 := by
  induction p generalizing w es with
  | done a =>
    refine ⟨hw, ?_⟩
    rintro _ ⟨⟩
    exact h
  | raise e =>
    refine ⟨hw, ?_⟩
    rintro _ ⟨⟩
    exact h
  | step act next ih =>
    cases es with
    | nil => exact ⟨hw, fun r hr => by simp [Program.run] at hr⟩
    | cons e es =>
      have he := h e (hes e List.mem_cons_self)
      exact ih e w he.1 he.2 es fun x hx => hes x (List.mem_cons_of_mem e hx)

/-- What the run with one answer throughout reaches. -/
lemma Holds.eval (hw : I w) (h : Holds A I Q p w) {e : E} (he : A e) :
    I (p.eval e w).2 ∧ Q (p.eval e w).1 (p.eval e w).2 := by
  induction p generalizing w with
  | done a => exact ⟨hw, h⟩
  | raise x => exact ⟨hw, h⟩
  | step act next ih => exact ih e w (h e he).1 (h e he).2

end Holds

/-! ## Programs that keep an invariant -/

/-- The program keeps `I` at every step, wherever it starts. -/
def Keeps (A : E → Prop) (I : W → Prop) (p : Program W E ε α) : Prop :=
  ∀ w, I w → Holds A I (fun _ w' => I w') p w

section Keeps

variable {A : E → Prop} {I : W → Prop} {p : Program W E ε α}

lemma keeps_pure {a : α} : Keeps A I (pure a : Program W E ε α) := fun _ h => h

lemma keeps_throw {x : ε} : Keeps A I (throw x : Program W E ε α) := fun _ h => h

lemma keeps_require {c : Prop} [Decidable c] {x : ε} :
    Keeps A I (require c x : Program W E ε Unit) :=
  fun _ h => holds_require.2 ⟨fun _ => h, fun _ => h⟩

lemma keeps_demand {o : Option α} {x : ε} : Keeps A I (demand o x : Program W E ε α) :=
  fun _ h => holds_demand.2 ⟨fun _ _ => h, fun _ => h⟩

lemma keeps_ask {f : E → W → Except ε α × W} (h : ∀ e w, A e → I w → I (f e w).2) :
    Keeps A I (ask f) :=
  fun w hw => holds_ask.2 fun e he => ⟨h e w he hw, h e w he hw⟩

lemma Keeps.bind {f : α → Program W E ε β} (hp : Keeps A I p) (hf : ∀ a, Keeps A I (f a)) :
    Keeps A I (p >>= f) :=
  fun w hw => (hp w hw).bind (fun a w' h => hf a w' h) fun _ _ h => h

lemma Keeps.tryCatch {f : ε → Program W E ε α} (hp : Keeps A I p) (hf : ∀ x, Keeps A I (f x)) :
    Keeps A I (tryCatch p f) :=
  fun w hw => (hp w hw).tryCatch (fun _ _ h => h) fun x w' h => hf x w' h

lemma keeps_forEach {f : β → Program W E ε Unit} {l : List β} (h : ∀ b ∈ l, Keeps A I (f b)) :
    Keeps A I (forEach f l) := by
  induction l with
  | nil => exact keeps_pure
  | cons b l ih =>
    exact Keeps.bind (h b List.mem_cons_self) fun _ =>
      ih fun c hc => h c (List.mem_cons_of_mem b hc)

end Keeps

end Program

end AgenticMesh
