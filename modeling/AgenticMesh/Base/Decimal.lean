import Mathlib.Data.Int.Basic
import Mathlib.Data.List.TakeWhile
import AgenticMesh.Base.Text

/-!
# Decimal numbers

A decimal number is a sign, a coefficient and an exponent of ten; numbers of the same
value with different exponents are different, as trailing zeros are kept.  It is
printed in plain digits where that takes few zeros and in scientific notation
otherwise, and a text is read with an optional sign, fraction and exponent.  Reading
undoes printing.
-/

namespace AgenticMesh

/-- `coefficient * 10 ^ exponent` with a sign. -/
structure Decimal where
  negative : Bool
  coefficient : ℕ
  exponent : ℤ
deriving DecidableEq

namespace Decimal

/-! ## Printing -/

/-- The digits of the coefficient. -/
def digits (d : Decimal) : List Char := Nat.toDigits 10 d.coefficient

/-- The exponent of the first digit. -/
def adjusted (d : Decimal) : ℤ := d.exponent + d.digits.length - 1

/-- The exponent of a number in scientific notation. -/
def exponentText (e : ℤ) : List Char :=
  'E' :: (if e < 0 then '-' else '+') :: Nat.toDigits 10 e.natAbs

/-- An integer part, a fraction and an exponent. -/
def numeral (integer fraction : List Char) (exponent : Option ℤ) : List Char :=
  integer ++ (if fraction = [] then [] else '.' :: fraction) ++
    (exponent.map exponentText).getD []

/-- The digits after the point when a number is printed in plain digits. -/
def places (d : Decimal) : ℕ := (-d.exponent).toNat

/-- The number is printed in plain digits. -/
def Plain (d : Decimal) : Prop := d.exponent ≤ 0 ∧ -6 ≤ d.adjusted

instance (d : Decimal) : Decidable d.Plain := inferInstanceAs (Decidable (_ ∧ _))

/-- The text of a number without its sign. -/
def unsigned (d : Decimal) : List Char :=
  if d.Plain then
    if d.places < d.digits.length then
      numeral (d.digits.take (d.digits.length - d.places))
        (d.digits.drop (d.digits.length - d.places)) none
    else numeral ['0'] (List.replicate (d.places - d.digits.length) '0' ++ d.digits) none
  else numeral (d.digits.take 1) (d.digits.drop 1) (some d.adjusted)

/-- The text of a number. -/
def text (d : Decimal) : List Char := (if d.negative then ['-'] else []) ++ d.unsigned

/-! ## Reading -/

/-- An exponent after its letter, if there is one. -/
def exponent? : List Char → Option ℤ
  | [] => some 0
  | _ :: '-' :: cs =>
    if cs ≠ [] ∧ cs.all Char.isDigit = true then some (-(Nat.ofDigitChars 10 cs 0 : ℤ)) else none
  | _ :: '+' :: cs =>
    if cs ≠ [] ∧ cs.all Char.isDigit = true then some (Nat.ofDigitChars 10 cs 0 : ℤ) else none
  | _ :: cs =>
    if cs ≠ [] ∧ cs.all Char.isDigit = true then some (Nat.ofDigitChars 10 cs 0 : ℤ) else none

/-- The letter of an exponent. -/
def isExponentLetter (c : Char) : Bool := c == 'e' || c == 'E'

/-- The sign of a text and what follows it. -/
def sign : List Char → Bool × List Char
  | '-' :: cs => (true, cs)
  | '+' :: cs => (false, cs)
  | cs => (false, cs)

/-- Read `[sign] digits [. digits] [E [sign] digits]` with a digit before the exponent. -/
def parse (cs : List Char) : Option Decimal :=
  let body := (sign cs).2
  let mantissa := body.takeWhile fun c => !isExponentLetter c
  let exponentPart := body.dropWhile fun c => !isExponentLetter c
  let integer := mantissa.takeWhile fun c => c != '.'
  let fraction := (mantissa.dropWhile fun c => c != '.').drop 1
  if integer ++ fraction ≠ [] ∧ (integer ++ fraction).all Char.isDigit = true then
    (exponent? exponentPart).map fun e =>
      ⟨(sign cs).1, Nat.ofDigitChars 10 (integer ++ fraction) 0, e - fraction.length⟩
  else none

/-! ## Reading what is printed -/

lemma isDigit_digits {d : Decimal} {c : Char} (h : c ∈ d.digits) : c.isDigit = true :=
  Nat.isDigit_of_mem_toDigits (by omega) (by omega) h

lemma digits_ne_nil (d : Decimal) : d.digits ≠ [] := Nat.toDigits_ne_nil

lemma length_digits_pos (d : Decimal) : 0 < d.digits.length :=
  List.length_pos_iff.2 d.digits_ne_nil

/-- A digit is no sign, point or letter. -/
lemma ne_of_isDigit {c d : Char} (hc : c.isDigit = true) (hd : d.isDigit = false) : c ≠ d := by
  rintro rfl
  rw [hc] at hd
  cases hd

lemma isExponentLetter_of_isDigit {c : Char} (h : c.isDigit = true) :
    isExponentLetter c = false := by
  have he : c ≠ 'e' := ne_of_isDigit h (by decide)
  have hE : c ≠ 'E' := ne_of_isDigit h (by decide)
  simp [isExponentLetter, he, hE]

/-- The exponent that is printed is read. -/
lemma exponent?_text (e : Option ℤ) :
    exponent? ((e.map exponentText).getD []) = some (e.getD 0) := by
  cases e with
  | none => rfl
  | some e =>
    have hdigits : Nat.toDigits 10 e.natAbs ≠ [] ∧
        (Nat.toDigits 10 e.natAbs).all Char.isDigit = true :=
      ⟨Nat.toDigits_ne_nil, List.all_eq_true.2 fun c hc =>
        Nat.isDigit_of_mem_toDigits (by omega) (by omega) hc⟩
    simp only [Option.map_some, Option.getD_some, exponentText]
    by_cases he : e < 0
    · rw [if_pos he, exponent?, if_pos hdigits, Nat.ofDigitChars_ten_toDigits]
      congr 1
      omega
    · rw [if_neg he, exponent?, if_pos hdigits, Nat.ofDigitChars_ten_toDigits]
      congr 1
      omega

/-- The text of a number without a sign starts with a digit. -/
lemma sign_of_isDigit {c : Char} {cs : List Char} (h : c.isDigit = true) :
    sign (c :: cs) = (false, c :: cs) := by
  have hminus : c ≠ '-' := ne_of_isDigit h (by decide)
  have hplus : c ≠ '+' := ne_of_isDigit h (by decide)
  unfold sign
  split
  · next heq => exact absurd (List.cons.inj heq).1 hminus
  · next heq => exact absurd (List.cons.inj heq).1 hplus
  · rfl

/-- The parts of a numeral are read back. -/
lemma parse_numeral {integer fraction : List Char} (hne : integer ≠ [])
    (hinteger : ∀ c ∈ integer, c.isDigit = true) (hfraction : ∀ c ∈ fraction, c.isDigit = true)
    (negative : Bool) (e : Option ℤ) :
    parse ((if negative then ['-'] else []) ++ numeral integer fraction e) =
      some ⟨negative, Nat.ofDigitChars 10 (integer ++ fraction) 0, e.getD 0 - fraction.length⟩ := by
  have hsign : sign ((if negative then ['-'] else []) ++ numeral integer fraction e) =
      (negative, numeral integer fraction e) := by
    cases negative with
    | true => rfl
    | false =>
      obtain ⟨c, cs, rfl⟩ := List.exists_cons_of_ne_nil hne
      exact sign_of_isDigit (hinteger c List.mem_cons_self)
  -- The point and the digits before the exponent.
  have hmantissa : ∀ c ∈ integer ++ (if fraction = [] then [] else '.' :: fraction),
      (!isExponentLetter c) = true := by
    intro c hc
    rcases List.mem_append.1 hc with hc | hc
    · simp [isExponentLetter_of_isDigit (hinteger c hc)]
    · split at hc
      · exact absurd hc List.not_mem_nil
      · rcases List.mem_cons.1 hc with rfl | hc
        · decide
        · simp [isExponentLetter_of_isDigit (hfraction c hc)]
  have hexponent : ((e.map exponentText).getD []).takeWhile (fun c => !isExponentLetter c) = [] ∧
      ((e.map exponentText).getD []).dropWhile (fun c => !isExponentLetter c) =
        (e.map exponentText).getD [] := by
    cases e with
    | none => exact ⟨rfl, rfl⟩
    | some e => exact ⟨rfl, rfl⟩
  have htake : (numeral integer fraction e).takeWhile (fun c => !isExponentLetter c) =
      integer ++ (if fraction = [] then [] else '.' :: fraction) := by
    rw [numeral, List.takeWhile_append_of_pos hmantissa, hexponent.1, List.append_nil]
  have hdrop : (numeral integer fraction e).dropWhile (fun c => !isExponentLetter c) =
      (e.map exponentText).getD [] := by
    rw [numeral, List.dropWhile_append_of_pos hmantissa, hexponent.2]
  have hpoint : ∀ c ∈ integer, (c != '.') = true := by
    intro c hc
    simpa using ne_of_isDigit (hinteger c hc) (by decide : ('.' : Char).isDigit = false)
  have hparts : (integer ++ (if fraction = [] then [] else '.' :: fraction)).takeWhile
        (fun c => c != '.') = integer ∧
      ((integer ++ (if fraction = [] then [] else '.' :: fraction)).dropWhile
        (fun c => c != '.')).drop 1 = fraction := by
    rw [List.takeWhile_append_of_pos hpoint, List.dropWhile_append_of_pos hpoint]
    split
    · next hnil => simp [hnil]
    · simp
  have hall : integer ++ fraction ≠ [] ∧ (integer ++ fraction).all Char.isDigit = true := by
    refine ⟨by simp [hne], List.all_eq_true.2 fun c hc => ?_⟩
    rcases List.mem_append.1 hc with hc | hc
    · exact hinteger c hc
    · exact hfraction c hc
  simp only [parse, hsign, htake, hdrop, hparts.1, hparts.2]
  rw [if_pos hall, exponent?_text]
  rfl

lemma take_digits_ne_nil (d : Decimal) {n : ℕ} (h : 0 < n) : d.digits.take n ≠ [] := by
  have hpos := d.length_digits_pos
  intro hnil
  have hlength := congrArg List.length hnil
  rw [List.length_take, List.length_nil] at hlength
  omega

/-- **Reading undoes printing.** -/
theorem parse_text (d : Decimal) : parse d.text = some d := by
  have hvalue : Nat.ofDigitChars 10 d.digits 0 = d.coefficient := Nat.ofDigitChars_ten_toDigits
  have hpos := d.length_digits_pos
  have hread : ∀ e : ℤ, e = d.exponent →
      some (⟨d.negative, d.coefficient, e⟩ : Decimal) = some d := by
    rintro e rfl
    rfl
  have htake : ∀ n, ∀ c ∈ d.digits.take n, c.isDigit = true :=
    fun n c hc => isDigit_digits (List.mem_of_mem_take hc)
  have hdrop : ∀ n, ∀ c ∈ d.digits.drop n, c.isDigit = true :=
    fun n c hc => isDigit_digits (List.mem_of_mem_drop hc)
  unfold text unsigned
  by_cases hplain : d.Plain
  · have hexponent : d.exponent = -(d.places : ℤ) := by
      have := hplain.1
      simp only [places]
      omega
    rw [if_pos hplain]
    by_cases hlt : d.places < d.digits.length
    · rw [if_pos hlt, parse_numeral (d.take_digits_ne_nil (by omega)) (htake _) (hdrop _),
        List.take_append_drop, hvalue, List.length_drop]
      refine hread _ ?_
      simp only [Option.getD_none]
      omega
    · have hzeros : ∀ c ∈ List.replicate (d.places - d.digits.length) '0' ++ d.digits,
          c.isDigit = true := by
        intro c hc
        rcases List.mem_append.1 hc with hc | hc
        · rw [List.eq_of_mem_replicate hc]
          decide
        · exact isDigit_digits hc
      have hzero : ∀ c ∈ ['0'], c.isDigit = true := by
        intro c hc
        rw [List.mem_singleton.1 hc]
        decide
      rw [if_neg hlt, parse_numeral (by simp) hzero hzeros, Nat.ofDigitChars_append,
        Nat.ofDigitChars_append, Nat.ofDigitChars_replicate_zero]
      have hnone : Nat.ofDigitChars 10 ['0'] 0 = 0 := by decide
      rw [hnone, Nat.mul_zero, hvalue, List.length_append, List.length_replicate]
      refine hread _ ?_
      simp only [Option.getD_none]
      omega
  · rw [if_neg hplain, parse_numeral (d.take_digits_ne_nil (by omega)) (htake _) (hdrop _),
      List.take_append_drop, hvalue, List.length_drop]
    refine hread _ ?_
    simp only [Option.getD_some, adjusted]
    omega

/-! ## The characters of a text -/

/-- A digit, a sign, the point or the letter of an exponent. -/
def isNumeralChar (c : Char) : Bool :=
  c.isDigit || c == '-' || c == '+' || c == '.' || c == 'E'

lemma isNumeralChar_of_isDigit {c : Char} (h : c.isDigit = true) : isNumeralChar c = true := by
  simp [isNumeralChar, h]

lemma isNumeralChar_numeral {integer fraction : List Char} {e : Option ℤ}
    (hinteger : ∀ c ∈ integer, c.isDigit = true) (hfraction : ∀ c ∈ fraction, c.isDigit = true) :
    ∀ c ∈ numeral integer fraction e, isNumeralChar c = true := by
  intro c hc
  rcases List.mem_append.1 hc with hc | hc
  · rcases List.mem_append.1 hc with hc | hc
    · exact isNumeralChar_of_isDigit (hinteger c hc)
    · split at hc
      · exact absurd hc List.not_mem_nil
      · rcases List.mem_cons.1 hc with rfl | hc
        · decide
        · exact isNumeralChar_of_isDigit (hfraction c hc)
  · cases e with
    | none => exact absurd hc List.not_mem_nil
    | some e =>
      simp only [Option.map_some, Option.getD_some, exponentText, List.mem_cons] at hc
      rcases hc with rfl | rfl | hc
      · decide
      · split <;> decide
      · exact isNumeralChar_of_isDigit (Nat.isDigit_of_mem_toDigits (by omega) (by omega) hc)

/-- A text holds all digits of the coefficient. -/
lemma unsigned_chars (d : Decimal) :
    (∀ c ∈ d.unsigned, isNumeralChar c = true) ∧ d.digits.length ≤ d.unsigned.length := by
  have htake : ∀ n, ∀ c ∈ d.digits.take n, c.isDigit = true :=
    fun n c hc => isDigit_digits (List.mem_of_mem_take hc)
  have hdrop : ∀ n, ∀ c ∈ d.digits.drop n, c.isDigit = true :=
    fun n c hc => isDigit_digits (List.mem_of_mem_drop hc)
  have hlength : ∀ integer fraction e,
      integer.length + fraction.length ≤ (numeral integer fraction e).length := by
    intro integer fraction e
    simp only [numeral, List.length_append]
    split
    · next hnil => simp [hnil]
    · simp only [List.length_cons]
      omega
  unfold unsigned
  split
  · split
    · refine ⟨isNumeralChar_numeral (htake _) (hdrop _), le_trans ?_ (hlength _ _ _)⟩
      rw [← List.length_append, List.take_append_drop]
    · refine ⟨isNumeralChar_numeral ?_ ?_, le_trans ?_ (hlength _ _ _)⟩
      · intro c hc
        rw [List.mem_singleton.1 hc]
        decide
      · intro c hc
        rcases List.mem_append.1 hc with hc | hc
        · rw [List.eq_of_mem_replicate hc]
          decide
        · exact isDigit_digits hc
      · simp only [List.length_append]
        omega
  · refine ⟨isNumeralChar_numeral (htake _) (hdrop _), le_trans ?_ (hlength _ _ _)⟩
    rw [← List.length_append, List.take_append_drop]

lemma isNumeralChar_text {d : Decimal} {c : Char} (h : c ∈ d.text) : isNumeralChar c = true := by
  rcases List.mem_append.1 h with h | h
  · split at h
    · rw [List.mem_singleton.1 h]
      decide
    · exact absurd h List.not_mem_nil
  · exact d.unsigned_chars.1 c h

lemma length_digits_le (d : Decimal) : d.digits.length ≤ d.text.length := by
  rw [text, List.length_append]
  have := d.unsigned_chars.2
  omega

end Decimal

end AgenticMesh
