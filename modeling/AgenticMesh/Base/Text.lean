import Mathlib.Data.List.Basic
import Mathlib.Data.List.DropRight
import Mathlib.Data.String.Basic

/-!
# Text as the stores read it

Every store strips its text arguments and rejects what is left empty, too long
or outside the identifier alphabet.  `strip` is Python's `str.strip`, which
removes the Unicode white space of `isSpace` from both ends.
-/

namespace AgenticMesh

/-- The characters for which Python's `str.isspace` holds. -/
def isSpace (c : Char) : Bool :=
  let n := c.toNat
  (9 ≤ n && n ≤ 13) || (28 ≤ n && n ≤ 32) || n == 0x85 || n == 0xA0 || n == 0x1680 ||
    (0x2000 ≤ n && n ≤ 0x200A) || n == 0x2028 || n == 0x2029 || n == 0x202F || n == 0x205F ||
    n == 0x3000

/-- `str.strip()`. -/
def strip (s : String) : String :=
  String.ofList (((s.toList.dropWhile isSpace).reverse.dropWhile isSpace).reverse)

/-- The alphabet `[A-Za-z0-9._:-]` of an identifier. -/
def isIdentifierChar (c : Char) : Bool :=
  c.isAlphanum || c == '.' || c == '_' || c == ':' || c == '-'

/-- `re.fullmatch(r"^[A-Za-z0-9._:-]{1,128}$", s)`. -/
def isIdentifier (s : String) : Bool :=
  1 ≤ s.toList.length && s.toList.length ≤ 128 && s.toList.all isIdentifierChar

lemma isAlphanum_of_isLower {c : Char} (h : c.isLower = true) : c.isAlphanum = true := by
  change ((c.isUpper || c.isLower) || c.isDigit) = true
  rw [h, Bool.or_true, Bool.true_or]

lemma isAlphanum_of_isDigit {c : Char} (h : c.isDigit = true) : c.isAlphanum = true := by
  rw [Char.isAlphanum, h, Bool.or_true]

lemma isSpace_eq_false_of_isIdentifierChar {c : Char} (h : isIdentifierChar c = true) :
    isSpace c = false := by
  have hrange : 45 ≤ c.toNat ∧ c.toNat ≤ 122 := by
    simp only [isIdentifierChar, Char.isAlphanum] at h
    delta Char.isAlpha Char.isUpper Char.isLower at h
    simp only [Char.isDigit, Bool.or_eq_true, Bool.and_eq_true, decide_eq_true_eq, beq_iff_eq,
      UInt32.le_iff_toNat_le] at h
    change 45 ≤ c.val.toNat ∧ c.val.toNat ≤ 122
    have hA : 'A'.val.toNat = 65 := rfl
    have hZ : 'Z'.val.toNat = 90 := rfl
    have ha : 'a'.val.toNat = 97 := rfl
    have hz : 'z'.val.toNat = 122 := rfl
    have h0 : '0'.val.toNat = 48 := rfl
    have h9 : '9'.val.toNat = 57 := rfl
    rcases h with ((((h | h) | h) | rfl) | rfl) | rfl
    · omega
    · omega
    · subst h
      decide
    · decide
    · decide
    · decide
  simp only [isSpace, Bool.or_eq_false_iff, Bool.and_eq_false_iff, decide_eq_false_iff_not,
    beq_eq_false_iff_ne]
  omega

/-- A text without white space is its own strip. -/
lemma strip_eq_self {s : String} (h : ∀ c ∈ s.toList, isSpace c = false) : strip s = s := by
  have hdrop : ∀ l : List Char, (∀ c ∈ l, isSpace c = false) → l.dropWhile isSpace = l := by
    intro l hl
    cases l with
    | nil => rfl
    | cons c l => rw [List.dropWhile_cons_of_neg (by simpa using hl c (by simp))]
  unfold strip
  rw [hdrop _ h, hdrop _ (by simpa using h), List.reverse_reverse, String.ofList_toList]

/-- The white space at both ends of a text, removed from its characters. -/
lemma toList_strip (s : String) :
    (strip s).toList = (s.toList.dropWhile isSpace).rdropWhile isSpace := by
  rw [strip, String.toList_ofList, List.rdropWhile]

/-- Stripping a second time changes nothing. -/
lemma strip_strip (s : String) : strip (strip s) = strip s := by
  have hhead : (strip s).toList.dropWhile isSpace = (strip s).toList := by
    rw [toList_strip]
    cases hd : s.toList.dropWhile isSpace with
    | nil => simp
    | cons c l =>
      have hc : isSpace c = false := by
        have := List.head?_dropWhile_not isSpace s.toList
        rw [hd] at this
        simpa using this
      cases hr : (c :: l).rdropWhile isSpace with
      | nil => rfl
      | cons d m =>
        obtain ⟨n, hn⟩ := List.rdropWhile_prefix isSpace (l := c :: l)
        rw [hr] at hn
        obtain rfl : d = c := (List.cons.inj hn).1
        rw [List.dropWhile_cons_of_neg (by simp [hc])]
  have hlast : (strip s).toList.rdropWhile isSpace = (strip s).toList := by
    rw [toList_strip, List.rdropWhile_idempotent]
  rw [strip, hhead]
  rw [List.rdropWhile] at hlast
  rw [hlast, String.ofList_toList]

/-- A stripped text that must not be empty. -/
def required (s : String) : Option String :=
  if strip s = "" then none else some (strip s)

lemma strip_of_required {s t : String} (h : required s = some t) : strip s = t := by
  rw [required] at h
  split at h
  · cases h
  · exact Option.some.inj h

/-- A text without the character `U+0000`; the database takes no other. -/
def hasNoNul (s : String) : Bool := s.toList.all fun c => c ≠ Char.ofNat 0

lemma hasNoNul_strip {s : String} (h : hasNoNul s = true) : hasNoNul (strip s) = true := by
  simp only [hasNoNul, List.all_eq_true, decide_eq_true_eq] at h ⊢
  intro c hc
  rw [toList_strip] at hc
  have hmem : c ∈ s.toList.dropWhile isSpace := (List.rdropWhile_prefix _ _).subset hc
  exact h c ((List.dropWhile_sublist _).subset hmem)

lemma required_idem {s t : String} (h : required s = some t) : required t = some t := by
  unfold required at h
  split at h
  · simp at h
  · next hne =>
    obtain rfl := Option.some.inj h
    rw [required, strip_strip, if_neg hne]

/-- A stripped text that must not be empty or longer than `maximum`. -/
def bounded (maximum : ℕ) (s : String) : Option String :=
  if strip s = "" ∨ maximum < (strip s).toList.length then none else some (strip s)

lemma bounded_idem {n : ℕ} {s t : String} (h : bounded n s = some t) : bounded n t = some t := by
  unfold bounded at h
  split at h
  · simp at h
  · next hne =>
    obtain rfl := Option.some.inj h
    rw [bounded, strip_strip, if_neg hne]

/-- A stripped identifier. -/
def identifier (s : String) : Option String :=
  if isIdentifier (strip s) then some (strip s) else none

/-- A normalized identifier is normalized. -/
lemma identifier_idem {s t : String} (h : identifier s = some t) : identifier t = some t := by
  unfold identifier at h
  split at h
  · next hid =>
    obtain rfl := Option.some.inj h
    have hchars : ∀ c ∈ (strip s).toList, isSpace c = false := by
      intro c hc
      simp only [isIdentifier, Bool.and_eq_true, List.all_eq_true] at hid
      exact isSpace_eq_false_of_isIdentifierChar (hid.2 c hc)
    rw [identifier, strip_eq_self hchars, if_pos hid]
  · simp at h

/-- A valid identifier is normalized. -/
lemma identifier_of_isIdentifier {s : String} (h : isIdentifier s = true) :
    identifier s = some s := by
  have hstrip : strip s = s := by
    refine strip_eq_self fun c hc => ?_
    simp only [isIdentifier, Bool.and_eq_true, List.all_eq_true] at h
    exact isSpace_eq_false_of_isIdentifierChar (h.2 c hc)
  rw [identifier, hstrip, if_pos h]

lemma required_of_isIdentifier {s : String} (h : isIdentifier s = true) :
    required s = some s := by
  have hid := identifier_of_isIdentifier h
  unfold identifier at hid
  split at hid
  · have hstrip : strip s = s := Option.some.inj hid
    have hne : s ≠ "" := by
      rintro rfl
      exact absurd h (by decide)
    rw [required, hstrip, if_neg hne]
  · simp at hid

/-- A text over the alphabet of identifiers is rejected only for its length. -/
lemma isSome_identifier_iff {s : String} (h : ∀ c ∈ s.toList, isIdentifierChar c = true)
    (hne : s.toList ≠ []) : (identifier s).isSome ↔ s.toList.length ≤ 128 := by
  have hstrip : strip s = s :=
    strip_eq_self fun c hc => isSpace_eq_false_of_isIdentifierChar (h c hc)
  have hpos : 1 ≤ s.toList.length := List.length_pos_iff.2 hne
  have hid : isIdentifier s = true ↔ s.toList.length ≤ 128 := by
    simp only [isIdentifier, Bool.and_eq_true, decide_eq_true_eq, List.all_eq_true]
    exact ⟨fun hs => hs.1.2, fun hs => ⟨⟨hpos, hs⟩, h⟩⟩
  rw [identifier, hstrip]
  by_cases hs : isIdentifier s = true
  · simp [hs, hid.1 hs]
  · simp [hs, mt hid.2 hs]

lemma length_strip_le (s : String) : (strip s).toList.length ≤ s.toList.length := by
  rw [toList_strip]
  exact le_trans (List.rdropWhile_prefix isSpace _).length_le
    (List.dropWhile_sublist isSpace).length_le

/-- A text that starts with another character than white space is not empty when it is stripped. -/
lemma strip_ne_empty {s : String} {c : Char} (h : s.toList.head? = some c)
    (hc : isSpace c = false) : strip s ≠ "" := by
  intro hs
  have hnil : (strip s).toList = [] := by rw [hs]; rfl
  obtain ⟨cs, hcs⟩ := List.head?_eq_some_iff.1 h
  rw [toList_strip, hcs, List.dropWhile_cons_of_neg (by simp [hc]),
    List.rdropWhile_eq_nil_iff] at hnil
  have hspace := hnil c List.mem_cons_self
  rw [hc] at hspace
  exact absurd hspace (by decide)

/-- A text within a bound is accepted. -/
lemma bounded_of_le {n : ℕ} {s : String} (hne : strip s ≠ "") (h : s.toList.length ≤ n) :
    bounded n s = some (strip s) := by
  rw [bounded, if_neg]
  rintro (he | hlong)
  · exact hne he
  · exact absurd (le_trans (length_strip_le s) h) (by omega)

/-- A commit, `^[0-9a-f]{40}$`. -/
def isCommit (s : String) : Bool :=
  s.toList.length == 40 && s.toList.all fun c => c.isDigit || ('a' ≤ c && c ≤ 'f')

/-! ## Splitting at a separator -/

/-- A list splits at the first occurrence of an element in one way. -/
lemma split_first {α : Type} {a : α} {xs ys xs' ys' : List α}
    (h : xs ++ a :: ys = xs' ++ a :: ys') (hx : a ∉ xs) (hx' : a ∉ xs') : xs = xs' ∧ ys = ys' := by
  induction xs generalizing xs' with
  | nil =>
    cases xs' with
    | nil => exact ⟨rfl, (List.cons.inj h).2⟩
    | cons b xs' =>
      have hb : a = b := (List.cons.inj h).1
      exact absurd (hb ▸ List.mem_cons_self) hx'
  | cons b xs ih =>
    cases xs' with
    | nil =>
      have hb : b = a := (List.cons.inj h).1
      exact absurd (hb ▸ List.mem_cons_self) hx
    | cons b' xs' =>
      obtain ⟨rfl, htail⟩ := List.cons.inj h
      obtain ⟨rfl, rfl⟩ := ih htail (fun hm => hx (List.mem_cons_of_mem _ hm))
        (fun hm => hx' (List.mem_cons_of_mem _ hm))
      exact ⟨rfl, rfl⟩

/-- A list splits at the last occurrence of an element in one way. -/
lemma split_last {α : Type} {a : α} {xs ys xs' ys' : List α}
    (h : xs ++ a :: ys = xs' ++ a :: ys') (hy : a ∉ ys) (hy' : a ∉ ys') : xs = xs' ∧ ys = ys' := by
  have hrev : ys.reverse ++ a :: xs.reverse = ys'.reverse ++ a :: xs'.reverse := by
    simpa using congrArg List.reverse h
  obtain ⟨hys, hxs⟩ := split_first hrev (by simpa using hy) (by simpa using hy')
  exact ⟨List.reverse_injective hxs, List.reverse_injective hys⟩

/-- A text without a bar is read back from before the first bar. -/
lemma bar_inj {a b x y : String} (ha : '|' ∉ a.toList) (hb : '|' ∉ b.toList)
    (h : a ++ "|" ++ x = b ++ "|" ++ y) : a = b ∧ x = y := by
  have hlist : a.toList ++ '|' :: x.toList = b.toList ++ '|' :: y.toList := by
    simpa using congrArg String.toList h
  obtain ⟨hfront, hrest⟩ := split_first hlist ha hb
  exact ⟨String.toList_inj.1 hfront, String.toList_inj.1 hrest⟩

/-! ## Numbers and instants -/

/-- The decimal digits of an integer, as Python formats it in a string. -/
def decimal (n : ℕ) : String := String.ofList (Nat.toDigits 10 n)

lemma toList_decimal (n : ℕ) : (decimal n).toList = Nat.toDigits 10 n := by
  rw [decimal, String.toList_ofList]

lemma isDigit_of_mem_decimal {n : ℕ} {c : Char} (h : c ∈ (decimal n).toList) :
    c.isDigit = true := by
  rw [toList_decimal] at h
  exact Nat.isDigit_of_mem_toDigits (by omega) (by omega) h

lemma decimal_injective {m n : ℕ} (h : (decimal m).toList = (decimal n).toList) : m = n := by
  rw [toList_decimal, toList_decimal] at h
  have hval := congrArg (fun cs => Nat.ofDigitChars 10 cs 0) h
  simpa only [Nat.ofDigitChars_ten_toDigits] using hval

/-- The decimal digits of an integer, padded with zeros. -/
def padded (width n : ℕ) : String :=
  String.ofList (((Nat.toDigits 10 n).reverse ++ List.replicate width '0').take
    (max width (Nat.toDigits 10 n).length)).reverse

/-- The year, month and day of a number of days since 1970-01-01. -/
def civil (days : ℕ) : ℕ × ℕ × ℕ :=
  let z := days + 719468
  let doe := z % 146097
  let yoe := (doe - doe / 1460 + doe / 36524 - doe / 146096) / 365
  let doy := doe - (365 * yoe + yoe / 4 - yoe / 100)
  let mp := (5 * doy + 2) / 153
  let m := if mp < 10 then mp + 3 else mp - 9
  (yoe + z / 146097 * 400 + (if m ≤ 2 then 1 else 0), m, doy - (153 * mp + 2) / 5 + 1)

/-- `datetime.isoformat()` of an instant in UTC, given in microseconds. -/
def isoformat (t : ℕ) : String :=
  let seconds := t / 1000000
  let (y, m, d) := civil (seconds / 86400)
  let fraction := if t % 1000000 = 0 then "" else "." ++ padded 6 (t % 1000000)
  padded 4 y ++ "-" ++ padded 2 m ++ "-" ++ padded 2 d ++ "T" ++ padded 2 (seconds / 3600 % 24) ++
    ":" ++ padded 2 (seconds / 60 % 60) ++ ":" ++ padded 2 (seconds % 60) ++ fraction ++ "+00:00"

example : isoformat 1709210096000789 = "2024-02-29T12:34:56.000789+00:00" := by decide

end AgenticMesh
