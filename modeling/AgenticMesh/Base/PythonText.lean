import AgenticMesh.Base.Json
import AgenticMesh.Base.Replace

/-!
# The text of a Python value

`str` of a value that `json` has read.  Which characters outside of ASCII are
printable is a table of Python and a parameter here.  Where no character has to
be escaped, a word of the text lies in one of the strings, keys and numbers of
the value.
-/

namespace AgenticMesh

variable (printable : Char → Bool)

/-- The last digits of a number in base 16, as `\x`, `\u` and `\U` have them. -/
def hexText (width n : ℕ) : List Char :=
  let digits := Nat.toDigits 16 n
  List.replicate (width - digits.length) '0' ++ digits

/-- A character of a string in `repr`, inside of quotes of one kind. -/
def reprChar (quotes c : Char) : List Char :=
  if c = quotes ∨ c = '\\' then ['\\', c]
  else if c = '\t' then ['\\', 't']
  else if c = '\n' then ['\\', 'n']
  else if c = '\r' then ['\\', 'r']
  else if c.toNat < 32 ∨ c.toNat = 127 then '\\' :: 'x' :: hexText 2 c.toNat
  else if c.toNat < 127 ∨ printable c = true then [c]
  else if c.toNat < 256 then '\\' :: 'x' :: hexText 2 c.toNat
  else if c.toNat < 65536 then '\\' :: 'u' :: hexText 4 c.toNat
  else '\\' :: 'U' :: hexText 8 c.toNat

/-- `repr` of a string: double quotes when only they avoid a backslash. -/
def reprString (s : String) : String :=
  let quotes := if '\'' ∈ s.toList ∧ '"' ∉ s.toList then '"' else '\''
  String.ofList (quotes :: s.toList.flatMap (reprChar printable quotes) ++ [quotes])

mutual

def reprJson : Json → String
  | .null => "None"
  | .bool b => if b then "True" else "False"
  | .int n => toString n
  | .float text => text
  | .str s => reprString printable s
  | .arr xs => "[" ++ ", ".intercalate (reprItems xs) ++ "]"
  | .obj fields => "\x7b" ++ ", ".intercalate (reprFields fields) ++ "\x7d"

def reprItems : List Json → List String
  | [] => []
  | x :: xs => reprJson x :: reprItems xs

def reprFields : List (String × Json) → List String
  | [] => []
  | (k, x) :: fields => (reprString printable k ++ ": " ++ reprJson x) :: reprFields fields

end

/-- `str(value)`. -/
def pythonStr : Json → String
  | .str s => s
  | value => reprJson printable value

/-! ## Words in the text of a value -/

/-- A character that `repr` writes as it is, whatever the quotes are. -/
def isVerbatim (c : Char) : Bool :=
  c ∉ ['\'', '"', '\\'] && 32 ≤ c.toNat && c.toNat ≠ 127 && (c.toNat < 127 || printable c)

/-- The characters that `repr` writes between the parts of a value. -/
def isReprMark (c : Char) : Bool := c ∈ ['[', ']', '\x7b', '\x7d', ',', ':', ' ', '\'']

namespace Json

mutual

/-- The keys of objects and the strings of a value, at every depth. -/
def shownStrings : Json → List String
  | .str s => [s]
  | .arr xs => shownItems xs
  | .obj fields => shownFields fields
  | _ => []

def shownItems : List Json → List String
  | [] => []
  | x :: xs => shownStrings x ++ shownItems xs

def shownFields : List (String × Json) → List String
  | [] => []
  | (k, x) :: fields => k :: shownStrings x ++ shownFields fields

end

mutual

/-- The texts of the numbers and constants of a value, at every depth. -/
def scalarTexts : Json → List String
  | .str _ => []
  | .arr xs => scalarTextsOfItems xs
  | .obj fields => scalarTextsOfFields fields
  | .null => ["None"]
  | .bool b => [if b then "True" else "False"]
  | .int n => [toString n]
  | .float text => [text]

def scalarTextsOfItems : List Json → List String
  | [] => []
  | x :: xs => scalarTexts x ++ scalarTextsOfItems xs

def scalarTextsOfFields : List (String × Json) → List String
  | [] => []
  | (_, x) :: fields => scalarTexts x ++ scalarTextsOfFields fields

end

end Json

section Words

variable {printable} {p : List Char}

lemma reprChar_of_verbatim {c : Char} (h : isVerbatim printable c = true) :
    reprChar printable '\'' c = [c] := by
  simp only [isVerbatim, Bool.and_eq_true, Bool.or_eq_true, decide_eq_true_eq, List.mem_cons,
    List.not_mem_nil, or_false, not_or] at h
  obtain ⟨⟨⟨⟨hsingle, -, hbackslash⟩, hcontrol⟩, hdelete⟩, hshown⟩ := h
  have hne : ∀ d : Char, d.toNat < 32 → c ≠ d := by
    rintro d hd rfl
    omega
  rw [reprChar, if_neg (by simp [hsingle, hbackslash]), if_neg (hne '\t' (by decide)),
    if_neg (hne '\n' (by decide)), if_neg (hne '\r' (by decide)), if_neg (by omega), if_pos hshown]

lemma toList_reprString_of_verbatim {s : String}
    (h : ∀ c ∈ s.toList, isVerbatim printable c = true) :
    (reprString printable s).toList = '\'' :: (s.toList ++ ['\'']) := by
  have hquote : '\'' ∉ s.toList := fun hmem => absurd (h _ hmem) (by simp [isVerbatim])
  have hsame : s.toList.flatMap (reprChar printable '\'') = s.toList.flatMap fun c => [c] :=
    List.flatMap_congr fun c hc => reprChar_of_verbatim (h c hc)
  rw [reprString, if_neg fun hboth => hquote hboth.1, String.toList_ofList, hsame,
    List.flatMap_singleton', List.cons_append]

lemma notMem_of_marks (hp : ∀ c ∈ p, isReprMark c = false) {c : Char}
    (hc : isReprMark c = true) : c ∉ p := fun hmem => by
  rw [hp c hmem] at hc
  cases hc

/-- A word without marks lies between two marks. -/
lemma infix_of_infix_framed (hne : p ≠ []) {l r : Char} (hl : l ∉ p) (hr : r ∉ p)
    {x : List Char} (h : p <:+: l :: (x ++ [r])) : p <:+: x := by
  rcases infix_append_cons_of_notMem (x := []) hl h with h | h
  · exact absurd (List.infix_nil.1 h) hne
  · rcases infix_append_cons_of_notMem hr h with h | h
    · exact h
    · exact absurd (List.infix_nil.1 h) hne

lemma infix_of_infix_separated (hne : p ≠ []) {a b : Char} (ha : a ∉ p) (hb : b ∉ p)
    {words : List (List Char)} (h : p <:+: [a, b].intercalate words) : ∃ w ∈ words, p <:+: w := by
  induction words with
  | nil => exact absurd (List.infix_nil.1 h) hne
  | cons w words ih =>
    cases words with
    | nil =>
      rw [List.intercalate_singleton] at h
      exact ⟨w, List.mem_cons_self, h⟩
    | cons v words =>
      rw [List.intercalate_cons_cons, List.append_assoc, List.cons_append,
        List.singleton_append] at h
      rcases infix_append_cons_of_notMem ha h with h | h
      · exact ⟨w, List.mem_cons_self, h⟩
      · rcases infix_append_cons_of_notMem (x := []) hb h with h | h
        · exact absurd (List.infix_nil.1 h) hne
        · obtain ⟨v', hv', hinfix⟩ := ih h
          exact ⟨v', List.mem_cons_of_mem _ hv', hinfix⟩

end Words

/-- One of these texts has a word in it. -/
def Json.Holds (p : List Char) (texts scalars : List String) : Prop :=
  (∃ s ∈ texts, p <:+: s.toList) ∨ ∃ s ∈ scalars, p <:+: s.toList

lemma Json.Holds.mono {p : List Char} {texts scalars texts' scalars' : List String}
    (h : Json.Holds p texts scalars) (htexts : texts ⊆ texts') (hscalars : scalars ⊆ scalars') :
    Json.Holds p texts' scalars' := by
  rcases h with ⟨s, hs, hinfix⟩ | ⟨s, hs, hinfix⟩
  · exact Or.inl ⟨s, htexts hs, hinfix⟩
  · exact Or.inr ⟨s, hscalars hs, hinfix⟩

mutual

/-- A word without marks that the text of a value contains is in one of its strings, keys, numbers
and constants. -/
theorem holds_of_infix_repr {printable : Char → Bool} {p : List Char} (hne : p ≠ [])
    (hp : ∀ c ∈ p, isReprMark c = false) : ∀ value : Json,
    (∀ s ∈ value.shownStrings, ∀ c ∈ s.toList, isVerbatim printable c = true) →
      p <:+: (reprJson printable value).toList → Json.Holds p value.shownStrings value.scalarTexts
  | .null, _, h => Or.inr ⟨_, List.mem_singleton_self _, h⟩
  | .bool _, _, h => Or.inr ⟨_, List.mem_singleton_self _, h⟩
  | .int _, _, h => Or.inr ⟨_, List.mem_singleton_self _, h⟩
  | .float _, _, h => Or.inr ⟨_, List.mem_singleton_self _, h⟩
  | .str s, hs, h => by
    rw [reprJson, toList_reprString_of_verbatim (hs s (List.mem_singleton_self s))] at h
    have hquote := notMem_of_marks hp (c := '\'') (by decide)
    exact Or.inl ⟨s, List.mem_singleton_self s, infix_of_infix_framed hne hquote hquote h⟩
  | .arr xs, hs, h => by
    rw [reprJson, String.toList_append, String.toList_append, String.toList_intercalate] at h
    have hinner := infix_of_infix_framed hne (notMem_of_marks hp (c := '[') (by decide))
      (notMem_of_marks hp (c := ']') (by decide)) h
    obtain ⟨w, hw, hinfix⟩ := infix_of_infix_separated hne
      (notMem_of_marks hp (c := ',') (by decide)) (notMem_of_marks hp (c := ' ') (by decide)) hinner
    exact holds_of_infix_items hne hp xs hs hw hinfix
  | .obj fields, hs, h => by
    rw [reprJson, String.toList_append, String.toList_append, String.toList_intercalate] at h
    have hinner := infix_of_infix_framed hne (notMem_of_marks hp (c := '\x7b') (by decide))
      (notMem_of_marks hp (c := '\x7d') (by decide)) h
    obtain ⟨w, hw, hinfix⟩ := infix_of_infix_separated hne
      (notMem_of_marks hp (c := ',') (by decide)) (notMem_of_marks hp (c := ' ') (by decide)) hinner
    exact holds_of_infix_fields hne hp fields hs hw hinfix

theorem holds_of_infix_items {printable : Char → Bool} {p : List Char} (hne : p ≠ [])
    (hp : ∀ c ∈ p, isReprMark c = false) : ∀ (xs : List Json) {w : List Char},
    (∀ s ∈ Json.shownItems xs, ∀ c ∈ s.toList, isVerbatim printable c = true) →
      w ∈ (reprItems printable xs).map String.toList → p <:+: w →
        Json.Holds p (Json.shownItems xs) (Json.scalarTextsOfItems xs)
  | [], _, _, hw, _ => by simp [reprItems] at hw
  | x :: xs, w, hs, hw, h => by
    rw [Json.shownItems, List.forall_mem_append] at hs
    rw [reprItems, List.map_cons] at hw
    rw [Json.shownItems, Json.scalarTextsOfItems]
    rcases List.mem_cons.1 hw with rfl | hw
    · exact (holds_of_infix_repr hne hp x hs.1 h).mono (List.subset_append_left _ _)
        (List.subset_append_left _ _)
    · exact (holds_of_infix_items hne hp xs hs.2 hw h).mono (List.subset_append_right _ _)
        (List.subset_append_right _ _)

theorem holds_of_infix_fields {printable : Char → Bool} {p : List Char} (hne : p ≠ [])
    (hp : ∀ c ∈ p, isReprMark c = false) : ∀ (fields : List (String × Json)) {w : List Char},
    (∀ s ∈ Json.shownFields fields, ∀ c ∈ s.toList, isVerbatim printable c = true) →
      w ∈ (reprFields printable fields).map String.toList → p <:+: w →
        Json.Holds p (Json.shownFields fields) (Json.scalarTextsOfFields fields)
  | [], _, _, hw, _ => by simp [reprFields] at hw
  | (k, x) :: fields, w, hs, hw, h => by
    rw [Json.shownFields, List.cons_append, List.forall_mem_cons, List.forall_mem_append] at hs
    rw [reprFields, List.map_cons] at hw
    rw [Json.shownFields, Json.scalarTextsOfFields, List.cons_append]
    rcases List.mem_cons.1 hw with rfl | hw
    · rw [String.toList_append, String.toList_append, toList_reprString_of_verbatim hs.1] at h
      have hquote := notMem_of_marks hp (c := '\'') (by decide)
      have hcolon := notMem_of_marks hp (c := ':') (by decide)
      have hblank := notMem_of_marks hp (c := ' ') (by decide)
      -- the key in its quotes, or the value after the blank
      have hparts : '\'' :: (k.toList ++ ['\'']) ++ ": ".toList ++ (reprJson printable x).toList =
          '\'' :: (k.toList ++ ['\'']) ++ ':' :: ([] ++ ' ' :: (reprJson printable x).toList) := by
        rw [List.append_assoc]
        rfl
      rw [hparts] at h
      rcases infix_append_cons_of_notMem hcolon h with h | h
      · exact Or.inl ⟨k, List.mem_cons_self, infix_of_infix_framed hne hquote hquote h⟩
      · rcases infix_append_cons_of_notMem (x := []) hblank h with h | h
        · exact absurd (List.infix_nil.1 h) hne
        · exact (holds_of_infix_repr hne hp x hs.2.1 h).mono
            (List.Subset.trans (List.subset_append_left _ _) (List.subset_cons_self _ _))
            (List.subset_append_left _ _)
    · exact (holds_of_infix_fields hne hp fields hs.2.2 hw h).mono
        (List.Subset.trans (List.subset_append_right _ _) (List.subset_cons_self _ _))
        (List.subset_append_right _ _)

end

end AgenticMesh
