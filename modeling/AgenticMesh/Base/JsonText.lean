import AgenticMesh.Base.Json
import AgenticMesh.Base.PercentEncoding
import Mathlib.Algebra.BigOperators.Group.List.Basic
import Mathlib.Algebra.GroupWithZero.Nat

/-!
# Reading JSON

`json.loads`, and that it reads what `json.dumps` writes for an object of texts.  A number with
a fraction or an exponent is read by a parameter.
-/

namespace AgenticMesh

namespace Json

/-! ## Strings -/

def isBlank (c : Char) : Bool := c ∈ [' ', '\t', '\n', '\r']

def skipBlank (cs : List Char) : List Char := cs.dropWhile isBlank

/-- The number of four hexadecimal digits. -/
def hexUnit : List Char → Option (ℕ × List Char)
  | a :: b :: c :: d :: cs => do
    let a ← hexValue a
    let b ← hexValue b
    let c ← hexValue c
    let d ← hexValue d
    return (a * 4096 + b * 256 + c * 16 + d, cs)
  | _ => none

def IsHighSurrogate (n : ℕ) : Prop := 55296 ≤ n ∧ n < 56320

instance (n : ℕ) : Decidable (IsHighSurrogate n) := inferInstanceAs (Decidable (_ ∧ _))

def IsLowSurrogate (n : ℕ) : Prop := 56320 ≤ n ∧ n < 57344

instance (n : ℕ) : Decidable (IsLowSurrogate n) := inferInstanceAs (Decidable (_ ∧ _))

/-- The low surrogate that follows a high one; a lone surrogate is no character. -/
def readPair (high : ℕ) : List Char → Option (Char × List Char)
  | c :: 'u' :: cs =>
    if c = Char.ofNat 92 then do
      let (low, cs) ← hexUnit cs
      if IsLowSurrogate low then
        some (Char.ofNat (65536 + (high - 55296) * 1024 + (low - 56320)), cs)
      else none
    else none
  | _ => none

/-- The character of `\uXXXX`. -/
def readUnicode (cs : List Char) : Option (Char × List Char) := do
  let (n, cs) ← hexUnit cs
  if IsHighSurrogate n then readPair n cs
  else if IsLowSurrogate n then none
  else some (Char.ofNat n, cs)

/-- The escapes of one letter. -/
def escapes : List (Char × Char) :=
  [('"', '"'), (Char.ofNat 92, Char.ofNat 92), ('/', '/'), ('b', Char.ofNat 8),
    ('f', Char.ofNat 12), ('n', Char.ofNat 10), ('r', Char.ofNat 13), ('t', Char.ofNat 9)]

/-- The character after a backslash. -/
def readEscape : List Char → Option (Char × List Char)
  | [] => none
  | c :: cs => if c = 'u' then readUnicode cs else (escapes.lookup c).map fun d => (d, cs)

/-- One character of a string. -/
def readChar : List Char → Option (Char × List Char)
  | [] => none
  | c :: cs =>
    if c = Char.ofNat 92 then readEscape cs
    else if c.toNat < 32 then none
    else some (c, cs)

/-- The characters of a string after its opening quote. -/
def readChars : ℕ → List Char → Option (List Char × List Char)
  | 0, _ => none
  | n + 1, cs =>
    if cs.head? = some '"' then some ([], cs.tail)
    else do
      let (c, cs) ← readChar cs
      let (s, cs) ← readChars n cs
      return (c :: s, cs)

/-! ## Values -/

/-- The values that are written as a word. -/
def words : List (String × Json) :=
  [("null", .null), ("true", .bool true), ("false", .bool false), ("NaN", .float "NaN"),
    ("Infinity", .float "Infinity"), ("-Infinity", .float "-Infinity")]

def readWord (cs : List Char) : Option (Json × List Char) :=
  words.findSome? fun word => (cs.dropPrefix? word.1.toList).map fun cs => (word.2, cs)

/-- `0|[1-9]\d*`. -/
def readDigits (cs : List Char) : Option (List Char × List Char) :=
  let digits := cs.takeWhile Char.isDigit
  match digits with
  | [] => none
  | '0' :: _ => some (['0'], cs.tail)
  | _ => some (digits, cs.dropWhile Char.isDigit)

/-- `(\.\d+)?`. -/
def readFraction : List Char → List Char × List Char
  | '.' :: cs =>
    if cs.takeWhile Char.isDigit = [] then ([], '.' :: cs)
    else ('.' :: cs.takeWhile Char.isDigit, cs.dropWhile Char.isDigit)
  | cs => ([], cs)

/-- `([eE][-+]?\d+)?`. -/
def readExponent (cs : List Char) : List Char × List Char :=
  let letter := cs.takeWhile (fun c => c == 'e' || c == 'E') |>.take 1
  let rest := cs.drop letter.length
  let sign := rest.takeWhile (fun c => c == '-' || c == '+') |>.take 1
  let rest := rest.drop sign.length
  let digits := rest.takeWhile Char.isDigit
  if letter = [] ∨ digits = [] then ([], cs)
  else (letter ++ sign ++ digits, rest.dropWhile Char.isDigit)

/-- The number of some decimal digits. -/
def ofDigits (digits : List Char) : ℕ := digits.foldl (fun n d => 10 * n + (d.toNat - 48)) 0

section Values

-- the text of the number that a literal with a fraction or an exponent stands for
variable (float : String → String)

/-- A number; `int` takes 4300 digits at most. -/
def readNumber (cs : List Char) : Option (Json × List Char) := do
  let sign := cs.takeWhile (· == '-') |>.take 1
  let (digits, rest) ← readDigits (cs.drop sign.length)
  let (fraction, rest) := readFraction rest
  let (exponent, rest) := readExponent rest
  if fraction = [] ∧ exponent = [] then
    if 4300 < digits.length then none
    else if sign = [] then some (.int (ofDigits digits), rest)
    else some (.int (-ofDigits digits), rest)
  else some (.float (float (String.ofList (sign ++ digits ++ fraction ++ exponent))), rest)

/-- The fields of a mapping: the last one of a key counts. -/
def ofFields (fields : List (String × Json)) : Json :=
  .obj (fields.foldl (fun fs p => insertField p.1 p.2 fs) [])

mutual

def readValue : ℕ → List Char → Option (Json × List Char)
  | 0, _ => none
  | n + 1, '"' :: cs => do
    let (s, cs) ← readChars n cs
    return (.str (String.ofList s), cs)
  | n + 1, '[' :: cs =>
    if (skipBlank cs).head? = some ']' then some (.arr [], (skipBlank cs).tail)
    else do
      let (xs, cs) ← readItems n (skipBlank cs)
      return (.arr xs, cs)
  | n + 1, '{' :: cs =>
    if (skipBlank cs).head? = some '}' then some (.obj [], (skipBlank cs).tail)
    else do
      let (fields, cs) ← readFields n (skipBlank cs)
      return (ofFields fields, cs)
  | _ + 1, cs => (readWord cs).or (readNumber float cs)

/-- The items of an array that is not empty. -/
def readItems : ℕ → List Char → Option (List Json × List Char)
  | 0, _ => none
  | n + 1, cs => do
    let (x, cs) ← readValue n cs
    match skipBlank cs with
    | ',' :: cs => do
      let (xs, cs) ← readItems n (skipBlank cs)
      return (x :: xs, cs)
    | ']' :: cs => some ([x], cs)
    | _ => none

/-- The fields of a mapping that is not empty. -/
def readFields : ℕ → List Char → Option (List (String × Json) × List Char)
  | n + 1, '"' :: cs => do
    let (key, cs) ← readChars n cs
    match skipBlank cs with
    | ':' :: cs => do
      let (x, cs) ← readValue n (skipBlank cs)
      match skipBlank cs with
      | ',' :: cs => do
        let (fields, cs) ← readFields n (skipBlank cs)
        return ((String.ofList key, x) :: fields, cs)
      | '}' :: cs => some ([(String.ofList key, x)], cs)
      | _ => none
    | _ => none
  | _, _ => none

end

/-- `json.loads`, of a text. -/
def loads (cs : List Char) : Option Json := do
  let (x, rest) ← readValue float (2 * cs.length + 2) (skipBlank cs)
  if skipBlank rest = [] then some x else none

end Values

/-! ## Strings that are written and read -/

/-- A character in a string of `json.dumps`. -/
def escaped (c : Char) : List Char := (escapeChar c).flatMap escapeAscii

lemma hexValue_digitChar : ∀ n < 16, hexValue (Nat.digitChar n) = some n := by decide

/-- The four digits of an escape are read. -/
lemma hexUnit_escapeUnit {n : ℕ} (h : n < 65536) (rest : List Char) :
    ∃ digits, escapeUnit n = Char.ofNat 92 :: 'u' :: digits ∧
      hexUnit (digits ++ rest) = some (n, rest) := by
  refine ⟨_, rfl, ?_⟩
  show hexUnit (Nat.digitChar (n / 4096) :: Nat.digitChar (n / 256 % 16) ::
    Nat.digitChar (n / 16 % 16) :: Nat.digitChar (n % 16) :: rest) = _
  rw [hexUnit, hexValue_digitChar _ (by omega), hexValue_digitChar _ (by omega),
    hexValue_digitChar _ (by omega), hexValue_digitChar _ (by omega)]
  have hn : n / 4096 * 4096 + n / 256 % 16 * 256 + n / 16 % 16 * 16 + n % 16 = n := by omega
  exact congrArg (fun n => some (n, rest)) hn

/-- How many characters `json.dumps` writes for a character. -/
def width (c : Char) : ℕ :=
  if c ∈ ['"', Char.ofNat 92, Char.ofNat 8, Char.ofNat 9, Char.ofNat 10, Char.ofNat 12,
    Char.ofNat 13] then 2
  else if 32 ≤ c.toNat ∧ c.toNat ≤ 126 then 1
  else if c.toNat < 65536 then 6
  else 12

/-- The ways in which a character is written. -/
inductive Escaped (c : Char) : List Char → ℕ → Prop
  | letter (d : Char) (hu : d ≠ 'u') (h : escapes.lookup d = some c) :
    Escaped c [Char.ofNat 92, d] 2
  | plain (hlow : 32 ≤ c.toNat) (hquote : c ≠ '"') (hback : c ≠ Char.ofNat 92) : Escaped c [c] 1
  | unit (h : c.toNat < 65536) : Escaped c (escapeUnit c.toNat) 6
  | pair (h : 65536 ≤ c.toNat) :
    Escaped c (escapeUnit (55296 + (c.toNat - 65536) / 1024) ++
      escapeUnit (56320 + (c.toNat - 65536) % 1024)) 12

lemma escapeChar_of_high {c : Char} (h : 126 < c.toNat) : escapeChar c = [c] := by
  unfold escapeChar
  dsimp only
  split
  all_goals first | omega | skip
  rw [if_neg (by omega)]

lemma width_of_high {c : Char} (h : 126 < c.toNat) :
    width c = if c.toNat < 65536 then 6 else 12 := by
  have hspecial : c ∉ ['"', Char.ofNat 92, Char.ofNat 8, Char.ofNat 9, Char.ofNat 10,
      Char.ofNat 12, Char.ofNat 13] := by
    have hlow : (['"', Char.ofNat 92, Char.ofNat 8, Char.ofNat 9, Char.ofNat 10,
      Char.ofNat 12, Char.ofNat 13].all fun d => d.toNat ≤ 126) = true := by decide
    intro hc
    have hle := of_decide_eq_true (List.all_eq_true.1 hlow c hc)
    omega
  rw [width, if_neg hspecial, if_neg (by omega)]

lemma escaped_of_high {c : Char} (h : 126 < c.toNat) :
    escaped c = if c.toNat < 65536 then escapeUnit c.toNat else
      escapeUnit (55296 + (c.toNat - 65536) / 1024) ++
        escapeUnit (56320 + (c.toNat - 65536) % 1024) := by
  rw [escaped, escapeChar_of_high h, List.flatMap_singleton, escapeAscii, if_neg (by omega)]

/-- Below 127 every character is written as one of three ways says. -/
lemma escaped_of_low : ∀ n < 127, let c := Char.ofNat n
    ((['"', Char.ofNat 92, 'b', 'f', 'n', 'r', 't'].any fun d =>
      escapes.lookup d == some c && escaped c == [Char.ofNat 92, d]) = true ∧ width c = 2) ∨
    (32 ≤ c.toNat ∧ c ≠ '"' ∧ c ≠ Char.ofNat 92 ∧ escaped c = [c] ∧ width c = 1) ∨
    (escaped c = escapeUnit c.toNat ∧ width c = 6) := by decide

lemma escaped_spec (c : Char) : Escaped c (escaped c) (width c) := by
  by_cases hlow : c.toNat < 127
  · have hchar : Char.ofNat c.toNat = c := Char.ofNat_toNat c
    have hcases := escaped_of_low c.toNat hlow
    rw [hchar] at hcases
    rcases hcases with ⟨hletter, hwidth⟩ | ⟨h32, hquote, hback, htext, hwidth⟩ | ⟨htext, hwidth⟩
    · obtain ⟨d, hd, hboth⟩ := List.any_eq_true.1 hletter
      rw [Bool.and_eq_true, beq_iff_eq, beq_iff_eq] at hboth
      obtain ⟨hlookup, htext⟩ := hboth
      rw [htext, hwidth]
      refine .letter d ?_ hlookup
      rintro rfl
      exact absurd hd (by decide)
    · rw [htext, hwidth]
      exact .plain h32 hquote hback
    · rw [htext, hwidth]
      exact .unit (by omega)
  · have hhigh : 126 < c.toNat := by omega
    rw [escaped_of_high hhigh, width_of_high hhigh]
    by_cases hunit : c.toNat < 65536
    · rw [if_pos hunit, if_pos hunit]
      exact .unit hunit
    · rw [if_neg hunit, if_neg hunit]
      exact .pair (by omega)

lemma Escaped.length {c : Char} {cs : List Char} {n : ℕ} (h : Escaped c cs n) :
    cs.length = n := by
  cases h with
  | letter d hu h => rfl
  | plain hlow hquote hback => rfl
  | unit h => rfl
  | pair h => rfl

/-- A character is no surrogate. -/
lemma not_surrogate (c : Char) : ¬ IsHighSurrogate c.toNat ∧ ¬ IsLowSurrogate c.toNat ∧
    c.toNat < 1114112 := by
  have hvalid : c.toNat < 55296 ∨ 57343 < c.toNat ∧ c.toNat < 1114112 := c.valid
  unfold IsHighSurrogate IsLowSurrogate
  omega

lemma readChar_unicode (cs : List Char) :
    readChar (Char.ofNat 92 :: 'u' :: cs) = readUnicode cs := by
  rw [readChar, if_pos rfl, readEscape, if_pos rfl]

lemma readUnicode_unit {n : ℕ} {cs rest : List Char} (h : hexUnit cs = some (n, rest))
    (hhigh : ¬ IsHighSurrogate n) (hlow : ¬ IsLowSurrogate n) :
    readUnicode cs = some (Char.ofNat n, rest) := by
  rw [readUnicode, h, Option.bind_eq_bind, Option.bind_some]
  dsimp only
  rw [if_neg hhigh, if_neg hlow]

lemma readUnicode_pair {high low : ℕ} {cs cs' rest : List Char}
    (h : hexUnit cs = some (high, Char.ofNat 92 :: 'u' :: cs'))
    (h' : hexUnit cs' = some (low, rest)) (hhigh : IsHighSurrogate high)
    (hlow : IsLowSurrogate low) :
    readUnicode cs =
      some (Char.ofNat (65536 + (high - 55296) * 1024 + (low - 56320)), rest) := by
  rw [readUnicode, h, Option.bind_eq_bind, Option.bind_some]
  dsimp only
  rw [if_pos hhigh, readPair, if_pos rfl, h', Option.bind_eq_bind, Option.bind_some]
  exact if_pos hlow

/-- A character outside of the first plane is read from its two surrogates. -/
lemma readChar_pair {n : ℕ} (h : 65536 ≤ n) (hmax : n < 1114112) (rest : List Char) :
    readChar (escapeUnit (55296 + (n - 65536) / 1024) ++
      escapeUnit (56320 + (n - 65536) % 1024) ++ rest) = some (Char.ofNat n, rest) := by
  obtain ⟨high, hhigh⟩ : ∃ high, high = 55296 + (n - 65536) / 1024 := ⟨_, rfl⟩
  obtain ⟨low, hlow⟩ : ∃ low, low = 56320 + (n - 65536) % 1024 := ⟨_, rfl⟩
  have hfirst : IsHighSurrogate high := by
    unfold IsHighSurrogate
    omega
  have hsecond : IsLowSurrogate low := by
    unfold IsLowSurrogate
    omega
  have hcode : 65536 + (high - 55296) * 1024 + (low - 56320) = n := by omega
  obtain ⟨digits', htext', hread'⟩ := hexUnit_escapeUnit (n := low) (by omega) rest
  obtain ⟨digits, htext, hread⟩ := hexUnit_escapeUnit (n := high) (by omega)
    (Char.ofNat 92 :: 'u' :: (digits' ++ rest))
  have happend : escapeUnit high ++ escapeUnit low ++ rest =
      Char.ofNat 92 :: 'u' :: (digits ++ Char.ofNat 92 :: 'u' :: (digits' ++ rest)) := by
    rw [htext, htext']
    simp
  rw [← hhigh, ← hlow, happend, readChar_unicode, readUnicode_pair hread hread' hfirst hsecond,
    hcode]

/-- What is written for a character is read as that character. -/
lemma Escaped.readChar {c : Char} {cs : List Char} {n : ℕ} (h : Escaped c cs n)
    (rest : List Char) : Json.readChar (cs ++ rest) = some (c, rest) := by
  have hchar : Char.ofNat c.toNat = c := Char.ofNat_toNat c
  obtain ⟨hhigh, hlow, hmax⟩ := not_surrogate c
  cases h with
  | letter d hu h =>
    show Json.readChar (Char.ofNat 92 :: d :: rest) = _
    rw [Json.readChar, if_pos rfl, readEscape, if_neg hu, h]
    rfl
  | plain h32 hquote hback =>
    show Json.readChar (c :: rest) = _
    rw [Json.readChar, if_neg hback, if_neg (by omega)]
  | unit h =>
    obtain ⟨digits, htext, hread⟩ := hexUnit_escapeUnit h rest
    rw [htext]
    show Json.readChar (Char.ofNat 92 :: 'u' :: (digits ++ rest)) = _
    rw [readChar_unicode, readUnicode_unit hread hhigh hlow, hchar]
  | pair h => rw [readChar_pair h hmax, hchar]

/-- Nothing that is written for a character begins with a quote. -/
lemma Escaped.head?_ne {c : Char} {cs : List Char} {n : ℕ} (h : Escaped c cs n)
    (rest : List Char) : (cs ++ rest).head? ≠ some '"' := by
  cases h with
  | letter d hu h =>
    show some (Char.ofNat 92) ≠ some '"'
    decide
  | plain h32 hquote hback =>
    show some c ≠ some '"'
    exact fun h => hquote (Option.some.inj h)
  | unit h =>
    show some (Char.ofNat 92) ≠ some '"'
    decide
  | pair h =>
    show some (Char.ofNat 92) ≠ some '"'
    decide

/-- The characters of a string up to its closing quote. -/
lemma readChars_escaped {n : ℕ} {cs : List Char} (h : cs.length < n) (rest : List Char) :
    readChars n (cs.flatMap escaped ++ '"' :: rest) = some (cs, rest) := by
  induction cs generalizing n with
  | nil =>
    obtain ⟨n, rfl⟩ := Nat.exists_eq_add_of_lt h
    rfl
  | cons c cs ih =>
    obtain ⟨n, rfl⟩ := Nat.exists_eq_add_of_lt (Nat.lt_of_le_of_lt (Nat.zero_le _) h)
    have hspec := escaped_spec c
    rw [Nat.zero_add, List.flatMap_cons, List.append_assoc, readChars,
      if_neg (hspec.head?_ne _), hspec.readChar]
    have hrest := ih (n := n) (by simpa using h)
    simp only [Option.bind_eq_bind, Option.bind_some, hrest]
    rfl

/-! ## Objects of texts -/

/-- A string of `json.dumps`. -/
def stringText (s : String) : List Char := '"' :: (s.toList.flatMap escaped ++ ['"'])

lemma toList_ascii_append (a b : String) :
    (ascii (a ++ b)).toList = (ascii a).toList ++ (ascii b).toList := by
  simp only [ascii, String.toList_ofList, String.toList_append, List.flatMap_append]

lemma toList_ascii_dumpString (s : String) : (ascii (dumpString s)).toList = stringText s := by
  have hquote : (ascii "\"").toList = ['"'] := by decide
  have hchars : (ascii (String.ofList (s.toList.flatMap escapeChar))).toList =
      s.toList.flatMap escaped := by
    rw [ascii, String.toList_ofList, String.toList_ofList, List.flatMap_assoc]
    rfl
  rw [dumpString, toList_ascii_append, toList_ascii_append, hquote, hchars]
  simp [stringText]

lemma length_stringText (s : String) :
    (stringText s).length = (s.toList.map width).sum + 2 := by
  rw [stringText, List.length_cons, List.length_append, List.length_flatMap]
  have hwidths : (fun c => (escaped c).length) = width :=
    funext fun c => (escaped_spec c).length
  rw [hwidths, List.length_singleton]

lemma one_le_width (c : Char) : 1 ≤ width c := by
  unfold width
  split
  · omega
  · split
    · omega
    · split <;> omega

lemma length_lt_stringText (s : String) : s.toList.length + 2 ≤ (stringText s).length := by
  have hsum : s.toList.length ≤ (s.toList.map width).sum := by
    have hle := List.length_le_sum_of_one_le (s.toList.map width) fun n hn => by
      obtain ⟨c, -, rfl⟩ := List.mem_map.1 hn
      exact one_le_width c
    rwa [List.length_map] at hle
  rw [length_stringText]
  omega

/-- Some fields of `json.dumps`. -/
def fieldsText : List (String × String) → List Char
  | [] => []
  | [(key, value)] => stringText key ++ ':' :: stringText value
  | (key, value) :: field :: fields =>
    stringText key ++ ':' :: (stringText value ++ ',' :: fieldsText (field :: fields))

/-- The fields of an object of texts. -/
def texts (fields : List (String × String)) : List (String × Json) :=
  fields.map fun p => (p.1, .str p.2)

lemma toList_ascii_fields (fields : List (String × String)) :
    (ascii (",".intercalate (renderFields "," ":" (texts fields)))).toList = fieldsText fields := by
  have hcolon : (ascii ":").toList = [':'] := by decide
  have hcomma : (ascii ",").toList = [','] := by decide
  have hfield : ∀ key value, (ascii (dumpString key ++ ":" ++ render "," ":" (.str value))).toList =
      stringText key ++ ':' :: stringText value := fun key value => by
    rw [toList_ascii_append, toList_ascii_append, hcolon, render, toList_ascii_dumpString,
      toList_ascii_dumpString]
    simp
  induction fields using fieldsText.induct with
  | case1 => rfl
  | case2 key value =>
    rw [texts, List.map_singleton, renderFields, renderFields, String.intercalate_singleton,
      hfield, fieldsText]
  | case3 key value field fields ih =>
    have hcons : texts ((key, value) :: field :: fields) =
        (key, .str value) :: texts (field :: fields) := rfl
    have hne : renderFields "," ":" (texts (field :: fields)) ≠ [] := List.cons_ne_nil _ _
    rw [hcons, renderFields, String.intercalate_cons_of_ne_nil hne, toList_ascii_append,
      toList_ascii_append, hfield, hcomma, ih, fieldsText]
    simp

/-- What `json.dumps` writes for an object of texts. -/
lemma toList_ascii_dumps (fields : List (String × String)) :
    (ascii (dumps (.obj (texts fields)))).toList = '\x7b' :: (fieldsText fields ++ ['\x7d']) := by
  have hopen : (ascii "\x7b").toList = ['\x7b'] := by decide
  have hclose : (ascii "\x7d").toList = ['\x7d'] := by decide
  rw [dumps, render, toList_ascii_append, toList_ascii_append, hopen, hclose,
    toList_ascii_fields]
  simp

/-! ## ASCII -/

lemma lt_of_mem_escapeUnit {n : ℕ} (h : n < 65536) {c : Char} (hc : c ∈ escapeUnit n) :
    c.toNat < 128 := by
  have hdigits : ∀ d < 16, (Nat.digitChar d).toNat < 128 := by decide
  simp only [escapeUnit, List.mem_cons, List.not_mem_nil, or_false] at hc
  rcases hc with rfl | rfl | rfl | rfl | rfl | rfl
  · decide
  · decide
  · exact hdigits _ (by omega)
  · exact hdigits _ (by omega)
  · exact hdigits _ (by omega)
  · exact hdigits _ (by omega)

lemma lt_of_mem_ascii {s : String} {c : Char} (h : c ∈ (ascii s).toList) : c.toNat < 128 := by
  rw [ascii, String.toList_ofList, List.mem_flatMap] at h
  obtain ⟨d, -, hc⟩ := h
  have hmax := (not_surrogate d).2.2
  unfold escapeAscii at hc
  dsimp only at hc
  split at hc
  · rw [List.mem_singleton.1 hc]
    omega
  · split at hc
    · next hunit => exact lt_of_mem_escapeUnit hunit hc
    · rcases List.mem_append.1 hc with hc | hc
      · exact lt_of_mem_escapeUnit (by omega) hc
      · exact lt_of_mem_escapeUnit (by omega) hc

/-! ## Round trip -/

lemma readString {n : ℕ} {s : String} (h : s.toList.length < n) (rest : List Char) :
    readChars n (s.toList.flatMap escaped ++ ['"'] ++ rest) = some (s.toList, rest) := by
  rw [List.append_assoc]
  exact readChars_escaped h rest

variable {float : String → String}

lemma readValue_string {n : ℕ} {s : String} (h : s.toList.length + 1 < n) (rest : List Char) :
    readValue float n (stringText s ++ rest) = some (.str s, rest) := by
  obtain ⟨n, rfl⟩ := Nat.exists_eq_add_of_lt h
  show (do
    let (t, cs) ← readChars (s.toList.length + 1 + n) (s.toList.flatMap escaped ++ ['"'] ++ rest)
    return (Json.str (String.ofList t), cs)) = _
  rw [readString (by omega)]
  simp

/-- One field and what follows it. -/
lemma readFields_field {n : ℕ} {key value : String} (hkey : key.toList.length < n)
    (hvalue : value.toList.length + 1 < n) (c : Char) (hc : c = ',' ∨ c = '\x7d')
    (rest : List Char) :
    readFields float (n + 1) (stringText key ++ ':' :: (stringText value ++ c :: rest)) =
      if c = ',' then
        (readFields float n (skipBlank rest)).map fun found =>
          ((key, .str value) :: found.1, found.2)
      else some ([(key, .str value)], rest) := by
  have hcolon : ∀ cs, skipBlank (':' :: cs) = ':' :: cs := fun cs => rfl
  have hquote : ∀ s cs, skipBlank (stringText s ++ cs) = stringText s ++ cs := fun s cs => rfl
  show (do
    let (key, cs) ← readChars n (key.toList.flatMap escaped ++ ['"'] ++
      ':' :: (stringText value ++ c :: rest))
    match skipBlank cs with
    | ':' :: cs => do
      let (x, cs) ← readValue float n (skipBlank cs)
      match skipBlank cs with
      | ',' :: cs => do
        let (fields, cs) ← readFields float n (skipBlank cs)
        return ((String.ofList key, x) :: fields, cs)
      | '\x7d' :: cs => some ([(String.ofList key, x)], cs)
      | _ => none
    | _ => none) = _
  rw [readString hkey]
  simp only [Option.bind_eq_bind, Option.bind_some, hcolon, hquote, readValue_string hvalue,
    String.ofList_toList]
  rcases hc with rfl | rfl
  · rw [if_pos rfl]
    have hcomma : skipBlank (',' :: rest) = ',' :: rest := rfl
    simp only [hcomma]
    cases readFields float n (skipBlank rest) <;> rfl
  · rw [if_neg (by decide)]
    rfl

/-- The fields of an object of texts are read. -/
lemma readFields_text {n : ℕ} {fields : List (String × String)} (hne : fields ≠ [])
    (h : (fieldsText fields).length < n) (rest : List Char) :
    readFields float n (fieldsText fields ++ '\x7d' :: rest) = some (texts fields, rest) := by
  induction fields using fieldsText.induct generalizing n with
  | case1 => exact absurd rfl hne
  | case2 key value =>
    have hkey := length_lt_stringText key
    have hvalue := length_lt_stringText value
    rw [fieldsText, List.length_append, List.length_cons] at h
    obtain ⟨n, rfl⟩ : ∃ m, n = m + 1 := ⟨n - 1, by omega⟩
    rw [fieldsText, List.append_assoc, List.cons_append,
      readFields_field (by omega) (by omega) _ (.inr rfl), if_neg (by decide)]
    rfl
  | case3 key value field fields ih =>
    have hkey := length_lt_stringText key
    have hvalue := length_lt_stringText value
    rw [fieldsText, List.length_append, List.length_cons, List.length_append,
      List.length_cons] at h
    obtain ⟨n, rfl⟩ : ∃ m, n = m + 1 := ⟨n - 1, by omega⟩
    have hrest := ih (n := n) (List.cons_ne_nil _ _) (by omega)
    have hblank : skipBlank (fieldsText (field :: fields) ++ '\x7d' :: rest) =
        fieldsText (field :: fields) ++ '\x7d' :: rest := by
      cases fields with
      | nil => rfl
      | cons _ _ => rfl
    rw [fieldsText, List.append_assoc, List.cons_append, List.append_assoc, List.cons_append,
      readFields_field (by omega) (by omega) _ (.inl rfl), if_pos rfl, hblank, hrest]
    rfl

lemma insertField_of_lt {key : String} {value : Json} {fields : List (String × Json)}
    (h : ∀ p ∈ fields, p.1 < key) : insertField key value fields = fields ++ [(key, value)] := by
  induction fields with
  | nil => rfl
  | cons p fields ih =>
    obtain ⟨hp, hfields⟩ := List.forall_mem_cons.1 h
    rw [insertField, if_neg (ne_of_gt hp), if_neg (not_lt_of_gt hp), ih hfields]
    rfl

/-- Fields in key order stay as they are. -/
lemma ofFields_of_inKeyOrder {fields : List (String × Json)} (h : InKeyOrder fields) :
    ofFields fields = .obj fields := by
  have hfold : ∀ seen : List (String × Json), InKeyOrder (seen ++ fields) →
      fields.foldl (fun fs p => insertField p.1 p.2 fs) seen = seen ++ fields := by
    clear h
    induction fields with
    | nil => exact fun seen _ => (List.append_nil seen).symm
    | cons p fields ih =>
      intro seen hseen
      have hlt : ∀ q ∈ seen, q.1 < p.1 := fun q hq =>
        (List.pairwise_append.1 hseen).2.2 q hq p List.mem_cons_self
      have hnext : InKeyOrder (seen ++ [p] ++ fields) := by
        rw [List.append_assoc]
        exact hseen
      rw [List.foldl_cons, insertField_of_lt hlt, ih _ hnext, List.append_assoc]
      rfl
  rw [ofFields, hfold [] h, List.nil_append]

/-- **Round trip**, for an object of texts. -/
theorem loads_dumps {fields : List (String × String)} (hne : fields ≠ [])
    (horder : InKeyOrder (texts fields)) :
    loads float (ascii (dumps (.obj (texts fields)))).toList = some (.obj (texts fields)) := by
  have hquote : ∃ cs, fieldsText fields = '"' :: cs := by
    match fields with
    | [] => exact absurd rfl hne
    | [(key, value)] => exact ⟨_, rfl⟩
    | (key, value) :: field :: fields => exact ⟨_, rfl⟩
  obtain ⟨cs, hcs⟩ := hquote
  have hblank : skipBlank (fieldsText fields ++ ['\x7d']) = fieldsText fields ++ ['\x7d'] := by
    rw [hcs]
    rfl
  have hhead : (fieldsText fields ++ ['\x7d']).head? ≠ some '\x7d' := by
    rw [hcs]
    show some '"' ≠ some '\x7d'
    decide
  have hvalue : ∀ n, (fieldsText fields).length < n →
      readValue float (n + 1) ('\x7b' :: (fieldsText fields ++ ['\x7d'])) =
        some (.obj (texts fields), []) := by
    intro n hn
    rw [readValue, hblank, if_neg hhead, readFields_text hne hn, ← ofFields_of_inKeyOrder horder]
    rfl
  have hstart : skipBlank ('\x7b' :: (fieldsText fields ++ ['\x7d'])) =
      '\x7b' :: (fieldsText fields ++ ['\x7d']) := rfl
  rw [toList_ascii_dumps, loads, hstart, hvalue]
  · rfl
  · simp only [List.length_cons, List.length_append, List.length_nil]
    omega

end Json

end AgenticMesh
