import AgenticMesh.Base.JsonText

/-!
# The text of a value determines it

`json.dumps` writes two values with the same text only if they are the same,
when their floating point numbers are texts that Python writes for such numbers.
The text of a value ends before the mark that follows it, so what follows is
determined as well; strings are read back, and the other parts are split at
their marks.
-/

namespace AgenticMesh

namespace Json

/-! ## The text of a value -/

/-- A text that Python writes for a floating point number, and for no integer. -/
def isFloatText (text : String) : Bool :=
  text.toList.all (· ∈ "0123456789+-.eINafinty".toList) &&
    text.toList.any (· ∈ ['.', 'e', 'N', 'I'])

mutual

/-- The floating point numbers of a value are written as Python writes them. -/
def hasFloatTexts : Json → Bool
  | .float text => isFloatText text
  | .arr xs => itemsHaveFloatTexts xs
  | .obj fields => fieldsHaveFloatTexts fields
  | _ => true

def itemsHaveFloatTexts : List Json → Bool
  | [] => true
  | x :: xs => hasFloatTexts x && itemsHaveFloatTexts xs

def fieldsHaveFloatTexts : List (String × Json) → Bool
  | [] => true
  | (_, x) :: fields => hasFloatTexts x && fieldsHaveFloatTexts fields

end

/-- The text of an integer. -/
def intText (n : ℤ) : List Char :=
  if n < 0 then '-' :: (decimal n.natAbs).toList else (decimal n.natAbs).toList

mutual

/-- The characters of `json.dumps(value, ensure_ascii=True)`. -/
def valueText : Json → List Char
  | .null => "null".toList
  | .bool b => if b then "true".toList else "false".toList
  | .int n => intText n
  | .float text => (ascii text).toList
  | .str s => stringText s
  | .arr xs => '[' :: itemsText xs
  | .obj fields => '\x7b' :: entriesText fields

/-- The items of an array and its end. -/
def itemsText : List Json → List Char
  | [] => [']']
  | x :: xs => valueText x ++ moreItemsText xs

def moreItemsText : List Json → List Char
  | [] => [']']
  | x :: xs => ',' :: (valueText x ++ moreItemsText xs)

/-- The fields of an object and its end. -/
def entriesText : List (String × Json) → List Char
  | [] => ['\x7d']
  | (key, x) :: fields => stringText key ++ ':' :: (valueText x ++ moreEntriesText fields)

def moreEntriesText : List (String × Json) → List Char
  | [] => ['\x7d']
  | (key, x) :: fields => ',' :: (stringText key ++ ':' :: (valueText x ++ moreEntriesText fields))

end

/-! ### What `json.dumps` writes -/

lemma toList_ascii_eq {s : String} (h : ∀ c ∈ s.toList, 32 ≤ c.toNat ∧ c.toNat ≤ 126) :
    (ascii s).toList = s.toList := by
  have hsame : s.toList.flatMap escapeAscii = s.toList.flatMap fun c => [c] := by
    refine List.flatMap_congr fun c hc => ?_
    rw [escapeAscii]
    exact if_pos (h c hc)
  rw [ascii, String.toList_ofList, hsame, List.flatMap_singleton']

lemma toList_ascii_decimal (n : ℕ) : (ascii (decimal n)).toList = (decimal n).toList := by
  refine toList_ascii_eq fun c hc => ?_
  have hdigit := isDigit_of_mem_decimal hc
  simp only [Char.isDigit, Bool.and_eq_true, decide_eq_true_eq] at hdigit
  have hlow : 48 ≤ c.toNat := hdigit.1
  have hhigh : c.toNat ≤ 57 := hdigit.2
  omega

/-- The parts of a list after its first one follow commas. -/
lemma toList_ascii_intercalate (first : String) (others : List String) :
    (ascii (",".intercalate (first :: others))).toList =
      (ascii first).toList ++ others.flatMap fun s => ',' :: (ascii s).toList := by
  have hcomma : (ascii ",").toList = [','] := by decide
  induction others generalizing first with
  | nil => rw [String.intercalate_singleton, List.flatMap_nil, List.append_nil]
  | cons second others ih =>
    rw [String.intercalate_cons_of_ne_nil (List.cons_ne_nil _ _), toList_ascii_append,
      toList_ascii_append, hcomma, ih second, List.flatMap_cons]
    simp

mutual

theorem toList_ascii_render : ∀ value : Json,
    (ascii (render "," ":" value)).toList = valueText value
  | .null => by decide
  | .bool true => by decide
  | .bool false => by decide
  | .int n => by
    rw [render, valueText, intText]
    split
    · rw [toList_ascii_append, toList_ascii_decimal]
      rfl
    · exact toList_ascii_decimal _
  | .float _ => rfl
  | .str s => by rw [render, toList_ascii_dumpString, valueText]
  | .arr xs => by
    have hopen : (ascii "[").toList = ['['] := by decide
    have hclose : (ascii "]").toList = [']'] := by decide
    rw [render, toList_ascii_append, toList_ascii_append, hopen, hclose, valueText]
    match xs with
    | [] => rfl
    | x :: xs =>
      rw [renderList, toList_ascii_intercalate, toList_ascii_render x, itemsText,
        ← flatMap_renderList xs]
      simp
  | .obj fields => by
    have hopen : (ascii "\x7b").toList = ['\x7b'] := by decide
    have hclose : (ascii "\x7d").toList = ['\x7d'] := by decide
    have hcolon : (ascii ":").toList = [':'] := by decide
    rw [render, toList_ascii_append, toList_ascii_append, hopen, hclose, valueText]
    match fields with
    | [] => rfl
    | (key, x) :: fields =>
      rw [renderFields, toList_ascii_intercalate, toList_ascii_append, toList_ascii_append,
        toList_ascii_dumpString, hcolon, toList_ascii_render x, entriesText,
        ← flatMap_renderFields fields]
      simp

theorem flatMap_renderList : ∀ xs : List Json,
    ((renderList "," ":" xs).flatMap fun s => ',' :: (ascii s).toList) ++ [']'] = moreItemsText xs
  | [] => rfl
  | x :: xs => by
    rw [renderList, List.flatMap_cons, toList_ascii_render x, moreItemsText,
      ← flatMap_renderList xs]
    simp

theorem flatMap_renderFields : ∀ fields : List (String × Json),
    ((renderFields "," ":" fields).flatMap fun s => ',' :: (ascii s).toList) ++ ['\x7d'] =
      moreEntriesText fields
  | [] => rfl
  | (key, x) :: fields => by
    have hcolon : (ascii ":").toList = [':'] := by decide
    rw [renderFields, List.flatMap_cons, toList_ascii_append, toList_ascii_append,
      toList_ascii_dumpString, hcolon, toList_ascii_render x, moreEntriesText,
      ← flatMap_renderFields fields]
    simp

end

lemma toList_ascii_dumps_value (value : Json) : (ascii (dumps value)).toList = valueText value :=
  toList_ascii_render value

/-! ## Strings -/

/-- A string and what follows it are read back. -/
lemma stringText_inj {s s' : String} {r r' : List Char}
    (h : stringText s ++ r = stringText s' ++ r') : s = s' ∧ r = r' := by
  have hread : ∀ (t : String) (rest : List Char) (n : ℕ), t.toList.length + 1 < n →
      readValue id n (stringText t ++ rest) = some (.str t, rest) := fun t rest n hn =>
    readValue_string hn rest
  have hleft := hread s r (s.toList.length + s'.toList.length + 2) (by omega)
  rw [h, hread s' r' _ (by omega)] at hleft
  simp only [Option.some.injEq, Prod.mk.injEq, str.injEq] at hleft
  exact ⟨hleft.1.symm, hleft.2.symm⟩

/-! ## Numbers and constants -/

/-- The marks that begin, separate and end values. -/
def isMark (c : Char) : Bool := c ∈ ['"', '[', '\x7b', ',', ']', '\x7d']

/-- A text that is over or goes on with a mark. -/
def Stops (r : List Char) : Prop := ∀ c ∈ r.head?, isMark c = true

/-- A word without marks and what follows it are split at the first mark. -/
lemma split_mark {a b r r' : List Char} (h : a ++ r = b ++ r') (ha : ∀ c ∈ a, isMark c = false)
    (hb : ∀ c ∈ b, isMark c = false) (hr : Stops r) (hr' : Stops r') : a = b ∧ r = r' := by
  induction a generalizing b with
  | nil =>
    cases b with
    | nil => exact ⟨rfl, h⟩
    | cons c b =>
      rw [List.nil_append] at h
      rw [h] at hr
      exact absurd (hr c rfl) (by simp [hb c List.mem_cons_self])
  | cons c a ih =>
    cases b with
    | nil =>
      rw [List.nil_append] at h
      rw [← h] at hr'
      exact absurd (hr' c rfl) (by simp [ha c List.mem_cons_self])
    | cons d b =>
      obtain ⟨rfl, hrest⟩ := List.cons.inj h
      obtain ⟨rfl, rfl⟩ := ih hrest (fun c hc => ha c (List.mem_cons_of_mem _ hc))
        fun c hc => hb c (List.mem_cons_of_mem _ hc)
      exact ⟨rfl, rfl⟩

/-- The mark that begins a string, an array and an object. -/
def opening : Json → Option Char
  | .str _ => some '"'
  | .arr _ => some '['
  | .obj _ => some '\x7b'
  | _ => none

lemma mem_intText {n : ℤ} {c : Char} (h : c ∈ intText n) : c = '-' ∨ c.isDigit = true := by
  rw [intText] at h
  split at h
  · rcases List.mem_cons.1 h with rfl | h
    · exact Or.inl rfl
    · exact Or.inr (isDigit_of_mem_decimal h)
  · exact Or.inr (isDigit_of_mem_decimal h)

lemma forall_mem_of_all {p : Char → Prop} [DecidablePred p] {cs : List Char}
    (h : (cs.all fun c => p c) = true) : ∀ c ∈ cs, p c := fun c hc =>
  of_decide_eq_true (List.all_eq_true.1 h c hc)

lemma floatText_toList {text : String} (h : isFloatText text = true) :
    (ascii text).toList = text.toList ∧ (∀ c ∈ text.toList, c ∈ "0123456789+-.eINafinty".toList) ∧
      ∃ c ∈ text.toList, c ∈ ['.', 'e', 'N', 'I'] := by
  simp only [isFloatText, Bool.and_eq_true, List.all_eq_true, List.any_eq_true,
    decide_eq_true_eq] at h
  have hascii : ∀ c ∈ "0123456789+-.eINafinty".toList, 32 ≤ c.toNat ∧ c.toNat ≤ 126 :=
    forall_mem_of_all (by decide)
  exact ⟨toList_ascii_eq fun c hc => hascii c (h.1 c hc), h.1, h.2⟩

lemma isDigit_cases {c : Char} (h : c.isDigit = true) : c ∈ "0123456789".toList := by
  simp only [Char.isDigit, Bool.and_eq_true, decide_eq_true_eq] at h
  have hlow : 48 ≤ c.toNat := h.1
  have hhigh : c.toNat ≤ 57 := h.2
  have hall : ∀ n < 58, 48 ≤ n → Char.ofNat n ∈ "0123456789".toList := by decide
  have hmem := hall c.toNat (by omega) hlow
  rwa [Char.ofNat_toNat] at hmem

/-- The characters of a number or a constant. -/
lemma scalar_chars {value : Json} (h : value.hasFloatTexts = true) (hopen : value.opening = none) :
    valueText value ≠ [] ∧ ∀ c ∈ valueText value, isMark c = false := by
  have hdigit : ∀ c ∈ "0123456789".toList, isMark c = false := forall_mem_of_all (by decide)
  have hfloat : ∀ c ∈ "0123456789+-.eINafinty".toList, isMark c = false :=
    forall_mem_of_all (by decide)
  cases value with
  | null => exact ⟨by decide, forall_mem_of_all (by decide)⟩
  | bool b => cases b <;> exact ⟨by decide, forall_mem_of_all (by decide)⟩
  | int n =>
    rw [valueText]
    refine ⟨?_, fun c hc => ?_⟩
    · have hne : (decimal n.natAbs).toList ≠ [] := by
        rw [toList_decimal]
        exact List.ne_nil_of_length_pos Nat.length_toDigits_pos
      rw [intText]
      split
      · exact List.cons_ne_nil _ _
      · exact hne
    · rcases mem_intText hc with rfl | hc
      · decide
      · exact hdigit c (isDigit_cases hc)
  | float text =>
    obtain ⟨hascii, hchars, c, hc, -⟩ := floatText_toList h
    rw [valueText, hascii]
    exact ⟨List.ne_nil_of_mem hc, fun c hc => hfloat c (hchars c hc)⟩
  | str | arr | obj => cases hopen

lemma intText_inj {m n : ℤ} (h : intText m = intText n) : m = n := by
  have hminus : ∀ k : ℕ, '-' ∉ (decimal k).toList := fun k hmem =>
    absurd (isDigit_of_mem_decimal hmem) (by decide)
  rw [intText, intText] at h
  by_cases hm : m < 0 <;> by_cases hn : n < 0
  · rw [if_pos hm, if_pos hn] at h
    have habs := decimal_injective (List.cons.inj h).2
    omega
  · rw [if_pos hm, if_neg hn] at h
    exact absurd (h ▸ List.mem_cons_self) (hminus n.natAbs)
  · rw [if_neg hm, if_pos hn] at h
    exact absurd (h.symm ▸ List.mem_cons_self) (hminus m.natAbs)
  · rw [if_neg hm, if_neg hn] at h
    have habs := decimal_injective h
    omega

/-- The kind of a number or a constant, from its text. -/
def textKind (cs : List Char) : ℕ :=
  if cs.any (· ∈ ['u', 'l']) then 0 else if cs.any (· ∈ ['.', 'e', 'N', 'I']) then 1 else 2

lemma textKind_int (n : ℤ) : textKind (valueText (.int n)) = 2 := by
  have hdigit : ∀ c ∈ "0123456789".toList, c ∉ ['u', 'l'] ∧ c ∉ ['.', 'e', 'N', 'I'] :=
    forall_mem_of_all (by decide)
  have hchars : ∀ c ∈ intText n, c ∉ ['u', 'l'] ∧ c ∉ ['.', 'e', 'N', 'I'] := by
    intro c hc
    rcases mem_intText hc with rfl | hc
    · decide
    · exact hdigit c (isDigit_cases hc)
  rw [valueText, textKind, if_neg, if_neg]
  · simp only [List.any_eq_true, decide_eq_true_eq, not_exists, not_and]
    exact fun c hc => (hchars c hc).2
  · simp only [List.any_eq_true, decide_eq_true_eq, not_exists, not_and]
    exact fun c hc => (hchars c hc).1

lemma textKind_float {text : String} (h : isFloatText text = true) :
    textKind (valueText (.float text)) = 1 := by
  obtain ⟨hascii, hchars, hmarked⟩ := floatText_toList h
  have hletters : ∀ c ∈ "0123456789+-.eINafinty".toList, c ∉ ['u', 'l'] :=
    forall_mem_of_all (by decide)
  rw [valueText, hascii, textKind, if_neg, if_pos]
  · simpa only [List.any_eq_true, decide_eq_true_eq] using hmarked
  · simp only [List.any_eq_true, decide_eq_true_eq, not_exists, not_and]
    exact fun c hc => hletters c (hchars c hc)

/-- Numbers and constants with one text are the same. -/
lemma scalar_inj {v w : Json} (hv : v.hasFloatTexts = true) (hw : w.hasFloatTexts = true)
    (hvo : v.opening = none) (hwo : w.opening = none) (h : valueText v = valueText w) : v = w := by
  have hnull : textKind (valueText .null) = 0 := by decide
  have hbool : ∀ b, textKind (valueText (.bool b)) = 0 := by decide
  have hkind := congrArg textKind h
  cases v with
  | str | arr | obj => cases hvo
  | null =>
    cases w with
    | str | arr | obj => cases hwo
    | null => rfl
    | bool b => cases b <;> exact absurd h (by decide)
    | int n => rw [hnull, textKind_int] at hkind; cases hkind
    | float text => rw [hnull, textKind_float hw] at hkind; cases hkind
  | bool a =>
    cases w with
    | str | arr | obj => cases hwo
    | null => cases a <;> exact absurd h (by decide)
    | bool b => cases a <;> cases b <;> first | rfl | exact absurd h (by decide)
    | int n => rw [hbool, textKind_int] at hkind; cases hkind
    | float text => rw [hbool, textKind_float hw] at hkind; cases hkind
  | int m =>
    cases w with
    | str | arr | obj => cases hwo
    | null => rw [hnull, textKind_int] at hkind; cases hkind
    | bool b => rw [hbool, textKind_int] at hkind; cases hkind
    | int n => rw [intText_inj h]
    | float text => rw [textKind_int, textKind_float hw] at hkind; cases hkind
  | float text =>
    cases w with
    | str | arr | obj => cases hwo
    | null => rw [hnull, textKind_float hv] at hkind; cases hkind
    | bool b => rw [hbool, textKind_float hv] at hkind; cases hkind
    | int n => rw [textKind_int, textKind_float hv] at hkind; cases hkind
    | float text' =>
      rw [valueText, valueText, (floatText_toList hv).1, (floatText_toList hw).1] at h
      rw [String.toList_inj.1 h]

/-! ## Values -/

/-- The first character of a value tells whether it is a string, an array, an object, or none. -/
lemma head?_valueText {value : Json} (h : value.hasFloatTexts = true) (rest : List Char) :
    (∃ c, value.opening = some c ∧ (valueText value ++ rest).head? = some c) ∨
      (value.opening = none ∧ ∃ c, (valueText value ++ rest).head? = some c ∧
      isMark c = false) := by
  cases hopen : value.opening with
  | none =>
    obtain ⟨hne, hchars⟩ := scalar_chars h hopen
    obtain ⟨c, cs, hcs⟩ := List.exists_cons_of_ne_nil hne
    refine Or.inr ⟨rfl, c, by rw [hcs]; rfl, hchars c ?_⟩
    rw [hcs]
    exact List.mem_cons_self
  | some c =>
    refine Or.inl ⟨c, rfl, ?_⟩
    cases value with
    | str | arr | obj => obtain rfl := Option.some.inj hopen; rfl
    | _ => cases hopen

lemma isMark_opening {value : Json} {c : Char} (h : value.opening = some c) : isMark c = true := by
  cases value with
  | str | arr | obj => obtain rfl := Option.some.inj h; rfl
  | _ => cases h

lemma opening_inj {v w : Json} {r r' : List Char} (hv : v.hasFloatTexts = true)
    (hw : w.hasFloatTexts = true) (h : valueText v ++ r = valueText w ++ r') :
    v.opening = w.opening := by
  rcases head?_valueText hv r with ⟨c, hc, hhead⟩ | ⟨hc, c, hhead, hplain⟩ <;>
    rcases head?_valueText hw r' with ⟨d, hd, hhead'⟩ | ⟨hd, d, hhead', hplain'⟩ <;>
    rw [h, hhead'] at hhead
  · rw [hc, hd, Option.some.inj hhead]
  · rw [Option.some.inj hhead, isMark_opening hc] at hplain'
    cases hplain'
  · rw [← Option.some.inj hhead, isMark_opening hd] at hplain
    cases hplain
  · rw [hc, hd]

/-- A value does not begin with the end of an array or an object. -/
lemma valueText_ne_close {value : Json} (h : value.hasFloatTexts = true) {c : Char}
    (hc : c = ']' ∨ c = '\x7d') (rest tail : List Char) : valueText value ++ rest ≠ c :: tail := by
  intro heq
  have hhead : (valueText value ++ rest).head? = some c := by rw [heq]; rfl
  have hmark : isMark c = true := by rcases hc with rfl | rfl <;> rfl
  rcases head?_valueText h rest with ⟨d, hd, hfirst⟩ | ⟨-, d, hfirst, hplain⟩
  · obtain rfl := Option.some.inj (hhead.symm.trans hfirst)
    cases value with
    | str | arr | obj => obtain rfl := Option.some.inj hd; rcases hc with hc | hc <;> cases hc
    | _ => cases hd
  · obtain rfl := Option.some.inj (hhead.symm.trans hfirst)
    rw [hmark] at hplain
    cases hplain

lemma stops_moreItems (xs : List Json) (r : List Char) : Stops (moreItemsText xs ++ r) := by
  cases xs <;> exact fun c hc => by obtain rfl := Option.some.inj hc; rfl

lemma stops_moreEntries (fields : List (String × Json)) (r : List Char) :
    Stops (moreEntriesText fields ++ r) := by
  cases fields <;> exact fun c hc => by obtain rfl := Option.some.inj hc; rfl

lemma scalarText_inj {v w : Json} {r r' : List Char} (hopen : v.opening = none)
    (hv : v.hasFloatTexts = true) (hw : w.hasFloatTexts = true) (hr : Stops r) (hr' : Stops r')
    (h : valueText v ++ r = valueText w ++ r') : v = w ∧ r = r' := by
  have hopen' : w.opening = none := by rw [← opening_inj hv hw h, hopen]
  obtain ⟨htext, hrest⟩ :=
    split_mark h (scalar_chars hv hopen).2 (scalar_chars hw hopen').2 hr hr'
  exact ⟨scalar_inj hv hw hopen hopen' htext, hrest⟩

mutual

/-- A value and what follows it are determined by their text. -/
theorem valueText_inj : ∀ (v w : Json) {r r' : List Char}, v.hasFloatTexts = true →
    w.hasFloatTexts = true → Stops r → Stops r' → valueText v ++ r = valueText w ++ r' →
      v = w ∧ r = r'
  | .str s, w, r, r', hv, hw, _, _, h => by
    have hopen := opening_inj hv hw h
    cases w with
    | str s' =>
      obtain ⟨rfl, rfl⟩ := stringText_inj h
      exact ⟨rfl, rfl⟩
    | _ => cases hopen
  | .arr xs, w, r, r', hv, hw, _, _, h => by
    have hopen := opening_inj hv hw h
    cases w with
    | arr ys =>
      obtain ⟨rfl, rfl⟩ := itemsText_inj xs ys hv hw (List.cons.inj h).2
      exact ⟨rfl, rfl⟩
    | _ => cases hopen
  | .obj fields, w, r, r', hv, hw, _, _, h => by
    have hopen := opening_inj hv hw h
    cases w with
    | obj fields' =>
      obtain ⟨rfl, rfl⟩ := entriesText_inj fields fields' hv hw (List.cons.inj h).2
      exact ⟨rfl, rfl⟩
    | _ => cases hopen
  | .null, w, r, r', hv, hw, hr, hr', h => scalarText_inj rfl hv hw hr hr' h
  | .bool _, w, r, r', hv, hw, hr, hr', h => scalarText_inj rfl hv hw hr hr' h
  | .int _, w, r, r', hv, hw, hr, hr', h => scalarText_inj rfl hv hw hr hr' h
  | .float _, w, r, r', hv, hw, hr, hr', h => scalarText_inj rfl hv hw hr hr' h

theorem itemsText_inj : ∀ (xs ys : List Json) {r r' : List Char},
    itemsHaveFloatTexts xs = true → itemsHaveFloatTexts ys = true →
      itemsText xs ++ r = itemsText ys ++ r' → xs = ys ∧ r = r'
  | [], [], _, _, _, _, h => ⟨rfl, (List.cons.inj h).2⟩
  | [], y :: ys, r, r', _, hys, h => by
    rw [itemsHaveFloatTexts, Bool.and_eq_true] at hys
    rw [itemsText, itemsText, List.append_assoc] at h
    exact absurd h.symm (valueText_ne_close hys.1 (.inl rfl) _ _)
  | x :: xs, [], r, r', hxs, _, h => by
    rw [itemsHaveFloatTexts, Bool.and_eq_true] at hxs
    rw [itemsText, itemsText, List.append_assoc] at h
    exact absurd h (valueText_ne_close hxs.1 (.inl rfl) _ _)
  | x :: xs, y :: ys, r, r', hxs, hys, h => by
    rw [itemsHaveFloatTexts, Bool.and_eq_true] at hxs hys
    rw [itemsText, itemsText, List.append_assoc, List.append_assoc] at h
    obtain ⟨rfl, hrest⟩ :=
      valueText_inj x y hxs.1 hys.1 (stops_moreItems xs r) (stops_moreItems ys r') h
    obtain ⟨rfl, rfl⟩ := moreItemsText_inj xs ys hxs.2 hys.2 hrest
    exact ⟨rfl, rfl⟩

theorem moreItemsText_inj : ∀ (xs ys : List Json) {r r' : List Char},
    itemsHaveFloatTexts xs = true → itemsHaveFloatTexts ys = true →
      moreItemsText xs ++ r = moreItemsText ys ++ r' → xs = ys ∧ r = r'
  | [], [], _, _, _, _, h => ⟨rfl, (List.cons.inj h).2⟩
  | [], _ :: _, _, _, _, _, h => absurd (List.cons.inj h).1 (by decide)
  | _ :: _, [], _, _, _, _, h => absurd (List.cons.inj h).1 (by decide)
  | x :: xs, y :: ys, r, r', hxs, hys, h => by
    rw [itemsHaveFloatTexts, Bool.and_eq_true] at hxs hys
    rw [moreItemsText, moreItemsText, List.cons_append, List.cons_append, List.append_assoc,
      List.append_assoc] at h
    obtain ⟨rfl, hrest⟩ := valueText_inj x y hxs.1 hys.1 (stops_moreItems xs r)
      (stops_moreItems ys r') (List.cons.inj h).2
    obtain ⟨rfl, rfl⟩ := moreItemsText_inj xs ys hxs.2 hys.2 hrest
    exact ⟨rfl, rfl⟩

theorem entriesText_inj : ∀ (fields fields' : List (String × Json)) {r r' : List Char},
    fieldsHaveFloatTexts fields = true → fieldsHaveFloatTexts fields' = true →
      entriesText fields ++ r = entriesText fields' ++ r' → fields = fields' ∧ r = r'
  | [], [], _, _, _, _, h => ⟨rfl, (List.cons.inj h).2⟩
  | [], (_, _) :: _, _, _, _, _, h => absurd (List.cons.inj h).1 (by decide)
  | (_, _) :: _, [], _, _, _, _, h => absurd (List.cons.inj h).1 (by decide)
  | (key, x) :: fields, (key', y) :: fields', r, r', hfields, hfields', h => by
    rw [fieldsHaveFloatTexts, Bool.and_eq_true] at hfields hfields'
    rw [entriesText, entriesText, List.append_assoc, List.append_assoc, List.cons_append,
      List.cons_append, List.append_assoc, List.append_assoc] at h
    obtain ⟨rfl, hcolon⟩ := stringText_inj h
    obtain ⟨rfl, hrest⟩ := valueText_inj x y hfields.1 hfields'.1 (stops_moreEntries fields r)
      (stops_moreEntries fields' r') (List.cons.inj hcolon).2
    obtain ⟨rfl, rfl⟩ := moreEntriesText_inj fields fields' hfields.2 hfields'.2 hrest
    exact ⟨rfl, rfl⟩

theorem moreEntriesText_inj : ∀ (fields fields' : List (String × Json)) {r r' : List Char},
    fieldsHaveFloatTexts fields = true → fieldsHaveFloatTexts fields' = true →
      moreEntriesText fields ++ r = moreEntriesText fields' ++ r' → fields = fields' ∧ r = r'
  | [], [], _, _, _, _, h => ⟨rfl, (List.cons.inj h).2⟩
  | [], (_, _) :: _, _, _, _, _, h => absurd (List.cons.inj h).1 (by decide)
  | (_, _) :: _, [], _, _, _, _, h => absurd (List.cons.inj h).1 (by decide)
  | (key, x) :: fields, (key', y) :: fields', r, r', hfields, hfields', h => by
    rw [fieldsHaveFloatTexts, Bool.and_eq_true] at hfields hfields'
    rw [moreEntriesText, moreEntriesText, List.cons_append, List.cons_append, List.append_assoc,
      List.append_assoc, List.cons_append, List.cons_append, List.append_assoc,
      List.append_assoc] at h
    obtain ⟨rfl, hcolon⟩ := stringText_inj (List.cons.inj h).2
    obtain ⟨rfl, hrest⟩ := valueText_inj x y hfields.1 hfields'.1 (stops_moreEntries fields r)
      (stops_moreEntries fields' r') (List.cons.inj hcolon).2
    obtain ⟨rfl, rfl⟩ := moreEntriesText_inj fields fields' hfields.2 hfields'.2 hrest
    exact ⟨rfl, rfl⟩

end

/-- **The text of a value determines it.** -/
theorem dumps_injective {v w : Json} (hv : v.hasFloatTexts = true) (hw : w.hasFloatTexts = true)
    (h : ascii (dumps v) = ascii (dumps w)) : v = w := by
  have htext : valueText v ++ [] = valueText w ++ [] := by
    rw [← toList_ascii_dumps_value, ← toList_ascii_dumps_value, h]
  have hend : Stops [] := fun c hc => by cases hc
  exact (valueText_inj v w hv hw hend hend htext).1

end Json

end AgenticMesh
