import Mathlib.Data.List.Basic
import Mathlib.Tactic.TypeStar

/-!
# UTF-8 and percent encoding

`urllib.parse.quote` and its inverse: a character that is neither unreserved nor declared
safe is written as the hexadecimal digits of its UTF-8 bytes.
-/

namespace AgenticMesh

/-! ## UTF-8 -/

/-- The UTF-8 bytes of some characters. -/
def encodeUtf8 (cs : List Char) : List UInt8 := cs.flatMap String.utf8EncodeChar

/-- The characters of UTF-8 bytes; `none` when they are invalid. -/
def decodeUtf8 (bytes : List UInt8) : Option (List Char) :=
  bytes.toByteArray.utf8Decode?.map Array.toList

@[simp] lemma encodeUtf8_cons (c : Char) (cs : List Char) :
    encodeUtf8 (c :: cs) = String.utf8EncodeChar c ++ encodeUtf8 cs := rfl

@[simp] lemma decodeUtf8_encodeUtf8 (cs : List Char) : decodeUtf8 (encodeUtf8 cs) = some cs := by
  have hencode : (encodeUtf8 cs).toByteArray = cs.utf8Encode := rfl
  rw [decodeUtf8, hencode, List.utf8Decode?_utf8Encode]
  simp

/-- ASCII characters have one byte each. -/
lemma length_encodeUtf8 {cs : List Char} (h : ∀ c ∈ cs, c.toNat < 128) :
    (encodeUtf8 cs).length = cs.length := by
  induction cs with
  | nil => rfl
  | cons c cs ih =>
    obtain ⟨hc, hcs⟩ := List.forall_mem_cons.1 h
    have hsize : (String.utf8EncodeChar c).length = 1 := by
      rw [String.length_utf8EncodeChar]
      exact Char.utf8Size_eq_one_iff.2 (by
        rw [UInt32.le_iff_toNat_le]
        exact Nat.le_of_lt_succ hc)
    rw [encodeUtf8_cons, List.length_append, hsize, ih hcs, List.length_cons, Nat.add_comm]

/-! ## Hexadecimal digits -/

/-- The digits of `quote`. -/
def hexDigits : List Char :=
  ['0', '1', '2', '3', '4', '5', '6', '7', '8', '9', 'A', 'B', 'C', 'D', 'E', 'F']

def upperHex (n : ℕ) : Char := hexDigits.getD n '0'

/-- The value of a hexadecimal digit of either case. -/
def hexValue (c : Char) : Option ℕ :=
  if c.isDigit then some (c.toNat - 48)
  else if 'A' ≤ c ∧ c ≤ 'F' then some (c.toNat - 55)
  else if 'a' ≤ c ∧ c ≤ 'f' then some (c.toNat - 87)
  else none

lemma hexValue_upperHex : ∀ n < 16, hexValue (upperHex n) = some n := by decide

lemma isAlphanum_upperHex : ∀ n < 16, (upperHex n).isAlphanum = true := by decide

/-! ## Percent encoding -/

/-- A byte as `%XX`. -/
def quoteByte (b : UInt8) : List Char := ['%', upperHex (b.toNat / 16), upperHex (b.toNat % 16)]

/-- The characters that `quote` never changes. -/
def isUnreserved (c : Char) : Bool := c.isAlphanum || c ∈ ['_', '.', '-', '~']

/-- `quote`, character by character. -/
def quoteChar (safe : List Char) (c : Char) : List Char :=
  if isUnreserved c || c ∈ safe then [c] else (String.utf8EncodeChar c).flatMap quoteByte

/-- `quote(s, safe)`. -/
def quote (safe : List Char) (s : String) : String :=
  String.ofList (s.toList.flatMap (quoteChar safe))

/-- `unquote_to_bytes`: what does not begin an escape stands for itself. -/
def unquoteBytes : List Char → List UInt8
  | [] => []
  | '%' :: h :: l :: cs =>
    match hexValue h, hexValue l with
    | some a, some b => UInt8.ofNat (16 * a + b) :: unquoteBytes cs
    | _, _ => String.utf8EncodeChar '%' ++ unquoteBytes (h :: l :: cs)
  | c :: cs => String.utf8EncodeChar c ++ unquoteBytes cs

/-- The text that a percent encoding stands for; `none` when its bytes are no UTF-8. -/
def unquote (s : String) : Option String :=
  (decodeUtf8 (unquoteBytes s.toList)).map String.ofList

lemma unquoteBytes_of_ne {c : Char} (h : c ≠ '%') (cs : List Char) :
    unquoteBytes (c :: cs) = String.utf8EncodeChar c ++ unquoteBytes cs := by
  rw [unquoteBytes]
  intro h' l' cs' hc
  exact absurd hc h

lemma unquoteBytes_quoteByte (b : UInt8) (cs : List Char) :
    unquoteBytes (quoteByte b ++ cs) = b :: unquoteBytes cs := by
  have hb : b.toNat < 256 := b.toNat_lt
  show unquoteBytes ('%' :: upperHex (b.toNat / 16) :: upperHex (b.toNat % 16) :: cs) = _
  rw [unquoteBytes, hexValue_upperHex _ (by omega), hexValue_upperHex _ (by omega)]
  dsimp only
  rw [Nat.div_add_mod, UInt8.ofNat_toNat]

lemma unquoteBytes_quoteBytes (bs : List UInt8) (cs : List Char) :
    unquoteBytes (bs.flatMap quoteByte ++ cs) = bs ++ unquoteBytes cs := by
  induction bs with
  | nil => rfl
  | cons b bs ih =>
    rw [List.flatMap_cons, List.append_assoc, unquoteBytes_quoteByte, ih]
    rfl

variable {safe : List Char}

lemma unquoteBytes_quoteChars (h : '%' ∉ safe) (cs rest : List Char) :
    unquoteBytes (cs.flatMap (quoteChar safe) ++ rest) = encodeUtf8 cs ++ unquoteBytes rest := by
  induction cs with
  | nil => rfl
  | cons c cs ih =>
    rw [List.flatMap_cons, List.append_assoc, encodeUtf8_cons, List.append_assoc, quoteChar]
    split
    · next hplain =>
      have hc : c ≠ '%' := by
        rintro rfl
        simp [h] at hplain
        exact absurd hplain (by decide)
      rw [List.singleton_append, unquoteBytes_of_ne hc, ih]
    · rw [unquoteBytes_quoteBytes, ih]

/-- **Round trip.** -/
theorem unquote_quote (h : '%' ∉ safe) (s : String) : unquote (quote safe s) = some s := by
  have hbytes := unquoteBytes_quoteChars h s.toList []
  rw [List.append_nil, unquoteBytes, List.append_nil] at hbytes
  rw [unquote, quote, String.toList_ofList, hbytes, decodeUtf8_encodeUtf8, Option.map_some,
    String.ofList_toList]

lemma quote_injective (h : '%' ∉ safe) {s t : String} (heq : quote safe s = quote safe t) :
    s = t := by
  have hs := unquote_quote h s
  rw [heq, unquote_quote h t] at hs
  exact (Option.some.inj hs).symm

/-- The characters of an encoded text. -/
lemma mem_quote {s : String} {c : Char} (h : c ∈ (quote safe s).toList) :
    isUnreserved c = true ∨ c = '%' ∨ c ∈ safe ∧ c ∈ s.toList := by
  rw [quote, String.toList_ofList, List.mem_flatMap] at h
  obtain ⟨d, hd, hc⟩ := h
  rw [quoteChar] at hc
  split at hc
  · next hplain =>
    obtain rfl := List.mem_singleton.1 hc
    rcases Bool.or_eq_true_iff.1 hplain with hplain | hsafe
    · exact .inl hplain
    · exact .inr (.inr ⟨by simpa using hsafe, hd⟩)
  · obtain ⟨b, -, hc⟩ := List.mem_flatMap.1 hc
    have hb : b.toNat < 256 := b.toNat_lt
    have hhex : ∀ n < 16, isUnreserved (upperHex n) = true := fun n hn => by
      rw [isUnreserved, isAlphanum_upperHex n hn]
      rfl
    rcases List.mem_cons.1 hc with rfl | hc
    · exact .inr (.inl rfl)
    · rcases List.mem_cons.1 hc with rfl | hc
      · exact .inl (hhex _ (by omega))
      · rw [List.mem_singleton.1 hc]
        exact .inl (hhex _ (by omega))

/-! ## Separators -/

lemma splitOn_append_of_not_mem {a : Char} {xs : List Char} (h : a ∉ xs) (ys : List Char) :
    (xs ++ ys).splitOn a = (ys.splitOn a).modifyHead (xs ++ ·) := by
  induction xs with
  | nil =>
    have hid : (fun zs : List Char => [] ++ zs) = id := funext fun zs => List.nil_append zs
    rw [List.nil_append, hid, List.modifyHead_id]
    rfl
  | cons x xs ih =>
    have hx : x ≠ a := fun hx => h (hx ▸ List.mem_cons_self)
    have hcons : (fun zs => x :: zs) ∘ (fun zs => xs ++ zs) = fun zs => (x :: xs) ++ zs := rfl
    rw [List.cons_append, List.splitOn_cons_eq_if_modifyHead, if_neg (by simpa using hx),
      ih fun hmem => h (List.mem_cons_of_mem _ hmem), List.modifyHead_modifyHead, hcons]

/-- Encoding respects the separators that it leaves alone. -/
lemma splitOn_flatMap {a : Char} {f : Char → List Char} (ha : f a = [a])
    (hf : ∀ c, c ≠ a → a ∉ f c) (cs : List Char) :
    (cs.flatMap f).splitOn a = (cs.splitOn a).map (·.flatMap f) := by
  induction cs with
  | nil => rfl
  | cons c cs ih =>
    rw [List.flatMap_cons, List.splitOn_cons_eq_if_modifyHead]
    by_cases hc : c = a
    · subst hc
      have hsplit := List.splitOn_append_cons_self (a := c) [] (cs.flatMap f)
      rw [ha, if_pos (by simp), List.map_cons, ← ih]
      exact hsplit
    · rw [if_neg (by simpa using hc), splitOn_append_of_not_mem (hf c hc), ih]
      cases cs.splitOn a <;> simp

end AgenticMesh
