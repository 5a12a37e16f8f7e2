import Mathlib.Data.List.DropRight
import Mathlib.Tactic.TypeStar

/-!
# URL-safe Base64

`urlsafe_b64encode`, and `b64decode` in its strict mode with the alternative characters `-_`,
which reads the characters `+/` as well.
-/

namespace AgenticMesh

namespace Base64

/-! ## Digits -/

/-- The digits of the URL-safe alphabet. -/
def alphabet : List Char :=
  "ABCDEFGHIJKLMNOPQRSTUVWXYZabcdefghijklmnopqrstuvwxyz0123456789-_".toList

def digit (n : ℕ) : Char := alphabet.getD n 'A'

/-- The value of a digit; `+` and `/` stand for `-` and `_`. -/
def value (c : Char) : Option ℕ :=
  if c.isUpper then some (c.toNat - 65)
  else if c.isLower then some (c.toNat - 71)
  else if c.isDigit then some (c.toNat + 4)
  else if c = '-' ∨ c = '+' then some 62
  else if c = '_' ∨ c = '/' then some 63
  else none

lemma value_digit : ∀ n < 64, value (digit n) = some n := by decide +kernel

lemma digit_ne_pad : ∀ n < 64, digit n ≠ '=' := by decide +kernel

/-! ## Groups of three bytes -/

/-- `urlsafe_b64encode`. -/
def encode : List UInt8 → List Char
  | [] => []
  | [a] => [digit (a.toNat / 4), digit (a.toNat % 4 * 16), '=', '=']
  | [a, b] => [digit (a.toNat / 4), digit (a.toNat % 4 * 16 + b.toNat / 16),
      digit (b.toNat % 16 * 4), '=']
  | a :: b :: c :: bytes =>
    digit (a.toNat / 4) :: digit (a.toNat % 4 * 16 + b.toNat / 16) ::
      digit (b.toNat % 16 * 4 + c.toNat / 64) :: digit (c.toNat % 64) :: encode bytes

/-- The three bytes of four values. -/
def bytesOf (a b c d : ℕ) : List UInt8 :=
  [UInt8.ofNat (a * 4 + b / 16), UInt8.ofNat (b % 16 * 16 + c / 4), UInt8.ofNat (c % 4 * 64 + d)]

/-- The bytes of a group without padding. -/
def wholeGroup (a b c d : Char) : Option (List UInt8) := do
  return bytesOf (← value a) (← value b) (← value c) (← value d)

/-- The bytes of the last group. -/
def lastGroup (a b c d : Char) : Option (List UInt8) :=
  if d ≠ '=' then wholeGroup a b c d
  else if c ≠ '=' then do
    return (bytesOf (← value a) (← value b) (← value c) 0).take 2
  else do
    return (bytesOf (← value a) (← value b) 0 0).take 1

/-- The bytes of groups of four characters; padding alone is ignored after a whole group. -/
def decodeGroups (started : Bool) : List Char → Option (List UInt8)
  | [] => some []
  | '=' :: cs => if started ∧ cs.all (· == '=') = true then some [] else none
  | a :: b :: c :: d :: cs =>
    if cs = [] then lastGroup a b c d
    else do
      let group ← wholeGroup a b c d
      let bytes ← decodeGroups true cs
      return group ++ bytes
  | _ => none

/-- `b64decode` with `validate`. -/
def decode (cs : List Char) : Option (List UInt8) := decodeGroups false cs

/-! ## Round trip -/

lemma bytesOf_eq {a b c : UInt8} {i j k l : ℕ} (ha : i * 4 + j / 16 = a.toNat)
    (hb : j % 16 * 16 + k / 4 = b.toNat) (hc : k % 4 * 64 + l = c.toNat) :
    bytesOf i j k l = [a, b, c] := by
  rw [bytesOf, ha, hb, hc, UInt8.ofNat_toNat, UInt8.ofNat_toNat, UInt8.ofNat_toNat]

/-- Three bytes are the bytes of their four digits. -/
lemma wholeGroup_digits (a b c : UInt8) :
    wholeGroup (digit (a.toNat / 4)) (digit (a.toNat % 4 * 16 + b.toNat / 16))
      (digit (b.toNat % 16 * 4 + c.toNat / 64)) (digit (c.toNat % 64)) = some [a, b, c] := by
  have ha := a.toNat_lt
  have hb := b.toNat_lt
  have hc := c.toNat_lt
  rw [wholeGroup, value_digit _ (by omega), value_digit _ (by omega), value_digit _ (by omega),
    value_digit _ (by omega)]
  exact congrArg some (bytesOf_eq (by omega) (by omega) (by omega))

/-- So are two bytes of three digits. -/
lemma lastGroup_two (a b : UInt8) :
    lastGroup (digit (a.toNat / 4)) (digit (a.toNat % 4 * 16 + b.toNat / 16))
      (digit (b.toNat % 16 * 4)) '=' = some [a, b] := by
  have ha := a.toNat_lt
  have hb := b.toNat_lt
  rw [lastGroup, if_neg (by simp), if_pos (digit_ne_pad _ (by omega)), value_digit _ (by omega),
    value_digit _ (by omega), value_digit _ (by omega)]
  have hbytes : bytesOf (a.toNat / 4) (a.toNat % 4 * 16 + b.toNat / 16) (b.toNat % 16 * 4) 0 =
      [a, b, 0] := bytesOf_eq (by omega) (by omega) (by simp)
  exact congrArg (fun bytes => some (bytes.take 2)) hbytes

/-- And one byte of two digits. -/
lemma lastGroup_one (a : UInt8) :
    lastGroup (digit (a.toNat / 4)) (digit (a.toNat % 4 * 16)) '=' '=' = some [a] := by
  have ha := a.toNat_lt
  rw [lastGroup, if_neg (by simp), if_neg (by simp), value_digit _ (by omega),
    value_digit _ (by omega)]
  have hbytes : bytesOf (a.toNat / 4) (a.toNat % 4 * 16) 0 0 = [a, 0, 0] :=
    bytesOf_eq (by omega) (by simp) (by simp)
  exact congrArg (fun bytes => some (bytes.take 1)) hbytes

/-- A group that does not begin with padding. -/
lemma decodeGroups_cons {started : Bool} {a : Char} (h : a ≠ '=') (b c d : Char)
    (cs : List Char) :
    decodeGroups started (a :: b :: c :: d :: cs) =
      if cs = [] then lastGroup a b c d
      else do
        let group ← wholeGroup a b c d
        let bytes ← decodeGroups true cs
        return group ++ bytes := by
  rw [decodeGroups]
  exact h

lemma encode_eq_nil {bytes : List UInt8} : encode bytes = [] ↔ bytes = [] := by
  constructor
  · intro h
    match bytes with
    | [] => rfl
    | [_] => exact absurd h nofun
    | [_, _] => exact absurd h nofun
    | _ :: _ :: _ :: _ => exact absurd h nofun
  · rintro rfl
    rfl

lemma decodeGroups_encode (started : Bool) (bytes : List UInt8) :
    decodeGroups started (encode bytes) = some bytes := by
  induction bytes using encode.induct generalizing started with
  | case1 => rfl
  | case2 a =>
    have ha := a.toNat_lt
    rw [encode, decodeGroups_cons (digit_ne_pad _ (by omega)), if_pos rfl, lastGroup_one]
  | case3 a b =>
    have ha := a.toNat_lt
    rw [encode, decodeGroups_cons (digit_ne_pad _ (by omega)), if_pos rfl, lastGroup_two]
  | case4 a b c bytes ih =>
    have ha := a.toNat_lt
    have hc := c.toNat_lt
    have hlast : lastGroup (digit (a.toNat / 4)) (digit (a.toNat % 4 * 16 + b.toNat / 16))
        (digit (b.toNat % 16 * 4 + c.toNat / 64)) (digit (c.toNat % 64)) = some [a, b, c] := by
      rw [lastGroup, if_pos (digit_ne_pad _ (by omega)), wholeGroup_digits]
    rw [encode, decodeGroups_cons (digit_ne_pad _ (by omega)), hlast, wholeGroup_digits, ih]
    split
    · next hnil =>
      rw [encode_eq_nil.1 hnil]
    · rfl

/-- **Round trip.** -/
theorem decode_encode (bytes : List UInt8) : decode (encode bytes) = some bytes :=
  decodeGroups_encode false bytes

/-! ## Padding -/

/-- The text without the padding at its end. -/
def unpadded (bytes : List UInt8) : List Char := (encode bytes).rdropWhile (· == '=')

/-- `"=" * (-len(value) % 4)`. -/
def padding (length : ℕ) : List Char := List.replicate ((4 - length % 4) % 4) '='

/-- An encoding is some digits and their padding. -/
lemma exists_digits (bytes : List UInt8) :
    ∃ ds, (∀ c ∈ ds, c ≠ '=') ∧ ds.length = (4 * bytes.length + 2) / 3 ∧
      encode bytes = ds ++ padding ds.length := by
  induction bytes using encode.induct with
  | case1 => exact ⟨[], nofun, rfl, rfl⟩
  | case2 a =>
    have ha := a.toNat_lt
    refine ⟨[digit (a.toNat / 4), digit (a.toNat % 4 * 16)], ?_, by simp, rfl⟩
    simp only [List.forall_mem_cons, List.not_mem_nil, IsEmpty.forall_iff, implies_true, and_true]
    exact ⟨digit_ne_pad _ (by omega), digit_ne_pad _ (by omega)⟩
  | case3 a b =>
    have ha := a.toNat_lt
    have hb := b.toNat_lt
    refine ⟨[digit (a.toNat / 4), digit (a.toNat % 4 * 16 + b.toNat / 16),
      digit (b.toNat % 16 * 4)], ?_, by simp, rfl⟩
    simp only [List.forall_mem_cons, List.not_mem_nil, IsEmpty.forall_iff, implies_true, and_true]
    exact ⟨digit_ne_pad _ (by omega), digit_ne_pad _ (by omega), digit_ne_pad _ (by omega)⟩
  | case4 a b c bytes ih =>
    have ha := a.toNat_lt
    have hb := b.toNat_lt
    have hc := c.toNat_lt
    obtain ⟨ds, hds, hlength, hencode⟩ := ih
    refine ⟨digit (a.toNat / 4) :: digit (a.toNat % 4 * 16 + b.toNat / 16) ::
      digit (b.toNat % 16 * 4 + c.toNat / 64) :: digit (c.toNat % 64) :: ds, ?_, ?_, ?_⟩
    · simp only [List.forall_mem_cons]
      exact ⟨digit_ne_pad _ (by omega), digit_ne_pad _ (by omega), digit_ne_pad _ (by omega),
        digit_ne_pad _ (by omega), hds⟩
    · simp only [List.length_cons, hlength]
      omega
    · have hpadding : padding (ds.length + 1 + 1 + 1 + 1) = padding ds.length := by
        rw [padding, padding]
        congr 1
        omega
      rw [encode, hencode]
      simp only [List.length_cons, hpadding, List.cons_append]

/-- The unpadded text has four characters for three bytes, and is padded again. -/
lemma unpadded_spec (bytes : List UInt8) :
    (unpadded bytes).length = (4 * bytes.length + 2) / 3 ∧
      unpadded bytes ++ padding (unpadded bytes).length = encode bytes := by
  obtain ⟨ds, hds, hlength, hencode⟩ := exists_digits bytes
  have hunpadded : unpadded bytes = ds := by
    have hpads : ∀ c ∈ (padding ds.length).reverse, (c == '=') = true := fun c hc => by
      rw [(List.mem_replicate.1 (List.mem_reverse.1 hc)).2]
      rfl
    have hself : ds.rdropWhile (· == '=') = ds :=
      List.rdropWhile_eq_self_iff.2 fun hne hc =>
        hds _ (List.getLast_mem hne) (beq_iff_eq.1 hc)
    rw [unpadded, hencode, List.rdropWhile, List.reverse_append,
      List.dropWhile_append_of_pos hpads]
    exact hself
  rw [hunpadded]
  exact ⟨hlength, hencode.symm⟩

end Base64

end AgenticMesh
