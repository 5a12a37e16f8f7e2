import AgenticMesh.Base.Check
import AgenticMesh.Base.Json
import AgenticMesh.Base.Sha256
import Mathlib.Data.List.Infix

/-!
# Argument checks

The regular expressions, the bounded texts and the digests that the import
stores, the project manifests and the delivery adapters check their arguments
with.  A check that normalizes its argument accepts what it returns.
-/

namespace AgenticMesh

/-! ## Patterns -/

/-- `re.fullmatch(r"^[..][..]{0,n}$", s)`: one character of a first class and at most `n` of a
second one. -/
def fullmatch (first rest : Char → Bool) (n : ℕ) (s : String) : Bool :=
  match s.toList with
  | [] => false
  | c :: cs => first c && cs.length ≤ n && cs.all rest

lemma notMem_of_fullmatch {first rest : Char → Bool} {n : ℕ} {s : String} {c : Char}
    (h : fullmatch first rest n s = true) (hfirst : first c = false) (hrest : rest c = false) :
    c ∉ s.toList := by
  unfold fullmatch at h
  cases hs : s.toList with
  | nil => exact List.not_mem_nil
  | cons d ds =>
    simp only [hs, Bool.and_eq_true, List.all_eq_true] at h
    intro hc
    obtain rfl | hc := List.mem_cons.1 hc
    · rw [h.1.1] at hfirst
      exact absurd hfirst (by simp)
    · rw [h.2 c hc] at hrest
      exact absurd hrest (by simp)

/-- `[a-z0-9]`. -/
def isSlugStart (c : Char) : Bool := c.isDigit || c.isLower

/-- `re.fullmatch(r"^[a-z0-9][a-z0-9-]{0,127}$", s)`. -/
def isSlug (s : String) : Bool := fullmatch isSlugStart (fun c => isSlugStart c || c == '-') 127 s

/-- `[0-9a-f]`. -/
def isHexDigit (c : Char) : Bool := c.isDigit || ('a' ≤ c && c ≤ 'f')

/-- `re.fullmatch(r"^[0-9a-f]{64}$", s)`. -/
def isDigest (s : String) : Bool := s.toList.length == 64 && s.toList.all isHexDigit

/-- A path of a reference, `[A-Za-z0-9][A-Za-z0-9./_-]{0,255}`. -/
def isReferencePath (s : String) : Bool :=
  fullmatch Char.isAlphanum
    (fun c => c.isAlphanum || c == '.' || c == '_' || c == '/' || c == '-') 255 s

/-- The rest of a text after a prefix. -/
def removePrefix? (s start : String) : Option String :=
  (s.toList.dropPrefix? start.toList).map String.ofList

lemma removePrefix?_eq_some {s start rest : String} :
    removePrefix? s start = some rest ↔ s = start ++ rest := by
  unfold removePrefix?
  rw [Option.map_eq_some_iff]
  constructor
  · rintro ⟨cs, hcs, rfl⟩
    obtain ⟨p, hp, hstart⟩ := List.dropPrefix?_eq_some_iff.1 hcs
    rw [beq_iff_eq] at hstart
    rw [← String.toList_inj, hp, hstart]
    simp
  · rintro rfl
    refine ⟨rest.toList, ?_, String.ofList_toList⟩
    exact List.dropPrefix?_eq_some_iff.2 ⟨start.toList, by simp, by simp⟩

/-- The scheme and the path of `(secret|mount|oauth-cache)://[A-Za-z0-9][A-Za-z0-9./_-]{0,255}`. -/
def reference? (s : String) : Option (String × String) :=
  ["secret", "mount", "oauth-cache"].findSome? fun scheme =>
    ((removePrefix? s (scheme ++ "://")).filter isReferencePath).map fun path => (scheme, path)

lemma reference?_eq_some {s scheme path : String} (h : reference? s = some (scheme, path)) :
    s = scheme ++ "://" ++ path := by
  obtain ⟨scheme', -, hfound⟩ := List.exists_of_findSome?_eq_some h
  obtain ⟨path', hpath, heq⟩ := Option.map_eq_some_iff.1 hfound
  obtain ⟨rfl, rfl⟩ := Prod.mk.inj heq
  exact removePrefix?_eq_some.1 (Option.filter_eq_some_iff.1 hpath).1

/-! ## Secrets -/

/-- The case folding of a character, up to the characters that fold outside of ASCII. -/
def foldChar (c : Char) : List Char :=
  match c.toNat with
  | 0xDF => ['s', 's']
  | 0x130 => ['i', c]
  | 0x149 => [c, 'n']
  | 0x17F => ['s']
  | 0x1F0 => ['j', c]
  | 0x1E96 => ['h', c]
  | 0x1E97 => ['t', c]
  | 0x1E98 => ['w', c]
  | 0x1E99 => ['y', c]
  | 0x1E9A => ['a', c]
  | 0x1E9E => ['s', 's']
  | 0x212A => ['k']
  | 0xFB00 => ['f', 'f']
  | 0xFB01 => ['f', 'i']
  | 0xFB02 => ['f', 'l']
  | 0xFB03 => ['f', 'f', 'i']
  | 0xFB04 => ['f', 'f', 'l']
  | 0xFB05 => ['s', 't']
  | 0xFB06 => ['s', 't']
  | _ => [c.toLower]

/-- `_SECRET_MARKERS`. -/
def secretMarkers : List String :=
  ["password=", "secret=", "token=", "authorization: bearer", "-----begin private key-----"]

/-- `any(marker in text.casefold() for marker in _SECRET_MARKERS)`. -/
def holdsSecret (text : String) : Bool :=
  secretMarkers.any fun marker => marker.toList <:+: text.toList.flatMap foldChar

/-! ## Bounded texts -/

/-- `_text`: a text that is not blank, not too long and without control characters, stripped. -/
def plainText (value : Json) (field : String) (maximum : ℕ) : Except String String := do
  let text ← Check.found value.asString (field ++ " is invalid")
  Check.that (strip text ≠ "" ∧ text.toList.length ≤ maximum ∧
    text.toList.all (fun c => 32 ≤ c.toNat) = true) (field ++ " is invalid")
  return strip text

/-- `_persisted_text` and `_safe_text`: a text without secret markers. -/
def safeText (value : Json) (field : String) (maximum : ℕ) (secret : String) :
    Except String String := do
  let text ← plainText value field maximum
  Check.that (holdsSecret text = false) (field ++ secret)
  return text

lemma plainText_ok {value : Json} {field : String} {maximum : ℕ} {t : String} :
    plainText value field maximum = .ok t ↔ ∃ s, value = .str s ∧ strip s ≠ "" ∧
      s.toList.length ≤ maximum ∧ s.toList.all (fun c => 32 ≤ c.toNat) = true ∧ strip s = t := by
  simp only [plainText, Check.bind_ok, Check.found_ok, Check.that_ok, Check.pure_ok]
  constructor
  · rintro ⟨s, hs, -, ⟨hne, hlen, hall⟩, rfl⟩
    cases value with
    | str s' =>
      obtain rfl := Option.some.inj hs
      exact ⟨s', rfl, hne, hlen, hall, rfl⟩
    | _ => simp [Json.asString] at hs
  · rintro ⟨s, rfl, hne, hlen, hall, rfl⟩
    exact ⟨s, rfl, (), ⟨hne, hlen, hall⟩, rfl⟩

/-- The characters of a stripped text are characters of the text. -/
lemma mem_of_mem_strip {s : String} {c : Char} (h : c ∈ (strip s).toList) : c ∈ s.toList := by
  rw [toList_strip] at h
  exact (List.dropWhile_sublist _).subset ((List.rdropWhile_prefix _ _).subset h)

/-- A plain text is its own plain text. -/
lemma plainText_idem {value : Json} {field field' : String} {maximum : ℕ} {t : String}
    (h : plainText value field maximum = .ok t) : plainText (.str t) field' maximum = .ok t := by
  obtain ⟨s, -, hne, hlen, hall, rfl⟩ := plainText_ok.1 h
  refine plainText_ok.2 ⟨strip s, rfl, ?_, ?_, ?_, strip_strip s⟩
  · rwa [strip_strip]
  · exact (length_strip_le s).trans hlen
  · rw [List.all_eq_true] at hall ⊢
    exact fun c hc => hall c (mem_of_mem_strip hc)

lemma safeText_ok {value : Json} {field secret : String} {maximum : ℕ} {t : String} :
    safeText value field maximum secret = .ok t ↔
      plainText value field maximum = .ok t ∧ holdsSecret t = false := by
  simp only [safeText, Check.bind_ok, Check.that_ok, Check.pure_ok]
  constructor
  · rintro ⟨s, hs, -, hsecret, rfl⟩
    exact ⟨hs, hsecret⟩
  · rintro ⟨h, hsecret⟩
    exact ⟨t, h, (), hsecret, rfl⟩

/-- A safe text is its own safe text, also within a larger bound. -/
lemma safeText_idem {value : Json} {field field' secret secret' : String} {maximum maximum' : ℕ}
    {t : String} (h : safeText value field maximum secret = .ok t) (hle : maximum ≤ maximum') :
    safeText (.str t) field' maximum' secret' = .ok t := by
  obtain ⟨hplain, hsecret⟩ := safeText_ok.1 h
  obtain ⟨s, hs, hne, hlen, hrest⟩ := plainText_ok.1 (@plainText_idem _ _ field' _ _ hplain)
  exact safeText_ok.2 ⟨plainText_ok.2 ⟨s, hs, hne, hlen.trans hle, hrest⟩, hsecret⟩

/-- `str(UUID(value))`, for a value in the canonical form. -/
def uuid? (s : String) : Option String :=
  let lower := s.toLower
  if lower.toList.length = 36 ∧ lower.toList.zipIdx.all (fun p =>
      if p.2 = 8 ∨ p.2 = 13 ∨ p.2 = 18 ∨ p.2 = 23 then p.1 == '-' else isHexDigit p.1) = true then
    some lower
  else none

/-- `_digest`: the SHA-256 digest of a JSON value with sorted keys. -/
def Json.digest (value : Json) : String := sha256Hex (Json.ascii (Json.dumps value))

example : reference? "mount://graph/token" = some ("mount", "graph/token") := by decide

example : holdsSecret "the toKen=1" = true := by decide

end AgenticMesh
