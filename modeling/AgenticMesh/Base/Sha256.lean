import AgenticMesh.Base.Text

/-!
# SHA-256

`hashlib.sha256(text.encode("utf-8")).hexdigest()`.  The stores derive row
identifiers and request fingerprints from it; nothing in this development
depends on the digest being free of collisions.  Words are natural numbers below
`2 ^ 32` and bytes are natural numbers below `2 ^ 8`.
-/

namespace AgenticMesh

namespace Sha256

def word (n : ℕ) : ℕ := n % 4294967296

/-- Rotation of a word to the right. -/
def rotr (n x : ℕ) : ℕ := word (x >>> n ||| x <<< (32 - n))

def smallSigma₀ (x : ℕ) : ℕ := rotr 7 x ^^^ rotr 18 x ^^^ x >>> 3

def smallSigma₁ (x : ℕ) : ℕ := rotr 17 x ^^^ rotr 19 x ^^^ x >>> 10

def bigSigma₀ (x : ℕ) : ℕ := rotr 2 x ^^^ rotr 13 x ^^^ rotr 22 x

def bigSigma₁ (x : ℕ) : ℕ := rotr 6 x ^^^ rotr 11 x ^^^ rotr 25 x

def choose (x y z : ℕ) : ℕ := x &&& y ^^^ (4294967295 ^^^ x) &&& z

def majority (x y z : ℕ) : ℕ := x &&& y ^^^ x &&& z ^^^ y &&& z

def roundConstants : List ℕ := [
  0x428a2f98, 0x71374491, 0xb5c0fbcf, 0xe9b5dba5, 0x3956c25b, 0x59f111f1, 0x923f82a4, 0xab1c5ed5,
  0xd807aa98, 0x12835b01, 0x243185be, 0x550c7dc3, 0x72be5d74, 0x80deb1fe, 0x9bdc06a7, 0xc19bf174,
  0xe49b69c1, 0xefbe4786, 0x0fc19dc6, 0x240ca1cc, 0x2de92c6f, 0x4a7484aa, 0x5cb0a9dc, 0x76f988da,
  0x983e5152, 0xa831c66d, 0xb00327c8, 0xbf597fc7, 0xc6e00bf3, 0xd5a79147, 0x06ca6351, 0x14292967,
  0x27b70a85, 0x2e1b2138, 0x4d2c6dfc, 0x53380d13, 0x650a7354, 0x766a0abb, 0x81c2c92e, 0x92722c85,
  0xa2bfe8a1, 0xa81a664b, 0xc24b8b70, 0xc76c51a3, 0xd192e819, 0xd6990624, 0xf40e3585, 0x106aa070,
  0x19a4c116, 0x1e376c08, 0x2748774c, 0x34b0bcb5, 0x391c0cb3, 0x4ed8aa4a, 0x5b9cca4f, 0x682e6ff3,
  0x748f82ee, 0x78a5636f, 0x84c87814, 0x8cc70208, 0x90befffa, 0xa4506ceb, 0xbef9a3f7, 0xc67178f2]

/-- The eight words of the hash. -/
structure Chain where
  (a b c d e f g h : ℕ)

def initial : Chain :=
  ⟨0x6a09e667, 0xbb67ae85, 0x3c6ef372, 0xa54ff53a, 0x510e527f, 0x9b05688c, 0x1f83d9ab, 0x5be0cd19⟩

def round (s : Chain) (k w : ℕ) : Chain :=
  let t₁ := s.h + bigSigma₁ s.e + choose s.e s.f s.g + k + w
  let t₂ := bigSigma₀ s.a + majority s.a s.b s.c
  ⟨word (t₁ + t₂), s.a, s.b, s.c, word (s.d + t₁), s.e, s.f, s.g⟩

/-- The message schedule with `n` more words; the latest word comes first. -/
def schedule (ws : List ℕ) : ℕ → List ℕ
  | 0 => ws
  | n + 1 =>
    let w := smallSigma₁ (ws.getD 1 0) + ws.getD 6 0 + smallSigma₀ (ws.getD 14 0) + ws.getD 15 0
    schedule (word w :: ws) n

/-- One block of sixteen words. -/
def compress (s : Chain) (block : List ℕ) : Chain :=
  let ws := (schedule block.reverse 48).reverse
  let t := (roundConstants.zip ws).foldl (fun t p => round t p.1 p.2) s
  ⟨word (s.a + t.a), word (s.b + t.b), word (s.c + t.c), word (s.d + t.d),
    word (s.e + t.e), word (s.f + t.f), word (s.g + t.g), word (s.h + t.h)⟩

/-- `text.encode("utf-8")`. -/
def utf8 (text : String) : List ℕ := text.toByteArray.data.toList.map UInt8.toNat

/-- The message with a one bit, zero bits up to the block size and its length. -/
def pad (bytes : List ℕ) : List ℕ :=
  bytes ++ 128 :: List.replicate ((119 - bytes.length % 64) % 64) 0 ++
    (List.range 8).map fun i => 8 * bytes.length / 256 ^ (7 - i) % 256

def words : List ℕ → List ℕ
  | a :: b :: c :: d :: bytes => (((a * 256 + b) * 256 + c) * 256 + d) :: words bytes
  | _ => []

/-- The chain after `n` blocks. -/
def blocks (s : Chain) : List ℕ → ℕ → Chain
  | _, 0 => s
  | ws, n + 1 => blocks (compress s (ws.take 16)) (ws.drop 16) n

def hexDigit (n : ℕ) : Char := if n < 10 then Char.ofNat (48 + n) else Char.ofNat (87 + n)

def hexWord (w : ℕ) : List Char := (List.range 8).map fun i => hexDigit (w / 16 ^ (7 - i) % 16)

/-- The digits of `hashlib.sha256(text.encode("utf-8")).hexdigest()`. -/
@[irreducible]
def hexDigits (text : String) : List Char :=
  let ws := words (pad (utf8 text))
  let t := blocks initial ws (ws.length / 16)
  [t.a, t.b, t.c, t.d, t.e, t.f, t.g, t.h].flatMap hexWord

lemma length_hexDigits (text : String) : (hexDigits text).length = 64 := by
  unfold hexDigits
  simp [hexWord]

lemma isIdentifierChar_hexDigit : ∀ n < 16, isIdentifierChar (hexDigit n) = true := by
  decide

/-- A digest is made of hexadecimal digits. -/
lemma mem_hexDigits {text : String} {c : Char} (h : c ∈ hexDigits text) :
    ∃ n < 16, c = hexDigit n := by
  unfold hexDigits at h
  simp only [List.mem_flatMap, hexWord, List.mem_map] at h
  obtain ⟨w, -, i, -, rfl⟩ := h
  exact ⟨_, Nat.mod_lt _ (by omega), rfl⟩

end Sha256

/-- The SHA-256 digest of a text in hexadecimal. -/
@[irreducible]
def sha256Hex (s : String) : String := String.ofList (Sha256.hexDigits s)

example : sha256Hex "abc" =
    "ba7816bf8f01cfea414140de5dae2223b00361a396177a9cb410ff61f20015ad" := by decide +kernel

lemma length_sha256Hex (s : String) : (sha256Hex s).toList.length = 64 := by
  rw [sha256Hex, String.toList_ofList, Sha256.length_hexDigits]

lemma mem_sha256Hex {s : String} {c : Char} (h : c ∈ (sha256Hex s).toList) :
    ∃ n < 16, c = Sha256.hexDigit n := by
  rw [sha256Hex, String.toList_ofList] at h
  exact Sha256.mem_hexDigits h

/-- The first `n` characters of the digest of texts joined by NUL. -/
def digestOf (n : ℕ) (parts : List String) : String :=
  String.ofList ((Sha256.hexDigits ("\x00".intercalate parts)).take n)

lemma length_digestOf {n : ℕ} (h : n ≤ 64) (parts : List String) :
    (digestOf n parts).toList.length = n := by
  rw [digestOf, String.toList_ofList, List.length_take, Sha256.length_hexDigits]
  omega

/-- An identifier that is derived from a digest is normalized. -/
lemma identifier_digestOf {kind : String} (hkind : kind.toList.all isIdentifierChar = true)
    (hlen : kind.toList.length ≤ 96) (parts : List String) :
    identifier (kind ++ digestOf 32 parts) = some (kind ++ digestOf 32 parts) := by
  apply identifier_of_isIdentifier
  have hdigest := length_digestOf (n := 32) (by omega) parts
  simp only [isIdentifier, String.toList_append, List.length_append, hdigest, Bool.and_eq_true,
    decide_eq_true_eq, List.all_eq_true, List.mem_append]
  refine ⟨⟨by omega, by omega⟩, ?_⟩
  rintro c (hc | hc)
  · exact List.all_eq_true.mp hkind c hc
  · rw [digestOf, String.toList_ofList] at hc
    obtain ⟨n, hn, rfl⟩ := Sha256.mem_hexDigits (List.mem_of_mem_take hc)
    exact Sha256.isIdentifierChar_hexDigit n hn

end AgenticMesh
