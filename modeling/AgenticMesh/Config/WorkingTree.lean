import AgenticMesh.Base.Check
import AgenticMesh.Base.Text

/-!
# The working tree of the configuration

A project is registered against a configuration checkout whose only uncommitted
changes are below `activation/`, `releases/` and `state/`.  The check reads the text
of `git status --porcelain=v1`: it strips the whole output, splits it into lines and
cuts the two status letters and the blank off each of them.
-/

namespace AgenticMesh.ProjectRegistration

/-! ## What Git lists -/

/-- A letter of a status column. -/
inductive StatusLetter where
  | unmodified
  | modified
  | typeChanged
  | added
  | deleted
  | renamed
  | copied
  | unmerged
  | untracked
deriving DecidableEq

namespace StatusLetter

def char : StatusLetter → Char
  | unmodified => ' '
  | modified => 'M'
  | typeChanged => 'T'
  | added => 'A'
  | deleted => 'D'
  | renamed => 'R'
  | copied => 'C'
  | unmerged => 'U'
  | untracked => '?'

end StatusLetter

/-- A changed or untracked path of the checkout. -/
structure StatusEntry where
  index : StatusLetter
  worktree : StatusLetter
  /-- The path that a renamed or copied one comes from. -/
  source : Option String
  path : String
  changed : index ≠ .unmodified ∨ worktree ≠ .unmodified
  path_ne : path ≠ ""
  source_ne : source ≠ some ""

namespace StatusEntry

/-- The changed paths: both sides of a rename. -/
def paths (e : StatusEntry) : List String := e.source.toList ++ [e.path]

/-- The path that the line of an entry starts with. -/
def shown (e : StatusEntry) : String := e.source.getD e.path

end StatusEntry

/-- A character that a name may have without being quoted. -/
def isUsual (c : Char) : Bool :=
  let n := c.toNat
  33 ≤ n && n ≤ 126 && n != 34 && n != 92

/-- A byte as three octal digits. -/
def octal (b : UInt8) : List Char :=
  let n := b.toNat
  ['\\', Nat.digitChar (n / 64), Nat.digitChar (n / 8 % 8), Nat.digitChar (n % 8)]

/-- A character of a quoted name, in the manner of a C string literal. -/
def cEscape (c : Char) : List Char :=
  if isUsual c || c == ' ' then [c] else
    match c.toNat with
    | 7 => ['\\', 'a']
    | 8 => ['\\', 'b']
    | 9 => ['\\', 't']
    | 10 => ['\\', 'n']
    | 11 => ['\\', 'v']
    | 12 => ['\\', 'f']
    | 13 => ['\\', 'r']
    | 34 => ['\\', '"']
    | 92 => ['\\', '\\']
    | _ => (String.utf8EncodeChar c).flatMap octal

/-- All characters of a name are usual. -/
def isPlain (name : String) : Bool := name.toList.all isUsual

/-- The name that Git lists: in quotes when a character is unusual. -/
def cQuote (name : String) : List Char :=
  if isPlain name then name.toList else '"' :: name.toList.flatMap cEscape ++ ['"']

/-- The line of an entry. -/
def statusLine (e : StatusEntry) : List Char :=
  e.index.char :: e.worktree.char :: ' ' ::
    ((e.source.map fun name => cQuote name ++ [' ', '-', '>', ' ']).getD [] ++ cQuote e.path)

/-- `git status --porcelain=v1`. -/
def statusText (entries : List StatusEntry) : String :=
  String.ofList (entries.flatMap fun e => statusLine e ++ ['\n'])

/-! ## What the check reads -/

/-- A boundary of `str.splitlines`. -/
def isLineBreak (c : Char) : Bool :=
  let n := c.toNat
  (10 ≤ n && n ≤ 13) || (28 ≤ n && n ≤ 30) || n == 0x85 || n == 0x2028 || n == 0x2029

/-- `str.splitlines`, with the line read so far. -/
def splitlinesFrom (line : List Char) : List Char → List (List Char)
  | [] => if line = [] then [] else [line]
  | '\r' :: '\n' :: cs => line :: splitlinesFrom [] cs
  | c :: cs =>
    if isLineBreak c then line :: splitlinesFrom [] cs else splitlinesFrom (line ++ [c]) cs

/-- `str.splitlines`. -/
def splitlines (s : String) : List (List Char) := splitlinesFrom [] s.toList

/-- Why a working tree is not registered. -/
inductive RegistrationError where
  | conflict (message : String)
deriving DecidableEq

/-- `_git`: the output of a command that succeeds. -/
def git (stdout : String) : String := strip stdout

/-- `_ALLOWED_CONFIG_STATE`. -/
def allowedConfigState : List String := ["activation/", "releases/", "state/"]

/-- A path starts with an allowed prefix. -/
def isConfigState (path : List Char) : Bool :=
  allowedConfigState.any fun directory => directory.toList.isPrefixOf path

/-- `.replace("\\", "/")`. -/
def slashes (path : List Char) : List Char := path.map fun c => if c = '\\' then '/' else c

/-- The path of a line. -/
def relative (line : List Char) : List Char := slashes (line.drop 3)

/-- `.lower()` of the text of an object id. -/
def lowerHex (s : String) : String := String.ofList (s.toList.map Char.toLower)

/-- `_verify_configuration`, up to the packages: the head and the working tree. -/
def verifyConfiguration (head status revision : String) : Except RegistrationError Unit := do
  Check.that (lowerHex (git head) = revision)
    (.conflict "configuration checkout does not match its pinned revision")
  (splitlines (git status)).forM fun line =>
    Check.that (isConfigState (relative line) = true)
      (.conflict "configuration checkout contains uncommitted package changes")

/-! ## Lines -/

/-- Neither a control character nor outside ASCII. -/
def Printable (c : Char) : Prop := 32 ≤ c.toNat ∧ c.toNat ≤ 126

lemma isLineBreak_of_printable {c : Char} (h : Printable c) : isLineBreak c = false := by
  obtain ⟨hlow, hhigh⟩ := h
  simp only [isLineBreak, Bool.or_eq_false_iff, Bool.and_eq_false_iff, decide_eq_false_iff_not,
    beq_eq_false_iff_ne]
  omega

lemma printable_of_isUsual {c : Char} (h : isUsual c = true) : Printable c := by
  simp only [isUsual, Bool.and_eq_true, decide_eq_true_eq] at h
  exact ⟨by omega, by omega⟩

lemma isSpace_of_isUsual {c : Char} (h : isUsual c = true) : isSpace c = false := by
  simp only [isUsual, Bool.and_eq_true, decide_eq_true_eq] at h
  simp only [isSpace, Bool.or_eq_false_iff, Bool.and_eq_false_iff, decide_eq_false_iff_not,
    beq_eq_false_iff_ne]
  omega

lemma printable_digitChar {n : ℕ} (h : n < 10) : Printable (Nat.digitChar n) := by
  unfold Printable
  rw [Nat.toNat_digitChar_of_lt_ten h]
  omega

lemma printable_octal {b : UInt8} {c : Char} (h : c ∈ octal b) : Printable c := by
  have hb : b.toNat < 256 := b.toNat_lt
  simp only [octal, List.mem_cons, List.not_mem_nil, or_false] at h
  rcases h with rfl | rfl | rfl | rfl
  · exact ⟨by decide, by decide⟩
  · exact printable_digitChar (by omega)
  · exact printable_digitChar (by omega)
  · exact printable_digitChar (by omega)

/-- An escaped character is printed in ASCII. -/
lemma printable_cEscape {c d : Char} (h : d ∈ cEscape c) : Printable d := by
  unfold cEscape at h
  split at h
  · next hc =>
    obtain rfl := List.mem_singleton.1 h
    rcases Bool.or_eq_true_iff.1 hc with husual | hblank
    · exact printable_of_isUsual husual
    · rw [beq_iff_eq.1 hblank]
      exact ⟨by decide, by decide⟩
  · have hpair : ∀ e : Char, Printable e → d ∈ ['\\', e] → Printable d := by
      intro e he hd
      rcases List.mem_pair.1 hd with rfl | rfl
      · exact ⟨by decide, by decide⟩
      · exact he
    split at h <;> first
      | exact hpair _ ⟨by decide, by decide⟩ h
      | obtain ⟨b, -, hb⟩ := List.mem_flatMap.1 h
        exact printable_octal hb

lemma printable_cQuote {name : String} {c : Char} (h : c ∈ cQuote name) : Printable c := by
  unfold cQuote at h
  split at h
  · next hplain => exact printable_of_isUsual (List.all_eq_true.1 hplain c h)
  · rw [List.mem_append, List.mem_cons, List.mem_flatMap, List.mem_singleton] at h
    rcases h with (rfl | ⟨d, -, hd⟩) | rfl
    · exact ⟨by decide, by decide⟩
    · exact printable_cEscape hd
    · exact ⟨by decide, by decide⟩

/-- The line of an entry after its status letters and the blank. -/
def display (e : StatusEntry) : List Char :=
  (e.source.map fun name => cQuote name ++ [' ', '-', '>', ' ']).getD [] ++ cQuote e.path

lemma statusLine_eq (e : StatusEntry) :
    statusLine e = e.index.char :: e.worktree.char :: ' ' :: display e := rfl

lemma printable_display {e : StatusEntry} {c : Char} (h : c ∈ display e) : Printable c := by
  unfold display at h
  rcases List.mem_append.1 h with h | h
  · cases hsource : e.source with
    | none =>
      rw [hsource] at h
      exact absurd h List.not_mem_nil
    | some name =>
      rw [hsource] at h
      rcases List.mem_append.1 h with h | h
      · exact printable_cQuote h
      · have harrow : ∀ c ∈ [' ', '-', '>', ' '], Printable c := by
          intro c hc
          simp only [List.mem_cons, List.not_mem_nil, or_false] at hc
          rcases hc with rfl | rfl | rfl | rfl <;> exact ⟨by decide, by decide⟩
        exact harrow c h
  · exact printable_cQuote h

lemma printable_char (x : StatusLetter) : Printable x.char := by
  cases x <;> exact ⟨by decide, by decide⟩

/-- A name ends with a character that is not white space. -/
lemma getLast_cQuote {name : String} (hname : name ≠ "") :
    ∃ cs c, cQuote name = cs ++ [c] ∧ isSpace c = false := by
  unfold cQuote
  split
  · next hplain =>
    have hne : name.toList ≠ [] := fun h => hname (String.toList_inj.1 h)
    obtain ⟨cs, c, hcs⟩ := (List.eq_nil_or_concat' _).resolve_left hne
    refine ⟨cs, c, hcs, isSpace_of_isUsual (List.all_eq_true.1 hplain c ?_)⟩
    rw [hcs]
    simp
  · exact ⟨_, '"', rfl, by decide⟩

/-- A line without boundaries, ended by a character that is not white space. -/
structure IsLine (line : List Char) : Prop where
  breaks : ∀ c ∈ line, isLineBreak c = false
  ends : ∃ cs c, line = cs ++ [c] ∧ isSpace c = false

lemma isLine_display {prefixed : List Char} (e : StatusEntry) (h : ∀ c ∈ prefixed, Printable c) :
    IsLine (prefixed ++ display e) where
  breaks c hc := by
    rcases List.mem_append.1 hc with hc | hc
    · exact isLineBreak_of_printable (h c hc)
    · exact isLineBreak_of_printable (printable_display hc)
  ends := by
    obtain ⟨cs, c, hcs, hc⟩ := getLast_cQuote e.path_ne
    unfold display
    rw [hcs]
    exact ⟨_, c, by rw [← List.append_assoc, ← List.append_assoc], hc⟩

lemma isLine_statusLine (e : StatusEntry) : IsLine (statusLine e) := by
  have hfront : ∀ c ∈ [e.index.char, e.worktree.char, ' '], Printable c := by
    intro c hc
    simp only [List.mem_cons, List.not_mem_nil, or_false] at hc
    rcases hc with rfl | rfl | rfl
    · exact printable_char _
    · exact printable_char _
    · exact ⟨by decide, by decide⟩
  exact isLine_display e hfront

/-! ## Splitting the output -/

/-- A line read to its end. -/
lemma splitlinesFrom_append {line cs rest : List Char}
    (h : ∀ c ∈ cs, isLineBreak c = false) :
    splitlinesFrom line (cs ++ rest) = splitlinesFrom (line ++ cs) rest := by
  induction cs generalizing line with
  | nil => simp
  | cons c cs ih =>
    have hc : isLineBreak c = false := h c List.mem_cons_self
    have hne : c ≠ '\r' := by
      rintro rfl
      exact absurd hc (by decide)
    rw [List.cons_append, splitlinesFrom]
    · rw [hc, if_neg Bool.false_ne_true, ih fun d hd => h d (List.mem_cons_of_mem c hd)]
      simp
    · rintro - rfl
      exact absurd rfl hne

/-- Lines that end with a newline, and a last one that does not. -/
lemma splitlines_lines {lines : List (List Char)} {last : List Char}
    (h : ∀ l ∈ lines, IsLine l) (hlast : IsLine last) :
    splitlinesFrom [] ((lines.flatMap fun l => l ++ ['\n']) ++ last) = lines ++ [last] := by
  induction lines with
  | nil =>
    obtain ⟨cs, c, hcs, -⟩ := hlast.ends
    have hne : last ≠ [] := by rw [hcs]; simp
    have hsplit : splitlinesFrom [] (last ++ []) = splitlinesFrom ([] ++ last) [] :=
      splitlinesFrom_append hlast.breaks
    rw [List.append_nil, List.nil_append] at hsplit
    simp only [List.flatMap_nil, List.nil_append, hsplit]
    rw [splitlinesFrom, if_neg hne]
  | cons l lines ih =>
    have hl := h l List.mem_cons_self
    rw [List.flatMap_cons, List.append_assoc, List.append_assoc,
      splitlinesFrom_append hl.breaks, List.nil_append, List.singleton_append, splitlinesFrom]
    · rw [if_pos (by decide), ih fun d hd => h d (List.mem_cons_of_mem l hd)]
      rfl
    · rintro - hr
      exact absurd hr (by decide)

/-- Stripping the output removes the newline of its last line. -/
lemma rdropWhile_lines {lines : List (List Char)} {last : List Char} (hlast : IsLine last) :
    (((lines ++ [last]).flatMap fun l => l ++ ['\n'])).rdropWhile isSpace =
      (lines.flatMap fun l => l ++ ['\n']) ++ last := by
  obtain ⟨cs, c, rfl, hc⟩ := hlast.ends
  rw [List.flatMap_append, List.flatMap_singleton, ← List.append_assoc,
    List.rdropWhile_concat_pos _ _ _ (by decide), ← List.append_assoc,
    List.rdropWhile_concat_neg _ _ _ (by simpa using hc)]

/-- The first line of the output, once that is stripped. -/
def firstLine (e : StatusEntry) : List Char :=
  if e.index = .unmodified then e.worktree.char :: ' ' :: display e else statusLine e

lemma isSpace_char {x : StatusLetter} (h : x ≠ .unmodified) : isSpace x.char = false := by
  cases x with
  | unmodified => exact absurd rfl h
  | _ => decide

/-- Stripping the output removes the blank of a first entry that is not staged. -/
lemma dropWhile_statusLine (e : StatusEntry) (rest : List Char) :
    (statusLine e ++ rest).dropWhile isSpace = firstLine e ++ rest := by
  unfold firstLine
  rw [statusLine_eq]
  split
  · next hindex =>
    have hworktree : isSpace e.worktree.char = false :=
      isSpace_char (e.changed.resolve_left (not_not.2 hindex))
    rw [hindex, List.cons_append, List.dropWhile_cons_of_pos (by decide), List.cons_append,
      List.dropWhile_cons_of_neg (by simp [hworktree])]
  · next hindex =>
    rw [List.cons_append, List.dropWhile_cons_of_neg (by simp [isSpace_char hindex])]

lemma isLine_firstLine (e : StatusEntry) : IsLine (firstLine e) := by
  unfold firstLine
  split
  · have hfront : ∀ c ∈ [e.worktree.char, ' '], Printable c := by
      intro c hc
      rcases List.mem_pair.1 hc with rfl | rfl
      · exact printable_char _
      · exact ⟨by decide, by decide⟩
    exact isLine_display e hfront
  · exact isLine_statusLine e

/-- The lines of the stripped output. -/
def strippedLines : List StatusEntry → List (List Char)
  | [] => []
  | e :: es => firstLine e :: es.map statusLine

/-- The check sees the line of every entry, the first one without a leading blank. -/
lemma splitlines_git (entries : List StatusEntry) :
    splitlines (git (statusText entries)) = strippedLines entries := by
  cases entries with
  | nil => decide
  | cons e es =>
    have hlines : ∀ l ∈ firstLine e :: es.map statusLine, IsLine l := by
      intro l hl
      rcases List.mem_cons.1 hl with rfl | hl
      · exact isLine_firstLine e
      · obtain ⟨d, -, rfl⟩ := List.mem_map.1 hl
        exact isLine_statusLine d
    have htext : (statusText (e :: es)).toList.dropWhile isSpace =
        (firstLine e :: es.map statusLine).flatMap fun l => l ++ ['\n'] := by
      rw [statusText, String.toList_ofList, List.flatMap_cons, List.append_assoc,
        dropWhile_statusLine, List.flatMap_cons, List.append_assoc, List.flatMap_map]
    obtain ⟨lines, last, hconcat⟩ :=
      (List.eq_nil_or_concat' (firstLine e :: es.map statusLine)).resolve_left (by simp)
    have hlast : IsLine last := hlines last (by rw [hconcat]; simp)
    rw [splitlines, git, toList_strip, htext, hconcat, rdropWhile_lines hlast,
      splitlines_lines (fun l hl => hlines l (by rw [hconcat]; simp [hl])) hlast, ← hconcat]
    rfl

/-! ## What is accepted -/

/-- The entries, with whether the check has lost the first character of their names. -/
def readings : List StatusEntry → List (StatusEntry × Bool)
  | [] => []
  | e :: es => (e, decide (e.index = .unmodified)) :: es.map fun e => (e, false)

/-- The check takes the line of an entry for an allowed one: its name is not quoted and is below
an allowed directory; with its first character lost, the rest of the name is. -/
def Read (r : StatusEntry × Bool) : Prop :=
  if r.2 = true then
    if isPlain r.1.shown = true then isConfigState (r.1.shown.toList.drop 1) = true
    else isConfigState (slashes (r.1.shown.toList.flatMap cEscape)) = true
  else isPlain r.1.shown = true ∧ isConfigState r.1.shown.toList = true

instance (r : StatusEntry × Bool) : Decidable (Read r) := by
  unfold Read
  infer_instance

/-- Every changed path is below an allowed directory. -/
def Allowed (entries : List StatusEntry) : Prop :=
  ∀ e ∈ entries, ∀ path ∈ e.paths, isConfigState path.toList = true

instance (entries : List StatusEntry) : Decidable (Allowed entries) :=
  inferInstanceAs (Decidable (∀ e ∈ entries, ∀ path ∈ e.paths, _))

/-- When the lines tell whether the changed paths are allowed: no allowed name is quoted, but for
one that loses its quotation mark, and not every line of a tree with another path looks allowed. -/
structure Legible (entries : List StatusEntry) : Prop where
  allowed : Allowed entries → ∀ r ∈ readings entries, isPlain r.1.shown = !r.2
  refused : ¬ Allowed entries → ∃ r ∈ readings entries, ¬ Read r

lemma isConfigState_iff {path : List Char} :
    isConfigState path = true ↔ ∃ directory ∈ allowedConfigState, directory.toList <+: path := by
  simp [isConfigState, List.any_eq_true]

/-- The characters of an allowed prefix. -/
lemma usual_of_mem_allowed {directory : String} (h : directory ∈ allowedConfigState) :
    ∀ c ∈ directory.toList, isUsual c = true := by
  simp only [allowedConfigState, List.mem_cons, List.not_mem_nil, or_false] at h
  rcases h with rfl | rfl | rfl <;> exact List.all_eq_true.1 (by decide)

/-- A name ends before a character that no prefix has. -/
lemma isConfigState_append {name rest : List Char}
    (hrest : ∀ c ∈ rest.head?, isUsual c = false) :
    isConfigState (name ++ rest) = isConfigState name := by
  rw [Bool.eq_iff_iff, isConfigState_iff, isConfigState_iff]
  constructor
  · rintro ⟨directory, hdirectory, hprefix⟩
    refine ⟨directory, hdirectory, ?_⟩
    rcases List.prefix_or_prefix_of_prefix hprefix (List.prefix_append name rest) with
      hname | ⟨t, ht⟩
    · exact hname
    · rw [← ht, List.prefix_append_right_inj] at hprefix
      cases t with
      | nil => exact ⟨[], by rw [← ht, List.append_nil, List.append_nil]⟩
      | cons c t =>
        obtain ⟨u, rfl⟩ := hprefix
        have husual := usual_of_mem_allowed hdirectory c (by rw [← ht]; simp)
        rw [hrest c (by simp)] at husual
        cases husual
  · rintro ⟨directory, hdirectory, hprefix⟩
    exact ⟨directory, hdirectory, hprefix.trans (List.prefix_append _ _)⟩

/-- No prefix starts with a character that none has. -/
lemma isConfigState_cons {c : Char} {rest : List Char} (hc : isUsual c = false) :
    isConfigState (c :: rest) = false := by
  have hempty : isConfigState ([] ++ c :: rest) = isConfigState [] :=
    isConfigState_append fun d hd => by
      obtain rfl : c = d := by simpa using hd
      exact hc
  rw [List.nil_append] at hempty
  rw [hempty]
  decide

lemma slashes_append (a b : List Char) : slashes (a ++ b) = slashes a ++ slashes b :=
  List.map_append

/-- Usual names have no backslash. -/
lemma slashes_usual {cs : List Char} (h : ∀ c ∈ cs, isUsual c = true) : slashes cs = cs := by
  refine (List.map_congr_left fun c hc => ?_).trans (List.map_id' cs)
  split
  · next hslash =>
    have husual := h c hc
    rw [hslash] at husual
    exact absurd husual (by decide)
  · rfl

/-- What follows the first name of a line. -/
lemma display_eq (e : StatusEntry) : ∃ rest, display e = cQuote e.shown ++ rest ∧
    ∀ c ∈ rest.head?, c = ' ' := by
  unfold display StatusEntry.shown
  cases e.source with
  | none => exact ⟨[], by simp⟩
  | some name => exact ⟨[' ', '-', '>', ' '] ++ cQuote e.path, by simp⟩

lemma head_slashes {rest : List Char} (h : ∀ c ∈ rest.head?, c = ' ') :
    ∀ c ∈ (slashes rest).head?, isUsual c = false := by
  intro c hc
  cases rest with
  | nil => simp [slashes] at hc
  | cons d rest =>
    obtain rfl := h d (by simp)
    obtain rfl : ' ' = c := by simpa [slashes] using hc
    decide

/-- The line of an entry. -/
lemma isConfigState_display (e : StatusEntry) :
    isConfigState (slashes (display e)) = true ↔ Read (e, false) := by
  obtain ⟨rest, hrest, hblank⟩ := display_eq e
  rw [hrest, slashes_append, isConfigState_append (head_slashes hblank), Read,
    if_neg Bool.false_ne_true]
  unfold cQuote
  split
  · next hplain => simp [slashes_usual (List.all_eq_true.1 hplain), hplain]
  · next hplain =>
    have hquote :
        isConfigState ('"' :: slashes (e.shown.toList.flatMap cEscape ++ ['"'])) = false :=
      isConfigState_cons (by decide)
    constructor
    · intro h
      exact absurd (h.symm.trans hquote) (by decide)
    · exact fun h => absurd h.1 hplain

/-- The line of an entry without the first character of its name. -/
lemma isConfigState_cut {e : StatusEntry} (hne : e.shown ≠ "") :
    isConfigState (slashes ((display e).drop 1)) = true ↔ Read (e, true) := by
  obtain ⟨rest, hrest, hblank⟩ := display_eq e
  have hnil : e.shown.toList ≠ [] := fun h => hne (String.toList_inj.1 h)
  rw [hrest, Read, if_pos rfl]
  unfold cQuote
  split
  · next hplain =>
    have husual := List.all_eq_true.1 hplain
    have hlength : 1 ≤ e.shown.toList.length := List.length_pos_iff.2 hnil
    rw [List.drop_append_of_le_length hlength, slashes_append,
      isConfigState_append (head_slashes hblank),
      slashes_usual fun c hc => husual c (List.mem_of_mem_drop hc)]
  · have hquote : ∀ c ∈ (slashes ('"' :: rest)).head?, isUsual c = false := by
      intro c hc
      obtain rfl : '"' = c := by simpa [slashes] using hc
      decide
    rw [List.cons_append, List.cons_append, List.drop_one, List.tail_cons, List.append_assoc,
      List.singleton_append, slashes_append, isConfigState_append hquote]

/-- The check accepts the tree exactly if it takes every line for an allowed one. -/
lemma verifyConfiguration_ok_iff (head revision : String) (entries : List StatusEntry) :
    verifyConfiguration head (statusText entries) revision = .ok () ↔
      lowerHex (git head) = revision ∧ ∀ r ∈ readings entries, Read r := by
  have hlines : (∀ l ∈ strippedLines entries, isConfigState (relative l) = true) ↔
      ∀ r ∈ readings entries, Read r := by
    cases entries with
    | nil => simp [strippedLines, readings]
    | cons e es =>
      have hshown : e.shown ≠ "" := by
        unfold StatusEntry.shown
        cases hsource : e.source with
        | none => exact e.path_ne
        | some name => exact fun h => e.source_ne (hsource.trans (congrArg some h))
      have hfirst : isConfigState (relative (firstLine e)) = true ↔
          Read (e, decide (e.index = .unmodified)) := by
        unfold firstLine
        split
        · next hindex =>
          rw [decide_eq_true hindex]
          exact isConfigState_cut hshown
        · next hindex =>
          rw [decide_eq_false hindex]
          exact isConfigState_display e
      rw [strippedLines, readings, List.forall_mem_cons, List.forall_mem_cons, hfirst,
        List.forall_mem_map, List.forall_mem_map]
      exact and_congr_right fun _ => forall₂_congr fun d _ => isConfigState_display d
  rw [verifyConfiguration, Check.bind_ok, splitlines_git]
  simp only [Check.that_ok, Check.forM_ok]
  constructor
  · rintro ⟨_, hhead, h⟩
    exact ⟨hhead, hlines.1 h⟩
  · rintro ⟨hhead, h⟩
    exact ⟨(), hhead, hlines.2 h⟩

/-- The first characters of a path below an allowed directory, once one of them is lost. -/
lemma isConfigState_drop {path : List Char} (h : isConfigState path = true) :
    isConfigState (path.drop 1) = false := by
  obtain ⟨directory, hdirectory, rest, rfl⟩ := isConfigState_iff.1 h
  simp only [allowedConfigState, List.mem_cons, List.not_mem_nil, or_false] at hdirectory
  rcases hdirectory with rfl | rfl | rfl <;> rfl

/-- Quoting leaves an allowed prefix as it is. -/
lemma isConfigState_escape {path : List Char} (h : isConfigState path = true) :
    isConfigState (slashes (path.flatMap cEscape)) = true := by
  obtain ⟨directory, hdirectory, rest, rfl⟩ := isConfigState_iff.1 h
  have husual := usual_of_mem_allowed hdirectory
  have hescape : directory.toList.flatMap cEscape = directory.toList := by
    have hsingle : ∀ c ∈ directory.toList, cEscape c = [c] := by
      intro c hc
      simp [cEscape, husual c hc]
    rw [List.flatMap_congr hsingle]
    exact List.flatMap_pure_eq_map _ _ |>.trans (List.map_id' _)
  rw [List.flatMap_append, hescape, slashes_append, slashes_usual husual]
  exact isConfigState_iff.2 ⟨directory, hdirectory, List.prefix_append _ _⟩

/-- The line of an allowed entry looks allowed exactly if its name is as plain as it should be. -/
lemma read_iff_of_allowed {r : StatusEntry × Bool} (h : isConfigState r.1.shown.toList = true) :
    Read r ↔ isPlain r.1.shown = !r.2 := by
  obtain ⟨e, cut⟩ := r
  unfold Read
  cases cut with
  | false => simp [h]
  | true =>
    rw [if_pos rfl]
    split
    · next hplain =>
      rw [isConfigState_drop h]
      simp [hplain]
    · next hplain => simp [hplain, isConfigState_escape h]

lemma shown_mem_paths (e : StatusEntry) : e.shown ∈ e.paths := by
  unfold StatusEntry.shown StatusEntry.paths
  cases e.source <;> simp

lemma mem_of_mem_readings {entries : List StatusEntry} {r : StatusEntry × Bool}
    (h : r ∈ readings entries) : r.1 ∈ entries := by
  cases entries with
  | nil => exact absurd h List.not_mem_nil
  | cons e es =>
    rcases List.mem_cons.1 h with rfl | h
    · exact List.mem_cons_self
    · obtain ⟨d, hd, rfl⟩ := List.mem_map.1 h
      exact List.mem_cons_of_mem e hd

/-- The check accepts a pinned checkout exactly if its changed paths are allowed, provided that
the lines are legible. -/
theorem working_tree_iff (head revision : String) (entries : List StatusEntry) :
    (verifyConfiguration head (statusText entries) revision = .ok () ↔
      lowerHex (git head) = revision ∧ Allowed entries) ↔
      (lowerHex (git head) = revision → Legible entries) := by
  rw [verifyConfiguration_ok_iff]
  by_cases hhead : lowerHex (git head) = revision
  · simp only [hhead, true_and, true_implies]
    by_cases hallowed : Allowed entries
    · have hread : ∀ r ∈ readings entries, (Read r ↔ isPlain r.1.shown = !r.2) := fun r hr =>
        read_iff_of_allowed (hallowed r.1 (mem_of_mem_readings hr) _ (shown_mem_paths r.1))
      constructor
      · intro h
        refine ⟨fun _ r hr => (hread r hr).1 (h.2 hallowed r hr), fun hno => absurd hallowed hno⟩
      · intro h
        exact ⟨fun _ => hallowed, fun _ r hr => (hread r hr).2 (h.allowed hallowed r hr)⟩
    · constructor
      · intro h
        refine ⟨fun hall => absurd hall hallowed, fun _ => ?_⟩
        by_contra hno
        push Not at hno
        exact hallowed (h.1 hno)
      · intro h
        obtain ⟨r, hr, hno⟩ := h.refused hallowed
        exact ⟨fun hall => absurd (hall r hr) hno, fun hall => absurd hall hallowed⟩
  · simp [hhead]

/-- An unstaged change of one file. -/
def unstaged (path : String) (h : path ≠ "") : StatusEntry where
  index := .unmodified
  worktree := .modified
  source := none
  path := path
  changed := Or.inr (by decide)
  path_ne := h
  source_ne := by decide

/-- A state file that is moved into a package. -/
def movedIntoPackages : StatusEntry where
  index := .renamed
  worktree := .unmodified
  source := some "state/role.json"
  path := "packages/role.json"
  changed := Or.inl (by decide)
  path_ne := by decide
  source_ne := by decide

/-- An unstaged change of the active release is refused, and a state file moved into a package is
accepted. -/
theorem not_working_tree : ¬ ∀ head revision entries,
    (verifyConfiguration head (statusText entries) revision = .ok () ↔
      lowerHex (git head) = revision ∧ Allowed entries) := by
  intro h
  have hrefused := (h "" "" [unstaged "activation/active.json" (by decide)]).2
    ⟨by decide, by decide⟩
  have haccepted := (h "" "" [movedIntoPackages]).1 (by decide)
  exact absurd haccepted.2 (by decide)

end AgenticMesh.ProjectRegistration
