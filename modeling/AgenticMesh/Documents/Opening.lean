import AgenticMesh.Documents.Addressing
import AgenticMesh.Manifest.CanonicalKeys

/-!
# Opening the document roots of a manifest

A manifest and the document store check the drive, the path and the credential of a root each
in its own way.  The store is stricter: it refuses an `@` in the name of a drive, control
characters in a path, and a path that begins with two slashes, which a manifest keeps as POSIX
does.  A mounted credential needs a reference without empty and dot segments.
-/

namespace AgenticMesh

/-! ## Parts of a text -/

/-- The parts of a text between separators have no separator and no other characters. -/
lemma of_mem_splitOn {a : Char} {cs xs : List Char} (h : xs ∈ cs.splitOn a) :
    a ∉ xs ∧ ∀ c ∈ xs, c ∈ cs := by
  induction cs generalizing xs with
  | nil =>
    obtain rfl := List.mem_singleton.1 h
    exact ⟨List.not_mem_nil, fun c hc => hc⟩
  | cons c cs ih =>
    rw [List.splitOn_cons_eq_if_modifyHead] at h
    by_cases hc : c = a
    · rw [if_pos (beq_iff_eq.2 hc)] at h
      rcases List.mem_cons.1 h with rfl | h
      · exact ⟨List.not_mem_nil, nofun⟩
      · exact ⟨(ih h).1, fun d hd => List.mem_cons_of_mem c ((ih h).2 d hd)⟩
    · rw [if_neg (by simpa using hc)] at h
      cases hsplit : cs.splitOn a with
      | nil => exact absurd hsplit (List.splitOn_ne_nil a cs)
      | cons ys yss =>
        rw [hsplit, List.modifyHead_cons] at h
        rcases List.mem_cons.1 h with rfl | h
        · have hys : ys ∈ cs.splitOn a := hsplit ▸ List.mem_cons_self
          refine ⟨List.not_mem_cons_of_ne_of_not_mem (Ne.symm hc) (ih hys).1, fun d hd => ?_⟩
          rcases List.mem_cons.1 hd with rfl | hd
          · exact List.mem_cons_self
          · exact List.mem_cons_of_mem c ((ih hys).2 d hd)
        · have hxs : xs ∈ cs.splitOn a := hsplit ▸ List.mem_cons_of_mem ys h
          exact ⟨(ih hxs).1, fun d hd => List.mem_cons_of_mem c ((ih hxs).2 d hd)⟩

namespace ProjectManifest

lemma of_mem_pathParts {s part : String} (h : part ∈ pathParts s) :
    '/' ∉ part.toList ∧ ∀ c ∈ part.toList, c ∈ s.toList := by
  obtain ⟨xs, hxs, rfl⟩ := List.mem_map.1 h
  rw [String.toList_ofList]
  exact of_mem_splitOn hxs

/-- The parts of what some parts spell. -/
lemma pathParts_intercalate {parts : List String} (hne : parts ≠ [])
    (h : ∀ part ∈ parts, '/' ∉ part.toList) : pathParts ("/".intercalate parts) = parts := by
  have hlists : ∀ xs ∈ parts.map String.toList, '/' ∉ xs := by
    intro xs hxs
    obtain ⟨part, hpart, rfl⟩ := List.mem_map.1 hxs
    exact h part hpart
  have hsplit := List.splitOn_intercalate '/' hlists (by simpa using hne)
  rw [pathParts, String.toList_intercalate]
  show List.map String.ofList ((['/'].intercalate (parts.map String.toList)).splitOn '/') = parts
  rw [hsplit, List.map_map]
  exact (List.map_congr_left fun part _ => String.ofList_toList).trans (List.map_id parts)

lemma mem_intercalate {parts : List String} {c : Char}
    (h : c ∈ ("/".intercalate parts).toList) : c = '/' ∨ ∃ part ∈ parts, c ∈ part.toList := by
  induction parts with
  | nil => exact absurd h (by simp)
  | cons part parts ih =>
    by_cases hne : parts = []
    · subst hne
      rw [String.intercalate_singleton] at h
      exact .inr ⟨part, List.mem_singleton_self part, h⟩
    · rw [String.intercalate_cons_of_ne_nil hne, String.toList_append, String.toList_append,
        List.mem_append, List.mem_append] at h
      rcases h with (h | h) | h
      · exact .inr ⟨part, List.mem_cons_self, h⟩
      · exact .inl (List.mem_singleton.1 h)
      · exact (ih h).imp id fun ⟨part', hmem, hc⟩ => ⟨part', List.mem_cons_of_mem part hmem, hc⟩

/-- What a normalized document root looks like. -/
lemma documentRoot_ok {value : Json} {r : String} (h : documentRoot value = .ok r) :
    ∃ parts : List String, (∀ part ∈ parts, part ∉ ["", ".", ".."] ∧ '/' ∉ part.toList ∧
        Char.ofNat 92 ∉ part.toList) ∧
      (r = "/" ++ "/".intercalate parts ∨ r = "//" ++ "/".intercalate parts) := by
  simp only [documentRoot, Check.bind_ok, Check.that_ok, Check.pure_ok] at h
  obtain ⟨t, -, -, ⟨-, hdots⟩, hr⟩ := h
  let path := String.ofList (t.toList.map fun c => if c = Char.ofNat 92 then '/' else c)
  let parts := (pathParts path).filter fun part => part ≠ "" ∧ part ≠ "."
  change ".." ∉ parts at hdots
  change _ ++ "/".intercalate parts = r at hr
  refine ⟨parts, fun part hpart => ?_, ?_⟩
  · obtain ⟨hmem, hplain⟩ := List.mem_filter.1 hpart
    have hplain : part ≠ "" ∧ part ≠ "." := of_decide_eq_true hplain
    have hdots : part ≠ ".." := fun heq => hdots (heq ▸ hpart)
    obtain ⟨hslash, hchars⟩ := of_mem_pathParts hmem
    refine ⟨by simp [hplain.1, hplain.2, hdots], hslash, fun hback => ?_⟩
    have hback := hchars _ hback
    rw [String.toList_ofList] at hback
    obtain ⟨c, -, hc⟩ := List.mem_map.1 hback
    split at hc
    · exact absurd hc (by decide)
    · next hne => exact hne hc
  · rw [← hr]
    split
    · exact .inr rfl
    · exact .inl rfl

end ProjectManifest

namespace OneDriveDocumentStore

open ProjectManifest (pathParts documentRoot)

/-! ## Accepted arguments -/

/-- A pattern without control characters and blanks accepts printable texts only. -/
lemma printable_of_fullmatch {first rest : Char → Bool} {n : ℕ} {s : String}
    (h : fullmatch first rest n s = true) (hfirst : ∀ i < 33, first (Char.ofNat i) = false)
    (hrest : ∀ i < 33, rest (Char.ofNat i) = false) :
    s.toList.length ≤ n + 1 ∧ ∀ c ∈ s.toList, 33 ≤ c.toNat := by
  constructor
  · unfold fullmatch at h
    cases hs : s.toList with
    | nil => exact Nat.zero_le _
    | cons c cs =>
      simp only [hs, Bool.and_eq_true, decide_eq_true_eq] at h
      rw [List.length_cons]
      omega
  · intro c hc
    by_contra hlow
    have hlow : c.toNat < 33 := by omega
    have hchar : Char.ofNat c.toNat = c := Char.ofNat_toNat c
    refine notMem_of_fullmatch h ?_ ?_ hc
    · rw [← hchar]
      exact hfirst _ hlow
    · rw [← hchar]
      exact hrest _ hlow

lemma identifier_ok {s field : String} (h : isSlug s = true) :
    identifier (.str s) field = .ok s := by
  rw [identifier, Check.found_ok, Option.filter_eq_some_iff]
  exact ⟨rfl, by simpa using h⟩

/-- Of the drives that a manifest accepts the store refuses those with an `@`. -/
lemma externalId_ok_iff {d field : String} (h : ProjectManifest.isExternalId d = true) :
    externalId (.str d) field = .ok d ↔ '@' ∉ d.toList := by
  have hne : d ≠ "" := by
    rintro rfl
    exact absurd h (by decide)
  obtain ⟨hlength, hprintable⟩ := printable_of_fullmatch h (by decide) (by decide)
  have hslash : '/' ∉ d.toList := notMem_of_fullmatch h (by decide) (by decide)
  have hback : Char.ofNat 92 ∉ d.toList := notMem_of_fullmatch h (by decide) (by decide)
  have hquery : '?' ∉ d.toList := notMem_of_fullmatch h (by decide) (by decide)
  have hhash : '#' ∉ d.toList := notMem_of_fullmatch h (by decide) (by decide)
  rw [externalId, Check.found_ok, Option.filter_eq_some_iff]
  simp only [Json.asString, true_and, decide_eq_true_eq, List.all_eq_true, Bool.and_eq_true]
  constructor
  · rintro ⟨-, -, hchars⟩ hat
    exact (hchars '@' hat).2 (by simp)
  · intro hat
    refine ⟨hne, hlength, fun c hc => ⟨hprintable c hc, ?_⟩⟩
    simp only [List.mem_cons, List.not_mem_nil, or_false, not_or]
    exact ⟨fun e => hslash (e ▸ hc), fun e => hback (e ▸ hc), fun e => hquery (e ▸ hc),
      fun e => hhash (e ▸ hc), fun e => hat (e ▸ hc)⟩

/-- The store accepts every reference that a manifest accepts. -/
lemma credentialReferenceArg_ok {s : String} (h : (reference? s).isSome = true) :
    credentialReferenceArg (.str s) = .ok s := by
  obtain ⟨⟨scheme, path⟩, hsome⟩ := Option.isSome_iff_exists.1 h
  obtain ⟨scheme', hscheme, hfound⟩ := List.exists_of_findSome?_eq_some hsome
  obtain ⟨path', hpath, heq⟩ := Option.map_eq_some_iff.1 hfound
  obtain ⟨rfl, rfl⟩ := Prod.mk.inj heq
  obtain ⟨hremoved, hpattern⟩ := Option.filter_eq_some_iff.1 hpath
  obtain rfl := removePrefix?_eq_some.1 hremoved
  obtain ⟨hlength, hprintable⟩ := printable_of_fullmatch hpattern (by decide) (by decide)
  have hschemes : ∀ scheme ∈ ["secret", "mount", "oauth-cache"],
      scheme ++ "://" ∈ ["secret://", "mount://", "oauth-cache://"] ∧
        (scheme ++ "://").toList.length ≤ 14 ∧
        (scheme ++ "://").toList.all (fun c => 33 ≤ c.toNat) = true := by decide
  obtain ⟨hmem, hshort, hall⟩ := hschemes _ hscheme
  have htext : (scheme' ++ "://" ++ path').toList =
      (scheme' ++ "://").toList ++ path'.toList := String.toList_append
  rw [credentialReferenceArg, Check.found_ok, Option.filter_eq_some_iff]
  refine ⟨rfl, decide_eq_true ⟨⟨_, hmem, ?_⟩, ?_, ?_⟩⟩
  · rw [htext]
    exact List.prefix_append _ _
  · rw [htext, List.length_append]
    omega
  · rw [htext, List.all_append, hall, Bool.true_and, List.all_eq_true]
    exact fun c hc => decide_eq_true (hprintable c hc)

lemma not_slash_prefix_of_contained {x : String} (hx : Contained x) :
    ¬ "/".toList <+: x.toList := by
  rintro ⟨cs, hcs⟩
  have htext : x = "/" ++ String.ofList cs := by
    rw [← String.toList_inj, ← hcs]
    simp
  have hne : x ≠ "" := by
    rw [htext]
    intro hempty
    have hlists := congrArg String.toList hempty
    simp at hlists
  refine empty_not_mem_pathParts hx hne ?_
  rw [htext, pathParts_slash]
  exact List.mem_cons_self

/-- Of the roots that a manifest returns the store refuses those with a control character or
with two slashes at their start. -/
lemma rootPath_ok_iff {r : String} (h : documentRoot (.str r) = .ok r) :
    rootPath (.str r) = .ok r ↔ (∀ c ∈ r.toList, 32 ≤ c.toNat) ∧ ¬ "//".toList <+: r.toList := by
  obtain ⟨parts, hparts, hr⟩ := ProjectManifest.documentRoot_ok h
  have hx : Contained ("/".intercalate parts) := by
    by_cases hne : parts = []
    · exact .inl (by rw [hne, String.intercalate_nil])
    · refine .inr fun part hpart => ?_
      rw [ProjectManifest.pathParts_intercalate hne fun part hpart => (hparts part hpart).2.1]
        at hpart
      exact (hparts part hpart).1
  have htext : r.toList = '/' :: ("/".intercalate parts).toList ∨
      r.toList = '/' :: '/' :: ("/".intercalate parts).toList := by
    rcases hr with rfl | rfl
    · exact .inl (by simp)
    · exact .inr (by simp)
  obtain ⟨hlength, hnul⟩ : r.toList.length ≤ 500 ∧ Char.ofNat 0 ∉ r.toList := by
    simp only [documentRoot, ProjectManifest.text, Check.bind_ok, Check.found_ok, Check.that_ok,
      Check.pure_ok] at h
    obtain ⟨-, ⟨s, hs, -, ⟨-, hlength, -, hnul⟩, -⟩, -⟩ := h
    obtain rfl := Option.some.inj hs
    exact ⟨hlength, hnul⟩
  have hback : Char.ofNat 92 ∉ ("/".intercalate parts).toList := fun hmem => by
    rcases ProjectManifest.mem_intercalate hmem with hslash | ⟨part, hpart, hc⟩
    · exact absurd hslash (by decide)
    · exact (hparts part hpart).2.2 hc
  have hopen : rootPath (.str r) = .ok r ↔
      ∃ rest, r = "/" ++ rest ∧ relativePath rest true = .ok rest := by
    simp only [rootPath, Check.bind_ok, Check.found_ok, Check.pure_ok, Json.asString,
      Option.bind_some, removePrefix?_eq_some]
    constructor
    · rintro ⟨rest, hrest, normalized, hnormalized, -⟩
      exact ⟨rest, hrest, relativePath_ok hnormalized ▸ hnormalized⟩
    · rintro ⟨rest, hrest, hnormalized⟩
      exact ⟨rest, hrest, rest, hnormalized, hrest.symm⟩
  have hslashes : "//".toList = ['/', '/'] := rfl
  rw [hopen, hslashes]
  rcases htext with htext | htext
  · have hrest : ∀ rest, r = "/" ++ rest ↔ rest = "/".intercalate parts := fun rest => by
      rw [← String.toList_inj, ← String.toList_inj, htext, String.toList_append]
      exact ⟨fun h => (List.cons.inj h).2.symm, fun h => congrArg _ h.symm⟩
    have hnot := not_slash_prefix_of_contained hx
    have hnul : Char.ofNat 0 ∉ ("/".intercalate parts).toList := fun hmem =>
      hnul (htext ▸ List.mem_cons_of_mem _ hmem)
    have hlength : ("/".intercalate parts).toList.length ≤ 2048 := by
      rw [htext, List.length_cons] at hlength
      omega
    simp only [hrest, exists_eq_left, relativePath_ok_iff]
    rw [htext, List.forall_mem_cons]
    constructor
    · rintro ⟨-, -, -, -, hcontrol, -⟩
      exact ⟨⟨by decide, hcontrol⟩, fun h => hnot (List.cons_prefix_cons.1 h).2⟩
    · rintro ⟨⟨-, hcontrol⟩, -⟩
      exact ⟨hlength, hnot, hback, hnul, hcontrol, hx⟩
  · refine iff_of_false ?_ fun h => h.2 (htext ▸ ⟨_, rfl⟩)
    rintro ⟨rest, hrest, hrelative⟩
    have hlists := congrArg String.toList hrest
    rw [htext, String.toList_append] at hlists
    refine (relativePath_ok_iff.1 hrelative).2.1 ⟨("/".intercalate parts).toList, ?_⟩
    exact (List.cons.inj hlists).2

/-- The store opens what each of its checks accepts. -/
lemma init_ok_iff {driveId root provider reference : String} {u : OneDriveDocumentStore}
    (hdrive : ProjectManifest.isExternalId driveId = true)
    (hroot : documentRoot (.str root) = .ok root) (hprovider : isSlug provider = true)
    (hreference : (reference? reference).isSome = true) :
    init (.str driveId) (.str root) (.str provider) (.str reference) = .ok u ↔
      ('@' ∉ driveId.toList ∧ (∀ c ∈ root.toList, 32 ≤ c.toNat) ∧
        ¬ "//".toList <+: root.toList) ∧ u = ⟨driveId, root, provider, reference⟩ := by
  rw [← @externalId_ok_iff driveId "drive_id" hdrive, ← rootPath_ok_iff hroot]
  simp only [init, Check.bind_ok, Check.pure_ok, identifier_ok hprovider,
    credentialReferenceArg_ok hreference, Except.ok.injEq, exists_eq_left']
  constructor
  · rintro ⟨d, hd, r, hr, rfl⟩
    obtain rfl : root = r := Json.str.inj (rootPath_ok hr)
    obtain rfl : driveId = d := by
      simp only [externalId, Check.found_ok, Option.filter_eq_some_iff] at hd
      exact Option.some.inj hd.1
    exact ⟨⟨hd, hr⟩, rfl⟩
  · rintro ⟨⟨hd, hr⟩, rfl⟩
    exact ⟨_, hd, _, hr, rfl⟩

end OneDriveDocumentStore

/-- A mounted credential can be read when its reference has no empty and no dot segment. -/
lemma MountedAccessTokenProvider.candidate_isSome {provider reference scheme path : String}
    (hprovider : isSlug provider = true) (hreference : reference? reference = some (scheme, path)) :
    (candidate (.str provider) (.str reference)).isSome = true ↔
      ∀ part ∈ ProjectManifest.pathParts path, part ∉ ["", ".", ".."] := by
  have hslug : (Json.asString (.str provider)).filter (fun s => isSlug s = true) =
      some provider :=
    Option.filter_eq_some_iff.2 ⟨rfl, decide_eq_true hprovider⟩
  have htext : Json.asString (.str reference) = some reference := rfl
  simp only [candidate, hslug, htext, Option.bind_eq_bind, Option.bind_some, hreference]
  split
  · next hany =>
    obtain ⟨part, hpart, hbad⟩ := List.any_eq_true.1 hany
    exact iff_of_false Bool.false_ne_true fun h => h part hpart (of_decide_eq_true hbad)
  · next hany =>
    refine iff_of_true rfl fun part hpart hbad => hany ?_
    exact List.any_eq_true.2 ⟨part, hpart, decide_eq_true hbad⟩

/-! ## Normal entries -/

namespace ProjectManifest

lemma reference_of_credential {projectId reference : String} {c e : String × Json}
    {r : ResourceBinding} (h : credential projectId c = .ok (e, r))
    (hreference : c.2.get? "reference" = some (.str reference)) :
    (reference? reference).isSome = true := by
  simp only [credential, Check.bind_ok] at h
  obtain ⟨record, hrecord, -, -, -, -, reference', hmatch, -⟩ := h
  rw [get_eq (mapping_ok hrecord), fieldOf, hreference] at hmatch
  obtain ⟨htext, hpattern⟩ := matching_ok.1 hmatch
  rw [Json.str.inj htext]
  exact hpattern

/-- What is known of a document root that is normalized to itself. -/
lemma document_fixed {projectId : String} {ids : List String} {d : String × Json}
    {r : ResourceBinding} (h : document projectId ids d = .ok (d, r)) :
    ∃ driveId root, isExternalId driveId = true ∧ documentRoot (.str root) = .ok root ∧
      d.2.get? "drive_id" = some (.str driveId) ∧ d.2.get? "root" = some (.str root) ∧
      (fieldOf d.2 "credential" ≠ .null →
        ∃ id ∈ ids, d.2.get? "credential" = some (.str id)) := by
  obtain ⟨-, driveId, root, -, hexternal, -, hdriveId, hroot, -⟩ := document_ok h
  refine ⟨driveId, root, hexternal, ?_, hdriveId, hroot, fun hlinked => ?_⟩
  · simp only [document, Check.bind_ok, Check.pure_ok, Prod.mk.injEq] at h
    obtain ⟨record, hrecord, adapter, -, drive, -, root', hnormal, ⟨owner, authorization⟩, -,
      credential, -, d8a, -, hd, -⟩ := h
    rw [get_eq (mapping_ok hrecord), fieldOf, hroot] at hnormal
    have hfield : d.2.get? "root" = some (.str root') := by
      rw [← hd]
      cases authorization <;> cases d8a <;> rfl
    obtain rfl : root = root' := Json.str.inj (Option.some.inj (hroot.symm.trans hfield))
    exact hnormal
  · simp only [document, Check.bind_ok, Check.pure_ok, Prod.mk.injEq] at h
    obtain ⟨record, hrecord, adapter, -, drive, -, root', -, ⟨owner, authorization⟩, -,
      credential, hlink, d8a, -, hd, -⟩ := h
    have hfield : d.2.get? "credential" = some (.ofOption credential) := by
      rw [← hd]
      cases authorization <;> cases d8a <;> rfl
    rw [get_eq (mapping_ok hrecord)] at hlink
    cases credential with
    | none =>
      rw [fieldOf, hfield] at hlinked
      exact absurd rfl hlinked
    | some id =>
      refine ⟨id, ?_, hfield⟩
      unfold credentialLink at hlink
      split at hlink
      · exact absurd hlink (by simp)
      · simp only [Check.bind_ok, Check.that_ok, Check.pure_ok] at hlink
        obtain ⟨id', -, -, hmem, hid⟩ := hlink
        rwa [← Option.some.inj hid]

/-- A name of a section is found there. -/
lemma exists_get?_of_mem_entries {snapshot : Json} {label id : String}
    (h : id ∈ (entries snapshot label).map Prod.fst) :
    ∃ c, (fieldOf snapshot label).get? id = some c := by
  unfold entries at h
  unfold fieldOf
  cases hsection : snapshot.get? label with
  | none => simp [hsection] at h
  | some v =>
    cases v with
    | obj fields =>
      simp only [hsection, Option.bind_some, Json.asObject, Option.getD_some] at h
      obtain ⟨entry, hentry, rfl⟩ := List.mem_map.1 h
      have hfound : (fields.find? fun p => p.1 = entry.1).isSome = true :=
        List.find?_isSome.2 ⟨entry, hentry, decide_eq_true rfl⟩
      obtain ⟨found, hfound⟩ := Option.isSome_iff_exists.1 hfound
      refine ⟨found.2, ?_⟩
      rw [Option.getD_some, Json.get?, hfound]
      rfl
    | _ => simp [hsection, Json.asObject] at h

end ProjectManifest

namespace ProjectManifestStore

open ProjectManifest (fieldOf entries pathParts)
open OneDriveDocumentStoreFactory (create openRoot)

/-! ## Active document roots -/

/-- A OneDrive root with a credential in an active manifest. -/
structure ActiveDocument (lib : TextLibrary) (es : List ManifestEvent) where
  manifest : ProjectManifest
  active : Active lib (run (step lib) {} es) manifest
  rootId : String
  document : Json
  found : (fieldOf manifest.snapshot "documents").get? rootId = some document
  adapter : document.get? "adapter" = some (.str "onedrive")
  linked : fieldOf document "credential" ≠ .null

lemma asObject_isSome {value v : Json} {key : String} (h : value.get? key = some v) :
    value.asObject.isSome = true := by
  cases value with
  | obj fields => rfl
  | _ => simp [Json.get?] at h

lemma create_ok_iff {projectId rootId : String} {db : ManifestDb} {snapshot : Json}
    {u : OneDriveDocumentStore} (hproject : isSlug projectId = true)
    (hrootId : isSlug rootId = true)
    (hsnapshot : OneDriveDocumentStoreFactory.activeSnapshot projectId db = some snapshot) :
    create projectId rootId db = .ok u ↔ openRoot snapshot rootId = .ok u := by
  simp only [create, OneDriveDocumentStore.identifier_ok hproject,
    OneDriveDocumentStore.identifier_ok hrootId, hsnapshot, Check.bind_ok, Check.found_ok,
    Except.ok.injEq, Option.some.injEq, exists_eq_left']

/-- A root is opened with the arguments of its entry and of its credential. -/
lemma openRoot_ok_iff {snapshot document credential provider : Json} {rootId id : String}
    {u : OneDriveDocumentStore}
    (hfound : (fieldOf snapshot "documents").get? rootId = some document)
    (hadapter : document.get? "adapter" = some (.str "onedrive"))
    (hid : document.get? "credential" = some (.str id))
    (hcredential : (fieldOf snapshot "credentials").get? id = some credential)
    (hprovider : credential.get? "provider" = some provider) :
    openRoot snapshot rootId = .ok u ↔
      OneDriveDocumentStore.init (fieldOf document "drive_id") (fieldOf document "root")
        (fieldOf credential "provider") (fieldOf credential "reference") = .ok u := by
  have hdocument : ((fieldOf snapshot "documents").get? rootId).filter (·.asObject.isSome) =
      some document := by
    rw [hfound]
    exact Option.filter_eq_some_iff.2 ⟨rfl, asObject_isSome hadapter⟩
  have hlinked : (((document.get? "credential").bind Json.asString).bind
      (fieldOf snapshot "credentials").get?).filter (·.asObject.isSome) = some credential := by
    rw [hid]
    exact Option.filter_eq_some_iff.2 ⟨hcredential, asObject_isSome hprovider⟩
  simp only [openRoot, hdocument, hlinked, hadapter, Check.bind_ok, Check.found_ok,
    Check.that_ok, Option.some.injEq, exists_eq_left', exists_const, true_and]

namespace ActiveDocument

variable {lib : TextLibrary} {es : List ManifestEvent}

/-- `OneDriveDocumentStoreFactory.create`, for the project and the root. -/
def opened (d : ActiveDocument lib es) : OneDriveDocumentStore.Opened OneDriveDocumentStore :=
  create d.manifest.projectId d.rootId (run (step lib) {} es)

/-- The drive and the path pass the checks of the store that a manifest does not make. -/
def Strict (d : ActiveDocument lib es) : Prop :=
  ∃ driveId root, d.document.get? "drive_id" = some (.str driveId) ∧
    d.document.get? "root" = some (.str root) ∧ '@' ∉ driveId.toList ∧
    (∀ c ∈ root.toList, 32 ≤ c.toNat) ∧ ¬ "//".toList <+: root.toList

/-- The root is opened as it was claimed. -/
structure OpenedAsClaimed (d : ActiveDocument lib es) : Prop where
  opens : (∃ u, d.opened = .ok u) ↔ d.Strict
  /-- The open store has the drive and the path of the key that was claimed for the entry. -/
  claimed : ∀ u, d.opened = .ok u → ∃ r ∈ d.manifest.resources, r.kind = "document-root" ∧
    r.key = "onedrive" ++ "|" ++ u.driveId ++ "|" ++ u.root ∧
    ∃ ids, ProjectManifest.document d.manifest.projectId ids (d.rootId, d.document) =
      .ok ((d.rootId, d.document), r)
  /-- The store accepts the provider and the reference of the credential, and the mount accepts
  the reference unless a segment of its path is empty or a dot segment. -/
  credential : ∃ id c provider reference scheme path,
    d.document.get? "credential" = some (.str id) ∧
    (fieldOf d.manifest.snapshot "credentials").get? id = some c ∧
    c.get? "provider" = some (.str provider) ∧ c.get? "reference" = some (.str reference) ∧
    OneDriveDocumentStore.identifier (.str provider) "credential provider" = .ok provider ∧
    OneDriveDocumentStore.credentialReferenceArg (.str reference) = .ok reference ∧
    reference? reference = some (scheme, path) ∧
    ((MountedAccessTokenProvider.candidate (.str provider) (.str reference)).isSome = true ↔
      ∀ part ∈ pathParts path, part ∉ ["", ".", ".."])

/-- The entry of an active root is normal, and so is the entry of its credential. -/
lemma exists_entries (d : ActiveDocument lib es) :
    isSlug d.manifest.projectId = true ∧ isSlug d.rootId = true ∧
      ∃ ids, (∃ r ∈ d.manifest.resources, ProjectManifest.document d.manifest.projectId ids
          (d.rootId, d.document) = .ok ((d.rootId, d.document), r)) ∧
        ∃ id c rc, d.document.get? "credential" = some (.str id) ∧
          (fieldOf d.manifest.snapshot "credentials").get? id = some c ∧
          ProjectManifest.credential d.manifest.projectId (id, c) = .ok ((id, c), rc) := by
  obtain ⟨a, s, -, -, hs, hnormal⟩ := active_iff.1 d.active
  obtain ⟨m, hm, hstored⟩ := (inv_run es).normal s (Table.lookup_eq_some.1 hs).1
  obtain rfl : d.manifest = m := Except.ok.inj (hnormal.symm.trans hm)
  rw [← hstored] at hm
  obtain ⟨hproject, hcredentials, hdocuments⟩ := ProjectManifest.entries_of_normalize hm
  obtain ⟨hrootId, r, hr, hdocument⟩ := hdocuments _ (ProjectManifest.mem_entries d.found)
  obtain ⟨-, -, -, -, -, -, hlink⟩ := ProjectManifest.document_fixed hdocument
  obtain ⟨id, hid, hcredentialId⟩ := hlink d.linked
  obtain ⟨c, hc⟩ := ProjectManifest.exists_get?_of_mem_entries hid
  obtain ⟨rc, -, hcredential⟩ := hcredentials _ (ProjectManifest.mem_entries hc)
  exact ⟨hproject, hrootId, _, ⟨r, hr, hdocument⟩, id, c, rc, hcredentialId, hc, hcredential⟩

/-- A root is opened when the store accepts it, and then with its own drive and path. -/
lemma opened_ok_iff (d : ActiveDocument lib es) {u : OneDriveDocumentStore} :
    d.opened = .ok u ↔ d.Strict ∧ d.document.get? "drive_id" = some (.str u.driveId) ∧
      d.document.get? "root" = some (.str u.root) ∧
      ∃ id c, d.document.get? "credential" = some (.str id) ∧
        (fieldOf d.manifest.snapshot "credentials").get? id = some c ∧
        c.get? "provider" = some (.str u.credentialProvider) ∧
        c.get? "reference" = some (.str u.credentialReference) := by
  obtain ⟨hproject, hrootId, ids, ⟨r, -, hdocument⟩, id, c, rc, hid, hc, hcredential⟩ :=
    d.exists_entries
  obtain ⟨driveId, root, hexternal, hnormal, hdriveId, hroot, -⟩ :=
    ProjectManifest.document_fixed hdocument
  obtain ⟨provider, reference, hslug, hprovider, hreference, -⟩ :=
    ProjectManifest.credential_ok hcredential
  have hpattern := ProjectManifest.reference_of_credential hcredential hreference
  have hsnapshot := (d.active.fixed (inv_run es)).2
  rw [opened, create_ok_iff hproject hrootId hsnapshot,
    openRoot_ok_iff d.found d.adapter hid hc hprovider]
  simp only [fieldOf, hdriveId, hroot, hprovider, hreference, Option.getD_some]
  rw [OneDriveDocumentStore.init_ok_iff hexternal hnormal hslug hpattern]
  constructor
  · rintro ⟨hstrict, rfl⟩
    exact ⟨⟨driveId, root, hdriveId, hroot, hstrict⟩, rfl, rfl, id, c, hid, hc, hprovider,
      hreference⟩
  · rintro ⟨⟨driveId', root', hdriveId', hroot', hstrict⟩, hdrive, hpath, id', c', hid', hc',
      hprovider', hreference'⟩
    obtain rfl : driveId = driveId' :=
      Json.str.inj (Option.some.inj (hdriveId.symm.trans hdriveId'))
    obtain rfl : root = root' := Json.str.inj (Option.some.inj (hroot.symm.trans hroot'))
    obtain rfl : id = id' := Json.str.inj (Option.some.inj (hid.symm.trans hid'))
    obtain rfl : c = c' := Option.some.inj (hc.symm.trans hc')
    refine ⟨hstrict, ?_⟩
    rw [Json.str.inj (Option.some.inj hdrive), Json.str.inj (Option.some.inj hpath),
      Json.str.inj (Option.some.inj (hprovider.symm.trans hprovider')),
      Json.str.inj (Option.some.inj (hreference.symm.trans hreference'))]

lemma exists_opened_iff (d : ActiveDocument lib es) : (∃ u, d.opened = .ok u) ↔ d.Strict := by
  constructor
  · rintro ⟨u, hu⟩
    exact (d.opened_ok_iff.1 hu).1
  · intro hstrict
    obtain ⟨driveId, root, hdriveId, hroot, -⟩ := id hstrict
    obtain ⟨-, -, -, -, id, c, rc, hid, hc, hcredential⟩ := d.exists_entries
    obtain ⟨provider, reference, -, hprovider, hreference, -⟩ :=
      ProjectManifest.credential_ok hcredential
    exact ⟨⟨driveId, root, provider, reference⟩, d.opened_ok_iff.2
      ⟨hstrict, hdriveId, hroot, id, c, hid, hc, hprovider, hreference⟩⟩

/-- **Every document root of an active manifest is opened as it was claimed.** -/
theorem openedAsClaimed (d : ActiveDocument lib es) : d.OpenedAsClaimed := by
  obtain ⟨-, -, ids, ⟨r, hr, hdocument⟩, id, c, rc, hid, hc, hcredential⟩ := d.exists_entries
  refine ⟨d.exists_opened_iff, fun u hu => ?_, ?_⟩
  · obtain ⟨-, hdrive, hpath, -⟩ := d.opened_ok_iff.1 hu
    obtain ⟨adapter, driveId, root, -, -, hadapter, hdriveId, hroot, hkind, hkey⟩ :=
      ProjectManifest.document_ok hdocument
    obtain rfl : "onedrive" = adapter :=
      Json.str.inj (Option.some.inj (d.adapter.symm.trans hadapter))
    obtain rfl : u.driveId = driveId :=
      Json.str.inj (Option.some.inj (hdrive.symm.trans hdriveId))
    obtain rfl : u.root = root := Json.str.inj (Option.some.inj (hpath.symm.trans hroot))
    exact ⟨r, hr, hkind, hkey, ids, hdocument⟩
  · obtain ⟨provider, reference, hslug, hprovider, hreference, -⟩ :=
      ProjectManifest.credential_ok hcredential
    have hpattern := ProjectManifest.reference_of_credential hcredential hreference
    obtain ⟨⟨scheme, path⟩, hparsed⟩ := Option.isSome_iff_exists.1 hpattern
    exact ⟨id, c, provider, reference, scheme, path, hid, hc, hprovider, hreference,
      OneDriveDocumentStore.identifier_ok hslug,
      OneDriveDocumentStore.credentialReferenceArg_ok hpattern, hparsed,
      MountedAccessTokenProvider.candidate_isSome hslug hparsed⟩

end ActiveDocument

/-! ## Roots that the store refuses -/

/-- A document root of the project `alpha`. -/
def sampleRoot (name driveId root : String) : String × Json :=
  (name, .obj [("adapter", .str "onedrive"), ("credential", .str "files"),
    ("drive_id", .str driveId), ("owner_project_id", .str "alpha"), ("root", .str root)])

/-- A manifest with a drive that has an `@`, a path that begins with two slashes, one with a
control character and one that the store accepts; the reference of their credential has an
empty segment. -/
def strictManifest : ProjectManifest :=
  exampleManifest "alpha"
    [projectCredential "bot", projectCredential "connector",
      ("files", .obj [("provider", .str "azure"), ("reference", .str "secret://files//token"),
        ("scope", .str "project")])]
    [sampleRoot "control" "drive" "/a\tb", sampleRoot "drive" "team@acme" "/",
      sampleRoot "slashes" "drive" "//shared", sampleRoot "work" "drive" "/work"]
    [⟨"ado-project", "https://dev.azure.com/acme|alpha", "alpha", none⟩,
      ⟨"credential", "alpha|azure|secret://bot", "alpha", none⟩,
      ⟨"credential", "alpha|azure|secret://connector", "alpha", none⟩,
      ⟨"credential", "alpha|azure|secret://files//token", "alpha", none⟩,
      ⟨"document-root", "onedrive|drive|//shared", "alpha", none⟩,
      ⟨"document-root", "onedrive|drive|/a\tb", "alpha", none⟩,
      ⟨"document-root", "onedrive|drive|/work", "alpha", none⟩,
      ⟨"document-root", "onedrive|team@acme|/", "alpha", none⟩,
      ⟨"repository", "https://git.test/alpha.git", "alpha", none⟩,
      ⟨"teams-bot-identity", "tenant|alpha", "alpha", none⟩,
      ⟨"teams-channel", "tenant|team|alpha", "alpha", none⟩]

def strictRun : List ManifestEvent :=
  [.register ⟨"alpha", "alpha"⟩, .activate (activation strictManifest denyForeignResources)]

lemma active_strictManifest :
    Active asciiLibrary (run (step asciiLibrary) {} strictRun) strictManifest := by
  have hnormal : ProjectManifest.normalizeProjectManifest asciiLibrary strictManifest.snapshot =
      .ok strictManifest := normalize_example (by decide +kernel)
  have hdeclared : authorizeDeclaredOwners denyForeignResources strictManifest = .ok () :=
    Check.forM_ok.2 fun r hr => Check.that_ok.2 <| .inl <| by
      simp only [strictManifest, exampleManifest, List.mem_cons, List.not_mem_nil,
        or_false] at hr
      rcases hr with rfl | rfl | rfl | rfl | rfl | rfl | rfl | rfl | rfl | rfl | rfl <;> rfl
  have hcollisions : authorizeActiveCollisions denyForeignResources strictManifest
      (registerProject ⟨"alpha", "alpha"⟩ {}) = .ok () :=
    Check.forM_ok.2 fun c hc => absurd (Table.mem_select.1 hc).1 (Table.notMem_empty c)
  obtain ⟨a, db', h⟩ := activation_of_fresh (p := ⟨"alpha", "alpha"⟩) hnormal
    (by decide : (registerProject ⟨"alpha", "alpha"⟩ {}).projects.lookup
      strictManifest.projectId = some ⟨"alpha", "alpha"⟩) rfl rfl
    (Table.lookup_eq_none.2 fun s hs => absurd hs (Table.notMem_empty s))
    (fun c hc => absurd hc (Table.notMem_empty c)) hdeclared hcollisions
  have hstep : run (step asciiLibrary) {} strictRun = db' := by
    unfold strictRun
    rw [run_cons, run_cons, run_nil]
    exact Tx.commit_of_ok h
  rw [hstep]
  exact ((activate_ensures.1 a db' h).active _).2 (Or.inl rfl)

/-- A root of the sample manifest. -/
def strictDocument (name driveId root : String)
    (h : (fieldOf strictManifest.snapshot "documents").get? name =
      some (sampleRoot name driveId root).2) : ActiveDocument asciiLibrary strictRun where
  manifest := strictManifest
  active := active_strictManifest
  rootId := name
  document := (sampleRoot name driveId root).2
  found := h
  adapter := rfl
  linked := nofun

/-- A root that is opened, as it was claimed. -/
theorem opened_work :
    ∃ d : ActiveDocument asciiLibrary strictRun, d.rootId = "work" ∧ ∃ u, d.opened = .ok u ∧
      ∃ r ∈ d.manifest.resources, r.kind = "document-root" ∧
        r.key = "onedrive" ++ "|" ++ u.driveId ++ "|" ++ u.root := by
  let d := strictDocument "work" "drive" "/work" rfl
  have hclaimed : d.OpenedAsClaimed := d.openedAsClaimed
  have hcontrol : "/work".toList.all (fun c => decide (32 ≤ c.toNat)) = true := by decide
  obtain ⟨u, hu⟩ := hclaimed.opens.2 ⟨"drive", "/work", rfl, rfl, by decide,
    fun c hc => of_decide_eq_true (List.all_eq_true.1 hcontrol c hc), by decide⟩
  obtain ⟨r, hr, hkind, hkey, -⟩ := hclaimed.claimed u hu
  exact ⟨d, rfl, u, hu, r, hr, hkind, hkey⟩

/-- Roots of active manifests that the store refuses, and a credential that cannot be read. -/
theorem not_opened :
    (∀ name ∈ ["control", "drive", "slashes"], ∃ d : ActiveDocument asciiLibrary strictRun,
      d.rootId = name ∧ ¬ ∃ u, d.opened = .ok u) ∧
    MountedAccessTokenProvider.candidate (.str "azure") (.str "secret://files//token") = none := by
  refine ⟨?_, by decide⟩
  have hrefused : ∀ name driveId root,
      (fieldOf strictManifest.snapshot "documents").get? name =
        some (sampleRoot name driveId root).2 →
      ('@' ∈ driveId.toList ∨ (∃ c ∈ root.toList, c.toNat < 32) ∨ "//".toList <+: root.toList) →
      ∃ d : ActiveDocument asciiLibrary strictRun, d.rootId = name ∧ ¬ ∃ u, d.opened = .ok u := by
    intro name driveId root h hbad
    refine ⟨strictDocument name driveId root h, rfl, ?_⟩
    rw [ActiveDocument.exists_opened_iff]
    rintro ⟨driveId', root', hdriveId, hroot, hat, hcontrol, hslashes⟩
    obtain rfl : driveId = driveId' := Json.str.inj (Option.some.inj hdriveId)
    obtain rfl : root = root' := Json.str.inj (Option.some.inj hroot)
    rcases hbad with hbad | ⟨c, hc, hlow⟩ | hbad
    · exact hat hbad
    · have hhigh := hcontrol c hc
      omega
    · exact hslashes hbad
  simp only [List.forall_mem_cons, List.not_mem_nil, IsEmpty.forall_iff, implies_true, and_true]
  exact ⟨hrefused "control" "drive" "/a\tb" rfl (.inr (.inl ⟨'\t', by decide, by decide⟩)),
    hrefused "drive" "team@acme" "/" rfl (.inl (by decide)),
    hrefused "slashes" "drive" "//shared" rfl (.inr (.inr (by decide)))⟩

end ProjectManifestStore

end AgenticMesh
