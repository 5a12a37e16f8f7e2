import AgenticMesh.Manifest.Manifest

/-!
# Entries and their keys

The resource that an entry of a normalized manifest is claimed as: what its key
is made of, and that the entries of a normal snapshot are the ones whose
resources the manifest lists.
-/

namespace AgenticMesh

namespace ProjectManifest

/-- The entries of a section of a snapshot. -/
def entries (snapshot : Json) (label : String) : List (String × Json) :=
  ((snapshot.get? label).bind Json.asObject).getD []

/-- `record[key]`, with `null` for a missing field. -/
def fieldOf (record : Json) (key : String) : Json := (record.get? key).getD .null

variable {lib : TextLibrary} {m : ProjectManifest}

lemma get_eq {value : Json} {fields : List (String × Json)} {key : String}
    (h : value.asObject = some fields) : get fields key = fieldOf value key := by
  rw [Json.asObject_eq_some.1 h]
  rfl

lemma namedMapping_ok {value : Json} {label : String} {allowEmpty : Bool}
    {fields : List (String × Json)} (h : namedMapping value label allowEmpty = .ok fields) :
    value.asObject = some fields ∧ ∀ p ∈ fields, isSlug p.1 = true := by
  simp only [namedMapping, Check.bind_ok, Check.found_ok, Check.that_ok, Check.pure_ok] at h
  obtain ⟨fields', hfields, -, -, -, hslug, rfl⟩ := h
  exact ⟨hfields, by simpa using hslug⟩

lemma matching_ok {pattern : String → Bool} {value : Json} {message s : String} :
    matching pattern value message = .ok s ↔ value = .str s ∧ pattern s = true := by
  simp only [matching, Check.bind_ok, Check.found_ok, Check.that_ok, Check.pure_ok,
    Json.asString_eq_some]
  constructor
  · rintro ⟨s', hs, -, hpattern, rfl⟩
    exact ⟨hs, hpattern⟩
  · rintro ⟨hs, hpattern⟩
    exact ⟨s, hs, (), hpattern, rfl⟩

lemma text_ok {value : Json} {label : String} {maximum : ℕ} {t : String} :
    text value label maximum = .ok t ↔ ∃ s, value = .str s ∧ strip s ≠ "" ∧
      s.toList.length ≤ maximum ∧ ¬ ['$', Char.ofNat 123] <:+: s.toList ∧
      Char.ofNat 0 ∉ s.toList ∧ strip s = t := by
  simp only [text, Check.bind_ok, Check.found_ok, Check.that_ok, Check.pure_ok,
    Json.asString_eq_some]
  constructor
  · rintro ⟨s, rfl, -, ⟨hne, hlength, hbrace, hnull⟩, rfl⟩
    exact ⟨s, rfl, hne, hlength, hbrace, hnull, rfl⟩
  · rintro ⟨s, rfl, hne, hlength, hbrace, hnull, rfl⟩
    exact ⟨s, rfl, (), ⟨hne, hlength, hbrace, hnull⟩, rfl⟩

lemma not_infix_of_notMem {c d : Char} {cs : List Char} (h : c ∉ cs) : ¬ [c, d] <:+: cs :=
  fun hinner => h (hinner.subset List.mem_cons_self)

lemma namedMapping_of {fields : List (String × Json)} {label : String} {allowEmpty : Bool}
    (hempty : allowEmpty = true ∨ fields ≠ []) (h : fields.all (fun f => isSlug f.1) = true) :
    namedMapping (.obj fields) label allowEmpty = .ok fields := by
  simp only [namedMapping, Check.bind_ok, Check.found_ok, Check.that_ok, Check.pure_ok]
  exact ⟨fields, rfl, (), hempty, (), h, rfl⟩

/-- What is known of a manifest whose snapshot is normal. -/
structure Fixed (m : ProjectManifest) : Prop where
  project : isSlug m.projectId = true
  credentials : ∀ c ∈ entries m.snapshot "credentials",
    ∃ r ∈ m.resources, credential m.projectId c = .ok (c, r)
  documents : ∀ d ∈ entries m.snapshot "documents",
    ∃ r ∈ m.resources, ∃ ids, document m.projectId ids d = .ok (d, r)

/-- The entries of a normal snapshot are normalized to themselves, the document roots with the
credentials of the snapshot. -/
lemma entries_of_normalize (h : normalizeProjectManifest lib m.snapshot = .ok m) :
    isSlug m.projectId = true ∧
    (∀ c ∈ entries m.snapshot "credentials",
      ∃ r ∈ m.resources, credential m.projectId c = .ok (c, r)) ∧
    ∀ d ∈ entries m.snapshot "documents", isSlug d.1 = true ∧ ∃ r ∈ m.resources,
      document m.projectId ((entries m.snapshot "credentials").map Prod.fst) d = .ok (d, r) := by
  simp only [normalizeProjectManifest, Check.bind_ok, Check.pure_ok] at h
  obtain ⟨n, hn, hm⟩ := h
  simp only [normalized, Check.bind_ok, Check.pure_ok] at hn
  obtain ⟨root, hroot, -, -, projectId, hproject, displayName, -, named, hnamed, credentials,
    hcredentials, repositories, -, repositories', -, documents, hdocuments, documents', hdocuments',
    packages, -, roles, -, roles', -, teams, -, ado, -, limits, -, -, -, rfl⟩ := hn
  have hprojectId : m.projectId = projectId := by rw [← hm]
  have hsnapshot := congrArg ProjectManifest.snapshot hm
  have hresources := congrArg ProjectManifest.resources hm
  clear hm
  have hobject : m.snapshot.asObject = some root := by
    simp only [mapping, Check.bind_ok, Check.found_ok, Check.that_ok, Check.pure_ok] at hroot
    obtain ⟨fields, hfields, -, -, -, -, rfl⟩ := hroot
    exact hfields
  rw [get_eq hobject] at hproject hnamed hdocuments
  have hcredentialField : m.snapshot.get? "credentials" =
      some (.obj (credentials.map Prod.fst)) := by
    rw [← hsnapshot]
    rfl
  have hdocumentField : m.snapshot.get? "documents" = some (.obj (documents'.map Prod.fst)) := by
    rw [← hsnapshot]
    rfl
  have hmem : ∀ r, r ∈ credentials.map Prod.snd ∨ r ∈ documents'.map Prod.snd →
      r ∈ m.resources := by
    intro r hr
    rw [← hresources]
    simp only [List.mem_insertionSort, List.mem_append]
    tauto
  refine ⟨?_, fun c hc => ?_, fun d hd => ?_⟩
  · rw [hprojectId]
    exact (matching_ok.1 hproject).2
  · have hfst : credentials.map Prod.fst = named := by
      have hnamed := (namedMapping_ok hnamed).1
      rw [fieldOf, hcredentialField] at hnamed
      exact Option.some.inj hnamed
    rw [entries, hcredentialField] at hc
    obtain ⟨r, hr, hcredential⟩ := Check.fixed_of_mapM hcredentials hfst (hfst ▸ hc)
    refine ⟨r, hmem r (Or.inl (List.mem_map_of_mem hr)), ?_⟩
    rw [hprojectId]
    exact hcredential
  · have hfst : documents'.map Prod.fst = documents := by
      have hnamed := (namedMapping_ok hdocuments).1
      rw [fieldOf, hdocumentField] at hnamed
      exact Option.some.inj hnamed
    have hids : (entries m.snapshot "credentials").map Prod.fst =
        credentials.map fun entry => entry.1.1 := by
      rw [entries, hcredentialField]
      exact List.map_map
    rw [entries, hdocumentField] at hd
    have hnamed : d ∈ documents := hfst ▸ hd
    obtain ⟨r, hr, hdocument⟩ := Check.fixed_of_mapM hdocuments' hfst hnamed
    refine ⟨(namedMapping_ok hdocuments).2 d hnamed, r,
      hmem r (Or.inr (List.mem_map_of_mem hr)), ?_⟩
    rw [hprojectId, hids]
    exact hdocument

lemma fixed_of_normalize (h : normalizeProjectManifest lib m.snapshot = .ok m) : Fixed m := by
  obtain ⟨hproject, hcredentials, hdocuments⟩ := entries_of_normalize h
  refine ⟨hproject, hcredentials, fun d hd => ?_⟩
  obtain ⟨-, r, hr, hdocument⟩ := hdocuments d hd
  exact ⟨r, hr, _, hdocument⟩

/-! ## Keys -/

/-- Where the key of a credential lies. -/
def namespaceOf (projectId : String) (c : String × Json) : String :=
  if c.2.get? "scope" = some (.str "project") then projectId else "system"

lemma fieldOf_eq_str {record : Json} {key s : String} (h : fieldOf record key = .str s) :
    record.get? key = some (.str s) := by
  unfold fieldOf at h
  cases hget : record.get? key with
  | none => simp [hget] at h
  | some v =>
    rw [hget] at h
    rw [← h]
    rfl

lemma mapping_ok {value : Json} {label : String} {required optional : List String}
    {fields : List (String × Json)} (h : mapping value label required optional = .ok fields) :
    value.asObject = some fields := by
  simp only [mapping, Check.bind_ok, Check.found_ok, Check.that_ok, Check.pure_ok] at h
  obtain ⟨fields', hfields, -, -, -, -, rfl⟩ := h
  exact hfields

lemma credential_ok {projectId : String} {c e : String × Json} {r : ResourceBinding}
    (h : credential projectId c = .ok (e, r)) :
    ∃ provider reference, isSlug provider = true ∧
      c.2.get? "provider" = some (.str provider) ∧ c.2.get? "reference" = some (.str reference) ∧
      (c.2.get? "scope" = some (.str "project") ∨ c.2.get? "scope" = some (.str "system")) ∧
      r.kind = "credential" ∧
      r.key = namespaceOf projectId c ++ "|" ++ provider ++ "|" ++ reference := by
  simp only [credential, Check.bind_ok, Check.that_ok, Check.pure_ok, Prod.mk.injEq] at h
  obtain ⟨record, hrecord, _, hscope, provider, hprovider, reference, hreference,
    authorization, -, -, -, -, -, -, rfl⟩ := h
  have hobject := mapping_ok hrecord
  rw [get_eq hobject] at hscope hprovider hreference
  obtain ⟨hprovider, hslug⟩ := matching_ok.1 hprovider
  obtain ⟨hreference, -⟩ := matching_ok.1 hreference
  have hscope' := hscope.imp fieldOf_eq_str fieldOf_eq_str
  refine ⟨provider, reference, hslug, fieldOf_eq_str hprovider, fieldOf_eq_str hreference,
    hscope', rfl, ?_⟩
  have hnamespace : namespaceOf projectId c =
      if get record "scope" = .str "project" then projectId else "system" := by
    unfold namespaceOf
    rw [get_eq hobject]
    obtain hp | hs := hscope'
    · rw [if_pos hp, if_pos (by rw [fieldOf, hp]; rfl)]
    · rw [if_neg (by simp [hs]), if_neg (by simp [fieldOf, hs])]
  rw [hnamespace]

lemma document_ok {projectId : String} {ids : List String} {d : String × Json}
    {r : ResourceBinding} (h : document projectId ids d = .ok (d, r)) :
    ∃ adapter driveId root, isSlug adapter = true ∧ isExternalId driveId = true ∧
      d.2.get? "adapter" = some (.str adapter) ∧ d.2.get? "drive_id" = some (.str driveId) ∧
      d.2.get? "root" = some (.str root) ∧ r.kind = "document-root" ∧
      r.key = adapter ++ "|" ++ driveId ++ "|" ++ root := by
  simp only [document, Check.bind_ok, Check.pure_ok, Prod.mk.injEq] at h
  obtain ⟨record, hrecord, adapter, hadapter, driveId, hdriveId, root, -, ⟨owner, authorization⟩,
    -, credential, -, d8a, -, hd, rfl⟩ := h
  have hobject := mapping_ok hrecord
  rw [get_eq hobject] at hadapter hdriveId
  obtain ⟨hadapter, hslug⟩ := matching_ok.1 hadapter
  obtain ⟨hdriveId, hexternal⟩ := matching_ok.1 hdriveId
  refine ⟨adapter, driveId, root, hslug, hexternal, fieldOf_eq_str hadapter,
    fieldOf_eq_str hdriveId, ?_, rfl, rfl⟩
  rw [← hd]
  cases authorization <;> cases d8a <;> rfl

lemma bar_notMem_of_isSlug {s : String} (h : isSlug s = true) : '|' ∉ s.toList :=
  notMem_of_fullmatch h (by decide) (by decide)

lemma bar_notMem_of_isExternalId {s : String} (h : isExternalId s = true) : '|' ∉ s.toList :=
  notMem_of_fullmatch h (by decide) (by decide)

/-- An entry that is found under its name. -/
lemma mem_entries {snapshot d : Json} {label name : String}
    (h : (fieldOf snapshot label).get? name = some d) : (name, d) ∈ entries snapshot label := by
  unfold fieldOf at h
  unfold entries
  cases hsection : snapshot.get? label with
  | none =>
    rw [hsection] at h
    simp [Json.get?] at h
  | some v =>
    rw [hsection] at h
    cases v with
    | obj fields =>
      obtain ⟨⟨name', d'⟩, hfind, rfl⟩ := Option.map_eq_some_iff.1 h
      have hname : name' = name := by simpa using List.find?_some hfind
      subst hname
      exact List.mem_of_find?_eq_some hfind
    | _ => simp [Json.get?] at h

/-- Two keys of credentials are equal when their parts are. -/
lemma credentialKey_inj {ns ns' p p' r r' : String} (hns : '|' ∉ ns.toList)
    (hns' : '|' ∉ ns'.toList) (hp : '|' ∉ p.toList) (hp' : '|' ∉ p'.toList)
    (h : ns ++ "|" ++ p ++ "|" ++ r = ns' ++ "|" ++ p' ++ "|" ++ r') :
    ns = ns' ∧ p = p' ∧ r = r' := by
  have hassoc : ns ++ "|" ++ (p ++ "|" ++ r) = ns' ++ "|" ++ (p' ++ "|" ++ r') := by
    simpa only [String.append_assoc] using h
  obtain ⟨hleft, hright⟩ := bar_inj hns hns' hassoc
  obtain ⟨hmiddle, hlast⟩ := bar_inj hp hp' hright
  exact ⟨hleft, hmiddle, hlast⟩

end ProjectManifest

end AgenticMesh
