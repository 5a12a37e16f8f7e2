import AgenticMesh.Manifest.CanonicalKeys

/-!
# The Teams section of an active manifest

What a normalized manifest says about Teams: its tenant and team, its channels and
the application of each role.  No two roles have applications that fold to the same
text.  Every row of the active manifests is the row of one manifest, under the
display name that its project was registered with.
-/

namespace AgenticMesh

/-- The identifiers of a Teams section. -/
structure TeamsSection where
  tenantId : String
  teamId : String
  /-- The channels by their names. -/
  channels : List (String × String)
  /-- The applications by the roles that they belong to. -/
  applications : List (String × String)
deriving DecidableEq

namespace ProjectManifest

variable {lib : TextLibrary}

/-- A section holds these identifiers. -/
structure HoldsTeams (lib : TextLibrary) (teams : Json) (s : TeamsSection) : Prop where
  tenant : teams.get? "tenant_id" = some (.str s.tenantId)
  team : teams.get? "team_id" = some (.str s.teamId)
  channels : teams.get? "channels" = some (.obj (s.channels.map fun c => (c.1, .str c.2)))
  applications : ∃ records, teams.get? "role_identities" = some (.obj records) ∧
    List.Forall₂ (fun r a => r.1 = a.1 ∧ r.2.get? "application_id" = some (.str a.2))
      records s.applications
  external : ∀ id ∈ s.tenantId :: s.teamId :: s.channels.map Prod.snd ++
    s.applications.map Prod.snd, isExternalId id = true
  slugs : ∀ name ∈ s.channels.map Prod.fst ++ s.applications.map Prod.fst, isSlug name = true
  channels_ne : s.channels ≠ []
  applications_ne : s.applications ≠ []
  keys_nodup : (s.applications.map fun a => lib.casefold a.2).Nodup

/-- The Teams section of a manifest. -/
def Teams (lib : TextLibrary) (m : ProjectManifest) (s : TeamsSection) : Prop :=
  HoldsTeams lib (fieldOf m.snapshot "teams") s

lemma teamsIdentity_ok {ids : List String} {credential : String} {seen : List TeamsIdentity}
    {entry : String × Json} {out : (String × Json) × TeamsIdentity}
    (h : teamsIdentity lib ids credential seen entry = .ok out) :
    ∃ application, isExternalId application = true ∧ out.1.1 = entry.1 ∧
      out.1.2.get? "application_id" = some (.str application) ∧
      out.2.applicationKey = lib.casefold application ∧
      out.2.applicationKey ∉ seen.map TeamsIdentity.applicationKey := by
  simp only [teamsIdentity, Check.bind_ok, Check.that_ok, Check.pure_ok] at h
  obtain ⟨record, -, application, happlication, display, -, link, -, _, hkey, _, -, _, -, rfl⟩ := h
  exact ⟨application, (matching_ok.1 happlication).2, rfl, rfl, rfl, hkey⟩

lemma teamsIdentities_ok {ids : List String} {credential : String} {seen : List TeamsIdentity}
    {entries : List (String × Json)} {outs : List ((String × Json) × TeamsIdentity)}
    (h : teamsIdentities lib ids credential seen entries = .ok outs) :
    ∃ applications : List (String × String), List.Forall₂
        (fun r a => r.1 = a.1 ∧ r.2.get? "application_id" = some (.str a.2))
        (outs.map Prod.fst) applications ∧
      applications.map Prod.fst = entries.map Prod.fst ∧
      (∀ a ∈ applications, isExternalId a.2 = true) ∧
      (applications.map fun a => lib.casefold a.2).Nodup ∧
      ∀ a ∈ applications, lib.casefold a.2 ∉ seen.map TeamsIdentity.applicationKey := by
  induction entries generalizing seen outs with
  | nil =>
    obtain rfl : [] = outs := Except.ok.inj h
    exact ⟨[], .nil, rfl, by simp, by simp, by simp⟩
  | cons entry entries ih =>
    simp only [teamsIdentities, Check.bind_ok, Check.pure_ok] at h
    obtain ⟨out, hout, rest, hrest, rfl⟩ := h
    obtain ⟨application, hexternal, hname, hfield, hkey, hfresh⟩ := teamsIdentity_ok hout
    obtain ⟨applications, hrecords, hnames, hall, hnodup, hseen⟩ := ih hrest
    refine ⟨(entry.1, application) :: applications, ?_, ?_, ?_, ?_, ?_⟩
    · exact .cons ⟨hname, hfield⟩ hrecords
    · rw [List.map_cons, List.map_cons, hnames]
    · exact List.forall_mem_cons.2 ⟨hexternal, hall⟩
    · rw [List.map_cons, List.nodup_cons]
      refine ⟨fun hmem => ?_, hnodup⟩
      -- an application of a later role was compared with this one
      obtain ⟨a, ha, hsame⟩ := List.mem_map.1 hmem
      refine hseen a ha ?_
      rw [hsame, List.map_append, List.mem_append]
      exact Or.inr (by simp [hkey])
    · refine List.forall_mem_cons.2 ⟨by rw [← hkey]; exact hfresh, fun a ha hmem => ?_⟩
      refine hseen a ha ?_
      rw [List.map_append, List.mem_append]
      exact Or.inl hmem

lemma namedMapping_ne {value : Json} {label : String} {fields : List (String × Json)}
    (h : namedMapping value label false = .ok fields) : fields ≠ [] := by
  simp only [namedMapping, Check.bind_ok, Check.found_ok, Check.that_ok, Check.pure_ok] at h
  obtain ⟨fields', -, _, hne, _, -, rfl⟩ := h
  exact hne.resolve_left (by simp)

/-- The channels of a section keep their names. -/
lemma channels_ok {entries : List (String × Json)} {channels : List (String × String)}
    (h : entries.mapM (fun entry =>
      (fun channel => (entry.1, channel)) <$> externalId entry.2 "channel_id") = .ok channels) :
    channels.map Prod.fst = entries.map Prod.fst ∧
      ∀ c ∈ channels, isExternalId c.2 = true := by
  induction entries generalizing channels with
  | nil =>
    obtain rfl : [] = channels := Except.ok.inj h
    exact ⟨rfl, by simp⟩
  | cons entry entries ih =>
    simp only [List.mapM_cons, Check.bind_ok, Check.pure_ok] at h
    obtain ⟨c, hc, rest, hrest, rfl⟩ := h
    obtain ⟨hnames, hall⟩ := ih hrest
    cases hvalue : externalId entry.2 "channel_id" with
    | error e => simp [hvalue] at hc
    | ok channel =>
      obtain rfl : (entry.1, channel) = c := by simpa [hvalue] using hc
      refine ⟨by rw [List.map_cons, List.map_cons, hnames], List.forall_mem_cons.2 ⟨?_, hall⟩⟩
      exact (matching_ok.1 hvalue).2

lemma teams_ok {value t : Json} {projectId : String} {ids roles : List String}
    {resources : List ResourceBinding}
    (h : teams lib value projectId ids roles = .ok (t, resources)) :
    ∃ s, HoldsTeams lib t s := by
  simp only [teams, Check.bind_ok, Check.that_ok, Check.pure_ok, Prod.mk.injEq] at h
  obtain ⟨record, -, tenantId, htenant, teamId, hteam, credential, -, ⟨owner, authorization⟩, -,
    named, hnamed, channels, hchannels, entries, hentries, _, -, identities, hidentities, rfl,
    -⟩ := h
  obtain ⟨hnames, hexternal⟩ := channels_ok hchannels
  obtain ⟨applications, hrecords, hroles, happlications, hnodup, -⟩ :=
    teamsIdentities_ok hidentities
  refine ⟨⟨tenantId, teamId, channels, applications⟩, ?_⟩
  constructor
  · cases authorization <;> rfl
  · cases authorization <;> rfl
  · cases authorization <;> rfl
  · exact ⟨_, by cases authorization <;> rfl, hrecords⟩
  · intro id hid
    simp only [List.cons_append, List.mem_cons, List.mem_append, List.mem_map] at hid
    rcases hid with rfl | rfl | ⟨c, hc, rfl⟩ | ⟨a, ha, rfl⟩
    · exact (matching_ok.1 htenant).2
    · exact (matching_ok.1 hteam).2
    · exact hexternal c hc
    · exact happlications a ha
  · intro name hname
    rw [hnames, hroles, List.mem_append] at hname
    rcases hname with hname | hname
    · obtain ⟨p, hp, rfl⟩ := List.mem_map.1 hname
      exact (namedMapping_ok hnamed).2 p hp
    · obtain ⟨p, hp, rfl⟩ := List.mem_map.1 hname
      exact (namedMapping_ok hentries).2 p hp
  · rintro rfl
    exact namedMapping_ne hnamed (List.map_eq_nil_iff.1 hnames.symm)
  · rintro rfl
    exact namedMapping_ne hentries (List.map_eq_nil_iff.1 hroles.symm)
  · exact hnodup

/-- A manifest whose snapshot is normal has a Teams section and a display name of one line. -/
lemma teams_of_normalize {m : ProjectManifest}
    (h : normalizeProjectManifest lib m.snapshot = .ok m) : ∃ s, Teams lib m s := by
  simp only [normalizeProjectManifest, Check.bind_ok, Check.pure_ok] at h
  obtain ⟨n, hn, hm⟩ := h
  simp only [normalized, Check.bind_ok, Check.pure_ok] at hn
  obtain ⟨root, -, -, -, projectId, -, displayName, -, named, -, credentials,
    -, repositories, -, repositories', -, documents, -, documents', -,
    packages, -, roles, -, roles', -, ⟨t, resources⟩, hteams, ado, -, limits, -, -, -, rfl⟩ := hn
  obtain ⟨s, hs⟩ := teams_ok hteams
  refine ⟨s, ?_⟩
  have hfield : fieldOf m.snapshot "teams" = t := by
    rw [← congrArg ProjectManifest.snapshot hm]
    rfl
  rw [Teams, hfield]
  exact hs

/-- The display name of a manifest is a stripped text. -/
lemma displayName_of_normalize {value : Json} {m : ProjectManifest}
    (h : normalizeProjectManifest lib value = .ok m) :
    strip m.displayName = m.displayName ∧ m.displayName ≠ "" ∧
      m.displayName.toList.length ≤ 200 ∧ Char.ofNat 0 ∉ m.displayName.toList := by
  simp only [normalizeProjectManifest, Check.bind_ok, Check.pure_ok] at h
  obtain ⟨n, hn, rfl⟩ := h
  simp only [normalized, Check.bind_ok, Check.pure_ok] at hn
  obtain ⟨root, -, -, -, projectId, -, displayName, hname, -, -, -,
    -, -, -, -, -, -, -, -, -, -, -, -, -, -, -, -, -, -, -, -, -, -, -, rfl⟩ := hn
  simp only [text, Check.bind_ok, Check.found_ok, Check.that_ok, Check.pure_ok] at hname
  obtain ⟨s, -, _, ⟨hne, hlength, -, hnul⟩, rfl⟩ := hname
  refine ⟨strip_strip s, hne, (length_strip_le s).trans hlength, fun hmem => hnul ?_⟩
  rw [toList_strip] at hmem
  exact (List.dropWhile_sublist isSpace).subset ((List.rdropWhile_prefix isSpace _).subset hmem)

end ProjectManifest

/-! ## The rows of the active manifests -/

namespace ProjectManifestStore

variable {lib : TextLibrary} {db db' : ManifestDb}

/-- Every active row is the row of a manifest whose display name is the registered one. -/
def Backed (lib : TextLibrary) (db : ManifestDb) : Prop :=
  ∀ a ∈ db.active, ∃ m p, Active lib db m ∧ m.projectId = a.projectId ∧
    db.projects.lookup a.projectId = some p ∧ p.displayName = m.displayName

/-- An activation that commits is for a registered project. -/
lemma activate_registered {r : ActivateRequest} {a : ManifestActivation}
    (h : activate lib r db = .ok (a, db')) :
    ∃ p, db.projects.lookup r.manifest.projectId = some p ∧
      p.displayName = r.manifest.displayName := by
  have hensures : (activate lib r).Ensures db (fun _ => True) fun _ _ =>
      ∃ p, db.projects.lookup r.manifest.projectId = some p ∧
        p.displayName = r.manifest.displayName := by
    refine Tx.ensures_ofExcept_bind (fun _ _ => trivial) fun _ _ => ?_
    refine Tx.ensures_require_bind (fun _ => trivial) fun _ => ?_
    refine Tx.ensures_demand_bind (fun _ => trivial) fun _ _ => ?_
    refine Tx.ensures_ofExcept_bind (fun _ _ => trivial) fun _ _ => ?_
    refine Tx.ensures_require_bind (fun _ => trivial) fun _ => ?_
    refine Tx.ensures_require_bind (fun _ => trivial) fun _ => ?_
    refine Tx.ensures_ofExcept_bind (fun _ _ => trivial) fun _ _ => ?_
    refine Tx.ensures_demand_bind (fun _ => trivial) fun project hproject => ?_
    refine Tx.ensures_require_bind (fun _ => trivial) fun hname => ?_
    exact ⟨fun _ _ _ => ⟨project, hproject, hname⟩, fun _ _ => trivial⟩
  exact hensures.1 a db' h

lemma Backed.step {e : ManifestEvent} (h : Backed lib db) : Backed lib (step lib db e) := by
  cases e with
  | register q =>
    intro a ha
    change a ∈ (registerProject q db).active at ha
    have hactive : (registerProject q db).active = db.active := by
      unfold registerProject
      split <;> rfl
    rw [hactive] at ha
    obtain ⟨m, p, hm, hproject, hp, hname⟩ := h a ha
    refine ⟨m, p, active_registerProject.2 hm, hproject, ?_, hname⟩
    change (registerProject q db).projects.lookup a.projectId = some p
    unfold registerProject
    split
    · next projects hinsert =>
      -- the registered project is another one
      rw [Table.lookup_of_insert hinsert, if_neg, hp]
      rintro hkey
      have hfresh := (Table.insert_eq_some.1 hinsert).1
      obtain ⟨hpmem, hpkey⟩ := Table.lookup_eq_some.1 hp
      exact absurd (hpkey.trans hkey.symm) (hfresh p hpmem)
    · exact hp
  | activate r =>
    cases hr : activate lib r db with
    | error e =>
      rw [show ProjectManifestStore.step lib db (.activate r) = db from Tx.commit_of_error hr]
      exact h
    | ok out =>
      obtain ⟨result, db'⟩ := out
      rw [show ProjectManifestStore.step lib db (.activate r) = db' from Tx.commit_of_ok hr]
      have hdone : Activated lib r db db' := activate_ensures.1 result db' hr
      obtain ⟨p, hp, hname⟩ := activate_registered hr
      intro a ha
      by_cases hproject : a.projectId = r.manifest.projectId
      · refine ⟨r.manifest, p, (hdone.active _).2 (Or.inl rfl), hproject.symm, ?_, hname⟩
        rw [hdone.projects, hproject, hp]
      · have hold : db.active.lookup a.projectId = some a := by
          rw [← (hdone.others _ hproject).1]
          exact Table.lookup_mem ha
        obtain ⟨m, p, hm, hmproject, hp, hname⟩ := h a (Table.lookup_eq_some.1 hold).1
        refine ⟨m, p, (hdone.active m).2 (Or.inr ⟨?_, hm⟩), hmproject, ?_, hname⟩
        · rw [hmproject]
          exact hproject
        · rw [hdone.projects, hp]

theorem backed_run (es : List ManifestEvent) : Backed lib (run (step lib) {} es) :=
  invariant_run (fun _ _ h => h.step) (fun a ha => absurd ha (Table.notMem_empty a)) es

end ProjectManifestStore

end AgenticMesh
