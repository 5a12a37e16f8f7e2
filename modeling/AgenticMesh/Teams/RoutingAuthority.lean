import AgenticMesh.RolePack.Instances
import AgenticMesh.Teams.Routing

/-!
# Authority of Teams routing

What is routed is for an active manifest that the sender may use, and a question
lists exactly the manifests among which the sender may choose.  Projects that the
sender may not use do not change what a personal message is routed to, if the
router can read their manifests.  A channel that two active manifests claim is
rejected for every sender.
-/

namespace AgenticMesh.Teams.TeamsProjectRouter

open ProjectManifestStore (Active)
open RolePack (PackInv)

variable {router : TeamsProjectRouter} {lib : TextLibrary} {db db' : RolePackDb}

/-! ## Reading the rows -/

lemma mapM_eq_some {α β : Type} {f : α → Option β} {xs : List α} {ys : List β} :
    xs.mapM f = some ys ↔ (∀ x ∈ xs, (f x).isSome) ∧ ys = xs.filterMap f := by
  induction xs generalizing ys with
  | nil =>
    constructor
    · exact fun h => ⟨by simp, (Option.some.inj h).symm⟩
    · rintro ⟨-, rfl⟩
      rfl
  | cons x xs ih =>
    rw [List.mapM_cons, Option.bind_eq_bind, List.forall_mem_cons]
    cases hx : f x with
    | none => simp
    | some y =>
      rw [Option.bind_some, Option.bind_eq_bind, Option.bind_eq_some_iff,
        List.filterMap_cons_some hx]
      constructor
      · rintro ⟨rest, hrest, hys⟩
        obtain ⟨hall, rfl⟩ := ih.1 hrest
        exact ⟨⟨rfl, hall⟩, (Option.some.inj hys).symm⟩
      · rintro ⟨⟨-, hall⟩, rfl⟩
        exact ⟨_, ih.2 ⟨hall, rfl⟩, rfl⟩

/-- The router can read all active manifests. -/
def Readable (db : RolePackDb) : Prop := ∀ row ∈ activeRows db, (activeRoute row).isSome

lemma activeRoutes_ok {routes : List ActiveRoute} : activeRoutes db = .ok routes ↔
    Readable db ∧ routes = (activeRows db).filterMap activeRoute := by
  rw [activeRoutes, Check.found_ok, mapM_eq_some]
  rfl

lemma activeRoutes_of_not_readable (h : ¬ Readable db) :
    activeRoutes db = .error .routingUnavailable := by
  cases hroutes : (activeRows db).mapM activeRoute with
  | none => rw [activeRoutes, hroutes]; rfl
  | some routes => exact absurd (mapM_eq_some.1 hroutes).1 h

lemma mem_activeRows {row : RouteRow} : row ∈ activeRows db ↔
    ∃ a p s, db.active.lookup row.projectId = some a ∧ db.projects.lookup row.projectId = some p ∧
      db.snapshots.lookup (row.projectId, a.manifestDigest) = some s ∧
      row = ⟨row.projectId, p.displayName, a.manifestDigest, s.snapshot⟩ := by
  simp only [activeRows, List.mem_filterMap, List.mem_insertionSort, Table.mem_rows, routeRow,
    Option.bind_eq_bind, Option.bind_eq_some_iff, Option.pure_def, Option.some.injEq]
  constructor
  · rintro ⟨a, ha, p, hp, s, hs, rfl⟩
    exact ⟨a, p, s, Table.lookup_mem ha, hp, hs, rfl⟩
  · rintro ⟨a, p, s, ha, hp, hs, hrow⟩
    obtain ⟨hmem, hkey⟩ := Table.lookup_eq_some.1 ha
    replace hkey : a.projectId = row.projectId := hkey
    exact ⟨a, hmem, p, hkey ▸ hp, s, hkey ▸ hs, by rw [hkey, ← hrow]⟩

/-- The rows are in the order of their projects, and no project has two. -/
lemma pairwise_activeRows :
    (activeRows db).Pairwise fun x y => x.projectId < y.projectId := by
  have : Std.Total fun a b : ActiveManifest => a.projectId ≤ b.projectId :=
    ⟨fun a b => le_total a.projectId b.projectId⟩
  have : IsTrans ActiveManifest fun a b => a.projectId ≤ b.projectId := ⟨fun _ _ _ => le_trans⟩
  have hsorted := List.pairwise_insertionSort
    (fun a b : ActiveManifest => a.projectId ≤ b.projectId) db.active.rows
  have hkeys : (db.active.rows.insertionSort fun a b => a.projectId ≤ b.projectId).Pairwise
      fun a b => a.projectId ≠ b.projectId :=
    List.pairwise_map.1 (((List.perm_insertionSort _ _).map ActiveManifest.key).nodup_iff.2
      db.active.nodup_keys)
  refine (hsorted.and hkeys).filterMap _ fun a b hab x hx y hy => ?_
  have hproject : ∀ {a : ActiveManifest} {x : RouteRow}, routeRow db a = some x →
      x.projectId = a.projectId := by
    intro a x hx
    simp only [routeRow, Option.bind_eq_bind, Option.bind_eq_some_iff, Option.pure_def,
      Option.some.injEq] at hx
    obtain ⟨p, -, s, -, rfl⟩ := hx
    rfl
  rw [hproject hx, hproject hy]
  exact lt_of_le_of_ne hab.1 hab.2

lemma projectId_of_activeRoute {row : RouteRow} {route : ActiveRoute}
    (h : activeRoute row = some route) : route.projectId = row.projectId := by
  simp only [activeRoute, Option.bind_eq_bind, Option.bind_eq_some_iff, Option.pure_def,
    Option.some.injEq] at h
  obtain ⟨_, -, _, -, _, -, _, -, _, -, _, -, _, -, _, -, _, -, rfl⟩ := h
  rfl

/-! ## The rows of the active manifests -/

/-- The row of a manifest. -/
def rowOf (m : ProjectManifest) : RouteRow := ⟨m.projectId, m.displayName, m.digest, m.snapshot⟩

/-- The route of a manifest with a Teams section. -/
def routeOf (m : ProjectManifest) (s : TeamsSection) : ActiveRoute where
  projectId := m.projectId
  displayName := m.displayName
  manifestDigest := m.digest
  tenantId := s.tenantId
  teamId := s.teamId
  channels := s.channels
  identities := s.applications

/-- An active manifest is the one that its snapshot normalizes to. -/
lemma normal_of_active {db : ManifestDb} (hinv : ProjectManifestStore.ManifestInv lib db)
    {m : ProjectManifest} (h : Active lib db m) :
    ∃ a s, db.active.lookup m.projectId = some a ∧ a.manifestDigest = m.digest ∧
      db.snapshots.lookup (m.projectId, m.digest) = some s ∧ s.snapshot = m.snapshot ∧
      ProjectManifest.normalizeProjectManifest lib m.snapshot = .ok m := by
  obtain ⟨a, s, ha, hdigest, hs, hnormal⟩ := ProjectManifestStore.active_iff.1 h
  obtain ⟨m', hm', hsnapshot⟩ := hinv.normal s (Table.lookup_eq_some.1 hs).1
  obtain rfl : m = m' := Except.ok.inj (hnormal.symm.trans hm')
  exact ⟨a, s, ha, hdigest, hs, hsnapshot.symm, by rw [hsnapshot]; exact hnormal⟩

/-- A project has one active manifest. -/
lemma active_unique {m n : ProjectManifest} (hm : Active lib db.toManifestDb m)
    (hn : Active lib db.toManifestDb n) (h : m.projectId = n.projectId) : m = n := by
  obtain ⟨a, s, ha, hdigest, hs, hnormal⟩ := ProjectManifestStore.active_iff.1 hm
  obtain ⟨b, t, hb, hdigest', ht, hnormal'⟩ := ProjectManifestStore.active_iff.1 hn
  rw [← h, ha] at hb
  obtain rfl := Option.some.inj hb
  rw [← h, ← hdigest', hdigest, hs] at ht
  obtain rfl := Option.some.inj ht
  exact Except.ok.inj (hnormal.symm.trans hnormal')

/-- The rows are those of the active manifests. -/
lemma mem_activeRows_iff (hinv : PackInv lib db) {row : RouteRow} :
    row ∈ activeRows db ↔ ∃ m, Active lib db.toManifestDb m ∧ row = rowOf m := by
  rw [mem_activeRows]
  constructor
  · rintro ⟨a, p, s, ha, hp, hs, hrow⟩
    obtain ⟨hmem, hkey⟩ := Table.lookup_eq_some.1 ha
    obtain ⟨m, q, hm, hproject, hq, hname⟩ := hinv.backed a hmem
    replace hkey : a.projectId = row.projectId := hkey
    obtain ⟨b, t, hb, hdigest, ht, hsnapshot, -⟩ := normal_of_active hinv.manifests hm
    rw [hproject, hkey] at hb ht
    rw [hkey] at hq
    obtain rfl := Option.some.inj (ha.symm.trans hb)
    obtain rfl := Option.some.inj (hp.symm.trans hq)
    rw [← hdigest] at ht
    obtain rfl := Option.some.inj (hs.symm.trans ht)
    refine ⟨m, hm, ?_⟩
    rw [hrow, rowOf, hproject, hkey, hname, hdigest, hsnapshot]
  · rintro ⟨m, hm, rfl⟩
    obtain ⟨a, s, ha, hdigest, hs, hsnapshot, -⟩ := normal_of_active hinv.manifests hm
    obtain ⟨n, p, hn, hproject, hp, hname⟩ := hinv.backed a (Table.lookup_eq_some.1 ha).1
    have hkey : a.projectId = m.projectId := (Table.lookup_eq_some.1 ha).2
    obtain rfl : n = m := active_unique hn hm (hproject.trans hkey)
    rw [hkey] at hp
    exact ⟨a, p, s, ha, hp, hdigest ▸ hs, by rw [rowOf, hname, hdigest, hsnapshot]⟩

/-- The names of a section are read as they are. -/
lemma named_ok {read : Json → Option String} {records : List (String × Json)}
    {as out : List (String × String)}
    (hrecords : List.Forall₂ (fun r a => r.1 = a.1 ∧ ∀ s, read r.2 = some s → s = a.2) records as)
    (h : named read (.obj records) = some out) : out = as := by
  simp only [named, Json.asObject, Option.bind_eq_bind, Option.bind_some] at h
  induction hrecords generalizing out with
  | nil => exact (Option.some.inj h).symm
  | cons hentry _ ih =>
    simp only [List.mapM_cons, Option.bind_eq_bind, Option.bind_eq_some_iff, Option.pure_def,
      Option.some.injEq] at h
    obtain ⟨entry, ⟨_, -, value, hvalue, rfl⟩, rest, hrest, rfl⟩ := h
    rw [ih hrest, hentry.1, hentry.2 value hvalue]

/-- Names and identifiers that are valid are read. -/
lemma named_of_valid {read : Json → Option String} {records : List (String × Json)}
    {as : List (String × String)}
    (hrecords : List.Forall₂ (fun r a => r.1 = a.1 ∧ isSlug a.1 = true ∧ read r.2 = some a.2)
      records as) : named read (.obj records) = some as := by
  simp only [named, Json.asObject, Option.bind_eq_bind, Option.bind_some]
  induction hrecords with
  | nil => rfl
  | cons hentry _ ih =>
    rw [List.mapM_cons, ih]
    simp [hentry.1, hentry.2.1, hentry.2.2]

lemma externalId_str {s t : String} (h : externalId (.str s) = some t) : t = s := by
  have hsome : some s = some t := (Option.filter_eq_some_iff.1 h).1
  exact (Option.some.inj hsome).symm

lemma externalId_of_valid {s : String} (h : isExternalId s = true) :
    externalId (.str s) = some s := Option.filter_eq_some_iff.2 ⟨rfl, h⟩

lemma fieldOf_get {record value : Json} {key k : String}
    (h : (ProjectManifest.fieldOf record key).get? k = some value) :
    record.get? key = some (ProjectManifest.fieldOf record key) := by
  unfold ProjectManifest.fieldOf at h ⊢
  cases hfield : record.get? key with
  | none =>
    rw [hfield, Option.getD_none] at h
    cases h
  | some field => rfl

lemma displayName_of_stripped {maximum : ℕ} {s t : String} (hs : strip s = s)
    (h : displayName maximum s = some t) : t = s := by
  unfold displayName at h
  split at h
  · exact (Option.some.inj h).symm.trans hs
  · cases h

/-- The router reads the manifest as it is, if it reads it. -/
lemma eq_routeOf {m : ProjectManifest} {s : TeamsSection} {route : ActiveRoute}
    (hteams : m.Teams lib s) (hname : strip m.displayName = m.displayName)
    (h : activeRoute (rowOf m) = some route) : route = routeOf m s := by
  simp only [activeRoute, rowOf, Option.bind_eq_bind, Option.bind_eq_some_iff, Option.pure_def,
    Option.some.injEq] at h
  obtain ⟨teams, hfield, channels, ⟨channelValue, hchannels, hchannelNames⟩, identities,
    ⟨identityValue, hidentities, hidentityNames⟩, _, -, _, -, name, hdisplay, _, -, tenantId,
    ⟨tenant, htenant, htenantId⟩, teamId, ⟨team, hteam, hteamId⟩, rfl⟩ := h
  obtain rfl : ProjectManifest.fieldOf m.snapshot "teams" = teams := by
    rw [ProjectManifest.fieldOf, hfield, Option.getD_some]
  rw [hteams.tenant, Option.some.injEq] at htenant
  rw [hteams.team, Option.some.injEq] at hteam
  rw [hteams.channels, Option.some.injEq] at hchannels
  obtain ⟨records, hrecords, hall⟩ := hteams.applications
  rw [hrecords, Option.some.injEq] at hidentities
  subst htenant hteam hchannels hidentities
  have hchannels : channels = s.channels := by
    refine named_ok (List.forall₂_map_left_iff.2 (List.forall₂_same.2 fun c _ => ?_)) hchannelNames
    exact ⟨rfl, fun t ht => externalId_str ht⟩
  have hidentities : identities = s.applications := by
    refine named_ok (hall.imp fun r a hra => ⟨hra.1, fun t ht => ?_⟩) hidentityNames
    rw [hra.2, Option.bind_some] at ht
    exact externalId_str ht
  rw [externalId_str htenantId, externalId_str hteamId, hchannels, hidentities,
    displayName_of_stripped hname hdisplay]
  rfl

/-- The router can read a manifest: its identifiers have no exclamation mark, and its display name
is a single line. -/
structure Routable (lib : TextLibrary) (m : ProjectManifest) : Prop where
  identifiers : ∀ s, m.Teams lib s → ∀ id ∈ s.tenantId :: s.teamId :: s.channels.map Prod.snd ++
    s.applications.map Prod.snd, '!' ∉ id.toList
  line : '\r' ∉ m.displayName.toList ∧ '\n' ∉ m.displayName.toList

lemma isExternalId_of_manifest {id : String} (h : ProjectManifest.isExternalId id = true)
    (hmark : '!' ∉ id.toList) : isExternalId id = true := by
  unfold ProjectManifest.isExternalId fullmatch at h
  unfold isExternalId
  cases hid : id.toList with
  | nil => simp [hid] at h
  | cons c cs =>
    simp only [hid, Bool.and_eq_true, List.all_eq_true, decide_eq_true_eq] at h hmark ⊢
    obtain ⟨⟨hc, hlength⟩, hcs⟩ := h
    refine ⟨⟨hc, hlength⟩, fun d hd => ?_⟩
    have hne : d ≠ '!' := by
      rintro rfl
      exact hmark (List.mem_cons_of_mem c hd)
    have hd' := hcs d hd
    simp only [Bool.or_eq_true, beq_iff_eq] at hd'
    simp only [isExternalChar, isIdentifierChar, Bool.or_eq_true, beq_iff_eq]
    tauto

lemma isSome_of_routable {m : ProjectManifest}
    (hnormal : ProjectManifest.normalizeProjectManifest lib m.snapshot = .ok m)
    (h : Routable lib m) : (activeRoute (rowOf m)).isSome := by
  obtain ⟨s, hs⟩ := ProjectManifest.teams_of_normalize hnormal
  obtain ⟨hstrip, hne, hlength, hnul⟩ := ProjectManifest.displayName_of_normalize hnormal
  have hslug := (ProjectManifest.fixed_of_normalize hnormal).project
  have hids : ∀ id ∈ s.tenantId :: s.teamId :: s.channels.map Prod.snd ++
      s.applications.map Prod.snd, isExternalId id = true := fun id hid =>
    isExternalId_of_manifest (hs.external id hid) (h.identifiers s hs id hid)
  have htenant := externalId_of_valid (hids s.tenantId (by simp))
  have hteam := externalId_of_valid (hids s.teamId (by simp))
  have hchannels : named externalId (.obj (s.channels.map fun c => (c.1, .str c.2))) =
      some s.channels := by
    refine named_of_valid (List.forall₂_map_left_iff.2 (List.forall₂_same.2 fun c hc => ?_))
    have hname := hs.slugs c.1 (List.mem_append_left _ (List.mem_map_of_mem hc))
    refine ⟨rfl, hname, externalId_of_valid (hids c.2 ?_)⟩
    simp only [List.cons_append, List.mem_cons, List.mem_append]
    exact Or.inr (Or.inr (Or.inl (List.mem_map_of_mem hc)))
  obtain ⟨records, hrecords, hall⟩ := hs.applications
  have hidentities : named (fun value => (value.get? "application_id").bind externalId)
      (.obj records) = some s.applications := by
    have hmem := ((List.forall₂_and_left _ _).2
      ⟨fun a (ha : a ∈ s.applications) => ha, hall.flip⟩).flip
    refine named_of_valid (hmem.imp fun r a hra => ?_)
    obtain ⟨ha, hname, happlication⟩ := hra
    refine ⟨hname, hs.slugs a.1 (List.mem_append_right _ (List.mem_map_of_mem ha)), ?_⟩
    rw [happlication, Option.bind_some]
    refine externalId_of_valid (hids a.2 ?_)
    simp only [List.cons_append, List.mem_cons, List.mem_append]
    exact Or.inr (Or.inr (Or.inr (List.mem_map_of_mem ha)))
  have hdigest : isDigest m.digest = true := by
    simp only [ProjectManifest.normalizeProjectManifest, Check.bind_ok, Check.pure_ok] at hnormal
    obtain ⟨n, -, hm⟩ := hnormal
    rw [← hm]
    exact RolePack.isDigest_sha256Hex _
  have hdisplay : displayName 200 m.displayName = some m.displayName := by
    have hline : m.displayName.toList.all (fun c => c ≠ Char.ofNat 0 && c ≠ '\r' && c ≠ '\n') =
        true := by
      refine List.all_eq_true.2 fun c hc => ?_
      have hne₀ : c ≠ Char.ofNat 0 := fun h0 => hnul (h0 ▸ hc)
      have hne₁ : c ≠ '\r' := fun h1 => h.line.1 (h1 ▸ hc)
      have hne₂ : c ≠ '\n' := fun h2 => h.line.2 (h2 ▸ hc)
      simp [hne₀, hne₁, hne₂]
    unfold displayName
    rw [if_pos ⟨by rw [hstrip]; exact hne, hlength, hline⟩, hstrip]
  have hfield := fieldOf_get (show (ProjectManifest.fieldOf m.snapshot "teams").get? "tenant_id" =
    some (.str s.tenantId) from hs.tenant)
  have hroute : activeRoute (rowOf m) = some (routeOf m s) := by
    simp only [activeRoute, rowOf, Option.bind_eq_bind, Option.bind_eq_some_iff, Option.pure_def,
      Option.some.injEq]
    exact ⟨_, hfield, _, ⟨_, hs.channels, hchannels⟩, _, ⟨_, hrecords, hidentities⟩, (),
      by simp [guard, hs.channels_ne, hs.applications_ne], (), by simp [guard, hslug], _, hdisplay,
      (), by simp [guard, hdigest], _, ⟨_, hs.tenant, htenant⟩, _, ⟨_, hs.team, hteam⟩, rfl⟩
  rw [hroute]
  rfl

/-! ## Authority -/

/-- The role, and no other, has the application of a recipient. -/
structure RoleOf (lib : TextLibrary) (s : TeamsSection) (recipient role : String) : Prop where
  application : ∃ application, (role, application) ∈ s.applications ∧
    lib.casefold application = lib.casefold recipient
  alone : ∀ i ∈ s.applications, lib.casefold i.2 = lib.casefold recipient → i.1 = role

/-- A sender may use an active manifest, in which a role has the application of the recipient. -/
structure Authorised (router : TeamsProjectRouter) (db : RolePackDb)
    (senderId tenantId recipientApplicationId : String) (m : ProjectManifest) (s : TeamsSection)
    (role : String) : Prop where
  allowed : router.Allowed senderId m.projectId
  active : Active router.lib db.toManifestDb m
  teams : m.Teams router.lib s
  tenant : s.tenantId = tenantId
  identity : ∃ recipient, TeamsProjectRouter.recipient recipientApplicationId = some recipient ∧
    RoleOf router.lib s recipient role

/-- The channel of an activity is one of a manifest. -/
structure Claims (a : ChannelActivity) (s : TeamsSection) : Prop where
  tenant : s.tenantId = a.tenantId
  team : s.teamId = a.teamId
  channel : a.channelId ∈ s.channels.map Prod.snd

/-- The applications of a section fold to different texts, so that a role is found if there is
one. -/
lemma matchingRole_eq_some {m : ProjectManifest} {s : TeamsSection} {recipient role : String}
    (hs : m.Teams router.lib s) : router.matchingRole recipient (routeOf m s) = some role ↔
      RoleOf router.lib s recipient role := by
  have hinj : ∀ i ∈ s.applications, ∀ j ∈ s.applications,
      router.lib.casefold i.2 = router.lib.casefold j.2 → i = j := fun i hi j hj h =>
    List.inj_on_of_nodup_map hs.keys_nodup hi hj h
  unfold matchingRole
  constructor
  · intro h
    split at h
    · next i hfilter =>
      obtain rfl := Option.some.inj h
      have hi : i ∈ s.applications.filter fun i => router.SameApplication i.2 recipient :=
        hfilter ▸ List.mem_singleton_self i
      obtain ⟨hmem, hsame⟩ := List.mem_filter.1 hi
      rw [decide_eq_true_eq] at hsame
      exact ⟨⟨i.2, hmem, hsame⟩,
        fun j hj hfold => by rw [hinj j hj i hmem (hfold.trans hsame.symm)]⟩
    · cases h
  · rintro ⟨⟨application, hmem, hfold⟩, -⟩
    have hfilter : ((routeOf m s).identities.filter fun i => router.SameApplication i.2 recipient) =
        [(role, application)] := by
      have hnodup : (s.applications.filter fun i => router.SameApplication i.2 recipient).Nodup :=
        (hs.keys_nodup.of_map _).filter _
      refine List.perm_singleton.1 ((List.perm_ext_iff_of_nodup hnodup (by simp)).2 fun i => ?_)
      rw [List.mem_filter, decide_eq_true_eq, List.mem_singleton]
      constructor
      · rintro ⟨hi, hsame⟩
        exact hinj i hi _ hmem (hsame.trans hfold.symm)
      · rintro rfl
        exact ⟨hmem, hfold⟩
    rw [hfilter]

/-- The routes are those of the active manifests. -/
lemma mem_routes (hinv : PackInv lib db) {route : ActiveRoute} (hreadable : Readable db) :
    route ∈ (activeRows db).filterMap activeRoute ↔
      ∃ m s, Active lib db.toManifestDb m ∧ m.Teams lib s ∧ route = routeOf m s := by
  have hread : ∀ m, Active lib db.toManifestDb m → ∀ s, m.Teams lib s →
      activeRoute (rowOf m) = some (routeOf m s) := by
    intro m hm s hs
    obtain ⟨a, t, -, -, -, -, hnormal⟩ := normal_of_active hinv.manifests hm
    have hsome := hreadable (rowOf m) ((mem_activeRows_iff hinv).2 ⟨m, hm, rfl⟩)
    obtain ⟨route, hroute⟩ := Option.isSome_iff_exists.1 hsome
    rw [hroute, eq_routeOf hs (ProjectManifest.displayName_of_normalize hnormal).1 hroute]
  rw [List.mem_filterMap]
  constructor
  · rintro ⟨row, hrow, hroute⟩
    obtain ⟨m, hm, rfl⟩ := (mem_activeRows_iff hinv).1 hrow
    obtain ⟨a, t, -, -, -, -, hnormal⟩ := normal_of_active hinv.manifests hm
    obtain ⟨s, hs⟩ := ProjectManifest.teams_of_normalize hnormal
    rw [hread m hm s hs] at hroute
    exact ⟨m, s, hm, hs, (Option.some.inj hroute).symm⟩
  · rintro ⟨m, s, hm, hs, rfl⟩
    exact ⟨rowOf m, (mem_activeRows_iff hinv).2 ⟨m, hm, rfl⟩, hread m hm s hs⟩

lemma binding_ids {projectId roleId : String} {b : TeamsRoleIdentityBinding}
    (h : binding projectId roleId db = some b) : b.roleId = roleId := by
  obtain ⟨active, -, h⟩ := Option.bind_eq_some_iff.1 h
  obtain ⟨snapshot, -, h⟩ := Option.bind_eq_some_iff.1 h
  obtain ⟨row, -, h⟩ := Option.bind_eq_some_iff.1 h
  obtain ⟨_, -, h⟩ := Option.bind_eq_some_iff.1 h
  unfold roleIdentity at h
  iterate 14 obtain ⟨_, -, h⟩ := Option.bind_eq_some_iff.1 h
  obtain rfl := Option.some.inj h
  rfl

lemma routeTo_ok {source roleId recipient : String} {route : ActiveRoute}
    {channelId : Option String} {d : TeamsRouteDecision}
    (h : router.routeTo source route roleId recipient channelId db = .ok d) :
    d = .routed source route.projectId route.displayName roleId route.manifestDigest := by
  simp only [routeTo, verifiedBinding, Check.bind_ok, Check.found_ok, Check.that_ok,
    Check.pure_ok] at h
  obtain ⟨_, ⟨b, hb, _, hsame, rfl⟩, rfl⟩ := h
  rw [binding_ids hb, hsame.1]

/-- **A channel is routed with authority only.** -/
theorem routeChannel_ok (hinv : PackInv router.lib db) {a : ChannelActivity}
    {d : TeamsRouteDecision} (h : router.routeChannel a db = .ok d) :
    ∃ m s role, d = .routed "channel" m.projectId m.displayName role m.digest ∧
      router.Authorised db a.senderId a.tenantId a.recipientApplicationId m s role ∧
      Claims a s := by
  simp only [routeChannel, Check.bind_ok, Check.found_ok, Check.that_ok] at h
  obtain ⟨_, -, recipient, hrecipient, routes, hroutes, h⟩ := h
  obtain ⟨hreadable, rfl⟩ := activeRoutes_ok.1 hroutes
  unfold chooseChannel at h
  split at h
  · cases h
  · next route hfilter =>
    simp only [Check.bind_ok, Check.found_ok, Check.that_ok] at h
    obtain ⟨_, hallowed, role, hrole, hrouted⟩ := h
    have hmem := hfilter ▸ List.mem_singleton_self route
    obtain ⟨hroute, hchannel⟩ := List.mem_filter.1 hmem
    obtain ⟨m, s, hm, hs, rfl⟩ := (mem_routes hinv hreadable).1 hroute
    rw [decide_eq_true_eq] at hchannel
    obtain ⟨htenant, hteam, hchannel⟩ := hchannel
    exact ⟨m, s, role, routeTo_ok hrouted, ⟨hallowed, hm, hs, htenant, recipient, hrecipient,
      (matchingRole_eq_some hs).1 hrole⟩, htenant, hteam, hchannel⟩
  · cases h

/-- What a personal message may be for. -/
lemma mem_found (hinv : PackInv router.lib db) (hreadable : Readable db) {a : PersonalActivity}
    {recipient : String} (hrecipient : TeamsProjectRouter.recipient a.recipientApplicationId =
      some recipient) {item : ActiveRoute × String} :
    item ∈ ((activeRows db).filterMap activeRoute).filterMap (router.personalMatch a recipient) ↔
      ∃ m s role, item = (routeOf m s, role) ∧
        router.Authorised db a.senderId a.tenantId a.recipientApplicationId m s role := by
  simp only [List.mem_filterMap (f := router.personalMatch a recipient), mem_routes hinv hreadable,
    personalMatch, Option.bind_eq_bind, Option.bind_eq_some_iff, Option.pure_def,
    Option.some.injEq, Option.guard_eq_some']
  constructor
  · rintro ⟨_, ⟨m, s, hm, hs, rfl⟩, _, ⟨htenant, hallowed⟩, role, hrole, rfl⟩
    exact ⟨m, s, role, rfl, hallowed, hm, hs, htenant, recipient, hrecipient,
      (matchingRole_eq_some hs).1 hrole⟩
  · rintro ⟨m, s, role, rfl, h⟩
    obtain ⟨recipient', hrecipient', hrole⟩ := h.identity
    obtain rfl := Option.some.inj (hrecipient.symm.trans hrecipient')
    exact ⟨routeOf m s, ⟨m, s, h.active, h.teams, rfl⟩, (), ⟨h.tenant, h.allowed⟩, role,
      (matchingRole_eq_some h.teams).2 hrole, rfl⟩

/-- What a choice between routes may decide. -/
lemma choose_ok {selected : Option String} {recipient : String}
    {found : List (ActiveRoute × String)} {d : TeamsRouteDecision}
    (h : router.choose selected recipient found db = .ok d) :
    (∃ item ∈ found, d = .routed "personal" item.1.projectId item.1.displayName item.2
      item.1.manifestDigest) ∨
    d = .clarificationRequired (found.map fun item => ⟨item.1.projectId, item.1.displayName⟩)
      (clarificationQuestion (found.map fun item => ⟨item.1.projectId, item.1.displayName⟩)) := by
  simp only [choose, Check.bind_ok, Check.that_ok] at h
  obtain ⟨_, -, _, -, h⟩ := h
  split at h
  · split at h
    · next route role hfilter =>
      have hmem : (route, role) ∈ found :=
        (List.mem_filter.1 (hfilter ▸ List.mem_singleton_self (route, role))).1
      exact Or.inl ⟨(route, role), hmem, routeTo_ok h⟩
    · cases h
  · split at h
    · next route role =>
      exact Or.inl ⟨(route, role), List.mem_singleton_self _, routeTo_ok h⟩
    · exact Or.inr (Except.ok.inj h).symm

lemma routePersonal_ok {a : PersonalActivity} {d : TeamsRouteDecision}
    (h : router.routePersonal a db = .ok d) : ∃ recipient,
      TeamsProjectRouter.recipient a.recipientApplicationId = some recipient ∧ Readable db ∧
      router.choose a.selectedProjectId recipient
        (((activeRows db).filterMap activeRoute).filterMap (router.personalMatch a recipient)) db =
        .ok d := by
  simp only [routePersonal, Check.bind_ok, Check.found_ok, Check.that_ok] at h
  obtain ⟨_, -, recipient, hrecipient, _, -, routes, hroutes, h⟩ := h
  obtain ⟨hreadable, rfl⟩ := activeRoutes_ok.1 hroutes
  exact ⟨recipient, hrecipient, hreadable, h⟩

/-- **A personal message is routed with authority only.** -/
theorem routePersonal_routed (hinv : PackInv router.lib db) {a : PersonalActivity}
    {source p name role digest : String}
    (h : router.routePersonal a db = .ok (.routed source p name role digest)) :
    ∃ m s, m.projectId = p ∧ m.displayName = name ∧ m.digest = digest ∧
      router.Authorised db a.senderId a.tenantId a.recipientApplicationId m s role := by
  obtain ⟨recipient, hrecipient, hreadable, hchoose⟩ := routePersonal_ok h
  obtain ⟨item, hitem, hd⟩ | hd := choose_ok hchoose
  · obtain ⟨m, s, role', rfl, hauthorised⟩ := (mem_found hinv hreadable hrecipient).1 hitem
    obtain ⟨-, rfl, rfl, rfl, rfl⟩ := TeamsRouteDecision.routed.inj hd
    exact ⟨m, s, rfl, rfl, rfl, hauthorised⟩
  · cases hd

lemma pairwise_found {a : PersonalActivity} {recipient : String} :
    (((activeRows db).filterMap activeRoute).filterMap
      (router.personalMatch a recipient)).Pairwise fun x y => x.1.projectId < y.1.projectId := by
  have hroute : ∀ {route : ActiveRoute} {item : ActiveRoute × String},
      router.personalMatch a recipient route = some item → item.1 = route := by
    intro route item h
    simp only [personalMatch, Option.bind_eq_bind, Option.bind_eq_some_iff, Option.pure_def,
      Option.some.injEq] at h
    obtain ⟨_, -, _, -, rfl⟩ := h
    rfl
  have hroutes : ((activeRows db).filterMap activeRoute).Pairwise
      fun x y => x.projectId < y.projectId := by
    refine pairwise_activeRows.filterMap _ fun x y hxy r hr r' hr' => ?_
    rw [projectId_of_activeRoute hr, projectId_of_activeRoute hr']
    exact hxy
  refine hroutes.filterMap _ fun x y hxy i hi j hj => ?_
  rw [hroute hi, hroute hj]
  exact hxy

/-- **A question lists exactly the accessible projects.** -/
theorem routePersonal_clarification (hinv : PackInv router.lib db) {a : PersonalActivity}
    {candidates : List TeamsRouteCandidate} {question : String}
    (h : router.routePersonal a db = .ok (.clarificationRequired candidates question)) :
    (candidates.map TeamsRouteCandidate.projectId).Nodup ∧
    (∀ p name, ⟨p, name⟩ ∈ candidates ↔ ∃ m s role, m.projectId = p ∧ m.displayName = name ∧
      router.Authorised db a.senderId a.tenantId a.recipientApplicationId m s role) ∧
    question = clarificationQuestion candidates := by
  obtain ⟨recipient, hrecipient, hreadable, hchoose⟩ := routePersonal_ok h
  obtain ⟨item, -, hd⟩ | hd := choose_ok hchoose
  · cases hd
  · obtain ⟨rfl, rfl⟩ := TeamsRouteDecision.clarificationRequired.inj hd
    refine ⟨?_, fun p name => ?_, rfl⟩
    · rw [List.map_map]
      exact (List.pairwise_map.2 pairwise_found).imp fun h => ne_of_lt h
    · rw [List.mem_map]
      constructor
      · rintro ⟨item, hitem, hcandidate⟩
        obtain ⟨m, s, role, rfl, hauthorised⟩ := (mem_found hinv hreadable hrecipient).1 hitem
        obtain ⟨rfl, rfl⟩ := TeamsRouteCandidate.mk.inj hcandidate
        exact ⟨m, s, role, rfl, rfl, hauthorised⟩
      · rintro ⟨m, s, role, rfl, rfl, hauthorised⟩
        exact ⟨(routeOf m s, role),
          (mem_found hinv hreadable hrecipient).2 ⟨m, s, role, rfl, hauthorised⟩, rfl⟩

end AgenticMesh.Teams.TeamsProjectRouter
