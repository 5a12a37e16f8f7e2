import AgenticMesh.Teams.RoutingAuthority

/-!
# Projects that do not interfere

Further projects that a sender may not use do not change what a message of the
sender is routed to, if the router can read their manifests.  Only a channel that
one of them claims beside another project is rejected, and it is so for every sender.
-/

namespace AgenticMesh.Teams.TeamsProjectRouter

open ProjectManifestStore (Active)
open RolePack (PackInv RolePackEvent)

variable {router : TeamsProjectRouter} {lib : TextLibrary} {db db' : RolePackDb}

/-! ## Further projects -/

/-- A project has the same rows. -/
structure SameProject (p : String) (db db' : RolePackDb) : Prop where
  active : db'.active.lookup p = db.active.lookup p
  project : db'.projects.lookup p = db.projects.lookup p
  snapshots : ∀ digest, db'.snapshots.lookup (p, digest) = db.snapshots.lookup (p, digest)
  roleBindings : ∀ role, db'.roleBindings.lookup (p, role) = db.roleBindings.lookup (p, role)

/-- The active projects are the same, but for further ones that a sender may not use. -/
structure Extends (router : TeamsProjectRouter) (senderId : String) (db db' : RolePackDb) :
    Prop where
  same : ∀ p, (db.active.lookup p).isSome → SameProject p db db'
  denied : ∀ p, db.active.lookup p = none → (db'.active.lookup p).isSome →
    ¬ router.Allowed senderId p

lemma activeRows_of_same {row : RouteRow} (h : SameProject row.projectId db db') :
    row ∈ activeRows db' ↔ row ∈ activeRows db := by
  simp only [mem_activeRows, h.active, h.project, h.snapshots]

lemma isSome_active {row : RouteRow} (h : row ∈ activeRows db) :
    (db.active.lookup row.projectId).isSome := by
  obtain ⟨a, -, -, ha, -⟩ := mem_activeRows.1 h
  rw [ha]
  rfl

lemma binding_of_same {p : String} (h : SameProject p db db') (role : String) :
    binding p role db' = binding p role db := by
  simp only [binding, h.active, h.snapshots, h.roleBindings]

lemma routeTo_of_same {source role recipient : String} {route : ActiveRoute}
    {channelId : Option String} (h : SameProject route.projectId db db') :
    router.routeTo source route role recipient channelId db' =
      router.routeTo source route role recipient channelId db := by
  simp only [routeTo, verifiedBinding, binding_of_same h]

section Extends

variable {senderId : String}

lemma Extends.mem (h : Extends router senderId db db') {row : RouteRow}
    (hrow : row ∈ activeRows db) : row ∈ activeRows db' :=
  (activeRows_of_same (h.same _ (isSome_active hrow))).2 hrow

/-- A row is an old one, or its project is denied. -/
lemma Extends.mem_cases (h : Extends router senderId db db') {row : RouteRow}
    (hrow : row ∈ activeRows db') : row ∈ activeRows db ∨
      db.active.lookup row.projectId = none ∧ ¬ router.Allowed senderId row.projectId := by
  cases hactive : db.active.lookup row.projectId with
  | none => exact Or.inr ⟨rfl, h.denied _ hactive (isSome_active hrow)⟩
  | some a =>
    refine Or.inl ((activeRows_of_same (h.same _ ?_)).1 hrow)
    rw [hactive]
    rfl

/-- The manifests of the further projects can be read. -/
def FurtherReadable (db db' : RolePackDb) : Prop :=
  ∀ row ∈ activeRows db', db.active.lookup row.projectId = none → (activeRoute row).isSome

lemma Extends.readable (h : Extends router senderId db db') (hfurther : FurtherReadable db db') :
    Readable db' ↔ Readable db := by
  constructor
  · exact fun hall row hrow => hall row (h.mem hrow)
  · intro hall row hrow
    obtain hold | ⟨hnone, -⟩ := h.mem_cases hrow
    · exact hall row hold
    · exact hfurther row hrow hnone

lemma Extends.found (h : Extends router senderId db db') {a : PersonalActivity}
    (ha : a.senderId = senderId) (recipient : String) :
    ((activeRows db').filterMap activeRoute).filterMap (router.personalMatch a recipient) =
      ((activeRows db).filterMap activeRoute).filterMap (router.personalMatch a recipient) := by
  have : Std.Antisymm fun x y : ActiveRoute × String => x.1.projectId < y.1.projectId :=
    ⟨fun x y hxy hyx => absurd hxy (lt_asymm hyx)⟩
  have : Std.Irrefl fun x y : ActiveRoute × String => x.1.projectId < y.1.projectId :=
    ⟨fun x => lt_irrefl x.1.projectId⟩
  refine pairwise_found.eq_of_mem_iff pairwise_found fun item => ?_
  simp only [List.mem_filterMap]
  constructor
  · rintro ⟨route, ⟨row, hrow, hroute⟩, hitem⟩
    refine ⟨route, ⟨row, ?_, hroute⟩, hitem⟩
    obtain hold | ⟨-, hdenied⟩ := h.mem_cases hrow
    · exact hold
    · -- a denied project does not match
      simp only [personalMatch, Option.bind_eq_bind, Option.bind_eq_some_iff,
        Option.guard_eq_some'] at hitem
      obtain ⟨_, ⟨-, hallowed⟩, -⟩ := hitem
      rw [ha, projectId_of_activeRoute hroute] at hallowed
      exact absurd hallowed hdenied
  · rintro ⟨route, ⟨row, hrow, hroute⟩, hitem⟩
    exact ⟨route, ⟨row, h.mem hrow, hroute⟩, hitem⟩

lemma choose_of_same {selected : Option String} {recipient : String}
    {found : List (ActiveRoute × String)}
    (h : ∀ item ∈ found, SameProject item.1.projectId db db') :
    router.choose selected recipient found db' = router.choose selected recipient found db := by
  unfold choose
  refine congrArg _ (funext fun _ => congrArg _ (funext fun _ => ?_))
  split
  · split
    · next route role hfilter =>
      have hmem : (route, role) ∈ found :=
        (List.mem_filter.1 (hfilter ▸ List.mem_singleton_self (route, role))).1
      exact routeTo_of_same (h _ hmem)
    · rfl
  · split
    · exact routeTo_of_same (h _ (List.mem_singleton_self _))
    · rfl

/-- **Denied projects do not change what a personal message is routed to.** -/
theorem Extends.routePersonal (h : Extends router senderId db db')
    (hfurther : FurtherReadable db db') {a : PersonalActivity} (ha : a.senderId = senderId) :
    router.routePersonal a db' = router.routePersonal a db := by
  unfold TeamsProjectRouter.routePersonal
  refine congrArg _ (funext fun _ => congrArg _ (funext fun recipient => congrArg _
    (funext fun _ => ?_)))
  by_cases hreadable : Readable db
  · rw [activeRoutes_ok.2 ⟨hreadable, rfl⟩,
      activeRoutes_ok.2 ⟨(h.readable hfurther).2 hreadable, rfl⟩]
    change router.choose _ _ _ db' = router.choose _ _ _ db
    rw [h.found ha]
    refine choose_of_same fun item hitem => h.same _ ?_
    obtain ⟨route, hroute, hmatch⟩ := List.mem_filterMap.1 hitem
    obtain ⟨row, hrow, hread⟩ := List.mem_filterMap.1 hroute
    simp only [personalMatch, Option.bind_eq_bind, Option.bind_eq_some_iff, Option.pure_def,
      Option.some.injEq] at hmatch
    obtain ⟨_, -, _, -, rfl⟩ := hmatch
    rw [projectId_of_activeRoute hread]
    exact isSome_active hrow
  · rw [activeRoutes_of_not_readable hreadable,
      activeRoutes_of_not_readable (mt (h.readable hfurther).1 hreadable)]
    rfl

/-! ## Channels -/

/-- The routes for the channel of an activity. -/
def channelRoutes (a : ChannelActivity) (db : RolePackDb) : List ActiveRoute :=
  ((activeRows db).filterMap activeRoute).filter fun route => OfChannel a route

lemma mem_channelRoutes {a : ChannelActivity} {route : ActiveRoute} :
    route ∈ channelRoutes a db ↔
      ∃ row ∈ activeRows db, activeRoute row = some route ∧ OfChannel a route := by
  simp only [channelRoutes, List.mem_filter, List.mem_filterMap, decide_eq_true_eq]
  constructor
  · rintro ⟨⟨row, hrow, hroute⟩, hchannel⟩
    exact ⟨row, hrow, hroute, hchannel⟩
  · rintro ⟨row, hrow, hroute, hchannel⟩
    exact ⟨⟨row, hrow, hroute⟩, hchannel⟩

lemma pairwise_channelRoutes {a : ChannelActivity} :
    (channelRoutes a db).Pairwise fun x y => x.projectId < y.projectId := by
  refine List.Pairwise.filter _ (pairwise_activeRows.filterMap _ fun x y hxy r hr r' hr' => ?_)
  rw [projectId_of_activeRoute hr, projectId_of_activeRoute hr']
  exact hxy

lemma Extends.channelRoutes (h : Extends router senderId db db') (a : ChannelActivity) :
    (TeamsProjectRouter.channelRoutes a db).Sublist (TeamsProjectRouter.channelRoutes a db') := by
  have : Std.Antisymm fun x y : ActiveRoute => x.projectId < y.projectId :=
    ⟨fun x y hxy hyx => absurd hxy (lt_asymm hyx)⟩
  have : Std.Irrefl fun x y : ActiveRoute => x.projectId < y.projectId :=
    ⟨fun x => lt_irrefl x.projectId⟩
  refine List.sublist_of_subperm_of_pairwise (List.subperm_of_subset ?_ fun route hroute => ?_)
    pairwise_channelRoutes pairwise_channelRoutes
  · exact pairwise_channelRoutes.imp fun hlt => ne_of_apply_ne ActiveRoute.projectId (ne_of_lt hlt)
  · obtain ⟨row, hrow, hread, hchannel⟩ := mem_channelRoutes.1 hroute
    exact mem_channelRoutes.2 ⟨row, h.mem hrow, hread, hchannel⟩

/-- Two active manifests claim the channel of an activity. -/
def Ambiguous (lib : TextLibrary) (db : RolePackDb) (a : ChannelActivity) : Prop :=
  ∃ m n s t, Active lib db.toManifestDb m ∧ Active lib db.toManifestDb n ∧
    m.projectId ≠ n.projectId ∧ m.Teams lib s ∧ n.Teams lib t ∧ Claims a s ∧ Claims a t

lemma claims_of_channelRoutes (hinv : PackInv lib db) (hreadable : Readable db)
    {a : ChannelActivity} {route : ActiveRoute} :
    route ∈ TeamsProjectRouter.channelRoutes a db ↔ ∃ m s, Active lib db.toManifestDb m ∧
      m.Teams lib s ∧ Claims a s ∧ route = routeOf m s := by
  simp only [TeamsProjectRouter.channelRoutes, List.mem_filter, decide_eq_true_eq,
    mem_routes hinv hreadable]
  constructor
  · rintro ⟨⟨m, s, hm, hs, rfl⟩, htenant, hteam, hchannel⟩
    exact ⟨m, s, hm, hs, ⟨htenant, hteam, hchannel⟩, rfl⟩
  · rintro ⟨m, s, hm, hs, hclaims, rfl⟩
    exact ⟨⟨m, s, hm, hs, rfl⟩, hclaims.tenant, hclaims.team, hclaims.channel⟩

/-- A channel has two routes exactly if two manifests claim it. -/
lemma ambiguous_iff (hinv : PackInv lib db) (hreadable : Readable db) {a : ChannelActivity} :
    Ambiguous lib db a ↔ 2 ≤ (TeamsProjectRouter.channelRoutes a db).length := by
  constructor
  · rintro ⟨m, n, s, t, hm, hn, hne, hs, ht, hclaims, hclaims'⟩
    have hmem := (claims_of_channelRoutes hinv hreadable).2 ⟨m, s, hm, hs, hclaims, rfl⟩
    have hmem' := (claims_of_channelRoutes hinv hreadable).2 ⟨n, t, hn, ht, hclaims', rfl⟩
    by_contra hlength
    have hone : (TeamsProjectRouter.channelRoutes a db).length ≤ 1 := by omega
    cases hroutes : TeamsProjectRouter.channelRoutes a db with
    | nil => exact absurd (hroutes ▸ hmem) List.not_mem_nil
    | cons route rest =>
      cases rest with
      | nil =>
        rw [hroutes, List.mem_singleton] at hmem hmem'
        exact hne (congrArg ActiveRoute.projectId (hmem.trans hmem'.symm))
      | cons route' rest =>
        rw [hroutes, List.length_cons, List.length_cons] at hone
        omega
  · intro hlength
    match hroutes : TeamsProjectRouter.channelRoutes a db with
    | [] => simp [hroutes] at hlength
    | [route] => simp [hroutes] at hlength
    | route :: route' :: rest =>
      have hpairwise := hroutes ▸ @pairwise_channelRoutes db a
      have hlt := (List.pairwise_cons.1 hpairwise).1 route' List.mem_cons_self
      obtain ⟨m, s, hm, hs, hclaims, rfl⟩ := (claims_of_channelRoutes hinv hreadable).1
        (hroutes ▸ List.mem_cons_self)
      obtain ⟨n, t, hn, ht, hclaims', rfl⟩ := (claims_of_channelRoutes hinv hreadable).1
        (show route' ∈ _ by rw [hroutes]; exact List.mem_cons_of_mem _ List.mem_cons_self)
      exact ⟨m, n, s, t, hm, hn, ne_of_lt hlt, hs, ht, hclaims, hclaims'⟩

/-- **Denied projects do not change what a message of a channel is routed to**, unless they make
the channel ambiguous. -/
theorem Extends.routeChannel (h : Extends router senderId db db') (hinv : PackInv router.lib db')
    (hfurther : FurtherReadable db db') {a : ChannelActivity} (ha : a.senderId = senderId)
    (hclear : ¬ Ambiguous router.lib db' a) :
    router.routeChannel a db' = router.routeChannel a db := by
  unfold TeamsProjectRouter.routeChannel
  refine congrArg _ (funext fun _ => congrArg _ (funext fun recipient => ?_))
  by_cases hreadable : Readable db
  · have hreadable' := (h.readable hfurther).2 hreadable
    rw [activeRoutes_ok.2 ⟨hreadable, rfl⟩, activeRoutes_ok.2 ⟨hreadable', rfl⟩]
    have hsub := h.channelRoutes a
    have hlength : (TeamsProjectRouter.channelRoutes a db').length ≤ 1 := by
      rw [ambiguous_iff hinv hreadable'] at hclear
      omega
    change router.chooseChannel a recipient (TeamsProjectRouter.channelRoutes a db') db' =
      router.chooseChannel a recipient (TeamsProjectRouter.channelRoutes a db) db
    cases hroutes : TeamsProjectRouter.channelRoutes a db' with
    | nil =>
      rw [hroutes, List.sublist_nil] at hsub
      rw [hsub]
      rfl
    | cons route rest =>
      have hrest : rest = [] := by
        rw [hroutes, List.length_cons] at hlength
        exact List.length_eq_zero_iff.1 (by omega)
      rw [hroutes, hrest] at hsub
      rw [hrest]
      have hmem : route ∈ TeamsProjectRouter.channelRoutes a db' := by
        rw [hroutes]
        exact List.mem_cons_self
      obtain ⟨row, hrow, hread, hchannel⟩ := mem_channelRoutes.1 hmem
      have hproject := projectId_of_activeRoute hread
      cases hold : TeamsProjectRouter.channelRoutes a db with
      | nil =>
        -- the only route is a further one, and denied
        obtain hrow | ⟨-, hdenied⟩ := h.mem_cases hrow
        · have hmem := mem_channelRoutes.2 ⟨row, hrow, hread, hchannel⟩
          exact absurd (hold ▸ hmem) List.not_mem_nil
        · have hcheck : Check.that (router.Allowed a.senderId route.projectId)
              TeamsRouteRejection.unknownRoute = .error .unknownRoute := by
            rw [ha, hproject]
            exact if_neg hdenied
          simp only [chooseChannel, hcheck]
          rfl
      | cons route' rest' =>
        rw [hold] at hsub
        obtain ⟨rfl, rfl⟩ := List.cons.inj (hsub.eq_of_length_le (by simp))
        obtain ⟨row', hrow', hread', -⟩ := mem_channelRoutes.1
          (hold ▸ List.mem_singleton_self route')
        have hsame : SameProject route'.projectId db db' := by
          rw [projectId_of_activeRoute hread']
          exact h.same _ (isSome_active hrow')
        unfold chooseChannel
        simp only [routeTo_of_same hsame]
  · rw [activeRoutes_of_not_readable hreadable,
      activeRoutes_of_not_readable (mt (h.readable hfurther).1 hreadable)]
    rfl

end Extends

/-- A valid message of a channel that two manifests claim is rejected for every sender. -/
lemma routeChannel_ambiguous (hinv : PackInv router.lib db) (hreadable : Readable db)
    {a : ChannelActivity} (hids : ∀ value ∈ [a.senderId, a.tenantId, a.teamId, a.channelId],
      isExternalId value = true) (hrecipient : (recipient a.recipientApplicationId).isSome)
    (h : Ambiguous router.lib db a) : router.routeChannel a db = .error .ambiguousChannel := by
  obtain ⟨id, hid⟩ := Option.isSome_iff_exists.1 hrecipient
  have hcheck : Check.that (∀ value ∈ [a.senderId, a.tenantId, a.teamId, a.channelId],
      isExternalId value = true) TeamsRouteRejection.invalidActivity = .ok () :=
      Check.that_ok.2 hids
  have hroutes := activeRoutes_ok.2 ⟨hreadable, rfl⟩
  have hlength := (ambiguous_iff hinv hreadable).1 h
  unfold TeamsProjectRouter.routeChannel
  rw [hcheck, hid, hroutes]
  change router.chooseChannel a id (TeamsProjectRouter.channelRoutes a db) db = _
  match hfound : TeamsProjectRouter.channelRoutes a db with
  | [] => simp [hfound] at hlength
  | [route] => simp [hfound] at hlength
  | route :: route' :: rest => rfl

/-- A channel that at most one manifest claims is not reported as ambiguous. -/
lemma routeChannel_ne_ambiguous (hinv : PackInv router.lib db) {a : ChannelActivity}
    (h : ¬ Ambiguous router.lib db a) : router.routeChannel a db ≠ .error .ambiguousChannel := by
  have hraises : Check.Raises (· ≠ .ambiguousChannel) (router.routeChannel a db) := by
    refine (Check.raises_that (by decide)).bind fun _ =>
      (Check.raises_found (by decide)).bind fun id => ?_
    by_cases hreadable : Readable db
    · rw [activeRoutes_ok.2 ⟨hreadable, rfl⟩]
      rw [ambiguous_iff hinv hreadable] at h
      change Check.Raises _ (router.chooseChannel a id (TeamsProjectRouter.channelRoutes a db) db)
      match hfound : TeamsProjectRouter.channelRoutes a db with
      | [] => exact Check.raises_error (by decide)
      | [route] =>
        refine (Check.raises_that (by decide)).bind fun _ =>
          (Check.raises_found (by decide)).bind fun role => Check.Raises.bind ?_ fun _ =>
            Check.raises_ok
        exact (Check.raises_found (by decide)).bind fun _ =>
          (Check.raises_that (by decide)).bind fun _ => Check.raises_ok
      | route :: route' :: rest => simp [hfound] at h
    · rw [activeRoutes_of_not_readable hreadable]
      exact Check.raises_error (by decide)
  exact fun heq => hraises _ heq rfl

/-! ## Routing in every run -/

lemma readable_of_routable (hinv : PackInv lib db)
    (h : ∀ m, Active lib db.toManifestDb m → Routable lib m) : Readable db := by
  intro row hrow
  obtain ⟨m, hm, rfl⟩ := (mem_activeRows_iff hinv).1 hrow
  obtain ⟨a, s, -, -, -, -, hnormal⟩ := normal_of_active hinv.manifests hm
  exact isSome_of_routable hnormal (h m hm)

lemma furtherReadable_of_routable (hinv : PackInv lib db')
    (h : ∀ m, Active lib db'.toManifestDb m → db.active.lookup m.projectId = none →
      Routable lib m) : FurtherReadable db db' := by
  intro row hrow hnone
  obtain ⟨m, hm, rfl⟩ := (mem_activeRows_iff hinv).1 hrow
  obtain ⟨a, s, -, -, -, -, hnormal⟩ := normal_of_active hinv.manifests hm
  exact isSome_of_routable hnormal (h m hm hnone)

/-- The state after a run. -/
abbrev after (lib : TextLibrary) (es : List RolePackEvent) : RolePackDb :=
  run (RolePack.step lib) {} es

lemma packInv_after (es : List RolePackEvent) : PackInv lib (after lib es) :=
  invariant_run (I := PackInv lib) (fun _ e h => h.step e) PackInv.empty es

/-- What a router decides, it has the authority for. -/
structure Authority (router : TeamsProjectRouter) (db : RolePackDb) : Prop where
  channel : ∀ a d, router.routeChannel a db = .ok d → ∃ m s role,
    d = .routed "channel" m.projectId m.displayName role m.digest ∧
      router.Authorised db a.senderId a.tenantId a.recipientApplicationId m s role ∧ Claims a s
  personal : ∀ a source p name role digest,
    router.routePersonal a db = .ok (.routed source p name role digest) →
    ∃ m s, m.projectId = p ∧ m.displayName = name ∧ m.digest = digest ∧
      router.Authorised db a.senderId a.tenantId a.recipientApplicationId m s role
  /-- A question lists exactly the projects that the sender may use for the recipient. -/
  clarification : ∀ a candidates question,
    router.routePersonal a db = .ok (.clarificationRequired candidates question) →
    (candidates.map TeamsRouteCandidate.projectId).Nodup ∧
    (∀ p name, ⟨p, name⟩ ∈ candidates ↔ ∃ m s role, m.projectId = p ∧ m.displayName = name ∧
      router.Authorised db a.senderId a.tenantId a.recipientApplicationId m s role) ∧
    question = clarificationQuestion candidates
  /-- A channel that two active manifests claim is ambiguous for every sender. -/
  ambiguous : (∀ m, Active router.lib db.toManifestDb m → Routable router.lib m) →
    ∀ a : ChannelActivity, (∀ value ∈ [a.senderId, a.tenantId, a.teamId, a.channelId],
      isExternalId value = true) → (recipient a.recipientApplicationId).isSome →
    Ambiguous router.lib db a → router.routeChannel a db = .error .ambiguousChannel

/-- Further projects that a sender may not use, and whose manifests can be read, do not change the
outcome for the sender, but for a channel that they make ambiguous. -/
def NonInterfering (router : TeamsProjectRouter) (db db' : RolePackDb) : Prop :=
  ∀ senderId, Extends router senderId db db' →
    (∀ m, Active router.lib db'.toManifestDb m → db.active.lookup m.projectId = none →
      Routable router.lib m) →
    (∀ a : PersonalActivity, a.senderId = senderId →
      router.routePersonal a db' = router.routePersonal a db) ∧
    ∀ a : ChannelActivity, a.senderId = senderId → ¬ Ambiguous router.lib db' a →
      router.routeChannel a db' = router.routeChannel a db

/-- **Teams routing.**  In every run what is routed is authorised, and projects of others do not
interfere. -/
theorem teams_routing (router : TeamsProjectRouter) (es es' : List RolePackEvent) :
    Authority router (after router.lib es) ∧
      NonInterfering router (after router.lib es) (after router.lib es') := by
  have hinv : PackInv router.lib (after router.lib es) := packInv_after es
  have hinv' : PackInv router.lib (after router.lib es') := packInv_after es'
  constructor
  · constructor
    · exact fun a d h => routeChannel_ok hinv h
    · exact fun a source p name role digest h => routePersonal_routed hinv h
    · exact fun a candidates question h => routePersonal_clarification hinv h
    · exact fun h a hids hrecipient hambiguous =>
        routeChannel_ambiguous hinv (readable_of_routable hinv h) hids hrecipient hambiguous
  · intro senderId hextends hroutable
    have hfurther := furtherReadable_of_routable hinv' hroutable
    exact ⟨fun a ha => hextends.routePersonal hfurther ha,
      fun a ha hclear => hextends.routeChannel hinv' hfurther ha hclear⟩

/-! ## Further events -/

/-- The project that an event is about. -/
def target : RolePackEvent → String
  | .manifest (.register p) => p.projectId
  | .manifest (.activate r) => r.manifest.projectId
  | .activate r => r.manifest.projectId

lemma SameProject.trans {p : String} {db₁ db₂ db₃ : RolePackDb} (h : SameProject p db₁ db₂)
    (h' : SameProject p db₂ db₃) : SameProject p db₁ db₃ :=
  ⟨h'.active.trans h.active, h'.project.trans h.project,
    fun d => (h'.snapshots d).trans (h.snapshots d),
    fun r => (h'.roleBindings r).trans (h.roleBindings r)⟩

lemma SameProject.refl (p : String) (db : RolePackDb) : SameProject p db db :=
  ⟨rfl, rfl, fun _ => rfl, fun _ => rfl⟩

/-- An event leaves the other projects as they are. -/
lemma sameProject_step {p : String} {e : RolePackEvent} (hp : target e ≠ p) :
    SameProject p db (RolePack.step lib db e) := by
  cases e with
  | manifest e =>
    cases e with
    | register q =>
      have hframe : (ProjectManifestStore.registerProject q db.toManifestDb).active = db.active ∧
          (ProjectManifestStore.registerProject q db.toManifestDb).snapshots = db.snapshots := by
        unfold ProjectManifestStore.registerProject
        split <;> exact ⟨rfl, rfl⟩
      have hlookup : (ProjectManifestStore.registerProject q db.toManifestDb).projects.lookup p =
          db.projects.lookup p := by
        unfold ProjectManifestStore.registerProject
        split
        · next projects hinsert =>
          rw [Table.lookup_of_insert hinsert, if_neg]
          exact hp
        · rfl
      exact ⟨congrArg (fun t => t.lookup p) hframe.1, hlookup,
        fun d => congrArg (fun t => t.lookup (p, d)) hframe.2, fun _ => rfl⟩
    | activate r =>
      cases hr : ProjectManifestStore.activate lib r db.toManifestDb with
      | error e =>
        have hstep : ProjectManifestStore.step lib db.toManifestDb (.activate r) =
            db.toManifestDb := Tx.commit_of_error hr
        simp only [RolePack.step, hstep]
        exact SameProject.refl p db
      | ok out =>
        obtain ⟨a, m⟩ := out
        have hstep : ProjectManifestStore.step lib db.toManifestDb (.activate r) = m :=
          Tx.commit_of_ok hr
        have hdone := ProjectManifestStore.activate_ensures.1 a m hr
        have hother := hdone.others p (Ne.symm hp)
        simp only [RolePack.step, hstep]
        exact ⟨hother.1, by rw [hdone.projects], hother.2, fun _ => rfl⟩
  | activate r =>
    cases hr : RolePack.activate r db with
    | error e =>
      rw [show RolePack.step lib db (.activate r) = db from Tx.commit_of_error hr]
      exact SameProject.refl p db
    | ok out =>
      obtain ⟨a, db'⟩ := out
      rw [show RolePack.step lib db (.activate r) = db' from Tx.commit_of_ok hr]
      have hmanifests := RolePack.manifests_of_activate hr
      have hpack := RolePack.samePack_of_activate hr (Ne.symm hp)
      refine ⟨by rw [hmanifests], by rw [hmanifests], fun _ => by rw [hmanifests], fun role => ?_⟩
      ext b
      rw [Table.lookup_eq_some, Table.lookup_eq_some]
      refine and_congr_left fun hkey => hpack.roleBindings b ?_
      exact (Prod.mk.inj hkey).1

lemma sameProject_run {p : String} {es : List RolePackEvent} (h : ∀ e ∈ es, target e ≠ p) :
    SameProject p db (run (RolePack.step lib) db es) := by
  induction es generalizing db with
  | nil => exact SameProject.refl p db
  | cons e es ih =>
    obtain ⟨he, hrest⟩ := List.forall_mem_cons.1 h
    rw [run_cons]
    exact (sameProject_step he).trans (ih hrest)

/-- A run goes on with events of other projects, which a sender may not use. -/
lemma extends_run {senderId : String} {es fs : List RolePackEvent}
    (h : ∀ e ∈ fs, (after router.lib es).active.lookup (target e) = none ∧
      ¬ router.Allowed senderId (target e)) :
    Extends router senderId (after router.lib es) (after router.lib (es ++ fs)) := by
  rw [after, after, run_append]
  refine ⟨fun p hp => sameProject_run fun e he htarget => ?_, fun p hp hsome => ?_⟩
  · rw [← htarget, (h e he).1] at hp
    cases hp
  · by_contra hallowed
    have hsame : SameProject p (run (RolePack.step router.lib) {} es)
        (run (RolePack.step router.lib) (run (RolePack.step router.lib) {} es) fs) :=
      sameProject_run fun e he htarget => (h e he).2 (htarget ▸ hallowed)
    rw [hsame.active, hp] at hsome
    cases hsome

/-! ## A shared channel -/

/-- A section is determined by what it holds. -/
lemma teams_unique {m : ProjectManifest} {s t : TeamsSection} (hs : m.Teams lib s)
    (ht : m.Teams lib t) : s = t := by
  obtain ⟨records, hrecords, hall⟩ := hs.applications
  obtain ⟨records', hrecords', hall'⟩ := ht.applications
  have htenant : s.tenantId = t.tenantId :=
    Json.str.inj (Option.some.inj (hs.tenant.symm.trans ht.tenant))
  have hteam : s.teamId = t.teamId := Json.str.inj (Option.some.inj (hs.team.symm.trans ht.team))
  have hchannels : s.channels = t.channels := by
    refine List.map_injective_iff.2 (fun c d hcd => ?_)
      (Json.obj.inj (Option.some.inj (hs.channels.symm.trans ht.channels)))
    obtain ⟨hname, hvalue⟩ := Prod.mk.inj hcd
    exact Prod.ext hname (Json.str.inj hvalue)
  have hsame : records = records' :=
    Json.obj.inj (Option.some.inj (hrecords.symm.trans hrecords'))
  subst hsame
  have hunique : Relator.RightUnique fun (r : String × Json) (a : String × String) =>
      r.1 = a.1 ∧ r.2.get? "application_id" = some (.str a.2) := fun r a b ha hb =>
    Prod.ext (ha.1.symm.trans hb.1) (Json.str.inj (Option.some.inj (ha.2.symm.trans hb.2)))
  have happlications : s.applications = t.applications := hunique.forall₂ hall hall'
  cases s
  cases t
  simp only [TeamsSection.mk.injEq]
  exact ⟨htenant, hteam, hchannels, happlications⟩

lemma routable_of_section {m : ProjectManifest} {s : TeamsSection} (hs : m.Teams lib s)
    (hids : ∀ id ∈ s.tenantId :: s.teamId :: s.channels.map Prod.snd ++
      s.applications.map Prod.snd, '!' ∉ id.toList)
    (hline : '\r' ∉ m.displayName.toList ∧ '\n' ∉ m.displayName.toList) : Routable lib m :=
  ⟨fun _ ht => teams_unique hs ht ▸ hids, hline⟩

open ProjectManifestStore (asciiLibrary sampleProject projectCredential projectResources activation)

/-- The Teams section of a project with the channel of another one. -/
def guestTeams : Json := .obj [
  ("authorization_ref", .str "grant://teams"), ("channels", .obj [("pm", .str "alpha")]),
  ("credential", .str "connector"), ("owner_project_id", .str "alpha"),
  ("role_identities", .obj [("pm", .obj [("application_id", .str "beta"),
    ("credential", .str "bot"), ("display_name", .str "pm")])]),
  ("team_id", .str "team"), ("tenant_id", .str "tenant")]

def guestSnapshot : Json :=
  (ProjectManifestStore.exampleSnapshot "beta"
    [projectCredential "bot", projectCredential "connector"] []).withField "teams" guestTeams

def guestResources : List ResourceBinding :=
  (projectResources "beta").take 4 ++ [
    ⟨"teams-bot-identity", "tenant|beta", "alpha", some "grant://teams"⟩,
    ⟨"teams-channel", "tenant|team|alpha", "alpha", some "grant://teams"⟩]

def guestProject : ProjectManifest where
  projectId := "beta"
  displayName := "beta"
  digest := guestSnapshot.digest
  snapshot := guestSnapshot
  resources := guestResources

/-- The owner of the channel grants its use. -/
def guestAuthorizer : ResourceAuthorizer := staticResourceAuthorizer [
  ⟨"beta", "alpha", "teams-bot-identity", "tenant|beta", "grant://teams"⟩,
  ⟨"beta", "alpha", "teams-channel", "tenant|team|alpha", "grant://teams"⟩]

/-- The project that owns the channel. -/
def hostRun : List RolePackEvent :=
  RolePack.projectEvents (sampleProject "alpha") denyForeignResources

/-- The project that is a guest of the channel. -/
def guestRun : List RolePackEvent := RolePack.projectEvents guestProject guestAuthorizer

def teamsSection (application : String) : TeamsSection :=
  ⟨"tenant", "team", [("pm", "alpha")], [("pm", application)]⟩

lemma teams_sampleProject : (sampleProject "alpha").Teams asciiLibrary (teamsSection "alpha") := by
  refine ⟨rfl, rfl, rfl, ⟨_, rfl, .cons ⟨rfl, rfl⟩ .nil⟩, ?_, ?_, by simp [teamsSection],
    by simp [teamsSection], by simp [teamsSection]⟩
  · decide
  · decide

lemma teams_guestProject : guestProject.Teams asciiLibrary (teamsSection "beta") := by
  refine ⟨rfl, rfl, rfl, ⟨_, rfl, .cons ⟨rfl, rfl⟩ .nil⟩, ?_, ?_, by simp [teamsSection],
    by simp [teamsSection], by simp [teamsSection]⟩
  · decide
  · decide

lemma normalize_guestProject :
    ProjectManifest.normalizeProjectManifest asciiLibrary guestProject.snapshot =
      .ok guestProject := by
  have h : ProjectManifest.normalized asciiLibrary guestSnapshot =
      .ok ⟨"beta", "beta", guestSnapshot, guestResources⟩ := by decide +kernel
  unfold ProjectManifest.normalizeProjectManifest
  rw [show guestProject.snapshot = guestSnapshot from rfl, h]
  rfl

/-- The roles of the active manifests are bound. -/
def Bound (lib : TextLibrary) (db : RolePackDb) : Prop :=
  ∀ m, Active lib db.toManifestDb m → ∀ role ∈ RolePack.manifestRoles m,
    ∃ b ∈ db.roleBindings, b.key = (m.projectId, role) ∧ b.manifestDigest = m.digest

/-- The host is active with its role, and there is nothing about the guest. -/
lemma hostRun_active : (∀ n, Active asciiLibrary (after asciiLibrary hostRun).toManifestDb n ↔
      n = sampleProject "alpha") ∧ Bound asciiLibrary (after asciiLibrary hostRun) ∧
    RolePack.Fresh (after asciiLibrary hostRun) "beta" ∧
    ∀ c ∈ (after asciiLibrary hostRun).claims, c.resource ∈ projectResources "alpha" := by
  obtain ⟨a, db', b, hok, hroles, hrun, hproject, hrole, hmanifest, -, hdone⟩ :=
    @RolePack.run_projectEvents asciiLibrary {} (sampleProject "alpha") _ "alpha"
      (RolePack.Fresh.empty _)
      (ProjectManifestStore.normalize_sampleProject (by decide))
      (RolePack.declared_sampleProject "alpha")
      (Check.forM_ok.2 fun c hc => absurd (Table.mem_select.1 hc).1 (Table.notMem_empty c))
      (by decide +kernel) (by decide) ⟨'a', by decide, by decide⟩
  have hactive : ∀ n, Active asciiLibrary db'.toManifestDb n ↔ n = sampleProject "alpha" := by
    intro n
    rw [hdone.active n, ProjectManifestStore.active_registerProject]
    exact or_iff_left fun h => ProjectManifestStore.not_active_empty h.2
  have hclaims : ∀ c ∈ db'.claims, c.projectId = "alpha" ∧
      c.resource ∈ projectResources "alpha" := by
    intro c hc
    obtain hc | ⟨s, hs, rfl⟩ := hdone.claims c hc
    · exact absurd hc (Table.notMem_empty c)
    · exact ⟨rfl, hs⟩
  have hother : ∀ e ∈ hostRun, target e ≠ "beta" := by decide
  have hsame := @sameProject_run asciiLibrary {} _ _ hother
  have hpack := RolePack.samePack_of_activate hok (p := "beta") (by decide)
  change (∀ n, Active asciiLibrary (run (RolePack.step asciiLibrary) {} hostRun).toManifestDb n ↔ _)
    ∧ _
  rw [hostRun] at hsame
  rw [after, hostRun, hrun] at *
  refine ⟨hactive, fun m hm role hmem => ?_, ⟨hsame.project, hsame.active, hsame.snapshots,
    fun c hc heq => ?_, fun row hrow heq => ?_, fun q hq heq => ?_⟩, fun c hc => (hclaims c hc).2⟩
  · obtain rfl := (hactive m).1 hm
    have hpm : role = "pm" := by
      have hroles : RolePack.manifestRoles (sampleProject "alpha") = ["pm"] := by decide
      rw [hroles] at hmem
      exact List.mem_singleton.1 hmem
    have hbound := ((RolePack.packed_of_activate hok).bindings b).1
      (by rw [hroles]; exact List.mem_singleton_self b)
    exact ⟨b, hbound.1, by rw [RolePackBinding.key, hproject, hrole, hpm], hmanifest⟩
  · exact absurd ((hclaims c hc).1.symm.trans heq) (by decide)
  · exact absurd ((hpack.roles row heq).1 hrow) (Table.notMem_empty row)
  · exact absurd ((hpack.queues q heq).1 hq) (Table.notMem_empty q)

/-- The owner of the channel agrees to all resources that the guest shares. -/
lemma collisions_guestProject {d : ManifestDb}
    (h : ∀ c ∈ d.claims, c.resource ∈ projectResources "alpha") :
    ProjectManifestStore.authorizeActiveCollisions guestAuthorizer guestProject d = .ok () := by
  have hagree : ∀ s ∈ projectResources "alpha", ∀ r ∈ (guestResources.find? fun r =>
      ProjectManifest.identityOf r = ProjectManifest.identityOf s),
      r.ownerProjectId = s.ownerProjectId ∧
        guestAuthorizer "beta" s.ownerProjectId r = true := by decide
  refine Check.forM_ok.2 fun c hc => ?_
  have hc := hagree c.resource (h c (Table.mem_select.1 hc).1)
  unfold ProjectManifestStore.authorizeClaim
  split
  · rfl
  · next r hr =>
    obtain ⟨howner, hallowed⟩ := hc r hr
    simp only [Check.bind_ok, Check.that_ok]
    exact ⟨(), howner, Or.inr hallowed⟩

/-- The host and the guest are active with their roles. -/
lemma guestRun_active : (∀ n,
      Active asciiLibrary (after asciiLibrary (hostRun ++ guestRun)).toManifestDb n ↔
        n = sampleProject "alpha" ∨ n = guestProject) ∧
    Bound asciiLibrary (after asciiLibrary (hostRun ++ guestRun)) := by
  obtain ⟨hhost, hbound, hfresh, hclaims⟩ := hostRun_active
  obtain ⟨a, db', b, hok, hroles, hrun, hproject, hrole, hmanifest, -, hdone⟩ :=
    @RolePack.run_projectEvents asciiLibrary _ guestProject guestAuthorizer "beta" hfresh
      normalize_guestProject
      (by decide) (collisions_guestProject hclaims) (by decide) (by decide)
      ⟨'b', by decide, by decide⟩
  have hother : ∀ e ∈ guestRun, target e ≠ "alpha" := by decide
  have hsame := @sameProject_run asciiLibrary (after asciiLibrary hostRun) _ _ hother
  have hafter : after asciiLibrary (hostRun ++ guestRun) = db' := (run_append ..).trans hrun
  have hdb' : run (RolePack.step asciiLibrary) (after asciiLibrary hostRun) guestRun = db' := hrun
  rw [hdb'] at hsame
  rw [hafter]
  have hactive : ∀ n, Active asciiLibrary db'.toManifestDb n ↔
      n = sampleProject "alpha" ∨ n = guestProject := by
    intro n
    rw [hdone.active n, ProjectManifestStore.active_registerProject, hhost n]
    constructor
    · rintro (rfl | ⟨-, rfl⟩)
      · exact Or.inr rfl
      · exact Or.inl rfl
    · rintro (rfl | rfl)
      · exact Or.inr ⟨by decide, rfl⟩
      · exact Or.inl rfl
  refine ⟨hactive, fun m hm role hmem => ?_⟩
  obtain rfl | rfl := (hactive m).1 hm
  · obtain ⟨b, hb, hkey, hdigest⟩ := hbound _ ((hhost _).2 rfl) role hmem
    refine ⟨b, ?_, hkey, hdigest⟩
    have hlookup := (hsame.roleBindings role).trans (hkey ▸ Table.lookup_mem hb)
    exact (Table.lookup_eq_some.1 hlookup).1
  · have hpm : role = "pm" := by
      have hroles : RolePack.manifestRoles guestProject = ["pm"] := by decide
      rw [hroles] at hmem
      exact List.mem_singleton.1 hmem
    have hbound := ((RolePack.packed_of_activate hok).bindings b).1
      (by rw [hroles]; exact List.mem_singleton_self b)
    exact ⟨b, hbound.1, by rw [RolePackBinding.key, hproject, hrole, hpm], hmanifest⟩

/-- The activity of a sender who may use no project. -/
def strangerActivity : ChannelActivity := ⟨"mallory", "tenant", "team", "alpha", "alpha"⟩

lemma strangerActivity_valid : ∀ value ∈ [strangerActivity.senderId, strangerActivity.tenantId,
    strangerActivity.teamId, strangerActivity.channelId], isExternalId value = true := by
  decide

/-- The guest makes the channel of the host ambiguous. -/
lemma guestRun_ambiguous : Readable (after asciiLibrary (hostRun ++ guestRun)) ∧
    Ambiguous asciiLibrary (after asciiLibrary (hostRun ++ guestRun)) strangerActivity := by
  obtain ⟨hguest, -⟩ := guestRun_active
  have hinv : PackInv asciiLibrary (after asciiLibrary (hostRun ++ guestRun)) := packInv_after _
  have hroutable : Routable asciiLibrary (sampleProject "alpha") :=
    routable_of_section teams_sampleProject (by decide) (by decide)
  have hroutable' : Routable asciiLibrary guestProject :=
    routable_of_section teams_guestProject (by decide) (by decide)
  refine ⟨readable_of_routable hinv fun m hm => ?_, sampleProject "alpha", guestProject,
    teamsSection "alpha", teamsSection "beta", (hguest _).2 (Or.inl rfl), (hguest _).2 (Or.inr rfl),
    by decide, teams_sampleProject, teams_guestProject, ⟨rfl, rfl, by decide⟩,
    ⟨rfl, rfl, by decide⟩⟩
  obtain rfl | rfl := (hguest m).1 hm
  · exact hroutable
  · exact hroutable'

/-- A sender who may use neither project is told whether the channel has a guest. -/
theorem not_nonInterfering : ¬ ∀ (router : TeamsProjectRouter) (senderId : String)
    (es es' : List RolePackEvent), Bound router.lib (after router.lib es) →
    Bound router.lib (after router.lib es') →
    Extends router senderId (after router.lib es) (after router.lib es') →
    ∀ a : ChannelActivity, a.senderId = senderId →
      router.routeChannel a (after router.lib es') =
        router.routeChannel a (after router.lib es) := by
  intro h
  obtain ⟨hhost, hbound, hfresh, -⟩ := hostRun_active
  obtain ⟨-, hbound'⟩ := guestRun_active
  obtain ⟨hreadable', hambiguous⟩ := guestRun_ambiguous
  -- the router stays a variable: only its library and what it denies matter
  obtain ⟨router, hlib, hdenied⟩ : ∃ router : TeamsProjectRouter, router.lib = asciiLibrary ∧
      ∀ s p, ¬ router.Allowed s p :=
    ⟨⟨asciiLibrary, fun _ _ => some false⟩, rfl,
    fun _ _ h => absurd (Option.some.inj h) (by decide)⟩
  have hextends : Extends router "mallory" (after router.lib hostRun)
      (after router.lib (hostRun ++ guestRun)) := by
    refine extends_run fun e he => ⟨?_, hdenied _ _⟩
    have htarget : target e = "beta" := by
      revert e
      decide
    rw [htarget, hlib]
    exact hfresh.active
  rw [← hlib] at hhost hbound hbound' hreadable' hambiguous
  have hsame := h router "mallory" hostRun (hostRun ++ guestRun) hbound hbound' hextends
    strangerActivity rfl
  rw [routeChannel_ambiguous (packInv_after _) hreadable' strangerActivity_valid
    (by decide) hambiguous] at hsame
  refine routeChannel_ne_ambiguous (packInv_after hostRun) ?_ hsame.symm
  -- only the host is active
  rintro ⟨m, n, s, t, hm, hn, hne, -⟩
  rw [(hhost m).1 hm, (hhost n).1 hn] at hne
  exact hne rfl

end AgenticMesh.Teams.TeamsProjectRouter
