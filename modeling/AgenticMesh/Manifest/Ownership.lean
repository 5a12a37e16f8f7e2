import AgenticMesh.Manifest.Store
import Mathlib

/-!
# Owners of shared resources

What is active is one manifest for each project: an activation replaces the
manifest of its project and no other one.  Two active manifests never name
different owners for one resource, and every resource that a manifest uses but
its project does not own was allowed when the manifest became active.  The owner
of a system-scoped credential is written `system`, like a project of that name:
a project called `system` owns them all, and its activation asks nobody.
-/

namespace AgenticMesh

namespace ProjectManifestStore

variable {lib : TextLibrary} {db db' : ManifestDb}

/-- The manifest is the active one of its project. -/
def Active (lib : TextLibrary) (db : ManifestDb) (manifest : ProjectManifest) : Prop :=
  getActiveManifest lib manifest.projectId db = .ok (some manifest)

/-- The snapshot of the active digest is the one that was normalized to the manifest. -/
lemma active_iff {m : ProjectManifest} : Active lib db m ↔
    ∃ a s, db.active.lookup m.projectId = some a ∧ a.manifestDigest = m.digest ∧
      db.snapshots.lookup (m.projectId, m.digest) = some s ∧
      ProjectManifest.normalizeProjectManifest lib s.snapshot = .ok m := by
  unfold Active getActiveManifest
  cases ha : db.active.lookup m.projectId with
  | none => simp
  | some a =>
    simp only [Option.some.injEq, exists_and_left, ↓existsAndEq, true_and]
    cases hs : db.snapshots.lookup (m.projectId, a.manifestDigest) with
    | none =>
      simp only [Except.ok.injEq, reduceCtorEq, false_iff, not_and, not_exists]
      rintro hdigest s hs'
      rw [← hdigest, hs] at hs'
      simp at hs'
    | some s =>
      simp only [Check.bind_ok, Check.that_ok, Check.pure_ok, Option.some.injEq]
      constructor
      · rintro ⟨n, hn, -, ⟨-, hdigest⟩, rfl⟩
        exact ⟨hdigest.symm, s, by rw [hdigest, hs], hn⟩
      · rintro ⟨hdigest, s', hs', hn⟩
        rw [← hdigest, hs] at hs'
        obtain rfl := Option.some.inj hs'
        exact ⟨m, hn, (), ⟨rfl, hdigest.symm⟩, rfl⟩

/-! ## Registering a snapshot -/

lemma insertClaims_ok {m : ProjectManifest} {resources : List ResourceBinding}
    (h : insertClaims m resources db = some db') :
    db'.projects = db.projects ∧ db'.snapshots = db.snapshots ∧ db'.active = db.active ∧
      ∀ c, c ∈ db'.claims ↔
        c ∈ db.claims ∨ ∃ r ∈ resources, c = ⟨m.projectId, m.digest, r⟩ := by
  induction resources generalizing db with
  | nil =>
    obtain rfl := Option.some.inj h
    exact ⟨rfl, rfl, rfl, by simp⟩
  | cons r resources ih =>
    simp only [insertClaims, Option.bind_eq_bind, Option.bind_eq_some_iff] at h
    obtain ⟨claims, hinsert, h⟩ := h
    obtain ⟨hprojects, hsnapshots, hactive, hclaims⟩ := ih h
    refine ⟨hprojects, hsnapshots, hactive, fun c => ?_⟩
    rw [hclaims, Table.mem_of_insert hinsert, List.exists_mem_cons_iff, or_assoc]

/-- The claims of every snapshot are stored. -/
def Claimed (lib : TextLibrary) (db : ManifestDb) : Prop :=
  ∀ s ∈ db.snapshots, ∀ m, ProjectManifest.normalizeProjectManifest lib s.snapshot = .ok m →
    m.projectId = s.projectId → m.digest = s.manifestDigest →
    ∀ r ∈ m.resources, ⟨m.projectId, m.digest, r⟩ ∈ db.claims

/-- What registering the snapshot of a manifest leaves behind. -/
structure SnapshotKept (lib : TextLibrary) (m : ProjectManifest) (db db' : ManifestDb) : Prop where
  projects : db'.projects = db.projects
  active : db'.active = db.active
  others : ∀ p d, p ≠ m.projectId → db'.snapshots.lookup (p, d) = db.snapshots.lookup (p, d)
  claims : ∀ c ∈ db'.claims, c ∈ db.claims ∨ ∃ r ∈ m.resources, c = ⟨m.projectId, m.digest, r⟩
  stored : ∀ s ∈ db'.snapshots, s ∈ db.snapshots ∨ s.snapshot = m.snapshot
  own : ∃ s, db'.snapshots.lookup (m.projectId, m.digest) = some s ∧ s.snapshot = m.snapshot
  claimed : Claimed lib db → Claimed lib db'

lemma register_ok {r : ActivateRequest} {sourceRevision actorId : String}
    (hnormal : ProjectManifest.normalizeProjectManifest lib r.manifest.snapshot = .ok r.manifest)
    (h : register r sourceRevision actorId db = .ok ((), db')) :
    SnapshotKept lib r.manifest db db' := by
  simp only [register, Tx.query_bind_ok] at h
  cases hold : db.snapshots.lookup (r.manifest.projectId, r.manifest.digest) with
  | some s =>
    simp only [hold, Tx.require_ok] at h
    obtain ⟨⟨-, -, hsnapshot⟩, rfl⟩ := h
    exact ⟨rfl, rfl, fun _ _ _ => rfl, fun c hc => Or.inl hc, fun s hs => Or.inl hs,
      ⟨s, hold, hsnapshot⟩, id⟩
  | none =>
    simp only [hold, Tx.attempt_ok, insertSnapshot, Option.bind_eq_bind,
      Option.bind_eq_some_iff] at h
    obtain ⟨snapshots, hinsert, h⟩ := h
    obtain ⟨hprojects, hsnapshots, hactive, hclaims⟩ := insertClaims_ok h
    have hlookup := Table.lookup_of_insert hinsert
    refine ⟨hprojects, hactive, ?_, fun c hc => (hclaims c).1 hc, fun s hs => ?_, ?_, ?_⟩
    · intro p d hp
      rw [hsnapshots, hlookup, if_neg]
      exact fun hkey => hp (Prod.mk.inj hkey).1.symm
    · rw [hsnapshots] at hs
      obtain hs | rfl := (Table.mem_of_insert hinsert s).1 hs
      · exact Or.inl hs
      · exact Or.inr rfl
    · rw [hsnapshots]
      exact ⟨_, (hlookup _).trans (if_pos rfl), rfl⟩
    · intro hclaimed s hs m hm hproject hdigest resource hresource
      rw [hsnapshots] at hs
      obtain hs | rfl := (Table.mem_of_insert hinsert s).1 hs
      · exact (hclaims _).2 (Or.inl (hclaimed s hs m hm hproject hdigest resource hresource))
      · -- the new snapshot is the one of the manifest
        obtain rfl : r.manifest = m := Except.ok.inj (hnormal.symm.trans hm)
        exact (hclaims _).2 (Or.inr ⟨resource, hresource, rfl⟩)

/-! ## Activating -/

/-- Activating a manifest writes the active digests only. -/
lemma setActive_frame {m : ProjectManifest} {actorId : String} :
    (setActive m actorId db).projects = db.projects ∧
      (setActive m actorId db).snapshots = db.snapshots ∧
      (setActive m actorId db).claims = db.claims := by
  unfold setActive
  split <;> exact ⟨rfl, rfl, rfl⟩

/-- The digest of the project is replaced, and no other one. -/
lemma lookup_setActive {m : ProjectManifest} {actorId p : String} :
    (setActive m actorId db).active.lookup p =
      if p = m.projectId then some ⟨m.projectId, m.digest, actorId⟩ else db.active.lookup p := by
  unfold setActive
  cases hinsert : db.active.insert ⟨m.projectId, m.digest, actorId⟩ with
  | some active =>
    simp only [Table.lookup_of_insert hinsert, ActiveManifest.key, eq_comm]
  | none =>
    obtain ⟨a, ha⟩ : ∃ a, db.active.lookup m.projectId = some a := by
      by_contra hnone
      have hfresh := Table.lookup_eq_none.1 (Option.eq_none_iff_forall_ne_some.2
        fun a ha => hnone ⟨a, ha⟩)
      obtain ⟨t, ht⟩ := Table.insert_isSome_of_fresh (t := db.active)
        (r := (⟨m.projectId, m.digest, actorId⟩ : ActiveManifest)) hfresh
      exact absurd (hinsert.symm.trans ht) (by simp)
    simp only [Table.lookup_update]
    split
    · next hp =>
      subst hp
      have hkey : a.projectId = m.projectId := (Table.lookup_eq_some.1 ha).2
      simp [ha, hkey]
    · next hp =>
      cases hl : db.active.lookup p with
      | none => rfl
      | some b =>
        have hkey : b.projectId = p := (Table.lookup_eq_some.1 hl).2
        simp [hkey, hp]

/-- What an activation that commits found and leaves behind. -/
structure Activated (lib : TextLibrary) (r : ActivateRequest) (db db' : ManifestDb) : Prop where
  normal : ProjectManifest.normalizeProjectManifest lib r.manifest.snapshot = .ok r.manifest
  declared : authorizeDeclaredOwners r.authorizer r.manifest = .ok ()
  collisions : authorizeActiveCollisions r.authorizer r.manifest db = .ok ()
  active : ∀ m, Active lib db' m ↔
    m = r.manifest ∨ m.projectId ≠ r.manifest.projectId ∧ Active lib db m
  projects : db'.projects = db.projects
  others : ∀ p, p ≠ r.manifest.projectId → db'.active.lookup p = db.active.lookup p ∧
    ∀ d, db'.snapshots.lookup (p, d) = db.snapshots.lookup (p, d)
  claims : ∀ c ∈ db'.claims, c ∈ db.claims ∨
    ∃ s ∈ r.manifest.resources, c = ⟨r.manifest.projectId, r.manifest.digest, s⟩
  stored : ∀ s ∈ db'.snapshots, s ∈ db.snapshots ∨ s.snapshot = r.manifest.snapshot
  claimed : Claimed lib db → Claimed lib db'

/-- The active digest of the project selects its snapshot. -/
lemma active_iff_of_digest {m n : ProjectManifest} {a : ActiveManifest} {s : ManifestSnapshot}
    (hproject : n.projectId = m.projectId) (hactive : db.active.lookup m.projectId = some a)
    (hdigest : a.manifestDigest = m.digest)
    (hsnapshot : db.snapshots.lookup (m.projectId, m.digest) = some s)
    (hm : ProjectManifest.normalizeProjectManifest lib s.snapshot = .ok m) :
    Active lib db n ↔ n = m := by
  rw [active_iff]
  constructor
  · rintro ⟨b, t, hb, hbdigest, ht, hn⟩
    rw [hproject, hactive] at hb
    obtain rfl := Option.some.inj hb
    rw [hproject, ← hbdigest, hdigest, hsnapshot] at ht
    obtain rfl := Option.some.inj ht
    exact Except.ok.inj (hn.symm.trans hm)
  · rintro rfl
    exact ⟨a, s, hactive, hdigest, hsnapshot, hm⟩

/-- An activation leaves the active manifests of the other projects alone. -/
lemma active_iff_of_other {n : ProjectManifest}
    (hactive : db'.active.lookup n.projectId = db.active.lookup n.projectId)
    (hsnapshots : ∀ d, db'.snapshots.lookup (n.projectId, d) =
      db.snapshots.lookup (n.projectId, d)) :
    Active lib db' n ↔ Active lib db n := by
  rw [active_iff, active_iff, hactive, hsnapshots]

lemma activate_ensures {r : ActivateRequest} :
    (activate lib r).Ensures db (fun _ => True) fun _ db' => Activated lib r db db' := by
  refine Tx.ensures_ofExcept_bind (fun _ _ => trivial) fun validated hvalidated => ?_
  refine Tx.ensures_require_bind (fun _ => trivial) fun hnormal => ?_
  obtain rfl : validated = r.manifest := hnormal
  refine Tx.ensures_demand_bind (fun _ => trivial) fun sourceRevision _ => ?_
  refine Tx.ensures_ofExcept_bind (fun _ _ => trivial) fun actorId _ => ?_
  refine Tx.ensures_require_bind (fun _ => trivial) fun _ => ?_
  refine Tx.ensures_require_bind (fun _ => trivial) fun _ => ?_
  refine Tx.ensures_ofExcept_bind (fun _ _ => trivial) fun _ hdeclared => ?_
  refine Tx.ensures_demand_bind (fun _ => trivial) fun project _ => ?_
  refine Tx.ensures_require_bind (fun _ => trivial) fun _ => ?_
  refine Tx.ensures_query_bind ?_
  refine Tx.ensures_require_bind (fun _ => trivial) fun _ => ?_
  refine Tx.ensures_query_bind ?_
  refine Tx.ensures_ofExcept_bind (fun _ _ => trivial) fun _ hcollisions => ?_
  refine Tx.Ensures.bind (Q := fun _ db₁ => SnapshotKept lib r.manifest db db₁)
    ⟨fun _ _ h => register_ok hvalidated h, fun _ _ => trivial⟩ fun _ db₁ hkept => ?_
  refine Tx.ensures_modify_bind ?_
  refine ⟨fun a db' h => ?_, fun _ _ => trivial⟩
  obtain ⟨-, hdb⟩ := Tx.demand_ok.1 h
  obtain ⟨s, hs, hsnapshot⟩ := hkept.own
  obtain ⟨hother, ⟨a, ha, hdigest⟩, hprojects, hsnapshots, hclaims⟩ :
      (∀ p, p ≠ r.manifest.projectId → db'.active.lookup p = db.active.lookup p) ∧
        (∃ a, db'.active.lookup r.manifest.projectId = some a ∧
          a.manifestDigest = r.manifest.digest) ∧
        db'.projects = db₁.projects ∧ db'.snapshots = db₁.snapshots ∧
        db'.claims = db₁.claims := by
    change db' = _ at hdb
    subst hdb
    split
    · next hcurrent =>
      -- the manifest was the active one before
      rw [hkept.active]
      obtain ⟨a, ha, hdigest⟩ := Option.map_eq_some_iff.1 hcurrent
      exact ⟨fun _ _ => rfl, ⟨a, ha, hdigest⟩, rfl, rfl, rfl⟩
    · have hlookup := fun p => @lookup_setActive db₁ r.manifest actorId p
      refine ⟨fun p hp => ?_, ⟨_, (hlookup _).trans (if_pos rfl), rfl⟩, setActive_frame⟩
      rw [hlookup, if_neg hp, hkept.active]
  rw [← hsnapshots] at hs
  have hothers : ∀ p, p ≠ r.manifest.projectId → db'.active.lookup p = db.active.lookup p ∧
      ∀ d, db'.snapshots.lookup (p, d) = db.snapshots.lookup (p, d) := by
    intro p hp
    rw [hsnapshots]
    exact ⟨hother p hp, fun d => hkept.others p d hp⟩
  refine ⟨hvalidated, hdeclared, hcollisions, fun m => ?_, hprojects.trans hkept.projects, hothers,
    by rw [hclaims]; exact hkept.claims, by rw [hsnapshots]; exact hkept.stored, fun h => ?_⟩
  · by_cases hm : m.projectId = r.manifest.projectId
    · rw [active_iff_of_digest hm ha hdigest hs (by rw [hsnapshot]; exact hvalidated)]
      simp [hm]
    · rw [active_iff_of_other (hothers _ hm).1 (hothers _ hm).2]
      constructor
      · exact fun h => Or.inr ⟨hm, h⟩
      · rintro (rfl | ⟨-, h⟩)
        · exact absurd rfl hm
        · exact h
  · unfold Claimed
    rw [hsnapshots, hclaims]
    exact hkept.claimed h

/-! ## Owners -/

lemma nodup_resources {value : Json} {m : ProjectManifest}
    (h : ProjectManifest.normalizeProjectManifest lib value = .ok m) :
    (m.resources.map ProjectManifest.identityOf).Nodup := by
  simp only [ProjectManifest.normalizeProjectManifest, ProjectManifest.normalized,
    Check.bind_ok, Check.that_ok, Check.pure_ok] at h
  obtain ⟨n, ⟨root, -, -, -, projectId, -, displayName, -, -, -, credentials, -, -, -,
    repositories, -, -, -, documents, -, packages, -, -, -, roles, -, teams, -, ado, -, limits, -,
    -, hnodup, rfl⟩, rfl⟩ := h
  exact hnodup

/-- The resource of a manifest with a given identity. -/
lemma eq_of_identity {m : ProjectManifest} {r s : ResourceBinding}
    (h : (m.resources.map ProjectManifest.identityOf).Nodup) (hr : r ∈ m.resources)
    (hs : s ∈ m.resources) (hid : ProjectManifest.identityOf r = ProjectManifest.identityOf s) :
    r = s :=
  List.inj_on_of_nodup_map h hr hs hid

/-- The claims of an active manifest of another project are among those that are compared. -/
lemma mem_foreignClaims {n : ProjectManifest} {p : String} {s : ResourceBinding}
    (hclaimed : Claimed lib db) (hn : Active lib db n) (hp : n.projectId ≠ p)
    (hs : s ∈ n.resources) : ⟨n.projectId, n.digest, s⟩ ∈ foreignClaims p db := by
  obtain ⟨a, t, ha, hdigest, ht, hnormal⟩ := active_iff.1 hn
  obtain ⟨ha, hakey⟩ := Table.lookup_eq_some.1 ha
  obtain ⟨ht, htkey⟩ := Table.lookup_eq_some.1 ht
  obtain ⟨hproject, htdigest⟩ := Prod.mk.inj htkey
  refine Table.mem_select.2 ⟨hclaimed t ht n hnormal hproject.symm htdigest.symm s hs, hp, a, ha,
    hakey, hdigest⟩

/-- A manifest that passed the comparison names the owner that the claims name. -/
lemma owner_of_collisions {authorizer : ResourceAuthorizer} {m : ProjectManifest}
    {claim : ResourceClaim} {r : ResourceBinding}
    (h : authorizeActiveCollisions authorizer m db = .ok ())
    (hm : (m.resources.map ProjectManifest.identityOf).Nodup)
    (hclaim : claim ∈ foreignClaims m.projectId db) (hr : r ∈ m.resources)
    (hid : ProjectManifest.identityOf r = ProjectManifest.identityOf claim.resource) :
    r.ownerProjectId = claim.resource.ownerProjectId := by
  have hone := Check.forM_ok.1 h claim hclaim
  unfold authorizeClaim at hone
  cases hfind : m.resources.find? fun s =>
      ProjectManifest.identityOf s = ProjectManifest.identityOf claim.resource with
  | none => exact absurd hid (by simpa using List.find?_eq_none.1 hfind r hr)
  | some s =>
    have hs : s ∈ m.resources := List.mem_of_find?_eq_some hfind
    have hsid : ProjectManifest.identityOf s = ProjectManifest.identityOf claim.resource := by
      simpa using List.find?_some hfind
    obtain rfl : r = s := eq_of_identity hm hr hs (hid.trans hsid.symm)
    simp only [hfind, Check.bind_ok, Check.that_ok] at hone
    obtain ⟨_, howner, -⟩ := hone
    exact howner

/-- Two active manifests that claim one resource name the same owner. -/
def OwnersAgree (lib : TextLibrary) (db : ManifestDb) : Prop :=
  ∀ m n, Active lib db m → Active lib db n → ∀ r ∈ m.resources, ∀ s ∈ n.resources,
    ProjectManifest.identityOf r = ProjectManifest.identityOf s →
    r.ownerProjectId = s.ownerProjectId

/-- **An activation keeps the owners apart.** -/
theorem Activated.ownersAgree {r : ActivateRequest} (h : Activated lib r db db')
    (hclaimed : Claimed lib db) (hdb : OwnersAgree lib db) : OwnersAgree lib db' := by
  have hnodup := nodup_resources h.normal
  -- the manifest against one of another project that stays active
  have hnew : ∀ n, n.projectId ≠ r.manifest.projectId → Active lib db n →
      ∀ s ∈ r.manifest.resources, ∀ t ∈ n.resources,
      ProjectManifest.identityOf s = ProjectManifest.identityOf t →
      s.ownerProjectId = t.ownerProjectId := by
    intro n hproject hn s hs t ht hid
    exact owner_of_collisions h.collisions hnodup (mem_foreignClaims hclaimed hn hproject ht) hs hid
  intro m n hm hn s hs t ht hid
  obtain rfl | ⟨hmproject, hm⟩ := (h.active m).1 hm
  · obtain rfl | ⟨hnproject, hn⟩ := (h.active n).1 hn
    · rw [eq_of_identity hnodup hs ht hid]
    · exact hnew n hnproject hn s hs t ht hid
  · obtain rfl | ⟨hnproject, hn⟩ := (h.active n).1 hn
    · exact (hnew m hmproject hm t ht s hs hid.symm).symm
    · exact hdb m n hm hn s hs t ht hid

/-! ## A first activation -/

lemma insertClaims_of_fresh {m : ProjectManifest} {resources : List ResourceBinding}
    (h : (resources.map ProjectManifest.identityOf).Nodup)
    (hfresh : ∀ c ∈ db.claims, ∀ r ∈ resources,
      c.key ≠ (m.projectId, m.digest, r.kind, r.key)) :
    ∃ db', insertClaims m resources db = some db' := by
  induction resources generalizing db with
  | nil => exact ⟨db, rfl⟩
  | cons r resources ih =>
    rw [List.map_cons, List.nodup_cons] at h
    obtain ⟨claims, hinsert⟩ := Table.insert_isSome_of_fresh (t := db.claims)
      (r := (⟨m.projectId, m.digest, r⟩ : ResourceClaim))
      fun c hc => hfresh c hc r List.mem_cons_self
    have hrest : ∀ c ∈ claims, ∀ s ∈ resources,
        c.key ≠ (m.projectId, m.digest, s.kind, s.key) := by
      intro c hc s hs hkey
      obtain hc | rfl := (Table.mem_of_insert hinsert c).1 hc
      · exact hfresh c hc s (List.mem_cons_of_mem r hs) hkey
      · obtain ⟨hkind, hskey⟩ : r.kind = s.kind ∧ r.key = s.key := by
          simpa [ResourceClaim.key] using hkey
        exact h.1 (List.mem_map.2 ⟨s, hs, by simp [ProjectManifest.identityOf, hkind, hskey]⟩)
    obtain ⟨db', hdb'⟩ := @ih { db with claims } h.2 hrest
    exact ⟨db', by simp [insertClaims, hinsert, hdb']⟩

/-- An activation of a manifest at its canonical path. -/
def activation (manifest : ProjectManifest) (authorizer : ResourceAuthorizer) :
    ActivateRequest where
  manifest
  sourceRevision := String.ofList (List.replicate 40 'a')
  actorId := "admin"
  sourcePath := canonicalSourcePath
  expectedActive := none
  authorizer

/-- A first activation of a registered project commits when the checks of the owners pass. -/
lemma activation_of_fresh {m : ProjectManifest} {authorizer : ResourceAuthorizer}
    {p : ManifestProject}
    (hnormal : ProjectManifest.normalizeProjectManifest lib m.snapshot = .ok m)
    (hproject : db.projects.lookup m.projectId = some p) (hname : p.displayName = m.displayName)
    (hactive : db.active.lookup m.projectId = none)
    (hsnapshot : db.snapshots.lookup (m.projectId, m.digest) = none)
    (hclaims : ∀ c ∈ db.claims, c.projectId ≠ m.projectId)
    (hdeclared : authorizeDeclaredOwners authorizer m = .ok ())
    (hcollisions : authorizeActiveCollisions authorizer m db = .ok ()) :
    ∃ a db', activate lib (activation m authorizer) db = .ok (a, db') := by
  obtain ⟨snapshots, hsnapshots⟩ := Table.insert_isSome_of_fresh (t := db.snapshots)
    (r := (⟨m.projectId, m.digest, String.ofList (List.replicate 40 'a'), canonicalSourcePath,
      m.snapshot, "admin"⟩ : ManifestSnapshot)) (Table.lookup_eq_none.1 hsnapshot)
  obtain ⟨db₁, hdb₁⟩ := @insertClaims_of_fresh { db with snapshots } m _
    (nodup_resources hnormal) (by
      rintro c hc r - hkey
      exact hclaims c hc (Prod.mk.inj hkey).1)
  have hdb₁snapshots : db₁.snapshots = snapshots := (insertClaims_ok hdb₁).2.1
  have hcurrent : current m.projectId db = none := by simp [current, hactive]
  have hread : ∃ a, readActive m.projectId (setActive m "admin" db₁) = some a := by
    have hlookup := (Table.lookup_of_insert hsnapshots (m.projectId, m.digest)).trans (if_pos rfl)
    rw [← hdb₁snapshots] at hlookup
    unfold readActive
    rw [lookup_setActive, if_pos rfl]
    simp [setActive_frame.2.1, hlookup]
  obtain ⟨a, ha⟩ := hread
  have hrevision : sourceRevisionArg (activation m authorizer).sourceRevision db =
      .ok (String.ofList (List.replicate 40 'a'), db) := by
    change sourceRevisionArg (String.ofList (List.replicate 40 'a')) db = _
    exact Tx.demand_of_some (by decide_cbv)
  have hactor : ProjectManifest.externalId (.str (activation m authorizer).actorId) "actor_id" =
      .ok "admin" := by
    change ProjectManifest.externalId (.str "admin") "actor_id" = .ok "admin"
    decide
  have hregister : register (activation m authorizer) (String.ofList (List.replicate 40 'a'))
      "admin" db = .ok ((), db₁) := by
    have hinsert : insertSnapshot (activation m authorizer)
        (String.ofList (List.replicate 40 'a')) "admin" db = some db₁ := by
      simp only [insertSnapshot, activation, hsnapshots, Option.bind_eq_bind, Option.bind_some]
      exact hdb₁
    unfold register
    refine (@Tx.bind_of_ok _ _ _ _ _ db _ _ none ?_).trans (Tx.attempt_of_some hinsert)
    exact congrArg (fun o => Except.ok (o, db)) hsnapshot
  refine ⟨a, setActive m "admin" db₁, ?_⟩
  refine (Tx.bind_of_ok (Tx.ofExcept_of_ok hnormal)).trans ?_
  refine (Tx.bind_of_ok (Tx.require_of_pos rfl)).trans ?_
  refine (Tx.bind_of_ok hrevision).trans ?_
  refine (Tx.bind_of_ok (Tx.ofExcept_of_ok hactor)).trans ?_
  refine (Tx.bind_of_ok (Tx.require_of_pos rfl)).trans ?_
  refine (Tx.bind_of_ok (Tx.require_of_pos (by simp [activation]))).trans ?_
  refine (Tx.bind_of_ok (Tx.ofExcept_of_ok hdeclared)).trans ?_
  refine (Tx.bind_of_ok (Tx.demand_of_some
    (g := fun db : ManifestDb => db.projects.lookup m.projectId) hproject)).trans ?_
  refine (Tx.bind_of_ok (Tx.require_of_pos hname)).trans ?_
  refine (Tx.bind_of_ok (a := current m.projectId db) rfl).trans ?_
  refine (Tx.bind_of_ok (Tx.require_of_pos rfl)).trans ?_
  refine (Tx.bind_of_ok (a := authorizeActiveCollisions authorizer m db) rfl).trans ?_
  refine (Tx.bind_of_ok (Tx.ofExcept_of_ok hcollisions)).trans ?_
  refine (Tx.bind_of_ok hregister).trans ?_
  refine (@Tx.bind_of_ok _ _ _ _ _ (setActive m "admin" db₁) _ _ () ?_).trans ?_
  · simp only [Tx.modify_ok, hcurrent, reduceCtorEq, if_false]
    rfl
  · exact Tx.demand_of_some ha

/-! ## The project `system` -/

/-- The text functions, on ASCII and on `https` addresses without port, query and fragment. -/
def asciiLibrary : TextLibrary where
  lower s := String.ofList (s.toList.map Char.toLower)
  casefold s := String.ofList (s.toList.map Char.toLower)
  urlsplit s := (removePrefix? s "https://").map fun rest =>
    { scheme := "https"
      hostname := some (String.ofList ((rest.toList.takeWhile (· != '/')).map Char.toLower))
      port := none
      username := none
      password := none
      path := String.ofList (rest.toList.dropWhile (· != '/'))
      query := ""
      fragment := "" }

/-- A normalized manifest with some credentials and document roots; its connector uses the
credential `connector`, its bot the credential `bot`. -/
def exampleSnapshot (projectId : String) (credentials documents : List (String × Json)) : Json :=
  .obj [
    ("ado", .obj [("credential", .null), ("organization", .str "https://dev.azure.com/acme"),
      ("owner_project_id", .str projectId), ("project", .str projectId)]),
    ("credentials", .obj credentials),
    ("display_name", .str projectId),
    ("documents", .obj documents),
    ("limits", .obj [("max_total_instances", .int 1)]),
    ("packages", .obj [
      ("organization_release_digest", .str (String.ofList (List.replicate 64 'a'))),
      ("overrides", .arr [])]),
    ("project_id", .str projectId),
    ("repositories", .obj [("app", .obj [("default_branch", .str "main"),
      ("owner_project_id", .str projectId),
      ("url", .str ("https://git.test/" ++ projectId ++ ".git"))])]),
    ("roles", .obj [("pm", .obj [("instances", .obj [("maximum", .int 1), ("minimum", .int 1)]),
      ("package", .str "role/pm@1.0.0"), ("tool_profile", .str "tool-profile/pm@1.0.0")])]),
    ("schema_version", .int 1),
    ("teams", .obj [("channels", .obj [("pm", .str projectId)]), ("credential", .str "connector"),
      ("owner_project_id", .str projectId),
      ("role_identities", .obj [("pm", .obj [("application_id", .str projectId),
        ("credential", .str "bot"), ("display_name", .str "pm")])]),
      ("team_id", .str "team"), ("tenant_id", .str "tenant")])]

/-- The manifest that an example snapshot normalizes to. -/
def exampleManifest (projectId : String) (credentials documents : List (String × Json))
    (resources : List ResourceBinding) : ProjectManifest where
  projectId
  displayName := projectId
  digest := (exampleSnapshot projectId credentials documents).digest
  snapshot := exampleSnapshot projectId credentials documents
  resources

lemma normalize_example {projectId : String} {credentials documents : List (String × Json)}
    {resources : List ResourceBinding}
    (h : ProjectManifest.normalized lib (exampleSnapshot projectId credentials documents) =
      .ok ⟨projectId, projectId, exampleSnapshot projectId credentials documents, resources⟩) :
    ProjectManifest.normalizeProjectManifest lib
      (exampleManifest projectId credentials documents resources).snapshot =
      .ok (exampleManifest projectId credentials documents resources) := by
  unfold ProjectManifest.normalizeProjectManifest exampleManifest
  rw [h]
  rfl

/-- A credential of the system. -/
def systemCredential (name : String) : String × Json :=
  (name, .obj [("authorization_ref", .str ("grant://" ++ name)), ("provider", .str "azure"),
    ("reference", .str ("secret://" ++ name)), ("scope", .str "system")])

def systemResources : List ResourceBinding := [
  ⟨"ado-project", "https://dev.azure.com/acme|system", "system", none⟩,
  ⟨"credential", "system|azure|secret://bot", "system", some "grant://bot"⟩,
  ⟨"credential", "system|azure|secret://connector", "system", some "grant://connector"⟩,
  ⟨"repository", "https://git.test/system.git", "system", none⟩,
  ⟨"teams-bot-identity", "tenant|system", "system", none⟩,
  ⟨"teams-channel", "tenant|team|system", "system", none⟩]

/-- The project `system` uses the credentials of the system. -/
def systemManifest : ProjectManifest :=
  exampleManifest "system" [systemCredential "bot", systemCredential "connector"] []
    systemResources

/-- The project `system` is registered, and its manifest is activated. -/
def systemRun (authorizer : ResourceAuthorizer) : List ManifestEvent :=
  [.register ⟨"system", "system"⟩, .activate (activation systemManifest authorizer)]

lemma normalize_systemManifest :
    ProjectManifest.normalizeProjectManifest asciiLibrary systemManifest.snapshot =
      .ok systemManifest :=
  normalize_example (by decide +kernel)

lemma active_systemManifest (authorizer : ResourceAuthorizer) :
    Active asciiLibrary (run (step asciiLibrary) {} (systemRun authorizer)) systemManifest := by
  have hown : ∀ r ∈ systemResources, r.ownerProjectId = "system" := by decide
  have hdeclared : authorizeDeclaredOwners authorizer systemManifest = .ok () :=
    Check.forM_ok.2 fun r hr => Check.that_ok.2 (Or.inl (hown r hr))
  have hcollisions : authorizeActiveCollisions authorizer systemManifest
      (registerProject ⟨"system", "system"⟩ {}) = .ok () :=
    Check.forM_ok.2 fun c hc => absurd (Table.mem_select.1 hc).1 (Table.notMem_empty c)
  obtain ⟨a, db', h⟩ := @activation_of_fresh asciiLibrary
    (registerProject ⟨"system", "system"⟩ {}) _ authorizer ⟨"system", "system"⟩
    normalize_systemManifest rfl rfl rfl
    (Table.lookup_eq_none.2 fun s hs => absurd hs (Table.notMem_empty s))
    (fun c hc => absurd hc (Table.notMem_empty c)) hdeclared hcollisions
  have hstep : run (step asciiLibrary) {} (systemRun authorizer) = db' := by
    unfold systemRun
    rw [run_cons, run_cons, run_nil]
    exact Tx.commit_of_ok h
  rw [hstep]
  exact ((activate_ensures.1 a db' h).active _).2 (Or.inl rfl)

/-! ## Runs -/

/-- Every snapshot is normal: its normalization reads the snapshot itself. -/
def Normal (lib : TextLibrary) (db : ManifestDb) : Prop :=
  ∀ s ∈ db.snapshots, ∃ m, ProjectManifest.normalizeProjectManifest lib s.snapshot = .ok m ∧
    m.snapshot = s.snapshot

/-- What holds of the manifests in every run. -/
structure ManifestInv (lib : TextLibrary) (db : ManifestDb) : Prop where
  claimed : Claimed lib db
  normal : Normal lib db
  owners : OwnersAgree lib db

lemma active_registerProject {m : ProjectManifest} {p : ManifestProject} :
    Active lib (registerProject p db) m ↔ Active lib db m := by
  unfold registerProject
  split
  · rfl
  · rfl

lemma not_active_empty {m : ProjectManifest} : ¬ Active lib ({} : ManifestDb) m := by
  intro h
  obtain ⟨a, s, ha, -⟩ := active_iff.1 h
  simp [Table.lookup, Table.find] at ha

lemma ManifestInv.empty : ManifestInv lib {} :=
  ⟨fun s hs => absurd hs (Table.notMem_empty s), fun s hs => absurd hs (Table.notMem_empty s),
    fun _ _ hm => absurd hm not_active_empty⟩

lemma ManifestInv.step {e : ManifestEvent} (h : ManifestInv lib db) :
    ManifestInv lib (step lib db e) := by
  cases e with
  | register p =>
    have hsame : (registerProject p db).snapshots = db.snapshots ∧
        (registerProject p db).claims = db.claims := by
      unfold registerProject
      split <;> exact ⟨rfl, rfl⟩
    change ManifestInv lib (registerProject p db)
    refine ⟨?_, ?_, ?_⟩
    · unfold Claimed
      rw [hsame.1, hsame.2]
      exact h.claimed
    · unfold Normal
      rw [hsame.1]
      exact h.normal
    · intro m n hm hn
      exact h.owners m n (active_registerProject.1 hm) (active_registerProject.1 hn)
  | activate r =>
    refine (@activate_ensures lib db r).commit (R := ManifestInv lib) h ?_
    refine fun _ db' hdone => ⟨hdone.claimed h.claimed, fun s hs => ?_,
      hdone.ownersAgree h.claimed h.owners⟩
    obtain hs | hs := hdone.stored s hs
    · exact h.normal s hs
    · rw [hs]
      exact ⟨r.manifest, hdone.normal, rfl⟩

/-- A resource of another project, or of the system: the system owns the credentials whose
owner is written `system`. -/
def ForeignUse (m : ProjectManifest) (r : ResourceBinding) : Prop :=
  r.ownerProjectId ≠ m.projectId ∨ r.kind = "credential" ∧ r.ownerProjectId = "system"

/-- The authorizer allowed the resource in the activation that made the manifest active for the
last time. -/
def AllowedAtActivation (lib : TextLibrary) (es : List ManifestEvent) (m : ProjectManifest)
    (r : ResourceBinding) : Prop :=
  ∃ fs q gs, es = fs ++ .activate q :: gs ∧ q.manifest = m ∧
    ¬ Active lib (run (step lib) {} fs) m ∧
    (∀ hs, hs <+: gs → Active lib (run (step lib) {} (fs ++ .activate q :: hs)) m) ∧
    q.authorizer m.projectId r.ownerProjectId r = true

/-- Resources have one owner, and projects use those of others with consent only. -/
structure Isolated (lib : TextLibrary) (es : List ManifestEvent) : Prop where
  owners : OwnersAgree lib (run (step lib) {} es)
  allowed : ∀ m, Active lib (run (step lib) {} es) m → ∀ r ∈ m.resources, ForeignUse m r →
    AllowedAtActivation lib es m r
  rejected : ∀ fs q gs, es = fs ++ .activate q :: gs →
    (∃ e, activate lib q (run (step lib) {} fs) = .error e) →
    step lib (run (step lib) {} fs) (.activate q) = run (step lib) {} fs

/-- An activation of the project `system` has the authorizer's consent to its credentials. -/
def SystemAllowed (_ : ManifestDb) : ManifestEvent → Prop
  | .register _ => True
  | .activate r => r.manifest.projectId = "system" → ∀ c ∈ r.manifest.resources,
    c.kind = "credential" → c.ownerProjectId = "system" →
      r.authorizer "system" "system" c = true

lemma inv_run (es : List ManifestEvent) : ManifestInv lib (run (step lib) {} es) :=
  invariant_run (fun _ _ h => h.step) ManifestInv.empty es

/-- A manifest becomes active by its activation only. -/
lemma activated_of_change {m : ProjectManifest} {e : ManifestEvent} (h : ¬ Active lib db m)
    (h' : Active lib (step lib db e) m) :
    ∃ q, e = .activate q ∧ q.manifest = m ∧ Activated lib q db (step lib db e) := by
  cases e with
  | register p => exact absurd (active_registerProject.1 h') h
  | activate q =>
    obtain hsame | ⟨a, db', hq⟩ :
        step lib db (.activate q) = db ∨ ∃ a db', activate lib q db = .ok (a, db') := by
      cases hq : activate lib q db with
      | error e => exact Or.inl (Tx.commit_of_error hq)
      | ok result => exact Or.inr ⟨result.1, result.2, rfl⟩
    · rw [hsame] at h'
      exact absurd h' h
    · have hstep : step lib db (.activate q) = db' := Tx.commit_of_ok hq
      have hdone : Activated lib q db db' := activate_ensures.1 a db' hq
      rw [hstep] at h' ⊢
      obtain rfl | ⟨-, hm⟩ := (hdone.active m).1 h'
      · exact ⟨q, rfl, rfl, hdone⟩
      · exact absurd hm h

/-- The activation that made an active manifest active for the last time. -/
lemma exists_last_activation {es : List ManifestEvent} {m : ProjectManifest}
    (h : Active lib (run (step lib) {} es) m) :
    ∃ fs q gs, es = fs ++ .activate q :: gs ∧ q.manifest = m ∧
      ¬ Active lib (run (step lib) {} fs) m ∧
      Activated lib q (run (step lib) {} fs)
        (step lib (run (step lib) {} fs) (.activate q)) ∧
      ∀ hs, hs <+: gs → Active lib (run (step lib) {} (fs ++ .activate q :: hs)) m := by
  obtain ⟨fs, e, gs, rfl, hbefore, hafter⟩ :=
    exists_last_change (P := fun s => ¬ Active lib s m) not_active_empty (not_not.2 h)
  simp only [not_not] at hafter
  have hstep : Active lib (step lib (run (step lib) {} fs) e) m := by
    have hone := hafter [] List.nil_prefix
    rwa [run_append] at hone
  obtain ⟨q, rfl, rfl, hdone⟩ := activated_of_change hbefore hstep
  exact ⟨fs, q, gs, rfl, rfl, hbefore, hdone, hafter⟩

/-- What the declared owners' check and the condition on the project `system` leave. -/
lemma Activated.allows {q : ActivateRequest} (h : Activated lib q db db')
    (hsystem : SystemAllowed db (.activate q)) {r : ResourceBinding}
    (hr : r ∈ q.manifest.resources) (hforeign : ForeignUse q.manifest r) :
    q.authorizer q.manifest.projectId r.ownerProjectId r = true := by
  have hdeclared := Check.forM_ok.1 h.declared r hr
  obtain hown | hallowed := Check.that_ok.1 hdeclared
  · obtain hne | ⟨hkind, howner⟩ := hforeign
    · exact absurd hown hne
    · -- only the project `system` owns a credential of the system
      have hproject : q.manifest.projectId = "system" := hown.symm.trans howner
      rw [hproject, howner]
      exact hsystem hproject r hr hkind howner
  · exact hallowed

/-- **Projects are isolated up to the project `system`.** -/
theorem resource_isolation (lib : TextLibrary) (es : List ManifestEvent)
    (h : Along (step lib) SystemAllowed {} es) : Isolated lib es := by
  refine ⟨(inv_run es).owners, fun m hm r hr hforeign => ?_, ?_⟩
  · obtain ⟨fs, q, gs, rfl, rfl, hbefore, hdone, hafter⟩ := exists_last_activation hm
    have hguard := ((along_append _).1 h).2.1
    exact ⟨fs, q, gs, rfl, rfl, hbefore, hafter, hdone.allows hguard hr hforeign⟩
  · rintro fs q gs - ⟨e, he⟩
    exact Tx.commit_of_error he

/-- The project `system` gets the credentials of the system from an authorizer that denies all
foreign resources. -/
theorem not_resource_isolation : ¬ ∀ lib es, Isolated lib es := by
  intro h
  obtain ⟨fs, q, gs, hes, -, -, -, hallowed⟩ :=
    (h asciiLibrary (systemRun denyForeignResources)).allowed systemManifest
      (active_systemManifest _)
      ⟨"credential", "system|azure|secret://bot", "system", some "grant://bot"⟩
      (show _ ∈ systemResources by decide) (Or.inr ⟨rfl, rfl⟩)
  have hq : ManifestEvent.activate q ∈ systemRun denyForeignResources := by simp [hes]
  have hone : q = activation systemManifest denyForeignResources := by
    simpa [systemRun] using hq
  rw [hone] at hallowed
  exact absurd hallowed Bool.false_ne_true

/-- With grants for its credentials the project `system` is isolated like any other. -/
theorem resource_isolation_granted :
    Isolated asciiLibrary (systemRun (staticResourceAuthorizer [
      ⟨"system", "system", "credential", "system|azure|secret://bot", "grant://bot"⟩,
      ⟨"system", "system", "credential", "system|azure|secret://connector",
        "grant://connector"⟩])) := by
  refine resource_isolation asciiLibrary _ ⟨trivial, fun _ => ?_, trivial⟩
  change ∀ c ∈ systemResources, _
  decide

end ProjectManifestStore

end AgenticMesh
