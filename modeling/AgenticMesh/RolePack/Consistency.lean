import AgenticMesh.Manifest.Teams
import AgenticMesh.RolePack.Activation
import AgenticMesh.Teams.Publishing

/-!
# Consistent role packs

After every activation the roles of a project are those of the manifest that was
activated last, whatever was there before.  The identifiers of the instances are
distinct, but nothing bounds their length: an instance can write its progress only
if the identifiers of its project and its role are short enough.
-/

namespace AgenticMesh

namespace RolePack

/-! ## What is prepared -/

lemma nodup_items (fields : List (String × Json)) : ((items fields).map Prod.fst).Nodup := by
  induction fields with
  | nil => simp [items]
  | cons p ps ih =>
    rw [items, List.map_cons, List.nodup_cons]
    constructor
    · intro hmem
      obtain ⟨q, hq, hkey⟩ := List.mem_map.1 hmem
      have hne := (List.mem_filter.1 hq).2
      simp [hkey] at hne
    · exact ih.sublist (List.filter_sublist.map Prod.fst)

lemma nodup_sortedItems (fields : List (String × Json)) :
    ((sortedItems fields).map Prod.fst).Nodup :=
  ((List.perm_insertionSort _ _).map Prod.fst).nodup_iff.2 (nodup_items fields)

lemma mem_keys_items {fields : List (String × Json)} {key : String} :
    key ∈ (items fields).map Prod.fst ↔ key ∈ fields.map Prod.fst := by
  induction fields with
  | nil => simp [items]
  | cons p ps ih =>
    rw [items, List.map_cons, List.map_cons, List.mem_cons, List.mem_cons, ← ih]
    constructor
    · rintro (rfl | hmem)
      · exact Or.inl rfl
      · obtain ⟨q, hq, rfl⟩ := List.mem_map.1 hmem
        exact Or.inr (List.mem_map_of_mem (List.mem_filter.1 hq).1)
    · rintro (rfl | hmem)
      · exact Or.inl rfl
      · obtain ⟨q, hq, rfl⟩ := List.mem_map.1 hmem
        by_cases hkey : q.1 = p.1
        · exact Or.inl hkey
        · exact Or.inr (List.mem_map_of_mem (List.mem_filter.2 ⟨hq, by simpa using hkey⟩))

/-- The keys of a mapping are the keys of its items. -/
lemma mem_keys_sortedItems {fields : List (String × Json)} {key : String} :
    key ∈ (sortedItems fields).map Prod.fst ↔ key ∈ fields.map Prod.fst := by
  have hperm : ((sortedItems fields).map Prod.fst).Perm ((items fields).map Prod.fst) :=
    (List.perm_insertionSort _ _).map Prod.fst
  rw [hperm.mem_iff, mem_keys_items]

/-- The binding of a role as an activation prepares it. -/
structure Prepared (r : RolePackRequest) (flow : FlowDefinition) (b : RolePackBinding) : Prop where
  project : b.projectId = r.manifest.projectId
  role : isRoleId b.roleId = true
  manifest : b.manifestDigest = r.manifest.digest
  flowReference : b.flowReference = r.flowReference
  flowDigest : b.flowDigest = flow.digest
  identity : applicationOf r.manifest b.roleId = some b.collaborationIdentity
  instances : 1 ≤ b.maximumInstances ∧ b.maximumInstances ≤ 256

lemma integer_ok {value : Option Json} {label : String} {minimum maximum n : ℤ}
    (h : integer value label minimum maximum = .ok n) : minimum ≤ n ∧ n ≤ maximum := by
  unfold integer at h
  split at h
  · split at h
    · next hbounds =>
      obtain rfl := Except.ok.inj h
      exact hbounds
    · simp at h
  · simp at h

lemma prepareRole_ok {r : RolePackRequest} {flow : FlowDefinition} {entry : String × Json}
    {item : PreparedRole} (h : prepareRole r flow entry = .ok item) :
    item.binding.roleId = entry.1 ∧ Prepared r flow item.binding := by
  simp only [prepareRole, Check.bind_ok, Check.that_ok, Check.found_ok, Check.pure_ok] at h
  obtain ⟨_, hrole, _, -, _, -, _, -, _, -, _, -, minimum, -, maximum, hmaximum, _, -, _, -,
    _, -, _,
    -, _, -, _, -, _, -, _, -, _, -, _, -, application, happlication, rfl⟩ := h
  exact ⟨rfl, rfl, hrole, rfl, rfl, rfl, happlication, integer_ok hmaximum⟩

lemma prepareRoles_ids {r : RolePackRequest} {flow : FlowDefinition}
    {entries : List (String × Json)} {prepared : List PreparedRole}
    (h : entries.mapM (prepareRole r flow) = .ok prepared) :
    prepared.map (fun item => item.binding.roleId) = entries.map Prod.fst := by
  induction entries generalizing prepared with
  | nil =>
    obtain rfl := Check.pure_ok.1 h
    rfl
  | cons entry entries ih =>
    simp only [List.mapM_cons, Check.bind_ok, Check.pure_ok] at h
    obtain ⟨item, hitem, rest, hrest, rfl⟩ := h
    rw [List.map_cons, List.map_cons, (prepareRole_ok hitem).1, ih hrest]

/-- The roles of a manifest. -/
def manifestRoles (m : ProjectManifest) : List String :=
  (((m.snapshot.get? "roles").bind Json.asObject).getD []).map Prod.fst

lemma prepare_ok {r : RolePackRequest} {flow : FlowDefinition} {prepared : List PreparedRole}
    (h : prepare r = .ok (flow, prepared)) :
    prepared ≠ [] ∧ (prepared.map fun item => item.binding.roleId).Nodup ∧
      (∀ role, role ∈ prepared.map (fun item => item.binding.roleId) ↔
        role ∈ manifestRoles r.manifest) ∧
      ∀ item ∈ prepared, Prepared r flow item.binding := by
  simp only [prepare, Check.bind_ok, Check.that_ok, Check.found_ok, Check.pure_ok,
    Prod.mk.injEq] at h
  obtain ⟨_, -, _, -, _, -, flow', -, roles, hroles, _, hne, prepared', hprepared, _, -, _, -, rfl,
    rfl⟩ := h
  have hids := prepareRoles_ids hprepared
  have hkeys : ∀ role, role ∈ (sortedItems roles).map Prod.fst ↔
      role ∈ manifestRoles r.manifest := by
    intro role
    rw [mem_keys_sortedItems, manifestRoles, hroles, Option.getD_some]
  refine ⟨?_, hids ▸ nodup_sortedItems roles, fun role => by rw [hids, hkeys], fun item hitem => ?_⟩
  · rintro rfl
    obtain ⟨p, ps, rfl⟩ := List.exists_cons_of_ne_nil hne
    have hmem : p.1 ∈ (sortedItems (p :: ps)).map Prod.fst :=
      mem_keys_sortedItems.2 (List.mem_map_of_mem List.mem_cons_self)
    rw [← hids] at hmem
    exact absurd hmem List.not_mem_nil
  · obtain ⟨entry, -, hentry⟩ := Check.mem_of_mapM hprepared hitem
    exact (prepareRole_ok hentry).2

/-! ## What the transaction writes -/

/-- The rows that a role is written as. -/
def roleOf (b : RolePackBinding) : Role := ⟨b.projectId, b.roleId, .active⟩

def queueOf (b : RolePackBinding) : RoleQueue := ⟨b.projectId, b.roleId, b.roleId, none, false⟩

def policyOf (b : RolePackBinding) : ScalingPolicy where
  projectId := b.projectId
  roleId := b.roleId
  minWarmInstances := b.minimumInstances
  maxInstances := b.maximumInstances
  scaleAfterSeconds := 60
  idleGraceSeconds := 300
  hibernationEnabled := b.roleId ≠ "project-manager"

variable {db db' : RolePackDb}

/-- The instances after the instances of a role. -/
def putInstances (instances : Table RoleInstance RoleInstance.key) (b : RolePackBinding) :
    Table RoleInstance RoleInstance.key :=
  (instanceIds b).foldl (putInstance b.projectId b.roleId) instances

/-- What writing some roles leaves behind. -/
structure Upserted (bs : List RolePackBinding) (db db' : RolePackDb) : Prop where
  manifests : db'.toManifestDb = db.toManifestDb
  roleBindings : db'.roleBindings = db.roleBindings.putAll bs
  roles : db'.roles = db.roles.putAll (bs.map roleOf)
  queues : db'.queues = db.queues.putAll (bs.map queueOf)
  policies : db'.policies = db.policies.putAll (bs.map policyOf)
  instances : db'.instances = bs.foldl putInstances db.instances

lemma upsertRole_ok {b : RolePackBinding} (h : upsertRole db b = some db') :
    Upserted [b] db db' := by
  simp only [upsertRole, Option.bind_eq_bind, Option.bind_eq_some_iff, Option.pure_def,
    Option.some.injEq, Option.guard_eq_some'] at h
  obtain ⟨_, -, queues, hqueues, rfl⟩ := h
  refine ⟨rfl, rfl, rfl, ?_, rfl, rfl⟩
  unfold putQueue at hqueues
  split at hqueues
  · simp at hqueues
  · exact (Option.some.inj hqueues).symm

lemma upsertRoles_ok {bs : List RolePackBinding} (h : bs.foldlM upsertRole db = some db') :
    Upserted bs db db' := by
  induction bs generalizing db with
  | nil =>
    obtain rfl : db = db' := Option.some.inj h
    exact ⟨rfl, rfl, rfl, rfl, rfl, rfl⟩
  | cons b bs ih =>
    rw [List.foldlM_cons, Option.bind_eq_bind, Option.bind_eq_some_iff] at h
    obtain ⟨mid, hmid, h⟩ := h
    have hone := upsertRole_ok hmid
    have hrest := ih h
    refine ⟨hrest.manifests.trans hone.manifests, ?_, ?_, ?_, ?_, ?_⟩
    · rw [hrest.roleBindings, hone.roleBindings]
      rfl
    · rw [hrest.roles, hone.roles]
      rfl
    · rw [hrest.queues, hone.queues]
      rfl
    · rw [hrest.policies, hone.policies]
      rfl
    · rw [hrest.instances, hone.instances]
      rfl

/-! ## What an activation leaves behind -/

/-- The roles of a project are those of an activated manifest. -/
structure Packed (r : RolePackRequest) (a : RolePackActivation) (db : RolePackDb) : Prop where
  /-- The bindings are exactly the activated ones. -/
  bindings : ∀ b, b ∈ a.roles ↔ b ∈ db.roleBindings ∧ b.projectId = r.manifest.projectId
  /-- They are the roles of the manifest. -/
  manifest : ∀ role, role ∈ a.roles.map RolePackBinding.roleId ↔ role ∈ manifestRoles r.manifest
  digests : ∀ b ∈ a.roles, b.manifestDigest = r.manifest.digest ∧
    b.flowReference = a.flowReference ∧ b.flowDigest = a.flowDigest
  /-- Exactly these roles are active. -/
  active : ∀ role, (∃ row ∈ db.roles, row.key = (r.manifest.projectId, role) ∧
    row.status = .active) ↔ role ∈ manifestRoles r.manifest
  /-- Each has its own queue, which is not paused. -/
  queues : ∀ role ∈ manifestRoles r.manifest,
    ⟨r.manifest.projectId, role, role, none, false⟩ ∈ db.queues
  /-- The queues of the other roles are paused. -/
  paused : ∀ q ∈ db.queues, q.projectId = r.manifest.projectId →
    q.roleId ∉ manifestRoles r.manifest → q.paused = true
  /-- The other roles keep no warm instance. -/
  cold : ∀ s ∈ db.policies, s.projectId = r.manifest.projectId →
    s.roleId ∉ manifestRoles r.manifest → s.minWarmInstances = 0

lemma activate_ok {r : RolePackRequest} {a : RolePackActivation}
    (h : activate r db = .ok (a, db')) :
    ∃ flow prepared mid, prepare r = .ok (flow, prepared) ∧
      (db.projects.lookup r.manifest.projectId).isSome ∧
      ProjectManifestStore.current r.manifest.projectId db.toManifestDb =
        some r.manifest.digest ∧
      ((db.roles.lookup (r.manifest.projectId, "project-manager")).isSome →
        "project-manager" ∈ prepared.map fun item => item.binding.roleId) ∧
      mid = retire r.manifest.projectId (prepared.map fun item => item.binding.roleId) db ∧
      Upserted (prepared.map PreparedRole.binding) mid db' ∧
      a = ⟨r.manifest.projectId, r.manifest.digest, r.flowReference, flow.digest,
        prepared.map PreparedRole.binding⟩ := by
  rw [activate, Tx.require_bind_ok, Tx.ofExcept_bind_ok] at h
  obtain ⟨-, ⟨flow, prepared⟩, hprepare, h⟩ := h
  simp only [activateIn, Tx.query_bind_ok, Tx.require_bind_ok, Tx.modify_bind_ok,
    Tx.attempt_bind_ok, Tx.pure_ok, Prod.mk.injEq] at h
  obtain ⟨hproject, hcurrent, hmanager, db₁, hupsert, rfl, rfl⟩ := h
  exact ⟨flow, prepared, _, hprepare, hproject, hcurrent, hmanager, rfl, upsertRoles_ok hupsert,
    rfl⟩

/-- What the rows of the other roles of a project become when a project gets new roles. -/
lemma Upserted.packed {r : RolePackRequest} {flow : FlowDefinition} {bs : List RolePackBinding}
    (h : Upserted bs (retire r.manifest.projectId (bs.map RolePackBinding.roleId) db) db')
    (hnodup : (bs.map RolePackBinding.roleId).Nodup) (hall : ∀ b ∈ bs, Prepared r flow b)
    (hroles : ∀ role, role ∈ bs.map RolePackBinding.roleId ↔ role ∈ manifestRoles r.manifest) :
    Packed r ⟨r.manifest.projectId, r.manifest.digest, r.flowReference, flow.digest, bs⟩ db' := by
  have hkeys : bs.map RolePackBinding.key =
      (bs.map RolePackBinding.roleId).map fun role => (r.manifest.projectId, role) := by
    rw [List.map_map]
    refine List.map_congr_left fun b hb => ?_
    rw [RolePackBinding.key, (hall b hb).project]
    rfl
  have hkeysNodup : (bs.map RolePackBinding.key).Nodup := by
    rw [hkeys]
    exact hnodup.map fun x y hxy => (Prod.mk.inj hxy).2
  have hmem : ∀ {role}, role ∈ bs.map RolePackBinding.roleId →
      (r.manifest.projectId, role) ∈ bs.map RolePackBinding.key := by
    intro role hrole
    rw [hkeys]
    exact List.mem_map_of_mem hrole
  have hroleKeys : (bs.map roleOf).map Role.key = bs.map RolePackBinding.key := by
    rw [List.map_map]
    rfl
  have hqueueKeys : (bs.map queueOf).map RoleQueue.key = bs.map RolePackBinding.key := by
    rw [List.map_map]
    rfl
  have hpolicyKeys : (bs.map policyOf).map ScalingPolicy.key = bs.map RolePackBinding.key := by
    rw [List.map_map]
    rfl
  constructor
  · intro b
    rw [h.roleBindings, Table.mem_putAll hkeysNodup]
    constructor
    · exact fun hb => ⟨Or.inl hb, (hall b hb).project⟩
    · rintro ⟨hb | ⟨hb, hkey⟩, hproject⟩
      · exact hb
      · -- a binding that was kept has a selected role, and was replaced
        obtain ⟨-, hkept⟩ := Table.mem_delete.1 hb
        have hselected : b.roleId ∈ bs.map RolePackBinding.roleId := by
          by_contra hnot
          exact hkept ⟨hproject, hnot⟩
        refine absurd ?_ hkey
        rw [RolePackBinding.key, hproject]
        exact hmem hselected
  · exact hroles
  · intro b hb
    exact ⟨(hall b hb).manifest, (hall b hb).flowReference, (hall b hb).flowDigest⟩
  · intro role
    rw [← hroles]
    constructor
    · rintro ⟨row, hrow, hkey, hactive⟩
      rw [h.roles, Table.mem_putAll (by rw [hroleKeys]; exact hkeysNodup), hroleKeys] at hrow
      rcases hrow with hrow | ⟨hrow, hnew⟩
      · obtain ⟨b, hb, rfl⟩ := List.mem_map.1 hrow
        rw [← (Prod.mk.inj hkey).2]
        exact List.mem_map_of_mem hb
      · obtain ⟨s, -, -, rfl⟩ | ⟨hs, hkept⟩ := Table.mem_update_cases hrow
        · exact absurd hactive (by simp)
        · by_contra hnot
          exact hkept ⟨(Prod.mk.inj hkey).1, by rw [(Prod.mk.inj hkey).2]; exact hnot⟩
    · intro hrole
      obtain ⟨b, hb, rfl⟩ := List.mem_map.1 hrole
      refine ⟨roleOf b, ?_, by rw [Role.key, roleOf, (hall b hb).project], rfl⟩
      rw [h.roles, Table.mem_putAll (by rw [hroleKeys]; exact hkeysNodup)]
      exact Or.inl (List.mem_map_of_mem hb)
  · intro role hrole
    obtain ⟨b, hb, rfl⟩ := List.mem_map.1 ((hroles role).2 hrole)
    rw [h.queues, Table.mem_putAll (by rw [hqueueKeys]; exact hkeysNodup), ← (hall b hb).project]
    exact Or.inl (List.mem_map_of_mem (f := queueOf) hb)
  · intro q hq hproject hrole
    rw [← hroles] at hrole
    rw [h.queues, Table.mem_putAll (by rw [hqueueKeys]; exact hkeysNodup)] at hq
    rcases hq with hq | ⟨hq, -⟩
    · obtain ⟨b, hb, rfl⟩ := List.mem_map.1 hq
      exact absurd (List.mem_map_of_mem hb) hrole
    · obtain ⟨s, -, -, rfl⟩ | ⟨-, hkept⟩ := Table.mem_update_cases hq
      · rfl
      · exact absurd ⟨hproject, hrole⟩ hkept
  · intro s hs hproject hrole
    rw [← hroles] at hrole
    rw [h.policies, Table.mem_putAll (by rw [hpolicyKeys]; exact hkeysNodup)] at hs
    rcases hs with hs | ⟨hs, -⟩
    · obtain ⟨b, hb, rfl⟩ := List.mem_map.1 hs
      exact absurd (List.mem_map_of_mem hb) hrole
    · obtain ⟨t, -, -, rfl⟩ | ⟨-, hkept⟩ := Table.mem_update_cases hs
      · rfl
      · exact absurd ⟨hproject, hrole⟩ hkept

/-- **An activation packs its project, whatever was there before.** -/
theorem packed_of_activate {r : RolePackRequest} {a : RolePackActivation}
    (h : activate r db = .ok (a, db')) : Packed r a db' := by
  obtain ⟨flow, prepared, mid, hprepare, -, -, -, rfl, hdone, rfl⟩ := activate_ok h
  obtain ⟨-, hnodup, hroles, hall⟩ := prepare_ok hprepare
  have hmap : prepared.map (fun item => item.binding.roleId) =
      (prepared.map PreparedRole.binding).map RolePackBinding.roleId := by
    rw [List.map_map]
    rfl
  rw [hmap] at hnodup hroles hdone
  refine hdone.packed hnodup (fun b hb => ?_) hroles
  obtain ⟨item, hitem, rfl⟩ := List.mem_map.1 hb
  exact hall item hitem

/-! ## The other projects -/

/-- The role pack of a project is left alone. -/
structure SamePack (p : String) (db db' : RolePackDb) : Prop where
  roleBindings : ∀ b : RolePackBinding, b.projectId = p →
    (b ∈ db'.roleBindings ↔ b ∈ db.roleBindings)
  roles : ∀ r : Role, r.projectId = p → (r ∈ db'.roles ↔ r ∈ db.roles)
  queues : ∀ q : RoleQueue, q.projectId = p → (q ∈ db'.queues ↔ q ∈ db.queues)
  policies : ∀ s : ScalingPolicy, s.projectId = p → (s ∈ db'.policies ↔ s ∈ db.policies)

/-- A row that belongs to none of the projects of an update and of the rows that are put. -/
lemma mem_putAll_update {Row Key : Type} {key : Row → Key} [DecidableEq Key] {t : Table Row key}
    {p : Row → Prop} [DecidablePred p] {f : Table.Assign key} {rs : List Row} {r : Row}
    (hnodup : (rs.map key).Nodup) (hkey : key r ∉ rs.map key) (hp : ∀ s, key s = key r → ¬ p s) :
    r ∈ (t.update p f).putAll rs ↔ r ∈ t := by
  rw [Table.mem_putAll hnodup]
  constructor
  · rintro (hr | ⟨hr, -⟩)
    · exact absurd (List.mem_map_of_mem hr) hkey
    · obtain ⟨s, -, hs, rfl⟩ | ⟨hr, -⟩ := Table.mem_update_cases hr
      · exact absurd hs (hp s (f.key_set s).symm)
      · exact hr
  · exact fun hr => Or.inr ⟨Table.mem_update_of_neg hr (hp r rfl), hkey⟩

lemma Upserted.samePack {r : RolePackRequest} {flow : FlowDefinition} {bs : List RolePackBinding}
    {selected : List String} {p : String}
    (h : Upserted bs (retire r.manifest.projectId selected db) db')
    (hnodup : (bs.map RolePackBinding.roleId).Nodup) (hall : ∀ b ∈ bs, Prepared r flow b)
    (hp : p ≠ r.manifest.projectId) : SamePack p db db' := by
  have hkeys : bs.map RolePackBinding.key =
      (bs.map RolePackBinding.roleId).map fun role => (r.manifest.projectId, role) := by
    rw [List.map_map]
    refine List.map_congr_left fun b hb => ?_
    rw [RolePackBinding.key, (hall b hb).project]
    rfl
  have hkeysNodup : (bs.map RolePackBinding.key).Nodup := by
    rw [hkeys]
    exact hnodup.map fun x y hxy => (Prod.mk.inj hxy).2
  have hother : ∀ id, (p, id) ∉ bs.map RolePackBinding.key := by
    intro id hmem
    rw [hkeys] at hmem
    obtain ⟨role, -, hrole⟩ := List.mem_map.1 hmem
    exact hp (Prod.mk.inj hrole).1.symm
  constructor
  · rintro b rfl
    rw [h.roleBindings, Table.mem_putAll hkeysNodup, retire, Table.mem_delete]
    constructor
    · rintro (hb | ⟨⟨hb, -⟩, -⟩)
      · exact absurd (hall b hb).project hp
      · exact hb
    · exact fun hb => Or.inr ⟨⟨hb, fun hproject => hp hproject.1⟩, hother b.roleId⟩
  · rintro row rfl
    have hroleKeys : (bs.map roleOf).map Role.key = bs.map RolePackBinding.key := by
      rw [List.map_map]
      rfl
    rw [h.roles]
    exact mem_putAll_update (by rw [hroleKeys]; exact hkeysNodup)
      (by rw [hroleKeys]; exact hother row.roleId)
      fun s hs hproject => hp ((Prod.mk.inj hs).1.symm.trans hproject.1)
  · rintro q rfl
    have hqueueKeys : (bs.map queueOf).map RoleQueue.key = bs.map RolePackBinding.key := by
      rw [List.map_map]
      rfl
    rw [h.queues]
    exact mem_putAll_update (by rw [hqueueKeys]; exact hkeysNodup)
      (by rw [hqueueKeys]; exact hother q.queueId)
      fun s hs hproject => hp ((Prod.mk.inj hs).1.symm.trans hproject.1)
  · rintro policy rfl
    have hpolicyKeys : (bs.map policyOf).map ScalingPolicy.key = bs.map RolePackBinding.key := by
      rw [List.map_map]
      rfl
    rw [h.policies]
    exact mem_putAll_update (by rw [hpolicyKeys]; exact hkeysNodup)
      (by rw [hpolicyKeys]; exact hother policy.roleId)
      fun s hs hproject => hp ((Prod.mk.inj hs).1.symm.trans hproject.1)

lemma samePack_of_activate {r : RolePackRequest} {a : RolePackActivation} {p : String}
    (h : activate r db = .ok (a, db')) (hp : p ≠ r.manifest.projectId) : SamePack p db db' := by
  obtain ⟨flow, prepared, mid, hprepare, -, -, -, rfl, hdone, rfl⟩ := activate_ok h
  obtain ⟨-, hnodup, -, hall⟩ := prepare_ok hprepare
  have hmap : prepared.map (fun item => item.binding.roleId) =
      (prepared.map PreparedRole.binding).map RolePackBinding.roleId := by
    rw [List.map_map]
    rfl
  refine @Upserted.samePack _ _ _ flow _ _ _ hdone (hmap ▸ hnodup) (fun b hb => ?_) hp
  obtain ⟨item, hitem, rfl⟩ := List.mem_map.1 hb
  exact hall item hitem

lemma manifests_of_activate {r : RolePackRequest} {a : RolePackActivation}
    (h : activate r db = .ok (a, db')) : db'.toManifestDb = db.toManifestDb := by
  obtain ⟨flow, prepared, mid, -, -, -, -, rfl, hdone, rfl⟩ := activate_ok h
  exact hdone.manifests

lemma Packed.same {r : RolePackRequest} {a : RolePackActivation} (h : Packed r a db)
    (hsame : SamePack r.manifest.projectId db db') : Packed r a db' := by
  refine ⟨fun b => ?_, h.manifest, h.digests, fun role => ?_, fun role hrole => ?_, ?_, ?_⟩
  · rw [h.bindings b]
    constructor
    · exact fun ⟨hb, hproject⟩ => ⟨(hsame.roleBindings b hproject).2 hb, hproject⟩
    · exact fun ⟨hb, hproject⟩ => ⟨(hsame.roleBindings b hproject).1 hb, hproject⟩
  · rw [← h.active role]
    constructor
    · rintro ⟨row, hrow, hkey, hactive⟩
      exact ⟨row, (hsame.roles row (Prod.mk.inj hkey).1).1 hrow, hkey, hactive⟩
    · rintro ⟨row, hrow, hkey, hactive⟩
      exact ⟨row, (hsame.roles row (Prod.mk.inj hkey).1).2 hrow, hkey, hactive⟩
  · exact (hsame.queues _ rfl).2 (h.queues role hrole)
  · exact fun q hq hproject => h.paused q ((hsame.queues q hproject).1 hq) hproject
  · exact fun s hs hproject => h.cold s ((hsame.policies s hproject).1 hs) hproject

/-! ## Runs -/

variable {lib : TextLibrary}

/-- What an event does to the role pack of a project: it is left alone, or packed again. -/
lemma step_cases (p : String) (e : RolePackEvent) :
    SamePack p db (step lib db e) ∨ ∃ r a, e = .activate r ∧ r.manifest.projectId = p ∧
      activate r db = .ok (a, step lib db e) := by
  cases e with
  | manifest e =>
    exact Or.inl ⟨fun _ _ => Iff.rfl, fun _ _ => Iff.rfl, fun _ _ => Iff.rfl, fun _ _ => Iff.rfl⟩
  | activate r =>
    cases hr : activate r db with
    | error e =>
      rw [show step lib db (.activate r) = db from Tx.commit_of_error hr]
      exact Or.inl ⟨fun _ _ => Iff.rfl, fun _ _ => Iff.rfl, fun _ _ => Iff.rfl, fun _ _ => Iff.rfl⟩
    | ok out =>
      obtain ⟨a, db'⟩ := out
      rw [show step lib db (.activate r) = db' from Tx.commit_of_ok hr]
      by_cases hp : p = r.manifest.projectId
      · exact Or.inr ⟨r, a, rfl, hp.symm, hr⟩
      · exact Or.inl (samePack_of_activate hr hp)

/-- No activation of a project commits in a run. -/
def NoActivation (lib : TextLibrary) (p : String) (db : RolePackDb) (es : List RolePackEvent) :
    Prop :=
  ∀ fs r gs, es = fs ++ .activate r :: gs → r.manifest.projectId = p →
    ∃ e, activate r (run (step lib) db fs) = .error e

lemma Packed.run {r : RolePackRequest} {a : RolePackActivation} {es : List RolePackEvent}
    (h : Packed r a db) (hnone : NoActivation lib r.manifest.projectId db es) :
    Packed r a (run (step lib) db es) := by
  induction es generalizing db with
  | nil => exact h
  | cons e es ih =>
    rw [run_cons]
    refine ih ?_ fun fs q gs hes hq => hnone (e :: fs) q gs (by rw [hes]; rfl) hq
    obtain hsame | ⟨q, b, rfl, hq, hok⟩ := @step_cases db lib r.manifest.projectId e
    · exact h.same hsame
    · obtain ⟨error, herror⟩ := hnone [] q es rfl hq
      rw [run_nil, hok] at herror
      exact absurd herror (by simp)

/-! ## What holds in every run -/

/-- The bindings of a project name one manifest and one flow. -/
def Agree (db : RolePackDb) : Prop :=
  ∀ b ∈ db.roleBindings, ∀ c ∈ db.roleBindings, b.projectId = c.projectId →
    b.manifestDigest = c.manifestDigest ∧
      (b.flowReference, b.flowDigest) = (c.flowReference, c.flowDigest)

lemma Packed.agree {r : RolePackRequest} {a : RolePackActivation} (h : Packed r a db)
    {b c : RolePackBinding} (hb : b ∈ db.roleBindings) (hc : c ∈ db.roleBindings)
    (hbp : b.projectId = r.manifest.projectId) (hcp : c.projectId = r.manifest.projectId) :
    b.manifestDigest = c.manifestDigest ∧
      (b.flowReference, b.flowDigest) = (c.flowReference, c.flowDigest) := by
  obtain ⟨hm, href, hd⟩ := h.digests b ((h.bindings b).2 ⟨hb, hbp⟩)
  obtain ⟨hm', href', hd'⟩ := h.digests c ((h.bindings c).2 ⟨hc, hcp⟩)
  rw [hm, hm', href, href', hd, hd']
  exact ⟨rfl, rfl⟩

lemma Agree.step (h : Agree db) (e : RolePackEvent) : Agree (step lib db e) := by
  intro b hb c hc hproject
  obtain hsame | ⟨r, a, rfl, hr, hok⟩ := @step_cases db lib b.projectId e
  · exact h b ((hsame.roleBindings b rfl).1 hb) c ((hsame.roleBindings c hproject.symm).1 hc)
      hproject
  · exact (packed_of_activate hok).agree hb hc hr.symm (hproject ▸ hr.symm)

lemma agree_run (es : List RolePackEvent) : Agree (run (step lib) {} es) :=
  invariant_run (fun _ e h => h.step e) (fun b hb => absurd hb (Table.notMem_empty b)) es

/-- Bindings that agree are never reported. -/
lemma get_of_agree (h : Agree db) (p : String) :
    get p db ≠ .error (.conflict "project role bindings disagree") := by
  have hraises : Check.Raises (· ≠ .conflict "project role bindings disagree") (get p db) := by
    refine (Check.raises_that (by decide)).bind fun _ => ?_
    simp only
    split
    · exact Check.raises_error (by decide)
    · next first rest hrows =>
      have hmem : ∀ b ∈ first :: rest, b ∈ db.roleBindings ∧ b.projectId = p := by
        intro b hb
        rw [← hrows, List.mem_insertionSort] at hb
        exact Table.mem_select.1 hb
      have hfirst := hmem first List.mem_cons_self
      rw [Check.that, if_pos]
      · exact Check.raises_ok
      · intro b hb
        have hother := hmem b (List.mem_cons_of_mem first hb)
        exact h b hother.1 first hfirst.1 (hother.2.trans hfirst.2.symm)
  exact fun hget => hraises _ hget rfl

/-- The project manager of a project is there. -/
structure Managed (p : String) (db : RolePackDb) : Prop where
  role : ∃ row ∈ db.roles, row.key = (p, "project-manager") ∧ row.status = .active
  binding : ∃ b ∈ db.roleBindings, b.key = (p, "project-manager")
  queue : ⟨p, "project-manager", "project-manager", none, false⟩ ∈ db.queues

lemma Packed.managed {r : RolePackRequest} {a : RolePackActivation} (h : Packed r a db)
    (hmanager : "project-manager" ∈ manifestRoles r.manifest) :
    Managed r.manifest.projectId db := by
  refine ⟨(h.active "project-manager").2 hmanager, ?_, h.queues "project-manager" hmanager⟩
  obtain ⟨b, hb, hrole⟩ := List.mem_map.1 ((h.manifest "project-manager").2 hmanager)
  obtain ⟨hmem, hproject⟩ := (h.bindings b).1 hb
  exact ⟨b, hmem, by rw [RolePackBinding.key, hproject, hrole]⟩

lemma Managed.step {p : String} (h : Managed p db) (e : RolePackEvent) :
    Managed p (step lib db e) := by
  obtain hsame | ⟨r, a, rfl, rfl, hok⟩ := @step_cases db lib p e
  · obtain ⟨row, hrow, hkey, hactive⟩ := h.role
    obtain ⟨b, hb, hbkey⟩ := h.binding
    exact ⟨⟨row, (hsame.roles row (Prod.mk.inj hkey).1).2 hrow, hkey, hactive⟩,
      ⟨b, (hsame.roleBindings b (Prod.mk.inj hbkey).1).2 hb, hbkey⟩,
      (hsame.queues _ rfl).2 h.queue⟩
  · refine (packed_of_activate hok).managed ?_
    obtain ⟨flow, prepared, mid, hprepare, -, -, hguard, -⟩ := activate_ok hok
    obtain ⟨row, hrow, hkey, -⟩ := h.role
    refine ((prepare_ok hprepare).2.2.1 _).1 (hguard ?_)
    rw [← hkey, Table.lookup_mem hrow]
    rfl

end RolePack

end AgenticMesh
