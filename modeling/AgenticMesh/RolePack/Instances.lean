import AgenticMesh.RolePack.Consistency
import Mathlib

/-!
# The instances of role packs

The identifier of an instance joins its project, its role and its number.  The
parts are read back from it, so that no two instances share an identifier.  It may
be longer than the identifiers that the stores accept, and then the instance cannot
write its progress.
-/

namespace AgenticMesh

namespace RolePack

variable {lib : TextLibrary} {db db' : RolePackDb}

/-! ## Identifiers -/

lemma toList_instanceId (p role : String) (n : ℕ) : (instanceId p role n).toList =
    p.toList ++ '.' :: (role.toList ++ '.' :: (decimal n).toList) := by
  simp [instanceId]

/-- The parts of an identifier are read back from it. -/
lemma instanceId_injective {p q role role' : String} {m n : ℕ} (hp : '.' ∉ p.toList)
    (hq : '.' ∉ q.toList) (hrole : '.' ∉ role.toList) (hrole' : '.' ∉ role'.toList)
    (h : instanceId p role m = instanceId q role' n) : p = q ∧ role = role' ∧ m = n := by
  have hlist := congrArg String.toList h
  rw [toList_instanceId, toList_instanceId] at hlist
  obtain ⟨hproject, hrest⟩ := split_first hlist hp hq
  obtain ⟨hroles, hnumber⟩ := split_first hrest hrole hrole'
  exact ⟨String.toList_inj.1 hproject, String.toList_inj.1 hroles, decimal_injective hnumber⟩

lemma dot_notMem_of_isSlug {s : String} (h : isSlug s = true) : '.' ∉ s.toList :=
  notMem_of_fullmatch h (by decide) (by decide)

lemma dot_notMem_of_isRoleId {s : String} (h : isRoleId s = true) : '.' ∉ s.toList :=
  notMem_of_fullmatch h (by decide) (by decide)

/-- A text that is matched has only characters of the classes. -/
lemma isIdentifierChar_of_fullmatch {first rest : Char → Bool} {n : ℕ} {s : String}
    (h : fullmatch first rest n s = true) (hfirst : ∀ c, first c = true → isIdentifierChar c = true)
    (hrest : ∀ c, rest c = true → isIdentifierChar c = true) :
    ∀ c ∈ s.toList, isIdentifierChar c = true := by
  unfold fullmatch at h
  cases hs : s.toList with
  | nil => simp
  | cons d ds =>
    simp only [hs, Bool.and_eq_true, List.all_eq_true] at h
    exact List.forall_mem_cons.2 ⟨hfirst d h.1.1, fun c hc => hrest c (h.2 c hc)⟩

lemma isIdentifierChar_of_isSlugStart {c : Char} (h : isSlugStart c = true) :
    isIdentifierChar c = true := by
  simp only [isSlugStart, Bool.or_eq_true] at h
  have halpha : c.isAlphanum = true := h.elim isAlphanum_of_isDigit isAlphanum_of_isLower
  simp [isIdentifierChar, halpha]

lemma isIdentifierChar_of_slugRest {c : Char} (h : (isSlugStart c || c == '-') = true) :
    isIdentifierChar c = true := by
  rcases Bool.or_eq_true _ _ ▸ h with h | h
  · exact isIdentifierChar_of_isSlugStart h
  · simp [isIdentifierChar, h]

/-- The identifier of an instance is over the alphabet of identifiers. -/
lemma isIdentifierChar_of_mem_instanceId {p role : String} {n : ℕ} (hp : isSlug p = true)
    (hrole : isRoleId role = true) : ∀ c ∈ (instanceId p role n).toList,
      isIdentifierChar c = true := by
  intro c hc
  simp only [toList_instanceId, List.mem_append, List.mem_cons] at hc
  rcases hc with hc | rfl | hc | rfl | hc
  · exact isIdentifierChar_of_fullmatch hp (fun _ => isIdentifierChar_of_isSlugStart)
      (fun _ => isIdentifierChar_of_slugRest) c hc
  · rfl
  · refine isIdentifierChar_of_fullmatch hrole (fun d hd => ?_)
      (fun _ => isIdentifierChar_of_slugRest) c hc
    exact isIdentifierChar_of_isSlugStart (by simp [isSlugStart, hd])
  · rfl
  · exact isIdentifierChar_of_isSlugStart (by simp [isSlugStart, isDigit_of_mem_decimal hc])

/-! ## Accepted identifiers -/

/-- The stores of progress and of usage accept the identifier of an instance. -/
def Accepted (sensitive : String → Bool) (id : String) : Prop :=
  Teams.progressIdentifier sensitive id "role_instance_id" = .ok id ∧ identifier id = some id

/-- A text over the alphabet of identifiers is accepted if it is short and not restricted. -/
lemma accepted_iff {sensitive : String → Bool} {id : String} (hne : id ≠ "")
    (hchars : ∀ c ∈ id.toList, isIdentifierChar c = true) :
    Accepted sensitive id ↔ id.toList.length ≤ 128 ∧ sensitive id = false := by
  have hstrip : strip id = id :=
    strip_eq_self fun c hc => isSpace_eq_false_of_isIdentifierChar (hchars c hc)
  have hpos : 1 ≤ id.toList.length := by
    refine List.length_pos_iff.2 fun hnil => hne ?_
    exact String.toList_inj.1 hnil
  have hall : id.toList.all isIdentifierChar = true := List.all_eq_true.2 hchars
  constructor
  · rintro ⟨h, -⟩
    simp only [Teams.progressIdentifier, Check.bind_ok] at h
    obtain ⟨s, hs, -⟩ := h
    unfold Teams.requiredText at hs
    split at hs
    · next hlength =>
      split at hs
      · next hsafe => exact ⟨hstrip ▸ hlength.2, hstrip ▸ hsafe⟩
      · simp at hs
    · simp at hs
  · rintro ⟨hlength, hsafe⟩
    have hid : isIdentifier id = true := by
      simp [isIdentifier, hpos, hlength, hall]
    refine ⟨?_, identifier_of_isIdentifier hid⟩
    simp only [Teams.progressIdentifier, Check.bind_ok, Check.that_ok, Check.pure_ok]
    refine ⟨⟨id, hstrip, hne, hlength, hsafe⟩, ?_, (), hid, rfl⟩
    unfold Teams.requiredText
    rw [dif_pos ⟨by rw [hstrip]; exact hne, by rw [hstrip]; exact hlength⟩,
      dif_pos (by rw [hstrip]; exact hsafe)]
    simp [hstrip]

/-- The digits of a number are at most those of a larger one. -/
lemma length_decimal_mono {m n : ℕ} (h : m ≤ n) :
    (decimal m).toList.length ≤ (decimal n).toList.length := by
  have hpos : 0 < (decimal n).toList.length := by
    rw [toList_decimal]
    exact Nat.length_toDigits_pos
  rw [toList_decimal m, Nat.length_toDigits_le_iff (by decide) hpos]
  refine lt_of_le_of_lt h ((Nat.length_toDigits_le_iff (by decide) hpos).1 ?_)
  rw [toList_decimal n]

/-- The longest identifier of the instances of a role. -/
def nameLength (b : RolePackBinding) : ℕ :=
  b.projectId.toList.length + b.roleId.toList.length +
    (decimal b.maximumInstances.toNat).toList.length + 2

lemma length_instanceId (p role : String) (n : ℕ) : (instanceId p role n).toList.length =
    p.toList.length + role.toList.length + (decimal n).toList.length + 2 := by
  rw [toList_instanceId]
  simp only [List.length_append, List.length_cons]
  omega

lemma mem_instanceIds {b : RolePackBinding} {id : String} : id ∈ instanceIds b ↔
    ∃ n, 1 ≤ n ∧ n ≤ b.maximumInstances.toNat ∧ id = instanceId b.projectId b.roleId n := by
  simp only [instanceIds, List.mem_map, List.mem_range]
  constructor
  · rintro ⟨index, hindex, rfl⟩
    exact ⟨index + 1, by omega, by omega, rfl⟩
  · rintro ⟨n, hpos, hn, rfl⟩
    exact ⟨n - 1, by omega, by rw [Nat.sub_add_cancel hpos]⟩

/-- The instances of a role are accepted if the last one is, but for restricted content. -/
lemma accepted_instances {sensitive : String → Bool} {b : RolePackBinding}
    (hp : isSlug b.projectId = true) (hrole : isRoleId b.roleId = true)
    (hmax : 1 ≤ b.maximumInstances) : (∀ id ∈ instanceIds b, Accepted sensitive id) ↔
      nameLength b ≤ 128 ∧ ∀ id ∈ instanceIds b, sensitive id = false := by
  have hiff : ∀ id ∈ instanceIds b,
      (Accepted sensitive id ↔ id.toList.length ≤ 128 ∧ sensitive id = false) := by
    intro id hid
    obtain ⟨n, -, -, rfl⟩ := mem_instanceIds.1 hid
    refine accepted_iff (fun h => ?_) (isIdentifierChar_of_mem_instanceId hp hrole)
    have hlength := congrArg (fun s : String => s.toList.length) h
    simp only [length_instanceId] at hlength
    exact absurd hlength (by simp)
  have hlast : instanceId b.projectId b.roleId b.maximumInstances.toNat ∈ instanceIds b :=
    mem_instanceIds.2 ⟨_, by omega, le_rfl, rfl⟩
  constructor
  · intro h
    refine ⟨?_, fun id hid => ((hiff id hid).1 (h id hid)).2⟩
    have hlength := ((hiff _ hlast).1 (h _ hlast)).1
    rwa [length_instanceId] at hlength
  · rintro ⟨hlength, hsafe⟩ id hid
    refine (hiff id hid).2 ⟨?_, hsafe id hid⟩
    obtain ⟨n, -, hn, rfl⟩ := mem_instanceIds.1 hid
    have hdigits := length_decimal_mono hn
    rw [length_instanceId]
    rw [nameLength] at hlength
    omega

/-! ## Rows -/

/-- A role has an instance. -/
def HasInstance (t : Table RoleInstance RoleInstance.key) (p role id : String) : Prop :=
  ∃ i ∈ t, i.projectId = p ∧ i.roleId = role ∧ i.instanceId = id

/-- The identifier of an instance joins its project, its role and its number. -/
structure Named (i : RoleInstance) : Prop where
  project : '.' ∉ i.projectId.toList
  role : '.' ∉ i.roleId.toList
  name : ∃ n, i.instanceId = instanceId i.projectId i.roleId n

section Rows

variable {t : Table RoleInstance RoleInstance.key} {p role : String}

/-- An instance that is there keeps its role, since its identifier names it. -/
lemma mem_putInstance {n : ℕ} (ht : ∀ i ∈ t, Named i) (hp : '.' ∉ p.toList)
    (hrole : '.' ∉ role.toList) {s : RoleInstance} :
    s ∈ putInstance p role t (instanceId p role n) ↔ s ∈ t ∨
      s = ⟨p, instanceId p role n, role, .configured⟩ ∧
      t.lookup (p, instanceId p role n) = none := by
  rw [Table.mem_iff_lookup, putInstance, Table.lookup_upsert]
  cases hfound : t.lookup (p, instanceId p role n) with
  | none =>
    split
    · next hkey =>
      change (p, instanceId p role n) = s.key at hkey
      rw [← hkey, hfound, Option.elim_none, Option.some.injEq]
      constructor
      · exact fun h => Or.inr ⟨h.symm, rfl⟩
      · rintro (hs | ⟨hs, -⟩)
        · rw [Table.mem_iff_lookup, ← hkey, hfound] at hs
          cases hs
        · exact hs.symm
    · next hkey =>
      rw [← Table.mem_iff_lookup]
      constructor
      · exact Or.inl
      · rintro (hs | ⟨rfl, -⟩)
        · exact hs
        · exact absurd rfl hkey
  | some u =>
    obtain ⟨hu, hukey⟩ := Table.lookup_eq_some.1 hfound
    have hsame : { u with roleId := role } = u := by
      obtain ⟨hproject, hid⟩ := Prod.mk.inj hukey
      obtain ⟨m, hm⟩ := (ht u hu).name
      have hrole' := (instanceId_injective (ht u hu).project hp (ht u hu).role hrole
        (hm.symm.trans hid)).2.1
      rw [← hrole']
    split
    · next hkey =>
      change (p, instanceId p role n) = s.key at hkey
      rw [← hkey, hfound, Option.elim_some]
      constructor
      · intro h
        obtain rfl : u = s := hsame.symm.trans (Option.some.inj h)
        exact Or.inl hu
      · rintro (hs | ⟨-, hnone⟩)
        · rw [Table.mem_iff_lookup, ← hkey, hfound] at hs
          rw [← Option.some.inj hs]
          exact congrArg some hsame
        · cases hnone
    · rw [← Table.mem_iff_lookup]
      refine ⟨Or.inl, fun h => h.resolve_right fun hnone => ?_⟩
      cases hnone.2

lemma named_putInstance {n : ℕ} (ht : ∀ i ∈ t, Named i) (hp : '.' ∉ p.toList)
    (hrole : '.' ∉ role.toList) : ∀ i ∈ putInstance p role t (instanceId p role n), Named i := by
  intro i hi
  obtain hi | ⟨rfl, -⟩ := (mem_putInstance ht hp hrole).1 hi
  · exact ht i hi
  · exact ⟨hp, hrole, n, rfl⟩

lemma hasInstance_putInstance {n : ℕ} (ht : ∀ i ∈ t, Named i) (hp : '.' ∉ p.toList)
    (hrole : '.' ∉ role.toList) {q role' id : String} :
    HasInstance (putInstance p role t (instanceId p role n)) q role' id ↔
      HasInstance t q role' id ∨ q = p ∧ role' = role ∧ id = instanceId p role n := by
  constructor
  · rintro ⟨i, hi, rfl, rfl, rfl⟩
    obtain hi | ⟨rfl, -⟩ := (mem_putInstance ht hp hrole).1 hi
    · exact Or.inl ⟨i, hi, rfl, rfl, rfl⟩
    · exact Or.inr ⟨rfl, rfl, rfl⟩
  · rintro (⟨i, hi, rfl, rfl, rfl⟩ | ⟨rfl, rfl, rfl⟩)
    · exact ⟨i, (mem_putInstance ht hp hrole).2 (Or.inl hi), rfl, rfl, rfl⟩
    · cases hfound : t.lookup (q, instanceId q role' n) with
      | none => exact ⟨_, (mem_putInstance ht hp hrole).2 (Or.inr ⟨rfl, hfound⟩), rfl, rfl, rfl⟩
      | some u =>
        obtain ⟨hu, hukey⟩ := Table.lookup_eq_some.1 hfound
        obtain ⟨hproject, hid⟩ := Prod.mk.inj hukey
        obtain ⟨m, hm⟩ := (ht u hu).name
        have hrole' := (instanceId_injective (ht u hu).project hp (ht u hu).role hrole
          (hm.symm.trans hid)).2.1
        exact ⟨u, (mem_putInstance ht hp hrole).2 (Or.inl hu), hproject, hrole', hid⟩

lemma putInstances_spec {b : RolePackBinding} (ht : ∀ i ∈ t, Named i)
    (hp : '.' ∉ b.projectId.toList) (hrole : '.' ∉ b.roleId.toList) :
    (∀ i ∈ putInstances t b, Named i) ∧ ∀ {q role' id : String},
      HasInstance (putInstances t b) q role' id ↔ HasInstance t q role' id ∨
        b.projectId = q ∧ b.roleId = role' ∧ id ∈ instanceIds b := by
  unfold putInstances instanceIds
  generalize List.range b.maximumInstances.toNat = numbers
  induction numbers generalizing t with
  | nil => simpa using ht
  | cons index numbers ih =>
    obtain ⟨hnamed, hhas⟩ := ih (named_putInstance (n := index + 1) ht hp hrole)
    refine ⟨hnamed, fun {q role' id} => ?_⟩
    rw [List.map_cons, List.foldl_cons, hhas, hasInstance_putInstance ht hp hrole, List.mem_cons]
    constructor
    · rintro ((h | ⟨rfl, rfl, rfl⟩) | ⟨rfl, rfl, h⟩)
      · exact Or.inl h
      · exact Or.inr ⟨rfl, rfl, Or.inl rfl⟩
      · exact Or.inr ⟨rfl, rfl, Or.inr h⟩
    · rintro (h | ⟨rfl, rfl, rfl | h⟩)
      · exact Or.inl (Or.inl h)
      · exact Or.inl (Or.inr ⟨rfl, rfl, rfl⟩)
      · exact Or.inr ⟨rfl, rfl, h⟩

/-- The instances after some roles are those from before and those of the roles. -/
lemma putAllInstances_spec {bs : List RolePackBinding} (ht : ∀ i ∈ t, Named i)
    (hbs : ∀ b ∈ bs, '.' ∉ b.projectId.toList ∧ '.' ∉ b.roleId.toList) :
    (∀ i ∈ bs.foldl putInstances t, Named i) ∧ ∀ {q role' id : String},
      HasInstance (bs.foldl putInstances t) q role' id ↔ HasInstance t q role' id ∨
        ∃ b ∈ bs, b.projectId = q ∧ b.roleId = role' ∧ id ∈ instanceIds b := by
  induction bs generalizing t with
  | nil => simpa using ht
  | cons b bs ih =>
    obtain ⟨hb, hrest⟩ := List.forall_mem_cons.1 hbs
    obtain ⟨hnamed, hhas⟩ := putInstances_spec ht hb.1 hb.2
    obtain ⟨hnamed', hhas'⟩ := ih hnamed hrest
    refine ⟨hnamed', fun {q role' id} => ?_⟩
    rw [List.foldl_cons, hhas', hhas, List.exists_mem_cons_iff, or_assoc]

end Rows

/-! ## Runs -/

/-- What holds of the manifests and the instances in every run. -/
structure PackInv (lib : TextLibrary) (db : RolePackDb) : Prop where
  manifests : ProjectManifestStore.ManifestInv lib db.toManifestDb
  backed : ProjectManifestStore.Backed lib db.toManifestDb
  named : ∀ i ∈ db.instances, Named i

/-- A role pack is activated for a project whose manifest is active, and so is its identifier
valid. -/
lemma PackInv.project {r : RolePackRequest} {a : RolePackActivation} (hinv : PackInv lib db)
    (h : activate r db = .ok (a, db')) : isSlug r.manifest.projectId = true := by
  obtain ⟨flow, prepared, mid, -, -, hcurrent, -⟩ := activate_ok h
  obtain ⟨row, hrow, -⟩ := Option.map_eq_some_iff.1 hcurrent
  obtain ⟨hmem, hkey⟩ := Table.lookup_eq_some.1 hrow
  obtain ⟨m, p, hm, hproject, -⟩ := hinv.backed row hmem
  have hslug := (ProjectManifestStore.Active.fixed hinv.manifests hm).1.project
  rwa [hproject, show row.projectId = r.manifest.projectId from hkey] at hslug

/-- A binding that an activation writes. -/
structure Valid (b : RolePackBinding) : Prop where
  project : isSlug b.projectId = true
  role : isRoleId b.roleId = true
  instances : 1 ≤ b.maximumInstances

lemma valid_of_activate {r : RolePackRequest} {a : RolePackActivation} (hinv : PackInv lib db)
    (h : activate r db = .ok (a, db')) : ∀ b ∈ a.roles, Valid b := by
  have hslug := hinv.project h
  obtain ⟨flow, prepared, mid, hprepare, -, -, -, -, -, rfl⟩ := activate_ok h
  intro b hb
  obtain ⟨item, hitem, rfl⟩ := List.mem_map.1 hb
  have hprepared := (prepare_ok hprepare).2.2.2 item hitem
  exact ⟨by rw [hprepared.project]; exact hslug, hprepared.role, hprepared.instances.1⟩

/-- The instances after an activation are those from before and those of its roles. -/
lemma instances_of_activate {r : RolePackRequest} {a : RolePackActivation}
    (hinv : PackInv lib db) (h : activate r db = .ok (a, db')) :
    (∀ i ∈ db'.instances, Named i) ∧ ∀ {q role id : String},
      HasInstance db'.instances q role id ↔ HasInstance db.instances q role id ∨
        ∃ b ∈ a.roles, b.projectId = q ∧ b.roleId = role ∧ id ∈ instanceIds b := by
  have hvalid := valid_of_activate hinv h
  obtain ⟨flow, prepared, mid, -, -, -, -, rfl, hdone, rfl⟩ := activate_ok h
  rw [hdone.instances]
  exact putAllInstances_spec hinv.named fun b hb =>
    ⟨dot_notMem_of_isSlug (hvalid b hb).project, dot_notMem_of_isRoleId (hvalid b hb).role⟩

lemma PackInv.step (h : PackInv lib db) (e : RolePackEvent) : PackInv lib (step lib db e) := by
  cases e with
  | manifest e => exact ⟨h.manifests.step, h.backed.step, h.named⟩
  | activate r =>
    cases hr : activate r db with
    | error e =>
      rw [show RolePack.step lib db (.activate r) = db from Tx.commit_of_error hr]
      exact h
    | ok out =>
      obtain ⟨a, db'⟩ := out
      rw [show RolePack.step lib db (.activate r) = db' from Tx.commit_of_ok hr]
      have hsame := manifests_of_activate hr
      exact ⟨hsame ▸ h.manifests, hsame ▸ h.backed, (instances_of_activate h hr).1⟩

lemma PackInv.empty : PackInv lib {} :=
  ⟨ProjectManifestStore.ManifestInv.empty, fun a ha => absurd ha (Table.notMem_empty a),
    fun i hi => absurd hi (Table.notMem_empty i)⟩

/-- An activation of a run bound a role. -/
def Created (lib : TextLibrary) (db : RolePackDb) (es : List RolePackEvent) (b : RolePackBinding) :
    Prop :=
  ∃ fs r gs a db', es = fs ++ .activate r :: gs ∧
    activate r (run (step lib) db fs) = .ok (a, db') ∧ b ∈ a.roles

lemma created_cons {e : RolePackEvent} {es : List RolePackEvent} {b : RolePackBinding} :
    Created lib db (e :: es) b ↔
      (∃ r a db', e = .activate r ∧ activate r db = .ok (a, db') ∧ b ∈ a.roles) ∨
        Created lib (step lib db e) es b := by
  constructor
  · rintro ⟨fs, r, gs, a, db', hes, hok, hb⟩
    cases fs with
    | nil =>
      obtain ⟨rfl, rfl⟩ := List.cons.inj hes
      exact Or.inl ⟨r, a, db', rfl, hok, hb⟩
    | cons f fs =>
      obtain ⟨rfl, rfl⟩ := List.cons.inj hes
      exact Or.inr ⟨fs, r, gs, a, db', rfl, hok, hb⟩
  · rintro (⟨r, a, db', rfl, hok, hb⟩ | ⟨fs, r, gs, a, db', rfl, hok, hb⟩)
    · exact ⟨[], r, es, a, db', rfl, hok, hb⟩
    · exact ⟨e :: fs, r, gs, a, db', rfl, hok, hb⟩

lemma Created.valid {es : List RolePackEvent} {b : RolePackBinding} (hinv : PackInv lib db)
    (h : Created lib db es b) : Valid b := by
  obtain ⟨fs, r, gs, a, db', -, hok, hb⟩ := h
  have hfs : PackInv lib (run (step lib) db fs) :=
    invariant_run (I := PackInv lib) (fun _ e hs => hs.step e) hinv fs
  exact valid_of_activate hfs hok b hb

/-- The instances after a run are those from before and those of the roles that were bound. -/
lemma hasInstance_run {es : List RolePackEvent} (hinv : PackInv lib db) {q role id : String} :
    HasInstance (run (step lib) db es).instances q role id ↔ HasInstance db.instances q role id ∨
      ∃ b, Created lib db es b ∧ b.projectId = q ∧ b.roleId = role ∧ id ∈ instanceIds b := by
  induction es generalizing db with
  | nil =>
    have hnone : ∀ b, ¬ Created lib db [] b := by
      rintro b ⟨fs, r, gs, a, db', hes, -⟩
      simp at hes
    simp [hnone]
  | cons e es ih =>
    rw [run_cons, ih (hinv.step e)]
    simp only [created_cons]
    cases e with
    | manifest e =>
      refine or_congr Iff.rfl (exists_congr fun b => and_congr_left fun _ => ?_)
      constructor
      · exact Or.inr
      · rintro (⟨r, a, db', he, -⟩ | hb)
        · cases he
        · exact hb
    | activate r =>
      cases hr : activate r db with
      | error error =>
        have hstep : step lib db (.activate r) = db := Tx.commit_of_error hr
        rw [hstep]
        refine or_congr Iff.rfl (exists_congr fun b => and_congr_left fun _ => ?_)
        constructor
        · exact Or.inr
        · rintro (⟨r', a, db', he, hok, -⟩ | hb)
          · obtain rfl := RolePackEvent.activate.inj he
            rw [hr] at hok
            cases hok
          · exact hb
      | ok out =>
        obtain ⟨a, db'⟩ := out
        have hstep : step lib db (.activate r) = db' := Tx.commit_of_ok hr
        rw [hstep, (instances_of_activate hinv hr).2, or_assoc]
        refine or_congr Iff.rfl ?_
        constructor
        · rintro (⟨b, hb, hkey⟩ | ⟨b, hb, hkey⟩)
          · exact ⟨b, Or.inl ⟨r, a, db', rfl, hr, hb⟩, hkey⟩
          · exact ⟨b, Or.inr hb, hkey⟩
        · rintro ⟨b, ⟨r', a', db₁, he, hok, hb⟩ | hb, hkey⟩
          · obtain rfl := RolePackEvent.activate.inj he
            rw [hr] at hok
            obtain ⟨rfl, -⟩ := Prod.mk.inj (Except.ok.inj hok)
            exact Or.inl ⟨b, hb, hkey⟩
          · exact Or.inr ⟨b, hb, hkey⟩

/-! ## Role packs in every run -/

/-- The role packs of a run are consistent. -/
structure RolePackRuns (lib : TextLibrary) (es : List RolePackEvent) : Prop where
  /-- The roles of a project are those of its last activation. -/
  packed : ∀ fs r gs a db', es = fs ++ .activate r :: gs →
    activate r (run (step lib) {} fs) = .ok (a, db') →
    NoActivation lib r.manifest.projectId db' gs → Packed r a (run (step lib) {} es)
  agree : ∀ p, get p (run (step lib) {} es) ≠
    .error (.conflict "project role bindings disagree")
  /-- A project manager stays. -/
  managed : ∀ fs gs p, es = fs ++ gs → Managed p (run (step lib) {} fs) →
    Managed p (run (step lib) {} es)
  /-- Different roles and different numbers have different instances. -/
  distinct : ∀ b c, Created lib {} es b → Created lib {} es c → ∀ m n,
    instanceId b.projectId b.roleId m = instanceId c.projectId c.roleId n →
      b.projectId = c.projectId ∧ b.roleId = c.roleId ∧ m = n
  /-- The instances are those of the roles that were bound. -/
  instances : ∀ p role id, HasInstance (run (step lib) {} es).instances p role id ↔
    ∃ b, Created lib {} es b ∧ b.projectId = p ∧ b.roleId = role ∧ id ∈ instanceIds b

lemma rolePackRuns (lib : TextLibrary) (es : List RolePackEvent) : RolePackRuns lib es := by
  refine ⟨?_, get_of_agree (agree_run es), ?_, ?_, fun p role id => ?_⟩
  · rintro fs r gs a db' rfl hok hnone
    have hstep : step lib (run (step lib) {} fs) (.activate r) = db' := Tx.commit_of_ok hok
    rw [run_append, run_cons, hstep]
    exact (packed_of_activate hok).run hnone
  · rintro fs gs p rfl h
    rw [run_append]
    exact invariant_run (I := Managed p) (fun _ e hs => hs.step e) h gs
  · intro b c hb hc m n h
    have hbvalid := hb.valid PackInv.empty
    have hcvalid := hc.valid PackInv.empty
    exact instanceId_injective (dot_notMem_of_isSlug hbvalid.project)
      (dot_notMem_of_isSlug hcvalid.project) (dot_notMem_of_isRoleId hbvalid.role)
      (dot_notMem_of_isRoleId hcvalid.role) h
  · rw [hasInstance_run PackInv.empty]
    refine or_iff_right ?_
    rintro ⟨i, hi, -⟩
    exact absurd hi (Table.notMem_empty i)

/-- The instances of the roles that a run bound are accepted if all of them have short names. -/
lemma accepted_run {sensitive : String → Bool} {es : List RolePackEvent} :
    (∀ i ∈ (run (step lib) {} es).instances, Accepted sensitive i.instanceId) ↔
      ∀ b, Created lib {} es b →
        nameLength b ≤ 128 ∧ ∀ id ∈ instanceIds b, sensitive id = false := by
  have hrows := (rolePackRuns lib es).instances
  have hiff : ∀ b, Created lib {} es b → ((∀ id ∈ instanceIds b, Accepted sensitive id) ↔
      nameLength b ≤ 128 ∧ ∀ id ∈ instanceIds b, sensitive id = false) := by
    intro b hb
    have hvalid := hb.valid PackInv.empty
    exact accepted_instances hvalid.project hvalid.role hvalid.instances
  constructor
  · intro h b hb
    refine (hiff b hb).1 fun id hid => ?_
    obtain ⟨i, hi, -, -, rfl⟩ := (hrows _ _ id).2 ⟨b, hb, rfl, rfl, hid⟩
    exact h i hi
  · intro h i hi
    obtain ⟨b, hb, -, -, hid⟩ := (hrows _ _ _).1 ⟨i, hi, rfl, rfl, rfl⟩
    exact (hiff b hb).2 (h b hb) i.instanceId hid

/-- **Role packs.**  In every run the roles of a project are those of its last activation, and
their instances have identifiers of their own; the stores accept all of these exactly when the
identifiers of every project and role that were bound are short enough, and the joined
identifiers are not restricted content. -/
theorem role_packs_iff (lib : TextLibrary) (sensitive : String → Bool) (es : List RolePackEvent) :
    RolePackRuns lib es ∧
      ((∀ i ∈ (run (step lib) {} es).instances, Accepted sensitive i.instanceId) ↔
        ∀ b, Created lib {} es b →
          nameLength b ≤ 128 ∧ ∀ id ∈ instanceIds b, sensitive id = false) :=
  ⟨rolePackRuns lib es, accepted_run⟩

/-! ## A project with a long name -/

lemma isHexDigit_hexDigit : ∀ n < 16, isHexDigit (Sha256.hexDigit n) = true := by decide

lemma isDigest_sha256Hex (s : String) : isDigest (sha256Hex s) = true := by
  simp only [isDigest, Bool.and_eq_true, beq_iff_eq, List.all_eq_true]
  refine ⟨length_sha256Hex s, fun c hc => ?_⟩
  obtain ⟨n, hn, rfl⟩ := mem_sha256Hex hc
  exact isHexDigit_hexDigit n hn

lemma isDigest_of_resolve {root : MountedRepository} {references : List String}
    {c : ResolvedConfiguration} (h : PackageResolver.resolvePackages root references = .ok c) :
    isDigest c.digest = true := by
  simp only [PackageResolver.resolvePackages, Check.bind_ok] at h
  obtain ⟨_, -, h⟩ := h
  split at h
  · cases h
  · simp only [Check.bind_ok, Check.pure_ok] at h
    obtain ⟨roots, -, found, -, rfl⟩ := h
    exact isDigest_sha256Hex _

/-- The digest of a flow is kept as it is. -/
lemma validate_digest {value : Json} {d e : String} {f : FlowDefinition}
    (h : Flow.validate value d = .ok f) (he : isDigest e = true) :
    Flow.validate value e = .ok { f with digest := e } := by
  have hdigest : e.toList.length = 64 ∧ e.toList.all fun c =>
      c.isDigit || ('a' ≤ c && c ≤ 'f') := by
    simpa [isDigest, isHexDigit] using he
  simp only [Flow.validate, Check.bind_ok, Check.that_ok, Check.pure_ok] at h ⊢
  obtain ⟨u, h₁, flowId, h₂, leader, h₃, entry, h₄, terminals, h₅, raw, h₆, u', h₇, states, h₈, u'',
    h₉, v, h₁₀, v', h₁₁, v'', h₁₂, w, -, rfl⟩ := h
  exact ⟨u, h₁, flowId, h₂, leader, h₃, entry, h₄, terminals, h₅, raw, h₆, u', h₇, states, h₈, u'',
    h₉, v, h₁₀, v', h₁₁, v'', h₁₂, (), hdigest, rfl⟩

/-- A role is prepared in the same way for every manifest that gives it an application, and for
flows with the same entry. -/
lemma prepareRole_of_manifest {r : RolePackRequest} {flow flow' : FlowDefinition}
    {entry : String × Json} {item : PreparedRole} {manifest : ProjectManifest}
    {application : String} (h : prepareRole r flow entry = .ok item)
    (hentry : flow'.entryState = flow.entryState)
    (happlication : applicationOf manifest entry.1 = some application) :
    ∃ item', prepareRole { r with manifest } flow' entry = .ok item' ∧
      item'.snapshot = item.snapshot ∧ item'.binding = { item.binding with
        projectId := manifest.projectId
        manifestDigest := manifest.digest
        flowDigest := flow'.digest
        collaborationIdentity := application } := by
  refine ⟨{ item with binding := { item.binding with
    projectId := manifest.projectId
    manifestDigest := manifest.digest
    flowDigest := flow'.digest
    collaborationIdentity := application } }, ?_, rfl, rfl⟩
  simp only [prepareRole, hentry, Check.bind_ok, Check.found_ok, Check.pure_ok] at h ⊢
  obtain ⟨a₁, h₁, a₂, h₂, a₃, h₃, a₄, h₄, a₅, h₅, a₆, h₆, a₇, h₇, a₈, h₈, a₉, h₉, b₁, k₁, b₂, k₂,
    b₃, k₃, b₄, k₄, b₅, k₅, b₆, k₆, b₇, k₇, b₈, k₈, b₉, k₉, _, -, rfl⟩ := h
  exact ⟨a₁, h₁, a₂, h₂, a₃, h₃, a₄, h₄, a₅, h₅, a₆, h₆, a₇, h₇, a₈, h₈, a₉, h₉, b₁, k₁, b₂, k₂,
    b₃, k₃, b₄, k₄, b₅, k₅, b₆, k₆, b₇, k₇, b₈, k₈, b₉, k₉, application, happlication, rfl⟩

/-- The digest of a role is the one of its package. -/
lemma roleDigest_of_prepareRole {r : RolePackRequest} {flow : FlowDefinition}
    {entry : String × Json} {item : PreparedRole} (h : prepareRole r flow entry = .ok item) :
    isDigest item.binding.roleDigest = true := by
  simp only [prepareRole, Check.bind_ok, Check.mapError_ok, Check.pure_ok] at h
  obtain ⟨_, -, _, -, _, -, _, -, _, -, _, -, _, -, _, -, _, -, _, -, _, -, _, -, resolved,
    hresolved,
    _, -, _, -, _, -, _, -, _, -, _, -, rfl⟩ := h
  exact isDigest_of_resolve hresolved

/-- The first activation of a project with one role commits when its row can be stored. -/
lemma activate_of_fresh {r : RolePackRequest} {flow : FlowDefinition} {item : PreparedRole}
    (hactor : isActorId r.actorId = true) (hprepare : prepare r = .ok (flow, [item]))
    (hproject : (db.projects.lookup r.manifest.projectId).isSome)
    (hcurrent : ProjectManifestStore.current r.manifest.projectId db.toManifestDb =
      some r.manifest.digest)
    (hroles : ∀ row ∈ db.roles, row.projectId ≠ r.manifest.projectId)
    (hqueues : ∀ q ∈ db.queues, q.projectId ≠ r.manifest.projectId)
    (hstorable : Storable item.binding) :
    ∃ a db', activate r db = .ok (a, db') ∧ a.roles = [item.binding] := by
  have hbinding : item.binding.projectId = r.manifest.projectId :=
    ((prepare_ok hprepare).2.2.2 item (List.mem_singleton_self item)).project
  let retired := retire r.manifest.projectId [item.binding.roleId] db
  have hput : ∃ queues, putQueue (queueOf item.binding) retired.queues = some queues := by
    refine ⟨_, if_neg ?_⟩
    rintro ⟨s, hs, -, htarget⟩
    have hs' : s.projectId = r.manifest.projectId := (Prod.mk.inj htarget).1.trans hbinding
    obtain ⟨q, hq, -, rfl⟩ | ⟨hold, -⟩ := Table.mem_update_cases hs
    · exact hqueues q hq hs'
    · exact hqueues s hold hs'
  obtain ⟨queues, hput⟩ := hput
  have hupsert : ∃ db', upsertRole retired item.binding = some db' := by
    refine ⟨_, Option.bind_eq_some_iff.2 ⟨(), ?_, Option.bind_eq_some_iff.2 ⟨queues, hput, rfl⟩⟩⟩
    exact if_pos hstorable
  obtain ⟨db', hdb'⟩ := hupsert
  refine ⟨⟨r.manifest.projectId, r.manifest.digest, r.flowReference, flow.digest,
    [item.binding]⟩, db', ?_, rfl⟩
  rw [activate, Tx.require_bind_ok, Tx.ofExcept_bind_ok]
  refine ⟨hactor, (flow, [item]), hprepare, ?_⟩
  simp only [activateIn, Tx.query_bind_ok, Tx.require_bind_ok, Tx.modify_bind_ok,
    Tx.attempt_bind_ok, Tx.pure_ok]
  refine ⟨hproject, hcurrent, fun h => ?_, db', ?_, rfl⟩
  · obtain ⟨row, hrow⟩ := Option.isSome_iff_exists.1 h
    obtain ⟨hmem, hkey⟩ := Table.lookup_eq_some.1 hrow
    exact absurd (Prod.mk.inj hkey).1 (hroles row hmem)
  · change [item.binding].foldlM upsertRole retired = some db'
    rw [List.foldlM_cons, hdb']
    rfl

/-- The value of a package of one file. -/
def packageOf (r : PackageReference) (value : Json) : PackageReference × PackageFiles :=
  (r, {
    manifestPath := "package.json"
    manifest := some {
      text := "package"
      value := some (.obj [("content", .arr [.str "content.json"]), ("dependencies", .arr []),
        ("id", .str r.packageId), ("kind", .str r.kind.name), ("schema_version", .int 1),
        ("version", .str r.version)]) }
    content := fun path => some {
      packagePath := path
      path
      isJson := true
      file := some { text := "content", value := some value } } })

/-- A flow that starts in its only state. -/
def managerFlow : Json := .obj [
  ("entry_state", .str "done"), ("flow_id", .str "core"), ("leader_role", .str "pm"),
  ("schema_version", .int 1), ("states", .obj [("done", .obj [
    ("artifact", .str "work/\x7bwork_item_id\x7d.md"), ("owner_role", .str "pm"),
    ("purpose", .str "Done"), ("terminal", .bool true)])]),
  ("terminal_states", .arr [.str "done"])]

def managerRole : Json := .obj [
  ("accountabilities", .arr []), ("consults", .arr []), ("decision_rights", .arr []),
  ("display_name", .str "PM"), ("documentation", .arr []), ("handoff_targets", .arr []),
  ("instructions", .arr []), ("memory_scope", .str "project-role"), ("purpose", .str "Lead"),
  ("role_class", .str "manager"), ("role_id", .str "pm"), ("schema_version", .int 1)]

lemma isPackageName_core : isPackageName "core" = true := by decide

lemma isPackageName_pm : isPackageName "pm" = true := by decide

lemma isVersion_first : isVersion "1.0.0" = true := by decide

def rolePackRepository : MountedRepository where
  invalid := none
  packages := [
    packageOf ⟨.flow, "core", "1.0.0", isPackageName_core, isVersion_first⟩
      (.obj [("flow", managerFlow)]),
    packageOf ⟨.role, "pm", "1.0.0", isPackageName_pm, isVersion_first⟩
      (.obj [("role", managerRole)])]

/-- A digest of one character. -/
def plainDigest : String := String.ofList (List.replicate 64 'a')

/-- The flow of the package, but for its digest. -/
def managerFlowDefinition : FlowDefinition where
  flowId := "core"
  leaderRole := "pm"
  entryState := "done"
  states := [{
    stateId := "done", ownerRole := "pm", artifact := "work/\x7bwork_item_id\x7d.md"
    consults := [], gates := [], informs := [], routes := [], terminal := true }]
  snapshot := managerFlow
  digest := plainDigest

/-- The role of a manifest. -/
def managerEntry : Json := .obj [("instances", .obj [("maximum", .int 1), ("minimum", .int 1)]),
  ("package", .str "role/pm@1.0.0"), ("tool_profile", .str "tool-profile/pm@1.0.0")]

/-- The activation of the role pack of a manifest. -/
def packRequest (manifest : ProjectManifest) : RolePackRequest where
  root := rolePackRepository
  tools := { profile := fun _ => .ok ("pm", plainDigest), prompt := fun _ _ _ => .ok plainDigest }
  manifest
  flowReference := "flow/core@1.0.0"
  actorId := "operator"

/-- The role pack of a manifest with one role can be stored. -/
lemma prepare_packRequest {manifest : ProjectManifest} {application : String}
    (hroles : (manifest.snapshot.get? "roles").bind Json.asObject = some [("pm", managerEntry)])
    (happlication : applicationOf manifest "pm" = some application)
    (hfilled : ∃ c ∈ application.toList, c ≠ ' ') (hdigest : isDigest manifest.digest = true) :
    ∃ flow item, prepare (packRequest manifest) = .ok (flow, [item]) ∧ Storable item.binding ∧
      item.binding.projectId = manifest.projectId ∧ item.binding.roleId = "pm" ∧
      item.binding.manifestDigest = manifest.digest ∧ item.binding.maximumInstances = 1 := by
  have hflow : ((PackageResolver.resolvePackages rolePackRepository
      ["flow/core@1.0.0"]).toOption.any fun c =>
        (Json.obj c.settings).get? "flow" = some managerFlow) = true := by decide +kernel
  obtain ⟨c, hc, hsettings⟩ := (Option.any_eq_true _ _).1 hflow
  rw [decide_eq_true_eq] at hsettings
  have hresolved := Check.toOption_eq_some.1 hc
  have hparse : PackageReference.parse "flow/core@1.0.0" =
      .ok ⟨.flow, "core", "1.0.0", by decide, by decide⟩ := by decide
  have hplain : Flow.validate managerFlow plainDigest = .ok managerFlowDefinition := by
    decide +kernel
  let flow := { managerFlowDefinition with digest := c.digest }
  have hload : loadFlow c = .ok flow := by
    simp only [loadFlow, Check.bind_ok, Check.found_ok, Check.mapError_ok]
    exact ⟨managerFlow, hsettings, _, rfl, validate_digest hplain (isDigest_of_resolve hresolved)⟩
  have hsample : ((prepareRole (packRequest (ProjectManifestStore.sampleProject "alpha"))
      managerFlowDefinition ("pm", managerEntry)).toOption.any fun item =>
        item.binding.roleId = "pm" ∧ item.binding.maximumInstances = 1 ∧
        referenced item.snapshot = [] ∧ item.binding.toolProfileDigest = plainDigest ∧
        item.binding.promptConfigurationDigest = plainDigest ∧
        item.binding.toolProfileId = "pm" ∧ item.binding.flowReference = "flow/core@1.0.0") =
      true := by decide +kernel
  obtain ⟨sample, hsample, hfields⟩ := (Option.any_eq_true _ _).1 hsample
  rw [decide_eq_true_eq] at hfields
  obtain ⟨hrole, hmaximum, hreferenced, hprofile, hprompt, hid, hreference⟩ := hfields
  obtain ⟨item, hprepared, hsnapshot, hfields⟩ := @prepareRole_of_manifest _ _ flow
    _ _ _ _ (Check.toOption_eq_some.1 hsample) rfl happlication
  replace hprepared : prepareRole (packRequest manifest) flow ("pm", managerEntry) = .ok item :=
    hprepared
  have hitemRole : item.binding.roleId = "pm" := by rw [hfields]; exact hrole
  refine ⟨flow, item, ?_, ⟨fun d hd => ?_, fun s hs => ?_⟩, by rw [hfields], hitemRole,
    by rw [hfields], by rw [hfields]; exact hmaximum⟩
  · have hsorted : sortedItems [("pm", managerEntry)] = [("pm", managerEntry)] := by decide
    simp only [prepare, Check.bind_ok, Check.that_ok, Check.found_ok, Check.pure_ok,
      Check.mapError_ok]
    refine ⟨_, hparse, (), rfl, c, hresolved, flow, hload, [("pm", managerEntry)], hroles, (),
      by simp, [item], ?_, (), ?_, (), ?_, rfl⟩
    · rw [hsorted]
      simp only [List.mapM_cons, List.mapM_nil, Check.bind_ok, Check.pure_ok]
      exact ⟨item, hprepared, [], rfl, rfl⟩
    · intro role hmem
      have hpm : role = "pm" := by
        simpa [flow, flowRoles, managerFlowDefinition] using hmem
      simp [hpm, hitemRole]
    · intro other hother role hmem
      rw [List.mem_singleton.1 hother, hsnapshot, hreferenced] at hmem
      exact absurd hmem List.not_mem_nil
  · have hplainDigest : isDigest plainDigest = true := by decide_cbv
    have hroleDigest := roleDigest_of_prepareRole (Check.toOption_eq_some.1 hsample)
    rw [hfields] at hd
    simp only [List.mem_cons, List.not_mem_nil, or_false] at hd
    rcases hd with rfl | rfl | rfl | rfl | rfl
    · exact hdigest
    · exact hroleDigest
    · exact hprofile ▸ hplainDigest
    · exact isDigest_of_resolve hresolved
    · exact hprompt ▸ hplainDigest
  · rw [hfields] at hs
    simp only [hid, hreference, List.mem_cons, List.not_mem_nil, or_false] at hs
    rcases hs with rfl | rfl | rfl
    · exact ⟨'p', by simp, by decide⟩
    · exact ⟨'f', by simp, by decide⟩
    · exact hfilled

/-- A project is registered, its manifest is activated, and then its role pack. -/
def projectEvents (m : ProjectManifest) (authorizer : ResourceAuthorizer) : List RolePackEvent := [
  .manifest (.register ⟨m.projectId, m.displayName⟩),
  .manifest (.activate (ProjectManifestStore.activation m authorizer)),
  .activate (packRequest m)]

/-- There is nothing about a project. -/
structure Fresh (db : RolePackDb) (p : String) : Prop where
  project : db.projects.lookup p = none
  active : db.active.lookup p = none
  snapshots : ∀ digest, db.snapshots.lookup (p, digest) = none
  claims : ∀ c ∈ db.claims, c.projectId ≠ p
  roles : ∀ row ∈ db.roles, row.projectId ≠ p
  queues : ∀ q ∈ db.queues, q.projectId ≠ p

lemma Fresh.empty (p : String) : Fresh {} p :=
  ⟨rfl, rfl, fun _ => rfl, fun c hc => absurd hc (Table.notMem_empty c),
    fun row hrow => absurd hrow (Table.notMem_empty row),
    fun q hq => absurd hq (Table.notMem_empty q)⟩

/-- A fresh project gets its manifest and its role pack. -/
lemma run_projectEvents {m : ProjectManifest} {authorizer : ResourceAuthorizer}
    {application : String} (hfresh : Fresh db m.projectId)
    (hnormal : ProjectManifest.normalizeProjectManifest lib m.snapshot = .ok m)
    (hdeclared : ProjectManifestStore.authorizeDeclaredOwners authorizer m = .ok ())
    (hcollisions : ProjectManifestStore.authorizeActiveCollisions authorizer m db.toManifestDb =
      .ok ())
    (hroles : (m.snapshot.get? "roles").bind Json.asObject = some [("pm", managerEntry)])
    (happlication : applicationOf m "pm" = some application)
    (hfilled : ∃ c ∈ application.toList, c ≠ ' ') : ∃ a db' b,
      activate (packRequest m) (run (step lib) db ((projectEvents m authorizer).take 2)) =
        .ok (a, db') ∧ a.roles = [b] ∧ run (step lib) db (projectEvents m authorizer) = db' ∧
      b.projectId = m.projectId ∧ b.roleId = "pm" ∧ b.manifestDigest = m.digest ∧
      b.maximumInstances = 1 ∧ ProjectManifestStore.Activated lib
        (ProjectManifestStore.activation m authorizer)
        (ProjectManifestStore.registerProject ⟨m.projectId, m.displayName⟩ db.toManifestDb)
        db'.toManifestDb := by
  have hdigest : isDigest m.digest = true := by
    simp only [ProjectManifest.normalizeProjectManifest, Check.bind_ok, Check.pure_ok] at hnormal
    obtain ⟨n, -, hm⟩ := hnormal
    rw [← hm]
    exact isDigest_sha256Hex _
  obtain ⟨flow, item, hprepare, hstorable, hproject, hrole, hmanifest, hmaximum⟩ :=
    prepare_packRequest hroles happlication hfilled hdigest
  obtain ⟨projects, hinsert⟩ := Table.insert_isSome_of_fresh (t := db.projects)
    (r := (⟨m.projectId, m.displayName⟩ : ManifestProject)) (Table.lookup_eq_none.1 hfresh.project)
  have hregister : ProjectManifestStore.registerProject ⟨m.projectId, m.displayName⟩
      db.toManifestDb = { db.toManifestDb with projects } := by
    rw [ProjectManifestStore.registerProject, hinsert]
  have hlookup : projects.lookup m.projectId = some ⟨m.projectId, m.displayName⟩ :=
    (Table.lookup_of_insert hinsert _).trans (if_pos rfl)
  obtain ⟨activation, registered, h⟩ := @ProjectManifestStore.activation_of_fresh lib
    { db.toManifestDb with projects } m authorizer ⟨m.projectId, m.displayName⟩ hnormal
    hlookup rfl hfresh.active
    (hfresh.snapshots m.digest) hfresh.claims hdeclared hcollisions
  have hdone := ProjectManifestStore.activate_ensures.1 activation registered h
  have hactive := (hdone.active m).2 (Or.inl rfl)
  obtain ⟨row, snapshot, hrow, hrowDigest, -⟩ := ProjectManifestStore.active_iff.1 hactive
  have hcurrent : ProjectManifestStore.current m.projectId registered = some m.digest := by
    rw [ProjectManifestStore.current, hrow, Option.map_some, hrowDigest]
  have hregistered : (registered.projects.lookup m.projectId).isSome := by
    rw [hdone.projects, hlookup]
    rfl
  have hactor : isActorId "operator" = true := by decide
  obtain ⟨a, db', hok, hbindings⟩ := @activate_of_fresh
    { db with toManifestDb := registered } (packRequest m) _ _ hactor hprepare hregistered hcurrent
    hfresh.roles hfresh.queues hstorable
  have hmanifests : db'.toManifestDb = registered := manifests_of_activate hok
  have hfirst : step lib db (.manifest (.register ⟨m.projectId, m.displayName⟩)) =
      { db with toManifestDb := { db.toManifestDb with projects } } :=
    congrArg (fun d => { db with toManifestDb := d }) hregister
  have hsecond : step lib { db with toManifestDb := { db.toManifestDb with projects } }
      (.manifest (.activate (ProjectManifestStore.activation m authorizer))) =
      { db with toManifestDb := registered } :=
    congrArg (fun d => { db with toManifestDb := d }) (Tx.commit_of_ok h)
  have hrun : run (step lib) db ((projectEvents m authorizer).take 2) =
      { db with toManifestDb := registered } := by
    rw [projectEvents, List.take_succ_cons, List.take_succ_cons, List.take_zero, run_cons, run_cons,
      run_nil, hfirst, hsecond]
  have hthird : step lib { db with toManifestDb := registered } (.activate (packRequest m)) = db' :=
    Tx.commit_of_ok hok
  refine ⟨a, db', item.binding, by rw [hrun]; exact hok, hbindings, ?_, hproject, hrole, hmanifest,
    hmaximum, ?_⟩
  · rw [projectEvents, run_cons, run_cons, run_cons, run_nil, hfirst, hsecond, hthird]
  · rw [hregister, hmanifests]
    exact hdone

/-- An identifier that manifests allow, and that leaves no room for a role. -/
def longProject : String := String.ofList (List.replicate 124 'a')

def longManifest : ProjectManifest := ProjectManifestStore.sampleProject longProject

/-- The resources of a sample project are its own. -/
lemma declared_sampleProject (p : String) :
    ProjectManifestStore.authorizeDeclaredOwners denyForeignResources
      (ProjectManifestStore.sampleProject p) = .ok () := by
  refine Check.forM_ok.2 fun r hr => Check.that_ok.2 (Or.inl ?_)
  change r ∈ ProjectManifestStore.projectResources p at hr
  simp only [ProjectManifestStore.projectResources, List.mem_cons, List.not_mem_nil,
    or_false] at hr
  rcases hr with rfl | rfl | rfl | rfl | rfl | rfl <;> rfl

/-- The role pack of the project with a long name is activated. -/
lemma created_longRun : ∃ b, Created ProjectManifestStore.asciiLibrary {}
    (projectEvents longManifest denyForeignResources) b ∧ b.projectId = longProject ∧
    b.roleId = "pm" ∧ b.maximumInstances = 1 := by
  obtain ⟨a, db', b, hok, hroles, -, hproject, hrole, -, hmaximum, -⟩ :=
    @run_projectEvents ProjectManifestStore.asciiLibrary _ longManifest _ longProject
      (Fresh.empty _)
      (ProjectManifestStore.normalize_sampleProject (by decide_cbv))
      (declared_sampleProject longProject)
      (Check.forM_ok.2 fun c hc => absurd (Table.mem_select.1 hc).1 (Table.notMem_empty c))
      (by decide) (by decide +kernel) ⟨'a', by decide_cbv, by decide⟩
  refine ⟨b, ⟨_, packRequest longManifest, [], a, db', rfl, hok, ?_⟩, hproject, hrole, hmaximum⟩
  rw [hroles]
  exact List.mem_singleton_self b

/-- A project whose identifier is allowed has an instance that cannot record its progress. -/
theorem not_accepted_instances : ¬ ∀ lib sensitive es,
    RolePackRuns lib es ∧
      ∀ i ∈ (run (step lib) {} es).instances, Accepted sensitive i.instanceId := by
  intro h
  obtain ⟨b, hb, hproject, hrole, hmaximum⟩ := created_longRun
  have hall := (h ProjectManifestStore.asciiLibrary (fun _ => false)
    (projectEvents longManifest denyForeignResources)).2
  have hlength := (accepted_run.1 hall b hb).1
  rw [nameLength, hproject, hrole, hmaximum] at hlength
  exact absurd hlength (by decide_cbv)

end RolePack

end AgenticMesh
