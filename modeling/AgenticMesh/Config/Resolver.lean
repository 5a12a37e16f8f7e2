import AgenticMesh.Base.DepthFirst
import AgenticMesh.Config.Package

/-!
# The resolver

The resolver loads the packages that some references depend on, depth first, and
merges their contents in the order of their kinds.  It fails on a cycle; without
one, a package comes after all packages of its kind that it depends on.
-/

namespace AgenticMesh

/-! ## Settings -/

namespace Json

mutual

/-- `_merge`. -/
def mergeFields (base : List (String × Json)) : List (String × Json) → List (String × Json)
  | [] => base
  | (key, value) :: overlay =>
    mergeFields (insertField key (mergeValue ((obj base).get? key) value) base) overlay

/-- A setting over the one that is there. -/
def mergeValue (current : Option Json) : Json → Json
  | .obj overlay =>
    match current with
    | some (.obj base) => .obj (mergeFields base overlay)
    | _ => .obj overlay
  | value => value

end

end Json

/-! ## Resolved configurations -/

/-- `calculate_configuration_digest`. -/
def configurationDigest (payload : Json) : String := sha256Hex (payload.without "digest").dumps

/-- A text that a package contributes. -/
structure TextSection where
  package : String
  path : String
  text : String
deriving DecidableEq

/-- Where a content comes from, with its digest. -/
structure ContentProvenance where
  package : String
  path : String
  sha256 : String
deriving DecidableEq

/-- `ResolvedConfiguration`: the merged settings and the texts of the packages. -/
structure ResolvedConfiguration where
  digest : String
  packages : List String
  settings : List (String × Json)
  textSections : List TextSection
  provenance : List ContentProvenance
deriving DecidableEq

def TextSection.toDict (s : TextSection) : Json :=
  .obj [("package", .str s.package), ("path", .str s.path), ("text", .str s.text)]

def ContentProvenance.toDict (p : ContentProvenance) : Json :=
  .obj [("package", .str p.package), ("path", .str p.path), ("sha256", .str p.sha256)]

namespace ResolvedConfiguration

/-- The fields of a configuration without its digest. -/
def unsigned (c : ResolvedConfiguration) : List (String × Json) := [
  ("packages", .arr (c.packages.map .str)),
  ("provenance", .arr (c.provenance.map ContentProvenance.toDict)),
  ("schema_version", .int 1), ("settings", .obj c.settings),
  ("text_sections", .arr (c.textSections.map TextSection.toDict))]

end ResolvedConfiguration

/-! ## Resolving -/

namespace PackageResolver

/-- What the content of a package adds to the settings. -/
def addSettings (settings : List (String × Json)) (c : PackageContent) : List (String × Json) :=
  match c.jsonValue with
  | none => settings
  | some value => Json.mergeFields settings value

/-- The text sections of a package. -/
def sectionsOf (p : ConfigPackage) : List TextSection :=
  (p.content.filter fun c => c.jsonValue = none).map fun c =>
    { package := p.reference.toString, path := c.relativePath, text := c.text }

/-- The provenance of a package. -/
def provenanceOf (p : ConfigPackage) : List ContentProvenance :=
  { package := p.reference.toString, path := p.manifestPath, sha256 := p.manifestSha256 } ::
    p.content.map fun c =>
      { package := p.reference.toString, path := c.relativePath, sha256 := c.sha256 }

/-- The configuration of some packages, in their order. -/
def configurationOf (ordered : List ConfigPackage) : ResolvedConfiguration :=
  let unsigned : ResolvedConfiguration := {
    digest := ""
    packages := ordered.map fun p => p.reference.toString
    settings := (ordered.flatMap ConfigPackage.content).foldl addSettings []
    textSections := ordered.flatMap sectionsOf
    provenance := ordered.flatMap provenanceOf }
  { unsigned with digest := configurationDigest (.obj unsigned.unsigned) }

/-- The packages that the search has finished. -/
abbrev Found := List (PackageReference × ConfigPackage)

/-- `visit`, for all roots. -/
def findPackages (root : MountedRepository) (roots : List PackageReference) :
    PackageCheck Found :=
  DepthFirst.search (ConfigPackage.load root)
    (fun p => PackageReference.sorted p.dependencies) .cycle .exhausted
    (root.packages.length + 1) roots

/-- The key by which the packages are sorted. -/
def orderKey (found : Found) (p : ConfigPackage) : ℕ ×ₗ ℕ :=
  toLex (p.reference.kind.precedence, (found.map Prod.fst).idxOf p.reference)

/-- `sorted(packages.values(), key=...)`. -/
def ordered (found : Found) : List ConfigPackage :=
  (found.map Prod.snd).insertionSort fun a b => orderKey found a ≤ orderKey found b

/-- `resolve_packages`. -/
def resolvePackages (root : MountedRepository) (references : List String) :
    PackageCheck ResolvedConfiguration := do
  Check.that (references ≠ []) (.message "at least one package reference is required")
  match root.invalid with
  | some text => .error (.message text)
  | none => do
    let roots ← references.mapM PackageReference.parse
    let found ← findPackages root (PackageReference.sorted roots)
    return configurationOf (ordered found)

/-! ## Dependencies -/

/-- A package names another one as a dependency. -/
def DependsOn (root : MountedRepository) (a b : PackageReference) : Prop :=
  ∃ p, ConfigPackage.load root a = .ok p ∧ b ∈ p.dependencies

/-- A package is needed for some references. -/
def Needed (root : MountedRepository) (roots : List PackageReference) (r : PackageReference) :
    Prop := ∃ a ∈ roots, Relation.ReflTransGen (DependsOn root) a r

variable {root : MountedRepository} {roots : List PackageReference}

lemma dep_eq : DepthFirst.Dep (ConfigPackage.load root)
    (fun p => PackageReference.sorted p.dependencies) = DependsOn root := by
  funext a b
  simp only [DepthFirst.Dep, DependsOn, PackageReference.mem_sorted]

lemma reachable_iff {r : PackageReference} :
    DepthFirst.Reachable (ConfigPackage.load root)
      (fun p => PackageReference.sorted p.dependencies) (PackageReference.sorted roots) r ↔
      Needed root roots r := by
  simp only [DepthFirst.Reachable, Needed, dep_eq, PackageReference.mem_sorted]

/-- An error that the source raises. -/
def Reported (e : PackageResolutionError) : Prop := e ≠ .exhausted

lemma reported_message (text : String) : Reported (.message text) := fun h => nomatch h

/-- Loading a package never runs out of fuel. -/
lemma raises_load (root : MountedRepository) (r : PackageReference) :
    Check.Raises Reported (ConfigPackage.load root r) := by
  have hcontent : ∀ files seen value, Check.Raises Reported
      (ConfigPackage.loadContent r files seen value) := by
    intro files seen value
    refine (Check.raises_that (reported_message _)).bind fun _ => ?_
    refine (Check.raises_found (reported_message _)).bind fun file => ?_
    refine (Check.raises_that (reported_message _)).bind fun _ => ?_
    refine (Check.raises_found (reported_message _)).bind fun text => ?_
    refine Check.Raises.bind ?_ fun _ => Check.raises_ok
    split
    · exact (Check.raises_found (reported_message _)).bind fun _ =>
        (Check.raises_found (reported_message _)).bind fun _ => Check.raises_ok
    · exact Check.raises_ok
  have hcontents : ∀ files seen values, Check.Raises Reported
      (ConfigPackage.loadContents r files seen values) := by
    intro files seen values
    induction values generalizing seen with
    | nil => exact Check.raises_ok
    | cons value values ih =>
      exact (hcontent files seen value).bind fun c => (ih (c.1 :: seen)).bind fun _ =>
        Check.raises_ok
  refine (Check.raises_found (reported_message _)).bind fun files => ?_
  refine (Check.raises_found (reported_message _)).bind fun manifest => ?_
  refine (Check.raises_found (reported_message _)).bind fun value => ?_
  refine (Check.raises_found (reported_message _)).bind fun fields => ?_
  refine Check.Raises.bind ?_ fun _ => ?_
  · refine (Check.raises_that fun h => nomatch h).bind fun _ => ?_
    refine (Check.raises_that (reported_message _)).bind fun _ => ?_
    exact Check.raises_that (reported_message _)
  refine (Check.raises_found (reported_message _)).bind fun dependencies => ?_
  refine (Check.raises_mapM fun _ _ => Check.raises_found (reported_message _)).bind fun _ => ?_
  refine (Check.raises_found (reported_message _)).bind fun values => ?_
  exact (hcontents files [] values).bind fun _ => Check.raises_ok

/-- The search ends: the number of packages bounds its depth. -/
lemma findPackages_ne_exhausted (root : MountedRepository) (roots : List PackageReference) :
    findPackages root roots ≠ .error .exhausted := by
  refine DepthFirst.search_ne_exhausted 
    (fun r p h => (ConfigPackage.mem_of_load h).1)
    (fun r h => raises_load root r _ h rfl)
    (fun path (h : PackageResolutionError.cycle path = .exhausted) => nomatch h) ?_ roots
  rw [List.length_map]
  exact Nat.lt_succ_self _

/-! ## The order of the packages -/

/-- The order in which a configuration merges its packages. -/
structure ResolutionOrder (root : MountedRepository) (roots : List PackageReference)
    (packages : List ConfigPackage) : Prop where
  loaded : ∀ p ∈ packages, ConfigPackage.load root p.reference = .ok p
  needed : ∀ r, r ∈ packages.map ConfigPackage.reference ↔ Needed root roots r
  nodup : (packages.map ConfigPackage.reference).Nodup
  kinds : packages.Pairwise fun a b => a.reference.kind.precedence ≤ b.reference.kind.precedence
  /-- A package comes after the packages of its kind that it depends on, at any distance. -/
  dependencies : ∀ before p after, packages = before ++ p :: after → ∀ q ∈ packages,
    q.reference.kind = p.reference.kind →
    Relation.TransGen (DependsOn root) p.reference q.reference → q ∈ before

lemma perm_ordered (found : Found) : (ordered found).Perm (found.map Prod.snd) :=
  List.perm_insertionSort _ _

lemma pairwise_ordered (found : Found) :
    (ordered found).Pairwise fun a b => orderKey found a ≤ orderKey found b := by
  have : Std.Total fun a b : ConfigPackage => orderKey found a ≤ orderKey found b :=
    ⟨fun a b => le_total (orderKey found a) (orderKey found b)⟩
  have : IsTrans ConfigPackage fun a b => orderKey found a ≤ orderKey found b :=
    ⟨fun _ _ _ => le_trans⟩
  exact List.pairwise_insertionSort _ _

lemma resolutionOrder_ordered {found : Found}
    (h : findPackages root (PackageReference.sorted roots) = .ok found) :
    ResolutionOrder root roots (ordered found) := by
  obtain ⟨hpost, hkeys⟩ := DepthFirst.search_ok h
  have hperm := perm_ordered found
  have hreference : ∀ p ∈ found, p.2.reference = p.1 := fun p hp =>
    (ConfigPackage.mem_of_load (hpost.loaded p hp)).2
  have hreferences : (found.map Prod.snd).map ConfigPackage.reference = found.map Prod.fst := by
    rw [List.map_map]
    exact List.map_congr_left hreference
  have hpermKeys : ((ordered found).map ConfigPackage.reference).Perm (found.map Prod.fst) := by
    rw [← hreferences]
    exact hperm.map _
  have hsorted := pairwise_ordered found
  refine ⟨fun p hp => ?_, fun r => ?_, hpermKeys.nodup_iff.2 hpost.nodup, ?_, ?_⟩
  · obtain ⟨q, hq, rfl⟩ := List.mem_map.1 (hperm.mem_iff.1 hp)
    rw [hreference q hq]
    exact hpost.loaded q hq
  · rw [hpermKeys.mem_iff, hkeys, reachable_iff]
  · refine hsorted.imp fun {a b} hle => ?_
    obtain hlt | ⟨heq, -⟩ := Prod.Lex.le_iff.1 hle
    · exact le_of_lt hlt
    · exact le_of_eq heq
  · intro before p after heq q hq hkind hdep
    have hp : p ∈ ordered found := by simp [heq]
    have hpkey : p.reference ∈ found.map Prod.fst :=
      hpermKeys.mem_iff.1 (List.mem_map_of_mem hp)
    rw [← dep_eq] at hdep
    -- the search finished the dependency first
    have hlt := (hpost.idxOf_lt hpkey hdep).2
    have hkey : orderKey found q < orderKey found p := by
      refine Prod.Lex.lt_iff.2 (Or.inr ⟨?_, hlt⟩)
      exact congrArg PackageKind.precedence hkind
    rw [heq] at hq hsorted
    obtain hq | hq := List.mem_append.1 hq
    · exact hq
    obtain rfl | hq := List.mem_cons.1 hq
    · exact absurd hkey (lt_irrefl _)
    · have hle := (List.pairwise_cons.1 (List.pairwise_append.1 hsorted).2.1).1 q hq
      exact absurd hkey (not_lt_of_ge hle)

/-! ## The results -/

/-- A cycle of dependencies is needed for some references. -/
def NeedsCycle (root : MountedRepository) (roots : List PackageReference) : Prop :=
  ∃ r, Needed root roots r ∧ Relation.TransGen (DependsOn root) r r

/-- The search for packages that all load. -/
lemma findPackages_cases (hload : ∀ r, Needed root roots r → ∃ p,
    ConfigPackage.load root r = .ok p) :
    (∃ path r, findPackages root (PackageReference.sorted roots) = .error (.cycle path) ∧
      DepthFirst.IsCycle (ConfigPackage.load root)
        (fun p => PackageReference.sorted p.dependencies) r path ∧ Needed root roots r) ∨
    ∃ found, findPackages root (PackageReference.sorted roots) = .ok found := by
  cases hfind : findPackages root (PackageReference.sorted roots) with
  | ok found => exact Or.inr ⟨found, rfl⟩
  | error e =>
    obtain (⟨r, hr, herror⟩ | ⟨r, path, rfl, hcycle, hr⟩) | rfl := DepthFirst.search_error hfind
    · obtain ⟨p, hp⟩ := hload r (reachable_iff.1 hr)
      rw [hp] at herror
      cases herror
    · exact Or.inl ⟨path, r, rfl, hcycle, reachable_iff.1 hr⟩
    · exact absurd hfind (findPackages_ne_exhausted root _)

lemma resolvePackages_eq {references : List String} (hne : references ≠ [])
    (hmounted : root.invalid = none) (hroots : references.mapM PackageReference.parse = .ok roots) :
    resolvePackages root references =
      (findPackages root (PackageReference.sorted roots)).map fun found =>
        configurationOf (ordered found) := by
  unfold resolvePackages
  rw [Check.that, if_pos hne, hmounted, hroots]
  cases hfind : findPackages root (PackageReference.sorted roots) <;>
    simp only [bind, Except.bind, hfind, Except.map, pure, Except.pure]

/-- References that parse, parse in every order and with every repetition. -/
lemma mapM_parse_congr {references references' : List String}
    (h : ∀ s, s ∈ references ↔ s ∈ references')
    (hroots : references.mapM PackageReference.parse = .ok roots) :
    ∃ roots', references'.mapM PackageReference.parse = .ok roots' ∧
      ∀ r, r ∈ roots ↔ r ∈ roots' := by
  have hall : ∀ s ∈ references', ∃ r, PackageReference.parse s = .ok r := by
    intro s hs
    obtain ⟨r, -, hr⟩ := Check.ok_of_mapM hroots ((h s).2 hs)
    exact ⟨r, hr⟩
  obtain ⟨roots', hroots'⟩ : ∃ roots', references'.mapM PackageReference.parse = .ok roots' :=
    Check.exists_mapM hall
  refine ⟨roots', hroots', fun r => ⟨fun hr => ?_, fun hr => ?_⟩⟩
  · obtain ⟨s, hs, hparse⟩ := Check.mem_of_mapM hroots hr
    obtain ⟨r', hr', hparse'⟩ := Check.ok_of_mapM hroots' ((h s).1 hs)
    rwa [Except.ok.inj (hparse.symm.trans hparse')]
  · obtain ⟨s, hs, hparse⟩ := Check.mem_of_mapM hroots' hr
    obtain ⟨r', hr', hparse'⟩ := Check.ok_of_mapM hroots ((h s).2 hs)
    rwa [Except.ok.inj (hparse.symm.trans hparse')]

/-- The result does not depend on the order and the repetitions of the references. -/
lemma resolvePackages_congr {references references' : List String} (hne : references ≠ [])
    (h : ∀ s, s ∈ references ↔ s ∈ references')
    (hroots : references.mapM PackageReference.parse = .ok roots) :
    resolvePackages root references' = resolvePackages root references := by
  obtain ⟨roots', hroots', hmem⟩ := mapM_parse_congr h hroots
  have hne' : references' ≠ [] := by
    obtain ⟨s, hs⟩ := List.exists_mem_of_ne_nil _ hne
    exact List.ne_nil_of_mem ((h s).1 hs)
  cases hmounted : root.invalid with
  | some text =>
    unfold resolvePackages
    rw [Check.that, Check.that, if_pos hne, if_pos hne', hmounted]
  | none =>
    rw [resolvePackages_eq hne hmounted hroots, resolvePackages_eq hne' hmounted hroots',
      PackageReference.sorted_congr hmem]

/-- **Resolution.**  If all packages that are needed load, the resolver fails with a cycle exactly
when one is needed, and otherwise it ends with the needed packages, each one once, in the order of
their kinds and after what they depend on; the order and the repetitions of the references do not
matter. -/
theorem resolve_packages {references : List String} (hne : references ≠ [])
    (hmounted : root.invalid = none) (hroots : references.mapM PackageReference.parse = .ok roots)
    (hload : ∀ r, Needed root roots r → ∃ p, ConfigPackage.load root r = .ok p) :
    ((∃ path, resolvePackages root references = .error (.cycle path)) ↔ NeedsCycle root roots) ∧
    (¬ NeedsCycle root roots → ∃ packages,
      resolvePackages root references = .ok (configurationOf packages) ∧
      ResolutionOrder root roots packages) ∧
    ∀ references', (∀ s, s ∈ references ↔ s ∈ references') →
      resolvePackages root references' = resolvePackages root references := by
  refine ⟨?_, ?_, fun references' h => resolvePackages_congr hne h hroots⟩
  all_goals rw [resolvePackages_eq hne hmounted hroots]
  · constructor
    · rintro ⟨path, hpath⟩
      obtain ⟨path', r, -, hcycle, hr⟩ | ⟨found, hfound⟩ := findPackages_cases hload
      · have hself := hcycle.transGen.1
        rw [dep_eq] at hself
        exact ⟨r, hr, hself⟩
      · rw [hfound] at hpath
        cases hpath
    · rintro ⟨r, hr, hself⟩
      obtain ⟨path, -, hpath, -⟩ | ⟨found, hfound⟩ := findPackages_cases hload
      · exact ⟨path, by rw [hpath]; rfl⟩
      · rw [← dep_eq] at hself
        exact absurd hself (DepthFirst.search_acyclic hfound (reachable_iff.2 hr))
  · intro hacyclic
    obtain ⟨path, r, -, hcycle, hr⟩ | ⟨found, hfound⟩ := findPackages_cases hload
    · have hself := hcycle.transGen.1
      rw [dep_eq] at hself
      exact absurd ⟨r, hr, hself⟩ hacyclic
    · exact ⟨ordered found, by rw [hfound]; rfl, resolutionOrder_ordered hfound⟩

/-! ## An example -/

/-- The reference of a sample package. -/
def sampleReference (kind : PackageKind) : PackageReference :=
  ⟨kind, "core", "1.0.0", by decide, by decide⟩

/-- A package of one text, with its dependencies. -/
def samplePackage (kind : PackageKind) (dependencies : List String) :
    PackageReference × PackageFiles :=
  (sampleReference kind, {
    manifestPath := "packages/" ++ kind.name ++ "/core/1.0.0/package.json"
    manifest := some {
      text := kind.name
      value := some (.obj [("content", .arr [.str "text.md"]),
        ("dependencies", .arr (dependencies.map .str)), ("id", .str "core"),
        ("kind", .str kind.name), ("schema_version", .int 1), ("version", .str "1.0.0")]) }
    content := fun path => some {
      packagePath := path
      path := kind.name ++ "/" ++ path
      isJson := false
      file := some { text := "text", value := none } } })

/-- A role that depends on a system package. -/
def sampleRepository : MountedRepository where
  invalid := none
  packages := [samplePackage .role ["system/core@1.0.0"], samplePackage .system []]

lemma dependencies_sample {kind : PackageKind} {dependencies : List PackageReference}
    (h : (ConfigPackage.load sampleRepository (sampleReference kind)).toOption.map
      ConfigPackage.dependencies = some dependencies) :
    (∃ p, ConfigPackage.load sampleRepository (sampleReference kind) = .ok p) ∧
      ∀ r, DependsOn sampleRepository (sampleReference kind) r → r ∈ dependencies := by
  obtain ⟨p, hp, rfl⟩ := Option.map_eq_some_iff.1 h
  have hok := Check.toOption_eq_some.1 hp
  refine ⟨⟨p, hok⟩, ?_⟩
  rintro r ⟨q, hq, hr⟩
  rwa [← Except.ok.inj (hq.symm.trans hok)]

/-- The role needs itself and the system package. -/
lemma needed_sample {r : PackageReference}
    (h : Needed sampleRepository [sampleReference .role] r) :
    r = sampleReference .role ∨ r = sampleReference .system := by
  obtain ⟨a, ha, hreach⟩ := h
  obtain rfl := List.mem_singleton.1 ha
  have hrole := (@dependencies_sample .role [sampleReference .system] (by decide)).2
  have hsystem := (@dependencies_sample .system [] (by decide)).2
  induction hreach with
  | refl => exact Or.inl rfl
  | tail _ hdep ih =>
    obtain rfl | rfl := ih
    · exact Or.inr (List.mem_singleton.1 (hrole _ hdep))
    · exact absurd (hsystem _ hdep) List.not_mem_nil

theorem resolve_packages_sample :
    ((∃ path, resolvePackages sampleRepository ["role/core@1.0.0"] = .error (.cycle path)) ↔
      NeedsCycle sampleRepository [sampleReference .role]) ∧
    (¬ NeedsCycle sampleRepository [sampleReference .role] → ∃ packages,
      resolvePackages sampleRepository ["role/core@1.0.0"] = .ok (configurationOf packages) ∧
      ResolutionOrder sampleRepository [sampleReference .role] packages) ∧
    ∀ references', (∀ s, s ∈ ["role/core@1.0.0"] ↔ s ∈ references') →
      resolvePackages sampleRepository references' =
        resolvePackages sampleRepository ["role/core@1.0.0"] := by
  refine resolve_packages (by decide) rfl ?_ fun r hr => ?_
  · exact Check.toOption_eq_some.1 (by decide)
  · obtain rfl | rfl := needed_sample hr
    · exact (@dependencies_sample .role [sampleReference .system] (by decide)).1
    · exact (@dependencies_sample .system [] (by decide)).1

end PackageResolver

end AgenticMesh
