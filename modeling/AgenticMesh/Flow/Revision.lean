import AgenticMesh.Flow.Changes
import AgenticMesh.Flow.Recovery

/-!
# Revised artifacts

The document of a state can change after it was verified.  `verify_artifact`
satisfies a pending obligation only, so the owner cannot verify the new version,
and `decide_gate` refuses every decision as long as the document is not the
verified one.
-/

namespace AgenticMesh

open GovernanceStore

variable {db db' : Db} {current : FlowRun} {documents : Documents}

/-- The artifact of the current state of a flow was verified. -/
structure ArtifactVerified (current : FlowRun) (db : Db) : Prop where
  mem : current ∈ db.flowRuns
  active : current.status = .active
  satisfied : ∃ o ∈ db.obligations, o.key = (current.projectId, current.workItemId,
    current.currentState, current.version, .artifact, "artifact") ∧ o.status = .satisfied

/-- The document of a flow is not the verified one any more. -/
def Revised (documents : Documents) (current : FlowRun) (db : Db) : Prop :=
  ∃ reviewed, db.artifactVersion current.entry = some reviewed ∧ ¬ Unchanged documents reviewed

/-- No record of the project has this identifier. -/
def FreshRecord (projectId recordId : String) (db : Db) : Prop :=
  ∀ g ∈ db.governance, g.key ≠ (projectId, recordId)

/-- No call with a fresh record verifies the artifact of a flow or decides on it. -/
structure NeverReverified (documents : Documents) (current : FlowRun) (db : Db) : Prop where
  verify : ∀ r : VerifyRequest, (r.projectId, r.workItemId) = current.key →
    FreshRecord r.projectId r.recordId db → ∀ out, verifyArtifact r documents db ≠ .ok out
  decide : ∀ r : GateDecisionRequest, (r.projectId, r.workItemId) = current.key →
    FreshRecord r.projectId r.recordId db → ∀ out, decideGate r documents db ≠ .ok out

/-! ## Calls with a fresh record -/

lemma replay_fresh {p i d : String} {found : Option GovernanceRecord}
    (hfresh : FreshRecord p i db) (h : replay p i d db = .ok (found, db')) :
    found = none ∧ db' = db := by
  rw [replay, Tx.query_bind_ok, Table.lookup_eq_none.2 hfresh] at h
  simp only [Tx.pure_ok, Prod.mk.injEq] at h
  obtain ⟨rfl, rfl⟩ := h
  exact ⟨rfl, rfl⟩

/-- A verification with a fresh record satisfies a pending obligation. -/
lemma verifyArtifactIn_fresh {r : VerifyRequest} {m : DocumentMetadata} {g : GovernanceRecord}
    (hfresh : FreshRecord r.projectId r.recordId db)
    (h : verifyArtifactIn r m db = .ok (g, db')) :
    ∃ run o, Locked r.projectId r.workItemId .artifact "artifact" run o db ∧
      o.status = .pending := by
  rw [verifyArtifactIn, Tx.bind_ok] at h
  obtain ⟨recorded, db₁, hreplay, h⟩ := h
  obtain ⟨rfl, rfl⟩ := replay_fresh hfresh hreplay
  dsimp only at h
  rw [Tx.bind_ok] at h
  obtain ⟨⟨run, o⟩, db₂, hlock, h⟩ := h
  obtain ⟨rfl, hlocked⟩ := lockCurrent_ok hlock
  simp only [Tx.require_bind_ok, Tx.demand_bind_ok, insert_bind_ok] at h
  obtain ⟨-, path, -, -, governance, -, h⟩ := h
  rw [satisfy, Tx.attempt_bind_ok] at h
  obtain ⟨db₃, hsatisfy, -⟩ := h
  obtain ⟨⟨o', ho', hkey, hpending⟩, -⟩ := satisfy_eq_some.1 hsatisfy
  obtain rfl := Table.eq_of_key _ ho' hlocked.mem hkey
  exact ⟨run, o', hlocked, hpending⟩

lemma verifyArtifact_fresh {r : VerifyRequest} {g : GovernanceRecord}
    (hfresh : FreshRecord r.projectId r.recordId db)
    (h : verifyArtifact r documents db = .ok (g, db')) :
    ∃ run o, Locked r.projectId r.workItemId .artifact "artifact" run o db ∧
      o.status = .pending := by
  rw [verifyArtifact, requireIdentifiers, Tx.require_bind_ok] at h
  obtain ⟨-, h⟩ := h
  rw [Tx.bind_ok] at h
  obtain ⟨path, db₁, hpath, h⟩ := h
  obtain rfl := requirePath_ok hpath
  rw [Tx.bind_ok] at h
  obtain ⟨recorded, db₂, hreplay, h⟩ := h
  obtain ⟨rfl, rfl⟩ := replay_fresh hfresh hreplay
  simp only [Tx.demand_bind_ok, Tx.require_bind_ok] at h
  obtain ⟨m, -, -, h⟩ := h
  exact verifyArtifactIn_fresh (r := { r with path }) hfresh h

/-- A decision with a fresh record is about the verified document, which has not changed. -/
lemma decideGate_fresh {r : GateDecisionRequest} {out : GovernanceRecord × Db}
    (hfresh : FreshRecord r.projectId r.recordId db) (hmem : current ∈ db.flowRuns)
    (hactive : current.status = .active) (hkey : (r.projectId, r.workItemId) = current.key)
    (h : decideGate r documents db = .ok out) :
    ∃ reviewed, db.artifactVersion current.entry = some reviewed ∧
      Unchanged documents reviewed := by
  have hlookup : db.flowRuns.lookup (r.projectId, r.workItemId) = some current :=
    Table.lookup_eq_some.2 ⟨hmem, hkey.symm⟩
  obtain ⟨g, db'⟩ := out
  rw [decideGate, Tx.bind_ok] at h
  obtain ⟨r', db₁, hcheck, h⟩ := h
  obtain ⟨rfl, -, -, reason, rfl⟩ := checkDecision_ok hcheck
  rw [Tx.bind_ok] at h
  obtain ⟨reviewed, db₂, hversion, -⟩ := h
  rw [reviewedVersion, Tx.bind_ok] at hversion
  obtain ⟨replayed, db₃, hreplayed, hversion⟩ := hversion
  dsimp only at hreplayed hversion
  rw [reviewedVersionForReplay, Tx.query_bind_ok, Table.lookup_eq_none.2 hfresh] at hreplayed
  simp only [Tx.pure_ok, Prod.mk.injEq] at hreplayed
  obtain ⟨rfl, rfl⟩ := hreplayed
  simp only [currentArtifactVersion, Tx.demand_bind_ok, Tx.require_bind_ok] at hversion
  obtain ⟨found, hfound, _, -, hunchanged, -⟩ := hversion
  refine ⟨found, ?_, hunchanged⟩
  simpa [hlookup, hactive] using hfound

/-! ## Later states -/

lemma ArtifactVerified.not_verified (h : ArtifactVerified current db) {r : VerifyRequest}
    (hkey : (r.projectId, r.workItemId) = current.key)
    (hfresh : FreshRecord r.projectId r.recordId db) (out : GovernanceRecord × Db) :
    verifyArtifact r documents db ≠ .ok out := by
  intro hok
  obtain ⟨run', o', hlocked, hpending⟩ := verifyArtifact_fresh hfresh hok
  obtain ⟨o, ho, hokey, hsatisfied⟩ := h.satisfied
  obtain rfl := db.flowRuns.eq_of_key hlocked.run_mem h.mem (hlocked.run_key.trans hkey)
  obtain ⟨hproject, hwork⟩ := Prod.mk.inj hkey
  have hsame : o'.key = o.key := by
    rw [hlocked.key, hokey, hproject, hwork]
  obtain rfl := db.obligations.eq_of_key hlocked.mem ho hsame
  rw [hpending] at hsatisfied
  cases hsatisfied

/-- As long as the flow stays in its state, its artifact stays verified. -/
lemma ArtifactVerified.later {s : FlowSystem} (h : ArtifactVerified current s.db)
    {es : List FlowEvent} (hstays : current ∈ (run FlowSystem.step s es).db.flowRuns) :
    ArtifactVerified current (run FlowSystem.step s es).db := by
  obtain ⟨o, ho, hkey, hsatisfied⟩ := h.satisfied
  obtain ⟨o', ho', hkey', -, -, hstatus⟩ := (FlowSystem.run_kept s es).obligations o ho
  have hdone : o'.status = .satisfied := (hstatus (by simp [hsatisfied])).trans hsatisfied
  exact ⟨hstays, h.active, o', ho', hkey'.trans hkey, hdone⟩

/-- **Revised artifacts.**  Once the artifact of a state is verified, in every run that stays in the
state no call verifies another version of it, and while the document is another one no call decides
on it. -/
theorem revised_artifact_stuck (s : FlowSystem) (current : FlowRun)
    (h : ArtifactVerified current s.db) (es : List FlowEvent)
    (hstays : current ∈ (run FlowSystem.step s es).db.flowRuns) (documents : Documents)
    (hrevised : Revised documents current (run FlowSystem.step s es).db) :
    NeverReverified documents current (run FlowSystem.step s es).db := by
  have hlater := h.later hstays
  constructor
  · exact fun r hkey hfresh out => hlater.not_verified hkey hfresh out
  · intro r hkey hfresh out hok
    obtain ⟨reviewed, hversion, hchanged⟩ := hrevised
    obtain ⟨found, hfound, hunchanged⟩ := decideGate_fresh hfresh hstays h.active hkey hok
    obtain rfl := Option.some.inj (hversion.symm.trans hfound)
    exact hchanged hunchanged

/-! ## A document that is edited after its verification -/

/-- The next version of the document of the work item `a`. -/
def editedDocuments : Documents := fun _ => some { builtDocument with etag := "v2" }

lemma builtShop_verified : ArtifactVerified firstRun builtShop := by
  refine ⟨startedFirst_run, rfl, ?_⟩
  have hrow : ∃ o ∈ builtShop.obligations.rows, o.key = (firstRun.projectId, firstRun.workItemId,
      firstRun.currentState, firstRun.version, .artifact, "artifact") ∧ o.status = .satisfied := by
    decide
  exact hrow

lemma builtShop_revised : Revised editedDocuments firstRun builtShop := by
  refine ⟨("work/a.md", "v1"), by decide, ?_⟩
  rintro ⟨m, hm, -, hversion⟩
  obtain rfl := Option.some.inj hm
  exact absurd (Prod.mk.inj hversion).2 (by decide)

theorem revised_artifact_stuck_shop : NeverReverified editedDocuments firstRun builtShop :=
  revised_artifact_stuck ⟨builtShop, []⟩ firstRun builtShop_verified [] startedFirst_run
    editedDocuments builtShop_revised

/-- The owner cannot verify the edited document. -/
theorem revised_artifact_not_reverified :
    ¬ ∀ (s : FlowSystem) (documents : Documents) (current : FlowRun), s.Reachable →
      ArtifactVerified current s.db → Revised documents current s.db →
        ∀ recordId, isIdentifier recordId = true → FreshRecord current.projectId recordId s.db →
          ∃ path actorRoleId out, verifyArtifact
            ⟨current.projectId, current.workItemId, path, actorRoleId, recordId⟩ documents s.db =
              .ok out := by
  intro hclaim
  have hfresh : FreshRecord firstRun.projectId "again" builtShop := by
    intro g hg
    obtain rfl := List.mem_singleton.1 hg
    decide
  obtain ⟨path, actorRoleId, out, hok⟩ := hclaim ⟨builtShop, []⟩ editedDocuments firstRun
    builtShop_reachable builtShop_verified builtShop_revised "again" (by decide) hfresh
  exact builtShop_verified.not_verified rfl hfresh out hok

end AgenticMesh
