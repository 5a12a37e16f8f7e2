import AgenticMesh.Base.Run
import AgenticMesh.Release.Coordinator

/-!
# Runs of upgrades

A run is a sequence of calls of `upgrade`, each against the answers of its
environment and stopped wherever they end.  What carries the proofs is that an
attempt keeps its candidate and its previous image from its preparation on, and
that the registered image moves in one transaction only, from the previous
image of an attempt to its candidate.
-/

namespace AgenticMesh

namespace ImmutableReleaseCoordinator

/-! ## What the calls keep -/

/-- No two releases have one image, and the deployed release is the one that is registered. -/
structure Registered (w : ReleaseWorld) : Prop where
  images : w.releases.Unique (·.imageRef)
  deployed : ∀ r ∈ w.releases, r.status = .deployed → r.imageRef = w.boundary.runningImageRef

/-- An attempt of an operation is open in a world that still has the boundary of `w₀`. -/
structure Open (w₀ : ReleaseWorld) (op : String) (p : Option PreparedRelease) (w : ReleaseWorld) :
    Prop where
  boundary : w.boundary = w₀.boundary
  registered : Registered w
  attempt : ∃ a, w.attempts.lookup op = some a ∧ a.prepared = p ∧ ¬ a.status.Terminal

/-- The attempt is prepared with a candidate release of an image. -/
structure Deploying (w₀ : ReleaseWorld) (op : String) (q : PreparedRelease) (c : String)
    (w : ReleaseWorld) : Prop where
  isOpen : Open w₀ op (some q) w
  candidate : ∃ r, w.releases.lookup q.candidateReleaseId = some r ∧ r.imageRef = c

/-- The deployment of the candidate of an operation was committed: the registered image moved
from the previous image of its attempt to the observed one. -/
structure Committed (w₀ : ReleaseWorld) (op : String) (w : ReleaseWorld) : Prop where
  registered : Registered w
  running : w.boundary.runningImageRef = w.image
  attempt : ∃ a p, w.attempts.lookup op = some a ∧ a.status = .deployed ∧ a.prepared = some p ∧
    p.previousImageRef = w₀.boundary.runningImageRef

/-- What holds at every point of a call. -/
def Safe (w₀ : ReleaseWorld) (op : String) (w : ReleaseWorld) : Prop :=
  Registered w ∧ (w.boundary = w₀.boundary ∨ Committed w₀ op w)

/-- What a call that finished its attempt returns. -/
structure Finished (w₀ : ReleaseWorld) (op : String) (a : ReleaseAttempt) (w : ReleaseWorld) :
    Prop where
  attempt : w.attempts.lookup op = some a
  terminal : a.status.Terminal
  deployed : a.status = .deployed → w.image = w.boundary.runningImageRef
  rolledBack : a.status = .rolledBack →
    w.boundary = w₀.boundary ∧ ∃ p, a.prepared = some p ∧ w.image = p.previousImageRef
  rejected : a.status = .rejected → w.boundary = w₀.boundary ∧ w.image = w₀.image

/-- The outcome of a call: an error says nothing. -/
def Outcome (w₀ : ReleaseWorld) (op : String) (r : Except ReleaseError ReleaseAttempt)
    (w : ReleaseWorld) : Prop :=
  ∀ a, r = .ok a → Finished w₀ op a w

section

variable {w₀ w : ReleaseWorld} {op : String} {p : Option PreparedRelease}
  {q : PreparedRelease} {request : UpgradeRequest} {I : ReleaseWorld → Prop}

lemma Open.safe (h : Open w₀ op p w) : Safe w₀ op w := ⟨h.registered, Or.inl h.boundary⟩

/-- An open attempt stays open when the deployment changes. -/
lemma Open.withImage (h : Open w₀ op p w) (image : String) :
    Open w₀ op p { w with image } :=
  ⟨h.boundary, ⟨h.registered.images, h.registered.deployed⟩, h.attempt⟩

lemma outcome_error {e : ReleaseError} : Outcome w₀ op (.error e) w := by
  intro a h
  simp at h

/-! ## Rules for the steps -/

lemma holds_requireReference {Q : Except ReleaseError String → ReleaseWorld → Prop}
    {s message : String} :
    Program.Holds (fun _ => True) I Q (requireReference s message) w ↔
      (∀ t, reference s = some t → Q (.ok t) w) ∧
        (reference s = none → Q (.error (.conflict message)) w) := Program.holds_demand

lemma holds_requireImage {Q : Except ReleaseError Unit → ReleaseWorld → Prop}
    {s message : String} :
    Program.Holds (fun _ => True) I Q (requireImage s message) w ↔
      (isImage s = true → Q (.ok ()) w) ∧
        (¬ isImage s = true → Q (.error (.conflict message)) w) := Program.holds_require

/-- **Transactions.** -/
theorem holds_transaction {α : Type} {Q : Except ReleaseError α → ReleaseWorld → Prop}
    {message : String} {t : ReleaseTx α} (hw : I w) (hfail : Q (.error (.store message)) w)
    (herr : ∀ x, t w = .error x → Q (.error x) w)
    (hok : ∀ a w', t w = .ok (a, w') → I w' ∧ Q (.ok a) w' ∧ Q (.error (.store message)) w') :
    Program.Holds (fun _ => True) I Q (transaction message t) w := by
  refine Program.holds_ask.2 fun e _ => ?_
  cases ht : t w with
  | error x =>
    cases e.database with
    | runs => exact ⟨hw, herr x ht⟩
    | fails => exact ⟨hw, hfail⟩
    | lost => exact ⟨hw, herr x ht⟩
  | ok r =>
    obtain ⟨a, w'⟩ := r
    obtain ⟨hI, hQ, hQ'⟩ := hok a w' ht
    cases e.database with
    | runs => exact ⟨hI, hQ⟩
    | fails => exact ⟨hw, hfail⟩
    | lost => exact ⟨hI, hQ'⟩

/-- A read changes nothing, whether it succeeds or not. -/
lemma holds_query {α : Type} {message : String} {t : ReleaseTx α} {P : α → Prop} (hw : I w)
    (ht : ∀ a w', t w = .ok (a, w') → P a ∧ w' = w) :
    Program.Holds (fun _ => True) I (fun r w' => w' = w ∧ ∀ a, r = .ok a → P a)
    (transaction message t) w := by
  refine holds_transaction hw ⟨rfl, by simp⟩ (fun x _ => ⟨rfl, by simp⟩) fun a w' h => ?_
  obtain ⟨hP, rfl⟩ := ht a w' h
  refine ⟨hw, ⟨rfl, ?_⟩, ⟨rfl, by simp⟩⟩
  rintro _ ⟨⟩
  exact hP

lemma holds_releaseImage {a : ReleaseAttempt} (hw : I w) :
    Program.Holds (fun _ => True) I
    (fun r w' => w' = w ∧ ∀ c, r = .ok c → ∃ q, a.prepared = some q ∧
      ∃ r, w.releases.lookup q.candidateReleaseId = some r ∧ r.imageRef = c)
      (releaseImage a) w := by
  unfold releaseImage
  refine Program.holds_bind.2 (Program.holds_demand.2 ⟨fun q hq => ?_, fun _ => ⟨rfl, by simp⟩⟩)
  refine Program.Holds.bind
    (holds_query (P := fun c => ∃ r, w.releases.lookup q.candidateReleaseId = some r ∧
      r.imageRef = c) hw ?_) ?_ ?_
  · intro c w' h
    obtain ⟨hc, hw'⟩ := Tx.demand_ok.1 h
    exact ⟨by simpa using Option.map_eq_some_iff.1 hc, hw'⟩
  · rintro c w' ⟨rfl, hc⟩
    refine Program.holds_bind.2
      (holds_requireImage.2 ⟨fun _ => ⟨rfl, ?_⟩, fun _ => ⟨rfl, by simp⟩⟩)
    rintro _ ⟨⟩
    exact ⟨q, hq, hc c rfl⟩
  · rintro x w' ⟨rfl, -⟩
    exact ⟨rfl, by simp⟩

lemma holds_previousImage {a : ReleaseAttempt} :
    Program.Holds (fun _ => True) I
    (fun r w' => w' = w ∧ ∀ c, r = .ok c → ∃ q, a.prepared = some q ∧
      q.previousImageRef = c) (previousImage a) w := by
  unfold previousImage
  refine Program.holds_bind.2 (Program.holds_demand.2 ⟨fun q hq => ?_, fun _ => ⟨rfl, by simp⟩⟩)
  refine Program.holds_bind.2
    (holds_requireImage.2 ⟨fun _ => ⟨rfl, ?_⟩, fun _ => ⟨rfl, by simp⟩⟩)
  rintro _ ⟨⟩
  exact ⟨q, hq, rfl⟩

/-- An observation changes nothing, and a healthy one is of the image that was deployed last. -/
lemma holds_observe (hw : I w) :
    Program.Holds (fun _ => True) I (fun r w' => w' = w ∧ ∀ o, r = .ok o → o.healthy = true →
      o.imageRef = some w.image) observe w := by
  unfold observe
  refine Program.holds_bind.2 (Program.holds_ask.2 fun e _ => ?_)
  have hchecks : ∀ o : DeploymentObservation, (o.healthy = true → o.imageRef = some w.image) →
      Program.Holds (fun _ => True) I (fun r w' => w' = w ∧ ∀ o, r = .ok o → o.healthy = true →
        o.imageRef = some w.image)
        (do
          Program.require (o.imageRef.all isImage = true)
            (.conflict "observed image_ref must be digest-pinned")
          let evidenceRef ← requireReference o.evidenceRef "observation evidence_ref is invalid"
          return { o with evidenceRef }) w := by
    intro o ho
    refine Program.holds_bind.2 (Program.holds_require.2 ⟨fun _ => ?_, fun _ => ⟨rfl, by simp⟩⟩)
    refine Program.holds_bind.2 (holds_requireReference.2
      ⟨fun e' _ => ⟨rfl, ?_⟩, fun _ => ⟨rfl, by simp⟩⟩)
    rintro _ ⟨⟩
    exact ho
  cases he : e.observe with
  | raised detail => exact ⟨hw, rfl, by simp⟩
  | healthy evidenceRef => exact ⟨hw, hchecks _ fun _ => rfl⟩
  | unhealthy imageRef evidenceRef => exact ⟨hw, hchecks _ fun h => by simp at h⟩

/-- A caught observation changes nothing and raises nothing. -/
lemma holds_safeObserve (hw : I w) :
    Program.Holds (fun _ => True) I
    (fun r w' => w' = w ∧ ∃ o, r = .ok o ∧ ∀ image,
      Healthy image o → w.image = image) safeObserve w := by
  unfold safeObserve
  refine Program.holds_tryCatch.2 (Program.holds_bind.2 ((holds_observe hw).mono (fun _ h => h) ?_))
  rintro (x | o) w' ⟨rfl, ho⟩
  · exact ⟨rfl, _, rfl, fun image h => absurd h id⟩
  · refine ⟨rfl, _, rfl, fun image h => ?_⟩
    obtain ⟨himage, hhealthy⟩ := h
    exact Option.some.inj ((ho o rfl hhealthy).symm.trans himage)

/-! ## The transactions -/

lemma lookup_updateAttempt {P : ReleaseAttempt → Prop} [DecidablePred P]
    {f : Table.Assign ReleaseAttempt.key} {a : ReleaseAttempt} (h : w.attempts.lookup op = some a)
    (hP : P a) : (updateAttempt op P f w).attempts.lookup op = some (f.set a) := by
  have hkey : a.operationId = op := (Table.lookup_eq_some.1 h).2
  unfold updateAttempt
  rw [Table.lookup_update, h]
  simp [hkey, hP]

lemma Registered.of_eq {w' : ReleaseWorld} (h : Registered w) (hr : w'.releases = w.releases)
    (hb : w'.boundary = w.boundary) : Registered w' := by
  refine ⟨?_, ?_⟩
  · rw [hr]
    exact h.images
  · rw [hr, hb]
    exact h.deployed

/-- A status other than `deployed` registers nothing. -/
lemma Registered.setReleaseStatus (h : Registered w) {P : RuntimeRelease → Prop}
    [DecidablePred P] {status : ReleaseStatus} (hne : status ≠ .deployed) :
    Registered (setReleaseStatus P status w) where
  images := h.images.update fun _ => rfl
  deployed := by
    intro r hr hdeployed
    obtain ⟨r₀, -, -, rfl⟩ | ⟨hr, -⟩ := Table.mem_update_cases hr
    · exact absurd hdeployed hne
    · exact h.deployed r hr hdeployed

/-- `_phase` moves an open attempt. -/
lemma holds_phase {status : AttemptStatus} {error : Option String}
    (h : Open w₀ request.operationId p w) (hstatus : ¬ status.Terminal) :
    Program.Holds (fun _ => True) (Safe w₀ request.operationId)
      (fun r w' => Open w₀ request.operationId p w' ∧ w'.releases = w.releases ∧
        w'.image = w.image ∧ ∀ a, r = .ok a → a.prepared = p)
      (phase request status error) w := by
  unfold phase
  refine holds_transaction h.safe ⟨h, rfl, rfl, by simp⟩ (fun x _ => ⟨h, rfl, rfl, by simp⟩) ?_
  intro a w' ht
  obtain ⟨b, hb, hprepared, hlive⟩ := h.attempt
  rw [Tx.modify_bind_ok, requiredRead, Tx.demand_ok] at ht
  obtain ⟨hread, rfl⟩ := ht
  rw [lookup_updateAttempt hb hlive] at hread
  have hopen : Open w₀ request.operationId p
      (updateAttempt request.operationId (fun a => ¬ a.status.Terminal)
        { set := fun a => { a with
            status, error := error.or a.error, version := a.version + 1 } } w) :=
    ⟨h.boundary, h.registered.of_eq rfl rfl, _, lookup_updateAttempt hb hlive, hprepared, hstatus⟩
  refine ⟨hopen.safe, ⟨hopen, rfl, rfl, ?_⟩, hopen, rfl, rfl, by simp⟩
  rintro _ ⟨⟩
  exact (congrArg ReleaseAttempt.prepared (Option.some.inj hread).symm).trans hprepared

lemma finishInTransaction_ok {status : AttemptStatus} {error : Option String} {evidence : Json}
    {a b : ReleaseAttempt} {w' : ReleaseWorld}
    (ht : finishInTransaction op status error evidence w = .ok (a, w'))
    (hb : w.attempts.lookup op = some b) (hlive : ¬ b.status.Terminal) :
    w'.attempts.lookup op = some a ∧ a.status = status ∧ a.prepared = b.prepared ∧
      w'.boundary = w.boundary ∧ w'.releases = w.releases ∧ w'.image = w.image := by
  rw [finishInTransaction, requiredRead, Tx.demand_bind_ok] at ht
  obtain ⟨c, hc, ht⟩ := ht
  obtain rfl := Option.some.inj (hb.symm.trans hc)
  rw [if_neg hlive] at ht
  simp only [Tx.modify_bind_ok, Tx.demand_ok] at ht
  obtain ⟨hread, rfl⟩ := ht
  refine ⟨hread, ?_, ?_, rfl, rfl, rfl⟩ <;>
  · rw [lookup_updateAttempt hb trivial] at hread
    rw [← Option.some.inj hread]

/-- `_finish` ends an open attempt. -/
lemma holds_finish {status : AttemptStatus} {error : Option String} {evidence : Json}
    {Q : Except ReleaseError ReleaseAttempt → ReleaseWorld → Prop}
    (h : Open w₀ request.operationId p w) (hne : status ≠ .deployed)
    (herr : ∀ e w', Q (.error e) w')
    (hok : ∀ a w', w'.attempts.lookup request.operationId = some a → a.status = status →
      a.prepared = p → w'.boundary = w₀.boundary → w'.image = w.image → Q (.ok a) w') :
    Program.Holds (fun _ => True) (Safe w₀ request.operationId) Q
    (finish request status error evidence) w := by
  unfold finish
  refine holds_transaction h.safe (herr _ _) (fun x _ => herr _ _) fun a w' ht => ?_
  obtain ⟨b, hb, hprepared, hlive⟩ := h.attempt
  obtain ⟨c, mid, hfin, ht⟩ := Tx.bind_ok.1 ht
  obtain ⟨hrow, hstatus, hsame, hboundary, hreleases, himage⟩ :=
    finishInTransaction_ok hfin hb hlive
  rw [Tx.modify_bind_ok] at ht
  obtain ⟨rfl, rfl⟩ := Prod.mk.inj (Tx.pure_ok.1 ht)
  have hmid : Registered mid := h.registered.of_eq hreleases hboundary
  have hreject : Registered (rejectCandidate a status mid) ∧
      (rejectCandidate a status mid).boundary = mid.boundary ∧
      (rejectCandidate a status mid).attempts = mid.attempts ∧
      (rejectCandidate a status mid).image = mid.image := by
    unfold rejectCandidate
    cases a.prepared with
    | none => exact ⟨hmid, rfl, rfl, rfl⟩
    | some q =>
      simp only [if_pos hne]
      exact ⟨hmid.setReleaseStatus (by decide), rfl, rfl, rfl⟩
  obtain ⟨hreg, hb', ha', hi'⟩ := hreject
  have hbound := hb'.trans (hboundary.trans h.boundary)
  exact ⟨⟨hreg, Or.inl hbound⟩,
    hok a _ (by rw [ha']; exact hrow) hstatus (hsame.trans hprepared) hbound (hi'.trans himage),
    herr _ _⟩

/-- The transaction of `_deployed` moves the registered image to the candidate. -/
lemma deployedInTransaction_ok {c evidence : String} {a : ReleaseAttempt} {w' : ReleaseWorld}
    (h : Deploying w₀ request.operationId q c w) (himage : w.image = c)
    (ht : deployedInTransaction request q c evidence w = .ok (a, w')) :
    Committed w₀ request.operationId w' ∧ w'.attempts.lookup request.operationId = some a ∧
      a.status = .deployed := by
  obtain ⟨b, hb, hprepared, hlive⟩ := h.isOpen.attempt
  obtain ⟨r, hr, hrimage⟩ := h.candidate
  rw [deployedInTransaction, Tx.query_bind_ok, Tx.require_bind_ok, Tx.modify_bind_ok,
    Tx.modify_bind_ok, Tx.modify_bind_ok] at ht
  obtain ⟨hrunning, ht⟩ := ht
  obtain ⟨hrow, hstatus, hsame, hboundary, hreleases, himage'⟩ :=
    finishInTransaction_ok ht hb hlive
  refine ⟨⟨⟨?_, ?_⟩, ?_, a, q, hrow, hstatus, hsame.trans hprepared, ?_⟩, hrow, hstatus⟩
  · rw [hreleases]
    exact (h.isOpen.registered.images.update fun _ => rfl).update fun _ => rfl
  · -- the only deployed release is the candidate: the one of the previous image was retired
    rw [hreleases, hboundary]
    intro s hs hdeployed
    obtain ⟨s₁, hs₁, hid, rfl⟩ | ⟨hs, hid⟩ := Table.mem_update_cases hs
    · obtain ⟨s₀, hs₀, -, rfl⟩ | ⟨hs₁, -⟩ := Table.mem_update_cases hs₁
      · obtain rfl := w.releases.eq_of_key hs₀ (Table.lookup_eq_some.1 hr).1
          (hid.trans (Table.lookup_eq_some.1 hr).2.symm)
        exact hrimage
      · obtain rfl := w.releases.eq_of_key hs₁ (Table.lookup_eq_some.1 hr).1
          (hid.trans (Table.lookup_eq_some.1 hr).2.symm)
        exact hrimage
    · obtain ⟨s₀, -, -, rfl⟩ | ⟨hs, hold⟩ := Table.mem_update_cases hs
      · simp at hdeployed
      · exact absurd ⟨(h.isOpen.registered.deployed s hs hdeployed).trans hrunning, hdeployed⟩ hold
  · exact (congrArg RuntimeBoundary.runningImageRef hboundary).trans
      (himage.symm.trans himage'.symm)
  · rw [← hrunning, h.isOpen.boundary]

/-- `_deployed` of a candidate that was observed. -/
lemma holds_deployed {c : String} {a : ReleaseAttempt} {o : DeploymentObservation}
    (h : Deploying w₀ request.operationId q c w) (himage : w.image = c)
    (ha : a.prepared = some q) :
    Program.Holds (fun _ => True) (Safe w₀ request.operationId) (Outcome w₀ request.operationId)
      (deployed request a o) w := by
  have hsafe := h.isOpen.safe
  unfold deployed
  refine (holds_releaseImage hsafe).bind ?_ fun x w' _ => outcome_error
  rintro c' w' ⟨rfl, hc'⟩
  obtain ⟨q', hq', r, hr, hrc⟩ := hc' c' rfl
  obtain rfl := Option.some.inj (ha.symm.trans hq')
  -- the candidate is read again and is the one of before
  obtain rfl : c' = c := by
    obtain ⟨r', hr', hrc'⟩ := h.candidate
    obtain rfl := Option.some.inj (hr.symm.trans hr')
    exact hrc.symm.trans hrc'
  refine holds_previousImage.bind ?_ fun x w' _ => outcome_error
  rintro _ w'' ⟨rfl, -⟩
  refine Program.holds_bind.2 (Program.holds_demand.2 ⟨fun q' hq' => ?_, fun _ => outcome_error⟩)
  obtain rfl := Option.some.inj (ha.symm.trans hq')
  refine holds_transaction hsafe outcome_error (fun x _ => outcome_error) fun b w' ht => ?_
  obtain ⟨hcommitted, hrow, hstatus⟩ := deployedInTransaction_ok h himage ht
  refine ⟨⟨hcommitted.registered, Or.inr hcommitted⟩, ?_, outcome_error⟩
  rintro _ ⟨⟩
  exact {
    attempt := hrow
    terminal := by rw [hstatus]; trivial
    deployed := fun _ => hcommitted.running.symm
    rolledBack := fun hs => by simp [hstatus] at hs
    rejected := fun hs => by simp [hstatus] at hs }

/-! ## The phases -/

lemma Deploying.withImage {c : String} (h : Deploying w₀ op q c w) (image : String) :
    Deploying w₀ op q c { w with image } :=
  ⟨h.isOpen.withImage image, h.candidate⟩

/-- A call of the driver changes the deployment only. -/
lemma holds_deploy {image : String} {Q : Except ReleaseError Unit → ReleaseWorld → Prop}
    (hI : ∀ image, I { w with image }) (hQ : ∀ r image, Q r { w with image }) :
    Program.Holds (fun _ => True) I Q (deploy image) w := by
  refine Program.holds_ask.2 fun e _ => ?_
  cases he : e.deploy with
  | replaced => exact ⟨hI image, hQ _ _⟩
  | raised detail replaced =>
    cases replaced with
    | true => exact ⟨hI image, hQ _ _⟩
    | false => exact ⟨hI w.image, hQ _ w.image⟩

/-- `_finish_rollback` while the previous image runs. -/
lemma holds_finishRollback {a : ReleaseAttempt} {evidenceRef : String}
    (h : Open w₀ request.operationId (some q) w) (himage : w.image = q.previousImageRef) :
    Program.Holds (fun _ => True) (Safe w₀ request.operationId) (Outcome w₀ request.operationId)
      (finishRollback request a evidenceRef) w := by
  refine holds_finish h (by decide) (fun e w' => outcome_error) ?_
  intro b w' hrow hstatus hprepared hboundary himage'
  rintro _ ⟨⟩
  exact {
    attempt := hrow
    terminal := by rw [hstatus]; trivial
    deployed := fun hs => by simp [hstatus] at hs
    rolledBack := fun _ => ⟨hboundary, q, hprepared, himage'.trans himage⟩
    rejected := fun hs => by simp [hstatus] at hs }

/-- `_rollback` ends with the previous image or fails. -/
lemma holds_rollback {a : ReleaseAttempt} (h : Open w₀ request.operationId (some q) w) :
    Program.Holds (fun _ => True) (Safe w₀ request.operationId) (Outcome w₀ request.operationId)
      (rollback request a q.previousImageRef) w := by
  unfold rollback
  refine (holds_safeObserve h.safe).bind ?_ fun x w' _ => outcome_error
  rintro o w' ⟨rfl, o', ⟨⟩, ho⟩
  split
  · next hhealthy => exact holds_finishRollback h (ho _ hhealthy)
  · refine Program.Holds.bind (Q := fun r w' => Open w₀ request.operationId (some q) w') ?_ ?_
      fun x w' _ => outcome_error
    · refine Program.Holds.tryCatch (Q := fun r w' => Open w₀ request.operationId (some q) w') ?_
        (fun _ _ h => h) fun _ _ h => h
      refine Program.holds_bind.2 (holds_deploy (fun image => (h.withImage image).safe) ?_)
      rintro (x | u) image
      · exact h.withImage image
      · exact h.withImage image
    · intro deployError w₁ h₁
      refine (holds_safeObserve h₁.safe).bind ?_ fun x w' _ => outcome_error
      rintro o₂ w' ⟨rfl, _, ⟨⟩, ho₂⟩
      split
      · next hhealthy => exact holds_finishRollback h₁ (ho₂ _ hhealthy)
      · refine holds_finish h₁ (by decide) (fun e w' => outcome_error) ?_
        intro b w' hrow hstatus hprepared hboundary himage
        rintro _ ⟨⟩
        exact {
          attempt := hrow
          terminal := by rw [hstatus]; trivial
          deployed := fun hs => by simp [hstatus] at hs
          rolledBack := fun hs => by simp [hstatus] at hs
          rejected := fun hs => by simp [hstatus] at hs }

lemma holds_rollbackPhase {a : ReleaseAttempt} (h : Open w₀ request.operationId (some q) w) :
    Program.Holds (fun _ => True) (Safe w₀ request.operationId) (Outcome w₀ request.operationId)
      (rollbackPhase request a q.previousImageRef) w := by
  unfold rollbackPhase
  exact Program.holds_bind.2 (Program.holds_require.2
    ⟨fun _ => holds_rollback h, fun _ => outcome_error⟩)

/-- `_phase` keeps what a deploying attempt knows. -/
lemma holds_phase_deploying {c : String} {status : AttemptStatus} {error : Option String}
    (h : Deploying w₀ request.operationId q c w) (hstatus : ¬ status.Terminal) :
    Program.Holds (fun _ => True) (Safe w₀ request.operationId)
      (fun r w' => Deploying w₀ request.operationId q c w' ∧ ∀ a, r = .ok a →
        a.prepared = some q) (phase request status error) w := by
  refine (holds_phase h.isOpen hstatus).mono (fun _ h => h) ?_
  rintro r w' ⟨hopen, hreleases, -, hprepared⟩
  refine ⟨⟨hopen, ?_⟩, hprepared⟩
  rw [hreleases]
  exact h.candidate

lemma holds_verify {c : String} {a : ReleaseAttempt}
    (h : Deploying w₀ request.operationId q c w) (ha : a.prepared = some q) :
    Program.Holds (fun _ => True) (Safe w₀ request.operationId) (Outcome w₀ request.operationId)
      (verify request a c q.previousImageRef) w := by
  unfold verify
  refine (holds_safeObserve h.isOpen.safe).bind ?_ fun x w' _ => outcome_error
  rintro o w' ⟨rfl, _, ⟨⟩, ho⟩
  split
  · next hhealthy => exact holds_deployed h (ho _ hhealthy) ha
  · refine (holds_phase_deploying h (by decide)).bind ?_ fun x w' _ => outcome_error
    rintro b w' ⟨h', -⟩
    exact holds_rollbackPhase h'.isOpen

lemma holds_continueAfter {c : String} {a : ReleaseAttempt}
    (h : Deploying w₀ request.operationId q c w) (ha : a.prepared = some q) :
    Program.Holds (fun _ => True) (Safe w₀ request.operationId) (Outcome w₀ request.operationId)
      (continueAfter request a c q.previousImageRef) w := by
  unfold continueAfter
  split
  · exact holds_verify h ha
  · exact holds_rollbackPhase h.isOpen

lemma holds_deployCandidate {c : String} {a : ReleaseAttempt}
    (h : Deploying w₀ request.operationId q c w) (ha : a.prepared = some q) :
    Program.Holds (fun _ => True) (Safe w₀ request.operationId) (Outcome w₀ request.operationId)
      (deployCandidate request a c q.previousImageRef) w := by
  unfold deployCandidate
  refine (holds_safeObserve h.isOpen.safe).bind ?_ fun x w' _ => outcome_error
  rintro o w' ⟨rfl, _, ⟨⟩, ho⟩
  have hnext : ∀ status error, ¬ AttemptStatus.Terminal status →
      Program.Holds (fun _ => True) (Safe w₀ request.operationId) (Outcome w₀ request.operationId)
        (do
          let attempt ← phase request status error
          continueAfter request attempt c q.previousImageRef) w' := by
    intro status error hstatus
    refine (holds_phase_deploying h hstatus).bind ?_ fun x w' _ => outcome_error
    rintro b w' ⟨h', hb⟩
    exact holds_continueAfter h' (hb b rfl)
  split
  · next hhealthy => exact holds_deployed h (ho _ hhealthy) ha
  split
  · exact hnext _ _ (by decide)
  split
  · -- the candidate is deployed in the place of the previous image
    refine Program.Holds.bind
      (Q := fun r w' => Deploying w₀ request.operationId q c w' ∧ ∀ a, r = .ok a →
        a.prepared = some q) ?_ ?_ fun x w' _ => outcome_error
    · refine Program.Holds.tryCatch
        (Q := fun r w' => Deploying w₀ request.operationId q c w' ∧ ∀ a, r = .ok a →
          a.prepared = some q) ?_ (fun _ _ h => h) ?_
      · refine Program.holds_bind.2 (holds_deploy (fun image => (h.withImage image).isOpen.safe) ?_)
        rintro (x | u) image
        · exact ⟨h.withImage image, by simp⟩
        · exact holds_phase_deploying (h.withImage image) (by decide)
      · rintro x w₁ ⟨h₁, -⟩
        exact holds_phase_deploying h₁ (by decide)
    · rintro b w₁ ⟨h₁, hb⟩
      exact holds_continueAfter h₁ (hb b rfl)
  · exact hnext _ _ (by decide)

/-- `_continue` of an open attempt. -/
lemma holds_continueAttempt {a : ReleaseAttempt} (h : Open w₀ request.operationId a.prepared w) :
    Program.Holds (fun _ => True) (Safe w₀ request.operationId) (Outcome w₀ request.operationId)
      (continueAttempt request a) w := by
  unfold continueAttempt
  refine (holds_releaseImage h.safe).bind ?_ fun x w' _ => outcome_error
  rintro c w' ⟨rfl, hc⟩
  obtain ⟨q, hq, hcandidate⟩ := hc c rfl
  have hdeploying : Deploying w₀ request.operationId q c w' := ⟨hq ▸ h, hcandidate⟩
  refine holds_previousImage.bind ?_ fun x w' _ => outcome_error
  rintro previous w'' ⟨rfl, hp⟩
  obtain ⟨q', hq', rfl⟩ := hp previous rfl
  obtain rfl := Option.some.inj (hq.symm.trans hq')
  split
  · exact holds_deployCandidate hdeploying hq
  · exact holds_continueAfter hdeploying hq

/-! ## Building -/

/-- The call has deployed nothing yet. -/
def Quiet (w₀ : ReleaseWorld) (op : String) (w : ReleaseWorld) : Prop :=
  (∃ p, Open w₀ op p w) ∧ w.image = w₀.image

lemma Quiet.safe (h : Quiet w₀ op w) : Safe w₀ op w := by
  obtain ⟨⟨p, hopen⟩, -⟩ := h
  exact hopen.safe

/-- A step that leaves the world alone. -/
lemma holds_still {α : Type} {Q : Except ReleaseError α → ReleaseWorld → Prop}
    {f : ReleaseAnswer → ReleaseWorld → Except ReleaseError α} (hw : I w)
    (hQ : ∀ r, Q r w) : Program.Holds (fun _ => True) I Q (Program.ask fun e w => (f e w, w)) w :=
  Program.holds_ask.2 fun _ _ => ⟨hw, hQ _⟩

lemma holds_build (hw : I w) : Program.Holds (fun _ => True) I (fun _ w' => w' = w) build w := by
  unfold build
  refine Program.holds_bind.2 (holds_still hw ?_)
  rintro (x | v)
  · exact rfl
  refine Program.holds_bind.2 (Program.holds_require.2 ⟨fun _ => ?_, fun _ => rfl⟩)
  refine Program.holds_bind.2 (Program.holds_require.2 ⟨fun _ => ?_, fun _ => rfl⟩)
  refine Program.holds_bind.2 (Program.holds_require.2 ⟨fun _ => ?_, fun _ => rfl⟩)
  refine Program.holds_bind.2 (holds_requireImage.2 ⟨fun _ => ?_, fun _ => rfl⟩)
  refine Program.holds_bind.2 (holds_requireReference.2 ⟨fun _ _ => ?_, fun _ => rfl⟩)
  exact Program.holds_bind.2 (holds_requireReference.2 ⟨fun _ _ => rfl, fun _ => rfl⟩)

lemma insertRelease_registered {r : RuntimeRelease} {w' : ReleaseWorld} (h : Registered w)
    (hstatus : r.status ≠ .deployed) (hins : insertRelease r w = some w') :
    Registered w' ∧ w'.boundary = w.boundary ∧ w'.attempts = w.attempts ∧ w'.image = w.image := by
  unfold insertRelease at hins
  split at hins
  · obtain rfl := Option.some.inj hins
    exact ⟨h, rfl, rfl, rfl⟩
  split at hins
  · simp at hins
  · next hfree =>
    obtain ⟨releases, hr, rfl⟩ := Option.map_eq_some_iff.1 hins
    have hnew : ∀ s ∈ w.releases, s.imageRef ≠ r.imageRef := fun s hs heq => hfree ⟨s, hs, heq⟩
    refine ⟨⟨h.images.insert hnew hr, fun s hs hd => ?_⟩, rfl, rfl, rfl⟩
    rcases (Table.mem_of_insert hr s).1 hs with hs | rfl
    · exact h.deployed s hs hd
    · exact absurd hd hstatus

/-- The last transaction of `_prepare` opens the phase `deploying`. -/
lemma prepareInTransaction_ok {releaseId observed : String} {candidate : VerifiedImage}
    {range : ℕ × ℕ} {evidence : Json} {a : ReleaseAttempt} {w' : ReleaseWorld}
    (h : Quiet w₀ request.operationId w)
    (ht : prepareInTransaction request releaseId candidate observed range evidence w =
      .ok (a, w')) :
    Quiet w₀ request.operationId w' ∧ Open w₀ request.operationId a.prepared w' ∧
      ¬ a.status.Terminal := by
  obtain ⟨⟨p, hopen⟩, himage⟩ := h
  rw [prepareInTransaction, Tx.query_bind_ok, Tx.require_bind_ok, Tx.attempt_bind_ok] at ht
  obtain ⟨-, mid, hins, ht⟩ := ht
  obtain ⟨hreg, hboundary, hattempts, himage'⟩ :=
    insertRelease_registered hopen.registered (by simp) hins
  rw [Tx.demand_bind_ok] at ht
  obtain ⟨release, -, ht⟩ := ht
  rw [Tx.require_bind_ok, requiredRead, Tx.demand_bind_ok] at ht
  obtain ⟨-, b, hb, ht⟩ := ht
  rw [Tx.require_bind_ok, Tx.modify_bind_ok, Tx.demand_ok] at ht
  obtain ⟨-, hread, hw'⟩ := ht
  dsimp only at hread hw'
  have hrow : w'.attempts.lookup request.operationId = some a := by
    rw [hw']
    exact hread
  have hkept : w'.boundary = mid.boundary ∧ w'.releases = mid.releases ∧ w'.image = mid.image := by
    rw [hw']
    exact ⟨rfl, rfl, rfl⟩
  obtain ⟨hb', hr', hi'⟩ := hkept
  rw [lookup_updateAttempt hb trivial] at hread
  have hlive : ¬ a.status.Terminal := by
    rw [← Option.some.inj hread]
    exact id
  have hopen' : Open w₀ request.operationId a.prepared w' :=
    ⟨hb'.trans (hboundary.trans hopen.boundary), hreg.of_eq hr' hb', a, hrow, rfl, hlive⟩
  exact ⟨⟨⟨_, hopen'⟩, hi'.trans (himage'.trans himage)⟩, hopen', hlive⟩

lemma holds_prepare {releaseId : String} {candidate : VerifiedImage}
    (h : Quiet w₀ request.operationId w) :
    Program.Holds (fun _ => True) (Safe w₀ request.operationId)
      (fun r w' => Quiet w₀ request.operationId w' ∧ ∀ a, r = .ok a →
        Open w₀ request.operationId a.prepared w' ∧ ¬ a.status.Terminal)
      (prepare request releaseId candidate) w := by
  have herr : ∀ {x : ReleaseError}, Quiet w₀ request.operationId w ∧
      ∀ a, (.error x : Except ReleaseError ReleaseAttempt) = .ok a →
        Open w₀ request.operationId a.prepared w ∧ ¬ a.status.Terminal := fun {x} => ⟨h, by simp⟩
  unfold prepare
  refine Program.holds_bind.2 (holds_still h.safe ?_)
  rintro (x | databaseVersion)
  · exact herr
  refine Program.holds_bind.2 (Program.holds_require.2 ⟨fun _ => ?_, fun _ => herr⟩)
  refine (holds_query (P := fun _ => True) h.safe fun a w' ht => ?_).bind ?_ ?_
  · exact ⟨trivial, congrArg Prod.snd (Tx.query_ok.1 ht)⟩
  · rintro boundary w' ⟨rfl, -⟩
    refine (holds_observe h.safe).bind ?_ ?_
    · rintro observed w' ⟨rfl, -⟩
      refine Program.holds_bind.2 (Program.holds_require.2 ⟨fun _ => ?_, fun _ => herr⟩)
      refine Program.holds_bind.2 (Program.holds_require.2 ⟨fun _ => ?_, fun _ => herr⟩)
      refine Program.holds_bind.2 (Program.holds_require.2 ⟨fun _ => ?_, fun _ => herr⟩)
      refine (holds_query (P := fun _ => True) h.safe fun a w' ht => ?_).bind ?_ ?_
      · exact ⟨trivial, congrArg Prod.snd (Tx.query_ok.1 ht)⟩
      · rintro range w' ⟨rfl, -⟩
        refine Program.holds_bind.2 (Program.holds_require.2 ⟨fun _ => ?_, fun _ => herr⟩)
        refine holds_transaction h.safe herr (fun x _ => herr) fun a w' ht => ?_
        obtain ⟨hquiet, hopen⟩ := prepareInTransaction_ok h ht
        refine ⟨hquiet.safe, ⟨hquiet, ?_⟩, hquiet, by simp⟩
        rintro _ ⟨⟩
        exact hopen
      · rintro x w' ⟨rfl, -⟩
        exact herr
    · rintro x w' ⟨rfl, -⟩
      exact herr
  · rintro x w' ⟨rfl, -⟩
    exact herr

/-- `_build` prepares the attempt or rejects it, and deploys nothing. -/
lemma holds_buildCandidate {releaseId : String} (h : Quiet w₀ request.operationId w) :
    Program.Holds (fun _ => True) (Safe w₀ request.operationId)
      (fun r w' => ∀ a, r = .ok a →
        Open w₀ request.operationId a.prepared w' ∧ ¬ a.status.Terminal ∨
          Finished w₀ request.operationId a w')
      (buildCandidate request releaseId) w := by
  unfold buildCandidate
  refine Program.Holds.tryCatch
    (Q := fun r w' => Quiet w₀ request.operationId w' ∧ ∀ a, r = .ok a →
      Open w₀ request.operationId a.prepared w' ∧ ¬ a.status.Terminal) ?_ ?_ ?_
  · refine Program.holds_bind.2 (holds_still h.safe ?_)
    rintro (x | u)
    · exact ⟨h, by simp⟩
    refine (holds_build h.safe).bind ?_ ?_
    · rintro candidate w' rfl
      exact holds_prepare h
    · rintro x w' rfl
      exact ⟨h, by simp⟩
  · rintro a w' ⟨-, hopen⟩ _ ⟨⟩
    exact Or.inl (hopen a rfl)
  · rintro x w' ⟨⟨⟨p, hopen⟩, himage⟩, -⟩
    refine holds_finish hopen (by decide) (fun e w' => by simp) ?_
    intro b w'' hrow hstatus hprepared hboundary himage'
    rintro _ ⟨⟩
    exact Or.inr {
      attempt := hrow
      terminal := by rw [hstatus]; trivial
      deployed := fun hs => by simp [hstatus] at hs
      rolledBack := fun hs => by simp [hstatus] at hs
      rejected := fun _ => ⟨hboundary, himage'.trans himage⟩ }

/-! ## Calls -/

lemma insertAttempt_cases (a : ReleaseAttempt) (w : ReleaseWorld) :
    (insertAttempt a w = w ∧ ∃ b, w.attempts.lookup a.operationId = some b) ∨
      (insertAttempt a w).attempts.lookup a.operationId = some a ∧
        w.attempts.lookup a.operationId = none ∧
        (insertAttempt a w).boundary = w.boundary ∧ (insertAttempt a w).image = w.image ∧
        (insertAttempt a w).releases = w.releases := by
  unfold insertAttempt
  cases hins : w.attempts.insert a with
  | none =>
    left
    refine ⟨rfl, ?_⟩
    cases hlook : w.attempts.lookup a.operationId with
    | none =>
      obtain ⟨t, ht⟩ := Table.insert_isSome_of_fresh (Table.lookup_eq_none.1 hlook)
      rw [show w.attempts.insert a = some t from ht] at hins
      simp at hins
    | some b => exact ⟨b, rfl⟩
  | some attempts =>
    right
    refine ⟨?_, ?_, rfl, rfl, rfl⟩
    · rw [Table.lookup_of_insert hins]
      exact if_pos rfl
    · exact Table.lookup_eq_none.2 (Table.insert_eq_some.1 hins).1

/-- `_start` finds the attempt of an operation or opens it. -/
lemma holds_start (h : Registered w) :
    Program.Holds (fun _ => True) (Safe w request.operationId)
      (fun r w' => ∀ a, r = .ok a →
        w'.attempts.lookup request.operationId = some a ∧ w'.boundary = w.boundary ∧
        w'.image = w.image ∧ Registered w' ∧
        (w' = w ∨ w.attempts.lookup request.operationId = none ∧ a.status = .building))
      (start request) w := by
  unfold start
  refine holds_transaction ⟨h, Or.inl rfl⟩ (by simp) (fun x _ => by simp) fun a w' ht => ?_
  rw [Tx.modify_bind_ok, requiredRead, Tx.demand_bind_ok] at ht
  obtain ⟨b, hb, ht⟩ := ht
  rw [Tx.require_bind_ok] at ht
  obtain ⟨-, ht⟩ := ht
  obtain ⟨rfl, rfl⟩ := Prod.mk.inj (Tx.pure_ok.1 ht)
  rcases insertAttempt_cases
    { operationId := request.operationId, sourceRevision := request.sourceRevision,
      prepared := none, status := .building, error := none, evidence := .obj [],
      startedBy := request.actorId, version := 1 } w with
    ⟨hsame, -⟩ | ⟨hnew, hnone, hboundary, himage, hreleases⟩
  · rw [hsame] at hb ⊢
    refine ⟨⟨h, Or.inl rfl⟩, ?_, by simp⟩
    rintro _ ⟨⟩
    exact ⟨hb, rfl, rfl, h, Or.inl rfl⟩
  · have hreg := h.of_eq hreleases hboundary
    refine ⟨⟨hreg, Or.inl hboundary⟩, ?_, by simp⟩
    rintro _ ⟨⟩
    obtain rfl := Option.some.inj (hnew.symm.trans hb)
    exact ⟨hb, hboundary, himage, hreg, Or.inr ⟨hnone, rfl⟩⟩

/-- **Calls.** What a call of `upgrade` keeps at every point, and what it returns when it finished
the attempt of its operation. -/
theorem holds_upgrade (project : String) (request : UpgradeRequest) (h : Registered w) :
    Program.Holds (fun _ => True) (Safe w request.operationId)
      (fun r w' => ∀ a, r = .ok a →
        (∃ b, w.attempts.lookup request.operationId = some b ∧ b.status.Terminal) ∧ w' = w ∨
          Finished w request.operationId a w') (upgrade project request) w := by
  have herr : ∀ {x : ReleaseError} {w' : ReleaseWorld}, ∀ a,
      (.error x : Except ReleaseError ReleaseAttempt) = .ok a →
        (∃ b, w.attempts.lookup request.operationId = some b ∧ b.status.Terminal) ∧ w' = w ∨
          Finished w request.operationId a w' := by simp
  unfold upgrade
  refine Program.holds_bind.2 (Program.holds_require.2 ⟨fun _ => ?_, fun _ => herr⟩)
  refine Program.holds_bind.2 (Program.holds_require.2 ⟨fun _ => ?_, fun _ => herr⟩)
  refine Program.holds_bind.2 (Program.holds_require.2 ⟨fun _ => ?_, fun _ => herr⟩)
  refine (holds_start h).bind ?_ fun x w' _ => herr
  intro a w' hstart
  obtain ⟨hrow, hboundary, himage, hreg, hfound⟩ := hstart a rfl
  split
  · next hterminal =>
    -- the attempt was finished by an earlier call
    rintro _ ⟨⟩
    rcases hfound with rfl | ⟨-, hbuilding⟩
    · exact Or.inl ⟨⟨a, hrow, hterminal⟩, rfl⟩
    · rw [hbuilding] at hterminal
      exact absurd hterminal id
  · next hlive =>
    have hopen : Open w request.operationId a.prepared w' :=
      ⟨hboundary, hreg, a, hrow, rfl, hlive⟩
    have hnext : ∀ {b : ReleaseAttempt} {w'' : ReleaseWorld},
        Open w request.operationId b.prepared w'' ∧ ¬ b.status.Terminal ∨
          Finished w request.operationId b w'' →
        Program.Holds (fun _ => True) (Safe w request.operationId)
          (fun r w' => ∀ a, r = .ok a →
            (∃ b, w.attempts.lookup request.operationId = some b ∧ b.status.Terminal) ∧ w' = w ∨
              Finished w request.operationId a w')
          (if b.status.Terminal then return b else continueAttempt request b) w'' := by
      rintro b w'' (⟨hopen, hlive⟩ | hfin)
      · rw [if_neg hlive]
        exact (holds_continueAttempt hopen).mono (fun _ h => h) fun r w' hout a ha =>
          Or.inr (hout a ha)
      · rw [if_pos hfin.terminal]
        rintro _ ⟨⟩
        exact Or.inr hfin
    split
    · refine (holds_buildCandidate ⟨⟨_, hopen⟩, himage⟩).bind ?_ fun x w' _ => herr
      intro b w'' hb
      exact hnext (hb b rfl)
    · exact hnext (Or.inl ⟨hopen, hlive⟩)

end

end ImmutableReleaseCoordinator

open ImmutableReleaseCoordinator

/-! ## Runs -/

/-- A call of `upgrade` with the answers of its environment; it dies where they end. -/
structure UpgradeCall where
  request : UpgradeRequest
  answers : List ReleaseAnswer

namespace ReleaseWorld

/-- A project whose image was registered and deployed by hand. -/
def start (manifestDigest image : String) : ReleaseWorld where
  boundary := ⟨manifestDigest, image, 1⟩
  releases := ∅
  attempts := ∅
  image := image

def step (project : String) (w : ReleaseWorld) (c : UpgradeCall) : ReleaseWorld :=
  ((upgrade project c.request).run c.answers w).2

/-- The attempt that a call returns. -/
def returned (project : String) (w : ReleaseWorld) (c : UpgradeCall) : Option ReleaseAttempt :=
  match ((upgrade project c.request).run c.answers w).1 with
  | some (.ok a) => some a
  | _ => none

/-- The call finishes the attempt of its operation. -/
def Finishes (project : String) (w : ReleaseWorld) (c : UpgradeCall) (a : ReleaseAttempt) : Prop :=
  returned project w c = some a ∧
    ¬ ∃ b, w.attempts.lookup c.request.operationId = some b ∧ b.status.Terminal

variable {project : String} {w : ReleaseWorld} {c : UpgradeCall}

/-- What a call that finishes its attempt leaves behind. -/
def summary (project : String) (w : ReleaseWorld) (c : UpgradeCall) :
    Option AttemptStatus × Option AttemptStatus × String × String :=
  ((w.attempts.lookup c.request.operationId).map (·.status),
    (returned project w c).map (·.status), (step project w c).image,
    (step project w c).boundary.runningImageRef)

lemma finishes_of_summary {s : Option AttemptStatus} {t : AttemptStatus} {image running : String}
    (h : summary project w c = (s, some t, image, running)) (hs : ∀ u ∈ s, ¬ u.Terminal) :
    ∃ a, Finishes project w c a ∧ a.status = t ∧ (step project w c).image = image ∧
      (step project w c).boundary.runningImageRef = running := by
  obtain ⟨hrow, hret, himage, hrunning⟩ : _ ∧ _ ∧ _ ∧ _ := by
    simpa only [summary, Prod.mk.injEq] using h
  obtain ⟨a, ha, hstatus⟩ := Option.map_eq_some_iff.1 hret
  refine ⟨a, ⟨ha, ?_⟩, hstatus, himage, hrunning⟩
  rintro ⟨b, hb, hterminal⟩
  rw [hb] at hrow
  exact hs b.status hrow.symm hterminal

lemma step_safe (project : String) (c : UpgradeCall) (h : Registered w) :
    Safe w c.request.operationId (step project w c) :=
  (Program.Holds.run ⟨h, Or.inl rfl⟩
    (holds_upgrade project c.request h) c.answers fun _ _ => trivial).1

lemma finished_of_finishes (h : Registered w) {a : ReleaseAttempt}
    (hfin : Finishes project w c a) : Finished w c.request.operationId a (step project w c) := by
  obtain ⟨hret, hopen⟩ := hfin
  unfold returned at hret
  have hrun := (Program.Holds.run ⟨h, Or.inl rfl⟩
    (holds_upgrade project c.request h) c.answers fun _ _ => trivial).2
  cases hres : ((upgrade project c.request).run c.answers w).1 with
  | none => simp [hres] at hret
  | some r =>
    cases r with
    | error x => simp [hres] at hret
    | ok b =>
      simp only [hres, Option.some.injEq] at hret
      subst hret
      rcases hrun _ hres b rfl with ⟨hterminal, -⟩ | hfinished
      · exact absurd hterminal hopen
      · exact hfinished

end ReleaseWorld

open ReleaseWorld

/-- **Upgrades.** In every run at most one release is deployed and it is the registered one.  A
call moves the registered image only in the commit of a deployment, from the previous image of its
attempt to the image that is deployed.  A call that finishes its attempt leaves the registered
image deployed when it returns `deployed`, the previous image of the attempt deployed when it
returns `rolled_back`, and has changed nothing when it returns `rejected`. -/
theorem upgrades_registered (project manifestDigest image : String) (cs : List UpgradeCall) :
    let w := run (step project) (start manifestDigest image) cs
    (∀ r ∈ w.releases, ∀ s ∈ w.releases, r.status = .deployed → s.status = .deployed → r = s) ∧
    (∀ r ∈ w.releases, r.status = .deployed → r.imageRef = w.boundary.runningImageRef) ∧
    ∀ c, let w' := step project w c
      (w'.boundary = w.boundary ∨ w'.boundary.runningImageRef = w'.image ∧
        ∃ a p, w'.attempts.lookup c.request.operationId = some a ∧ a.status = .deployed ∧
          a.prepared = some p ∧ p.previousImageRef = w.boundary.runningImageRef) ∧
      ∀ a, Finishes project w c a →
        (a.status = .deployed → w'.image = w'.boundary.runningImageRef) ∧
        (a.status = .rolledBack → w'.boundary = w.boundary ∧
          ∃ p, a.prepared = some p ∧ w'.image = p.previousImageRef) ∧
        (a.status = .rejected → w'.boundary = w.boundary ∧ w'.image = w.image) := by
  intro w
  have hreg : Registered w := by
    refine invariant_run (I := Registered) (fun w c h => (step_safe project c h).1) ?_ cs
    exact ⟨Table.unique_empty, fun r hr => absurd hr (Table.notMem_empty r)⟩
  refine ⟨fun r hr s hs hrd hsd => ?_, hreg.deployed, fun c => ⟨?_, fun a ha => ?_⟩⟩
  · exact hreg.images r hr s hs ((hreg.deployed r hr hrd).trans (hreg.deployed s hs hsd).symm)
  · rcases (step_safe project c hreg).2 with hsame | hcommitted
    · exact Or.inl hsame
    · exact Or.inr ⟨hcommitted.running, hcommitted.attempt⟩
  · have hfin := finished_of_finishes hreg ha
    exact ⟨hfin.deployed, hfin.rolledBack, hfin.rejected⟩

/-! A call that dies between its deployment and its commit leaves the candidate deployed. -/

/-- An image of a digest of one digit. -/
def digestImage (digit : Char) : String :=
  "mesh@sha256:" ++ String.ofList (List.replicate 64 digit)

/-- The environment of a build of an image in which nothing fails. -/
def smooth (digit : Char) : ReleaseAnswer where
  databaseVersion := 31
  build := .ok ⟨digestImage digit, 31, 31, "build", "test"⟩
  observe := .healthy "observed"

/-- A call of an operation that takes some steps. -/
def smoothCall (operationId : String) (digit : Char) (steps : ℕ) : UpgradeCall where
  request := ⟨operationId, String.ofList (List.replicate 40 digit), "manager"⟩
  answers := List.replicate steps (smooth digit)

/-- The first operation dies after its deployment, before its commit. -/
def abandoned : List UpgradeCall := [smoothCall "upgrade-1" 'a' 11]

/-- The first operation dies before its deployment, and the second is deployed. -/
def overtaken : List UpgradeCall := [smoothCall "upgrade-1" 'a' 8, smoothCall "upgrade-2" 'b' 20]

theorem image_not_registered :
    (∃ a, Finishes "alpha" (run (step "alpha") (start "manifest" (digestImage '0')) abandoned)
        (smoothCall "upgrade-2" 'b' 20) a ∧ a.status = .rejected ∧
      (run (step "alpha") (start "manifest" (digestImage '0'))
        (abandoned ++ [smoothCall "upgrade-2" 'b' 20])).image ≠
      (run (step "alpha") (start "manifest" (digestImage '0'))
        (abandoned ++ [smoothCall "upgrade-2" 'b' 20])).boundary.runningImageRef) ∧
    ∃ a, Finishes "alpha" (run (step "alpha") (start "manifest" (digestImage '0')) overtaken)
        (smoothCall "upgrade-1" 'a' 20) a ∧ a.status = .rolledBack ∧
      (run (step "alpha") (start "manifest" (digestImage '0'))
        (overtaken ++ [smoothCall "upgrade-1" 'a' 20])).image ≠
      (run (step "alpha") (start "manifest" (digestImage '0'))
        (overtaken ++ [smoothCall "upgrade-1" 'a' 20])).boundary.runningImageRef := by
  have hne : ∀ {c d : Char}, c ≠ d → digestImage c ≠ digestImage d := by
    intro c d hcd h
    have hlist := congrArg String.toList h
    simp only [digestImage, String.toList_append, String.toList_ofList] at hlist
    exact hcd (List.replicate_right_injective (by omega) (List.append_cancel_left hlist))
  constructor
  · have hsum : summary "alpha" (run (step "alpha") (start "manifest" (digestImage '0')) abandoned)
        (smoothCall "upgrade-2" 'b' 20) =
        (none, some .rejected, digestImage 'a', digestImage '0') := by decide +kernel
    obtain ⟨a, hfin, hstatus, himage, hrunning⟩ := finishes_of_summary hsum (by simp)
    refine ⟨a, hfin, hstatus, ?_⟩
    rw [run_append, run_cons, run_nil, himage, hrunning]
    exact hne (by decide)
  · have hsum : summary "alpha" (run (step "alpha") (start "manifest" (digestImage '0')) overtaken)
        (smoothCall "upgrade-1" 'a' 20) =
        (some .deploying, some .rolledBack, digestImage '0', digestImage 'b') := by decide +kernel
    obtain ⟨a, hfin, hstatus, himage, hrunning⟩ := finishes_of_summary hsum (by
      rintro _ ⟨⟩
      exact id)
    refine ⟨a, hfin, hstatus, ?_⟩
    rw [run_append, run_cons, run_nil, himage, hrunning]
    exact hne (by decide)

end AgenticMesh
