import AgenticMesh.Flow.Evidence
import AgenticMesh.Flow.Keys

/-!
# Crashed transitions

`prepare_transition` reserves a route, offers the handoff and promotes the run,
in three transactions.  A call that dies on the way leaves the run as it was
reserved, and the same call goes on from there with the lease of whoever holds
the source item by then: the digest of the request does not contain the lease.
The fingerprint of the handoff does, so the call goes on only from a lease that
the handoff was not offered from before.
-/

namespace AgenticMesh

open FlowEngine

variable {e : FlowEvent} {db db' : Db}

/-! ## A reserved run -/

/-- A run that is being prepared leaves that state for a later version. -/
lemma FlowRun.Moves.preparing {run run' : FlowRun} {p : PendingRoute}
    (h : run.Moves e db db' run') (hp : run.status = .handoffPreparing p) :
    run.version < run'.version := by
  cases h with
  | reserve _ _ active _ => simp [hp] at active
  | promote q i _ => exact Nat.lt_succ_self _
  | pickup q i t pending _ _ => simp [hp] at pending
  | complete o d active _ _ => simp [hp] at active
  | finish o d pending _ => simp [hp] at pending

/-- A run is still as it was, or has a later version. -/
def Db.KeepsRun (run : FlowRun) (db : Db) : Prop :=
  run ∈ db.flowRuns ∨ ∃ run' ∈ db.flowRuns, run'.key = run.key ∧ run.version < run'.version

lemma FlowChange.keepsRun {run : FlowRun} {p : PendingRoute} (h : FlowChange e db db')
    (hp : run.status = .handoffPreparing p) (hrun : db.KeepsRun run) : db'.KeepsRun run := by
  rcases hrun with hrun | ⟨run', hrun', hkey, hlt⟩
  · rcases h.flowRuns with hsame | ⟨_, run', -, -, hins⟩ | ⟨run', hrun', f, hmoves, hset⟩
    · exact Or.inl (hsame ▸ hrun)
    · exact Or.inl ((Table.mem_of_insert hins run).2 (Or.inl hrun))
    · by_cases hk : run.key = run'.key
      · obtain rfl := db.flowRuns.eq_of_key hrun hrun' hk
        refine Or.inr ⟨f.set run, ?_, f.key_set run, hmoves.preparing hp⟩
        rw [hset]
        exact Table.mem_update_of_pos (p := fun r => r.key = run.key) hrun rfl
      · rw [Db.KeepsRun, hset]
        exact Or.inl (Table.mem_update_of_neg hrun hk)
  · obtain ⟨run'', hrun'', hfollows⟩ := h.kept.runs run' hrun'
    exact Or.inr ⟨run'', hrun'', hfollows.key.trans hkey, hlt.trans_le hfollows.version_le⟩

/-- What becomes of a run that is being prepared. -/
lemma FlowSystem.run_keepsRun {s : FlowSystem} {run : FlowRun} {p : PendingRoute}
    (hrun : run ∈ s.db.flowRuns) (hp : run.status = .handoffPreparing p) (es : List FlowEvent) :
    (AgenticMesh.run FlowSystem.step s es).db.KeepsRun run :=
  invariant_run (I := fun s : FlowSystem => s.db.KeepsRun run)
    (fun s e h => (s.step_change e).keepsRun hp h) (Or.inl hrun) es

/-- Every run is on a flow that was accepted. -/
def Db.OnValidFlows (db : Db) : Prop := ∀ run ∈ db.flowRuns, ∃ f : ValidFlow, run.flow = f.1

lemma FlowSystem.Reachable.onValidFlows {s : FlowSystem} (hs : s.Reachable) :
    s.db.OnValidFlows := by
  refine hs.invariant (fun s hs r hr => ?_) fun e db db' hdb h => ?_
  · rw [hs.flowRuns] at hr
    exact absurd hr (Table.notMem_empty r)
  · rcases h.flowRuns with hsame | ⟨r, run, -, hstarted, hins⟩ | ⟨run, hrun, f, hmoves, hset⟩
    · rw [Db.OnValidFlows, hsame]
      exact hdb
    · intro run' hrun'
      rcases (Table.mem_of_insert hins run').1 hrun' with hrun' | rfl
      · exact hdb run' hrun'
      · obtain ⟨s, -, rfl, -⟩ := hstarted.state
        exact ⟨r.flow, rfl⟩
    · rw [Db.OnValidFlows, hset]
      intro run' hrun'
      rcases Table.mem_update_cases hrun' with ⟨run₁, hrun₁, hk, rfl⟩ | ⟨hrun', -⟩
      · obtain rfl := db.flowRuns.eq_of_key hrun₁ hrun hk
        obtain ⟨flow, hflow⟩ := hdb run₁ hrun₁
        exact ⟨flow, hmoves.follows.flow.trans hflow⟩
      · exact hdb run' hrun'

namespace FlowEngine

/-- A call that went on to its handoff has a reserved run, and its operation was not recorded. -/
lemma reserve_reserved {r : PrepareRequest} {route : FlowRoute}
    (h : reserve r db = .ok (.inr route, db')) :
    (∃ run, Reserved r run route db') ∧ (∀ db, checkPrepare r db = .ok ((), db)) ∧
      ∀ t ∈ db.transitions, t.key ≠ (r.projectId, r.operationId) := by
  have hrun : ∃ run, Reserved r run route db' := by
    rcases reserve_ok h with ⟨run, hout, -⟩ | ⟨run, route', hout, rfl, hreserved⟩ |
      ⟨run, route', merged, hout, hreserves⟩
    · simp at hout
    · obtain rfl := Sum.inr.inj hout
      exact ⟨run, hreserved⟩
    · obtain rfl := Sum.inr.inj hout
      obtain ⟨s, hs, -, hroute⟩ := hreserves.state
      refine ⟨(reserved r route merged).set run, ?_, hreserves.key, ⟨_, rfl, rfl, rfl⟩, s, hs,
        hroute⟩
      rw [hreserves.effect]
      exact Table.mem_update_of_pos (p := fun k => k.key = run.key) hreserves.mem rfl
  rw [reserve, Tx.bind_ok] at h
  obtain ⟨_, db₁, hcheck, h⟩ := h
  obtain ⟨rfl, hids, hversion⟩ := checkPrepare_ok hcheck
  refine ⟨hrun, fun db₂ => ?_, ?_⟩
  · -- the checks do not read the database
    simp only [checkPrepare, requireIdentifier, requireIdentifiers, requireFields, requireVersion,
      Tx.bind_ok, Tx.demand_ok, Tx.require_ok] at hcheck ⊢
    obtain ⟨_, _, ⟨h₁, -⟩, _, _, ⟨h₂, -⟩, _, _, ⟨_, _, ⟨h₃, -⟩, h₄, -⟩, h₅, -⟩ := hcheck
    exact ⟨(), db₂, ⟨h₁, rfl⟩, (), db₂, ⟨h₂, rfl⟩, (), db₂, ⟨_, _, ⟨h₃, rfl⟩, h₄, rfl⟩, h₅, rfl⟩
  · rw [Tx.bind_ok] at h
    obtain ⟨recorded, db₂, hreplay, h⟩ := h
    obtain ⟨rfl, ⟨rfl, hunrecorded⟩ | ⟨t, -, -, -, rfl⟩⟩ := replay_ok hreplay
    · exact hunrecorded
    · dsimp only at h
      rw [Tx.bind_ok] at h
      obtain ⟨run, db₃, -, h⟩ := h
      simp only [Tx.pure_ok, Prod.mk.injEq] at h
      simp at h

/-! ## A call that nothing interrupts -/

/-- `prepare_transition` without a crash: what it answers, and what its transactions committed. -/
def prepareTransition (r : PrepareRequest) (clock : OfferClock) (db : Db) :
    Except FlowError FlowRun × Db :=
  match reserve r db with
  | .error e => (.error e, db)
  | .ok (.inl run, db) => (.ok run, db)
  | .ok (.inr route, db) =>
    match offerTransition r route clock db with
    | .error e => (.error e, db)
    | .ok (handoff, db) =>
      match promote r handoff db with
      | .error e => (.error e, db)
      | .ok (run, db) => (.ok run, db)

/-- The handoff of a route that a call takes. -/
def handoffKey (r : PrepareRequest) (route : FlowRoute) : String × String :=
  (r.projectId, transitionKey r.workItemId r.expectedVersion.toNat route.routeId)

/-- The call brings its run to `handoff_pending`, and the transition has exactly one handoff. -/
def Prepares (r : PrepareRequest) (route : FlowRoute) (clock : OfferClock) (db : Db) : Prop :=
  ∃ run db' p handoff, prepareTransition r clock db = (.ok run, db') ∧ run ∈ db'.flowRuns ∧
    run.key = (r.projectId, r.workItemId) ∧ run.status = .handoffPending p handoff.handoffId ∧
    (p.operationId, p.requestDigest) = (r.operationId, r.digest) ∧
    ∀ h, (h ∈ db'.handoffs ∧ h.routeKey = handoffKey r route) ↔ h = handoff

/-- A call whose run is reserved can go on from a source lease: its operation was not taken by
another request, the key of the handoff is short enough, and the handoff was offered from the same
lease before or there is room for it. -/
structure Recoverable (r : PrepareRequest) (route : FlowRoute) (source : SourceLease) (db : Db) :
    Prop where
  unrecorded : ∀ t ∈ db.transitions, t.key ≠ (r.projectId, r.operationId)
  length : (handoffKey r route).2.toList.length ≤ 128
  offered : ∀ h ∈ db.handoffs, h.routeKey = handoffKey r route →
    h.requestFingerprint = HandoffStore.fingerprint (FlowKey.offerDraft r route) source
  room : (∀ h ∈ db.handoffs, h.routeKey ≠ handoffKey r route) →
    HandoffStore.OfferRoom (FlowKey.offerDraft r route) source db

/-- The instance of the owner role that repeats a call holds a lease. -/
structure Holds (r : PrepareRequest) (route : FlowRoute) (clock : OfferClock)
    (source : SourceLease) (db : Db) : Prop where
  lease : db.sourceLease (FlowKey.offerDraft r route) = some source
  active : source.Active clock.checked
  /-- The clock goes forward. -/
  now : clock.offered ≤ clock.queued
  past : ∀ i ∈ db.queueItems, i.createdAt < clock.offered
  /-- The unique key of `handoffs`. -/
  unique : db.handoffs.Unique Handoff.routeKey

section

variable {r : PrepareRequest} {run : FlowRun} {route : FlowRoute} {clock : OfferClock}
  {source : SourceLease}

lemma replay_unrecorded {p op d : String} (h : ∀ t ∈ db.transitions, t.key ≠ (p, op)) :
    replay p op d db = .ok (none, db) := by
  have hrow : db.transitions.lookup (p, op) = none := Table.lookup_eq_none.2 h
  rw [replay, Tx.bind_of_ok (show Tx.query _ db = .ok (none, db) by rw [Tx.query, hrow])]
  rfl

lemma Reserved.samePending (h : Reserved r run route db) :
    FlowEngine.samePending run r.operationId r.digest db' = .ok ((), db') := by
  obtain ⟨p, hp, hop, hdigest⟩ := h.pending
  refine Tx.require_of_pos ?_
  rw [hp, FlowStatus.pendingOperation, hop, hdigest]

/-- A reserved run goes on with its route. -/
lemma reserve_of_reserved (h : Reserved r run route db)
    (hcheck : checkPrepare r db = .ok ((), db))
    (hunrecorded : ∀ t ∈ db.transitions, t.key ≠ (r.projectId, r.operationId)) :
    reserve r db = .ok (.inr route, db) := by
  obtain ⟨p, hp, -, -⟩ := h.pending
  obtain ⟨s, hs, hroute⟩ := h.state
  rw [reserve, Tx.bind_of_ok hcheck, Tx.bind_of_ok (replay_unrecorded hunrecorded)]
  dsimp only
  rw [Tx.bind_of_ok (lockRun_of_mem h.mem h.key), hp]
  dsimp only
  rw [Tx.bind_of_ok h.samePending, stateOf,
    Tx.bind_of_ok (Tx.demand_of_some (g := fun _ => run.flow.state run.currentState) hs), routeOf,
    Tx.bind_of_ok (Tx.demand_of_some (g := fun _ => s.selectRoute r.outcome run.fields) hroute)]
  rfl

/-- A reserved run is promoted. -/
lemma promote_of_reserved (h : Reserved r run route db)
    (hunrecorded : ∀ t ∈ db.transitions, t.key ≠ (r.projectId, r.operationId))
    (handoff : Handoff) : ∃ p transitions, FlowStatus.pendingRoute run.status = some p ∧
      (p.operationId, p.requestDigest) = (r.operationId, r.digest) ∧
      promote r handoff db = .ok ((promoted (.handoffPending p handoff.handoffId)).set run,
        { db.updateRun run.key (promoted (.handoffPending p handoff.handoffId)) with
          transitions }) := by
  obtain ⟨p, hp, hop, hdigest⟩ := h.pending
  have hpending : FlowStatus.pendingRoute run.status = some p := by
    rw [hp, FlowStatus.pendingRoute]
  obtain ⟨transitions, htransitions⟩ := Table.insert_isSome_of_fresh
    (r := (⟨r.projectId, r.workItemId, r.operationId, r.digest, .prepare⟩ : FlowTransition))
    hunrecorded
  refine ⟨p, transitions, hpending, by rw [hop, hdigest], ?_⟩
  rw [promote, Tx.bind_of_ok (lockRun_of_mem h.mem h.key),
    Tx.bind_of_ok (replay_unrecorded hunrecorded)]
  dsimp only
  rw [Tx.bind_of_ok h.samePending,
    Tx.bind_of_ok (Tx.demand_of_some (g := fun _ => FlowStatus.pendingRoute run.status) hpending)]
  refine (Tx.bind_of_ok (show Tx.modify _ db = .ok ((), _) from rfl)).trans ?_
  refine (Tx.bind_of_ok (Tx.attempt_of_some (g := Db.insertTransition _) ?_)).trans rfl
  show Option.map _ (db.transitions.insert _) = _
  rw [htransitions]
  rfl

/-- What the offer of a transition leaves of the reservation, and the only handoff of the route. -/
lemma offerTransition_handoff {handoff : Handoff}
    (hunique : db.handoffs.Unique Handoff.routeKey)
    (h : HandoffStore.offerIn (FlowKey.offerDraft r route) clock db = .ok (handoff, db'))
    (hd : HandoffStore.initOffer (transitionOffer r route) db =
      .ok (FlowKey.offerDraft r route, db)) :
    ∀ g, (g ∈ db'.handoffs ∧ g.routeKey = handoffKey r route) ↔ g = handoff := by
  obtain ⟨-, hp, hk⟩ := HandoffStore.initOffer_ok (HandoffStore.initOffer_idem hd)
  rcases HandoffStore.offerIn_ok hp hk h with ⟨rfl, hmem, hkey⟩ | ⟨⟨hoffered⟩⟩
  · refine fun g => ⟨fun ⟨hg, hgk⟩ => hunique g hg handoff hmem (hgk.trans hkey.symm), ?_⟩
    rintro rfl
    exact ⟨hmem, hkey⟩
  · obtain ⟨queueItems, hmid⟩ := Router.routeInTransaction_items hoffered.route
    obtain ⟨-, handoffs, hins, heffect⟩ :=
      HandoffStore.insertHandoff_eq_some.1 hoffered.insert
    have hkey : handoff.routeKey = handoffKey r route := by
      rw [hoffered.handoff_eq]
      rfl
    have hsame : hoffered.mid.handoffs = db.handoffs := by rw [hmid]
    rw [heffect]
    refine fun g => ⟨fun ⟨hg, hgk⟩ => ?_, ?_⟩
    · rcases (Table.mem_of_insert hins g).1 hg with hg | rfl
      · exact absurd hgk (hoffered.unused g (hsame ▸ hg))
      · rfl
    · rintro rfl
      exact ⟨(Table.mem_of_insert hins _).2 (Or.inr rfl), hkey⟩

/-- A call that prepares its reserved run has offered the handoff. -/
lemma Prepares.offers (h : Prepares r route clock db) (hreserved : Reserved r run route db)
    (hcheck : checkPrepare r db = .ok ((), db)) :
    (∀ t ∈ db.transitions, t.key ≠ (r.projectId, r.operationId)) ∧
      ∃ handoff db', offerTransition r route clock db = .ok (handoff, db') := by
  obtain ⟨run', db', p, handoff, hprepare, hrun', hkey', hstatus', -, -⟩ := h
  -- the run is not pending before the call
  have hne : run' ∉ db.flowRuns := by
    intro hrun
    obtain rfl := db.flowRuns.eq_of_key hrun hreserved.mem (hkey'.trans hreserved.key.symm)
    obtain ⟨q, hq, -⟩ := hreserved.pending
    simp [hq] at hstatus'
  cases hreserve : reserve r db with
  | error e =>
    rw [prepareTransition, hreserve] at hprepare
    simp at hprepare
  | ok out =>
    obtain ⟨out, db₁⟩ := out
    cases out with
    | inl run₁ =>
      rw [prepareTransition, hreserve] at hprepare
      obtain ⟨hrun₁, rfl⟩ := Prod.mk.inj hprepare
      rcases reserve_ok hreserve with ⟨_, -, rfl, -⟩ | ⟨_, _, hout, -⟩ | ⟨_, _, _, hout, -⟩
      · exact absurd hrun' hne
      · simp at hout
      · simp at hout
    | inr route' =>
      obtain ⟨-, -, hunrecorded⟩ := reserve_reserved hreserve
      refine ⟨hunrecorded, ?_⟩
      rw [prepareTransition, reserve_of_reserved hreserved hcheck hunrecorded] at hprepare
      cases hoffer : offerTransition r route clock db with
      | error e =>
        simp only [hoffer] at hprepare
        simp at hprepare
      | ok out => exact ⟨_, _, rfl⟩

/-- A call whose handoff can be offered prepares its reserved run. -/
lemma Reserved.prepares {handoff : Handoff} (hreserved : Reserved r run route db)
    (hcheck : checkPrepare r db = .ok ((), db))
    (hunrecorded : ∀ t ∈ db.transitions, t.key ≠ (r.projectId, r.operationId))
    (hoffer : offerTransition r route clock db = .ok (handoff, db'))
    (hone : ∀ h, (h ∈ db'.handoffs ∧ h.routeKey = handoffKey r route) ↔ h = handoff) :
    Prepares r route clock db := by
  have hsame := offerTransition_same hoffer
  have hreserved' : Reserved r run route db' :=
    ⟨hsame.flowRuns ▸ hreserved.mem, hreserved.key, hreserved.pending, hreserved.state⟩
  obtain ⟨p, transitions, hp, hop, hpromote⟩ := promote_of_reserved hreserved'
    (hsame.transitions ▸ hunrecorded) handoff
  set f := promoted (.handoffPending p handoff.handoffId)
  have hpromoted : f.set run ∈ (db'.updateRun run.key f).flowRuns :=
    Table.mem_update_of_pos (p := fun k => k.key = run.key) hreserved'.mem rfl
  refine ⟨f.set run, { db'.updateRun run.key f with transitions }, p, handoff, ?_, hpromoted,
    hreserved.key, rfl, hop, hone⟩
  rw [prepareTransition, reserve_of_reserved hreserved hcheck hunrecorded]
  simp only [hoffer, hpromote]

/-- **When a call whose run is reserved goes on to its end.** -/
theorem prepares_iff (hreserved : Reserved r run route db) (hvalid : db.OnValidFlows)
    (hcheck : checkPrepare r db = .ok ((), db)) (hholds : Holds r route clock source db) :
    Prepares r route clock db ↔ Recoverable r route source db := by
  obtain ⟨f, hf⟩ := hvalid run hreserved.mem
  obtain ⟨s, hs, hroute⟩ := hreserved.state
  have hsmem : s ∈ f.1.states := hf ▸ (FlowDefinition.state_mem hs).1
  obtain ⟨hrmem, -⟩ := FlowState.selectRoute_mem hroute
  have hlength : (FlowKey.transition r.workItemId r.expectedVersion.toNat route.routeId).length =
      (handoffKey r route).2.toList.length := (FlowKey.length_text _).symm
  have hinit := FlowKey.initOffer_iff hsmem hrmem hcheck
  have hofLength := FlowKey.initOffer_of_length hsmem hrmem hcheck
  rw [hlength] at hinit hofLength
  -- with a short key, the second transaction offers the normalized draft
  have hoffer : (handoffKey r route).2.toList.length ≤ 128 → offerTransition r route clock db =
      Tx.mapError ofHandoffError (HandoffStore.offerIn (FlowKey.offerDraft r route) clock) db := by
    intro hlen
    rw [offerTransition, Tx.mapError, Tx.mapError, HandoffStore.offer,
      Tx.bind_of_ok (hofLength hlen)]
  have hin : (handoffKey r route).2.toList.length ≤ 128 →
      ((∃ h db', HandoffStore.offerIn (FlowKey.offerDraft r route) clock db = .ok (h, db')) ↔ _) :=
    fun hlen => HandoffStore.offerIn_iff (HandoffStore.initOffer_idem (hofLength hlen)) rfl
      hholds.lease
      hholds.active hholds.now hholds.past hholds.unique
  constructor
  · intro h
    obtain ⟨hunrecorded, handoff, db₁, hof⟩ := h.offers hreserved hcheck
    have hlen : (handoffKey r route).2.toList.length ≤ 128 := by
      rw [offerTransition, Tx.mapError_ok, HandoffStore.offer, Tx.bind_ok] at hof
      obtain ⟨d, db₂, hd, -⟩ := hof
      obtain ⟨rfl, -, -⟩ := HandoffStore.initOffer_ok hd
      exact hinit.1 ⟨d, hd⟩
    rw [hoffer hlen, Tx.mapError_ok] at hof
    obtain ⟨hoffered, hroom⟩ := (hin hlen).1 ⟨_, _, hof⟩
    exact ⟨hunrecorded, hlen, hoffered, hroom⟩
  · intro h
    obtain ⟨handoff, db₁, hok⟩ := (hin h.length).2 ⟨h.offered, h.room⟩
    refine hreserved.prepares hcheck h.unrecorded ?_
      (offerTransition_handoff hholds.unique hok (hofLength h.length))
    rw [hoffer h.length, Tx.mapError_of_ok hok]

end

end FlowEngine

lemma FlowSystem.Reachable.run {s : FlowSystem} (hs : s.Reachable) (es : List FlowEvent) :
    (AgenticMesh.run FlowSystem.step s es).Reachable := by
  obtain ⟨s₀, es₀, hs₀, rfl⟩ := hs
  exact ⟨s₀, es₀ ++ es, hs₀, run_append FlowSystem.step s₀ es₀ es⟩

lemma FlowSystem.step_resume {s : FlowSystem} {i : ℕ} {t : FlowTask} {clock : OfferClock}
    (ht : s.tasks[i]? = some t) : s.step (.resume i clock) =
      ⟨(t.next clock s.db).1, (t.next clock s.db).2.toList ++ s.tasks.eraseIdx i⟩ := by
  change s.resume i clock = _
  rw [resume, ht]

/-- **Crashed transitions.**  Whatever happens after a call of `prepare_transition` reserved its
route, either its run goes on to a later version, or the same call with the lease of another holder
of the source item brings it to `handoff_pending`, with exactly one handoff, if and only if no other
request took the operation, the key of the handoff is short enough, and the handoff either was
offered from that very lease or was not offered yet and has room. -/
theorem transition_recovered {s : FlowSystem} (hs : s.Reachable) {r : PrepareRequest}
    {route : FlowRoute} {db₁ : Db} (hreserve : reserve r s.db = .ok (.inr route, db₁))
    (es : List FlowEvent) :
    ∃ run ∈ db₁.flowRuns, run.key = (r.projectId, r.workItemId) ∧
      let db := (AgenticMesh.run FlowSystem.step (s.step (.prepare r)) es).db
      ((∃ run' ∈ db.flowRuns, run'.key = run.key ∧ run.version < run'.version) ∨
        ∀ (source : TransitionSource) (clock : OfferClock) (lease : SourceLease),
          Holds { r with source } route clock lease db →
            (Prepares { r with source } route clock db ↔
              Recoverable { r with source } route lease db)) := by
  obtain ⟨⟨run, hreserved⟩, hcheck, -⟩ := reserve_reserved hreserve
  obtain ⟨p, hp, -⟩ := hreserved.pending
  have hstep : (s.step (.prepare r)).db = db₁ := by
    show (s.after (FlowTask.offering r) (reserve r s.db)).db = db₁
    rw [hreserve]
    rfl
  refine ⟨run, hreserved.mem, hreserved.key, ?_⟩
  intro db
  rcases FlowSystem.run_keepsRun (hstep ▸ hreserved.mem) hp es with hrun | hlater
  · refine Or.inr fun source clock lease hholds => ?_
    -- the digest of the request does not contain the lease
    have hsame : Reserved { r with source } run route db :=
      ⟨hrun, hreserved.key, hreserved.pending, hreserved.state⟩
    have hreachable := hs.run (.prepare r :: es)
    exact prepares_iff hsame hreachable.onValidFlows (hcheck db) hholds
  · exact Or.inl hlater

/-! ## A handover that crashes -/

/-- The developer's item of the work item `a`. -/
def builtItem : QueueItem where
  projectId := "p"
  queueItemId := "item"
  queueId := "dev"
  workItemId := "a"
  status := .leased
  priority := 0
  attemptCount := 1
  availableAt := 0
  payload := .obj []
  idempotencyKey := "item"
  createdAt := 0
  routeFingerprint := none

/-- A lease of a developer on the item. -/
def devLease (leaseId owner token : String) (acquiredAt : Time) (released : Option LeaseRelease) :
    Lease where
  projectId := "p"
  leaseId := leaseId
  queueItemId := "item"
  ownerInstanceId := owner
  leaseToken := token
  acquiredAt := acquiredAt
  heartbeatAt := acquiredAt
  expiresAt := acquiredAt + 100
  released := released

/-- The first developer has the item. -/
def firstShift : Table Lease Lease.key :=
  ⟨[devLease "lease" "dev-1" "token" 0 none], by simp⟩

/-- The lease of the first developer has expired, and the second one has the item. -/
def secondShift : Table Lease Lease.key :=
  ⟨[devLease "lease" "dev-1" "token" 0 (some ⟨150, "expired"⟩),
    devLease "lease-2" "dev-2" "token-2" 150 none], by decide⟩

/-- The developers and the operator, with a queue for each role. -/
def floor (leases : Table Lease Lease.key) : Db where
  roles := ⟨[⟨"p", "dev", .active⟩, ⟨"p", "ops", .active⟩], by decide⟩
  instances := ⟨[⟨"p", "dev-1", "dev", .running⟩, ⟨"p", "dev-2", "dev", .running⟩], by decide⟩
  queues := ⟨[⟨"p", "dev", "dev", none, false⟩, ⟨"p", "ops", "ops", none, false⟩], by decide⟩
  queueItems := ⟨[builtItem], by simp⟩
  leases := leases

/-- The floor after the handover of the work item `a` was reserved. -/
def handover (leases : Table Lease Lease.key) : Db :=
  FlowSystem.replaceOthers (floor leases)
    (builtShop.updateRun firstRun.key (reserved prepareShipping shipRoute (.obj [])))

/-- The second developer repeats the call. -/
def repeated : TransitionSource := ⟨"lease-2", "token-2", by decide, by decide⟩

lemma handover_room (leases : Table Lease Lease.key) (source : TransitionSource)
    {lease : SourceLease} (hitem : lease.item = builtItem) (hrole : lease.inst.roleId = "dev") :
    HandoffStore.OfferRoom (FlowKey.offerDraft { prepareShipping with source } shipRoute) lease
      (handover leases) := by
  refine ⟨⟨"a", ?_, ?_, ?_, ?_⟩, fun h hh => absurd hh (Table.notMem_empty h), ?_⟩
  · rw [hitem]
    decide
  · exact Option.isSome_iff_exists.2 ⟨developed "a", rfl⟩
  · exact ⟨⟨"p", "ops", "ops", none, false⟩, List.mem_cons_of_mem _ List.mem_cons_self, rfl, rfl,
      rfl, rfl, ⟨"p", "ops", .active⟩, List.mem_cons_of_mem _ List.mem_cons_self, rfl, rfl⟩
  · intro i hi
    obtain rfl := List.mem_singleton.1 hi
    show ("p", "item") ≠ ("p", transitionKey "a" 1 "ship") ∧
      ("p", "item") ≠ ("p", routeItemId "p" (transitionKey "a" 1 "ship"))
    decide
  · rw [hrole]
    exact Option.isSome_iff_exists.2 ⟨⟨"p", "dev", .active⟩, rfl⟩

lemma builtShop_reachable : (⟨builtShop, []⟩ : FlowSystem).Reachable := by
  refine ⟨shop,
    [.start (startShipping "a"), .verifyArtifact verifyBuilt fun _ => some builtDocument],
    shop_initial, ?_⟩
  rw [run_cons, run_cons, run_nil, step_start, step_verify]

lemma handover_unrecorded (leases : Table Lease Lease.key) :
    ∀ t ∈ (handover leases).transitions, t.key ≠ ("p", "ship") := by
  intro t ht
  obtain rfl := List.mem_singleton.1 ht
  show ("p", "op") ≠ ("p", "ship")
  decide

lemma shipping_length (source : TransitionSource) :
    (handoffKey { prepareShipping with source } shipRoute).2.toList.length ≤ 128 := by
  show (transitionKey "a" 1 "ship").toList.length ≤ 128
  decide

/-- The lease of the second developer with its item. -/
def secondSource : SourceLease :=
  ⟨devLease "lease-2" "dev-2" "token-2" 150 none, builtItem, ⟨"p", "dev-2", "dev", .running⟩⟩

/-- The call crashed before it offered the handoff, and the second developer repeats it. -/
theorem transition_recovered_shipping :
    Prepares { prepareShipping with source := repeated } shipRoute ⟨201, 202, 203⟩
      (handover secondShift) := by
  obtain ⟨run, hrun, -, hrecovered⟩ := transition_recovered builtShop_reachable reserve_shipping
    [.crash 0, .elsewhere (floor secondShift)]
  have hdb : (AgenticMesh.run FlowSystem.step ((⟨builtShop, []⟩ : FlowSystem).step
      (.prepare prepareShipping)) [.crash 0, .elsewhere (floor secondShift)]).db =
      handover secondShift := by
    rw [step_reserve]
    rfl
  simp only [hdb] at hrecovered
  have hrows : ∀ run' ∈ (handover secondShift).flowRuns, run' = shippingRun := by
    intro run' hrun'
    exact List.mem_singleton.1 hrun'
  rcases hrecovered with ⟨run', hrun', -, hlt⟩ | hrecovered
  · rw [hrows run' hrun', hrows run hrun] at hlt
    exact absurd hlt (lt_irrefl _)
  · have hholds : Holds { prepareShipping with source := repeated } shipRoute ⟨201, 202, 203⟩
        secondSource (handover secondShift) := by
      refine ⟨by decide, by decide, by decide, ?_, ?_⟩
      · intro i hi
        obtain rfl := List.mem_singleton.1 hi
        decide
      · exact fun h hh => absurd hh (Table.notMem_empty h)
    refine (hrecovered repeated ⟨201, 202, 203⟩ secondSource hholds).2
      ⟨handover_unrecorded secondShift, shipping_length repeated, ?_, fun _ => ?_⟩
    · exact fun h hh => absurd hh (Table.notMem_empty h)
    · exact handover_room secondShift repeated rfl rfl

lemma step_floor : (⟨builtShop.updateRun firstRun.key (reserved prepareShipping
      ⟨"ship", "completed", "release", "ops", none⟩ (.obj [])),
      [.offering prepareShipping ⟨"ship", "completed", "release", "ops", none⟩]⟩ : FlowSystem).step
        (.elsewhere (floor firstShift)) =
      ⟨handover firstShift, [.offering prepareShipping shipRoute]⟩ := rfl

/-- The call crashed after it offered the handoff.  Its lease expired, the item was claimed again,
and every retry is in conflict with the handoff of the first lease. -/
theorem transition_not_recovered :
    ¬ ∀ (s : FlowSystem) (r : PrepareRequest) (route : FlowRoute) (db₁ : Db) (es : List FlowEvent)
      (run : FlowRun) (source : TransitionSource) (clock : OfferClock) (lease : SourceLease),
      s.Reachable → reserve r s.db = .ok (.inr route, db₁) →
        let db := (AgenticMesh.run FlowSystem.step (s.step (.prepare r)) es).db
        Reserved { r with source } run route db →
          (∀ t ∈ db.transitions, t.key ≠ (r.projectId, r.operationId)) →
          (handoffKey r route).2.toList.length ≤ 128 →
          (∃ q ∈ db.queues, RoleQueue.Targets
            (HandoffStore.routeDraft (FlowKey.offerDraft { r with source } route) lease) db q) →
          Holds { r with source } route clock lease db →
          Prepares { r with source } route clock db := by
  intro hclaim
  obtain ⟨⟨run₀, hreserved⟩, hcheck, -⟩ := reserve_reserved reserve_shipping
  have hinit := FlowKey.initOffer_of_length buildState_mem shipRoute_mem
    (hcheck (handover firstShift)) (by decide)
  -- the first developer offers the handoff
  obtain ⟨routed, queueItems, handoffs, hcreated, hitems, hhandoffs, hoffer⟩ :=
    HandoffStore.offerIn_of_room ⟨1, 2, 3⟩ (HandoffStore.initOffer_idem hinit) rfl
      (show (handover firstShift).sourceLease (FlowKey.offerDraft prepareShipping shipRoute) =
        some ⟨devLease "lease" "dev-1" "token" 0 none, builtItem, ⟨"p", "dev-1", "dev", .running⟩⟩
        by decide)
      (by decide) (by decide) (fun h hh => absurd hh (Table.notMem_empty h))
      (handover_room firstShift prepareShipping.source rfl rfl)
  set handoff := HandoffStore.newHandoff (FlowKey.offerDraft prepareShipping shipRoute)
    ⟨devLease "lease" "dev-1" "token" 0 none, builtItem, ⟨"p", "dev-1", "dev", .running⟩⟩ routed 2
  have hof : offerTransition prepareShipping shipRoute ⟨1, 2, 3⟩ (handover firstShift) =
      .ok (handoff, { handover firstShift with queueItems, handoffs }) := by
    rw [offerTransition, HandoffStore.offer]
    exact Tx.mapError_of_ok ((Tx.bind_of_ok hinit).trans hoffer)
  have hresume : (⟨handover firstShift, [.offering prepareShipping shipRoute]⟩ : FlowSystem).step
      (.resume 0 ⟨1, 2, 3⟩) = ⟨{ handover firstShift with queueItems, handoffs },
        [.promoting prepareShipping handoff]⟩ := by
    have hnext : (FlowTask.offering prepareShipping shipRoute).next ⟨1, 2, 3⟩
        (handover firstShift) = ({ handover firstShift with queueItems, handoffs },
          some (.promoting prepareShipping handoff)) := by
      rw [FlowTask.next, hof]
      rfl
    rw [FlowSystem.step_resume rfl, hnext]
    rfl
  have hdb : (AgenticMesh.run FlowSystem.step ((⟨builtShop, []⟩ : FlowSystem).step
      (.prepare prepareShipping)) [.elsewhere (floor firstShift), .resume 0 ⟨1, 2, 3⟩, .crash 0,
        .elsewhere { floor secondShift with queueItems, handoffs }]).db =
      { handover secondShift with queueItems, handoffs } := by
    rw [step_reserve, run_cons, step_floor, run_cons, hresume]
    rfl
  have hpast : ∀ i ∈ queueItems, i.createdAt < 202 := by
    intro i hi
    rcases (Table.mem_of_insert hitems i).1 hi with hi | rfl
    · obtain rfl := List.mem_singleton.1 hi
      decide
    · rw [hcreated]
      decide
  have hitem : builtItem ∈ queueItems :=
    (Table.mem_of_insert hitems _).2 (Or.inl (List.mem_singleton_self _))
  have hhandoff : ∀ h, h ∈ handoffs ↔ h = handoff := by
    intro h
    rw [Table.mem_of_insert hhandoffs h]
    exact or_iff_right (Table.notMem_empty h)
  have hholds : Holds { prepareShipping with source := repeated } shipRoute ⟨201, 202, 203⟩
      secondSource { handover secondShift with queueItems, handoffs } := by
    refine ⟨?_, by decide, by decide, hpast, fun g hg h hh _ => ?_⟩
    · have hlookup : queueItems.lookup ("p", "item") = some builtItem :=
        Table.lookup_eq_some.2 ⟨hitem, rfl⟩
      have hlease : secondShift.find (fun l => l.key = ("p", "lease-2") ∧
          l.leaseToken = strip "token-2") =
            some (devLease "lease-2" "dev-2" "token-2" 150 none) := by decide
      exact HandoffStore.sourceLease_of hlease hlookup rfl
    · rw [(hhandoff g).1 hg, (hhandoff h).1 hh]
  have hreserved : Reserved { prepareShipping with source := repeated } run₀ shipRoute
      { handover secondShift with queueItems, handoffs } :=
    ⟨hreserved.mem, hreserved.key, hreserved.pending, hreserved.state⟩
  have hprepares := hclaim ⟨builtShop, []⟩ prepareShipping shipRoute _
    [.elsewhere (floor firstShift), .resume 0 ⟨1, 2, 3⟩, .crash 0,
      .elsewhere { floor secondShift with queueItems, handoffs }] run₀ repeated ⟨201, 202, 203⟩
    secondSource builtShop_reachable reserve_shipping
  simp only [hdb] at hprepares
  have hrecoverable := (prepares_iff hreserved ?_ (hcheck _) hholds).1
    (hprepares hreserved (handover_unrecorded secondShift) (by decide)
      ⟨⟨"p", "ops", "ops", none, false⟩, List.mem_cons_of_mem _ List.mem_cons_self, rfl, rfl, rfl,
        rfl, ⟨"p", "ops", .active⟩, List.mem_cons_of_mem _ List.mem_cons_self, rfl, rfl⟩ hholds)
  · -- the fingerprint of the handoff contains the lease and its owner
    have hsame := hrecoverable.offered handoff ((hhandoff handoff).2 rfl) rfl
    have hne : HandoffStore.fingerprint (FlowKey.offerDraft prepareShipping shipRoute)
        ⟨devLease "lease" "dev-1" "token" 0 none, builtItem, ⟨"p", "dev-1", "dev", .running⟩⟩ ≠
        HandoffStore.fingerprint
          (FlowKey.offerDraft { prepareShipping with source := repeated } shipRoute)
          secondSource := by decide +kernel
    exact hne hsame
  · have hreachable := builtShop_reachable.run (.prepare prepareShipping ::
      [.elsewhere (floor firstShift), .resume 0 ⟨1, 2, 3⟩, .crash 0,
        .elsewhere { floor secondShift with queueItems, handoffs }])
    have hvalid := hreachable.onValidFlows
    rw [run_cons, hdb] at hvalid
    exact hvalid

end AgenticMesh
