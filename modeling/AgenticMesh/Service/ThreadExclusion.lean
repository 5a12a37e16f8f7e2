import AgenticMesh.Service.RoleService

/-!
# One operation on a provider thread

A run interleaves any number of activations of `run_once`, of any instances,
with each other and with everybody else who writes the database.  Two
protocols guard a provider thread: the lease of the queue item and the
operation of the conversation.  They are joined by one comparison only:
`release_superseded_operation` clears an operation that started before the
caller's lease was acquired, whether or not the lease of that operation is
still active.  Two items of one conversation can be leased at the same time,
and then this clears the operation of an instance that is still at work.  As
long as no such call is made, at most one instance with an active lease runs an
operation on a thread.
-/

namespace AgenticMesh

open RoleService

/-- The database with the activations that run on it. -/
structure Fleet where
  db : Db
  now : Time
  activations : Table Activation Activation.key
  /-- The operation identifiers drawn so far. -/
  issued : List String

/-- One step of a run of a fleet. -/
inductive FleetEvent where
  /-- An instance calls `run_once`. -/
  | claim (config : RoleServiceConfig) (leaseHex leaseToken : String) (clock : ClaimClock)
      (locked : List String)
  | act (activation : String × String) (action : Action)
  /-- The process of an activation dies. -/
  | crash (activation : String × String)
  /-- Another session calls the queue. -/
  | queue (c : QueueCall)
  | reseed (key : ThreadAffinityKey) (expectedDigest newDigest actorId reason reseedId : String)
  /-- The other stores write their tables, and time passes. -/
  | elsewhere (db : Db) (now : Time)

namespace FleetEvent

/-- The clock readings of a step. -/
def readings : FleetEvent → List Time
  | claim _ _ _ clock _ => [clock.reclaimed, clock.selected, clock.acquired]
  | act _ x => x.readings
  | queue c => c.readings
  | elsewhere _ now => [now]
  | _ => []

/-- The operation identifiers that a step draws. -/
def draws : FleetEvent → List String
  | act _ x => x.draws
  | _ => []

/-- An activation takes up what its action left. -/
def advance (s : Fleet) (k : String × String) : Db × Next → Fleet
  | (db, .goesOn a) =>
    { s with
      db
      activations := s.activations.update (fun b => b.key = k)
        { set := fun b => { b with phase := a.phase, heartbeatFailure := a.heartbeatFailure } } }
  | (db, .returned _) => { s with db, activations := s.activations.delete fun b => b.key = k }

@[simp] lemma advance_db (s : Fleet) (k : String × String) (r : Db × Next) :
    (advance s k r).db = r.1 := by
  obtain ⟨db, next⟩ := r
  cases next <;> rfl

/-- The fleet after a step. -/
def apply (s : Fleet) : FleetEvent → Fleet
  | claim config leaseHex leaseToken clock locked =>
    match RoleQueueStore.claim (claimRequest config leaseHex leaseToken) clock locked s.db with
    | .ok (some c, db) =>
      match s.activations.insert ⟨config, c, .claimed, none⟩ with
      | some activations => { s with db, activations }
      | none => s
    | .ok (none, db) => { s with db }
    | .error _ => s
  | act k x =>
    match s.activations.lookup k with
    | none => s
    | some a => advance s k (RoleService.act a x s.db)
  | crash k => { s with activations := s.activations.delete fun b => b.key = k }
  | queue c => { s with db := c.apply s.db }
  | reseed k expected new actor reason reseedId =>
    { s with db := (ThreadAffinityStore.reseed k expected new actor reason reseedId).commit s.db }
  | elsewhere db _ =>
    { s with
      db := { db with
        queueItems := s.db.queueItems, leases := s.db.leases, affinities := s.db.affinities } }

/-- The clock never goes back and a drawn identifier is new. -/
def Legal (s : Fleet) (e : FleetEvent) : Prop :=
  (∀ t ∈ e.readings, s.now ≤ t) ∧ ∀ o ∈ e.draws, o ∉ s.issued

instance (s : Fleet) (e : FleetEvent) : Decidable (e.Legal s) :=
  inferInstanceAs (Decidable (_ ∧ _))

def step (s : Fleet) (e : FleetEvent) : Fleet :=
  if e.Legal s then
    { e.apply s with now := e.readings.foldl max s.now, issued := e.draws ++ s.issued }
  else s

end FleetEvent

namespace Fleet

/-- No activation runs and nothing was enqueued yet. -/
def start (db : Db) : Fleet := ⟨db.withoutQueue, 0, ∅, []⟩

/-- A lease was neither released nor has it expired. -/
def LeaseActive (s : Fleet) (k : String × String) : Prop :=
  s.db.leases.Any fun l => l.key = k ∧ l.released = none ∧ s.now < l.expiresAt

instance (s : Fleet) (k : String × String) : Decidable (s.LeaseActive k) :=
  inferInstanceAs (Decidable (∃ _ ∈ _, _))

/-- An operation holds its thread. -/
def Held (s : Fleet) (o : ThreadOperationClaim) : Prop :=
  s.db.holder o.key = some (o.promptDigest, ⟨o.operationId, o.instanceId, o.startedAt⟩)

instance (s : Fleet) (o : ThreadOperationClaim) : Decidable (s.Held o) :=
  inferInstanceAs (Decidable (_ = _))

end Fleet

/-- The step does not call `release_superseded_operation` for a conversation in which an
instance with an active lease runs an operation that started before the caller's lease was
acquired. -/
def SparesActive (s : Fleet) : FleetEvent → Prop
  | .act k .supersede =>
    ∀ a ∈ s.activations.rows, a.key = k → ∀ turn ∈ a.phase.prepared?,
      ∀ b ∈ s.activations.rows, ∀ o ∈ b.operation?, o.key = turn.key →
        o.promptDigest = turn.promptDigest → o.startedAt < a.claim.acquiredAt →
        ¬ s.LeaseActive b.key
  | _ => True

instance (s : Fleet) (e : FleetEvent) : Decidable (SparesActive s e) := by
  unfold SparesActive
  split <;> infer_instance

/-! ## The invariant -/

/-- The activations and the threads that they hold. -/
structure ThreadInv (s : Fleet) : Prop where
  queue : LeaseInv s.db
  leased : ∀ a ∈ s.activations, ∃ l ∈ s.db.leases, l.key = a.key
  issued : ∀ a ∈ s.activations, ∀ o, a.operation? = some o → o.operationId ∈ s.issued
  distinct : ∀ a ∈ s.activations, ∀ b ∈ s.activations, ∀ o p, a.operation? = some o →
    b.operation? = some p → o.operationId = p.operationId → a = b
  /-- An operation under an active lease holds its thread. -/
  held : ∀ a ∈ s.activations, ∀ o, a.operation? = some o → s.LeaseActive a.key → s.Held o

/-- The queue went on from one instant to a later one: leases stay, and none becomes active
again. -/
structure LeasesLater (s s' : Fleet) : Prop where
  inv : LeaseInv s'.db
  kept : ∀ l ∈ s.db.leases, ∃ l' ∈ s'.db.leases, l'.key = l.key
  active : ∀ l ∈ s.db.leases, s'.LeaseActive l.key → s.LeaseActive l.key

lemma LeasesLater.of_eq {s s' : Fleet} (hinv : LeaseInv s.db)
    (hitems : s'.db.queueItems = s.db.queueItems) (hleases : s'.db.leases = s.db.leases)
    (hnow : s.now ≤ s'.now) : LeasesLater s s' where
  inv := (RoleQueueStore.Keeps.elsewhere hinv hitems hleases).1
  kept l hl := ⟨l, hleases ▸ hl, rfl⟩
  active l hl := by
    rintro ⟨m, hm, hml, hrel, hlt⟩
    rw [hleases] at hm
    exact ⟨m, hm, hml, hrel, lt_of_le_of_lt hnow hlt⟩

lemma LeasesLater.of_call {s s' : Fleet} (hinv : LeaseInv s.db) {c : QueueCall}
    (hdb : s'.db = c.apply s.db) (hnow : s.now ≤ s'.now) (hclock : ∀ t ∈ c.readings, s.now ≤ t) :
    LeasesLater s s' where
  inv := hdb ▸ (c.apply_keeps hinv).1
  kept l hl := by
    obtain ⟨l', hl', hcont⟩ := (c.apply_keeps hinv).2.lease l hl
    exact ⟨l', hdb ▸ hl', hcont.key⟩
  active l hl := by
    rintro ⟨m, hm, hml, hrel, hlt⟩
    rw [hdb] at hm
    obtain ⟨k, hk, hkm, hkrel, hexp⟩ | hfresh := QueueCall.leaseAfter hm hrel
    · refine ⟨k, hk, hkm.trans hml, hkrel, ?_⟩
      obtain heq | ⟨t, ht, htlt⟩ := hexp
      · rw [heq]
        exact lt_of_le_of_lt hnow hlt
      · exact lt_of_le_of_lt (hclock t ht) htlt
    · exact absurd hml.symm (hfresh l hl)

variable {s s' : Fleet}

/-- The invariant is kept when no operation begins and no operation under an active lease loses
its thread. -/
lemma ThreadInv.carried (hinv : ThreadInv s) (hlater : LeasesLater s s')
    (hleased : ∀ a ∈ s'.activations, ∃ l ∈ s'.db.leases, l.key = a.key)
    (hissued : ∀ o ∈ s.issued, o ∈ s'.issued)
    (hops : ∀ a ∈ s'.activations, ∀ o, a.operation? = some o →
      ∃ b ∈ s.activations, b.key = a.key ∧ b.operation? = some o)
    (hheld : ∀ a ∈ s'.activations, ∀ b ∈ s.activations, b.key = a.key → ∀ o,
      a.operation? = some o → b.operation? = some o → s.LeaseActive b.key → s.Held o → s'.Held o) :
    ThreadInv s' where
  queue := hlater.inv
  leased := hleased
  issued a ha o ho := by
    obtain ⟨b, hb, -, hbo⟩ := hops a ha o ho
    exact hissued _ (hinv.issued b hb o hbo)
  distinct a ha b hb o p ho hp hop := by
    obtain ⟨a', ha', hka, hoa⟩ := hops a ha o ho
    obtain ⟨b', hb', hkb, hpb⟩ := hops b hb p hp
    obtain rfl := hinv.distinct a' ha' b' hb' o p hoa hpb hop
    exact s'.activations.eq_of_key ha hb (hka.symm.trans hkb)
  held a ha o ho hact := by
    obtain ⟨b, hb, hk, hbo⟩ := hops a ha o ho
    obtain ⟨l, hl, hlb⟩ := hinv.leased b hb
    have hbact : s.LeaseActive b.key := by
      rw [← hlb]
      refine hlater.active l hl ?_
      rwa [hlb, hk]
    exact hheld a ha b hb hk o ho hbo hbact (hinv.held b hb o hbo hbact)

/-! ## The step lemma -/

lemma QueueOnly.holder {db db' : Db} (h : QueueOnly db db') (k : ThreadAffinityKey) :
    db'.holder k = db.holder k := by
  rw [h]
  rfl

/-- A step that changes the database and nothing about the activations. -/
lemma ThreadInv.of_activations (hinv : ThreadInv s) (hlater : LeasesLater s s')
    (hacts : s'.activations = s.activations) (hissued : ∀ o ∈ s.issued, o ∈ s'.issued)
    (hheld : ∀ a ∈ s.activations, ∀ o, a.operation? = some o → s.LeaseActive a.key → s.Held o →
      s'.Held o) : ThreadInv s' := by
  refine hinv.carried hlater ?_ hissued ?_ ?_
  · intro a ha
    rw [hacts] at ha
    obtain ⟨l, hl, hla⟩ := hinv.leased a ha
    obtain ⟨l', hl', hl'l⟩ := hlater.kept l hl
    exact ⟨l', hl', hl'l.trans hla⟩
  · intro a ha o ho
    exact ⟨a, hacts ▸ ha, rfl, ho⟩
  · intro a ha b hb hk o _ ho hact hh
    exact hheld b hb o ho hact hh

/-- A step after which an activation has `op` as its operation, and the others theirs. -/
structure Advanced (s s' : Fleet) (a : Activation) (op : Option ThreadOperationClaim) : Prop where
  mem : a ∈ s.activations
  issued : ∀ o ∈ s.issued, o ∈ s'.issued
  cases : ∀ b ∈ s'.activations,
    (b.key = a.key ∧ b.operation? = op) ∨ (b ∈ s.activations ∧ b.key ≠ a.key)

lemma Advanced.leased {a : Activation} {op : Option ThreadOperationClaim}
    (hadv : Advanced s s' a op) (hinv : ThreadInv s) (hlater : LeasesLater s s') :
    ∀ b ∈ s'.activations, ∃ l ∈ s'.db.leases, l.key = b.key := by
  intro b hb
  have hold : ∃ c ∈ s.activations, c.key = b.key := by
    obtain ⟨hk, -⟩ | ⟨hb, -⟩ := hadv.cases b hb
    · exact ⟨a, hadv.mem, hk.symm⟩
    · exact ⟨b, hb, rfl⟩
  obtain ⟨c, hc, hcb⟩ := hold
  obtain ⟨l, hl, hlc⟩ := hinv.leased c hc
  obtain ⟨l', hl', hl'l⟩ := hlater.kept l hl
  exact ⟨l', hl', hl'l.trans (hlc.trans hcb)⟩

/-- An activation goes on with its operation or without it. -/
lemma ThreadInv.advanced (hinv : ThreadInv s) (hlater : LeasesLater s s') {a : Activation}
    {op : Option ThreadOperationClaim} (hadv : Advanced s s' a op)
    (hop : op = none ∨ op = a.operation?)
    (hheld : ∀ b ∈ s.activations, (b = a → op = a.operation?) → ∀ o, b.operation? = some o →
      s.LeaseActive b.key → s.Held o → s'.Held o) : ThreadInv s' := by
  refine hinv.carried hlater (hadv.leased hinv hlater) hadv.issued ?_ ?_
  · intro b hb o ho
    obtain ⟨hk, hbo⟩ | ⟨hb, -⟩ := hadv.cases b hb
    · obtain hnone | hsame := hop
      · rw [hbo, hnone] at ho
        simp at ho
      · exact ⟨a, hadv.mem, hk.symm, hsame ▸ hbo ▸ ho⟩
    · exact ⟨b, hb, rfl, ho⟩
  · intro b hb c hc hk o hbo ho hact hh
    refine hheld c hc (fun hca => ?_) o ho hact hh
    obtain ⟨-, hop'⟩ | ⟨-, hne⟩ := hadv.cases b hb
    · rw [← hop', hbo, ← ho, hca]
    · exact absurd (hk.symm.trans (congrArg Activation.key hca)) hne

/-- An activation begins an operation on a thread that had none. -/
lemma ThreadInv.begins (hinv : ThreadInv s) (hlater : LeasesLater s s') {a : Activation}
    {o : ThreadOperationClaim} (hadv : Advanced s s' a (some o)) (hfresh : o.operationId ∉ s.issued)
    (hissued : o.operationId ∈ s'.issued) (honly : HolderOnly o.key s.db s'.db)
    (hfree : s.db.holder o.key = none) (hheld : s'.Held o) : ThreadInv s' where
  queue := hlater.inv
  leased := hadv.leased hinv hlater
  issued b hb p hp := by
    obtain ⟨-, hbo⟩ | ⟨hb, -⟩ := hadv.cases b hb
    · rw [hbo] at hp
      obtain rfl := Option.some.inj hp
      exact hissued
    · exact hadv.issued _ (hinv.issued b hb p hp)
  distinct b hb c hc p q hp hq hpq := by
    -- the identifier of the new operation was never drawn before
    have hnew : ∀ d ∈ s.activations, ∀ r, d.operation? = some r → r.operationId ≠ o.operationId :=
      fun d hd r hr heq => hfresh (heq ▸ hinv.issued d hd r hr)
    obtain ⟨hkb, hbo⟩ | ⟨hb', hkb⟩ := hadv.cases b hb <;>
      obtain ⟨hkc, hco⟩ | ⟨hc', hkc⟩ := hadv.cases c hc
    · exact s'.activations.eq_of_key hb hc (hkb.trans hkc.symm)
    · rw [hbo] at hp
      obtain rfl := Option.some.inj hp
      exact absurd hpq.symm (hnew c hc' q hq)
    · rw [hco] at hq
      obtain rfl := Option.some.inj hq
      exact absurd hpq (hnew b hb' p hp)
    · exact hinv.distinct b hb' c hc' p q hp hq hpq
  held b hb p hp hact := by
    obtain ⟨-, hbo⟩ | ⟨hb', -⟩ := hadv.cases b hb
    · rw [hbo] at hp
      obtain rfl := Option.some.inj hp
      exact hheld
    · obtain ⟨l, hl, hlb⟩ := hinv.leased b hb'
      have hheld' : s.Held p := hinv.held b hb' p hp (hlb ▸ hlater.active l hl (hlb ▸ hact))
      have hne : p.key ≠ o.key := by
        intro hk
        rw [Fleet.Held, hk, hfree] at hheld'
        simp at hheld'
      rw [Fleet.Held, honly.holder _ hne]
      exact hheld'

/-- The operation of an activation after its action. -/
def nextOperation : Next → Option ThreadOperationClaim
  | .goesOn a => a.operation?
  | .returned _ => none

lemma advance_cases {s : Fleet} {k : String × String} {a : Activation} {r : Db × Next}
    (hk : a.key = k) : ∀ b ∈ (FleetEvent.advance s k r).activations,
      (b.key = a.key ∧ b.operation? = nextOperation r.2) ∨ (b ∈ s.activations ∧ b.key ≠ a.key) := by
  intro b hb
  obtain ⟨db, next⟩ := r
  cases next with
  | goesOn a' =>
    obtain ⟨c, -, hck, rfl⟩ | ⟨hb, hne⟩ := Table.mem_update_cases hb
    · exact Or.inl ⟨hck.trans hk.symm, rfl⟩
    · exact Or.inr ⟨hb, hk ▸ hne⟩
  | returned result =>
    obtain ⟨hb, hne⟩ := Table.mem_delete.1 hb
    exact Or.inr ⟨hb, hk ▸ hne⟩

/-- A call of `release_superseded_operation` that the condition allows leaves the operation of an
instance with an active lease alone. -/
lemma held_superseded {a : Activation} (hspares : SparesActive s (.act a.key .supersede))
    (ha : a ∈ s.activations) {turn : PreparedTurn} (hphase : a.phase = .prepared turn)
    {released : Bool} {db : Db}
    (hok : ThreadAffinityStore.releaseSupersededOperation turn.key a.config.instanceId
      turn.promptDigest a.claim.acquiredAt s.db = .ok (released, db)) (hdb : s'.db = db)
    {b : Activation} (hb : b ∈ s.activations) {o : ThreadOperationClaim}
    (ho : b.operation? = some o) (hact : s.LeaseActive b.key) (hh : s.Held o) : s'.Held o := by
  obtain ⟨honly, hcleared⟩ := ThreadAffinityStore.releaseSupersededOperation_ok hok
  rw [Fleet.Held, hdb]
  by_cases hkey : o.key = turn.key
  · obtain hsame | ⟨-, o', ho', hlt⟩ := hcleared
    · rw [hkey, hsame, ← hkey]
      exact hh
    · -- the cleared operation would be the one of `b`
      rw [Fleet.Held, hkey, ho'] at hh
      obtain ⟨hdigest, rfl⟩ := Prod.mk.inj (Option.some.inj hh)
      have hturn : turn ∈ a.phase.prepared? := by
        rw [hphase]
        rfl
      exact absurd hact (hspares a ha rfl turn hturn b hb o ho hkey hdigest.symm hlt)
  · rw [honly.holder _ hkey]
    exact hh

lemma ThreadInv.act (hinv : ThreadInv s) {a : Activation} (ha : a ∈ s.activations) {x : Action}
    {r : Db × Next} (heff : Effect a x s.db r.1 r.2) (hdb : s'.db = r.1)
    (hacts : s'.activations = (FleetEvent.advance s a.key r).activations)
    (hissued : s'.issued = x.draws ++ s.issued) (hnow : s.now ≤ s'.now)
    (hclock : ∀ t ∈ x.readings, s.now ≤ t) (hfresh : ∀ o ∈ x.draws, o ∉ s.issued)
    (hspares : x = .supersede → SparesActive s (.act a.key x)) : ThreadInv s' := by
  have hmono : ∀ o ∈ s.issued, o ∈ s'.issued := by
    intro o ho
    rw [hissued]
    exact List.mem_append_right _ ho
  have hadv : Advanced s s' a (nextOperation r.2) :=
    ⟨ha, hmono, fun b hb => advance_cases rfl b (hacts ▸ hb)⟩
  have hkeeps : ∀ next, Keeps a next → nextOperation next = none ∨
      nextOperation next = a.operation? := by
    intro next h
    cases next with
    | goesOn a' => exact (h a' rfl).2
    | returned result => exact Or.inl rfl
  obtain ⟨db, next⟩ := r
  dsimp only at hdb heff hadv
  -- a call of the thread affinity store leaves the queue alone
  have hthread : ∀ k, HolderOnly k s.db db → LeasesLater s s' := by
    intro k h
    refine .of_eq hinv.queue ?_ ?_ hnow
    · rw [hdb, h.tables]
    · rw [hdb, h.tables]
  cases heff with
  | read hnext =>
    refine hinv.advanced (.of_eq hinv.queue (by rw [hdb]) (by rw [hdb]) hnow) hadv
      (hkeeps _ hnext) fun b _ _ o _ _ hh => ?_
    rw [Fleet.Held, hdb]
    exact hh
  | queue c hreadings _ hnext =>
    refine hinv.advanced (.of_call hinv.queue hdb hnow (hreadings ▸ hclock)) hadv
      (hkeeps _ hnext) fun b _ _ o _ _ hh => ?_
    rw [Fleet.Held, hdb, (c.apply_queueOnly s.db).holder]
    exact hh
  | supersede turn hphase hx hok =>
    obtain ⟨honly, -⟩ := ThreadAffinityStore.releaseSupersededOperation_ok hok
    subst hx
    refine hinv.advanced (hthread _ honly) hadv (Or.inl rfl) fun b hb _ o ho hact hh => ?_
    exact held_superseded (hspares rfl) ha hphase hok hdb hb ho hact hh
  | bind hx hok hop =>
    obtain ⟨rfl, -, honly, hfree, hheld⟩ := ThreadAffinityStore.bindAndClaim_ok hok
    change Advanced s s' a (Phase.operation? _) at hadv
    rw [hop] at hadv
    refine hinv.begins (hthread _ honly) hadv (hfresh _ hx) ?_ ?_ hfree ?_
    · rw [hissued]
      exact List.mem_append_left _ hx
    · rw [hdb]
      exact honly
    · rw [Fleet.Held, hdb]
      exact hheld
  | resume k hok hop =>
    obtain ⟨honly, hsame⟩ := ThreadAffinityStore.markResumed_ok hok
    refine hinv.advanced (hthread _ honly) hadv (Or.inr hop) fun b _ _ o _ _ hh => ?_
    rw [Fleet.Held, hdb]
    by_cases hkey : o.key = k
    · rw [hkey, hsame, ← hkey]
      exact hh
    · rw [honly.holder _ hkey]
      exact hh
  | finish ho hok hop =>
    rename_i o phase
    obtain ⟨honly, -, d, o', ho', hid⟩ := ThreadAffinityStore.releaseOperation_ok hok
    refine hinv.advanced (hthread _ honly) hadv (Or.inl hop) fun b hb hba p hp hact hh => ?_
    rw [Fleet.Held, hdb]
    by_cases hkey : p.key = o.key
    · -- only `a` holds the released operation
      rw [Fleet.Held, hkey, ho'] at hh
      obtain ⟨-, rfl⟩ := Prod.mk.inj (Option.some.inj hh)
      have heq : b = a := hinv.distinct b hb a ha p o hp ho hid
      have hnone : nextOperation (.goesOn { a with phase }) = a.operation? := hba heq
      rw [ho] at hnone
      exact absurd (hop.symm.trans hnone) (by simp)
    · rw [honly.holder _ hkey]
      exact hh

/-- A claim inserts the lease of its activation. -/
lemma claim_leased {c : RoleServiceConfig} {hex token : String} {clock : ClaimClock}
    {locked : List String} {l : LeaseClaim} {db db' : Db}
    (h : RoleQueueStore.claim (claimRequest c hex token) clock locked db = .ok (some l, db')) :
    ∃ m ∈ db'.leases, m.key = (l.projectId, l.leaseId) := by
  obtain ⟨p, q, o, -, -, -, -, -, -, -, -, -, -, -, hclaim⟩ := RoleQueueStore.claim_ok h
  obtain ⟨-, hc, -⟩ | ⟨item, db₁, -, hins, rfl, hc⟩ := hclaim
  · simp at hc
  · obtain rfl := Option.some.inj hc
    exact ⟨_, (mem_leases_grant hins _).2 (Or.inr rfl), rfl⟩

lemma ThreadInv.step (hinv : ThreadInv s) {e : FleetEvent} (hspares : SparesActive s e) :
    ThreadInv (FleetEvent.step s e) := by
  unfold FleetEvent.step
  split
  · next hlegal =>
    obtain ⟨hclock, hfresh⟩ := hlegal
    have hnow : s.now ≤ e.readings.foldl max s.now := le_foldl_max
    have hissued : ∀ o ∈ s.issued, o ∈ e.draws ++ s.issued :=
      fun o ho => List.mem_append_right _ ho
    -- nothing but the clock changed
    have hsame : ThreadInv
        { s with now := e.readings.foldl max s.now, issued := e.draws ++ s.issued } :=
      hinv.of_activations (.of_eq hinv.queue rfl rfl hnow) rfl hissued fun _ _ _ _ _ hh => hh
    cases e with
    | claim config leaseHex leaseToken clock locked =>
      rw [FleetEvent.apply]
      cases hok : RoleQueueStore.claim (claimRequest config leaseHex leaseToken) clock locked
          s.db with
      | error err => exact hsame
      | ok r =>
        obtain ⟨c, db⟩ := r
        have hcall : db = (QueueCall.claim (claimRequest config leaseHex leaseToken) clock
          locked).apply s.db := (Tx.commit_of_ok hok).symm
        have hheld : ∀ k, db.holder k = s.db.holder k := by
          rw [hcall]
          exact (QueueCall.apply_queueOnly s.db _).holder
        cases c with
        | none =>
          dsimp only
          refine hinv.of_activations (.of_call hinv.queue hcall hnow hclock) rfl hissued ?_
          intro a _ o _ _ hh
          rw [Fleet.Held, hheld]
          exact hh
        | some c =>
          dsimp only
          cases hins : s.activations.insert ⟨config, c, .claimed, none⟩ with
          | none => exact hsame
          | some activations =>
            dsimp only
            have hmem := Table.mem_of_insert hins
            refine hinv.carried (.of_call hinv.queue hcall hnow hclock) ?_ hissued ?_ ?_
            · intro a ha
              obtain ha | rfl := (hmem a).1 ha
              · obtain ⟨l, hl, hla⟩ := hinv.leased a ha
                obtain ⟨l', hl', hcont⟩ := (QueueCall.apply_keeps hinv.queue _).2.lease l hl
                exact ⟨l', hcall ▸ hl', hcont.key.trans hla⟩
              · exact claim_leased hok
            · intro a ha o ho
              obtain ha | rfl := (hmem a).1 ha
              · exact ⟨a, ha, rfl, ho⟩
              · simp [Activation.operation?, Phase.operation?] at ho
            · intro a _ b _ _ o _ _ _ hh
              rw [Fleet.Held, hheld]
              exact hh
    | act k x =>
      rw [FleetEvent.apply]
      cases hlook : s.activations.lookup k with
      | none => exact hsame
      | some a =>
        obtain ⟨ha, rfl⟩ := Table.lookup_eq_some.1 hlook
        refine hinv.act ha (act_effect a x s.db) ?_ ?_ rfl hnow hclock hfresh fun _ => hspares
        · exact FleetEvent.advance_db _ _ _
        · rfl
    | crash k =>
      rw [FleetEvent.apply]
      refine hinv.carried (.of_eq hinv.queue rfl rfl hnow) ?_ hissued ?_ ?_
      · intro a ha
        exact hinv.leased a (Table.mem_delete.1 ha).1
      · intro a ha o ho
        exact ⟨a, (Table.mem_delete.1 ha).1, rfl, ho⟩
      · exact fun _ _ _ _ _ _ _ _ _ hh => hh
    | queue c =>
      rw [FleetEvent.apply]
      refine hinv.of_activations (.of_call hinv.queue rfl hnow hclock) rfl hissued ?_
      intro a _ o _ _ hh
      rw [Fleet.Held]
      dsimp only
      rw [(c.apply_queueOnly s.db).holder]
      exact hh
    | reseed k expected new actor reason reseedId =>
      rw [FleetEvent.apply]
      obtain he | ⟨n, hok⟩ := Tx.commit_cases
        (ThreadAffinityStore.reseed k expected new actor reason reseedId) s.db
      · rw [he]
        exact hsame
      · obtain ⟨honly, hfree, -⟩ := ThreadAffinityStore.reseed_ok hok
        refine hinv.of_activations (.of_eq hinv.queue ?_ ?_ hnow) rfl hissued ?_
        · dsimp only
          rw [honly.tables]
        · dsimp only
          rw [honly.tables]
        · intro a ha o ho hact hh
          have hne : o.key ≠ k := by
            intro hk
            rw [Fleet.Held, hk, hfree] at hh
            simp at hh
          rw [Fleet.Held]
          dsimp only
          rw [honly.holder _ hne]
          exact hh
    | elsewhere db now =>
      rw [FleetEvent.apply]
      exact hinv.of_activations (.of_eq hinv.queue rfl rfl hnow) rfl hissued fun _ _ _ _ _ hh => hh
  · exact hinv

lemma ThreadInv.start (db : Db) : ThreadInv (Fleet.start db) where
  queue := .withoutQueue db
  leased a ha := absurd ha (Table.notMem_empty a)
  issued a ha := absurd ha (Table.notMem_empty a)
  distinct a ha := absurd ha (Table.notMem_empty a)
  held a ha := absurd ha (Table.notMem_empty a)

/-! ## One operation on a thread -/

lemma ThreadInv.held_supersede (hinv : ThreadInv s) {k : String × String}
    (hspares : SparesActive s (.act k .supersede)) {b : Activation} (hb : b ∈ s.activations)
    {o : ThreadOperationClaim} (ho : b.operation? = some o) (hact : s.LeaseActive b.key) :
    (FleetEvent.step s (.act k .supersede)).Held o := by
  have hh : s.Held o := hinv.held b hb o ho hact
  have hlegal : FleetEvent.Legal s (.act k .supersede) :=
    ⟨fun t ht => absurd ht List.not_mem_nil, fun t ht => absurd ht List.not_mem_nil⟩
  rw [FleetEvent.step, if_pos hlegal, FleetEvent.apply]
  cases hlook : s.activations.lookup k with
  | none => exact hh
  | some a =>
    obtain ⟨ha, rfl⟩ := Table.lookup_eq_some.1 hlook
    have hdb : (FleetEvent.advance s a.key (RoleService.act a .supersede s.db)).db =
        (RoleService.act a .supersede s.db).1 := FleetEvent.advance_db _ _ _
    obtain hsame | ⟨turn, released, hphase, hok⟩ := act_supersede a s.db
    · rw [Fleet.Held]
      dsimp only
      rw [hdb, hsame]
      exact hh
    · exact held_superseded hspares ha hphase hok hdb hb ho hact hh

/-- **One operation on a thread.**  In every run in which no call of
`release_superseded_operation` is made while an instance with an active lease runs an older
operation of the conversation, at most one instance with an active lease runs an operation on
the thread of a conversation.  The operation of an instance with an active lease holds its
thread, and still does after every further call of `release_superseded_operation` that the
condition allows. -/
theorem one_operation_per_thread (db₀ : Db) (es : List FleetEvent)
    (h : Along FleetEvent.step SparesActive (Fleet.start db₀) es) :
    let s := run FleetEvent.step (Fleet.start db₀) es
    (∀ a ∈ s.activations, ∀ b ∈ s.activations, ∀ o p, a.operation? = some o →
      b.operation? = some p → o.key = p.key → s.LeaseActive a.key → s.LeaseActive b.key → a = b) ∧
    (∀ a ∈ s.activations, ∀ o, a.operation? = some o → s.LeaseActive a.key → s.Held o) ∧
    ∀ k, SparesActive s (.act k .supersede) → ∀ a ∈ s.activations, ∀ o, a.operation? = some o →
      s.LeaseActive a.key → (FleetEvent.step s (.act k .supersede)).Held o := by
  intro s
  have hinv : ThreadInv s := invariant_along (fun _ _ hinv he => hinv.step he) (.start db₀) h
  refine ⟨fun a ha b hb o p ho hp hkey hact hbct => ?_, hinv.held, ?_⟩
  · -- both operations hold the same thread
    have hop := hinv.held a ha o ho hact
    have hpp := hinv.held b hb p hp hbct
    rw [Fleet.Held, hkey, hpp] at hop
    refine hinv.distinct a ha b hb o p ho hp ?_
    simp only [Option.some.injEq, Prod.mk.injEq, ActiveOperation.mk.injEq] at hop
    exact hop.2.1.symm
  · intro k hspares a ha o ho hact
    exact hinv.held_supersede hspares ha ho hact

/-! ## Two items of one conversation -/

/-- The digest of the prompt of the developers. -/
def developerDigest : String := "0123456789abcdef0123456789abcdef0123456789abcdef0123456789abcdef"

/-- The instances of the two developers. -/
def developerInstances : List RoleInstance :=
  [⟨"p", "dev-1", "dev", .running⟩, ⟨"p", "dev-2", "dev", .running⟩]

lemma developerInstances_nodup : (developerInstances.map RoleInstance.key).Nodup := by decide

/-- Two developers with one work item. -/
def developers : Db where
  roles := .single ⟨"p", "dev", .active⟩
  instances := ⟨developerInstances, developerInstances_nodup⟩
  bindings := .single ⟨"p", "dev", "developer", "delivery", developerDigest⟩
  workItems := .single ⟨"p", "w", some "dev", .active, 1, .obj [], none, .obj []⟩
  queues := .single ⟨"p", "dev", "dev", none, false⟩
  flowRuns := .single ⟨"p", "w", ⟨"delivery", "dev", "build", [], .obj [], "flow"⟩, "build", "dev",
    .active, .obj [], 1⟩

/-- An item of the work item `w`. -/
def developerWork (queueItemId : String) : EnqueueRequest where
  projectId := "p"
  queueId := "dev"
  queueItemId
  workItemId := "w"
  idempotencyKey := queueItemId
  payload := .obj []

/-- An instance claims an item and prepares its turn. -/
def turnOf (instanceId number : String) (now : Time) : List FleetEvent := [
  .claim ⟨"p", "dev", instanceId, 60⟩ number ("token-" ++ number) ⟨now, now, now⟩ [],
  .act ("p", "lease-" ++ number) .checkRetry,
  .act ("p", "lease-" ++ number) (.prepare (some developerDigest) .ready false)]

/-- The prepared turn takes the thread. -/
def threadOf (number : String) (now : Time) : List FleetEvent := [
  .act ("p", "lease-" ++ number) .supersede,
  .act ("p", "lease-" ++ number) (.bind "codex" (some "thread") ("op-" ++ number) now)]

/-- Two items of the work item, and the first developer at work on one of them. -/
def firstAtWork : List FleetEvent :=
  [.queue (.enqueue (developerWork "i1") 1), .queue (.enqueue (developerWork "i2") 2)] ++
    turnOf "dev-1" "1" 3 ++ threadOf "1" 4

/-- The first developer dies and its lease expires before the second one takes over. -/
def secondTakesOver : List FleetEvent :=
  firstAtWork ++ [.crash ("p", "lease-1"), .elsewhere developers 61000000] ++
    turnOf "dev-2" "2" 61000001 ++ threadOf "2" 61000002

theorem one_operation_secondTakesOver :
    let s := run FleetEvent.step (Fleet.start developers) secondTakesOver
    (∀ a ∈ s.activations, ∀ b ∈ s.activations, ∀ o p, a.operation? = some o →
      b.operation? = some p → o.key = p.key → s.LeaseActive a.key → s.LeaseActive b.key → a = b) ∧
    (∀ a ∈ s.activations, ∀ o, a.operation? = some o → s.LeaseActive a.key → s.Held o) ∧
    ∀ k, SparesActive s (.act k .supersede) → ∀ a ∈ s.activations, ∀ o, a.operation? = some o →
      s.LeaseActive a.key → (FleetEvent.step s (.act k .supersede)).Held o :=
  one_operation_per_thread developers secondTakesOver (by decide +kernel)

/-- The second developer claims the other item while the first one is at work: its call clears
the operation of the first one, whose lease is active, and both run on the thread. -/
theorem two_operations_on_thread :
    let s := run FleetEvent.step (Fleet.start developers) (firstAtWork ++ turnOf "dev-2" "2" 5)
    (∃ a ∈ s.activations.rows, ∃ o ∈ a.operation?, s.LeaseActive a.key ∧ s.Held o ∧
      ¬ (FleetEvent.step s (.act ("p", "lease-2") .supersede)).Held o) ∧
    let t := run FleetEvent.step s (threadOf "2" 6)
    ∃ a ∈ t.activations.rows, ∃ b ∈ t.activations.rows, a ≠ b ∧ ∃ o ∈ a.operation?,
      ∃ p ∈ b.operation?, o.key = p.key ∧ t.LeaseActive a.key ∧ t.LeaseActive b.key := by
  decide +kernel

end AgenticMesh
