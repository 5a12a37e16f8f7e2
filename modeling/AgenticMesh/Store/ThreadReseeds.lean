import AgenticMesh.Base.Run
import AgenticMesh.Store.ThreadAffinity

/-!
# The history of a provider thread

A conversation keeps its provider thread and its prompt until a controlled
reseed.  `reseed` appends a record to `thread_reseeds`, which is append-only,
and raises the generation of the conversation; the next `bind` seeds a new
thread.  A run interleaves the transactions of any number of callers.  The
operations other than `reseed` are one relation on `thread_affinities`, `AffinityStep`:
they never change a prompt, a generation or a bound thread.
-/

namespace AgenticMesh

/-- A row of `thread_reseeds`. -/
structure ThreadReseed where
  affinity : ThreadAffinityKey
  reseedId : String
  generation : ℕ
  oldProviderId : String
  oldThreadId : String
  oldPromptDigest : String
  newPromptDigest : String
  actorId : String
  reason : String
deriving DecidableEq

def ThreadReseed.key (r : ThreadReseed) : String × String := (r.affinity.projectId, r.reseedId)

/-- The provider thread that a row is bound to. -/
def Db.threadOf (db : Db) (k : String × String × String × String) : Option (String × String) :=
  (db.affinities.lookup k).bind (·.state.thread?)

/-- The database with the records of the reseeds. -/
structure ThreadStore where
  db : Db
  reseeds : Table ThreadReseed ThreadReseed.key

namespace ThreadStore

/-- The row of a conversation. -/
def binding (s : ThreadStore) (k : ThreadAffinityKey) : Option ThreadAffinity :=
  s.db.affinities.lookup k.row

/-- The provider thread of a conversation. -/
def thread (s : ThreadStore) (k : ThreadAffinityKey) : Option (String × String) :=
  s.db.threadOf k.row

/-- The prompt that a conversation is pinned to. -/
def promptDigest (s : ThreadStore) (k : ThreadAffinityKey) : Option String :=
  (s.binding k).map (·.promptDigest)

/-- The records of a conversation. -/
def records (s : ThreadStore) (k : ThreadAffinityKey) : List ThreadReseed :=
  s.reseeds.select (·.affinity = k)

/-- `INSERT INTO thread_reseeds`: a generation of a conversation is recorded once. -/
def insertReseed (r : ThreadReseed) (s : ThreadStore) : Option ThreadStore :=
  if ∃ q ∈ s.reseeds.rows, q.affinity = r.affinity ∧ q.generation = r.generation then none
  else (s.reseeds.insert r).map fun reseeds => { s with reseeds }

end ThreadStore

namespace ThreadAffinityStore

/-- `_bind_or_read` without an operation.  The result tells whether a thread was started. -/
def bindOrRead (c : BindRequest) : Tx Db ThreadAffinityError Bool := do
  authorize c.key c.instanceId
  let existing ← Tx.query fun db => db.affinities.lookup c.key.row
  match existing with
  | none => do
    let threadId ← newThread c
    let db ← Tx.query id
    Tx.require (db.ThreadFree c.key c.providerId threadId)
      (.conflict "provider thread is already bound to another context")
    Tx.attempt
      (Db.insertAffinity
        { projectId := c.key.projectId, workItemId := c.key.workItemId, roleId := c.key.roleId,
          conversationId := c.key.conversationId, promptDigest := c.promptDigest,
          generation := 1, lastInstanceId := c.instanceId,
          state := .active c.providerId threadId none })
      (.conflict "provider thread is already bound to another context")
    return true
  | some binding => do
    Tx.require (binding.promptDigest = c.promptDigest) (promptMismatch binding.promptDigest)
    match binding.state with
    | .pendingSeed _ => do
      let threadId ← newThread c
      let db ← Tx.query id
      Tx.require (db.ThreadFree c.key c.providerId threadId)
        (.conflict "provider thread is already bound to another context")
      Tx.modify (Db.seedAffinity c.key c.instanceId c.providerId threadId)
      return true
    | .active providerId _ _ => do
      Tx.require (providerId = c.providerId) (.conflict "thread affinity provider does not match")
      return false

/-- `_bind_or_read` with an operation claims the thread that it found or seeded. -/
lemma bind_eq (c : BindRequest) (now : Time) :
    bind c now = (bindOrRead c >>= fun created => do
      claimBinding c now
      return created) := by
  simp only [bind, bindOrRead, Tx.bind_assoc]
  congr 1
  funext _
  congr 1
  funext existing
  cases existing with
  | none => simp only [Tx.bind_assoc]; rfl
  | some binding =>
    simp only [Tx.bind_assoc]
    congr 1
    funext _
    cases binding.state with
    | pendingSeed r => simp only [Tx.bind_assoc]; rfl
    | active p t o => simp only [Tx.bind_assoc]; rfl

/-- `bind_or_read`. -/
def bindOrReadThread (c : BindRequest) : Tx Db ThreadAffinityError Bool := do
  requireKey c.key
  requireText c.instanceId "instance_id"
  requireText c.providerId "provider_id"
  requireDigest c.promptDigest
  bindOrRead c

/-- `claim_operation`, with the identifier that it draws. -/
def claimOperation (k : ThreadAffinityKey) (instanceId promptDigest operationId : String)
    (now : Time) : Tx Db ThreadAffinityError ThreadOperationClaim := do
  requireKey k
  requireText instanceId "instance_id"
  requireDigest promptDigest
  authorize k instanceId
  claimBinding ⟨k, instanceId, "", promptDigest, none, operationId⟩ now
  return ⟨k, operationId, instanceId, promptDigest, now⟩

/-- `reseed` with the record of the thread that was given up. -/
def reseedRecorded (k : ThreadAffinityKey)
    (expectedDigest newDigest actorId reason reseedId : String) :
    Tx ThreadStore ThreadAffinityError ThreadReseed := do
  let binding ← Tx.query (·.binding k)
  let generation ← Tx.zoom ThreadStore.db (fun db s => { s with db })
    (reseed k expectedDigest newDigest actorId reason reseedId)
  let thread := (binding.bind (·.state.thread?)).getD ("", "")
  let record : ThreadReseed :=
    { affinity := k, reseedId, generation, oldProviderId := thread.1, oldThreadId := thread.2,
      oldPromptDigest := expectedDigest, newPromptDigest := newDigest, actorId, reason }
  Tx.attempt (ThreadStore.insertReseed record) .store
  return record

end ThreadAffinityStore

open ThreadAffinityStore

/-- A call of the store, with what it draws and what it is answered. -/
inductive ThreadEvent where
  | bindOrRead (c : BindRequest)
  | bindAndClaim (c : BindRequest) (now : Time)
  | claimOperation (k : ThreadAffinityKey) (instanceId promptDigest operationId : String)
      (now : Time)
  | markResumed (k : ThreadAffinityKey) (instanceId providerId threadId promptDigest : String)
  | releaseOperation (c : ThreadOperationClaim)
  | releaseSuperseded (k : ThreadAffinityKey) (instanceId promptDigest : String)
      (supersededBefore : Time)
  | reseed (k : ThreadAffinityKey) (expectedDigest newDigest actorId reason reseedId : String)
  /-- The other stores write their tables. -/
  | elsewhere (db : Db)

namespace ThreadStore

/-- A transaction on the database, whatever it returns. -/
def onDb {α : Type} (t : Tx Db ThreadAffinityError α) (s : ThreadStore) : ThreadStore :=
  { s with db := t.commit s.db }

def step (s : ThreadStore) : ThreadEvent → ThreadStore
  | .bindOrRead c => s.onDb (bindOrReadThread c)
  | .bindAndClaim c now => s.onDb (bindAndClaim c now)
  | .claimOperation k i d o now => s.onDb (claimOperation k i d o now)
  | .markResumed k i p t d => s.onDb (markResumed k i p t d)
  | .releaseOperation c => s.onDb (releaseOperation c)
  | .releaseSuperseded k i d t => s.onDb (releaseSupersededOperation k i d t)
  | .reseed k e n a r id => (reseedRecorded k e n a r id).commit s
  | .elsewhere db => { s with db := { db with affinities := s.db.affinities } }

end ThreadStore

/-! ## What the operations other than `reseed` may change -/

/-- No provider thread is bound to two conversations. -/
def Db.OneKey (db : Db) : Prop :=
  ∀ a ∈ db.affinities, ∀ b ∈ db.affinities, ∀ t, a.state.thread? = some t →
    b.state.thread? = some t → a.key = b.key

/-- A row goes on with its prompt, its generation and its thread. -/
structure ThreadAffinity.Continues (a a' : ThreadAffinity) : Prop where
  promptDigest : a'.promptDigest = a.promptDigest
  generation : a'.generation = a.generation
  thread : ∀ t, a.state.thread? = some t → a'.state.thread? = some t

lemma ThreadAffinity.Continues.trans {a b c : ThreadAffinity} (h : a.Continues b)
    (h' : b.Continues c) : a.Continues c where
  promptDigest := h'.promptDigest.trans h.promptDigest
  generation := h'.generation.trans h.generation
  thread t ht := h'.thread t (h.thread t ht)

/-- A thread that may be bound to a row. -/
abbrev Seeds : Type := String × String × String × String → String × String → Prop

/-- No thread is bound. -/
def noSeed : Seeds := fun _ _ => False

/-- The thread that the provider started for a caller. -/
def BindRequest.seed (c : BindRequest) : Seeds := fun k t =>
  k = c.key.row ∧ t.1 = c.providerId ∧ c.createThread = some t.2

/-- The rows of `thread_affinities` go on, the new ones are of the first generation, a row that
had no thread gets one of `S` only, and no thread is bound a second time. -/
structure AffinityStep (S : Seeds) (db db' : Db) : Prop where
  kept : ∀ k a, db.affinities.lookup k = some a →
    ∃ a', db'.affinities.lookup k = some a' ∧ a.Continues a'
  fresh : ∀ k a', db.affinities.lookup k = none → db'.affinities.lookup k = some a' →
    a'.generation = 1
  seeded : ∀ k t, db.threadOf k = none → db'.threadOf k = some t → S k t
  oneKey : db.OneKey → db'.OneKey

namespace AffinityStep

variable {S : Seeds} {db db' : Db}

/-- A bound thread stays. -/
lemma thread (h : AffinityStep S db db') {k : String × String × String × String}
    {t : String × String} (ht : db.threadOf k = some t) : db'.threadOf k = some t := by
  obtain ⟨a, ha, hat⟩ := Option.bind_eq_some_iff.1 ht
  obtain ⟨a', ha', hcont⟩ := h.kept k a ha
  rw [Db.threadOf, ha']
  exact hcont.thread t hat

lemma of_eq (h : db'.affinities = db.affinities) : AffinityStep S db db' where
  kept k a ha := ⟨a, by rw [h, ha], ⟨rfl, rfl, fun _ ht => ht⟩⟩
  fresh k a' ha ha' := by
    rw [h, ha] at ha'
    simp at ha'
  seeded k t hnone hsome := by
    rw [Db.threadOf, h, ← Db.threadOf, hnone] at hsome
    simp at hsome
  oneKey hone := by
    unfold Db.OneKey
    rw [h]
    exact hone

lemma refl (db : Db) : AffinityStep S db db := .of_eq rfl

lemma trans {db₂ : Db} (h : AffinityStep S db db₂) (h' : AffinityStep S db₂ db') :
    AffinityStep S db db' where
  kept k a ha := by
    obtain ⟨b, hb, hab⟩ := h.kept k a ha
    obtain ⟨c, hc, hbc⟩ := h'.kept k b hb
    exact ⟨c, hc, hab.trans hbc⟩
  fresh k c ha hc := by
    cases hb : db₂.affinities.lookup k with
    | none => exact h'.fresh k c hb hc
    | some b =>
      obtain ⟨c', hc', hbc⟩ := h'.kept k b hb
      obtain rfl := Option.some.inj (hc.symm.trans hc')
      exact hbc.generation.trans (h.fresh k b ha hb)
  seeded k t hnone hsome := by
    cases hmid : db₂.threadOf k with
    | none => exact h'.seeded k t hmid hsome
    | some u =>
      obtain rfl := Option.some.inj (hsome.symm.trans (h'.thread hmid))
      exact h.seeded k t hnone hmid
  oneKey hone := h'.oneKey (h.oneKey hone)

/-- An update after which every row goes on, and a thread that a row got is free. -/
lemma update {p : ThreadAffinity → Prop} [DecidablePred p]
    {f : Table.Assign ThreadAffinity.key}
    (hcont : ∀ a ∈ db.affinities, p a → a.Continues (f.set a))
    (hseed : ∀ a ∈ db.affinities, p a → ∀ t, a.state.thread? = none →
      (f.set a).state.thread? = some t → S a.key t)
    (hfree : db.OneKey → ∀ a ∈ db.affinities, p a → ∀ t, (f.set a).state.thread? = some t →
      ∀ b ∈ db.affinities, b.key ≠ a.key → b.state.thread? ≠ some t)
    (hone : ∀ a ∈ db.affinities, ∀ b ∈ db.affinities, p a → p b → a.key = b.key) :
    AffinityStep S db { db with affinities := db.affinities.update p f } where
  kept k a ha := by
    have hmem : a ∈ db.affinities := (Table.lookup_eq_some.1 ha).1
    refine ⟨if p a then f.set a else a, by rw [Table.lookup_update, ha]; rfl, ?_⟩
    split
    · next hp => exact hcont a hmem hp
    · exact ⟨rfl, rfl, fun _ ht => ht⟩
  fresh k a' ha ha' := by
    rw [Table.lookup_update, ha] at ha'
    simp at ha'
  seeded k t hnone hsome := by
    rw [Db.threadOf, Table.lookup_update] at hsome
    cases ha : db.affinities.lookup k with
    | none => simp [ha] at hsome
    | some a =>
      obtain ⟨hmem, rfl⟩ := Table.lookup_eq_some.1 ha
      simp only [Db.threadOf, ha, Option.bind_some] at hnone
      simp only [ha, Option.map_some, Option.bind_some] at hsome
      split at hsome
      · next hp => exact hseed a hmem hp t hnone hsome
      · rw [hnone] at hsome
        simp at hsome
  oneKey h := by
    intro a ha b hb t hat hbt
    -- only an updated row can have a thread that it had not before
    obtain ⟨r, hr, hpr, rfl⟩ | ⟨har, -⟩ := Table.mem_update_cases ha <;>
      obtain ⟨q, hq, hpq, rfl⟩ | ⟨hbr, -⟩ := Table.mem_update_cases hb
    · rw [f.key_set, f.key_set]
      exact hone r hr q hq hpr hpq
    · rw [f.key_set]
      by_contra hne
      exact hfree h r hr hpr t hat b hbr (Ne.symm hne) hbt
    · rw [f.key_set]
      by_contra hne
      exact hfree h q hq hpq t hbt a har hne hat
    · exact h a har b hbr t hat hbt

/-- An update of the row of a conversation that changes neither prompt, generation nor thread. -/
lemma touch {k : ThreadAffinityKey} {p : ThreadAffinity → Prop} [DecidablePred p]
    {f : Table.Assign ThreadAffinity.key} (hp : ∀ a, p a → a.key = k.row)
    (hdigest : ∀ a, (f.set a).promptDigest = a.promptDigest)
    (hgen : ∀ a, (f.set a).generation = a.generation)
    (hthread : ∀ a, (f.set a).state.thread? = a.state.thread?) :
    AffinityStep S db { db with affinities := db.affinities.update p f } := by
  refine .update (fun a _ _ => ⟨hdigest a, hgen a, fun t ht => (hthread a).trans ht⟩) ?_ ?_ ?_
  · intro a _ _ t hnone hsome
    rw [hthread, hnone] at hsome
    simp at hsome
  · intro h a ha _ t ht b hb hne hbt
    exact hne (h b hb a ha t hbt ((hthread a).symm.trans ht))
  · exact fun a _ b _ ha hb => (hp a ha).trans (hp b hb).symm

/-- A new row of the first generation whose thread is free. -/
lemma insert {a : ThreadAffinity} (h : db.insertAffinity a = some db')
    (hgen : a.generation = 1) (hseed : ∀ t, a.state.thread? = some t → S a.key t)
    (hfree : ∀ t, a.state.thread? = some t → ∀ b ∈ db.affinities, b.key ≠ a.key →
      b.state.thread? ≠ some t) : AffinityStep S db db' := by
  unfold Db.insertAffinity at h
  cases ht : db.affinities.insert a with
  | none => simp [ht] at h
  | some t =>
    rw [ht] at h
    obtain rfl := Option.some.inj h
    have hlook := Table.lookup_of_insert ht
    have hmem := Table.mem_of_insert ht
    have hnew := (Table.insert_eq_some.1 ht).1
    constructor
    · intro k b hb
      have hk : a.key ≠ k := fun hk =>
        hnew b (Table.lookup_eq_some.1 hb).1 ((Table.lookup_eq_some.1 hb).2.trans hk.symm)
      exact ⟨b, by rw [hlook, if_neg hk, hb], ⟨rfl, rfl, fun _ ht => ht⟩⟩
    · intro k b hb hb'
      rw [hlook] at hb'
      split at hb'
      · rwa [← Option.some.inj hb']
      · rw [hb] at hb'
        simp at hb'
    · intro k u hnone hsome
      rw [Db.threadOf, hlook] at hsome
      split at hsome
      · next hk => exact hk ▸ hseed u hsome
      · rw [← Db.threadOf, hnone] at hsome
        simp at hsome
    · intro hone b hb c hc u hbu hcu
      rcases (hmem b).1 hb with hb | rfl <;> rcases (hmem c).1 hc with hc | rfl
      · exact hone b hb c hc u hbu hcu
      · exact absurd hbu (hfree u hcu b hb (hnew b hb))
      · exact absurd hcu (hfree u hbu c hc (hnew c hc))
      · rfl

end AffinityStep

@[simp] lemma AffinityState.thread?_withOperation (o : Option ActiveOperation)
    (s : AffinityState) : (s.withOperation o).thread? = s.thread? := by
  cases s <;> rfl

lemma AffinityStep.updateThread {S : Seeds} {db : Db} {k : ThreadAffinityKey}
    {p : ThreadAffinity → Prop}
    [DecidablePred p] {o : Option ActiveOperation} :
    AffinityStep S db (db.updateThread k p (.withOperation o)) :=
  .touch (fun _ ha => ha.1) (fun _ => rfl) (fun _ => rfl)
    fun a => AffinityState.thread?_withOperation o a.state

namespace ThreadAffinityStore

variable {S : Seeds} {db db' : Db} {c : BindRequest} {k : ThreadAffinityKey} {now : Time}

lemma claimBinding_step (h : claimBinding c now db = .ok ((), db')) : AffinityStep S db db' := by
  simp only [claimBinding, Tx.demand_bind_ok, Tx.require_bind_ok] at h
  obtain ⟨a, -, -, h⟩ := h
  cases hstate : a.state with
  | pendingSeed r =>
    rw [hstate] at h
    simp at h
  | active p t o =>
    rw [hstate] at h
    simp only [Tx.require_bind_ok, Tx.modify_ok] at h
    obtain ⟨-, hdb⟩ := h
    rw [show db' = _ from hdb]
    exact .updateThread

/-- What a call of `_bind_or_read` did: it found a thread, or it bound a free one that the
provider started. -/
lemma bindOrRead_step {created : Bool} (h : bindOrRead c db = .ok (created, db')) :
    AffinityStep c.seed db db' := by
  simp only [bindOrRead, authorize_bind_ok, Tx.query_bind_ok] at h
  obtain ⟨-, h⟩ := h
  cases hlook : db.affinities.lookup c.key.row with
  | none =>
    rw [hlook] at h
    dsimp only at h
    rw [newThread_bind_ok] at h
    obtain ⟨t, ⟨hstart, -⟩, h⟩ := h
    rw [Tx.query_bind_ok, Tx.require_bind_ok, Tx.attempt_bind_ok] at h
    obtain ⟨hfree, mid, hins, h⟩ := h
    obtain ⟨-, rfl⟩ := Prod.mk.inj (Tx.pure_ok.1 h)
    refine .insert hins rfl ?_ ?_
    · rintro _ ⟨⟩
      exact ⟨rfl, rfl, hstart⟩
    · rintro _ ⟨⟩ b hb hne
      exact hfree b hb hne
  | some a =>
    have hmem : a ∈ db.affinities := (Table.lookup_eq_some.1 hlook).1
    have hkey : a.key = c.key.row := (Table.lookup_eq_some.1 hlook).2
    rw [hlook] at h
    dsimp only at h
    rw [Tx.require_bind_ok] at h
    obtain ⟨-, h⟩ := h
    cases hstate : a.state with
    | pendingSeed r =>
      rw [hstate] at h
      dsimp only at h
      rw [newThread_bind_ok] at h
      obtain ⟨t, ⟨hstart, -⟩, h⟩ := h
      rw [Tx.query_bind_ok, Tx.require_bind_ok, Tx.modify_bind_ok] at h
      obtain ⟨hfree, h⟩ := h
      obtain ⟨-, rfl⟩ := Prod.mk.inj (Tx.pure_ok.1 h)
      have hrow : ∀ b ∈ db.affinities, b.key = c.key.row → b = a := fun b hb hbk =>
        db.affinities.eq_of_key hb hmem (hbk.trans hkey.symm)
      refine .update ?_ ?_ ?_ ?_
      · intro b hb hbk
        obtain rfl := hrow b hb hbk
        refine ⟨rfl, rfl, fun u hu => ?_⟩
        simp [hstate, AffinityState.thread?] at hu
      · rintro b - hbk _ - ⟨⟩
        exact ⟨hbk, rfl, hstart⟩
      · rintro - b hb hbk _ ⟨⟩ d hd hne
        exact hfree d hd (hbk ▸ hne)
      · exact fun b _ d _ hb hd => hb.trans hd.symm
    | active p t o =>
      rw [hstate] at h
      dsimp only at h
      rw [Tx.require_bind_ok] at h
      obtain ⟨-, rfl⟩ := Prod.mk.inj (Tx.pure_ok.1 h.2)
      exact .refl _

lemma bind_step {created : Bool} (h : bind c now db = .ok (created, db')) :
    AffinityStep c.seed db db' := by
  rw [bind_eq] at h
  obtain ⟨b, mid, hbind, h⟩ := Tx.bind_ok.1 h
  obtain ⟨⟨⟩, db₂, hclaim, h⟩ := Tx.bind_ok.1 h
  obtain ⟨-, rfl⟩ := Prod.mk.inj (Tx.pure_ok.1 h)
  exact (bindOrRead_step hbind).trans (claimBinding_step hclaim)

lemma bindOrReadThread_step {created : Bool} (h : bindOrReadThread c db = .ok (created, db')) :
    AffinityStep c.seed db db' := by
  simp only [bindOrReadThread, requireKey_bind_ok, requireText_bind_ok, requireDigest_bind_ok] at h
  exact bindOrRead_step h.2.2.2.2

lemma bindAndClaim_step {r : Bool × ThreadOperationClaim}
    (h : bindAndClaim c now db = .ok (r, db')) : AffinityStep c.seed db db' := by
  simp only [bindAndClaim, requireKey_bind_ok, requireText_bind_ok, requireDigest_bind_ok] at h
  obtain ⟨-, -, -, -, h⟩ := h
  obtain ⟨b, s, hbind, h⟩ := Tx.bind_ok.1 h
  obtain ⟨-, rfl⟩ := Prod.mk.inj (Tx.pure_ok.1 h)
  exact bind_step hbind

lemma claimOperation_step {i d o : String} {r : ThreadOperationClaim}
    (h : claimOperation k i d o now db = .ok (r, db')) : AffinityStep S db db' := by
  simp only [claimOperation, requireKey_bind_ok, requireText_bind_ok, requireDigest_bind_ok,
    authorize_bind_ok] at h
  obtain ⟨-, -, -, -, h⟩ := h
  obtain ⟨⟨⟩, s, hclaim, h⟩ := Tx.bind_ok.1 h
  obtain ⟨-, rfl⟩ := Prod.mk.inj (Tx.pure_ok.1 h)
  exact claimBinding_step hclaim

lemma markResumed_step {i p t d : String} (h : markResumed k i p t d db = .ok ((), db')) :
    AffinityStep S db db' := by
  simp only [markResumed, requireKey_bind_ok, requireText_bind_ok, requireDigest_bind_ok,
    authorize_bind_ok, Tx.query_bind_ok, Tx.require_bind_ok, Tx.modify_ok] at h
  obtain ⟨-, -, -, -, -, -, -, rfl⟩ := h
  exact .touch (fun _ ha => ha) (fun _ => rfl) (fun _ => rfl) fun _ => rfl

lemma releaseOperation_step {c : ThreadOperationClaim}
    (h : releaseOperation c db = .ok ((), db')) : AffinityStep S db db' := by
  simp only [releaseOperation, Tx.query_bind_ok, Tx.require_bind_ok, Tx.modify_ok, id] at h
  obtain ⟨-, rfl⟩ := h
  exact .updateThread

lemma releaseSupersededOperation_step {i d : String} {before : Time} {released : Bool}
    (h : releaseSupersededOperation k i d before db = .ok (released, db')) :
    AffinityStep S db db' := by
  simp only [releaseSupersededOperation, requireKey_bind_ok, requireText_bind_ok,
    requireDigest_bind_ok, authorize_bind_ok, Tx.query_bind_ok, Tx.modify_bind_ok, Tx.pure_ok,
    Prod.mk.injEq] at h
  obtain ⟨-, -, -, -, -, rfl⟩ := h
  exact .updateThread

/-- What a committed `reseed` found and wrote. -/
structure Reseeded (k : ThreadAffinityKey) (expectedDigest newDigest reseedId : String)
    (s s' : ThreadStore) : Prop where
  idle : s.db.operationOf k = none
  bound : ∃ a r, s.binding k = some a ∧ a.promptDigest = expectedDigest ∧
    a.state.thread? = some (r.oldProviderId, r.oldThreadId) ∧
    r.affinity = k ∧ r.generation = a.generation + 1 ∧
    s'.reseeds.rows = s.reseeds.rows ++ [r]
  db : s'.db = s.db.reseedAffinity k newDigest reseedId

lemma reseedRecorded_ok {expected new actor reason reseedId : String} {r : ThreadReseed}
    {s s' : ThreadStore}
    (h : reseedRecorded k expected new actor reason reseedId s = .ok (r, s')) :
    Reseeded k expected new reseedId s s' := by
  rw [reseedRecorded, Tx.query_bind_ok] at h
  obtain ⟨generation, mid, hzoom, h⟩ := Tx.bind_ok.1 h
  obtain ⟨db, hreseed, rfl⟩ := Tx.zoom_ok.1 hzoom
  simp only [reseed, requireStoredDigest, requireKey_bind_ok, requireText_bind_ok,
    requireDigest_bind_ok, Tx.require_bind_ok, Tx.demand_bind_ok, Tx.modify_bind_ok, Tx.pure_ok,
    Prod.mk.injEq] at hreseed
  obtain ⟨-, -, -, -, -, -, a, hlook, hidle, hbound, hdigest, rfl, rfl⟩ := hreseed
  obtain ⟨⟨p, t⟩, hthread⟩ := Option.isSome_iff_exists.1 hbound
  have hbinding : s.binding k = some a := hlook
  rw [Tx.attempt_bind_ok] at h
  obtain ⟨s'', hins, h⟩ := h
  obtain ⟨-, rfl⟩ := Prod.mk.inj (Tx.pure_ok.1 h)
  simp only [ThreadStore.insertReseed] at hins
  split at hins
  · simp at hins
  · obtain ⟨reseeds, hrows, rfl⟩ := Option.map_eq_some_iff.1 hins
    refine ⟨by simp [Db.operationOf, hlook, hidle], ⟨a, _, hlook, hdigest, ?_, ?_, ?_,
      (Table.insert_eq_some.1 hrows).2⟩, rfl⟩
    · simp [hbinding, hthread]
    · rfl
    · rfl

end ThreadAffinityStore

/-! ## Runs -/

namespace ThreadEvent

/-- The thread that a call may bind. -/
def seed : ThreadEvent → Seeds
  | bindOrRead c => c.seed
  | bindAndClaim c _ => c.seed
  | _ => noSeed

/-- The call reseeds a conversation. -/
def Reseeds (k : ThreadAffinityKey) : ThreadEvent → Prop
  | reseed l _ _ _ _ _ => l = k
  | _ => False

end ThreadEvent

namespace ThreadStore

variable {s s' : ThreadStore} {e : ThreadEvent} {k : ThreadAffinityKey}

lemma onDb_step {α : Type} {S : Seeds} {t : Tx Db ThreadAffinityError α}
    (h : ∀ a db', t s.db = .ok (a, db') → AffinityStep S s.db db') :
    AffinityStep S s.db (s.onDb t).db ∧ (s.onDb t).reseeds = s.reseeds :=
  ⟨Tx.commit_of (.refl s.db) h, rfl⟩

/-- **Steps.** A call continues the rows of `thread_affinities` or reseeds one of them. -/
theorem step_cases (s : ThreadStore) (e : ThreadEvent) :
    (AffinityStep e.seed s.db (s.step e).db ∧ (s.step e).reseeds = s.reseeds) ∨
      ∃ k expected new actor reason reseedId, e = .reseed k expected new actor reason reseedId ∧
        Reseeded k expected new reseedId s (s.step e) := by
  cases e with
  | bindOrRead c =>
      exact Or.inl (onDb_step (t := bindOrReadThread c) fun _ _ => bindOrReadThread_step)
  | bindAndClaim c now =>
      exact Or.inl (onDb_step (t := bindAndClaim c now) fun _ _ => bindAndClaim_step)
  | claimOperation k i d o now =>
      exact Or.inl (onDb_step (t := claimOperation k i d o now) fun _ _ => claimOperation_step)
  | markResumed k i p t d =>
      exact Or.inl (onDb_step (t := markResumed k i p t d) fun _ _ => markResumed_step)
  | releaseOperation c =>
      exact Or.inl (onDb_step (t := releaseOperation c) fun _ _ => releaseOperation_step)
  | releaseSuperseded k i d t =>
    exact Or.inl (onDb_step (t := releaseSupersededOperation k i d t) fun _ _ =>
      releaseSupersededOperation_step)
  | elsewhere db => exact Or.inl ⟨.of_eq rfl, rfl⟩
  | reseed k expected new actor reason reseedId =>
    obtain hfail | ⟨r, hok⟩ :=
      (reseedRecorded k expected new actor reason reseedId).commit_cases s
    · rw [step, hfail]
      exact Or.inl ⟨.refl _, rfl⟩
    · exact Or.inr ⟨k, expected, new, actor, reason, reseedId, rfl, reseedRecorded_ok hok⟩

/-- The generation of a conversation; the first bind starts with 1. -/
def generation (s : ThreadStore) (k : ThreadAffinityKey) : ℕ :=
  (s.binding k).elim 1 (·.generation)

lemma binding_reseeded {l : ThreadAffinityKey} {expected new reseedId : String}
    (h : Reseeded k expected new reseedId s s') :
    s'.binding l = (s.binding l).map fun a =>
      if l = k then
        { a with
          promptDigest := new
          generation := a.generation + 1
          state := .pendingSeed reseedId }
      else a := by
  rw [binding, h.db, Db.reseedAffinity, Table.lookup_update, ← binding]
  cases ha : s.binding l with
  | none => rfl
  | some a =>
    have hkey : a.key = l.row := (Table.lookup_eq_some.1 ha).2
    have hiff : a.key = k.row ↔ l = k := by rw [hkey, ThreadAffinityKey.row_inj]
    simp only [Option.map_some, hiff]

/-- What every reachable store satisfies. -/
structure History (s : ThreadStore) : Prop where
  oneKey : s.db.OneKey
  positive : ∀ k, 1 ≤ s.generation k
  recorded : ∀ k, (s.records k).map (·.generation) = List.range' 2 (s.generation k - 1)

lemma generation_of_step {S : Seeds} (h : AffinityStep S s.db s'.db) (k : ThreadAffinityKey) :
    s'.generation k = s.generation k := by
  unfold generation
  cases ha : s.binding k with
  | none =>
    cases ha' : s'.binding k with
    | none => rfl
    | some a' => exact h.fresh k.row a' ha ha'
  | some a =>
    obtain ⟨a', ha', hcont⟩ := h.kept k.row a ha
    rw [show s'.binding k = some a' from ha']
    exact hcont.generation

lemma generation_reseeded {l : ThreadAffinityKey} {expected new reseedId : String}
    (h : Reseeded k expected new reseedId s s') :
    s'.generation l = s.generation l + if l = k then 1 else 0 := by
  obtain ⟨a, -, hbound, -⟩ := h.bound
  unfold generation
  rw [binding_reseeded h]
  by_cases hl : l = k
  · subst hl
    simp [hbound]
  · cases s.binding l <;> simp [hl]

lemma records_reseeded {l : ThreadAffinityKey} {expected new reseedId : String}
    (h : Reseeded k expected new reseedId s s') :
    (s'.records l).map (·.generation) =
      (s.records l).map (·.generation) ++ if l = k then [s.generation k + 1] else [] := by
  obtain ⟨a, r, hbound, -, -, rfl, hgen, hrows⟩ := h.bound
  have hgeneration : s.generation r.affinity = a.generation := by
    rw [generation, hbound]
    rfl
  unfold records Table.select
  rw [hrows, List.filter_append, List.map_append, hgeneration, ← hgen]
  congr 1
  by_cases hl : l = r.affinity
  · simp [hl]
  · simp [hl, Ne.symm hl]

lemma History.step (h : s.History) (e : ThreadEvent) : (s.step e).History := by
  rcases s.step_cases e with ⟨hstep, hreseeds⟩ |
    ⟨k, expected, new, actor, reason, reseedId, -, hre⟩
  · refine ⟨hstep.oneKey h.oneKey, fun k => ?_, fun k => ?_⟩
    · rw [generation_of_step hstep]
      exact h.positive k
    · rw [generation_of_step hstep, records, hreseeds]
      exact h.recorded k
  · refine ⟨?_, fun l => ?_, fun l => ?_⟩
    · rw [hre.db]
      -- the row that was reseeded has no thread
      intro a ha b hb t hat hbt
      obtain ⟨r, -, -, rfl⟩ | ⟨ha, -⟩ := Table.mem_update_cases ha
      · simp [AffinityState.thread?] at hat
      · obtain ⟨r, -, -, rfl⟩ | ⟨hb, -⟩ := Table.mem_update_cases hb
        · simp [AffinityState.thread?] at hbt
        · exact h.oneKey a ha b hb t hat hbt
    · rw [generation_reseeded hre]
      have := h.positive l
      omega
    · rw [generation_reseeded hre, records_reseeded hre, h.recorded]
      have hpos := h.positive k
      by_cases hl : l = k
      · subst hl
        have hsucc : s.generation l + 1 - 1 = s.generation l - 1 + 1 := by omega
        rw [if_pos rfl, if_pos rfl, hsucc, List.range'_concat]
        congr 2
        omega
      · simp [hl]

/-- The stores before the first reseed: the threads were bound when prompts were not pinned. -/
structure Initial (s : ThreadStore) : Prop where
  oneKey : s.db.OneKey
  generation : ∀ a ∈ s.db.affinities, a.generation = 1
  reseeds : s.reseeds = ∅

lemma Initial.history (h : s.Initial) : s.History := by
  have hgen : ∀ k, s.generation k = 1 := by
    intro k
    unfold ThreadStore.generation
    cases ha : s.binding k with
    | none => rfl
    | some a => exact h.generation a (Table.lookup_eq_some.1 ha).1
  refine ⟨h.oneKey, fun k => (hgen k).ge, fun k => ?_⟩
  rw [hgen, records, h.reseeds]
  rfl

/-- The thread of a conversation after a step: it is the old one, or the conversation gave it up
in a reseed, or one was seeded that the provider had started. -/
def ThreadChange (s : ThreadStore) (e : ThreadEvent) (k : ThreadAffinityKey) : Prop :=
  (s.step e).thread k = s.thread k ∨
    (e.Reseeds k ∧ (s.thread k).isSome ∧ (s.step e).thread k = none ∧
      (s.step e).generation k = s.generation k + 1) ∨
    (s.thread k = none ∧ ∃ t, e.seed k.row t ∧ (s.step e).thread k = some t)

/-- The prompt of a conversation after a step: it is the old one, or the conversation was
reseeded from it while no operation held its thread. -/
def PromptChange (s : ThreadStore) (e : ThreadEvent) (k : ThreadAffinityKey) : Prop :=
  ∀ digest, s.promptDigest k = some digest → (s.step e).promptDigest k = some digest ∨
    ∃ new actor reason reseedId, e = .reseed k digest new actor reason reseedId ∧
      s.db.operationOf k = none ∧ (s.step e).promptDigest k = some new

lemma thread_reseeded {l : ThreadAffinityKey} {expected new reseedId : String}
    (h : Reseeded k expected new reseedId s s') :
    s'.thread l = if l = k then none else s.thread l := by
  change (s'.binding l).bind _ = if l = k then none else (s.binding l).bind _
  rw [binding_reseeded h]
  by_cases hl : l = k
  · simp [hl, AffinityState.thread?]
  · simp [hl]

lemma threadChange (s : ThreadStore) (e : ThreadEvent) (k : ThreadAffinityKey) :
    s.ThreadChange e k := by
  rcases s.step_cases e with ⟨hstep, -⟩ | ⟨l, expected, new, actor, reason, reseedId, rfl, hre⟩
  · cases hthread : s.thread k with
    | some t => exact Or.inl ((hstep.thread hthread).trans hthread.symm)
    | none =>
      cases hafter : (s.step e).thread k with
      | none => exact Or.inl (hafter.trans hthread.symm)
      | some t => exact Or.inr (Or.inr ⟨hthread, t, hstep.seeded k.row t hthread hafter, hafter⟩)
  · by_cases hk : k = l
    · subst hk
      obtain ⟨a, r, ha, -, hat, -⟩ := hre.bound
      refine Or.inr (Or.inl ⟨rfl, ?_, ?_, ?_⟩)
      · change ((s.binding k).bind _).isSome
        simp [ha, hat]
      · simp [thread_reseeded hre]
      · simp [generation_reseeded hre]
    · exact Or.inl ((thread_reseeded hre).trans (if_neg hk))

lemma promptChange (s : ThreadStore) (e : ThreadEvent) (k : ThreadAffinityKey) :
    s.PromptChange e k := by
  intro digest hdigest
  obtain ⟨a, ha, rfl⟩ := Option.map_eq_some_iff.1 hdigest
  rcases s.step_cases e with ⟨hstep, -⟩ | ⟨l, expected, new, actor, reason, reseedId, rfl, hre⟩
  · obtain ⟨a', ha', hcont⟩ := hstep.kept k.row a ha
    left
    rw [promptDigest, show (s.step e).binding k = some a' from ha', ← hcont.promptDigest]
    rfl
  · rw [promptDigest, binding_reseeded hre, ha]
    by_cases hk : k = l
    · subst hk
      obtain ⟨b, r, hb, rfl, -⟩ := hre.bound
      obtain rfl := Option.some.inj (ha.symm.trans hb)
      exact Or.inr ⟨new, actor, reason, reseedId, rfl, hre.idle, by simp⟩
    · exact Or.inl (by simp [hk])

/-- A release by another operation leaves the store as it is. -/
lemma releaseOperation_of_ne {c : ThreadOperationClaim}
    (h : (s.db.operationOf c.key).any (·.operationId = c.operationId) = false) :
    s.step (.releaseOperation c) = s := by
  have hfail : releaseOperation c s.db =
      .error (.busy "thread operation claim is no longer current") := by
    rw [releaseOperation, Tx.bind_of_ok (a := s.db) rfl]
    exact Tx.bind_of_error (Tx.require_of_neg (by simpa using h))
  rw [step, onDb, Tx.commit_of_error hfail]

/-- The operation that a call stored for its caller. -/
lemma operationOf_bindAndClaim {c : BindRequest} {now : Time} {created : Bool}
    {o : ThreadOperationClaim}
    (h : (bindAndClaim c now).result? s.db = some (created, o)) :
    (s.step (.bindAndClaim c now)).db.operationOf c.key =
      some ⟨o.operationId, o.instanceId, o.startedAt⟩ ∧ o.operationId = c.operationId := by
  unfold Tx.result? at h
  cases hok : bindAndClaim c now s.db with
  | error e => simp [hok] at h
  | ok r =>
    obtain ⟨⟨b, o'⟩, db'⟩ := r
    simp only [hok, Option.some.injEq, Prod.mk.injEq] at h
    obtain ⟨rfl, rfl⟩ := h
    obtain ⟨rfl, -, -, -, hheld⟩ := bindAndClaim_ok hok
    have hdb : (s.step (.bindAndClaim c now)).db = db' := by
      rw [step, onDb, Tx.commit_of_ok hok]
    rw [hdb, operationOf_eq_holder, hheld]
    exact ⟨rfl, rfl⟩

/-- Two threads of a conversation in one run: the first was given up in a reseed, and a later
call seeded another one. -/
lemma thread_between (s : ThreadStore) (es : List ThreadEvent) {t t' : String × String}
    (ht : s.thread k = some t) (ht' : (run step s es).thread k = some t') (hne : t' ≠ t) :
    ∃ fs e gs e' hs, es = fs ++ e :: gs ++ e' :: hs ∧ e.Reseeds k ∧
      (run step s fs).thread k = some t ∧ ((run step s fs).step e).thread k = none ∧
      (run step s (fs ++ e :: gs)).thread k = none ∧ ∃ u, e'.seed k.row u ∧
      ((run step s (fs ++ e :: gs)).step e').thread k = some u := by
  obtain ⟨fs, e, gs, rfl, hfs, hstep⟩ :=
    exists_change (P := fun s : ThreadStore => s.thread k = some t) ht
      (fun h => hne (Option.some.inj (ht'.symm.trans h)))
  rcases (run step s fs).threadChange e k with hsame | ⟨hre, -, hnone, -⟩ | ⟨hnone, -⟩
  · exact absurd (hsame.trans hfs) hstep
  · have hend : (run step ((run step s fs).step e) gs).thread k = some t' := by
      simpa [run_append] using ht'
    have hbound : ¬ (run step ((run step s fs).step e) gs).thread k = none := by simp [hend]
    obtain ⟨is, e', hs, rfl, his, hseeded⟩ :=
      exists_change (P := fun s : ThreadStore => s.thread k = none) hnone hbound
    have hrun : run step s (fs ++ e :: is) = run step ((run step s fs).step e) is := by
      simp [run_append]
    refine ⟨fs, e, is, e', hs, by simp, hre, hfs, hnone, by rw [hrun]; exact his, ?_⟩
    rcases (run step ((run step s fs).step e) is).threadChange e' k with
      hsame | ⟨-, -, hnone, -⟩ | ⟨-, u, hu, hafter⟩
    · exact absurd (hsame.trans his) hseeded
    · exact absurd hnone hseeded
    · exact ⟨u, hu, by rw [hrun]; exact hafter⟩
  · rw [hfs] at hnone
    simp at hnone

end ThreadStore

open ThreadStore

/-- **The history of the provider threads.** In every run no thread is bound to two
conversations, the records of a conversation are those of the generations `2, …, generation`, a
thread changes only through a reseed and a new seed, a prompt only through a reseed from it while
the thread is idle, a release with another operation changes nothing, and `bind_and_claim` stores
the operation of its caller. -/
theorem thread_history {s₀ : ThreadStore} (h₀ : s₀.Initial) (es : List ThreadEvent) :
    let s := run step s₀ es
    s.db.OneKey ∧
      (∀ k, s.generation k = 1 + (s.records k).length ∧
        (s.records k).map (·.generation) = List.range' 2 (s.records k).length) ∧
      (∀ e k, s.ThreadChange e k ∧ s.PromptChange e k) ∧
      (∀ k fs t t', s.thread k = some t → (run step s fs).thread k = some t' → t' ≠ t →
        ∃ gs e hs e' is, fs = gs ++ e :: hs ++ e' :: is ∧ e.Reseeds k ∧
          (run step s gs).thread k = some t ∧ ((run step s gs).step e).thread k = none ∧
          (run step s (gs ++ e :: hs)).thread k = none ∧ ∃ u, e'.seed k.row u ∧
          ((run step s (gs ++ e :: hs)).step e').thread k = some u) ∧
      (∀ c : ThreadOperationClaim,
        (s.db.operationOf c.key).any (·.operationId = c.operationId) = false →
          s.step (.releaseOperation c) = s) ∧
      ∀ c now created o, (bindAndClaim c now).result? s.db = some (created, o) →
        (s.step (.bindAndClaim c now)).db.operationOf c.key =
          some ⟨o.operationId, o.instanceId, o.startedAt⟩ ∧ o.operationId = c.operationId := by
  intro s
  have hhist : s.History := invariant_run (fun s e h => h.step e) h₀.history es
  refine ⟨hhist.oneKey, fun k => ?_, fun e k => ⟨s.threadChange e k, s.promptChange e k⟩,
    fun k fs t t' => s.thread_between fs, fun c => releaseOperation_of_ne,
    fun c now created o => operationOf_bindAndClaim⟩
  have hrec := hhist.recorded k
  have hpos := hhist.positive k
  have hlen : (s.records k).length = s.generation k - 1 := by
    simpa using congrArg List.length hrec
  exact ⟨by omega, by rw [hrec, hlen]⟩

/-! A conversation that was bound before prompts were pinned is reseeded once. -/

/-- The conversation of a work item that was bound to a thread without a prompt. -/
def unpinnedConversation : ThreadAffinityKey := ⟨"mesh", "item-1", "developer", "main"⟩

/-- The store with that conversation. -/
def unpinnedStore : ThreadStore where
  db := { affinities := ⟨[{
    projectId := "mesh", workItemId := "item-1", roleId := "developer", conversationId := "main",
    promptDigest := unpinnedDigest, generation := 1, lastInstanceId := "dev-1",
    state := .active "codex" "thread-1" none }], by decide⟩ }
  reseeds := ∅

/-- The reseed to a pinned prompt. -/
def pinPrompt : ThreadEvent :=
  .reseed unpinnedConversation unpinnedDigest
    "0123456789abcdef0123456789abcdef0123456789abcdef0123456789abcdef" "operator" "pin" "r-1"

theorem thread_history_pinPrompt :
    (run step unpinnedStore [pinPrompt]).generation unpinnedConversation = 2 ∧
      (run step unpinnedStore [pinPrompt]).generation unpinnedConversation =
        1 + ((run step unpinnedStore [pinPrompt]).records unpinnedConversation).length := by
  have h₀ : unpinnedStore.Initial := by
    refine ⟨?_, ?_, rfl⟩
    · intro a ha b hb _ _ _
      rw [List.mem_singleton.1 ha, List.mem_singleton.1 hb]
    · intro a ha
      rw [List.mem_singleton.1 ha]
  exact ⟨by decide, ((thread_history h₀ [pinPrompt]).2.1 unpinnedConversation).1⟩

end AgenticMesh
