import AgenticMesh.Flow.Engine
import Mathlib

/-!
# The idempotency keys of a flow

A transition is offered and an obligation is dispatched under a key that joins
the work item, the version of the run and the identifier of the route or of the
obligation by hyphens.  Neither a hyphen in an identifier nor the length of the
key is looked at, so a key can be too long for the stores that receive it, and
two keys can be the same text.
-/

namespace AgenticMesh

/-! ## Joins of three parts -/

namespace Joined

/-- A work item, the digits of a version and a name, joined by hyphens. -/
def join (w d r : List Char) : List Char := w ++ '-' :: (d ++ '-' :: r)

/-- The second join continues inside of the name of the first one. -/
def Embeds (w d r w' d' r' : List Char) : Prop :=
  ∃ y, w' = join w d y ∧ r = join y d' r'

/-- Digits, and a name that starts with a lower case letter. -/
structure Parts (d r : List Char) : Prop where
  digits : ∀ c ∈ d, c.isDigit = true
  name : ∃ c cs, r = c :: cs ∧ c.isLower = true

lemma not_isDigit_of_isLower {c : Char} (h : c.isLower = true) : c.isDigit = false := by
  delta Char.isLower at h
  simp only [Char.isDigit, Bool.and_eq_true, decide_eq_true_eq, ge_iff_le,
    UInt32.le_iff_toNat_le, Bool.and_eq_false_iff, decide_eq_false_iff_not] at h ⊢
  have h9 : '9'.val.toNat = 57 := rfl
  have ha : 'a'.val.toNat = 97 := rfl
  omega

/-- Where digits that a hyphen ends meet digits that a hyphen ends, they are the same. -/
lemma digits_eq {d d' x x' : List Char} (hd : ∀ c ∈ d, c.isDigit = true)
    (hd' : ∀ c ∈ d', c.isDigit = true) (h : d ++ '-' :: x = d' ++ '-' :: x') :
    d = d' ∧ x = x' := by
  induction d generalizing d' with
  | nil =>
    cases d' with
    | nil => exact ⟨rfl, (List.cons.inj h).2⟩
    | cons c d' =>
      obtain ⟨rfl, -⟩ := List.cons.inj h
      exact absurd ( hd' '-' (by simp)) (by decide)
  | cons c d ih =>
    cases d' with
    | nil =>
      obtain ⟨rfl, -⟩ := List.cons.inj h
      exact absurd (hd '-' (by simp)) (by decide)
    | cons c' d' =>
      rw [List.cons_append, List.cons_append] at h
      obtain ⟨rfl, htail⟩ := List.cons.inj h
      obtain ⟨rfl, rfl⟩ := ih (fun e he => hd e (List.mem_cons_of_mem c he))
        (fun e he => hd' e (List.mem_cons_of_mem c he)) htail
      exact ⟨rfl, rfl⟩

/-- Two joins whose first parts are the same. -/
lemma join_same {w d r d' r' : List Char} (hp : Parts d r) (hp' : Parts d' r')
    (h : join w d r = join w d' r') : d = d' ∧ r = r' :=
  digits_eq hp.digits hp'.digits (List.cons.inj (List.append_cancel_left h)).2

/-- A name is not a hyphen or digits before something else. -/
lemma name_ne {d r d' r' : List Char} (hp : Parts d r) (hp' : Parts d' r') :
    r ≠ d' ++ '-' :: r' := by
  intro h
  obtain ⟨c, cs, hr, hlower⟩ := hp.name
  rw [hr] at h
  cases d' with
  | nil =>
    obtain ⟨rfl, -⟩ := List.cons.inj h
    exact absurd hlower (by decide)
  | cons c' d' =>
    rw [List.cons_append] at h
    obtain ⟨rfl, -⟩ := List.cons.inj h
    have hdigit := hp'.digits c (by simp)
    rw [not_isDigit_of_isLower hlower] at hdigit
    exact absurd hdigit (by decide)

/-- A join that goes on after the first part of another one embeds it. -/
lemma embeds_of_longer {w d r x d' r' : List Char} (hp : Parts d r) (hp' : Parts d' r')
    (h : join w d r = join (w ++ '-' :: x) d' r') : Embeds w d r (w ++ '-' :: x) d' r' := by
  have hrest : d ++ '-' :: r = x ++ '-' :: (d' ++ '-' :: r') := by
    have happ : join (w ++ '-' :: x) d' r' = w ++ '-' :: (x ++ '-' :: (d' ++ '-' :: r')) := by
      simp [join]
    rw [happ] at h
    exact (List.cons.inj (List.append_cancel_left h)).2
  -- the digits end inside of `x`, or they would contain the hyphen after it
  obtain ⟨y, hd, hx⟩ | ⟨y, hx, hd⟩ := List.append_eq_append_iff.1 hrest
  · cases y with
    | nil => exact absurd (List.cons.inj hx).2 (name_ne hp hp')
    | cons c y =>
      rw [List.cons_append] at hx
      obtain ⟨rfl, hy⟩ := List.cons.inj hx
      exact ⟨y, by rw [hd]; simp [join], hy⟩
  · cases y with
    | nil => exact absurd (List.cons.inj hd).2.symm (name_ne hp hp')
    | cons c y =>
      rw [List.cons_append] at hd
      obtain ⟨rfl, -⟩ := List.cons.inj hd
      exact absurd (hp.digits '-' (by rw [hx]; simp)) (by decide)

/-- **When two joins are the same text.** -/
theorem join_eq_iff {w d r w' d' r' : List Char} (hp : Parts d r) (hp' : Parts d' r') :
    join w d r = join w' d' r' ↔
      (w = w' ∧ d = d' ∧ r = r') ∨ Embeds w d r w' d' r' ∨ Embeds w' d' r' w d r := by
  constructor
  · intro h
    obtain ⟨z, hw, hz⟩ | ⟨z, hw, hz⟩ := List.append_eq_append_iff.1 h
    · cases z with
      | nil =>
        rw [List.append_nil] at hw
        subst hw
        obtain ⟨rfl, rfl⟩ := join_same hp hp' h
        exact Or.inl ⟨rfl, rfl, rfl⟩
      | cons c x =>
        obtain ⟨rfl, -⟩ := List.cons.inj hz
        subst hw
        exact Or.inr (Or.inl (embeds_of_longer hp hp' h))
    · cases z with
      | nil =>
        rw [List.append_nil] at hw
        subst hw
        obtain ⟨rfl, rfl⟩ := join_same hp hp' h
        exact Or.inl ⟨rfl, rfl, rfl⟩
      | cons c x =>
        obtain ⟨rfl, -⟩ := List.cons.inj hz
        subst hw
        exact Or.inr (Or.inr (embeds_of_longer hp' hp h.symm))
  · rintro (⟨rfl, rfl, rfl⟩ | ⟨y, rfl, rfl⟩ | ⟨y, rfl, rfl⟩)
    · rfl
    · simp [join]
    · simp [join]

end Joined

/-! ## The keys of a run -/

/-- A key that the engine derives. -/
inductive FlowKey where
  | transition (workItemId : String) (version : ℕ) (routeId : String)
  | dispatch (kind : ObligationKind) (workItemId : String) (version : ℕ) (obligationId : String)
deriving DecidableEq

namespace FlowKey

open FlowEngine (transitionKey dispatchKey transitionOffer dispatchDraft checkPrepare newObligation)

/-- The text of a key. -/
def text : FlowKey → String
  | transition workItemId version routeId => transitionKey workItemId version routeId
  | dispatch kind workItemId version obligationId =>
    dispatchKey kind workItemId version obligationId

/-- What stands before the version. -/
def address : FlowKey → String
  | transition workItemId _ _ => workItemId
  | dispatch kind workItemId _ _ => Flow.kindText kind ++ "-" ++ workItemId

def version : FlowKey → ℕ
  | transition _ version _ => version
  | dispatch _ _ version _ => version

/-- What stands after the version. -/
def name : FlowKey → String
  | transition _ _ routeId => routeId
  | dispatch _ _ _ obligationId => obligationId

/-- The keys of accepted flows and work items. -/
inductive Occurs : FlowKey → Prop
  | transition {f : ValidFlow} {s : FlowState} {r : FlowRoute} {workItemId : String} (version : ℕ)
      (hs : s ∈ f.1.states) (hr : r ∈ s.routes) (hw : isIdentifier workItemId = true) :
      Occurs (.transition workItemId version r.routeId)
  | dispatch {f : ValidFlow} {s : FlowState} {a : FlowAction} {workItemId : String} (version : ℕ)
      (hs : s ∈ f.1.states) (ha : a ∈ s.consults ++ s.informs)
      (hw : isIdentifier workItemId = true) :
      Occurs (.dispatch a.kind workItemId version a.actionId)

/-- The name of a key goes on with the version and the name of a second one, whose address goes
on with the rest of the first one. -/
def Within (k l : FlowKey) : Prop :=
  ∃ y, l.address = k.address ++ "-" ++ decimal k.version ++ "-" ++ y ∧
    k.name = y ++ "-" ++ decimal l.version ++ "-" ++ l.name

/-- Two keys with one text. -/
def Overlap (k l : FlowKey) : Prop :=
  (k.address = l.address ∧ k.version = l.version ∧ k.name = l.name) ∨ Within k l ∨ Within l k

/-- The routes of an accepted flow. -/
lemma route_valid (f : ValidFlow) {s : FlowState} (hs : s ∈ f.1.states) {r : FlowRoute}
    (hr : r ∈ s.routes) : isFlowIdentifier r.routeId = true ∧
      isFlowIdentifier r.targetState = true ∧ isFlowIdentifier r.targetRole = true := by
  obtain ⟨value, digest, hf⟩ := f.2
  exact ((Flow.validate_ok hf).state s hs).route r hr

/-- The consults and informs of an accepted flow. -/
lemma action_valid (f : ValidFlow) {s : FlowState} (hs : s ∈ f.1.states) {a : FlowAction}
    (ha : a ∈ s.consults ++ s.informs) :
    (a.kind = .consult ∨ a.kind = .inform) ∧ isFlowIdentifier a.actionId = true ∧
      isFlowIdentifier a.roleId = true := by
  obtain ⟨value, digest, hf⟩ := f.2
  have hstate := (Flow.validate_ok hf).state s hs
  have hmem : a ∈ s.consults ++ s.gates ++ s.informs := by
    obtain ha | ha := List.mem_append.1 ha
    · simp [ha]
    · simp [ha]
  refine ⟨?_, hstate.action a hmem⟩
  obtain ha | ha := List.mem_append.1 ha
  · exact Or.inl (hstate.kinds.1 a ha)
  · exact Or.inr (hstate.kinds.2.2 a ha)

lemma isFlowIdentifier_cons {s : String} (h : isFlowIdentifier s = true) :
    ∃ c cs, s.toList = c :: cs ∧ c.isLower = true ∧ cs.length ≤ 127 ∧
      ∀ e ∈ cs, isFlowChar e = true := by
  unfold isFlowIdentifier at h
  split at h
  · exact absurd h (by decide)
  · next c cs hs =>
    simp only [Bool.and_eq_true, decide_eq_true_eq, List.all_eq_true] at h
    exact ⟨c, cs, hs, h.1.1, h.1.2, h.2⟩

lemma isIdentifierChar_of_isFlowChar {c : Char} (h : isFlowChar c = true) :
    isIdentifierChar c = true := by
  simp only [isFlowChar, isIdentifierChar, Bool.or_eq_true] at h ⊢
  have hlower := @isAlphanum_of_isLower c
  have hdigit := @isAlphanum_of_isDigit c
  tauto

lemma isIdentifier_of_isFlowIdentifier {s : String} (h : isFlowIdentifier s = true) :
    isIdentifier s = true := by
  obtain ⟨c, cs, hs, hlower, hlen, hcs⟩ := isFlowIdentifier_cons h
  have hc : isFlowChar c = true := by simp [isFlowChar, hlower]
  simp only [isIdentifier, hs, List.length_cons, Bool.and_eq_true, decide_eq_true_eq,
    List.all_cons, List.all_eq_true]
  refine ⟨⟨by omega, by omega⟩, isIdentifierChar_of_isFlowChar hc, fun e he => ?_⟩
  exact isIdentifierChar_of_isFlowChar (hcs e he)

lemma Occurs.name_valid {k : FlowKey} (h : k.Occurs) : isFlowIdentifier k.name = true := by
  cases h with
  | transition version hs hr hw => exact (route_valid _ hs hr).1
  | dispatch version hs ha hw => exact (action_valid _ hs ha).2.1

lemma toList_text (k : FlowKey) :
    k.text.toList = "flow-".toList ++
      Joined.join k.address.toList (decimal k.version).toList k.name.toList := by
  cases k <;> simp [text, transitionKey, dispatchKey, address, version, name, Joined.join]

lemma Occurs.parts {k : FlowKey} (h : k.Occurs) :
    Joined.Parts (decimal k.version).toList k.name.toList := by
  obtain ⟨c, cs, hs, hlower, -, -⟩ := isFlowIdentifier_cons h.name_valid
  exact ⟨fun c hc => isDigit_of_mem_decimal hc, c, cs, hs, hlower⟩

lemma within_iff {k l : FlowKey} :
    k.Within l ↔ Joined.Embeds k.address.toList (decimal k.version).toList k.name.toList
      l.address.toList (decimal l.version).toList l.name.toList := by
  constructor
  · rintro ⟨y, ha, hn⟩
    exact ⟨y.toList, by rw [ha]; simp [Joined.join], by rw [hn]; simp [Joined.join]⟩
  · rintro ⟨y, ha, hn⟩
    refine ⟨String.ofList y, String.toList_inj.1 ?_, String.toList_inj.1 ?_⟩
    · rw [ha]
      simp [Joined.join]
    · rw [hn]
      simp [Joined.join]

/-- **When two keys are the same text.** -/
theorem text_eq_iff {k l : FlowKey} (hk : k.Occurs) (hl : l.Occurs) :
    k.text = l.text ↔ k.Overlap l := by
  rw [← String.toList_inj, toList_text, toList_text, List.append_cancel_left_eq,
    Joined.join_eq_iff hk.parts hl.parts, Overlap, within_iff, within_iff]
  have hsame : (k.address.toList = l.address.toList ∧
      (decimal k.version).toList = (decimal l.version).toList ∧
      k.name.toList = l.name.toList) ↔
      k.address = l.address ∧ k.version = l.version ∧ k.name = l.name := by
    constructor
    · rintro ⟨ha, hv, hn⟩
      exact ⟨String.toList_inj.1 ha, decimal_injective hv, String.toList_inj.1 hn⟩
    · rintro ⟨ha, hv, hn⟩
      rw [ha, hv, hn]
      exact ⟨rfl, rfl, rfl⟩
  rw [hsame]

/-! ## The length of a key -/

/-- The number of characters of a key. -/
def length (k : FlowKey) : ℕ :=
  7 + k.address.toList.length + (decimal k.version).toList.length + k.name.toList.length

lemma length_text (k : FlowKey) : k.text.toList.length = k.length := by
  rw [toList_text, length, List.length_append, Joined.join]
  simp only [List.length_append, List.length_cons]
  have hprefix : "flow-".toList.length = 5 := rfl
  omega

lemma Occurs.address_valid {k : FlowKey} (h : k.Occurs) :
    ∀ c ∈ k.address.toList, isIdentifierChar c = true := by
  have hwork : ∀ {w : String}, isIdentifier w = true → ∀ c ∈ w.toList,
      isIdentifierChar c = true := by
    intro w hw
    simp only [isIdentifier, Bool.and_eq_true, List.all_eq_true] at hw
    exact hw.2
  cases h with
  | transition version hs hr hw => exact hwork hw
  | @dispatch f s a w version hs ha hw =>
    intro c hc
    simp only [address, String.toList_append, List.mem_append] at hc
    obtain (hc | hc) | hc := hc
    · have hkind : ∀ c ∈ (Flow.kindText a.kind).toList, isIdentifierChar c = true := by
        cases a.kind <;> simp [Flow.kindText, isIdentifierChar]
      exact hkind c hc
    · have hhyphen : ∀ c ∈ "-".toList, isIdentifierChar c = true := by
        simp [isIdentifierChar]
      exact hhyphen c hc
    · exact hwork hw c hc

lemma isIdentifierChar_of_isDigit {c : Char} (h : c.isDigit = true) :
    isIdentifierChar c = true := by
  simp [isIdentifierChar, isAlphanum_of_isDigit h]

/-- A key has the alphabet of identifiers. -/
lemma Occurs.text_valid {k : FlowKey} (h : k.Occurs) :
    ∀ c ∈ k.text.toList, isIdentifierChar c = true := by
  intro c hc
  rw [toList_text] at hc
  simp only [Joined.join, List.mem_append, List.mem_cons] at hc
  obtain hc | hc | rfl | hc | rfl | hc := hc
  · have hprefix : ∀ c ∈ "flow-".toList, isIdentifierChar c = true := by
      simp [isIdentifierChar]
    exact hprefix c hc
  · exact h.address_valid c hc
  · decide
  · exact isIdentifierChar_of_isDigit (isDigit_of_mem_decimal hc)
  · decide
  · have hname := isIdentifier_of_isFlowIdentifier h.name_valid
    simp only [isIdentifier, Bool.and_eq_true, List.all_eq_true] at hname
    exact hname.2 c hc

/-- A key is rejected only for its length. -/
lemma Occurs.isSome_identifier_iff {k : FlowKey} (h : k.Occurs) :
    (identifier k.text).isSome ↔ k.length ≤ 128 := by
  rw [← length_text]
  refine AgenticMesh.isSome_identifier_iff h.text_valid ?_
  rw [toList_text]
  simp

variable {db : Db}

/-- The handoff of a transition as it is normalized. -/
def offerDraft (r : PrepareRequest) (route : FlowRoute) : HandoffOffer :=
  { transitionOffer r route with
    sourceLeaseToken := strip r.source.leaseToken
    summary := strip ("Flow transition to " ++ route.targetState) }

lemma initOffer_of_length {r : PrepareRequest} {f : ValidFlow} {s : FlowState} {route : FlowRoute}
    (hs : s ∈ f.1.states) (hroute : route ∈ s.routes) (hcheck : checkPrepare r db = .ok ((), db))
    (hlength : (transition r.workItemId r.expectedVersion.toNat route.routeId).length ≤ 128) :
    HandoffStore.initOffer (transitionOffer r route) db = .ok (offerDraft r route, db) := by
  obtain ⟨-, hids, -⟩ := FlowEngine.checkPrepare_ok hcheck
  have hproject : isIdentifier r.projectId = true := hids _ (by simp)
  have hwork : isIdentifier r.workItemId = true := hids _ (by simp)
  obtain ⟨-, hstate, hrole⟩ := route_valid f hs hroute
  have hoccurs := Occurs.transition r.expectedVersion.toNat hs hroute hwork
  have hkey : isIdentifier (transition r.workItemId r.expectedVersion.toNat route.routeId).text =
      true := by
    simp only [isIdentifier, Bool.and_eq_true, decide_eq_true_eq, List.all_eq_true]
    refine ⟨⟨?_, ?_⟩, hoccurs.text_valid⟩
    · rw [toList_text]
      simp
    · rwa [length_text]
  have hsummary : bounded 4000 ("Flow transition to " ++ route.targetState) =
      some (strip ("Flow transition to " ++ route.targetState)) := by
    obtain ⟨c, cs, hcs, -, hlen, -⟩ := isFlowIdentifier_cons hstate
    refine bounded_of_le (strip_ne_empty (c := 'F') ?_ (by decide)) ?_
    · rw [String.toList_append]
      rfl
    · rw [String.toList_append, List.length_append, hcs, List.length_cons]
      have hprefix : "Flow transition to ".toList.length = 19 := rfl
      omega
  simp only [HandoffStore.initOffer, Tx.demand_bind_ok, Tx.require_bind_ok, Tx.pure_ok,
    Prod.mk.injEq]
  exact ⟨_, identifier_of_isIdentifier hproject, _,
    identifier_of_isIdentifier r.source.leaseId_valid, _,
    identifier_of_isIdentifier (isIdentifier_of_isFlowIdentifier hrole), _,
    identifier_of_isIdentifier hkey, none, rfl, _,
    bounded_of_le r.source.leaseToken_valid.1 r.source.leaseToken_valid.2, _, hsummary,
    show IsInteger 0 by decide, rfl, trivial⟩

/-- The handoff of a transition is accepted unless its key is too long. -/
lemma initOffer_iff {r : PrepareRequest} {f : ValidFlow} {s : FlowState} {route : FlowRoute}
    (hs : s ∈ f.1.states) (hroute : route ∈ s.routes) (hcheck : checkPrepare r db = .ok ((), db)) :
    (∃ d, HandoffStore.initOffer (transitionOffer r route) db = .ok (d, db)) ↔
      (transition r.workItemId r.expectedVersion.toNat route.routeId).length ≤ 128 := by
  obtain ⟨-, hids, -⟩ := FlowEngine.checkPrepare_ok hcheck
  have hwork : isIdentifier r.workItemId = true := hids _ (by simp)
  constructor
  · rintro ⟨d, hd⟩
    rw [← (Occurs.transition r.expectedVersion.toNat hs hroute hwork).isSome_identifier_iff]
    simp only [HandoffStore.initOffer, Tx.demand_bind_ok] at hd
    obtain ⟨p, -, l, -, t, -, key, hkey, -⟩ := hd
    exact Option.isSome_iff_exists.2 ⟨key, hkey⟩
  · exact fun hlength => ⟨_, initOffer_of_length hs hroute hcheck hlength⟩

/-- The route of an obligation is accepted unless its key is too long. -/
lemma init_iff {r : DispatchRequest} {f : ValidFlow} {s : FlowState} {a : FlowAction}
    {run : FlowRun} (hs : s ∈ f.1.states) (ha : a ∈ s.consults ++ s.informs)
    (hkind : r.kind = a.kind) (hid : r.obligationId = a.actionId)
    (hproject : isIdentifier r.projectId = true) (hwork : isIdentifier r.workItemId = true) :
    (∃ d, (dispatchDraft r run
        (newObligation r.projectId r.workItemId s run.version a)).init db = .ok (d, db)) ↔
      (dispatch r.kind r.workItemId run.version r.obligationId).length ≤ 128 := by
  obtain ⟨-, -, hrole⟩ := action_valid f hs ha
  rw [hkind, hid, ← (Occurs.dispatch run.version hs ha hwork).isSome_identifier_iff]
  simp only [RouteDraft.init, Tx.demand_bind_ok, Tx.require_bind_ok, Tx.pure_ok, Prod.mk.injEq]
  simp only [dispatchDraft, newObligation, hkind, hid]
  constructor
  · rintro ⟨d, p, -, w, -, t, -, key, hkey, -⟩
    exact Option.isSome_iff_exists.2 ⟨key, hkey⟩
  · intro hkey
    obtain ⟨key, hkey⟩ := Option.isSome_iff_exists.1 hkey
    exact ⟨_, _, identifier_of_isIdentifier hproject, _, identifier_of_isIdentifier hwork, _,
      identifier_of_isIdentifier (isIdentifier_of_isFlowIdentifier hrole), key, hkey, none, rfl,
      by decide, rfl, trivial⟩

end FlowKey

open FlowKey FlowEngine in
/-- **When the keys of a flow serve their purpose.**  The handoff of a transition and the route of
an obligation are accepted exactly when their key has at most 128 characters.  Two keys of a
project that stand for different things are different texts exactly when neither continues inside
of the other and no transition is addressed like the obligations of another work item. -/
theorem flow_keys (f : ValidFlow) (db : Db) :
    (∀ r : PrepareRequest, ∀ s ∈ f.1.states, ∀ route ∈ s.routes, checkPrepare r db = .ok ((), db) →
      ((∃ d, HandoffStore.initOffer (transitionOffer r route) db = .ok (d, db)) ↔
        (transition r.workItemId r.expectedVersion.toNat route.routeId).length ≤ 128)) ∧
    (∀ (r : DispatchRequest) (run : FlowRun), ∀ s ∈ f.1.states, ∀ a ∈ s.consults ++ s.informs,
      r.kind = a.kind → r.obligationId = a.actionId → isIdentifier r.projectId = true →
        isIdentifier r.workItemId = true →
        ((∃ d, (dispatchDraft r run
            (newObligation r.projectId r.workItemId s run.version a)).init db = .ok (d, db)) ↔
          (FlowKey.dispatch r.kind r.workItemId run.version r.obligationId).length ≤ 128)) ∧
    ∀ k l : FlowKey, k.Occurs → l.Occurs → k ≠ l → (k.text ≠ l.text ↔ ¬ k.Overlap l) :=
  ⟨fun _ _ hs _ hroute hcheck => initOffer_iff hs hroute hcheck,
    fun _ _ _ hs _ ha hkind hid hproject hwork => init_iff hs ha hkind hid hproject hwork,
    fun _ _ hk hl _ => not_congr (text_eq_iff hk hl)⟩

/-- The two routes of the flow, and the action that the operator owes the lead. -/
def shipRoute : FlowRoute := ⟨"ship", "completed", "release", "ops", none⟩

def fixRoute : FlowRoute := ⟨"fix-2-ship", "broken", "release", "ops", none⟩

def notifyAction : FlowAction :=
  ⟨"notify", .inform, "lead", .obj [("id", .str "notify"), ("role", .str "lead")], none⟩

lemma buildState_mem : buildState ∈ shippingFlow.1.states := List.mem_cons_self

lemma releaseState_mem : releaseState ∈ shippingFlow.1.states :=
  List.mem_cons_of_mem _ List.mem_cons_self

lemma shipRoute_mem : shipRoute ∈ buildState.routes := List.mem_cons_self

lemma fixRoute_mem : fixRoute ∈ buildState.routes := List.mem_cons_of_mem _ List.mem_cons_self

lemma notifyAction_mem : notifyAction ∈ releaseState.consults ++ releaseState.informs :=
  List.mem_cons_self

/-- A transition of a work item whose identifier has 128 characters. -/
def longPrepare : PrepareRequest where
  projectId := "p"
  workItemId := String.ofList (List.replicate 128 'w')
  outcome := "completed"
  fields := .obj []
  source := ⟨"lease", "token", by decide, by decide⟩
  expectedVersion := 1
  actorId := "dev"
  operationId := "op"

lemma longPrepare_checked : FlowEngine.checkPrepare longPrepare {} = .ok ((), {}) := by
  rw [FlowEngine.checkPrepare, FlowEngine.requireIdentifiers,
    Tx.bind_of_ok (Tx.require_of_pos (by decide_cbv)), FlowEngine.requireIdentifier,
    Tx.bind_of_ok (Tx.require_of_pos (by decide)),
    Tx.bind_of_ok
      (show FlowEngine.requireFields longPrepare.fields ({} : Db) = .ok ((), {}) by rfl),
    FlowEngine.requireVersion]
  exact Tx.require_of_pos (by decide)

/-- The run of the work item `w` in its last state. -/
def releasingRun : FlowRun where
  projectId := "p"
  workItemId := "w"
  flow := shippingFlow.1
  currentState := "release"
  ownerRoleId := "ops"
  status := .active
  fields := .obj []
  version := 3

/-- The second version of the work item `w-1-fix` is shipped, and the first version of the work
item `w` is fixed and shipped, under one key. -/
theorem flow_keys_shipping :
    (¬ ∃ d, HandoffStore.initOffer (FlowEngine.transitionOffer longPrepare shipRoute) {} =
      .ok (d, {})) ∧
    (∃ d, (FlowEngine.dispatchDraft ⟨"p", "w", .inform, "notify", "ops"⟩ releasingRun
      (FlowEngine.newObligation "p" "w" releaseState 3 notifyAction)).init {} = .ok (d, {})) ∧
    FlowKey.text (.transition "w" 1 "fix-2-ship") =
      FlowKey.text (.transition "w-1-fix" 2 "ship") := by
  refine ⟨?_, ?_, ?_⟩
  · rw [(flow_keys shippingFlow {}).1 longPrepare buildState buildState_mem shipRoute shipRoute_mem
      longPrepare_checked]
    decide_cbv
  · exact ((flow_keys shippingFlow {}).2.1 ⟨"p", "w", .inform, "notify", "ops"⟩ releasingRun
      releaseState releaseState_mem notifyAction notifyAction_mem rfl rfl (by decide)
      (by decide)).2 (by decide)
  · have hne :=
      (flow_keys shippingFlow {}).2.2 (.transition "w" 1 "fix-2-ship")
        (.transition "w-1-fix" 2 "ship")
      (.transition 1 buildState_mem fixRoute_mem (by decide))
      (.transition 2 buildState_mem shipRoute_mem (by decide)) (by decide)
    by_contra h
    exact hne.1 h (Or.inr (Or.inl ⟨"fix", by decide, by decide⟩))

/-- The reserved transition of a work item with a long identifier can never be offered, and two
transitions of different work items have one key. -/
theorem flow_keys_fail :
    ¬ ((∀ (db : Db) (r : PrepareRequest) (f : ValidFlow), ∀ s ∈ f.1.states, ∀ route ∈ s.routes,
        FlowEngine.checkPrepare r db = .ok ((), db) →
          ∃ d, HandoffStore.initOffer (FlowEngine.transitionOffer r route) db = .ok (d, db)) ∨
      ∀ k l : FlowKey, k.Occurs → l.Occurs → k ≠ l → k.text ≠ l.text) := by
  rintro (haccepted | hdistinct)
  · have hlength := (FlowKey.initOffer_iff buildState_mem shipRoute_mem longPrepare_checked).1
      (haccepted {} longPrepare shippingFlow buildState buildState_mem shipRoute shipRoute_mem
        longPrepare_checked)
    exact absurd hlength (by decide_cbv)
  · exact hdistinct (.transition "w" 1 "fix-2-ship") (.transition "w-1-fix" 2 "ship")
      (.transition 1 buildState_mem fixRoute_mem (by decide))
      (.transition 2 buildState_mem shipRoute_mem (by decide)) (by decide)
      (by decide)

end AgenticMesh
