import AgenticMesh.Base.JsonReordered
import AgenticMesh.Flow.Routes

/-!
# The pinned snapshot of a flow

A run keeps the flow that it was prepared with as a JSON value, and every
operation validates it again.  The store may reorder the keys of its objects; what
is validated then has the same states, with the same obligations and routes.
-/

namespace AgenticMesh

namespace Flow

open Json (Reordered ReorderedItems ReorderedFields)

/-! ## The same definitions -/

/-- The same action with the keys of its payload in another order. -/
def SameAction (a b : FlowAction) : Prop :=
  ∃ payload, Reordered a.payload payload ∧ b = { a with payload }

/-- The same state with the keys of its payloads in another order. -/
structure SameState (s t : FlowState) : Prop where
  stateId : t.stateId = s.stateId
  ownerRole : t.ownerRole = s.ownerRole
  artifact : t.artifact = s.artifact
  consults : List.Forall₂ SameAction s.consults t.consults
  gates : List.Forall₂ SameAction s.gates t.gates
  informs : List.Forall₂ SameAction s.informs t.informs
  routes : t.routes = s.routes
  terminal : t.terminal = s.terminal

/-- The same states have the same obligations. -/
lemma SameState.obligations {s t : FlowState} (h : SameState s t) (fields : Json) :
    List.Forall₂ SameAction (s.obligations fields) (t.obligations fields) := by
  have hartifact : SameAction s.artifactAction t.artifactAction := by
    refine ⟨s.artifactAction.payload, ?_, ?_⟩
    · exact .obj (List.nodup_singleton _) (.cons (.str _) .nil (List.Perm.refl _))
    · rw [FlowState.artifactAction, h.ownerRole, h.artifact]
      rfl
  have hactions : List.Forall₂ SameAction (s.consults ++ s.gates ++ s.informs)
      (t.consults ++ t.gates ++ t.informs) :=
    List.rel_append (List.rel_append h.consults h.gates) h.informs
  refine .cons hartifact (List.rel_filter ?_ hactions)
  rintro a _ ⟨payload, -, rfl⟩
  rfl

/-- The same states select the same routes. -/
lemma SameState.selectRoute {s t : FlowState} (h : SameState s t) (outcome : String)
    (fields : Json) : t.selectRoute outcome fields = s.selectRoute outcome fields := by
  rw [FlowState.selectRoute, FlowState.selectRoute, h.routes]

/-! ## Reading a value with its keys in another order -/

section Reading

variable {v v' : Option Json} {value value' : Json}

lemma identifier_reordered (h : Option.Rel Reordered v v') (label : String) :
    identifier v' label = identifier v label := by
  cases h with
  | none => rfl
  | some h => cases h <;> rfl

lemma required_reordered (h : Option.Rel Reordered v v') (label : String) :
    required v' label = required v label := by
  cases h with
  | none => rfl
  | some h => cases h <;> rfl

lemma object_reordered {e : String} {fields : List (String × Json)} (h : Reordered value value')
    (hok : object value e = .ok fields) :
    ∃ fields', object value' e = .ok fields' ∧ Reordered (.obj fields) (.obj fields') := by
  cases h with
  | obj hnodup h =>
    obtain rfl := Except.ok.inj hok
    exact ⟨_, rfl, .obj hnodup h⟩
  | _ => simp [object] at hok

lemma array_reordered {e : String} {items : List Json}
    (h : Option.Rel Reordered v v') (hok : array (v.getD (.arr [])) e = .ok items) :
    ∃ items', array (v'.getD (.arr [])) e = .ok items' ∧ List.Forall₂ Reordered items items' := by
  cases h with
  | none =>
    obtain rfl := Except.ok.inj hok
    exact ⟨[], rfl, .nil⟩
  | some h =>
    cases h with
    | arr h =>
      obtain rfl := Except.ok.inj hok
      exact ⟨_, rfl, h.forall₂⟩
    | _ => simp [array] at hok

lemma stringList_reordered (h : Option.Rel Reordered v v') (label : String) :
    stringList v' label = stringList v label := by
  cases h with
  | none => rfl
  | some h =>
    cases h with
    | @arr items items' h =>
      have hsame := h.forall₂
      have hnil : items' ≠ [] ↔ items ≠ [] := by cases hsame <;> simp
      have hitems : items'.mapM (fun item => identifier (some item) label) =
          items.mapM fun item => identifier (some item) label := by
        clear hnil h
        induction hsame with
        | nil => rfl
        | cons hitem _ ih =>
          rw [List.mapM_cons, List.mapM_cons, identifier_reordered (.some hitem), ih]
      simp only [stringList, array, Option.getD_some, bind, Except.bind, hitems, hnil]
    | _ => rfl

lemma condition_reordered (h : Option.Rel Reordered v v') : condition v' = condition v := by
  cases h with
  | none => rfl
  | some h =>
    cases h with
    | @obj _ fields' _ h =>
      cases h with
      | nil => rfl
      | cons hvalue hrest hperm =>
        cases hrest with
        | nil =>
          rw [List.perm_singleton.1 hperm]
          simp only [condition, stringList_reordered (.some hvalue)]
        | cons _ _ hperm' =>
          -- neither object has exactly one field
          have hlength := hperm.length_eq
          rw [List.length_cons, hperm'.length_eq, List.length_cons] at hlength
          rcases fields' with _ | ⟨p, _ | ⟨q, fields'⟩⟩
          · simp at hlength
          · simp at hlength
          · rfl
    | _ => rfl

lemma get?_isSome_reordered (h : Reordered value value') (key : String) :
    (value'.get? key).isSome = (value.get? key).isSome := by
  have hrel := h.get? key
  generalize value.get? key = v at hrel
  generalize value'.get? key = v' at hrel
  cases hrel <;> rfl

lemma roleKey_reordered (h : Reordered value value') (kind : ObligationKind) :
    roleKey kind value' = roleKey kind value := by
  unfold roleKey
  simp only [get?_isSome_reordered h]

lemma getD_reordered (h : Option.Rel Reordered v v') (s : String) :
    Option.Rel Reordered (some (v.getD (.str s))) (some (v'.getD (.str s))) := by
  cases h with
  | none => exact .some (.str s)
  | some h => exact .some h

/-- An action of a reordered value is the same. -/
lemma action_reordered {kind : ObligationKind} {owner : String} {index : ℕ} {a : FlowAction}
    (h : Reordered value value') (hok : action kind owner index value = .ok a) :
    ∃ b, action kind owner index value' = .ok b ∧ SameAction a b := by
  simp only [action, Check.bind_ok, Check.pure_ok] at hok ⊢
  obtain ⟨fields, hfields, key, hkey, roleId, hrole, actionId, hid, c, hc, rfl⟩ := hok
  obtain ⟨fields', hfields', hsame⟩ := object_reordered h hfields
  have hpayload := hsame.filter fun key => decide (key ≠ "when")
  refine ⟨_, ⟨fields', hfields', key, ?_, roleId, ?_, actionId, ?_, c, ?_, rfl⟩,
    .obj (fields'.filter fun p => decide (p.1 ≠ "when")), hpayload, rfl⟩
  · rw [roleKey_reordered h, hkey]
  · rw [identifier_reordered (getD_reordered (h.get? key) owner), hrole]
  · rw [identifier_reordered (getD_reordered (h.get? "id") _), hid]
  · rw [condition_reordered (h.get? "when"), hc]

lemma zipIdx_reordered {items items' : List Json} (h : List.Forall₂ Reordered items items')
    (n : ℕ) : List.Forall₂ (fun p q : Json × ℕ => Reordered p.1 q.1 ∧ p.2 = q.2)
      (items.zipIdx n) (items'.zipIdx n) := by
  induction h generalizing n with
  | nil => exact .nil
  | cons hitem _ ih => exact .cons ⟨hitem, rfl⟩ (ih (n + 1))

lemma actions_reordered {kind : ObligationKind} {owner : String} {as : List FlowAction}
    (h : Option.Rel Reordered v v') (hok : actions v kind owner = .ok as) :
    ∃ bs, actions v' kind owner = .ok bs ∧ List.Forall₂ SameAction as bs := by
  simp only [actions, Check.bind_ok] at hok ⊢
  obtain ⟨items, hitems, hok⟩ := hok
  obtain ⟨items', hitems', hsame⟩ := array_reordered h hitems
  have haction : ∀ p q : Json × ℕ, Reordered p.1 q.1 ∧ p.2 = q.2 → ∀ a,
      action kind owner p.2 p.1 = .ok a →
        ∃ b, action kind owner q.2 q.1 = .ok b ∧ SameAction a b := by
    rintro ⟨raw, index⟩ ⟨raw', _⟩ ⟨hraw, rfl⟩ a ha
    exact action_reordered hraw ha
  obtain ⟨bs, hbs, hactions⟩ := Check.forall₂_mapM (zipIdx_reordered hsame 0) haction hok
  exact ⟨bs, ⟨items', hitems', hbs⟩, hactions⟩

lemma route_reordered (h : Reordered value value') {r : FlowRoute} (hok : route value = .ok r) :
    route value' = .ok r := by
  simp only [route, Check.bind_ok] at hok ⊢
  obtain ⟨_, hfields, hok⟩ := hok
  obtain ⟨fields', hfields', -⟩ := object_reordered h hfields
  refine ⟨fields', hfields', ?_⟩
  simpa only [identifier_reordered (h.get? _), condition_reordered (h.get? _)] using hok

lemma routes_reordered {rs : List FlowRoute} (h : Option.Rel Reordered v v')
    (hok : routes v = .ok rs) : routes v' = .ok rs := by
  simp only [routes, Check.bind_ok] at hok ⊢
  obtain ⟨items, hitems, hok⟩ := hok
  obtain ⟨items', hitems', hsame⟩ := array_reordered h hitems
  obtain ⟨rs', hrs', heq⟩ := Check.forall₂_mapM hsame
    (fun x y hxy r hr => ⟨r, route_reordered hxy hr, Eq.refl r⟩) hok
  obtain rfl := List.forall₂_eq_eq_eq ▸ heq
  exact ⟨items', hitems', hrs'⟩

lemma actionIds_of_forall₂ {as bs : List FlowAction} (h : List.Forall₂ SameAction as bs) :
    bs.map FlowAction.actionId = as.map FlowAction.actionId := by
  induction h with
  | nil => rfl
  | cons hab _ ih =>
    obtain ⟨payload, -, rfl⟩ := hab
    rw [List.map_cons, List.map_cons, ih]

lemma asBool_reordered (h : Option.Rel Reordered v v') : v'.bind asBool = v.bind asBool := by
  cases h with
  | none => rfl
  | some h => cases h <;> rfl

/-- A state of a reordered value is the same. -/
lemma state_reordered {stateId : String} {s : FlowState} (h : Reordered value value')
    (hok : state stateId value = .ok s) :
    ∃ t, state stateId value' = .ok t ∧ SameState s t := by
  simp only [state, Check.bind_ok, Check.that_ok, Check.pure_ok] at hok ⊢
  obtain ⟨fields, hfields, ownerRole, howner, purpose, hpurpose, artifact, hartifact, _, hpath,
    consults, hconsults, gates, hgates, informs, hinforms, routes, hroutes, _, hdistinct, terminal,
    hterminal, rfl⟩ := hok
  obtain ⟨fields', hfields', -⟩ := object_reordered h hfields
  obtain ⟨consults', hconsults', hc⟩ := actions_reordered (h.get? "consults") hconsults
  obtain ⟨gates', hgates', hg⟩ := actions_reordered (h.get? "gates") hgates
  obtain ⟨informs', hinforms', hi⟩ := actions_reordered (h.get? "informs") hinforms
  have hids : identifiers consults' gates' informs' routes =
      identifiers consults gates informs routes := by
    simp only [identifiers, List.map_append, actionIds_of_forall₂ hc, actionIds_of_forall₂ hg,
      actionIds_of_forall₂ hi]
  refine ⟨_, ⟨fields', hfields', ownerRole, ?_, purpose, ?_, artifact, ?_, (), hpath, consults',
    hconsults', gates', hgates', informs', hinforms', routes, ?_, (), ?_, terminal, ?_, rfl⟩,
    rfl, rfl, rfl, hc, hg, hi, rfl, rfl⟩
  · rw [identifier_reordered (h.get? _), howner]
  · rw [required_reordered (h.get? _), hpurpose]
  · rw [required_reordered (h.get? _), hartifact]
  · exact routes_reordered (h.get? _) hroutes
  · rw [hids]
    exact hdistinct
  · rw [asBool_reordered (h.get? _), hterminal]

lemma getD_null_reordered (h : Option.Rel Reordered v v') :
    Reordered (v.getD .null) (v'.getD .null) := by
  cases h with
  | none => exact .null
  | some h => exact h

end Reading

/-! ## The same states in another order -/

/-- The same states in another order. -/
def SameStates (states states' : List FlowState) : Prop :=
  ∃ others, List.Forall₂ SameState states others ∧ others.Perm states'

section SameStates

variable {states states' : List FlowState}

lemma SameStates.forward (h : SameStates states states') {s : FlowState} (hs : s ∈ states) :
    ∃ t ∈ states', SameState s t := by
  obtain ⟨others, hsame, hperm⟩ := h
  obtain ⟨t, ht, hst⟩ := exists_related hsame hs
  exact ⟨t, hperm.mem_iff.1 ht, hst⟩

lemma SameStates.backward (h : SameStates states states') {t : FlowState} (ht : t ∈ states') :
    ∃ s ∈ states, SameState s t := by
  obtain ⟨others, hsame, hperm⟩ := h
  obtain ⟨s, hs, hst⟩ := exists_related hsame.flip (hperm.mem_iff.2 ht)
  exact ⟨s, hs, hst⟩

lemma stateIds_of_forall₂ (h : List.Forall₂ SameState states states') :
    states'.map FlowState.stateId = states.map FlowState.stateId := by
  induction h with
  | nil => rfl
  | cons hst _ ih => rw [List.map_cons, List.map_cons, hst.stateId, ih]

lemma SameStates.length_eq (h : SameStates states states') : states'.length = states.length := by
  obtain ⟨others, hsame, hperm⟩ := h
  rw [← hperm.length_eq, hsame.length_eq]

lemma SameStates.mem_ids (h : SameStates states states') (id : String) :
    id ∈ states'.map FlowState.stateId ↔ id ∈ states.map FlowState.stateId := by
  obtain ⟨others, hsame, hperm⟩ := h
  rw [← (hperm.map FlowState.stateId).mem_iff, stateIds_of_forall₂ hsame]

/-- A state is found under its identifier whatever the order. -/
lemma SameStates.find (h : SameStates states states')
    (hnodup : (states.map FlowState.stateId).Nodup) (id : String) :
    Option.Rel SameState (states.find? fun s => s.stateId = id)
      (states'.find? fun s => s.stateId = id) := by
  obtain ⟨others, hsame, hperm⟩ := h
  rw [← find?_perm hperm (stateIds_of_forall₂ hsame ▸ hnodup) id]
  clear hperm hnodup
  induction hsame with
  | nil => exact .none
  | @cons s t _ _ hst _ ih =>
    by_cases hs : s.stateId = id
    · have ht : t.stateId = id := hst.stateId.trans hs
      simpa [hs, ht] using Option.Rel.some hst
    · have ht : t.stateId ≠ id := hst.stateId ▸ hs
      simpa [hs, ht] using ih

lemma SameStates.leads (h : SameStates states states') (a b : String) :
    Leads states' a b ↔ Leads states a b := by
  constructor
  · rintro ⟨t, ht, rfl, r, hr, rfl⟩
    obtain ⟨s, hs, hst⟩ := h.backward ht
    exact ⟨s, hs, hst.stateId.symm, r, hst.routes ▸ hr, rfl⟩
  · rintro ⟨s, hs, rfl, r, hr, rfl⟩
    obtain ⟨t, ht, hst⟩ := h.forward hs
    exact ⟨t, ht, hst.stateId, r, hst.routes.symm ▸ hr, rfl⟩

/-- The checks of a state pass among the states in another order. -/
lemma checkState_same (h : SameStates states states')
    (hnodup : (states.map FlowState.stateId).Nodup) {s t : FlowState} (hst : SameState s t)
    (hok : checkState states s = .ok ()) : checkState states' t = .ok () := by
  simp only [checkState, Check.bind_ok, Check.that_ok, Check.forM_ok, Check.found_ok] at hok ⊢
  obtain ⟨_, hend, _, hdead, _, htargets, hoverlap⟩ := hok
  simp only [hst.terminal, hst.routes, hst.stateId]
  refine ⟨(), hend, (), hdead, (), fun r hr => ?_, hoverlap⟩
  obtain ⟨target, htarget, howner⟩ := htargets r hr
  have hfind := h.find hnodup r.targetState
  rw [htarget] at hfind
  generalize states'.find? (fun s => s.stateId = r.targetState) = found at hfind
  cases hfind with
  | some hsame => exact ⟨_, rfl, hsame.ownerRole.trans howner⟩

/-- Every target of checked states exists. -/
lemma targetsKnown_of_checked (h : ∀ s ∈ states, checkState states s = .ok ()) :
    TargetsKnown states := by
  rintro a b ⟨s, hs, -, r, hr, rfl⟩
  have hok := h s hs
  simp only [checkState, Check.bind_ok, Check.forM_ok, Check.found_ok] at hok
  obtain ⟨_, -, _, -, _, htargets, -⟩ := hok
  obtain ⟨target, htarget, -⟩ := htargets r hr
  refine List.mem_map.2 ⟨target, List.mem_of_find?_eq_some htarget, ?_⟩
  simpa using List.find?_some htarget

end SameStates

/-! ## Validating the snapshot again -/

/-- The states of an object of states. -/
def readStates (rawStates : List (String × Json)) : Except String (List FlowState) :=
  rawStates.mapM fun (stateId, raw) => do
    let stateId ← identifier (some (.str stateId)) "state_id"
    state stateId raw

lemma state_stateId {stateId : String} {value : Json} {s : FlowState}
    (h : state stateId value = .ok s) : s.stateId = stateId := by
  simp only [state, Check.bind_ok, Check.pure_ok] at h
  obtain ⟨_, -, _, -, _, -, _, -, _, -, _, -, _, -, _, -, _, -, _, -, _, -, rfl⟩ := h
  rfl

lemma identifier_eq {value label s : String} (h : identifier (some (.str value)) label = .ok s) :
    s = value := by
  simp only [identifier, Check.bind_ok, Check.pure_ok] at h
  obtain ⟨_, -, rfl⟩ := h
  rfl

lemma readStates_ids {rawStates : List (String × Json)} {states : List FlowState}
    (h : readStates rawStates = .ok states) :
    states.map FlowState.stateId = rawStates.map Prod.fst := by
  induction rawStates generalizing states with
  | nil =>
    obtain rfl := Check.pure_ok.1 h
    rfl
  | cons p rawStates ih =>
    simp only [readStates, List.mapM_cons, Check.bind_ok, Check.pure_ok] at h
    obtain ⟨s, ⟨stateId, hid, hs⟩, rest, hrest, rfl⟩ := h
    rw [List.map_cons, List.map_cons, state_stateId hs, identifier_eq hid, ih hrest]

lemma readStates_reordered {rawStates rawStates' : List (String × Json)}
    {states : List FlowState} (h : Reordered (.obj rawStates) (.obj rawStates'))
    (hok : readStates rawStates = .ok states) :
    (states.map FlowState.stateId).Nodup ∧
      ∃ states', readStates rawStates' = .ok states' ∧ SameStates states states' := by
  cases h with
  | obj hnodup h =>
    obtain ⟨others, hfields, hperm⟩ := h.exists_forall₂
    have hstate : ∀ p q, Json.SameField p q → ∀ s,
        (do let stateId ← identifier (some (.str p.1)) "state_id"; state stateId p.2) = .ok s →
        ∃ t, (do let stateId ← identifier (some (.str q.1)) "state_id"; state stateId q.2) =
          .ok t ∧ SameState s t := by
      rintro ⟨stateId, raw⟩ ⟨_, raw'⟩ ⟨rfl, hraw⟩ s hs
      rw [Check.bind_ok] at hs
      obtain ⟨_, hid, hs⟩ := hs
      obtain ⟨t, ht, hst⟩ := state_reordered hraw hs
      exact ⟨t, Check.bind_ok.2 ⟨_, hid, ht⟩, hst⟩
    obtain ⟨states₁, hstates₁, hsame⟩ := Check.forall₂_mapM hfields hstate hok
    obtain ⟨states', hstates', hstatesPerm⟩ := Check.perm_mapM hperm hstates₁
    exact ⟨readStates_ids hok ▸ hnodup, states', hstates', states₁, hsame, hstatesPerm⟩

/-- The same flow, as far as its runs can tell. -/
structure SameFlow (f g : FlowDefinition) : Prop where
  flowId : g.flowId = f.flowId
  leaderRole : g.leaderRole = f.leaderRole
  entryState : g.entryState = f.entryState
  digest : g.digest = f.digest
  state : ∀ stateId, Option.Rel SameState (f.state stateId) (g.state stateId)

/-- What is validated again with its keys in another order is accepted as the same flow. -/
lemma validate_reordered {value value' : Json} {digest : String} {f : FlowDefinition}
    (h : Reordered value value') (hok : validate value digest = .ok f) :
    ∃ g, validate value' f.digest = .ok g ∧ SameFlow f g := by
  simp only [validate, Check.bind_ok, Check.that_ok, Check.pure_ok] at hok
  obtain ⟨_, hversion, flowId, hflow, leaderRole, hleader, entryState, hentry, terminals,
    hterminals, rawStates, hraw, _, hne, states, hstates, _, hknown, _, hflags, _, hchecked, _,
    hreach, _, hdigest, rfl⟩ := hok
  obtain ⟨rawStates', hraw', hrawSame⟩ := object_reordered
    (getD_null_reordered (h.get? "states")) hraw
  obtain ⟨hnodup, states', hstates', hsame⟩ := readStates_reordered hrawSame hstates
  rw [Check.forM_ok] at hchecked
  have hchecked' : ∀ t ∈ states', checkState states' t = .ok () := by
    intro t ht
    obtain ⟨s, hs, hst⟩ := hsame.backward ht
    exact checkState_same hsame hnodup hst (hchecked s hs)
  have hentryMem : entryState ∈ states.map FlowState.stateId := by
    obtain ⟨s, hs, rfl⟩ := hknown
    exact List.mem_map_of_mem hs
  have hleads : Leads states' = Leads states := by
    funext a b
    exact propext (hsame.leads a b)
  have hreach' : ∀ t ∈ states', t.stateId ∈ reach states' states'.length [entryState]
      [entryState] := by
    intro t ht
    obtain ⟨s, hs, hst⟩ := hsame.backward ht
    rw [mem_reach (targetsKnown_of_checked hchecked') ((hsame.mem_ids entryState).2 hentryMem),
      hleads, hst.stateId, ← mem_reach (targetsKnown_of_checked hchecked) hentryMem]
    exact hreach s hs
  refine ⟨{ flowId, leaderRole, entryState, states := states', snapshot := value', digest }, ?_,
    rfl, rfl, rfl, rfl, hsame.find hnodup⟩
  simp only [validate, Check.bind_ok, Check.that_ok, Check.pure_ok]
  refine ⟨(), ?_, flowId, ?_, leaderRole, ?_, entryState, ?_, terminals, ?_, rawStates', hraw',
    (), ?_, states', hstates', (), ?_, (), ⟨fun t ht => ?_, fun t ht hterm => ?_⟩, (), ?_, (),
    hreach', (), hdigest, rfl⟩
  · have hrel := h.get? "schema_version"
    generalize value.get? "schema_version" = v at hrel hversion
    generalize value'.get? "schema_version" = v' at hrel
    cases hrel with
    | none => exact hversion
    | some hrel => cases hrel <;> simp_all
  · rw [identifier_reordered (h.get? _), hflow]
  · rw [identifier_reordered (h.get? _), hleader]
  · rw [identifier_reordered (h.get? _), hentry]
  · rw [stringList_reordered (h.get? _), hterminals]
  · rintro rfl
    have hlength := hsame.length_eq
    obtain rfl := Check.pure_ok.1 hstates'
    obtain ⟨s, hs, -⟩ := hknown
    rw [List.length_eq_zero_iff.1 hlength.symm] at hs
    exact absurd hs List.not_mem_nil
  · obtain ⟨s, hs, rfl⟩ := hknown
    obtain ⟨t, ht, hst⟩ := hsame.forward hs
    exact ⟨t, ht, hst.stateId⟩
  · obtain ⟨s, hs, hid, hterm⟩ := hflags.1 t ht
    obtain ⟨t', ht', hst⟩ := hsame.forward hs
    exact ⟨t', ht', hst.stateId.trans hid, hst.terminal.trans hterm⟩
  · obtain ⟨s, hs, hst⟩ := hsame.backward ht
    rw [hst.stateId]
    exact hflags.2 s hs (hst.terminal ▸ hterm)
  · exact Check.forM_ok.2 hchecked'

/-- Every state of an accepted flow is reached from the entry state. -/
lemma reachable_of_validate {value : Json} {digest : String} {f : FlowDefinition}
    (h : validate value digest = .ok f) {s : FlowState} (hs : s ∈ f.states) :
    Relation.ReflTransGen (Leads f.states) f.entryState s.stateId := by
  simp only [validate, Check.bind_ok, Check.that_ok, Check.pure_ok] at h
  obtain ⟨_, -, flowId, -, leaderRole, -, entryState, -, terminals, -, rawStates, -, _, -, states,
    -, _, hknown, _, -, _, hchecked, _, hreach, _, -, rfl⟩ := h
  obtain ⟨entry, hentry, rfl⟩ := hknown
  exact (mem_reach (targetsKnown_of_checked (Check.forM_ok.1 hchecked))
    (List.mem_map_of_mem hentry) s.stateId).1 (hreach s hs)

/-- The target of every route of an accepted flow is the state of the role that the route
names. -/
lemma target_of_validate {value : Json} {digest : String} {f : FlowDefinition}
    (h : validate value digest = .ok f) {s : FlowState} (hs : s ∈ f.states) {r : FlowRoute}
    (hr : r ∈ s.routes) :
    ∃ t, f.state r.targetState = some t ∧ t.ownerRole = r.targetRole := by
  simp only [validate, Check.bind_ok, Check.pure_ok] at h
  obtain ⟨_, -, flowId, -, leaderRole, -, entryState, -, terminals, -, rawStates, -, _, -, states,
    -, _, -, _, -, _, hchecked, _, -, _, -, rfl⟩ := h
  have hok := Check.forM_ok.1 hchecked s hs
  simp only [checkState, Check.bind_ok, Check.that_ok, Check.forM_ok, Check.found_ok] at hok
  obtain ⟨_, -, _, -, _, htargets, -⟩ := hok
  exact htargets r hr

/-- An accepted flow selects the route that matches, leads to states of the roles that its
routes name, has no state that is out of reach, and stays the same flow when its snapshot is
validated again with its keys in another order. -/
theorem validated_flow {value : Json} {digest : String} {f : FlowDefinition}
    (h : validate value digest = .ok f) :
    (∀ s ∈ f.states, ∀ outcome fields,
      (s.routes.filter fun r => r.matches outcome fields).length ≤ 1 ∧
      (∀ r, s.selectRoute outcome fields = some r ↔
        r ∈ s.routes ∧ r.matches outcome fields = true) ∧
      (s.selectRoute outcome fields = none ↔
        ∀ r ∈ s.routes, r.matches outcome fields = false)) ∧
    (∀ s ∈ f.states, ∀ r ∈ s.routes,
      ∃ t, f.state r.targetState = some t ∧ t.ownerRole = r.targetRole) ∧
    (∀ s ∈ f.states, Relation.ReflTransGen (Leads f.states) f.entryState s.stateId) ∧
    ∀ value', Reordered f.snapshot value' →
      ∃ g, validate value' f.digest = .ok g ∧ SameFlow f g ∧
        ∀ stateId s t, f.state stateId = some s → g.state stateId = some t → ∀ fields,
          List.Forall₂ SameAction (s.obligations fields) (t.obligations fields) ∧
          ∀ outcome, t.selectRoute outcome fields = s.selectRoute outcome fields := by
  have hwf := validate_ok h
  refine ⟨fun s hs outcome fields => ?_, fun s hs r hr => target_of_validate h hs hr,
    fun s hs => reachable_of_validate h hs, fun value' hvalue => ?_⟩
  · have hpair := hwf.unambiguous s hs
    exact ⟨length_matches_le hpair outcome fields, fun r => selectRoute_eq_some hpair,
      selectRoute_eq_none hpair⟩
  · have hsnapshot : f.snapshot = value := by
      simp only [validate, Check.bind_ok, Check.pure_ok] at h
      obtain ⟨_, -, _, -, _, -, _, -, _, -, _, -, _, -, _, -, _, -, _, -, _, -, _, -, _, -,
        rfl⟩ := h
      rfl
    obtain ⟨g, hg, hsame⟩ := validate_reordered (hsnapshot ▸ hvalue) h
    refine ⟨g, hg, hsame, fun stateId s t hs ht fields => ?_⟩
    have hst := hsame.state stateId
    rw [hs, ht] at hst
    cases hst with
    | some hst => exact ⟨hst.obligations fields, fun outcome => hst.selectRoute outcome fields⟩

/-- The flow that ships what is built selects its route by the outcome. -/
theorem validated_shipping_flow :
    shippingFlow.val.states.length = 2 ∧
      (∀ r, buildState.selectRoute "broken" (.obj []) = some r ↔
        r ∈ buildState.routes ∧ r.matches "broken" (.obj []) = true) ∧
      ∀ value', Reordered shippingFlow.val.snapshot value' →
        ∃ g, validate value' shippingFlow.val.digest = .ok g := by
  have haccepted : validate shippingJson shippingFlow.val.digest = .ok shippingFlow.val :=
    Check.toOption_eq_some.1 (by decide +kernel)
  have hflow := validated_flow haccepted
  exact ⟨rfl, (hflow.1 buildState (by decide) "broken" (.obj [])).2.1,
    fun value' h => (hflow.2.2.2 value' h).imp fun g hg => hg.1⟩

end Flow

end AgenticMesh
