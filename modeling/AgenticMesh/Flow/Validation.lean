import AgenticMesh.Base.Check
import AgenticMesh.Flow.Definition

/-!
# Validation of flow definitions

`validate_flow`: the flow of an external configuration, checked before it is
pinned to a run.  What is accepted is well formed: identifiers have their
alphabet, the actions and routes of a state are told apart by their identifiers,
every route leads to a state whose owner it names, and exactly the terminal
states have no route.
-/

namespace AgenticMesh

/-- `[a-z0-9_-]`. -/
def isFlowChar (c : Char) : Bool := c.isLower || c.isDigit || c == '_' || c == '-'

/-- `re.fullmatch(r"^[a-z][a-z0-9_-]{0,127}$", s)`. -/
def isFlowIdentifier (s : String) : Bool :=
  match s.toList with
  | [] => false
  | c :: cs => c.isLower && cs.length ≤ 127 && cs.all isFlowChar

namespace Flow

/-- `_identifier`. -/
def identifier (value : Option Json) (label : String) : Except String String :=
  match value with
  | some (.str s) => do
    Check.that (isFlowIdentifier s = true) (label ++ " is invalid")
    return s
  | _ => .error (label ++ " is invalid")

/-- `_required`. -/
def required (value : Option Json) (label : String) : Except String String :=
  match value with
  | some (.str s) => do
    Check.that (strip s ≠ "" ∧ s.toList.length ≤ 4000) (label ++ " is invalid")
    return strip s
  | _ => .error (label ++ " is invalid")

/-- A JSON array, or an error. -/
def array (value : Json) (e : String) : Except String (List Json) :=
  match value with
  | .arr xs => .ok xs
  | _ => .error e

/-- A JSON object, or an error. -/
def object (value : Json) (e : String) : Except String (List (String × Json)) :=
  match value with
  | .obj fields => .ok fields
  | _ => .error e

/-- `_string_list`. -/
def stringList (value : Option Json) (label : String) : Except String (List String) := do
  let items ← array (value.getD .null) (label ++ " must be a non-empty array")
  Check.that (items ≠ []) (label ++ " must be a non-empty array")
  let result ← items.mapM fun item => identifier (some item) label
  Check.that result.Nodup (label ++ " must be unique")
  return result

/-- `_condition`. -/
def condition (value : Option Json) : Except String (Option Condition) :=
  match value with
  | none => .ok none
  | some .null => .ok none
  | some (.obj [(field, values)]) => do
    let field ← identifier (some (.str field)) "condition field"
    let values ← stringList (some values) "condition values"
    return some ⟨field, values⟩
  | some _ => .error "condition must contain exactly one field"

/-- The kind of an action as a flow spells it. -/
def kindText : ObligationKind → String
  | .artifact => "artifact"
  | .consult => "consult"
  | .gate => "gate"
  | .inform => "inform"

/-- The field that names the role of an action. -/
def roleKey (kind : ObligationKind) (raw : Json) : Except String String :=
  match kind with
  | .gate =>
    match ["reviewer_role", "requested_from"].filter fun key => (raw.get? key).isSome with
    | [] => .ok "reviewer_role"
    | [key] => .ok key
    | _ => .error "gate must use either reviewer_role or requested_from"
  | _ => .ok "role"

/-- One action of `_actions`. -/
def action (kind : ObligationKind) (owner : String) (index : ℕ) (raw : Json) :
    Except String FlowAction := do
  let fields ← object raw (kindText kind ++ " must be an object")
  let key ← roleKey kind raw
  let roleId ← identifier (some ((raw.get? key).getD (.str owner))) key
  let actionId ← identifier
    (some ((raw.get? "id").getD (.str (kindText kind ++ "-" ++ decimal (index + 1)))))
    (kindText kind ++ "_id")
  let payload := Json.obj (fields.filter fun p => p.1 ≠ "when")
  let condition ← condition (raw.get? "when")
  return { actionId, kind, roleId, payload, condition }

/-- `_actions`. -/
def actions (value : Option Json) (kind : ObligationKind) (owner : String) :
    Except String (List FlowAction) := do
  let items ← array (value.getD (.arr [])) (kindText kind ++ "s must be an array")
  items.zipIdx.mapM fun (raw, index) => action kind owner index raw

/-- One route of `_routes`. -/
def route (raw : Json) : Except String FlowRoute := do
  let _ ← object raw "route must be an object"
  let routeId ← identifier (raw.get? "id") "route_id"
  let outcome ← identifier (raw.get? "outcome") "outcome"
  let targetState ← identifier (raw.get? "target_state") "target_state"
  let targetRole ← identifier (raw.get? "target_role") "target_role"
  let condition ← condition (raw.get? "when")
  return { routeId, outcome, targetState, targetRole, condition }

/-- `_routes`. -/
def routes (value : Option Json) : Except String (List FlowRoute) := do
  let items ← array (value.getD (.arr [])) "routes must be an array"
  items.mapM route

/-- The truth value in a JSON value. -/
def asBool : Json → Option Bool
  | .bool b => some b
  | _ => none

/-- A text contains another text. -/
def Contains (s part : String) : Prop := part.toList <:+: s.toList

instance (s part : String) : Decidable (Contains s part) :=
  inferInstanceAs (Decidable (_ <:+: _))

/-- The identifiers that a state must keep apart. -/
def identifiers (consults gates informs : List FlowAction) (routes : List FlowRoute) :
    List String :=
  "artifact" :: ((consults ++ gates ++ informs).map FlowAction.actionId ++
    routes.map FlowRoute.routeId)

/-- `_state`. -/
def state (stateId : String) (value : Json) : Except String FlowState := do
  let _ ← object value ("state " ++ stateId ++ " must be an object")
  let ownerRole ← identifier (value.get? "owner_role") "owner_role"
  let _ ← required (value.get? "purpose") "purpose"
  let artifact ← required (value.get? "artifact") "artifact"
  Check.that
    (Contains artifact "\x7bwork_item_id\x7d" ∧ artifact.toList.head? ≠ some '/' ∧
      artifact.toList.head? ≠ some (Char.ofNat 92))
    ("state " ++ stateId ++ " artifact path is invalid")
  let consults ← actions (value.get? "consults") .consult ownerRole
  let gates ← actions (value.get? "gates") .gate ownerRole
  let informs ← actions (value.get? "informs") .inform ownerRole
  let routes ← routes (value.get? "routes")
  Check.that (identifiers consults gates informs routes).Nodup
    ("state " ++ stateId ++ " has duplicate action ids")
  let terminal ← Check.found ((value.get? "terminal").bind asBool)
    ("state " ++ stateId ++ " terminal must be boolean")
  return { stateId, ownerRole, artifact, consults, gates, informs, routes, terminal }

/-- `_conditions_overlap`. -/
def ConditionsOverlap : Option Condition → Option Condition → Prop
  | some c, some d => c.field = d.field → ∃ v ∈ c.values, v ∈ d.values
  | _, _ => True

instance : ∀ c d, Decidable (ConditionsOverlap c d)
  | some _, some _ => inferInstanceAs (Decidable (_ → ∃ _ ∈ _, _))
  | none, _ => inferInstanceAs (Decidable True)
  | some _, none => inferInstanceAs (Decidable True)

/-- Two routes of a state that can match together. -/
def RoutesOverlap (r s : FlowRoute) : Prop :=
  r.outcome = s.outcome ∧ ConditionsOverlap r.condition s.condition

instance (r s : FlowRoute) : Decidable (RoutesOverlap r s) := inferInstanceAs (Decidable (_ ∧ _))

/-- The message for the first overlapping pair. -/
def overlapMessage (stateId : String) (r s : FlowRoute) : String :=
  "state " ++ stateId ++ " has overlapping routes for outcome " ++ r.outcome ++ ": " ++
    r.routeId ++ ", " ++ s.routeId

/-- `_reject_overlapping_routes`. -/
def rejectOverlappingRoutes (stateId : String) : List FlowRoute → Except String Unit
  | [] => .ok ()
  | r :: rs => do
    rs.forM fun s => Check.that (¬ RoutesOverlap r s) (overlapMessage stateId r s)
    rejectOverlappingRoutes stateId rs

/-- The checks of one state against the others. -/
def checkState (states : List FlowState) (s : FlowState) : Except String Unit := do
  Check.that (s.terminal → s.routes = []) ("terminal state " ++ s.stateId ++ " has routes")
  Check.that (s.terminal ∨ s.routes ≠ []) ("non-terminal state " ++ s.stateId ++ " is a dead end")
  s.routes.forM fun r => do
    let target ← Check.found (states.find? fun t => t.stateId = r.targetState)
      ("route " ++ r.routeId ++ " has unknown target")
    Check.that (target.ownerRole = r.targetRole)
      ("route " ++ r.routeId ++ " target owner disagrees")
  rejectOverlappingRoutes s.stateId s.routes

/-- The targets of a state that were not reached yet, without repetitions. -/
def unreached (states : List FlowState) (stateId : String) (reachable : List String) :
    List String :=
  ((states.filter fun s => s.stateId = stateId).flatMap fun s =>
    s.routes.map FlowRoute.targetState).dedup.filter fun t => t ∉ reachable

/-- The loop that collects the reachable states.  Every round takes one state off the pending ones,
and no state becomes pending twice, so there are no more rounds than states. -/
def reach (states : List FlowState) : ℕ → List String → List String → List String
  | 0, _, reachable => reachable
  | _, [], reachable => reachable
  | n + 1, stateId :: pending, reachable =>
    reach states n (unreached states stateId reachable ++ pending)
      (unreached states stateId reachable ++ reachable)

/-- `validate_flow`. -/
def validate (value : Json) (digest : String) : Except String FlowDefinition := do
  -- in Python `True` and `1.0` are equal to `1`
  Check.that (value.get? "schema_version" ∈
      [some (.int 1), some (.bool true), some (.float "1.0")])
    "flow schema_version must be 1"
  let flowId ← identifier (value.get? "flow_id") "flow_id"
  let leaderRole ← identifier (value.get? "leader_role") "leader_role"
  let entryState ← identifier (value.get? "entry_state") "entry_state"
  let terminals ← stringList (value.get? "terminal_states") "terminal_states"
  let rawStates ← object ((value.get? "states").getD .null) "flow states are required"
  Check.that (rawStates ≠ []) "flow states are required"
  let states ← rawStates.mapM fun (stateId, raw) => do
    let stateId ← identifier (some (.str stateId)) "state_id"
    state stateId raw
  Check.that (∃ s ∈ states, s.stateId = entryState) "entry_state is unknown"
  Check.that
    ((∀ t ∈ terminals, ∃ s ∈ states, s.stateId = t ∧ s.terminal) ∧
      ∀ s ∈ states, s.terminal → s.stateId ∈ terminals)
    "terminal_states do not match terminal flags"
  states.forM (checkState states)
  Check.that
    (∀ s ∈ states, s.stateId ∈ reach states states.length [entryState] [entryState])
    "flow contains unreachable states"
  Check.that (digest.toList.length = 64 ∧ digest.toList.all fun c =>
      c.isDigit || ('a' ≤ c && c ≤ 'f'))
    "flow digest is invalid"
  return { flowId, leaderRole, entryState, states, snapshot := value, digest }

/-! ## What is accepted -/

lemma identifier_ok {value : Option Json} {label s : String}
    (h : identifier value label = .ok s) : isFlowIdentifier s = true := by
  unfold identifier at h
  split at h
  · simp only [Check.bind_ok, Check.that_ok, Check.pure_ok] at h
    obtain ⟨_, hid, rfl⟩ := h
    exact hid
  · simp at h

/-- An accepted state. -/
structure WellFormedState (s : FlowState) : Prop where
  stateId : isFlowIdentifier s.stateId = true
  ownerRole : isFlowIdentifier s.ownerRole = true
  action : ∀ a ∈ s.consults ++ s.gates ++ s.informs,
    isFlowIdentifier a.actionId = true ∧ isFlowIdentifier a.roleId = true
  kinds : (∀ a ∈ s.consults, a.kind = .consult) ∧ (∀ a ∈ s.gates, a.kind = .gate) ∧
    ∀ a ∈ s.informs, a.kind = .inform
  route : ∀ r ∈ s.routes, isFlowIdentifier r.routeId = true ∧
    isFlowIdentifier r.targetState = true ∧ isFlowIdentifier r.targetRole = true
  distinct : (identifiers s.consults s.gates s.informs s.routes).Nodup

lemma actions_ok {value : Option Json} {kind : ObligationKind} {owner : String}
    {as : List FlowAction} (h : actions value kind owner = .ok as) {a : FlowAction} (ha : a ∈ as) :
    a.kind = kind ∧ isFlowIdentifier a.actionId = true ∧ isFlowIdentifier a.roleId = true := by
  simp only [actions, Check.bind_ok] at h
  obtain ⟨items, -, h⟩ := h
  obtain ⟨⟨raw, index⟩, -, h⟩ := Check.mem_of_mapM h ha
  simp only [action, Check.bind_ok, Check.pure_ok] at h
  obtain ⟨fields, -, key, -, roleId, hrole, actionId, hid, c, -, rfl⟩ := h
  exact ⟨rfl, identifier_ok hid, identifier_ok hrole⟩

lemma routes_ok {value : Option Json} {rs : List FlowRoute} (h : routes value = .ok rs)
    {r : FlowRoute} (hr : r ∈ rs) : isFlowIdentifier r.routeId = true ∧
      isFlowIdentifier r.targetState = true ∧ isFlowIdentifier r.targetRole = true := by
  simp only [routes, Check.bind_ok] at h
  obtain ⟨items, -, h⟩ := h
  obtain ⟨raw, -, h⟩ := Check.mem_of_mapM h hr
  simp only [route, Check.bind_ok, Check.pure_ok] at h
  obtain ⟨_, -, routeId, hid, outcome, -, targetState, hstate, targetRole, hrole, c, -, rfl⟩ := h
  exact ⟨identifier_ok hid, identifier_ok hstate, identifier_ok hrole⟩

lemma state_ok {stateId : String} {value : Json} {s : FlowState}
    (hid : isFlowIdentifier stateId = true) (h : state stateId value = .ok s) :
    WellFormedState s := by
  simp only [state, Check.bind_ok, Check.that_ok, Check.pure_ok] at h
  obtain ⟨_, -, ownerRole, howner, _, -, artifact, -, _, -, consults, hconsults, gates, hgates,
    informs, hinforms, routes, hroutes, _, hdistinct, terminal, -, rfl⟩ := h
  refine ⟨hid, identifier_ok howner, fun a ha => ?_,
    ⟨fun a ha => ?_, fun a ha => ?_, fun a ha => ?_⟩,
    fun r hr => routes_ok hroutes hr, hdistinct⟩
  · obtain ha | ha | ha : a ∈ consults ∨ a ∈ gates ∨ a ∈ informs := by simpa using ha
    · exact (actions_ok hconsults ha).2
    · exact (actions_ok hgates ha).2
    · exact (actions_ok hinforms ha).2
  · exact (actions_ok hconsults ha).1
  · exact (actions_ok hgates ha).1
  · exact (actions_ok hinforms ha).1

/-- An accepted flow. -/
structure WellFormed (f : FlowDefinition) : Prop where
  leader : isFlowIdentifier f.leaderRole = true
  entry : ∃ s ∈ f.states, s.stateId = f.entryState
  state : ∀ s ∈ f.states, WellFormedState s
  terminal : ∀ s ∈ f.states, s.terminal = true ↔ s.routes = []
  target : ∀ s ∈ f.states, ∀ r ∈ s.routes,
    ∃ t ∈ f.states, t.stateId = r.targetState ∧ t.ownerRole = r.targetRole
  unambiguous : ∀ s ∈ f.states, s.routes.Pairwise fun r r' => ¬ RoutesOverlap r r'

lemma rejectOverlappingRoutes_ok {stateId : String} {rs : List FlowRoute} {u : Unit}
    (h : rejectOverlappingRoutes stateId rs = .ok u) :
    rs.Pairwise fun r s => ¬ RoutesOverlap r s := by
  induction rs with
  | nil => exact List.Pairwise.nil
  | cons r rs ih =>
    simp only [rejectOverlappingRoutes, Check.bind_ok, Check.forM_ok, Check.that_ok] at h
    obtain ⟨_, hr, h⟩ := h
    exact List.Pairwise.cons hr (ih h)

/-- **What `validate_flow` accepts is well formed.** -/
theorem validate_ok {value : Json} {digest : String} {f : FlowDefinition}
    (h : validate value digest = .ok f) : WellFormed f := by
  simp only [validate, Check.bind_ok, Check.that_ok, Check.pure_ok] at h
  obtain ⟨_, -, flowId, -, leaderRole, hleader, entryState, -, terminals, -, rawStates, -, _, -,
    states, hstates, _, hentry, _, -, _, hcheck, _, -, _, -, rfl⟩ := h
  rw [Check.forM_ok] at hcheck
  have hchecked : ∀ s ∈ states, (s.terminal = true → s.routes = []) ∧
      (s.terminal = true ∨ s.routes ≠ []) ∧
      (∀ r ∈ s.routes, ∃ t ∈ states, t.stateId = r.targetState ∧ t.ownerRole = r.targetRole) ∧
      s.routes.Pairwise fun r r' => ¬ RoutesOverlap r r' := by
    intro s hs
    have hok := hcheck s hs
    simp only [checkState, Check.bind_ok, Check.that_ok, Check.forM_ok, Check.found_ok] at hok
    obtain ⟨_, hroutes, _, hend, _, htargets, hoverlap⟩ := hok
    refine ⟨hroutes, hend, fun r hr => ?_, rejectOverlappingRoutes_ok hoverlap⟩
    obtain ⟨t, ht, hrole⟩ := htargets r hr
    exact ⟨t, List.mem_of_find?_eq_some ht, by simpa using List.find?_some ht, hrole⟩
  refine ⟨identifier_ok hleader, hentry, fun s hs => ?_, fun s hs => ⟨(hchecked s hs).1, ?_⟩,
    fun s hs => (hchecked s hs).2.2.1, fun s hs => (hchecked s hs).2.2.2⟩
  · obtain ⟨⟨stateId, raw⟩, -, hs⟩ := Check.mem_of_mapM hstates hs
    rw [Check.bind_ok] at hs
    obtain ⟨_, hid, hs⟩ := hs
    exact state_ok (identifier_ok hid) hs
  · exact fun hnone => (hchecked s hs).2.1.resolve_right fun hne => hne hnone

end Flow

/-- A flow that `validate_flow` accepted. -/
def ValidFlow : Type :=
  { f : FlowDefinition // ∃ value digest, Flow.validate value digest = .ok f }

/-! ## A flow of two states -/

/-- What a developer builds. -/
def buildState : FlowState where
  stateId := "build"
  ownerRole := "dev"
  artifact := "work/\x7bwork_item_id\x7d.md"
  consults := []
  gates := []
  informs := []
  routes := [⟨"ship", "completed", "release", "ops", none⟩,
    ⟨"fix-2-ship", "broken", "release", "ops", none⟩]
  terminal := false

/-- What an operator releases, who informs the lead. -/
def releaseState : FlowState where
  stateId := "release"
  ownerRole := "ops"
  artifact := "work/\x7bwork_item_id\x7d.md"
  consults := []
  gates := []
  informs :=
    [⟨"notify", .inform, "lead", .obj [("id", .str "notify"), ("role", .str "lead")], none⟩]
  routes := []
  terminal := true

/-- The flow as an external configuration has it. -/
def shippingJson : Json :=
  let route (id outcome : String) : Json := .obj [
    ("id", .str id), ("outcome", .str outcome), ("target_role", .str "ops"),
    ("target_state", .str "release")]
  let state (owner : String) (informs routes : List Json) (terminal : Bool) : Json := .obj [
    ("artifact", .str "work/\x7bwork_item_id\x7d.md"), ("informs", .arr informs),
    ("owner_role", .str owner), ("purpose", .str "delivery"), ("routes", .arr routes),
    ("terminal", .bool terminal)]
  let notify : Json := .obj [("id", .str "notify"), ("role", .str "lead")]
  .obj [
    ("entry_state", .str "build"), ("flow_id", .str "shipping"), ("leader_role", .str "lead"),
    ("schema_version", .int 1),
    ("states", .obj [
      ("build", state "dev" [] [route "ship" "completed", route "fix-2-ship" "broken"] false),
      ("release", state "ops" [notify] [] true)]),
    ("terminal_states", .arr [.str "release"])]

/-- What is built is shipped, or fixed and then shipped. -/
def shippingFlow : ValidFlow where
  val := {
    flowId := "shipping"
    leaderRole := "lead"
    entryState := "build"
    states := [buildState, releaseState]
    snapshot := shippingJson
    digest := "0123456789abcdef0123456789abcdef0123456789abcdef0123456789abcdef" }
  property := ⟨shippingJson, "0123456789abcdef0123456789abcdef0123456789abcdef0123456789abcdef",
    Check.toOption_eq_some.1 (by decide +kernel)⟩

end AgenticMesh
