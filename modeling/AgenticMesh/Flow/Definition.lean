import AgenticMesh.Base.Json

/-!
# External flow definitions

The states of an external flow with their obligations and routes, as
`flow_definition.py` holds them after validation.  A flow is data: which
obligations a state raises and which route leaves it is decided from the flow
fields alone, through conditions of the form "this field has one of these
values".
-/

namespace AgenticMesh

/-- A condition on the flow fields: one field and the values that satisfy it. -/
structure Condition where
  field : String
  values : List String
deriving DecidableEq, Repr

/-- `Condition.matches`: the field is present and equal to one of the values. -/
def Condition.matches (c : Condition) (fields : Json) : Bool :=
  match fields.get? c.field with
  | some (.str v) => c.values.contains v
  | _ => false

/-- The four kinds of work that entering a state raises. -/
inductive ObligationKind where
  | artifact
  | consult
  | gate
  | inform
deriving DecidableEq, Repr

/-- An action that a state requires of a role. -/
structure FlowAction where
  actionId : String
  kind : ObligationKind
  roleId : String
  payload : Json
  condition : Option Condition
deriving DecidableEq, Repr

/-- `FlowAction.applies`. -/
def FlowAction.applies (a : FlowAction) (fields : Json) : Bool :=
  match a.condition with
  | none => true
  | some c => c.matches fields

/-- A route out of a state. -/
structure FlowRoute where
  routeId : String
  outcome : String
  targetState : String
  targetRole : String
  condition : Option Condition
deriving DecidableEq, Repr

/-- `FlowRoute.matches`. -/
def FlowRoute.matches (r : FlowRoute) (outcome : String) (fields : Json) : Bool :=
  r.outcome = outcome &&
    match r.condition with
    | none => true
    | some c => c.matches fields

/-- A state of a flow. -/
structure FlowState where
  stateId : String
  ownerRole : String
  artifact : String
  consults : List FlowAction
  gates : List FlowAction
  informs : List FlowAction
  routes : List FlowRoute
  terminal : Bool
deriving DecidableEq, Repr

/-- The artifact obligation that every state has. -/
def FlowState.artifactAction (s : FlowState) : FlowAction where
  actionId := "artifact"
  kind := .artifact
  roleId := s.ownerRole
  payload := .obj [("path", .str s.artifact)]
  condition := none

/-- `FlowState.obligations`: the artifact and every action that applies. -/
def FlowState.obligations (s : FlowState) (fields : Json) : List FlowAction :=
  s.artifactAction :: (s.consults ++ s.gates ++ s.informs).filter (·.applies fields)

/-- `FlowState.select_route`: the only matching route, if there is exactly one. -/
def FlowState.selectRoute (s : FlowState) (outcome : String) (fields : Json) :
    Option FlowRoute :=
  match s.routes.filter (·.matches outcome fields) with
  | [r] => some r
  | _ => none

lemma FlowState.selectRoute_mem {s : FlowState} {outcome : String} {fields : Json} {r : FlowRoute}
    (h : s.selectRoute outcome fields = some r) :
    r ∈ s.routes ∧ r.matches outcome fields = true := by
  unfold selectRoute at h
  split at h
  · next r' hfilter =>
    obtain rfl := Option.some.inj h
    exact List.mem_filter.1 (hfilter ▸ List.mem_singleton_self _)
  · simp at h

/-- A flow, with its states in the order of their identifiers. -/
structure FlowDefinition where
  flowId : String
  leaderRole : String
  entryState : String
  states : List FlowState
  /-- The JSON value that was validated. -/
  snapshot : Json
  digest : String
deriving DecidableEq, Repr

/-- `FlowDefinition.state`. -/
def FlowDefinition.state (f : FlowDefinition) (stateId : String) : Option FlowState :=
  f.states.find? fun s => s.stateId = stateId

end AgenticMesh
