import AgenticMesh.Base.Check
import AgenticMesh.Base.JsonSize
import AgenticMesh.Base.Sha256

/-!
# The Teams connector

`ProjectTeamsConnector` sends personal messages and cards through the identity that
a role has in the active manifest of its project.  It validates what it is given
before the transport is called.
-/

namespace AgenticMesh.Teams

/-! ## Identifiers -/

/-- `[A-Za-z0-9._:@-]`. -/
def isExternalChar (c : Char) : Bool := isIdentifierChar c || c == '@'

/-- `re.fullmatch(r"^[A-Za-z0-9][A-Za-z0-9._:@-]{0,255}$", s)`. -/
def isExternalId (s : String) : Bool :=
  match s.toList with
  | [] => false
  | c :: cs => c.isAlphanum && cs.length ≤ 255 && cs.all isExternalChar

/-- `re.fullmatch(r"^[a-z0-9][a-z0-9-]{0,127}$", s)`. -/
def isTeamsKey (s : String) : Bool :=
  match s.toList with
  | [] => false
  | c :: cs => (c.isLower || c.isDigit) && cs.length ≤ 127 &&
      cs.all fun c => c.isLower || c.isDigit || c == '-'

/-- `_external_id`. -/
def externalId (value field : String) : Except String String := do
  Check.that (isExternalId value = true) (field ++ " is invalid")
  return value

/-! ## Messages -/

/-- `_message`. -/
def message (value : String) : Except String String := do
  Check.that (strip value ≠ "" ∧ value.toList.length ≤ 20000 ∧ hasNoNul value = true)
    "Teams message is invalid"
  return strip value

/-- `_card`. -/
def card (value : Json) : Except String Json := do
  Check.that
    (value.get? "type" = some (.str "AdaptiveCard") ∧ value.get? "version" = some (.str "1.5"))
    "Teams card is invalid"
  Check.that ((Json.ascii value.dumps).toList.length ≤ 100000) "Teams card is invalid"
  return value

/-- `_operation_id`. -/
def operationId (values : List String) : String :=
  "teams:" ++ sha256Hex ("\x00".intercalate values)

/-! ## Sending -/

/-- The identity of a role in the active manifest of its project. -/
structure TeamsBinding where
  tenantId : String
  applicationId : String
  displayName : String
deriving DecidableEq

/-- What is sent: a message or a card. -/
inductive TeamsContent where
  | text (text : String)
  | card (fallbackText : String) (card : Json)
deriving DecidableEq

/-- A call of the transport. -/
structure TeamsSend where
  binding : TeamsBinding
  recipientId : String
  content : TeamsContent
  operationId : String
deriving DecidableEq

section Send

/-- The bindings of the roles of all projects. -/
abbrev TeamsBindings := String → String → Option TeamsBinding

variable (bindings : TeamsBindings)

/-- `binding`. -/
def binding (projectId roleId : String) : Except String TeamsBinding := do
  Check.that (isTeamsKey projectId = true) "project_id is invalid"
  Check.that (isTeamsKey roleId = true) "role_id is invalid"
  Check.found (bindings projectId roleId) "Teams role identity is not active"

/-- What is sent to a person, up to the call of the transport. -/
def sendPersonal (projectId roleId recipientId : String) (content : Except String TeamsContent)
    (operationId : String) : Except String TeamsSend := do
  let binding ← binding bindings projectId roleId
  let recipientId ← externalId recipientId "recipient_id"
  let content ← content
  let operationId ← externalId operationId "operation_id"
  return { binding, recipientId, content, operationId }

/-- `send_personal_message`. -/
def sendPersonalMessage (projectId roleId recipientId text operationId : String) :
    Except String TeamsSend :=
  sendPersonal bindings projectId roleId recipientId
    (do return .text (← message text)) operationId

/-- `send_personal_card`. -/
def sendPersonalCard (projectId roleId recipientId fallbackText : String) (value : Json)
    (operationId : String) : Except String TeamsSend :=
  sendPersonal bindings projectId roleId recipientId
    (do return .card (← message fallbackText) (← card value)) operationId

end Send

/-! ## What is accepted -/

lemma isExternalId_of_isTeamsKey {s : String} (h : isTeamsKey s = true) :
    isExternalId s = true := by
  unfold isTeamsKey at h
  unfold isExternalId
  split at h
  · simp at h
  · next c cs hs =>
    simp only [Bool.and_eq_true, decide_eq_true_eq, List.all_eq_true, Bool.or_eq_true,
      beq_iff_eq] at h ⊢
    obtain ⟨⟨hc, hlength⟩, hcs⟩ := h
    refine ⟨⟨?_, by omega⟩, fun d hd => ?_⟩
    · rcases hc with hc | hc
      · simp [isAlphanum_of_isLower hc]
      · simp [isAlphanum_of_isDigit hc]
    · rcases hcs d hd with (hd | hd) | rfl
      · simp [isExternalChar, isIdentifierChar, isAlphanum_of_isLower hd]
      · simp [isExternalChar, isIdentifierChar, isAlphanum_of_isDigit hd]
      · decide

lemma isExternalId_operationId (values : List String) :
    isExternalId (operationId values) = true := by
  have hlength := length_sha256Hex ("\x00".intercalate values)
  have hchars : ∀ c ∈ (sha256Hex ("\x00".intercalate values)).toList, isExternalChar c = true := by
    intro c hc
    obtain ⟨n, hn, rfl⟩ := mem_sha256Hex hc
    simp [isExternalChar, Sha256.isIdentifierChar_hexDigit n hn]
  have hlist : (operationId values).toList =
      't' :: ("eams:".toList ++ (sha256Hex ("\x00".intercalate values)).toList) := by
    rw [operationId, String.toList_append]
    rfl
  have hkind : "eams:".toList.all isExternalChar = true := by
    simp only [String.reduceToList]
    decide
  simp only [isExternalId, hlist, List.length_append, hlength, List.all_append, Bool.and_eq_true,
    decide_eq_true_eq]
  refine ⟨⟨by decide, ?_⟩, hkind, List.all_eq_true.2 hchars⟩
  simp only [String.reduceToList]
  decide

/-- A binding that exists has valid keys. -/
lemma binding_ok {bindings : TeamsBindings} {projectId roleId : String} {b : TeamsBinding} :
    binding bindings projectId roleId = .ok b ↔
      isTeamsKey projectId = true ∧ isTeamsKey roleId = true ∧
        bindings projectId roleId = some b := by
  simp only [binding, Check.bind_ok, Check.that_ok, Check.found_ok]
  constructor
  · rintro ⟨_, hproject, _, hrole, hb⟩
    exact ⟨hproject, hrole, hb⟩
  · rintro ⟨hproject, hrole, hb⟩
    exact ⟨(), hproject, (), hrole, hb⟩

/-- With a binding and a valid content, only the recipient decides. -/
lemma sendPersonal_ok {bindings : TeamsBindings} {projectId roleId recipientId : String}
    {content : TeamsContent} {b : TeamsBinding} {operation : List String}
    (hbinding : binding bindings projectId roleId = .ok b) :
    (∃ sent, sendPersonal bindings projectId roleId recipientId (.ok content)
      (operationId operation) = .ok sent) ↔ isExternalId recipientId = true := by
  simp only [sendPersonal, externalId, Check.bind_ok, Check.that_ok, Check.pure_ok]
  constructor
  · rintro ⟨sent, _, -, _, ⟨_, hrecipient, -⟩, -⟩
    exact hrecipient
  · intro hrecipient
    exact ⟨_, b, hbinding, recipientId, ⟨(), hrecipient, rfl⟩, content, rfl, _,
      ⟨(), isExternalId_operationId operation, rfl⟩, rfl⟩

section Content

variable {bindings : TeamsBindings} {projectId roleId recipientId operationId : String}

lemma sendPersonalMessage_eq {text t : String} (h : message text = .ok t) :
    sendPersonalMessage bindings projectId roleId recipientId text operationId =
      sendPersonal bindings projectId roleId recipientId (.ok (.text t)) operationId := by
  rw [sendPersonalMessage, h]
  rfl

lemma sendPersonalCard_eq {fallbackText t : String} {value : Json}
    (h : message fallbackText = .ok t) (hcard : card value = .ok value) :
    sendPersonalCard bindings projectId roleId recipientId fallbackText value operationId =
      sendPersonal bindings projectId roleId recipientId (.ok (.card t value)) operationId := by
  rw [sendPersonalCard, h, hcard]
  rfl

end Content

end AgenticMesh.Teams
