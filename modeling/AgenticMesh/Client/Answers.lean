import AgenticMesh.Base.PythonText
import AgenticMesh.Base.Replace
import AgenticMesh.Base.Text

/-!
# The answers of the control client

`ControlApiClient.call` redacts the body of a response before it builds its
result: the value under a sensitive key is masked, and in the strings the token
of the client is replaced.  Three parts of the result are not covered by that:
the keys of objects, the text of a `detail` that is not a string, which is made
after the redaction, and the codes that are constants of the client.
-/

namespace AgenticMesh

/-! ## Redaction -/

/-- A letter under `re.IGNORECASE`; the dotted and the dotless i, the long s and the Kelvin sign
are compared like the letters of their case pairs. -/
def foldLetter (c : Char) : Char :=
  if c.toNat = 0x130 ∨ c.toNat = 0x131 then 'i'
  else if c.toNat = 0x17F then 's'
  else if c.toNat = 0x212A then 'k'
  else c.toLower

/-- `authorization|credential|password|secret|token`. -/
def sensitiveWords : List (List Char) :=
  ["authorization", "credential", "password", "secret", "token"].map String.toList

/-- `[_-]`. -/
def isKeyBoundary (c : Char) : Bool := c = '_' || c = '-'

/-- `([_-]|$)`; the dollar also matches before a newline at the end. -/
def endsKeyWord : List Char → Bool
  | [] => true
  | ['\n'] => true
  | c :: _ => isKeyBoundary c

/-- One of the words begins here and ends at a boundary. -/
def startsSensitiveWord (cs : List Char) : Bool :=
  sensitiveWords.any fun word =>
    (cs.take word.length).map foldLetter = word && endsKeyWord (cs.drop word.length)

/-- The search of the pattern from a position, which is at the start of the key or after a boundary
or not. -/
def findsSensitiveWord : Bool → List Char → Bool
  | _, [] => false
  | boundary, c :: cs =>
    (boundary && startsSensitiveWord (c :: cs)) || findsSensitiveWord (isKeyBoundary c) cs

/-- `SENSITIVE_KEY_PATTERN.search(key)`. -/
def isSensitiveKey (key : String) : Bool := findsSensitiveWord true key.toList

def redacted : String := "<redacted>"

/-- `value.replace(secret_value, "<redacted>")`. -/
def redactText (secret s : String) : String :=
  String.ofList (replaceAll secret.toList redacted.toList s.toList)

mutual

/-- `redact_payload`. -/
def redactPayload (secret : String) : Json → Json
  | .obj fields => .obj (redactFields secret fields)
  | .arr xs => .arr (redactItems secret xs)
  | .str s => .str (if secret = "" then s else redactText secret s)
  | value => value

def redactItems (secret : String) : List Json → List Json
  | [] => []
  | x :: xs => redactPayload secret x :: redactItems secret xs

def redactFields (secret : String) : List (String × Json) → List (String × Json)
  | [] => []
  | (k, x) :: fields =>
    (k, if isSensitiveKey k then .str redacted else redactPayload secret x) ::
      redactFields secret fields

end

/-! ## The call after its request -/

/-- What the client reads of a response; a body that is not JSON is missing. -/
structure ApiResponse where
  statusCode : ℕ
  /-- The header `x-request-id`. -/
  requestId : Option String
  body : Option Json

/-- `ControlResult`: what a call prints, with its status. -/
structure ControlResult where
  method : String
  path : String
  statusCode : ℕ
  actionId : String
  result : Json

/-- `ApiCallError`: what a call that fails prints, with its exit code. -/
structure ApiCallError where
  exitCode : ℕ
  code : String
  detail : String
  actionId : String
  statusCode : Option ℕ
  /-- `None` is `null`. -/
  result : Json

/-- `_is_planned`. -/
def isPlanned (value : Json) : Bool := value.get? "status" = some (.str "planned")

namespace ControlResult

/-- `ControlResult.to_dict`. -/
def toDict (r : ControlResult) : Json :=
  .obj [("runtime", .str "agentic-mesh-v5"),
    ("status", .str (if isPlanned r.result then "planned" else "ok")),
    ("action_id", .str r.actionId), ("http_status", .int r.statusCode), ("method", .str r.method),
    ("path", .str r.path), ("result", r.result)]

end ControlResult

namespace ApiCallError

/-- `ApiCallError.to_dict`. -/
def toDict (e : ApiCallError) : Json :=
  .obj ([("runtime", .str "agentic-mesh-v5"), ("status", .str "rejected"),
    ("action_id", .str e.actionId),
    ("error", .obj [("code", .str e.code), ("detail", .str e.detail)])] ++
    (e.statusCode.map fun n => ("http_status", Json.int n)).toList ++
    if e.result = .null then [] else [("result", e.result)])

end ApiCallError

/-- `urn:agentic-mesh:error:`. -/
def errorUrn : List Char := "urn:agentic-mesh:error:".toList

/-- `_problem_code`. -/
def problemCode (payload : Json) : String :=
  match payload.get? "type" with
  | some (.str type) =>
    if errorUrn <+: type.toList then
      String.ofList (type.toList.reverse.takeWhile (· ≠ ':')).reverse
    else "request_rejected"
  | _ => "request_rejected"

/-- `_exit_code`. -/
def exitCode (statusCode : ℕ) : ℕ :=
  if statusCode = 401 ∨ statusCode = 403 then 3
  else if 400 ≤ statusCode ∧ statusCode < 500 then 4
  else 5

/-- `str(safe.get("detail", ...))`. -/
def problemDetail (printable : Char → Bool) (safe : Json) : String :=
  ((safe.get? "detail").map (pythonStr printable)).getD "control API rejected the request"

/-- `ControlApiClient.call` from the response on. -/
def ControlApiClient.answer (printable : Char → Bool) (token method path actionId : String)
    (response : ApiResponse) : Except ApiCallError ControlResult :=
  if response.requestId ≠ some actionId then
    .error
      { exitCode := 5
        code := "invalid_api_response"
        detail := "control API did not confirm the action identifier"
        actionId, statusCode := some response.statusCode, result := .null }
  else
    match response.body with
    | none =>
      .error
        { exitCode := 5
          code := "invalid_api_response"
          detail := "control API returned a non-JSON response"
          actionId, statusCode := some response.statusCode, result := .null }
    | some parsed =>
      let safe := redactPayload token parsed
      if 200 ≤ response.statusCode ∧ response.statusCode < 300 then
        .ok { method, path, statusCode := response.statusCode, actionId, result := safe }
      else
        .error
          { exitCode := exitCode response.statusCode
            code := problemCode safe
            detail := problemDetail printable safe
            actionId, statusCode := some response.statusCode, result := safe }

/-! ## Tokens -/

/-- A printable character of ASCII that is not a blank. -/
def isTokenChar (c : Char) : Bool := decide (0x21 ≤ c.toNat ∧ c.toNat ≤ 0x7E)

/-- `load_opaque_token` on the text of the file. -/
def loadOpaqueToken (text : String) : Option String :=
  let token := String.ofList (text.toList.rdropWhile fun c => c = '\r' || c = '\n')
  if token ≠ "" ∧ token.length ≤ 8192 ∧ token.toList.all isTokenChar then some token else none

/-! ## What a value shows -/

namespace Json

mutual

/-- The fields of objects, at every depth. -/
def members : Json → List (String × Json)
  | .arr xs => membersItems xs
  | .obj fields => membersFields fields
  | _ => []

def membersItems : List Json → List (String × Json)
  | [] => []
  | x :: xs => members x ++ membersItems xs

def membersFields : List (String × Json) → List (String × Json)
  | [] => []
  | (k, x) :: fields => (k, x) :: members x ++ membersFields fields

end

mutual

/-- The keys that are not below a sensitive key. -/
def visibleKeys : Json → List String
  | .arr xs => visibleKeysItems xs
  | .obj fields => visibleKeysFields fields
  | _ => []

def visibleKeysItems : List Json → List String
  | [] => []
  | x :: xs => visibleKeys x ++ visibleKeysItems xs

def visibleKeysFields : List (String × Json) → List String
  | [] => []
  | (k, x) :: fields =>
    k :: (if isSensitiveKey k then [] else visibleKeys x) ++ visibleKeysFields fields

end

end Json

/-- A text contains the token. -/
def Reveals (token s : String) : Prop := token.toList <:+: s.toList

/-- A token that is accepted, has 16 characters or more and none of the replacement's brackets. -/
structure SecretToken where
  text : String
  accepted : ∃ file, loadOpaqueToken file = some text
  long : 16 ≤ text.toList.length
  noOpening : '<' ∉ text.toList
  noClosing : '>' ∉ text.toList

namespace SecretToken

variable {t : SecretToken}

lemma isTokenChar_of_mem {c : Char} (h : c ∈ t.text.toList) : isTokenChar c = true := by
  obtain ⟨file, hfile⟩ := t.accepted
  simp only [loadOpaqueToken] at hfile
  split at hfile
  · next hvalid =>
    rw [Option.some.inj hfile] at hvalid
    exact List.all_eq_true.1 hvalid.2.2 c h
  · cases hfile

lemma blank_notMem : ' ' ∉ t.text.toList := by
  intro h
  exact absurd (isTokenChar_of_mem h) (by decide)

lemma text_ne_empty : t.text ≠ "" := by
  intro h
  have hlong := t.long
  rw [h] at hlong
  exact absurd hlong (by decide)

lemma toList_ne_nil : t.text.toList ≠ [] := by
  intro h
  have hlong := t.long
  rw [h, List.length_nil] at hlong
  omega

lemma not_reveals_of_short {s : String} (h : s.toList.length < 16) : ¬ Reveals t.text s := by
  intro hreveals
  have hle := hreveals.length_le
  have hlong := t.long
  omega

/-- A sentence of short words has no room for a token. -/
lemma not_reveals_sentence {s : String} (words : List (List Char))
    (h : s.toList = [' '].intercalate words) (hshort : ∀ w ∈ words, w.length < 16) :
    ¬ Reveals t.text s := by
  intro hreveals
  rw [Reveals, h] at hreveals
  obtain ⟨w, hw, hinfix⟩ := infix_of_infix_intercalate blank_notMem toList_ne_nil hreveals
  have hle := hinfix.length_le
  have hlong := t.long
  have hword := hshort w hw
  omega

/-- The redaction leaves no token in a string. -/
lemma redactText_hides (s : String) : ¬ Reveals t.text (redactText t.text s) := by
  have hinner : ¬ t.text.toList <:+: "redacted".toList := not_reveals_of_short (by decide)
  have hframed : redacted.toList = '<' :: "redacted".toList ++ ['>'] := by decide
  rw [Reveals, redactText, String.toList_ofList]
  exact not_infix_replaceAll hframed t.noOpening t.noClosing hinner

mutual

/-- Only the visible keys of a value can reveal the token after the redaction. -/
theorem redactPayload_hides_iff : ∀ value : Json,
    (∀ s ∈ (redactPayload t.text value).shownStrings, ¬ Reveals t.text s) ↔
      ∀ k ∈ value.visibleKeys, ¬ Reveals t.text k
  | .null => by simp [redactPayload, Json.shownStrings, Json.visibleKeys]
  | .bool b => by simp [redactPayload, Json.shownStrings, Json.visibleKeys]
  | .int n => by simp [redactPayload, Json.shownStrings, Json.visibleKeys]
  | .float s => by simp [redactPayload, Json.shownStrings, Json.visibleKeys]
  | .str s => by
    simp only [redactPayload, if_neg t.text_ne_empty, Json.shownStrings, Json.visibleKeys]
    refine iff_of_true ?_ (by simp)
    intro s' hs'
    rw [List.mem_singleton.1 hs']
    exact redactText_hides s
  | .arr xs => by
    rw [redactPayload, Json.shownStrings, Json.visibleKeys]
    exact redactItems_hides_iff xs
  | .obj fields => by
    rw [redactPayload, Json.shownStrings, Json.visibleKeys]
    exact redactFields_hides_iff fields

theorem redactItems_hides_iff : ∀ xs : List Json,
    (∀ s ∈ Json.shownItems (redactItems t.text xs), ¬ Reveals t.text s) ↔
      ∀ k ∈ Json.visibleKeysItems xs, ¬ Reveals t.text k
  | [] => by simp [redactItems, Json.shownItems, Json.visibleKeysItems]
  | x :: xs => by
    rw [redactItems, Json.shownItems, Json.visibleKeysItems, List.forall_mem_append,
      List.forall_mem_append, redactPayload_hides_iff x, redactItems_hides_iff xs]

theorem redactFields_hides_iff : ∀ fields : List (String × Json),
    (∀ s ∈ Json.shownFields (redactFields t.text fields), ¬ Reveals t.text s) ↔
      ∀ k ∈ Json.visibleKeysFields fields, ¬ Reveals t.text k
  | [] => by simp [redactFields, Json.shownFields, Json.visibleKeysFields]
  | (k, x) :: fields => by
    have hvalue : (∀ s ∈ (if isSensitiveKey k then Json.str redacted
          else redactPayload t.text x).shownStrings, ¬ Reveals t.text s) ↔
        ∀ k' ∈ if isSensitiveKey k then [] else x.visibleKeys, ¬ Reveals t.text k' := by
      split
      · -- the mask is too short for a token
        refine iff_of_true ?_ (by simp)
        intro s hs
        rw [List.mem_singleton.1 hs]
        exact not_reveals_of_short (by decide)
      · exact redactPayload_hides_iff x
    rw [redactFields, Json.shownFields, Json.visibleKeysFields, List.cons_append, List.cons_append,
      List.forall_mem_cons, List.forall_mem_cons, List.forall_mem_append, List.forall_mem_append,
      hvalue, redactFields_hides_iff fields]

end

end SecretToken

mutual

/-- The redaction masks the value under every sensitive key. -/
theorem redactPayload_masks (secret : String) : ∀ value : Json,
    ∀ p ∈ (redactPayload secret value).members, isSensitiveKey p.1 = true → p.2 = .str redacted
  | .null | .bool _ | .int _ | .float _ | .str _ => by simp [redactPayload, Json.members]
  | .arr xs => by
    rw [redactPayload, Json.members]
    exact redactItems_masks secret xs
  | .obj fields => by
    rw [redactPayload, Json.members]
    exact redactFields_masks secret fields

theorem redactItems_masks (secret : String) : ∀ xs : List Json,
    ∀ p ∈ Json.membersItems (redactItems secret xs), isSensitiveKey p.1 = true →
      p.2 = .str redacted
  | [] => by simp [redactItems, Json.membersItems]
  | x :: xs => by
    rw [redactItems, Json.membersItems]
    exact List.forall_mem_append.2 ⟨redactPayload_masks secret x, redactItems_masks secret xs⟩

theorem redactFields_masks (secret : String) : ∀ fields : List (String × Json),
    ∀ p ∈ Json.membersFields (redactFields secret fields), isSensitiveKey p.1 = true →
      p.2 = .str redacted
  | [] => by simp [redactFields, Json.membersFields]
  | (k, x) :: fields => by
    rw [redactFields, Json.membersFields, List.cons_append]
    refine List.forall_mem_cons.2 ⟨fun h => if_pos h, List.forall_mem_append.2
      ⟨?_, redactFields_masks secret fields⟩⟩
    split
    · simp [Json.members]
    · exact redactPayload_masks secret x

end

section Shown

variable {secret : String} {P : String → Prop}

mutual

/-- What the strings of a value, the mask and every redacted string have in common, the strings of
the redacted value have. -/
theorem forall_shown_redactPayload (hmask : P redacted)
    (hredact : ∀ s, P s → P (redactText secret s)) :
    ∀ value : Json, (∀ s ∈ value.shownStrings, P s) →
      ∀ s ∈ (redactPayload secret value).shownStrings, P s
  | .null, h | .bool _, h | .int _, h | .float _, h => h
  | .str s, h => by
    have hs := h s (List.mem_singleton_self s)
    rw [redactPayload]
    split
    · exact List.forall_mem_singleton.2 hs
    · exact List.forall_mem_singleton.2 (hredact s hs)
  | .arr xs, h => forall_shown_redactItems hmask hredact xs h
  | .obj fields, h => forall_shown_redactFields hmask hredact fields h

theorem forall_shown_redactItems (hmask : P redacted)
    (hredact : ∀ s, P s → P (redactText secret s)) :
    ∀ xs : List Json, (∀ s ∈ Json.shownItems xs, P s) →
      ∀ s ∈ Json.shownItems (redactItems secret xs), P s
  | [], h => h
  | x :: xs, h => by
    rw [Json.shownItems, List.forall_mem_append] at h
    rw [redactItems, Json.shownItems, List.forall_mem_append]
    exact ⟨forall_shown_redactPayload hmask hredact x h.1,
      forall_shown_redactItems hmask hredact xs h.2⟩

theorem forall_shown_redactFields (hmask : P redacted)
    (hredact : ∀ s, P s → P (redactText secret s)) :
    ∀ fields : List (String × Json), (∀ s ∈ Json.shownFields fields, P s) →
      ∀ s ∈ Json.shownFields (redactFields secret fields), P s
  | [], h => h
  | (k, x) :: fields, h => by
    rw [Json.shownFields, List.cons_append, List.forall_mem_cons, List.forall_mem_append] at h
    rw [redactFields, Json.shownFields, List.cons_append, List.forall_mem_cons,
      List.forall_mem_append]
    refine ⟨h.1, ?_, forall_shown_redactFields hmask hredact fields h.2.2⟩
    split
    · exact List.forall_mem_singleton.2 hmask
    · exact forall_shown_redactPayload hmask hredact x h.2.1

end

mutual

/-- The redaction adds no number. -/
theorem scalarTexts_redactPayload : ∀ value : Json,
    (redactPayload secret value).scalarTexts ⊆ value.scalarTexts
  | .null | .bool _ | .int _ | .float _ => List.Subset.refl _
  | .str s => by
    rw [redactPayload]
    split <;> exact List.nil_subset _
  | .arr xs => scalarTexts_redactItems xs
  | .obj fields => scalarTexts_redactFields fields

theorem scalarTexts_redactItems : ∀ xs : List Json,
    Json.scalarTextsOfItems (redactItems secret xs) ⊆ Json.scalarTextsOfItems xs
  | [] => List.Subset.refl _
  | x :: xs => by
    rw [redactItems, Json.scalarTextsOfItems, Json.scalarTextsOfItems]
    exact List.append_subset.2 ⟨List.subset_append_of_subset_left _ (scalarTexts_redactPayload x),
      List.subset_append_of_subset_right _ (scalarTexts_redactItems xs)⟩

theorem scalarTexts_redactFields : ∀ fields : List (String × Json),
    Json.scalarTextsOfFields (redactFields secret fields) ⊆ Json.scalarTextsOfFields fields
  | [] => List.Subset.refl _
  | (k, x) :: fields => by
    rw [redactFields, Json.scalarTextsOfFields, Json.scalarTextsOfFields]
    refine List.append_subset.2 ⟨List.subset_append_of_subset_left _ ?_,
      List.subset_append_of_subset_right _ (scalarTexts_redactFields fields)⟩
    split
    · exact List.nil_subset _
    · exact scalarTexts_redactPayload x

end

variable {printable : Char → Bool}

lemma verbatim_redacted (printable : Char → Bool) :
    ∀ c ∈ redacted.toList, isVerbatim printable c = true := by
  intro c hc
  have hlisted : c ∈ ['<', 'r', 'e', 'd', 'a', 'c', 't', 'e', 'd', '>'] := hc
  simp only [List.mem_cons, List.not_mem_nil, or_false] at hlisted
  rcases hlisted with rfl | rfl | rfl | rfl | rfl | rfl | rfl | rfl | rfl | rfl <;>
    simp [isVerbatim]

/-- The mask needs no escape, so a string that needs none needs none after the redaction. -/
lemma verbatim_redactText {s : String} (h : ∀ c ∈ s.toList, isVerbatim printable c = true) :
    ∀ c ∈ (redactText secret s).toList, isVerbatim printable c = true := by
  intro c hc
  rw [redactText, String.toList_ofList] at hc
  rcases mem_replaceFrom hc with hc | hc
  · exact verbatim_redacted printable c hc
  · exact h c hc

end Shown

/-- A value with neither the secret nor a sensitive key. -/
structure Json.Plain (secret : String) (value : Json) : Prop where
  strings : ∀ s ∈ value.shownStrings, ¬ Reveals secret s
  keys : ∀ p ∈ value.members, isSensitiveKey p.1 = false

mutual

theorem redactPayload_eq_self {secret : String} : ∀ value : Json,
    (∀ s ∈ value.shownStrings, ¬ Reveals secret s) →
    (∀ p ∈ value.members, isSensitiveKey p.1 = false) →
      redactPayload secret value = value
  | .null, _, _ | .bool _, _, _ | .int _, _, _ | .float _, _, _ => rfl
  | .str s, htexts, _ => by
    rw [redactPayload]
    split
    · rfl
    · rw [redactText, replaceAll_eq_self (htexts s (List.mem_singleton_self s)),
        String.ofList_toList]
  | .arr xs, htexts, hkeys => by
    rw [redactPayload, redactItems_eq_self xs htexts hkeys]
  | .obj fields, htexts, hkeys => by
    rw [redactPayload, redactFields_eq_self fields htexts hkeys]

theorem redactItems_eq_self {secret : String} : ∀ xs : List Json,
    (∀ s ∈ Json.shownItems xs, ¬ Reveals secret s) →
    (∀ p ∈ Json.membersItems xs, isSensitiveKey p.1 = false) → redactItems secret xs = xs
  | [], _, _ => rfl
  | x :: xs, htexts, hkeys => by
    rw [Json.shownItems, List.forall_mem_append] at htexts
    rw [Json.membersItems, List.forall_mem_append] at hkeys
    rw [redactItems, redactPayload_eq_self x htexts.1 hkeys.1,
      redactItems_eq_self xs htexts.2 hkeys.2]

theorem redactFields_eq_self {secret : String} : ∀ fields : List (String × Json),
    (∀ s ∈ Json.shownFields fields, ¬ Reveals secret s) →
    (∀ p ∈ Json.membersFields fields, isSensitiveKey p.1 = false) →
      redactFields secret fields = fields
  | [], _, _ => rfl
  | (k, x) :: fields, htexts, hkeys => by
    rw [Json.shownFields, List.cons_append, List.forall_mem_cons, List.forall_mem_append] at htexts
    rw [Json.membersFields, List.cons_append, List.forall_mem_cons, List.forall_mem_append] at hkeys
    have hplain : isSensitiveKey k = false := hkeys.1
    rw [redactFields, hplain, if_neg Bool.false_ne_true,
      redactPayload_eq_self x htexts.2.1 hkeys.2.1,
      redactFields_eq_self fields htexts.2.2 hkeys.2.2]

end

/-! ## What the client passes on -/

/-- The dictionary of an answer. -/
def answerDict : Except ApiCallError ControlResult → Json
  | .ok r => r.toDict
  | .error e => e.toDict

/-- The strings of the error and of the result in the dictionary of an answer. -/
def dictTexts (dict : Json) : List String :=
  ((dict.get? "error").map Json.shownStrings).getD [] ++
    ((dict.get? "result").map Json.shownStrings).getD []

/-- The result in the dictionary of an answer, which an error leaves out when it is null. -/
def dictResult (dict : Json) : Json := (dict.get? "result").getD .null

/-- The dictionary of an answer does not pass on a token, masks what is sensitive, and leaves the
rest alone. -/
structure Discreet (token actionId : String) (response : ApiResponse) (body dict : Json) :
    Prop where
  hides : ∀ s ∈ dictTexts dict, ¬ Reveals token s
  masks : ∀ p ∈ (dictResult dict).members, isSensitiveKey p.1 = true → p.2 = .str redacted
  keeps : response.requestId = some actionId → body.Plain token → dictResult dict = body

lemma dictTexts_error (e : ApiCallError) : dictTexts (answerDict (.error e)) =
    "code" :: e.code :: "detail" :: e.detail :: e.result.shownStrings := by
  rw [answerDict, ApiCallError.toDict]
  split
  · next hnull =>
    rw [hnull]
    cases e.statusCode <;> rfl
  · cases e.statusCode <;> rfl

lemma dictResult_error (e : ApiCallError) : dictResult (answerDict (.error e)) = e.result := by
  rw [answerDict, ApiCallError.toDict]
  split
  · next hnull =>
    rw [hnull]
    cases e.statusCode <;> rfl
  · cases e.statusCode <;> rfl

/-- A rejected request for which the client makes up the code. -/
def Json.Untyped (body : Json) : Prop :=
  ∀ type, body.get? "type" = some (.str type) → ¬ errorUrn <+: type.toList

/-- An array or an object. -/
def Json.IsContainer (value : Json) : Prop := value.asArray ≠ none ∨ value.asObject ≠ none

/-- A detail whose Python text shows no token that its redacted strings do not: its numbers do not
contain the token, and in an array or an object no string has to be escaped and the token has none
of the marks between the parts. -/
structure DetailPlain (printable : Char → Bool) (token : String) (d : Json) : Prop where
  scalars : ∀ s ∈ d.scalarTexts, ¬ Reveals token s
  container : d.IsContainer → (∀ c ∈ token.toList, isReprMark c = false) ∧
    ∀ s ∈ d.shownStrings, ∀ c ∈ s.toList, isVerbatim printable c = true

/-- What the redaction does not look at is free of the token. -/
structure Guarded (printable : Char → Bool) (token : String) (rejected : Prop) (body : Json) :
    Prop where
  keys : ∀ k ∈ body.visibleKeys, ¬ Reveals token k
  code : rejected → body.Untyped → token ≠ "request_rejected"
  detail : rejected → ∀ d, body.get? "detail" = some d → DetailPlain printable token d

/-- A response that the client does not have to redact where it does not. -/
structure Unrevealing (printable : Char → Bool) (token actionId : String) (response : ApiResponse)
    (body : Json) : Prop where
  confirmed : response.requestId = some actionId →
    Guarded printable token (¬ (200 ≤ response.statusCode ∧ response.statusCode < 300)) body
  unconfirmed : response.requestId ≠ some actionId → ¬ Reveals token "invalid_api_response"

/-! ## The error of a rejected request -/

lemma redactPayload_str_iff {secret : String} {value : Json} {s : String} :
    redactPayload secret value = .str s ↔
      ∃ s', value = .str s' ∧ s = if secret = "" then s' else redactText secret s' := by
  cases value <;> simp [redactPayload, eq_comm]

lemma get?_redactPayload {secret key : String} (h : isSensitiveKey key = false) (value : Json) :
    (redactPayload secret value).get? key = (value.get? key).map (redactPayload secret) := by
  cases value with
  | obj fields =>
    rw [redactPayload, Json.get?, Json.get?]
    induction fields with
    | nil => rfl
    | cons p fields ih =>
      obtain ⟨k, x⟩ := p
      rw [redactFields]
      by_cases hk : k = key
      · subst hk
        rw [List.find?_cons_of_pos (by simp), List.find?_cons_of_pos (by simp), h]
        rfl
      · rw [List.find?_cons_of_neg (by simpa using hk), List.find?_cons_of_neg (by simpa using hk)]
        exact ih
  | _ => rfl

namespace SecretToken

variable {t : SecretToken}

lemma redactPayload_str (s : String) :
    redactPayload t.text (.str s) = .str (redactText t.text s) := by
  rw [redactPayload, if_neg t.text_ne_empty]

lemma reveals_rejected_iff : Reveals t.text "request_rejected" ↔ t.text = "request_rejected" := by
  constructor
  · intro h
    refine String.toList_inj.1 (h.eq_of_length_le ?_)
    have hlong := t.long
    have hlength : "request_rejected".toList.length = 16 := by decide
    omega
  · intro h
    rw [h]
    exact List.infix_rfl

/-- The redaction does not hide that a type is one of the mesh's errors. -/
lemma errorUrn_redactText_iff (h : t.text = "request_rejected") (type : String) :
    errorUrn <+: (redactText t.text type).toList ↔ errorUrn <+: type.toList := by
  have hframed : redacted.toList = '<' :: "redacted".toList ++ ['>'] := by decide
  rw [redactText, String.toList_ofList]
  constructor
  · exact prefix_of_prefix_replaceAll hframed (by decide)
  · refine prefix_replaceAll ?_
    rw [h]
    decide

/-- The last part of a type is redacted with it. -/
lemma not_reveals_lastPart {type : String} (h : ¬ Reveals t.text type) :
    ¬ Reveals t.text (String.ofList (type.toList.reverse.takeWhile (· ≠ ':')).reverse) := by
  intro hreveals
  rw [Reveals, String.toList_ofList] at hreveals
  have hsuffix : (type.toList.reverse.takeWhile (· ≠ ':')).reverse <:+: type.toList := by
    rw [← List.reverse_infix, List.reverse_reverse]
    exact (List.takeWhile_prefix _).isInfix
  exact h (hreveals.trans hsuffix)

lemma isSensitiveKey_type : isSensitiveKey "type" = false := by decide

lemma isSensitiveKey_detail : isSensitiveKey "detail" = false := by decide

lemma problemCode_hides_iff (body : Json) :
    ¬ Reveals t.text (problemCode (redactPayload t.text body)) ↔
      (body.Untyped → t.text ≠ "request_rejected") := by
  rw [problemCode, get?_redactPayload isSensitiveKey_type]
  -- a type that is a string stays one
  by_cases htype : ∃ type, body.get? "type" = some (.str type)
  · obtain ⟨type, htype⟩ := htype
    rw [htype, Option.map_some, redactPayload_str]
    dsimp only
    have huntyped : body.Untyped ↔ ¬ errorUrn <+: type.toList := by
      refine ⟨fun h => h type htype, fun h type' htype' => ?_⟩
      obtain rfl : type = type' := by simpa [htype] using htype'
      exact h
    by_cases hurn : errorUrn <+: (redactText t.text type).toList
    · rw [if_pos hurn]
      refine iff_of_true (not_reveals_lastPart (redactText_hides type)) ?_
      intro hun htext
      exact huntyped.1 hun ((errorUrn_redactText_iff htext type).1 hurn)
    · rw [if_neg hurn, reveals_rejected_iff]
      constructor
      · exact fun h _ => h
      · intro h htext
        refine h (huntyped.2 fun hraw => hurn ?_) htext
        exact (errorUrn_redactText_iff htext type).2 hraw
  · have hcode : ∀ type, (body.get? "type").map (redactPayload t.text) ≠ some (.str type) := by
      intro type h
      obtain ⟨value, hvalue, hstr⟩ := Option.map_eq_some_iff.1 h
      obtain ⟨s, rfl, -⟩ := redactPayload_str_iff.1 hstr
      exact htype ⟨s, hvalue⟩
    have huntyped : body.Untyped := fun type h => absurd ⟨type, h⟩ htype
    split
    · next type h => exact absurd h (hcode type)
    · rw [reveals_rejected_iff]
      exact ⟨fun h _ => h, fun h => h huntyped⟩

/-- A detail that is no array and no object shows the token only if it is a number. -/
lemma pythonStr_hides_iff (printable : Char → Bool) {d : Json} (hd : ¬ d.IsContainer) :
    ¬ Reveals t.text (pythonStr printable (redactPayload t.text d)) ↔
      DetailPlain printable t.text d := by
  have hplain : DetailPlain printable t.text d ↔ ∀ s ∈ d.scalarTexts, ¬ Reveals t.text s :=
    ⟨DetailPlain.scalars, fun h => ⟨h, fun hcontainer => absurd hcontainer hd⟩⟩
  rw [hplain]
  cases d with
  | arr xs => exact absurd (Or.inl (Option.some_ne_none _)) hd
  | obj fields => exact absurd (Or.inr (Option.some_ne_none _)) hd
  | str s =>
    rw [redactPayload_str]
    exact iff_of_true (redactText_hides s) fun _ h => absurd h List.not_mem_nil
  | null | bool | int | float => simp [redactPayload, pythonStr, reprJson, Json.scalarTexts]

/-- The keys of the detail are keys of the body. -/
lemma visibleKeys_detail {body d : Json} (h : body.get? "detail" = some d) :
    d.visibleKeys ⊆ body.visibleKeys := by
  cases body with
  | obj fields =>
    rw [Json.get?] at h
    obtain ⟨⟨k, x⟩, hfind, rfl⟩ := Option.map_eq_some_iff.1 h
    have hk : k = "detail" := by simpa using List.find?_some hfind
    subst hk
    have hmem := List.mem_of_find?_eq_some hfind
    rw [Json.visibleKeys]
    clear hfind h
    induction fields with
    | nil => exact absurd hmem List.not_mem_nil
    | cons p fields ih =>
      obtain ⟨k, y⟩ := p
      intro key hkey
      rw [Json.visibleKeysFields]
      rcases List.mem_cons.1 hmem with hsame | hmem
      · obtain ⟨rfl, rfl⟩ := Prod.mk.inj hsame
        rw [isSensitiveKey_detail]
        exact List.mem_cons_of_mem _ (List.mem_append_left _ hkey)
      · exact List.mem_cons_of_mem _ (List.mem_append_right _ (ih hmem hkey))
  | _ => simp [Json.get?] at h

/-- The text of a plain array or object does not show the token. -/
lemma hides_in_repr {printable : Char → Bool} {d : Json} (hd : DetailPlain printable t.text d)
    (hcontainer : d.IsContainer) (hkeys : ∀ k ∈ d.visibleKeys, ¬ Reveals t.text k) :
    ¬ Reveals t.text (reprJson printable (redactPayload t.text d)) := by
  obtain ⟨hmarks, hverbatim⟩ := hd.container hcontainer
  have hshown : ∀ s ∈ (redactPayload t.text d).shownStrings,
      ∀ c ∈ s.toList, isVerbatim printable c = true :=
    forall_shown_redactPayload (P := fun s => ∀ c ∈ s.toList, isVerbatim printable c = true)
      (verbatim_redacted printable) (fun s hs => verbatim_redactText hs) d hverbatim
  intro hreveals
  rcases holds_of_infix_repr toList_ne_nil hmarks _ hshown hreveals with
    ⟨s, hs, hinfix⟩ | ⟨s, hs, hinfix⟩
  · exact (redactPayload_hides_iff d).2 hkeys s hs hinfix
  · exact hd.scalars s (scalarTexts_redactPayload d hs) hinfix

/-- A plain detail does not show the token. -/
lemma problemDetail_hides {printable : Char → Bool} {body : Json}
    (hkeys : ∀ k ∈ body.visibleKeys, ¬ Reveals t.text k)
    (h : ∀ d, body.get? "detail" = some d → DetailPlain printable t.text d) :
    ¬ Reveals t.text (problemDetail printable (redactPayload t.text body)) := by
  rw [problemDetail, get?_redactPayload isSensitiveKey_detail]
  cases hdetail : body.get? "detail" with
  | none =>
    rw [Option.map_none, Option.map_none, Option.getD_none]
    exact not_reveals_sentence
      (["control", "API", "rejected", "the", "request"].map String.toList) (by decide) (by decide)
  | some d =>
    rw [Option.map_some, Option.map_some, Option.getD_some]
    have hd := h d hdetail
    have hvisible : ∀ k ∈ d.visibleKeys, ¬ Reveals t.text k := fun k hk =>
      hkeys k (visibleKeys_detail hdetail hk)
    by_cases hcontainer : d.IsContainer
    · have hrepr := hides_in_repr hd hcontainer hvisible
      cases d with
      | arr xs => exact hrepr
      | obj fields => exact hrepr
      | _ => simp [Json.IsContainer, Json.asArray, Json.asObject] at hcontainer
    · exact (pythonStr_hides_iff printable hcontainer).2 hd

/-! ### Discreet answers -/

section Discreet

variable {actionId : String} {response : ApiResponse} {body : Json}

/-- A result is discreet exactly if no visible key of the body contains the token. -/
lemma discreet_ok_iff {method path : String} {statusCode : ℕ} :
    Discreet t.text actionId response body (answerDict
        (.ok ⟨method, path, statusCode, actionId, redactPayload t.text body⟩)) ↔
      ∀ k ∈ body.visibleKeys, ¬ Reveals t.text k := by
  constructor
  · exact fun h => (redactPayload_hides_iff body).1 h.hides
  · exact fun h => ⟨(redactPayload_hides_iff body).2 h, redactPayload_masks t.text body,
      fun _ hplain => redactPayload_eq_self body hplain.strings hplain.keys⟩

/-- The keys of an error are too short for a token. -/
lemma dictTexts_error_hides_iff (e : ApiCallError) :
    (∀ s ∈ dictTexts (answerDict (.error e)), ¬ Reveals t.text s) ↔
      ¬ Reveals t.text e.code ∧ ¬ Reveals t.text e.detail ∧
        ∀ s ∈ e.result.shownStrings, ¬ Reveals t.text s := by
  have hcodeKey : ¬ Reveals t.text "code" := not_reveals_of_short (by decide)
  have hdetailKey : ¬ Reveals t.text "detail" := not_reveals_of_short (by decide)
  rw [dictTexts_error]
  simp only [List.forall_mem_cons]
  constructor
  · rintro ⟨-, hcode, -, hdetail, htexts⟩
    exact ⟨hcode, hdetail, htexts⟩
  · rintro ⟨hcode, hdetail, htexts⟩
    exact ⟨hcodeKey, hcode, hdetailKey, hdetail, htexts⟩

/-- An error with the body as its result is discreet exactly if its code, its detail and the
visible keys of the body do not contain the token. -/
lemma discreet_rejected_iff {e : ApiCallError} (hresult : e.result = redactPayload t.text body) :
    Discreet t.text actionId response body (answerDict (.error e)) ↔
      ¬ Reveals t.text e.code ∧ ¬ Reveals t.text e.detail ∧
        ∀ k ∈ body.visibleKeys, ¬ Reveals t.text k := by
  constructor
  · intro h
    obtain ⟨hcode, hdetail, htexts⟩ := (dictTexts_error_hides_iff e).1 h.hides
    rw [hresult] at htexts
    exact ⟨hcode, hdetail, (redactPayload_hides_iff body).1 htexts⟩
  · rintro ⟨hcode, hdetail, hkeys⟩
    refine ⟨(dictTexts_error_hides_iff e).2 ⟨hcode, hdetail, ?_⟩, ?_, ?_⟩
    · rw [hresult]
      exact (redactPayload_hides_iff body).2 hkeys
    · rw [dictResult_error, hresult]
      exact redactPayload_masks t.text body
    · rw [dictResult_error, hresult]
      exact fun _ hplain => redactPayload_eq_self body hplain.strings hplain.keys

/-- An error without a result, for a response that does not confirm the action, is discreet
exactly if its code and its detail do not contain the token. -/
lemma discreet_unconfirmed_iff {e : ApiCallError} (hresult : e.result = .null)
    (hnot : response.requestId ≠ some actionId) :
    Discreet t.text actionId response body (answerDict (.error e)) ↔
      ¬ Reveals t.text e.code ∧ ¬ Reveals t.text e.detail := by
  constructor
  · intro h
    obtain ⟨hcode, hdetail, -⟩ := (dictTexts_error_hides_iff e).1 h.hides
    exact ⟨hcode, hdetail⟩
  · rintro ⟨hcode, hdetail⟩
    refine ⟨(dictTexts_error_hides_iff e).2 ⟨hcode, hdetail, ?_⟩, ?_, fun hyes => absurd hyes hnot⟩
    · rw [hresult]
      exact fun _ hs => absurd hs List.not_mem_nil
    · rw [dictResult_error, hresult]
      exact fun _ hp => absurd hp List.not_mem_nil

end Discreet

end SecretToken

open SecretToken in
/-- **The control client and its token.**  An answer is discreet when no visible key of the body
contains the token, the detail is plain, and the code that is made up is not the token; and only
then, unless the request was rejected with an array or an object as its detail. -/
theorem control_client_discreet (printable : Char → Bool) (t : SecretToken)
    (method path actionId : String) (statusCode : ℕ) (requestId : Option String) (body : Json) :
    let response : ApiResponse := ⟨statusCode, requestId, some body⟩
    let dict := answerDict
      (ControlApiClient.answer printable t.text method path actionId response)
    (Unrevealing printable t.text actionId response body →
        Discreet t.text actionId response body dict) ∧
      (Discreet t.text actionId response body dict →
        Unrevealing printable t.text actionId response body ∨
          (requestId = some actionId ∧ ¬ (200 ≤ statusCode ∧ statusCode < 300) ∧
            ∃ d, body.get? "detail" = some d ∧ d.IsContainer)) := by
  intro response dict
  by_cases hconfirmed : requestId = some actionId
  · by_cases hstatus : 200 ≤ statusCode ∧ statusCode < 300
    · have hdict : dict = answerDict (.ok ⟨method, path, statusCode, actionId,
          redactPayload t.text body⟩) := by
        show answerDict (ControlApiClient.answer _ _ _ _ _ ⟨statusCode, requestId, some body⟩) = _
        rw [ControlApiClient.answer, if_neg (not_not.2 hconfirmed)]
        dsimp only
        rw [if_pos hstatus]
      rw [hdict, discreet_ok_iff]
      refine ⟨fun h => (h.confirmed hconfirmed).keys, fun h => Or.inl ⟨fun _ => ⟨h, ?_, ?_⟩, ?_⟩⟩
      · exact fun hrejected => absurd hstatus hrejected
      · exact fun hrejected => absurd hstatus hrejected
      · exact fun hnot => absurd hconfirmed hnot
    · have hdict : dict = answerDict (.error
          { exitCode := exitCode statusCode
            code := problemCode (redactPayload t.text body)
            detail := problemDetail printable (redactPayload t.text body)
            actionId, statusCode := some statusCode, result := redactPayload t.text body }) := by
        show answerDict (ControlApiClient.answer _ _ _ _ _ ⟨statusCode, requestId, some body⟩) = _
        rw [ControlApiClient.answer, if_neg (not_not.2 hconfirmed)]
        dsimp only
        rw [if_neg hstatus]
      rw [hdict, discreet_rejected_iff rfl]
      constructor
      · intro h
        have hguarded := h.confirmed hconfirmed
        exact ⟨(problemCode_hides_iff body).2 (hguarded.code hstatus),
          problemDetail_hides hguarded.keys (hguarded.detail hstatus), hguarded.keys⟩
      · rintro ⟨hcode, hdetail, hkeys⟩
        by_cases hcontainer : ∃ d, body.get? "detail" = some d ∧ d.IsContainer
        · exact Or.inr ⟨hconfirmed, hstatus, hcontainer⟩
        refine Or.inl ⟨fun _ => ⟨hkeys, fun _ => (problemCode_hides_iff body).1 hcode,
          fun _ d hd => ?_⟩, fun hnot => absurd hconfirmed hnot⟩
        -- the detail is the text of one scalar
        refine (pythonStr_hides_iff printable fun hd' => hcontainer ⟨d, hd, hd'⟩).1 ?_
        change ¬ Reveals t.text (problemDetail printable (redactPayload t.text body)) at hdetail
        rw [problemDetail, get?_redactPayload isSensitiveKey_detail, hd] at hdetail
        exact hdetail
  · have hdict : dict = answerDict (.error
        { exitCode := 5
          code := "invalid_api_response"
          detail := "control API did not confirm the action identifier"
          actionId, statusCode := some statusCode, result := .null }) := by
      show answerDict (ControlApiClient.answer _ _ _ _ _ ⟨statusCode, requestId, some body⟩) = _
      rw [ControlApiClient.answer, if_pos hconfirmed]
    have hdetail : ¬ Reveals t.text "control API did not confirm the action identifier" :=
      not_reveals_sentence
        (["control", "API", "did", "not", "confirm", "the", "action", "identifier"].map
          String.toList) (by decide) (by decide)
    rw [hdict, discreet_unconfirmed_iff rfl hconfirmed]
    refine ⟨fun h => ⟨h.unconfirmed hconfirmed, hdetail⟩, fun h => Or.inl ⟨?_, fun _ => h.1⟩⟩
    exact fun hyes => absurd hyes hconfirmed

/-! ## A key that is the token -/

lemma loadOpaqueToken_example :
    loadOpaqueToken "mesh-0123456789abcdef\n" = some "mesh-0123456789abcdef" := by decide

/-- A token of 21 characters. -/
def meshToken : SecretToken where
  text := "mesh-0123456789abcdef"
  accepted := ⟨_, loadOpaqueToken_example⟩
  long := by decide
  noOpening := by decide
  noClosing := by decide

/-- The token is shown where it is the key of an object. -/
theorem control_client_not_discreet :
    ¬ ∀ (printable : Char → Bool) (t : SecretToken) (method path actionId : String)
      (statusCode : ℕ) (requestId : Option String) (body : Json),
      Discreet t.text actionId ⟨statusCode, requestId, some body⟩ body
        (answerDict (ControlApiClient.answer printable t.text method path actionId
          ⟨statusCode, requestId, some body⟩)) := by
  intro hclaim
  have h := hclaim (fun _ => true) meshToken "GET" "/api/v1/runtime" "a1" 200 (some "a1")
    (.obj [("mesh-0123456789abcdef", .int 1)])
  refine h.hides "mesh-0123456789abcdef" ?_ List.infix_rfl
  rw [ControlApiClient.answer, if_neg (by simp)]
  exact List.mem_cons_self

end AgenticMesh
