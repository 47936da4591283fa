import Rho.Server.AgentResponse

/-!
# The size of an answer to an Agent

A result that does not fit into half a frame is cut down, and nothing else is: the request's type and id, the text of an error, the
workspace and the members that the cut result copies are sent whole, so that an answer is refused where they are too large.
-/

namespace Rho

open Json

variable {id timestamp requestType requestId : String} {workspace : Json}

/-! ## The size of a JSON text -/

/-- The bytes of a text between its quotes. -/
def textBytes (s : String) : Nat := bytes (quote s)

theorem bytes_printFields (fields : List (String × Json)) :
    bytes (printFields fields) = 1 + (fields.map fun f => textBytes f.1 + encodedBytes f.2 + 2).sum := by
  induction fields with
  | nil => rfl
  | cons f fields ih =>
    rw [printFields, bytes_cons, bytes_append, bytes_cons, bytes_append, ih, List.map_cons, List.sum_cons, textBytes, encodedBytes,
      show ','.utf8Size = 1 from rfl, show ':'.utf8Size = 1 from rfl]
    omega

/-- An object takes its members, and two bytes for each beside the first brace. -/
theorem encodedBytes_obj {fields : List (String × Json)} (h : fields ≠ []) :
    encodedBytes (.obj fields) = 1 + (fields.map fun f => textBytes f.1 + encodedBytes f.2 + 2).sum := by
  cases fields with
  | nil => exact absurd rfl h
  | cons f fields =>
    rw [encodedBytes, print, bytes_cons, bytes_append, bytes_cons, bytes_append, bytes_printFields, List.map_cons, List.sum_cons,
      textBytes, encodedBytes, show '\x7b'.utf8Size = 1 from rfl, show ':'.utf8Size = 1 from rfl]
    omega

@[simp] theorem encodedBytes_str (s : String) : encodedBytes (.str s) = textBytes s := rfl

theorem length_le_flatMap_escape (l : List Char) : l.length ≤ (l.flatMap escapeChar).length := by
  induction l with
  | nil => exact Nat.le_refl 0
  | cons c l ih =>
    have hone : 1 ≤ (escapeChar c).length := by
      unfold escapeChar
      split_ifs <;> simp
    rw [List.flatMap_cons, List.length_append, List.length_cons]
    omega

theorem length_le_textBytes (s : String) : s.toList.length ≤ textBytes s := by
  refine (length_le_flatMap_escape s.toList).trans (le_trans ?_ (bytes_bounds _).1)
  rw [quote, List.length_cons, List.length_append]
  omega

/-! ## The parts of an answer -/

/-- The bytes of what is copied of a result that is cut down. -/
def copiedBytes (requestType : String) (value : Json) : Nat :=
  encodedBytes ((value.get "execution_id").getD .null) + encodedBytes ((value.get "artifact_id").getD .null) +
    encodedBytes ((value.get "artifact_media_type").getD .null) + encodedBytes ((value.get "workspace").getD .null) +
    encodedBytes (resultError value) + encodedBytes (resultOk value) +
    encodedBytes ((value.get "event_count").getD (.int 0)) + encodedBytes ((value.get "events_omitted").getD (.bool false)) +
    textBytes requestType + encodedBytes (.int (encodedBytes value)) + 247

/-- The bytes of what the request has come to. -/
def answerBytes (requestType : String) : Except String Json → Nat
  | .error error => textBytes error
  | .ok value =>
    if encodedBytes (omitEvents value) ≤ desktopAgentResultMaxBytes then encodedBytes (omitEvents value)
    else copiedBytes requestType (omitEvents value)

theorem encodedBytes_truncatedResult (value : Json) :
    encodedBytes (truncatedResult requestType value) = copiedBytes requestType value := by
  rw [truncatedResult, copiedBytes, encodedBytes_obj (List.cons_ne_nil _ _)]
  simp only [List.map_cons, List.map_nil, List.sum_cons, List.sum_nil, encodedBytes_str]
  rw [encodedBytes_obj (List.cons_ne_nil _ _)]
  simp only [List.map_cons, List.map_nil, List.sum_cons, List.sum_nil, show textBytes "artifact_id" = 13 by decide,
    show textBytes "artifact_media_type" = 21 by decide, show textBytes "event_count" = 13 by decide,
    show textBytes "events_omitted" = 16 by decide, show textBytes "execution" = 11 by decide, show textBytes "error" = 7 by decide,
    show textBytes "ok" = 4 by decide, show textBytes "execution_id" = 14 by decide,
    show textBytes "original_result_bytes" = 23 by decide, show textBytes "request_type" = 14 by decide,
    show textBytes "response_truncated" = 20 by decide, show textBytes "response_truncation_reason" = 28 by decide,
    show textBytes "agent_frame_budget" = 20 by decide, show textBytes "workspace" = 11 by decide,
    show encodedBytes (.bool true) = 4 by decide]
  omega

theorem encodedBytes_desktopAgentPayload (result : Except String Json) :
    encodedBytes (desktopAgentPayload requestType requestId result workspace) =
      textBytes requestId + textBytes (requestType ++ ".result") + encodedBytes workspace + answerBytes requestType result + 56 := by
  have hkeys : textBytes "ok" = 4 ∧ textBytes "request_id" = 12 ∧ textBytes "result" = 8 ∧ textBytes "type" = 6 ∧
      textBytes "workspace" = 11 ∧ textBytes "error" = 7 ∧ encodedBytes (.bool true) = 4 ∧ encodedBytes (.bool false) = 5 := by
    decide
  cases result with
  | error error =>
    rw [desktopAgentPayload, encodedBytes_obj (List.cons_ne_nil _ _)]
    simp only [List.map_cons, List.map_nil, List.sum_cons, List.sum_nil, encodedBytes_str, answerBytes]
    omega
  | ok value =>
    have hprojected : encodedBytes (desktopAgentResultProjection requestType value) = answerBytes requestType (.ok value) := by
      unfold desktopAgentResultProjection answerBytes
      dsimp only
      split
      · rfl
      · exact encodedBytes_truncatedResult _
    rw [desktopAgentPayload, encodedBytes_obj (List.cons_ne_nil _ _)]
    simp only [List.map_cons, List.map_nil, List.sum_cons, List.sum_nil, encodedBytes_str, hprojected]
    omega

theorem encodedBytes_toJson (e : Envelope) :
    encodedBytes (e.toJson timestamp) = textBytes e.id + textBytes timestamp + textBytes e.kind.name + encodedBytes e.payload + 60 := by
  rw [Envelope.toJson, encodedBytes_obj (List.cons_ne_nil _ _)]
  simp only [List.map_cons, List.map_nil, List.sum_cons, List.sum_nil, encodedBytes_str,
    show textBytes "protocol_version" = 18 by decide, show textBytes "id" = 4 by decide, show textBytes "kind" = 6 by decide,
    show textBytes "timestamp" = 11 by decide, show textBytes "payload" = 9 by decide, show encodedBytes (.int 1) = 1 by decide]
  omega

/-! ## Answers that are written -/

/-- The envelope of the answer fits into a frame, and is written. -/
def Answered (id timestamp requestType requestId : String) (result : Except String Json) (workspace : Json) : Prop :=
  encodedBytes ((desktopAgentResponse id requestType requestId result workspace).toJson timestamp) ≤ maxFrameBytes ∧
    ∃ frame, writeFrame timestamp (desktopAgentResponse id requestType requestId result workspace) = .ok frame

/-- An answer is written exactly when the parts that it sends whole fit into a frame together. -/
theorem agent_answered_iff (id timestamp requestType requestId : String) (result : Except String Json) (workspace : Json) :
    Answered id timestamp requestType requestId result workspace ↔
      textBytes id + textBytes timestamp + textBytes requestId + textBytes (requestType ++ ".result") + encodedBytes workspace +
        answerBytes requestType result + 126 ≤ maxFrameBytes := by
  have hbytes : encodedBytes ((desktopAgentResponse id requestType requestId result workspace).toJson timestamp) =
      textBytes id + textBytes timestamp + textBytes requestId + textBytes (requestType ++ ".result") + encodedBytes workspace +
        answerBytes requestType result + 126 := by
    have hpayload := @encodedBytes_desktopAgentPayload requestType requestId workspace result
    have hkind : textBytes MessageKind.response.name = 10 := by decide
    rw [encodedBytes_toJson]
    change textBytes id + textBytes timestamp + textBytes MessageKind.response.name +
      encodedBytes (desktopAgentPayload requestType requestId result workspace) + 60 = _
    omega
  rw [Answered, ← hbytes, writeFrame]
  refine and_iff_left_of_imp fun hfits => ⟨_, if_neg (Nat.not_lt.mpr hfits)⟩

/-- A request whose type is a text of half a frame is refused, and the refusal repeats the text. -/
theorem refusal_of_long_type_not_answered :
    ∃ requestType error, (authorizeAgentWorkspaceRequest "ask" requestType (.obj []) []).2 = .error error ∧
      ¬Answered "" "" requestType "" (.error error) .null := by
  let name := String.ofList (List.replicate 4194304 'a')
  refine ⟨name, "Agent request type \x60" ++ name ++ "\x60 is not allowed by desktop policy", ?_, ?_⟩
  · have hnone : ∀ l : List String, (∀ s ∈ l, s.toList.length < 100) → l.contains name = false := by
      intro l hshort
      rw [List.contains_eq_any_beq, List.any_eq_false]
      intro s hs heq
      have hlength := hshort s hs
      rw [← eq_of_beq heq, String.toList_ofList, List.length_replicate] at hlength
      omega
    unfold authorizeAgentWorkspaceRequest isAgentProbe isAgentMutation
    rw [hnone _ (by decide), hnone _ (by decide)]
    rfl
  · rw [agent_answered_iff, answerBytes, maxFrameBytes, Nat.not_le]
    have htype := length_le_textBytes (name ++ ".result")
    have herror := length_le_textBytes ("Agent request type \x60" ++ name ++ "\x60 is not allowed by desktop policy")
    have hname : name.toList.length = 4194304 := by rw [String.toList_ofList, List.length_replicate]
    rw [String.toList_append, List.length_append, hname] at htype
    rw [String.toList_append, String.toList_append, List.length_append, List.length_append, hname] at herror
    omega

end Rho
