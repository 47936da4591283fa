import Rho.Server.Turn

/-!
# The answer to a request of an Agent

`desktop_agent_response`: the payload of the response with the result cut down to what fits into a frame, and `write_frame`, which
refuses an envelope whose JSON is larger than a frame.
-/

namespace Rho

def maxFrameBytes : Nat := 8 * 1024 * 1024

def desktopAgentResultMaxBytes : Nat := maxFrameBytes / 2

/-- The bytes of `serde_json::to_vec` of a value. -/
def encodedBytes (v : Json) : Nat := Json.bytes v.print

/-! ## The result -/

def boundedAgentContextText (value : String) (maxChars : Nat) : String :=
  if value.toList.length > maxChars then String.ofList (value.toList.take maxChars) ++ "... [truncated]" else value

/-- The events of a result are replaced by their number. -/
def omitEvents (value : Json) : Json :=
  match value with
  | .obj fields =>
    match OrdMap.get fields "events" with
    | some events =>
      .obj (OrdMap.insert "events_omitted" (.bool true)
        (OrdMap.insert "event_count" (.int ((events.asArray.map List.length).getD 0)) (OrdMap.erase fields "events")))
    | none => value
  | _ => value

/-- The error of a result's execution, with the first of its message. -/
def resultError (value : Json) : Json :=
  match (((value.get "execution").bind (Json.get · "error")).bind (Json.get · "message")).bind Json.asStr with
  | some message => .obj [("message", .str (boundedAgentContextText message 2000))]
  | none => .null

def resultOk (value : Json) : Json := ((value.get "execution").bind (Json.get · "ok")).getD .null

/-- What is sent of a result that is too large. -/
def truncatedResult (requestType : String) (value : Json) : Json :=
  .obj [("artifact_id", (value.get "artifact_id").getD .null),
    ("artifact_media_type", (value.get "artifact_media_type").getD .null),
    ("event_count", (value.get "event_count").getD (.int 0)),
    ("events_omitted", (value.get "events_omitted").getD (.bool false)),
    ("execution", .obj [("error", resultError value), ("ok", resultOk value)]),
    ("execution_id", (value.get "execution_id").getD .null),
    ("original_result_bytes", .int (encodedBytes value)),
    ("request_type", .str requestType),
    ("response_truncated", .bool true),
    ("response_truncation_reason", .str "agent_frame_budget"),
    ("workspace", (value.get "workspace").getD .null)]

def desktopAgentResultProjection (requestType : String) (value : Json) : Json :=
  let value := omitEvents value
  if encodedBytes value ≤ desktopAgentResultMaxBytes then value else truncatedResult requestType value

/-! ## The response -/

def desktopAgentPayload (requestType requestId : String) (result : Except String Json) (workspace : Json) : Json :=
  match result with
  | .ok value =>
    .obj [("ok", .bool true), ("request_id", .str requestId), ("result", desktopAgentResultProjection requestType value),
      ("type", .str (requestType ++ ".result")), ("workspace", workspace)]
  | .error error =>
    .obj [("error", .str error), ("ok", .bool false), ("request_id", .str requestId),
      ("type", .str (requestType ++ ".result")), ("workspace", workspace)]

/-- The envelope with the id and the time that are drawn for it. -/
def desktopAgentResponse (id requestType requestId : String) (result : Except String Json) (workspace : Json) : Envelope :=
  ⟨id, .response, desktopAgentPayload requestType requestId result workspace⟩

def MessageKind.name : MessageKind → String
  | .request => "request"
  | .response => "response"
  | .event => "event"
  | .cancel => "cancel"

def Envelope.toJson (timestamp : String) (e : Envelope) : Json :=
  .obj [("protocol_version", .int 1), ("id", .str e.id), ("kind", .str e.kind.name), ("timestamp", .str timestamp),
    ("payload", e.payload)]

/-- `write_frame`: the length and the text of the envelope, or the size with which it is refused. -/
def writeFrame (timestamp : String) (e : Envelope) : Except Nat (Nat × String) :=
  if encodedBytes (e.toJson timestamp) > maxFrameBytes then .error (encodedBytes (e.toJson timestamp))
  else .ok (encodedBytes (e.toJson timestamp), (e.toJson timestamp).toText)

end Rho
