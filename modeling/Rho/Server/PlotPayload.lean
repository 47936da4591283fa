import Rho.Lib.Base64
import Rho.Lib.Json

/-!
# Plot payloads

The plots among the events of an execution, as they are kept: of each event the first media type that has a payload, the bytes of a
PNG with their padding made good, and no payload twice.
-/

namespace Rho

/-- `is_ascii_whitespace`. -/
def isAsciiWhitespace (c : Char) : Bool := c == ' ' || c == '\t' || c == '\n' || c == '\x0c' || c == '\r'

/-- `trim_end_matches`, of a character. -/
def trimEndMatches (c : Char) (text : List Char) : List Char := (text.reverse.dropWhile (· == c)).reverse

/-- A byte of the alphabet. No byte of a character beyond ASCII is one. -/
def isBase64Byte (c : Char) : Bool :=
  decide ('A' ≤ c ∧ c ≤ 'Z') || decide ('a' ≤ c ∧ c ≤ 'z') || decide ('0' ≤ c ∧ c ≤ '9') || c == '+' || c == '/'

/-- The text without its white space. -/
def compactText (value : String) : List Char := value.toList.filter (fun c => !isAsciiWhitespace c)

def normalizeBase64Padding (value : String) : Option String :=
  let compact := compactText value
  let core := trimEndMatches '=' compact
  let paddingLength := Json.bytes compact - Json.bytes core
  if core = [] ∨ '=' ∈ core ∨ 2 < paddingLength ∨ (0 < paddingLength ∧ Json.bytes compact % 4 ≠ 0) ∨ core.all isBase64Byte = false ∨
      Json.bytes core % 4 = 1 then none
  else some (String.ofList (core ++ Base64.padding (Json.bytes core)))

/-! ## The events of a kernel -/

/-- `KernelEvent`. -/
inductive KernelEvent where
  | stream (name text : String)
  | displayData (data : Json)
  | error (traceback : String)
  | banner (text : String)
  | idle | busy
  | inputRequest (prompt : String) (password : Bool)
  | executeInput (code : String)
  | executeReply | interruptRequested | kernelExited | other

structure CorrelatedKernelEvent where
  parentId : Option String
  event : KernelEvent

/-- The tag of an event and its fields. -/
def KernelEvent.fields : KernelEvent → List (String × Json)
  | .stream name text => [("type", .str "stream"), ("name", .str name), ("text", .str text)]
  | .displayData data => [("type", .str "display_data"), ("data", data)]
  | .error traceback => [("type", .str "error"), ("traceback", .str traceback)]
  | .banner text => [("type", .str "banner"), ("text", .str text)]
  | .idle => [("type", .str "idle")]
  | .busy => [("type", .str "busy")]
  | .inputRequest prompt password => [("type", .str "input_request"), ("prompt", .str prompt), ("password", .bool password)]
  | .executeInput code => [("type", .str "execute_input"), ("code", .str code)]
  | .executeReply => [("type", .str "execute_reply")]
  | .interruptRequested => [("type", .str "interrupt_requested")]
  | .kernelExited => [("type", .str "kernel_exited")]
  | .other => [("type", .str "other")]

/-- `serde_json::to_value` of an event. -/
def CorrelatedKernelEvent.toJson (e : CorrelatedKernelEvent) : Json :=
  .obj (("parent_id", (e.parentId.map Json.str).getD .null) :: e.event.fields)

/-- The payload of a media type, if it can be kept. -/
def plotPayload (data : List (String × Json)) (mediaType : String) : Option Json :=
  (OrdMap.get data mediaType).bind fun payload =>
    if mediaType = "image/png" then (payload.asStr.bind normalizeBase64Padding).map .str else some payload

def plotMediaTypes : List String := ["image/png", "image/svg+xml", "rho/mock-image"]

/-- The plot of an event: of the first media type with a payload that can be kept. -/
def eventPlot (e : CorrelatedKernelEvent) : Option (String × String) :=
  ((e.toJson.get "data").bind Json.asObject).bind fun data =>
    plotMediaTypes.findSome? fun mediaType =>
      (plotPayload data mediaType).map fun payload => (mediaType, (Json.obj [(mediaType, payload)]).toText)

/-- What the loop has: the plots, and those that it has seen. -/
structure PlotScan where
  plots : List (String × String) := []
  seen : List (String × String) := []

def PlotScan.visit (s : PlotScan) (e : CorrelatedKernelEvent) : PlotScan :=
  match eventPlot e with
  | none => s
  | some plot => if s.seen.contains plot then s else ⟨s.plots ++ [plot], plot :: s.seen⟩

def extractPlotPayloads (events : List CorrelatedKernelEvent) : List (String × String) := (events.foldl PlotScan.visit {}).plots

end Rho
