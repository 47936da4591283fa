import Rho.Server.AgentResponse
import Rho.Lib.Serde

/-!
# Frames

The frames of `rho-protocol`: a length of four bytes and that many bytes of JSON. `read_frame` is the other end of `write_frame`. Its
reader is what is left of the bytes that were sent; after an error nobody reads on.
-/

namespace Rho

def protocolVersion : Nat := 1

inductive FrameError where
  /-- The bytes end before the frame does. -/
  | io
  | tooLarge (bytes : Nat)
  | json
  | protocolVersion (version : Nat)
  deriving DecidableEq, Repr

/-- `u32::to_be_bytes`. -/
def toBeBytes (n : Nat) : List UInt8 :=
  [UInt8.ofNat (n / 2 ^ 24 % 256), UInt8.ofNat (n / 2 ^ 16 % 256), UInt8.ofNat (n / 2 ^ 8 % 256), UInt8.ofNat (n % 256)]

/-- `u32::from_be_bytes`. -/
def fromBeBytes (bytes : List UInt8) : Nat := bytes.foldl (fun n b => n * 256 + b.toNat) 0

/-- The bytes that `write_frame` sends. -/
def frameBytes (message : String × Envelope) : Except Nat (List UInt8) :=
  (writeFrame message.1 message.2).map fun (length, text) => toBeBytes length ++ text.toUTF8.toList

/-- The messages of one writer, one after another. -/
def writeFrames (messages : List (String × Envelope)) : Except Nat (List UInt8) :=
  (messages.mapM frameBytes).map List.flatten

def MessageKind.names : List (String × MessageKind) :=
  [("request", .request), ("response", .response), ("event", .event), ("cancel", .cancel)]

/-- The version of an envelope, and the message with its time. -/
def readEnvelope (v : Json) : Option (Nat × String × Envelope) :=
  match Serde.fields false ["protocol_version", "id", "kind", "timestamp", "payload"] v with
  | some [version, id, kind, timestamp, payload] => do
    let version ← (Serde.required Serde.u64 version).filter (· < 2 ^ 16)
    let id ← Serde.required Serde.string id
    let kind ← Serde.required (Serde.unitVariant MessageKind.names) kind
    let timestamp ← Serde.required Serde.string timestamp
    let payload ← payload
    return (version, timestamp, ⟨id, kind, payload.normalize⟩)
  | _ => none

/-- `serde_json::from_slice` of an envelope. -/
def decodeEnvelope (bytes : List UInt8) : Option (Nat × String × Envelope) :=
  ((String.fromUTF8? ⟨bytes.toArray⟩).bind fun text => Json.rawParse text.toList).bind readEnvelope

/-- `read_frame`: the message, and the bytes after it. -/
def readFrame (reader : List UInt8) : Except FrameError ((String × Envelope) × List UInt8) :=
  if reader.length < 4 then .error .io
  else if maxFrameBytes < fromBeBytes (reader.take 4) then .error (.tooLarge (fromBeBytes (reader.take 4)))
  else if (reader.drop 4).length < fromBeBytes (reader.take 4) then .error .io
  else
    match decodeEnvelope ((reader.drop 4).take (fromBeBytes (reader.take 4))) with
    | none => .error .json
    | some (version, message) =>
      if version ≠ protocolVersion then .error (.protocolVersion version)
      else .ok (message, (reader.drop 4).drop (fromBeBytes (reader.take 4)))

/-- A reader that reads so many frames at most, and stops at the first error. -/
def readFrames : Nat → List UInt8 → List (String × Envelope) × Option FrameError
  | 0, _ => ([], none)
  | n + 1, reader =>
    match readFrame reader with
    | .error e => ([], some e)
    | .ok (message, rest) => (message :: (readFrames n rest).1, (readFrames n rest).2)

end Rho
