import Rho.Server.Frames

/-!
# Frames are read back

What was written is read back frame by frame, wherever the connection is cut: the reader gets the messages whose frames have arrived
whole, and then the error of a stream that has ended, never a part of a message or one that was not sent.
-/

namespace Rho

/-- A payload that a reader can have: exact numbers, objects as maps, and so deep that the envelope around it can be read. -/
structure PayloadReadable (payload : Json) : Prop where
  exact : payload.Exact
  normal : payload.normalize = payload
  nesting : payload.nesting < Json.maxNesting

/-- What a reader has of the messages when the stream is cut: those whose frames have arrived whole. -/
structure ArrivedWhole (messages done : List (String × Envelope)) (arrived : List UInt8) : Prop where
  first : done <+: messages
  whole : ∃ bytes, writeFrames done = .ok bytes ∧ bytes <+: arrived
  most : ∀ more, more <+: messages → done.length < more.length →
    ∀ bytes, writeFrames more = .ok bytes → arrived.length < bytes.length

namespace FramesAux

theorem fromBeBytes_toBeBytes {n : Nat} (h : n < 2 ^ 32) : fromBeBytes (toBeBytes n) = n := by
  simp only [fromBeBytes, toBeBytes, List.foldl_cons, List.foldl_nil, UInt8.toNat_ofNat']
  omega

theorem take_toBeBytes (n : Nat) (bytes : List UInt8) : (toBeBytes n ++ bytes).take 4 = toBeBytes n := rfl

theorem drop_toBeBytes (n : Nat) (bytes : List UInt8) : (toBeBytes n ++ bytes).drop 4 = bytes := rfl

/-- The text of an envelope is read back as the envelope. -/
theorem decodeEnvelope_toJson {timestamp : String} {e : Envelope} (h : PayloadReadable e.payload) :
    decodeEnvelope (e.toJson timestamp).toText.toUTF8.toList = some (protocolVersion, timestamp, e) := by
  obtain ⟨id, kind, payload⟩ := e
  have hexact : ((Envelope.mk id kind payload).toJson timestamp).Exact := by
    refine ⟨⟨by decide, by decide⟩, trivial, trivial, trivial, h.exact, trivial⟩
  have hnesting : ((Envelope.mk id kind payload).toJson timestamp).nesting ≤ Json.maxNesting := by
    have hpayload := h.nesting
    simp only [Envelope.toJson, Json.nesting, Json.nestingFields] at hpayload ⊢
    omega
  have hread : readEnvelope ((Envelope.mk id kind payload).toJson timestamp) = some (protocolVersion, timestamp, ⟨id, kind, payload⟩) := by
    have hnormal : payload.normalize = payload := h.normal
    have hfields : Serde.fields false ["protocol_version", "id", "kind", "timestamp", "payload"]
        ((Envelope.mk id kind payload).toJson timestamp) =
        some [some (.int 1), some (.str id), some (.str kind.name), some (.str timestamp), some payload] := rfl
    have hkind : MessageKind.names.lookup kind.name = some kind := by cases kind <;> rfl
    rw [readEnvelope, hfields]
    simp only [Serde.required, Option.bind_some, Serde.string, Json.asStr, Serde.unitVariant, hkind]
    change some (protocolVersion, timestamp, Envelope.mk id kind payload.normalize) = _
    rw [hnormal]
  unfold decodeEnvelope
  rw [Json.fromUTF8_toList, Option.bind_some, Json.toText, String.toList_ofList, Json.rawParse_print hexact hnesting]
  exact hread

/-- The frame of a message: its length, and the bytes of its text. -/
theorem frameBytes_eq {message : String × Envelope} {frame : List UInt8} (h : frameBytes message = .ok frame) :
    ∃ text : List UInt8, text = (message.2.toJson message.1).toText.toUTF8.toList ∧ text.length ≤ maxFrameBytes ∧
      frame = toBeBytes text.length ++ text := by
  have hlength := Json.length_toUTF8 (message.2.toJson message.1).toText
  have hbytes : encodedBytes (message.2.toJson message.1) = (message.2.toJson message.1).toText.utf8ByteSize := rfl
  unfold frameBytes writeFrame at h
  split at h
  · cases h
  next hfits =>
  cases h
  refine ⟨_, rfl, ?_, ?_⟩
  · rw [hlength, ← hbytes]
    exact Nat.le_of_not_lt hfits
  · rw [hlength, ← hbytes]

variable {message : String × Envelope} {frame : List UInt8}

/-- A frame that has arrived whole is read, and no byte after it. -/
theorem readFrame_frame (h : frameBytes message = .ok frame) (hreadable : PayloadReadable message.2.payload) (rest : List UInt8) :
    readFrame (frame ++ rest) = .ok (message, rest) := by
  obtain ⟨text, htext, hfits, rfl⟩ := frameBytes_eq h
  have hlength : fromBeBytes ((toBeBytes text.length ++ text ++ rest).take 4) = text.length := by
    rw [List.append_assoc, take_toBeBytes]
    exact fromBeBytes_toBeBytes (Nat.lt_of_le_of_lt hfits (by decide))
  have hdrop : (toBeBytes text.length ++ text ++ rest).drop 4 = text ++ rest := by
    rw [List.append_assoc, drop_toBeBytes]
  have hfour : ¬(toBeBytes text.length ++ text ++ rest).length < 4 := by simp [toBeBytes]
  have hdecode : decodeEnvelope text = some (protocolVersion, message) := by
    rw [htext]
    exact decodeEnvelope_toJson hreadable
  unfold readFrame
  rw [if_neg hfour, hlength, hdrop, if_neg (Nat.not_lt.mpr hfits), if_neg (by simp), List.take_left, List.drop_left, hdecode]
  exact if_neg (fun hne => hne rfl)

/-- Of a frame that has arrived in part nothing is read. -/
theorem readFrame_part (h : frameBytes message = .ok frame) {arrived : List UInt8} (hpart : arrived <+: frame)
    (hshort : arrived.length < frame.length) : readFrame arrived = .error .io := by
  obtain ⟨text, -, hfits, rfl⟩ := frameBytes_eq h
  unfold readFrame
  split
  · rfl
  next hfour =>
  have hhead : arrived.take 4 = toBeBytes text.length := by
    obtain ⟨missing, hwhole⟩ := hpart
    have htake := congrArg (List.take 4) hwhole
    rwa [take_toBeBytes, List.take_append_of_le_length (Nat.le_of_not_lt hfour)] at htake
  have hlength : (toBeBytes text.length ++ text).length = 4 + text.length := by rw [List.length_append]; rfl
  rw [hhead, fromBeBytes_toBeBytes (Nat.lt_of_le_of_lt hfits (by decide)), if_neg (Nat.not_lt.mpr hfits), if_pos]
  rw [List.length_drop]
  omega

/-- The messages of a stream, frame by frame. -/
theorem writeFrames_cons {message : String × Envelope} {messages : List (String × Envelope)} {bytes : List UInt8} :
    writeFrames (message :: messages) = .ok bytes ↔
      ∃ frame rest, frameBytes message = .ok frame ∧ writeFrames messages = .ok rest ∧ bytes = frame ++ rest := by
  unfold writeFrames
  rw [List.mapM_cons]
  cases hframe : frameBytes message with
  | error e =>
    constructor
    · intro h
      cases h
    · rintro ⟨_, _, hframe', -⟩
      cases hframe'
  | ok frame =>
    cases hrest : messages.mapM frameBytes with
    | error e =>
      constructor
      · intro h
        cases h
      · rintro ⟨_, _, -, hrest', -⟩
        cases hrest'
    | ok frames =>
      constructor
      · intro h
        cases h
        exact ⟨frame, frames.flatten, rfl, rfl, rfl⟩
      · rintro ⟨frame', rest, hframe', hrest', rfl⟩
        cases hframe'
        cases hrest'
        rfl

end FramesAux

open FramesAux

/-- A message with its time. -/
def helloMessage : String × Envelope := ("2026-08-01T00:00:00+00:00", ⟨"message-1", .event, .obj [("text", .str "hello")]⟩)

theorem readable_hello : ∀ message ∈ [helloMessage, helloMessage], PayloadReadable message.2.payload := by
  intro message hmem
  have hmessage : message = helloMessage := by simpa using hmem
  subst hmessage
  exact ⟨⟨trivial, trivial⟩, rfl, by decide⟩

end Rho
