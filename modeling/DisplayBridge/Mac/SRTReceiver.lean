import DisplayBridge.Mac.ParameterSetCache

/-!
# The receiver

`recvLoop` of `SRTReceiver.swift`, and what `ViewController.swift` does when it is
told of a frame: it counts the frame and hands it to the decoder, on the same
thread. A message is parsed here as the loop parses it – the packet header, then,
for a video frame, the video header in the slice behind it, and what is left is the
frame (`DisplayBridge.videoFrame`). Every other message is dropped.

The receiver is a step machine (`DisplayBridge.receiverStep`). It connects, receives
messages, and loses the connection; the controller is told of this, but all it does
is print. The decoder is torn down when the application shuts down, which may happen
at any time.
-/

namespace DisplayBridge

open Swift

/-- `maxBufSize`. -/
def maxBufSize : ℕ := 8 * 1024 * 1024

/-- What `recvLoop` makes of a message: the header and the bytes of a video frame,
if it is one. -/
def videoFrame (message : List UInt8) : Traps (Option (DBVideoHeader × Data)) :=
  if message.length < DBPacketHeader.size then return none
  else do
    let rawData := Data.ofBytes message
    match ← DBPacketHeader.init rawData with
    | none => return none
    | some pktHeader =>
      if pktHeader.type = dbPktVideoFrame then
        if message.length < DBPacketHeader.size + DBVideoHeader.size then return none
        else
          -- a slice, with the indices of the message
          let videoData := rawData.dropFirst DBPacketHeader.size
          match ← DBVideoHeader.init videoData with
          | none => return none
          | some vidHeader =>
            let hevcData := rawData.dropFirst (DBPacketHeader.size + DBVideoHeader.size)
            return some (vidHeader, Data.ofBytes hevcData.bytes)
      else return none

/-- What an observer of the receiver writes down. -/
inductive ReceiverEntry
  | connected
  | disconnected
  | decoder (e : DecoderEntry)
deriving DecidableEq, Repr

/-- The receiver, the controller's count, the decoder, and what has happened so
far. -/
structure Receiver where
  connected : Bool
  framesReceived : UInt64
  decoder : HEVCDecoder
  log : List ReceiverEntry
deriving DecidableEq, Repr

/-- Before the first connection. -/
def Receiver.init : Receiver := ⟨false, 0, .init, []⟩

/-- A message on its way through `recvLoop`, the controller and the decoder. -/
def receive (r : Receiver) (message : List UInt8) (vt : VideoToolbox) : Traps Receiver := do
  match ← videoFrame message with
  | none => return r
  | some (header, frameData) =>
    let framesReceived ← addUInt64 r.framesReceived 1
    let nalus ← parseAnnexB frameData
    let (d, sub) ← decode r.decoder frameData header vt
    return { r with
      framesReceived := framesReceived
      decoder := d
      log := r.log ++ (decodeEntries r.decoder nalus header vt sub).map .decoder }

/-- What can happen to the receiver. -/
inductive ReceiverEvent
  | connect
  | message (bytes : List UInt8) (vt : VideoToolbox)
  | connectionLost
  | shutdown
deriving DecidableEq

/-- One step. A message that traps is none: nothing happens after it. -/
def receiverStep (r : Receiver) : ReceiverEvent → Option Receiver
  | .connect =>
    if r.connected then none else some { r with connected := true, log := r.log ++ [.connected] }
  | .message bytes vt =>
    if r.connected = true ∧ bytes.length ≤ maxBufSize then receive r bytes vt else none
  | .connectionLost =>
    -- the controller only prints this; the decoder is not told
    if r.connected then some { r with connected := false, log := r.log ++ [.disconnected] }
    else none
  | .shutdown =>
    some { r with decoder := invalidate r.decoder, log := r.log ++ [.decoder .invalidated] }

/-! ### One message -/

/-- The video frame a message is, byte by byte. -/
def videoFrameOf (message : List UInt8) : Option (DBVideoHeader × Data) :=
  if DBPacketHeader.size + DBVideoHeader.size ≤ message.length ∧
      readByte message 0 = dbPktVideoFrame then
    some (DBVideoHeader.ofBytes (message.drop DBPacketHeader.size),
      Data.ofBytes (message.drop (DBPacketHeader.size + DBVideoHeader.size)))
  else none

/-- **Parsing a message does not trap.** -/
theorem videoFrame_eq (message : List UInt8) :
    videoFrame message = some (videoFrameOf message) := by
  have hcount : (Data.ofBytes message).count = message.length := rfl
  rw [videoFrame, videoFrameOf]
  by_cases hshort : message.length < DBPacketHeader.size
  · have hno : ¬ (DBPacketHeader.size + DBVideoHeader.size ≤ message.length ∧
        readByte message 0 = dbPktVideoFrame) := fun h => by omega
    rw [if_pos hshort, if_neg hno]
    rfl
  · have hpacket : DBPacketHeader.init (Data.ofBytes message) =
        some (some (DBPacketHeader.ofBytes message)) := by
      rw [DBPacketHeader.init_eq, hcount, if_neg hshort]
      rfl
    rw [if_neg hshort]
    simp only [hpacket, Option.bind_eq_bind, Option.bind_some]
    by_cases htype : readByte message 0 = dbPktVideoFrame
    · have htype' : (DBPacketHeader.ofBytes message).type = dbPktVideoFrame := htype
      rw [if_pos htype']
      by_cases hlong : DBPacketHeader.size + DBVideoHeader.size ≤ message.length
      · have henough : ¬ ((Data.ofBytes message).dropFirst DBPacketHeader.size).count <
            DBVideoHeader.size := by
          rw [Data.count_dropFirst, hcount]
          omega
        have hvideo : DBVideoHeader.init ((Data.ofBytes message).dropFirst DBPacketHeader.size) =
            some (some (DBVideoHeader.ofBytes (message.drop DBPacketHeader.size))) := by
          rw [DBVideoHeader.init_eq, if_neg henough]
          rfl
        rw [if_neg (not_lt.2 hlong), if_pos ⟨hlong, htype⟩]
        simp only [hvideo, Option.bind_some]
        rfl
      · have hno : ¬ (DBPacketHeader.size + DBVideoHeader.size ≤ message.length ∧
            readByte message 0 = dbPktVideoFrame) := fun h => hlong h.1
        rw [if_pos (not_le.1 hlong), if_neg hno]
        rfl
    · have htype' : (DBPacketHeader.ofBytes message).type ≠ dbPktVideoFrame := htype
      have hno : ¬ (DBPacketHeader.size + DBVideoHeader.size ≤ message.length ∧
          readByte message 0 = dbPktVideoFrame) := fun h => htype h.2
      rw [if_neg htype', if_neg hno]
      rfl

/-- A frame is shorter than its message. -/
theorem count_of_videoFrameOf {message : List UInt8} {header : DBVideoHeader} {frameData : Data}
    (h : videoFrameOf message = some (header, frameData)) : frameData.count ≤ message.length := by
  rw [videoFrameOf] at h
  split at h
  · cases h
    change (message.drop _).length ≤ _
    rw [List.length_drop]
    exact Nat.sub_le _ _
  · cases h

/-- **What a message does**, if nothing traps: nothing, or the decoder decodes a
frame. -/
theorem receive_eq_some {r r' : Receiver} {message : List UInt8} {vt : VideoToolbox}
    (h : receive r message vt = some r') :
    r' = r ∨ ∃ header frameData framesReceived nalus d sub,
      parseAnnexB frameData = some nalus ∧ decode r.decoder frameData header vt = some (d, sub) ∧
        r' = { r with
          framesReceived := framesReceived
          decoder := d
          log := r.log ++ (decodeEntries r.decoder nalus header vt sub).map .decoder } := by
  rw [receive, videoFrame_eq, Option.bind_eq_bind, Option.bind_some] at h
  cases hframe : videoFrameOf message with
  | none =>
    rw [hframe] at h
    exact .inl (Option.some.inj h).symm
  | some frame =>
    obtain ⟨header, frameData⟩ := frame
    rw [hframe] at h
    obtain ⟨framesReceived, -, h⟩ := Option.bind_eq_some_iff.1 h
    obtain ⟨nalus, hparse, h⟩ := Option.bind_eq_some_iff.1 h
    obtain ⟨⟨d, sub⟩, hdecode, h⟩ := Option.bind_eq_some_iff.1 h
    exact .inr ⟨header, frameData, framesReceived, nalus, d, sub, hparse, hdecode,
      (Option.some.inj h).symm⟩

end DisplayBridge
