import DisplayBridge.Mac.SRTReceiver
import DisplayBridge.Ubuntu.Streamer
import DisplayBridge.WireFormat

/-!
# From the encoder of Ubuntu to the decoder of the Mac

A frame travels as one message: `db_streamer_send` puts two headers in front of it,
SRT carries the message as a whole, and `recvLoop` takes the headers off again. What
SRT guarantees in message mode is in `DisplayBridge.srtRecvmsg`: the receiver gets each
message once and in order, cut off at the length of its buffer.

A frame arrives whole (`DisplayBridge.ArrivesWhole`) exactly if it fits the buffer
*together with its headers* (`DisplayBridge.arrivesWhole_iff`). The sender checks the
frame alone against the same eight megabytes, so the largest frames it accepts lose up to
32 bytes at their end, and nobody notices: the size in the packet header is not looked at
(`DisplayBridge.not_arrivesWhole_maxFrameSize`).

Smaller frames arrive whole over any session, each of them once, in order, and with
nothing between them: failed calls leave nothing behind, and heartbeats are dropped
(`DisplayBridge.delivered_session`).
-/

namespace DisplayBridge

open Swift

/-! ### What is promised -/

/-- `srt_recvmsg` into the buffer of `recvLoop`. -/
def srtRecvmsg (message : List UInt8) : List UInt8 := message.take maxBufSize

/-- The frames `recvLoop` delivers to its delegate, of some messages. -/
def delivered : List (List UInt8) → Traps (List (DBVideoHeader × Data))
  | [] => return []
  | message :: rest => do
    let frame ← videoFrame (srtRecvmsg message)
    let frames ← delivered rest
    return frame.toList ++ frames

/-- **A frame arrives whole**: of what was sent, exactly one frame is delivered, with the
time stamp, the keyframe bit and the bytes of the frame. -/
def ArrivesWhole (sent : List (List UInt8)) (data : List UInt8) (size : UInt32) (pts : UInt64)
    (isKeyframe : Int32) : Prop :=
  ∃ header frameData, delivered sent = some [(header, frameData)] ∧ header.pts = pts ∧
    header.keyframe = (if isKeyframe ≠ 0 then 1 else 0) ∧ frameData.bytes = data.take size.toNat

/-- Nothing traps on the way, and each message is looked at alone. -/
theorem delivered_eq (sent : List (List UInt8)) :
    delivered sent = some (sent.filterMap fun message => videoFrameOf (srtRecvmsg message)) := by
  induction sent with
  | nil => rfl
  | cons message sent ih =>
    rw [delivered, videoFrame_eq, ih, List.filterMap_cons]
    cases videoFrameOf (srtRecvmsg message) <;> rfl

theorem delivered_append {a b : List (List UInt8)} {frames frames' : List (DBVideoHeader × Data)}
    (ha : delivered a = some frames) (hb : delivered b = some frames') :
    delivered (a ++ b) = some (frames ++ frames') := by
  rw [delivered_eq] at ha hb ⊢
  rw [List.filterMap_append, Option.some.inj ha, Option.some.inj hb]

/-! ### One message -/

/-- Both headers together. -/
def headersSize : ℕ := DbPacketHeaderT.size + DbVideoHeaderT.size

/-- **A frame on its way**: the headers arrive, and of the frame what fits behind them. -/
theorem videoFrame_srtRecvmsg (h : DbPacketHeaderT) (v : DbVideoHeaderT) (frame : List UInt8)
    (htype : h.type = dbPktVideoFrame) :
    videoFrame (srtRecvmsg (h.bytes ++ v.bytes ++ frame)) =
      some (some (v.toSwift, Data.ofBytes (frame.take (maxBufSize - headersSize)))) := by
  have hlength : (h.bytes ++ v.bytes).length = headersSize := by
    rw [List.length_append, h.length_bytes, v.length_bytes]
    rfl
  have hfits : (h.bytes ++ v.bytes).length ≤ maxBufSize := hlength.trans_le (by decide)
  have htake : srtRecvmsg (h.bytes ++ v.bytes ++ frame) =
      h.bytes ++ (v.bytes ++ frame.take (maxBufSize - headersSize)) := by
    rw [srtRecvmsg, List.take_append, List.take_of_length_le hfits, hlength, List.append_assoc]
  generalize frame.take (maxBufSize - headersSize) = arrived at htake ⊢
  have hread : readByte (h.bytes ++ (v.bytes ++ arrived)) 0 = dbPktVideoFrame :=
    (congrArg DbPacketHeaderT.type (h.read_bytes (v.bytes ++ arrived))).trans htype
  have hlong : DBPacketHeader.size + DBVideoHeader.size ≤
      (h.bytes ++ (v.bytes ++ arrived)).length := by
    rw [← List.append_assoc, List.length_append, hlength]
    exact Nat.le_add_right _ _
  have hdrop : (h.bytes ++ (v.bytes ++ arrived)).drop DBPacketHeader.size = v.bytes ++ arrived :=
    List.drop_left' h.length_bytes
  have hdrop' : (h.bytes ++ (v.bytes ++ arrived)).drop (DBPacketHeader.size + DBVideoHeader.size) =
      arrived := by
    rw [← List.append_assoc]
    exact List.drop_left' hlength
  rw [htake, videoFrame_eq, videoFrameOf, if_pos ⟨hlong, hread⟩, hdrop, hdrop',
    DBVideoHeader.ofBytes_bytes]

/-- A heartbeat on its way is no frame. -/
theorem videoFrame_srtRecvmsg_heartbeat (h : DbPacketHeaderT) :
    videoFrame (srtRecvmsg h.bytes) = some none := by
  have hfits : h.bytes.length ≤ maxBufSize := h.length_bytes.trans_le (by decide)
  have hshort : ¬ (DBPacketHeader.size + DBVideoHeader.size ≤ h.bytes.length ∧
      readByte h.bytes 0 = dbPktVideoFrame) := fun hlong =>
    absurd (hlong.1.trans_eq h.length_bytes) (by decide)
  rw [srtRecvmsg, List.take_of_length_le hfits, videoFrame_eq, videoFrameOf, if_neg hshort]

/-- What arrives of a frame `db_streamer_send` has accepted. -/
theorem delivered_dbStreamerSend {s : DbStreamer} {now : UInt64} {data : List UInt8}
    {size : UInt32} {pts : UInt64} {isKeyframe : Int32} {srt : SrtAnswers}
    (hret : (dbStreamerSend s now data size pts isKeyframe srt).ret = 0) :
    delivered (messages (dbStreamerSend s now data size pts isKeyframe srt).calls) =
      some [((videoHeader pts isKeyframe).toSwift,
        Data.ofBytes ((data.take size.toNat).take (maxBufSize - headersSize)))] := by
  rw [messages_dbStreamerSend, if_pos hret, delivered, videoFrame_srtRecvmsg _ _ _ rfl]
  rfl

/-- A frame that arrives whole fits the buffer with its headers. -/
theorem ArrivesWhole.fits {s : DbStreamer} {now : UInt64} {data : List UInt8} {size : UInt32}
    {pts : UInt64} {isKeyframe : Int32} {srt : SrtAnswers}
    (h : ArrivesWhole (messages (dbStreamerSend s now data size pts isKeyframe srt).calls) data
      size pts isKeyframe)
    (hdata : size.toNat ≤ data.length)
    (hret : (dbStreamerSend s now data size pts isKeyframe srt).ret = 0) :
    size.toNat + headersSize ≤ maxBufSize := by
  obtain ⟨header, frameData, hdelivered, -, -, hbytes⟩ := h
  rw [delivered_dbStreamerSend hret] at hdelivered
  obtain ⟨-, rfl⟩ := Prod.mk.inj (List.singleton_inj.1 (Option.some.inj hdelivered))
  have hlength := congrArg List.length hbytes
  rw [Data.ofBytes, List.length_take, List.length_take_of_le hdata] at hlength
  have hsize : size.toNat ≤ maxBufSize - headersSize := hlength ▸ Nat.min_le_left _ _
  have hpos : headersSize ≤ maxBufSize := by decide
  omega

/-- **A frame arrives whole exactly if it fits the buffer with its headers.** -/
theorem arrivesWhole_iff {s : DbStreamer} {now : UInt64} {data : List UInt8} {size : UInt32}
    {pts : UInt64} {isKeyframe : Int32} {srt : SrtAnswers} (hdata : size.toNat ≤ data.length)
    (hret : (dbStreamerSend s now data size pts isKeyframe srt).ret = 0) :
    ArrivesWhole (messages (dbStreamerSend s now data size pts isKeyframe srt).calls) data size pts
      isKeyframe ↔ size.toNat + headersSize ≤ maxBufSize := by
  constructor
  · exact fun h => h.fits hdata hret
  · intro hfits
    have hlength : (data.take size.toNat).length ≤ maxBufSize - headersSize := by
      rw [List.length_take_of_le hdata]
      omega
    exact ⟨_, _, delivered_dbStreamerSend hret, rfl, rfl, List.take_of_length_le hlength⟩

/-- A keyframe of three bytes, on a connection that takes it. -/
theorem arrivesWhole_three_bytes :
    ArrivesWhole (messages (dbStreamerSend ⟨7, true, 0, 1000⟩ 1500 [1, 2, 3] 3 40 1
      ⟨35, .connected⟩).calls) [1, 2, 3] 3 40 1 :=
  (arrivesWhole_iff (by decide) (by decide)).2 (by decide)

/-- **The largest frame that is accepted does not arrive whole**: the message is 32 bytes
longer than the buffer. -/
theorem not_arrivesWhole_maxFrameSize :
    let data := List.replicate maxFrameSize (1 : UInt8)
    let returned := dbStreamerSend ⟨7, true, 0, 1000⟩ 1500 data (UInt32.ofNat maxFrameSize) 40 1
      ⟨8388640, .connected⟩
    returned.ret = 0 ∧ ¬ ArrivesWhole (messages returned.calls) data (UInt32.ofNat maxFrameSize)
      40 1 := by
  intro data returned
  have hsize : (UInt32.ofNat maxFrameSize).toNat = maxFrameSize := rfl
  have hret : returned.ret = 0 := ret_dbStreamerSend _ _ _ (by decide) hsize.le (by decide)
  refine ⟨hret, fun h => ?_⟩
  have hdata : (UInt32.ofNat maxFrameSize).toNat ≤ data.length := by
    rw [List.length_replicate]
    exact hsize.le
  exact absurd (h.fits hdata hret) (by decide)

/-! ### A session -/

/-- The messages SRT carries in a session. -/
def sessionMessages : DbStreamer → List (StreamerCall × UInt64 × SrtAnswers) → List (List UInt8)
  | _, [] => []
  | s, call :: calls =>
    messages (s.call call).calls ++ sessionMessages (s.call call).streamer calls

/-- The frame the streamer accepts in a call, if it accepts one. -/
def DbStreamer.acceptedFrame (s : DbStreamer) (call : StreamerCall × UInt64 × SrtAnswers) :
    Option (DBVideoHeader × Data) :=
  match call.1 with
  | .send data size pts isKeyframe =>
    if (s.call call).ret = 0 then
      some ((videoHeader pts isKeyframe).toSwift, Data.ofBytes (data.take size.toNat))
    else none
  | .sendHeartbeat => none

/-- The frames it accepts in a session. -/
def acceptedFrames :
    DbStreamer → List (StreamerCall × UInt64 × SrtAnswers) → List (DBVideoHeader × Data)
  | _, [] => []
  | s, call :: calls =>
    (s.acceptedFrame call).toList ++ acceptedFrames (s.call call).streamer calls

/-- The frame of a call fits the buffer with its headers. -/
def StreamerCall.Fits : StreamerCall → Prop
  | .send data size _ _ => size.toNat ≤ data.length ∧ size.toNat + headersSize ≤ maxBufSize
  | .sendHeartbeat => True

/-- One call of a session. -/
theorem delivered_call (s : DbStreamer) {call : StreamerCall × UInt64 × SrtAnswers}
    (hfits : call.1.Fits) :
    delivered (messages (s.call call).calls) = some (s.acceptedFrame call).toList := by
  obtain ⟨call, now, srt⟩ := call
  cases call with
  | send data size pts isKeyframe =>
    obtain ⟨hdata, hsize⟩ := hfits
    by_cases hret : (dbStreamerSend s now data size pts isKeyframe srt).ret = 0
    · have hlength : (data.take size.toNat).length ≤ maxBufSize - headersSize := by
        rw [List.length_take_of_le hdata]
        omega
      have hframe := delivered_dbStreamerSend hret
      rw [List.take_of_length_le hlength] at hframe
      have haccepted : s.acceptedFrame (.send data size pts isKeyframe, now, srt) =
          some ((videoHeader pts isKeyframe).toSwift, Data.ofBytes (data.take size.toNat)) :=
        if_pos hret
      rw [haccepted]
      exact hframe
    · have hnone : s.acceptedFrame (.send data size pts isKeyframe, now, srt) = none :=
        if_neg hret
      have hmessages := messages_dbStreamerSend s now data size pts isKeyframe srt
      rw [if_neg hret] at hmessages
      rw [hnone]
      exact congrArg delivered hmessages
  | sendHeartbeat =>
    have hmessages := messages_dbStreamerSendHeartbeat s now srt
    refine (congrArg delivered hmessages).trans ?_
    split
    · rw [delivered, videoFrame_srtRecvmsg_heartbeat]
      rfl
    · rfl

/-- **A session is delivered**: the frames that are accepted, each once and in order. -/
theorem delivered_session (s : DbStreamer) (calls : List (StreamerCall × UInt64 × SrtAnswers))
    (hfits : ∀ call ∈ calls, call.1.Fits) :
    delivered (sessionMessages s calls) = some (acceptedFrames s calls) := by
  induction calls generalizing s with
  | nil => rfl
  | cons call calls ih =>
    exact delivered_append (delivered_call s (hfits call List.mem_cons_self))
      (ih _ fun call hcall => hfits call (List.mem_cons_of_mem _ hcall))

end DisplayBridge
