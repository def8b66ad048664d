import DisplayBridge.Protocol

/-!
# The streamer of Ubuntu

`streamer.c`: a frame becomes one SRT message, made of the two headers and the bit
stream, and a heartbeat becomes a message of a packet header alone. The library is
outside; what it answers comes with each call (`DisplayBridge.SrtAnswers`), and what it
is asked is written down (`DisplayBridge.SrtCall`). Of the clock only the reading
matters that goes into the packet header.

Both functions end in the same way, in `DisplayBridge.sendMessage`: if the message is not
taken, the state of the socket says whether the connection is lost.
-/

namespace DisplayBridge

open Swift

/-- `SRTSOCKET`. -/
abbrev SrtSocket := Int32

/-- `SRT_INVALID_SOCK`. -/
def srtInvalidSock : SrtSocket := -1

/-- `SRT_SOCKSTATUS`. -/
inductive SrtSockStatus
  | init
  | opened
  | listening
  | connecting
  | connected
  | broken
  | closing
  | closed
  | nonexist
deriving DecidableEq, Repr

/-- A call of the library, with its result where that is looked at. -/
inductive SrtCall
  | sendmsg2 (sock : SrtSocket) (message : List UInt8) (sent : Int32)
  | getsockstate (sock : SrtSocket) (state : SrtSockStatus)
  | close (sock : SrtSocket)
deriving DecidableEq, Repr

/-- What the library answers while a message is sent. -/
structure SrtAnswers where
  /-- The result of `srt_sendmsg2`. -/
  sent : Int32
  /-- The result of `srt_getsockstate`, if it is asked. -/
  state : SrtSockStatus
deriving DecidableEq, Repr

/-- The fields of `struct db_streamer` a connection uses. -/
structure DbStreamer where
  clientSock : SrtSocket
  connected : Bool
  seq : UInt16
  startTimeUs : UInt64
deriving DecidableEq, Repr

/-- What a function returns, the streamer after it, and the calls it has made. -/
structure Returned where
  ret : Int32
  streamer : DbStreamer
  calls : List SrtCall
deriving DecidableEq, Repr

/-- `MAX_FRAME_SIZE`. -/
def maxFrameSize : ℕ := 8 * 1024 * 1024

/-- The time stamp of a packet, at the time `now`: the microseconds since the start of the
connection, masked. -/
def DbStreamer.timestamp (s : DbStreamer) (now : UInt64) : UInt32 :=
  ((now - s.startTimeUs) &&& 0xFFFFFFFF).toUInt32

/-- The guard at the start of both functions. -/
def DbStreamer.Connected (s : DbStreamer) : Prop :=
  s.connected = true ∧ s.clientSock ≠ srtInvalidSock

instance (s : DbStreamer) : Decidable s.Connected :=
  inferInstanceAs (Decidable (s.connected = true ∧ s.clientSock ≠ srtInvalidSock))

/-- The end of both functions: the message is handed to the library, and if it does not
take it, the socket is asked. -/
def sendMessage (s : DbStreamer) (message : List UInt8) (srt : SrtAnswers) : Returned :=
  let sending := SrtCall.sendmsg2 s.clientSock message srt.sent
  if srt.sent < 0 then
    let asking := SrtCall.getsockstate s.clientSock srt.state
    if srt.state = .broken ∨ srt.state = .closed ∨ srt.state = .nonexist then
      ⟨-1, { s with connected := false, clientSock := srtInvalidSock },
        [sending, asking, .close s.clientSock]⟩
    else ⟨-1, s, [sending, asking]⟩
  else ⟨0, s, [sending]⟩

/-- The packet header of a frame. -/
def videoPacketHeader (s : DbStreamer) (now : UInt64) (size : UInt32) : DbPacketHeaderT :=
  ⟨dbPktVideoFrame, 0, s.seq, s.timestamp now, UInt32.ofNat DbVideoHeaderT.size + size, 0⟩

/-- The video header of a frame. -/
def videoHeader (pts : UInt64) (isKeyframe : Int32) : DbVideoHeaderT where
  width := UInt16.ofInt dbTargetWidth
  height := UInt16.ofInt dbTargetHeight
  codec := dbCodecHevc
  keyframe := if isKeyframe ≠ 0 then 1 else 0
  reserved := 0
  pts := pts

/-- `db_streamer_send`, at the time `now`: a frame is the first `size` bytes of `data`. -/
def dbStreamerSend (s : DbStreamer) (now : UInt64) (data : List UInt8) (size : UInt32)
    (pts : UInt64) (isKeyframe : Int32) (srt : SrtAnswers) : Returned :=
  if ¬ s.Connected then ⟨-1, s, []⟩
  else if maxFrameSize < size.toNat then ⟨-1, s, []⟩
  else
    sendMessage { s with seq := s.seq + 1 }
      ((videoPacketHeader s now size).bytes ++ (videoHeader pts isKeyframe).bytes ++
        data.take size.toNat) srt

/-- `db_streamer_send_heartbeat`, at the time `now`. -/
def dbStreamerSendHeartbeat (s : DbStreamer) (now : UInt64) (srt : SrtAnswers) : Returned :=
  if ¬ s.Connected then ⟨-1, s, []⟩
  else
    sendMessage { s with seq := s.seq + 1 }
      (DbPacketHeaderT.bytes ⟨dbPktHeartbeat, 0, s.seq, s.timestamp now, 0, 0⟩) srt

/-- A call of the main loop while it streams. -/
inductive StreamerCall
  | send (data : List UInt8) (size : UInt32) (pts : UInt64) (isKeyframe : Int32)
  | sendHeartbeat

/-- What a call returns, with the clock and the answers of the library. -/
def DbStreamer.call (s : DbStreamer) : StreamerCall × UInt64 × SrtAnswers → Returned
  | (.send data size pts isKeyframe, now, srt) =>
    dbStreamerSend s now data size pts isKeyframe srt
  | (.sendHeartbeat, now, srt) => dbStreamerSendHeartbeat s now srt

/-- The messages the library has taken. -/
def messages (calls : List SrtCall) : List (List UInt8) :=
  calls.filterMap fun
    | .sendmsg2 _ message sent => if sent < 0 then none else some message
    | _ => none

/-- **What a call does**: nothing, or it hands one message to the library. -/
theorem DbStreamer.call_cases (s : DbStreamer) (call : StreamerCall) (now : UInt64)
    (srt : SrtAnswers) :
    s.call (call, now, srt) = ⟨-1, s, []⟩ ∨ s.Connected ∧ ∃ message,
      s.call (call, now, srt) = sendMessage { s with seq := s.seq + 1 } message srt := by
  by_cases hconn : s.Connected
  · cases call with
    | send data size pts isKeyframe =>
      rw [DbStreamer.call, dbStreamerSend, if_neg (not_not.2 hconn)]
      by_cases hsize : maxFrameSize < size.toNat
      · exact Or.inl (if_pos hsize)
      · exact Or.inr ⟨hconn, _, if_neg hsize⟩
    | sendHeartbeat =>
      rw [DbStreamer.call, dbStreamerSendHeartbeat, if_neg (not_not.2 hconn)]
      exact Or.inr ⟨hconn, _, rfl⟩
  · refine Or.inl ?_
    cases call with
    | send data size pts isKeyframe => exact if_pos hconn
    | sendHeartbeat => exact if_pos hconn

/-! ### What is taken -/

/-- **A message is taken exactly if the function returns zero.** -/
theorem messages_sendMessage (s : DbStreamer) (message : List UInt8) (srt : SrtAnswers) :
    messages (sendMessage s message srt).calls =
      if (sendMessage s message srt).ret = 0 then [message] else [] := by
  rw [sendMessage]
  by_cases hsent : srt.sent < 0
  · have hfailed : (-1 : Int32) ≠ 0 := by decide
    by_cases hlost : srt.state = .broken ∨ srt.state = .closed ∨ srt.state = .nonexist
    · simp only [if_pos hsent, if_pos hlost, messages, List.filterMap_cons, List.filterMap_nil,
        if_neg hfailed]
    · simp only [if_pos hsent, if_neg hlost, messages, List.filterMap_cons, List.filterMap_nil,
        if_neg hfailed]
  · simp only [if_neg hsent, messages, List.filterMap_cons, List.filterMap_nil, if_true]

section Send

variable (s : DbStreamer) (now : UInt64) (data : List UInt8) (size : UInt32) (pts : UInt64)
  (isKeyframe : Int32) (srt : SrtAnswers)

/-- A frame is taken as one message if `db_streamer_send` returns zero, and else not at all. -/
theorem messages_dbStreamerSend :
    messages (dbStreamerSend s now data size pts isKeyframe srt).calls =
      if (dbStreamerSend s now data size pts isKeyframe srt).ret = 0 then
        [(videoPacketHeader s now size).bytes ++ (videoHeader pts isKeyframe).bytes ++
          data.take size.toNat]
      else [] := by
  have hfailed : (-1 : Int32) ≠ 0 := by decide
  rw [dbStreamerSend]
  by_cases hconn : s.Connected
  · rw [if_neg (not_not.2 hconn)]
    by_cases hsize : maxFrameSize < size.toNat
    · rw [if_pos hsize, if_neg hfailed]
      rfl
    · rw [if_neg hsize]
      exact messages_sendMessage _ _ srt
  · rw [if_pos hconn, if_neg hfailed]
    rfl

variable {s data size srt} in
/-- A frame is accepted if there is a connection, it is not too large, and SRT takes it. -/
theorem ret_dbStreamerSend (hconn : s.Connected) (hsize : size.toNat ≤ maxFrameSize)
    (hsent : ¬ srt.sent < 0) : (dbStreamerSend s now data size pts isKeyframe srt).ret = 0 := by
  rw [dbStreamerSend, if_neg (not_not.2 hconn), if_neg (Nat.not_lt.2 hsize), sendMessage,
    if_neg hsent]

/-- A heartbeat is taken in the same way. -/
theorem messages_dbStreamerSendHeartbeat :
    messages (dbStreamerSendHeartbeat s now srt).calls =
      if (dbStreamerSendHeartbeat s now srt).ret = 0 then
        [DbPacketHeaderT.bytes ⟨dbPktHeartbeat, 0, s.seq, s.timestamp now, 0, 0⟩]
      else [] := by
  have hfailed : (-1 : Int32) ≠ 0 := by decide
  rw [dbStreamerSendHeartbeat]
  by_cases hconn : s.Connected
  · rw [if_neg (not_not.2 hconn)]
    exact messages_sendMessage _ _ srt
  · rw [if_pos hconn, if_neg hfailed]
    rfl

end Send

end DisplayBridge
