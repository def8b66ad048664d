import DisplayBridge.Mac.InputForwarder
import DisplayBridge.Ubuntu.Streamer

/-!
# Time stamps

Every packet carries the microseconds since its sender started, in 32 bits – which are
full after an hour, eleven minutes and a bit. Ubuntu masks the count, so that it starts
again from zero (`DisplayBridge.timestamp_of_mem_messages`). The Mac converts it with
`UInt32(x)`, which traps on everything that does not fit.

So what holds is `DisplayBridge.timestampsWrap_iff`: a sequence of input events is sent,
with the stamps Ubuntu would have given, exactly if the clock is never read a microsecond
or more before the start and never `2 ^ 32` microseconds or more after it. The first event
outside stops the receiver (`DisplayBridge.not_timestampsWrap_after_71_minutes`).
-/

namespace DisplayBridge

open Swift InputForwarder

/-! ### What is promised -/

/-- A call to `send`, with the reading of the clock. -/
structure SendCall where
  now : ℚ
  eventType : UInt8
  x : Int16
  y : Int16
  value : Int16

/-- A sequence of calls to `send`. -/
def sendAll : InputForwarder → List SendCall → Traps (InputForwarder × List Datagram)
  | fw, [] => some (fw, [])
  | fw, call :: calls => do
    let (fw, sent) ← fw.send call.now call.eventType call.x call.y call.value
    let (fw, rest) ← sendAll fw calls
    return (fw, sent ++ rest)

/-- The time stamp in the packet header of a message. -/
def packetTimestamp (message : List UInt8) : UInt32 := (DbPacketHeaderT.read message 0).timestamp

/-- A datagram carries the microseconds of its call, modulo `2 ^ 32`. -/
def Stamped (fw : InputForwarder) (call : SendCall) (datagram : Datagram) : Prop :=
  0 ≤ fw.elapsed call.now →
    (packetTimestamp datagram.payload).toNat = ⌊fw.elapsed call.now⌋.toNat % 2 ^ 32

/-- **Time stamps wrap**: no call traps, each sends a datagram with its microseconds modulo
`2 ^ 32`, and so does the streamer, in every message it sends. -/
structure TimestampsWrap (fw : InputForwarder) (calls : List SendCall) : Prop where
  forwarded : ∃ fw' sent, sendAll fw calls = some (fw', sent) ∧
    List.Forall₂ (Stamped fw) calls sent
  streamed : ∀ (s : DbStreamer) (call : StreamerCall × UInt64 × SrtAnswers),
    ∀ message ∈ messages (s.call call).calls,
      (packetTimestamp message).toNat = (call.2.1 - s.startTimeUs).toNat % 2 ^ 32

/-! ### The streamer -/

theorem DbStreamer.toNat_timestamp (s : DbStreamer) (now : UInt64) :
    (s.timestamp now).toNat = (now - s.startTimeUs).toNat % 2 ^ 32 := by
  have hmask : (0xFFFFFFFF : UInt64).toNat = 2 ^ 32 - 1 := rfl
  rw [timestamp, UInt64.toNat_toUInt32, UInt64.toNat_and, hmask, Nat.and_two_pow_sub_one_eq_mod,
    Nat.mod_mod]

/-- **Every message of the streamer** carries the masked microseconds. -/
theorem timestamp_of_mem_messages (s : DbStreamer) (call : StreamerCall × UInt64 × SrtAnswers)
    {message : List UInt8} (h : message ∈ messages (s.call call).calls) :
    (packetTimestamp message).toNat = (call.2.1 - s.startTimeUs).toNat % 2 ^ 32 := by
  obtain ⟨call, now, srt⟩ := call
  rw [← s.toNat_timestamp]
  refine congrArg UInt32.toNat ?_
  cases call with
  | send data size pts isKeyframe =>
    change message ∈ messages (dbStreamerSend s now data size pts isKeyframe srt).calls at h
    rw [messages_dbStreamerSend] at h
    split at h
    · rw [List.mem_singleton.1 h, List.append_assoc]
      exact congrArg DbPacketHeaderT.timestamp ((videoPacketHeader s now size).read_bytes _)
    · exact absurd h List.not_mem_nil
  | sendHeartbeat =>
    change message ∈ messages (dbStreamerSendHeartbeat s now srt).calls at h
    rw [messages_dbStreamerSendHeartbeat] at h
    split at h
    · have hread := DbPacketHeaderT.read_bytes
        ⟨dbPktHeartbeat, 0, s.seq, s.timestamp now, 0, 0⟩ []
      rw [List.append_nil] at hread
      rw [List.mem_singleton.1 h]
      exact congrArg DbPacketHeaderT.timestamp hread
    · exact absurd h List.not_mem_nil

/-! ### The forwarder -/

variable {fw : InputForwarder}

/-- The conversion gives the whole microseconds. -/
theorem toNat_of_timestamp {now : ℚ} {ts : UInt32} (hts : fw.timestamp now = some ts)
    (h : 0 ≤ fw.elapsed now) : ts.toNat = ⌊fw.elapsed now⌋.toNat % 2 ^ 32 := by
  rw [uint32OfDouble_eq_some hts h]
  exact UInt32.toNat_ofNat'

/-- **One call** at a time that converts. -/
theorem send_stamped (hu : fw.Usable) {call : SendCall}
    (hcall : (fw.timestamp call.now).isSome) :
    ∃ datagram, fw.send call.now call.eventType call.x call.y call.value =
      some ({ fw with seq := fw.seq + 1 }, [datagram]) ∧ Stamped fw call datagram := by
  obtain ⟨ts, hts⟩ := Option.isSome_iff_exists.1 hcall
  obtain ⟨family, -, hsend⟩ := send_eq hu hts call.eventType call.x call.y call.value
  refine ⟨_, hsend, fun helapsed => ?_⟩
  rw [← toNat_of_timestamp hts helapsed]
  refine congrArg UInt32.toNat ?_
  exact congrArg DbPacketHeaderT.timestamp (DbPacketHeaderT.read_bytes _ _)

/-- A sequence of calls that does not trap is read at times that convert. -/
theorem isSome_timestamp_of_sendAll (hu : fw.Usable) {calls : List SendCall}
    {result : InputForwarder × List Datagram} (h : sendAll fw calls = some result) :
    ∀ call ∈ calls, (fw.timestamp call.now).isSome := by
  induction calls generalizing fw result with
  | nil => exact fun _ hmem => absurd hmem List.not_mem_nil
  | cons call calls ih =>
    obtain ⟨first, hsend, h⟩ := Option.bind_eq_some_iff.1 h
    have hcall := isSome_timestamp_of_send hu hsend
    obtain ⟨datagram, hsend', -⟩ := send_stamped hu hcall
    obtain rfl := Option.some.inj (hsend.symm.trans hsend')
    obtain ⟨rest, hrest, -⟩ := Option.bind_eq_some_iff.1 h
    exact List.forall_mem_cons.2 ⟨hcall, @ih { fw with seq := fw.seq + 1 } hu _ hrest⟩

/-- **A sequence of calls** at times that convert is sent, and stamped. -/
theorem sendAll_stamped (hu : fw.Usable) {calls : List SendCall}
    (h : ∀ call ∈ calls, (fw.timestamp call.now).isSome) :
    ∃ fw' sent, sendAll fw calls = some (fw', sent) ∧ List.Forall₂ (Stamped fw) calls sent := by
  induction calls generalizing fw with
  | nil => exact ⟨fw, [], rfl, .nil⟩
  | cons call calls ih =>
    obtain ⟨hcall, hcalls⟩ := List.forall_mem_cons.1 h
    obtain ⟨datagram, hsend, hstamped⟩ := send_stamped hu hcall
    obtain ⟨fw', sent, hrest, hall⟩ := @ih { fw with seq := fw.seq + 1 } hu hcalls
    refine ⟨fw', datagram :: sent, ?_, .cons hstamped hall⟩
    rw [sendAll, hsend]
    show (sendAll { fw with seq := fw.seq + 1 } calls).bind _ = _
    rw [hrest]
    rfl

/-- **Time stamps wrap exactly as long as they need not.** -/
theorem timestampsWrap_iff (hu : fw.Usable) (calls : List SendCall) :
    TimestampsWrap fw calls ↔
      ∀ call ∈ calls, -1 < fw.elapsed call.now ∧ fw.elapsed call.now < 2 ^ 32 := by
  have hconvert : (∀ call ∈ calls, (fw.timestamp call.now).isSome) ↔
      ∀ call ∈ calls, -1 < fw.elapsed call.now ∧ fw.elapsed call.now < 2 ^ 32 :=
    forall₂_congr fun _ _ => isSome_timestamp_iff
  rw [← hconvert]
  constructor
  · rintro ⟨⟨fw', sent, hrun, -⟩, -⟩
    exact isSome_timestamp_of_sendAll hu hrun
  · intro h
    exact ⟨sendAll_stamped hu h, fun s call _ => timestamp_of_mem_messages s call⟩

/-- A key half a microsecond before the start, and another one at the last moment. -/
theorem timestampsWrap_first_hour : TimestampsWrap readyForwarder
    [⟨-1 / 2000000, dbInputKeyDown, 30, 0, 0⟩, ⟨4294967295 / 1000000, dbInputKeyUp, 30, 0, 0⟩] := by
  refine (timestampsWrap_iff usable_readyForwarder _).2 ?_
  simp only [List.forall_mem_cons, List.not_mem_nil, elapsed, readyForwarder]
  norm_num

/-- **After 71 minutes and 35 seconds a key stops the receiver**, where the streamer
starts to count from zero again. -/
theorem not_timestampsWrap_after_71_minutes : ¬ TimestampsWrap readyForwarder
    [⟨4294967296 / 1000000, dbInputKeyDown, 30, 0, 0⟩] := by
  rintro ⟨⟨fw', sent, hrun, -⟩, -⟩
  have hconvert := isSome_timestamp_of_sendAll usable_readyForwarder hrun _ List.mem_cons_self
  exact absurd (isSome_timestamp_iff.1 hconvert).2 (by norm_num [elapsed, readyForwarder])

end DisplayBridge
