import DisplayBridge.Mac.SRTReceiver

/-!
# The gate in front of the decoder

A decoder drops frames until it has seen a keyframe with all its parameter sets
(`waitingForIDR`). The gate is closed when the decoder is created and when it is
torn down, and at no other time: when a connection is lost the controller is told,
but the decoder is not. So the frames of a new connection are gated by a keyframe of
an earlier one, and the first frames of a connection may be submitted before it has
brought a keyframe (`DisplayBridge.not_ownKeyframe_on_reconnect`).

What the gate does ensure is that there was a keyframe since the decoder was created
or torn down, and that on the first connection it was received on that connection
(`DisplayBridge.someKeyframe_of_run`).
-/

namespace DisplayBridge

open Swift Runs

/-! ### What is promised -/

/-- A keyframe with all its parameter sets was received since the last entry of a
kind, or since the start. -/
def keyframeSince (reset : ReceiverEntry) (log : List ReceiverEntry) : Bool :=
  log.foldl (fun seen a =>
    if a = reset then false
    else
      match a with
      | .decoder (.keyframe _) => true
      | _ => seen) false

/-- **Every connection is gated on its own keyframe**: no slices of another frame are
submitted before a keyframe was received on the connection. -/
def OwnKeyframe (log : List ReceiverEntry) : Prop :=
  ∀ pre a post, log = pre ++ a :: post → ∀ s, a = .decoder (.submitted false s) →
    keyframeSince .connected pre = true

/-- The number of connections. -/
def connections (log : List ReceiverEntry) : ℕ := log.count .connected

/-- **Every submission is gated on some keyframe**: one was received since the
decoder was created or torn down – and, on the first connection, on that
connection. -/
def SomeKeyframe (log : List ReceiverEntry) : Prop :=
  ∀ pre a post, log = pre ++ a :: post → ∀ s, a = .decoder (.submitted false s) →
    keyframeSince (.decoder .invalidated) pre = true ∧
      (connections pre = 1 → keyframeSince .connected pre = true)

theorem keyframeSince_concat (reset : ReceiverEntry) (log : List ReceiverEntry)
    (a : ReceiverEntry) :
    keyframeSince reset (log ++ [a]) =
      if a = reset then false
      else
        match a with
        | .decoder (.keyframe _) => true
        | _ => keyframeSince reset log := by
  rw [keyframeSince, List.foldl_append]
  rfl

/-! ### The invariant -/

/-- The invariant of all runs: an open gate is due to a keyframe, and before the
second connection there is only one it can have come from. -/
structure Receiver.GateInv (r : Receiver) : Prop where
  opened : r.decoder.waitingForIDR = false → keyframeSince (.decoder .invalidated) r.log = true
  before : connections r.log = 0 →
    r.connected = false ∧ keyframeSince (.decoder .invalidated) r.log = false
  first : connections r.log = 1 → keyframeSince (.decoder .invalidated) r.log = true →
    keyframeSince .connected r.log = true
  kept : SomeKeyframe r.log

variable {r : Receiver}

/-- An entry that is no connection, no keyframe and no tear-down. -/
theorem Receiver.GateInv.append (h : r.GateInv) {a : ReceiverEntry} (hconnected : a ≠ .connected)
    (hinvalidated : a ≠ .decoder .invalidated) (hkeyframe : ∀ k, a ≠ .decoder (.keyframe k))
    {r' : Receiver} (hdecoder : r'.decoder = r.decoder)
    (hconn : r'.connected = true → r.connected = true) (hlog : r'.log = r.log ++ [a])
    (hkept : SomeKeyframe (r.log ++ [a])) : r'.GateInv := by
  have hsince : ∀ reset, a ≠ reset → keyframeSince reset r'.log = keyframeSince reset r.log := by
    intro reset hne
    rw [hlog, keyframeSince_concat, if_neg hne]
    split
    · next k => exact absurd rfl (hkeyframe k)
    · rfl
  have hcount : connections r'.log = connections r.log := by
    rw [hlog, connections, List.count_append, List.count_singleton,
      if_neg (by simpa using hconnected)]
    rfl
  refine ⟨?_, ?_, ?_, ?_⟩
  · rw [hdecoder, hsince _ hinvalidated]
    exact h.opened
  · rw [hcount, hsince _ hinvalidated]
    intro hzero
    refine ⟨?_, (h.before hzero).2⟩
    rw [Bool.eq_false_iff]
    intro hconnected'
    exact absurd ((h.before hzero).1.symm.trans (hconn hconnected')) Bool.false_ne_true
  · rw [hcount, hsince _ hinvalidated, hsince _ hconnected]
    exact h.first
  · rw [hlog]
    exact hkept

/-! ### Each step keeps the invariant -/

/-- A keyframe opens the gate, on the connection that brought it. -/
theorem Receiver.GateInv.keyframe (h : r.GateInv) (hconn : r.connected = true)
    (nalus : List NALU) (header : DBVideoHeader) (vt : VideoToolbox) (framesReceived : UInt64) :
    Receiver.GateInv { r with
      framesReceived := framesReceived
      decoder := r.decoder.after nalus header vt
      log := r.log ++ (decodeEntries r.decoder nalus header vt none).map .decoder } := by
  rw [HEVCDecoder.after, decodeEntries, Option.toList_none, List.map_nil, List.append_nil]
  cases keyframeSets nalus header with
  | none =>
    rw [Option.toList_none, List.map_nil, List.map_nil, List.append_nil]
    exact ⟨h.opened, h.before, h.first, h.kept⟩
  | some sets =>
    rw [Option.toList_some, List.map_singleton, List.map_singleton]
    generalize (⟨sets, decide (r.decoder.Caches sets), vt.formatCreated⟩ : Keyframe) = k
    have hsince : ∀ reset, ReceiverEntry.decoder (.keyframe k) ≠ reset →
        keyframeSince reset (r.log ++ [.decoder (.keyframe k)]) = true := by
      intro reset hne
      rw [keyframeSince_concat, if_neg hne]
    have hcount : connections (r.log ++ [.decoder (.keyframe k)]) =
        connections r.log := List.count_append
    refine ⟨fun _ => hsince _ (by simp), ?_, fun _ _ => hsince _ (by simp), ?_⟩
    · intro hzero
      rw [hcount] at hzero
      exact absurd ((h.before hzero).1.symm.trans hconn) Bool.false_ne_true
    · refine forall_split_concat.2 ⟨?_, h.kept⟩
      rintro s ⟨⟩

/-- Slices pass an open gate. -/
theorem Receiver.GateInv.submit (h : r.GateInv) (hwaiting : r.decoder.waitingForIDR = false)
    (isKey : Bool) (s : Submission) :
    Receiver.GateInv { r with log := r.log ++ [.decoder (.submitted isKey s)] } := by
  refine h.append (by simp) (by simp) (by simp) rfl id rfl (forall_split_concat.2 ⟨?_, h.kept⟩)
  intro _ _
  have hopen := h.opened hwaiting
  exact ⟨hopen, fun hone => h.first hone hopen⟩

theorem Receiver.GateInv.connect (h : r.GateInv) :
    Receiver.GateInv { r with connected := true, log := r.log ++ [.connected] } := by
  have hsince : keyframeSince (.decoder .invalidated) (r.log ++ [.connected]) =
      keyframeSince (.decoder .invalidated) r.log := keyframeSince_concat _ _ _
  have hcount : connections (r.log ++ [.connected]) = connections r.log + 1 :=
    List.count_append
  refine ⟨?_, ?_, ?_, forall_split_concat.2 ⟨?_, h.kept⟩⟩
  · rw [hsince]
    exact h.opened
  · rw [hcount]
    exact fun hzero => absurd hzero (Nat.succ_ne_zero _)
  · rw [hcount, hsince]
    intro hone hopen
    -- before the first connection there was no keyframe
    have hzero : connections r.log = 0 := Nat.succ_inj.1 hone
    exact absurd ((h.before hzero).2.symm.trans hopen) Bool.false_ne_true
  · rintro s ⟨⟩

theorem Receiver.GateInv.connectionLost (h : r.GateInv) :
    Receiver.GateInv { r with connected := false, log := r.log ++ [.disconnected] } := by
  refine h.append (by simp) (by simp) (by simp) rfl (by rintro ⟨⟩) rfl
    (forall_split_concat.2 ⟨?_, h.kept⟩)
  rintro s ⟨⟩

/-- Tearing the decoder down closes the gate. -/
theorem Receiver.GateInv.shutdown (h : r.GateInv) :
    Receiver.GateInv { r with
      decoder := invalidate r.decoder
      log := r.log ++ [.decoder .invalidated] } := by
  have hsince : keyframeSince (.decoder .invalidated) (r.log ++ [.decoder .invalidated]) = false :=
    keyframeSince_concat _ _ _
  have hcount : connections (r.log ++ [.decoder .invalidated]) = connections r.log :=
    List.count_append
  refine ⟨by rintro ⟨⟩, ?_, ?_, forall_split_concat.2 ⟨?_, h.kept⟩⟩
  · rw [hcount, hsince]
    exact fun hzero => ⟨(h.before hzero).1, rfl⟩
  · rw [hsince]
    rintro - ⟨⟩
  · rintro s ⟨⟩

theorem Receiver.GateInv.message (h : r.GateInv) (hconn : r.connected = true)
    {message : List UInt8} {vt : VideoToolbox} {r' : Receiver}
    (hreceive : receive r message vt = some r') : r'.GateInv := by
  rcases receive_eq_some hreceive with
    rfl | ⟨header, frameData, framesReceived, nalus, d, sub, hparse, hdecode, rfl⟩
  · exact h
  · obtain ⟨nalus', hparse', rfl, hsub⟩ := decode_eq_some hdecode
    obtain rfl : nalus = nalus' := Option.some.inj (hparse.symm.trans hparse')
    have hkeyframe := h.keyframe hconn nalus header vt framesReceived
    cases sub with
    | none => exact hkeyframe
    | some s =>
      rw [decodeEntries_some, List.map_append, ← List.append_assoc]
      exact hkeyframe.submit (hsub s rfl).2.1 _ s

/-- **The step lemma.** -/
theorem Receiver.GateInv.step (h : r.GateInv) {event : ReceiverEvent} {r' : Receiver}
    (hstep : receiverStep r event = some r') : r'.GateInv := by
  cases event with
  | connect =>
    rw [receiverStep] at hstep
    split at hstep
    · cases hstep
    · cases hstep
      exact h.connect
  | message bytes vt =>
    rw [receiverStep] at hstep
    split at hstep
    · next hmessage => exact h.message hmessage.1 hstep
    · cases hstep
  | connectionLost =>
    rw [receiverStep] at hstep
    split at hstep
    · cases hstep
      exact h.connectionLost
    · cases hstep
  | shutdown =>
    cases hstep
    exact h.shutdown

/-! ### Runs -/

theorem Receiver.gateInv_init : Receiver.init.GateInv where
  opened := by rintro ⟨⟩
  before _ := ⟨rfl, rfl⟩
  first := by rintro ⟨⟩
  kept pre a post hlog := absurd hlog.symm (by simp [Receiver.init])

/-- **Every submission is gated on some keyframe**, in every run. -/
theorem someKeyframe_of_run {events : List ReceiverEvent} {r : Receiver}
    (hrun : Run receiverStep (fun _ _ => True) .init events r) : SomeKeyframe r.log := by
  have hinv : r.GateInv := hrun.invariant Receiver.gateInv_init
    fun _ _ _ h _ hstep => h.step hstep
  exact hinv.kept

/-- A message with a small video frame. -/
def smallMessage (keyframe : UInt8) (pts : UInt64) (frame : List UInt8) : List UInt8 :=
  DbPacketHeaderT.bytes ⟨dbPktVideoFrame, 0, 0, 0, 0, 0⟩ ++
    DbVideoHeaderT.bytes ⟨2880, 1800, 1, keyframe, 0, pts⟩ ++ frame

/-- A connection with a keyframe, and another one that starts without one. -/
def reconnect : List ReceiverEvent :=
  [.connect, .message (smallMessage 1 0 (smallKeyframe 1).bytes) .works, .connectionLost, .connect,
    .message (smallMessage 0 0 [0, 0, 0, 1, 0x02, 1]) .works]

theorem log_reconnect :
    (exec receiverStep (fun _ _ => True) .init reconnect).map (·.log) =
      some ([.connected, .decoder (.keyframe ⟨smallSets 1, false, true⟩),
        .decoder (.submitted true (smallSubmission (smallSets 1))), .disconnected, .connected] ++
          .decoder (.submitted false ⟨⟨smallSets 1⟩, smallSets 1, [0, 0, 0, 2, 0x02, 1], 0⟩) ::
            []) := by
  decide +kernel

theorem someKeyframe_reconnect :
    ∃ r, Run receiverStep (fun _ _ => True) .init reconnect r ∧ SomeKeyframe r.log := by
  obtain ⟨r, hr, -⟩ := Option.map_eq_some_iff.1 log_reconnect
  exact ⟨r, run_of_exec hr, someKeyframe_of_run (run_of_exec hr)⟩

/-- **A new connection is not gated**: its first frame is submitted, on the keyframe
of the connection before. -/
theorem not_ownKeyframe_on_reconnect :
    ∃ r, Run receiverStep (fun _ _ => True) .init reconnect r ∧ ¬ OwnKeyframe r.log := by
  obtain ⟨r, hr, hlog⟩ := Option.map_eq_some_iff.1 log_reconnect
  refine ⟨r, run_of_exec hr, fun hown => ?_⟩
  have hsince := hown _ _ _ hlog _ rfl
  exact absurd hsince (by decide +kernel)

end DisplayBridge
