import DisplayBridge.Mac.KeyframeGate

/-!
# Whether a message can crash the receiver

Everything a message goes through, from its headers to the sample buffer of its
slices, is a computation that may trap. Nearly nothing of it does, whatever the
bytes are: the headers are parsed behind a check of the length, the NAL units are
cut at indices the parser has found itself, and every size fits.

One conversion is left. `CMTimeValue` is a signed integer and the time stamp of a
video header an unsigned one, and nobody looks at it in between. So a message crashes
the receiver exactly if its frame gets as far as that conversion with a time stamp
from 2⁶³ on – or if it is the 2⁶⁴-th frame, which the controller cannot count
(`DisplayBridge.receive_eq_none_iff`). One message is enough
(`DisplayBridge.traps_late_timestamp`).
-/

namespace DisplayBridge

open Swift

/-! ### The condition -/

/-- The decoder has a session and a format description. -/
def HEVCDecoder.HasSession (d : HEVCDecoder) : Prop := d.session ≠ none ∧ d.formatDescription ≠ none

/-- A frame finds something to submit its slices with: a keyframe that carries its
parameter sets, what is there if these are not adopted and what is created for them
otherwise; any other frame, what is there, if it does not have to wait. -/
def HEVCDecoder.Ready (d : HEVCDecoder) (nalus : List NALU) (header : DBVideoHeader)
    (vt : VideoToolbox) : Prop :=
  if header.keyframe = 1 then
    ∃ sets, parameterSets nalus = some sets ∧
      if d.Caches sets ∨ vt.formatCreated = false then d.HasSession else vt.sessionCreated = true
  else d.waitingForIDR = false ∧ d.HasSession

/-- A frame gets as far as the conversion of its time stamp, which does not fit. -/
structure HEVCDecoder.LateTimestamp (d : HEVCDecoder) (nalus : List NALU) (header : DBVideoHeader)
    (vt : VideoToolbox) : Prop where
  ready : d.Ready nalus header vt
  slices : sliceNALUs nalus ≠ []
  created : vt.blockCreated = true
  filled : vt.blockFilled = true
  late : 2 ^ 63 ≤ header.pts.toNat

/-- A message crashes the receiver: it is a video frame, and the controller cannot
count it, or it has such a time stamp. -/
def Receiver.Stops (r : Receiver) (message : List UInt8) (vt : VideoToolbox) : Prop :=
  ∃ header frameData, videoFrameOf message = some (header, frameData) ∧
    (r.framesReceived.toNat + 1 = 2 ^ 64 ∨
      r.decoder.LateTimestamp (nalusOf frameData.bytes) header vt)

/-! ### One frame -/

variable {d : HEVCDecoder} {nalus : List NALU} {header : DBVideoHeader} {vt : VideoToolbox}

/-- The decoder after a keyframe has a session exactly if it has kept the one it had,
or has created one. -/
theorem adopt_hasSession_iff {sets : ParameterSets} :
    (d.adopt sets vt).HasSession ↔
      if d.Caches sets ∨ vt.formatCreated = false then d.HasSession
      else vt.sessionCreated = true := by
  rw [HEVCDecoder.adopt]
  by_cases hcaches : d.Caches sets
  · rw [if_pos hcaches, if_pos (.inl hcaches)]
    exact Iff.rfl
  · rw [if_neg hcaches]
    cases hformat : vt.formatCreated with
    | false =>
      rw [if_neg Bool.false_ne_true, if_pos (.inr rfl)]
      exact Iff.rfl
    | true =>
      have hno : ¬ (d.Caches sets ∨ true = false) :=
        not_or.2 ⟨hcaches, fun h => Bool.false_ne_true h.symm⟩
      rw [if_pos rfl, if_neg hno, HEVCDecoder.HasSession]
      cases vt.sessionCreated with
      | true => exact iff_of_true ⟨Option.some_ne_none _, Option.some_ne_none _⟩ rfl
      | false => exact iff_of_false (fun h => h.1 rfl) Bool.false_ne_true

/-- What a frame finds is what the decoder has after it. -/
theorem ready_iff :
    d.Ready nalus header vt ↔
      (header.keyframe = 1 → keyframeSets nalus header ≠ none) ∧
        (d.after nalus header vt).waitingForIDR = false ∧ (d.after nalus header vt).HasSession := by
  rw [HEVCDecoder.Ready, HEVCDecoder.after, keyframeSets]
  by_cases hkey : header.keyframe = 1
  · simp only [if_pos hkey]
    cases parameterSets nalus with
    | none =>
      refine iff_of_false ?_ fun h => h.1 hkey rfl
      rintro ⟨sets, ⟨⟩, -⟩
    | some sets =>
      constructor
      · rintro ⟨sets', ⟨⟩, hready⟩
        exact ⟨fun _ => Option.some_ne_none _, adopt_waitingForIDR, adopt_hasSession_iff.2 hready⟩
      · rintro ⟨-, -, hsession⟩
        exact ⟨sets, rfl, adopt_hasSession_iff.1 hsession⟩
  · simp only [if_neg hkey]
    exact (and_iff_right fun hk => absurd hk hkey).symm

/-- **A frame traps on its time stamp only.** -/
theorem decode_eq_none_iff_late {frameData : Data} (hsize : frameData.count < 2 ^ 32) :
    decode d frameData header vt = none ↔
      d.LateTimestamp (nalusOf frameData.bytes) header vt := by
  rw [decode_eq_none_iff hsize]
  constructor
  · rintro ⟨hkey, htimed, hlate⟩
    have hready := ready_iff.2 ⟨hkey, htimed.notWaiting, htimed.session, htimed.format⟩
    exact ⟨hready, htimed.slices, htimed.created, htimed.filled, hlate⟩
  · rintro ⟨hready, hslices, hcreated, hfilled, hlate⟩
    obtain ⟨hkey, hwaiting, hsession, hformat⟩ := ready_iff.1 hready
    exact ⟨hkey, ⟨hwaiting, hsession, hformat, hslices, hcreated, hfilled⟩, hlate⟩

/-! ### One message -/

theorem addUInt64_one_eq_none_iff {x : UInt64} :
    addUInt64 x 1 = none ↔ x.toNat + 1 = 2 ^ 64 := by
  have hlt := x.toNat_lt
  have hone : (1 : UInt64).toNat = 1 := rfl
  rw [addUInt64, hone]
  split
  · exact iff_of_false (Option.some_ne_none _) (by omega)
  · exact iff_of_true rfl (by omega)

variable {r : Receiver}

/-- **A message crashes the receiver on the count or the time stamp of its frame
only.** -/
theorem receive_eq_none_iff {message : List UInt8} (hsize : message.length ≤ maxBufSize) :
    receive r message vt = none ↔ r.Stops message vt := by
  rw [receive, videoFrame_eq, Option.bind_eq_bind, Option.bind_some, Receiver.Stops]
  cases hframe : videoFrameOf message with
  | none =>
    refine iff_of_false (Option.some_ne_none _) ?_
    rintro ⟨header, frameData, ⟨⟩, -⟩
  | some frame =>
    obtain ⟨header, frameData⟩ := frame
    have hcount : frameData.count ≤ maxBufSize := (count_of_videoFrameOf hframe).trans hsize
    have hmax : maxBufSize < 2 ^ 32 := by decide
    have hdecode : decode r.decoder frameData header vt = none ↔ _ :=
      decode_eq_none_iff_late (hcount.trans_lt hmax)
    have hparse : parseAnnexB frameData = some (nalusOf frameData.bytes) :=
      parseAnnexB_eq (by omega)
    constructor
    · intro hnone
      refine ⟨header, frameData, rfl, ?_⟩
      rw [← addUInt64_one_eq_none_iff, ← hdecode]
      cases hadd : addUInt64 r.framesReceived 1 with
      | none => exact .inl rfl
      | some framesReceived =>
        cases hd : decode r.decoder frameData header vt with
        | none => exact .inr rfl
        | some result =>
          simp only [hadd, hparse, hd, Option.bind_eq_bind, Option.bind_some] at hnone
          cases hnone
    · rintro ⟨header', frameData', ⟨⟩, hstops⟩
      rw [← addUInt64_one_eq_none_iff, ← hdecode] at hstops
      rcases hstops with hadd | hd
      · simp only [hadd, Option.bind_eq_bind, Option.bind_none]
      · simp only [hparse, hd, Option.bind_eq_bind, Option.bind_some, Option.bind_none]
        cases addUInt64 r.framesReceived 1 <;> rfl

/-! ### All messages -/

/-- The messages the receiver takes, one after the other, and what CoreMedia and
VideoToolbox answer while each is handled. -/
def receiveAll (r : Receiver) (messages : List (List UInt8 × VideoToolbox)) : Traps Receiver :=
  messages.foldlM (fun r message => receive r message.1 message.2) r

/-- **The receiver survives exactly the messages of which none crashes it**, in the
state it is in by then. -/
theorem receiveAll_ne_none_iff {messages : List (List UInt8 × VideoToolbox)}
    (hsize : ∀ message ∈ messages, message.1.length ≤ maxBufSize) :
    receiveAll r messages ≠ none ↔
      ∀ pre message post r', messages = pre ++ message :: post → receiveAll r pre = some r' →
        ¬ r'.Stops message.1 message.2 := by
  rw [receiveAll, foldlM_ne_none_iff]
  refine forall_congr' fun pre => forall_congr' fun message => forall_congr' fun post =>
    forall_congr' fun r' => forall_congr' fun heq => imp_congr_right fun _ => ?_
  have hmem : message ∈ messages := heq ▸ List.mem_append_right _ List.mem_cons_self
  exact not_congr (receive_eq_none_iff (hsize message hmem))

/-- A keyframe with an ordinary time stamp. -/
def promptMessage : List UInt8 := smallMessage 1 0 (smallKeyframe 1).bytes

/-- A keyframe with a time stamp that is no signed integer. -/
def lateMessage : List UInt8 :=
  smallMessage 1 0x8000000000000000 (smallKeyframe 1).bytes

theorem not_stops_prompt :
    receiveAll .init [(promptMessage, .works)] ≠ none ∧
      ¬ Receiver.init.Stops promptMessage .works := by
  have hsurvives : receiveAll .init [(promptMessage, .works)] ≠ none := by decide +kernel
  exact ⟨hsurvives, (receiveAll_ne_none_iff (by decide +kernel)).1 hsurvives [] _ [] _ rfl rfl⟩

/-- **One message crashes the receiver.** -/
theorem traps_late_timestamp :
    lateMessage.length ≤ maxBufSize ∧
      receiveAll .init [(lateMessage, VideoToolbox.works)] = none := by
  decide +kernel

end DisplayBridge
