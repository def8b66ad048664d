import DisplayBridge.Ubuntu.ForceIdr
import Mathlib.Data.List.Chain
import Mathlib.Data.List.Nodup

/-!
# Groups of pictures

A stream is cut into groups by its keyframes, and within a group every frame is
predicted from the one before it. Three functions work this out from the frame
counter, each for itself: `encode_surface` chooses the surface of the reference,
`fill_pic_param` and `fill_slice_param` its order count, and `write_slice_header` says
in the bit stream how far back it is. `db_encoder_force_idr` moves the counter in
between, and an encode that fails moves nothing.

That it all fits together is `DisplayBridge.GopConsistent`. It holds in every run of an
encoder whose encodes do not overlap with `db_encoder_force_idr`
(`DisplayBridge.gopConsistent_of_run`), with one exception: the jump to the next
multiple of the interval must not go over the end of the counter
(`DisplayBridge.DbEncoder.Lands`). Behind the end the counter is wherever the
overflow puts it, so the next frame is predicted from one that nobody encoded
(`DisplayBridge.not_gopConsistent_overflow`). That the counter wraps by itself is
harmless, because zero is a multiple of everything.

The invariant is `DisplayBridge.Capture.Gop`: as long as the next picture will not be
an IDR picture, the last frame that was encoded is on the surface before the next one,
and its order count is one less than the counter says now.
-/

namespace DisplayBridge

open Bits H265 Runs

/-! ### What fits together -/

/-- The frame of an entry. -/
def CaptureEntry.frame? : CaptureEntry → Option EncodedFrame
  | .encoded f => some f
  | _ => none

/-- The frames that were encoded, in order. -/
def encodedFrames (log : List CaptureEntry) : List EncodedFrame :=
  log.filterMap CaptureEntry.frame?

/-- A frame follows another: if it is no keyframe, the driver was told to predict it from
the surface of the other, which is not its own, with the order count of the other; its
own count is one more; and its slice header, read up to there, says the same – its own
count in twelve bits, and one reference, one picture back. -/
def Follows (sps : Sps) (pps : Pps) (f g : EncodedFrame) : Prop :=
  g.isKeyframe = false →
    g.Names ⟨f.surface, f.poc, vaPictureHevcRpsStCurrBefore⟩ ∧ f.surface ≠ g.surface ∧
      g.poc.toInt = f.poc.toInt + 1 ∧
      ∃ order rest,
        (sliceSegmentOrder sps pps).run (toBits (unescape g.header)) = some (order, rest) ∧
          order.slicePicOrderCntLsb = g.poc.toInt ∧
          order.shortTermRefPicSet.deltaPocS0 = [-1]

/-- **The groups of pictures are consistent.** -/
structure GopConsistent (fps : ℤ) (sps : Sps) (pps : Pps) (log : List CaptureEntry) : Prop where
  /-- The first frame is a keyframe. -/
  first : ∀ f ∈ (encodedFrames log).head?, f.isKeyframe = true
  /-- The next frame after a forced IDR picture is a keyframe. -/
  forced : ∀ pre a post, log = pre ++ a :: post → a = .forced →
    ∀ f ∈ (encodedFrames post).head?, f.isKeyframe = true
  /-- Among as many frames as there are in two seconds is a keyframe. -/
  period : ∀ frames, frames <:+: encodedFrames log → (frames.length : ℤ) = 2 * fps →
    ∃ f ∈ frames, f.isKeyframe = true
  /-- Every frame follows the one before it. -/
  follows : (encodedFrames log).IsChain (Follows sps pps)

/-- An IDR picture is not forced inside an encode. -/
def Apart (c : Capture) (e : CaptureEvent) : Prop := e = .forceIdr → c.phase = .idle

/-- The counter can stand at the next multiple of the interval whenever it is made to jump
there. -/
def JumpLands (c : Capture) (e : CaptureEvent) : Prop := e = .forceIdr → c.enc.Lands

instance (c : Capture) (e : CaptureEvent) : Decidable (Apart c e) :=
  inferInstanceAs (Decidable (e = .forceIdr → c.phase = .idle))

instance (c : Capture) (e : CaptureEvent) : Decidable (JumpLands c e) :=
  inferInstanceAs (Decidable (e = .forceIdr → c.enc.Lands))

/-! ### Order counts -/

theorem encodedFrames_concat (log : List CaptureEntry) (a : CaptureEntry) :
    encodedFrames (log ++ [a]) = encodedFrames log ++ a.frame?.toList := by
  rw [encodedFrames, List.filterMap_append]
  cases a <;> rfl

/-- The order count is the position in the group. -/
theorem pocOf_eq_gopPosition (frameCount : UInt64) {idrInterval : ℤ} (h₀ : 0 < idrInterval)
    (h₁ : idrInterval < 2 ^ 31) :
    (pocOf frameCount idrInterval).toInt = (gopPosition frameCount idrInterval).toNat := by
  have hlt : (gopPosition frameCount idrInterval).toNat < idrInterval.toNat := by
    rw [toNat_gopPosition _ h₀ h₁]
    exact Nat.mod_lt _ (by omega)
  have hsmall : (gopPosition frameCount idrInterval).toUInt32.toNat =
      (gopPosition frameCount idrInterval).toNat := by
    rw [UInt64.toNat_toUInt32]
    exact Nat.mod_eq_of_lt (by omega)
  rw [toInt_pocOf, hsmall, if_pos (by omega)]

/-- The position moves up by one, or a new group begins. -/
theorem gopPosition_succ (frameCount : UInt64) {idrInterval : ℤ} (h₀ : 0 < idrInterval)
    (h₁ : idrInterval < 2 ^ 31) :
    gopPosition (frameCount + 1) idrInterval = 0 ∨
      (gopPosition (frameCount + 1) idrInterval).toNat =
        (gopPosition frameCount idrInterval).toNat + 1 := by
  have hsucc := toNat_gopPosition (frameCount + 1) h₀ h₁
  rw [← UInt64.toNat_inj, hsucc, toNat_gopPosition _ h₀ h₁, UInt64.toNat_add]
  rcases Nat.lt_or_ge (frameCount.toNat + 1) (2 ^ 64) with hlt | hge
  · have hone : (1 : UInt64).toNat = 1 := rfl
    have hr : frameCount.toNat % idrInterval.toNat < idrInterval.toNat :=
      Nat.mod_lt _ (by omega)
    rw [hone, Nat.mod_eq_of_lt hlt, ← Nat.mod_add_mod]
    rcases (Nat.succ_le_of_lt hr).lt_or_eq with hinside | hlast
    · exact .inr (Nat.mod_eq_of_lt hinside)
    · refine .inl ?_
      rw [← Nat.succ_eq_add_one, hlast]
      exact Nat.mod_self _
  · -- the counter wraps by itself, and zero is a multiple of the interval
    have hbound := frameCount.toNat_lt
    have hwrap : (frameCount.toNat + (1 : UInt64).toNat) % 2 ^ 64 = 0 := by
      have hone : (1 : UInt64).toNat = 1 := rfl
      rw [hone]
      omega
    rw [hwrap]
    exact .inl (Nat.zero_mod _)

/-- **The header says the order count**, and that the reference is one picture back. -/
theorem run_sliceSegmentOrder (enc : DbEncoder) :
    ∃ rest, (sliceSegmentOrder (spsOf enc) ppsOf).run
        (toBits (unescape (writeSliceHeader enc false))) =
      some (⟨enc.gopPosition.toUInt32.toNat % 2 ^ 12, ⟨[(0, 1)], []⟩, 0⟩, rest) := by
  have hextra : u ppsOf.numExtraSliceHeaderBits = pure 0 := rfl
  refine ⟨bitsOf 1 0 ++ (ueBits 0 ++ (seBits 0 ++ (bitsOf 1 0 ++ List.replicate 4 false))), ?_⟩
  rw [toBits_writeSliceHeader, sliceSegmentOrder, hextra]
  simp only [headerBits, trailBits, List.append_assoc, Bool.false_eq_true, if_false]
  simp (disch := simp [spsOf, ppsOf]) only [↓run_u_bind, ↓run_ue_bind, ↓pure_bind,
    ↓present_bind_neg, ↓absent_bind]
  rw [← bind_pure (sliceOrder (spsOf enc)), run_sliceOrder_bind]
  rfl

/-! ### The invariant -/

/-- The next frame of some frames will be a keyframe, or has been one. -/
def KeyNext (enc : DbEncoder) : List EncodedFrame → Prop
  | [] => enc.gopPosition = 0
  | f :: _ => f.isKeyframe = true

/-- The last frame is where the next one looks for its reference. -/
structure IsReference (enc : DbEncoder) (f : EncodedFrame) : Prop where
  surface : f.surface = enc.surfaceAt enc.prevRecon
  poc : enc.gopPosition = 0 ∨
    f.poc = pocOf (enc.frameCount - 1) enc.idrInterval ∧
      f.poc.toInt + 1 = enc.gopPosition.toNat

/-- Of an encoder only the counter and the index have moved. -/
structure DbEncoder.Moved (enc₀ enc : DbEncoder) : Prop where
  index : enc.currentReconIdx < dbEncoderSurfacePool
  rest : enc = { enc₀ with
    currentReconIdx := enc.currentReconIdx, frameCount := enc.frameCount }

/-- The invariant of the runs without overlap, from an encoder on. -/
structure Capture.Gop (enc₀ : DbEncoder) (c : Capture) : Prop where
  enc : enc₀.Moved c.enc
  current : c.phase.Current c.enc
  last : ∀ f, (encodedFrames c.log).getLast? = some f → IsReference c.enc f
  first : KeyNext c.enc (encodedFrames c.log)
  forced : ∀ pre a post, c.log = pre ++ a :: post → a = .forced →
    KeyNext c.enc (encodedFrames post)
  poc : ∀ f ∈ encodedFrames c.log,
    f.poc.toInt < enc₀.idrInterval ∧ (f.isKeyframe = false → 0 < f.poc.toInt)
  follows : (encodedFrames c.log).IsChain (Follows (spsOf enc₀) ppsOf)

/-- What the encoder needs of its surfaces: there are four, all of them valid and no two
the same. -/
structure DbEncoder.Pool (enc : DbEncoder) : Prop where
  count : enc.numReconSurfaces = dbEncoderSurfacePool
  length : enc.reconSurfaces.length = dbEncoderSurfacePool
  valid : vaInvalidId ∉ enc.reconSurfaces
  nodup : enc.reconSurfaces.Nodup

variable {enc₀ enc : DbEncoder} {c : Capture}

theorem DbEncoder.Pool.surfaceAt_ne (h : enc.Pool) {i j : ℕ} (hi : i < dbEncoderSurfacePool)
    (hj : j < dbEncoderSurfacePool) (hne : i ≠ j) : enc.surfaceAt i ≠ enc.surfaceAt j := by
  rw [← h.length] at hi hj
  rw [surfaceAt, surfaceAt, List.getD_eq_getElem _ _ hi, List.getD_eq_getElem _ _ hj]
  exact fun heq => hne ((List.Nodup.getElem_inj_iff h.nodup).1 heq)

theorem DbEncoder.Pool.surfaceAt_ne_invalid (h : enc.Pool) {i : ℕ} (hi : i < dbEncoderSurfacePool) :
    enc.surfaceAt i ≠ vaInvalidId := by
  rw [← h.length] at hi
  rw [surfaceAt, List.getD_eq_getElem _ _ hi]
  exact fun heq => h.valid (heq ▸ List.getElem_mem hi)

theorem DbEncoder.Moved.pool (h : enc₀.Moved enc) (hpool : enc₀.Pool) : enc.Pool := by
  rw [h.rest]
  exact ⟨hpool.count, hpool.length, hpool.valid, hpool.nodup⟩

theorem DbEncoder.Moved.idrInterval (h : enc₀.Moved enc) : enc.idrInterval = enc₀.idrInterval := by
  rw [h.rest]

theorem DbEncoder.Moved.spsOf (h : enc₀.Moved enc) : spsOf enc = DisplayBridge.spsOf enc₀ := by
  rw [h.rest]
  rfl

/-- Forcing a picture gives every list of frames a keyframe next. -/
theorem KeyNext.of_zero {enc' : DbEncoder} {frames : List EncodedFrame}
    (h : KeyNext enc frames) (hzero : enc'.gopPosition = 0) : KeyNext enc' frames := by
  cases frames with
  | nil => exact hzero
  | cons f frames => exact h

/-- Encoding the next frame gives it. -/
theorem KeyNext.encode {frames : List EncodedFrame} (h : KeyNext enc frames)
    (enc' : DbEncoder) : KeyNext enc' (frames ++ [enc.nextFrame]) := by
  cases frames with
  | nil => exact decide_eq_true h
  | cons f frames => exact h

theorem KeyNext.head {frames : List EncodedFrame} (h : KeyNext enc frames) :
    ∀ f ∈ frames.head?, f.isKeyframe = true := by
  cases frames with
  | nil => exact fun f hf => absurd hf (Option.not_mem_none f)
  | cons f frames =>
    rintro _ ⟨⟩
    exact h

/-- What follows each forced picture, after one more entry. -/
theorem Capture.Gop.forced_concat (h : c.Gop enc₀) {enc' : DbEncoder} {x : CaptureEntry}
    (hforced : x = .forced → enc'.gopPosition = 0)
    (hstep : ∀ frames, KeyNext c.enc frames → KeyNext enc' (frames ++ x.frame?.toList)) :
    ∀ pre a post, c.log ++ [x] = pre ++ a :: post → a = .forced →
      KeyNext enc' (encodedFrames post) := by
  refine forall_split_concat.2 ⟨hforced, fun pre a post hlog ha => ?_⟩
  rw [encodedFrames_concat]
  exact hstep _ (h.forced pre a post hlog ha)

/-- A step that encodes no frame, and leaves the next one what it would have been or makes
it a keyframe. -/
theorem Capture.Gop.keep (h : c.Gop enc₀) {phase : Phase} {x : CaptureEntry}
    (hx : x.frame? = none) (henc : enc₀.Moved enc) (hcurrent : phase.Current enc)
    (hreference : ∀ f, IsReference c.enc f → IsReference enc f)
    (hnext : ∀ frames, KeyNext c.enc frames → KeyNext enc frames)
    (hforced : x = .forced → enc.gopPosition = 0) :
    Capture.Gop enc₀ { enc := enc, phase := phase, log := c.log ++ [x] } := by
  have hframes : encodedFrames (c.log ++ [x]) = encodedFrames c.log := by
    rw [encodedFrames_concat, hx]
    exact List.append_nil _
  refine ⟨henc, hcurrent, ?_, ?_, ?_, ?_, ?_⟩
  · rw [hframes]
    exact fun f hf => hreference f (h.last f hf)
  · rw [hframes]
    exact hnext _ h.first
  · refine h.forced_concat hforced fun frames hkey => ?_
    rw [hx]
    exact (List.append_nil frames).symm ▸ hnext frames hkey
  · rw [hframes]
    exact h.poc
  · rw [hframes]
    exact h.follows

/-- A step that changes the phase alone. -/
theorem Capture.Gop.render (h : c.Gop enc₀) {phase : Phase} (hphase : phase.Current c.enc) :
    Capture.Gop enc₀ { c with phase := phase } :=
  ⟨h.enc, hphase, h.last, h.first, h.forced, h.poc, h.follows⟩

section Step

variable (hpool : enc₀.Pool) (hpos : 0 < enc₀.idrInterval) (hbits : enc₀.idrInterval ≤ 2 ^ 12)

include hpos hbits in
/-- Forcing an IDR picture, where the jump lands. -/
theorem Capture.Gop.forceIdr (h : c.Gop enc₀) (hphase : c.phase = .idle) (hlands : c.enc.Lands) :
    Capture.Gop enc₀ { c with enc := dbEncoderForceIdr c.enc, log := c.log ++ [.forced] } := by
  have hinterval := h.enc.idrInterval
  have hzero : (dbEncoderForceIdr c.enc).gopPosition = 0 :=
    (gopPosition_forceIdr_iff (by omega) (by omega)).2 hlands
  obtain ⟨frameCount, heq⟩ := forceIdr_eq c.enc
  rw [heq] at hzero ⊢
  refine h.keep rfl ⟨h.enc.index, ?_⟩ ?_ ?_ ?_ fun _ => hzero
  · exact congrArg (fun enc : DbEncoder => { enc with frameCount := frameCount }) h.enc.rest
  · rw [hphase]
    exact trivial
  · exact fun f href => ⟨href.surface, .inl hzero⟩
  · exact fun frames hkey => hkey.of_zero hzero

include hpos hbits in
/-- The order count of the next frame is its position, and fits twelve bits. -/
theorem DbEncoder.Moved.poc_nextFrame (h : enc₀.Moved enc) :
    enc.nextFrame.poc.toInt = enc.gopPosition.toNat ∧
      enc.nextFrame.poc.toInt < enc₀.idrInterval ∧
      (enc.gopPosition.toUInt32.toNat % 2 ^ 12 : ℕ) = enc.nextFrame.poc.toInt := by
  have hinterval := h.idrInterval
  have hpoc : enc.nextFrame.poc.toInt = enc.gopPosition.toNat :=
    pocOf_eq_gopPosition enc.frameCount (by omega) (by omega)
  have hmod : enc.gopPosition.toNat = enc.frameCount.toNat % enc.idrInterval.toNat :=
    toNat_gopPosition enc.frameCount (by omega) (by omega)
  have hlt : enc.gopPosition.toNat < enc.idrInterval.toNat := by
    rw [hmod]
    exact Nat.mod_lt _ (by omega)
  refine ⟨hpoc, by omega, ?_⟩
  rw [hpoc, UInt64.toNat_toUInt32]
  omega

include hpool hpos hbits in
/-- **The next frame follows the last one.** -/
theorem follows_nextFrame (h : enc₀.Moved enc) {f : EncodedFrame} (href : IsReference enc f) :
    Follows (spsOf enc₀) ppsOf f enc.nextFrame := by
  intro hkey
  have hprev : enc.prevRecon < dbEncoderSurfacePool := by
    rw [DbEncoder.prevRecon, (h.pool hpool).count]
    exact Nat.mod_lt _ (by decide)
  have hother : enc.prevRecon ≠ enc.currentReconIdx := by
    have hindex := h.index
    rw [DbEncoder.prevRecon, (h.pool hpool).count]
    rw [dbEncoderSurfacePool] at hindex ⊢
    omega
  have hposition : enc.gopPosition ≠ 0 := of_decide_eq_false hkey
  obtain ⟨hpoc, hnext⟩ := href.poc.resolve_left hposition
  obtain ⟨hcount, -, hlsb⟩ := h.poc_nextFrame hpos hbits
  refine ⟨?_, ?_, by omega, ?_⟩
  · rw [href.surface, hpoc]
    exact names_nextFrame hkey ((h.pool hpool).surfaceAt_ne_invalid hprev)
  · rw [href.surface]
    exact (h.pool hpool).surfaceAt_ne hprev h.index hother
  · obtain ⟨rest, hrun⟩ := run_sliceSegmentOrder enc
    have hheader : enc.nextFrame.header = writeSliceHeader enc false :=
      congrArg (writeSliceHeader enc) hkey
    rw [h.spsOf] at hrun
    rw [hheader]
    exact ⟨_, rest, hrun, hlsb, rfl⟩

include hpool hpos hbits in
/-- Once it is encoded, the next frame is the last one. -/
theorem isReference_nextFrame (h : enc₀.Moved enc) :
    IsReference (enc.advance enc.currentReconIdx) enc.nextFrame := by
  have hinterval := h.idrInterval
  have hprev : (enc.advance enc.currentReconIdx).prevRecon = enc.currentReconIdx :=
    prevRecon_advance (h.pool hpool).count h.index
  have hcount : (enc.advance enc.currentReconIdx).frameCount - 1 = enc.frameCount :=
    UInt64.add_sub_cancel _ _
  refine ⟨congrArg enc.surfaceAt hprev.symm, ?_⟩
  rcases gopPosition_succ enc.frameCount (by omega : 0 < enc.idrInterval) (by omega) with
    hnew | hnext
  · exact .inl hnew
  · refine .inr ⟨?_, ?_⟩
    · rw [hcount]
      rfl
    · have hposition : (enc.advance enc.currentReconIdx).gopPosition.toNat =
          enc.gopPosition.toNat + 1 := hnext
      rw [hposition, (h.poc_nextFrame hpos hbits).1]
      rfl

include hpool hpos hbits in
/-- The one step that encodes a frame. -/
theorem Capture.Gop.finish (h : c.Gop enc₀) {e : Encode} {pic : VAEncPictureParameterBufferHEVC}
    {header : List UInt8} {slice : VAEncSliceParameterBufferHEVC}
    (hphase : c.phase = .sliceRendered e pic header slice) :
    Capture.Gop enc₀ {
      enc := c.enc.advance e.curRecon
      phase := .idle
      log := c.log ++ [.encoded ⟨e.isIdr, pic, header, slice⟩] } := by
  have hcurrent := h.current
  rw [hphase] at hcurrent
  obtain ⟨rfl, rfl, rfl, rfl⟩ := hcurrent
  have hframes : encodedFrames (c.log ++ [.encoded c.enc.nextFrame]) =
      encodedFrames c.log ++ [c.enc.nextFrame] := encodedFrames_concat _ _
  have hinterval := h.enc.idrInterval
  obtain ⟨hcount, hlt, -⟩ := h.enc.poc_nextFrame hpos hbits
  have hmoved : enc₀.Moved (c.enc.advance c.enc.currentReconIdx) := by
    refine ⟨?_, ?_⟩
    · have hindex : (c.enc.advance c.enc.currentReconIdx).currentReconIdx =
          (c.enc.currentReconIdx + 1) % c.enc.numReconSurfaces := rfl
      rw [hindex, (h.enc.pool hpool).count]
      exact Nat.mod_lt _ (by decide)
    · exact congrArg (fun enc : DbEncoder => { enc with
        currentReconIdx := (c.enc.currentReconIdx + 1) % c.enc.numReconSurfaces
        frameCount := c.enc.frameCount + 1 }) h.enc.rest
  change Capture.Gop enc₀ ⟨c.enc.advance c.enc.currentReconIdx, .idle,
    c.log ++ [.encoded c.enc.nextFrame]⟩
  refine ⟨hmoved, trivial, ?_, ?_, ?_, ?_, ?_⟩
  · rw [hframes, List.getLast?_concat]
    rintro f ⟨⟩
    exact isReference_nextFrame hpool hpos hbits h.enc
  · rw [hframes]
    exact h.first.encode _
  · exact h.forced_concat (fun hentry => CaptureEntry.noConfusion hentry)
      fun frames hnext => hnext.encode _
  · rw [hframes]
    intro f hf
    rcases List.mem_append.1 hf with hold | hnew
    · exact h.poc f hold
    · obtain rfl := List.mem_singleton.1 hnew
      refine ⟨hlt, fun hkey => ?_⟩
      have hposition : c.enc.gopPosition ≠ 0 := of_decide_eq_false hkey
      have hnat : c.enc.gopPosition.toNat ≠ 0 := fun hzero =>
        hposition (UInt64.toNat_inj.1 hzero)
      omega
  · rw [hframes]
    refine h.follows.append (List.isChain_singleton _) fun f hf g hg => ?_
    obtain rfl : c.enc.nextFrame = g := Option.some.inj hg
    exact follows_nextFrame hpool hpos hbits h.enc (h.last f hf)

include hpool hpos hbits in
/-- **The step lemma.** -/
theorem Capture.Gop.step {c' : Capture} {event : CaptureEvent} (h : c.Gop enc₀)
    (hapart : Apart c event) (hlands : JumpLands c event) (hstep : captureStep c event = some c') :
    c'.Gop enc₀ := by
  cases moves_of_captureStep hstep with
  | start hphase =>
    exact h.keep rfl h.enc rfl (fun _ href => href) (fun _ hkey => hkey) CaptureEntry.noConfusion
  | render hidr hidle hcurrent => exact h.render (hcurrent h.current)
  | finish hphase => exact h.finish hpool hpos hbits hphase
  | fail =>
    exact h.keep rfl h.enc trivial (fun _ href => href) (fun _ hkey => hkey)
      CaptureEntry.noConfusion
  | forceIdr => exact h.forceIdr hpos hbits (hapart rfl) (hlands rfl)

end Step

/-! ### Runs -/

theorem Capture.gop_init {enc₀ : DbEncoder} (hindex : enc₀.currentReconIdx < dbEncoderSurfacePool)
    (hzero : enc₀.gopPosition = 0) : (Capture.init enc₀).Gop enc₀ where
  enc := ⟨hindex, rfl⟩
  current := trivial
  last f hlast := absurd hlast (Option.not_mem_none f)
  first := hzero
  forced _ _ _ hlog :=
    absurd hlog.symm (List.append_ne_nil_of_right_ne_nil _ (List.cons_ne_nil _ _))
  poc _ hf := absurd hf List.not_mem_nil
  follows := .nil

/-- Without a keyframe the order counts go up one by one. -/
theorem exists_poc_eq {sps : Sps} {pps : Pps} {frames : List EncodedFrame} {f : EncodedFrame}
    (h : (f :: frames).IsChain (Follows sps pps)) (hno : ∀ g ∈ frames, g.isKeyframe = false) :
    ∃ g ∈ f :: frames, g.poc.toInt = f.poc.toInt + frames.length := by
  induction frames generalizing f with
  | nil => exact ⟨f, List.mem_cons_self, (Int.add_zero _).symm⟩
  | cons f' frames ih =>
    obtain ⟨hnext, hrest⟩ := List.isChain_cons_cons.1 h
    obtain ⟨-, -, hpoc, -⟩ := hnext (hno f' List.mem_cons_self)
    obtain ⟨g, hmem, hg⟩ := ih hrest fun g hg => hno g (List.mem_cons_of_mem _ hg)
    refine ⟨g, List.mem_cons_of_mem _ hmem, ?_⟩
    rw [hg, hpoc, List.length_cons]
    omega

/-- The invariant gives everything that fits together. -/
theorem Capture.Gop.consistent {fps : ℤ} (h : c.Gop enc₀) (hfps : enc₀.idrInterval = fps * 2)
    (hpos : 0 < enc₀.idrInterval) : GopConsistent fps (spsOf enc₀) ppsOf c.log where
  first := h.first.head
  forced pre a post hlog ha := (h.forced pre a post hlog ha).head
  period frames hpart hlength := by
    by_contra hno
    have hno' : ∀ g ∈ frames, g.isKeyframe = false := fun g hg =>
      Bool.eq_false_iff.2 fun hkey => hno ⟨g, hg, hkey⟩
    cases frames with
    | nil =>
      rw [List.length_nil] at hlength
      omega
    | cons f frames =>
      have hchain := List.IsChain.infix h.follows hpart
      obtain ⟨g, hmem, hg⟩ := exists_poc_eq hchain fun g hg =>
        hno' g (List.mem_cons_of_mem _ hg)
      have hpos := (h.poc f (hpart.subset List.mem_cons_self)).2 (hno' f List.mem_cons_self)
      have hlt := (h.poc g (hpart.subset hmem)).1
      rw [List.length_cons] at hlength
      omega
  follows := h.follows

/-- **The groups of pictures are consistent**, in every run of an encoder whose encodes
do not overlap with the forcing of an IDR picture, as long as the counter can stand at
every multiple of the interval it is made to jump to. -/
theorem gopConsistent_of_run {width height bitrateKbps fps : ℤ} {surfaces : List VASurfaceID}
    {codedBuf : UInt32} (hfps : 1 ≤ fps) (hfps' : fps ≤ 2048)
    (hlength : surfaces.length = dbEncoderSurfacePool) (hvalid : vaInvalidId ∉ surfaces)
    (hnodup : surfaces.Nodup) {events : List CaptureEvent} {c : Capture}
    (hrun : Run captureStep (fun c e => Apart c e ∧ JumpLands c e)
      (Capture.init (dbEncoderInit width height bitrateKbps fps surfaces codedBuf)) events c) :
    GopConsistent fps (spsOf (dbEncoderInit width height bitrateKbps fps surfaces codedBuf)) ppsOf
      c.log := by
  have hinterval : (dbEncoderInit width height bitrateKbps fps surfaces codedBuf).idrInterval =
      fps * 2 := rfl
  have hpool : (dbEncoderInit width height bitrateKbps fps surfaces codedBuf).Pool :=
    ⟨rfl, hlength, hvalid, hnodup⟩
  have hzero : (dbEncoderInit width height bitrateKbps fps surfaces codedBuf).gopPosition = 0 :=
    UInt64.toNat_inj.1 ((toNat_gopPosition _ (by omega) (by omega)).trans (Nat.zero_mod _))
  have hgop := hrun.invariant (Capture.gop_init (Nat.zero_lt_succ 3) hzero)
    fun _ _ _ h hok hstep => h.step hpool (by omega) (by omega) hok.1 hok.2 hstep
  exact hgop.consistent hinterval (by omega)

/-- A run that meets the condition: an IDR picture, a second frame, an encode that fails,
an IDR picture that is forced, and two more frames. -/
theorem gopConsistent_firstFrames :
    ∃ c, Run captureStep (fun c e => Apart c e ∧ JumpLands c e) (Capture.init firstEncoder)
      (encodeStages ++ encodeStages ++ [.start, .renderPic, .fail, .forceIdr] ++ encodeStages ++
        encodeStages) c ∧
      GopConsistent 60 (spsOf firstEncoder) ppsOf c.log :=
  ⟨_, run_get (by decide +kernel), gopConsistent_of_run (by decide) (by decide) rfl (by decide)
    (by decide) (run_get (by decide +kernel))⟩

/-! ### Over the end of the counter -/

/-- An encode that works. -/
theorem run_encodeStages (enc : DbEncoder) (log : List CaptureEntry) :
    Run captureStep Apart ⟨enc, .idle, log⟩ encodeStages
      ⟨enc.advance enc.currentReconIdx, .idle, log ++ [.started] ++ [.encoded enc.nextFrame]⟩ :=
  .cons CaptureEvent.noConfusion rfl <| .cons CaptureEvent.noConfusion rfl <|
    .cons CaptureEvent.noConfusion rfl <| .cons CaptureEvent.noConfusion rfl <|
      .cons CaptureEvent.noConfusion rfl .start

/-- One that works, and an IDR picture forced behind it. -/
theorem run_encode_forceIdr (enc : DbEncoder) (log : List CaptureEntry) :
    Run captureStep Apart ⟨enc, .idle, log⟩ (encodeStages ++ [.forceIdr])
      ⟨dbEncoderForceIdr (enc.advance enc.currentReconIdx), .idle,
        log ++ [.started] ++ [.encoded enc.nextFrame] ++ [.forced]⟩ :=
  .snoc (run_encodeStages enc log) (fun _ => rfl) rfl

/-- A frame at the start of a group, and an IDR picture that is forced after it: the
counter is where its overflow puts the next group. -/
theorem frameCount_forceIdr_advance {enc : DbEncoder} {k : ℕ} (hinterval : enc.idrInterval = 120)
    (hcount : enc.frameCount.toNat = 120 * k) :
    (dbEncoderForceIdr (enc.advance enc.currentReconIdx)).frameCount.toNat =
      120 * (k + 1) % 2 ^ 64 := by
  have hbound := enc.frameCount.toNat_lt
  have hsucc : (enc.advance enc.currentReconIdx).frameCount.toNat = 120 * k + 1 := by
    have hadd : (enc.frameCount + 1).toNat = (enc.frameCount.toNat + 1) % 2 ^ 64 :=
      UInt64.toNat_add _ _
    rw [hcount] at hadd
    exact hadd.trans (Nat.mod_eq_of_lt (by omega))
  have hinterval' : (enc.advance enc.currentReconIdx).idrInterval.toNat = 120 :=
    congrArg Int.toNat hinterval
  have h₀ : 0 < (enc.advance enc.currentReconIdx).idrInterval := by omega
  have h₁ : (enc.advance enc.currentReconIdx).idrInterval < 2 ^ 31 := by omega
  have hposition : (enc.advance enc.currentReconIdx).gopPosition.toNat = 1 := by
    rw [DbEncoder.gopPosition, toNat_gopPosition _ h₀ h₁, hsucc, hinterval']
    omega
  have hne : (enc.advance enc.currentReconIdx).gopPosition ≠ 0 := fun hzero => by
    rw [hzero] at hposition
    cases hposition
  rw [toNat_frameCount_forceIdr h₀ h₁ hne, hsucc, hinterval', hposition]
  rfl

/-- Every multiple of the interval is reached. -/
theorem exists_run_frameCount (k : ℕ) (hk : 120 * k < 2 ^ 64) :
    ∃ enc log, Run captureStep Apart (Capture.init firstEncoder)
      (List.replicate k (encodeStages ++ [.forceIdr])).flatten ⟨enc, .idle, log⟩ ∧
      enc.idrInterval = 120 ∧ enc.frameCount.toNat = 120 * k := by
  induction k with
  | zero => exact ⟨firstEncoder, [], .start, rfl, rfl⟩
  | succ k ih =>
    obtain ⟨enc, log, hrun, hinterval, hcount⟩ := ih (by omega)
    obtain ⟨frameCount, heq⟩ := forceIdr_eq (enc.advance enc.currentReconIdx)
    have hnext := hrun.append (run_encode_forceIdr enc log)
    rw [List.replicate_succ', List.flatten_concat]
    refine ⟨_, _, hnext, ?_, ?_⟩
    · rw [heq]
      exact hinterval
    · exact (frameCount_forceIdr_advance hinterval hcount).trans (Nat.mod_eq_of_lt hk)

/-- **The jump over the end of the counter is lost.** After 153722867280912930 frames, with
an IDR picture forced behind each of them, the counter is 16 below its end. When one more
frame is encoded and an IDR picture forced, it overflows to 104, which is not a multiple of
120, and the next frame is not a keyframe. -/
theorem not_gopConsistent_overflow :
    ∃ c, Run captureStep Apart (Capture.init firstEncoder)
      ((List.replicate 153722867280912930 (encodeStages ++ [.forceIdr])).flatten ++
        (encodeStages ++ [.forceIdr]) ++ encodeStages) c ∧
      ¬ GopConsistent 60 (spsOf firstEncoder) ppsOf c.log := by
  obtain ⟨enc, log, hrun, hinterval, hcount⟩ :=
    exists_run_frameCount 153722867280912930 (by decide)
  have hover : (dbEncoderForceIdr (enc.advance enc.currentReconIdx)).frameCount.toNat = 104 :=
    frameCount_forceIdr_advance hinterval hcount
  obtain ⟨frameCount, heq⟩ := forceIdr_eq (enc.advance enc.currentReconIdx)
  have hinterval' : (dbEncoderForceIdr (enc.advance enc.currentReconIdx)).idrInterval = 120 := by
    rw [heq]
    exact hinterval
  have hposition :
      (dbEncoderForceIdr (enc.advance enc.currentReconIdx)).gopPosition.toNat = 104 := by
    rw [DbEncoder.gopPosition, toNat_gopPosition _ (by omega) (by omega), hover, hinterval']
    rfl
  have hkey : (dbEncoderForceIdr (enc.advance enc.currentReconIdx)).nextFrame.isKeyframe =
      false := decide_eq_false fun hzero => by
    rw [hzero] at hposition
    cases hposition
  refine ⟨_, (hrun.append (run_encode_forceIdr enc log)).append (run_encodeStages _ _),
    fun hgop => ?_⟩
  have := hgop.forced (log ++ [.started] ++ [.encoded enc.nextFrame]) .forced
    [.started, .encoded (dbEncoderForceIdr (enc.advance enc.currentReconIdx)).nextFrame]
    (by simp only [List.append_assoc, List.cons_append, List.nil_append]) rfl _ rfl
  rw [hkey] at this
  cases this

end DisplayBridge
