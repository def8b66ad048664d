import DisplayBridge.Ubuntu.Encode

/-!
# When a forced IDR picture is lost

The header of `db_encoder_force_idr` promises an IDR frame on the next encode
call. This file says what the promise is over whole runs, on the history the
capture thread leaves:

* `DisplayBridge.ForcedIdrKept` – the first frame whose encoding starts after the
  call and that is encoded is a keyframe;
* `DisplayBridge.ReferencesNamed` – every other frame names, as the order count of
  its reference, the one its reference was really encoded with.

Both break in the same way, when the call lands inside an encode: the encode has
decided what it is already, it advances the counter past the multiple that was
jumped to, and the next encode starts one position after it – not an IDR picture,
and with a reference named by a number nothing was encoded with
(`DisplayBridge.not_forcedIdrKept_inside_encode`).

They hold in every other run: where no encode during which an IDR picture was
forced comes to a successful end, and the counter does not overflow
(`DisplayBridge.forcedIdrKept_of_run`). An encode that fails is harmless, because
it leaves the counter where the call has put it.

## The invariant

Three facts carry the proof. While no IDR picture has been forced since an encode
started, everything the encode has fixed is what the encoder would fix now
(`DisplayBridge.Phase.Current`). A picture that will not be an IDR picture has a
reference, and it is the last thing encoded on its surface
(`DisplayBridge.Capture.Inv.reference`). And as long as a forced picture is owed,
the counter stands at a multiple of the interval (`DisplayBridge.Owed.Safe`).
-/

namespace DisplayBridge

open Runs

/-! ### What is promised -/

/-- The search for the first frame whose encoding starts after some point: waiting
for an encode to start, inside one, or done. -/
inductive Owed
  | waiting
  | started
  | found (f : EncodedFrame)

/-- One entry of the history further. -/
def Owed.step : Owed → CaptureEntry → Owed
  | .waiting, .started => .started
  | .started, .encoded f => .found f
  | .started, .failed => .waiting
  | o, _ => o

/-- **A forced IDR picture is kept**: the first frame whose encoding starts after
the call, and that is encoded, is a keyframe. -/
def ForcedIdrKept (log : List CaptureEntry) : Prop :=
  ∀ pre a post, log = pre ++ a :: post → a = .forced →
    ∀ f, post.foldl Owed.step .waiting = .found f → f.isKeyframe = true

/-- The last frame encoded on a surface. -/
def lastOn (surface : VASurfaceID) (log : List CaptureEntry) : Option EncodedFrame :=
  log.foldl (fun last a =>
    match a with
    | .encoded f => if f.surface = surface then some f else last
    | _ => last) none

/-- **References are named right**: a frame that is not a keyframe names one
reference, and by the order count of the frame last encoded on that surface. -/
def ReferencesNamed (log : List CaptureEntry) : Prop :=
  ∀ pre a post, log = pre ++ a :: post → ∀ f, a = .encoded f → f.isKeyframe = false →
    ∃ reference g, f.Names reference ∧ lastOn reference.pictureId pre = some g ∧
      reference.picOrderCnt = g.poc

/-! ### The condition -/

/-- An IDR picture has been forced since the last encode started. -/
def forcedSinceStart (log : List CaptureEntry) : Bool :=
  log.foldl (fun forced a =>
    match a with
    | .started => false
    | .forced => true
    | _ => forced) false

/-- No encode during which an IDR picture was forced ends well, and the counter
does not overflow. -/
def Undisturbed (c : Capture) : CaptureEvent → Prop
  | .finish => forcedSinceStart c.log = false
  | .forceIdr => c.enc.HasRoom
  | _ => True

instance (c : Capture) (e : CaptureEvent) : Decidable (Undisturbed c e) := by
  cases e <;> unfold Undisturbed <;> infer_instance

/-! ### The invariant -/

/-- What an encode has fixed is what the encoder would fix now. -/
def Phase.Current (enc : DbEncoder) : Phase → Prop
  | .idle => True
  | .decided e => e = enc.startEncode
  | .picRendered e pic => e = enc.startEncode ∧ pic = enc.nextFrame.pic
  | .headerRendered e pic header =>
    e = enc.startEncode ∧ pic = enc.nextFrame.pic ∧ header = enc.nextFrame.header
  | .sliceRendered e pic header slice =>
    e = enc.startEncode ∧ pic = enc.nextFrame.pic ∧ header = enc.nextFrame.header ∧
      slice = enc.nextFrame.slice

/-- Whether the picture being encoded is an IDR picture, if one is. -/
def Phase.isIdr : Phase → Option Bool
  | .idle => none
  | .decided e | .picRendered e _ | .headerRendered e _ _ | .sliceRendered e _ _ _ => some e.isIdr

/-- What a step can do. The three stages that only hand something to the driver are one
move: they change nothing but the phase, keep what was decided, and what they fix is
what the encoder says now. -/
inductive Capture.Moves (c : Capture) : CaptureEvent → Capture → Prop
  | start (hphase : c.phase = .idle) :
      Moves c .start
        { c with phase := .decided c.enc.startEncode, log := c.log ++ [.started] }
  | render {event : CaptureEvent} {phase : Phase} (hidr : phase.isIdr = c.phase.isIdr)
      (hidle : c.phase ≠ .idle) (hcurrent : c.phase.Current c.enc → phase.Current c.enc) :
      Moves c event { c with phase := phase }
  | finish {e : Encode} {pic : VAEncPictureParameterBufferHEVC} {header : List UInt8}
      {slice : VAEncSliceParameterBufferHEVC}
      (hphase : c.phase = .sliceRendered e pic header slice) :
      Moves c .finish {
        enc := c.enc.advance e.curRecon
        phase := .idle
        log := c.log ++ [.encoded ⟨e.isIdr, pic, header, slice⟩] }
  | fail (hphase : c.phase ≠ .idle) :
      Moves c .fail { c with phase := .idle, log := c.log ++ [.failed] }
  | forceIdr :
      Moves c .forceIdr
        { c with enc := dbEncoderForceIdr c.enc, log := c.log ++ [.forced] }

/-- **Every step is one of the moves.** -/
theorem moves_of_captureStep {c c' : Capture} {event : CaptureEvent}
    (h : captureStep c event = some c') : c.Moves event c' := by
  cases event with
  | start =>
    rw [captureStep] at h
    split at h
    · next hphase =>
      cases h
      exact .start hphase
    · cases h
  | renderPic =>
    rw [captureStep] at h
    split at h
    · next e hphase =>
      cases h
      refine .render (by rw [hphase]; rfl) (by rw [hphase]; exact Phase.noConfusion) ?_
      rw [hphase]
      rintro rfl
      exact ⟨rfl, rfl⟩
    · cases h
  | renderHeader =>
    rw [captureStep] at h
    split at h
    · next e pic hphase =>
      cases h
      refine .render (by rw [hphase]; rfl) (by rw [hphase]; exact Phase.noConfusion) ?_
      rw [hphase]
      rintro ⟨rfl, rfl⟩
      exact ⟨rfl, rfl, rfl⟩
    · cases h
  | renderSlice =>
    rw [captureStep] at h
    split at h
    · next e pic header hphase =>
      cases h
      refine .render (by rw [hphase]; rfl) (by rw [hphase]; exact Phase.noConfusion) ?_
      rw [hphase]
      rintro ⟨rfl, rfl, rfl⟩
      exact ⟨rfl, rfl, rfl, rfl⟩
    · cases h
  | finish =>
    rw [captureStep] at h
    split at h
    · next e pic header slice hphase =>
      cases h
      exact .finish hphase
    · cases h
  | fail =>
    rw [captureStep] at h
    split at h
    · cases h
    · next hphase =>
      cases h
      exact .fail hphase
  | forceIdr =>
    cases h
    exact .forceIdr

/-- What the capture thread may do to a picture that is owed. -/
def Owed.Safe (c : Capture) : Owed → Prop
  | .waiting =>
    c.enc.gopPosition = 0 ∧ (c.phase = .idle ∨ forcedSinceStart c.log = true)
  | .started => c.enc.gopPosition = 0 ∧ c.phase.isIdr = some true
  | .found f => f.isKeyframe = true

/-- The invariant of the undisturbed runs. -/
structure Capture.Inv (c : Capture) : Prop where
  pool : c.enc.numReconSurfaces = dbEncoderSurfacePool
  index : c.enc.currentReconIdx < dbEncoderSurfacePool
  interval_pos : 0 < c.enc.idrInterval
  interval_lt : c.enc.idrInterval < 2 ^ 31
  valid : ∀ i < dbEncoderSurfacePool, c.enc.surfaceAt i ≠ vaInvalidId
  current : forcedSinceStart c.log = false → c.phase.Current c.enc
  reference : c.enc.gopPosition = 0 ∨
    ∃ g, lastOn (c.enc.surfaceAt c.enc.prevRecon) c.log = some g ∧
      g.poc = pocOf (c.enc.frameCount - 1) c.enc.idrInterval
  owed : ∀ pre a post, c.log = pre ++ a :: post → a = .forced →
    (post.foldl Owed.step .waiting).Safe c
  named : ReferencesNamed c.log

/-! ### One more entry -/

theorem lastOn_concat (surface : VASurfaceID) (log : List CaptureEntry) (a : CaptureEntry) :
    lastOn surface (log ++ [a]) =
      match a with
      | .encoded f => if f.surface = surface then some f else lastOn surface log
      | _ => lastOn surface log := by
  rw [lastOn, List.foldl_append]
  rfl

theorem forcedSinceStart_concat (log : List CaptureEntry) (a : CaptureEntry) :
    forcedSinceStart (log ++ [a]) =
      match a with
      | .started => false
      | .forced => true
      | _ => forcedSinceStart log := by
  rw [forcedSinceStart, List.foldl_append]
  rfl

theorem referencesNamed_concat {log : List CaptureEntry} {a : CaptureEntry} :
    ReferencesNamed (log ++ [a]) ↔
      (∀ f, a = .encoded f → f.isKeyframe = false →
        ∃ reference g, f.Names reference ∧ lastOn reference.pictureId log = some g ∧
          reference.picOrderCnt = g.poc) ∧ ReferencesNamed log :=
  forall_split_concat

/-! ### Each step keeps the invariant -/

variable {c : Capture}

/-- What is owed after one more entry: what was owed before it, one step further,
and one more picture if the entry is a forced one. -/
theorem Capture.Inv.owed_concat (h : c.Inv) {c' : Capture} {x : CaptureEntry}
    (hforced : x = .forced → Owed.waiting.Safe c')
    (hstep : ∀ o : Owed, o.Safe c → (o.step x).Safe c') :
    ∀ pre a post, c.log ++ [x] = pre ++ a :: post → a = .forced →
      (post.foldl Owed.step .waiting).Safe c' := by
  refine forall_split_concat.2 ⟨hforced, ?_⟩
  intro pre a post hlog ha
  rw [List.foldl_append]
  exact hstep _ (h.owed pre a post hlog ha)

theorem Capture.Inv.start (h : c.Inv) (hphase : c.phase = .idle) :
    Capture.Inv { c with phase := .decided c.enc.startEncode, log := c.log ++ [.started] } where
  pool := h.pool
  index := h.index
  interval_pos := h.interval_pos
  interval_lt := h.interval_lt
  valid := h.valid
  current _ := rfl
  reference := by
    rw [lastOn_concat]
    exact h.reference
  owed := by
    refine h.owed_concat (fun hentry => CaptureEntry.noConfusion hentry) fun o ho => ?_
    cases o with
    | waiting =>
      -- an encode that starts at a multiple of the interval is an IDR picture
      have hidr : c.enc.startEncode.isIdr = true := decide_eq_true ho.1
      exact ⟨ho.1, congrArg some hidr⟩
    | started =>
      have hidr := ho.2
      rw [hphase] at hidr
      cases hidr
    | found f => exact ho
  named := referencesNamed_concat.2 ⟨fun _ hentry => CaptureEntry.noConfusion hentry, h.named⟩

/-- A stage that only hands something to the driver. -/
theorem Capture.Inv.render (h : c.Inv) {phase : Phase} (hidr : phase.isIdr = c.phase.isIdr)
    (hidle : c.phase ≠ .idle)
    (hcurrent : c.phase.Current c.enc → phase.Current c.enc) :
    Capture.Inv { c with phase := phase } where
  pool := h.pool
  index := h.index
  interval_pos := h.interval_pos
  interval_lt := h.interval_lt
  valid := h.valid
  current hforced := hcurrent (h.current hforced)
  reference := h.reference
  owed pre a post hlog ha := by
    have hsafe := h.owed pre a post hlog ha
    generalize post.foldl Owed.step .waiting = o at hsafe ⊢
    cases o with
    | waiting => exact ⟨hsafe.1, .inr (hsafe.2.resolve_left hidle)⟩
    | started => exact ⟨hsafe.1, hidr.trans hsafe.2⟩
    | found f => exact hsafe
  named := h.named

theorem Capture.Inv.fail (h : c.Inv) :
    Capture.Inv { c with phase := .idle, log := c.log ++ [.failed] } where
  pool := h.pool
  index := h.index
  interval_pos := h.interval_pos
  interval_lt := h.interval_lt
  valid := h.valid
  current _ := trivial
  reference := by
    rw [lastOn_concat]
    exact h.reference
  owed := by
    refine h.owed_concat (fun hentry => CaptureEntry.noConfusion hentry) fun o ho => ?_
    cases o with
    | waiting => exact ⟨ho.1, .inl rfl⟩
    | started =>
      -- the picture is owed again, and the counter has not moved
      exact ⟨ho.1, .inl rfl⟩
    | found f => exact ho
  named := referencesNamed_concat.2 ⟨fun _ hentry => CaptureEntry.noConfusion hentry, h.named⟩

theorem Capture.Inv.forceIdr (h : c.Inv) (hroom : c.enc.HasRoom) :
    Capture.Inv { c with enc := dbEncoderForceIdr c.enc, log := c.log ++ [.forced] } := by
  have hzero := gopPosition_forceIdr h.interval_pos h.interval_lt hroom
  obtain ⟨frameCount, heq⟩ := forceIdr_eq c.enc
  have hforced : forcedSinceStart (c.log ++ [.forced]) = true := forcedSinceStart_concat _ _
  rw [heq] at hzero ⊢
  exact {
    pool := h.pool
    index := h.index
    interval_pos := h.interval_pos
    interval_lt := h.interval_lt
    valid := h.valid
    current := fun hno => absurd (hforced.symm.trans hno) nofun
    reference := .inl hzero
    owed := by
      refine h.owed_concat (fun _ => ⟨hzero, .inr hforced⟩) fun o ho => ?_
      cases o with
      | waiting => exact ⟨hzero, .inr hforced⟩
      | started => exact ⟨hzero, ho.2⟩
      | found f => exact ho
    named := referencesNamed_concat.2 ⟨fun _ hentry => CaptureEntry.noConfusion hentry, h.named⟩ }

/-- The one step that advances the counter. Here the side condition is used: what
the encode has fixed at its start is still true. -/
theorem Capture.Inv.finish (h : c.Inv) {e : Encode} {pic : VAEncPictureParameterBufferHEVC}
    {header : List UInt8} {slice : VAEncSliceParameterBufferHEVC}
    (hphase : c.phase = .sliceRendered e pic header slice)
    (hforced : forcedSinceStart c.log = false) :
    Capture.Inv {
      enc := c.enc.advance e.curRecon
      phase := .idle
      log := c.log ++ [.encoded ⟨e.isIdr, pic, header, slice⟩] } := by
  have hcurrent := h.current hforced
  rw [hphase] at hcurrent
  obtain ⟨rfl, rfl, rfl, rfl⟩ := hcurrent
  have hprev : (c.enc.advance c.enc.startEncode.curRecon).prevRecon = c.enc.currentReconIdx :=
    prevRecon_advance h.pool h.index
  have hcount : (c.enc.advance c.enc.startEncode.curRecon).frameCount - 1 = c.enc.frameCount :=
    UInt64.add_sub_cancel _ _
  refine ⟨h.pool, ?_, h.interval_pos, h.interval_lt, h.valid, fun _ => trivial, .inr ?_, ?_, ?_⟩
  · have hindex : (c.enc.advance c.enc.startEncode.curRecon).currentReconIdx =
        (c.enc.currentReconIdx + 1) % c.enc.numReconSurfaces := rfl
    rw [hindex, h.pool]
    exact Nat.mod_lt _ (by decide)
  · -- the frame that was just encoded is the next reference
    refine ⟨c.enc.nextFrame, ?_, ?_⟩
    · rw [lastOn_concat, hprev]
      exact if_pos rfl
    · rw [hcount]
      rfl
  · refine h.owed_concat (fun hentry => CaptureEntry.noConfusion hentry) fun o ho => ?_
    cases o with
    | waiting =>
      -- no picture can be owed here: the encode is not idle, and nothing was forced in it
      rcases ho.2 with hidle | hforced'
      · rw [hphase] at hidle
        cases hidle
      · rw [hforced] at hforced'
        cases hforced'
    | started =>
      have hidr := ho.2
      rw [hphase] at hidr
      exact Option.some.inj hidr
    | found f => exact ho
  · refine referencesNamed_concat.2 ⟨?_, h.named⟩
    rintro _ ⟨⟩ hkey
    have hpos : c.enc.gopPosition ≠ 0 := of_decide_eq_false hkey
    obtain ⟨g, hlast, hpoc⟩ := h.reference.resolve_left hpos
    have hlt : c.enc.prevRecon < dbEncoderSurfacePool := by
      rw [DbEncoder.prevRecon, h.pool]
      exact Nat.mod_lt _ (by decide)
    exact ⟨_, g, names_nextFrame hkey (h.valid _ hlt), hlast, hpoc.symm⟩

/-- **The step lemma.** -/
theorem Capture.Inv.step {c' : Capture} {event : CaptureEvent} (h : c.Inv)
    (hok : Undisturbed c event) (hstep : captureStep c event = some c') : c'.Inv := by
  cases moves_of_captureStep hstep with
  | start hphase => exact h.start hphase
  | render hidr hidle hcurrent => exact h.render hidr hidle hcurrent
  | finish hphase => exact h.finish hphase hok
  | fail => exact h.fail
  | forceIdr => exact h.forceIdr hok

/-! ### Runs -/

/-- The capture thread at the start, over surfaces the driver has created. -/
def Capture.init (enc : DbEncoder) : Capture := ⟨enc, .idle, []⟩

theorem Capture.inv_init {width height bitrateKbps fps : ℤ} {surfaces : List VASurfaceID}
    {codedBuf : UInt32} (hfps : 1 ≤ fps) (hfps' : fps * 2 < 2 ^ 31)
    (hvalid : ∀ i < dbEncoderSurfacePool, surfaces.getD i vaInvalidId ≠ vaInvalidId) :
    (Capture.init (dbEncoderInit width height bitrateKbps fps surfaces codedBuf)).Inv where
  pool := rfl
  index := Nat.zero_lt_succ 3
  interval_pos := by
    change 0 < fps * 2
    omega
  interval_lt := hfps'
  valid := hvalid
  current _ := trivial
  reference := .inl (by
    refine UInt64.toNat_inj.1 ((toNat_gopPosition _ (?_ : 0 < fps * 2) hfps').trans ?_)
    · omega
    · exact Nat.zero_mod _)
  owed pre a post hlog := absurd hlog.symm (by simp [Capture.init])
  named pre a post hlog := absurd hlog.symm (by simp [Capture.init])

/-- **A forced IDR picture is kept, and references are named right**, in every run
of an encoder in which no encode during which a picture was forced ends well, and
the counter does not overflow. -/
theorem forcedIdrKept_of_run {width height bitrateKbps fps : ℤ} {surfaces : List VASurfaceID}
    {codedBuf : UInt32} (hfps : 1 ≤ fps) (hfps' : fps * 2 < 2 ^ 31)
    (hvalid : ∀ i < dbEncoderSurfacePool, surfaces.getD i vaInvalidId ≠ vaInvalidId)
    {events : List CaptureEvent} {c : Capture}
    (hrun : Run captureStep Undisturbed
      (Capture.init (dbEncoderInit width height bitrateKbps fps surfaces codedBuf)) events c) :
    ForcedIdrKept c.log ∧ ReferencesNamed c.log := by
  have hinv : c.Inv := hrun.invariant (Capture.inv_init hfps hfps' hvalid)
    fun _ _ _ h hok hstep => h.step hok hstep
  refine ⟨?_, hinv.named⟩
  intro pre a post hlog ha f hf
  have hsafe := hinv.owed pre a post hlog ha
  rw [hf] at hsafe
  exact hsafe

/-- A run that meets the condition: an encode, an IDR picture forced inside the
second, which fails, and a third. -/
theorem forcedIdrKept_after_failed_encode :
    let log : List CaptureEntry :=
      [.started, .encoded firstEncoder.nextFrame, .started, .forced, .failed, .started,
        .encoded (dbEncoderForceIdr (firstEncoder.advance 0)).nextFrame]
    ForcedIdrKept log ∧ ReferencesNamed log := by
  have hrun : Run captureStep Undisturbed (Capture.init firstEncoder)
      (encodeStages ++ [.start, .renderPic, .forceIdr, .fail] ++ encodeStages)
      ⟨(dbEncoderForceIdr (firstEncoder.advance 0)).advance 1, .idle,
        [.started, .encoded firstEncoder.nextFrame, .started, .forced, .failed, .started,
          .encoded (dbEncoderForceIdr (firstEncoder.advance 0)).nextFrame]⟩ :=
    run_of_exec (by decide +kernel)
  exact forcedIdrKept_of_run (by decide) (by decide) (by decide) hrun

/-- **The call that lands inside an encode is lost**: an IDR picture, a second
frame during which another one is forced, and a third – which is not a keyframe,
and names the order count 0 for a reference that was encoded with 1. -/
theorem not_forcedIdrKept_inside_encode :
    ∃ events c, Run captureStep (fun _ _ => True) (Capture.init firstEncoder) events c ∧
      ¬ ForcedIdrKept c.log ∧ ¬ ReferencesNamed c.log := by
  let second := firstEncoder.advance 0
  let forced := dbEncoderForceIdr second
  let disturbed : EncodedFrame :=
    ⟨false, second.nextFrame.pic, writeSliceHeader forced false, fillSliceParam forced 0 false⟩
  let third := forced.advance 1
  have hrun : Run captureStep (fun _ _ => True) (Capture.init firstEncoder)
      (encodeStages ++ [.start, .renderPic, .forceIdr, .renderHeader, .renderSlice, .finish] ++
        encodeStages)
      ⟨third.advance 2, .idle,
        [.started, .encoded firstEncoder.nextFrame, .started, .forced, .encoded disturbed,
          .started, .encoded third.nextFrame]⟩ :=
    run_of_exec (by decide +kernel)
  have hkey : third.nextFrame.isKeyframe = false := by decide +kernel
  refine ⟨_, _, hrun, ?_, ?_⟩
  · intro hkept
    have := hkept [.started, .encoded firstEncoder.nextFrame, .started] .forced
      [.encoded disturbed, .started, .encoded third.nextFrame] rfl rfl third.nextFrame rfl
    rw [hkey] at this
    cases this
  · intro hnamed
    obtain ⟨reference, g, ⟨hpic, -⟩, hlast, hpoc⟩ := hnamed
      [.started, .encoded firstEncoder.nextFrame, .started, .forced, .encoded disturbed, .started]
      (.encoded third.nextFrame) [] rfl third.nextFrame rfl hkey
    -- the reference is on surface 1, with the order count 0
    have href : third.nextFrame.pic.referenceFrames.head? =
        some ⟨1, 0, vaPictureHevcRpsStCurrBefore⟩ := by decide +kernel
    obtain rfl : ⟨1, 0, vaPictureHevcRpsStCurrBefore⟩ = reference :=
      Option.some.inj (href.symm.trans hpic)
    have hg : lastOn 1 [.started, .encoded firstEncoder.nextFrame, .started, .forced,
        .encoded disturbed, .started] = some disturbed := by decide +kernel
    obtain rfl : disturbed = g := Option.some.inj (hg.symm.trans hlast)
    exact absurd hpoc (by decide +kernel)

end DisplayBridge
