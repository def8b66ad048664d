import DisplayBridge.Lib.Runs
import DisplayBridge.Ubuntu.SliceHeader

/-!
# Encoding one frame

`encode_surface` reads the frame counter at four places – to decide whether the
picture is an IDR picture, for the picture parameters, for the packed slice header
and for the slice parameters – and advances it at the end, when everything the
driver was asked to do has worked. This takes about ten milliseconds, and
`db_encoder_force_idr` runs on another thread. So it is a step machine here
(`DisplayBridge.captureStep`), with one step for each of these places, and a step
of the other thread may stand between any two of them.

What the driver answers is in the events: any stage may fail, which ends the
encode and leaves the counter where it is. The rate control is not a stage; it
reads the counter only to tell the driver about the very first frame, and its
result is not looked at.

Alone, the stages add up to one step, `DisplayBridge.encodeSurface`
(`DisplayBridge.exec_encodeSurface`). Everything that is said about encodes which
are not disturbed is said about that function.
-/

namespace DisplayBridge

/-- A frame that was encoded, given by what the driver was told about it. -/
structure EncodedFrame where
  isKeyframe : Bool
  pic : VAEncPictureParameterBufferHEVC
  header : List UInt8
  slice : VAEncSliceParameterBufferHEVC
deriving DecidableEq

/-- The surface the frame was reconstructed on. -/
def EncodedFrame.surface (f : EncodedFrame) : VASurfaceID := f.pic.decodedCurrPic.pictureId

/-- The order count the frame was encoded with. -/
def EncodedFrame.poc (f : EncodedFrame) : Int32 := f.pic.decodedCurrPic.picOrderCnt

/-- The driver was told about the reference, in both places. -/
def EncodedFrame.Names (f : EncodedFrame) (reference : VAPictureHEVC) : Prop :=
  f.pic.referenceFrames.head? = some reference ∧ f.slice.refPicList0.head? = some reference

/-- The local variables of `encode_surface` that are set at its start. -/
structure Encode where
  isIdr : Bool
  curRecon : ℕ
  reconSurface : VASurfaceID
  refSurface : VASurfaceID
deriving DecidableEq

/-- The decisions taken at the start of `encode_surface`. -/
def DbEncoder.startEncode (enc : DbEncoder) : Encode where
  isIdr := decide (enc.gopPosition = 0)
  curRecon := enc.currentReconIdx
  reconSurface := enc.reconSurface
  refSurface := enc.refSurface (decide (enc.gopPosition = 0))

/-- The end of `encode_surface`. -/
def DbEncoder.advance (enc : DbEncoder) (curRecon : ℕ) : DbEncoder :=
  { enc with
    currentReconIdx := (curRecon + 1) % enc.numReconSurfaces
    frameCount := enc.frameCount + 1 }

/-! ### Without interruption -/

/-- The frame the encoder would encode next. -/
def DbEncoder.nextFrame (enc : DbEncoder) : EncodedFrame where
  isKeyframe := enc.startEncode.isIdr
  pic := fillPicParam enc enc.startEncode.reconSurface enc.startEncode.refSurface
    enc.startEncode.isIdr
  header := writeSliceHeader enc enc.startEncode.isIdr
  slice := fillSliceParam enc enc.startEncode.refSurface enc.startEncode.isIdr

/-- `encode_surface` in one step: the frame and the encoder after it, when the
driver does what it is asked. -/
def encodeSurface (enc : DbEncoder) : EncodedFrame × DbEncoder :=
  (enc.nextFrame, enc.advance enc.currentReconIdx)

/-- The surface of a frame becomes the one before the next. -/
theorem prevRecon_advance {enc : DbEncoder} (hpool : enc.numReconSurfaces = dbEncoderSurfacePool)
    (hindex : enc.currentReconIdx < dbEncoderSurfacePool) :
    (enc.advance enc.currentReconIdx).prevRecon = enc.currentReconIdx := by
  simp only [DbEncoder.prevRecon, DbEncoder.advance, hpool]
  simp only [dbEncoderSurfacePool] at hindex ⊢
  omega

/-- **The reference of a picture that is not an IDR picture**: the surface before
its own, with the order count of the frame number before its own. -/
theorem names_nextFrame {enc : DbEncoder} (hidr : enc.nextFrame.isKeyframe = false)
    (hvalid : enc.surfaceAt enc.prevRecon ≠ vaInvalidId) :
    enc.nextFrame.Names ⟨enc.surfaceAt enc.prevRecon,
      pocOf (enc.frameCount - 1) enc.idrInterval, vaPictureHevcRpsStCurrBefore⟩ := by
  have hno : enc.startEncode.isIdr = false := hidr
  have hsurface : enc.startEncode.refSurface = enc.surfaceAt enc.prevRecon := if_neg (by
    rw [show decide (enc.gopPosition = 0) = false from hno]
    exact Bool.false_ne_true)
  have hlist : referenceList enc enc.startEncode.refSurface enc.startEncode.isIdr =
      (List.replicate 15 VAPictureHEVC.unused).set 0 ⟨enc.surfaceAt enc.prevRecon,
        pocOf (enc.frameCount - 1) enc.idrInterval, vaPictureHevcRpsStCurrBefore⟩ := by
    rw [referenceList, hno, hsurface]
    exact if_pos (by simpa using hvalid)
  exact ⟨congrArg List.head? hlist, congrArg List.head? hlist⟩

/-! ### Stage by stage -/

/-- Where the capture thread is. -/
inductive Phase
  | idle
  | decided (e : Encode)
  | picRendered (e : Encode) (pic : VAEncPictureParameterBufferHEVC)
  | headerRendered (e : Encode) (pic : VAEncPictureParameterBufferHEVC) (header : List UInt8)
  | sliceRendered (e : Encode) (pic : VAEncPictureParameterBufferHEVC) (header : List UInt8)
      (slice : VAEncSliceParameterBufferHEVC)
deriving DecidableEq

/-- What an observer of the encoder writes down. -/
inductive CaptureEntry
  | started
  | encoded (f : EncodedFrame)
  | failed
  | forced
deriving DecidableEq

/-- The capture thread, the encoder it shares, and what has happened so far. -/
structure Capture where
  enc : DbEncoder
  phase : Phase
  log : List CaptureEntry
deriving DecidableEq

/-- A step of the capture thread, or `db_encoder_force_idr` on the main thread. -/
inductive CaptureEvent
  | start
  | renderPic
  | renderHeader
  | renderSlice
  | finish
  | fail
  | forceIdr
deriving DecidableEq

/-- One step. -/
def captureStep (c : Capture) : CaptureEvent → Option Capture
  | .start =>
    match c.phase with
    | .idle => some { c with phase := .decided c.enc.startEncode, log := c.log ++ [.started] }
    | _ => none
  | .renderPic =>
    match c.phase with
    | .decided e =>
      some { c with
        -- the counter is read again, and may have moved since `e` was decided
        phase := .picRendered e (fillPicParam c.enc e.reconSurface e.refSurface e.isIdr) }
    | _ => none
  | .renderHeader =>
    match c.phase with
    | .picRendered e pic =>
      some { c with phase := .headerRendered e pic (writeSliceHeader c.enc e.isIdr) }
    | _ => none
  | .renderSlice =>
    match c.phase with
    | .headerRendered e pic header =>
      some { c with
        phase := .sliceRendered e pic header (fillSliceParam c.enc e.refSurface e.isIdr) }
    | _ => none
  | .finish =>
    match c.phase with
    | .sliceRendered e pic header slice =>
      some {
        -- one more than the counter is now, not than it was at the start
        enc := c.enc.advance e.curRecon
        phase := .idle
        log := c.log ++ [.encoded ⟨e.isIdr, pic, header, slice⟩] }
    | _ => none
  | .fail =>
    match c.phase with
    | .idle => none
    | _ => some { c with phase := .idle, log := c.log ++ [.failed] }
  | .forceIdr =>
    some { c with enc := dbEncoderForceIdr c.enc, log := c.log ++ [.forced] }

/-- The stages of an encode that works, in order. -/
def encodeStages : List CaptureEvent := [.start, .renderPic, .renderHeader, .renderSlice, .finish]

/-- **Alone, the stages are one step.** -/
theorem exec_encodeSurface (enc : DbEncoder) (log : List CaptureEntry) :
    Runs.exec captureStep (fun _ _ => True) ⟨enc, .idle, log⟩ encodeStages =
      some ⟨(encodeSurface enc).2, .idle,
        log ++ [.started] ++ [.encoded (encodeSurface enc).1]⟩ := rfl

end DisplayBridge
