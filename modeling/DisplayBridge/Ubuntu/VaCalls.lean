import DisplayBridge.Lib.Calls
import DisplayBridge.PackedHeaders
import DisplayBridge.Ubuntu.Capture
import DisplayBridge.Ubuntu.Encode
import DisplayBridge.Ubuntu.VaParameters

/-!
# The calls of the driver

To encode one frame `encoder.c` makes some thirty calls of the driver, each of which may
fail. This module has these functions call by call: what is handed to the driver, in which
order, and what is done when a call fails. They are programs in the sense of
`Calls.Prog`, so every answer the driver may give is one of their traces.

A few liberties are taken with what a call is. A buffer comes with its type, which the C code
does not keep (`DisplayBridge.VABuffer`). Memory that is mapped is filled by a call of its
own. And an object that was created has a valid name: `VA_INVALID_ID` is what the driver
never gives out.

An encode that ends well is one step of the encoder: the driver was told about the picture and
its slice what `DisplayBridge.encodeSurface` says, and one that fails leaves the encoder as it
was (`DisplayBridge.Va.encodeSurface_refines`).
-/

namespace DisplayBridge

open Calls Prog

/-- A buffer of the driver. -/
abbrev VABufferID := UInt32

/-- `VABufferType`. -/
inductive VABufferType
  | encSequenceParameter
  | encPictureParameter
  | encSliceParameter
  | encPackedHeaderParameter
  | encPackedHeaderData
  | encMiscParameter
  | encCoded
deriving DecidableEq

/-- A buffer, with the type it was created with. -/
structure VABuffer where
  type : VABufferType
  id : VABufferID
deriving DecidableEq

/-- `param.type` of a packed header. -/
inductive VAEncPackedHeaderType
  | sequence
  | hevcSlice
deriving DecidableEq

/-- `VAEncPackedHeaderParameterBuffer`. -/
structure VAEncPackedHeaderParameterBuffer where
  type : VAEncPackedHeaderType
  bitLength : UInt32
  hasEmulationBytes : UInt8
deriving DecidableEq

/-- The three kinds of `VAEncMiscParameterBuffer`, with the fields that are set. -/
inductive VAEncMiscParameterBuffer
  | rateControl (bitsPerSecond targetPercentage windowSize initialQp minQp basicUnitSize : UInt32)
      (reset disableFrameSkip disableBitStuffing : Bool)
  | hrd (initialBufferFullness bufferSize : UInt32)
  | frameRate (framerate : UInt32)
deriving DecidableEq

/-- What a buffer is created with. -/
inductive BufferData
  | seq (param : VAEncSequenceParameterBufferHEVC)
  | pic (param : VAEncPictureParameterBufferHEVC)
  | slice (param : VAEncSliceParameterBufferHEVC)
  | packedHeaderParam (param : VAEncPackedHeaderParameterBuffer)
  | packedHeaderData (data : List UInt8)
  /-- No data; the buffer is filled when it is mapped. -/
  | misc
deriving DecidableEq

/-- The type a buffer is created with. -/
def BufferData.type : BufferData → VABufferType
  | .seq _ => .encSequenceParameter
  | .pic _ => .encPictureParameter
  | .slice _ => .encSliceParameter
  | .packedHeaderParam _ => .encPackedHeaderParameter
  | .packedHeaderData _ => .encPackedHeaderData
  | .misc => .encMiscParameter

/-- What the driver keeps for the encoder. -/
inductive VaObject
  | buffer (buf : VABuffer)
  | surface (id : VASurfaceID)
  | image (imageId : UInt32)
deriving DecidableEq

/-- The fields of `VADRMPRIMESurfaceDescriptor` that are not constants. -/
structure VADRMPRIMESurfaceDescriptor where
  width : UInt32
  height : UInt32
  fd : Int32
  size : UInt32
  drmFormatModifier : UInt64
  offset : Fin 2 → UInt32
  pitch : Fin 2 → UInt32

/-- `VACodedBufferSegment`. -/
structure VACodedBufferSegment where
  buf : UInt64
  size : UInt32
deriving DecidableEq

/-- The calls. Where an object is mapped, it is the one whose memory is mapped: a buffer, or the
image that a buffer belongs to. -/
inductive VaCall
  | createBuffer (data : BufferData)
  | destroyBuffer (buf : VABuffer)
  | renderPicture (bufs : List VABuffer)
  | mapBuffer (object : VaObject)
  | mapCodedBuffer (id : VABufferID)
  | unmapBuffer (object : VaObject)
  | fillMisc (buf : VABuffer) (misc : VAEncMiscParameterBuffer)
  | fillImage (image : VAImage) (bytes : List (ℕ × UInt8))
  | createSurfaces (width height : ℤ) (desc : Option VADRMPRIMESurfaceDescriptor)
  | destroySurfaces (surface : VASurfaceID)
  | deriveImage (surface : VASurfaceID)
  | destroyImage (imageId : UInt32)
  | beginPicture (surface : VASurfaceID)
  | endPicture
  | syncSurface (surface : VASurfaceID)

/-- A surface that was created. -/
abbrev CreatedSurface := {surface : VASurfaceID // surface ≠ vaInvalidId}

/-- What a call may be answered. A call that creates an object has none if it fails, and a call
without a result says whether it has succeeded. -/
def VaAnswer : VaCall → Type
  | .createBuffer _ => Option VABufferID
  | .mapCodedBuffer _ => Option (Option VACodedBufferSegment)
  | .createSurfaces .. => Option CreatedSurface
  | .deriveImage _ => Option VAImage
  | .fillMisc .. | .fillImage .. => Unit
  | _ => Bool

/-- A call with its answer. -/
abbrev VaEvent := Event VaAnswer

/-- A program that calls the driver. -/
abbrev Va := Prog VaCall VaAnswer

/-- What `encode_surface` returns when it succeeds. -/
structure Encoded where
  outBuf : UInt64
  outSize : UInt32
  isKeyframe : Bool
deriving DecidableEq

namespace Va

/-! ### Single calls

A call whose status is not looked at is `DisplayBridge.Va.discard`: those that destroy or unmap
something. -/

/-- A call of the library. -/
def call (c : VaCall) : Va (VaAnswer c) := perform c

/-- A call whose answer is not looked at. -/
def discard (c : VaCall) : Va Unit := do
  let _ ← call c

/-- `vaCreateBuffer`. -/
def createBuffer (data : BufferData) : Va (Option VABuffer) := do
  let id ← (call (.createBuffer data) : Va (Option VABufferID))
  return id.map fun id => ⟨data.type, id⟩

/-- `vaDestroyBuffer`. -/
def destroyBuffer (buf : VABuffer) : Va Unit := discard (.destroyBuffer buf)

/-- `vaRenderPicture`. -/
def renderPicture (bufs : List VABuffer) : Va Bool := call (.renderPicture bufs)

/-- `vaMapBuffer`. -/
def mapBuffer (object : VaObject) : Va Bool := call (.mapBuffer object)

/-- `vaMapBuffer`, of a coded buffer. -/
def mapCodedBuffer (id : VABufferID) : Va (Option (Option VACodedBufferSegment)) :=
  call (.mapCodedBuffer id)

/-- `vaUnmapBuffer`. -/
def unmapBuffer (object : VaObject) : Va Unit := discard (.unmapBuffer object)

/-- `vaCreateSurfaces`, of one surface. -/
def createSurfaces (width height : ℤ) (desc : Option VADRMPRIMESurfaceDescriptor) :
    Va (Option CreatedSurface) := call (.createSurfaces width height desc)

/-- `vaDestroySurfaces`, of one surface. -/
def destroySurfaces (surface : VASurfaceID) : Va Unit := discard (.destroySurfaces surface)

/-- `vaDeriveImage`. -/
def deriveImage (surface : VASurfaceID) : Va (Option VAImage) := call (.deriveImage surface)

/-- `vaDestroyImage`. -/
def destroyImage (imageId : UInt32) : Va Unit := discard (.destroyImage imageId)

/-- `vaBeginPicture`. -/
def beginPicture (surface : VASurfaceID) : Va Bool := call (.beginPicture surface)

/-- `vaEndPicture`. -/
def endPicture : Va Bool := call .endPicture

/-- `vaSyncSurface`. -/
def syncSurface (surface : VASurfaceID) : Va Bool := call (.syncSurface surface)

/-! ### Packed headers -/

/-- `submit_packed_header`: whether it has succeeded. -/
def submitPackedHeader (type : VAEncPackedHeaderType) (data : List UInt8) : Va Bool := do
  match ← createBuffer (.packedHeaderParam ⟨type, UInt32.ofNat (data.length * 8), 1⟩) with
  | none => return false
  | some paramBuf =>
    match ← createBuffer (.packedHeaderData data) with
    | none =>
      destroyBuffer paramBuf
      return false
    | some dataBuf =>
      let st ← renderPicture [paramBuf, dataBuf]
      destroyBuffer paramBuf
      destroyBuffer dataBuf
      return st

/-- `submit_packed_sequence_headers`. -/
def submitPackedSequenceHeaders (enc : DbEncoder) : Va Bool :=
  submitPackedHeader .sequence (packedSequenceHeaders enc)

/-- `submit_packed_slice_header`. -/
def submitPackedSliceHeader (enc : DbEncoder) (isIdr : Bool) : Va Bool :=
  submitPackedHeader .hevcSlice
    (writeStartCodeAndNaluHeader (if isIdr then 19 else 1) 1 ++ writeSliceHeader enc isIdr)

/-! ### Rate control, HRD and frame rate -/

/-- The three functions that submit a miscellaneous parameter. -/
def submitMiscParam (misc : VAEncMiscParameterBuffer) : Va Bool := do
  match ← createBuffer .misc with
  | none => return false
  | some buf =>
    if ← mapBuffer (.buffer buf) then
      discard (.fillMisc buf misc)
      unmapBuffer (.buffer buf)
      let st ← renderPicture [buf]
      destroyBuffer buf
      return st
    else
      destroyBuffer buf
      return false

/-- `submit_rate_control`. -/
def submitRateControl (enc : DbEncoder) : Va Bool :=
  submitMiscParam (.rateControl (UInt32.ofInt enc.bitrateKbps * 1000) 80 1000 26 18 0
    (decide (enc.frameCount = 0)) true true)

/-- `submit_hrd_param`. -/
def submitHrdParam (enc : DbEncoder) : Va Bool :=
  submitMiscParam (.hrd (UInt32.ofInt enc.bitrateKbps * 1000 / 2)
    (UInt32.ofInt enc.bitrateKbps * 1000))

/-- `submit_framerate_param`. -/
def submitFramerateParam (enc : DbEncoder) : Va Bool :=
  submitMiscParam (.frameRate (UInt32.ofInt enc.fps))

/-! ### `encode_surface` -/

/-- A parameter buffer of `encode_surface`; where a call fails, the rest is left out. -/
def submitParam (data : BufferData) : Va Bool := do
  match ← createBuffer data with
  | none => return false
  | some buf =>
    if ← renderPicture [buf] then
      destroyBuffer buf
      return true
    else return false

/-- The sequence parameters of an IDR picture, with the packed headers. -/
def submitSequence (enc : DbEncoder) (isIdr : Bool) : Va Bool := do
  if isIdr then
    if ← submitParam (.seq (fillSeqParam enc)) then
      let _ ← submitPackedSequenceHeaders enc
      return true
    else return false
  else return true

/-- What is submitted of a picture, between `vaBeginPicture` and `vaEndPicture`; false where it ends
at the label `fail_end`. -/
def submitPicture (enc : DbEncoder) (e : Encode) : Va Bool := do
  if ← submitSequence enc e.isIdr then
    let _ ← submitRateControl enc
    let _ ← submitHrdParam enc
    let _ ← submitFramerateParam enc
    if ← submitParam (.pic (fillPicParam enc e.reconSurface e.refSurface e.isIdr)) then
      let _ ← submitPackedSliceHeader enc e.isIdr
      submitParam (.slice (fillSliceParam enc e.refSurface e.isIdr))
    else return false
  else return false

/-- The end of `encode_surface`, from `vaEndPicture` on. -/
def finishPicture (enc : DbEncoder) (input : VASurfaceID) (e : Encode) :
    Va (Option Encoded × DbEncoder) := do
  if ← endPicture then
    if ← syncSurface input then
      match ← mapCodedBuffer enc.codedBuf with
      | none => return (none, enc)
      | some none => return (some ⟨0, 0, e.isIdr⟩, enc.advance e.curRecon)
      | some (some seg) => return (some ⟨seg.buf, seg.size, e.isIdr⟩, enc.advance e.curRecon)
    else return (none, enc)
  else return (none, enc)

/-- `encode_surface`: what it returns, and the encoder after it. -/
def encodeSurface (enc : DbEncoder) (input : VASurfaceID) : Va (Option Encoded × DbEncoder) := do
  let e := enc.startEncode
  if ← beginPicture input then
    if ← submitPicture enc e then finishPicture enc input e
    else
      discard .endPicture
      return (none, enc)
  else return (none, enc)

/-! ### The entry points -/

/-- `import_dmabuf_surface`. -/
def importDmabufSurface (enc : DbEncoder) (fd : Int32) (stride offset : UInt32)
    (drmModifier : UInt64) : Va VASurfaceID := do
  let desc : VADRMPRIMESurfaceDescriptor :=
    { width := UInt32.ofInt enc.width
      height := UInt32.ofInt enc.height
      fd := fd
      size := stride * UInt32.ofInt enc.height * 3 / 2
      drmFormatModifier := drmModifier
      offset := fun plane =>
        if plane = 0 then offset else offset + stride * UInt32.ofInt enc.height
      pitch := fun _ => stride }
  match ← createSurfaces enc.width enc.height (some desc) with
  | none => return vaInvalidId
  | some surface => return surface

/-- `db_encoder_encode_dmabuf`. -/
def dbEncoderEncodeDmabuf (enc : DbEncoder) (fd : Int32) (stride offset : UInt32)
    (drmModifier : UInt64) : Va (Option Encoded × DbEncoder) := do
  let input ← importDmabufSurface enc fd stride offset drmModifier
  if input = vaInvalidId then return (none, enc)
  else
    let ret ← encodeSurface enc input
    destroySurfaces input
    return ret

/-- `db_encoder_encode_nv12`. -/
def dbEncoderEncodeNv12 (enc : DbEncoder) (nv12 : ℕ → UInt8) (stride : UInt32) :
    Va (Option Encoded × DbEncoder) := do
  match ← createSurfaces (align enc.width hevcCtuSize) (align enc.height hevcCtuSize) none with
  | none => return (none, enc)
  | some input =>
    match ← deriveImage input with
    | none =>
      destroySurfaces input
      return (none, enc)
    | some image =>
      if ← mapBuffer (.image image.imageId) then
        discard (.fillImage image
          ((copyNv12 enc stride image).map fun m => (m.1, nv12 m.2)))
        unmapBuffer (.image image.imageId)
        destroyImage image.imageId
        let ret ← encodeSurface enc input
        destroySurfaces input
        return ret
      else
        destroyImage image.imageId
        destroySurfaces input
        return (none, enc)

/-- `db_encoder_release_frame`. -/
def dbEncoderReleaseFrame (enc : DbEncoder) : Va Unit := do
  if enc.codedBuf ≠ vaInvalidId then unmapBuffer (.buffer ⟨.encCoded, enc.codedBuf⟩)
  else return

/-- The end of `on_frame_captured`. Where there is something to send, it is pushed into the ring
before the buffer is released. -/
def finishFrame (out : Option Encoded) (enc : DbEncoder) : Va Unit := do
  match out with
  | none => return
  | some out =>
    if out.outBuf = 0 ∨ out.outSize = 0 then return
    else dbEncoderReleaseFrame enc

/-- `on_frame_captured`, and the encoder after it. -/
def onFrameCaptured (enc : PixelEncoder) (memory : ℕ → UInt8) (fresh : Option (ℕ → UInt8))
    (frame : CapturedFrame) : Va PixelEncoder := do
  match DisplayBridge.onFrameCaptured frame with
  | none => return enc
  | some (.dmabuf fd stride offset modifier) =>
    let ret ← dbEncoderEncodeDmabuf enc.toDbEncoder fd stride offset modifier
    finishFrame ret.1 ret.2
    return { enc with toDbEncoder := ret.2 }
  | some (.bgrx data stride) =>
    let enc := enc.convertBgrx ⟨bytesAt memory data, stride, fresh⟩
    match enc.convBuf with
    | none => return enc
    | some nv12 =>
      let ret ← dbEncoderEncodeNv12 enc.toDbEncoder nv12 (UInt32.ofInt enc.width)
      finishFrame ret.1 ret.2
      return { enc with toDbEncoder := ret.2 }

/-! ### The traces of a call -/

section Meets

theorem meets_call {c : VaCall} {Q : List VaEvent → VaAnswer c → Prop} :
    (call c).Meets Q ↔ ∀ ans, Q [⟨c, ans⟩] ans := meets_perform

theorem meets_discard {c : VaCall} {Q : List VaEvent → Unit → Prop} :
    (discard c).Meets Q ↔ ∀ ans, Q [⟨c, ans⟩] () := by
  rw [discard, meets_bind, meets_call]
  exact forall_congr' fun ans => meets_pure

theorem meets_createBuffer {data : BufferData} {Q : List VaEvent → Option VABuffer → Prop} :
    (createBuffer data).Meets Q ↔
      Q [⟨.createBuffer data, (none : Option VABufferID)⟩] none ∧
        ∀ id, Q [⟨.createBuffer data, some id⟩] (some ⟨data.type, id⟩) := by
  rw [createBuffer, meets_bind, call, meets_perform]
  constructor
  · intro h
    exact ⟨meets_pure.1 (h none), fun id => meets_pure.1 (h (some id))⟩
  · rintro ⟨hnone, hsome⟩ (- | id)
    · exact meets_pure.2 hnone
    · exact meets_pure.2 (hsome id)

theorem meets_destroyBuffer {buf : VABuffer} {Q : List VaEvent → Unit → Prop} :
    (destroyBuffer buf).Meets Q ↔ ∀ ok : Bool, Q [⟨.destroyBuffer buf, ok⟩] () := meets_discard

theorem meets_renderPicture {bufs : List VABuffer} {Q : List VaEvent → Bool → Prop} :
    (renderPicture bufs).Meets Q ↔ ∀ ok : Bool, Q [⟨.renderPicture bufs, ok⟩] ok := meets_call

theorem meets_mapBuffer {object : VaObject} {Q : List VaEvent → Bool → Prop} :
    (mapBuffer object).Meets Q ↔ ∀ ok : Bool, Q [⟨.mapBuffer object, ok⟩] ok := meets_call

theorem meets_mapCodedBuffer {id : VABufferID}
    {Q : List VaEvent → Option (Option VACodedBufferSegment) → Prop} :
    (mapCodedBuffer id).Meets Q ↔
      ∀ seg : Option (Option VACodedBufferSegment), Q [⟨.mapCodedBuffer id, seg⟩] seg := meets_call

theorem meets_unmapBuffer {object : VaObject} {Q : List VaEvent → Unit → Prop} :
    (unmapBuffer object).Meets Q ↔ ∀ ok : Bool, Q [⟨.unmapBuffer object, ok⟩] () := meets_discard

theorem meets_createSurfaces {width height : ℤ} {desc : Option VADRMPRIMESurfaceDescriptor}
    {Q : List VaEvent → Option CreatedSurface → Prop} :
    (createSurfaces width height desc).Meets Q ↔
      ∀ surface : Option CreatedSurface,
        Q [⟨.createSurfaces width height desc, surface⟩] surface := meets_call

theorem meets_destroySurfaces {surface : VASurfaceID} {Q : List VaEvent → Unit → Prop} :
    (destroySurfaces surface).Meets Q ↔ ∀ ok : Bool, Q [⟨.destroySurfaces surface, ok⟩] () :=
  meets_discard

theorem meets_deriveImage {surface : VASurfaceID} {Q : List VaEvent → Option VAImage → Prop} :
    (deriveImage surface).Meets Q ↔
      ∀ image : Option VAImage, Q [⟨.deriveImage surface, image⟩] image := meets_call

theorem meets_destroyImage {imageId : UInt32} {Q : List VaEvent → Unit → Prop} :
    (destroyImage imageId).Meets Q ↔ ∀ ok : Bool, Q [⟨.destroyImage imageId, ok⟩] () :=
  meets_discard

theorem meets_beginPicture {surface : VASurfaceID} {Q : List VaEvent → Bool → Prop} :
    (beginPicture surface).Meets Q ↔ ∀ ok : Bool, Q [⟨.beginPicture surface, ok⟩] ok := meets_call

theorem meets_endPicture {Q : List VaEvent → Bool → Prop} :
    endPicture.Meets Q ↔ ∀ ok : Bool, Q [⟨.endPicture, ok⟩] ok := meets_call

theorem meets_syncSurface {surface : VASurfaceID} {Q : List VaEvent → Bool → Prop} :
    (syncSurface surface).Meets Q ↔ ∀ ok : Bool, Q [⟨.syncSurface surface, ok⟩] ok := meets_call

end Meets

/-! ### What the driver is told -/

/-- A parameter buffer that was created with its data and rendered. -/
def Submitted (data : BufferData) (t : List VaEvent) : Prop :=
  ∃ id : VABufferID, ⟨.createBuffer data, some id⟩ ∈ t ∧
    ⟨.renderPicture [⟨data.type, id⟩], true⟩ ∈ t

theorem Submitted.mono {data : BufferData} {t t' : List VaEvent} (h : Submitted data t)
    (hsub : t ⊆ t') : Submitted data t' := by
  obtain ⟨id, hcreated, hrendered⟩ := h
  exact ⟨id, hsub hcreated, hsub hrendered⟩

theorem submitParam_submits (data : BufferData) :
    (submitParam data).Meets fun t ok => ok = true → Submitted data t := by
  rw [submitParam, meets_bind, meets_createBuffer]
  refine ⟨meets_pure.2 fun hno => absurd hno Bool.false_ne_true, fun id => ?_⟩
  rw [meets_bind, meets_renderPicture]
  rintro (- | -)
  · rw [if_neg Bool.false_ne_true]
    exact meets_pure.2 fun hno => absurd hno Bool.false_ne_true
  · rw [if_pos rfl, meets_bind, meets_destroyBuffer]
    exact fun ok => meets_pure.2 fun _ => ⟨id, by simp, by simp⟩

/-- The parameters of the picture and of its slice. The packed slice header stands between
them; whether it was rendered is not looked at. -/
theorem submitPicture_submits (enc : DbEncoder) (e : Encode) :
    (submitPicture enc e).Meets fun t ok => ok = true →
      Submitted (.pic (fillPicParam enc e.reconSurface e.refSurface e.isIdr)) t ∧
        Submitted (.slice (fillSliceParam enc e.refSurface e.isIdr)) t := by
  rw [submitPicture]
  refine meets_bind_of_forall fun t₁ ok => ?_
  cases ok with
  | false => exact meets_pure.2 fun hno => absurd hno Bool.false_ne_true
  | true =>
    rw [if_pos rfl]
    refine meets_bind_of_forall fun t₂ _ => ?_
    refine meets_bind_of_forall fun t₃ _ => ?_
    refine meets_bind_of_forall fun t₄ _ => ?_
    rw [meets_bind]
    refine (submitParam_submits _).mono fun t₅ ok hpic => ?_
    cases ok with
    | false => exact meets_pure.2 fun hno => absurd hno Bool.false_ne_true
    | true =>
      rw [if_pos rfl]
      refine meets_bind_of_forall fun t₆ _ => ?_
      refine (submitParam_submits _).mono fun t₇ ok hslice hok => ?_
      exact ⟨(hpic rfl).mono fun _ he => by simp [he], (hslice hok).mono fun _ he => by simp [he]⟩

/-- The end of a picture makes no difference to the encoder unless it succeeds. -/
theorem finishPicture_advances (enc : DbEncoder) (input : VASurfaceID) (e : Encode) :
    (finishPicture enc input e).Meets fun _ r =>
      (r.1 = none → r.2 = enc) ∧
        ∀ out, r.1 = some out → out.isKeyframe = e.isIdr ∧ r.2 = enc.advance e.curRecon := by
  have hfailed : ((none : Option Encoded) = none → enc = enc) ∧ ∀ out : Encoded,
      none = some out → out.isKeyframe = e.isIdr ∧ enc = enc.advance e.curRecon :=
    ⟨fun _ => rfl, fun _ hno => by cases hno⟩
  have hdone : ∀ buf size, (some (⟨buf, size, e.isIdr⟩ : Encoded) = none →
      enc.advance e.curRecon = enc) ∧ ∀ out : Encoded, some ⟨buf, size, e.isIdr⟩ = some out →
        out.isKeyframe = e.isIdr ∧ enc.advance e.curRecon = enc.advance e.curRecon := by
    refine fun buf size => ⟨nofun, ?_⟩
    rintro out ⟨⟩
    exact ⟨rfl, rfl⟩
  rw [finishPicture, meets_bind, meets_endPicture]
  rintro (- | -)
  · exact meets_pure.2 hfailed
  · rw [if_pos rfl, meets_bind, meets_syncSurface]
    rintro (- | -)
    · exact meets_pure.2 hfailed
    · rw [if_pos rfl, meets_bind, meets_mapCodedBuffer]
      rintro (- | - | seg)
      · exact meets_pure.2 hfailed
      · exact meets_pure.2 (hdone 0 0)
      · exact meets_pure.2 (hdone seg.buf seg.size)

/-- **An encode that ends well is one step of the encoder**: the driver was told about the next
frame, and the encoder has advanced. One that fails leaves the encoder alone. -/
theorem encodeSurface_refines (enc : DbEncoder) (input : VASurfaceID) :
    (encodeSurface enc input).Meets fun t r =>
      (r.1 = none → r.2 = enc) ∧
        ∀ out, r.1 = some out →
          Submitted (.pic (DisplayBridge.encodeSurface enc).1.pic) t ∧
          Submitted (.slice (DisplayBridge.encodeSurface enc).1.slice) t ∧
          out.isKeyframe = (DisplayBridge.encodeSurface enc).1.isKeyframe ∧
          r.2 = (DisplayBridge.encodeSurface enc).2 := by
  rw [encodeSurface, meets_bind, meets_beginPicture]
  rintro (- | -)
  · exact meets_pure.2 ⟨fun _ => rfl, fun _ hno => by cases hno⟩
  · rw [if_pos rfl, meets_bind]
    refine (submitPicture_submits enc enc.startEncode).mono fun t ok hsubmitted => ?_
    cases ok with
    | false =>
      rw [if_neg Bool.false_ne_true]
      refine meets_bind_of_forall fun _ _ => ?_
      exact meets_pure.2 ⟨fun _ => rfl, fun _ hno => by cases hno⟩
    | true =>
      rw [if_pos rfl]
      refine (finishPicture_advances enc input enc.startEncode).mono fun t' r hr => ?_
      refine ⟨hr.1, fun out hout => ?_⟩
      obtain ⟨hpic, hslice⟩ := hsubmitted rfl
      obtain ⟨hkey, hadvanced⟩ := hr.2 out hout
      exact ⟨hpic.mono (by simp), hslice.mono (by simp), hkey, hadvanced⟩

end Va

end DisplayBridge
