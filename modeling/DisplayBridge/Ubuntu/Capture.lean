import DisplayBridge.Protocol
import DisplayBridge.Ubuntu.ConvBuf

/-!
# From PipeWire to the encoder

A captured frame passes through two functions before it is converted. `on_stream_process`
takes the buffer that PipeWire delivers and calls the callback with a pointer, the
negotiated size and the stride; `on_frame_captured` checks the size and calls the encoder.
What the callback does not pass on is what this module is about.

* **The format.** `setup_pw_stream` offers five formats, and the size of the frame is all that
  is looked at of the negotiated one. Whatever it was, the bytes are converted as BGRx: right for
  BGRx and BGRA, with red and blue swapped for RGBx and RGBA, and nonsense for NV12
  (`DisplayBridge.converted_iff`).
* **The length of the chunk.** `on_stream_process` asks whether it is positive, and
  `on_frame_captured` whether the size of the picture is the target's. The comment at this
  check says that it is there to keep the conversion from reading past the buffer; but
  what is read depends on the stride of the buffer as well
  (`DisplayBridge.readsWithin_iff`).

A pointer is its address, and the memory a function of the address.
-/

namespace DisplayBridge

/-! ### PipeWire -/

/-- The formats that `setup_pw_stream` names. -/
inductive SpaVideoFormat
  | bgrx
  | bgra
  | rgbx
  | rgba
  | nv12
deriving DecidableEq

/-- The choice of formats in `setup_pw_stream`; its first entry is the default. -/
def offeredFormats : List SpaVideoFormat := [.bgrx, .bgrx, .bgra, .rgbx, .rgba, .nv12]

/-- `spa_data_type`. -/
inductive SpaDataType
  | invalid
  | memPtr
  | memFd
  | dmaBuf
  | memId
deriving DecidableEq

/-- `struct spa_chunk`. -/
structure SpaChunk where
  offset : UInt32
  size : UInt32
  stride : Int32

/-- `struct spa_data`. -/
structure SpaData where
  type : SpaDataType
  fd : Int64
  data : UInt64
  chunk : SpaChunk

/-- The fields of `struct spa_video_info_raw` that are read. -/
structure SpaVideoInfo where
  format : SpaVideoFormat
  width : UInt32
  height : UInt32

/-- The fields of `db_capture_t` that decide what is done with a buffer: the negotiated format,
once it is known, and whether there is a callback. -/
structure DbCapture where
  videoInfo : Option SpaVideoInfo
  callback : Bool

/-- The arguments of the callback. -/
structure CapturedFrame where
  data : UInt64
  width : Int32
  height : Int32
  stride : Int32

/-- `on_stream_process`, for the buffer that was dequeued and its list of datas (`none` where
a pointer is `NULL`): the call of the callback. -/
def onStreamProcess (cap : DbCapture) (pwBuf : Option (Option (List SpaData))) :
    Option CapturedFrame :=
  match pwBuf, cap.videoInfo with
  | some (some (d :: _)), some info =>
    let width := info.width.toInt32
    let height := info.height.toInt32
    match d.type with
    | .dmaBuf => if cap.callback then some ⟨0, width, height, d.fd.toInt32⟩ else none
    | .memPtr | .memFd =>
      let frameData := d.data + d.chunk.offset.toUInt64
      if 0 < d.chunk.size ∧ frameData ≠ 0 ∧ cap.callback then
        some ⟨frameData, width, height, d.chunk.stride⟩
      else none
    | _ => none
  | _, _ => none

/-! ### `on_frame_captured` -/

/-- The two calls of the encoder. -/
inductive EncoderCall
  | dmabuf (fd : Int32) (stride offset : UInt32) (modifier : UInt64)
  | bgrx (data : UInt64) (stride : UInt32)

/-- `on_frame_captured` up to its call of the encoder. -/
def onFrameCaptured (frame : CapturedFrame) : Option EncoderCall :=
  if frame.width.toInt ≠ dbTargetWidth ∨ frame.height.toInt ≠ dbTargetHeight then none
  else if frame.data = 0 then some (.dmabuf frame.stride frame.width.toUInt32 0 0)
  else some (.bgrx frame.data frame.stride.toUInt32)

/-- The bytes at a pointer. -/
def bytesAt (memory : ℕ → UInt8) (data : UInt64) : ℕ → UInt8 := fun o => memory (data.toNat + o)

/-- The picture that `on_frame_captured` hands to `db_encoder_encode_nv12`, if it takes the path
through the CPU. -/
def handedPicture (enc : PixelEncoder) (memory : ℕ → UInt8) (fresh : Option (ℕ → UInt8))
    (frame : CapturedFrame) : Option (ℕ → UInt8) :=
  match onFrameCaptured frame with
  | some (.bgrx data stride) => (enc.convertBgrx ⟨bytesAt memory data, stride, fresh⟩).convBuf
  | _ => none

/-- The encoder of the sender: initialized for the target size, with any frames encoded since. -/
def IsSenderEncoder (enc : PixelEncoder) : Prop :=
  ∃ bitrateKbps fps surfaces codedBuf fresh enc₀, ∃ earlier : List BgrxCall,
    pixelEncoderInit dbTargetWidth dbTargetHeight bitrateKbps fps surfaces codedBuf
      fresh = some enc₀ ∧ earlier.foldl PixelEncoder.convertBgrx enc₀ = enc

theorem IsSenderEncoder.ready {enc : PixelEncoder} (h : IsSenderEncoder enc) :
    enc.Ready 2880 1800 := by
  obtain ⟨_, _, _, _, _, enc₀, earlier, hinit, rfl⟩ := h
  exact (pixelEncoderInit_ready hinit).foldl earlier

theorem isSenderEncoder_targetEncoder : IsSenderEncoder targetEncoder :=
  ⟨15000, 60, [0, 1, 2, 3], 4, some fun _ => 0, targetEncoder, [], rfl, rfl⟩

/-! ### The true colours of a frame -/

/-- The bytes of a pixel of four bytes, in the order of the format: blue, green, red. -/
def SpaVideoFormat.order : SpaVideoFormat → Option (ℕ × ℕ × ℕ)
  | .bgrx | .bgra => some (0, 1, 2)
  | .rgbx | .rgba => some (2, 1, 0)
  | .nv12 => none

/-- **The same picture**, with rows of another stride. -/
structure IsSamePicture (frame : ℕ → UInt8) (stride width height : ℕ) (nv12 : ℕ → UInt8) :
    Prop where
  luma : ∀ y < height, ∀ x < width, nv12 (y * width + x) = frame (y * stride + x)
  chroma : ∀ v < height / 2, ∀ x < width,
    nv12 (width * height + v * width + x) = frame (stride * height + v * stride + x)

/-- What a frame in a format shows is what the picture shows. -/
def SpaVideoFormat.Shows (format : SpaVideoFormat) (frame : ℕ → UInt8) (stride width height : ℕ)
    (nv12 : ℕ → UInt8) : Prop :=
  match format.order with
  | some (b, g, r) =>
    IsPictureOf (fun y x => ⟨frame (y * stride + (x * 4 + b)), frame (y * stride + (x * 4 + g)),
      frame (y * stride + (x * 4 + r))⟩) width height nv12
  | none => IsSamePicture frame stride width height nv12

/-- The bytes of a row. -/
def SpaVideoFormat.rowBytes (format : SpaVideoFormat) (width : ℕ) : ℕ :=
  if format = .nv12 then width else 4 * width

/-- The rows of a frame; those of chroma are behind those of luma. -/
def SpaVideoFormat.rows (format : SpaVideoFormat) (height : ℕ) : ℕ :=
  if format = .nv12 then height + height / 2 else height

/-- **A whole frame of the target size**, in the memory of the CPU: the stride holds a row, the
chunk all rows, and the memory the chunk. -/
structure SpaData.IsFrame (d : SpaData) (format : SpaVideoFormat) : Prop where
  type : d.type = .memPtr ∨ d.type = .memFd
  data : d.data ≠ 0
  chunk : d.data.toNat + d.chunk.offset.toNat + d.chunk.size.toNat ≤ 2 ^ 64
  stride : (format.rowBytes 2880 : ℤ) ≤ d.chunk.stride.toInt
  size : format.rows 1800 * d.chunk.stride.toInt ≤ d.chunk.size.toNat

/-- **A format is converted correctly**: from every frame of the target size that is delivered in
it, the encoder gets a picture that shows what the frame shows. -/
def SpaVideoFormat.Converted (format : SpaVideoFormat) : Prop :=
  ∀ (enc : PixelEncoder) (memory : ℕ → UInt8) (fresh : Option (ℕ → UInt8)) (d : SpaData)
    (rest : List SpaData) (frame : CapturedFrame) (nv12 : ℕ → UInt8),
    IsSenderEncoder enc → d.IsFrame format →
    onStreamProcess ⟨some ⟨format, 2880, 1800⟩, true⟩ (some (some (d :: rest))) = some frame →
    handedPicture enc memory fresh frame = some nv12 →
    format.Shows (bytesAt memory (d.data + d.chunk.offset.toUInt64)) d.chunk.stride.toInt.toNat
      2880 1800 nv12

/-! ### What the callback gets -/

section Frame

variable {cap : DbCapture} {d : SpaData} {rest : List SpaData} {frame : CapturedFrame}

/-- A frame that has a pointer comes from memory, and was delivered with the address and the stride
of its chunk. -/
theorem onStreamProcess_memory
    (h : onStreamProcess cap (some (some (d :: rest))) = some frame) (hdata : frame.data ≠ 0) :
    frame.data = d.data + d.chunk.offset.toUInt64 ∧ frame.stride = d.chunk.stride ∧
      0 < d.chunk.size ∧ ∃ info, cap.videoInfo = some info ∧
        frame.width = info.width.toInt32 ∧ frame.height = info.height.toInt32 := by
  unfold onStreamProcess at h
  rcases hinfo : cap.videoInfo with - | info
  · rw [hinfo] at h
    exact absurd h.symm (Option.some_ne_none frame)
  · rw [hinfo] at h
    -- the same for the two kinds of memory
    have hmemory : (if 0 < d.chunk.size ∧ d.data + d.chunk.offset.toUInt64 ≠ 0 ∧ cap.callback then
          some (CapturedFrame.mk (d.data + d.chunk.offset.toUInt64) info.width.toInt32
            info.height.toInt32 d.chunk.stride)
        else none) = some frame →
        frame.data = d.data + d.chunk.offset.toUInt64 ∧ frame.stride = d.chunk.stride ∧
          0 < d.chunk.size ∧ ∃ info', some info = some info' ∧
            frame.width = info'.width.toInt32 ∧ frame.height = info'.height.toInt32 := by
      intro h
      split at h
      · next hcond =>
        obtain rfl := Option.some.inj h
        exact ⟨rfl, rfl, hcond.1, info, rfl, rfl, rfl⟩
      · exact absurd h.symm (Option.some_ne_none frame)
    dsimp only at h
    split at h
    · split at h
      · obtain rfl := Option.some.inj h
        exact absurd rfl hdata
      · exact absurd h.symm (Option.some_ne_none frame)
    · exact hmemory h
    · exact hmemory h
    · exact absurd h.symm (Option.some_ne_none frame)

/-- The encoder is called for frames of the target size, and with a pointer for those that have
one. -/
theorem onFrameCaptured_bgrx {data : UInt64} {stride : UInt32}
    (h : onFrameCaptured frame = some (.bgrx data stride)) :
    frame.data ≠ 0 ∧ data = frame.data ∧ stride = frame.stride.toUInt32 ∧
      frame.width.toInt = dbTargetWidth ∧ frame.height.toInt = dbTargetHeight := by
  unfold onFrameCaptured at h
  split at h
  · exact absurd h.symm (Option.some_ne_none _)
  · next hsize =>
    rw [not_or, not_not, not_not] at hsize
    split at h
    · exact absurd (Option.some.inj h) (by simp)
    · next hdata =>
      obtain ⟨rfl, rfl⟩ := EncoderCall.bgrx.inj (Option.some.inj h)
      exact ⟨hdata, rfl, rfl, hsize⟩

end Frame

/-! ### The formats -/

/-- The picture that is handed over shows the bytes at the pointer as BGRx. -/
theorem handedPicture_isPictureOf {enc : PixelEncoder} (henc : IsSenderEncoder enc)
    {memory : ℕ → UInt8} {fresh : Option (ℕ → UInt8)} {frame : CapturedFrame}
    {nv12 : ℕ → UInt8} (h : handedPicture enc memory fresh frame = some nv12) :
    frame.data ≠ 0 ∧
      IsPictureOf (pixelAt (bytesAt memory frame.data) frame.stride.toUInt32) 2880 1800 nv12 := by
  have hready := henc.ready
  unfold handedPicture at h
  split at h
  · next data stride hcall =>
    obtain ⟨hdata, rfl, rfl, -⟩ := onFrameCaptured_bgrx hcall
    obtain ⟨mem, -, rfl⟩ := Option.map_eq_some_iff.1 h
    obtain ⟨hw, hh⟩ := hready.ensureConvBuf_sizes fresh
    rw [hw, hh]
    exact ⟨hdata, isPictureOf_bgrxToNv12 (by decide) mem⟩
  · exact absurd h.symm (Option.some_ne_none nv12)

/-- A stride that is not negative is the same in 32 bits without a sign. -/
theorem toNat_stride {stride : Int32} (h : 0 ≤ stride.toInt) :
    stride.toUInt32.toNat = stride.toInt.toNat := by
  have hle : 0 ≤ stride := Int32.le_iff_toInt_le.2 h
  rw [Int32.toNat_toUInt32_of_le hle, Int32.toNat_toInt]

/-- **The formats with the bytes of BGRx** are converted correctly. -/
theorem converted_of_order {format : SpaVideoFormat} (h : format.order = some (0, 1, 2)) :
    format.Converted := by
  intro enc memory fresh d rest frame nv12 henc hframe hproc hpicture
  obtain ⟨hdata, hshows⟩ := handedPicture_isPictureOf henc hpicture
  obtain ⟨hpointer, hstride, -⟩ := onStreamProcess_memory hproc hdata
  have hnonneg : 0 ≤ d.chunk.stride.toInt := (Int.natCast_nonneg _).trans hframe.stride
  rw [hpointer, hstride] at hshows
  unfold SpaVideoFormat.Shows
  rw [h, ← toNat_stride hnonneg]
  exact hshows

/-- A whole frame has a pointer. -/
theorem SpaData.IsFrame.pointer_ne_zero {d : SpaData} {format : SpaVideoFormat}
    (h : d.IsFrame format) : 0 < d.chunk.size ∧ d.data + d.chunk.offset.toUInt64 ≠ 0 := by
  obtain ⟨-, hdata, hchunk, hstride, hsize⟩ := h
  have hsize' : 0 < d.chunk.size.toNat := by
    cases format <;>
      simp only [SpaVideoFormat.rowBytes, SpaVideoFormat.rows, reduceCtorEq, if_true, if_false,
        Nat.cast_ofNat] at hstride hsize <;>
      omega
  have hdata' : 0 < d.data.toNat := by
    rw [Nat.pos_iff_ne_zero]
    exact fun hzero => hdata (UInt64.toNat_inj.1 hzero)
  refine ⟨UInt32.lt_iff_toNat_lt.2 hsize', fun hzero => ?_⟩
  have hsum := congrArg UInt64.toNat hzero
  rw [UInt64.toNat_add, UInt32.toNat_toUInt64, UInt64.toNat_zero, Nat.mod_eq_of_lt (by omega)]
    at hsum
  omega

/-- **A whole frame of the target size is converted**, whatever its format. -/
theorem SpaData.IsFrame.exists_picture {d : SpaData} {format : SpaVideoFormat}
    (h : d.IsFrame format) (memory : ℕ → UInt8) (rest : List SpaData) :
    ∃ frame nv12,
      onStreamProcess ⟨some ⟨format, 2880, 1800⟩, true⟩ (some (some (d :: rest))) = some frame ∧
      handedPicture targetEncoder memory (some fun _ => 0) frame = some nv12 := by
  obtain ⟨hsize, hpointer⟩ := h.pointer_ne_zero
  have hframe : onStreamProcess ⟨some ⟨format, 2880, 1800⟩, true⟩ (some (some (d :: rest))) =
      some ⟨d.data + d.chunk.offset.toUInt64, 2880, 1800, d.chunk.stride⟩ := by
    unfold onStreamProcess
    rcases h.type with htype | htype <;> dsimp only <;> rw [htype] <;>
      exact if_pos ⟨hsize, hpointer, rfl⟩
  have hcall : onFrameCaptured ⟨d.data + d.chunk.offset.toUInt64, 2880, 1800, d.chunk.stride⟩ =
      some (.bgrx (d.data + d.chunk.offset.toUInt64) d.chunk.stride.toUInt32) := by
    have htarget : ¬((2880 : Int32).toInt ≠ dbTargetWidth ∨
        (1800 : Int32).toInt ≠ dbTargetHeight) := by decide
    unfold onFrameCaptured
    rw [if_neg htarget, if_neg hpointer]
  have hconv : (targetEncoder.convertBgrx ⟨bytesAt memory (d.data + d.chunk.offset.toUInt64),
      d.chunk.stride.toUInt32, some fun _ => 0⟩).convBuf ≠ none :=
    targetEncoder.convertBgrx_convBuf (Option.some_ne_none _)
  obtain ⟨nv12, hnv12⟩ := Option.ne_none_iff_exists'.1 hconv
  refine ⟨_, nv12, hframe, ?_⟩
  unfold handedPicture
  rw [hcall]
  exact hnv12

/-- If the picture of a frame's bytes as BGRx is not what the frame shows, a wrong picture is
handed over. -/
theorem SpaData.IsFrame.wrong_picture {d : SpaData} {format : SpaVideoFormat}
    (h : d.IsFrame format) (memory : ℕ → UInt8)
    (hne : ∀ nv12 : ℕ → UInt8, ((nv12 0).toNat : ℤ) =
        (pixelAt (bytesAt memory (d.data + d.chunk.offset.toUInt64))
          d.chunk.stride.toUInt32 0 0).y →
      ¬format.Shows (bytesAt memory (d.data + d.chunk.offset.toUInt64))
        d.chunk.stride.toInt.toNat 2880 1800 nv12) :
    ∃ frame nv12,
      onStreamProcess ⟨some ⟨format, 2880, 1800⟩, true⟩ (some (some [d])) = some frame ∧
      handedPicture targetEncoder memory (some fun _ => 0) frame = some nv12 ∧
      ¬format.Shows (bytesAt memory (d.data + d.chunk.offset.toUInt64))
        d.chunk.stride.toInt.toNat 2880 1800 nv12 := by
  obtain ⟨frame, nv12, hproc, hpicture⟩ := h.exists_picture memory []
  obtain ⟨hdata, hshows⟩ := handedPicture_isPictureOf isSenderEncoder_targetEncoder hpicture
  obtain ⟨hpointer, hstride, -⟩ := onStreamProcess_memory hproc hdata
  rw [hpointer, hstride] at hshows
  exact ⟨frame, nv12, hproc, hpicture, hne nv12 (hshows.luma 0 (by decide) 0 (by decide))⟩

/-- A wrong picture is one frame that is not converted correctly. -/
theorem SpaData.IsFrame.not_converted {d : SpaData} {format : SpaVideoFormat}
    (h : d.IsFrame format) {memory : ℕ → UInt8}
    (hwrong : ∃ frame nv12,
      onStreamProcess ⟨some ⟨format, 2880, 1800⟩, true⟩ (some (some [d])) = some frame ∧
      handedPicture targetEncoder memory (some fun _ => 0) frame = some nv12 ∧
      ¬format.Shows (bytesAt memory (d.data + d.chunk.offset.toUInt64))
        d.chunk.stride.toInt.toNat 2880 1800 nv12) : ¬format.Converted := by
  obtain ⟨frame, nv12, hproc, hpicture, hno⟩ := hwrong
  exact fun hconverted => hno (hconverted targetEncoder memory _ d [] frame nv12
    isSenderEncoder_targetEncoder h hproc hpicture)

/-- The first byte of every pixel is set, the others are not. -/
def firstBytes : ℕ → UInt8 := fun a => if a % 4 = 0 then 255 else 0

/-- A frame of four bytes a pixel. -/
def packedData : SpaData := ⟨.memPtr, -1, 4096, ⟨0, 20736000, 11520⟩⟩

/-- A frame in NV12. -/
def nv12Data : SpaData := ⟨.memPtr, -1, 4096, ⟨0, 7776000, 2880⟩⟩

theorem packedData_isFrame {format : SpaVideoFormat} (h : format ≠ .nv12) :
    packedData.IsFrame format := by
  have hrow : format.rowBytes 2880 = 11520 := if_neg h
  have hrows : format.rows 1800 = 1800 := if_neg h
  refine ⟨Or.inl rfl, by decide, by decide, ?_, ?_⟩
  · rw [hrow]
    decide
  · rw [hrows]
    decide

/-- **The formats with red first**: a frame that is all red is converted as one that is all
blue. -/
theorem wrong_picture_of_order {format : SpaVideoFormat} (h : format.order = some (2, 1, 0)) :
    packedData.IsFrame format ∧ ∃ frame nv12,
      onStreamProcess ⟨some ⟨format, 2880, 1800⟩, true⟩ (some (some [packedData])) =
        some frame ∧
      handedPicture targetEncoder firstBytes (some fun _ => 0) frame = some nv12 ∧
      ¬format.Shows (bytesAt firstBytes 4096) 11520 2880 1800 nv12 := by
  have hne : format ≠ .nv12 := by
    rintro rfl
    exact absurd h.symm (Option.some_ne_none _)
  have hframe := packedData_isFrame hne
  refine ⟨hframe, hframe.wrong_picture firstBytes fun nv12 hfirst hshows => ?_⟩
  unfold SpaVideoFormat.Shows at hshows
  rw [h] at hshows
  have hluma := hshows.luma 0 (by decide) 0 (by decide)
  rw [Nat.zero_mul, Nat.add_zero, hfirst] at hluma
  exact absurd hluma (by decide)

/-- **NV12**: a frame of zeros is converted as one that is all black, and that is no zeros. -/
theorem not_converted_nv12 : ¬SpaVideoFormat.nv12.Converted := by
  have hframe : nv12Data.IsFrame .nv12 :=
    ⟨Or.inl rfl, by decide, by decide, by decide, by decide⟩
  refine hframe.not_converted (hframe.wrong_picture (fun _ => 0) fun nv12 hfirst hshows => ?_)
  have hluma : nv12 0 = 0 := hshows.luma 0 (by decide) 0 (by decide)
  rw [hluma] at hfirst
  exact absurd hfirst (by decide)

/-- **The formats that are converted correctly**: of those offered to PipeWire, only BGRx and
BGRA are. -/
theorem converted_iff {format : SpaVideoFormat} (h : format ∈ offeredFormats) :
    format.Converted ↔ format = .bgrx ∨ format = .bgra := by
  cases format with
  | bgrx => exact iff_of_true (converted_of_order rfl) (Or.inl rfl)
  | bgra => exact iff_of_true (converted_of_order rfl) (Or.inr rfl)
  | rgbx =>
    obtain ⟨hframe, hwrong⟩ := @wrong_picture_of_order .rgbx rfl
    exact iff_of_false (hframe.not_converted hwrong) (by decide)
  | rgba =>
    obtain ⟨hframe, hwrong⟩ := @wrong_picture_of_order .rgba rfl
    exact iff_of_false (hframe.not_converted hwrong) (by decide)
  | nv12 => exact iff_of_false not_converted_nv12 (by decide)

theorem converted_bgra : SpaVideoFormat.bgra.Converted :=
  (converted_iff (by decide)).2 (Or.inr rfl)

/-- A red frame in RGBx, which is offered, becomes a blue picture. -/
theorem wrong_picture_red : SpaVideoFormat.rgbx ∈ offeredFormats ∧
    IsSenderEncoder targetEncoder ∧ packedData.IsFrame .rgbx ∧ ∃ frame nv12,
      onStreamProcess ⟨some ⟨.rgbx, 2880, 1800⟩, true⟩ (some (some [packedData])) = some frame ∧
      handedPicture targetEncoder firstBytes (some fun _ => 0) frame = some nv12 ∧
      ¬SpaVideoFormat.rgbx.Shows (bytesAt firstBytes 4096) 11520 2880 1800 nv12 :=
  ⟨by decide, isSenderEncoder_targetEncoder, wrong_picture_of_order rfl⟩

/-! ### The bytes that are read -/

/-- The reads of one pass of an inner loop. -/
def pixelLoads (stride : UInt32) (y x : ℕ) : List ℕ :=
  [bgrxOffset stride y x 0, bgrxOffset stride y x 1, bgrxOffset stride y x 2]

/-- The offsets at which `db_encoder_encode_bgrx` reads the frame. -/
def bgrxLoads (stride : UInt32) (width height : ℕ) : List ℕ :=
  (List.range height).flatMap fun y =>
    (List.range width).flatMap (pixelLoads stride y) ++
      if HasChroma height y then (chromaColumns width).flatMap (pixelLoads stride y) else []

section Loads

variable {stride : UInt32} {width height : ℕ}

theorem mem_pixelLoads {y x o : ℕ} :
    o ∈ pixelLoads stride y x ↔ ∃ k < 3, o = bgrxOffset stride y x k := by
  rw [pixelLoads, List.mem_cons, List.mem_cons, List.mem_singleton]
  constructor
  · rintro (rfl | rfl | rfl)
    · exact ⟨0, by decide, rfl⟩
    · exact ⟨1, by decide, rfl⟩
    · exact ⟨2, by decide, rfl⟩
  · rintro ⟨k, hk, rfl⟩
    rcases (by omega : k = 0 ∨ k = 1 ∨ k = 2) with rfl | rfl | rfl
    · exact Or.inl rfl
    · exact Or.inr (Or.inl rfl)
    · exact Or.inr (Or.inr rfl)

/-- The chroma loop reads no pixel that the luma loop does not. -/
theorem mem_bgrxLoads {o : ℕ} :
    o ∈ bgrxLoads stride width height ↔
      ∃ y < height, ∃ x < width, ∃ k < 3, o = bgrxOffset stride y x k := by
  simp only [bgrxLoads, List.mem_flatMap, List.mem_range, List.mem_append]
  constructor
  · rintro ⟨y, hy, ⟨x, hx, ho⟩ | ho⟩
    · exact ⟨y, hy, x, hx, mem_pixelLoads.1 ho⟩
    · by_cases hchroma : HasChroma height y
      · rw [if_pos hchroma, List.mem_flatMap] at ho
        obtain ⟨x, hx, ho⟩ := ho
        obtain ⟨u, hu, rfl⟩ := mem_chromaColumns.1 hx
        exact ⟨y, hy, 2 * u, by omega, mem_pixelLoads.1 ho⟩
      · rw [if_neg hchroma] at ho
        exact absurd ho List.not_mem_nil
  · rintro ⟨y, hy, x, hx, hk⟩
    exact ⟨y, hy, Or.inl ⟨x, hx, mem_pixelLoads.2 hk⟩⟩

/-- The pixel at a place is its three bytes. -/
theorem pixelAt_congr {f g : ℕ → UInt8} (h : ∀ o ∈ bgrxLoads stride width height, f o = g o)
    {y x : ℕ} (hy : y < height) (hx : x < width) : pixelAt f stride y x = pixelAt g stride y x := by
  have hbyte : ∀ k < 3, f (bgrxOffset stride y x k) = g (bgrxOffset stride y x k) :=
    fun k hk => h _ (mem_bgrxLoads.2 ⟨y, hy, x, hx, k, hk, rfl⟩)
  rw [pixelAt, pixelAt, hbyte 0 (by decide), hbyte 1 (by decide), hbyte 2 (by decide)]

/-- **Nothing else is read**: frames that agree at these offsets are converted alike. -/
theorem bgrxToNv12_congr {f g : ℕ → UInt8}
    (h : ∀ o ∈ bgrxLoads stride width height, f o = g o) :
    bgrxToNv12 f stride width height = bgrxToNv12 g stride width height := by
  refine List.flatMap_congr fun y hy => ?_
  have hy := List.mem_range.1 hy
  congr 1
  · refine List.map_congr_left fun x hx => ?_
    rw [pixelAt_congr h hy (List.mem_range.1 hx)]
  · congr 1
    refine List.flatMap_congr fun x hx => ?_
    obtain ⟨u, hu, rfl⟩ := mem_chromaColumns.1 hx
    rw [pixelAt_congr h hy (by omega)]

/-- **The last byte that is read** is the third one of the last pixel. -/
theorem bgrxLoads_lt_iff (hwidth : 0 < width) (hheight : 0 < height) {size : ℕ} :
    (∀ o ∈ bgrxLoads stride width height, o < size) ↔
      (height - 1) * stride.toNat + (4 * width - 1) ≤ size := by
  constructor
  · intro h
    have hlast := h _ (mem_bgrxLoads.2 ⟨height - 1, by omega, width - 1, by omega, 2,
      by decide, rfl⟩)
    unfold bgrxOffset at hlast
    omega
  · intro h o ho
    obtain ⟨y, hy, x, hx, k, hk, rfl⟩ := mem_bgrxLoads.1 ho
    have hrow : y * stride.toNat ≤ (height - 1) * stride.toNat :=
      Nat.mul_le_mul_right _ (by omega)
    unfold bgrxOffset
    omega

end Loads

/-- **The conversion reads inside the chunk exactly if the chunk reaches to the last pixel**, at
the stride of the chunk: for every buffer that passes the checks of `on_stream_process` and
`on_frame_captured`. -/
theorem readsWithin_iff {enc : PixelEncoder} (henc : IsSenderEncoder enc) {cap : DbCapture}
    {d : SpaData} {rest : List SpaData} {frame : CapturedFrame} {data : UInt64} {stride : UInt32}
    (hproc : onStreamProcess cap (some (some (d :: rest))) = some frame)
    (hcall : onFrameCaptured frame = some (.bgrx data stride)) :
    (∀ o ∈ bgrxLoads stride enc.width.toNat enc.height.toNat, o < d.chunk.size.toNat) ↔
      1799 * d.chunk.stride.toUInt32.toNat + 11519 ≤ d.chunk.size.toNat := by
  obtain ⟨hdata, -, hstride, -⟩ := onFrameCaptured_bgrx hcall
  obtain ⟨-, hchunk, -⟩ := onStreamProcess_memory hproc hdata
  rw [hstride, hchunk, henc.ready.width_eq, henc.ready.height_eq]
  exact bgrxLoads_lt_iff (by decide) (by decide)

/-- The whole frame of four bytes a pixel is long enough. -/
theorem readsWithin_packedData :
    onStreamProcess ⟨some ⟨.bgrx, 2880, 1800⟩, true⟩ (some (some [packedData])) =
        some ⟨4096, 2880, 1800, 11520⟩ ∧
      onFrameCaptured ⟨4096, 2880, 1800, 11520⟩ = some (.bgrx 4096 11520) ∧
      ∀ o ∈ bgrxLoads 11520 targetEncoder.width.toNat targetEncoder.height.toNat,
        o < 20736000 := by
  have hproc : onStreamProcess ⟨some ⟨.bgrx, 2880, 1800⟩, true⟩ (some (some [packedData])) =
      some ⟨4096, 2880, 1800, 11520⟩ := rfl
  have hcall : onFrameCaptured ⟨4096, 2880, 1800, 11520⟩ = some (.bgrx 4096 11520) := rfl
  exact ⟨hproc, hcall, (readsWithin_iff isSenderEncoder_targetEncoder hproc hcall).2 (by decide)⟩

/-- **A chunk of one byte passes the checks**, and the second byte of the first pixel is read. -/
theorem not_readsWithin_shortChunk :
    onStreamProcess ⟨some ⟨.bgrx, 2880, 1800⟩, true⟩
        (some (some [⟨.memPtr, -1, 4096, ⟨0, 1, 11520⟩⟩])) = some ⟨4096, 2880, 1800, 11520⟩ ∧
      onFrameCaptured ⟨4096, 2880, 1800, 11520⟩ = some (.bgrx 4096 11520) ∧
      1 ∈ bgrxLoads 11520 targetEncoder.width.toNat targetEncoder.height.toNat :=
  ⟨rfl, rfl, mem_bgrxLoads.2 ⟨0, by decide, 0, by decide, 1, by decide, rfl⟩⟩

end DisplayBridge
