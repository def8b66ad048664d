import DisplayBridge.Ubuntu.Bitstream
import DisplayBridge.Ubuntu.Encoder

/-!
# The parameter sets of the sender

The video, the sequence and the picture parameter set as `encoder.c` writes them,
element by element, and what a decoder reads in them: `DisplayBridge.vpsOf`,
`DisplayBridge.spsOf` and `DisplayBridge.ppsOf`, for every encoder. All three end
exactly at their trailing bits.

The proofs are the ones the two layers below were made for. The writer is
rewritten into the bits it has written (`DisplayBridge.writeVps_eq`,
`DisplayBridge.writeSps_eq`, `DisplayBridge.writePps_eq`), and the reader is run
over them from left to right.
-/

namespace DisplayBridge

open Bits H265
open Bitstream (ofBits)

/-! ### Writing -/

/-- `write_profile_tier_level`. -/
def writeProfileTierLevel (bs : Bitstream) : Bitstream :=
  let bs := bsWrite bs 0 2 -- general_profile_space
  let bs := bsWrite1 bs 0 -- general_tier_flag
  let bs := bsWrite bs 1 5 -- general_profile_idc
  -- general_profile_compatibility_flag[i]
  let bs := (List.range 32).foldl (fun bs i => bsWrite1 bs (if i = 1 ∨ i = 2 then 1 else 0)) bs
  let bs := bsWrite1 bs 1 -- general_progressive_source_flag
  let bs := bsWrite1 bs 0 -- general_interlaced_source_flag
  let bs := bsWrite1 bs 1 -- general_non_packed_constraint_flag
  let bs := bsWrite1 bs 1 -- general_frame_only_constraint_flag
  let bs := (List.range 44).foldl (fun bs _ => bsWrite1 bs 0) bs
  bsWrite bs 120 8 -- general_level_idc

/-- `write_vps`. -/
def writeVps (enc : DbEncoder) : List UInt8 :=
  let bs := bsInit 256
  let bs := bsWrite bs 0 4 -- vps_video_parameter_set_id
  let bs := bsWrite1 bs 1 -- vps_base_layer_internal_flag
  let bs := bsWrite1 bs 1 -- vps_base_layer_available_flag
  let bs := bsWrite bs 0 6 -- vps_max_layers_minus1
  let bs := bsWrite bs 0 3 -- vps_max_sub_layers_minus1
  let bs := bsWrite1 bs 1 -- vps_temporal_id_nesting_flag
  let bs := bsWrite bs 0xFFFF 16 -- vps_reserved_0xffff_16bits
  let bs := writeProfileTierLevel bs
  let bs := bsWrite1 bs 0 -- vps_sub_layer_ordering_info_present_flag
  let bs := bsWriteUe bs 1 -- vps_max_dec_pic_buffering_minus1[0]
  let bs := bsWriteUe bs 0 -- vps_max_num_reorder_pics[0]
  let bs := bsWriteUe bs 0 -- vps_max_latency_increase_plus1[0]
  let bs := bsWrite bs 0 6 -- vps_max_layer_id
  let bs := bsWriteUe bs 0 -- vps_num_layer_sets_minus1
  let bs := bsWrite1 bs 1 -- vps_timing_info_present_flag
  let bs := bsWrite bs 1 32 -- vps_num_units_in_tick
  let bs := bsWrite bs (UInt32.ofInt enc.fps) 32 -- vps_time_scale
  let bs := bsWrite1 bs 0 -- vps_poc_proportional_to_timing_flag
  let bs := bsWriteUe bs 0 -- vps_num_hrd_parameters
  let bs := bsWrite1 bs 0 -- vps_extension_flag
  finish bs

/-- The conformance window, within `write_sps`. -/
def writeConformanceWindow (bs : Bitstream) (enc : DbEncoder) (aw ah : ℤ) : Bitstream :=
  let needConf := aw ≠ enc.width ∨ ah ≠ enc.height
  let bs := bsWrite1 bs (if needConf then 1 else 0)
  if needConf then
    let rightOffset := (aw - enc.width).tdiv 2
    let bottomOffset := (ah - enc.height).tdiv 2
    let bs := bsWriteUe bs 0 -- conf_win_left_offset
    let bs := bsWriteUe bs (UInt32.ofInt rightOffset) -- conf_win_right_offset
    let bs := bsWriteUe bs 0 -- conf_win_top_offset
    bsWriteUe bs (UInt32.ofInt bottomOffset) -- conf_win_bottom_offset
  else bs

/-- `write_sps`. -/
def writeSps (enc : DbEncoder) : List UInt8 :=
  let bs := bsInit 512
  let aw := align enc.width hevcCtuSize
  let ah := align enc.height hevcCtuSize
  let bs := bsWrite bs 0 4 -- sps_video_parameter_set_id
  let bs := bsWrite bs 0 3 -- sps_max_sub_layers_minus1
  let bs := bsWrite1 bs 1 -- sps_temporal_id_nesting_flag
  let bs := writeProfileTierLevel bs
  let bs := bsWriteUe bs 0 -- sps_seq_parameter_set_id
  let bs := bsWriteUe bs 1 -- chroma_format_idc
  let bs := bsWriteUe bs (UInt32.ofInt aw) -- pic_width_in_luma_samples
  let bs := bsWriteUe bs (UInt32.ofInt ah) -- pic_height_in_luma_samples
  let bs := writeConformanceWindow bs enc aw ah
  let bs := bsWriteUe bs 0 -- bit_depth_luma_minus8
  let bs := bsWriteUe bs 0 -- bit_depth_chroma_minus8
  let bs := bsWriteUe bs 8 -- log2_max_pic_order_cnt_lsb_minus4
  let bs := bsWrite1 bs 0 -- sps_sub_layer_ordering_info_present_flag
  let bs := bsWriteUe bs 1 -- sps_max_dec_pic_buffering_minus1[0]
  let bs := bsWriteUe bs 0 -- sps_max_num_reorder_pics[0]
  let bs := bsWriteUe bs 0 -- sps_max_latency_increase_plus1[0]
  let bs := bsWriteUe bs 0 -- log2_min_luma_coding_block_size_minus3
  let bs := bsWriteUe bs 3 -- log2_diff_max_min_luma_coding_block_size
  let bs := bsWriteUe bs 0 -- log2_min_luma_transform_block_size_minus2
  let bs := bsWriteUe bs 3 -- log2_diff_max_min_luma_transform_block_size
  let bs := bsWriteUe bs 2 -- max_transform_hierarchy_depth_inter
  let bs := bsWriteUe bs 2 -- max_transform_hierarchy_depth_intra
  let bs := bsWrite1 bs 0 -- scaling_list_enabled_flag
  let bs := bsWrite1 bs 1 -- amp_enabled_flag
  let bs := bsWrite1 bs 0 -- sample_adaptive_offset_enabled_flag
  let bs := bsWrite1 bs 0 -- pcm_enabled_flag
  let bs := bsWriteUe bs 0 -- num_short_term_ref_pic_sets
  let bs := bsWrite1 bs 0 -- long_term_ref_pics_present_flag
  let bs := bsWrite1 bs 0 -- sps_temporal_mvp_enabled_flag
  let bs := bsWrite1 bs 1 -- strong_intra_smoothing_enabled_flag
  let bs := bsWrite1 bs 0 -- vui_parameters_present_flag
  let bs := bsWrite1 bs 0 -- sps_extension_present_flag
  finish bs

/-- `write_pps`. It reads nothing of the encoder. -/
def writePps : List UInt8 :=
  let bs := bsInit 256
  let bs := bsWriteUe bs 0 -- pps_pic_parameter_set_id
  let bs := bsWriteUe bs 0 -- pps_seq_parameter_set_id
  let bs := bsWrite1 bs 0 -- dependent_slice_segments_enabled_flag
  let bs := bsWrite1 bs 0 -- output_flag_present_flag
  let bs := bsWrite bs 0 3 -- num_extra_slice_header_bits
  let bs := bsWrite1 bs 0 -- sign_data_hiding_enabled_flag
  let bs := bsWrite1 bs 0 -- cabac_init_present_flag
  let bs := bsWriteUe bs 0 -- num_ref_idx_l0_default_active_minus1
  let bs := bsWriteUe bs 0 -- num_ref_idx_l1_default_active_minus1
  let bs := bsWriteSe bs 0 -- init_qp_minus26
  let bs := bsWrite1 bs 0 -- constrained_intra_pred_flag
  let bs := bsWrite1 bs 0 -- transform_skip_enabled_flag
  let bs := bsWrite1 bs 1 -- cu_qp_delta_enabled_flag
  let bs := bsWriteUe bs 0 -- diff_cu_qp_delta_depth
  let bs := bsWriteSe bs 0 -- pps_cb_qp_offset
  let bs := bsWriteSe bs 0 -- pps_cr_qp_offset
  let bs := bsWrite1 bs 0 -- pps_slice_chroma_qp_offsets_present_flag
  let bs := bsWrite1 bs 0 -- weighted_pred_flag
  let bs := bsWrite1 bs 0 -- weighted_bipred_flag
  let bs := bsWrite1 bs 0 -- transquant_bypass_enabled_flag
  let bs := bsWrite1 bs 0 -- tiles_enabled_flag
  let bs := bsWrite1 bs 0 -- entropy_coding_sync_enabled_flag
  let bs := bsWrite1 bs 1 -- loop_filter_across_slices_enabled_flag
  let bs := bsWrite1 bs 1 -- deblocking_filter_control_present_flag
  let bs := bsWrite1 bs 0 -- deblocking_filter_override_enabled_flag
  let bs := bsWrite1 bs 0 -- pps_deblocking_filter_disabled_flag
  let bs := bsWriteSe bs 0 -- pps_beta_offset_div2
  let bs := bsWriteSe bs 0 -- pps_tc_offset_div2
  let bs := bsWrite1 bs 0 -- pps_scaling_list_data_present_flag
  let bs := bsWrite1 bs 0 -- lists_modification_present_flag
  let bs := bsWriteUe bs 0 -- log2_parallel_merge_level_minus2
  let bs := bsWrite1 bs 0 -- slice_segment_header_extension_present_flag
  let bs := bsWrite1 bs 0 -- pps_extension_present_flag
  finish bs

/-! ### What a decoder reads -/

/-- The bits `write_profile_tier_level` writes. -/
def ptlBits : List Bool :=
  bitsOf 2 0 ++ bitsOf 1 0 ++ bitsOf 5 1 ++ bitsOf 32 0x60000000 ++ bitsOf 1 1 ++ bitsOf 1 0 ++
    bitsOf 1 1 ++ bitsOf 1 1 ++ bitsOf 44 0 ++ bitsOf 8 120

/-- The profile of the stream: Main, progressive, level 4. -/
def ptlOf : ProfileTierLevel where
  generalProfileSpace := 0
  generalTierFlag := 0
  generalProfileIdc := 1
  generalProfileCompatibilityFlags := 0x60000000
  generalProgressiveSourceFlag := 1
  generalInterlacedSourceFlag := 0
  generalNonPackedConstraintFlag := 1
  generalFrameOnlyConstraintFlag := 1
  generalReserved44Bits := 0
  generalLevelIdc := 120

/-- The video parameter set of the stream: one picture a tick, and the frame rate in
ticks a second. -/
def vpsOf (enc : DbEncoder) : Vps where
  vpsVideoParameterSetId := 0
  vpsBaseLayerInternalFlag := 1
  vpsBaseLayerAvailableFlag := 1
  vpsMaxLayersMinus1 := 0
  vpsMaxSubLayersMinus1 := 0
  vpsTemporalIdNestingFlag := 1
  vpsReserved0xffff16bits := 0xFFFF
  profileTierLevel := ptlOf
  vpsSubLayerOrderingInfoPresentFlag := 0
  vpsMaxDecPicBufferingMinus1 := 1
  vpsMaxNumReorderPics := 0
  vpsMaxLatencyIncreasePlus1 := 0
  vpsMaxLayerId := 0
  vpsNumLayerSetsMinus1 := 0
  vpsTimingInfo := some {
    vpsNumUnitsInTick := 1
    vpsTimeScale := (enc.fps % 2 ^ 32).toNat
    vpsPocProportionalToTimingFlag := 0
    vpsNumTicksPocDiffOneMinus1 := 0
    vpsNumHrdParameters := 0 }
  vpsExtensionFlag := 0

/-- The conformance window of the stream: what was added on the right and at the
bottom. -/
def windowOf (enc : DbEncoder) : ConformanceWindow where
  conformanceWindowFlag :=
    if align enc.width hevcCtuSize ≠ enc.width ∨ align enc.height hevcCtuSize ≠ enc.height
    then 1 else 0
  confWinLeftOffset := 0
  confWinRightOffset := ((align enc.width hevcCtuSize - enc.width) / 2).toNat
  confWinTopOffset := 0
  confWinBottomOffset := ((align enc.height hevcCtuSize - enc.height) / 2).toNat

/-- The sequence parameter set of the stream. -/
def spsOf (enc : DbEncoder) : Sps where
  spsVideoParameterSetId := 0
  spsMaxSubLayersMinus1 := 0
  spsTemporalIdNestingFlag := 1
  profileTierLevel := ptlOf
  spsSeqParameterSetId := 0
  chromaFormatIdc := 1
  separateColourPlaneFlag := 0
  picWidthInLumaSamples := (align enc.width hevcCtuSize % 2 ^ 32).toNat
  picHeightInLumaSamples := (align enc.height hevcCtuSize % 2 ^ 32).toNat
  conformanceWindow := windowOf enc
  bitDepthLumaMinus8 := 0
  bitDepthChromaMinus8 := 0
  log2MaxPicOrderCntLsbMinus4 := 8
  spsSubLayerOrderingInfoPresentFlag := 0
  spsMaxDecPicBufferingMinus1 := 1
  spsMaxNumReorderPics := 0
  spsMaxLatencyIncreasePlus1 := 0
  log2MinLumaCodingBlockSizeMinus3 := 0
  log2DiffMaxMinLumaCodingBlockSize := 3
  log2MinLumaTransformBlockSizeMinus2 := 0
  log2DiffMaxMinLumaTransformBlockSize := 3
  maxTransformHierarchyDepthInter := 2
  maxTransformHierarchyDepthIntra := 2
  scalingListEnabledFlag := 0
  ampEnabledFlag := 1
  sampleAdaptiveOffsetEnabledFlag := 0
  pcmEnabledFlag := 0
  shortTermRefPicSets := []
  longTermRefPicsPresentFlag := 0
  spsTemporalMvpEnabledFlag := 0
  strongIntraSmoothingEnabledFlag := 1
  vuiParametersPresentFlag := 0
  spsExtensionPresentFlag := 0

/-- The picture parameter set of the stream. -/
def ppsOf : Pps where
  ppsPicParameterSetId := 0
  ppsSeqParameterSetId := 0
  dependentSliceSegmentsEnabledFlag := 0
  outputFlagPresentFlag := 0
  numExtraSliceHeaderBits := 0
  signDataHidingEnabledFlag := 0
  cabacInitPresentFlag := 0
  numRefIdxL0DefaultActiveMinus1 := 0
  numRefIdxL1DefaultActiveMinus1 := 0
  initQpMinus26 := 0
  constrainedIntraPredFlag := 0
  transformSkipEnabledFlag := 0
  cuQpDeltaEnabledFlag := 1
  diffCuQpDeltaDepth := 0
  ppsCbQpOffset := 0
  ppsCrQpOffset := 0
  ppsSliceChromaQpOffsetsPresentFlag := 0
  weightedPredFlag := 0
  weightedBipredFlag := 0
  transquantBypassEnabledFlag := 0
  tilesEnabledFlag := 0
  entropyCodingSyncEnabledFlag := 0
  ppsLoopFilterAcrossSlicesEnabledFlag := 1
  deblockingFilterControlPresentFlag := 1
  deblockingFilterOverrideEnabledFlag := 0
  ppsDeblockingFilterDisabledFlag := 0
  ppsBetaOffsetDiv2 := 0
  ppsTcOffsetDiv2 := 0
  ppsScalingListDataPresentFlag := 0
  listsModificationPresentFlag := 0
  log2ParallelMergeLevelMinus2 := 0
  sliceSegmentHeaderExtensionPresentFlag := 0
  ppsExtensionPresentFlag := 0

/-! ### Reading back -/

theorem writeProfileTierLevel_ofBits (capacity : ℕ) (l : List Bool) :
    writeProfileTierLevel (ofBits capacity l) = ofBits capacity (l ++ ptlBits) := by
  have hcompat : ((List.range 32).flatMap fun i =>
      bitsOf 1 (if i = 1 ∨ i = 2 then (1 : UInt32) else 0).toNat) = bitsOf 32 0x60000000 := by
    decide +kernel
  have hzeros : ((List.range 44).flatMap fun _ => bitsOf 1 (0 : UInt32).toNat) = bitsOf 44 0 := by
    decide +kernel
  simp only [writeProfileTierLevel, bsWrite_ofBits, bsWrite1_ofBits]
  rw [foldl_bsWrite1_ofBits capacity (fun i => if i = 1 ∨ i = 2 then 1 else 0), hcompat]
  simp only [bsWrite1_ofBits]
  rw [foldl_bsWrite1_ofBits capacity (fun _ => 0), hzeros, bsWrite_ofBits]
  simp only [ptlBits, List.append_assoc]
  rfl

theorem run_profileTierLevel_bind {α : Type} (rest : List Bool)
    (f : ProfileTierLevel → Reader α) :
    (profileTierLevel >>= f).run (ptlBits ++ rest) = (f ptlOf).run rest := by
  refine run_bind_some ?_
  simp only [ptlBits, List.append_assoc]
  rw [profileTierLevel]
  simp only [↓run_u_bind]
  rfl

/-- An aligned size is never the one value whose code is empty. -/
theorem bsWriteUe_align (capacity : ℕ) (l : List Bool) (x : ℤ) :
    bsWriteUe (ofBits capacity l) (UInt32.ofInt (align x hevcCtuSize)) =
      ofBits capacity (l ++ ueBits (align x hevcCtuSize % 2 ^ 32).toNat) := by
  have hmod := align_mod x
  have hlt : (UInt32.ofInt (align x hevcCtuSize)).toNat + 1 < 2 ^ 32 := by
    rw [toNat_uint32OfInt]
    omega
  rw [bsWriteUe_ofBits _ _ hlt, toNat_uint32OfInt]

theorem bsWriteUe_offset (capacity : ℕ) (l : List Bool) (x : ℤ) :
    bsWriteUe (ofBits capacity l) (UInt32.ofInt ((align x hevcCtuSize - x).tdiv 2)) =
      ofBits capacity (l ++ ueBits ((align x hevcCtuSize - x) / 2).toNat) := by
  obtain ⟨h₀, h₁⟩ := align_sub x
  have hdiv : (align x hevcCtuSize - x).tdiv 2 = (align x hevcCtuSize - x) / 2 :=
    Int.tdiv_eq_ediv_of_nonneg h₀
  have hval : (UInt32.ofInt ((align x hevcCtuSize - x) / 2)).toNat =
      ((align x hevcCtuSize - x) / 2).toNat := by
    rw [toNat_uint32OfInt, Int.emod_eq_of_lt (by omega) (by omega)]
  rw [hdiv, bsWriteUe_ofBits _ _ (by omega), hval]

/-- The code of a 32-bit value has at most 65 bits. -/
theorem length_ueBits_le {v : ℕ} (h : v < 2 ^ 32) : (ueBits v).length ≤ 65 := by
  have hlog : (v + 1).log2 < 33 := (Nat.log2_lt (Nat.succ_ne_zero v)).2 (by omega)
  rw [length_ueBits]
  omega

theorem length_ptlBits : ptlBits.length = 96 := by
  simp [ptlBits]

/-- The bits of the conformance window. -/
def windowBits (enc : DbEncoder) : List Bool :=
  if align enc.width hevcCtuSize ≠ enc.width ∨ align enc.height hevcCtuSize ≠ enc.height then
    bitsOf 1 1 ++ (ueBits 0 ++ (ueBits ((align enc.width hevcCtuSize - enc.width) / 2).toNat ++
      (ueBits 0 ++ ueBits ((align enc.height hevcCtuSize - enc.height) / 2).toNat)))
  else bitsOf 1 0

theorem writeConformanceWindow_ofBits (capacity : ℕ) (l : List Bool) (enc : DbEncoder) :
    writeConformanceWindow (ofBits capacity l) enc (align enc.width hevcCtuSize)
        (align enc.height hevcCtuSize) =
      ofBits capacity (l ++ windowBits enc) := by
  rw [writeConformanceWindow, windowBits]
  by_cases hconf : align enc.width hevcCtuSize ≠ enc.width ∨
      align enc.height hevcCtuSize ≠ enc.height
  · simp only [if_pos hconf, bsWrite1_ofBits, bsWriteUe_ofBits, bsWriteUe_offset,
      UInt32.reduceToNat, Nat.reduceAdd, Nat.reducePow, Nat.reduceLT, List.append_assoc]
  · simp only [if_neg hconf, bsWrite1_ofBits]
    rfl

theorem run_conformanceWindow_bind {α : Type} (rest : List Bool) (enc : DbEncoder)
    (f : ConformanceWindow → Reader α) :
    (conformanceWindow >>= f).run (windowBits enc ++ rest) = (f (windowOf enc)).run rest := by
  refine run_bind_some ?_
  rw [windowBits, windowOf, conformanceWindow]
  by_cases hconf : align enc.width hevcCtuSize ≠ enc.width ∨
      align enc.height hevcCtuSize ≠ enc.height
  · simp only [if_pos hconf, List.append_assoc]
    simp only [↓run_u_bind, ↓run_ue_bind, ↓present_bind_pos, Nat.reducePow, Nat.reduceMod]
    rfl
  · -- nothing is cut off, and the offsets are inferred to be zero
    obtain ⟨hw, hh⟩ := not_or.1 hconf
    rw [not_not] at hw hh
    simp only [if_neg hconf]
    simp only [↓run_u_bind, ↓present_bind_neg, Nat.reducePow, Nat.zero_mod, Nat.zero_ne_one,
      not_false_eq_true]
    rw [hw, hh]
    simp

theorem length_windowBits_le (enc : DbEncoder) : (windowBits enc).length ≤ 133 := by
  have hoffset : ∀ x, (ueBits ((align x hevcCtuSize - x) / 2).toNat).length ≤ 65 := by
    intro x
    have := align_sub x
    exact length_ueBits_le (by omega)
  have hr := hoffset enc.width
  have hb := hoffset enc.height
  have hzero : (ueBits 0).length = 1 := by decide
  rw [windowBits]
  split
  · simp only [List.length_append, length_bitsOf]
    omega
  · simp

/-! ### The video parameter set -/

/-- The bits of the video parameter set, with the given time scale. -/
def vpsBits (timeScale : ℕ) : List Bool :=
  List.flatten [
    bitsOf 4 0, bitsOf 1 1, bitsOf 1 1, bitsOf 6 0, bitsOf 3 0, bitsOf 1 1, bitsOf 16 0xFFFF,
    ptlBits, bitsOf 1 0, ueBits 1, ueBits 0, ueBits 0, bitsOf 6 0, ueBits 0, bitsOf 1 1,
    bitsOf 32 1, bitsOf 32 timeScale, bitsOf 1 0, ueBits 0, bitsOf 1 0]

theorem length_vpsBits (timeScale : ℕ) : (vpsBits timeScale).length = 209 := by
  have h₀ : (ueBits 0).length = 1 := by decide
  have h₁ : (ueBits 1).length = 3 := by decide
  simp only [vpsBits, List.flatten_cons, List.flatten_nil, List.length_append, List.length_nil,
    length_bitsOf, length_ptlBits, h₀, h₁]

theorem writeVps_eq (enc : DbEncoder) :
    writeVps enc = addEmulationPrevention (rbsp (vpsBits (enc.fps % 2 ^ 32).toNat)) := by
  have hfits : (vpsBits (enc.fps % 2 ^ 32).toNat).length < 8 * 256 := by
    rw [length_vpsBits]
    decide
  rw [← finish_ofBits hfits, writeVps]
  simp only [bsInit_eq, bsWrite1_ofBits, bsWrite_ofBits, bsWriteUe_ofBits,
    writeProfileTierLevel_ofBits, toNat_uint32OfInt, List.nil_append, UInt32.reduceToNat,
    Nat.reduceAdd, Nat.reducePow, Nat.reduceLT]
  simp only [vpsBits, List.flatten_cons, List.flatten_nil, List.append_nil, List.append_assoc]

theorem run_vpsTiming_bind {α : Type} (scale : ℕ) (rest : List Bool)
    (f : Option VpsTiming → Reader α) :
    (some <$> vpsTiming >>= f).run
        (bitsOf 32 1 ++ (bitsOf 32 scale ++ (bitsOf 1 0 ++ (ueBits 0 ++ rest)))) =
      (f (some ⟨1, scale % 2 ^ 32, 0, 0, 0⟩)).run rest := by
  have htiming : vpsTiming.run
      (bitsOf 32 1 ++ (bitsOf 32 scale ++ (bitsOf 1 0 ++ (ueBits 0 ++ rest)))) =
        some (⟨1, scale % 2 ^ 32, 0, 0, 0⟩, rest) := by
    rw [vpsTiming]
    simp (disch := simp) only [↓run_u_bind, ↓run_ue_bind, ↓present_bind_neg, ↓absent_bind]
    rfl
  refine run_bind_some ?_
  rw [StateT.run_map, htiming]
  rfl

/-- **The video parameter set is read back.** -/
theorem videoParameterSet_writeVps (enc : DbEncoder) :
    readAll videoParameterSet (toBits (unescape (writeVps enc))) = some (vpsOf enc) := by
  have hscale : (enc.fps % 2 ^ 32).toNat % 4294967296 = (enc.fps % 2 ^ 32).toNat :=
    Nat.mod_eq_of_lt (by omega)
  rw [readAll_eq_some, writeVps_eq, unescape_addEmulationPrevention, toBits_rbsp]
  simp only [vpsBits, List.flatten_cons, List.flatten_nil, List.append_assoc, List.nil_append]
  rw [videoParameterSet]
  simp only [↓run_u_bind, ↓run_ue_bind, ↓run_stop_bind, ↓run_profileTierLevel_bind,
    ↓run_vpsTiming_bind, ↓present_bind_pos, ↓absent_bind, Nat.reducePow, Nat.reduceMod]
  rw [hscale]
  rfl

/-! ### The picture parameter set -/

/-- The bits of the picture parameter set. -/
def ppsBits : List Bool :=
  List.flatten [
    ueBits 0, ueBits 0, bitsOf 1 0, bitsOf 1 0, bitsOf 3 0, bitsOf 1 0, bitsOf 1 0, ueBits 0,
    ueBits 0, seBits 0, bitsOf 1 0, bitsOf 1 0, bitsOf 1 1, ueBits 0, seBits 0, seBits 0,
    bitsOf 1 0, bitsOf 1 0, bitsOf 1 0, bitsOf 1 0, bitsOf 1 0, bitsOf 1 0, bitsOf 1 1, bitsOf 1 1,
    bitsOf 1 0, bitsOf 1 0, seBits 0, seBits 0, bitsOf 1 0, bitsOf 1 0, ueBits 0, bitsOf 1 0,
    bitsOf 1 0]

theorem length_ppsBits : ppsBits.length = 35 := by decide

theorem writePps_eq : writePps = addEmulationPrevention (rbsp ppsBits) := by
  have hfits : ppsBits.length < 8 * 256 := by
    rw [length_ppsBits]
    decide
  rw [← finish_ofBits hfits, writePps]
  simp only [bsInit_eq, bsWrite1_ofBits, bsWrite_ofBits, bsWriteUe_ofBits, bsWriteSe_ofBits,
    List.nil_append, UInt32.reduceToNat, Nat.reduceAdd, Nat.reducePow, Nat.reduceLT,
    Int.natAbs_zero]
  simp only [ppsBits, List.flatten_cons, List.flatten_nil, List.append_nil, List.append_assoc]

/-- **The picture parameter set is read back.** -/
theorem picParameterSet_writePps :
    readAll picParameterSet (toBits (unescape writePps)) = some ppsOf := by
  rw [readAll_eq_some, writePps_eq, unescape_addEmulationPrevention, toBits_rbsp]
  -- one element after the other
  simp only [ppsBits, List.flatten_cons, List.flatten_nil, List.append_assoc, List.nil_append]
  rw [picParameterSet]
  simp only [↓run_u_bind, ↓run_ue_bind, ↓run_se_bind, ↓run_stop_bind, ↓present_bind_pos,
    ↓absent_bind, Nat.reducePow, Nat.reduceMod, and_self]
  rfl

/-! ### The sequence parameter set -/

/-- The bits of the sequence parameter set. -/
def spsBits (enc : DbEncoder) : List Bool :=
  List.flatten [
    bitsOf 4 0, bitsOf 3 0, bitsOf 1 1, ptlBits, ueBits 0, ueBits 1,
    ueBits (align enc.width hevcCtuSize % 2 ^ 32).toNat,
    ueBits (align enc.height hevcCtuSize % 2 ^ 32).toNat, windowBits enc, ueBits 0, ueBits 0,
    ueBits 8, bitsOf 1 0, ueBits 1, ueBits 0, ueBits 0, ueBits 0, ueBits 3, ueBits 0, ueBits 3,
    ueBits 2, ueBits 2, bitsOf 1 0, bitsOf 1 1, bitsOf 1 0, bitsOf 1 0, ueBits 0, bitsOf 1 0,
    bitsOf 1 0, bitsOf 1 1, bitsOf 1 0, bitsOf 1 0]

theorem length_spsBits_le (enc : DbEncoder) : (spsBits enc).length ≤ 420 := by
  have hsize : ∀ x, (ueBits (align x hevcCtuSize % 2 ^ 32).toNat).length ≤ 65 := fun x =>
    length_ueBits_le (by omega)
  have hw := hsize enc.width
  have hh := hsize enc.height
  have hwin := length_windowBits_le enc
  have h₀ : (ueBits 0).length = 1 := by decide
  have h₁ : (ueBits 1).length = 3 := by decide
  have h₂ : (ueBits 2).length = 3 := by decide
  have h₃ : (ueBits 3).length = 5 := by decide
  have h₈ : (ueBits 8).length = 7 := by decide
  simp only [spsBits, List.flatten_cons, List.flatten_nil, List.length_append, List.length_nil,
    length_bitsOf, length_ptlBits, h₀, h₁, h₂, h₃, h₈]
  omega

theorem writeSps_eq (enc : DbEncoder) :
    writeSps enc = addEmulationPrevention (rbsp (spsBits enc)) := by
  have hfits : (spsBits enc).length < 8 * 512 := (length_spsBits_le enc).trans_lt (by decide)
  rw [← finish_ofBits hfits, writeSps]
  simp only [bsInit_eq, bsWrite1_ofBits, bsWrite_ofBits, bsWriteUe_ofBits, bsWriteUe_align,
    writeProfileTierLevel_ofBits, writeConformanceWindow_ofBits, List.nil_append,
    UInt32.reduceToNat, Nat.reduceAdd, Nat.reducePow, Nat.reduceLT]
  simp only [spsBits, List.flatten_cons, List.flatten_nil, List.append_nil, List.append_assoc]

/-- **The sequence parameter set is read back**, whatever the size of the
picture. -/
theorem seqParameterSet_writeSps (enc : DbEncoder) :
    readAll seqParameterSet (toBits (unescape (writeSps enc))) = some (spsOf enc) := by
  rw [readAll_eq_some, writeSps_eq, unescape_addEmulationPrevention, toBits_rbsp]
  simp only [spsBits, List.flatten_cons, List.flatten_nil, List.append_assoc, List.nil_append]
  rw [seqParameterSet]
  simp only [↓run_u_bind, ↓run_ue_bind, ↓run_stop_bind, ↓run_profileTierLevel_bind,
    ↓run_conformanceWindow_bind, ↓refPicSets_zero_bind, ↓present_bind_neg, ↓absent_bind,
    Nat.reducePow, Nat.reduceMod, Nat.reduceEqDiff, not_false_eq_true]
  rfl

end DisplayBridge
