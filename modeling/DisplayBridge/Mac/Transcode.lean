import DisplayBridge.Lib.ByteStream
import DisplayBridge.Mac.HEVCDecoder

/-!
# From start codes to lengths

A frame arrives as a byte stream, and VideoToolbox wants lengths: `decode` cuts the
stream into its NAL units (`DisplayBridge.parseAnnexB`), drops the parameter sets,
and puts the length of each slice before it (`DisplayBridge.avccLoop`). Between the
two formats nothing may be lost or moved.

Nothing is (`DisplayBridge.transcode_byteStream`). The two halves are the two round
trips of the library: the parser gives back the units a stream was made of, because
it finds the chunks of the stream and these are the units
(`DisplayBridge.nalusOf_byteStream`), and what is submitted are the slices joined by
their lengths (`DisplayBridge.avccLoop_eq_some_iff`).
-/

namespace DisplayBridge

open Swift AnnexB

variable {nalus : List NALU} {units : List (Bool × List UInt8)}

/-! ### Into units -/

/-- A unit of a frame: clean, and with the two bytes of its header. -/
structure IsUnit (bs : List UInt8) : Prop where
  header : 2 ≤ bs.length
  clean : Clean bs

instance (bs : List UInt8) : Decidable (IsUnit bs) :=
  decidable_of_iff (2 ≤ bs.length ∧ Clean bs) ⟨fun h => ⟨h.1, h.2⟩, fun h => ⟨h.header, h.clean⟩⟩

theorem lt_length_byteStream (hne : units ≠ []) (h : ∀ unit ∈ units, IsUnit unit.2) :
    4 < (byteStream units).length := by
  obtain ⟨unit, rest, rfl⟩ := List.exists_cons_of_ne_nil hne
  have hcode := length_code unit.1
  have hheader := (h unit List.mem_cons_self).header
  rw [byteStream, List.flatMap_cons, List.length_append, List.length_append]
  omega

/-- **The NAL units of a stream are the units it was made of.** -/
theorem nalusOf_byteStream (hne : units ≠ []) (h : ∀ unit ∈ units, IsUnit unit.2) :
    nalusOf (byteStream units) = units.map fun unit => NALU.ofBytes unit.2 := by
  have hkept : (units.map Prod.snd).filter (· ≠ []) = units.map Prod.snd := by
    refine List.filter_eq_self.2 fun bs hbs => ?_
    obtain ⟨unit, hunit, rfl⟩ := List.mem_map.1 hbs
    have hheader := (h unit hunit).header
    exact decide_eq_true (List.ne_nil_of_length_pos (by omega))
  rw [nalusOf, if_pos (lt_length_byteStream hne h),
    chunks_byteStream fun unit hunit => (h unit hunit).clean, hkept, List.map_map]
  rfl

/-- The NAL units that some units are. -/
def unitNALUs (units : List (Bool × List UInt8)) : List NALU :=
  units.map fun unit => NALU.ofBytes unit.2

/-- **The parser cuts a stream into its units.** -/
theorem parseAnnexB_byteStream (hne : units ≠ []) (h : ∀ unit ∈ units, IsUnit unit.2)
    {data : Data} (hbytes : data.bytes = byteStream units) (hcount : data.count < 2 ^ 63) :
    parseAnnexB data = some (unitNALUs units) := by
  rw [parseAnnexB_eq hcount, hbytes, nalusOf_byteStream hne h, unitNALUs]

/-! ### Into lengths -/

theorem NALU.avcc_eq {nalu : NALU} (h : nalu.data.length < 2 ^ 32) :
    nalu.avcc = LengthPrefix.frame 4 nalu.data := by
  have hlength : FixedWidthInteger.bitPattern (UInt32.ofNat nalu.data.length) =
      nalu.data.length := UInt32.toNat_ofNat_of_lt' h
  rw [NALU.avcc, LengthPrefix.frame, leBytes, hlength]
  rfl

theorem length_lt_of_avccLoop {acc avccData : List UInt8}
    (h : avccLoop nalus acc = some avccData) : ∀ nalu ∈ nalus, nalu.data.length < 2 ^ 32 := by
  induction nalus generalizing acc with
  | nil => exact fun nalu hnalu => absurd hnalu List.not_mem_nil
  | cons nalu nalus ih =>
    obtain ⟨length, hlength, hrest⟩ := Option.bind_eq_some_iff.1 h
    obtain ⟨x, hx, -⟩ := Option.map_eq_some_iff.1 hlength
    have hfits : (nalu.data.length : ℤ) ≤ 2 ^ 32 - 1 := (mem_of_exactly hx).2
    refine List.forall_mem_cons.2 ⟨?_, ih hrest⟩
    omega

/-- **The loop joins the slices by their lengths**, and does not trap exactly if they
are shorter than 4 GiB. -/
theorem avccLoop_eq_some_iff {avccData : List UInt8} :
    avccLoop nalus [] = some avccData ↔
      (∀ nalu ∈ nalus, nalu.data.length < 2 ^ 32) ∧
        avccData = LengthPrefix.join 4 (nalus.map NALU.data) := by
  have hloop : (∀ nalu ∈ nalus, nalu.data.length < 2 ^ 32) →
      avccLoop nalus [] = some (LengthPrefix.join 4 (nalus.map NALU.data)) := by
    intro hshort
    have hframes : nalus.flatMap NALU.avcc =
        nalus.flatMap fun nalu => LengthPrefix.frame 4 nalu.data :=
      List.flatMap_congr fun nalu hnalu => NALU.avcc_eq (hshort nalu hnalu)
    rw [avccLoop_eq hshort, List.nil_append, hframes, LengthPrefix.join, List.flatMap_map]
  constructor
  · intro h
    have hshort := length_lt_of_avccLoop h
    exact ⟨hshort, Option.some.inj (h.symm.trans (hloop hshort))⟩
  · rintro ⟨hshort, rfl⟩
    exact hloop hshort

/-- The lengths give the slices back. -/
theorem split_avccData {avccData : List UInt8} (h : avccLoop nalus [] = some avccData) :
    LengthPrefix.split 4 avccData = some (nalus.map NALU.data) := by
  obtain ⟨hshort, rfl⟩ := avccLoop_eq_some_iff.1 h
  refine LengthPrefix.split_join (Nat.zero_lt_succ 3) fun bs hbs => ?_
  obtain ⟨nalu, hnalu, rfl⟩ := List.mem_map.1 hbs
  exact hshort nalu hnalu

/-! ### Both -/

/-- **Transcoding loses nothing.** A stream of units is parsed into them, each with the
type in its header. What the loop of `decode` makes of the slices among them, and so
whatever a call of `decode` submits, reads back as these slices; and the loop gets to
its end unless a slice is too long for its length. -/
theorem transcode_byteStream (hne : units ≠ []) (h : ∀ unit ∈ units, IsUnit unit.2) {data : Data}
    (hbytes : data.bytes = byteStream units) (hcount : data.count < 2 ^ 63) :
    parseAnnexB data = some (unitNALUs units) ∧
      ((∀ unit ∈ units, unit.2.length < 2 ^ 32) →
        ∃ avccData, avccLoop (sliceNALUs (unitNALUs units)) [] = some avccData) ∧
      (∀ avccData, avccLoop (sliceNALUs (unitNALUs units)) [] = some avccData →
        LengthPrefix.split 4 avccData =
          some (((unitNALUs units).filter (·.type ≤ 31)).map NALU.data)) ∧
      ∀ d header vt d' s, decode d data header vt = some (d', some s) →
        LengthPrefix.split 4 s.avccData =
          some (((unitNALUs units).filter (·.type ≤ 31)).map NALU.data) := by
  have hparse := parseAnnexB_byteStream hne h hbytes hcount
  refine ⟨hparse, fun hshort => ?_, fun avccData => split_avccData, ?_⟩
  · refine ⟨_, avccLoop_eq_some_iff.2 ⟨fun nalu hnalu => ?_, rfl⟩⟩
    obtain ⟨unit, hunit, rfl⟩ := List.mem_map.1 (List.mem_of_mem_filter hnalu)
    exact hshort unit hunit
  · intro d header vt d' s hdecode
    obtain ⟨nalus, hparse', -, hsub⟩ := decode_eq_some hdecode
    obtain rfl := Option.some.inj (hparse.symm.trans hparse')
    obtain ⟨-, -, -, -, hloop⟩ := hsub s rfl
    exact split_avccData hloop

/-- A keyframe of the stream: three parameter sets and two slices, with both start
codes. -/
def keyframeUnits : List (Bool × List UInt8) :=
  [(true, [0x40, 0x01, 0x0C]), (false, [0x42, 0x01, 0x01]), (true, [0x44, 0x01, 0xC1]),
    (false, [0x26, 0x01, 0xAF, 0x00, 0x00, 0x03, 0x01]), (true, [0x26, 0x01, 0x80])]

theorem transcode_keyframeUnits :
    parseAnnexB ⟨7, byteStream keyframeUnits⟩ = some (unitNALUs keyframeUnits) ∧
      (unitNALUs keyframeUnits).map NALU.type = [32, 33, 34, 19, 19] ∧
      ∃ avccData, avccLoop (sliceNALUs (unitNALUs keyframeUnits)) [] = some avccData ∧
        LengthPrefix.split 4 avccData =
          some [[0x26, 0x01, 0xAF, 0x00, 0x00, 0x03, 0x01], [0x26, 0x01, 0x80]] := by
  have hbytes : (⟨7, byteStream keyframeUnits⟩ : Data).bytes = byteStream keyframeUnits := rfl
  obtain ⟨hparse, hloop, hsplit, -⟩ :=
    transcode_byteStream (by decide) (by decide) hbytes (by decide)
  obtain ⟨avccData, hloop⟩ := hloop (by decide)
  exact ⟨hparse, by decide, avccData, hloop, hsplit avccData hloop⟩

end DisplayBridge
