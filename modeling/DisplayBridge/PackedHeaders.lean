import DisplayBridge.Mac.Transcode
import DisplayBridge.Ubuntu.ParameterSets

/-!
# The parameter sets on their way

Before each keyframe `submit_packed_sequence_headers` builds the three parameter sets
as the beginning of a byte stream: a start code, the two bytes of the header of a NAL
unit, and what the header function has written. The Mac finds them with
`parseAnnexB`, which knows nothing of parameter sets and looks for start codes only.

So nothing a header function writes may look like a start code, whatever the size of
the picture and the frame rate are. This is what the escaping is for: escaped bytes
have no two zeros before a zero or a one (`DisplayBridge.not_infix_escapeFrom`), and
they do not end in a zero because of the stop bit (`DisplayBridge.getLast?_rbsp`). The
parser then cuts the stream where it was put together
(`DisplayBridge.parseAnnexB_packedSequenceHeaders`).
-/

namespace DisplayBridge

open AnnexB H265 Swift

/-! ### The stream -/

/-- `write_start_code_and_nalu_header`. -/
def writeStartCodeAndNaluHeader (nalType temporalIdPlus1 : ℕ) : List UInt8 :=
  [0x00, 0x00, 0x00, 0x01, UInt8.ofNat ((nalType &&& 0x3F) <<< 1),
    UInt8.ofNat (temporalIdPlus1 &&& 0x07)]

/-- `combined` at the end of `submit_packed_sequence_headers`. -/
def packedSequenceHeaders (enc : DbEncoder) : List UInt8 :=
  writeStartCodeAndNaluHeader 32 1 ++ writeVps enc ++
    (writeStartCodeAndNaluHeader 33 1 ++ writeSps enc) ++
    (writeStartCodeAndNaluHeader 34 1 ++ writePps)

/-- An escaped header is clean. -/
theorem clean_addEmulationPrevention (l : List Bool) : Clean (addEmulationPrevention (rbsp l)) where
  noZeros := not_infix_escapeFrom (by decide) 0 (Nat.zero_le 2) (rbsp l)
  noCode := not_infix_escapeFrom (by decide) 0 (Nat.zero_le 2) (rbsp l)
  last := by
    rw [addEmulationPrevention, getLast?_escapeFrom]
    exact getLast?_rbsp l

/-- **The headers fit their buffers**: each the one it is written to, and all together
the one they are copied to. -/
theorem length_packedSequenceHeaders_le (enc : DbEncoder) :
    (writeVps enc).length ≤ 512 ∧ (writeSps enc).length ≤ 512 ∧ writePps.length ≤ 512 ∧
      (packedSequenceHeaders enc).length ≤ 2048 := by
  have hescaped : ∀ l : List Bool, (addEmulationPrevention (rbsp l)).length ≤
      2 * (l.length / 8 + 1) := by
    intro l
    rw [← length_rbsp]
    exact length_escapeFrom_le 0 (rbsp l)
  have hvps := hescaped (vpsBits (enc.fps % 2 ^ 32).toNat)
  have hsps := hescaped (spsBits enc)
  have hpps := hescaped ppsBits
  have hbits := length_spsBits_le enc
  rw [length_vpsBits, ← writeVps_eq] at hvps
  rw [← writeSps_eq] at hsps
  rw [length_ppsBits, ← writePps_eq] at hpps
  have hstart : ∀ nalType, (writeStartCodeAndNaluHeader nalType 1).length = 6 := fun _ => rfl
  refine ⟨by omega, by omega, by omega, ?_⟩
  simp only [packedSequenceHeaders, List.length_append, hstart]
  omega

/-! ### What the parser makes of it -/

/-- A NAL unit of the given type carries what a header function has returned: without
its header and the emulation prevention bytes, it is what was escaped. -/
def Carries (nalu : NALU) (type : UInt8) (returned : List UInt8) : Prop :=
  nalu.type = type ∧ ∃ raw, returned = addEmulationPrevention raw ∧
    unescape (nalu.data.drop 2) = raw

/-- What a header function returns is a unit behind the two bytes of a header, and the
unit carries it. -/
theorem header_ofBits {returned : List UInt8} {l : List Bool}
    (h : returned = addEmulationPrevention (rbsp l)) (b₀ b₁ : UInt8) (h₀ : b₀ ≠ 0) (h₁ : b₁ ≠ 0) :
    IsUnit (b₀ :: b₁ :: returned) ∧
      Carries (NALU.ofBytes (b₀ :: b₁ :: returned)) ((b₀ >>> 1) &&& 0x3F) returned := by
  subst h
  have hclean := clean_addEmulationPrevention l
  exact ⟨⟨Nat.le_add_left 2 _, (hclean.cons h₁).cons h₀⟩,
    rfl, rbsp l, rfl, unescape_addEmulationPrevention (rbsp l)⟩

/-- **The parser finds the headers**: of every encoder, and whatever slice stands behind
them, it makes the three parameter sets and the slice. -/
theorem parseAnnexB_packedSequenceHeaders (enc : DbEncoder) {slice : List UInt8}
    (hslice : IsUnit slice) {data : Data}
    (hbytes : data.bytes = packedSequenceHeaders enc ++ [0, 0, 0, 1] ++ slice)
    (hcount : data.count < 2 ^ 63) :
    ∃ vps sps pps,
      parseAnnexB data = some [vps, sps, pps, ⟨(slice.getD 0 0 >>> 1) &&& 0x3F, slice⟩] ∧
        Carries vps 32 (writeVps enc) ∧ Carries sps 33 (writeSps enc) ∧
        Carries pps 34 writePps := by
  obtain ⟨hvps, hvps'⟩ := header_ofBits (writeVps_eq enc) 0x40 0x01 (by decide) (by decide)
  obtain ⟨hsps, hsps'⟩ := header_ofBits (writeSps_eq enc) 0x42 0x01 (by decide) (by decide)
  obtain ⟨hpps, hpps'⟩ := header_ofBits writePps_eq 0x44 0x01 (by decide) (by decide)
  rw [packedSequenceHeaders] at hbytes
  -- from here on it does not matter what the headers are
  generalize writeVps enc = vps at *
  generalize writeSps enc = sps at *
  generalize writePps = pps at *
  have hstream : data.bytes = byteStream [(true, 0x40 :: 0x01 :: vps),
      (true, 0x42 :: 0x01 :: sps), (true, 0x44 :: 0x01 :: pps), (true, slice)] := by
    rw [hbytes]
    simp only [byteStream, List.flatMap_cons, List.flatMap_nil, List.append_nil,
      List.append_assoc]
    rfl
  have hunits : ∀ unit ∈ [(true, 0x40 :: 0x01 :: vps), (true, 0x42 :: 0x01 :: sps),
      (true, 0x44 :: 0x01 :: pps), (true, slice)], IsUnit unit.2 := by
    simp only [List.forall_mem_cons]
    exact ⟨hvps, hsps, hpps, hslice, fun unit hunit => absurd hunit List.not_mem_nil⟩
  exact ⟨_, _, _, parseAnnexB_byteStream (List.cons_ne_nil _ _) hunits hstream hcount,
    hvps', hsps', hpps'⟩

theorem parseAnnexB_firstHeaders :
    ∃ vps sps pps,
      parseAnnexB ⟨16, packedSequenceHeaders firstEncoder ++ [0, 0, 0, 1] ++ [0x26, 0x01, 0x80]⟩ =
          some [vps, sps, pps, ⟨19, [0x26, 0x01, 0x80]⟩] ∧
        Carries vps 32 (writeVps firstEncoder) ∧ Carries sps 33 (writeSps firstEncoder) ∧
        Carries pps 34 writePps := by
  have hfits := (length_packedSequenceHeaders_le firstEncoder).2.2.2
  have hslice : IsUnit [0x26, 0x01, 0x80] := by decide
  refine parseAnnexB_packedSequenceHeaders firstEncoder hslice rfl ?_
  simp only [Data.count, List.length_append, List.length_cons, List.length_nil]
  omega

end DisplayBridge
