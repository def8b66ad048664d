import DisplayBridge.Mac.Transcode

/-!
# Zeros between the units

A stream may be padded: Annex B of H.265 allows any number of zeros before a start code
and behind the last unit. They belong to no unit, and as no unit ends in a zero, a
parser can tell.

`parseAnnexB` cuts a unit off where the next start code begins, or where the frame
ends, and does not look back for zeros. So the padding stays with the unit before it,
with two exceptions: the bytes before the first start code belong to no unit, and
before a start code of three bytes the last zero makes it one of four. These are all
the streams whose padding does not change what is parsed
(`DisplayBridge.parseAnnexB_paddedStream_iff`).
-/

namespace DisplayBridge

open Swift AnnexB

variable {us : List Padded} {trailing : ℕ}

theorem NALU.ofBytes_injective : Function.Injective NALU.ofBytes :=
  fun _ _ h => congrArg NALU.data h

theorem lt_length_paddedStream (hne : us ≠ []) (h : ∀ u ∈ us, IsUnit u.unit) :
    4 < (paddedStream us trailing).length := by
  have hunits : ∀ unit ∈ us.map Padded.plain, IsUnit unit.2 := by
    intro unit hunit
    obtain ⟨u, hu, rfl⟩ := List.mem_map.1 hunit
    exact h u hu
  exact (lt_length_byteStream (mt List.map_eq_nil_iff.1 hne) hunits).trans_le
    (length_byteStream_le us trailing)

/-- No unit with its padding is empty. -/
theorem ne_nil_of_mem_paddedUnits (h : ∀ u ∈ us, IsUnit u.unit) :
    ∀ bs ∈ paddedUnits us trailing, bs ≠ [] := by
  induction us with
  | nil => exact fun bs hbs => absurd hbs List.not_mem_nil
  | cons u us ih =>
    have hheader := (h u List.mem_cons_self).header
    refine List.forall_mem_cons.2 ⟨?_, ih fun v hv => h v (List.mem_cons_of_mem _ hv)⟩
    refine List.append_ne_nil_of_left_ne_nil (List.ne_nil_of_length_pos ?_) _
    omega

/-- **The NAL units of a padded stream** are its units with the zeros that no start code
takes. -/
theorem nalusOf_paddedStream (h : ∀ u ∈ us, IsUnit u.unit) :
    nalusOf (paddedStream us trailing) = (paddedUnits us trailing).map NALU.ofBytes := by
  cases us with
  | nil =>
    rw [nalusOf, paddedStream, chunks_replicate_zero]
    split <;> rfl
  | cons u us =>
    have hkept : (paddedUnits (u :: us) trailing).filter (· ≠ []) =
        paddedUnits (u :: us) trailing :=
      List.filter_eq_self.2 fun bs hbs =>
        decide_eq_true (ne_nil_of_mem_paddedUnits h bs hbs)
    rw [nalusOf, if_pos (lt_length_paddedStream (List.cons_ne_nil u us) h),
      chunks_paddedStream fun v hv => (h v hv).clean, hkept]

theorem nalusOf_plain (h : ∀ u ∈ us, IsUnit u.unit) :
    nalusOf (byteStream (us.map Padded.plain)) = (us.map Padded.unit).map NALU.ofBytes := by
  cases us with
  | nil => rfl
  | cons u us =>
    have hunits : ∀ unit ∈ (u :: us).map Padded.plain, IsUnit unit.2 := by
      intro unit hunit
      obtain ⟨v, hv, rfl⟩ := List.mem_map.1 hunit
      exact h v hv
    have hne : (u :: us).map Padded.plain ≠ [] := List.cons_ne_nil _ _
    rw [nalusOf_byteStream hne hunits, List.map_map, List.map_map]
    rfl

/-- **When padding is harmless.** Without the padding, a stream is parsed into its units.
With it the result is the same exactly if the stream has no unit, or has no zeros at
its end and before each start code but the first none that the start code does not
take: none before one of four bytes, and one at most before one of three. -/
theorem parseAnnexB_paddedStream_iff (h : ∀ u ∈ us, IsUnit u.unit) {padded plain : Data}
    (hpadded : padded.bytes = paddedStream us trailing)
    (hplain : plain.bytes = byteStream (us.map Padded.plain)) (hcount : padded.count < 2 ^ 63) :
    parseAnnexB plain = some (unitNALUs (us.map Padded.plain)) ∧
      (parseAnnexB padded = parseAnnexB plain ↔
        us = [] ∨ (∀ u ∈ us.tail, u.zeros ≤ slack u.long) ∧ trailing = 0) := by
  have hcount' : plain.count < 2 ^ 63 := by
    have hle := length_byteStream_le us trailing
    rw [← hplain, ← hpadded] at hle
    exact hle.trans_lt hcount
  have hunits : unitNALUs (us.map Padded.plain) = (us.map Padded.unit).map NALU.ofBytes := by
    rw [unitNALUs, List.map_map, List.map_map]
    rfl
  have hparse : parseAnnexB plain = some ((us.map Padded.unit).map NALU.ofBytes) := by
    rw [parseAnnexB_eq hcount', hplain, nalusOf_plain h]
  refine ⟨hparse.trans (congrArg some hunits.symm), ?_⟩
  rw [hparse, parseAnnexB_eq hcount, hpadded, nalusOf_paddedStream h, Option.some_inj,
    (List.map_injective_iff.2 NALU.ofBytes_injective).eq_iff, paddedUnits_eq_iff]

/-- A video and a sequence parameter set, the second behind one zero more than its start
code has. -/
def paddedSets : List Padded :=
  [⟨2, true, [0x40, 0x01, 0x0C]⟩, ⟨1, true, [0x42, 0x01, 0x01]⟩]

/-- The zeros before the first start code and the one before a short start code are
harmless. -/
theorem parseAnnexB_paddedStream_harmless :
    parseAnnexB ⟨0, paddedStream [⟨2, true, [0x40, 0x01]⟩, ⟨1, false, [0x42, 0x01]⟩] 0⟩ =
      parseAnnexB ⟨0, byteStream [(true, [0x40, 0x01]), (false, [0x42, 0x01])]⟩ :=
  (parseAnnexB_paddedStream_iff (by decide) rfl rfl (by decide)).2.2 (by decide)

/-- **Padding can change a parameter set**: the zero before the second start code is
appended to the first unit. -/
theorem parseAnnexB_paddedSets :
    ¬ ∀ (us : List Padded) (trailing : ℕ) (padded plain : Data), (∀ u ∈ us, IsUnit u.unit) →
        padded.bytes = paddedStream us trailing →
        plain.bytes = byteStream (us.map Padded.plain) → padded.count < 2 ^ 63 →
        parseAnnexB padded = parseAnnexB plain := by
  intro h
  have hsame := h paddedSets 0 ⟨0, paddedStream paddedSets 0⟩
    ⟨0, byteStream (paddedSets.map Padded.plain)⟩ (by decide) rfl rfl (by decide)
  revert hsame
  decide

end DisplayBridge
