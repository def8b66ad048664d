import DisplayBridge.Mac.AnnexB
import DisplayBridge.Protocol

/-!
# The decoder

`HEVCDecoder` of `HEVCDecoder.swift`, up to the call that hands a frame to
VideoToolbox. What CoreMedia and VideoToolbox answer is an argument
(`DisplayBridge.VideoToolbox`), and what they are given is a result
(`DisplayBridge.Submission`); the frames that come back, on another thread, are
left out. A format description is given by the parameter sets it was created from,
and a session by the format description it was created for.

`DisplayBridge.decode` has two halves, as the function has. The first takes the
parameter sets of a keyframe: if they are not the cached ones it creates a format
description from them, caches them, and creates a session. The second submits the
slices, if the decoder has a session and does not wait for an IDR frame.

What the first half does to the decoder is `DisplayBridge.HEVCDecoder.adopt`, and
all that the invariants of this file's users need to know of a call is
`DisplayBridge.decode_eq_some`. A call traps in one way only
(`DisplayBridge.decode_eq_none_iff`): the time stamp of a frame that is about to be
submitted does not fit the signed type it is converted to.
-/

namespace DisplayBridge

open Swift

/-! ### The state -/

/-- The three parameter sets of a keyframe. -/
structure ParameterSets where
  vps : List UInt8
  sps : List UInt8
  pps : List UInt8
deriving DecidableEq, Repr

/-- `VTDecompressionSession`. -/
structure DecompressionSession where
  format : ParameterSets
deriving DecidableEq, Repr

/-- `HEVCDecoder`. -/
structure HEVCDecoder where
  session : Option DecompressionSession
  formatDescription : Option ParameterSets
  lastVPS : Option (List UInt8)
  lastSPS : Option (List UInt8)
  lastPPS : Option (List UInt8)
  waitingForIDR : Bool
deriving DecidableEq, Repr

/-- A decoder right after its creation. -/
def HEVCDecoder.init : HEVCDecoder := ⟨none, none, none, none, none, true⟩

/-- What CoreMedia and VideoToolbox answer during one call of `decode`. -/
structure VideoToolbox where
  formatCreated : Bool
  sessionCreated : Bool
  blockCreated : Bool
  blockFilled : Bool
  sampleCreated : Bool
deriving DecidableEq, Repr

/-- Every call succeeds. -/
def VideoToolbox.works : VideoToolbox := ⟨true, true, true, true, true⟩

/-- What `VTDecompressionSessionDecodeFrame` is given. -/
structure Submission where
  session : DecompressionSession
  fmtDesc : ParameterSets
  avccData : List UInt8
  pts : ℤ
deriving DecidableEq, Repr

/-! ### Parameter sets -/

/-- `updateFormatDescription`, and whether it has worked. -/
def updateFormatDescription (d : HEVCDecoder) (vps sps pps : List UInt8) (vt : VideoToolbox) :
    Traps (HEVCDecoder × Bool) := do
  baseAddress vps
  baseAddress sps
  baseAddress pps
  if vt.formatCreated then return ({ d with formatDescription := some ⟨vps, sps, pps⟩ }, true)
  else return (d, false)

/-- `createDecompressionSession`. -/
def createDecompressionSession (d : HEVCDecoder) (vt : VideoToolbox) : HEVCDecoder :=
  -- the old session is torn down first, so it is gone if the new one fails
  let d := { d with session := none }
  match d.formatDescription with
  | none => d
  | some fmtDesc => if vt.sessionCreated then { d with session := some ⟨fmtDesc⟩ } else d

/-- The first NAL unit of a type. -/
def parameterSet (nalus : List NALU) (type : UInt8) : Option (List UInt8) :=
  (nalus.find? (·.type == type)).map (·.data)

/-- The first half of `decode`, on a keyframe; the result is nothing if the frame
lacks a parameter set, and the call is over. -/
def takeParameterSets (d : HEVCDecoder) (nalus : List NALU) (vt : VideoToolbox) :
    Traps (Option HEVCDecoder) :=
  match parameterSet nalus 32, parameterSet nalus 33, parameterSet nalus 34 with
  | some vps, some sps, some pps => do
    let d ←
      if d.lastVPS ≠ some vps ∨ d.lastSPS ≠ some sps ∨ d.lastPPS ≠ some pps then do
        let (d, updated) ← updateFormatDescription d vps sps pps vt
        if updated then
          -- cached before the session is created, and whether or not it is
          pure (createDecompressionSession
            { d with lastVPS := some vps, lastSPS := some sps, lastPPS := some pps } vt)
        else pure d
      else pure d
    -- the gate opens even if nothing could be created
    return some { d with waitingForIDR := false }
  | _, _, _ => return none

/-! ### Slices -/

/-- The slices of a frame. -/
def sliceNALUs (nalus : List NALU) : List NALU := nalus.filter (·.type ≤ 31)

/-- The loop that puts a length before every slice. -/
def avccLoop : List NALU → List UInt8 → Traps (List UInt8)
  | [], avccData => some avccData
  | nalu :: nalus, avccData => do
    let length ← uint32OfInt nalu.data.length
    -- most significant byte first
    avccLoop nalus (avccData ++ (leBytes length).reverse ++ nalu.data)

/-- `createBlockBuffer`. -/
def createBlockBuffer (data : List UInt8) (vt : VideoToolbox) : Traps Bool := do
  if vt.blockCreated then
    baseAddress data
    return vt.blockFilled
  else return false

/-- The second half of `decode`. -/
def submitSlices (d : HEVCDecoder) (nalus : List NALU) (header : DBVideoHeader)
    (vt : VideoToolbox) : Traps (Option Submission) :=
  if d.waitingForIDR then return none
  else
    match d.session, d.formatDescription with
    | some session, some fmtDesc =>
      if sliceNALUs nalus = [] then return none
      else do
        let avccData ← avccLoop (sliceNALUs nalus) []
        if ← createBlockBuffer avccData vt then
          let _timescale ← exactly (-2 ^ 31) (2 ^ 31 - 1) dbTargetFps
          -- the time stamp comes from the network as it is
          let pts ← int64OfUInt64 header.pts
          if vt.sampleCreated then return some ⟨session, fmtDesc, avccData, pts⟩
          else return none
        else return none
    | _, _ => return none

/-- `decode`: the decoder after the call, and what was submitted. -/
def decode (d : HEVCDecoder) (frameData : Data) (header : DBVideoHeader) (vt : VideoToolbox) :
    Traps (HEVCDecoder × Option Submission) := do
  let nalus ← parseAnnexB frameData
  if nalus = [] then return (d, none)
  else if header.keyframe = 1 then
    match ← takeParameterSets d nalus vt with
    | none => return (d, none)
    | some d => return (d, ← submitSlices d nalus header vt)
  else return (d, ← submitSlices d nalus header vt)

/-- `invalidate`. -/
def invalidate (d : HEVCDecoder) : HEVCDecoder :=
  -- the parameter sets stay cached
  { d with session := none, formatDescription := none, waitingForIDR := true }

/-! ### What a keyframe does to the decoder -/

/-- The parameter sets of a frame, if it carries all three. -/
def parameterSets (nalus : List NALU) : Option ParameterSets :=
  match parameterSet nalus 32, parameterSet nalus 33, parameterSet nalus 34 with
  | some vps, some sps, some pps => some ⟨vps, sps, pps⟩
  | _, _, _ => none

/-- The parameter sets of a keyframe, if it carries all three. -/
def keyframeSets (nalus : List NALU) (header : DBVideoHeader) : Option ParameterSets :=
  if header.keyframe = 1 then parameterSets nalus else none

/-- The decoder has cached these parameter sets. -/
structure HEVCDecoder.Caches (d : HEVCDecoder) (sets : ParameterSets) : Prop where
  vps : d.lastVPS = some sets.vps
  sps : d.lastSPS = some sets.sps
  pps : d.lastPPS = some sets.pps

instance (d : HEVCDecoder) (sets : ParameterSets) : Decidable (d.Caches sets) :=
  decidable_of_iff (d.lastVPS = some sets.vps ∧ d.lastSPS = some sets.sps ∧
    d.lastPPS = some sets.pps) ⟨fun h => ⟨h.1, h.2.1, h.2.2⟩, fun h => ⟨h.vps, h.sps, h.pps⟩⟩

/-- The decoder after it has taken some parameter sets. -/
def HEVCDecoder.adopt (d : HEVCDecoder) (sets : ParameterSets) (vt : VideoToolbox) :
    HEVCDecoder :=
  if d.Caches sets then { d with waitingForIDR := false }
  else if vt.formatCreated then
    { session := if vt.sessionCreated then some ⟨sets⟩ else none
      formatDescription := some sets
      lastVPS := some sets.vps
      lastSPS := some sets.sps
      lastPPS := some sets.pps
      waitingForIDR := false }
  else { d with waitingForIDR := false }

/-- The decoder after a frame. -/
def HEVCDecoder.after (d : HEVCDecoder) (nalus : List NALU) (header : DBVideoHeader)
    (vt : VideoToolbox) : HEVCDecoder :=
  match keyframeSets nalus header with
  | some sets => d.adopt sets vt
  | none => d

variable {d : HEVCDecoder} {nalus : List NALU} {vt : VideoToolbox} {header : DBVideoHeader}

/-- A decoder has cached one set of each kind. -/
theorem HEVCDecoder.Caches.unique {sets sets' : ParameterSets} (h : d.Caches sets)
    (h' : d.Caches sets') : sets = sets' := by
  obtain ⟨vps, sps, pps⟩ := sets
  obtain ⟨vps', sps', pps'⟩ := sets'
  obtain rfl : vps = vps' := Option.some.inj (h.vps.symm.trans h'.vps)
  obtain rfl : sps = sps' := Option.some.inj (h.sps.symm.trans h'.sps)
  obtain rfl : pps = pps' := Option.some.inj (h.pps.symm.trans h'.pps)
  rfl

theorem parameterSets_eq_some {sets : ParameterSets} (h : parameterSets nalus = some sets) :
    parameterSet nalus 32 = some sets.vps ∧ parameterSet nalus 33 = some sets.sps ∧
      parameterSet nalus 34 = some sets.pps := by
  rw [parameterSets] at h
  split at h
  · next vps sps pps hvps hsps hpps =>
    obtain rfl : (⟨vps, sps, pps⟩ : ParameterSets) = sets := Option.some.inj h
    exact ⟨hvps, hsps, hpps⟩
  · cases h

theorem takeParameterSets_none (h : parameterSets nalus = none) (d : HEVCDecoder)
    (vt : VideoToolbox) : takeParameterSets d nalus vt = some none := by
  rw [parameterSets] at h
  rw [takeParameterSets]
  split at h
  · cases h
  · rfl

/-- The sets have bytes, all three. -/
def ParameterSets.Nonempty (sets : ParameterSets) : Prop :=
  sets.vps ≠ [] ∧ sets.sps ≠ [] ∧ sets.pps ≠ []

instance (sets : ParameterSets) : Decidable sets.Nonempty :=
  inferInstanceAs (Decidable (sets.vps ≠ [] ∧ sets.sps ≠ [] ∧ sets.pps ≠ []))

theorem updateFormatDescription_eq (d : HEVCDecoder) (sets : ParameterSets) (vt : VideoToolbox) :
    updateFormatDescription d sets.vps sets.sps sets.pps vt =
      if sets.Nonempty then
        some (if vt.formatCreated then ({ d with formatDescription := some sets }, true)
          else (d, false))
      else none := by
  rw [updateFormatDescription]
  by_cases hvps : sets.vps = []
  · have hempty : ¬ sets.Nonempty := fun h => h.1 hvps
    rw [if_neg hempty, hvps]
    rfl
  · by_cases hsps : sets.sps = []
    · have hempty : ¬ sets.Nonempty := fun h => h.2.1 hsps
      rw [if_neg hempty, baseAddress_of_ne_nil hvps, hsps]
      rfl
    · by_cases hpps : sets.pps = []
      · have hempty : ¬ sets.Nonempty := fun h => h.2.2 hpps
        rw [if_neg hempty, baseAddress_of_ne_nil hvps, baseAddress_of_ne_nil hsps, hpps]
        rfl
      · have hne : sets.Nonempty := ⟨hvps, hsps, hpps⟩
        rw [if_pos hne, baseAddress_of_ne_nil hvps, baseAddress_of_ne_nil hsps,
          baseAddress_of_ne_nil hpps]
        cases vt.formatCreated <;> rfl

/-- **The first half of a call** takes the parameter sets. It needs their bytes only
if they are new. -/
theorem takeParameterSets_some {sets : ParameterSets} (h : parameterSets nalus = some sets)
    (d : HEVCDecoder) (vt : VideoToolbox) :
    takeParameterSets d nalus vt =
      if d.Caches sets ∨ sets.Nonempty then some (some (d.adopt sets vt)) else none := by
  obtain ⟨hvps, hsps, hpps⟩ := parameterSets_eq_some h
  simp only [takeParameterSets, hvps, hsps, hpps]
  by_cases hcaches : d.Caches sets
  · have hsame : ¬ (d.lastVPS ≠ some sets.vps ∨ d.lastSPS ≠ some sets.sps ∨
        d.lastPPS ≠ some sets.pps) := by
      rintro (hne | hne | hne)
      · exact hne hcaches.vps
      · exact hne hcaches.sps
      · exact hne hcaches.pps
    rw [if_neg hsame, if_pos (.inl hcaches), HEVCDecoder.adopt, if_pos hcaches]
    rfl
  · have hnew : d.lastVPS ≠ some sets.vps ∨ d.lastSPS ≠ some sets.sps ∨
        d.lastPPS ≠ some sets.pps := by
      by_contra hno
      simp only [not_or, not_not] at hno
      exact hcaches ⟨hno.1, hno.2.1, hno.2.2⟩
    rw [if_pos hnew, updateFormatDescription_eq]
    by_cases hne : sets.Nonempty
    · have heither : d.Caches sets ∨ sets.Nonempty := .inr hne
      -- a session is only created once there is a format description
      rw [if_pos hne, if_pos heither, HEVCDecoder.adopt, if_neg hcaches]
      cases vt.formatCreated with
      | true => cases hsession : vt.sessionCreated <;> simp [createDecompressionSession, hsession]
      | false => rfl
    · have hneither : ¬ (d.Caches sets ∨ sets.Nonempty) := not_or.2 ⟨hcaches, hne⟩
      rw [if_neg hne, if_neg hneither]
      rfl

/-- The parameter sets of a frame are NAL units of it. -/
theorem exists_of_parameterSet {type : UInt8} {bs : List UInt8}
    (h : parameterSet nalus type = some bs) : ∃ nalu ∈ nalus, nalu.data = bs := by
  obtain ⟨nalu, hfind, hdata⟩ := Option.map_eq_some_iff.1 h
  exact ⟨nalu, List.mem_of_find?_eq_some hfind, hdata⟩

theorem nonempty_parameterSets (hne : ∀ nalu ∈ nalus, nalu.data ≠ []) {sets : ParameterSets}
    (h : parameterSets nalus = some sets) : sets.Nonempty := by
  obtain ⟨hvps, hsps, hpps⟩ := parameterSets_eq_some h
  obtain ⟨vps, hmem, hvps⟩ := exists_of_parameterSet hvps
  obtain ⟨sps, hmem', hsps⟩ := exists_of_parameterSet hsps
  obtain ⟨pps, hmem'', hpps⟩ := exists_of_parameterSet hpps
  exact ⟨hvps ▸ hne vps hmem, hsps ▸ hne sps hmem', hpps ▸ hne pps hmem''⟩

/-! ### What is submitted -/

/-- A NAL unit behind its length. -/
def NALU.avcc (nalu : NALU) : List UInt8 :=
  (leBytes (UInt32.ofNat nalu.data.length)).reverse ++ nalu.data

/-- The loop does not trap on slices that are shorter than 4 GiB. -/
theorem avccLoop_eq (h : ∀ nalu ∈ nalus, nalu.data.length < 2 ^ 32) (avccData : List UInt8) :
    avccLoop nalus avccData = some (avccData ++ nalus.flatMap NALU.avcc) := by
  induction nalus generalizing avccData with
  | nil => rw [List.flatMap_nil, List.append_nil, avccLoop]
  | cons nalu nalus ih =>
    have hlength := uint32OfInt_natCast (h nalu List.mem_cons_self)
    have hrest := ih fun n hn => h n (List.mem_cons_of_mem _ hn)
    simp only [avccLoop, hlength, Option.bind_eq_bind, Option.bind_some, hrest]
    rw [List.flatMap_cons, NALU.avcc, List.append_assoc, List.append_assoc, List.append_assoc]

theorem avcc_ne_nil (h : sliceNALUs nalus ≠ []) : (sliceNALUs nalus).flatMap NALU.avcc ≠ [] := by
  obtain ⟨nalu, l, hslices⟩ := List.exists_cons_of_ne_nil h
  rw [hslices, List.flatMap_cons, NALU.avcc]
  refine List.append_ne_nil_of_left_ne_nil (List.append_ne_nil_of_left_ne_nil ?_ _) _
  refine List.ne_nil_of_length_pos ?_
  rw [List.length_reverse, length_leBytes]
  exact Nat.zero_lt_succ 3

/-- The frame rate is a time scale. -/
theorem timescale_eq : exactly (-2 ^ 31) (2 ^ 31 - 1) dbTargetFps = some dbTargetFps :=
  exactly_of_mem (by decide)

/-- The second half of a call gets as far as the time stamp. -/
structure HEVCDecoder.Timed (d : HEVCDecoder) (nalus : List NALU) (vt : VideoToolbox) : Prop where
  notWaiting : d.waitingForIDR = false
  session : d.session ≠ none
  format : d.formatDescription ≠ none
  slices : sliceNALUs nalus ≠ []
  created : vt.blockCreated = true
  filled : vt.blockFilled = true

/-- **The second half of a call traps on the time stamp only.** -/
theorem submitSlices_eq_none_iff (h : ∀ nalu ∈ nalus, nalu.data.length < 2 ^ 32)
    (d : HEVCDecoder) (header : DBVideoHeader) (vt : VideoToolbox) :
    submitSlices d nalus header vt = none ↔ d.Timed nalus vt ∧ 2 ^ 63 ≤ header.pts.toNat := by
  have hshort : ∀ nalu ∈ sliceNALUs nalus, nalu.data.length < 2 ^ 32 :=
    fun nalu hnalu => h nalu (List.mem_of_mem_filter hnalu)
  rw [← int64OfUInt64_eq_none]
  constructor
  · intro hnone
    rw [submitSlices] at hnone
    split at hnone
    · cases hnone
    · next hwait =>
      split at hnone
      · next session fmtDesc hsession hformat =>
        split at hnone
        · cases hnone
        · next hslices =>
          simp only [avccLoop_eq hshort, Option.bind_eq_bind, Option.bind_some,
            List.nil_append] at hnone
          cases hcreated : vt.blockCreated with
          | false => simp [createBlockBuffer, hcreated] at hnone
          | true =>
            have hblock : createBlockBuffer ((sliceNALUs nalus).flatMap NALU.avcc) vt =
                some vt.blockFilled := by
              rw [createBlockBuffer, hcreated, baseAddress_of_ne_nil (avcc_ne_nil hslices)]
              rfl
            cases hfilled : vt.blockFilled with
            | false => simp [hblock, hfilled] at hnone
            | true =>
              refine ⟨⟨Bool.eq_false_of_not_eq_true hwait, by simp [hsession], by simp [hformat],
                hslices, hcreated, hfilled⟩, ?_⟩
              cases hpts : int64OfUInt64 header.pts with
              | none => rfl
              | some pts =>
                simp only [hblock, hfilled, timescale_eq, hpts, Option.bind_some, if_true] at hnone
                split at hnone
                · cases hnone
                · cases hnone
      · cases hnone
  · rintro ⟨⟨hwait, hsession, hformat, hslices, hcreated, hfilled⟩, hpts⟩
    obtain ⟨session, hsession⟩ := Option.ne_none_iff_exists'.1 hsession
    obtain ⟨fmtDesc, hformat⟩ := Option.ne_none_iff_exists'.1 hformat
    have hblock : createBlockBuffer ((sliceNALUs nalus).flatMap NALU.avcc) vt = some true := by
      rw [createBlockBuffer, hcreated, hfilled, baseAddress_of_ne_nil (avcc_ne_nil hslices)]
      rfl
    rw [submitSlices, hwait, hsession, hformat]
    simp only [Bool.false_eq_true, if_false, if_neg hslices, avccLoop_eq hshort, List.nil_append,
      Option.bind_eq_bind, Option.bind_some, hblock, if_true, timescale_eq, hpts,
      Option.bind_none]

/-- What is submitted are the slices, with the session and the format description the
decoder has. -/
theorem submitSlices_eq_some {s : Submission}
    (h : submitSlices d nalus header vt = some (some s)) :
    d.waitingForIDR = false ∧ d.session = some s.session ∧
      d.formatDescription = some s.fmtDesc ∧
      avccLoop (sliceNALUs nalus) [] = some s.avccData := by
  rw [submitSlices] at h
  split at h
  · cases h
  · next hwait =>
    split at h
    · next session fmtDesc hsession hformat =>
      split at h
      · cases h
      · obtain ⟨avccData, hloop, h⟩ := Option.bind_eq_some_iff.1 h
        obtain ⟨filled, -, h⟩ := Option.bind_eq_some_iff.1 h
        split at h
        · obtain ⟨timescale, -, h⟩ := Option.bind_eq_some_iff.1 h
          obtain ⟨pts, -, h⟩ := Option.bind_eq_some_iff.1 h
          split at h
          · cases h
            exact ⟨Bool.eq_false_of_not_eq_true hwait, hsession, hformat, hloop⟩
          · cases h
        · cases h
    · cases h

/-! ### One call -/

/-- **What a call does**, if it returns: the decoder has taken the parameter sets of
a keyframe, and what is submitted are the slices of the frame, with what it has then
– and it is no keyframe that lacks a set. -/
theorem decode_eq_some {frameData : Data} {d' : HEVCDecoder} {sub : Option Submission}
    (h : decode d frameData header vt = some (d', sub)) :
    ∃ nalus, parseAnnexB frameData = some nalus ∧ d' = d.after nalus header vt ∧
      ∀ s ∈ sub, (header.keyframe = 1 → keyframeSets nalus header ≠ none) ∧
        d'.waitingForIDR = false ∧ d'.session = some s.session ∧
        d'.formatDescription = some s.fmtDesc ∧
        avccLoop (sliceNALUs nalus) [] = some s.avccData := by
  obtain ⟨nalus, hparse, h⟩ := Option.bind_eq_some_iff.1 h
  refine ⟨nalus, hparse, ?_⟩
  split at h
  · next hempty =>
    cases h
    have hno : keyframeSets nalus header = none := by
      rw [keyframeSets, hempty]
      split <;> rfl
    refine ⟨by rw [HEVCDecoder.after, hno], fun s hs => absurd hs (Option.not_mem_none s)⟩
  · split at h
    · next hkey =>
      have hsets : keyframeSets nalus header = parameterSets nalus := if_pos hkey
      rw [HEVCDecoder.after, hsets]
      obtain ⟨taken, htake, h⟩ := Option.bind_eq_some_iff.1 h
      cases hp : parameterSets nalus with
      | none =>
        obtain rfl := Option.some.inj ((takeParameterSets_none hp d vt).symm.trans htake)
        cases h
        exact ⟨rfl, fun s hs => absurd hs (Option.not_mem_none s)⟩
      | some sets =>
        rw [takeParameterSets_some hp] at htake
        split at htake
        · obtain rfl := Option.some.inj htake
          obtain ⟨sub', hsubmit, h⟩ := Option.bind_eq_some_iff.1 h
          cases h
          refine ⟨rfl, ?_⟩
          rintro s rfl
          exact ⟨fun _ => Option.some_ne_none _, submitSlices_eq_some hsubmit⟩
        · cases htake
    · next hkey =>
      have hsets : keyframeSets nalus header = none := if_neg hkey
      rw [HEVCDecoder.after, hsets]
      obtain ⟨sub', hsubmit, h⟩ := Option.bind_eq_some_iff.1 h
      cases h
      refine ⟨rfl, ?_⟩
      rintro s rfl
      exact ⟨fun hk => absurd hk hkey, submitSlices_eq_some hsubmit⟩

/-- The decoder after a call, for a frame of a size that can be received. -/
theorem decode_after {frameData : Data} (hsize : frameData.count < 2 ^ 32) {d' : HEVCDecoder}
    {sub : Option Submission} (h : decode d frameData header vt = some (d', sub)) :
    d' = d.after (nalusOf frameData.bytes) header vt := by
  obtain ⟨nalus, hparse, rfl, -⟩ := decode_eq_some h
  obtain rfl : nalusOf frameData.bytes = nalus :=
    Option.some.inj ((parseAnnexB_eq (by omega)).symm.trans hparse)
  rfl

/-- **A call traps on the time stamp only**, for a frame of a size that can be
received: when it gets as far as that, and the time stamp does not fit. -/
theorem decode_eq_none_iff {frameData : Data} (hsize : frameData.count < 2 ^ 32)
    (d : HEVCDecoder) (header : DBVideoHeader) (vt : VideoToolbox) :
    decode d frameData header vt = none ↔
      (header.keyframe = 1 → keyframeSets (nalusOf frameData.bytes) header ≠ none) ∧
        (d.after (nalusOf frameData.bytes) header vt).Timed (nalusOf frameData.bytes) vt ∧
        2 ^ 63 ≤ header.pts.toNat := by
  have hparse : parseAnnexB frameData = some (nalusOf frameData.bytes) :=
    parseAnnexB_eq (by omega)
  have hshort : ∀ nalu ∈ nalusOf frameData.bytes, nalu.data.length < 2 ^ 32 :=
    fun nalu hnalu => (mem_nalusOf hnalu).2.trans_lt hsize
  have hne : ∀ nalu ∈ nalusOf frameData.bytes, nalu.data ≠ [] :=
    fun nalu hnalu => (mem_nalusOf hnalu).1
  rw [decode, hparse, Option.bind_eq_bind, Option.bind_some]
  generalize nalusOf frameData.bytes = nalus at hshort hne
  have hsubmit := submitSlices_eq_none_iff hshort
  have hrest : ∀ d : HEVCDecoder, ((submitSlices d nalus header vt).bind fun sub =>
      some (d, sub)) = none ↔ d.Timed nalus vt ∧ 2 ^ 63 ≤ header.pts.toNat := by
    intro d
    rw [← hsubmit]
    cases submitSlices d nalus header vt <;> simp
  by_cases hempty : nalus = []
  · rw [if_pos hempty]
    refine iff_of_false (Option.some_ne_none _) ?_
    rintro ⟨-, htimed, -⟩
    exact htimed.slices (by rw [hempty]; rfl)
  · rw [if_neg hempty]
    by_cases hkey : header.keyframe = 1
    · have hsets : keyframeSets nalus header = parameterSets nalus := if_pos hkey
      rw [if_pos hkey, HEVCDecoder.after, hsets]
      cases hp : parameterSets nalus with
      | none =>
        rw [takeParameterSets_none hp]
        exact iff_of_false (Option.some_ne_none _) fun h => h.1 hkey rfl
      | some sets =>
        rw [takeParameterSets_some hp, if_pos (.inr (nonempty_parameterSets hne hp))]
        exact (hrest _).trans (and_iff_right fun _ => Option.some_ne_none _).symm
    · have hsets : keyframeSets nalus header = none := if_neg hkey
      rw [if_neg hkey, HEVCDecoder.after, hsets]
      exact (hrest d).trans (and_iff_right fun hk => absurd hk hkey).symm

end DisplayBridge
