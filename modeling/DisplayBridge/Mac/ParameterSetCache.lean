import DisplayBridge.Lib.Runs
import DisplayBridge.Mac.HEVCDecoder

/-!
# The parameter sets a decoder works with

A decoder has parameter sets in three places: in its cache, in its format
description, and in the format description its session was created for. Whether a
keyframe renews them is decided by the cache alone, and the calls that renew them
can fail one by one. This file says what that does, over any sequence of calls to
`decode` and `invalidate`.

* **Recovery.** A keyframe with all its sets should leave a session for these sets
  if nothing fails. It does so exactly if its sets are not the cached ones, or
  there still is a session (`DisplayBridge.recovers_iff`): the sets are cached
  before the session is created, and stay so when it is torn down, so a decoder
  without a session takes no notice of a keyframe that repeats them
  (`DisplayBridge.not_recovers_after_failed_session`).
* **Own sets.** Slices should be submitted with the sets of the most recent keyframe
  that carried all of them. They are exactly if that keyframe repeated the cached
  sets or a format description could be created from its own
  (`DisplayBridge.ownParameterSets_iff`); otherwise the old session stays, and takes
  the slices of the new sequence (`DisplayBridge.not_ownParameterSets_after_failed_format`).

Both rest on one invariant: a session belongs to the cached sets
(`DisplayBridge.DecoderRun.Inv.session`).
-/

namespace DisplayBridge

open Swift Runs

/-! ### Runs of a decoder -/

/-- A keyframe that carries all parameter sets: which, whether they were cached when
it came, and whether a format description could be created from them. -/
structure Keyframe where
  sets : ParameterSets
  repeated : Bool
  created : Bool
deriving DecidableEq, Repr

/-- What an observer of the decoder writes down. -/
inductive DecoderEntry
  | keyframe (k : Keyframe)
  /-- Slices are submitted, of a keyframe or of another frame. -/
  | submitted (isKey : Bool) (s : Submission)
  | invalidated
deriving DecidableEq, Repr

/-- What a call of `decode` writes down. -/
def decodeEntries (d : HEVCDecoder) (nalus : List NALU) (header : DBVideoHeader)
    (vt : VideoToolbox) (sub : Option Submission) : List DecoderEntry :=
  (keyframeSets nalus header).toList.map
      (fun sets => .keyframe ⟨sets, decide (d.Caches sets), vt.formatCreated⟩) ++
    sub.toList.map (.submitted (header.keyframe == 1))

/-- What is submitted is written down last. -/
theorem decodeEntries_some (d : HEVCDecoder) (nalus : List NALU) (header : DBVideoHeader)
    (vt : VideoToolbox) (s : Submission) :
    decodeEntries d nalus header vt (some s) =
      decodeEntries d nalus header vt none ++ [.submitted (header.keyframe == 1) s] := by
  rw [decodeEntries, decodeEntries, Option.toList_none, List.map_nil, List.append_nil]
  rfl

/-- A decoder, and what has happened to it so far. -/
structure DecoderRun where
  decoder : HEVCDecoder
  log : List DecoderEntry
deriving DecidableEq, Repr

/-- A call to the decoder. -/
inductive DecoderEvent
  | decode (frameData : Data) (header : DBVideoHeader) (vt : VideoToolbox)
  | invalidate

/-- One call. A call that traps is no step: nothing happens after it. -/
def decoderStep (r : DecoderRun) : DecoderEvent → Option DecoderRun
  | .decode frameData header vt => do
    let nalus ← parseAnnexB frameData
    let (d, sub) ← decode r.decoder frameData header vt
    return ⟨d, r.log ++ decodeEntries r.decoder nalus header vt sub⟩
  | .invalidate => some ⟨invalidate r.decoder, r.log ++ [.invalidated]⟩

/-- A decoder right after its creation. -/
def DecoderRun.init : DecoderRun := ⟨.init, []⟩

/-- The most recent keyframe that carried all parameter sets. -/
def lastKeyframe (log : List DecoderEntry) : Option Keyframe :=
  log.foldl (fun last a =>
    match a with
    | .keyframe k => some k
    | _ => last) none

theorem lastKeyframe_concat (log : List DecoderEntry) (a : DecoderEntry) :
    lastKeyframe (log ++ [a]) =
      match a with
      | .keyframe k => some k
      | _ => lastKeyframe log := by
  rw [lastKeyframe, List.foldl_append]
  rfl

/-! ### What is promised, and the condition -/

/-- **Slices are submitted with their own parameter sets**: session and format
description were created from the sets of the most recent keyframe that carried
all of them. -/
def OwnParameterSets (log : List DecoderEntry) : Prop :=
  ∀ pre a post, log = pre ++ a :: post → ∀ isKey s, a = .submitted isKey s →
    ∃ k, lastKeyframe pre = some k ∧ s.session.format = k.sets ∧ s.fmtDesc = k.sets

/-- The sets of a keyframe were cached already, or a format description could be
created from them. -/
def Keyframe.Adopted (k : Keyframe) : Prop := k.repeated = true ∨ k.created = true

/-- Whenever slices are submitted, the most recent keyframe repeated the cached sets,
or a format description could be created from its own. -/
def FormatsCreated (log : List DecoderEntry) : Prop :=
  ∀ pre a post, log = pre ++ a :: post → ∀ isKey s, a = .submitted isKey s →
    ∃ k, lastKeyframe pre = some k ∧ k.Adopted

/-! ### Adopting parameter sets -/

variable {d : HEVCDecoder} {sets : ParameterSets} {vt : VideoToolbox}

/-- The sets of a keyframe are cached afterwards if they were before, or if a format
description could be created. -/
theorem adopt_caches_iff :
    (d.adopt sets vt).Caches sets ↔ d.Caches sets ∨ vt.formatCreated = true := by
  rw [HEVCDecoder.adopt]
  split
  · next hcaches => exact iff_of_true ⟨hcaches.vps, hcaches.sps, hcaches.pps⟩ (.inl hcaches)
  · next hcaches =>
    split
    · next hformat => exact iff_of_true ⟨rfl, rfl, rfl⟩ (.inr hformat)
    · next hformat =>
      refine iff_of_false ?_ (not_or.2 ⟨hcaches, hformat⟩)
      rintro ⟨hvps, hsps, hpps⟩
      exact hcaches ⟨hvps, hsps, hpps⟩

theorem adopt_waitingForIDR : (d.adopt sets vt).waitingForIDR = false := by
  rw [HEVCDecoder.adopt]
  split_ifs <;> rfl

/-- A session belongs to the cached sets, and so does the format description. -/
def HEVCDecoder.Current (d : HEVCDecoder) : Prop :=
  ∀ s, d.session = some s → d.formatDescription = some s.format ∧ d.Caches s.format

theorem HEVCDecoder.Current.adopt (h : d.Current) (sets : ParameterSets) (vt : VideoToolbox) :
    (d.adopt sets vt).Current := by
  have hold : HEVCDecoder.Current { d with waitingForIDR := false } := by
    intro s hs
    obtain ⟨hformat, hvps, hsps, hpps⟩ := h s hs
    exact ⟨hformat, hvps, hsps, hpps⟩
  rw [HEVCDecoder.adopt]
  split
  · exact hold
  · split
    · intro s hs
      dsimp only at hs
      split at hs
      · obtain rfl : (⟨sets⟩ : DecompressionSession) = s := Option.some.inj hs
        exact ⟨rfl, rfl, rfl, rfl⟩
      · cases hs
    · exact hold

/-! ### The invariant -/

/-- The invariant of all runs. -/
structure DecoderRun.Inv (r : DecoderRun) : Prop where
  session : r.decoder.Current
  seen : r.decoder.waitingForIDR = false → lastKeyframe r.log ≠ none
  cached : ∀ k, lastKeyframe r.log = some k → (r.decoder.Caches k.sets ↔ k.Adopted)
  own : ∀ pre a post, r.log = pre ++ a :: post → ∀ isKey s, a = .submitted isKey s →
    ∃ k, lastKeyframe pre = some k ∧
      (s.session.format = k.sets ∧ s.fmtDesc = k.sets ↔ k.Adopted)

variable {r : DecoderRun}

/-- What a call does to the decoder and to the most recent keyframe. -/
theorem DecoderRun.Inv.keyframe (h : r.Inv) (nalus : List NALU) (header : DBVideoHeader)
    (vt : VideoToolbox) :
    DecoderRun.Inv ⟨r.decoder.after nalus header vt,
      r.log ++ decodeEntries r.decoder nalus header vt none⟩ := by
  rw [HEVCDecoder.after, decodeEntries, Option.toList_none, List.map_nil, List.append_nil]
  cases keyframeSets nalus header with
  | none =>
    rw [Option.toList_none, List.map_nil, List.append_nil]
    exact h
  | some sets =>
    refine ⟨h.session.adopt sets vt, ?_, ?_, ?_⟩
    · rintro - hnone
      rw [Option.toList_some, List.map_singleton, lastKeyframe_concat] at hnone
      cases hnone
    · intro k hk
      rw [Option.toList_some, List.map_singleton, lastKeyframe_concat] at hk
      obtain rfl := Option.some.inj hk
      refine adopt_caches_iff.trans (or_congr ?_ Iff.rfl)
      exact decide_eq_true_iff.symm
    · refine forall_split_concat.2 ⟨?_, h.own⟩
      rintro isKey s ⟨⟩

/-- Slices are submitted with what the decoder has. -/
theorem DecoderRun.Inv.submit (h : r.Inv) {s : Submission}
    (hwaiting : r.decoder.waitingForIDR = false) (hsession : r.decoder.session = some s.session)
    (hformat : r.decoder.formatDescription = some s.fmtDesc) (isKey : Bool) :
    DecoderRun.Inv ⟨r.decoder, r.log ++ [.submitted isKey s]⟩ := by
  have hlast : lastKeyframe (r.log ++ [.submitted isKey s]) = lastKeyframe r.log :=
    lastKeyframe_concat _ _
  refine ⟨h.session, ?_, ?_, forall_split_concat.2 ⟨?_, h.own⟩⟩
  · rw [hlast]
    exact h.seen
  · rw [hlast]
    exact h.cached
  · rintro _ _ ⟨⟩
    obtain ⟨k, hk⟩ := Option.ne_none_iff_exists'.1 (h.seen hwaiting)
    obtain ⟨hcurrent, hcaches⟩ := h.session s.session hsession
    obtain hsame : s.fmtDesc = s.session.format :=
      Option.some.inj (hformat.symm.trans hcurrent)
    refine ⟨k, hk, ?_⟩
    rw [← h.cached k hk, hsame, and_self]
    constructor
    · intro hsets
      rwa [← hsets]
    · exact hcaches.unique

theorem DecoderRun.Inv.invalidate (h : r.Inv) :
    DecoderRun.Inv ⟨DisplayBridge.invalidate r.decoder, r.log ++ [.invalidated]⟩ := by
  have hlast : lastKeyframe (r.log ++ [.invalidated]) = lastKeyframe r.log :=
    lastKeyframe_concat _ _
  refine ⟨?_, ?_, ?_, forall_split_concat.2 ⟨?_, h.own⟩⟩
  · rintro s ⟨⟩
  · rintro ⟨⟩
  · rw [hlast]
    intro k hk
    refine Iff.trans ?_ (h.cached k hk)
    exact ⟨fun hc => ⟨hc.vps, hc.sps, hc.pps⟩, fun hc => ⟨hc.vps, hc.sps, hc.pps⟩⟩
  · rintro isKey s ⟨⟩

/-- **The step lemma.** -/
theorem DecoderRun.Inv.step (h : r.Inv) {event : DecoderEvent} {r' : DecoderRun}
    (hstep : decoderStep r event = some r') : r'.Inv := by
  cases event with
  | invalidate =>
    cases hstep
    exact h.invalidate
  | decode frameData header vt =>
    obtain ⟨nalus, hparse, hstep⟩ := Option.bind_eq_some_iff.1 hstep
    obtain ⟨⟨d, sub⟩, hdecode, hstep⟩ := Option.bind_eq_some_iff.1 hstep
    cases hstep
    obtain ⟨nalus', hparse', rfl, hsub⟩ := decode_eq_some hdecode
    obtain rfl : nalus = nalus' := Option.some.inj (hparse.symm.trans hparse')
    have hkeyframe := h.keyframe nalus header vt
    cases sub with
    | none => exact hkeyframe
    | some s =>
      obtain ⟨-, hwaiting, hsession, hformat, -⟩ := hsub s rfl
      rw [decodeEntries_some, ← List.append_assoc]
      exact hkeyframe.submit hwaiting hsession hformat _

theorem DecoderRun.inv_init : DecoderRun.init.Inv where
  session s hs := absurd hs (Option.not_mem_none s)
  seen := by rintro ⟨⟩
  cached k hk := absurd hk (Option.not_mem_none k)
  own pre a post hlog := absurd hlog.symm (by simp [DecoderRun.init])

theorem DecoderRun.inv_of_run {events : List DecoderEvent}
    (hrun : Run decoderStep (fun _ _ => True) .init events r) : r.Inv :=
  hrun.invariant DecoderRun.inv_init fun _ _ _ h _ hstep => h.step hstep

/-! ### Recovery -/

/-- A decoder that can create both has a session for the sets it has taken exactly if
they were new, or it had one. -/
theorem HEVCDecoder.Current.adopt_session_iff (h : d.Current) (hformat : vt.formatCreated = true)
    (hsession : vt.sessionCreated = true) :
    (d.adopt sets vt).session = some ⟨sets⟩ ↔ ¬ d.Caches sets ∨ d.session ≠ none := by
  rw [HEVCDecoder.adopt]
  by_cases hcaches : d.Caches sets
  · rw [if_pos hcaches]
    constructor
    · intro hs
      exact .inr (by rw [hs]; exact Option.some_ne_none _)
    · rintro (hnot | hne)
      · exact absurd hcaches hnot
      · obtain ⟨s, hs⟩ := Option.ne_none_iff_exists'.1 hne
        obtain rfl : s.format = sets := (h s hs).2.unique hcaches
        exact hs
  · rw [if_neg hcaches, if_pos hformat, if_pos hsession]
    exact iff_of_true rfl (.inl hcaches)

/-- **A keyframe with all its sets leaves a session for them**, if no call fails,
exactly if its sets are not the cached ones or there is a session – and if the call
returns, which it does unless the time stamp of slices that are submitted does not
fit. -/
theorem recovers_iff {events : List DecoderEvent}
    (hrun : Run decoderStep (fun _ _ => True) .init events r) {frameData : Data}
    (hsize : frameData.count < 2 ^ 32) {header : DBVideoHeader}
    (hsets : keyframeSets (nalusOf frameData.bytes) header = some sets)
    (hformat : vt.formatCreated = true) (hsession : vt.sessionCreated = true) :
    (∃ d sub, decode r.decoder frameData header vt = some (d, sub) ∧ d.session = some ⟨sets⟩) ↔
      (¬ r.decoder.Caches sets ∨ r.decoder.session ≠ none) ∧
        ¬ (sliceNALUs (nalusOf frameData.bytes) ≠ [] ∧ vt.blockCreated = true ∧
          vt.blockFilled = true ∧ 2 ^ 63 ≤ header.pts.toNat) := by
  have hcurrent := (DecoderRun.inv_of_run hrun).session
  have hadopt : (r.decoder.adopt sets vt).session = some ⟨sets⟩ ↔ _ :=
    hcurrent.adopt_session_iff hformat hsession
  have hafter : r.decoder.after (nalusOf frameData.bytes) header vt = r.decoder.adopt sets vt := by
    rw [HEVCDecoder.after, hsets]
  have hnone := decode_eq_none_iff hsize r.decoder header vt
  rw [hafter] at hnone
  rw [← hadopt]
  constructor
  · rintro ⟨d, sub, hdecode, hd⟩
    rw [decode_after hsize hdecode, hafter] at hd
    refine ⟨hd, ?_⟩
    rintro ⟨hslices, hcreated, hfilled, hpts⟩
    have hformat' := (hcurrent.adopt sets vt _ hd).1
    have htrap : decode r.decoder frameData header vt = none := by
      refine hnone.2 ⟨fun _ => by rw [hsets]; exact Option.some_ne_none _,
        ⟨adopt_waitingForIDR, ?_, ?_, hslices, hcreated, hfilled⟩, hpts⟩
      · rw [hd]
        exact Option.some_ne_none _
      · rw [hformat']
        exact Option.some_ne_none _
    rw [htrap] at hdecode
    cases hdecode
  · rintro ⟨hd, hfits⟩
    cases hdecode : decode r.decoder frameData header vt with
    | none =>
      obtain ⟨-, htimed, hpts⟩ := hnone.1 hdecode
      exact absurd ⟨htimed.slices, htimed.created, htimed.filled, hpts⟩ hfits
    | some result =>
      obtain ⟨d, sub⟩ := result
      refine ⟨d, sub, rfl, ?_⟩
      rw [decode_after hsize hdecode, hafter]
      exact hd

/-- The three sets of a small keyframe, which differ in one byte of the second. -/
def smallSets (b : UInt8) : ParameterSets := ⟨[0x40, 1], [0x42, b], [0x44, 1]⟩

/-- A small keyframe: its three sets and a slice. -/
def smallKeyframe (b : UInt8) : Data :=
  .ofBytes [0, 0, 0, 1, 0x40, 1, 0, 0, 0, 1, 0x42, b, 0, 0, 0, 1, 0x44, 1, 0, 0, 0, 1, 0x26, 1]

/-- The header of a keyframe. -/
def keyHeader : DBVideoHeader := ⟨2880, 1800, 1, 1, 0, 0⟩

/-- A decoder whose first keyframe could not be given a session. -/
def sessionFailed : DecoderRun :=
  ⟨⟨none, some (smallSets 1), some [0x40, 1], some [0x42, 1], some [0x44, 1], false⟩,
    [.keyframe ⟨smallSets 1, false, true⟩]⟩

theorem run_sessionFailed : Run decoderStep (fun _ _ => True) .init
    [.decode (smallKeyframe 1) keyHeader { VideoToolbox.works with sessionCreated := false }]
    sessionFailed :=
  run_of_exec (by decide +kernel)

/-- It has a session after a keyframe with other sets. -/
theorem recovers_changed_sets :
    ∃ d sub, decode sessionFailed.decoder (smallKeyframe 2) keyHeader .works = some (d, sub) ∧
      d.session = some ⟨smallSets 2⟩ :=
  (recovers_iff run_sessionFailed (by decide) (by decide +kernel) rfl rfl).2
    ⟨.inl (by decide), by decide⟩

/-- **A decoder without a session takes no notice of a keyframe it knows.** The
session for the first keyframe could not be created; the same keyframe comes again,
and nothing would fail. -/
theorem not_recovers_after_failed_session :
    ∃ r, Run decoderStep (fun _ _ => True) .init
        [.decode (smallKeyframe 1) keyHeader { VideoToolbox.works with sessionCreated := false }]
        r ∧
      keyframeSets (nalusOf (smallKeyframe 1).bytes) keyHeader = some (smallSets 1) ∧
      ¬ ∃ d sub, decode r.decoder (smallKeyframe 1) keyHeader .works = some (d, sub) ∧
        d.session = some ⟨smallSets 1⟩ := by
  have hdecode : decode sessionFailed.decoder (smallKeyframe 1) keyHeader .works =
      some (sessionFailed.decoder, none) := by
    decide +kernel
  refine ⟨_, run_sessionFailed, by decide +kernel, ?_⟩
  rintro ⟨d', sub, hdecode', hsession⟩
  obtain ⟨rfl, -⟩ := Prod.mk.inj (Option.some.inj (hdecode.symm.trans hdecode'))
  cases hsession

/-! ### Own parameter sets -/

/-- **Slices are submitted with their own parameter sets** in exactly the runs in
which, whenever slices are submitted, the most recent keyframe repeated the cached
sets or a format description could be created from its own. -/
theorem ownParameterSets_iff {events : List DecoderEvent}
    (hrun : Run decoderStep (fun _ _ => True) .init events r) :
    OwnParameterSets r.log ↔ FormatsCreated r.log := by
  have hown := (DecoderRun.inv_of_run hrun).own
  constructor
  · intro h pre a post hlog isKey s ha
    obtain ⟨k, hk, hsets⟩ := h pre a post hlog isKey s ha
    obtain ⟨k', hk', hiff⟩ := hown pre a post hlog isKey s ha
    obtain rfl : k = k' := Option.some.inj (hk.symm.trans hk')
    exact ⟨k, hk, hiff.1 hsets⟩
  · intro h pre a post hlog isKey s ha
    obtain ⟨k, hk, hadopted⟩ := h pre a post hlog isKey s ha
    obtain ⟨k', hk', hiff⟩ := hown pre a post hlog isKey s ha
    obtain rfl : k = k' := Option.some.inj (hk.symm.trans hk')
    exact ⟨k, hk, hiff.2 hadopted⟩

/-- What is submitted of a small keyframe, with some parameter sets. -/
def smallSubmission (sets : ParameterSets) : Submission := ⟨⟨sets⟩, sets, [0, 0, 0, 2, 0x26, 1], 0⟩

theorem FormatsCreated.keyframe {log : List DecoderEntry} (h : FormatsCreated log)
    (k : Keyframe) : FormatsCreated (log ++ [.keyframe k]) := by
  refine forall_split_concat.2 ⟨?_, h⟩
  rintro isKey s ⟨⟩

theorem FormatsCreated.submitted {log : List DecoderEntry} (h : FormatsCreated log)
    {k : Keyframe} (hk : lastKeyframe log = some k) (hadopted : k.Adopted) (isKey : Bool)
    (s : Submission) : FormatsCreated (log ++ [.submitted isKey s]) := by
  refine forall_split_concat.2 ⟨?_, h⟩
  rintro _ _ ⟨⟩
  exact ⟨k, hk, hadopted⟩

/-- Two keyframes with different sets, which are both adopted, and their slices. -/
theorem ownParameterSets_two_keyframes :
    OwnParameterSets [.keyframe ⟨smallSets 1, false, true⟩,
      .submitted true (smallSubmission (smallSets 1)), .keyframe ⟨smallSets 2, false, true⟩,
      .submitted true (smallSubmission (smallSets 2))] := by
  have hrun : Run decoderStep (fun _ _ => True) .init
      [.decode (smallKeyframe 1) keyHeader .works, .decode (smallKeyframe 2) keyHeader .works]
      ⟨⟨some ⟨smallSets 2⟩, some (smallSets 2), some [0x40, 1], some [0x42, 2], some [0x44, 1],
        false⟩, [.keyframe ⟨smallSets 1, false, true⟩,
          .submitted true (smallSubmission (smallSets 1)), .keyframe ⟨smallSets 2, false, true⟩,
          .submitted true (smallSubmission (smallSets 2))]⟩ := run_of_exec (by decide +kernel)
  have hempty : FormatsCreated [] := fun pre a post hlog => absurd hlog.symm (by simp)
  have hfirst : FormatsCreated [.keyframe ⟨smallSets 1, false, true⟩,
      .submitted true (smallSubmission (smallSets 1))] :=
    (hempty.keyframe _).submitted rfl (.inr rfl) _ _
  exact (ownParameterSets_iff hrun).2 ((hfirst.keyframe _).submitted rfl (.inr rfl) _ _)

/-- Two keyframes with different sets; the second format description cannot be
created. -/
def formatFails : List DecoderEvent :=
  [.decode (smallKeyframe 1) keyHeader .works,
    .decode (smallKeyframe 2) keyHeader { VideoToolbox.works with formatCreated := false }]

theorem log_formatFails :
    (exec decoderStep (fun _ _ => True) .init formatFails).map (·.log) =
      some ([.keyframe ⟨smallSets 1, false, true⟩,
        .submitted true (smallSubmission (smallSets 1)), .keyframe ⟨smallSets 2, false, false⟩] ++
          .submitted true (smallSubmission (smallSets 1)) :: []) := by
  decide +kernel

/-- **The old session takes the slices of new parameter sets**, if no format
description can be created from these. -/
theorem not_ownParameterSets_after_failed_format :
    ∃ r, Run decoderStep (fun _ _ => True) .init formatFails r ∧ ¬ OwnParameterSets r.log := by
  obtain ⟨r, hr, hlog⟩ := Option.map_eq_some_iff.1 log_formatFails
  refine ⟨r, run_of_exec hr, fun hown => ?_⟩
  obtain ⟨k, hk, hsession, -⟩ := hown _ _ _ hlog _ _ rfl
  obtain rfl : (⟨smallSets 2, false, false⟩ : Keyframe) = k := Option.some.inj hk
  exact absurd hsession (by decide)

end DisplayBridge
