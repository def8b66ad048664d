import DisplayBridge.Lib.Runs
import DisplayBridge.Ubuntu.Encode
import Mathlib.Tactic.Linarith

/-!
# The bit rate follows the network

Every two seconds the stream loop of `main.c` asks the network how it does. If packets
are lost or the round trip is slow, the bit rate goes down by 40 percent, if all is well
it goes up by 15. There are two copies of it, the `current_bitrate` of the stream loop
and the field of the encoder, which the loop sets when its own copy changes.

A connection starts at 15 Mbps, the way down ends at 5 and the way up at 10, so the start
is above the end of the way up and is not reached again. The two copies are equal
whenever there is a connection, and stay between 5 and 15 Mbps; from wherever they are,
three bad answers take them to the lower end and five good ones to the upper
(`DisplayBridge.bitrate_of_run`).

The encoder is the one the capture thread uses, and that thread encodes whenever it
likes. That it does not touch the bit rate is the reason why there may be two copies.
-/

namespace DisplayBridge

open Runs

/-! ### The stream loop -/

/-- The figures of `db_streamer_stats_t` the stream loop looks at. -/
structure DbStreamerStats where
  pktLossTotal : ℤ
  rttMs : ℚ
deriving DecidableEq

/-- `db_encoder_set_bitrate`. -/
def dbEncoderSetBitrate (enc : DbEncoder) (bitrateKbps : ℤ) : DbEncoder :=
  if bitrateKbps ≤ 0 then enc
  else if enc.bitrateKbps ≠ bitrateKbps then { enc with bitrateKbps := bitrateKbps }
  else enc

/-- The variables of the stream loop that live from one poll to the next. -/
structure StreamLoop where
  currentBitrate : ℤ
  prevLoss : ℤ
deriving DecidableEq

/-- `target`, after the two conditions of the stream loop. -/
def targetBitrate (currentBitrate lossDelta : ℤ) (rttMs : ℚ) : ℤ :=
  if 5 < lossDelta ∨ 50 < rttMs then
    -- network congestion: reduce by 40 percent, at least 5 Mbps
    let target := (currentBitrate * 60).tdiv 100
    if target < 5000 then 5000 else target
  else if lossDelta = 0 ∧ rttMs < 20 ∧ currentBitrate < 10000 then
    -- network healthy: ramp up by 15 percent, at most 10 Mbps
    let target := (currentBitrate * 115).tdiv 100
    if 10000 < target then 10000 else target
  else currentBitrate

/-- The poll of the statistics in the stream loop; there is no answer if
`db_streamer_get_stats` fails. -/
def pollStats (enc : DbEncoder) (loop : StreamLoop) :
    Option DbStreamerStats → DbEncoder × StreamLoop
  | none => (enc, loop)
  | some stats =>
    let lossDelta := stats.pktLossTotal - loop.prevLoss
    let target := targetBitrate loop.currentBitrate lossDelta stats.rttMs
    if target ≠ loop.currentBitrate then
      (dbEncoderSetBitrate enc target, ⟨target, stats.pktLossTotal⟩)
    else (enc, { loop with prevLoss := stats.pktLossTotal })

/-- The encoder, and the stream loop as long as there is a connection. -/
structure RateControl where
  enc : DbEncoder
  stream : Option StreamLoop
deriving DecidableEq

/-- What can happen to them. -/
inductive RateEvent
  /-- `db_streamer_accept` succeeds. -/
  | accept
  | poll (stats : Option DbStreamerStats)
  /-- The stream loop ends. -/
  | disconnect
  /-- The capture thread encodes a frame. -/
  | encode
deriving DecidableEq

/-- One step. -/
def rateStep (s : RateControl) : RateEvent → Option RateControl
  | .accept =>
    match s.stream with
    | none => some ⟨dbEncoderForceIdr (dbEncoderSetBitrate s.enc 15000), some ⟨15000, 0⟩⟩
    | some _ => none
  | .poll stats =>
    match s.stream with
    | none => none
    | some loop =>
      let next := pollStats s.enc loop stats
      some ⟨next.1, some next.2⟩
  | .disconnect =>
    match s.stream with
    | none => none
    | some _ => some { s with stream := none }
  | .encode => some { s with enc := (encodeSurface s.enc).2 }

/-- The sender after its start. -/
def RateControl.init (enc : DbEncoder) : RateControl := ⟨enc, none⟩

/-! ### What a poll does -/

/-- The answer to a poll tells of congestion. -/
def Congested (loop : StreamLoop) (stats : DbStreamerStats) : Prop :=
  5 < stats.pktLossTotal - loop.prevLoss ∨ 50 < stats.rttMs

/-- The answer to a poll tells of a healthy network. -/
def Healthy (loop : StreamLoop) (stats : DbStreamerStats) : Prop :=
  stats.pktLossTotal - loop.prevLoss = 0 ∧ stats.rttMs < 20

instance (loop : StreamLoop) (stats : DbStreamerStats) : Decidable (Congested loop stats) :=
  inferInstanceAs (Decidable (_ ∨ _))

instance (loop : StreamLoop) (stats : DbStreamerStats) : Decidable (Healthy loop stats) :=
  inferInstanceAs (Decidable (_ ∧ _))

/-- The bit rate after one of congestion. -/
def reduced (bitrate : ℤ) : ℤ := max 5000 (bitrate * 60 / 100)

/-- The bit rate after one of a healthy network. -/
def raised (bitrate : ℤ) : ℤ :=
  if bitrate < 10000 then min 10000 (bitrate * 115 / 100) else bitrate

/-- The two copies agree, and are in range. -/
structure RateControl.Inv (s : RateControl) : Prop where
  agree : ∀ loop ∈ s.stream, s.enc.bitrateKbps = loop.currentBitrate
  low : ∀ loop ∈ s.stream, 5000 ≤ loop.currentBitrate
  high : ∀ loop ∈ s.stream, loop.currentBitrate ≤ 15000

variable {s s' : RateControl} {loop : StreamLoop} {stats : DbStreamerStats}
  {events : List RateEvent}

theorem targetBitrate_of_congested (hpos : 0 ≤ loop.currentBitrate) (h : Congested loop stats) :
    targetBitrate loop.currentBitrate (stats.pktLossTotal - loop.prevLoss) stats.rttMs =
      reduced loop.currentBitrate := by
  have hall : 5 < stats.pktLossTotal - loop.prevLoss ∨ 50 < stats.rttMs := h
  rw [targetBitrate, if_pos hall, reduced, Int.tdiv_eq_ediv_of_nonneg (by omega)]
  dsimp only
  omega

theorem targetBitrate_of_healthy (hpos : 0 ≤ loop.currentBitrate) (h : Healthy loop stats) :
    targetBitrate loop.currentBitrate (stats.pktLossTotal - loop.prevLoss) stats.rttMs =
      raised loop.currentBitrate := by
  obtain ⟨hloss, hrtt⟩ := h
  have hno : ¬ (5 < stats.pktLossTotal - loop.prevLoss ∨ 50 < stats.rttMs) := by
    rintro (hlost | hslow)
    · omega
    · linarith
  rw [targetBitrate, if_neg hno, raised]
  by_cases hlow : loop.currentBitrate < 10000
  · rw [if_pos ⟨hloss, hrtt, hlow⟩, if_pos hlow, Int.tdiv_eq_ediv_of_nonneg (by omega)]
    dsimp only
    omega
  · rw [if_neg fun hall => hlow hall.2.2, if_neg hlow]

/-- Any target is in the range. -/
theorem targetBitrate_mem {current : ℤ} (hlow : 5000 ≤ current) (hhigh : current ≤ 15000)
    (lossDelta : ℤ) (rttMs : ℚ) : 5000 ≤ targetBitrate current lossDelta rttMs ∧
      targetBitrate current lossDelta rttMs ≤ 15000 := by
  rw [targetBitrate, Int.tdiv_eq_ediv_of_nonneg (by omega), Int.tdiv_eq_ediv_of_nonneg (by omega)]
  dsimp only
  split
  · omega
  · split
    · omega
    · exact ⟨hlow, hhigh⟩

/-- A positive bit rate is set. -/
theorem bitrateKbps_dbEncoderSetBitrate (enc : DbEncoder) {bitrate : ℤ} (hpos : 0 < bitrate) :
    (dbEncoderSetBitrate enc bitrate).bitrateKbps = bitrate := by
  rw [dbEncoderSetBitrate, if_neg (not_le.2 hpos)]
  split
  · rfl
  · next hsame => exact not_not.1 hsame

theorem bitrateKbps_dbEncoderForceIdr (enc : DbEncoder) :
    (dbEncoderForceIdr enc).bitrateKbps = enc.bitrateKbps := by
  rw [dbEncoderForceIdr]
  split <;> rfl

/-- **What an answer does** to the stream loop: the target becomes the bit rate. -/
theorem pollStats_loop (enc : DbEncoder) (loop : StreamLoop) (stats : DbStreamerStats) :
    (pollStats enc loop (some stats)).2 =
      ⟨targetBitrate loop.currentBitrate (stats.pktLossTotal - loop.prevLoss) stats.rttMs,
        stats.pktLossTotal⟩ := by
  rw [pollStats]
  split
  · rfl
  · next hsame => rw [not_not.1 hsame]

/-- A poll leaves the two copies equal. -/
theorem pollStats_agree {enc : DbEncoder} (hagree : enc.bitrateKbps = loop.currentBitrate)
    (hlow : 5000 ≤ loop.currentBitrate) (hhigh : loop.currentBitrate ≤ 15000)
    (answer : Option DbStreamerStats) :
    (pollStats enc loop answer).1.bitrateKbps = (pollStats enc loop answer).2.currentBitrate := by
  cases answer with
  | none => exact hagree
  | some stats =>
    have hrange := targetBitrate_mem hlow hhigh (stats.pktLossTotal - loop.prevLoss) stats.rttMs
    rw [pollStats]
    split
    · exact bitrateKbps_dbEncoderSetBitrate enc (by omega)
    · exact hagree

/-! ### Runs -/

/-- Without a connection there is nothing to keep. -/
theorem RateControl.inv_of_none (enc : DbEncoder) : RateControl.Inv ⟨enc, none⟩ := by
  have hnone : ∀ loop, loop ∉ (none : Option StreamLoop) := Option.not_mem_none
  exact ⟨fun _ h => absurd h (hnone _), fun _ h => absurd h (hnone _),
    fun _ h => absurd h (hnone _)⟩

theorem RateControl.inv_of_some {enc : DbEncoder} (hagree : enc.bitrateKbps = loop.currentBitrate)
    (hlow : 5000 ≤ loop.currentBitrate) (hhigh : loop.currentBitrate ≤ 15000) :
    RateControl.Inv ⟨enc, some loop⟩ := by
  refine ⟨?_, ?_, ?_⟩
  · rintro _ ⟨⟩
    exact hagree
  · rintro _ ⟨⟩
    exact hlow
  · rintro _ ⟨⟩
    exact hhigh

/-- **The step lemma.** -/
theorem RateControl.Inv.step (h : s.Inv) {event : RateEvent} (hstep : rateStep s event = some s') :
    s'.Inv := by
  cases event with
  | accept =>
    rw [rateStep] at hstep
    split at hstep
    · obtain rfl := Option.some.inj hstep
      have hset : (dbEncoderForceIdr (dbEncoderSetBitrate s.enc 15000)).bitrateKbps = 15000 := by
        rw [bitrateKbps_dbEncoderForceIdr, bitrateKbps_dbEncoderSetBitrate s.enc (by decide)]
      exact RateControl.inv_of_some hset (by decide) (by decide)
    · cases hstep
  | poll answer =>
    rw [rateStep] at hstep
    cases hloop : s.stream with
    | none =>
      rw [hloop] at hstep
      cases hstep
    | some loop =>
      rw [hloop] at hstep
      obtain rfl := Option.some.inj hstep
      have hagree := h.agree loop hloop
      have hlow := h.low loop hloop
      have hhigh := h.high loop hloop
      have hrange : 5000 ≤ (pollStats s.enc loop answer).2.currentBitrate ∧
          (pollStats s.enc loop answer).2.currentBitrate ≤ 15000 := by
        cases answer with
        | none => exact ⟨hlow, hhigh⟩
        | some stats =>
          rw [pollStats_loop]
          exact targetBitrate_mem hlow hhigh _ _
      exact RateControl.inv_of_some (pollStats_agree hagree hlow hhigh answer) hrange.1 hrange.2
  | disconnect =>
    rw [rateStep] at hstep
    split at hstep
    · cases hstep
    · obtain rfl := Option.some.inj hstep
      exact RateControl.inv_of_none s.enc
  | encode =>
    obtain rfl := Option.some.inj hstep
    exact ⟨h.agree, h.low, h.high⟩

/-- The invariant holds whenever the connections and the polls come. -/
theorem RateControl.inv_of_run {ok : RateControl → RateEvent → Prop} (h : s.Inv)
    (hrun : Run rateStep ok s events s') : s'.Inv :=
  hrun.invariant h fun _ _ _ hs _ hstep => hs.step hstep

/-- The poll has an answer. -/
def RateEvent.answered : RateEvent → Bool
  | .poll (some _) => true
  | _ => false

/-- The connection lasts, and all answers are of one kind. -/
def Only (kind : StreamLoop → DbStreamerStats → Prop) (s : RateControl) : RateEvent → Prop
  | .poll (some stats) => ∀ loop ∈ s.stream, kind loop stats
  | .poll none => True
  | .encode => True
  | .accept => False
  | .disconnect => False

instance (kind : StreamLoop → DbStreamerStats → Prop)
    [∀ loop stats, Decidable (kind loop stats)] (s : RateControl) (event : RateEvent) :
    Decidable (Only kind s event) := by
  unfold Only
  split <;> infer_instance

/-- **Answers of one kind** do to the bit rate what one of them does, over and over. -/
theorem currentBitrate_of_run {kind : StreamLoop → DbStreamerStats → Prop} {f : ℤ → ℤ}
    (hkind : ∀ loop stats, 0 ≤ loop.currentBitrate → kind loop stats →
      targetBitrate loop.currentBitrate (stats.pktLossTotal - loop.prevLoss) stats.rttMs =
        f loop.currentBitrate)
    (h : s.Inv) (hloop : loop ∈ s.stream) (hrun : Run rateStep (Only kind) s events s') :
    ∃ loop' ∈ s'.stream,
      loop'.currentBitrate = f^[events.countP RateEvent.answered] loop.currentBitrate := by
  induction hrun with
  | start => exact ⟨loop, hloop, rfl⟩
  | @snoc events s₁ s₂ event hbefore hok hstep ih =>
    obtain ⟨loop₁, hloop₁, hiterate⟩ := ih
    rw [List.countP_append, List.countP_singleton]
    cases event with
    | accept => exact hok.elim
    | disconnect => exact hok.elim
    | encode =>
      obtain rfl := Option.some.inj hstep
      exact ⟨loop₁, hloop₁, hiterate⟩
    | poll answer =>
      rw [rateStep, hloop₁] at hstep
      obtain rfl := Option.some.inj hstep
      refine ⟨_, rfl, ?_⟩
      cases answer with
      | none => exact hiterate
      | some stats =>
        have hlow := (RateControl.inv_of_run h hbefore).low loop₁ hloop₁
        rw [pollStats_loop, hkind loop₁ stats (by omega) (hok loop₁ hloop₁), hiterate]
        exact (Function.iterate_succ_apply' f _ _).symm

/-! ### Down and up -/

theorem reduced_le {bitrate : ℤ} (hlow : 5000 ≤ bitrate) :
    reduced bitrate ≤ bitrate ∧ (5000 < bitrate → reduced bitrate < bitrate) := by
  rw [reduced]
  omega

theorem le_raised {bitrate : ℤ} (hlow : 5000 ≤ bitrate) : bitrate ≤ raised bitrate ∧
    (bitrate < 10000 → bitrate < raised bitrate ∧ raised bitrate ≤ 10000) := by
  rw [raised]
  split <;> omega

/-- **Three reductions reach the lower end**, and no more leave it. -/
theorem iterate_reduced {bitrate : ℤ} (hhigh : bitrate ≤ 15000) {n : ℕ} (hn : 3 ≤ n) :
    reduced^[n] bitrate = 5000 := by
  obtain ⟨k, rfl⟩ := Nat.exists_eq_add_of_le' hn
  have hthree : reduced (reduced (reduced bitrate)) = 5000 := by
    simp only [reduced]
    omega
  rw [Function.iterate_add_apply]
  refine (congrArg (reduced^[k]) hthree).trans (Function.iterate_fixed ?_ k)
  decide

theorem raised_mono {x y : ℤ} (h : x ≤ y) : raised x ≤ raised y := by
  simp only [raised]
  split <;> split <;> omega

/-- **Five increases reach the upper end**, from the lower one and from everything
above it. -/
theorem le_iterate_raised {bitrate : ℤ} (hlow : 5000 ≤ bitrate) {n : ℕ} (hn : 5 ≤ n) :
    10000 ≤ raised^[n] bitrate := by
  obtain ⟨k, rfl⟩ := Nat.exists_eq_add_of_le' hn
  have hfixed : raised^[k] 10000 = 10000 := Function.iterate_fixed (by decide) k
  have hmono : Monotone raised := fun _ _ => raised_mono
  calc (10000 : ℤ) = raised^[k] (raised^[5] 5000) := hfixed.symm
    _ = raised^[k + 5] 5000 := (Function.iterate_add_apply raised k 5 5000).symm
    _ ≤ raised^[k + 5] bitrate := hmono.iterate (k + 5) hlow

/-- **The bit rate is bounded, and moves the right way.** Over any connections and any
polls, as long as there is a connection the bit rate of the encoder is the one of the
stream loop, and between 5 and 15 Mbps. An answer of congestion does not raise it, and
lowers it above the lower end; one of a healthy network does not lower it, and below
10 Mbps raises it, but not above. Three of the one kind with none of another in between
take it to the lower end, five of the other to the upper one or above. -/
theorem bitrate_of_run {enc : DbEncoder}
    (hrun : Run rateStep (fun _ _ => True) (RateControl.init enc) events s) :
    ∀ loop ∈ s.stream,
      (s.enc.bitrateKbps = loop.currentBitrate ∧
        5000 ≤ loop.currentBitrate ∧ loop.currentBitrate ≤ 15000) ∧
      (∀ stats, ∃ loop', rateStep s (.poll (some stats)) =
          some ⟨(pollStats s.enc loop (some stats)).1, some loop'⟩ ∧
        (Congested loop stats → loop'.currentBitrate ≤ loop.currentBitrate ∧
          (5000 < loop.currentBitrate → loop'.currentBitrate < loop.currentBitrate)) ∧
        (Healthy loop stats → loop.currentBitrate ≤ loop'.currentBitrate ∧
          (loop.currentBitrate < 10000 →
            loop.currentBitrate < loop'.currentBitrate ∧ loop'.currentBitrate ≤ 10000))) ∧
      (∀ later s', Run rateStep (Only Congested) s later s' →
        3 ≤ later.countP RateEvent.answered →
          ∃ loop' ∈ s'.stream, loop'.currentBitrate = 5000) ∧
      ∀ later s', Run rateStep (Only Healthy) s later s' →
        5 ≤ later.countP RateEvent.answered →
          ∃ loop' ∈ s'.stream, 10000 ≤ loop'.currentBitrate := by
  have hinv : s.Inv := RateControl.inv_of_run (RateControl.inv_of_none enc) hrun
  intro loop hloop
  have hlow := hinv.low loop hloop
  have hhigh := hinv.high loop hloop
  refine ⟨⟨hinv.agree loop hloop, hlow, hhigh⟩, fun stats => ?_, ?_, ?_⟩
  · refine ⟨(pollStats s.enc loop (some stats)).2, ?_, fun hbad => ?_, fun hgood => ?_⟩
    · rw [rateStep, hloop]
    · rw [pollStats_loop, targetBitrate_of_congested (by omega) hbad]
      exact reduced_le hlow
    · rw [pollStats_loop, targetBitrate_of_healthy (by omega) hgood]
      exact le_raised hlow
  · intro later s' hlater hthree
    obtain ⟨loop', hloop', hiterate⟩ := currentBitrate_of_run
      (fun _ _ hpos h => targetBitrate_of_congested hpos h) hinv hloop hlater
    exact ⟨loop', hloop', hiterate.trans (iterate_reduced hhigh hthree)⟩
  · intro later s' hlater hfive
    obtain ⟨loop', hloop', hiterate⟩ := currentBitrate_of_run
      (fun _ _ hpos h => targetBitrate_of_healthy hpos h) hinv hloop hlater
    exact ⟨loop', hloop', (le_iterate_raised hlow hfive).trans_eq hiterate.symm⟩

/-- A connection over which the network breaks down and recovers, with a poll that fails
and frames in between. -/
theorem bitrate_of_breakdown :
    ∃ s, Run rateStep (fun _ _ => True) (RateControl.init firstEncoder)
        [.encode, .accept, .poll (some ⟨9, 12⟩), .encode, .poll none, .poll (some ⟨9, 80⟩),
          .poll (some ⟨40, 80⟩), .poll (some ⟨40, 8⟩)] s ∧
      ∃ loop ∈ s.stream, loop.currentBitrate = 5750 ∧
        s.enc.bitrateKbps = loop.currentBitrate := by
  have hrun : Run rateStep (fun _ _ => True) (RateControl.init firstEncoder)
    [.encode, .accept, .poll (some ⟨9, 12⟩), .encode, .poll none, .poll (some ⟨9, 80⟩),
      .poll (some ⟨40, 80⟩), .poll (some ⟨40, 8⟩)] _ := run_get (by decide +kernel)
  exact ⟨_, hrun, ⟨5750, 40⟩, by decide +kernel, rfl,
    (bitrate_of_run hrun ⟨5750, 40⟩ (by decide +kernel)).1.1⟩

end DisplayBridge
