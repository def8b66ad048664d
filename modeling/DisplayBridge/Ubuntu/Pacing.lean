import DisplayBridge.Lib.Ticker
import DisplayBridge.Ubuntu.Bitrate
import DisplayBridge.Ubuntu.Sender

/-!
# The clock of the stream loop

The stream loop of `main.c` reads the clock twice on each turn. First it sends a frame and
notes when, or, if there was none and more than a second has passed since it sent
anything, sends a heartbeat. Then, if more than two seconds have passed since it has asked
the network for statistics, it asks again, and lets the answer change the bit rate. Both
are timers that are polled (`Ticker.Timer`); nothing wakes the loop up when they are due.

So what can be said depends on how long a turn takes, and if none takes longer than `δ`
(`DisplayBridge.Clocked`):

* no two sends of a connection are more than a second and `δ` apart, a heartbeat is sent
  after more than a second of silence only, and the statistics are polled no sooner than
  every two seconds and no later than every two seconds and `δ`
  (`DisplayBridge.stream_paced`);
* a congested network has the bit rate at its lower end after six seconds and `2 * δ`, and
  a healthy one has it at 10 Mbps or more after ten seconds and `4 * δ`
  (`DisplayBridge.network_answered`).

The loop is that of the module on the bit rate, with the clock: every run here is a run
there. A send that the library refuses for now counts as one.
-/

namespace DisplayBridge

open Runs Ticker

/-! ### The loop -/

/-- What the stream loop has noted of a send. -/
structure StreamMark where
  time : UInt64
  heartbeat : Bool
deriving DecidableEq

/-- The variables of the stream loop, what the clock has shown, and what was done when, the
latest first. -/
structure PacedStream where
  loop : StreamLoop
  lastSendTime : UInt64
  lastStatsTime : UInt64
  /-- The last reading after a send, or in its place. -/
  sendClock : UInt64
  /-- The last reading before the statistics. -/
  statsClock : UInt64
  /-- The send of `lastSendTime` was a heartbeat. -/
  heartbeat : Bool
  sendsBefore : List StreamMark
  pollsBefore : List UInt64
deriving DecidableEq

/-- The sends of the connection, after its start. -/
def PacedStream.sends (c : PacedStream) : List StreamMark :=
  ⟨c.lastSendTime, c.heartbeat⟩ :: c.sendsBefore

/-- The polls of the connection, after its start. -/
def PacedStream.polls (c : PacedStream) : List UInt64 := c.lastStatsTime :: c.pollsBefore

/-- Something is sent. -/
def PacedStream.send (c : PacedStream) (mark : StreamMark) : PacedStream :=
  { c with
    lastSendTime := mark.time, sendClock := mark.time, heartbeat := mark.heartbeat,
    sendsBefore := c.sends }

/-- What the calls of one turn return. -/
structure StreamTurn where
  /-- Of `db_streamer_send`, if `ring_pop` has given an entry with bytes. -/
  frame : Option SendOutcome
  /-- Of `get_time_us`, after the send or before the heartbeat. -/
  now : UInt64
  /-- Whether `db_streamer_send_heartbeat` has succeeded. -/
  heartbeatOk : Bool
  /-- Of the second `get_time_us`. -/
  nowAbs : UInt64
  /-- Of `db_streamer_get_stats`. -/
  stats : Option DbStreamerStats
deriving DecidableEq

/-- The encoder, and the stream loop as long as there is a connection. -/
structure PacedSender where
  enc : DbEncoder
  stream : Option PacedStream
deriving DecidableEq

/-- What can happen to them. -/
inductive PacedEvent
  /-- `db_streamer_accept` succeeds; the two readings of the clock before the loop. -/
  | accept (now nowAbs : UInt64)
  | turn (t : StreamTurn)
  /-- The condition of the loop fails. -/
  | leave
  /-- The capture thread encodes a frame. -/
  | encode
deriving DecidableEq

/-- The first part of a turn; there is nothing after it if the loop is left. -/
def PacedStream.sendPart (c : PacedStream) (t : StreamTurn) : Option PacedStream :=
  match t.frame with
  | some .broken => none
  | some _ => some (c.send ⟨t.now, false⟩)
  | none =>
    if 1000000 < t.now - c.lastSendTime then
      if t.heartbeatOk then some (c.send ⟨t.now, true⟩) else none
    else some { c with sendClock := t.now }

/-- The second part of a turn. -/
def PacedStream.statsPart (c : PacedStream) (enc : DbEncoder) (t : StreamTurn) :
    DbEncoder × PacedStream :=
  if 2000000 < t.nowAbs - c.lastStatsTime then
    let next := pollStats enc c.loop t.stats
    (next.1, { c with
      loop := next.2, lastStatsTime := t.nowAbs, statsClock := t.nowAbs,
      pollsBefore := c.polls })
  else (enc, { c with statsClock := t.nowAbs })

/-- One step. -/
def PacedSender.step (s : PacedSender) : PacedEvent → Option PacedSender
  | .accept now nowAbs =>
    match s.stream with
    | none =>
      some ⟨dbEncoderForceIdr (dbEncoderSetBitrate s.enc 15000),
        some ⟨⟨15000, 0⟩, now, nowAbs, now, nowAbs, false, [], []⟩⟩
    | some _ => none
  | .turn t =>
    match s.stream with
    | none => none
    | some c =>
      match c.sendPart t with
      | none => some { s with stream := none }
      | some c =>
        let next := c.statsPart s.enc t
        some ⟨next.1, some next.2⟩
  | .leave =>
    match s.stream with
    | none => none
    | some _ => some { s with stream := none }
  | .encode => some { s with enc := (encodeSurface s.enc).2 }

/-- The sender after its start. -/
def PacedSender.init (enc : DbEncoder) : PacedSender := ⟨enc, none⟩

/-- The clock does not go back, and no turn takes longer than `δ`. -/
def Clocked (δ : ℕ) (s : PacedSender) : PacedEvent → Prop
  | .turn t => ∀ c ∈ s.stream,
      (c.sendClock ≤ t.now ∧ t.now.toNat ≤ c.sendClock.toNat + δ) ∧
        c.statsClock ≤ t.nowAbs ∧ t.nowAbs.toNat ≤ c.statsClock.toNat + δ
  | _ => True

instance (δ : ℕ) (s : PacedSender) : (e : PacedEvent) → Decidable (Clocked δ s e)
  | .turn _ => inferInstanceAs (Decidable (∀ _ ∈ s.stream, _))
  | .accept _ _ | .leave | .encode => inferInstanceAs (Decidable True)

/-! ### The timers of the loop -/

/-- The timer of the heartbeats, which every send sets. -/
def PacedStream.sendTimer (c : PacedStream) : Timer :=
  ⟨c.sendClock.toNat, c.lastSendTime.toNat, c.sendsBefore.map (·.time.toNat)⟩

/-- The timer of the statistics. -/
def PacedStream.statsTimer (c : PacedStream) : Timer :=
  ⟨c.statsClock.toNat, c.lastStatsTime.toNat, c.pollsBefore.map UInt64.toNat⟩

/-- Heartbeats after more than a second only. -/
def HeartbeatsLate (sends : List StreamMark) : Prop :=
  sends.IsChain fun later earlier =>
    later.heartbeat = true → earlier.time.toNat + 1000000 < later.time.toNat

/-- **The invariant of the clock.** -/
structure PacedStream.Inv (δ : ℕ) (c : PacedStream) : Prop where
  send : c.sendTimer.Prompt 1000000 δ
  stats : c.statsTimer.Prompt 2000000 δ
  statsSpaced : c.statsTimer.Spaced 2000000
  heartbeats : HeartbeatsLate c.sends

variable {δ : ℕ} {s s' : PacedSender} {c c' : PacedStream} {t : StreamTurn} {e : PacedEvent}
  {es : List PacedEvent}

theorem lt_sub_iff {p a b : UInt64} (h : b ≤ a) : p < a - b ↔ p.toNat < a.toNat - b.toNat := by
  rw [UInt64.lt_iff_toNat_lt, UInt64.toNat_sub_of_le _ _ h]

/-- What a send leaves alone. -/
theorem PacedStream.sendPart_stats (hs : c.sendPart t = some c') :
    c'.loop = c.loop ∧ c'.lastStatsTime = c.lastStatsTime ∧ c'.statsClock = c.statsClock ∧
      c'.pollsBefore = c.pollsBefore := by
  revert hs
  rw [PacedStream.sendPart.eq_def]
  split
  · intro hs
    cases hs
  · rintro ⟨⟩
    exact ⟨rfl, rfl, rfl, rfl⟩
  · split
    · split
      · rintro ⟨⟩
        exact ⟨rfl, rfl, rfl, rfl⟩
      · intro hs
        cases hs
    · rintro ⟨⟩
      exact ⟨rfl, rfl, rfl, rfl⟩

theorem PacedStream.statsTimer_sendPart (hs : c.sendPart t = some c') :
    c'.statsTimer = c.statsTimer := by
  obtain ⟨-, hlast, hclock, hpolls⟩ := PacedStream.sendPart_stats hs
  rw [PacedStream.statsTimer, PacedStream.statsTimer, hlast, hclock, hpolls]

/-- **What a send does**: the timer is set, or read as every turn. -/
theorem PacedStream.sendPart_spec (hle : c.lastSendTime ≤ t.now) (hs : c.sendPart t = some c') :
    (c'.sendTimer = c.sendTimer.set t.now.toNat ∨
        c'.sendTimer = c.sendTimer.read 1000000 t.now.toNat) ∧
      (HeartbeatsLate c.sends → HeartbeatsLate c'.sends) := by
  have hdue := lt_sub_iff (p := 1000000) hle
  revert hs
  rw [PacedStream.sendPart.eq_def]
  split
  · intro hs
    cases hs
  · rintro ⟨⟩
    refine ⟨.inl rfl, fun h => ?_⟩
    exact List.isChain_cons_cons.2 ⟨fun hno => absurd hno Bool.false_ne_true, h⟩
  · split
    · next hwait =>
      have hlate := hdue.1 hwait
      split
      · rintro ⟨⟩
        refine ⟨.inl rfl, fun h => List.isChain_cons_cons.2 ⟨fun _ => ?_, h⟩⟩
        have hone : (1000000 : UInt64).toNat = 1000000 := rfl
        show c.lastSendTime.toNat + 1000000 < t.now.toNat
        omega
      · intro hs
        cases hs
    · next hwait =>
      rintro ⟨⟩
      exact ⟨.inr (if_neg (mt hdue.2 hwait)).symm, id⟩

/-- **What a poll does**: the timer is read, and the loop learns of the answer if it is
set. -/
theorem PacedStream.statsPart_spec (hle : c.lastStatsTime ≤ t.nowAbs) (enc : DbEncoder) :
    (c.statsPart enc t).2.statsTimer = c.statsTimer.read 2000000 t.nowAbs.toNat ∧
      (c.statsPart enc t).2.sendTimer = c.sendTimer ∧
      (c.statsPart enc t).2.sends = c.sends := by
  have hdue := lt_sub_iff (p := 2000000) hle
  rw [PacedStream.statsPart]
  split
  · next hlate => exact ⟨(if_pos (hdue.1 hlate)).symm, rfl, rfl⟩
  · next hwait => exact ⟨(if_neg (mt hdue.2 hwait)).symm, rfl, rfl⟩

/-- What a poll does in a turn. -/
theorem PacedStream.Inv.statsPart_spec (h : c.Inv δ) (enc : DbEncoder)
    (hle : c.statsClock ≤ t.nowAbs) (hs : c.sendPart t = some c') :
    (c'.statsPart enc t).2.statsTimer = c.statsTimer.read 2000000 t.nowAbs.toNat ∧
      (c'.statsPart enc t).2.sendTimer = c'.sendTimer ∧
      (c'.statsPart enc t).2.sends = c'.sends := by
  have hlast : c'.lastStatsTime ≤ t.nowAbs := by
    rw [(PacedStream.sendPart_stats hs).2.1]
    exact UInt64.le_trans (UInt64.le_iff_toNat_le.2 h.stats.last_le) hle
  rw [← PacedStream.statsTimer_sendPart hs]
  exact PacedStream.statsPart_spec hlast enc

/-- **A turn keeps the invariant of the clock.** -/
theorem PacedStream.Inv.turn (h : c.Inv δ) (enc : DbEncoder)
    (hsend : c.sendClock ≤ t.now ∧ t.now.toNat ≤ c.sendClock.toNat + δ)
    (hstats : c.statsClock ≤ t.nowAbs ∧ t.nowAbs.toNat ≤ c.statsClock.toNat + δ)
    (hs : c.sendPart t = some c') : (c'.statsPart enc t).2.Inv δ := by
  have hlast : c.lastSendTime ≤ t.now :=
    UInt64.le_trans (UInt64.le_iff_toNat_le.2 h.send.last_le) hsend.1
  obtain ⟨htimer, hbeats⟩ := PacedStream.sendPart_spec hlast hs
  obtain ⟨hread, hsends, hmarks⟩ := h.statsPart_spec enc hstats.1 hs
  have hsendClock : c.sendTimer.now ≤ t.now.toNat := UInt64.le_iff_toNat_le.1 hsend.1
  have hstatsClock : c.statsTimer.now ≤ t.nowAbs.toNat := UInt64.le_iff_toNat_le.1 hstats.1
  refine ⟨?_, ?_, ?_, ?_⟩
  · rw [hsends]
    rcases htimer with hset | hset
    · rw [hset]
      exact h.send.set hsend.2
    · rw [hset]
      exact h.send.read hsendClock hsend.2
  · rw [hread]
    exact h.stats.read hstatsClock hstats.2
  · rw [hread]
    exact h.statsSpaced.read
  · rw [hmarks]
    exact hbeats h.heartbeats

/-- There is nothing to keep without a connection. -/
def PacedSender.Inv (δ : ℕ) (s : PacedSender) : Prop := ∀ c ∈ s.stream, c.Inv δ

theorem PacedStream.Inv.accept (loop : StreamLoop) (now nowAbs : UInt64) :
    PacedStream.Inv δ ⟨loop, now, nowAbs, now, nowAbs, false, [], []⟩ :=
  ⟨Timer.Prompt.start _ _ _, Timer.Prompt.start _ _ _, Timer.Spaced.start _ _,
    List.isChain_singleton _⟩

/-- **Every step keeps the invariant of the clock.** -/
theorem PacedSender.Inv.step (h : s.Inv δ) (hok : Clocked δ s e) (hs : s.step e = some s') :
    s'.Inv δ := by
  revert hs
  rw [PacedSender.step.eq_def]
  cases e with
  | accept now nowAbs =>
    dsimp only
    split
    · rintro ⟨⟩ c hc
      cases hc
      exact PacedStream.Inv.accept _ now nowAbs
    · intro hs
      cases hs
  | turn t =>
    dsimp only
    split
    · intro hs
      cases hs
    · next c hstream =>
      have hclock := hok c hstream
      split
      · rintro ⟨⟩ c hc
        cases hc
      · next c' hsent =>
        rintro ⟨⟩ c hc
        cases hc
        exact (h _ hstream).turn s.enc hclock.1 hclock.2 hsent
  | leave =>
    dsimp only
    split
    · intro hs
      cases hs
    · rintro ⟨⟩ c hc
      cases hc
  | encode =>
    rintro ⟨⟩
    exact h

theorem PacedSender.inv_of_run {enc : DbEncoder}
    (hrun : Run PacedSender.step (Clocked δ) (PacedSender.init enc) es s) : s.Inv δ :=
  hrun.invariant (fun _ hc => by cases hc) fun _ _ _ h hok hs => h.step hok hs

/-- **The stream loop is on time.** Over any connections, frames, answers and failures, if
the clock does not go back and no turn takes longer than `δ`: two sends of a connection that
follow each other are a second and `δ` apart at most, and if the second is a heartbeat,
more than a second; two polls that follow each other are more than two seconds apart, and
two seconds and `δ` at most; and what was read last is no more than a second behind the
last send, and two behind the last poll. -/
theorem stream_paced {enc : DbEncoder}
    (hrun : Run PacedSender.step (Clocked δ) (PacedSender.init enc) es s) :
    ∀ c ∈ s.stream,
      (c.sends.IsChain fun later earlier =>
        later.time.toNat ≤ earlier.time.toNat + 1000000 + δ ∧
          (later.heartbeat = true → earlier.time.toNat + 1000000 < later.time.toNat)) ∧
      (c.polls.IsChain fun later earlier =>
        earlier.toNat + 2000000 < later.toNat ∧ later.toNat ≤ earlier.toNat + 2000000 + δ) ∧
      c.sendClock.toNat ≤ c.lastSendTime.toNat + 1000000 ∧
      c.statsClock.toNat ≤ c.lastStatsTime.toNat + 2000000 := by
  intro c hc
  have hinv := PacedSender.inv_of_run hrun c hc
  have hsends : c.sends.IsChain fun later earlier =>
      later.time.toNat ≤ earlier.time.toNat + 1000000 + δ :=
    (List.isChain_map (l := c.sends) fun mark : StreamMark => mark.time.toNat).1
      hinv.send.isChain
  have hprompt : c.polls.IsChain fun later earlier =>
      later.toNat ≤ earlier.toNat + 2000000 + δ :=
    (List.isChain_map (l := c.polls) UInt64.toNat).1 hinv.stats.isChain
  have hspaced : c.polls.IsChain fun later earlier => earlier.toNat + 2000000 < later.toNat :=
    (List.isChain_map (l := c.polls) UInt64.toNat).1 hinv.statsSpaced
  exact ⟨isChain_and hsends hinv.heartbeats, isChain_and hspaced hprompt,
    hinv.send.now_le, hinv.stats.now_le⟩

/-- A connection whose network is congested: a frame, and then heartbeats only, one every
one and a half seconds. -/
def congestedEvents : List PacedEvent :=
  [.accept 0 0, .turn ⟨some .sent, 500000, true, 500001, none⟩] ++
    (List.range 9).map fun n =>
      .turn ⟨none, UInt64.ofNat (500000 + 1500000 * (n + 1)), true,
        UInt64.ofNat (500001 + 1500000 * (n + 1)), some ⟨100 * (n + 1), 80⟩⟩

/-- The last heartbeat of that connection is late, but no more than a turn. -/
theorem stream_paced_witness :
    ∃ s, Run PacedSender.step (Clocked 1500000) (PacedSender.init firstEncoder) congestedEvents s ∧
      ∃ c ∈ s.stream, c.sends.length = 11 ∧ c.polls.length = 6 ∧
        c.sends.IsChain fun later earlier =>
          later.time.toNat ≤ earlier.time.toNat + 1000000 + 1500000 ∧
            (later.heartbeat = true → earlier.time.toNat + 1000000 < later.time.toNat) := by
  have hrun : Run PacedSender.step (Clocked 1500000) (PacedSender.init firstEncoder)
    congestedEvents _ := run_get (by decide +kernel)
  refine ⟨_, hrun, _, Option.get_mem (by decide +kernel), by decide +kernel, by decide +kernel, ?_⟩
  exact (stream_paced hrun _ (Option.get_mem _)).1

/-! ### The bit rate in time -/

/-- The bit rate of the loop, without the clock. -/
def PacedSender.rate (s : PacedSender) : RateControl := ⟨s.enc, s.stream.map (·.loop)⟩

/-- The connection lasts, and all polls are answered with answers of one kind. -/
def Answered (kind : StreamLoop → DbStreamerStats → Prop) (s : PacedSender) :
    PacedEvent → Prop
  | .turn t => ∀ c ∈ s.stream,
      (c.sendPart t).isSome = true ∧
        (2000000 < t.nowAbs - c.lastStatsTime →
          t.stats.isSome = true ∧ ∀ stats ∈ t.stats, kind c.loop stats)
  | .encode => True
  | .accept _ _ | .leave => False

instance (kind : StreamLoop → DbStreamerStats → Prop)
    [∀ loop stats, Decidable (kind loop stats)] (s : PacedSender) :
    (e : PacedEvent) → Decidable (Answered kind s e)
  | .turn _ => inferInstanceAs (Decidable (∀ _ ∈ s.stream, _))
  | .encode => inferInstanceAs (Decidable True)
  | .accept _ _ | .leave => inferInstanceAs (Decidable False)

/-- **A turn that goes on** polls, or does not, and that is all of it without the clock. -/
theorem PacedStream.rate_turn (enc : DbEncoder) (hs : c.sendPart t = some c') :
    2000000 < t.nowAbs - c.lastStatsTime ∧
        rateStep ⟨enc, some c.loop⟩ (.poll t.stats) =
          some ⟨(c'.statsPart enc t).1, some (c'.statsPart enc t).2.loop⟩ ∧
        (c'.statsPart enc t).2.statsTimer.count = c.statsTimer.count + 1 ∨
      (c'.statsPart enc t).1 = enc ∧ (c'.statsPart enc t).2.loop = c.loop ∧
        (c'.statsPart enc t).2.statsTimer.count = c.statsTimer.count := by
  obtain ⟨hloop, hlast, -, hpolls⟩ := PacedStream.sendPart_stats hs
  rw [PacedStream.statsPart, hlast]
  split
  · next hdue =>
    refine .inl ⟨hdue, ?_, ?_⟩
    · rw [rateStep, hloop]
    · show (c'.polls.map UInt64.toNat).length = (c.pollsBefore.map UInt64.toNat).length + 1
      rw [List.length_map, List.length_map, PacedStream.polls, List.length_cons, hpolls]
  · refine .inr ⟨rfl, hloop, ?_⟩
    show (c'.pollsBefore.map UInt64.toNat).length = (c.pollsBefore.map UInt64.toNat).length
    rw [hpolls]

/-- **Every run is a run without the clock.** -/
theorem PacedSender.rate_run {ok : PacedSender → PacedEvent → Prop} {s₀ : PacedSender}
    (hrun : Run PacedSender.step ok s₀ es s) :
    ∃ rs, Run rateStep (fun _ _ => True) s₀.rate rs s.rate := by
  have hrefine : ∃ rs, Run rateStep (fun _ _ => True) s₀.rate rs s.rate ∧ True := by
    refine hrun.refine PacedSender.rate (H := fun _ _ => True) trivial fun s e s' rs _ _ hs => ?_
    revert hs
    rw [PacedSender.step.eq_def]
    cases e with
    | accept now nowAbs =>
      dsimp only
      split
      · next hnone =>
        rintro ⟨⟩
        refine .inr ⟨.accept, trivial, ?_, trivial⟩
        rw [PacedSender.rate, hnone]
        rfl
      · intro hs
        cases hs
    | turn t =>
      dsimp only
      split
      · intro hs
        cases hs
      · next c hstream =>
        have hrate : s.rate = ⟨s.enc, some c.loop⟩ := by rw [PacedSender.rate, hstream]; rfl
        split
        · rintro ⟨⟩
          refine .inr ⟨.disconnect, trivial, ?_, trivial⟩
          rw [hrate]
          rfl
        · next c' hsent =>
          rintro ⟨⟩
          rcases PacedStream.rate_turn s.enc hsent with ⟨-, hpoll, -⟩ | ⟨henc, hloop, -⟩
          · refine .inr ⟨.poll t.stats, trivial, ?_, trivial⟩
            rw [hrate]
            exact hpoll
          · refine .inl ⟨?_, trivial⟩
            rw [hrate, PacedSender.rate, henc]
            show RateControl.mk s.enc (some (c'.statsPart s.enc t).2.loop) = _
            rw [hloop]
    | leave =>
      dsimp only
      split
      · intro hs
        cases hs
      · next c hstream =>
        rintro ⟨⟩
        refine .inr ⟨.disconnect, trivial, ?_, trivial⟩
        rw [PacedSender.rate, hstream]
        rfl
    | encode =>
      rintro ⟨⟩
      exact .inr ⟨.encode, trivial, rfl, trivial⟩
  obtain ⟨rs, hrate, -⟩ := hrefine
  exact ⟨rs, hrate⟩

/-- What a run with answers of one kind keeps, `rs` being what it has done to the rate: as
many polls as answers, and none of them late. -/
structure PacedSender.Since (δ : ℕ) (c₀ : PacedStream) (s : PacedSender) (rs : List RateEvent) :
    Prop where
  inv : s.Inv δ
  stream : ∃ c ∈ s.stream,
    c.statsTimer.last + c₀.statsTimer.count * (2000000 + δ) ≤
        c₀.statsTimer.last + c.statsTimer.count * (2000000 + δ) ∧
      c.statsTimer.count = c₀.statsTimer.count + rs.countP RateEvent.answered

variable {kind : StreamLoop → DbStreamerStats → Prop} {c₀ : PacedStream} {rs : List RateEvent}

/-- **A step with an answer of the kind.** -/
theorem PacedSender.Since.step (h : s.Since δ c₀ rs)
    (hok : Clocked δ s e ∧ Answered kind s e) (hs : s.step e = some s') :
    s'.rate = s.rate ∧ s'.Since δ c₀ rs ∨
      ∃ r, Only kind s.rate r ∧ rateStep s.rate r = some s'.rate ∧
        s'.Since δ c₀ (rs ++ [r]) := by
  obtain ⟨hclock, hanswer⟩ := hok
  have hinv := h.inv.step hclock hs
  obtain ⟨c, hstream, hlast, hcount⟩ := h.stream
  have hrate : s.rate = ⟨s.enc, some c.loop⟩ := by
    rw [PacedSender.rate, hstream]
    rfl
  cases e with
  | accept now nowAbs => exact absurd hanswer id
  | leave => exact absurd hanswer id
  | encode =>
    cases hs
    refine .inr ⟨.encode, trivial, rfl, hinv, c, hstream, hlast, ?_⟩
    rw [List.countP_append]
    exact hcount
  | turn t =>
    obtain ⟨⟨hsendLe, hsendNow⟩, hstatsLe, hstatsNow⟩ := hclock c hstream
    obtain ⟨hsome, hstats⟩ := hanswer c hstream
    obtain ⟨c', hsent⟩ := Option.isSome_iff_exists.1 hsome
    have hs' : s' = ⟨(c'.statsPart s.enc t).1, some (c'.statsPart s.enc t).2⟩ := by
      rw [PacedSender.step, hstream] at hs
      dsimp only at hs
      rw [hsent] at hs
      exact (Option.some.inj hs).symm
    have hc := h.inv c hstream
    obtain ⟨hread, -⟩ := hc.statsPart_spec s.enc hstatsLe hsent
    have hbound := hc.stats.last_read_le hstatsNow
    rw [← hread] at hbound
    rcases PacedStream.rate_turn s.enc hsent with ⟨hdue, hpoll, hone⟩ | ⟨henc, hloop, hone⟩
    · obtain ⟨hsome, hkind⟩ := hstats hdue
      obtain ⟨stats, hstats⟩ := Option.isSome_iff_exists.1 hsome
      refine .inr ⟨.poll (some stats), ?_, ?_, hinv, ?_⟩
      · rw [hrate]
        rintro loop ⟨⟩
        exact hkind stats hstats
      · rw [hrate, ← hstats, hpoll, hs']
        rfl
      · rw [hs']
        refine ⟨_, rfl, ?_, ?_⟩
        · rw [hone] at hbound ⊢
          rw [Nat.succ_mul] at hbound ⊢
          omega
        · rw [hone, hcount, List.countP_append]
          rfl
    · refine .inl ⟨?_, hinv, ?_⟩
      · rw [hrate, hs', PacedSender.rate, henc]
        show RateControl.mk s.enc (some (c'.statsPart s.enc t).2.loop) = _
        rw [hloop]
      · rw [hs']
        refine ⟨_, rfl, ?_, ?_⟩
        · rw [hone] at hbound ⊢
          omega
        · rw [hone, hcount]

theorem PacedSender.Since.start (h : s.Inv δ) (hstream : c₀ ∈ s.stream) : s.Since δ c₀ [] :=
  ⟨h, c₀, hstream, Nat.le_refl _, rfl⟩

/-- **Time makes answers**: when `n` polls take less than what has passed, there were more
than `n`. -/
theorem PacedSender.Since.le_countP (h : s.Since δ c₀ rs) (h₀ : c₀.Inv δ) (hc : c ∈ s.stream)
    {n : ℕ} (hlong : c₀.statsClock.toNat + n * (2000000 + δ) + 2000000 < c.statsClock.toNat) :
    n + 1 ≤ rs.countP RateEvent.answered := by
  obtain ⟨c', hc', hlast, hcount⟩ := h.stream
  obtain rfl := Option.some.inj (hc'.symm.trans hc)
  have hstart : c₀.statsTimer.last ≤ c₀.statsClock.toNat := h₀.stats.last_le
  have hnow : c'.statsClock.toNat ≤ c'.statsTimer.last + 2000000 := (h.inv c' hc).stats.now_le
  by_contra hfew
  have hmul : rs.countP RateEvent.answered * (2000000 + δ) ≤ n * (2000000 + δ) :=
    Nat.mul_le_mul_right _ (by omega)
  rw [hcount, Nat.add_mul] at hlast
  omega

/-- **The network is answered in time.** From wherever a run has arrived at, as long as the
connection lasts: if all polls tell of congestion, the encoder is at the lower end of the
bit rate once more than six seconds and two turns have passed; if all tell of a healthy
network, it is at 10 Mbps or more after ten seconds and four turns. -/
theorem network_answered {enc : DbEncoder}
    (hrun : Run PacedSender.step (Clocked δ) (PacedSender.init enc) es s) :
    ∀ c ∈ s.stream,
      (∀ later s', Run PacedSender.step (fun s e => Clocked δ s e ∧ Answered Congested s e) s
          later s' → ∀ c' ∈ s'.stream,
        c.statsClock.toNat + 6000000 + 2 * δ < c'.statsClock.toNat →
          s'.enc.bitrateKbps = 5000) ∧
      ∀ later s', Run PacedSender.step (fun s e => Clocked δ s e ∧ Answered Healthy s e) s
          later s' → ∀ c' ∈ s'.stream,
        c.statsClock.toNat + 10000000 + 4 * δ < c'.statsClock.toNat →
          10000 ≤ s'.enc.bitrateKbps := by
  have hinv : s.Inv δ := PacedSender.inv_of_run hrun
  obtain ⟨rs, hrate⟩ := PacedSender.rate_run hrun
  have hrateInv : s.rate.Inv := RateControl.inv_of_run (RateControl.inv_of_none enc) hrate
  intro c hc
  have hloop : c.loop ∈ s.rate.stream := by
    rw [PacedSender.rate, hc]
    rfl
  refine ⟨fun later s' hlater c' hc' hlong => ?_, fun later s' hlater c' hc' hlong => ?_⟩
  · obtain ⟨rs', hrate', hsince⟩ := hlater.refine PacedSender.rate
      (PacedSender.Since.start hinv hc) fun _ _ _ _ h hok hs => h.step hok hs
    obtain ⟨loop, hloop', hiterate⟩ := currentBitrate_of_run
      (fun _ _ hpos h => targetBitrate_of_congested hpos h) hrateInv hloop hrate'
    have hthree := hsince.le_countP (hinv c hc) hc' (n := 2) (by omega)
    rw [iterate_reduced (hrateInv.high _ hloop) hthree] at hiterate
    have hagree := (RateControl.inv_of_run hrateInv hrate').agree loop hloop'
    exact hagree.trans hiterate
  · obtain ⟨rs', hrate', hsince⟩ := hlater.refine PacedSender.rate
      (PacedSender.Since.start hinv hc) fun _ _ _ _ h hok hs => h.step hok hs
    obtain ⟨loop, hloop', hiterate⟩ := currentBitrate_of_run
      (fun _ _ hpos h => targetBitrate_of_healthy hpos h) hrateInv hloop hrate'
    have hfive := hsince.le_countP (hinv c hc) hc' (n := 4) (by omega)
    have hagree : s'.enc.bitrateKbps = loop.currentBitrate :=
      (RateControl.inv_of_run hrateInv hrate').agree loop hloop'
    rw [hagree, hiterate]
    exact le_iterate_raised (hrateInv.low _ hloop) hfive

/-- That connection again: the bit rate is down after nine and a half seconds. -/
theorem network_answered_witness :
    let s := (exec PacedSender.step (Clocked 1500000) (PacedSender.init firstEncoder)
      (congestedEvents.take 2)).get (by decide +kernel)
    let s' := (exec PacedSender.step (fun s e => Clocked 1500000 s e ∧ Answered Congested s e) s
      (congestedEvents.drop 2)).get (by decide +kernel)
    s.enc.bitrateKbps = 15000 ∧ s'.enc.bitrateKbps = 5000 := by
  intro s s'
  have hrun : Run PacedSender.step (Clocked 1500000) (PacedSender.init firstEncoder)
    (congestedEvents.take 2) s := run_get (by decide +kernel)
  have hlater : Run PacedSender.step
    (fun s e => Clocked 1500000 s e ∧ Answered Congested s e) s (congestedEvents.drop 2) s' :=
    run_get (by decide +kernel)
  refine ⟨by decide +kernel, ?_⟩
  exact (network_answered hrun _ (Option.get_mem (by decide +kernel))).1 _ _ hlater _
    (Option.get_mem (by decide +kernel)) (by decide +kernel)

end DisplayBridge
