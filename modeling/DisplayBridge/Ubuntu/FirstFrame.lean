import DisplayBridge.Ubuntu.Sender

/-!
# The first frame of a connection

`main` flushes the ring when a receiver connects, and then forces an IDR picture
“so receiver can start decoding”. This file says when the first frame sent on
every connection is a keyframe (`DisplayBridge.FirstFrameKey`).

Not always: the two steps are apart, and the capture thread runs in between. A
frame that was encoded before the flush is pushed after it; a frame encoded
between the flush and the call is pushed as well
(`DisplayBridge.not_firstFrameKey_between`). And the keyframe itself can be lost on
its way – the encoder gives no bytes, the ring finds no buffer or is full, the
first send times out – and nothing asks for another one.

`DisplayBridge.KeepsFirst` excludes exactly these, step by step, and under it every
connection starts with a keyframe (`DisplayBridge.firstFrameKey_of_run`).

## The invariant

As long as the connection has sent nothing, the first of the frames that wait – in
the ring, or between their encode and their push – is a keyframe; and when none
waits, the next encode is an IDR picture (`DisplayBridge.Sender.FreshOk`).
-/

namespace DisplayBridge

open Runs Circular

/-! ### What is promised -/

/-- **Every connection starts with a keyframe.** -/
def FirstFrameKey (log : List SenderEntry) : Prop :=
  EverySent (fun pre _ entry => lastSent pre = none → entry.isKeyframe = true) log

/-! ### The condition -/

/-- The connection has sent nothing yet. -/
def Sender.Fresh (s : Sender) : Prop := lastSent s.log = none

instance (s : Sender) : Decidable s.Fresh := inferInstanceAs (Decidable (lastSent s.log = none))

/-- The frames that wait to be sent, oldest first, by their keyframe flags. -/
def Sender.waiting (s : Sender) : List Bool :=
  s.ring.queued.map (·.isKeyframe) ++ s.pending.toList.map (·.shot.frame.isKeyframe)

/-- The step does not put another frame before the keyframe of a connection that
has sent nothing, and does not lose that keyframe. -/
def KeepsFirst (s : Sender) : SenderEvent → Prop
  | .flush => ∀ p ∈ s.pending, p.shot.frame.isKeyframe = true
  | .forceIdr => s.enc.HasRoom
  | .encode size =>
    s.Fresh → s.waiting = [] →
      match s.main with
      | .forcing => size = 0 ∨ s.enc.gopPosition = 0
      | .streaming => size ≠ 0
      | _ => True
  | .push pts mallocOk =>
    s.Fresh →
      match s.main with
      | .forcing | .holding _ _ => ¬ s.ring.Full
      | .streaming =>
        ¬ s.ring.Full ∧
          (s.ring.queued = [] → ∀ p ∈ s.pending, Stores (p.push pts, mallocOk))
      | _ => True
  | .send .dropped => ¬ s.Fresh
  | _ => True

instance (s : Sender) (e : SenderEvent) : Decidable (KeepsFirst s e) := by
  cases e with
  | encode size =>
    unfold KeepsFirst
    cases s.main <;> infer_instance
  | push pts mallocOk =>
    unfold KeepsFirst
    cases s.main <;> infer_instance
  | send outcome => cases outcome <;> unfold KeepsFirst <;> infer_instance
  | _ =>
    unfold KeepsFirst
    infer_instance

/-! ### The invariant -/

/-- The first of the waiting frames is a keyframe, if there is one. -/
def KeyFirst (l : List Bool) : Prop := ∀ b, l.head? = some b → b = true

/-- What holds while the connection has sent nothing. -/
def Sender.FreshOk (s : Sender) : Prop :=
  match s.main with
  | .accepting | .flushing => True
  | .forcing => KeyFirst s.waiting
  | .streaming => KeyFirst s.waiting ∧ (s.waiting = [] → s.enc.gopPosition = 0)
  | .holding slot _ =>
    next ringSize slot = s.ring.tail ∧ (s.ring.entries slot).isKeyframe = true

/-- The invariant of the runs that keep their first frame. -/
structure Sender.FirstInv (s : Sender) : Prop where
  wf : s.ring.Wf
  queued_size : ∀ e ∈ s.ring.queued, 0 < e.size
  pending_size : ∀ p ∈ s.pending, 0 < p.size
  interval_pos : 0 < s.enc.idrInterval
  interval_lt : s.enc.idrInterval < 2 ^ 31
  fresh : s.Fresh → s.FreshOk
  first : FirstFrameKey s.log

/-! ### Waiting frames -/

theorem keyFirst_nil : KeyFirst [] := fun _ h => absurd h nofun

/-- One more frame behind the others: it is the first only if there are none. -/
theorem keyFirst_concat {l : List Bool} {b : Bool} (hl : KeyFirst l) (hb : l = [] → b = true) :
    KeyFirst (l ++ [b]) := by
  intro c hc
  cases l with
  | nil =>
    obtain rfl : b = c := Option.some.inj hc
    exact hb rfl
  | cons a l => exact hl c hc

theorem keyFirst_of_append {l₁ l₂ : List Bool} (h : KeyFirst (l₁ ++ l₂)) : KeyFirst l₁ := by
  intro b hb
  cases l₁ with
  | nil => cases hb
  | cons a l₁ => exact h b hb

variable {s : Sender}

/-- A push into a ring that is not full moves its frame from behind the ring into
it, or loses it. -/
theorem queued_push (hwf : s.ring.Wf) (hfull : ¬ s.ring.Full) {p : Pending}
    (hpending : s.pending = some p) (pts : UInt64) (mallocOk : Bool) :
    (ringPush s.ring (p.push pts) mallocOk).1.queued.map (·.isKeyframe) =
      if Stores (p.push pts, mallocOk) then s.waiting else s.ring.queued.map (·.isKeyframe) := by
  obtain ⟨data, hqueued⟩ := queued_ringPush hwf (p.push pts) mallocOk
  have hroom : s.ring.makeRoom = s.ring := if_neg hfull
  rw [hqueued, hroom, Sender.waiting, hpending]
  split
  · rw [List.map_append]
    rfl
  · rfl

/-! ### Each step keeps the invariant -/

theorem Sender.FirstInv.encode (h : s.FirstInv) (hpending : s.pending = none) {size : ℕ}
    (hok : KeepsFirst s (.encode size)) :
    Sender.FirstInv { s with
      enc := (encodeSurface s.enc).2
      count := s.count + 1
      pending := if size = 0 then none else some ⟨⟨s.count, s.enc.nextFrame⟩, size⟩
      log := s.log ++ encodeEntries ⟨s.count, s.enc.nextFrame⟩ size } where
  wf := h.wf
  queued_size := h.queued_size
  pending_size := by
    intro p hp
    obtain ⟨hsize, hp⟩ := Option.ite_none_left_eq_some.1 hp
    obtain rfl : (⟨⟨s.count, s.enc.nextFrame⟩, size⟩ : Pending) = p := Option.some.inj hp
    exact Nat.pos_of_ne_zero hsize
  interval_pos := h.interval_pos
  interval_lt := h.interval_lt
  fresh := by
    intro hfresh
    have hfresh' : s.Fresh := (lastSent_append (quiet_encodeEntries _ _)).symm.trans hfresh
    have hold := h.fresh hfresh'
    have hidr : s.enc.gopPosition = 0 → s.enc.nextFrame.isKeyframe = true := decide_eq_true
    have hwaiting : s.waiting = s.ring.queued.map (·.isKeyframe) := by
      rw [Sender.waiting, hpending]
      exact List.append_nil _
    specialize hok hfresh'
    rw [Sender.FreshOk] at hold ⊢
    by_cases hsize : size = 0
    · -- nothing is added to the frames that wait
      simp only [Sender.waiting, if_pos hsize, Option.toList_none, List.map_nil, List.append_nil]
      rw [← hwaiting]
      cases hmain : s.main with
      | streaming =>
        rw [hmain] at hold hok
        exact ⟨hold.1, fun hempty => absurd hsize (hok hempty)⟩
      | accepting => trivial
      | flushing => trivial
      | forcing => rwa [hmain] at hold
      | holding slot popped => rwa [hmain] at hold
    · simp only [Sender.waiting, if_neg hsize, Option.toList_some, List.map_cons, List.map_nil]
      rw [← hwaiting]
      cases hmain : s.main with
      | forcing =>
        rw [hmain] at hold hok
        exact keyFirst_concat hold fun hempty => hidr ((hok hempty).resolve_left hsize)
      | streaming =>
        rw [hmain] at hold
        exact ⟨keyFirst_concat hold.1 fun hempty => hidr (hold.2 hempty), by simp⟩
      | accepting => trivial
      | flushing => trivial
      | holding slot popped => rwa [hmain] at hold
  first := everySent_append (quiet_encodeEntries _ _) h.first

theorem Sender.FirstInv.push (h : s.FirstInv) {p : Pending} (hpending : s.pending = some p)
    {pts : UInt64} {mallocOk : Bool} (hok : KeepsFirst s (.push pts mallocOk)) :
    Sender.FirstInv { s with
      pending := none
      ring := (ringPush s.ring (p.push pts) mallocOk).1
      log := s.log ++ pushLosses s.ring (p.push pts) mallocOk } where
  wf := wf_ringPush h.wf _ _
  queued_size := by
    obtain ⟨data, hqueued⟩ := queued_ringPush h.wf (p.push pts) mallocOk
    intro e he
    rw [hqueued] at he
    split at he
    · rcases List.mem_append.1 he with he | he
      · exact h.queued_size e (mem_queued_of_makeRoom h.wf he)
      · rw [List.mem_singleton] at he
        subst he
        exact h.pending_size p hpending
    · exact h.queued_size e (mem_queued_of_makeRoom h.wf he)
  pending_size := by
    intro q hq
    cases hq
  interval_pos := h.interval_pos
  interval_lt := h.interval_lt
  fresh := by
    intro hfresh
    have hfresh' : s.Fresh := (lastSent_append (quiet_pushLosses _ _ _)).symm.trans hfresh
    have hold := h.fresh hfresh'
    specialize hok hfresh'
    rw [Sender.FreshOk] at hold ⊢
    simp only [Sender.waiting, Option.toList_none, List.map_nil, List.append_nil]
    cases hmain : s.main with
    | accepting => trivial
    | flushing => trivial
    | forcing =>
      rw [hmain] at hold hok
      change KeyFirst (List.map _ _)
      rw [queued_push h.wf hok hpending]
      split
      · exact hold
      · exact keyFirst_of_append hold
    | streaming =>
      rw [hmain] at hold hok
      obtain ⟨hfull, hstores⟩ := hok
      change KeyFirst (List.map _ _) ∧ (List.map _ _ = [] → _)
      rw [queued_push h.wf hfull hpending]
      split
      · exact hold
      · next hlost =>
        refine ⟨keyFirst_of_append hold.1, fun hempty => ?_⟩
        -- a frame that is lost was not the only one
        exact absurd (hstores (List.map_eq_nil_iff.1 hempty) p hpending) hlost
    | holding slot popped =>
      rw [hmain] at hold hok
      obtain ⟨hentry, htail⟩ := ringPush_popped hold.1 hok (p.push pts) mallocOk
      exact ⟨hold.1.trans htail.symm, by rw [hentry]; exact hold.2⟩
  first := everySent_append (quiet_pushLosses _ _ _) h.first

theorem Sender.FirstInv.accept (h : s.FirstInv) :
    Sender.FirstInv { s with main := .flushing, log := s.log ++ [.accepted] } where
  wf := h.wf
  queued_size := h.queued_size
  pending_size := h.pending_size
  interval_pos := h.interval_pos
  interval_lt := h.interval_lt
  fresh _ := trivial
  first := everySent_accepted h.first

theorem Sender.FirstInv.flush (h : s.FirstInv) (hok : KeepsFirst s .flush) :
    Sender.FirstInv { s with ring := ringFlush s.ring, main := .forcing } where
  wf := wf_ringFlush h.wf
  queued_size := by
    intro e he
    rw [queued_ringFlush h.wf] at he
    cases he
  pending_size := h.pending_size
  interval_pos := h.interval_pos
  interval_lt := h.interval_lt
  fresh _ := by
    change KeyFirst _
    rw [Sender.waiting]
    simp only [queued_ringFlush h.wf, List.map_nil, List.nil_append]
    cases hpending : s.pending with
    | none => exact keyFirst_nil
    | some p =>
      intro b hb
      obtain rfl : p.shot.frame.isKeyframe = b := Option.some.inj hb
      exact hok p hpending
  first := h.first

theorem Sender.FirstInv.forceIdr (h : s.FirstInv) (hmain : s.main = .forcing)
    (hok : KeepsFirst s .forceIdr) :
    Sender.FirstInv { s with enc := dbEncoderForceIdr s.enc, main := .streaming } := by
  have hzero := gopPosition_forceIdr h.interval_pos h.interval_lt hok
  obtain ⟨frameCount, heq⟩ := forceIdr_eq s.enc
  rw [heq] at hzero ⊢
  exact {
    wf := h.wf
    queued_size := h.queued_size
    pending_size := h.pending_size
    interval_pos := h.interval_pos
    interval_lt := h.interval_lt
    fresh := by
      intro hfresh
      have hold := h.fresh hfresh
      rw [Sender.FreshOk, hmain] at hold
      exact ⟨hold, fun _ => hzero⟩
    first := h.first }

theorem Sender.FirstInv.pop (h : s.FirstInv) (hmain : s.main = .streaming)
    {ring : RingBuffer Shot} {slot : ℕ} (hpop : ringPop s.ring = (ring, some slot)) :
    Sender.FirstInv { s with ring := ring, main := .holding slot (ring.entries slot) } := by
  obtain ⟨hqueued, hslot, hwf⟩ := ringPop_eq_some h.wf hpop
  exact {
    wf := hwf
    queued_size := fun e he => h.queued_size e (hqueued ▸ List.mem_cons_of_mem _ he)
    pending_size := h.pending_size
    interval_pos := h.interval_pos
    interval_lt := h.interval_lt
    fresh := by
      intro hfresh
      have hold := h.fresh hfresh
      rw [Sender.FreshOk, hmain] at hold
      refine ⟨hslot, hold.1 _ ?_⟩
      rw [Sender.waiting, hqueued]
      rfl
    first := h.first }

theorem Sender.FirstInv.sent (h : s.FirstInv) {slot : ℕ} {popped : RingEntry Shot}
    (hmain : s.main = .holding slot popped) :
    Sender.FirstInv { s with
      main := .streaming, log := s.log ++ [.sent popped (s.ring.entries slot)] } where
  wf := h.wf
  queued_size := h.queued_size
  pending_size := h.pending_size
  interval_pos := h.interval_pos
  interval_lt := h.interval_lt
  fresh := by
    intro hfresh
    rw [Sender.Fresh, lastSent_sent] at hfresh
    cases hfresh
  first := by
    refine everySent_sent (fun hfresh => ?_) h.first
    have hold := h.fresh hfresh
    rw [Sender.FreshOk, hmain] at hold
    exact hold.2

/-- A send that fails is no harm if the connection has sent something, or has ended
with it. -/
theorem Sender.FirstInv.lost (h : s.FirstInv) (popped : RingEntry Shot) {main : MainPc}
    (hok : s.Fresh → main = .accepting) :
    Sender.FirstInv { s with main := main, log := s.log ++ [.lost popped .failedSend] } where
  wf := h.wf
  queued_size := h.queued_size
  pending_size := h.pending_size
  interval_pos := h.interval_pos
  interval_lt := h.interval_lt
  fresh := by
    intro hfresh
    obtain rfl := hok ((lastSent_append (quiet_lost popped .failedSend)).symm.trans hfresh)
    trivial
  first := everySent_append (quiet_lost popped .failedSend) h.first

/-- **The step lemma.** -/
theorem Sender.FirstInv.step (h : s.FirstInv) {event : SenderEvent} (hok : KeepsFirst s event)
    {s' : Sender} (hstep : senderStep s event = some s') : s'.FirstInv := by
  cases moves_of_step hstep with
  | encode size hpending => exact h.encode hpending hok
  | push pts mallocOk hpending => exact h.push hpending hok
  | accept hmain => exact h.accept
  | flush hmain => exact h.flush hok
  | forceIdr hmain => exact h.forceIdr hmain hok
  | popNothing hmain hpop =>
    obtain ⟨-, rfl⟩ := ringPop_eq_none h.wf hpop
    exact h
  | popEmpty hmain hpop hsize =>
    -- no entry without bytes is ever queued
    have hqueued := (ringPop_eq_some h.wf hpop).1
    exact absurd (h.queued_size _ (hqueued ▸ List.mem_cons_self)) hsize
  | pop hmain hpop hsize => exact h.pop hmain hpop
  | sent hmain hsize => exact h.sent hmain
  | dropped hmain => exact h.lost _ fun hfresh => absurd hfresh hok
  | broken hmain => exact h.lost _ fun _ => rfl
  | disconnect hmain =>
    exact ⟨h.wf, h.queued_size, h.pending_size, h.interval_pos, h.interval_lt,
      fun _ => trivial, h.first⟩

/-! ### Runs -/

theorem Sender.firstInv_init {enc : DbEncoder} (hpos : 0 < enc.idrInterval)
    (hlt : enc.idrInterval < 2 ^ 31) (buffers : ℕ → Bool) :
    (Sender.init enc buffers).FirstInv where
  wf := ⟨Nat.zero_lt_succ _, Nat.zero_lt_succ _⟩
  queued_size e he := absurd (queued_ringInit buffers ▸ he) List.not_mem_nil
  pending_size p hp := absurd hp nofun
  interval_pos := hpos
  interval_lt := hlt
  fresh _ := trivial
  first pre a post hlog := absurd hlog.symm (by simp [Sender.init])

/-- **Every connection starts with a keyframe**, in every run that keeps its first
frame. -/
theorem firstFrameKey_of_run {width height bitrateKbps fps : ℤ} {surfaces : List VASurfaceID}
    {codedBuf : UInt32} {buffers : ℕ → Bool} (hfps : 1 ≤ fps) (hfps' : fps * 2 < 2 ^ 31)
    {events : List SenderEvent} {s : Sender}
    (hrun : Run senderStep KeepsFirst
      (Sender.init (dbEncoderInit width height bitrateKbps fps surfaces codedBuf) buffers)
      events s) :
    FirstFrameKey s.log := by
  have hpos : 0 < (dbEncoderInit width height bitrateKbps fps surfaces codedBuf).idrInterval := by
    change 0 < fps * 2
    omega
  have hinv : s.FirstInv := hrun.invariant (Sender.firstInv_init hpos hfps' buffers)
    fun _ _ _ h hok hstep => h.step hok hstep
  exact hinv.first

/-- A connection that keeps its first frame, and sends it. -/
theorem firstFrameKey_prompt :
    ∃ s, Run senderStep KeepsFirst (Sender.init firstEncoder fun _ => true)
        [.accept, .flush, .forceIdr, .encode 100, .push 0 true, .pop, .send .sent] s ∧
      FirstFrameKey s.log := by
  have hrun := run_get (by decide +kernel : (exec senderStep KeepsFirst
    (Sender.init firstEncoder fun _ => true)
    [.accept, .flush, .forceIdr, .encode 100, .push 0 true, .pop, .send .sent]).isSome = true)
  exact ⟨_, hrun, firstFrameKey_of_run (by decide) (by decide) hrun⟩

/-- An encoded frame that is pushed between the flush and the forced IDR picture of
a connection. The encoder has encoded one frame before. -/
def pushBetween : List SenderEvent :=
  [.encode 100, .push 0 true, .accept, .flush, .encode 100, .push 1 true, .forceIdr, .pop,
    .send .sent]

/-- The entry that frame is stored as, and sent. -/
def entryBetween : RingEntry Shot :=
  ⟨some slotBytes, some ⟨1, (firstEncoder.advance 0).nextFrame⟩, 100, 1, false⟩

theorem log_pushBetween :
    (exec senderStep (fun _ _ => True) (Sender.init firstEncoder fun _ => true)
      pushBetween).map (·.log) =
      some ([.encoded ⟨0, firstEncoder.nextFrame⟩, .accepted,
        .encoded ⟨1, (firstEncoder.advance 0).nextFrame⟩] ++
          .sent entryBetween entryBetween :: []) := by
  decide +kernel

/-- **A frame between the flush and the forced IDR picture comes first**, and it
may be a P frame. -/
theorem not_firstFrameKey_between :
    ∃ s, Run senderStep (fun _ _ => True) (Sender.init firstEncoder fun _ => true)
        pushBetween s ∧ ¬ FirstFrameKey s.log := by
  obtain ⟨s, hs, hlog⟩ := Option.map_eq_some_iff.1 log_pushBetween
  refine ⟨s, run_of_exec hs, fun hkey => ?_⟩
  have hfirst : false = true := hkey _ _ _ hlog entryBetween entryBetween rfl rfl
  cases hfirst

end DisplayBridge
