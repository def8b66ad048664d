import DisplayBridge.Lib.LossyLine
import DisplayBridge.Ubuntu.Sender

/-!
# What a sent frame was predicted from

A frame that is not a keyframe was predicted from the frame encoded just before it.
The receiver can decode it only if it has that frame, but the sender drops frames –
when the encoder gives no bytes, when the ring finds no buffer or is full, when a
send times out – and does not ask for a keyframe when it has dropped one. So the
frame sent before is not always the one it was predicted from
(`DisplayBridge.not_referenceUnbroken_after_drop`).

What does hold, in every run: between two frames that are sent one after the other
on a connection, all that were encoded were lost, at one of these four places; and
the reference of the second is either the first or one of these
(`DisplayBridge.referencesSentOrLost_of_run`). In particular, where nothing was lost the
reference is the frame sent before. This is said of frames that were sent as they
were popped; the ring does not ensure that.

## The proof

Two things that have little to do with each other. The encoder predicts from its own
last picture, whatever becomes of it (`DisplayBridge.DbEncoder.Predicts`). And the
ring, with the two threads at its ends, is a line that loses items
(`DisplayBridge.Sender.Follows`): every step of the sender is one or two operations
of `Lossy.Line`, on the numbers of the frames.
-/

namespace DisplayBridge

open Runs

/-! ### What is promised -/

/-- The frames that were encoded, in order. -/
def shots (log : List SenderEntry) : List Shot :=
  log.filterMap fun a =>
    match a with
    | .encoded shot => some shot
    | _ => none

/-- The frame was lost. -/
def LostShot (log : List SenderEntry) (shot : Shot) : Prop :=
  ∃ entry why, SenderEntry.lost entry why ∈ log ∧ entry.content = some shot

/-- A frame names the surface another one was reconstructed on as its reference. -/
def EncodedFrame.PredictedFrom (f reference : EncodedFrame) : Prop :=
  ∃ poc, f.Names ⟨reference.surface, poc, vaPictureHevcRpsStCurrBefore⟩

/-- **The chain of references is not broken**: a frame that is sent, and is not a
keyframe, was predicted from the frame sent before it on the connection. -/
def ReferenceUnbroken (log : List SenderEntry) : Prop :=
  EverySent (fun pre _ entry => ∀ poppedF entryF, lastSent pre = some (poppedF, entryF) →
    entry.isKeyframe = false → ∃ F G, entryF.content = some F ∧ entry.content = some G ∧
      G.frame.PredictedFrom F.frame) log

/-- What two frames that are sent one after the other have to do with each other.
All that were encoded between them were lost, and the second, if it is not a
keyframe, was predicted from the one encoded just before it – which is the first,
or was lost. -/
structure ChainKept (log : List SenderEntry) (F G : Shot) : Prop where
  later : F.serial < G.serial
  first : (shots log)[F.serial]? = some F
  second : (shots log)[G.serial]? = some G
  between : ∀ n, F.serial < n → n < G.serial →
    ∃ shot, (shots log)[n]? = some shot ∧ LostShot log shot
  reference : G.frame.isKeyframe = false →
    ∃ P, (shots log)[G.serial - 1]? = some P ∧ G.frame.PredictedFrom P.frame ∧
      (P = F ∨ LostShot log P)

/-- **References are sent or lost**: `DisplayBridge.ChainKept` for every two frames
that are sent one after the other on a connection, as they were popped. -/
def ReferencesSentOrLost (log : List SenderEntry) : Prop :=
  EverySent (fun pre popped entry => popped = entry → ∀ poppedF entryF,
    lastSent pre = some (poppedF, entryF) → poppedF = entryF →
      ∃ F G, entryF.content = some F ∧ entry.content = some G ∧
        entry.isKeyframe = G.frame.isKeyframe ∧ ChainKept pre F G) log

/-! ### Longer histories -/

variable {log l : List SenderEntry}

theorem shots_append : shots (log ++ l) = shots log ++ shots l := List.filterMap_append

theorem shots_append_left {n : ℕ} {shot : Shot} (h : (shots log)[n]? = some shot) :
    (shots (log ++ l))[n]? = some shot := by
  have hlt : n < (shots log).length := (List.getElem?_eq_some_iff.1 h).1
  rw [shots_append, List.getElem?_append_left hlt]
  exact h

theorem LostShot.append {shot : Shot} (h : LostShot log shot) : LostShot (log ++ l) shot := by
  obtain ⟨entry, why, hmem, hcontent⟩ := h
  exact ⟨entry, why, List.mem_append_left _ hmem, hcontent⟩

theorem LostShot.append_right {shot : Shot} (h : LostShot l shot) : LostShot (log ++ l) shot := by
  obtain ⟨entry, why, hmem, hcontent⟩ := h
  exact ⟨entry, why, List.mem_append_right _ hmem, hcontent⟩

/-- A frame without bytes is lost. -/
theorem lostShot_encodeEntries (shot : Shot) : LostShot (encodeEntries shot 0) shot :=
  ⟨_, _, List.mem_cons_of_mem _ List.mem_cons_self, rfl⟩

/-- The oldest entry of a full ring is lost. -/
theorem lostShot_of_full {ring : RingBuffer Shot} (hfull : ring.Full) {e : RingEntry Shot}
    (he : ring.queued.head? = some e) {shot : Shot} (hshot : e.content = some shot)
    (f : Frame Shot) (mallocOk : Bool) : LostShot (pushLosses ring f mallocOk) shot := by
  refine ⟨e, .dropOldest, List.mem_append_left _ ?_, hshot⟩
  rw [if_pos hfull, he]
  exact List.mem_cons_self

/-- A frame that is not stored is lost. -/
theorem lostShot_of_not_stores {f : Frame Shot} {mallocOk : Bool} (hlost : ¬ Stores (f, mallocOk))
    (ring : RingBuffer Shot) : LostShot (pushLosses ring f mallocOk) f.data := by
  refine ⟨f.entry none, .failedPush, List.mem_append_right _ ?_, rfl⟩
  rw [if_neg hlost]
  exact List.mem_cons_self

theorem shots_encodeEntries (shot : Shot) (size : ℕ) :
    shots (encodeEntries shot size) = [shot] := by
  rw [encodeEntries]
  by_cases hsize : size = 0
  · rw [if_pos hsize]
    rfl
  · rw [if_neg hsize]
    rfl

theorem shots_pushLosses (ring : RingBuffer Shot) (f : Frame Shot) (mallocOk : Bool) :
    shots (pushLosses ring f mallocOk) = [] := by
  rw [shots, List.filterMap_eq_nil_iff]
  intro a ha
  obtain ⟨entry, why, rfl⟩ := eq_lost_of_mem_pushLosses ha
  rfl

/-! ### The encoder predicts from its own last picture -/

/-- The surface before the next one is that of the last frame, and every frame that
is not a keyframe names the frame before it. -/
structure DbEncoder.Predicts (enc : DbEncoder) (frames : List Shot) : Prop where
  pool : enc.numReconSurfaces = dbEncoderSurfacePool
  index : enc.currentReconIdx < dbEncoderSurfacePool
  valid : ∀ i < dbEncoderSurfacePool, enc.surfaceAt i ≠ vaInvalidId
  start : frames = [] → enc.gopPosition = 0
  last : ∀ P, frames.getLast? = some P → enc.surfaceAt enc.prevRecon = P.frame.surface
  predicted : ∀ n G, frames[n]? = some G → G.frame.isKeyframe = false →
    0 < n ∧ ∃ P, frames[n - 1]? = some P ∧ G.frame.PredictedFrom P.frame

variable {enc : DbEncoder} {frames : List Shot}

theorem DbEncoder.Predicts.encode (h : enc.Predicts frames) (serial : ℕ) :
    (encodeSurface enc).2.Predicts (frames ++ [⟨serial, enc.nextFrame⟩]) where
  pool := h.pool
  index := by
    change (enc.currentReconIdx + 1) % enc.numReconSurfaces < dbEncoderSurfacePool
    rw [h.pool]
    exact Nat.mod_lt _ (by decide)
  valid := h.valid
  start hnil := absurd hnil (List.append_ne_nil_of_right_ne_nil _ (List.cons_ne_nil _ _))
  last := by
    intro P hP
    rw [List.getLast?_concat] at hP
    obtain rfl : (⟨serial, enc.nextFrame⟩ : Shot) = P := Option.some.inj hP
    have hprev : (encodeSurface enc).2.prevRecon = enc.currentReconIdx :=
      prevRecon_advance h.pool h.index
    rw [hprev]
    rfl
  predicted := by
    intro n G hG hkey
    rcases lt_or_ge n frames.length with hlt | hge
    · rw [List.getElem?_append_left hlt] at hG
      obtain ⟨hpos, P, hP, hpred⟩ := h.predicted n G hG hkey
      refine ⟨hpos, P, ?_, hpred⟩
      rw [List.getElem?_append_left (by omega)]
      exact hP
    · -- the new frame: it is no IDR picture, so it is not the first
      rw [List.getElem?_append_right hge, List.getElem?_singleton] at hG
      split at hG
      · next hn =>
        obtain rfl : (⟨serial, enc.nextFrame⟩ : Shot) = G := Option.some.inj hG
        have hne : frames ≠ [] := by
          intro hnil
          have hidr : enc.nextFrame.isKeyframe = true := decide_eq_true (h.start hnil)
          exact absurd (hidr.symm.trans hkey) nofun
        have hpos : 0 < frames.length := List.length_pos_of_ne_nil hne
        have hlast := List.getLast?_eq_some_getLast hne
        have hlt : enc.prevRecon < dbEncoderSurfacePool := by
          rw [DbEncoder.prevRecon, h.pool]
          exact Nat.mod_lt _ (by decide)
        have hnames := names_nextFrame hkey (h.valid _ hlt)
        rw [h.last _ hlast] at hnames
        refine ⟨by omega, frames.getLast hne, ?_, _, hnames⟩
        rw [List.getElem?_append_left (by omega), show n - 1 = frames.length - 1 by omega,
          ← List.getLast?_eq_getElem?]
        exact hlast
      · cases hG

theorem DbEncoder.Predicts.forceIdr (h : enc.Predicts frames) :
    (dbEncoderForceIdr enc).Predicts frames := by
  obtain ⟨frameCount, heq⟩ := forceIdr_eq enc
  refine ⟨?_, ?_, ?_, ?_, ?_, h.predicted⟩
  · rw [heq]
    exact h.pool
  · rw [heq]
    exact h.index
  · rw [heq]
    exact h.valid
  · intro hnil
    have hzero := h.start hnil
    have hsame : dbEncoderForceIdr enc = enc := if_neg (not_not.2 hzero)
    rw [hsame]
    exact hzero
  · rw [heq]
    exact h.last

/-! ### The sender is a line -/

/-- The entry the main thread holds. -/
def MainPc.held : MainPc → List (RingEntry Shot)
  | .holding _ popped => [popped]
  | _ => []

/-- The numbers of the frames some entries carry. -/
def numbers (entries : List (RingEntry Shot)) : List ℕ :=
  entries.filterMap (·.content.map (·.serial))

/-- The numbers of the frames on their way, oldest first. -/
def Sender.line (s : Sender) : List ℕ :=
  numbers (s.main.held ++ s.ring.queued) ++ s.pending.toList.map (·.shot.serial)

/-- The number of the frame sent last. -/
def lastSerial (log : List SenderEntry) : Option ℕ :=
  (lastSent log).bind fun p => p.1.content.map (·.serial)

/-- The frame with a number was lost. -/
def LostAt (log : List SenderEntry) (n : ℕ) : Prop :=
  ∃ shot, (shots log)[n]? = some shot ∧ LostShot log shot

/-- The sender is in the state of the line. -/
structure Sender.Follows (s : Sender) (L : Lossy.Line) : Prop where
  count : L.count = s.count
  waiting : L.waiting = s.line
  mark : L.mark = lastSerial s.log
  lost : ∀ n ∈ L.lost, LostAt s.log n

theorem numbers_append (entries entries' : List (RingEntry Shot)) :
    numbers (entries ++ entries') = numbers entries ++ numbers entries' := List.filterMap_append

theorem LostAt.append {n : ℕ} (h : LostAt log n) : LostAt (log ++ l) n := by
  obtain ⟨shot, hshot, hlost⟩ := h
  exact ⟨shot, shots_append_left hshot, hlost.append⟩

theorem lastSerial_append (h : ∀ a ∈ l, a.Quiet) : lastSerial (log ++ l) = lastSerial log := by
  rw [lastSerial, lastSent_append h]
  rfl

/-! ### The invariant -/

/-- An entry carries a frame that was encoded. -/
def Carried (log : List SenderEntry) (e : RingEntry Shot) : Prop :=
  ∃ shot, e.content = some shot ∧ e.isKeyframe = shot.frame.isKeyframe ∧
    (shots log)[shot.serial]? = some shot

theorem Carried.append {e : RingEntry Shot} (h : Carried log e) : Carried (log ++ l) e := by
  obtain ⟨shot, hcontent, hkey, hshot⟩ := h
  exact ⟨shot, hcontent, hkey, shots_append_left hshot⟩

/-- The invariant of all runs. -/
structure Sender.ChainInv (s : Sender) : Prop where
  wf : s.ring.Wf
  queued : ∀ e ∈ s.ring.queued, 0 < e.size ∧ Carried s.log e
  held : ∀ e ∈ s.main.held, Carried s.log e
  pending : ∀ p ∈ s.pending, 0 < p.size ∧ (shots s.log)[p.shot.serial]? = some p.shot
  sent : ∀ p ∈ lastSent s.log, Carried s.log p.1
  fresh : s.main = .flushing → lastSent s.log = none
  count : (shots s.log).length = s.count
  predicts : s.enc.Predicts (shots s.log)
  line : ∃ L, s.Follows L
  kept : ReferencesSentOrLost s.log

variable {s : Sender}

/-- What the main thread holds is the front of the line. -/
theorem line_of_holding {slot : ℕ} {popped : RingEntry Shot} (hmain : s.main = .holding slot popped)
    {shot : Shot} (hcontent : popped.content = some shot) :
    s.line = shot.serial :: (numbers s.ring.queued ++ s.pending.toList.map (·.shot.serial)) := by
  have hhead : numbers [popped] = [shot.serial] := by simp [numbers, hcontent]
  rw [Sender.line, hmain, MainPc.held, numbers_append, hhead, List.append_assoc]
  rfl

/-- A history that grows by no frame: what waits is still encoded, and the encoder
predicts as before. -/
theorem Sender.ChainInv.grown (h : s.ChainInv) (hl : shots l = []) :
    (∀ e ∈ s.ring.queued, 0 < e.size ∧ Carried (s.log ++ l) e) ∧
      (∀ p ∈ s.pending, 0 < p.size ∧ (shots (s.log ++ l))[p.shot.serial]? = some p.shot) ∧
      (shots (s.log ++ l)).length = s.count ∧ s.enc.Predicts (shots (s.log ++ l)) := by
  have hshots : shots (s.log ++ l) = shots s.log := by
    rw [shots_append, hl, List.append_nil]
  refine ⟨fun e he => ⟨(h.queued e he).1, (h.queued e he).2.append⟩, ?_, ?_, ?_⟩
  · rw [hshots]
    exact h.pending
  · rw [hshots]
    exact h.count
  · rw [hshots]
    exact h.predicts

/-- What the main thread holds was encoded. -/
theorem Sender.ChainInv.carried_popped (h : s.ChainInv) {slot : ℕ} {popped : RingEntry Shot}
    (hmain : s.main = .holding slot popped) : Carried s.log popped := by
  have hheld : popped ∈ s.main.held := by
    rw [hmain]
    exact List.mem_cons_self
  exact h.held popped hheld

/-! ### A push, on the line -/

theorem sublist_queued_makeRoom {ring : RingBuffer Shot} (hwf : ring.Wf) :
    ring.makeRoom.queued.Sublist ring.queued := by
  rw [queued_makeRoom hwf]
  split
  · exact List.tail_sublist _
  · exact List.Sublist.refl _

theorem mem_queued_or_head {ring : RingBuffer Shot} (hwf : ring.Wf) {e : RingEntry Shot}
    (he : e ∈ ring.queued) :
    e ∈ ring.makeRoom.queued ∨ ring.Full ∧ ring.queued.head? = some e := by
  rw [queued_makeRoom hwf]
  split
  · next hfull =>
    cases hqueued : ring.queued with
    | nil =>
      rw [hqueued] at he
      cases he
    | cons a l =>
      rw [hqueued] at he
      rcases List.mem_cons.1 he with rfl | he
      · exact .inr ⟨hfull, rfl⟩
      · exact .inl he
  · exact .inl he

/-- A push moves its frame within the line, and may lose it, or the oldest one in
the ring. -/
theorem Sender.Follows.push {L : Lossy.Line} (hL : s.Follows L) (hwf : s.ring.Wf) {p : Pending}
    (hpending : s.pending = some p) (hshot : (shots s.log)[p.shot.serial]? = some p.shot)
    (hcarried : ∀ e ∈ s.ring.queued, Carried s.log e) (pts : UInt64) (mallocOk : Bool) :
    ∃ L, Sender.Follows { s with
      pending := none
      ring := (ringPush s.ring (p.push pts) mallocOk).1
      log := s.log ++ pushLosses s.ring (p.push pts) mallocOk } L := by
  obtain ⟨data, hqueued⟩ := queued_ringPush hwf (p.push pts) mallocOk
  have hold : s.line =
      numbers s.main.held ++ (numbers s.ring.queued ++ [p.shot.serial]) := by
    rw [Sender.line, hpending, numbers_append, List.append_assoc]
    rfl
  have hnew : Sender.line { s with
      pending := none
      ring := (ringPush s.ring (p.push pts) mallocOk).1
      log := s.log ++ pushLosses s.ring (p.push pts) mallocOk } =
      numbers s.main.held ++ (numbers s.ring.makeRoom.queued ++
        if Stores (p.push pts, mallocOk) then [p.shot.serial] else []) := by
    simp only [Sender.line, Option.toList_none, List.map_nil, List.append_nil]
    rw [hqueued, numbers_append]
    split
    · rw [numbers_append]
      rfl
    · rw [List.append_nil]
  have hroom : (numbers s.ring.makeRoom.queued).Sublist (numbers s.ring.queued) :=
    (sublist_queued_makeRoom hwf).filterMap _
  have hlast : (if Stores (p.push pts, mallocOk) then [p.shot.serial] else []).Sublist
      [p.shot.serial] := by
    split
    · exact List.Sublist.refl _
    · exact List.nil_sublist _
  have hsub := (List.Sublist.refl (numbers s.main.held)).append (hroom.append hlast)
  rw [← hold, ← hL.waiting] at hsub
  refine ⟨L.lose hsub, hL.count, hnew.symm,
    hL.mark.trans (lastSerial_append (quiet_pushLosses _ _ _)).symm, ?_⟩
  rintro n (hn | ⟨hn, hnot⟩)
  · exact (hL.lost n hn).append
  · rw [hL.waiting, hold] at hn
    rcases List.mem_append.1 hn with hn | hn
    · exact absurd (List.mem_append_left _ hn) hnot
    · rcases List.mem_append.1 hn with hn | hn
      · obtain ⟨e, he, hserial⟩ := List.mem_filterMap.1 hn
        rcases mem_queued_or_head hwf he with he' | ⟨hfull, hhead⟩
        · have hmem : n ∈ numbers s.ring.makeRoom.queued :=
            List.mem_filterMap.2 ⟨e, he', hserial⟩
          exact absurd (List.mem_append_right _ (List.mem_append_left _ hmem)) hnot
        · obtain ⟨shot, hcontent, -, hencoded⟩ := hcarried e he
          rw [hcontent] at hserial
          obtain rfl : shot.serial = n := Option.some.inj hserial
          exact ⟨shot, shots_append_left hencoded,
            (lostShot_of_full hfull hhead hcontent _ _).append_right⟩
      · obtain rfl := List.mem_singleton.1 hn
        by_cases hstores : Stores (p.push pts, mallocOk)
        · rw [if_pos hstores] at hnot
          exact absurd (List.mem_append_right _ (List.mem_append_right _ List.mem_cons_self)) hnot
        · exact ⟨p.shot, shots_append_left hshot,
            (lostShot_of_not_stores hstores s.ring).append_right⟩

/-! ### Each step keeps the invariant -/

theorem Sender.ChainInv.encode (h : s.ChainInv) (hpending : s.pending = none) (size : ℕ) :
    Sender.ChainInv { s with
      enc := (encodeSurface s.enc).2
      count := s.count + 1
      pending := if size = 0 then none else some ⟨⟨s.count, s.enc.nextFrame⟩, size⟩
      log := s.log ++ encodeEntries ⟨s.count, s.enc.nextFrame⟩ size } := by
  have hquiet := quiet_encodeEntries ⟨s.count, s.enc.nextFrame⟩ size
  have hshots : shots (s.log ++ encodeEntries ⟨s.count, s.enc.nextFrame⟩ size) =
      shots s.log ++ [⟨s.count, s.enc.nextFrame⟩] := by
    rw [shots_append, shots_encodeEntries]
  have hnew : (shots (s.log ++ encodeEntries ⟨s.count, s.enc.nextFrame⟩ size))[s.count]? =
      some ⟨s.count, s.enc.nextFrame⟩ := by
    rw [hshots, ← h.count]
    exact List.getElem?_concat_length
  refine ⟨h.wf, fun e he => ⟨(h.queued e he).1, (h.queued e he).2.append⟩,
    fun e he => (h.held e he).append, ?_, ?_, ?_, ?_, ?_, ?_, everySent_append hquiet h.kept⟩
  · intro p hp
    obtain ⟨hsize, hp⟩ := Option.ite_none_left_eq_some.1 hp
    obtain rfl : (⟨⟨s.count, s.enc.nextFrame⟩, size⟩ : Pending) = p := Option.some.inj hp
    exact ⟨Nat.pos_of_ne_zero hsize, hnew⟩
  · rw [lastSent_append hquiet]
    exact fun p hp => (h.sent p hp).append
  · rw [lastSent_append hquiet]
    exact h.fresh
  · rw [hshots, List.length_append, h.count]
    rfl
  · rw [hshots]
    exact h.predicts.encode s.count
  · obtain ⟨L, hL⟩ := h.line
    have hline : L.waiting = numbers (s.main.held ++ s.ring.queued) := by
      rw [hL.waiting, Sender.line, hpending]
      exact List.append_nil _
    by_cases hsize : size = 0
    · -- it enters and is lost
      refine ⟨L.enter.lose (List.sublist_append_left L.waiting [L.count]), ?_, ?_, ?_, ?_⟩
      · exact congrArg (· + 1) hL.count
      · rw [Sender.line, if_pos hsize]
        exact hline.trans (List.append_nil _).symm
      · exact hL.mark.trans (lastSerial_append hquiet).symm
      · rintro n (hn | ⟨hn, hnot⟩)
        · exact (hL.lost n hn).append
        · obtain rfl : n = L.count :=
            List.mem_singleton.1 ((List.mem_append.1 hn).resolve_left hnot)
          rw [hL.count]
          refine ⟨_, hnew, LostShot.append_right ?_⟩
          rw [hsize]
          exact lostShot_encodeEntries _
    · refine ⟨L.enter, congrArg (· + 1) hL.count, ?_, ?_, fun n hn => (hL.lost n hn).append⟩
      · rw [Sender.line, if_neg hsize, ← hline, Option.toList_some, List.map_singleton]
        change L.waiting ++ [L.count] = L.waiting ++ [s.count]
        rw [hL.count]
      · exact hL.mark.trans (lastSerial_append hquiet).symm

theorem Sender.ChainInv.push (h : s.ChainInv) {p : Pending} (hpending : s.pending = some p)
    (pts : UInt64) (mallocOk : Bool) :
    Sender.ChainInv { s with
      pending := none
      ring := (ringPush s.ring (p.push pts) mallocOk).1
      log := s.log ++ pushLosses s.ring (p.push pts) mallocOk } := by
  have hquiet := quiet_pushLosses s.ring (p.push pts) mallocOk
  obtain ⟨hold, -, hcount, hpredicts⟩ := h.grown (shots_pushLosses s.ring (p.push pts) mallocOk)
  obtain ⟨hsize, hshot⟩ := h.pending p hpending
  obtain ⟨data, hqueued⟩ := queued_ringPush h.wf (p.push pts) mallocOk
  refine ⟨wf_ringPush h.wf _ _, ?_, fun e he => (h.held e he).append,
    fun p hp => absurd hp (Option.not_mem_none p), ?_, ?_, hcount, hpredicts, ?_,
    everySent_append hquiet h.kept⟩
  · intro e he
    rw [hqueued] at he
    split at he
    · rcases List.mem_append.1 he with he | he
      · exact hold e (mem_queued_of_makeRoom h.wf he)
      · obtain rfl := List.mem_singleton.1 he
        exact ⟨hsize, p.shot, rfl, rfl, shots_append_left hshot⟩
    · exact hold e (mem_queued_of_makeRoom h.wf he)
  · rw [lastSent_append hquiet]
    exact fun p hp => (h.sent p hp).append
  · rw [lastSent_append hquiet]
    exact h.fresh
  · obtain ⟨L, hL⟩ := h.line
    exact hL.push h.wf hpending hshot (fun e he => (h.queued e he).2) pts mallocOk

theorem Sender.ChainInv.accept (h : s.ChainInv) (hmain : s.main = .accepting) :
    Sender.ChainInv { s with main := .flushing, log := s.log ++ [.accepted] } := by
  obtain ⟨hqueued, hpending, hcount, hpredicts⟩ := h.grown (rfl : shots [.accepted] = [])
  refine ⟨h.wf, hqueued, fun e he => absurd he List.not_mem_nil, hpending, ?_,
    fun _ => lastSent_accepted, hcount, hpredicts, ?_, everySent_accepted h.kept⟩
  · rw [lastSent_accepted]
    intro p hp
    cases hp
  · obtain ⟨L, hL⟩ := h.line
    refine ⟨L.restart (List.suffix_refl _), hL.count, ?_, ?_, fun n hn => (hL.lost n hn).append⟩
    · refine hL.waiting.trans ?_
      rw [Sender.line, hmain]
      rfl
    · rw [lastSerial, lastSent_accepted]
      rfl

theorem Sender.ChainInv.flush (h : s.ChainInv) (hmain : s.main = .flushing) :
    Sender.ChainInv { s with ring := ringFlush s.ring, main := .forcing } := by
  refine ⟨wf_ringFlush h.wf, ?_, fun e he => absurd he List.not_mem_nil, h.pending, h.sent,
    fun hmain => MainPc.noConfusion hmain, h.count, h.predicts, ?_, h.kept⟩
  · rw [queued_ringFlush h.wf]
    exact fun e he => absurd he List.not_mem_nil
  · obtain ⟨L, hL⟩ := h.line
    have hsuffix : s.pending.toList.map (·.shot.serial) <:+ L.waiting := by
      rw [hL.waiting]
      exact List.suffix_append _ _
    refine ⟨L.restart hsuffix, hL.count, ?_, ?_, hL.lost⟩
    · rw [Sender.line]
      simp only [queued_ringFlush h.wf]
      rfl
    · rw [lastSerial, h.fresh hmain]
      rfl

/-- The main thread goes on, holding nothing before and after. -/
theorem Sender.ChainInv.turn (h : s.ChainInv) (hheld : s.main.held = []) {enc : DbEncoder}
    (hpredicts : enc.Predicts (shots s.log)) {main : MainPc} (hheld' : main.held = [])
    (hflushing : main ≠ .flushing) : Sender.ChainInv { s with enc := enc, main := main } := by
  refine ⟨h.wf, h.queued, fun e he => absurd (hheld' ▸ he) List.not_mem_nil, h.pending, h.sent,
    fun hmain => absurd hmain hflushing, h.count, hpredicts, ?_, h.kept⟩
  obtain ⟨L, hL⟩ := h.line
  refine ⟨L, hL.count, ?_, hL.mark, hL.lost⟩
  rw [hL.waiting, Sender.line, Sender.line, hheld]
  simp only [hheld']

theorem Sender.ChainInv.pop (h : s.ChainInv) (hmain : s.main = .streaming)
    {ring : RingBuffer Shot} {slot : ℕ} (hpop : ringPop s.ring = (ring, some slot)) :
    Sender.ChainInv { s with ring := ring, main := .holding slot (ring.entries slot) } := by
  obtain ⟨hqueued, -, hwf⟩ := ringPop_eq_some h.wf hpop
  have hfirst := h.queued (ring.entries slot) (hqueued ▸ List.mem_cons_self)
  refine ⟨hwf, fun e he => h.queued e (hqueued ▸ List.mem_cons_of_mem _ he), ?_, h.pending,
    h.sent, fun hmain => MainPc.noConfusion hmain, h.count, h.predicts, ?_, h.kept⟩
  · intro e he
    obtain rfl := List.mem_singleton.1 he
    exact hfirst.2
  · obtain ⟨L, hL⟩ := h.line
    refine ⟨L, hL.count, ?_, hL.mark, hL.lost⟩
    rw [hL.waiting, Sender.line, Sender.line, hmain, hqueued]
    rfl

/-- What is sent now was predicted from what was sent before, or from something
that was lost. -/
theorem Sender.ChainInv.chainKept (h : s.ChainInv) {slot : ℕ} {popped : RingEntry Shot}
    (hmain : s.main = .holding slot popped) {poppedF entryF : RingEntry Shot}
    (hlast : lastSent s.log = some (poppedF, entryF)) :
    ∃ F G, poppedF.content = some F ∧ popped.content = some G ∧
      popped.isKeyframe = G.frame.isKeyframe ∧ ChainKept s.log F G := by
  obtain ⟨L, hL⟩ := h.line
  obtain ⟨F, hcontentF, -, hshotF⟩ := h.sent _ hlast
  obtain ⟨G, hcontentG, hkeyG, hshotG⟩ := h.carried_popped hmain
  have hmark : L.mark = some F.serial := by
    rw [hL.mark, lastSerial, hlast]
    exact congrArg (Option.map _) hcontentF
  have hwaiting := hL.waiting.trans (line_of_holding hmain hcontentG)
  have hlater : F.serial < G.serial := Lossy.Line.mark_lt_head hmark hwaiting
  have hbetween : ∀ n, F.serial < n → n < G.serial → LostAt s.log n :=
    fun n hF hG => hL.lost n (Lossy.Line.lost_of_between hmark hwaiting hF hG)
  refine ⟨F, G, hcontentF, hcontentG, hkeyG, hlater, hshotF, hshotG, hbetween, ?_⟩
  intro hkey
  obtain ⟨-, P, hP, hpred⟩ := h.predicts.predicted _ _ hshotG hkey
  refine ⟨P, hP, hpred, ?_⟩
  rcases eq_or_ne (G.serial - 1) F.serial with heq | hne
  · rw [heq, hshotF] at hP
    exact .inl (Option.some.inj hP).symm
  · obtain ⟨shot, hshot, hlost⟩ := hbetween (G.serial - 1) (by omega) (by omega)
    obtain rfl : shot = P := Option.some.inj (hshot.symm.trans hP)
    exact .inr hlost

theorem Sender.ChainInv.deliver (h : s.ChainInv) {slot : ℕ} {popped : RingEntry Shot}
    (hmain : s.main = .holding slot popped) (entry : RingEntry Shot) :
    Sender.ChainInv { s with main := .streaming, log := s.log ++ [.sent popped entry] } := by
  obtain ⟨hqueued, hpending, hcount, hpredicts⟩ := h.grown (rfl : shots [.sent popped entry] = [])
  have hheld := h.carried_popped hmain
  refine ⟨h.wf, hqueued, fun e he => absurd he List.not_mem_nil, hpending, ?_,
    fun hmain => MainPc.noConfusion hmain, hcount, hpredicts, ?_, everySent_sent ?_ h.kept⟩
  · rw [lastSent_sent]
    rintro p ⟨⟩
    exact hheld.append
  · obtain ⟨L, hL⟩ := h.line
    obtain ⟨G, hcontent, -, -⟩ := hheld
    have hwaiting := hL.waiting.trans (line_of_holding hmain hcontent)
    refine ⟨L.deliver hwaiting, hL.count, rfl, ?_, fun n hn => (hL.lost n hn).append⟩
    rw [lastSerial, lastSent_sent]
    exact (congrArg (Option.map _) hcontent).symm
  · rintro rfl poppedF entryF hlast rfl
    exact h.chainKept hmain hlast

/-- A send that fails loses what the main thread held. -/
theorem Sender.ChainInv.drop (h : s.ChainInv) {slot : ℕ} {popped : RingEntry Shot}
    (hmain : s.main = .holding slot popped) {main : MainPc} (hheld : main.held = [])
    (hflushing : main ≠ .flushing) :
    Sender.ChainInv { s with main := main, log := s.log ++ [.lost popped .failedSend] } := by
  have hquiet := quiet_lost popped .failedSend
  obtain ⟨hqueued, hpending, hcount, hpredicts⟩ :=
    h.grown (rfl : shots [.lost popped .failedSend] = [])
  obtain ⟨G, hcontent, -, hshot⟩ := h.carried_popped hmain
  refine ⟨h.wf, hqueued, fun e he => absurd (hheld ▸ he) List.not_mem_nil, hpending, ?_,
    fun hmain => absurd hmain hflushing, hcount, hpredicts, ?_, everySent_append hquiet h.kept⟩
  · rw [lastSent_append hquiet]
    exact fun p hp => (h.sent p hp).append
  · obtain ⟨L, hL⟩ := h.line
    have hwaiting := hL.waiting.trans (line_of_holding hmain hcontent)
    have hsub : (numbers s.ring.queued ++ s.pending.toList.map (·.shot.serial)).Sublist
        L.waiting := by
      rw [hwaiting]
      exact List.sublist_cons_self _ _
    refine ⟨L.lose hsub, hL.count, ?_, hL.mark.trans (lastSerial_append hquiet).symm, ?_⟩
    · rw [Sender.line]
      simp only [hheld]
      rfl
    · rintro n (hn | ⟨hn, hnot⟩)
      · exact (hL.lost n hn).append
      · rw [hwaiting] at hn
        obtain rfl := (List.mem_cons.1 hn).resolve_right hnot
        exact ⟨G, shots_append_left hshot, popped, .failedSend,
          List.mem_append_right _ List.mem_cons_self, hcontent⟩

/-- **The step lemma.** -/
theorem Sender.ChainInv.step (h : s.ChainInv) {event : SenderEvent} {s' : Sender}
    (hstep : senderStep s event = some s') : s'.ChainInv := by
  cases moves_of_step hstep with
  | encode size hpending => exact h.encode hpending size
  | push pts mallocOk hpending => exact h.push hpending pts mallocOk
  | accept hmain => exact h.accept hmain
  | flush hmain => exact h.flush hmain
  | forceIdr hmain => exact h.turn (by rw [hmain]; rfl) h.predicts.forceIdr rfl MainPc.noConfusion
  | popNothing hmain hpop =>
    obtain ⟨-, rfl⟩ := ringPop_eq_none h.wf hpop
    exact h
  | popEmpty hmain hpop hsize =>
    have hqueued := (ringPop_eq_some h.wf hpop).1
    exact absurd (h.queued _ (hqueued ▸ List.mem_cons_self)).1 hsize
  | pop hmain hpop hsize => exact h.pop hmain hpop
  | sent hmain hsize => exact h.deliver hmain _
  | dropped hmain => exact h.drop hmain rfl MainPc.noConfusion
  | broken hmain => exact h.drop hmain rfl MainPc.noConfusion
  | disconnect hmain => exact h.turn (by rw [hmain]; rfl) h.predicts rfl MainPc.noConfusion

/-! ### Runs -/

theorem Sender.chainInv_init {width height bitrateKbps fps : ℤ} {surfaces : List VASurfaceID}
    {codedBuf : UInt32}
    (hvalid : ∀ i < dbEncoderSurfacePool, surfaces.getD i vaInvalidId ≠ vaInvalidId)
    (buffers : ℕ → Bool) :
    (Sender.init (dbEncoderInit width height bitrateKbps fps surfaces codedBuf)
      buffers).ChainInv where
  wf := ⟨Nat.zero_lt_succ _, Nat.zero_lt_succ _⟩
  queued e he := absurd (queued_ringInit buffers ▸ he) List.not_mem_nil
  held e he := absurd he List.not_mem_nil
  pending p hp := absurd hp (Option.not_mem_none p)
  sent p hp := absurd hp (Option.not_mem_none p)
  fresh _ := rfl
  count := rfl
  predicts :=
    { pool := rfl
      index := Nat.zero_lt_succ 3
      valid := hvalid
      start := fun _ => UInt64.zero_mod
      last := fun P hP => absurd hP (Option.not_mem_none P)
      predicted := fun n G hG => absurd hG (Option.not_mem_none G) }
  line := by
    refine ⟨Lossy.Line.empty, rfl, ?_, rfl, fun n hn => hn.elim⟩
    exact congrArg (fun queued => numbers queued ++ []) (queued_ringInit buffers).symm
  kept pre a post hlog := absurd hlog.symm (by simp [Sender.init])

/-- **References are sent or lost**, in every run. -/
theorem referencesSentOrLost_of_run {width height bitrateKbps fps : ℤ}
    {surfaces : List VASurfaceID} {codedBuf : UInt32} {buffers : ℕ → Bool}
    (hvalid : ∀ i < dbEncoderSurfacePool, surfaces.getD i vaInvalidId ≠ vaInvalidId)
    {events : List SenderEvent} {s : Sender}
    (hrun : Run senderStep (fun _ _ => True)
      (Sender.init (dbEncoderInit width height bitrateKbps fps surfaces codedBuf) buffers)
      events s) :
    ReferencesSentOrLost s.log := by
  have hinv : s.ChainInv := hrun.invariant (Sender.chainInv_init hvalid buffers)
    fun _ _ _ h _ hstep => h.step hstep
  exact hinv.kept

/-- A connection on which the second of three frames times out. -/
def dropSecond : List SenderEvent :=
  [.accept, .flush, .forceIdr, .encode 100, .push 0 true, .encode 100, .pop, .push 1 true,
    .send .sent, .encode 100, .push 2 true, .pop, .send .dropped, .pop, .send .sent]

/-- The entry the third frame of that connection is sent as. -/
def thirdEntry : RingEntry Shot :=
  ⟨some slotBytes, some ⟨2, ((firstEncoder.advance 0).advance 1).nextFrame⟩, 100, 2, false⟩

/-- The entry the first frame of that connection is sent as. -/
def firstEntry : RingEntry Shot := ⟨some slotBytes, some ⟨0, firstEncoder.nextFrame⟩, 100, 0, true⟩

/-- The entry the second frame of that connection is lost as. -/
def secondEntry : RingEntry Shot :=
  ⟨some slotBytes, some ⟨1, (firstEncoder.advance 0).nextFrame⟩, 100, 1, false⟩

theorem log_dropSecond :
    (exec senderStep (fun _ _ => True) (Sender.init firstEncoder fun _ => true)
      dropSecond).map (·.log) =
      some ([.accepted, .encoded ⟨0, firstEncoder.nextFrame⟩,
        .encoded ⟨1, (firstEncoder.advance 0).nextFrame⟩, .sent firstEntry firstEntry,
        .encoded ⟨2, ((firstEncoder.advance 0).advance 1).nextFrame⟩,
        .lost secondEntry .failedSend] ++ .sent thirdEntry thirdEntry :: []) := by
  decide +kernel

/-- The second frame is lost, so the third was predicted from it. -/
theorem referencesSentOrLost_dropSecond :
    ∃ s, Run senderStep (fun _ _ => True) (Sender.init firstEncoder fun _ => true)
        dropSecond s ∧ ReferencesSentOrLost s.log := by
  obtain ⟨s, hs, -⟩ := Option.map_eq_some_iff.1 log_dropSecond
  exact ⟨s, run_of_exec hs, referencesSentOrLost_of_run (by decide) (run_of_exec hs)⟩

/-- **A lost frame breaks the chain**: the third frame names the surface of the
second, and the frame sent before it is the first. -/
theorem not_referenceUnbroken_after_drop :
    ∃ s, Run senderStep (fun _ _ => True) (Sender.init firstEncoder fun _ => true)
        dropSecond s ∧ ¬ ReferenceUnbroken s.log := by
  obtain ⟨s, hs, hlog⟩ := Option.map_eq_some_iff.1 log_dropSecond
  refine ⟨s, run_of_exec hs, fun hunbroken => ?_⟩
  obtain ⟨F, G, hF, hG, poc, hpic, -⟩ :=
    hunbroken _ _ _ hlog thirdEntry thirdEntry rfl firstEntry firstEntry rfl rfl
  obtain rfl := Option.some.inj hF
  obtain rfl := Option.some.inj hG
  have hnamed : (((firstEncoder.advance 0).advance 1).nextFrame.pic.referenceFrames.head?).map
      (·.pictureId) = some 1 := by decide +kernel
  rw [hpic] at hnamed
  have hsurface : firstEncoder.nextFrame.surface = 1 := Option.some.inj hnamed
  exact absurd hsurface (by decide +kernel)

end DisplayBridge
