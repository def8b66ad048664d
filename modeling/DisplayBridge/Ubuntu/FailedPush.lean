import Mathlib.Data.List.Induction
import DisplayBridge.Lib.Runs
import DisplayBridge.Ubuntu.RingQueue

/-!
# A push that finds no memory

A frame of more than four megabytes gets a buffer of its own, and the allocation may
fail. Then `ring_push` returns -1, and the caller may think that nothing has happened
(`DisplayBridge.PushSound`).

Two things have. If the ring was full, the oldest frame was dropped before the
allocation was tried. And the buffer of the slot was freed: the slot is left with a null
pointer, and the next push, which is to the same slot, copies its frame there unless it
is large as well. Pops and flushes in between do not help, since they do not move the
write index.

So pushes are sound in exactly the sequences of calls in which no push fails on a full
ring, and the push after a failed one is again one of a large frame
(`DisplayBridge.pushesSound_iff`). The invariant is that the only slot without a buffer is
the one at the write index, and only after a failed push
(`DisplayBridge.RingBuffer.Buffers`).
-/

namespace DisplayBridge

open Circular Runs

variable {β : Type}

/-! ### What is promised -/

/-- **A push is sound**: if it fails, the queue stays as it was, and every copy it makes is
to a buffer with room for the frame. -/
structure PushSound (rb : RingBuffer β) (f : Frame β) (mallocOk : Bool) : Prop where
  failed : (ringPush rb f mallocOk).2.1 = -1 → (ringPush rb f mallocOk).1.queued = rb.queued
  copies : ∀ slot dst size, MemOp.memcpy slot dst size ∈ (ringPush rb f mallocOk).2.2 →
    ∃ capacity, dst = some capacity ∧ size ≤ capacity

/-- The ring after some calls, on a ring that was initialized with all its buffers. -/
def ringRun (ops : List (RingOp β)) : RingBuffer β :=
  ops.foldl RingBuffer.apply (ringInit fun _ => true)

/-- **Every push is sound**, in a sequence of calls. -/
def PushesSound (ops : List (RingOp β)) : Prop :=
  ∀ pre op post, ops = pre ++ op :: post →
    ∀ f mallocOk, op = .push f mallocOk → PushSound (ringRun pre) f mallocOk

/-! ### The condition -/

/-- The frame of a call that is a push, and the outcome of its allocation. -/
def RingOp.push? : RingOp β → Option (Frame β × Bool)
  | .push f mallocOk => some (f, mallocOk)
  | _ => none

/-- The last push of some calls has failed. -/
def LastPushFailed (ops : List (RingOp β)) : Prop :=
  ∃ p, (ops.filterMap RingOp.push?).getLast? = some p ∧ ¬ Stores p

/-- A push after some calls does not fail on a full ring, and is one of a large frame if the
push before it has failed. -/
structure PushOk (pre : List (RingOp β)) (f : Frame β) (mallocOk : Bool) : Prop where
  room : ¬ Stores (f, mallocOk) → ¬ (ringRun pre).Full
  large : LastPushFailed pre → slotBytes < f.size

/-! ### The buffers -/

/-- **The invariant**: every slot has a buffer of at least the first size, but the one at
the write index if its buffer is lost. -/
structure RingBuffer.Buffers (rb : RingBuffer β) (lost : Prop) : Prop where
  head : (rb.entries rb.head).data = none ↔ lost
  slots : ∀ i, i = rb.head ∧ lost ∨ ∃ capacity, (rb.entries i).data = some capacity ∧
    slotBytes ≤ capacity

variable {rb : RingBuffer β} {lost : Prop}

theorem RingBuffer.Buffers.congr (h : rb.Buffers lost) {rb' : RingBuffer β} {lost' : Prop}
    (hhead : rb'.head = rb.head) (hentries : rb'.entries = rb.entries) (hlost : lost' ↔ lost) :
    rb'.Buffers lost' := by
  refine ⟨?_, fun i => ?_⟩
  · rw [hentries, hhead, hlost]
    exact h.head
  · rw [hentries, hhead, hlost]
    exact h.slots i

/-- The buffer of the slot at the write index, if it is not lost. -/
theorem RingBuffer.Buffers.buffer (h : rb.Buffers lost) (hlost : ¬ lost) :
    ∃ capacity, (rb.entries rb.head).data = some capacity ∧ slotBytes ≤ capacity := by
  rcases h.slots rb.head with ⟨-, hl⟩ | hbuffer
  · exact absurd hl hlost
  · exact hbuffer

/-- A frame is written, with a buffer: the next slot has one too. -/
theorem RingBuffer.Buffers.write (h : rb.Buffers lost) {capacity : ℕ}
    (hcapacity : slotBytes ≤ capacity) (f : Frame β) :
    (rb.write (some capacity) f).Buffers False := by
  have hself : (rb.write (some capacity) f).entries rb.head = f.entry (some capacity) :=
    Function.update_self _ _ _
  have hother : ∀ i, i ≠ rb.head → (rb.write (some capacity) f).entries i = rb.entries i :=
    fun i hi => Function.update_of_ne hi _ _
  have hslots : ∀ i, ∃ c, ((rb.write (some capacity) f).entries i).data = some c ∧
      slotBytes ≤ c := by
    intro i
    by_cases hi : i = rb.head
    · rw [hi, hself]
      exact ⟨capacity, rfl, hcapacity⟩
    · rw [hother i hi]
      rcases h.slots i with ⟨hhead, -⟩ | hbuffer
      · exact absurd hhead hi
      · exact hbuffer
  refine ⟨?_, fun i => Or.inr (hslots i)⟩
  obtain ⟨c, hc, -⟩ := hslots (rb.write (some capacity) f).head
  rw [hc]
  exact iff_of_false (Option.some_ne_none c) not_false

/-- The buffer is lost. -/
theorem RingBuffer.Buffers.loseBuffer (h : rb.Buffers lost) : rb.loseBuffer.Buffers True := by
  have hself : rb.loseBuffer.entries rb.head =
      { rb.entries rb.head with data := none, content := none } := Function.update_self _ _ _
  refine ⟨iff_of_true (congrArg RingEntry.data hself) trivial, fun i => ?_⟩
  by_cases hi : i = rb.head
  · exact Or.inl ⟨hi, trivial⟩
  · have hother : rb.loseBuffer.entries i = rb.entries i := Function.update_of_ne hi _ _
    rw [hother]
    rcases h.slots i with ⟨hhead, -⟩ | hbuffer
    · exact absurd hhead hi
    · exact Or.inr hbuffer

theorem RingBuffer.Buffers.makeRoom (h : rb.Buffers lost) : rb.makeRoom.Buffers lost :=
  h.congr makeRoom_head makeRoom_entries Iff.rfl

/-! ### One push -/

/-- Without an allocation it is the large frames that are not stored. -/
theorem not_stores_false {f : Frame β} : ¬ Stores (f, false) ↔ slotBytes < f.size := by
  rw [Stores, not_or, not_le, and_iff_left Bool.false_ne_true]

/-- A push that goes well leaves all slots but that of a lost buffer as they should be. -/
theorem RingBuffer.Buffers.push (h : rb.Buffers lost) {f : Frame β}
    (mallocOk : Bool) (hlarge : lost → slotBytes < f.size) :
    (ringPush rb f mallocOk).1.Buffers (¬ Stores (f, mallocOk)) := by
  have hroom := h.makeRoom
  rw [ringPush]
  by_cases hsize : slotBytes < f.size
  · rw [if_pos hsize]
    cases mallocOk with
    | true =>
      have hstores : Stores (f, true) := Or.inr rfl
      rw [eq_false (not_not.2 hstores)]
      exact hroom.write hsize.le f
    | false =>
      have hfails : ¬ Stores (f, false) := not_stores_false.2 hsize
      rw [eq_true hfails]
      exact hroom.loseBuffer
  · have hstores : Stores (f, mallocOk) := Or.inl (not_lt.1 hsize)
    obtain ⟨capacity, hdata, hcapacity⟩ := hroom.buffer fun hl => hsize (hlarge hl)
    rw [if_neg hsize, eq_false (not_not.2 hstores)]
    dsimp only
    rw [hdata]
    exact hroom.write hcapacity f

/-- A large frame that gets a buffer has one of its own size. -/
theorem pushSound_large {f : Frame β} (hsize : slotBytes < f.size) : PushSound rb f true where
  failed hcode := by
    rw [ringPush, if_pos hsize] at hcode
    exact absurd hcode (by decide : (0 : ℤ) ≠ -1)
  copies slot dst size hop := by
    rw [ringPush, if_pos hsize] at hop
    have hcopy : MemOp.memcpy slot dst size =
        .memcpy rb.makeRoom.head (some f.size) f.size := by
      simpa using hop
    obtain ⟨-, rfl, rfl⟩ := MemOp.memcpy.inj hcopy
    exact ⟨_, rfl, le_rfl⟩

/-- A large frame that gets none is not copied, and a full ring has lost its oldest frame. -/
theorem pushSound_failed_iff (hwf : rb.Wf) {f : Frame β} (hfails : ¬ Stores (f, false)) :
    PushSound rb f false ↔ ¬ rb.Full := by
  have hsize : slotBytes < f.size := not_stores_false.1 hfails
  have hcode : (ringPush rb f false).2.1 = -1 := by
    rw [ringPush, if_pos hsize]
    rfl
  have hops : ∀ slot dst size, MemOp.memcpy slot dst size ∉ (ringPush rb f false).2.2 := by
    intro slot dst size hop
    rw [ringPush, if_pos hsize] at hop
    simp at hop
  obtain ⟨data, hqueued⟩ := queued_ringPush hwf f false
  rw [if_neg hfails, queued_makeRoom hwf] at hqueued
  constructor
  · intro hsound hfull
    -- the oldest frame is gone
    have hsame := hsound.failed hcode
    rw [hqueued, if_pos hfull] at hsame
    have hlength := congrArg List.length hsame
    have hfill := (full_iff hwf).1 hfull
    rw [List.length_tail, length_queued] at hlength
    rw [ringSize] at hfill
    omega
  · intro hroom
    refine ⟨fun _ => ?_, fun slot dst size hop => absurd hop (hops slot dst size)⟩
    rw [hqueued, if_neg hroom]

/-- An ordinary frame goes into the buffer of its slot, if there is one. -/
theorem pushSound_ordinary_iff (h : rb.Buffers lost) {f : Frame β} (hsize : ¬ slotBytes < f.size)
    (mallocOk : Bool) : PushSound rb f mallocOk ↔ ¬ lost := by
  have hcode : (ringPush rb f mallocOk).2.1 ≠ -1 := by
    rw [ringPush, if_neg hsize]
    exact (by decide : (0 : ℤ) ≠ -1)
  have hops : ∀ slot dst size, MemOp.memcpy slot dst size ∈ (ringPush rb f mallocOk).2.2 ↔
      slot = rb.head ∧ dst = (rb.entries rb.head).data ∧ size = f.size := by
    intro slot dst size
    rw [ringPush, if_neg hsize]
    simp
  constructor
  · intro hsound hlost
    obtain ⟨capacity, hdata, -⟩ := hsound.copies _ _ _ ((hops _ _ _).2 ⟨rfl, rfl, rfl⟩)
    rw [h.head.2 hlost] at hdata
    cases hdata
  · intro hkept
    refine ⟨fun hbad => absurd hbad hcode, fun slot dst size hop => ?_⟩
    obtain ⟨-, rfl, rfl⟩ := (hops slot dst size).1 hop
    obtain ⟨capacity, hdata, hcapacity⟩ := h.buffer hkept
    exact ⟨capacity, hdata, (not_lt.1 hsize).trans hcapacity⟩

/-- **One push** is sound exactly if it does not fail on a full ring, and does not find a
lost buffer. -/
theorem pushSound_iff (hwf : rb.Wf) (h : rb.Buffers lost) (f : Frame β) (mallocOk : Bool) :
    PushSound rb f mallocOk ↔
      (¬ Stores (f, mallocOk) → ¬ rb.Full) ∧ (lost → slotBytes < f.size) := by
  by_cases hsize : slotBytes < f.size
  · have hlarge : lost → slotBytes < f.size := fun _ => hsize
    rw [and_iff_left hlarge]
    cases mallocOk with
    | true => exact iff_of_true (pushSound_large hsize) fun hno => absurd (Or.inr rfl) hno
    | false =>
      have hfails : ¬ Stores (f, false) := not_stores_false.2 hsize
      rw [pushSound_failed_iff hwf hfails, forall_prop_of_true hfails]
  · have hstores : Stores (f, mallocOk) := Or.inl (not_lt.1 hsize)
    rw [pushSound_ordinary_iff h hsize mallocOk]
    constructor
    · intro hkept
      exact ⟨fun hno => absurd hstores hno, fun hlost => absurd hlost hkept⟩
    · rintro ⟨-, hlarge⟩ hlost
      exact hsize (hlarge hlost)

/-! ### All pushes -/

theorem ringRun_concat (ops : List (RingOp β)) (op : RingOp β) :
    ringRun (ops ++ [op]) = (ringRun ops).apply op := by
  rw [ringRun, List.foldl_append]
  rfl

theorem wf_ringRun (ops : List (RingOp β)) : (ringRun ops).Wf :=
  RingBuffer.Reachable.wf ⟨_, ops, rfl⟩

theorem lastPushFailed_push (ops : List (RingOp β)) (f : Frame β) (mallocOk : Bool) :
    LastPushFailed (ops ++ [.push f mallocOk]) ↔ ¬ Stores (f, mallocOk) := by
  have hlast : ((ops ++ [RingOp.push f mallocOk]).filterMap RingOp.push?).getLast? =
      some (f, mallocOk) := by
    rw [List.filterMap_append]
    exact List.getLast?_concat
  rw [LastPushFailed, hlast]
  constructor
  · rintro ⟨p, hp, hno⟩
    obtain rfl := Option.some.inj hp
    exact hno
  · exact fun hno => ⟨_, rfl, hno⟩

theorem lastPushFailed_other (ops : List (RingOp β)) {op : RingOp β} (h : op.push? = none) :
    LastPushFailed (ops ++ [op]) ↔ LastPushFailed ops := by
  have hsame : (ops ++ [op]).filterMap RingOp.push? = ops.filterMap RingOp.push? := by
    rw [List.filterMap_append, List.filterMap_cons, h, List.filterMap_nil, List.append_nil]
  rw [LastPushFailed, hsame, LastPushFailed]

/-- **The invariant of the calls that meet the condition.** -/
theorem buffers_ringRun {ops : List (RingOp β)}
    (h : ∀ pre op post, ops = pre ++ op :: post → ∀ f mallocOk, op = .push f mallocOk →
      PushOk pre f mallocOk) : (ringRun ops).Buffers (LastPushFailed ops) := by
  induction ops using List.reverseRecOn with
  | nil =>
    have hno : ¬ LastPushFailed ([] : List (RingOp β)) := by
      rintro ⟨p, hp, -⟩
      cases hp
    refine ⟨iff_of_false (Option.some_ne_none _) hno, fun i => Or.inr ?_⟩
    exact ⟨slotBytes, rfl, le_rfl⟩
  | append_singleton ops op ih =>
    obtain ⟨hop, hold⟩ := forall_split_concat.1 h
    have hbuffers := ih fun pre op post heq => hold pre op post heq
    have hwf := wf_ringRun ops
    rw [ringRun_concat]
    cases op with
    | push f mallocOk =>
      have hpush := hbuffers.push mallocOk (hop f mallocOk rfl).large
      rw [lastPushFailed_push]
      exact hpush
    | pop =>
      have hhead : (ringPop (ringRun ops)).1.head = (ringRun ops).head := by
        rw [ringPop]
        split <;> rfl
      exact hbuffers.congr hhead (ringPop_entries _) (lastPushFailed_other ops rfl)
    | flush =>
      have hflush : ringFlush (ringRun ops) = { ringRun ops with tail := (ringRun ops).head } :=
        ringFlush_eq hwf
      have hhead : (ringFlush (ringRun ops)).head = (ringRun ops).head := by rw [hflush]
      have hentries : (ringFlush (ringRun ops)).entries = (ringRun ops).entries := by rw [hflush]
      exact hbuffers.congr hhead hentries (lastPushFailed_other ops rfl)

/-- **Every push is sound exactly if none fails on a full ring, and the one after a failed
one is of a large frame.** -/
theorem pushesSound_iff (ops : List (RingOp β)) :
    PushesSound ops ↔ ∀ pre op post, ops = pre ++ op :: post →
      ∀ f mallocOk, op = .push f mallocOk → PushOk pre f mallocOk := by
  induction ops using List.reverseRecOn with
  | nil =>
    refine iff_of_true ?_ ?_
    · intro pre op post heq
      simp at heq
    · intro pre op post heq
      simp at heq
  | append_singleton ops op ih =>
    rw [PushesSound, forall_split_concat, forall_split_concat]
    change _ ∧ PushesSound ops ↔ _
    rw [ih]
    refine and_congr_left fun hok => forall₂_congr fun f mallocOk => ?_
    refine imp_congr_right fun _ => ?_
    rw [pushSound_iff (wf_ringRun ops) (buffers_ringRun hok) f mallocOk]
    exact ⟨fun h => ⟨h.1, h.2⟩, fun h => ⟨h.1, h.2⟩⟩

/-! ### A lost buffer -/

/-- A frame of five megabytes. -/
def largeFrame : Frame ℕ := ⟨0, 5 * 1024 * 1024, 0, true⟩

/-- **After a failed push, an ordinary frame is copied to a null pointer.** -/
theorem not_pushesSound_after_failure :
    ¬ PushesSound [.push largeFrame false, .push ⟨1, 100, 0, false⟩ true] := by
  intro h
  have hsound := h [.push largeFrame false] _ [] rfl ⟨1, 100, 0, false⟩ true rfl
  have hcopy : MemOp.memcpy 0 none 100 ∈
      (ringPush (ringRun [.push largeFrame false]) ⟨1, 100, 0, false⟩ true).2.2 := by decide
  obtain ⟨capacity, hnone, -⟩ := hsound.copies 0 none 100 hcopy
  cases hnone

end DisplayBridge
