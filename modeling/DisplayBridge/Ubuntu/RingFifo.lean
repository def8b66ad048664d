import DisplayBridge.Lib.DropOldest
import DisplayBridge.Ubuntu.RingQueue
import Mathlib.Data.List.Forall2

/-!
# What the frame ring is for

The frame ring of the sender, with its two wrapping indices and its eight buffers, is
a queue of seven frames that drops the oldest (`DropOldest.step`). This is what the
capture thread and the main thread may think of, and as long as memory can be
allocated they are right: every call answers what the queue answers
(`DisplayBridge.frameRing_dropOldest`).

The two are tied together by `DisplayBridge.RingBuffer.Represents`. A queued entry is
more than its frame: it has a buffer of its own, and the frame fits in there. That
needs a word about the buffers nobody uses at the moment, because a push does not look
at the size of the buffer it finds in its slot: all of them are as large as they were
at the start, or larger.
-/

namespace DisplayBridge

open DropOldest Runs

variable {β : Type}

/-! ### Calls and answers -/

/-- The call to the ring, when memory can be allocated. -/
def ringCall : Op (Frame β) → RingOp β
  | .push f => .push f true
  | .pop => .pop
  | .flush => .flush

/-- What a call to the ring returns: the result code of a push, and the entry that a pop
returns the address of, as it is at that moment. -/
inductive RingAnswer (β : Type)
  | pushed (code : ℤ)
  | popped (entry : Option (RingEntry β))
  | flushed

/-- The answer of the ring to a call. -/
def RingBuffer.answer (rb : RingBuffer β) : RingOp β → RingAnswer β
  | .push f mallocOk => .pushed (ringPush rb f mallocOk).2.1
  | .pop => .popped ((ringPop rb).2.map (ringPop rb).1.entries)
  | .flush => .flushed

/-- An entry stores a frame, in a buffer it fits. -/
def RingEntry.Stores (e : RingEntry β) (f : Frame β) : Prop :=
  ∃ capacity, f.size ≤ capacity ∧ e = f.entry (some capacity)

/-- The ring answers what the queue answers. -/
inductive Agrees : RingAnswer β → Answer (Frame β) → Prop
  | pushed : Agrees (.pushed 0) .pushed
  | empty : Agrees (.popped none) (.popped none)
  | popped {e : RingEntry β} {f : Frame β} (h : e.Stores f) :
      Agrees (.popped (some e)) (.popped (some f))
  | flushed : Agrees .flushed .flushed

/-! ### The simulation -/

/-- Every buffer is at least as large as it was at the start. -/
def RingBuffer.Allocated (rb : RingBuffer β) : Prop :=
  ∀ i, ∃ capacity, (rb.entries i).data = some capacity ∧ slotBytes ≤ capacity

/-- A ring represents a queue. -/
structure RingBuffer.Represents (rb : RingBuffer β) (q : List (Frame β)) : Prop where
  wf : rb.Wf
  allocated : rb.Allocated
  queued : List.Forall₂ RingEntry.Stores rb.queued q

variable {rb : RingBuffer β} {q : List (Frame β)}

theorem represents_ringInit : (ringInit fun _ => true : RingBuffer β).Represents [] where
  wf := ⟨Nat.zero_lt_succ _, Nat.zero_lt_succ _⟩
  allocated _ := ⟨slotBytes, rfl, le_rfl⟩
  queued := by
    rw [queued_ringInit]
    exact .nil

theorem RingBuffer.Represents.length_eq (h : rb.Represents q) : q.length = rb.fill := by
  rw [← length_queued, h.queued.length_eq]

theorem RingBuffer.Represents.full_iff (h : rb.Represents q) :
    rb.Full ↔ ¬ q.length < ringSize - 1 := by
  have hlt : rb.fill < ringSize := Circular.gap_lt h.wf.tail_lt
  rw [DisplayBridge.full_iff h.wf, h.length_eq]
  omega

/-- Making room drops the oldest frame of a full queue. -/
theorem RingBuffer.Represents.makeRoom (h : rb.Represents q) :
    rb.makeRoom.Represents (if q.length < ringSize - 1 then q else q.tail) where
  wf := wf_makeRoom h.wf
  allocated i := by
    rw [makeRoom_entries]
    exact h.allocated i
  queued := by
    rw [queued_makeRoom h.wf]
    by_cases hfull : rb.Full
    · rw [if_pos hfull, if_neg (h.full_iff.1 hfull), ← List.drop_one, ← List.drop_one]
      exact List.forall₂_drop 1 h.queued
    · rw [if_neg hfull, if_pos (not_not.1 (mt h.full_iff.2 hfull))]
      exact h.queued

/-- A frame is written to a ring that has room for it. -/
theorem RingBuffer.Represents.write (h : rb.Represents q) (hroom : rb.fill + 1 < ringSize)
    {f : Frame β} {capacity : ℕ} (hfits : f.size ≤ capacity) (hcapacity : slotBytes ≤ capacity) :
    (rb.write (some capacity) f).Represents (q ++ [f]) where
  wf := ⟨Circular.next_lt h.wf.head_lt, h.wf.tail_lt⟩
  allocated i := by
    by_cases hi : i = rb.head
    · have hnew : (rb.write (some capacity) f).entries rb.head = f.entry (some capacity) :=
        Function.update_self _ _ _
      rw [hi, hnew]
      exact ⟨capacity, rfl, hcapacity⟩
    · have hold : (rb.write (some capacity) f).entries i = rb.entries i :=
        Function.update_of_ne hi _ _
      rw [hold]
      exact h.allocated i
  queued := by
    rw [queued_write h.wf hroom]
    exact List.rel_append h.queued (.cons ⟨capacity, hfits, rfl⟩ .nil)

/-- **A push.** -/
theorem RingBuffer.Represents.push (h : rb.Represents q) (f : Frame β) :
    (ringPush rb f true).2.1 = 0 ∧
      (ringPush rb f true).1.Represents (DropOldest.step (ringSize - 1) q (.push f)) := by
  have hroom := h.makeRoom
  have hfill := fill_makeRoom h.wf
  rw [ringPush, DropOldest.step]
  by_cases hsize : slotBytes < f.size
  · -- the slot gets a buffer of the size of the frame
    rw [if_pos hsize]
    exact ⟨rfl, hroom.write hfill le_rfl hsize.le⟩
  · obtain ⟨capacity, hdata, hcapacity⟩ := hroom.allocated rb.makeRoom.head
    rw [if_neg hsize]
    refine ⟨rfl, ?_⟩
    dsimp only
    rw [hdata]
    exact hroom.write hfill ((not_lt.1 hsize).trans hcapacity) hcapacity

/-- **A pop.** -/
theorem RingBuffer.Represents.pop (h : rb.Represents q) :
    Agrees (rb.answer .pop) (.popped q.head?) ∧ (ringPop rb).1.Represents q.tail := by
  have hqueued := h.queued
  rw [RingBuffer.answer]
  cases hpop : ringPop rb with
  | mk rb' slot =>
    cases slot with
    | none =>
      obtain ⟨hempty, rfl⟩ := ringPop_eq_none h.wf hpop
      rw [hempty, List.forall₂_nil_left_iff] at hqueued
      subst hqueued
      exact ⟨.empty, h⟩
    | some slot =>
      obtain ⟨hcons, -, hwf⟩ := ringPop_eq_some h.wf hpop
      rw [hcons, List.forall₂_cons_left_iff] at hqueued
      obtain ⟨f, fs, hentry, hrest, rfl⟩ := hqueued
      have hentries := ringPop_entries rb
      rw [hpop] at hentries
      refine ⟨.popped hentry, hwf, fun i => ?_, hrest⟩
      rw [hentries]
      exact h.allocated i

/-- **A flush.** -/
theorem RingBuffer.Represents.flush (h : rb.Represents q) : (ringFlush rb).Represents [] where
  wf := wf_ringFlush h.wf
  allocated i := by
    rw [ringFlush_eq h.wf]
    exact h.allocated i
  queued := by
    rw [queued_ringFlush h.wf]
    exact .nil

/-- **The step lemma.** -/
theorem RingBuffer.Represents.step (h : rb.Represents q) (op : Op (Frame β)) :
    Agrees (rb.answer (ringCall op)) (DropOldest.answer q op) ∧
      (rb.apply (ringCall op)).Represents (DropOldest.step (ringSize - 1) q op) := by
  cases op with
  | push f =>
    obtain ⟨hcode, hnext⟩ := h.push f
    have hanswer : rb.answer (.push f true) = .pushed 0 := congrArg RingAnswer.pushed hcode
    exact ⟨hanswer ▸ .pushed, hnext⟩
  | pop => exact h.pop
  | flush => exact ⟨.flushed, h.flush⟩

/-! ### Whole runs -/

/-- The ring after some calls. -/
def ringAfter (ops : List (Op (Frame β))) : RingBuffer β :=
  (ops.map ringCall).foldl RingBuffer.apply (ringInit fun _ => true)

/-- **The frame ring is a bounded queue that drops the oldest.** After any calls the
indices are slots and at most seven frames are queued; every call has answered what the
queue answers, and what is queued is what is in the queue. Of the queue the books
balance: the frames pushed are those that have left – popped, in the order of the
answers, displaced or flushed – and those that are still there. -/
theorem frameRing_dropOldest (ops : List (Op (Frame β))) :
    (ringAfter ops).head < ringSize ∧ (ringAfter ops).tail < ringSize ∧
      (ringAfter ops).queued.length ≤ ringSize - 1 ∧
      List.Forall₂ Agrees
        (answers RingBuffer.apply RingBuffer.answer (ringInit fun _ => true) (ops.map ringCall))
        (answers (DropOldest.step (ringSize - 1)) DropOldest.answer [] ops) ∧
      List.Forall₂ RingEntry.Stores (ringAfter ops).queued
        (ops.foldl (DropOldest.step (ringSize - 1)) []) ∧
      ops.flatMap Op.entry = (history (ringSize - 1) [] ops).map Prod.snd ++
        ops.foldl (DropOldest.step (ringSize - 1)) [] ∧
      ((history (ringSize - 1) [] ops).filter (·.1 = .popped)).map Prod.snd =
        (answers (DropOldest.step (ringSize - 1)) DropOldest.answer [] ops).flatMap
          Answer.element := by
  obtain ⟨hanswers, hring⟩ := simulation (fun _ _ op h => RingBuffer.Represents.step h op) ops
    (represents_ringInit (β := β))
  have hlt : (ringAfter ops).fill < ringSize := Circular.gap_lt hring.wf.tail_lt
  refine ⟨hring.wf.head_lt, hring.wf.tail_lt, ?_, hanswers, hring.queued, ?_, ?_⟩
  · rw [length_queued]
    omega
  · exact balance (ringSize - 1) [] ops
  · exact popped_history (ringSize - 1) [] ops

end DisplayBridge
