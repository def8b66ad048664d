import DisplayBridge.Ubuntu.Ring

/-!
# The frame ring is a queue

The entries between the two indices, in order (`DisplayBridge.RingBuffer.queued`),
and what the operations of the ring do to them. A push that stores puts its frame
at the end, after dropping the oldest one if the ring is full
(`DisplayBridge.queued_ringPush`); a pop takes the oldest
(`DisplayBridge.ringPop_eq_some`); a flush leaves nothing
(`DisplayBridge.queued_ringFlush`). What a popped slot holds afterwards is not part
of the queue – it stays as it was until a push comes round to the slot, and that
push finds the ring full (`DisplayBridge.ringPush_popped`).
-/

namespace DisplayBridge

open Circular

variable {β : Type} {rb : RingBuffer β}

/-- The queued entries, oldest first. -/
def RingBuffer.queued (rb : RingBuffer β) : List (RingEntry β) :=
  (places ringSize rb.tail rb.head).map rb.entries

/-- The entry a frame is stored as. -/
def Frame.entry (f : Frame β) (data : Option ℕ) : RingEntry β :=
  ⟨data, some f.data, f.size, f.pts, f.isKeyframe⟩

/-- The ring starts empty. -/
theorem queued_ringInit (ok : ℕ → Bool) : (ringInit ok : RingBuffer β).queued = [] :=
  congrArg (List.map _) (places_self (by decide : 0 < ringSize))

theorem queued_eq_nil_iff (h : rb.Wf) : rb.queued = [] ↔ rb.tail = rb.head := by
  rw [RingBuffer.queued, List.map_eq_nil_iff, places_eq_nil_iff h.tail_lt h.head_lt]

/-- The queue, taken apart at its front. -/
theorem queued_eq_cons (h : rb.Wf) (hne : rb.tail ≠ rb.head) :
    rb.queued = rb.entries rb.tail :: { rb with tail := next ringSize rb.tail }.queued := by
  rw [RingBuffer.queued, places_eq_cons h.tail_lt h.head_lt hne]
  rfl

/-- A ring that stayed as it was between its indices has the same queue. -/
theorem queued_congr {rb' : RingBuffer β} (h : rb.Wf) (htail : rb'.tail = rb.tail)
    (hhead : rb'.head = rb.head) (hentries : ∀ i, i ≠ rb.head → rb'.entries i = rb.entries i) :
    rb'.queued = rb.queued := by
  rw [RingBuffer.queued, RingBuffer.queued, htail, hhead]
  refine List.map_congr_left fun i hi => hentries i ?_
  rintro rfl
  exact not_mem_places h.tail_lt h.head_lt hi

theorem length_queued (rb : RingBuffer β) : rb.queued.length = rb.fill := by
  rw [RingBuffer.queued, places, List.length_map, List.length_map, List.length_range,
    RingBuffer.fill]

theorem full_iff (h : rb.Wf) : rb.Full ↔ rb.fill + 1 = ringSize :=
  next_eq_iff h.tail_lt h.head_lt

/-- Making room drops the oldest entry of a full ring, and nothing else. -/
theorem queued_makeRoom (h : rb.Wf) :
    rb.makeRoom.queued = if rb.Full then rb.queued.tail else rb.queued := by
  rw [RingBuffer.makeRoom]
  by_cases hfull : rb.Full
  · have hne : rb.tail ≠ rb.head := by
      intro heq
      have hfill := (full_iff h).1 hfull
      rw [RingBuffer.fill, heq, gap_self h.head_lt] at hfill
      exact absurd hfill (by decide)
    rw [if_pos hfull, if_pos hfull, queued_eq_cons h hne, List.tail_cons]
  · rw [if_neg hfull, if_neg hfull]

theorem mem_queued_of_makeRoom (h : rb.Wf) {e : RingEntry β} (he : e ∈ rb.makeRoom.queued) :
    e ∈ rb.queued := by
  rw [queued_makeRoom h] at he
  split at he
  · exact List.mem_of_mem_tail he
  · exact he

/-- There is room once it has been made. -/
theorem fill_makeRoom (h : rb.Wf) : rb.makeRoom.fill + 1 < ringSize := by
  have hlt : rb.fill < ringSize := gap_lt h.tail_lt
  rw [RingBuffer.makeRoom]
  by_cases hfull : rb.Full
  · have hfill := (full_iff h).1 hfull
    have hpos : 0 < gap ringSize rb.tail rb.head := by
      rw [RingBuffer.fill, ringSize] at hfill
      rw [ringSize]
      omega
    have hsucc := gap_succ_left h.tail_lt h.head_lt hpos
    rw [if_pos hfull]
    change gap ringSize (next ringSize rb.tail) rb.head + 1 < ringSize
    rw [RingBuffer.fill] at hfill
    omega
  · have hfill := mt (full_iff h).2 hfull
    rw [if_neg hfull]
    omega

/-- Writing a frame to a ring that has room puts it at the end of the queue. -/
theorem queued_write (h : rb.Wf) (hroom : rb.fill + 1 < ringSize) (data : Option ℕ)
    (f : Frame β) : (rb.write data f).queued = rb.queued ++ [f.entry data] := by
  have hnew : (rb.write data f).entries rb.head = f.entry data := Function.update_self _ _ _
  have hold : ∀ i ∈ places ringSize rb.tail rb.head,
      (rb.write data f).entries i = rb.entries i := by
    intro i hi
    refine Function.update_of_ne ?_ _ _
    rintro rfl
    exact not_mem_places h.tail_lt h.head_lt hi
  have hplaces : places ringSize (rb.write data f).tail (rb.write data f).head =
      places ringSize rb.tail rb.head ++ [rb.head] :=
    places_next h.tail_lt h.head_lt hroom
  rw [RingBuffer.queued, hplaces, List.map_append, List.map_congr_left hold, List.map_cons,
    List.map_nil, hnew]
  rfl

/-- **A push** puts its frame at the end of the queue, or – when no buffer is found
for it – only makes room. -/
theorem queued_ringPush (h : rb.Wf) (f : Frame β) (ok : Bool) :
    ∃ data, (ringPush rb f ok).1.queued =
      if Stores (f, ok) then rb.makeRoom.queued ++ [f.entry data] else rb.makeRoom.queued := by
  have hroom := wf_makeRoom h
  have hwrite := fun data => queued_write hroom (fill_makeRoom h) data f
  rw [ringPush]
  by_cases hsize : slotBytes < f.size
  · rw [if_pos hsize]
    cases ok with
    | true => exact ⟨_, (hwrite _).trans (if_pos (Or.inr rfl)).symm⟩
    | false =>
      have hstores : ¬ Stores (f, false) := by simp [Stores, hsize]
      refine ⟨none, ?_⟩
      rw [if_neg hstores]
      exact queued_congr hroom rfl rfl fun i hi => Function.update_of_ne hi _ _
  · rw [if_neg hsize]
    exact ⟨_, (hwrite _).trans (if_pos (Or.inl (not_lt.1 hsize))).symm⟩

/-- **A pop** that returns a slot takes the oldest entry, which is in that slot. -/
theorem ringPop_eq_some (h : rb.Wf) {rb' : RingBuffer β} {slot : ℕ}
    (hpop : ringPop rb = (rb', some slot)) :
    rb.queued = rb'.entries slot :: rb'.queued ∧ next ringSize slot = rb'.tail ∧ rb'.Wf := by
  have hwf : (ringPop rb).1.Wf := wf_ringPop h
  rw [hpop] at hwf
  rw [ringPop] at hpop
  by_cases hempty : rb.head = rb.tail
  · rw [if_pos hempty] at hpop
    cases (Prod.ext_iff.1 hpop).2
  · rw [if_neg hempty] at hpop
    obtain ⟨rfl, hslot⟩ := Prod.ext_iff.1 hpop
    obtain rfl : rb.tail = slot := Option.some.inj hslot
    exact ⟨queued_eq_cons h (Ne.symm hempty), rfl, hwf⟩

/-- A pop that returns nothing found nothing. -/
theorem ringPop_eq_none (h : rb.Wf) {rb' : RingBuffer β} (hpop : ringPop rb = (rb', none)) :
    rb.queued = [] ∧ rb' = rb := by
  rw [ringPop] at hpop
  by_cases hempty : rb.head = rb.tail
  · rw [if_pos hempty] at hpop
    exact ⟨(queued_eq_nil_iff h).2 hempty.symm, (Prod.ext_iff.1 hpop).1.symm⟩
  · rw [if_neg hempty] at hpop
    cases (Prod.ext_iff.1 hpop).2

/-- **A flush** leaves nothing. -/
theorem queued_ringFlush (h : rb.Wf) : (ringFlush rb).queued = [] := by
  have hwf : RingBuffer.Wf { rb with tail := rb.head } := ⟨h.head_lt, h.head_lt⟩
  rw [ringFlush_eq h]
  exact (queued_eq_nil_iff hwf).2 rfl

theorem wf_ringFlush (h : rb.Wf) : (ringFlush rb).Wf := by
  rw [ringFlush_eq h]
  exact ⟨h.head_lt, h.head_lt⟩

/-- **The slot popped last** is not touched by a push, unless the ring is full. -/
theorem ringPush_popped {slot : ℕ} (hslot : next ringSize slot = rb.tail)
    (hfull : ¬ rb.Full) (f : Frame β) (ok : Bool) :
    (ringPush rb f ok).1.entries slot = rb.entries slot ∧
      (ringPush rb f ok).1.tail = rb.tail := by
  have hne : slot ≠ rb.head := by
    rintro rfl
    exact hfull hslot
  have hroom : rb.makeRoom = rb := if_neg hfull
  refine ⟨ringPush_entries hne f ok, ?_⟩
  rw [ringPush, hroom]
  split_ifs <;> rfl

end DisplayBridge
