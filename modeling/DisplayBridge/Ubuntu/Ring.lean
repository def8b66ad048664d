import DisplayBridge.Lib.Circular

/-!
# The frame ring of the sender

The ring buffer of `main.c` that carries encoded frames from the capture thread
to the main thread: eight slots, a write index `head` and a read index `tail`.
Every operation takes the mutex for its whole length, so each is one step here;
a `ring_pop` that waits is a `ring_pop` at the moment it stops waiting.

The ring never looks at the bytes of a frame, so they are a type parameter. What
it does with them is recorded: `DisplayBridge.ringPush` returns, next to the
ring and the result, the list of its accesses to slot memory
(`DisplayBridge.MemOp`), because an access can be wrong – a copy into a null
pointer, a write into a slot somebody still reads – without any field of the
ring showing it.

The one quantity everything is measured by is the number of queued frames,
`DisplayBridge.RingBuffer.fill`: the gap between the two indices on the circle.
-/

namespace DisplayBridge

open Circular

/-- `RING_SIZE`. -/
def ringSize : ℕ := 8

/-- The size of the buffer each slot starts with. -/
def slotBytes : ℕ := 4 * 1024 * 1024

/-- A frame as `ring_push` receives it. -/
structure Frame (β : Type) where
  data : β
  size : ℕ
  pts : UInt64
  isKeyframe : Bool
deriving DecidableEq

/-- `ring_entry_t`. The pointer `data` is given by the capacity of the buffer it
points to, `none` being the null pointer, and `content` is what was last copied
into that buffer. -/
structure RingEntry (β : Type) where
  data : Option ℕ
  content : Option β
  size : ℕ
  pts : UInt64
  isKeyframe : Bool
deriving DecidableEq

/-- `ring_buffer_t`, without the lock. -/
structure RingBuffer (β : Type) where
  entries : ℕ → RingEntry β
  head : ℕ
  tail : ℕ

/-- An access to the memory of a slot. -/
inductive MemOp
  /-- The buffer of the slot is freed. -/
  | free (slot : ℕ)
  /-- A buffer is allocated for the slot, or not. -/
  | malloc (slot size : ℕ) (ok : Bool)
  /-- Bytes are copied into the buffer of the slot, whose capacity is given. -/
  | memcpy (slot : ℕ) (dst : Option ℕ) (size : ℕ)
  /-- The size, time stamp and keyframe flag of the slot are written. -/
  | store (slot : ℕ)
deriving DecidableEq, Repr

/-- The slot an access is to. -/
def MemOp.slot : MemOp → ℕ
  | .free i | .malloc i _ _ | .memcpy i _ _ | .store i => i

variable {β : Type}

/-! ### The operations -/

/-- `ring_init`, with the outcome of the allocation of each slot. -/
def ringInit (ok : ℕ → Bool) : RingBuffer β where
  entries i := ⟨if ok i then some slotBytes else none, none, 0, 0, false⟩
  head := 0
  tail := 0

/-- The slot after the write index is the read index. -/
def RingBuffer.Full (rb : RingBuffer β) : Prop := next ringSize rb.head = rb.tail

instance (rb : RingBuffer β) : Decidable rb.Full :=
  inferInstanceAs (Decidable (next ringSize rb.head = rb.tail))

/-- The drop-oldest branch of `ring_push`. -/
def RingBuffer.makeRoom (rb : RingBuffer β) : RingBuffer β :=
  if rb.Full then { rb with tail := next ringSize rb.tail } else rb

/-- The end of `ring_push`: the frame is copied into the slot at the write index
and the index advances. -/
def RingBuffer.write (rb : RingBuffer β) (data : Option ℕ) (f : Frame β) : RingBuffer β where
  entries := Function.update rb.entries rb.head
    ⟨data, some f.data, f.size, f.pts, f.isKeyframe⟩
  head := next ringSize rb.head
  tail := rb.tail

/-- The failing end of `ring_push`: the buffer of the slot has been freed and no
other was found. -/
def RingBuffer.loseBuffer (rb : RingBuffer β) : RingBuffer β :=
  { rb with
    entries := Function.update rb.entries rb.head
      { rb.entries rb.head with data := none, content := none } }

/-- `ring_push`, with the outcome of the allocation it may make. -/
def ringPush (rb : RingBuffer β) (f : Frame β) (mallocOk : Bool) :
    RingBuffer β × ℤ × List MemOp :=
  let rb := rb.makeRoom
  if slotBytes < f.size then
    -- a frame larger than the first buffer: the slot gets one of its own
    if mallocOk then
      (rb.write (some f.size) f, 0, [.free rb.head, .malloc rb.head f.size true,
        .memcpy rb.head (some f.size) f.size, .store rb.head])
    else (rb.loseBuffer, -1, [.free rb.head, .malloc rb.head f.size false])
  else
    -- whatever the slot points to, its size is not looked at
    let data := (rb.entries rb.head).data
    (rb.write data f, 0, [.memcpy rb.head data f.size, .store rb.head])

/-- `ring_pop`: the slot whose address is returned, or nothing on a ring that
stayed empty. -/
def ringPop (rb : RingBuffer β) : RingBuffer β × Option ℕ :=
  if rb.head = rb.tail then (rb, none)
  -- the slot is given back before its entry has been read
  else ({ rb with tail := next ringSize rb.tail }, some rb.tail)

/-- The loop of `ring_flush`: it drops at most as many frames as it is given. -/
def flushLoop (rb : RingBuffer β) : ℕ → RingBuffer β
  | 0 => rb
  | k + 1 => if rb.head ≠ rb.tail then flushLoop { rb with tail := next ringSize rb.tail } k else rb

/-- `ring_flush`. No ring holds more frames than it has slots, so its loop ends
by itself (`DisplayBridge.ringFlush_eq`). -/
def ringFlush (rb : RingBuffer β) : RingBuffer β := flushLoop rb ringSize

/-! ### Reachable rings -/

/-- A call to one of the operations. -/
inductive RingOp (β : Type)
  /-- The capture thread pushes a frame. -/
  | push (f : Frame β) (mallocOk : Bool)
  /-- The main thread pops a frame. -/
  | pop
  /-- The main thread flushes the ring. -/
  | flush

/-- The ring after a call. -/
def RingBuffer.apply (rb : RingBuffer β) : RingOp β → RingBuffer β
  | .push f mallocOk => (ringPush rb f mallocOk).1
  | .pop => (ringPop rb).1
  | .flush => ringFlush rb

/-- The rings the sender can have, whatever allocations fail. -/
def RingBuffer.Reachable (rb : RingBuffer β) : Prop :=
  ∃ ok ops, List.foldl RingBuffer.apply (ringInit ok) ops = rb

/-- The two indices are slots. -/
structure RingBuffer.Wf (rb : RingBuffer β) : Prop where
  head_lt : rb.head < ringSize
  tail_lt : rb.tail < ringSize

/-- The number of queued frames. -/
def RingBuffer.fill (rb : RingBuffer β) : ℕ := gap ringSize rb.tail rb.head

/-- A push that returns 0: the frame fits the buffer every slot starts with, or
the allocation succeeds. -/
def Stores (p : Frame β × Bool) : Prop := p.1.size ≤ slotBytes ∨ p.2 = true

instance (p : Frame β × Bool) : Decidable (Stores p) :=
  inferInstanceAs (Decidable (p.1.size ≤ slotBytes ∨ p.2 = true))

/-! ### What one operation does -/

variable {rb : RingBuffer β}

@[simp] theorem makeRoom_head : rb.makeRoom.head = rb.head := by
  rw [RingBuffer.makeRoom]
  split_ifs <;> rfl

@[simp] theorem makeRoom_entries : rb.makeRoom.entries = rb.entries := by
  rw [RingBuffer.makeRoom]
  split_ifs <;> rfl

theorem wf_makeRoom (h : rb.Wf) : rb.makeRoom.Wf := by
  rw [RingBuffer.makeRoom]
  split_ifs
  · exact ⟨h.head_lt, next_lt h.tail_lt⟩
  · exact h

/-- A push is to the slot at the write index: every access it makes is to that
slot, and there is one. -/
theorem ringPush_slot (rb : RingBuffer β) (f : Frame β) (ok : Bool) :
    (∀ op ∈ (ringPush rb f ok).2.2, op.slot = rb.head) ∧ (ringPush rb f ok).2.2 ≠ [] := by
  rw [ringPush, makeRoom_head]
  split_ifs <;> simp [MemOp.slot]

/-- **A push leaves every other slot alone.** -/
theorem ringPush_entries {i : ℕ} (hi : i ≠ rb.head) (f : Frame β) (ok : Bool) :
    (ringPush rb f ok).1.entries i = rb.entries i := by
  have hi' : i ≠ rb.makeRoom.head := by rwa [makeRoom_head]
  rw [ringPush]
  split_ifs
  · exact (Function.update_of_ne hi' _ _).trans (by rw [makeRoom_entries])
  · exact (Function.update_of_ne hi' _ _).trans (by rw [makeRoom_entries])
  · exact (Function.update_of_ne hi' _ _).trans (by rw [makeRoom_entries])

/-- A push advances the write index exactly when it returns 0. -/
theorem ringPush_head (rb : RingBuffer β) (f : Frame β) (ok : Bool) :
    (ringPush rb f ok).1.head = if Stores (f, ok) then next ringSize rb.head else rb.head := by
  rw [ringPush]
  by_cases hsize : slotBytes < f.size
  · rw [if_pos hsize]
    cases ok with
    | true =>
      have hstores : Stores (f, true) := Or.inr rfl
      rw [if_pos rfl, if_pos hstores]
      exact congrArg (next ringSize) makeRoom_head
    | false =>
      have hstores : ¬Stores (f, false) := by simp [Stores, hsize]
      rw [if_neg (by simp), if_neg hstores]
      exact makeRoom_head
  · have hstores : Stores (f, ok) := Or.inl (not_lt.mp hsize)
    rw [if_neg hsize, if_pos hstores]
    exact congrArg (next ringSize) makeRoom_head

theorem wf_ringPush (h : rb.Wf) (f : Frame β) (ok : Bool) : (ringPush rb f ok).1.Wf := by
  have hroom := wf_makeRoom h
  rw [ringPush]
  split_ifs
  · exact ⟨next_lt hroom.head_lt, hroom.tail_lt⟩
  · exact ⟨hroom.head_lt, hroom.tail_lt⟩
  · exact ⟨next_lt hroom.head_lt, hroom.tail_lt⟩

/-- A pop changes no slot. -/
theorem ringPop_entries (rb : RingBuffer β) : (ringPop rb).1.entries = rb.entries := by
  rw [ringPop]
  split_ifs <;> rfl

theorem wf_ringPop (h : rb.Wf) : (ringPop rb).1.Wf := by
  rw [ringPop]
  split_ifs
  · exact h
  · exact ⟨h.head_lt, next_lt h.tail_lt⟩

/-- An empty ring is not changed by emptying it. -/
theorem tail_eq_head (h : rb.tail = rb.head) : { rb with tail := rb.head } = rb := by
  obtain ⟨entries, head, tail⟩ := rb
  exact congrArg (RingBuffer.mk entries head) h.symm

/-- Dropping frames one by one empties a ring that holds no more than that. -/
theorem flushLoop_eq {k : ℕ} (h : rb.Wf) (hk : rb.fill ≤ k) :
    flushLoop rb k = { rb with tail := rb.head } := by
  induction k generalizing rb with
  | zero =>
    have heq : rb.tail = rb.head := (gap_eq_zero h.tail_lt h.head_lt).mp (Nat.le_zero.mp hk)
    rw [flushLoop, tail_eq_head heq]
  | succ k ih =>
    rw [flushLoop]
    by_cases heq : rb.head = rb.tail
    · rw [if_neg (not_not.mpr heq), tail_eq_head heq.symm]
    · rw [if_pos heq]
      have hpos : 0 < rb.fill := by
        refine Nat.pos_of_ne_zero fun h0 => heq ?_
        exact ((gap_eq_zero h.tail_lt h.head_lt).mp h0).symm
      have hsucc := gap_succ_left h.tail_lt h.head_lt hpos
      refine ih ⟨h.head_lt, next_lt h.tail_lt⟩ ?_
      change gap ringSize (next ringSize rb.tail) rb.head ≤ k
      rw [RingBuffer.fill] at hk
      omega

/-- **A flush empties the ring.** -/
theorem ringFlush_eq (h : rb.Wf) : ringFlush rb = { rb with tail := rb.head } :=
  flushLoop_eq h (gap_lt h.tail_lt).le

/-- **The indices of a reachable ring are slots.** -/
theorem RingBuffer.Reachable.wf (h : rb.Reachable) : rb.Wf := by
  obtain ⟨ok, ops, rfl⟩ := h
  have hinit : (ringInit ok : RingBuffer β).Wf := ⟨Nat.zero_lt_succ _, Nat.zero_lt_succ _⟩
  generalize (ringInit ok : RingBuffer β) = rb at hinit
  induction ops generalizing rb with
  | nil => exact hinit
  | cons op ops ih =>
    refine ih _ ?_
    cases op with
    | push f ok => exact wf_ringPush hinit f ok
    | pop => exact wf_ringPop hinit
    | flush =>
      rw [RingBuffer.apply, ringFlush_eq hinit]
      exact ⟨hinit.head_lt, hinit.head_lt⟩

end DisplayBridge
