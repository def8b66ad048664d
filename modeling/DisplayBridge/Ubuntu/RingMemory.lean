import Mathlib.Algebra.BigOperators.Group.Finset.Basic
import DisplayBridge.Lib.Resources
import DisplayBridge.Ubuntu.Ring

/-!
# The memory of the ring

`ring_init` allocates a buffer for each slot, `ring_push` frees the buffer of a slot and
allocates another if a frame is too large for it, and `ring_destroy` frees them all. Each of the
allocations may fail. Here the three are programs that own buffers: what they free and allocate
is what `DisplayBridge.ringPush` records, and a slot has a buffer exactly if its pointer is not
null (`DisplayBridge.RingMemory.owned`).

So whatever allocations fail, and whatever frames are pushed, `ring_destroy` frees the buffers
there are, each once (`DisplayBridge.RingMemory.holds_ringDestroy`). Where a push copies its
frame to is not followed here.
-/

namespace DisplayBridge

namespace RingMemory

open Resources Circular Finset

variable {α β : Type} (buffer : ℕ → α)

/-- The loop of `ring_init`, with the outcome of the allocation of each slot. -/
def allocateSlots (ok : ℕ → Bool) : ℕ → Prog α Unit
  | 0 => return ()
  | n + 1 => do
    allocateSlots ok n
    ifThere (ok n) (take [] (buffer n))

/-- `ring_init`. -/
def ringInit (ok : ℕ → Bool) : Prog α (RingBuffer β) := do
  allocateSlots buffer ok ringSize
  return DisplayBridge.ringInit ok

/-- What an access to the memory of a slot frees or allocates; the null pointer can be freed. -/
def perform (rb : RingBuffer β) : MemOp → Prog α Unit
  | .free slot => ifThere (rb.entries slot).data.isSome (release [] (buffer slot))
  | .malloc slot _ ok => ifThere ok (take [] (buffer slot))
  | .memcpy .. | .store .. => return ()

/-- What some accesses free and allocate. -/
def performAll (rb : RingBuffer β) : List MemOp → Prog α Unit
  | [] => return ()
  | op :: ops => do
    perform buffer rb op
    performAll rb ops

/-- The accesses of a call to the memory of the slots. -/
def memOps (rb : RingBuffer β) : RingOp β → List MemOp
  | .push f mallocOk => (ringPush rb f mallocOk).2.2
  | .pop | .flush => []

/-- A call to one of the operations of the ring. -/
def ringCall (rb : RingBuffer β) (op : RingOp β) : Prog α (RingBuffer β) := do
  performAll buffer rb (memOps rb op)
  return rb.apply op

/-- Some calls. -/
def ringCalls (rb : RingBuffer β) : List (RingOp β) → Prog α (RingBuffer β)
  | [] => return rb
  | op :: ops => do ringCalls (← ringCall buffer rb op) ops

/-- The loop of `ring_destroy`. -/
def freeSlots (rb : RingBuffer β) : ℕ → Prog α Unit
  | 0 => return ()
  | n + 1 => do
    freeSlots rb n
    ifThere (rb.entries n).data.isSome (release [] (buffer n))

/-- `ring_destroy`. -/
def ringDestroy (rb : RingBuffer β) : Prog α Unit := freeSlots buffer rb ringSize

/-- The buffer of a slot, if it has one. -/
def slotOwned (rb : RingBuffer β) (slot : ℕ) : Multiset α :=
  ownedIf (rb.entries slot).data.isSome {buffer slot}

/-- **The buffers a ring has.** -/
def owned (rb : RingBuffer β) : Multiset α := ∑ slot ∈ range ringSize, slotOwned buffer rb slot

variable {buffer} [DecidableEq α] {live : Multiset α} {rb : RingBuffer β}

theorem holds_allocateSlots (ok : ℕ → Bool) (n : ℕ) :
    Holds live (allocateSlots buffer ok n) fun _ live' =>
      live' = (∑ slot ∈ range n, slotOwned buffer (DisplayBridge.ringInit ok : RingBuffer β) slot) +
        live := by
  induction n with
  | zero => exact holds_pure.2 (zero_add live).symm
  | succ n ih =>
    refine ih.bind ?_
    rintro ⟨⟩ _ rfl
    refine (holds_ifThere_take (ok n) (buffer n)).mono fun _ live' h => ?_
    have hdata : ((DisplayBridge.ringInit ok : RingBuffer β).entries n).data.isSome = ok n := by
      cases h : ok n <;> simp [DisplayBridge.ringInit, h]
    rw [h, sum_range_succ, slotOwned, hdata, add_left_comm, add_assoc]

theorem holds_ringInit (ok : ℕ → Bool) :
    Holds live (ringInit buffer ok) fun rb live' =>
      rb = (DisplayBridge.ringInit ok : RingBuffer β) ∧ live' = owned buffer rb + live := by
  refine (holds_allocateSlots (β := β) ok ringSize).bind ?_
  rintro ⟨⟩ _ rfl
  exact holds_pure.2 ⟨rfl, rfl⟩

theorem holds_freeSlots (rb : RingBuffer β) (n : ℕ) :
    Holds ((∑ slot ∈ range n, slotOwned buffer rb slot) + live) (freeSlots buffer rb n)
      fun _ live' => live' = live := by
  induction n generalizing live with
  | zero => exact holds_pure.2 (zero_add live)
  | succ n ih =>
    rw [sum_range_succ, add_assoc]
    refine ih.bind ?_
    rintro ⟨⟩ _ rfl
    exact holds_ifThere_release _ _

/-- **All buffers are freed**, each once. -/
theorem holds_ringDestroy (rb : RingBuffer β) :
    Holds (owned buffer rb + live) (ringDestroy buffer rb) fun _ live' => live' = live :=
  holds_freeSlots rb ringSize

/-! ### Pushes -/

/-- The buffers of the other slots. -/
def othersOwned (buffer : ℕ → α) (rb : RingBuffer β) (slot : ℕ) : Multiset α :=
  ∑ other ∈ (range ringSize).erase slot, slotOwned buffer rb other

omit [DecidableEq α] in
theorem owned_eq {slot : ℕ} (h : slot < ringSize) :
    owned buffer rb = slotOwned buffer rb slot + othersOwned buffer rb slot :=
  (add_sum_erase _ _ (mem_range.2 h)).symm

omit [DecidableEq α] in
/-- A push changes the buffer of its own slot only. -/
theorem othersOwned_ringPush (f : Frame β) (ok : Bool) :
    othersOwned buffer (ringPush rb f ok).1 rb.head = othersOwned buffer rb rb.head := by
  refine sum_congr rfl fun other hother => ?_
  rw [slotOwned, ringPush_entries (ne_of_mem_erase hother), slotOwned]

/-- The pointer of the slot a push is to: a large frame leaves it as its allocation says, and
another one as it was. -/
theorem isSome_data_ringPush (f : Frame β) (ok : Bool) :
    ((ringPush rb f ok).1.entries rb.head).data.isSome =
      if slotBytes < f.size then ok else (rb.entries rb.head).data.isSome := by
  rw [ringPush]
  by_cases hlarge : slotBytes < f.size
  · rw [if_pos hlarge, if_pos hlarge]
    cases ok with
    | true => simp [RingBuffer.write]
    | false => simp [RingBuffer.loseBuffer]
  · rw [if_neg hlarge, if_neg hlarge]
    simp [RingBuffer.write]

/-- What a push does to buffers: for a large frame one is freed, and one allocated. -/
theorem performAll_ringPush (f : Frame β) (ok : Bool) {Q : Multiset α → Prop} :
    Holds live (performAll buffer rb (ringPush rb f ok).2.2) (fun _ => Q) ↔
      if slotBytes < f.size then
        Holds live (ifThere (rb.entries rb.head).data.isSome (release [] (buffer rb.head)))
          fun _ live' => Holds live' (ifThere ok (take [] (buffer rb.head))) fun _ => Q
      else Q live := by
  rw [ringPush]
  by_cases hlarge : slotBytes < f.size
  · rw [if_pos hlarge, if_pos hlarge]
    cases ok <;> simp [performAll, perform]
  · rw [if_neg hlarge, if_neg hlarge]
    simp [performAll, perform]

/-- **A push** frees and allocates what the pointers say afterwards. -/
theorem holds_ringPush (hwf : rb.Wf) (f : Frame β) (ok : Bool) :
    Holds (owned buffer rb + live) (performAll buffer rb (ringPush rb f ok).2.2)
      fun _ live' => live' = owned buffer (ringPush rb f ok).1 + live := by
  have hafter : owned buffer (ringPush rb f ok).1 =
      slotOwned buffer (ringPush rb f ok).1 rb.head + othersOwned buffer rb rb.head := by
    rw [owned_eq hwf.head_lt, othersOwned_ringPush]
  rw [performAll_ringPush, hafter, owned_eq hwf.head_lt, add_assoc, add_assoc, slotOwned,
    slotOwned, isSome_data_ringPush]
  split
  · exact (holds_ifThere_release _ _).mono fun _ _ h => h ▸ holds_ifThere_take ok _
  · rfl

theorem wf_apply (hwf : rb.Wf) (op : RingOp β) : (rb.apply op).Wf := by
  cases op with
  | push f ok => exact wf_ringPush hwf f ok
  | pop => exact wf_ringPop hwf
  | flush =>
    rw [RingBuffer.apply, ringFlush_eq hwf]
    exact ⟨hwf.head_lt, hwf.head_lt⟩

omit [DecidableEq α] in
/-- The buffers of a ring are those its pointers point to. -/
theorem owned_congr {rb' : RingBuffer β} (h : rb'.entries = rb.entries) :
    owned buffer rb' = owned buffer rb := by
  refine sum_congr rfl fun slot _ => ?_
  rw [slotOwned, h, slotOwned]

/-- **A call to the ring.** -/
theorem holds_ringCall (hwf : rb.Wf) (op : RingOp β) :
    Holds (owned buffer rb + live) (ringCall buffer rb op) fun rb' live' =>
      rb'.Wf ∧ live' = owned buffer rb' + live := by
  have hsame : (rb.apply op).entries = rb.entries → Holds (owned buffer rb + live)
      (pure (rb.apply op)) fun rb' live' => rb'.Wf ∧ live' = owned buffer rb' + live := by
    intro h
    exact holds_pure.2 ⟨wf_apply hwf op, by rw [owned_congr h]⟩
  cases op with
  | push f ok =>
    refine (holds_ringPush hwf f ok).bind ?_
    rintro ⟨⟩ _ rfl
    exact holds_pure.2 ⟨wf_ringPush hwf f ok, rfl⟩
  | pop => exact hsame (ringPop_entries rb)
  | flush => exact hsame (by rw [RingBuffer.apply, ringFlush_eq hwf])

/-- **Some calls to the ring.** -/
theorem holds_ringCalls (hwf : rb.Wf) (ops : List (RingOp β)) :
    Holds (owned buffer rb + live) (ringCalls buffer rb ops) fun rb' live' =>
      rb'.Wf ∧ live' = owned buffer rb' + live := by
  induction ops generalizing rb with
  | nil => exact holds_pure.2 ⟨hwf, rfl⟩
  | cons op ops ih =>
    refine (holds_ringCall hwf op).bind ?_
    rintro rb' _ ⟨hwf', rfl⟩
    exact ih hwf'

end RingMemory

end DisplayBridge
