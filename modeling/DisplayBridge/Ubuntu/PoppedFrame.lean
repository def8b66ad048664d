import DisplayBridge.Ubuntu.Ring

/-!
# How long a popped frame stays readable

`ring_pop` returns the address of a slot and gives the slot back in the same
step: the read index moves past it. What protects the reader from then on is
distance. The writer comes round the circle, and the slot is overwritten by the
push that finds the write index on it.

That distance is the number of frames the ring held at the pop, the popped one
included, and only pushes that store a frame shorten it. So the frame survives a
list of pushes exactly when the stored ones among them, the last push aside, leave
the count below the size of the ring (`DisplayBridge.poppedStable_iff`). With
one frame queued that is seven pushes; with the ring full, it is one.
-/

namespace DisplayBridge

open Circular

variable {β : Type}

/-- **A slot is left alone by a list of pushes**: after each of them its entry is
what it was, and none of them made an access to it. -/
def PoppedStable (slot : ℕ) : RingBuffer β → List (Frame β × Bool) → Prop
  | _, [] => True
  | rb, p :: ps =>
    (ringPush rb p.1 p.2).1.entries slot = rb.entries slot ∧
      (∀ op ∈ (ringPush rb p.1 p.2).2.2, op.slot ≠ slot) ∧
      PoppedStable slot (ringPush rb p.1 p.2).1 ps

/-- The pushes that store a frame, the last push of the list aside. -/
def storedBeforeLast (ps : List (Frame β × Bool)) : ℕ := ps.dropLast.countP fun p => Stores p

variable {rb : RingBuffer β}

/-- A push with the write index on the slot is an access to it. -/
theorem not_poppedStable_of_head {slot : ℕ} (h : rb.head = slot) (p : Frame β × Bool)
    (ps : List (Frame β × Bool)) : ¬PoppedStable slot rb (p :: ps) := by
  rintro ⟨-, hops, -⟩
  obtain ⟨hslot, hne⟩ := ringPush_slot rb p.1 p.2
  obtain ⟨op, hop⟩ := List.exists_mem_of_ne_nil _ hne
  exact hops op hop ((hslot op hop).trans h)

/-- A push with the write index elsewhere leaves the slot alone. -/
theorem poppedStable_cons {slot : ℕ} (h : rb.head ≠ slot) (p : Frame β × Bool)
    (ps : List (Frame β × Bool)) :
    PoppedStable slot rb (p :: ps) ↔ PoppedStable slot (ringPush rb p.1 p.2).1 ps := by
  refine ⟨fun hs => hs.2.2, fun hs => ⟨ringPush_entries h.symm _ _, fun op hop hslot => ?_, hs⟩⟩
  exact h (((ringPush_slot rb p.1 p.2).1 op hop).symm.trans hslot)

/-- **The writer comes round**: a slot at a positive distance behind the write
index survives as long as the stored pushes do not use that distance up. -/
theorem poppedStable_iff_gap {slot : ℕ} (hslot : slot < ringSize) (h : rb.Wf)
    (hgap : 0 < gap ringSize slot rb.head) (ps : List (Frame β × Bool)) :
    PoppedStable slot rb ps ↔ gap ringSize slot rb.head + storedBeforeLast ps < ringSize := by
  induction ps generalizing rb with
  | nil => exact iff_of_true trivial (gap_lt hslot)
  | cons p ps ih =>
    have hne : rb.head ≠ slot := fun he => by
      rw [he, gap_self hslot] at hgap
      exact lt_irrefl 0 hgap
    have hlt : gap ringSize slot rb.head < ringSize := gap_lt hslot
    have hhead := ringPush_head rb p.1 p.2
    have hwf := wf_ringPush h p.1 p.2
    rw [poppedStable_cons hne]
    cases ps with
    | nil => exact iff_of_true trivial hlt
    | cons q ps =>
      have hcount : storedBeforeLast (p :: q :: ps) =
          storedBeforeLast (q :: ps) + if Stores p then 1 else 0 := by
        simp [storedBeforeLast, List.countP_cons]
      rw [hcount]
      by_cases hst : Stores p
      · rw [if_pos hst] at hhead ⊢
        by_cases hfull : gap ringSize slot rb.head + 1 < ringSize
        · -- the write index moves one place closer
          have hg := gap_succ_right hslot h.head_lt hfull
          rw [ih hwf (by rw [hhead, hg]; omega), hhead, hg]
          omega
        · -- the write index reaches the slot, and the next push is to it
          have hat : (ringPush rb p.1 p.2).1.head = slot :=
            hhead.trans ((next_eq_iff hslot h.head_lt).mpr (by omega))
          exact iff_of_false (not_poppedStable_of_head hat q ps) (by omega)
      · rw [if_neg hst] at hhead ⊢
        rw [ih hwf (by rw [hhead]; exact hgap), hhead]
        rfl

/-- **A popped frame stays readable exactly as long as the ring does not come
round**: the frames queued at the pop and the pushes that stored one before the
last push number fewer than the slots. -/
theorem poppedStable_iff (h : rb.Reachable) {rb' : RingBuffer β} {slot : ℕ}
    (hpop : ringPop rb = (rb', some slot)) (ps : List (Frame β × Bool)) :
    PoppedStable slot rb' ps ↔ rb.fill + storedBeforeLast ps < ringSize := by
  have hwf := h.wf
  have hne : rb.head ≠ rb.tail := by
    intro heq
    rw [ringPop, if_pos heq] at hpop
    exact absurd (congrArg Prod.snd hpop) (by simp)
  rw [ringPop, if_neg hne] at hpop
  obtain ⟨rfl, hslot⟩ := Prod.mk.inj hpop
  obtain rfl : rb.tail = slot := Option.some.inj hslot
  have hpos : 0 < rb.fill :=
    Nat.pos_of_ne_zero fun h0 => hne ((gap_eq_zero hwf.tail_lt hwf.head_lt).mp h0).symm
  have hwf' : RingBuffer.Wf { rb with tail := next ringSize rb.tail } :=
    ⟨hwf.head_lt, next_lt hwf.tail_lt⟩
  exact poppedStable_iff_gap hwf.tail_lt hwf' hpos ps

/-! ### A full ring -/

/-- A small frame. -/
def smallFrame (k : ℕ) : Frame ℕ := ⟨k, 100, 0, false⟩

/-- The ring after a number of small frames were pushed into it. -/
def ringOf (k : ℕ) : RingBuffer ℕ :=
  List.foldl RingBuffer.apply (ringInit fun _ => true)
    ((List.range k).map fun i => .push (smallFrame i) true)

theorem reachable_ringOf (k : ℕ) : (ringOf k).Reachable := ⟨_, _, rfl⟩

/-- On a full ring the popped frame survives one push. -/
theorem poppedStable_one_push :
    PoppedStable 0 (ringPop (ringOf 7)).1 [(smallFrame 7, true)] :=
  (poppedStable_iff (reachable_ringOf 7) (Prod.ext rfl rfl) _).mpr (by decide)

/-- **On a full ring the popped frame does not survive two pushes**: the second
one is written over it. -/
theorem not_poppedStable_two_pushes :
    ringPop (ringOf 7) = ((ringPop (ringOf 7)).1, some 0) ∧
      ¬PoppedStable 0 (ringPop (ringOf 7)).1 [(smallFrame 7, true), (smallFrame 8, true)] := by
  refine ⟨Prod.ext rfl rfl, ?_⟩
  rintro ⟨-, -, hstable, -⟩
  exact absurd (congrArg RingEntry.content hstable) (by decide)

end DisplayBridge
