import DisplayBridge.Ubuntu.Bitstream

/-!
# How much escaping adds

`add_emulation_prevention` puts a byte before every byte up to 3 that follows two zeros.
Its comment asks for a buffer of four thirds of the length, as if the bytes put in were at
least three apart. But the byte put in starts a new count, and a zero behind it is the
first of the new count: in a long run of zeros every second one has a byte put before it.

So what is added depends on the runs of zeros only, and on the byte behind each of them
(`DisplayBridge.length_addEmulationPrevention`). The bound of the comment holds exactly if
this is at most a third of the length
(`DisplayBridge.length_addEmulationPrevention_le_iff`); the bound that always holds is one
and a half times the length (`DisplayBridge.length_addEmulationPrevention_le`).
-/

namespace DisplayBridge

/-! ### Runs of zeros -/

/-- The runs of zeros of some bytes, the first of which goes on: before each byte that is
not zero how many there are and which byte it is, and how many at the end. -/
def zeroRuns : ℕ → List UInt8 → List (ℕ × Option UInt8)
  | r, [] => [(r, none)]
  | r, b :: bs => if b = 0 then zeroRuns (r + 1) bs else (r, some b) :: zeroRuns 0 bs

/-- The bytes that are put into a run of zeros: one before every second zero behind the
first, and one before the byte behind the run, if it is escaped too. -/
def escapesIn : ℕ × Option UInt8 → ℕ
  | (r, some b) => if b ≤ 3 then r / 2 else (r - 1) / 2
  | (r, none) => (r - 1) / 2

/-- The bytes that are put into all of them. -/
def escapes (runs : List (ℕ × Option UInt8)) : ℕ := (runs.map escapesIn).sum

/-- The count of zeros in a run of the given length. -/
def zerosIn (r : ℕ) : ℕ := if r = 0 then 0 else if r % 2 = 1 then 1 else 2

theorem two_le_zerosIn_iff (r : ℕ) : 2 ≤ zerosIn r ↔ r ≠ 0 ∧ r % 2 = 0 := by
  rw [zerosIn]
  split
  · omega
  · split <;> omega

/-- Behind two zeros the count starts again, and elsewhere it goes up. -/
theorem zerosIn_succ (r : ℕ) :
    zerosIn (r + 1) = if 2 ≤ zerosIn r then 0 + 1 else zerosIn r + 1 := by
  have htwo := two_le_zerosIn_iff r
  by_cases h : 2 ≤ zerosIn r
  · rw [if_pos h, zerosIn, if_neg (Nat.succ_ne_zero r), if_pos (by omega)]
  · rw [if_neg h, zerosIn, if_neg (Nat.succ_ne_zero r), zerosIn]
    split
    · split <;> omega
    · split
      · omega
      · split <;> omega

/-- **The invariant of the loop**: inside a run of `r` zeros, for which it has put in
`(r - 1) / 2` bytes. -/
theorem length_escapeFrom (r : ℕ) (src : List UInt8) :
    (escapeFrom (zerosIn r) src).length + (r - 1) / 2 =
      src.length + escapes (zeroRuns r src) := by
  induction src generalizing r with
  | nil => simp [escapeFrom, zeroRuns, escapes, escapesIn]
  | cons b src ih =>
    have htwo := two_le_zerosIn_iff r
    rw [escapeFrom, zeroRuns, List.length_cons]
    by_cases hb : b = 0
    · -- one zero more in the run
      have hrun := ih (r + 1)
      have hle : b ≤ 3 := hb ▸ by decide
      rw [zerosIn_succ] at hrun
      rw [if_pos hb, if_pos hb, if_pos hb]
      split
      · next hescape =>
        rw [if_pos hescape.1] at hrun
        simp only [List.length_cons]
        omega
      · next hno =>
        have hone : ¬ 2 ≤ zerosIn r := fun h => hno ⟨h, hle⟩
        rw [if_neg hone] at hrun
        simp only [List.length_cons]
        omega
    · -- the run is over
      have hrest : (escapeFrom 0 src).length = src.length + escapes (zeroRuns 0 src) := ih 0
      have hadded : escapes ((r, some b) :: zeroRuns 0 src) =
          escapesIn (r, some b) + escapes (zeroRuns 0 src) := List.sum_cons
      rw [if_neg hb, if_neg hb, if_neg hb, hadded, escapesIn]
      split
      · next hescape =>
        rw [if_pos hescape.2]
        simp only [List.length_cons]
        omega
      · next hno =>
        have hfew : (if b ≤ 3 then r / 2 else (r - 1) / 2) = (r - 1) / 2 := by
          split
          · next hle =>
            have hone : ¬ 2 ≤ zerosIn r := fun h => hno ⟨h, hle⟩
            omega
          · rfl
        rw [hfew, List.length_cons]
        omega

/-- **What escaping adds** are the bytes put into the runs of zeros. -/
theorem length_addEmulationPrevention (src : List UInt8) :
    (addEmulationPrevention src).length = src.length + escapes (zeroRuns 0 src) :=
  length_escapeFrom 0 src

/-! ### Bounds -/

theorem escapesIn_le (run : ℕ × Option UInt8) : escapesIn run ≤ run.1 / 2 := by
  obtain ⟨r, _ | b⟩ := run
  · rw [escapesIn]
    omega
  · rw [escapesIn]
    split <;> omega

/-- At most every second byte behind the first one has a byte put before it. -/
theorem escapes_zeroRuns_le (r : ℕ) (src : List UInt8) :
    escapes (zeroRuns r src) ≤ (r + src.length - 1) / 2 := by
  induction src generalizing r with
  | nil => simp [zeroRuns, escapes, escapesIn]
  | cons b src ih =>
    rw [zeroRuns, List.length_cons]
    split
    · have hrun := ih (r + 1)
      omega
    · have hrest := ih 0
      have hrun := escapesIn_le (r, some b)
      rw [escapes, List.map_cons, List.sum_cons, ← escapes]
      dsimp only at hrun
      omega

/-- **The bound that holds**: one and a half times the length. -/
theorem length_addEmulationPrevention_le (src : List UInt8) :
    (addEmulationPrevention src).length ≤ src.length + (src.length - 1) / 2 := by
  have hescapes := escapes_zeroRuns_le 0 src
  rw [Nat.zero_add] at hescapes
  rw [length_addEmulationPrevention]
  omega

/-- Zeros alone reach it. -/
theorem length_addEmulationPrevention_zeros (n : ℕ) :
    (addEmulationPrevention (List.replicate n 0)).length = n + (n - 1) / 2 := by
  have hruns : ∀ r, zeroRuns r (List.replicate n 0) = [(r + n, none)] := by
    induction n with
    | zero => exact fun r => rfl
    | succ n ih =>
      intro r
      rw [List.replicate_succ, zeroRuns, if_pos rfl, ih, Nat.add_right_comm, Nat.add_assoc]
  rw [length_addEmulationPrevention, hruns, List.length_replicate, Nat.zero_add]
  rfl

/-- **When the bound of the comment holds**: exactly if a third of the length is enough
for the bytes put into the runs of zeros. -/
theorem length_addEmulationPrevention_le_iff (src : List UInt8) :
    (addEmulationPrevention src).length ≤ 4 * src.length / 3 ↔
      3 * escapes (zeroRuns 0 src) ≤ src.length := by
  rw [length_addEmulationPrevention]
  omega

/-- **Five zeros are enough to break it**: a byte is put before the third and the fifth. -/
theorem not_length_addEmulationPrevention_le :
    ¬ ∀ src : List UInt8, (addEmulationPrevention src).length ≤ 4 * src.length / 3 :=
  fun h => absurd (h [0, 0, 0, 0, 0]) (by decide)

end DisplayBridge
