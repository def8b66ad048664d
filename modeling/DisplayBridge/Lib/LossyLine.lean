import Mathlib.Data.Set.Insert

/-!
# A line that may lose what waits in it

Items are numbered in the order they enter. They wait, oldest first, and the oldest
is delivered next; but any of them may be lost on the way. A session is a stretch of
deliveries; when a new one starts, the items at the front may be discarded.

Nothing is delivered out of order, and within a session nothing disappears without
being lost: what was delivered last and what is delivered next have only lost items
between them (`Lossy.Line.lost_of_between`). The line carries this in its fields
(`Lossy.Line`), so every operation is a construction of a line, and a system that
is followed by a line step by step has the property in every state.
-/

namespace Lossy

/-- The state of the line: how many items have entered, which of them wait, which
are lost, and which was delivered last in this session. -/
structure Line where
  count : ℕ
  waiting : List ℕ
  lost : Set ℕ
  mark : Option ℕ
  sorted : waiting.Pairwise (· < ·)
  lt_count : ∀ n ∈ waiting, n < count
  mark_lt : ∀ m ∈ mark, m < count ∧ ∀ n ∈ waiting, m < n
  /-- What entered after an item that waits, or after the one delivered last, waits
  or is lost. -/
  accounted : ∀ m, m ∈ waiting ∨ m ∈ mark → ∀ n, m < n → n < count → n ∈ waiting ∨ n ∈ lost

/-- The line before anything has entered. -/
def Line.empty : Line where
  count := 0
  waiting := []
  lost := ∅
  mark := none
  sorted := List.Pairwise.nil
  lt_count _ hn := absurd hn List.not_mem_nil
  mark_lt _ hm := absurd hm nofun
  accounted _ _ n _ hn := absurd hn (Nat.not_lt_zero n)

variable (L : Line)

/-- The next item enters. -/
def Line.enter : Line where
  count := L.count + 1
  waiting := L.waiting ++ [L.count]
  lost := L.lost
  mark := L.mark
  sorted := by
    rw [List.pairwise_append]
    refine ⟨L.sorted, List.pairwise_singleton _ _, ?_⟩
    intro n hn m hm
    obtain rfl : m = L.count := List.mem_singleton.1 hm
    exact L.lt_count n hn
  lt_count := by
    intro n hn
    rcases List.mem_append.1 hn with hn | hn
    · exact Nat.lt_succ_of_lt (L.lt_count n hn)
    · obtain rfl : n = L.count := List.mem_singleton.1 hn
      exact Nat.lt_succ_self _
  mark_lt := by
    intro m hm
    refine ⟨Nat.lt_succ_of_lt (L.mark_lt m hm).1, fun n hn => ?_⟩
    rcases List.mem_append.1 hn with hn | hn
    · exact (L.mark_lt m hm).2 n hn
    · obtain rfl : n = L.count := List.mem_singleton.1 hn
      exact (L.mark_lt m hm).1
  accounted := by
    intro m hm n hmn hn
    rcases Nat.lt_succ_iff_lt_or_eq.1 hn with hlt | rfl
    · have hm' : m ∈ L.waiting ∨ m ∈ L.mark := by
        rcases hm with hm | hm
        · rcases List.mem_append.1 hm with hm | hm
          · exact .inl hm
          · -- the new item is the youngest
            obtain rfl : m = L.count := List.mem_singleton.1 hm
            exact absurd hlt (Nat.not_lt_of_gt hmn)
        · exact .inr hm
      exact (L.accounted m hm' n hmn hlt).imp_left (List.mem_append_left _)
    · exact .inl (List.mem_append_right _ (List.mem_singleton_self _))

/-- Items are lost: only these still wait. -/
def Line.lose {w : List ℕ} (h : w.Sublist L.waiting) : Line where
  count := L.count
  waiting := w
  lost := L.lost ∪ {n | n ∈ L.waiting ∧ n ∉ w}
  mark := L.mark
  sorted := L.sorted.sublist h
  lt_count n hn := L.lt_count n (h.subset hn)
  mark_lt m hm := ⟨(L.mark_lt m hm).1, fun n hn => (L.mark_lt m hm).2 n (h.subset hn)⟩
  accounted := by
    intro m hm n hmn hn
    rcases L.accounted m (hm.imp_left fun hm => h.subset hm) n hmn hn with hwait | hlost
    · by_cases hkept : n ∈ w
      · exact .inl hkept
      · exact .inr (.inr ⟨hwait, hkept⟩)
    · exact .inr (.inl hlost)

/-- The oldest item is delivered. -/
def Line.deliver {g : ℕ} {rest : List ℕ} (h : L.waiting = g :: rest) : Line where
  count := L.count
  waiting := rest
  lost := L.lost
  mark := some g
  sorted := by
    have hsorted := L.sorted
    rw [h] at hsorted
    exact hsorted.of_cons
  lt_count n hn := L.lt_count n (h ▸ List.mem_cons_of_mem _ hn)
  mark_lt := by
    rintro m ⟨⟩
    have hsorted := L.sorted
    rw [h, List.pairwise_cons] at hsorted
    exact ⟨L.lt_count g (h ▸ List.mem_cons_self), hsorted.1⟩
  accounted := by
    intro m hm n hmn hn
    have hgm : m ∈ L.waiting ∧ g ≤ m := by
      have hsorted := L.sorted
      rw [h, List.pairwise_cons] at hsorted
      rcases hm with hm | hm
      · exact ⟨h ▸ List.mem_cons_of_mem _ hm, (hsorted.1 m hm).le⟩
      · obtain rfl : g = m := Option.some.inj hm
        exact ⟨h ▸ List.mem_cons_self, le_rfl⟩
    rcases L.accounted m (.inl hgm.1) n hmn hn with hwait | hlost
    · rw [h] at hwait
      rcases List.mem_cons.1 hwait with rfl | hwait
      · exact absurd hmn (Nat.not_lt_of_le hgm.2)
      · exact .inl hwait
    · exact .inr hlost

/-- A session starts; only these items, from the end of the line, still wait. -/
def Line.restart {w : List ℕ} (h : w <:+ L.waiting) : Line where
  count := L.count
  waiting := w
  lost := L.lost
  mark := none
  sorted := L.sorted.sublist h.sublist
  lt_count n hn := L.lt_count n (h.subset hn)
  mark_lt _ hm := absurd hm nofun
  accounted := by
    intro m hm n hmn hn
    have hm : m ∈ w := hm.resolve_right nofun
    rcases L.accounted m (.inl (h.subset hm)) n hmn hn with hwait | hlost
    · -- what waits and entered after an item that is kept is kept as well
      obtain ⟨dropped, heq⟩ := h
      have hsorted := L.sorted
      rw [← heq, List.pairwise_append] at hsorted
      rw [← heq] at hwait
      rcases List.mem_append.1 hwait with hdropped | hkept
      · exact absurd hmn (Nat.not_lt_of_gt (hsorted.2.2 n hdropped m hm))
      · exact .inl hkept
    · exact .inr hlost

variable {L}

/-- **Between two deliveries everything was lost.** -/
theorem Line.lost_of_between {m g n : ℕ} {rest : List ℕ} (hmark : L.mark = some m)
    (hwaiting : L.waiting = g :: rest) (hm : m < n) (hg : n < g) : n ∈ L.lost := by
  have hlt : g < L.count := L.lt_count g (hwaiting ▸ List.mem_cons_self)
  refine (L.accounted m (.inr hmark) n hm (hg.trans hlt)).resolve_left ?_
  intro hwait
  have hsorted := L.sorted
  rw [hwaiting, List.pairwise_cons] at hsorted
  rw [hwaiting] at hwait
  rcases List.mem_cons.1 hwait with rfl | hwait
  · exact absurd hg (lt_irrefl _)
  · exact absurd hg (Nat.not_lt_of_gt (hsorted.1 n hwait))

/-- Deliveries are in order. -/
theorem Line.mark_lt_head {m g : ℕ} {rest : List ℕ} (hmark : L.mark = some m)
    (hwaiting : L.waiting = g :: rest) : m < g :=
  (L.mark_lt m hmark).2 g (hwaiting ▸ List.mem_cons_self)

end Lossy
