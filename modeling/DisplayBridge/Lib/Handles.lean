import Mathlib.Data.Multiset.AddSub

/-!
# Handles that are opened, used and closed

A program that works with handles – sockets, files, buffers of a driver – leaves behind a
history of what it has done to them: a handle was opened, used, or closed. Such a
history is sound (`Handles.Sound`) if a handle is used, and closed, only while it is open.

The open handles are a multiset, so nothing has to be said about the numbers a system gives
out: a number that comes back after its handle was closed is simply open again. What a sound
history has done to a handle is a matter of counting (`Handles.count_opened`): as often as
it was opened it was closed, up to what was open before and is open after. In
particular, a sound history that starts and ends with nothing open has closed everything it
has opened exactly once.
-/

namespace Handles

variable {α : Type*}

/-- What is done to a handle. -/
inductive Op (α : Type*)
  | opened (a : α)
  | used (a : α)
  | closed (a : α)
deriving DecidableEq

/-- The handle that has to be open. -/
def Op.needs : Op α → Option α
  | .opened _ => none
  | .used a | .closed a => some a

variable [DecidableEq α]

/-- The open handles after a step. -/
def Op.next (live : Multiset α) : Op α → Multiset α
  | .opened a => a ::ₘ live
  | .used _ => live
  | .closed a => live.erase a

/-- The open handles after a history. -/
def after (live : Multiset α) (l : List (Op α)) : Multiset α := l.foldl Op.next live

/-- **A sound history**: handles are used and closed while they are open. -/
def Sound : Multiset α → List (Op α) → Prop
  | _, [] => True
  | live, op :: l => (∀ a, op.needs = some a → a ∈ live) ∧ Sound (op.next live) l

instance decidableSound : ∀ (live : Multiset α) (l : List (Op α)), Decidable (Sound live l)
  | _, [] => inferInstanceAs (Decidable True)
  | live, op :: l =>
    have := decidableSound (op.next live) l
    inferInstanceAs (Decidable ((∀ a ∈ op.needs, a ∈ live) ∧ Sound (op.next live) l))

variable {live : Multiset α} {l l' : List (Op α)}

/-! ### Step by step -/

@[simp] theorem after_nil (live : Multiset α) : after live [] = live := rfl

@[simp] theorem after_opened (live : Multiset α) (a : α) (l : List (Op α)) :
    after live (.opened a :: l) = after (a ::ₘ live) l := rfl

@[simp] theorem after_used (live : Multiset α) (a : α) (l : List (Op α)) :
    after live (.used a :: l) = after live l := rfl

@[simp] theorem after_closed (live : Multiset α) (a : α) (l : List (Op α)) :
    after live (.closed a :: l) = after (live.erase a) l := rfl

@[simp] theorem sound_nil (live : Multiset α) : Sound live [] := trivial

@[simp] theorem sound_opened {a : α} :
    Sound live (.opened a :: l) ↔ Sound (a ::ₘ live) l :=
  and_iff_right fun _ hno => by cases hno

@[simp] theorem sound_used {a : α} : Sound live (.used a :: l) ↔ a ∈ live ∧ Sound live l :=
  and_congr_left fun _ => ⟨fun h => h a rfl, fun h _ hb => Option.some.inj hb ▸ h⟩

@[simp] theorem sound_closed {a : α} :
    Sound live (.closed a :: l) ↔ a ∈ live ∧ Sound (live.erase a) l :=
  and_congr_left fun _ => ⟨fun h => h a rfl, fun h _ hb => Option.some.inj hb ▸ h⟩

/-! ### Whole histories -/

theorem after_append (live : Multiset α) (l l' : List (Op α)) :
    after live (l ++ l') = after (after live l) l' := by
  rw [after, List.foldl_append]
  rfl

/-- **One history after another.** -/
theorem sound_append : Sound live (l ++ l') ↔ Sound live l ∧ Sound (after live l) l' := by
  induction l generalizing live with
  | nil => exact ⟨fun h => ⟨trivial, h⟩, fun h => h.2⟩
  | cons op l ih =>
    rw [List.cons_append, Sound, Sound, ih, and_assoc]
    rfl

/-- What is open was open before, or was opened. -/
theorem mem_after {a : α} (h : a ∈ after live l) : a ∈ live ∨ .opened a ∈ l := by
  induction l generalizing live with
  | nil => exact .inl h
  | cons op l ih =>
    rcases ih h with hlive | hopened
    · cases op with
      | opened b =>
        rcases Multiset.mem_cons.1 hlive with rfl | hlive
        · exact .inr List.mem_cons_self
        · exact .inl hlive
      | used b => exact .inl hlive
      | closed b => exact .inl (Multiset.mem_of_mem_erase hlive)
    · exact .inr (List.mem_cons_of_mem _ hopened)

/-- How often a handle was opened. -/
def opens (a : α) (l : List (Op α)) : ℕ := l.count (.opened a)

/-- How often a handle was closed. -/
def closes (a : α) (l : List (Op α)) : ℕ := l.count (.closed a)

/-- **What is opened is closed**, or still open. -/
theorem count_opened (h : Sound live l) (a : α) :
    live.count a + opens a l = (after live l).count a + closes a l := by
  induction l generalizing live with
  | nil => rfl
  | cons op l ih =>
    obtain ⟨hneeds, hrest⟩ := h
    have hcount := ih hrest
    change live.count a + opens a (op :: l) =
      (after (op.next live) l).count a + closes a (op :: l)
    cases op with
    | opened b =>
      have hopens : opens a (.opened b :: l) = opens a l + if b = a then 1 else 0 := by
        simp [opens, List.count_cons]
      have hcloses : closes a (.opened b :: l) = closes a l := by
        simp [closes]
      have hnext : (Op.next live (.opened b)).count a = live.count a + if b = a then 1 else 0 := by
        rw [Op.next, Multiset.count_cons]
        simp only [eq_comm]
      omega
    | used b =>
      have hopens : opens a (.used b :: l) = opens a l := by simp [opens]
      have hcloses : closes a (.used b :: l) = closes a l := by simp [closes]
      have hnext : (Op.next live (.used b)).count a = live.count a := rfl
      omega
    | closed b =>
      have hopens : opens a (.closed b :: l) = opens a l := by simp [opens]
      have hcloses : closes a (.closed b :: l) = closes a l + if b = a then 1 else 0 := by
        simp [closes, List.count_cons]
      have hnext : (Op.next live (.closed b)).count a + (if b = a then 1 else 0) =
          live.count a := by
        have hlive : b ∈ live := hneeds b rfl
        rw [Op.next]
        by_cases hba : b = a
        · have hpos := Multiset.count_pos.2 hlive
          rw [if_pos hba, ← hba, Multiset.count_erase_self]
          omega
        · rw [if_neg hba, Multiset.count_erase_of_ne (Ne.symm hba)]
          rfl
      omega

/-- **Everything is closed exactly once** if nothing is open in the end. -/
theorem closes_eq (h : Sound live l) (hend : after live l = 0) (a : α) :
    closes a l = live.count a + opens a l := by
  have hcount := count_opened h a
  rw [hend, Multiset.count_zero, Nat.zero_add] at hcount
  exact hcount.symm

end Handles
