import Mathlib.Data.Multiset.OrderedMonoid
import DisplayBridge.Lib.Calls
import DisplayBridge.Lib.Handles

/-!
# Programs that own resources

A program that asks a system for resources – memory, descriptors, connections – does four
things with them: it acquires one, which may fail; it takes one that it cannot be refused;
it attempts something, which may fail; and it releases one. For each of these it may need
others that it has (the display for a buffer, the loop for a context). Nothing is assumed
about when something fails. Such a program is a `Calls.Prog` over these calls
(`Resources.Prog`), and what it does to its resources is a history of handles.

`Resources.Holds` is the judgement about such a program: whatever it is answered, from the
resources it starts with it needs and releases only what it has, and it ends with a
result and with resources as promised. There is one rule for each call and one for each way
to put programs together; all are equivalences and rewrite a program into a statement on
multisets. What was shown of a part is used through `Resources.Holds.bind`, without looking
into it.
-/

namespace Resources

open Handles

/-- What a program does with resources, and which it needs for it. -/
inductive Call (α : Type)
  | acquire (via : List α) (a : α)
  | take (via : List α) (a : α)
  | attempt (via : List α)
  | release (via : List α) (a : α)
deriving DecidableEq

variable {α β γ : Type}

/-- What it is answered. -/
def Call.Ans : Call α → Type
  | .acquire _ _ | .attempt _ => Bool
  | .take _ _ | .release _ _ => Unit

/-- A system in which nothing fails. -/
def Call.succeed : ∀ i : Call α, i.Ans
  | .acquire _ _ | .attempt _ => true
  | .take _ _ | .release _ _ => ()

/-- A program that owns resources. -/
abbrev Prog (α β : Type) := Calls.Prog (Call α) Call.Ans β

/-- A call with its answer. -/
abbrev Event (α : Type) := Calls.Event (Call.Ans (α := α))

/-- A call of its own. -/
def perform (i : Call α) : Prog α i.Ans := Calls.Prog.perform i

/-- Whether `a` was acquired. -/
def acquire (via : List α) (a : α) : Prog α Bool := perform (.acquire via a)

/-- A call that takes a resource, and cannot fail. -/
def take (via : List α) (a : α) : Prog α Unit := perform (.take via a)

/-- Whether it has succeeded. -/
def attempt (via : List α) : Prog α Bool := perform (.attempt via)

/-- A resource is given back. -/
def release (via : List α) (a : α) : Prog α Unit := perform (.release via a)

/-- What a call does to the resources. -/
def ops : Event α → List (Op α)
  | ⟨.acquire via a, ok⟩ => via.map .used ++ if (show Bool from ok) then [.opened a] else []
  | ⟨.take via a, _⟩ => via.map .used ++ [.opened a]
  | ⟨.attempt via, _⟩ => via.map .used
  | ⟨.release via a, _⟩ => via.map .used ++ [.closed a]

variable [DecidableEq α]

/-- **The judgement**: from the resources `live`, a program needs and releases only what it
has, and `Q` holds of its result and of what it has in the end. -/
def Holds (live : Multiset α) (p : Prog α β) (Q : β → Multiset α → Prop) : Prop :=
  p.Meets fun t b => Sound live (t.flatMap ops) ∧ Q b (after live (t.flatMap ops))

variable {live : Multiset α} {via : List α} {l : List (Op α)} {p : Prog α β} {f : β → Prog α γ}
  {a : α} {b : β}

/-! ### What is needed -/

theorem after_needs : after live (via.map .used ++ l) = after live l := by
  induction via with
  | nil => rfl
  | cons a via ih => exact ih

theorem sound_needs :
    Sound live (via.map .used ++ l) ↔ (∀ a ∈ via, a ∈ live) ∧ Sound live l := by
  induction via with
  | nil => exact (and_iff_right fun _ hno => absurd hno List.not_mem_nil).symm
  | cons a via ih => rw [List.map_cons, List.cons_append, sound_used, ih, List.forall_mem_cons,
      and_assoc]

/-! ### The rules -/

theorem Holds.mono {Q Q' : β → Multiset α → Prop} (h : Holds live p Q)
    (hQ : ∀ b live', Q b live' → Q' b live') : Holds live p Q' :=
  Calls.Prog.Meets.mono h fun _ _ ht => ⟨ht.1, hQ _ _ ht.2⟩

@[simp] theorem holds_pure {Q : β → Multiset α → Prop} :
    Holds live (Pure.pure b : Prog α β) Q ↔ Q b live :=
  Calls.Prog.meets_pure.trans (and_iff_right trivial)

theorem holds_perform {i : Call α} {Q : i.Ans → Multiset α → Prop} :
    Holds live (perform i) Q ↔
      ∀ ans, Sound live (ops ⟨i, ans⟩) ∧ Q ans (after live (ops ⟨i, ans⟩)) := by
  refine Calls.Prog.meets_perform.trans ?_
  simp only [List.flatMap_cons, List.flatMap_nil, List.append_nil]

@[simp] theorem holds_acquire {Q : Bool → Multiset α → Prop} :
    Holds live (acquire via a) Q ↔
      (∀ x ∈ via, x ∈ live) ∧ Q true (a ::ₘ live) ∧ Q false live := by
  refine holds_perform.trans ?_
  simp only [ops, sound_needs, after_needs]
  constructor
  · intro h
    exact ⟨(h true).1.1, (h true).2, (h false).2⟩
  · rintro ⟨hvia, htrue, hfalse⟩ (- | -)
    · exact ⟨⟨hvia, trivial⟩, hfalse⟩
    · exact ⟨⟨hvia, sound_opened.2 trivial⟩, htrue⟩

@[simp] theorem holds_take {Q : Unit → Multiset α → Prop} :
    Holds live (take via a) Q ↔ (∀ x ∈ via, x ∈ live) ∧ Q () (a ::ₘ live) := by
  refine holds_perform.trans ?_
  simp only [ops, sound_needs, after_needs]
  constructor
  · intro h
    exact ⟨(h ()).1.1, (h ()).2⟩
  · rintro ⟨hvia, hQ⟩ ⟨⟩
    exact ⟨⟨hvia, sound_opened.2 trivial⟩, hQ⟩

@[simp] theorem holds_attempt {Q : Bool → Multiset α → Prop} :
    Holds live (attempt via) Q ↔ (∀ x ∈ via, x ∈ live) ∧ Q true live ∧ Q false live := by
  have hsound : Sound live (via.map .used) ↔ ∀ x ∈ via, x ∈ live := by
    rw [← List.append_nil (via.map Op.used), sound_needs]
    exact and_iff_left trivial
  have hafter : after live (via.map .used) = live := by
    rw [← List.append_nil (via.map Op.used), after_needs, after_nil]
  refine holds_perform.trans ?_
  simp only [ops, hsound, hafter]
  constructor
  · intro h
    exact ⟨(h true).1, (h true).2, (h false).2⟩
  · rintro ⟨hvia, htrue, hfalse⟩ (- | -)
    · exact ⟨hvia, hfalse⟩
    · exact ⟨hvia, htrue⟩

@[simp] theorem holds_release {Q : Unit → Multiset α → Prop} :
    Holds live (release via a) Q ↔
      (∀ x ∈ via, x ∈ live) ∧ a ∈ live ∧ Q () (live.erase a) := by
  refine holds_perform.trans ?_
  simp only [ops, sound_needs, after_needs]
  constructor
  · intro h
    exact ⟨(h ()).1.1, (sound_closed.1 (h ()).1.2).1, (h ()).2⟩
  · rintro ⟨hvia, hmem, hQ⟩ ⟨⟩
    exact ⟨⟨hvia, sound_closed.2 ⟨hmem, trivial⟩⟩, hQ⟩

/-- **One program after another.** -/
@[simp] theorem holds_bind {Q : γ → Multiset α → Prop} :
    Holds live (p >>= f) Q ↔ Holds live p fun b live' => Holds live' (f b) Q := by
  refine Calls.Prog.meets_bind.trans ?_
  constructor
  · intro h t b ht
    have hsome := h t b ht
    -- the second part has at least one trace, so the first part is sound
    have hboth := (hsome _ _ (Calls.Prog.trace_run Call.succeed (f b))).1
    rw [List.flatMap_append, sound_append] at hboth
    refine ⟨hboth.1, fun t' c ht' => ?_⟩
    have hrest : Sound live ((t ++ t').flatMap ops) ∧ Q c (after live ((t ++ t').flatMap ops)) :=
      hsome t' c ht'
    rw [List.flatMap_append, sound_append, after_append] at hrest
    exact ⟨hrest.1.2, hrest.2⟩
  · intro h t b ht t' c ht'
    obtain ⟨hsound, hrest⟩ := h t b ht
    obtain ⟨hsound', hQ⟩ := hrest t' c ht'
    show Sound live ((t ++ t').flatMap ops) ∧ Q c (after live ((t ++ t').flatMap ops))
    rw [List.flatMap_append, sound_append, after_append]
    exact ⟨⟨hsound, hsound'⟩, hQ⟩

/-- **A part is used by what was shown of it.** -/
theorem Holds.bind {Q : β → Multiset α → Prop} {Q' : γ → Multiset α → Prop}
    (h : Holds live p Q) (hf : ∀ b live', Q b live' → Holds live' (f b) Q') :
    Holds live (p >>= f) Q' :=
  holds_bind.2 (h.mono hf)

/-- **A program that has this judgement has it of one of its runs**, the one in which nothing
fails. -/
theorem Holds.succeed {Q : β → Multiset α → Prop} (h : Holds live p Q) :
    Q (p.run Call.succeed).2 (after live ((p.run Call.succeed).1.flatMap ops)) :=
  (h _ _ (Calls.Prog.trace_run Call.succeed p)).2

/-! ### What may be there -/

/-- What is only done for something that is there. -/
def ifThere (there : Bool) (p : Prog α Unit) : Prog α Unit :=
  if there then p else return ()

/-- What is owned if it is there. -/
def ownedIf (there : Bool) (owned : Multiset α) : Multiset α := if there then owned else 0

theorem holds_ifThere {p : Prog α Unit} {owned : Multiset α} (there : Bool)
    (hp : Holds (owned + live) p fun _ live' => live' = live) :
    Holds (ownedIf there owned + live) (ifThere there p) fun _ live' => live' = live := by
  cases there with
  | true => exact hp
  | false => exact holds_pure.2 (zero_add live)

/-- What may be there is released. -/
theorem holds_ifThere_release (there : Bool) (a : α) :
    Holds (ownedIf there {a} + live) (ifThere there (release [] a))
      fun _ live' => live' = live := by
  refine holds_ifThere there (holds_release.2 ⟨by simp, by simp, ?_⟩)
  rw [Multiset.singleton_add, Multiset.erase_cons_head]

/-- What may come is taken. -/
theorem holds_ifThere_take (there : Bool) (a : α) :
    Holds live (ifThere there (take [] a)) fun _ live' => live' = ownedIf there {a} + live := by
  cases there with
  | true => exact holds_take.2 ⟨by simp, (Multiset.singleton_add a live).symm⟩
  | false => exact holds_pure.2 (zero_add live).symm

end Resources
