import Mathlib.Data.List.ReduceOption
import Mathlib.Data.List.Nodup
import Mathlib.Logic.Function.Basic

/-!
# Tables whose entries refer to one another

An entry of a table has a key, and an array of references to the keys of some other table. The
array has holes: a reference is put into the first one (`References.store`), and taking it out
leaves one (`References.erase`). What such an array means are its values, in their order.

A table is sound over a list of keys if its own keys are distinct, and if every reference of every
entry is to one of these keys and occurs once (`References.Sound`). That is what has to be kept
so that no reference dangles: a key may leave the list only when it has been taken out of every
entry (`References.Sound.detachAll`).
-/

namespace References

variable {ι α : Type*} [DecidableEq ι]

/-! ### Arrays with holes -/

/-- A value is put into the first hole. -/
def store (a : ι) : List (Option ι) → List (Option ι)
  | [] => [some a]
  | none :: slots => some a :: slots
  | some b :: slots => some b :: store a slots

/-- A value is taken out, wherever it is. -/
def erase (a : ι) (slots : List (Option ι)) : List (Option ι) :=
  slots.map fun slot => if slot = some a then none else slot

omit [DecidableEq ι] in
theorem mem_values_store {a b : ι} {slots : List (Option ι)} :
    b ∈ (store a slots).reduceOption ↔ b = a ∨ b ∈ slots.reduceOption := by
  induction slots with
  | nil => simp [store, List.reduceOption]
  | cons slot slots ih =>
    cases slot with
    | none => simp [store, List.reduceOption_cons_of_some, List.reduceOption_cons_of_none]
    | some c =>
      rw [store, List.reduceOption_cons_of_some, List.reduceOption_cons_of_some, List.mem_cons,
        List.mem_cons, ih]
      exact or_left_comm

omit [DecidableEq ι] in
theorem nodup_values_store {a : ι} {slots : List (Option ι)} (h : slots.reduceOption.Nodup)
    (ha : a ∉ slots.reduceOption) : (store a slots).reduceOption.Nodup := by
  induction slots with
  | nil => simp [store, List.reduceOption]
  | cons slot slots ih =>
    cases slot with
    | none =>
      rw [List.reduceOption_cons_of_none] at h ha
      rw [store, List.reduceOption_cons_of_some]
      exact List.nodup_cons.2 ⟨ha, h⟩
    | some c =>
      rw [List.reduceOption_cons_of_some] at h ha
      obtain ⟨hc, hrest⟩ := List.nodup_cons.1 h
      obtain ⟨hac, harest⟩ := List.ne_and_not_mem_of_not_mem_cons ha
      rw [store, List.reduceOption_cons_of_some]
      refine List.nodup_cons.2 ⟨fun hmem => ?_, ih hrest harest⟩
      rcases mem_values_store.1 hmem with hca | hmem
      · exact hac hca.symm
      · exact hc hmem

theorem values_erase (a : ι) (slots : List (Option ι)) :
    (erase a slots).reduceOption = slots.reduceOption.filter (· ≠ a) := by
  induction slots with
  | nil => rfl
  | cons slot slots ih =>
    cases slot with
    | none =>
      rw [List.reduceOption_cons_of_none, ← ih]
      exact List.reduceOption_cons_of_none _
    | some c =>
      rw [List.reduceOption_cons_of_some]
      by_cases hca : c = a
      · rw [List.filter_cons_of_neg (by simpa using hca), ← ih, erase, List.map_cons,
          if_pos (congrArg some hca), List.reduceOption_cons_of_none]
        rfl
      · rw [List.filter_cons_of_pos (by simpa using hca), ← ih, erase, List.map_cons,
          if_neg (fun h => hca (Option.some.inj h)), List.reduceOption_cons_of_some]
        rfl

/-! ### Tables -/

/-- An entry of a table. -/
structure Entry (ι α : Type*) where
  key : ι
  data : α
  refs : List (Option ι)
deriving DecidableEq

/-- The references of an entry. -/
def Entry.values (e : Entry ι α) : List ι := e.refs.reduceOption

/-- One entry is changed. -/
def change (table : List (Entry ι α)) (k : ι) (f : Entry ι α → Entry ι α) : List (Entry ι α) :=
  table.map fun e => if e.key = k then f e else e

/-- A reference is taken out of an entry. -/
def Entry.detach (a : ι) (e : Entry ι α) : Entry ι α := { e with refs := erase a e.refs }

/-- A reference is put into an entry. -/
def Entry.attach (a : ι) (e : Entry ι α) : Entry ι α := { e with refs := store a e.refs }

/-- Keys are distinct, and references are distinct and to the keys that are listed. -/
structure Sound (table : List (Entry ι α)) (targets : List ι) : Prop where
  keys : (table.map Entry.key).Nodup
  nodup : ∀ e ∈ table, e.values.Nodup
  refs : ∀ e ∈ table, ∀ a ∈ e.values, a ∈ targets

variable {table : List (Entry ι α)} {targets : List ι} {k a : ι}

omit [DecidableEq ι] in
theorem sound_nil : Sound ([] : List (Entry ι α)) targets :=
  ⟨.nil, fun _ he => absurd he List.not_mem_nil, fun _ he => absurd he List.not_mem_nil⟩

omit [DecidableEq ι] in
/-- More keys can be referred to. -/
theorem Sound.mono (h : Sound table targets) {targets' : List ι} (hsub : targets ⊆ targets') :
    Sound table targets' :=
  ⟨h.keys, h.nodup, fun e he a ha => hsub (h.refs e he a ha)⟩

omit [DecidableEq ι] in
/-- An entry is added that refers to nothing. -/
theorem Sound.insert (h : Sound table targets) (hk : k ∉ table.map Entry.key) (data : α) :
    Sound (table ++ [⟨k, data, []⟩]) targets := by
  refine ⟨?_, ?_, ?_⟩
  · rw [List.map_append, List.nodup_append]
    refine ⟨h.keys, List.nodup_singleton k, fun a ha b hb => ?_⟩
    rw [List.mem_singleton.1 hb]
    rintro rfl
    exact hk ha
  · exact List.forall_mem_append.2 ⟨h.nodup, List.forall_mem_singleton.2 .nil⟩
  · refine List.forall_mem_append.2 ⟨h.refs, List.forall_mem_singleton.2 fun a ha => ?_⟩
    exact absurd ha List.not_mem_nil

/-- An entry is removed. -/
theorem Sound.remove (h : Sound table targets) (k : ι) :
    Sound (table.filter fun e => e.key ≠ k) targets := by
  refine ⟨h.keys.sublist (List.filter_sublist.map Entry.key), fun e he => ?_, fun e he => ?_⟩
  · exact h.nodup e (List.mem_of_mem_filter he)
  · exact h.refs e (List.mem_of_mem_filter he)

omit [DecidableEq ι] in
theorem keys_map {f : Entry ι α → Entry ι α} (hkey : ∀ e, (f e).key = e.key) :
    (table.map f).map Entry.key = table.map Entry.key := by
  rw [List.map_map]
  exact List.map_congr_left fun e _ => hkey e

omit [DecidableEq ι] in
/-- Entries are changed that keep their keys. -/
theorem Sound.map (h : Sound table targets) {targets' : List ι} {f : Entry ι α → Entry ι α}
    (hkey : ∀ e, (f e).key = e.key) (hnodup : ∀ e ∈ table, (f e).values.Nodup)
    (hrefs : ∀ e ∈ table, ∀ a ∈ (f e).values, a ∈ targets') :
    Sound (table.map f) targets' := by
  refine ⟨?_, List.forall_mem_map.2 hnodup, List.forall_mem_map.2 hrefs⟩
  rw [keys_map hkey]
  exact h.keys

theorem keys_change {f : Entry ι α → Entry ι α} (hkey : ∀ e, (f e).key = e.key) :
    (change table k f).map Entry.key = table.map Entry.key := by
  refine keys_map fun e => ?_
  split
  · exact hkey e
  · rfl

theorem keys_remove : (table.filter fun e => e.key ≠ k).map Entry.key =
    (table.map Entry.key).filter (· ≠ k) := by
  rw [List.filter_map]
  rfl

theorem Sound.change (h : Sound table targets) {f : Entry ι α → Entry ι α}
    (hkey : ∀ e, (f e).key = e.key) (hnodup : ∀ e ∈ table, e.key = k → (f e).values.Nodup)
    (hrefs : ∀ e ∈ table, e.key = k → ∀ a ∈ (f e).values, a ∈ targets) :
    Sound (change table k f) targets := by
  refine h.map (fun e => ?_) (fun e he => ?_) (fun e he => ?_)
  · split
    · exact hkey e
    · rfl
  · split
    · next hk => exact hnodup e he hk
    · exact h.nodup e he
  · split
    · next hk => exact hrefs e he hk
    · exact h.refs e he

theorem Entry.values_detach (a : ι) (e : Entry ι α) :
    (e.detach a).values = e.values.filter (· ≠ a) := values_erase a e.refs

omit [DecidableEq ι] in
theorem Entry.mem_values_attach {b : ι} {e : Entry ι α} :
    b ∈ (e.attach a).values ↔ b = a ∨ b ∈ e.values := mem_values_store

/-- A reference to a listed key is put into an entry that has none. -/
theorem Sound.attach (h : Sound table targets) (ha : a ∈ targets)
    (hnew : ∀ e ∈ table, e.key = k → a ∉ e.values) :
    Sound (References.change table k (Entry.attach a)) targets := by
  refine h.change (fun _ => rfl) (fun e he hk => ?_) (fun e he _ b hb => ?_)
  · exact nodup_values_store (h.nodup e he) (hnew e he hk)
  · rcases Entry.mem_values_attach.1 hb with rfl | hb
    · exact ha
    · exact h.refs e he b hb

theorem Sound.detach (h : Sound table targets) (k a : ι) :
    Sound (References.change table k (Entry.detach a)) targets := by
  refine h.change (fun _ => rfl) (fun e he _ => ?_) (fun e he _ b hb => ?_)
  · rw [Entry.values_detach]
    exact (h.nodup e he).filter _
  · rw [Entry.values_detach] at hb
    exact h.refs e he b (List.mem_of_mem_filter hb)

/-- **A key can go when it has been taken out of every entry.** -/
theorem Sound.detachAll (h : Sound table targets) (a : ι) :
    Sound (table.map (Entry.detach a)) (targets.filter (· ≠ a)) := by
  refine h.map (fun _ => rfl) (fun e he => ?_) (fun e he b hb => ?_)
  · rw [Entry.values_detach]
    exact (h.nodup e he).filter _
  · rw [Entry.values_detach] at hb
    obtain ⟨hb, hne⟩ := List.mem_filter.1 hb
    exact List.mem_filter.2 ⟨h.refs e he b hb, hne⟩

/-! ### Numbers for keys

What is made for the entries of a table, one after the other, is found by a number: the first
has the number `k`, the next one the one after it. -/

/-- The number of a key in a list, counted from `k`. -/
def numbering (keys : List ι) (k : ℕ) : ι → Option ℕ :=
  fun a => if a ∈ keys then some (k + keys.idxOf a) else none

theorem numbering_nil (k : ℕ) : numbering ([] : List ι) k = fun _ => none := rfl

/-- One more key has the next number. -/
theorem numbering_concat {keys : List ι} (ha : a ∉ keys) (k : ℕ) :
    numbering (keys ++ [a]) k = Function.update (numbering keys k) a (some (k + keys.length)) := by
  funext b
  rw [numbering]
  by_cases hba : b = a
  · subst hba
    rw [Function.update_self, if_pos (List.mem_append_right _ (List.mem_singleton_self b)),
      List.idxOf_append_of_notMem ha, List.idxOf_cons_self, Nat.add_zero]
  · rw [Function.update_of_ne hba, numbering]
    by_cases hb : b ∈ keys
    · rw [if_pos hb, if_pos (List.mem_append_left _ hb), List.idxOf_append_of_mem hb]
    · rw [if_neg hb, if_neg]
      intro hmem
      rcases List.mem_append.1 hmem with hmem | hmem
      · exact hb hmem
      · exact hba (List.mem_singleton.1 hmem)

/-- A key that is in the list has the number of its place. -/
theorem numbering_of_mem {keys : List ι} (hmem : a ∈ keys) (k : ℕ) :
    ∃ i, numbering keys k a = some (k + i) ∧ keys[i]? = some a :=
  ⟨keys.idxOf a, if_pos hmem, List.getElem?_idxOf hmem⟩

end References
