import DisplayBridge.ModifierKeys

/-!
# What an event can cause

One event of the receiver window goes through the forwarder, becomes datagrams, and is written
to the device by Ubuntu. The forwarder has a branch for each type of event, and each branch can
write only a few things (`DisplayBridge.Caused`). That this list is complete is
`DisplayBridge.forward_caused`, and what holds of every event on its own is carried to any
list of events by `DisplayBridge.forwardAll_induction`. The properties of the keyboard and
of the pointer are read off these two.
-/

namespace DisplayBridge

open Swift InputForwarder

variable {fw fw' : InputForwarder} {view : NSView} {sent : List Datagram}

/-- The event moves the pointer. -/
def NSEvent.IsMove (e : NSEvent) : Prop :=
  e.type = .mouseMoved ∨ e.type = .leftMouseDragged ∨ e.type = .rightMouseDragged

instance (e : NSEvent) : Decidable e.IsMove := by
  unfold NSEvent.IsMove
  infer_instance

/-! ### Where the pointer goes -/

/-- Where a number lies on an axis whose last coordinate is given. -/
theorem toInt_of_clamped {q : ℚ} {last : ℤ} (hlast : 0 ≤ last ∧ last < 2 ^ 15) {v : Int16}
    (h : int16OfDouble (mulDouble (max 0 (min 1 q)) last) = some v) :
    v.toInt = ⌊mulDouble (max 0 (min 1 q)) last⌋ ∧ 0 ≤ v.toInt ∧ v.toInt ≤ last := by
  obtain ⟨hnonneg, hle⟩ := mulDouble_clamped q hlast.1 hlast.2
  have hv := toInt_of_int16OfDouble h
  rw [truncate_of_nonneg hnonneg] at hv
  refine ⟨hv, ?_, ?_⟩
  · rw [hv]
    exact Int.floor_nonneg.2 hnonneg
  · rw [hv]
    exact Int.floor_le_iff.2 (hle.trans_lt (by linarith))

/-- **The pointer stays on the target display.** -/
theorem mapCoordinates_mem {e : NSEvent} {x y : Int16} (h : mapCoordinates e view = some (x, y)) :
    (0 ≤ x.toInt ∧ x.toInt ≤ dbTargetWidth - 1) ∧ 0 ≤ y.toInt ∧ y.toInt ≤ dbTargetHeight - 1 := by
  rw [mapCoordinates] at h
  split at h
  · obtain ⟨targetX, hx, h⟩ := Option.bind_eq_some_iff.1 h
    obtain ⟨targetY, hy, h⟩ := Option.bind_eq_some_iff.1 h
    obtain ⟨rfl, rfl⟩ := Prod.mk.inj (Option.some.inj h)
    exact ⟨(toInt_of_clamped (by decide) hx).2, (toInt_of_clamped (by decide) hy).2⟩
  · obtain ⟨rfl, rfl⟩ := Prod.mk.inj (Option.some.inj h)
    decide

/-- In a view that has a size, the coordinates are those of the place of the pointer, up to the
roundings. -/
theorem mapCoordinates_of_view {e : NSEvent} {x y : Int16} (hw : 0 < view.width)
    (hh : 0 < view.height) (h : mapCoordinates e view = some (x, y)) :
    x.toInt = ⌊mulDouble (max 0 (min 1 (divDouble e.locX view.width))) (dbTargetWidth - 1 : ℤ)⌋ ∧
      y.toInt = ⌊mulDouble (max 0 (min 1 (subDouble 1 (divDouble e.locY view.height))))
        (dbTargetHeight - 1 : ℤ)⌋ := by
  rw [mapCoordinates, if_pos ⟨hw, hh⟩] at h
  obtain ⟨targetX, hx, h⟩ := Option.bind_eq_some_iff.1 h
  obtain ⟨targetY, hy, h⟩ := Option.bind_eq_some_iff.1 h
  obtain ⟨rfl, rfl⟩ := Prod.mk.inj (Option.some.inj h)
  exact ⟨(toInt_of_clamped (by decide) hx).1, (toInt_of_clamped (by decide) hy).1⟩

/-! ### One event -/

/-- What is written for a key that goes down or up. -/
def keyReport (code : UInt16) (press : Bool) : List LinuxEvent :=
  [emitEvent evKey code (pressValue press), emitSyn]

/-- **What is written when an event is forwarded.** -/
inductive Caused (view : NSView) (e : NSEvent) : List LinuxEvent → Prop
  | move (x y : Int16) : e.IsMove → mapCoordinates e view = some (x, y) →
      Caused view e [emitEvent evAbs absX x.toInt, emitEvent evAbs absY y.toInt, emitSyn]
  | button (y value : Int16) : e.button.isSome →
      Caused view e [emitEvent evKey (buttonOfValue value) y.toInt, emitSyn]
  | scroll (x value : Int16) : e.type = .scrollWheel →
      Caused view e ((if value ≠ 0 then [emitEvent evRel relWheel value.toInt] else []) ++
        (if x ≠ 0 then [emitEvent evRel relHWheel x.toInt] else []) ++ [emitSyn])
  | key (press : Bool) : e.type = (if press then .keyDown else .keyUp) →
      Caused view e (keyReport (macToLinuxKey e.keyCode) press)
  | flags (keys : List (UInt16 × Bool)) : e.type = .flagsChanged →
      (∀ key ∈ keys, key.1 ∈ modifiers.map Prod.snd) →
      Caused view e (keys.flatMap fun key => keyReport key.1 key.2)
  | nothing : e.type = .other → Caused view e []

theorem handleInputEvent_key (press : Bool) (x : Int16) :
    handleInputEvent ⟨keyType press, 0, x, 0, 0⟩ = keyReport x.toUInt16 press := by
  cases press <;> rfl

/-- A report of the flags writes only keys of its table. -/
theorem caused_of_sendModifiers {current changed : UInt64} {rows : List (UInt64 × UInt16)}
    (hu : fw.Usable) (hrows : rows ⊆ modifiers) {now : ℕ → ℚ}
    (h : sendModifiers current changed fw now rows = some (fw', sent)) :
    fw'.Usable ∧ ∃ keys : List (UInt16 × Bool), (∀ key ∈ keys, key.1 ∈ modifiers.map Prod.snd) ∧
      injected sent = keys.flatMap fun key => keyReport key.1 key.2 := by
  induction rows generalizing fw now sent with
  | nil =>
    obtain ⟨rfl, rfl⟩ := Prod.mk.inj (Option.some.inj h)
    exact ⟨hu, [], fun key hkey => absurd hkey List.not_mem_nil, rfl⟩
  | cons row rows ih =>
    obtain ⟨hrow, hrest⟩ := List.cons_subset.1 hrows
    rw [sendModifiers] at h
    by_cases hchanged : containsFlag changed row.1 = true
    · rw [if_pos hchanged] at h
      obtain ⟨x, hx, h⟩ := Option.bind_eq_some_iff.1 h
      obtain ⟨⟨fw₁, sent₁⟩, hsend, h⟩ := Option.bind_eq_some_iff.1 h
      obtain ⟨⟨fw₂, sent₂⟩, hloop, h⟩ := Option.bind_eq_some_iff.1 h
      obtain ⟨rfl, rfl⟩ := Prod.mk.inj (Option.some.inj h)
      obtain ⟨rfl, hinjected⟩ := injected_of_send hu hsend
      have hu₁ : InputForwarder.Usable { fw with seq := fw.seq + 1 } := hu
      obtain ⟨hu₂, keys, hkeys, hloop⟩ := ih hu₁ hrest hloop
      have hfirst := handleInputEvent_key (containsFlag current row.1) x
      rw [toUInt16_of_int16OfUInt16 hx] at hfirst
      refine ⟨hu₂, (row.2, containsFlag current row.1) :: keys,
        List.forall_mem_cons.2 ⟨List.mem_map_of_mem hrow, hkeys⟩, ?_⟩
      rw [injected_append, hinjected, hloop, List.flatMap_cons, ← hfirst]
      rfl
    · rw [if_neg hchanged] at h
      exact ih hu hrest h

/-- **One event** causes one of these. -/
theorem forward_caused (hu : fw.Usable) {e : TimedEvent} {written : List LinuxEvent}
    (h : forward fw view e = some (fw', written)) : fw'.Usable ∧ Caused view e.event written := by
  obtain ⟨⟨fw₁, sent⟩, hsent, h⟩ := Option.bind_eq_some_iff.1 h
  obtain ⟨rfl, rfl⟩ := Prod.mk.inj (Option.some.inj h)
  show fw₁.Usable ∧ Caused view e.event (injected sent)
  have hcall : ∀ {type : UInt8} {x y value : Int16},
      fw.send (e.now 0) type x y value = some (fw₁, sent) →
      Caused view e.event (handleInputEvent ⟨type, 0, x, y, value⟩) →
      fw₁.Usable ∧ Caused view e.event (injected sent) := by
    intro type x y value hcall hcaused
    obtain ⟨rfl, hinjected⟩ := injected_of_send hu hcall
    exact ⟨hu, hinjected ▸ hcaused⟩
  have hpress : ∀ press, e.event.type = (if press then .keyDown else .keyUp) →
      ((int16OfUInt16 (macToLinuxKey e.event.keyCode)).bind fun x =>
        fw.send (e.now 0) (keyType press) x 0 0) = some (fw₁, sent) →
      fw₁.Usable ∧ Caused view e.event (injected sent) := by
    intro press htype hbind
    obtain ⟨x, hx, hsend⟩ := Option.bind_eq_some_iff.1 hbind
    refine hcall hsend ?_
    rw [handleInputEvent_key, toUInt16_of_int16OfUInt16 hx]
    exact .key press htype
  rw [handleEvent] at hsent
  cases htype : e.event.type <;> simp only [htype] at hsent
  case mouseMoved | leftMouseDragged | rightMouseDragged =>
    obtain ⟨⟨x, y⟩, hxy, hsent⟩ := Option.bind_eq_some_iff.1 hsent
    have hmove : e.event.IsMove := by
      rw [NSEvent.IsMove, htype]
      decide
    exact hcall hsent (.move x y hmove hxy)
  case leftMouseDown | leftMouseUp | rightMouseDown | rightMouseUp =>
    obtain ⟨⟨x, y⟩, -, hsent⟩ := Option.bind_eq_some_iff.1 hsent
    have hbutton : e.event.button.isSome := by
      rw [NSEvent.button, htype]
      rfl
    exact hcall hsent (.button y _ hbutton)
  case scrollWheel =>
    obtain ⟨⟨x, y⟩, -, hsent⟩ := Option.bind_eq_some_iff.1 hsent
    obtain ⟨ticks, -, hsent⟩ := Option.bind_eq_some_iff.1 hsent
    exact hcall hsent (.scroll x _ htype)
  case keyDown => exact hpress true htype hsent
  case keyUp => exact hpress false htype hsent
  case flagsChanged =>
    have hu₀ : InputForwarder.Usable
      { fw with lastModifierFlags := e.event.modifierFlags } := hu
    obtain ⟨hu₁, keys, hkeys, hwritten⟩ :=
      caused_of_sendModifiers hu₀ (List.Subset.refl modifiers) hsent
    exact ⟨hu₁, hwritten ▸ .flags keys htype hkeys⟩
  case other =>
    obtain ⟨rfl, rfl⟩ := Prod.mk.inj (Option.some.inj hsent)
    exact ⟨hu, .nothing htype⟩

/-! ### A list of events -/

/-- **The induction over a list of events**: what holds when nothing has happened, and is
kept when something is caused by one more event before, holds of what is written. -/
theorem forwardAll_induction {P : List TimedEvent → List LinuxEvent → Prop} (nil : P [] [])
    (cons : ∀ e es first rest, Caused view e.event first → P es rest →
      P (e :: es) (first ++ rest))
    (hu : fw.Usable) {es : List TimedEvent} {written : List LinuxEvent}
    (h : forwardAll view fw es = some (fw', written)) : P es written := by
  induction es generalizing fw written with
  | nil =>
    obtain ⟨rfl, rfl⟩ := Prod.mk.inj (Option.some.inj h)
    exact nil
  | cons e es ih =>
    obtain ⟨⟨fw₁, first⟩, hfirst, h⟩ := Option.bind_eq_some_iff.1 h
    obtain ⟨⟨fw₂, rest⟩, htail, h⟩ := Option.bind_eq_some_iff.1 h
    obtain ⟨rfl, rfl⟩ := Prod.mk.inj (Option.some.inj h)
    obtain ⟨hu₁, hcaused⟩ := forward_caused hu hfirst
    exact cons e es first rest hcaused (ih hu₁ htail)

end DisplayBridge
