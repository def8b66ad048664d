import Mathlib.Data.Finset.Image
import DisplayBridge.Mac.InputForwarder
import DisplayBridge.Ubuntu.Input

/-!
# Mouse buttons from one end to the other

The path of an input event: `InputForwarder.handleEvent` on the Mac makes
datagrams, every one of them reaches `db_input_start` on Ubuntu, in order, and
is injected. `DisplayBridge.forwardAll` runs a list of events along the path.

The two ends do not agree on the three fields of a button event. The Mac puts
the pointer into `x` and `y` and the direction into the sign of `value`; Ubuntu
takes the direction from `y` and the button from `value`, and knows no negative
value. So a press is a press only where the pointer is in row 1 of the target
display, a release of the left button is a release only in row 0, and a release
of the right button is never one: `DisplayBridge.ButtonOk` says exactly this of
one event, and `DisplayBridge.mouseButtonsAgree_iff` that a sequence arrives as it
was made exactly when all of its events are of this kind.
-/

namespace DisplayBridge

open Swift InputForwarder

/-! ### The path of an event -/

/-- An event, with the readings of the clock while it is handled. -/
structure TimedEvent where
  event : NSEvent
  now : ℕ → ℚ

/-- One event, from the window to the device: what is written there. -/
def forward (fw : InputForwarder) (view : NSView) (e : TimedEvent) :
    Traps (InputForwarder × List LinuxEvent) := do
  let (fw, sent) ← fw.handleEvent (some view) e.now e.event
  return (fw, sent.flatMap fun datagram => dbInputStart datagram.payload)

/-- A list of events, from the window to the device. -/
def forwardAll (view : NSView) :
    InputForwarder → List TimedEvent → Traps (InputForwarder × List LinuxEvent)
  | fw, [] => some (fw, [])
  | fw, e :: es => do
    let (fw, written) ← forward fw view e
    let (fw, rest) ← forwardAll view fw es
    return (fw, written ++ rest)

/-- The timestamp of the event converts. -/
def TimedEvent.Timely (fw : InputForwarder) (e : TimedEvent) : Prop :=
  (fw.timestamp (e.now 0)).isSome

/-! ### Buttons -/

/-- The buttons the forwarder reports. -/
inductive MouseButton
  | left
  | right
deriving DecidableEq, Repr

/-- The key code of a button. -/
def MouseButton.code : MouseButton → UInt16
  | .left => btnLeft
  | .right => btnRight

theorem MouseButton.code_injective : Function.Injective MouseButton.code := by
  rintro (_ | _) (_ | _) h
  · rfl
  · exact absurd h (by decide)
  · exact absurd h (by decide)
  · rfl

/-- What an event says about the buttons: which one, and whether it goes down;
`none` for a move of the pointer. -/
def NSEvent.button (e : NSEvent) : Option (MouseButton × Bool) :=
  match e.type with
  | .leftMouseDown => some (.left, true)
  | .leftMouseUp => some (.left, false)
  | .rightMouseDown => some (.right, true)
  | .rightMouseUp => some (.right, false)
  | _ => none

/-- The event is a press, a release or a move of the mouse. -/
def NSEvent.IsMouse (e : NSEvent) : Prop :=
  e.type ∈ [NSEventType.mouseMoved, .leftMouseDragged, .rightMouseDragged, .leftMouseDown,
    .leftMouseUp, .rightMouseDown, .rightMouseUp]

/-- What one event does to the buttons held on the Mac. -/
def pressButton (held : Finset MouseButton) (e : TimedEvent) : Finset MouseButton :=
  match e.event.button with
  | some (b, true) => insert b held
  | some (b, false) => held.erase b
  | none => held

/-- The buttons held on the Mac after a list of events. -/
def heldButtons (es : List TimedEvent) : Finset MouseButton := es.foldl pressButton ∅

/-- The key event that reports a press or a release. -/
def buttonEvents (e : TimedEvent) : List LinuxEvent :=
  match e.event.button with
  | some (b, true) => [emitEvent evKey b.code 1]
  | some (b, false) => [emitEvent evKey b.code 0]
  | none => []

/-- **The two ends agree on the buttons**: every press and every release is
written as the key event that reports it, and after every prefix of the events
the buttons held on the device are those held on the Mac. -/
structure MouseButtonsAgree (fw : InputForwarder) (view : NSView) (es : List TimedEvent) :
    Prop where
  /-- The key events that are written. -/
  keys : ∃ fw' written, forwardAll view fw es = some (fw', written) ∧
    keyEvents written = es.flatMap buttonEvents
  /-- The buttons held after a prefix. -/
  held : ∀ pre, pre <+: es → ∃ fw' written, forwardAll view fw pre = some (fw', written) ∧
    heldKeys written = (heldButtons pre).image MouseButton.code

/-- **The events the two ends agree on.** A press arrives as a press when the
pointer is in row 1 of the target display; a release of the left button arrives
as a release when it is in row 0; a release of the right button never does. -/
def ButtonOk (view : NSView) (e : TimedEvent) : Prop :=
  match e.event.type with
  | .leftMouseDown | .rightMouseDown => ∃ x, mapCoordinates e.event view = some (x, 1)
  | .leftMouseUp => ∃ x, mapCoordinates e.event view = some (x, 0)
  | .rightMouseUp => False
  | _ => True

/-! ### One event -/

/-- The value field of the packet of a button event. -/
def buttonValue : NSEventType → Int16
  | .leftMouseDown => 1
  | .leftMouseUp => -1
  | .rightMouseDown => 2
  | .rightMouseUp => -2
  | _ => 0

/-- The key events an event really causes: the button is read off the value
field and the direction off the row of the pointer. -/
def writtenKeys (e : TimedEvent) (row : Int16) : List LinuxEvent :=
  if e.event.button.isSome then
    [emitEvent evKey (buttonOfValue (buttonValue e.event.type)) row.toInt]
  else []

variable {fw : InputForwarder} {view : NSView}

/-- Sending a packet leaves the socket, the destination and the clock alone. -/
theorem forward_send {e : TimedEvent} (hu : fw.Usable) (ht : e.Timely fw)
    {type : UInt8} {x y value : Int16}
    (he : fw.handleEvent (some view) e.now e.event = fw.send (e.now 0) type x y value) :
    forward fw view e =
      some ({ fw with seq := fw.seq + 1 }, handleInputEvent ⟨type, 0, x, y, value⟩) := by
  obtain ⟨ts, hts⟩ := Option.isSome_iff_exists.mp ht
  obtain ⟨family, -, hsend⟩ := send_eq hu hts type x y value
  rw [forward, he, hsend]
  simp only [Option.bind_eq_bind, Option.bind_some, List.flatMap_cons, List.flatMap_nil,
    List.append_nil, packetBytes, dbInputStart_packet, Option.pure_def]

/-- **What the forwarder makes of a mouse event**: one packet, with the button and the
direction in its value field. -/
theorem handleEvent_mouse {e : TimedEvent} (hm : e.event.IsMouse) {x y : Int16}
    (hxy : mapCoordinates e.event view = some (x, y)) :
    fw.handleEvent (some view) e.now e.event =
      fw.send (e.now 0)
        (if e.event.button.isSome then dbInputMouseButton else dbInputMouseMove) x y
        (buttonValue e.event.type) := by
  rw [NSEvent.IsMouse] at hm
  simp only [List.mem_cons, List.not_mem_nil, or_false] at hm
  rcases hm with h | h | h | h | h | h | h <;>
    simp only [handleEvent, h, hxy, NSEvent.button, Option.bind_eq_bind, Option.bind_some] <;> rfl

/-- **What one mouse event causes.** -/
theorem forward_mouse {e : TimedEvent} (hu : fw.Usable) (ht : e.Timely fw)
    (hm : e.event.IsMouse) {x y : Int16} (hxy : mapCoordinates e.event view = some (x, y)) :
    ∃ written, forward fw view e = some ({ fw with seq := fw.seq + 1 }, written) ∧
      keyEvents written = writtenKeys e y := by
  refine ⟨_, forward_send hu ht (handleEvent_mouse hm hxy), ?_⟩
  rw [writtenKeys]
  cases e.event.button with
  | none => rfl
  | some press => rfl

/-- The row of the target display the pointer is in. -/
def row (view : NSView) (e : TimedEvent) : Int16 :=
  ((mapCoordinates e.event view).map Prod.snd).getD 0

/-- An event is one the two ends agree on when the key event it causes is the
one that reports it. -/
theorem writtenKeys_eq_iff (e : TimedEvent) :
    writtenKeys e (row view e) = buttonEvents e ↔ ButtonOk view e := by
  obtain ⟨⟨x, y⟩, hxy⟩ := exists_mapCoordinates e.event view
  have hrow : row view e = y := by rw [row, hxy]; rfl
  have hcoord : ∀ v : Int16, (∃ x', some (x, y) = some (x', v)) ↔ y = v := by
    intro v
    constructor
    · rintro ⟨x', hx'⟩
      exact congrArg Prod.snd (Option.some.inj hx')
    · rintro rfl
      exact ⟨x, rfl⟩
  have hone : y.toInt = 1 ↔ y = 1 := Int16.toInt_inj (y := 1)
  have hzero : y.toInt = 0 ↔ y = 0 := Int16.toInt_inj (y := 0)
  rw [hrow, writtenKeys, buttonEvents, ButtonOk, NSEvent.button, hxy]
  cases e.event.type with
  | leftMouseDown =>
    simp [buttonValue, buttonOfValue, emitEvent, MouseButton.code, hone]
  | leftMouseUp =>
    simp [buttonValue, buttonOfValue, emitEvent, MouseButton.code, hzero]
  | rightMouseDown =>
    simp [buttonValue, buttonOfValue, emitEvent, MouseButton.code, hone]
  | rightMouseUp =>
    simp [buttonValue, buttonOfValue, emitEvent, MouseButton.code, btnLeft, btnRight]
  | _ => simp

/-! ### A list of events -/

/-- Two concatenations of lists of the same lengths are equal exactly when the
lists are. -/
theorem flatMap_eq_flatMap_iff {α β : Type} {f g : α → List β} {l : List α}
    (hlen : ∀ a ∈ l, (f a).length = (g a).length) :
    l.flatMap f = l.flatMap g ↔ ∀ a ∈ l, f a = g a := by
  induction l with
  | nil => simp
  | cons a l ih =>
    have ha := hlen a (by simp)
    have hl := ih fun b hb => hlen b (by simp [hb])
    rw [List.flatMap_cons, List.flatMap_cons, List.forall_mem_cons, ← hl]
    constructor
    · exact fun h => List.append_inj h ha
    · rintro ⟨h1, h2⟩
      rw [h1, h2]

/-- **What a list of mouse events causes.** -/
theorem forwardAll_mouse (view : NSView) (hu : fw.Usable) {es : List TimedEvent}
    (hm : ∀ e ∈ es, e.event.IsMouse) (ht : ∀ e ∈ es, e.Timely fw) :
    ∃ fw' written, forwardAll view fw es = some (fw', written) ∧
      keyEvents written = es.flatMap fun e => writtenKeys e (row view e) := by
  induction es generalizing fw with
  | nil => exact ⟨fw, [], rfl, rfl⟩
  | cons e es ih =>
    obtain ⟨⟨x, y⟩, hxy⟩ := exists_mapCoordinates e.event view
    have hrow : row view e = y := by rw [row, hxy]; rfl
    obtain ⟨written, hfw, hkeys⟩ :=
      forward_mouse hu (ht e (by simp)) (hm e (by simp)) hxy
    obtain ⟨fw', rest, hrest, hkeys'⟩ := @ih { fw with seq := fw.seq + 1 } hu
      (fun e he => hm e (by simp [he])) fun e he => ht e (by simp [he])
    refine ⟨fw', written ++ rest, ?_, ?_⟩
    · rw [forwardAll, hfw]
      simp only [Option.bind_eq_bind, Option.bind_some, hrest, Option.pure_def]
    · rw [keyEvents_append, hkeys, hkeys', List.flatMap_cons, hrow]

/-- The key events that report the presses and releases rebuild the held
buttons. -/
theorem foldl_buttonEvents (es : List TimedEvent) (held : Finset MouseButton) :
    (es.flatMap buttonEvents).foldl pressKey (held.image MouseButton.code) =
      (es.foldl pressButton held).image MouseButton.code := by
  induction es generalizing held with
  | nil => rfl
  | cons e es ih =>
    have hstep : (buttonEvents e).foldl pressKey (held.image MouseButton.code) =
        (pressButton held e).image MouseButton.code := by
      rw [buttonEvents, pressButton]
      rcases e.event.button with _ | ⟨b, _ | _⟩
      · rfl
      · simp [pressKey, emitEvent, Finset.image_erase MouseButton.code_injective]
      · simp [pressKey, emitEvent, Finset.image_insert]
    rw [List.flatMap_cons, List.foldl_append, hstep, ih, List.foldl_cons]

/-- **Mouse buttons arrive as they were made exactly when every event is one
the two ends agree on.** -/
theorem mouseButtonsAgree_iff (hu : fw.Usable) {es : List TimedEvent}
    (hm : ∀ e ∈ es, e.event.IsMouse) (ht : ∀ e ∈ es, e.Timely fw) :
    MouseButtonsAgree fw view es ↔ ∀ e ∈ es, ButtonOk view e := by
  have hlen : ∀ e ∈ es, (writtenKeys e (row view e)).length = (buttonEvents e).length := by
    intro e _
    rw [writtenKeys, buttonEvents]
    rcases e.event.button with _ | ⟨b, _ | _⟩ <;> rfl
  have hok : (es.flatMap fun e => writtenKeys e (row view e)) = es.flatMap buttonEvents ↔
      ∀ e ∈ es, ButtonOk view e :=
    (flatMap_eq_flatMap_iff hlen).trans
      (forall₂_congr fun e _ => writtenKeys_eq_iff e)
  constructor
  · rintro ⟨⟨fw', written, hrun, hkeys⟩, -⟩
    obtain ⟨fw'', written', hrun', hkeys'⟩ := forwardAll_mouse view hu hm ht
    obtain ⟨-, rfl⟩ : fw' = fw'' ∧ written = written' := by
      simpa using hrun.symm.trans hrun'
    exact hok.mp (hkeys'.symm.trans hkeys)
  · intro h
    obtain ⟨fw', written, hrun, hkeys⟩ := forwardAll_mouse view hu hm ht
    refine ⟨⟨fw', written, hrun, hkeys.trans (hok.mpr h)⟩, fun pre hpre => ?_⟩
    have hsub : ∀ e ∈ pre, e ∈ es := fun e he => hpre.subset he
    obtain ⟨fwp, writtenp, hrunp, hkeysp⟩ := forwardAll_mouse view hu
      (fun e he => hm e (hsub e he)) fun e he => ht e (hsub e he)
    -- on a prefix, too, every event causes the key event that reports it
    have hpreEq : (pre.flatMap fun e => writtenKeys e (row view e)) = pre.flatMap buttonEvents :=
      List.flatMap_congr fun e he => (writtenKeys_eq_iff e).mpr (h e (hsub e he))
    refine ⟨fwp, writtenp, hrunp, ?_⟩
    rw [heldKeys_eq_of_keyEvents (hkeysp.trans hpreEq)]
    exact foldl_buttonEvents pre ∅

/-! ### A full-screen view -/

/-- A view of the size of the target display. -/
def fullView : NSView := ⟨2880, 1800⟩

/-- An event of the mouse at a height of the view, one second after the start. -/
def mouseAt (type : NSEventType) (locY : ℚ) : TimedEvent :=
  ⟨⟨type, 0, locY, 0, 0, 0⟩, fun _ => 1⟩

theorem timely_mouseAt (type : NSEventType) (locY : ℚ) :
    (mouseAt type locY).Timely readyForwarder :=
  show (readyForwarder.timestamp 1).isSome by decide +kernel

/-- A press two rows below the top of the view and a release at the top do
arrive. -/
theorem mouseButtonsAgree_click : MouseButtonsAgree readyForwarder fullView
    [mouseAt .leftMouseDown 1798, mouseAt .leftMouseUp 1800] := by
  refine (mouseButtonsAgree_iff usable_readyForwarder ?_ ?_).mpr ?_
  · simp [NSEvent.IsMouse, mouseAt]
  · simp [timely_mouseAt]
  · intro e he
    simp only [List.mem_cons, List.not_mem_nil, or_false] at he
    rcases he with rfl | rfl
    · exact ⟨0, by decide +kernel⟩
    · exact ⟨0, by decide +kernel⟩

/-- **A press at the top of the view does not arrive**: it is written as the
release of the left button. -/
theorem not_mouseButtonsAgree_press_top :
    ¬MouseButtonsAgree readyForwarder fullView [mouseAt .leftMouseDown 1800] := by
  rintro ⟨⟨fw', written, hrun, hkeys⟩, -⟩
  have hmouse : ∀ e ∈ [mouseAt .leftMouseDown 1800], e.event.IsMouse := by
    simp [NSEvent.IsMouse, mouseAt]
  obtain ⟨fw'', written', hrun', hkeys'⟩ :=
    forwardAll_mouse fullView usable_readyForwarder hmouse (by simp [timely_mouseAt])
  obtain ⟨-, rfl⟩ : fw' = fw'' ∧ written = written' := by simpa using hrun.symm.trans hrun'
  have hrow : row fullView (mouseAt .leftMouseDown 1800) = 0 := by decide +kernel
  have hpress : writtenKeys (mouseAt .leftMouseDown 1800) 0 =
      buttonEvents (mouseAt .leftMouseDown 1800) := by
    simpa [hrow] using hkeys'.symm.trans hkeys
  exact absurd hpress (by decide)

end DisplayBridge
