import DisplayBridge.Forwarded

/-!
# Ordinary keys from one end to the other

A key that is no modifier is reported by the Mac each time it goes down or up, and the
forwarder sends what it is told: it remembers nothing, and neither does Ubuntu. So what is
written for a key of the key map are its presses and releases, in their order, with nothing
in between that comes from another key, from a button of the mouse or from a flag
(`DisplayBridge.forwardAll_keys`). The key is held on the device exactly if the last thing
the Mac reported of it was that it went down, and no other key is ever held
(`DisplayBridge.keyboard_keys_follow`).

Three facts about the key map carry this. No two of its keys share a code, so that a code
tells which key it was; no key has the code 0, which is sent for the keys that are not in the
map; and no key has the code of a button.
-/

namespace DisplayBridge

open Swift InputForwarder

variable {fw fw' : InputForwarder} {view : NSView}

/-! ### The key map -/

/-- The codes of the three buttons `handle_input_event` writes. -/
def buttonCodes : List UInt16 := [btnLeft, btnRight, btnMiddle]

/-- The codes of the map. -/
def linuxCodes : List UInt16 := keyMap.map Prod.snd

/-- **No two keys share a code.** -/
theorem nodup_linuxCodes : linuxCodes.Nodup := by decide

theorem nodup_macCodes : (keyMap.map Prod.fst).Nodup := by decide

theorem zero_notMem_linuxCodes : (0 : UInt16) ∉ linuxCodes := by decide

theorem linuxCodes_disjoint_buttonCodes : ∀ code ∈ linuxCodes, code ∉ buttonCodes := by
  have htable : linuxCodes.all (fun code => code ∉ buttonCodes) = true := by decide
  exact fun code hcode => of_decide_eq_true (List.all_eq_true.1 htable code hcode)

/-- A code of the map tells the key. -/
theorem macToLinuxKey_eq_iff {entry : UInt16 × UInt16} (hentry : entry ∈ keyMap)
    (keyCode : UInt16) : macToLinuxKey keyCode = entry.2 ↔ keyCode = entry.1 := by
  constructor
  · intro heq
    rcases mem_keyMap_or keyCode with hmem | hzero
    · exact congrArg Prod.fst (List.inj_on_of_nodup_map nodup_linuxCodes hmem hentry heq)
    · refine absurd ?_ zero_notMem_linuxCodes
      rw [← hzero, heq]
      exact List.mem_map_of_mem hentry
  · rintro rfl
    have hlookup : keyMap.lookup entry.1 = some entry.2 := by
      obtain ⟨before, after, hsplit⟩ := List.append_of_mem hentry
      refine List.lookup_eq_some_iff.2 ⟨before, after, hsplit, fun other hother => ?_⟩
      have hnodup := nodup_macCodes
      rw [hsplit, List.map_append, List.nodup_append] at hnodup
      have hne : other.1 ≠ entry.1 := hnodup.2.2 other.1 (List.mem_map_of_mem hother) entry.1
        (List.mem_map_of_mem List.mem_cons_self)
      simpa using hne.symm
    rw [macToLinuxKey, hlookup]
    rfl

/-! ### The signal of a key -/

/-- What an event reports of some keys: whether one of them goes down or up. -/
def NSEvent.press (keys : UInt16 → Prop) [DecidablePred keys] (e : NSEvent) : Option Bool :=
  match e.type with
  | .keyDown => if keys e.keyCode then some true else none
  | .keyUp => if keys e.keyCode then some false else none
  | _ => none

/-- What the Mac reports of some keys. -/
def keySignal (keys : UInt16 → Prop) [DecidablePred keys] (es : List TimedEvent) : List Bool :=
  es.filterMap fun e => e.event.press keys

section Press

variable (keys : UInt16 → Prop) [DecidablePred keys]

theorem keySignal_cons (e : TimedEvent) (es : List TimedEvent) :
    keySignal keys (e :: es) = (e.event.press keys).toList ++ keySignal keys es := by
  rw [keySignal, List.filterMap_cons]
  cases e.event.press keys <;> rfl

theorem NSEvent.press_eq_none {e : NSEvent} (hdown : e.type ≠ .keyDown) (hup : e.type ≠ .keyUp) :
    e.press keys = none := by
  rw [NSEvent.press]
  cases htype : e.type with
  | keyDown => exact absurd htype hdown
  | keyUp => exact absurd htype hup
  | _ => rfl

theorem NSEvent.press_eq {e : NSEvent} {down : Bool}
    (htype : e.type = if down then .keyDown else .keyUp) :
    e.press keys = if keys e.keyCode then some down else none := by
  rw [NSEvent.press, htype]
  cases down <;> rfl

end Press

/-! ### What is written for a code -/

theorem buttonOfValue_mem (value : Int16) : buttonOfValue value ∈ buttonCodes := by
  unfold buttonOfValue
  split
  · decide
  · split
    · decide
    · split <;> decide

/-- **One event** writes, for a code that is of no modifier and no button, the press or
release of a key the map gives that code. -/
theorem Caused.keyValues {e : NSEvent} {written : List LinuxEvent} (h : Caused view e written)
    {code : UInt16} (hmodifier : code ∉ modifiers.map Prod.snd) (hbutton : code ∉ buttonCodes) :
    DisplayBridge.keyValues code written =
      (e.press fun keyCode => macToLinuxKey keyCode = code).toList.map pressValue := by
  have hsilent : e.type ≠ .keyDown → e.type ≠ .keyUp →
      (∀ ev ∈ written, ev.type = evKey → ev.code ≠ code) →
      DisplayBridge.keyValues code written =
        (e.press fun keyCode => macToLinuxKey keyCode = code).toList.map pressValue := by
    intro hdown hup hnone
    rw [keyValues_eq_nil hnone, NSEvent.press_eq_none _ hdown hup]
    rfl
  cases h with
  | move x y hmove =>
    refine hsilent ?_ ?_ ?_
    · rintro hdown
      rw [NSEvent.IsMove, hdown] at hmove
      exact absurd hmove (by decide)
    · rintro hup
      rw [NSEvent.IsMove, hup] at hmove
      exact absurd hmove (by decide)
    · simp [emitEvent, emitSyn, evAbs, evKey, evSyn]
  | button y value hpressed =>
    refine hsilent ?_ ?_ ?_
    · rintro hdown
      rw [NSEvent.button, hdown] at hpressed
      cases hpressed
    · rintro hup
      rw [NSEvent.button, hup] at hpressed
      cases hpressed
    · intro ev hev hkey
      rcases List.mem_pair.1 hev with rfl | rfl
      · rintro rfl
        exact hbutton (buttonOfValue_mem value)
      · cases hkey
  | scroll x value htype =>
    refine hsilent (by rw [htype]; decide) (by rw [htype]; decide) ?_
    intro ev hev hkey
    have hrel : ev.type = evRel ∨ ev.type = evSyn := by
      rcases List.mem_append.1 hev with hmem | hmem
      · left
        rcases List.mem_append.1 hmem with hmem | hmem
        all_goals
          split at hmem
          · rw [List.mem_singleton.1 hmem]
            rfl
          · cases hmem
      · right
        rw [List.mem_singleton.1 hmem]
        rfl
    rw [hkey] at hrel
    exact absurd hrel (by decide)
  | key press htype =>
    rw [NSEvent.press_eq _ htype]
    by_cases hcode : macToLinuxKey e.keyCode = code
    · simp [DisplayBridge.keyValues, keyReport, emitEvent, emitSyn, hcode, evKey, evSyn]
    · simp [DisplayBridge.keyValues, keyReport, emitEvent, emitSyn, hcode, evKey, evSyn]
  | flags keys htype hkeys =>
    refine hsilent (by rw [htype]; decide) (by rw [htype]; decide) ?_
    intro ev hev hkey
    obtain ⟨key, hmem, hev⟩ := List.mem_flatMap.1 hev
    rcases List.mem_pair.1 hev with rfl | rfl
    · rintro rfl
      exact hmodifier (hkeys key hmem)
    · cases hkey
  | nothing htype =>
    exact hsilent (by rw [htype]; decide) (by rw [htype]; decide) fun ev hev => by cases hev

/-- **What is written for a code** over any list of events. -/
theorem forwardAll_keys (hu : fw.Usable) {es : List TimedEvent} {written : List LinuxEvent}
    (h : forwardAll view fw es = some (fw', written)) {code : UInt16}
    (hmodifier : code ∉ modifiers.map Prod.snd) (hbutton : code ∉ buttonCodes) :
    keyValues code written =
      (keySignal (fun keyCode => macToLinuxKey keyCode = code) es).map pressValue := by
  refine forwardAll_induction (P := fun es written => keyValues code written =
    (keySignal (fun keyCode => macToLinuxKey keyCode = code) es).map pressValue) rfl ?_ hu h
  intro e es first rest hcaused ih
  rw [keyValues_append, hcaused.keyValues hmodifier hbutton, ih, keySignal_cons, List.map_append]

/-- A key with no events is not held. -/
theorem notMem_heldKeys {code : UInt16} {written : List LinuxEvent}
    (h : keyValues code written = []) : code ∉ heldKeys written := by
  have hheld : code ∈ heldKeys written ↔
      ([] : List Bool).getLastD (code ∈ (∅ : Finset UInt16)) = true := mem_foldl_pressKey h ∅
  rw [List.getLastD_nil, decide_eq_true_iff] at hheld
  exact fun hmem => Finset.notMem_empty code (hheld.1 hmem)

/-- A key goes down or up one second after the start. -/
def keyAt (type : NSEventType) (keyCode : UInt16) : TimedEvent :=
  ⟨⟨type, 0, 0, 0, keyCode, 0⟩, fun _ => 1⟩

/-- The key of the letter A goes down, a button is pressed, shift goes down, the letter S is
typed, and a key that is not in the map goes down. -/
def typing : List TimedEvent :=
  [keyAt .keyDown 0x00, mouseAt .leftMouseDown 900, flagsAt 0x20000, keyAt .keyDown 0x01,
    keyAt .keyUp 0x01, keyAt .keyDown 0x3F]

end DisplayBridge
