import DisplayBridge.MouseButtons
import Mathlib.Data.List.Destutter

/-!
# Modifier keys from one end to the other

The Mac does not report shift, control, option and command as keys. It reports the set of
those that are down, each time it changes, and the forwarder sends a press or a release
for each key whose flag is not as it remembers it. Ubuntu replays the presses and releases
and knows nothing of flags.

What is sent for one key are the changes of its flag (`DisplayBridge.changes`), whatever
else is sent in between: no other event the forwarder makes carries the code of one of
these keys, unless the Mac reports such a key as an ordinary one
(`DisplayBridge.forwardAll_modifiers`). The changes of a signal alternate, and the last one
is to the value the signal has in the end. So no modifier key sticks
(`DisplayBridge.modifiers_never_stick`).
-/

namespace DisplayBridge

open Swift InputForwarder

/-! ### Signals and their changes -/

section Changes

variable {α : Type*} [DecidableEq α]

/-- The values of a signal that differ from the one before, where the first is compared
with a start. -/
def changes : α → List α → List α
  | _, [] => []
  | a, b :: l => if a = b then changes a l else b :: changes b l

theorem cons_changes (a : α) (l : List α) : a :: changes a l = l.destutter' (· ≠ ·) a := by
  induction l generalizing a with
  | nil => rfl
  | cons b l ih =>
    rw [changes, List.destutter'_cons]
    by_cases hab : a = b
    · rw [if_pos hab, if_neg (not_not.2 hab), ih]
    · rw [if_neg hab, if_pos hab, ih]

/-- **Changes alternate.** -/
theorem isChain_changes (a : α) (l : List α) : (a :: changes a l).IsChain (· ≠ ·) := by
  rw [cons_changes]
  exact List.isChain_destutter' (· ≠ ·) l a

/-- **The last change is to the last value.** -/
theorem getLastD_changes (a : α) (l : List α) : (changes a l).getLastD a = l.getLastD a := by
  induction l generalizing a with
  | nil => rfl
  | cons b l ih =>
    rw [changes, List.getLastD_cons]
    by_cases hab : a = b
    · rw [if_pos hab, ih, hab]
    · rw [if_neg hab, List.getLastD_cons, ih]

theorem changes_append (a : α) (l m : List α) :
    changes a (l ++ m) = changes a l ++ changes (l.getLastD a) m := by
  induction l generalizing a with
  | nil => rfl
  | cons b l ih =>
    rw [List.cons_append, changes, changes, List.getLastD_cons]
    by_cases hab : a = b
    · rw [if_pos hab, if_pos hab, ih, hab]
    · rw [if_neg hab, if_neg hab, ih, List.cons_append]

end Changes

/-! ### Flags -/

/-- A flag is one bit. -/
theorem containsFlag_eq_getLsbD {flag : UInt64} {k : ℕ} (hflag : flag.toBitVec = BitVec.twoPow 64 k)
    (hk : k < 64) (flags : UInt64) : containsFlag flags flag = flags.toBitVec.getLsbD k := by
  have hand : (flags &&& flag).toBitVec =
      if flags.toBitVec.getLsbD k then BitVec.twoPow 64 k else 0#64 := by
    rw [UInt64.toBitVec_and, hflag, BitVec.and_twoPow]
  have hne : BitVec.twoPow 64 k ≠ 0#64 := by
    intro h
    have hbit := congrArg (BitVec.getLsbD · k) h
    simp [hk] at hbit
  rw [containsFlag, Bool.eq_iff_iff, beq_iff_eq, ← UInt64.toBitVec_inj, hand, hflag]
  cases hbit : flags.toBitVec.getLsbD k with
  | true => exact iff_of_true (if_pos rfl) rfl
  | false =>
    refine iff_of_false (fun h => hne ?_) Bool.false_ne_true
    exact ((if_neg Bool.false_ne_true).symm.trans h).symm

theorem containsFlag_xor {row : UInt64 × UInt16} (hrow : row ∈ modifiers) (current last : UInt64) :
    containsFlag (current ^^^ last) row.1 =
      (containsFlag current row.1 ^^ containsFlag last row.1) := by
  obtain ⟨k, hk, hflag⟩ : ∃ k, k < 64 ∧ row.1.toBitVec = BitVec.twoPow 64 k := by
    rw [modifiers] at hrow
    simp only [List.mem_cons, List.not_mem_nil, or_false] at hrow
    rcases hrow with rfl | rfl | rfl | rfl
    · exact ⟨17, by decide, by decide⟩
    · exact ⟨18, by decide, by decide⟩
    · exact ⟨19, by decide, by decide⟩
    · exact ⟨20, by decide, by decide⟩
  rw [containsFlag_eq_getLsbD hflag hk, containsFlag_eq_getLsbD hflag hk,
    containsFlag_eq_getLsbD hflag hk, UInt64.toBitVec_xor, BitVec.getLsbD_xor]

/-! ### What is written for a key -/

/-- The values of the events of one key. -/
def keyValues (code : UInt16) (events : List LinuxEvent) : List ℤ :=
  (events.filter fun ev => ev.type = evKey ∧ ev.code = code).map LinuxEvent.value

/-- The value of a press or a release. -/
def pressValue (press : Bool) : ℤ := if press then 1 else 0

theorem keyValues_append (code : UInt16) (a b : List LinuxEvent) :
    keyValues code (a ++ b) = keyValues code a ++ keyValues code b := by
  rw [keyValues, List.filter_append, List.map_append]
  rfl

/-- **A key is held exactly if** the last of its events is a press. -/
theorem mem_foldl_pressKey {code : UInt16} {events : List LinuxEvent} {presses : List Bool}
    (h : keyValues code events = presses.map pressValue) (held : Finset UInt16) :
    code ∈ events.foldl pressKey held ↔ presses.getLastD (code ∈ held) = true := by
  induction events generalizing held presses with
  | nil =>
    obtain rfl : presses = [] := List.map_eq_nil_iff.1 h.symm
    rw [List.getLastD_nil, List.foldl_nil, decide_eq_true_iff]
  | cons ev events ih =>
    rw [List.foldl_cons]
    by_cases hev : ev.type = evKey ∧ ev.code = code
    · obtain ⟨htype, rfl⟩ := hev
      rw [keyValues, List.filter_cons_of_pos (by simpa using htype), List.map_cons] at h
      obtain ⟨press, rest, rfl, hvalue, hrest⟩ := List.map_eq_cons_iff.1 h.symm
      rw [ih hrest.symm, List.getLastD_cons, pressKey, if_pos htype, ← hvalue]
      cases press with
      | true => simp [pressValue]
      | false => simp [pressValue]
    · rw [keyValues, List.filter_cons_of_neg (by simpa using hev)] at h
      have hsame : code ∈ pressKey held ev ↔ code ∈ held := by
        rw [pressKey]
        split
        · next htype =>
          have hcode : ev.code ≠ code := fun hcode => hev ⟨htype, hcode⟩
          split
          · rfl
          · split
            · rw [Finset.mem_erase, and_iff_right hcode.symm]
            · rw [Finset.mem_insert, or_iff_right hcode.symm]
        · rfl
      rw [ih h, decide_eq_decide.2 hsame]

/-! ### What is sent -/

variable {fw fw' : InputForwarder} {view : NSView} {sent : List Datagram}

/-- What the device is written when some datagrams arrive. -/
def injected (sent : List Datagram) : List LinuxEvent :=
  sent.flatMap fun datagram => dbInputStart datagram.payload

theorem injected_append (a b : List Datagram) : injected (a ++ b) = injected a ++ injected b :=
  List.flatMap_append

/-- **What a call of `send` does** that does not trap. -/
theorem injected_of_send (hu : fw.Usable) {now : ℚ} {type : UInt8} {x y value : Int16}
    (h : fw.send now type x y value = some (fw', sent)) :
    fw' = { fw with seq := fw.seq + 1 } ∧
      injected sent = handleInputEvent ⟨type, 0, x, y, value⟩ := by
  rcases send_cases h with ⟨hno, -, -⟩ | ⟨ts, family, -, -, rfl, rfl⟩
  · exact absurd hu hno
  · refine ⟨rfl, ?_⟩
    rw [injected, List.flatMap_singleton, packetBytes, dbInputStart_packet]

/-- A key code survives the conversion to the signed field and back. -/
theorem toUInt16_of_int16OfUInt16 {code : UInt16} {x : Int16} (h : int16OfUInt16 code = some x) :
    x.toUInt16 = code := by
  obtain ⟨n, hn, rfl⟩ := Option.map_eq_some_iff.1 h
  obtain ⟨-, rfl⟩ := exactly_eq_some_iff.1 hn
  refine UInt16.toBitVec_inj.1 ?_
  show BitVec.ofInt 16 (code.toNat : ℤ) = code.toBitVec
  rw [BitVec.ofInt_natCast]
  exact congrArg UInt16.toBitVec UInt16.ofNat_toNat

/-- The packet type of a press or a release of a key. -/
def keyType (press : Bool) : UInt8 := if press then dbInputKeyDown else dbInputKeyUp

theorem keyValues_keyType (press : Bool) (x : Int16) (code : UInt16) :
    keyValues code (handleInputEvent ⟨keyType press, 0, x, 0, 0⟩) =
      if x.toUInt16 = code then [pressValue press] else [] := by
  have hevents : handleInputEvent ⟨keyType press, 0, x, 0, 0⟩ =
      [emitEvent evKey x.toUInt16 (pressValue press), emitSyn] := by
    cases press <;> rfl
  rw [hevents]
  by_cases hcode : x.toUInt16 = code
  · simp [keyValues, emitEvent, emitSyn, hcode, evKey, evSyn]
  · simp [keyValues, emitEvent, emitSyn, hcode, evKey, evSyn]

/-- **What the loop over the modifiers sends**: for each key of the table its new state, if
its flag has changed, and nothing for any other key. -/
theorem injected_of_sendModifiers {current changed : UInt64} {rows : List (UInt64 × UInt16)}
    (hu : fw.Usable) (hrows : (rows.map Prod.snd).Nodup) {now : ℕ → ℚ}
    (h : sendModifiers current changed fw now rows = some (fw', sent)) :
    (∃ seq, fw' = { fw with seq := seq }) ∧
      (∀ row ∈ rows, keyValues row.2 (injected sent) =
        if containsFlag changed row.1 then [pressValue (containsFlag current row.1)] else []) ∧
      ∀ code ∉ rows.map Prod.snd, keyValues code (injected sent) = [] := by
  induction rows generalizing fw now sent with
  | nil =>
    obtain ⟨rfl, rfl⟩ := Prod.mk.inj (Option.some.inj h)
    exact ⟨⟨fw.seq, rfl⟩, fun row hrow => absurd hrow List.not_mem_nil, fun code _ => rfl⟩
  | cons row rows ih =>
    obtain ⟨hfirst, hrest⟩ := List.nodup_cons.1 hrows
    rw [sendModifiers] at h
    by_cases hchanged : containsFlag changed row.1 = true
    · rw [if_pos hchanged] at h
      obtain ⟨x, hx, h⟩ := Option.bind_eq_some_iff.1 h
      obtain ⟨⟨fw₁, sent₁⟩, hsend, h⟩ := Option.bind_eq_some_iff.1 h
      obtain ⟨⟨fw₂, sent₂⟩, hloop, h⟩ := Option.bind_eq_some_iff.1 h
      obtain ⟨rfl, rfl⟩ := Prod.mk.inj (Option.some.inj h)
      obtain ⟨rfl, hinjected⟩ := injected_of_send hu hsend
      have hu₁ : InputForwarder.Usable { fw with seq := fw.seq + 1 } := hu
      obtain ⟨⟨seq, rfl⟩, hrows₂, hother⟩ := ih hu₁ hrest hloop
      have hkey : ∀ code, keyValues code (injected (sent₁ ++ sent₂)) =
          (if row.2 = code then [pressValue (containsFlag current row.1)] else []) ++
            keyValues code (injected sent₂) := by
        intro code
        have htype := keyValues_keyType (containsFlag current row.1) x code
        rw [toUInt16_of_int16OfUInt16 hx] at htype
        rw [injected_append, keyValues_append, hinjected]
        exact congrArg (· ++ keyValues code (injected sent₂)) htype
      refine ⟨⟨seq, rfl⟩, List.forall_mem_cons.2 ⟨?_, fun row' hrow' => ?_⟩, fun code hcode => ?_⟩
      · rw [hkey, if_pos rfl, if_pos hchanged, hother row.2 hfirst, List.append_nil]
      · have hne : row.2 ≠ row'.2 := fun heq => hfirst (heq ▸ List.mem_map_of_mem hrow')
        rw [hkey, if_neg hne, List.nil_append, hrows₂ row' hrow']
      · obtain ⟨hne, hcode⟩ := List.ne_and_not_mem_of_not_mem_cons hcode
        rw [hkey, if_neg (Ne.symm hne), List.nil_append, hother code hcode]
    · rw [if_neg hchanged] at h
      obtain ⟨hseq, hrows₂, hother⟩ := ih hu hrest h
      refine ⟨hseq, List.forall_mem_cons.2 ⟨?_, hrows₂⟩, fun code hcode => ?_⟩
      · rw [if_neg hchanged, hother row.2 hfirst]
      · exact hother code (List.not_mem_of_not_mem_cons hcode)

/-! ### Events that are no change of the flags -/

/-- The key codes of the keys in the table of `handleModifierFlags`. -/
def modifierKeyCodes : List UInt16 := [0x38, 0x3B, 0x3A, 0x37]

/-- The event does not report one of these keys as an ordinary key. -/
def NSEvent.NoModifierKey (e : NSEvent) : Prop :=
  e.type = .keyDown ∨ e.type = .keyUp → e.keyCode ∉ modifierKeyCodes

theorem keyValues_eq_nil {code : UInt16} {events : List LinuxEvent}
    (h : ∀ ev ∈ events, ev.type = evKey → ev.code ≠ code) : keyValues code events = [] := by
  rw [keyValues, List.filter_eq_nil_iff.2, List.map_nil]
  intro ev hev hkey
  obtain ⟨htype, hcode⟩ := of_decide_eq_true hkey
  exact h ev hev htype hcode

/-- A key is in the key map, or it has the code of no key. -/
theorem mem_keyMap_or (keyCode : UInt16) :
    (keyCode, macToLinuxKey keyCode) ∈ keyMap ∨ macToLinuxKey keyCode = 0 := by
  rw [macToLinuxKey]
  cases hlookup : keyMap.lookup keyCode with
  | none => exact .inr rfl
  | some code =>
    obtain ⟨before, after, hsplit, -⟩ := List.lookup_eq_some_iff.1 hlookup
    left
    rw [hsplit]
    exact List.mem_append_right _ List.mem_cons_self

/-- Only the keys of the table have the codes of the table. -/
theorem macToLinuxKey_notMem {keyCode : UInt16} (h : keyCode ∉ modifierKeyCodes) :
    macToLinuxKey keyCode ∉ modifiers.map Prod.snd := by
  have htable : keyMap.all (fun entry =>
      entry.2 ∈ modifiers.map Prod.snd → entry.1 ∈ modifierKeyCodes) = true := by decide
  rcases mem_keyMap_or keyCode with hmem | hzero
  · exact mt (of_decide_eq_true (List.all_eq_true.1 htable _ hmem)) h
  · rw [hzero]
    decide

theorem buttonOfValue_notMem (value : Int16) :
    buttonOfValue value ∉ modifiers.map Prod.snd := by
  unfold buttonOfValue
  split
  · decide
  · split
    · decide
    · split <;> decide

/-- What an event of the mouse writes is for no key of the table. -/
theorem keyValues_mouse {type : UInt8}
    (htype : type = dbInputMouseMove ∨ type = dbInputMouseButton ∨ type = dbInputMouseScroll)
    (x y value : Int16) {code : UInt16} (hcode : code ∈ modifiers.map Prod.snd) :
    keyValues code (handleInputEvent ⟨type, 0, x, y, value⟩) = [] := by
  refine keyValues_eq_nil fun ev hev hkey => ?_
  rcases htype with rfl | rfl | rfl
  · have hmem : ev ∈ [emitEvent evAbs absX x.toInt, emitEvent evAbs absY y.toInt, emitSyn] := hev
    simp only [List.mem_cons, List.not_mem_nil, or_false] at hmem
    rcases hmem with rfl | rfl | rfl <;> cases hkey
  · have hmem : ev ∈ [emitEvent evKey (buttonOfValue value) y.toInt, emitSyn] := hev
    rcases List.mem_pair.1 hmem with rfl | rfl
    · rintro rfl
      exact buttonOfValue_notMem value hcode
    · cases hkey
  · have hmem : ev ∈ (if value ≠ 0 then [emitEvent evRel relWheel value.toInt] else []) ++
        (if x ≠ 0 then [emitEvent evRel relHWheel x.toInt] else []) ++ [emitSyn] := hev
    have hrel : ∀ {p : Prop} [Decidable p] {axis : UInt16} {n : ℤ},
        ev ∈ (if p then [emitEvent evRel axis n] else []) → ev.type = evRel := by
      intro p _ axis n hin
      split at hin
      · rw [List.mem_singleton.1 hin]
        rfl
      · cases hin
    rcases List.mem_append.1 hmem with hmem | hmem
    · have htype : ev.type = evRel := (List.mem_append.1 hmem).elim hrel hrel
      rw [hkey] at htype
      cases htype
    · rw [List.mem_singleton.1 hmem] at hkey
      cases hkey

/-- **An event that is no change of the flags** leaves the remembered flags alone, and
nothing is written for a key of the table. -/
theorem keyValues_of_handleEvent (hu : fw.Usable) {event : NSEvent}
    (hflags : event.type ≠ .flagsChanged) (hkey : event.NoModifierKey) {now : ℕ → ℚ}
    (h : fw.handleEvent (some view) now event = some (fw', sent)) :
    (∃ seq, fw' = { fw with seq := seq }) ∧
      ∀ code ∈ modifiers.map Prod.snd, keyValues code (injected sent) = [] := by
  have hsend : ∀ {type : UInt8} {x y value : Int16},
      (∀ code ∈ modifiers.map Prod.snd,
        keyValues code (handleInputEvent ⟨type, 0, x, y, value⟩) = []) →
      fw.send (now 0) type x y value = some (fw', sent) →
      (∃ seq, fw' = { fw with seq := seq }) ∧
        ∀ code ∈ modifiers.map Prod.snd, keyValues code (injected sent) = [] := by
    intro type x y value hnone hcall
    obtain ⟨rfl, hinjected⟩ := injected_of_send hu hcall
    exact ⟨⟨_, rfl⟩, hinjected ▸ hnone⟩
  have hmouse : ∀ {type : UInt8} {value : Int16},
      type = dbInputMouseMove ∨ type = dbInputMouseButton →
      ((mapCoordinates event view).bind fun p => fw.send (now 0) type p.1 p.2 value) =
        some (fw', sent) →
      (∃ seq, fw' = { fw with seq := seq }) ∧
        ∀ code ∈ modifiers.map Prod.snd, keyValues code (injected sent) = [] := by
    intro type value htype hcall
    obtain ⟨⟨x, y⟩, -, hcall⟩ := Option.bind_eq_some_iff.1 hcall
    exact hsend (fun _ => keyValues_mouse (htype.imp_right .inl) x y value) hcall
  have hpress : ∀ press, (event.type = .keyDown ∨ event.type = .keyUp) →
      ((int16OfUInt16 (macToLinuxKey event.keyCode)).bind fun code =>
        fw.send (now 0) (keyType press) code 0 0) = some (fw', sent) →
      (∃ seq, fw' = { fw with seq := seq }) ∧
        ∀ code ∈ modifiers.map Prod.snd, keyValues code (injected sent) = [] := by
    intro press htype hcall
    obtain ⟨x, hx, hcall⟩ := Option.bind_eq_some_iff.1 hcall
    refine hsend (fun code hcode => ?_) hcall
    rw [keyValues_keyType, toUInt16_of_int16OfUInt16 hx]
    refine if_neg ?_
    rintro rfl
    exact macToLinuxKey_notMem (hkey htype) hcode
  rw [handleEvent] at h
  cases htype : event.type <;> simp only [htype] at h
  case mouseMoved | leftMouseDragged | rightMouseDragged => exact hmouse (.inl rfl) h
  case leftMouseDown | leftMouseUp | rightMouseDown | rightMouseUp =>
    exact hmouse (.inr rfl) h
  case scrollWheel =>
    obtain ⟨⟨x, y⟩, -, h⟩ := Option.bind_eq_some_iff.1 h
    obtain ⟨ticks, -, h⟩ := Option.bind_eq_some_iff.1 h
    exact hsend (fun _ => keyValues_mouse (.inr (.inr rfl)) x y _) h
  case keyDown => exact hpress true (.inl htype) h
  case keyUp => exact hpress false (.inr htype) h
  case flagsChanged => exact absurd htype hflags
  case other =>
    obtain ⟨rfl, rfl⟩ := Prod.mk.inj (Option.some.inj h)
    exact ⟨⟨fw.seq, rfl⟩, fun code _ => rfl⟩

/-! ### The signal of a flag -/

/-- The values of a flag in the events that report the flags. -/
def flagSignal (flag : UInt64) (es : List TimedEvent) : List Bool :=
  (es.filter fun e => e.event.type = .flagsChanged).map
    fun e => containsFlag e.event.modifierFlags flag

/-- The flags after some events: those of the last event that reports them. -/
def latestFlags (flags : UInt64) (es : List TimedEvent) : UInt64 :=
  ((es.filter fun e => e.event.type = .flagsChanged).map fun e => e.event.modifierFlags).getLastD
    flags

theorem getLastD_flagSignal (flag flags : UInt64) (es : List TimedEvent) :
    (flagSignal flag es).getLastD (containsFlag flags flag) =
      containsFlag (latestFlags flags es) flag := by
  have hmap : flagSignal flag es =
      ((es.filter fun e => e.event.type = .flagsChanged).map
        fun e => e.event.modifierFlags).map (containsFlag · flag) := by
    rw [flagSignal, List.map_map]
    rfl
  rw [hmap, latestFlags]
  exact List.getLastD_map

/-- **One event**: what is written for a key of the table is the change of its flag, and
the flags are remembered. -/
theorem forward_modifiers (hu : fw.Usable) {e : TimedEvent} (hkey : e.event.NoModifierKey)
    {written : List LinuxEvent} (h : forward fw view e = some (fw', written)) :
    fw'.Usable ∧ fw'.lastModifierFlags = latestFlags fw.lastModifierFlags [e] ∧
      ∀ row ∈ modifiers, keyValues row.2 written =
        (changes (containsFlag fw.lastModifierFlags row.1) (flagSignal row.1 [e])).map
          pressValue := by
  obtain ⟨⟨fw₁, sent⟩, hsent, h⟩ := Option.bind_eq_some_iff.1 h
  obtain ⟨rfl, rfl⟩ := Prod.mk.inj (Option.some.inj h)
  by_cases hflags : e.event.type = .flagsChanged
  · have hloop : sendModifiers e.event.modifierFlags
        (e.event.modifierFlags ^^^ fw.lastModifierFlags)
        { fw with lastModifierFlags := e.event.modifierFlags } e.now modifiers =
          some (fw₁, sent) := by
      simp only [handleEvent, hflags] at hsent
      exact hsent
    have hu₁ : InputForwarder.Usable
      { fw with lastModifierFlags := e.event.modifierFlags } := hu
    obtain ⟨⟨seq, rfl⟩, hrows, -⟩ := injected_of_sendModifiers hu₁ (by decide) hloop
    refine ⟨hu, ?_, fun row hrow => ?_⟩
    · simp [latestFlags, hflags]
    · have hsignal : flagSignal row.1 [e] = [containsFlag e.event.modifierFlags row.1] := by
        simp [flagSignal, hflags]
      refine (hrows row hrow).trans ?_
      rw [hsignal, containsFlag_xor hrow, changes, changes, changes]
      cases containsFlag e.event.modifierFlags row.1 <;>
        cases containsFlag fw.lastModifierFlags row.1 <;> rfl
  · obtain ⟨⟨seq, rfl⟩, hnone⟩ := keyValues_of_handleEvent hu hflags hkey hsent
    refine ⟨hu, ?_, fun row hrow => ?_⟩
    · simp [latestFlags, hflags]
    · have hsignal : flagSignal row.1 [e] = [] := by simp [flagSignal, hflags]
      rw [hsignal]
      exact hnone row.2 (List.mem_map_of_mem hrow)

/-- **A list of events**: what is written for a key of the table are the changes of its
flag. -/
theorem forwardAll_modifiers (hu : fw.Usable) {es : List TimedEvent}
    (hkey : ∀ e ∈ es, e.event.NoModifierKey) {written : List LinuxEvent}
    (h : forwardAll view fw es = some (fw', written)) :
    ∀ row ∈ modifiers, keyValues row.2 written =
      (changes (containsFlag fw.lastModifierFlags row.1) (flagSignal row.1 es)).map
        pressValue := by
  induction es generalizing fw written with
  | nil =>
    obtain ⟨rfl, rfl⟩ := Prod.mk.inj (Option.some.inj h)
    exact fun row _ => rfl
  | cons e es ih =>
    obtain ⟨hkey', hrest⟩ := List.forall_mem_cons.1 hkey
    obtain ⟨⟨fw₁, first⟩, hfirst, h⟩ := Option.bind_eq_some_iff.1 h
    obtain ⟨⟨fw₂, rest⟩, htail, h⟩ := Option.bind_eq_some_iff.1 h
    obtain ⟨rfl, rfl⟩ := Prod.mk.inj (Option.some.inj h)
    obtain ⟨hu₁, hlast, hvalues⟩ := forward_modifiers hu hkey' hfirst
    intro row hrow
    have hsignal : flagSignal row.1 (e :: es) = flagSignal row.1 [e] ++ flagSignal row.1 es := by
      rw [← List.singleton_append, flagSignal, List.filter_append, List.map_append]
      rfl
    rw [keyValues_append, hvalues row hrow, ih hu₁ hrest htail row hrow, hsignal, changes_append,
      List.map_append, getLastD_flagSignal, hlast]

/-! ### No event stops the Mac -/

/-- The readings of the clock and the delta of the wheel convert. -/
structure TimedEvent.Converts (fw : InputForwarder) (e : TimedEvent) : Prop where
  times : ∀ k, (fw.timestamp (e.now k)).isSome
  delta : e.event.type = .scrollWheel → (intOfDouble (mulDouble e.event.scrollingDeltaY 10)).isSome

theorem exists_sendModifiers (current changed : UInt64) {rows : List (UInt64 × UInt16)}
    (hu : fw.Usable) (hrows : ∀ row ∈ rows, (int16OfUInt16 row.2).isSome) {now : ℕ → ℚ}
    (ht : ∀ k, (fw.timestamp (now k)).isSome) :
    ∃ seq sent, sendModifiers current changed fw now rows =
      some ({ fw with seq := seq }, sent) := by
  induction rows generalizing fw now with
  | nil => exact ⟨fw.seq, [], rfl⟩
  | cons row rows ih =>
    obtain ⟨hcode, hrest⟩ := List.forall_mem_cons.1 hrows
    rw [sendModifiers]
    by_cases hchanged : containsFlag changed row.1 = true
    · obtain ⟨x, hx⟩ := Option.isSome_iff_exists.1 hcode
      obtain ⟨first, hsend⟩ := exists_send hu (ht 0) (keyType (containsFlag current row.1)) x 0 0
      have hu₁ : InputForwarder.Usable { fw with seq := fw.seq + 1 } := hu
      obtain ⟨seq, sent₂, hloop⟩ := ih hu₁ hrest fun k => ht (k + 1)
      refine ⟨seq, [first] ++ sent₂, ?_⟩
      rw [if_pos hchanged, hx]
      show (fw.send (now 0) (keyType _) x 0 0).bind _ = _
      rw [hsend]
      show (sendModifiers _ _ _ _ _).bind _ = _
      rw [hloop]
      rfl
    · rw [if_neg hchanged]
      exact ih hu hrest ht

/-- The codes of the key map fit the signed field. -/
theorem isSome_int16OfUInt16_macToLinuxKey (keyCode : UInt16) :
    (int16OfUInt16 (macToLinuxKey keyCode)).isSome := by
  have htable : keyMap.all (fun entry => (int16OfUInt16 entry.2).isSome) = true := by decide
  rcases mem_keyMap_or keyCode with hmem | hzero
  · exact List.all_eq_true.1 htable (keyCode, macToLinuxKey keyCode) hmem
  · rw [hzero]
    rfl

/-- **An event that converts is handled.** -/
theorem exists_forward (view : NSView) (hu : fw.Usable) {e : TimedEvent}
    (hconverts : e.Converts fw) :
    ∃ seq flags written, forward fw view e =
      some ({ fw with seq := seq, lastModifierFlags := flags }, written) := by
  have hhandled : ∃ seq flags sent, fw.handleEvent (some view) e.now e.event =
      some ({ fw with seq := seq, lastModifierFlags := flags }, sent) := by
    have hsend : ∀ type x y value, ∃ seq flags sent, fw.send (e.now 0) type x y value =
        some ({ fw with seq := seq, lastModifierFlags := flags }, sent) := by
      intro type x y value
      obtain ⟨d, hsent⟩ := exists_send hu (hconverts.times 0) type x y value
      exact ⟨_, fw.lastModifierFlags, [d], hsent⟩
    obtain ⟨⟨x, y⟩, hxy⟩ := exists_mapCoordinates e.event view
    obtain ⟨code, hcode⟩ :=
      Option.isSome_iff_exists.1 (isSome_int16OfUInt16_macToLinuxKey e.event.keyCode)
    rw [handleEvent, hxy, hcode]
    cases htype : e.event.type <;> dsimp only
    case scrollWheel =>
      obtain ⟨ticks, hticks⟩ := Option.isSome_iff_exists.1 (hconverts.delta htype)
      rw [hticks]
      exact hsend _ x y _
    case flagsChanged =>
      have hu₁ : InputForwarder.Usable
        { fw with lastModifierFlags := e.event.modifierFlags } := hu
      have hfits : ∀ row ∈ modifiers, (int16OfUInt16 row.2).isSome :=
        List.all_eq_true.1 (by decide)
      obtain ⟨seq, sent, hloop⟩ := exists_sendModifiers e.event.modifierFlags
        (e.event.modifierFlags ^^^ fw.lastModifierFlags) hu₁ hfits hconverts.times
      exact ⟨seq, _, sent, hloop⟩
    case other => exact ⟨fw.seq, fw.lastModifierFlags, [], rfl⟩
    all_goals exact hsend _ _ _ _
  obtain ⟨seq, flags, sent, hsent⟩ := hhandled
  refine ⟨seq, flags, injected sent, ?_⟩
  rw [forward, hsent]
  rfl

theorem isSome_forwardAll (hu : fw.Usable) {es : List TimedEvent}
    (hconverts : ∀ e ∈ es, e.Converts fw) : (forwardAll view fw es).isSome := by
  induction es generalizing fw with
  | nil => rfl
  | cons e es ih =>
    obtain ⟨hfirst, hrest⟩ := List.forall_mem_cons.1 hconverts
    obtain ⟨seq, flags, written, hforward⟩ := exists_forward view hu hfirst
    have hu₁ : InputForwarder.Usable
      { fw with seq := seq, lastModifierFlags := flags } := hu
    obtain ⟨⟨fw', rest⟩, htail⟩ := Option.isSome_iff_exists.1
      (ih hu₁ fun e' he' => ⟨(hrest e' he').times, (hrest e' he').delta⟩)
    rw [forwardAll, hforward]
    show ((forwardAll view _ es).bind _).isSome = true
    rw [htail]
    rfl

/-! ### The keys held -/

/-- Presses and releases in turn, beginning with a press. -/
structure Alternate (values : List ℤ) : Prop where
  press_or_release : ∀ v ∈ values, v = 0 ∨ v = 1
  turns : (0 :: values).IsChain (· ≠ ·)

theorem alternate_changes (signal : List Bool) :
    Alternate ((changes false signal).map pressValue) := by
  constructor
  · intro v hv
    obtain ⟨press, -, rfl⟩ := List.mem_map.1 hv
    cases press with
    | true => exact .inr rfl
    | false => exact .inl rfl
  · have hmap : (0 : ℤ) :: (changes false signal).map pressValue =
        (false :: changes false signal).map pressValue := rfl
    rw [hmap, List.isChain_map]
    refine (isChain_changes false signal).imp fun a b hab => ?_
    revert hab
    cases a <;> cases b <;> decide

/-- **Modifier keys do not stick.** Whatever the events are, as long as no ordinary key
event has the code of a modifier key: after each of them the keys of the table that are held
on the device are those whose flags are set in the latest flags, and the events of each of
these keys are presses and releases in turn. If times and deltas convert, every event is
handled. -/
theorem modifiers_never_stick (hu : fw.Usable) (hflags : fw.lastModifierFlags = 0)
    {es : List TimedEvent} (hkey : ∀ e ∈ es, e.event.NoModifierKey) :
    ∀ pre, pre <+: es →
      ((∀ e ∈ pre, e.Converts fw) → (forwardAll view fw pre).isSome) ∧
      ∀ fw' written, forwardAll view fw pre = some (fw', written) → ∀ row ∈ modifiers,
        (row.2 ∈ heldKeys written ↔ containsFlag (latestFlags 0 pre) row.1 = true) ∧
          Alternate (keyValues row.2 written) := by
  intro pre hpre
  refine ⟨isSome_forwardAll hu, fun fw' written h row hrow => ?_⟩
  have hvalues := forwardAll_modifiers hu (fun e he => hkey e (hpre.subset he)) h row hrow
  have hnone : modifiers.all (fun row => containsFlag 0 row.1 = false) = true := by decide
  have hzero := of_decide_eq_true (List.all_eq_true.1 hnone row hrow)
  rw [hflags, hzero] at hvalues
  constructor
  · rw [heldKeys, mem_foldl_pressKey hvalues, ← getLastD_flagSignal row.1 0 pre, hzero]
    show (changes false (flagSignal row.1 pre)).getLastD false = true ↔ _
    rw [getLastD_changes]
  · rw [hvalues]
    exact alternate_changes _

/-! ### Two keys at once -/

/-- The flags one second after the start. -/
def flagsAt (flags : UInt64) : TimedEvent := ⟨⟨.flagsChanged, 0, 0, 0, 0, flags⟩, fun _ => 1⟩

/-- Shift and command go down at once, with a flag that is in no row of the table; the
mouse is clicked; the flags are reported again; and shift goes up. -/
def chord : List TimedEvent :=
  [flagsAt 0x120100, mouseAt .leftMouseDown 900, mouseAt .leftMouseUp 900, flagsAt 0x120100,
    flagsAt 0x100100]

/-- After it command is held, and shift has been pressed and released once. -/
theorem modifiers_never_stick_chord :
    ∃ fw' written, forwardAll fullView readyForwarder chord = some (fw', written) ∧
      125 ∈ heldKeys written ∧ 42 ∉ heldKeys written ∧ Alternate (keyValues 42 written) := by
  have hkey : ∀ e ∈ chord, e.event.NoModifierKey := by
    intro e he
    simp only [chord, List.mem_cons, List.not_mem_nil, or_false] at he
    rcases he with rfl | rfl | rfl | rfl | rfl <;> rintro (h | h) <;> cases h
  have hconverts : ∀ e ∈ chord, e.Converts readyForwarder := by
    intro e he
    simp only [chord, List.mem_cons, List.not_mem_nil, or_false] at he
    rcases he with rfl | rfl | rfl | rfl | rfl <;>
      exact ⟨fun _ => timely_mouseAt .mouseMoved 0, fun h => absurd h (by decide)⟩
  obtain ⟨hhandled, hkeys⟩ :=
    modifiers_never_stick usable_readyForwarder rfl hkey chord List.prefix_rfl
  obtain ⟨⟨fw', written⟩, hrun⟩ := Option.isSome_iff_exists.1 (hhandled hconverts)
  obtain ⟨hcommand, -⟩ := hkeys fw' written hrun (flagCommand, 125) (by decide)
  obtain ⟨hshift, halternate⟩ := hkeys fw' written hrun (flagShift, 42) (by decide)
  exact ⟨fw', written, hrun, hcommand.2 (by decide), mt hshift.1 (by decide), halternate⟩

end DisplayBridge
