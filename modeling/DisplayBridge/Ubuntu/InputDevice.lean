import DisplayBridge.Forwarded
import Mathlib.Tactic.Linarith

/-!
# The virtual device

Before anything can be injected, `setup_uinput_device` tells the kernel what the device is:
which types of event it reports, which keys and axes it has, and between which bounds its
absolute axes move. The kernel drops what is not declared, and a reader of the device waits
for the end of a report before it looks at it.

A datagram off the network, whatever its bytes are, writes one whole report or nothing, and
all of it is declared unless the datagram presses or releases a key whose code the loop over
the keys does not reach (`DisplayBridge.datagrams_written`). What comes from the Mac is always
declared, comes in whole reports, and keeps the absolute axes between their bounds
(`DisplayBridge.forwarded_accepted`): the keys of the map, the buttons, the axes and the
bounds on both sides fit together.
-/

namespace DisplayBridge

open Swift InputForwarder

/-! ### Setting it up -/

/-- `KEY_MAX`. -/
def keyMax : ℕ := 0x2ff

/-- `BTN_SIDE`. -/
def btnSide : UInt16 := 0x113

/-- `BTN_EXTRA`. -/
def btnExtra : UInt16 := 0x114

/-- `REL_X`. -/
def relX : UInt16 := 0x00

/-- `REL_Y`. -/
def relY : UInt16 := 0x01

/-- A request to `/dev/uinput`. -/
inductive UinputIoctl
  /-- `UI_SET_EVBIT`. -/
  | setEvBit (type : UInt16)
  /-- `UI_SET_KEYBIT`, `UI_SET_RELBIT` and `UI_SET_ABSBIT`, by the type they are about. -/
  | setBit (type code : UInt16)
  /-- `UI_ABS_SETUP`. -/
  | absSetup (code : UInt16) (minimum maximum : ℤ)
  /-- `UI_DEV_SETUP`. -/
  | devSetup
  /-- `UI_DEV_CREATE`. -/
  | devCreate

namespace UinputIoctl

/-- `UI_SET_KEYBIT`. -/
def setKeyBit (code : UInt16) : UinputIoctl := setBit evKey code

/-- `UI_SET_RELBIT`. -/
def setRelBit (code : UInt16) : UinputIoctl := setBit evRel code

/-- `UI_SET_ABSBIT`. -/
def setAbsBit (code : UInt16) : UinputIoctl := setBit evAbs code

end UinputIoctl

open UinputIoctl

/-- The keys of the loop, which stops before `KEY_MAX`. -/
def keyboardKeys : List UInt16 := (List.range keyMax).map UInt16.ofNat

/-- The buttons the device is told it has. -/
def mouseButtons : List UInt16 := [btnLeft, btnRight, btnMiddle, btnSide, btnExtra]

/-- The axes of it that move by an amount. -/
def relAxes : List UInt16 := [relX, relY, relWheel, relHWheel]

/-- The axes of it that have a place. -/
def absAxes : List UInt16 := [absX, absY]

/-- The requests of `setup_uinput_device`, in their order. -/
def setupUinputDevice : List UinputIoctl :=
  [setEvBit evKey, setEvBit evRel, setEvBit evAbs, setEvBit evSyn] ++
    keyboardKeys.map setKeyBit ++ mouseButtons.map setKeyBit ++
    relAxes.map setRelBit ++ absAxes.map setAbsBit ++
    [absSetup absX 0 (dbTargetWidth - 1), absSetup absY 0 (dbTargetHeight - 1), devSetup,
      devCreate]

/-- What the kernel keeps of a device. -/
structure UinputDevice where
  types : Finset UInt16
  /-- The codes, each with the type it is of. -/
  bits : Finset (UInt16 × UInt16)
  /-- The bounds of an absolute axis. -/
  absinfo : UInt16 → ℤ × ℤ
  created : Bool

namespace UinputDevice

/-- A device that has just been opened. -/
def opened : UinputDevice := ⟨∅, ∅, fun _ => (0, 0), false⟩

/-- A request that succeeds. -/
def ioctl (dev : UinputDevice) : UinputIoctl → UinputDevice
  | .setEvBit type => { dev with types := insert type dev.types }
  | .setBit type code => { dev with bits := insert (type, code) dev.bits }
  | .absSetup code minimum maximum =>
    { dev with absinfo := Function.update dev.absinfo code (minimum, maximum) }
  | .devSetup => dev
  | .devCreate => { dev with created := true }

/-- The kernel passes the event on. -/
def Accepts (dev : UinputDevice) (ev : LinuxEvent) : Prop :=
  ev.type ∈ dev.types ∧ (ev.type = evSyn ∨ (ev.type, ev.code) ∈ dev.bits)

/-- An absolute axis stays between its bounds. -/
def InBounds (dev : UinputDevice) (ev : LinuxEvent) : Prop :=
  ev.type = evAbs →
    (dev.absinfo ev.code).1 ≤ ev.value ∧ ev.value ≤ (dev.absinfo ev.code).2

theorem mem_types_foldl (requests : List UinputIoctl) (dev : UinputDevice) (type : UInt16) :
    type ∈ (requests.foldl ioctl dev).types ↔ type ∈ dev.types ∨ setEvBit type ∈ requests := by
  induction requests generalizing dev with
  | nil => simp
  | cons request requests ih =>
    rw [List.foldl_cons, ih, List.mem_cons, ← or_assoc]
    refine or_congr ?_ Iff.rfl
    cases request with
    | setEvBit other =>
      rw [ioctl, Finset.mem_insert, UinputIoctl.setEvBit.injEq]
      exact or_comm
    | _ => simp [ioctl]

theorem mem_bits_foldl (requests : List UinputIoctl) (dev : UinputDevice) (type code : UInt16) :
    (type, code) ∈ (requests.foldl ioctl dev).bits ↔
      (type, code) ∈ dev.bits ∨ setBit type code ∈ requests := by
  induction requests generalizing dev with
  | nil => simp
  | cons request requests ih =>
    rw [List.foldl_cons, ih, List.mem_cons, ← or_assoc]
    refine or_congr ?_ Iff.rfl
    cases request with
    | setBit otherType otherCode =>
      rw [ioctl, Finset.mem_insert, UinputIoctl.setBit.injEq, Prod.mk.injEq]
      exact or_comm
    | _ => simp [ioctl]

end UinputDevice

/-- The device of the input handler. -/
def uinputDevice : UinputDevice := setupUinputDevice.foldl UinputDevice.ioctl .opened

theorem mem_keyboardKeys {code : UInt16} : code ∈ keyboardKeys ↔ code.toNat < keyMax := by
  rw [keyboardKeys, List.mem_map]
  constructor
  · rintro ⟨i, hi, rfl⟩
    rw [List.mem_range] at hi
    rwa [UInt16.toNat_ofNat', Nat.mod_eq_of_lt (hi.trans (by decide))]
  · intro hcode
    exact ⟨code.toNat, List.mem_range.2 hcode, UInt16.ofNat_toNat⟩

/-- The buttons are keys of the loop as well. -/
theorem mouseButtons_subset : mouseButtons ⊆ keyboardKeys := by
  intro code hcode
  have hall : mouseButtons.all (fun code => code.toNat < keyMax) = true := by decide
  exact mem_keyboardKeys.2 (of_decide_eq_true (List.all_eq_true.1 hall code hcode))

/-- **What is declared.** -/
theorem uinputDevice_accepts_iff (ev : LinuxEvent) :
    uinputDevice.Accepts ev ↔ ev.type = evSyn ∨ (ev.type = evKey ∧ ev.code.toNat < keyMax) ∨
      (ev.type = evRel ∧ ev.code ∈ relAxes) ∨ (ev.type = evAbs ∧ ev.code ∈ absAxes) := by
  have htype : ev.type ∈ uinputDevice.types ↔
      ev.type = evKey ∨ ev.type = evRel ∨ ev.type = evAbs ∨ ev.type = evSyn := by
    rw [uinputDevice, UinputDevice.mem_types_foldl]
    simp [setupUinputDevice, UinputDevice.opened, setKeyBit, setRelBit, setAbsBit]
  have hmap : ∀ (type : UInt16) (codes : List UInt16),
      setBit ev.type ev.code ∈ codes.map (setBit type) ↔ ev.type = type ∧ ev.code ∈ codes := by
    intro type codes
    rw [List.mem_map]
    constructor
    · rintro ⟨code, hcode, heq⟩
      obtain ⟨rfl, rfl⟩ := UinputIoctl.setBit.inj heq
      exact ⟨rfl, hcode⟩
    · rintro ⟨rfl, hcode⟩
      exact ⟨ev.code, hcode, rfl⟩
  have hbit : (ev.type, ev.code) ∈ uinputDevice.bits ↔
      ((ev.type = evKey ∧ ev.code ∈ keyboardKeys) ∨ (ev.type = evRel ∧ ev.code ∈ relAxes) ∨
        (ev.type = evAbs ∧ ev.code ∈ absAxes)) := by
    have hkey := hmap evKey keyboardKeys
    have hbutton := hmap evKey mouseButtons
    have hrel := hmap evRel relAxes
    have habs := hmap evAbs absAxes
    rw [uinputDevice, UinputDevice.mem_bits_foldl, setupUinputDevice]
    constructor
    · intro h
      rcases h with hopened | hrequest
      · exact absurd hopened (Finset.notMem_empty _)
      · simp only [List.mem_append] at hrequest
        rcases hrequest with ((((htypes | hmem) | hmem) | hmem) | hmem) | hrest
        · simp at htypes
        · exact .inl (hkey.1 hmem)
        · exact .inl ((hbutton.1 hmem).imp_right fun h => mouseButtons_subset h)
        · exact .inr (.inl (hrel.1 hmem))
        · exact .inr (.inr (habs.1 hmem))
        · simp at hrest
    · intro h
      right
      simp only [List.mem_append]
      rcases h with h | h | h
      · exact .inl (.inl (.inl (.inl (.inr (hkey.2 h)))))
      · exact .inl (.inl (.inr (hrel.2 h)))
      · exact .inl (.inr (habs.2 h))
  rw [UinputDevice.Accepts, htype, hbit, mem_keyboardKeys]
  constructor
  · rintro ⟨-, hsyn | hrest⟩
    · exact .inl hsyn
    · exact .inr hrest
  · rintro (hsyn | hkey | hrel | habs)
    · exact ⟨.inr (.inr (.inr hsyn)), .inl hsyn⟩
    · exact ⟨.inl hkey.1, .inr (.inl hkey)⟩
    · exact ⟨.inr (.inl hrel.1), .inr (.inr (.inl hrel))⟩
    · exact ⟨.inr (.inr (.inl habs.1)), .inr (.inr (.inr habs))⟩

/-- The bounds of the axes are the edges of the target display. -/
theorem uinputDevice_absinfo : uinputDevice.absinfo absX = (0, dbTargetWidth - 1) ∧
    uinputDevice.absinfo absY = (0, dbTargetHeight - 1) := by
  have hlast : ∀ dev : UinputDevice, ([absSetup absX 0 (dbTargetWidth - 1),
      absSetup absY 0 (dbTargetHeight - 1), devSetup, devCreate].foldl UinputDevice.ioctl
        dev).absinfo =
      Function.update (Function.update dev.absinfo absX (0, dbTargetWidth - 1)) absY
        (0, dbTargetHeight - 1) := fun dev => rfl
  have hne : absX ≠ absY := by decide
  rw [uinputDevice, setupUinputDevice, List.foldl_append, hlast]
  constructor
  · rw [Function.update_of_ne hne, Function.update_self]
  · rw [Function.update_self]

/-! ### Reports -/

/-- A report: some events and the one that ends it. -/
def IsReport (events : List LinuxEvent) : Prop :=
  ∃ body, events = body ++ [emitSyn] ∧ ∀ ev ∈ body, ev.type ≠ evSyn

/-- Whole reports and nothing else. -/
def Reports (events : List LinuxEvent) : Prop :=
  ∃ reports : List (List LinuxEvent), events = reports.flatten ∧
    ∀ report ∈ reports, IsReport report

theorem reports_nil : Reports [] := ⟨[], rfl, fun _ hreport => absurd hreport List.not_mem_nil⟩

theorem IsReport.reports {events : List LinuxEvent} (h : IsReport events) : Reports events :=
  ⟨[events], List.flatten_singleton.symm, fun _ hmem => List.mem_singleton.1 hmem ▸ h⟩

theorem Reports.append {a b : List LinuxEvent} (ha : Reports a) (hb : Reports b) :
    Reports (a ++ b) := by
  obtain ⟨ra, rfl, ha⟩ := ha
  obtain ⟨rb, rfl, hb⟩ := hb
  refine ⟨ra ++ rb, List.flatten_append.symm, fun report hreport => ?_⟩
  exact (List.mem_append.1 hreport).elim (ha report) (hb report)

theorem reports_flatMap {α : Type} {l : List α} {f : α → List LinuxEvent}
    (h : ∀ a ∈ l, Reports (f a)) : Reports (l.flatMap f) := by
  induction l with
  | nil => exact reports_nil
  | cons a l ih =>
    obtain ⟨ha, hl⟩ := List.forall_mem_cons.1 h
    exact ha.append (ih hl)

theorem isReport_pair {ev : LinuxEvent} (h : ev.type ≠ evSyn) : IsReport [ev, emitSyn] :=
  ⟨[ev], rfl, fun _ hmem => List.mem_singleton.1 hmem ▸ h⟩

/-! ### What is written for one event of the protocol -/

theorem isReport_keyReport (code : UInt16) (press : Bool) : IsReport (keyReport code press) :=
  isReport_pair (by decide : evKey ≠ evSyn)

theorem isReport_move (x y : ℤ) :
    IsReport [emitEvent evAbs absX x, emitEvent evAbs absY y, emitSyn] := by
  refine ⟨[emitEvent evAbs absX x, emitEvent evAbs absY y], rfl, fun ev hev => ?_⟩
  rcases List.mem_pair.1 hev with rfl | rfl
  · exact (by decide : evAbs ≠ evSyn)
  · exact (by decide : evAbs ≠ evSyn)

theorem mem_scroll {value x : Int16} {ev : LinuxEvent}
    (h : ev ∈ (if value ≠ 0 then [emitEvent evRel relWheel value.toInt] else []) ++
      (if x ≠ 0 then [emitEvent evRel relHWheel x.toInt] else [])) :
    ev.type = evRel ∧ ev.code ∈ relAxes := by
  rcases List.mem_append.1 h with hmem | hmem
  · split at hmem
    · rw [List.mem_singleton.1 hmem]
      exact ⟨rfl, (by decide : relWheel ∈ relAxes)⟩
    · cases hmem
  · split at hmem
    · rw [List.mem_singleton.1 hmem]
      exact ⟨rfl, (by decide : relHWheel ∈ relAxes)⟩
    · cases hmem

theorem isReport_scroll (value x : Int16) :
    IsReport ((if value ≠ 0 then [emitEvent evRel relWheel value.toInt] else []) ++
      (if x ≠ 0 then [emitEvent evRel relHWheel x.toInt] else []) ++ [emitSyn]) :=
  ⟨_, rfl, fun _ hev => by rw [(mem_scroll hev).1]; decide⟩

theorem accepts_syn : uinputDevice.Accepts emitSyn := (uinputDevice_accepts_iff _).2 (.inl rfl)

theorem accepts_scroll {value x : Int16} {ev : LinuxEvent}
    (h : ev ∈ (if value ≠ 0 then [emitEvent evRel relWheel value.toInt] else []) ++
      (if x ≠ 0 then [emitEvent evRel relHWheel x.toInt] else []) ++ [emitSyn]) :
    uinputDevice.Accepts ev := by
  rcases List.mem_append.1 h with hmem | hmem
  · exact (uinputDevice_accepts_iff ev).2 (.inr (.inr (.inl (mem_scroll hmem))))
  · exact List.mem_singleton.1 hmem ▸ accepts_syn

theorem accepts_move {x y : ℤ} {ev : LinuxEvent}
    (h : ev ∈ [emitEvent evAbs absX x, emitEvent evAbs absY y, emitSyn]) :
    uinputDevice.Accepts ev := by
  rw [uinputDevice_accepts_iff]
  simp only [List.mem_cons, List.not_mem_nil, or_false] at h
  rcases h with rfl | rfl | rfl
  · exact .inr (.inr (.inr ⟨rfl, List.mem_cons_self⟩))
  · exact .inr (.inr (.inr ⟨rfl, List.mem_cons_of_mem _ List.mem_cons_self⟩))
  · exact .inl rfl

theorem accepts_key {code : UInt16} {value : ℤ} {ev : LinuxEvent}
    (hcode : code.toNat < keyMax) (h : ev ∈ [emitEvent evKey code value, emitSyn]) :
    uinputDevice.Accepts ev := by
  rcases List.mem_pair.1 h with rfl | rfl
  · exact (uinputDevice_accepts_iff _).2 (.inr (.inl ⟨rfl, hcode⟩))
  · exact accepts_syn

theorem buttonOfValue_lt (value : Int16) : (buttonOfValue value).toNat < keyMax := by
  unfold buttonOfValue
  split
  · decide
  · split
    · decide
    · split <;> decide

/-- **A press or release outside the loop over the keys**, which the kernel drops. -/
def OutOfRange (ev : LinuxEvent) : Prop :=
  ev.type = evKey ∧ keyMax ≤ ev.code.toNat ∧ ∃ press, ev.value = pressValue press

/-- **One event of the protocol**, whatever its fields are, writes one report or nothing, and
only a key can be refused. -/
theorem handleInputEvent_spec (evt : DbInputEventT) :
    Reports (handleInputEvent evt) ∧
      ∀ ev ∈ handleInputEvent evt, uinputDevice.Accepts ev ∨ OutOfRange ev := by
  have hkey : ∀ code press, Reports (keyReport code press) ∧
      ∀ ev ∈ keyReport code press, uinputDevice.Accepts ev ∨ OutOfRange ev := by
    intro code press
    refine ⟨(isReport_keyReport code press).reports, fun ev hev => ?_⟩
    rcases lt_or_ge code.toNat keyMax with hcode | hcode
    · exact .inl (accepts_key hcode hev)
    · rcases List.mem_pair.1 hev with rfl | rfl
      · exact .inr ⟨rfl, hcode, press, rfl⟩
      · exact .inl accepts_syn
  unfold handleInputEvent
  split
  · exact ⟨(isReport_move _ _).reports, fun ev hev => .inl (accepts_move hev)⟩
  · split
    · exact ⟨(isReport_pair (by decide : evKey ≠ evSyn)).reports, fun ev hev =>
        .inl (accepts_key (buttonOfValue_lt _) hev)⟩
    · split
      · exact ⟨(isReport_scroll _ _).reports, fun ev hev => .inl (accepts_scroll hev)⟩
      · split
        · exact hkey _ true
        · split
          · exact hkey _ false
          · exact ⟨reports_nil, fun ev hev => by cases hev⟩

/-- **Whatever comes off the network**: any datagrams, of any bytes, write whole reports, and
the only events that the device does not declare are presses and releases of keys with a code
from `KEY_MAX` on. -/
theorem datagrams_written (datagrams : List (List UInt8)) :
    Reports (datagrams.flatMap dbInputStart) ∧
      ∀ ev ∈ datagrams.flatMap dbInputStart, uinputDevice.Accepts ev ∨ OutOfRange ev := by
  have hone : ∀ datagram, Reports (dbInputStart datagram) ∧
      ∀ ev ∈ dbInputStart datagram, uinputDevice.Accepts ev ∨ OutOfRange ev := by
    intro datagram
    rw [dbInputStart]
    dsimp only
    split
    · exact ⟨reports_nil, fun ev hev => by cases hev⟩
    · split
      · exact ⟨reports_nil, fun ev hev => by cases hev⟩
      · exact handleInputEvent_spec _
  refine ⟨reports_flatMap fun datagram _ => (hone datagram).1, fun ev hev => ?_⟩
  obtain ⟨datagram, -, hev⟩ := List.mem_flatMap.1 hev
  exact (hone datagram).2 ev hev

/-! ### What comes from the Mac -/

theorem inBounds_of_ne {ev : LinuxEvent} (h : ev.type ≠ evAbs) : uinputDevice.InBounds ev :=
  fun habs => absurd habs h

theorem inBounds_abs {dev : UinputDevice} {code : UInt16} {bounds : ℤ × ℤ}
    (hbounds : dev.absinfo code = bounds) {value : ℤ}
    (hvalue : bounds.1 ≤ value ∧ value ≤ bounds.2) :
    dev.InBounds (emitEvent evAbs code value) := by
  subst hbounds
  exact fun _ => hvalue

theorem macToLinuxKey_lt (keyCode : UInt16) : (macToLinuxKey keyCode).toNat < keyMax := by
  have htable : keyMap.all (fun entry => entry.2.toNat < keyMax) = true := by decide
  rcases mem_keyMap_or keyCode with hmem | hzero
  · exact of_decide_eq_true (List.all_eq_true.1 htable _ hmem)
  · rw [hzero]
    decide

theorem modifiers_lt {code : UInt16} (h : code ∈ modifiers.map Prod.snd) :
    code.toNat < keyMax := by
  have htable : (modifiers.map Prod.snd).all (fun code => code.toNat < keyMax) = true := by decide
  exact of_decide_eq_true (List.all_eq_true.1 htable code h)

/-- **What an event of the window causes** fits the device. -/
theorem Caused.fits {view : NSView} {e : NSEvent} {written : List LinuxEvent}
    (h : Caused view e written) : Reports written ∧
      ∀ ev ∈ written, uinputDevice.Accepts ev ∧ uinputDevice.InBounds ev := by
  have hbounds : ∀ {code : UInt16} {value : ℤ} {ev : LinuxEvent},
      ev ∈ [emitEvent evKey code value, emitSyn] → uinputDevice.InBounds ev := by
    intro code value ev hev
    rcases List.mem_pair.1 hev with rfl | rfl
    · exact inBounds_of_ne (by decide : evKey ≠ evAbs)
    · exact inBounds_of_ne (by decide : evSyn ≠ evAbs)
  cases h with
  | move x y hmove hxy =>
    obtain ⟨hx, hy⟩ := mapCoordinates_mem hxy
    obtain ⟨hboundsX, hboundsY⟩ := uinputDevice_absinfo
    refine ⟨(isReport_move _ _).reports, fun ev hev => ⟨accepts_move hev, ?_⟩⟩
    simp only [List.mem_cons, List.not_mem_nil, or_false] at hev
    rcases hev with rfl | rfl | rfl
    · exact inBounds_abs hboundsX hx
    · exact inBounds_abs hboundsY hy
    · exact inBounds_of_ne (by decide : evSyn ≠ evAbs)
  | button y value hbutton =>
    exact ⟨(isReport_pair (by decide : evKey ≠ evSyn)).reports, fun ev hev =>
      ⟨accepts_key (buttonOfValue_lt value) hev, hbounds hev⟩⟩
  | scroll x value htype =>
    refine ⟨(isReport_scroll value x).reports, fun ev hev => ⟨accepts_scroll hev, ?_⟩⟩
    rcases List.mem_append.1 hev with hmem | hmem
    · refine inBounds_of_ne ?_
      rw [(mem_scroll hmem).1]
      decide
    · rw [List.mem_singleton.1 hmem]
      exact inBounds_of_ne (by decide : evSyn ≠ evAbs)
  | key press htype =>
    exact ⟨(isReport_keyReport _ press).reports, fun ev hev =>
      ⟨accepts_key (macToLinuxKey_lt e.keyCode) hev, hbounds hev⟩⟩
  | flags keys htype hkeys =>
    refine ⟨reports_flatMap fun key _ => (isReport_keyReport key.1 key.2).reports, ?_⟩
    intro ev hev
    obtain ⟨key, hmem, hev⟩ := List.mem_flatMap.1 hev
    exact ⟨accepts_key (modifiers_lt (hkeys key hmem)) hev, hbounds hev⟩
  | nothing htype => exact ⟨reports_nil, fun ev hev => by cases hev⟩

/-- **What comes from the Mac fits the device**: whatever the events of the window are, what
is written for them are whole reports of events that the device declares, and the absolute axes
stay between their bounds. -/
theorem forwarded_accepted {fw fw' : InputForwarder} {view : NSView} (hu : fw.Usable)
    {es : List TimedEvent} {written : List LinuxEvent}
    (h : forwardAll view fw es = some (fw', written)) : Reports written ∧
      ∀ ev ∈ written, uinputDevice.Accepts ev ∧ uinputDevice.InBounds ev := by
  refine forwardAll_induction (P := fun _ written => Reports written ∧
    ∀ ev ∈ written, uinputDevice.Accepts ev ∧ uinputDevice.InBounds ev)
    ⟨reports_nil, fun ev hev => by cases hev⟩ ?_ hu h
  rintro e es first rest hcaused ⟨hreports, hfit⟩
  obtain ⟨hfirst, hfirstFit⟩ := hcaused.fits
  exact ⟨hfirst.append hreports, List.forall_mem_append.2 ⟨hfirstFit, hfit⟩⟩

/-- After a chord and a click everything has been accepted. -/
theorem forwarded_accepted_chord :
    ∃ fw' written, forwardAll fullView readyForwarder chord = some (fw', written) ∧
      Reports written ∧ ∀ ev ∈ written, uinputDevice.Accepts ev := by
  have hconverts : ∀ e ∈ chord, e.Converts readyForwarder := by
    intro e he
    simp only [chord, List.mem_cons, List.not_mem_nil, or_false] at he
    rcases he with rfl | rfl | rfl | rfl | rfl <;>
      exact ⟨fun _ => timely_mouseAt .mouseMoved 0, fun h => absurd h (by decide)⟩
  have hhandled : (forwardAll fullView readyForwarder chord).isSome :=
    isSome_forwardAll usable_readyForwarder hconverts
  obtain ⟨⟨fw', written⟩, hrun⟩ := Option.isSome_iff_exists.1 hhandled
  obtain ⟨hreports, hfit⟩ := forwarded_accepted usable_readyForwarder hrun
  exact ⟨fw', written, hrun, hreports, fun ev hev => (hfit ev hev).1⟩

end DisplayBridge
