import Mathlib.Data.Finset.Basic
import DisplayBridge.Protocol

/-!
# Input injection on Ubuntu

`input.c`: a datagram that is long enough and carries the right packet type is
read through the packed structures and turned into events of the Linux input
layer, which are written to the `uinput` device. The device itself is outside;
what a written event does to the set of keys held on it is
`DisplayBridge.pressKey`, the rule of the input core.
-/

namespace DisplayBridge

open Swift

/-! ### The events of the Linux input layer -/

/-- `EV_SYN`: what was written so far belongs together. -/
def evSyn : UInt16 := 0x00

/-- `EV_KEY`: a key or a button changes. -/
def evKey : UInt16 := 0x01

/-- `EV_REL`: something moves by an amount. -/
def evRel : UInt16 := 0x02

/-- `EV_ABS`: something moves to a place. -/
def evAbs : UInt16 := 0x03

/-- `SYN_REPORT`. -/
def synReport : UInt16 := 0

/-- `ABS_X`, the column of the pointer. -/
def absX : UInt16 := 0x00

/-- `ABS_Y`, its row. -/
def absY : UInt16 := 0x01

/-- `REL_HWHEEL`, to the side. -/
def relHWheel : UInt16 := 0x06

/-- `REL_WHEEL`, up and down. -/
def relWheel : UInt16 := 0x08

/-- `BTN_LEFT`. -/
def btnLeft : UInt16 := 0x110

/-- `BTN_RIGHT`. -/
def btnRight : UInt16 := 0x111

/-- `BTN_MIDDLE`. -/
def btnMiddle : UInt16 := 0x112

/-- `struct input_event`, without its time stamp. -/
structure LinuxEvent where
  type : UInt16
  code : UInt16
  value : ℤ
deriving DecidableEq, Repr

/-- `emit_event`: the event that is written. -/
def emitEvent (type code : UInt16) (value : ℤ) : LinuxEvent := ⟨type, code, value⟩

/-- `emit_syn`, which ends every group of events. -/
def emitSyn : LinuxEvent := emitEvent evSyn synReport 0

/-- The button `handle_input_event` names by the value field. -/
def buttonOfValue (value : Int16) : UInt16 :=
  if value = 1 then btnLeft
  else if value = 2 then btnRight
  else if value = 3 then btnMiddle
  else btnLeft

/-- `handle_input_event`: the events written for one input event. -/
def handleInputEvent (evt : DbInputEventT) : List LinuxEvent :=
  if evt.event_type = dbInputMouseMove then
    [emitEvent evAbs absX evt.x.toInt, emitEvent evAbs absY evt.y.toInt, emitSyn]
  else if evt.event_type = dbInputMouseButton then
    -- value is the button; y is 1 for a press and 0 for a release
    [emitEvent evKey (buttonOfValue evt.value) evt.y.toInt, emitSyn]
  else if evt.event_type = dbInputMouseScroll then
    -- value is the vertical delta and x the horizontal one
    (if evt.value ≠ 0 then [emitEvent evRel relWheel evt.value.toInt] else []) ++
      (if evt.x ≠ 0 then [emitEvent evRel relHWheel evt.x.toInt] else []) ++ [emitSyn]
  else if evt.event_type = dbInputKeyDown then
    -- x is the key code
    [emitEvent evKey evt.x.toUInt16 1, emitSyn]
  else if evt.event_type = dbInputKeyUp then
    [emitEvent evKey evt.x.toUInt16 0, emitSyn]
  else []

/-- `INPUT_BUF_SIZE`. -/
def inputBufSize : ℕ := 512

/-- One turn of the loop of `db_input_start`, on a received datagram: `recv`
keeps what fits the buffer. -/
def dbInputStart (datagram : List UInt8) : List LinuxEvent :=
  let buf := datagram.take inputBufSize
  if buf.length < DbPacketHeaderT.size + DbInputEventT.size then []
  else
    let pkt := DbPacketHeaderT.read buf 0
    if pkt.type ≠ dbPktInputEvent then []
    else handleInputEvent (DbInputEventT.read buf DbPacketHeaderT.size)

/-- **A datagram with the two packed structures** is handled as the event it carries, if
its type says that it carries one. -/
theorem dbInputStart_bytes (h : DbPacketHeaderT) (type reserved : UInt8) (x y value : Int16) :
    let packet := h.bytes ++ ([type, reserved] ++ leBytes x ++ leBytes y ++ leBytes value)
    packet.take inputBufSize = packet ∧
      DbInputEventT.read packet DbPacketHeaderT.size = ⟨type, reserved, x, y, value⟩ ∧
      dbInputStart packet =
        if h.type = dbPktInputEvent then handleInputEvent ⟨type, reserved, x, y, value⟩
        else [] := by
  intro packet
  have hlength : packet.length = DbPacketHeaderT.size + DbInputEventT.size := by
    simp only [packet, List.length_append, h.length_bytes, length_leBytes]
    rfl
  have htake : packet.take inputBufSize = packet :=
    List.take_of_length_le (hlength.trans_le (by decide))
  have hpkt : (DbPacketHeaderT.read packet 0).type = h.type :=
    congrArg DbPacketHeaderT.type (h.read_bytes _)
  have hread := DbInputEventT.read_append h.bytes type reserved x y value
  rw [h.length_bytes] at hread
  refine ⟨htake, hread, ?_⟩
  rw [dbInputStart, htake]
  dsimp only
  rw [if_neg (Nat.not_lt.2 hlength.ge), hpkt, hread, ite_not]

/-- The packet the Mac sends for an event. -/
theorem dbInputStart_packet (seq : UInt16) (ts size : UInt32) (type reserved : UInt8)
    (x y value : Int16) :
    dbInputStart (DbPacketHeaderT.bytes ⟨dbPktInputEvent, 0, seq, ts, size, 0⟩ ++
        ([type, reserved] ++ leBytes x ++ leBytes y ++ leBytes value)) =
      handleInputEvent ⟨type, reserved, x, y, value⟩ := by
  obtain ⟨-, -, hstart⟩ :=
    dbInputStart_bytes ⟨dbPktInputEvent, 0, seq, ts, size, 0⟩ type reserved x y value
  rw [hstart, if_pos rfl]

/-! ### The keys held on the device -/

/-- What writing an event does to the set of held keys: a key event with value
2 is an autorepeat and changes nothing, one with value 0 releases the key and any
other one presses it. -/
def pressKey (held : Finset UInt16) (ev : LinuxEvent) : Finset UInt16 :=
  if ev.type = evKey then
    if ev.value = 2 then held
    else if ev.value = 0 then held.erase ev.code
    else insert ev.code held
  else held

/-- The keys held on the device after it has been written a list of events. -/
def heldKeys (events : List LinuxEvent) : Finset UInt16 := events.foldl pressKey ∅

/-- The key events of a list of events. -/
def keyEvents (events : List LinuxEvent) : List LinuxEvent :=
  events.filter fun ev => ev.type = evKey

@[simp] theorem keyEvents_append (a b : List LinuxEvent) :
    keyEvents (a ++ b) = keyEvents a ++ keyEvents b := List.filter_append _ _

/-- Only key events matter to the held keys. -/
theorem foldl_pressKey_keyEvents (events : List LinuxEvent) (held : Finset UInt16) :
    (keyEvents events).foldl pressKey held = events.foldl pressKey held := by
  induction events generalizing held with
  | nil => rfl
  | cons ev events ih =>
    by_cases h : ev.type = evKey
    · have hf : keyEvents (ev :: events) = ev :: keyEvents events := by
        rw [keyEvents, List.filter_cons_of_pos (by simpa using h), keyEvents]
      rw [hf, List.foldl_cons, List.foldl_cons, ih]
    · have hf : keyEvents (ev :: events) = keyEvents events := by
        rw [keyEvents, List.filter_cons_of_neg (by simpa using h), keyEvents]
      rw [hf, List.foldl_cons, pressKey, if_neg h, ih]

/-- **The held keys depend on the key events alone.** -/
theorem heldKeys_eq_of_keyEvents {a b : List LinuxEvent} (h : keyEvents a = b) :
    heldKeys a = b.foldl pressKey ∅ := by
  rw [heldKeys, ← foldl_pressKey_keyEvents, h]

end DisplayBridge
