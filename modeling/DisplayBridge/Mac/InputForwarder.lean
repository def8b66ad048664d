import DisplayBridge.Protocol

/-!
# The input forwarder of the Mac

`InputForwarder.swift`: an event of the receiver window becomes at most one
datagram per key or button it reports. The event loop of AppKit is outside; what
it hands over is modelled by `DisplayBridge.NSEvent`, with the pointer already
converted to the coordinates of the view. The coordinates, the size of the view and
the delta of the wheel are values of type `Double`, and what is computed from them is
rounded as such values are. The clock is outside too: the `k`-th call to `send` of
one event reads the `k`-th value of the stream the event comes with. Time is exact,
as it is in the source with what the clock reads between 2018 and 2035
(`DisplayBridge.InputForwarder.timestamp_eq_of_readings`).

`DisplayBridge.InputForwarder.send` is the only place where bytes are made, and
`DisplayBridge.InputForwarder.send_eq` is all that the rest of the development
knows of it: on a usable socket, and at a time whose conversion does not trap, it
emits exactly one datagram, whose bytes are those of a packet header and of the
event. Read backwards, this is `DisplayBridge.InputForwarder.send_cases`.
-/

namespace DisplayBridge

open Swift

/-! ### Events -/

/-- The event types the monitor is installed for. -/
inductive NSEventType
  | mouseMoved
  | leftMouseDragged
  | rightMouseDragged
  | leftMouseDown
  | leftMouseUp
  | rightMouseDown
  | rightMouseUp
  | scrollWheel
  | keyDown
  | keyUp
  | flagsChanged
  | other
deriving DecidableEq, Repr

/-- An event of the window, with the pointer in the coordinates of the view. Its numbers are
values of type `Double`. -/
structure NSEvent where
  type : NSEventType
  /-- The abscissa of the pointer in the view. -/
  locX : ℚ
  /-- The ordinate of the pointer in the view, upwards. -/
  locY : ℚ
  scrollingDeltaY : ℚ
  keyCode : UInt16
  /-- The raw value of the modifier flags. -/
  modifierFlags : UInt64

/-- The bounds of the view, two values of type `Double`. -/
structure NSView where
  width : ℚ
  height : ℚ

/-! ### Sockets and datagrams -/

/-- The address families the forwarder uses. -/
inductive AddressFamily
  | inet
  | inet6
deriving DecidableEq, Repr

/-- A filled `sockaddr_in` or `sockaddr_in6`. -/
structure SockAddr where
  family : AddressFamily
  port : UInt16
  /-- The address, in network order. -/
  addr : List UInt8
deriving DecidableEq, Repr

/-- A call to `sendto`. -/
structure Datagram where
  /-- The family the socket was created with. -/
  socket : AddressFamily
  /-- The destination, if the storage was filled. -/
  dest : Option SockAddr
  /-- The length passed for the destination. -/
  destLen : ℕ
  payload : List UInt8
deriving DecidableEq, Repr

/-! ### The forwarder -/

/-- The state of `InputForwarder`. -/
structure InputForwarder where
  /-- `udpSocket`, as the family of the open socket; `none` is `-1`. -/
  udpSocket : Option AddressFamily
  /-- `destStorage`; `none` is the zeroed storage. -/
  destStorage : Option SockAddr
  destAddrLen : ℕ
  seq : UInt16
  startTime : ℚ
  targetHost : String
  lastModifierFlags : UInt64

namespace InputForwarder

/-- The guard of `send`: the socket is open and has a destination. -/
def Usable (fw : InputForwarder) : Prop := fw.udpSocket.isSome ∧ 0 < fw.destAddrLen

/-- The microseconds since the forwarder was created, exactly. -/
def elapsed (fw : InputForwarder) (now : ℚ) : ℚ := (now - fw.startTime) * 1000000

/-- The conversion of a clock reading to the timestamp of a packet. -/
def timestamp (fw : InputForwarder) (now : ℚ) : Traps UInt32 :=
  uint32OfDouble (fw.elapsed now)

theorem isSome_timestamp_iff {fw : InputForwarder} {now : ℚ} :
    (fw.timestamp now).isSome ↔ -1 < fw.elapsed now ∧ fw.elapsed now < 2 ^ 32 :=
  isSome_uint32OfDouble_iff

/-- Eighteen hours or more, forwards or back, are not converted, rounded or not. -/
theorem uint32OfDouble_far {d : ℚ} (hfar : 2 ^ 16 ≤ |d|) :
    uint32OfDouble (d * 1000000) = none ∧
      uint32OfDouble (mulDouble (double d) 1000000) = none := by
  rcases le_abs'.1 hfar with hback | hlater
  · have hrounded : double d * 1000000 ≤ (-1 : ℤ) := by
      have hdiff : double d ≤ (-2 ^ 16 : ℤ) :=
        double_le (by norm_num) (by exact_mod_cast hback)
      push_cast at hdiff ⊢
      linarith
    exact ⟨uint32OfDouble_eq_none (.inl (by linarith)), uint32OfDouble_eq_none
      (.inl (by exact_mod_cast double_le (by norm_num) hrounded))⟩
  · have hrounded : ((2 ^ 32 : ℤ) : ℚ) ≤ double d * 1000000 := by
      have hdiff : ((2 ^ 16 : ℤ) : ℚ) ≤ double d :=
        le_double (by norm_num) (by exact_mod_cast hlater)
      push_cast at hdiff ⊢
      linarith
    exact ⟨uint32OfDouble_eq_none (.inr (by linarith)), uint32OfDouble_eq_none
      (.inr (by exact_mod_cast le_double (by norm_num) hrounded))⟩

/-- **Times are exact.** The clock reads a `Double` of seconds since 2001, and between `2 ^ 29`
and `2 ^ 30` such a value is a multiple of `2 ^ -23`. From two such readings the rounded
difference and the rounded product give the same time stamp as the exact ones. -/
theorem timestamp_eq_of_readings {fw : InputForwarder} {a b : ℤ} {now : ℚ}
    (hstart : fw.startTime = a * 2 ^ (-23 : ℤ)) (hnow : now = b * 2 ^ (-23 : ℤ)) :
    fw.timestamp now = uint32OfDouble (mulDouble (subDouble now fw.startTime) 1000000) := by
  have hsub : now - fw.startTime = (b - a : ℤ) * 2 ^ (-23 : ℤ) := by
    rw [hnow, hstart, Int.cast_sub, sub_mul]
  have hscale : ((b - a : ℤ) : ℚ) * 2 ^ (-23 : ℤ) * 1000000 =
      ((b - a) * 15625 : ℤ) * 2 ^ (-17 : ℤ) := by
    push_cast
    norm_num
    ring
  rw [timestamp, elapsed, subDouble, hsub]
  by_cases hnear : |b - a| < 2 ^ 39
  · have hproduct : |(b - a) * 15625| < 2 ^ 53 := by
      rw [abs_mul]
      norm_num at hnear ⊢
      omega
    rw [double_mul_zpow (hnear.trans (by norm_num)) (by norm_num), mulDouble, hscale,
      double_mul_zpow hproduct (by norm_num)]
  · have hfar : (2 ^ 16 : ℚ) ≤ |((b - a : ℤ) : ℚ) * 2 ^ (-23 : ℤ)| := by
      have hcast : (2 ^ 39 : ℚ) ≤ |((b - a : ℤ) : ℚ)| := by exact_mod_cast not_lt.1 hnear
      have hpow : (2 ^ 16 : ℚ) = 2 ^ 39 * 2 ^ (-23 : ℤ) := by norm_num
      have hpos : (0 : ℚ) < 2 ^ (-23 : ℤ) := zpow_pos two_pos _
      rw [abs_mul, abs_of_pos hpos, hpow]
      exact mul_le_mul_of_nonneg_right hcast hpos.le
    obtain ⟨hexact, hrounded⟩ := uint32OfDouble_far hfar
    rw [hexact, hrounded]

/-- `send(eventType:x:y:value:)`, at the time `now`. -/
def send (fw : InputForwarder) (now : ℚ) (eventType : UInt8) (x y value : Int16) :
    Traps (InputForwarder × List Datagram) :=
  match fw.udpSocket with
  | none => some (fw, [])
  | some family =>
    if fw.destAddrLen = 0 then some (fw, [])
    else do
      let now ← fw.timestamp now
      let inputData ← (DBInputEvent.init eventType x y value).serialize
      let payloadSize ← uint32OfInt inputData.count
      let pkt : DBPacketHeader := ⟨dbPktInputEvent, 0, fw.seq, now, payloadSize, 0⟩
      let packet ← pkt.serialize
      -- `seq &+= 1`: the sequence number wraps
      return ({ fw with seq := fw.seq + 1 },
        [⟨family, fw.destStorage, fw.destAddrLen, (packet.append inputData).bytes⟩])

/-- The bytes of the packet that carries one input event. -/
def packetBytes (seq : UInt16) (ts : UInt32) (eventType : UInt8) (x y value : Int16) :
    List UInt8 :=
  DbPacketHeaderT.bytes ⟨dbPktInputEvent, 0, seq, ts, 8, 0⟩ ++
    ([eventType, 0] ++ leBytes x ++ leBytes y ++ leBytes value)

/-- **What `send` does** on a usable socket, at a time that converts: one
datagram, and the next sequence number. -/
theorem send_eq {fw : InputForwarder} (hu : fw.Usable) {now : ℚ} {ts : UInt32}
    (hts : fw.timestamp now = some ts) (eventType : UInt8) (x y value : Int16) :
    ∃ family, fw.udpSocket = some family ∧ fw.send now eventType x y value =
      some ({ fw with seq := fw.seq + 1 },
        [⟨family, fw.destStorage, fw.destAddrLen, packetBytes fw.seq ts eventType x y value⟩]) := by
  obtain ⟨hsock, hlen⟩ := hu
  obtain ⟨family, hfam⟩ := Option.isSome_iff_exists.mp hsock
  refine ⟨family, hfam, ?_⟩
  have hne : fw.destAddrLen ≠ 0 := by omega
  have hcount : (uint32OfInt (Data.ofBytes
      ([eventType, 0] ++ leBytes x ++ leBytes y ++ leBytes value)).count) = some 8 :=
    uint32OfInt_natCast (n := 8) (by decide)
  simp only [send, hfam, if_neg hne, hts, Option.bind_eq_bind, Option.bind_some,
    DBInputEvent.serialize_eq, DBPacketHeader.serialize_eq, DBInputEvent.init, hcount]
  rfl

/-- Without a usable socket `send` does nothing. -/
theorem send_of_not_usable {fw : InputForwarder} (hu : ¬ fw.Usable) (now : ℚ) (eventType : UInt8)
    (x y value : Int16) : fw.send now eventType x y value = some (fw, []) := by
  rw [send]
  cases hsock : fw.udpSocket with
  | none => rfl
  | some family =>
    have hlen : fw.destAddrLen = 0 := by
      by_contra hne
      exact hu ⟨hsock ▸ rfl, Nat.pos_of_ne_zero hne⟩
    exact if_pos hlen

/-- On a usable socket, nothing is sent at a time that does not convert. -/
theorem isSome_timestamp_of_send {fw : InputForwarder} (hu : fw.Usable) {now : ℚ}
    {eventType : UInt8} {x y value : Int16} {result : InputForwarder × List Datagram}
    (h : fw.send now eventType x y value = some result) : (fw.timestamp now).isSome := by
  obtain ⟨hsock, hlen⟩ := hu
  obtain ⟨family, hfamily⟩ := Option.isSome_iff_exists.1 hsock
  rw [send, hfamily] at h
  dsimp only at h
  rw [if_neg (by omega)] at h
  obtain ⟨ts, hts, -⟩ := Option.bind_eq_some_iff.1 h
  rw [hts]
  rfl

/-- **What a call has done** that does not trap: without a usable socket nothing, and
otherwise it has sent one datagram. -/
theorem send_cases {fw fw' : InputForwarder} {now : ℚ} {eventType : UInt8} {x y value : Int16}
    {sent : List Datagram} (h : fw.send now eventType x y value = some (fw', sent)) :
    (¬ fw.Usable ∧ fw' = fw ∧ sent = []) ∨
      ∃ ts family, fw.Usable ∧ fw.udpSocket = some family ∧ fw' = { fw with seq := fw.seq + 1 } ∧
        sent = [⟨family, fw.destStorage, fw.destAddrLen,
          packetBytes fw.seq ts eventType x y value⟩] := by
  by_cases hu : fw.Usable
  · obtain ⟨ts, hts⟩ := Option.isSome_iff_exists.1 (isSome_timestamp_of_send hu h)
    obtain ⟨family, hfamily, hsend⟩ := send_eq hu hts eventType x y value
    obtain ⟨rfl, rfl⟩ := Prod.mk.inj (Option.some.inj (h.symm.trans hsend))
    exact .inr ⟨ts, family, hu, hfamily, rfl, rfl⟩
  · rw [send_of_not_usable hu] at h
    obtain ⟨rfl, rfl⟩ := Prod.mk.inj (Option.some.inj h)
    exact .inl ⟨hu, rfl, rfl⟩

/-- At a time that converts, a usable socket sends. -/
theorem exists_send {fw : InputForwarder} (hu : fw.Usable) {now : ℚ}
    (ht : (fw.timestamp now).isSome) (eventType : UInt8) (x y value : Int16) :
    ∃ d, fw.send now eventType x y value = some ({ fw with seq := fw.seq + 1 }, [d]) := by
  obtain ⟨ts, hts⟩ := Option.isSome_iff_exists.1 ht
  obtain ⟨family, -, hsend⟩ := send_eq hu hts eventType x y value
  exact ⟨_, hsend⟩

/-! ### The key map -/

/-- `InputForwarder.keyMap`: the key codes of the Mac and those of Linux. -/
def keyMap : List (UInt16 × UInt16) :=
  -- letters, numbers, symbols, control keys, modifiers, arrows, function keys, the rest
  [(0x00, 30), (0x01, 31), (0x02, 32), (0x03, 33), (0x04, 35), (0x05, 34), (0x06, 44),
   (0x07, 45), (0x08, 46), (0x09, 47), (0x0B, 48), (0x0C, 16), (0x0D, 17), (0x0E, 18),
   (0x0F, 19), (0x10, 21), (0x11, 20), (0x1F, 24), (0x20, 22), (0x22, 23), (0x23, 25),
   (0x25, 38), (0x26, 36), (0x28, 37), (0x2D, 49), (0x2E, 50),
   (0x12, 2), (0x13, 3), (0x14, 4), (0x15, 5), (0x17, 6), (0x16, 7), (0x1A, 8), (0x1C, 9),
   (0x19, 10), (0x1D, 11),
   (0x18, 13), (0x1B, 12), (0x1E, 27), (0x21, 26), (0x27, 40), (0x29, 39), (0x2A, 43),
   (0x2B, 51), (0x2C, 53), (0x2F, 52), (0x32, 41),
   (0x24, 28), (0x30, 15), (0x31, 57), (0x33, 14), (0x35, 1), (0x39, 58),
   (0x37, 125), (0x38, 42), (0x3A, 56), (0x3B, 29), (0x3C, 54), (0x3D, 100), (0x3E, 97),
   (0x7B, 105), (0x7C, 106), (0x7D, 108), (0x7E, 103),
   (0x7A, 59), (0x78, 60), (0x63, 61), (0x76, 62), (0x60, 63), (0x61, 64), (0x62, 65),
   (0x64, 66), (0x65, 67), (0x6D, 68), (0x67, 87), (0x6F, 88),
   (0x75, 111), (0x73, 102), (0x77, 107), (0x74, 104), (0x79, 109)]

/-- `macToLinuxKey`. -/
def macToLinuxKey (macCode : UInt16) : UInt16 := (keyMap.lookup macCode).getD 0

/-! ### Modifier flags -/

/-- `.shift`. -/
def flagShift : UInt64 := (1 : UInt64) <<< 17

/-- `.control`. -/
def flagControl : UInt64 := (1 : UInt64) <<< 18

/-- `.option`. -/
def flagOption : UInt64 := (1 : UInt64) <<< 19

/-- `.command`. -/
def flagCommand : UInt64 := (1 : UInt64) <<< 20

/-- `OptionSet.contains`. -/
def containsFlag (flags flag : UInt64) : Bool := flags &&& flag == flag

/-- The table of `handleModifierFlags`: a flag and the key it reports. -/
def modifiers : List (UInt64 × UInt16) :=
  [(flagShift, 42), (flagControl, 29), (flagOption, 56), (flagCommand, 125)]

/-- The loop of `handleModifierFlags`, on the rows still to be looked at. -/
def sendModifiers (current changed : UInt64) :
    InputForwarder → (ℕ → ℚ) → List (UInt64 × UInt16) → Traps (InputForwarder × List Datagram)
  | fw, _, [] => some (fw, [])
  | fw, now, (flag, linuxCode) :: rows =>
    -- a key is reported if its flag is not as it was
    if containsFlag changed flag then do
      let isDown := containsFlag current flag
      let eventType := if isDown then dbInputKeyDown else dbInputKeyUp
      let code ← int16OfUInt16 linuxCode
      let (fw, sent) ← fw.send (now 0) eventType code 0 0
      let (fw, rest) ← sendModifiers current changed fw (fun k => now (k + 1)) rows
      return (fw, sent ++ rest)
    else sendModifiers current changed fw now rows

/-- `handleModifierFlags`. -/
def handleModifierFlags (fw : InputForwarder) (now : ℕ → ℚ) (event : NSEvent) :
    Traps (InputForwarder × List Datagram) :=
  let current := event.modifierFlags
  let changed := current ^^^ fw.lastModifierFlags
  sendModifiers current changed { fw with lastModifierFlags := current } now modifiers

/-! ### Coordinates -/

/-- `mapCoordinates`: the pointer in the coordinates of the target display. -/
def mapCoordinates (event : NSEvent) (view : NSView) : Traps (Int16 × Int16) :=
  if 0 < view.width ∧ 0 < view.height then do
    let normX := max 0 (min 1 (divDouble event.locX view.width))
    -- in the view the ordinate grows upwards, on the display downwards
    let normY := max 0 (min 1 (subDouble 1 (divDouble event.locY view.height)))
    let targetX ← int16OfDouble (mulDouble normX (dbTargetWidth - 1 : ℤ))
    let targetY ← int16OfDouble (mulDouble normY (dbTargetHeight - 1 : ℤ))
    return (targetX, targetY)
  else some (0, 0)

/-- In a view 1799 high the rounding puts the place 1798 into the top row: without it, the
result is `(0, 1)`. -/
example : mapCoordinates ⟨.mouseMoved, 0, 1798, 0, 0, 0⟩ ⟨2880, 1799⟩ = some (0, 0) := by
  decide +kernel

/-- A part of a whole that is a value of type `Double`. -/
theorem mulDouble_clamped (q : ℚ) {n : ℤ} (hn : 0 ≤ n) (hn' : n < 2 ^ 15) :
    0 ≤ mulDouble (max 0 (min 1 q)) n ∧ mulDouble (max 0 (min 1 q)) n ≤ n := by
  have hnq : (0 : ℚ) ≤ n := by exact_mod_cast hn
  have hpos : ((0 : ℤ) : ℚ) ≤ max 0 (min 1 q) * n := by
    rw [Int.cast_zero]
    exact mul_nonneg (le_max_left _ _) hnq
  have hle : max 0 (min 1 q) * n ≤ n :=
    mul_le_of_le_one_left hnq (max_le zero_le_one (min_le_left _ _))
  have hmem := double_mem (by decide) (by rw [abs_of_nonneg hn]; omega) ⟨hpos, hle⟩
  rwa [Int.cast_zero] at hmem

/-- A number between 0 and a bound that fits becomes an `Int16`. -/
theorem int16OfDouble_of_mem {q : ℚ} {n : ℤ} (h : 0 ≤ q ∧ q ≤ n) (hn : n < 2 ^ 15) :
    ∃ v, int16OfDouble q = some v := by
  obtain ⟨hpos, hle⟩ := h
  have hlo : 0 ≤ ⌊q⌋ := Int.floor_nonneg.mpr hpos
  have hhi : ⌊q⌋ ≤ n := Int.floor_le_iff.mpr (hle.trans_lt (lt_add_one _))
  refine ⟨Int16.ofInt ⌊q⌋, ?_⟩
  rw [int16OfDouble, truncate_of_nonneg hpos, exactly_of_mem ⟨by omega, by omega⟩, Option.map_some]

/-- **The coordinates always convert**: they are clamped to the display. -/
theorem exists_mapCoordinates (event : NSEvent) (view : NSView) :
    ∃ p, mapCoordinates event view = some p := by
  by_cases hv : 0 < view.width ∧ 0 < view.height
  · obtain ⟨x, hx⟩ := int16OfDouble_of_mem
      (mulDouble_clamped (divDouble event.locX view.width) (n := dbTargetWidth - 1)
        (by decide) (by decide)) (by decide)
    obtain ⟨y, hy⟩ := int16OfDouble_of_mem
      (mulDouble_clamped (subDouble 1 (divDouble event.locY view.height))
        (n := dbTargetHeight - 1) (by decide) (by decide)) (by decide)
    refine ⟨(x, y), ?_⟩
    rw [mapCoordinates, if_pos hv]
    simp only [hx, hy, Option.bind_eq_bind, Option.bind_some, Option.pure_def]
  · exact ⟨(0, 0), if_neg hv⟩

/-! ### The dispatch -/

/-- `handleEvent`, with the weak reference to the view and the clock. -/
def handleEvent (fw : InputForwarder) (view : Option NSView) (now : ℕ → ℚ) (event : NSEvent) :
    Traps (InputForwarder × List Datagram) :=
  match view with
  | none => some (fw, [])
  | some view =>
    match event.type with
    | .mouseMoved | .leftMouseDragged | .rightMouseDragged => do
      let (x, y) ← mapCoordinates event view
      fw.send (now 0) dbInputMouseMove x y 0
    | .leftMouseDown => do
      let (x, y) ← mapCoordinates event view
      -- the value is the button, and its sign the direction
      fw.send (now 0) dbInputMouseButton x y 1
    | .leftMouseUp => do
      let (x, y) ← mapCoordinates event view
      fw.send (now 0) dbInputMouseButton x y (-1)
    | .rightMouseDown => do
      let (x, y) ← mapCoordinates event view
      fw.send (now 0) dbInputMouseButton x y 2
    | .rightMouseUp => do
      let (x, y) ← mapCoordinates event view
      fw.send (now 0) dbInputMouseButton x y (-2)
    | .scrollWheel => do
      let (x, y) ← mapCoordinates event view
      let ticks ← intOfDouble (mulDouble event.scrollingDeltaY 10)
      fw.send (now 0) dbInputMouseScroll x y (int16Clamping ticks)
    | .keyDown => do
      let code ← int16OfUInt16 (macToLinuxKey event.keyCode)
      fw.send (now 0) dbInputKeyDown code 0 0
    | .keyUp => do
      let code ← int16OfUInt16 (macToLinuxKey event.keyCode)
      fw.send (now 0) dbInputKeyUp code 0 0
    | .flagsChanged => handleModifierFlags fw now event
    | .other => some (fw, [])

end InputForwarder

/-! ### A forwarder that is ready -/

/-- A forwarder with an open socket and a destination. -/
def readyForwarder : InputForwarder :=
  ⟨some .inet, some ⟨.inet, 5001, [10, 135, 95, 11]⟩, 16, 0, 0, "10.135.95.11", 0⟩

theorem usable_readyForwarder : readyForwarder.Usable := ⟨rfl, by decide⟩

end DisplayBridge
