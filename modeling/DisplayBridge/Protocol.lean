import DisplayBridge.Lib.Swift

/-!
# The wire format

The two descriptions of one wire format: the packed structures of
`shared/protocol.h`, which the Ubuntu side reads and writes by casting a buffer,
and the Swift structures of `Protocol.swift`, which the Mac side serializes and
parses field by field. The C structures are modelled by the bytes they occupy on
a little-endian machine (`DisplayBridge.DbPacketHeaderT.bytes` and its
fellows) and by what a cast reads at an offset of a buffer; the Swift ones by the
code of `init?(data:)` and `serialize()`, in which every subscript and every
range can trap.

| structure | C | Swift | bytes |
|---|---|---|---|
| packet header | `DisplayBridge.DbPacketHeaderT` | `DisplayBridge.DBPacketHeader` | 16 |
| video header | `DisplayBridge.DbVideoHeaderT` | `DisplayBridge.DBVideoHeader` | 16 |
| input event | `DisplayBridge.DbInputEventT` | `DisplayBridge.DBInputEvent` | 8 |

What the rest of the development uses of this file is that neither parser traps,
on any buffer and with any start index (`DisplayBridge.DBPacketHeader.init_eq`,
`DisplayBridge.DBVideoHeader.init_eq`), and what the serializers write
(`DisplayBridge.DBPacketHeader.serialize_eq`,
`DisplayBridge.DBInputEvent.serialize_eq`).
-/

namespace DisplayBridge

open Swift

/-! ### Constants -/

/-- `DB_TARGET_WIDTH`. -/
def dbTargetWidth : ℤ := 2880

/-- `DB_TARGET_HEIGHT`. -/
def dbTargetHeight : ℤ := 1800

/-- `DB_TARGET_FPS`. -/
def dbTargetFps : ℤ := 60

/-- `DB_CODEC_HEVC`. -/
def dbCodecHevc : UInt8 := 1

/-- `DB_PKT_VIDEO_FRAME`. -/
def dbPktVideoFrame : UInt8 := 0x01

/-- `DB_PKT_INPUT_EVENT`. -/
def dbPktInputEvent : UInt8 := 0x02

/-- `DB_PKT_HEARTBEAT`. -/
def dbPktHeartbeat : UInt8 := 0x04

/-- `DB_INPUT_MOUSE_MOVE`. -/
def dbInputMouseMove : UInt8 := 0x20

/-- `DB_INPUT_MOUSE_BUTTON`. -/
def dbInputMouseButton : UInt8 := 0x21

/-- `DB_INPUT_MOUSE_SCROLL`. -/
def dbInputMouseScroll : UInt8 := 0x22

/-- `DB_INPUT_KEY_DOWN`. -/
def dbInputKeyDown : UInt8 := 0x23

/-- `DB_INPUT_KEY_UP`. -/
def dbInputKeyUp : UInt8 := 0x24

/-! ### The packed structures of the Ubuntu side -/

/-- The field of type `T` a cast reads at an offset of a buffer. -/
def readField (T : Type) [FixedWidthInteger T] (buf : List UInt8) (off : ℕ) : T :=
  ofLEBytes T ((buf.drop off).take (FixedWidthInteger.size T))

/-- The byte a cast reads at an offset of a buffer. -/
def readByte (buf : List UInt8) (off : ℕ) : UInt8 := buf.getD off 0

/-- **A field is read back where it was written.** -/
theorem readField_append {T : Type} [FixedWidthInteger T] (v : T) (w rest : List UInt8) :
    readField T (w ++ (leBytes v ++ rest)) w.length = v := by
  have hdrop : (w ++ (leBytes v ++ rest)).drop w.length = leBytes v ++ rest := List.drop_left
  have htake : (leBytes v ++ rest).take (FixedWidthInteger.size T) = leBytes v := by
    rw [← length_leBytes v]
    exact List.take_left
  rw [readField, hdrop, htake, ofLEBytes_leBytes]

theorem readByte_append (w : List UInt8) (b : UInt8) (rest : List UInt8) :
    readByte (w ++ b :: rest) w.length = b := by
  simp [readByte]

/-- `db_packet_header_t`. -/
structure DbPacketHeaderT where
  type : UInt8
  flags : UInt8
  seq : UInt16
  timestamp : UInt32
  payload_size : UInt32
  reserved : UInt32
deriving DecidableEq, Repr

namespace DbPacketHeaderT

/-- `sizeof(db_packet_header_t)`. -/
def size : ℕ := 16

/-- The memory of the structure. -/
def bytes (h : DbPacketHeaderT) : List UInt8 :=
  [h.type, h.flags] ++ leBytes h.seq ++ leBytes h.timestamp ++ leBytes h.payload_size ++
    leBytes h.reserved

/-- The structure a cast reads at an offset of a buffer. -/
def read (buf : List UInt8) (off : ℕ) : DbPacketHeaderT where
  type := readByte buf off
  flags := readByte buf (off + 1)
  seq := readField UInt16 buf (off + 2)
  timestamp := readField UInt32 buf (off + 4)
  payload_size := readField UInt32 buf (off + 8)
  reserved := readField UInt32 buf (off + 12)

theorem length_bytes (h : DbPacketHeaderT) : h.bytes.length = size := by
  simp only [bytes, List.length_append, length_leBytes]
  rfl

/-- **A packet header is read back where it was written.** -/
theorem read_bytes (h : DbPacketHeaderT) (rest : List UInt8) :
    read (h.bytes ++ rest) 0 = h := by
  have hseq := readField_append h.seq [h.type, h.flags] (leBytes h.timestamp ++
    (leBytes h.payload_size ++ (leBytes h.reserved ++ rest)))
  have hts := readField_append h.timestamp ([h.type, h.flags] ++ leBytes h.seq)
    (leBytes h.payload_size ++ (leBytes h.reserved ++ rest))
  have hps := readField_append h.payload_size
    ([h.type, h.flags] ++ leBytes h.seq ++ leBytes h.timestamp) (leBytes h.reserved ++ rest)
  have hres := readField_append h.reserved
    ([h.type, h.flags] ++ leBytes h.seq ++ leBytes h.timestamp ++ leBytes h.payload_size) rest
  simp only [List.length_append, length_leBytes, List.append_assoc] at hseq hts hps hres
  simp only [read, bytes, List.append_assoc]
  exact congr (congr (congr (congrArg (mk h.type h.flags) hseq) hts) hps) hres

end DbPacketHeaderT

/-- `db_video_header_t`. -/
structure DbVideoHeaderT where
  width : UInt16
  height : UInt16
  codec : UInt8
  keyframe : UInt8
  reserved : UInt16
  pts : UInt64
deriving DecidableEq, Repr

namespace DbVideoHeaderT

/-- `sizeof(db_video_header_t)`. -/
def size : ℕ := 16

/-- The memory of the structure. -/
def bytes (h : DbVideoHeaderT) : List UInt8 :=
  leBytes h.width ++ leBytes h.height ++ [h.codec, h.keyframe] ++ leBytes h.reserved ++
    leBytes h.pts

theorem length_bytes (h : DbVideoHeaderT) : h.bytes.length = size := by
  simp only [bytes, List.length_append, length_leBytes]
  rfl

end DbVideoHeaderT

/-- `db_input_event_t`. -/
structure DbInputEventT where
  event_type : UInt8
  reserved : UInt8
  x : Int16
  y : Int16
  value : Int16
deriving DecidableEq, Repr

namespace DbInputEventT

/-- `sizeof(db_input_event_t)`. -/
def size : ℕ := 8

/-- The structure a cast reads at an offset of a buffer. -/
def read (buf : List UInt8) (off : ℕ) : DbInputEventT where
  event_type := readByte buf off
  reserved := readByte buf (off + 1)
  x := readField Int16 buf (off + 2)
  y := readField Int16 buf (off + 4)
  value := readField Int16 buf (off + 6)

/-- **An input event is read back where it was written.** -/
theorem read_append (w : List UInt8) (type reserved : UInt8) (x y value : Int16) :
    read (w ++ ([type, reserved] ++ leBytes x ++ leBytes y ++ leBytes value)) w.length =
      ⟨type, reserved, x, y, value⟩ := by
  have hx := readField_append x (w ++ [type, reserved]) (leBytes y ++ leBytes value)
  have hy := readField_append y (w ++ [type, reserved] ++ leBytes x) (leBytes value)
  have hv := readField_append value (w ++ [type, reserved] ++ leBytes x ++ leBytes y) []
  have hb0 : readByte (w ++ ([type, reserved] ++ leBytes x ++ leBytes y ++ leBytes value))
      w.length = type := readByte_append w type _
  have hb1 : readByte (w ++ ([type, reserved] ++ leBytes x ++ leBytes y ++ leBytes value))
      (w.length + 1) = reserved := by simp [readByte]
  simp only [List.length_append, List.length_cons, List.length_nil, length_leBytes,
    List.append_assoc, List.append_nil] at hx hy hv
  simp only [List.append_assoc] at hb0 hb1
  simp only [read, List.append_assoc, hb0, hb1]
  congr 1

end DbInputEventT

/-! ### Loads and stores of the Mac side -/

/-- `Data.loadLE`. -/
def loadLE (T : Type) [FixedWidthInteger T] (d : Data) (offset : ℕ) : Traps T := do
  let start := d.startIndex + offset
  let bs ← d.copyBytes start (start + FixedWidthInteger.size T)
  return ofLEBytes T bs

/-- The loop of `Data.storeLE`, on the bytes still to be stored. -/
def storeBytes (d : Data) (offset : ℕ) : List UInt8 → Traps Data
  | [] => some d
  | b :: bs => do
    let d ← d.set (d.startIndex + offset) b
    storeBytes d (offset + 1) bs

/-- `Data.storeLE`. -/
def storeLE {T : Type} [FixedWidthInteger T] (d : Data) (v : T) (offset : ℕ) : Traps Data :=
  storeBytes d offset (leBytes v)

/-- **A load inside the buffer** returns the field at that offset. -/
theorem loadLE_eq (T : Type) [FixedWidthInteger T] (d : Data) {i : ℕ}
    (h : i + FixedWidthInteger.size T ≤ d.count) :
    loadLE T d i = some (readField T d.bytes i) := by
  have hcopy := d.copyBytes_startIndex_add h
  simp only [loadLE, hcopy, Option.bind_eq_bind, Option.bind_some]
  rfl

/-! A serializer writes its fields one after the other into a buffer of zeros, so
between two writes the buffer is what has been written followed by zeros. -/

/-- Writing the first of the zeros that follow what has been written. -/
theorem set_written (w : List UInt8) (n : ℕ) (b : UInt8) :
    (Data.ofBytes (w ++ List.replicate (n + 1) 0)).set w.length b =
      some (Data.ofBytes ((w ++ [b]) ++ List.replicate n 0)) := by
  have hcond : 0 ≤ w.length ∧
      w.length < (Data.ofBytes (w ++ List.replicate (n + 1) 0)).endIndex := by
    simp [Data.endIndex, Data.count, Data.ofBytes]
  have hset : (w ++ List.replicate (n + 1) (0 : UInt8)).set w.length b =
      (w ++ [b]) ++ List.replicate n 0 := by
    rw [List.set_append_right _ _ le_rfl, Nat.sub_self, List.replicate_succ, List.set_cons_zero,
      List.append_assoc, List.singleton_append]
  refine (if_pos hcond).trans ?_
  exact congrArg (fun l => some (Data.ofBytes l)) hset

theorem storeBytes_written (bs w : List UInt8) (n : ℕ) :
    storeBytes (Data.ofBytes (w ++ List.replicate (bs.length + n) 0)) w.length bs =
      some (Data.ofBytes ((w ++ bs) ++ List.replicate n 0)) := by
  induction bs generalizing w with
  | nil => simp [storeBytes]
  | cons b bs ih =>
    have hlen : (b :: bs).length + n = (bs.length + n) + 1 := by simp; omega
    have hset := set_written w (bs.length + n) b
    have hrest := ih (w ++ [b])
    rw [List.length_append, List.length_singleton] at hrest
    rw [hlen, storeBytes]
    change ((Data.ofBytes _).set (0 + w.length) b).bind _ = _
    rw [Nat.zero_add, hset, Option.bind_some, hrest, List.append_assoc w [b] bs,
      List.singleton_append]

/-- **A store after what has been written** appends the bytes of the value. -/
theorem storeLE_written {T : Type} [FixedWidthInteger T] (v : T) (w : List UInt8) (n : ℕ) :
    storeLE (Data.ofBytes (w ++ List.replicate (FixedWidthInteger.size T + n) 0)) v w.length =
      some (Data.ofBytes ((w ++ leBytes v) ++ List.replicate n 0)) := by
  have h := storeBytes_written (leBytes v) w n
  rwa [length_leBytes] at h

/-! ### The structures of the Mac side -/

/-- The packet header as Swift has it. -/
structure DBPacketHeader where
  type : UInt8
  flags : UInt8
  seq : UInt16
  timestamp : UInt32
  payloadSize : UInt32
  reserved : UInt32
deriving DecidableEq, Repr

namespace DBPacketHeader

/-- `DBPacketHeader.size`. -/
def size : ℕ := 16

/-- `DBPacketHeader.init?(data:)`: the outer option is the trap, the inner one
the failure of the initializer. -/
def init (data : Data) : Traps (Option DBPacketHeader) :=
  if data.count < size then some none
  else do
    let type ← data.byteAt (data.startIndex + 0)
    let flags ← data.byteAt (data.startIndex + 1)
    let seq ← loadLE UInt16 data 2
    let timestamp ← loadLE UInt32 data 4
    let payloadSize ← loadLE UInt32 data 8
    let reserved ← loadLE UInt32 data 12
    return some ⟨type, flags, seq, timestamp, payloadSize, reserved⟩

/-- `DBPacketHeader.serialize()`. -/
def serialize (h : DBPacketHeader) : Traps Data := do
  let d := Data.zeros size
  let d ← d.set 0 h.type
  let d ← d.set 1 h.flags
  let d ← storeLE d h.seq 2
  let d ← storeLE d h.timestamp 4
  let d ← storeLE d h.payloadSize 8
  storeLE d h.reserved 12

/-- The header the first bytes of a buffer spell. -/
def ofBytes (bs : List UInt8) : DBPacketHeader where
  type := readByte bs 0
  flags := readByte bs 1
  seq := readField UInt16 bs 2
  timestamp := readField UInt32 bs 4
  payloadSize := readField UInt32 bs 8
  reserved := readField UInt32 bs 12

/-- **Parsing a packet header never traps**, and depends on the bytes of the
buffer only, not on where its indices start. -/
theorem init_eq (d : Data) :
    init d = some (if d.count < size then none else some (ofBytes d.bytes)) := by
  rcases Nat.lt_or_ge d.count size with h | h
  · rw [init, if_pos h, if_pos h]
  · have hc : 16 ≤ d.bytes.length := h
    have hc' : 16 ≤ d.count := h
    have hseq := loadLE_eq UInt16 d (i := 2) (le_trans (by decide) hc')
    have hts := loadLE_eq UInt32 d (i := 4) (le_trans (by decide) hc')
    have hps := loadLE_eq UInt32 d (i := 8) (le_trans (by decide) hc')
    have hres := loadLE_eq UInt32 d (i := 12) hc'
    have h0 : d.bytes[0]? = some (readByte d.bytes 0) := by
      rw [readByte, List.getD_eq_getElem?_getD, List.getElem?_eq_getElem (by omega)]
      rfl
    have h1 : d.bytes[1]? = some (readByte d.bytes 1) := by
      rw [readByte, List.getD_eq_getElem?_getD, List.getElem?_eq_getElem (by omega)]
      rfl
    rw [init, if_neg (not_lt.mpr h), if_neg (not_lt.mpr h), Data.byteAt_startIndex_add,
      Data.byteAt_startIndex_add, h0, h1, hseq, hts, hps, hres]
    simp only [Option.bind_eq_bind, Option.bind_some, ofBytes, Option.pure_def]

/-- **What is serialized** is the memory of the packed structure. -/
theorem serialize_eq (h : DBPacketHeader) :
    serialize h = some (Data.ofBytes
      (DbPacketHeaderT.bytes
        ⟨h.type, h.flags, h.seq, h.timestamp, h.payloadSize, h.reserved⟩)) := by
  let w := [h.type, h.flags]
  have h0 : (Data.zeros size).set 0 h.type =
      some (Data.ofBytes ([h.type] ++ List.replicate 15 0)) := set_written [] 15 h.type
  have h1 : (Data.ofBytes ([h.type] ++ List.replicate 15 0)).set 1 h.flags =
      some (Data.ofBytes (w ++ List.replicate 14 0)) := set_written [h.type] 14 h.flags
  have h2 : storeLE (Data.ofBytes (w ++ List.replicate 14 0)) h.seq 2 =
      some (Data.ofBytes (w ++ leBytes h.seq ++ List.replicate 12 0)) :=
    storeLE_written h.seq w 12
  have h3 : storeLE (Data.ofBytes (w ++ leBytes h.seq ++ List.replicate 12 0)) h.timestamp 4 =
      some (Data.ofBytes (w ++ leBytes h.seq ++ leBytes h.timestamp ++ List.replicate 8 0)) :=
    storeLE_written h.timestamp (w ++ leBytes h.seq) 8
  have h4 : storeLE (Data.ofBytes (w ++ leBytes h.seq ++ leBytes h.timestamp ++
        List.replicate 8 0)) h.payloadSize 8 =
      some (Data.ofBytes (w ++ leBytes h.seq ++ leBytes h.timestamp ++ leBytes h.payloadSize ++
        List.replicate 4 0)) :=
    storeLE_written h.payloadSize (w ++ leBytes h.seq ++ leBytes h.timestamp) 4
  have h5 : storeLE (Data.ofBytes (w ++ leBytes h.seq ++ leBytes h.timestamp ++
        leBytes h.payloadSize ++ List.replicate 4 0)) h.reserved 12 =
      some (Data.ofBytes (w ++ leBytes h.seq ++ leBytes h.timestamp ++ leBytes h.payloadSize ++
        leBytes h.reserved ++ List.replicate 0 0)) :=
    storeLE_written h.reserved
      (w ++ leBytes h.seq ++ leBytes h.timestamp ++ leBytes h.payloadSize) 0
  rw [List.replicate_zero, List.append_nil] at h5
  simp only [serialize, Option.bind_eq_bind, h0, h1, h2, h3, h4, h5, Option.bind_some]
  rfl

end DBPacketHeader

/-- The video header as Swift has it. -/
structure DBVideoHeader where
  width : UInt16
  height : UInt16
  codec : UInt8
  keyframe : UInt8
  reserved : UInt16
  pts : UInt64
deriving DecidableEq, Repr

namespace DBVideoHeader

/-- `DBVideoHeader.size`. -/
def size : ℕ := 16

/-- `DBVideoHeader.init?(data:)`: the outer option is the trap, the inner one
the failure of the initializer. -/
def init (data : Data) : Traps (Option DBVideoHeader) :=
  if data.count < size then some none
  else do
    let width ← loadLE UInt16 data 0
    let height ← loadLE UInt16 data 2
    let codec ← data.byteAt (data.startIndex + 4)
    let keyframe ← data.byteAt (data.startIndex + 5)
    let reserved ← loadLE UInt16 data 6
    let pts ← loadLE UInt64 data 8
    return some ⟨width, height, codec, keyframe, reserved, pts⟩

/-- The header the first bytes of a buffer spell. -/
def ofBytes (bs : List UInt8) : DBVideoHeader where
  width := readField UInt16 bs 0
  height := readField UInt16 bs 2
  codec := readByte bs 4
  keyframe := readByte bs 5
  reserved := readField UInt16 bs 6
  pts := readField UInt64 bs 8

/-- **Parsing a video header never traps**, and depends on the bytes of the
buffer only, not on where its indices start. -/
theorem init_eq (d : Data) :
    init d = some (if d.count < size then none else some (ofBytes d.bytes)) := by
  rcases Nat.lt_or_ge d.count size with h | h
  · rw [init, if_pos h, if_pos h]
  · have hc : 16 ≤ d.bytes.length := h
    have hc' : 16 ≤ d.count := h
    have hw := loadLE_eq UInt16 d (i := 0) (le_trans (by decide) hc')
    have hh := loadLE_eq UInt16 d (i := 2) (le_trans (by decide) hc')
    have hres := loadLE_eq UInt16 d (i := 6) (le_trans (by decide) hc')
    have hpts := loadLE_eq UInt64 d (i := 8) hc'
    have h4 : d.bytes[4]? = some (readByte d.bytes 4) := by
      rw [readByte, List.getD_eq_getElem?_getD, List.getElem?_eq_getElem (by omega)]
      rfl
    have h5 : d.bytes[5]? = some (readByte d.bytes 5) := by
      rw [readByte, List.getD_eq_getElem?_getD, List.getElem?_eq_getElem (by omega)]
      rfl
    rw [init, if_neg (not_lt.mpr h), if_neg (not_lt.mpr h), Data.byteAt_startIndex_add,
      Data.byteAt_startIndex_add, h4, h5, hw, hh, hres, hpts]
    simp only [Option.bind_eq_bind, Option.bind_some, ofBytes, Option.pure_def]

end DBVideoHeader

/-- The input event as Swift has it. -/
structure DBInputEvent where
  eventType : UInt8
  reserved : UInt8
  x : Int16
  y : Int16
  value : Int16
deriving DecidableEq, Repr

namespace DBInputEvent

/-- `DBInputEvent.size`. -/
def size : ℕ := 8

/-- `DBInputEvent.init(eventType:x:y:value:)`. -/
def init (eventType : UInt8) (x y value : Int16) : DBInputEvent := ⟨eventType, 0, x, y, value⟩

/-- `DBInputEvent.serialize()`. -/
def serialize (e : DBInputEvent) : Traps Data := do
  let d := Data.zeros size
  let d ← d.set 0 e.eventType
  let d ← d.set 1 e.reserved
  let d ← storeLE d e.x 2
  let d ← storeLE d e.y 4
  storeLE d e.value 6

/-- **What is serialized**: the five fields, one after the other. -/
theorem serialize_eq (e : DBInputEvent) :
    serialize e = some (Data.ofBytes
      ([e.eventType, e.reserved] ++ leBytes e.x ++ leBytes e.y ++ leBytes e.value)) := by
  let w := [e.eventType, e.reserved]
  have h0 : (Data.zeros size).set 0 e.eventType =
      some (Data.ofBytes ([e.eventType] ++ List.replicate 7 0)) := set_written [] 7 e.eventType
  have h1 : (Data.ofBytes ([e.eventType] ++ List.replicate 7 0)).set 1 e.reserved =
      some (Data.ofBytes (w ++ List.replicate 6 0)) := set_written [e.eventType] 6 e.reserved
  have h2 : storeLE (Data.ofBytes (w ++ List.replicate 6 0)) e.x 2 =
      some (Data.ofBytes (w ++ leBytes e.x ++ List.replicate 4 0)) := storeLE_written e.x w 4
  have h3 : storeLE (Data.ofBytes (w ++ leBytes e.x ++ List.replicate 4 0)) e.y 4 =
      some (Data.ofBytes (w ++ leBytes e.x ++ leBytes e.y ++ List.replicate 2 0)) :=
    storeLE_written e.y (w ++ leBytes e.x) 2
  have h4 : storeLE (Data.ofBytes (w ++ leBytes e.x ++ leBytes e.y ++ List.replicate 2 0))
        e.value 6 =
      some (Data.ofBytes (w ++ leBytes e.x ++ leBytes e.y ++ leBytes e.value ++
        List.replicate 0 0)) :=
    storeLE_written e.value (w ++ leBytes e.x ++ leBytes e.y) 0
  rw [List.replicate_zero, List.append_nil] at h4
  simp only [serialize, Option.bind_eq_bind, h0, h1, h2, h3, h4, Option.bind_some]
  rfl

end DBInputEvent

end DisplayBridge
