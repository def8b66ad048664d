import DisplayBridge.Ubuntu.Input

/-!
# One wire format

The packed structures of the Ubuntu side and the Swift structures of the Mac side have
the same fields, at the same offsets and of the same widths. Neither side sees the
other's description: the offsets are written down by hand in `Protocol.swift`, and
nothing on the wire says which version of them a packet was made with.

What crosses the wire comes out as it went in, in both directions
(`DisplayBridge.OneWireFormat`, proved in `DisplayBridge.oneWireFormat`). A header from
Ubuntu is parsed out of any buffer that begins with it, wherever the indices of the
buffer start – the receiver parses the second header out of what `dropFirst` leaves of a
message. An input packet from the Mac is read by Ubuntu through two casts, the second of
them `sizeof(db_packet_header_t)` bytes into the buffer.
-/

namespace DisplayBridge

open Swift

/-! ### The structures of one side on the other -/

/-- A packet header as the Mac has it. -/
def DbPacketHeaderT.toSwift (h : DbPacketHeaderT) : DBPacketHeader :=
  ⟨h.type, h.flags, h.seq, h.timestamp, h.payload_size, h.reserved⟩

/-- A packet header as Ubuntu has it. -/
def DBPacketHeader.toC (h : DBPacketHeader) : DbPacketHeaderT :=
  ⟨h.type, h.flags, h.seq, h.timestamp, h.payloadSize, h.reserved⟩

/-- A video header as the Mac has it. -/
def DbVideoHeaderT.toSwift (h : DbVideoHeaderT) : DBVideoHeader :=
  ⟨h.width, h.height, h.codec, h.keyframe, h.reserved, h.pts⟩

/-- An input event as Ubuntu has it. -/
def DBInputEvent.toC (e : DBInputEvent) : DbInputEventT :=
  ⟨e.eventType, e.reserved, e.x, e.y, e.value⟩

/-- The packet of an input event, as `send` puts it together. -/
def inputPacket (h : DBPacketHeader) (e : DBInputEvent) : Traps Data := do
  let packet ← h.serialize
  let inputData ← e.serialize
  return packet.append inputData

/-- **The two sides describe one wire format.** -/
structure OneWireFormat : Prop where
  /-- A packet header of Ubuntu is parsed on the Mac, out of any buffer that begins with it. -/
  packetHeader : ∀ (h : DbPacketHeaderT) (rest : List UInt8) (data : Data),
    data.bytes = h.bytes ++ rest → DBPacketHeader.init data = some (some h.toSwift)
  /-- A video header is too. -/
  videoHeader : ∀ (h : DbVideoHeaderT) (rest : List UInt8) (data : Data),
    data.bytes = h.bytes ++ rest → DBVideoHeader.init data = some (some h.toSwift)
  /-- An input packet of the Mac is read on Ubuntu through the two casts, in the buffer of
  `recv`, and its event is the one that is handled. -/
  inputPacket : ∀ (h : DBPacketHeader) (e : DBInputEvent), ∃ packet,
    DisplayBridge.inputPacket h e = some packet ∧
      DbPacketHeaderT.read (packet.bytes.take inputBufSize) 0 = h.toC ∧
      DbInputEventT.read (packet.bytes.take inputBufSize) DbPacketHeaderT.size = e.toC ∧
      dbInputStart packet.bytes =
        if h.type = dbPktInputEvent then handleInputEvent e.toC else []
  /-- A packet header of the Mac is parsed there as it was serialized. -/
  identity : ∀ h : DBPacketHeader, h.serialize.bind DBPacketHeader.init = some (some h)

/-! ### Reading structures -/

/-- **A video header is read back on the other side.** -/
theorem DBVideoHeader.ofBytes_bytes (h : DbVideoHeaderT) (rest : List UInt8) :
    ofBytes (h.bytes ++ rest) = h.toSwift := by
  have hwidth := readField_append h.width [] (leBytes h.height ++ ([h.codec, h.keyframe] ++
    (leBytes h.reserved ++ (leBytes h.pts ++ rest))))
  have hheight := readField_append h.height (leBytes h.width) ([h.codec, h.keyframe] ++
    (leBytes h.reserved ++ (leBytes h.pts ++ rest)))
  have hcodec := readByte_append (leBytes h.width ++ leBytes h.height) h.codec
    (h.keyframe :: (leBytes h.reserved ++ (leBytes h.pts ++ rest)))
  have hkey := readByte_append (leBytes h.width ++ leBytes h.height ++ [h.codec]) h.keyframe
    (leBytes h.reserved ++ (leBytes h.pts ++ rest))
  have hres := readField_append h.reserved
    (leBytes h.width ++ leBytes h.height ++ [h.codec, h.keyframe]) (leBytes h.pts ++ rest)
  have hpts := readField_append h.pts
    (leBytes h.width ++ leBytes h.height ++ [h.codec, h.keyframe] ++ leBytes h.reserved) rest
  simp only [List.length_append, length_leBytes, List.append_assoc] at hheight hcodec hkey hres hpts
  simp only [ofBytes, DbVideoHeaderT.bytes, List.append_assoc]
  exact congr (congr (congr (congr (congr (congrArg mk hwidth) hheight) hcodec) hkey) hres) hpts

/-! ### Both directions -/

theorem inputPacket_eq (h : DBPacketHeader) (e : DBInputEvent) :
    inputPacket h e = some (Data.ofBytes (h.toC.bytes ++
      ([e.eventType, e.reserved] ++ leBytes e.x ++ leBytes e.y ++ leBytes e.value))) := by
  rw [inputPacket, h.serialize_eq, e.serialize_eq]
  rfl

theorem DBPacketHeader.init_bytes (h : DbPacketHeaderT) (rest : List UInt8) {data : Data}
    (hdata : data.bytes = h.bytes ++ rest) : init data = some (some h.toSwift) := by
  have hcount : ¬ data.count < size := by
    rw [Data.count, hdata, List.length_append, h.length_bytes]
    exact Nat.not_lt.2 (Nat.le_add_right _ _)
  have hread : ofBytes (h.bytes ++ rest) = (DbPacketHeaderT.read (h.bytes ++ rest) 0).toSwift := rfl
  rw [init_eq, if_neg hcount, hdata, hread, h.read_bytes]

theorem DBVideoHeader.init_bytes (h : DbVideoHeaderT) (rest : List UInt8) {data : Data}
    (hdata : data.bytes = h.bytes ++ rest) : init data = some (some h.toSwift) := by
  have hcount : ¬ data.count < size := by
    rw [Data.count, hdata, List.length_append, h.length_bytes]
    exact Nat.not_lt.2 (Nat.le_add_right _ _)
  rw [init_eq, if_neg hcount, hdata, ofBytes_bytes]

/-- **There is one wire format.** -/
theorem oneWireFormat : OneWireFormat where
  packetHeader h rest _ hdata := DBPacketHeader.init_bytes h rest hdata
  videoHeader h rest _ hdata := DBVideoHeader.init_bytes h rest hdata
  inputPacket h e := by
    obtain ⟨htake, hevent, hstart⟩ :=
      dbInputStart_bytes h.toC e.eventType e.reserved e.x e.y e.value
    refine ⟨_, inputPacket_eq h e, ?_, ?_, hstart⟩
    · rw [Data.ofBytes, htake]
      exact h.toC.read_bytes _
    · rw [Data.ofBytes, htake]
      exact hevent
  identity h := by
    have hinit : DBPacketHeader.init (Data.ofBytes h.toC.bytes) = some (some h.toC.toSwift) :=
      DBPacketHeader.init_bytes h.toC [] (List.append_nil _).symm
    rw [h.serialize_eq, Option.bind_some]
    exact hinit

end DisplayBridge
