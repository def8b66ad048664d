import Mathlib.Data.List.TakeWhile
import DisplayBridge.Mac.InputForwarder

/-!
# The target of the input forwarder

`InputForwarder` keeps its target twice: as the host it was told, and as the address it
sends to. The second follows the first in the observer of `targetHost`, which closes the
socket, fills in the address and opens a socket of the right family again – if there is a
socket to begin with.

A host is a string that may carry a zone (`fe80::1%en0`). The zone is cut off, and a colon
decides whether the rest is an IPv6 or an IPv4 address; `inet_pton` does the rest, and is
a parameter here. `SRTReceiver.connect` reads its host in the same way, with another port,
so the reading is one function (`DisplayBridge.sockAddr`).

As long as there is a socket, the address is that of the host
(`DisplayBridge.InputForwarder.Fresh`), and so every datagram goes to the host the
forwarder was told last (`DisplayBridge.InputForwarder.Fresh.dest_of_send`).
-/

namespace DisplayBridge

open Swift

/-- `inet_pton`: the bytes of a well-formed address, in network order. -/
abbrev InetPton := AddressFamily → String → Option (List UInt8)

/-- `DB_DEFAULT_INPUT_PORT`. -/
def dbDefaultInputPort : UInt16 := 5001

/-- `SRTReceiver.DEFAULT_UBUNTU_IP`. -/
def defaultUbuntuIp : String := "10.135.95.11"

/-! ### Reading a host -/

/-- A host without its zone: what is in front of the first percent sign. A percent sign is a
scalar here, whatever follows it; for Swift it is a character, and one with a combining mark
behind it is another character and is not cut at. -/
def stripZone (host : String) : String := String.ofList (host.toList.takeWhile (· ≠ '%'))

/-- The address of a host, if it is well-formed. -/
def sockAddr (pton : InetPton) (host : String) (port : UInt16) : Option SockAddr :=
  let cleanIP := stripZone host
  if ':' ∈ cleanIP.toList then (pton .inet6 cleanIP).map fun addr => ⟨.inet6, port, addr⟩
  else (pton .inet cleanIP).map fun addr => ⟨.inet, port, addr⟩

/-- A zone is cut off once. -/
theorem stripZone_stripZone (host : String) : stripZone (stripZone host) = stripZone host := by
  rw [stripZone, stripZone, String.toList_ofList, List.takeWhile_idem]

theorem sockAddr_stripZone (pton : InetPton) (host : String) (port : UInt16) :
    sockAddr pton (stripZone host) port = sockAddr pton host port := by
  rw [sockAddr, sockAddr, stripZone_stripZone]

/-- `sizeof(sockaddr_in)` and `sizeof(sockaddr_in6)`. -/
def AddressFamily.sockaddrSize : AddressFamily → ℕ
  | .inet => 16
  | .inet6 => 28

/-- What an address says of a machine, apart from the port. -/
def SockAddr.machine (a : SockAddr) : AddressFamily × List UInt8 := (a.family, a.addr)

namespace InputForwarder

variable (pton : InetPton)

/-! ### Setting the target -/

/-- `fillDestAddr`. -/
def fillDestAddr (fw : InputForwarder) (ip : String) (port : UInt16) : InputForwarder :=
  match sockAddr pton ip port with
  | none => { fw with destStorage := none, destAddrLen := 0 }
  | some addr => { fw with destStorage := some addr, destAddrLen := addr.family.sockaddrSize }

/-- The end of `setupUDP` and of `updateDestAddr`: the call to `socket`, which may fail. -/
def openSocket (fw : InputForwarder) (socketOk : Bool) : InputForwarder :=
  let family :=
    if fw.destAddrLen = AddressFamily.inet6.sockaddrSize then AddressFamily.inet6 else .inet
  { fw with udpSocket := if socketOk then some family else none }

/-- `setupUDP`. -/
def setupUDP (fw : InputForwarder) (socketOk : Bool) : InputForwarder :=
  (fw.fillDestAddr pton fw.targetHost dbDefaultInputPort).openSocket socketOk

/-- `updateDestAddr`: the socket is closed first. -/
def updateDestAddr (fw : InputForwarder) (socketOk : Bool) : InputForwarder :=
  let closed := { fw with udpSocket := none }
  (closed.fillDestAddr pton closed.targetHost dbDefaultInputPort).openSocket socketOk

/-- The assignment of `targetHost`, with its observer. -/
def setTargetHost (fw : InputForwarder) (host : String) (socketOk : Bool) : InputForwarder :=
  let fw := { fw with targetHost := host }
  if fw.udpSocket.isSome then fw.updateDestAddr pton socketOk else fw

/-- `InputForwarder.init(view:)`. -/
def create (startTime : ℚ) (socketOk : Bool) : InputForwarder :=
  setupUDP pton ⟨none, none, 0, 0, startTime, defaultUbuntuIp, 0⟩ socketOk

/-! ### Where datagrams go -/

/-- The forwarder is up to date: if it has a socket, it sends to the host it was told. -/
def Fresh (fw : InputForwarder) : Prop :=
  fw.udpSocket.isSome → fw.destStorage = sockAddr pton fw.targetHost dbDefaultInputPort ∧
    (fw.destStorage = none → fw.destAddrLen = 0)

variable {pton} {fw : InputForwarder}

/-- Opening the socket behind `fillDestAddr` leaves it up to date. -/
theorem fresh_openSocket (fw : InputForwarder) (socketOk : Bool) :
    Fresh pton ((fw.fillDestAddr pton fw.targetHost dbDefaultInputPort).openSocket socketOk) := by
  intro _
  rw [fillDestAddr]
  cases h : sockAddr pton fw.targetHost dbDefaultInputPort with
  | none => exact ⟨h.symm, fun _ => rfl⟩
  | some addr => exact ⟨h.symm, fun hnone => absurd hnone (Option.some_ne_none addr)⟩

theorem targetHost_openSocket (fw : InputForwarder) (socketOk : Bool) :
    ((fw.fillDestAddr pton fw.targetHost dbDefaultInputPort).openSocket socketOk).targetHost =
      fw.targetHost := by
  rw [fillDestAddr]
  split <;> rfl

theorem targetHost_create (startTime : ℚ) (socketOk : Bool) :
    (create pton startTime socketOk).targetHost = defaultUbuntuIp :=
  targetHost_openSocket _ _

theorem fresh_create (startTime : ℚ) (socketOk : Bool) :
    Fresh pton (create pton startTime socketOk) :=
  fresh_openSocket _ _

/-- **Setting the target** keeps the forwarder up to date. -/
theorem fresh_setTargetHost (fw : InputForwarder) (host : String) (socketOk : Bool) :
    Fresh pton (fw.setTargetHost pton host socketOk) := by
  rw [setTargetHost]
  split
  · exact fresh_openSocket _ _
  · next hno => exact fun hsome => absurd hsome hno

theorem targetHost_setTargetHost (fw : InputForwarder) (host : String) (socketOk : Bool) :
    (fw.setTargetHost pton host socketOk).targetHost = host := by
  rw [setTargetHost]
  split
  · exact targetHost_openSocket _ _
  · rfl

/-- **Every datagram goes to the target**, if the forwarder is up to date. -/
theorem Fresh.dest_of_send (h : Fresh pton fw) {now : ℚ} {eventType : UInt8} {x y value : Int16}
    {fw' : InputForwarder} {sent : List Datagram}
    (hsend : fw.send now eventType x y value = some (fw', sent)) :
    ∀ d ∈ sent, ∃ dest, d.dest = some dest ∧
      sockAddr pton fw.targetHost dbDefaultInputPort = some dest := by
  rcases send_cases hsend with ⟨-, -, rfl⟩ | ⟨ts, family, hu, -, -, rfl⟩
  · exact fun d hd => absurd hd List.not_mem_nil
  · obtain ⟨hdest, hlen⟩ := h hu.1
    have hsome : fw.destStorage ≠ none := fun hnone => (hlen hnone ▸ hu.2).false
    obtain ⟨dest, hstorage⟩ := Option.ne_none_iff_exists'.1 hsome
    intro d hd
    rw [List.mem_singleton.1 hd]
    exact ⟨dest, hstorage, hdest.symm.trans hstorage⟩

end InputForwarder

end DisplayBridge
