import DisplayBridge.Lib.Runs
import DisplayBridge.Mac.TargetHost

/-!
# Setting the target over and over

The host of the input forwarder is set each time discovery has an outcome, and every
assignment closes the socket and calls `socket` again, which may fail. Over any history of
assignments and of packets, what is sent goes to the host that was assigned last, on a
socket of the family of its address.

But a failure is never made good. The observer of `targetHost` looks for the old socket
before it opens the new one, and once there is none, no later assignment opens one. So an
assignment of a well-formed host, at a time when `socket` would succeed, lets the forwarder
send exactly if no call of `socket` has failed before, and the time since the start still has
room in a packet (`DisplayBridge.InputForwarder.send_after_assignments`).
-/

namespace DisplayBridge

open Swift Runs

namespace InputForwarder

/-- What happens to a forwarder. -/
inductive RetargetEvent
  /-- `targetHost` is set, at a time when `socket` succeeds or fails. -/
  | assign (host : String) (socketOk : Bool)
  | send (now : ℚ) (eventType : UInt8) (x y value : Int16)
deriving DecidableEq

section

variable (pton : InetPton)

/-- One step. -/
def retargetStep (fw : InputForwarder) : RetargetEvent → Option InputForwarder
  | .assign host socketOk => some (fw.setTargetHost pton host socketOk)
  | .send now eventType x y value => (fw.send now eventType x y value).map Prod.fst

/-- The host that was assigned last. -/
def latestHost (events : List RetargetEvent) : String :=
  (events.filterMap fun
    | .assign host _ => some host
    | .send .. => none).getLastD defaultUbuntuIp

/-- A call of `socket` would have succeeded whenever the host was set. -/
def AllOpen (socketOk : Bool) (events : List RetargetEvent) : Prop :=
  socketOk = true ∧ ∀ host ok, .assign host ok ∈ events → ok = true

/-- The socket and the length fit the address. -/
structure Matched (fw : InputForwarder) : Prop where
  fresh : fw.Fresh pton
  family : ∀ family ∈ fw.udpSocket, ∀ dest ∈ fw.destStorage,
    family = dest.family ∧ fw.destAddrLen = dest.family.sockaddrSize

end

variable {pton : InetPton} {fw fw' : InputForwarder} {startTime : ℚ} {socketOk : Bool}
  {events : List RetargetEvent}

/-! ### One step -/

/-- The length of an address tells its family. -/
theorem ite_sockaddrSize (family : AddressFamily) :
    (if family.sockaddrSize = AddressFamily.inet6.sockaddrSize then AddressFamily.inet6
      else .inet) = family := by
  cases family <;> rfl

/-- Opening the socket behind `fillDestAddr` chooses the family of the address. -/
theorem matched_openSocket (fw : InputForwarder) (socketOk : Bool) :
    Matched pton ((fw.fillDestAddr pton fw.targetHost dbDefaultInputPort).openSocket socketOk) := by
  refine ⟨fresh_openSocket fw socketOk, fun family hfamily dest hdest => ?_⟩
  cases haddr : sockAddr pton fw.targetHost dbDefaultInputPort with
  | none =>
    rw [fillDestAddr, haddr] at hdest
    cases hdest
  | some addr =>
    rw [fillDestAddr, haddr] at hfamily hdest ⊢
    obtain rfl : addr = dest := Option.some.inj hdest
    refine ⟨?_, rfl⟩
    cases socketOk with
    | false => cases hfamily
    | true => exact (Option.some.inj hfamily).symm.trans (ite_sockaddrSize addr.family)

theorem isSome_udpSocket_openSocket (fw : InputForwarder) (socketOk : Bool) :
    (fw.openSocket socketOk).udpSocket.isSome ↔ socketOk = true := by
  cases socketOk with
  | false => exact iff_of_false Bool.false_ne_true Bool.false_ne_true
  | true => exact iff_of_true rfl rfl

theorem matched_setTargetHost (fw : InputForwarder) (host : String) (socketOk : Bool) :
    (fw.setTargetHost pton host socketOk).Matched pton := by
  rw [setTargetHost]
  split
  · exact matched_openSocket _ _
  · next hclosed =>
    refine ⟨fun hsome => absurd hsome hclosed, fun family hfamily => ?_⟩
    exact absurd (Option.isSome_of_mem hfamily) hclosed

/-- **The socket survives an assignment exactly if** there was one, and `socket`
succeeds. -/
theorem isSome_udpSocket_setTargetHost (fw : InputForwarder) (host : String) (socketOk : Bool) :
    (fw.setTargetHost pton host socketOk).udpSocket.isSome ↔
      fw.udpSocket.isSome ∧ socketOk = true := by
  rw [setTargetHost]
  split
  · next hopen => exact (isSome_udpSocket_openSocket _ _).trans (and_iff_right hopen).symm
  · next hclosed => exact iff_of_false hclosed fun h => hclosed h.1

/-- Sending a packet leaves everything but the sequence number alone. -/
theorem eq_of_send {now : ℚ} {eventType : UInt8} {x y value : Int16} {sent : List Datagram}
    (h : fw.send now eventType x y value = some (fw', sent)) :
    ∃ seq, fw' = { fw with seq := seq } := by
  rcases send_cases h with ⟨-, rfl, -⟩ | ⟨-, -, -, -, rfl, -⟩
  · exact ⟨fw'.seq, rfl⟩
  · exact ⟨fw.seq + 1, rfl⟩

/-! ### Runs -/

/-- What holds of a forwarder after some events. -/
structure After (pton : InetPton) (startTime : ℚ) (socketOk : Bool) (events : List RetargetEvent)
    (fw : InputForwarder) : Prop where
  matched : fw.Matched pton
  host : fw.targetHost = latestHost events
  start : fw.startTime = startTime
  isOpen : fw.udpSocket.isSome ↔ AllOpen socketOk events

theorem startTime_setTargetHost (fw : InputForwarder) (host : String) (socketOk : Bool) :
    (fw.setTargetHost pton host socketOk).startTime = fw.startTime := by
  rw [setTargetHost]
  split
  · rw [updateDestAddr, fillDestAddr]
    dsimp only
    split <;> rfl
  · rfl

theorem startTime_create (startTime : ℚ) (socketOk : Bool) :
    (create pton startTime socketOk).startTime = startTime := by
  rw [create, setupUDP, fillDestAddr]
  dsimp only
  split <;> rfl

theorem after_create (startTime : ℚ) (socketOk : Bool) :
    After pton startTime socketOk [] (create pton startTime socketOk) := by
  refine ⟨matched_openSocket _ _, targetHost_create startTime socketOk,
    startTime_create startTime socketOk, ?_⟩
  refine (isSome_udpSocket_openSocket _ _).trans ⟨fun hok => ⟨hok, ?_⟩, fun hopen => hopen.1⟩
  exact fun host ok hmem => absurd hmem List.not_mem_nil

/-- **The step lemma.** -/
theorem After.step (h : After pton startTime socketOk events fw) {event : RetargetEvent}
    (hstep : retargetStep pton fw event = some fw') :
    After pton startTime socketOk (events ++ [event]) fw' := by
  cases event with
  | assign host ok =>
    obtain rfl := Option.some.inj hstep
    refine ⟨matched_setTargetHost fw host ok, ?_,
      (startTime_setTargetHost fw host ok).trans h.start, ?_⟩
    · rw [targetHost_setTargetHost, latestHost, List.filterMap_append]
      exact List.getLastD_concat.symm
    · rw [isSome_udpSocket_setTargetHost, h.isOpen]
      constructor
      · rintro ⟨⟨hfirst, hall⟩, rfl⟩
        refine ⟨hfirst, fun host' ok' hmem => ?_⟩
        rcases List.mem_append.1 hmem with hmem | hmem
        · exact hall host' ok' hmem
        · cases List.mem_singleton.1 hmem
          rfl
      · rintro ⟨hfirst, hall⟩
        refine ⟨⟨hfirst, fun host' ok' hmem => ?_⟩, ?_⟩
        · exact hall host' ok' (List.mem_append_left _ hmem)
        · exact hall host ok (List.mem_append_right _ List.mem_cons_self)
  | send now eventType x y value =>
    obtain ⟨⟨fw₁, sent⟩, hsend, rfl⟩ := Option.map_eq_some_iff.1 hstep
    obtain ⟨seq, rfl⟩ := eq_of_send hsend
    refine ⟨⟨h.matched.fresh, h.matched.family⟩, ?_, h.start, ?_⟩
    · rw [latestHost, List.filterMap_append]
      exact h.host.trans (congrArg (List.getLastD · _) (List.append_nil _).symm)
    · refine h.isOpen.trans ⟨fun hopen => ⟨hopen.1, fun host ok hmem => ?_⟩,
        fun hopen => ⟨hopen.1, fun host ok hmem => hopen.2 host ok (List.mem_append_left _ hmem)⟩⟩
      rcases List.mem_append.1 hmem with hmem | hmem
      · exact hopen.2 host ok hmem
      · cases List.mem_singleton.1 hmem

/-- It holds after every run. -/
theorem after_of_run {ok : InputForwarder → RetargetEvent → Prop}
    (hrun : Run (retargetStep pton) ok (create pton startTime socketOk) events fw) :
    After pton startTime socketOk events fw := by
  induction hrun with
  | start => exact after_create startTime socketOk
  | snoc _ _ hstep ih => exact ih.step hstep

/-! ### What is sent -/

/-- What a host is read as, field by field. -/
theorem of_sockAddr {host : String} {port : UInt16} {addr : SockAddr}
    (h : sockAddr pton host port = some addr) :
    addr.port = port ∧ pton addr.family (stripZone host) = some addr.addr := by
  rw [sockAddr] at h
  split at h
  · obtain ⟨bytes, hbytes, rfl⟩ := Option.map_eq_some_iff.1 h
    exact ⟨rfl, hbytes⟩
  · obtain ⟨bytes, hbytes, rfl⟩ := Option.map_eq_some_iff.1 h
    exact ⟨rfl, hbytes⟩

/-- A packet that is sent goes to the address of the host, on a socket of its family. -/
theorem Matched.of_send (h : fw.Matched pton) {now : ℚ} {eventType : UInt8} {x y value : Int16}
    {sent : List Datagram} (hsend : fw.send now eventType x y value = some (fw', sent)) :
    ∀ d ∈ sent, ∃ dest, d.dest = some dest ∧ d.socket = dest.family ∧
      d.destLen = dest.family.sockaddrSize ∧
      sockAddr pton fw.targetHost dbDefaultInputPort = some dest := by
  intro d hd
  obtain ⟨dest, hdest, haddr⟩ := h.fresh.dest_of_send hsend d hd
  rcases send_cases hsend with ⟨-, -, rfl⟩ | ⟨ts, family, -, hfamily, -, rfl⟩
  · cases hd
  · obtain rfl := List.mem_singleton.1 hd
    obtain ⟨hsocket, hlength⟩ := h.family family hfamily dest hdest
    exact ⟨dest, hdest, hsocket, hlength, haddr⟩

/-- A well-formed host, with a socket, can be sent to. -/
theorem Matched.usable_iff (h : fw.Matched pton) {addr : SockAddr}
    (haddr : sockAddr pton fw.targetHost dbDefaultInputPort = some addr) :
    fw.Usable ↔ fw.udpSocket.isSome := by
  refine ⟨fun hu => hu.1, fun hopen => ⟨hopen, ?_⟩⟩
  obtain ⟨family, hfamily⟩ := Option.isSome_iff_exists.1 hopen
  have hdest : fw.destStorage = some addr := (h.fresh hopen).1.trans haddr
  rw [(h.family family hfamily addr hdest).2]
  cases addr.family <;> decide

/-- Something is sent exactly if the forwarder is usable and the time converts. -/
theorem exists_send_iff {now : ℚ} (eventType : UInt8) (x y value : Int16) :
    (∃ fw' d, fw.send now eventType x y value = some (fw', [d])) ↔
      fw.Usable ∧ (fw.timestamp now).isSome := by
  constructor
  · rintro ⟨fw', d, hsend⟩
    by_cases hu : fw.Usable
    · exact ⟨hu, isSome_timestamp_of_send hu hsend⟩
    · rw [send_of_not_usable hu] at hsend
      cases hsend
  · exact fun ⟨hu, ht⟩ => ⟨_, exists_send hu ht eventType x y value⟩

/-- **Where packets go, and when they do.** After any assignments, with packets in between,
a packet that is sent goes to the address of the host that was assigned last, without its
zone, on a socket of the family of that address. Behind one more assignment, of a
well-formed host and when `socket` would succeed, a packet is sent exactly if `socket` would
have succeeded every time before, and the microseconds since the start convert. -/
theorem send_after_assignments
    (hrun : Run (retargetStep pton) (fun _ _ => True) (create pton startTime socketOk)
      events fw) :
    (∀ now eventType x y value fw' sent,
      fw.send now eventType x y value = some (fw', sent) → ∀ d ∈ sent, ∃ dest,
        d.dest = some dest ∧ d.socket = dest.family ∧ d.destLen = dest.family.sockaddrSize ∧
        dest.port = dbDefaultInputPort ∧
        pton dest.family (stripZone (latestHost events)) = some dest.addr) ∧
    ∀ host addr now, sockAddr pton host dbDefaultInputPort = some addr →
      ∀ eventType x y value,
        ((∃ fw' d, (fw.setTargetHost pton host true).send now eventType x y value =
          some (fw', [d])) ↔
          AllOpen socketOk events ∧
            -1 < (now - startTime) * 1000000 ∧ (now - startTime) * 1000000 < 2 ^ 32) := by
  have hafter := after_of_run hrun
  constructor
  · intro now eventType x y value fw' sent hsend d hd
    obtain ⟨dest, hdest, hsocket, hlength, haddr⟩ := hafter.matched.of_send hsend d hd
    rw [hafter.host] at haddr
    exact ⟨dest, hdest, hsocket, hlength, of_sockAddr haddr⟩
  · intro host addr now haddr eventType x y value
    have hmatched := @matched_setTargetHost pton fw host true
    have hhost := @targetHost_setTargetHost pton fw host true
    rw [exists_send_iff, hmatched.usable_iff (hhost ▸ haddr), isSome_udpSocket_setTargetHost,
      hafter.isOpen, isSome_timestamp_iff, elapsed, startTime_setTargetHost, hafter.start]
    exact and_congr_left fun _ => and_iff_left rfl

/-! ### A host of the other family, and a socket that is not there -/

/-- `inet_pton` on the addresses of the runs below. -/
def twoFamilies : InetPton
  | .inet, "10.135.95.11" => some [10, 135, 95, 11]
  | .inet6, "2401::7" => some [0x24, 0x01, 0, 0, 0, 0, 0, 0, 0, 0, 0, 0, 0, 0, 0, 7]
  | _, _ => none

/-- A name that is no address, and then an address of the other family, with its zone. -/
theorem send_after_name :
    ∃ fw fw' d, Run (retargetStep twoFamilies) (fun _ _ => True) (create twoFamilies 0 true)
        [.send 1 dbInputKeyDown 30 0 0, .assign "ubuntu.local" true] fw ∧
      (fw.setTargetHost twoFamilies "2401::7%en0" true).send 2 dbInputKeyUp 30 0 0 =
        some (fw', [d]) := by
  have hrun : Run (retargetStep twoFamilies) (fun _ _ => True) (create twoFamilies 0 true)
    [.send 1 dbInputKeyDown 30 0 0, .assign "ubuntu.local" true] _ := run_get (by decide +kernel)
  have hopen : AllOpen true
      [.send 1 dbInputKeyDown 30 0 0, .assign "ubuntu.local" true] := by
    refine ⟨rfl, fun host ok hmem => ?_⟩
    rcases List.mem_pair.1 hmem with h | h
    · cases h
    · cases h
      rfl
  have haddr : sockAddr twoFamilies "2401::7%en0" dbDefaultInputPort =
      some ⟨.inet6, 5001, [0x24, 0x01, 0, 0, 0, 0, 0, 0, 0, 0, 0, 0, 0, 0, 0, 7]⟩ := by
    decide +kernel
  obtain ⟨fw', d, hsend⟩ := ((send_after_assignments hrun).2 _ _ 2 haddr
    dbInputKeyUp 30 0 0).2 ⟨hopen, by norm_num⟩
  exact ⟨_, fw', d, hrun, hsend⟩

/-- **One failure of `socket` is for ever**: the host is assigned again, the address is
well-formed and a socket could be opened, and nothing is sent. -/
theorem not_send_after_failure :
    ¬ ∀ (pton : InetPton) (startTime : ℚ) (socketOk : Bool) (events : List RetargetEvent)
        (fw : InputForwarder) (host : String) (addr : SockAddr) (now : ℚ),
        Run (retargetStep pton) (fun _ _ => True) (create pton startTime socketOk) events fw →
        sockAddr pton host dbDefaultInputPort = some addr → (fw.timestamp now).isSome →
        ∃ fw' d, (fw.setTargetHost pton host true).send now dbInputKeyDown 30 0 0 =
          some (fw', [d]) := by
  intro h
  have hrun : Run (retargetStep twoFamilies) (fun _ _ => True) (create twoFamilies 0 true)
    [.assign "2401::7" false] _ := run_get (by decide +kernel)
  have haddr : sockAddr twoFamilies "10.135.95.11" dbDefaultInputPort =
      some ⟨.inet, 5001, [10, 135, 95, 11]⟩ := by decide +kernel
  obtain ⟨fw', d, hsend⟩ := h twoFamilies 0 true _ _ _ _ 1 hrun haddr (by decide +kernel)
  cases hsend

end InputForwarder

end DisplayBridge
