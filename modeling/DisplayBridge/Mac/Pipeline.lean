import DisplayBridge.Lib.Runs
import DisplayBridge.Mac.TargetHost

/-!
# Where the video comes from, and where the input goes

`ViewController.swift` owns a receiver and an input forwarder, and both of them have a
`targetHost`. `startPipeline` sets them to the same host, each time discovery has an
outcome. But the receiver also sets its own: after three connections in a row that were
refused, `checkFallback` takes the default address, and nobody tells the forwarder. From
then on the video comes from one machine and the input goes to another
(`DisplayBridge.not_sameSender_after_fallback`).

The pipeline is a step machine (`DisplayBridge.pipelineStep`). The two threads meet in
`connect`, which reads the host, waits, and only then knows the result; so its start and
its end are two steps, and anything may happen in between. What the network, the system
and discovery answer is in the events.

The video and the input go to the same sender (`DisplayBridge.SameSender`) in every run in
which the receiver does not fall back, and the target is not moved to another machine
under a connection, neither one there is nor one that is being made
(`DisplayBridge.sameSender_of_run`).
-/

namespace DisplayBridge

open Swift Runs

/-- `DB_DEFAULT_VIDEO_PORT`. -/
def dbDefaultVideoPort : UInt16 := 5000

/-! ### The receiver -/

/-- The fields of `SRTReceiver` that making a connection uses. -/
structure SRTReceiver where
  targetHost : String
  consecutiveFailures : ℤ
  running : Bool
  /-- `sock`, as the address it is connected to; `none` is `SRT_INVALID_SOCK`. -/
  sock : Option SockAddr

/-- How the calls of the library in `connect` end. -/
inductive ConnectOutcome
  /-- `srt_create_socket` fails. -/
  | noSocket
  /-- `srt_connect` fails. -/
  | refused
  /-- `srt_connect` succeeds. -/
  | accepted
deriving DecidableEq

namespace SRTReceiver

/-- The condition of `checkFallback`, before it counts one more failure. -/
def FallsBack (r : SRTReceiver) : Prop :=
  3 ≤ r.consecutiveFailures + 1 ∧ r.targetHost ≠ defaultUbuntuIp

instance (r : SRTReceiver) : Decidable r.FallsBack :=
  inferInstanceAs (Decidable (3 ≤ r.consecutiveFailures + 1 ∧ r.targetHost ≠ defaultUbuntuIp))

/-- `checkFallback`. -/
def checkFallback (r : SRTReceiver) : Traps SRTReceiver := do
  let consecutiveFailures ← addInt r.consecutiveFailures 1
  if 3 ≤ consecutiveFailures ∧ r.targetHost ≠ defaultUbuntuIp then
    return { r with targetHost := defaultUbuntuIp, consecutiveFailures := 0 }
  else return { r with consecutiveFailures := consecutiveFailures }

/-- The rest of `connect`, once it has read its host into `rawIP`. -/
def connect (pton : InetPton) (r : SRTReceiver) (rawIP : String) :
    ConnectOutcome → Traps SRTReceiver
  | .noSocket => return r
  | .refused =>
    match sockAddr pton rawIP dbDefaultVideoPort with
    -- an address that is not well-formed does not count as a failure
    | none => return r
    | some _ => r.checkFallback
  | .accepted =>
    match sockAddr pton rawIP dbDefaultVideoPort with
    | none => return r
    | some addr => return { r with sock := some addr, consecutiveFailures := 0 }

end SRTReceiver

/-! ### The pipeline -/

/-- The receiver, the forwarder, and the host of the `connect` in progress, if there is
one. -/
structure Pipeline where
  receiver : SRTReceiver
  forwarder : InputForwarder
  connecting : Option String

/-- What can happen to the pipeline. -/
inductive PipelineEvent
  /-- Discovery has found a sender. -/
  | didFindSender (host : String) (socketOk : Bool)
  /-- Discovery has failed. -/
  | serviceDiscoveryDidFail (socketOk : Bool)
  /-- The receiver starts to connect. -/
  | connect
  | connectReturns (outcome : ConnectOutcome)
  /-- The connection is lost, or the loop of the receiver ends. -/
  | connectionLost
  | stop
deriving DecidableEq

section

variable (pton : InetPton)

/-- `startPipeline`. -/
def startPipeline (p : Pipeline) (host : String) (socketOk : Bool) : Pipeline :=
  let cleanHost := stripZone host
  { p with
    receiver := { p.receiver with targetHost := cleanHost, running := true }
    forwarder := p.forwarder.setTargetHost pton cleanHost socketOk }

/-- One step. -/
def pipelineStep (p : Pipeline) : PipelineEvent → Option Pipeline
  | .didFindSender host socketOk => some (startPipeline pton p host socketOk)
  | .serviceDiscoveryDidFail socketOk => some (startPipeline pton p defaultUbuntuIp socketOk)
  | .connect =>
    if p.receiver.running = true ∧ p.receiver.sock = none ∧ p.connecting = none then
      some { p with connecting := some p.receiver.targetHost }
    else none
  | .connectReturns outcome =>
    match p.connecting with
    | none => none
    | some rawIP => do
      let receiver ← p.receiver.connect pton rawIP outcome
      return { p with receiver := receiver, connecting := none }
  | .connectionLost =>
    if p.receiver.sock.isSome then some { p with receiver := { p.receiver with sock := none } }
    else none
  | .stop => some { p with receiver := { p.receiver with running := false, sock := none } }

/-- The pipeline when the view has loaded; opening the socket of the forwarder may fail. -/
def Pipeline.init (startTime : ℚ) (socketOk : Bool) : Pipeline where
  receiver := ⟨defaultUbuntuIp, 0, false, none⟩
  forwarder := .create pton startTime socketOk
  connecting := none

/-! ### What is promised -/

/-- **The video and the input go to the same sender**: the two hosts are equal, and as long
as there is a connection, every input datagram goes to the machine at its other end. -/
structure SameSender (p : Pipeline) : Prop where
  hosts : p.receiver.targetHost = p.forwarder.targetHost
  addressed : ∀ addr, p.receiver.sock = some addr →
    ∀ now eventType x y value fw' sent,
      p.forwarder.send now eventType x y value = some (fw', sent) →
        ∀ d ∈ sent, ∃ dest, d.dest = some dest ∧ dest.machine = addr.machine

/-- A host names the machine of an address, if it names one at all. -/
def Names (host : String) (addr : SockAddr) : Prop :=
  ∀ dest ∈ sockAddr pton host dbDefaultInputPort, dest.machine = addr.machine

/-- The target is not moved: the receiver does not fall back, discovery names no other
machine while there is a connection, and a connection is made to no other machine than the
target. -/
def Unmoved (p : Pipeline) : PipelineEvent → Prop
  | .didFindSender host _ => ∀ addr ∈ p.receiver.sock, Names pton host addr
  | .serviceDiscoveryDidFail _ => ∀ addr ∈ p.receiver.sock, Names pton defaultUbuntuIp addr
  | .connectReturns .refused => ¬ p.receiver.FallsBack
  | .connectReturns .accepted => ∀ rawIP ∈ p.connecting,
      ∀ addr ∈ sockAddr pton rawIP dbDefaultVideoPort, Names pton p.receiver.targetHost addr
  | _ => True

instance (host : String) (addr : SockAddr) : Decidable (Names pton host addr) :=
  inferInstanceAs (Decidable (∀ dest ∈ sockAddr pton host dbDefaultInputPort,
    dest.machine = addr.machine))

instance (p : Pipeline) (e : PipelineEvent) : Decidable (Unmoved pton p e) := by
  unfold Unmoved
  split <;> infer_instance

end

/-! ### The invariant -/

variable {pton : InetPton} {p : Pipeline}

/-- The invariant of the runs in which the target is not moved. -/
structure Pipeline.Inv (pton : InetPton) (p : Pipeline) : Prop where
  hosts : p.receiver.targetHost = p.forwarder.targetHost
  fresh : p.forwarder.Fresh pton
  video : ∀ addr ∈ p.receiver.sock, Names pton p.receiver.targetHost addr

theorem Pipeline.Inv.sameSender (h : p.Inv pton) : SameSender p := by
  refine ⟨h.hosts, ?_⟩
  intro addr haddr now eventType x y value fw' sent hsend d hd
  obtain ⟨dest, hdest, htarget⟩ := h.fresh.dest_of_send hsend d hd
  rw [← h.hosts] at htarget
  exact ⟨dest, hdest, h.video addr haddr dest htarget⟩

/-- An outcome of discovery. -/
theorem Pipeline.Inv.startPipeline {host : String} (socketOk : Bool)
    (hok : ∀ addr ∈ p.receiver.sock, Names pton host addr) :
    (startPipeline pton p host socketOk).Inv pton := by
  refine ⟨?_, ?_, ?_⟩
  · exact (InputForwarder.targetHost_setTargetHost p.forwarder _ socketOk).symm
  · exact InputForwarder.fresh_setTargetHost p.forwarder _ socketOk
  · intro addr haddr dest hdest
    have hdest' : sockAddr pton host dbDefaultInputPort = some dest := by
      rw [← sockAddr_stripZone]
      exact hdest
    exact hok addr haddr dest hdest'

/-- A refused connection, if the receiver does not fall back, only counts. -/
theorem SRTReceiver.checkFallback_of_not {r r' : SRTReceiver} (hno : ¬ r.FallsBack)
    (h : r.checkFallback = some r') : ∃ n, r' = { r with consecutiveFailures := n } := by
  obtain ⟨n, hn, h⟩ := Option.bind_eq_some_iff.1 h
  obtain ⟨-, rfl⟩ := exactly_eq_some_iff.1 hn
  have hcounted := h.symm.trans (if_neg hno)
  exact ⟨_, Option.some.inj hcounted⟩

/-- The end of `connect`. -/
theorem Pipeline.Inv.connectReturns (h : p.Inv pton) {outcome : ConnectOutcome} {rawIP : String}
    (hconnecting : p.connecting = some rawIP) (hok : Unmoved pton p (.connectReturns outcome))
    {receiver : SRTReceiver} (hconnect : p.receiver.connect pton rawIP outcome = some receiver) :
    Pipeline.Inv pton { p with receiver := receiver, connecting := none } := by
  cases outcome with
  | noSocket =>
    obtain rfl := Option.some.inj hconnect
    exact ⟨h.hosts, h.fresh, h.video⟩
  | refused =>
    rw [SRTReceiver.connect] at hconnect
    split at hconnect
    · obtain rfl := Option.some.inj hconnect
      exact ⟨h.hosts, h.fresh, h.video⟩
    · obtain ⟨n, rfl⟩ := SRTReceiver.checkFallback_of_not hok hconnect
      exact ⟨h.hosts, h.fresh, h.video⟩
  | accepted =>
    rw [SRTReceiver.connect] at hconnect
    split at hconnect
    · obtain rfl := Option.some.inj hconnect
      exact ⟨h.hosts, h.fresh, h.video⟩
    · next addr haddr =>
      obtain rfl := Option.some.inj hconnect
      refine ⟨h.hosts, h.fresh, ?_⟩
      rintro _ ⟨⟩
      exact hok rawIP hconnecting addr haddr

/-- **The step lemma.** -/
theorem Pipeline.Inv.step (h : p.Inv pton) {event : PipelineEvent} (hok : Unmoved pton p event)
    {p' : Pipeline} (hstep : pipelineStep pton p event = some p') : p'.Inv pton := by
  cases event with
  | didFindSender host socketOk =>
    obtain rfl := Option.some.inj hstep
    exact .startPipeline socketOk hok
  | serviceDiscoveryDidFail socketOk =>
    obtain rfl := Option.some.inj hstep
    exact .startPipeline socketOk hok
  | connect =>
    rw [pipelineStep] at hstep
    split at hstep
    · obtain rfl := Option.some.inj hstep
      exact ⟨h.hosts, h.fresh, h.video⟩
    · cases hstep
  | connectReturns outcome =>
    rw [pipelineStep] at hstep
    cases hconnecting : p.connecting with
    | none =>
      rw [hconnecting] at hstep
      cases hstep
    | some rawIP =>
      rw [hconnecting] at hstep
      obtain ⟨receiver, hconnect, hstep⟩ := Option.bind_eq_some_iff.1 hstep
      obtain rfl := Option.some.inj hstep
      exact h.connectReturns hconnecting hok hconnect
  | connectionLost =>
    rw [pipelineStep] at hstep
    split at hstep
    · obtain rfl := Option.some.inj hstep
      exact ⟨h.hosts, h.fresh, fun addr haddr => absurd haddr (Option.not_mem_none addr)⟩
    · cases hstep
  | stop =>
    obtain rfl := Option.some.inj hstep
    exact ⟨h.hosts, h.fresh, fun addr haddr => absurd haddr (Option.not_mem_none addr)⟩

/-! ### Runs -/

theorem Pipeline.inv_init (startTime : ℚ) (socketOk : Bool) :
    (Pipeline.init pton startTime socketOk).Inv pton := by
  refine ⟨?_, ?_, fun addr haddr => absurd haddr (Option.not_mem_none addr)⟩
  · exact (InputForwarder.targetHost_create startTime socketOk).symm
  · exact InputForwarder.fresh_create startTime socketOk

/-- **The video and the input go to the same sender** in every state of every run in which
the target is not moved. -/
theorem sameSender_of_run {startTime : ℚ} {socketOk : Bool} {events : List PipelineEvent}
    (hrun : Run (pipelineStep pton) (Unmoved pton) (Pipeline.init pton startTime socketOk)
      events p) : SameSender p :=
  (hrun.invariant (Pipeline.inv_init startTime socketOk)
    fun _ _ _ h hok hstep => h.step hok hstep).sameSender

/-! ### A sender that is found, and one that is not there -/

/-- `inet_pton` on the two addresses of the runs below. -/
def twoAddresses : InetPton
  | .inet, "10.135.95.11" => some [10, 135, 95, 11]
  | .inet, "10.0.0.7" => some [10, 0, 0, 7]
  | _, _ => none

/-- Two refused connections to a sender that was found, and one that it accepts. -/
theorem sameSender_after_two_failures :
    ∃ p, Run (pipelineStep twoAddresses) (Unmoved twoAddresses)
      (Pipeline.init twoAddresses 0 true)
      [.didFindSender "10.0.0.7%en0" true, .connect, .connectReturns .refused, .connect,
        .connectReturns .refused, .connect, .connectReturns .accepted] p ∧ SameSender p :=
  ⟨_, run_get (by decide +kernel), sameSender_of_run (run_get (by decide +kernel))⟩

/-- **After the third one the receiver falls back**, and connects to the default address;
the input still goes to the sender that was found. -/
theorem not_sameSender_after_fallback :
    ∃ p, Run (pipelineStep twoAddresses) (fun _ _ => True) (Pipeline.init twoAddresses 0 true)
      [.didFindSender "10.0.0.7" true, .connect, .connectReturns .refused, .connect,
        .connectReturns .refused, .connect, .connectReturns .refused, .connect,
        .connectReturns .accepted] p ∧ p.receiver.sock.isSome ∧ ¬ SameSender p := by
  refine ⟨_, run_get (by decide +kernel), by decide +kernel, fun h => ?_⟩
  exact absurd h.hosts (by decide +kernel)

end DisplayBridge
