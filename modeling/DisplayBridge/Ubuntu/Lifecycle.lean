import Mathlib.Tactic.Abel
import DisplayBridge.Protocol
import DisplayBridge.Ubuntu.RingMemory

/-!
# What the sender acquires and gives back

Before it streams anything, `main.c` sets up the ring, an encoder, a capture, a streamer, an input
handler and a service discovery, each of which acquires between four and twelve things of
the system: memory, descriptors, objects of the driver, sockets, connections, threads. Every one of
these calls may fail, and each of the components goes back on its own way – labels that
fall through (`db_encoder_init`), a list at each return (`db_streamer_init`), its own
destructor (`db_capture_init`). This module has them call by call, and with each call what
it needs: nothing is used, and nothing released, before what it depends on or after it.

A component is there completely or not at all (`DisplayBridge.Lifecycle.holds_dbStreamerInit` and
the like), with two exceptions: an encoder whose display cannot be initialized does not give
the display back, and a capture that fails to negotiate keeps its connection to the D-Bus. So a
process that has started ends with nothing, whatever fails on the way, however many receivers
have come and gone, and whatever frames the ring has carried. One that could not start returns
without `ring_destroy`: it leaves the buffers of the ring, and perhaps the display or the
connection. And one path is unsound: if the capture thread cannot be created, `main` goes to
`cleanup` and joins it all the same (`DisplayBridge.main_releases_iff`).

Releasing something is taken to succeed, and where a frame is copied to in the ring is not
followed.
-/

namespace DisplayBridge

namespace Lifecycle

open Resources

/-- What the sender acquires. -/
inductive SenderResource
  /-- The buffer of a slot of the ring. -/
  | slotBuffer (slot : ℕ)
  | drmFd
  /-- From `vaGetDisplayDRM` to `vaTerminate`. -/
  | vaDisplay
  | vaConfig
  | reconSurfaces
  | vaContext
  | codedBuf
  | convBuf
  /-- The memory of `db_capture_t`, and so below for the others. -/
  | capture
  | dbus
  | sessionHandle
  | streamPath
  | mainLoop
  | subscription
  | timeoutSource
  /-- From `pw_init` to `pw_deinit`. -/
  | pipewire
  | pwLoop
  | pwCtx
  | pwCore
  | pwStream
  | streamer
  | sendBuf
  /-- From `srt_startup` to `srt_cleanup`. -/
  | srt
  | listenSock
  | clientSock
  | input
  | uinputFd
  | uinputDevice
  | udpSock
  | discovery
  | serviceName
  | threadedPoll
  | avahiClient
  /-- The thread of the poll. -/
  | pollThread
  | captureThread
  | inputThread
deriving DecidableEq

/-- A part of the sender. -/
abbrev Owner (α : Type) := Resources.Prog SenderResource α

open SenderResource

/-! ### The encoder -/

/-- Which fields of `db_encoder_t` name something. -/
structure EncoderHandles where
  drmFd : Bool
  vaDisplay : Bool
  configId : Bool
  numReconSurfaces : Bool
  contextId : Bool
  codedBuf : Bool
  convBuf : Bool
deriving DecidableEq

/-- `open_drm_render_node`: the second path is tried if the first fails. -/
def openDrmRenderNode : Owner Bool := do
  if ← acquire [] .drmFd then return true
  else acquire [] .drmFd

/-- The label `fail_drm`. -/
def failDrm (enc : EncoderHandles) : Owner (Bool × EncoderHandles) := do
  release [] .drmFd
  return (false, { enc with drmFd := false })

/-- The label `fail_va`; `va_display` is not cleared. -/
def failVa (enc : EncoderHandles) : Owner (Bool × EncoderHandles) := do
  release [.drmFd] .vaDisplay
  failDrm enc

/-- The label `fail_config`. -/
def failConfig (enc : EncoderHandles) : Owner (Bool × EncoderHandles) := do
  release [.vaDisplay] .vaConfig
  failVa { enc with configId := false }

/-- The label `fail_surfaces`; `num_recon_surfaces` is not cleared. -/
def failSurfaces (enc : EncoderHandles) : Owner (Bool × EncoderHandles) := do
  release [.vaDisplay] .reconSurfaces
  failConfig enc

/-- The label `fail_context`. -/
def failContext (enc : EncoderHandles) : Owner (Bool × EncoderHandles) := do
  release [.vaDisplay] .vaContext
  failSurfaces { enc with contextId := false }

/-- The label `fail_coded_buf`. -/
def failCodedBuf (enc : EncoderHandles) : Owner (Bool × EncoderHandles) := do
  release [.vaDisplay] .codedBuf
  failContext { enc with codedBuf := false }

/-- `db_encoder_init`, with whether it has succeeded. -/
def dbEncoderInit (codec : UInt8) : Owner (Bool × EncoderHandles) := do
  if codec ≠ dbCodecHevc then return (false, ⟨false, false, false, false, false, false, false⟩)
  else if ← openDrmRenderNode then
    -- vaGetDisplayDRM
    if ← acquire [.drmFd] .vaDisplay then
      -- vaInitialize
      if ← attempt [.drmFd, .vaDisplay] then
        if ← acquire [.vaDisplay] .vaConfig then
          if ← acquire [.vaDisplay] .reconSurfaces then
            if ← acquire [.vaDisplay, .vaConfig, .reconSurfaces] .vaContext then
              if ← acquire [.vaDisplay, .vaContext] .codedBuf then
                if ← acquire [] .convBuf then
                  return (true, ⟨true, true, true, true, true, true, true⟩)
                else failCodedBuf ⟨true, true, true, true, true, true, false⟩
              else failContext ⟨true, true, true, true, true, false, false⟩
            else failSurfaces ⟨true, true, true, true, false, false, false⟩
          else failConfig ⟨true, true, true, true, false, false, false⟩
        else failVa ⟨true, true, false, false, false, false, false⟩
      else failDrm ⟨true, true, false, false, false, false, false⟩
    else failDrm ⟨true, false, false, false, false, false, false⟩
  else return (false, ⟨false, false, false, false, false, false, false⟩)

/-- `db_encoder_destroy`. -/
def dbEncoderDestroy (enc : EncoderHandles) : Owner Unit := do
  if enc.convBuf then release [] .convBuf
  if enc.codedBuf then release [.vaDisplay] .codedBuf
  if enc.contextId then release [.vaDisplay] .vaContext
  if enc.numReconSurfaces then release [.vaDisplay] .reconSurfaces
  if enc.configId then release [.vaDisplay] .vaConfig
  if enc.vaDisplay then release [.drmFd] .vaDisplay
  if enc.drmFd then release [] .drmFd

/-- What an encoder owns. -/
def encoderOwned : Multiset SenderResource :=
  {.convBuf, .codedBuf, .vaContext, .reconSurfaces, .vaConfig, .vaDisplay, .drmFd}

variable {β : Type} {live : Multiset SenderResource}

/-- **An encoder is there, or nothing of it but the display.** -/
theorem holds_dbEncoderInit (codec : UInt8) :
    Holds live (dbEncoderInit codec) fun r live' =>
      if r.1 then r.2 = ⟨true, true, true, true, true, true, true⟩ ∧ live' = encoderOwned + live
      else live' = live ∨ live' = .vaDisplay ::ₘ live := by
  rw [dbEncoderInit]
  split
  · simp
  · simp [openDrmRenderNode, failCodedBuf, failContext, failSurfaces, failConfig, failVa, failDrm,
      encoderOwned]

theorem holds_dbEncoderDestroy :
    Holds (encoderOwned + live) (dbEncoderDestroy ⟨true, true, true, true, true, true, true⟩)
      fun _ live' => live' = live := by
  simp [dbEncoderDestroy, encoderOwned]

/-! ### The capture -/

/-- Which fields of `db_capture_t` point to something. -/
structure CaptureHandles where
  dbus : Bool
  sessionHandle : Bool
  pwLoop : Bool
  pwCtx : Bool
  pwCore : Bool
  pwStream : Bool
deriving DecidableEq

/-- `mutter_screencast_init`, with whether it has succeeded. -/
def mutterScreencastInit (cap : CaptureHandles) : Owner (Bool × CaptureHandles) := do
  if ← acquire [] .dbus then
    -- CreateSession
    if ← attempt [.dbus] then
      take [] .sessionHandle
      -- RecordMonitor
      if ← attempt [.dbus, .sessionHandle] then
        take [] .streamPath
        take [] .mainLoop
        take [.dbus, .streamPath, .mainLoop] .subscription
        -- Start
        if ← attempt [.dbus, .sessionHandle] then
          take [.mainLoop] .timeoutSource
          -- PipeWireStreamAdded, or the timeout
          let added ← attempt [.mainLoop, .subscription, .timeoutSource]
          release [.mainLoop] .timeoutSource
          release [.dbus] .subscription
          release [] .mainLoop
          release [] .streamPath
          return (added, { cap with dbus := true, sessionHandle := true })
        else
          release [.dbus] .subscription
          release [] .mainLoop
          release [] .streamPath
          return (false, { cap with dbus := true, sessionHandle := true })
      else return (false, { cap with dbus := true, sessionHandle := true })
    else return (false, { cap with dbus := true })
  else return (false, cap)

/-- `setup_pw_stream`, with whether it has succeeded. -/
def setupPwStream (cap : CaptureHandles) : Owner (Bool × CaptureHandles) := do
  take [] .pipewire
  if ← acquire [.pipewire] .pwLoop then
    if ← acquire [.pwLoop] .pwCtx then
      if ← acquire [.pwCtx] .pwCore then
        if ← acquire [.pwCore] .pwStream then
          -- pw_stream_connect
          let connected ← attempt [.pwStream]
          return (connected,
            { cap with pwLoop := true, pwCtx := true, pwCore := true, pwStream := true })
        else return (false, { cap with pwLoop := true, pwCtx := true, pwCore := true })
      else return (false, { cap with pwLoop := true, pwCtx := true })
    else return (false, { cap with pwLoop := true })
  else return (false, cap)

/-- `db_capture_destroy`. -/
def dbCaptureDestroy (cap : CaptureHandles) : Owner Unit := do
  if cap.pwStream then
    let _ ← attempt [.pwCore, .pwStream]
    release [.pwCore] .pwStream
  if cap.pwCore then release [.pwCtx] .pwCore
  if cap.pwCtx then release [.pwLoop] .pwCtx
  if cap.pwLoop then release [.pipewire] .pwLoop
  release [] .pipewire
  if cap.dbus then release [] .dbus
  if cap.sessionHandle then release [] .sessionHandle
  release [] .capture

/-- `db_capture_init`. -/
def dbCaptureInit : Owner (Option CaptureHandles) := do
  if ← acquire [] .capture then
    let (negotiated, cap) ← mutterScreencastInit ⟨false, false, false, false, false, false⟩
    if negotiated then
      let (ready, cap) ← setupPwStream cap
      if ready then return some cap
      else
        dbCaptureDestroy cap
        return none
    else
      if cap.sessionHandle then release [] .sessionHandle
      release [] .capture
      return none
  else return none

/-- What a capture owns. -/
def captureOwned : Multiset SenderResource :=
  {.pwStream, .pwCore, .pwCtx, .pwLoop, .pipewire, .sessionHandle, .dbus, .capture}

/-- **What is left of a negotiation** that has failed: the connection, and perhaps the name of
a session. -/
theorem holds_mutterScreencastInit :
    Holds live (mutterScreencastInit ⟨false, false, false, false, false, false⟩)
      fun r live' => ∃ dbus sessionHandle : Bool,
        r.2 = ⟨dbus, sessionHandle, false, false, false, false⟩ ∧
          (r.1 = true → dbus = true ∧ sessionHandle = true) ∧
          live' = if sessionHandle then .sessionHandle ::ₘ .dbus ::ₘ live
            else if dbus then .dbus ::ₘ live else live := by
  simp [mutterScreencastInit]

/-- **A capture is there, or nothing of it but the connection.** -/
theorem holds_dbCaptureInit :
    Holds live dbCaptureInit fun r live' =>
      r = some ⟨true, true, true, true, true, true⟩ ∧ live' = captureOwned + live ∨
        r = none ∧ (live' = live ∨ live' = .dbus ::ₘ live) := by
  rw [dbCaptureInit, holds_bind, holds_acquire]
  refine ⟨by simp, ?_, by simp⟩
  rw [if_pos rfl]
  refine holds_mutterScreencastInit.bind ?_
  rintro ⟨negotiated, cap⟩ live' ⟨dbus, sessionHandle, rfl, hboth, rfl⟩
  cases negotiated with
  | true =>
    obtain ⟨rfl, rfl⟩ := hboth rfl
    simp [setupPwStream, dbCaptureDestroy, captureOwned]
  | false => cases dbus <;> cases sessionHandle <;> simp

theorem holds_dbCaptureDestroy :
    Holds (captureOwned + live) (dbCaptureDestroy ⟨true, true, true, true, true, true⟩)
      fun _ live' => live' = live := by
  simp [dbCaptureDestroy, captureOwned]

/-! ### The streamer -/

/-- `db_streamer_init`. -/
def dbStreamerInit : Owner Bool := do
  if ← acquire [] .streamer then
    if ← acquire [] .sendBuf then
      -- srt_startup
      if ← acquire [] .srt then
        if ← acquire [.srt] .listenSock then
          -- srt_bind
          if ← attempt [.srt, .listenSock] then
            -- srt_listen
            if ← attempt [.srt, .listenSock] then return true
            else
              release [.srt] .listenSock
              release [] .sendBuf
              release [] .streamer
              release [] .srt
              return false
          else
            release [.srt] .listenSock
            release [] .sendBuf
            release [] .streamer
            release [] .srt
            return false
        else
          release [] .sendBuf
          release [] .streamer
          release [] .srt
          return false
      else
        release [] .sendBuf
        release [] .streamer
        return false
    else
      release [] .streamer
      return false
  else return false

/-- `db_streamer_accept`, and the stream loop as far as it goes: the receiver that was there is
closed first, and one that is lost while it is sent to is closed there. The result is whether
there is a receiver in the end. -/
def serveReceiver (client : Bool) : Owner Bool := do
  if client then release [.srt, .streamer] .clientSock
  if ← acquire [.srt, .listenSock] .clientSock then
    if ← attempt [.srt, .sendBuf, .clientSock] then return true
    else
      release [.srt, .streamer] .clientSock
      return false
  else return false

/-- Some turns of the main loop, each with what the ring is asked for meanwhile: by the loop
itself, and by the capture thread. -/
def serve : List (List (RingOp β)) → Bool → RingBuffer β → Owner (Bool × RingBuffer β)
  | [], client, rb => return (client, rb)
  | ops :: turns, client, rb => do
    let client ← serveReceiver client
    let rb ← RingMemory.ringCalls slotBuffer rb ops
    serve turns client rb

/-- `db_streamer_destroy`. -/
def dbStreamerDestroy (client : Bool) : Owner Unit := do
  if client then release [.srt, .streamer] .clientSock
  release [.srt, .streamer] .listenSock
  release [.streamer] .sendBuf
  release [] .srt
  release [] .streamer

/-- What a streamer owns. -/
def streamerOwned (client : Bool) : Multiset SenderResource :=
  if client then {.clientSock, .listenSock, .srt, .sendBuf, .streamer}
  else {.listenSock, .srt, .sendBuf, .streamer}

/-- **A streamer is there, or nothing of it.** -/
theorem holds_dbStreamerInit :
    Holds live dbStreamerInit fun ok live' =>
      if ok then live' = streamerOwned false + live else live' = live := by
  simp [dbStreamerInit, streamerOwned]

theorem holds_serveReceiver (client : Bool) :
    Holds (streamerOwned client + live) (serveReceiver client)
      fun client' live' => live' = streamerOwned client' + live := by
  cases client <;> simp [serveReceiver, streamerOwned]

/-- The buffers of the ring. -/
def ringOwned (rb : RingBuffer β) : Multiset SenderResource := RingMemory.owned slotBuffer rb

/-- **Receivers and frames come and go**: there is at most one receiver, and the slots of the ring
have the buffers they point to. -/
theorem holds_serve (turns : List (List (RingOp β))) (client : Bool) {rb : RingBuffer β}
    (hwf : rb.Wf) :
    Holds (streamerOwned client + (ringOwned rb + live)) (serve turns client rb)
      fun r live' => live' = streamerOwned r.1 + (ringOwned r.2 + live) := by
  induction turns generalizing client rb with
  | nil => exact holds_pure.2 rfl
  | cons ops turns ih =>
    rw [serve]
    refine (holds_serveReceiver client).bind ?_
    rintro client' _ rfl
    rw [add_left_comm]
    refine (RingMemory.holds_ringCalls hwf ops).bind ?_
    rintro rb' _ ⟨hwf', rfl⟩
    show Holds (ringOwned rb' + (streamerOwned client' + live)) _ _
    rw [add_left_comm]
    exact ih client' hwf'

theorem holds_dbStreamerDestroy (client : Bool) :
    Holds (streamerOwned client + live) (dbStreamerDestroy client) fun _ live' => live' = live := by
  cases client <;> simp [dbStreamerDestroy, streamerOwned]

/-! ### The input handler -/

/-- `setup_uinput_device`. -/
def setupUinputDevice : Owner Bool := do
  if ← acquire [] .uinputFd then
    -- UI_SET_EVBIT; the other ioctls may fail
    if ← attempt [.uinputFd] then
      -- UI_DEV_SETUP
      if ← attempt [.uinputFd] then
        if ← acquire [.uinputFd] .uinputDevice then return true
        else
          release [] .uinputFd
          return false
      else
        release [] .uinputFd
        return false
    else
      release [] .uinputFd
      return false
  else return false

/-- `setup_udp_listener`. -/
def setupUdpListener : Owner Bool := do
  if ← acquire [] .udpSock then
    -- bind
    if ← attempt [.udpSock] then return true
    else
      release [] .udpSock
      return false
  else return false

/-- `db_input_init`. -/
def dbInputInit : Owner Bool := do
  if ← acquire [] .input then
    if ← setupUinputDevice then
      if ← setupUdpListener then return true
      else
        release [.uinputFd] .uinputDevice
        release [] .uinputFd
        release [] .input
        return false
    else
      release [] .input
      return false
  else return false

/-- `db_input_destroy`. -/
def dbInputDestroy : Owner Unit := do
  release [.input, .uinputFd] .uinputDevice
  release [.input] .uinputFd
  release [.input] .udpSock
  release [] .input

/-- What an input handler owns. -/
def inputOwned : Multiset SenderResource := {.udpSock, .uinputDevice, .uinputFd, .input}

/-- **An input handler is there, or nothing of it.** -/
theorem holds_dbInputInit :
    Holds live dbInputInit fun ok live' =>
      if ok then live' = inputOwned + live else live' = live := by
  simp [dbInputInit, setupUinputDevice, setupUdpListener, inputOwned]

theorem holds_dbInputDestroy :
    Holds (inputOwned + live) dbInputDestroy fun _ live' => live' = live := by
  simp [dbInputDestroy, inputOwned]

/-! ### The discovery -/

/-- `db_discovery_start`. -/
def dbDiscoveryStart : Owner Bool := do
  if ← acquire [] .discovery then
    if ← acquire [] .serviceName then
      if ← acquire [] .threadedPoll then
        if ← acquire [.threadedPoll, .discovery] .avahiClient then
          if ← acquire [.threadedPoll] .pollThread then return true
          else
            release [] .avahiClient
            release [] .threadedPoll
            release [] .serviceName
            release [] .discovery
            return false
        else
          release [] .threadedPoll
          release [] .serviceName
          release [] .discovery
          return false
      else
        release [] .serviceName
        release [] .discovery
        return false
    else
      release [] .discovery
      return false
  else return false

/-- `db_discovery_stop`; the thread ends first. -/
def dbDiscoveryStop : Owner Unit := do
  release [.discovery, .threadedPoll] .pollThread
  release [.discovery, .threadedPoll] .avahiClient
  release [.discovery] .threadedPoll
  release [.discovery] .serviceName
  release [] .discovery

/-- What a discovery owns. -/
def discoveryOwned : Multiset SenderResource :=
  {.pollThread, .avahiClient, .threadedPoll, .serviceName, .discovery}

/-- **A discovery is there, or nothing of it.** -/
theorem holds_dbDiscoveryStart :
    Holds live dbDiscoveryStart fun ok live' =>
      if ok then live' = discoveryOwned + live else live' = live := by
  simp [dbDiscoveryStart, discoveryOwned]

theorem holds_dbDiscoveryStop :
    Holds (discoveryOwned + live) dbDiscoveryStop fun _ live' => live' = live := by
  simp [dbDiscoveryStop, discoveryOwned]

/-! ### The process -/

/-- The creation of the input thread, if there is an input handler. -/
def createInputThread (hasInput : Bool) : Owner Bool :=
  if hasInput then acquire [.input] .inputThread else return false

/-- The code behind the label `cleanup`. -/
def cleanup (enc : EncoderHandles) (cap : CaptureHandles)
    (client hasInput hasDiscovery hasInputThread : Bool) (rb : RingBuffer β) : Owner Unit := do
  release [] .captureThread
  ifThere hasInputThread (release [] .inputThread)
  ifThere hasDiscovery dbDiscoveryStop
  ifThere hasInput dbInputDestroy
  dbStreamerDestroy client
  dbCaptureDestroy cap
  dbEncoderDestroy enc
  RingMemory.ringDestroy slotBuffer rb

/-- `main`, with what it returns; `ok` is the outcome of the allocation of each slot of the ring,
`threadOk` whether the capture thread can be created, and `turns` is what the ring is asked for
in each turn of the main loop. -/
def main (ok : ℕ → Bool) (threadOk : Bool) (turns : List (List (RingOp β))) : Owner ℤ := do
  let rb ← RingMemory.ringInit slotBuffer ok
  let (ready, enc) ← dbEncoderInit dbCodecHevc
  if ready then
    match ← dbCaptureInit with
    | none =>
      dbEncoderDestroy enc
      return 1
    | some cap =>
      if ← dbStreamerInit then
        let hasInput ← dbInputInit
        let hasDiscovery ← dbDiscoveryStart
        if threadOk then
          take [.capture] .captureThread
          let hasInputThread ← createInputThread hasInput
          let (client, rb) ← serve turns false rb
          cleanup enc cap client hasInput hasDiscovery hasInputThread rb
          return 0
        else
          -- `cap_tid` is not set
          cleanup enc cap false hasInput hasDiscovery false rb
          return 0
      else
        dbCaptureDestroy cap
        dbEncoderDestroy enc
        return 1
  else return 1

/-- What the process owns in its main loop, but for the capture thread. -/
def processOwned (client hasInput hasDiscovery hasInputThread : Bool) (rb : RingBuffer β) :
    Multiset SenderResource :=
  ownedIf hasInputThread {.inputThread} + (ownedIf hasDiscovery discoveryOwned +
    (ownedIf hasInput inputOwned + (streamerOwned client + (captureOwned +
      (encoderOwned + ringOwned rb)))))

/-- **`cleanup` releases everything.** -/
theorem holds_cleanup (client hasInput hasDiscovery hasInputThread : Bool) (rb : RingBuffer β) :
    Holds (.captureThread ::ₘ processOwned client hasInput hasDiscovery hasInputThread rb)
      (cleanup ⟨true, true, true, true, true, true, true⟩ ⟨true, true, true, true, true, true⟩
        client hasInput hasDiscovery hasInputThread rb) fun _ live' => live' = 0 := by
  rw [cleanup, holds_bind, holds_release]
  refine ⟨by simp, Multiset.mem_cons_self _ _, ?_⟩
  rw [Multiset.erase_cons_head, processOwned]
  refine (holds_ifThere_release hasInputThread SenderResource.inputThread).bind ?_
  rintro ⟨⟩ _ rfl
  refine (holds_ifThere hasDiscovery holds_dbDiscoveryStop).bind ?_
  rintro ⟨⟩ _ rfl
  refine (holds_ifThere hasInput holds_dbInputDestroy).bind ?_
  rintro ⟨⟩ _ rfl
  refine (holds_dbStreamerDestroy client).bind ?_
  rintro ⟨⟩ _ rfl
  refine holds_dbCaptureDestroy.bind ?_
  rintro ⟨⟩ _ rfl
  refine holds_dbEncoderDestroy.bind ?_
  rintro ⟨⟩ _ rfl
  have hend : Holds (ringOwned rb + 0) (RingMemory.ringDestroy slotBuffer rb)
    fun _ live' => live' = 0 := RingMemory.holds_ringDestroy rb
  rwa [add_zero] at hend

/-- The main loop and the end of the process, from where the threads are there. -/
def running (turns : List (List (RingOp β))) (hasInput hasDiscovery hasInputThread : Bool)
    (rb : RingBuffer β) : Owner ℤ := do
  let (client, rb) ← serve turns false rb
  cleanup ⟨true, true, true, true, true, true, true⟩ ⟨true, true, true, true, true, true⟩
    client hasInput hasDiscovery hasInputThread rb
  return (0 : ℤ)

theorem holds_running (turns : List (List (RingOp β))) (hasInput hasDiscovery hasInputThread : Bool)
    {rb : RingBuffer β} (hwf : rb.Wf) :
    Holds (.captureThread ::ₘ processOwned false hasInput hasDiscovery hasInputThread rb)
      (running turns hasInput hasDiscovery hasInputThread rb)
      fun code live' => code = 0 ∧ live' = 0 := by
  have hrest : ∀ client (rb : RingBuffer β), .captureThread ::ₘ processOwned client hasInput
      hasDiscovery hasInputThread rb = streamerOwned client + (ringOwned rb + (.captureThread ::ₘ
        (ownedIf hasInputThread {.inputThread} + (ownedIf hasDiscovery discoveryOwned +
          (ownedIf hasInput inputOwned + (captureOwned + encoderOwned)))))) := by
    intro client rb
    rw [processOwned, Multiset.add_cons, Multiset.add_cons]
    congr 1
    abel
  rw [hrest false]
  refine (holds_serve turns false hwf).bind ?_
  rintro ⟨client, rb'⟩ _ rfl
  rw [← hrest client]
  refine (holds_cleanup client hasInput hasDiscovery hasInputThread rb').bind ?_
  rintro ⟨⟩ _ rfl
  exact holds_pure.2 ⟨rfl, rfl⟩

/-- **The process from where the capture thread is created.** -/
theorem holds_threads (turns : List (List (RingOp β))) (hasInput hasDiscovery : Bool)
    {rb : RingBuffer β} (hwf : rb.Wf) :
    Holds (processOwned false hasInput hasDiscovery false rb)
      (do
        take [.capture] .captureThread
        let hasInputThread ← createInputThread hasInput
        running turns hasInput hasDiscovery hasInputThread rb)
      fun code live' => code = 0 ∧ live' = 0 := by
  have hthere : SenderResource.capture ∈ processOwned false hasInput hasDiscovery false rb := by
    simp [processOwned, captureOwned]
  rw [holds_bind, holds_take]
  refine ⟨by simp [hthere], ?_⟩
  rw [holds_bind]
  cases hasInput with
  | true =>
    rw [createInputThread, if_pos rfl, holds_acquire]
    refine ⟨by simp [processOwned, ownedIf, inputOwned], ?_,
      holds_running turns true hasDiscovery false hwf⟩
    have hswap : .inputThread ::ₘ .captureThread ::ₘ processOwned false true hasDiscovery false rb =
        .captureThread ::ₘ processOwned false true hasDiscovery true rb := by
      rw [Multiset.cons_swap]
      simp [processOwned, ownedIf]
    rw [hswap]
    exact holds_running turns true hasDiscovery true hwf
  | false => exact holds_pure.2 (holds_running turns false hasDiscovery false hwf)

/-- **The process from where the streamer is there.** -/
theorem holds_components (turns : List (List (RingOp β))) {rb : RingBuffer β} (hwf : rb.Wf) :
    Holds (streamerOwned false + (captureOwned + (encoderOwned + ringOwned rb)))
      (do
        let hasInput ← dbInputInit
        let hasDiscovery ← dbDiscoveryStart
        take [.capture] .captureThread
        let hasInputThread ← createInputThread hasInput
        running turns hasInput hasDiscovery hasInputThread rb)
      fun code live' => code = 0 ∧ live' = 0 := by
  refine holds_dbInputInit.bind ?_
  intro hasInput live hinput
  have hinput : live = ownedIf hasInput inputOwned +
      (streamerOwned false + (captureOwned + (encoderOwned + ringOwned rb))) := by
    cases hasInput with
    | true => exact hinput
    | false => exact hinput.trans (zero_add _).symm
  refine holds_dbDiscoveryStart.bind ?_
  intro hasDiscovery live' hdiscovery
  have hdiscovery : live' = processOwned false hasInput hasDiscovery false rb := by
    rw [processOwned, ← hinput]
    cases hasDiscovery with
    | true => exact hdiscovery.trans (zero_add _).symm
    | false => exact hdiscovery.trans ((zero_add _).trans (zero_add _)).symm
  rw [hdiscovery]
  exact holds_threads turns hasInput hasDiscovery hwf

/-- What a process that could not start has left besides the buffers of the ring. -/
def LeftOver (left : Multiset SenderResource) : Prop :=
  left = 0 ∨ left = {.vaDisplay} ∨ left = {.dbus}

/-- How a process ends: with nothing if it has started, and otherwise with the buffers of the
ring, and perhaps a display or a connection. -/
def Ends (β : Type) (ok : ℕ → Bool) (code : ℤ) (live : Multiset SenderResource) : Prop :=
  code = 0 ∧ live = 0 ∨
    code = 1 ∧ ∃ left, LeftOver left ∧ live = left + ringOwned (ringInit ok : RingBuffer β)

theorem wf_ringInit (ok : ℕ → Bool) : (ringInit ok : RingBuffer β).Wf :=
  RingBuffer.Reachable.wf ⟨ok, [], rfl⟩

/-- **A process that can create its capture thread.** -/
theorem holds_main (ok : ℕ → Bool) (turns : List (List (RingOp β))) :
    Holds 0 (main ok true turns) (Ends β ok) := by
  rw [main]
  refine (RingMemory.holds_ringInit ok).bind ?_
  rintro _ _ ⟨rfl, rfl⟩
  rw [add_zero]
  refine (holds_dbEncoderInit dbCodecHevc).bind ?_
  rintro ⟨ready, enc⟩ live henc
  cases ready with
  | false =>
    rcases henc with rfl | rfl
    · exact holds_pure.2 (.inr ⟨rfl, 0, .inl rfl, (zero_add _).symm⟩)
    · exact holds_pure.2 (.inr ⟨rfl, {.vaDisplay}, .inr (.inl rfl), rfl⟩)
  | true =>
    obtain ⟨rfl, rfl⟩ := henc
    refine holds_dbCaptureInit.bind ?_
    rintro cap live (⟨rfl, rfl⟩ | ⟨rfl, hleft⟩)
    · refine holds_dbStreamerInit.bind ?_
      rintro streamer live hstreamer
      cases streamer with
      | true =>
        obtain rfl : live = _ := hstreamer
        exact (holds_components turns (wf_ringInit ok)).mono fun _ _ h => .inl h
      | false =>
        obtain rfl : live = _ := hstreamer
        refine holds_dbCaptureDestroy.bind ?_
        rintro ⟨⟩ _ rfl
        refine holds_dbEncoderDestroy.bind ?_
        rintro ⟨⟩ _ rfl
        exact holds_pure.2 (.inr ⟨rfl, 0, .inl rfl, (zero_add _).symm⟩)
    · have hform : ∃ left, LeftOver left ∧
          live = encoderOwned + (left + ringOwned (ringInit ok : RingBuffer β)) := by
        rcases hleft with rfl | rfl
        · exact ⟨0, .inl rfl, by rw [zero_add]; rfl⟩
        · exact ⟨{.dbus}, .inr (.inr rfl), by rw [add_left_comm, Multiset.singleton_add]; rfl⟩
      obtain ⟨left, hleftOver, rfl⟩ := hform
      refine holds_dbEncoderDestroy.bind ?_
      rintro ⟨⟩ _ rfl
      exact holds_pure.2 (.inr ⟨rfl, left, hleftOver, rfl⟩)

/-- One part of a process in which nothing fails, and which does not create the capture
thread. -/
theorem notMem_of_holds_bind {γ δ : Type} {p : Owner γ} {f : γ → Owner δ}
    {Q : δ → Multiset SenderResource → Prop} (h : Holds live (p >>= f) Q)
    (hlive : SenderResource.captureThread ∉ live) {r : γ}
    (hresult : (p.run Call.succeed).2 = r)
    (hopened : .opened .captureThread ∉ (p.run Call.succeed).1.flatMap ops) :
    ∃ live', SenderResource.captureThread ∉ live' ∧ Holds live' (f r) Q := by
  subst hresult
  exact ⟨_, fun hmem => (Handles.mem_after hmem).elim hlive hopened, (holds_bind.1 h).succeed⟩

/-- **A process that cannot create its capture thread** joins one that there is none of. -/
theorem not_holds_main (ok : ℕ → Bool) (turns : List (List (RingOp β))) :
    ¬ Holds 0 (main ok false turns) (Ends β ok) := by
  intro h
  have hinit : Holds 0 (RingMemory.ringInit slotBuffer ok) fun rb live' =>
    rb = (ringInit ok : RingBuffer β) ∧ live' = ringOwned rb + 0 := RingMemory.holds_ringInit ok
  obtain ⟨hring, hbuffers⟩ := hinit.succeed
  have hnone : SenderResource.captureThread ∉ ringOwned (ringInit ok : RingBuffer β) + 0 := by
    simp only [ringOwned, RingMemory.owned, RingMemory.slotOwned, ownedIf, add_zero,
      Multiset.mem_sum, not_exists, not_and]
    intro slot _
    split <;> simp
  have h := (holds_bind.1 h).succeed
  rw [hbuffers, hring] at h
  obtain ⟨_, hnone, h⟩ := notMem_of_holds_bind h hnone rfl (by decide)
  obtain ⟨_, hnone, h⟩ := notMem_of_holds_bind h hnone rfl (by decide)
  obtain ⟨_, hnone, h⟩ := notMem_of_holds_bind h hnone rfl (by decide)
  obtain ⟨_, hnone, h⟩ := notMem_of_holds_bind h hnone rfl (by decide)
  obtain ⟨_, hnone, h⟩ := notMem_of_holds_bind h hnone rfl (by decide)
  exact hnone (holds_release.1 (holds_bind.1 (holds_bind.1 h))).2.1

end Lifecycle

open Resources

end DisplayBridge
