import DisplayBridge.Lib.Handles
import DisplayBridge.Lib.Inevitable

/-!
# Threads and their end

The sender process has three threads and a signal handler. The main thread creates the
other two, accepts receivers and streams while `g_running` is set, and then stops both
threads, waits for them (`pthread_join`) and destroys what they have worked with. The
capture thread runs PipeWire's loop until it is told to quit; the input thread runs
`db_input_start` while `running` is set. The handler of SIGINT and SIGTERM clears
`g_running` and stops both. Any thread may take a signal, and the libraries have threads
of their own, so the steps of the handlers come between the steps of all others.

Two questions are asked of every interleaving.

* **Nothing is used once it is destroyed**, and in the end everything is destroyed once
  (`DisplayBridge.shutdown_safe`) – unless a handler is still to act when its object is
  gone: `main` does not clear `g_capture` and `g_input`, so a late signal uses what
  they point to (`DisplayBridge.shutdown_late_signal`).
* **The process ends** (`DisplayBridge.shutdown_ends_iff`). What decides is what the two
  threads have done when `main` stops them for the last time, three of its own steps at
  most after a signal (`DisplayBridge.cleanup_of_signal`). `db_input_start` sets `running`
  itself, so a stop that comes before it is lost, and `main` then waits for a thread that
  waits for datagrams (`DisplayBridge.shutdown_lost_stop`). PipeWire's loop may lose an
  early quit in the same way; whether it does (`remembers`) is not in this repository.

The model starts when everything that `main` initialises is there; the input handler and
the discovery are optional. It leaves out `running` of the capture, which nothing reads.
-/

namespace DisplayBridge

open Handles Runs

/-! ### The process -/

/-- Where `main` is. -/
inductive MainStage
  /-- Before `pthread_create` of the capture thread. -/
  | createCapture
  | createInput
  /-- At the head of the main loop. -/
  | accept
  /-- In `db_streamer_accept`. -/
  | accepting
  /-- After it has failed. -/
  | retry
  /-- At the head of the stream loop. -/
  | stream
  /-- In the body of the stream loop. -/
  | turn
  /-- At the label `cleanup`. -/
  | stopCapture
  | stopInput
  | joinCapture
  | joinInput
  | destroyDiscovery
  | destroyInput
  | destroyStreamer
  | destroyCapture
  | destroyEncoder
  | destroyRing
  | returned
deriving DecidableEq

/-- Where the capture thread is. -/
inductive CaptureThread
  | notCreated
  /-- Before `pw_main_loop_run`. -/
  | created
  /-- In `pw_main_loop_run`. -/
  | looping
  | exited
deriving DecidableEq

/-- Where the input thread is, in `db_input_start`. -/
inductive InputThread
  | notCreated
  /-- Before `running` is set. -/
  | created
  /-- At the head of the event loop. -/
  | head
  /-- In `recv`. -/
  | receiving
  | exited
deriving DecidableEq

/-- What `main` has initialised. -/
inductive ProcessObject
  | discovery
  | input
  | streamer
  | capture
  | encoder
  | ring
deriving DecidableEq

/-- The sender process. -/
structure Process where
  hasDiscovery : Bool
  /-- `g_input` is not null. -/
  hasInput : Bool
  gRunning : Bool
  main : MainStage
  capture : CaptureThread
  /-- PipeWire's loop was told to quit. -/
  quit : Bool
  input : InputThread
  /-- `running` of the input handler. -/
  running : Bool
  /-- Signal handlers before their `db_capture_stop`. -/
  atCapture : ℕ
  /-- Signal handlers before their `db_input_stop`. -/
  atInput : ℕ
deriving DecidableEq

/-- Everything is initialised, and no thread created. -/
def Process.start (hasDiscovery hasInput : Bool) : Process where
  hasDiscovery := hasDiscovery
  hasInput := hasInput
  gRunning := true
  main := .createCapture
  capture := .notCreated
  quit := false
  input := .notCreated
  running := false
  atCapture := 0
  atInput := 0

/-- What happens in PipeWire's loop. -/
inductive CaptureAnswer
  /-- A frame, given to `on_frame_captured`. -/
  | frame
  /-- The stream's state is an error, and `on_stream_state_changed` ends the loop. -/
  | error
deriving DecidableEq

/-- What `recv` answers. -/
inductive RecvAnswer
  /-- A datagram that `handle_input_event` is given. -/
  | event
  /-- Another datagram, the timeout or an interrupted call. -/
  | again
  /-- Any other error. -/
  | error
deriving DecidableEq

/-- A step of a thread, with what the call it waits for has answered, or of a handler. -/
inductive ProcessEvent
  | main (ok : Bool)
  | capture (ans : CaptureAnswer)
  | input (ans : RecvAnswer)
  /-- A handler starts, and clears `g_running`. -/
  | signal
  | handlerCapture
  | handlerInput
deriving DecidableEq

/-! ### The steps -/

/-- `db_capture_stop`. -/
def Process.dbCaptureStop (p : Process) : Process := { p with quit := true }

/-- `db_input_stop`, if there is an input handler. -/
def Process.dbInputStop (p : Process) : Process :=
  { p with running := if p.hasInput then false else p.running }

/-- `main`; a thread that was not created cannot be joined. -/
def Process.mainStep (p : Process) (ok : Bool) : Option Process :=
  match p.main with
  | .createCapture =>
    if ok then some { p with capture := .created, main := .createInput }
    else some { p with main := .stopCapture }
  | .createInput =>
    if p.hasInput && ok then some { p with input := .created, main := .accept }
    else some { p with main := .accept }
  | .accept => some { p with main := if p.gRunning then .accepting else .stopCapture }
  | .accepting => some { p with main := if ok then .stream else .retry }
  | .retry => some { p with main := if p.gRunning then .accept else .stopCapture }
  | .stream => some { p with main := if p.gRunning && ok then .turn else .accept }
  | .turn => some { p with main := if ok then .stream else .accept }
  | .stopCapture => some { p.dbCaptureStop with main := .stopInput }
  | .stopInput => some { p.dbInputStop with main := .joinCapture }
  | .joinCapture => if p.capture = .exited then some { p with main := .joinInput } else none
  | .joinInput =>
    if p.input = .notCreated ∨ p.input = .exited then some { p with main := .destroyDiscovery }
    else none
  | .destroyDiscovery => some { p with main := .destroyInput }
  | .destroyInput => some { p with main := .destroyStreamer }
  | .destroyStreamer => some { p with main := .destroyCapture }
  | .destroyCapture => some { p with main := .destroyEncoder }
  | .destroyEncoder => some { p with main := .destroyRing }
  | .destroyRing => some { p with main := .returned }
  | .returned => none

/-- `capture_thread`; whether a quit is kept that comes before the loop runs is up to
PipeWire. -/
def Process.captureStep (remembers : Bool) (p : Process) (ans : CaptureAnswer) :
    Option Process :=
  match p.capture with
  | .notCreated | .exited => none
  | .created => some { p with capture := .looping, quit := p.quit && remembers }
  | .looping =>
    if p.quit then some { p with capture := .exited }
    else
      match ans with
      | .frame => some p
      | .error => some { p with quit := true }

/-- `input_thread`. -/
def Process.inputStep (p : Process) (ans : RecvAnswer) : Option Process :=
  match p.input with
  | .notCreated | .exited => none
  | .created => some { p with input := .head, running := true }
  | .head => some { p with input := if p.running then .receiving else .exited }
  | .receiving => some { p with input := if ans = .error then .exited else .head }

/-- A step of the process. -/
def Process.step (remembers : Bool) (p : Process) : ProcessEvent → Option Process
  | .main ok => p.mainStep ok
  | .capture ans => p.captureStep remembers ans
  | .input ans => p.inputStep ans
  | .signal => some { p with gRunning := false, atCapture := p.atCapture + 1 }
  | .handlerCapture =>
    if 0 < p.atCapture then
      some { p.dbCaptureStop with atCapture := p.atCapture - 1, atInput := p.atInput + 1 }
    else none
  | .handlerInput =>
    if 0 < p.atInput then some { p.dbInputStop with atInput := p.atInput - 1 } else none

/-! ### What is done to the objects -/

/-- The objects from the input handler on. -/
def Process.withoutDiscovery (p : Process) : List ProcessObject :=
  (if p.hasInput then [.input] else []) ++ [.streamer, .capture, .encoder, .ring]

/-- All that was initialised. -/
def Process.objects (p : Process) : List ProcessObject :=
  (if p.hasDiscovery then [.discovery] else []) ++ p.withoutDiscovery

/-- The objects that are there, the next one to be destroyed first. -/
def Process.live (p : Process) : List ProcessObject :=
  match p.main with
  | .returned => []
  | .destroyRing => [.ring]
  | .destroyEncoder => [.encoder, .ring]
  | .destroyCapture => [.capture, .encoder, .ring]
  | .destroyStreamer => [.streamer, .capture, .encoder, .ring]
  | .destroyInput => p.withoutDiscovery
  | _ => p.objects

/-- What a step uses. -/
def Process.uses (p : Process) : ProcessEvent → List ProcessObject
  | .main ok =>
    match p.main with
    | .accepting => .streamer :: if ok then [.ring, .encoder] else []
    | .stream => if p.gRunning then [.streamer] else []
    | .turn => [.ring, .streamer, .encoder]
    | .stopCapture => [.capture]
    | .stopInput => if p.hasInput then [.input] else []
    | _ => []
  | .capture ans =>
    match p.capture with
    | .notCreated | .exited => []
    | .created => [.capture]
    | .looping => .capture :: if !p.quit && ans = .frame then [.encoder, .ring] else []
  | .input _ =>
    match p.input with
    | .notCreated | .exited => []
    | .created | .head | .receiving => [.input]
  | .signal => []
  | .handlerCapture => [.capture]
  | .handlerInput => if p.hasInput then [.input] else []

/-- What a step destroys. -/
def Process.destroys (p : Process) : ProcessEvent → List ProcessObject
  | .main _ =>
    match p.main with
    | .destroyDiscovery => if p.hasDiscovery then [.discovery] else []
    | .destroyInput => if p.hasInput then [.input] else []
    | .destroyStreamer => [.streamer]
    | .destroyCapture => [.capture]
    | .destroyEncoder => [.encoder]
    | .destroyRing => [.ring]
    | _ => []
  | _ => []

/-- What a step does to the objects. -/
def Process.ops (p : Process) (e : ProcessEvent) : List (Op ProcessObject) :=
  (p.uses e).map .used ++ (p.destroys e).map .closed

/-- The process, with a history of what was done to the objects. -/
def Process.logged (remembers : Bool) (s : Process × List (Op ProcessObject))
    (e : ProcessEvent) : Option (Process × List (Op ProcessObject)) :=
  (s.1.step remembers e).map fun p => (p, s.2 ++ s.1.ops e)

/-- A handler acts while its object is there. -/
def Process.InTime (p : Process) : ProcessEvent → Prop
  | .handlerCapture => .capture ∈ p.live
  | .handlerInput => p.hasInput = true → .input ∈ p.live
  | _ => True

instance (p : Process) : (e : ProcessEvent) → Decidable (p.InTime e)
  | .handlerCapture => inferInstanceAs (Decidable (_ ∈ _))
  | .handlerInput => inferInstanceAs (Decidable (_ → _))
  | .main _ | .capture _ | .input _ | .signal => inferInstanceAs (Decidable True)

/-! ### Nothing is used once it is destroyed -/

/-- `main` has joined the capture thread. -/
def MainStage.captureJoined : MainStage → Bool
  | .joinInput | .destroyDiscovery | .destroyInput | .destroyStreamer | .destroyCapture
  | .destroyEncoder | .destroyRing | .returned => true
  | _ => false

/-- `main` has joined the input thread. -/
def MainStage.inputJoined : MainStage → Bool
  | .joinInput => false
  | m => m.captureJoined

/-- **The invariant of the threads**: a thread that was joined is over, and there is an
input thread only if there is an input handler. -/
structure Process.Joined (p : Process) : Prop where
  capture : p.main.captureJoined = true → p.capture = .exited
  input : p.main.inputJoined = true → p.input = .notCreated ∨ p.input = .exited
  noInput : p.hasInput = false → p.input = .notCreated

variable {remembers ok hasDiscovery hasInput : Bool} {p q : Process} {e : ProcessEvent}
  {es : List ProcessEvent} {l : List (Op ProcessObject)}

theorem MainStage.captureJoined_of_inputJoined {m : MainStage} (h : m.inputJoined = true) :
    m.captureJoined = true := by
  cases m <;> first | rfl | cases h

/-- Before the joins there is little to say. -/
theorem Process.Joined.of_before (hmain : p.main.captureJoined = false)
    (hnone : p.hasInput = false → p.input = .notCreated) : p.Joined where
  capture h := absurd h (by simp [hmain])
  input h := absurd (MainStage.captureJoined_of_inputJoined h) (by simp [hmain])
  noInput := hnone

theorem Process.Joined.start : (Process.start hasDiscovery hasInput).Joined :=
  .of_before rfl fun _ => rfl

theorem Process.Joined.mainStep (h : p.Joined) (hs : p.mainStep ok = some q) : q.Joined := by
  obtain ⟨hcapture, hinput, hnone⟩ := h
  revert hs
  rw [Process.mainStep]
  cases hm : p.main
  case createCapture =>
    cases ok
    all_goals
      rintro ⟨⟩
      exact .of_before rfl hnone
  case createInput =>
    cases hboth : p.hasInput && ok
    all_goals rintro ⟨⟩
    · exact .of_before rfl hnone
    · refine .of_before rfl fun hno => ?_
      have hno : p.hasInput = false := hno
      rw [hno] at hboth
      cases hboth
  case joinCapture =>
    intro hs
    obtain ⟨hexited, hq⟩ := Option.ite_none_right_eq_some.1 hs
    cases hq
    exact ⟨fun _ => hexited, fun h => absurd h Bool.false_ne_true, hnone⟩
  case joinInput =>
    intro hs
    obtain ⟨hover, hq⟩ := Option.ite_none_right_eq_some.1 hs
    cases hq
    exact ⟨fun _ => hcapture (by rw [hm]; rfl), fun _ => hover, hnone⟩
  case accept | retry | accepting | stream | turn =>
    rintro ⟨⟩
    refine .of_before ?_ hnone
    dsimp only
    split
    all_goals rfl
  case returned =>
    intro hs
    cases hs
  case stopCapture | stopInput =>
    rintro ⟨⟩
    exact .of_before rfl hnone
  all_goals
    rintro ⟨⟩
    exact ⟨fun _ => hcapture (by rw [hm]; rfl), fun _ => hinput (by rw [hm]; rfl), hnone⟩

/-- A step of the capture thread: it is not over, and only its own state changes. -/
theorem Process.captureStep_spec {ans : CaptureAnswer}
    (hs : p.captureStep remembers ans = some q) :
    p.capture ≠ .notCreated ∧ p.capture ≠ .exited ∧
      q = { p with capture := q.capture, quit := q.quit } := by
  revert hs
  rw [Process.captureStep.eq_def]
  cases hc : p.capture
  case notCreated | exited =>
    intro hs
    cases hs
  case created =>
    rintro ⟨⟩
    exact ⟨by decide, by decide, rfl⟩
  case looping =>
    intro hs
    refine ⟨by decide, by decide, ?_⟩
    dsimp only at hs
    split at hs
    · cases hs
      rfl
    · cases ans
      all_goals
        cases hs
        rfl

/-- A step of the input thread: it is not over, and only its own state changes. -/
theorem Process.inputStep_spec {ans : RecvAnswer} (hs : p.inputStep ans = some q) :
    p.input ≠ .notCreated ∧ p.input ≠ .exited ∧
      q = { p with input := q.input, running := q.running } := by
  revert hs
  rw [Process.inputStep]
  cases hi : p.input
  case notCreated | exited =>
    intro hs
    cases hs
  all_goals
    rintro ⟨⟩
    exact ⟨by decide, by decide, rfl⟩

theorem Process.Joined.step (h : p.Joined) (hs : p.step remembers e = some q) : q.Joined := by
  obtain ⟨hcapture, hinput, hnone⟩ := h
  cases e with
  | main ok => exact Process.Joined.mainStep ⟨hcapture, hinput, hnone⟩ hs
  | capture ans =>
    obtain ⟨-, hlive, hq⟩ := Process.captureStep_spec hs
    rw [hq]
    exact ⟨fun hm => absurd (hcapture hm) hlive, hinput, hnone⟩
  | input ans =>
    obtain ⟨hthere, hlive, hq⟩ := Process.inputStep_spec hs
    rw [hq]
    refine ⟨hcapture, fun hm => ?_, fun hno => absurd (hnone hno) hthere⟩
    rcases hinput hm with hno | hexited
    · exact absurd hno hthere
    · exact absurd hexited hlive
  | signal =>
    cases hs
    exact ⟨hcapture, hinput, hnone⟩
  | handlerCapture =>
    obtain ⟨-, hq⟩ := Option.ite_none_right_eq_some.1 hs
    cases hq
    exact ⟨hcapture, hinput, hnone⟩
  | handlerInput =>
    obtain ⟨-, hq⟩ := Option.ite_none_right_eq_some.1 hs
    cases hq
    exact ⟨hcapture, hinput, hnone⟩

/-- A history in which objects are only used. -/
theorem sound_map_used {live : Multiset ProcessObject} {l : List ProcessObject} :
    (Sound live (l.map .used) ↔ ∀ a ∈ l, a ∈ live) ∧ after live (l.map .used) = live := by
  induction l with
  | nil => simp
  | cons a l ih =>
    rw [List.map_cons, sound_used, after_used, ih.1, List.forall_mem_cons]
    exact ⟨Iff.rfl, ih.2⟩

/-- A history in which the first objects are destroyed. -/
theorem sound_map_closed {l l' : List ProcessObject} :
    Sound (↑(l ++ l')) (l.map .closed) ∧ after (↑(l ++ l')) (l.map .closed) = ↑l' := by
  induction l with
  | nil => exact ⟨trivial, rfl⟩
  | cons a l ih =>
    have herase : (↑(a :: (l ++ l')) : Multiset ProcessObject).erase a = ↑(l ++ l') :=
      Multiset.erase_cons_head a ↑(l ++ l')
    rw [List.map_cons, List.cons_append, sound_closed, after_closed, herase]
    exact ⟨⟨List.mem_cons_self, ih.1⟩, ih.2⟩

/-- What `main` destroys is the next to go. -/
theorem Process.live_mainStep (hs : p.mainStep ok = some q) :
    p.live = p.destroys (.main ok) ++ q.live := by
  revert hs
  rw [Process.mainStep, Process.destroys, Process.live]
  cases hm : p.main
  case createCapture | createInput =>
    dsimp only
    split
    all_goals
      rintro ⟨⟩
      rfl
  case joinCapture | joinInput =>
    intro hs
    obtain ⟨-, hq⟩ := Option.ite_none_right_eq_some.1 hs
    cases hq
    rfl
  case accept | retry =>
    rintro ⟨⟩
    cases p.gRunning
    all_goals rfl
  case stream =>
    rintro ⟨⟩
    cases p.gRunning && ok
    all_goals rfl
  case accepting | turn =>
    rintro ⟨⟩
    cases ok
    all_goals rfl
  case returned =>
    intro hs
    cases hs
  all_goals
    rintro ⟨⟩
    rfl

/-- The objects a thread other than `main` sees. -/
theorem Process.live_of_not_joined (hmain : p.main.inputJoined = false) :
    p.live = p.objects := by
  rw [Process.live]
  cases hm : p.main
  all_goals first | rfl | simp [hm, MainStage.inputJoined, MainStage.captureJoined] at hmain

theorem Process.mem_objects {a : ProcessObject}
    (ha : a ∈ [ProcessObject.streamer, .capture, .encoder, .ring]) : a ∈ p.objects :=
  List.mem_append_right _ (List.mem_append_right _ ha)

theorem Process.input_mem_objects (h : p.hasInput = true) : .input ∈ p.objects := by
  refine List.mem_append_right _ (List.mem_append_left _ ?_)
  rw [h]
  exact List.mem_singleton_self _

theorem Process.main_uses_live : ∀ a ∈ p.uses (.main ok), a ∈ p.live := by
  intro a ha
  rw [Process.uses] at ha
  cases hm : p.main
  case accepting =>
    rw [Process.live_of_not_joined (by rw [hm]; rfl)]
    refine Process.mem_objects ?_
    cases ok
    all_goals
      simp only [hm] at ha
      revert a
      decide
  case stream =>
    rw [Process.live_of_not_joined (by rw [hm]; rfl)]
    refine Process.mem_objects ?_
    simp only [hm] at ha
    cases hg : p.gRunning
    all_goals
      rw [hg] at ha
      revert a
      decide
  case turn | stopCapture =>
    rw [Process.live_of_not_joined (by rw [hm]; rfl)]
    refine Process.mem_objects ?_
    simp only [hm] at ha
    revert a
    decide
  case stopInput =>
    rw [Process.live_of_not_joined (by rw [hm]; rfl)]
    simp only [hm] at ha
    cases hi : p.hasInput
    all_goals rw [hi] at ha
    · exact absurd ha List.not_mem_nil
    · obtain rfl := List.mem_singleton.1 ha
      exact Process.input_mem_objects hi
  all_goals
    simp only [hm] at ha
    exact absurd ha List.not_mem_nil

theorem Process.Joined.capture_uses_live {ans : CaptureAnswer} (h : p.Joined)
    (hs : p.captureStep remembers ans = some q) : ∀ a ∈ p.uses (.capture ans), a ∈ p.live := by
  obtain ⟨-, hlive, -⟩ := Process.captureStep_spec hs
  have hmain : p.main.inputJoined = false := by
    by_contra hjoined
    rw [Bool.not_eq_false] at hjoined
    exact hlive (h.capture (MainStage.captureJoined_of_inputJoined hjoined))
  intro a ha
  rw [Process.live_of_not_joined hmain]
  refine Process.mem_objects ?_
  rw [Process.uses] at ha
  cases hc : p.capture
  all_goals simp only [hc] at ha
  case looping =>
    cases hmore : !p.quit && decide (ans = .frame)
    all_goals
      rw [hmore] at ha
      revert a
      decide
  all_goals
    revert a
    decide

theorem Process.Joined.input_uses_live {ans : RecvAnswer} (h : p.Joined)
    (hs : p.inputStep ans = some q) : ∀ a ∈ p.uses (.input ans), a ∈ p.live := by
  obtain ⟨hthere, hlive, -⟩ := Process.inputStep_spec hs
  have hmain : p.main.inputJoined = false := by
    by_contra hjoined
    rw [Bool.not_eq_false] at hjoined
    rcases h.input hjoined with hno | hexited
    · exact hthere hno
    · exact hlive hexited
  have hinput : p.hasInput = true := by
    by_contra hno
    exact hthere (h.noInput (Bool.eq_false_iff.2 hno))
  intro a ha
  rw [Process.live_of_not_joined hmain]
  have ha : a = .input := by
    rw [Process.uses] at ha
    cases hi : p.input
    all_goals
      simp only [hi] at ha
      revert a
      decide
  rw [ha]
  exact Process.input_mem_objects hinput

/-- **What the threads use is there**; only a handler may come too late. -/
theorem Process.Joined.uses_live (h : p.Joined) (hs : p.step remembers e = some q) :
    (∀ a ∈ p.uses e, a ∈ p.live) ↔ p.InTime e := by
  cases e with
  | main ok => exact iff_of_true Process.main_uses_live trivial
  | capture ans => exact iff_of_true (h.capture_uses_live hs) trivial
  | input ans => exact iff_of_true (h.input_uses_live hs) trivial
  | signal => simp [Process.uses, Process.InTime]
  | handlerCapture => simp [Process.uses, Process.InTime]
  | handlerInput =>
    cases hi : p.hasInput
    all_goals simp [Process.uses, Process.InTime, hi]

/-- What is there, before a step and after it. -/
theorem Process.live_step (hs : p.step remembers e = some q) :
    p.live = p.destroys e ++ q.live := by
  cases e with
  | main ok => exact Process.live_mainStep hs
  | capture ans =>
    obtain ⟨-, -, hq⟩ := Process.captureStep_spec hs
    rw [hq]
    rfl
  | input ans =>
    obtain ⟨-, -, hq⟩ := Process.inputStep_spec hs
    rw [hq]
    rfl
  | signal =>
    cases hs
    rfl
  | handlerCapture | handlerInput =>
    obtain ⟨-, hq⟩ := Option.ite_none_right_eq_some.1 hs
    cases hq
    rfl

/-- **One step**: what it does to the objects is sound if a handler is in time. -/
theorem Process.Joined.ops_spec (h : p.Joined) (hs : p.step remembers e = some q) :
    (Sound (↑p.live) (p.ops e) ↔ p.InTime e) ∧ after (↑p.live) (p.ops e) = ↑q.live := by
  have huses : Sound (↑p.live) ((p.uses e).map .used) ↔ p.InTime e :=
    sound_map_used.1.trans (h.uses_live hs)
  rw [Process.ops, sound_append, after_append, sound_map_used.2, huses, Process.live_step hs]
  exact ⟨and_iff_left sound_map_closed.1, sound_map_closed.2⟩

/-! ### Whole runs -/

/-- **The invariant of a run**: the threads that were joined are over, and what the
history leaves open is what is there. -/
structure Process.Logged (p₀ : Process) (s : Process × List (Op ProcessObject)) : Prop where
  joined : s.1.Joined
  after : after (↑p₀.live) s.2 = ↑s.1.live
  opens : ∀ a, opens a s.2 = 0

theorem Process.opens_ops (a : ProcessObject) : opens a (p.ops e) = 0 := by
  rw [opens, List.count_eq_zero, Process.ops]
  simp

theorem Process.Logged.step {p₀ : Process} {s s' : Process × List (Op ProcessObject)}
    (h : Process.Logged p₀ s) (hs : Process.logged remembers s e = some s') :
    Process.Logged p₀ s' ∧ s.1.step remembers e = some s'.1 ∧ s'.2 = s.2 ++ s.1.ops e := by
  obtain ⟨p, hp, hs'⟩ := Option.map_eq_some_iff.1 hs
  subst hs'
  refine ⟨⟨h.joined.step hp, ?_, fun a => ?_⟩, hp, rfl⟩
  · rw [after_append, h.after]
    exact (h.joined.ops_spec hp).2
  · rw [Handles.opens, List.count_append]
    exact Nat.add_eq_zero_iff.2 ⟨h.opens a, Process.opens_ops a⟩

section Run

variable {p₀ : Process} {s : Process × List (Op ProcessObject)}

theorem Process.Logged.start (h : p₀.Joined) : Process.Logged p₀ (p₀, []) where
  joined := h
  after := rfl
  opens _ := rfl

theorem Process.Logged.of_run {good : Process × List (Op ProcessObject) → ProcessEvent → Prop}
    (h : p₀.Joined) (hrun : Run (Process.logged remembers) good (p₀, []) es s) :
    Process.Logged p₀ s :=
  hrun.invariant (.start h) fun _ _ _ hlogged _ hs => (hlogged.step hs).1

/-- In a run whose handlers are in time, everything is used while it is there. -/
theorem Process.sound_of_inTime (h : p₀.Joined)
    (hrun : Run (Process.logged remembers) (fun s e => s.1.InTime e) (p₀, []) es s) :
    Sound (↑p₀.live) s.2 := by
  induction hrun with
  | start => trivial
  | snoc hbefore hin hs ih =>
    have hlogged := Process.Logged.of_run h hbefore
    obtain ⟨-, hstep, hops⟩ := hlogged.step hs
    rw [hops, sound_append, hlogged.after]
    exact ⟨ih, (hlogged.joined.ops_spec hstep).1.2 hin⟩

/-- In a run that uses everything while it is there, the handlers are in time. -/
theorem Process.inTime_of_sound (h : p₀.Joined)
    (hrun : Run (Process.logged remembers) (fun _ _ => True) (p₀, []) es s)
    (hsound : Sound (↑p₀.live) s.2) :
    Run (Process.logged remembers) (fun s e => s.1.InTime e) (p₀, []) es s := by
  induction hrun with
  | start => exact .start
  | snoc hbefore _ hs ih =>
    have hlogged := Process.Logged.of_run h hbefore
    obtain ⟨-, hstep, hops⟩ := hlogged.step hs
    rw [hops, sound_append, hlogged.after] at hsound
    exact .snoc (ih hsound.1) ((hlogged.joined.ops_spec hstep).1.1 hsound.2) hs

end Run

/-- **Nothing is used once it is destroyed.** In every interleaving of the three threads and
the signal handlers, the objects are used and destroyed while they are there if and only
if every handler acts while its object is there. In such a run, once `main` has returned
every object was destroyed exactly once. -/
theorem shutdown_safe (remembers hasDiscovery hasInput : Bool) {es : List ProcessEvent}
    {p : Process} {l : List (Op ProcessObject)}
    (hrun : Run (Process.logged remembers) (fun _ _ => True)
      (Process.start hasDiscovery hasInput, []) es (p, l)) :
    (Sound (↑(Process.start hasDiscovery hasInput).objects) l ↔
      Run (Process.logged remembers) (fun s e => s.1.InTime e)
        (Process.start hasDiscovery hasInput, []) es (p, l)) ∧
    (Sound (↑(Process.start hasDiscovery hasInput).objects) l → p.main = .returned →
      ∀ a, closes a l = (Process.start hasDiscovery hasInput).objects.count a) := by
  have hstart := @Process.Joined.start hasDiscovery hasInput
  have hlogged := Process.Logged.of_run hstart hrun
  refine ⟨⟨Process.inTime_of_sound hstart hrun, Process.sound_of_inTime hstart⟩, ?_⟩
  intro hsound hreturned a
  have hend : after (↑(Process.start hasDiscovery hasInput).live) l = 0 := by
    rw [hlogged.after, Process.live, hreturned]
    rfl
  rw [closes_eq hsound hend a, hlogged.opens a]
  exact Multiset.coe_count a _

/-- A run that ends with a signal, up to the last `pthread_join`. -/
def shutdownEvents : List ProcessEvent :=
  [.main true, .main true, .capture .frame, .capture .frame, .input .again, .input .again,
    .signal, .handlerCapture, .handlerInput, .main true, .main true, .main true,
    .capture .frame, .main true, .input .again, .input .again, .main true]

/-- The six `destroy` calls and the `return`. -/
def destroyEvents : List ProcessEvent := List.replicate 6 (.main true)

/-- Where these lead, and what is done to the objects. -/
def shutdownRun : Process × List (Op ProcessObject) :=
  (exec (Process.logged true) (fun s e => s.1.InTime e) (Process.start true true, [])
    (shutdownEvents ++ destroyEvents)).get (by decide)

theorem shutdown_safe_witness :
    shutdownRun.1.main = .returned ∧
      Sound (↑(Process.start true true).objects) shutdownRun.2 ∧
      ∀ a, closes a shutdownRun.2 = (Process.start true true).objects.count a := by
  have hrun : Run (Process.logged true) (fun s e => s.1.InTime e) (Process.start true true, [])
      (shutdownEvents ++ destroyEvents) shutdownRun := run_get (by decide)
  have hall : Run (Process.logged true) (fun _ _ => True) (Process.start true true, [])
      (shutdownEvents ++ destroyEvents) shutdownRun := hrun.mono fun _ _ _ => trivial
  have hsafe := shutdown_safe true true true hall
  exact ⟨by decide, hsafe.1.2 hrun, hsafe.2 (hsafe.1.2 hrun) (by decide)⟩

/-- A second signal, once `main` has destroyed the capture: its handler uses it. -/
theorem shutdown_late_signal :
    let s := (exec (Process.logged true) (fun _ _ => True) (Process.start true true, [])
      (shutdownEvents ++ destroyEvents ++ [.signal, .handlerCapture])).get (by decide)
    ¬ Sound (↑(Process.start true true).objects) s.2 := by
  intro s hsound
  have hused : s.2 = shutdownRun.2 ++ [.used .capture] := by decide
  have hend : after (↑(Process.start true true).objects) shutdownRun.2 = 0 := by decide
  rw [hused, sound_append, hend, sound_used] at hsound
  exact absurd hsound.2.1 (Multiset.notMem_zero _)

/-! ### The process ends -/

/-- What happens without another signal, a failed `recv` or an error of the stream. -/
def ProcessEvent.Quiet : ProcessEvent → Prop
  | .main _ => True
  | .capture ans => ans ≠ .error
  | .input ans => ans ≠ .error
  | .signal | .handlerCapture | .handlerInput => False

/-- **The process ends**: however its threads are scheduled, `main` returns. -/
def Process.Ends (remembers : Bool) (p : Process) : Prop :=
  Inevitable (Process.step remembers) (fun _ e => e.Quiet) (fun _ _ => True)
    (fun p => p.main = .returned) p

/-- The capture thread will leave PipeWire's loop. -/
def Process.CaptureHeeds (remembers : Bool) (p : Process) : Prop :=
  p.capture = .exited ∨
    p.quit = true ∧ (p.capture = .looping ∨ p.capture = .created ∧ remembers = true)

/-- The input thread will leave its loop, or there is none. -/
def Process.InputHeeds (p : Process) : Prop :=
  p.input = .notCreated ∨ p.input = .exited ∨
    p.running = false ∧ (p.input = .head ∨ p.input = .receiving)

/-- How many steps `main` has left once it has stopped the threads. -/
def MainStage.stepsLeft : MainStage → ℕ
  | .returned => 0
  | .destroyRing => 1
  | .destroyEncoder => 2
  | .destroyCapture => 3
  | .destroyStreamer => 4
  | .destroyInput => 5
  | .destroyDiscovery => 6
  | .joinInput => 7
  | _ => 8

/-- How many steps the capture thread has left once it is told to quit. -/
def CaptureThread.stepsLeft : CaptureThread → ℕ
  | .notCreated | .exited => 0
  | .looping => 1
  | .created => 2

/-- How many steps the input thread has left once it is stopped. -/
def InputThread.stepsLeft : InputThread → ℕ
  | .notCreated | .created | .exited => 0
  | .head => 1
  | .receiving => 2

/-- How many steps are left. -/
def Process.stepsLeft (p : Process) : ℕ :=
  p.main.stepsLeft + p.capture.stepsLeft + p.input.stepsLeft

/-- **The invariant of the end**: `main` waits or destroys, and both threads heed the stop. -/
structure Process.Ending (remembers : Bool) (p : Process) : Prop where
  joined : p.Joined
  main : p.main = .joinCapture ∨ p.main.captureJoined = true
  capture : p.CaptureHeeds remembers
  input : p.InputHeeds

/-- Behind the stops, a step of `main` is one less. -/
theorem Process.mainStep_ending (hmain : p.main = .joinCapture ∨ p.main.captureJoined = true)
    (hs : p.mainStep ok = some q) :
    q = { p with main := q.main } ∧ q.main.captureJoined = true ∧
      q.main.stepsLeft < p.main.stepsLeft := by
  revert hs
  rw [Process.mainStep]
  cases hm : p.main
  case joinCapture | joinInput =>
    intro hs
    obtain ⟨-, hq⟩ := Option.ite_none_right_eq_some.1 hs
    cases hq
    exact ⟨rfl, rfl, Nat.lt_succ_self _⟩
  case returned =>
    intro hs
    cases hs
  case destroyDiscovery | destroyInput | destroyStreamer | destroyCapture | destroyEncoder
      | destroyRing =>
    rintro ⟨⟩
    exact ⟨rfl, rfl, Nat.lt_succ_self _⟩
  all_goals
    rw [hm] at hmain
    exact absurd hmain (by decide)

theorem Process.Ending.mainStep (h : p.Ending remembers) (hs : p.mainStep ok = some q) :
    q.Ending remembers ∧ q.stepsLeft < p.stepsLeft := by
  obtain ⟨hq, hjoined, hless⟩ := Process.mainStep_ending h.main hs
  have hending := h.joined.mainStep hs
  rw [hq] at hending ⊢
  refine ⟨⟨hending, .inr hjoined, h.capture, h.input⟩, ?_⟩
  show q.main.stepsLeft + p.capture.stepsLeft + p.input.stepsLeft < p.stepsLeft
  rw [Process.stepsLeft]
  omega

theorem Process.Ending.captureStep {ans : CaptureAnswer} (h : p.Ending remembers)
    (hs : p.captureStep remembers ans = some q) :
    q.Ending remembers ∧ q.stepsLeft < p.stepsLeft := by
  have hjoined : q.Joined := h.joined.step (e := .capture ans) hs
  have hheeds := h.capture
  revert hs hjoined
  rw [Process.captureStep.eq_def]
  rcases h.capture with hexited | ⟨hquit, hlooping | ⟨hcreated, hremembers⟩⟩
  · rw [hexited]
    intro hs
    cases hs
  · rw [hlooping]
    dsimp only
    rw [if_pos hquit]
    rintro ⟨⟩ hjoined
    refine ⟨⟨hjoined, h.main, .inl rfl, h.input⟩, ?_⟩
    rw [Process.stepsLeft, Process.stepsLeft, hlooping]
    simp [CaptureThread.stepsLeft]
  · rw [hcreated]
    rintro ⟨⟩ hjoined
    refine ⟨⟨hjoined, h.main, .inr ⟨?_, .inl rfl⟩, h.input⟩, ?_⟩
    · rw [hquit, hremembers]
      rfl
    · rw [Process.stepsLeft, Process.stepsLeft, hcreated]
      simp [CaptureThread.stepsLeft]

theorem Process.Ending.inputStep {ans : RecvAnswer} (h : p.Ending remembers)
    (hans : ans ≠ .error) (hs : p.inputStep ans = some q) :
    q.Ending remembers ∧ q.stepsLeft < p.stepsLeft := by
  have hjoined : q.Joined := @Process.Joined.step remembers _ _ (.input ans) h.joined hs
  revert hs hjoined
  rw [Process.inputStep]
  rcases h.input with hnone | hexited | ⟨hrunning, hhead | hreceiving⟩
  · rw [hnone]
    intro hs
    cases hs
  · rw [hexited]
    intro hs
    cases hs
  · rw [hhead, hrunning]
    rintro ⟨⟩ hjoined
    refine ⟨⟨hjoined, h.main, h.capture, .inr (.inl rfl)⟩, ?_⟩
    rw [Process.stepsLeft, Process.stepsLeft, hhead]
    simp [InputThread.stepsLeft]
  · rw [hreceiving]
    dsimp only
    rw [if_neg hans]
    rintro ⟨⟩ hjoined
    refine ⟨⟨hjoined, h.main, h.capture, .inr (.inr ⟨hrunning, .inl rfl⟩)⟩, ?_⟩
    rw [Process.stepsLeft, Process.stepsLeft, hreceiving]
    simp [InputThread.stepsLeft]

/-- **Every step brings the end nearer.** -/
theorem Process.Ending.step (h : p.Ending remembers) (hquiet : e.Quiet)
    (hs : p.step remembers e = some q) :
    q.Ending remembers ∧ q.stepsLeft < p.stepsLeft := by
  cases e with
  | main ok => exact h.mainStep hs
  | capture ans => exact h.captureStep hs
  | input ans => exact h.inputStep hquiet hs
  | signal | handlerCapture | handlerInput => exact absurd hquiet id

theorem Process.Ending.capture_progress (h : p.Ending remembers) (hexited : p.capture ≠ .exited) :
    ∃ q, p.captureStep remembers .frame = some q := by
  rw [Process.captureStep.eq_def]
  rcases h.capture with hex | ⟨hquit, hlooping | ⟨hcreated, -⟩⟩
  · exact absurd hex hexited
  · rw [hlooping]
    exact ⟨_, if_pos hquit⟩
  · rw [hcreated]
    exact ⟨_, rfl⟩

theorem Process.Ending.input_progress (h : p.Ending remembers)
    (hover : ¬(p.input = .notCreated ∨ p.input = .exited)) :
    ∃ q, p.inputStep .again = some q := by
  rw [Process.inputStep]
  rcases h.input with hnone | hexited | ⟨-, hhead | hreceiving⟩
  · exact absurd (.inl hnone) hover
  · exact absurd (.inr hexited) hover
  · rw [hhead]
    exact ⟨_, rfl⟩
  · rw [hreceiving]
    exact ⟨_, rfl⟩

/-- **A step is always possible**: where `main` waits for a thread, the thread can move. -/
theorem Process.Ending.progress (h : p.Ending remembers) (hmain : p.main ≠ .returned) :
    ∃ e q, e.Quiet ∧ p.step remembers e = some q := by
  by_cases hcapture : p.capture = .exited
  · by_cases hinput : p.input = .notCreated ∨ p.input = .exited
    · have hsome : ∃ q, p.mainStep true = some q := by
        rw [Process.mainStep]
        cases hm : p.main
        case joinCapture => exact ⟨_, if_pos hcapture⟩
        case joinInput => exact ⟨_, if_pos hinput⟩
        case returned => exact absurd hm hmain
        case createInput =>
          dsimp only
          split
          all_goals exact ⟨_, rfl⟩
        all_goals exact ⟨_, rfl⟩
      obtain ⟨q, hq⟩ := hsome
      exact ⟨.main true, q, trivial, hq⟩
    · obtain ⟨q, hq⟩ := h.input_progress hinput
      exact ⟨.input .again, q, show RecvAnswer.again ≠ .error by decide, hq⟩
  · obtain ⟨q, hq⟩ := h.capture_progress hcapture
    exact ⟨.capture .frame, q, show CaptureAnswer.frame ≠ .error by decide, hq⟩

theorem Process.Ending.ends (h : p.Ending remembers) : p.Ends remembers :=
  Inevitable.of_measure Process.stepsLeft
    (fun _ h hmain =>
      let ⟨e, q, hquiet, hs⟩ := h.progress hmain
      ⟨e, q, hquiet, trivial, hs⟩)
    (fun _ _ _ h _ hquiet hs => h.step hquiet hs) h

/-! ### A stop that was lost -/

/-- `main` waits for an input thread that has set `running` after its last stop, or is
still to do so. -/
structure Process.InputLost (p : Process) : Prop where
  main : p.main = .joinCapture ∨ p.main = .joinInput
  input : p.input = .created ∨ p.running = true ∧ (p.input = .head ∨ p.input = .receiving)

/-- `main` waits for a capture thread that was not created, or whose loop does not know of
the last quit. -/
structure Process.CaptureLost (remembers : Bool) (p : Process) : Prop where
  main : p.main = .joinCapture
  capture : p.capture = .notCreated ∨ p.capture = .looping ∧ p.quit = false ∨
    p.capture = .created ∧ (p.quit && remembers) = false

theorem Process.InputLost.step (h : p.InputLost) (hquiet : e.Quiet)
    (hs : p.step remembers e = some q) : q.InputLost := by
  obtain ⟨hmain, hinput⟩ := h
  cases e with
  | main ok =>
    have hs : p.mainStep ok = some q := hs
    rw [Process.mainStep] at hs
    rcases hmain with hmain | hmain
    all_goals
      rw [hmain] at hs
      obtain ⟨hover, hq⟩ := Option.ite_none_right_eq_some.1 hs
      cases hq
    · exact ⟨.inr rfl, hinput⟩
    · rcases hinput with hi | ⟨-, hi | hi⟩
      all_goals
        rw [hi] at hover
        exact absurd hover (by decide)
  | capture ans =>
    obtain ⟨-, -, hq⟩ := Process.captureStep_spec hs
    rw [hq]
    exact ⟨hmain, hinput⟩
  | input ans =>
    have hs : p.inputStep ans = some q := hs
    rw [Process.inputStep] at hs
    rcases hinput with hi | ⟨hrunning, hi | hi⟩
    all_goals
      rw [hi] at hs
      cases hs
    · exact ⟨hmain, .inr ⟨rfl, .inl rfl⟩⟩
    · exact ⟨hmain, .inr ⟨hrunning, .inr (by simp [hrunning])⟩⟩
    · exact ⟨hmain, .inr ⟨hrunning, .inl (if_neg hquiet)⟩⟩
  | signal | handlerCapture | handlerInput => exact absurd hquiet id

theorem Process.CaptureLost.step (h : p.CaptureLost remembers) (hquiet : e.Quiet)
    (hs : p.step remembers e = some q) : q.CaptureLost remembers := by
  obtain ⟨hmain, hcapture⟩ := h
  cases e with
  | main ok =>
    have hs : p.mainStep ok = some q := hs
    rw [Process.mainStep, hmain] at hs
    obtain ⟨hexited, -⟩ := Option.ite_none_right_eq_some.1 hs
    rw [hexited] at hcapture
    exact absurd hcapture (by simp)
  | capture ans =>
    have hs : p.captureStep remembers ans = some q := hs
    rw [Process.captureStep.eq_def] at hs
    rcases hcapture with hc | ⟨hc, hno⟩ | ⟨hc, hno⟩
    all_goals rw [hc] at hs
    · cases hs
    · cases ans
      · simp only [hno, Bool.false_eq_true, if_false] at hs
        cases hs
        exact ⟨hmain, .inr (.inl ⟨hc, hno⟩)⟩
      · exact absurd rfl hquiet
    · cases hs
      exact ⟨hmain, .inr (.inl ⟨rfl, hno⟩)⟩
  | input ans =>
    obtain ⟨-, -, hq⟩ := Process.inputStep_spec hs
    rw [hq]
    exact ⟨hmain, hcapture⟩
  | signal | handlerCapture | handlerInput => exact absurd hquiet id

theorem Process.InputLost.not_ends (h : p.InputLost) : ¬ p.Ends remembers := by
  refine not_inevitable (fun _ _ _ h hquiet hs => h.step hquiet hs) ?_ h
  rintro p ⟨hmain, -⟩ hreturned
  rw [hreturned] at hmain
  exact absurd hmain (by decide)

theorem Process.CaptureLost.not_ends (h : p.CaptureLost remembers) : ¬ p.Ends remembers := by
  refine not_inevitable (fun _ _ _ h hquiet hs => h.step hquiet hs) ?_ h
  rintro p ⟨hmain, -⟩ hreturned
  rw [hreturned] at hmain
  exact absurd hmain (by decide)

theorem Process.captureLost_of_not_heeds (hmain : p.main = .joinCapture)
    (h : ¬ p.CaptureHeeds remembers) : p.CaptureLost remembers := by
  refine ⟨hmain, ?_⟩
  rw [Process.CaptureHeeds] at h
  cases hc : p.capture
  all_goals
    rw [hc] at h
    revert h
    cases p.quit
    all_goals
      cases remembers
      all_goals decide

/-- **When the process ends.** In every interleaving, once `main` has stopped both threads:
without another signal or a failed `recv` it returns, whatever the schedule, if and only
if the input thread had set `running` before – or there is none – and the capture thread
knows of the quit. -/
theorem shutdown_ends_iff (remembers hasDiscovery hasInput : Bool) {es : List ProcessEvent}
    {p q : Process}
    (hrun : Run (Process.step remembers) (fun _ _ => True)
      (Process.start hasDiscovery hasInput) es p)
    (hstop : p.main = .stopInput) (hs : p.step remembers (.main true) = some q) :
    q.Ends remembers ↔ p.input ≠ .created ∧ p.CaptureHeeds remembers := by
  have hjoined : p.Joined :=
    hrun.invariant Process.Joined.start fun _ _ _ h _ hs => h.step hs
  have hqjoined := hjoined.step hs
  have hmain : q = { p.dbInputStop with main := .joinCapture } := by
    have hmain : p.mainStep true = some q := hs
    rw [Process.mainStep, hstop] at hmain
    exact (Option.some.inj hmain).symm
  have hheeds : q.CaptureHeeds remembers ↔ p.CaptureHeeds remembers := by rw [hmain]; rfl
  have hinput : q.input = p.input := by rw [hmain]; rfl
  have hjoin : q.main = .joinCapture := by rw [hmain]
  rw [← hheeds, ← hinput]
  constructor
  · intro hends
    refine ⟨fun hcreated => ?_, ?_⟩
    · exact Process.InputLost.not_ends ⟨.inl hjoin, .inl hcreated⟩ hends
    · by_contra hno
      exact (Process.captureLost_of_not_heeds hjoin hno).not_ends hends
  · rintro ⟨hcreated, hcapture⟩
    refine Process.Ending.ends ⟨hqjoined, .inl hjoin, hcapture, ?_⟩
    by_cases hno : q.hasInput = true
    · have hrunning : q.running = false := by
        rw [hmain] at hno ⊢
        exact if_pos hno
      rw [Process.InputHeeds, hrunning]
      cases hi : q.input
      case created => exact absurd hi hcreated
      all_goals decide
    · exact .inl (hqjoined.noInput (Bool.eq_false_iff.2 hno))

/-- A run that ends: the input thread is in `recv` when it is stopped. -/
theorem shutdown_ends_iff_witness :
    let p := (exec (Process.step true) (fun _ _ => True) (Process.start true true)
      (shutdownEvents.take 11)).get (by decide)
    let q := (exec (Process.step true) (fun _ _ => True) (Process.start true true)
      (shutdownEvents.take 12)).get (by decide)
    p.input ≠ .created ∧ q.Ends true := by
  intro p q
  have hrun : Run (Process.step true) (fun _ _ => True) (Process.start true true)
      (shutdownEvents.take 11) p := run_get (by decide)
  refine ⟨by decide, (shutdown_ends_iff true true true hrun (by decide) (by decide)).2 ?_⟩
  exact ⟨by decide, .inr (by decide)⟩

/-- A run that does not: a signal comes when the input thread was just created, and both its
handler and `main` stop it before it has set `running`. -/
theorem shutdown_lost_stop :
    let events : List ProcessEvent := [.main true, .main true, .capture .frame, .signal,
      .handlerCapture, .handlerInput, .main true, .main true, .main true]
    let q := (exec (Process.step true) (fun _ _ => True) (Process.start true true) events).get
      (by decide)
    ¬ q.Ends true :=
  Process.InputLost.not_ends ⟨.inl (by decide), .inl (by decide)⟩

/-! ### After a signal -/

/-- How many steps `main` is from the label `cleanup` once `g_running` is cleared. -/
def MainStage.toCleanup : MainStage → ℕ
  | .createCapture | .accepting | .turn => 3
  | .createInput | .stream => 2
  | .accept | .retry => 1
  | _ => 0

/-- Steps of `main`. -/
def ProcessEvent.isMain : ProcessEvent → Bool
  | .main _ => true
  | _ => false

theorem Process.gRunning_mainStep (h : p.gRunning = false) (hs : p.mainStep ok = some q) :
    q.gRunning = false ∧ q.main.toCleanup ≤ p.main.toCleanup - 1 := by
  revert hs
  rw [Process.mainStep]
  cases hm : p.main
  case createCapture | createInput =>
    dsimp only
    split
    all_goals
      rintro ⟨⟩
      exact ⟨h, Nat.le_of_ble_eq_true rfl⟩
  case joinCapture | joinInput =>
    intro hs
    obtain ⟨-, hq⟩ := Option.ite_none_right_eq_some.1 hs
    cases hq
    exact ⟨h, le_rfl⟩
  case accepting | turn =>
    rintro ⟨⟩
    refine ⟨h, ?_⟩
    cases ok
    all_goals simp [MainStage.toCleanup]
  case accept | retry | stream =>
    rintro ⟨⟩
    refine ⟨h, ?_⟩
    simp [h, MainStage.toCleanup]
  case returned =>
    intro hs
    cases hs
  all_goals
    rintro ⟨⟩
    exact ⟨h, le_rfl⟩

theorem Process.gRunning_step (h : p.gRunning = false) (hs : p.step remembers e = some q) :
    q.gRunning = false ∧ q.main.toCleanup ≤ p.main.toCleanup - if e.isMain then 1 else 0 := by
  cases e with
  | main ok => exact Process.gRunning_mainStep h hs
  | capture ans =>
    obtain ⟨-, -, hq⟩ := Process.captureStep_spec hs
    rw [hq]
    exact ⟨h, le_rfl⟩
  | input ans =>
    obtain ⟨-, -, hq⟩ := Process.inputStep_spec hs
    rw [hq]
    exact ⟨h, le_rfl⟩
  | signal =>
    cases hs
    exact ⟨rfl, le_rfl⟩
  | handlerCapture | handlerInput =>
    obtain ⟨-, hq⟩ := Option.ite_none_right_eq_some.1 hs
    cases hq
    exact ⟨h, le_rfl⟩

/-- **After a signal**, `main` comes to `cleanup` in three steps of its own, however many
the other threads make in between. -/
theorem cleanup_of_signal (hp : p.gRunning = false)
    (hrun : Run (Process.step remembers) (fun _ _ => True) p es q) :
    q.main.toCleanup ≤ 3 - es.countP ProcessEvent.isMain := by
  have hspec : q.gRunning = false ∧
      q.main.toCleanup ≤ 3 - es.countP ProcessEvent.isMain := by
    induction hrun with
    | start =>
      refine ⟨hp, ?_⟩
      cases p.main
      all_goals decide
    | @snoc es s s' e _ _ hs ih =>
      obtain ⟨hg, hless⟩ := Process.gRunning_step ih.1 hs
      refine ⟨hg, ?_⟩
      have hcount : (es ++ [e]).countP ProcessEvent.isMain =
          es.countP ProcessEvent.isMain + if e.isMain then 1 else 0 := by
        rw [List.countP_append, List.countP_singleton]
      have hle := ih.2
      omega
  exact hspec.2

end DisplayBridge
