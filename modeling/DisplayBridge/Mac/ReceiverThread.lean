import DisplayBridge.Lib.Inevitable

/-!
# The thread of the receiver

`recvLoop` of `SRTReceiver.swift` runs on a queue of its own, and `start` and `stop` are
called on the main thread. They share two variables. `running` tells the loop to go on, and
`sock` is the connection; access to `sock` is locked, but reading it, closing the socket and
clearing it are three steps, and both threads do all three. So the threads may come between
each other anywhere, and each step here is one access to a shared variable or one call of
the library.

Whatever the interleaving, and whatever the library answers:

* **No socket is left open** (`DisplayBridge.receiver_closes`). While the loop runs, the
  only open sockets are the one it is connecting and the one in `sock`; once it has ended,
  every socket that was ever created has been closed – twice at most, where `stop` and the
  loop have met.
* **A stop is not lost** (`DisplayBridge.receiver_stops`): unless `start` is called again, the
  loop and the ones that wait behind it in the queue end, whatever the schedule, and they
  need no message for it that may never come.

What the loop makes of a message and which host it connects to are in other modules.
-/

namespace DisplayBridge

open Runs

/-! ### The two threads -/

/-- Where the loop is. -/
inductive RecvLoop
  /-- No `recvLoop` runs. -/
  | idle
  /-- At `while running`. -/
  | head
  /-- At the first condition of the inner loop, `running`. -/
  | retry
  /-- At the second one, `sock == SRT_INVALID_SOCK`. -/
  | looking
  /-- In `connect`, before `srt_create_socket`. -/
  | creating
  /-- Before `srt_connect` has returned. -/
  | connecting (s : ℕ)
  /-- It has failed, or the address was not well-formed; before `srt_close`. -/
  | refused (s : ℕ)
  /-- Before `sock = s`. -/
  | connected (s : ℕ)
  | sleeping
  /-- At `guard running`. -/
  | guarding
  /-- In `srt_recvmsg`. -/
  | receiving
  /-- After an error that does not tell of a lost connection, before `!running`. -/
  | failed
  /-- Before `srt_close(sock)`. -/
  | lost
  /-- Before `sock = SRT_INVALID_SOCK`. -/
  | clearing
  /-- At the end, before `sock != SRT_INVALID_SOCK`. -/
  | cleanup
  /-- Before `srt_close(sock)` of the end. -/
  | closing
  /-- Before `sock = SRT_INVALID_SOCK` of the end. -/
  | closed
deriving DecidableEq

/-- Where the main thread is in `stop`. -/
inductive StopCall
  /-- `stop` is not being called. -/
  | idle
  /-- Before it reads `sock`. -/
  | reading
  /-- Before `srt_close(s)`. -/
  | closing (s : ℕ)
  /-- Before `sock = SRT_INVALID_SOCK`. -/
  | clearing (s : ℕ)
deriving DecidableEq

/-- The receiver, its two threads, and the sockets so far. -/
structure ReceiverThreads where
  running : Bool
  /-- `sock`; `none` is `SRT_INVALID_SOCK`. -/
  sock : Option ℕ
  /-- How many `recvLoop`s wait in the queue. -/
  queued : ℕ
  loop : RecvLoop
  main : StopCall
  /-- How many sockets were created; their numbers are below. -/
  created : ℕ
  /-- What was given to `srt_close`. -/
  closes : List ℕ
deriving DecidableEq

/-- A receiver that was not started. -/
def ReceiverThreads.init : ReceiverThreads := ⟨false, none, 0, .idle, .idle, 0, []⟩

/-- What a call of the library answers to the loop. -/
inductive LoopAnswer
  /-- It succeeds; of `srt_recvmsg`, there is a message. -/
  | ok
  /-- It fails. -/
  | error
  /-- `srt_recvmsg` fails with `SRT_ECONNLOST` or `SRT_ENOCONN`. -/
  | connectionLost
deriving DecidableEq

/-- A step of one of the threads. -/
inductive ReceiverThreadEvent
  | start
  | stop
  /-- The next step of `stop`. -/
  | main
  | loop (ans : LoopAnswer)
deriving DecidableEq

/-- `srt_close`, also of a socket that is none. -/
def ReceiverThreads.srtClose (r : ReceiverThreads) (s : Option ℕ) : ReceiverThreads :=
  { r with closes := r.closes ++ s.toList }

/-- A step of the loop. -/
def ReceiverThreads.loopStep (r : ReceiverThreads) (ans : LoopAnswer) :
    Option ReceiverThreads :=
  match r.loop with
  | .idle => if 0 < r.queued then some { r with queued := r.queued - 1, loop := .head } else none
  | .head => some { r with loop := if r.running then .retry else .cleanup }
  | .retry => some { r with loop := if r.running then .looking else .guarding }
  | .looking => some { r with loop := if r.sock = none then .creating else .guarding }
  | .creating =>
    if ans = .ok then some { r with created := r.created + 1, loop := .connecting r.created }
    else some { r with loop := .sleeping }
  | .connecting s => some { r with loop := if ans = .ok then .connected s else .refused s }
  | .refused s => some { r.srtClose (some s) with loop := .sleeping }
  | .connected s => some { r with sock := some s, loop := .guarding }
  | .sleeping => some { r with loop := .retry }
  | .guarding => some { r with loop := if r.running then .receiving else .cleanup }
  | .receiving =>
    match ans with
    | .ok => some { r with loop := .head }
    | .error => some { r with loop := .failed }
    | .connectionLost => some { r with loop := .lost }
  | .failed => some { r with loop := if r.running then .head else .lost }
  | .lost => some { r.srtClose r.sock with loop := .clearing }
  | .clearing => some { r with sock := none, loop := .head }
  | .cleanup => some { r with loop := if r.sock = none then .idle else .closing }
  | .closing => some { r.srtClose r.sock with loop := .closed }
  | .closed => some { r with sock := none, loop := .idle }

/-- A step of `stop`. -/
def ReceiverThreads.mainStep (r : ReceiverThreads) : Option ReceiverThreads :=
  match r.main with
  | .idle => none
  | .reading =>
    match r.sock with
    | none => some { r with main := .idle }
    | some s => some { r with main := .closing s }
  | .closing s => some { r.srtClose (some s) with main := .clearing s }
  | .clearing _ => some { r with sock := none, main := .idle }

/-- A step of the receiver. -/
def ReceiverThreads.step (r : ReceiverThreads) : ReceiverThreadEvent → Option ReceiverThreads
  | .start =>
    if r.main = .idle then
      if r.running then some r else some { r with running := true, queued := r.queued + 1 }
    else none
  | .stop => if r.main = .idle then some { r with running := false, main := .reading } else none
  | .main => r.mainStep
  | .loop ans => r.loopStep ans

/-! ### The sockets -/

/-- The socket that `connect` works with. -/
def RecvLoop.inFlight : RecvLoop → Option ℕ
  | .connecting s | .refused s | .connected s => some s
  | _ => none

/-- The loop has seen that there is no connection. -/
def RecvLoop.connects : RecvLoop → Bool
  | .creating | .connecting _ | .refused _ | .connected _ => true
  | _ => false

/-- The loop may see, or has seen, that there is no connection. -/
def RecvLoop.mayConnect : RecvLoop → Bool
  | .looking => true
  | l => l.connects

/-- The loop has closed the connection, but not cleared it. -/
def RecvLoop.hasClosed : RecvLoop → Bool
  | .clearing | .closed => true
  | _ => false

/-- Where the loop has nothing to do with a socket. -/
def RecvLoop.plain : RecvLoop → Bool
  | .head | .retry | .sleeping | .guarding | .receiving | .failed | .lost | .cleanup
  | .closing => true
  | _ => false

/-- How often `stop` has closed a socket that it is still to clear. -/
def StopCall.hasClosed (m : StopCall) (s : ℕ) : ℕ := if m = .clearing s then 1 else 0

/-- The socket that `stop` has read. -/
def StopCall.socket : StopCall → Option ℕ
  | .closing s | .clearing s => some s
  | _ => none

/-- **The invariant of the sockets.** -/
structure ReceiverThreads.Inv (r : ReceiverThreads) : Prop where
  /-- While the loop connects, there is no connection. -/
  connects : r.loop.connects = true → r.sock = none
  /-- While `stop` works with a socket, this is the connection, or there is none and there
  will be none. -/
  stops : ∀ s, r.main.socket = some s →
    r.running = false ∧ s < r.created ∧
      (r.sock = some s ∨ r.sock = none ∧ r.loop.mayConnect = false)
  reading : r.main = .reading → r.running = false
  sock_lt : ∀ s, r.sock = some s → s < r.created
  inFlight_lt : ∀ s, r.loop.inFlight = some s → s < r.created
  closes_lt : ∀ s ∈ r.closes, s < r.created
  /-- What is open is in use. -/
  opened : ∀ s < r.created, s ∉ r.closes → r.loop.inFlight = some s ∨ r.sock = some s
  inFlight_open : ∀ s, r.loop.inFlight = some s → s ∉ r.closes
  /-- The connection was closed by each thread that says so, and not otherwise. -/
  count_sock : ∀ s, r.sock = some s →
    r.closes.count s = (if r.loop.hasClosed then 1 else 0) + r.main.hasClosed s
  /-- What `stop` is still to close was closed once at most. -/
  count_closing : ∀ s, r.main = .closing s → r.closes.count s ≤ 1
  count_le : ∀ s, r.closes.count s ≤ 2
  idle : r.loop = .idle → r.sock = none

theorem RecvLoop.mayConnect_of_connects {l : RecvLoop} (h : l.connects = true) :
    l.mayConnect = true := by
  cases l
  all_goals first | rfl | cases h

theorem RecvLoop.connects_of_inFlight {l : RecvLoop} {s : ℕ} (h : l.inFlight = some s) :
    l.connects = true := by
  cases l
  all_goals first | rfl | cases h

theorem RecvLoop.plain_iff {l : RecvLoop} :
    l.plain = true ↔
      l.mayConnect = false ∧ l.inFlight = none ∧ l.hasClosed = false ∧ l ≠ .idle := by
  cases l
  all_goals simp [plain, mayConnect, connects, inFlight, hasClosed]

namespace ReceiverThreads

variable {r r' : ReceiverThreads} {ans : LoopAnswer} {e : ReceiverThreadEvent}
  {es : List ReceiverThreadEvent}

theorem Inv.init : Inv .init where
  connects := by decide
  stops s hs := by cases hs
  reading := by decide
  sock_lt s hs := by cases hs
  inFlight_lt s hs := by cases hs
  closes_lt s hs := by cases hs
  opened s hs := absurd hs (Nat.not_lt_zero s)
  inFlight_open s hs := by cases hs
  count_sock s hs := by cases hs
  count_closing s hs := by cases hs
  count_le s := Nat.zero_le 2
  idle _ := rfl

/-- While the loop may go on, `stop` has no socket. -/
theorem Inv.socket_eq_none_of_running (h : r.Inv) (hr : r.running = true) :
    r.main.socket = none := by
  by_contra hsome
  obtain ⟨s, hs⟩ := Option.ne_none_iff_exists'.1 hsome
  rw [(h.stops s hs).1] at hr
  cases hr

/-- Where the loop has seen that there is no connection, `stop` has no socket. -/
theorem Inv.socket_eq_none_of_mayConnect (h : r.Inv) (hloop : r.loop.mayConnect = true)
    (hsock : r.sock = none) : r.main.socket = none := by
  by_contra hsome
  obtain ⟨s, hs⟩ := Option.ne_none_iff_exists'.1 hsome
  rcases (h.stops s hs).2.2 with hsock' | ⟨-, hno⟩
  · rw [hsock] at hsock'
    cases hsock'
  · rw [hloop] at hno
    cases hno

/-- The loop moves on without touching a socket. -/
theorem Inv.move (h : r.Inv) (n : ℕ) {l : RecvLoop}
    (hconnects : l.connects = true → r.sock = none)
    (hmay : l.mayConnect = true → r.main.socket = none)
    (hflight : l.inFlight = r.loop.inFlight) (hclosed : l.hasClosed = r.loop.hasClosed)
    (hidle : l = .idle → r.sock = none) : Inv { r with queued := n, loop := l } where
  connects := hconnects
  stops s hs := by
    refine ⟨(h.stops s hs).1, (h.stops s hs).2.1, ?_⟩
    have hno : l.mayConnect = false := by
      by_contra hl
      rw [Bool.not_eq_false] at hl
      rw [hmay hl] at hs
      cases hs
    exact (h.stops s hs).2.2.imp_right fun hnone => ⟨hnone.1, hno⟩
  reading := h.reading
  sock_lt := h.sock_lt
  inFlight_lt s hs := h.inFlight_lt s (hflight ▸ hs)
  closes_lt := h.closes_lt
  opened s hs hopen := by
    rw [hflight]
    exact h.opened s hs hopen
  inFlight_open s hs := h.inFlight_open s (hflight ▸ hs)
  count_sock s hs := by
    rw [hclosed]
    exact h.count_sock s hs
  count_closing := h.count_closing
  count_le := h.count_le
  idle := hidle

/-- The loop moves to where it has nothing to do with a socket. -/
theorem Inv.movePlain (h : r.Inv) (n : ℕ) {l : RecvLoop} (hl : l.plain = true)
    (hflight : r.loop.inFlight = none) (hclosed : r.loop.hasClosed = false) :
    Inv { r with queued := n, loop := l } := by
  obtain ⟨hmay, hflight', hclosed', hidle⟩ := RecvLoop.plain_iff.1 hl
  refine h.move n (fun hc => ?_) (fun hm => ?_) (hflight'.trans hflight.symm)
    (hclosed'.trans hclosed.symm) fun hi => absurd hi hidle
  · exact absurd (hmay.symm.trans (RecvLoop.mayConnect_of_connects hc)) Bool.false_ne_true
  · exact absurd (hmay.symm.trans hm) Bool.false_ne_true

/-- The loop has created a socket. -/
theorem Inv.create (h : r.Inv) (hloop : r.loop = .creating) :
    Inv { r with created := r.created + 1, loop := .connecting r.created } := by
  have hsock : r.sock = none := h.connects (by rw [hloop]; rfl)
  have hmain : r.main.socket = none :=
    h.socket_eq_none_of_mayConnect (by rw [hloop]; rfl) hsock
  exact {
    connects := fun _ => hsock
    stops := fun s hs => absurd (hmain.symm.trans hs) (Option.some_ne_none s).symm
    reading := h.reading
    sock_lt := fun s hs => Nat.lt_succ_of_lt (h.sock_lt s hs)
    inFlight_lt := fun s hs => Option.some.inj hs ▸ Nat.lt_succ_self _
    closes_lt := fun s hs => Nat.lt_succ_of_lt (h.closes_lt s hs)
    opened := fun s hs hopen => by
      rcases Nat.lt_succ_iff_lt_or_eq.1 hs with hlt | rfl
      · refine (h.opened s hlt hopen).imp (fun hflight => ?_) id
        rw [hloop] at hflight
        cases hflight
      · exact .inl rfl
    inFlight_open := fun s hs hmem =>
      Nat.lt_irrefl _ (Option.some.inj hs ▸ h.closes_lt s hmem)
    count_sock := fun s hs => absurd (hsock.symm.trans hs) (Option.some_ne_none s).symm
    count_closing := h.count_closing
    count_le := h.count_le
    idle := fun _ => hsock }

/-- What is closed once more. -/
theorem count_srtClose (r : ReceiverThreads) (o : Option ℕ) (s : ℕ) :
    (r.srtClose o).closes.count s = r.closes.count s + if o = some s then 1 else 0 := by
  rw [srtClose, List.count_append]
  cases o with
  | none => rfl
  | some x => simp [List.count_singleton]

theorem mem_srtClose {r : ReceiverThreads} {o : Option ℕ} {s : ℕ} :
    s ∈ (r.srtClose o).closes ↔ s ∈ r.closes ∨ o = some s := by
  simp [srtClose]

/-- The loop closes a socket that could not be connected. -/
theorem Inv.refuse (h : r.Inv) {x : ℕ} (hloop : r.loop = .refused x) :
    Inv { r.srtClose (some x) with loop := .sleeping } := by
  have hsock : r.sock = none := h.connects (by rw [hloop]; rfl)
  have hmain : r.main.socket = none :=
    h.socket_eq_none_of_mayConnect (by rw [hloop]; rfl) hsock
  have hflight : r.loop.inFlight = some x := by rw [hloop]; rfl
  have hnew : r.closes.count x = 0 := List.count_eq_zero.2 (h.inFlight_open x hflight)
  exact {
    connects := fun _ => hsock
    stops := fun s hs => absurd (hmain.symm.trans hs) (Option.some_ne_none s).symm
    reading := h.reading
    sock_lt := h.sock_lt
    inFlight_lt := fun s hs => absurd hs (Option.some_ne_none s).symm
    closes_lt := fun s hs => by
      rcases mem_srtClose.1 hs with hs | hs
      · exact h.closes_lt s hs
      · exact h.inFlight_lt s (hflight.trans hs)
    opened := fun s hs hopen => by
      have hopen := not_or.1 (mt mem_srtClose.2 hopen)
      rcases h.opened s hs hopen.1 with hx | hs
      · exact absurd (hflight.symm.trans hx) hopen.2
      · exact .inr hs
    inFlight_open := fun s hs => absurd hs (Option.some_ne_none s).symm
    count_sock := fun s hs => absurd (hsock.symm.trans hs) (Option.some_ne_none s).symm
    count_closing := fun s hs => by
      have hs : r.main = .closing s := hs
      rw [hs] at hmain
      cases hmain
    count_le := fun s => by
      show (r.srtClose (some x)).closes.count s ≤ 2
      rw [count_srtClose]
      split
      · next hx =>
        cases hx
        omega
      · exact h.count_le s
    idle := fun _ => hsock }

/-- The loop has a connection. -/
theorem Inv.store (h : r.Inv) {x : ℕ} (hloop : r.loop = .connected x) :
    Inv { r with sock := some x, loop := .guarding } := by
  have hsock : r.sock = none := h.connects (by rw [hloop]; rfl)
  have hmain : r.main.socket = none :=
    h.socket_eq_none_of_mayConnect (by rw [hloop]; rfl) hsock
  have hflight : r.loop.inFlight = some x := by rw [hloop]; rfl
  have hnew : r.closes.count x = 0 := List.count_eq_zero.2 (h.inFlight_open x hflight)
  have hclosed : r.main.hasClosed x = 0 := by
    refine if_neg fun hx => ?_
    rw [hx] at hmain
    cases hmain
  exact {
    connects := fun hc => absurd hc Bool.false_ne_true
    stops := fun s hs => absurd (hmain.symm.trans hs) (Option.some_ne_none s).symm
    reading := h.reading
    sock_lt := fun s hs => h.inFlight_lt s (hflight.trans hs)
    inFlight_lt := fun s hs => absurd hs (Option.some_ne_none s).symm
    closes_lt := h.closes_lt
    opened := fun s hs hopen => by
      rcases h.opened s hs hopen with hx | hs
      · exact .inr (hflight.symm.trans hx)
      · exact absurd (hsock.symm.trans hs) (Option.some_ne_none s).symm
    inFlight_open := fun s hs => absurd hs (Option.some_ne_none s).symm
    count_sock := fun s hs => by
      cases hs
      show r.closes.count x = 0 + r.main.hasClosed x
      rw [hnew, hclosed]
    count_closing := h.count_closing
    count_le := h.count_le
    idle := fun hidle => by cases hidle }

theorem StopCall.hasClosed_le (m : StopCall) (s : ℕ) : m.hasClosed s ≤ 1 := by
  rw [StopCall.hasClosed]
  split
  all_goals omega

theorem StopCall.hasClosed_closing (s t : ℕ) : (StopCall.closing s).hasClosed t = 0 :=
  if_neg fun h => by cases h

/-- The loop closes the connection. -/
theorem Inv.close (h : r.Inv) {l : RecvLoop} (hmay : l.mayConnect = false)
    (hflight : l.inFlight = none) (hclosed : l.hasClosed = true) (hidle : l ≠ .idle)
    (hflight' : r.loop.inFlight = none) (hclosed' : r.loop.hasClosed = false) :
    Inv { r.srtClose r.sock with loop := l } := by
  have hcount : ∀ s, r.sock = some s → r.closes.count s = r.main.hasClosed s := fun s hs => by
    rw [h.count_sock s hs, hclosed', if_neg Bool.false_ne_true, Nat.zero_add]
  exact {
    connects := fun hc =>
      absurd (hmay.symm.trans (RecvLoop.mayConnect_of_connects hc)) Bool.false_ne_true
    stops := fun s hs =>
      ⟨(h.stops s hs).1, (h.stops s hs).2.1,
        (h.stops s hs).2.2.imp_right fun hnone => ⟨hnone.1, hmay⟩⟩
    reading := h.reading
    sock_lt := h.sock_lt
    inFlight_lt := fun s hs => absurd (hflight.symm.trans hs) (Option.some_ne_none s).symm
    closes_lt := fun s hs => (mem_srtClose.1 hs).elim (h.closes_lt s) (h.sock_lt s)
    opened := fun s hs hopen => by
      have hopen := not_or.1 (mt mem_srtClose.2 hopen)
      rcases h.opened s hs hopen.1 with hs | hs
      · exact absurd (hflight'.symm.trans hs) (Option.some_ne_none s).symm
      · exact absurd hs hopen.2
    inFlight_open := fun s hs => absurd (hflight.symm.trans hs) (Option.some_ne_none s).symm
    count_sock := fun s hs => by
      have hs : r.sock = some s := hs
      show (r.srtClose r.sock).closes.count s = (if l.hasClosed then 1 else 0) + r.main.hasClosed s
      rw [count_srtClose, if_pos hs, hcount s hs, hclosed, if_pos rfl, Nat.add_comm]
    count_closing := fun s hs => by
      have hs : r.main = .closing s := hs
      show (r.srtClose r.sock).closes.count s ≤ 1
      rw [count_srtClose]
      split
      · next hsock =>
        have hone : r.closes.count s + 1 = 1 := by
          rw [hcount s hsock, hs, StopCall.hasClosed_closing, Nat.zero_add]
        exact Nat.le_of_eq hone
      · exact h.count_closing s hs
    count_le := fun s => by
      show (r.srtClose r.sock).closes.count s ≤ 2
      rw [count_srtClose]
      split
      · next hsock =>
        rw [hcount s hsock]
        exact Nat.succ_le_succ (StopCall.hasClosed_le _ _)
      · exact h.count_le s
    idle := fun hi => absurd hi hidle }

/-- One of the threads clears the connection, which was closed. -/
theorem Inv.opened_of_closed (h : r.Inv) (hclosed : ∀ s, r.sock = some s → s ∈ r.closes) {s : ℕ}
    (hs : s < r.created) (hopen : s ∉ r.closes) : r.loop.inFlight = some s :=
  (h.opened s hs hopen).resolve_right fun hsock => hopen (hclosed s hsock)

/-- The loop clears the connection it has closed. -/
theorem Inv.clear (h : r.Inv) {l : RecvLoop} (hmay : l.mayConnect = false)
    (hflight : l.inFlight = none) (hflight' : r.loop.inFlight = none)
    (hclosed : r.loop.hasClosed = true) :
    Inv { r with sock := none, loop := l } := by
  have hmem : ∀ s, r.sock = some s → s ∈ r.closes := fun s hs => by
    rw [← List.count_pos_iff, h.count_sock s hs, hclosed, if_pos rfl]
    omega
  exact {
    connects := fun _ => rfl
    stops := fun s hs => ⟨(h.stops s hs).1, (h.stops s hs).2.1, .inr ⟨rfl, hmay⟩⟩
    reading := h.reading
    sock_lt := fun s hs => absurd hs (Option.some_ne_none s).symm
    inFlight_lt := fun s hs => absurd (hflight.symm.trans hs) (Option.some_ne_none s).symm
    closes_lt := h.closes_lt
    opened := fun s hs hopen =>
      absurd (hflight'.symm.trans (h.opened_of_closed hmem hs hopen)) (Option.some_ne_none s).symm
    inFlight_open := fun s hs => absurd (hflight.symm.trans hs) (Option.some_ne_none s).symm
    count_sock := fun s hs => absurd hs (Option.some_ne_none s).symm
    count_closing := h.count_closing
    count_le := h.count_le
    idle := fun _ => rfl }

/-- **A step of the loop** keeps the invariant. -/
theorem Inv.loopStep (h : r.Inv) (hs : r.loopStep ans = some r') : r'.Inv := by
  revert hs
  rw [ReceiverThreads.loopStep.eq_def]
  cases hloop : r.loop
  case idle =>
    intro hs
    obtain ⟨-, hr'⟩ := Option.ite_none_right_eq_some.1 hs
    cases hr'
    exact h.movePlain _ rfl (by rw [hloop]; rfl) (by rw [hloop]; rfl)
  case head | guarding | failed =>
    rintro ⟨⟩
    refine h.movePlain _ ?_ (by rw [hloop]; rfl) (by rw [hloop]; rfl)
    cases r.running
    all_goals rfl
  case retry =>
    rintro ⟨⟩
    by_cases hr : r.running = true
    · rw [if_pos hr]
      exact h.move _ (fun hc => absurd hc Bool.false_ne_true)
        (fun _ => h.socket_eq_none_of_running hr) (by rw [hloop]; rfl) (by rw [hloop]; rfl)
        (fun hi => by cases hi)
    · rw [if_neg hr]
      exact h.movePlain _ rfl (by rw [hloop]; rfl) (by rw [hloop]; rfl)
  case looking =>
    rintro ⟨⟩
    by_cases hsock : r.sock = none
    · rw [if_pos hsock]
      exact h.move _ (fun _ => hsock)
        (fun _ => h.socket_eq_none_of_mayConnect (by rw [hloop]; rfl) hsock)
        (by rw [hloop]; rfl) (by rw [hloop]; rfl) (fun _ => hsock)
    · rw [if_neg hsock]
      exact h.movePlain _ rfl (by rw [hloop]; rfl) (by rw [hloop]; rfl)
  case creating =>
    by_cases hans : ans = .ok
    · simp only [if_pos hans]
      rintro ⟨⟩
      exact h.create hloop
    · simp only [if_neg hans]
      rintro ⟨⟩
      exact h.movePlain _ rfl (by rw [hloop]; rfl) (by rw [hloop]; rfl)
  case connecting x =>
    rintro ⟨⟩
    have hsock : r.sock = none := h.connects (by rw [hloop]; rfl)
    refine h.move _ (fun _ => hsock)
      (fun _ => h.socket_eq_none_of_mayConnect (by rw [hloop]; rfl) hsock) ?_ ?_ fun _ => hsock
    all_goals
      rw [hloop]
      split
      all_goals rfl
  case refused x =>
    rintro ⟨⟩
    exact h.refuse hloop
  case connected x =>
    rintro ⟨⟩
    exact h.store hloop
  case sleeping =>
    rintro ⟨⟩
    exact h.movePlain _ rfl (by rw [hloop]; rfl) (by rw [hloop]; rfl)
  case receiving =>
    cases ans
    all_goals
      rintro ⟨⟩
      exact h.movePlain _ rfl (by rw [hloop]; rfl) (by rw [hloop]; rfl)
  case lost | closing =>
    rintro ⟨⟩
    exact h.close rfl rfl rfl (by decide) (by rw [hloop]; rfl) (by rw [hloop]; rfl)
  case clearing | closed =>
    rintro ⟨⟩
    exact h.clear rfl rfl (by rw [hloop]; rfl) (by rw [hloop]; rfl)
  case cleanup =>
    rintro ⟨⟩
    by_cases hsock : r.sock = none
    · rw [if_pos hsock]
      exact h.move _ (fun _ => hsock) (fun hm => absurd hm Bool.false_ne_true)
        (by rw [hloop]; rfl) (by rw [hloop]; rfl) (fun _ => hsock)
    · rw [if_neg hsock]
      exact h.movePlain _ rfl (by rw [hloop]; rfl) (by rw [hloop]; rfl)

/-- `stop` goes on without a socket. -/
theorem Inv.main_idle (h : r.Inv) (hmain : r.main.socket = none) :
    Inv { r with main := .idle } where
  connects := h.connects
  stops s hs := by cases hs
  reading hm := by cases hm
  sock_lt := h.sock_lt
  inFlight_lt := h.inFlight_lt
  closes_lt := h.closes_lt
  opened := h.opened
  inFlight_open := h.inFlight_open
  count_sock s hs := by
    have hbefore := h.count_sock s hs
    have hno : r.main.hasClosed s = 0 := by
      refine if_neg fun hm => ?_
      rw [hm] at hmain
      cases hmain
    rw [hno] at hbefore
    exact hbefore
  count_closing s hs := by cases hs
  count_le := h.count_le
  idle := h.idle

/-- `stop` has read the connection. -/
theorem Inv.stopRead (h : r.Inv) {x : ℕ} (hmain : r.main = .reading) (hsock : r.sock = some x) :
    Inv { r with main := .closing x } := by
  have hcount : ∀ s, r.sock = some s → r.closes.count s = if r.loop.hasClosed then 1 else 0 := by
    intro s hs
    rw [h.count_sock s hs, hmain]
    rfl
  exact {
    connects := h.connects
    stops := fun s hs => by
      obtain rfl := Option.some.inj hs
      exact ⟨h.reading hmain, h.sock_lt _ hsock, .inl hsock⟩
    reading := fun hm => by cases hm
    sock_lt := h.sock_lt
    inFlight_lt := h.inFlight_lt
    closes_lt := h.closes_lt
    opened := h.opened
    inFlight_open := h.inFlight_open
    count_sock := fun s hs => (hcount s hs).trans (by rw [StopCall.hasClosed_closing]; rfl)
    count_closing := fun s hs => by
      cases hs
      show r.closes.count x ≤ 1
      rw [hcount x hsock]
      split
      all_goals omega
    count_le := h.count_le
    idle := h.idle }

/-- `stop` closes the socket it has read. -/
theorem Inv.stopClose (h : r.Inv) {x : ℕ} (hmain : r.main = .closing x) :
    Inv { r.srtClose (some x) with main := .clearing x } := by
  obtain ⟨hrunning, hlt, hwhere⟩ := h.stops x (by rw [hmain]; rfl)
  have hflight : r.loop.inFlight ≠ some x := fun hx => by
    have hconnects := RecvLoop.connects_of_inFlight hx
    have hnone := h.socket_eq_none_of_mayConnect (RecvLoop.mayConnect_of_connects hconnects)
      (h.connects hconnects)
    rw [hmain] at hnone
    cases hnone
  exact {
    connects := h.connects
    stops := fun s hs => by
      obtain rfl := Option.some.inj hs
      exact ⟨hrunning, hlt, hwhere⟩
    reading := fun hm => by cases hm
    sock_lt := h.sock_lt
    inFlight_lt := h.inFlight_lt
    closes_lt := fun s hs => (mem_srtClose.1 hs).elim (h.closes_lt s) fun hs => by
      cases hs
      exact hlt
    opened := fun s hs hopen => h.opened s hs (not_or.1 (mt mem_srtClose.2 hopen)).1
    inFlight_open := fun s hs hmem => (mem_srtClose.1 hmem).elim (h.inFlight_open s hs)
      fun hx => hflight (hs.trans hx.symm)
    count_sock := fun s hs => by
      have hs : r.sock = some s := hs
      have hx : x = s := by
        rcases hwhere with hx | ⟨hnone, -⟩
        · exact Option.some.inj (hx.symm.trans hs)
        · rw [hnone] at hs
          cases hs
      have hbefore := h.count_sock s hs
      rw [hmain, StopCall.hasClosed_closing] at hbefore
      show (r.srtClose (some x)).closes.count s =
        (if r.loop.hasClosed then 1 else 0) + (StopCall.clearing x).hasClosed s
      rw [count_srtClose, hbefore, StopCall.hasClosed, hx, if_pos rfl, if_pos rfl]
    count_closing := fun s hs => by cases hs
    count_le := fun s => by
      show (r.srtClose (some x)).closes.count s ≤ 2
      rw [count_srtClose]
      split
      · next hx =>
        cases hx
        have hle := h.count_closing x hmain
        omega
      · exact h.count_le s
    idle := h.idle }

/-- `stop` clears the connection it has closed. -/
theorem Inv.stopClear (h : r.Inv) {x : ℕ} (hmain : r.main = .clearing x) :
    Inv { r with sock := none, main := .idle } := by
  obtain ⟨-, -, hwhere⟩ := h.stops x (by rw [hmain]; rfl)
  have hmem : ∀ s, r.sock = some s → s ∈ r.closes := fun s hs => by
    have hx : x = s := by
      rcases hwhere with hx | ⟨hnone, -⟩
      · exact Option.some.inj (hx.symm.trans hs)
      · rw [hnone] at hs
        cases hs
    rw [← List.count_pos_iff, h.count_sock s hs, hmain, StopCall.hasClosed, hx, if_pos rfl]
    omega
  exact {
    connects := fun _ => rfl
    stops := fun s hs => by cases hs
    reading := fun hm => by cases hm
    sock_lt := fun s hs => absurd hs (Option.some_ne_none s).symm
    inFlight_lt := h.inFlight_lt
    closes_lt := h.closes_lt
    opened := fun s hs hopen => .inl (h.opened_of_closed hmem hs hopen)
    inFlight_open := h.inFlight_open
    count_sock := fun s hs => absurd hs (Option.some_ne_none s).symm
    count_closing := fun s hs => by cases hs
    count_le := h.count_le
    idle := fun _ => rfl }

/-- **A step of `stop`** keeps the invariant. -/
theorem Inv.mainStep (h : r.Inv) (hs : r.mainStep = some r') : r'.Inv := by
  revert hs
  rw [ReceiverThreads.mainStep.eq_def]
  cases hmain : r.main
  case idle =>
    intro hs
    cases hs
  case reading =>
    dsimp only
    split
    · rintro ⟨⟩
      exact h.main_idle (by rw [hmain]; rfl)
    · next x hsock =>
      rintro ⟨⟩
      exact h.stopRead hmain hsock
  case closing x =>
    rintro ⟨⟩
    exact h.stopClose hmain
  case clearing x =>
    rintro ⟨⟩
    exact h.stopClear hmain

/-- `start`. -/
theorem Inv.start (h : r.Inv) (hmain : r.main = .idle) (n : ℕ) :
    Inv { r with running := true, queued := n } where
  connects := h.connects
  stops s hs := by
    have hs : r.main.socket = some s := hs
    rw [hmain] at hs
    cases hs
  reading hm := by
    have hm : r.main = .reading := hm
    rw [hmain] at hm
    cases hm
  sock_lt := h.sock_lt
  inFlight_lt := h.inFlight_lt
  closes_lt := h.closes_lt
  opened := h.opened
  inFlight_open := h.inFlight_open
  count_sock := h.count_sock
  count_closing := h.count_closing
  count_le := h.count_le
  idle := h.idle

/-- `stop` is called. -/
theorem Inv.stop (h : r.Inv) (hmain : r.main = .idle) :
    Inv { r with running := false, main := .reading } where
  connects := h.connects
  stops s hs := by cases hs
  reading _ := rfl
  sock_lt := h.sock_lt
  inFlight_lt := h.inFlight_lt
  closes_lt := h.closes_lt
  opened := h.opened
  inFlight_open := h.inFlight_open
  count_sock s hs := by
    have hbefore := h.count_sock s hs
    rw [hmain] at hbefore
    exact hbefore
  count_closing s hs := by cases hs
  count_le := h.count_le
  idle := h.idle

/-- **Every step** keeps the invariant. -/
theorem Inv.step (h : r.Inv) (hs : r.step e = some r') : r'.Inv := by
  cases e with
  | start =>
    obtain ⟨hmain, hs⟩ := Option.ite_none_right_eq_some.1 hs
    split at hs
    · cases hs
      exact h
    · cases hs
      exact h.start hmain _
  | stop =>
    obtain ⟨hmain, hr'⟩ := Option.ite_none_right_eq_some.1 hs
    cases hr'
    exact h.stop hmain
  | main => exact h.mainStep hs
  | loop ans => exact h.loopStep hs

theorem Inv.closed_of_idle (h : r.Inv) (hidle : r.loop = .idle) :
    ∀ s < r.created, s ∈ r.closes := by
  intro s hs
  by_contra hopen
  rcases h.opened s hs hopen with hflight | hsock
  · rw [hidle] at hflight
    cases hflight
  · rw [h.idle hidle] at hsock
    cases hsock

end ReceiverThreads

/-- **No socket is left open.** In every interleaving of the loop with `start` and `stop`,
and whatever the library answers: the sockets that are open are the one being connected and
the one in `sock`; no socket is closed more than twice; and whenever no loop runs, every
socket that was created has been closed. -/
theorem receiver_closes {es : List ReceiverThreadEvent} {r : ReceiverThreads}
    (hrun : Run ReceiverThreads.step (fun _ _ => True) .init es r) :
    (∀ s < r.created, s ∉ r.closes → r.loop.inFlight = some s ∨ r.sock = some s) ∧
      (∀ s, r.closes.count s ≤ 2) ∧
      (r.loop = .idle → ∀ s < r.created, s ∈ r.closes) := by
  have h : r.Inv := hrun.invariant ReceiverThreads.Inv.init fun _ _ _ h _ hs => h.step hs
  exact ⟨h.opened, h.count_le, h.closed_of_idle⟩

/-- A loop that connects and waits for a message, a `stop` that closes its connection, and
the end of the loop, which closes it again before `stop` has cleared it. -/
def receiverStopEvents : List ReceiverThreadEvent :=
  [.start, .loop .ok, .loop .ok, .loop .ok, .loop .ok, .loop .ok, .loop .ok, .loop .ok,
    .loop .ok, .stop, .main, .main, .loop .connectionLost, .loop .ok, .main, .loop .ok,
    .loop .ok, .loop .ok]

/-- In that run there is one socket, and it is closed twice. -/
theorem receiver_closes_witness :
    let r := (exec ReceiverThreads.step (fun _ _ => True) .init receiverStopEvents).get
      (by decide)
    r.created = 1 ∧ r.closes.count 0 = 2 ∧ ∀ s < r.created, s ∈ r.closes := by
  intro r
  have hrun : Run ReceiverThreads.step (fun _ _ => True) .init receiverStopEvents r :=
    run_get (by decide)
  exact ⟨by decide, by decide, (receiver_closes hrun).2.2 (by decide)⟩

/-! ### After a stop -/

/-- What is not up to the owner of the receiver. -/
def ReceiverThreadEvent.IsStep : ReceiverThreadEvent → Prop
  | .main | .loop _ => True
  | .start | .stop => False

/-- The step will be taken: only `srt_recvmsg` on an open connection may wait for ever. -/
def ReceiverThreads.Due (r : ReceiverThreads) : ReceiverThreadEvent → Prop
  | .main => True
  | .loop _ => r.loop = .receiving → ∀ s, r.sock = some s → s ∈ r.closes
  | .start | .stop => False

/-- Both threads are done, no loop waits in the queue, and every socket is closed. -/
def ReceiverThreads.AtRest (r : ReceiverThreads) : Prop :=
  r.loop = .idle ∧ r.queued = 0 ∧ r.main = .idle ∧ ∀ s < r.created, s ∈ r.closes

/-- The loop does not wait for a message once `stop` has passed. -/
def ReceiverThreads.Woken (r : ReceiverThreads) : Prop :=
  r.running = false → r.loop = .receiving →
    r.main = .reading ∨ ∀ s, r.sock = some s → r.main = .closing s ∨ s ∈ r.closes

/-- How many steps the loop is from its end, at most. -/
def RecvLoop.stepsLeft : RecvLoop → ℕ
  | .idle => 0
  | .closed => 1
  | .closing => 2
  | .cleanup => 3
  | .head | .guarding => 4
  | .clearing | .retry | .connected _ => 5
  | .lost | .sleeping => 6
  | .failed | .refused _ => 7
  | .receiving | .connecting _ => 8
  | .creating => 9
  | .looking => 10

/-- How many steps `stop` is from its end, at most. -/
def StopCall.stepsLeft : StopCall → ℕ
  | .idle => 0
  | .clearing _ => 1
  | .closing _ => 2
  | .reading => 3

/-- How many steps the receiver is from its rest, at most. -/
def ReceiverThreads.stepsLeft (r : ReceiverThreads) : ℕ :=
  5 * r.queued + r.loop.stepsLeft + r.main.stepsLeft

namespace ReceiverThreads

variable {r r' : ReceiverThreads} {ans : LoopAnswer} {e : ReceiverThreadEvent}

/-- What a step of the loop leaves alone. -/
theorem loopStep_spec (hs : r.loopStep ans = some r') :
    r'.running = r.running ∧ r'.main = r.main ∧
      (r'.loop = .receiving → r.loop = .guarding ∧ r.running = true) := by
  revert hs
  rw [loopStep.eq_def]
  cases r.loop
  case idle =>
    intro hs
    obtain ⟨-, hr'⟩ := Option.ite_none_right_eq_some.1 hs
    cases hr'
    exact ⟨rfl, rfl, fun hl => by cases hl⟩
  case guarding =>
    rintro ⟨⟩
    refine ⟨rfl, rfl, fun hl => ⟨rfl, ?_⟩⟩
    by_contra hr
    have hl : (if r.running then RecvLoop.receiving else .cleanup) = .receiving := hl
    rw [if_neg hr] at hl
    cases hl
  case receiving =>
    cases ans
    all_goals
      rintro ⟨⟩
      exact ⟨rfl, rfl, fun hl => by cases hl⟩
  case creating =>
    dsimp only
    split
    all_goals
      rintro ⟨⟩
      exact ⟨rfl, rfl, fun hl => by cases hl⟩
  case head | retry | looking | connecting | failed | cleanup =>
    rintro ⟨⟩
    refine ⟨rfl, rfl, fun hl => ?_⟩
    revert hl
    dsimp only
    split
    all_goals
      intro hl
      cases hl
  all_goals
    rintro ⟨⟩
    exact ⟨rfl, rfl, fun hl => by cases hl⟩

/-- What a step of `stop` does. -/
theorem mainStep_spec (hs : r.mainStep = some r') :
    r'.running = r.running ∧ r'.loop = r.loop ∧ r'.queued = r.queued ∧
      r'.main.stepsLeft < r.main.stepsLeft ∧
      ∀ s, r'.sock = some s → r.main = .reading ∧ r'.main = .closing s ∨
        r.sock = some s ∧ ∃ x, r.main = .closing x ∧ x ∈ r'.closes ∧
          ∀ t ∈ r.closes, t ∈ r'.closes := by
  revert hs
  rw [mainStep.eq_def]
  cases hmain : r.main
  case idle =>
    intro hs
    cases hs
  case reading =>
    dsimp only
    split
    · next hsock =>
      rintro ⟨⟩
      exact ⟨rfl, rfl, rfl, Nat.zero_lt_succ 2, fun s hs => absurd (hsock.symm.trans hs)
        (Option.some_ne_none s).symm⟩
    · next x hsock =>
      rintro ⟨⟩
      refine ⟨rfl, rfl, rfl, Nat.lt_succ_self _, fun s hs => ?_⟩
      cases hsock.symm.trans hs
      exact .inl ⟨rfl, rfl⟩
  case closing x =>
    rintro ⟨⟩
    refine ⟨rfl, rfl, rfl, Nat.lt_succ_self _, fun s hs => ?_⟩
    exact .inr ⟨hs, x, rfl, mem_srtClose.2 (.inr rfl), fun t ht => mem_srtClose.2 (.inl ht)⟩
  case clearing x =>
    rintro ⟨⟩
    exact ⟨rfl, rfl, rfl, Nat.lt_succ_self _, fun s hs => absurd hs
      (Option.some_ne_none s).symm⟩

theorem Woken.step (h : r.Woken) (hs : r.step e = some r') : r'.Woken := by
  intro hrunning hloop
  cases e with
  | start =>
    obtain ⟨hmain, hs⟩ := Option.ite_none_right_eq_some.1 hs
    split at hs
    · cases hs
      exact h hrunning hloop
    · cases hs
      cases hrunning
  | stop =>
    obtain ⟨hmain, hr'⟩ := Option.ite_none_right_eq_some.1 hs
    cases hr'
    exact .inl rfl
  | main =>
    obtain ⟨hrunning', hloop', -, -, hsock⟩ := mainStep_spec hs
    refine .inr fun s hs => ?_
    rcases hsock s hs with ⟨-, hclosing⟩ | ⟨hsock, x, hx, hmem, hmono⟩
    · exact .inl hclosing
    · rcases h (hrunning' ▸ hrunning) (hloop' ▸ hloop) with hreading | hwoken
      · rw [hx] at hreading
        cases hreading
      · rcases hwoken s hsock with hm | hm
        · rw [hx] at hm
          cases hm
          exact .inr hmem
        · exact .inr (hmono s hm)
  | loop ans =>
    obtain ⟨hrunning', -, hreceiving⟩ := loopStep_spec hs
    rw [hrunning', (hreceiving hloop).2] at hrunning
    cases hrunning

/-- **A step of the loop brings its end nearer** once `running` is cleared. -/
theorem loopStep_stepsLeft (hr : r.running = false) (hs : r.loopStep ans = some r') :
    r'.stepsLeft < r.stepsLeft := by
  rw [stepsLeft, stepsLeft, (loopStep_spec hs).2.1]
  revert hs
  rw [loopStep.eq_def]
  cases hl : r.loop
  case idle =>
    intro hs
    obtain ⟨hpos, hr'⟩ := Option.ite_none_right_eq_some.1 hs
    cases hr'
    simp only [RecvLoop.stepsLeft]
    omega
  case receiving =>
    cases ans
    all_goals
      rintro ⟨⟩
      simp [RecvLoop.stepsLeft]
  case creating =>
    dsimp only
    split
    all_goals
      rintro ⟨⟩
      simp [RecvLoop.stepsLeft]
  case head | retry | guarding | failed =>
    rintro ⟨⟩
    simp [hr, RecvLoop.stepsLeft]
  case looking | connecting | cleanup =>
    rintro ⟨⟩
    dsimp only
    split
    all_goals simp [RecvLoop.stepsLeft]
  all_goals
    rintro ⟨⟩
    simp [RecvLoop.stepsLeft, srtClose]

/-- The loop can always move, unless there is none. -/
theorem loopStep_isSome (h : ¬(r.loop = .idle ∧ r.queued = 0)) :
    ∃ r', r.loopStep .ok = some r' := by
  rw [loopStep.eq_def]
  cases hl : r.loop
  case idle =>
    have hpos : 0 < r.queued := Nat.pos_of_ne_zero fun hzero => h ⟨hl, hzero⟩
    exact ⟨_, if_pos hpos⟩
  all_goals exact ⟨_, rfl⟩

theorem mainStep_isSome (h : r.main ≠ .idle) : ∃ r', r.mainStep = some r' := by
  rw [mainStep.eq_def]
  cases hm : r.main
  case idle => exact absurd hm h
  case reading =>
    dsimp only
    split
    all_goals exact ⟨_, rfl⟩
  all_goals exact ⟨_, rfl⟩

/-- **Something is due** after a stop, until both threads are at rest. -/
theorem Woken.progress (h : r.Woken) (hr : r.running = false)
    (hrest : ¬(r.loop = .idle ∧ r.queued = 0 ∧ r.main = .idle)) :
    ∃ e r', e.IsStep ∧ r.Due e ∧ r.step e = some r' := by
  by_cases hmain : r.main = .idle
  · obtain ⟨r', hs⟩ := loopStep_isSome fun hidle => hrest ⟨hidle.1, hidle.2, hmain⟩
    refine ⟨.loop .ok, r', trivial, fun hloop s hsock => ?_, hs⟩
    rcases h hr hloop with hreading | hwoken
    · rw [hmain] at hreading
      cases hreading
    · refine (hwoken s hsock).resolve_left fun hclosing => ?_
      rw [hmain] at hclosing
      cases hclosing
  · obtain ⟨r', hs⟩ := mainStep_isSome hmain
    exact ⟨.main, r', trivial, trivial, hs⟩

end ReceiverThreads

/-- **A stop is not lost.** Wherever a run has arrived with `running` cleared: unless
`start` or `stop` is called, the loop and those that wait in the queue end, whatever the
schedule and the answers of the library, and every socket is closed then. Until then a step
is due, and no message has to come for it. -/
theorem receiver_stops {es : List ReceiverThreadEvent} {r : ReceiverThreads}
    (hrun : Run ReceiverThreads.step (fun _ _ => True) .init es r) (hr : r.running = false) :
    Inevitable ReceiverThreads.step (fun _ e => e.IsStep) ReceiverThreads.Due
      ReceiverThreads.AtRest r := by
  have hinv : r.Inv := hrun.invariant ReceiverThreads.Inv.init fun _ _ _ h _ hs => h.step hs
  have hwoken : r.Woken :=
    hrun.invariant (fun _ hloop => by cases hloop) fun _ _ _ h _ hs => h.step hs
  refine Inevitable.of_measure (I := fun r => r.Inv ∧ r.Woken ∧ r.running = false)
    ReceiverThreads.stepsLeft ?_ ?_ ⟨hinv, hwoken, hr⟩
  · rintro r ⟨hinv, hwoken, hr⟩ hrest
    refine hwoken.progress hr fun ⟨hloop, hqueued, hmain⟩ => ?_
    exact hrest ⟨hloop, hqueued, hmain, hinv.closed_of_idle hloop⟩
  · rintro r e r' ⟨hinv, hwoken, hr⟩ - hstep hs
    refine ⟨⟨hinv.step hs, hwoken.step hs, ?_⟩, ?_⟩
    · cases e with
      | start | stop => exact absurd hstep id
      | main => exact (ReceiverThreads.mainStep_spec hs).1.trans hr
      | loop ans => exact (ReceiverThreads.loopStep_spec hs).1.trans hr
    · cases e with
      | start | stop => exact absurd hstep id
      | main =>
        obtain ⟨-, hloop, hqueued, hless, -⟩ := ReceiverThreads.mainStep_spec hs
        rw [ReceiverThreads.stepsLeft, ReceiverThreads.stepsLeft, hloop, hqueued]
        exact Nat.add_lt_add_left hless _
      | loop ans => exact ReceiverThreads.loopStep_stepsLeft hr hs

/-- The loop waits for a message when `stop` is called. -/
theorem receiver_stops_witness :
    let r := (exec ReceiverThreads.step (fun _ _ => True) .init
      (receiverStopEvents.take 10)).get (by decide)
    r.loop = .receiving ∧ Inevitable ReceiverThreads.step (fun _ e => e.IsStep)
      ReceiverThreads.Due ReceiverThreads.AtRest r := by
  intro r
  have hrun : Run ReceiverThreads.step (fun _ _ => True) .init (receiverStopEvents.take 10) r :=
    run_get (by decide)
  exact ⟨by decide, receiver_stops hrun (by decide)⟩

end DisplayBridge
