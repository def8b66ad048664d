import DisplayBridge.Lib.Handles
import DisplayBridge.Ubuntu.Streamer

/-!
# The connection of the streamer

A streamer has at most one connection. That there is one is kept twice, in the flag
`connected` and in the handle `client_sock`, and five functions of `streamer.c` end the
connection: `db_streamer_accept` before it waits for another one, `db_streamer_send` and
`db_streamer_send_heartbeat` when SRT does not take a message and the socket is broken,
`db_streamer_is_connected` when it finds the socket broken, and `db_streamer_destroy`.

In whatever order they are called, and whatever the library answers, the flag and the
handle agree, no socket is used after it was closed, and every socket is closed exactly
once (`DisplayBridge.connection_consistent`). The invariant is that the open sockets are
the listener and, if the handle is valid, the client
(`DisplayBridge.Listening.sockets`), and each call keeps it (`DisplayBridge.Keeps`).
-/

namespace DisplayBridge

open Handles

/-! ### The streamer with its listener -/

/-- A call of the library, also while a connection is accepted or looked at. -/
inductive SrtEvent
  /-- What is called while messages are sent. -/
  | call (c : SrtCall)
  | epollCreate (result : Int32)
  | epollAddUsock (epoll : Int32) (sock : SrtSocket)
  | epollUwait (epoll result : Int32)
  | epollRelease (epoll : Int32)
  | accept (listener result : SrtSocket)
  | setsockflag (sock : SrtSocket)
  | bstats (sock : SrtSocket) (result : Int32)
deriving DecidableEq

/-- What a call does to sockets. -/
def SrtEvent.ops : SrtEvent → List (Op SrtSocket)
  | .call (.sendmsg2 sock _ _) => [.used sock]
  | .call (.getsockstate sock _) => [.used sock]
  | .call (.close sock) => [.closed sock]
  | .epollAddUsock _ sock => [.used sock]
  | .accept listener result =>
    if result = srtInvalidSock then [.used listener] else [.used listener, .opened result]
  | .setsockflag sock => [.used sock]
  | .bstats sock _ => [.used sock]
  | .epollCreate _ | .epollUwait _ _ | .epollRelease _ => []

/-- `struct db_streamer` with its listener. -/
structure Listening extends DbStreamer where
  listenSock : SrtSocket
deriving DecidableEq

/-- What a function returns, the streamer after it, and the calls it has made. -/
structure ListeningReturned where
  ret : Int32
  streamer : Listening
  events : List SrtEvent
deriving DecidableEq

/-- The end of a successful `db_streamer_init`, at the time `now`. -/
def dbStreamerInit (listenSock : SrtSocket) (now : UInt64) : Listening where
  clientSock := srtInvalidSock
  connected := false
  seq := 0
  startTimeUs := now
  listenSock := listenSock

/-- What the library answers to `db_streamer_accept`. -/
structure AcceptAnswers where
  epollId : Int32
  uwait : Int32
  accepted : SrtSocket
  now : UInt64
deriving DecidableEq

/-- The start of `db_streamer_accept`: a connection that is there is ended. -/
def disconnect (s : Listening) : Listening × List SrtEvent :=
  if s.clientSock ≠ srtInvalidSock then
    ({ s with clientSock := srtInvalidSock, connected := false }, [.call (.close s.clientSock)])
  else (s, [])

/-- `db_streamer_accept`. -/
def dbStreamerAccept (s : Listening) (srt : AcceptAnswers) : ListeningReturned :=
  let (s, closing) := disconnect s
  if srt.epollId < 0 then ⟨-1, s, closing ++ [.epollCreate srt.epollId]⟩
  else
    let waiting := closing ++ [.epollCreate srt.epollId,
      .epollAddUsock srt.epollId s.listenSock, .epollUwait srt.epollId srt.uwait,
      .epollRelease srt.epollId]
    if srt.uwait ≤ 0 then ⟨-1, s, waiting⟩
    else
      let s := { s with clientSock := srt.accepted }
      let accepting := waiting ++ [.accept s.listenSock srt.accepted]
      if s.clientSock = srtInvalidSock then ⟨-1, s, accepting⟩
      else
        ⟨0, { s with connected := true, seq := 0, startTimeUs := srt.now },
          accepting ++ [.setsockflag s.clientSock]⟩

/-- `db_streamer_is_connected`. -/
def dbStreamerIsConnected (s : Listening) (state : SrtSockStatus) : ListeningReturned :=
  if s.clientSock = srtInvalidSock then ⟨0, s, []⟩
  else
    let asking := SrtEvent.call (.getsockstate s.clientSock state)
    if state = .connected then ⟨1, s, [asking]⟩
    else if state = .broken ∨ state = .closed ∨ state = .nonexist then
      ⟨0, { s with connected := false, clientSock := srtInvalidSock },
        [asking, .call (.close s.clientSock)]⟩
    else ⟨0, s, [asking]⟩

/-- `db_streamer_get_stats`; the figures themselves are left out. -/
def dbStreamerGetStats (s : Listening) (bstats : Int32) : ListeningReturned :=
  if s.clientSock = srtInvalidSock ∨ s.connected = false then ⟨-1, s, []⟩
  else if bstats ≠ 0 then ⟨-1, s, [.bstats s.clientSock bstats]⟩
  else ⟨0, s, [.bstats s.clientSock bstats]⟩

/-- The sockets `db_streamer_destroy` closes. -/
def dbStreamerDestroy (s : Listening) : List SrtEvent :=
  (if s.clientSock ≠ srtInvalidSock then [.call (.close s.clientSock)] else []) ++
    if s.listenSock ≠ srtInvalidSock then [.call (.close s.listenSock)] else []

/-- A call to the streamer, with what the library answers. -/
inductive ConnectionCall
  | accept (srt : AcceptAnswers)
  /-- `db_streamer_send` or `db_streamer_send_heartbeat`. -/
  | message (call : StreamerCall) (now : UInt64) (srt : SrtAnswers)
  | isConnected (state : SrtSockStatus)
  | getStats (bstats : Int32)

/-- What a call returns. -/
def Listening.answer (s : Listening) : ConnectionCall → ListeningReturned
  | .accept srt => dbStreamerAccept s srt
  | .message call now srt =>
    let returned := s.toDbStreamer.call (call, now, srt)
    ⟨returned.ret, { s with toDbStreamer := returned.streamer },
      returned.calls.map SrtEvent.call⟩
  | .isConnected state => dbStreamerIsConnected s state
  | .getStats bstats => dbStreamerGetStats s bstats

/-- The streamer after some calls. -/
def Listening.after (s : Listening) (calls : List ConnectionCall) : Listening :=
  calls.foldl (fun s call => (s.answer call).streamer) s

/-- What some calls have called, in order. -/
def Listening.events : Listening → List ConnectionCall → List SrtEvent
  | _, [] => []
  | s, call :: calls => (s.answer call).events ++ (s.answer call).streamer.events calls

/-- What some calls, and `db_streamer_destroy` behind them, have done to sockets. -/
def Listening.history (s : Listening) (calls : List ConnectionCall) : List (Op SrtSocket) :=
  (s.events calls ++ dbStreamerDestroy (s.after calls)).flatMap SrtEvent.ops

/-! ### The invariant -/

/-- The open sockets. -/
def Listening.sockets (s : Listening) : Multiset SrtSocket :=
  if s.clientSock = srtInvalidSock then {s.listenSock} else {s.clientSock, s.listenSock}

/-- The flag and the handle agree. -/
def DbStreamer.Agrees (s : DbStreamer) : Prop :=
  s.connected = true ↔ s.clientSock ≠ srtInvalidSock

/-- **What a function keeps**: the flag and the handle agree after it if they did before, it
is sound on the open sockets, and it leaves the open sockets behind. -/
structure Keeps (s : Listening) (returned : ListeningReturned) : Prop where
  agrees : returned.streamer.Agrees
  listener : returned.streamer.listenSock = s.listenSock
  sound : Sound s.sockets (returned.events.flatMap SrtEvent.ops)
  sockets : Handles.after s.sockets (returned.events.flatMap SrtEvent.ops) =
    returned.streamer.sockets

variable {s : Listening}

theorem sockets_of_invalid (h : s.clientSock = srtInvalidSock) : s.sockets = {s.listenSock} :=
  if_pos h

theorem sockets_of_valid (h : s.clientSock ≠ srtInvalidSock) :
    s.sockets = {s.clientSock, s.listenSock} :=
  if_neg h

theorem listenSock_mem_sockets (s : Listening) : s.listenSock ∈ s.sockets := by
  rw [Listening.sockets]
  split <;> simp

theorem clientSock_mem_sockets (h : s.clientSock ≠ srtInvalidSock) :
    s.clientSock ∈ s.sockets := by
  rw [sockets_of_valid h]
  simp

/-- Closing the client leaves the listener. -/
theorem erase_clientSock (h : s.clientSock ≠ srtInvalidSock) :
    s.sockets.erase s.clientSock = {s.listenSock} := by
  rw [sockets_of_valid h]
  exact Multiset.erase_cons_head _ _

/-- A function that makes calls on open sockets only, and closes none. -/
theorem keeps_of_used (h : s.Agrees) {ret : Int32} {events : List SrtEvent}
    (hused : ∀ op ∈ events.flatMap SrtEvent.ops, ∃ sock ∈ s.sockets, op = .used sock) :
    Keeps s ⟨ret, s, events⟩ := by
  suffices hall : ∀ l : List (Op SrtSocket), (∀ op ∈ l, ∃ sock ∈ s.sockets, op = .used sock) →
      Sound s.sockets l ∧ Handles.after s.sockets l = s.sockets by
    obtain ⟨hsound, hafter⟩ := hall _ hused
    exact ⟨h, rfl, hsound, hafter⟩
  intro l hl
  induction l with
  | nil => exact ⟨trivial, rfl⟩
  | cons op l ih =>
    obtain ⟨⟨sock, hsock, rfl⟩, hrest⟩ := List.forall_mem_cons.1 hl
    obtain ⟨hsound, hafter⟩ := ih hrest
    refine ⟨⟨?_, hsound⟩, hafter⟩
    rintro a ⟨⟩
    exact hsock

/-- A message, whichever it is. -/
theorem keeps_sendMessage (h : s.Agrees) (hvalid : s.clientSock ≠ srtInvalidSock)
    (s' : DbStreamer) (hsock : s'.clientSock = s.clientSock) (hflag : s'.connected = s.connected)
    (message : List UInt8) (srt : SrtAnswers) :
    Keeps s ⟨(sendMessage s' message srt).ret,
      { s with toDbStreamer := (sendMessage s' message srt).streamer },
      (sendMessage s' message srt).calls.map SrtEvent.call⟩ := by
  have hmem := clientSock_mem_sockets hvalid
  have hagrees : s'.Agrees := by
    rw [DbStreamer.Agrees, hsock, hflag]
    exact h
  have hsockets : Listening.sockets { s with toDbStreamer := s' } = s.sockets := by
    rw [Listening.sockets, Listening.sockets, hsock]
  rw [sendMessage, hsock]
  by_cases hsent : srt.sent < 0
  · by_cases hlost : srt.state = .broken ∨ srt.state = .closed ∨ srt.state = .nonexist
    · simp only [if_pos hsent, if_pos hlost]
      refine ⟨?_, rfl, ?_, ?_⟩
      · exact iff_of_false Bool.false_ne_true fun hno => hno rfl
      · simp [SrtEvent.ops, hmem]
      · exact erase_clientSock hvalid
    · simp only [if_pos hsent, if_neg hlost]
      refine ⟨hagrees, rfl, ?_, ?_⟩
      · simp [SrtEvent.ops, hmem]
      · exact hsockets.symm
  · simp only [if_neg hsent]
    refine ⟨hagrees, rfl, ?_, ?_⟩
    · simp [SrtEvent.ops, hmem]
    · exact hsockets.symm

/-- The start of `db_streamer_accept`. -/
theorem keeps_disconnect (h : s.Agrees) (ret : Int32) :
    (disconnect s).1.clientSock = srtInvalidSock ∧
      Keeps s ⟨ret, (disconnect s).1, (disconnect s).2⟩ := by
  rw [disconnect]
  by_cases hvalid : s.clientSock ≠ srtInvalidSock
  · rw [if_pos hvalid]
    refine ⟨rfl, ?_, rfl, ?_, ?_⟩
    · exact iff_of_false Bool.false_ne_true fun hno => hno rfl
    · simp [SrtEvent.ops, clientSock_mem_sockets hvalid]
    · exact erase_clientSock hvalid
  · rw [if_neg hvalid]
    exact ⟨not_not.1 hvalid, h, rfl, trivial, rfl⟩

/-- More calls behind those of a function. -/
theorem Keeps.trans {r r' : ListeningReturned} (h : Keeps s r) (h' : Keeps r.streamer r') :
    Keeps s ⟨r'.ret, r'.streamer, r.events ++ r'.events⟩ := by
  refine ⟨h'.agrees, h'.listener.trans h.listener, ?_, ?_⟩
  · rw [List.flatMap_append, sound_append, h.sockets]
    exact ⟨h.sound, h'.sound⟩
  · rw [List.flatMap_append, after_append, h.sockets]
    exact h'.sockets

/-! ### Each function -/

theorem keeps_accept (h : s.Agrees) (srt : AcceptAnswers) : Keeps s (dbStreamerAccept s srt) := by
  obtain ⟨hinvalid, hdisconnect⟩ := keeps_disconnect h 0
  have hagrees := hdisconnect.agrees
  rw [dbStreamerAccept]
  generalize disconnect s = started at *
  obtain ⟨s', closing⟩ := started
  dsimp only at *
  by_cases hepoll : srt.epollId < 0
  · rw [if_pos hepoll]
    exact hdisconnect.trans (keeps_of_used hagrees (by simp [SrtEvent.ops]))
  · rw [if_neg hepoll]
    have hlisten := listenSock_mem_sockets s'
    by_cases huwait : srt.uwait ≤ 0
    · rw [if_pos huwait]
      refine hdisconnect.trans (keeps_of_used hagrees ?_)
      simp [SrtEvent.ops, hlisten]
    · rw [if_neg huwait]
      by_cases haccepted : srt.accepted = srtInvalidSock
      · -- nobody was accepted, and the handle is as invalid as before
        have hsame : { s' with clientSock := srt.accepted } = s' := by
          rw [haccepted, ← hinvalid]
        rw [if_pos haccepted, List.append_assoc, hsame]
        refine hdisconnect.trans (keeps_of_used hagrees ?_)
        simp [SrtEvent.ops, haccepted, hlisten]
      · rw [if_neg haccepted, List.append_assoc, List.append_assoc]
        have hopened : Keeps s' ⟨0, { s' with
            clientSock := srt.accepted, connected := true, seq := 0, startTimeUs := srt.now },
            [.epollCreate srt.epollId, .epollAddUsock srt.epollId s'.listenSock,
              .epollUwait srt.epollId srt.uwait, .epollRelease srt.epollId] ++
              ([.accept s'.listenSock srt.accepted] ++ [.setsockflag srt.accepted])⟩ := by
          refine ⟨iff_of_true rfl haccepted, rfl, ?_, ?_⟩
          · simp [SrtEvent.ops, haccepted, hlisten]
          · rw [sockets_of_invalid hinvalid, sockets_of_valid haccepted]
            simp [SrtEvent.ops, haccepted]
        exact hdisconnect.trans hopened

theorem keeps_isConnected (h : s.Agrees) (state : SrtSockStatus) :
    Keeps s (dbStreamerIsConnected s state) := by
  rw [dbStreamerIsConnected]
  by_cases hvalid : s.clientSock = srtInvalidSock
  · rw [if_pos hvalid]
    exact keeps_of_used h (by simp)
  · have hmem := clientSock_mem_sockets hvalid
    rw [if_neg hvalid]
    by_cases hconnected : state = .connected
    · rw [if_pos hconnected]
      exact keeps_of_used h (by simp [SrtEvent.ops, hmem])
    · rw [if_neg hconnected]
      by_cases hlost : state = .broken ∨ state = .closed ∨ state = .nonexist
      · rw [if_pos hlost]
        refine ⟨?_, rfl, ?_, ?_⟩
        · exact iff_of_false Bool.false_ne_true fun hno => hno rfl
        · simp [SrtEvent.ops, hmem]
        · exact erase_clientSock hvalid
      · rw [if_neg hlost]
        exact keeps_of_used h (by simp [SrtEvent.ops, hmem])

theorem keeps_getStats (h : s.Agrees) (bstats : Int32) :
    Keeps s (dbStreamerGetStats s bstats) := by
  rw [dbStreamerGetStats]
  by_cases hconn : s.clientSock = srtInvalidSock ∨ s.connected = false
  · rw [if_pos hconn]
    exact keeps_of_used h (by simp)
  · have hmem := clientSock_mem_sockets fun hinvalid => hconn (Or.inl hinvalid)
    rw [if_neg hconn]
    split
    · exact keeps_of_used h (by simp [SrtEvent.ops, hmem])
    · exact keeps_of_used h (by simp [SrtEvent.ops, hmem])

theorem keeps_message (h : s.Agrees) (call : StreamerCall) (now : UInt64) (srt : SrtAnswers) :
    Keeps s (s.answer (.message call now srt)) := by
  rw [Listening.answer]
  rcases s.toDbStreamer.call_cases call now srt with hnothing | ⟨hconn, message, hsend⟩
  · rw [hnothing]
    exact keeps_of_used h (by simp)
  · rw [hsend]
    exact keeps_sendMessage h hconn.2 { s.toDbStreamer with seq := s.seq + 1 } rfl rfl message srt

/-- **The step lemma.** -/
theorem keeps_answer (h : s.Agrees) (call : ConnectionCall) : Keeps s (s.answer call) := by
  cases call with
  | accept srt => exact keeps_accept h srt
  | message call now srt => exact keeps_message h call now srt
  | isConnected state => exact keeps_isConnected h state
  | getStats bstats => exact keeps_getStats h bstats

/-! ### Any number of calls -/

/-- **The run lemma.** -/
theorem keeps_events (h : s.Agrees) (calls : List ConnectionCall) :
    Keeps s ⟨0, s.after calls, s.events calls⟩ := by
  induction calls generalizing s with
  | nil => exact ⟨h, rfl, trivial, rfl⟩
  | cons call calls ih =>
    have hcall := keeps_answer h call
    exact hcall.trans (ih hcall.agrees)

/-- `db_streamer_destroy` closes what is open. -/
theorem after_destroy (hlisten : s.listenSock ≠ srtInvalidSock) :
    Sound s.sockets ((dbStreamerDestroy s).flatMap SrtEvent.ops) ∧
      Handles.after s.sockets ((dbStreamerDestroy s).flatMap SrtEvent.ops) = 0 := by
  rw [dbStreamerDestroy, if_pos hlisten]
  by_cases hvalid : s.clientSock = srtInvalidSock
  · rw [if_neg (not_not.2 hvalid), sockets_of_invalid hvalid]
    simp [SrtEvent.ops]
  · rw [if_pos hvalid]
    have hmem := clientSock_mem_sockets hvalid
    have herase := erase_clientSock hvalid
    simp [SrtEvent.ops, hmem, herase]

/-- The sockets that were accepted. -/
def accepted (events : List SrtEvent) : List SrtSocket :=
  events.filterMap fun
    | .accept _ result => if result = srtInvalidSock then none else some result
    | _ => none

/-- A history opens what was accepted. -/
theorem opens_ops (sock : SrtSocket) (events : List SrtEvent) :
    opens sock (events.flatMap SrtEvent.ops) = (accepted events).count sock := by
  induction events with
  | nil => rfl
  | cons event events ih =>
    have hevent : opens sock event.ops = (accepted [event]).count sock := by
      cases event with
      | accept listener result =>
        by_cases hinvalid : result = srtInvalidSock
        · simp [SrtEvent.ops, accepted, opens, hinvalid]
        · simp [SrtEvent.ops, accepted, opens, hinvalid, List.count_cons]
      | call c => cases c <;> rfl
      | _ => rfl
    have happend : accepted (event :: events) = accepted [event] ++ accepted events :=
      List.filterMap_append (l := [event])
    rw [List.flatMap_cons, opens, List.count_append, happend, List.count_append, ← ih, ← hevent]
    rfl

/-- **The connection is consistent.** After any calls to a streamer that listens, whatever the
library answers, the flag and the handle agree. In the history of the calls, ended by
`db_streamer_destroy`, sockets are used and closed only while they are open; nothing is
open in the end; and each socket is closed as often as it was accepted – and the listener
once. -/
theorem connection_consistent {listenSock : SrtSocket} (hlisten : listenSock ≠ srtInvalidSock)
    (now : UInt64) (calls : List ConnectionCall) :
    let s := dbStreamerInit listenSock now
    (s.after calls).Agrees ∧ Sound {listenSock} (s.history calls) ∧
      Handles.after {listenSock} (s.history calls) = 0 ∧
      ∀ sock, closes sock (s.history calls) =
        (accepted (s.events calls)).count sock + if sock = listenSock then 1 else 0 := by
  intro s
  have hinit : s.Agrees := iff_of_false Bool.false_ne_true fun hno => hno rfl
  have hsockets : s.sockets = {listenSock} := sockets_of_invalid rfl
  have hcalls := keeps_events hinit calls
  have hlistener : (s.after calls).listenSock = listenSock := hcalls.listener
  obtain ⟨hsound, hafter⟩ := after_destroy (hlistener ▸ hlisten)
  have hhistory : Sound {listenSock} (s.history calls) := by
    rw [Listening.history, List.flatMap_append, sound_append, ← hsockets, hcalls.sockets]
    exact ⟨hcalls.sound, hsound⟩
  have hend : Handles.after {listenSock} (s.history calls) = 0 := by
    rw [Listening.history, List.flatMap_append, after_append, ← hsockets, hcalls.sockets]
    exact hafter
  refine ⟨hcalls.agrees, hhistory, hend, fun sock => ?_⟩
  have hdestroy : accepted (dbStreamerDestroy (s.after calls)) = [] := by
    rw [dbStreamerDestroy]
    split_ifs <;> rfl
  have haccepted : accepted (s.events calls ++ dbStreamerDestroy (s.after calls)) =
      accepted (s.events calls) := by
    rw [accepted, List.filterMap_append, ← accepted, ← accepted, hdestroy, List.append_nil]
  rw [closes_eq hhistory hend, Listening.history, opens_ops, haccepted,
    Multiset.count_singleton, Nat.add_comm]

/-- A receiver that connects, is lost while a heartbeat is sent, and connects again, on a
socket of the same number. -/
theorem connection_consistent_reconnect :
    let s := dbStreamerInit 3 0
    let calls := [.accept ⟨1, 1, 7, 10⟩, .message .sendHeartbeat 20 ⟨-1, .broken⟩,
      .accept ⟨1, 1, 7, 30⟩, .getStats 0]
    (s.after calls).connected = true ∧ closes 7 (s.history calls) = 2 := by
  intro s calls
  obtain ⟨hagrees, -, -, hcloses⟩ :=
    connection_consistent (by decide : (3 : SrtSocket) ≠ srtInvalidSock) 0 calls
  exact ⟨hagrees.2 (by decide), (hcloses 7).trans (by decide)⟩

end DisplayBridge
