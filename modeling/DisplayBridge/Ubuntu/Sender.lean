import DisplayBridge.Ubuntu.Encode
import DisplayBridge.Ubuntu.RingQueue
import DisplayBridge.Ubuntu.Streamer

/-!
# The sender

The two threads of `main.c` that share the encoder and the ring, as one step
machine. The capture thread encodes a frame (`on_frame_captured` up to its check of
the output) and pushes it; the main thread accepts a receiver, flushes the ring,
forces an IDR picture, and then pops and sends until the connection ends. Each of
these is one step, and the steps of the two threads may come in any order:
`DisplayBridge.senderStep`. What the driver, the allocator and the network answer
is in the events.

The encoder is the one of `DisplayBridge.encodeSurface`, so an encode is never
overlapped by the call that forces an IDR picture. What is left out changes
nothing of which frame is sent when: the bit rate, heartbeats, statistics.

What a step does is listed once (`DisplayBridge.Sender.Moves`), and what the steps
keep is proved from the list.

The entry `ring_pop` returns is in the ring, and `db_streamer_send` reads it there
when it is called. So the main thread holds a slot, and – for the history only –
what the slot held when it was popped.
-/

namespace DisplayBridge

/-- A frame with its number among all that were encoded. -/
structure Shot where
  serial : ℕ
  frame : EncodedFrame
deriving DecidableEq

/-- How a frame is lost. -/
inductive Loss
  /-- The encoder gave no bytes. -/
  | emptyOutput
  /-- `ring_push` found no buffer. -/
  | failedPush
  /-- `ring_push` made room. -/
  | dropOldest
  /-- `db_streamer_send` failed. -/
  | failedSend
deriving DecidableEq

/-- What an observer of the sender writes down. -/
inductive SenderEntry
  | accepted
  | encoded (shot : Shot)
  | lost (entry : RingEntry Shot) (why : Loss)
  /-- A frame went out: the entry as it was popped, and as it was sent. -/
  | sent (popped entry : RingEntry Shot)
deriving DecidableEq

/-- A frame between its encode and its push. -/
structure Pending where
  shot : Shot
  size : ℕ
deriving DecidableEq

/-- The frame `on_frame_captured` pushes. -/
def Pending.push (p : Pending) (pts : UInt64) : Frame Shot :=
  ⟨p.shot, p.size, pts, p.shot.frame.isKeyframe⟩

/-- Where the main thread is. -/
inductive MainPc
  /-- In `db_streamer_accept`. -/
  | accepting
  /-- Before `ring_flush`. -/
  | flushing
  /-- Before `db_encoder_force_idr`. -/
  | forcing
  /-- At the top of the stream loop. -/
  | streaming
  /-- Between `ring_pop` and `db_streamer_send`. -/
  | holding (slot : ℕ) (popped : RingEntry Shot)

/-- The sender and what has happened so far. -/
structure Sender where
  enc : DbEncoder
  pending : Option Pending
  ring : RingBuffer Shot
  main : MainPc
  count : ℕ
  log : List SenderEntry

/-- What `db_streamer_send` returns, and whether the connection has survived. -/
inductive SendOutcome
  | sent
  | dropped
  | broken
deriving DecidableEq

/-- A step of the capture thread or of the main thread. -/
inductive SenderEvent
  /-- A frame is encoded, to so many bytes. -/
  | encode (size : ℕ)
  | push (pts : UInt64) (mallocOk : Bool)
  | accept
  | flush
  | forceIdr
  | pop
  | send (outcome : SendOutcome)
  /-- The stream loop ends without a send. -/
  | disconnect
deriving DecidableEq

/-- What an encode writes down. -/
def encodeEntries (shot : Shot) (size : ℕ) : List SenderEntry :=
  .encoded shot :: if size = 0 then [.lost (((⟨shot, 0⟩ : Pending).push 0).entry none) .emptyOutput]
    else []

/-- What `ring_push` loses: the oldest entry of a full ring, and its own frame when
it does not store it. -/
def pushLosses (ring : RingBuffer Shot) (f : Frame Shot) (mallocOk : Bool) : List SenderEntry :=
  (if ring.Full then ring.queued.head?.toList.map (.lost · .dropOldest) else []) ++
    if Stores (f, mallocOk) then [] else [.lost (f.entry none) .failedPush]

/-- One step. An encode that fails is no step: it changes nothing. -/
def senderStep (s : Sender) : SenderEvent → Option Sender
  | .encode size =>
    match s.pending with
    | some _ => none
    | none =>
      let shot : Shot := ⟨s.count, s.enc.nextFrame⟩
      some { s with
        enc := (encodeSurface s.enc).2
        count := s.count + 1
        pending := if size = 0 then none else some ⟨shot, size⟩
        log := s.log ++ encodeEntries shot size }
  | .push pts mallocOk =>
    match s.pending with
    | none => none
    | some p =>
      some { s with
        pending := none
        ring := (ringPush s.ring (p.push pts) mallocOk).1
        log := s.log ++ pushLosses s.ring (p.push pts) mallocOk }
  | .accept =>
    match s.main with
    | .accepting => some { s with main := .flushing, log := s.log ++ [.accepted] }
    | _ => none
  | .flush =>
    match s.main with
    | .flushing => some { s with ring := ringFlush s.ring, main := .forcing }
    | _ => none
  | .forceIdr =>
    match s.main with
    | .forcing => some { s with enc := dbEncoderForceIdr s.enc, main := .streaming }
    | _ => none
  | .pop =>
    match s.main with
    | .streaming =>
      match ringPop s.ring with
      | (ring, none) => some { s with ring := ring }
      | (ring, some slot) =>
        -- an entry without bytes is popped and not sent
        if 0 < (ring.entries slot).size then
          some { s with ring := ring, main := .holding slot (ring.entries slot) }
        else some { s with ring := ring }
    | _ => none
  | .send outcome =>
    match s.main with
    | .holding slot popped =>
      -- the slot may have been pushed to since it was popped
      let entry := s.ring.entries slot
      match outcome with
      | .sent =>
        if entry.size ≤ maxFrameSize then
          some { s with main := .streaming, log := s.log ++ [.sent popped entry] }
        else none
      | .dropped =>
        -- a time-out: the loop goes on
        some { s with main := .streaming, log := s.log ++ [.lost popped .failedSend] }
      | .broken =>
        -- the receiver is gone: back to `db_streamer_accept`
        some { s with main := .accepting, log := s.log ++ [.lost popped .failedSend] }
    | _ => none
  | .disconnect =>
    match s.main with
    | .streaming => some { s with main := .accepting }
    | _ => none

/-- The sender right after its start; any of the buffers may be missing. -/
def Sender.init (enc : DbEncoder) (buffers : ℕ → Bool) : Sender where
  enc := enc
  pending := none
  ring := ringInit buffers
  main := .accepting
  count := 0
  log := []

/-- The last frame sent on the connection there is, as it was popped and as it was
sent. -/
def lastSent (log : List SenderEntry) : Option (RingEntry Shot × RingEntry Shot) :=
  log.foldl (fun last a =>
    match a with
    | .accepted => none
    | .sent popped entry => some (popped, entry)
    | _ => last) none

/-- Every frame that was sent has a property, which may speak of what had happened
before. -/
def EverySent (P : List SenderEntry → RingEntry Shot → RingEntry Shot → Prop)
    (log : List SenderEntry) : Prop :=
  ∀ pre a post, log = pre ++ a :: post → ∀ popped entry, a = .sent popped entry →
    P pre popped entry

/-! ### What a step does -/

/-- What a step can do, with what has to be the case before it. -/
inductive Sender.Moves (s : Sender) : SenderEvent → Sender → Prop
  | encode (size : ℕ) (hpending : s.pending = none) :
      s.Moves (.encode size) { s with
        enc := (encodeSurface s.enc).2
        count := s.count + 1
        pending := if size = 0 then none else some ⟨⟨s.count, s.enc.nextFrame⟩, size⟩
        log := s.log ++ encodeEntries ⟨s.count, s.enc.nextFrame⟩ size }
  | push (pts : UInt64) (mallocOk : Bool) {p : Pending} (hpending : s.pending = some p) :
      s.Moves (.push pts mallocOk) { s with
        pending := none
        ring := (ringPush s.ring (p.push pts) mallocOk).1
        log := s.log ++ pushLosses s.ring (p.push pts) mallocOk }
  | accept (hmain : s.main = .accepting) :
      s.Moves .accept { s with main := .flushing, log := s.log ++ [.accepted] }
  | flush (hmain : s.main = .flushing) :
      s.Moves .flush { s with ring := ringFlush s.ring, main := .forcing }
  | forceIdr (hmain : s.main = .forcing) :
      s.Moves .forceIdr { s with enc := dbEncoderForceIdr s.enc, main := .streaming }
  | popNothing (hmain : s.main = .streaming) {ring : RingBuffer Shot}
      (hpop : ringPop s.ring = (ring, none)) : s.Moves .pop { s with ring := ring }
  | popEmpty (hmain : s.main = .streaming) {ring : RingBuffer Shot} {slot : ℕ}
      (hpop : ringPop s.ring = (ring, some slot)) (hsize : ¬ 0 < (ring.entries slot).size) :
      s.Moves .pop { s with ring := ring }
  | pop (hmain : s.main = .streaming) {ring : RingBuffer Shot} {slot : ℕ}
      (hpop : ringPop s.ring = (ring, some slot)) (hsize : 0 < (ring.entries slot).size) :
      s.Moves .pop { s with ring := ring, main := .holding slot (ring.entries slot) }
  | sent {slot : ℕ} {popped : RingEntry Shot} (hmain : s.main = .holding slot popped)
      (hsize : (s.ring.entries slot).size ≤ maxFrameSize) :
      s.Moves (.send .sent) { s with
        main := .streaming, log := s.log ++ [.sent popped (s.ring.entries slot)] }
  | dropped {slot : ℕ} {popped : RingEntry Shot} (hmain : s.main = .holding slot popped) :
      s.Moves (.send .dropped) { s with
        main := .streaming, log := s.log ++ [.lost popped .failedSend] }
  | broken {slot : ℕ} {popped : RingEntry Shot} (hmain : s.main = .holding slot popped) :
      s.Moves (.send .broken) { s with
        main := .accepting, log := s.log ++ [.lost popped .failedSend] }
  | disconnect (hmain : s.main = .streaming) :
      s.Moves .disconnect { s with main := .accepting }

/-- **A step does one of these.** -/
theorem moves_of_step {s s' : Sender} {event : SenderEvent}
    (hstep : senderStep s event = some s') : s.Moves event s' := by
  cases event with
  | encode size =>
    rw [senderStep] at hstep
    split at hstep
    · cases hstep
    · next hpending =>
      cases hstep
      exact .encode size hpending
  | push pts mallocOk =>
    rw [senderStep] at hstep
    split at hstep
    · cases hstep
    · next p hpending =>
      cases hstep
      exact .push pts mallocOk hpending
  | accept =>
    rw [senderStep] at hstep
    split at hstep
    · next hmain =>
      cases hstep
      exact .accept hmain
    · cases hstep
  | flush =>
    rw [senderStep] at hstep
    split at hstep
    · next hmain =>
      cases hstep
      exact .flush hmain
    · cases hstep
  | forceIdr =>
    rw [senderStep] at hstep
    split at hstep
    · next hmain =>
      cases hstep
      exact .forceIdr hmain
    · cases hstep
  | pop =>
    rw [senderStep] at hstep
    split at hstep
    · next hmain =>
      split at hstep
      · next ring hpop =>
        cases hstep
        exact .popNothing hmain hpop
      · next ring slot hpop =>
        split at hstep
        · next hsize =>
          cases hstep
          exact .pop hmain hpop hsize
        · next hsize =>
          cases hstep
          exact .popEmpty hmain hpop hsize
    · cases hstep
  | send outcome =>
    rw [senderStep] at hstep
    split at hstep
    · next slot popped hmain =>
      cases outcome with
      | sent =>
        dsimp only at hstep
        split at hstep
        · next hsize =>
          cases hstep
          exact .sent hmain hsize
        · cases hstep
      | dropped =>
        cases hstep
        exact .dropped hmain
      | broken =>
        cases hstep
        exact .broken hmain
    · cases hstep
  | disconnect =>
    rw [senderStep] at hstep
    split at hstep
    · next hmain =>
      cases hstep
      exact .disconnect hmain
    · cases hstep

/-! ### Entries that neither start a connection nor send -/

/-- The entry does not change what was sent last. -/
def SenderEntry.Quiet : SenderEntry → Prop
  | .encoded _ | .lost _ _ => True
  | .accepted | .sent _ _ => False

theorem quiet_encodeEntries (shot : Shot) (size : ℕ) : ∀ a ∈ encodeEntries shot size, a.Quiet := by
  intro a ha
  rw [encodeEntries, List.mem_cons] at ha
  rcases ha with rfl | ha
  · trivial
  · split at ha
    · rw [List.mem_singleton] at ha
      subst ha
      trivial
    · cases ha

/-- What `ring_push` writes down are losses. -/
theorem eq_lost_of_mem_pushLosses {ring : RingBuffer Shot} {f : Frame Shot} {mallocOk : Bool}
    {a : SenderEntry} (ha : a ∈ pushLosses ring f mallocOk) : ∃ entry why, a = .lost entry why := by
  rw [pushLosses, List.mem_append] at ha
  rcases ha with ha | ha
  · split at ha
    · obtain ⟨entry, -, rfl⟩ := List.mem_map.1 ha
      exact ⟨entry, .dropOldest, rfl⟩
    · cases ha
  · split at ha
    · cases ha
    · exact ⟨f.entry none, .failedPush, List.mem_singleton.1 ha⟩

theorem quiet_pushLosses (ring : RingBuffer Shot) (f : Frame Shot) (mallocOk : Bool) :
    ∀ a ∈ pushLosses ring f mallocOk, a.Quiet := by
  intro a ha
  obtain ⟨entry, why, rfl⟩ := eq_lost_of_mem_pushLosses ha
  trivial

theorem quiet_lost (entry : RingEntry Shot) (why : Loss) :
    ∀ a ∈ [SenderEntry.lost entry why], a.Quiet := by
  intro a ha
  obtain rfl := List.mem_singleton.1 ha
  trivial

variable {log l : List SenderEntry}

theorem lastSent_append (h : ∀ a ∈ l, a.Quiet) : lastSent (log ++ l) = lastSent log := by
  rw [lastSent, List.foldl_append]
  change l.foldl _ (lastSent log) = lastSent log
  generalize lastSent log = last
  induction l with
  | nil => rfl
  | cons a l ih =>
    have ha := h a List.mem_cons_self
    rw [List.foldl_cons]
    cases a with
    | accepted => exact ha.elim
    | sent popped entry => exact ha.elim
    | encoded shot => exact ih fun b hb => h b (List.mem_cons_of_mem _ hb)
    | lost entry why => exact ih fun b hb => h b (List.mem_cons_of_mem _ hb)

theorem lastSent_accepted : lastSent (log ++ [.accepted]) = none := by
  rw [lastSent, List.foldl_append]
  rfl

theorem lastSent_sent (popped entry : RingEntry Shot) :
    lastSent (log ++ [.sent popped entry]) = some (popped, entry) := by
  rw [lastSent, List.foldl_append]
  rfl

variable {P : List SenderEntry → RingEntry Shot → RingEntry Shot → Prop}

theorem everySent_concat {a : SenderEntry} :
    EverySent P (log ++ [a]) ↔
      (∀ popped entry, a = .sent popped entry → P log popped entry) ∧ EverySent P log :=
  Runs.forall_split_concat

theorem everySent_append (h : ∀ a ∈ l, a.Quiet) (hlog : EverySent P log) :
    EverySent P (log ++ l) := by
  induction l generalizing log with
  | nil => rwa [List.append_nil]
  | cons a l ih =>
    have ha := h a List.mem_cons_self
    rw [List.append_cons]
    refine ih (fun b hb => h b (List.mem_cons_of_mem _ hb)) (everySent_concat.2 ⟨?_, hlog⟩)
    rintro popped entry rfl
    exact ha.elim

theorem everySent_accepted (hlog : EverySent P log) : EverySent P (log ++ [.accepted]) :=
  everySent_concat.2 ⟨fun _ _ h => SenderEntry.noConfusion h, hlog⟩

theorem everySent_sent {popped entry : RingEntry Shot} (hnew : P log popped entry)
    (hlog : EverySent P log) : EverySent P (log ++ [.sent popped entry]) := by
  refine everySent_concat.2 ⟨?_, hlog⟩
  rintro _ _ ⟨⟩
  exact hnew

end DisplayBridge
