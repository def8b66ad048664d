import DisplayBridge.Lib.Runs
import Mathlib.Logic.Function.Basic
import Mathlib.Order.Nat

/-!
# The composer of the virtual display and its checksums

`vkms_crtc.c` and the worker of `vkms_composer.c`. Three things happen at their own pace. A
timer makes the vblanks: each one reads which state is on the display, and if checksums are
wanted it puts the number of the frame into that state and queues the work of the state
(`DisplayBridge.Vkms.Output.vkmsVblankSimulate`). A worker takes the work in the order in which it
was queued: it takes the frames out of the state, composes the picture, and reports one
checksum for each of them (`DisplayBridge.Vkms.Output.vkmsComposerWorker`). And commits put new
states on the display, while the old ones still have work, and ask for a picture to be written
back (`DisplayBridge.Vkms.Output.vkmsWbAtomicCommit`). Two locks make what is between them one
step, and so is the composition of a picture; everything else may be interrupted. Commits come
one after another.

If the worker is slow, the frames of several vblanks gather in one state; if it is fast, it
can take frames whose work is only then being queued, and finds nothing the next time. Neither
loses or repeats a frame: what is reported are rising numbers, and every frame that was asked
for is reported, or will be, or was in a picture that could not be composed
(`DisplayBridge.Vkms.Output.crc_once_in_order`).

The count of the vblanks is the kernel's; of it only this is used, that it grows with every
vblank, by one or by more.
-/

namespace DisplayBridge.Vkms

open Runs

/-! ### The states -/

/-- `struct vkms_crtc_state`, what the worker and the timer share of it. -/
structure CrtcState where
  crcPending : Bool
  wbPending : Bool
  frameStart : ℕ
  frameEnd : ℕ
  /-- The writeback job, by the number of the state it was given for. -/
  activeWriteback : Option ℕ
deriving DecidableEq

namespace CrtcState

/-- A state that has just been allocated. -/
def zero : CrtcState := ⟨false, false, 0, 0, none⟩

/-- The section of the timer under the lock. -/
def mark (state : CrtcState) (frame : ℕ) : CrtcState :=
  -- `frame_start` is kept until a worker has read it
  { state with
    frameStart := if state.crcPending then state.frameStart else frame
    frameEnd := frame
    crcPending := true }

/-- The section of the worker under the lock. -/
def take (state : CrtcState) : CrtcState :=
  { state with frameStart := 0, frameEnd := 0, crcPending := false }

/-- The section of a commit that asks for a picture. -/
def want (state : CrtcState) (job : ℕ) : CrtcState :=
  { state with activeWriteback := some job, wbPending := true }

/-- The section of the worker when the picture has been written. -/
def strikeOff (state : CrtcState) : CrtcState := { state with wbPending := false }

/-- The frames whose checksum is wanted. -/
def interval (state : CrtcState) : Option (ℕ × ℕ) :=
  if state.crcPending then some (state.frameStart, state.frameEnd) else none

@[simp] theorem interval_take (state : CrtcState) : state.take.interval = none := rfl

theorem interval_mark_of_none {state : CrtcState} (h : state.interval = none) (frame : ℕ) :
    (state.mark frame).interval = some (frame, frame) := by
  cases hpending : state.crcPending with
  | true => simp [interval, hpending] at h
  | false => simp [interval, mark, hpending]

theorem interval_mark_of_some {state : CrtcState} {a b : ℕ} (h : state.interval = some (a, b))
    (frame : ℕ) : (state.mark frame).interval = some (a, frame) := by
  cases hpending : state.crcPending with
  | true =>
    simp only [interval, hpending, if_true, Option.some.injEq, Prod.mk.injEq] at h
    simp [interval, mark, hpending, h.1]
  | false => simp [interval, hpending] at h

end CrtcState

/-- `struct vkms_writeback_job`, what the composition looks at. -/
structure WritebackJob where
  /-- There is a function that writes a pixel. -/
  pixelWrite : Bool
  /-- The rectangle to be written to has been set, and is not empty. -/
  dst : Bool
deriving DecidableEq

/-- `compose_active_planes`: nothing if the picture cannot be composed, and otherwise the job it
was written to; `composed` is whether memory and planes are as they have to be. -/
def composeActivePlanes (jobs : ℕ → WritebackJob) (activeWb : Option ℕ) (composed : Bool) :
    Option (Option ℕ) :=
  match activeWb with
  | none => if composed then some none else none
  | some job =>
    -- `check_format_funcs`
    if composed && (jobs job).pixelWrite then
      -- no pixel is written to an empty rectangle
      some (if (jobs job).dst then some job else none)
    else none

/-- What is signalled as completed. -/
structure Completion where
  /-- The job, `none` if there was none in the queue. -/
  job : Option ℕ
  /-- The job the picture has been written to. -/
  written : Option ℕ
deriving DecidableEq

/-! ### The threads -/

/-- How far the timer has come with a vblank. -/
inductive VblankStage
  | idle
  /-- The vblank has been handled, and the state on the display read. -/
  | handled (state : Option ℕ)
  /-- A checksum is wanted. -/
  | requesting (i : ℕ)
  /-- The frame is in the state. -/
  | marked (i : ℕ)
deriving DecidableEq

/-- How far the worker has come. -/
inductive WorkerStage
  | idle
  /-- The writeback job of the state has been read. -/
  | started (i : ℕ) (activeWb : Option ℕ)
  /-- The frames have been taken out of the state. -/
  | composing (i first last : ℕ) (wbPending : Bool) (activeWb : Option ℕ)
  /-- The writeback has been signalled. -/
  | signalled (i first last : ℕ)
  /-- The frames from `first` on are still to be reported. -/
  | reporting (first last : ℕ)
deriving DecidableEq

/-- How far a commit has come with asking for a picture. -/
inductive CommitStage
  | idle
  /-- The composer is enabled. -/
  | enabled (i : ℕ)
  /-- The job is in the state. -/
  | wanted (i : ℕ)
  /-- It is in the queue of the connector. -/
  | queued (i : ℕ)
  /-- It has its function that writes a pixel. -/
  | formatted (i : ℕ)
deriving DecidableEq

/-- The state the timer is about. -/
def VblankStage.state : VblankStage → Option ℕ
  | .idle => none
  | .handled state => state
  | .requesting i => some i
  | .marked i => some i

/-- The frame of this vblank is in no state yet. -/
def VblankStage.Fresh : VblankStage → Prop
  | .handled _ => True
  | .requesting _ => True
  | _ => False

/-- The state whose work has been started, as long as its frames have not been taken. -/
def WorkerStage.startedOn : WorkerStage → Option ℕ
  | .started i _ => some i
  | _ => none

/-- The frames the worker has taken and not reported. -/
def WorkerStage.taken : WorkerStage → Option (ℕ × ℕ)
  | .composing _ first last _ _ => some (first, last)
  | .signalled _ first last => some (first, last)
  | .reporting first last => some (first, last)
  | _ => none

/-- `struct vkms_output`, with the states that have been made, by number; and what it has
reported. -/
structure Output where
  /-- The count of the vblanks. -/
  frame : ℕ
  crtcStates : ℕ → CrtcState
  /-- How many states have been made. -/
  made : ℕ
  composerState : Option ℕ
  composerEnabled : Bool
  vblank : VblankStage
  /-- The states whose work is queued. -/
  composerWorkq : List ℕ
  worker : WorkerStage
  commit : CommitStage
  /-- The jobs, by the state each was given for. -/
  jobs : ℕ → WritebackJob
  /-- `job_queue` of the connector. -/
  jobQueue : List ℕ
  /-- The frames whose checksum has been reported. -/
  entries : List ℕ
  /-- The jobs that have been signalled. -/
  completions : List Completion
  /-- The frames whose checksum has been asked for. -/
  asked : List ℕ
  /-- The frames of the pictures that could not be composed. -/
  failed : List (ℕ × ℕ)

namespace Output

/-- An output that nothing has been committed to. -/
def init : Output :=
  ⟨0, fun _ => .zero, 0, none, false, .idle, [], .idle, .idle, fun _ => ⟨false, false⟩, [], [], [],
    [], []⟩

/-- One state changes. -/
def update (out : Output) (i : ℕ) (f : CrtcState → CrtcState) : Output :=
  { out with crtcStates := Function.update out.crtcStates i (f (out.crtcStates i)) }

/-- `queue_work`: work that is queued already is not queued again. -/
def queueWork (queue : List ℕ) (i : ℕ) : List ℕ := if i ∈ queue then queue else queue ++ [i]

/-- `vkms_vblank_simulate`, one step of it. -/
def vkmsVblankSimulate (out : Output) (frame : ℕ) : Option Output :=
  match out.vblank with
  | .idle =>
    if out.frame < frame then
      some { out with frame := frame, vblank := .handled out.composerState }
    else none
  | .handled none => some { out with vblank := .idle }
  | .handled (some i) =>
    some { out with vblank := if out.composerEnabled then .requesting i else .idle }
  | .requesting i =>
    some { out.update i (·.mark out.frame) with
      vblank := .marked i, asked := out.asked ++ [out.frame] }
  | .marked i => some { out with composerWorkq := queueWork out.composerWorkq i, vblank := .idle }

/-- `vkms_composer_worker`, one step of it; `composed` says whether the picture could be
composed. -/
def vkmsComposerWorker (out : Output) (composed : Bool) : Option Output :=
  match out.worker with
  | .idle =>
    match out.composerWorkq with
    | [] => none
    | i :: queue =>
      -- the job is read before the lock is taken
      some { out with
        composerWorkq := queue, worker := .started i (out.crtcStates i).activeWriteback }
  | .started i activeWb =>
    some { out.update i CrtcState.take with
      worker :=
        match (out.crtcStates i).interval with
        | none => .idle
        | some (first, last) =>
          .composing i first last (out.crtcStates i).wbPending activeWb }
  | .composing i first last wbPending activeWb =>
    match composeActivePlanes out.jobs (if wbPending then activeWb else none) composed with
    | none => some { out with worker := .idle, failed := out.failed ++ [(first, last)] }
    | some written =>
      if wbPending then
        -- `drm_writeback_signal_completion` is about the oldest job of the connector
        some { out with
          worker := .signalled i first last, jobQueue := out.jobQueue.tail
          completions := out.completions ++ [⟨out.jobQueue.head?, written⟩] }
      else some { out with worker := .reporting first last }
  | .signalled i first last =>
    some { out.update i CrtcState.strikeOff with worker := .reporting first last }
  | .reporting first last =>
    if first ≤ last then
      some { out with worker := .reporting (first + 1) last, entries := out.entries ++ [first] }
    else some { out with worker := .idle }

/-- A new state is on the display. -/
def putOnDisplay (out : Output) : Output :=
  { out.update out.made fun _ => .zero with
    made := out.made + 1, composerState := some out.made }

/-- `vkms_crtc_atomic_flush`; no other commit is under way. -/
def vkmsCrtcAtomicFlush (out : Output) : Option Output :=
  if out.commit = .idle then some out.putOnDisplay else none

/-- `vkms_wb_atomic_commit`, one step of it; a commit calls it once, for the state it has made. -/
def vkmsWbAtomicCommit (out : Output) : Option Output :=
  match out.commit with
  | .idle =>
    match out.composerState with
    | none => none
    | some i =>
      if (out.crtcStates i).activeWriteback.isSome then none
      else some { out with composerEnabled := true, commit := .enabled i }
  | .enabled i => some { out.update i (·.want i) with commit := .wanted i }
  -- `drm_writeback_queue_job`
  | .wanted i => some { out with jobQueue := out.jobQueue ++ [i], commit := .queued i }
  -- what the composition needs of the job is filled in behind this
  | .queued i => some { out with
      jobs := Function.update out.jobs i { out.jobs i with pixelWrite := true }
      commit := .formatted i }
  | .formatted i => some { out with
      jobs := Function.update out.jobs i { out.jobs i with dst := true }, commit := .idle }

/-- What can happen. -/
inductive Event
  | vblank (frame : ℕ)
  | worker (composed : Bool)
  | atomicFlush
  | wbAtomicCommit
  /-- `vkms_set_composer`, on its own. -/
  | setComposer (enabled : Bool)

/-- An event happens, if it can. -/
def step (out : Output) : Event → Option Output
  | .vblank frame => out.vkmsVblankSimulate frame
  | .worker composed => out.vkmsComposerWorker composed
  | .atomicFlush => out.vkmsCrtcAtomicFlush
  | .wbAtomicCommit => out.vkmsWbAtomicCommit
  | .setComposer enabled => some { out with composerEnabled := enabled }

/-- The frames of a state whose checksum is wanted. -/
def interval (out : Output) (i : ℕ) : Option (ℕ × ℕ) := (out.crtcStates i).interval

/-- **What an event can do.** -/
inductive Moves (out : Output) : Event → Output → Prop
  | vblank (frame : ℕ) : out.vblank = .idle → out.frame < frame →
      Moves out (.vblank frame) { out with frame := frame, vblank := .handled out.composerState }
  | check (frame : ℕ) (state : Option ℕ) (stage : VblankStage) : out.vblank = .handled state →
      (∀ i, stage.state = some i → state = some i) →
      Moves out (.vblank frame) { out with vblank := stage }
  | mark (frame i : ℕ) : out.vblank = .requesting i →
      Moves out (.vblank frame) { out.update i (·.mark out.frame) with
        vblank := .marked i, asked := out.asked ++ [out.frame] }
  | queue (frame i : ℕ) : out.vblank = .marked i →
      Moves out (.vblank frame)
        { out with composerWorkq := queueWork out.composerWorkq i, vblank := .idle }
  | start (composed : Bool) (i : ℕ) (queue : List ℕ) : out.worker = .idle →
      out.composerWorkq = i :: queue →
      Moves out (.worker composed) { out with
        composerWorkq := queue, worker := .started i (out.crtcStates i).activeWriteback }
  | takeNothing (composed : Bool) (i : ℕ) (wb : Option ℕ) : out.worker = .started i wb →
      out.interval i = none →
      Moves out (.worker composed) { out.update i CrtcState.take with worker := .idle }
  | take (composed : Bool) (i : ℕ) (wb : Option ℕ) (first last : ℕ) :
      out.worker = .started i wb → out.interval i = some (first, last) →
      Moves out (.worker composed) { out.update i CrtcState.take with
        worker := .composing i first last (out.crtcStates i).wbPending wb }
  | signal (composed : Bool) (i first last : ℕ) (wb written : Option ℕ) :
      out.worker = .composing i first last true wb →
      composeActivePlanes out.jobs wb composed = some written →
      Moves out (.worker composed) { out with
        worker := .signalled i first last, jobQueue := out.jobQueue.tail
        completions := out.completions ++ [⟨out.jobQueue.head?, written⟩] }
  | compose (composed : Bool) (i first last : ℕ) (wb : Option ℕ) :
      out.worker = .composing i first last false wb →
      Moves out (.worker composed) { out with worker := .reporting first last }
  | fail (composed : Bool) (i first last : ℕ) (wbPending : Bool) (wb : Option ℕ) :
      out.worker = .composing i first last wbPending wb →
      Moves out (.worker composed) { out with
        worker := .idle, failed := out.failed ++ [(first, last)] }
  | strikeOff (composed : Bool) (i first last : ℕ) : out.worker = .signalled i first last →
      Moves out (.worker composed) { out.update i CrtcState.strikeOff with
        worker := .reporting first last }
  | report (composed : Bool) (first last : ℕ) : out.worker = .reporting first last →
      first ≤ last → Moves out (.worker composed) { out with
        worker := .reporting (first + 1) last, entries := out.entries ++ [first] }
  | finish (composed : Bool) (first last : ℕ) : out.worker = .reporting first last →
      ¬ first ≤ last → Moves out (.worker composed) { out with worker := .idle }
  | flush : out.commit = .idle → Moves out .atomicFlush out.putOnDisplay
  | enable (i : ℕ) : out.commit = .idle → out.composerState = some i →
      (out.crtcStates i).activeWriteback = none →
      Moves out .wbAtomicCommit { out with composerEnabled := true, commit := .enabled i }
  | want (i : ℕ) : out.commit = .enabled i →
      Moves out .wbAtomicCommit { out.update i (·.want i) with commit := .wanted i }
  | queueJob (i : ℕ) : out.commit = .wanted i →
      Moves out .wbAtomicCommit { out with
        jobQueue := out.jobQueue ++ [i], commit := .queued i }
  | fill (i : ℕ) (job : WritebackJob) (stage : CommitStage) :
      out.commit = .queued i ∧ job = { out.jobs i with pixelWrite := true } ∧
          stage = .formatted i ∨
        out.commit = .formatted i ∧ job = { out.jobs i with dst := true } ∧ stage = .idle →
      Moves out .wbAtomicCommit { out with
        jobs := Function.update out.jobs i job, commit := stage }
  | setComposer (enabled : Bool) :
      Moves out (.setComposer enabled) { out with composerEnabled := enabled }

theorem moves_vblank {out out' : Output} {frame : ℕ}
    (hs : out.vkmsVblankSimulate frame = some out') : out.Moves (.vblank frame) out' := by
  rw [vkmsVblankSimulate] at hs
  cases hstage : out.vblank with
  | idle =>
    rw [hstage] at hs
    obtain ⟨hlt, hs⟩ := Option.ite_none_right_eq_some.1 hs
    obtain rfl := Option.some.inj hs
    exact .vblank frame hstage hlt
  | handled state =>
    rw [hstage] at hs
    cases state with
    | none =>
      obtain rfl := Option.some.inj hs
      exact .check frame none .idle hstage fun i hi => hi
    | some i =>
      obtain rfl := Option.some.inj hs
      refine .check frame (some i) _ hstage fun j hj => ?_
      split at hj
      · exact hj
      · cases hj
  | requesting i =>
    rw [hstage] at hs
    obtain rfl := Option.some.inj hs
    exact .mark frame i hstage
  | marked i =>
    rw [hstage] at hs
    obtain rfl := Option.some.inj hs
    exact .queue frame i hstage

theorem moves_worker {out out' : Output} {composed : Bool}
    (hs : out.vkmsComposerWorker composed = some out') : out.Moves (.worker composed) out' := by
  rw [vkmsComposerWorker] at hs
  cases hstage : out.worker with
  | idle =>
    rw [hstage] at hs
    cases hqueue : out.composerWorkq with
    | nil =>
      rw [hqueue] at hs
      cases hs
    | cons i queue =>
      rw [hqueue] at hs
      obtain rfl := Option.some.inj hs
      exact .start composed i queue hstage hqueue
  | started i wb =>
    rw [hstage] at hs
    cases htake : (out.crtcStates i).interval with
    | none =>
      simp only [htake] at hs
      obtain rfl := Option.some.inj hs
      exact .takeNothing composed i wb hstage htake
    | some t =>
      simp only [htake] at hs
      obtain rfl := Option.some.inj hs
      exact .take composed i wb t.1 t.2 hstage htake
  | composing i first last wbPending wb =>
    simp only [hstage] at hs
    cases hcompose : composeActivePlanes out.jobs (if wbPending then wb else none) composed with
    | none =>
      simp only [hcompose] at hs
      obtain rfl := Option.some.inj hs
      exact .fail composed i first last wbPending wb hstage
    | some written =>
      simp only [hcompose] at hs
      cases wbPending with
      | false =>
        obtain rfl := Option.some.inj hs
        exact .compose composed i first last wb hstage
      | true =>
        obtain rfl := Option.some.inj hs
        exact .signal composed i first last wb written hstage hcompose
  | signalled i first last =>
    rw [hstage] at hs
    obtain rfl := Option.some.inj hs
    exact .strikeOff composed i first last hstage
  | reporting first last =>
    rw [hstage] at hs
    by_cases hmore : first ≤ last
    · simp only [if_pos hmore] at hs
      obtain rfl := Option.some.inj hs
      exact .report composed first last hstage hmore
    · simp only [if_neg hmore] at hs
      obtain rfl := Option.some.inj hs
      exact .finish composed first last hstage hmore

theorem moves_commit {out out' : Output} (hs : out.vkmsWbAtomicCommit = some out') :
    out.Moves .wbAtomicCommit out' := by
  rw [vkmsWbAtomicCommit] at hs
  cases hstage : out.commit with
  | idle =>
    simp only [hstage] at hs
    split at hs
    · cases hs
    · next i hi =>
      split at hs
      · cases hs
      · next hnone =>
        obtain rfl := Option.some.inj hs
        exact .enable i hstage hi (Option.not_isSome_iff_eq_none.1 hnone)
  | enabled i =>
    rw [hstage] at hs
    obtain rfl := Option.some.inj hs
    exact .want i hstage
  | wanted i =>
    rw [hstage] at hs
    obtain rfl := Option.some.inj hs
    exact .queueJob i hstage
  | queued i =>
    rw [hstage] at hs
    obtain rfl := Option.some.inj hs
    exact .fill i _ _ (.inl ⟨hstage, rfl, rfl⟩)
  | formatted i =>
    rw [hstage] at hs
    obtain rfl := Option.some.inj hs
    exact .fill i _ _ (.inr ⟨hstage, rfl, rfl⟩)

/-- The list is complete. -/
theorem moves_of_step {out out' : Output} {e : Event} (hs : out.step e = some out') :
    out.Moves e out' := by
  cases e with
  | vblank frame => exact moves_vblank hs
  | worker composed => exact moves_worker hs
  | atomicFlush =>
    obtain ⟨hidle, hs⟩ := Option.ite_none_right_eq_some.1 hs
    obtain rfl := Option.some.inj hs
    exact .flush hidle
  | wbAtomicCommit => exact moves_commit hs
  | setComposer enabled =>
    obtain rfl := Option.some.inj hs
    exact .setComposer enabled

@[simp] theorem update_crtcStates_self (out : Output) (i : ℕ) (f : CrtcState → CrtcState) :
    (out.update i f).crtcStates i = f (out.crtcStates i) := Function.update_self ..

theorem update_crtcStates_ne {i j : ℕ} (hne : j ≠ i) (out : Output) (f : CrtcState → CrtcState) :
    (out.update i f).crtcStates j = out.crtcStates j := Function.update_of_ne hne ..

theorem interval_update_of_eq {i : ℕ} {f : CrtcState → CrtcState}
    (hf : ∀ state, (f state).interval = state.interval) (out : Output) (j : ℕ) :
    (out.update i f).interval j = out.interval j := by
  by_cases hij : j = i
  · rw [hij, interval, update_crtcStates_self, hf]
    rfl
  · rw [interval, update_crtcStates_ne hij]
    rfl

theorem interval_update_of_none {i : ℕ} {f : CrtcState → CrtcState}
    (hf : ∀ state, (f state).interval = none) (out : Output) (j : ℕ) :
    (out.update i f).interval j = if j = i then none else out.interval j := by
  by_cases hij : j = i
  · rw [if_pos hij, hij, interval, update_crtcStates_self, hf]
  · rw [if_neg hij, interval, update_crtcStates_ne hij]
    rfl

theorem interval_update_ne {i j : ℕ} (hne : j ≠ i) (out : Output) (f : CrtcState → CrtcState) :
    (out.update i f).interval j = out.interval j := by
  rw [interval, update_crtcStates_ne hne]
  rfl

/-! ### Which states are in the hands of whom -/

/-- The state has frames, or work that is queued or has been started. -/
def Known (out : Output) (i : ℕ) : Prop :=
  (out.interval i).isSome ∨ i ∈ out.composerWorkq ∨ out.worker.startedOn = some i

/-- **States are dealt with in the order in which they were made**: the timer is about the
latest of those that have frames or work, the queue rises, and the worker is about the
earliest. A state that has frames has work that will take them. -/
structure Ids (out : Output) : Prop where
  composer : ∀ c, out.composerState = some c → c + 1 = out.made
  vblank_lt : ∀ i, out.vblank.state = some i → i < out.made
  known_lt : ∀ j, out.Known j → j < out.made
  known_le : ∀ i, out.vblank.state = some i → ∀ j, out.Known j → j ≤ i
  located : ∀ i, (out.interval i).isSome →
    i ∈ out.composerWorkq ∨ out.worker.startedOn = some i ∨ out.vblank = .marked i
  sorted : out.composerWorkq.Pairwise (· < ·)
  first : ∀ i, out.worker.startedOn = some i → ∀ j ∈ out.composerWorkq, i ≤ j

variable {out out' : Output}

/-- What the worker has started is the earliest. -/
theorem Ids.le_of_started (h : out.Ids) {i j : ℕ} (hstarted : out.worker.startedOn = some i)
    (hj : (out.interval j).isSome) : i ≤ j := by
  rcases h.located j hj with hqueued | hsame | hmarked
  · exact h.first i hstarted j hqueued
  · exact le_of_eq (Option.some.inj (hstarted.symm.trans hsame))
  · exact h.known_le j (by rw [hmarked]; rfl) i (.inr (.inr hstarted))

theorem ids_init : init.Ids := by
  refine ⟨?_, ?_, ?_, ?_, ?_, .nil, ?_⟩
  · rintro c ⟨⟩
  · rintro i ⟨⟩
  · rintro j (hj | hj | hj) <;> cases hj
  · rintro i ⟨⟩
  · rintro i ⟨⟩
  · rintro i ⟨⟩

theorem mem_queueWork {queue : List ℕ} {i j : ℕ} : j ∈ queueWork queue i ↔ j ∈ queue ∨ j = i := by
  rw [queueWork]
  split
  · next hmem =>
    refine ⟨.inl, ?_⟩
    rintro (hj | rfl)
    · exact hj
    · exact hmem
  · rw [List.mem_append, List.mem_singleton]

theorem pairwise_queueWork {queue : List ℕ} {i : ℕ} (h : queue.Pairwise (· < ·))
    (hle : ∀ j ∈ queue, j ≤ i) : (queueWork queue i).Pairwise (· < ·) := by
  rw [queueWork]
  split
  · exact h
  · next hmem =>
    rw [List.pairwise_append]
    refine ⟨h, List.pairwise_singleton _ _, fun a ha b hb => ?_⟩
    rw [List.mem_singleton.1 hb]
    refine lt_of_le_of_ne (hle a ha) ?_
    rintro rfl
    exact hmem ha

/-- A change that leaves the frames, the timer and the queue alone. -/
theorem Ids.quiet (h : out.Ids) (hframes : out'.interval = out.interval)
    (hmade : out'.made = out.made) (hcomposer : out'.composerState = out.composerState)
    (hvblank : out'.vblank = out.vblank) (hqueue : out'.composerWorkq = out.composerWorkq)
    (hworker : out'.worker.startedOn = out.worker.startedOn) : out'.Ids := by
  have hknown : out'.Known = out.Known := by
    funext j
    rw [Known, Known, hframes, hqueue, hworker]
  refine ⟨?_, ?_, ?_, ?_, ?_, ?_, ?_⟩
  · rw [hcomposer, hmade]
    exact h.composer
  · rw [hvblank, hmade]
    exact h.vblank_lt
  · rw [hknown, hmade]
    exact h.known_lt
  · rw [hvblank, hknown]
    exact h.known_le
  · rw [hframes, hqueue, hworker, hvblank]
    exact h.located
  · rw [hqueue]
    exact h.sorted
  · rw [hworker, hqueue]
    exact h.first

/-- The worker moves on, and has started on nothing. -/
theorem Ids.moves (h : out.Ids) (hstarted : out.worker.startedOn = none) {stage : WorkerStage}
    (hstage : stage.startedOn = none) {jobQueue entries : List ℕ} {completions : List Completion}
    {failed : List (ℕ × ℕ)} : Ids { out with
      worker := stage, jobQueue := jobQueue, entries := entries, completions := completions
      failed := failed } :=
  h.quiet rfl rfl rfl rfl rfl (hstage.trans hstarted.symm)

/-- A state that has been marked has its work started, or queued, or is just being queued. -/
theorem Ids.located_of_ne (h : out.Ids) (hvblank : ∀ i, out.vblank ≠ .marked i) {i : ℕ}
    (hi : (out.interval i).isSome) : i ∈ out.composerWorkq ∨ out.worker.startedOn = some i := by
  rcases h.located i hi with hqueued | hstarted | hmarked
  · exact .inl hqueued
  · exact .inr hstarted
  · exact absurd hmarked (hvblank i)

/-- The worker has taken the frames of the state it had started on. -/
theorem Ids.take (h : out.Ids) {i : ℕ} {wb : Option ℕ} (hstage : out.worker = .started i wb)
    {stage : WorkerStage} (hnone : stage.startedOn = none) :
    Ids { out.update i CrtcState.take with worker := stage } := by
  have hframes := interval_update_of_none (i := i) CrtcState.interval_take out
  have hless : ∀ j, ((out.update i CrtcState.take).interval j).isSome →
      j ≠ i ∧ (out.interval j).isSome := by
    intro j hj
    rw [hframes] at hj
    split at hj
    · cases hj
    · next hne => exact ⟨hne, hj⟩
  have hknown : ∀ j, Known { out.update i CrtcState.take with worker := stage } j →
      out.Known j := by
    rintro j (hj | hj | hj)
    · exact .inl (hless j hj).2
    · exact .inr (.inl hj)
    · rw [hnone] at hj
      cases hj
  refine ⟨h.composer, h.vblank_lt, fun j hj => h.known_lt j (hknown j hj),
    fun k hk j hj => h.known_le k hk j (hknown j hj), fun j hj => ?_, h.sorted, fun j hj => ?_⟩
  · obtain ⟨hne, hj⟩ := hless j hj
    rcases h.located j hj with hqueued | hstarted | hmarked
    · exact .inl hqueued
    · rw [hstage] at hstarted
      exact absurd (Option.some.inj hstarted).symm hne
    · exact .inr (.inr hmarked)
  · rw [hnone] at hj
    cases hj

/-- The timer has put its frame into the state it is about. -/
theorem Ids.mark (h : out.Ids) {i : ℕ} (hstage : out.vblank = .requesting i) :
    Ids { out.update i (·.mark out.frame) with
      vblank := .marked i, asked := out.asked ++ [out.frame] } := by
  have hi := h.vblank_lt i (by rw [hstage]; rfl)
  have hle := h.known_le i (by rw [hstage]; rfl)
  have hframes : ∀ j, j ≠ i → (out.update i (·.mark out.frame)).interval j = out.interval j :=
    fun j hne => interval_update_ne hne out _
  have hknown : ∀ j, Known { out.update i (·.mark out.frame) with
      vblank := .marked i, asked := out.asked ++ [out.frame] } j → out.Known j ∨ j = i := by
    intro j hj
    by_cases hji : j = i
    · exact .inr hji
    · rcases hj with hj | hj
      · exact .inl (.inl ((hframes j hji) ▸ hj))
      · exact .inl (.inr hj)
  refine ⟨h.composer, fun j hj => ?_, fun j hj => ?_, fun j hj k hk => ?_, fun j hj => ?_,
    h.sorted, h.first⟩
  · exact (Option.some.inj hj) ▸ hi
  · rcases hknown j hj with hj | rfl
    · exact h.known_lt j hj
    · exact hi
  · obtain rfl := Option.some.inj hj
    rcases hknown k hk with hk | rfl
    · exact hle k hk
    · exact le_rfl
  · by_cases hji : j = i
    · rw [hji]
      exact .inr (.inr rfl)
    · have hold := h.located_of_ne (by rw [hstage]; rintro i ⟨⟩) ((hframes j hji) ▸ hj)
      exact hold.imp_right .inl

/-- The work of a state is queued. -/
theorem Ids.queue (h : out.Ids) {i : ℕ} (hstage : out.vblank = .marked i) :
    Ids { out with composerWorkq := queueWork out.composerWorkq i, vblank := .idle } := by
  have hi := h.vblank_lt i (by rw [hstage]; rfl)
  have hle := h.known_le i (by rw [hstage]; rfl)
  refine ⟨h.composer, fun j hj => ?_, fun j hj => ?_, fun j hj => ?_, fun j hj => ?_,
    pairwise_queueWork h.sorted fun j hj => hle j (.inr (.inl hj)), fun j hj k hk => ?_⟩
  · cases hj
  · rcases hj with hj | hj | hj
    · exact h.known_lt j (.inl hj)
    · rcases mem_queueWork.1 hj with hj | rfl
      · exact h.known_lt j (.inr (.inl hj))
      · exact hi
    · exact h.known_lt j (.inr (.inr hj))
  · cases hj
  · rcases h.located j hj with hqueued | hstarted | hmarked
    · exact .inl (mem_queueWork.2 (.inl hqueued))
    · exact .inr (.inl hstarted)
    · rw [hstage] at hmarked
      obtain rfl := VblankStage.marked.inj hmarked
      exact .inl (mem_queueWork.2 (.inr rfl))
  · rcases mem_queueWork.1 hk with hk | rfl
    · exact h.first j hj k hk
    · exact hle j (.inr (.inr hj))

/-- The worker starts on the first state of the queue. -/
theorem Ids.start (h : out.Ids) {i : ℕ} {queue : List ℕ} (hstage : out.worker = .idle)
    (hqueue : out.composerWorkq = i :: queue) {wb : Option ℕ} :
    Ids { out with composerWorkq := queue, worker := .started i wb } := by
  obtain ⟨hfirst, hsorted⟩ := List.pairwise_cons.1 (hqueue ▸ h.sorted)
  have hknown : ∀ j, Known { out with composerWorkq := queue, worker := .started i wb } j →
      out.Known j := by
    rintro j (hj | hj | hj)
    · exact .inl hj
    · exact .inr (.inl (hqueue ▸ List.mem_cons_of_mem i hj))
    · obtain rfl := Option.some.inj hj
      exact .inr (.inl (hqueue ▸ List.mem_cons_self))
  refine ⟨h.composer, h.vblank_lt, fun j hj => h.known_lt j (hknown j hj),
    fun k hk j hj => h.known_le k hk j (hknown j hj), fun j hj => ?_, hsorted,
    fun j hj k hk => ?_⟩
  · rcases h.located j hj with hqueued | hstarted | hmarked
    · rcases List.mem_cons.1 (hqueue ▸ hqueued) with rfl | hqueued
      · exact .inr (.inl rfl)
      · exact .inl hqueued
    · rw [hstage] at hstarted
      cases hstarted
    · exact .inr (.inr hmarked)
  · obtain rfl := Option.some.inj hj
    exact (hfirst k hk).le

/-- A new state has no frames. -/
theorem Ids.flush (h : out.Ids) : out.putOnDisplay.Ids := by
  have hframes := interval_update_of_none (i := out.made) (f := fun _ => .zero)
    (fun _ => rfl) out
  have hless : ∀ j, (out.putOnDisplay.interval j).isSome → (out.interval j).isSome := by
    intro j hj
    replace hj : ((out.update out.made fun _ => .zero).interval j).isSome := hj
    rw [hframes] at hj
    split at hj
    · cases hj
    · exact hj
  have hknown : ∀ j, out.putOnDisplay.Known j → out.Known j := fun j hj =>
    hj.imp_left (hless j)
  refine ⟨fun c hc => ?_, fun i hi => ?_, fun j hj => ?_, fun i hi j hj => ?_, fun i hi => ?_,
    h.sorted, h.first⟩
  · obtain rfl := Option.some.inj hc
    rfl
  · exact Nat.lt_succ_of_lt (h.vblank_lt i hi)
  · exact Nat.lt_succ_of_lt (h.known_lt j (hknown j hj))
  · exact h.known_le i hi j (hknown j hj)
  · exact h.located i (hless i hi)

/-- **Every event keeps the order of the states.** -/
theorem Ids.step (h : out.Ids) {e : Event} (hmoves : out.Moves e out') : out'.Ids := by
  cases hmoves with
  | vblank frame hstage hlt =>
    refine ⟨h.composer, fun c hc => ?_, h.known_lt, fun c hc j hj => ?_, fun i hi => ?_, h.sorted,
      h.first⟩
    · exact (Nat.lt_succ_self c).trans_le (Nat.le_of_eq (h.composer c hc))
    · have hj := h.known_lt j hj
      rw [← h.composer c hc] at hj
      exact Nat.le_of_lt_succ hj
    · exact (h.located_of_ne (by rw [hstage]; rintro i ⟨⟩) hi).imp_right .inl
  | check frame state stage hstage hstate =>
    have hold : ∀ i, stage.state = some i → out.vblank.state = some i := by
      intro i hi
      rw [hstage]
      exact hstate i hi
    exact ⟨h.composer, fun i hi => h.vblank_lt i (hold i hi), h.known_lt,
      fun i hi => h.known_le i (hold i hi),
      fun i hi => (h.located_of_ne (by rw [hstage]; rintro i ⟨⟩) hi).imp_right .inl,
      h.sorted, h.first⟩
  | mark frame i hstage => exact h.mark hstage
  | queue frame i hstage => exact h.queue hstage
  | start composed i queue hstage hqueue => exact h.start hstage hqueue
  | takeNothing composed i wb hstage htake => exact h.take hstage rfl
  | take composed i wb first last hstage htake => exact h.take hstage rfl
  | signal composed i first last wb written hstage hcompose =>
    exact h.moves (by rw [hstage]; rfl) rfl
  | compose composed i first last wb hstage => exact h.moves (by rw [hstage]; rfl) rfl
  | fail composed i first last wbPending wb hstage => exact h.moves (by rw [hstage]; rfl) rfl
  | strikeOff composed i first last hstage =>
    have hframes := interval_update_of_eq (i := i) (f := CrtcState.strikeOff) (fun _ => rfl) out
    exact h.quiet (funext hframes) rfl rfl rfl rfl (by rw [hstage]; rfl)
  | report composed first last hstage hmore => exact h.moves (by rw [hstage]; rfl) rfl
  | finish composed first last hstage hdone => exact h.moves (by rw [hstage]; rfl) rfl
  | flush hidle => exact h.flush
  | want i hstage =>
    have hframes := interval_update_of_eq (i := i) (f := (·.want i)) (fun _ => rfl) out
    exact h.quiet (funext hframes) rfl rfl rfl rfl rfl
  | enable | queueJob | fill | setComposer => exact h.quiet rfl rfl rfl rfl rfl rfl

/-! ### The order of the frames -/

/-- What has been reported and what the worker has taken is all before a frame. -/
structure Before (out : Output) (n : ℕ) : Prop where
  entries : ∀ f ∈ out.entries, f < n
  taken : ∀ t, out.worker.taken = some t → t.2 < n

/-- **Frames are in order**: those that have been reported, those the worker has taken, and
those in the states, from the earliest to the latest. As long as the frame of a vblank is in no
state, it is after all of them. -/
structure Frames (out : Output) : Prop where
  entries : out.entries.Pairwise (· < ·)
  taken : ∀ t, out.worker.taken = some t → ∀ f ∈ out.entries, f < t.1
  before : ∀ i a b, out.interval i = some (a, b) → out.Before a
  le : ∀ i a b, out.interval i = some (a, b) → a ≤ b ∧ b ≤ out.frame
  ordered : ∀ i j a b c d, out.interval i = some (a, b) → out.interval j = some (c, d) → i < j →
    b < c
  frame : out.Before (out.frame + 1)
  fresh : out.vblank.Fresh →
    out.Before out.frame ∧ ∀ i a b, out.interval i = some (a, b) → b < out.frame

theorem Before.mono {n m : ℕ} (h : out.Before n) (hnm : n ≤ m) : out.Before m :=
  ⟨fun f hf => (h.entries f hf).trans_le hnm, fun t ht => (h.taken t ht).trans_le hnm⟩

theorem frames_init : init.Frames := by
  have hbefore : ∀ n, init.Before n := by
    intro n
    refine ⟨?_, ?_⟩
    · rintro f ⟨⟩
    · rintro t ⟨⟩
  refine ⟨.nil, ?_, ?_, ?_, ?_, hbefore _, ?_⟩
  · rintro t ⟨⟩
  · rintro i a b ⟨⟩
  · rintro i a b ⟨⟩
  · rintro i j a b c d ⟨⟩
  · rintro ⟨⟩

/-- A change that leaves the frames alone, and makes no vblank fresh. -/
theorem Frames.quiet (h : out.Frames) (hframe : out'.frame = out.frame)
    (hframes : ∀ i a b, out'.interval i = some (a, b) → out.interval i = some (a, b))
    (hentries : out'.entries = out.entries)
    (htaken : ∀ t, out'.worker.taken = some t → out.worker.taken = some t)
    (hfresh : out'.vblank.Fresh → out.vblank.Fresh) : out'.Frames := by
  have hbefore : ∀ n, out.Before n → out'.Before n := fun n hn =>
    ⟨fun f hf => hn.entries f (hentries ▸ hf), fun t ht => hn.taken t (htaken t ht)⟩
  refine ⟨?_, ?_, ?_, ?_, ?_, ?_, ?_⟩
  · rw [hentries]
    exact h.entries
  · rw [hentries]
    exact fun t ht => h.taken t (htaken t ht)
  · exact fun i a b hi => hbefore a (h.before i a b (hframes i a b hi))
  · rw [hframe]
    exact fun i a b hi => h.le i a b (hframes i a b hi)
  · exact fun i j a b c d hi hj => h.ordered i j a b c d (hframes i a b hi) (hframes j c d hj)
  · rw [hframe]
    exact hbefore _ h.frame
  · rw [hframe]
    intro hnow
    obtain ⟨hall, hends⟩ := h.fresh (hfresh hnow)
    exact ⟨hbefore _ hall, fun i a b hi => hends i a b (hframes i a b hi)⟩

/-- What a state has when the timer has put its frame in. -/
theorem interval_mark {i j a b : ℕ}
    (h : (out.update i (·.mark out.frame)).interval j = some (a, b)) :
    (j ≠ i ∧ out.interval j = some (a, b)) ∨
      j = i ∧ b = out.frame ∧ (a = out.frame ∨ ∃ c, out.interval i = some (a, c)) := by
  by_cases hji : j = i
  · right
    subst hji
    rw [interval, update_crtcStates_self] at h
    cases hold : (out.crtcStates j).interval with
    | none =>
      rw [CrtcState.interval_mark_of_none hold] at h
      obtain ⟨rfl, rfl⟩ := Prod.mk.inj (Option.some.inj h)
      exact ⟨rfl, rfl, .inl rfl⟩
    | some t =>
      rw [CrtcState.interval_mark_of_some hold] at h
      obtain ⟨rfl, rfl⟩ := Prod.mk.inj (Option.some.inj h)
      exact ⟨rfl, rfl, .inr ⟨t.2, hold⟩⟩
  · rw [interval_update_ne hji] at h
    exact .inl ⟨hji, h⟩

/-- The worker has taken the frames of the state it had started on. -/
theorem interval_take {i j a b : ℕ}
    (h : (out.update i CrtcState.take).interval j = some (a, b)) :
    j ≠ i ∧ out.interval j = some (a, b) := by
  rw [interval_update_of_none CrtcState.interval_take] at h
  split at h
  · cases h
  · next hne => exact ⟨hne, h⟩

/-- A vblank, with a frame that is in no state. -/
theorem Frames.vblank (h : out.Frames) {frame : ℕ} (hlt : out.frame < frame) :
    Frames { out with frame := frame, vblank := .handled out.composerState } := by
  have hbefore : ∀ n, out.Before n →
      Before { out with frame := frame, vblank := .handled out.composerState } n := fun n hn =>
    ⟨hn.entries, hn.taken⟩
  refine ⟨h.entries, h.taken, fun i a b hi => hbefore a (h.before i a b hi), fun i a b hi => ?_,
    h.ordered, ?_, fun _ => ⟨?_, fun i a b hi => ?_⟩⟩
  · exact ⟨(h.le i a b hi).1, (h.le i a b hi).2.trans hlt.le⟩
  · exact hbefore _ (h.frame.mono (Nat.succ_le_succ hlt.le))
  · exact hbefore _ (h.frame.mono hlt)
  · exact (h.le i a b hi).2.trans_lt hlt

/-- The timer puts its frame into the state it is about, which is the latest. -/
theorem Frames.mark (h : out.Frames) (hids : out.Ids) {i : ℕ}
    (hstage : out.vblank = .requesting i) : Frames { out.update i (·.mark out.frame) with
      vblank := .marked i, asked := out.asked ++ [out.frame] } := by
  have hle : ∀ j, (out.interval j).isSome → j ≤ i := fun j hj =>
    hids.known_le i (by rw [hstage]; rfl) j (.inl hj)
  obtain ⟨hall, hends⟩ := h.fresh (by rw [hstage]; exact trivial)
  have hbefore : ∀ n, out.Before n → Before { out.update i (·.mark out.frame) with
      vblank := .marked i, asked := out.asked ++ [out.frame] } n := fun n hn =>
    ⟨hn.entries, hn.taken⟩
  refine ⟨h.entries, h.taken, fun j a b hj => hbefore a ?_, fun j a b hj => ?_,
    fun j k a b c d hj hk hjk => ?_, hbefore _ h.frame, fun hfresh => hfresh.elim⟩
  · rcases interval_mark hj with ⟨-, hj⟩ | ⟨-, -, rfl | ⟨c, hi⟩⟩
    · exact h.before j a b hj
    · exact hall
    · exact h.before i a c hi
  · rcases interval_mark hj with ⟨-, hj⟩ | ⟨-, rfl, rfl | ⟨c, hi⟩⟩
    · exact h.le j a b hj
    · exact ⟨le_rfl, le_rfl⟩
    · exact ⟨(h.le i a c hi).1.trans (h.le i a c hi).2, le_rfl⟩
  · -- the state that is marked is the latest
    rcases interval_mark hj with ⟨-, hold⟩ | ⟨rfl, -, -⟩
    · rcases interval_mark hk with ⟨-, hk⟩ | ⟨rfl, -, rfl | ⟨e, hi⟩⟩
      · exact h.ordered j k a b c d hold hk hjk
      · exact hends j a b hold
      · exact h.ordered j k a b c e hold hi hjk
    · rcases interval_mark hk with ⟨-, hk⟩ | ⟨rfl, -, -⟩
      · exact absurd (hle k (hk ▸ rfl)) (not_le.2 hjk)
      · exact absurd hjk (lt_irrefl k)

/-- The worker takes the frames of the state it has started on, which is the earliest. -/
theorem Frames.take (h : out.Frames) (hids : out.Ids) {i first last : ℕ} {wb : Option ℕ}
    (hstage : out.worker = .started i wb) (htake : out.interval i = some (first, last))
    {wbPending : Bool} : Frames { out.update i CrtcState.take with
      worker := .composing i first last wbPending wb } := by
  obtain ⟨hab, hb⟩ := h.le i first last htake
  have htaken : ∀ n, out.Before n → last < n → Before { out.update i CrtcState.take with
      worker := .composing i first last wbPending wb } n := by
    intro n hn hlt
    refine ⟨hn.entries, fun u hu => ?_⟩
    obtain rfl := Option.some.inj hu
    exact hlt
  refine ⟨h.entries, fun u hu => ?_, fun j a b hj => ?_, fun j a b hj => ?_,
    fun j k a b c d hj hk => ?_, ?_, fun hfresh => ?_⟩
  · obtain rfl := Option.some.inj hu
    exact (h.before i first last htake).entries
  · -- the state the worker has started is the earliest
    obtain ⟨hne, hj⟩ := interval_take hj
    have hle : i ≤ j := hids.le_of_started (by rw [hstage]; rfl) (hj ▸ rfl)
    exact htaken a (h.before j a b hj)
      (h.ordered i j first last a b htake hj (lt_of_le_of_ne hle hne.symm))
  · exact h.le j a b (interval_take hj).2
  · exact h.ordered j k a b c d (interval_take hj).2 (interval_take hk).2
  · exact htaken _ h.frame (Nat.lt_succ_of_le hb)
  · obtain ⟨hall, hends⟩ := h.fresh hfresh
    exact ⟨htaken _ hall (hends i first last htake),
      fun j a b hj => hends j a b (interval_take hj).2⟩

/-- The worker reports a frame that it has taken. -/
theorem Frames.report (h : out.Frames) {first last : ℕ}
    (hstage : out.worker = .reporting first last) (hmore : first ≤ last) : Frames { out with
      worker := .reporting (first + 1) last, entries := out.entries ++ [first] } := by
  have htaken : out.worker.taken = some (first, last) := by
    rw [hstage]
    rfl
  have hbefore : ∀ n, out.Before n → Before { out with
      worker := .reporting (first + 1) last, entries := out.entries ++ [first] } n := by
    intro n hn
    have hlast : last < n := hn.taken _ htaken
    refine ⟨List.forall_mem_append.2 ⟨hn.entries, ?_⟩, fun t ht => ?_⟩
    · exact List.forall_mem_singleton.2 (hmore.trans_lt hlast)
    · obtain rfl := Option.some.inj ht
      exact hlast
  have hfirst := h.taken _ htaken
  refine ⟨?_, fun t ht => ?_, fun i a b hi => hbefore a (h.before i a b hi), h.le, h.ordered,
    hbefore _ h.frame, fun hfresh => ⟨hbefore _ (h.fresh hfresh).1, (h.fresh hfresh).2⟩⟩
  · rw [List.pairwise_append]
    refine ⟨h.entries, List.pairwise_singleton _ _, fun f hf g hg => ?_⟩
    rw [List.mem_singleton.1 hg]
    exact hfirst f hf
  · obtain rfl := Option.some.inj ht
    refine List.forall_mem_append.2 ⟨fun f hf => Nat.lt_succ_of_lt (hfirst f hf), ?_⟩
    exact List.forall_mem_singleton.2 (Nat.lt_succ_self first)

/-- **Every event keeps the frames in order.** -/
theorem Frames.step (h : out.Frames) (hids : out.Ids) {e : Event} (hmoves : out.Moves e out') :
    out'.Frames := by
  cases hmoves with
  | vblank frame hstage hlt => exact h.vblank hlt
  | check frame state stage hstage hstate =>
    exact h.quiet rfl (fun _ _ _ hi => hi) rfl (fun _ => id) fun _ => by
      rw [hstage]
      exact trivial
  | mark frame i hstage => exact h.mark hids hstage
  | queue frame i hstage =>
    exact h.quiet rfl (fun _ _ _ hi => hi) rfl (fun _ => id) fun hfresh => hfresh.elim
  | start composed i queue hstage hqueue =>
    exact h.quiet rfl (fun _ _ _ hi => hi) rfl (fun t ht => by cases ht) id
  | takeNothing composed i wb hstage htake =>
    exact h.quiet rfl (fun _ _ _ hj => (interval_take hj).2) rfl (fun t ht => by cases ht) id
  | take composed i wb first last hstage htake => exact h.take hids hstage htake
  | signal composed i first last wb written hstage hcompose =>
    exact h.quiet rfl (fun _ _ _ hi => hi) rfl (fun t ht => by rw [hstage]; exact ht) id
  | compose composed i first last wb hstage =>
    exact h.quiet rfl (fun _ _ _ hi => hi) rfl (fun t ht => by rw [hstage]; exact ht) id
  | fail composed i first last wbPending wb hstage =>
    exact h.quiet rfl (fun _ _ _ hi => hi) rfl (fun t ht => by cases ht) id
  | strikeOff composed i first last hstage =>
    have hframes := interval_update_of_eq (i := i) (f := CrtcState.strikeOff) (fun _ => rfl) out
    exact h.quiet rfl (fun j a b hj => (hframes j).symm.trans hj) rfl
      (fun t ht => by rw [hstage]; exact ht) id
  | report composed first last hstage hmore => exact h.report hstage hmore
  | finish composed first last hstage hdone =>
    exact h.quiet rfl (fun _ _ _ hi => hi) rfl (fun t ht => by cases ht) id
  | flush hidle =>
    have hframes := interval_update_of_none (i := out.made) (f := fun _ => .zero)
      (fun _ => rfl) out
    refine h.quiet rfl (fun i a b hi => ?_) rfl (fun _ => id) id
    replace hi : (out.update out.made fun _ => .zero).interval i = some (a, b) := hi
    rw [hframes] at hi
    split at hi
    · cases hi
    · exact hi
  | want i hstage =>
    have hframes := interval_update_of_eq (i := i) (f := (·.want i)) (fun _ => rfl) out
    exact h.quiet rfl (fun j a b hj => (hframes j).symm.trans hj) rfl (fun _ => id) id
  | enable | queueJob | fill | setComposer =>
    exact h.quiet rfl (fun _ _ _ hi => hi) rfl (fun _ => id) id

/-! ### No frame is lost -/

/-- Where a frame that was asked for is: reported, taken, in a state, or in a picture that
could not be composed. -/
inductive Kept (out : Output) (f : ℕ) : Prop
  | reported : f ∈ out.entries → Kept out f
  | taken (t : ℕ × ℕ) : out.worker.taken = some t → t.1 ≤ f → f ≤ t.2 → Kept out f
  | waiting (i a b : ℕ) : out.interval i = some (a, b) → a ≤ f → f ≤ b → Kept out f
  | failed (t : ℕ × ℕ) : t ∈ out.failed → t.1 ≤ f → f ≤ t.2 → Kept out f

/-- What has been reported or has failed stays so; the frames in the states and those the worker
has taken may go elsewhere. -/
theorem Kept.moves {f : ℕ} (h : out.Kept f) (hentries : out.entries ⊆ out'.entries)
    (hfailed : out.failed ⊆ out'.failed)
    (htaken : ∀ t, out.worker.taken = some t → t.1 ≤ f → f ≤ t.2 → out'.Kept f)
    (hwaiting : ∀ i a b, out.interval i = some (a, b) → a ≤ f → f ≤ b → out'.Kept f) :
    out'.Kept f := by
  cases h with
  | reported hf => exact .reported (hentries hf)
  | taken t ht hlow hhigh => exact htaken t ht hlow hhigh
  | waiting i a b hi hlow hhigh => exact hwaiting i a b hi hlow hhigh
  | failed t ht hlow hhigh => exact .failed t (hfailed ht) hlow hhigh

/-- A change that leaves the frames alone. -/
theorem Kept.quiet {f : ℕ} (h : out.Kept f)
    (hframes : ∀ i t, out.interval i = some t → out'.interval i = some t)
    (hentries : out'.entries = out.entries) (hfailed : out'.failed = out.failed)
    (htaken : ∀ t, out.worker.taken = some t → out'.worker.taken = some t) : out'.Kept f :=
  h.moves (fun _ hf => hentries ▸ hf) (fun _ ht => hfailed ▸ ht)
    (fun t ht => .taken t (htaken t ht)) fun i a b hi => .waiting i a b (hframes i _ hi)

/-- The frame of a vblank is in the state, and what the state had it keeps. -/
theorem kept_mark (hframes : out.Frames) {i f : ℕ}
    (h : out.Kept f ∨ f = out.frame) : Kept { out.update i (·.mark out.frame) with
      vblank := .marked i, asked := out.asked ++ [out.frame] } f := by
  have hmarked : ∃ a, a ≤ out.frame ∧
      (out.update i (·.mark out.frame)).interval i = some (a, out.frame) ∧
      ∀ t, out.interval i = some t → t.1 = a := by
    rw [interval, update_crtcStates_self]
    cases hold : (out.crtcStates i).interval with
    | none =>
      refine ⟨out.frame, le_rfl, CrtcState.interval_mark_of_none hold _, fun t ht => ?_⟩
      exact absurd (hold.symm.trans ht) (Option.some_ne_none t).symm
    | some t =>
      have hle := hframes.le i t.1 t.2 hold
      refine ⟨t.1, hle.1.trans hle.2, CrtcState.interval_mark_of_some hold _, fun u hu => ?_⟩
      rw [Option.some.inj (hold.symm.trans hu)]
  obtain ⟨a, ha, hnew, hsame⟩ := hmarked
  rcases h with h | rfl
  · refine h.moves (List.Subset.refl _) (List.Subset.refl _) (fun t ht => .taken t ht)
      fun j c d hj hlow hhigh => ?_
    by_cases hji : j = i
    · subst hji
      refine .waiting j a out.frame hnew ?_ (hhigh.trans (hframes.le j c d hj).2)
      rw [← hsame _ hj]
      exact hlow
    · exact .waiting j c d ((interval_update_ne hji out (·.mark out.frame)).trans hj) hlow hhigh
  · exact .waiting i a out.frame hnew ha le_rfl

/-- **Every event keeps the frames** that have been asked for, and no other frame is asked for
than that of a vblank. -/
theorem kept_step (hids : out.Ids) (hframes : out.Frames) (h : ∀ f ∈ out.asked, out.Kept f)
    {e : Event} (hmoves : out.Moves e out') : ∀ f ∈ out'.asked, out'.Kept f := by
  cases hmoves with
  | vblank frame hstage hlt =>
    exact fun f hf => (h f hf).quiet (fun _ _ hi => hi) rfl rfl fun _ => id
  | check frame state stage hstage hstate =>
    exact fun f hf => (h f hf).quiet (fun _ _ hi => hi) rfl rfl fun _ => id
  | mark frame i hstage =>
    intro f hf
    refine kept_mark hframes ?_
    rcases List.mem_append.1 hf with hold | hnew
    · exact .inl (h f hold)
    · exact .inr (List.mem_singleton.1 hnew)
  | queue frame i hstage =>
    exact fun f hf => (h f hf).quiet (fun _ _ hi => hi) rfl rfl fun _ => id
  | start composed i queue hstage hqueue =>
    exact fun f hf => (h f hf).quiet (fun _ _ hi => hi) rfl rfl fun t ht => by
      rw [hstage] at ht
      cases ht
  | takeNothing composed i wb hstage htake =>
    have hnone := interval_update_of_none (i := i) CrtcState.interval_take out
    refine fun f hf => (h f hf).quiet (fun j t hj => ?_) rfl rfl fun t ht => ?_
    · refine (hnone j).trans ?_
      rw [if_neg]
      · exact hj
      · rintro rfl
        exact Option.some_ne_none t (hj.symm.trans htake)
    · rw [hstage] at ht
      cases ht
  | take composed i wb first last hstage htake =>
    have hnone := interval_update_of_none (i := i) CrtcState.interval_take out
    refine fun f hf => (h f hf).moves (List.Subset.refl _) (List.Subset.refl _)
      (fun t ht => ?_) fun j a b hj hlow hhigh => ?_
    · rw [hstage] at ht
      cases ht
    · by_cases hji : j = i
      · -- the frames go from the state to the worker
        subst hji
        obtain ⟨rfl, rfl⟩ := Prod.mk.inj (Option.some.inj (hj.symm.trans htake))
        exact .taken (a, b) rfl hlow hhigh
      · refine .waiting j a b ((hnone j).trans ?_) hlow hhigh
        rw [if_neg hji]
        exact hj
  | signal composed i first last wb written hstage hcompose =>
    exact fun f hf => (h f hf).quiet (fun _ _ hi => hi) rfl rfl fun t ht => by
      rw [hstage] at ht
      exact ht
  | compose composed i first last wb hstage =>
    exact fun f hf => (h f hf).quiet (fun _ _ hi => hi) rfl rfl fun t ht => by
      rw [hstage] at ht
      exact ht
  | fail composed i first last wbPending wb hstage =>
    refine fun f hf => (h f hf).moves (List.Subset.refl _) (List.subset_append_left _ _)
      (fun t ht hlow hhigh => ?_) fun j a b hj => .waiting j a b hj
    rw [hstage] at ht
    obtain rfl := Option.some.inj ht
    exact .failed _ (List.mem_append_right _ List.mem_cons_self) hlow hhigh
  | strikeOff composed i first last hstage =>
    have hsame := interval_update_of_eq (i := i) (f := CrtcState.strikeOff) (fun _ => rfl) out
    exact fun f hf => (h f hf).quiet (fun j t hj => (hsame j).trans hj) rfl rfl fun t ht => by
      rw [hstage] at ht
      exact ht
  | report composed first last hstage hmore =>
    refine fun f hf => (h f hf).moves (List.subset_append_left _ _) (List.Subset.refl _)
      (fun t ht hlow hhigh => ?_) fun j a b hj => .waiting j a b hj
    rw [hstage] at ht
    obtain rfl := Option.some.inj ht
    rcases eq_or_lt_of_le hlow with rfl | hlow
    · exact .reported (List.mem_append_right _ List.mem_cons_self)
    · exact .taken (first + 1, last) rfl hlow hhigh
  | finish composed first last hstage hdone =>
    refine fun f hf => (h f hf).moves (List.Subset.refl _) (List.Subset.refl _)
      (fun t ht hlow hhigh => ?_) fun j a b hj => .waiting j a b hj
    rw [hstage] at ht
    obtain rfl := Option.some.inj ht
    exact absurd (hlow.trans hhigh) hdone
  | flush hidle =>
    have hnone := interval_update_of_none (i := out.made) (f := fun _ => .zero)
      (fun _ => rfl) out
    refine fun f hf => (h f hf).quiet (fun i t hi => ?_) rfl rfl fun _ => id
    have hne : i ≠ out.made := (hids.known_lt i (.inl (hi ▸ rfl))).ne
    refine (hnone i).trans ?_
    rw [if_neg hne]
    exact hi
  | want i hstage =>
    have hsame := interval_update_of_eq (i := i) (f := (·.want i)) (fun _ => rfl) out
    exact fun f hf => (h f hf).quiet (fun j t hj => (hsame j).trans hj) rfl rfl fun _ => id
  | enable | queueJob | fill | setComposer =>
    exact fun f hf => (h f hf).quiet (fun _ _ hi => hi) rfl rfl fun _ => id

/-- Nothing is under way. -/
structure Quiet (out : Output) : Prop where
  vblank : out.vblank = .idle
  queue : out.composerWorkq = []
  worker : out.worker = .idle

/-- **Every frame once, and in order.** In every run of the timer, the worker, commits and
whoever turns the checksums on and off: the frames whose checksums are reported rise, no frame
that was asked for is lost unless its picture could not be composed, and when nothing is under
way it has been reported. -/
theorem crc_once_in_order {ok : Output → Event → Prop} {es : List Event}
    (hrun : Run step ok init es out) :
    out.entries.Pairwise (· < ·) ∧ (∀ f ∈ out.asked, out.Kept f) ∧
      (out.Quiet → ∀ f ∈ out.asked,
        f ∈ out.entries ∨ ∃ t ∈ out.failed, t.1 ≤ f ∧ f ≤ t.2) := by
  have hinv : out.Ids ∧ out.Frames ∧ ∀ f ∈ out.asked, out.Kept f := by
    refine hrun.invariant (I := fun out => out.Ids ∧ out.Frames ∧ ∀ f ∈ out.asked, out.Kept f)
      ⟨ids_init, frames_init, fun f hf => by cases hf⟩ ?_
    rintro out e out' ⟨hids, hframes, hkept⟩ - hs
    have hmoves := moves_of_step hs
    exact ⟨hids.step hmoves, hframes.step hids hmoves, kept_step hids hframes hkept hmoves⟩
  obtain ⟨hids, hframes, hkept⟩ := hinv
  refine ⟨hframes.entries, hkept, fun hquiet f hf => ?_⟩
  cases hkept f hf with
  | reported hf => exact .inl hf
  | taken t ht hlow hhigh =>
    rw [hquiet.worker] at ht
    cases ht
  | waiting i a b hi hlow hhigh =>
    rcases hids.located i (hi ▸ rfl) with hqueued | hstarted | hmarked
    · rw [hquiet.queue] at hqueued
      cases hqueued
    · rw [hquiet.worker] at hstarted
      cases hstarted
    · rw [hquiet.vblank] at hmarked
      cases hmarked
  | failed t ht hlow hhigh => exact .inr ⟨t, ht, hlow, hhigh⟩

/-- Two vblanks ask for a checksum, and the second one comes while the first is being composed. -/
def twoVblanks : List Event :=
  [.atomicFlush, .setComposer true, .vblank 1, .vblank 0, .vblank 0, .vblank 0, .worker true,
    .worker true, .vblank 2, .vblank 0, .vblank 0, .vblank 0, .worker true, .worker true,
    .worker true, .worker true, .worker true, .worker true, .worker true, .worker true]

/-- Both are reported. -/
theorem crc_once_in_order_twoVblanks : ∃ out, Run step (fun _ _ => True) init twoVblanks out ∧
    out.asked = [1, 2] ∧ out.entries.Pairwise (· < ·) ∧ ∀ f ∈ out.asked, f ∈ out.entries := by
  have hsome : (exec step (fun _ _ => True) init twoVblanks).isSome = true := by decide
  have hrun := run_get hsome
  obtain ⟨hsorted, -, hreported⟩ := crc_once_in_order hrun
  refine ⟨_, hrun, rfl, hsorted, fun f hf => ?_⟩
  rcases hreported ⟨rfl, rfl, rfl⟩ f hf with hf | ⟨t, ht, -⟩
  · exact hf
  · cases ht

end Output

end DisplayBridge.Vkms
