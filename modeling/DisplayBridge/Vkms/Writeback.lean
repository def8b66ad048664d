import DisplayBridge.Vkms.CrcWorker

/-!
# Pictures that are written back

A commit can ask for the composed picture. It puts a job into the state it has made, and says that
a picture is wanted; then it queues the job at the connector, and only then fills in how a pixel
is written and where to (`vkms_wb_atomic_commit`). The worker writes the picture, signals that a
job is completed, and strikes the wish off (`vkms_composer_worker`). Which job is completed the
worker does not say: it is the oldest that is queued at the connector.

So there are three ways to complete a job that has not been written. The worker reads the job
before it takes the lock under which it reads that a picture is wanted; if a commit comes in
between, it has no job to write to, and signals all the same. A picture that was wanted earlier
may be outstanding, because its composition has failed; then its job is the oldest one. And the
rectangle to be written to may still be empty.

In a run where none of this happens (`DisplayBridge.Vkms.Output.Orderly`), every job that is
completed has been written, and none is completed twice or lost
(`DisplayBridge.Vkms.Output.writeback_once_written`). A picture that could not be composed stays
wanted, and its job queued.
-/

namespace DisplayBridge.Vkms

open Runs

/-- What the writeback looks at of a state. -/
def CrtcState.writeback (state : CrtcState) : Bool × Option ℕ :=
  (state.wbPending, state.activeWriteback)

/-- The state whose picture has just been signalled. -/
def WorkerStage.signalledOn : WorkerStage → Option ℕ
  | .signalled i _ _ => some i
  | _ => none

/-- The state a commit is about. -/
def CommitStage.state : CommitStage → Option ℕ
  | .idle => none
  | .enabled i | .wanted i | .queued i | .formatted i => some i

/-- The state whose job is not ready to be written to. -/
def CommitStage.preparing : CommitStage → Option ℕ
  | .enabled i | .wanted i | .queued i => some i
  | _ => none

namespace Output

variable {out out' : Output}

/-! ### The order of events -/

/-- No commit asks for a picture between the two reads of the worker; and when a picture that is
wanted is composed, none that was wanted earlier is outstanding, and the rectangle is not just
about to be set. -/
def Orderly (out : Output) : Event → Prop
  | .wbAtomicCommit =>
    match out.commit with
    | .enabled i => out.worker.startedOn ≠ some i
    | _ => True
  | .worker true =>
    match out.worker with
    | .composing i _ _ true _ => (out.jobs i).pixelWrite = true →
      (∀ j < i, (out.crtcStates j).wbPending = false) ∧ out.commit ≠ .formatted i
    | _ => True
  | _ => True

instance (out : Output) (e : Event) : Decidable (out.Orderly e) := by
  unfold Orderly
  split
  · split <;> infer_instance
  · split <;> infer_instance
  · infer_instance

/-! ### The invariant -/

/-- What the worker has read is still so. -/
structure WorkerOk (out : Output) : Prop where
  started : ∀ i wb, out.worker = .started i wb → i < out.made ∧
    ((out.crtcStates i).wbPending = true → wb = (out.crtcStates i).activeWriteback)
  composing : ∀ i first last wb, out.worker = .composing i first last true wb → i < out.made ∧
    (out.crtcStates i).wbPending = true ∧ wb = (out.crtcStates i).activeWriteback
  signalled : ∀ i, out.worker.signalledOn = some i → (out.jobs i).pixelWrite = true

/-- How far the commit has come with its job. -/
structure CommitOk (out : Output) : Prop where
  current : ∀ i, out.commit.state = some i → out.composerState = some i
  enabled : ∀ i, out.commit = .enabled i → (out.crtcStates i).activeWriteback = none
  wanted : ∀ i, out.commit = .wanted i → (out.crtcStates i).wbPending = true
  asked : ∀ i, out.commit = .queued i ∨ out.commit = .formatted i →
    (out.crtcStates i).activeWriteback.isSome
  preparing : ∀ i, out.commit.preparing = some i → (out.jobs i).pixelWrite = false

/-- **The writeback, while it is under way.** Queued are the jobs of the pictures that are wanted,
in order, but for the one that a commit is about to queue and the one that has just been
signalled; and what has been completed has been written, and is wanted no more. -/
structure Writeback (out : Output) : Prop where
  own : ∀ i job, (out.crtcStates i).activeWriteback = some job → job = i
  lt : ∀ i, (out.crtcStates i).activeWriteback.isSome → i < out.made
  wanted : ∀ i, (out.crtcStates i).wbPending = true → (out.crtcStates i).activeWriteback.isSome
  worker : out.WorkerOk
  commit : out.CommitOk
  fresh : ∀ i, (out.crtcStates i).activeWriteback = none → (out.jobs i).pixelWrite = false
  filled : ∀ i, (out.jobs i).pixelWrite = true →
    (out.jobs i).dst = true ∨ out.commit = .formatted i
  sorted : out.jobQueue.Pairwise (· < ·)
  queued : ∀ i, i ∈ out.jobQueue ↔ (out.crtcStates i).wbPending = true ∧
    out.commit ≠ .wanted i ∧ out.worker.signalledOn ≠ some i
  completed : ∀ c ∈ out.completions, ∃ i, c = ⟨some i, some i⟩ ∧
    (out.crtcStates i).activeWriteback.isSome ∧
      ((out.crtcStates i).wbPending = false ∨ out.worker.signalledOn = some i)
  once : (out.completions.map Completion.job).Nodup
  kept : ∀ i, (out.crtcStates i).activeWriteback.isSome →
    some i ∈ out.completions.map Completion.job ∨
      (out.crtcStates i).wbPending = true ∧ out.worker.signalledOn ≠ some i

theorem writeback_init : init.Writeback := by
  refine ⟨?_, ?_, ?_, ⟨?_, ?_, ?_⟩, ⟨?_, ?_, ?_, ?_, ?_⟩, fun _ _ => rfl, ?_, .nil, ?_, ?_, .nil,
    ?_⟩
  · rintro i job ⟨⟩
  · rintro i ⟨⟩
  · rintro i ⟨⟩
  · rintro i wb ⟨⟩
  · rintro i first last wb ⟨⟩
  · rintro i ⟨⟩
  · rintro i ⟨⟩
  · rintro i ⟨⟩
  · rintro i ⟨⟩
  · rintro i (h | h) <;> cases h
  · rintro i ⟨⟩
  · rintro i ⟨⟩
  · intro i
    exact iff_of_false List.not_mem_nil fun h => Bool.false_ne_true h.1
  · rintro c ⟨⟩
  · rintro i ⟨⟩

/-- A state without a job wants no picture. -/
theorem Writeback.unwanted (h : out.Writeback) {i : ℕ}
    (hnone : (out.crtcStates i).activeWriteback = none) :
    (out.crtcStates i).wbPending = false := by
  rw [← Bool.not_eq_true]
  intro hp
  have hsome := h.wanted i hp
  rw [hnone] at hsome
  cases hsome

/-- A job that is not ready to be written to has not been signalled. -/
theorem Writeback.unsignalled (h : out.Writeback) {i : ℕ}
    (hi : out.commit.preparing = some i) : out.worker.signalledOn ≠ some i := by
  intro hsignalled
  have hfalse := h.commit.preparing i hi
  rw [h.worker.signalled i hsignalled] at hfalse
  cases hfalse

/-- A change that leaves the writeback of the states, the commit and the jobs alone. -/
theorem Writeback.quiet (h : out.Writeback)
    (hstates : ∀ i, (out'.crtcStates i).writeback = (out.crtcStates i).writeback)
    (hmade : out.made ≤ out'.made)
    (hcomposer : ∀ i, out.commit.state = some i → out'.composerState = out.composerState)
    (hcommit : out'.commit = out.commit) (hjobs : out'.jobs = out.jobs)
    (hqueue : out'.jobQueue = out.jobQueue) (hcompletions : out'.completions = out.completions)
    (hsignalled : out'.worker.signalledOn = out.worker.signalledOn) (hworker : out'.WorkerOk) :
    out'.Writeback := by
  have hpending : ∀ i, (out'.crtcStates i).wbPending = (out.crtcStates i).wbPending :=
    fun i => congrArg Prod.fst (hstates i)
  have hactive : ∀ i, (out'.crtcStates i).activeWriteback = (out.crtcStates i).activeWriteback :=
    fun i => congrArg Prod.snd (hstates i)
  refine ⟨?_, ?_, ?_, hworker, ⟨?_, ?_, ?_, ?_, ?_⟩, ?_, ?_, ?_, ?_, ?_, ?_, ?_⟩
  all_goals simp only [hpending, hactive, hcommit, hjobs, hqueue, hcompletions, hsignalled]
  · exact h.own
  · exact fun i hi => (h.lt i hi).trans_le hmade
  · exact h.wanted
  · exact fun i hi => (hcomposer i hi).trans (h.commit.current i hi)
  · exact h.commit.enabled
  · exact h.commit.wanted
  · exact h.commit.asked
  · exact h.commit.preparing
  · exact h.fresh
  · exact h.filled
  · exact h.sorted
  · exact h.queued
  · exact h.completed
  · exact h.once
  · exact h.kept

/-- What the worker has read does not change with other things. -/
theorem WorkerOk.congr (h : out.WorkerOk)
    (hstates : ∀ i < out.made, (out'.crtcStates i).writeback = (out.crtcStates i).writeback)
    (hmade : out.made ≤ out'.made)
    (hjobs : ∀ i, (out.jobs i).pixelWrite = true → (out'.jobs i).pixelWrite = true)
    (hworker : out'.worker = out.worker) : out'.WorkerOk := by
  refine ⟨fun i wb hi => ?_, fun i first last wb hi => ?_, fun i hi => hjobs i ?_⟩
  · obtain ⟨hlt, hread⟩ := h.started i wb (hworker.symm.trans hi)
    obtain ⟨hp, ha⟩ := Prod.mk.inj (hstates i hlt)
    rw [hp, ha]
    exact ⟨hlt.trans_le hmade, hread⟩
  · obtain ⟨hlt, hread⟩ := h.composing i first last wb (hworker.symm.trans hi)
    obtain ⟨hp, ha⟩ := Prod.mk.inj (hstates i hlt)
    rw [hp, ha]
    exact ⟨hlt.trans_le hmade, hread⟩
  · rw [hworker] at hi
    exact h.signalled i hi

/-- The worker has nothing to do with the writeback. -/
theorem workerOk_of_not {stage : WorkerStage} (hworker : out.worker = stage)
    (hstarted : stage.startedOn = none) (hsignalled : stage.signalledOn = none)
    (hcomposing : ∀ i first last wb, stage ≠ .composing i first last true wb) : out.WorkerOk := by
  subst hworker
  refine ⟨fun i wb hi => ?_, fun i first last wb hi => absurd hi (hcomposing i first last wb),
    fun i hi => absurd (hi.symm.trans hsignalled) (Option.some_ne_none i)⟩
  rw [hi] at hstarted
  cases hstarted

/-- A change of one state that leaves its writeback alone. -/
theorem writeback_update {i : ℕ} {f : CrtcState → CrtcState}
    (hf : ∀ state, (f state).writeback = state.writeback) (out : Output) (j : ℕ) :
    ((out.update i f).crtcStates j).writeback = (out.crtcStates j).writeback := by
  by_cases hji : j = i
  · rw [hji, update_crtcStates_self]
    exact hf _
  · rw [update_crtcStates_ne hji]

/-- A change that leaves the worker alone as well. -/
theorem Writeback.apart (h : out.Writeback)
    (hstates : ∀ i, (out'.crtcStates i).writeback = (out.crtcStates i).writeback)
    (hmade : out.made ≤ out'.made)
    (hcomposer : ∀ i, out.commit.state = some i → out'.composerState = out.composerState)
    (hcommit : out'.commit = out.commit) (hjobs : out'.jobs = out.jobs)
    (hqueue : out'.jobQueue = out.jobQueue) (hcompletions : out'.completions = out.completions)
    (hworker : out'.worker = out.worker) : out'.Writeback := by
  have hok : out'.WorkerOk :=
    h.worker.congr (fun i _ => hstates i) hmade (fun i hi => by rw [hjobs]; exact hi) hworker
  exact h.quiet hstates hmade hcomposer hcommit hjobs hqueue hcompletions
    (congrArg WorkerStage.signalledOn hworker) hok

/-- The worker moves on, and has not signalled anything. -/
theorem Writeback.moves (h : out.Writeback) (hsignalled : out.worker.signalledOn = none)
    {stage : WorkerStage} (hstage : stage.signalledOn = none) {entries : List ℕ}
    {failed : List (ℕ × ℕ)} {queue : List ℕ} (hok : WorkerOk { out with
      worker := stage, entries := entries, failed := failed, composerWorkq := queue }) :
    Writeback { out with
      worker := stage, entries := entries, failed := failed, composerWorkq := queue } :=
  h.quiet (fun _ => rfl) le_rfl (fun _ _ => rfl) rfl rfl rfl rfl
    (hstage.trans hsignalled.symm) hok

/-- The worker moves on to something that has nothing to do with the writeback. -/
theorem Writeback.turns (h : out.Writeback) (hsignalled : out.worker.signalledOn = none)
    {stage : WorkerStage} (hstarted : stage.startedOn = none) (hstage : stage.signalledOn = none)
    (hcomposing : ∀ i first last wb, stage ≠ .composing i first last true wb)
    {entries : List ℕ} {failed : List (ℕ × ℕ)} :
    Writeback { out with worker := stage, entries := entries, failed := failed } :=
  h.moves hsignalled hstage (workerOk_of_not rfl hstarted hstage hcomposing)

/-- **The worker takes the frames**, and with them whether a picture is wanted. -/
theorem Writeback.take (h : out.Writeback) {i : ℕ} {wb : Option ℕ}
    (hstage : out.worker = .started i wb) {stage : WorkerStage}
    (hnext : stage = .idle ∨ ∃ first last,
      stage = .composing i first last (out.crtcStates i).wbPending wb) :
    Writeback { out.update i CrtcState.take with worker := stage } := by
  have hsame := writeback_update (i := i) (f := CrtcState.take) (fun _ => rfl) out
  obtain ⟨hlt, hread⟩ := h.worker.started i wb hstage
  refine h.quiet hsame le_rfl (fun _ _ => rfl) rfl rfl rfl rfl ?_ ?_
  · rw [hstage]
    rcases hnext with rfl | ⟨first, last, rfl⟩ <;> rfl
  · rcases hnext with rfl | ⟨first, last, rfl⟩
    · exact workerOk_of_not rfl rfl rfl (by rintro j first last wb ⟨⟩)
    · refine ⟨?_, fun j first last wb hj => ?_, ?_⟩
      · rintro j wb ⟨⟩
      · obtain ⟨rfl, -, -, hpending, rfl⟩ := WorkerStage.composing.inj hj
        obtain ⟨hp, ha⟩ := Prod.mk.inj (hsame i)
        exact ⟨hlt, hp.trans hpending, (hread hpending).trans ha.symm⟩
      · rintro j ⟨⟩

/-! ### A picture is signalled -/

/-- **The oldest job is that of the picture**, if no earlier one is outstanding. -/
theorem head_of_sorted {queue : List ℕ} (hsorted : queue.Pairwise (· < ·)) {i : ℕ}
    (hi : i ∈ queue) (hfirst : ∀ j < i, j ∉ queue) : ∃ rest, queue = i :: rest := by
  cases queue with
  | nil => cases hi
  | cons j rest =>
    obtain ⟨hlt, -⟩ := List.pairwise_cons.1 hsorted
    rcases List.mem_cons.1 hi with rfl | hi
    · exact ⟨rest, rfl⟩
    · exact absurd List.mem_cons_self (hfirst j (hlt i hi))

/-- A job that was written had its function and its rectangle. -/
theorem of_composeActivePlanes {jobs : ℕ → WritebackJob} {job : ℕ} {composed : Bool}
    {written : Option ℕ} (h : composeActivePlanes jobs (some job) composed = some written) :
    composed = true ∧ (jobs job).pixelWrite = true ∧
      ((jobs job).dst = true → written = some job) := by
  rw [composeActivePlanes] at h
  obtain ⟨hboth, h⟩ := Option.ite_none_right_eq_some.1 h
  obtain ⟨hcomposed, hpixel⟩ := Bool.and_eq_true_iff.1 hboth
  refine ⟨hcomposed, hpixel, fun hdst => ?_⟩
  rw [if_pos hdst] at h
  exact (Option.some.inj h).symm

/-- **The worker signals a picture**: it completes the job the picture was written to. -/
theorem Writeback.signal (h : out.Writeback) {composed : Bool} {i first last : ℕ}
    {wb written : Option ℕ} (hstage : out.worker = .composing i first last true wb)
    (hcompose : composeActivePlanes out.jobs wb composed = some written)
    (hok : out.Orderly (.worker composed)) :
    Writeback { out with
      worker := .signalled i first last, jobQueue := out.jobQueue.tail
      completions := out.completions ++ [⟨out.jobQueue.head?, written⟩] } := by
  obtain ⟨hlt, hpending, hwb⟩ := h.worker.composing i first last wb hstage
  obtain ⟨job, hjob⟩ := Option.isSome_iff_exists.1 (h.wanted i hpending)
  obtain rfl := h.own i job hjob
  rw [hwb, hjob] at hcompose
  obtain ⟨rfl, hpixel, hwritten⟩ := of_composeActivePlanes hcompose
  rw [Orderly, hstage] at hok
  obtain ⟨hearlier, hplaced⟩ := hok hpixel
  obtain rfl := hwritten ((h.filled job hpixel).resolve_right hplaced)
  have hsignalled : out.worker.signalledOn = none := by
    rw [hstage]
    rfl
  have hnot : out.commit ≠ .wanted job := by
    intro hcommit
    have hfalse := h.commit.preparing job (by rw [hcommit]; rfl)
    rw [hpixel] at hfalse
    cases hfalse
  have hmem : job ∈ out.jobQueue :=
    (h.queued job).2 ⟨hpending, hnot, by rw [hsignalled]; exact (Option.some_ne_none job).symm⟩
  obtain ⟨rest, hqueue⟩ := head_of_sorted h.sorted hmem fun j hj hmem => by
    rw [h.queued, hearlier j hj] at hmem
    exact Bool.false_ne_true hmem.1
  obtain ⟨hrest, hsorted⟩ := List.pairwise_cons.1 (hqueue ▸ h.sorted)
  obtain ⟨hcurrent, henabled, hwanted, hasked, hpreparing⟩ := h.commit
  refine ⟨h.own, h.lt, h.wanted, ⟨?_, ?_, fun j hj => ?_⟩,
    ⟨hcurrent, henabled, hwanted, hasked, hpreparing⟩, h.fresh, h.filled, ?_, fun j => ?_, ?_, ?_,
    fun j hj => ?_⟩
  · rintro j wb ⟨⟩
  · rintro j first last wb ⟨⟩
  · obtain rfl := Option.some.inj hj
    exact hpixel
  · rw [hqueue]
    exact hsorted
  · -- the job that was the oldest is in the queue no more
    have hj := h.queued j
    rw [hqueue, List.mem_cons, hsignalled] at hj
    rw [hqueue]
    show j ∈ rest ↔ _ ∧ _ ∧ some job ≠ some j
    constructor
    · intro hmem
      obtain ⟨hp, hc, -⟩ := hj.1 (.inr hmem)
      exact ⟨hp, hc, fun heq => (hrest j hmem).ne (Option.some.inj heq)⟩
    · rintro ⟨hp, hc, hne⟩
      refine (hj.2 ⟨hp, hc, (Option.some_ne_none j).symm⟩).resolve_left ?_
      rintro rfl
      exact hne rfl
  · refine List.forall_mem_append.2 ⟨fun c hc => ?_, List.forall_mem_singleton.2 ?_⟩
    · obtain ⟨j, hcj, hactive, hstruck⟩ := h.completed c hc
      refine ⟨j, hcj, hactive, .inl (hstruck.resolve_right ?_)⟩
      rw [hsignalled]
      exact (Option.some_ne_none j).symm
    · rw [hqueue]
      exact ⟨job, rfl, h.wanted job hpending, .inr rfl⟩
  · rw [List.map_append, List.nodup_append]
    refine ⟨h.once, List.pairwise_singleton _ _, fun a ha b hb => ?_⟩
    obtain ⟨c, hc, rfl⟩ := List.mem_map.1 ha
    rw [List.mem_singleton.1 hb, hqueue]
    obtain ⟨j, rfl, -, hstruck⟩ := h.completed c hc
    rintro heq
    obtain rfl : j = job := Option.some.inj heq
    rcases hstruck with hfalse | hsame
    · rw [hpending] at hfalse
      cases hfalse
    · rw [hsignalled] at hsame
      cases hsame
  · rw [List.map_append, List.mem_append]
    by_cases hsame : j = job
    · rw [hsame, hqueue]
      exact .inl (.inr List.mem_cons_self)
    · refine (h.kept j hj).imp .inl fun hwaits => ⟨hwaits.1, fun heq => hsame ?_⟩
      exact (Option.some.inj heq).symm

/-- **The wish is struck off.** -/
theorem Writeback.strikeOff (h : out.Writeback) {i first last : ℕ}
    (hstage : out.worker = .signalled i first last) :
    Writeback { out.update i CrtcState.strikeOff with worker := .reporting first last } := by
  have hactive : ∀ j, ((out.update i CrtcState.strikeOff).crtcStates j).activeWriteback =
      (out.crtcStates j).activeWriteback := by
    intro j
    by_cases hji : j = i
    · rw [hji, update_crtcStates_self]
      rfl
    · rw [update_crtcStates_ne hji]
  have hpending : ∀ j, ((out.update i CrtcState.strikeOff).crtcStates j).wbPending = true ↔
      (out.crtcStates j).wbPending = true ∧ j ≠ i := by
    intro j
    by_cases hji : j = i
    · rw [hji, update_crtcStates_self]
      exact iff_of_false Bool.false_ne_true fun h => h.2 rfl
    · rw [update_crtcStates_ne hji]
      exact (and_iff_left hji).symm
  have hsignalled : out.worker.signalledOn = some i := by
    rw [hstage]
    rfl
  refine ⟨fun j => ?_, fun j => ?_, fun j hj => ?_,
    workerOk_of_not rfl rfl rfl (by rintro j first last wb ⟨⟩),
    ⟨h.commit.current, fun j hj => ?_, fun j hj => ?_, fun j hj => ?_, h.commit.preparing⟩,
    fun j hj => ?_, h.filled, h.sorted, fun j => ?_, fun c hc => ?_, h.once, fun j hj => ?_⟩
  · rw [hactive]
    exact h.own j
  · rw [hactive]
    exact h.lt j
  · rw [hactive]
    exact h.wanted j ((hpending j).1 hj).1
  · exact (hactive j).trans (h.commit.enabled j hj)
  · refine (hpending j).2 ⟨h.commit.wanted j hj, ?_⟩
    -- a job that has just been signalled is not about to be queued
    rintro rfl
    exact h.unsignalled (by rw [show out.commit = .wanted j from hj]; rfl) hsignalled
  · rw [hactive]
    exact h.commit.asked j hj
  · exact h.fresh j ((hactive j).symm.trans hj)
  · refine (h.queued j).trans ?_
    rw [hsignalled, hpending]
    constructor
    · rintro ⟨hp, hc, hne⟩
      exact ⟨⟨hp, fun hji => hne (congrArg some hji.symm)⟩, hc, (Option.some_ne_none j).symm⟩
    · rintro ⟨⟨hp, hne⟩, hc, -⟩
      exact ⟨hp, hc, fun heq => hne (Option.some.inj heq).symm⟩
  · obtain ⟨j, hcj, hsome, hstruck⟩ := h.completed c hc
    refine ⟨j, hcj, (hactive j).symm ▸ hsome, .inl ?_⟩
    rw [← Bool.not_eq_true, hpending]
    rintro ⟨hp, hne⟩
    rcases hstruck with hfalse | hsame
    · rw [hp] at hfalse
      cases hfalse
    · rw [hsignalled] at hsame
      exact hne (Option.some.inj hsame).symm
  · rw [hactive] at hj
    refine (h.kept j hj).imp_right fun hwaits => ⟨(hpending j).2 ⟨hwaits.1, ?_⟩, ?_⟩
    · rintro rfl
      exact hwaits.2 hsignalled
    · exact (Option.some_ne_none j).symm

/-! ### A picture is asked for -/

/-- **A commit sets out to ask for a picture.** -/
theorem Writeback.enable (h : out.Writeback) {i : ℕ} (hidle : out.commit = .idle)
    (hcurrent : out.composerState = some i) (hnone : (out.crtcStates i).activeWriteback = none) :
    Writeback { out with composerEnabled := true, commit := .enabled i } := by
  refine ⟨h.own, h.lt, h.wanted, h.worker.congr (fun _ _ => rfl) le_rfl (fun _ => id) rfl,
    ⟨fun j hj => ?_, fun j hj => ?_, ?_, ?_, fun j hj => ?_⟩, h.fresh, fun j hj => .inl ?_,
    h.sorted, fun j => ?_, h.completed, h.once, h.kept⟩
  · obtain rfl := Option.some.inj hj
    exact hcurrent
  · obtain rfl := CommitStage.enabled.inj hj
    exact hnone
  · rintro j ⟨⟩
  · rintro j (hj | hj) <;> cases hj
  · obtain rfl := Option.some.inj hj
    exact h.fresh i hnone
  · refine (h.filled j hj).resolve_right ?_
    rw [hidle]
    rintro ⟨⟩
  · have hqueued := h.queued j
    rw [hidle] at hqueued
    refine hqueued.trans (and_congr_right fun _ => and_congr_left fun _ => iff_of_true ?_ ?_)
    · rintro ⟨⟩
    · rintro ⟨⟩

/-- The states, when one of them is given a job. -/
theorem writeback_want (i : ℕ) (out : Output) (j : ℕ) :
    ((out.update i (·.want i)).crtcStates j).writeback =
      if j = i then (true, some i) else (out.crtcStates j).writeback := by
  by_cases hji : j = i
  · rw [if_pos hji, hji, update_crtcStates_self]
    rfl
  · rw [if_neg hji, update_crtcStates_ne hji]

/-- **The job is in the state**, and its picture wanted; the worker is not just about to read
that. -/
theorem Writeback.want (h : out.Writeback) (hids : out.Ids) {i : ℕ}
    (hstage : out.commit = .enabled i) (hok : out.Orderly .wbAtomicCommit) :
    Writeback { out.update i (·.want i) with commit := .wanted i } := by
  have hactive : ∀ j, ((out.update i (·.want i)).crtcStates j).activeWriteback =
      if j = i then some i else (out.crtcStates j).activeWriteback := fun j =>
    (congrArg Prod.snd (writeback_want i out j)).trans (apply_ite Prod.snd _ _ _)
  have hpending : ∀ j, ((out.update i (·.want i)).crtcStates j).wbPending =
      if j = i then true else (out.crtcStates j).wbPending := fun j =>
    (congrArg Prod.fst (writeback_want i out j)).trans (apply_ite Prod.fst _ _ _)
  have hcurrent := h.commit.current i (by rw [hstage]; rfl)
  have hlt : i < out.made := Nat.lt_of_succ_le (hids.composer i hcurrent).le
  have hnone := h.commit.enabled i hstage
  have hunwanted := h.unwanted hnone
  refine ⟨fun j job => ?_, fun j hj => ?_, fun j hj => ?_, ?_,
    ⟨fun j hj => ?_, ?_, fun j hj => ?_, ?_, fun j hj => ?_⟩,
    fun j hj => ?_, fun j hj => .inl ?_, h.sorted, fun j => ?_, fun c hc => ?_, h.once,
    fun j hj => ?_⟩
  · rw [hactive]
    split
    · next hji => exact fun hjob => (Option.some.inj hjob).symm.trans hji.symm
    · exact h.own j job
  · rw [hactive] at hj
    split at hj
    · next hji => exact hji ▸ hlt
    · exact h.lt j hj
  · rw [hactive]
    rw [hpending] at hj
    split
    · rfl
    · next hji =>
      rw [if_neg hji] at hj
      exact h.wanted j hj
  · -- the worker has read nothing of this state, or that no picture was wanted
    rw [Orderly, hstage] at hok
    refine ⟨fun k wb hk => ?_, fun k first last wb hk => ?_, h.worker.signalled⟩
    · have hki : k ≠ i := by
        rintro rfl
        refine hok ?_
        rw [show out.worker = .started k wb from hk]
        rfl
      rw [hpending, hactive, if_neg hki, if_neg hki]
      exact h.worker.started k wb hk
    · have hread := h.worker.composing k first last wb hk
      have hki : k ≠ i := by
        rintro rfl
        rw [hunwanted] at hread
        cases hread.2.1
      rw [hpending, hactive, if_neg hki, if_neg hki]
      exact hread
  · obtain rfl := Option.some.inj hj
    exact hcurrent
  · rintro j ⟨⟩
  · obtain rfl := CommitStage.wanted.inj hj
    rw [hpending, if_pos rfl]
  · rintro j (hj | hj) <;> cases hj
  · obtain rfl := Option.some.inj hj
    exact h.commit.preparing i (by rw [hstage]; rfl)
  · rw [hactive] at hj
    split at hj
    · cases hj
    · exact h.fresh j hj
  · refine (h.filled j hj).resolve_right ?_
    rw [hstage]
    rintro ⟨⟩
  · have hqueued := h.queued j
    rw [hstage] at hqueued
    refine hqueued.trans ?_
    rw [hpending]
    split
    · next hji =>
      subst hji
      refine iff_of_false (fun hj => ?_) fun hj => hj.2.1 rfl
      rw [hunwanted] at hj
      cases hj.1
    · next hji =>
      refine and_congr_right fun _ => and_congr_left fun _ => iff_of_true ?_ ?_
      · rintro ⟨⟩
      · exact fun heq => hji (CommitStage.wanted.inj heq).symm
  · obtain ⟨j, hcj, hsome, hstruck⟩ := h.completed c hc
    have hji : j ≠ i := by
      rintro rfl
      rw [hnone] at hsome
      cases hsome
    refine ⟨j, hcj, ?_, ?_⟩
    · rw [hactive, if_neg hji]
      exact hsome
    · rw [hpending, if_neg hji]
      exact hstruck
  · rw [hactive] at hj
    rw [hpending]
    split
    · next hji =>
      subst hji
      exact .inr ⟨rfl, h.unsignalled (by rw [hstage]; rfl)⟩
    · next hji =>
      rw [if_neg hji] at hj
      exact h.kept j hj

/-- **The job is queued** behind all others. -/
theorem Writeback.queueJob (h : out.Writeback) (hids : out.Ids) {i : ℕ}
    (hstage : out.commit = .wanted i) :
    Writeback { out with jobQueue := out.jobQueue ++ [i], commit := .queued i } := by
  have hcurrent := h.commit.current i (by rw [hstage]; rfl)
  have hpending := h.commit.wanted i hstage
  have hpixel := h.commit.preparing i (by rw [hstage]; rfl)
  have hsignalled : out.worker.signalledOn ≠ some i := h.unsignalled (by rw [hstage]; rfl)
  refine ⟨h.own, h.lt, h.wanted, h.worker.congr (fun _ _ => rfl) le_rfl (fun _ => id) rfl,
    ⟨fun j hj => ?_, ?_, ?_, fun j hj => ?_, fun j hj => ?_⟩,
    h.fresh, fun j hj => .inl ?_, ?_, fun j => ?_, h.completed, h.once, h.kept⟩
  · obtain rfl := Option.some.inj hj
    exact hcurrent
  · rintro j ⟨⟩
  · rintro j ⟨⟩
  · rcases hj with hj | hj
    · obtain rfl := CommitStage.queued.inj hj
      exact h.wanted i hpending
    · cases hj
  · obtain rfl := Option.some.inj hj
    exact hpixel
  · refine (h.filled j hj).resolve_right ?_
    rw [hstage]
    rintro ⟨⟩
  · -- the state is the latest
    rw [List.pairwise_append]
    refine ⟨h.sorted, List.pairwise_singleton _ _, fun j hj k hk => ?_⟩
    obtain rfl := List.mem_singleton.1 hk
    obtain ⟨hp, hne, -⟩ := (h.queued j).1 hj
    have hle : j ≤ k := by
      rw [← Nat.lt_succ_iff, Nat.succ_eq_add_one, hids.composer k hcurrent]
      exact h.lt j (h.wanted j hp)
    refine lt_of_le_of_ne hle ?_
    rintro rfl
    exact hne hstage
  · rw [List.mem_append, List.mem_singleton, h.queued, hstage]
    constructor
    · rintro (⟨hp, -, hs⟩ | rfl)
      · exact ⟨hp, by rintro ⟨⟩, hs⟩
      · exact ⟨hpending, by rintro ⟨⟩, hsignalled⟩
    · rintro ⟨hp, -, hs⟩
      by_cases hji : j = i
      · exact .inr hji
      · exact .inl ⟨hp, fun heq => hji (CommitStage.wanted.inj heq).symm, hs⟩

/-- **Something of the job is filled in**: first how a pixel is written, then where to. -/
theorem Writeback.fill (h : out.Writeback) {i : ℕ} {job : WritebackJob} {stage : CommitStage}
    (hfill : out.commit = .queued i ∧ job = { out.jobs i with pixelWrite := true } ∧
        stage = .formatted i ∨
      out.commit = .formatted i ∧ job = { out.jobs i with dst := true } ∧ stage = .idle) :
    Writeback { out with jobs := Function.update out.jobs i job, commit := stage } := by
  have hold : out.commit = .queued i ∨ out.commit = .formatted i :=
    hfill.imp And.left And.left
  have hcurrent := h.commit.current i (by rcases hold with hold | hold <;> rw [hold] <;> rfl)
  have hasked := h.commit.asked i hold
  have hstage : stage = .formatted i ∨ stage = .idle := hfill.imp (·.2.2) (·.2.2)
  have hwritten : (out.jobs i).pixelWrite = true → job.pixelWrite = true := by
    rcases hfill with ⟨-, rfl, -⟩ | ⟨-, rfl, -⟩
    · exact fun _ => rfl
    · exact id
  have hplaced : job.dst = true ∨ stage = .formatted i :=
    hfill.symm.imp (fun hfill => by rw [hfill.2.1]) (·.2.2)
  refine ⟨h.own, h.lt, h.wanted,
    h.worker.congr (fun _ _ => rfl) le_rfl (fun j hj => ?_) rfl,
    ⟨fun j hj => ?_, fun j hj => ?_, fun j hj => ?_, fun j hj => ?_, fun j hj => ?_⟩,
    fun j hj => ?_, fun j hj => ?_, h.sorted, fun j => ?_, h.completed, h.once, h.kept⟩
  · by_cases hji : j = i
    · subst hji
      exact (congrArg WritebackJob.pixelWrite (Function.update_self ..)).trans (hwritten hj)
    · exact (congrArg WritebackJob.pixelWrite (Function.update_of_ne hji ..)).trans hj
  · rcases hstage with rfl | rfl
    · obtain rfl := Option.some.inj hj
      exact hcurrent
    · cases hj
  · rcases hstage with rfl | rfl <;> cases hj
  · rcases hstage with rfl | rfl <;> cases hj
  · rcases hstage with rfl | rfl
    · rcases hj with hj | hj
      · cases hj
      · obtain rfl := CommitStage.formatted.inj hj
        exact hasked
    · rcases hj with hj | hj <;> cases hj
  · rcases hstage with rfl | rfl <;> cases hj
  · have hji : j ≠ i := by
      rintro rfl
      rw [show (out.crtcStates j).activeWriteback = none from hj] at hasked
      cases hasked
    exact (congrArg WritebackJob.pixelWrite (Function.update_of_ne hji ..)).trans (h.fresh j hj)
  · by_cases hji : j = i
    · subst hji
      exact hplaced.imp_left (congrArg WritebackJob.dst (Function.update_self ..)).trans
    · have hsame : Function.update out.jobs i job j = out.jobs j := Function.update_of_ne hji ..
      refine .inl ((congrArg WritebackJob.dst hsame).trans ?_)
      refine (h.filled j ((congrArg WritebackJob.pixelWrite hsame).symm.trans hj)).resolve_right
        fun heq => ?_
      rcases hold with hold | hold
      · rw [hold] at heq
        cases heq
      · rw [hold] at heq
        exact hji (CommitStage.formatted.inj heq).symm
  · refine (h.queued j).trans ?_
    refine and_congr_right fun _ => and_congr_left fun _ => iff_of_true ?_ ?_
    · rcases hold with hold | hold <;> rw [hold] <;> rintro ⟨⟩
    · rcases hstage with rfl | rfl <;> rintro ⟨⟩

/-- A new state asks for nothing. -/
theorem Writeback.flush (h : out.Writeback) (hidle : out.commit = .idle) :
    out.putOnDisplay.Writeback := by
  have hsame : ∀ j, (out.putOnDisplay.crtcStates j).writeback = (out.crtcStates j).writeback := by
    intro j
    by_cases hj : j = out.made
    · have hnone : (out.crtcStates j).activeWriteback = none := by
        rw [← Option.not_isSome_iff_eq_none]
        exact fun hsome => (h.lt j hsome).ne hj
      rw [CrtcState.writeback, CrtcState.writeback, hnone, h.unwanted hnone, putOnDisplay, hj,
        update_crtcStates_self]
      rfl
    · rw [putOnDisplay, update_crtcStates_ne hj]
  refine h.apart hsame (Nat.le_succ _) (fun i hi => ?_) rfl rfl rfl rfl rfl
  rw [hidle] at hi
  cases hi

/-! ### Every run -/

/-- **Every event keeps the invariant** that comes at a good time. -/
theorem Writeback.step (h : out.Writeback) (hids : out.Ids) {e : Event} (hok : out.Orderly e)
    (hmoves : out.Moves e out') : out'.Writeback := by
  cases hmoves with
  | vblank frame hstage hlt =>
    exact h.apart (fun _ => rfl) le_rfl (fun _ _ => rfl) rfl rfl rfl rfl rfl
  | check frame state stage hstage hstate =>
    exact h.apart (fun _ => rfl) le_rfl (fun _ _ => rfl) rfl rfl rfl rfl rfl
  | mark frame i hstage =>
    have hmark := writeback_update (i := i) (f := (·.mark out.frame)) (fun _ => rfl) out
    exact h.apart hmark le_rfl (fun _ _ => rfl) rfl rfl rfl rfl rfl
  | queue frame i hstage =>
    exact h.apart (fun _ => rfl) le_rfl (fun _ _ => rfl) rfl rfl rfl rfl rfl
  | start composed i queue hstage hqueue =>
    have hlt : i < out.made := hids.known_lt i (.inr (.inl (by rw [hqueue]; simp)))
    refine h.moves (by rw [hstage]; rfl) rfl ⟨fun j wb hj => ?_, ?_, ?_⟩
    · obtain ⟨rfl, rfl⟩ := WorkerStage.started.inj hj
      exact ⟨hlt, fun _ => rfl⟩
    · rintro j first last wb ⟨⟩
    · rintro j ⟨⟩
  | takeNothing composed i wb hstage htake => exact h.take hstage (.inl rfl)
  | take composed i wb first last hstage htake =>
    exact h.take hstage (.inr ⟨first, last, rfl⟩)
  | signal composed i first last wb written hstage hcompose =>
    exact h.signal hstage hcompose hok
  | compose composed i first last wb hstage =>
    exact h.turns (by rw [hstage]; rfl) rfl rfl (by rintro j first last wb ⟨⟩)
  | fail composed i first last wbPending wb hstage =>
    exact h.turns (by rw [hstage]; rfl) rfl rfl (by rintro j first last wb ⟨⟩)
  | strikeOff composed i first last hstage => exact h.strikeOff hstage
  | report composed first last hstage hmore =>
    exact h.turns (by rw [hstage]; rfl) rfl rfl (by rintro j first last wb ⟨⟩)
  | finish composed first last hstage hdone =>
    exact h.turns (by rw [hstage]; rfl) rfl rfl (by rintro j first last wb ⟨⟩)
  | flush hidle => exact h.flush hidle
  | enable i hidle hcurrent hnone => exact h.enable hidle hcurrent hnone
  | want i hstage => exact h.want hids hstage hok
  | queueJob i hstage => exact h.queueJob hids hstage
  | fill i job stage hfill => exact h.fill hfill
  | setComposer enabled =>
    exact h.apart (fun _ => rfl) le_rfl (fun _ _ => rfl) rfl rfl rfl rfl rfl

/-- **Every completed job has been written**, in every run in which commits and the worker keep
out of each other's way: no job is completed twice, the picture of each was written to it, and
every job that was asked for has been completed, or is queued, or is just about to be. -/
theorem writeback_once_written {es : List Event} (hrun : Run step Orderly init es out) :
    (out.completions.map Completion.job).Nodup ∧
      (∀ c ∈ out.completions, ∃ i, c = ⟨some i, some i⟩ ∧
        (out.crtcStates i).activeWriteback = some i) ∧
      ∀ i job, (out.crtcStates i).activeWriteback = some job →
        some job ∈ out.completions.map Completion.job ∨ job ∈ out.jobQueue ∨
          out.commit = .wanted job := by
  have hinv : out.Ids ∧ out.Writeback := by
    refine hrun.invariant (I := fun out => out.Ids ∧ out.Writeback)
      ⟨ids_init, writeback_init⟩ ?_
    rintro out e out' ⟨hids, h⟩ hok hs
    have hmoves := moves_of_step hs
    exact ⟨hids.step hmoves, h.step hids hok hmoves⟩
  obtain ⟨-, h⟩ := hinv
  refine ⟨h.once, fun c hc => ?_, fun i job hjob => ?_⟩
  · obtain ⟨i, hci, hsome, -⟩ := h.completed c hc
    obtain ⟨job, hjob⟩ := Option.isSome_iff_exists.1 hsome
    exact ⟨i, hci, by rw [hjob, h.own i job hjob]⟩
  · obtain rfl := h.own i job hjob
    refine (h.kept job (by rw [hjob]; rfl)).imp_right fun hwaits => ?_
    by_cases hwanted : out.commit = .wanted job
    · exact .inr hwanted
    · exact .inl ((h.queued job).2 ⟨hwaits.1, hwanted, hwaits.2⟩)

/-- A commit asks for a picture, and its last steps come after the first vblank. -/
def onePicture : List Event :=
  [.atomicFlush, .wbAtomicCommit, .wbAtomicCommit, .wbAtomicCommit, .vblank 1, .vblank 0,
    .vblank 0, .wbAtomicCommit, .vblank 0, .wbAtomicCommit, .worker true, .worker true,
    .worker true, .worker true]

theorem writeback_once_written_onePicture : ∃ out, Run step Orderly init onePicture out ∧
    out.completions = [⟨some 0, some 0⟩] ∧ (out.completions.map Completion.job).Nodup := by
  have hsome : (exec step Orderly init onePicture).isSome = true := by decide
  have hrun := run_get hsome
  exact ⟨_, hrun, rfl, (writeback_once_written hrun).1⟩

/-- What has been completed, whatever the order of events. -/
def completed (es : List Event) : Option (List Completion) :=
  (exec step (fun _ _ => True) init es).map Output.completions

/-- A whole vblank, with a checksum wanted. -/
def wholeVblank (frame : ℕ) : List Event := .vblank frame :: List.replicate 3 (.vblank 0)

/-- A commit that asks for a picture. -/
def wbCommit : List Event := .atomicFlush :: List.replicate 5 .wbAtomicCommit

-- the commit asks between the two reads of the worker
example : completed ([.atomicFlush, .setComposer true] ++ wholeVblank 1 ++ [.worker true] ++
    List.replicate 5 .wbAtomicCommit ++ [.worker true, .worker true]) =
      some [⟨some 0, none⟩] := by decide

-- the first picture fails, and its job is completed with the second
example : completed (wbCommit ++ wholeVblank 1 ++ [.worker true, .worker true, .worker false] ++
    wbCommit ++ wholeVblank 2 ++ List.replicate 3 (.worker true)) =
      some [⟨some 0, some 1⟩] := by decide

-- the rectangle is still empty
example : completed (wbCommit.dropLast ++ wholeVblank 1 ++ List.replicate 3 (.worker true)) =
    some [⟨some 0, none⟩] := by decide

end Output

end DisplayBridge.Vkms
