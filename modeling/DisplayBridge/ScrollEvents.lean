import Mathlib.Algebra.BigOperators.Group.List.Basic
import DisplayBridge.MouseButtons

/-!
# Scrolling from one end to the other

A scroll event travels like any other input event (`DisplayBridge.forward`), with the
ticks of the wheel in the value field. The Mac has no use for the field `x` of a scroll
event and puts the pointer there, as in every event of the mouse; Ubuntu takes it for a
horizontal scroll. So whoever scrolls also scrolls sideways, by as many ticks as the
pointer is columns away from the left edge.

The two ends agree (`DisplayBridge.ScrollAgrees`) exactly on the events that happen in
the first column of the target display (`DisplayBridge.scrollAgrees_iff`) – provided that
their delta and their time can be converted at all, since a conversion that does not
succeed stops the Mac. The coordinates are rounded twice on their way to a column, so the
first column is not quite a part in 2879 of the view: where it ends is
`DisplayBridge.firstColumn`.
-/

namespace DisplayBridge

open Swift InputForwarder

/-! ### What is promised -/

/-- The ticks of a scroll event: ten for each unit of the delta, clamped to 16 bits. -/
def NSEvent.ticks (e : NSEvent) : Int16 :=
  int16Clamping (truncate (mulDouble e.scrollingDeltaY 10))

/-- What a scroll event is to be written as: one event of the wheel, if it moves at all, no
event of the horizontal wheel, and one report. -/
def scrollEvents (e : TimedEvent) : List LinuxEvent :=
  (if e.event.ticks ≠ 0 then [emitEvent evRel relWheel e.event.ticks.toInt] else []) ++ [emitSyn]

/-- The motion of a relative axis that some events add up to. -/
def relMotion (axis : UInt16) (events : List LinuxEvent) : ℤ :=
  (events.map fun ev => if ev.type = evRel ∧ ev.code = axis then ev.value else 0).sum

/-- **The two ends agree on scrolling**: each event is written as it is to be written, and
over the whole sequence the wheel moves as far on Ubuntu as on the Mac, and never
sideways. -/
structure ScrollAgrees (fw : InputForwarder) (view : NSView) (es : List TimedEvent) : Prop where
  each : ∀ pre e post, es = pre ++ e :: post → ∃ fw₁ before fw₂,
    forwardAll view fw pre = some (fw₁, before) ∧ forward fw₁ view e = some (fw₂, scrollEvents e)
  motion : ∃ fw' written, forwardAll view fw es = some (fw', written) ∧
    relMotion relWheel written = (es.map fun e => e.event.ticks.toInt).sum ∧
    relMotion relHWheel written = 0

/-- How far from the left edge, as a part of the width, the first column of the target display
reaches: half way between the last value of type `Double` whose product with 2879 is rounded
below 1, and the next value. -/
def firstColumn : ℚ := (6407344242344407 + 1 / 2) / 2 ^ 64

/-- **The events the two ends agree on**: the pointer is in the first column of the target
display, or the view has no size; and the delta and the time convert. -/
structure ScrollOk (fw : InputForwarder) (view : NSView) (e : TimedEvent) : Prop where
  column : 0 < view.width → 0 < view.height → e.event.locX / view.width < firstColumn
  delta : -2 ^ 63 - 1024 ≤ e.event.scrollingDeltaY * 10 ∧
    e.event.scrollingDeltaY * 10 < 2 ^ 63 - 512
  time : -1 < fw.elapsed (e.now 0) ∧ fw.elapsed (e.now 0) < 2 ^ 32

/-! ### The first column -/

/-- What is rounded below 1 in the end is exactly what lies in the first column. -/
theorem mulDouble_lt_one_iff (q : ℚ) :
    mulDouble (max 0 (min 1 (double q))) (dbTargetWidth - 1 : ℤ) < 1 ↔ q < firstColumn := by
  have hmono : ∀ r r' : ℚ, r ≤ r' → mulDouble (max 0 (min 1 r)) (dbTargetWidth - 1 : ℤ) ≤
      mulDouble (max 0 (min 1 r')) (dbTargetWidth - 1 : ℤ) := by
    intro r r' h
    refine monotone_double (mul_le_mul_of_nonneg_right ?_ (by norm_num [dbTargetWidth]))
    exact max_le_max_left _ (min_le_min_left _ h)
  constructor
  · contrapose!
    intro h
    -- the middle itself is rounded up
    have hmid : 1 ≤ mulDouble (max 0 (min 1 (double firstColumn))) (dbTargetWidth - 1 : ℤ) := by
      decide +kernel
    exact hmid.trans (hmono _ _ (monotone_double h))
  · intro h
    have hlast : mulDouble (max 0 (min 1 ((6407344242344407 : ℤ) * 2 ^ (-64 : ℤ))))
        (dbTargetWidth - 1 : ℤ) < 1 := by decide +kernel
    refine (hmono _ _ (double_le_of_lt_midpoint (by norm_num) (by norm_num) ?_)).trans_lt hlast
    rw [firstColumn] at h
    norm_num at h ⊢
    exact h

/-- **The pointer is mapped to column 0 exactly in the first column.** -/
theorem mapCoordinates_fst_eq_zero_iff {event : NSEvent} {view : NSView} {x y : Int16}
    (h : mapCoordinates event view = some (x, y)) :
    x = 0 ↔ (0 < view.width → 0 < view.height → event.locX / view.width < firstColumn) := by
  rw [mapCoordinates] at h
  by_cases hview : 0 < view.width ∧ 0 < view.height
  · obtain ⟨hwidth, hheight⟩ := hview
    rw [if_pos ⟨hwidth, hheight⟩] at h
    obtain ⟨targetX, hx, h⟩ := Option.bind_eq_some_iff.1 h
    obtain ⟨targetY, -, h⟩ := Option.bind_eq_some_iff.1 h
    obtain ⟨rfl, -⟩ := Prod.mk.inj (Option.some.inj h)
    have hnonneg := (mulDouble_clamped (divDouble event.locX view.width)
      (n := dbTargetWidth - 1) (by decide) (by decide)).1
    rw [int16OfDouble_eq_zero_iff hx hnonneg, divDouble, mulDouble_lt_one_iff]
    exact ⟨fun hlt _ _ => hlt, fun hlt => hlt hwidth hheight⟩
  · rw [if_neg hview] at h
    obtain ⟨rfl, -⟩ := Prod.mk.inj (Option.some.inj h)
    exact iff_of_true rfl fun hwidth hheight => absurd ⟨hwidth, hheight⟩ hview

/-! ### One event -/

variable {fw : InputForwarder} {view : NSView}

/-- A scroll event is written as it is to be written exactly in column 0. -/
theorem handleInputEvent_scroll_iff (e : TimedEvent) (x y : Int16) :
    handleInputEvent ⟨dbInputMouseScroll, 0, x, y, e.event.ticks⟩ = scrollEvents e ↔ x = 0 := by
  have hwritten : handleInputEvent ⟨dbInputMouseScroll, 0, x, y, e.event.ticks⟩ =
      (if e.event.ticks ≠ 0 then [emitEvent evRel relWheel e.event.ticks.toInt] else []) ++
        (if x ≠ 0 then [emitEvent evRel relHWheel x.toInt] else []) ++ [emitSyn] := rfl
  rw [hwritten, scrollEvents, List.append_assoc, List.append_right_inj]
  by_cases hx : x = 0
  · rw [if_neg (not_not.2 hx)]
    exact iff_of_true rfl hx
  · rw [if_pos hx]
    refine iff_of_false (fun heq => ?_) hx
    exact absurd (congrArg List.length heq) (by simp)

/-- A scroll event that does not trap can be converted. -/
theorem converts_of_forward (hu : fw.Usable) {e : TimedEvent}
    (htype : e.event.type = .scrollWheel) {result : InputForwarder × List LinuxEvent}
    (h : forward fw view e = some result) :
    (intOfDouble (mulDouble e.event.scrollingDeltaY 10)).isSome ∧
      (fw.timestamp (e.now 0)).isSome := by
  obtain ⟨sent, hsent, -⟩ := Option.bind_eq_some_iff.1 h
  rw [handleEvent] at hsent
  simp only [htype] at hsent
  obtain ⟨⟨x, y⟩, -, hsent⟩ := Option.bind_eq_some_iff.1 hsent
  obtain ⟨ticks, hticks, hsent⟩ := Option.bind_eq_some_iff.1 hsent
  exact ⟨hticks ▸ rfl, isSome_timestamp_of_send hu hsent⟩

/-- **What a scroll event does** that can be converted: the forwarder goes on with the next
sequence number, and the column of the pointer is written for the horizontal wheel. -/
theorem forward_scroll (hu : fw.Usable) {e : TimedEvent} (htype : e.event.type = .scrollWheel)
    {x y : Int16} (hxy : mapCoordinates e.event view = some (x, y))
    (hdelta : (intOfDouble (mulDouble e.event.scrollingDeltaY 10)).isSome) (ht : e.Timely fw) :
    forward fw view e = some ({ fw with seq := fw.seq + 1 },
      handleInputEvent ⟨dbInputMouseScroll, 0, x, y, e.event.ticks⟩) := by
  obtain ⟨ticks, hticks⟩ := Option.isSome_iff_exists.1 hdelta
  refine forward_send hu ht ?_
  simp only [handleEvent, htype, hxy, hticks, Option.bind_eq_bind, Option.bind_some]
  rw [intOfDouble_eq_some hticks, NSEvent.ticks]

/-- **One event agrees exactly if it is of the right kind.** -/
theorem forward_eq_scrollEvents_iff (hu : fw.Usable) {e : TimedEvent}
    (htype : e.event.type = .scrollWheel) :
    (∃ fw', forward fw view e = some (fw', scrollEvents e)) ↔ ScrollOk fw view e := by
  obtain ⟨⟨x, y⟩, hxy⟩ := exists_mapCoordinates e.event view
  constructor
  · rintro ⟨fw', hforward⟩
    obtain ⟨hdelta, htime⟩ := converts_of_forward hu htype hforward
    have hwritten := hforward.symm.trans (forward_scroll hu htype hxy hdelta htime)
    obtain ⟨-, hevents⟩ := Prod.mk.inj (Option.some.inj hwritten)
    refine ⟨?_, isSome_intOfDouble_double_iff.1 hdelta, isSome_timestamp_iff.1 htime⟩
    rw [← mapCoordinates_fst_eq_zero_iff hxy]
    exact (handleInputEvent_scroll_iff e x y).1 hevents.symm
  · rintro ⟨hcolumn, hdelta, htime⟩
    have hx := (mapCoordinates_fst_eq_zero_iff hxy).2 hcolumn
    have hforward := forward_scroll hu htype hxy (isSome_intOfDouble_double_iff.2 hdelta)
      (isSome_timestamp_iff.2 htime)
    rw [(handleInputEvent_scroll_iff e x y).2 hx] at hforward
    exact ⟨_, hforward⟩

/-! ### A list of events -/

theorem relMotion_append (axis : UInt16) (a b : List LinuxEvent) :
    relMotion axis (a ++ b) = relMotion axis a + relMotion axis b := by
  rw [relMotion, List.map_append, List.sum_append]
  rfl

/-- What a scroll event adds to the two wheels. -/
theorem relMotion_scrollEvents (e : TimedEvent) :
    relMotion relWheel (scrollEvents e) = e.event.ticks.toInt ∧
      relMotion relHWheel (scrollEvents e) = 0 := by
  rw [scrollEvents]
  by_cases hticks : e.event.ticks = 0
  · rw [if_neg (not_not.2 hticks), hticks]
    exact ⟨rfl, rfl⟩
  · rw [if_pos hticks]
    constructor
    · simp [relMotion, emitSyn, emitEvent, evSyn, evRel]
    · simp [relMotion, emitSyn, emitEvent, evSyn, evRel, relWheel, relHWheel]

/-- The right kind does not depend on the sequence number. -/
theorem ScrollOk.of_seq {seq : UInt16} {e : TimedEvent}
    (h : ScrollOk { fw with seq := seq } view e) : ScrollOk fw view e :=
  ⟨h.column, h.delta, h.time⟩

/-- **A list of events of the right kind.** -/
theorem forwardAll_scrollEvents (hu : fw.Usable) {es : List TimedEvent}
    (htype : ∀ e ∈ es, e.event.type = .scrollWheel) (hok : ∀ e ∈ es, ScrollOk fw view e) :
    ∃ seq, forwardAll view fw es = some ({ fw with seq := seq }, es.flatMap scrollEvents) := by
  induction es generalizing fw with
  | nil => exact ⟨fw.seq, rfl⟩
  | cons e es ih =>
    obtain ⟨htype', hrest⟩ := List.forall_mem_cons.1 htype
    obtain ⟨⟨hcolumn, hdelta, htime⟩, hokRest⟩ := List.forall_mem_cons.1 hok
    obtain ⟨⟨x, y⟩, hxy⟩ := exists_mapCoordinates e.event view
    have hforward := forward_scroll hu htype' hxy (isSome_intOfDouble_double_iff.2 hdelta)
      (isSome_timestamp_iff.2 htime)
    have hx := (mapCoordinates_fst_eq_zero_iff hxy).2 hcolumn
    rw [(handleInputEvent_scroll_iff e x y).2 hx] at hforward
    obtain ⟨seq, htail⟩ := @ih { fw with seq := fw.seq + 1 } hu hrest fun e he =>
      ⟨(hokRest e he).column, (hokRest e he).delta, (hokRest e he).time⟩
    refine ⟨seq, ?_⟩
    rw [forwardAll, hforward, List.flatMap_cons]
    show (forwardAll view { fw with seq := fw.seq + 1 } es).bind _ = _
    rw [htail]
    rfl

/-- A list of scroll events that does not trap leaves the forwarder alone. -/
theorem forwarder_of_forwardAll (hu : fw.Usable) {es : List TimedEvent}
    (htype : ∀ e ∈ es, e.event.type = .scrollWheel) {fw' : InputForwarder}
    {written : List LinuxEvent} (h : forwardAll view fw es = some (fw', written)) :
    ∃ seq, fw' = { fw with seq := seq } := by
  induction es generalizing fw written with
  | nil =>
    obtain ⟨rfl, -⟩ := Prod.mk.inj (Option.some.inj h)
    exact ⟨fw.seq, rfl⟩
  | cons e es ih =>
    obtain ⟨htype', hrest⟩ := List.forall_mem_cons.1 htype
    obtain ⟨⟨x, y⟩, hxy⟩ := exists_mapCoordinates e.event view
    obtain ⟨first, hforward, h⟩ := Option.bind_eq_some_iff.1 h
    obtain ⟨hdelta, htime⟩ := converts_of_forward hu htype' hforward
    obtain rfl := Option.some.inj
      (hforward.symm.trans (forward_scroll hu htype' hxy hdelta htime))
    obtain ⟨⟨fw₁, tail⟩, htail, h⟩ := Option.bind_eq_some_iff.1 h
    obtain ⟨rfl, -⟩ := Prod.mk.inj (Option.some.inj h)
    obtain ⟨seq, rfl⟩ := @ih { fw with seq := fw.seq + 1 } hu hrest _ htail
    exact ⟨seq, rfl⟩

/-- What a list of scroll events adds to the two wheels. -/
theorem relMotion_flatMap (es : List TimedEvent) :
    relMotion relWheel (es.flatMap scrollEvents) =
        (es.map fun e => e.event.ticks.toInt).sum ∧
      relMotion relHWheel (es.flatMap scrollEvents) = 0 := by
  induction es with
  | nil => exact ⟨rfl, rfl⟩
  | cons e es ih =>
    obtain ⟨hwheel, hsideways⟩ := relMotion_scrollEvents e
    rw [List.flatMap_cons, relMotion_append, relMotion_append, hwheel, hsideways, ih.1, ih.2]
    exact ⟨rfl, rfl⟩

/-- **Scrolling arrives as it was made exactly when every event is of the right kind.** -/
theorem scrollAgrees_iff (hu : fw.Usable) {es : List TimedEvent}
    (htype : ∀ e ∈ es, e.event.type = .scrollWheel) :
    ScrollAgrees fw view es ↔ ∀ e ∈ es, ScrollOk fw view e := by
  constructor
  · intro h e he
    obtain ⟨pre, post, hsplit⟩ := List.append_of_mem he
    obtain ⟨fw₁, before, fw₂, hpre, hforward⟩ := h.each pre e post hsplit
    have hpreType : ∀ e ∈ pre, e.event.type = .scrollWheel := fun e he =>
      htype e (hsplit ▸ List.mem_append_left _ he)
    obtain ⟨seq, rfl⟩ := forwarder_of_forwardAll hu hpreType hpre
    have hu' : InputForwarder.Usable { fw with seq := seq } := hu
    exact ((forward_eq_scrollEvents_iff hu' (htype e he)).1 ⟨fw₂, hforward⟩).of_seq
  · intro hok
    refine ⟨fun pre e post hsplit => ?_, ?_⟩
    · have hpre : ∀ e' ∈ pre, e' ∈ es := fun e' he' => hsplit ▸ List.mem_append_left _ he'
      have he : e ∈ es := hsplit ▸ List.mem_append_right _ List.mem_cons_self
      obtain ⟨seq, hbefore⟩ := forwardAll_scrollEvents hu (fun e' he' => htype e' (hpre e' he'))
        fun e' he' => hok e' (hpre e' he')
      have hu' : InputForwarder.Usable { fw with seq := seq } := hu
      obtain ⟨fw₂, hforward⟩ := (forward_eq_scrollEvents_iff hu' (htype e he)).2
        ⟨(hok e he).column, (hok e he).delta, (hok e he).time⟩
      exact ⟨_, _, fw₂, hbefore, hforward⟩
    · obtain ⟨seq, hall⟩ := forwardAll_scrollEvents hu htype hok
      exact ⟨_, _, hall, relMotion_flatMap es⟩

/-! ### In the first column, and in the middle -/

/-- A scroll event with the pointer at an abscissa of the view, one second after the start. -/
def scrollAt (locX deltaY : ℚ) : TimedEvent :=
  ⟨⟨.scrollWheel, locX, 900, deltaY, 0, 0⟩, fun _ => 1⟩

/-- Scrolling at the left edge of the view, up by three and down by far too much. -/
theorem scrollAgrees_left_edge :
    ScrollAgrees readyForwarder fullView [scrollAt (1 / 2) 3, scrollAt 0 (-1000000)] := by
  refine (scrollAgrees_iff usable_readyForwarder fun e he => ?_).2 fun e he => ?_
  · rcases List.mem_pair.1 he with rfl | rfl <;> rfl
  · rcases List.mem_pair.1 he with rfl | rfl
    · exact ⟨by norm_num [scrollAt, fullView, firstColumn], by norm_num [scrollAt],
        by norm_num [scrollAt, elapsed, readyForwarder]⟩
    · exact ⟨by norm_num [scrollAt, fullView, firstColumn], by norm_num [scrollAt],
        by norm_num [scrollAt, elapsed, readyForwarder]⟩

/-- **In the middle of the view Ubuntu scrolls sideways as well**, by 1439 ticks. -/
theorem not_scrollAgrees_middle :
    ¬ ScrollAgrees readyForwarder fullView [scrollAt 1440 3] := by
  intro h
  obtain ⟨fw₁, before, fw₂, hbefore, hforward⟩ := h.each [] (scrollAt 1440 3) [] rfl
  obtain ⟨rfl, -⟩ := Prod.mk.inj (Option.some.inj hbefore)
  have hok := (forward_eq_scrollEvents_iff usable_readyForwarder rfl).1 ⟨fw₂, hforward⟩
  have hcolumn := hok.column (by norm_num [fullView]) (by norm_num [fullView])
  exact absurd hcolumn (by norm_num [scrollAt, fullView, firstColumn])

end DisplayBridge
