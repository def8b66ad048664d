import DisplayBridge.Mac.MetalRenderer
import DisplayBridge.Ubuntu.InputDevice

/-!
# The pointer

The pointer of the Mac is over the picture of Ubuntu's screen. Where it is in the view is
mapped to a coordinate of that screen (`DisplayBridge.InputForwarder.mapCoordinates`), and what
is drawn under it is a sample of the picture (`DisplayBridge.vertexShader_covers`). The two
computations have nothing in common: the first multiplies by the last coordinate and rounds
down, the second by the size and takes the mean of what is around. The roundings to a `Double`
on the way of the first one are far below a texel (`DisplayBridge.coordinateError`).

They agree well enough for a user to hit what is seen (`DisplayBridge.pointer_where_shown`).
The pointer of the device is where the last move has put it, inside the picture or not, whatever
buttons, wheels and keys have been sent before and after. The texel it is on is the one that is
shown under the pointer, up to about one texel and a half pixel of the drawable; on a drawable of
the size of the picture it is the very texel that is shown or the one before it.
-/

namespace DisplayBridge

open Swift InputForwarder

variable {fw fw' : InputForwarder} {view : NSView} {e : NSEvent} {written : List LinuxEvent}

/-! ### The pointer of the device -/

/-- What an event does to the place of the pointer. -/
def movePointer (place : ℤ × ℤ) (ev : LinuxEvent) : ℤ × ℤ :=
  if ev.type = evAbs then
    if ev.code = absX then (ev.value, place.2)
    else if ev.code = absY then (place.1, ev.value)
    else place
  else place

/-- The place of the pointer after some events. -/
def pointerAfter (start : ℤ × ℤ) (events : List LinuxEvent) : ℤ × ℤ :=
  events.foldl movePointer start

/-- Where an event that moves the pointer puts it. -/
def NSEvent.target (view : NSView) (e : NSEvent) : ℤ × ℤ :=
  ((mapCoordinates e view).map fun p => (p.1.toInt, p.2.toInt)).getD (0, 0)

/-- Where the pointer of the Mac goes. -/
def follow (view : NSView) (place : ℤ × ℤ) (e : TimedEvent) : ℤ × ℤ :=
  if e.event.IsMove then e.event.target view else place

theorem pointerAfter_of_ne {events : List LinuxEvent} (h : ∀ ev ∈ events, ev.type ≠ evAbs)
    (start : ℤ × ℤ) : pointerAfter start events = start := by
  induction events with
  | nil => rfl
  | cons ev events ih =>
    obtain ⟨hev, hrest⟩ := List.forall_mem_cons.1 h
    rw [pointerAfter, List.foldl_cons, movePointer, if_neg hev]
    exact ih hrest

/-- **One event** moves the pointer of the device where it moves that of the Mac. -/
theorem Caused.pointerAfter (h : Caused view e written) (start : ℤ × ℤ) :
    DisplayBridge.pointerAfter start written = if e.IsMove then e.target view else start := by
  have hstays : ¬ e.IsMove → (∀ ev ∈ written, ev.type ≠ evAbs) →
      DisplayBridge.pointerAfter start written = if e.IsMove then e.target view else start := by
    intro hmove hnone
    rw [pointerAfter_of_ne hnone, if_neg hmove]
  have htype : ∀ {type : NSEventType}, e.type = type →
      ¬ (type = .mouseMoved ∨ type = .leftMouseDragged ∨ type = .rightMouseDragged) →
      ¬ e.IsMove := fun htype hne hmove => hne (htype ▸ hmove)
  have hkeys : ∀ {code : UInt16} {value : ℤ}, ∀ ev ∈ [emitEvent evKey code value, emitSyn],
      ev.type ≠ evAbs := by
    intro code value ev hev
    rcases List.mem_pair.1 hev with rfl | rfl
    · exact (by decide : evKey ≠ evAbs)
    · exact (by decide : evSyn ≠ evAbs)
  cases h with
  | move x y hmove hxy =>
    rw [if_pos hmove, NSEvent.target, hxy]
    rfl
  | button y value hbutton =>
    refine hstays (fun hmove => ?_) hkeys
    rw [NSEvent.button] at hbutton
    rcases hmove with hmove | hmove | hmove
    all_goals
      rw [hmove] at hbutton
      cases hbutton
  | scroll x value hscroll =>
    refine hstays (htype hscroll (by decide)) fun ev hev => ?_
    rcases List.mem_append.1 hev with hmem | hmem
    · rw [(mem_scroll hmem).1]
      decide
    · rw [List.mem_singleton.1 hmem]
      decide
  | key press hkey =>
    refine hstays (htype hkey ?_) hkeys
    cases press <;> decide
  | flags keys hflags hcodes =>
    refine hstays (htype hflags (by decide)) fun ev hev => ?_
    obtain ⟨key, -, hev⟩ := List.mem_flatMap.1 hev
    exact hkeys ev hev
  | nothing hother => exact hstays (htype hother (by decide)) fun ev hev => by cases hev

/-- **The pointer of the device follows that of the Mac.** -/
theorem pointerAfter_eq_foldl (hu : fw.Usable) {es : List TimedEvent}
    (h : forwardAll view fw es = some (fw', written)) (start : ℤ × ℤ) :
    pointerAfter start written = es.foldl (follow view) start := by
  refine forwardAll_induction (P := fun es written => ∀ start, pointerAfter start written =
    es.foldl (follow view) start) (fun _ => rfl) ?_ hu h start
  intro e es first rest hcaused ih start
  rw [List.foldl_cons, follow, ← hcaused.pointerAfter, ← ih, pointerAfter, List.foldl_append]
  rfl

theorem foldl_follow_of_not_move {es : List TimedEvent} (h : ∀ e ∈ es, ¬ e.event.IsMove)
    (start : ℤ × ℤ) : es.foldl (follow view) start = start := by
  induction es with
  | nil => rfl
  | cons e es ih =>
    obtain ⟨he, hrest⟩ := List.forall_mem_cons.1 h
    rw [List.foldl_cons, follow, if_neg he]
    exact ih hrest

/-! ### The place that is shown -/

/-- The pointer is over a pixel of a drawable that fills the view. -/
structure NSEvent.Over (view : NSView) (e : NSEvent) (width height px py : ℕ) : Prop where
  view_width : 0 < view.width
  view_height : 0 < view.height
  column : px < width
  row : py < height
  locX : (px : ℚ) ≤ e.locX / view.width * width ∧ e.locX / view.width * width < px + 1
  locY : (py : ℚ) ≤ (1 - e.locY / view.height) * height ∧
    (1 - e.locY / view.height) * height < py + 1

/-- A place over a pixel is inside the view. -/
theorem mem_of_over {size i : ℕ} (hi : i < size) {q : ℚ}
    (hq : (i : ℚ) ≤ q * size ∧ q * size < i + 1) : 0 ≤ q ∧ q ≤ 1 := by
  have hsize : (0 : ℚ) < size := by exact_mod_cast (Nat.zero_le i).trans_lt hi
  have hi0 : (0 : ℚ) ≤ i := Nat.cast_nonneg i
  have hlast : (i : ℚ) + 1 ≤ size := by exact_mod_cast hi
  refine ⟨nonneg_of_mul_nonneg_left (hi0.trans hq.1) hsize, ?_⟩
  by_contra hmore
  have hlt : (size : ℚ) < q * size := lt_mul_of_one_lt_left hsize (not_le.1 hmore)
  linarith [hq.2]

/-- **One axis**: a place over the pixel `i` of `size` pixels is mapped, up to an error, to a
coordinate of an axis of `n`, whose far edge lies near the place of the axis that is shown in
this pixel. -/
theorem abs_pixelCentre_sub_lt {size i : ℕ} (hi : i < size) {q : ℚ}
    (hq : (i : ℚ) ≤ q * size ∧ q * size < i + 1) {n : ℚ} (hn : 1 < n) {p error : ℚ}
    (hp : |p - q * (n - 1)| ≤ error) {t : ℤ} (ht : t = ⌊p⌋) :
    |pixelCentre size i * n - (t + 1)| < 1 + (n / 2 - 1) / size + error := by
  have hsize : (0 : ℚ) < size := by exact_mod_cast (Nat.zero_le i).trans_lt hi
  have hlast : (i : ℚ) + 1 ≤ size := by exact_mod_cast hi
  obtain ⟨hbelow, habove⟩ := abs_le.1 hp
  have hlow : (t : ℚ) ≤ q * (n - 1) + error := by
    have hfloor := Int.floor_le p
    rw [← ht] at hfloor
    linarith
  have hhigh : q * (n - 1) < t + 1 + error := by
    have hfloor := Int.lt_floor_add_one p
    rw [← ht] at hfloor
    linarith
  have hn0 : 0 < n - 1 := by linarith
  -- both sides of the place, in pixels
  have hleft : i * (n - 1) ≤ q * (n - 1) * size := by
    calc i * (n - 1) ≤ q * size * (n - 1) := mul_le_mul_of_nonneg_right hq.1 hn0.le
      _ = q * (n - 1) * size := by ring
  have hright : q * (n - 1) * size < (i + 1) * (n - 1) := by
    calc q * (n - 1) * size = q * size * (n - 1) := by ring
      _ < (i + 1) * (n - 1) := mul_lt_mul_of_pos_right hq.2 hn0
  have hcentre : pixelCentre size i * n = (i + 1 / 2) * n / size := by
    rw [pixelCentre]
    ring
  have hradius : (1 + (n / 2 - 1) / size + error) * size = size + (n / 2 - 1) + error * size := by
    field_simp
  have hsub : (pixelCentre size i * n - (t + 1)) * size = (i + 1 / 2) * n - (t + 1) * size := by
    rw [sub_mul, hcentre, div_mul_cancel₀ _ hsize.ne']
  rw [abs_lt]
  constructor
  · refine lt_of_mul_lt_mul_right ?_ hsize.le
    rw [hsub, neg_mul, hradius]
    have ht : (t : ℚ) * size ≤ (q * (n - 1) + error) * size :=
      mul_le_mul_of_nonneg_right hlow hsize.le
    linarith
  · refine lt_of_mul_lt_mul_right ?_ hsize.le
    rw [hsub, hradius]
    have ht : q * (n - 1) * size < (t + 1 + error) * size := mul_lt_mul_of_pos_right hhigh hsize
    linarith

/-! ### What the roundings change -/

/-- The error of a coordinate. -/
def coordinateError : ℚ := 1 / 2 ^ 40

/-- A number of the unit interval keeps inside it and near where it was. -/
theorem double_of_mem_unit {q : ℚ} (h : 0 ≤ q ∧ q ≤ 1) :
    (0 ≤ double q ∧ double q ≤ 1) ∧ |double q - q| ≤ 1 / 2 ^ 53 := by
  constructor
  · have hmem := @double_mem q 0 1 (by norm_num) (by norm_num) (by exact_mod_cast h)
    exact_mod_cast hmem
  · have hlt : |q| < 2 ^ (53 + (-52) : ℤ) := by
      rw [abs_of_nonneg h.1]
      norm_num
      linarith [h.2]
    refine (abs_double_sub_le (by norm_num) hlt).trans_eq ?_
    norm_num

/-- A coordinate is near the exact one if the part of the whole it is computed from is. -/
theorem abs_mulDouble_sub_le {d q : ℚ} (hd : 0 ≤ d ∧ d ≤ 1) (h : |d - q| ≤ 1 / 2 ^ 52) {n : ℚ}
    (hn : 0 ≤ n) (hn' : n ≤ 2879) : |mulDouble (max 0 (min 1 d)) n - q * n| ≤ coordinateError := by
  rw [min_eq_right hd.2, max_eq_right hd.1]
  have hproduct : |mulDouble d n - d * n| ≤ 1 / 2 ^ 42 := by
    have hlt : |d * n| < 2 ^ (53 + (-41) : ℤ) := by
      rw [abs_of_nonneg (mul_nonneg hd.1 hn)]
      have hle : d * n ≤ n := mul_le_of_le_one_left hn hd.2
      norm_num
      linarith
    refine (abs_double_sub_le (by norm_num) hlt).trans_eq ?_
    norm_num
  have hpart : |d * n - q * n| ≤ 1 / 2 ^ 52 * n := by
    rw [← sub_mul, abs_mul, abs_of_nonneg hn]
    exact mul_le_mul_of_nonneg_right h hn
  calc |mulDouble d n - q * n| ≤ |mulDouble d n - d * n| + |d * n - q * n| := abs_sub_le _ _ _
    _ ≤ 1 / 2 ^ 42 + 1 / 2 ^ 52 * n := add_le_add hproduct hpart
    _ ≤ coordinateError := by
      rw [coordinateError]
      linarith

/-- The abscissa is rounded once before it becomes a coordinate. -/
theorem abs_column_sub_le {q : ℚ} (h : 0 ≤ q ∧ q ≤ 1) {n : ℚ} (hn : 0 ≤ n) (hn' : n ≤ 2879) :
    |mulDouble (max 0 (min 1 (double q))) n - q * n| ≤ coordinateError := by
  obtain ⟨hmem, herror⟩ := double_of_mem_unit h
  exact abs_mulDouble_sub_le hmem (herror.trans (by norm_num)) hn hn'

/-- The ordinate is rounded twice: where it is counted from below, and when it is turned. -/
theorem abs_row_sub_le {r : ℚ} (h : 0 ≤ r ∧ r ≤ 1) {n : ℚ} (hn : 0 ≤ n) (hn' : n ≤ 2879) :
    |mulDouble (max 0 (min 1 (subDouble 1 (double r)))) n - (1 - r) * n| ≤ coordinateError := by
  obtain ⟨hmem, herror⟩ := double_of_mem_unit h
  obtain ⟨hmem', herror'⟩ := double_of_mem_unit (q := 1 - double r)
    ⟨by linarith [hmem.2], by linarith [hmem.1]⟩
  refine abs_mulDouble_sub_le hmem' ?_ hn hn'
  calc |subDouble 1 (double r) - (1 - r)|
      ≤ |subDouble 1 (double r) - (1 - double r)| + |(1 - double r) - (1 - r)| := abs_sub_le _ _ _
    _ = |subDouble 1 (double r) - (1 - double r)| + |double r - r| := by
      rw [sub_sub_sub_cancel_left, abs_sub_comm r]
    _ ≤ 1 / 2 ^ 53 + 1 / 2 ^ 53 := add_le_add herror' herror
    _ = 1 / 2 ^ 52 := by norm_num

/-- On an axis of as many pixels as coordinates, the place shown in a pixel is the centre of
its own texel, and so the coordinate is that of the texel or the one before. -/
theorem eq_or_succ_eq_of_near {size i : ℕ} {n : ℤ} (hn : 0 < n) (hn' : n ≤ 2880) (hsize : size = n)
    {t : ℤ} (h : |pixelCentre size i * n - (t + 1)| < 1 + ((n : ℚ) / 2 - 1) / size +
      coordinateError) :
    t = i ∨ t + 1 = i := by
  subst hsize
  rw [Int.cast_natCast] at h
  have hpos : (0 : ℚ) < size := by exact_mod_cast hn
  have hle : (size : ℚ) ≤ 2880 := by exact_mod_cast hn'
  have hcentre : pixelCentre size i * (size : ℚ) = i + 1 / 2 := by
    rw [pixelCentre, div_mul_cancel₀ _ hpos.ne']
  have hradius : 1 + ((size : ℚ) / 2 - 1) / size + coordinateError < 3 / 2 := by
    have hhalf : ((size : ℚ) / 2 - 1) / size = 1 / 2 - 1 / size := by
      field_simp
    have herror : coordinateError < 1 / size :=
      lt_of_lt_of_le (by norm_num [coordinateError]) (one_div_le_one_div_of_le hpos hle)
    rw [hhalf]
    linarith
  rw [hcentre] at h
  obtain ⟨hlow, hhigh⟩ := abs_lt.1 (h.trans hradius)
  have hlow' : (t : ℚ) < i + 1 := by linarith
  have hhigh' : (i : ℚ) < t + 2 := by linarith
  have hlowZ : t < i + 1 := by exact_mod_cast hlow'
  have hhighZ : (i : ℤ) < t + 2 := by exact_mod_cast hhigh'
  omega

/-- The place `place` is near what is shown in a pixel of a drawable, and on a drawable as large as
the target display it is the texel that is shown there or, on an axis, the one before. -/
structure NearShown (width height px py : ℕ) (place : ℤ × ℤ) : Prop where
  column : |pixelCentre width px * dbTargetWidth - (place.1 + 1)| <
    1 + ((dbTargetWidth : ℚ) / 2 - 1) / width + coordinateError
  row : |pixelCentre height py * dbTargetHeight - (place.2 + 1)| <
    1 + ((dbTargetHeight : ℚ) / 2 - 1) / height + coordinateError
  column_of_native : width = dbTargetWidth → place.1 = px ∨ place.1 + 1 = px
  row_of_native : height = dbTargetHeight → place.2 = py ∨ place.2 + 1 = py

/-- **What is under the pointer is what it is put on.** -/
theorem NSEvent.Over.nearShown {width height px py : ℕ} (h : e.Over view width height px py) :
    NearShown width height px py (e.target view) := by
  obtain ⟨⟨x, y⟩, hxy⟩ := exists_mapCoordinates e view
  obtain ⟨hx, hy⟩ := mapCoordinates_of_view h.view_width h.view_height hxy
  have htarget : e.target view = (x.toInt, y.toInt) := by
    rw [NSEvent.target, hxy]
    rfl
  have hcolumn : |pixelCentre width px * (dbTargetWidth : ℚ) - (x.toInt + 1)| <
      1 + ((dbTargetWidth : ℚ) / 2 - 1) / width + coordinateError := by
    refine abs_pixelCentre_sub_lt h.column h.locX (by norm_num [dbTargetWidth]) ?_ hx
    push_cast
    exact abs_column_sub_le (mem_of_over h.column h.locX) (by norm_num [dbTargetWidth])
      (by norm_num [dbTargetWidth])
  have hrow : |pixelCentre height py * (dbTargetHeight : ℚ) - (y.toInt + 1)| <
      1 + ((dbTargetHeight : ℚ) / 2 - 1) / height + coordinateError := by
    obtain ⟨htop, hbottom⟩ := mem_of_over h.row h.locY
    refine abs_pixelCentre_sub_lt h.row h.locY (by norm_num [dbTargetHeight]) ?_ hy
    push_cast
    exact abs_row_sub_le ⟨by linarith, by linarith⟩ (by norm_num [dbTargetHeight])
      (by norm_num [dbTargetHeight])
  rw [htarget]
  refine ⟨hcolumn, hrow, ?_, ?_⟩
  · exact fun hwidth => eq_or_succ_eq_of_near (by decide) (by decide) hwidth hcolumn
  · exact fun hheight => eq_or_succ_eq_of_near (by decide) (by decide) hheight hrow

/-- The pointer moves to a place one second after the start. -/
def moveAt (locX locY : ℚ) : TimedEvent := ⟨⟨.mouseMoved, locX, locY, 0, 0, 0⟩, fun _ => 1⟩

/-- On a view of the size of the target display, the pointer is moved into the pixel at 1000
and 799, counted from the top, dragged out of the view at its left edge, moved back, and then
clicked. -/
def dragAndClick : List TimedEvent :=
  [moveAt (2001 / 2) (2001 / 2), ⟨⟨.leftMouseDragged, -3, 900, 0, 0, 0⟩, fun _ => 1⟩,
    moveAt (2001 / 2) (2001 / 2), mouseAt .leftMouseDown 900]

end DisplayBridge
