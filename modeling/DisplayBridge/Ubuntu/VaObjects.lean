import Mathlib.Algebra.Order.BigOperators.Group.List
import Mathlib.Data.Multiset.OrderedMonoid
import DisplayBridge.Lib.Handles
import DisplayBridge.Ubuntu.VaCalls

/-!
# What a captured frame leaves behind

A captured frame goes through up to eleven objects of the driver: a surface, perhaps an image,
and buffers for the parameters and the packed headers. None of them should be there when
the callback returns, whatever the driver has answered, and the coded buffer, which stays,
should not be mapped (`DisplayBridge.Va.AtRest`).

Every part of a callback has an account (`DisplayBridge.Va.Accounts`): what is there afterwards is
what was there before, and what was left behind. Accounts add up, so a callback is taken apart
along the functions of `encoder.c`, and the answers that leave something behind are
read off the calls themselves (`DisplayBridge.Va.leaks`). Three kinds are plain: an object that
cannot be destroyed stays. The others are slips.

* `submit_packed_header` and the functions for the miscellaneous parameters destroy their
  buffers whether they were rendered or not. `encode_surface` does not: where a sequence,
  picture or slice parameter buffer is not rendered, it goes to `fail_end`, past
  `vaDestroyBuffer`.
* `on_frame_captured` releases the coded buffer behind the push into the ring, and returns before
  where `encode_surface` has succeeded and there is nothing to push. The buffer is mapped
  then too.

These are all (`DisplayBridge.Va.callbacks_atRest_iff`). The pictures are fine: one that was begun
is ended, once, on every path.
-/

namespace DisplayBridge

open Calls Prog Handles

namespace Va

/-! ### What an event does -/

/-- The buffers of `encode_surface` itself. -/
def IsParam (type : VABufferType) : Prop :=
  type = .encSequenceParameter ∨ type = .encPictureParameter ∨ type = .encSliceParameter

instance (type : VABufferType) : Decidable (IsParam type) :=
  inferInstanceAs (Decidable (_ ∨ _))

/-- An object that is destroyed, if this succeeds. -/
def disposed (object : VaObject) (ok : Bool) : Op VaObject :=
  if ok then .closed object else .used object

/-- What a call does to the objects of the driver. -/
def objectOps : VaEvent → List (Op VaObject)
  | ⟨.createBuffer data, id⟩ =>
    (show Option VABufferID from id).toList.map fun id => .opened (.buffer ⟨data.type, id⟩)
  | ⟨.createSurfaces .., surface⟩ =>
    (show Option CreatedSurface from surface).toList.map fun s => .opened (.surface s)
  | ⟨.deriveImage surface, image⟩ =>
    .used (.surface surface) ::
      (show Option VAImage from image).toList.map fun i => .opened (.image i.imageId)
  | ⟨.destroyBuffer buf, ok⟩ => [disposed (.buffer buf) ok]
  | ⟨.destroySurfaces surface, ok⟩ => [disposed (.surface surface) ok]
  | ⟨.destroyImage imageId, ok⟩ => [disposed (.image imageId) ok]
  | ⟨.renderPicture bufs, _⟩ => bufs.map fun buf => .used (.buffer buf)
  | ⟨.mapBuffer object, _⟩ => [.used object]
  | ⟨.unmapBuffer object, _⟩ => [.used object]
  | ⟨.mapCodedBuffer id, _⟩ => [.used (.buffer ⟨.encCoded, id⟩)]
  | ⟨.fillMisc buf _, _⟩ => [.used (.buffer buf)]
  | ⟨.fillImage image _, _⟩ => [.used (.image image.imageId)]
  | ⟨.beginPicture surface, _⟩ => [.used (.surface surface)]
  | ⟨.syncSurface surface, _⟩ => [.used (.surface surface)]
  | ⟨.endPicture, _⟩ => []

/-- An object that could not be destroyed. -/
def undisposed (object : VaObject) (ok : Bool) : Multiset VaObject := if ok then 0 else {object}

/-- A parameter buffer that could not be rendered, and is not destroyed at all. -/
def unrendered (buf : VABuffer) (ok : Bool) : Multiset VaObject :=
  if ok = false ∧ IsParam buf.type then {.buffer buf} else 0

/-- What a call leaves behind. -/
def leaks : VaEvent → Multiset VaObject
  | ⟨.renderPicture [buf], ok⟩ => unrendered buf ok
  | ⟨.destroyBuffer buf, ok⟩ => undisposed (.buffer buf) ok
  | ⟨.destroySurfaces surface, ok⟩ => undisposed (.surface surface) ok
  | ⟨.destroyImage imageId, ok⟩ => undisposed (.image imageId) ok
  | _ => 0

/-- The beginning and the end of a picture. -/
inductive PictureOp
  | begun
  | ended
deriving DecidableEq

/-- Which of the two a call is: a beginning that has succeeded, or an end, in any case. -/
def pictureOp : VaEvent → Option PictureOp
  | ⟨.beginPicture _, ok⟩ => if (show Bool from ok) then some .begun else none
  | ⟨.endPicture, _⟩ => some .ended
  | _ => none

/-- What is done to the coded buffer. It is empty where there is no segment, no address or no
byte. -/
inductive CodedOp
  | mapped (empty : Bool)
  | unmapped (ok : Bool)
deriving DecidableEq

/-- Which of the two a call is. -/
def codedOp : VaEvent → Option CodedOp
  | ⟨.mapCodedBuffer _, seg⟩ =>
    (show Option (Option VACodedBufferSegment) from seg).map fun
      | none => .mapped true
      | some seg => .mapped (seg.buf = 0 ∨ seg.size = 0)
  | ⟨.unmapBuffer (.buffer buf), ok⟩ => if buf.type = .encCoded then some (.unmapped ok) else none
  | _ => none

/-- The objects, over a trace. -/
def ops (t : List VaEvent) : List (Op VaObject) := t.flatMap objectOps

/-- What a trace leaves behind. -/
def leaked (t : List VaEvent) : Multiset VaObject := (t.map leaks).sum

/-- What is done with pictures, in its order. -/
def pictureOps (t : List VaEvent) : List PictureOp := t.filterMap pictureOp

/-- What is done with coded buffers, in its order. -/
def codedOps (t : List VaEvent) : List CodedOp := t.filterMap codedOp

@[simp] theorem ops_nil : ops [] = [] := rfl

@[simp] theorem ops_cons (e : VaEvent) (t : List VaEvent) :
    ops (e :: t) = objectOps e ++ ops t := rfl

@[simp] theorem leaked_nil : leaked [] = 0 := rfl

@[simp] theorem leaked_cons (e : VaEvent) (t : List VaEvent) :
    leaked (e :: t) = leaks e + leaked t := by
  rw [leaked, List.map_cons, List.sum_cons]
  rfl

@[simp] theorem disposed_true (object : VaObject) : disposed object true = .closed object := rfl

@[simp] theorem disposed_false (object : VaObject) : disposed object false = .used object := rfl

@[simp] theorem undisposed_true (object : VaObject) : undisposed object true = 0 := rfl

@[simp] theorem undisposed_false (object : VaObject) : undisposed object false = {object} := rfl

@[simp] theorem unrendered_true (buf : VABuffer) : unrendered buf true = 0 := rfl

theorem ops_append (t t' : List VaEvent) : ops (t ++ t') = ops t ++ ops t' :=
  List.flatMap_append

theorem leaked_append (t t' : List VaEvent) : leaked (t ++ t') = leaked t + leaked t' := by
  rw [leaked, List.map_append, List.sum_append]
  rfl

theorem pictureOps_append (t t' : List VaEvent) :
    pictureOps (t ++ t') = pictureOps t ++ pictureOps t' := List.filterMap_append

theorem codedOps_append (t t' : List VaEvent) : codedOps (t ++ t') = codedOps t ++ codedOps t' :=
  List.filterMap_append

/-! ### Accounts -/

/-- **The account of a trace**: as long as some objects are there, nothing is used that is not, and
what is there afterwards is what was there before and what was left behind. -/
def Accounts (kept : List VaObject) (t : List VaEvent) : Prop :=
  ∀ live, (∀ o ∈ kept, o ∈ live) → Sound live (ops t) ∧ after live (ops t) = leaked t + live

theorem Accounts.append {kept : List VaObject} {t t' : List VaEvent} (h : Accounts kept t)
    (h' : Accounts kept t') : Accounts kept (t ++ t') := by
  intro live hkept
  obtain ⟨hsound, hafter⟩ := h live hkept
  have hkept' : ∀ o ∈ kept, o ∈ after live (ops t) := by
    intro o ho
    rw [hafter]
    exact Multiset.mem_add.2 (Or.inr (hkept o ho))
  obtain ⟨hsound', hafter'⟩ := h' _ hkept'
  rw [ops_append, sound_append, after_append, leaked_append]
  refine ⟨⟨hsound, hsound'⟩, ?_⟩
  rw [hafter', hafter, ← add_assoc, add_comm (leaked t') (leaked t)]

theorem Accounts.mono {kept kept' : List VaObject} {t : List VaEvent} (h : Accounts kept t)
    (hsub : ∀ o ∈ kept, o ∈ kept') : Accounts kept' t :=
  fun live hkept => h live fun o ho => hkept o (hsub o ho)

/-- A part of a callback that is not concerned with the picture as a whole: it begins and ends
none, and leaves the coded buffer alone. -/
structure Quiet (t : List VaEvent) : Prop where
  accounts : Accounts [] t
  pictures : pictureOps t = []
  coded : codedOps t = []

theorem Quiet.append {t t' : List VaEvent} (h : Quiet t) (h' : Quiet t') : Quiet (t ++ t') where
  accounts := h.accounts.append h'.accounts
  pictures := by rw [pictureOps_append, h.pictures, h'.pictures, List.append_nil]
  coded := by rw [codedOps_append, h.coded, h'.coded, List.append_nil]

theorem quiet_nil : Quiet [] := ⟨fun live _ => ⟨trivial, (zero_add live).symm⟩, rfl, rfl⟩

/-! ### The parts of a picture -/

/-- A buffer or a surface that could not be created. -/
theorem quiet_notCreated (data : BufferData) :
    Quiet [⟨.createBuffer data, (none : Option VABufferID)⟩] :=
  ⟨fun live _ => by simp [objectOps, leaks], rfl, rfl⟩

theorem quiet_noSurface (width height : ℤ) (desc : Option VADRMPRIMESurfaceDescriptor) :
    Quiet [⟨.createSurfaces width height desc, (none : Option CreatedSurface)⟩] :=
  ⟨fun live _ => by simp [objectOps, leaks], rfl, rfl⟩

theorem quiet_submitParam {data : BufferData} (hparam : IsParam data.type) :
    (submitParam data).Meets fun t _ => Quiet t := by
  rw [submitParam, meets_bind, meets_createBuffer]
  refine ⟨meets_pure.2 (quiet_notCreated _), fun id => ?_⟩
  rw [meets_bind, meets_renderPicture]
  rintro (- | -)
  · refine meets_pure.2 ⟨fun live _ => ?_, rfl, rfl⟩
    simp [objectOps, leaks, unrendered, hparam]
  · rw [if_pos rfl, meets_bind, meets_destroyBuffer]
    rintro (- | -)
    · refine meets_pure.2 ⟨fun live _ => ?_, rfl, rfl⟩
      simp [objectOps, leaks]
    · refine meets_pure.2 ⟨fun live _ => ?_, rfl, rfl⟩
      simp [objectOps, leaks]

/-- Of two new objects the older one is destroyed. -/
theorem erase_second (a b : VaObject) (live : Multiset VaObject) :
    (b ::ₘ a ::ₘ live).erase a = b ::ₘ live := by
  rw [Multiset.cons_swap, Multiset.erase_cons_head]

/-- Both buffers of a packed header are destroyed, whether it was rendered or not. -/
theorem quiet_submitPackedHeader (type : VAEncPackedHeaderType) (data : List UInt8) :
    (submitPackedHeader type data).Meets fun t _ => Quiet t := by
  rw [submitPackedHeader, meets_bind, meets_createBuffer]
  refine ⟨meets_pure.2 (quiet_notCreated _), fun paramId => ?_⟩
  rw [meets_bind, meets_createBuffer]
  refine ⟨?_, fun dataId => ?_⟩
  · rw [meets_bind, meets_destroyBuffer]
    intro ok
    refine meets_pure.2 ⟨fun live _ => ?_, rfl, rfl⟩
    cases ok <;> simp [objectOps, leaks]
  · rw [meets_bind, meets_renderPicture]
    intro st
    rw [meets_bind, meets_destroyBuffer]
    intro ok
    rw [meets_bind, meets_destroyBuffer]
    intro ok'
    refine meets_pure.2 ⟨fun live _ => ?_, rfl, rfl⟩
    rcases ok with - | - <;> rcases ok' with - | - <;> simp [objectOps, leaks, erase_second]
    -- both are left behind, the older one first
    exact Multiset.cons_swap _ _ live

/-- The buffer of a miscellaneous parameter is destroyed, whether it could be mapped or not. -/
theorem quiet_submitMiscParam (misc : VAEncMiscParameterBuffer) :
    (submitMiscParam misc).Meets fun t _ => Quiet t := by
  rw [submitMiscParam, meets_bind, meets_createBuffer]
  refine ⟨meets_pure.2 (quiet_notCreated _), fun id => ?_⟩
  rw [meets_bind, meets_mapBuffer]
  rintro (- | -)
  · rw [if_neg Bool.false_ne_true, meets_bind, meets_destroyBuffer]
    intro ok
    refine meets_pure.2 ⟨fun live _ => ?_, rfl, rfl⟩
    cases ok <;> simp [objectOps, leaks]
  · rw [if_pos rfl, meets_bind, meets_discard]
    intro _
    rw [meets_bind, meets_unmapBuffer]
    intro unmapped
    rw [meets_bind, meets_renderPicture]
    intro st
    rw [meets_bind, meets_destroyBuffer]
    intro ok
    refine meets_pure.2 ⟨fun live _ => ?_, rfl, rfl⟩
    cases ok <;> simp [objectOps, leaks, unrendered, IsParam, BufferData.type]

/-- One quiet part behind another. -/
theorem quiet_bind {α β : Type} {p : Va α} {f : α → Va β} (h : p.Meets fun t _ => Quiet t)
    (hf : ∀ a, (f a).Meets fun t _ => Quiet t) : (p >>= f).Meets fun t _ => Quiet t :=
  Meets.bind_append (fun _ _ => Quiet.append) h hf

theorem quiet_pure {α : Type} (a : α) : (Pure.pure a : Va α).Meets fun t _ => Quiet t :=
  meets_pure.2 quiet_nil

theorem quiet_submitSequence (enc : DbEncoder) (isIdr : Bool) :
    (submitSequence enc isIdr).Meets fun t _ => Quiet t := by
  rw [submitSequence]
  cases isIdr with
  | false => exact quiet_pure true
  | true =>
    refine quiet_bind (quiet_submitParam (Or.inl rfl)) fun ok => ?_
    cases ok with
    | false => exact quiet_pure false
    | true => exact quiet_bind (quiet_submitPackedHeader _ _) fun _ => quiet_pure true

/-- **What is submitted of a picture** leaves nothing behind but what could not be destroyed or
rendered. -/
theorem quiet_submitPicture (enc : DbEncoder) (e : Encode) :
    (submitPicture enc e).Meets fun t _ => Quiet t := by
  rw [submitPicture]
  refine quiet_bind (quiet_submitSequence enc e.isIdr) fun ok => ?_
  cases ok with
  | false => exact quiet_pure false
  | true =>
    refine quiet_bind (quiet_submitMiscParam _) fun _ => ?_
    refine quiet_bind (quiet_submitMiscParam _) fun _ => ?_
    refine quiet_bind (quiet_submitMiscParam _) fun _ => ?_
    refine quiet_bind (quiet_submitParam (Or.inr (Or.inl rfl))) fun ok => ?_
    cases ok with
    | false => exact quiet_pure false
    | true =>
      refine quiet_bind (quiet_submitPackedHeader _ _) fun _ => ?_
      exact quiet_submitParam (Or.inr (Or.inr rfl))

/-! ### One picture -/

/-- The coded buffer, as an object. -/
def codedObject (enc : DbEncoder) : VaObject := .buffer ⟨.encCoded, enc.codedBuf⟩

/-- **What encoding on a surface leaves behind**, where `pictures` is what may happen to pictures:
the coded buffer is mapped exactly if there is a result, and it is the same buffer as before. -/
structure EncodesOn (enc : DbEncoder) (input : VASurfaceID) (pictures : List (List PictureOp))
    (t : List VaEvent) (r : Option Encoded × DbEncoder) : Prop where
  accounts : Accounts [.surface input, codedObject enc] t
  pictures : pictureOps t ∈ pictures
  coded : codedOps t = r.1.toList.map fun out => .mapped (out.outBuf = 0 ∨ out.outSize = 0)
  codedBuf : r.2.codedBuf = enc.codedBuf

theorem finishPicture_encodesOn (enc : DbEncoder) (input : VASurfaceID) (e : Encode) :
    (finishPicture enc input e).Meets (EncodesOn enc input [[.ended]]) := by
  have hkept : ∀ {live : Multiset VaObject},
      (∀ o ∈ [VaObject.surface input, codedObject enc], o ∈ live) →
      VaObject.surface input ∈ live ∧ VaObject.buffer ⟨.encCoded, enc.codedBuf⟩ ∈ live :=
    fun h => ⟨h _ (by simp), h _ (by simp [codedObject])⟩
  rw [finishPicture, meets_bind, meets_endPicture]
  rintro (- | -)
  · refine meets_pure.2 ⟨fun live _ => ?_, by decide, rfl, rfl⟩
    simp [objectOps, leaks]
  · rw [if_pos rfl, meets_bind, meets_syncSurface]
    rintro (- | -)
    · refine meets_pure.2 ⟨fun live h => ?_, by simp [pictureOps, pictureOp], rfl, rfl⟩
      simp [objectOps, leaks, hkept h]
    · rw [if_pos rfl, meets_bind, meets_mapCodedBuffer]
      rintro (- | - | seg)
      all_goals
        refine meets_pure.2 ⟨fun live h => ?_, by simp [pictureOps, pictureOp], rfl, rfl⟩
        simp [objectOps, leaks, hkept h]

/-- **`encode_surface`**: a picture that was begun is ended once. -/
theorem encodeSurface_encodesOn (enc : DbEncoder) (input : VASurfaceID) :
    (encodeSurface enc input).Meets (EncodesOn enc input [[], [.begun, .ended]]) := by
  have hbegin : ∀ ok : Bool, Accounts [.surface input, codedObject enc]
      [⟨.beginPicture input, ok⟩] := by
    intro ok live hkept
    have hinput := hkept (.surface input) (by simp)
    simp [objectOps, leaks, hinput]
  rw [encodeSurface, meets_bind, meets_beginPicture]
  rintro (- | -)
  · exact meets_pure.2 ⟨hbegin false, by simp [pictureOps, pictureOp], rfl, rfl⟩
  · rw [if_pos rfl, meets_bind]
    refine (quiet_submitPicture enc enc.startEncode).mono fun t ok ht => ?_
    have hsubmitted := (hbegin true).append (ht.accounts.mono fun _ ho => by simp at ho)
    cases ok with
    | false =>
      rw [if_neg Bool.false_ne_true, meets_bind, meets_discard]
      intro ended
      have hended : Accounts [.surface input, codedObject enc] [⟨.endPicture, ended⟩] := by
        intro live _
        simp [objectOps, leaks]
      refine meets_pure.2 ⟨?_, ?_, ?_, rfl⟩
      · rw [List.append_nil, ← List.append_assoc]
        exact hsubmitted.append hended
      · rw [pictureOps_append, pictureOps_append, ht.pictures]
        simp [pictureOps, pictureOp]
      · rw [codedOps_append, codedOps_append, ht.coded]
        rfl
    | true =>
      rw [if_pos rfl]
      refine (finishPicture_encodesOn enc input enc.startEncode).mono fun t' r ht' => ?_
      refine ⟨hsubmitted.append ht'.accounts, ?_, ?_, ht'.codedBuf⟩
      · rw [pictureOps_append, pictureOps_append, ht.pictures, List.mem_singleton.1 ht'.pictures]
        simp [pictureOps, pictureOp]
      · rw [codedOps_append, codedOps_append, ht.coded, ht'.coded]
        rfl

/-! ### One frame -/

/-- **An object around a trace**: it is created before, and destroyed behind it. -/
theorem Accounts.around {kept : List VaObject} {object : VaObject} {t : List VaEvent}
    (h : Accounts (object :: kept) t) {e e' : VaEvent} {ok : Bool}
    (he : objectOps e = [.opened object]) (hleaks : leaks e = 0)
    (he' : objectOps e' = [disposed object ok]) (hleaks' : leaks e' = undisposed object ok) :
    Accounts kept (e :: (t ++ [e'])) := by
  intro live hkept
  have hkept' : ∀ o ∈ object :: kept, o ∈ object ::ₘ live := by
    intro o ho
    rcases List.mem_cons.1 ho with rfl | ho
    · exact Multiset.mem_cons_self o live
    · exact Multiset.mem_cons_of_mem (hkept o ho)
  obtain ⟨hsound, hafter⟩ := h _ hkept'
  have hops : ops (e :: (t ++ [e'])) = .opened object :: (ops t ++ [disposed object ok]) := by
    rw [ops_cons, ops_append, ops_cons, ops_nil, he, he', List.append_nil]
    rfl
  have hleaked : leaked (e :: (t ++ [e'])) = leaked t + undisposed object ok := by
    rw [leaked_cons, leaked_append, leaked_cons, leaked_nil, hleaks, hleaks', zero_add, add_zero]
  have hobject : object ∈ leaked t + object ::ₘ live :=
    Multiset.mem_add.2 (Or.inr (Multiset.mem_cons_self object live))
  rw [hops, sound_opened, after_opened, sound_append, after_append, hafter, hleaked]
  cases ok with
  | false =>
    refine ⟨⟨hsound, sound_used.2 ⟨hobject, trivial⟩⟩, ?_⟩
    rw [disposed_false, after_used, after_nil, undisposed_false, add_assoc,
      Multiset.singleton_add]
  | true =>
    refine ⟨⟨hsound, sound_closed.2 ⟨hobject, trivial⟩⟩, ?_⟩
    rw [disposed_true, after_closed, after_nil, undisposed_true, Multiset.add_cons,
      Multiset.erase_cons_head, add_zero]

/-- **What encoding a frame leaves behind**, with the surface it was made on. -/
structure Encodes (enc : DbEncoder) (t : List VaEvent) (r : Option Encoded × DbEncoder) : Prop where
  accounts : Accounts [codedObject enc] t
  pictures : pictureOps t ∈ [[], [.begun, .ended]]
  coded : codedOps t = r.1.toList.map fun out => .mapped (out.outBuf = 0 ∨ out.outSize = 0)
  codedBuf : r.2.codedBuf = enc.codedBuf

/-- Nothing was created. -/
theorem encodes_of_quiet {enc : DbEncoder} {t : List VaEvent} (h : Quiet t) :
    Encodes enc t (none, enc) where
  accounts := h.accounts.mono fun _ ho => by simp at ho
  pictures := by simp [h.pictures]
  coded := h.coded
  codedBuf := rfl

/-- What is not concerned with the picture, in front of it. -/
theorem EncodesOn.prepend {enc : DbEncoder} {input : VASurfaceID} {ps : List (List PictureOp)}
    {t t' : List VaEvent} {r : Option Encoded × DbEncoder} (h : EncodesOn enc input ps t' r)
    (haccounts : Accounts [.surface input] t) (hpictures : pictureOps t = [])
    (hcoded : codedOps t = []) : EncodesOn enc input ps (t ++ t') r where
  accounts := (haccounts.mono fun _ ho => by simp_all).append h.accounts
  pictures := by rw [pictureOps_append, hpictures]; exact h.pictures
  coded := by rw [codedOps_append, hcoded]; exact h.coded
  codedBuf := h.codedBuf

/-- The surface is created before, and destroyed behind. -/
theorem EncodesOn.around {enc : DbEncoder} {input : CreatedSurface} {t : List VaEvent}
    {r : Option Encoded × DbEncoder} (h : EncodesOn enc input [[], [.begun, .ended]] t r)
    {width height : ℤ} {desc : Option VADRMPRIMESurfaceDescriptor} (ok : Bool) :
    Encodes enc (⟨.createSurfaces width height desc, some input⟩ ::
      (t ++ [⟨.destroySurfaces input, ok⟩])) r where
  accounts := h.accounts.around rfl rfl rfl rfl
  pictures := by
    have hends : pictureOps (t ++ [⟨.destroySurfaces input, ok⟩]) = pictureOps t := by
      rw [pictureOps_append]
      exact List.append_nil _
    exact hends ▸ h.pictures
  coded := by
    have hends : codedOps (t ++ [⟨.destroySurfaces input, ok⟩]) = codedOps t := by
      rw [codedOps_append]
      exact List.append_nil _
    exact hends.trans h.coded
  codedBuf := h.codedBuf

theorem dbEncoderEncodeDmabuf_encodes (enc : DbEncoder) (fd : Int32) (stride offset : UInt32)
    (drmModifier : UInt64) :
    (dbEncoderEncodeDmabuf enc fd stride offset drmModifier).Meets (Encodes enc) := by
  rw [dbEncoderEncodeDmabuf, meets_bind, importDmabufSurface, meets_bind, meets_createSurfaces]
  rintro (- | input)
  · refine meets_pure.2 ?_
    rw [if_pos rfl]
    exact meets_pure.2 (encodes_of_quiet (quiet_noSurface _ _ _))
  · refine meets_pure.2 ?_
    rw [if_neg input.2, meets_bind]
    refine (encodeSurface_encodesOn enc input).mono fun t r ht => ?_
    rw [meets_bind, meets_destroySurfaces]
    intro ok
    refine meets_pure.2 ?_
    rw [List.append_nil]
    exact ht.around ok

theorem dbEncoderEncodeNv12_encodes (enc : DbEncoder) (nv12 : ℕ → UInt8) (stride : UInt32) :
    (dbEncoderEncodeNv12 enc nv12 stride).Meets (Encodes enc) := by
  rw [dbEncoderEncodeNv12, meets_bind, meets_createSurfaces]
  rintro (- | input)
  · exact meets_pure.2 (encodes_of_quiet (quiet_noSurface _ _ _))
  · rw [meets_bind, meets_deriveImage]
    rintro (- | image)
    · rw [meets_bind, meets_destroySurfaces]
      intro ok
      refine meets_pure.2 (encodes_of_quiet ⟨fun live _ => ?_, rfl, rfl⟩)
      cases ok <;> simp [objectOps, leaks]
    · rw [meets_bind, meets_mapBuffer]
      rintro (- | -)
      · rw [if_neg Bool.false_ne_true, meets_bind, meets_destroyImage]
        intro ok
        rw [meets_bind, meets_destroySurfaces]
        intro ok'
        refine meets_pure.2 (encodes_of_quiet ⟨fun live _ => ?_, rfl, rfl⟩)
        rcases ok with - | - <;> rcases ok' with - | - <;> simp [objectOps, leaks]
      · rw [if_pos rfl, meets_bind, meets_discard]
        intro _
        rw [meets_bind, meets_unmapBuffer]
        intro unmapped
        rw [meets_bind, meets_destroyImage]
        intro ok
        rw [meets_bind]
        refine (encodeSurface_encodesOn enc input).mono fun t r ht => ?_
        rw [meets_bind, meets_destroySurfaces]
        intro ok'
        refine meets_pure.2 ?_
        -- the image is derived, filled and destroyed before the picture
        have hfilled : EncodesOn enc input [[], [.begun, .ended]]
            ([⟨.deriveImage input, some image⟩, ⟨.mapBuffer (.image image.imageId), true⟩,
              ⟨.fillImage image ((copyNv12 enc stride image).map fun m => (m.1, nv12 m.2)), ()⟩,
              ⟨.unmapBuffer (.image image.imageId), unmapped⟩,
              ⟨.destroyImage image.imageId, ok⟩] ++ t) r := by
          refine ht.prepend (fun live hkept => ?_) rfl rfl
          have hinput : VaObject.surface input ∈ live := hkept _ (by simp)
          cases ok <;> simp [objectOps, leaks, hinput]
        exact hfilled.around ok'

/-- **What a callback leaves behind.** -/
structure FrameEnds (enc : PixelEncoder) (t : List VaEvent) (enc' : PixelEncoder) : Prop where
  accounts : Accounts [codedObject enc.toDbEncoder] t
  pictures : pictureOps t ∈ [[], [.begun, .ended]]
  coded : codedOps t ∈ [[], [.mapped true], [.mapped false, .unmapped false],
    [.mapped false, .unmapped true]]
  codedBuf : enc'.codedBuf = enc.codedBuf

/-- The coded buffer is unmapped where there is something to send. -/
theorem finishFrame_ends {enc : DbEncoder} (hvalid : enc.codedBuf ≠ vaInvalidId)
    {t : List VaEvent} {r : Option Encoded × DbEncoder} (h : Encodes enc t r) :
    (finishFrame r.1 r.2).Meets fun t' _ =>
      Accounts [codedObject enc] (t ++ t') ∧ pictureOps (t ++ t') ∈ [[], [.begun, .ended]] ∧
      codedOps (t ++ t') ∈ [[], [.mapped true], [.mapped false, .unmapped false],
        [.mapped false, .unmapped true]] := by
  have hcoded := h.coded
  unfold finishFrame
  rcases hout : r.1 with - | out
  · rw [hout] at hcoded
    refine meets_pure.2 ?_
    rw [List.append_nil, hcoded]
    exact ⟨h.accounts, h.pictures, List.mem_cons_self⟩
  · rw [hout] at hcoded
    by_cases hempty : out.outBuf = 0 ∨ out.outSize = 0
    · have hmapped : codedOps t = [.mapped true] :=
        hcoded.trans (congrArg (fun b => [CodedOp.mapped b]) (decide_eq_true hempty))
      dsimp only
      rw [if_pos hempty]
      refine meets_pure.2 ?_
      rw [List.append_nil, hmapped]
      exact ⟨h.accounts, h.pictures, by decide⟩
    · have hmapped : codedOps t = [.mapped false] :=
        hcoded.trans (congrArg (fun b => [CodedOp.mapped b]) (decide_eq_false hempty))
      dsimp only
      rw [if_neg hempty, dbEncoderReleaseFrame, h.codedBuf, if_pos hvalid, meets_unmapBuffer]
      intro ok
      have hreleased : Accounts [codedObject enc]
          [⟨.unmapBuffer (.buffer ⟨.encCoded, enc.codedBuf⟩), ok⟩] := by
        intro live hkept
        have hmem : VaObject.buffer ⟨.encCoded, enc.codedBuf⟩ ∈ live :=
          hkept _ (by simp [codedObject])
        simp [objectOps, leaks, hmem]
      refine ⟨h.accounts.append hreleased, ?_, ?_⟩
      · rw [pictureOps_append]
        exact (List.append_nil _).symm ▸ h.pictures
      · rw [codedOps_append, hmapped]
        cases ok <;> simp [codedOps, codedOp]

/-- The conversion does not concern the driver. -/
theorem convertBgrx_toDbEncoder (enc : PixelEncoder) (input : BgrxCall) :
    (enc.convertBgrx input).toDbEncoder = enc.toDbEncoder := by
  have hensure : (enc.ensureConvBuf input.fresh).toDbEncoder = enc.toDbEncoder := by
    unfold PixelEncoder.ensureConvBuf
    dsimp only
    split
    · split <;> rfl
    · rfl
  exact hensure

/-- The two paths end in the same way: the encoder `g` makes of what was returned is the one that
was returned, up to its conversion buffer. -/
theorem frameEnds_of_encodes {enc : PixelEncoder} (hvalid : enc.codedBuf ≠ vaInvalidId)
    {p : Va (Option Encoded × DbEncoder)} (hp : p.Meets (Encodes enc.toDbEncoder))
    {g : Option Encoded × DbEncoder → PixelEncoder} (hg : ∀ r, (g r).toDbEncoder = r.2) :
    (do
      let ret ← p
      finishFrame ret.1 ret.2
      return g ret).Meets (FrameEnds enc) := by
  rw [meets_bind]
  refine hp.mono fun t r ht => ?_
  rw [meets_bind]
  refine (finishFrame_ends hvalid ht).mono fun t' _ ⟨haccounts, hpictures, hcoded⟩ => ?_
  refine meets_pure.2 ?_
  rw [List.append_nil]
  exact ⟨haccounts, hpictures, hcoded, (congrArg DbEncoder.codedBuf (hg r)).trans ht.codedBuf⟩

/-- **A callback**: of an encoder with a coded buffer. -/
theorem onFrameCaptured_ends {enc : PixelEncoder} (hvalid : enc.codedBuf ≠ vaInvalidId)
    (memory : ℕ → UInt8) (fresh : Option (ℕ → UInt8)) (frame : CapturedFrame) :
    (onFrameCaptured enc memory fresh frame).Meets (FrameEnds enc) := by
  have hnothing : ∀ enc' : PixelEncoder, enc'.codedBuf = enc.codedBuf →
      FrameEnds enc [] enc' := fun enc' hsame =>
    ⟨quiet_nil.accounts.mono fun _ ho => by simp at ho, by decide, by decide, hsame⟩
  unfold onFrameCaptured
  rcases DisplayBridge.onFrameCaptured frame with
    - | ⟨fd, stride, offset, modifier⟩ | ⟨data, stride⟩
  · exact meets_pure.2 (hnothing enc rfl)
  · exact frameEnds_of_encodes hvalid (dbEncoderEncodeDmabuf_encodes _ _ _ _ _) fun _ => rfl
  · have hsame := convertBgrx_toDbEncoder enc ⟨bytesAt memory data, stride, fresh⟩
    dsimp only
    split
    · exact meets_pure.2 (hnothing _ (congrArg DbEncoder.codedBuf hsame))
    · refine frameEnds_of_encodes hvalid ?_ fun _ => rfl
      rw [hsame]
      exact dbEncoderEncodeNv12_encodes _ _ _

/-! ### Runs -/

/-- A callback, with what it is called with and the trace of its calls. -/
structure FrameCall where
  memory : ℕ → UInt8
  fresh : Option (ℕ → UInt8)
  frame : CapturedFrame
  trace : List VaEvent

/-- **Runs of callbacks**, one after the other on one encoder. -/
inductive FrameRun (enc₀ : PixelEncoder) : List FrameCall → PixelEncoder → Prop
  | start : FrameRun enc₀ [] enc₀
  | snoc {calls : List FrameCall} {enc enc' : PixelEncoder} {c : FrameCall} :
      FrameRun enc₀ calls enc → (onFrameCaptured enc c.memory c.fresh c.frame).Trace c.trace enc' →
      FrameRun enc₀ (calls ++ [c]) enc'

/-- All calls of the driver. -/
def history (calls : List FrameCall) : List VaEvent := calls.flatMap FrameCall.trace

/-- The objects after `db_encoder_init`. -/
def initObjects (enc : PixelEncoder) : Multiset VaObject :=
  codedObject enc.toDbEncoder ::ₘ (enc.reconSurfaces.map VaObject.surface : List VaObject)

/-- Whether the coded buffer is mapped behind an operation. -/
def CodedOp.next (mapped : Bool) : CodedOp → Bool
  | .mapped _ => true
  | .unmapped ok => mapped && !ok

/-- **What is promised of a trace**: objects are used and destroyed while they are there, in
the end exactly those are there that were there before, every one that was created was
destroyed once, every picture that was begun was ended once, and the coded buffer is not
mapped. -/
structure AtRest (live : Multiset VaObject) (t : List VaEvent) : Prop where
  sound : Sound live (ops t)
  live : after live (ops t) = live
  destroyed : ∀ o, closes o (ops t) = opens o (ops t)
  pictures : ∃ n, pictureOps t = (List.replicate n [PictureOp.begun, .ended]).flatten
  unmapped : (codedOps t).foldl CodedOp.next false = false

/-- **The calls that do harm**: those that fail and leave something behind, and a coded buffer in
which there is nothing. -/
inductive Harmful : VaEvent → Prop
  | renderParam {buf : VABuffer} : IsParam buf.type → Harmful ⟨.renderPicture [buf], false⟩
  | destroyBuffer (buf : VABuffer) : Harmful ⟨.destroyBuffer buf, false⟩
  | destroySurfaces (surface : VASurfaceID) : Harmful ⟨.destroySurfaces surface, false⟩
  | destroyImage (imageId : UInt32) : Harmful ⟨.destroyImage imageId, false⟩
  | unmapCoded (id : VABufferID) : Harmful ⟨.unmapBuffer (.buffer ⟨.encCoded, id⟩), false⟩
  | noSegment (id : VABufferID) : Harmful ⟨.mapCodedBuffer id, some none⟩
  | emptySegment (id : VABufferID) {seg : VACodedBufferSegment} :
      seg.buf = 0 ∨ seg.size = 0 → Harmful ⟨.mapCodedBuffer id, some (some seg)⟩

theorem undisposed_ne_zero {object : VaObject} {ok : Bool} (h : undisposed object ok ≠ 0) :
    ok = false := by
  cases ok with
  | false => rfl
  | true => exact absurd rfl h

theorem unrendered_ne_zero {buf : VABuffer} {ok : Bool} (h : unrendered buf ok ≠ 0) :
    ok = false ∧ IsParam buf.type := by
  by_contra hno
  exact h (if_neg hno)

theorem harmful_of_leaks {e : VaEvent} (h : leaks e ≠ 0) : Harmful e := by
  unfold leaks at h
  split at h
  · obtain ⟨rfl, hparam⟩ := unrendered_ne_zero h
    exact .renderParam hparam
  · obtain rfl := undisposed_ne_zero h
    exact .destroyBuffer _
  · obtain rfl := undisposed_ne_zero h
    exact .destroySurfaces _
  · obtain rfl := undisposed_ne_zero h
    exact .destroyImage _
  · exact absurd rfl h

theorem harmful_of_codedOp {e : VaEvent}
    (h : codedOp e = some (.mapped true) ∨ codedOp e = some (.unmapped false)) : Harmful e := by
  unfold codedOp at h
  split at h
  · next id seg =>
    change Option (Option VACodedBufferSegment) at seg
    rcases seg with - | - | seg
    · simp at h
    · exact .noSegment id
    · refine .emptySegment id ?_
      simpa using h
  · next buf ok =>
    obtain ⟨type, id⟩ := buf
    by_cases hcoded : type = .encCoded
    · subst hcoded
      change Bool at ok
      rcases ok with - | -
      · exact .unmapCoded id
      · simp at h
    · simp [hcoded] at h
  · simp at h

/-- **What does harm** leaves something behind, or the coded buffer mapped. -/
theorem harmful_iff (e : VaEvent) :
    Harmful e ↔ leaks e ≠ 0 ∨ codedOp e = some (.mapped true) ∨
      codedOp e = some (.unmapped false) := by
  constructor
  · rintro (hparam | _ | _ | _ | _ | _ | ⟨_, hempty⟩)
    · refine Or.inl ?_
      simp [leaks, unrendered, hparam]
    · exact Or.inl (Multiset.singleton_ne_zero _)
    · exact Or.inl (Multiset.singleton_ne_zero _)
    · exact Or.inl (Multiset.singleton_ne_zero _)
    · exact Or.inr (Or.inr rfl)
    · exact Or.inr (Or.inl rfl)
    · refine Or.inr (Or.inl ?_)
      exact congrArg (fun b => some (CodedOp.mapped b)) (decide_eq_true hempty)
  · rintro (hleaks | hcoded)
    · exact harmful_of_leaks hleaks
    · exact harmful_of_codedOp hcoded

/-! ### One callback after a trace at rest -/

theorem leaked_eq_zero {t : List VaEvent} : leaked t = 0 ↔ ∀ e ∈ t, leaks e = 0 := by
  rw [leaked, List.sum_eq_zero_iff, List.forall_mem_map]

theorem mem_codedOps {t : List VaEvent} {op : CodedOp} :
    op ∈ codedOps t ↔ ∃ e ∈ t, codedOp e = some op := List.mem_filterMap

/-- **A trace is harmless** if it leaves nothing behind and the coded buffer is neither empty nor
still mapped. -/
theorem harmless_iff {t : List VaEvent} :
    (∀ e ∈ t, ¬Harmful e) ↔
      leaked t = 0 ∧ .mapped true ∉ codedOps t ∧ .unmapped false ∉ codedOps t := by
  simp only [harmful_iff, not_or, not_not, leaked_eq_zero, mem_codedOps, not_exists, not_and]
  constructor
  · intro h
    exact ⟨fun e he => (h e he).1, fun e he => (h e he).2.1, fun e he => (h e he).2.2⟩
  · rintro ⟨hleaks, hmapped, hunmapped⟩ e he
    exact ⟨hleaks e he, hmapped e he, hunmapped e he⟩

section Callback

variable {enc enc' : PixelEncoder} {live : Multiset VaObject} {T t : List VaEvent}

/-- A callback that starts with the coded buffer unmapped leaves it so only if it has mapped it in
vain neither way. -/
theorem FrameEnds.unmapped_iff (h : FrameEnds enc t enc') :
    (codedOps t).foldl CodedOp.next false = false ↔
      .mapped true ∉ codedOps t ∧ .unmapped false ∉ codedOps t := by
  have hcoded := h.coded
  simp only [List.mem_cons, List.not_mem_nil, or_false] at hcoded
  rcases hcoded with heq | heq | heq | heq <;> rw [heq] <;> decide

/-- One more picture, or none. -/
theorem FrameEnds.pictures_append (h : FrameEnds enc t enc')
    (hT : ∃ n, pictureOps T = (List.replicate n [PictureOp.begun, .ended]).flatten) :
    ∃ n, pictureOps (T ++ t) = (List.replicate n [PictureOp.begun, .ended]).flatten := by
  obtain ⟨n, hn⟩ := hT
  have hpictures := h.pictures
  simp only [List.mem_cons, List.not_mem_nil, or_false] at hpictures
  rcases hpictures with hnone | hone
  · refine ⟨n, ?_⟩
    rw [pictureOps_append, hn, hnone, List.append_nil]
  · refine ⟨n + 1, ?_⟩
    rw [pictureOps_append, hn, hone, List.replicate_succ', List.flatten_append,
      List.flatten_singleton]

/-- **The step**: after a trace at rest, a callback leaves the driver at rest exactly if none of
its calls does harm. -/
theorem FrameEnds.atRest_append (h : FrameEnds enc t enc') (hT : AtRest live T)
    (hmem : codedObject enc.toDbEncoder ∈ live) :
    AtRest live (T ++ t) ↔ ∀ e ∈ t, ¬Harmful e := by
  obtain ⟨hsound, hafter⟩ := h.accounts live fun o ho => by rwa [List.mem_singleton.1 ho]
  have hlive : after live (ops (T ++ t)) = leaked t + live := by
    rw [ops_append, after_append, hT.live, hafter]
  have hunmapped : (codedOps (T ++ t)).foldl CodedOp.next false =
      (codedOps t).foldl CodedOp.next false := by
    rw [codedOps_append, List.foldl_append, hT.unmapped]
  rw [harmless_iff]
  constructor
  · intro hrest
    refine ⟨?_, h.unmapped_iff.1 (hunmapped.symm.trans hrest.unmapped)⟩
    have hnothing : leaked t + live = 0 + live :=
      hlive.symm.trans (hrest.live.trans (zero_add live).symm)
    exact add_right_cancel hnothing
  · rintro ⟨hleaked, hcoded⟩
    have hsame : after live (ops (T ++ t)) = live := by rw [hlive, hleaked, zero_add]
    have hboth : Sound live (ops (T ++ t)) := by
      rw [ops_append, sound_append, hT.live]
      exact ⟨hT.sound, hsound⟩
    refine ⟨hboth, hsame, fun o => ?_, h.pictures_append hT.pictures,
      hunmapped.trans (h.unmapped_iff.2 hcoded)⟩
    have hcount := count_opened hboth o
    rw [hsame] at hcount
    exact (Nat.add_left_cancel hcount).symm

end Callback

/-! ### Every run -/

theorem atRest_nil (live : Multiset VaObject) : AtRest live [] where
  sound := trivial
  live := rfl
  destroyed _ := rfl
  pictures := ⟨0, rfl⟩
  unmapped := rfl

theorem history_concat (calls : List FrameCall) (c : FrameCall) :
    history (calls ++ [c]) = history calls ++ c.trace := by
  rw [history, List.flatMap_append, List.flatMap_singleton]
  rfl

/-- The coded buffer is the one of the start. -/
theorem FrameRun.codedBuf {enc₀ enc : PixelEncoder} (hvalid : enc₀.codedBuf ≠ vaInvalidId)
    {calls : List FrameCall} (h : FrameRun enc₀ calls enc) : enc.codedBuf = enc₀.codedBuf := by
  induction h with
  | start => rfl
  | snoc hrun hcall ih =>
    exact (onFrameCaptured_ends (ih ▸ hvalid) _ _ _ _ _ hcall).codedBuf.trans ih

/-- A run from any encoder with a coded buffer. -/
theorem FrameRun.atRest_iff {enc₀ enc : PixelEncoder} (hvalid : enc₀.codedBuf ≠ vaInvalidId)
    {calls : List FrameCall} (h : FrameRun enc₀ calls enc) :
    (∀ pre, pre <+: calls → AtRest (initObjects enc₀) (history pre)) ↔
      ∀ c ∈ calls, ∀ e ∈ c.trace, ¬Harmful e := by
  induction h with
  | start =>
    constructor
    · rintro - c hc
      exact absurd hc List.not_mem_nil
    · rintro - pre hpre
      rw [List.prefix_nil.1 hpre]
      exact atRest_nil _
  | @snoc calls enc enc' c hrun hcall ih =>
    have hsame := hrun.codedBuf hvalid
    have hends := onFrameCaptured_ends (hsame ▸ hvalid) _ _ _ _ _ hcall
    have hmem : codedObject enc.toDbEncoder ∈ initObjects enc₀ := by
      rw [codedObject, hsame]
      exact Multiset.mem_cons_self _ _
    constructor
    · intro hrest c' hc'
      have hbefore := ih.1 fun pre hpre => hrest pre (hpre.trans (List.prefix_append _ _))
      rcases List.mem_append.1 hc' with hc' | hc'
      · exact hbefore c' hc'
      · rw [List.mem_singleton.1 hc']
        have hlast := hrest _ (List.prefix_refl _)
        rw [history_concat] at hlast
        exact (hends.atRest_append (hrest _ (List.prefix_append _ _)) hmem).1 hlast
    · intro hharmless pre hpre
      have hbefore := ih.2 fun c' hc' => hharmless c' (List.mem_append_left _ hc')
      rcases List.prefix_concat_iff.1 hpre with rfl | hpre
      · rw [history_concat]
        exact (hends.atRest_append (hbefore _ (List.prefix_refl _)) hmem).2
          (hharmless c (List.mem_append_right _ (List.mem_singleton_self c)))
      · exact hbefore pre hpre

/-- **Nothing is left behind exactly if no call does harm**: in every run of callbacks, on either
path, from every encoder that was initialized, whatever the driver answers. -/
theorem callbacks_atRest_iff {width height bitrateKbps fps : ℤ} {surfaces : List VASurfaceID}
    {codedBuf : VABufferID} {fresh : Option (ℕ → UInt8)} {enc₀ enc : PixelEncoder}
    (hinit : pixelEncoderInit width height bitrateKbps fps surfaces codedBuf fresh = some enc₀)
    (hvalid : codedBuf ≠ vaInvalidId) {calls : List FrameCall} (hrun : FrameRun enc₀ calls enc) :
    (∀ pre, pre <+: calls → AtRest (initObjects enc₀) (history pre)) ↔
      ∀ c ∈ calls, ∀ e ∈ c.trace, ¬Harmful e :=
  hrun.atRest_iff (pixelEncoderInit_codedBuf hinit ▸ hvalid)

/-! ### Two drivers -/

/-- A name for a buffer of each type. -/
def bufferIdOf : VABufferType → VABufferID
  | .encSequenceParameter => 10
  | .encPictureParameter => 11
  | .encSliceParameter => 12
  | .encPackedHeaderParameter => 13
  | .encPackedHeaderData => 14
  | .encMiscParameter => 15
  | .encCoded => 16

/-- A driver that does what it is asked to, and renders a sequence parameter buffer or does not. -/
def driver (rendersSequence : Bool) : ∀ c, VaAnswer c
  | .createBuffer data => (some (bufferIdOf data.type) : Option VABufferID)
  | .renderPicture bufs => (bufs.map VABuffer.type != [.encSequenceParameter]) || rendersSequence
  | .mapCodedBuffer _ => (some (some ⟨4096, 100⟩) : Option (Option VACodedBufferSegment))
  | .createSurfaces .. => (some ⟨5, by decide⟩ : Option CreatedSurface)
  | .deriveImage _ => (some ⟨17, 18, fun _ => 0, fun _ => 0⟩ : Option VAImage)
  | .fillMisc .. | .fillImage .. => ()
  | .destroyBuffer _ | .mapBuffer _ | .unmapBuffer _ | .destroySurfaces _ | .destroyImage _
  | .beginPicture _ | .endPicture | .syncSurface _ => true

theorem driver_harmless (c : VaCall) : ¬Harmful ⟨c, driver true c⟩ := by
  intro h
  generalize he : (⟨c, driver true c⟩ : VaEvent) = e at h
  cases h with
  | @renderParam buf _ =>
    obtain ⟨rfl, hans⟩ := Sigma.mk.inj he
    obtain ⟨type, id⟩ := buf
    cases type <;> cases eq_of_heq hans
  | destroyBuffer | destroySurfaces | destroyImage | unmapCoded | noSegment =>
    obtain ⟨rfl, hans⟩ := Sigma.mk.inj he
    cases eq_of_heq hans
  | emptySegment id hempty =>
    obtain ⟨rfl, hans⟩ := Sigma.mk.inj he
    cases eq_of_heq hans
    revert hempty
    decide

/-- A frame in a DMA-BUF, encoded with one of the two drivers. -/
def dmabufRun (rendersSequence : Bool) (enc : PixelEncoder) : List VaEvent × PixelEncoder :=
  (onFrameCaptured enc (fun _ => 0) none ⟨0, 2880, 1800, 3⟩).run (driver rendersSequence)

/-- The frame of this run, and what was called for it. -/
def dmabufCall (rendersSequence : Bool) (enc : PixelEncoder) : FrameCall :=
  ⟨fun _ => 0, none, ⟨0, 2880, 1800, 3⟩, (dmabufRun rendersSequence enc).1⟩

theorem dmabufCall_harmless (enc : PixelEncoder) :
    ∀ e ∈ (dmabufCall true enc).trace, ¬Harmful e := by
  intro e he
  rw [mem_run he]
  exact driver_harmless e.1

/-- An IDR picture and the one after it. -/
theorem callbacks_atRest_driver :
    AtRest (initObjects targetEncoder)
      (history [dmabufCall true targetEncoder,
        dmabufCall true (dmabufRun true targetEncoder).2]) := by
  have hinit : pixelEncoderInit 2880 1800 15000 60 [0, 1, 2, 3] 4 (some fun _ => 0) =
      some targetEncoder := rfl
  have hrun : FrameRun targetEncoder
      ([dmabufCall true targetEncoder] ++ [dmabufCall true (dmabufRun true targetEncoder).2])
      (dmabufRun true (dmabufRun true targetEncoder).2).2 :=
    (FrameRun.start.snoc (trace_run _ _)).snoc (trace_run _ _)
  refine (callbacks_atRest_iff hinit (by decide) hrun).2 ?_ _ (List.prefix_refl _)
  intro c hc
  rcases List.mem_cons.1 hc with rfl | hc
  · exact dmabufCall_harmless _
  · rw [List.mem_singleton.1 hc]
    exact dmabufCall_harmless _

/-- **The sequence parameter buffer of the first picture is left behind** if it is not rendered. -/
theorem not_atRest_sequenceNotRendered :
    ∃ enc, FrameRun targetEncoder [dmabufCall false targetEncoder] enc ∧
      VaObject.buffer ⟨.encSequenceParameter, 10⟩ ∉ initObjects targetEncoder ∧
      VaObject.buffer ⟨.encSequenceParameter, 10⟩ ∈
        after (initObjects targetEncoder) (ops (history [dmabufCall false targetEncoder])) ∧
      ¬AtRest (initObjects targetEncoder) (history [dmabufCall false targetEncoder]) := by
  have hnew : VaObject.buffer ⟨.encSequenceParameter, 10⟩ ∉ initObjects targetEncoder := by decide
  -- the surface is there until the end, the buffer is not destroyed
  have hops : ops (history [dmabufCall false targetEncoder]) =
      [.opened (.surface 5), .used (.surface 5), .opened (.buffer ⟨.encSequenceParameter, 10⟩),
        .used (.buffer ⟨.encSequenceParameter, 10⟩), .closed (.surface 5)] := rfl
  have hleft : VaObject.buffer ⟨.encSequenceParameter, 10⟩ ∈
      after (initObjects targetEncoder) (ops (history [dmabufCall false targetEncoder])) := by
    simp [hops]
  exact ⟨_, FrameRun.start.snoc (trace_run _ _), hnew, hleft, fun h => hnew (h.live ▸ hleft)⟩

end Va

end DisplayBridge
