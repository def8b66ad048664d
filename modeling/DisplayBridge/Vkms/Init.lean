import DisplayBridge.Vkms.OutputInit

/-!
# The device the module brings up

When the module is loaded it describes a device by its parameters – with or without a cursor, with
or without writeback, with or without overlays – and makes it (`DisplayBridge.Vkms.defaultCreate`,
`DisplayBridge.Vkms.defaultDevice`). What the allocator answers is not known but for one thing: it
does not give the same memory twice.

The configuration is valid whatever the parameters, so whatever the answers are there is a device
or a failure that comes from one of them, and the device is known to the last bit
(`DisplayBridge.Vkms.defaultDevice_yields`).
-/

namespace DisplayBridge.Vkms

open References Fallible VkmsConfig

/-- The answer to a request for memory. -/
def kzalloc (mem : ℕ → Option ℕ) (n : ℕ) : Except ℤ ℕ :=
  match mem n with
  | some addr => .ok addr
  | none => .error enomem

/-- Whatever an attachment fails with, the configuration is given up for lack of memory. -/
def orNomem {α : Type} (result : Except ℤ α) : Except ℤ α :=
  result.mapError fun _ => enomem

/-- A plane of the CRTC, with the answers from `n` on. -/
def addPlane (mem : ℕ → Option ℕ) (crtc n : ℕ) (type : DrmPlaneType) (config : VkmsConfig) :
    Except ℤ VkmsConfig := do
  let plane ← kzalloc mem n
  let config := (config.createPlane plane).planeSetType plane type
  orNomem (config.planeAttachCrtc plane crtc (mem (n + 1)).isSome)

/-- `NUM_OVERLAY_PLANES`. -/
def numOverlayPlanes : ℕ := 8

/-- The overlays, if they are asked for. -/
def addOverlays (mem : ℕ → Option ℕ) (crtc : ℕ) (enableOverlay : Bool) (config : VkmsConfig) :
    Except ℤ VkmsConfig :=
  if enableOverlay then
    (List.range numOverlayPlanes).foldlM
      (fun config n => addPlane mem crtc (5 + 2 * n) .overlay config) config
  else .ok config

/-- The plane of the cursor, if it is asked for. -/
def addCursor (mem : ℕ → Option ℕ) (crtc : ℕ) (enableCursor : Bool) (config : VkmsConfig) :
    Except ℤ VkmsConfig :=
  if enableCursor then addPlane mem crtc 21 .cursor config else .ok config

/-- `vkms_config_default_create`. -/
def defaultCreate (mem : ℕ → Option ℕ) (enableCursor enableWriteback enableOverlay : Bool) :
    Except ℤ VkmsConfig := do
  -- the configuration and its name
  let _ ← kzalloc mem 0
  let _ ← kzalloc mem 1
  let plane ← kzalloc mem 2
  let config := (VkmsConfig.create.createPlane plane).planeSetType plane .primary
  let crtc ← kzalloc mem 3
  let config := (config.createCrtc crtc).crtcSetWriteback crtc enableWriteback
  let config ← orNomem (config.planeAttachCrtc plane crtc (mem 4).isSome)
  let config ← addOverlays mem crtc enableOverlay config
  let config ← addCursor mem crtc enableCursor config
  let encoder ← kzalloc mem 23
  let config ← orNomem ((config.createEncoder encoder).encoderAttachCrtc encoder crtc
    (mem 24).isSome)
  let connector ← kzalloc mem 25
  orNomem ((config.createConnector connector).connectorAttachEncoder connector encoder
    (mem 26).isSome)

/-- What the module makes of its parameters. -/
def defaultDevice (fails : ℕ → Option ℤ) (mem : ℕ → Option ℕ)
    (enableCursor enableWriteback enableOverlay : Bool) : Except Failure VkmsDevice := do
  let config ← (defaultCreate mem enableCursor enableWriteback enableOverlay).mapError .errno
  outputInit fails config

/-! ### The configuration -/

/-- A plane of the CRTC. -/
def attached (crtc : ℕ) (plane : ℕ × DrmPlaneType) : VkmsConfigPlane :=
  ⟨plane.1, plane.2, [some crtc]⟩

/-- The planes that the parameters ask for. -/
def planeTypes (enableCursor enableOverlay : Bool) : List DrmPlaneType :=
  .primary :: ((if enableOverlay then List.replicate numOverlayPlanes .overlay else []) ++
    if enableCursor then [.cursor] else [])

/-- A configuration with a CRTC and planes of these types, for which the first `n` answers were
used. -/
def HasPlanes (mem : ℕ → Option ℕ) (crtc : VkmsConfigCrtc) (n : ℕ) (types : List DrmPlaneType)
    (config : VkmsConfig) : Prop :=
  ∃ planes : List (ℕ × DrmPlaneType),
    config = ⟨planes.map (attached crtc.key), [crtc], [], []⟩ ∧
    planes.map Prod.snd = types ∧ (planes.map Prod.fst).Nodup ∧
    ∀ a ∈ planes.map Prod.fst, ∃ i < n, mem i = some a

variable {mem : ℕ → Option ℕ} {config : VkmsConfig} {crtc : VkmsConfigCrtc} {n m : ℕ}
  {types : List DrmPlaneType} {type : DrmPlaneType}

/-- There was no memory. -/
def NoMemory (mem : ℕ → Option ℕ) (code : ℤ) : Prop := code = enomem ∧ ∃ n, mem n = none

theorem kzalloc_yields : Yields (kzalloc mem n) (fun a => mem n = some a) (NoMemory mem) := by
  rw [kzalloc]
  split
  · assumption
  · next h => exact ⟨rfl, n, h⟩

/-- A pointer is put into the array of an object that has just been created. -/
theorem attach_concat {α : Type} {table : List (Entry ℕ α)} {a c : ℕ} {data : α}
    (ha : a ∉ table.map Entry.key) (n : ℕ) :
    Yields (orNomem (attach (table ++ [⟨a, data, []⟩]) a c (mem n).isSome))
      (fun table' => table' = table ++ [⟨a, data, [some c]⟩]) (NoMemory mem) := by
  have hne : ∀ e ∈ table, e.key ≠ a := fun e he hea => ha (hea ▸ List.mem_map_of_mem he)
  have hnew : ((table ++ [(⟨a, data, []⟩ : Entry ℕ α)]).any fun e => e.key = a ∧ c ∈ e.values) =
      false := by
    rw [List.any_eq_false]
    intro e he hhas
    obtain ⟨hkey, hmem⟩ := of_decide_eq_true hhas
    rcases List.mem_append.1 he with he | he
    · exact hne e he hkey
    · rw [List.mem_singleton.1 he] at hmem
      exact List.not_mem_nil hmem
  have hchange : change (table ++ [(⟨a, data, []⟩ : Entry ℕ α)]) a (Entry.attach c) =
      table ++ [⟨a, data, [some c]⟩] := by
    rw [change, List.map_append, List.map_singleton, if_pos rfl]
    refine congrArg (· ++ _) ?_
    exact (List.map_congr_left fun e he => if_neg (hne e he)).trans (List.map_id _)
  rw [attach, hnew, if_neg Bool.false_ne_true]
  cases hmem : mem n with
  | none => exact ⟨rfl, n, hmem⟩
  | some b => exact hchange

theorem HasPlanes.mono (h : HasPlanes mem crtc n types config) (hnm : n ≤ m) :
    HasPlanes mem crtc m types config := by
  obtain ⟨planes, hconfig, htypes, hnodup, hused⟩ := h
  refine ⟨planes, hconfig, htypes, hnodup, fun a ha => ?_⟩
  obtain ⟨i, hi, hai⟩ := hused a ha
  exact ⟨i, hi.trans_le hnm, hai⟩

theorem orNomem_map {α β : Type} {x : Except ℤ α} {f : α → β} :
    orNomem (do let a ← x; return f a) = (do let a ← orNomem x; return f a) := by
  cases x <;> rfl

theorem keys_attached (crtc : ℕ) (planes : List (ℕ × DrmPlaneType)) :
    (planes.map (attached crtc)).map Entry.key = planes.map Prod.fst := by
  rw [List.map_map]
  rfl

/-- Something is attached to the object that was created last. -/
theorem attached_yields {α : Type} {entries table : List (Entry ℕ α)} {a c : ℕ} {data : α}
    (hentries : entries = table ++ [⟨a, data, []⟩]) (ha : a ∉ table.map Entry.key)
    (f : List (Entry ℕ α) → VkmsConfig) :
    Yields (orNomem (do let entries ← attach entries a c (mem n).isSome; return f entries))
      (fun config => config = f (table ++ [⟨a, data, [some c]⟩])) (NoMemory mem) := by
  rw [orNomem_map, hentries]
  refine (attach_concat ha n).bind ?_
  rintro _ rfl
  rfl

/-- One more plane. -/
theorem addPlane_yields (hmem : ∀ i j a, mem i = some a → mem j = some a → i = j)
    (h : HasPlanes mem crtc n types config) (hnm : n ≤ m) :
    Yields (addPlane mem crtc.key m type config)
      (HasPlanes mem crtc (m + 2) (types ++ [type])) (NoMemory mem) := by
  obtain ⟨planes, rfl, htypes, hnodup, hused⟩ := h
  rw [addPlane]
  refine kzalloc_yields.bind fun a ha => ?_
  have hfresh : a ∉ planes.map Prod.fst := by
    intro hold
    obtain ⟨i, hi, hai⟩ := hused a hold
    exact absurd (hmem i m a hai ha) (by omega)
  have hkeys : a ∉ (planes.map (attached crtc.key)).map Entry.key := by
    rwa [keys_attached]
  have hset : change (planes.map (attached crtc.key) ++ [⟨a, .overlay, []⟩]) a
      (fun p => { p with data := type }) = planes.map (attached crtc.key) ++ [⟨a, type, []⟩] := by
    rw [change, List.map_append, List.map_singleton, if_pos rfl]
    refine congrArg (· ++ _) ((List.map_congr_left fun e he => if_neg ?_).trans (List.map_id _))
    rintro rfl
    exact hkeys (List.mem_map_of_mem he)
  refine (attached_yields hset hkeys _).mono ?_
  rintro _ rfl
  refine ⟨planes ++ [(a, type)], ?_, ?_, ?_, ?_⟩
  · rw [List.map_append]
    rfl
  · rw [List.map_append, htypes]
    rfl
  · rw [List.map_append]
    refine hnodup.append (List.nodup_singleton a) fun b hb hba => hfresh ?_
    obtain rfl : b = a := List.mem_singleton.1 hba
    exact hb
  · intro b hb
    rw [List.map_append] at hb
    rcases List.mem_append.1 hb with hb | hb
    · obtain ⟨i, hi, hbi⟩ := hused b hb
      exact ⟨i, by omega, hbi⟩
    · rw [List.map_singleton, List.mem_singleton] at hb
      exact ⟨m, by omega, hb ▸ ha⟩

/-- The overlays. -/
theorem overlays_yields (hmem : ∀ i j a, mem i = some a → mem j = some a → i = j)
    (h : HasPlanes mem crtc 5 types config) (count : ℕ) :
    Yields ((List.range count).foldlM
      (fun config n => addPlane mem crtc.key (5 + 2 * n) .overlay config) config)
      (HasPlanes mem crtc (5 + 2 * count) (types ++ List.replicate count .overlay))
      (NoMemory mem) := by
  have hloop : Yields ((List.range count).foldlM
      (fun config n => addPlane mem crtc.key (5 + 2 * n) .overlay config) config)
      (HasPlanes mem crtc (5 + 2 * (List.range count).length)
        (types ++ List.replicate (List.range count).length .overlay)) (NoMemory mem) := by
    refine Yields.foldlM (I := fun (pre : List ℕ) => HasPlanes mem crtc (5 + 2 * pre.length)
      (types ++ List.replicate pre.length .overlay)) ?_ ?_
    · rwa [List.length_nil, List.replicate_zero, List.append_nil]
    intro pre n post config hl hpre
    have hlt : pre.length < count := by
      have hlength := congrArg List.length hl
      rw [List.length_range, List.length_append, List.length_cons] at hlength
      omega
    have hn : (List.range count)[pre.length]? = some n := by
      rw [hl, List.getElem?_append_right le_rfl, Nat.sub_self]
      rfl
    rw [List.getElem?_range hlt] at hn
    obtain rfl := Option.some.inj hn
    rw [List.length_append, List.length_singleton, List.replicate_succ', ← List.append_assoc]
    exact addPlane_yields hmem hpre le_rfl
  rwa [List.length_range] at hloop

theorem addOverlays_yields (hmem : ∀ i j a, mem i = some a → mem j = some a → i = j)
    (h : HasPlanes mem crtc 5 types config) (enableOverlay : Bool) :
    Yields (addOverlays mem crtc.key enableOverlay config) (HasPlanes mem crtc 21
      (types ++ if enableOverlay then List.replicate numOverlayPlanes .overlay else []))
      (NoMemory mem) := by
  cases enableOverlay with
  | true => exact overlays_yields hmem h numOverlayPlanes
  | false =>
    rw [if_neg Bool.false_ne_true, List.append_nil]
    exact yields_ok.2 (h.mono (by decide))

theorem addCursor_yields (hmem : ∀ i j a, mem i = some a → mem j = some a → i = j)
    (h : HasPlanes mem crtc 21 types config) (enableCursor : Bool) :
    Yields (addCursor mem crtc.key enableCursor config) (HasPlanes mem crtc 23
      (types ++ if enableCursor then [.cursor] else [])) (NoMemory mem) := by
  cases enableCursor with
  | true => exact addPlane_yields hmem h le_rfl
  | false =>
    rw [if_neg Bool.false_ne_true, List.append_nil]
    exact yields_ok.2 (h.mono (by decide))

/-- A configuration as it comes from the parameters. -/
def defaultConfig (planes : List (ℕ × DrmPlaneType)) (crtc encoder connector : ℕ)
    (writeback : Bool) : VkmsConfig :=
  ⟨planes.map (attached crtc), [⟨crtc, writeback⟩], [⟨encoder, (), [some crtc]⟩],
    [⟨connector, (), [some encoder]⟩]⟩

/-- **The configuration of the parameters**: the planes asked for, a CRTC, an encoder and a
connector. -/
theorem defaultCreate_yields (hmem : ∀ i j a, mem i = some a → mem j = some a → i = j)
    (enableCursor enableWriteback enableOverlay : Bool) :
    Yields (defaultCreate mem enableCursor enableWriteback enableOverlay) (fun config =>
      ∃ planes crtc encoder connector,
        config = defaultConfig planes crtc encoder connector enableWriteback ∧
        planes.map Prod.snd = planeTypes enableCursor enableOverlay ∧
        (planes.map Prod.fst).Nodup) (NoMemory mem) := by
  rw [defaultCreate]
  refine kzalloc_yields.bind fun _ _ => kzalloc_yields.bind fun _ _ => ?_
  refine kzalloc_yields.bind fun plane hplane => kzalloc_yields.bind fun crtc _ => ?_
  have hplanes : change [(⟨plane, .overlay, []⟩ : VkmsConfigPlane)] plane
      (fun p => { p with data := .primary }) = [] ++ [⟨plane, .primary, []⟩] := by
    rw [change, List.map_singleton, if_pos rfl]
    rfl
  have hcrtcs : [(⟨crtc, false⟩ : VkmsConfigCrtc)].map (fun c =>
      if c.key = crtc then { c with writeback := enableWriteback } else c) =
        [⟨crtc, enableWriteback⟩] := by
    rw [List.map_singleton, if_pos rfl]
  refine (attached_yields hplanes List.not_mem_nil _).bind ?_
  rintro _ rfl
  have hprimary : HasPlanes mem ⟨crtc, enableWriteback⟩ 5 [.primary]
      ⟨[⟨plane, .primary, [some crtc]⟩], [⟨crtc, false⟩].map (fun c =>
        if c.key = crtc then { c with writeback := enableWriteback } else c), [], []⟩ := by
    rw [hcrtcs]
    refine ⟨[(plane, .primary)], rfl, rfl, List.nodup_singleton plane, fun a ha => ?_⟩
    exact ⟨2, by decide, List.mem_singleton.1 ha ▸ hplane⟩
  refine (addOverlays_yields hmem hprimary enableOverlay).bind fun config hconfig => ?_
  refine (addCursor_yields hmem hconfig enableCursor).bind ?_
  rintro _ ⟨planes, rfl, htypes, hnodup, -⟩
  refine kzalloc_yields.bind fun encoder _ => ?_
  have hencoders : [(⟨encoder, (), []⟩ : VkmsConfigEncoder)] = [] ++ [⟨encoder, (), []⟩] := rfl
  refine (attached_yields hencoders List.not_mem_nil _).bind ?_
  rintro _ rfl
  refine kzalloc_yields.bind fun connector _ => ?_
  have hconnectors : [(⟨connector, (), []⟩ : VkmsConfigConnector)] = [] ++ [⟨connector, (), []⟩] :=
    rfl
  refine (attached_yields hconnectors List.not_mem_nil _).mono ?_
  rintro _ rfl
  exact ⟨planes, crtc, encoder, connector, rfl, htypes, hnodup⟩

/-! ### The device -/

section Device

variable {planes : List (ℕ × DrmPlaneType)} {c encoder connector : ℕ}
  {enableCursor writeback enableOverlay : Bool}

theorem sound_defaultConfig (hnodup : (planes.map Prod.fst).Nodup) :
    (defaultConfig planes c encoder connector writeback).Sound := by
  have hmem : c ∈ (defaultConfig planes c encoder connector writeback).crtcKeys :=
    List.mem_singleton_self c
  refine ⟨⟨?_, ?_, ?_⟩, ⟨List.nodup_singleton _, ?_, ?_⟩, ⟨List.nodup_singleton _, ?_, ?_⟩,
    List.nodup_singleton _⟩
  · exact (keys_attached c planes).symm ▸ hnodup
  · exact List.forall_mem_map.2 fun p _ => List.nodup_singleton c
  · refine List.forall_mem_map.2 fun p _ a ha => ?_
    obtain rfl : a = c := List.mem_singleton.1 ha
    exact hmem
  · exact List.forall_mem_singleton.2 (List.nodup_singleton c)
  · refine List.forall_mem_singleton.2 fun a ha => ?_
    obtain rfl : a = c := List.mem_singleton.1 ha
    exact hmem
  · exact List.forall_mem_singleton.2 (List.nodup_singleton encoder)
  · exact List.forall_mem_singleton.2 fun a ha => ha

/-- Every plane can be used with the CRTC. -/
theorem length_planesOf_defaultConfig (type : DrmPlaneType) :
    ((defaultConfig planes c encoder connector writeback).planesOf c type).length =
      (planes.map Prod.snd).count type := by
  have hall : (planes.map (attached c)).filter (fun p => c ∈ p.values) =
      planes.map (attached c) := by
    refine List.filter_eq_self.2 (List.forall_mem_map.2 fun p _ => ?_)
    exact decide_eq_true (List.mem_singleton_self c)
  rw [length_planesOf]
  show (((planes.map (attached c)).filter fun p => c ∈ p.values).map Entry.data).count type = _
  rw [hall, List.map_map]
  rfl

theorem planeTypes_spec : ∀ enableCursor enableOverlay,
    0 < (planeTypes enableCursor enableOverlay).length ∧
      (planeTypes enableCursor enableOverlay).length < 32 ∧
      (planeTypes enableCursor enableOverlay).count .primary = 1 ∧
      (planeTypes enableCursor enableOverlay).count .cursor ≤ 1 := by decide

theorem valid_defaultConfig (htypes : planes.map Prod.snd = planeTypes enableCursor enableOverlay) :
    (defaultConfig planes c encoder connector writeback).Valid := by
  obtain ⟨hpos, hlt, hprimary, hcursor⟩ := planeTypes_spec enableCursor enableOverlay
  rw [← htypes, List.length_map, ← List.length_map (attached c)] at hpos hlt
  have hone : 0 < 1 ∧ 1 < 32 := by decide
  refine ⟨⟨hpos, hlt⟩, hone, hone, hone, ?_, ?_, ?_, ?_, ?_, ?_⟩
  · exact List.forall_mem_map.2 fun p _ => List.cons_ne_nil c []
  · refine List.forall_mem_singleton.2 ?_
    rw [length_planesOf_defaultConfig, htypes]
    exact hprimary
  · refine List.forall_mem_singleton.2 ?_
    rw [length_planesOf_defaultConfig, htypes]
    exact hcursor
  · exact List.forall_mem_singleton.2 (List.cons_ne_nil c [])
  · exact List.forall_mem_singleton.2 ⟨_, List.mem_singleton_self _, List.mem_singleton_self c⟩
  · exact List.forall_mem_singleton.2 (List.cons_ne_nil encoder [])

theorem maskOf_defaultConfig {mask : BitVec 32}
    (h : MaskOf (defaultConfig planes c encoder connector writeback) [c] mask) : mask = 1 := by
  refine BitVec.eq_of_getLsbD_eq fun i hi => ?_
  rw [Bool.eq_iff_iff, h i, show (1 : BitVec 32) = 1#32 from rfl, BitVec.getLsbD_one]
  cases i with
  | zero => exact iff_of_true ⟨_, rfl, List.mem_singleton_self c⟩ (by decide)
  | succ i =>
    refine iff_of_false ?_ (by simp)
    rintro ⟨d, hd, -⟩
    cases hd

/-- The plane with an index has the type with that index. -/
theorem hasPlane_defaultConfig {type : DrmPlaneType} {i : ℕ} :
    (defaultConfig planes c encoder connector writeback).HasPlane c type i ↔
      (planes.map Prod.snd)[i]? = some type := by
  show (∃ p, (planes.map (attached c))[i]? = some p ∧ p.data = type ∧ c ∈ p.values) ↔ _
  rw [List.getElem?_map, List.getElem?_map]
  cases planes[i]? with
  | none =>
    refine iff_of_false ?_ fun h => by cases h
    rintro ⟨p, hp, -⟩
    cases hp
  | some p =>
    constructor
    · rintro ⟨_, ⟨⟩, htype, -⟩
      exact congrArg some htype
    · intro htype
      exact ⟨attached c p, rfl, Option.some.inj htype, List.mem_singleton_self c⟩

/-- **What the device is**: its planes in their order, all with the one CRTC; the CRTC with the
first plane, and with the last if that is a cursor; the encoder behind those for writeback; and the
connector. -/
structure IsDefault (enableCursor enableOverlay : Bool) (dev : VkmsDevice) : Prop where
  planes : dev.planes = (planeTypes enableCursor enableOverlay).map fun type => ⟨type, 1⟩
  crtcs : dev.crtcs = [⟨0, if enableCursor then
    some ((planeTypes enableCursor enableOverlay).length - 1) else none⟩]
  encoders : ∃ k, dev.encoders.drop k = [⟨1⟩] ∧
    ∃ connector : DrmConnector, dev.connectors = [connector] ∧
      ∀ j, j ∈ connector.possibleEncoders ↔ j = k

theorem isDefault_of_mirrors (htypes : planes.map Prod.snd = planeTypes enableCursor enableOverlay)
    {fails : ℕ → Option ℤ} {k : ℕ} {dev : VkmsDevice}
    (h : Mirrors fails (defaultConfig planes c encoder connector writeback) k dev) :
    IsDefault enableCursor enableOverlay dev := by
  have hplanes := List.forall₂_map_left_iff.1 h.planes
  have hcrtcs := h.crtcs
  have hencoders := h.encoders
  have hconnectors := h.connectors
  refine ⟨?_, ?_, k, ?_, ?_⟩
  · have heq : List.Forall₂ (· = ·) (planes.map fun p => (⟨p.2, 1⟩ : DrmPlane)) dev.planes := by
      refine List.forall₂_map_left_iff.2 (hplanes.imp fun p d hd => ?_)
      rw [← maskOf_defaultConfig hd.mask]
      exact congrArg (DrmPlane.mk · d.possibleCrtcs) hd.type.symm
    rw [List.forall₂_eq_eq_eq] at heq
    rw [← heq, ← htypes, List.map_map]
    rfl
  · generalize dev.crtcs = crtcs at hcrtcs ⊢
    cases hcrtcs with
    | cons hd hnil =>
      cases hnil
      next d =>
      have hprimary : d.primary = 0 := (hd.primary 0).1 (hasPlane_defaultConfig.2 (htypes ▸ rfl))
      have hcursor : ∀ i, (planeTypes enableCursor enableOverlay)[i]? = some .cursor ↔
          d.cursor = some i := fun i => by rw [← htypes, ← hd.cursor, hasPlane_defaultConfig]
      have hshape : d.cursor = if enableCursor then
          some ((planeTypes enableCursor enableOverlay).length - 1) else none := by
        cases enableCursor with
        | true =>
          refine (hcursor _).1 ?_
          cases enableOverlay <;> rfl
        | false =>
          rw [if_neg Bool.false_ne_true, Option.eq_none_iff_forall_ne_some]
          intro i hi
          have hmem := List.mem_of_getElem? ((hcursor i).2 hi)
          cases enableOverlay <;> exact absurd hmem (by decide)
      rw [← hprimary, ← hshape]
  · generalize dev.encoders.drop k = encoders at hencoders ⊢
    cases hencoders with
    | cons hd hnil =>
      cases hnil
      next d => exact congrArg (fun mask => [DrmEncoder.mk mask]) (maskOf_defaultConfig hd)
  · generalize dev.connectors = connectors at hconnectors ⊢
    cases hconnectors with
    | cons hd hnil =>
      cases hnil
      next d =>
      refine ⟨d, rfl, fun j => (hd j).trans ?_⟩
      constructor
      · rintro ⟨i, e, he, -, rfl⟩
        cases i with
        | zero => rfl
        | succ i => cases he
      · rintro rfl
        exact ⟨0, _, rfl, List.mem_singleton_self encoder, rfl⟩

end Device

end DisplayBridge.Vkms
