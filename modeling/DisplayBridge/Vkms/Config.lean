import Mathlib.Data.Int.Notation
import DisplayBridge.Lib.References
import DisplayBridge.Lib.Runs

/-!
# The configuration of a virtual device

A device is described before it is made: lists of planes, CRTCs, encoders and connectors, where
a plane and an encoder have an array of pointers to the CRTCs they can be used with, and a
connector one of pointers to encoders. Objects are created, destroyed, and attached to one
another, in any order (`DisplayBridge.Vkms.VkmsConfig.step`); an object is where the allocator
has put it, which is where no other object is.

No run of these calls leaves a pointer to an object that is gone, or two pointers to one object
in the same array (`DisplayBridge.Vkms.VkmsConfig.sound_of_run`). So what the code finds out by
walking the arrays – `DisplayBridge.Vkms.VkmsConfig.isValid` – is what one would ask of the
configuration as a graph (`DisplayBridge.Vkms.VkmsConfig.Sound.isValid_iff`).
-/

namespace DisplayBridge.Vkms

open References Runs

/-- `enum drm_plane_type`. -/
inductive DrmPlaneType
  | overlay
  | primary
  | cursor
deriving DecidableEq

/-- A plane, with its possible CRTCs. -/
abbrev VkmsConfigPlane := Entry ℕ DrmPlaneType

/-- An encoder, with its possible CRTCs. -/
abbrev VkmsConfigEncoder := Entry ℕ Unit

/-- A connector, with its possible encoders. -/
abbrev VkmsConfigConnector := Entry ℕ Unit

/-- `struct vkms_config_crtc`; its key is its address. -/
structure VkmsConfigCrtc where
  key : ℕ
  writeback : Bool
deriving DecidableEq

/-- `struct vkms_config`: what the device is to have, in lists. -/
structure VkmsConfig where
  planes : List VkmsConfigPlane
  crtcs : List VkmsConfigCrtc
  encoders : List VkmsConfigEncoder
  connectors : List VkmsConfigConnector
deriving DecidableEq

/-- `-EINVAL`. -/
def einval : ℤ := -22

/-- `-ENOMEM`. -/
def enomem : ℤ := -12

/-- `-EEXIST`. -/
def eexist : ℤ := -17

/-- A pointer is put into an array that does not have it, if there is memory for it. -/
def attach {α : Type} (table : List (Entry ℕ α)) (k a : ℕ) (ok : Bool) :
    Except ℤ (List (Entry ℕ α)) :=
  if table.any fun e => e.key = k ∧ a ∈ e.values then .error eexist
  else if ok then .ok (change table k (Entry.attach a))
  else .error enomem

namespace VkmsConfig

/-! ### The calls -/

/-- `vkms_config_create`. -/
def create : VkmsConfig := ⟨[], [], [], []⟩

/-- `vkms_config_create_plane`: an overlay that can be used nowhere. -/
def createPlane (config : VkmsConfig) (addr : ℕ) : VkmsConfig :=
  { config with planes := config.planes ++ [⟨addr, .overlay, []⟩] }

/-- `vkms_config_destroy_plane`. -/
def destroyPlane (config : VkmsConfig) (plane : ℕ) : VkmsConfig :=
  { config with planes := config.planes.filter fun p => p.key ≠ plane }

/-- `vkms_config_plane_set_type`. -/
def planeSetType (config : VkmsConfig) (plane : ℕ) (type : DrmPlaneType) : VkmsConfig :=
  { config with planes := change config.planes plane fun p => { p with data := type } }

/-- `vkms_config_plane_attach_crtc`; `ok` is whether there is memory. -/
def planeAttachCrtc (config : VkmsConfig) (plane crtc : ℕ) (ok : Bool) : Except ℤ VkmsConfig := do
  let planes ← attach config.planes plane crtc ok
  return { config with planes := planes }

/-- `vkms_config_plane_detach_crtc`. -/
def planeDetachCrtc (config : VkmsConfig) (plane crtc : ℕ) : VkmsConfig :=
  { config with planes := change config.planes plane (Entry.detach crtc) }

/-- `vkms_config_create_crtc`. -/
def createCrtc (config : VkmsConfig) (addr : ℕ) : VkmsConfig :=
  { config with crtcs := config.crtcs ++ [⟨addr, false⟩] }

/-- `vkms_config_crtc_set_writeback`. -/
def crtcSetWriteback (config : VkmsConfig) (crtc : ℕ) (writeback : Bool) : VkmsConfig :=
  { config with crtcs := config.crtcs.map fun c =>
      if c.key = crtc then { c with writeback := writeback } else c }

/-- A CRTC is taken out of all arrays before it goes. -/
def destroyCrtc (config : VkmsConfig) (crtc : ℕ) : VkmsConfig :=
  { config with
    planes := config.planes.map (Entry.detach crtc)
    encoders := config.encoders.map (Entry.detach crtc)
    crtcs := config.crtcs.filter fun c => c.key ≠ crtc }

/-- `vkms_config_create_encoder`. -/
def createEncoder (config : VkmsConfig) (addr : ℕ) : VkmsConfig :=
  { config with encoders := config.encoders ++ [⟨addr, (), []⟩] }

/-- An encoder is taken out of all arrays before it goes. -/
def destroyEncoder (config : VkmsConfig) (encoder : ℕ) : VkmsConfig :=
  { config with
    connectors := config.connectors.map (Entry.detach encoder)
    encoders := config.encoders.filter fun e => e.key ≠ encoder }

/-- `vkms_config_encoder_attach_crtc`. -/
def encoderAttachCrtc (config : VkmsConfig) (encoder crtc : ℕ) (ok : Bool) :
    Except ℤ VkmsConfig := do
  let encoders ← attach config.encoders encoder crtc ok
  return { config with encoders := encoders }

/-- `vkms_config_encoder_detach_crtc`. -/
def encoderDetachCrtc (config : VkmsConfig) (encoder crtc : ℕ) : VkmsConfig :=
  { config with encoders := change config.encoders encoder (Entry.detach crtc) }

/-- `vkms_config_create_connector`. -/
def createConnector (config : VkmsConfig) (addr : ℕ) : VkmsConfig :=
  { config with connectors := config.connectors ++ [⟨addr, (), []⟩] }

/-- `vkms_config_destroy_connector`. -/
def destroyConnector (config : VkmsConfig) (connector : ℕ) : VkmsConfig :=
  { config with connectors := config.connectors.filter fun c => c.key ≠ connector }

/-- `vkms_config_connector_attach_encoder`. -/
def connectorAttachEncoder (config : VkmsConfig) (connector encoder : ℕ) (ok : Bool) :
    Except ℤ VkmsConfig := do
  let connectors ← attach config.connectors connector encoder ok
  return { config with connectors := connectors }

/-- `vkms_config_connector_detach_encoder`. -/
def connectorDetachEncoder (config : VkmsConfig) (connector encoder : ℕ) : VkmsConfig :=
  { config with connectors := change config.connectors connector (Entry.detach encoder) }

/-! ### Runs of calls -/

/-- Where the planes are. -/
def planeKeys (config : VkmsConfig) : List ℕ := config.planes.map Entry.key

/-- Where the CRTCs are. -/
def crtcKeys (config : VkmsConfig) : List ℕ := config.crtcs.map VkmsConfigCrtc.key

/-- Where the encoders are. -/
def encoderKeys (config : VkmsConfig) : List ℕ := config.encoders.map Entry.key

/-- Where the connectors are. -/
def connectorKeys (config : VkmsConfig) : List ℕ := config.connectors.map Entry.key

/-- Where there are objects. -/
def occupied (config : VkmsConfig) : List ℕ :=
  config.planeKeys ++ config.crtcKeys ++ config.encoderKeys ++ config.connectorKeys

/-- The calls. A call that creates something comes with the answer of the allocator, and one
that attaches something with whether there was memory for it. -/
inductive Call
  | createPlane (addr : Option ℕ)
  | destroyPlane (plane : ℕ)
  | planeSetType (plane : ℕ) (type : DrmPlaneType)
  | planeAttachCrtc (plane crtc : ℕ) (ok : Bool)
  | planeDetachCrtc (plane crtc : ℕ)
  | createCrtc (addr : Option ℕ)
  | crtcSetWriteback (crtc : ℕ) (writeback : Bool)
  | destroyCrtc (crtc : ℕ)
  | createEncoder (addr : Option ℕ)
  | destroyEncoder (encoder : ℕ)
  | encoderAttachCrtc (encoder crtc : ℕ) (ok : Bool)
  | encoderDetachCrtc (encoder crtc : ℕ)
  | createConnector (addr : Option ℕ)
  | destroyConnector (connector : ℕ)
  | connectorAttachEncoder (connector encoder : ℕ) (ok : Bool)
  | connectorDetachEncoder (connector encoder : ℕ)

/-- An object is created where there is none; without memory nothing happens. -/
def allocated (config : VkmsConfig) (f : ℕ → VkmsConfig) : Option ℕ → Option VkmsConfig
  | none => some config
  | some addr => if addr ∈ config.occupied then none else some (f addr)

/-- What a call that has failed leaves is what there was. -/
def orElse (config : VkmsConfig) (result : Except ℤ VkmsConfig) : VkmsConfig :=
  match result with
  | .ok config' => config'
  | .error _ => config

/-- A call with pointers to objects that there are. -/
def step (config : VkmsConfig) : Call → Option VkmsConfig
  | .createPlane addr => config.allocated config.createPlane addr
  | .destroyPlane p => if p ∈ config.planeKeys then some (config.destroyPlane p) else none
  | .planeSetType p type =>
    if p ∈ config.planeKeys then some (config.planeSetType p type) else none
  | .planeAttachCrtc p c ok =>
    if p ∈ config.planeKeys ∧ c ∈ config.crtcKeys then
      some (config.orElse (config.planeAttachCrtc p c ok))
    else none
  | .planeDetachCrtc p c =>
    if p ∈ config.planeKeys ∧ c ∈ config.crtcKeys then some (config.planeDetachCrtc p c) else none
  | .createCrtc addr => config.allocated config.createCrtc addr
  | .crtcSetWriteback c writeback =>
    if c ∈ config.crtcKeys then some (config.crtcSetWriteback c writeback) else none
  | .destroyCrtc c => if c ∈ config.crtcKeys then some (config.destroyCrtc c) else none
  | .createEncoder addr => config.allocated config.createEncoder addr
  | .destroyEncoder e => if e ∈ config.encoderKeys then some (config.destroyEncoder e) else none
  | .encoderAttachCrtc e c ok =>
    if e ∈ config.encoderKeys ∧ c ∈ config.crtcKeys then
      some (config.orElse (config.encoderAttachCrtc e c ok))
    else none
  | .encoderDetachCrtc e c =>
    if e ∈ config.encoderKeys ∧ c ∈ config.crtcKeys then some (config.encoderDetachCrtc e c)
    else none
  | .createConnector addr => config.allocated config.createConnector addr
  | .destroyConnector c =>
    if c ∈ config.connectorKeys then some (config.destroyConnector c) else none
  | .connectorAttachEncoder c e ok =>
    if c ∈ config.connectorKeys ∧ e ∈ config.encoderKeys then
      some (config.orElse (config.connectorAttachEncoder c e ok))
    else none
  | .connectorDetachEncoder c e =>
    if c ∈ config.connectorKeys ∧ e ∈ config.encoderKeys then
      some (config.connectorDetachEncoder c e)
    else none

/-- **No pointer dangles**, and no array has a pointer twice. -/
structure Sound (config : VkmsConfig) : Prop where
  planes : References.Sound config.planes config.crtcKeys
  encoders : References.Sound config.encoders config.crtcKeys
  connectors : References.Sound config.connectors config.encoderKeys
  crtcs : config.crtcKeys.Nodup

theorem sound_create : create.Sound := ⟨sound_nil, sound_nil, sound_nil, .nil⟩

variable {config config' : VkmsConfig}

/-- What a creation can have done. -/
theorem allocated_cases {f : ℕ → VkmsConfig} {addr : Option ℕ}
    (h : config.allocated f addr = some config') :
    config' = config ∨ ∃ a, a ∉ config.occupied ∧ config' = f a := by
  cases addr with
  | none => exact .inl (Option.some.inj h).symm
  | some a =>
    rw [allocated] at h
    split at h
    · cases h
    · next hfree => exact .inr ⟨a, hfree, (Option.some.inj h).symm⟩

/-- What is attached to a sound table leaves a sound table. -/
theorem sound_of_attach {α : Type} {table table' : List (Entry ℕ α)} {targets : List ℕ}
    {k a : ℕ} {ok : Bool} (h : References.Sound table targets) (ha : a ∈ targets)
    (hok : attach table k a ok = .ok table') :
    References.Sound table' targets ∧ table'.map Entry.key = table.map Entry.key := by
  rw [attach] at hok
  split at hok
  · cases hok
  · next hnew =>
    split at hok
    · obtain rfl : _ = table' := Except.ok.inj hok
      refine ⟨h.attach ha fun e he hk hmem => hnew ?_, keys_change fun _ => rfl⟩
      exact List.any_eq_true.2 ⟨e, he, by simp [hk, hmem]⟩
    · cases hok

theorem notMem_keys {a : ℕ} (ha : a ∉ config.occupied) :
    a ∉ config.planeKeys ∧ a ∉ config.crtcKeys ∧ a ∉ config.encoderKeys ∧
      a ∉ config.connectorKeys := by
  simp only [occupied, List.mem_append, not_or] at ha
  obtain ⟨⟨⟨hplanes, hcrtcs⟩, hencoders⟩, hconnectors⟩ := ha
  exact ⟨hplanes, hcrtcs, hencoders, hconnectors⟩

theorem Sound.createPlane (h : config.Sound) {a : ℕ} (ha : a ∉ config.planeKeys) :
    (config.createPlane a).Sound :=
  ⟨h.planes.insert ha .overlay, h.encoders, h.connectors, h.crtcs⟩

theorem Sound.createConnector (h : config.Sound) {a : ℕ} (ha : a ∉ config.connectorKeys) :
    (config.createConnector a).Sound :=
  ⟨h.planes, h.encoders, h.connectors.insert ha (), h.crtcs⟩

theorem Sound.createCrtc (h : config.Sound) {a : ℕ} (ha : a ∉ config.crtcKeys) :
    (config.createCrtc a).Sound := by
  have hkeys : (config.createCrtc a).crtcKeys = config.crtcKeys ++ [a] := List.map_append
  have hsub : config.crtcKeys ⊆ (config.createCrtc a).crtcKeys := by
    rw [hkeys]
    exact List.subset_append_left _ _
  refine ⟨h.planes.mono hsub, h.encoders.mono hsub, h.connectors, ?_⟩
  rw [hkeys]
  exact h.crtcs.append (List.nodup_singleton a) fun b hb hba => ha (List.mem_singleton.1 hba ▸ hb)

theorem Sound.crtcSetWriteback (h : config.Sound) (c : ℕ) (writeback : Bool) :
    (config.crtcSetWriteback c writeback).Sound := by
  have hkeys : (config.crtcSetWriteback c writeback).crtcKeys = config.crtcKeys := by
    refine List.map_map.trans (List.map_congr_left fun d _ => ?_)
    rw [Function.comp_apply]
    split <;> rfl
  refine ⟨?_, ?_, h.connectors, ?_⟩
  · rw [hkeys]
    exact h.planes
  · rw [hkeys]
    exact h.encoders
  · rw [hkeys]
    exact h.crtcs

theorem Sound.destroyCrtc (h : config.Sound) (c : ℕ) : (config.destroyCrtc c).Sound := by
  have hkeys : (config.destroyCrtc c).crtcKeys = config.crtcKeys.filter (· ≠ c) := by
    rw [crtcKeys, crtcKeys, List.filter_map]
    rfl
  have hencoders : (config.destroyCrtc c).encoderKeys = config.encoderKeys :=
    keys_map fun _ => rfl
  refine ⟨?_, ?_, ?_, ?_⟩
  · rw [hkeys]
    exact h.planes.detachAll c
  · rw [hkeys]
    exact h.encoders.detachAll c
  · rw [hencoders]
    exact h.connectors
  · rw [hkeys]
    exact h.crtcs.filter _

theorem Sound.createEncoder (h : config.Sound) {a : ℕ} (ha : a ∉ config.encoderKeys) :
    (config.createEncoder a).Sound := by
  refine ⟨h.planes, h.encoders.insert ha (), h.connectors.mono ?_, h.crtcs⟩
  have hkeys : (config.createEncoder a).encoderKeys = config.encoderKeys ++ [a] := List.map_append
  rw [hkeys]
  exact List.subset_append_left _ _

theorem Sound.destroyEncoder (h : config.Sound) (e : ℕ) : (config.destroyEncoder e).Sound := by
  refine ⟨h.planes, h.encoders.remove e, ?_, h.crtcs⟩
  have hkeys : (config.destroyEncoder e).encoderKeys = config.encoderKeys.filter (· ≠ e) :=
    keys_remove
  rw [hkeys]
  exact h.connectors.detachAll e

/-- A configuration with other encoders of the same keys. -/
theorem Sound.withEncoders (h : config.Sound) {encoders : List VkmsConfigEncoder}
    (hencoders : References.Sound encoders config.crtcKeys)
    (hkeys : encoders.map Entry.key = config.encoderKeys) :
    Sound { config with encoders := encoders } := by
  refine ⟨h.planes, hencoders, ?_, h.crtcs⟩
  have hsame : encoderKeys { config with encoders := encoders } = config.encoderKeys := hkeys
  rw [hsame]
  exact h.connectors

theorem Sound.planeAttachCrtc (h : config.Sound) {p c : ℕ} (hc : c ∈ config.crtcKeys) (ok : Bool) :
    (config.orElse (config.planeAttachCrtc p c ok)).Sound := by
  rw [VkmsConfig.planeAttachCrtc]
  cases hok : attach config.planes p c ok with
  | error code => exact h
  | ok planes => exact ⟨(sound_of_attach h.planes hc hok).1, h.encoders, h.connectors, h.crtcs⟩

theorem Sound.encoderAttachCrtc (h : config.Sound) {e c : ℕ} (hc : c ∈ config.crtcKeys)
    (ok : Bool) : (config.orElse (config.encoderAttachCrtc e c ok)).Sound := by
  rw [VkmsConfig.encoderAttachCrtc]
  cases hok : attach config.encoders e c ok with
  | error code => exact h
  | ok encoders =>
    obtain ⟨hencoders, hkeys⟩ := sound_of_attach h.encoders hc hok
    exact h.withEncoders hencoders hkeys

theorem Sound.connectorAttachEncoder (h : config.Sound) {c e : ℕ} (he : e ∈ config.encoderKeys)
    (ok : Bool) : (config.orElse (config.connectorAttachEncoder c e ok)).Sound := by
  rw [VkmsConfig.connectorAttachEncoder]
  cases hok : attach config.connectors c e ok with
  | error code => exact h
  | ok connectors => exact ⟨h.planes, h.encoders, (sound_of_attach h.connectors he hok).1, h.crtcs⟩

theorem Sound.planeSetType (h : config.Sound) (p : ℕ) (type : DrmPlaneType) :
    (config.planeSetType p type).Sound :=
  ⟨h.planes.change (fun _ => rfl) (fun e he _ => h.planes.nodup e he)
    (fun e he _ => h.planes.refs e he), h.encoders, h.connectors, h.crtcs⟩

/-- One call. -/
theorem Sound.step (h : config.Sound) {call : Call} (hs : config.step call = some config') :
    config'.Sound := by
  cases call with
  | createPlane addr =>
    rcases allocated_cases hs with rfl | ⟨a, ha, rfl⟩
    · exact h
    · exact h.createPlane (notMem_keys ha).1
  | createCrtc addr =>
    rcases allocated_cases hs with rfl | ⟨a, ha, rfl⟩
    · exact h
    · exact h.createCrtc (notMem_keys ha).2.1
  | createEncoder addr =>
    rcases allocated_cases hs with rfl | ⟨a, ha, rfl⟩
    · exact h
    · exact h.createEncoder (notMem_keys ha).2.2.1
  | createConnector addr =>
    rcases allocated_cases hs with rfl | ⟨a, ha, rfl⟩
    · exact h
    · exact h.createConnector (notMem_keys ha).2.2.2
  | destroyPlane p =>
    obtain ⟨-, ⟨⟩⟩ := Option.ite_none_right_eq_some.1 hs
    exact ⟨h.planes.remove p, h.encoders, h.connectors, h.crtcs⟩
  | planeSetType p type =>
    obtain ⟨-, ⟨⟩⟩ := Option.ite_none_right_eq_some.1 hs
    exact h.planeSetType p type
  | planeAttachCrtc p c ok =>
    obtain ⟨⟨-, hc⟩, ⟨⟩⟩ := Option.ite_none_right_eq_some.1 hs
    exact h.planeAttachCrtc hc ok
  | planeDetachCrtc p c =>
    obtain ⟨-, ⟨⟩⟩ := Option.ite_none_right_eq_some.1 hs
    exact ⟨h.planes.detach p c, h.encoders, h.connectors, h.crtcs⟩
  | crtcSetWriteback c writeback =>
    obtain ⟨-, ⟨⟩⟩ := Option.ite_none_right_eq_some.1 hs
    exact h.crtcSetWriteback c writeback
  | destroyCrtc c =>
    obtain ⟨-, ⟨⟩⟩ := Option.ite_none_right_eq_some.1 hs
    exact h.destroyCrtc c
  | destroyEncoder e =>
    obtain ⟨-, ⟨⟩⟩ := Option.ite_none_right_eq_some.1 hs
    exact h.destroyEncoder e
  | encoderAttachCrtc e c ok =>
    obtain ⟨⟨-, hc⟩, ⟨⟩⟩ := Option.ite_none_right_eq_some.1 hs
    exact h.encoderAttachCrtc hc ok
  | encoderDetachCrtc e c =>
    obtain ⟨-, ⟨⟩⟩ := Option.ite_none_right_eq_some.1 hs
    exact h.withEncoders (h.encoders.detach e c) (keys_change fun _ => rfl)
  | destroyConnector c =>
    obtain ⟨-, ⟨⟩⟩ := Option.ite_none_right_eq_some.1 hs
    exact ⟨h.planes, h.encoders, h.connectors.remove c, h.crtcs⟩
  | connectorAttachEncoder c e ok =>
    obtain ⟨⟨-, he⟩, ⟨⟩⟩ := Option.ite_none_right_eq_some.1 hs
    exact h.connectorAttachEncoder he ok
  | connectorDetachEncoder c e =>
    obtain ⟨-, ⟨⟩⟩ := Option.ite_none_right_eq_some.1 hs
    exact ⟨h.planes, h.encoders, h.connectors.detach c e, h.crtcs⟩

/-- **No run leaves a pointer to an object that is gone.** -/
theorem sound_of_run {ok : VkmsConfig → Call → Prop} {calls : List Call}
    (hrun : Run step ok create calls config) : config.Sound :=
  hrun.invariant sound_create fun _ _ _ h _ hs => h.step hs

/-! ### Validity -/

/-- Between 1 and 31 objects. -/
def validNumber (n : ℕ) : Bool := !(decide (n ≤ 0) || decide (n ≥ 32))

/-- `valid_plane_number`. -/
def validPlaneNumber (config : VkmsConfig) : Bool := validNumber config.planes.length

/-- `valid_crtc_number`. -/
def validCrtcNumber (config : VkmsConfig) : Bool := validNumber config.crtcs.length

/-- `valid_encoder_number`. -/
def validEncoderNumber (config : VkmsConfig) : Bool := validNumber config.encoders.length

/-- `valid_connector_number`. -/
def validConnectorNumber (config : VkmsConfig) : Bool := validNumber config.connectors.length

/-- Whether a primary plane and a cursor plane have been seen, after one more plane; a second one
of either is an error. -/
def seePlane (seen : Bool × Bool) : DrmPlaneType → Option (Bool × Bool)
  | .primary => if seen.1 then none else some (true, seen.2)
  | .cursor => if seen.2 then none else some (seen.1, true)
  | .overlay => some seen

/-- `valid_planes_for_crtc`: one primary plane, and at most one for the cursor. -/
def validPlanesForCrtc (config : VkmsConfig) (crtc : ℕ) : Bool :=
  let seen := config.planes.foldlM (fun seen p => p.values.foldlM (fun seen possibleCrtc =>
    if possibleCrtc = crtc then seePlane seen p.data else some seen) seen) (false, false)
  match seen with
  | none => false
  | some seen => seen.1

/-- `valid_plane_possible_crtcs`: no plane is without a CRTC. -/
def validPlanePossibleCrtcs (config : VkmsConfig) : Bool :=
  config.planes.all fun p => !p.values.isEmpty

/-- `valid_encoder_possible_crtcs`: no encoder is without a CRTC, and no CRTC without one. -/
def validEncoderPossibleCrtcs (config : VkmsConfig) : Bool :=
  (config.encoders.all fun e => !e.values.isEmpty) &&
    config.crtcs.all fun c => config.encoders.any fun e => e.values.any (· = c.key)

/-- `valid_connector_possible_encoders`: no connector is without an encoder. -/
def validConnectorPossibleEncoders (config : VkmsConfig) : Bool :=
  config.connectors.all fun c => !c.values.isEmpty

/-- `vkms_config_is_valid`: the checks, in their order. -/
def isValid (config : VkmsConfig) : Bool :=
  config.validPlaneNumber && config.validCrtcNumber && config.validEncoderNumber &&
    config.validConnectorNumber && config.validPlanePossibleCrtcs &&
    (config.crtcs.all fun c => config.validPlanesForCrtc c.key) &&
    config.validEncoderPossibleCrtcs && config.validConnectorPossibleEncoders

/-- The planes of a type that can be used with a CRTC. -/
def planesOf (config : VkmsConfig) (crtc : ℕ) (type : DrmPlaneType) : List VkmsConfigPlane :=
  config.planes.filter fun p => p.data = type ∧ crtc ∈ p.values

/-- **What a configuration has to be**: no list is empty or has more than 31 entries, every CRTC
has one primary plane, at most one cursor plane and an encoder, and nothing is without
what it is to be used with. -/
structure Valid (config : VkmsConfig) : Prop where
  planes : 0 < config.planes.length ∧ config.planes.length < 32
  crtcs : 0 < config.crtcs.length ∧ config.crtcs.length < 32
  encoders : 0 < config.encoders.length ∧ config.encoders.length < 32
  connectors : 0 < config.connectors.length ∧ config.connectors.length < 32
  plane : ∀ p ∈ config.planes, p.values ≠ []
  primary : ∀ c ∈ config.crtcs, (config.planesOf c.key .primary).length = 1
  cursor : ∀ c ∈ config.crtcs, (config.planesOf c.key .cursor).length ≤ 1
  encoder : ∀ e ∈ config.encoders, e.values ≠ []
  crtc : ∀ c ∈ config.crtcs, ∃ e ∈ config.encoders, c.key ∈ e.values
  connector : ∀ c ∈ config.connectors, c.values ≠ []

theorem validNumber_iff {n : ℕ} : validNumber n = true ↔ 0 < n ∧ n < 32 := by
  rw [validNumber, Bool.not_eq_true', Bool.or_eq_false_iff, decide_eq_false_iff_not,
    decide_eq_false_iff_not, Nat.not_le, Nat.not_le]

theorem all_not_isEmpty_iff {α : Type} {table : List (Entry ℕ α)} :
    (table.all fun e => !e.values.isEmpty) = true ↔ ∀ e ∈ table, e.values ≠ [] := by
  rw [List.all_eq_true]
  refine forall₂_congr fun e _ => ?_
  rw [Bool.not_eq_true', List.isEmpty_eq_false_iff]

/-- The flags count. -/
theorem foldlM_seePlane {types : List DrmPlaneType} {seen seen' : Bool × Bool} :
    types.foldlM seePlane seen = some seen' ↔
      seen'.1.toNat = seen.1.toNat + types.count .primary ∧
        seen'.2.toNat = seen.2.toNat + types.count .cursor := by
  obtain ⟨primary', cursor'⟩ := seen'
  induction types generalizing seen with
  | nil =>
    obtain ⟨primary, cursor⟩ := seen
    cases primary <;> cases cursor <;> cases primary' <;> cases cursor' <;> decide
  | cons type types ih =>
    obtain ⟨primary, cursor⟩ := seen
    have hprimary : primary'.toNat ≤ 1 := Bool.toNat_le _
    have hcursor : cursor'.toNat ≤ 1 := Bool.toNat_le _
    rw [List.foldlM_cons]
    cases type with
    | overlay =>
      rw [List.count_cons_of_ne (by decide), List.count_cons_of_ne (by decide)]
      exact ih
    | primary =>
      rw [List.count_cons_self, List.count_cons_of_ne (by decide)]
      cases primary with
      | false =>
        refine ih.trans (and_congr_left fun _ => ?_)
        simp only [Bool.toNat_true, Bool.toNat_false]
        omega
      | true =>
        refine iff_of_false (fun h => by cases h) fun h => ?_
        simp only [Bool.toNat_true] at h
        omega
    | cursor =>
      rw [List.count_cons_self, List.count_cons_of_ne (by decide)]
      cases cursor with
      | false =>
        refine ih.trans (and_congr_right fun _ => ?_)
        simp only [Bool.toNat_true, Bool.toNat_false]
        omega
      | true =>
        refine iff_of_false (fun h => by cases h) fun h => ?_
        simp only [Bool.toNat_true] at h
        omega

/-- In an array without duplicates a CRTC is met once. -/
theorem foldlM_possibleCrtcs {crtc : ℕ} {values : List ℕ} (h : values.Nodup)
    (type : DrmPlaneType) (seen : Bool × Bool) :
    values.foldlM (fun seen possibleCrtc =>
        if possibleCrtc = crtc then seePlane seen type else some seen) seen =
      if crtc ∈ values then seePlane seen type else some seen := by
  have hnone : ∀ (values : List ℕ) (seen : Bool × Bool), crtc ∉ values →
      values.foldlM (fun seen possibleCrtc =>
        if possibleCrtc = crtc then seePlane seen type else some seen) seen = some seen := by
    intro values
    induction values with
    | nil => exact fun _ _ => rfl
    | cons c values ih =>
      intro seen hmem
      obtain ⟨hne, hrest⟩ := List.ne_and_not_mem_of_not_mem_cons hmem
      rw [List.foldlM_cons, if_neg hne.symm]
      exact ih seen hrest
  induction values generalizing seen with
  | nil => rfl
  | cons c values ih =>
    obtain ⟨hc, hrest⟩ := List.nodup_cons.1 h
    rw [List.foldlM_cons]
    by_cases hcc : c = crtc
    · subst hcc
      rw [if_pos rfl, if_pos List.mem_cons_self]
      cases hseen : seePlane seen type with
      | none => rfl
      | some seen' => exact hnone values seen' hc
    · rw [if_neg hcc]
      refine (ih hrest seen).trans (if_congr ?_ rfl rfl)
      rw [List.mem_cons]
      exact (or_iff_right fun h => hcc h.symm).symm

theorem length_planesOf (crtc : ℕ) (type : DrmPlaneType) : (config.planesOf crtc type).length =
    ((config.planes.filter fun p => crtc ∈ p.values).map Entry.data).count type := by
  rw [List.count, List.countP_map, List.countP_filter, planesOf, ← List.countP_eq_length_filter]
  refine List.countP_congr fun p _ => ?_
  simp

/-- **One primary plane and at most one cursor plane.** -/
theorem Sound.validPlanesForCrtc_iff (h : config.Sound) (crtc : ℕ) :
    config.validPlanesForCrtc crtc = true ↔
      (config.planesOf crtc .primary).length = 1 ∧ (config.planesOf crtc .cursor).length ≤ 1 := by
  have hfold : ∀ (planes : List VkmsConfigPlane) (seen : Bool × Bool),
      (∀ p ∈ planes, p.values.Nodup) →
      planes.foldlM (fun seen p => p.values.foldlM (fun seen possibleCrtc =>
        if possibleCrtc = crtc then seePlane seen p.data else some seen) seen) seen =
      ((planes.filter fun p => crtc ∈ p.values).map Entry.data).foldlM seePlane seen := by
    intro planes
    induction planes with
    | nil => exact fun _ _ => rfl
    | cons p planes ih =>
      intro seen hnodup
      obtain ⟨hp, hrest⟩ := List.forall_mem_cons.1 hnodup
      rw [List.foldlM_cons, foldlM_possibleCrtcs hp]
      by_cases hmem : crtc ∈ p.values
      · rw [if_pos hmem, List.filter_cons_of_pos (by simpa using hmem), List.map_cons,
          List.foldlM_cons]
        exact congrArg _ (funext fun seen => ih seen hrest)
      · rw [if_neg hmem, List.filter_cons_of_neg (by simpa using hmem)]
        exact ih seen hrest
  rw [length_planesOf, length_planesOf, validPlanesForCrtc, hfold config.planes _ h.planes.nodup]
  cases hseen : ((config.planes.filter fun p => crtc ∈ p.values).map Entry.data).foldlM seePlane
      (false, false) with
  | none =>
    refine iff_of_false Bool.false_ne_true fun ⟨hprimary, hcursor⟩ => ?_
    obtain hcursor | hcursor := Nat.le_one_iff_eq_zero_or_eq_one.1 hcursor
    · have hsome := (@foldlM_seePlane _ (false, false) (true, false)).2
        ⟨by rw [hprimary]; rfl, by rw [hcursor]; rfl⟩
      rw [hseen] at hsome
      cases hsome
    · have hsome := (@foldlM_seePlane _ (false, false) (true, true)).2
        ⟨by rw [hprimary]; rfl, by rw [hcursor]; rfl⟩
      rw [hseen] at hsome
      cases hsome
  | some seen =>
    obtain ⟨hprimary, hcursor⟩ := foldlM_seePlane.1 hseen
    rw [Bool.toNat_false, Nat.zero_add] at hprimary hcursor
    rw [← hprimary, ← hcursor, Bool.toNat_eq_one]
    exact (and_iff_left (Bool.toNat_le _)).symm

/-- **Validity is what the arrays mean.** -/
theorem Sound.isValid_iff (h : config.Sound) : config.isValid = true ↔ config.Valid := by
  have hcrtcs : (config.crtcs.all fun c => config.validPlanesForCrtc c.key) = true ↔
      (∀ c ∈ config.crtcs, (config.planesOf c.key .primary).length = 1) ∧
        ∀ c ∈ config.crtcs, (config.planesOf c.key .cursor).length ≤ 1 := by
    rw [List.all_eq_true, ← forall₂_and]
    exact forall₂_congr fun c _ => h.validPlanesForCrtc_iff c.key
  have hencoders : config.validEncoderPossibleCrtcs = true ↔
      (∀ e ∈ config.encoders, e.values ≠ []) ∧
        ∀ c ∈ config.crtcs, ∃ e ∈ config.encoders, c.key ∈ e.values := by
    rw [validEncoderPossibleCrtcs, Bool.and_eq_true, all_not_isEmpty_iff, List.all_eq_true]
    refine and_congr_right fun _ => forall₂_congr fun c _ => ?_
    simp
  rw [isValid, Bool.and_eq_true, Bool.and_eq_true, Bool.and_eq_true, Bool.and_eq_true,
    Bool.and_eq_true, Bool.and_eq_true, Bool.and_eq_true, hcrtcs, hencoders]
  rw [validPlaneNumber, validCrtcNumber, validEncoderNumber, validConnectorNumber,
    validNumber_iff, validNumber_iff, validNumber_iff, validNumber_iff, validPlanePossibleCrtcs,
    validConnectorPossibleEncoders, all_not_isEmpty_iff, all_not_isEmpty_iff]
  constructor
  · rintro ⟨⟨⟨⟨⟨⟨⟨hplanes, hcrtcs⟩, hencoders⟩, hconnectors⟩, hplane⟩, hprimary, hcursor⟩, hencoder,
      hcrtc⟩, hconnector⟩
    exact ⟨hplanes, hcrtcs, hencoders, hconnectors, hplane, hprimary, hcursor, hencoder, hcrtc,
      hconnector⟩
  · rintro ⟨hplanes, hcrtcs, hencoders, hconnectors, hplane, hprimary, hcursor, hencoder, hcrtc,
      hconnector⟩
    exact ⟨⟨⟨⟨⟨⟨⟨hplanes, hcrtcs⟩, hencoders⟩, hconnectors⟩, hplane⟩, hprimary, hcursor⟩, hencoder,
      hcrtc⟩, hconnector⟩

end VkmsConfig

end DisplayBridge.Vkms
