import Lemnos.Core.ConfiguredIds

namespace Lemnos.Core.ConfiguredDevice

/-! How the descriptors of a configured device and of its children are linked to each other. -/

variable {spec : ConfiguredDeviceSpec} {config : ConfiguredDevice spec} {owner : DeviceDescriptor}
  {children endpoints signals : List DeviceDescriptor}

def targetText (ownerId : DeviceId) (binding : ConfiguredGpioSignalBinding) : String :=
  match binding.signal.target with
  | .device id => id.asStr
  | .globalLine _ | .chipLine .. => binding.descriptorIdForOwner ownerId

/-- The owner has one channel for each endpoint and one dependency for each present signal, and each child is led
to by one link of the owner and links back to it. -/
structure LinkedBothWays (config : ConfiguredDevice spec) (owner : DeviceDescriptor)
    (children : List DeviceDescriptor) : Prop where
  channels : ((owner.links.filter fun link => link.relation = .channel).map fun link => link.target.asStr).Perm
    (spec.endpointFields.map fun field => endpointChildId owner.id field.2)
  dependencies :
    ((owner.links.filter fun link => link.relation = .dependency).map fun link => link.target.asStr).Perm
      (config.configuredGpioSignals.map (targetText owner.id))
  endpoints : ∀ field ∈ spec.endpointFields, ∃ child ∈ children,
    child.id.asStr = endpointChildId owner.id field.2
  signals : ∀ binding ∈ config.configuredGpioSignals, binding.hasChild = true → ∃ child ∈ children,
    child.id.asStr = binding.descriptorIdForOwner owner.id
  targeted : ∀ child ∈ children, owner.links.countP (fun link => link.target = child.id) = 1
  parents : ∀ child ∈ children, ∃ link ∈ child.links, link.relation = .parent ∧ link.target = owner.id

def childIds (config : ConfiguredDevice spec) : List String :=
  spec.endpointFields.map (fun field => s!"{config.configuredDeviceId}.endpoint.{field.2}") ++
    (config.configuredGpioSignals.filter ConfiguredGpioSignalBinding.hasChild).map fun binding =>
      s!"{config.configuredDeviceId}.signal.{binding.name}"

theorem Describes.childIds_eq (h : config.Describes owner endpoints signals) :
    (endpoints ++ signals).map (fun child => child.id.asStr) = config.childIds := by
  obtain ⟨_, _, howns⟩ := configuredDeviceDescriptor_ok h.built
  rw [List.map_append, h.endpoint_ids, h.signal_ids, childIds, ← howns.id]
  rfl

theorem Describes.childIds_nodup (h : config.Describes owner endpoints signals) (hspec : spec.Accepted) :
    config.childIds.Nodup := by
  have htexts := (idRests_nodup hspec config).map fun _ _ heq =>
    (List.append_right_inj config.configuredDeviceId.toList).mp heq
  rw [← h.idTexts, List.map_cons, List.nodup_cons] at htexts
  rw [← h.childIds_eq]
  exact List.Nodup.of_map String.toList (by rw [List.map_map]; exact htexts.2)

theorem endpointLink_ok {ownerId : DeviceId} {endpoint : ConfiguredI2cEndpoint} {link : DeviceLink}
    (h : endpointLink ownerId endpoint = .ok link) :
    link.relation = .channel ∧ link.target.asStr = endpointChildId ownerId endpoint.name := by
  obtain ⟨target, htarget, h⟩ := exists_of_bind_eq_ok h
  cases h
  exact ⟨rfl, Identifier.asStr_of_new htarget⟩

theorem signalLink_ok {ownerId : DeviceId} {binding : ConfiguredGpioSignalBinding} {link : DeviceLink}
    (h : signalLink ownerId binding = .ok link) :
    link.relation = .dependency ∧ link.target.asStr = targetText ownerId binding := by
  obtain ⟨target, htarget, h⟩ := exists_of_bind_eq_ok h
  cases h
  have htext : target.asStr = targetText ownerId binding := by
    rw [ConfiguredGpioSignalBinding.linkTargetId] at htarget
    rw [targetText]
    cases hline : binding.signal.target with
    | device id =>
      rw [hline] at htarget
      cases htarget
      rfl
    | globalLine | chipLine =>
      rw [hline] at htarget
      exact Identifier.asStr_of_new htarget
  cases binding.signal.edge <;> exact ⟨rfl, htext⟩

section Owns

variable {channels dependencies : List DeviceLink} (h : config.Owns owner channels dependencies)

include h

theorem Owns.channel_relation : ∀ link ∈ channels, link.relation = .channel := by
  intro link hlink
  obtain ⟨endpoint, -, hendpoint⟩ := exists_of_mem_right h.channels hlink
  exact (endpointLink_ok hendpoint).1

theorem Owns.dependency_relation : ∀ link ∈ dependencies, link.relation = .dependency := by
  intro link hlink
  obtain ⟨binding, -, hbinding⟩ := exists_of_mem_right h.dependencies hlink
  exact (signalLink_ok hbinding).1

theorem Owns.filter_channel : (owner.links.filter fun link => link.relation = .channel) = channels := by
  rw [h.links, List.filter_append, List.filter_eq_self.mpr, List.filter_eq_nil_iff.mpr, List.append_nil]
  · intro link hlink
    simp [h.dependency_relation link hlink]
  · intro link hlink
    simp [h.channel_relation link hlink]

theorem Owns.filter_dependency : (owner.links.filter fun link => link.relation = .dependency) = dependencies := by
  rw [h.links, List.filter_append, List.filter_eq_nil_iff.mpr, List.filter_eq_self.mpr, List.nil_append]
  · intro link hlink
    simp [h.dependency_relation link hlink]
  · intro link hlink
    simp [h.channel_relation link hlink]

theorem Owns.channel_targets : channels.map (fun link => link.target.asStr) =
    (spec.endpointFields.filter fun field => field.1 = .i2c).map fun field => endpointChildId owner.id field.2 := by
  rw [map_eq_of_forall₂ h.channels fun _ _ hlink => (endpointLink_ok hlink).2, configuredI2cEndpoints,
    List.map_map]
  rfl

theorem Owns.dependency_targets : dependencies.map (fun link => link.target.asStr) =
    config.configuredGpioSignals.map (targetText owner.id) :=
  map_eq_of_forall₂ h.dependencies fun _ _ hlink => (signalLink_ok hlink).2

end Owns

def existingId (binding : ConfiguredGpioSignalBinding) : Option String :=
  match binding.signal.target with
  | .device id => some id.asStr
  | .globalLine _ | .chipLine .. => none

theorem existingId_eq_some {binding : ConfiguredGpioSignalBinding} {text : String} :
    existingId binding = some text ↔ ∃ id, binding.signal.target = .device id ∧ id.asStr = text := by
  rw [existingId]
  cases binding.signal.target <;> simp

theorem hasChild_cases (binding : ConfiguredGpioSignalBinding) :
    (binding.hasChild = true ∧ existingId binding = none ∧
      ∀ ownerId, targetText ownerId binding = binding.descriptorIdForOwner ownerId) ∨
    (¬binding.hasChild = true ∧ ∃ text, existingId binding = some text ∧
      ∀ ownerId, targetText ownerId binding = text) := by
  simp only [ConfiguredGpioSignalBinding.hasChild, existingId, targetText]
  cases binding.signal.target <;> simp

theorem targets_perm (ownerId : DeviceId) (bindings : List ConfiguredGpioSignalBinding) :
    (bindings.map (targetText ownerId)).Perm
      ((bindings.filter ConfiguredGpioSignalBinding.hasChild).map
        (fun binding => binding.descriptorIdForOwner ownerId) ++ bindings.filterMap existingId) := by
  induction bindings with
  | nil => exact .refl []
  | cons binding bindings ih =>
    rcases hasChild_cases binding with ⟨hyes, hexisting, htext⟩ | ⟨hno, text, hexisting, htext⟩
    · rw [List.map_cons, List.filter_cons_of_pos hyes, List.filterMap_cons_none hexisting, htext]
      exact ih.cons _
    · rw [List.map_cons, List.filter_cons_of_neg hno, List.filterMap_cons_some hexisting, htext]
      exact (ih.cons _).trans List.perm_middle.symm

theorem names_none_iff (bindings : List ConfiguredGpioSignalBinding) (texts : List String) :
    (∀ binding ∈ bindings, ∀ id, binding.signal.target = .device id → id.asStr ∉ texts) ↔
      ∀ text ∈ texts, text ∉ bindings.filterMap existingId := by
  constructor
  · intro hnone text htext hexisting
    obtain ⟨binding, hbinding, hid⟩ := List.mem_filterMap.mp hexisting
    obtain ⟨id, htarget, rfl⟩ := existingId_eq_some.mp hid
    exact hnone binding hbinding id htarget htext
  · intro hnone binding hbinding id htarget hchild
    exact hnone id.asStr hchild
      (List.mem_filterMap.mpr ⟨binding, hbinding, existingId_eq_some.mpr ⟨id, htarget, rfl⟩⟩)

theorem Owns.targets_perm {channels dependencies : List DeviceLink} (h : config.Owns owner channels dependencies)
    (hi2c : ∀ field ∈ spec.endpointFields, field.1 = .i2c) :
    (owner.links.map fun link => link.target.asStr).Perm
      (config.childIds ++ config.configuredGpioSignals.filterMap existingId) := by
  have hall : (spec.endpointFields.filter fun field => field.1 = .i2c) = spec.endpointFields :=
    List.filter_eq_self.mpr fun field hfield => decide_eq_true (hi2c field hfield)
  rw [h.links, List.map_append, h.channel_targets, hall, h.dependency_targets, childIds, ← h.id,
    List.append_assoc]
  exact (ConfiguredDevice.targets_perm owner.id config.configuredGpioSignals).append_left _

theorem countP_target (links : List DeviceLink) (id : DeviceId) :
    links.countP (fun link => link.target = id) = (links.map fun link => link.target.asStr).count id.asStr := by
  rw [List.count, List.countP_map]
  apply List.countP_congr
  intro link _
  simp only [decide_eq_true_eq, Function.comp_apply, beq_iff_eq]
  exact ⟨fun heq => congrArg Identifier.asStr heq, Identifier.asStr_injective⟩

theorem Owns.channels_perm_iff {channels dependencies : List DeviceLink}
    (h : config.Owns owner channels dependencies) :
    ((owner.links.filter fun link => link.relation = .channel).map fun link => link.target.asStr).Perm
      (spec.endpointFields.map fun field => endpointChildId owner.id field.2) ↔
        ∀ field ∈ spec.endpointFields, field.1 = .i2c := by
  rw [h.filter_channel, h.channel_targets]
  constructor
  · intro hperm field hfield
    have hlength := hperm.length_eq
    rw [List.length_map, List.length_map] at hlength
    exact of_decide_eq_true (List.length_filter_eq_length_iff.mp hlength field hfield)
  · intro hi2c
    rw [List.filter_eq_self.mpr fun field hfield => decide_eq_true (hi2c field hfield)]

namespace Describes

variable (h : config.Describes owner endpoints signals)

include h

theorem endpoint_child {field : EndpointInterface × String} (hfield : field ∈ spec.endpointFields) :
    ∃ child ∈ endpoints ++ signals, child.id.asStr = endpointChildId owner.id field.2 := by
  have hmem := List.mem_map_of_mem (f := fun field : EndpointInterface × String =>
    endpointChildId owner.id field.2) hfield
  rw [← h.endpoint_ids] at hmem
  obtain ⟨child, hchild, hid⟩ := List.mem_map.mp hmem
  exact ⟨child, List.mem_append_left _ hchild, hid⟩

theorem signal_child {binding : ConfiguredGpioSignalBinding} (hbinding : binding ∈ config.configuredGpioSignals)
    (hhas : binding.hasChild = true) :
    ∃ child ∈ endpoints ++ signals, child.id.asStr = binding.descriptorIdForOwner owner.id := by
  have hmem := List.mem_map_of_mem (f := fun binding : ConfiguredGpioSignalBinding =>
    binding.descriptorIdForOwner owner.id) (List.mem_filter.mpr ⟨hbinding, hhas⟩)
  rw [← h.signal_ids] at hmem
  obtain ⟨child, hchild, hid⟩ := List.mem_map.mp hmem
  exact ⟨child, List.mem_append_right _ hchild, hid⟩

theorem targeted_iff (hspec : spec.Accepted) (hi2c : ∀ field ∈ spec.endpointFields, field.1 = .i2c) :
    (∀ child ∈ endpoints ++ signals, owner.links.countP (fun link => link.target = child.id) = 1) ↔
      ∀ text ∈ config.childIds, text ∉ config.configuredGpioSignals.filterMap existingId := by
  obtain ⟨channels, dependencies, howns⟩ := configuredDeviceDescriptor_ok h.built
  have hids := h.childIds_eq
  rw [← hids, List.forall_mem_map]
  apply forall₂_congr
  intro child hchild
  have hone : config.childIds.count child.id.asStr = 1 :=
    List.count_eq_one_of_mem (h.childIds_nodup hspec) (hids ▸ List.mem_map_of_mem hchild)
  rw [countP_target, (howns.targets_perm hi2c).count_eq, List.count_append, hone, ← List.count_eq_zero]
  omega

end Describes

theorem configured_links_iff (spec : ConfiguredDeviceSpec) (hspec : spec.validate = .ok ())
    (config : ConfiguredDevice spec) (owner : DeviceDescriptor) (children : List DeviceDescriptor)
    (h : config.configuredDescriptors = .ok (owner :: children)) :
    config.LinkedBothWays owner children ↔
      (∀ field ∈ spec.endpointFields, field.1 ≠ .spi) ∧
        ∀ binding ∈ config.configuredGpioSignals, ∀ id, binding.signal.target = .device id →
          id.asStr ∉ config.childIds := by
  obtain ⟨owner', endpoints, signals, hdescribes, heq⟩ := configuredDescriptors_ok h
  cases heq
  obtain ⟨channels, dependencies, howns⟩ := configuredDeviceDescriptor_ok hdescribes.built
  have hkind : ∀ field : EndpointInterface × String, field.1 ≠ .spi ↔ field.1 = .i2c := by
    rintro ⟨interface, name⟩
    cases interface <;> simp
  have htargeted := hdescribes.targeted_iff (ConfiguredDeviceSpec.accepted hspec)
  simp only [hkind, names_none_iff]
  constructor
  · intro hlinked
    have hi2c := howns.channels_perm_iff.mp hlinked.channels
    exact ⟨hi2c, (htargeted hi2c).mp hlinked.targeted⟩
  · rintro ⟨hi2c, hnone⟩
    refine ⟨howns.channels_perm_iff.mpr hi2c, ?_, ?_, ?_, (htargeted hi2c).mpr hnone, ?_⟩
    · rw [howns.filter_dependency, howns.dependency_targets]
    · intro field hfield
      exact hdescribes.endpoint_child hfield
    · intro binding hbinding hhas
      exact hdescribes.signal_child hbinding hhas
    · intro child hchild
      obtain ⟨name, interfaceAttr, hlinks⟩ := hdescribes.child_links child hchild
      exact ⟨parentLink owner name interfaceAttr, by rw [hlinks]; exact List.mem_singleton_self _, rfl, rfl⟩

def sensorSpec : ConfiguredDeviceSpec where
  interface := .i2c
  id := "example.sensor"
  summary := "Configured sensor"
  hasBusField := true
  endpointFields := [(.i2c, "accel"), (.i2c, "gyro")]
  signalFields := ["accel_int"]

def sensor : ConfiguredDevice sensorSpec where
  bus := 4
  endpoint name := if name = "accel" then 0x18 else 0x68
  signal _ := some { target := .globalLine 23 }

theorem configured_links_iff_sensor : ∃ owner children,
    sensor.configuredDescriptors = .ok (owner :: children) ∧ (sensor.LinkedBothWays owner children ↔
      (∀ field ∈ sensorSpec.endpointFields, field.1 ≠ .spi) ∧
        ∀ binding ∈ sensor.configuredGpioSignals, ∀ id, binding.signal.target = .device id →
          id.asStr ∉ sensor.childIds) := by
  have hbuilds : sensor.configuredDescriptors.isOk = true := by decide +kernel
  cases hbuilt : sensor.configuredDescriptors with
  | error error =>
    rw [hbuilt] at hbuilds
    cases hbuilds
  | ok descriptors =>
    obtain ⟨owner, endpoints, signals, -, rfl⟩ := configuredDescriptors_ok hbuilt
    exact ⟨owner, endpoints ++ signals, rfl, configured_links_iff sensorSpec (by decide) sensor owner _ hbuilt⟩

def flashSpec : ConfiguredDeviceSpec where
  interface := .spi
  id := "example.flash"
  summary := "Configured flash"
  hasBusField := true
  endpointFields := [(.spi, "flash")]

def flash : ConfiguredDevice flashSpec where
  bus := 2

def flashId : DeviceId := ⟨"example.flash.bus2.flash0x00", by decide +kernel⟩

def flashEndpointId : DeviceId := ⟨"example.flash.bus2.flash0x00.endpoint.flash", by decide +kernel⟩

theorem spi_child_is_not_linked : flashSpec.validate = .ok () ∧
    ∃ owner child, flash.configuredDescriptors = .ok [owner, child] ∧ owner.id = flashId ∧
      child.id = flashEndpointId ∧ owner.links = [] ∧ ¬flash.LinkedBothWays owner [child] := by
  have hbuilds : flash.configuredDescriptors.isOk = true := by decide +kernel
  have hchildIds : flash.childIds = [flashEndpointId.asStr] := by decide +kernel
  have hownerId : flash.configuredDeviceId = flashId.asStr := by decide +kernel
  refine ⟨by decide, ?_⟩
  cases hbuilt : flash.configuredDescriptors with
  | error error =>
    rw [hbuilt] at hbuilds
    cases hbuilds
  | ok descriptors =>
    obtain ⟨owner, endpoints, signals, hdescribes, rfl⟩ := configuredDescriptors_ok hbuilt
    obtain ⟨channels, dependencies, howns⟩ := configuredDeviceDescriptor_ok hdescribes.built
    have hids := hdescribes.childIds_eq
    rw [hchildIds, List.map_eq_singleton_iff] at hids
    obtain ⟨child, hchildren, hid⟩ := hids
    have hnone : owner.links = [] := by
      have hchannels : flash.configuredI2cEndpoints = [] := rfl
      have hdependencies : flash.configuredGpioSignals = [] := rfl
      have hempty := howns.channels
      have hempty' := howns.dependencies
      rw [hchannels, List.forall₂_nil_left_iff] at hempty
      rw [hdependencies, List.forall₂_nil_left_iff] at hempty'
      rw [howns.links, hempty, hempty', List.nil_append]
    refine ⟨owner, child, by rw [hchildren], Identifier.asStr_injective (howns.id.trans hownerId),
      Identifier.asStr_injective hid, hnone, ?_⟩
    intro hlinked
    have hlength := hlinked.channels.length_eq
    rw [hnone] at hlength
    cases hlength

end Lemnos.Core.ConfiguredDevice
