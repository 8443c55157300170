import Lemnos.Discovery.Inventory
import Lemnos.Library.ChangeLog

namespace Lemnos.Discovery

open Lemnos.Core Library.OrderedMap Library.ChangeLog

def changeOf : InventoryEvent → Change DeviceId DeviceDescriptor
  | .added device => .put device.id device
  | .changed _ current => .put current.id current
  | .removed deviceId => .remove deviceId

namespace InventoryDiff

def ids (diff : InventoryDiff) : List DeviceId :=
  diff.added.map DeviceDescriptor.id ++ diff.changed.map (fun changed => changed.current.id) ++ diff.removed

theorem events_keys (diff : InventoryDiff) :
    (diff.events.map changeOf).map Change.key = diff.ids := by
  simp [events, ids, List.map_map, Function.comp_def, changeOf, Change.key]

theorem isEmpty_iff (diff : InventoryDiff) : diff.isEmpty = true ↔ diff.ids = [] := by
  simp [isEmpty, ids, and_assoc]

end InventoryDiff

section

variable {devices next : List DeviceDescriptor}

theorem mem_diffDevices_ids (id : DeviceId) :
    id ∈ (diffDevices devices next).ids ↔ (devicesById devices)[id]? ≠ (devicesById next)[id]? := by
  simp only [InventoryDiff.ids, List.mem_append, List.mem_map]
  constructor
  · rintro ((⟨device, hadded, rfl⟩ | ⟨changed, hchanged, rfl⟩) | hremoved)
    · obtain ⟨hnext, hnone⟩ := mem_diffDevices_added.mp hadded
      rw [hnext, hnone]
      exact (Option.some_ne_none device).symm
    · obtain ⟨hnext, hprevious, hne⟩ := mem_diffDevices_changed.mp hchanged
      rw [hnext, hprevious]
      exact fun heq => hne (Option.some.inj heq)
    · obtain ⟨hsome, hnone⟩ := mem_diffDevices_removed.mp hremoved
      rw [hnone]
      exact hsome
  · intro hne
    cases hnext : (devicesById next)[id]? with
    | none =>
      rw [hnext] at hne
      exact .inr (mem_diffDevices_removed.mpr ⟨hne, hnext⟩)
    | some device =>
      left
      cases devicesById_id hnext
      cases hprevious : (devicesById devices)[device.id]? with
      | none => exact .inl ⟨device, mem_diffDevices_added.mpr ⟨hnext, hprevious⟩, rfl⟩
      | some previous =>
        refine .inr ⟨⟨previous, device⟩, mem_diffDevices_changed.mpr ⟨hnext, hprevious, ?_⟩, rfl⟩
        intro heq
        exact hne (hprevious.trans ((congrArg some heq).trans hnext.symm))

variable (devices next) in
theorem diffDevices_added_nodup : ((diffDevices devices next).added.map DeviceDescriptor.id).Nodup := by
  apply nodup_filterMap_keys
  intro id device found hnext hpick
  simp only at hpick
  split at hpick
  · cases hpick
    exact devicesById_id hnext
  · cases hpick

variable (devices next) in
theorem diffDevices_changed_nodup :
    ((diffDevices devices next).changed.map (fun changed => changed.current.id)).Nodup := by
  apply nodup_filterMap_keys
  intro id device found hnext hpick
  simp only at hpick
  split at hpick
  · cases hpick
  · split at hpick
    · cases hpick
      exact devicesById_id hnext
    · cases hpick

variable (devices next) in
theorem diffDevices_ids_nodup : (diffDevices devices next).ids.Nodup := by
  have hremoved : (diffDevices devices next).removed.Nodup := Std.ExtTreeMap.nodup_keys.filter _
  apply List.nodup_append.mpr
  refine ⟨List.nodup_append.mpr ⟨diffDevices_added_nodup devices next,
    diffDevices_changed_nodup devices next, ?_⟩, hremoved, ?_⟩
  · -- an added device has no predecessor, a changed one has
    rintro id hadded other hchanged rfl
    obtain ⟨device, hdevice, rfl⟩ := List.mem_map.mp hadded
    obtain ⟨changed, hchange, hid⟩ := List.mem_map.mp hchanged
    have hnone := (mem_diffDevices_added.mp hdevice).2
    rw [← hid, (mem_diffDevices_changed.mp hchange).2.1] at hnone
    cases hnone
  · -- what is added or changed is among the next devices, what is removed is not
    rintro id hpresent other hgone rfl
    have hnone := (mem_diffDevices_removed.mp hgone).2
    rcases List.mem_append.mp hpresent with hadded | hchanged
    · obtain ⟨device, hdevice, rfl⟩ := List.mem_map.mp hadded
      rw [(mem_diffDevices_added.mp hdevice).1] at hnone
      cases hnone
    · obtain ⟨changed, hchange, rfl⟩ := List.mem_map.mp hchanged
      rw [(mem_diffDevices_changed.mp hchange).1] at hnone
      cases hnone

theorem diffDevices_isEmpty_iff :
    (diffDevices devices next).isEmpty = true ↔ devicesById devices = devicesById next := by
  rw [InventoryDiff.isEmpty_iff, List.eq_nil_iff_forall_not_mem]
  constructor
  · intro h
    apply Std.ExtTreeMap.ext_getElem?
    intro id
    have hsame := h id
    rw [mem_diffDevices_ids, not_not] at hsame
    exact hsame
  · intro h id
    rw [mem_diffDevices_ids, h]
    exact fun hne => hne rfl

variable (devices next) in
theorem replay_diffDevices :
    replay (devicesById devices) ((diffDevices devices next).events.map changeOf) = devicesById next := by
  apply replay_eq
  · rw [InventoryDiff.events_keys]
    exact diffDevices_ids_nodup devices next
  · intro touched htouched
    obtain ⟨event, hevent, rfl⟩ := List.mem_map.mp htouched
    simp only [InventoryDiff.events, List.mem_append, List.mem_map] at hevent
    rcases hevent with (⟨device, hadded, rfl⟩ | ⟨changed, hchanged, rfl⟩) | ⟨id, hremoved, rfl⟩
    · exact (mem_diffDevices_added.mp hadded).1
    · exact (mem_diffDevices_changed.mp hchanged).1
    · exact (mem_diffDevices_removed.mp hremoved).2
  · intro id hid
    rw [InventoryDiff.events_keys, mem_diffDevices_ids, not_not] at hid
    exact hid.symm

end

namespace InventorySnapshot

variable {snapshot next : InventorySnapshot}

theorem diff_ids_nodup (snapshot next : InventorySnapshot) : (snapshot.diff next).ids.Nodup :=
  diffDevices_ids_nodup snapshot.devices next.devices

theorem diff_isEmpty_iff : (snapshot.diff next).isEmpty = true ↔ snapshot.byId = next.byId :=
  diffDevices_isEmpty_iff

theorem replay_diff (snapshot next : InventorySnapshot) :
    replay snapshot.byId ((snapshot.diff next).events.map changeOf) = next.byId :=
  replay_diffDevices snapshot.devices next.devices

end InventorySnapshot

end Lemnos.Discovery
