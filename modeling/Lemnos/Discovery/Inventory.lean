import Lemnos.Core.State

namespace Lemnos

open Lemnos.Core

structure InventoryWatchEvent where
  watcher : String
  interfaces : List InterfaceKind
  paths : List String
  deriving DecidableEq

end Lemnos

namespace Lemnos.Discovery

open Lemnos.Core Library.OrderedMap

inductive DiscoveryError where
  | probeFailed (probe message : String)
  | watchFailed (watcher message : String)
  | invalidDescriptor (probe : String) (deviceId : DeviceId) (source : CoreError)
  | duplicateDeviceId (deviceId : DeviceId)
  deriving DecidableEq

abbrev DiscoveryResult := Except DiscoveryError

def DiscoveryError.display : DiscoveryError → String
  | probeFailed probe message => s!"probe '{probe}' failed: {message}"
  | watchFailed watcher message => s!"watcher '{watcher}' failed: {message}"
  | invalidDescriptor probe deviceId source =>
    s!"probe '{probe}' produced an invalid descriptor '{deviceId}': {source}"
  | duplicateDeviceId deviceId => s!"discovery produced duplicate device id '{deviceId}'"

instance : ToString DiscoveryError := ⟨DiscoveryError.display⟩

def validateDevicesFrom (seen : BTreeSet DeviceId) : List DeviceDescriptor → DiscoveryResult Unit
  | [] => .ok ()
  | device :: devices =>
    match device.validate with
    | .error source => .error (.invalidDescriptor "snapshot" device.id source)
    | .ok () =>
      if device.id ∈ seen then .error (.duplicateDeviceId device.id)
      else validateDevicesFrom (seen.insert device.id) devices

def validateDevices (devices : List DeviceDescriptor) : DiscoveryResult Unit :=
  validateDevicesFrom ∅ devices

theorem validateDevicesFrom_ok (devices : List DeviceDescriptor) (seen : BTreeSet DeviceId) :
    validateDevicesFrom seen devices = .ok () ↔
      (∀ device ∈ devices, device.validate = .ok () ∧ device.id ∉ seen) ∧
        (devices.map DeviceDescriptor.id).Nodup := by
  induction devices generalizing seen with
  | nil => simp [validateDevicesFrom]
  | cons device devices ih =>
    cases hv : device.validate with
    | error source => simp [validateDevicesFrom, hv]
    | ok u =>
      by_cases hs : device.id ∈ seen
      · simp [validateDevicesFrom, hv, hs]
      · simp only [validateDevicesFrom, hv, if_neg hs, ih, BTreeSet.mem_insert_iff, not_or, List.mem_cons,
          forall_eq_or_imp, List.map_cons, List.nodup_cons, List.mem_map, not_exists, not_and]
        constructor
        · rintro ⟨hall, hnd⟩
          exact ⟨⟨⟨trivial, hs⟩, fun d hd => ⟨(hall d hd).1, (hall d hd).2.2⟩⟩,
            fun d hd => (hall d hd).2.1, hnd⟩
        · rintro ⟨⟨-, hall⟩, hne, hnd⟩
          exact ⟨fun d hd => ⟨(hall d hd).1, hne d hd, (hall d hd).2⟩, hnd⟩

theorem validateDevices_ok (devices : List DeviceDescriptor) :
    validateDevices devices = .ok () ↔
      (∀ device ∈ devices, device.validate = .ok ()) ∧ (devices.map DeviceDescriptor.id).Nodup := by
  simp [validateDevices, validateDevicesFrom_ok]

theorem validateDevicesFrom_duplicate (devices : List DeviceDescriptor) (seen : BTreeSet DeviceId)
    {id : DeviceId} (h : validateDevicesFrom seen devices = .error (.duplicateDeviceId id)) :
    (id ∈ seen ∧ 1 ≤ (devices.map DeviceDescriptor.id).count id) ∨
      2 ≤ (devices.map DeviceDescriptor.id).count id := by
  induction devices generalizing seen with
  | nil => cases h
  | cons device devices ih =>
    cases hv : device.validate with
    | error source => simp [validateDevicesFrom, hv] at h
    | ok u =>
      by_cases hs : device.id ∈ seen
      · simp only [validateDevicesFrom, hv, if_pos hs, Except.error.injEq,
          DiscoveryError.duplicateDeviceId.injEq] at h
        subst h
        exact .inl ⟨hs, by simp⟩
      · simp only [validateDevicesFrom, hv, if_neg hs] at h
        rw [List.map_cons, List.count_cons]
        rcases ih _ h with ⟨hmem, hcount⟩ | hcount
        · rcases (BTreeSet.mem_insert_iff _ _ _).mp hmem with rfl | hmem
          · right
            rw [beq_self_eq_true, if_pos rfl]
            omega
          · exact .inl ⟨hmem, by omega⟩
        · exact .inr (by omega)

theorem validateDevices_duplicate {devices : List DeviceDescriptor} {id : DeviceId}
    (h : validateDevices devices = .error (.duplicateDeviceId id)) :
    2 ≤ (devices.map DeviceDescriptor.id).count id := by
  rcases validateDevicesFrom_duplicate devices ∅ h with ⟨hmem, -⟩ | hcount
  · exact absurd hmem Std.ExtTreeSet.not_mem_empty
  · exact hcount

theorem validateDevicesFrom_error (devices : List DeviceDescriptor) (seen : BTreeSet DeviceId)
    {error : DiscoveryError} (hall : ∀ device ∈ devices, device.validate = .ok ())
    (h : validateDevicesFrom seen devices = .error error) :
    ∃ device ∈ devices, error = .duplicateDeviceId device.id := by
  induction devices generalizing seen with
  | nil => cases h
  | cons device devices ih =>
    by_cases hs : device.id ∈ seen
    · simp only [validateDevicesFrom, hall device List.mem_cons_self, if_pos hs, Except.error.injEq] at h
      exact ⟨device, List.mem_cons_self, h.symm⟩
    · simp only [validateDevicesFrom, hall device List.mem_cons_self, if_neg hs] at h
      obtain ⟨d, hd, he⟩ := ih _ (fun d hd => hall d (List.mem_cons_of_mem device hd)) h
      exact ⟨d, List.mem_cons_of_mem device hd, he⟩

theorem validateDevices_nil : validateDevices [] = .ok () := rfl

structure InventorySnapshot where
  observedAt : Option TimestampMs := none
  devices : List DeviceDescriptor := []
  valid : validateDevices devices = .ok () := by exact validateDevices_nil
  deriving DecidableEq

structure ChangedDevice where
  previous : DeviceDescriptor
  current : DeviceDescriptor
  deriving DecidableEq

structure InventoryDiff where
  added : List DeviceDescriptor := []
  changed : List ChangedDevice := []
  removed : List DeviceId := []
  deriving DecidableEq

def devicesById (devices : List DeviceDescriptor) : BTreeMap DeviceId DeviceDescriptor :=
  BTreeMap.collect (devices.map (fun device => (device.id, device)))

def diffDevices (devices next : List DeviceDescriptor) : InventoryDiff where
  added := (devicesById next).toList.filterMap fun (id, device) =>
    match (devicesById devices)[id]? with
    | none => some device
    | some _ => none
  changed := (devicesById next).toList.filterMap fun (id, device) =>
    match (devicesById devices)[id]? with
    | none => none
    | some previous => if previous ≠ device then some ⟨previous, device⟩ else none
  removed := (devicesById devices).keys.filter fun id => !(devicesById next).contains id

section

variable {devices next : List DeviceDescriptor}

theorem devicesById_id {deviceId : DeviceId} {device : DeviceDescriptor}
    (h : (devicesById devices)[deviceId]? = some device) : device.id = deviceId := by
  obtain ⟨found, -, heq⟩ := List.mem_map.mp (BTreeMap.mem_of_collect_getElem? h)
  cases heq
  rfl

theorem devicesById_getElem? (hnd : (devices.map DeviceDescriptor.id).Nodup) (deviceId : DeviceId)
    (device : DeviceDescriptor) :
    (devicesById devices)[deviceId]? = some device ↔ device ∈ devices ∧ device.id = deviceId := by
  have hkeys : ((devices.map (fun device => (device.id, device))).map Prod.fst).Nodup := by
    rw [List.map_map]
    exact hnd
  rw [devicesById, BTreeMap.collect_getElem? _ hkeys, List.mem_map]
  constructor
  · rintro ⟨d, hd, heq⟩
    cases heq
    exact ⟨hd, rfl⟩
  · rintro ⟨hd, rfl⟩
    exact ⟨device, hd, rfl⟩

theorem mem_diffDevices_added {device : DeviceDescriptor} :
    device ∈ (diffDevices devices next).added ↔
      (devicesById next)[device.id]? = some device ∧ (devicesById devices)[device.id]? = none := by
  simp only [diffDevices, List.mem_filterMap, Prod.exists, Std.ExtTreeMap.mem_toList_iff_getElem?_eq_some]
  constructor
  · rintro ⟨id, d, hnext, hd⟩
    cases hs : (devicesById devices)[id]? with
    | none =>
      rw [hs] at hd
      cases hd
      cases devicesById_id hnext
      exact ⟨hnext, hs⟩
    | some p =>
      rw [hs] at hd
      cases hd
  · rintro ⟨hnext, hs⟩
    exact ⟨device.id, device, hnext, by rw [hs]⟩

theorem mem_diffDevices_changed {change : ChangedDevice} :
    change ∈ (diffDevices devices next).changed ↔
      (devicesById next)[change.current.id]? = some change.current ∧
        (devicesById devices)[change.current.id]? = some change.previous ∧ change.previous ≠ change.current := by
  simp only [diffDevices, List.mem_filterMap, Prod.exists, Std.ExtTreeMap.mem_toList_iff_getElem?_eq_some]
  constructor
  · rintro ⟨id, d, hnext, hd⟩
    cases hs : (devicesById devices)[id]? with
    | none =>
      rw [hs] at hd
      cases hd
    | some p =>
      rw [hs] at hd
      by_cases hp : p = d
      · simp [hp] at hd
      · simp only [ne_eq, hp, not_false_eq_true, if_true] at hd
        cases hd
        cases devicesById_id hnext
        exact ⟨hnext, hs, hp⟩
  · rintro ⟨hnext, hs, hne⟩
    exact ⟨change.current.id, change.current, hnext, by rw [hs]; exact if_pos hne⟩

theorem mem_diffDevices_removed {id : DeviceId} :
    id ∈ (diffDevices devices next).removed ↔
      (devicesById devices)[id]? ≠ none ∧ (devicesById next)[id]? = none := by
  simp only [diffDevices, List.mem_filter, Std.ExtTreeMap.mem_keys, Bool.not_eq_eq_eq_not, Bool.not_true]
  rw [← Bool.not_eq_true, Std.ExtTreeMap.contains_iff_mem, BTreeMap.not_mem_iff, ne_eq,
    ← BTreeMap.not_mem_iff (devicesById devices), not_not]

end

namespace InventorySnapshot

def withObservedAt (devices : List DeviceDescriptor) (observedAt : Option TimestampMs) :
    DiscoveryResult InventorySnapshot :=
  match h : validateDevices devices with
  | .ok () => .ok ⟨observedAt, devices, h⟩
  | .error error => .error error

theorem withObservedAt_ok {devices : List DeviceDescriptor} {observedAt : Option TimestampMs}
    {snapshot : InventorySnapshot} (h : withObservedAt devices observedAt = .ok snapshot) :
    snapshot.devices = devices ∧ snapshot.observedAt = observedAt := by
  unfold withObservedAt at h
  split at h
  · cases h
    exact ⟨rfl, rfl⟩
  · cases h

theorem withObservedAt_of_valid {devices : List DeviceDescriptor} (observedAt : Option TimestampMs)
    (h : validateDevices devices = .ok ()) :
    withObservedAt devices observedAt = .ok ⟨observedAt, devices, h⟩ := by
  unfold withObservedAt
  split
  · rfl
  · simp_all

theorem withObservedAt_error {devices : List DeviceDescriptor} {observedAt : Option TimestampMs}
    {error : DiscoveryError} (h : withObservedAt devices observedAt = .error error) :
    validateDevices devices = .error error := by
  unfold withObservedAt at h
  split at h
  · cases h
  · simp_all

variable (snapshot : InventorySnapshot)

theorem ids_nodup : (snapshot.devices.map DeviceDescriptor.id).Nodup :=
  ((validateDevices_ok _).mp snapshot.valid).2

def get (deviceId : DeviceId) : Option DeviceDescriptor :=
  snapshot.devices.find? (fun device => device.id = deviceId)

def contains (deviceId : DeviceId) : Bool :=
  (snapshot.get deviceId).isSome

theorem eq_of_id_eq {device device' : DeviceDescriptor} (hd : device ∈ snapshot.devices)
    (hd' : device' ∈ snapshot.devices) (hid : device.id = device'.id) : device = device' :=
  List.inj_on_of_nodup_map snapshot.ids_nodup hd hd' hid

theorem get_eq_some (deviceId : DeviceId) (device : DeviceDescriptor) :
    snapshot.get deviceId = some device ↔ device ∈ snapshot.devices ∧ device.id = deviceId := by
  constructor
  · intro h
    exact ⟨List.mem_of_find?_eq_some h, by simpa using List.find?_some h⟩
  · rintro ⟨hd, rfl⟩
    cases h : snapshot.get device.id with
    | none =>
      have hnone := List.find?_eq_none.mp h device hd
      simp at hnone
    | some found =>
      have hid : found.id = device.id := by simpa using List.find?_some h
      rw [snapshot.eq_of_id_eq (List.mem_of_find?_eq_some h) hd hid]

theorem get_id {deviceId : DeviceId} {device : DeviceDescriptor} (h : snapshot.get deviceId = some device) :
    device.id = deviceId :=
  ((snapshot.get_eq_some deviceId device).mp h).2

def byId : BTreeMap DeviceId DeviceDescriptor :=
  devicesById snapshot.devices

theorem byId_getElem? (deviceId : DeviceId) : snapshot.byId[deviceId]? = snapshot.get deviceId := by
  apply Option.ext
  intro device
  rw [byId, devicesById_getElem? snapshot.ids_nodup, get_eq_some]

def diff (next : InventorySnapshot) : InventoryDiff :=
  diffDevices snapshot.devices next.devices

variable {snapshot} {next : InventorySnapshot}

theorem mem_diff_added {device : DeviceDescriptor} :
    device ∈ (snapshot.diff next).added ↔
      next.get device.id = some device ∧ snapshot.get device.id = none := by
  rw [← byId_getElem?, ← byId_getElem?]
  exact mem_diffDevices_added

theorem mem_diff_changed {change : ChangedDevice} :
    change ∈ (snapshot.diff next).changed ↔
      next.get change.current.id = some change.current ∧
        snapshot.get change.current.id = some change.previous ∧ change.previous ≠ change.current := by
  rw [← byId_getElem?, ← byId_getElem?]
  exact mem_diffDevices_changed

theorem mem_diff_removed {id : DeviceId} :
    id ∈ (snapshot.diff next).removed ↔ snapshot.get id ≠ none ∧ next.get id = none := by
  rw [← byId_getElem?, ← byId_getElem?]
  exact mem_diffDevices_removed

end InventorySnapshot

namespace InventoryDiff

def isEmpty (diff : InventoryDiff) : Bool :=
  diff.added.isEmpty && diff.changed.isEmpty && diff.removed.isEmpty

def events (diff : InventoryDiff) : List InventoryEvent :=
  diff.added.map .added ++ diff.changed.map (fun change => .changed change.previous change.current)
    ++ diff.removed.map .removed

theorem removed_mem_events (diff : InventoryDiff) (id : DeviceId) :
    .removed id ∈ diff.events ↔ id ∈ diff.removed := by
  simp [events]

end InventoryDiff

end Lemnos.Discovery
