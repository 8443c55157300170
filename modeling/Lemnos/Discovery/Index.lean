import Lemnos.Discovery.Run

namespace Lemnos.Discovery

open Lemnos.Core Library.OrderedMap

abbrev ProbeEntry := BTreeMap InterfaceKind (BTreeSet DeviceId)

structure ProbeInventoryIndex where
  devicesByProbe : BTreeMap String ProbeEntry := ∅
  deriving DecidableEq

def DiscoveryRunReport.interfacesById (run : DiscoveryRunReport) : BTreeMap DeviceId InterfaceKind :=
  BTreeMap.collect (run.snapshot.devices.map (fun device => (device.id, device.interface)))

def resetSlots (entry : ProbeEntry) (interfaces : List InterfaceKind) : ProbeEntry :=
  interfaces.foldl (fun entry interface => entry.insert interface ∅) entry

def recordId (devices : BTreeMap DeviceId InterfaceKind) (entry : ProbeEntry) (deviceId : DeviceId) :
    ProbeEntry :=
  match devices[deviceId]? with
  | some interface => entry.insert interface ((entry[interface]?.getD ∅).insert deviceId)
  | none => entry

namespace ProbeInventoryIndex

def recordReport (devices : BTreeMap DeviceId InterfaceKind) (index : ProbeInventoryIndex)
    (report : ProbeReport) : ProbeInventoryIndex :=
  if !report.succeeded then index
  else
    let probeEntry := resetSlots (index.devicesByProbe[report.probe]?.getD ∅) report.refreshedInterfaces
    let probeEntry := report.discoveredDeviceIds.foldl (recordId devices) probeEntry
    { devicesByProbe := index.devicesByProbe.insert report.probe probeEntry }

def recordRun (index : ProbeInventoryIndex) (run : DiscoveryRunReport) : ProbeInventoryIndex :=
  run.probeReports.foldl (recordReport run.interfacesById) index

def fromRun (run : DiscoveryRunReport) : ProbeInventoryIndex :=
  recordRun {} run

def idsForProbeInterface (index : ProbeInventoryIndex) (probe : String) (interface : InterfaceKind) :
    Option (BTreeSet DeviceId) := do
  let entry ← index.devicesByProbe[probe]?
  entry[interface]?

def wasReplacedByRun (index : ProbeInventoryIndex) (deviceId : DeviceId) (interface : InterfaceKind)
    (run : DiscoveryRunReport) : Bool :=
  run.probeReports.any fun report =>
    report.succeeded && report.refreshedInterfaces.contains interface &&
      (index.idsForProbeInterface report.probe interface).any (fun ids => ids.contains deviceId)

def mergeSnapshot (index : ProbeInventoryIndex) (current : InventorySnapshot) (run : DiscoveryRunReport) :
    DiscoveryResult InventorySnapshot :=
  let retained :=
    current.devices.filter (fun device => !index.wasReplacedByRun device.id device.interface run)
  InventorySnapshot.withObservedAt (retained ++ run.snapshot.devices)
    (run.snapshot.observedAt.or current.observedAt)

def Attributes (index : ProbeInventoryIndex) (probe : String) (interface : InterfaceKind)
    (deviceId : DeviceId) : Prop :=
  ∃ ids, index.idsForProbeInterface probe interface = some ids ∧ deviceId ∈ ids

instance (index : ProbeInventoryIndex) (probe : String) (interface : InterfaceKind) (deviceId : DeviceId) :
    Decidable (index.Attributes probe interface deviceId) :=
  inferInstanceAs (Decidable (∃ ids ∈ index.idsForProbeInterface probe interface, deviceId ∈ ids))

end ProbeInventoryIndex

def EntryAttributes (entry : ProbeEntry) (interface : InterfaceKind) (deviceId : DeviceId) : Prop :=
  ∃ ids, entry[interface]? = some ids ∧ deviceId ∈ ids

theorem resetSlots_attributes (entry : ProbeEntry) (interfaces : List InterfaceKind)
    (interface : InterfaceKind) (deviceId : DeviceId) :
    EntryAttributes (resetSlots entry interfaces) interface deviceId ↔
      interface ∉ interfaces ∧ EntryAttributes entry interface deviceId := by
  induction interfaces generalizing entry with
  | nil => simp [resetSlots]
  | cons i interfaces ih =>
    have hstep : EntryAttributes (entry.insert i ∅) interface deviceId ↔
        interface ≠ i ∧ EntryAttributes entry interface deviceId := by
      unfold EntryAttributes
      rw [BTreeMap.getElem?_insert_eq]
      by_cases h : interface = i <;> simp [h]
    rw [List.mem_cons, not_or]
    have hrest := ih (entry.insert i ∅)
    rw [hstep] at hrest
    exact hrest.trans (by tauto)

theorem recordId_attributes (devices : BTreeMap DeviceId InterfaceKind) (entry : ProbeEntry)
    (recorded : DeviceId) (interface : InterfaceKind) (deviceId : DeviceId) :
    EntryAttributes (recordId devices entry recorded) interface deviceId ↔
      (deviceId = recorded ∧ devices[deviceId]? = some interface) ∨
        EntryAttributes entry interface deviceId := by
  unfold recordId EntryAttributes
  cases hd : devices[recorded]? with
  | none =>
    constructor
    · exact .inr
    · rintro (⟨rfl, h⟩ | h)
      · rw [hd] at h
        cases h
      · exact h
  | some i =>
    simp only [BTreeMap.getElem?_insert_eq]
    by_cases hi : interface = i
    · subst hi
      simp only [if_true, Option.some.injEq, exists_eq_left', BTreeSet.mem_insert_iff]
      cases he : entry[interface]? with
      | none =>
        simp only [Option.getD_none, Std.ExtTreeSet.not_mem_empty, or_false, reduceCtorEq, false_and,
          exists_false]
        constructor
        · rintro rfl
          exact ⟨rfl, hd⟩
        · exact fun h => h.1
      | some ids =>
        simp only [Option.getD_some, Option.some.injEq, exists_eq_left']
        constructor
        · rintro (rfl | h)
          · exact .inl ⟨rfl, hd⟩
          · exact .inr h
        · rintro (h | h)
          · exact .inl h.1
          · exact .inr h
    · rw [if_neg hi]
      constructor
      · exact .inr
      · rintro (⟨rfl, h⟩ | h)
        · rw [hd] at h
          cases h
          exact absurd rfl hi
        · exact h

theorem recordIds_attributes (devices : BTreeMap DeviceId InterfaceKind) (recorded : List DeviceId)
    (entry : ProbeEntry) (interface : InterfaceKind) (deviceId : DeviceId) :
    EntryAttributes (recorded.foldl (recordId devices) entry) interface deviceId ↔
      (deviceId ∈ recorded ∧ devices[deviceId]? = some interface) ∨
        EntryAttributes entry interface deviceId := by
  induction recorded generalizing entry with
  | nil => simp
  | cons id recorded ih =>
    rw [List.foldl_cons, ih, recordId_attributes, List.mem_cons]
    tauto

namespace ProbeInventoryIndex

theorem attributes_iff (index : ProbeInventoryIndex) (probe : String) (interface : InterfaceKind)
    (deviceId : DeviceId) : index.Attributes probe interface deviceId ↔
      EntryAttributes (index.devicesByProbe[probe]?.getD ∅) interface deviceId := by
  unfold Attributes EntryAttributes idsForProbeInterface
  cases index.devicesByProbe[probe]? with
  | none => simp
  | some entry => rfl

theorem not_attributes_empty (probe : String) (interface : InterfaceKind) (deviceId : DeviceId) :
    ¬ Attributes {} probe interface deviceId := by
  simp [attributes_iff, EntryAttributes]

theorem recordReport_attributes (devices : BTreeMap DeviceId InterfaceKind) (index : ProbeInventoryIndex)
    (report : ProbeReport) (probe : String) (interface : InterfaceKind) (deviceId : DeviceId) :
    (recordReport devices index report).Attributes probe interface deviceId ↔
      if report.succeeded = true ∧ report.probe = probe then
        (deviceId ∈ report.discoveredDeviceIds ∧ devices[deviceId]? = some interface) ∨
          (interface ∉ report.refreshedInterfaces ∧ index.Attributes probe interface deviceId)
      else index.Attributes probe interface deviceId := by
  unfold recordReport
  cases hs : report.succeeded with
  | false => simp
  | true =>
    simp only [attributes_iff, Bool.not_true, Bool.false_eq_true, if_false, true_and,
      BTreeMap.getElem?_insert_eq]
    by_cases hp : report.probe = probe
    · subst hp
      simp only [if_true, Option.getD_some, recordIds_attributes, resetSlots_attributes]
    · rw [if_neg (Ne.symm hp), if_neg hp]

theorem recordReports_attributes (devices : BTreeMap DeviceId InterfaceKind) (reports : List ProbeReport)
    (hnames : (reports.map ProbeReport.probe).Nodup) (index : ProbeInventoryIndex) (probe : String)
    (interface : InterfaceKind) (deviceId : DeviceId) :
    (reports.foldl (recordReport devices) index).Attributes probe interface deviceId ↔
      (∃ report ∈ reports, report.succeeded = true ∧ report.probe = probe ∧
          deviceId ∈ report.discoveredDeviceIds ∧ devices[deviceId]? = some interface) ∨
        ((∀ report ∈ reports, report.succeeded = true → report.probe = probe →
            interface ∉ report.refreshedInterfaces) ∧ index.Attributes probe interface deviceId) := by
  induction reports generalizing index with
  | nil => simp
  | cons report reports ih =>
    rw [List.map_cons, List.nodup_cons] at hnames
    rw [List.foldl_cons, ih hnames.2, recordReport_attributes, List.exists_mem_cons_iff,
      List.forall_mem_cons]
    by_cases hp : report.succeeded = true ∧ report.probe = probe
    · obtain ⟨hs, rfl⟩ := hp
      -- a later report of the same probe would repeat its name
      have hother : ∀ r ∈ reports, r.probe ≠ report.probe :=
        fun r hr heq => hnames.1 (heq ▸ List.mem_map_of_mem hr)
      have hnone : ¬ ∃ r ∈ reports, r.succeeded = true ∧ r.probe = report.probe ∧
          deviceId ∈ r.discoveredDeviceIds ∧ devices[deviceId]? = some interface :=
        fun ⟨r, hr, _, heq, _⟩ => hother r hr heq
      have hall : ∀ r ∈ reports, r.succeeded = true → r.probe = report.probe →
          interface ∉ r.refreshedInterfaces := fun r hr _ heq => absurd heq (hother r hr)
      simp only [hs, and_self, if_true, hnone, or_false, false_or, true_and, forall_const]
      tauto
    · have hfound : ¬ (report.succeeded = true ∧ report.probe = probe ∧
          deviceId ∈ report.discoveredDeviceIds ∧ devices[deviceId]? = some interface) :=
        fun h => hp ⟨h.1, h.2.1⟩
      have hreset : report.succeeded = true → report.probe = probe →
          interface ∉ report.refreshedInterfaces := fun hs heq => absurd ⟨hs, heq⟩ hp
      simp only [if_neg hp, hfound, false_or, iff_true_intro hreset, true_and]

theorem recordRun_attributes {run : DiscoveryRunReport} (hrun : run.Attributed) (index : ProbeInventoryIndex)
    (probe : String) (interface : InterfaceKind) (deviceId : DeviceId) :
    (index.recordRun run).Attributes probe interface deviceId ↔
      (∃ report ∈ run.probeReports, report.succeeded = true ∧ report.probe = probe ∧
          deviceId ∈ report.discoveredDeviceIds ∧ run.interfacesById[deviceId]? = some interface) ∨
        ((∀ report ∈ run.probeReports, report.succeeded = true → report.probe = probe →
            interface ∉ report.refreshedInterfaces) ∧ index.Attributes probe interface deviceId) :=
  recordReports_attributes _ _ hrun.names_nodup index probe interface deviceId

end ProbeInventoryIndex

theorem DiscoveryRunReport.interfacesById_getElem? (run : DiscoveryRunReport) (deviceId : DeviceId)
    (interface : InterfaceKind) : run.interfacesById[deviceId]? = some interface ↔
      ∃ device ∈ run.snapshot.devices, device.id = deviceId ∧ device.interface = interface := by
  have hnd :
      ((run.snapshot.devices.map (fun device => (device.id, device.interface))).map Prod.fst).Nodup := by
    rw [List.map_map]
    exact run.snapshot.ids_nodup
  rw [interfacesById, BTreeMap.collect_getElem? _ hnd]
  simp

namespace ProbeInventoryIndex

theorem wasReplacedByRun_iff (index : ProbeInventoryIndex) (deviceId : DeviceId) (interface : InterfaceKind)
    (run : DiscoveryRunReport) : index.wasReplacedByRun deviceId interface run = true ↔
      ∃ report ∈ run.probeReports, report.succeeded = true ∧ interface ∈ report.refreshedInterfaces ∧
        index.Attributes report.probe interface deviceId := by
  simp [wasReplacedByRun, Attributes, and_assoc, Option.any_eq_true]

variable {index : ProbeInventoryIndex} {current next : InventorySnapshot} {run : DiscoveryRunReport}

theorem mergeSnapshot_devices (h : index.mergeSnapshot current run = .ok next) :
    next.devices = current.devices.filter
      (fun device => !index.wasReplacedByRun device.id device.interface run) ++ run.snapshot.devices :=
  (InventorySnapshot.withObservedAt_ok h).1

theorem mergeSnapshot_mem (h : index.mergeSnapshot current run = .ok next) (device : DeviceDescriptor) :
    device ∈ next.devices ↔
      (device ∈ current.devices ∧ index.wasReplacedByRun device.id device.interface run = false) ∨
        device ∈ run.snapshot.devices := by
  rw [mergeSnapshot_devices h, List.mem_append, List.mem_filter, Bool.not_eq_true']

theorem mergeSnapshot_get (h : index.mergeSnapshot current run = .ok next) (id : DeviceId)
    (device : DeviceDescriptor) : next.get id = some device ↔
      (current.get id = some device ∧ index.wasReplacedByRun id device.interface run = false) ∨
        run.snapshot.get id = some device := by
  simp only [InventorySnapshot.get_eq_some, mergeSnapshot_mem h]
  constructor
  · rintro ⟨⟨hc, hr⟩ | hd, rfl⟩
    · exact .inl ⟨⟨hc, rfl⟩, hr⟩
    · exact .inr ⟨hd, rfl⟩
  · rintro (⟨⟨hc, rfl⟩, hr⟩ | ⟨hd, rfl⟩)
    · exact ⟨.inl ⟨hc, hr⟩, rfl⟩
    · exact ⟨.inr hd, rfl⟩

theorem mergeSnapshot_retained_not_found (h : index.mergeSnapshot current run = .ok next)
    {device found : DeviceDescriptor} (hd : device ∈ current.devices)
    (hr : index.wasReplacedByRun device.id device.interface run = false)
    (hf : found ∈ run.snapshot.devices) : device.id ≠ found.id := by
  have hnd := next.ids_nodup
  rw [mergeSnapshot_devices h, List.map_append, List.nodup_append] at hnd
  refine hnd.2.2 device.id (List.mem_map_of_mem ?_) found.id (List.mem_map_of_mem hf)
  exact List.mem_filter.mpr ⟨hd, by rw [hr]; rfl⟩

theorem mergeSnapshot_error {error : DiscoveryError} (h : index.mergeSnapshot current run = .error error) :
    ∃ device ∈ current.devices, error = .duplicateDeviceId device.id ∧
      index.wasReplacedByRun device.id device.interface run = false ∧
        device.id ∈ run.snapshot.devices.map DeviceDescriptor.id := by
  have hv := InventorySnapshot.withObservedAt_error h
  have hcurrent := (validateDevices_ok _).mp current.valid
  have hrun := (validateDevices_ok _).mp run.snapshot.valid
  have hall : ∀ device ∈ current.devices.filter
      (fun device => !index.wasReplacedByRun device.id device.interface run) ++ run.snapshot.devices,
      device.validate = .ok () := by
    intro device hd
    rcases List.mem_append.mp hd with hd | hd
    · exact hcurrent.1 device (List.mem_of_mem_filter hd)
    · exact hrun.1 device hd
  obtain ⟨found, -, rfl⟩ := validateDevicesFrom_error _ ∅ hall hv
  have hcount := validateDevices_duplicate hv
  have hretained : (current.devices.filter (fun device =>
      !index.wasReplacedByRun device.id device.interface run)).map DeviceDescriptor.id |>.Nodup :=
    hcurrent.2.sublist (List.filter_sublist.map _)
  have hle := List.nodup_iff_count_le_one.mp hretained found.id
  have hle' := List.nodup_iff_count_le_one.mp hrun.2 found.id
  rw [List.map_append, List.count_append] at hcount
  have hmem := List.count_pos_iff.mp (show 0 < _ from by omega :
    0 < ((current.devices.filter (fun device =>
      !index.wasReplacedByRun device.id device.interface run)).map DeviceDescriptor.id).count found.id)
  have hmem' := List.count_pos_iff.mp (by omega :
    0 < (run.snapshot.devices.map DeviceDescriptor.id).count found.id)
  obtain ⟨device, hdevice, hid⟩ := List.mem_map.mp hmem
  obtain ⟨hd, hr⟩ := List.mem_filter.mp hdevice
  exact ⟨device, hd, by rw [hid], by simpa using hr, hid ▸ hmem'⟩

end ProbeInventoryIndex

end Lemnos.Discovery
