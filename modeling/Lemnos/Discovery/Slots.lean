import Mathlib.Data.List.Pairwise
import Lemnos.Discovery.Index

namespace Lemnos.Discovery

open Lemnos.Core Library.OrderedMap

abbrev ProbeSlot := String × InterfaceKind

namespace DiscoveryRunReport

def slotOf (run : DiscoveryRunReport) (deviceId : DeviceId) : Option ProbeSlot := do
  let report ← run.probeReports.find? (fun report =>
    report.succeeded && report.discoveredDeviceIds.contains deviceId)
  let interface ← run.interfacesById[deviceId]?
  pure (report.probe, interface)

def Refreshes (run : DiscoveryRunReport) (slot : ProbeSlot) : Prop :=
  ∃ report ∈ run.probeReports, report.succeeded = true ∧ report.probe = slot.1 ∧
    slot.2 ∈ report.refreshedInterfaces

def foundFor (run : DiscoveryRunReport) (slot : ProbeSlot) : List DeviceDescriptor :=
  run.snapshot.devices.filter (fun device => run.slotOf device.id = some slot)

variable {run : DiscoveryRunReport}

theorem Attributed.report_unique (hrun : run.Attributed) {report report' : ProbeReport} {id : DeviceId}
    (hr : report ∈ run.probeReports) (hr' : report' ∈ run.probeReports)
    (hid : id ∈ report.discoveredDeviceIds) (hid' : id ∈ report'.discoveredDeviceIds) : report = report' := by
  have hnd := run.snapshot.ids_nodup
  rw [hrun.ids_eq, List.nodup_flatMap] at hnd
  have hsymm : Std.Symm (Function.onFun List.Disjoint ProbeReport.discoveredDeviceIds) :=
    ⟨fun _ _ h _ hid hid' => h hid' hid⟩
  by_contra hne
  exact hnd.2.forall hr hr' hne hid hid'

theorem slotOf_eq_some {deviceId : DeviceId} {slot : ProbeSlot} (h : run.slotOf deviceId = some slot) :
    (∃ report ∈ run.probeReports, report.succeeded = true ∧ report.probe = slot.1 ∧
      deviceId ∈ report.discoveredDeviceIds) ∧ run.interfacesById[deviceId]? = some slot.2 := by
  obtain ⟨report, hfind, hinterface⟩ := Option.bind_eq_some_iff.mp h
  obtain ⟨interface, hi, heq⟩ := Option.bind_eq_some_iff.mp hinterface
  cases heq
  have hfound := List.find?_some hfind
  simp only [Bool.and_eq_true, List.contains_iff_mem] at hfound
  exact ⟨⟨report, List.mem_of_find?_eq_some hfind, hfound.1, rfl, hfound.2⟩, hi⟩

theorem slotOf_eq_some_iff (hrun : run.Attributed) (deviceId : DeviceId) (slot : ProbeSlot) :
    run.slotOf deviceId = some slot ↔
      (∃ report ∈ run.probeReports, report.succeeded = true ∧ report.probe = slot.1 ∧
        deviceId ∈ report.discoveredDeviceIds) ∧ run.interfacesById[deviceId]? = some slot.2 := by
  refine ⟨slotOf_eq_some, ?_⟩
  rintro ⟨⟨report, hreport, hs, hp, hid⟩, hi⟩
  cases hfind : run.probeReports.find? (fun report =>
      report.succeeded && report.discoveredDeviceIds.contains deviceId) with
  | none =>
    have hnone := List.find?_eq_none.mp hfind report hreport
    simp [hs, hid] at hnone
  | some found =>
    have hfound := List.find?_some hfind
    simp only [Bool.and_eq_true, List.contains_iff_mem] at hfound
    have hsame := hrun.report_unique (List.mem_of_find?_eq_some hfind) hreport hfound.2 hid
    simp only [slotOf, hfind, hi, hsame]
    exact congrArg some (Prod.ext hp rfl)

theorem slotOf_found (hrun : run.Attributed) {device : DeviceDescriptor}
    (hd : device ∈ run.snapshot.devices) :
    ∃ probe, run.slotOf device.id = some (probe, device.interface) := by
  obtain ⟨report, hreport, hs, hid⟩ := hrun.exists_report hd
  refine ⟨report.probe, (slotOf_eq_some_iff hrun _ _).mpr ⟨⟨report, hreport, hs, rfl, hid⟩, ?_⟩⟩
  exact (run.interfacesById_getElem? device.id device.interface).mpr ⟨device, hd, rfl, rfl⟩

theorem slotOf_device {deviceId : DeviceId} {slot : ProbeSlot} (h : run.slotOf deviceId = some slot) :
    ∃ device ∈ run.snapshot.devices, device.id = deviceId ∧ device.interface = slot.2 :=
  (run.interfacesById_getElem? _ _).mp (slotOf_eq_some h).2

theorem slotOf_not_found {deviceId : DeviceId} (h : ∀ device ∈ run.snapshot.devices, device.id ≠ deviceId) :
    run.slotOf deviceId = none := by
  cases hslot : run.slotOf deviceId with
  | none => rfl
  | some slot =>
    obtain ⟨device, hd, hid, -⟩ := slotOf_device hslot
    exact absurd hid (h device hd)

theorem slotOf_refreshes (hscoped : run.Scoped) {deviceId : DeviceId}
    {slot : ProbeSlot} (h : run.slotOf deviceId = some slot) : run.Refreshes slot := by
  obtain ⟨⟨report, hreport, hs, hp, hid⟩, -⟩ := slotOf_eq_some h
  obtain ⟨device, hd, rfl, hi⟩ := slotOf_device h
  refine ⟨report, hreport, hs, hp, ?_⟩
  rw [← hi]
  exact hscoped report hreport device hd hid

theorem mem_foundFor {slot : ProbeSlot} (device : DeviceDescriptor) : device ∈ run.foundFor slot ↔
    device ∈ run.snapshot.devices ∧ run.slotOf device.id = some slot := by
  rw [foundFor, List.mem_filter, decide_eq_true_eq]

end DiscoveryRunReport

namespace ProbeInventoryIndex

variable {run : DiscoveryRunReport} {index : ProbeInventoryIndex}

theorem recordRun_attributes_iff (hrun : run.Attributed) (index : ProbeInventoryIndex) (probe : String)
    (interface : InterfaceKind) (deviceId : DeviceId) :
    (index.recordRun run).Attributes probe interface deviceId ↔
      run.slotOf deviceId = some (probe, interface) ∨
        (¬ run.Refreshes (probe, interface) ∧ index.Attributes probe interface deviceId) := by
  rw [recordRun_attributes hrun, DiscoveryRunReport.slotOf_eq_some_iff hrun]
  have hkept : (∀ report ∈ run.probeReports, report.succeeded = true → report.probe = probe →
      interface ∉ report.refreshedInterfaces) ↔ ¬ run.Refreshes (probe, interface) := by
    simp [DiscoveryRunReport.Refreshes]
  rw [hkept]
  constructor
  · rintro (⟨report, hreport, hs, hp, hid, hi⟩ | h)
    · exact .inl ⟨⟨report, hreport, hs, hp, hid⟩, hi⟩
    · exact .inr h
  · rintro (⟨⟨report, hreport, hs, hp, hid⟩, hi⟩ | h)
    · exact .inl ⟨report, hreport, hs, hp, hid, hi⟩
    · exact .inr h

theorem fromRun_attributes_iff (hrun : run.Attributed) (probe : String) (interface : InterfaceKind)
    (deviceId : DeviceId) : (fromRun run).Attributes probe interface deviceId ↔
      run.slotOf deviceId = some (probe, interface) := by
  rw [fromRun, recordRun_attributes_iff hrun]
  simp [not_attributes_empty]

theorem wasReplacedByRun_of_refreshes {probe : String} {interface : InterfaceKind} {deviceId : DeviceId}
    (hr : run.Refreshes (probe, interface)) (ha : index.Attributes probe interface deviceId) :
    index.wasReplacedByRun deviceId interface run = true := by
  obtain ⟨report, hreport, hs, hp, hi⟩ := hr
  exact (index.wasReplacedByRun_iff deviceId interface run).mpr ⟨report, hreport, hs, hi, by rwa [hp]⟩

end ProbeInventoryIndex

def Covers (inventory : InventorySnapshot) (index : ProbeInventoryIndex) : Prop :=
  ∀ device ∈ inventory.devices, ∃ probe, index.Attributes probe device.interface device.id

/-- What the index attributes is in the inventory, and under one probe only. -/
structure Exact (inventory : InventorySnapshot) (index : ProbeInventoryIndex) : Prop where
  present : ∀ probe interface id, index.Attributes probe interface id →
    ∃ device ∈ inventory.devices, device.id = id ∧ device.interface = interface
  unique : ∀ probe probe' interface id, index.Attributes probe interface id →
    index.Attributes probe' interface id → probe = probe'

def Shows (inventory : InventorySnapshot) (index : ProbeInventoryIndex) (slot : ProbeSlot)
    (devices : List DeviceDescriptor) : Prop :=
  ∀ device, (device ∈ inventory.devices ∧ device.interface = slot.2 ∧
    index.Attributes slot.1 slot.2 device.id) ↔ device ∈ devices

theorem Shows.congr {inventory : InventorySnapshot} {index : ProbeInventoryIndex} {slot : ProbeSlot}
    {devices devices' : List DeviceDescriptor} (h : Shows inventory index slot devices)
    (hsame : ∀ device, device ∈ devices ↔ device ∈ devices') : Shows inventory index slot devices' :=
  fun device => (h device).trans (hsame device)

section Merge

variable {inventory next : InventorySnapshot} {index : ProbeInventoryIndex} {run : DiscoveryRunReport}

theorem exact_empty (inventory : InventorySnapshot) : Exact inventory {} where
  present := fun _ _ _ h => absurd h (ProbeInventoryIndex.not_attributes_empty _ _ _)
  unique := fun _ _ _ _ h => absurd h (ProbeInventoryIndex.not_attributes_empty _ _ _)

theorem Exact.retained (h : Exact inventory index) {probe : String} {interface : InterfaceKind}
    {deviceId : DeviceId} (ha : index.Attributes probe interface deviceId)
    (hr : ¬ run.Refreshes (probe, interface)) : index.wasReplacedByRun deviceId interface run = false := by
  cases hreplaced : index.wasReplacedByRun deviceId interface run with
  | false => rfl
  | true =>
    obtain ⟨report, hreport, hs, hi, ha'⟩ :=
      (index.wasReplacedByRun_iff deviceId interface run).mp hreplaced
    exact absurd ⟨report, hreport, hs, h.unique _ _ _ _ ha' ha, hi⟩ hr

theorem merge_exact (h : Exact inventory index) (hrun : run.Attributed)
    (hn : index.mergeSnapshot inventory run = .ok next) : Exact next (index.recordRun run) where
  present := by
    intro probe interface id ha
    rcases (ProbeInventoryIndex.recordRun_attributes_iff hrun _ _ _ _).mp ha with hslot | ⟨hr, ha⟩
    · obtain ⟨device, hd, hid, hi⟩ := DiscoveryRunReport.slotOf_device hslot
      exact ⟨device, (ProbeInventoryIndex.mergeSnapshot_mem hn device).mpr (.inr hd), hid, hi⟩
    · obtain ⟨device, hd, rfl, rfl⟩ := h.present _ _ _ ha
      exact ⟨device, (ProbeInventoryIndex.mergeSnapshot_mem hn device).mpr (.inl ⟨hd, h.retained ha hr⟩),
        rfl, rfl⟩
  unique := by
    -- a device that a slot keeps is retained, so the run has not found it under another slot
    have hmixed : ∀ probe probe' interface id, run.slotOf id = some (probe, interface) →
        ¬ run.Refreshes (probe', interface) → ¬ index.Attributes probe' interface id := by
      intro probe probe' interface id hslot hr ha
      obtain ⟨found, hf, hid, -⟩ := DiscoveryRunReport.slotOf_device hslot
      obtain ⟨device, hd, hid', hi⟩ := h.present _ _ _ ha
      refine ProbeInventoryIndex.mergeSnapshot_retained_not_found hn hd ?_ hf (hid'.trans hid.symm)
      rw [hid', hi]
      exact h.retained ha hr
    intro probe probe' interface id ha ha'
    rcases (ProbeInventoryIndex.recordRun_attributes_iff hrun _ _ _ _).mp ha with hslot | ⟨hr, ha⟩
    · rcases (ProbeInventoryIndex.recordRun_attributes_iff hrun _ _ _ _).mp ha' with hslot' | ⟨hr', ha'⟩
      · rw [hslot] at hslot'
        cases hslot'
        rfl
      · exact absurd ha' (hmixed _ _ _ _ hslot hr')
    · rcases (ProbeInventoryIndex.recordRun_attributes_iff hrun _ _ _ _).mp ha' with hslot' | ⟨hr', ha'⟩
      · exact absurd ha (hmixed _ _ _ _ hslot' hr)
      · exact h.unique _ _ _ _ ha ha'

theorem fromRun_exact (hrun : run.Attributed)
    (hfound : ∀ device ∈ run.snapshot.devices, device ∈ inventory.devices) :
    Exact inventory (.fromRun run) where
  present := by
    intro probe interface id ha
    obtain ⟨device, hd, hid, hi⟩ :=
      DiscoveryRunReport.slotOf_device ((ProbeInventoryIndex.fromRun_attributes_iff hrun _ _ _).mp ha)
    exact ⟨device, hfound device hd, hid, hi⟩
  unique := by
    intro probe probe' interface id ha ha'
    rw [ProbeInventoryIndex.fromRun_attributes_iff hrun] at ha ha'
    rw [ha] at ha'
    cases ha'
    rfl

theorem merge_covers (h : Covers inventory index) (hrun : run.Attributed)
    (hn : index.mergeSnapshot inventory run = .ok next) : Covers next (index.recordRun run) := by
  intro device hd
  rcases (ProbeInventoryIndex.mergeSnapshot_mem hn device).mp hd with ⟨hcurrent, hkept⟩ | hf
  · obtain ⟨probe, ha⟩ := h device hcurrent
    refine ⟨probe, (ProbeInventoryIndex.recordRun_attributes_iff hrun _ _ _ _).mpr (.inr ⟨?_, ha⟩)⟩
    intro hr
    rw [ProbeInventoryIndex.wasReplacedByRun_of_refreshes hr ha] at hkept
    cases hkept
  · obtain ⟨probe, hslot⟩ := DiscoveryRunReport.slotOf_found hrun hf
    exact ⟨probe, (ProbeInventoryIndex.recordRun_attributes_iff hrun _ _ _ _).mpr (.inl hslot)⟩

theorem merge_shows_refreshed (hrun : run.Attributed) (hn : index.mergeSnapshot inventory run = .ok next)
    {slot : ProbeSlot} (hr : run.Refreshes slot) :
    Shows next (index.recordRun run) slot (run.foundFor slot) := by
  intro device
  rw [DiscoveryRunReport.mem_foundFor, ProbeInventoryIndex.recordRun_attributes_iff hrun]
  constructor
  · rintro ⟨hd, hi, hslot | ⟨hnot, -⟩⟩
    · obtain ⟨found, hf, hid, -⟩ := DiscoveryRunReport.slotOf_device hslot
      have hmem := (ProbeInventoryIndex.mergeSnapshot_mem hn found).mpr (.inr hf)
      rw [next.eq_of_id_eq hd hmem hid.symm] at hslot ⊢
      exact ⟨hf, hslot⟩
    · exact absurd hr hnot
  · rintro ⟨hf, hslot⟩
    obtain ⟨found, hf', hid, hi⟩ := DiscoveryRunReport.slotOf_device hslot
    rw [← run.snapshot.eq_of_id_eq hf hf' hid.symm] at hi
    exact ⟨(ProbeInventoryIndex.mergeSnapshot_mem hn device).mpr (.inr hf), hi, .inl hslot⟩

theorem merge_shows_kept (h : Exact inventory index) (hrun : run.Attributed) (hscoped : run.Scoped)
    (hn : index.mergeSnapshot inventory run = .ok next) {slot : ProbeSlot} (hr : ¬ run.Refreshes slot)
    {devices : List DeviceDescriptor} (hs : Shows inventory index slot devices) :
    Shows next (index.recordRun run) slot devices := by
  intro device
  rw [← hs device, ProbeInventoryIndex.recordRun_attributes_iff hrun]
  constructor
  · rintro ⟨hd, hi, hslot | ⟨-, ha⟩⟩
    · exact absurd (DiscoveryRunReport.slotOf_refreshes hscoped hslot) hr
    · obtain ⟨kept, hk, hid, hi'⟩ := h.present _ _ _ ha
      have hretained := h.retained ha hr
      rw [← hid, ← hi'] at hretained
      have hmem := (ProbeInventoryIndex.mergeSnapshot_mem hn kept).mpr (.inl ⟨hk, hretained⟩)
      rw [next.eq_of_id_eq hd hmem hid.symm] at ha ⊢
      exact ⟨hk, hi', ha⟩
  · rintro ⟨hd, hi, ha⟩
    have hretained := h.retained ha hr
    rw [← hi] at hretained
    exact ⟨(ProbeInventoryIndex.mergeSnapshot_mem hn device).mpr (.inl ⟨hd, hretained⟩), hi, .inr ⟨hr, ha⟩⟩

theorem fromRun_shows (hrun : run.Attributed) (slot : ProbeSlot) :
    Shows run.snapshot (.fromRun run) slot (run.foundFor slot) := by
  intro device
  rw [DiscoveryRunReport.mem_foundFor, ProbeInventoryIndex.fromRun_attributes_iff hrun]
  constructor
  · rintro ⟨hd, -, hslot⟩
    exact ⟨hd, hslot⟩
  · rintro ⟨hd, hslot⟩
    obtain ⟨found, hf, hid, hi⟩ := DiscoveryRunReport.slotOf_device hslot
    rw [← run.snapshot.eq_of_id_eq hd hf hid.symm] at hi
    exact ⟨hd, hi, hslot⟩

end Merge

end Lemnos.Discovery
