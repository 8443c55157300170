import Lemnos.Discovery.Incremental

/-! Runs of probes that report only valid descriptors. They fail if two devices share an id, and for nothing else. -/

namespace Lemnos.Discovery

open Lemnos.Core

variable {context : DiscoveryContext}

def ReportsValid (context : DiscoveryContext) (probe : DiscoveryProbe) : Prop :=
  ∀ discovery, probe.discover context = .ok discovery → ∀ device ∈ discovery.devices, device.validate = .ok ()

theorem selectedInterfaces_single (context : DiscoveryContext) (interface : InterfaceKind) :
    selectedInterfaces context [interface] = if context.wants interface then [interface] else [] := by
  rw [selectedInterfaces]
  split
  · rename_i hall
    rw [DiscoveryContext.wants, hall]
    rfl
  · rw [List.filter_singleton]
    cases context.wants interface <;> rfl

theorem wants_of_selected {interface : InterfaceKind} (h : selectedInterfaces context [interface] ≠ []) :
    context.wants interface = true := by
  rw [selectedInterfaces_single] at h
  by_contra hnot
  exact h (if_neg hnot)

def reported (context : DiscoveryContext) (probes : List DiscoveryProbe) : List DeviceDescriptor :=
  (selectProbes context probes).flatMap (discoveredBy context)

theorem mem_reported {probes : List DiscoveryProbe} {device : DeviceDescriptor} (h : device ∈ reported context probes) :
    ∃ probe ∈ probes, ∃ discovery, probe.discover context = .ok discovery ∧ device ∈ discovery.devices := by
  obtain ⟨selected, hselected, hdevice⟩ := List.mem_flatMap.mp h
  rw [discoveredBy] at hdevice
  cases hdiscovery : selected.probe.discover context with
  | error error =>
    rw [hdiscovery] at hdevice
    cases hdevice
  | ok discovery =>
    rw [hdiscovery] at hdevice
    exact ⟨selected.probe, (mem_selectProbes hselected).1, discovery, hdiscovery, hdevice⟩

theorem processProbeResults_of_reportsValid {selectedProbes : List SelectedProbe}
    (h : ∀ selected ∈ selectedProbes, ReportsValid context selected.probe) (devices : List DeviceDescriptor)
    (probeReports : List ProbeReport) :
    processProbeResults (selectedProbes.map fun selected => (selected, selected.probe.discover context)) devices
      probeReports = .ok (devices ++ selectedProbes.flatMap (discoveredBy context),
        probeReports ++ selectedProbes.map (reportOf context)) := by
  induction selectedProbes generalizing devices probeReports with
  | nil => simp [processProbeResults]
  | cons selected selectedProbes ih =>
    have hrest := ih fun other hother => h other (List.mem_cons_of_mem selected hother)
    have hvalid := h selected List.mem_cons_self
    rw [List.map_cons, processProbeResults, List.flatMap_cons, List.map_cons, discoveredBy, reportOf]
    cases hdiscovery : selected.probe.discover context with
    | error error =>
      simp only [processProbeResult, bind, Except.bind]
      rw [hrest]
      simp
    | ok discovery =>
      have hchecked := (validateDiscovered_ok selected.probe.name discovery.devices).mpr (hvalid discovery hdiscovery)
      simp only [processProbeResult, hchecked, bind, Except.bind, pure, Except.pure]
      rw [hrest]
      simp

theorem runProbes_of_reportsValid {probes : List DiscoveryProbe} (availableParallelism : ℕ)
    (h : ∀ probe ∈ probes, ReportsValid context probe) : runProbes availableParallelism context probes =
      (InventorySnapshot.withObservedAt (reported context probes) context.observedAt).map fun snapshot =>
        { snapshot, probeReports := (selectProbes context probes).map (reportOf context) } := by
  have hprocessed := @processProbeResults_of_reportsValid context (selectProbes context probes)
    (fun selected hselected => h _ (mem_selectProbes hselected).1) [] []
  simp only [runProbes, runSelectedProbes_snd, hprocessed, bind, Except.bind, List.nil_append]
  rw [reported]
  cases InventorySnapshot.withObservedAt ((selectProbes context probes).flatMap (discoveredBy context))
    context.observedAt <;> rfl

theorem runProbes_isOk_iff {probes : List DiscoveryProbe} (availableParallelism : ℕ)
    (h : ∀ probe ∈ probes, ReportsValid context probe) :
    (∃ run, runProbes availableParallelism context probes = .ok run) ↔
      ((reported context probes).map DeviceDescriptor.id).Nodup := by
  have hvalid : ∀ device ∈ reported context probes, device.validate = .ok () := by
    intro device hdevice
    obtain ⟨probe, hprobe, discovery, hdiscovery, hin⟩ := mem_reported hdevice
    exact h probe hprobe discovery hdiscovery device hin
  rw [runProbes_of_reportsValid availableParallelism h]
  constructor
  · rintro ⟨run, hrun⟩
    cases hsnapshot : InventorySnapshot.withObservedAt (reported context probes) context.observedAt with
    | error error =>
      rw [hsnapshot] at hrun
      cases hrun
    | ok snapshot =>
      rw [← (InventorySnapshot.withObservedAt_ok hsnapshot).1]
      exact snapshot.ids_nodup
  · intro hnodup
    rw [InventorySnapshot.withObservedAt_of_valid _ ((validateDevices_ok _).mpr ⟨hvalid, hnodup⟩)]
    exact ⟨_, rfl⟩

theorem runProbes_error {probes : List DiscoveryProbe} {availableParallelism : ℕ} {error : DiscoveryError}
    (h : ∀ probe ∈ probes, ReportsValid context probe)
    (herror : runProbes availableParallelism context probes = .error error) :
    ∃ id, error = .duplicateDeviceId id ∧ 2 ≤ ((reported context probes).map DeviceDescriptor.id).count id := by
  have hvalid : ∀ device ∈ reported context probes, device.validate = .ok () := by
    intro device hdevice
    obtain ⟨probe, hprobe, discovery, hdiscovery, hin⟩ := mem_reported hdevice
    exact h probe hprobe discovery hdiscovery device hin
  rw [runProbes_of_reportsValid availableParallelism h] at herror
  cases hsnapshot : InventorySnapshot.withObservedAt (reported context probes) context.observedAt with
  | ok snapshot =>
    rw [hsnapshot] at herror
    cases herror
  | error found =>
    rw [hsnapshot] at herror
    cases herror
    have hinvalid := InventorySnapshot.withObservedAt_error hsnapshot
    obtain ⟨device, -, rfl⟩ := validateDevicesFrom_error _ _ hvalid hinvalid
    exact ⟨device.id, rfl, validateDevices_duplicate hinvalid⟩

end Lemnos.Discovery
