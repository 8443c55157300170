import Lemnos.Discovery.Slots

namespace Lemnos.Discovery

open Lemnos.Core Library.OrderedMap

abbrev ProbeSpec := String × List InterfaceKind

abbrev Answers := String → DiscoveryResult (List DeviceDescriptor)

def ProbeSpec.probe (answers : Answers) (spec : ProbeSpec) : DiscoveryProbe where
  name := spec.1
  interfaces := spec.2
  discover := fun context =>
    match answers spec.1 with
    | .ok devices =>
      .ok { devices := devices.filter (fun device => device.interface ∈ selectedInterfaces context spec.2) }
    | .error error => .error error

variable {answers : Answers} {specs : List ProbeSpec} {context : DiscoveryContext} {availableParallelism : ℕ}
  {run : DiscoveryRunReport}

theorem ProbeSpec.probe_honours (answers : Answers) (spec : ProbeSpec) (context : DiscoveryContext) :
    (spec.probe answers).Honours context := by
  intro discovery hdiscovery device hd
  simp only [ProbeSpec.probe] at hdiscovery
  split at hdiscovery
  · cases hdiscovery
    exact of_decide_eq_true (List.mem_filter.mp hd).2
  · cases hdiscovery

theorem observed_attributed (hnames : (specs.map Prod.fst).Nodup)
    (h : runProbes availableParallelism context (specs.map (ProbeSpec.probe answers)) = .ok run) :
    run.Attributed := by
  refine runProbes_attributed h ?_
  rw [List.map_map]
  exact hnames

theorem observed_scoped
    (h : runProbes availableParallelism context (specs.map (ProbeSpec.probe answers)) = .ok run) :
    run.Scoped := by
  refine runProbes_scoped h ?_
  intro probe hprobe
  obtain ⟨spec, -, rfl⟩ := List.mem_map.mp hprobe
  exact spec.probe_honours answers context

theorem mem_selectProbes_observed (selected : SelectedProbe) :
    selected ∈ selectProbes context (specs.map (ProbeSpec.probe answers)) ↔
      ∃ spec ∈ specs, selectedInterfaces context spec.2 ≠ [] ∧
        selected = ⟨spec.probe answers, spec.2, selectedInterfaces context spec.2⟩ := by
  rw [selectProbes, List.mem_filterMap]
  constructor
  · rintro ⟨probe, hprobe, hselected⟩
    obtain ⟨spec, hspec, rfl⟩ := List.mem_map.mp hprobe
    obtain ⟨rfl, hne⟩ := selectProbe_eq_some hselected
    exact ⟨spec, hspec, hne, rfl⟩
  · rintro ⟨spec, hspec, hne, rfl⟩
    refine ⟨spec.probe answers, List.mem_map_of_mem hspec, ?_⟩
    simp [selectProbe, ProbeSpec.probe, hne]

theorem reportOf_observed_succeeded (spec : ProbeSpec) (interfaces refreshed : List InterfaceKind) :
    (reportOf context ⟨spec.probe answers, interfaces, refreshed⟩).succeeded = true ↔
      ∃ devices, answers spec.1 = .ok devices := by
  cases ha : answers spec.1 with
  | ok devices => simp [reportOf, ProbeSpec.probe, ha, ProbeReport.success, ProbeReport.succeeded]
  | error error => simp [reportOf, ProbeSpec.probe, ha, ProbeReport.failure, ProbeReport.succeeded]

theorem discoveredBy_observed {spec : ProbeSpec} {devices : List DeviceDescriptor}
    (ha : answers spec.1 = .ok devices) (interfaces refreshed : List InterfaceKind) :
    discoveredBy context ⟨spec.probe answers, interfaces, refreshed⟩ =
      devices.filter (fun device => device.interface ∈ selectedInterfaces context spec.2) := by
  simp [discoveredBy, ProbeSpec.probe, ha]

theorem observed_refreshes_iff
    (h : runProbes availableParallelism context (specs.map (ProbeSpec.probe answers)) = .ok run)
    (slot : ProbeSlot) : run.Refreshes slot ↔
      ∃ spec ∈ specs, spec.1 = slot.1 ∧ slot.2 ∈ selectedInterfaces context spec.2 ∧
        ∃ devices, answers spec.1 = .ok devices := by
  obtain ⟨-, hreports, -, -⟩ := runProbes_ok h
  unfold DiscoveryRunReport.Refreshes
  rw [hreports]
  constructor
  · rintro ⟨report, hreport, hs, hp, hi⟩
    obtain ⟨selected, hselected, rfl⟩ := List.mem_map.mp hreport
    obtain ⟨spec, hspec, -, rfl⟩ := (mem_selectProbes_observed selected).mp hselected
    rw [reportOf_refreshedInterfaces] at hi
    rw [reportOf_probe] at hp
    exact ⟨spec, hspec, hp, hi, (reportOf_observed_succeeded spec _ _).mp hs⟩
  · rintro ⟨spec, hspec, hp, hi, hanswer⟩
    have hselected := (@mem_selectProbes_observed answers specs context _).mpr
      ⟨spec, hspec, List.ne_nil_of_mem hi, rfl⟩
    refine ⟨_, List.mem_map_of_mem hselected, (reportOf_observed_succeeded spec _ _).mpr hanswer, ?_, ?_⟩
    · rw [reportOf_probe]
      exact hp
    · rw [reportOf_refreshedInterfaces]
      exact hi

theorem observed_clean_refreshes
    (h : runProbes availableParallelism context (specs.map (ProbeSpec.probe answers)) = .ok run)
    (hclean : run.hasProbeFailures = false) {spec : ProbeSpec} (hspec : spec ∈ specs)
    {interface : InterfaceKind} (hi : interface ∈ selectedInterfaces context spec.2) :
    run.Refreshes (spec.1, interface) := by
  obtain ⟨-, hreports, -, -⟩ := runProbes_ok h
  have hselected := (@mem_selectProbes_observed answers specs context _).mpr
    ⟨spec, hspec, List.ne_nil_of_mem hi, rfl⟩
  have hreport : reportOf context ⟨spec.probe answers, spec.2, selectedInterfaces context spec.2⟩ ∈
      run.probeReports := by
    rw [hreports]
    exact List.mem_map_of_mem hselected
  have hs := run.hasProbeFailures_eq_false.mp hclean _ hreport
  exact (observed_refreshes_iff h _).mpr ⟨spec, hspec, rfl, hi, (reportOf_observed_succeeded spec _ _).mp hs⟩

theorem observed_foundFor (hnames : (specs.map Prod.fst).Nodup)
    (h : runProbes availableParallelism context (specs.map (ProbeSpec.probe answers)) = .ok run)
    {slot : ProbeSlot} (hr : run.Refreshes slot) {devices : List DeviceDescriptor}
    (ha : answers slot.1 = .ok devices) (device : DeviceDescriptor) :
    device ∈ run.foundFor slot ↔ device ∈ devices ∧ device.interface = slot.2 := by
  have hrun : run.Attributed := observed_attributed hnames h
  obtain ⟨hdevices, hreports, -, -⟩ := runProbes_ok h
  have hmem : ∀ spec ∈ specs, selectedInterfaces context spec.2 ≠ [] → ∀ found,
      found ∈ discoveredBy context ⟨spec.probe answers, spec.2, selectedInterfaces context spec.2⟩ →
        found ∈ run.snapshot.devices := by
    intro spec hspec hne found hfound
    rw [hdevices]
    exact List.mem_flatMap.mpr ⟨_, (mem_selectProbes_observed _).mpr ⟨spec, hspec, hne, rfl⟩, hfound⟩
  rw [DiscoveryRunReport.mem_foundFor]
  constructor
  · rintro ⟨hd, hslot⟩
    obtain ⟨⟨report, hreport, -, hp, hid⟩, -⟩ := DiscoveryRunReport.slotOf_eq_some hslot
    obtain ⟨other, hother, hid', hi⟩ := DiscoveryRunReport.slotOf_device hslot
    rw [← run.snapshot.eq_of_id_eq hd hother hid'.symm] at hi
    rw [hreports] at hreport
    obtain ⟨selected, hselected, rfl⟩ := List.mem_map.mp hreport
    obtain ⟨spec, hspec, hne, rfl⟩ := (mem_selectProbes_observed selected).mp hselected
    rw [reportOf_probe] at hp
    rw [← discoveredBy_ids] at hid
    obtain ⟨found, hfound, heq⟩ := List.mem_map.mp hid
    rw [run.snapshot.eq_of_id_eq (hmem spec hspec hne found hfound) hd heq] at hfound
    rw [discoveredBy_observed (by rw [← ha, ← hp]; rfl)] at hfound
    exact ⟨(List.mem_filter.mp hfound).1, hi⟩
  · rintro ⟨hd, hi⟩
    obtain ⟨spec, hspec, hp, hselected, -⟩ := (observed_refreshes_iff h slot).mp hr
    have hfound : device ∈ discoveredBy context
        ⟨spec.probe answers, spec.2, selectedInterfaces context spec.2⟩ := by
      rw [discoveredBy_observed (by rw [hp]; exact ha), List.mem_filter, decide_eq_true_eq, hi]
      exact ⟨hd, hselected⟩
    have hne := List.ne_nil_of_mem hselected
    have hsnapshot := hmem spec hspec hne device hfound
    refine ⟨hsnapshot, (DiscoveryRunReport.slotOf_eq_some_iff hrun _ _).mpr ⟨?_, ?_⟩⟩
    · refine ⟨reportOf context ⟨spec.probe answers, spec.2, selectedInterfaces context spec.2⟩, ?_, ?_, ?_, ?_⟩
      · rw [hreports]
        exact List.mem_map_of_mem ((mem_selectProbes_observed _).mpr ⟨spec, hspec, hne, rfl⟩)
      · exact (reportOf_observed_succeeded spec _ _).mpr ⟨devices, by rw [hp]; exact ha⟩
      · rw [reportOf_probe]
        exact hp
      · rw [← discoveredBy_ids]
        exact List.mem_map_of_mem hfound
    · exact (run.interfacesById_getElem? _ _).mpr ⟨device, hsnapshot, rfl, hi⟩

end Lemnos.Discovery
