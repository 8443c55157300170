import Lemnos.Discovery.Slots
import Lemnos.Runtime.Ops

namespace Lemnos

open Lemnos.Core Discovery Library.OrderedMap

variable {host : Host} {sys : System} {context : DiscoveryContext} {probes : List DiscoveryProbe}
  {run : DiscoveryRunReport}

def Runtime.CarriesOver (runtime : Runtime) (run : DiscoveryRunReport) (device : DeviceDescriptor) : Prop :=
  device ∈ runtime.inventory.devices ∧
    ∀ probe, runtime.probeInventory.Attributes probe device.interface device.id →
      ¬ run.Refreshes (probe, device.interface)

theorem wasReplacedByRun_eq_false_iff (index : ProbeInventoryIndex) (run : DiscoveryRunReport)
    (device : DeviceDescriptor) : index.wasReplacedByRun device.id device.interface run = false ↔
      ∀ probe, index.Attributes probe device.interface device.id →
        ¬ run.Refreshes (probe, device.interface) := by
  rw [← Bool.not_eq_true, index.wasReplacedByRun_iff]
  constructor
  · rintro hnot probe ha ⟨report, hreport, hs, rfl, hi⟩
    exact hnot ⟨report, hreport, hs, hi, ha⟩
  · rintro hkept ⟨report, hreport, hs, hi, ha⟩
    exact hkept report.probe ha ⟨report, hreport, hs, rfl, hi⟩

theorem Runtime.nextInventory_degraded (runtime : Runtime) (hfail : run.hasProbeFailures = true) :
    runtime.nextInventory run .full = runtime.probeInventory.mergeSnapshot runtime.inventory run := by
  rw [nextInventory, materializeRefreshInventory, if_pos hfail]

theorem Runtime.mem_nextInventory_degraded {runtime : Runtime} {next : InventorySnapshot}
    (hfail : run.hasProbeFailures = true) (hn : runtime.nextInventory run .full = .ok next)
    (device : DeviceDescriptor) :
    device ∈ next.devices ↔ device ∈ run.snapshot.devices ∨ runtime.CarriesOver run device := by
  rw [runtime.nextInventory_degraded hfail] at hn
  rw [ProbeInventoryIndex.mergeSnapshot_mem hn, wasReplacedByRun_eq_false_iff, CarriesOver]
  exact or_comm

theorem System.refresh_of_run (hrunning : sys.runtime.running = true)
    (hrun : runProbes host.availableParallelism context probes = .ok run) :
    sys.refresh host context probes = sys.finishRefresh host run .full := by
  simp [refresh, refreshWithMode, hrunning, hrun]

/-- A full refresh in which probes fail goes through unless a device it carries over was found elsewhere,
and leaves what it found and what it carries over: every known device whose slots it did not refresh. -/
theorem System.degraded_refresh_inventory (host : Host) (sys : System) (context : DiscoveryContext)
    (probes : List DiscoveryProbe) (run : DiscoveryRunReport) (hrunning : sys.runtime.running = true)
    (hrun : runProbes host.availableParallelism context probes = .ok run)
    (hfail : run.hasProbeFailures = true) :
    ((∀ device, sys.runtime.CarriesOver run device →
        device.id ∉ run.snapshot.devices.map DeviceDescriptor.id) →
      ∃ report, (sys.refresh host context probes).1 = .ok report) ∧
    ∀ report, (sys.refresh host context probes).1 = .ok report → ∀ device,
      device ∈ (sys.refresh host context probes).2.runtime.inventory.devices ↔
        device ∈ run.snapshot.devices ∨ sys.runtime.CarriesOver run device := by
  rw [refresh_of_run hrunning hrun]
  cases hn : sys.runtime.nextInventory run .full with
  | error error =>
    have hmerge := hn
    rw [sys.runtime.nextInventory_degraded hfail] at hmerge
    obtain ⟨device, hdevice, -, hkept, hfound⟩ := ProbeInventoryIndex.mergeSnapshot_error hmerge
    have hcarried : sys.runtime.CarriesOver run device :=
      ⟨hdevice, (wasReplacedByRun_eq_false_iff _ _ _).mp hkept⟩
    refine ⟨fun hapart => absurd hfound (hapart device hcarried), ?_⟩
    have hrefused : sys.runtime.prepareRefreshCommit host.layout run .full = .error (.discovery error) := by
      simp [Runtime.prepareRefreshCommit, hrunning, hn]
    rw [finishRefresh_of_error hrefused]
    intro report hok
    cases hok
  | ok next =>
    have hsame := finishRefresh_sameDiscovery host hrunning hn
    rw [Runtime.commitRefresh_snd] at hsame
    refine ⟨fun _ => ⟨_, congrArg Prod.fst (finishRefresh_of_nextInventory hrunning hn)⟩, ?_⟩
    intro _ _ device
    rw [hsame.inventory]
    exact Runtime.mem_nextInventory_degraded hfail hn device

def lineProbe : DiscoveryProbe :=
  ⟨"mock-hardware", [.gpio], fun _ => .ok { devices := [gpioLineDescriptor] }⟩

def failingGpioProbe : DiscoveryProbe :=
  ⟨"failing-gpio", [.gpio], fun _ => .error (.probeFailed "failing-gpio" "temporary probe failure")⟩

def refreshedOnce : System := (System.refresh .quiet {} {} [lineProbe]).2

def failedRun : DiscoveryRunReport :=
  { probeReports := [.failure "failing-gpio" [.gpio] [.gpio]
      (DiscoveryError.probeFailed "failing-gpio" "temporary probe failure").display] }

theorem runProbes_failingGpioProbe :
    runProbes Host.quiet.availableParallelism {} [failingGpioProbe] = .ok failedRun := rfl

theorem System.degraded_refresh_inventory_failing :
    (∃ report, (refreshedOnce.refresh .quiet {} [failingGpioProbe]).1 = .ok report) ∧
    ∀ device, device ∈ (refreshedOnce.refresh .quiet {} [failingGpioProbe]).2.runtime.inventory.devices ↔
      device ∈ failedRun.snapshot.devices ∨ refreshedOnce.runtime.CarriesOver failedRun device := by
  have h := degraded_refresh_inventory .quiet refreshedOnce {} [failingGpioProbe] failedRun rfl
    runProbes_failingGpioProbe rfl
  obtain ⟨report, hok⟩ := h.1 (fun _ _ hfound => by cases hfound)
  exact ⟨⟨report, hok⟩, h.2 report hok⟩

theorem System.degraded_refresh_keeps_foreign_device :
    runProbes Host.quiet.availableParallelism {} [failingGpioProbe] = .ok failedRun ∧
    (∀ device ∈ refreshedOnce.runtime.inventory.devices,
      refreshedOnce.runtime.probeInventory.Attributes lineProbe.name device.interface device.id) ∧
    gpioLineDescriptor ∈
      (refreshedOnce.refresh .quiet {} [failingGpioProbe]).2.runtime.inventory.devices ∧
    gpioLineDescriptor ∉ failedRun.snapshot.devices ∧
    ¬ ∃ report ∈ failedRun.probeReports, report.succeeded = false ∧
      gpioLineDescriptor.interface ∈ report.refreshedInterfaces ∧
      refreshedOnce.runtime.probeInventory.Attributes report.probe gpioLineDescriptor.interface
        gpioLineDescriptor.id :=
  ⟨rfl, by decide⟩

end Lemnos
