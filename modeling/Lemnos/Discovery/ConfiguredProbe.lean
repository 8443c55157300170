import Lemnos.Core.ConfiguredDevice
import Lemnos.Discovery.Slots

namespace Lemnos.Discovery

open Lemnos.Core Library.OrderedMap

structure ConfiguredDeviceProbe (T : Type) where
  name : String
  interfaces : List InterfaceKind
  configs : List T

namespace ConfiguredDeviceProbe

variable {T : Type} [ConfiguredDeviceModel T]

def fromConfigs (name : String) (configs : List T) : ConfiguredDeviceProbe T :=
  ⟨name, ConfiguredDeviceModel.configuredInterfaces T, configs⟩

def i2c (name : String) (configs : List T) : ConfiguredDeviceProbe T := ⟨name, [.i2c], configs⟩

def describe (name : String) : List T → DiscoveryResult (List DeviceDescriptor)
  | [] => .ok []
  | config :: configs =>
    match ConfiguredDeviceModel.configuredDescriptors config with
    | .error source => .error (.probeFailed name source.display)
    | .ok descriptors => (describe name configs).map (descriptors ++ ·)

def wantsAny (probe : ConfiguredDeviceProbe T) (context : DiscoveryContext) : Bool :=
  probe.interfaces.any context.wants

def discover (probe : ConfiguredDeviceProbe T) (context : DiscoveryContext) :
    DiscoveryResult ProbeDiscovery :=
  if !probe.wantsAny context then .ok {}
  else (describe probe.name probe.configs).map (fun devices => { devices })

def toDiscoveryProbe (probe : ConfiguredDeviceProbe T) : DiscoveryProbe :=
  ⟨probe.name, probe.interfaces, probe.discover⟩

def Exact (probe : ConfiguredDeviceProbe T) (context : DiscoveryContext) : Prop :=
  ∀ devices, describe probe.name probe.configs = .ok devices →
    probe.discover context = .ok { devices := devices.filter (fun device => context.wants device.interface) }

/-- A run scoped to one interface merges with every snapshot that holds the configured devices of the other
interfaces, and under the ids of those of this interface at most what the index attributes to the slot. -/
def Merges (probe : ConfiguredDeviceProbe T) (context : DiscoveryContext) : Prop :=
  ∀ (interface : InterfaceKind) (availableParallelism : ℕ) (run : DiscoveryRunReport)
    (current : InventorySnapshot) (index : ProbeInventoryIndex) (devices : List DeviceDescriptor),
    (∀ other, context.wants other = true ↔ other = interface) →
    runProbes availableParallelism context [probe.toDiscoveryProbe] = .ok run →
    describe probe.name probe.configs = .ok devices →
    (∀ device ∈ devices, device.interface ≠ interface → device ∈ current.devices) →
    (∀ device ∈ devices, device.interface = interface → ∀ known ∈ current.devices, known.id = device.id →
      known.interface = interface ∧ index.Attributes probe.name interface known.id) →
    ∀ id, index.mergeSnapshot current run ≠ .error (.duplicateDeviceId id)

theorem exact_iff (probe : ConfiguredDeviceProbe T) (context : DiscoveryContext) :
    probe.Exact context ↔ ∀ devices, describe probe.name probe.configs = .ok devices →
      ∀ device ∈ devices, context.wants device.interface = probe.wantsAny context := by
  apply forall_congr'
  intro devices
  apply imp_congr_right
  intro hdevices
  rw [discover]
  cases hany : probe.wantsAny context with
  | false =>
    simp only [Bool.not_false, if_true, Except.ok.injEq, ProbeDiscovery.mk.injEq, and_true]
    rw [eq_comm, List.filter_eq_nil_iff]
    simp only [Bool.not_eq_true]
  | true =>
    rw [hdevices]
    simp only [Bool.not_true, Bool.false_eq_true, if_false, Except.map, Except.ok.injEq,
      ProbeDiscovery.mk.injEq, and_true]
    rw [eq_comm, List.filter_eq_self]

variable {probe : ConfiguredDeviceProbe T} {context : DiscoveryContext}

theorem mem_selectProbes_single {selected : SelectedProbe}
    (h : selected ∈ selectProbes context [probe.toDiscoveryProbe]) :
    selected.probe = probe.toDiscoveryProbe ∧
      selected.refreshedInterfaces = selectedInterfaces context probe.interfaces ∧
      selectedInterfaces context probe.interfaces ≠ [] := by
  obtain ⟨hmem, hselected⟩ := mem_selectProbes h
  have hprobe : selected.probe = probe.toDiscoveryProbe := List.mem_singleton.mp hmem
  obtain ⟨other, hother, hselect⟩ := List.mem_filterMap.mp h
  obtain ⟨-, hne⟩ := selectProbe_eq_some hselect
  rw [hselected, hprobe] at hne
  refine ⟨hprobe, ?_, hne⟩
  rw [hselected, hprobe]
  rfl

theorem exact_merges (h : probe.Exact context) : probe.Merges context := by
  intro interface availableParallelism run current index devices hscoped hrun hdevices _ hknown id herror
  obtain ⟨hsnapshot, hreports, -, -⟩ := runProbes_ok hrun
  obtain ⟨known, hcurrent, -, hkept, hid⟩ := ProbeInventoryIndex.mergeSnapshot_error herror
  obtain ⟨found, hfound, heq⟩ := List.mem_map.mp hid
  rw [hsnapshot] at hfound
  obtain ⟨selected, hselected, hdiscovered⟩ := List.mem_flatMap.mp hfound
  obtain ⟨hprobe, hrefreshed, hne⟩ := mem_selectProbes_single hselected
  have hdiscover : selected.probe.discover context =
      .ok { devices := devices.filter (fun device => context.wants device.interface) } := by
    rw [hprobe]
    exact h devices hdevices
  rw [discoveredBy, hdiscover] at hdiscovered
  obtain ⟨hmem, hwants⟩ := List.mem_filter.mp hdiscovered
  obtain ⟨hinterface, hattributes⟩ :=
    hknown found hmem ((hscoped _).mp hwants) known hcurrent heq.symm
  have hrefreshes : run.Refreshes (probe.name, interface) := by
    refine ⟨reportOf context selected, ?_, ?_, ?_, ?_⟩
    · rw [hreports]
      exact List.mem_map_of_mem hselected
    · rw [reportOf, hdiscover]
      rfl
    · rw [reportOf_probe, hprobe]
      rfl
    · obtain ⟨wanted, hwanted⟩ := List.exists_mem_of_ne_nil _ hne
      have hthis := (hscoped wanted).mp ((mem_selectedInterfaces _ _ _).mp hwanted).2
      rw [reportOf_refreshedInterfaces, hrefreshed]
      exact hthis ▸ hwanted
  rw [hinterface, ProbeInventoryIndex.wasReplacedByRun_of_refreshes hrefreshes hattributes] at hkept
  cases hkept

/-- A configured-device probe honours a context exactly when the context wants the interfaces of all
configured descriptors or of none, in step with whether it wants one of the probe's: the descriptors are
never filtered one by one. -/
theorem honours_context_iff (probe : ConfiguredDeviceProbe T) (context : DiscoveryContext) :
    (probe.Exact context ∧ probe.Merges context) ↔
      ∀ devices, describe probe.name probe.configs = .ok devices →
        ∀ device ∈ devices, context.wants device.interface = probe.wantsAny context := by
  rw [← exact_iff]
  exact ⟨And.left, fun h => ⟨h, exact_merges h⟩⟩

end ConfiguredDeviceProbe

def imuSpec : ConfiguredDeviceSpec where
  interface := .i2c
  id := "configured.imu"
  summary := "Configured inertial sensor"
  hasBusField := true
  endpointFields := [(.i2c, "accel")]
  signalFields := ["accel_int"]

def imu : ConfiguredDevice imuSpec where
  bus := 4
  endpoint := fun _ => 0x18
  signal := fun _ => some { target := .chipLine "gpiochip4" 23 none none }

def imuProbe : ConfiguredDeviceProbe (ConfiguredDevice imuSpec) := .fromConfigs "configured-imu" [imu]

def i2cOnly : DiscoveryContext := { requestedInterfaces := BTreeSet.collect [.i2c] }

def accelInt : DeviceId := ⟨"configured.imu.bus4.accel0x18.signal.accel_int", by decide +kernel⟩

theorem i2c_discovery_of_imu_repeats_signal :
    (imuProbe.discover i2cOnly).map (fun discovery => discovery.devices.map DeviceDescriptor.interface) =
      .ok [.i2c, .i2c, .gpio] ∧
    (do let full ← runProbes 1 {} [imuProbe.toDiscoveryProbe]
        let narrow ← runProbes 1 i2cOnly [imuProbe.toDiscoveryProbe]
        (ProbeInventoryIndex.fromRun full).mergeSnapshot full.snapshot narrow) =
      .error (.duplicateDeviceId accelInt) ∧
    ¬ imuProbe.Exact i2cOnly := by
  have hinterfaces : (imuProbe.discover i2cOnly).map
      (fun discovery => discovery.devices.map DeviceDescriptor.interface) = .ok [.i2c, .i2c, .gpio] := by
    decide +kernel
  refine ⟨hinterfaces, by decide +kernel, ?_⟩
  intro hexact
  rw [ConfiguredDeviceProbe.exact_iff] at hexact
  have hwanted : imuProbe.wantsAny i2cOnly = true := by decide +kernel
  cases hdevices : ConfiguredDeviceProbe.describe imuProbe.name imuProbe.configs with
  | error error =>
    rw [ConfiguredDeviceProbe.discover, hwanted, hdevices] at hinterfaces
    cases hinterfaces
  | ok devices =>
    rw [ConfiguredDeviceProbe.discover, hwanted, hdevices] at hinterfaces
    have heq : devices.map DeviceDescriptor.interface = [.i2c, .i2c, .gpio] := Except.ok.inj hinterfaces
    have hmem : InterfaceKind.gpio ∈ devices.map DeviceDescriptor.interface := by
      rw [heq]
      decide
    obtain ⟨device, hdevice, hgpio⟩ := List.mem_map.mp hmem
    have hwants := hexact devices hdevices device hdevice
    rw [hgpio, hwanted] at hwants
    exact absurd hwants (by decide)

end Lemnos.Discovery
