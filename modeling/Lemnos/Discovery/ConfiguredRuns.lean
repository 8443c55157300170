import Lemnos.Core.ConfiguredIds
import Lemnos.Discovery.ConfiguredProbe

namespace Lemnos.Discovery

open Lemnos.Core Library.OrderedMap Library.Separated ConfiguredDevice

theorem validateDiscovered_error {probe : String} {devices : List DeviceDescriptor} {error : DiscoveryError}
    (h : validateDiscovered probe devices = .error error) (id : DeviceId) : error ≠ .duplicateDeviceId id := by
  induction devices with
  | nil => cases h
  | cons device devices ih =>
    rw [validateDiscovered] at h
    split at h
    · cases h
      exact fun heq => by cases heq
    · exact ih h

theorem processProbeResults_error {results : List (SelectedProbe × DiscoveryResult ProbeDiscovery)}
    {devices : List DeviceDescriptor} {probeReports : List ProbeReport} {error : DiscoveryError}
    (h : processProbeResults results devices probeReports = .error error) (id : DeviceId) :
    error ≠ .duplicateDeviceId id := by
  induction results generalizing devices probeReports with
  | nil => cases h
  | cons result results ih =>
    obtain ⟨selectedProbe, discovery⟩ := result
    rw [processProbeResults] at h
    cases discovery with
    | error failure =>
      simp only [processProbeResult] at h
      exact ih h
    | ok discovery =>
      simp only [processProbeResult] at h
      cases hvalid : validateDiscovered selectedProbe.probe.name discovery.devices with
      | error failure =>
        rw [hvalid] at h
        cases h
        exact validateDiscovered_error hvalid id
      | ok u =>
        rw [hvalid] at h
        exact ih h

theorem runProbes_duplicate {availableParallelism : ℕ} {context : DiscoveryContext}
    {probes : List DiscoveryProbe} {id : DeviceId}
    (h : runProbes availableParallelism context probes = .error (.duplicateDeviceId id)) :
    ¬(((selectProbes context probes).flatMap (discoveredBy context)).map DeviceDescriptor.id).Nodup := by
  simp only [runProbes, runSelectedProbes_snd] at h
  cases hprocessed : processProbeResults ((selectProbes context probes).map
      fun selected => (selected, selected.probe.discover context)) [] [] with
  | error error =>
    rw [hprocessed] at h
    cases h
    exact absurd rfl (processProbeResults_error hprocessed id)
  | ok result =>
    obtain ⟨found, reports⟩ := result
    obtain ⟨rfl, rfl⟩ := processProbeResults_ok hprocessed
    rw [hprocessed] at h
    simp only [bind, Except.bind, List.nil_append] at h
    cases hsnapshot : InventorySnapshot.withObservedAt ((selectProbes context probes).flatMap
        (discoveredBy context)) context.observedAt with
    | ok snapshot =>
      rw [hsnapshot] at h
      cases h
    | error error =>
      rw [hsnapshot] at h
      cases h
      intro hnodup
      have hcount := validateDevices_duplicate (InventorySnapshot.withObservedAt_error hsnapshot)
      have hone := List.nodup_iff_count_le_one.mp hnodup id
      omega

section Configured

variable {spec : ConfiguredDeviceSpec} {name : String}

theorem describe_cons_ok {config : ConfiguredDevice spec} {configs : List (ConfiguredDevice spec)}
    {devices : List DeviceDescriptor}
    (h : ConfiguredDeviceProbe.describe name (config :: configs) = .ok devices) :
    ∃ descriptors rest, config.configuredDescriptors = .ok descriptors ∧
      ConfiguredDeviceProbe.describe name configs = .ok rest ∧ devices = descriptors ++ rest := by
  rw [ConfiguredDeviceProbe.describe] at h
  split at h
  · cases h
  · rename_i descriptors hdescriptors
    cases hrest : ConfiguredDeviceProbe.describe name configs with
    | error error =>
      rw [hrest] at h
      cases h
    | ok rest =>
      rw [hrest] at h
      cases h
      exact ⟨descriptors, rest, hdescriptors, rfl, rfl⟩

theorem exists_of_mem_describe {configs : List (ConfiguredDevice spec)} {devices : List DeviceDescriptor}
    (h : ConfiguredDeviceProbe.describe name configs = .ok devices) {device : DeviceDescriptor}
    (hdevice : device ∈ devices) : ∃ config ∈ configs, ∃ rest, IsRest '.' rest ∧
      device.id.asStr.toList = config.configuredDeviceId.toList ++ rest := by
  induction configs generalizing devices with
  | nil =>
    cases h
    cases hdevice
  | cons config configs ih =>
    obtain ⟨descriptors, rest, hdescriptors, hrest, rfl⟩ := describe_cons_ok h
    rcases List.mem_append.mp hdevice with hfirst | hlater
    · obtain ⟨owner, endpoints, signals, hdescribes, rfl⟩ := configuredDescriptors_ok hdescriptors
      have hmem := List.mem_map_of_mem (f := fun device => device.id.asStr.toList) hfirst
      rw [hdescribes.idTexts] at hmem
      obtain ⟨tail, htail, heq⟩ := List.mem_map.mp hmem
      exact ⟨config, List.mem_cons_self, tail, isRest_of_mem htail, heq.symm⟩
    · obtain ⟨other, hother, found⟩ := ih hrest hlater
      exact ⟨other, List.mem_cons_of_mem config hother, found⟩

theorem describe_ids_nodup (hspec : spec.Accepted) {configs : List (ConfiguredDevice spec)}
    (hdiffer : configs.Pairwise fun a b => ¬SameHardware a b) {devices : List DeviceDescriptor}
    (h : ConfiguredDeviceProbe.describe name configs = .ok devices) :
    (devices.map DeviceDescriptor.id).Nodup := by
  have htexts : (devices.map fun device => device.id.asStr.toList).Nodup := by
    induction configs generalizing devices with
    | nil =>
      cases h
      exact List.nodup_nil
    | cons config configs ih =>
      obtain ⟨hfirst, hothers⟩ := List.pairwise_cons.mp hdiffer
      obtain ⟨descriptors, rest, hdescriptors, hrest, rfl⟩ := describe_cons_ok h
      obtain ⟨owner, endpoints, signals, hdescribes, rfl⟩ := configuredDescriptors_ok hdescriptors
      rw [List.map_append, hdescribes.idTexts]
      refine List.nodup_append.mpr ⟨?_, ih hothers hrest, ?_⟩
      · exact (idRests_nodup hspec config).map fun _ _ heq => List.append_cancel_left heq
      · rintro text htext other hother rfl
        obtain ⟨tail, htail, rfl⟩ := List.mem_map.mp htext
        obtain ⟨device, hdevice, heq⟩ := List.mem_map.mp hother
        obtain ⟨found, hfound, tail', htail', hid⟩ := exists_of_mem_describe hrest hdevice
        have hsame := heq.symm.trans hid
        exact hfirst found hfound (configuredDeviceId_inj (isRest_of_mem htail) htail' hsame).1
  have hids := List.Nodup.of_map (fun id : DeviceId => id.asStr.toList)
    ((List.map_map (f := DeviceDescriptor.id) (g := fun id : DeviceId => id.asStr.toList)) ▸ htexts)
  exact hids

theorem discover_ids_nodup (hspec : spec.Accepted) {probe : ConfiguredDeviceProbe (ConfiguredDevice spec)}
    (hdiffer : probe.configs.Pairwise DifferInHardware) {context : DiscoveryContext} {discovery : ProbeDiscovery}
    (h : probe.discover context = .ok discovery) : (discovery.devices.map DeviceDescriptor.id).Nodup := by
  rw [ConfiguredDeviceProbe.discover] at h
  split at h
  · cases h
    exact List.nodup_nil
  · cases hdescribe : ConfiguredDeviceProbe.describe probe.name probe.configs with
    | error error =>
      rw [hdescribe] at h
      cases h
    | ok devices =>
      rw [hdescribe] at h
      cases h
      exact describe_ids_nodup hspec (hdiffer.imp DifferInHardware.not_same) hdescribe

theorem configured_ids_distinct (spec : ConfiguredDeviceSpec) (hspec : spec.validate = .ok ())
    (probe : ConfiguredDeviceProbe (ConfiguredDevice spec)) (hdiffer : probe.configs.Pairwise DifferInHardware) :
    (∀ devices, ConfiguredDeviceProbe.describe probe.name probe.configs = .ok devices →
      (devices.map DeviceDescriptor.id).Nodup) ∧
    ∀ availableParallelism context id,
      runProbes availableParallelism context [probe.toDiscoveryProbe] ≠ .error (.duplicateDeviceId id) := by
  have haccepted := ConfiguredDeviceSpec.accepted hspec
  constructor
  · intro devices h
    exact describe_ids_nodup haccepted (hdiffer.imp DifferInHardware.not_same) h
  · intro availableParallelism context id h
    apply runProbes_duplicate h
    rw [selectProbes, List.filterMap_cons]
    cases hselect : selectProbe context probe.toDiscoveryProbe with
    | none => exact List.nodup_nil
    | some selected =>
      obtain ⟨rfl, -⟩ := selectProbe_eq_some hselect
      simp only [List.filterMap_nil, List.flatMap_cons, List.flatMap_nil, List.append_nil, discoveredBy]
      split
      · rename_i discovery hdiscover
        exact discover_ids_nodup haccepted hdiffer hdiscover
      · exact List.nodup_nil

end Configured

def secondImu : ConfiguredDevice imuSpec := { imu with endpoint := fun _ => 0x19 }

theorem configured_ids_distinct_imus :
    (∀ devices, ConfiguredDeviceProbe.describe "configured-imu" [imu, secondImu] = .ok devices →
      (devices.map DeviceDescriptor.id).Nodup) ∧
    ∀ availableParallelism context id, runProbes availableParallelism context
      [(ConfiguredDeviceProbe.fromConfigs "configured-imu" [imu, secondImu]).toDiscoveryProbe] ≠
        .error (.duplicateDeviceId id) := by
  have hdiffer : [imu, secondImu].Pairwise DifferInHardware := by
    refine List.pairwise_cons.mpr ⟨?_, List.pairwise_singleton _ _⟩
    intro other hother
    rw [List.mem_singleton.mp hother]
    exact .inr ⟨(.i2c, "accel"), by decide, by decide⟩
  exact configured_ids_distinct imuSpec (by decide) (.fromConfigs "configured-imu" [imu, secondImu]) hdiffer

def rewiredImu : ConfiguredDevice imuSpec :=
  { imu with signal := fun _ => some { target := .chipLine "gpiochip4" 24 none none } }

def imuId : DeviceId := ⟨"configured.imu.bus4.accel0x18", by decide +kernel⟩

theorem signal_target_is_not_in_id :
    imuSpec.validate = .ok () ∧
      (imu.signal "accel_int").map ConfiguredGpioSignal.target ≠
        (rewiredImu.signal "accel_int").map ConfiguredGpioSignal.target ∧
      imu.configuredDeviceId = rewiredImu.configuredDeviceId ∧
      runProbes 1 {} [(ConfiguredDeviceProbe.fromConfigs "configured-imu" [imu, rewiredImu]).toDiscoveryProbe] =
        .error (.duplicateDeviceId imuId) := by
  refine ⟨by decide, by decide, by decide, by decide +kernel⟩

end Lemnos.Discovery
