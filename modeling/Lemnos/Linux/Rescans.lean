import Lemnos.Linux.BackendDiscovery

/-! Runs that ask only for what has changed, over files that change from run to run. -/

namespace Lemnos.Linux

open Lemnos.Core Discovery Library.OrderedMap

theorem runProbes_congr {availableParallelism : ℕ} {context : DiscoveryContext} {A : Type} {as : List A}
    {first second : A → DiscoveryProbe} (hfirst : ∀ a ∈ as, ReportsValid context (first a))
    (hsecond : ∀ a ∈ as, ReportsValid context (second a))
    (hsame : ∀ a ∈ as, (first a).name = (second a).name ∧ (first a).interfaces = (second a).interfaces ∧
      (selectedInterfaces context (first a).interfaces ≠ [] →
        (first a).discover context = (second a).discover context)) :
    runProbes availableParallelism context (as.map first) =
      runProbes availableParallelism context (as.map second) := by
  have hboth : reported context (as.map first) = reported context (as.map second) ∧
      (selectProbes context (as.map first)).map (reportOf context) =
        (selectProbes context (as.map second)).map (reportOf context) := by
    clear hfirst hsecond
    induction as with
    | nil => exact ⟨rfl, rfl⟩
    | cons a as ih =>
      obtain ⟨hdevices, hreports⟩ := ih fun other hother => hsame other (List.mem_cons_of_mem a hother)
      obtain ⟨hname, hinterfaces, hdiscover⟩ := hsame a List.mem_cons_self
      simp only [reported, selectProbes] at hdevices hreports ⊢
      simp only [List.map_cons, List.filterMap_cons, selectProbe]
      rw [hinterfaces] at hdiscover ⊢
      by_cases hnone : selectedInterfaces context (second a).interfaces = []
      · simp only [hnone, List.isEmpty_nil, if_true]
        exact ⟨hdevices, hreports⟩
      · have hfound := hdiscover hnone
        simp only [List.isEmpty_eq_false_iff.mpr hnone, Bool.false_eq_true, if_false, List.flatMap_cons, List.map_cons]
        rw [hdevices, hreports]
        simp [discoveredBy, reportOf, hfound, hname]
  have hvalid {probes : A → DiscoveryProbe} (h : ∀ a ∈ as, ReportsValid context (probes a)) :
      ∀ probe ∈ as.map probes, ReportsValid context probe := by
    intro probe hprobe
    obtain ⟨a, ha, rfl⟩ := List.mem_map.mp hprobe
    exact h a ha
  rw [runProbes_of_reportsValid availableParallelism (hvalid hfirst),
    runProbes_of_reportsValid availableParallelism (hvalid hsecond), hboth.1, hboth.2]

namespace LinuxBackend

variable (features : LinuxFeatures) (paths : LinuxPaths)

def WithoutTwins (host : ClassHost) : Prop := ∀ probe discovery, hasProbe features probe = true →
  probe.discover host paths = .ok discovery → (discovery.devices.map DeviceDescriptor.id).Nodup

abbrev Files := { host : ClassHost // WithoutTwins features paths host }

def spec (probe : LinuxProbe) : ProbeSpec := (probe.name, [probe.interface])

def named (name : String) : Option LinuxProbe := LinuxProbe.all.find? fun probe => probe.name = name

theorem named_name (probe : LinuxProbe) : named probe.name = some probe := by
  cases probe <;> decide

def shown (files : Files features paths) (name : String) : List DeviceDescriptor :=
  (named name).elim [] (LinuxProbe.found files.1 paths)

def answer (files : Files features paths) (spec : ProbeSpec) (context : DiscoveryContext) :
    DiscoveryResult ProbeDiscovery :=
  (named spec.1).elim (.ok {}) fun probe =>
    if context.wants probe.interface then probe.discover files.1 paths else .ok {}

variable {features paths} in
theorem shown_eq (files : Files features paths) (probe : LinuxProbe) :
    shown features paths files probe.name = probe.found files.1 paths := by
  rw [shown, named_name]
  rfl

theorem all_eq_found (files : Files features paths) :
    ((LinuxProbe.all.filter (hasProbe features)).map spec).flatMap (fun spec => shown features paths files spec.1) =
      (LinuxProbe.all.filter (hasProbe features)).flatMap (LinuxProbe.found files.1 paths) := by
  rw [List.flatMap_map]
  exact List.flatMap_congr fun probe _ => shown_eq files probe

/-- The probes of the backend as a set of probes, over the files without twins. -/
def probeSet : ProbeSet (Files features paths) where
  specs := (LinuxProbe.all.filter (hasProbe features)).map spec
  devices := shown features paths
  discover := answer features paths
  names_nodup := by
    rw [List.map_map]
    have hnodup : (LinuxProbe.all.map (Prod.fst ∘ spec)).Nodup := by decide
    exact hnodup.sublist (List.filter_sublist.map _)
  on_interfaces files _ hspec device hdevice := by
    obtain ⟨probe, -, rfl⟩ := List.mem_map.mp hspec
    rw [spec, shown_eq] at hdevice
    obtain ⟨discovery, hdiscovery, hin⟩ := LinuxProbe.mem_found.mp hdevice
    rw [(LinuxProbe.reported_of_mem hdiscovery hin).interface]
    exact List.mem_singleton_self _
  ids_nodup files := by
    rw [all_eq_found, List.map_flatMap]
    have hnodup : LinuxProbe.all.Nodup := by decide
    refine List.nodup_flatMap.mpr ⟨fun probe hprobe => ?_, ?_⟩
    · rw [LinuxProbe.found]
      cases hdiscovery : probe.discover files.1 paths with
      | error error => exact List.nodup_nil
      | ok discovery => exact files.2 probe discovery (List.mem_filter.mp hprobe).2 hdiscovery
    · refine (hnodup.filter _).imp fun {probe other} hne => ?_
      intro id hid hother
      exact hne (eq_of_found hid hother)
  honours files _ hspec context discovery h := by
    obtain ⟨probe, -, rfl⟩ := List.mem_map.mp hspec
    rw [spec, shown_eq, selectedInterfaces_single]
    rw [answer, spec, named_name] at h
    have hfound : ∀ device ∈ probe.found files.1 paths, device.interface = probe.interface := by
      intro device hdevice
      obtain ⟨discovery, hdiscovery, hin⟩ := LinuxProbe.mem_found.mp hdevice
      exact (LinuxProbe.reported_of_mem hdiscovery hin).interface
    cases hwants : context.wants probe.interface with
    | false =>
      simp only [Option.elim, hwants] at h
      cases h
      simp
    | true =>
      have hdiscovery : probe.discover files.1 paths = .ok discovery := by simpa [hwants] using h
      have hall : (probe.found files.1 paths).filter (fun device => device.interface ∈ [probe.interface]) =
          probe.found files.1 paths := List.filter_eq_self.mpr fun device hdevice => by simp [hfound device hdevice]
      simp only [if_true]
      rw [hall, LinuxProbe.found, hdiscovery]

variable {features paths}

theorem runProbes_probeSet (files : Files features paths) (availableParallelism : ℕ) (context : DiscoveryContext) :
    runProbes availableParallelism context ((probeSet features paths).probes files) =
      discover features files.1 paths availableParallelism context := by
  rw [discover, probes, ProbeSet.probes]
  change runProbes availableParallelism context (((LinuxProbe.all.filter (hasProbe features)).map spec).map _) = _
  rw [List.map_map]
  apply runProbes_congr
  · intro probe _ discovery h device hdevice
    have hanswer : answer features paths files (spec probe) context = .ok discovery := h
    rw [answer, spec, named_name] at hanswer
    simp only [Option.elim] at hanswer
    split at hanswer
    · exact (LinuxProbe.reported_of_mem hanswer hdevice).valid
    · cases hanswer
      cases hdevice
  · exact fun probe _ => probe.reportsValid
  · intro probe _
    refine ⟨rfl, rfl, fun hselected => ?_⟩
    change answer features paths files (spec probe) context = probe.discover files.1 paths
    have hwants : context.wants probe.interface = true := wants_of_selected hselected
    rw [answer, spec, named_name]
    simp [hwants]

/-- Runs one after another, each over the files that it finds, merged into what is known and recorded in turn. -/
def rescan (availableParallelism : ℕ) : List (Files features paths × DiscoveryContext) → InventorySnapshot →
    ProbeInventoryIndex → DiscoveryResult (InventorySnapshot × ProbeInventoryIndex)
  | [], inventory, index => .ok (inventory, index)
  | (files, context) :: scans, inventory, index => do
    let run ← discover features files.1 paths availableParallelism context
    let next ← index.mergeSnapshot inventory run
    rescan availableParallelism scans next (index.recordRun run)

def Shows (files : Files features paths) (device : DeviceDescriptor) : Prop :=
  ∃ probe, hasProbe features probe = true ∧ device ∈ probe.found files.1 paths

/-- Each run asks for the interfaces of all devices that have changed since the run before, and no probe fails
in it. -/
def Follows : Files features paths → List (Files features paths × DiscoveryContext) → Prop
  | _, [] => True
  | before, (files, context) :: scans =>
    (∀ device, ¬(Shows before device ↔ Shows files device) → context.wants device.interface = true) ∧
      (∀ probe, Selects features context probe → (probe.discover files.1 paths).isOk = true) ∧ Follows files scans

def lastFiles : Files features paths → List (Files features paths × DiscoveryContext) → Files features paths
  | files, [] => files
  | _, (files, _) :: scans => lastFiles files scans

theorem mem_all_iff (files : Files features paths) (device : DeviceDescriptor) :
    device ∈ (probeSet features paths).all files ↔ Shows files device := by
  have hall := all_eq_found features paths files
  rw [ProbeSet.all]
  change device ∈ ((LinuxProbe.all.filter (hasProbe features)).map spec).flatMap
    (fun spec => shown features paths files spec.1) ↔ _
  rw [hall, List.mem_flatMap]
  refine exists_congr fun probe => and_congr_left fun _ => ?_
  rw [List.mem_filter]
  exact and_iff_right (mem_all probe)

theorem rescan_eq (availableParallelism : ℕ) (scans : List (Files features paths × DiscoveryContext))
    (inventory : InventorySnapshot) (index : ProbeInventoryIndex) :
    rescan availableParallelism scans inventory index =
      (probeSet features paths).rescan availableParallelism scans inventory index := by
  induction scans generalizing inventory index with
  | nil => rfl
  | cons scan scans ih =>
    rw [rescan, ProbeSet.rescan, runProbes_probeSet]
    simp only [ih]

theorem lastFiles_eq (files : Files features paths) (scans : List (Files features paths × DiscoveryContext)) :
    lastFiles files scans = ProbeSet.lastWorld files scans := by
  induction scans generalizing files with
  | nil => rfl
  | cons scan scans ih => exact ih scan.1

theorem succeeds (files : Files features paths) (context : DiscoveryContext)
    (h : ∀ probe, Selects features context probe → (probe.discover files.1 paths).isOk = true) :
    (probeSet features paths).Succeeds files context := by
  intro _ hspec hasked
  obtain ⟨probe, hprobe, rfl⟩ := List.mem_map.mp hspec
  have hwants : context.wants probe.interface = true := wants_of_selected hasked
  have hok := h probe ⟨(List.mem_filter.mp hprobe).2, hwants⟩
  change ∃ discovery, answer features paths files (spec probe) context = .ok discovery ∧ _
  rw [answer, spec, named_name]
  simp only [Option.elim, hwants, if_true]
  cases hdiscovery : probe.discover files.1 paths with
  | error error =>
    rw [hdiscovery] at hok
    cases hok
  | ok discovery => exact ⟨discovery, rfl, fun device hdevice => (LinuxProbe.reported_of_mem hdiscovery hdevice).valid⟩

theorem Follows.toProbeSet {files : Files features paths} {scans : List (Files features paths × DiscoveryContext)}
    (h : Follows files scans) : (probeSet features paths).Follows files scans := by
  induction scans generalizing files with
  | nil => trivial
  | cons scan scans ih =>
    obtain ⟨hasks, hsucceeds, hrest⟩ := h
    refine ⟨?_, succeeds scan.1 scan.2 hsucceeds, ih hrest⟩
    rintro _ ⟨device, rfl, hchanged⟩
    rw [mem_all_iff, mem_all_iff] at hchanged
    exact hasks device hchanged

end LinuxBackend

theorem linux_rescans_equal_full_run (features : LinuxFeatures) (paths : LinuxPaths) (availableParallelism : ℕ)
    (files : LinuxBackend.Files features paths) (context : DiscoveryContext)
    (hfull : context.requestedInterfaces.isEmpty = true) (run : DiscoveryRunReport)
    (hrun : LinuxBackend.discover features files.1 paths availableParallelism context = .ok run)
    (hclean : run.hasProbeFailures = false) (scans : List (LinuxBackend.Files features paths × DiscoveryContext))
    (hscans : LinuxBackend.Follows files scans) : ∃ inventory index,
      LinuxBackend.rescan availableParallelism scans run.snapshot (.fromRun run) = .ok (inventory, index) ∧
      (∀ device ∈ inventory.devices, ∀ link ∈ device.links, inventory.contains link.target = true) ∧
      ∀ context' full, context'.requestedInterfaces.isEmpty = true →
        LinuxBackend.discover features (LinuxBackend.lastFiles files scans).1 paths availableParallelism context' =
          .ok full →
        full.hasProbeFailures = false → ∀ id, inventory.get id = full.snapshot.get id := by
  rw [← LinuxBackend.runProbes_probeSet] at hrun
  have hfirst := ProbeSet.fromRun_mirrors hfull hrun hclean
  obtain ⟨inventory, index, hrescan, hlast⟩ := hfirst.rescan hscans.toProbeSet
  rw [← LinuxBackend.rescan_eq] at hrescan
  have hshows (device : DeviceDescriptor) := (hlast.shows_all device).trans (LinuxBackend.mem_all_iff _ device)
  refine ⟨inventory, index, hrescan, LinuxBackend.contains_parents hshows,
    fun context' full hfull' hrun' hclean' id => ?_⟩
  rw [LinuxBackend.lastFiles_eq, ← LinuxBackend.runProbes_probeSet] at hrun'
  exact hlast.get_eq (ProbeSet.fromRun_mirrors hfull' hrun' hclean') id

def terminals (there : Bool) : ClassHost where
  pathExists path := path ≠ LinuxPaths.gpioClassRoot {} && path ≠ LinuxPaths.ledClassRoot {}
  readDir _ := .ok (if there then [.ok "ttyS0"] else [])
  readToString _ := .error .notFound
  readLink _ := .error .notFound
  isDir _ := true

def terminalsOnly : LinuxFeatures := ⟨⟨true, true⟩, false, false, false, true, false⟩

theorem terminals_found (there : Bool) {probe : LinuxProbe} (h : LinuxBackend.hasProbe terminalsOnly probe = true) :
    ∃ discovery, probe.discover (terminals there) {} = .ok discovery ∧
      (discovery.devices = [] ∨ probe = .uart ∧ ∃ device, discovery.devices = [device]) := by
  cases probe with
  | gpio => exact ⟨_, rfl, .inl rfl⟩
  | led => exact ⟨_, rfl, .inl rfl⟩
  | uart =>
    cases there with
    | false => exact ⟨_, rfl, .inl rfl⟩
    | true =>
      have hname : fileName (joinPath (LinuxPaths.ttyClassRoot {}) "ttyS0") = some "ttyS0" :=
        fileName_joinPath _ ⟨by decide, by decide, by decide, by decide⟩
      have hbuilt : ∃ device, UartDiscoveryProbe.buildPortDescriptor (terminals true).toDiscoveryHost {} "ttyS0"
          (joinPath (LinuxPaths.ttyClassRoot {}) "ttyS0") = .ok (some device) := ⟨_, rfl⟩
      obtain ⟨device, hbuilt⟩ := hbuilt
      exact ⟨_, UartDiscoveryProbe.discover_port rfl rfl hname hbuilt, .inr ⟨rfl, device, rfl⟩⟩
  | pwm | hwmon | i2c | spi | usb => cases h

theorem terminals_isOk (there : Bool) {context : DiscoveryContext} (probe : LinuxProbe)
    (h : LinuxBackend.Selects terminalsOnly context probe) : (probe.discover (terminals there) {}).isOk = true := by
  obtain ⟨discovery, hdiscovery, -⟩ := terminals_found there h.1
  rw [hdiscovery]
  rfl

theorem terminals_withoutTwins (there : Bool) : LinuxBackend.WithoutTwins terminalsOnly {} (terminals there) := by
  intro probe discovery hprobe hdiscovery
  obtain ⟨found, hfound, hdevices⟩ := terminals_found there hprobe
  rw [hdiscovery] at hfound
  cases hfound
  obtain hnone | ⟨-, device, hone⟩ := hdevices
  · rw [hnone]
    exact List.nodup_nil
  · rw [hone]
    exact List.nodup_singleton _

def terminalFiles (there : Bool) : LinuxBackend.Files terminalsOnly {} :=
  ⟨terminals there, terminals_withoutTwins there⟩

theorem terminals_interface {there : Bool} {device : DeviceDescriptor}
    (h : LinuxBackend.Shows (terminalFiles there) device) : device.interface = .uart := by
  obtain ⟨probe, hprobe, hfound⟩ := h
  obtain ⟨discovery, hdiscovery, hin⟩ := LinuxProbe.mem_found.mp hfound
  obtain ⟨found, hagain, hdevices⟩ := terminals_found there hprobe
  have hsame : Except.ok found = Except.ok discovery := hagain.symm.trans hdiscovery
  cases hsame
  obtain hnone | ⟨rfl, -⟩ := hdevices
  · rw [hnone] at hin
    cases hin
  · exact (LinuxProbe.reported_of_mem hdiscovery hin).interface

theorem terminals_follow (before : Bool) (later : List Bool) :
    LinuxBackend.Follows (terminalFiles before) (later.map fun there => (terminalFiles there, uartScan)) := by
  induction later generalizing before with
  | nil => trivial
  | cons there later ih =>
    refine ⟨fun device hchanged => ?_, terminals_isOk there, ih there⟩
    rw [uartScan_wants_iff]
    by_contra hother
    apply hchanged
    exact ⟨fun h => absurd (terminals_interface h) hother, fun h => absurd (terminals_interface h) hother⟩

theorem terminal_comes_and_goes : ∃ run inventory index,
    LinuxBackend.discover terminalsOnly (terminals false) {} 1 {} = .ok run ∧
    LinuxBackend.rescan 1 ([true, false, true].map fun there => (terminalFiles there, uartScan)) run.snapshot
      (.fromRun run) = .ok (inventory, index) ∧
    (∀ device ∈ inventory.devices, ∀ link ∈ device.links, inventory.contains link.target = true) ∧
    ∃ full, LinuxBackend.discover terminalsOnly (terminals true) {} 1 {} = .ok full ∧
      ∀ id, inventory.get id = full.snapshot.get id := by
  have hruns (there : Bool) : ∃ run, LinuxBackend.discover terminalsOnly (terminals there) {} 1 {} = .ok run ∧
      run.hasProbeFailures = false := by
    obtain ⟨run, hrun⟩ := LinuxBackend.discover_isOk_iff.mpr fun probe discovery hselected =>
      terminals_withoutTwins there probe discovery hselected.1
    exact ⟨run, hrun, LinuxBackend.clean_of_isOk hrun (terminals_isOk there)⟩
  have hall : (({} : DiscoveryContext).requestedInterfaces).isEmpty = true := rfl
  obtain ⟨run, hrun, hclean⟩ := hruns false
  obtain ⟨full, hfull, hfullclean⟩ := hruns true
  obtain ⟨inventory, index, hrescan, hlinks, hequal⟩ := linux_rescans_equal_full_run terminalsOnly {} 1
    (terminalFiles false) {} hall run hrun hclean _ (terminals_follow false [true, false, true])
  exact ⟨run, inventory, index, hrun, hrescan, hlinks, full, hfull, hequal {} full hall hfull hfullclean⟩

end Lemnos.Linux
