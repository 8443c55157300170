import Lemnos.Discovery.Twins
import Lemnos.Drivers.Builtin
import Lemnos.Linux.ReportSoundness

/-! A run of all probes of the backend. -/

namespace Lemnos.Linux

open Lemnos.Core Discovery Registry Drivers Library.Growth Library.OrderedMap

theorem count_flatMap_of_owned {α β : Type} [DecidableEq α] [DecidableEq β]
    {as : List α} {f : α → List β} {a : α} {b : β}
    (hnodup : as.Nodup) (ha : a ∈ as) (howned : ∀ other ∈ as, b ∈ f other → other = a) :
    (as.flatMap f).count b = (f a).count b := by
  induction as with
  | nil => cases ha
  | cons first as ih =>
    obtain ⟨hfirst, hrest⟩ := List.nodup_cons.mp hnodup
    rw [List.flatMap_cons, List.count_append]
    by_cases hsame : first = a
    · subst hsame
      have hlater : (as.flatMap f).count b = 0 := by
        rw [List.count_eq_zero]
        intro hmem
        obtain ⟨other, hother, hb⟩ := List.mem_flatMap.mp hmem
        exact hfirst (howned other (List.mem_cons_of_mem _ hother) hb ▸ hother)
      omega
    · have hnone : (f first).count b = 0 := by
        rw [List.count_eq_zero]
        exact fun hb => hsame (howned first List.mem_cons_self hb)
      have hin : a ∈ as := (List.mem_cons.mp ha).resolve_left fun h => hsame h.symm
      have := ih hrest hin fun other hother => howned other (List.mem_cons_of_mem _ hother)
      omega

namespace LinuxProbe

variable {host : ClassHost} {paths : LinuxPaths} {context : DiscoveryContext} {probe : LinuxProbe}
  {discovery : ProbeDiscovery}

theorem reported_of_mem (h : probe.discover host paths = .ok discovery) {device : DeviceDescriptor}
    (hdevice : device ∈ discovery.devices) : Reported probe discovery.devices device := by
  obtain ⟨before, hreported, hbefore⟩ := (LinuxProbe.sound h).of_mem hdevice
  refine ⟨hreported.valid, hreported.interface, hreported.named, hreported.hint, hreported.fits, fun link hlink => ?_⟩
  obtain ⟨hparent, htarget⟩ := hreported.linked link hlink
  obtain ⟨parent, hin, hid⟩ := List.mem_map.mp htarget
  exact ⟨hparent, List.mem_map.mpr ⟨parent, hbefore parent hin, hid⟩⟩

theorem reportsValid (probe : LinuxProbe) : ReportsValid context (probe.toProbe host paths) :=
  fun _ h _ hdevice => (reported_of_mem h hdevice).valid

def found (host : ClassHost) (paths : LinuxPaths) (probe : LinuxProbe) : List DeviceDescriptor :=
  match probe.discover host paths with
  | .ok discovery => discovery.devices
  | .error _ => []

theorem mem_found {device : DeviceDescriptor} : device ∈ probe.found host paths ↔
    ∃ discovery, probe.discover host paths = .ok discovery ∧ device ∈ discovery.devices := by
  rw [found]
  cases probe.discover host paths <;> simp

theorem selectProbe_toProbe : selectProbe context (probe.toProbe host paths) =
    if context.wants probe.interface then
      some ⟨probe.toProbe host paths, [probe.interface], [probe.interface]⟩
    else none := by
  have hinterfaces : (probe.toProbe host paths).interfaces = [probe.interface] := rfl
  rw [selectProbe, hinterfaces, selectedInterfaces_single]
  split <;> rfl

theorem reported_toProbe (probes : List LinuxProbe) : reported context (probes.map (toProbe host paths)) =
    (probes.filter fun probe => context.wants probe.interface).flatMap (found host paths) := by
  induction probes with
  | nil => rfl
  | cons probe probes ih =>
    rw [reported, selectProbes] at ih ⊢
    rw [List.map_cons, List.filterMap_cons, selectProbe_toProbe, List.filter_cons]
    cases hwants : context.wants probe.interface with
    | false => exact ih
    | true =>
      simp only [if_true, List.flatMap_cons]
      rw [ih]
      rfl

end LinuxProbe

namespace LinuxBackend

variable {features : LinuxFeatures} {host : ClassHost} {paths : LinuxPaths} {context : DiscoveryContext}

def Selects (features : LinuxFeatures) (context : DiscoveryContext) (probe : LinuxProbe) : Prop :=
  hasProbe features probe = true ∧ context.wants probe.interface = true

theorem reportsValid : ∀ probe ∈ probes features host paths, ReportsValid context probe := by
  intro probe hprobe
  obtain ⟨linuxProbe, -, rfl⟩ := List.mem_map.mp hprobe
  exact linuxProbe.reportsValid

theorem reported_eq : reported context (probes features host paths) =
    ((LinuxProbe.all.filter (hasProbe features)).filter fun probe => context.wants probe.interface).flatMap
      (LinuxProbe.found host paths) := LinuxProbe.reported_toProbe _

theorem mem_all (probe : LinuxProbe) : probe ∈ LinuxProbe.all := by
  cases probe <;> decide

theorem mem_selected {probe : LinuxProbe} : probe ∈ (LinuxProbe.all.filter (hasProbe features)).filter (fun probe =>
    context.wants probe.interface) ↔ Selects features context probe := by
  rw [List.mem_filter, List.mem_filter]
  simp [mem_all, Selects]

theorem mem_reported_iff {device : DeviceDescriptor} : device ∈ reported context (probes features host paths) ↔
    ∃ probe, Selects features context probe ∧ device ∈ probe.found host paths := by
  rw [reported_eq, List.mem_flatMap]
  exact exists_congr fun probe => and_congr_left fun _ => mem_selected

theorem eq_of_found {probe other : LinuxProbe} {id : DeviceId}
    (h : id ∈ (probe.found host paths).map DeviceDescriptor.id)
    (hother : id ∈ (other.found host paths).map DeviceDescriptor.id) : probe = other := by
  obtain ⟨device, hdevice, rfl⟩ := List.mem_map.mp h
  obtain ⟨twin, htwin, hid⟩ := List.mem_map.mp hother
  obtain ⟨discovery, hdiscovery, hin⟩ := LinuxProbe.mem_found.mp hdevice
  obtain ⟨otherDiscovery, hotherDiscovery, hinother⟩ := LinuxProbe.mem_found.mp htwin
  obtain ⟨start, hstart, hname⟩ := (LinuxProbe.reported_of_mem hdiscovery hin).named
  obtain ⟨otherStart, hotherStart, hothername⟩ := (LinuxProbe.reported_of_mem hotherDiscovery hinother).named
  rw [hid] at hothername
  exact LinuxProbe.eq_of_starts hstart hotherStart hname hothername

theorem count_reported {id : DeviceId}
    (h : id ∈ (reported context (probes features host paths)).map DeviceDescriptor.id) :
    ∃ probe, Selects features context probe ∧ ∃ discovery, probe.discover host paths = .ok discovery ∧
      ((reported context (probes features host paths)).map DeviceDescriptor.id).count id =
        (discovery.devices.map DeviceDescriptor.id).count id := by
  obtain ⟨device, hdevice, rfl⟩ := List.mem_map.mp h
  obtain ⟨probe, hselected, hfound⟩ := mem_reported_iff.mp hdevice
  obtain ⟨discovery, hdiscovery, -⟩ := LinuxProbe.mem_found.mp hfound
  refine ⟨probe, hselected, discovery, hdiscovery, ?_⟩
  have hdevices : probe.found host paths = discovery.devices := by rw [LinuxProbe.found, hdiscovery]
  rw [reported_eq, List.map_flatMap, ← hdevices]
  have hnodup : LinuxProbe.all.Nodup := by decide
  exact count_flatMap_of_owned ((hnodup.filter _).filter _) (mem_selected.mpr hselected)
    fun other _ hother => eq_of_found hother (List.mem_map_of_mem hfound)

theorem shows_found {availableParallelism : ℕ} {run : DiscoveryRunReport}
    (h : discover features host paths availableParallelism context = .ok run) (device : DeviceDescriptor) :
    device ∈ run.snapshot.devices ↔ ∃ probe, Selects features context probe ∧ device ∈ probe.found host paths := by
  have hdevices : run.snapshot.devices = reported context (probes features host paths) := (runProbes_ok h).1
  rw [hdevices, mem_reported_iff]

theorem mem_snapshot {availableParallelism : ℕ} {run : DiscoveryRunReport} {device : DeviceDescriptor}
    (h : discover features host paths availableParallelism context = .ok run) : device ∈ run.snapshot.devices ↔
      ∃ probe, Selects features context probe ∧
        ∃ discovery, probe.discover host paths = .ok discovery ∧ device ∈ discovery.devices := by
  rw [shows_found h]
  simp only [LinuxProbe.mem_found]

theorem contains_parents {inventory : InventorySnapshot} {asked : LinuxProbe → Prop} (h : ∀ device,
    device ∈ inventory.devices ↔ ∃ probe, asked probe ∧ device ∈ probe.found host paths) :
    ∀ device ∈ inventory.devices, ∀ link ∈ device.links, inventory.contains link.target = true := by
  intro device hdevice link hlink
  obtain ⟨probe, hasked, hfound⟩ := (h device).mp hdevice
  obtain ⟨discovery, hdiscovery, hin⟩ := LinuxProbe.mem_found.mp hfound
  obtain ⟨-, htarget⟩ := (LinuxProbe.reported_of_mem hdiscovery hin).linked link hlink
  obtain ⟨parent, hparent, hid⟩ := List.mem_map.mp htarget
  have hthere := (h parent).mpr ⟨probe, hasked, LinuxProbe.mem_found.mpr ⟨discovery, hdiscovery, hparent⟩⟩
  rw [InventorySnapshot.contains, Option.isSome_iff_exists]
  exact ⟨parent, (inventory.get_eq_some _ _).mpr ⟨hthere, hid⟩⟩

theorem clean_of_isOk {availableParallelism : ℕ} {run : DiscoveryRunReport}
    (hrun : discover features host paths availableParallelism context = .ok run)
    (h : ∀ probe, Selects features context probe → (probe.discover host paths).isOk = true) :
    run.hasProbeFailures = false := by
  obtain ⟨-, hreports, -⟩ := runProbes_ok hrun
  rw [DiscoveryRunReport.hasProbeFailures_eq_false, hreports]
  intro report hreport
  obtain ⟨selected, hselected, rfl⟩ := List.mem_map.mp hreport
  obtain ⟨probe, hprobe, hselect⟩ := List.mem_filterMap.mp hselected
  obtain ⟨linuxProbe, hin, rfl⟩ := List.mem_map.mp hprobe
  rw [LinuxProbe.selectProbe_toProbe] at hselect
  split at hselect
  case isFalse => cases hselect
  case isTrue hwants =>
    cases hselect
    have hok := h linuxProbe ⟨(List.mem_filter.mp hin).2, hwants⟩
    rw [reportOf, LinuxProbe.toProbe]
    cases hdiscovery : linuxProbe.discover host paths with
    | error error =>
      rw [hdiscovery] at hok
      cases hok
    | ok discovery => rfl

theorem discover_isOk_iff {availableParallelism : ℕ} :
    (∃ run, discover features host paths availableParallelism context = .ok run) ↔
      ∀ probe discovery, Selects features context probe → probe.discover host paths = .ok discovery →
        (discovery.devices.map DeviceDescriptor.id).Nodup := by
  rw [discover, runProbes_isOk_iff availableParallelism reportsValid]
  constructor
  · intro hnodup probe discovery hselected hdiscovery
    rw [reported_eq, List.map_flatMap] at hnodup
    have hfound : probe.found host paths = discovery.devices := by rw [LinuxProbe.found, hdiscovery]
    rw [← hfound]
    exact (List.nodup_flatMap.mp hnodup).1 probe (mem_selected.mpr hselected)
  · intro hnodup
    apply List.nodup_iff_count_le_one.mpr
    intro id
    by_cases hmem : id ∈ (reported context (probes features host paths)).map DeviceDescriptor.id
    · obtain ⟨probe, hselected, discovery, hdiscovery, hsame⟩ := count_reported hmem
      rw [hsame]
      exact List.nodup_iff_count_le_one.mp (hnodup probe discovery hselected hdiscovery) id
    · rw [List.count_eq_zero.mpr hmem]
      exact Nat.zero_le 1

end LinuxBackend

theorem linux_reports_are_sound (probe : LinuxProbe) (host : ClassHost) (paths : LinuxPaths)
    (context : DiscoveryContext)
    (discovery : ProbeDiscovery) (h : (probe.toProbe host paths).discover context = .ok discovery)
    (before after : List DeviceDescriptor) (device : DeviceDescriptor)
    (hsplit : discovery.devices = before ++ device :: after) :
    Reported probe before device ∧ ∀ features, LinuxBackend.supportsDevice features device =
      (device.matchHints.driverHint.isSome && features.serves device.interface) := by
  have hreported := (LinuxProbe.sound h).fits hsplit
  obtain ⟨address, haddress, hfits⟩ := hreported.fits
  refine ⟨hreported, fun features => ?_⟩
  have hinterface := ((DeviceDescriptor.validate_iff device).mp hreported.valid).1
  rw [LinuxBackend.supportsDevice_of_fits features hreported.valid haddress hfits, hreported.hint, hintFor, hinterface]
  split <;> simp [*]

def singleLine : ClassHost where
  pathExists _ := true
  readDir _ := .ok [.ok "gpiochip0"]
  readToString path := if path = "/sys/class/gpio/gpiochip0/ngpio" then .ok "1\n" else .error .notFound
  readLink _ := .error .notFound
  isDir _ := true

def singleChipId : DeviceId := ⟨"linux.gpio.chip.gpiochip0", by decide⟩

def singleLineId : DeviceId := ⟨"linux.gpio.line.gpiochip0.0", by decide⟩

theorem singleLine_reported_soundly : ∃ discovery chip line,
    (LinuxProbe.gpio.toProbe singleLine {}).discover {} = .ok discovery ∧ discovery.devices = [chip, line] ∧
      line.links = [.new chip.id .parent] ∧ Reported .gpio [chip] line ∧
      ∀ features, LinuxBackend.supportsDevice features line =
        (line.matchHints.driverHint.isSome && features.serves line.interface) := by
  have hshown : ((LinuxProbe.gpio.toProbe singleLine {}).discover {}).toOption.map (fun discovery =>
      discovery.devices.map fun device => (device.id, device.links)) =
        some [(singleChipId, []), (singleLineId, [.new singleChipId .parent])] := by decide +kernel
  cases hdiscover : (LinuxProbe.gpio.toProbe singleLine {}).discover {} with
  | error error =>
    rw [hdiscover] at hshown
    cases hshown
  | ok discovery =>
    rw [hdiscover] at hshown
    obtain ⟨chip, rest, hdevices, hchip, hrest⟩ := List.map_eq_cons_iff.mp (Option.some.inj hshown)
    obtain ⟨line, nothing, rfl, hline, hnil⟩ := List.map_eq_cons_iff.mp hrest
    cases List.map_eq_nil_iff.mp hnil
    have hsound := linux_reports_are_sound .gpio singleLine {} {} discovery hdiscover [chip] [] line hdevices
    refine ⟨discovery, chip, line, rfl, hdevices, ?_, hsound⟩
    rw [(Prod.mk.inj hline).2, (Prod.mk.inj hchip).1]

theorem UartDiscoveryProbe.discover_port {host : DiscoveryHost} {paths : LinuxPaths} {portName : String}
    {device : DeviceDescriptor} (hthere : host.pathExists paths.ttyClassRoot = true)
    (hlisted : host.readDirSorted paths.ttyClassRoot = .ok [joinPath paths.ttyClassRoot portName])
    (hname : fileName (joinPath paths.ttyClassRoot portName) = some portName)
    (hbuilt : buildPortDescriptor host paths portName (joinPath paths.ttyClassRoot portName) = .ok (some device)) :
    discover host paths = .ok { devices := [device] } := by
  have hvisited : visit host paths {} (joinPath paths.ttyClassRoot portName) portName =
      .ok { devices := [device] } := by
    rw [visit, hbuilt]
    rfl
  simp only [discover, discoverEntries, hthere, hlisted, Except.mapError, bind, Except.bind, List.foldlM_cons,
    List.foldlM_nil, hname, Option.elim, hvisited]
  rfl

def bareTerminal : ClassHost where
  pathExists _ := true
  readDir _ := .ok [.ok "ttyS0"]
  readToString _ := .error .notFound
  readLink _ := .error .notFound
  isDir _ := true

theorem bareTerminal_found : ∃ device, LinuxProbe.uart.discover bareTerminal {} = .ok { devices := [device] } ∧
    device.kind = .uartPort := by
  have hname : fileName (joinPath (LinuxPaths.ttyClassRoot {}) "ttyS0") = some "ttyS0" :=
    fileName_joinPath _ ⟨by decide, by decide, by decide, by decide⟩
  have hbuilt : ∃ device, UartDiscoveryProbe.buildPortDescriptor bareTerminal.toDiscoveryHost {} "ttyS0"
      (joinPath (LinuxPaths.ttyClassRoot {}) "ttyS0") = .ok (some device) ∧ device.kind = .uartPort := ⟨_, rfl, rfl⟩
  obtain ⟨device, hbuilt, hkind⟩ := hbuilt
  exact ⟨device, UartDiscoveryProbe.discover_port rfl rfl hname hbuilt, hkind⟩

theorem linux_discovery_fails_only_on_twins (features : LinuxFeatures) (host : ClassHost) (paths : LinuxPaths)
    (availableParallelism : ℕ) (context : DiscoveryContext) :
    ((∃ run, LinuxBackend.discover features host paths availableParallelism context = .ok run) ↔
      ∀ probe discovery, LinuxBackend.Selects features context probe → probe.discover host paths = .ok discovery →
        (discovery.devices.map DeviceDescriptor.id).Nodup) ∧
    (∀ error, LinuxBackend.discover features host paths availableParallelism context = .error error →
      ∃ probe, LinuxBackend.Selects features context probe ∧ ∃ discovery, probe.discover host paths = .ok discovery ∧
        ∃ id, error = .duplicateDeviceId id ∧ 2 ≤ (discovery.devices.map DeviceDescriptor.id).count id) ∧
    (∀ run, LinuxBackend.discover features host paths availableParallelism context = .ok run →
      (∀ device, device ∈ run.snapshot.devices ↔ ∃ probe, LinuxBackend.Selects features context probe ∧
        ∃ discovery, probe.discover host paths = .ok discovery ∧ device ∈ discovery.devices) ∧
      ∀ device ∈ run.snapshot.devices, ∀ link ∈ device.links, run.snapshot.contains link.target = true) := by
  refine ⟨LinuxBackend.discover_isOk_iff, fun error herror => ?_, fun run hrun => ?_⟩
  · obtain ⟨id, rfl, hcount⟩ := runProbes_error LinuxBackend.reportsValid herror
    have hmem := List.count_pos_iff.mp (Nat.lt_of_lt_of_le Nat.zero_lt_two hcount)
    obtain ⟨probe, hselected, discovery, hdiscovery, hsame⟩ := LinuxBackend.count_reported hmem
    exact ⟨probe, hselected, discovery, hdiscovery, id, rfl, hsame ▸ hcount⟩
  · exact ⟨fun _ => LinuxBackend.mem_snapshot hrun,
      LinuxBackend.contains_parents (LinuxBackend.shows_found hrun)⟩

theorem linux_devices_resolve (features : LinuxFeatures) (host : ClassHost) (paths : LinuxPaths)
    (availableParallelism : ℕ)
    (context : DiscoveryContext) (run : DiscoveryRunReport)
    (h : LinuxBackend.discover features host paths availableParallelism context = .ok run) (overflowChecks : Bool) :
    ∃ registered, BuiltInDriverBundle.registerInto overflowChecks {} = .ok registered ∧ ∀ device ∈ run.snapshot.devices,
      (device.matchHints.driverHint = some (driverFor device.interface).id ∧
        registered.resolve device = .ok ⟨(driverFor device.interface).registered overflowChecks,
          (driverFor device.interface).id, (driverFor device.interface).matchResult overflowChecks device⟩ ∧
        LinuxBackend.supportsDevice features device = features.serves device.interface) ∨
      (device.matchHints.driverHint = none ∧ registered.resolve device = .error (.noMatchingDriver device.id) ∧
        LinuxBackend.supportsDevice features device = false) := by
  have hregistered : BuiltInDriverBundle.registerInto overflowChecks {} = .ok _ :=
    BuiltInDriverBundle.registerInto_of_new fun _ _ => List.not_mem_nil
  refine ⟨_, hregistered, fun device hdevice => ?_⟩
  obtain ⟨probe, -, discovery, hdiscovery, hin⟩ := (LinuxBackend.mem_snapshot h).mp hdevice
  have hreported := LinuxProbe.reported_of_mem hdiscovery hin
  obtain ⟨address, haddress, hfits⟩ := hreported.fits
  have hinterface := ((DeviceDescriptor.validate_iff device).mp hreported.valid).1
  have hsupports := LinuxBackend.supportsDevice_of_fits features hreported.valid haddress hfits
  have hhint : device.matchHints.driverHint = hintFor device.kind := hreported.hint
  rw [hintFor, hinterface] at hhint
  have hids : (({} : DriverRegistry).drivers.map Driver.id).Nodup := List.nodup_nil
  have hothers : ∀ other ∈ ({} : DriverRegistry).drivers, (other.matchResult device).isSupported = false :=
    fun _ hother => absurd hother List.not_mem_nil
  have hpreferred : ({} : DriverRegistry).preferredDrivers[device.id]? = none := by simp
  by_cases hkind : device.kind ∈ (driverFor device.interface).kinds
  · rw [if_pos hkind] at hhint
    rw [decide_eq_true hkind, Bool.true_and] at hsupports
    refine .inl ⟨hhint, ?_, hsupports⟩
    exact BuiltInDriverBundle.resolve_builtin hids hregistered hreported.valid hpreferred hothers
      (BuiltInDriverBundle.driverFor_mem device.interface) hkind
  · rw [if_neg hkind] at hhint
    rw [decide_eq_false hkind, Bool.false_and] at hsupports
    refine .inr ⟨hhint, ?_, hsupports⟩
    apply BuiltInDriverBundle.resolve_unmatched hids hregistered hreported.valid hpreferred hothers
    intro driver hdriver hother
    have hown := (BuiltInDriverBundle.declared driver hdriver).2.1 _ hother
    rw [BuiltInDriverBundle.eq_driverFor hdriver, ← hown, hinterface] at hother
    exact hkind hother

def everything : LinuxFeatures := ⟨⟨true, true⟩, true, true, true, true, true⟩

def uartScan : DiscoveryContext := { requestedInterfaces := .collect [.uart] }

theorem uartScan_wants_iff (interface : InterfaceKind) : uartScan.wants interface = true ↔ interface = .uart := by
  have hin : InterfaceKind.uart ∈ uartScan.requestedInterfaces :=
    (BTreeSet.mem_collect _ _).mpr (List.mem_singleton_self _)
  have hsome : uartScan.requestedInterfaces ≠ ∅ := by
    intro hnone
    rw [hnone] at hin
    exact Std.ExtTreeSet.not_mem_empty hin
  simp only [DiscoveryContext.wants, Bool.or_eq_true, Std.ExtTreeSet.isEmpty_iff, hsome, false_or,
    Std.ExtTreeSet.contains_iff_mem]
  rw [uartScan, BTreeSet.mem_collect, List.mem_singleton]

theorem uartScan_selects_iff {probe : LinuxProbe} : LinuxBackend.Selects everything uartScan probe ↔ probe = .uart := by
  rw [LinuxBackend.Selects, uartScan_wants_iff]
  cases probe <;> decide

theorem bareTerminal_run : ∃ run device, LinuxBackend.discover everything bareTerminal {} 1 uartScan = .ok run ∧
    device ∈ run.snapshot.devices ∧ device.kind = .uartPort := by
  obtain ⟨device, hfound, hkind⟩ := bareTerminal_found
  have hruns := (@LinuxBackend.discover_isOk_iff everything bareTerminal {} uartScan 1).mpr (by
    intro probe discovery hselected hdiscovery
    rw [uartScan_selects_iff.mp hselected, hfound] at hdiscovery
    cases hdiscovery
    exact List.nodup_singleton _)
  obtain ⟨run, hrun⟩ := hruns
  have hthere := (LinuxBackend.mem_snapshot hrun).mpr
    ⟨.uart, uartScan_selects_iff.mpr rfl, _, hfound, List.mem_singleton_self device⟩
  exact ⟨run, device, hrun, hthere, hkind⟩

theorem bareTerminal_resolves : ∃ run registered,
    LinuxBackend.discover everything bareTerminal {} 1 uartScan = .ok run ∧
    BuiltInDriverBundle.registerInto true {} = .ok registered ∧ ∀ device ∈ run.snapshot.devices,
      (device.matchHints.driverHint = some (driverFor device.interface).id ∧
        registered.resolve device = .ok ⟨(driverFor device.interface).registered true,
          (driverFor device.interface).id, (driverFor device.interface).matchResult true device⟩ ∧
        LinuxBackend.supportsDevice everything device = everything.serves device.interface) ∨
      (device.matchHints.driverHint = none ∧ registered.resolve device = .error (.noMatchingDriver device.id) ∧
        LinuxBackend.supportsDevice everything device = false) := by
  obtain ⟨run, _, hrun, -⟩ := bareTerminal_run
  obtain ⟨registered, hregistered, hresolves⟩ :=
    linux_devices_resolve everything bareTerminal {} 1 uartScan run hrun true
  exact ⟨run, registered, hrun, hregistered, hresolves⟩

end Lemnos.Linux
