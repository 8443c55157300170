import Lemnos.Mock.Listing
import Lemnos.Runtime.Ops

/-! A runtime that refreshes from the mock hardware while devices come and go. -/

namespace Lemnos.Mock

open Lemnos.Core Discovery Drivers Library Library.OrderedMap Library.Runs MockHardware

namespace MockHardware

def discover (hardware : MockHardwareState) (context : DiscoveryContext) : DiscoveryResult ProbeDiscovery :=
  .ok
    { devices := (descriptors hardware).filter fun device => context.wants device.interface
      notes := ["mock hardware inventory"] }

def probe (hardware : MockHardwareState) : DiscoveryProbe := ⟨backendName, interfaces, discover hardware⟩

end MockHardware

theorem shown_empty (interface : InterfaceKind) (key : DeviceId) : shown interface key {} = none := by
  cases interface <;>
    simp [shown, Table.at, deviceTable, gpioLines, pwmChannels, i2cDevices, spiDevices, uartPorts, usbDevices]

theorem empty_inventoried : Inventoried {} where
  stocked interface key descriptors hlisted := by
    rw [shown_empty] at hlisted
    cases hlisted
  owned key descriptors hlisted := by
    rw [shown_empty] at hlisted
    cases hlisted

/-- The hardware as each interface was last seen. -/
abbrev Seen := InterfaceKind → {hardware : MockHardwareState // Inventoried hardware}

def Seen.devices (seen : Seen) : List DeviceDescriptor :=
  interfaces.flatMap fun interface => listing interface (seen interface).1

theorem Seen.mem_devices {seen : Seen} {device : DeviceDescriptor} :
    device ∈ seen.devices ↔ device ∈ descriptors (seen device.interface).1 := by
  simp only [Seen.devices, List.mem_flatMap, mem_descriptors]
  constructor
  · rintro ⟨interface, -, hin⟩
    have hinterface := (made_of_listing (seen interface).2 hin).interface_eq
    exact ⟨interface, by rwa [hinterface]⟩
  · rintro ⟨interface, hin⟩
    have hinterface := (made_of_listing (seen device.interface).2 hin).interface_eq
    exact ⟨device.interface, mem_interfaces _, by rwa [← hinterface] at hin⟩

theorem Seen.devices_ids_nodup (seen : Seen) : (seen.devices.map DeviceDescriptor.id).Nodup :=
  ids_nodup_of_inventoried fun interface => (seen interface).2

/-- The mock hardware's probe, over hardware of which each interface may have been seen at another time. -/
def seenProbes : ProbeSet Seen where
  specs := [(backendName, interfaces)]
  devices seen _ := seen.devices
  discover seen _ context :=
    .ok
      { devices := sortedById (seen.devices.filter fun device => context.wants device.interface)
        notes := ["mock hardware inventory"] }
  names_nodup := List.nodup_singleton _
  on_interfaces _ spec hspec device _ := by
    obtain rfl := List.mem_singleton.mp hspec
    exact mem_interfaces device.interface
  ids_nodup seen := by
    rw [List.flatMap_cons, List.flatMap_nil, List.append_nil]
    exact seen.devices_ids_nodup
  honours seen spec hspec context discovery hdiscovery := by
    obtain rfl := List.mem_singleton.mp hspec
    cases hdiscovery
    refine (sortedById_perm _).trans (List.Perm.of_eq ?_)
    apply List.filter_congr
    intro device _
    simp [mem_selectedInterfaces, mem_interfaces]

theorem mem_all {seen : Seen} {device : DeviceDescriptor} :
    device ∈ seenProbes.all seen ↔ device ∈ descriptors (seen device.interface).1 := by
  rw [← Seen.mem_devices, ProbeSet.all]
  simp [seenProbes]

theorem seenProbes_succeeds (seen : Seen) (context : DiscoveryContext) : seenProbes.Succeeds seen context := by
  intro spec hspec _
  refine ⟨_, rfl, ?_⟩
  intro device hdevice
  have hin := (List.mem_filter.mp ((sortedById_perm _).mem_iff.mp hdevice)).1
  exact (made_of_descriptors (seen device.interface).2 (Seen.mem_devices.mp hin)).valid

theorem discover_seen {seen : Seen} {hardware : MockHardwareState} {context : DiscoveryContext}
    (h : ∀ interface, context.wants interface = true → (seen interface).1 = hardware) (spec : ProbeSpec)
    (hinventoried : Inventoried hardware) : seenProbes.discover seen spec context = discover hardware context := by
  have hsame : sortedById (seen.devices.filter fun device => context.wants device.interface) =
      (descriptors hardware).filter fun device => context.wants device.interface := by
    have hwanted := (seen.devices_ids_nodup).sublist ((List.filter_sublist (p := fun device =>
      context.wants device.interface)).map DeviceDescriptor.id)
    have hsorted := (descriptors_sorted hinventoried).filter fun device => context.wants device.interface
    refine eq_of_pairwise_ids ?_ (sortedById_pairwise hwanted) hsorted
    have hnodup := (descriptors_ids_nodup hinventoried).sublist ((List.filter_sublist (p := fun device =>
      context.wants device.interface)).map DeviceDescriptor.id)
    refine (sortedById_perm _).trans
      ((List.perm_ext_iff_of_nodup (List.Nodup.of_map _ hwanted) (List.Nodup.of_map _ hnodup)).mpr ?_)
    intro device
    simp only [List.mem_filter, Seen.mem_devices]
    constructor
    · rintro ⟨hin, hwants⟩
      rw [h device.interface hwants] at hin
      exact ⟨hin, hwants⟩
    · rintro ⟨hin, hwants⟩
      rw [h device.interface hwants]
      exact ⟨hin, hwants⟩
  simp only [seenProbes, discover, hsame]

theorem runProbes_congr {availableParallelism : ℕ} {context : DiscoveryContext} {name : String}
    {interfaces : List InterfaceKind} {find find' : DiscoveryContext → DiscoveryResult ProbeDiscovery}
    (h : find context = find' context) :
    runProbes availableParallelism context [⟨name, interfaces, find⟩] =
      runProbes availableParallelism context [⟨name, interfaces, find'⟩] := by
  simp only [runProbes, runSelectedProbes_snd, selectProbes, selectProbe, List.filterMap_cons, List.filterMap_nil]
  cases (selectedInterfaces context interfaces).isEmpty with
  | true => rfl
  | false => simp [processProbeResults, processProbeResult, h]

def Seen.refreshed (seen : Seen) (context : DiscoveryContext) (hardware : {hardware // Inventoried hardware}) : Seen :=
  fun interface => if context.wants interface then hardware else seen interface

section Runtime

variable {host : Host} {sys : System} {hardware : MockHardwareState}

theorem runProbes_seen {seen : Seen} (hinventoried : Inventoried hardware) (availableParallelism : ℕ)
    (context : DiscoveryContext) : runProbes availableParallelism context [probe hardware] =
      runProbes availableParallelism context (seenProbes.probes (seen.refreshed context ⟨hardware, hinventoried⟩)) := by
  apply runProbes_congr
  refine (discover_seen ?_ (backendName, interfaces) hinventoried).symm
  intro interface hwants
  rw [Seen.refreshed, if_pos hwants]

theorem changes_refreshed {seen : Seen} {now : {hardware // Inventoried hardware}} {context : DiscoveryContext}
    {interface : InterfaceKind} (h : seenProbes.Changes seen (seen.refreshed context now) interface) :
    context.wants interface = true := by
  obtain ⟨device, rfl, hchanged⟩ := h
  by_contra hwants
  apply hchanged
  rw [mem_all, mem_all, Seen.refreshed, if_neg hwants]

theorem no_probe_failures {seen : Seen} {availableParallelism : ℕ} {context : DiscoveryContext}
    {run : DiscoveryRunReport} (h : runProbes availableParallelism context (seenProbes.probes seen) = .ok run) :
    run.hasProbeFailures = false := by
  rw [DiscoveryRunReport.hasProbeFailures_eq_false, (runProbes_ok h).2.1]
  intro report hreport
  obtain ⟨selected, hselected, rfl⟩ := List.mem_map.mp hreport
  obtain ⟨spec, hspec, hne, rfl⟩ := (ProbeSet.mem_selectProbes selected).mp hselected
  rfl

theorem mirrors_of_mem {seen : Seen} {inventory inventory' : InventorySnapshot} {index : ProbeInventoryIndex}
    (h : seenProbes.Mirrors seen inventory index)
    (hmem : ∀ device, device ∈ inventory'.devices ↔ device ∈ inventory.devices) :
    seenProbes.Mirrors seen inventory' index where
  shows_all device := (hmem device).trans (h.shows_all device)
  covers device hdevice := h.covers device ((hmem device).mp hdevice)
  known := h.known

def Seen.nothing : Seen := fun _ => ⟨{}, empty_inventoried⟩

theorem mirrors_nothing : seenProbes.Mirrors Seen.nothing {} {} where
  shows_all device := by
    rw [mem_all]
    refine iff_of_false List.not_mem_nil ?_
    intro hin
    obtain ⟨interface, hlisted⟩ := mem_descriptors.mp hin
    obtain ⟨key, descriptors, hshown, -⟩ := mem_listing.mp hlisted
    rw [Seen.nothing, shown_empty] at hshown
    cases hshown
  covers device hdevice := absurd hdevice List.not_mem_nil
  known probe interface id hattributes := absurd hattributes (ProbeInventoryIndex.not_attributes_empty probe interface id)

def Seen.after (seen : Seen) (mode : RefreshMode) (context : DiscoveryContext)
    (now : {hardware // Inventoried hardware}) : Seen :=
  match mode with
  | .incremental => seen.refreshed context now
  | .full => Seen.nothing.refreshed context now

theorem nextInventory_mirrors {seen : Seen} (hinventoried : Inventoried hardware)
    (h : seenProbes.Mirrors seen sys.runtime.inventory sys.runtime.probeInventory) (mode : RefreshMode)
    (context : DiscoveryContext) : ∃ run next,
      runProbes host.availableParallelism context [probe hardware] = .ok run ∧
      sys.runtime.nextInventory run mode = .ok next ∧
      seenProbes.Mirrors (seen.after mode context ⟨hardware, hinventoried⟩) next
        (Runtime.nextProbeInventory sys.runtime.probeInventory run mode) := by
  cases mode with
  | incremental =>
    obtain ⟨run, hrun⟩ := ProbeSet.runProbes_of_succeeds host.availableParallelism
      (seenProbes_succeeds (seen.refreshed context ⟨hardware, hinventoried⟩) context)
    obtain ⟨next, hnext, hmirrors⟩ := h.merge (seenProbes_succeeds _ context) hrun fun _ => changes_refreshed
    exact ⟨run, next, (runProbes_seen hinventoried _ context).trans hrun, hnext, hmirrors⟩
  | full =>
    obtain ⟨run, hrun⟩ := ProbeSet.runProbes_of_succeeds host.availableParallelism
      (seenProbes_succeeds (Seen.nothing.refreshed context ⟨hardware, hinventoried⟩) context)
    obtain ⟨next, hnext, hmirrors⟩ := mirrors_nothing.merge (seenProbes_succeeds _ context) hrun
      fun _ => changes_refreshed
    refine ⟨run, run.snapshot, (runProbes_seen hinventoried _ context).trans hrun, ?_, mirrors_of_mem hmirrors ?_⟩
    · rw [Runtime.nextInventory, Runtime.materializeRefreshInventory, no_probe_failures hrun]
      rfl
    · intro device
      rw [ProbeInventoryIndex.mergeSnapshot_mem hnext]
      exact (or_iff_right fun hbefore => absurd hbefore.1 List.not_mem_nil).symm

theorem mem_after {seen : Seen} {hinventoried : Inventoried hardware}
    (h : seenProbes.Mirrors seen sys.runtime.inventory sys.runtime.probeInventory) (mode : RefreshMode)
    (context : DiscoveryContext) (device : DeviceDescriptor) :
    device ∈ seenProbes.all (seen.after mode context ⟨hardware, hinventoried⟩) ↔
      if context.wants device.interface then device ∈ descriptors hardware
      else mode = .incremental ∧ device ∈ sys.runtime.inventory.devices := by
  rw [mem_all]
  cases mode with
  | incremental =>
    rw [Seen.after, Seen.refreshed, h.shows_all, mem_all]
    by_cases hwants : context.wants device.interface = true
    · rw [if_pos hwants, if_pos hwants]
    · rw [if_neg hwants, if_neg hwants]
      exact (and_iff_right rfl).symm
  | full =>
    rw [Seen.after, Seen.refreshed]
    by_cases hwants : context.wants device.interface = true
    · rw [if_pos hwants, if_pos hwants]
    · rw [if_neg hwants, if_neg hwants, ← mem_all, ← mirrors_nothing.shows_all]
      exact iff_of_false List.not_mem_nil fun hfull => RefreshMode.noConfusion hfull.1

theorem refreshWithMode_spec {seen : Seen} (hinventoried : Inventoried hardware) (hrunning : sys.runtime.running = true)
    (h : seenProbes.Mirrors seen sys.runtime.inventory sys.runtime.probeInventory) (mode : RefreshMode)
    (context : DiscoveryContext) :
    let done := sys.refreshWithMode host context [probe hardware] mode
    (∃ report, done.1 = .ok report) ∧ done.2.runtime.running = true ∧
      seenProbes.Mirrors (seen.after mode context ⟨hardware, hinventoried⟩) done.2.runtime.inventory
        done.2.runtime.probeInventory := by
  obtain ⟨run, next, hrun, hnext, hmirrors⟩ := @nextInventory_mirrors host sys hardware seen hinventoried h mode context
  intro done
  have hdone : done = sys.finishRefresh host run mode := by
    simp only [done, System.refreshWithMode, hrunning, hrun]
    rfl
  have hsame := System.finishRefresh_sameDiscovery host hrunning hnext
  rw [Runtime.commitRefresh_snd] at hsame
  rw [hdone, hsame.inventory, hsame.probeInventory, hsame.running]
  refine ⟨?_, hrunning, hmirrors⟩
  rw [System.finishRefresh_of_nextInventory hrunning hnext]
  exact ⟨_, rfl⟩

end Runtime

section Lab

variable {host : Host} {sys : System}

theorem setRegistry_running (runtime : Runtime) (result : Registry.RegistryResult Registry.DriverRegistry) :
    (runtime.setRegistry result).running = runtime.running := by
  cases result <;> rfl

theorem exec_running {op : RuntimeOp} (hop : op.isRefresh = false) (hshutdown : op.isShutdown = false)
    (hrunning : sys.runtime.running = true) : (sys.exec host op).runtime.running = true := by
  cases op with
  | start => rfl
  | shutdown => cases hshutdown
  | setConfig => exact hrunning
  | registerDriver => exact (setRegistry_running _ _).trans hrunning
  | preferDriver => exact (setRegistry_running _ _).trans hrunning
  | clearPreferredDriver => exact hrunning
  | takeEvents => exact hrunning
  | bind deviceId => exact (System.bind_sameDiscovery host sys deviceId).running.trans hrunning
  | unbind deviceId => exact (System.unbind_sameDiscovery sys deviceId).running.trans hrunning
  | refreshState deviceId => exact (System.refreshState_sameDiscovery host sys deviceId).running.trans hrunning
  | request request => exact (System.request_sameDiscovery host sys request).running.trans hrunning
  | refresh => cases hop
  | pollWatcher => cases hop

structure Lab where
  bench : Bench
  system : System

inductive LabStep where
  | bench (step : TestStep)
  | runtime (op : RuntimeOp)
  | refresh (mode : RefreshMode) (context : DiscoveryContext)

namespace LabStep

def exec (arithmetic : DutyCycleArithmetic) (host : Host) : LabStep → Lab → Option Lab
  | bench step, lab => (step.exec arithmetic lab.bench).map fun bench => { lab with bench }
  | runtime op, lab => some { lab with system := lab.system.exec host op }
  | refresh mode context, lab =>
    some { lab with system := lab.system.exec host (.refresh mode context [probe lab.bench.hardware]) }

def Sound : LabStep → Prop
  | bench step => step.Built
  | runtime op => op.isRefresh = false ∧ op.isShutdown = false
  | refresh _ _ => True

theorem exec_total (arithmetic : DutyCycleArithmetic) (host : Host) (step : LabStep) (lab : Lab) :
    ∃ lab', step.exec arithmetic host lab = some lab' := by
  cases step with
  | bench step =>
    obtain ⟨bench, hexec⟩ := step.exec_total arithmetic lab.bench
    exact ⟨{ lab with bench }, by rw [exec, hexec]; rfl⟩
  | runtime op => exact ⟨_, rfl⟩
  | refresh mode context => exact ⟨_, rfl⟩

end LabStep

structure Lab.Sound (lab : Lab) : Prop where
  inventoried : Inventoried lab.bench.hardware
  running : lab.system.runtime.running = true
  mirrors : ∃ seen, seenProbes.Mirrors seen lab.system.runtime.inventory lab.system.runtime.probeInventory

theorem Lab.Sound.exec {arithmetic : DutyCycleArithmetic} {step : LabStep} {lab lab' : Lab} (h : lab.Sound)
    (hsound : step.Sound) (hexec : step.exec arithmetic host lab = some lab') : lab'.Sound := by
  obtain ⟨seen, hmirrors⟩ := h.mirrors
  cases step with
  | bench step =>
    obtain ⟨bench, hbench, rfl⟩ := Option.map_eq_some_iff.mp hexec
    exact ⟨step.exec_inventoried arithmetic h.inventoried hsound hbench, h.running, seen, hmirrors⟩
  | runtime op =>
    cases hexec
    have hne : op ≠ .shutdown := by
      rintro rfl
      cases hsound.2
    have hsame := System.exec_sameIndex host lab.system hsound.1 hne
    refine ⟨h.inventoried, exec_running hsound.1 hsound.2 h.running, seen, ?_⟩
    rwa [hsame.1, hsame.2]
  | refresh mode context =>
    cases hexec
    have hspec := @refreshWithMode_spec host _ _ _ h.inventoried h.running hmirrors mode context
    exact ⟨h.inventoried, hspec.2.1, _, hspec.2.2⟩

theorem refresh_brings_what_it_asks_for (arithmetic : DutyCycleArithmetic) (host : Host)
    (builder : MockHardwareBuilder) (steps : List LabStep) (hbuilder : builder.Built)
    (hsteps : ∀ step ∈ steps, step.Sound) : ∃ hardware lab, builder.build = some hardware ∧
      Runs.run (LabStep.exec arithmetic host) steps ⟨⟨hardware, []⟩, {}⟩ = some lab ∧
      ∀ mode context,
        let done := lab.system.refreshWithMode host context [probe lab.bench.hardware] mode
        (∃ report, done.1 = .ok report) ∧ ∀ device, device ∈ done.2.runtime.inventory.devices ↔
          if context.wants device.interface then device ∈ descriptors lab.bench.hardware
          else mode = .incremental ∧ device ∈ lab.system.runtime.inventory.devices := by
  obtain ⟨hardware, hbuild, hinventoried⟩ := hbuilder.inventoried
  obtain ⟨lab, hrun⟩ := Runs.run_total (LabStep.exec_total arithmetic host) steps ⟨⟨hardware, []⟩, {}⟩
  have hlab : lab.Sound := Runs.run_invariant_along (fun step lab lab' hinv hstep hexec => hinv.exec hstep hexec)
    ⟨hinventoried, rfl, Seen.nothing, mirrors_nothing⟩ (Runs.along_of_mem hsteps _) hrun
  obtain ⟨seen, hmirrors⟩ := hlab.mirrors
  refine ⟨hardware, lab, hbuild, hrun, ?_⟩
  intro mode context done
  have hspec := @refreshWithMode_spec host _ _ _ hlab.inventoried hlab.running hmirrors mode context
  refine ⟨hspec.1, ?_⟩
  intro device
  rw [hspec.2.2.shows_all]
  exact mem_after hmirrors mode context device

def lineThenPort : List LabStep :=
  [.refresh .full {}, .runtime (.bind mockLine)] ++ lineAndPort.steps.map .bench

theorem port_comes_in : ∃ hardware lab, lineAndPort.builder.build = some hardware ∧
    Runs.run (LabStep.exec zeroRatios .quiet) lineThenPort ⟨⟨hardware, []⟩, {}⟩ = some lab ∧
    ∀ device, device ∈ (lab.system.refreshWithMode .quiet {} [probe lab.bench.hardware]
        .incremental).2.runtime.inventory.devices ↔ device ∈ descriptors lab.bench.hardware := by
  have hsteps : ∀ step ∈ lineThenPort, step.Sound := by
    simp only [lineThenPort, List.forall_mem_append, List.forall_mem_cons, List.forall_mem_map]
    refine ⟨⟨trivial, ⟨rfl, rfl⟩, fun step hstep => absurd hstep List.not_mem_nil⟩, ?_⟩
    exact fun step hstep => lineAndPort_built.steps step hstep
  obtain ⟨hardware, lab, hbuild, hrun, hrefresh⟩ :=
    refresh_brings_what_it_asks_for zeroRatios .quiet lineAndPort.builder lineThenPort lineAndPort_built.builder hsteps
  refine ⟨hardware, lab, hbuild, hrun, ?_⟩
  intro device
  exact ((hrefresh .incremental {}).2 device).trans (by simp [DiscoveryContext.wants])

end Lab

end Lemnos.Mock
