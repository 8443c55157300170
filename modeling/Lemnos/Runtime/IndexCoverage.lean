import Lemnos.Library.Runs
import Lemnos.Discovery.Slots
import Lemnos.Runtime.Ops

namespace Lemnos

open Lemnos.Core Discovery Registry Library.OrderedMap Library.Runs

namespace RuntimeOp

def probes : RuntimeOp → List DiscoveryProbe
  | .refresh _ _ probes | .pollWatcher _ _ probes _ => probes
  | _ => []

def DistinctProbes (op : RuntimeOp) : Prop := (op.probes.map DiscoveryProbe.name).Nodup

instance (op : RuntimeOp) : Decidable op.DistinctProbes :=
  inferInstanceAs (Decidable (op.probes.map DiscoveryProbe.name).Nodup)

end RuntimeOp

theorem watchRefreshScope_sublist {config : RuntimeConfig} {context : DiscoveryContext}
    {probes : List DiscoveryProbe} {watchEvents : List InventoryWatchEvent}
    {scope : DiscoveryContext × List DiscoveryProbe}
    (h : watchRefreshScope config context probes watchEvents = some scope) : scope.2.Sublist probes := by
  have hunscoped : unscopedRefresh config context probes = some scope → scope.2.Sublist probes := by
    intro h
    unfold unscopedRefresh at h
    split at h
    · cases h
    · cases h
      exact List.Sublist.refl _
    · cases h
      exact List.Sublist.refl _
  unfold watchRefreshScope at h
  split at h
  · cases h
    exact List.Sublist.refl _
  · split at h
    · exact hunscoped h
    · simp only at h
      split at h
      · exact hunscoped h
      · split at h
        · exact hunscoped h
        · cases h
          exact List.filter_sublist

theorem System.discoveryOf_attributed {host : Host} {op : RuntimeOp} {sys : System}
    {run : DiscoveryRunReport × RefreshMode} (hop : op.DistinctProbes)
    (h : sys.discoveryOf host op = some run) : run.1.Attributed := by
  have hran : ∀ context probes, probes.Sublist op.probes → ∀ mode,
      (runProbes host.availableParallelism context probes).toOption.map (fun discovery => (discovery, mode)) =
        some run → run.1.Attributed := by
    intro context probes hsub mode hrun
    obtain ⟨discovery, hd, rfl⟩ := Option.map_eq_some_iff.mp hrun
    cases hp : runProbes host.availableParallelism context probes with
    | error error =>
      rw [hp] at hd
      cases hd
    | ok found =>
      rw [hp] at hd
      cases hd
      exact runProbes_attributed hp (hop.sublist (hsub.map _))
  cases op with
  | refresh mode context probes => exact hran context probes (List.Sublist.refl _) mode h
  | pollWatcher mode context probes polled =>
    cases polled with
    | error error => cases h
    | ok watchEvents =>
      simp only [discoveryOf] at h
      split at h
      · cases h
      · obtain ⟨scope, hscope, hrun⟩ := Option.bind_eq_some_iff.mp h
        exact hran scope.1 scope.2 (watchRefreshScope_sublist hscope) mode hrun
  | _ => cases h

/-- A runtime, with the slot under which a committed refresh last reported each device. -/
structure IndexWorld where
  system : System := {}
  lastReported : DeviceId → Option ProbeSlot := fun _ => none

namespace IndexWorld

def report (world : IndexWorld) (run : Option (DiscoveryRunReport × RefreshMode)) (deviceId : DeviceId) :
    Option ProbeSlot :=
  (run.bind (fun run => run.1.slotOf deviceId)).or (world.lastReported deviceId)

def step (host : Host) (op : RuntimeOp) (world : IndexWorld) : Option IndexWorld :=
  if op.DistinctProbes then
    some ⟨world.system.exec host op, world.report (world.system.committedRun host op)⟩
  else none

def init (config : RuntimeConfig) : IndexWorld := { system := { runtime := { config } } }

def inventory (world : IndexWorld) : InventorySnapshot := world.system.runtime.inventory

def index (world : IndexWorld) : ProbeInventoryIndex := world.system.runtime.probeInventory

/-- The index attributes every device of the inventory to the slot that last reported it. -/
def Covered (world : IndexWorld) : Prop :=
  ∀ device ∈ world.inventory.devices, ∃ probe, world.lastReported device.id = some (probe, device.interface) ∧
    world.index.Attributes probe device.interface device.id

/-- An incremental refresh that refreshes a device's slot does not take the device for a duplicate, and
leaves under its id just what it found. -/
def Replaces (host : Host) (world : IndexWorld) : Prop :=
  ∀ device ∈ world.inventory.devices, ∀ slot, world.lastReported device.id = some slot →
    ∀ context probes run, runProbes host.availableParallelism context probes = .ok run → run.Refreshes slot →
      (world.system.refreshIncremental host context probes).1 ≠
          .error (.discovery (.duplicateDeviceId device.id)) ∧
        ∀ refreshed, (world.system.refreshIncremental host context probes).1 = .ok refreshed →
          (world.system.refreshIncremental host context probes).2.runtime.inventory.get device.id =
            run.snapshot.get device.id

/-- A full refresh of this discovery keeps devices whose slots it does not record again. -/
def Degrades (world : IndexWorld) (run : DiscoveryRunReport) : Prop :=
  world.system.runtime.running = true ∧ run.hasProbeFailures = true ∧
    (∃ device ∈ world.inventory.devices,
      world.index.wasReplacedByRun device.id device.interface run = false) ∧
    ∀ device ∈ world.inventory.devices, world.index.wasReplacedByRun device.id device.interface run = false →
      device.id ∉ run.snapshot.devices.map DeviceDescriptor.id

/-- No shutdown with devices in the inventory, and no full refresh that keeps devices. -/
def Keeps (host : Host) (op : RuntimeOp) (world : IndexWorld) : Prop :=
  (op = .shutdown → world.inventory.devices = []) ∧
    ∀ run, world.system.discoveryOf host op = some (run, .full) → ¬ world.Degrades run

instance (world : IndexWorld) (run : DiscoveryRunReport) : Decidable (world.Degrades run) :=
  inferInstanceAs (Decidable (_ ∧ _ ∧ (∃ device ∈ world.inventory.devices, _) ∧
    ∀ device ∈ world.inventory.devices, _ → _))

theorem keeps_iff {host : Host} {op : RuntimeOp} {world : IndexWorld} :
    ((op.isShutdown = true → world.inventory.devices = []) ∧
      ∀ entry ∈ world.system.discoveryOf host op, entry.2 = .full → ¬ world.Degrades entry.1) ↔
    world.Keeps host op := by
  have hshutdown : op.isShutdown = true ↔ op = .shutdown := by cases op <;> simp [RuntimeOp.isShutdown]
  rw [Keeps, hshutdown]
  refine and_congr_right fun _ => ⟨fun h run hrun => h (run, .full) hrun rfl, ?_⟩
  rintro h ⟨run, mode⟩ hentry rfl
  exact h run hentry

instance (host : Host) (op : RuntimeOp) (world : IndexWorld) : Decidable (world.Keeps host op) :=
  decidable_of_iff _ keeps_iff

end IndexWorld

namespace IndexWorld

variable {host : Host} {op : RuntimeOp} {world world' : IndexWorld}

theorem report_found {run : DiscoveryRunReport} {mode : RefreshMode} {deviceId : DeviceId} {slot : ProbeSlot}
    (h : run.slotOf deviceId = some slot) : world.report (some (run, mode)) deviceId = some slot := by
  simp [report, h]

theorem report_not_found {run : DiscoveryRunReport} {mode : RefreshMode} {deviceId : DeviceId}
    (h : ∀ device ∈ run.snapshot.devices, device.id ≠ deviceId) :
    world.report (some (run, mode)) deviceId = world.lastReported deviceId := by
  simp [report, DiscoveryRunReport.slotOf_not_found h]

theorem covered_incremental {run : DiscoveryRunReport} (hrun : run.Attributed) {next : InventorySnapshot}
    (h : world.Covered) (hnext : world.index.mergeSnapshot world.inventory run = .ok next)
    (hinventory : world'.inventory = next) (hindex : world'.index = world.index.recordRun run)
    (hlast : world'.lastReported = world.report (some (run, .incremental))) : world'.Covered := by
  intro device hd
  rw [hinventory] at hd
  rw [hindex, hlast]
  rcases (ProbeInventoryIndex.mergeSnapshot_mem hnext device).mp hd with ⟨hcurrent, hkept⟩ | hfound
  · -- a device that the merge kept is in a slot that the run did not refresh
    obtain ⟨probe, hslot, ha⟩ := h device hcurrent
    have hgone : ∀ found ∈ run.snapshot.devices, found.id ≠ device.id := fun found hf =>
      (ProbeInventoryIndex.mergeSnapshot_retained_not_found hnext hcurrent hkept hf).symm
    refine ⟨probe, by rw [report_not_found hgone, hslot], ?_⟩
    refine (ProbeInventoryIndex.recordRun_attributes_iff hrun _ _ _ _).mpr (.inr ⟨?_, ha⟩)
    intro hr
    rw [ProbeInventoryIndex.wasReplacedByRun_of_refreshes hr ha] at hkept
    cases hkept
  · obtain ⟨probe, hslot⟩ := DiscoveryRunReport.slotOf_found hrun hfound
    exact ⟨probe, report_found hslot,
      (ProbeInventoryIndex.recordRun_attributes_iff hrun _ _ _ _).mpr (.inl hslot)⟩

theorem covered_full_iff {run : DiscoveryRunReport} (hrun : run.Attributed)
    (hindex : world'.index = .fromRun run) (hlast : world'.lastReported = world.report (some (run, .full))) :
    world'.Covered ↔ ∀ device ∈ world'.inventory.devices, ∃ found ∈ run.snapshot.devices,
      found.id = device.id ∧ found.interface = device.interface := by
  constructor
  · intro h device hd
    obtain ⟨probe, -, ha⟩ := h device hd
    rw [hindex] at ha
    exact DiscoveryRunReport.slotOf_device ((ProbeInventoryIndex.fromRun_attributes_iff hrun _ _ _).mp ha)
  · intro h device hd
    obtain ⟨found, hfound, hid, hi⟩ := h device hd
    obtain ⟨probe, hslot⟩ := DiscoveryRunReport.slotOf_found hrun hfound
    rw [hid, hi] at hslot
    refine ⟨probe, by rw [hlast, report_found hslot], ?_⟩
    rw [hindex]
    exact (ProbeInventoryIndex.fromRun_attributes_iff hrun _ _ _).mpr hslot

theorem not_degrades_of_uncommitted {run : DiscoveryRunReport}
    (hd : world.system.discoveryOf host op = some (run, .full))
    (hc : world.system.committedRun host op = none) : ¬ world.Degrades run := by
  rintro ⟨hrunning, hfail, -, hfresh⟩
  have hnext : ∀ error, world.system.runtime.nextInventory run .full ≠ .error error := by
    intro error herror
    simp only [Runtime.nextInventory, Runtime.materializeRefreshInventory, hfail, if_true] at herror
    obtain ⟨device, hdevice, -, hr, hid⟩ := ProbeInventoryIndex.mergeSnapshot_error herror
    exact hfresh device hdevice hr hid
  cases hn : world.system.runtime.nextInventory run .full with
  | error error => exact hnext error hn
  | ok next =>
    rw [System.committedRun_eq_some.mpr ⟨hd, hrunning, next, hn⟩] at hc
    cases hc

theorem full_found_iff {run : DiscoveryRunReport} {next : InventorySnapshot}
    (hrunning : world.system.runtime.running = true)
    (hn : world.system.runtime.nextInventory run .full = .ok next) :
    (∀ device ∈ next.devices, ∃ found ∈ run.snapshot.devices,
      found.id = device.id ∧ found.interface = device.interface) ↔ ¬ world.Degrades run := by
  cases hfail : run.hasProbeFailures with
  | false =>
    simp only [Runtime.nextInventory, Runtime.materializeRefreshInventory, hfail, Bool.false_eq_true,
      if_false, Except.ok.injEq] at hn
    subst hn
    refine iff_of_true (fun device hdevice => ⟨device, hdevice, rfl, rfl⟩) ?_
    rintro ⟨-, hfailed, -⟩
    rw [hfail] at hfailed
    cases hfailed
  | true =>
    -- the devices that the merge retains are in no slot of the degraded run's index
    simp only [Runtime.nextInventory, Runtime.materializeRefreshInventory, hfail, if_true] at hn
    have hfresh : ∀ device ∈ world.inventory.devices,
        world.index.wasReplacedByRun device.id device.interface run = false →
          ∀ found ∈ run.snapshot.devices, device.id ≠ found.id := fun device hdevice hr found hf =>
      ProbeInventoryIndex.mergeSnapshot_retained_not_found hn hdevice hr hf
    constructor
    · rintro hfound ⟨-, -, ⟨device, hdevice, hr⟩, -⟩
      have hmem := (ProbeInventoryIndex.mergeSnapshot_mem hn device).mpr (.inl ⟨hdevice, hr⟩)
      obtain ⟨found, hf, hid, -⟩ := hfound device hmem
      exact hfresh device hdevice hr found hf hid.symm
    · intro hdeg device hdevice
      rcases (ProbeInventoryIndex.mergeSnapshot_mem hn device).mp hdevice with ⟨hcurrent, hr⟩ | hf
      · refine absurd ⟨hrunning, hfail, ⟨device, hcurrent, hr⟩, ?_⟩ hdeg
        intro other hother hr' hid
        obtain ⟨found, hf, heq⟩ := List.mem_map.mp hid
        exact hfresh other hother hr' found hf heq.symm
      · exact ⟨device, hf, rfl, rfl⟩

theorem step_refresh_covered_iff (h : world.Covered) (hop : op.isRefresh = true) (hnames : op.DistinctProbes)
    (hworld : world' = ⟨world.system.exec host op, world.report (world.system.committedRun host op)⟩) :
    world'.Covered ↔ world.Keeps host op := by
  have hshutdown : op = .shutdown → world.inventory.devices = [] := by
    rintro rfl
    cases hop
  cases hc : world.system.committedRun host op with
  | none =>
    rw [hc, System.exec_uncommitted hop hc] at hworld
    subst hworld
    exact iff_of_true h ⟨hshutdown, fun run hd => not_degrades_of_uncommitted hd hc⟩
  | some committed =>
    obtain ⟨run, mode⟩ := committed
    obtain ⟨hd, hrunning, -⟩ := System.committedRun_eq_some.mp hc
    obtain ⟨next, hn, hinventory, hindex⟩ := System.exec_committedRun_index hc
    have hrun : run.Attributed := System.discoveryOf_attributed hnames hd
    have hlast : world'.lastReported = world.report (some (run, mode)) := by rw [hworld, hc]
    have hinventory' : world'.inventory = next := by rw [hworld]; exact hinventory
    have hindex' : world'.index = Runtime.nextProbeInventory world.index run mode := by
      rw [hworld]; exact hindex
    cases mode with
    | incremental =>
      refine iff_of_true (covered_incremental hrun h hn hinventory' hindex' hlast) ⟨hshutdown, ?_⟩
      intro other hother
      rw [hd] at hother
      cases hother
    | full =>
      rw [covered_full_iff hrun hindex' hlast, hinventory']
      have hkeeps : world.Keeps host op ↔ ¬ world.Degrades run := by
        refine ⟨fun hk => hk.2 run hd, fun hdeg => ⟨hshutdown, ?_⟩⟩
        intro other hother
        rw [hd] at hother
        cases hother
        exact hdeg
      rw [hkeeps]
      exact full_found_iff hrunning hn

theorem committedRun_of_not_refresh {sys : System} (hop : op.isRefresh = false) :
    sys.discoveryOf host op = none := by
  cases hd : sys.discoveryOf host op with
  | none => rfl
  | some run =>
    rw [System.discoveryOf_isRefresh hd] at hop
    cases hop

theorem shutdown_covered_iff (host : Host) (world : IndexWorld) (lastReported : DeviceId → Option ProbeSlot) :
    Covered ⟨world.system.exec host .shutdown, lastReported⟩ ↔ world.inventory.devices = [] := by
  constructor
  · intro hcovered
    refine List.eq_nil_iff_forall_not_mem.mpr ?_
    intro device hdevice
    have hmem : device ∈ (world.system.exec host .shutdown).runtime.inventory.devices := by
      rw [System.exec, System.shutdown_inventory]
      exact hdevice
    obtain ⟨probe, -, ha⟩ := hcovered device hmem
    rw [index, System.exec, System.shutdown_probeInventory] at ha
    exact ProbeInventoryIndex.not_attributes_empty _ _ _ ha
  · intro hempty device hdevice
    rw [inventory, System.exec, System.shutdown_inventory] at hdevice
    rw [inventory] at hempty
    rw [hempty] at hdevice
    cases hdevice

theorem step_covered_iff (h : world.Covered) (hs : world.step host op = some world') :
    world'.Covered ↔ world.Keeps host op := by
  obtain ⟨hnames, hworld⟩ : op.DistinctProbes ∧
      world' = ⟨world.system.exec host op, world.report (world.system.committedRun host op)⟩ := by
    unfold step at hs
    split at hs
    · rename_i hnames
      cases hs
      exact ⟨hnames, rfl⟩
    · cases hs
  cases hop : op.isRefresh with
  | true => exact step_refresh_covered_iff h hop hnames hworld
  | false =>
    have hd : world.system.discoveryOf host op = none := committedRun_of_not_refresh hop
    have hc : world.system.committedRun host op = none := by rw [System.committedRun, hd]; rfl
    have hfull : ∀ run, world.system.discoveryOf host op = some (run, .full) → ¬ world.Degrades run := by
      intro run hrun
      rw [hd] at hrun
      cases hrun
    rw [hc] at hworld
    subst hworld
    by_cases hshutdown : op = .shutdown
    · subst hshutdown
      have hkeeps : world.Keeps host .shutdown ↔ world.inventory.devices = [] :=
        ⟨fun hk => hk.1 rfl, fun hempty => ⟨fun _ => hempty, hfull⟩⟩
      rw [hkeeps]
      exact shutdown_covered_iff host world _
    · obtain ⟨hinventory, hindex⟩ := System.exec_sameIndex host world.system hop hshutdown
      refine iff_of_true ?_ ⟨fun heq => absurd heq hshutdown, hfull⟩
      intro device hdevice
      rw [inventory, hinventory] at hdevice
      rw [index, hindex]
      exact h device hdevice

theorem Covered.replaced (h : world.Covered) {device : DeviceDescriptor}
    (hd : device ∈ world.inventory.devices) {slot : ProbeSlot}
    (hslot : world.lastReported device.id = some slot)
    {run : DiscoveryRunReport} (hrun : run.Refreshes slot) :
    world.index.wasReplacedByRun device.id device.interface run = true := by
  obtain ⟨probe, hlast, ha⟩ := h device hd
  rw [hlast] at hslot
  cases hslot
  exact ProbeInventoryIndex.wasReplacedByRun_of_refreshes hrun ha

theorem Covered.replaces (host : Host) (h : world.Covered) : world.Replaces host := by
  intro device hd slot hslot context probes run hran hrun
  have hreplaced := h.replaced hd hslot hrun
  simp only [System.refreshIncremental, System.refreshWithMode, hran]
  cases hrunning : world.system.runtime.running with
  | false => simp
  | true =>
    simp only [Bool.not_true, Bool.false_eq_true, if_false]
    cases hn : world.system.runtime.nextInventory run .incremental with
    | error error =>
      obtain ⟨other, hother, rfl, hr, -⟩ := ProbeInventoryIndex.mergeSnapshot_error hn
      have hc : world.system.runtime.prepareRefreshCommit host.layout run .incremental =
          .error (.discovery (.duplicateDeviceId other.id)) := by
        simp [Runtime.prepareRefreshCommit, hrunning, hn]
      rw [System.finishRefresh_of_error hc]
      refine ⟨?_, fun refreshed hok => by cases hok⟩
      intro heq
      simp only [Except.error.injEq, RuntimeError.discovery.injEq,
        DiscoveryError.duplicateDeviceId.injEq] at heq
      -- the device that was not replaced would be this one
      rw [world.inventory.eq_of_id_eq hother hd heq] at hr
      rw [index] at hreplaced
      rw [hr] at hreplaced
      cases hreplaced
    | ok next =>
      have hsame := System.finishRefresh_sameDiscovery host hrunning hn
      rw [Runtime.commitRefresh_snd] at hsame
      refine ⟨by rw [System.finishRefresh_of_nextInventory hrunning hn]; simp, fun refreshed _ => ?_⟩
      rw [hsame.inventory]
      apply Option.ext
      intro found
      rw [ProbeInventoryIndex.mergeSnapshot_get hn]
      refine ⟨?_, .inr⟩
      rintro (⟨hcurrent, hr⟩ | hfound)
      · cases ((world.inventory.get_eq_some device.id device).mpr ⟨hd, rfl⟩).symm.trans hcurrent
        rw [index] at hreplaced
        rw [hr] at hreplaced
        cases hreplaced
      · exact hfound

/-- The index covers the inventory all through a run, with what this means for later incremental refreshes,
exactly when the run never shuts down with devices in the inventory and no degraded full refresh of it keeps
any. -/
theorem run_covered_iff (host : Host) (config : RuntimeConfig) (ops : List RuntimeOp) (world : IndexWorld)
    (hrun : run (step host) ops (init config) = some world) :
    (∀ before after reached, ops = before ++ after → run (step host) before (init config) = some reached →
      reached.Covered ∧ reached.Replaces host) ↔ Along (step host) (Keeps host) ops (init config) := by
  have hinit : (init config).Covered := by
    intro device hd
    cases hd
  rw [← always_iff_along (fun op before after h hs => step_covered_iff h hs) hinit hrun]
  constructor
  · intro h before after reached hsplit hreached
    exact (h before after reached hsplit hreached).1
  · intro h before after reached hsplit hreached
    have hcovered := h before after reached hsplit hreached
    exact ⟨hcovered, hcovered.replaces host⟩

def chipProbe (answer : DiscoveryResult ProbeDiscovery) : DiscoveryProbe :=
  ⟨"linux-gpio", [.gpio], fun _ => answer⟩

def findsLine : DiscoveryProbe := chipProbe (.ok { devices := [gpioLineDescriptor] })

def restartOps : List RuntimeOp := [.refresh .full {} [findsLine], .shutdown, .start]

def degradedOps : List RuntimeOp :=
  [.refresh .full {} [findsLine], .refresh .full {} [chipProbe (.error (.probeFailed "linux-gpio" "busy"))]]

def coveredOps : List RuntimeOp :=
  [.registerDriver gpioDriver, .refresh .full {} [findsLine], .bind gpioLine,
    .refresh .incremental {} [gpioProbe [classLine]],
    .refresh .full {} [findsLine, ⟨"linux-i2c", [.i2c], fun _ => .error (.probeFailed "linux-i2c" "busy")⟩],
    .refresh .full {} [gpioProbe []], .shutdown, .start, .refresh .full {} [findsLine]]

theorem run_covered_iff_coveredOps :
    ∃ world, run (step .quiet) coveredOps (init {}) = some world ∧ world.inventory.devices = [gpioLineDescriptor] ∧
      ∀ before after reached, coveredOps = before ++ after → run (step .quiet) before (init {}) = some reached →
        reached.Covered ∧ reached.Replaces .quiet :=
  ⟨_, rfl, by decide, (run_covered_iff .quiet {} coveredOps _ rfl).mpr (by decide)⟩

theorem not_covered_of_index_empty {world : IndexWorld}
    (hd : gpioLineDescriptor ∈ world.inventory.devices) (hindex : world.index = {}) : ¬ world.Covered := by
  intro h
  obtain ⟨probe, -, ha⟩ := h gpioLineDescriptor hd
  rw [hindex] at ha
  exact ProbeInventoryIndex.not_attributes_empty _ _ _ ha

theorem restart_and_degraded_refresh_lose_index :
    (∃ world, run (step .quiet) restartOps (init {}) = some world ∧ ¬ world.Covered ∧
      (world.system.refreshIncremental .quiet {} [findsLine]).1 =
        .error (.discovery (.duplicateDeviceId gpioLine))) ∧
    ∃ world, run (step .quiet) degradedOps (init {}) = some world ∧ ¬ world.Covered ∧
      (world.system.refreshIncremental .quiet {} [findsLine]).1 =
        .error (.discovery (.duplicateDeviceId gpioLine)) := by
  refine ⟨⟨_, rfl, not_covered_of_index_empty ?_ ?_, rfl⟩, ⟨_, rfl, not_covered_of_index_empty ?_ ?_, rfl⟩⟩
  · decide
  · decide
  · decide
  · decide

end IndexWorld

end Lemnos
