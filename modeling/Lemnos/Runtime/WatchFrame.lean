import Lemnos.Runtime.Ops

namespace Lemnos

open Lemnos.Core Discovery Registry Library.OrderedMap

/-- A device's inventory entry and everything held under its id are as before, and no removal was reported.
-/
structure Spared (device : DeviceDescriptor) (before after : Runtime) : Prop where
  descriptor : after.inventory.get device.id = some device
  entries : before.SameEntries device.id after
  not_removed : ∃ pushed, after.log.pushed = before.log.pushed ++ pushed ∧
    LemnosEvent.inventory (.removed device.id) ∉ pushed

theorem Spared.refl {device : DeviceDescriptor} {runtime : Runtime} (h : device ∈ runtime.inventory.devices) :
    Spared device runtime runtime where
  descriptor := (runtime.inventory.get_eq_some _ _).mpr ⟨h, rfl⟩
  entries := .refl _ _
  not_removed := ⟨[], by simp⟩

def SparesOutside (interfaces : BTreeSet InterfaceKind) (before after : Runtime) : Prop :=
  ∀ device ∈ before.inventory.devices, device.interface ∉ interfaces → Spared device before after

theorem Discovery.runProbes_wanted {availableParallelism : ℕ} {context : DiscoveryContext}
    {probes : List DiscoveryProbe} {run : DiscoveryRunReport}
    (h : runProbes availableParallelism context probes = .ok run)
    (hhonours : ∀ probe ∈ probes, probe.Honours context) {device : DeviceDescriptor}
    (hd : device ∈ run.snapshot.devices) : context.wants device.interface = true := by
  rw [(runProbes_ok h).1] at hd
  obtain ⟨selected, hselected, hfound⟩ := List.mem_flatMap.mp hd
  unfold discoveredBy at hfound
  cases hdis : selected.probe.discover context with
  | ok discovery =>
    rw [hdis] at hfound
    have hin := hhonours selected.probe (mem_selectProbes hselected).1 discovery hdis device hfound
    exact ((mem_selectedInterfaces _ _ _).mp hin).2
  | error error =>
    rw [hdis] at hfound
    cases hfound

theorem Discovery.ProbeInventoryIndex.wasReplacedByRun_unwanted {availableParallelism : ℕ}
    {context : DiscoveryContext} {probes : List DiscoveryProbe} {run : DiscoveryRunReport}
    (h : runProbes availableParallelism context probes = .ok run) (index : ProbeInventoryIndex)
    (deviceId : DeviceId) {interface : InterfaceKind} (hwants : context.wants interface = false) :
    index.wasReplacedByRun deviceId interface run = false := by
  cases hr : index.wasReplacedByRun deviceId interface run with
  | false => rfl
  | true =>
    obtain ⟨report, hreport, -, hi, -⟩ := (index.wasReplacedByRun_iff deviceId interface run).mp hr
    rw [runProbes_refreshed_wanted h hreport hi] at hwants
    cases hwants

namespace Runtime

variable {runtime : Runtime} {snapshot : InventorySnapshot} {device : DeviceDescriptor}

theorem kept_not_changed (hold : runtime.inventory.get device.id = some device)
    (hnew : snapshot.get device.id = some device) {changed : ChangedDevice}
    (hchanged : changed ∈ (runtime.inventory.diff snapshot).changed) : changed.current.id ≠ device.id := by
  intro hid
  obtain ⟨hcurrent, hprevious, hne⟩ := InventorySnapshot.mem_diff_changed.mp hchanged
  rw [hid] at hcurrent hprevious
  have hsame : changed.previous = device := Option.some.inj (hprevious.symm.trans hold)
  exact hne (hsame.trans (Option.some.inj (hcurrent.symm.trans hnew)).symm)

theorem not_mem_givenUp (hold : runtime.inventory.get device.id = some device)
    (hnew : snapshot.get device.id = some device) : device.id ∉ runtime.givenUp snapshot := by
  rw [mem_givenUp]
  rintro (hremoved | ⟨changed, hchanged, hid, -⟩)
  · rw [(InventorySnapshot.mem_diff_removed.mp hremoved).2] at hnew
    cases hnew
  · exact kept_not_changed hold hnew hchanged hid

theorem commitRefresh_spares (layout : Layout) (discovery : DiscoveryRunReport) (mode : RefreshMode)
    (hold : runtime.inventory.get device.id = some device) (hnew : snapshot.get device.id = some device) :
    Spared device runtime (runtime.commitRefresh layout discovery mode snapshot).2 := by
  have hgiven := not_mem_givenUp hold hnew
  rw [commitRefresh_snd]
  refine ⟨hnew, ⟨?_, by simp, ?_, ?_⟩, ?_⟩
  · simp [BTreeMap.eraseAll_getElem?, hgiven]
  · simp [BTreeMap.eraseAll_getElem?, hgiven]
  · simp [BTreeMap.eraseAll_getElem?, hgiven]
  · refine ⟨_, runtime.recordInventoryEvents_pushed layout _, ?_⟩
    intro hmem
    obtain ⟨event, hevent, heq⟩ := List.mem_map.mp hmem
    cases heq
    rw [InventoryDiff.removed_mem_events] at hevent
    rw [(InventorySnapshot.mem_diff_removed.mp hevent).2] at hnew
    cases hnew

theorem not_mem_rebindTargets (invalidatedBindings : BTreeSet DeviceId)
    (hold : runtime.inventory.get device.id = some device) (hnew : snapshot.get device.id = some device) :
    device.id ∉ runtime.collectRebindTargets (runtime.inventory.diff snapshot) invalidatedBindings := by
  rw [mem_collectRebindTargets]
  rintro ⟨-, -, hadded | ⟨hchanged, -⟩⟩
  · obtain ⟨added, hadded, hid⟩ := List.mem_map.mp hadded
    have hnone := (InventorySnapshot.mem_diff_added.mp hadded).2
    rw [hid, hold] at hnone
    cases hnone
  · obtain ⟨changed, hchanged, hid⟩ := List.mem_map.mp hchanged
    exact kept_not_changed hold hnew hchanged hid

end Runtime

namespace System

variable {host : Host} {sys : System}

theorem afterCommit_spares (host : Host) (sys : System) (discovery : DiscoveryRunReport) (mode : RefreshMode)
    {snapshot : InventorySnapshot}
    {device : DeviceDescriptor} (hold : sys.runtime.inventory.get device.id = some device)
    (hnew : snapshot.get device.id = some device) :
    Spared device sys.runtime (sys.afterCommit host discovery mode snapshot).runtime := by
  rw [afterCommit_runtime]
  exact Runtime.commitRefresh_spares host.layout discovery mode hold hnew

theorem finishRefresh_spares_iff {discovery : DiscoveryRunReport} {mode : RefreshMode}
    {snapshot : InventorySnapshot} (hr : sys.runtime.running = true)
    (hn : sys.runtime.nextInventory discovery mode = .ok snapshot) {device : DeviceDescriptor}
    (hold : sys.runtime.inventory.get device.id = some device) (hnew : snapshot.get device.id = some device) :
    Spared device sys.runtime (sys.finishRefresh host discovery mode).2.runtime ↔
      ∀ state, lastRebindReport host (sys.rebindTargets snapshot) (sys.afterCommit host discovery mode snapshot)
        device.id = some state → sys.runtime.states[device.id]? = some state := by
  rw [finishRefresh_of_nextInventory hr hn]
  have hcommit := afterCommit_spares host sys discovery mode hold hnew
  have htargets : device.id ∉ sys.rebindTargets snapshot := Runtime.not_mem_rebindTargets _ hold hnew
  have hstates := (sys.afterCommit host discovery mode snapshot).rebindTrackedDevices_states host
    (sys.rebindTargets snapshot) device.id
  rw [hcommit.entries.states] at hstates
  constructor
  · intro hspared state hstate
    rw [← hspared.entries.states, hstates, hstate]
    rfl
  · intro hreports
    have hsame := rebindTrackedDevices_sameDiscovery host (sys.afterCommit host discovery mode snapshot)
      (sys.rebindTargets snapshot)
    obtain ⟨hbindings, hdesired, hfailures⟩ :=
      (sys.afterCommit host discovery mode snapshot).rebindTrackedDevices_other host htargets
    obtain ⟨states, hpushedStates⟩ := rebindTrackedDevices_pushesStates host
      (sys.afterCommit host discovery mode snapshot) (sys.rebindTargets snapshot)
    obtain ⟨pushed, hpushed, hnot⟩ := hcommit.not_removed
    refine ⟨?_, ⟨hbindings.trans hcommit.entries.bindings, ?_, ?_, hfailures.trans hcommit.entries.failures⟩,
      pushed ++ states.map (fun state => .state (.snapshot state)), ?_, ?_⟩
    · rw [hsame.inventory]
      exact hcommit.descriptor
    · rw [hdesired]
      exact hcommit.entries.desired
    · rw [hstates]
      cases hlast : lastRebindReport host (sys.rebindTargets snapshot)
          (sys.afterCommit host discovery mode snapshot) device.id with
      | none => rfl
      | some state => exact (hreports state hlast).symm
    · rw [hpushedStates, hpushed, List.append_assoc]
    · intro hmem
      rcases List.mem_append.mp hmem with hmem | hmem
      · exact hnot hmem
      · obtain ⟨state, -, heq⟩ := List.mem_map.mp hmem
        cases heq

theorem pollWatcherWithMode_scoped {context : DiscoveryContext} {probes : List DiscoveryProbe}
    {watchEvents : List InventoryWatchEvent} {interfaces : BTreeSet InterfaceKind}
    (hscope : ScopesTo sys.runtime.config context probes watchEvents interfaces) (mode : RefreshMode) :
    (sys.pollWatcherWithMode host context probes (.ok watchEvents) mode).2 =
      match runProbes host.availableParallelism { context with requestedInterfaces := interfaces }
        (probesOf probes interfaces) with
      | .error _ => sys
      | .ok discovery => (sys.finishRefresh host discovery mode).2 := by
  have hne : watchEvents.isEmpty = false := by
    cases watchEvents with
    | nil => exact absurd hscope.touched (by decide)
    | cons event watchEvents => rfl
  simp only [pollWatcherWithMode, handleWatchEventsAndRefreshWithMode, hne, Bool.false_eq_true, if_false,
    hscope.watchRefreshScope_eq]
  cases runProbes host.availableParallelism { context with requestedInterfaces := interfaces }
      (probesOf probes interfaces) with
  | error error => rfl
  | ok discovery =>
    have hsnd := finishWatchRefresh_snd host sys discovery mode watchEvents
    simp only [← hsnd]
    split <;> (rename_i h; rw [h])

def Overreaches (host : Host) (sys : System) (mode : RefreshMode) (context : DiscoveryContext)
    (probes : List DiscoveryProbe) (interfaces : BTreeSet InterfaceKind) : Prop :=
  mode = .full ∧ sys.runtime.running = true ∧
    (∃ run, runProbes host.availableParallelism { context with requestedInterfaces := interfaces }
      (probesOf probes interfaces) = .ok run ∧ run.hasProbeFailures = false) ∧
    ∃ device ∈ sys.runtime.inventory.devices, device.interface ∉ interfaces

/-- For a device it binds again the poll caches a state under the id of a device outside its scope, one that it
does not bind and that has another state cached. -/
def Misreports (host : Host) (sys : System) (mode : RefreshMode) (context : DiscoveryContext)
    (probes : List DiscoveryProbe) (interfaces : BTreeSet InterfaceKind) : Prop :=
  sys.runtime.running = true ∧ ∃ run next,
    runProbes host.availableParallelism { context with requestedInterfaces := interfaces }
      (probesOf probes interfaces) = .ok run ∧
    sys.runtime.nextInventory run mode = .ok next ∧
    ∃ device ∈ sys.runtime.inventory.devices, device.interface ∉ interfaces ∧
      device.id ∉ sys.rebindTargets next ∧
      ∃ state, lastRebindReport host (sys.rebindTargets next) (sys.afterCommit host run mode next) device.id =
        some state ∧ sys.runtime.states[device.id]? ≠ some state

theorem not_misreports (hhost : host.ReportsOwn) (sys : System) (mode : RefreshMode)
    (context : DiscoveryContext) (probes : List DiscoveryProbe) (interfaces : BTreeSet InterfaceKind) :
    ¬ sys.Misreports host mode context probes interfaces := by
  rintro ⟨-, run, next, -, -, device, -, -, hother, state, hstate, -⟩
  rw [lastRebindReport_own hhost _ hother] at hstate
  cases hstate

section

variable {context : DiscoveryContext} {probes : List DiscoveryProbe} {watchEvents : List InventoryWatchEvent}
  {interfaces : BTreeSet InterfaceKind} {run : DiscoveryRunReport} {mode : RefreshMode}
  {next : InventorySnapshot}

theorem merged_keeps (hscope : ScopesTo sys.runtime.config context probes watchEvents interfaces)
    (hran : runProbes host.availableParallelism { context with requestedInterfaces := interfaces }
      (probesOf probes interfaces) = .ok run)
    (hmerge : sys.runtime.probeInventory.mergeSnapshot sys.runtime.inventory run = .ok next)
    {device : DeviceDescriptor} (hd : device ∈ sys.runtime.inventory.devices)
    (hout : device.interface ∉ interfaces) :
    sys.runtime.inventory.get device.id = some device ∧ next.get device.id = some device := by
  have hwants : ({ context with requestedInterfaces := interfaces } : DiscoveryContext).wants
      device.interface = false := by
    rw [← Bool.not_eq_true, hscope.wants_iff]
    exact hout
  have hretained :=
    ProbeInventoryIndex.wasReplacedByRun_unwanted hran sys.runtime.probeInventory device.id hwants
  have hold := (sys.runtime.inventory.get_eq_some device.id device).mpr ⟨hd, rfl⟩
  exact ⟨hold, (ProbeInventoryIndex.mergeSnapshot_get hmerge device.id device).mpr (.inl ⟨hold, hretained⟩)⟩

theorem finishRefresh_merged_spares_iff
    (hscope : ScopesTo sys.runtime.config context probes watchEvents interfaces)
    (hran : runProbes host.availableParallelism { context with requestedInterfaces := interfaces }
      (probesOf probes interfaces) = .ok run)
    (hr : sys.runtime.running = true) (hn : sys.runtime.nextInventory run mode = .ok next)
    (hmerge : sys.runtime.probeInventory.mergeSnapshot sys.runtime.inventory run = .ok next) :
    SparesOutside interfaces sys.runtime (sys.finishRefresh host run mode).2.runtime ↔
      ¬ sys.Misreports host mode context probes interfaces := by
  constructor
  · rintro hspares ⟨-, run', next', hran', hn', device, hd, hout, -, state, hstate, hne⟩
    rw [hran] at hran'
    cases hran'
    rw [hn] at hn'
    cases hn'
    obtain ⟨hold, hnew⟩ := merged_keeps hscope hran hmerge hd hout
    exact hne ((finishRefresh_spares_iff hr hn hold hnew).mp (hspares device hd hout) state hstate)
  · intro hnot device hd hout
    obtain ⟨hold, hnew⟩ := merged_keeps hscope hran hmerge hd hout
    refine (finishRefresh_spares_iff hr hn hold hnew).mpr ?_
    intro state hstate
    by_contra hne
    exact hnot ⟨hr, run, next, hran, hn, device, hd, hout, Runtime.not_mem_rebindTargets _ hold hnew, state,
      hstate, hne⟩

theorem finishRefresh_whole_not_spares
    (hscope : ScopesTo sys.runtime.config context probes watchEvents interfaces)
    (hhonours : ∀ probe ∈ probes, probe.Honours { context with requestedInterfaces := interfaces })
    (hran : runProbes host.availableParallelism { context with requestedInterfaces := interfaces }
      (probesOf probes interfaces) = .ok run)
    (hr : sys.runtime.running = true) (hn : sys.runtime.nextInventory run mode = .ok run.snapshot)
    {device : DeviceDescriptor} (hd : device ∈ sys.runtime.inventory.devices)
    (hout : device.interface ∉ interfaces) :
    ¬ SparesOutside interfaces sys.runtime (sys.finishRefresh host run mode).2.runtime := by
  intro hspares
  have hsame := finishRefresh_sameDiscovery host hr hn
  rw [Runtime.commitRefresh_snd] at hsame
  have hkept := (hspares device hd hout).descriptor
  rw [hsame.inventory] at hkept
  have hfound : device ∈ run.snapshot.devices := ((run.snapshot.get_eq_some device.id device).mp hkept).1
  have hwants := runProbes_wanted hran
    (fun probe hprobe => hhonours probe (List.mem_of_mem_filter hprobe)) hfound
  exact hout ((hscope.wants_iff device.interface).mp hwants)

end

/-- A scoped watch refresh spares every device outside its scope, exactly if it does not overreach and no driver
reports a state for such a device. -/
theorem scoped_poll_spares_iff (host : Host) (sys : System) (mode : RefreshMode) (context : DiscoveryContext)
    (probes : List DiscoveryProbe) (watchEvents : List InventoryWatchEvent)
    (interfaces : BTreeSet InterfaceKind)
    (hscope : ScopesTo sys.runtime.config context probes watchEvents interfaces)
    (hhonours : ∀ probe ∈ probes, probe.Honours { context with requestedInterfaces := interfaces }) :
    (SparesOutside interfaces sys.runtime
        (sys.pollWatcherWithMode host context probes (.ok watchEvents) mode).2.runtime ↔
      ¬ sys.Overreaches host mode context probes interfaces ∧
        ¬ sys.Misreports host mode context probes interfaces) ∧
    (host.ReportsOwn → ¬ sys.Misreports host mode context probes interfaces) := by
  refine ⟨?_, fun hhost => not_misreports hhost sys mode context probes interfaces⟩
  rw [pollWatcherWithMode_scoped hscope]
  cases hran : runProbes host.availableParallelism { context with requestedInterfaces := interfaces }
      (probesOf probes interfaces) with
  | error error =>
    refine iff_of_true (fun device hd _ => .refl hd) ⟨?_, ?_⟩
    · rintro ⟨-, -, ⟨run, hrun, -⟩, -⟩
      rw [hran] at hrun
      cases hrun
    · rintro ⟨-, run, next, hrun, -⟩
      rw [hran] at hrun
      cases hrun
  | ok run =>
    -- the run is the only one that overreaching can be about
    have hover : sys.Overreaches host mode context probes interfaces ↔
        mode = .full ∧ sys.runtime.running = true ∧ run.hasProbeFailures = false ∧
          ∃ device ∈ sys.runtime.inventory.devices, device.interface ∉ interfaces := by
      simp [Overreaches, hran]
    rw [hover]
    by_cases hcommit : sys.runtime.running = true ∧ ∃ next, sys.runtime.nextInventory run mode = .ok next
    · obtain ⟨hr, next, hn⟩ := hcommit
      by_cases hwhole : mode = .full ∧ run.hasProbeFailures = false
      · -- the scoped discovery is committed as the whole inventory
        obtain ⟨rfl, hok⟩ := hwhole
        have hn' : sys.runtime.nextInventory run .full = .ok run.snapshot := by
          simp [Runtime.nextInventory, Runtime.materializeRefreshInventory, hok]
        by_cases houtside : ∃ device ∈ sys.runtime.inventory.devices, device.interface ∉ interfaces
        · obtain ⟨device, hd, hout⟩ := houtside
          have hnot := finishRefresh_whole_not_spares hscope hhonours hran hr hn' hd hout
          exact iff_of_false hnot fun hnone => hnone.1 ⟨rfl, hr, hok, device, hd, hout⟩
        · refine iff_of_true (fun device hd hout => absurd ⟨device, hd, hout⟩ houtside) ⟨?_, ?_⟩
          · rintro ⟨-, -, -, hdevice⟩
            exact houtside hdevice
          · rintro ⟨-, -, -, -, -, device, hd, hout, -⟩
            exact houtside ⟨device, hd, hout⟩
      · -- in every other case it is merged into the inventory
        have hmerge : sys.runtime.probeInventory.mergeSnapshot sys.runtime.inventory run = .ok next := by
          cases mode with
          | incremental => exact hn
          | full =>
            cases hok : run.hasProbeFailures with
            | false => exact absurd ⟨rfl, hok⟩ hwhole
            | true => simpa [Runtime.nextInventory, Runtime.materializeRefreshInventory, hok] using hn
        rw [finishRefresh_merged_spares_iff hscope hran hr hn hmerge]
        refine (and_iff_right ?_).symm
        exact fun hover => hwhole ⟨hover.1, hover.2.2.1⟩
    · have hsame : (sys.finishRefresh host run mode).2 = sys := finishRefresh_uncommitted hcommit
      simp only [hsame]
      refine iff_of_true (fun device hd _ => .refl hd) ⟨?_, ?_⟩
      · rintro ⟨rfl, hr, hok, -⟩
        refine hcommit ⟨hr, run.snapshot, ?_⟩
        simp [Runtime.nextInventory, Runtime.materializeRefreshInventory, hok]
      · rintro ⟨hr, run', next, hran', hn, -⟩
        rw [hran] at hran'
        cases hran'
        exact hcommit ⟨hr, next, hn⟩

def gpioOnly : BTreeSet InterfaceKind := BTreeSet.collect [.gpio]

def lineChanged : InventoryWatchEvent := ⟨"linux-hotplug", [.gpio], []⟩

theorem lineChanged_scopes (devices : List DeviceDescriptor) :
    ScopesTo twoBuses.runtime.config {} [gpioProbe devices] [lineChanged] gpioOnly where
  mode := by decide
  touched := by decide
  interfaces_eq := rfl
  interfaces_nonempty := by decide
  probes_nonempty := List.cons_ne_nil (gpioProbe devices) []

theorem gpioProbe_honours {device : DeviceDescriptor} (h : device.interface = .gpio) :
    ∀ probe ∈ [gpioProbe [device]],
      probe.Honours { ({} : DiscoveryContext) with requestedInterfaces := gpioOnly } := by
  intro probe hprobe discovery hdiscovery found hfound
  cases List.mem_singleton.mp hprobe
  cases hdiscovery
  cases List.mem_singleton.mp hfound
  rw [h, mem_selectedInterfaces]
  exact ⟨List.mem_singleton.mpr rfl, by decide⟩

theorem Host.stating_reportsOwn : Host.stating.ReportsOwn := by
  intro calls bound state h
  cases h
  rfl

theorem scoped_poll_spares_iff_twoBuses : ∃ report sys',
    twoBuses.pollWatcherAndRefreshIncremental .stating {} [gpioProbe [classLine]] (.ok [lineChanged]) =
        (.ok (some report), sys') ∧
      report.refresh.rebinds.rebound = [gpioLine] ∧
      SparesOutside gpioOnly twoBuses.runtime sys'.runtime := by
  refine ⟨_, _, rfl, by decide, ?_⟩
  have hspares := scoped_poll_spares_iff .stating twoBuses .incremental {} [gpioProbe [classLine]] [lineChanged]
    gpioOnly (lineChanged_scopes [classLine]) (gpioProbe_honours rfl)
  refine hspares.1.mpr ⟨?_, hspares.2 Host.stating_reportsOwn⟩
  rintro ⟨hfull, -⟩
  cases hfull

theorem scoped_full_poll_removes_sensor :
    ScopesTo twoBuses.runtime.config {} [gpioProbe [gpioLineDescriptor]] [lineChanged] gpioOnly ∧
    ¬ SparesOutside gpioOnly twoBuses.runtime (twoBuses.pollWatcherAndRefresh .stating {}
      [gpioProbe [gpioLineDescriptor]] (.ok [lineChanged])).2.runtime ∧
    (twoBuses.pollWatcherAndRefresh .stating {} [gpioProbe [gpioLineDescriptor]]
        (.ok [lineChanged])).2.runtime.log.pushed =
      twoBuses.runtime.log.pushed ++ [.inventory (.removed i2cSensor)] := by
  refine ⟨lineChanged_scopes [gpioLineDescriptor], ?_, by decide⟩
  intro hspares
  have hkept := (hspares { id := i2cSensor, interface := .i2c } (by decide) (by decide)).descriptor
  revert hkept
  decide

end System

end Lemnos
