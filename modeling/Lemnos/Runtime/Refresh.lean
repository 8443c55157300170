import Lemnos.Runtime.Operations

namespace Lemnos

open Lemnos.Core Discovery Registry Library.OrderedMap

inductive RefreshMode where
  | full
  | incremental
  deriving DecidableEq

structure RuntimeRebindReport where
  attempted : List DeviceId := []
  rebound : List DeviceId := []
  failed : List DeviceId := []
  deriving DecidableEq

structure RuntimeRefreshReport where
  discovery : DiscoveryRunReport
  diff : InventoryDiff
  rebinds : RuntimeRebindReport

structure PreparedRefreshCommit where
  discovery : DiscoveryRunReport
  diff : InventoryDiff
  detached : List DetachedBoundDevice
  rebindTargets : List DeviceId
  snapshot : InventorySnapshot

def PreparedRefreshCommit.finish (prepared : PreparedRefreshCommit) (rebinds : RuntimeRebindReport) :
    RuntimeRefreshReport :=
  ⟨{ prepared.discovery with snapshot := prepared.snapshot }, prepared.diff, rebinds⟩

namespace Runtime

def bindingRequiresRebind (runtime : Runtime) (changed : ChangedDevice) : Bool :=
  match runtime.bindings[changed.current.id]? with
  | none => false
  | some bound =>
    if changed.previous.interface ≠ changed.current.interface ∨
        changed.previous.kind ≠ changed.current.kind ∨
        changed.previous.address ≠ changed.current.address ∨
        changed.previous.controlSurface ≠ changed.current.controlSurface then true
    else
      match runtime.registry.resolve changed.current with
      | .ok candidate => candidate.driverId ≠ bound.driverId
      | .error _ => true

def collectInvalidatedBindings (runtime : Runtime) (diff : InventoryDiff) : BTreeSet DeviceId :=
  BTreeSet.collect
    ((diff.changed.filter runtime.bindingRequiresRebind).map (fun changed => changed.current.id))

def collectRebindTargets (runtime : Runtime) (diff : InventoryDiff)
    (invalidatedBindings : BTreeSet DeviceId) : List DeviceId :=
  if !runtime.config.autoRebindOnRefresh then []
  else
    let added := (diff.added.map DeviceDescriptor.id).filter (fun id => id ∈ runtime.desiredBindings)
    let changed := (diff.changed.map (fun changed => changed.current.id)).filter (fun id =>
      id ∈ runtime.desiredBindings ∧ (id ∈ invalidatedBindings ∨ id ∉ runtime.bindings))
    (BTreeSet.collect (added ++ changed)).toList

def materializeRefreshInventory (runtime : Runtime) (discovery : DiscoveryRunReport) :
    DiscoveryResult InventorySnapshot :=
  if discovery.hasProbeFailures then
    runtime.probeInventory.mergeSnapshot runtime.inventory discovery
  else
    .ok discovery.snapshot

def nextInventory (runtime : Runtime) (discovery : DiscoveryRunReport) :
    RefreshMode → DiscoveryResult InventorySnapshot
  | .full => runtime.materializeRefreshInventory discovery
  | .incremental => runtime.probeInventory.mergeSnapshot runtime.inventory discovery

def nextProbeInventory (probeInventory : ProbeInventoryIndex) (discovery : DiscoveryRunReport) :
    RefreshMode → ProbeInventoryIndex
  | .full => .fromRun discovery
  | .incremental => probeInventory.recordRun discovery

def commitRefresh (layout : Layout) (runtime : Runtime) (discovery : DiscoveryRunReport) (mode : RefreshMode)
    (snapshot : InventorySnapshot) : PreparedRefreshCommit × Runtime :=
  let diff := runtime.inventory.diff snapshot
  let invalidatedBindings := runtime.collectInvalidatedBindings diff
  let rebindTargets := runtime.collectRebindTargets diff invalidatedBindings
  let recorded := runtime.recordInventoryEvents layout diff
  let detach := recorded.detachInvalidatedBindings diff invalidatedBindings
  (⟨discovery, diff, detach.1, rebindTargets, snapshot⟩,
    { detach.2 with
      inventory := snapshot
      probeInventory := nextProbeInventory detach.2.probeInventory discovery mode })

def prepareRefreshCommit (layout : Layout) (runtime : Runtime) (discovery : DiscoveryRunReport)
    (mode : RefreshMode) : RuntimeResult (PreparedRefreshCommit × Runtime) :=
  if !runtime.running then .error .notRunning
  else
    match runtime.nextInventory discovery mode with
    | .error error => .error (.discovery error)
    | .ok snapshot => .ok (runtime.commitRefresh layout discovery mode snapshot)

theorem prepareRefreshCommit_ok {layout : Layout} {runtime : Runtime} {discovery : DiscoveryRunReport}
    {mode : RefreshMode} {committed : PreparedRefreshCommit × Runtime}
    (h : runtime.prepareRefreshCommit layout discovery mode = .ok committed) :
    runtime.running = true ∧ ∃ snapshot, runtime.nextInventory discovery mode = .ok snapshot ∧
      committed = runtime.commitRefresh layout discovery mode snapshot := by
  unfold prepareRefreshCommit at h
  split at h
  · cases h
  · rename_i hr
    split at h
    · cases h
    · rename_i snapshot hn
      cases h
      exact ⟨by simpa using hr, snapshot, hn, rfl⟩

theorem prepareRefreshCommit_of_nextInventory {layout : Layout} {runtime : Runtime}
    {discovery : DiscoveryRunReport} {mode : RefreshMode} {snapshot : InventorySnapshot}
    (hr : runtime.running = true) (hn : runtime.nextInventory discovery mode = .ok snapshot) :
    runtime.prepareRefreshCommit layout discovery mode =
      .ok (runtime.commitRefresh layout discovery mode snapshot) := by
  simp [prepareRefreshCommit, hr, hn]

variable (layout : Layout) (runtime : Runtime) (discovery : DiscoveryRunReport) (mode : RefreshMode)
  (snapshot : InventorySnapshot)

def givenUp : List DeviceId :=
  detachedIds (runtime.inventory.diff snapshot)
    (runtime.collectInvalidatedBindings (runtime.inventory.diff snapshot))

theorem commitRefresh_snd : (runtime.commitRefresh layout discovery mode snapshot).2 =
    { runtime.recordInventoryEvents layout (runtime.inventory.diff snapshot) with
      bindings := BTreeMap.eraseAll runtime.bindings (runtime.givenUp snapshot)
      states := BTreeMap.eraseAll runtime.states (runtime.givenUp snapshot)
      failures := BTreeMap.eraseAll runtime.failures (runtime.givenUp snapshot)
      inventory := snapshot
      probeInventory := nextProbeInventory runtime.probeInventory discovery mode } := by
  simp only [commitRefresh, detachInvalidatedBindings, detachBindings_snd, givenUp,
    recordInventoryEvents_bindings, recordInventoryEvents_states, recordInventoryEvents_failures,
    recordInventoryEvents_probeInventory]

theorem mem_collectInvalidatedBindings (diff : InventoryDiff) (id : DeviceId) :
    id ∈ runtime.collectInvalidatedBindings diff ↔
      ∃ changed ∈ diff.changed, runtime.bindingRequiresRebind changed = true ∧ changed.current.id = id := by
  rw [collectInvalidatedBindings, BTreeSet.mem_collect, List.mem_map]
  simp [and_assoc]

theorem mem_givenUp (id : DeviceId) : id ∈ runtime.givenUp snapshot ↔
    id ∈ (runtime.inventory.diff snapshot).removed ∨
      ∃ changed ∈ (runtime.inventory.diff snapshot).changed, changed.current.id = id ∧
        runtime.bindingRequiresRebind changed = true := by
  rw [givenUp, detachedIds, List.mem_append, List.mem_filter, decide_eq_true_eq,
    mem_collectInvalidatedBindings, List.mem_map]
  constructor
  · rintro (h | ⟨-, changed, hc, hr, hid⟩)
    · exact .inl h
    · exact .inr ⟨changed, hc, hid, hr⟩
  · rintro (h | ⟨changed, hc, hid, hr⟩)
    · exact .inl h
    · exact .inr ⟨⟨changed, hc, hid⟩, changed, hc, hr, hid⟩

theorem mem_collectRebindTargets (diff : InventoryDiff) (invalidatedBindings : BTreeSet DeviceId)
    (id : DeviceId) : id ∈ runtime.collectRebindTargets diff invalidatedBindings ↔
      runtime.config.autoRebindOnRefresh = true ∧ id ∈ runtime.desiredBindings ∧
        (id ∈ diff.added.map DeviceDescriptor.id ∨
          (id ∈ diff.changed.map (fun changed => changed.current.id) ∧
            (id ∈ invalidatedBindings ∨ id ∉ runtime.bindings))) := by
  unfold collectRebindTargets
  cases runtime.config.autoRebindOnRefresh with
  | false => simp
  | true =>
    simp only [Bool.not_true, Bool.false_eq_true, if_false, Std.ExtTreeSet.mem_toList, BTreeSet.mem_collect,
      List.mem_append, List.mem_filter, decide_eq_true_eq, true_and]
    tauto

end Runtime

namespace System

def rebindTrackedDevice (host : Host) (sys : System) (deviceId : DeviceId) : RuntimeResult Unit × System :=
  let (result, sys) := sys.bindDeviceById host deviceId
  (result, sys.completeOperation host deviceId .rebind result)

def rebindTrackedDevices (host : Host) : List DeviceId → System → RuntimeRebindReport × System
  | [], sys => ({}, sys)
  | deviceId :: deviceIds, sys =>
    let (result, sys) := sys.rebindTrackedDevice host deviceId
    let (report, sys) := rebindTrackedDevices host deviceIds sys
    match result with
    | .ok () => (⟨deviceId :: report.attempted, deviceId :: report.rebound, report.failed⟩, sys)
    | .error _ => (⟨deviceId :: report.attempted, report.rebound, deviceId :: report.failed⟩, sys)

def finishRefresh (host : Host) (sys : System) (discovery : DiscoveryRunReport) (mode : RefreshMode) :
    RuntimeResult RuntimeRefreshReport × System :=
  match sys.runtime.prepareRefreshCommit host.layout discovery mode with
  | .error error => (.error error, sys)
  | .ok (prepared, runtime) =>
    let sys := (sys.setRuntime runtime).closeDetachedBindings prepared.detached
    let (rebinds, sys) := rebindTrackedDevices host prepared.rebindTargets sys
    (.ok (prepared.finish rebinds), sys)

def refreshWithMode (host : Host) (sys : System) (context : DiscoveryContext) (probes : List DiscoveryProbe)
    (mode : RefreshMode) : RuntimeResult RuntimeRefreshReport × System :=
  if !sys.runtime.running then (.error .notRunning, sys)
  else
    match runProbes host.availableParallelism context probes with
    | .error error => (.error (.discovery error), sys)
    | .ok discovery => sys.finishRefresh host discovery mode

def refresh (host : Host) (sys : System) (context : DiscoveryContext) (probes : List DiscoveryProbe) :
    RuntimeResult RuntimeRefreshReport × System :=
  sys.refreshWithMode host context probes .full

def refreshIncremental (host : Host) (sys : System) (context : DiscoveryContext)
    (probes : List DiscoveryProbe) : RuntimeResult RuntimeRefreshReport × System :=
  sys.refreshWithMode host context probes .incremental

end System

end Lemnos
