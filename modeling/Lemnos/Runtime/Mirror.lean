import Lemnos.Discovery.Changes
import Lemnos.Runtime.Custody

namespace Lemnos

open Lemnos.Core Discovery Registry Library.OrderedMap Library.ChangeLog

def inventoryChanges (events : List LemnosEvent) : List (Change DeviceId DeviceDescriptor) :=
  events.filterMap (fun event =>
    match event with
    | .inventory event => some (changeOf event)
    | .state _ => none)

theorem inventoryChanges_append (events later : List LemnosEvent) :
    inventoryChanges (events ++ later) = inventoryChanges events ++ inventoryChanges later :=
  List.filterMap_append

@[simp] theorem inventoryChanges_states (states : List DeviceStateSnapshot) :
    inventoryChanges (states.map (fun state => .state (.snapshot state))) = [] := by
  rw [inventoryChanges, List.filterMap_eq_nil_iff]
  intro event hevent
  obtain ⟨state, -, rfl⟩ := List.mem_map.mp hevent
  rfl

@[simp] theorem inventoryChanges_inventory (events : List InventoryEvent) :
    inventoryChanges (events.map .inventory) = events.map changeOf := by
  rw [inventoryChanges, List.filterMap_map]
  exact congrFun (List.filterMap_eq_map (f := changeOf)) events

namespace Runtime

/-- Whoever applies all inventory events in the order in which they were pushed has the inventory. -/
def Mirrored (runtime : Runtime) : Prop :=
  replay ∅ (inventoryChanges runtime.log.pushed) = runtime.inventory.byId

variable {runtime runtime' : Runtime}

theorem Mirrored.of_pushesStates (h : runtime.Mirrored) (hpushes : runtime.PushesStates runtime')
    (hinventory : runtime'.inventory = runtime.inventory) : runtime'.Mirrored := by
  obtain ⟨states, hpushed⟩ := hpushes
  rw [Mirrored, hpushed, inventoryChanges_append, inventoryChanges_states, List.append_nil, hinventory]
  exact h

theorem Mirrored.commitRefresh (h : runtime.Mirrored) (layout : Layout) (discovery : DiscoveryRunReport)
    (mode : RefreshMode) (snapshot : InventorySnapshot) :
    (runtime.commitRefresh layout discovery mode snapshot).2.Mirrored := by
  rw [commitRefresh_snd]
  simp only [Mirrored, recordInventoryEvents_pushed, inventoryChanges_append, inventoryChanges_inventory]
  rw [replay_append, h]
  exact InventorySnapshot.replay_diff runtime.inventory snapshot

end Runtime

namespace System

variable {host : Host} {sys : System}

theorem bind_pushesStates (deviceId : DeviceId) :
    sys.runtime.PushesStates (sys.bind host deviceId).2.runtime := by
  have hbind := sys.bindDeviceById_pushesStates host deviceId
  simp only [System.bind, markDesired]
  split <;> exact hbind

theorem refreshState_pushesStates (deviceId : DeviceId) :
    sys.runtime.PushesStates (sys.refreshState host deviceId).2.runtime := by
  rcases sys.refreshState_cases host deviceId with
    hsame | hcleared | ⟨bound, result, sys', -, -, hread, hafter⟩
  · rw [hsame]
    exact .refl _
  · rw [hcleared]
    exact ⟨[], by simp [Runtime.clearFailure]⟩
  · have hcomplete : sys.runtime.PushesStates
        (sys'.completeOperation host deviceId .refreshState result).runtime := by
      rw [← hread]
      exact ⟨[], by simp [completeOperation]⟩
    rw [hafter]
    exact hcomplete.trans (Runtime.cacheReported_pushesStates _ _ _)

theorem bindDiscoveredDevice_pushesStates (descriptor : DeviceDescriptor) :
    sys.runtime.PushesStates (sys.bindDiscoveredDevice host descriptor).2.runtime := by
  rcases sys.bindDiscoveredDevice_cases host descriptor with
    ⟨result, heq, -⟩ | ⟨prepared, -, -, -, ⟨error, sys', hb, heq⟩ | ⟨output, sys', hb, heq⟩⟩
  · rw [heq]
    exact .refl _
  · have hruntime := prepared.bind_runtime host sys
    rw [hb] at hruntime
    rw [heq, hruntime]
    exact .refl _
  · rw [heq, setRuntime, (PreparedBinding.bind_ok hb).2.2]
    exact Runtime.storeBoundDevice_pushesStates _ _ _ _

theorem requestInner_pushesStates (request : DeviceRequest) :
    sys.runtime.PushesStates (sys.requestInner host request).2.runtime := by
  have hprepare : sys.runtime.PushesStates (sys.prepareRequestBinding host request).2.runtime := by
    rcases sys.prepareRequestBinding_snd host request with hsame | ⟨device, -, hbind⟩
    · rw [hsame]
      exact .refl _
    · rw [hbind]
      exact bindDiscoveredDevice_pushesStates device
  rcases sys.requestInner_cases host request with ⟨hsame, -⟩ | ⟨bound, interaction, state, sys', -, -, hafter⟩
  · rw [hsame]
    exact hprepare
  · rw [hafter]
    exact hprepare.trans (Runtime.cacheReported_pushesStates _ _ _)

theorem request_pushesStates (request : DeviceRequest) :
    sys.runtime.PushesStates (sys.request host request).2.runtime := by
  have hinner := @requestInner_pushesStates host sys request
  simp only [System.request, markDesired]
  split
  · exact hinner
  · split <;> exact hinner

theorem exec_pushesStates {op : RuntimeOp} (hop : op.isRefresh = false) :
    sys.runtime.PushesStates (sys.exec host op).runtime := by
  have hkept : ∀ {runtime : Runtime}, runtime.log.pushed = sys.runtime.log.pushed →
      sys.runtime.PushesStates runtime := fun hpushed => ⟨[], by simp [hpushed]⟩
  cases op with
  | start => exact .refl _
  | shutdown =>
    apply hkept
    simp [exec, shutdown, setRuntime, Runtime.shutdownDetached, Runtime.takeAllBoundDevices]
  | setConfig config =>
    apply hkept
    simp [exec, setRuntime, Runtime.setConfig, Runtime.enforceEventRetention]
  | registerDriver driver =>
    apply hkept
    simp only [exec, setRuntime]
    cases sys.runtime.registry.register driver <;> rfl
  | preferDriver deviceId driverId =>
    apply hkept
    simp only [exec, setRuntime]
    cases sys.runtime.registry.preferDriverForDevice deviceId driverId <;> rfl
  | clearPreferredDriver deviceId => exact .refl _
  | takeEvents => exact hkept rfl
  | bind deviceId => exact bind_pushesStates deviceId
  | unbind deviceId =>
    apply hkept
    simp [exec, unbind, setRuntime, Runtime.unbindDetached, Runtime.takeBoundDevice]
  | refreshState deviceId => exact refreshState_pushesStates deviceId
  | request request => exact request_pushesStates request
  | refresh => cases hop
  | pollWatcher => cases hop

theorem exec_inventory {op : RuntimeOp} (hop : op.isRefresh = false) :
    (sys.exec host op).runtime.inventory = sys.runtime.inventory := by
  by_cases hshutdown : op = .shutdown
  · rw [hshutdown]
    exact shutdown_inventory
  · exact (exec_sameIndex host sys hop hshutdown).1

theorem finishRefresh_mirrored (h : sys.runtime.Mirrored) (discovery : DiscoveryRunReport)
    (mode : RefreshMode) : (sys.finishRefresh host discovery mode).2.runtime.Mirrored := by
  by_cases hcommit : sys.runtime.running = true ∧
      ∃ snapshot, sys.runtime.nextInventory discovery mode = .ok snapshot
  · obtain ⟨hr, snapshot, hn⟩ := hcommit
    rw [finishRefresh_of_nextInventory hr hn]
    have hcommitted := h.commitRefresh host.layout discovery mode snapshot
    rw [← afterCommit_runtime] at hcommitted
    apply hcommitted.of_pushesStates
    · exact rebindTrackedDevices_pushesStates host _ _
    · exact (rebindTrackedDevices_sameDiscovery host _ _).inventory
  · rw [finishRefresh_uncommitted hcommit]
    exact h

theorem exec_mirrored (h : sys.runtime.Mirrored) (op : RuntimeOp) :
    (sys.exec host op).runtime.Mirrored := by
  cases hop : op.isRefresh with
  | false => exact h.of_pushesStates (exec_pushesStates hop) (exec_inventory hop)
  | true =>
    rw [exec_refresh hop]
    cases sys.discoveryOf host op with
    | none => exact h
    | some run => exact finishRefresh_mirrored h run.1 run.2

end System

theorem events_mirror_inventory (host : Host) (config : RuntimeConfig) (ops : List RuntimeOp) :
    (∀ snapshot next : InventorySnapshot, (snapshot.diff next).ids.Nodup ∧
      ((snapshot.diff next).isEmpty = true ↔ snapshot.byId = next.byId) ∧
      replay snapshot.byId ((snapshot.diff next).events.map changeOf) = next.byId) ∧
    let runtime := (System.runOps host ops { runtime := { config } }).runtime
    replay ∅ (inventoryChanges runtime.log.pushed) = runtime.inventory.byId := by
  refine ⟨fun snapshot next => ⟨InventorySnapshot.diff_ids_nodup snapshot next,
    InventorySnapshot.diff_isEmpty_iff, InventorySnapshot.replay_diff snapshot next⟩, ?_⟩
  have hstart : ({ config } : Runtime).Mirrored := rfl
  exact System.runOps_invariant (p := fun sys => sys.runtime.Mirrored) host
    (fun sys op h => System.exec_mirrored h op) ops { runtime := { config } } hstart

end Lemnos
