import Lemnos.Runtime.State

namespace Lemnos

open Lemnos.Core Discovery Registry Library.OrderedMap

structure PreparedBinding where
  descriptor : DeviceDescriptor
  driver : Driver
  cacheStateOnBind : Bool

structure PreparedBindingOutput where
  bound : BoundDevice
  initialState : Option DeviceStateSnapshot

structure DetachedBoundDevice where
  deviceId : DeviceId
  binding : BoundDevice
  deriving DecidableEq

namespace PreparedBinding

/-- A driver that opened the device but cannot report its state loses the instance here. -/
def bind (host : Host) (prepared : PreparedBinding) (sys : System) :
    RuntimeResult PreparedBindingOutput × System :=
  match sys.callBind host prepared.driver prepared.descriptor with
  | (.error source, sys) => (.error (.driver prepared.descriptor.id source), sys)
  | (.ok bound, sys) =>
    if prepared.cacheStateOnBind then
      match sys.callState host bound true with
      | (.error source, sys) => (.error (.driver prepared.descriptor.id source), sys)
      | (.ok initialState, sys) => (.ok ⟨bound, initialState⟩, sys)
    else (.ok ⟨bound, none⟩, sys)

end PreparedBinding

namespace Runtime

variable (layout : Layout)

def prepareBinding (runtime : Runtime) (descriptor : DeviceDescriptor) : RuntimeResult PreparedBinding :=
  match runtime.registry.resolve descriptor with
  | .error error => .error (.registry error)
  | .ok candidate => .ok ⟨descriptor, candidate.driver, runtime.config.cacheStateOnBind⟩

def storeBoundDevice (runtime : Runtime) (deviceId : DeviceId) (output : PreparedBindingOutput) : Runtime :=
  let runtime := runtime.cacheReported layout output.initialState
  { runtime with bindings := runtime.bindings.insert deviceId output.bound }

def takeBoundDevice (runtime : Runtime) (deviceId : DeviceId) : Option DetachedBoundDevice × Runtime :=
  (runtime.bindings[deviceId]?.map (fun binding => ⟨deviceId, binding⟩),
    { runtime with bindings := runtime.bindings.erase deviceId })

def takeAllBoundDevices (runtime : Runtime) : List DetachedBoundDevice × Runtime :=
  (runtime.bindings.toList.map (fun (deviceId, binding) => ⟨deviceId, binding⟩),
    { runtime with bindings := ∅ })

def unbindDetached (runtime : Runtime) (deviceId : DeviceId) : Bool × Option DetachedBoundDevice × Runtime :=
  let removedInterest := runtime.desiredBindings.contains deviceId
  let removedState := runtime.states.contains deviceId
  let removedFailure := runtime.failures.contains deviceId
  let (detached, runtime) := runtime.takeBoundDevice deviceId
  (detached.isSome || removedInterest || removedState || removedFailure, detached,
    { runtime with
      desiredBindings := runtime.desiredBindings.erase deviceId
      states := runtime.states.erase deviceId
      failures := runtime.failures.erase deviceId })

def shutdownDetached (runtime : Runtime) : List DetachedBoundDevice × Runtime :=
  let (detached, runtime) := { runtime with running := false }.takeAllBoundDevices
  (detached,
    { runtime with
      probeInventory := {}
      desiredBindings := ∅
      states := ∅
      failures := ∅
      eventNotifier := runtime.eventNotifier.notifyChanged })

@[simp] theorem shutdownDetached_bindings (runtime : Runtime) : runtime.shutdownDetached.2.bindings = ∅ := rfl

def detachBinding (runtime : Runtime) (deviceId : DeviceId) : List DetachedBoundDevice × Runtime :=
  let (detached, runtime) := runtime.takeBoundDevice deviceId
  (detached.toList,
    { runtime with states := runtime.states.erase deviceId, failures := runtime.failures.erase deviceId })

def detachBindings : List DeviceId → Runtime → List DetachedBoundDevice × Runtime
  | [], runtime => ([], runtime)
  | deviceId :: deviceIds, runtime =>
    let (detached, runtime) := runtime.detachBinding deviceId
    let (rest, runtime) := detachBindings deviceIds runtime
    (detached ++ rest, runtime)

def detachedIds (diff : InventoryDiff) (invalidatedBindings : BTreeSet DeviceId) : List DeviceId :=
  diff.removed ++ (diff.changed.map (fun changed => changed.current.id)).filter
    (fun id => id ∈ invalidatedBindings)

def detachInvalidatedBindings (runtime : Runtime) (diff : InventoryDiff)
    (invalidatedBindings : BTreeSet DeviceId) : List DetachedBoundDevice × Runtime :=
  detachBindings (detachedIds diff invalidatedBindings) runtime

theorem detachBindings_snd (deviceIds : List DeviceId) (runtime : Runtime) :
    (detachBindings deviceIds runtime).2 =
      { runtime with
        bindings := BTreeMap.eraseAll runtime.bindings deviceIds
        states := BTreeMap.eraseAll runtime.states deviceIds
        failures := BTreeMap.eraseAll runtime.failures deviceIds } := by
  induction deviceIds generalizing runtime with
  | nil => rfl
  | cons deviceId deviceIds ih => exact ih _

end Runtime

namespace System

def setRuntime (sys : System) (runtime : Runtime) : System := { sys with runtime }

def recordOutcome {α : Type} (failures : BTreeMap DeviceId RuntimeFailureRecord) (deviceId : DeviceId)
    (operation : RuntimeFailureOperation) (occurredAt : Option TimestampMs) :
    RuntimeResult α → BTreeMap DeviceId RuntimeFailureRecord
  | .ok _ => failures.erase deviceId
  | .error error =>
    let category := classifyFailure error
    let driverId := driverIdFromError error
    let message := error.display
    match failures[deviceId]? with
    | some failure =>
      failures.insert deviceId (failure.recordRepeat operation category driverId message occurredAt)
    | none => failures.insert deviceId (.new deviceId operation category driverId message occurredAt)

def clockReads {α : Type} : RuntimeResult α → List HostCall
  | .ok _ => []
  | .error _ => [.clock]

def completeOperation {α : Type} (host : Host) (sys : System) (deviceId : DeviceId)
    (operation : RuntimeFailureOperation) (result : RuntimeResult α) : System where
  runtime :=
    { sys.runtime with
      failures := recordOutcome sys.runtime.failures deviceId operation (host.clock sys.calls) result }
  calls := sys.calls ++ clockReads result

def closeDetachedBindings (sys : System) (detached : List DetachedBoundDevice) : System :=
  detached.foldl (fun sys detached => sys.callClose detached.binding.handle) sys

def bindDiscoveredDevice (host : Host) (sys : System) (descriptor : DeviceDescriptor) :
    RuntimeResult Unit × System :=
  if !sys.runtime.running then (.error .notRunning, sys)
  else if descriptor.id ∈ sys.runtime.bindings then (.ok (), sys)
  else
    match sys.runtime.prepareBinding descriptor with
    | .error error => (.error error, sys)
    | .ok prepared =>
      match prepared.bind host sys with
      | (.error error, sys) => (.error error, sys)
      | (.ok output, sys) =>
        (.ok (), sys.setRuntime (sys.runtime.storeBoundDevice host.layout descriptor.id output))

def bindDeviceById (host : Host) (sys : System) (deviceId : DeviceId) : RuntimeResult Unit × System :=
  if !sys.runtime.running then (.error .notRunning, sys)
  else if deviceId ∈ sys.runtime.bindings then (.ok (), sys)
  else
    match sys.runtime.inventory.get deviceId with
    | none => (.error (.unknownDevice deviceId), sys)
    | some descriptor => sys.bindDiscoveredDevice host descriptor

def markDesired {α : Type} (sys : System) (deviceId : DeviceId) (result : RuntimeResult α) : System :=
  if result.isOk then sys.setRuntime (sys.runtime.markDesiredBinding deviceId) else sys

def bind (host : Host) (sys : System) (deviceId : DeviceId) : RuntimeResult Unit × System :=
  let (result, sys) := sys.bindDeviceById host deviceId
  let sys := sys.completeOperation host deviceId .bind result
  (result, sys.markDesired deviceId result)

def unbind (sys : System) (deviceId : DeviceId) : Bool × System :=
  let (removedAnything, detached, runtime) := sys.runtime.unbindDetached deviceId
  (removedAnything, (sys.setRuntime runtime).closeDetachedBindings detached.toList)

def reportState (host : Host) (sys : System) (deviceId : DeviceId) (bound : BoundDevice) :
    RuntimeResult (Option DeviceStateSnapshot) × System :=
  match sys.callState host bound false with
  | (.ok snapshot, sys) => (.ok snapshot, sys)
  | (.error source, sys) => (.error (.driver deviceId source), sys)

def refreshState (host : Host) (sys : System) (deviceId : DeviceId) :
    RuntimeResult (Option DeviceStateSnapshot) × System :=
  if !sys.runtime.running then (.error .notRunning, sys)
  else
    match sys.runtime.bindings[deviceId]? with
    | none => (.ok sys.runtime.states[deviceId]?, sys.setRuntime (sys.runtime.clearFailure deviceId))
    | some bound =>
      let (snapshot, sys) := sys.reportState host deviceId bound
      let sys := sys.completeOperation host deviceId .refreshState snapshot
      match snapshot with
      | .error error => (.error error, sys)
      | .ok snapshot =>
        let sys := sys.setRuntime (sys.runtime.cacheReported host.layout snapshot)
        (.ok sys.runtime.states[deviceId]?, sys)

def shutdown (sys : System) : System :=
  let taken := sys.runtime.takeAllBoundDevices
  let sys := (sys.setRuntime taken.2).closeDetachedBindings taken.1
  sys.setRuntime sys.runtime.shutdownDetached.2

end System

end Lemnos
