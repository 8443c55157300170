import Lemnos.Core.Request
import Lemnos.Discovery.Index
import Lemnos.Runtime.EventLog

namespace Lemnos

open Lemnos.Core Discovery Registry Library.OrderedMap

/-- A driver instance: the position of the call that opened it, its driver's id and its descriptor. -/
structure BoundDevice where
  handle : ℕ
  driverId : String
  device : DeviceDescriptor
  deriving DecidableEq

structure Runtime where
  config : RuntimeConfig := {}
  running : Bool := true
  inventory : InventorySnapshot := {}
  registry : DriverRegistry := {}
  states : BTreeMap DeviceId DeviceStateSnapshot := ∅
  bindings : BTreeMap DeviceId BoundDevice := ∅
  probeInventory : ProbeInventoryIndex := {}
  desiredBindings : BTreeSet DeviceId := ∅
  failures : BTreeMap DeviceId RuntimeFailureRecord := ∅
  log : EventLog := {}
  eventNotifier : RuntimeEventNotifier := {}

/-- The calls that leave the runtime, in the order in which they are made. -/
inductive HostCall where
  | bind (driverId : String) (device : DeviceDescriptor) (opened : Bool)
  | state (handle : ℕ) (atBind : Bool) (succeeded : Bool)
  | execute (handle : ℕ)
  | close (handle : ℕ)
  | clock
  deriving DecidableEq

/-- Everything outside the runtime; an answer may depend on all calls made before. -/
structure Host where
  layout : Layout
  availableParallelism : ℕ
  bind : List HostCall → Driver → DeviceDescriptor → Except DriverError String
  state : List HostCall → BoundDevice → Except DriverError (Option DeviceStateSnapshot)
  execute : List HostCall → BoundDevice → InteractionRequest → Except DriverError InteractionResponse
  clock : List HostCall → Option TimestampMs

def Host.quiet : Host where
  layout := wordLayout
  availableParallelism := 4
  bind := fun _ driver _ => .ok driver.id
  state := fun _ _ => .ok none
  execute := fun _ _ _ => .error (.notImplemented "quiet" "execute")
  clock := fun _ => none

structure System where
  runtime : Runtime := {}
  calls : List HostCall := []

namespace System

def callBind (host : Host) (sys : System) (driver : Driver) (device : DeviceDescriptor) :
    Except DriverError BoundDevice × System :=
  match host.bind sys.calls driver device with
  | .ok driverId =>
    (.ok ⟨sys.calls.length, driverId, device⟩,
      { sys with calls := sys.calls ++ [.bind driver.id device true] })
  | .error error => (.error error, { sys with calls := sys.calls ++ [.bind driver.id device false] })

def callState (host : Host) (sys : System) (bound : BoundDevice) (atBind : Bool) :
    Except DriverError (Option DeviceStateSnapshot) × System :=
  match host.state sys.calls bound with
  | .ok state => (.ok state, { sys with calls := sys.calls ++ [.state bound.handle atBind true] })
  | .error error => (.error error, { sys with calls := sys.calls ++ [.state bound.handle atBind false] })

def callExecute (host : Host) (sys : System) (bound : BoundDevice) (request : InteractionRequest) :
    Except DriverError InteractionResponse × System :=
  (host.execute sys.calls bound request, { sys with calls := sys.calls ++ [.execute bound.handle] })

def callClose (sys : System) (handle : ℕ) : System :=
  { sys with calls := sys.calls ++ [.close handle] }

end System

namespace Runtime

variable (layout : Layout)

def isBound (runtime : Runtime) (deviceId : DeviceId) : Bool :=
  runtime.bindings.contains deviceId

def start (runtime : Runtime) : Runtime :=
  { runtime with running := true }

def registerDriver (runtime : Runtime) (driver : Driver) : RuntimeResult Runtime :=
  match runtime.registry.register driver with
  | .ok registry => .ok { runtime with registry }
  | .error error => .error (.registry error)

def clearFailure (runtime : Runtime) (deviceId : DeviceId) : Runtime :=
  { runtime with failures := runtime.failures.erase deviceId }

def markDesiredBinding (runtime : Runtime) (deviceId : DeviceId) : Runtime :=
  { runtime with desiredBindings := runtime.desiredBindings.insert deviceId }

def enforceEventRetention (runtime : Runtime) : Runtime :=
  { runtime with
    log := runtime.log.enforceEventRetention layout runtime.config
    eventNotifier :=
      if runtime.log.retentionDropCount layout runtime.config = 0 then runtime.eventNotifier
      else runtime.eventNotifier.notifyChanged }

def setConfig (runtime : Runtime) (config : RuntimeConfig) : Runtime :=
  { runtime with config }.enforceEventRetention layout

def notifyEventSubscribers (runtime : Runtime) : Runtime :=
  { runtime with eventNotifier := runtime.eventNotifier.advanceTo runtime.log.eventTailIndex }

def pushRetainedEvents (runtime : Runtime) (events : List LemnosEvent) : Runtime :=
  { runtime with log := events.foldl (EventLog.pushRetainedEvent layout) runtime.log }

def cacheState (runtime : Runtime) (state : DeviceStateSnapshot) : Runtime :=
  let runtime := runtime.pushRetainedEvents layout [.state (.snapshot state)]
  let runtime := runtime.enforceEventRetention layout
  let runtime := runtime.notifyEventSubscribers
  { runtime with states := runtime.states.insert state.deviceId state }

def recordInventoryEvents (runtime : Runtime) (diff : InventoryDiff) : Runtime :=
  let priorTail := runtime.log.eventTailIndex
  let runtime := runtime.pushRetainedEvents layout (diff.events.map .inventory)
  let runtime := runtime.enforceEventRetention layout
  { runtime with
    eventNotifier :=
      if runtime.log.eventTailIndex ≠ priorTail then runtime.notifyEventSubscribers.eventNotifier
      else runtime.eventNotifier }

def takeEvents (runtime : Runtime) : List LemnosEvent × Runtime :=
  (runtime.log.takeEvents.1,
    { runtime with
      log := runtime.log.takeEvents.2
      eventNotifier :=
        if runtime.log.takeEvents.1.isEmpty then runtime.eventNotifier
        else runtime.eventNotifier.notifyChanged })

def cacheReported (runtime : Runtime) (state : Option DeviceStateSnapshot) : Runtime :=
  match state with
  | some state => runtime.cacheState layout state
  | none => runtime

variable (runtime : Runtime) (state : Option DeviceStateSnapshot)

theorem cacheReported_eq : ∃ log eventNotifier states,
    runtime.cacheReported layout state = { runtime with log, eventNotifier, states } := by
  cases state with
  | none => exact ⟨runtime.log, runtime.eventNotifier, runtime.states, rfl⟩
  | some state =>
    simp only [cacheReported, cacheState, notifyEventSubscribers, enforceEventRetention, pushRetainedEvents]
    exact ⟨_, _, _, rfl⟩

@[simp] theorem cacheReported_config : (runtime.cacheReported layout state).config = runtime.config := by
  obtain ⟨log, eventNotifier, states, h⟩ := runtime.cacheReported_eq layout state
  rw [h]

@[simp] theorem cacheReported_running : (runtime.cacheReported layout state).running = runtime.running := by
  obtain ⟨log, eventNotifier, states, h⟩ := runtime.cacheReported_eq layout state
  rw [h]

@[simp] theorem cacheReported_inventory :
    (runtime.cacheReported layout state).inventory = runtime.inventory := by
  obtain ⟨log, eventNotifier, states, h⟩ := runtime.cacheReported_eq layout state
  rw [h]

@[simp] theorem cacheReported_registry :
    (runtime.cacheReported layout state).registry = runtime.registry := by
  obtain ⟨log, eventNotifier, states, h⟩ := runtime.cacheReported_eq layout state
  rw [h]

@[simp] theorem cacheReported_bindings :
    (runtime.cacheReported layout state).bindings = runtime.bindings := by
  obtain ⟨log, eventNotifier, states, h⟩ := runtime.cacheReported_eq layout state
  rw [h]

@[simp] theorem cacheReported_probeInventory :
    (runtime.cacheReported layout state).probeInventory = runtime.probeInventory := by
  obtain ⟨log, eventNotifier, states, h⟩ := runtime.cacheReported_eq layout state
  rw [h]

@[simp] theorem cacheReported_desiredBindings :
    (runtime.cacheReported layout state).desiredBindings = runtime.desiredBindings := by
  obtain ⟨log, eventNotifier, states, h⟩ := runtime.cacheReported_eq layout state
  rw [h]

@[simp] theorem cacheReported_failures :
    (runtime.cacheReported layout state).failures = runtime.failures := by
  obtain ⟨log, eventNotifier, states, h⟩ := runtime.cacheReported_eq layout state
  rw [h]

@[simp] theorem cacheReported_pushed : (runtime.cacheReported layout state).log.pushed =
    runtime.log.pushed ++ state.toList.map (fun state => .state (.snapshot state)) := by
  cases state with
  | none => simp [cacheReported]
  | some state => simp [cacheReported, cacheState, pushRetainedEvents, enforceEventRetention,
      notifyEventSubscribers, EventLog.pushRetainedEvent]

section

variable (diff : InventoryDiff)

theorem recordInventoryEvents_eq : ∃ log eventNotifier,
    runtime.recordInventoryEvents layout diff = { runtime with log, eventNotifier } := by
  simp only [recordInventoryEvents, enforceEventRetention, pushRetainedEvents]
  exact ⟨_, _, rfl⟩

@[simp] theorem recordInventoryEvents_running :
    (runtime.recordInventoryEvents layout diff).running = runtime.running := by
  obtain ⟨log, eventNotifier, h⟩ := runtime.recordInventoryEvents_eq layout diff
  rw [h]

@[simp] theorem recordInventoryEvents_states :
    (runtime.recordInventoryEvents layout diff).states = runtime.states := by
  obtain ⟨log, eventNotifier, h⟩ := runtime.recordInventoryEvents_eq layout diff
  rw [h]

@[simp] theorem recordInventoryEvents_bindings :
    (runtime.recordInventoryEvents layout diff).bindings = runtime.bindings := by
  obtain ⟨log, eventNotifier, h⟩ := runtime.recordInventoryEvents_eq layout diff
  rw [h]

@[simp] theorem recordInventoryEvents_probeInventory :
    (runtime.recordInventoryEvents layout diff).probeInventory = runtime.probeInventory := by
  obtain ⟨log, eventNotifier, h⟩ := runtime.recordInventoryEvents_eq layout diff
  rw [h]

@[simp] theorem recordInventoryEvents_desiredBindings :
    (runtime.recordInventoryEvents layout diff).desiredBindings = runtime.desiredBindings := by
  obtain ⟨log, eventNotifier, h⟩ := runtime.recordInventoryEvents_eq layout diff
  rw [h]

@[simp] theorem recordInventoryEvents_failures :
    (runtime.recordInventoryEvents layout diff).failures = runtime.failures := by
  obtain ⟨log, eventNotifier, h⟩ := runtime.recordInventoryEvents_eq layout diff
  rw [h]

end

theorem recordInventoryEvents_pushed (diff : InventoryDiff) :
    (runtime.recordInventoryEvents layout diff).log.pushed =
      runtime.log.pushed ++ diff.events.map .inventory := by
  simp [recordInventoryEvents, pushRetainedEvents, enforceEventRetention]

theorem cacheReported_states (deviceId : DeviceId)
    (h : ∀ reported ∈ state, reported.deviceId ≠ deviceId) :
    (runtime.cacheReported layout state).states[deviceId]? = runtime.states[deviceId]? := by
  cases state with
  | none => rfl
  | some reported => exact BTreeMap.getElem?_insert_ne _ _ (h reported rfl).symm

end Runtime

end Lemnos
