import Lemnos.Library.Runs
import Lemnos.Runtime.Holdings

namespace Lemnos

open Lemnos.Core Discovery Registry Library.OrderedMap Library.Runs

/-- The rest of an operation: what it does in its next section, under the runtime's lock or without it. -/
inductive Task where
  | bindPrepare (deviceId : DeviceId)
  | bindOpen (deviceId : DeviceId) (prepared : PreparedBinding)
  | bindStore (deviceId : DeviceId) (output : PreparedBindingOutput)
  | bindComplete (deviceId : DeviceId) (result : RuntimeResult Bool)
  | unbind (deviceId : DeviceId)
  | closeDetached (detached : List DetachedBoundDevice)
  | refreshStateLookup (deviceId : DeviceId)
  | refreshStateRead (deviceId : DeviceId) (bound : BoundDevice)
  | refreshStateComplete (deviceId : DeviceId) (result : RuntimeResult (Option DeviceStateSnapshot))
  | requestStart (request : DeviceRequest)
  | requestPrepare (request : DeviceRequest) (locked : Bool)
  | requestAutoBind (request : DeviceRequest) (locked : Bool)
  | requestOpen (request : DeviceRequest) (prepared : PreparedBinding) (cacheStateOnRequest locked : Bool)
  | requestStore (request : DeviceRequest) (output : PreparedBindingOutput)
      (cacheStateOnRequest locked : Bool)
  | requestDiscard (request : DeviceRequest) (output : PreparedBindingOutput) (bound : BoundDevice)
      (cacheStateOnRequest locked : Bool)
  | requestExecute (request : DeviceRequest) (bound : BoundDevice)
      (cacheStateOnRequest autoBound locked : Bool)
  | requestComplete (request : DeviceRequest)
      (result : RuntimeResult (InteractionResponse × Option DeviceStateSnapshot × Bool))
  | refreshCommit (discovery : DiscoveryRunReport) (mode : RefreshMode)
  | refreshClose (detached : List DetachedBoundDevice) (rebindTargets : List DeviceId)
  | refreshRebind (rebindTargets : List DeviceId)
  | shutdown
  | done

/-- The calls that start an operation. A refresh comes with the discovery that it has run before. -/
inductive AsyncCall where
  | bind (deviceId : DeviceId)
  | unbind (deviceId : DeviceId)
  | refreshState (deviceId : DeviceId)
  | request (request : DeviceRequest)
  | refresh (discovery : DiscoveryRunReport) (mode : RefreshMode)
  | shutdownAsync

def AsyncCall.task : AsyncCall → Task
  | .bind deviceId => .bindPrepare deviceId
  | .unbind deviceId => .unbind deviceId
  | .refreshState deviceId => .refreshStateLookup deviceId
  | .request deviceRequest => .requestStart deviceRequest
  | .refresh discovery mode => .refreshCommit discovery mode
  | .shutdownAsync => .shutdown

def Runtime.prepareBind (runtime : Runtime) (deviceId : DeviceId) : RuntimeResult (Option PreparedBinding) :=
  if !runtime.running then .error .notRunning
  else if deviceId ∈ runtime.bindings then .ok none
  else
    match runtime.inventory.get deviceId with
    | none => .error (.unknownDevice deviceId)
    | some descriptor =>
      match runtime.prepareBinding descriptor with
      | .error error => .error error
      | .ok prepared => .ok (some prepared)

def Runtime.prepareAutoBind (runtime : Runtime) (request : DeviceRequest) : RuntimeResult PreparedBinding :=
  match runtime.validatedRequestDevice request with
  | .error error => .error error
  | .ok device => runtime.prepareBinding device

def storedBinding : RuntimeResult Bool → Bool
  | .ok stored => stored
  | .error _ => false

namespace Task

variable (host : Host) (sys : System)

def bindStored (deviceId : DeviceId) (output : PreparedBindingOutput) : Task × System :=
  if !sys.runtime.running then
    (.bindComplete deviceId (.error .notRunning), sys.callClose output.bound.handle)
  else if deviceId ∈ sys.runtime.bindings then
    (.bindComplete deviceId (.ok false), sys.callClose output.bound.handle)
  else
    (.bindComplete deviceId (.ok true),
      sys.setRuntime (sys.runtime.storeBoundDevice host.layout deviceId output))

def bindCompleted (deviceId : DeviceId) (result : RuntimeResult Bool) : System :=
  let sys := sys.completeOperation host deviceId .bind result
  if storedBinding result then sys.setRuntime (sys.runtime.markDesiredBinding deviceId) else sys

def requestPrepared (request : DeviceRequest) (locked : Bool) : Task :=
  match sys.runtime.validatedRequestDevice request with
  | .error error => .requestComplete request (.error error)
  | .ok _ =>
    match sys.runtime.bindings[request.deviceId]? with
    | some bound => .requestExecute request bound sys.runtime.config.cacheStateOnRequest false locked
    | none =>
      if sys.runtime.config.autoBindOnRequest then .requestAutoBind request locked
      else .requestComplete request (.error (.deviceNotBound request.deviceId))

def requestAutoBound (request : DeviceRequest) (locked : Bool) : Task :=
  match sys.runtime.bindings[request.deviceId]? with
  | some bound => .requestExecute request bound sys.runtime.config.cacheStateOnRequest false locked
  | none =>
    match sys.runtime.prepareAutoBind request with
    | .error error => .requestComplete request (.error error)
    | .ok prepared => .requestOpen request prepared sys.runtime.config.cacheStateOnRequest locked

def requestStored (request : DeviceRequest) (output : PreparedBindingOutput)
    (cacheStateOnRequest locked : Bool) : Task × System :=
  if !sys.runtime.running then
    (.requestComplete request (.error .notRunning), sys.callClose output.bound.handle)
  else
    match sys.runtime.bindings[request.deviceId]? with
    | none =>
      (.requestExecute request output.bound cacheStateOnRequest true locked,
        sys.setRuntime (sys.runtime.storeBoundDevice host.layout request.deviceId output))
    | some bound => (.requestDiscard request output bound cacheStateOnRequest locked, sys)

def requestExecuted (request : DeviceRequest) (bound : BoundDevice) (cacheStateOnRequest autoBound : Bool) :
    Task × System :=
  match sys.executeBound host request bound cacheStateOnRequest with
  | (.error error, sys) => (.requestComplete request (.error error), sys)
  | (.ok (interaction, state), sys) => (.requestComplete request (.ok (interaction, state, autoBound)), sys)

def requestCompleted (request : DeviceRequest)
    (result : RuntimeResult (InteractionResponse × Option DeviceStateSnapshot × Bool)) : System :=
  let sys := sys.completeOperation host request.deviceId .request result
  match result with
  | .error _ => sys
  | .ok (_, state, autoBound) =>
    let sys := sys.setRuntime (sys.runtime.cacheReported host.layout state)
    if autoBound then sys.setRuntime (sys.runtime.markDesiredBinding request.deviceId) else sys

def refreshStateCompleted (deviceId : DeviceId) (result : RuntimeResult (Option DeviceStateSnapshot)) :
    System :=
  let sys := sys.completeOperation host deviceId .refreshState result
  match result with
  | .error _ => sys
  | .ok snapshot => sys.setRuntime (sys.runtime.cacheReported host.layout snapshot)

def step : Task → Task × System
  | bindPrepare deviceId =>
    match sys.runtime.prepareBind deviceId with
    | .error error => (.bindComplete deviceId (.error error), sys)
    | .ok none => (.bindComplete deviceId (.ok false), sys)
    | .ok (some prepared) => (.bindOpen deviceId prepared, sys)
  | bindOpen deviceId prepared =>
    match prepared.bind host sys with
    | (.error error, sys) => (.bindComplete deviceId (.error error), sys)
    | (.ok output, sys) => (.bindStore deviceId output, sys)
  | bindStore deviceId output => bindStored host sys deviceId output
  | bindComplete deviceId result => (.done, bindCompleted host sys deviceId result)
  | unbind deviceId =>
    let (_, detached, runtime) := sys.runtime.unbindDetached deviceId
    (.closeDetached detached.toList, sys.setRuntime runtime)
  | closeDetached [] => (.done, sys)
  | closeDetached (detached :: rest) => (.closeDetached rest, sys.callClose detached.binding.handle)
  | refreshStateLookup deviceId =>
    if !sys.runtime.running then (.done, sys)
    else
      match sys.runtime.bindings[deviceId]? with
      | none => (.done, sys.setRuntime (sys.runtime.clearFailure deviceId))
      | some bound => (.refreshStateRead deviceId bound, sys)
  | refreshStateRead deviceId bound =>
    let (result, sys) := sys.reportState host deviceId bound
    (.refreshStateComplete deviceId result, sys)
  | refreshStateComplete deviceId result => (.done, refreshStateCompleted host sys deviceId result)
  | requestStart request => (.requestPrepare request !sys.runtime.isBound request.deviceId, sys)
  | requestPrepare request locked => (requestPrepared sys request locked, sys)
  | requestAutoBind request locked => (requestAutoBound sys request locked, sys)
  | requestOpen request prepared cacheStateOnRequest locked =>
    match prepared.bind host sys with
    | (.error error, sys) => (.requestComplete request (.error error), sys)
    | (.ok output, sys) => (.requestStore request output cacheStateOnRequest locked, sys)
  | requestStore request output cacheStateOnRequest locked =>
    requestStored host sys request output cacheStateOnRequest locked
  | requestDiscard request output bound cacheStateOnRequest locked =>
    (.requestExecute request bound cacheStateOnRequest false locked, sys.callClose output.bound.handle)
  | requestExecute request bound cacheStateOnRequest autoBound _ =>
    requestExecuted host sys request bound cacheStateOnRequest autoBound
  | requestComplete request result => (.done, requestCompleted host sys request result)
  | refreshCommit discovery mode =>
    match sys.runtime.prepareRefreshCommit host.layout discovery mode with
    | .error _ => (.done, sys)
    | .ok (prepared, runtime) =>
      (.refreshClose prepared.detached prepared.rebindTargets, sys.setRuntime runtime)
  | refreshClose [] rebindTargets => (.refreshRebind rebindTargets, sys)
  | refreshClose (detached :: rest) rebindTargets =>
    (.refreshClose rest rebindTargets, sys.callClose detached.binding.handle)
  | refreshRebind rebindTargets => (.done, (System.rebindTrackedDevices host rebindTargets sys).2)
  | shutdown =>
    let (detached, runtime) := sys.runtime.shutdownDetached
    (.closeDetached detached, sys.setRuntime runtime)
  | done => (.done, sys)

theorem refreshCommit_cases (discovery : DiscoveryRunReport) (mode : RefreshMode) :
    (∃ error, sys.runtime.prepareRefreshCommit host.layout discovery mode = .error error ∧
      (refreshCommit discovery mode).step host sys = (.done, sys)) ∨
    ∃ snapshot, sys.runtime.running = true ∧ sys.runtime.nextInventory discovery mode = .ok snapshot ∧
      sys.runtime.prepareRefreshCommit host.layout discovery mode =
        .ok (sys.runtime.commitRefresh host.layout discovery mode snapshot) ∧
      (refreshCommit discovery mode).step host sys =
        (.refreshClose (sys.runtime.commitRefresh host.layout discovery mode snapshot).1.detached
          (sys.runtime.commitRefresh host.layout discovery mode snapshot).1.rebindTargets,
          sys.setRuntime (sys.runtime.commitRefresh host.layout discovery mode snapshot).2) := by
  cases hc : sys.runtime.prepareRefreshCommit host.layout discovery mode with
  | error error =>
    left
    exact ⟨error, rfl, by simp [step, hc]⟩
  | ok committed =>
    right
    obtain ⟨hr, snapshot, hn, rfl⟩ := Runtime.prepareRefreshCommit_ok hc
    exact ⟨snapshot, hr, hn, rfl, by simp [step, hc]⟩

/-- All that a section can do: what is left of the operation after it, and the system. -/
inductive Section : Task → Task → System → Prop where
  | bindSettled (deviceId : DeviceId) (result : RuntimeResult Bool) (unstored : storedBinding result = false) :
      Section (bindPrepare deviceId) (bindComplete deviceId result) sys
  | bindPrepared (deviceId : DeviceId) (prepared : PreparedBinding)
      (found : sys.runtime.prepareBind deviceId = .ok (some prepared)) :
      Section (bindPrepare deviceId) (bindOpen deviceId prepared) sys
  | bindFailed (deviceId : DeviceId) (prepared : PreparedBinding) (error : RuntimeError)
      (failed : (prepared.bind host sys).1 = .error error) :
      Section (bindOpen deviceId prepared) (bindComplete deviceId (.error error)) (prepared.bind host sys).2
  | bindOpened (deviceId : DeviceId) (prepared : PreparedBinding) (output : PreparedBindingOutput)
      (opened : (prepared.bind host sys).1 = .ok output) :
      Section (bindOpen deviceId prepared) (bindStore deviceId output) (prepared.bind host sys).2
  | bindClosed (deviceId : DeviceId) (output : PreparedBindingOutput) (result : RuntimeResult Bool)
      (unstored : storedBinding result = false)
      (closed : sys.runtime.running = false ∨ deviceId ∈ sys.runtime.bindings) :
      Section (bindStore deviceId output) (bindComplete deviceId result) (sys.callClose output.bound.handle)
  | bindStored (deviceId : DeviceId) (output : PreparedBindingOutput) (running : sys.runtime.running = true)
      (free : deviceId ∉ sys.runtime.bindings) :
      Section (bindStore deviceId output) (bindComplete deviceId (.ok true))
        (sys.setRuntime (sys.runtime.storeBoundDevice host.layout deviceId output))
  | bindCompleted (deviceId : DeviceId) (result : RuntimeResult Bool) :
      Section (bindComplete deviceId result) done (bindCompleted host sys deviceId result)
  | unbound (deviceId : DeviceId) :
      Section (unbind deviceId) (closeDetached (sys.runtime.unbindDetached deviceId).2.1.toList)
        (sys.setRuntime (sys.runtime.unbindDetached deviceId).2.2)
  | closedAll : Section (closeDetached []) done sys
  | closedNext (detached : DetachedBoundDevice) (rest : List DetachedBoundDevice) :
      Section (closeDetached (detached :: rest)) (closeDetached rest) (sys.callClose detached.binding.handle)
  | stateRefused (deviceId : DeviceId) (stopped : sys.runtime.running = false) :
      Section (refreshStateLookup deviceId) done sys
  | stateUnbound (deviceId : DeviceId) (free : sys.runtime.bindings[deviceId]? = none) :
      Section (refreshStateLookup deviceId) done (sys.setRuntime (sys.runtime.clearFailure deviceId))
  | stateFound (deviceId : DeviceId) (bound : BoundDevice)
      (found : sys.runtime.bindings[deviceId]? = some bound) :
      Section (refreshStateLookup deviceId) (refreshStateRead deviceId bound) sys
  | stateRead (deviceId : DeviceId) (bound : BoundDevice) :
      Section (refreshStateRead deviceId bound)
        (refreshStateComplete deviceId (sys.reportState host deviceId bound).1)
        (sys.reportState host deviceId bound).2
  | stateCompleted (deviceId : DeviceId) (result : RuntimeResult (Option DeviceStateSnapshot)) :
      Section (refreshStateComplete deviceId result) done (refreshStateCompleted host sys deviceId result)
  | requestStarted (request : DeviceRequest) (locked : Bool) :
      Section (requestStart request) (requestPrepare request locked) sys
  | requestRefused (request : DeviceRequest) (locked : Bool) (error : RuntimeError) :
      Section (requestPrepare request locked) (requestComplete request (.error error)) sys
  | requestFound (request : DeviceRequest) (locked : Bool) (bound : BoundDevice)
      (found : sys.runtime.bindings[request.deviceId]? = some bound) :
      Section (requestPrepare request locked)
        (requestExecute request bound sys.runtime.config.cacheStateOnRequest false locked) sys
  | requestUnbound (request : DeviceRequest) (locked : Bool) :
      Section (requestPrepare request locked) (requestAutoBind request locked) sys
  | autoBindFound (request : DeviceRequest) (locked : Bool) (bound : BoundDevice)
      (found : sys.runtime.bindings[request.deviceId]? = some bound) :
      Section (requestAutoBind request locked)
        (requestExecute request bound sys.runtime.config.cacheStateOnRequest false locked) sys
  | autoBindRefused (request : DeviceRequest) (locked : Bool) (error : RuntimeError) :
      Section (requestAutoBind request locked) (requestComplete request (.error error)) sys
  | autoBindPrepared (request : DeviceRequest) (locked : Bool) (prepared : PreparedBinding)
      (found : sys.runtime.prepareAutoBind request = .ok prepared) :
      Section (requestAutoBind request locked)
        (requestOpen request prepared sys.runtime.config.cacheStateOnRequest locked) sys
  | requestFailed (request : DeviceRequest) (prepared : PreparedBinding) (cacheStateOnRequest locked : Bool)
      (error : RuntimeError) (failed : (prepared.bind host sys).1 = .error error) :
      Section (requestOpen request prepared cacheStateOnRequest locked)
        (requestComplete request (.error error)) (prepared.bind host sys).2
  | requestOpened (request : DeviceRequest) (prepared : PreparedBinding) (cacheStateOnRequest locked : Bool)
      (output : PreparedBindingOutput) (opened : (prepared.bind host sys).1 = .ok output) :
      Section (requestOpen request prepared cacheStateOnRequest locked)
        (requestStore request output cacheStateOnRequest locked) (prepared.bind host sys).2
  | requestClosed (request : DeviceRequest) (output : PreparedBindingOutput) (cacheStateOnRequest locked : Bool)
      (stopped : sys.runtime.running = false) :
      Section (requestStore request output cacheStateOnRequest locked)
        (requestComplete request (.error .notRunning)) (sys.callClose output.bound.handle)
  | requestStored (request : DeviceRequest) (output : PreparedBindingOutput) (cacheStateOnRequest locked : Bool)
      (running : sys.runtime.running = true) (free : request.deviceId ∉ sys.runtime.bindings) :
      Section (requestStore request output cacheStateOnRequest locked)
        (requestExecute request output.bound cacheStateOnRequest true locked)
        (sys.setRuntime (sys.runtime.storeBoundDevice host.layout request.deviceId output))
  | requestOutrun (request : DeviceRequest) (output : PreparedBindingOutput) (cacheStateOnRequest locked : Bool)
      (bound : BoundDevice) (found : sys.runtime.bindings[request.deviceId]? = some bound) :
      Section (requestStore request output cacheStateOnRequest locked)
        (requestDiscard request output bound cacheStateOnRequest locked) sys
  | requestDiscarded (request : DeviceRequest) (output : PreparedBindingOutput) (bound : BoundDevice)
      (cacheStateOnRequest locked : Bool) :
      Section (requestDiscard request output bound cacheStateOnRequest locked)
        (requestExecute request bound cacheStateOnRequest false locked) (sys.callClose output.bound.handle)
  | requestThrown (request : DeviceRequest) (bound : BoundDevice) (cacheStateOnRequest autoBound locked : Bool)
      (error : RuntimeError)
      (thrown : (sys.executeBound host request bound cacheStateOnRequest).1 = .error error) :
      Section (requestExecute request bound cacheStateOnRequest autoBound locked)
        (requestComplete request (.error error)) (sys.executeBound host request bound cacheStateOnRequest).2
  | requestExecuted (request : DeviceRequest) (bound : BoundDevice)
      (cacheStateOnRequest autoBound locked : Bool) (interaction : InteractionResponse)
      (state : Option DeviceStateSnapshot)
      (executed : (sys.executeBound host request bound cacheStateOnRequest).1 = .ok (interaction, state)) :
      Section (requestExecute request bound cacheStateOnRequest autoBound locked)
        (requestComplete request (.ok (interaction, state, autoBound)))
        (sys.executeBound host request bound cacheStateOnRequest).2
  | requestCompleted (request : DeviceRequest)
      (result : RuntimeResult (InteractionResponse × Option DeviceStateSnapshot × Bool)) :
      Section (requestComplete request result) done (requestCompleted host sys request result)
  | refreshRefused (discovery : DiscoveryRunReport) (mode : RefreshMode) :
      Section (refreshCommit discovery mode) done sys
  | refreshCommitted (discovery : DiscoveryRunReport) (mode : RefreshMode) (snapshot : InventorySnapshot)
      (next : sys.runtime.nextInventory discovery mode = .ok snapshot) (running : sys.runtime.running = true) :
      Section (refreshCommit discovery mode)
        (refreshClose (sys.runtime.commitRefresh host.layout discovery mode snapshot).1.detached
          (sys.runtime.commitRefresh host.layout discovery mode snapshot).1.rebindTargets)
        (sys.setRuntime (sys.runtime.commitRefresh host.layout discovery mode snapshot).2)
  | refreshClosed (rebindTargets : List DeviceId) :
      Section (refreshClose [] rebindTargets) (refreshRebind rebindTargets) sys
  | refreshClosedNext (detached : DetachedBoundDevice) (rest : List DetachedBoundDevice)
      (rebindTargets : List DeviceId) :
      Section (refreshClose (detached :: rest) rebindTargets) (refreshClose rest rebindTargets)
        (sys.callClose detached.binding.handle)
  | rebound (rebindTargets : List DeviceId) :
      Section (refreshRebind rebindTargets) done (System.rebindTrackedDevices host rebindTargets sys).2
  | shutDown :
      Section shutdown (closeDetached sys.runtime.shutdownDetached.1)
        (sys.setRuntime sys.runtime.shutdownDetached.2)
  | idle : Section done done sys

theorem bindPrepare_section (deviceId : DeviceId) :
    Section host sys (bindPrepare deviceId) ((bindPrepare deviceId).step host sys).1
      ((bindPrepare deviceId).step host sys).2 := by
  simp only [step]
  split
  · exact .bindSettled deviceId _ rfl
  · exact .bindSettled deviceId _ rfl
  · rename_i found
    exact .bindPrepared deviceId _ found

theorem bindOpen_section (deviceId : DeviceId) (prepared : PreparedBinding) :
    Section host sys (bindOpen deviceId prepared) ((bindOpen deviceId prepared).step host sys).1
      ((bindOpen deviceId prepared).step host sys).2 := by
  have hfailed := @Section.bindFailed host sys deviceId prepared
  have hopened := @Section.bindOpened host sys deviceId prepared
  simp only [step]
  generalize prepared.bind host sys = opened at hfailed hopened ⊢
  rcases opened with ⟨error | output, sys'⟩
  · exact hfailed error rfl
  · exact hopened output rfl

theorem bindStored_section (deviceId : DeviceId) (output : PreparedBindingOutput) :
    Section host sys (bindStore deviceId output) (bindStored host sys deviceId output).1
      (bindStored host sys deviceId output).2 := by
  unfold bindStored
  split
  · rename_i stopped
    exact .bindClosed deviceId output _ rfl (.inl (by simpa using stopped))
  · rename_i running
    split
    · rename_i bound
      exact .bindClosed deviceId output _ rfl (.inr bound)
    · rename_i free
      exact .bindStored deviceId output (by simpa using running) free

theorem refreshStateLookup_section (deviceId : DeviceId) :
    Section host sys (refreshStateLookup deviceId) ((refreshStateLookup deviceId).step host sys).1
      ((refreshStateLookup deviceId).step host sys).2 := by
  simp only [step]
  split
  · rename_i stopped
    exact .stateRefused deviceId (by simpa using stopped)
  · split
    · rename_i free
      exact .stateUnbound deviceId free
    · rename_i found
      exact .stateFound deviceId _ found

theorem requestPrepared_section (request : DeviceRequest) (locked : Bool) :
    Section host sys (requestPrepare request locked) (requestPrepared sys request locked) sys := by
  unfold requestPrepared
  split
  · exact .requestRefused request locked _
  · split
    · rename_i found
      exact .requestFound request locked _ found
    · split
      · exact .requestUnbound request locked
      · exact .requestRefused request locked _

theorem requestAutoBound_section (request : DeviceRequest) (locked : Bool) :
    Section host sys (requestAutoBind request locked) (requestAutoBound sys request locked) sys := by
  unfold requestAutoBound
  split
  · rename_i found
    exact .autoBindFound request locked _ found
  · split
    · exact .autoBindRefused request locked _
    · rename_i found
      exact .autoBindPrepared request locked _ found

theorem requestOpen_section (request : DeviceRequest) (prepared : PreparedBinding)
    (cacheStateOnRequest locked : Bool) :
    Section host sys (requestOpen request prepared cacheStateOnRequest locked)
      ((requestOpen request prepared cacheStateOnRequest locked).step host sys).1
      ((requestOpen request prepared cacheStateOnRequest locked).step host sys).2 := by
  have hfailed := @Section.requestFailed host sys request prepared cacheStateOnRequest locked
  have hopened := @Section.requestOpened host sys request prepared cacheStateOnRequest locked
  simp only [step]
  generalize prepared.bind host sys = opened at hfailed hopened ⊢
  rcases opened with ⟨error | output, sys'⟩
  · exact hfailed error rfl
  · exact hopened output rfl

theorem requestStored_section (request : DeviceRequest) (output : PreparedBindingOutput)
    (cacheStateOnRequest locked : Bool) :
    Section host sys (requestStore request output cacheStateOnRequest locked)
      (requestStored host sys request output cacheStateOnRequest locked).1
      (requestStored host sys request output cacheStateOnRequest locked).2 := by
  unfold requestStored
  split
  · rename_i stopped
    exact .requestClosed request output cacheStateOnRequest locked (by simpa using stopped)
  · rename_i running
    split
    · rename_i free
      exact .requestStored request output cacheStateOnRequest locked (by simpa using running)
        ((BTreeMap.not_mem_iff _ _).mpr free)
    · rename_i found
      exact .requestOutrun request output cacheStateOnRequest locked _ found

theorem requestExecuted_section (request : DeviceRequest) (bound : BoundDevice)
    (cacheStateOnRequest autoBound locked : Bool) :
    Section host sys (requestExecute request bound cacheStateOnRequest autoBound locked)
      (requestExecuted host sys request bound cacheStateOnRequest autoBound).1
      (requestExecuted host sys request bound cacheStateOnRequest autoBound).2 := by
  have hthrown := @Section.requestThrown host sys request bound cacheStateOnRequest autoBound locked
  have hexecuted := @Section.requestExecuted host sys request bound cacheStateOnRequest autoBound locked
  unfold requestExecuted
  generalize sys.executeBound host request bound cacheStateOnRequest = executed at hthrown hexecuted ⊢
  rcases executed with ⟨error | value, sys'⟩
  · exact hthrown error rfl
  · exact hexecuted value.1 value.2 rfl

theorem step_section (task : Task) : Section host sys task (task.step host sys).1 (task.step host sys).2 := by
  cases task with
  | bindPrepare deviceId => exact bindPrepare_section host sys deviceId
  | bindOpen deviceId prepared => exact bindOpen_section host sys deviceId prepared
  | bindStore deviceId output => exact bindStored_section host sys deviceId output
  | bindComplete deviceId result => exact .bindCompleted deviceId result
  | unbind deviceId => exact .unbound deviceId
  | closeDetached detached =>
    cases detached with
    | nil => exact .closedAll
    | cons first rest => exact .closedNext first rest
  | refreshStateLookup deviceId => exact refreshStateLookup_section host sys deviceId
  | refreshStateRead deviceId bound => exact .stateRead deviceId bound
  | refreshStateComplete deviceId result => exact .stateCompleted deviceId result
  | requestStart request => exact .requestStarted request _
  | requestPrepare request locked => exact requestPrepared_section host sys request locked
  | requestAutoBind request locked => exact requestAutoBound_section host sys request locked
  | requestOpen request prepared cacheStateOnRequest locked =>
    exact requestOpen_section host sys request prepared cacheStateOnRequest locked
  | requestStore request output cacheStateOnRequest locked =>
    exact requestStored_section host sys request output cacheStateOnRequest locked
  | requestDiscard request output bound cacheStateOnRequest locked =>
    exact .requestDiscarded request output bound cacheStateOnRequest locked
  | requestExecute request bound cacheStateOnRequest autoBound locked =>
    exact requestExecuted_section host sys request bound cacheStateOnRequest autoBound locked
  | requestComplete request result => exact .requestCompleted request result
  | refreshCommit discovery mode =>
    rcases refreshCommit_cases host sys discovery mode with
      ⟨error, -, hstep⟩ | ⟨snapshot, running, next, -, hstep⟩
    · rw [hstep]
      exact .refreshRefused discovery mode
    · rw [hstep]
      exact .refreshCommitted discovery mode snapshot next running
  | refreshClose detached rebindTargets =>
    cases detached with
    | nil => exact .refreshClosed rebindTargets
    | cons first rest => exact .refreshClosedNext first rest rebindTargets
  | refreshRebind rebindTargets => exact .rebound rebindTargets
  | shutdown => exact .shutDown
  | done => exact .idle

/-- The bind lock that a task holds between its sections. -/
def holdsLock : Task → Option DeviceId
  | bindOpen deviceId _ | bindStore deviceId _ => some deviceId
  | requestAutoBind request locked | requestOpen request _ _ locked | requestStore request _ _ locked
  | requestDiscard request _ _ _ locked | requestExecute request _ _ _ locked =>
    if locked then some request.deviceId else none
  | _ => none

def takesLock : Task → Option DeviceId
  | bindPrepare deviceId => some deviceId
  | requestPrepare request locked => if locked then some request.deviceId else none
  | _ => none

def isDone : Task → Bool
  | done => true
  | _ => false

end Task

structure AsyncRuntime where
  system : System := {}
  tasks : List Task := []

inductive AsyncAction where
  | call (call : AsyncCall)
  | advance (i : ℕ)
  | control (op : RuntimeOp)

namespace AsyncRuntime

def blocked (state : AsyncRuntime) (task : Task) : Bool :=
  match task.takesLock with
  | none => false
  | some deviceId => state.tasks.any (fun other => other.holdsLock = some deviceId)

def step (host : Host) (action : AsyncAction) (state : AsyncRuntime) : Option AsyncRuntime :=
  match action with
  | .call call => some { state with tasks := state.tasks ++ [call.task] }
  | .advance i =>
    match state.tasks[i]? with
    | none => none
    | some task =>
      if task.isDone || state.blocked task then none
      else
        let (next, system) := task.step host state.system
        some { system, tasks := state.tasks.set i next }
  | .control op => if op.isControl then some { state with system := state.system.exec host op } else none

def init (config : RuntimeConfig) : AsyncRuntime := { system := { runtime := { config } } }

def quiescent (state : AsyncRuntime) : Bool := state.tasks.all Task.isDone

theorem step_cases {host : Host} {action : AsyncAction} {state state' : AsyncRuntime}
    (h : state.step host action = some state') :
    (∃ call, action = .call call ∧ state' = { state with tasks := state.tasks ++ [call.task] }) ∨
    (∃ i before task after, action = .advance i ∧ state.tasks = before ++ task :: after ∧ i = before.length ∧
      state.blocked task = false ∧
      state' = ⟨(task.step host state.system).2, before ++ (task.step host state.system).1 :: after⟩) ∨
    ∃ op, action = .control op ∧ op.isControl = true ∧
      state' = { state with system := state.system.exec host op } := by
  cases action with
  | call call =>
    cases h
    exact .inl ⟨call, rfl, rfl⟩
  | advance i =>
    right
    left
    simp only [step] at h
    split at h
    · cases h
    · rename_i task hget
      split at h
      · cases h
      · rename_i hfree
        rw [Bool.or_eq_true, not_or, Bool.not_eq_true, Bool.not_eq_true] at hfree
        cases h
        obtain ⟨before, after, htasks, hi, hset⟩ := exists_split hget
        exact ⟨i, before, task, after, rfl, htasks, hi, hfree.2, by rw [hset]⟩
  | control op =>
    right
    right
    simp only [step] at h
    split at h
    · rename_i hcontrol
      cases h
      exact ⟨op, rfl, hcontrol, rfl⟩
    · cases h

theorem step_tasks {host : Host} {action : AsyncAction} {state state' : AsyncRuntime} {p : Task → Prop}
    (hs : state.step host action = some state') (hbefore : ∀ task ∈ state.tasks, p task)
    (hcall : ∀ call, action = .call call → p call.task)
    (hsection : ∀ task ∈ state.tasks, state'.system = (task.step host state.system).2 →
      p (task.step host state.system).1) : ∀ task ∈ state'.tasks, p task := by
  rcases step_cases hs with ⟨call, haction, rfl⟩ | ⟨i, before, task, after, -, htasks, -, -, rfl⟩ |
    ⟨op, -, -, rfl⟩
  · intro task htask
    rcases List.mem_append.mp htask with htask | htask
    · exact hbefore task htask
    · cases List.mem_singleton.mp htask
      exact hcall call haction
  · rw [htasks] at hbefore hsection
    exact forall_mem_replaced hbefore (hsection task (by simp) rfl)
  · exact hbefore

theorem step_system {host : Host} {action : AsyncAction} {state state' : AsyncRuntime}
    (hs : state.step host action = some state') :
    state'.system = state.system ∨ (∃ task ∈ state.tasks, state'.system = (task.step host state.system).2) ∨
      ∃ op, op.isControl = true ∧ state'.system = state.system.exec host op := by
  rcases step_cases hs with ⟨call, -, rfl⟩ | ⟨i, before, task, after, -, htasks, -, -, rfl⟩ |
    ⟨op, -, hop, rfl⟩
  · exact .inl rfl
  · exact .inr (.inl ⟨task, by simp [htasks], rfl⟩)
  · exact .inr (.inr ⟨op, hop, rfl⟩)

def lineDriver : Driver := { id := "lemnos.gpio", matchResult := fun _ => ⟨.exact, 100, [], none⟩ }

def lineFound : DiscoveryRunReport where
  snapshot := ⟨none, [gpioLineDescriptor], by decide⟩
  probeReports := [.success "linux-gpio" [.gpio] [.gpio] 1 [gpioLine] []]

def findingLine : List AsyncAction :=
  [.control (.registerDriver lineDriver), .call (.refresh lineFound .full), .advance 0, .advance 0,
    .advance 0]

def bindingLine : List AsyncAction :=
  findingLine ++ [.call (.bind gpioLine), .advance 1, .advance 1, .advance 1, .advance 1]

end AsyncRuntime

end Lemnos
