import Mathlib.Logic.Relation
import Lemnos.AsyncRuntime.Tasks
import Lemnos.Runtime.Rebinding

namespace Lemnos

open Lemnos.Core Discovery Registry Library.OrderedMap

namespace AsyncRuntime

variable (host : Host) (sys : System)

/-- What `bind` does under the device's bind lock, when nothing else gets in between its sections. -/
def bindLocked (deviceId : DeviceId) : RuntimeResult Bool × System :=
  match sys.runtime.prepareBind deviceId with
  | .error error => (.error error, sys)
  | .ok none => (.ok false, sys)
  | .ok (some prepared) =>
    match prepared.bind host sys with
    | (.error error, sys) => (.error error, sys)
    | (.ok output, sys) =>
      if !sys.runtime.running then (.error .notRunning, sys.callClose output.bound.handle)
      else if deviceId ∈ sys.runtime.bindings then (.ok false, sys.callClose output.bound.handle)
      else (.ok true, sys.setRuntime (sys.runtime.storeBoundDevice host.layout deviceId output))

def bind (deviceId : DeviceId) : RuntimeResult Unit × System :=
  let (result, sys) := bindLocked host sys deviceId
  (result.map (fun _ => ()), Task.bindCompleted host sys deviceId result)

def unbind (deviceId : DeviceId) : Bool × System :=
  let (removedAnything, detached, runtime) := sys.runtime.unbindDetached deviceId
  (removedAnything, (sys.setRuntime runtime).closeDetachedBindings detached.toList)

def refreshState (deviceId : DeviceId) : RuntimeResult (Option DeviceStateSnapshot) × System :=
  if !sys.runtime.running then (.error .notRunning, sys)
  else
    match sys.runtime.bindings[deviceId]? with
    | none =>
      let sys := sys.setRuntime (sys.runtime.clearFailure deviceId)
      (.ok sys.runtime.states[deviceId]?, sys)
    | some bound =>
      let (refreshResult, sys) := sys.reportState host deviceId bound
      let sys := Task.refreshStateCompleted host sys deviceId refreshResult
      (refreshResult.map (fun _ => sys.runtime.states[deviceId]?), sys)

def requestBinding (request : DeviceRequest) : RuntimeResult (BoundDevice × Bool × Bool) × System :=
  match sys.runtime.validatedRequestDevice request with
  | .error error => (.error error, sys)
  | .ok _ =>
    match sys.runtime.bindings[request.deviceId]? with
    | some bound => (.ok (bound, sys.runtime.config.cacheStateOnRequest, false), sys)
    | none =>
      if !sys.runtime.config.autoBindOnRequest then (.error (.deviceNotBound request.deviceId), sys)
      else
        match sys.runtime.bindings[request.deviceId]? with
        | some bound => (.ok (bound, sys.runtime.config.cacheStateOnRequest, false), sys)
        | none =>
          match sys.runtime.prepareAutoBind request with
          | .error error => (.error error, sys)
          | .ok prepared =>
            let cacheStateOnRequest := sys.runtime.config.cacheStateOnRequest
            match prepared.bind host sys with
            | (.error error, sys) => (.error error, sys)
            | (.ok output, sys) =>
              if !sys.runtime.running then (.error .notRunning, sys.callClose output.bound.handle)
              else
                match sys.runtime.bindings[request.deviceId]? with
                | none =>
                  (.ok (output.bound, cacheStateOnRequest, true),
                    sys.setRuntime (sys.runtime.storeBoundDevice host.layout request.deviceId output))
                | some bound =>
                  (.ok (bound, cacheStateOnRequest, false), sys.callClose output.bound.handle)

def requestDispatch (request : DeviceRequest) :
    RuntimeResult (InteractionResponse × Option DeviceStateSnapshot × Bool) × System :=
  match requestBinding host sys request with
  | (.error error, sys) => (.error error, sys)
  | (.ok (bound, cacheStateOnRequest, autoBound), sys) =>
    match sys.executeBound host request bound cacheStateOnRequest with
    | (.error error, sys) => (.error error, sys)
    | (.ok (response, state), sys) => (.ok (response, state, autoBound), sys)

def request (request : DeviceRequest) : RuntimeResult DeviceResponse × System :=
  let (result, sys) := requestDispatch host sys request
  (result.map (fun dispatched => ⟨request.deviceId, dispatched.1⟩),
    Task.requestCompleted host sys request result)

/-- The probes run before the runtime's lock is first taken, so before anyone looks whether it runs. -/
def runRefresh (context : DiscoveryContext) (probes : List DiscoveryProbe) (mode : RefreshMode) :
    RuntimeResult RuntimeRefreshReport × System :=
  match runProbes host.availableParallelism context probes with
  | .error error => (.error (.discovery error), sys)
  | .ok discovery =>
    match sys.runtime.prepareRefreshCommit host.layout discovery mode with
    | .error error => (.error error, sys)
    | .ok (prepared, runtime) =>
      let sys := (sys.setRuntime runtime).closeDetachedBindings prepared.detached
      let (rebinds, sys) := System.rebindTrackedDevices host prepared.rebindTargets sys
      (.ok (prepared.finish rebinds), sys)

def shutdownAsync : System :=
  let (detached, runtime) := sys.runtime.shutdownDetached
  (sys.setRuntime runtime).closeDetachedBindings detached

section Agreement

variable {host sys}

theorem bindLocked_eq (deviceId : DeviceId) :
    bindLocked host sys deviceId =
      ((sys.bindDeviceById host deviceId).1.map (fun _ => !sys.runtime.isBound deviceId),
        (sys.bindDeviceById host deviceId).2) := by
  unfold bindLocked Runtime.prepareBind System.bindDeviceById
  cases hr : sys.runtime.running with
  | false => rfl
  | true =>
    by_cases hbound : deviceId ∈ sys.runtime.bindings
    · have hisBound : sys.runtime.isBound deviceId = true := hbound
      simp [hbound, hisBound, Except.map]
    · have hisBound : sys.runtime.isBound deviceId = false := Bool.eq_false_iff.mpr hbound
      cases hget : sys.runtime.inventory.get deviceId with
      | none => simp [hbound, Except.map]
      | some descriptor =>
        cases sys.runtime.inventory.get_id hget
        cases hprepared : sys.runtime.prepareBinding descriptor with
        | error error => simp [hbound, hr, hprepared, System.bindDiscoveredDevice, Except.map]
        | ok prepared =>
          have hruntime := prepared.bind_runtime host sys
          generalize hopened : prepared.bind host sys = opened at hruntime
          obtain ⟨result, sys'⟩ := opened
          have hsame : sys'.runtime = sys.runtime := hruntime
          cases result with
          | error error => simp [hbound, hr, hprepared, hopened, System.bindDiscoveredDevice, Except.map]
          | ok output =>
            simp [hbound, hr, hprepared, hopened, hsame, hisBound, System.bindDiscoveredDevice, Except.map]

theorem completeOperation_map {α β : Type} (deviceId : DeviceId) (operation : RuntimeFailureOperation)
    (result : RuntimeResult α) (f : α → β) :
    sys.completeOperation host deviceId operation (result.map f) =
      sys.completeOperation host deviceId operation result := by
  cases result <;> rfl

theorem completeOperation_cacheReported {α β : Type} (deviceId : DeviceId)
    (operation : RuntimeFailureOperation) (value : α) (value' : β) (state : Option DeviceStateSnapshot) :
    (sys.setRuntime (sys.runtime.cacheReported host.layout state)).completeOperation host deviceId operation
        (.ok value) =
      (sys.completeOperation host deviceId operation (.ok value')).setRuntime
        ((sys.completeOperation host deviceId operation (.ok value')).runtime.cacheReported host.layout
          state) := by
  cases state <;> rfl

theorem bind_desired {deviceId : DeviceId} (hr : sys.runtime.running = true)
    (hbound : deviceId ∈ sys.runtime.bindings) :
    (bind host sys deviceId).2.runtime.desiredBindings = sys.runtime.desiredBindings ∧
      (sys.bind host deviceId).2.runtime.desiredBindings =
        sys.runtime.desiredBindings.insert deviceId := by
  have hbind : sys.bindDeviceById host deviceId = (.ok (), sys) := by
    simp [System.bindDeviceById, hr, hbound]
  have hlocked := @bindLocked_eq host sys deviceId
  have hisBound : sys.runtime.isBound deviceId = true := hbound
  rw [hbind] at hlocked
  refine ⟨?_, ?_⟩
  · simp [bind, hlocked, Task.bindCompleted, storedBinding, Except.map, hisBound, System.completeOperation]
  · simp [System.bind, hbind, System.markDesired, Except.isOk, Except.toBool, System.setRuntime,
      System.completeOperation, Runtime.markDesiredBinding]

/-- Both mark the device desired when they bound it; only `Runtime::bind` also marks it when it found it
bound. -/
theorem bind_eq {deviceId : DeviceId} (h : sys.runtime.running = true → deviceId ∈ sys.runtime.bindings →
    deviceId ∈ sys.runtime.desiredBindings) : bind host sys deviceId = sys.bind host deviceId := by
  simp only [bind, bindLocked_eq, Task.bindCompleted, completeOperation_map, System.bind]
  cases hr : sys.runtime.running with
  | false =>
    have hbind : sys.bindDeviceById host deviceId = (.error .notRunning, sys) := by
      simp [System.bindDeviceById, hr]
    rw [hbind]
    rfl
  | true =>
    by_cases hbound : deviceId ∈ sys.runtime.bindings
    · have hbind : sys.bindDeviceById host deviceId = (.ok (), sys) := by
        simp [System.bindDeviceById, hr, hbound]
      have hisBound : sys.runtime.isBound deviceId = true := hbound
      have hinsert : sys.runtime.desiredBindings.insert deviceId = sys.runtime.desiredBindings :=
        BTreeSet.insert_of_mem (h hr hbound)
      simp [hbind, hisBound, storedBinding, Except.map, System.markDesired, Except.isOk, Except.toBool,
        System.setRuntime, System.completeOperation, Runtime.markDesiredBinding, hinsert]
    · have hisBound : sys.runtime.isBound deviceId = false := Bool.eq_false_iff.mpr hbound
      cases hresult : (sys.bindDeviceById host deviceId).1 with
      | error error => rfl
      | ok value => simp [hisBound, storedBinding, Except.map, System.markDesired, Except.isOk, Except.toBool]

theorem refreshState_eq (deviceId : DeviceId) :
    refreshState host sys deviceId = sys.refreshState host deviceId := by
  unfold refreshState System.refreshState
  cases sys.runtime.running with
  | false => rfl
  | true =>
    cases hget : sys.runtime.bindings[deviceId]? with
    | none => rfl
    | some bound =>
      simp only
      generalize sys.reportState host deviceId bound = reported
      obtain ⟨result, sys'⟩ := reported
      cases result <;> rfl

theorem runRefresh_ok {context : DiscoveryContext} {probes : List DiscoveryProbe} (mode : RefreshMode)
    {discovery : DiscoveryRunReport} (hrun : runProbes host.availableParallelism context probes = .ok discovery) :
    runRefresh host sys context probes mode = sys.finishRefresh host discovery mode := by
  simp only [runRefresh, hrun]
  rfl

theorem runRefresh_eq {context : DiscoveryContext} {probes : List DiscoveryProbe} (mode : RefreshMode)
    (h : sys.runtime.running = false →
      (runProbes host.availableParallelism context probes).isOk = true) :
    runRefresh host sys context probes mode = sys.refreshWithMode host context probes mode := by
  cases hrun : runProbes host.availableParallelism context probes with
  | ok discovery =>
    rw [runRefresh_ok mode hrun]
    cases hr : sys.runtime.running with
    | true => simp [System.refreshWithMode, hr, hrun]
    | false => simp [System.refreshWithMode, System.finishRefresh, Runtime.prepareRefreshCommit, hr]
  | error error =>
    rw [hrun] at h
    cases hr : sys.runtime.running with
    | true => simp [runRefresh, System.refreshWithMode, hr, hrun]
    | false => cases h hr

theorem runRefresh_stopped {context : DiscoveryContext} {probes : List DiscoveryProbe} (mode : RefreshMode)
    (hr : sys.runtime.running = false) {error : DiscoveryError}
    (hrun : runProbes host.availableParallelism context probes = .error error) :
    (runRefresh host sys context probes mode).1 = .error (.discovery error) ∧
      (sys.refreshWithMode host context probes mode).1 = .error .notRunning := by
  simp [runRefresh, System.refreshWithMode, hr, hrun]

theorem shutdownAsync_eq : shutdownAsync sys = sys.shutdown := by
  have hcalls : (shutdownAsync sys).calls = sys.shutdown.calls := by
    simp only [shutdownAsync, System.shutdown, System.closeDetachedBindings_calls, System.setRuntime]
    rfl
  have hruntime : (shutdownAsync sys).runtime = sys.shutdown.runtime := by
    simp only [shutdownAsync, System.shutdown, System.closeDetachedBindings_runtime, System.setRuntime]
    rfl
  cases hasync : shutdownAsync sys with
  | mk runtime calls =>
    rw [hasync] at hcalls hruntime
    cases hcalls
    cases hruntime
    rfl

theorem requestBinding_eq (request : DeviceRequest) :
    (∃ error sys', sys.prepareRequestBinding host request = (.error error, sys') ∧
      requestBinding host sys request = (.error error, sys')) ∨
    ∃ bound sys', sys.prepareRequestBinding host request = (.ok (), sys') ∧
      sys'.runtime.bindings[request.deviceId]? = some bound ∧
      requestBinding host sys request = (.ok (bound, sys'.runtime.config.cacheStateOnRequest,
        !sys.runtime.isBound request.deviceId), sys') := by
  unfold requestBinding System.prepareRequestBinding
  cases hvalid : sys.runtime.validatedRequestDevice request with
  | error error => exact .inl ⟨error, sys, rfl, rfl⟩
  | ok device =>
    obtain ⟨hr, hget⟩ := Runtime.validatedRequestDevice_ok hvalid
    have hid := sys.runtime.inventory.get_id hget
    cases hbound : sys.runtime.bindings[request.deviceId]? with
    | some bound =>
      right
      have hmem : request.deviceId ∈ sys.runtime.bindings := (BTreeMap.mem_iff_exists _ _).mpr ⟨bound, hbound⟩
      have hisBound : sys.runtime.isBound request.deviceId = true := hmem
      exact ⟨bound, sys, by simp [hmem], hbound, by simp [hisBound]⟩
    | none =>
      have hmem : request.deviceId ∉ sys.runtime.bindings := (BTreeMap.not_mem_iff _ _).mpr hbound
      have hisBound : sys.runtime.isBound request.deviceId = false := Bool.eq_false_iff.mpr hmem
      cases hauto : sys.runtime.config.autoBindOnRequest with
      | false => exact .inl ⟨.deviceNotBound request.deviceId, sys, by simp [hmem], by simp⟩
      | true =>
        simp only [hmem, if_false, Bool.not_true, Bool.false_eq_true, Runtime.prepareAutoBind, hvalid,
          System.bindDiscoveredDevice, hr, hid]
        cases hprepared : sys.runtime.prepareBinding device with
        | error error => exact .inl ⟨error, sys, rfl, rfl⟩
        | ok prepared =>
          have hruntime := prepared.bind_runtime host sys
          simp only
          generalize prepared.bind host sys = opened at hruntime
          obtain ⟨result, sys'⟩ := opened
          have hsame : sys'.runtime = sys.runtime := hruntime
          cases result with
          | error error => exact .inl ⟨error, sys', rfl, rfl⟩
          | ok output =>
            right
            refine ⟨output.bound, _, rfl, ?_, ?_⟩
            · rw [System.setRuntime, Runtime.storeBoundDevice_bindings, BTreeMap.getElem?_insert_same]
            · simp [hsame, hr, hbound, hisBound, System.setRuntime, Runtime.storeBoundDevice]

theorem request_eq (request : DeviceRequest) :
    AsyncRuntime.request host sys request = sys.request host request := by
  unfold AsyncRuntime.request requestDispatch System.request System.requestInner
  rcases @requestBinding_eq host sys request with
    ⟨error, sys', hprepare, hbinding⟩ | ⟨bound, sys', hprepare, hget, hbinding⟩
  · rw [hprepare, hbinding]
    cases sys.runtime.isBound request.deviceId <;> rfl
  · rw [hprepare, hbinding]
    simp only [hget]
    generalize sys'.executeBound host request bound sys'.runtime.config.cacheStateOnRequest = executed
    obtain ⟨result, sys''⟩ := executed
    cases result with
    | error error => cases sys.runtime.isBound request.deviceId <;> rfl
    | ok dispatched =>
      obtain ⟨response, state⟩ := dispatched
      simp only [Task.requestCompleted,
        completeOperation_cacheReported _ _ _ (response, state, !sys.runtime.isBound request.deviceId)]
      cases sys.runtime.isBound request.deviceId <;> rfl

end Agreement

/-! The sections of an operation, when they run one after the other, are the awaited method. -/

section Sections

def Advances (host : Host) (before after : Task × System) : Prop :=
  before.1.isDone = false ∧ before.1.step host before.2 = after

def Leads (host : Host) : Task × System → Task × System → Prop := Relation.ReflTransGen (Advances host)

variable {host sys}

theorem Leads.head {task : Task} (next : Task × System) {last : Task × System} (hdone : task.isDone = false)
    (hstep : task.step host sys = next) (h : Leads host next last) : Leads host (task, sys) last :=
  Relation.ReflTransGen.head ⟨hdone, hstep⟩ h

theorem closeDetached_leads (detached : List DetachedBoundDevice) :
    Leads host (.closeDetached detached, sys) (.done, sys.closeDetachedBindings detached) := by
  induction detached generalizing sys with
  | nil => exact .head _ rfl rfl .refl
  | cons first rest ih => exact .head _ rfl rfl ih

theorem refreshClose_leads (detached : List DetachedBoundDevice) (rebindTargets : List DeviceId) :
    Leads host (.refreshClose detached rebindTargets, sys)
      (.refreshRebind rebindTargets, sys.closeDetachedBindings detached) := by
  induction detached generalizing sys with
  | nil => exact .head _ rfl rfl .refl
  | cons first rest ih => exact .head _ rfl rfl ih

theorem bindLocked_leads (deviceId : DeviceId) :
    Leads host (.bindPrepare deviceId, sys)
      (.bindComplete deviceId (bindLocked host sys deviceId).1, (bindLocked host sys deviceId).2) := by
  unfold bindLocked
  cases hprepare : sys.runtime.prepareBind deviceId with
  | error error => exact .head _ rfl (by simp only [Task.step, hprepare]) .refl
  | ok prepared =>
    cases prepared with
    | none => exact .head _ rfl (by simp only [Task.step, hprepare]) .refl
    | some prepared =>
      apply Leads.head (.bindOpen deviceId prepared, sys) rfl (by simp only [Task.step, hprepare])
      cases hopened : prepared.bind host sys with
      | mk result sys' =>
        cases result with
        | error error => exact .head _ rfl (by simp only [Task.step, hopened]) .refl
        | ok output =>
          apply Leads.head (.bindStore deviceId output, sys') rfl (by simp only [Task.step, hopened])
          apply Leads.head (Task.bindStored host sys' deviceId output) rfl rfl
          simp only [Task.bindStored, hopened]
          by_cases hstopped : (!sys'.runtime.running) = true
          · simp only [if_pos hstopped]
            exact .refl
          · by_cases hbound : deviceId ∈ sys'.runtime.bindings
            · simp only [if_neg hstopped, if_pos hbound]
              exact .refl
            · simp only [if_neg hstopped, if_neg hbound]
              exact .refl

def requestBound (request : DeviceRequest) (locked : Bool) :
    RuntimeResult (BoundDevice × Bool × Bool) → Task
  | .error error => .requestComplete request (.error error)
  | .ok (bound, cacheStateOnRequest, autoBound) =>
    .requestExecute request bound cacheStateOnRequest autoBound locked

theorem requestBinding_leads (request : DeviceRequest) (locked : Bool) :
    Leads host (.requestPrepare request locked, sys)
      (requestBound request locked (requestBinding host sys request).1,
        (requestBinding host sys request).2) := by
  apply Leads.head (Task.requestPrepared sys request locked, sys) rfl rfl
  unfold requestBinding Task.requestPrepared
  cases hvalid : sys.runtime.validatedRequestDevice request with
  | error error => exact .refl
  | ok device =>
    cases hbound : sys.runtime.bindings[request.deviceId]? with
    | some bound => exact .refl
    | none =>
      cases hauto : sys.runtime.config.autoBindOnRequest with
      | false => exact .refl
      | true =>
        apply Leads.head (Task.requestAutoBound sys request locked, sys) rfl rfl
        simp only [Task.requestAutoBound, hbound, Bool.not_true, Bool.false_eq_true, if_false]
        cases hprepared : sys.runtime.prepareAutoBind request with
        | error error => exact .refl
        | ok prepared =>
          simp only
          cases hopened : prepared.bind host sys with
          | mk result sys' =>
            cases result with
            | error error =>
              exact .head (.requestComplete request (.error error), sys') rfl
                (by simp only [Task.step, hopened]) .refl
            | ok output =>
              apply Leads.head
                (.requestStore request output sys.runtime.config.cacheStateOnRequest locked, sys') rfl
                (by simp only [Task.step, hopened])
              apply Leads.head (Task.requestStored host sys' request output
                sys.runtime.config.cacheStateOnRequest locked) rfl rfl
              simp only [Task.requestStored]
              by_cases hstopped : (!sys'.runtime.running) = true
              · simp only [if_pos hstopped]
                exact .refl
              · simp only [if_neg hstopped]
                cases hnow : sys'.runtime.bindings[request.deviceId]? with
                | none => exact .refl
                | some bound => exact .head _ rfl rfl .refl

theorem requestDispatch_leads (request : DeviceRequest) :
    Leads host (.requestStart request, sys)
      (.requestComplete request (requestDispatch host sys request).1,
        (requestDispatch host sys request).2) := by
  apply Leads.head (.requestPrepare request !sys.runtime.isBound request.deviceId, sys) rfl rfl
  apply Relation.ReflTransGen.trans (requestBinding_leads request _)
  unfold requestDispatch
  cases requestBinding host sys request with
  | mk result sys' =>
    cases result with
    | error error => exact .refl
    | ok binding =>
      obtain ⟨bound, cacheStateOnRequest, autoBound⟩ := binding
      apply Leads.head (Task.requestExecuted host sys' request bound cacheStateOnRequest autoBound) rfl rfl
      simp only [Task.requestExecuted]
      cases sys'.executeBound host request bound cacheStateOnRequest with
      | mk result sys'' => cases result <;> exact .refl

theorem refreshState_leads (deviceId : DeviceId) :
    Leads host (.refreshStateLookup deviceId, sys) (.done, (refreshState host sys deviceId).2) := by
  unfold refreshState
  cases hr : sys.runtime.running with
  | false => exact .head _ rfl (by simp [Task.step, hr]) .refl
  | true =>
    cases hget : sys.runtime.bindings[deviceId]? with
    | none => exact .head _ rfl (by simp [Task.step, hr, hget]) .refl
    | some bound =>
      apply Leads.head (.refreshStateRead deviceId bound, sys) rfl (by simp [Task.step, hr, hget])
      apply Leads.head _ rfl rfl
      exact .head _ rfl rfl .refl

theorem refreshCommit_leads (discovery : DiscoveryRunReport) (mode : RefreshMode) :
    Leads host (.refreshCommit discovery mode, sys) (.done, (sys.finishRefresh host discovery mode).2) := by
  rcases Task.refreshCommit_cases host sys discovery mode with
    ⟨error, hrefused, hstep⟩ | ⟨snapshot, -, -, haccepted, hstep⟩
  · apply Leads.head _ rfl hstep
    rw [System.finishRefresh_of_error hrefused]
    exact .refl
  · apply Leads.head _ rfl hstep
    apply Relation.ReflTransGen.trans (refreshClose_leads _ _)
    apply Leads.head _ rfl rfl
    simp only [System.finishRefresh, haccepted]
    exact .refl

def awaited (host : Host) (sys : System) : AsyncCall → System
  | .bind deviceId => (bind host sys deviceId).2
  | .unbind deviceId => (unbind sys deviceId).2
  | .refreshState deviceId => (refreshState host sys deviceId).2
  | .request request => (AsyncRuntime.request host sys request).2
  | .refresh discovery mode => (sys.finishRefresh host discovery mode).2
  | .shutdownAsync => shutdownAsync sys

theorem call_leads (call : AsyncCall) : Leads host (call.task, sys) (.done, awaited host sys call) := by
  cases call with
  | bind deviceId =>
    apply Relation.ReflTransGen.trans (bindLocked_leads deviceId)
    exact Leads.head _ rfl rfl .refl
  | unbind deviceId => exact .head _ rfl rfl (closeDetached_leads _)
  | refreshState deviceId => exact refreshState_leads deviceId
  | request request =>
    apply Relation.ReflTransGen.trans (requestDispatch_leads request)
    exact Leads.head _ rfl rfl .refl
  | refresh discovery mode => exact refreshCommit_leads discovery mode
  | shutdownAsync => exact .head _ rfl rfl (closeDetached_leads _)

theorem eq_done_of_isDone {task : Task} (h : task.isDone = true) : task = .done := by
  cases task <;> first | rfl | cases h

theorem holdsLock_of_takesLock {task : Task} {deviceId : DeviceId} (h : task.takesLock = some deviceId) :
    task.holdsLock = none := by
  cases task <;> first | rfl | cases h

theorem blocked_alone {others : List Task} (hquiet : others.all Task.isDone = true) (sys : System)
    (task : Task) : blocked ⟨sys, others ++ [task]⟩ task = false := by
  unfold blocked
  cases htakes : task.takesLock with
  | none => rfl
  | some deviceId =>
    simp only [List.any_eq_false, decide_eq_true_eq]
    intro other hother
    rcases List.mem_append.mp hother with hother | hother
    · cases eq_done_of_isDone (List.all_eq_true.mp hquiet other hother)
      simp [Task.holdsLock]
    · cases List.mem_singleton.mp hother
      simp [holdsLock_of_takesLock htakes]

theorem advance_alone {others : List Task} (hquiet : others.all Task.isDone = true) {task : Task}
    {after : Task × System} (h : Advances host (task, sys) after) :
    step host (.advance others.length) ⟨sys, others ++ [task]⟩ = some ⟨after.2, others ++ [after.1]⟩ := by
  obtain ⟨hdone, hstep⟩ := h
  have hdone : task.isDone = false := hdone
  have hstep : task.step host sys = after := hstep
  have hget : (others ++ [task])[others.length]? = some task := by simp
  simp only [step, hget, hdone, blocked_alone hquiet, hstep, Bool.or_self, Bool.false_eq_true, if_false]
  simp

theorem leads_run {others : List Task} (hquiet : others.all Task.isDone = true) {first : Task × System}
    {sys' : System} (hleads : Leads host first (.done, sys')) :
    ∃ n, Library.Runs.run (step host) (List.replicate n (.advance others.length))
      ⟨first.2, others ++ [first.1]⟩ = some ⟨sys', others ++ [.done]⟩ := by
  induction hleads using Relation.ReflTransGen.head_induction_on with
  | refl => exact ⟨0, rfl⟩
  | head hadvances _ ih =>
    obtain ⟨n, hrun⟩ := ih
    refine ⟨n + 1, ?_⟩
    rw [List.replicate_succ, Library.Runs.run, advance_alone hquiet hadvances]
    exact hrun

theorem call_run (state : AsyncRuntime) (hquiet : state.quiescent = true) (call : AsyncCall) :
    ∃ n, Library.Runs.run (step host) (.call call :: List.replicate n (.advance state.tasks.length)) state =
      some ⟨awaited host state.system call, state.tasks ++ [.done]⟩ :=
  leads_run hquiet (call_leads call)

end Sections

end AsyncRuntime

end Lemnos
