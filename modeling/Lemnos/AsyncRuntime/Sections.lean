import Lemnos.AsyncRuntime.Tasks

namespace Lemnos

open Lemnos.Core Discovery Registry Library.OrderedMap

theorem System.rebindTrackedDevices_stopped (host : Host) (deviceIds : List DeviceId) {sys : System}
    (hstopped : sys.runtime.running = false) {deviceId : DeviceId} (h : sys.runtime.Absent deviceId) :
    (rebindTrackedDevices host deviceIds sys).2.runtime.Absent deviceId := by
  induction deviceIds generalizing sys with
  | nil => exact h
  | cons first deviceIds ih =>
    rw [rebindTrackedDevices_snd]
    have hrefused : sys.bindDeviceById host first = (.error .notRunning, sys) := by
      simp [bindDeviceById, hstopped]
    have hrebind : (sys.rebindTrackedDevice host first).2 =
        sys.completeOperation host first .rebind (.error .notRunning : RuntimeResult Unit) := by
      simp [rebindTrackedDevice, hrefused]
    rw [hrebind]
    exact ih hstopped ⟨h.bindings, h.desired, h.states⟩

namespace Task

variable {host : Host} {sys sys' : System} {task next : Task}

def records : Task → List DeviceId
  | bindComplete deviceId result => if storedBinding result then [deviceId] else []
  | refreshStateComplete _ (.ok snapshot) => snapshot.toList.map DeviceStateSnapshot.deviceId
  | requestComplete request (.ok (_, state, autoBound)) =>
    state.toList.map DeviceStateSnapshot.deviceId ++ if autoBound then [request.deviceId] else []
  | _ => []

def stores : Task → List DeviceId
  | bindStore deviceId output => deviceId :: output.initialState.toList.map DeviceStateSnapshot.deviceId
  | requestStore request output _ _ =>
    request.deviceId :: output.initialState.toList.map DeviceStateSnapshot.deviceId
  | refreshRebind rebindTargets => rebindTargets
  | _ => []

theorem bindCompleted_absent {deviceId bound : DeviceId} {result : RuntimeResult Bool}
    (h : sys.runtime.Absent deviceId) (hrecords : deviceId ∉ (bindComplete bound result).records) :
    (bindCompleted host sys bound result).runtime.Absent deviceId := by
  have hcomplete : (sys.completeOperation host bound .bind result).runtime.Absent deviceId :=
    ⟨h.bindings, h.desired, h.states⟩
  simp only [bindCompleted]
  split
  · rename_i hstored
    rw [records, if_pos hstored, List.mem_singleton] at hrecords
    exact hcomplete.markDesiredBinding hrecords
  · exact hcomplete

theorem refreshStateCompleted_absent {deviceId read : DeviceId}
    {result : RuntimeResult (Option DeviceStateSnapshot)} (h : sys.runtime.Absent deviceId)
    (hrecords : deviceId ∉ (refreshStateComplete read result).records) :
    (refreshStateCompleted host sys read result).runtime.Absent deviceId := by
  have hcomplete : (sys.completeOperation host read .refreshState result).runtime.Absent deviceId :=
    ⟨h.bindings, h.desired, h.states⟩
  cases result with
  | error error => exact hcomplete
  | ok snapshot => exact hcomplete.cacheReported host.layout hrecords

theorem requestCompleted_absent {deviceId : DeviceId} {request : DeviceRequest}
    {result : RuntimeResult (InteractionResponse × Option DeviceStateSnapshot × Bool)}
    (h : sys.runtime.Absent deviceId) (hrecords : deviceId ∉ (requestComplete request result).records) :
    (requestCompleted host sys request result).runtime.Absent deviceId := by
  have hcomplete : (sys.completeOperation host request.deviceId .request result).runtime.Absent deviceId :=
    ⟨h.bindings, h.desired, h.states⟩
  cases result with
  | error error => exact hcomplete
  | ok value =>
    obtain ⟨interaction, state, autoBound⟩ := value
    obtain ⟨hstate, hauto⟩ := not_or.mp (mt List.mem_append.mpr hrecords)
    have hcached := hcomplete.cacheReported host.layout hstate
    cases autoBound with
    | false => exact hcached
    | true => exact hcached.markDesiredBinding (mt List.mem_singleton.mpr hauto)

theorem prepared_bind_absent (host : Host) {deviceId : DeviceId} (h : sys.runtime.Absent deviceId)
    (prepared : PreparedBinding) :
    (prepared.bind host sys).2.runtime.Absent deviceId := by
  rw [prepared.bind_runtime]
  exact h

theorem Section.absent (h : Section host sys task next sys') {deviceId : DeviceId}
    (habsent : sys.runtime.Absent deviceId) (hrecords : deviceId ∉ task.records)
    (hstores : sys.runtime.running = true → deviceId ∉ task.stores ∧ host.ReportsOwn) :
    sys'.runtime.Absent deviceId := by
  cases h with
  | bindFailed _ prepared | bindOpened _ prepared => exact prepared_bind_absent host habsent prepared
  | requestFailed _ prepared | requestOpened _ prepared => exact prepared_bind_absent host habsent prepared
  | bindStored _ _ running | requestStored _ _ _ _ running =>
    obtain ⟨hne, hstate⟩ := not_or.mp (mt List.mem_cons.mpr (hstores running).1)
    exact habsent.storeBoundDevice host.layout hne hstate
  | bindCompleted => exact bindCompleted_absent habsent hrecords
  | unbound other => exact habsent.unbindDetached other
  | stateUnbound => exact ⟨habsent.bindings, habsent.desired, habsent.states⟩
  | stateRead =>
    rw [System.reportState_runtime]
    exact habsent
  | stateCompleted => exact refreshStateCompleted_absent habsent hrecords
  | requestThrown | requestExecuted =>
    rw [System.executeBound_runtime]
    exact habsent
  | requestCompleted => exact requestCompleted_absent habsent hrecords
  | refreshCommitted discovery mode snapshot => exact habsent.commitRefresh host.layout discovery mode snapshot
  | rebound rebindTargets =>
    cases hr : sys.runtime.running with
    | false => exact System.rebindTrackedDevices_stopped host rebindTargets hr habsent
    | true =>
      obtain ⟨hnot, hhost⟩ := hstores hr
      exact habsent.of_sameEntries (System.rebindTrackedDevices_sameEntries sys hhost rebindTargets hnot)
  | shutDown => exact Runtime.absent_shutdownDetached _ _
  | _ => exact habsent

theorem bindCompleted_sameDiscovery (deviceId : DeviceId) (result : RuntimeResult Bool) :
    sys.runtime.SameDiscovery (bindCompleted host sys deviceId result).runtime := by
  simp only [bindCompleted]
  split <;> exact ⟨rfl, rfl, rfl, rfl, rfl⟩

theorem refreshStateCompleted_sameDiscovery (deviceId : DeviceId)
    (result : RuntimeResult (Option DeviceStateSnapshot)) :
    sys.runtime.SameDiscovery (refreshStateCompleted host sys deviceId result).runtime := by
  have hcomplete := sys.completeOperation_sameDiscovery host deviceId .refreshState result
  cases result with
  | error error => exact hcomplete
  | ok snapshot => exact hcomplete.trans (Runtime.cacheReported_sameDiscovery _ _ _)

theorem requestCompleted_sameDiscovery (request : DeviceRequest)
    (result : RuntimeResult (InteractionResponse × Option DeviceStateSnapshot × Bool)) :
    sys.runtime.SameDiscovery (requestCompleted host sys request result).runtime := by
  have hcomplete := sys.completeOperation_sameDiscovery host request.deviceId .request result
  cases result with
  | error error => exact hcomplete
  | ok value =>
    obtain ⟨interaction, state, autoBound⟩ := value
    have hcached := hcomplete.trans (Runtime.cacheReported_sameDiscovery host.layout _ state)
    cases autoBound with
    | false => exact hcached
    | true => exact hcached.trans ⟨rfl, rfl, rfl, rfl, rfl⟩

def commits : Task → Bool
  | refreshCommit .. | shutdown => true
  | _ => false

theorem Section.sameDiscovery (h : Section host sys task next sys') (hcommits : task.commits = false) :
    sys.runtime.SameDiscovery sys'.runtime := by
  cases h with
  | bindFailed _ prepared | bindOpened _ prepared | requestFailed _ prepared | requestOpened _ prepared =>
    rw [prepared.bind_runtime]
    exact .refl _
  | bindStored | requestStored => exact Runtime.storeBoundDevice_sameDiscovery _ _ _ _
  | bindCompleted deviceId result => exact bindCompleted_sameDiscovery deviceId result
  | unbound | stateUnbound => exact ⟨rfl, rfl, rfl, rfl, rfl⟩
  | stateRead =>
    rw [System.reportState_runtime]
    exact .refl _
  | stateCompleted deviceId result => exact refreshStateCompleted_sameDiscovery deviceId result
  | requestThrown | requestExecuted =>
    rw [System.executeBound_runtime]
    exact .refl _
  | requestCompleted request result => exact requestCompleted_sameDiscovery request result
  | rebound rebindTargets => exact sys.rebindTrackedDevices_sameDiscovery host rebindTargets
  | refreshCommitted | shutDown => cases hcommits
  | _ => exact .refl _

def rearranges : Task → Bool
  | bindStore .. | unbind _ | requestStore .. | refreshCommit .. | refreshRebind _ | shutdown => true
  | _ => false

theorem Section.bindings (h : Section host sys task next sys') (hrearranges : task.rearranges = false) :
    sys'.runtime.bindings = sys.runtime.bindings := by
  cases h with
  | bindFailed _ prepared | bindOpened _ prepared | requestFailed _ prepared | requestOpened _ prepared =>
    rw [prepared.bind_runtime]
  | bindCompleted deviceId result =>
    simp only [Task.bindCompleted]
    split <;> rfl
  | stateRead => rw [System.reportState_runtime]
  | stateCompleted deviceId result =>
    cases result with
    | error error => rfl
    | ok snapshot => exact Runtime.cacheReported_bindings _ _ _
  | requestThrown | requestExecuted => rw [System.executeBound_runtime]
  | requestCompleted request result =>
    cases result with
    | error error => rfl
    | ok value =>
      obtain ⟨interaction, state, autoBound⟩ := value
      cases autoBound <;> exact Runtime.cacheReported_bindings _ _ _
  | bindClosed | bindStored | unbound | requestClosed | requestStored | requestOutrun => cases hrearranges
  | refreshRefused | refreshCommitted | rebound | shutDown => cases hrearranges
  | _ => rfl

/-- The device under whose id the next section stores this instance if the runtime is running and has none.
-/
def storing : Task → Option (DeviceId × BoundDevice)
  | bindStore deviceId output => some (deviceId, output.bound)
  | requestStore request output _ _ => some (request.deviceId, output.bound)
  | _ => none

theorem Section.storing (h : Section host sys task next sys') {deviceId : DeviceId} {bound : BoundDevice}
    (hstoring : task.storing = some (deviceId, bound)) : sys'.runtime.bindings =
      if sys.runtime.running = true ∧ deviceId ∉ sys.runtime.bindings then
        sys.runtime.bindings.insert deviceId bound
      else sys.runtime.bindings := by
  cases h with
  | bindClosed stored output result unstored closed =>
    cases hstoring
    rw [if_neg]
    · rfl
    · rcases closed with stopped | bound
      · simp [stopped]
      · simp [bound]
  | bindStored stored output running free =>
    cases hstoring
    rw [if_pos ⟨running, free⟩]
    exact Runtime.storeBoundDevice_bindings _ _ _ _
  | requestClosed request output cacheStateOnRequest locked stopped =>
    cases hstoring
    rw [stopped]
    rfl
  | requestStored request output cacheStateOnRequest locked running free =>
    cases hstoring
    rw [if_pos ⟨running, free⟩]
    exact Runtime.storeBoundDevice_bindings _ _ _ _
  | requestOutrun request output cacheStateOnRequest locked bound found =>
    cases hstoring
    have hbound := (BTreeMap.mem_iff_exists _ _).mpr ⟨bound, found⟩
    rw [if_neg (fun h => h.2 hbound)]
  | _ => cases hstoring

theorem Section.binding (h : Section host sys task next sys') (hcommits : task.commits = false)
    {deviceId : DeviceId} {bound : BoundDevice} (hget : sys'.runtime.bindings[deviceId]? = some bound) :
    sys.runtime.bindings[deviceId]? = some bound ∨ task.storing = some (deviceId, bound) ∨
      sys.runtime.inventory.get deviceId = some bound.device := by
  cases hstoring : task.storing with
  | some entry =>
    obtain ⟨stored, output⟩ := entry
    rw [h.storing hstoring] at hget
    split at hget
    · rw [BTreeMap.getElem?_insert_eq] at hget
      split at hget
      · rename_i heq
        cases hget
        rw [heq]
        exact .inr (.inl rfl)
      · exact .inl hget
    · exact .inl hget
  | none =>
    cases hrearranges : task.rearranges with
    | false =>
      rw [h.bindings hrearranges] at hget
      exact .inl hget
    | true =>
      cases h with
      | bindClosed | bindStored | requestClosed | requestStored | requestOutrun => cases hstoring
      | refreshRefused | refreshCommitted | shutDown => cases hcommits
      | unbound other =>
        simp only [Runtime.unbindDetached, Runtime.takeBoundDevice, System.setRuntime,
          BTreeMap.getElem?_erase_eq_some] at hget
        exact .inl hget.2
      | rebound rebindTargets => exact (System.rebindTrackedDevices_binding host rebindTargets hget).imp_right .inr
      | _ => cases hrearranges

end Task

end Lemnos
