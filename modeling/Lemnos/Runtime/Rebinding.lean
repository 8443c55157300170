import Lemnos.Library.Runs
import Lemnos.Runtime.Representation

namespace Lemnos

open Lemnos.Core Discovery Registry Library.OrderedMap Library.Runs

def Runtime.Desires (runtime : Runtime) : Prop :=
  ∀ deviceId ∈ runtime.bindings, deviceId ∈ runtime.desiredBindings

theorem Runtime.Desires.of_subset {runtime runtime' : Runtime} (h : runtime.Desires)
    (hbindings : ∀ deviceId ∈ runtime'.bindings,
      deviceId ∈ runtime.bindings ∨ deviceId ∈ runtime.desiredBindings)
    (hdesired : ∀ deviceId ∈ runtime.desiredBindings, deviceId ∈ runtime'.desiredBindings) :
    runtime'.Desires := by
  intro deviceId hbound
  apply hdesired
  rcases hbindings deviceId hbound with hbefore | hwanted
  · exact h deviceId hbefore
  · exact hwanted

namespace System

variable {host : Host} {sys : System}

section Binding

theorem bindDiscoveredDevice_desired (descriptor : DeviceDescriptor) :
    (sys.bindDiscoveredDevice host descriptor).2.runtime.desiredBindings = sys.runtime.desiredBindings := by
  rcases sys.bindDiscoveredDevice_cases host descriptor with
    ⟨result, heq, -⟩ | ⟨prepared, -, -, -, ⟨error, sys', hb, heq⟩ | ⟨output, sys', hb, heq⟩⟩
  · rw [heq]
  · have hruntime := prepared.bind_runtime host sys
    rw [hb] at hruntime
    rw [heq, hruntime]
  · rw [heq, setRuntime, (PreparedBinding.bind_ok hb).2.2, Runtime.storeBoundDevice]
    simp

theorem bindDeviceById_desired (deviceId : DeviceId) :
    (sys.bindDeviceById host deviceId).2.runtime.desiredBindings = sys.runtime.desiredBindings := by
  cases hlisted : sys.runtime.inventory.get deviceId with
  | none =>
    unfold bindDeviceById
    rw [hlisted]
    split
    · rfl
    · split <;> rfl
  | some descriptor =>
    rw [bindDeviceById_eq hlisted]
    exact bindDiscoveredDevice_desired descriptor

theorem bindDeviceById_keeps {deviceId other : DeviceId} (h : other ∈ sys.runtime.bindings) :
    other ∈ (sys.bindDeviceById host deviceId).2.runtime.bindings := by
  rcases sys.bindDeviceById_cases host deviceId with
    ⟨result, heq, -⟩ | ⟨descriptor, prepared, -, -, -, -, ⟨error, sys', hb, heq⟩ | ⟨output, sys', hb, heq⟩⟩
  · rw [heq]
    exact h
  · have hruntime := prepared.bind_runtime host sys
    rw [hb] at hruntime
    rw [heq, hruntime]
    exact h
  · rw [heq, setRuntime, (PreparedBinding.bind_ok hb).2.2, Runtime.storeBoundDevice_bindings,
      BTreeMap.mem_insert_iff]
    exact .inr h

theorem bindDeviceById_adds {deviceId other : DeviceId}
    (h : other ∈ (sys.bindDeviceById host deviceId).2.runtime.bindings) :
    other ∈ sys.runtime.bindings ∨
      (other = deviceId ∧ (sys.bindDeviceById host deviceId).1 = .ok ()) := by
  rcases sys.bindDeviceById_cases host deviceId with
    ⟨result, heq, -⟩ | ⟨descriptor, prepared, -, -, -, -, ⟨error, sys', hb, heq⟩ | ⟨output, sys', hb, heq⟩⟩
  · rw [heq] at h
    exact .inl h
  · have hruntime := prepared.bind_runtime host sys
    rw [hb] at hruntime
    rw [heq, hruntime] at h
    exact .inl h
  · rw [heq, setRuntime, (PreparedBinding.bind_ok hb).2.2, Runtime.storeBoundDevice_bindings,
      BTreeMap.mem_insert_iff] at h
    rw [heq]
    rcases h with rfl | h
    · exact .inr ⟨rfl, rfl⟩
    · exact .inl h

theorem bind_desires (h : sys.runtime.Desires) (deviceId : DeviceId) :
    (sys.bind host deviceId).2.runtime.Desires := by
  have hdesired := @bindDeviceById_desired host sys deviceId
  have hadds := @bindDeviceById_adds host sys deviceId
  generalize hbind : sys.bindDeviceById host deviceId = outcome at hdesired hadds
  obtain ⟨result, sys'⟩ := outcome
  have hbound : (sys.bind host deviceId).2 =
      (sys'.completeOperation host deviceId .bind result).markDesired deviceId result := by
    simp only [System.bind, hbind]
  rw [hbound]
  intro other hother
  cases result with
  | error error =>
    rcases hadds hother with hbefore | ⟨-, hok⟩
    · have hwanted := h other hbefore
      rw [← hdesired] at hwanted
      exact hwanted
    · cases hok
  | ok value =>
    apply (BTreeSet.mem_insert_iff _ _ _).mpr
    rcases hadds hother with hbefore | ⟨heq, -⟩
    · have hwanted := h other hbefore
      rw [← hdesired] at hwanted
      exact .inr hwanted
    · exact .inl heq

end Binding

section Refreshing

theorem rebindTrackedDevices_desired (deviceIds : List DeviceId) :
    (rebindTrackedDevices host deviceIds sys).2.runtime.desiredBindings = sys.runtime.desiredBindings := by
  induction deviceIds generalizing sys with
  | nil => rfl
  | cons deviceId deviceIds ih =>
    rw [rebindTrackedDevices_snd, ih]
    exact bindDeviceById_desired deviceId

theorem rebindTrackedDevices_keeps (deviceIds : List DeviceId) {other : DeviceId}
    (h : other ∈ sys.runtime.bindings) :
    other ∈ (rebindTrackedDevices host deviceIds sys).2.runtime.bindings := by
  induction deviceIds generalizing sys with
  | nil => exact h
  | cons deviceId deviceIds ih =>
    rw [rebindTrackedDevices_snd]
    apply ih
    exact bindDeviceById_keeps h

theorem rebindTrackedDevices_adds (deviceIds : List DeviceId) {other : DeviceId}
    (h : other ∈ (rebindTrackedDevices host deviceIds sys).2.runtime.bindings) :
    other ∈ sys.runtime.bindings ∨ other ∈ deviceIds := by
  induction deviceIds generalizing sys with
  | nil => exact .inl h
  | cons deviceId deviceIds ih =>
    rw [rebindTrackedDevices_snd] at h
    rcases ih h with hfirst | hlater
    · rcases bindDeviceById_adds hfirst with hbefore | ⟨heq, -⟩
      · exact .inl hbefore
      · exact .inr (heq ▸ List.mem_cons_self)
    · exact .inr (List.mem_cons_of_mem deviceId hlater)

theorem rebindTrackedDevices_attempts {deviceIds : List DeviceId} {deviceId : DeviceId}
    (h : deviceId ∈ deviceIds) :
    let rebinding := rebindTrackedDevices host deviceIds sys
    deviceId ∈ rebinding.1.attempted ∧
      ((deviceId ∈ rebinding.1.rebound ∧ deviceId ∈ rebinding.2.runtime.bindings) ∨
        deviceId ∈ rebinding.1.failed) := by
  induction deviceIds generalizing sys with
  | nil => cases h
  | cons first deviceIds ih =>
    have hbound := @bindDeviceById_bound host sys first
    simp only [rebindTrackedDevices, rebindTrackedDevice]
    generalize sys.bindDeviceById host first = outcome at hbound
    obtain ⟨result, sys'⟩ := outcome
    have hlater := @ih (sys'.completeOperation host first .rebind result)
    have hkeeps := @rebindTrackedDevices_keeps host (sys'.completeOperation host first .rebind result)
      deviceIds first
    generalize rebindTrackedDevices host deviceIds
      (sys'.completeOperation host first .rebind result) = rest at hlater hkeeps
    obtain ⟨report, sys''⟩ := rest
    rcases List.mem_cons.mp h with rfl | hmem
    · cases result with
      | ok value => exact ⟨List.mem_cons_self, .inl ⟨List.mem_cons_self, hkeeps (hbound rfl)⟩⟩
      | error error => exact ⟨List.mem_cons_self, .inr List.mem_cons_self⟩
    · obtain ⟨hattempted, houtcome⟩ := hlater hmem
      cases result with
      | ok value =>
        refine ⟨List.mem_cons_of_mem first hattempted, ?_⟩
        exact houtcome.imp_left (fun hrebound => ⟨List.mem_cons_of_mem first hrebound.1, hrebound.2⟩)
      | error error =>
        refine ⟨List.mem_cons_of_mem first hattempted, ?_⟩
        exact houtcome.imp_right (List.mem_cons_of_mem first)

theorem mem_rebindTargets (snapshot : InventorySnapshot) {deviceId : DeviceId}
    (h : deviceId ∈ sys.rebindTargets snapshot) : deviceId ∈ sys.runtime.desiredBindings :=
  ((sys.runtime.mem_collectRebindTargets _ _ deviceId).mp h).2.1

theorem finishRefresh_desired (discovery : DiscoveryRunReport) (mode : RefreshMode) :
    (sys.finishRefresh host discovery mode).2.runtime.desiredBindings = sys.runtime.desiredBindings := by
  by_cases hcommit : sys.runtime.running = true ∧
      ∃ snapshot, sys.runtime.nextInventory discovery mode = .ok snapshot
  · obtain ⟨hr, snapshot, hn⟩ := hcommit
    rw [finishRefresh_of_nextInventory hr hn]
    simp only [rebindTrackedDevices_desired, afterCommit_runtime, Runtime.commitRefresh_snd,
      Runtime.recordInventoryEvents_desiredBindings]
  · rw [finishRefresh_uncommitted hcommit]

theorem finishRefresh_desires (h : sys.runtime.Desires) (discovery : DiscoveryRunReport)
    (mode : RefreshMode) : (sys.finishRefresh host discovery mode).2.runtime.Desires := by
  by_cases hcommit : sys.runtime.running = true ∧
      ∃ snapshot, sys.runtime.nextInventory discovery mode = .ok snapshot
  · have hdesired := @finishRefresh_desired host sys discovery mode
    obtain ⟨hr, snapshot, hn⟩ := hcommit
    apply h.of_subset
    · intro deviceId hbound
      rw [finishRefresh_of_nextInventory hr hn] at hbound
      rcases rebindTrackedDevices_adds _ hbound with hkept | htarget
      · left
        rw [afterCommit_runtime, Runtime.commitRefresh_snd, BTreeMap.mem_iff_exists] at hkept
        obtain ⟨bound, hget⟩ := hkept
        simp only [BTreeMap.eraseAll_getElem?] at hget
        split at hget
        · cases hget
        · exact (BTreeMap.mem_iff_exists _ _).mpr ⟨bound, hget⟩
      · exact .inr (mem_rebindTargets snapshot htarget)
    · rw [hdesired]
      exact fun _ hwanted => hwanted
  · rw [finishRefresh_uncommitted hcommit]
    exact h

end Refreshing

section Requesting

theorem prepareRequestBinding_cases (request : DeviceRequest) :
    (∃ error sys', sys.prepareRequestBinding host request = (.error error, sys') ∧
        sys'.runtime = sys.runtime) ∨
    (request.deviceId ∈ sys.runtime.bindings ∧ sys.prepareRequestBinding host request = (.ok (), sys)) ∨
    ∃ bound sys', request.deviceId ∉ sys.runtime.bindings ∧
      sys.prepareRequestBinding host request = (.ok (), sys') ∧
      sys'.runtime.bindings = sys.runtime.bindings.insert request.deviceId bound ∧
      sys'.runtime.desiredBindings = sys.runtime.desiredBindings := by
  unfold prepareRequestBinding
  split
  · rename_i error hvalid
    exact .inl ⟨error, sys, rfl, rfl⟩
  · rename_i device hvalid
    have hid := sys.runtime.inventory.get_id (Runtime.validatedRequestDevice_ok hvalid).2
    by_cases hbound : request.deviceId ∈ sys.runtime.bindings
    · rw [if_pos hbound]
      exact .inr (.inl ⟨hbound, rfl⟩)
    · rw [if_neg hbound]
      split
      · exact .inl ⟨_, sys, rfl, rfl⟩
      · rcases sys.bindDiscoveredDevice_cases host device with
          ⟨result, heq, hok⟩ | ⟨prepared, -, -, -, ⟨error, sys', hb, heq⟩ | ⟨output, sys', hb, heq⟩⟩
        · cases result with
          | error error => exact .inl ⟨error, sys, heq, rfl⟩
          | ok value =>
            rw [hid] at hok
            exact absurd (hok rfl) hbound
        · have hruntime := prepared.bind_runtime host sys
          rw [hb] at hruntime
          exact .inl ⟨error, sys', heq, hruntime⟩
        · right
          right
          refine ⟨output.bound,
            sys'.setRuntime (sys'.runtime.storeBoundDevice host.layout device.id output), hbound, heq, ?_, ?_⟩
          · rw [setRuntime, (PreparedBinding.bind_ok hb).2.2, Runtime.storeBoundDevice_bindings, hid]
          · simp [setRuntime, (PreparedBinding.bind_ok hb).2.2, Runtime.storeBoundDevice]

theorem requestInner_of_error {request : DeviceRequest} {error : RuntimeError} {sys' : System}
    (h : sys.prepareRequestBinding host request = (.error error, sys')) :
    sys.requestInner host request = (.error error, sys') := by
  simp [requestInner, h]

theorem requestInner_of_bound {request : DeviceRequest} {bound : BoundDevice} {sys' : System}
    (h : sys.prepareRequestBinding host request = (.ok (), sys'))
    (hget : sys'.runtime.bindings[request.deviceId]? = some bound) :
    (sys.requestInner host request).2.runtime.bindings = sys'.runtime.bindings ∧
      (sys.requestInner host request).2.runtime.desiredBindings = sys'.runtime.desiredBindings ∧
      (sys.requestInner host request).1.isOk =
        (sys'.executeBound host request bound sys'.runtime.config.cacheStateOnRequest).1.isOk := by
  have hruntime := executeBound_runtime host sys' request bound sys'.runtime.config.cacheStateOnRequest
  simp only [requestInner, h, hget]
  generalize sys'.executeBound host request bound sys'.runtime.config.cacheStateOnRequest = executed
    at hruntime
  obtain ⟨result, sys''⟩ := executed
  cases result with
  | error error =>
    rw [hruntime]
    exact ⟨rfl, rfl, rfl⟩
  | ok value =>
    have hread : sys''.runtime = sys'.runtime := hruntime
    refine ⟨?_, ?_, rfl⟩
    · simp only [setRuntime, Runtime.cacheReported_bindings, hread]
    · simp only [setRuntime, Runtime.cacheReported_desiredBindings, hread]

/-- The device that a request binds on its way, and the state in which its driver is asked to act. -/
def autoBound (host : Host) (sys : System) (request : DeviceRequest) : Option (BoundDevice × System) :=
  if request.deviceId ∈ sys.runtime.bindings then none
  else
    match sys.prepareRequestBinding host request with
    | (.ok (), sys') => sys'.runtime.bindings[request.deviceId]?.map (fun bound => (bound, sys'))
    | (.error _, _) => none

def Serves (host : Host) (request : DeviceRequest) (sys : System) : Prop :=
  ∀ entry ∈ sys.autoBound host request,
    (entry.2.executeBound host request entry.1 entry.2.runtime.config.cacheStateOnRequest).1.isOk = true

instance (host : Host) (request : DeviceRequest) (sys : System) : Decidable (sys.Serves host request) :=
  inferInstanceAs (Decidable (∀ entry ∈ sys.autoBound host request, _ = _))

theorem requestInner_desired (request : DeviceRequest) :
    (sys.requestInner host request).2.runtime.desiredBindings = sys.runtime.desiredBindings := by
  rcases @prepareRequestBinding_cases host sys request with
    ⟨error, sys', hprepare, hruntime⟩ | ⟨hbound, hprepare⟩ | ⟨bound, sys', hfree, hprepare, hinsert, hkept⟩
  · rw [requestInner_of_error hprepare, hruntime]
  · obtain ⟨bound, hget⟩ := (BTreeMap.mem_iff_exists _ _).mp hbound
    exact (requestInner_of_bound hprepare hget).2.1
  · have hget : sys'.runtime.bindings[request.deviceId]? = some bound := by
      rw [hinsert, BTreeMap.getElem?_insert_same]
    rw [(requestInner_of_bound hprepare hget).2.1, hkept]

theorem request_snd (request : DeviceRequest) :
    (sys.request host request).2.runtime.bindings = (sys.requestInner host request).2.runtime.bindings ∧
      ∀ other, other ∈ (sys.request host request).2.runtime.desiredBindings ↔
        other ∈ sys.runtime.desiredBindings ∨
          (other = request.deviceId ∧ request.deviceId ∉ sys.runtime.bindings ∧
            (sys.requestInner host request).1.isOk = true) := by
  have hwas : sys.runtime.isBound request.deviceId = true ↔ request.deviceId ∈ sys.runtime.bindings :=
    Std.ExtTreeMap.contains_iff_mem
  have hdesired := @requestInner_desired host sys request
  simp only [System.request]
  split
  · rename_i hbound
    refine ⟨rfl, ?_⟩
    intro other
    simp [completeOperation, hwas.mp hbound, hdesired]
  · rename_i hfree
    rw [hwas] at hfree
    cases hok : (sys.requestInner host request).1 with
    | error error =>
      refine ⟨rfl, ?_⟩
      intro other
      simp [completeOperation, markDesired, Except.isOk, Except.toBool, hdesired]
    | ok response =>
      refine ⟨rfl, ?_⟩
      intro other
      simp only [completeOperation, markDesired, Except.isOk, Except.toBool, if_true, setRuntime,
        Runtime.markDesiredBinding, BTreeSet.mem_insert_iff, hfree, not_false_eq_true, and_true, hdesired]
      exact or_comm

theorem request_desires_iff (h : sys.runtime.Desires) (request : DeviceRequest) :
    (sys.request host request).2.runtime.Desires ↔
      request.deviceId ∈ sys.runtime.desiredBindings ∨ sys.Serves host request := by
  obtain ⟨hbindings, hdesired⟩ := @request_snd host sys request
  rcases @prepareRequestBinding_cases host sys request with
    ⟨error, sys', hprepare, hruntime⟩ | ⟨hbound, hprepare⟩ | ⟨bound, sys', hfree, hprepare, hinsert, hkept⟩
  · -- nothing was bound
    rw [requestInner_of_error hprepare, hruntime] at hbindings
    have hserves : sys.Serves host request := by
      intro entry hentry
      unfold autoBound at hentry
      rw [hprepare] at hentry
      split at hentry <;> cases hentry
    refine ⟨fun _ => .inr hserves, fun _ => ?_⟩
    apply h.of_subset
    · rw [hbindings]
      exact fun deviceId hbound => .inl hbound
    · exact fun deviceId hwanted => (hdesired deviceId).mpr (.inl hwanted)
  · obtain ⟨bound, hget⟩ := (BTreeMap.mem_iff_exists _ _).mp hbound
    rw [(requestInner_of_bound hprepare hget).1] at hbindings
    refine ⟨fun _ => .inl (h request.deviceId hbound), fun _ => ?_⟩
    apply h.of_subset
    · rw [hbindings]
      exact fun deviceId hbound => .inl hbound
    · exact fun deviceId hwanted => (hdesired deviceId).mpr (.inl hwanted)
  · have hget : sys'.runtime.bindings[request.deviceId]? = some bound := by
      rw [hinsert, BTreeMap.getElem?_insert_same]
    obtain ⟨hinner, -, hok⟩ := requestInner_of_bound hprepare hget
    rw [hinner, hinsert] at hbindings
    have hentry : sys.autoBound host request = some (bound, sys') := by
      simp [autoBound, hfree, hprepare, hget]
    have hserves : sys.Serves host request ↔ (sys.requestInner host request).1.isOk = true := by
      rw [Serves, hentry, hok]
      simp
    have hwanted : ∀ other, other ∈ (sys.request host request).2.runtime.desiredBindings ↔
        other ∈ sys.runtime.desiredBindings ∨ (other = request.deviceId ∧ sys.Serves host request) := by
      intro other
      rw [hdesired, hserves]
      simp [hfree]
    constructor
    · intro hafter
      have hmem : request.deviceId ∈ (sys.request host request).2.runtime.bindings := by
        rw [hbindings, BTreeMap.mem_insert_iff]
        exact .inl rfl
      rcases (hwanted request.deviceId).mp (hafter request.deviceId hmem) with hbefore | ⟨-, hserved⟩
      · exact .inl hbefore
      · exact .inr hserved
    · intro hcond deviceId hmem
      rw [hwanted]
      rw [hbindings, BTreeMap.mem_insert_iff] at hmem
      rcases hmem with rfl | hbefore
      · rcases hcond with hbefore | hserved
        · exact .inl hbefore
        · exact .inr ⟨rfl, hserved⟩
      · exact .inl (h deviceId hbefore)

end Requesting

section Runs

/-- A request of a device that nobody asked to keep does not bind it for a driver that then fails. -/
def KeepsDesire (host : Host) (op : RuntimeOp) (sys : System) : Prop :=
  match op with
  | .request request => request.deviceId ∈ sys.runtime.desiredBindings ∨ sys.Serves host request
  | _ => True

instance (host : Host) (op : RuntimeOp) (sys : System) : Decidable (sys.KeepsDesire host op) :=
  match op with
  | .request request => inferInstanceAs (Decidable (request.deviceId ∈ _ ∨ sys.Serves host request))
  | .start | .shutdown | .setConfig _ | .registerDriver _ | .preferDriver .. | .clearPreferredDriver _
  | .takeEvents | .bind _ | .unbind _ | .refreshState _ | .refresh .. | .pollWatcher .. => isTrue trivial

theorem unbind_desires (h : sys.runtime.Desires) (deviceId : DeviceId) :
    (sys.unbind deviceId).2.runtime.Desires := by
  simp only [unbind, closeDetachedBindings_runtime, setRuntime]
  intro other hbound
  obtain ⟨hne, hbefore⟩ := (BTreeMap.mem_erase_iff _ _ _).mp hbound
  exact Std.ExtTreeSet.mem_erase.mpr ⟨by simpa [Std.compare_eq_iff_eq] using hne.symm, h other hbefore⟩

theorem refreshState_sameWishes (deviceId : DeviceId) :
    (sys.refreshState host deviceId).2.runtime.bindings = sys.runtime.bindings ∧
      (sys.refreshState host deviceId).2.runtime.desiredBindings = sys.runtime.desiredBindings := by
  rcases sys.refreshState_cases host deviceId with
    hsame | hcleared | ⟨bound, result, sys', -, -, hread, hafter⟩
  · rw [hsame]
    exact ⟨rfl, rfl⟩
  · rw [hcleared]
    exact ⟨rfl, rfl⟩
  · rw [hafter, Runtime.cacheReported_bindings, Runtime.cacheReported_desiredBindings]
    cases result <;> simp [completeOperation, hread]

theorem exec_desires_iff (h : sys.runtime.Desires) (op : RuntimeOp) :
    (sys.exec host op).runtime.Desires ↔ sys.KeepsDesire host op := by
  have hkept : ∀ {sys' : System}, sys'.runtime.Desires → (sys'.runtime.Desires ↔ True) :=
    fun hafter => iff_true_intro hafter
  by_cases hcontrol : op.isControl = true
  · have hafter : (sys.exec host op).runtime.Desires := by
      rcases sys.exec_control_cases host hcontrol with hshut | ⟨hsame, -⟩
      · intro deviceId hbound
        rw [hshut] at hbound
        exact absurd hbound (Runtime.absent_shutdownDetached deviceId _).bindings
      · rw [Runtime.Desires, hsame.bindings, hsame.desired]
        exact h
    cases op with
    | request => cases hcontrol
    | _ => exact hkept hafter
  · by_cases hrefresh : op.isRefresh = true
    · have hafter : (sys.exec host op).runtime.Desires := by
        rw [exec_refresh hrefresh]
        cases sys.discoveryOf host op with
        | none => exact h
        | some run => exact finishRefresh_desires h run.1 run.2
      cases op with
      | request => cases hrefresh
      | _ => exact hkept hafter
    · cases op with
      | bind deviceId => exact hkept (bind_desires h deviceId)
      | unbind deviceId => exact hkept (unbind_desires h deviceId)
      | refreshState deviceId =>
        apply hkept
        obtain ⟨hbindings, hdesired⟩ := @refreshState_sameWishes host sys deviceId
        rw [Runtime.Desires, exec, hbindings, hdesired]
        exact h
      | request request => exact request_desires_iff h request
      | refresh | pollWatcher => exact absurd rfl hrefresh
      | _ => exact absurd rfl hcontrol

theorem exec_desired {op : RuntimeOp} {deviceId : DeviceId} (hshutdown : op ≠ .shutdown)
    (hunbind : op ≠ .unbind deviceId) (h : deviceId ∈ sys.runtime.desiredBindings) :
    deviceId ∈ (sys.exec host op).runtime.desiredBindings := by
  by_cases hrefresh : op.isRefresh = true
  · rw [exec_refresh hrefresh]
    cases sys.discoveryOf host op with
    | none => exact h
    | some run =>
      rw [finishDiscovery, finishRefresh_desired]
      exact h
  · cases op with
    | shutdown => exact absurd rfl hshutdown
    | registerDriver | preferDriver =>
      rw [exec, setRuntime, (Runtime.setRegistry_sameHoldings _ _).desired]
      exact h
    | start | setConfig | clearPreferredDriver | takeEvents => exact h
    | bind bound =>
      have hdesired := @bindDeviceById_desired host sys bound
      simp only [exec, System.bind, markDesired]
      split
      · apply (BTreeSet.mem_insert_iff _ _ _).mpr
        right
        simpa only [completeOperation, hdesired] using h
      · simpa only [completeOperation, hdesired] using h
    | unbind other =>
      have hne : deviceId ≠ other := by
        rintro rfl
        exact hunbind rfl
      simp only [exec, unbind, closeDetachedBindings_runtime, setRuntime]
      exact Std.ExtTreeSet.mem_erase.mpr ⟨by simpa [Std.compare_eq_iff_eq] using hne.symm, h⟩
    | refreshState read =>
      rw [exec, (@refreshState_sameWishes host sys read).2]
      exact h
    | request request => exact ((@request_snd host sys request).2 deviceId).mpr (.inl h)
    | refresh | pollWatcher => exact absurd rfl hrefresh

theorem runOps_desired {deviceId : DeviceId} (ops : List RuntimeOp) (hshutdown : .shutdown ∉ ops)
    (hunbind : .unbind deviceId ∉ ops) (h : deviceId ∈ sys.runtime.desiredBindings) :
    deviceId ∈ (sys.runOps host ops).runtime.desiredBindings := by
  induction ops generalizing sys with
  | nil => exact h
  | cons op ops ih =>
    rw [List.mem_cons, not_or] at hshutdown hunbind
    apply ih hshutdown.2 hunbind.2
    exact exec_desired (Ne.symm hshutdown.1) (Ne.symm hunbind.1) h

/-- Whatever happens to a bound device short of an unbind or a shutdown, a refresh that finds it after it
was gone attempts to bind it, and it is bound then unless its driver refuses it. -/
def Recovers (host : Host) (sys : System) : Prop :=
  ∀ deviceId ∈ sys.runtime.bindings, ∀ ops, .shutdown ∉ ops → .unbind deviceId ∉ ops →
    ∀ op discovery mode snapshot,
      (sys.runOps host ops).committedRun host op = some (discovery, mode) →
      (sys.runOps host ops).runtime.nextInventory discovery mode = .ok snapshot →
      (sys.runOps host ops).runtime.config.autoRebindOnRefresh = true →
      (sys.runOps host ops).runtime.inventory.get deviceId = none → snapshot.get deviceId ≠ none →
      ∃ report, ((sys.runOps host ops).finishRefresh host discovery mode).1 = .ok report ∧
        deviceId ∈ report.rebinds.attempted ∧
          ((deviceId ∈ report.rebinds.rebound ∧
              deviceId ∈ ((sys.runOps host ops).exec host op).runtime.bindings) ∨
            deviceId ∈ report.rebinds.failed)

theorem desires_recovers (h : sys.runtime.Desires) : sys.Recovers host := by
  intro deviceId hbound ops hshutdown hunbind op discovery mode snapshot hrun hn hauto hgone hback
  have hdesired := @runOps_desired host sys deviceId ops hshutdown hunbind (h deviceId hbound)
  generalize sys.runOps host ops = later at hrun hn hauto hgone hdesired ⊢
  have hr := (committedRun_eq_some.mp hrun).2.1
  have htarget : deviceId ∈ later.rebindTargets snapshot := by
    apply (later.runtime.mem_collectRebindTargets _ _ deviceId).mpr
    refine ⟨hauto, hdesired, .inl ?_⟩
    obtain ⟨device, hdevice⟩ := Option.ne_none_iff_exists'.mp hback
    cases snapshot.get_id hdevice
    exact List.mem_map_of_mem (InventorySnapshot.mem_diff_added.mpr ⟨hdevice, hgone⟩)
  have hattempt := @rebindTrackedDevices_attempts host (later.afterCommit host discovery mode snapshot)
    (later.rebindTargets snapshot) deviceId htarget
  have hfinish := @finishRefresh_of_nextInventory host later discovery mode snapshot hr hn
  rw [exec_of_committedRun hrun, hfinish]
  exact ⟨_, rfl, hattempt⟩

def step (host : Host) (op : RuntimeOp) (sys : System) : Option System := some (sys.exec host op)

theorem run_desires_iff (host : Host) (config : RuntimeConfig) (ops : List RuntimeOp) (sys : System)
    (hrun : run (step host) ops { runtime := { config } } = some sys) :
    (∀ before after reached, ops = before ++ after →
      run (step host) before { runtime := { config } } = some reached →
      reached.runtime.Desires ∧ reached.Recovers host) ↔
      Along (step host) (KeepsDesire host) ops { runtime := { config } } := by
  have hinit : ({ runtime := { config } } : System).runtime.Desires := by
    intro deviceId hbound
    exact absurd hbound Std.ExtTreeMap.not_mem_empty
  apply always_iff_along (p := fun sys => sys.runtime.Desires ∧ sys.Recovers host) _
    ⟨hinit, desires_recovers hinit⟩ hrun
  intro op sys sys' h hstep
  cases hstep
  rw [← exec_desires_iff h.1 op]
  exact ⟨And.left, fun hafter => ⟨hafter, desires_recovers hafter⟩⟩

theorem run_desires_iff_bindLine :
    ∃ sys, run (step .quiet) bindLine { runtime := { config := {} } } = some sys ∧
      gpioLine ∈ sys.runtime.bindings ∧
      ∀ before after reached, bindLine = before ++ after →
        run (step .quiet) before { runtime := { config := {} } } = some reached →
        reached.runtime.Desires ∧ reached.Recovers .quiet :=
  ⟨_, rfl, by decide, (run_desires_iff .quiet {} bindLine _ rfl).mpr (by decide)⟩

def readLine : DeviceRequest := ⟨gpioLine, .standard (.gpio .read)⟩

def failedFirstRead : List RuntimeOp :=
  [.registerDriver gpioDriver, .refresh .full {} [gpioProbe [gpioLineDescriptor]], .request readLine]

theorem failed_request_leaves_undesired_binding :
    (∃ sys, run (step .quiet) failedFirstRead { runtime := { config := {} } } = some sys ∧
      gpioLine ∈ sys.runtime.bindings ∧ gpioLine ∉ sys.runtime.desiredBindings) ∧
    ∃ sys, run (step .quiet) (failedFirstRead ++ [.refresh .full {} [gpioProbe []],
        .refresh .full {} [gpioProbe [gpioLineDescriptor]]]) { runtime := { config := {} } } = some sys ∧
      sys.runtime.config.autoRebindOnRefresh = true ∧
      sys.runtime.inventory.get gpioLine = some gpioLineDescriptor ∧ gpioLine ∉ sys.runtime.bindings :=
  ⟨⟨_, rfl, by decide, by decide⟩, ⟨_, rfl, rfl, by decide, by decide⟩⟩

end Runs

end System

end Lemnos
