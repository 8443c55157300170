import Lemnos.Runtime.Holdings

namespace Lemnos

open Lemnos.Core Discovery Registry Library.OrderedMap

namespace Runtime

variable {runtime runtime' : Runtime}

theorem mem_cacheReported_states (layout : Layout) (runtime : Runtime) (state : Option DeviceStateSnapshot)
    (deviceId : DeviceId) : deviceId ∈ (runtime.cacheReported layout state).states ↔
      (∃ reported ∈ state, reported.deviceId = deviceId) ∨ deviceId ∈ runtime.states := by
  cases state with
  | none => simp [cacheReported]
  | some reported =>
    have hstates : (runtime.cacheReported layout (some reported)).states =
        runtime.states.insert reported.deviceId reported := rfl
    rw [hstates, BTreeMap.mem_insert_iff]
    simp [eq_comm]

/-- States are cached of bound devices, bound devices are listed as they were opened, and a stopped
runtime holds nothing. -/
structure Represented (runtime : Runtime) : Prop where
  cached : ∀ deviceId ∈ runtime.states, deviceId ∈ runtime.bindings
  listed : runtime.Consistent
  named : runtime.Named
  emptied : runtime.StaysEmptied

theorem Represented.running (h : runtime.Represented) {deviceId : DeviceId}
    (hbound : deviceId ∈ runtime.bindings) : runtime.running = true := by
  cases hr : runtime.running with
  | true => rfl
  | false => exact absurd hbound ((h.emptied hr).absent deviceId).bindings

theorem Named.congr (h : runtime.Named) (hbindings : runtime'.bindings = runtime.bindings) :
    runtime'.Named := by
  intro deviceId bound hget
  rw [hbindings] at hget
  exact h deviceId bound hget

theorem Represented.of_sameHoldings (h : runtime.Represented) (hsame : SameHoldings runtime runtime')
    (hr : runtime'.running = false → runtime.running = false) : runtime'.Represented where
  cached := by
    rw [hsame.bindings, hsame.states]
    exact h.cached
  listed := h.listed.congr hsame.inventory hsame.bindings
  named := h.named.congr hsame.bindings
  emptied := fun hstopped => (h.emptied (hr hstopped)).of_sameHoldings hsame

theorem Represented.of_emptied (h : runtime.Emptied) : runtime.Represented where
  cached := by
    intro deviceId hcached
    exact absurd hcached (h.absent deviceId).states
  listed := .of_unbound h.bindings
  named := by
    intro deviceId bound hget
    rw [h.bindings] at hget
    simp at hget
  emptied := fun _ => h

variable (layout : Layout)

theorem Represented.cacheReported (h : runtime.Represented) {state : Option DeviceStateSnapshot}
    (hstate : ∀ reported ∈ state, reported.deviceId ∈ runtime.bindings) :
    (runtime.cacheReported layout state).Represented where
  cached := by
    intro deviceId hcached
    rw [cacheReported_bindings]
    rcases (mem_cacheReported_states layout runtime state deviceId).mp hcached with
      ⟨reported, hreported, rfl⟩ | hbefore
    · exact hstate reported hreported
    · exact h.cached deviceId hbefore
  listed := h.listed.congr (by simp) (by simp)
  named := h.named.congr (by simp)
  emptied := by
    intro hstopped
    rw [cacheReported_running] at hstopped
    cases state with
    | none => exact h.emptied hstopped
    | some reported =>
      -- a stopped runtime has no binding to which a state could belong
      have hbound := hstate reported rfl
      rw [h.running hbound] at hstopped
      cases hstopped

theorem Represented.storeBoundDevice (h : runtime.Represented) (hr : runtime.running = true)
    {deviceId : DeviceId} {output : PreparedBindingOutput}
    (hlisted : runtime.inventory.get deviceId = some output.bound.device) (houtput : output.Named deviceId) :
    (runtime.storeBoundDevice layout deviceId output).Represented where
  cached := by
    intro other hcached
    rw [storeBoundDevice_bindings, BTreeMap.mem_insert_iff]
    rcases (mem_cacheReported_states layout runtime output.initialState other).mp hcached with
      ⟨reported, hreported, rfl⟩ | hbefore
    · exact .inl (houtput.state reported hreported)
    · exact .inr (h.cached other hbefore)
  listed := by
    have hinventory := (storeBoundDevice_sameDiscovery layout runtime deviceId output).inventory
    apply (h.listed.insert_iff hinventory (storeBoundDevice_bindings layout runtime deviceId output)).mpr
    exact ⟨output.bound.device, hlisted, .refl _⟩
  named := by
    intro other bound hget
    rw [storeBoundDevice_bindings, BTreeMap.getElem?_insert_eq] at hget
    split at hget
    · rename_i heq
      cases hget
      rw [heq]
      exact houtput.device
    · exact h.named other bound hget
  emptied := by
    intro hstopped
    rw [(storeBoundDevice_sameDiscovery layout runtime deviceId output).running, hr] at hstopped
    cases hstopped

theorem Represented.markDesiredBinding (h : runtime.Represented) (deviceId : DeviceId)
    (hr : runtime.running = true) : (runtime.markDesiredBinding deviceId).Represented where
  cached := h.cached
  listed := h.listed.congr rfl rfl
  named := h.named.congr rfl
  emptied := by
    intro hstopped
    rw [Runtime.markDesiredBinding, hr] at hstopped
    cases hstopped

theorem unbindDetached_binding {deviceId other : DeviceId} {bound : BoundDevice}
    (hget : (runtime.unbindDetached deviceId).2.2.bindings[other]? = some bound) :
    runtime.bindings[other]? = some bound := by
  rw [Runtime.unbindDetached, takeBoundDevice, BTreeMap.getElem?_erase_eq_some] at hget
  exact hget.2

theorem Represented.unbindDetached (h : runtime.Represented) (deviceId : DeviceId) :
    (runtime.unbindDetached deviceId).2.2.Represented where
  cached := by
    intro other hcached
    obtain ⟨hne, hbefore⟩ := (BTreeMap.mem_erase_iff _ _ _).mp hcached
    exact (BTreeMap.mem_erase_iff _ _ _).mpr ⟨hne, h.cached other hbefore⟩
  listed := fun other bound hget => h.listed other bound (unbindDetached_binding hget)
  named := fun other bound hget => h.named other bound (unbindDetached_binding hget)
  emptied := by
    intro hstopped
    have hbefore := h.emptied hstopped
    apply emptied_of_absent
    · intro other
      exact (hbefore.absent other).unbindDetached deviceId
    · exact hbefore.probeInventory

theorem Represented.commitRefresh (h : runtime.Represented) (hr : runtime.running = true)
    (discovery : DiscoveryRunReport) (mode : RefreshMode) (snapshot : InventorySnapshot) :
    (runtime.commitRefresh layout discovery mode snapshot).2.Represented where
  cached := by
    -- both maps lose the same entries
    intro deviceId hcached
    rw [commitRefresh_snd, BTreeMap.mem_iff_exists] at hcached ⊢
    simp only [BTreeMap.eraseAll_getElem?] at hcached ⊢
    by_cases hgone : deviceId ∈ runtime.givenUp snapshot
    · simp [hgone] at hcached
    · rw [if_neg hgone] at hcached ⊢
      rw [← BTreeMap.mem_iff_exists] at hcached ⊢
      exact h.cached deviceId hcached
  listed := h.listed.commitRefresh discovery mode snapshot
  named := by
    intro deviceId bound hget
    rw [commitRefresh_snd] at hget
    simp only [BTreeMap.eraseAll_getElem?] at hget
    split at hget
    · cases hget
    · exact h.named deviceId bound hget
  emptied := by
    intro hstopped
    rw [commitRefresh_snd] at hstopped
    simp [hr] at hstopped

end Runtime

namespace System

variable {host : Host} {sys : System}

theorem completeOperation_represented {α : Type} (h : sys.runtime.Represented) (deviceId : DeviceId)
    (operation : RuntimeFailureOperation) (result : RuntimeResult α) :
    (sys.completeOperation host deviceId operation result).runtime.Represented :=
  h.of_sameHoldings ⟨rfl, rfl, rfl, rfl, rfl⟩ id

theorem markDesired_represented {α : Type} (h : sys.runtime.Represented) {deviceId : DeviceId}
    {result : RuntimeResult α} (hbound : ∀ value, result = .ok value → deviceId ∈ sys.runtime.bindings) :
    (sys.markDesired deviceId result).runtime.Represented := by
  cases result with
  | error error => exact h
  | ok value => exact h.markDesiredBinding deviceId (h.running (hbound value rfl))

theorem bindDiscoveredDevice_represented (hhost : host.ReportsOwn) (h : sys.runtime.Represented)
    {descriptor : DeviceDescriptor} (hlisted : sys.runtime.inventory.get descriptor.id = some descriptor) :
    (sys.bindDiscoveredDevice host descriptor).2.runtime.Represented := by
  rcases sys.bindDiscoveredDevice_cases host descriptor with
    ⟨result, heq, -⟩ | ⟨prepared, hr, -, hp, ⟨error, sys', hb, heq⟩ | ⟨output, sys', hb, heq⟩⟩
  · rw [heq]
    exact h
  · have hruntime := prepared.bind_runtime host sys
    rw [hb] at hruntime
    rw [heq, hruntime]
    exact h
  · obtain ⟨hdevice, -, hruntime⟩ := PreparedBinding.bind_ok hb
    have hprepared := (Runtime.prepareBinding_ok hp).1
    rw [heq, setRuntime, hruntime]
    apply h.storeBoundDevice host.layout hr
    · rw [hdevice, hprepared]
      exact hlisted
    · exact PreparedBinding.bind_named hhost hb (by rw [hprepared])

theorem bindDeviceById_eq {deviceId : DeviceId} {descriptor : DeviceDescriptor}
    (hlisted : sys.runtime.inventory.get deviceId = some descriptor) :
    sys.bindDeviceById host deviceId = sys.bindDiscoveredDevice host descriptor := by
  cases sys.runtime.inventory.get_id hlisted
  unfold bindDeviceById bindDiscoveredDevice
  split
  · rfl
  · split
    · rfl
    · rw [hlisted]
      simp only [*, if_false]

theorem bindDeviceById_represented (hhost : host.ReportsOwn) (h : sys.runtime.Represented)
    (deviceId : DeviceId) : (sys.bindDeviceById host deviceId).2.runtime.Represented := by
  cases hlisted : sys.runtime.inventory.get deviceId with
  | none =>
    unfold bindDeviceById
    rw [hlisted]
    split
    · exact h
    · split <;> exact h
  | some descriptor =>
    rw [bindDeviceById_eq hlisted]
    apply bindDiscoveredDevice_represented hhost h
    rw [sys.runtime.inventory.get_id hlisted]
    exact hlisted

theorem bindDeviceById_bound {deviceId : DeviceId} (hok : (sys.bindDeviceById host deviceId).1 = .ok ()) :
    deviceId ∈ (sys.bindDeviceById host deviceId).2.runtime.bindings := by
  rcases sys.bindDeviceById_cases host deviceId with
    ⟨result, heq, hbound⟩ | ⟨descriptor, prepared, -, -, -, -, ⟨error, sys', hb, heq⟩ | ⟨output, sys', hb, heq⟩⟩
  · rw [heq] at hok ⊢
    exact hbound hok
  · rw [heq] at hok
    cases hok
  · rw [heq, setRuntime, Runtime.storeBoundDevice_bindings, BTreeMap.mem_insert_iff]
    exact .inl rfl

theorem bind_represented (hhost : host.ReportsOwn) (h : sys.runtime.Represented) (deviceId : DeviceId) :
    (sys.bind host deviceId).2.runtime.Represented := by
  have hbind := bindDeviceById_represented hhost h deviceId
  apply markDesired_represented (completeOperation_represented hbind deviceId .bind _)
  intro value hok
  exact bindDeviceById_bound hok

theorem unbind_represented (h : sys.runtime.Represented) (deviceId : DeviceId) :
    (sys.unbind deviceId).2.runtime.Represented := by
  simp only [unbind, closeDetachedBindings_runtime]
  exact h.unbindDetached deviceId

theorem refreshState_represented (hhost : host.ReportsOwn) (h : sys.runtime.Represented)
    (deviceId : DeviceId) : (sys.refreshState host deviceId).2.runtime.Represented := by
  rcases sys.refreshState_cases host deviceId with
    hsame | hcleared | ⟨bound, result, sys', hget, hreport, hread, hafter⟩
  · rw [hsame]
    exact h
  · rw [hcleared]
    exact h.of_sameHoldings ⟨rfl, rfl, rfl, rfl, rfl⟩ id
  · have hcomplete : (sys'.completeOperation host deviceId .refreshState result).runtime.Represented := by
      apply completeOperation_represented
      rw [hread]
      exact h
    have hbindings : (sys'.completeOperation host deviceId .refreshState result).runtime.bindings =
        sys'.runtime.bindings := by
      cases result <;> rfl
    rw [hafter]
    apply hcomplete.cacheReported
    intro reported hreported
    cases result with
    | error error => cases hreported
    | ok snapshot =>
      cases hreported
      rw [hbindings, hread, reportState_named hhost (h.named deviceId bound hget) (by rw [hreport])]
      exact (BTreeMap.mem_iff_exists _ _).mpr ⟨bound, hget⟩

theorem prepareRequestBinding_represented (hhost : host.ReportsOwn) (h : sys.runtime.Represented)
    (request : DeviceRequest) : (sys.prepareRequestBinding host request).2.runtime.Represented := by
  rcases sys.prepareRequestBinding_snd host request with hsame | ⟨device, hlisted, hbind⟩
  · rw [hsame]
    exact h
  · rw [hbind]
    apply bindDiscoveredDevice_represented hhost h
    rw [sys.runtime.inventory.get_id hlisted]
    exact hlisted

theorem requestInner_represented (hhost : host.ReportsOwn) (h : sys.runtime.Represented)
    (request : DeviceRequest) : (sys.requestInner host request).2.runtime.Represented := by
  have hprepare := prepareRequestBinding_represented hhost h request
  rcases sys.requestInner_cases host request with
    ⟨hsame, -⟩ | ⟨bound, interaction, state, sys', hget, hexecute, hafter⟩
  · rw [hsame]
    exact hprepare
  · rw [hafter]
    apply hprepare.cacheReported
    intro reported hstate
    cases hstate
    obtain ⟨-, executed, hreport⟩ := executeBound_state hexecute
    rw [reportState_named hhost (hprepare.named request.deviceId bound hget) hreport]
    exact (BTreeMap.mem_iff_exists _ _).mpr ⟨bound, hget⟩

theorem requestInner_bound {request : DeviceRequest} {response : DeviceResponse}
    (hok : (sys.requestInner host request).1 = .ok response) :
    request.deviceId ∈ (sys.requestInner host request).2.runtime.bindings := by
  rcases sys.requestInner_cases host request with
    ⟨-, hfailed⟩ | ⟨bound, interaction, state, sys', hget, -, hafter⟩
  · rw [hok] at hfailed
    cases hfailed
  · rw [hafter, Runtime.cacheReported_bindings]
    exact (BTreeMap.mem_iff_exists _ _).mpr ⟨bound, hget⟩

theorem request_represented (hhost : host.ReportsOwn) (h : sys.runtime.Represented)
    (request : DeviceRequest) : (sys.request host request).2.runtime.Represented := by
  have hinner := requestInner_represented hhost h request
  have hcomplete := @completeOperation_represented host _ _ hinner request.deviceId .request
    (sys.requestInner host request).1
  simp only [System.request]
  split
  · exact hcomplete
  · apply markDesired_represented hcomplete
    intro response hok
    exact requestInner_bound hok

theorem rebindTrackedDevices_represented (hhost : host.ReportsOwn) (h : sys.runtime.Represented)
    (deviceIds : List DeviceId) : (rebindTrackedDevices host deviceIds sys).2.runtime.Represented := by
  induction deviceIds generalizing sys with
  | nil => exact h
  | cons deviceId deviceIds ih =>
    rw [rebindTrackedDevices_snd]
    exact ih (completeOperation_represented (bindDeviceById_represented hhost h deviceId) deviceId .rebind _)

theorem finishRefresh_represented (hhost : host.ReportsOwn) (h : sys.runtime.Represented)
    (discovery : DiscoveryRunReport) (mode : RefreshMode) :
    (sys.finishRefresh host discovery mode).2.runtime.Represented := by
  by_cases hcommit : sys.runtime.running = true ∧
      ∃ snapshot, sys.runtime.nextInventory discovery mode = .ok snapshot
  · obtain ⟨hr, snapshot, hn⟩ := hcommit
    rw [finishRefresh_of_nextInventory hr hn]
    apply rebindTrackedDevices_represented hhost
    rw [afterCommit_runtime]
    exact h.commitRefresh host.layout hr discovery mode snapshot
  · rw [finishRefresh_uncommitted hcommit]
    exact h

theorem exec_represented (hhost : host.ReportsOwn) (h : sys.runtime.Represented) (op : RuntimeOp) :
    (sys.exec host op).runtime.Represented := by
  by_cases hcontrol : op.isControl = true
  · rcases sys.exec_control_cases host hcontrol with hshut | ⟨hsame, hstopped⟩
    · rw [hshut]
      exact .of_emptied (Runtime.emptied_shutdownDetached _)
    · exact h.of_sameHoldings hsame hstopped
  · by_cases hrefresh : op.isRefresh = true
    · rw [exec_refresh hrefresh]
      cases sys.discoveryOf host op with
      | none => exact h
      | some run => exact finishRefresh_represented hhost h run.1 run.2
    · cases op with
      | bind deviceId => exact bind_represented hhost h deviceId
      | unbind deviceId => exact unbind_represented h deviceId
      | refreshState deviceId => exact refreshState_represented hhost h deviceId
      | request request => exact request_represented hhost h request
      | refresh | pollWatcher => exact absurd rfl hrefresh
      | _ => exact absurd rfl hcontrol

end System

theorem System.runOps_represented (host : Host) (hhost : host.ReportsOwn) (config : RuntimeConfig)
    (ops : List RuntimeOp) :
    let runtime := (System.runOps host ops { runtime := { config } }).runtime
    (∀ deviceId ∈ runtime.states, deviceId ∈ runtime.bindings) ∧
      (∀ deviceId bound, runtime.bindings[deviceId]? = some bound →
        ∃ current, runtime.inventory.get deviceId = some current ∧ bound.device.Agrees current) ∧
      (runtime.running = false → runtime.bindings = ∅ ∧ runtime.desiredBindings = ∅ ∧
        runtime.states = ∅ ∧ runtime.probeInventory = {}) := by
  have hstart : ({ config } : Runtime).Represented := by
    apply Runtime.Represented.of_emptied
    exact ⟨rfl, rfl, rfl, rfl⟩
  have hreached := System.runOps_invariant (p := fun sys => sys.runtime.Represented) host
    (fun sys op h => exec_represented hhost h op) ops { runtime := { config } } hstart
  refine ⟨hreached.cached, hreached.listed, ?_⟩
  intro hstopped
  have hemptied := hreached.emptied hstopped
  exact ⟨hemptied.bindings, hemptied.desired, hemptied.states, hemptied.probeInventory⟩

theorem System.runOps_represented_bindLine :
    gpioLine ∈ (System.runOps .quiet bindLine { runtime := { config := {} } }).runtime.bindings ∧
      ∃ current, (System.runOps .quiet bindLine
        { runtime := { config := {} } }).runtime.inventory.get gpioLine = some current ∧
          gpioLineDescriptor.Agrees current :=
  ⟨by decide, (System.runOps_represented .quiet Host.quiet_reportsOwn {} bindLine).2.1 gpioLine
    ⟨0, "lemnos.gpio", gpioLineDescriptor⟩ (by decide)⟩

end Lemnos
