import Lemnos.Runtime.Refresh
import Lemnos.Runtime.Requests

namespace Lemnos

open Lemnos.Core Discovery Registry Library.OrderedMap

/-- An instance reports state only under the id of the device it was opened on. -/
def Host.ReportsOwn (host : Host) : Prop :=
  ∀ calls bound state, host.state calls bound = .ok (some state) → state.deviceId = bound.device.id

theorem Host.quiet_reportsOwn : Host.quiet.ReportsOwn := by
  intro calls bound state h
  cases h

namespace PreparedBinding

variable (host : Host) (prepared : PreparedBinding) (sys : System)

def openCall : HostCall := .bind prepared.driver.id prepared.descriptor true

theorem bind_cases :
    (∃ error, prepared.bind host sys =
        (.error error, ⟨sys.runtime, sys.calls ++ [.bind prepared.driver.id prepared.descriptor false]⟩)) ∨
    (∃ error, prepared.bind host sys =
        (.error error, ⟨sys.runtime, sys.calls ++ [prepared.openCall, .state sys.calls.length true false]⟩)) ∨
    ∃ driverId initialState reads, prepared.bind host sys =
        (.ok ⟨⟨sys.calls.length, driverId, prepared.descriptor⟩, initialState⟩,
          ⟨sys.runtime, sys.calls ++ prepared.openCall :: reads⟩) ∧
      (reads = [] ∨ reads = [.state sys.calls.length true true]) ∧
      ∀ state ∈ initialState, host.state (sys.calls ++ [prepared.openCall])
        ⟨sys.calls.length, driverId, prepared.descriptor⟩ = .ok (some state) := by
  unfold PreparedBinding.bind System.callBind
  cases hb : host.bind sys.calls prepared.driver prepared.descriptor with
  | error source => exact .inl ⟨_, rfl⟩
  | ok driverId =>
    right
    cases hc : prepared.cacheStateOnBind with
    | false =>
      right
      refine ⟨driverId, none, [], rfl, .inl rfl, ?_⟩
      intro state hs
      cases hs
    | true =>
      simp only [if_true, System.callState]
      cases hst : host.state (sys.calls ++ [.bind prepared.driver.id prepared.descriptor true])
          ⟨sys.calls.length, driverId, prepared.descriptor⟩ with
      | error source =>
        left
        exact ⟨.driver prepared.descriptor.id source, by simp [openCall]⟩
      | ok initialState =>
        right
        refine ⟨driverId, initialState, [.state sys.calls.length true true], by simp [openCall], .inr rfl, ?_⟩
        intro state hs
        cases hs
        exact hst

theorem bind_runtime : (prepared.bind host sys).2.runtime = sys.runtime := by
  rcases prepared.bind_cases host sys with ⟨_, h⟩ | ⟨_, h⟩ | ⟨_, _, _, h, -, -⟩ <;> rw [h]

variable {host prepared sys} {output : PreparedBindingOutput} {sys' : System}

theorem bind_ok (h : prepared.bind host sys = (.ok output, sys')) :
    output.bound.device = prepared.descriptor ∧ output.bound.handle = sys.calls.length ∧
      sys'.runtime = sys.runtime := by
  rcases prepared.bind_cases host sys with ⟨_, hb⟩ | ⟨_, hb⟩ | ⟨driverId, initialState, reads, hb, -, -⟩
  · rw [hb] at h
    cases h
  · rw [hb] at h
    cases h
  · rw [hb] at h
    cases h
    exact ⟨rfl, rfl, rfl⟩

theorem bind_reportsOwn (hhost : host.ReportsOwn) (h : prepared.bind host sys = (.ok output, sys')) :
    ∀ state ∈ output.initialState, state.deviceId = prepared.descriptor.id := by
  rcases prepared.bind_cases host sys with ⟨_, hb⟩ | ⟨_, hb⟩ | ⟨driverId, initialState, reads, hb, -, hstate⟩
  · rw [hb] at h
    cases h
  · rw [hb] at h
    cases h
  · rw [hb] at h
    cases h
    intro state hs
    exact hhost _ _ state (hstate state hs)

end PreparedBinding

theorem Runtime.prepareBinding_ok {runtime : Runtime} {descriptor : DeviceDescriptor}
    {prepared : PreparedBinding} (h : runtime.prepareBinding descriptor = .ok prepared) :
    prepared.descriptor = descriptor ∧ prepared.driver ∈ runtime.registry.drivers := by
  unfold Runtime.prepareBinding at h
  split at h
  · cases h
  · rename_i hr
    cases h
    exact ⟨rfl, (DriverRegistry.resolve_ok hr).1⟩

namespace System

variable (host : Host) (sys : System) (deviceId : DeviceId)

theorem bindDiscoveredDevice_cases (descriptor : DeviceDescriptor) :
    (∃ result, sys.bindDiscoveredDevice host descriptor = (result, sys) ∧
        (result = .ok () → descriptor.id ∈ sys.runtime.bindings)) ∨
    ∃ prepared, sys.runtime.running = true ∧ descriptor.id ∉ sys.runtime.bindings ∧
      sys.runtime.prepareBinding descriptor = .ok prepared ∧
      ((∃ error sys', prepared.bind host sys = (.error error, sys') ∧
          sys.bindDiscoveredDevice host descriptor = (.error error, sys')) ∨
        ∃ output sys', prepared.bind host sys = (.ok output, sys') ∧
          sys.bindDiscoveredDevice host descriptor =
            (.ok (), sys'.setRuntime (sys'.runtime.storeBoundDevice host.layout descriptor.id output))) := by
  unfold bindDiscoveredDevice
  cases hr : sys.runtime.running with
  | false => exact .inl ⟨_, rfl, fun h => by cases h⟩
  | true =>
    by_cases hb : descriptor.id ∈ sys.runtime.bindings
    · left
      exact ⟨.ok (), by simp [hb], fun _ => hb⟩
    · cases hp : sys.runtime.prepareBinding descriptor with
      | error error =>
        left
        exact ⟨.error error, by simp [hb], fun h => by cases h⟩
      | ok prepared =>
        right
        refine ⟨prepared, rfl, hb, rfl, ?_⟩
        cases hbind : prepared.bind host sys with
        | mk result sys' =>
          cases result with
          | error error => exact .inl ⟨error, sys', rfl, by simp [hb, hbind]⟩
          | ok output => exact .inr ⟨output, sys', rfl, by simp [hb, hbind]⟩

theorem bindDeviceById_cases :
    (∃ result, sys.bindDeviceById host deviceId = (result, sys) ∧
        (result = .ok () → deviceId ∈ sys.runtime.bindings)) ∨
    ∃ descriptor prepared, sys.runtime.running = true ∧ deviceId ∉ sys.runtime.bindings ∧
      sys.runtime.inventory.get deviceId = some descriptor ∧
      sys.runtime.prepareBinding descriptor = .ok prepared ∧
      ((∃ error sys', prepared.bind host sys = (.error error, sys') ∧
          sys.bindDeviceById host deviceId = (.error error, sys')) ∨
        ∃ output sys', prepared.bind host sys = (.ok output, sys') ∧
          sys.bindDeviceById host deviceId =
            (.ok (), sys'.setRuntime (sys'.runtime.storeBoundDevice host.layout deviceId output))) := by
  cases hr : sys.runtime.running with
  | false => exact .inl ⟨.error .notRunning, by simp [bindDeviceById, hr], fun h => by cases h⟩
  | true =>
    by_cases hb : deviceId ∈ sys.runtime.bindings
    · exact .inl ⟨.ok (), by simp [bindDeviceById, hr, hb], fun _ => hb⟩
    · cases hg : sys.runtime.inventory.get deviceId with
      | none =>
        left
        exact ⟨.error (.unknownDevice deviceId), by simp [bindDeviceById, hr, hb, hg], fun h => by cases h⟩
      | some descriptor =>
        have heq : sys.bindDeviceById host deviceId = sys.bindDiscoveredDevice host descriptor := by
          simp [bindDeviceById, hr, hb, hg]
        cases sys.runtime.inventory.get_id hg
        rw [heq]
        rcases sys.bindDiscoveredDevice_cases host descriptor with h | ⟨prepared, -, -, hp, hcases⟩
        · exact .inl h
        · exact .inr ⟨descriptor, prepared, rfl, hb, rfl, hp, hcases⟩

end System

namespace Runtime

structure SameDiscovery (runtime runtime' : Runtime) : Prop where
  running : runtime'.running = runtime.running
  config : runtime'.config = runtime.config
  inventory : runtime'.inventory = runtime.inventory
  registry : runtime'.registry = runtime.registry
  probeInventory : runtime'.probeInventory = runtime.probeInventory

structure SameEntries (deviceId : DeviceId) (runtime runtime' : Runtime) : Prop where
  bindings : runtime'.bindings[deviceId]? = runtime.bindings[deviceId]?
  desired : deviceId ∈ runtime'.desiredBindings ↔ deviceId ∈ runtime.desiredBindings
  states : runtime'.states[deviceId]? = runtime.states[deviceId]?
  failures : runtime'.failures[deviceId]? = runtime.failures[deviceId]?

def PushesStates (runtime runtime' : Runtime) : Prop :=
  ∃ states : List DeviceStateSnapshot,
    runtime'.log.pushed = runtime.log.pushed ++ states.map (fun state => .state (.snapshot state))

theorem SameDiscovery.refl (runtime : Runtime) : runtime.SameDiscovery runtime :=
  ⟨rfl, rfl, rfl, rfl, rfl⟩

theorem SameDiscovery.trans {r₁ r₂ r₃ : Runtime} (h : r₁.SameDiscovery r₂) (h' : r₂.SameDiscovery r₃) :
    r₁.SameDiscovery r₃ :=
  ⟨h'.running.trans h.running, h'.config.trans h.config, h'.inventory.trans h.inventory,
    h'.registry.trans h.registry, h'.probeInventory.trans h.probeInventory⟩

theorem SameEntries.refl (deviceId : DeviceId) (runtime : Runtime) : SameEntries deviceId runtime runtime :=
  ⟨rfl, Iff.rfl, rfl, rfl⟩

theorem SameEntries.trans {deviceId : DeviceId} {r₁ r₂ r₃ : Runtime} (h : SameEntries deviceId r₁ r₂)
    (h' : SameEntries deviceId r₂ r₃) : SameEntries deviceId r₁ r₃ :=
  ⟨h'.bindings.trans h.bindings, h'.desired.trans h.desired, h'.states.trans h.states,
    h'.failures.trans h.failures⟩

theorem PushesStates.refl (runtime : Runtime) : runtime.PushesStates runtime := ⟨[], by simp⟩

theorem PushesStates.trans {r₁ r₂ r₃ : Runtime} (h : r₁.PushesStates r₂) (h' : r₂.PushesStates r₃) :
    r₁.PushesStates r₃ := by
  obtain ⟨states, h⟩ := h
  obtain ⟨states', h'⟩ := h'
  exact ⟨states ++ states', by rw [h', h, List.map_append, List.append_assoc]⟩

variable (layout : Layout) (runtime : Runtime)

theorem cacheReported_sameDiscovery (state : Option DeviceStateSnapshot) :
    runtime.SameDiscovery (runtime.cacheReported layout state) :=
  ⟨by simp, by simp, by simp, by simp, by simp⟩

theorem cacheReported_sameEntries (state : Option DeviceStateSnapshot) {deviceId : DeviceId}
    (h : ∀ reported ∈ state, reported.deviceId ≠ deviceId) :
    SameEntries deviceId runtime (runtime.cacheReported layout state) :=
  ⟨by simp, by simp, runtime.cacheReported_states layout state deviceId h, by simp⟩

theorem cacheReported_getElem? (state : Option DeviceStateSnapshot) (deviceId : DeviceId) :
    (runtime.cacheReported layout state).states[deviceId]? =
      (state.filter (fun reported => reported.deviceId = deviceId)).or runtime.states[deviceId]? := by
  cases state with
  | none => rfl
  | some reported =>
    rw [cacheReported, cacheState, BTreeMap.getElem?_insert_eq]
    by_cases h : reported.deviceId = deviceId
    · simp [Option.filter, h]
    · simp [Option.filter, h, Ne.symm h, notifyEventSubscribers, enforceEventRetention, pushRetainedEvents]

theorem cacheReported_pushesStates (state : Option DeviceStateSnapshot) :
    runtime.PushesStates (runtime.cacheReported layout state) :=
  ⟨state.toList, by simp⟩

theorem storeBoundDevice_sameDiscovery (deviceId : DeviceId) (output : PreparedBindingOutput) :
    runtime.SameDiscovery (runtime.storeBoundDevice layout deviceId output) :=
  ⟨by simp [storeBoundDevice], by simp [storeBoundDevice], by simp [storeBoundDevice],
    by simp [storeBoundDevice], by simp [storeBoundDevice]⟩

theorem storeBoundDevice_bindings (deviceId : DeviceId) (output : PreparedBindingOutput) :
    (runtime.storeBoundDevice layout deviceId output).bindings =
      runtime.bindings.insert deviceId output.bound := by
  simp [storeBoundDevice]

theorem storeBoundDevice_pushesStates (deviceId : DeviceId) (output : PreparedBindingOutput) :
    runtime.PushesStates (runtime.storeBoundDevice layout deviceId output) :=
  runtime.cacheReported_pushesStates layout output.initialState

theorem recordOutcome_getElem?_ne {α : Type} (failures : BTreeMap DeviceId RuntimeFailureRecord)
    {deviceId other : DeviceId} (operation : RuntimeFailureOperation) (occurredAt : Option TimestampMs)
    (result : RuntimeResult α) (hne : other ≠ deviceId) :
    (System.recordOutcome failures deviceId operation occurredAt result)[other]? = failures[other]? := by
  cases result with
  | ok value => exact BTreeMap.getElem?_erase_ne _ hne
  | error error =>
    unfold System.recordOutcome
    cases failures[deviceId]? <;> exact BTreeMap.getElem?_insert_ne _ _ hne

end Runtime

namespace System

variable (host : Host) (sys : System)

theorem completeOperation_sameDiscovery {α : Type} (deviceId : DeviceId) (operation : RuntimeFailureOperation)
    (result : RuntimeResult α) :
    sys.runtime.SameDiscovery (sys.completeOperation host deviceId operation result).runtime :=
  ⟨rfl, rfl, rfl, rfl, rfl⟩

theorem markDesired_sameDiscovery {α : Type} (deviceId : DeviceId) (result : RuntimeResult α) :
    sys.runtime.SameDiscovery (sys.markDesired deviceId result).runtime := by
  unfold markDesired
  split <;> exact ⟨rfl, rfl, rfl, rfl, rfl⟩

@[simp] theorem closeDetachedBindings_runtime (detached : List DetachedBoundDevice) :
    (sys.closeDetachedBindings detached).runtime = sys.runtime := by
  induction detached generalizing sys with
  | nil => rfl
  | cons first detached ih => exact ih _

theorem closeDetachedBindings_calls (detached : List DetachedBoundDevice) :
    (sys.closeDetachedBindings detached).calls =
      sys.calls ++ detached.map (fun detached => .close detached.binding.handle) := by
  induction detached generalizing sys with
  | nil => simp [closeDetachedBindings]
  | cons first detached ih =>
    have hrest := ih (sys.callClose first.binding.handle)
    simp only [callClose, List.append_assoc, List.singleton_append] at hrest
    exact hrest

theorem bindDiscoveredDevice_sameDiscovery (descriptor : DeviceDescriptor) :
    sys.runtime.SameDiscovery (sys.bindDiscoveredDevice host descriptor).2.runtime := by
  rcases sys.bindDiscoveredDevice_cases host descriptor with
    ⟨result, h, -⟩ | ⟨prepared, -, -, -, ⟨error, sys', hb, h⟩ | ⟨output, sys', hb, h⟩⟩
  · rw [h]
    exact .refl _
  · have hr := prepared.bind_runtime host sys
    rw [hb] at hr
    rw [h, hr]
    exact .refl _
  · rw [h, setRuntime, (PreparedBinding.bind_ok hb).2.2]
    exact Runtime.storeBoundDevice_sameDiscovery _ _ _ _

theorem bindDeviceById_sameDiscovery (deviceId : DeviceId) :
    sys.runtime.SameDiscovery (sys.bindDeviceById host deviceId).2.runtime := by
  unfold bindDeviceById
  split
  · exact .refl _
  · split
    · exact .refl _
    · split
      · exact .refl _
      · exact sys.bindDiscoveredDevice_sameDiscovery host _

def reportAtBind (host : Host) (sys : System) (deviceId : DeviceId) : Option DeviceStateSnapshot := do
  guard (sys.runtime.running = true ∧ deviceId ∉ sys.runtime.bindings)
  let descriptor ← sys.runtime.inventory.get deviceId
  let prepared ← (sys.runtime.prepareBinding descriptor).toOption
  let output ← (prepared.bind host sys).1.toOption
  output.initialState

theorem bindDeviceById_reported (deviceId : DeviceId) :
    ((sys.bindDeviceById host deviceId).2.runtime = sys.runtime ∧ sys.reportAtBind host deviceId = none) ∨
    ∃ output, (sys.bindDeviceById host deviceId).2.runtime =
        sys.runtime.storeBoundDevice host.layout deviceId output ∧
      sys.reportAtBind host deviceId = output.initialState ∧
      (host.ReportsOwn → ∀ state ∈ output.initialState, state.deviceId = deviceId) := by
  cases hr : sys.runtime.running with
  | false => exact .inl ⟨by simp [bindDeviceById, hr], by simp [reportAtBind, hr]⟩
  | true =>
    by_cases hb : deviceId ∈ sys.runtime.bindings
    · exact .inl ⟨by simp [bindDeviceById, hr, hb], by simp [reportAtBind, hb]⟩
    · cases hg : sys.runtime.inventory.get deviceId with
      | none => exact .inl ⟨by simp [bindDeviceById, hr, hb, hg], by simp [reportAtBind, hg]⟩
      | some descriptor =>
        cases sys.runtime.inventory.get_id hg
        have hbind : sys.bindDeviceById host descriptor.id = sys.bindDiscoveredDevice host descriptor := by
          simp [bindDeviceById, hr, hb, hg]
        rw [hbind]
        cases hp : sys.runtime.prepareBinding descriptor with
        | error error =>
          left
          exact ⟨by simp [bindDiscoveredDevice, hr, hb, hp], by simp [reportAtBind, hg, hp, Except.toOption]⟩
        | ok prepared =>
          have hruntime := prepared.bind_runtime host sys
          cases hopened : prepared.bind host sys with
          | mk result sys' =>
            rw [hopened] at hruntime
            cases result with
            | error error =>
              left
              refine ⟨?_, by simp [reportAtBind, hg, hp, hopened, Except.toOption]⟩
              simpa [bindDiscoveredDevice, hr, hb, hp, hopened] using hruntime
            | ok output =>
              right
              refine ⟨output, ?_, by simp [reportAtBind, hr, hb, hg, hp, hopened, Except.toOption], ?_⟩
              · rw [← hruntime]
                simp [bindDiscoveredDevice, hr, hb, hp, hopened, setRuntime]
              · intro hhost
                rw [← (Runtime.prepareBinding_ok hp).1]
                exact PreparedBinding.bind_reportsOwn hhost hopened

theorem bindDeviceById_other {deviceId other : DeviceId} (hne : other ≠ deviceId) :
    (sys.bindDeviceById host deviceId).2.runtime.bindings[other]? = sys.runtime.bindings[other]? ∧
      (sys.bindDeviceById host deviceId).2.runtime.desiredBindings = sys.runtime.desiredBindings ∧
      (sys.bindDeviceById host deviceId).2.runtime.failures = sys.runtime.failures := by
  rcases sys.bindDeviceById_reported host deviceId with ⟨h, -⟩ | ⟨output, h, -, -⟩
  · rw [h]
    exact ⟨rfl, rfl, rfl⟩
  · rw [h]
    refine ⟨?_, by simp [Runtime.storeBoundDevice], by simp [Runtime.storeBoundDevice]⟩
    rw [Runtime.storeBoundDevice_bindings, BTreeMap.getElem?_insert_ne _ _ hne]

theorem bindDeviceById_states (deviceId other : DeviceId) :
    (sys.bindDeviceById host deviceId).2.runtime.states[other]? =
      ((sys.reportAtBind host deviceId).filter (fun state => state.deviceId = other)).or
        sys.runtime.states[other]? := by
  rcases sys.bindDeviceById_reported host deviceId with ⟨h, hnone⟩ | ⟨output, h, hreport, -⟩
  · rw [h, hnone]
    rfl
  · rw [h, hreport]
    exact sys.runtime.cacheReported_getElem? host.layout output.initialState other

theorem bindDeviceById_pushesStates (deviceId : DeviceId) :
    sys.runtime.PushesStates (sys.bindDeviceById host deviceId).2.runtime := by
  rcases sys.bindDeviceById_cases host deviceId with
    ⟨result, h, -⟩ | ⟨descriptor, prepared, -, -, -, -, ⟨error, sys', hb, h⟩ | ⟨output, sys', hb, h⟩⟩
  · rw [h]
    exact .refl _
  · have hr := prepared.bind_runtime host sys
    rw [hb] at hr
    rw [h, hr]
    exact .refl _
  · rw [h, setRuntime, (PreparedBinding.bind_ok hb).2.2]
    exact Runtime.storeBoundDevice_pushesStates _ _ _ _

theorem rebindTrackedDevices_snd (deviceId : DeviceId) (deviceIds : List DeviceId) :
    (rebindTrackedDevices host (deviceId :: deviceIds) sys).2 =
      (rebindTrackedDevices host deviceIds (sys.rebindTrackedDevice host deviceId).2).2 := by
  simp only [rebindTrackedDevices]
  split <;> rfl

theorem rebindTrackedDevices_sameDiscovery (deviceIds : List DeviceId) :
    sys.runtime.SameDiscovery (rebindTrackedDevices host deviceIds sys).2.runtime := by
  induction deviceIds generalizing sys with
  | nil => exact .refl _
  | cons deviceId deviceIds ih =>
    rw [rebindTrackedDevices_snd]
    exact (sys.bindDeviceById_sameDiscovery host deviceId).trans
      ((completeOperation_sameDiscovery host _ deviceId .rebind _).trans (ih _))

theorem rebindTrackedDevices_other {deviceIds : List DeviceId} {other : DeviceId} (h : other ∉ deviceIds) :
    (rebindTrackedDevices host deviceIds sys).2.runtime.bindings[other]? = sys.runtime.bindings[other]? ∧
      (rebindTrackedDevices host deviceIds sys).2.runtime.desiredBindings = sys.runtime.desiredBindings ∧
      (rebindTrackedDevices host deviceIds sys).2.runtime.failures[other]? = sys.runtime.failures[other]? := by
  induction deviceIds generalizing sys with
  | nil => exact ⟨rfl, rfl, rfl⟩
  | cons deviceId deviceIds ih =>
    obtain ⟨hne, hrest⟩ := not_or.mp (mt List.mem_cons.mpr h)
    obtain ⟨hbindings, hdesired, hfailures⟩ := sys.bindDeviceById_other host hne
    obtain ⟨hbindings', hdesired', hfailures'⟩ := ih (sys.rebindTrackedDevice host deviceId).2 hrest
    rw [rebindTrackedDevices_snd]
    refine ⟨hbindings'.trans hbindings, hdesired'.trans hdesired, hfailures'.trans ?_⟩
    simp only [rebindTrackedDevice, completeOperation]
    rw [Runtime.recordOutcome_getElem?_ne _ _ _ _ hne, hfailures]

/-- The states cached while the devices are bound one after the other. -/
def rebindReports (host : Host) : List DeviceId → System → List DeviceStateSnapshot
  | [], _ => []
  | deviceId :: deviceIds, sys =>
    (sys.reportAtBind host deviceId).toList ++
      rebindReports host deviceIds (sys.rebindTrackedDevice host deviceId).2

/-- The last of these states under the id. -/
def lastRebindReport (host : Host) (deviceIds : List DeviceId) (sys : System) (other : DeviceId) :
    Option DeviceStateSnapshot :=
  (rebindReports host deviceIds sys).reverse.find? (fun state => state.deviceId = other)

theorem rebindTrackedDevices_states (deviceIds : List DeviceId) (other : DeviceId) :
    (rebindTrackedDevices host deviceIds sys).2.runtime.states[other]? =
      (lastRebindReport host deviceIds sys other).or sys.runtime.states[other]? := by
  induction deviceIds generalizing sys with
  | nil => rfl
  | cons deviceId deviceIds ih =>
    have hbind : (sys.rebindTrackedDevice host deviceId).2.runtime.states[other]? = _ :=
      sys.bindDeviceById_states host deviceId other
    have hfirst : (sys.reportAtBind host deviceId).toList.reverse.find? (fun state => state.deviceId = other) =
        (sys.reportAtBind host deviceId).filter (fun state => state.deviceId = other) := by
      cases sys.reportAtBind host deviceId with
      | none => rfl
      | some state => simp [List.find?_singleton, Option.filter]
    rw [rebindTrackedDevices_snd, ih, hbind, lastRebindReport, lastRebindReport, rebindReports,
      List.reverse_append, List.find?_append, hfirst, Option.or_assoc]

theorem rebindReports_own {host : Host} (hhost : host.ReportsOwn) (deviceIds : List DeviceId) (sys : System) :
    ∀ state ∈ rebindReports host deviceIds sys, state.deviceId ∈ deviceIds := by
  induction deviceIds generalizing sys with
  | nil => simp [rebindReports]
  | cons deviceId deviceIds ih =>
    intro state hstate
    rcases List.mem_append.mp hstate with hfirst | hrest
    · rcases sys.bindDeviceById_reported host deviceId with ⟨-, hnone⟩ | ⟨output, -, hreport, hown⟩
      · rw [hnone] at hfirst
        cases hfirst
      · rw [hreport, Option.mem_toList] at hfirst
        rw [hown hhost state hfirst]
        exact List.mem_cons_self
    · exact List.mem_cons_of_mem deviceId (ih _ state hrest)

theorem lastRebindReport_own {host : Host} (hhost : host.ReportsOwn) (sys : System)
    {deviceIds : List DeviceId} {other : DeviceId} (h : other ∉ deviceIds) :
    lastRebindReport host deviceIds sys other = none := by
  rw [lastRebindReport, List.find?_eq_none]
  intro state hstate
  have hmem := rebindReports_own hhost deviceIds sys state (List.mem_reverse.mp hstate)
  simp only [decide_eq_true_eq]
  rintro rfl
  exact h hmem

theorem rebindTrackedDevices_sameEntries {host : Host} (hhost : host.ReportsOwn) {other : DeviceId}
    (deviceIds : List DeviceId) (h : other ∉ deviceIds) :
    Runtime.SameEntries other sys.runtime (rebindTrackedDevices host deviceIds sys).2.runtime := by
  obtain ⟨hbindings, hdesired, hfailures⟩ := sys.rebindTrackedDevices_other host h
  have hstates := sys.rebindTrackedDevices_states host deviceIds other
  rw [lastRebindReport_own hhost sys h, Option.none_or] at hstates
  exact ⟨hbindings, by rw [hdesired], hstates, hfailures⟩

theorem rebindTrackedDevices_pushesStates (deviceIds : List DeviceId) :
    sys.runtime.PushesStates (rebindTrackedDevices host deviceIds sys).2.runtime := by
  induction deviceIds generalizing sys with
  | nil => exact .refl _
  | cons deviceId deviceIds ih =>
    rw [rebindTrackedDevices_snd]
    exact (sys.bindDeviceById_pushesStates host deviceId).trans (ih (sys.rebindTrackedDevice host deviceId).2)

end System

end Lemnos
