import Lemnos.Runtime.Custody

namespace Lemnos

open Lemnos.Core Discovery Registry Library.OrderedMap

def RuntimeOp.isControl : RuntimeOp → Bool
  | .start | .shutdown | .setConfig _ | .registerDriver _ | .preferDriver .. | .clearPreferredDriver _
  | .takeEvents => true
  | _ => false

namespace Runtime

/-- No binding, no wish for one and no cached state under this id. -/
structure Absent (deviceId : DeviceId) (runtime : Runtime) : Prop where
  bindings : deviceId ∉ runtime.bindings
  desired : deviceId ∉ runtime.desiredBindings
  states : deviceId ∉ runtime.states

variable {deviceId : DeviceId} {runtime runtime' : Runtime}

theorem Absent.of_sameEntries (h : Absent deviceId runtime) (hsame : SameEntries deviceId runtime runtime') :
    Absent deviceId runtime' where
  bindings := by
    rw [BTreeMap.not_mem_iff, hsame.bindings]
    exact (BTreeMap.not_mem_iff _ _).mp h.bindings
  desired := mt hsame.desired.mp h.desired
  states := by
    rw [BTreeMap.not_mem_iff, hsame.states]
    exact (BTreeMap.not_mem_iff _ _).mp h.states

theorem Absent.cacheReported (h : Absent deviceId runtime) (layout : Layout)
    {state : Option DeviceStateSnapshot}
    (hstate : deviceId ∉ state.toList.map DeviceStateSnapshot.deviceId) :
    Absent deviceId (runtime.cacheReported layout state) := by
  refine h.of_sameEntries (runtime.cacheReported_sameEntries layout state ?_)
  intro reported hreported heq
  exact hstate (List.mem_map.mpr ⟨reported, Option.mem_toList.mpr hreported, heq⟩)

theorem Absent.storeBoundDevice (h : Absent deviceId runtime) (layout : Layout) {stored : DeviceId}
    {output : PreparedBindingOutput} (hne : deviceId ≠ stored)
    (hstate : deviceId ∉ output.initialState.toList.map DeviceStateSnapshot.deviceId) :
    Absent deviceId (runtime.storeBoundDevice layout stored output) := by
  have hcached := h.cacheReported layout hstate
  refine ⟨?_, hcached.desired, hcached.states⟩
  rw [storeBoundDevice_bindings, BTreeMap.mem_insert_iff]
  exact not_or.mpr ⟨hne, h.bindings⟩

theorem Absent.markDesiredBinding (h : Absent deviceId runtime) {marked : DeviceId}
    (hne : deviceId ≠ marked) :
    Absent deviceId (runtime.markDesiredBinding marked) := by
  refine ⟨h.bindings, ?_, h.states⟩
  rw [Runtime.markDesiredBinding, BTreeSet.mem_insert_iff]
  exact not_or.mpr ⟨hne, h.desired⟩

theorem Absent.commitRefresh (h : Absent deviceId runtime) (layout : Layout) (discovery : DiscoveryRunReport)
    (mode : RefreshMode) (snapshot : InventorySnapshot) :
    Absent deviceId (runtime.commitRefresh layout discovery mode snapshot).2 := by
  rw [commitRefresh_snd]
  refine ⟨?_, ?_, ?_⟩
  · rw [BTreeMap.not_mem_iff, BTreeMap.eraseAll_getElem?, (BTreeMap.not_mem_iff _ _).mp h.bindings, ite_self]
  · rw [recordInventoryEvents_desiredBindings]
    exact h.desired
  · rw [BTreeMap.not_mem_iff, BTreeMap.eraseAll_getElem?, (BTreeMap.not_mem_iff _ _).mp h.states, ite_self]

theorem absent_unbindDetached (deviceId : DeviceId) (runtime : Runtime) :
    Absent deviceId (runtime.unbindDetached deviceId).2.2 where
  bindings := by simp [unbindDetached, takeBoundDevice]
  desired := by simp [unbindDetached, takeBoundDevice]
  states := by simp [unbindDetached, takeBoundDevice]

theorem Absent.unbindDetached (h : Absent deviceId runtime) (other : DeviceId) :
    Absent deviceId (runtime.unbindDetached other).2.2 where
  bindings := fun hmem => h.bindings (BTreeMap.mem_erase_iff _ _ _ |>.mp hmem).2
  desired := fun hmem => h.desired (Std.ExtTreeSet.mem_of_mem_erase hmem)
  states := fun hmem => h.states (BTreeMap.mem_erase_iff _ _ _ |>.mp hmem).2

theorem absent_shutdownDetached (deviceId : DeviceId) (runtime : Runtime) :
    Absent deviceId runtime.shutdownDetached.2 where
  bindings := Std.ExtTreeMap.not_mem_empty
  desired := Std.ExtTreeSet.not_mem_empty
  states := Std.ExtTreeMap.not_mem_empty

structure SameHoldings (runtime runtime' : Runtime) : Prop where
  inventory : runtime'.inventory = runtime.inventory
  probeInventory : runtime'.probeInventory = runtime.probeInventory
  bindings : runtime'.bindings = runtime.bindings
  desired : runtime'.desiredBindings = runtime.desiredBindings
  states : runtime'.states = runtime.states

theorem Absent.of_sameHoldings (h : Absent deviceId runtime) (hsame : SameHoldings runtime runtime') :
    Absent deviceId runtime' where
  bindings := by
    rw [hsame.bindings]
    exact h.bindings
  desired := by
    rw [hsame.desired]
    exact h.desired
  states := by
    rw [hsame.states]
    exact h.states

theorem setRegistry_sameHoldings (runtime : Runtime) (registry : RegistryResult DriverRegistry) :
    SameHoldings runtime (runtime.setRegistry registry) := by
  cases registry <;> exact ⟨rfl, rfl, rfl, rfl, rfl⟩

theorem setRegistry_running (runtime : Runtime) (registry : RegistryResult DriverRegistry) :
    (runtime.setRegistry registry).running = runtime.running := by
  cases registry <;> rfl

end Runtime

namespace System

variable (host : Host)

theorem exec_control_cases (sys : System) {op : RuntimeOp} (hop : op.isControl = true) :
    (sys.exec host op).runtime = sys.runtime.shutdownDetached.2 ∨
      sys.runtime.SameHoldings (sys.exec host op).runtime ∧
        ((sys.exec host op).runtime.running = false → sys.runtime.running = false) := by
  cases op with
  | shutdown =>
    left
    simp only [exec, shutdown, setRuntime, closeDetachedBindings_runtime]
    rfl
  | start =>
    refine .inr ⟨⟨rfl, rfl, rfl, rfl, rfl⟩, ?_⟩
    intro hstopped
    cases hstopped
  | setConfig | clearPreferredDriver | takeEvents => exact .inr ⟨⟨rfl, rfl, rfl, rfl, rfl⟩, id⟩
  | registerDriver | preferDriver =>
    refine .inr ⟨Runtime.setRegistry_sameHoldings _ _, ?_⟩
    rw [exec, setRuntime, Runtime.setRegistry_running]
    exact id
  | _ => cases hop

theorem bindDeviceById_binding (sys : System) (deviceId : DeviceId) {other : DeviceId} {bound : BoundDevice}
    (h : (sys.bindDeviceById host deviceId).2.runtime.bindings[other]? = some bound) :
    sys.runtime.bindings[other]? = some bound ∨ sys.runtime.inventory.get other = some bound.device := by
  rcases sys.bindDeviceById_cases host deviceId with
    ⟨result, heq, -⟩ |
    ⟨descriptor, prepared, -, -, hget, hp, ⟨error, sys', hb, heq⟩ | ⟨output, sys', hb, heq⟩⟩
  · rw [heq] at h
    exact .inl h
  · have hr := prepared.bind_runtime host sys
    rw [hb] at hr
    rw [heq, hr] at h
    exact .inl h
  · obtain ⟨hdevice, -, hr⟩ := PreparedBinding.bind_ok hb
    rw [heq, setRuntime, hr, Runtime.storeBoundDevice_bindings, BTreeMap.getElem?_insert_eq] at h
    split at h
    · rename_i hother
      cases h
      rw [hother, hget, hdevice, (Runtime.prepareBinding_ok hp).1]
      exact .inr rfl
    · exact .inl h

theorem rebindTrackedDevices_binding (deviceIds : List DeviceId) {sys : System} {other : DeviceId}
    {bound : BoundDevice}
    (h : (rebindTrackedDevices host deviceIds sys).2.runtime.bindings[other]? = some bound) :
    sys.runtime.bindings[other]? = some bound ∨ sys.runtime.inventory.get other = some bound.device := by
  induction deviceIds generalizing sys with
  | nil => exact .inl h
  | cons deviceId deviceIds ih =>
    rw [rebindTrackedDevices_snd] at h
    have hinventory : (sys.rebindTrackedDevice host deviceId).2.runtime.inventory = sys.runtime.inventory :=
      (sys.bindDeviceById_sameDiscovery host deviceId).inventory
    rcases ih h with hfirst | hlisted
    · exact bindDeviceById_binding host sys deviceId hfirst
    · rw [hinventory] at hlisted
      exact .inr hlisted

end System

def Core.DeviceDescriptor.Agrees (opened current : DeviceDescriptor) : Prop :=
  opened.interface = current.interface ∧ opened.kind = current.kind ∧ opened.address = current.address ∧
    opened.controlSurface = current.controlSurface

instance (opened current : DeviceDescriptor) : Decidable (opened.Agrees current) :=
  inferInstanceAs (Decidable (_ ∧ _ ∧ _ ∧ _))

theorem Core.DeviceDescriptor.Agrees.refl (device : DeviceDescriptor) : device.Agrees device :=
  ⟨rfl, rfl, rfl, rfl⟩

theorem Core.DeviceDescriptor.Agrees.trans {device₁ device₂ device₃ : DeviceDescriptor}
    (h : device₁.Agrees device₂) (h' : device₂.Agrees device₃) : device₁.Agrees device₃ :=
  ⟨h.1.trans h'.1, h.2.1.trans h'.2.1, h.2.2.1.trans h'.2.2.1, h.2.2.2.trans h'.2.2.2⟩

namespace Runtime

variable {layout : Layout} {runtime runtime' : Runtime}

def Lists (runtime : Runtime) (deviceId : DeviceId) (opened : DeviceDescriptor) : Prop :=
  ∃ current ∈ runtime.inventory.get deviceId, opened.Agrees current

instance (runtime : Runtime) (deviceId : DeviceId) (opened : DeviceDescriptor) :
    Decidable (runtime.Lists deviceId opened) :=
  inferInstanceAs (Decidable (∃ current ∈ runtime.inventory.get deviceId, opened.Agrees current))

/-- Every binding is of a listed device and was opened from a descriptor that agrees with the listed one. -/
def Consistent (runtime : Runtime) : Prop :=
  ∀ deviceId bound, runtime.bindings[deviceId]? = some bound → runtime.Lists deviceId bound.device

theorem Consistent.congr (h : runtime.Consistent) (hinventory : runtime'.inventory = runtime.inventory)
    (hbindings : runtime'.bindings = runtime.bindings) : runtime'.Consistent := by
  intro deviceId bound hget
  rw [hbindings] at hget
  rw [Lists, hinventory]
  exact h deviceId bound hget

theorem Consistent.of_unbound (h : runtime.bindings = ∅) : runtime.Consistent := by
  intro deviceId bound hget
  rw [h] at hget
  simp at hget

theorem Consistent.insert_iff (h : runtime.Consistent) {deviceId : DeviceId} {bound : BoundDevice}
    (hinventory : runtime'.inventory = runtime.inventory)
    (hbindings : runtime'.bindings = runtime.bindings.insert deviceId bound) :
    runtime'.Consistent ↔ runtime.Lists deviceId bound.device := by
  constructor
  · intro hafter
    have hlisted := hafter deviceId bound (by rw [hbindings, BTreeMap.getElem?_insert_same])
    rwa [Lists, hinventory] at hlisted
  · intro hlisted other stored hget
    rw [Lists, hinventory]
    rw [hbindings, BTreeMap.getElem?_insert_eq] at hget
    split at hget
    · rename_i heq
      cases hget
      rw [heq]
      exact hlisted
    · exact h other stored hget

theorem Consistent.commitRefresh (h : runtime.Consistent) (discovery : DiscoveryRunReport)
    (mode : RefreshMode)
    (snapshot : InventorySnapshot) : (runtime.commitRefresh layout discovery mode snapshot).2.Consistent := by
  intro deviceId bound hget
  rw [commitRefresh_snd] at hget ⊢
  simp only [BTreeMap.eraseAll_getElem?] at hget
  split at hget
  · cases hget
  · rename_i hkept
    obtain ⟨previous, hprevious, hagrees⟩ := h deviceId bound hget
    rw [mem_givenUp, not_or] at hkept
    obtain ⟨hnotRemoved, hnotInvalidated⟩ := hkept
    cases hcurrent : snapshot.get deviceId with
    | none =>
      refine absurd (InventorySnapshot.mem_diff_removed.mpr ⟨?_, hcurrent⟩) hnotRemoved
      rw [hprevious]
      exact Option.some_ne_none previous
    | some current =>
      refine ⟨current, hcurrent, hagrees.trans ?_⟩
      by_cases heq : previous = current
      · rw [heq]
        exact .refl current
      · -- the device changed, and the commit did not invalidate its binding
        cases snapshot.get_id hcurrent
        have hchanged : (⟨previous, current⟩ : ChangedDevice) ∈ (runtime.inventory.diff snapshot).changed :=
          InventorySnapshot.mem_diff_changed.mpr ⟨hcurrent, hprevious, heq⟩
        have hrebind : ¬ runtime.bindingRequiresRebind ⟨previous, current⟩ = true :=
          fun hrebind => hnotInvalidated ⟨_, hchanged, rfl, hrebind⟩
        simp only [bindingRequiresRebind, hget] at hrebind
        split at hrebind
        · exact absurd rfl hrebind
        · rename_i hsame
          simp only [not_or, not_not] at hsame
          exact hsame

structure Emptied (runtime : Runtime) : Prop where
  bindings : runtime.bindings = ∅
  desired : runtime.desiredBindings = ∅
  states : runtime.states = ∅
  probeInventory : runtime.probeInventory = {}

theorem Emptied.absent (h : runtime.Emptied) (deviceId : DeviceId) : runtime.Absent deviceId where
  bindings := by
    rw [h.bindings]
    exact Std.ExtTreeMap.not_mem_empty
  desired := by
    rw [h.desired]
    exact Std.ExtTreeSet.not_mem_empty
  states := by
    rw [h.states]
    exact Std.ExtTreeMap.not_mem_empty

theorem emptied_of_absent (h : ∀ deviceId, runtime.Absent deviceId) (hindex : runtime.probeInventory = {}) :
    runtime.Emptied where
  bindings := Std.ExtTreeMap.eq_empty_iff_forall_not_mem.mpr fun deviceId => (h deviceId).bindings
  desired := Std.ExtTreeSet.eq_empty_iff_forall_not_mem.mpr fun deviceId => (h deviceId).desired
  states := Std.ExtTreeMap.eq_empty_iff_forall_not_mem.mpr fun deviceId => (h deviceId).states
  probeInventory := hindex

def StaysEmptied (runtime : Runtime) : Prop := runtime.running = false → runtime.Emptied

theorem emptied_shutdownDetached (runtime : Runtime) : runtime.shutdownDetached.2.Emptied :=
  ⟨rfl, rfl, rfl, rfl⟩

theorem Emptied.of_sameHoldings (h : runtime.Emptied) (hsame : SameHoldings runtime runtime') :
    runtime'.Emptied where
  bindings := hsame.bindings.trans h.bindings
  desired := hsame.desired.trans h.desired
  states := hsame.states.trans h.states
  probeInventory := hsame.probeInventory.trans h.probeInventory

end Runtime

structure PreparedBindingOutput.Named (deviceId : DeviceId) (output : PreparedBindingOutput) : Prop where
  device : output.bound.device.id = deviceId
  state : ∀ reported ∈ output.initialState, reported.deviceId = deviceId

def Runtime.Named (runtime : Runtime) : Prop :=
  ∀ (deviceId : DeviceId) (bound : BoundDevice), runtime.bindings[deviceId]? = some bound →
    bound.device.id = deviceId

variable {host : Host} {sys : System}

theorem PreparedBinding.bind_named (hhost : host.ReportsOwn) {prepared : PreparedBinding}
    {deviceId : DeviceId}
    {output : PreparedBindingOutput} {sys' : System} (h : prepared.bind host sys = (.ok output, sys'))
    (hid : prepared.descriptor.id = deviceId) : output.Named deviceId where
  device := by rw [(PreparedBinding.bind_ok h).1, hid]
  state := by
    rw [← hid]
    exact PreparedBinding.bind_reportsOwn hhost h

theorem System.reportState_named (hhost : host.ReportsOwn) {deviceId : DeviceId} {bound : BoundDevice}
    (hid : bound.device.id = deviceId) {snapshot : DeviceStateSnapshot} {reported : DeviceId}
    (h : (sys.reportState host reported bound).1 = .ok (some snapshot)) : snapshot.deviceId = deviceId := by
  unfold System.reportState System.callState at h
  cases hstate : host.state sys.calls bound with
  | error source =>
    rw [hstate] at h
    cases h
  | ok state =>
    rw [hstate] at h
    cases h
    rw [← hid]
    exact hhost _ _ snapshot hstate

theorem System.executeBound_state {request : DeviceRequest} {bound : BoundDevice} {cacheStateOnRequest : Bool}
    {interaction : InteractionResponse} {state : DeviceStateSnapshot} {sys' : System}
    (h : sys.executeBound host request bound cacheStateOnRequest = (.ok (interaction, some state), sys')) :
    cacheStateOnRequest = true ∧
      ∃ executed : System, (executed.reportState host request.deviceId bound).1 = .ok (some state) := by
  unfold System.executeBound at h
  split at h
  · cases h
  · rename_i executed hexecute
    cases cacheStateOnRequest with
    | false => cases h
    | true =>
      simp only [if_true] at h
      split at h
      · cases h
      · rename_i hreport
        cases h
        exact ⟨rfl, executed, by rw [hreport]⟩

end Lemnos
