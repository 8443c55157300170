import Lemnos.Discovery.Changes
import Lemnos.Runtime.Rebinding

namespace Lemnos

open Lemnos.Core Discovery Registry Library.OrderedMap

namespace Runtime

variable {runtime : Runtime} {next : InventorySnapshot} {deviceId : DeviceId} {bound : BoundDevice}

/-- The device of the instance is gone from the inventory, or it changed in what instances are opened for, or
it changed and is not the business of the instance's driver any more. -/
def Outdates (runtime : Runtime) (next : InventorySnapshot) (deviceId : DeviceId) (bound : BoundDevice) : Prop :=
  ∃ previous, runtime.inventory.get deviceId = some previous ∧
    (next.get deviceId = none ∨
      ∃ current, next.get deviceId = some current ∧ previous ≠ current ∧
        (¬previous.Agrees current ∨
          ∀ candidate, runtime.registry.resolve current = .ok candidate → candidate.driverId ≠ bound.driverId))

theorem bindingRequiresRebind_iff {changed : ChangedDevice}
    (hbound : runtime.bindings[changed.current.id]? = some bound) :
    runtime.bindingRequiresRebind changed = true ↔
      ¬changed.previous.Agrees changed.current ∨
        ∀ candidate, runtime.registry.resolve changed.current = .ok candidate →
          candidate.driverId ≠ bound.driverId := by
  have hagrees : changed.previous.Agrees changed.current ↔
      ¬(changed.previous.interface ≠ changed.current.interface ∨
        changed.previous.kind ≠ changed.current.kind ∨
        changed.previous.address ≠ changed.current.address ∨
        changed.previous.controlSurface ≠ changed.current.controlSurface) := by
    simp only [not_or, not_not]
    exact Iff.rfl
  simp only [bindingRequiresRebind, hbound, hagrees, not_not]
  split
  · rename_i hdiffers
    simp [hdiffers]
  · rename_i hsame
    cases hresolve : runtime.registry.resolve changed.current <;> simp [hsame]

theorem mem_givenUp_of_bound (hbound : runtime.bindings[deviceId]? = some bound) :
    deviceId ∈ runtime.givenUp next ↔ runtime.Outdates next deviceId bound := by
  rw [mem_givenUp, InventorySnapshot.mem_diff_removed]
  constructor
  · rintro (⟨hlisted, hgone⟩ | ⟨changed, hchanged, rfl, hrequires⟩)
    · obtain ⟨previous, hprevious⟩ := Option.ne_none_iff_exists'.mp hlisted
      exact ⟨previous, hprevious, .inl hgone⟩
    · obtain ⟨hcurrent, hprevious, hne⟩ := InventorySnapshot.mem_diff_changed.mp hchanged
      refine ⟨changed.previous, hprevious, .inr ⟨changed.current, hcurrent, hne, ?_⟩⟩
      exact (bindingRequiresRebind_iff hbound).mp hrequires
  · rintro ⟨previous, hprevious, hgone | ⟨current, hcurrent, hne, hrequires⟩⟩
    · left
      rw [hprevious]
      exact ⟨Option.some_ne_none previous, hgone⟩
    · right
      cases next.get_id hcurrent
      refine ⟨⟨previous, current⟩, InventorySnapshot.mem_diff_changed.mpr ⟨hcurrent, hprevious, hne⟩, rfl, ?_⟩
      exact (bindingRequiresRebind_iff hbound).mpr hrequires

theorem givenUp_nodup (runtime : Runtime) (next : InventorySnapshot) : (runtime.givenUp next).Nodup := by
  have hids := List.nodup_append.mp (InventorySnapshot.diff_ids_nodup runtime.inventory next)
  have hchanged := (List.nodup_append.mp hids.1).2.1
  refine List.nodup_append.mpr ⟨hids.2.1, hchanged.filter _, ?_⟩
  intro removed hremoved changed hmem
  have hpresent := List.mem_append_right ((runtime.inventory.diff next).added.map DeviceDescriptor.id)
    (List.mem_filter.mp hmem).1
  exact (hids.2.2 changed hpresent removed hremoved).symm

theorem mem_detachBindings {deviceIds : List DeviceId} (hnodup : deviceIds.Nodup) (runtime : Runtime)
    (detached : DetachedBoundDevice) : detached ∈ (detachBindings deviceIds runtime).1 ↔
      detached.deviceId ∈ deviceIds ∧ runtime.bindings[detached.deviceId]? = some detached.binding := by
  induction deviceIds generalizing runtime with
  | nil => simp [detachBindings]
  | cons first deviceIds ih =>
    obtain ⟨hfirst, hrest⟩ := List.nodup_cons.mp hnodup
    have htaken : detached ∈ (runtime.detachBinding first).1 ↔
        detached.deviceId = first ∧ runtime.bindings[detached.deviceId]? = some detached.binding := by
      simp only [detachBinding, takeBoundDevice, Option.mem_toList, Option.map_eq_some_iff]
      constructor
      · rintro ⟨binding, hget, rfl⟩
        exact ⟨rfl, hget⟩
      · rintro ⟨rfl, hget⟩
        exact ⟨detached.binding, hget, rfl⟩
    have hkept : (runtime.detachBinding first).2.bindings = runtime.bindings.erase first := rfl
    rw [detachBindings, List.mem_append, htaken, ih hrest, hkept, BTreeMap.getElem?_erase_eq_some,
      List.mem_cons]
    constructor
    · rintro (⟨heq, hget⟩ | ⟨hmem, -, hget⟩)
      · exact ⟨.inl heq, hget⟩
      · exact ⟨.inr hmem, hget⟩
    · rintro ⟨heq | hmem, hget⟩
      · exact .inl ⟨heq, hget⟩
      · refine .inr ⟨hmem, ?_, hget⟩
        rintro rfl
        exact hfirst hmem

theorem detachBindings_ids_sublist (deviceIds : List DeviceId) (runtime : Runtime) :
    ((detachBindings deviceIds runtime).1.map DetachedBoundDevice.deviceId).Sublist deviceIds := by
  induction deviceIds generalizing runtime with
  | nil => exact .refl _
  | cons first deviceIds ih =>
    have hrest := ih (runtime.detachBinding first).2
    rw [detachBindings, List.map_append]
    cases hget : runtime.bindings[first]? with
    | none =>
      simp only [detachBinding, takeBoundDevice, hget, Option.map_none, Option.toList_none, List.map_nil,
        List.nil_append]
      exact hrest.cons first
    | some binding =>
      simp only [detachBinding, takeBoundDevice, hget, Option.map_some, Option.toList_some, List.map_cons,
        List.map_nil, List.singleton_append]
      exact hrest.cons_cons first

theorem commitRefresh_detached (layout : Layout) (runtime : Runtime) (discovery : DiscoveryRunReport)
    (mode : RefreshMode) (next : InventorySnapshot) :
    (runtime.commitRefresh layout discovery mode next).1.detached =
      (detachBindings (runtime.givenUp next)
        (runtime.recordInventoryEvents layout (runtime.inventory.diff next))).1 := rfl

theorem mem_commitRefresh_detached {layout : Layout} {discovery : DiscoveryRunReport} {mode : RefreshMode}
    (detached : DetachedBoundDevice) :
    detached ∈ (runtime.commitRefresh layout discovery mode next).1.detached ↔
      runtime.bindings[detached.deviceId]? = some detached.binding ∧
        runtime.Outdates next detached.deviceId detached.binding := by
  rw [commitRefresh_detached, mem_detachBindings (givenUp_nodup runtime next), recordInventoryEvents_bindings,
    and_comm]
  exact and_congr_right mem_givenUp_of_bound

end Runtime

namespace System

variable {host : Host} {sys : System}

def ClosesNothing (before after : System) : Prop :=
  ∃ later, after.calls = before.calls ++ later ∧ ∀ handle, .close handle ∉ later

theorem ClosesNothing.refl (sys : System) : sys.ClosesNothing sys := ⟨[], by simp, by simp⟩

theorem ClosesNothing.trans {sys₁ sys₂ sys₃ : System} (h : sys₁.ClosesNothing sys₂)
    (h' : sys₂.ClosesNothing sys₃) : sys₁.ClosesNothing sys₃ := by
  obtain ⟨first, hcalls, hfirst⟩ := h
  obtain ⟨second, hcalls', hsecond⟩ := h'
  refine ⟨first ++ second, by rw [hcalls', hcalls, List.append_assoc], ?_⟩
  intro handle hmem
  rcases List.mem_append.mp hmem with hmem | hmem
  · exact hfirst handle hmem
  · exact hsecond handle hmem

theorem bind_closesNothing (prepared : PreparedBinding) :
    sys.ClosesNothing (prepared.bind host sys).2 := by
  rcases prepared.bind_cases host sys with
    ⟨error, h⟩ | ⟨error, h⟩ | ⟨driverId, initialState, reads, h, rfl | rfl, -⟩
  · rw [h]
    exact ⟨_, rfl, by simp⟩
  · rw [h]
    exact ⟨_, rfl, by simp [PreparedBinding.openCall]⟩
  · rw [h]
    exact ⟨_, rfl, by simp [PreparedBinding.openCall]⟩
  · rw [h]
    exact ⟨_, rfl, by simp [PreparedBinding.openCall]⟩

theorem bindDeviceById_closesNothing (deviceId : DeviceId) :
    sys.ClosesNothing (sys.bindDeviceById host deviceId).2 := by
  rcases sys.bindDeviceById_cases host deviceId with
    ⟨result, h, -⟩ | ⟨descriptor, prepared, -, -, -, -, ⟨error, sys', hb, h⟩ | ⟨output, sys', hb, h⟩⟩
  · rw [h]
    exact .refl sys
  all_goals
    have hbind := @bind_closesNothing host sys prepared
    rw [hb] at hbind
    rw [h]
    exact hbind

theorem rebindTrackedDevices_closesNothing (deviceIds : List DeviceId) :
    sys.ClosesNothing (rebindTrackedDevices host deviceIds sys).2 := by
  induction deviceIds generalizing sys with
  | nil => exact .refl sys
  | cons deviceId deviceIds ih =>
    rw [rebindTrackedDevices_snd]
    have hcomplete : ∀ result : RuntimeResult Unit, ∀ sys' : System,
        sys'.ClosesNothing (sys'.completeOperation host deviceId .rebind result) := by
      intro result sys'
      refine ⟨clockReads result, rfl, ?_⟩
      cases result <;> simp [clockReads]
    exact (bindDeviceById_closesNothing deviceId).trans ((hcomplete _ _).trans ih)

theorem rebindTrackedDevices_attempted (deviceIds : List DeviceId) :
    (rebindTrackedDevices host deviceIds sys).1.attempted = deviceIds := by
  induction deviceIds generalizing sys with
  | nil => rfl
  | cons deviceId deviceIds ih =>
    simp only [rebindTrackedDevices]
    split <;> exact congrArg (deviceId :: ·) ih

theorem rebindTrackedDevices_partition (deviceIds : List DeviceId) :
    let report := (rebindTrackedDevices host deviceIds sys).1
    (report.rebound ++ report.failed).Perm deviceIds := by
  induction deviceIds generalizing sys with
  | nil => exact .refl _
  | cons deviceId deviceIds ih =>
    have hrest := @ih (sys.rebindTrackedDevice host deviceId).2
    simp only [rebindTrackedDevices]
    split
    · exact hrest.cons deviceId
    · exact List.perm_middle.trans (hrest.cons deviceId)

/-- The device is new in the inventory, or it changed and has no instance that outlived the change. -/
def NeedsBinding (sys : System) (next : InventorySnapshot) (deviceId : DeviceId) : Prop :=
  ∃ current, next.get deviceId = some current ∧
    (sys.runtime.inventory.get deviceId = none ∨
      ∃ previous, sys.runtime.inventory.get deviceId = some previous ∧ previous ≠ current ∧
        ∀ bound, sys.runtime.bindings[deviceId]? = some bound → sys.runtime.Outdates next deviceId bound)

def Reached (host : Host) (sys : System) : Prop :=
  ∃ config ops, sys = runOps host ops { runtime := { config } }

/-- What a successful refresh did to the instances: which it closed, which devices it tried to bind again, how
it reports on these, and what it left alone. -/
structure RebindsExactly (host : Host) (sys : System) (report : RuntimeRefreshReport) (sys' : System) :
    Prop where
  closed : ∃ detached : List DetachedBoundDevice, ∃ later : List HostCall,
    sys'.calls = sys.calls ++ detached.map (fun detached => .close detached.binding.handle) ++ later ∧
      (∀ handle, .close handle ∉ later) ∧ (detached.map DetachedBoundDevice.deviceId).Nodup ∧
      ∀ entry, entry ∈ detached ↔ sys.runtime.bindings[entry.deviceId]? = some entry.binding ∧
        sys.runtime.Outdates sys'.runtime.inventory entry.deviceId entry.binding
  attempted : sys.runtime.config.autoRebindOnRefresh = true → ∀ deviceId,
    deviceId ∈ report.rebinds.attempted ↔
      deviceId ∈ sys.runtime.desiredBindings ∧ sys.NeedsBinding sys'.runtime.inventory deviceId
  ordered : report.rebinds.attempted.Pairwise (fun first second => compare first second = .lt)
  partitioned : (report.rebinds.rebound ++ report.rebinds.failed).Perm report.rebinds.attempted
  kept : ∀ deviceId bound, sys.runtime.bindings[deviceId]? = some bound →
    ¬sys.runtime.Outdates sys'.runtime.inventory deviceId bound → deviceId ∉ report.rebinds.attempted →
      sys'.runtime.bindings[deviceId]? = some bound ∧
        sys'.runtime.failures[deviceId]? = sys.runtime.failures[deviceId]? ∧
        (host.ReportsOwn → sys'.runtime.states[deviceId]? = sys.runtime.states[deviceId]?)
  spared : sys.Reached host → ∀ deviceId bound, sys.runtime.bindings[deviceId]? = some bound →
    ¬sys.runtime.Outdates sys'.runtime.inventory deviceId bound → deviceId ∉ report.rebinds.attempted

theorem mem_rebindTargets_iff (hauto : sys.runtime.config.autoRebindOnRefresh = true)
    (next : InventorySnapshot) (deviceId : DeviceId) : deviceId ∈ sys.rebindTargets next ↔
      deviceId ∈ sys.runtime.desiredBindings ∧ sys.NeedsBinding next deviceId := by
  rw [rebindTargets, Runtime.mem_collectRebindTargets, and_iff_right hauto]
  apply and_congr_right
  intro _
  constructor
  · rintro (hadded | ⟨hchanged, hfree⟩)
    · obtain ⟨device, hdevice, rfl⟩ := List.mem_map.mp hadded
      obtain ⟨hnext, hnew⟩ := InventorySnapshot.mem_diff_added.mp hdevice
      exact ⟨device, hnext, .inl hnew⟩
    · obtain ⟨changed, hmem, rfl⟩ := List.mem_map.mp hchanged
      obtain ⟨hnext, hprevious, hne⟩ := InventorySnapshot.mem_diff_changed.mp hmem
      refine ⟨changed.current, hnext, .inr ⟨changed.previous, hprevious, hne, ?_⟩⟩
      intro bound hbound
      rcases hfree with hinvalid | hunbound
      · obtain ⟨other, hother, hrequires, hid⟩ := (sys.runtime.mem_collectInvalidatedBindings _ _).mp hinvalid
        exact (Runtime.mem_givenUp_of_bound hbound).mp
          ((sys.runtime.mem_givenUp next _).mpr (.inr ⟨other, hother, hid, hrequires⟩))
      · exact absurd ((BTreeMap.mem_iff_exists _ _).mpr ⟨bound, hbound⟩) hunbound
  · rintro ⟨current, hcurrent, hnew | ⟨previous, hprevious, hne, hfree⟩⟩
    · cases next.get_id hcurrent
      exact .inl (List.mem_map_of_mem (InventorySnapshot.mem_diff_added.mpr ⟨hcurrent, hnew⟩))
    · cases next.get_id hcurrent
      have hchanged : (⟨previous, current⟩ : ChangedDevice) ∈ (sys.runtime.inventory.diff next).changed :=
        InventorySnapshot.mem_diff_changed.mpr ⟨hcurrent, hprevious, hne⟩
      refine .inr ⟨List.mem_map.mpr ⟨_, hchanged, rfl⟩, ?_⟩
      cases hbound : sys.runtime.bindings[current.id]? with
      | none => exact .inr ((BTreeMap.not_mem_iff _ _).mpr hbound)
      | some bound =>
        left
        have hgiven := (Runtime.mem_givenUp_of_bound hbound).mpr (hfree bound hbound)
        rcases (sys.runtime.mem_givenUp next _).mp hgiven with hremoved | ⟨other, hother, hid, hrequires⟩
        · have hgone := (InventorySnapshot.mem_diff_removed.mp hremoved).2
          rw [hcurrent] at hgone
          cases hgone
        · exact (sys.runtime.mem_collectInvalidatedBindings _ _).mpr ⟨other, hother, hrequires, hid⟩

theorem rebindTargets_ordered (next : InventorySnapshot) :
    (sys.rebindTargets next).Pairwise (fun first second => compare first second = .lt) := by
  unfold rebindTargets Runtime.collectRebindTargets
  split
  · exact List.Pairwise.nil
  · exact Std.ExtTreeSet.ordered_toList

theorem bindDeviceById_consistent (h : sys.runtime.Consistent) (deviceId : DeviceId) :
    (sys.bindDeviceById host deviceId).2.runtime.Consistent := by
  intro other bound hget
  rw [Runtime.Lists, (sys.bindDeviceById_sameDiscovery host deviceId).inventory]
  rcases bindDeviceById_binding host sys deviceId hget with hbefore | hlisted
  · exact h other bound hbefore
  · exact ⟨bound.device, hlisted, .refl _⟩

theorem rebindTrackedDevices_consistent (h : sys.runtime.Consistent) (deviceIds : List DeviceId) :
    (rebindTrackedDevices host deviceIds sys).2.runtime.Consistent := by
  intro other bound hget
  rw [Runtime.Lists, (sys.rebindTrackedDevices_sameDiscovery host deviceIds).inventory]
  rcases rebindTrackedDevices_binding host deviceIds hget with hbefore | hlisted
  · exact h other bound hbefore
  · exact ⟨bound.device, hlisted, .refl _⟩

theorem completeOperation_consistent {α : Type} (h : sys.runtime.Consistent) (deviceId : DeviceId)
    (operation : RuntimeFailureOperation) (result : RuntimeResult α) :
    (sys.completeOperation host deviceId operation result).runtime.Consistent :=
  h.congr rfl rfl

theorem markDesired_consistent {α : Type} (h : sys.runtime.Consistent) (deviceId : DeviceId)
    (result : RuntimeResult α) : (sys.markDesired deviceId result).runtime.Consistent := by
  cases result with
  | error error => exact h
  | ok value => exact h.congr rfl rfl

theorem requestInner_consistent (h : sys.runtime.Consistent) (request : DeviceRequest) :
    (sys.requestInner host request).2.runtime.Consistent := by
  have hprepared : (sys.prepareRequestBinding host request).2.runtime.Consistent := by
    rcases sys.prepareRequestBinding_snd host request with hsame | ⟨device, hlisted, hbind⟩
    · rw [hsame]
      exact h
    · rw [hbind, ← bindDeviceById_eq hlisted]
      exact bindDeviceById_consistent h request.deviceId
  rcases sys.requestInner_cases host request with ⟨hsame, -⟩ | ⟨bound, interaction, state, sys', -, -, hafter⟩
  · rw [hsame]
    exact hprepared
  · rw [hafter]
    exact hprepared.congr (by simp) (by simp)

theorem finishRefresh_consistent (h : sys.runtime.Consistent) (discovery : DiscoveryRunReport)
    (mode : RefreshMode) : (sys.finishRefresh host discovery mode).2.runtime.Consistent := by
  by_cases hcommit : sys.runtime.running = true ∧
      ∃ snapshot, sys.runtime.nextInventory discovery mode = .ok snapshot
  · obtain ⟨hr, snapshot, hn⟩ := hcommit
    rw [finishRefresh_of_nextInventory hr hn]
    apply rebindTrackedDevices_consistent
    rw [afterCommit_runtime]
    exact h.commitRefresh discovery mode snapshot
  · rw [finishRefresh_uncommitted hcommit]
    exact h

theorem exec_consistent (h : sys.runtime.Consistent) (op : RuntimeOp) :
    (sys.exec host op).runtime.Consistent := by
  by_cases hcontrol : op.isControl = true
  · rcases sys.exec_control_cases host hcontrol with hshut | ⟨hsame, -⟩
    · exact .of_unbound (by rw [hshut, Runtime.shutdownDetached_bindings])
    · exact h.congr hsame.inventory hsame.bindings
  · by_cases hrefresh : op.isRefresh = true
    · rw [exec_refresh hrefresh]
      cases sys.discoveryOf host op with
      | none => exact h
      | some run => exact finishRefresh_consistent h run.1 run.2
    · cases op with
      | bind deviceId =>
        have hbind := @bindDeviceById_consistent host sys h deviceId
        exact markDesired_consistent (completeOperation_consistent hbind deviceId .bind _) deviceId _
      | unbind deviceId =>
        intro other bound hget
        rw [exec, unbind, closeDetachedBindings_runtime] at hget ⊢
        exact h other bound ((BTreeMap.getElem?_erase_eq_some _).mp hget).2
      | refreshState deviceId =>
        rcases sys.refreshState_cases host deviceId with
          hsame | hcleared | ⟨bound, result, sys', -, -, hread, hafter⟩
        · exact h.congr (by rw [exec, hsame]) (by rw [exec, hsame])
        · exact h.congr (by rw [exec, hcleared]; rfl) (by rw [exec, hcleared]; rfl)
        · refine h.congr ?_ ?_ <;> simp [exec, hafter, completeOperation, hread]
      | request request =>
        have hinner := @requestInner_consistent host sys h request
        simp only [exec, System.request]
        have hcomplete := @completeOperation_consistent host _ _ hinner request.deviceId .request
          (sys.requestInner host request).1
        split
        · exact hcomplete
        · exact markDesired_consistent hcomplete request.deviceId _
      | refresh | pollWatcher => exact absurd rfl hrefresh
      | _ => exact absurd rfl hcontrol

theorem Reached.consistent (h : sys.Reached host) : sys.runtime.Consistent := by
  obtain ⟨config, ops, rfl⟩ := h
  exact runOps_invariant (p := fun sys => sys.runtime.Consistent) host
    (fun _ op hbefore => exec_consistent hbefore op) ops _ (.of_unbound rfl)

section Committed

variable (discovery : DiscoveryRunReport) (mode : RefreshMode) (next : InventorySnapshot)

theorem rebound_inventory (deviceIds : List DeviceId) : (rebindTrackedDevices host deviceIds
    (sys.afterCommit host discovery mode next)).2.runtime.inventory = next := by
  rw [((sys.afterCommit host discovery mode next).rebindTrackedDevices_sameDiscovery host _).inventory,
    afterCommit_runtime, Runtime.commitRefresh_snd]

theorem rebound_closed (deviceIds : List DeviceId) :
    ∃ detached : List DetachedBoundDevice, ∃ later : List HostCall,
      (rebindTrackedDevices host deviceIds (sys.afterCommit host discovery mode next)).2.calls =
        sys.calls ++ detached.map (fun detached => .close detached.binding.handle) ++ later ∧
      (∀ handle, .close handle ∉ later) ∧ (detached.map DetachedBoundDevice.deviceId).Nodup ∧
      ∀ entry, entry ∈ detached ↔ sys.runtime.bindings[entry.deviceId]? = some entry.binding ∧
        sys.runtime.Outdates next entry.deviceId entry.binding := by
  obtain ⟨later, hcalls, hnone⟩ := @rebindTrackedDevices_closesNothing host
    (sys.afterCommit host discovery mode next) deviceIds
  refine ⟨(sys.runtime.commitRefresh host.layout discovery mode next).1.detached, later, ?_, hnone, ?_,
    Runtime.mem_commitRefresh_detached⟩
  · rw [hcalls, afterCommit, closeDetachedBindings_calls]
    rfl
  · rw [Runtime.commitRefresh_detached]
    exact (Runtime.detachBindings_ids_sublist _ _).nodup (Runtime.givenUp_nodup _ _)

variable {next} {deviceId : DeviceId} {bound : BoundDevice} {deviceIds : List DeviceId}

theorem rebound_kept (hbound : sys.runtime.bindings[deviceId]? = some bound)
    (hfresh : ¬sys.runtime.Outdates next deviceId bound) (hother : deviceId ∉ deviceIds) :
    (rebindTrackedDevices host deviceIds
        (sys.afterCommit host discovery mode next)).2.runtime.bindings[deviceId]? = some bound ∧
      (rebindTrackedDevices host deviceIds
        (sys.afterCommit host discovery mode next)).2.runtime.failures[deviceId]? =
          sys.runtime.failures[deviceId]? ∧
      (host.ReportsOwn → (rebindTrackedDevices host deviceIds
        (sys.afterCommit host discovery mode next)).2.runtime.states[deviceId]? =
          sys.runtime.states[deviceId]?) := by
  have hkept : deviceId ∉ sys.runtime.givenUp next := mt (Runtime.mem_givenUp_of_bound hbound).mp hfresh
  obtain ⟨hbindings, -, hfailures⟩ :=
    (sys.afterCommit host discovery mode next).rebindTrackedDevices_other host hother
  rw [afterCommit_runtime, Runtime.commitRefresh_snd] at hbindings hfailures
  simp only [BTreeMap.eraseAll_getElem?, if_neg hkept] at hbindings hfailures
  refine ⟨hbindings.trans hbound, hfailures, ?_⟩
  intro hhost
  have hstates := (rebindTrackedDevices_sameEntries (sys.afterCommit host discovery mode next) hhost _
    hother).states
  rw [afterCommit_runtime, Runtime.commitRefresh_snd] at hstates
  simpa only [BTreeMap.eraseAll_getElem?, if_neg hkept] using hstates

end Committed

theorem Reached.not_mem_rebindTargets (h : sys.Reached host) {next : InventorySnapshot} {deviceId : DeviceId}
    {bound : BoundDevice} (hbound : sys.runtime.bindings[deviceId]? = some bound)
    (hfresh : ¬sys.runtime.Outdates next deviceId bound) : deviceId ∉ sys.rebindTargets next := by
  intro hattempted
  have hauto := ((sys.runtime.mem_collectRebindTargets _ _ deviceId).mp hattempted).1
  obtain ⟨-, current, -, hnew | ⟨previous, -, -, hgone⟩⟩ := (mem_rebindTargets_iff hauto next _).mp hattempted
  · obtain ⟨listed, hlisted, -⟩ := h.consistent deviceId bound hbound
    rw [hnew] at hlisted
    cases hlisted
  · exact hfresh (hgone bound hbound)

theorem finishRefresh_rebindsExactly {discovery : DiscoveryRunReport} {mode : RefreshMode}
    {report : RuntimeRefreshReport} {sys' : System}
    (h : sys.finishRefresh host discovery mode = (.ok report, sys')) : RebindsExactly host sys report sys' := by
  cases hprepare : sys.runtime.prepareRefreshCommit host.layout discovery mode with
  | error error =>
    rw [finishRefresh_of_error hprepare] at h
    cases h
  | ok committed =>
    obtain ⟨hr, next, hn, -⟩ := Runtime.prepareRefreshCommit_ok hprepare
    rw [finishRefresh_of_nextInventory hr hn] at h
    cases h
    have hinventory := @rebound_inventory host sys discovery mode next (sys.rebindTargets next)
    refine ⟨?_, ?_, ?_, ?_, ?_, ?_⟩
    · rw [hinventory]
      exact rebound_closed discovery mode next _
    · intro hauto deviceId
      rw [hinventory, rebindTrackedDevices_attempted]
      exact mem_rebindTargets_iff hauto next deviceId
    · rw [rebindTrackedDevices_attempted]
      exact rebindTargets_ordered next
    · rw [rebindTrackedDevices_attempted]
      exact rebindTrackedDevices_partition _
    · intro deviceId bound hbound hfresh hother
      rw [hinventory] at hfresh
      rw [rebindTrackedDevices_attempted] at hother
      exact rebound_kept discovery mode hbound hfresh hother
    · intro hreached deviceId bound hbound hfresh
      rw [hinventory] at hfresh
      rw [rebindTrackedDevices_attempted]
      exact hreached.not_mem_rebindTargets hbound hfresh

theorem refreshWithMode_ok {context : DiscoveryContext} {probes : List DiscoveryProbe} {mode : RefreshMode}
    {report : RuntimeRefreshReport} {sys' : System}
    (h : sys.refreshWithMode host context probes mode = (.ok report, sys')) :
    ∃ discovery, sys.finishRefresh host discovery mode = (.ok report, sys') := by
  unfold refreshWithMode at h
  split at h
  · cases h
  · split at h
    · cases h
    · exact ⟨_, h⟩

theorem handleWatchEvents_ok {context : DiscoveryContext} {probes : List DiscoveryProbe}
    {watchEvents : List InventoryWatchEvent} {mode : RefreshMode} {report : RuntimeWatchedRefreshReport}
    {sys' : System}
    (h : sys.handleWatchEventsAndRefreshWithMode host context probes watchEvents mode =
      (.ok (some report), sys')) :
    ∃ discovery, sys.finishRefresh host discovery mode = (.ok report.refresh, sys') := by
  unfold handleWatchEventsAndRefreshWithMode at h
  split at h
  · cases h
  · split at h
    · cases h
    · split at h
      · cases h
      · rename_i discovery _
        unfold finishWatchRefresh at h
        cases hfinish : sys.finishRefresh host discovery mode with
        | mk result after =>
          rw [hfinish] at h
          cases result with
          | error error => cases h
          | ok refresh =>
            cases h
            exact ⟨discovery, hfinish⟩

theorem refresh_rebinds_exactly (host : Host) (sys : System) (context : DiscoveryContext)
    (probes : List DiscoveryProbe) (mode : RefreshMode) :
    (∀ report sys', sys.refreshWithMode host context probes mode = (.ok report, sys') →
      RebindsExactly host sys report sys') ∧
    ∀ watchEvents report sys',
      sys.handleWatchEventsAndRefreshWithMode host context probes watchEvents mode =
        (.ok (some report), sys') → RebindsExactly host sys report.refresh sys' := by
  constructor
  · intro report sys' h
    obtain ⟨discovery, hfinish⟩ := refreshWithMode_ok h
    exact finishRefresh_rebindsExactly hfinish
  · intro watchEvents report sys' h
    obtain ⟨discovery, hfinish⟩ := handleWatchEvents_ok h
    exact finishRefresh_rebindsExactly hfinish

theorem refresh_rebinds_exactly_classLine : ∃ report sys',
    (System.runOps .quiet bindLine {}).refreshWithMode .quiet {} [gpioProbe [classLine]] .incremental =
        (.ok report, sys') ∧
      report.rebinds.rebound = [gpioLine] ∧
      RebindsExactly .quiet (System.runOps .quiet bindLine {}) report sys' :=
  ⟨_, _, rfl, by decide, (refresh_rebinds_exactly .quiet (System.runOps .quiet bindLine {}) {}
    [gpioProbe [classLine]] .incremental).1 _ _ rfl⟩

/-- Its instances all report under the sensor's id: healthy if opened for the sensor itself. -/
def crossedHost : Host :=
  { Host.quiet with state := fun _ bound => .ok (some
      { deviceId := i2cSensor, health := if bound.device.id = i2cSensor then .healthy else .degraded }) }

theorem refresh_recaches_kept_device : ∃ bound report sys',
    (runOps crossedHost bindBoth {}).refreshWithMode crossedHost {} [gpioProbe [classLine], sensorProbe] .full =
        (.ok report, sys') ∧
      report.rebinds.attempted = [gpioLine] ∧
      (runOps crossedHost bindBoth {}).runtime.bindings[i2cSensor]? = some bound ∧
      sys'.runtime.bindings[i2cSensor]? = some bound ∧
      ¬(runOps crossedHost bindBoth {}).runtime.Outdates sys'.runtime.inventory i2cSensor bound ∧
      (runOps crossedHost bindBoth {}).runtime.states[i2cSensor]?.map DeviceStateSnapshot.health = some .healthy ∧
      sys'.runtime.states[i2cSensor]?.map DeviceStateSnapshot.health = some .degraded := by
  refine ⟨_, _, _, rfl, by decide, rfl, by decide, ?_, by decide, by decide⟩
  rintro ⟨previous, hprevious, hgone | ⟨current, hcurrent, hne, -⟩⟩
  · revert hgone
    decide
  · cases hprevious
    cases hcurrent
    exact hne rfl

end System

end Lemnos
