import Lemnos.Runtime.Ops

namespace Lemnos

open Lemnos.Core Discovery Registry Library.OrderedMap

namespace HostCall

def opens : HostCall → Bool
  | .bind _ _ opened => opened
  | _ => false

def uses (handle : ℕ) : HostCall → Bool
  | .execute used | .state used _ _ => used = handle
  | _ => false

/-- The call ends the hold on an instance: it is closed, or given up because its first state call failed. -/
def ends (handle : ℕ) : HostCall → Bool
  | .close closed => closed = handle
  | .state failed true false => failed = handle
  | _ => false

def reuses (earlier later : HostCall) : Bool :=
  match earlier with
  | .close handle => later.uses handle
  | _ => false

end HostCall

def isOpened (calls : List HostCall) (handle : ℕ) : Bool :=
  calls[handle]?.any HostCall.opens

def dropped (handle : ℕ) : HostCall := .state handle true false

def Orderly (calls : List HostCall) : Prop :=
  calls.Pairwise (fun earlier later => earlier.reuses later = false)

instance (calls : List HostCall) : Decidable (Orderly calls) :=
  inferInstanceAs (Decidable (calls.Pairwise (fun earlier later => earlier.reuses later = false)))

def Runtime.boundHandles (runtime : Runtime) : List ℕ :=
  runtime.bindings.toList.map (fun entry => entry.2.handle)

/-- Every opened instance is bound once, or loose once, or closed once, or dropped once, and nothing else
is. If orderly, no instance is used after its close. -/
structure Custody (orderly : Prop) (sys : System) (loose : List ℕ) : Prop where
  balanced : ∀ handle, sys.runtime.boundHandles.count handle + loose.count handle +
    sys.calls.count (.close handle) + sys.calls.count (dropped handle) = (isOpened sys.calls handle).toNat
  ordered : orderly → Orderly sys.calls

theorem isOpened_append_singleton (calls : List HostCall) (call : HostCall) (handle : ℕ) :
    isOpened (calls ++ [call]) handle =
      (isOpened calls handle || (decide (handle = calls.length) && call.opens)) := by
  unfold isOpened
  rcases Nat.lt_trichotomy handle calls.length with hlt | heq | hgt
  · rw [List.getElem?_append_left hlt]
    simp [Nat.ne_of_lt hlt]
  · subst heq
    simp
  · rw [List.getElem?_eq_none (by simp; omega), List.getElem?_eq_none (Nat.le_of_lt hgt)]
    simp [Nat.ne_of_gt hgt]

theorem isOpened_length (calls : List HostCall) : isOpened calls calls.length = false := by
  simp [isOpened]

theorem orderly_append_singleton (calls : List HostCall) (call : HostCall) :
    Orderly (calls ++ [call]) ↔
      Orderly calls ∧ ∀ handle, .close handle ∈ calls → call.uses handle = false := by
  unfold Orderly
  rw [List.pairwise_append]
  constructor
  · rintro ⟨hcalls, -, hlast⟩
    exact ⟨hcalls, fun handle hclosed => hlast _ hclosed call List.mem_cons_self⟩
  · rintro ⟨hcalls, hlast⟩
    refine ⟨hcalls, List.pairwise_singleton _ _, ?_⟩
    intro earlier hearlier later hlater
    cases List.mem_singleton.mp hlater
    cases earlier with
    | close handle => exact hlast handle hearlier
    | _ => rfl

namespace Custody

variable {orderly : Prop} {sys : System} {loose : List ℕ}

theorem empty (orderly : Prop) (config : RuntimeConfig) : Custody orderly { runtime := { config } } [] where
  balanced := fun handle => by simp [Runtime.boundHandles, isOpened, BTreeMap.toList_empty]
  ordered := fun _ => List.Pairwise.nil

theorem congr (h : Custody orderly sys loose) {sys' : System} {loose' : List ℕ}
    (hcalls : sys'.calls = sys.calls) (hbound : sys'.runtime.bindings = sys.runtime.bindings)
    (hloose : ∀ handle, loose'.count handle = loose.count handle) : Custody orderly sys' loose' where
  balanced := by
    intro handle
    have hbalanced := h.balanced handle
    rw [hcalls, hloose, Runtime.boundHandles, hbound]
    exact hbalanced
  ordered := by
    rw [hcalls]
    exact h.ordered

theorem not_closed (h : Custody orderly sys loose) {handle : ℕ}
    (hheld : handle ∈ sys.runtime.boundHandles ∨ handle ∈ loose) : .close handle ∉ sys.calls := by
  intro hclosed
  have hbalanced := h.balanced handle
  have hone := Bool.toNat_le (isOpened sys.calls handle)
  have hcount := List.count_pos_iff.mpr hclosed
  rcases hheld with hbound | hloose
  · have hheld := List.count_pos_iff.mpr hbound
    omega
  · have hheld := List.count_pos_iff.mpr hloose
    omega

theorem unopened (h : Custody orderly sys loose) {handle : ℕ} (ho : isOpened sys.calls handle = false) :
    sys.runtime.boundHandles.count handle = 0 ∧ loose.count handle = 0 ∧
      sys.calls.count (.close handle) = 0 ∧ sys.calls.count (dropped handle) = 0 := by
  have hbalanced := h.balanced handle
  rw [ho] at hbalanced
  simp only [Bool.toNat_false] at hbalanced
  omega

theorem call (h : Custody orderly sys loose) (call : HostCall) (hopens : call.opens = false)
    (hends : ∀ handle, call.ends handle = false)
    (huses : orderly → ∀ handle, .close handle ∈ sys.calls → call.uses handle = false) :
    Custody orderly { sys with calls := sys.calls ++ [call] } loose where
  balanced := by
    intro handle
    have hbalanced := h.balanced handle
    have hclose : call ≠ .close handle := by
      rintro rfl
      have hend := hends handle
      simp [HostCall.ends] at hend
    have hdrop : call ≠ dropped handle := by
      rintro rfl
      have hend := hends handle
      simp [dropped, HostCall.ends] at hend
    simp only [List.count_append, List.count_singleton, beq_iff_eq, hclose, hdrop, if_false, Nat.add_zero,
      isOpened_append_singleton, hopens, Bool.and_false, Bool.or_false]
    exact hbalanced
  ordered := fun ho => (orderly_append_singleton _ _).mpr ⟨h.ordered ho, huses ho⟩

theorem close {handle : ℕ} (h : Custody orderly sys (handle :: loose)) :
    Custody orderly (sys.callClose handle) loose where
  balanced := by
    intro other
    have hbalanced := h.balanced other
    have hdrop : HostCall.close handle ≠ dropped other := by simp [dropped]
    simp only [System.callClose, List.count_append, List.count_singleton, beq_iff_eq, hdrop, if_false,
      Nat.add_zero, isOpened_append_singleton, HostCall.opens, Bool.and_false, Bool.or_false,
      HostCall.close.injEq]
    rw [List.count_cons] at hbalanced
    simp only [beq_iff_eq] at hbalanced
    omega
  ordered := by
    intro ho
    exact (orderly_append_singleton _ _).mpr ⟨h.ordered ho, fun _ _ => rfl⟩

theorem opened (h : Custody orderly sys loose) (driverId : String) (device : DeviceDescriptor) :
    Custody orderly { sys with calls := sys.calls ++ [.bind driverId device true] }
      (sys.calls.length :: loose) where
  balanced := by
    intro handle
    have hbalanced := h.balanced handle
    simp only [List.count_append, beq_iff_eq, reduceCtorEq, dropped, if_false, List.count_nil,
      Nat.add_zero, isOpened_append_singleton, HostCall.opens, Bool.and_true, List.count_cons]
    by_cases heq : handle = sys.calls.length
    · have hnew : isOpened sys.calls handle = false := by
        rw [heq]
        exact isOpened_length _
      obtain ⟨hb, hl, hc, hd⟩ := h.unopened hnew
      rw [dropped] at hd
      simp [heq] at hb hl hc hd ⊢
      omega
    · simp only [heq, Ne.symm heq, decide_false, Bool.or_false, if_false, Nat.add_zero]
      exact hbalanced
  ordered := by
    intro ho
    exact (orderly_append_singleton _ _).mpr ⟨h.ordered ho, fun _ _ => rfl⟩

theorem drop {handle : ℕ} (h : Custody orderly sys (handle :: loose)) :
    Custody orderly { sys with calls := sys.calls ++ [dropped handle] } loose where
  balanced := by
    intro other
    have hbalanced := h.balanced other
    simp only [List.count_append, List.count_singleton, beq_iff_eq, reduceCtorEq, if_false, Nat.add_zero,
      isOpened_append_singleton, dropped, HostCall.opens, Bool.and_false, Bool.or_false,
      HostCall.state.injEq, and_true]
    rw [List.count_cons] at hbalanced
    simp only [beq_iff_eq, dropped] at hbalanced
    omega
  ordered := by
    intro ho
    refine (orderly_append_singleton _ _).mpr ⟨h.ordered ho, ?_⟩
    intro other hclosed
    have hne : other ≠ handle := by
      rintro rfl
      exact h.not_closed (.inr List.mem_cons_self) hclosed
    simp [dropped, HostCall.uses, Ne.symm hne]

theorem setRuntime (h : Custody orderly sys loose) {runtime : Runtime}
    (hbound : runtime.bindings = sys.runtime.bindings) : Custody orderly (sys.setRuntime runtime) loose :=
  h.congr rfl hbound (fun _ => rfl)

theorem store {bound : BoundDevice} (h : Custody orderly sys (bound.handle :: loose)) {deviceId : DeviceId}
    (hfree : sys.runtime.bindings[deviceId]? = none) {runtime : Runtime}
    (hbound : runtime.bindings = sys.runtime.bindings.insert deviceId bound) :
    Custody orderly (sys.setRuntime runtime) loose where
  balanced := by
    intro handle
    have hbalanced := h.balanced handle
    have hperm := (BTreeMap.toList_insert_perm sys.runtime.bindings bound hfree).map
      (fun entry => entry.2.handle)
    have hcount := hperm.count_eq handle
    rw [List.map_cons, List.count_cons] at hcount
    rw [List.count_cons, Runtime.boundHandles] at hbalanced
    rw [System.setRuntime, Runtime.boundHandles, hbound, hcount]
    simp only at hbalanced ⊢
    omega
  ordered := h.ordered

theorem take (h : Custody orderly sys loose) (deviceId : DeviceId) (runtime : Runtime)
    (hbound : runtime.bindings = sys.runtime.bindings.erase deviceId) :
    Custody orderly (sys.setRuntime runtime)
      (sys.runtime.bindings[deviceId]?.toList.map BoundDevice.handle ++ loose) := by
  cases hget : sys.runtime.bindings[deviceId]? with
  | none =>
    have hsame : sys.runtime.bindings.erase deviceId = sys.runtime.bindings := by
      apply Std.ExtTreeMap.ext_getElem?
      intro other
      rw [BTreeMap.getElem?_erase_eq]
      split
      · rename_i heq
        rw [heq, hget]
      · rfl
    exact h.congr rfl (hbound.trans hsame) (fun _ => rfl)
  | some bound =>
    refine ⟨?_, h.ordered⟩
    intro handle
    have hbalanced := h.balanced handle
    have hperm := (BTreeMap.toList_erase_perm sys.runtime.bindings hget).map (fun entry => entry.2.handle)
    have hcount := hperm.count_eq handle
    rw [List.map_cons, List.count_cons] at hcount
    rw [Runtime.boundHandles, hcount] at hbalanced
    rw [Option.toList_some, List.map_singleton, List.singleton_append, List.count_cons, System.setRuntime,
      Runtime.boundHandles, hbound]
    simp only at hbalanced ⊢
    omega

theorem takeAll (h : Custody orderly sys loose) (runtime : Runtime) (hbound : runtime.bindings = ∅) :
    Custody orderly (sys.setRuntime runtime) (sys.runtime.boundHandles ++ loose) where
  balanced := by
    intro handle
    have hbalanced := h.balanced handle
    rw [List.count_append, System.setRuntime, Runtime.boundHandles, hbound, BTreeMap.toList_empty]
    simp only [List.map_nil, List.count_nil]
    omega
  ordered := h.ordered

theorem bind_error (h : Custody orderly sys loose) {host : Host} {prepared : PreparedBinding}
    {error : RuntimeError} {sys' : System} (hb : prepared.bind host sys = (.error error, sys')) :
    Custody orderly sys' loose := by
  rcases prepared.bind_cases host sys with ⟨_, hbind⟩ | ⟨_, hbind⟩ | ⟨_, _, _, hbind, -, -⟩
  · rw [hbind] at hb
    cases hb
    exact h.call _ rfl (fun _ => rfl) (fun _ _ _ => rfl)
  · rw [hbind] at hb
    cases hb
    have hdrop := (h.opened prepared.driver.id prepared.descriptor).drop
    rw [List.append_assoc] at hdrop
    exact hdrop
  · rw [hbind] at hb
    cases hb

theorem bind_ok (h : Custody orderly sys loose) {host : Host} {prepared : PreparedBinding}
    {output : PreparedBindingOutput} {sys' : System} (hb : prepared.bind host sys = (.ok output, sys')) :
    Custody orderly sys' (output.bound.handle :: loose) := by
  rcases prepared.bind_cases host sys with ⟨_, hbind⟩ | ⟨_, hbind⟩ | ⟨_, _, reads, hbind, hreads, -⟩
  · rw [hbind] at hb
    cases hb
  · rw [hbind] at hb
    cases hb
  · rw [hbind] at hb
    cases hb
    have hopened := h.opened prepared.driver.id prepared.descriptor
    rcases hreads with rfl | rfl
    · exact hopened
    · have hread := hopened.call (.state sys.calls.length true true) rfl (fun _ => rfl) (by
        intro _ handle hclosed
        have hne : handle ≠ sys.calls.length := by
          rintro rfl
          exact hopened.not_closed (.inr List.mem_cons_self) hclosed
        simp [HostCall.uses, hne.symm])
      rw [List.append_assoc] at hread
      exact hread

theorem closeDetachedBindings (detached : List DetachedBoundDevice)
    (h : Custody orderly sys (detached.map (fun detached => detached.binding.handle) ++ loose)) :
    Custody orderly (sys.closeDetachedBindings detached) loose := by
  induction detached generalizing sys with
  | nil => exact h
  | cons first detached ih => exact ih h.close

theorem detachBindings (h : Custody orderly sys loose) (deviceIds : List DeviceId) (runtime : Runtime)
    (hbound : runtime.bindings = sys.runtime.bindings) :
    Custody orderly (sys.setRuntime (Runtime.detachBindings deviceIds runtime).2)
      ((Runtime.detachBindings deviceIds runtime).1.map (fun detached => detached.binding.handle) ++
        loose) := by
  induction deviceIds generalizing sys loose runtime with
  | nil => exact h.setRuntime hbound
  | cons deviceId deviceIds ih =>
    have htake := h.take deviceId (runtime.detachBinding deviceId).2 (by
      rw [← hbound]
      rfl)
    have hfirst : (runtime.detachBinding deviceId).1.map (fun detached => detached.binding.handle) =
        sys.runtime.bindings[deviceId]?.toList.map BoundDevice.handle := by
      rw [← hbound]
      cases hget : runtime.bindings[deviceId]? <;> simp [Runtime.detachBinding, Runtime.takeBoundDevice, hget]
    have hrest := ih htake (runtime.detachBinding deviceId).2 rfl
    simp only [Runtime.detachBindings, List.map_append, hfirst]
    refine hrest.congr rfl rfl ?_
    intro handle
    simp only [List.count_append]
    omega

variable (host : Host)

theorem completeOperation {α : Type} (h : Custody orderly sys loose) (deviceId : DeviceId)
    (operation : RuntimeFailureOperation) (result : RuntimeResult α) :
    Custody orderly (sys.completeOperation host deviceId operation result) loose := by
  cases result with
  | ok value => exact h.congr (by simp [System.completeOperation, System.clockReads]) rfl (fun _ => rfl)
  | error error =>
    have hclock := h.call .clock rfl (fun _ => rfl) (fun _ _ _ => rfl)
    exact hclock.congr rfl rfl (fun _ => rfl)

theorem markDesired {α : Type} (h : Custody orderly sys loose) (deviceId : DeviceId)
    (result : RuntimeResult α) : Custody orderly (sys.markDesired deviceId result) loose := by
  unfold System.markDesired
  split
  · exact h.setRuntime rfl
  · exact h

variable {host} in
theorem stored (h : Custody orderly sys loose) {deviceId : DeviceId} (hfree : deviceId ∉ sys.runtime.bindings)
    {prepared : PreparedBinding} {output : PreparedBindingOutput} {sys' : System}
    (hb : prepared.bind host sys = (.ok output, sys')) : Custody orderly
      (sys'.setRuntime (sys'.runtime.storeBoundDevice host.layout deviceId output)) loose := by
  refine (h.bind_ok hb).store ?_ (Runtime.storeBoundDevice_bindings _ _ _ _)
  rw [(PreparedBinding.bind_ok hb).2.2]
  exact (BTreeMap.not_mem_iff _ _).mp hfree

theorem bindDiscoveredDevice (h : Custody orderly sys loose) (descriptor : DeviceDescriptor) :
    Custody orderly (sys.bindDiscoveredDevice host descriptor).2 loose := by
  rcases sys.bindDiscoveredDevice_cases host descriptor with
    ⟨result, heq, -⟩ | ⟨prepared, -, hfree, -, ⟨error, sys', hb, heq⟩ | ⟨output, sys', hb, heq⟩⟩
  · rw [heq]
    exact h
  · rw [heq]
    exact h.bind_error hb
  · rw [heq]
    exact h.stored hfree hb

theorem bindDeviceById (h : Custody orderly sys loose) (deviceId : DeviceId) :
    Custody orderly (sys.bindDeviceById host deviceId).2 loose := by
  unfold System.bindDeviceById
  split
  · exact h
  · split
    · exact h
    · split
      · exact h
      · exact h.bindDiscoveredDevice host _

theorem bind (h : Custody orderly sys loose) (deviceId : DeviceId) :
    Custody orderly (sys.bind host deviceId).2 loose :=
  ((h.bindDeviceById host deviceId).completeOperation host deviceId .bind _).markDesired deviceId _

theorem unbind (h : Custody orderly sys loose) (deviceId : DeviceId) :
    Custody orderly (sys.unbind deviceId).2 loose := by
  have htake := h.take deviceId (sys.runtime.unbindDetached deviceId).2.2 rfl
  refine closeDetachedBindings _ (htake.congr rfl rfl ?_)
  intro handle
  cases sys.runtime.bindings[deviceId]? <;> rfl

theorem shutdown (h : Custody orderly sys loose) : Custody orderly sys.shutdown loose := by
  have htake := h.takeAll sys.runtime.takeAllBoundDevices.2 rfl
  have hclosed : Custody orderly
      ((sys.setRuntime sys.runtime.takeAllBoundDevices.2).closeDetachedBindings
        sys.runtime.takeAllBoundDevices.1) loose := by
    apply closeDetachedBindings
    refine htake.congr rfl rfl ?_
    intro handle
    simp [Runtime.takeAllBoundDevices, Runtime.boundHandles, Function.comp_def]
  -- nothing is bound any more when the rest is torn down
  have hempty : ((sys.setRuntime sys.runtime.takeAllBoundDevices.2).closeDetachedBindings
      sys.runtime.takeAllBoundDevices.1).runtime.bindings = ∅ := by
    rw [System.closeDetachedBindings_runtime]
    rfl
  exact hclosed.setRuntime ((Runtime.shutdownDetached_bindings _).trans hempty.symm)

theorem reportState (h : Custody orderly sys loose) (deviceId : DeviceId) (bound : BoundDevice)
    (hopen : orderly → .close bound.handle ∉ sys.calls) :
    Custody orderly (sys.reportState host deviceId bound).2 loose := by
  have huses : ∀ succeeded, orderly → ∀ closed, HostCall.close closed ∈ sys.calls →
      (HostCall.state bound.handle false succeeded).uses closed = false := by
    intro succeeded ho closed hclosed
    have hne : bound.handle ≠ closed := by
      rintro rfl
      exact hopen ho hclosed
    simp [HostCall.uses, hne]
  unfold System.reportState System.callState
  cases host.state sys.calls bound with
  | error source => exact h.call _ rfl (fun _ => rfl) (huses false)
  | ok state => exact h.call _ rfl (fun _ => rfl) (huses true)

theorem mem_boundHandles {runtime : Runtime} {deviceId : DeviceId} {bound : BoundDevice}
    (hget : runtime.bindings[deviceId]? = some bound) : bound.handle ∈ runtime.boundHandles :=
  List.mem_map.mpr ⟨(deviceId, bound), Std.ExtTreeMap.mem_toList_iff_getElem?_eq_some.mpr hget, rfl⟩

theorem refreshState (h : Custody orderly sys loose) (deviceId : DeviceId) :
    Custody orderly (sys.refreshState host deviceId).2 loose := by
  unfold System.refreshState
  split
  · exact h
  · split
    · exact h.setRuntime rfl
    · rename_i bound hget
      have hreport := h.reportState host deviceId bound
        (fun _ => h.not_closed (.inl (mem_boundHandles hget)))
      generalize sys.reportState host deviceId bound = reported at hreport
      obtain ⟨result, sys'⟩ := reported
      have hcomplete := hreport.completeOperation host deviceId .refreshState result
      cases result with
      | error error => exact hcomplete
      | ok snapshot => exact hcomplete.setRuntime (by simp)

theorem executeBound (h : Custody orderly sys loose) (request : DeviceRequest) (bound : BoundDevice)
    (cacheStateOnRequest : Bool) (hopen : orderly → .close bound.handle ∉ sys.calls) :
    Custody orderly (sys.executeBound host request bound cacheStateOnRequest).2 loose := by
  have hexecute : Custody orderly { sys with calls := sys.calls ++ [.execute bound.handle] } loose := by
    refine h.call _ rfl (fun _ => rfl) ?_
    intro ho closed hclosed
    have hne : bound.handle ≠ closed := by
      rintro rfl
      exact hopen ho hclosed
    simp [HostCall.uses, hne]
  unfold System.executeBound System.callExecute
  cases host.execute sys.calls bound request.interaction with
  | error source => exact hexecute
  | ok interaction =>
    cases cacheStateOnRequest with
    | false => exact hexecute
    | true =>
      have hreport := hexecute.reportState host request.deviceId bound (by
        intro ho hclosed
        rcases List.mem_append.mp hclosed with hclosed | hclosed
        · exact hopen ho hclosed
        · cases List.mem_singleton.mp hclosed)
      simp only [if_true]
      split <;> (rename_i heq; rw [heq] at hreport; exact hreport)

theorem prepareRequestBinding (h : Custody orderly sys loose) (request : DeviceRequest) :
    Custody orderly (sys.prepareRequestBinding host request).2 loose := by
  rcases sys.prepareRequestBinding_snd host request with hsame | ⟨device, -, hbind⟩
  · rw [hsame]
    exact h
  · rw [hbind]
    exact h.bindDiscoveredDevice host device

theorem requestInner (h : Custody orderly sys loose) (request : DeviceRequest) :
    Custody orderly (sys.requestInner host request).2 loose := by
  have hprepare := h.prepareRequestBinding host request
  unfold System.requestInner
  split
  · rename_i heq
    rwa [heq] at hprepare
  · rename_i sys₁ heq
    rw [heq] at hprepare
    split
    · exact hprepare
    · rename_i bound hget
      have hexecute := hprepare.executeBound host request bound
        sys₁.runtime.config.cacheStateOnRequest
        (fun _ => hprepare.not_closed (.inl (mem_boundHandles hget)))
      split
      · rename_i hx
        rwa [hx] at hexecute
      · rename_i sys₂ hx
        rw [hx] at hexecute
        exact hexecute.setRuntime (by simp)

theorem request (h : Custody orderly sys loose) (request : DeviceRequest) :
    Custody orderly (sys.request host request).2 loose := by
  have hinner := (h.requestInner host request).completeOperation host request.deviceId
    .request (sys.requestInner host request).1
  simp only [System.request]
  split
  · exact hinner
  · exact hinner.markDesired _ _

theorem rebindTrackedDevices (h : Custody orderly sys loose) (deviceIds : List DeviceId) :
    Custody orderly (System.rebindTrackedDevices host deviceIds sys).2 loose := by
  induction deviceIds generalizing sys with
  | nil => exact h
  | cons deviceId deviceIds ih =>
    rw [System.rebindTrackedDevices_snd]
    exact ih ((h.bindDeviceById host deviceId).completeOperation host deviceId .rebind _)

theorem commitRefresh (h : Custody orderly sys loose) (discovery : DiscoveryRunReport) (mode : RefreshMode)
    (snapshot : InventorySnapshot) :
    let committed := sys.runtime.commitRefresh host.layout discovery mode snapshot
    Custody orderly (sys.setRuntime committed.2)
      (committed.1.detached.map (fun detached => detached.binding.handle) ++ loose) := by
  have hdetach := h.detachBindings (Runtime.detachedIds (sys.runtime.inventory.diff snapshot)
    (sys.runtime.collectInvalidatedBindings (sys.runtime.inventory.diff snapshot)))
    _ (sys.runtime.recordInventoryEvents_bindings host.layout (sys.runtime.inventory.diff snapshot))
  exact hdetach.congr rfl rfl (fun _ => rfl)

theorem finishRefresh (h : Custody orderly sys loose) (discovery : DiscoveryRunReport) (mode : RefreshMode) :
    Custody orderly (sys.finishRefresh host discovery mode).2 loose := by
  unfold System.finishRefresh
  cases hc : sys.runtime.prepareRefreshCommit host.layout discovery mode with
  | error error => exact h
  | ok committed =>
    obtain ⟨-, snapshot, -, rfl⟩ := Runtime.prepareRefreshCommit_ok hc
    exact rebindTrackedDevices host (closeDetachedBindings _ (h.commitRefresh host discovery mode snapshot)) _

theorem setRegistry (h : Custody orderly sys loose) (result : RegistryResult DriverRegistry) :
    Custody orderly (sys.setRuntime (sys.runtime.setRegistry result)) loose := by
  cases result <;> exact h.setRuntime rfl

theorem exec (h : Custody orderly sys loose) (op : RuntimeOp) : Custody orderly (sys.exec host op) loose := by
  cases hop : op.isRefresh with
  | true =>
    rw [System.exec_refresh hop]
    cases sys.discoveryOf host op with
    | none => exact h
    | some discovery => exact h.finishRefresh host discovery.1 discovery.2
  | false =>
    cases op with
    | start => exact h.setRuntime rfl
    | shutdown => exact h.shutdown
    | setConfig config => exact h.setRuntime rfl
    | registerDriver driver => exact h.setRegistry _
    | preferDriver deviceId driverId => exact h.setRegistry _
    | clearPreferredDriver deviceId => exact h.setRegistry _
    | takeEvents => exact h.setRuntime rfl
    | bind deviceId => exact h.bind host deviceId
    | unbind deviceId => exact h.unbind deviceId
    | refreshState deviceId => exact h.refreshState host deviceId
    | request request => exact h.request host request
    | refresh => cases hop
    | pollWatcher => cases hop

end Custody

def System.Conserved (sys : System) : Prop :=
  ∀ handle, isOpened sys.calls handle = true →
    (sys.runtime.boundHandles.count handle = 1 ∧ .close handle ∉ sys.calls) ∨
      (handle ∉ sys.runtime.boundHandles ∧ sys.calls.count (.close handle) = 1)

theorem Custody.conserved_iff {orderly : Prop} {sys : System} (h : Custody orderly sys []) :
    sys.Conserved ↔ ∀ handle, dropped handle ∉ sys.calls := by
  have hsum : ∀ handle, sys.runtime.boundHandles.count handle + sys.calls.count (.close handle) +
      sys.calls.count (dropped handle) = (isOpened sys.calls handle).toNat := by
    intro handle
    have hbalanced := h.balanced handle
    rwa [List.count_nil, Nat.add_zero] at hbalanced
  constructor
  · intro hconserved handle hdropped
    have hpos := List.count_pos_iff.mpr hdropped
    have hbalanced := hsum handle
    cases ho : isOpened sys.calls handle with
    | false =>
      rw [ho, Bool.toNat_false] at hbalanced
      omega
    | true =>
      rw [ho, Bool.toNat_true] at hbalanced
      rcases hconserved handle ho with ⟨hbound, -⟩ | ⟨-, hclosed⟩ <;> omega
  · intro hnone handle ho
    have hbalanced := hsum handle
    rw [ho, Bool.toNat_true, List.count_eq_zero.mpr (hnone handle), Nat.add_zero] at hbalanced
    by_cases hbound : handle ∈ sys.runtime.boundHandles
    · have hpos := List.count_pos_iff.mpr hbound
      left
      refine ⟨by omega, ?_⟩
      rw [← List.count_eq_zero]
      omega
    · right
      refine ⟨hbound, ?_⟩
      rw [List.count_eq_zero.mpr hbound] at hbalanced
      omega

theorem Custody.runOps {orderly : Prop} (host : Host) {sys : System} {loose : List ℕ}
    (h : Custody orderly sys loose) (ops : List RuntimeOp) : Custody orderly (sys.runOps host ops) loose :=
  System.runOps_invariant (p := fun sys => Custody orderly sys loose) host
    (fun _ op hbefore => hbefore.exec host op) ops sys h

end Lemnos
