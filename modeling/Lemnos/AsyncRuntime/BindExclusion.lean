import Lemnos.AsyncRuntime.Locking
import Lemnos.AsyncRuntime.Sections

namespace Lemnos

open Lemnos.Core Discovery Registry Library.OrderedMap Library.Runs

/-- A call that may store an instance, with the runtime before and after it. -/
structure StoreCall where
  deviceId : DeviceId
  before : Runtime
  after : Runtime

/-- The call leaves the bindings as they are, or adds one where there is none. -/
def StoreCall.FillsEmpty (call : StoreCall) : Prop :=
  call.after.bindings = call.before.bindings ∨
    call.deviceId ∉ call.before.bindings ∧
      ∃ bound, call.after.bindings = call.before.bindings.insert call.deviceId bound

def System.rebindCalls (host : Host) : System → List DeviceId → List StoreCall
  | _, [] => []
  | sys, deviceId :: deviceIds =>
    ⟨deviceId, sys.runtime, (sys.bindDeviceById host deviceId).2.runtime⟩ ::
      rebindCalls host (sys.rebindTrackedDevice host deviceId).2 deviceIds

namespace Task

def storeCalls (host : Host) (sys : System) : Task → List StoreCall
  | bindStore deviceId output => [⟨deviceId, sys.runtime, (bindStored host sys deviceId output).2.runtime⟩]
  | requestStore request output cacheStateOnRequest locked =>
    [⟨request.deviceId, sys.runtime,
      (requestStored host sys request output cacheStateOnRequest locked).2.runtime⟩]
  | refreshRebind rebindTargets => sys.rebindCalls host rebindTargets
  | _ => []

end Task

def Runtime.ReplacesNothing (before after : Runtime) : Prop :=
  ∀ (deviceId : DeviceId) (bound bound' : BoundDevice),
    before.bindings[deviceId]? = some bound → after.bindings[deviceId]? = some bound' → bound' = bound

theorem StoreCall.FillsEmpty.kept {call : StoreCall} (h : call.FillsEmpty) {deviceId : DeviceId}
    {bound : BoundDevice} (hbound : call.before.bindings[deviceId]? = some bound) :
    call.after.bindings[deviceId]? = some bound := by
  rcases h with hsame | ⟨hempty, stored, hinsert⟩
  · rw [hsame]
    exact hbound
  · have hne : deviceId ≠ call.deviceId := by
      rintro rfl
      rw [BTreeMap.not_mem_iff, hbound] at hempty
      cases hempty
    rw [hinsert, BTreeMap.getElem?_insert_ne _ _ hne]
    exact hbound

variable {host : Host} {sys : System}

theorem System.bindDeviceById_fillsEmpty (host : Host) (sys : System) (deviceId : DeviceId) :
    StoreCall.FillsEmpty ⟨deviceId, sys.runtime, (sys.bindDeviceById host deviceId).2.runtime⟩ := by
  rcases sys.bindDeviceById_cases host deviceId with
    ⟨result, hdone, -⟩ | ⟨descriptor, prepared, -, hempty, -, -, hbind⟩
  · left
    simp only [hdone]
  · rcases hbind with ⟨error, sys', hbind, hdone⟩ | ⟨output, sys', hbind, hdone⟩
    · left
      have hruntime : sys'.runtime = sys.runtime := by
        rw [← prepared.bind_runtime host sys, hbind]
      simp only [hdone, hruntime]
    · right
      refine ⟨hempty, output.bound, ?_⟩
      simp only [hdone, System.setRuntime, Runtime.storeBoundDevice_bindings, (PreparedBinding.bind_ok hbind).2.2]

theorem System.rebindCalls_fillEmpty (host : Host) (sys : System) (deviceIds : List DeviceId) :
    ∀ call ∈ sys.rebindCalls host deviceIds, call.FillsEmpty := by
  induction deviceIds generalizing sys with
  | nil =>
    intro call hcall
    cases hcall
  | cons deviceId deviceIds ih =>
    intro call hcall
    rcases List.mem_cons.mp hcall with rfl | hlater
    · exact bindDeviceById_fillsEmpty host sys deviceId
    · exact ih _ call hlater

theorem System.rebindTrackedDevices_keepsBound (host : Host) {sys : System} (deviceIds : List DeviceId)
    {deviceId : DeviceId} {bound : BoundDevice} (h : sys.runtime.bindings[deviceId]? = some bound) :
    (rebindTrackedDevices host deviceIds sys).2.runtime.bindings[deviceId]? = some bound := by
  induction deviceIds generalizing sys with
  | nil => exact h
  | cons target deviceIds ih =>
    rw [rebindTrackedDevices_snd]
    exact ih ((bindDeviceById_fillsEmpty host sys target).kept h)

namespace Task

variable {sys' : System} {task next : Task}

theorem Section.storing_fillsEmpty (h : Section host sys task next sys') {deviceId : DeviceId}
    {bound : BoundDevice} (hstoring : task.storing = some (deviceId, bound)) :
    StoreCall.FillsEmpty ⟨deviceId, sys.runtime, sys'.runtime⟩ := by
  have hstored := h.storing hstoring
  by_cases hstores : sys.runtime.running = true ∧ deviceId ∉ sys.runtime.bindings
  · rw [if_pos hstores] at hstored
    exact .inr ⟨hstores.2, bound, hstored⟩
  · rw [if_neg hstores] at hstored
    exact .inl hstored

theorem storeCalls_fillEmpty (host : Host) (sys : System) (task : Task) :
    ∀ call ∈ task.storeCalls host sys, call.FillsEmpty := by
  have hstep := task.step_section host sys
  cases task with
  | bindStore | requestStore =>
    intro call hcall
    cases List.mem_singleton.mp hcall
    exact hstep.storing_fillsEmpty rfl
  | refreshRebind rebindTargets => exact sys.rebindCalls_fillEmpty host rebindTargets
  | _ =>
    intro call hcall
    cases hcall

theorem Section.replacesNothing (h : Section host sys task next sys') :
    sys.runtime.ReplacesNothing sys'.runtime := by
  intro deviceId bound bound' hbound hafter
  have hkept : ∀ {after : Runtime}, after.bindings[deviceId]? = some bound →
      after.bindings[deviceId]? = some bound' → bound' = bound := by
    intro after hstays hnow
    exact (Option.some.inj (hstays.symm.trans hnow)).symm
  cases hstoring : task.storing with
  | some entry => exact hkept ((h.storing_fillsEmpty hstoring).kept hbound) hafter
  | none =>
    cases hrearranges : task.rearranges with
    | false =>
      rw [h.bindings hrearranges] at hafter
      exact hkept hbound hafter
    | true =>
      cases h with
      | bindClosed | bindStored | requestClosed | requestStored | requestOutrun => cases hstoring
      | unbound other =>
        simp only [Runtime.unbindDetached, Runtime.takeBoundDevice, System.setRuntime,
          BTreeMap.getElem?_erase_eq_some] at hafter
        exact hkept hbound hafter.2
      | refreshRefused => exact hkept hbound hafter
      | refreshCommitted discovery mode snapshot =>
        simp only [System.setRuntime, Runtime.commitRefresh_snd, BTreeMap.eraseAll_getElem?] at hafter
        split at hafter
        · cases hafter
        · exact hkept hbound hafter
      | rebound rebindTargets =>
        exact hkept (System.rebindTrackedDevices_keepsBound host rebindTargets hbound) hafter
      | shutDown => simp [System.setRuntime] at hafter
      | _ => cases hrearranges

end Task

theorem System.exec_control_replacesNothing (host : Host) (sys : System) {op : RuntimeOp}
    (hop : op.isControl = true) : sys.runtime.ReplacesNothing (sys.exec host op).runtime := by
  intro deviceId bound bound' hbound hafter
  rcases sys.exec_control_cases host hop with hshutdown | ⟨hsame, -⟩
  · rw [hshutdown, Runtime.shutdownDetached_bindings] at hafter
    simp at hafter
  · rw [hsame.bindings, hbound] at hafter
    exact (Option.some.inj hafter).symm

def BindLocks.SameMutex (locks : BindLocks) : Prop :=
  ∀ deviceId lock lock', (deviceId, lock) ∈ locks.table.handles → (deviceId, lock') ∈ locks.table.handles →
    lock = lock'

namespace LockedRuntime

/-- The device whose bind lock the next section of an operation runs under. -/
def usesLock (task : Task) : Option DeviceId := task.takesLock <|> task.holdsLock

/-- What the bind locks give in a state: one live lock for a device, its sections run with the guard only and by
one operation at a time, and whatever comes next stores nothing over a bound instance. -/
structure Exclusive (host : Host) (state : LockedRuntime) : Prop where
  locks : state.locks.SameMutex
  sections : ∀ (i : ℕ) (task : LockedTask) (deviceId : DeviceId), state.tasks[i]? = some task →
    usesLock task.task = some deviceId → (step host (.advance i) state).isSome = true →
      task.inside = some deviceId
  alone : ∀ (i j : ℕ) (task other : LockedTask) (deviceId : DeviceId), state.tasks[i]? = some task →
    state.tasks[j]? = some other → task.inside = some deviceId → other.inside = some deviceId → i = j
  stores : ∀ task ∈ state.tasks, ∀ call ∈ task.task.storeCalls host state.system, call.FillsEmpty
  replaces : ∀ (action : LockedAction) (state' : LockedRuntime), step host action state = some state' →
    state.system.runtime.ReplacesNothing state'.system.runtime

variable {host : Host} {state state' : LockedRuntime}

theorem inside_of_advance (h : state.Sound) {i : ℕ} {task : LockedTask} {deviceId : DeviceId}
    (hget : state.tasks[i]? = some task) (huses : usesLock task.task = some deviceId)
    (hadvance : (step host (.advance i) state).isSome = true) : task.inside = some deviceId := by
  have hconsistent := h.consistent task (List.mem_of_getElem? hget)
  rw [usesLock, Option.orElse_eq_orElse, Option.orElse_eq_or, Option.or_eq_some_iff] at huses
  rcases huses with htakes | ⟨-, hholds⟩
  · obtain ⟨state', hstep⟩ := Option.isSome_iff_exists.mp hadvance
    simp only [step, hget, Option.bind_some, advance, htakes, Option.isSome_some, Bool.true_and] at hstep
    split at hstep
    · cases hstep
    · rename_i hfree
      rw [Bool.or_eq_true, not_or] at hfree
      have hguarded : task.lock.guarded ≠ none := by simpa using hfree.2
      exact LockedTask.inside_of_takesLock hconsistent htakes (Option.isSome_iff_ne_none.mpr hguarded)
  · exact LockedTask.inside_of_holdsLock hconsistent hholds

theorem step_replacesNothing {action : LockedAction} (hs : step host action state = some state') :
    state.system.runtime.ReplacesNothing state'.system.runtime := by
  have hsame : state.system.runtime.ReplacesNothing state.system.runtime := by
    intro deviceId bound bound' hbound hafter
    exact Option.some.inj (hafter.symm.trans hbound)
  rcases step_cases hs with ⟨call, -, rfl⟩ | ⟨op, -, hcontrol, rfl⟩ | ⟨locks, -, -, rfl⟩ |
    ⟨before, task, after, next, system, locks, -, hmoves, rfl⟩
  · exact hsame
  · exact state.system.exec_control_replacesNothing host hcontrol
  · exact hsame
  · cases hmoves with
    | advance undone guarded => exact (task.task.step_section host state.system).replacesNothing
    | _ => exact hsame

theorem bind_locks_exclude (host : Host) (config : RuntimeConfig) :
    (∀ actions locks, run BindLocks.step actions {} = some locks → locks.SameMutex) ∧
    ∀ actions state, run (step host) actions (init config) = some state → state.Exclusive host := by
  constructor
  · intro actions locks hrun deviceId lock lock' hlock hlock'
    have hsound : locks.table.Sound :=
      run_invariant (fun _ _ _ h hs => BindLocks.step_sound h hs) WeakTable.Sound.empty hrun
    exact hsound.unique hlock hlock'
  · intro actions state hrun
    have h : state.Sound := run_sound hrun
    refine ⟨?_, ?_, ?_, ?_, ?_⟩
    · intro deviceId lock lock' hlock hlock'
      exact h.table.unique hlock hlock'
    · intro i task deviceId hget huses hadvance
      exact inside_of_advance h hget huses hadvance
    · intro i j task other deviceId hi hj hin hin'
      exact h.inside_unique hi hj hin hin'
    · intro task _ call hcall
      exact task.task.storeCalls_fillEmpty host state.system call hcall
    · intro action state' hs
      exact step_replacesNothing hs

def twoLookups : List BindLockAction :=
  [.lookUp gpioLine, .upgrade gpioLine, .lookUp gpioLine, .retain, .upgrade gpioLine, .drop (gpioLine, 0)]

def twoBinds : List LockedAction :=
  [.call (.bind gpioLine), .call (.bind gpioLine), .lookUp 0, .upgrade 0, .acquire 0, .lookUp 1, .retain,
    .upgrade 1, .advance 0, .drop 0, .acquire 1]

theorem bind_locks_exclude_gpioLine :
    (∃ locks, run BindLocks.step twoLookups {} = some locks ∧ locks.SameMutex) ∧
    ∃ state, run (step .quiet) twoBinds (init {}) = some state ∧ state.Exclusive .quiet :=
  ⟨⟨_, rfl, (bind_locks_exclude .quiet {}).1 twoLookups _ rfl⟩,
    _, rfl, (bind_locks_exclude .quiet {}).2 twoBinds _ rfl⟩

end LockedRuntime

end Lemnos
