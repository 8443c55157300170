import Lemnos.AsyncRuntime.Tasks
import Lemnos.Library.Runs
import Lemnos.Runtime.Custody

namespace Lemnos

open Lemnos.Core Discovery Registry Library.OrderedMap Library.Runs

namespace Task

/-- The instances a task has to store or to close. -/
def owned : Task → List ℕ
  | bindStore _ output | requestStore _ output _ _ | requestDiscard _ output _ _ _ => [output.bound.handle]
  | closeDetached detached | refreshClose detached _ => detached.map (fun detached => detached.binding.handle)
  | _ => []

/-- The instances a task has cloned from the bindings and has yet to use. -/
def clones : Task → List ℕ
  | refreshStateRead _ bound | requestDiscard _ _ bound _ _ | requestExecute _ bound _ _ _ => [bound.handle]
  | _ => []

def closing (sys : System) : Task → List ℕ
  | bindStore deviceId output =>
    if sys.runtime.running = false ∨ deviceId ∈ sys.runtime.bindings then [output.bound.handle] else []
  | requestStore _ output _ _ => if sys.runtime.running = false then [output.bound.handle] else []
  | requestDiscard _ output _ _ _ => [output.bound.handle]
  | closeDetached (detached :: _) | refreshClose (detached :: _) _ => [detached.binding.handle]
  | _ => []

variable {orderly : Prop} {host : Host} {sys sys' : System} {task next : Task} {loose : List ℕ}

theorem bindCompleted_custody (h : Custody orderly sys loose) (deviceId : DeviceId)
    (result : RuntimeResult Bool) :
    Custody orderly (bindCompleted host sys deviceId result) loose := by
  have hcomplete := h.completeOperation host deviceId .bind result
  simp only [bindCompleted]
  split
  · exact hcomplete.setRuntime rfl
  · exact hcomplete

theorem requestCompleted_custody (h : Custody orderly sys loose) (request : DeviceRequest)
    (result : RuntimeResult (InteractionResponse × Option DeviceStateSnapshot × Bool)) :
    Custody orderly (requestCompleted host sys request result) loose := by
  have hcomplete := h.completeOperation host request.deviceId .request result
  unfold requestCompleted
  cases result with
  | error error => exact hcomplete
  | ok value =>
    obtain ⟨interaction, state, autoBound⟩ := value
    have hbound := Runtime.cacheReported_bindings host.layout
      (sys.completeOperation host request.deviceId .request (.ok (interaction, state, autoBound))).runtime state
    have hcached := hcomplete.setRuntime hbound
    cases autoBound with
    | false => exact hcached
    | true => exact hcached.setRuntime rfl

theorem refreshStateCompleted_custody (h : Custody orderly sys loose) (deviceId : DeviceId)
    (result : RuntimeResult (Option DeviceStateSnapshot)) :
    Custody orderly (refreshStateCompleted host sys deviceId result) loose := by
  have hcomplete := h.completeOperation host deviceId .refreshState result
  unfold refreshStateCompleted
  cases result with
  | error error => exact hcomplete
  | ok snapshot => exact hcomplete.setRuntime (by simp)

theorem Section.custody (h : Section host sys task next sys')
    (hcustody : Custody orderly sys (task.owned ++ loose))
    (hclones : orderly → ∀ handle ∈ task.clones, .close handle ∉ sys.calls) :
    Custody orderly sys' (next.owned ++ loose) := by
  cases h with
  | bindFailed _ _ _ failed | requestFailed _ _ _ _ _ failed => exact hcustody.bind_error (Prod.ext failed rfl)
  | bindOpened _ _ _ opened | requestOpened _ _ _ _ _ opened => exact hcustody.bind_ok (Prod.ext opened rfl)
  | bindClosed | requestClosed | requestDiscarded | closedNext | refreshClosedNext => exact hcustody.close
  | bindStored _ _ _ free | requestStored _ _ _ _ _ free =>
    exact hcustody.store ((BTreeMap.not_mem_iff _ _).mp free) (Runtime.storeBoundDevice_bindings _ _ _ _)
  | bindCompleted deviceId result => exact bindCompleted_custody hcustody deviceId result
  | unbound deviceId =>
    have htake := hcustody.take deviceId (sys.runtime.unbindDetached deviceId).2.2 rfl
    refine htake.congr rfl rfl ?_
    intro handle
    simp only [Runtime.unbindDetached, Runtime.takeBoundDevice, owned]
    cases sys.runtime.bindings[deviceId]? <;> rfl
  | stateUnbound => exact hcustody.setRuntime rfl
  | stateRead deviceId bound =>
    exact hcustody.reportState host deviceId bound (fun ho => hclones ho bound.handle List.mem_cons_self)
  | stateCompleted deviceId result => exact refreshStateCompleted_custody hcustody deviceId result
  | requestThrown request bound cacheStateOnRequest | requestExecuted request bound cacheStateOnRequest =>
    exact hcustody.executeBound host request bound cacheStateOnRequest
      (fun ho => hclones ho bound.handle List.mem_cons_self)
  | requestCompleted request result => exact requestCompleted_custody hcustody request result
  | refreshCommitted discovery mode snapshot =>
    exact Custody.commitRefresh host hcustody discovery mode snapshot
  | rebound rebindTargets => exact hcustody.rebindTrackedDevices host rebindTargets
  | shutDown =>
    have htake := hcustody.takeAll sys.runtime.shutdownDetached.2 rfl
    refine htake.congr rfl rfl ?_
    intro handle
    simp [Runtime.shutdownDetached, Runtime.takeAllBoundDevices, owned, Runtime.boundHandles,
      Function.comp_def]
  | _ => exact hcustody

end Task

namespace System

variable (host : Host)

def ClosesNone (sys sys' : System) : Prop := ∀ handle, .close handle ∈ sys'.calls → .close handle ∈ sys.calls

theorem ClosesNone.refl (sys : System) : sys.ClosesNone sys := fun _ h => h

theorem ClosesNone.trans {sys₁ sys₂ sys₃ : System} (h : sys₁.ClosesNone sys₂) (h' : sys₂.ClosesNone sys₃) :
    sys₁.ClosesNone sys₃ := fun handle hclosed => h handle (h' handle hclosed)

theorem ClosesNone.of_calls {sys sys' : System} {more : List HostCall}
    (hcalls : sys'.calls = sys.calls ++ more)
    (hmore : ∀ handle, .close handle ∉ more) : sys.ClosesNone sys' := by
  intro handle hclosed
  rw [hcalls, List.mem_append] at hclosed
  exact hclosed.resolve_right (hmore handle)

theorem prepared_bind_closesNone (prepared : PreparedBinding) (sys : System) :
    sys.ClosesNone (prepared.bind host sys).2 := by
  rcases prepared.bind_cases host sys with ⟨_, hb⟩ | ⟨_, hb⟩ | ⟨_, _, reads, hb, hreads, -⟩
  · rw [hb]
    exact .of_calls rfl (by simp)
  · rw [hb]
    exact .of_calls rfl (by simp [PreparedBinding.openCall])
  · rw [hb]
    refine .of_calls rfl ?_
    rcases hreads with rfl | rfl <;> simp [PreparedBinding.openCall]

theorem completeOperation_closesNone {α : Type} (sys : System) (deviceId : DeviceId)
    (operation : RuntimeFailureOperation) (result : RuntimeResult α) :
    sys.ClosesNone (sys.completeOperation host deviceId operation result) := by
  refine .of_calls rfl ?_
  cases result <;> simp [clockReads]

theorem bindDeviceById_closesNone (sys : System) (deviceId : DeviceId) :
    sys.ClosesNone (sys.bindDeviceById host deviceId).2 := by
  rcases sys.bindDeviceById_cases host deviceId with
    ⟨result, h, -⟩ | ⟨descriptor, prepared, -, -, -, -, ⟨error, sys', hb, h⟩ | ⟨output, sys', hb, h⟩⟩
  · rw [h]
    exact .refl _
  · have hbind := prepared_bind_closesNone host prepared sys
    rw [hb] at hbind
    rw [h]
    exact hbind
  · have hbind := prepared_bind_closesNone host prepared sys
    rw [hb] at hbind
    rw [h]
    exact hbind

theorem rebindTrackedDevices_closesNone (deviceIds : List DeviceId) (sys : System) :
    sys.ClosesNone (rebindTrackedDevices host deviceIds sys).2 := by
  induction deviceIds generalizing sys with
  | nil => exact .refl _
  | cons deviceId deviceIds ih =>
    rw [rebindTrackedDevices_snd]
    exact (bindDeviceById_closesNone host sys deviceId).trans
      ((completeOperation_closesNone host _ deviceId .rebind _).trans (ih _))

theorem reportState_closesNone (sys : System) (deviceId : DeviceId) (bound : BoundDevice) :
    sys.ClosesNone (sys.reportState host deviceId bound).2 := by
  unfold reportState callState
  cases host.state sys.calls bound <;> exact .of_calls rfl (by simp)

theorem executeBound_closesNone (sys : System) (request : DeviceRequest) (bound : BoundDevice)
    (cacheStateOnRequest : Bool) :
    sys.ClosesNone (sys.executeBound host request bound cacheStateOnRequest).2 := by
  have hexecute : sys.ClosesNone { sys with calls := sys.calls ++ [.execute bound.handle] } :=
    .of_calls rfl (by simp)
  unfold executeBound callExecute
  cases host.execute sys.calls bound request.interaction with
  | error source => exact hexecute
  | ok interaction =>
    cases cacheStateOnRequest with
    | false => exact hexecute
    | true =>
      have hreport := reportState_closesNone host
        { sys with calls := sys.calls ++ [.execute bound.handle] } request.deviceId bound
      simp only [if_true]
      split <;> (rename_i heq; rw [heq] at hreport; exact hexecute.trans hreport)

theorem callClose_closes {sys : System} {closed handle : ℕ}
    (h : .close handle ∈ (sys.callClose closed).calls) :
    .close handle ∈ sys.calls ∨ handle = closed := by
  rcases List.mem_append.mp h with h | h
  · exact .inl h
  · rw [List.mem_singleton, HostCall.close.injEq] at h
    exact .inr h

end System

namespace Task

variable {host : Host} {sys sys' : System} {task next : Task}

theorem bindCompleted_closesNone (deviceId : DeviceId) (result : RuntimeResult Bool) :
    sys.ClosesNone (bindCompleted host sys deviceId result) := by
  have hcomplete := System.completeOperation_closesNone host sys deviceId .bind result
  simp only [bindCompleted]
  split <;> exact hcomplete

theorem requestCompleted_closesNone (request : DeviceRequest)
    (result : RuntimeResult (InteractionResponse × Option DeviceStateSnapshot × Bool)) :
    sys.ClosesNone (requestCompleted host sys request result) := by
  have hcomplete := System.completeOperation_closesNone host sys request.deviceId .request result
  unfold requestCompleted
  cases result with
  | error error => exact hcomplete
  | ok value =>
    obtain ⟨interaction, state, autoBound⟩ := value
    cases autoBound <;> exact hcomplete

theorem refreshStateCompleted_closesNone (deviceId : DeviceId)
    (result : RuntimeResult (Option DeviceStateSnapshot)) :
    sys.ClosesNone (refreshStateCompleted host sys deviceId result) := by
  have hcomplete := System.completeOperation_closesNone host sys deviceId .refreshState result
  unfold refreshStateCompleted
  cases result <;> exact hcomplete

theorem Section.closes (h : Section host sys task next sys') {handle : ℕ}
    (hclosed : .close handle ∈ sys'.calls) : .close handle ∈ sys.calls ∨ handle ∈ task.closing sys := by
  cases h with
  | bindFailed _ prepared | bindOpened _ prepared | requestFailed _ prepared | requestOpened _ prepared =>
    exact .inl (System.prepared_bind_closesNone host prepared sys handle hclosed)
  | bindClosed _ _ _ _ closed =>
    refine (System.callClose_closes hclosed).imp_right ?_
    intro heq
    rw [closing, if_pos closed]
    exact List.mem_singleton.mpr heq
  | requestClosed _ _ _ _ stopped =>
    refine (System.callClose_closes hclosed).imp_right ?_
    intro heq
    rw [closing, if_pos stopped]
    exact List.mem_singleton.mpr heq
  | requestDiscarded | closedNext | refreshClosedNext =>
    exact (System.callClose_closes hclosed).imp_right List.mem_singleton.mpr
  | bindCompleted deviceId result => exact .inl (bindCompleted_closesNone deviceId result handle hclosed)
  | stateRead deviceId bound => exact .inl (System.reportState_closesNone host sys deviceId bound handle hclosed)
  | stateCompleted deviceId result => exact .inl (refreshStateCompleted_closesNone deviceId result handle hclosed)
  | requestThrown request bound cacheStateOnRequest | requestExecuted request bound cacheStateOnRequest =>
    exact .inl (System.executeBound_closesNone host sys request bound cacheStateOnRequest handle hclosed)
  | requestCompleted request result => exact .inl (requestCompleted_closesNone request result handle hclosed)
  | rebound rebindTargets =>
    exact .inl (System.rebindTrackedDevices_closesNone host rebindTargets sys handle hclosed)
  | _ => exact .inl hclosed

theorem Section.clones (h : Section host sys task next sys') {handle : ℕ} (hclone : handle ∈ next.clones) :
    handle ∈ task.clones ∨ handle ∈ sys'.runtime.boundHandles := by
  cases h with
  | stateFound _ _ found | requestFound _ _ _ found | autoBindFound _ _ _ found =>
    cases List.mem_singleton.mp hclone
    exact .inr (Custody.mem_boundHandles found)
  | requestStored request output =>
    have hstored : (sys.setRuntime (sys.runtime.storeBoundDevice host.layout request.deviceId
        output)).runtime.bindings[request.deviceId]? = some output.bound := by
      simp [System.setRuntime, Runtime.storeBoundDevice_bindings]
    cases List.mem_singleton.mp hclone
    exact .inr (Custody.mem_boundHandles hstored)
  | requestOutrun _ _ _ _ _ found =>
    cases List.mem_singleton.mp hclone
    exact .inr (Custody.mem_boundHandles found)
  | requestDiscarded => exact .inl hclone
  | _ => cases hclone

end Task

namespace AsyncRuntime

variable {orderly : Prop} {host : Host} {action : AsyncAction} {state state' : AsyncRuntime}

def loose (state : AsyncRuntime) : List ℕ := state.tasks.flatMap Task.owned

def closing (state : AsyncRuntime) : AsyncAction → List ℕ
  | .call _ => []
  | .advance i => (state.tasks[i]?.map (Task.closing state.system)).getD []
  | .control op => if op.isShutdown then state.system.runtime.boundHandles else []

/-- What the step closes has no clone that is still to be used. -/
def ClosesUnused (action : AsyncAction) (state : AsyncRuntime) : Prop :=
  ∀ handle ∈ state.closing action, ∀ task ∈ state.tasks, handle ∉ task.clones

instance (action : AsyncAction) (state : AsyncRuntime) : Decidable (ClosesUnused action state) :=
  inferInstanceAs (Decidable (∀ handle ∈ state.closing action, ∀ task ∈ state.tasks, handle ∉ task.clones))

theorem call_owned (call : AsyncCall) : call.task.owned = [] := by
  cases call <;> rfl

theorem call_clones (call : AsyncCall) : call.task.clones = [] := by
  cases call <;> rfl

theorem step_custody (h : Custody orderly state.system state.loose)
    (hclones : orderly → ∀ task ∈ state.tasks, ∀ handle ∈ task.clones, .close handle ∉ state.system.calls)
    (hs : state.step host action = some state') : Custody orderly state'.system state'.loose := by
  rcases step_cases hs with ⟨call, -, rfl⟩ | ⟨i, before, task, after, -, htasks, -, -, rfl⟩ | ⟨op, -, -, rfl⟩
  · refine h.congr rfl rfl ?_
    intro handle
    simp [loose, call_owned]
  · have hfirst : Custody orderly state.system
        (task.owned ++ (before.flatMap Task.owned ++ after.flatMap Task.owned)) := by
      refine h.congr rfl rfl ?_
      intro handle
      simp only [loose, htasks, List.flatMap_append, List.flatMap_cons, List.count_append]
      omega
    have hstep := (task.step_section host state.system).custody hfirst
      (fun ho => hclones ho task (by rw [htasks]; simp))
    refine hstep.congr rfl rfl ?_
    intro handle
    simp only [loose, List.flatMap_append, List.flatMap_cons, List.count_append]
    omega
  · exact h.exec host op

theorem init_custody (config : RuntimeConfig) : Custody orderly (init config).system (init config).loose :=
  Custody.empty orderly config

theorem exec_control_closes {op : RuntimeOp} {sys : System} (hop : op.isControl = true) {handle : ℕ}
    (h : .close handle ∈ (sys.exec host op).calls) :
    .close handle ∈ sys.calls ∨ (op.isShutdown = true ∧ handle ∈ sys.runtime.boundHandles) := by
  cases op with
  | shutdown =>
    rw [System.exec, System.shutdown, System.setRuntime, System.closeDetachedBindings_calls,
      List.mem_append] at h
    refine h.imp_right ?_
    intro h
    obtain ⟨detached, hdetached, heq⟩ := List.mem_map.mp h
    obtain ⟨entry, hentry, rfl⟩ := List.mem_map.mp hdetached
    cases heq
    exact ⟨rfl, List.mem_map_of_mem hentry⟩
  | start | setConfig | registerDriver | preferDriver | clearPreferredDriver | takeEvents => exact .inl h
  | _ => cases hop

theorem step_closes (hs : state.step host action = some state') {handle : ℕ}
    (h : .close handle ∈ state'.system.calls) :
    .close handle ∈ state.system.calls ∨ handle ∈ state.closing action := by
  rcases step_cases hs with ⟨call, -, rfl⟩ | ⟨i, before, task, after, rfl, htasks, rfl, -, rfl⟩ |
    ⟨op, rfl, hop, rfl⟩
  · exact .inl h
  · refine ((task.step_section host state.system).closes h).imp_right ?_
    intro hclosing
    simp [closing, htasks, hclosing]
  · refine (exec_control_closes hop h).imp_right ?_
    rintro ⟨hshutdown, hbound⟩
    simp [closing, hshutdown, hbound]

structure ClonesOpen (state : AsyncRuntime) : Prop where
  custody : Custody True state.system state.loose
  unclosed : ∀ task ∈ state.tasks, ∀ handle ∈ task.clones, .close handle ∉ state.system.calls

theorem step_clonesOpen (action : AsyncAction) (state state' : AsyncRuntime) (h : state.ClonesOpen)
    (hcond : ClosesUnused action state) (hs : state.step host action = some state') : state'.ClonesOpen := by
  have hcustody : Custody True state'.system state'.loose :=
    step_custody h.custody (fun _ => h.unclosed) hs
  have hkept : ∀ task ∈ state.tasks, ∀ handle ∈ task.clones, .close handle ∉ state'.system.calls := by
    intro task htask handle hclone hclosed
    rcases step_closes hs hclosed with hbefore | hclosing
    · exact h.unclosed task htask handle hclone hbefore
    · exact hcond handle hclosing task htask hclone
  refine ⟨hcustody, step_tasks hs hkept ?_ ?_⟩
  · intro call _ handle hclone
    rw [call_clones] at hclone
    cases hclone
  · intro task htask hsystem handle hclone
    -- the section's own clones are old ones, or of instances that are bound now
    rcases (task.step_section host state.system).clones hclone with hold | hbound
    · exact hkept task htask handle hold
    · refine hcustody.not_closed (.inl ?_)
      rw [hsystem]
      exact hbound

/-- No instance is used after its close: in runs of one operation after another always, in interleaved ones
if instances are closed only while no clone of them is left to be used. -/
theorem run_orderly (host : Host) (config : RuntimeConfig) :
    (∀ ops, Orderly (System.runOps host ops { runtime := { config } }).calls) ∧
    ∀ actions state, run (step host) actions (init config) = some state →
      Along (step host) ClosesUnused actions (init config) → Orderly state.system.calls := by
  constructor
  · intro ops
    exact ((Custody.empty True config).runOps host ops).ordered trivial
  · intro actions state hrun hcond
    have hinit : (init config).ClonesOpen := ⟨init_custody config, fun _ htask => by cases htask⟩
    exact (run_invariant_along step_clonesOpen hinit hcond hrun).custody.ordered trivial

def usedTwice : List RuntimeOp :=
  bindLine ++ [.refreshState gpioLine, .unbind gpioLine, .bind gpioLine, .refreshState gpioLine]

def usedTwiceInterleaved : List AsyncAction :=
  bindingLine ++ [.call (.refreshState gpioLine), .advance 2, .call (.unbind gpioLine), .advance 2, .advance 3,
    .call (.bind gpioLine), .advance 4, .advance 3, .advance 2, .advance 4, .advance 4,
    .call (.refreshState gpioLine), .advance 5, .advance 5]

theorem run_orderly_usedTwice :
    (System.runOps .quiet usedTwice { runtime := { config := {} } }).calls.drop 2 =
      [.state 0 false true, .close 0, .bind "lemnos.gpio" gpioLineDescriptor true, .state 4 true true,
        .state 4 false true] ∧
    Orderly (System.runOps .quiet usedTwice { runtime := { config := {} } }).calls ∧
    ∃ state, run (step .quiet) usedTwiceInterleaved (init {}) = some state ∧
      state.system.calls = (System.runOps .quiet usedTwice { runtime := { config := {} } }).calls ∧
      Orderly state.system.calls :=
  ⟨by decide, (run_orderly .quiet {}).1 usedTwice, _, rfl, by decide,
    (run_orderly .quiet {}).2 usedTwiceInterleaved _ rfl (by decide)⟩

/-- A state refresh clones the instance and waits while an unbind closes it. -/
def closedUnderRead : List AsyncAction :=
  bindingLine ++ [.call (.refreshState gpioLine), .advance 2, .call (.unbind gpioLine), .advance 3,
    .advance 3, .advance 2]

theorem unbind_closes_before_read :
    ∃ state, run (step .quiet) closedUnderRead (init {}) = some state ∧
      state.system.calls.drop 2 = [.close 0, .state 0 false true] ∧ ¬ Orderly state.system.calls :=
  ⟨_, rfl, by decide, by decide⟩

theorem loose_of_quiescent (h : state.quiescent = true) : state.loose = [] := by
  rw [loose, List.flatMap_eq_nil_iff]
  intro task htask
  have hdone := List.all_eq_true.mp h task htask
  cases task with
  | done => rfl
  | _ => cases hdone

theorem run_conserved_iff (host : Host) (config : RuntimeConfig) :
    (∀ ops, (System.runOps host ops { runtime := { config } }).Conserved ↔
      ∀ handle, dropped handle ∉ (System.runOps host ops { runtime := { config } }).calls) ∧
    ∀ actions state, run (step host) actions (init config) = some state → state.quiescent = true →
      (state.system.Conserved ↔ ∀ handle, dropped handle ∉ state.system.calls) := by
  constructor
  · intro ops
    exact ((Custody.empty False config).runOps host ops).conserved_iff
  · intro actions state hrun hquiet
    have hstep : ∀ action before after, Custody False before.system before.loose →
        step host action before = some after → Custody False after.system after.loose :=
      fun action before after h hs => step_custody h False.elim hs
    have hcustody := run_invariant hstep (init_custody config) hrun
    rw [loose_of_quiescent hquiet] at hcustody
    exact hcustody.conserved_iff

theorem run_conserved_iff_bindingLine :
    ∃ state, run (step .quiet) bindingLine (init {}) = some state ∧ state.quiescent = true ∧
      (state.system.Conserved ↔ ∀ handle, dropped handle ∉ state.system.calls) :=
  ⟨_, rfl, by decide, (run_conserved_iff .quiet {}).2 bindingLine _ rfl (by decide)⟩

def muteHost : Host :=
  { Host.quiet with state := fun _ _ => .error (.transport "lemnos.gpio" gpioLine "no reply") }

theorem mute_bind_drops_instance :
    ∃ state, run (step muteHost) (findingLine ++ [.call (.bind gpioLine), .advance 1, .advance 1, .advance 1])
        (init {}) = some state ∧ state.quiescent = true ∧
      isOpened state.system.calls 0 = true ∧ state.system.runtime.boundHandles = [] ∧
      HostCall.close 0 ∉ state.system.calls ∧ ¬ state.system.Conserved := by
  refine ⟨_, rfl, by decide, by decide, by decide, by decide, ?_⟩
  intro hconserved
  have hline := hconserved 0 (by decide)
  revert hline
  decide

end AsyncRuntime

end Lemnos
