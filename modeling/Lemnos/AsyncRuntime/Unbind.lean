import Lemnos.AsyncRuntime.Sections
import Lemnos.Library.Runs

namespace Lemnos

open Lemnos.Core Discovery Registry Library.OrderedMap Library.Runs

namespace Task

variable {host : Host} {sys sys' : System} {task next : Task}

def Named : Task → Prop
  | bindOpen deviceId prepared => prepared.descriptor.id = deviceId
  | bindStore deviceId output => output.Named deviceId
  | refreshStateRead deviceId bound => bound.device.id = deviceId
  | refreshStateComplete deviceId result =>
    ∀ snapshot, result = .ok (some snapshot) → snapshot.deviceId = deviceId
  | requestOpen request prepared _ _ => prepared.descriptor.id = request.deviceId
  | requestStore request output _ _ => output.Named request.deviceId
  | requestDiscard request _ bound _ _ => bound.device.id = request.deviceId
  | requestExecute request bound _ _ _ => bound.device.id = request.deviceId
  | requestComplete request result => ∀ interaction state autoBound,
      result = .ok (interaction, some state, autoBound) → state.deviceId = request.deviceId
  | _ => True

theorem prepareBind_named {runtime : Runtime} {deviceId : DeviceId} {prepared : PreparedBinding}
    (h : runtime.prepareBind deviceId = .ok (some prepared)) : prepared.descriptor.id = deviceId := by
  unfold Runtime.prepareBind at h
  split at h
  · cases h
  · split at h
    · cases h
    · split at h
      · cases h
      · rename_i descriptor hget
        split at h
        · cases h
        · rename_i hp
          cases h
          rw [(Runtime.prepareBinding_ok hp).1]
          exact runtime.inventory.get_id hget

theorem prepareAutoBind_named {runtime : Runtime} {request : DeviceRequest} {prepared : PreparedBinding}
    (h : runtime.prepareAutoBind request = .ok prepared) : prepared.descriptor.id = request.deviceId := by
  unfold Runtime.prepareAutoBind at h
  split at h
  · cases h
  · rename_i device hvalid
    rw [(Runtime.prepareBinding_ok h).1]
    exact runtime.inventory.get_id (Runtime.validatedRequestDevice_ok hvalid).2

theorem Section.named (h : Section host sys task next sys') (hhost : host.ReportsOwn)
    (hruntime : sys.runtime.Named) (hnamed : task.Named) : next.Named := by
  cases h with
  | bindPrepared _ _ found => exact prepareBind_named found
  | bindOpened _ _ _ opened | requestOpened _ _ _ _ _ opened =>
    exact PreparedBinding.bind_named hhost (Prod.ext opened rfl) hnamed
  | stateFound _ bound found | requestFound _ _ bound found | autoBindFound _ _ bound found =>
    exact hruntime _ bound found
  | stateRead =>
    intro snapshot hread
    exact System.reportState_named hhost hnamed hread
  | requestRefused | autoBindRefused | requestFailed | requestClosed | requestThrown =>
    intro interaction state autoBound heq
    cases heq
  | autoBindPrepared _ _ _ found => exact prepareAutoBind_named found
  | requestStored => exact PreparedBindingOutput.Named.device hnamed
  | requestOutrun _ _ _ _ bound found => exact hruntime _ bound found
  | requestDiscarded => exact hnamed
  | requestExecuted _ _ _ _ _ _ _ executed =>
    intro interaction state autoBound heq
    cases heq
    obtain ⟨-, executing, hreport⟩ := System.executeBound_state (Prod.ext executed rfl)
    exact System.reportState_named hhost hnamed hreport
  | _ => trivial

theorem Section.runtime_named (h : Section host sys task next sys') (hruntime : sys.runtime.Named)
    (hnamed : task.Named) : sys'.runtime.Named := by
  intro deviceId bound hget
  cases hcommits : task.commits with
  | false =>
    rcases h.binding hcommits hget with hbefore | hstored | hopened
    · exact hruntime deviceId bound hbefore
    · cases task with
      | bindStore | requestStore =>
        cases hstored
        exact PreparedBindingOutput.Named.device hnamed
      | _ => cases hstored
    · exact sys.runtime.inventory.get_id hopened
  | true =>
    cases h with
    | refreshRefused => exact hruntime deviceId bound hget
    | refreshCommitted discovery mode snapshot next =>
      simp only [System.setRuntime, Runtime.commitRefresh_snd, BTreeMap.eraseAll_getElem?] at hget
      split at hget
      · cases hget
      · exact hruntime deviceId bound hget
    | shutDown => simp [System.setRuntime] at hget
    | _ => cases hcommits

def restores : Task → List DeviceId
  | bindPrepare deviceId | bindOpen deviceId _ | bindStore deviceId _ | refreshStateRead deviceId _ =>
    [deviceId]
  | bindComplete deviceId result => if storedBinding result then [deviceId] else []
  | refreshStateComplete deviceId (.ok (some _)) => [deviceId]
  | requestStart request | requestPrepare request _ | requestAutoBind request _ | requestOpen request _ _ _
  | requestStore request _ _ _ => [request.deviceId]
  | requestDiscard request _ _ cacheStateOnRequest _ => if cacheStateOnRequest then [request.deviceId] else []
  | requestExecute request _ cacheStateOnRequest autoBound _ =>
    if cacheStateOnRequest || autoBound then [request.deviceId] else []
  | requestComplete request (.ok (_, state, autoBound)) =>
    if state.isSome || autoBound then [request.deviceId] else []
  | refreshClose _ rebindTargets | refreshRebind rebindTargets => rebindTargets
  | _ => []

theorem records_restores {task : Task} (hnamed : task.Named) {deviceId : DeviceId}
    (h : deviceId ∈ task.records) :
    deviceId ∈ task.restores := by
  cases task with
  | bindComplete bound result => exact h
  | refreshStateComplete read result =>
    cases result with
    | error error => cases h
    | ok snapshot =>
      cases snapshot with
      | none => cases h
      | some state =>
        cases List.mem_singleton.mp h
        rw [hnamed state rfl]
        exact List.mem_singleton_self read
  | requestComplete request result =>
    cases result with
    | error error => cases h
    | ok value =>
      obtain ⟨interaction, state, autoBound⟩ := value
      rcases List.mem_append.mp h with hstate | hauto
      · cases state with
        | none => cases hstate
        | some state =>
          cases List.mem_singleton.mp hstate
          rw [hnamed interaction state autoBound rfl]
          exact List.mem_singleton_self _
      · cases autoBound with
        | false => cases hauto
        | true =>
          cases List.mem_singleton.mp hauto
          simp [restores]
  | _ => cases h

theorem output_stores_named {stored deviceId : DeviceId} {output : PreparedBindingOutput}
    (hnamed : output.Named stored)
    (h : deviceId ∈ stored :: output.initialState.toList.map DeviceStateSnapshot.deviceId) :
    deviceId = stored := by
  rcases List.mem_cons.mp h with heq | hstate
  · exact heq
  · obtain ⟨reported, hreported, rfl⟩ := List.mem_map.mp hstate
    exact hnamed.state reported (Option.mem_toList.mp hreported)

theorem stores_restores {task : Task} (hnamed : task.Named) {deviceId : DeviceId}
    (h : deviceId ∈ task.stores) :
    deviceId ∈ task.restores := by
  cases task with
  | bindStore stored output => exact List.mem_singleton.mpr (output_stores_named hnamed h)
  | requestStore request output cacheStateOnRequest locked =>
    exact List.mem_singleton.mpr (output_stores_named hnamed h)
  | refreshRebind rebindTargets => exact h
  | _ => cases h

theorem requestExecute_restores {request : DeviceRequest} {bound : BoundDevice}
    {cacheStateOnRequest autoBound locked : Bool} {deviceId : DeviceId}
    (h : deviceId ∈ (requestExecute request bound cacheStateOnRequest autoBound locked).restores) :
    deviceId = request.deviceId := by
  simp only [restores] at h
  split at h
  · exact List.mem_singleton.mp h
  · cases h

theorem Section.restores (h : Section host sys task next sys') {deviceId : DeviceId}
    (hrestores : deviceId ∈ next.restores) :
    deviceId ∈ task.restores ∨ deviceId ∈ sys.runtime.bindings ∨ deviceId ∈ sys.runtime.desiredBindings := by
  cases h with
  | bindSettled _ _ unstored | bindClosed _ _ _ unstored => simp [Task.restores, unstored] at hrestores
  | bindPrepared | bindOpened | bindStored => exact .inl hrestores
  | stateFound read bound found =>
    -- the instance to read was found among the bindings
    right
    left
    cases List.mem_singleton.mp hrestores
    exact (BTreeMap.mem_iff_exists _ _).mpr ⟨bound, found⟩
  | stateRead read bound =>
    left
    generalize (System.reportState host sys read bound).1 = result at hrestores
    rcases result with error | _ | snapshot
    · cases hrestores
    · cases hrestores
    · exact hrestores
  | requestStarted | requestUnbound | autoBindPrepared | requestOpened => exact .inl hrestores
  | requestFound | autoBindFound | requestStored =>
    exact .inl (List.mem_singleton.mpr (requestExecute_restores hrestores))
  | requestOutrun request output cacheStateOnRequest =>
    cases cacheStateOnRequest with
    | false => cases hrestores
    | true => exact .inl hrestores
  | requestDiscarded =>
    left
    simp only [Task.restores, Bool.or_false] at hrestores
    exact hrestores
  | requestExecuted request bound cacheStateOnRequest autoBound locked interaction state executed =>
    left
    cases autoBound with
    | true =>
      rw [Task.restores, Bool.or_true]
      rw [Task.restores, Bool.or_true] at hrestores
      exact hrestores
    | false =>
      cases state with
      | none => cases hrestores
      | some state =>
        rw [(System.executeBound_state (Prod.ext executed rfl)).1]
        exact hrestores
  | refreshCommitted => exact .inr (.inr ((Runtime.mem_collectRebindTargets _ _ _ _).mp hrestores).2.1)
  | refreshClosed | refreshClosedNext => exact .inl hrestores
  | _ => cases hrestores

end Task

def AsyncAction.asksFor : AsyncAction → Option DeviceId
  | .call (.bind deviceId) => some deviceId
  | .call (.request request) => some request.deviceId
  | _ => none

namespace AsyncRuntime

variable {host : Host} {action : AsyncAction} {state state' : AsyncRuntime}

structure Named (state : AsyncRuntime) : Prop where
  runtime : state.system.runtime.Named
  tasks : ∀ task ∈ state.tasks, task.Named

theorem call_named (call : AsyncCall) : call.task.Named := by
  cases call <;> trivial

theorem exec_control_named {sys : System} (h : sys.runtime.Named) {op : RuntimeOp}
    (hop : op.isControl = true) :
    (sys.exec host op).runtime.Named := by
  intro deviceId bound hget
  rcases sys.exec_control_cases host hop with hshut | ⟨hsame, -⟩
  · rw [hshut, Runtime.shutdownDetached_bindings] at hget
    simp at hget
  · rw [hsame.bindings] at hget
    exact h deviceId bound hget

theorem step_named (hhost : host.ReportsOwn) (h : state.Named) (hs : state.step host action = some state') :
    state'.Named where
  runtime := by
    rcases step_system hs with heq | ⟨task, htask, heq⟩ | ⟨op, hop, heq⟩
    · rw [heq]
      exact h.runtime
    · rw [heq]
      exact (task.step_section host state.system).runtime_named h.runtime (h.tasks task htask)
    · rw [heq]
      exact exec_control_named h.runtime hop
  tasks := step_tasks hs h.tasks (fun call _ => call_named call)
    (fun task htask _ => (task.step_section host state.system).named hhost h.runtime (h.tasks task htask))

theorem init_named (config : RuntimeConfig) : (init config).Named where
  runtime := by
    intro deviceId bound hget
    simp [init] at hget
  tasks := fun _ htask => by cases htask

structure Gone (deviceId : DeviceId) (state : AsyncRuntime) : Prop where
  named : state.Named
  absent : state.system.runtime.Absent deviceId
  tasks : ∀ task ∈ state.tasks, deviceId ∉ task.restores

theorem exec_control_absent {sys : System} {deviceId : DeviceId} (h : sys.runtime.Absent deviceId)
    {op : RuntimeOp} (hop : op.isControl = true) : (sys.exec host op).runtime.Absent deviceId := by
  rcases sys.exec_control_cases host hop with hshut | ⟨hsame, -⟩
  · rw [hshut]
    exact Runtime.absent_shutdownDetached deviceId _
  · exact h.of_sameHoldings hsame

theorem call_restores {call : AsyncCall} {deviceId : DeviceId} (h : deviceId ∈ call.task.restores) :
    AsyncAction.asksFor (.call call) = some deviceId := by
  cases call with
  | bind bound =>
    cases List.mem_singleton.mp h
    rfl
  | request request =>
    cases List.mem_singleton.mp h
    rfl
  | _ => cases h

theorem step_gone (hhost : host.ReportsOwn) {deviceId : DeviceId} (h : Gone deviceId state)
    (hcalls : action.asksFor ≠ some deviceId) (hs : state.step host action = some state') :
    Gone deviceId state' where
  named := step_named hhost h.named hs
  absent := by
    rcases step_system hs with heq | ⟨task, htask, heq⟩ | ⟨op, hop, heq⟩
    · rw [heq]
      exact h.absent
    · -- a section records and stores only of devices that its operation may restore
      have hnamed := h.named.tasks task htask
      have hkept := h.tasks task htask
      rw [heq]
      refine (task.step_section host state.system).absent h.absent (mt (Task.records_restores hnamed) hkept) ?_
      exact fun _ => ⟨mt (Task.stores_restores hnamed) hkept, hhost⟩
    · rw [heq]
      exact exec_control_absent h.absent hop
  tasks := by
    refine step_tasks hs h.tasks ?_ ?_
    · rintro call rfl hrestores
      exact hcalls (call_restores hrestores)
    · intro task htask _ hrestores
      rcases (task.step_section host state.system).restores hrestores with hbefore | hbound | hdesired
      · exact h.tasks task htask hbefore
      · exact h.absent.bindings hbound
      · exact h.absent.desired hdesired

theorem run_gone (hhost : host.ReportsOwn) {deviceId : DeviceId} {actions : List AsyncAction}
    (h : Gone deviceId state) (hcalls : ∀ action ∈ actions, action.asksFor ≠ some deviceId)
    (hrun : run (step host) actions state = some state') : Gone deviceId state' := by
  induction actions generalizing state with
  | nil =>
    cases hrun
    exact h
  | cons action actions ih =>
    obtain ⟨next, hs, hrest⟩ := run_cons hrun
    exact ih (step_gone hhost h (hcalls action List.mem_cons_self) hs)
      (fun later hlater => hcalls later (List.mem_cons_of_mem action hlater)) hrest

/-- An unbind is final if, when it takes the device out, no operation in flight can still put something of
the device back, and if no bind or request of the device comes after it. -/
theorem run_unbind_final (host : Host) (hhost : host.ReportsOwn) (config : RuntimeConfig)
    (deviceId : DeviceId)
    (before after : List AsyncAction) (i : ℕ) (reached state : AsyncRuntime)
    (hbefore : run (step host) before (init config) = some reached)
    (htask : reached.tasks[i]? = some (.unbind deviceId))
    (hfree : ∀ task ∈ reached.tasks, deviceId ∉ task.restores)
    (hafter : run (step host) (.advance i :: after) reached = some state)
    (hcalls : ∀ action ∈ after, action.asksFor ≠ some deviceId) : state.system.runtime.Absent deviceId := by
  have hnamed : reached.Named :=
    run_invariant (fun _ _ _ h hs => step_named hhost h hs) (init_named config) hbefore
  obtain ⟨unbound, hs, hrest⟩ := run_cons hafter
  have hunbound :
      unbound.system.runtime.Absent deviceId ∧ ∀ task ∈ unbound.tasks, deviceId ∉ task.restores := by
    simp only [step, htask, Task.isDone, blocked, Task.takesLock, Bool.or_self, Bool.false_eq_true,
      if_false] at hs
    cases hs
    refine ⟨Runtime.absent_unbindDetached deviceId _, ?_⟩
    intro task hmem
    rcases List.mem_or_eq_of_mem_set hmem with hmem | rfl
    · exact hfree task hmem
    · exact List.not_mem_nil
  have hgone : Gone deviceId unbound := ⟨step_named hhost hnamed hs, hunbound.1, hunbound.2⟩
  exact (run_gone hhost hgone hcalls hrest).absent

theorem run_unbind_final_bindingLine :
    ∃ reached state, run (step .quiet) (bindingLine ++ [.call (.unbind gpioLine)]) (init {}) = some reached ∧
      gpioLine ∈ reached.system.runtime.bindings ∧
      run (step .quiet) [.advance 2, .advance 2, .advance 2] reached = some state ∧ state.quiescent = true ∧
      state.system.runtime.Absent gpioLine :=
  ⟨_, _, rfl, by decide, rfl, by decide,
    run_unbind_final .quiet Host.quiet_reportsOwn {} gpioLine (bindingLine ++ [.call (.unbind gpioLine)])
      [.advance 2, .advance 2] 2 _ _ rfl rfl (by decide) rfl (by decide)⟩

def movedLine : DeviceDescriptor := { gpioLineDescriptor with address := some (.gpioLine "gpiochip1" 7) }

def lineMoved : DiscoveryRunReport where
  snapshot := ⟨none, [movedLine], by decide⟩
  probeReports := [.success "linux-gpio" [.gpio] [.gpio] 1 [gpioLine] []]

/-- A refresh takes the moved line out to bind it anew, and the unbind comes before it does. -/
def unboundUnderRebind : List AsyncAction :=
  bindingLine ++ [.call (.refresh lineMoved .full), .advance 2, .call (.unbind gpioLine), .advance 3,
    .advance 3, .advance 2, .advance 2, .advance 2]

theorem refresh_rebinds_after_unbind :
    ∃ state, run (step .quiet) unboundUnderRebind (init {}) = some state ∧ state.quiescent = true ∧
      gpioLine ∈ state.system.runtime.bindings ∧ ¬ state.system.runtime.Absent gpioLine := by
  refine ⟨_, rfl, by decide, by decide, ?_⟩
  intro habsent
  have hline := habsent.bindings
  revert hline
  decide

end AsyncRuntime

end Lemnos
