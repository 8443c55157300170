import Lemnos.AsyncRuntime.Sections
import Lemnos.Library.Runs

namespace Lemnos

open Lemnos.Core Discovery Registry Library.OrderedMap Library.Runs

namespace Task

variable {host : Host} {sys sys' : System} {task next : Task}

theorem commits_of_records {task : Task} {deviceId : DeviceId} (h : deviceId ∈ task.records) :
    task.commits = false := by
  cases task with
  | refreshCommit | shutdown => cases h
  | _ => rfl

theorem step_records {task : Task} {deviceId : DeviceId} (h : deviceId ∈ task.records) :
    deviceId ∈ (task.step host sys).2.runtime.desiredBindings ∨
      deviceId ∈ (task.step host sys).2.runtime.states := by
  cases task with
  | bindComplete bound result =>
    left
    simp only [records] at h
    split at h
    · rename_i hstored
      simp only [step, bindCompleted, if_pos hstored, System.setRuntime, Runtime.markDesiredBinding]
      rw [BTreeSet.mem_insert_iff]
      exact .inl (List.mem_singleton.mp h)
    · cases h
  | refreshStateComplete read result =>
    right
    cases result with
    | error error => cases h
    | ok snapshot =>
      cases snapshot with
      | none => cases h
      | some state =>
        cases List.mem_singleton.mp h
        exact (BTreeMap.mem_insert_iff _ _ _ _).mpr (.inl rfl)
  | requestComplete request result =>
    cases result with
    | error error => cases h
    | ok value =>
      obtain ⟨interaction, state, autoBound⟩ := value
      rcases List.mem_append.mp h with hstate | hauto
      · right
        cases state with
        | none => cases hstate
        | some state =>
          cases List.mem_singleton.mp hstate
          cases autoBound <;> exact (BTreeMap.mem_insert_iff _ _ _ _).mpr (.inl rfl)
      · left
        cases autoBound with
        | false => cases hauto
        | true => exact (BTreeSet.mem_insert_iff _ _ _).mpr (.inl (List.mem_singleton.mp hauto))
  | _ => cases h

theorem Section.emptied (h : Section host sys task next sys') (hemptied : sys.runtime.Emptied)
    (hstopped : sys.runtime.running = false) (hrecords : task.records = []) : sys'.runtime.Emptied := by
  apply Runtime.emptied_of_absent
  · intro deviceId
    refine h.absent (hemptied.absent deviceId) ?_ ?_
    · rw [hrecords]
      exact List.not_mem_nil
    · intro hr
      rw [hstopped] at hr
      cases hr
  · cases hcommits : task.commits with
    | false => rw [(h.sameDiscovery hcommits).probeInventory, hemptied.probeInventory]
    | true =>
      cases h with
      | shutDown => rfl
      | refreshRefused => exact hemptied.probeInventory
      | refreshCommitted discovery mode snapshot next running =>
        rw [hstopped] at running
        cases running
      | _ => cases hcommits

theorem Section.staysEmptied_of_running (h : Section host sys task next sys') (hr : sys.runtime.running = true) :
    sys'.runtime.StaysEmptied := by
  intro hstopped
  cases hcommits : task.commits with
  | false =>
    rw [(h.sameDiscovery hcommits).running, hr] at hstopped
    cases hstopped
  | true =>
    cases h with
    | shutDown => exact Runtime.emptied_shutdownDetached _
    | refreshRefused =>
      rw [hr] at hstopped
      cases hstopped
    | refreshCommitted discovery mode snapshot =>
      rw [System.setRuntime, Runtime.commitRefresh_snd] at hstopped
      rw [Runtime.recordInventoryEvents_running, hr] at hstopped
      cases hstopped
    | _ => cases hcommits

def RecordsRunning (sys : System) (task : Task) : Prop := sys.runtime.running = true ∨ task.records = []

instance (sys : System) (task : Task) : Decidable (task.RecordsRunning sys) :=
  inferInstanceAs (Decidable (_ ∨ _))

theorem step_staysEmptied_iff (h : sys.runtime.StaysEmptied) (task : Task) :
    (task.step host sys).2.runtime.StaysEmptied ↔ task.RecordsRunning sys := by
  cases hr : sys.runtime.running with
  | true => exact ⟨fun _ => .inl hr, fun _ => (task.step_section host sys).staysEmptied_of_running hr⟩
  | false =>
    constructor
    · -- what a section records without looking would be there in the stopped runtime
      intro hafter
      right
      rw [List.eq_nil_iff_forall_not_mem]
      intro deviceId hrecorded
      have hrunning : (task.step host sys).2.runtime.running = sys.runtime.running :=
        ((task.step_section host sys).sameDiscovery (commits_of_records hrecorded)).running
      have habsent := (hafter (hrunning.trans hr)).absent deviceId
      exact (step_records hrecorded).elim habsent.desired habsent.states
    · rintro (hrunning | hrecords)
      · rw [hr] at hrunning
        cases hrunning
      · exact fun _ => (task.step_section host sys).emptied (h hr) hr hrecords

end Task

namespace AsyncRuntime

variable {host : Host}

theorem exec_control_staysEmptied {sys : System} (h : sys.runtime.StaysEmptied) {op : RuntimeOp}
    (hop : op.isControl = true) : (sys.exec host op).runtime.StaysEmptied := by
  intro hstopped
  rcases sys.exec_control_cases host hop with hshut | ⟨hsame, hbefore⟩
  · rw [hshut]
    exact Runtime.emptied_shutdownDetached _
  · exact (h (hbefore hstopped)).of_sameHoldings hsame

/-- An operation that completes with a stored binding or a reported state completes while the runtime is
running. -/
def RecordsRunning (action : AsyncAction) (state : AsyncRuntime) : Prop :=
  match action with
  | .advance i => ∀ task ∈ state.tasks[i]?, task.RecordsRunning state.system
  | _ => True

instance (action : AsyncAction) (state : AsyncRuntime) : Decidable (RecordsRunning action state) :=
  match action with
  | .advance i => inferInstanceAs (Decidable (∀ task ∈ state.tasks[i]?, task.RecordsRunning state.system))
  | .call _ => isTrue trivial
  | .control _ => isTrue trivial

theorem step_staysEmptied_iff (action : AsyncAction) (state state' : AsyncRuntime)
    (h : state.system.runtime.StaysEmptied) (hs : state.step host action = some state') :
    state'.system.runtime.StaysEmptied ↔ RecordsRunning action state := by
  rcases step_cases hs with ⟨call, rfl, rfl⟩ | ⟨i, before, task, after, rfl, htasks, rfl, -, rfl⟩ |
    ⟨op, rfl, hop, rfl⟩
  · exact ⟨fun _ => trivial, fun _ => h⟩
  · have hget : state.tasks[before.length]? = some task := by simp [htasks]
    have hrecords : RecordsRunning (.advance before.length) state ↔ task.RecordsRunning state.system := by
      simp [RecordsRunning, hget]
    rw [hrecords]
    exact Task.step_staysEmptied_iff h task
  · exact ⟨fun _ => trivial, fun _ => exec_control_staysEmptied h hop⟩

theorem run_staysEmptied_iff (host : Host) (config : RuntimeConfig) (actions : List AsyncAction)
    (state : AsyncRuntime) (hrun : run (step host) actions (init config) = some state) :
    (∀ before after reached, actions = before ++ after → run (step host) before (init config) = some reached →
      reached.system.runtime.running = false → reached.system.runtime.Emptied) ↔
      Along (step host) RecordsRunning actions (init config) := by
  have hinit : (init config).system.runtime.StaysEmptied := by
    intro hstopped
    cases hstopped
  exact always_iff_along (p := fun state => state.system.runtime.StaysEmptied) step_staysEmptied_iff hinit
    hrun

theorem run_staysEmptied_iff_bindingLine :
    ∃ state, run (step .quiet) (bindingLine ++ [.control .shutdown]) (init {}) = some state ∧
      state.system.runtime.running = false ∧
      ∀ before after reached, bindingLine ++ [.control .shutdown] = before ++ after →
        run (step .quiet) before (init {}) = some reached →
        reached.system.runtime.running = false → reached.system.runtime.Emptied :=
  ⟨_, rfl, rfl, (run_staysEmptied_iff .quiet {} (bindingLine ++ [.control .shutdown]) _ rfl).mpr (by decide)⟩

/-- The runtime is shut down after a bind has stored its instance and before it completes. -/
def shutUnderBind : List AsyncAction :=
  findingLine ++ [.call (.bind gpioLine), .advance 1, .advance 1, .advance 1, .control .shutdown, .advance 1]

theorem bind_completes_after_shutdown :
    ∃ state, run (step .quiet) shutUnderBind (init {}) = some state ∧
      state.system.runtime.running = false ∧ gpioLine ∈ state.system.runtime.desiredBindings ∧
      ¬ state.system.runtime.Emptied := by
  refine ⟨_, rfl, rfl, by decide, ?_⟩
  intro hempty
  have hline := (hempty.absent gpioLine).desired
  revert hline
  decide

end AsyncRuntime

end Lemnos
