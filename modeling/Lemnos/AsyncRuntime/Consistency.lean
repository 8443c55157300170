import Lemnos.AsyncRuntime.Sections
import Lemnos.Library.Runs

namespace Lemnos

open Lemnos.Core Discovery Registry Library.OrderedMap Library.Runs

namespace Task

variable {host : Host} {sys sys' : System} {task next : Task}

def StoresCurrent (sys : System) (task : Task) : Prop :=
  ∀ entry ∈ task.storing, sys.runtime.running = true → entry.1 ∉ sys.runtime.bindings →
    sys.runtime.Lists entry.1 entry.2.device

instance (sys : System) (task : Task) : Decidable (task.StoresCurrent sys) :=
  inferInstanceAs (Decidable (∀ entry ∈ task.storing, _ → _ → _))

theorem Section.storing_consistent_iff (h : Section host sys task next sys') (hconsistent : sys.runtime.Consistent)
    {deviceId : DeviceId} {bound : BoundDevice} (hstoring : task.storing = some (deviceId, bound)) :
    sys'.runtime.Consistent ↔ task.StoresCurrent sys := by
  have hbindings := h.storing hstoring
  have hinventory : sys'.runtime.inventory = sys.runtime.inventory := by
    refine (h.sameDiscovery ?_).inventory
    cases task <;> first | rfl | cases hstoring
  have hcurrent : task.StoresCurrent sys ↔
      (sys.runtime.running = true ∧ deviceId ∉ sys.runtime.bindings →
        sys.runtime.Lists deviceId bound.device) := by
    rw [StoresCurrent, hstoring]
    simp
  rw [hcurrent]
  split at hbindings
  · rename_i hfree
    rw [hconsistent.insert_iff hinventory hbindings]
    exact ⟨fun hlisted _ => hlisted, fun hlisted => hlisted hfree⟩
  · rename_i hbusy
    exact ⟨fun _ hfree => absurd hfree hbusy, fun _ => hconsistent.congr hinventory hbindings⟩

theorem Section.consistent (h : Section host sys task next sys') (hconsistent : sys.runtime.Consistent)
    (hstoring : task.storing = none) : sys'.runtime.Consistent := by
  cases hcommits : task.commits with
  | false =>
    intro deviceId bound hget
    rw [Runtime.Lists, (h.sameDiscovery hcommits).inventory]
    rcases h.binding hcommits hget with hbefore | hstored | hopened
    · exact hconsistent deviceId bound hbefore
    · rw [hstoring] at hstored
      cases hstored
    · exact ⟨bound.device, hopened, .refl bound.device⟩
  | true =>
    cases h with
    | refreshRefused => exact hconsistent
    | refreshCommitted discovery mode snapshot => exact hconsistent.commitRefresh discovery mode snapshot
    | shutDown => exact .of_unbound rfl
    | _ => cases hcommits

theorem step_consistent_iff (h : sys.runtime.Consistent) (task : Task) :
    (task.step host sys).2.runtime.Consistent ↔ task.StoresCurrent sys := by
  cases hstoring : task.storing with
  | none =>
    refine ⟨fun _ => ?_, fun _ => (task.step_section host sys).consistent h hstoring⟩
    rw [StoresCurrent, hstoring]
    simp
  | some entry => exact (task.step_section host sys).storing_consistent_iff h hstoring

end Task

namespace AsyncRuntime

variable {host : Host} {state state' : AsyncRuntime}

/-- A bind or request that stores its instance now finds the device in the inventory as it was prepared. -/
def StoresCurrent (action : AsyncAction) (state : AsyncRuntime) : Prop :=
  match action with
  | .advance i => ∀ task ∈ state.tasks[i]?, task.StoresCurrent state.system
  | _ => True

instance (action : AsyncAction) (state : AsyncRuntime) : Decidable (StoresCurrent action state) :=
  match action with
  | .advance i => inferInstanceAs (Decidable (∀ task ∈ state.tasks[i]?, task.StoresCurrent state.system))
  | .call _ => isTrue trivial
  | .control _ => isTrue trivial

theorem exec_control_consistent {sys : System} (h : sys.runtime.Consistent) {op : RuntimeOp}
    (hop : op.isControl = true) : (sys.exec host op).runtime.Consistent := by
  rcases sys.exec_control_cases host hop with hshut | ⟨hsame, -⟩
  · exact .of_unbound (by rw [hshut, Runtime.shutdownDetached_bindings])
  · exact h.congr hsame.inventory hsame.bindings

theorem step_consistent_iff (action : AsyncAction) (state state' : AsyncRuntime)
    (h : state.system.runtime.Consistent) (hs : state.step host action = some state') :
    state'.system.runtime.Consistent ↔ StoresCurrent action state := by
  rcases step_cases hs with ⟨call, rfl, rfl⟩ | ⟨i, before, task, after, rfl, htasks, rfl, -, rfl⟩ |
    ⟨op, rfl, hop, rfl⟩
  · exact ⟨fun _ => trivial, fun _ => h⟩
  · have hget : state.tasks[before.length]? = some task := by simp [htasks]
    have hcurrent : StoresCurrent (.advance before.length) state ↔ task.StoresCurrent state.system := by
      simp [StoresCurrent, hget]
    rw [hcurrent]
    exact Task.step_consistent_iff h task
  · exact ⟨fun _ => trivial, fun _ => exec_control_consistent h hop⟩

theorem run_consistent_iff (host : Host) (config : RuntimeConfig) (actions : List AsyncAction)
    (state : AsyncRuntime) (hrun : run (step host) actions (init config) = some state) :
    (∀ before after reached, actions = before ++ after → run (step host) before (init config) = some reached →
      reached.system.runtime.Consistent) ↔ Along (step host) StoresCurrent actions (init config) :=
  always_iff_along step_consistent_iff (Runtime.Consistent.of_unbound rfl) hrun

theorem run_consistent_iff_bindingLine :
    ∃ state, run (step .quiet) bindingLine (init {}) = some state ∧ state.system.runtime.bindings.size = 1 ∧
      ∀ before after reached, bindingLine = before ++ after →
        run (step .quiet) before (init {}) = some reached →
        reached.system.runtime.Consistent :=
  ⟨_, rfl, by decide, (run_consistent_iff .quiet {} bindingLine _ rfl).mpr (by decide)⟩

def nothingFound : DiscoveryRunReport where
  snapshot := {}
  probeReports := [.success "linux-gpio" [.gpio] [.gpio] 0 [] []]

/-- While the driver opens the line, a refresh commits that the line is gone. -/
def removedUnderBind : List AsyncAction :=
  findingLine ++ [.call (.bind gpioLine), .advance 1, .advance 1, .call (.refresh nothingFound .full),
    .advance 2, .advance 1]

theorem bind_stores_removed_device :
    ∃ state, run (step .quiet) removedUnderBind (init {}) = some state ∧
      gpioLine ∈ state.system.runtime.bindings ∧ state.system.runtime.inventory.get gpioLine = none ∧
      ¬ state.system.runtime.Consistent := by
  refine ⟨_, rfl, by decide, by decide, ?_⟩
  intro hconsistent
  have hline := hconsistent gpioLine ⟨0, "lemnos.gpio", gpioLineDescriptor⟩ (by decide)
  revert hline
  decide

end AsyncRuntime

end Lemnos
