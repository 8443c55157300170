import Lemnos.Discovery.Run
import Lemnos.Library.Workers

namespace Lemnos.Discovery

open Lemnos.Core Library.Runs Library.Workers

/-- What a probe reports in a context, after the moves that the workers have made. -/
abbrev ProbeOutcomes := List ℕ → SelectedProbe → DiscoveryResult ProbeDiscovery

def ProbeOutcomes.result (outcomes : ProbeOutcomes) (history : List ℕ) (indexed : ℕ × SelectedProbe) :
    ProbeRunResult :=
  (indexed.1, indexed.2, outcomes history indexed.2)

def runInline (outcomes : ProbeOutcomes) : List ℕ → List (ℕ × SelectedProbe) → List ProbeRunResult
  | _, [] => []
  | history, indexed :: rest =>
    outcomes.result (history ++ [0]) indexed :: runInline outcomes (history ++ [0, 0]) rest

abbrev ProbePool := Pool (ℕ × SelectedProbe) ProbeRunResult

def spawnProbeBatches (selectedProbes : List SelectedProbe) (workerCount : ℕ) : ProbePool :=
  spawn (buildProbeBatches selectedProbes workerCount)

def joinProbeBatches (pool : ProbePool) : List ProbeRunResult :=
  pool.results.insertionSort (fun left right => left.1 ≤ right.1)

def reportResults (context : DiscoveryContext) (results : List ProbeRunResult) :
    DiscoveryResult DiscoveryRunReport := do
  let (devices, probeReports) ← processProbeResults (results.map Prod.snd) [] []
  let snapshot ← InventorySnapshot.withObservedAt devices context.observedAt
  pure { snapshot, probeReports }

theorem runProbes_eq_reportResults (availableParallelism : ℕ) (context : DiscoveryContext)
    (probes : List DiscoveryProbe) : runProbes availableParallelism context probes =
      reportResults context (runSelectedProbes availableParallelism context (selectProbes context probes)) :=
  rfl

variable {context : DiscoveryContext} {selectedProbes : List SelectedProbe} {outcomes : ProbeOutcomes}

theorem mem_buildProbeBatches {workerCount : ℕ} (hw : 0 < workerCount) {indexed : ℕ × SelectedProbe}
    (h : indexed ∈ (buildProbeBatches selectedProbes workerCount).flatten) : indexed.2 ∈ selectedProbes := by
  obtain ⟨entry, hentry, rfl⟩ := List.mem_map.mp ((buildProbeBatches_flatten_perm selectedProbes hw).subset h)
  exact List.fst_mem_of_mem_zipIdx hentry

theorem runInline_eq
    (houtcomes : ∀ history, ∀ selected ∈ selectedProbes,
      outcomes history selected = selected.probe.discover context)
    {indexed : List (ℕ × SelectedProbe)} (hindexed : ∀ entry ∈ indexed, entry.2 ∈ selectedProbes)
    (history : List ℕ) : runInline outcomes history indexed = indexed.map (runIndexedProbe context) := by
  induction indexed generalizing history with
  | nil => rfl
  | cons entry indexed ih =>
    obtain ⟨hentry, hrest⟩ := List.forall_mem_cons.mp hindexed
    rw [runInline, ih hrest, List.map_cons, ProbeOutcomes.result, houtcomes _ _ hentry, runIndexedProbe]

theorem joinProbeBatches_eq {workerCount : ℕ} (hw : 0 < workerCount)
    (houtcomes : ∀ history, ∀ selected ∈ selectedProbes,
      outcomes history selected = selected.probe.discover context)
    {schedule : List ℕ} {pool : ProbePool}
    (hrun : run (Pool.step outcomes.result) schedule (spawnProbeBatches selectedProbes workerCount) = some pool)
    (hjoined : pool.Joined) :
    joinProbeBatches pool = runSelectedProbesParallel context selectedProbes workerCount := by
  have hresults : pool.results =
      (buildProbeBatches selectedProbes workerCount).flatten.map (runIndexedProbe context) := by
    refine Pool.results_of_joined ?_ hrun hjoined
    intro history indexed hindexed
    rw [ProbeOutcomes.result, houtcomes history _ (mem_buildProbeBatches hw hindexed), runIndexedProbe]
  rw [joinProbeBatches, hresults, List.map_flatten, runSelectedProbesParallel, List.flatMap_def]
  rfl

theorem schedule_length_le {workerCount : ℕ} (hw : 0 < workerCount) {schedule : List ℕ} {pool : ProbePool}
    (hrun : run (Pool.step outcomes.result) schedule (spawnProbeBatches selectedProbes workerCount) = some pool) :
    schedule.length ≤ 2 * selectedProbes.length := by
  have hmoves := Pool.run_movesLeft hrun
  have hlength := (buildProbeBatches_flatten_perm selectedProbes hw).length_eq
  rw [List.length_map, List.length_zipIdx] at hlength
  rw [spawnProbeBatches, Pool.spawn_movesLeft, hlength] at hmoves
  omega

theorem parallel_probing_eq_inline (context : DiscoveryContext) (selectedProbes : List SelectedProbe)
    (workerCount : ℕ) (hw : 0 < workerCount) (outcomes : ProbeOutcomes)
    (houtcomes : ∀ history, ∀ selected ∈ selectedProbes,
      outcomes history selected = selected.probe.discover context) :
    let start := spawnProbeBatches selectedProbes workerCount
    let inline := runInline outcomes [] (selectedProbes.zipIdx.map Prod.swap)
    (∀ schedule pool, run (Pool.step outcomes.result) schedule start = some pool → pool.Joined →
      joinProbeBatches pool = inline ∧
        reportResults context (joinProbeBatches pool) = reportResults context inline) ∧
    (∀ schedule pool, run (Pool.step outcomes.result) schedule start = some pool →
      schedule.length ≤ 2 * selectedProbes.length ∧
        (¬pool.Joined → ∃ i pool', pool.step outcomes.result i = some pool')) ∧
    ∀ availableParallelism, runSelectedProbes availableParallelism context selectedProbes = inline ∧
      ∀ probes, selectProbes context probes = selectedProbes →
        runProbes availableParallelism context probes = reportResults context inline := by
  intro start inline
  have hinline : inline = (selectedProbes.zipIdx.map Prod.swap).map (runIndexedProbe context) := by
    apply runInline_eq houtcomes
    intro entry hentry
    obtain ⟨indexed, hindexed, rfl⟩ := List.mem_map.mp hentry
    exact List.fst_mem_of_mem_zipIdx hindexed
  refine ⟨?_, ?_, ?_⟩
  · intro schedule pool hrun hjoined
    have hjoin : joinProbeBatches pool = inline := by
      rw [joinProbeBatches_eq hw houtcomes hrun hjoined, runSelectedProbesParallel_eq context selectedProbes hw,
        hinline]
    exact ⟨hjoin, congrArg (reportResults context) hjoin⟩
  · intro schedule pool hrun
    exact ⟨schedule_length_le hw hrun, Pool.exists_step⟩
  · intro availableParallelism
    have hsame : runSelectedProbes availableParallelism context selectedProbes = inline := by
      rw [runSelectedProbes_eq, hinline]
    refine ⟨hsame, ?_⟩
    intro probes hselected
    rw [runProbes_eq_reportResults, hselected, hsame]

def silentProbe (name : String) : SelectedProbe := ⟨⟨name, [.gpio], fun _ => .ok {}⟩, [.gpio], [.gpio]⟩

def failingProbe (name : String) : SelectedProbe :=
  ⟨⟨name, [.i2c], fun _ => .error (.probeFailed name "unreadable")⟩, [.i2c], [.i2c]⟩

def readsContext : ProbeOutcomes := fun _ selected => selected.probe.discover {}

theorem parallel_probing_eq_inline_outOfOrder : ∃ pool,
    run (Pool.step readsContext.result) [1, 0, 1, 0, 0, 0]
        (spawnProbeBatches [silentProbe "gpio", failingProbe "i2c", silentProbe "pwm"] 2) = some pool ∧
      joinProbeBatches pool = runInline readsContext []
        [(0, silentProbe "gpio"), (1, failingProbe "i2c"), (2, silentProbe "pwm")] :=
  ⟨_, rfl, ((parallel_probing_eq_inline {} [silentProbe "gpio", failingProbe "i2c", silentProbe "pwm"] 2
    (by decide) readsContext (fun _ _ _ => rfl)).1 [1, 0, 1, 0, 0, 0] _ rfl
    (List.forall_mem_cons.mpr ⟨rfl, List.forall_mem_cons.mpr ⟨rfl, List.forall_mem_nil _⟩⟩)).1⟩

end Lemnos.Discovery
