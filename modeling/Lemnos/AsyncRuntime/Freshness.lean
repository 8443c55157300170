import Lemnos.AsyncRuntime.Sections
import Lemnos.Runtime.WatchAgreement

namespace Lemnos

open Lemnos.Core Discovery Registry Library.OrderedMap Library.Runs

structure Sighting where
  time : ℕ
  devices : List DeviceDescriptor

structure DistinctProbes where
  specs : List ProbeSpec
  names : (specs.map Prod.fst).Nodup

structure ObservedRefresh where
  context : DiscoveryContext
  specs : List ProbeSpec
  mode : RefreshMode
  seen : BTreeMap String Sighting := ∅
  rest : Option Task := none
  committed : Bool := false

def Task.commitsRefresh (host : Host) (sys : System) : Task → Bool
  | refreshCommit discovery mode => (sys.runtime.prepareRefreshCommit host.layout discovery mode).isOk
  | _ => false

def Task.finishes : Task → Bool
  | refreshClose .. | refreshRebind _ | done => true
  | _ => false

namespace ObservedRefresh

variable (host : Host) (refresh : ObservedRefresh)

def slots : List ProbeSlot :=
  refresh.specs.flatMap (fun spec =>
    (selectedInterfaces refresh.context spec.2).map (fun interface => (spec.1, interface)))

def answers : Answers := fun probe => .ok ((refresh.seen[probe]?.map Sighting.devices).getD [])

def sighted (slot : ProbeSlot) : List DeviceDescriptor :=
  ((refresh.seen[slot.1]?.map Sighting.devices).getD []).filter (fun device => device.interface = slot.2)

def ready : Bool := refresh.slots.all (fun slot => refresh.seen.contains slot.1)

def discovered : Task :=
  match runProbes host.availableParallelism refresh.context
      (refresh.specs.map (ProbeSpec.probe refresh.answers)) with
  | .error _ => .done
  | .ok discovery => .refreshCommit discovery refresh.mode

def look (probe : String) (sighting : Sighting) : Option ObservedRefresh :=
  if refresh.rest.isNone && refresh.slots.any (fun slot => slot.1 = probe) &&
      !refresh.seen.contains probe then
    some { refresh with seen := refresh.seen.insert probe sighting }
  else none

def advance (sys : System) : Option (ObservedRefresh × System) :=
  match refresh.rest with
  | none =>
    if refresh.ready then some ({ refresh with rest := some (refresh.discovered host) }, sys) else none
  | some task =>
    if task.isDone then none
    else
      some ({ refresh with
        rest := some (task.step host sys).1
        committed := refresh.committed || task.commitsRefresh host sys }, (task.step host sys).2)

def commits (sys : System) : Bool := refresh.rest.any (Task.commitsRefresh host sys)

def sighting (slot : ProbeSlot) : Option Sighting :=
  if refresh.committed && slot ∈ refresh.slots then refresh.seen[slot.1]? else none

section Discovery

variable {host : Host} {refresh : ObservedRefresh} {discovery : DiscoveryRunReport}

theorem mem_slots {slot : ProbeSlot} : slot ∈ refresh.slots ↔
    ∃ spec ∈ refresh.specs, spec.1 = slot.1 ∧ slot.2 ∈ selectedInterfaces refresh.context spec.2 := by
  rw [slots, List.mem_flatMap]
  constructor
  · rintro ⟨spec, hspec, hslot⟩
    obtain ⟨interface, hi, rfl⟩ := List.mem_map.mp hslot
    exact ⟨spec, hspec, rfl, hi⟩
  · rintro ⟨spec, hspec, hp, hi⟩
    exact ⟨spec, hspec, List.mem_map.mpr ⟨slot.2, hi, Prod.ext hp rfl⟩⟩

variable (hran : runProbes host.availableParallelism refresh.context
  (refresh.specs.map (ProbeSpec.probe refresh.answers)) = .ok discovery)

include hran

theorem refreshes_iff_mem_slots (slot : ProbeSlot) : discovery.Refreshes slot ↔ slot ∈ refresh.slots := by
  rw [observed_refreshes_iff hran, mem_slots]
  constructor
  · rintro ⟨spec, hspec, hp, hi, -⟩
    exact ⟨spec, hspec, hp, hi⟩
  · rintro ⟨spec, hspec, hp, hi⟩
    exact ⟨spec, hspec, hp, hi, _, rfl⟩

theorem discovery_clean : discovery.hasProbeFailures = false := by
  rw [DiscoveryRunReport.hasProbeFailures_eq_false]
  intro report hreport
  rw [(runProbes_ok hran).2.1] at hreport
  obtain ⟨selected, hselected, rfl⟩ := List.mem_map.mp hreport
  obtain ⟨spec, -, -, rfl⟩ := (mem_selectProbes_observed selected).mp hselected
  exact (reportOf_observed_succeeded spec _ _).mpr ⟨_, rfl⟩

theorem mem_foundFor_iff_sighted (hnames : (refresh.specs.map Prod.fst).Nodup) {slot : ProbeSlot}
    (hslot : slot ∈ refresh.slots) (device : DeviceDescriptor) :
    device ∈ discovery.foundFor slot ↔ device ∈ refresh.sighted slot := by
  have hr := (refreshes_iff_mem_slots hran slot).mpr hslot
  rw [observed_foundFor hnames hran hr rfl, sighted, List.mem_filter, decide_eq_true_eq]

theorem foundFor_eq_nil {slot : ProbeSlot} (hslot : slot ∉ refresh.slots) : discovery.foundFor slot = [] := by
  rw [List.eq_nil_iff_forall_not_mem]
  intro device hfound
  have hof := ((DiscoveryRunReport.mem_foundFor device).mp hfound).2
  have hrefreshes := DiscoveryRunReport.slotOf_refreshes (observed_scoped hran) hof
  exact hslot ((refreshes_iff_mem_slots hran slot).mp hrefreshes)

variable {inventory next : InventorySnapshot} {index : ProbeInventoryIndex} {runtime : Runtime}

theorem commit_shows (hnames : (refresh.specs.map Prod.fst).Nodup)
    (hexact : Exact runtime.inventory runtime.probeInventory)
    (hn : runtime.nextInventory discovery refresh.mode = .ok next) (slot : ProbeSlot) :
    let shown := Shows next (Runtime.nextProbeInventory runtime.probeInventory discovery refresh.mode) slot
    (slot ∈ refresh.slots → shown (refresh.sighted slot)) ∧
      (slot ∉ refresh.slots → refresh.mode = .incremental →
        ∀ devices, Shows runtime.inventory runtime.probeInventory slot devices → shown devices) ∧
      (slot ∉ refresh.slots → refresh.mode = .full → shown []) := by
  have hrun : discovery.Attributed := observed_attributed hnames hran
  cases hmode : refresh.mode with
  | full =>
    rw [hmode, Runtime.nextInventory, Runtime.materializeRefreshInventory, discovery_clean hran] at hn
    cases hn
    refine ⟨?_, ?_, ?_⟩
    · intro hslot
      exact (fromRun_shows hrun slot).congr (mem_foundFor_iff_sighted hran hnames hslot)
    · intro _ hincremental
      cases hincremental
    · intro hslot _
      have hshown := fromRun_shows hrun slot
      rw [foundFor_eq_nil hran hslot] at hshown
      exact hshown
  | incremental =>
    rw [hmode] at hn
    refine ⟨?_, ?_, ?_⟩
    · intro hslot
      have hr := (refreshes_iff_mem_slots hran slot).mpr hslot
      exact (merge_shows_refreshed hrun hn hr).congr (mem_foundFor_iff_sighted hran hnames hslot)
    · intro hslot _ devices hshown
      have hr := mt (refreshes_iff_mem_slots hran slot).mp hslot
      exact merge_shows_kept hexact hrun (observed_scoped hran) hn hr hshown
    · intro _ hfull
      cases hfull

theorem commit_exact (hnames : (refresh.specs.map Prod.fst).Nodup)
    (hexact : Exact runtime.inventory runtime.probeInventory) {mode : RefreshMode}
    (hn : runtime.nextInventory discovery mode = .ok next) :
    Exact next (Runtime.nextProbeInventory runtime.probeInventory discovery mode) := by
  have hrun : discovery.Attributed := observed_attributed hnames hran
  cases mode with
  | full =>
    rw [Runtime.nextInventory, Runtime.materializeRefreshInventory, discovery_clean hran] at hn
    cases hn
    exact fromRun_exact hrun (fun _ hd => hd)
  | incremental => exact merge_exact hexact hrun hn

end Discovery

structure Valid (host : Host) (refresh : ObservedRefresh) : Prop where
  names : (refresh.specs.map Prod.fst).Nodup
  rest : ∀ task ∈ refresh.rest, (refresh.ready = true ∧ task = refresh.discovered host) ∨ task.finishes = true
  committed : refresh.committed = true → refresh.rest ≠ none

theorem Valid.going {host : Host} {refresh : ObservedRefresh} (h : refresh.Valid host) {task : Task}
    (htask : (refresh.ready = true ∧ task = refresh.discovered host) ∨ task.finishes = true) (committed : Bool) :
    Valid host { refresh with rest := some task, committed } where
  names := h.names
  rest := by
    intro other hother
    cases hother
    exact htask
  committed := fun _ => Option.some_ne_none _

section Advance

variable {host : Host} {sys sys' : System} {refresh refresh' : ObservedRefresh}

theorem discovered_cases (host : Host) (refresh : ObservedRefresh) :
    refresh.discovered host = .done ∨
      ∃ discovery, refresh.discovered host = .refreshCommit discovery refresh.mode ∧
        runProbes host.availableParallelism refresh.context
          (refresh.specs.map (ProbeSpec.probe refresh.answers)) = .ok discovery := by
  unfold discovered
  split
  · exact .inl rfl
  · rename_i discovery hran
    exact .inr ⟨discovery, rfl, hran⟩

theorem finishes_step (host : Host) (sys : System) {task : Task} (h : task.finishes = true) :
    (task.step host sys).1.finishes = true ∧ sys.runtime.SameDiscovery (task.step host sys).2.runtime := by
  cases task with
  | refreshClose detached rebindTargets => cases detached <;> exact ⟨rfl, .refl _⟩
  | refreshRebind rebindTargets => exact ⟨rfl, (Task.step_section host sys _).sameDiscovery rfl⟩
  | done => exact ⟨rfl, .refl _⟩
  | _ => cases h

theorem advance_cases (hvalid : refresh.Valid host) (h : refresh.advance host sys = some (refresh', sys')) :
    refresh'.Valid host ∧
    ((refresh.commits host sys = false ∧ sys.runtime.SameDiscovery sys'.runtime ∧
        ∀ slot, refresh'.sighting slot = refresh.sighting slot) ∨
      ∃ discovery next, refresh.commits host sys = true ∧ refresh.ready = true ∧
        runProbes host.availableParallelism refresh.context
          (refresh.specs.map (ProbeSpec.probe refresh.answers)) = .ok discovery ∧
        sys.runtime.nextInventory discovery refresh.mode = .ok next ∧
        sys'.runtime = (sys.runtime.commitRefresh host.layout discovery refresh.mode next).2 ∧
        ∀ slot, refresh'.sighting slot = if slot ∈ refresh.slots then refresh.seen[slot.1]? else none) := by
  unfold advance at h
  cases hrest : refresh.rest with
  | none =>
    rw [hrest] at h
    simp only at h
    split at h
    · rename_i hready
      cases h
      refine ⟨hvalid.going (.inl ⟨hready, rfl⟩) refresh.committed, .inl ⟨?_, .refl _, fun _ => rfl⟩⟩
      rw [commits, hrest]
      rfl
    · cases h
  | some task =>
    rw [hrest] at h
    simp only at h
    split at h
    · cases h
    · rename_i hdone
      cases h
      have hcommits : refresh.commits host sys = task.commitsRefresh host sys := by
        rw [commits, hrest]
        rfl
      rcases hvalid.rest task hrest with ⟨hready, rfl⟩ | hfinishes
      · rcases discovered_cases host refresh with heq | ⟨discovery, heq, hran⟩
        · rw [heq] at hdone
          exact absurd rfl hdone
        · rw [hcommits, heq]
          rcases Task.refreshCommit_cases host sys discovery refresh.mode with
            ⟨error, hc, hstep⟩ | ⟨next, -, hn, hc, hstep⟩
          · have hfails : (Task.refreshCommit discovery refresh.mode).commitsRefresh host sys = false := by
              simp [Task.commitsRefresh, hc, Except.isOk, Except.toBool]
            rw [hstep, hfails, Bool.or_false]
            exact ⟨hvalid.going (.inr rfl) _, .inl ⟨rfl, .refl _, fun _ => rfl⟩⟩
          · have hsucceeds : (Task.refreshCommit discovery refresh.mode).commitsRefresh host sys = true := by
              simp [Task.commitsRefresh, hc, Except.isOk, Except.toBool]
            rw [hstep, hsucceeds, Bool.or_true]
            refine ⟨hvalid.going (.inr rfl) _, .inr ⟨discovery, next, rfl, hready, hran, hn, rfl, ?_⟩⟩
            intro slot
            simp only [sighting, Bool.true_and, decide_eq_true_eq]
            rfl
      · have hquiet : task.commitsRefresh host sys = false := by
          cases task with
          | refreshCommit => cases hfinishes
          | _ => rfl
        obtain ⟨hnext, hsame⟩ := finishes_step host sys hfinishes
        rw [hcommits, hquiet, Bool.or_false]
        exact ⟨hvalid.going (.inr hnext) _, .inl ⟨rfl, hsame, fun _ => rfl⟩⟩

end Advance

theorem look_cases {host : Host} {refresh refresh' : ObservedRefresh} {probe : String} {sighting : Sighting}
    (hvalid : refresh.Valid host) (h : refresh.look probe sighting = some refresh') :
    refresh'.Valid host ∧ ∀ slot, refresh'.sighting slot = refresh.sighting slot := by
  unfold look at h
  split at h
  · rename_i hguard
    rw [Bool.and_eq_true, Bool.and_eq_true, Option.isNone_iff_eq_none] at hguard
    cases h
    have hnot : refresh.committed = false := by
      cases hcommitted : refresh.committed with
      | false => rfl
      | true => exact absurd hguard.1.1 (hvalid.committed hcommitted)
    refine ⟨⟨hvalid.names, ?_, ?_⟩, ?_⟩
    · intro task htask
      rw [hguard.1.1] at htask
      cases htask
    · intro hcommitted
      rw [hnot] at hcommitted
      cases hcommitted
    · intro slot
      simp [ObservedRefresh.sighting, hnot]
  · cases h

end ObservedRefresh

structure ObservedRuntime where
  system : System := {}
  world : World := fun _ => []
  clock : ℕ := 0
  refreshes : List ObservedRefresh := []

inductive ObservedAction where
  | change (world : World)
  | refresh (mode : RefreshMode) (context : DiscoveryContext) (probes : DistinctProbes)
  | pollWatcher (mode : RefreshMode) (context : DiscoveryContext) (probes : DistinctProbes)
      (watchEvents : List InventoryWatchEvent)
  | look (i : ℕ) (probe : String)
  | advance (i : ℕ)

def watchedRefresh (config : RuntimeConfig) (mode : RefreshMode) (context : DiscoveryContext)
    (probes : DistinctProbes) (watchEvents : List InventoryWatchEvent) : Option ObservedRefresh :=
  if watchEvents.isEmpty then none
  else
    (watchRefreshScope config context (probes.specs.map (ProbeSpec.probe (fun _ => .ok []))) watchEvents).map
      (fun scope =>
        { context := scope.1, specs := scope.2.map (fun probe => (probe.name, probe.interfaces)), mode })

namespace ObservedRuntime

def step (host : Host) (action : ObservedAction) (state : ObservedRuntime) : Option ObservedRuntime :=
  match action with
  | .change world => some { state with world }
  | .refresh mode context probes =>
    some { state with refreshes := state.refreshes ++ [{ context, specs := probes.specs, mode }] }
  | .pollWatcher mode context probes watchEvents =>
    some { state with refreshes := state.refreshes ++
      (watchedRefresh state.system.runtime.config mode context probes watchEvents).toList }
  | .look i probe =>
    (state.refreshes[i]?.bind (ObservedRefresh.look · probe ⟨state.clock, state.world probe⟩)).map
      (fun refresh => { state with clock := state.clock + 1, refreshes := state.refreshes.set i refresh })
  | .advance i =>
    (state.refreshes[i]?.bind (ObservedRefresh.advance host · state.system)).map
      (fun advanced => { state with system := advanced.2, refreshes := state.refreshes.set i advanced.1 })

def init (config : RuntimeConfig) (world : World) : ObservedRuntime :=
  { system := { runtime := { config } }, world }

def sightings (state : ObservedRuntime) (slot : ProbeSlot) : List Sighting :=
  state.refreshes.filterMap (fun refresh => refresh.sighting slot)

def Shows (state : ObservedRuntime) (slot : ProbeSlot) (devices : List DeviceDescriptor) : Prop :=
  Discovery.Shows state.system.runtime.inventory state.system.runtime.probeInventory slot devices

/-- The slot shows the latest of its observations. -/
def ShowsLatest (state : ObservedRuntime) (slot : ProbeSlot) : Prop :=
  ∃ latest ∈ state.sightings slot, (∀ sighting ∈ state.sightings slot, sighting.time ≤ latest.time) ∧
    state.Shows slot (latest.devices.filter (fun device => device.interface = slot.2))

/-- A commit comes after those of the refreshes that looked at its slots earlier, and before those that
looked later; a full one has looked at every slot that was committed before. -/
def InOrder (host : Host) (action : ObservedAction) (state : ObservedRuntime) : Prop :=
  match action with
  | .advance i => ∀ refresh ∈ state.refreshes[i]?, refresh.commits host state.system = true →
      (∀ slot ∈ refresh.slots, ∀ mine ∈ refresh.seen[slot.1]?, ∀ other ∈ state.sightings slot,
        other.time ≤ mine.time) ∧
      (refresh.mode = .full → ∀ other ∈ state.refreshes, other.committed = true →
        ∀ slot ∈ other.slots, slot ∈ refresh.slots)
  | _ => True

instance (host : Host) (action : ObservedAction) (state : ObservedRuntime) : Decidable
    (InOrder host action state) :=
  match action with
  | .advance i => inferInstanceAs (Decidable (∀ refresh ∈ state.refreshes[i]?, _ → _ ∧ (_ → _)))
  | .change _ => isTrue trivial
  | .refresh .. => isTrue trivial
  | .pollWatcher .. => isTrue trivial
  | .look .. => isTrue trivial

variable {host : Host} {state state' : ObservedRuntime} {action : ObservedAction}

structure Inv (host : Host) (state : ObservedRuntime) : Prop where
  exact_index : Exact state.system.runtime.inventory state.system.runtime.probeInventory
  valid : ∀ refresh ∈ state.refreshes, refresh.Valid host

structure Quiet (state state' : ObservedRuntime) : Prop where
  inventory : state'.system.runtime.inventory = state.system.runtime.inventory
  probeInventory : state'.system.runtime.probeInventory = state.system.runtime.probeInventory
  sightings : ∀ slot, state'.sightings slot = state.sightings slot

structure Installs (refresh : ObservedRefresh) (state state' : ObservedRuntime) : Prop where
  covered : ∀ slot ∈ refresh.slots, state'.Shows slot (refresh.sighted slot)
  left : ∀ slot ∉ refresh.slots, refresh.mode = .incremental →
    ∀ devices, state.Shows slot devices → state'.Shows slot devices
  emptied : ∀ slot ∉ refresh.slots, refresh.mode = .full → state'.Shows slot []

structure Adds (refresh : ObservedRefresh) (state state' : ObservedRuntime) : Prop where
  seen : ∀ slot ∈ refresh.slots, ∃ mine, refresh.seen[slot.1]? = some mine ∧ mine ∈ state'.sightings slot ∧
    ∀ sighting ∈ state'.sightings slot, sighting = mine ∨ sighting ∈ state.sightings slot
  unseen : ∀ slot ∉ refresh.slots, state'.sightings slot = state.sightings slot

theorem started_valid {context : DiscoveryContext} {specs : List ProbeSpec} (mode : RefreshMode)
    (hnames : (specs.map Prod.fst).Nodup) : ({ context, specs, mode } : ObservedRefresh).Valid host where
  names := hnames
  rest := by
    intro task htask
    cases htask
  committed := by
    intro hcommitted
    cases hcommitted

theorem watchedRefresh_valid {config : RuntimeConfig} {mode : RefreshMode} {context : DiscoveryContext}
    {probes : DistinctProbes} {watchEvents : List InventoryWatchEvent} {refresh : ObservedRefresh}
    (h : watchedRefresh config mode context probes watchEvents = some refresh) :
    refresh.Valid host ∧ refresh.committed = false := by
  unfold watchedRefresh at h
  split at h
  · cases h
  · obtain ⟨scope, hscope, rfl⟩ := Option.map_eq_some_iff.mp h
    obtain ⟨asked, hsub, hprobes, -, -⟩ := watchRefreshScope_specs hscope
    refine ⟨started_valid mode ?_, rfl⟩
    have hnames :
        (scope.2.map (fun probe => (probe.name, probe.interfaces))).map Prod.fst = asked.map Prod.fst := by
      rw [hprobes, List.map_map, List.map_map]
      rfl
    rw [hnames]
    exact probes.names.sublist (hsub.map _)

theorem start_cases {started : List ObservedRefresh} (h : state.Inv host)
    (hstarted : ∀ refresh ∈ started, refresh.Valid host ∧ refresh.committed = false) :
    ({ state with refreshes := state.refreshes ++ started } : ObservedRuntime).Inv host ∧
      state.Quiet { state with refreshes := state.refreshes ++ started } := by
  refine ⟨⟨h.exact_index, ?_⟩, rfl, rfl, ?_⟩
  · intro refresh hrefresh
    rcases List.mem_append.mp hrefresh with hbefore | hnew
    · exact h.valid refresh hbefore
    · exact (hstarted refresh hnew).1
  · intro slot
    have hnone : started.filterMap (fun refresh => refresh.sighting slot) = [] := by
      rw [List.filterMap_eq_nil_iff]
      intro refresh hrefresh
      rw [ObservedRefresh.sighting, (hstarted refresh hrefresh).2]
      rfl
    rw [sightings, List.filterMap_append, hnone, List.append_nil, sightings]

theorem sightings_split {before after : List ObservedRefresh} {refresh : ObservedRefresh}
    (h : state.refreshes = before ++ refresh :: after) (slot : ProbeSlot) :
    state.sightings slot = before.filterMap (fun other => other.sighting slot) ++
      ((refresh.sighting slot).toList ++ after.filterMap (fun other => other.sighting slot)) := by
  rw [sightings, h, List.filterMap_append, List.filterMap_cons]
  cases refresh.sighting slot <;> rfl

theorem adds_of_advance {before after : List ObservedRefresh} {refresh refresh' : ObservedRefresh}
    (hbefore : state.refreshes = before ++ refresh :: after)
    (hafter : state'.refreshes = before ++ refresh' :: after) (hready : refresh.ready = true)
    (hsighting : ∀ slot, refresh'.sighting slot = if slot ∈ refresh.slots then refresh.seen[slot.1]? else none) :
    Adds refresh state state' where
  seen := by
    intro slot hslot
    have hseen : slot.1 ∈ refresh.seen := List.all_eq_true.mp hready slot hslot
    obtain ⟨mine, hmine⟩ := (BTreeMap.mem_iff_exists _ _).mp hseen
    have hown : refresh'.sighting slot = some mine := by rw [hsighting, if_pos hslot, hmine]
    refine ⟨mine, hmine, ?_, ?_⟩
    · rw [sightings_split hafter, hown]
      simp
    · intro sighting hmem
      rw [sightings_split hafter, hown] at hmem
      rw [sightings_split hbefore]
      simp only [Option.toList_some, List.singleton_append, List.mem_append, List.mem_cons] at hmem ⊢
      tauto
  unseen := by
    intro slot hslot
    have hnone : refresh.sighting slot = none := by simp [ObservedRefresh.sighting, hslot]
    rw [sightings_split hafter, sightings_split hbefore, hsighting, if_neg hslot, hnone]

theorem installs_of_commit {refresh : ObservedRefresh} {discovery : DiscoveryRunReport} {next : InventorySnapshot}
    (h : state.Inv host) (hnames : (refresh.specs.map Prod.fst).Nodup)
    (hran : runProbes host.availableParallelism refresh.context
      (refresh.specs.map (ProbeSpec.probe refresh.answers)) = .ok discovery)
    (hn : state.system.runtime.nextInventory discovery refresh.mode = .ok next)
    (hinventory : state'.system.runtime.inventory = next)
    (hindex : state'.system.runtime.probeInventory =
      Runtime.nextProbeInventory state.system.runtime.probeInventory discovery refresh.mode) :
    Installs refresh state state' := by
  have hshows := ObservedRefresh.commit_shows hran hnames h.exact_index hn
  refine ⟨?_, ?_, ?_⟩
  · intro slot hslot
    simp only [Shows, hinventory, hindex]
    exact (hshows slot).1 hslot
  · intro slot hslot hincremental devices hshown
    simp only [Shows, hinventory, hindex]
    exact (hshows slot).2.1 hslot hincremental devices hshown
  · intro slot hslot hfull
    simp only [Shows, hinventory, hindex]
    exact (hshows slot).2.2 hslot hfull

theorem advance_cases (h : state.Inv host) {i : ℕ} (hs : state.step host (.advance i) = some state') :
    ∃ refresh, state.refreshes[i]? = some refresh ∧ state'.Inv host ∧
      ((refresh.commits host state.system = false ∧ state.Quiet state') ∨
        (refresh.commits host state.system = true ∧ Installs refresh state state' ∧
          Adds refresh state state')) := by
  simp only [step] at hs
  obtain ⟨⟨refresh', system⟩, hadvanced, rfl⟩ := Option.map_eq_some_iff.mp hs
  obtain ⟨refresh, hget, hadvance⟩ := Option.bind_eq_some_iff.mp hadvanced
  obtain ⟨before, after, hrefreshes, -, hset⟩ := exists_split hget
  have hall : ∀ other ∈ before ++ refresh :: after, other.Valid host := by
    rw [← hrefreshes]
    exact h.valid
  have hvalid : refresh.Valid host := hall refresh (by simp)
  obtain ⟨hvalid', hcases⟩ := ObservedRefresh.advance_cases hvalid hadvance
  refine ⟨refresh, hget, ?_⟩
  rw [hset]
  rcases hcases with
    ⟨hquiet, hsame, hsighting⟩ | ⟨discovery, next, hcommits, hready, hran, hn, hruntime, hsighting⟩
  · refine ⟨⟨?_, forall_mem_replaced hall hvalid'⟩, .inl ⟨hquiet, hsame.inventory, hsame.probeInventory, ?_⟩⟩
    · simp only [hsame.inventory, hsame.probeInventory]
      exact h.exact_index
    · intro slot
      rw [sightings_split hrefreshes, ← hsighting]
      exact sightings_split rfl slot
  · have hinventory : system.runtime.inventory = next := by rw [hruntime, Runtime.commitRefresh_snd]
    have hindex : system.runtime.probeInventory =
        Runtime.nextProbeInventory state.system.runtime.probeInventory discovery refresh.mode := by
      rw [hruntime, Runtime.commitRefresh_snd]
    refine ⟨⟨?_, forall_mem_replaced hall hvalid'⟩, .inr ⟨hcommits, ?_, ?_⟩⟩
    · simp only [hinventory, hindex]
      exact ObservedRefresh.commit_exact hran hvalid.names h.exact_index hn
    · exact installs_of_commit h hvalid.names hran hn hinventory hindex
    · exact adds_of_advance hrefreshes rfl hready hsighting

theorem look_cases (h : state.Inv host) {i : ℕ} {probe : String}
    (hs : state.step host (.look i probe) = some state') : state'.Inv host ∧ state.Quiet state' := by
  simp only [step] at hs
  obtain ⟨refresh', hlooked, rfl⟩ := Option.map_eq_some_iff.mp hs
  obtain ⟨refresh, hget, hlook⟩ := Option.bind_eq_some_iff.mp hlooked
  obtain ⟨before, after, hrefreshes, -, hset⟩ := exists_split hget
  have hall : ∀ other ∈ before ++ refresh :: after, other.Valid host := by
    rw [← hrefreshes]
    exact h.valid
  obtain ⟨hvalid', hsighting⟩ := ObservedRefresh.look_cases (hall refresh (by simp)) hlook
  rw [hset]
  refine ⟨⟨h.exact_index, forall_mem_replaced hall hvalid'⟩, rfl, rfl, ?_⟩
  intro slot
  rw [sightings_split hrefreshes, ← hsighting]
  exact sightings_split rfl slot

theorem step_cases (h : state.Inv host) (hs : state.step host action = some state') :
    state'.Inv host ∧ (state.Quiet state' ∨
      ∃ i refresh, action = .advance i ∧ state.refreshes[i]? = some refresh ∧
        refresh.commits host state.system = true ∧ Installs refresh state state' ∧
        Adds refresh state state') := by
  cases action with
  | change world =>
    cases hs
    exact ⟨⟨h.exact_index, h.valid⟩, .inl ⟨rfl, rfl, fun _ => rfl⟩⟩
  | refresh mode context probes =>
    cases hs
    refine (start_cases h ?_).imp_right .inl
    intro refresh hrefresh
    cases List.mem_singleton.mp hrefresh
    exact ⟨started_valid mode probes.names, rfl⟩
  | pollWatcher mode context probes watchEvents =>
    cases hs
    refine (start_cases h ?_).imp_right .inl
    intro refresh hrefresh
    exact watchedRefresh_valid (Option.mem_toList.mp hrefresh)
  | look i probe => exact (look_cases h hs).imp_right .inl
  | advance i =>
    obtain ⟨refresh, hget, hinv, ⟨-, hquiet⟩ | hcommits⟩ := advance_cases h hs
    · exact ⟨hinv, .inl hquiet⟩
    · exact ⟨hinv, .inr ⟨i, refresh, rfl, hget, hcommits⟩⟩

def Latest (state : ObservedRuntime) : Prop := ∀ slot, state.sightings slot ≠ [] → state.ShowsLatest slot

theorem Quiet.latest (hquiet : state.Quiet state') (h : state.Latest) : state'.Latest := by
  intro slot hne
  rw [hquiet.sightings] at hne
  obtain ⟨latest, hmem, hmax, hshown⟩ := h slot hne
  refine ⟨latest, ?_, ?_, ?_⟩
  · rw [hquiet.sightings]
    exact hmem
  · rw [hquiet.sightings]
    exact hmax
  · rw [Shows, hquiet.inventory, hquiet.probeInventory]
    exact hshown

theorem exists_committed {slot : ProbeSlot} (h : state.sightings slot ≠ []) :
    ∃ other ∈ state.refreshes, other.committed = true ∧ slot ∈ other.slots := by
  obtain ⟨sighting, hmem⟩ := List.exists_mem_of_ne_nil _ h
  obtain ⟨other, hother, hsighting⟩ := List.mem_filterMap.mp hmem
  rw [ObservedRefresh.sighting] at hsighting
  split at hsighting
  · rename_i hcommitted
    rw [Bool.and_eq_true, decide_eq_true_eq] at hcommitted
    exact ⟨other, hother, hcommitted⟩
  · cases hsighting

theorem commit_latest {refresh : ObservedRefresh} (hinstalls : Installs refresh state state')
    (hadds : Adds refresh state state') (h : state.Latest)
    (hlater : ∀ slot ∈ refresh.slots, ∀ mine ∈ refresh.seen[slot.1]?, ∀ other ∈ state.sightings slot,
      other.time ≤ mine.time)
    (hwide : refresh.mode = .full → ∀ other ∈ state.refreshes, other.committed = true →
      ∀ slot ∈ other.slots, slot ∈ refresh.slots) : state'.Latest := by
  intro slot hne
  by_cases hslot : slot ∈ refresh.slots
  · obtain ⟨mine, hmine, hmem, honly⟩ := hadds.seen slot hslot
    refine ⟨mine, hmem, ?_, ?_⟩
    · intro sighting hsighting
      rcases honly sighting hsighting with rfl | hbefore
      · exact Nat.le_refl _
      · exact hlater slot hslot mine hmine sighting hbefore
    · have hshown := hinstalls.covered slot hslot
      rw [ObservedRefresh.sighted, hmine] at hshown
      exact hshown
  · have hsame := hadds.unseen slot hslot
    rw [hsame] at hne
    cases hmode : refresh.mode with
    | full =>
      obtain ⟨other, hother, hcommitted, hcovered⟩ := exists_committed hne
      exact absurd (hwide hmode other hother hcommitted slot hcovered) hslot
    | incremental =>
      obtain ⟨latest, hmem, hmax, hshown⟩ := h slot hne
      refine ⟨latest, ?_, ?_, hinstalls.left slot hslot hmode _ hshown⟩
      · rw [hsame]
        exact hmem
      · rw [hsame]
        exact hmax

theorem init_inv (config : RuntimeConfig) (world : World) : (init config world).Inv host where
  exact_index := exact_empty _
  valid := fun _ hrefresh => absurd hrefresh List.not_mem_nil

/-- A commit installs what its own refresh saw, whatever was committed in the meantime. So slots show their
latest observations as long as refreshes commit in the order of their looks. -/
theorem run_shows_latest (host : Host) (config : RuntimeConfig) (world : World)
    (actions : List ObservedAction)
    (state : ObservedRuntime) (hrun : run (step host) actions (init config world) = some state) :
    (∀ i refresh state', state.refreshes[i]? = some refresh → refresh.commits host state.system = true →
      state.step host (.advance i) = some state' → Installs refresh state state') ∧
    (Along (step host) (InOrder host) actions (init config world) →
      ∀ slot, state.sightings slot ≠ [] → state.ShowsLatest slot) := by
  have hinv : state.Inv host :=
    run_invariant (fun _ _ _ h hs => (step_cases h hs).1) (init_inv config world) hrun
  constructor
  · intro i refresh state' hget hcommits hs
    obtain ⟨found, hfound, -, ⟨hquiet, -⟩ | ⟨-, hinstalls, -⟩⟩ := advance_cases hinv hs
    · rw [hget] at hfound
      cases hfound
      rw [hcommits] at hquiet
      cases hquiet
    · rw [hget] at hfound
      cases hfound
      exact hinstalls
  · intro hordered
    have hstep : ∀ action before after, before.Inv host ∧ before.Latest → InOrder host action before →
        step host action before = some after → after.Inv host ∧ after.Latest := by
      intro action before after h hcond hs
      obtain ⟨hinv', hquiet | ⟨i, refresh, rfl, hget, hcommits, hinstalls, hadds⟩⟩ := step_cases h.1 hs
      · exact ⟨hinv', hquiet.latest h.2⟩
      · obtain ⟨hlater, hwide⟩ := hcond refresh hget hcommits
        exact ⟨hinv', commit_latest hinstalls hadds h.2 hlater hwide⟩
    have hinit : (init config world).Latest := fun slot hne => absurd rfl hne
    exact (run_invariant_along hstep ⟨init_inv config world, hinit⟩ hordered hrun).2

def gpioProbe : DistinctProbes := ⟨[("linux-gpio", [.gpio])], by decide⟩

/-- Two refreshes look before and after the line is gone, and then commit as they come. -/
def overlapping (commits : List ObservedAction) : List ObservedAction :=
  [.refresh .full {} gpioProbe, .look 0 "linux-gpio", .change (fun _ => []),
    .refresh .incremental {} gpioProbe, .look 1 "linux-gpio"] ++ commits

def inOrder : List ObservedAction :=
  overlapping [.advance 0, .advance 0, .advance 0, .advance 0, .advance 1, .advance 1, .advance 1, .advance 1]

def outOfOrder : List ObservedAction :=
  overlapping [.advance 1, .advance 1, .advance 1, .advance 1, .advance 0, .advance 0, .advance 0, .advance 0]

theorem run_shows_latest_inOrder :
    ∃ state, run (step .quiet) inOrder (init {} WatchedWorld.lineWorld) = some state ∧
      (state.sightings ("linux-gpio", .gpio)).map Sighting.time = [0, 1] ∧
      state.ShowsLatest ("linux-gpio", .gpio) :=
  ⟨_, rfl, by decide,
    (run_shows_latest .quiet {} WatchedWorld.lineWorld inOrder _ rfl).2 (by decide) _ (by decide)⟩

theorem late_commit_brings_line_back :
    ∃ state, run (step .quiet) outOfOrder (init {} WatchedWorld.lineWorld) = some state ∧
      (∀ refresh ∈ state.refreshes, refresh.committed = true ∧ refresh.rest.any Task.isDone = true) ∧
      (state.sightings ("linux-gpio", .gpio)).map Sighting.time = [0, 1] ∧
      state.system.runtime.inventory.get gpioLine = some gpioLineDescriptor ∧
      ¬ state.ShowsLatest ("linux-gpio", .gpio) := by
  refine ⟨_, rfl, by decide, by decide, by decide, ?_⟩
  rintro ⟨latest, hmem, hmax, hshown⟩
  have hnothing : latest.devices = [] := by
    clear hshown
    revert latest
    decide
  have hline := (hshown gpioLineDescriptor).mp (by decide)
  rw [hnothing] at hline
  cases hline

end ObservedRuntime

end Lemnos
