import Lemnos.Discovery.Observation
import Lemnos.Library.Runs
import Lemnos.Runtime.Ops

namespace Lemnos

open Lemnos.Core Discovery Registry Library.OrderedMap Library.Runs

theorem watchRefreshScope_specs {config : RuntimeConfig} {context : DiscoveryContext} {specs : List ProbeSpec}
    {answers : Answers} {watchEvents : List InventoryWatchEvent}
    {scope : DiscoveryContext × List DiscoveryProbe}
    (h : watchRefreshScope config context (specs.map (ProbeSpec.probe answers)) watchEvents = some scope) :
    ∃ asked : List ProbeSpec, asked.Sublist specs ∧ scope.2 = asked.map (ProbeSpec.probe answers) ∧
      (∀ interface ∈ touchedInterfaces watchEvents, context.wants interface = true →
        scope.1.wants interface = true) ∧
      ∀ spec ∈ specs, ∀ interface ∈ spec.2, scope.1.wants interface = true → spec ∈ asked := by
  have hwhole : scope = (context, specs.map (ProbeSpec.probe answers)) →
      ∃ asked : List ProbeSpec, asked.Sublist specs ∧ scope.2 = asked.map (ProbeSpec.probe answers) ∧
        (∀ interface ∈ touchedInterfaces watchEvents, context.wants interface = true →
          scope.1.wants interface = true) ∧
        ∀ spec ∈ specs, ∀ interface ∈ spec.2, scope.1.wants interface = true → spec ∈ asked := by
    rintro rfl
    exact ⟨specs, List.Sublist.refl _, rfl, fun _ _ h => h, fun spec hspec _ _ _ => hspec⟩
  have hunscoped : unscopedRefresh config context (specs.map (ProbeSpec.probe answers)) = some scope →
      scope = (context, specs.map (ProbeSpec.probe answers)) := by
    intro h
    unfold unscopedRefresh at h
    split at h <;> cases h <;> rfl
  unfold watchRefreshScope at h
  split at h
  · cases h
    exact hwhole rfl
  · split at h
    · exact hwhole (hunscoped h)
    · simp only at h
      split at h
      · exact hwhole (hunscoped h)
      · rename_i hrequested
        split at h
        · exact hwhole (hunscoped h)
        · cases h
          have hwants : ∀ interface, ({ context with
              requestedInterfaces := requestedTouched context (touchedInterfaces watchEvents) } :
                DiscoveryContext).wants interface = true ↔
              interface ∈ requestedTouched context (touchedInterfaces watchEvents) := by
            intro interface
            simp [DiscoveryContext.wants, hrequested]
          refine ⟨specs.filter (fun spec => spec.2.any
            (requestedTouched context (touchedInterfaces watchEvents)).contains), List.filter_sublist, ?_, ?_, ?_⟩
          · rw [probesOf, List.filter_map]
            rfl
          · intro interface htouched hcontext
            rw [hwants, requestedTouched]
            split
            · exact htouched
            · rename_i hne
              have hmem : interface ∈ context.requestedInterfaces := by
                simpa [DiscoveryContext.wants, hne] using hcontext
              exact Std.ExtTreeSet.mem_inter_iff.mpr ⟨hmem, htouched⟩
          · intro spec hspec interface hi hwant
            rw [hwants] at hwant
            refine List.mem_filter.mpr ⟨hspec, List.any_eq_true.mpr ⟨interface, hi, ?_⟩⟩
            exact hwant

theorem System.discoveryOf_pollWatcher_mode {host : Host} {sys : System} {mode : RefreshMode}
    {context : DiscoveryContext} {probes : List DiscoveryProbe} {watchEvents : List InventoryWatchEvent}
    {discovery : DiscoveryRunReport × RefreshMode}
    (h : sys.discoveryOf host (.pollWatcher mode context probes (.ok watchEvents)) = some discovery) :
    discovery.2 = mode := by
  simp only [discoveryOf] at h
  split at h
  · cases h
  · obtain ⟨scope, -, hrun⟩ := Option.bind_eq_some_iff.mp h
    obtain ⟨found, -, rfl⟩ := Option.map_eq_some_iff.mp hrun
    rfl

theorem System.discoveryOf_pollWatcher {host : Host} {sys : System} {mode : RefreshMode}
    {context : DiscoveryContext} {specs : List ProbeSpec} {answers : Answers}
    {watchEvents : List InventoryWatchEvent} {discovery : DiscoveryRunReport × RefreshMode}
    (h : sys.discoveryOf host (.pollWatcher mode context (specs.map (ProbeSpec.probe answers))
      (.ok watchEvents)) = some discovery) :
    ∃ (scopedContext : DiscoveryContext) (asked : List ProbeSpec), asked.Sublist specs ∧
      runProbes host.availableParallelism scopedContext (asked.map (ProbeSpec.probe answers)) =
        .ok discovery.1 ∧
      (∀ interface ∈ touchedInterfaces watchEvents, context.wants interface = true →
        scopedContext.wants interface = true) ∧
      ∀ spec ∈ specs, ∀ interface ∈ spec.2, scopedContext.wants interface = true → spec ∈ asked := by
  simp only [discoveryOf] at h
  split at h
  · cases h
  · obtain ⟨scope, hscope, hrun⟩ := Option.bind_eq_some_iff.mp h
    obtain ⟨asked, hsub, hprobes, htouched, hasked⟩ := watchRefreshScope_specs hscope
    obtain ⟨found, hfound, rfl⟩ := Option.map_eq_some_iff.mp hrun
    rw [hprobes] at hfound
    refine ⟨scope.1, asked, hsub, ?_, htouched, hasked⟩
    cases hran : runProbes host.availableParallelism scope.1 (asked.map (ProbeSpec.probe answers)) with
    | error error =>
      rw [hran] at hfound
      cases hfound
    | ok run =>
      rw [hran] at hfound
      cases hfound
      rfl

theorem System.finishRefresh_ok {host : Host} {sys : System} {discovery : DiscoveryRunReport}
    {mode : RefreshMode} {report : RuntimeRefreshReport}
    (h : (sys.finishRefresh host discovery mode).1 = .ok report) :
    sys.runtime.running = true ∧ (∃ snapshot, sys.runtime.nextInventory discovery mode = .ok snapshot) ∧
      report.discovery.hasProbeFailures = discovery.hasProbeFailures := by
  cases hc : sys.runtime.prepareRefreshCommit host.layout discovery mode with
  | error error =>
    rw [finishRefresh_of_error hc] at h
    cases h
  | ok committed =>
    obtain ⟨hr, snapshot, hn, -⟩ := Runtime.prepareRefreshCommit_ok hc
    rw [finishRefresh_of_nextInventory hr hn] at h
    cases h
    exact ⟨hr, ⟨snapshot, hn⟩, rfl⟩

theorem System.poll_ok {host : Host} {sys : System} {context : DiscoveryContext}
    {probes : List DiscoveryProbe} {watchEvents : List InventoryWatchEvent}
    {report : RuntimeWatchedRefreshReport}
    (h : (sys.pollWatcherAndRefreshIncremental host context probes (.ok watchEvents)).1 = .ok (some report)) :
    ∃ run, sys.committedRun host (.pollWatcher .incremental context probes (.ok watchEvents)) =
      some (run, .incremental) ∧ report.refresh.discovery.hasProbeFailures = run.hasProbeFailures := by
  simp only [pollWatcherAndRefreshIncremental, pollWatcherWithMode, handleWatchEventsAndRefreshWithMode] at h
  split at h
  · cases h
  · rename_i hne
    split at h
    · cases h
    · rename_i scopedContext scopedProbes hscope
      split at h
      · cases h
      · rename_i run hran
        split at h
        · cases h
        · rename_i watched sys' hwatched
          cases h
          unfold finishWatchRefresh at hwatched
          split at hwatched
          · cases hwatched
          · rename_i refreshed sys'' hrefreshed
            cases hwatched
            obtain ⟨hr, hn, hfail⟩ := finishRefresh_ok (congrArg Prod.fst hrefreshed)
            refine ⟨run, committedRun_eq_some.mpr ⟨?_, hr, hn⟩, hfail⟩
            simp [discoveryOf, hne, hscope, hran, Except.toOption]

abbrev World := String → List DeviceDescriptor

structure WatchedWorld where
  system : System := {}
  world : World := fun _ => []
  unannounced : List InterfaceKind := []
  settled : InterfaceKind → Bool := fun _ => false

inductive WatchAction where
  | change (world : World) (affected : List InterfaceKind)
  | poll (context : DiscoveryContext) (failing : String → Option DiscoveryError)
      (polled : DiscoveryResult (List InventoryWatchEvent))
  | other (op : RuntimeOp)

/-- The poll returned Ok, its discovery had no failing probe and was asked for the interface. -/
def confirms (result : RuntimeResult (Option RuntimeWatchedRefreshReport)) (context : DiscoveryContext)
    (interface : InterfaceKind) : Bool :=
  match result with
  | .ok (some report) => !report.refresh.discovery.hasProbeFailures && context.wants interface
  | _ => false

namespace WatchedWorld

variable (host : Host) (specs : List ProbeSpec)

def Seen (world : World) : Prop :=
  ∀ spec ∈ specs, ∀ device ∈ world spec.1, device.interface ∈ spec.2

def Changes (before after : World) (affected : List InterfaceKind) : Prop :=
  ∀ spec ∈ specs, (before spec.1).filter (fun device => device.interface ∉ affected) =
    (after spec.1).filter (fun device => device.interface ∉ affected)

instance (world : World) : Decidable (Seen specs world) :=
  inferInstanceAs (Decidable (∀ spec ∈ specs, ∀ device ∈ world spec.1, device.interface ∈ spec.2))

instance (before after : World) (affected : List InterfaceKind) : Decidable
    (Changes specs before after affected) :=
  inferInstanceAs (Decidable (∀ spec ∈ specs, _ = _))

def answers (world : World) (failing : String → Option DiscoveryError) : Answers := fun probe =>
  match failing probe with
  | some error => .error error
  | none => .ok (world probe)

def poll (state : WatchedWorld) (context : DiscoveryContext) (failing : String → Option DiscoveryError)
    (polled : DiscoveryResult (List InventoryWatchEvent)) :
    RuntimeResult (Option RuntimeWatchedRefreshReport) × System :=
  state.system.pollWatcherAndRefreshIncremental host context
    (specs.map (ProbeSpec.probe (answers state.world failing))) polled

def step (action : WatchAction) (state : WatchedWorld) : Option WatchedWorld :=
  match action with
  | .change world affected =>
    if Seen specs world ∧ Changes specs state.world world affected then
      some { state with world, unannounced := state.unannounced ++ affected }
    else none
  | .poll context failing (.error error) =>
    some { state with system := (state.poll host specs context failing (.error error)).2 }
  | .poll context failing (.ok watchEvents) =>
    if ∀ interface ∈ state.unannounced, interface ∈ touchedInterfaces watchEvents then
      let (result, system) := state.poll host specs context failing (.ok watchEvents)
      some { state with
        system
        unannounced := []
        settled := fun interface =>
          if interface ∈ touchedInterfaces watchEvents then confirms result context interface
          else state.settled interface }
    else none
  | .other op =>
    if op.isRefresh = false ∧ (op.isShutdown = true → state.system.runtime.inventory.devices = []) then
      some { state with system := state.system.exec host op }
    else none

def Agrees (state : WatchedWorld) (interface : InterfaceKind) : Prop :=
  ∀ device : DeviceDescriptor, device.interface = interface →
    (device ∈ state.system.runtime.inventory.devices ↔ ∃ spec ∈ specs, device ∈ state.world spec.1)

def visible (world : World) (spec : ProbeSpec) (interface : InterfaceKind) : List DeviceDescriptor :=
  (world spec.1).filter (fun device => device.interface = interface)

structure Inv (state : WatchedWorld) : Prop where
  seen : Seen specs state.world
  covers : Covers state.system.runtime.inventory state.system.runtime.probeInventory
  exact_index : Exact state.system.runtime.inventory state.system.runtime.probeInventory
  of_specs : ∀ probe interface id, state.system.runtime.probeInventory.Attributes probe interface id →
    ∃ spec ∈ specs, spec.1 = probe ∧ interface ∈ spec.2
  shows_settled : ∀ interface, state.settled interface = true → interface ∉ state.unannounced →
    ∀ spec ∈ specs, interface ∈ spec.2 → Shows state.system.runtime.inventory
      state.system.runtime.probeInventory (spec.1, interface) (visible state.world spec interface)

variable {host specs}

theorem Inv.agrees {state : WatchedWorld} (h : Inv specs state) {interface : InterfaceKind}
    (hsettled : state.settled interface = true) (hquiet : interface ∉ state.unannounced) :
    state.Agrees specs interface := by
  have hshows := h.shows_settled interface hsettled hquiet
  intro device hi
  subst hi
  constructor
  · intro hd
    obtain ⟨probe, ha⟩ := h.covers device hd
    obtain ⟨spec, hspec, rfl, hlooks⟩ := h.of_specs _ _ _ ha
    have hmem := (hshows spec hspec hlooks device).mp ⟨hd, rfl, ha⟩
    exact ⟨spec, hspec, (List.mem_filter.mp hmem).1⟩
  · rintro ⟨spec, hspec, hd⟩
    have hlooks := h.seen spec hspec device hd
    exact ((hshows spec hspec hlooks device).mpr (List.mem_filter.mpr ⟨hd, by simp⟩)).1

theorem visible_of_changes {before after : World} {affected : List InterfaceKind}
    (h : Changes specs before after affected) {spec : ProbeSpec} (hspec : spec ∈ specs)
    {interface : InterfaceKind} (hi : interface ∉ affected) :
    visible before spec interface = visible after spec interface := by
  have hsub : ∀ devices : List DeviceDescriptor, devices.filter (fun device => device.interface = interface) =
      (devices.filter (fun device => device.interface ∉ affected)).filter
        (fun device => device.interface = interface) := by
    intro devices
    rw [List.filter_filter]
    refine List.filter_congr ?_
    intro device _
    by_cases heq : device.interface = interface
    · simp [heq, hi]
    · simp [heq]
  rw [visible, visible, hsub, h spec hspec, ← hsub]

theorem Inv.change {state : WatchedWorld} (h : Inv specs state) {world : World}
    {affected : List InterfaceKind} (hseen : Seen specs world)
    (hchanges : Changes specs state.world world affected) :
    Inv specs { state with world, unannounced := state.unannounced ++ affected } where
  seen := hseen
  covers := h.covers
  exact_index := h.exact_index
  of_specs := h.of_specs
  shows_settled := by
    intro interface hsettled hquiet spec hspec hlooks
    rw [List.mem_append, not_or] at hquiet
    rw [← visible_of_changes hchanges hspec hquiet.2]
    exact h.shows_settled interface hsettled hquiet.1 spec hspec hlooks

theorem Inv.other {state : WatchedWorld} (h : Inv specs state) {op : RuntimeOp} (hop : op.isRefresh = false)
    (hshutdown : op.isShutdown = true → state.system.runtime.inventory.devices = []) :
    Inv specs { state with system := state.system.exec host op } := by
  by_cases hs : op = .shutdown
  · subst hs
    have hempty : state.system.runtime.inventory.devices = [] := hshutdown rfl
    have hinventory : (state.system.exec host .shutdown).runtime.inventory = state.system.runtime.inventory :=
      System.shutdown_inventory
    have hindex : (state.system.exec host .shutdown).runtime.probeInventory = {} :=
      System.shutdown_probeInventory
    refine ⟨h.seen, ?_, ?_, ?_, ?_⟩
    · intro device hd
      rw [hinventory, hempty] at hd
      cases hd
    · rw [hinventory, hindex]
      exact exact_empty _
    · intro probe interface id ha
      rw [hindex] at ha
      exact absurd ha (ProbeInventoryIndex.not_attributes_empty _ _ _)
    · intro interface hsettled hquiet spec hspec hlooks device
      have hbefore := h.shows_settled interface hsettled hquiet spec hspec hlooks device
      rw [hempty] at hbefore
      rw [hinventory, hindex, hempty]
      exact ⟨fun hd => absurd hd.1 List.not_mem_nil, fun hd => absurd (hbefore.mpr hd).1 List.not_mem_nil⟩
  · obtain ⟨hinventory, hindex⟩ := System.exec_sameIndex host state.system hop hs
    refine ⟨h.seen, ?_, ?_, ?_, ?_⟩
    · rw [hinventory, hindex]
      exact h.covers
    · rw [hinventory, hindex]
      exact h.exact_index
    · rw [hindex]
      exact h.of_specs
    · rw [hinventory, hindex]
      exact h.shows_settled

theorem confirms_eq_true {result : RuntimeResult (Option RuntimeWatchedRefreshReport)}
    {context : DiscoveryContext} {interface : InterfaceKind} (h : confirms result context interface = true) :
    (∃ report, result = .ok (some report) ∧ report.refresh.discovery.hasProbeFailures = false) ∧
      context.wants interface = true := by
  unfold confirms at h
  split at h
  · rename_i report
    rw [Bool.and_eq_true, Bool.not_eq_true'] at h
    exact ⟨⟨report, rfl, h.1⟩, h.2⟩
  · cases h

theorem visible_of_refreshes (hnames : (specs.map Prod.fst).Nodup) {world : World}
    {failing : String → Option DiscoveryError} {context : DiscoveryContext} {asked : List ProbeSpec}
    (hsub : asked.Sublist specs) {availableParallelism : ℕ} {run : DiscoveryRunReport}
    (hran : runProbes availableParallelism context (asked.map (ProbeSpec.probe (answers world failing))) =
      .ok run)
    {spec : ProbeSpec} {interface : InterfaceKind} (hr : run.Refreshes (spec.1, interface))
    (device : DeviceDescriptor) :
    device ∈ run.foundFor (spec.1, interface) ↔ device ∈ visible world spec interface := by
  obtain ⟨other, -, hp, -, devices, ha⟩ := (observed_refreshes_iff hran _).mp hr
  have hdevices : answers world failing spec.1 = .ok (world spec.1) := by
    rw [hp] at ha
    simp only [answers] at ha ⊢
    cases hf : failing spec.1 with
    | some error =>
      rw [hf] at ha
      cases ha
    | none => rfl
  rw [observed_foundFor (hnames.sublist (hsub.map _)) hran hr hdevices, visible, List.mem_filter,
    decide_eq_true_eq]

theorem Inv.committed (hnames : (specs.map Prod.fst).Nodup) {state : WatchedWorld} (h : Inv specs state)
    {context : DiscoveryContext} {failing : String → Option DiscoveryError} {asked : List ProbeSpec}
    (hsub : asked.Sublist specs) {run : DiscoveryRunReport}
    (hran : runProbes host.availableParallelism context
      (asked.map (ProbeSpec.probe (answers state.world failing))) = .ok run)
    {next : InventorySnapshot}
    (hn : state.system.runtime.probeInventory.mergeSnapshot state.system.runtime.inventory run = .ok next)
    {system : System} (hinventory : system.runtime.inventory = next)
    (hindex : system.runtime.probeInventory = state.system.runtime.probeInventory.recordRun run)
    {settled : InterfaceKind → Bool}
    (hsettled : ∀ interface, settled interface = true →
      (state.settled interface = true ∧ interface ∉ state.unannounced) ∨
        ∀ spec ∈ specs, interface ∈ spec.2 → run.Refreshes (spec.1, interface)) :
    Inv specs { state with system, unannounced := [], settled } := by
  have hrun : run.Attributed := observed_attributed (hnames.sublist (hsub.map _)) hran
  have hscoped : run.Scoped := observed_scoped hran
  refine ⟨h.seen, ?_, ?_, ?_, ?_⟩
  · rw [hinventory, hindex]
    exact merge_covers h.covers hrun hn
  · rw [hinventory, hindex]
    exact merge_exact h.exact_index hrun hn
  · intro probe interface id ha
    rw [hindex] at ha
    rcases (ProbeInventoryIndex.recordRun_attributes_iff hrun _ _ _ _).mp ha with hslot | ⟨-, ha⟩
    · obtain ⟨spec, hspec, hp, hi, -⟩ :=
        (observed_refreshes_iff hran _).mp (DiscoveryRunReport.slotOf_refreshes hscoped hslot)
      exact ⟨spec, hsub.subset hspec, hp, ((mem_selectedInterfaces _ _ _).mp hi).1⟩
    · exact h.of_specs _ _ _ ha
  · intro interface hset _ spec hspec hlooks
    rw [hinventory, hindex]
    by_cases hr : run.Refreshes (spec.1, interface)
    · exact (merge_shows_refreshed hrun hn hr).congr (visible_of_refreshes hnames hsub hran hr)
    · rcases hsettled interface hset with ⟨hset, hquiet⟩ | hall
      · exact merge_shows_kept h.exact_index hrun hscoped hn hr
          (h.shows_settled interface hset hquiet spec hspec hlooks)
      · exact absurd (hall spec hspec hlooks) hr

theorem Inv.polled (hnames : (specs.map Prod.fst).Nodup) {state : WatchedWorld} (h : Inv specs state)
    (context : DiscoveryContext) (failing : String → Option DiscoveryError)
    {watchEvents : List InventoryWatchEvent}
    (hannounced : ∀ interface ∈ state.unannounced, interface ∈ touchedInterfaces watchEvents) :
    Inv specs { state with
      system := (state.poll host specs context failing (.ok watchEvents)).2
      unannounced := []
      settled := fun interface =>
        if interface ∈ touchedInterfaces watchEvents then
          confirms (state.poll host specs context failing (.ok watchEvents)).1 context interface
        else state.settled interface } := by
  have hexec : (state.poll host specs context failing (.ok watchEvents)).2 =
      state.system.exec host (.pollWatcher .incremental context
        (specs.map (ProbeSpec.probe (answers state.world failing))) (.ok watchEvents)) := rfl
  cases hc : state.system.committedRun host (.pollWatcher .incremental context
      (specs.map (ProbeSpec.probe (answers state.world failing))) (.ok watchEvents)) with
  | none =>
    -- without a commit the poll has confirmed nothing
    have hconfirms : ∀ interface,
        confirms (state.poll host specs context failing (.ok watchEvents)).1 context interface ≠ true := by
      intro interface hconfirmed
      obtain ⟨⟨report, hok, -⟩, -⟩ := confirms_eq_true hconfirmed
      obtain ⟨run, hrun, -⟩ := System.poll_ok hok
      rw [hc] at hrun
      cases hrun
    rw [hexec, System.exec_uncommitted rfl hc]
    refine ⟨h.seen, h.covers, h.exact_index, h.of_specs, ?_⟩
    intro interface hset _ spec hspec hlooks
    simp only at hset
    split at hset
    · exact absurd hset (hconfirms interface)
    · rename_i hnot
      exact h.shows_settled interface hset (fun hmem => hnot (hannounced interface hmem)) spec hspec hlooks
  | some committed =>
    obtain ⟨run, mode⟩ := committed
    obtain ⟨hd, -, -⟩ := System.committedRun_eq_some.mp hc
    obtain ⟨next, hn, hinventory, hindex⟩ := System.exec_committedRun_index hc
    obtain ⟨scopedContext, asked, hsub, hran, htouched, hasked⟩ := System.discoveryOf_pollWatcher hd
    have hmode : mode = .incremental := System.discoveryOf_pollWatcher_mode hd
    subst hmode
    refine h.committed hnames hsub hran hn hinventory hindex ?_
    intro interface hset
    split at hset
    · rename_i hmem
      right
      obtain ⟨⟨report, hok, hclean⟩, hwants⟩ := confirms_eq_true hset
      obtain ⟨run', hrun', hfail⟩ := System.poll_ok hok
      rw [hc] at hrun'
      cases hrun'
      intro spec hspec hlooks
      have hwants' := htouched interface hmem hwants
      have hspec' := hasked spec hspec interface hlooks hwants'
      exact observed_clean_refreshes hran (hfail ▸ hclean) hspec'
        ((mem_selectedInterfaces _ _ _).mpr ⟨hlooks, hwants'⟩)
    · rename_i hnot
      exact .inl ⟨hset, fun hmem => hnot (hannounced interface hmem)⟩

def init (config : RuntimeConfig) (world : World) : WatchedWorld :=
  { system := { runtime := { config } }, world }

theorem init_inv (config : RuntimeConfig) {world : World} (hseen : Seen specs world) :
    Inv specs (init config world) where
  seen := hseen
  covers := fun _ hd => absurd hd List.not_mem_nil
  exact_index := exact_empty _
  of_specs := fun _ _ _ ha => absurd ha (ProbeInventoryIndex.not_attributes_empty _ _ _)
  shows_settled := fun _ hset => by cases hset

theorem step_inv (hnames : (specs.map Prod.fst).Nodup) (action : WatchAction) (state state' : WatchedWorld)
    (h : Inv specs state) (hs : step host specs action state = some state') : Inv specs state' := by
  cases action with
  | change world affected =>
    simp only [step] at hs
    split at hs
    · rename_i hguard
      cases hs
      exact h.change hguard.1 hguard.2
    · cases hs
  | poll context failing polled =>
    cases polled with
    | error error =>
      cases hs
      exact h
    | ok watchEvents =>
      simp only [step] at hs
      split at hs
      · rename_i hannounced
        cases hs
        exact h.polled hnames context failing hannounced
      · cases hs
  | other op =>
    simp only [step] at hs
    split at hs
    · rename_i hguard
      cases hs
      exact h.other hguard.1 hguard.2
    · cases hs

/-- The inventory agrees with the world on every interface whose last announcement came to a poll that
returned Ok, asked for the interface and had no failing probe, whatever other polls did in between. -/
theorem run_settled_agrees (host : Host) (specs : List ProbeSpec) (hnames : (specs.map Prod.fst).Nodup)
    (config : RuntimeConfig) (world : World) (hseen : Seen specs world) (actions : List WatchAction)
    (state : WatchedWorld) (hrun : run (step host specs) actions (init config world) = some state) :
    ∀ interface, state.settled interface = true → interface ∉ state.unannounced →
      state.Agrees specs interface := by
  have hinv : Inv specs state := run_invariant (step_inv hnames) (init_inv config hseen) hrun
  intro interface hsettled hquiet
  exact hinv.agrees hsettled hquiet

def twoProbes : List ProbeSpec := [("linux-gpio", [.gpio]), ("linux-i2c", [.i2c])]

def lineWorld : World := fun probe =>
  if probe = "linux-gpio" then [gpioLineDescriptor] else []

def announces (interface : InterfaceKind) : InventoryWatchEvent := ⟨"linux-hotplug", [interface], []⟩

theorem run_settled_agrees_line :
    ∃ state, run (step .quiet twoProbes)
        [.change lineWorld [.gpio], .poll {} (fun _ => none) (.ok [announces .gpio])]
        (init {} (fun _ => [])) = some state ∧ state.settled .gpio = true ∧ state.Agrees twoProbes .gpio :=
  ⟨_, rfl, by decide, run_settled_agrees .quiet twoProbes (by decide) {} (fun _ => []) (by decide)
    [.change lineWorld [.gpio], .poll {} (fun _ => none) (.ok [announces .gpio])] _ rfl .gpio (by decide)
    (by decide)⟩

def busyGpio (probe : String) : Option DiscoveryError :=
  if probe = "linux-gpio" then some (.probeFailed probe "busy") else none

theorem degraded_poll_loses_change :
    ∃ before after, run (step .quiet twoProbes)
        [.change lineWorld [.gpio], .poll {} busyGpio (.ok [announces .gpio])] (init {} (fun _ => [])) =
          some before ∧
      step .quiet twoProbes (.poll {} (fun _ => none) (.ok [announces .i2c])) before = some after ∧
      confirms (before.poll .quiet twoProbes {} (fun _ => none) (.ok [announces .i2c])).1 {} .i2c = true ∧
      ¬ after.Agrees twoProbes .gpio := by
  refine ⟨_, _, rfl, rfl, by decide, ?_⟩
  intro h
  have hline := (h gpioLineDescriptor rfl).mpr
    ⟨("linux-gpio", [.gpio]), by decide, by decide⟩
  revert hline
  decide

end WatchedWorld

end Lemnos
